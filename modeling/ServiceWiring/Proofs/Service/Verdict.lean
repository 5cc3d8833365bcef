import ServiceWiring.Service.Build

/-!
# What the outcome for a class depends on

A class with a documentation block is judged by its first service annotation, by its name and by
the public methods that it offers. Nothing else that is declared of the class or said about it
makes a difference: neither its kind, nor its constructors, destructors and hidden methods, nor
any other annotation, be it a second service annotation that could not be read.

The main statement says this of two classes with different parsers, and it says when each of
three reasons to give up a class applies. A payload that cannot be read comes before too many
public methods, and these come before an environment that the service is not meant for.
-/

namespace ServiceWiring

/-- Whether an annotation is the first service annotation among some annotations. -/
def IsFirstService (annotations : List DocEntry) (entry : DocEntry) : Prop :=
  ∃ earlier later, annotations = earlier ++ entry :: later ∧ entry.name = "Service" ∧
    ∀ other ∈ earlier, other.name ≠ "Service"

/-- The names of the methods that a class offers to its users: the public ones that are neither
constructors nor destructors, in the order of their declarations. -/
def ClassDefinition.offers (definition : ClassDefinition) : List String :=
  (definition.methods.filter fun method =>
    method.visibility = .publicAccess ∧ method.role = .regular).map MethodSignature.name

/-- What two classes and their annotations have in common when they are judged alike. -/
structure JudgedAlike (definition other : ClassDefinition)
    (annotations others : List DocEntry) : Prop where
  sameClass : other.id = definition.id
  sameDocumented : other.docComment.isSome = definition.docComment.isSome
  sameOffers : other.offers = definition.offers
  sameService : ∀ entry, IsFirstService others entry ↔ IsFirstService annotations entry

/-- The outcome for a class with a documentation block, from the payload of its first service
annotation if there is one. -/
def verdict (environment : String) (classId : ClassIdentifier) (offers : List String) :
    Option Json → Except DiscoveryError BuildOutcome
  | none => .ok .notService
  | some payload =>
    match DeclaredService.ofPayload payload with
    | .error mismatch => .error (.metadata (.payload classId mismatch))
    | .ok declared =>
      if declared.singleMethod = true ∧ 2 ≤ offers.length then
        .error (.validation ⟨classId, offers⟩)
      else if declared.environments = [] ∨ environment ∈ declared.environments then
        .ok (.registered (declared.descriptor classId))
      else .ok .environmentExcluded

/-! ## The first service annotation -/

/-- The first service annotation is the one that is looked for. -/
theorem isFirstService_iff {annotations : List DocEntry} {entry : DocEntry} :
    IsFirstService annotations entry ↔ annotations.find? DocEntry.isService = some entry := by
  have isService : ∀ entry : DocEntry, entry.isService = true ↔ entry.name = "Service" := by
    intro entry
    rw [DocEntry.isService, beq_iff_eq, serviceName]
  rw [List.find?_eq_some_iff_append]
  simp only [Bool.not_eq_true', ← Bool.not_eq_true, isService]
  constructor
  · rintro ⟨earlier, later, split, named, others⟩
    exact ⟨named, earlier, later, split, others⟩
  · rintro ⟨named, earlier, later, split, others⟩
    exact ⟨earlier, later, split, named, others⟩

/-- Annotations with the same first service annotation are searched with the same result. -/
theorem find?_isService_eq {annotations others : List DocEntry}
    (same : ∀ entry, IsFirstService others entry ↔ IsFirstService annotations entry) :
    others.find? DocEntry.isService = annotations.find? DocEntry.isService := by
  apply Option.ext
  intro entry
  rw [← isFirstService_iff, ← isFirstService_iff]
  exact same entry

/-! ## The outcome -/

/-- The methods that a class offers are its public methods by name. -/
theorem ClassDefinition.offers_eq (definition : ClassDefinition) :
    definition.offers = definition.publicMethods.map MethodSignature.name := by
  rw [offers, publicMethods]
  congr 2
  funext method
  simp [MethodSignature.isPublicApi, Bool.beq_eq_decide_eq]

/-- A class violates the rule of one method if it offers two or more. -/
theorem singleMethodViolation?_eq (definition : ClassDefinition) :
    singleMethodViolation? definition =
      if 2 ≤ definition.offers.length then some ⟨definition.id, definition.offers⟩ else none := by
  rw [singleMethodViolation?, definition.offers_eq, List.length_map]
  rfl

/-- A service applies to all environments if it names none, and otherwise to those it names. -/
theorem appliesTo_descriptor_iff (declared : DeclaredService) (classId : ClassIdentifier)
    (environment : String) :
    (declared.descriptor classId).appliesTo environment = true ↔
      declared.environments = [] ∨ environment ∈ declared.environments := by
  have named : ServiceDescriptor.nameSet declared.environments = [] ↔
      declared.environments = [] := by
    simp only [List.eq_nil_iff_forall_not_mem, ServiceDescriptor.mem_nameSet]
  rw [ServiceDescriptor.appliesTo, DeclaredService.descriptor, Bool.or_eq_true,
    List.isEmpty_iff, List.contains_iff_mem, ServiceDescriptor.mem_nameSet, named]

/-- With annotations, the verdict is that on the payload of the first service annotation. -/
theorem buildAnnotated_eq_verdict (environment : String) (definition : ClassDefinition)
    (annotations : List DocEntry) :
    buildAnnotated environment definition annotations =
      verdict environment definition.id definition.offers
        ((annotations.find? DocEntry.isService).map DocEntry.payload) := by
  rw [buildAnnotated]
  cases annotations.find? DocEntry.isService with
  | none => rfl
  | some entry =>
    dsimp only [Option.map_some]
    rw [DeclaredService.read, verdict]
    cases DeclaredService.ofPayload entry.payload with
    | error mismatch => rfl
    | ok declared =>
      have constrained : (declared.descriptor definition.id).singleMethod =
          declared.singleMethod := rfl
      dsimp only [Except.mapError]
      rw [constrained, singleMethodViolation?_eq]
      simp only [← appliesTo_descriptor_iff declared definition.id environment]
      by_cases single : declared.singleMethod = true <;>
        by_cases several : 2 ≤ definition.offers.length <;> simp [single, several]

/-- The outcome for a class whose block is read is the verdict, if there is a block. -/
theorem buildDescriptor_eq_verdict (environment : String) {parser : MetadataParser}
    {definition : ClassDefinition} {annotations : List DocEntry}
    (parsed : ∀ block, definition.docComment = some block →
      parser definition.id block = .ok annotations) :
    buildDescriptor parser environment definition =
      if definition.docComment.isSome then
        verdict environment definition.id definition.offers
          ((annotations.find? DocEntry.isService).map DocEntry.payload)
      else .ok .undocumented := by
  rw [buildDescriptor]
  cases documented : definition.docComment with
  | none => rfl
  | some block =>
    simp only [parsed block documented, Option.isSome_some, if_true]
    exact buildAnnotated_eq_verdict ..

/-! ## The three reasons -/

section Reasons

variable (environment : String) (classId : ClassIdentifier) (offers : List String)

/-- What holds of a declaration that some payload is read as holds of the one that it is read
as. -/
theorem exists_read_iff {payload : Json} {declared : DeclaredService}
    (read : DeclaredService.ofPayload payload = .ok declared) (holds : DeclaredService → Prop) :
    (∃ given found, some payload = some given ∧ DeclaredService.ofPayload given = .ok found ∧
      holds found) ↔ holds declared := by
  simp only [Option.some.injEq, exists_and_left, exists_eq_left', read, Except.ok.injEq]

/-- Too many methods are the reason exactly when a payload that can be read forbids them. -/
theorem verdict_eq_validation_iff (payload? : Option Json) (violation : SingleMethodViolation) :
    verdict environment classId offers payload? = .error (.validation violation) ↔
      ∃ payload declared, payload? = some payload ∧
        DeclaredService.ofPayload payload = .ok declared ∧ declared.singleMethod = true ∧
        2 ≤ offers.length ∧ violation = ⟨classId, offers⟩ := by
  cases payload? with
  | none => simp [verdict]
  | some payload =>
    rw [verdict]
    cases read : DeclaredService.ofPayload payload with
    | error mismatch => simp [read]
    | ok declared =>
      rw [exists_read_iff read fun declared => declared.singleMethod = true ∧
        2 ≤ offers.length ∧ violation = ⟨classId, offers⟩, ← and_assoc]
      dsimp only
      split
      · rename_i violated
        simp only [violated, and_self, true_and, Except.error.injEq,
          DiscoveryError.validation.injEq]
        exact eq_comm
      · rename_i fits
        have spared : ¬((declared.singleMethod = true ∧ 2 ≤ offers.length) ∧
            violation = ⟨classId, offers⟩) := fun reasons => fits reasons.1
        split <;> exact iff_of_false nofun spared

/-- A payload is the reason exactly when it cannot be read. -/
theorem verdict_eq_metadata_iff (payload? : Option Json) (error : MetadataError) :
    verdict environment classId offers payload? = .error (.metadata error) ↔
      ∃ payload mismatch, payload? = some payload ∧
        DeclaredService.ofPayload payload = .error mismatch ∧
        error = .payload classId mismatch := by
  cases payload? with
  | none => simp [verdict]
  | some payload =>
    rw [verdict]
    cases read : DeclaredService.ofPayload payload with
    | error mismatch => simp [read, eq_comm (a := error)]
    | ok declared =>
      dsimp only
      split
      · simp [read]
      · split <;> simp [read]

/-- The environment is the reason exactly when there is no other and the service is meant for
other environments only. -/
theorem verdict_eq_excluded_iff (payload? : Option Json) :
    verdict environment classId offers payload? = .ok .environmentExcluded ↔
      ∃ payload declared, payload? = some payload ∧
        DeclaredService.ofPayload payload = .ok declared ∧
        ¬(declared.singleMethod = true ∧ 2 ≤ offers.length) ∧
        declared.environments ≠ [] ∧ environment ∉ declared.environments := by
  cases payload? with
  | none => simp [verdict]
  | some payload =>
    rw [verdict]
    cases read : DeclaredService.ofPayload payload with
    | error mismatch => simp [read]
    | ok declared =>
      rw [exists_read_iff read fun declared =>
        ¬(declared.singleMethod = true ∧ 2 ≤ offers.length) ∧
          declared.environments ≠ [] ∧ environment ∉ declared.environments]
      dsimp only
      split
      · rename_i violated
        exact iff_of_false nofun fun reasons => reasons.1 violated
      · rename_i fits
        split
        · rename_i meant
          exact iff_of_false nofun fun reasons => not_or.mpr reasons.2 meant
        · rename_i foreign
          exact iff_of_true rfl ⟨fits, not_or.mp foreign⟩

end Reasons

/-- The outcome for a class, whatever annotations its parser finds, is that of every class of
the same name that is documented or not like it, offers the same methods and has the same first
service annotation. It is a violation exactly when that annotation can be read and allows one
method, and the class offers more; these are listed in the order of their declarations. An
annotation that cannot be read is an error whatever the class offers and whatever the
environment is, and a service is only left out of an environment where there is no error.

Proof: the outcome is a verdict on the class name, the offered methods and the payload of the
first service annotation, which is given nothing else. -/
theorem buildDescriptor_reads_first_service (environment : String) {parser : MetadataParser}
    {definition : ClassDefinition} {annotations : List DocEntry}
    (parsed : ∀ block, definition.docComment = some block →
      parser definition.id block = .ok annotations) :
    (∀ (otherParser : MetadataParser) (other : ClassDefinition) (others : List DocEntry),
      (∀ block, other.docComment = some block → otherParser other.id block = .ok others) →
      JudgedAlike definition other annotations others →
      buildDescriptor otherParser environment other =
        buildDescriptor parser environment definition) ∧
    (∀ violation, buildDescriptor parser environment definition = .error (.validation violation) ↔
      definition.docComment.isSome = true ∧ ∃ entry declared,
        IsFirstService annotations entry ∧
        DeclaredService.ofPayload entry.payload = .ok declared ∧ declared.singleMethod = true ∧
        2 ≤ definition.offers.length ∧ violation = ⟨definition.id, definition.offers⟩) ∧
    (∀ error, buildDescriptor parser environment definition = .error (.metadata error) ↔
      definition.docComment.isSome = true ∧ ∃ entry mismatch,
        IsFirstService annotations entry ∧
        DeclaredService.ofPayload entry.payload = .error mismatch ∧
        error = .payload definition.id mismatch) ∧
    (buildDescriptor parser environment definition = .ok .environmentExcluded ↔
      definition.docComment.isSome = true ∧ ∃ entry declared,
        IsFirstService annotations entry ∧
        DeclaredService.ofPayload entry.payload = .ok declared ∧
        ¬(declared.singleMethod = true ∧ 2 ≤ definition.offers.length) ∧
        declared.environments ≠ [] ∧ environment ∉ declared.environments) := by
  have outcome := buildDescriptor_eq_verdict environment parsed
  refine ⟨?_, ?_⟩
  · intro otherParser other others otherParsed alike
    rw [outcome, buildDescriptor_eq_verdict environment otherParsed, alike.sameClass,
      alike.sameDocumented, alike.sameOffers, find?_isService_eq alike.sameService]
  · rw [outcome]
    simp only [isFirstService_iff]
    cases definition.docComment.isSome with
    | false => simp
    | true =>
      simp only [if_true, true_and, verdict_eq_validation_iff, verdict_eq_metadata_iff,
        verdict_eq_excluded_iff, Option.map_eq_some_iff]
      refine ⟨fun violation => ?_, fun error => ?_, ?_⟩
      all_goals
        constructor
        · rintro ⟨_, result, ⟨entry, first, rfl⟩, reasons⟩
          exact ⟨entry, result, first, reasons⟩
        · rintro ⟨entry, result, first, reasons⟩
          exact ⟨_, result, ⟨entry, first, rfl⟩, reasons⟩

/-- A handler with two public methods, a constructor and a private method. -/
def handlerDefinition : ClassDefinition where
  id := "App\\Handler"
  kind := .classKind
  docComment := some ""
  methods := [⟨"__construct", .publicAccess, .constructorRole⟩,
    ⟨"handle", .publicAccess, .regular⟩, ⟨"format", .privateAccess, .regular⟩,
    ⟨"retry", .publicAccess, .regular⟩]

/-- A service that allows one method and is meant for another environment. -/
def handlerService : DocEntry :=
  ⟨"Service", .obj [("singleMethodConstraint", .bool true), ("envs", .arr [.str "prod"])]⟩

/-- The service between a free annotation and a service annotation that cannot be read. -/
def handlerAnnotations : List DocEntry :=
  [⟨"deprecated", .null⟩, handlerService, ⟨"Service", .obj [("priorty", .int 1)]⟩]

/-- The handler violates the rule of one method in every environment, and so does an enumeration
of its name and its public methods, without anything else that is said about it. -/
theorem buildDescriptor_reads_first_service_handler :
    buildDescriptor (.always handlerAnnotations) "dev" handlerDefinition =
        .error (.validation ⟨"App\\Handler", ["handle", "retry"]⟩) ∧
      buildDescriptor (.always [handlerService]) "dev"
          ⟨"App\\Handler", .enumKind, some "/** */",
            [⟨"handle", .publicAccess, .regular⟩, ⟨"retry", .publicAccess, .regular⟩]⟩ =
        .error (.validation ⟨"App\\Handler", ["handle", "retry"]⟩) := by
  have first : ∀ entry, IsFirstService handlerAnnotations entry ↔ handlerService = entry := by
    intro entry
    rw [isFirstService_iff]
    exact Option.some_inj
  have parsed : ∀ block, handlerDefinition.docComment = some block →
      MetadataParser.always handlerAnnotations handlerDefinition.id block =
        .ok handlerAnnotations := fun _ _ => rfl
  obtain ⟨alike, violates, -⟩ := buildDescriptor_reads_first_service "dev" parsed
  have violated := (violates ⟨"App\\Handler", ["handle", "retry"]⟩).mpr
    ⟨rfl, handlerService, _, (first _).mpr rfl, rfl, rfl, by decide, by decide⟩
  refine ⟨violated, ?_⟩
  rw [← violated]
  refine alike (.always [handlerService]) _ [handlerService] (fun _ _ => rfl)
    ⟨rfl, rfl, by decide, ?_⟩
  intro entry
  rw [first, isFirstService_iff]
  exact Option.some_inj

end ServiceWiring
