import Mathlib.Data.List.Basic
import ServiceWiring.Proofs.Discovery.Services

/-!
# The environment only filters

Whether a class is a service, and whether it is an error, is judged without looking at
the environment; the environment only decides afterwards which services are kept. So
collections in different environments fail together and with the same error, and where
they succeed each keeps its part of one list, and counts the rest of it.

The proof compares a collection in an environment with one that keeps every service.
After each finding the former is the latter, filtered: the invariant holds of all that
a collection consists of, its list of seen classes and its other numbers included.
-/

namespace ServiceWiring

/-- The outcome for a class with annotations when the environment is left aside. -/
def judgeAnnotated (definition : ClassDefinition) (annotations : List DocEntry) :
    Except DiscoveryError BuildOutcome :=
  match annotations.find? DocEntry.isService with
  | none => .ok .notService
  | some entry =>
    match DeclaredService.read definition.id entry.payload with
    | .error error => .error (.metadata error)
    | .ok declared =>
      match if declared.singleMethod then singleMethodViolation? definition else none with
      | some violation => .error (.validation violation)
      | none => .ok (.registered (declared.descriptor definition.id))

/-- The outcome for a class when the environment is left aside: every service counts as
registered. -/
def judge (parser : MetadataParser) (definition : ClassDefinition) :
    Except DiscoveryError BuildOutcome :=
  match definition.docComment with
  | none => .ok .undocumented
  | some block =>
    match parser definition.id block with
    | .error error => .error (.metadata error)
    | .ok annotations => judgeAnnotated definition annotations

/-- Judging excludes nothing. -/
theorem judge_ne_excluded (parser : MetadataParser) (definition : ClassDefinition) :
    judge parser definition ≠ .ok .environmentExcluded := by
  unfold judge
  split
  · simp
  · split
    · simp
    · unfold judgeAnnotated
      split
      · simp
      · split
        · simp
        · split <;> simp

/-- What an environment makes of an outcome: it excludes services for other ones. -/
def BuildOutcome.gate (environment : String) : BuildOutcome → BuildOutcome
  | .registered descriptor =>
    if descriptor.appliesTo environment then .registered descriptor else .environmentExcluded
  | other => other

/-- The environment is looked at last, and only to exclude a service. -/
theorem buildDescriptor_eq_gate (parser : MetadataParser) (environment : String)
    (definition : ClassDefinition) :
    buildDescriptor parser environment definition =
      (judge parser definition).map (BuildOutcome.gate environment) := by
  unfold buildDescriptor judge
  cases definition.docComment with
  | none => rfl
  | some block =>
    dsimp only
    cases parser definition.id block with
    | error error => rfl
    | ok annotations =>
      dsimp only
      unfold buildAnnotated judgeAnnotated
      cases annotations.find? DocEntry.isService with
      | none => rfl
      | some entry =>
        dsimp only
        cases DeclaredService.read definition.id entry.payload with
        | error error => rfl
        | ok declared =>
          have constrained : (declared.descriptor definition.id).singleMethod =
              declared.singleMethod := rfl
          dsimp only
          rw [constrained]
          cases (if declared.singleMethod then singleMethodViolation? definition else none) with
          | some violation => rfl
          | none =>
            dsimp only [Except.map, BuildOutcome.gate]
            split <;> rfl

namespace Collection

/-- The descriptors that an environment excludes. -/
def excluded (environment : String) (descriptors : List ServiceDescriptor) :
    List ServiceDescriptor :=
  descriptors.filter fun descriptor => !descriptor.appliesTo environment

/-- A collection as it is in an environment: without the descriptors for other ones,
which are counted. -/
def gate (environment : String) (collection : Collection) : Collection :=
  { collection with
    descriptors := collection.descriptors.filter (ServiceDescriptor.appliesTo environment)
    stats := { collection.stats with
      environmentExcluded := collection.stats.environmentExcluded +
        (excluded environment collection.descriptors).length } }

/-- Recording what an environment makes of an outcome keeps a collection filtered. The
environment excludes nothing else, so judging leaves no outcome excluded already. -/
theorem record_gate (environment : String) (outcome : BuildOutcome) (collection : Collection) :
    record (outcome.gate environment) (collection.gate environment) =
      (collection.record outcome).gate environment := by
  cases outcome with
  | registered descriptor =>
    by_cases applies : descriptor.appliesTo environment = true
    · simp [BuildOutcome.gate, applies, record, gate, excluded]
    · simp [BuildOutcome.gate, applies, record, gate, excluded]
      omega
  | undocumented => rfl
  | notService => rfl
  | environmentExcluded =>
    simp only [BuildOutcome.gate, record, gate]
    congr 2
    omega

/-- Taking up a finding in an environment takes it up without one, and filters. -/
theorem take_gate (table : ClassTable) (parser : MetadataParser) (environment : String)
    (finding : Finding) (collection : Collection) :
    take table (buildDescriptor parser environment) finding (collection.gate environment) =
      ((take table (judge parser) finding collection).1,
        (take table (judge parser) finding collection).2.gate environment) := by
  cases finding with
  | vendored => rfl
  | scanned => rfl
  | fault error => rfl
  | candidate id =>
    simp only [take, visit]
    cases loaded : table.loadable id with
    | none => rfl
    | some definition =>
      by_cases known : id ∈ collection.seen
      · simp [known, gate]
      · have unknown : id ∉ (collection.gate environment).seen := known
        simp only [List.contains_eq_mem, known, unknown, decide_false, Bool.false_eq_true,
          if_false]
        rw [buildDescriptor_eq_gate]
        cases judge parser definition with
        | error error => rfl
        | ok outcome =>
          simp only [Except.map]
          exact congrArg (Prod.mk (Except.ok ())) (record_gate environment outcome
            { collection with
              seen := id :: collection.seen
              stats := { collection.stats with
                candidateFiles := collection.stats.candidateFiles + 1 } })

/-- Taking up findings in an environment takes them up without one, and filters. -/
theorem takeAll_gate (table : ClassTable) (parser : MetadataParser) (environment : String)
    (findings : List Finding) (collection : Collection) :
    takeAll table (buildDescriptor parser environment) findings (collection.gate environment) =
      ((takeAll table (judge parser) findings collection).1,
        (takeAll table (judge parser) findings collection).2.gate environment) := by
  induction findings generalizing collection with
  | nil => rfl
  | cons finding findings inductionHypothesis =>
    rw [takeAll, take_gate, takeAll]
    cases taken : take table (judge parser) finding collection with
    | mk result after =>
      cases result with
      | error error => rfl
      | ok _ => exact inductionHypothesis after

/-- Without an environment a finding excludes nothing. -/
theorem take_judge_excluded (table : ClassTable) (parser : MetadataParser) (finding : Finding)
    (collection : Collection) :
    (take table (judge parser) finding collection).2.stats.environmentExcluded =
      collection.stats.environmentExcluded := by
  cases finding with
  | vendored => rfl
  | scanned => rfl
  | fault error => rfl
  | candidate id =>
    simp only [take, visit]
    split
    · rfl
    · split
      · rfl
      · split
        · rfl
        · rename_i outcome judged
          cases outcome with
          | registered descriptor => rfl
          | undocumented => rfl
          | notService => rfl
          | environmentExcluded => exact absurd judged (judge_ne_excluded parser _)

/-- Without an environment findings exclude nothing. -/
theorem takeAll_judge_excluded (table : ClassTable) (parser : MetadataParser)
    (findings : List Finding) (collection : Collection) :
    (takeAll table (judge parser) findings collection).2.stats.environmentExcluded =
      collection.stats.environmentExcluded := by
  induction findings generalizing collection with
  | nil => rfl
  | cons finding findings inductionHypothesis =>
    have kept := take_judge_excluded table parser finding collection
    rw [takeAll]
    cases taken : take table (judge parser) finding collection with
    | mk result after =>
      rw [taken] at kept
      cases result with
      | error error => exact kept
      | ok _ => exact (inductionHypothesis after).trans kept

end Collection

namespace Pipeline

/-- What is collected in an environment, from what is collected without one. -/
theorem collect_gate (naming : Naming) (table : ClassTable) (parser : MetadataParser)
    (source : CandidateSource) (modules : List Module) (stats : Stats) (environment : String)
    {result : Except DiscoveryError Unit} {collection : Collection}
    (judged : Collection.takeAll table (judge parser) (findings naming source modules)
      ⟨[], [], stats⟩ = (result, collection)) :
    collect ⟨naming, table, parser, environment⟩ source modules stats =
      (result.map fun () =>
          collection.descriptors.filter (ServiceDescriptor.appliesTo environment),
        (collection.gate environment).stats) := by
  have taken := Collection.takeAll_gate table parser environment
    (findings naming source modules) ⟨[], [], stats⟩
  have start : Collection.gate environment ⟨[], [], stats⟩ = ⟨[], [], stats⟩ := rfl
  rw [start, judged] at taken
  rw [collect, taken]
  rfl

/-- A class that is an error by itself ends every collection that a candidate leads to
it in, whatever the environment. -/
theorem collect_of_judged_error {naming : Naming} {table : ClassTable} {parser : MetadataParser}
    {source : CandidateSource} {modules : List Module} {environment : String}
    {id : ClassIdentifier} {definition : ClassDefinition} {error : DiscoveryError}
    (candidate : id ∈ candidateClasses ⟨naming, table, parser, environment⟩ source modules)
    (loaded : table.loadable id = some definition)
    (judged : judge parser definition = .error error) (stats : Stats) :
    ∃ first, (collect ⟨naming, table, parser, environment⟩ source modules stats).1 =
      .error first := by
  have broken : table.failure? (buildDescriptor parser environment) id = some error := by
    simp [ClassTable.failure?, loaded, buildDescriptor_eq_gate, judged, Except.map]
  have member : error ∈ failures ⟨naming, table, parser, environment⟩ source modules := by
    simp only [candidateClasses, List.mem_flatMap, List.mem_filterMap] at candidate
    obtain ⟨module, kept, found, listed, led⟩ := candidate
    simp only [failures, List.mem_flatMap, List.mem_filterMap]
    refine ⟨module, kept, found, listed, ?_⟩
    cases found with
    | error _ => simp at led
    | ok file =>
      simp only [Option.some.injEq] at led
      simp only [led]
      exact broken
  obtain ⟨first, some⟩ := List.exists_mem_of_ne_nil _ (List.ne_nil_of_mem member)
  rw [collect_result]
  cases failed : failures ⟨naming, table, parser, environment⟩ source modules with
  | nil => simp [failed] at some
  | cons head _ => exact ⟨head, rfl⟩

/-- A collection fails in every environment or in none, with the same error. Otherwise
there is one list of descriptors and one set of numbers such that every environment
keeps the descriptors meant for it, in the order of the list, counts the others as
excluded, and agrees on all other numbers. A class that violates its single-method
constraint ends the collection in every environment, also where it would be excluded. -/
theorem collect_environment_only_filters (naming : Naming) (table : ClassTable)
    (parser : MetadataParser) (source : CandidateSource) (modules : List Module)
    (stats : Stats) :
    ((∃ error, ∀ environment,
        (collect ⟨naming, table, parser, environment⟩ source modules stats).1 = .error error) ∨
      ∃ (descriptors : List ServiceDescriptor) (others : Stats), ∀ environment,
        collect ⟨naming, table, parser, environment⟩ source modules stats =
          (.ok (descriptors.filter fun descriptor =>
              descriptor.environments = [] ∨ environment ∈ descriptor.environments),
            { others with
              environmentExcluded := stats.environmentExcluded +
                (descriptors.filter fun descriptor =>
                  ¬(descriptor.environments = [] ∨
                    environment ∈ descriptor.environments)).length })) ∧
    (∀ environment id definition violation,
      id ∈ candidateClasses ⟨naming, table, parser, environment⟩ source modules →
      table.loadable id = some definition →
      judge parser definition = .error (.validation violation) →
      ∃ error, (collect ⟨naming, table, parser, environment⟩ source modules stats).1 =
        .error error) := by
  constructor
  · obtain ⟨result, collection, judged⟩ :
        ∃ result collection, Collection.takeAll table (judge parser)
          (findings naming source modules) ⟨[], [], stats⟩ = (result, collection) :=
      ⟨_, _, rfl⟩
    cases result with
    | error error =>
      refine .inl ⟨error, fun environment => ?_⟩
      rw [collect_gate naming table parser source modules stats environment judged]
      rfl
    | ok _ =>
      refine .inr ⟨collection.descriptors, collection.stats, fun environment => ?_⟩
      have kept := Collection.takeAll_judge_excluded table parser
        (findings naming source modules) ⟨[], [], stats⟩
      rw [judged] at kept
      dsimp only at kept
      have applies : ServiceDescriptor.appliesTo environment = fun descriptor =>
          decide (descriptor.environments = [] ∨ environment ∈ descriptor.environments) := by
        funext descriptor
        unfold ServiceDescriptor.appliesTo
        cases descriptor.environments <;> simp
      rw [collect_gate naming table parser source modules stats environment judged]
      simp only [Except.map, Collection.gate, Collection.excluded, kept, applies, decide_not]
  · intro environment id definition violation candidate loaded judged
    exact collect_of_judged_error candidate loaded judged stats

/-- A clock with two public methods. -/
def twoHandedClock : ClassDefinition :=
  ⟨"App\\Clock", .classKind, some "",
    [⟨"now", .publicAccess, .regular⟩, ⟨"set", .publicAccess, .regular⟩]⟩

/-- A mailer, a logger and the clock. -/
def productionTable : ClassTable :=
  .ofList [⟨"App\\Mailer", .classKind, some "", []⟩, ⟨"App\\Logger", .classKind, some "", []⟩,
    twoHandedClock]

/-- The mailer and the clock are for production, and the clock may have one public method. -/
def productionParser : MetadataParser := fun id _ =>
  .ok [⟨serviceName, .obj
    (if id = "App\\Mailer" then [("envs", .arr [.str "prod"])]
    else if id = "App\\Clock" then
      [("envs", .arr [.str "prod"]), ("singleMethodConstraint", .bool true)]
    else [])⟩]

/-- Some files in every module. -/
def productionSource (names : List String) : CandidateSource where
  skips _ := false
  candidates module := names.map fun name : String => .ok ⟨module.path, name⟩

/-- What is collected of some files in an environment. -/
def productionServices (names : List String) (environment : String) :
    Except DiscoveryError (List ServiceDescriptor) × Stats :=
  collect ⟨.standard, productionTable, productionParser, environment⟩ (productionSource names)
    [⟨"src", "App"⟩] .zero

/-- The mailer is collected in production and counted elsewhere. The clock ends a collection in
every environment, also where it would be excluded. -/
theorem collect_environment_only_filters_production :
    (∃ (descriptors : List ServiceDescriptor) (others : Stats), ∀ environment,
      productionServices ["Mailer.php", "Logger.php"] environment =
        (.ok (descriptors.filter fun descriptor =>
            descriptor.environments = [] ∨ environment ∈ descriptor.environments),
          { others with
            environmentExcluded := 0 +
              (descriptors.filter fun descriptor =>
                ¬(descriptor.environments = [] ∨
                  environment ∈ descriptor.environments)).length })) ∧
    productionServices ["Mailer.php", "Logger.php"] "prod" =
      (.ok [{ ServiceDescriptor.ofClass "App\\Mailer" with environments := ["prod"] },
        .ofClass "App\\Logger"], ⟨1, 0, 2, 0, 0, 0, 0, 0⟩) ∧
    productionServices ["Mailer.php", "Logger.php"] "dev" =
      (.ok [.ofClass "App\\Logger"], ⟨1, 0, 2, 0, 0, 0, 1, 0⟩) ∧
    ∀ environment, ∃ error,
      (productionServices ["Mailer.php", "Clock.php"] environment).1 = .error error := by
  have production : productionServices ["Mailer.php", "Logger.php"] "prod" =
      (.ok [{ ServiceDescriptor.ofClass "App\\Mailer" with environments := ["prod"] },
        .ofClass "App\\Logger"], ⟨1, 0, 2, 0, 0, 0, 0, 0⟩) := by decide +kernel
  refine ⟨?_, production, by decide +kernel, fun environment => ?_⟩
  · obtain ⟨error, failed⟩ | gated := (collect_environment_only_filters .standard
      productionTable productionParser (productionSource ["Mailer.php", "Logger.php"])
      [⟨"src", "App"⟩] .zero).1
    · have contradiction := (congrArg Prod.fst production).symm.trans (failed "prod")
      cases contradiction
    · exact gated
  · -- The candidates are those of any environment.
    have listed : "App\\Clock" ∈ candidateClasses
        ⟨.standard, productionTable, productionParser, ""⟩
        (productionSource ["Mailer.php", "Clock.php"]) [⟨"src", "App"⟩] := by decide +kernel
    have loaded : productionTable.loadable "App\\Clock" = some twoHandedClock := by decide +kernel
    have judged : judge productionParser twoHandedClock =
        .error (.validation ⟨"App\\Clock", ["now", "set"]⟩) := by decide +kernel
    exact (collect_environment_only_filters .standard productionTable productionParser
      (productionSource ["Mailer.php", "Clock.php"]) [⟨"src", "App"⟩] .zero).2 environment _ _ _
      listed loaded judged

end Pipeline

end ServiceWiring
