import Mathlib.Data.List.Forall2
import ServiceWiring.Proofs.Argument.Resolution
import ServiceWiring.Proofs.Service.Declared
import ServiceWiring.Service.Build
import ServiceWiring.Service.Directive

/-!
# Where the parts of a directive come from

A directive is made of the payload of a service annotation in three steps: the annotation is
read, made the descriptor of a class, and resolved. The main theorem names for every part of
the directive the value of the payload it comes from, and what it is where the payload has no
such value. Only the arguments and the factory are changed on the way, and only by
resolution.

As nothing else of a payload gets lost, two payloads that are registered as one directive
declare the same values, however they spell their tags and calls. They may differ in what a
directive does not have: the priority, the environments, and the limit to one method.
-/

namespace ServiceWiring

namespace DeclaredService

/-- The value that a payload gives under a name, where `null` counts as no value. -/
def present? (name : String) (payload : Json) : Option Json :=
  (given? name payload).filter (· ≠ .null)

/-- A value declares a tag: by its name alone, or by an object, whose entries beside the name
are the attributes. -/
inductive DeclaresTag : Json → Tag → Prop
  | bare (name : String) : DeclaresTag (.str name) ⟨name, []⟩
  | detailed {entries : List (String × Json)} {name : String}
      (named : Keyed.get? "name" entries = some (.str name)) :
      DeclaresTag (.obj entries) ⟨name, entries.filter fun (key, _) => key ≠ "name"⟩

/-- A value declares a method call: by an object, or by an array of the method and its
arguments. Arguments that are not given are none. -/
inductive DeclaresCall : Json → MethodCall → Prop
  | object {entries : List (String × Json)} {method : String} {arguments : List Json}
      (called : Json.lastUnder? "method" entries = some (.str method))
      (with_ : (Json.lastUnder? "arguments" entries).getD (.arr []) = .arr arguments) :
      DeclaresCall (.obj entries) ⟨method, arguments⟩
  | array (method : String) (arguments : List Json) :
      DeclaresCall (.arr [.str method, .arr arguments]) ⟨method, arguments⟩
  | methodAlone (method : String) : DeclaresCall (.arr [.str method]) ⟨method, []⟩

/-- What a payload declares about a class are the parts of a directive. -/
structure Declares (classId : ClassIdentifier) (payload : Json)
    (directive : ConstructionDirective) : Prop where
  id : (present? "id" payload).getD (.str classId) = .str directive.id
  classId : directive.classId = classId
  autowired : (given? "autowired" payload).getD (.bool true) = .bool directive.flags.autowired
  autoconfigured :
    (given? "autoconfigured" payload).getD (.bool true) = .bool directive.flags.autoconfigured
  lazy : (given? "lazy" payload).getD (.bool false) = .bool directive.flags.lazy
  isPublic : (given? "public" payload).getD (.bool false) = .bool directive.flags.isPublic
  isAbstract : (given? "abstract" payload).getD (.bool false) = .bool directive.flags.isAbstract
  arguments :
    directive.arguments =
      (ArgumentTree.ofJson ((given? "arguments" payload).getD (.arr []))).resolve
  tags : ∃ items, (given? "tags" payload).getD (.arr []) = .arr items ∧
    List.Forall₂ DeclaresTag items directive.tags
  methodCalls : ∃ items, (given? "methodCalls" payload).getD (.arr []) = .arr items ∧
    List.Forall₂ DeclaresCall items directive.methodCalls
  factory :
    directive.factory =
      (present? "factory" payload).map fun value => (ArgumentTree.ofJson value).resolve
  decorates : present? "decorates" payload = directive.decorates.map .str

/-- Two payloads declare the same values about a class, up to the spelling of tags and calls,
apart from what is not kept in directives. -/
structure SameDeclaration (classId : ClassIdentifier) (left right : Json) : Prop where
  id : (present? "id" left).getD (.str classId) = (present? "id" right).getD (.str classId)
  autowired :
    (given? "autowired" left).getD (.bool true) = (given? "autowired" right).getD (.bool true)
  autoconfigured :
    (given? "autoconfigured" left).getD (.bool true) =
      (given? "autoconfigured" right).getD (.bool true)
  lazy : (given? "lazy" left).getD (.bool false) = (given? "lazy" right).getD (.bool false)
  isPublic :
    (given? "public" left).getD (.bool false) = (given? "public" right).getD (.bool false)
  isAbstract :
    (given? "abstract" left).getD (.bool false) = (given? "abstract" right).getD (.bool false)
  arguments :
    (given? "arguments" left).getD (.arr []) = (given? "arguments" right).getD (.arr [])
  tags : ∃ leftItems rightItems, (given? "tags" left).getD (.arr []) = .arr leftItems ∧
    (given? "tags" right).getD (.arr []) = .arr rightItems ∧
    List.Forall₂ (fun one other => ∃ tag, DeclaresTag one tag ∧ DeclaresTag other tag)
      leftItems rightItems
  methodCalls : ∃ leftItems rightItems,
    (given? "methodCalls" left).getD (.arr []) = .arr leftItems ∧
    (given? "methodCalls" right).getD (.arr []) = .arr rightItems ∧
    List.Forall₂ (fun one other => ∃ call, DeclaresCall one call ∧ DeclaresCall other call)
      leftItems rightItems
  factory : present? "factory" left = present? "factory" right
  decorates : present? "decorates" left = present? "decorates" right

/-- A class is registered, the payload of its first service annotation being the given one,
and the directive is that of its resolved descriptor. -/
def Registers (parser : MetadataParser) (environment : String) (definition : ClassDefinition)
    (payload : Json) (directive : ConstructionDirective) : Prop :=
  ∃ block annotations entry descriptor, definition.docComment = some block ∧
    parser definition.id block = .ok annotations ∧
    annotations.find? DocEntry.isService = some entry ∧ entry.payload = payload ∧
    buildDescriptor parser environment definition = .ok (.registered descriptor) ∧
    directive = .ofDescriptor descriptor.resolve

/-- A sequence that has been read is an array whose items have been read one by one. -/
theorem eq_arr_of_readSequence {α : Type} {read : Json → Reading α} {value : Json}
    {values : List α} (sequence : readSequence read value = .ok values) :
    ∃ items, value = .arr items ∧
      List.Forall₂ (fun item value => read item = .ok value) items values := by
  cases value with
  | arr items =>
    refine ⟨items, rfl, ?_⟩
    rw [readSequence] at sequence
    induction items generalizing values with
    | nil =>
      obtain rfl := Except.ok.inj sequence
      exact .nil
    | cons item items inductionHypothesis =>
      rw [List.mapM_cons] at sequence
      obtain ⟨first, own, sequence⟩ := bind_eq_ok sequence
      obtain ⟨further, others, sequence⟩ := bind_eq_ok sequence
      obtain rfl := Except.ok.inj sequence
      exact .cons own (inductionHypothesis others)
  | null | bool value | int value | double value | str value | obj entries => contradiction

/-- A list that is read item by item as it is stands there as it is. -/
theorem eq_arr_of_readSequence_ok {value : Json} {values : List Json}
    (sequence : readSequence .ok value = .ok values) : value = .arr values := by
  obtain ⟨items, rfl, read⟩ := eq_arr_of_readSequence sequence
  have same : List.Forall₂ (· = ·) items values := read.imp fun _ _ => Except.ok.inj
  rw [List.forall₂_eq_eq_eq] at same
  rw [same]

/-- What has been read as a flag is the flag. -/
theorem eq_bool_of_readBool {value : Json} {flag : Bool} (read : readBool value = .ok flag) :
    value = .bool flag := by
  cases value with
  | bool value => rw [Except.ok.inj read]
  | null | int value | double value | str value | arr items | obj entries => contradiction

/-- What has been read as a string is the string. -/
theorem eq_str_of_readString {value : Json} {text : String} (read : readString value = .ok text) :
    value = .str text := by
  cases value with
  | str value => rw [Except.ok.inj read]
  | null | bool value | int value | double value | arr items | obj entries => contradiction

/-- `null` in place of a missing value makes no difference where it counts as missing. -/
theorem present?_eq (name : String) (payload : Json) :
    present? name payload =
      if (given? name payload).getD .null = .null then none
      else some ((given? name payload).getD .null) := by
  rw [present?]
  cases given? name payload with
  | none => rfl
  | some value => by_cases isNull : value = .null <;> simp [isNull]

/-- What has been read as a string or as none is the string, or `null`. -/
theorem present?_of_readOptionalString {name : String} {payload : Json} {text : Option String}
    (read : readOptionalString ((given? name payload).getD .null) = .ok text) :
    present? name payload = text.map .str := by
  rw [present?_eq]
  generalize (given? name payload).getD .null = value at read
  cases value with
  | null | str value =>
    obtain rfl := Except.ok.inj read
    rfl
  | bool value | int value | double value | arr items | obj entries => contradiction

/-- What has been read as a tag declares the tag. -/
theorem declaresTag_of_readTag {value : Json} {spec : TagSpec} (read : readTag value = .ok spec) :
    DeclaresTag value spec.tag := by
  cases value with
  | str name =>
    obtain rfl := Except.ok.inj read
    exact .bare name
  | obj entries =>
    rw [readTag] at read
    split at read
    · rename_i named
      obtain rfl := Except.ok.inj read
      exact .detailed named
    · contradiction
  | null | bool value | int value | double value | arr items => contradiction

/-- The entries of a method call give its method and its arguments, whatever other entries
stand between them. -/
theorem lastUnder?_of_readMethodEntries {entries : List (String × Json)} {method : Option String}
    {arguments : List Json} {call : MethodCall}
    (read : readMethodEntries method arguments entries = .ok call) :
    (Json.lastUnder? "method" entries).or (method.map .str) = some (.str call.method) ∧
      (Json.lastUnder? "arguments" entries).getD (.arr arguments) = .arr call.arguments := by
  induction entries generalizing method arguments with
  | nil =>
    cases method with
    | none => contradiction
    | some method =>
      obtain rfl := Except.ok.inj read
      exact ⟨rfl, rfl⟩
  | cons entry entries inductionHypothesis =>
    obtain ⟨key, value⟩ := entry
    rw [readMethodEntries] at read
    rw [Json.lastUnder?_cons, Json.lastUnder?_cons]
    split at read
    · rename_i isMethod
      subst isMethod
      obtain ⟨text, string, others⟩ := bind_eq_ok read
      rw [eq_str_of_readString string]
      simpa using inductionHypothesis others
    · split at read
      · rename_i isArguments
        subst isArguments
        obtain ⟨values, sequence, others⟩ := bind_eq_ok read
        rw [eq_arr_of_readSequence_ok sequence]
        simpa using inductionHypothesis others
      · rename_i notMethod notArguments
        simpa [notMethod, notArguments] using inductionHypothesis read

/-- What has been read as a method call declares the call. -/
theorem declaresCall_of_readMethodCall {value : Json} {call : MethodCall}
    (read : readMethodCall value = .ok call) : DeclaresCall value call := by
  cases value with
  | obj entries =>
    obtain ⟨called, listed⟩ := lastUnder?_of_readMethodEntries read
    exact .object (by simpa using called) listed
  | arr items =>
    match items, read with
    | [method], read =>
      obtain ⟨text, string, made⟩ := bind_eq_ok read
      rw [eq_str_of_readString string, ← Except.ok.inj made]
      exact .methodAlone text
    | [method, arguments], read =>
      obtain ⟨text, string, read⟩ := bind_eq_ok read
      obtain ⟨values, sequence, made⟩ := bind_eq_ok read
      rw [eq_str_of_readString string, eq_arr_of_readSequence_ok sequence, ← Except.ok.inj made]
      exact .array text values
    | method :: arguments :: _ :: _, read =>
      obtain ⟨_, _, read⟩ := bind_eq_ok read
      obtain ⟨_, _, refused⟩ := bind_eq_ok read
      contradiction
  | null | bool value | int value | double value | str value => contradiction

/-- What has been read of a payload is what it declares about a class. -/
theorem declares_of_ofPayload {payload : Json} {declared : DeclaredService}
    (read : ofPayload payload = .ok declared) (classId : ClassIdentifier) :
    Declares classId payload (.ofDescriptor (declared.descriptor classId).resolve) := by
  have holds := holds_ofPayload read
  constructor
  case id =>
    have own : present? "id" payload = declared.id.map .str :=
      present?_of_readOptionalString (holds .id)
    rw [own]
    change (declared.id.map Json.str).getD (.str classId) = .str (declared.id.getD classId)
    cases declared.id <;> rfl
  case classId => rfl
  case autowired => exact eq_bool_of_readBool (holds .autowired)
  case autoconfigured => exact eq_bool_of_readBool (holds .autoconfigured)
  case lazy => exact eq_bool_of_readBool (holds .lazy)
  case isPublic => exact eq_bool_of_readBool (holds .isPublic)
  case isAbstract => exact eq_bool_of_readBool (holds .isAbstract)
  case arguments =>
    have own : declared.arguments = (given? "arguments" payload).getD (.arr []) :=
      holds .arguments
    rw [← own]
    rfl
  case tags =>
    obtain ⟨items, given, specs⟩ := eq_arr_of_readSequence (holds .tags)
    refine ⟨items, given, ?_⟩
    exact List.forall₂_map_right_iff.mpr (specs.imp fun _ _ => declaresTag_of_readTag)
  case methodCalls =>
    obtain ⟨items, given, calls⟩ := eq_arr_of_readSequence (holds .methodCalls)
    exact ⟨items, given, calls.imp fun _ _ => declaresCall_of_readMethodCall⟩
  case factory =>
    have own : declared.factory = present? "factory" payload :=
      (holds .factory).trans (present?_eq "factory" payload).symm
    rw [← own]
    exact Option.map_map _ _ _
  case decorates => exact present?_of_readOptionalString (holds .decorates)

/-- Payloads that resolve to the same trees are the same. -/
theorem eq_of_resolve_ofJson {left right : Json}
    (same : (ArgumentTree.ofJson left).resolve = (ArgumentTree.ofJson right).resolve) :
    left = right := by
  rw [← (ArgumentTree.resolve_ofJson left).1, same, (ArgumentTree.resolve_ofJson right).1]

/-- Lists that stand side by side with one list in the same order stand side by side. -/
theorem forall₂_common {α β : Type} {relation : α → β → Prop} {left right : List α}
    {middle : List β} (leftRelated : List.Forall₂ relation left middle)
    (rightRelated : List.Forall₂ relation right middle) :
    List.Forall₂ (fun one other => ∃ common, relation one common ∧ relation other common)
      left right := by
  induction leftRelated generalizing right with
  | nil =>
    cases rightRelated
    exact .nil
  | cons related _ inductionHypothesis =>
    cases rightRelated with
    | cons otherRelated others =>
      exact .cons ⟨_, related, otherRelated⟩ (inductionHypothesis others)

/-- Payloads that declare one directive declare the same values. -/
theorem sameDeclaration_of_declares {classId : ClassIdentifier} {left right : Json}
    {directive : ConstructionDirective} (leftDeclares : Declares classId left directive)
    (rightDeclares : Declares classId right directive) : SameDeclaration classId left right := by
  constructor
  case id => rw [leftDeclares.id, rightDeclares.id]
  case autowired => rw [leftDeclares.autowired, rightDeclares.autowired]
  case autoconfigured => rw [leftDeclares.autoconfigured, rightDeclares.autoconfigured]
  case lazy => rw [leftDeclares.lazy, rightDeclares.lazy]
  case isPublic => rw [leftDeclares.isPublic, rightDeclares.isPublic]
  case isAbstract => rw [leftDeclares.isAbstract, rightDeclares.isAbstract]
  case arguments =>
    exact eq_of_resolve_ofJson (leftDeclares.arguments.symm.trans rightDeclares.arguments)
  case tags =>
    obtain ⟨leftItems, leftGiven, leftTags⟩ := leftDeclares.tags
    obtain ⟨rightItems, rightGiven, rightTags⟩ := rightDeclares.tags
    exact ⟨leftItems, rightItems, leftGiven, rightGiven, forall₂_common leftTags rightTags⟩
  case methodCalls =>
    obtain ⟨leftItems, leftGiven, leftCalls⟩ := leftDeclares.methodCalls
    obtain ⟨rightItems, rightGiven, rightCalls⟩ := rightDeclares.methodCalls
    exact ⟨leftItems, rightItems, leftGiven, rightGiven, forall₂_common leftCalls rightCalls⟩
  case factory =>
    have resolutions := leftDeclares.factory.symm.trans rightDeclares.factory
    exact Option.map_injective (fun _ _ => eq_of_resolve_ofJson) resolutions
  case decorates => rw [leftDeclares.decorates, rightDeclares.decorates]

/-- A class that is registered has a payload that has been read, and is given its descriptor. -/
theorem ofPayload_of_registers {parser : MetadataParser} {environment : String}
    {definition : ClassDefinition} {payload : Json} {directive : ConstructionDirective}
    (registers : Registers parser environment definition payload directive) :
    ∃ declared, ofPayload payload = .ok declared ∧
      directive = .ofDescriptor (declared.descriptor definition.id).resolve := by
  obtain ⟨block, annotations, entry, descriptor, documented, parsed, found, rfl, built, rfl⟩ :=
    registers
  simp only [buildDescriptor, documented, parsed, buildAnnotated, found, DeclaredService.read]
    at built
  cases read : ofPayload entry.payload with
  | error mismatch => simp [read, Except.mapError] at built
  | ok declared =>
    refine ⟨declared, rfl, ?_⟩
    simp only [read, Except.mapError] at built
    split at built
    · contradiction
    · split at built
      · simp only [Except.ok.injEq, BuildOutcome.registered.injEq] at built
        rw [built]
      · exact absurd (Except.ok.inj built) nofun

/-- Every part of a directive comes from the value of the payload that declares it: the
identifier, the flags, the tags, the calls and the decorated service unchanged, the arguments
and the factory resolved, and each of them from its own default when nothing is declared.
Payloads of two classes that are registered as one directive belong to classes of one name
and declare the same values.

Proof: reading sets the fields one after the other, which leaves in each of them what the
payload gives under its name. Resolution can be undone, so that a directive determines the
arguments and the factory that were declared. -/
theorem directive_determined_by_payload (parser : MetadataParser) (environment : String)
    (definition : ClassDefinition) (payload : Json) (directive : ConstructionDirective)
    (registers : Registers parser environment definition payload directive) :
    Declares definition.id payload directive ∧
      ∀ (otherParser : MetadataParser) (otherEnvironment : String) (other : ClassDefinition)
        (otherPayload : Json),
        Registers otherParser otherEnvironment other otherPayload directive →
        other.id = definition.id ∧ SameDeclaration definition.id payload otherPayload := by
  obtain ⟨declared, read, rfl⟩ := ofPayload_of_registers registers
  have declares := declares_of_ofPayload read definition.id
  refine ⟨declares, fun otherParser otherEnvironment other otherPayload otherRegisters => ?_⟩
  obtain ⟨otherDeclared, otherRead, same⟩ := ofPayload_of_registers otherRegisters
  have otherDeclares := declares_of_ofPayload otherRead other.id
  rw [← same] at otherDeclares
  obtain sameClass : definition.id = other.id := otherDeclares.classId
  rw [← sameClass] at otherDeclares
  exact ⟨sameClass.symm, sameDeclaration_of_declares declares otherDeclares⟩

/-- A class that is documented, with any text. -/
def mailer : ClassDefinition := ⟨"App\\Mailer", .classKind, some "", []⟩

/-- A payload that gives a priority and nothing that is not needed. -/
def tersePayload : Json :=
  .obj [("tags", .arr [.str "mail"]), ("priority", .int 5), ("arguments", .arr [.str "@logger"]),
    ("methodCalls", .arr [.arr [.str "setName", .arr [.str "@name"]]])]

/-- A payload that spells everything out. -/
def wordyPayload : Json :=
  .obj [("id", .str "App\\Mailer"), ("lazy", .bool false), ("factory", .null),
    ("arguments", .arr [.str "@logger"]), ("tags", .arr [.obj [("name", .str "mail")]]),
    ("methodCalls",
      .arr [.obj [("arguments", .arr [.str "@name"]), ("method", .str "setName")]])]

/-- The directive of both. The reference in the call is not resolved. -/
def mailerDirective : ConstructionDirective where
  id := "App\\Mailer"
  classId := "App\\Mailer"
  flags := .standard
  arguments := .list [.reference "logger"]
  tags := [⟨"mail", []⟩]
  methodCalls := [⟨"setName", [.str "@name"]⟩]
  factory := none
  decorates := none

/-- The terse payload and the wordy one are registered as one directive. -/
theorem directive_determined_by_payload_mailer :
    Registers (.always [⟨serviceName, tersePayload⟩]) "dev" mailer tersePayload mailerDirective ∧
      Registers (.always [⟨serviceName, wordyPayload⟩]) "dev" mailer wordyPayload mailerDirective ∧
      Declares "App\\Mailer" tersePayload mailerDirective ∧
      SameDeclaration "App\\Mailer" tersePayload wordyPayload := by
  have terse : Registers (.always [⟨serviceName, tersePayload⟩]) "dev" mailer tersePayload
      mailerDirective :=
    ⟨"", [⟨serviceName, tersePayload⟩], ⟨serviceName, tersePayload⟩, _, rfl, rfl, rfl, rfl, rfl,
      by decide +kernel⟩
  have wordy : Registers (.always [⟨serviceName, wordyPayload⟩]) "dev" mailer wordyPayload
      mailerDirective :=
    ⟨"", [⟨serviceName, wordyPayload⟩], ⟨serviceName, wordyPayload⟩, _, rfl, rfl, rfl, rfl, rfl,
      by decide +kernel⟩
  obtain ⟨declares, others⟩ := directive_determined_by_payload _ _ _ _ _ terse
  exact ⟨terse, wordy, declares, (others _ _ _ _ wordy).2⟩

end DeclaredService

end ServiceWiring
