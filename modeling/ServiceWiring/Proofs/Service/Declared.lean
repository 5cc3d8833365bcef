import ServiceWiring.Proofs.Keyed
import ServiceWiring.Service.Declared

/-!
# Where the fields of an annotation come from

An annotation is read by setting one field after the other, each from the value that the
payload gives for it. The main statement says that in the end every field holds what its own
value says: the value under the name of the field in an object, or the one at its place in
an array. A field for which the payload gives no value holds what the annotation that
declares nothing has there.

What carries the proof is that setting one field makes it hold what the value says, and
leaves all other fields as they were.
-/

namespace ServiceWiring

namespace Json

/-- The value that stands under a key. An object has an entry per key; if one were repeated
its last value would count. -/
def lastUnder? (key : String) (entries : List (String × Json)) : Option Json :=
  Keyed.get? key entries.reverse

end Json

/-- The value under a key is that of the entries behind the first one, or of the first one. -/
theorem Json.lastUnder?_cons (key other : String) (value : Json) (entries : List (String × Json)) :
    lastUnder? key ((other, value) :: entries) =
      (lastUnder? key entries).or (if other = key then some value else none) := by
  rw [lastUnder?, List.reverse_cons, Keyed.get?_append]
  rfl

namespace DeclaredService

/-- The name of a field in payloads. -/
def Field.name : Field → String
  | .id => "id"
  | .autowired => "autowired"
  | .autoconfigured => "autoconfigured"
  | .lazy => "lazy"
  | .isPublic => "public"
  | .isAbstract => "abstract"
  | .priority => "priority"
  | .environments => "envs"
  | .singleMethod => "singleMethodConstraint"
  | .arguments => "arguments"
  | .tags => "tags"
  | .methodCalls => "methodCalls"
  | .factory => "factory"
  | .decorates => "decorates"

/-- A name is known as that of a field exactly when the field has this name. -/
theorem get?_names_eq_some_iff (name : String) (field : Field) :
    Keyed.get? name Field.names = some field ↔ name = field.name := by
  constructor
  · intro found
    have listed := Keyed.mem_of_get?_eq_some found
    have named : ∀ entry ∈ Field.names, entry.1 = entry.2.name := by decide
    exact named _ listed
  · rintro rfl
    cases field <;> decide

/-- Different fields have different names. -/
theorem Field.name_injective {field other : Field} (same : field.name = other.name) :
    field = other := by
  have found := (get?_names_eq_some_iff field.name field).mpr rfl
  rw [(get?_names_eq_some_iff field.name other).mpr same] at found
  exact (Option.some.inj found).symm

/-- Whether a declaration holds in a field what a value says. -/
def Holds (declared : DeclaredService) (value : Json) : Field → Prop
  | .id => readOptionalString value = .ok declared.id
  | .autowired => readBool value = .ok declared.flags.autowired
  | .autoconfigured => readBool value = .ok declared.flags.autoconfigured
  | .lazy => readBool value = .ok declared.flags.lazy
  | .isPublic => readBool value = .ok declared.flags.isPublic
  | .isAbstract => readBool value = .ok declared.flags.isAbstract
  | .priority => readPriority value = .ok declared.priority
  | .environments => readSequence readString value = .ok declared.environments
  | .singleMethod => readBool value = .ok declared.singleMethod
  | .arguments => declared.arguments = value
  | .tags => readSequence readTag value = .ok declared.tags
  | .methodCalls => readSequence readMethodCall value = .ok declared.methodCalls
  | .factory => declared.factory = if value = .null then none else some value
  | .decorates => readOptionalString value = .ok declared.decorates

/-- A result that was changed behind a reader is what was read, changed. -/
theorem map_eq_ok {α β : Type} {read : Reading α} {change : α → β} {result : β}
    (mapped : read.map change = .ok result) :
    ∃ value, read = .ok value ∧ change value = result := by
  cases read with
  | error mismatch => simp [Except.map] at mapped
  | ok value => exact ⟨value, rfl, Except.ok.inj mapped⟩

/-- When two readings one after the other succeed, both of them do. -/
theorem bind_eq_ok {α β : Type} {read : Reading α} {further : α → Reading β} {result : β}
    (both : read >>= further = .ok result) :
    ∃ value, read = .ok value ∧ further value = .ok result := by
  cases read with
  | error mismatch => contradiction
  | ok value => exact ⟨value, rfl, both⟩

/-- A field that has been set holds what the value says. -/
theorem holds_setField {declared next : DeclaredService} {field : Field} {value : Json}
    (set : declared.setField field value = .ok next) : next.Holds value field := by
  cases field
  case arguments | factory =>
    obtain rfl := Except.ok.inj set
    rfl
  all_goals
    obtain ⟨read, found, rfl⟩ := map_eq_ok set
    exact found

/-- Setting a field leaves all other fields as they are. -/
theorem holds_setField_of_ne {declared next : DeclaredService} {field other : Field}
    {value held : Json} (set : declared.setField field value = .ok next) (differs : other ≠ field)
    (holds : declared.Holds held other) : next.Holds held other := by
  cases field
  case arguments | factory =>
    obtain rfl := Except.ok.inj set
    cases other <;> first | exact holds | exact absurd rfl differs
  all_goals
    obtain ⟨read, _, rfl⟩ := map_eq_ok set
    cases other <;> first | exact holds | exact absurd rfl differs

/-- The entries of an object set every field whose name is among them, and only those. -/
theorem holds_setEntries {entries : List (String × Json)} {declared final : DeclaredService}
    (set : declared.setEntries entries = .ok final) {field : Field} {held : Json}
    (holds : declared.Holds held field) :
    final.Holds ((Json.lastUnder? field.name entries).getD held) field := by
  induction entries generalizing declared held with
  | nil =>
    obtain rfl := Except.ok.inj set
    exact holds
  | cons entry entries inductionHypothesis =>
    obtain ⟨key, value⟩ := entry
    rw [setEntries] at set
    split at set
    · contradiction
    · rename_i changed known
      obtain rfl := (get?_names_eq_some_iff key changed).mp known
      obtain ⟨next, step, others⟩ := bind_eq_ok set
      rw [Json.lastUnder?_cons]
      by_cases own : changed = field
      · subst own
        rw [if_pos rfl, Option.getD_or]
        exact inductionHypothesis others (holds_setField step)
      · rw [if_neg fun same => own (Field.name_injective same), Option.or_none]
        exact inductionHypothesis others (holds_setField_of_ne step (Ne.symm own) holds)

/-- The items of an array are set as if each stood under the name of its field, if there are
no more of them than fields. -/
theorem setItems_eq_setEntries {fields : List Field} {items : List Json} {length : Nat}
    (fits : items.length ≤ fields.length) (declared : DeclaredService) :
    declared.setItems length fields items =
      declared.setEntries ((fields.map Field.name).zip items) := by
  induction items generalizing fields declared with
  | nil => cases fields <;> rfl
  | cons value items inductionHypothesis =>
    cases fields with
    | nil => simp at fits
    | cons field fields =>
      have known := (get?_names_eq_some_iff field.name field).mpr rfl
      have others := inductionHypothesis (Nat.le_of_succ_le_succ fits)
      simp only [List.map_cons, List.zip_cons_cons, setItems, setEntries, known, others]

/-- Items that have been set are no more than the fields. -/
theorem length_le_of_setItems {fields : List Field} {items : List Json} {length : Nat}
    {declared final : DeclaredService} (set : declared.setItems length fields items = .ok final) :
    items.length ≤ fields.length := by
  induction items generalizing fields declared with
  | nil => exact Nat.zero_le _
  | cons value items inductionHypothesis =>
    cases fields with
    | nil => contradiction
    | cons field fields =>
      rw [setItems] at set
      obtain ⟨next, -, others⟩ := bind_eq_ok set
      exact Nat.succ_le_succ (inductionHypothesis others)

/-- The entries of a payload. The items of an array stand for the fields in declared order. -/
def entriesOf : Json → List (String × Json)
  | .obj entries => entries
  | .arr items => (Field.names.map Prod.fst).zip items
  | _ => []

/-- The value that a payload gives under a name. -/
def given? (name : String) (payload : Json) : Option Json :=
  Json.lastUnder? name (entriesOf payload)

/-- What stands for a field that a payload does not give. -/
def Field.standard : Field → Json
  | .autowired | .autoconfigured => .bool true
  | .lazy | .isPublic | .isAbstract | .singleMethod => .bool false
  | .priority => .int 0
  | .environments | .arguments | .tags | .methodCalls => .arr []
  | .id | .factory | .decorates => .null

/-- The annotation that declares nothing holds what stands for missing fields. -/
theorem holds_standard (field : Field) : standard.Holds field.standard field := by
  cases field <;> rfl

/-- In an annotation that has been read, every field holds what the payload gives for it, or
what stands for it when the payload gives nothing.

Proof: a run over the entries ends with the last value under each name. An array is such a
run over its items, each under the name of its field. -/
theorem holds_ofPayload {payload : Json} {declared : DeclaredService}
    (read : ofPayload payload = .ok declared) (field : Field) :
    declared.Holds ((given? field.name payload).getD field.standard) field := by
  cases payload with
  | null =>
    obtain rfl := Except.ok.inj read
    exact holds_standard field
  | obj entries => exact holds_setEntries read (holds_standard field)
  | arr items =>
    have fits := length_le_of_setItems read
    exact holds_setEntries ((setItems_eq_setEntries fits standard).symm.trans read)
      (holds_standard field)
  | bool value | int value | double value | str value => contradiction

end DeclaredService

end ServiceWiring
