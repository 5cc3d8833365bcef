import ServiceWiring.Decimal.Binary64
import ServiceWiring.Keyed

/-!
# JSON values

Values of the data format in which annotations carry their payloads and
directives are written. Objects keep their entries in the order in which the
keys were first met. A number is an integer or a binary64 value; the two kinds
are never equal, so `1` and `1.0` are different values.
-/

namespace ServiceWiring

open Decimal (Binary64)

/-- A JSON value. -/
inductive Json
  | null
  | bool (value : Bool)
  | int (value : Int)
  | double (value : Binary64)
  | str (value : String)
  | arr (items : List Json)
  | obj (entries : List (String × Json))
deriving Repr

namespace Json

mutual

/-- Whether two values are the same, entry order included. -/
def same : Json → Json → Bool
  | null, null => true
  | bool left, bool right => left == right
  | int left, int right => left == right
  | double left, double right => left == right
  | str left, str right => left == right
  | arr left, arr right => sameItems left right
  | obj left, obj right => sameEntries left right
  | _, _ => false

/-- Whether two lists hold the same values at the same places. -/
def sameItems : List Json → List Json → Bool
  | [], [] => true
  | left :: lefts, right :: rights => same left right && sameItems lefts rights
  | _, _ => false

/-- Whether two objects hold the same entries in the same order. -/
def sameEntries : List (String × Json) → List (String × Json) → Bool
  | [], [] => true
  | (leftKey, left) :: lefts, (rightKey, right) :: rights =>
    leftKey == rightKey && same left right && sameEntries lefts rights
  | _, _ => false

end

mutual

/-- `same` decides equality. -/
theorem same_iff : ∀ left right : Json, same left right = true ↔ left = right
  | .null, right => by cases right <;> simp [same]
  | .bool _, right => by cases right <;> simp [same]
  | .int _, right => by cases right <;> simp [same]
  | .double _, right => by cases right <;> simp [same]
  | .str _, right => by cases right <;> simp [same]
  | .arr items, right => by cases right <;> simp [same, sameItems_iff items]
  | .obj entries, right => by cases right <;> simp [same, sameEntries_iff entries]

/-- `sameItems` decides equality of lists of values. -/
theorem sameItems_iff : ∀ left right : List Json, sameItems left right = true ↔ left = right
  | [], right => by cases right <;> simp [sameItems]
  | left :: lefts, right => by
    cases right <;> simp [sameItems, same_iff left, sameItems_iff lefts]

/-- `sameEntries` decides equality of entries. -/
theorem sameEntries_iff :
    ∀ left right : List (String × Json), sameEntries left right = true ↔ left = right
  | [], right => by cases right <;> simp [sameEntries]
  | (leftKey, left) :: lefts, right => by
    cases right with
    | nil => simp [sameEntries]
    | cons entry rights =>
      obtain ⟨rightKey, right⟩ := entry
      simp [sameEntries, same_iff left, sameEntries_iff lefts, and_assoc]

end

instance : DecidableEq Json := fun left right => decidable_of_iff _ (same_iff left right)

/-- The value under a key of an object. -/
def field? (key : String) : Json → Option Json
  | obj entries => Keyed.get? key entries
  | _ => none

end Json

end ServiceWiring
