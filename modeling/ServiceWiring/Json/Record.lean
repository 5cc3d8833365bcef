import ServiceWiring.Json.Basic

/-!
# Records in JSON

How typed values are read from JSON. A record is an object with one entry per
field, further entries being ignored, or an array with the fields in their
declared order, in which fields at the end may be missing. A choice among names
is the name itself, or an object whose only entry has that name as key and
`null` as value. Nothing is converted: a number is never read as text.
-/

namespace ServiceWiring.Json

/-- The text of a string value. -/
def string? : Json → Option String
  | str text => some text
  | _ => none

/-- The truth value of a Boolean value. -/
def bool? : Json → Option Bool
  | bool value => some value
  | _ => none

/-- Whether a number is a signed 32-bit integer. -/
def isInt32 (value : Int) : Bool := -2147483648 ≤ value && value ≤ 2147483647

/-- The number of an integer value within 32 bits. -/
def int32? : Json → Option Int
  | int value => if isInt32 value then some value else none
  | _ => none

/-- The items of an array, each read the same way. -/
def list? {α : Type} (read : Json → Option α) : Json → Option (List α)
  | arr items => items.mapM read
  | _ => none

/-- The entries of an object. -/
def entries? : Json → Option (List (String × Json))
  | obj entries => some entries
  | _ => none

/-- The items of an array. -/
def items? : Json → Option (List Json)
  | arr items => some items
  | _ => none

/-- The values of the named fields, absent ones as none. -/
def record? (names : List String) : Json → Option (List (Option Json))
  | obj entries => some (names.map fun name => Keyed.get? name entries)
  | arr items =>
    if items.length ≤ names.length then
      some (items.map some ++ List.replicate (names.length - items.length) none)
    else none
  | _ => none

/-- A field that must be present. -/
def required {α : Type} (read : Json → Option α) (field : Option Json) : Option α :=
  field.bind read

/-- A field that takes a value of its own when it is absent. -/
def defaulted {α : Type} (absent : α) (read : Json → Option α) : Option Json → Option α
  | none => some absent
  | some value => read value

/-- A field that may be absent or `null`. -/
def optional {α : Type} (read : Json → Option α) : Option Json → Option (Option α)
  | none | some null => some none
  | some value => (read value).map some

/-- The value that a name stands for. -/
def choice? {α : Type} (names : List (String × α)) : Json → Option α
  | str name => Keyed.get? name names
  | obj [(name, null)] => Keyed.get? name names
  | _ => none

/-- `null` for a missing value. -/
def ofOption {α : Type} (write : α → Json) : Option α → Json
  | none => null
  | some value => write value

end ServiceWiring.Json
