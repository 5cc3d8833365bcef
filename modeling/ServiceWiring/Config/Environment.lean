import ServiceWiring.Decimal.Written
import ServiceWiring.Json.Basic
import ServiceWiring.Text.Lower
import ServiceWiring.Text.Split

/-!
# Settings from environment variables

A variable holds a setting when its name begins with a prefix and an underscore, in any
mixture of cases. The rest of the name is the path of the setting, with two underscores
between the names. A value that reads as a truth value or as a number is one, and any
other value is a text.
-/

namespace ServiceWiring.Settings

open Decimal (Binary64 digitsValue)
open Text (lower stripPrefix?)

/-- The signed 64-bit word that a text denotes. -/
def word? (text : List Char) : Option Int :=
  let (negative, digits) := match text with
    | '-' :: digits => (true, digits)
    | '+' :: digits => (false, digits)
    | digits => (false, digits)
  if digits.isEmpty || !digits.all Char.isDigit then none
  else
    let magnitude : Int := digitsValue 0 digits
    let value := if negative then -magnitude else magnitude
    if -0x8000000000000000 ≤ value ∧ value < 0x8000000000000000 then some value else none

/-- What the value of a variable denotes. -/
def ofVariable (text : String) : Json :=
  if lower text = "true" then .bool true
  else if lower text = "false" then .bool false
  else
    match word? text.toList, Binary64.read? text.toList with
    | some value, _ => .int value
    | none, some value => .double value
    | none, none => .str text

/-- A text with a point in place of each two underscores. -/
def pointed : List Char → List Char
  | '_' :: '_' :: rest => '.' :: pointed rest
  | c :: rest => c :: pointed rest
  | [] => []

/-- The path of the setting that a variable of some name holds, if it holds one. -/
def ofVariableName? (namePrefix name : String) : Option String :=
  (stripPrefix? (lower (namePrefix ++ "_")).toList (lower name).toList).map fun rest =>
    String.ofList (pointed rest)

/-- The settings that some environment variables hold. -/
def ofEnvironment (namePrefix : String) (bindings : List (String × String)) :
    List (String × Json) :=
  Keyed.ofPairs (bindings.filterMap fun (name, value) =>
    (ofVariableName? namePrefix name).map fun path => (path, ofVariable value))

example : ofVariableName? "DISCOVERY" "Discovery_SCAN__Sorted" = some "scan.sorted" := by
  decide +kernel

end ServiceWiring.Settings
