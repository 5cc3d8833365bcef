import ServiceWiring.Json.Basic
import ServiceWiring.Text.Digits
import ServiceWiring.Text.Lower

/-!
# Settings

Settings from several sources are layered into one JSON object. The name of a setting
may be a path: names between points, and item numbers in brackets. Names are compared
in lower case. A table is merged into the table that is there, setting by setting; any
other value takes the place of what is there. Tables and arrays that are missing on
the way to a setting come to be.

What stands inside an array is taken as it is. A name that is no path is the name of
one setting.
-/

namespace ServiceWiring.Settings

open Text (lower)

/-- One step of a path. -/
inductive Step
  | name (text : String)
  | item (number : Int)
deriving DecidableEq, Repr

/-- The characters of the names in a path. -/
def isNameChar (c : Char) : Bool := c.isAlphanum || c == ' ' || c == '_' || c == '-'

/-- The number of an item between brackets, with blanks around it. -/
def itemNumber? (text : List Char) : Option Int :=
  let isSpace := fun c : Char => c == ' ' || c == '\t'
  let inner := ((text.dropWhile isSpace).reverse.dropWhile isSpace).reverse
  let (negative, digits) := match inner with
    | '-' :: digits => (true, digits)
    | digits => (false, digits)
  if digits.isEmpty then none
  else do
    let number : Int ← (Text.numeral? 10 digits).map Int.ofNat
    let signed := if negative then -number else number
    if -0x8000000000000000 ≤ signed ∧ signed < 0x8000000000000000 then some signed else none

/-- The first step of a path behind its first name, and what follows it. -/
def step? : List Char → Option (Step × List Char)
  | '.' :: rest =>
    let name := rest.takeWhile isNameChar
    if name.isEmpty then none
    else some (.name (String.ofList name), rest.dropWhile isNameChar)
  | '[' :: rest => do
    let number ← itemNumber? (rest.takeWhile (· != ']'))
    match rest.dropWhile (· != ']') with
    | [] => none
    | _ :: rest => some (.item number, rest)
  | _ => none

/-- The steps of a path behind its first name. -/
def steps? (text : List Char) : Option (List Step) :=
  if text.isEmpty then some []
  else
    match step? text with
    | none => none
    | some (step, rest) =>
      if _shorter : rest.length < text.length then (steps? rest).map (step :: ·) else none
termination_by text.length

/-- The path that the name of a setting denotes. -/
def path (name : String) : List Step :=
  let first := name.toList.takeWhile isNameChar
  let steps := steps? (name.toList.dropWhile isNameChar)
  match first, steps with
  | _ :: _, some steps => .name (String.ofList first) :: steps
  | _, _ => [.name name]

/-- The settings in a value that is a table; any other value has none. -/
def tableOf : Json → List (String × Json)
  | .obj entries => entries
  | _ => []

/-- The items of a value that is an array; any other value has none. -/
def arrayOf : Json → List Json
  | .arr items => items
  | _ => []

mutual

/-- Gives a name in a table a value. -/
def setName (name : String) : Json → Json → Json
  | .obj incoming, table =>
    let present := (Keyed.get? (lower name) (tableOf table)).getD (.obj [])
    .obj (Keyed.insert (lower name) (setAll incoming present) (tableOf table))
  | value, table => .obj (Keyed.insert (lower name) value (tableOf table))

/-- Gives all names of one table their values in another one. -/
def setAll : List (String × Json) → Json → Json
  | [], table => table
  | (name, value) :: rest, table => setAll rest (setName name value table)

end

/-- The place of an item among so many; negative numbers count from the end. -/
def placeOf (number : Int) (count : Nat) : Option Nat :=
  if 0 ≤ number then some number.toNat
  else if number.natAbs ≤ count then some (count - number.natAbs)
  else none

/-- Changes the item at a place; items that are missing before it come to be. -/
def alterItem (place : Nat) (change : Json → Json) (items : List Json) : List Json :=
  let filled := items ++ List.replicate (place + 1 - items.length) .null
  filled.modify place change

/-- Gives the setting at the end of a path a value. -/
def assign (value : Json) : List Step → Json → Json
  | [], table => table
  | [.name name], table => setName name value table
  | .name name :: steps, table =>
    let present := (Keyed.get? (lower name) (tableOf table)).getD .null
    .obj (Keyed.insert (lower name) (assign value steps present) (tableOf table))
  | .item number :: steps, array =>
    let items := arrayOf array
    match placeOf number items.length with
    | none => .arr items
    | some place =>
      .arr (alterItem place (if steps.isEmpty then fun _ => value else assign value steps) items)

/-- Settings with those of a further source on top of them. -/
def layer (source : List (String × Json)) (settings : Json) : Json :=
  source.foldl (fun settings (name, value) => assign value (path name) settings) settings

example : path "scan.sorted" = [.name "scan", .name "sorted"] := by decide +kernel
example : path "modules[-1].path" = [.name "modules", .item (-1), .name "path"] := by
  decide +kernel
example : path "a..b" = [.name "a..b"] := by decide +kernel

end ServiceWiring.Settings
