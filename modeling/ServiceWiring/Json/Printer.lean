import ServiceWiring.Decimal.Written
import ServiceWiring.Json.Basic

/-!
# Writing JSON texts

The compact form has no blanks. The indented form puts each item and each entry
on a line of its own, two spaces deeper than the bracket around it, and writes
empty containers on one line. In strings only the quote, the backslash and the
control characters are escaped.
-/

namespace ServiceWiring.Json

open Decimal (dataFormat)

/-- Lower-case hexadecimal digits of a control character, four of them. -/
def controlEscape (c : Char) : List Char :=
  let digits := Nat.toDigits 16 c.toNat
  ['\\', 'u'] ++ List.replicate (4 - digits.length) '0' ++ digits

/-- A character inside a string. -/
def escapeChar (c : Char) : List Char :=
  if c = '"' ∨ c = '\\' then ['\\', c]
  else if c = '\x08' then ['\\', 'b']
  else if c = '\x0c' then ['\\', 'f']
  else if c = '\n' then ['\\', 'n']
  else if c = '\r' then ['\\', 'r']
  else if c = '\t' then ['\\', 't']
  else if c.toNat < 0x20 then controlEscape c
  else [c]

/-- A string between quotes. -/
def writeString (text : String) : List Char :=
  '"' :: text.toList.flatMap escapeChar ++ ['"']

/-- A value without parts. -/
def writeScalar : Json → List Char
  | null => ['n', 'u', 'l', 'l']
  | bool true => ['t', 'r', 'u', 'e']
  | bool false => ['f', 'a', 'l', 's', 'e']
  | int value => (toString value).toList
  | double value => (value.write dataFormat).toList
  | str text => writeString text
  | arr _ => ['[', ']']
  | obj _ => ['\x7b', '\x7d']

mutual

/-- A value without blanks. -/
def writeCompact : Json → List Char
  | arr items => '[' :: writeItems items ++ [']']
  | obj entries => '\x7b' :: writeEntries entries ++ ['\x7d']
  | scalar => writeScalar scalar

/-- Items with commas between them. -/
def writeItems : List Json → List Char
  | [] => []
  | [item] => writeCompact item
  | item :: items => writeCompact item ++ ',' :: writeItems items

/-- Entries with commas between them. -/
def writeEntries : List (String × Json) → List Char
  | [] => []
  | [(key, value)] => writeString key ++ ':' :: writeCompact value
  | (key, value) :: entries =>
    writeString key ++ ':' :: writeCompact value ++ ',' :: writeEntries entries

end

/-- A line break and the blanks before a line of the given depth. -/
def newLine (depth : Nat) : List Char := '\n' :: List.replicate (2 * depth) ' '

mutual

/-- A value whose first line stands at the given depth. -/
def writeIndented (depth : Nat) : Json → List Char
  | arr (item :: items) =>
    '[' :: writeItemLines (depth + 1) (item :: items) ++ newLine depth ++ [']']
  | obj (entry :: entries) =>
    '\x7b' :: writeEntryLines (depth + 1) (entry :: entries) ++ newLine depth ++ ['\x7d']
  | simple => writeScalar simple

/-- Items on lines of their own. -/
def writeItemLines (depth : Nat) : List Json → List Char
  | [] => []
  | [item] => newLine depth ++ writeIndented depth item
  | item :: items => newLine depth ++ writeIndented depth item ++ ',' :: writeItemLines depth items

/-- Entries on lines of their own. -/
def writeEntryLines (depth : Nat) : List (String × Json) → List Char
  | [] => []
  | [(key, value)] => newLine depth ++ writeString key ++ ':' :: ' ' :: writeIndented depth value
  | (key, value) :: entries =>
    newLine depth ++ writeString key ++ ':' :: ' ' :: writeIndented depth value ++
      ',' :: writeEntryLines depth entries

end

/-- The compact form of a value. -/
def compact (value : Json) : String := String.ofList (writeCompact value)

/-- The indented form of a value. -/
def indented (value : Json) : String := String.ofList (writeIndented 0 value)

end ServiceWiring.Json
