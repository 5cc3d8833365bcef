import ServiceWiring.Toml.Quoted

/-!
# Writing TOML

The lines of a TOML document. An array with several items has each of them on a line of
its own, four blanks in and with a comma behind it; an array with one item or none is
written on the line of its key. A header has an empty line before it.
-/

namespace ServiceWiring.Toml

/-- A value that a line can hold. -/
inductive Field
  | text (value : String)
  | flag (value : Bool)
  | texts (values : List String)
deriving DecidableEq, Repr

/-- A value as it is written. -/
def Field.write : Field → List Char
  | .text value => writeString value
  | .flag value => if value then ['t', 'r', 'u', 'e'] else ['f', 'a', 'l', 's', 'e']
  | .texts [] => ['[', ']']
  | .texts [value] => '[' :: writeString value ++ [']']
  | .texts values =>
    '[' :: values.flatMap (fun value =>
      ['\n', ' ', ' ', ' ', ' '] ++ writeString value ++ [',']) ++ ['\n', ']']

/-- The line of a key with a bare name. -/
def writeLine (line : String × Field) : List Char :=
  line.1.toList ++ [' ', '=', ' '] ++ line.2.write ++ ['\n']

/-- Lines in their order. -/
def writeLines (lines : List (String × Field)) : List Char := lines.flatMap writeLine

/-- A table with a bare name. -/
def writeTable (name : String) (lines : List (String × Field)) : List Char :=
  ['\n', '['] ++ name.toList ++ [']', '\n'] ++ writeLines lines

/-- An element of an array of tables with a bare name. -/
def writeElement (name : String) (lines : List (String × Field)) : List Char :=
  ['\n', '[', '['] ++ name.toList ++ [']', ']', '\n'] ++ writeLines lines

end ServiceWiring.Toml
