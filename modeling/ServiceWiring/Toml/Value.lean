import ServiceWiring.Toml.Quoted
import ServiceWiring.Toml.Scalar
import ServiceWiring.Toml.Table

/-!
# Keys and values of TOML

A key is a sequence of names between points; a name is bare or quoted. A value is a
string, a plain value, an array, or an inline table. Arrays may extend over lines and
have a comma at their end; inline tables may not. Keys have fewer than eighty names,
and values nest less than eighty deep.
-/

namespace ServiceWiring.Toml

/-- The characters of bare names. -/
def isBareChar (c : Char) : Bool := c.isAlphanum || c == '_' || c == '-'

/-- The name at the beginning of a text, and what follows it. -/
def readName? : List Char → Option (String × List Char)
  | '"' :: rest => quotedName ⟨'"', true, false⟩ rest
  | '\'' :: rest => quotedName ⟨'\'', false, false⟩ rest
  | text =>
    let name := text.takeWhile isBareChar
    if name.isEmpty then none else some (String.ofList name, text.dropWhile isBareChar)
where
  /-- A name between marks. -/
  quotedName (quoting : Quoting) (rest : List Char) : Option (String × List Char) :=
    (quoting.body false rest).map fun (name, rest) => (String.ofList name, rest)

/-- The number of names that a key, and of levels that a value, must stay below. -/
def depthLimit : Nat := 80

/-- The names of a key of at most so many, the blanks around each of them left out, and
what follows. -/
def readNames? : Nat → List Char → Option (List String × List Char)
  | 0, _ => none
  | limit + 1, text => do
    let (name, rest) ← readName? (skipGaps text)
    match skipGaps rest with
    | '.' :: rest =>
      let (names, rest) ← readNames? limit rest
      some (name :: names, rest)
    | rest => some ([name], rest)

/-- The key at the beginning of a text: the names before its last one and that name, and
what follows. -/
def readKey? (text : List Char) : Option ((List String × String) × List Char) := do
  let (names, rest) ← readNames? (depthLimit - 1) text
  some ((names.dropLast, ← names.getLast?), rest)

/-- A function that reads a value at the beginning of a text. -/
abbrev ValueReader := List Char → Option (Json × List Char)

/-- The items of an array up to its closing bracket, and what follows. -/
def readItems? (value : ValueReader) (text : List Char) : Option (List Json × List Char) :=
  match skipFill false text with
  | ']' :: rest => some ([], rest)
  | start =>
    match value start with
    | none => none
    | some (item, rest) =>
      match skipFill false rest with
      | ']' :: rest => some ([item], rest)
      | ',' :: rest =>
        if _shorter : rest.length < text.length then
          (readItems? value rest).map fun (items, rest) => (item :: items, rest)
        else none
      | _ => none
termination_by text.length

/-- The entries of an inline table up to its closing brace, added to those given, and
what follows. -/
def readPairs? (value : ValueReader) (entries : Entries) (text : List Char) :
    Option (Entries × List Char) :=
  match readKey? text with
  | some ((way, name), '=' :: rest) =>
    match value (skipGaps rest) with
    | none => none
    | some (item, rest) =>
      match entries.assign way name item, skipGaps rest with
      | some entries, '\x7d' :: rest => some (entries, rest)
      | some entries, ',' :: rest =>
        if _shorter : rest.length < text.length then readPairs? value entries rest else none
      | _, _ => none
  | _ => none
termination_by text.length

/-- The value at the beginning of a text, with so many levels of arrays and inline tables
at most, and what follows it. -/
def readValue? : Nat → ValueReader
  | levels, text =>
    match text, levels with
    | '"' :: _, _ | '\'' :: _, _ =>
      (readString? text).map fun (string, rest) => (.str (String.ofList string), rest)
    | '[' :: _, 0 | '\x7b' :: _, 0 => none
    | '[' :: rest, levels + 1 =>
      (readItems? (readValue? levels) rest).map fun (items, rest) => (.arr items, rest)
    | '\x7b' :: rest, levels + 1 =>
      match skipGaps rest with
      | '\x7d' :: rest => some (.obj [], rest)
      | _ =>
        (readPairs? (readValue? levels) [] rest).map fun (entries, rest) =>
          (.obj (entriesToJson entries), rest)
    | _, _ => readPlain? text

end ServiceWiring.Toml
