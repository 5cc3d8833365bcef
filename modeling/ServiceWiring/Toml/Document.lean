import ServiceWiring.Toml.Value

/-!
# TOML documents

A document is a sequence of lines, each of which defines a key, opens a table or an
element of an array of tables, or holds nothing but a comment. Keys belong to the table
that was opened last, and those before the first header to the document itself. The
document denotes the JSON object of its tables; dates and times in it are texts.

A byte order mark may stand before the first line.
-/

namespace ServiceWiring.Toml

/-- A document up to some line: its entries and the way to the open table. -/
structure Draft where
  entries : Entries
  opened : List String

namespace Draft

/-- Nothing, with the document itself as the open table. -/
def empty : Draft := ⟨[], []⟩

/-- Opens a table or, in an array of tables, a further element. -/
def «open» (element : Bool) (way : List String) (name : String) (draft : Draft) :
    Option Draft := do
  let change := if element then Entries.openElement name else Entries.openTable name
  some ⟨← draft.entries.reach way change, way ++ [name]⟩

/-- Gives a key of the open table a value. -/
def assign (way : List String) (name : String) (value : Json) (draft : Draft) :
    Option Draft := do
  some { draft with entries := ← draft.entries.reach draft.opened (·.assign way name value) }

end Draft

/-- Takes up a line that opens a table, from behind its first bracket on. -/
def readHeader? (draft : Draft) (text : List Char) : Option (Draft × List Char) :=
  match text with
  | '[' :: rest =>
    match readKey? rest with
    | some ((way, name), ']' :: ']' :: rest) => close true way name rest
    | _ => none
  | _ =>
    match readKey? text with
    | some ((way, name), ']' :: rest) => close false way name rest
    | _ => none
where
  /-- Opens the table at the end of the line. -/
  close (element : Bool) (way : List String) (name : String) (rest : List Char) :
      Option (Draft × List Char) := do
    let rest ← endLine? rest
    some (← draft.open element way name, rest)

/-- Takes up a line that defines a key. -/
def readDefinition? (draft : Draft) (text : List Char) : Option (Draft × List Char) :=
  match readKey? text with
  | some ((way, name), '=' :: rest) => do
    let (value, rest) ← readValue? (depthLimit - 1) (skipGaps rest)
    let rest ← endLine? rest
    some (← draft.assign way name value, rest)
  | _ => none

/-- Takes up a line. -/
def readLine? (draft : Draft) (text : List Char) : Option (Draft × List Char) :=
  match skipGaps text with
  | '[' :: rest => readHeader? draft rest
  | '#' :: _ | '\n' :: _ | '\r' :: _ | [] => (endLine? text).map fun rest => (draft, rest)
  | line => readDefinition? draft line

/-- Takes up all lines. -/
def readLines? (draft : Draft) (text : List Char) : Option Draft :=
  if text.isEmpty then some draft
  else
    match readLine? draft text with
    | none => none
    | some (draft, rest) =>
      if _shorter : rest.length < text.length then readLines? draft rest else none
termination_by text.length

/-- The object that a text denotes, if it is a TOML document. -/
def parse? (text : List Char) : Option Json :=
  let text := match text with
    | '\uFEFF' :: rest => rest
    | text => text
  (readLines? .empty text).map fun draft => .obj (entriesToJson draft.entries)

end ServiceWiring.Toml
