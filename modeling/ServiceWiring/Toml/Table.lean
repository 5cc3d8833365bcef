import ServiceWiring.Json.Basic

/-!
# Tables of TOML

How the lines of a document build up its tables. A table comes to be in one of three
ways: a header or an element of an array of tables defines it, the header of a table
below it implies it, or a dotted key does. Each name is given one meaning, so a table
that a header has defined is not defined again, and dotted keys reach into no table
that they have not brought about; a header may define a table that was implied.

A way through tables goes through the last element of an array of tables.
-/

namespace ServiceWiring.Toml

/-- How a table came to be. -/
inductive Origin
  | header
  | implied
  | dotted
deriving DecidableEq, Repr

/-- What a name means in a table that is being built. -/
inductive Item
  | value (value : Json)
  | table (origin : Origin) (entries : List (String × Item))
  /-- An array of tables, the last one first. -/
  | elements (last : List (String × Item)) (before : List (List (String × Item)))

/-- The names of a table with their meanings. -/
abbrev Entries := List (String × Item)

mutual

/-- The JSON value of what a name means. -/
def Item.toJson : Item → Json
  | .value value => value
  | .table _ entries => .obj (entriesToJson entries)
  | .elements last before => .arr (elementsToJson [.obj (entriesToJson last)] before)

/-- The JSON entries of a table. -/
def entriesToJson : List (String × Item) → List (String × Json)
  | [] => []
  | (name, item) :: rest => (name, item.toJson) :: entriesToJson rest

/-- The JSON values of elements, given last to first, before those in `done`. -/
def elementsToJson (done : List Json) : List (List (String × Item)) → List Json
  | [] => done
  | entries :: before => elementsToJson (.obj (entriesToJson entries) :: done) before

end

/-- Changes the table at the end of a way, which starts in a table of the given origin.
Tables that are missing on the way come to be as `made`; of those that are there the
way avoids the ones that `closed` holds for. -/
def Entries.alter (made : Origin) (closed : Origin → Bool)
    (change : Origin → Entries → Option Entries) : List String → Origin → Entries → Option Entries
  | [], origin, entries => change origin entries
  | name :: way, _, entries =>
    match Keyed.get? name entries with
    | none => do
      let inner ← alter made closed change way made []
      some (Keyed.insert name (.table made inner) entries)
    | some (.value _) => none
    | some (.table origin inner) =>
      if closed origin then none
      else do
        let inner ← alter made closed change way origin inner
        some (Keyed.insert name (.table origin inner) entries)
    | some (.elements last before) => do
      let last ← alter made closed change way .header last
      some (Keyed.insert name (.elements last before) entries)

/-- Gives a new name a value. -/
def Entries.define (name : String) (value : Json) (entries : Entries) : Option Entries :=
  if (Keyed.get? name entries).isSome then none else some (entries ++ [(name, .value value)])

/-- Gives a dotted key a value: its last name in the table that the others lead to. That
table must have come to be by a dotted key, unless there are no others. -/
def Entries.assign (way : List String) (name : String) (value : Json) (entries : Entries) :
    Option Entries :=
  alter .dotted (· == .header)
    (fun origin inner => if !way.isEmpty && origin != .dotted then none else inner.define name value)
    way .header entries

/-- Changes the table at the end of the way that a header names. -/
def Entries.reach (way : List String) (change : Entries → Option Entries) (entries : Entries) :
    Option Entries :=
  alter .implied (fun _ => false) (fun _ inner => change inner) way .header entries

/-- Defines a table by a header. -/
def Entries.openTable (name : String) (entries : Entries) : Option Entries :=
  match Keyed.get? name entries with
  | none => some (entries ++ [(name, .table .header [])])
  | some (.table .implied inner) => some (Keyed.insert name (.table .header inner) entries)
  | some _ => none

/-- Adds an element to an array of tables by a header. -/
def Entries.openElement (name : String) (entries : Entries) : Option Entries :=
  match Keyed.get? name entries with
  | none => some (entries ++ [(name, .elements [] [])])
  | some (.elements last before) =>
    some (Keyed.insert name (.elements [] (last :: before)) entries)
  | some _ => none

end ServiceWiring.Toml
