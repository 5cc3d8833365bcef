import ServiceWiring.Argument.Tree
import ServiceWiring.Json.Record

/-!
# Argument trees in JSON

A tree is written as an object with the entries `type` and `value`, in this
order. It is read from such an object with the two entries in any order and any
others beside them, or from an array of exactly the two.
-/

namespace ServiceWiring.ArgumentTree

mutual

/-- The JSON value of a tree. -/
def toJson : ArgumentTree → Json
  | literal value => .obj [("type", .str "literal"), ("value", value)]
  | reference target => .obj [("type", .str "reference"), ("value", .str target)]
  | taggedGroup tag => .obj [("type", .str "tagged_group_reference"), ("value", .str tag)]
  | list items => .obj [("type", .str "list"), ("value", .arr (itemsToJson items))]
  | map entries => .obj [("type", .str "map"), ("value", .obj (entriesToJson entries))]

/-- The JSON values of a list of trees. -/
def itemsToJson : List ArgumentTree → List Json
  | [] => []
  | item :: items => toJson item :: itemsToJson items

/-- The JSON values of the trees in a map, under the same keys. -/
def entriesToJson : List (String × ArgumentTree) → List (String × Json)
  | [] => []
  | (key, value) :: entries => (key, toJson value) :: entriesToJson entries

end

/-- The kinds of tree that the entry `type` tells apart. -/
inductive Kind
  | literal
  | reference
  | taggedGroup
  | list
  | map
deriving DecidableEq, Repr

/-- The kinds by their names. -/
def Kind.names : List (String × Kind) :=
  [("literal", .literal), ("reference", .reference),
    ("tagged_group_reference", .taggedGroup), ("list", .list), ("map", .map)]

mutual

/-- The tree that a JSON value describes, if it describes one. -/
def ofJson? : Json → Option ArgumentTree
  | .obj entries => do
    let kind ← (Keyed.get? "type" entries).bind (Json.choice? Kind.names)
    ofValueEntry? kind entries
  | .arr [type, value] => do
    let kind ← Json.choice? Kind.names type
    ofValue? kind value
  | _ => none

/-- The tree whose value is under the key `value`. -/
def ofValueEntry? (kind : Kind) : List (String × Json) → Option ArgumentTree
  | [] => none
  | (key, value) :: entries =>
    if key = "value" then ofValue? kind value else ofValueEntry? kind entries

/-- The tree of a kind with the given value. -/
def ofValue? (kind : Kind) (value : Json) : Option ArgumentTree :=
  match kind, value with
  | .literal, value => some (literal value)
  | .reference, .str target => some (reference target)
  | .taggedGroup, .str tag => some (taggedGroup tag)
  | .list, .arr items => (ofItems? items).map list
  | .map, .obj entries => (ofEntries? entries).map map
  | _, _ => none

/-- The trees that the items of an array describe. -/
def ofItems? : List Json → Option (List ArgumentTree)
  | [] => some []
  | item :: items => do
    let tree ← ofJson? item
    let trees ← ofItems? items
    some (tree :: trees)

/-- The trees that the entries of an object describe. -/
def ofEntries? : List (String × Json) → Option (List (String × ArgumentTree))
  | [] => some []
  | (key, value) :: entries => do
    let tree ← ofJson? value
    let trees ← ofEntries? entries
    some ((key, tree) :: trees)

end

end ServiceWiring.ArgumentTree
