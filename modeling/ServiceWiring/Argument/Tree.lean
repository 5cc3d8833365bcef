import ServiceWiring.Json.Basic

/-!
# Argument trees

Constructor arguments and factories are trees whose leaves are plain values or
references. A reference names one registered service, a tagged group names all
services that carry a tag. Lists and maps keep the order of their parts.

A tree taken from a JSON value has no references yet: its leaves are the scalars
of the value.
-/

namespace ServiceWiring

/-- A tree of constructor arguments. -/
inductive ArgumentTree
  | literal (value : Json)
  | reference (target : String)
  | taggedGroup (tag : String)
  | list (items : List ArgumentTree)
  | map (entries : List (String × ArgumentTree))
deriving Repr

namespace ArgumentTree

/-- The tree of a service that declares no arguments. -/
def empty : ArgumentTree := list []

mutual

/-- The tree of a JSON value: arrays become lists, objects become maps, and
scalars become literals. -/
def ofJson : Json → ArgumentTree
  | .arr items => list (ofItems items)
  | .obj entries => map (ofEntries entries)
  | scalar => literal scalar

/-- The trees of the items of an array. -/
def ofItems : List Json → List ArgumentTree
  | [] => []
  | item :: items => ofJson item :: ofItems items

/-- The trees of the entries of an object, under the same keys. -/
def ofEntries : List (String × Json) → List (String × ArgumentTree)
  | [] => []
  | (key, value) :: entries => (key, ofJson value) :: ofEntries entries

end

mutual

/-- The targets of all references of a tree, from left to right. -/
def references : ArgumentTree → List String
  | reference target => [target]
  | list items => itemReferences items
  | map entries => entryReferences entries
  | literal _ | taggedGroup _ => []

/-- The targets of the references in a list of trees. -/
def itemReferences : List ArgumentTree → List String
  | [] => []
  | item :: items => references item ++ itemReferences items

/-- The targets of the references under the keys of a map. -/
def entryReferences : List (String × ArgumentTree) → List String
  | [] => []
  | (_, value) :: entries => references value ++ entryReferences entries

end

mutual

/-- Whether two trees are the same. -/
def same : ArgumentTree → ArgumentTree → Bool
  | literal left, literal right => left == right
  | reference left, reference right => left == right
  | taggedGroup left, taggedGroup right => left == right
  | list left, list right => sameItems left right
  | map left, map right => sameEntries left right
  | _, _ => false

/-- Whether two lists hold the same trees at the same places. -/
def sameItems : List ArgumentTree → List ArgumentTree → Bool
  | [], [] => true
  | left :: lefts, right :: rights => same left right && sameItems lefts rights
  | _, _ => false

/-- Whether two maps hold the same trees under the same keys in the same order. -/
def sameEntries : List (String × ArgumentTree) → List (String × ArgumentTree) → Bool
  | [], [] => true
  | (leftKey, left) :: lefts, (rightKey, right) :: rights =>
    leftKey == rightKey && same left right && sameEntries lefts rights
  | _, _ => false

end

mutual

/-- `same` decides equality. -/
theorem same_iff : ∀ left right : ArgumentTree, same left right = true ↔ left = right
  | .literal _, right => by cases right <;> simp [same]
  | .reference _, right => by cases right <;> simp [same]
  | .taggedGroup _, right => by cases right <;> simp [same]
  | .list items, right => by cases right <;> simp [same, sameItems_iff items]
  | .map entries, right => by cases right <;> simp [same, sameEntries_iff entries]

/-- `sameItems` decides equality of lists of trees. -/
theorem sameItems_iff :
    ∀ left right : List ArgumentTree, sameItems left right = true ↔ left = right
  | [], right => by cases right <;> simp [sameItems]
  | left :: lefts, right => by
    cases right <;> simp [sameItems, same_iff left, sameItems_iff lefts]

/-- `sameEntries` decides equality of the entries of maps. -/
theorem sameEntries_iff :
    ∀ left right : List (String × ArgumentTree), sameEntries left right = true ↔ left = right
  | [], right => by cases right <;> simp [sameEntries]
  | (leftKey, left) :: lefts, right => by
    cases right with
    | nil => simp [sameEntries]
    | cons entry rights =>
      obtain ⟨rightKey, right⟩ := entry
      simp [sameEntries, same_iff left, sameEntries_iff lefts, and_assoc]

end

instance : DecidableEq ArgumentTree := fun left right =>
  decidable_of_iff _ (same_iff left right)

end ArgumentTree

end ServiceWiring
