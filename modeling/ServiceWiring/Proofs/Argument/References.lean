import Mathlib.Data.List.Flatten
import ServiceWiring.Proofs.Argument.Passes

/-!
# The references of resolved trees

The references of a tree are listed from left to right. The main statement says which they are
once a payload has been resolved: the strings of the payload that begin with the mark of
references, each without its mark, in the order in which they stand and as often as they stand.
Names of entries are no strings of a payload, even if they begin with the mark.

Resolving a tree takes no reference away and leaves those that it has in their order.
-/

namespace ServiceWiring

namespace Json

mutual

/-- The strings in a value at any depth, from left to right. Keys are none of them. -/
def strings : Json → List String
  | .str text => [text]
  | .arr items => itemStrings items
  | .obj entries => entryStrings entries
  | .null | .bool _ | .int _ | .double _ => []

/-- The strings in a list of values. -/
def itemStrings : List Json → List String
  | [] => []
  | item :: items => strings item ++ itemStrings items

/-- The strings under the keys of an object. -/
def entryStrings : List (String × Json) → List String
  | [] => []
  | (_, value) :: entries => strings value ++ entryStrings entries

end

end Json

namespace ArgumentTree

/-- The targets that texts name: those of the texts that begin with the mark, without it. -/
def markedTargets (texts : List String) : List String :=
  (texts.filter fun text => text.toList.head? = some '@').map fun text =>
    String.ofList text.toList.tail

/-- The targets in texts one after the other are those of the first and then those of the others. -/
theorem markedTargets_append (front back : List String) :
    markedTargets (front ++ back) = markedTargets front ++ markedTargets back := by
  rw [markedTargets, List.filter_append, List.map_append, markedTargets, markedTargets]

/-- A text becomes a reference if it begins with the mark, and nothing with references in it
otherwise. -/
theorem references_resolve_text (text : String) :
    references (resolve (literal (.str text))) = markedTargets [text] := by
  have unmarked : ¬"@".toList <+: text.toList → markedTargets [text] = [] := by
    intro apart
    have begins : ¬text.toList.head? = some '@' := by
      intro begins
      obtain ⟨rest, written⟩ := List.head?_eq_some_iff.mp begins
      exact apart ⟨rest, written.symm⟩
    simp [markedTargets, begins]
  rcases resolve_text text with ⟨target, rfl, node⟩ | ⟨tag, rfl, node⟩ | ⟨plain, left⟩
  · rw [node, references]
    simp [markedTargets, String.toList_append]
  · rw [node, references, unmarked]
    simp [String.toList_append]
  · rw [left, references, unmarked plain.1]

mutual

/-- The references of a resolved payload are the targets that its strings name. -/
theorem references_resolve_ofJson :
    ∀ value : Json, references (resolve (ofJson value)) = markedTargets value.strings
  | .null => rfl
  | .bool _ => rfl
  | .int _ => rfl
  | .double _ => rfl
  | .str text => references_resolve_text text
  | .arr items => by
    rw [ofJson, resolve_list, references, Json.strings]
    exact itemReferences_resolveItems items
  | .obj entries => by
    rw [ofJson, resolve_map, references, Json.strings]
    exact entryReferences_resolveEntries entries

/-- The same of the items of an array. -/
theorem itemReferences_resolveItems : ∀ items : List Json,
    itemReferences (resolveItems (ofItems items)) = markedTargets (Json.itemStrings items)
  | [] => rfl
  | item :: items => by
    rw [ofItems, resolveItems_cons, itemReferences, Json.itemStrings, markedTargets_append,
      references_resolve_ofJson item, itemReferences_resolveItems items]

/-- The same of the entries of an object. -/
theorem entryReferences_resolveEntries : ∀ entries : List (String × Json),
    entryReferences (resolveEntries (ofEntries entries)) =
      markedTargets (Json.entryStrings entries)
  | [] => rfl
  | (key, value) :: entries => by
    rw [ofEntries, resolveEntries_cons, entryReferences, Json.entryStrings, markedTargets_append,
      references_resolve_ofJson value, entryReferences_resolveEntries entries]

end

/-- The references of a list are those of its items, one after the other. -/
theorem references_list (items : List ArgumentTree) :
    references (list items) = items.flatMap references := by
  rw [references]
  induction items with
  | nil => rfl
  | cons item items inductionHypothesis =>
    rw [itemReferences, inductionHypothesis, List.flatMap_cons]

/-- The references of a map are those of its values, one after the other. -/
theorem references_map (entries : List (String × ArgumentTree)) :
    references (map entries) = entries.flatMap fun entry => references entry.2 := by
  rw [references]
  induction entries with
  | nil => rfl
  | cons entry entries inductionHypothesis =>
    rw [entryReferences, inductionHypothesis, List.flatMap_cons]

/-- A pass keeps the references that a tree has, in their order. -/
theorem references_sublist_rewriteLeaves (rule : LeafRule) (tree : ArgumentTree) :
    (references tree).Sublist (references (rewriteLeaves rule tree)) := by
  induction tree using tree_induction with
  | onLiteral value => exact List.nil_sublist _
  | onReference target => simp only [rewriteLeaves_reference, List.Sublist.refl]
  | onTaggedGroup tag => exact List.nil_sublist _
  | onList items inductionHypothesis =>
    rw [rewriteLeaves_list, references_list, references_list, List.flatMap_map]
    exact List.Sublist.flatMap_right items inductionHypothesis
  | onMap entries inductionHypothesis =>
    rw [rewriteLeaves_map, references_map, references_map, List.flatMap_map]
    exact List.Sublist.flatMap_right entries inductionHypothesis

/-- The references of a resolved payload are the targets that its strings name, from left to
right and as often as they are named. Resolving a tree keeps the references that it has among
those that it gets, in their order. -/
theorem references_of_resolved :
    (∀ value : Json, references (resolve (ofJson value)) =
      (value.strings.filter fun text => text.toList.head? = some '@').map fun text =>
        String.ofList text.toList.tail) ∧
    ∀ tree : ArgumentTree, (references tree).Sublist (references (resolve tree)) := by
  refine ⟨references_resolve_ofJson, fun tree => ?_⟩
  rw [resolve_eq_rewriteLeaves]
  exact references_sublist_rewriteLeaves resolutionRule tree

/-- A target that is named twice is listed twice, and a key names none. -/
example :
    references (resolve (ofJson (.arr [.str "@b", .obj [("@key", .str "@@a"), ("c", .str "@b")]]))) =
      ["b", "@a", "b"] := by
  decide +kernel

end ArgumentTree

end ServiceWiring
