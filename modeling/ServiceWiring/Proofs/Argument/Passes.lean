import ServiceWiring.Keyed
import ServiceWiring.Proofs.Argument.Resolution

/-!
# Passes over trees of arguments

A pass looks at the strings among the literals of a tree and makes nodes of some of them. What
it makes is a reference or a tagged group, which no pass looks at again. Two facts follow for
all passes. One pass after another is a single pass whose rule asks the first rule and then the
second; and a pass keeps the shape of a tree, so that what stands at a position after the pass
is what the pass makes of the node that stood there before.

The laws of resolution are laws of its rules, then. A rule asked twice answers as if asked once,
and the two rules may be asked in either order since no text begins with both marks. The main
statement gathers these laws, and what resolution leaves where it is.
-/

namespace ServiceWiring.ArgumentTree

/-! ## Rules -/

/-- Whether a rule makes nothing of a text but references and tagged groups. -/
def LeafRule.MakesNodes (rule : LeafRule) : Prop :=
  ∀ text node, rule text = some node →
    (∃ target, node = reference target) ∨ ∃ tag, node = taggedGroup tag

/-- The rule that asks one rule, and another one where the first has no answer. -/
def LeafRule.orElse (first second : LeafRule) : LeafRule :=
  fun text => (first text).or (second text)

/-- The first pass makes references. -/
theorem makesNodes_referenceRule : LeafRule.MakesNodes referenceRule := by
  intro text node made
  obtain ⟨target, -, rfl⟩ := Option.map_eq_some_iff.mp made
  exact .inl ⟨target, rfl⟩

/-- The second pass makes tagged groups. -/
theorem makesNodes_taggedRule : LeafRule.MakesNodes taggedRule := by
  intro text node made
  obtain ⟨tag, -, rfl⟩ := Option.map_eq_some_iff.mp made
  exact .inr ⟨tag, rfl⟩

/-- Two rules that make nodes do so together. -/
theorem LeafRule.MakesNodes.orElse {first second : LeafRule} (firstMakes : first.MakesNodes)
    (secondMakes : second.MakesNodes) : (first.orElse second).MakesNodes := by
  intro text node made
  rcases Option.or_eq_some_iff.mp made with own | ⟨-, other⟩
  · exact firstMakes text node own
  · exact secondMakes text node other

/-- A rule has nothing to add to itself. -/
theorem LeafRule.orElse_self (rule : LeafRule) : rule.orElse rule = rule := by
  funext text
  exact Option.or_self

/-- No text begins with both marks, so the order in which they are looked for does not matter. -/
theorem orElse_marks_comm :
    LeafRule.orElse referenceRule taggedRule = LeafRule.orElse taggedRule referenceRule := by
  funext text
  rw [LeafRule.orElse, LeafRule.orElse]
  cases grouped : taggedRule text with
  | none => rw [Option.or_none, Option.none_or]
  | some node =>
    obtain ⟨tag, marked, -⟩ := Option.map_eq_some_iff.mp grouped
    have unmarked : referenceRule text = none := by
      rw [referenceRule, Option.map_eq_none_iff, afterMark?_eq_none_iff,
        (afterMark?_eq_some_iff _ _ _).mp marked, String.toList_append]
      simp [referenceMark, taggedMark]
    rw [unmarked, Option.none_or, Option.or_none]

/-! ## Passes one after another -/

/-- Induction over trees: what holds of the items of a list holds of the list, and what holds of
the values in a map holds of the map. -/
theorem tree_induction {motive : ArgumentTree → Prop} (onLiteral : ∀ value, motive (literal value))
    (onReference : ∀ target, motive (reference target))
    (onTaggedGroup : ∀ tag, motive (taggedGroup tag))
    (onList : ∀ items, (∀ item ∈ items, motive item) → motive (list items))
    (onMap : ∀ entries, (∀ entry ∈ entries, motive entry.2) → motive (map entries))
    (tree : ArgumentTree) : motive tree := by
  -- The recursor also asks what is to hold of lists of trees, of entries and of a single entry.
  refine @ArgumentTree.rec motive (fun items => ∀ item ∈ items, motive item)
    (fun entries => ∀ entry ∈ entries, motive entry.2) (fun entry => motive entry.2)
    onLiteral onReference onTaggedGroup onList onMap ?_ ?_ ?_ ?_ ?_ tree
  · exact List.forall_mem_nil _
  · exact fun item items first others => List.forall_mem_cons.mpr ⟨first, others⟩
  · exact List.forall_mem_nil _
  · exact fun entry entries first others => List.forall_mem_cons.mpr ⟨first, others⟩
  · exact fun key value holds => holds

/-- A pass goes through the items of a list. -/
theorem rewriteLeaves_list (rule : LeafRule) (items : List ArgumentTree) :
    rewriteLeaves rule (list items) = list (items.map (rewriteLeaves rule)) := by
  have each : rewriteItems rule items = items.map (rewriteLeaves rule) := by
    induction items with
    | nil => rfl
    | cons item items inductionHypothesis =>
      rw [rewriteItems, inductionHypothesis, List.map_cons]
  rw [rewriteLeaves, each]

/-- A pass goes through the values in a map. -/
theorem rewriteLeaves_map (rule : LeafRule) (entries : List (String × ArgumentTree)) :
    rewriteLeaves rule (map entries) =
      map (entries.map fun entry => (entry.1, rewriteLeaves rule entry.2)) := by
  have each : rewriteEntries rule entries =
      entries.map fun entry => (entry.1, rewriteLeaves rule entry.2) := by
    induction entries with
    | nil => rfl
    | cons entry entries inductionHypothesis =>
      rw [rewriteEntries, inductionHypothesis, List.map_cons]
  rw [rewriteLeaves, each]

/-- A reference stays as it is. -/
theorem rewriteLeaves_reference (rule : LeafRule) (target : String) :
    rewriteLeaves rule (reference target) = reference target := by
  simp only [rewriteLeaves]

/-- A tagged group stays as it is. -/
theorem rewriteLeaves_taggedGroup (rule : LeafRule) (tag : String) :
    rewriteLeaves rule (taggedGroup tag) = taggedGroup tag := by
  simp only [rewriteLeaves]

/-- A literal that is no string stays as it is. -/
theorem rewriteLeaves_literal (rule : LeafRule) {value : Json} (noText : ∀ text, value ≠ .str text) :
    rewriteLeaves rule (literal value) = literal value := by
  cases value with
  | str text => exact absurd rfl (noText text)
  | _ => simp only [rewriteLeaves]

/-- No pass touches what a rule has made. -/
theorem LeafRule.MakesNodes.rewriteLeaves_made {rule : LeafRule} (makes : rule.MakesNodes)
    {text : String} {node : ArgumentTree} (made : rule text = some node) (other : LeafRule) :
    rewriteLeaves other node = node := by
  rcases makes text node made with ⟨target, rfl⟩ | ⟨tag, rfl⟩
  · exact rewriteLeaves_reference other target
  · exact rewriteLeaves_taggedGroup other tag

/-- Two passes one after the other are a single pass: a string that the first pass makes a node
of is out of reach of the second one, and all other strings are left to it. -/
theorem LeafRule.MakesNodes.rewriteLeaves_rewriteLeaves {first : LeafRule}
    (makes : first.MakesNodes) (second : LeafRule) (tree : ArgumentTree) :
    rewriteLeaves second (rewriteLeaves first tree) = rewriteLeaves (first.orElse second) tree := by
  induction tree using tree_induction with
  | onLiteral value =>
    cases value with
    | str text =>
      simp only [rewriteLeaves, LeafRule.orElse]
      cases made : first text with
      | none => simp only [Option.getD_none, Option.none_or, rewriteLeaves]
      | some node =>
        rw [Option.some_or, Option.getD_some, makes.rewriteLeaves_made made]
    | _ => simp only [rewriteLeaves]
  | onReference target => simp only [rewriteLeaves_reference]
  | onTaggedGroup tag => simp only [rewriteLeaves_taggedGroup]
  | onList items inductionHypothesis =>
    simp only [rewriteLeaves_list, List.map_map, list.injEq]
    exact List.map_congr_left inductionHypothesis
  | onMap entries inductionHypothesis =>
    simp only [rewriteLeaves_map, List.map_map, map.injEq]
    apply List.map_congr_left
    intro entry member
    simp only [Function.comp_apply, inductionHypothesis entry member]

/-- The rule that resolution follows in a single pass. -/
def resolutionRule : LeafRule := LeafRule.orElse referenceRule taggedRule

/-- Both passes together make nothing else. -/
theorem makesNodes_resolutionRule : resolutionRule.MakesNodes :=
  makesNodes_referenceRule.orElse makesNodes_taggedRule

/-- Resolution is a single pass. -/
theorem resolve_eq_rewriteLeaves (tree : ArgumentTree) :
    resolve tree = rewriteLeaves resolutionRule tree :=
  makesNodes_referenceRule.rewriteLeaves_rewriteLeaves taggedRule tree

/-! ## Positions -/

/-- The trees directly below a node, in their order. -/
def children : ArgumentTree → List ArgumentTree
  | list items => items
  | map entries => entries.map Prod.snd
  | literal _ | reference _ | taggedGroup _ => []

/-- What stands at a position of a tree. A position is the way to it from the top, as the
numbers of the children that are passed. -/
def at? : List Nat → ArgumentTree → Option ArgumentTree
  | [], tree => some tree
  | number :: numbers, tree => tree.children[number]?.bind (at? numbers)

/-- A pass goes through the children of a node, and gives none to a node without. -/
theorem LeafRule.MakesNodes.children_rewriteLeaves {rule : LeafRule} (makes : rule.MakesNodes)
    (tree : ArgumentTree) :
    (rewriteLeaves rule tree).children = tree.children.map (rewriteLeaves rule) := by
  cases tree with
  | literal value =>
    cases value with
    | str text =>
      rw [rewriteLeaves]
      cases made : rule text with
      | none => rfl
      | some node => rcases makes text node made with ⟨target, rfl⟩ | ⟨tag, rfl⟩ <;> rfl
    | _ => simp only [rewriteLeaves, children, List.map_nil]
  | reference target => rw [rewriteLeaves_reference, children, List.map_nil]
  | taggedGroup tag => rw [rewriteLeaves_taggedGroup, children, List.map_nil]
  | list items => rw [rewriteLeaves_list, children, children]
  | map entries =>
    rw [rewriteLeaves_map, children, children, List.map_map, List.map_map]
    rfl

/-- After a pass there stands at a position what the pass makes of the tree that stood there. -/
theorem LeafRule.MakesNodes.at?_rewriteLeaves {rule : LeafRule} (makes : rule.MakesNodes)
    (position : List Nat) (tree : ArgumentTree) :
    (rewriteLeaves rule tree).at? position = (tree.at? position).map (rewriteLeaves rule) := by
  induction position generalizing tree with
  | nil => rfl
  | cons number numbers inductionHypothesis =>
    rw [at?, at?, makes.children_rewriteLeaves, List.getElem?_map]
    cases tree.children[number]? with
    | none => rfl
    | some child => exact inductionHypothesis child

/-- Resolution can be repeated and taken apart: each of its passes does nothing the second time,
the passes can change places, and a resolved tree is resolved. It keeps the positions of a tree,
and what stands there: references, tagged groups and literals that are no strings, whatever
these hold, and the lists with their lengths and the maps with their keys in order.

Proof: resolution and each of its passes are passes, two passes are one, and a position of a
tree has after a pass what the pass makes of its node. -/
theorem resolution_laws (tree : ArgumentTree) :
    resolveReferences (resolveReferences tree) = resolveReferences tree ∧
    resolveTagged (resolveTagged tree) = resolveTagged tree ∧
    resolveTagged (resolveReferences tree) = resolveReferences (resolveTagged tree) ∧
    resolve (resolve tree) = resolve tree ∧
    ∀ position,
      (tree.at? position = none → (resolve tree).at? position = none) ∧
      (∀ target, tree.at? position = some (reference target) →
        (resolve tree).at? position = some (reference target)) ∧
      (∀ tag, tree.at? position = some (taggedGroup tag) →
        (resolve tree).at? position = some (taggedGroup tag)) ∧
      (∀ value, (∀ text, value ≠ .str text) → tree.at? position = some (literal value) →
        (resolve tree).at? position = some (literal value)) ∧
      (∀ items, tree.at? position = some (list items) →
        ∃ resolved, (resolve tree).at? position = some (list resolved) ∧
          resolved.length = items.length) ∧
      (∀ entries, tree.at? position = some (map entries) →
        ∃ resolved, (resolve tree).at? position = some (map resolved) ∧
          Keyed.keys resolved = Keyed.keys entries) := by
  refine ⟨?_, ?_, ?_, ?_, ?_⟩
  · rw [resolveReferences, makesNodes_referenceRule.rewriteLeaves_rewriteLeaves,
      LeafRule.orElse_self]
  · rw [resolveTagged, makesNodes_taggedRule.rewriteLeaves_rewriteLeaves, LeafRule.orElse_self]
  · rw [resolveTagged, resolveReferences, makesNodes_referenceRule.rewriteLeaves_rewriteLeaves,
      makesNodes_taggedRule.rewriteLeaves_rewriteLeaves, orElse_marks_comm]
  · simp only [resolve_eq_rewriteLeaves]
    rw [makesNodes_resolutionRule.rewriteLeaves_rewriteLeaves, LeafRule.orElse_self]
  · intro position
    have there : (resolve tree).at? position =
        (tree.at? position).map (rewriteLeaves resolutionRule) := by
      rw [resolve_eq_rewriteLeaves, makesNodes_resolutionRule.at?_rewriteLeaves]
    rw [there]
    refine ⟨?_, ?_, ?_, ?_, ?_, ?_⟩
    · intro nothing
      rw [nothing, Option.map_none]
    · intro target stood
      rw [stood, Option.map_some, rewriteLeaves_reference]
    · intro tag stood
      rw [stood, Option.map_some, rewriteLeaves_taggedGroup]
    · intro value noText stood
      rw [stood, Option.map_some, rewriteLeaves_literal _ noText]
    · intro items stood
      rw [stood, Option.map_some, rewriteLeaves_list]
      exact ⟨_, rfl, List.length_map _⟩
    · intro entries stood
      rw [stood, Option.map_some, rewriteLeaves_map]
      refine ⟨_, rfl, ?_⟩
      rw [Keyed.keys, Keyed.keys, List.map_map]
      rfl

/-- A literal array is a leaf, whatever stands in it. -/
example :
    resolve (list [literal (.arr [.str "@x"]), literal (.str "@@x"), reference "!tagged x"]) =
      list [literal (.arr [.str "@x"]), reference "@x", reference "!tagged x"] := by
  decide +kernel

end ServiceWiring.ArgumentTree
