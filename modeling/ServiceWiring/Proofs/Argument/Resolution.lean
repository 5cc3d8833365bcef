import ServiceWiring.Argument.Resolution

/-!
# What resolution makes of a payload

Resolution gives each marked string of a payload a node of its own. The main statement is
that it loses nothing and misses nothing. Writing the nodes as marked strings again gives the
payload back, with the same nesting, keys and order; and the literals that are left are
scalars, none of them a string with a mark.

The two halves determine the result. A string that begins with a mark can only have become
the node of that mark, since any other node is written in another way; so it does not matter
that the text behind one mark may look like the other one.
-/

namespace ServiceWiring.ArgumentTree

mutual

/-- A tree as the payload that it stands for: nodes as strings with their marks. -/
def toPayload : ArgumentTree → Json
  | literal value => value
  | reference target => .str ("@" ++ target)
  | taggedGroup tag => .str ("!tagged " ++ tag)
  | list items => .arr (itemsToPayload items)
  | map entries => .obj (entriesToPayload entries)

/-- The payloads of a list of trees. -/
def itemsToPayload : List ArgumentTree → List Json
  | [] => []
  | item :: items => toPayload item :: itemsToPayload items

/-- The payloads of the trees in a map, under the same keys. -/
def entriesToPayload : List (String × ArgumentTree) → List (String × Json)
  | [] => []
  | (key, value) :: entries => (key, toPayload value) :: entriesToPayload entries

end

mutual

/-- The literals of a tree at any depth, from left to right. -/
def literals : ArgumentTree → List Json
  | literal value => [value]
  | list items => itemLiterals items
  | map entries => entryLiterals entries
  | reference _ | taggedGroup _ => []

/-- The literals in a list of trees. -/
def itemLiterals : List ArgumentTree → List Json
  | [] => []
  | item :: items => literals item ++ itemLiterals items

/-- The literals under the keys of a map. -/
def entryLiterals : List (String × ArgumentTree) → List Json
  | [] => []
  | (_, value) :: entries => literals value ++ entryLiterals entries

end

/-- Whether a literal is a scalar, and no string that begins with a mark. -/
def IsPlain : Json → Prop
  | .str text => ¬"@".toList <+: text.toList ∧ ¬"!tagged ".toList <+: text.toList
  | .arr _ | .obj _ => False
  | .null | .bool _ | .int _ | .double _ => True

/-- A text that begins with a mark is the mark and the text after it. -/
theorem afterMark?_eq_some_iff (mark text rest : String) :
    afterMark? mark text = some rest ↔ text = mark ++ rest := by
  rw [afterMark?, Option.map_eq_some_iff]
  simp only [Text.stripPrefix?_eq_some_iff]
  constructor
  · rintro ⟨after, parts, rfl⟩
    rw [← String.toList_inj, String.toList_append, String.toList_ofList, parts]
  · rintro rfl
    exact ⟨rest.toList, String.toList_append, String.ofList_toList⟩

/-- A text without a mark at its beginning has nothing after the mark. -/
theorem afterMark?_eq_none_iff (mark text : String) :
    afterMark? mark text = none ↔ ¬mark.toList <+: text.toList := by
  constructor
  · rintro none ⟨after, parts⟩
    have found : afterMark? mark text = some (String.ofList after) := by
      rw [afterMark?_eq_some_iff, ← String.toList_inj, String.toList_append,
        String.toList_ofList, parts]
    rw [none] at found
    contradiction
  · intro unmarked
    cases found : afterMark? mark text with
    | none => rfl
    | some rest =>
      rw [afterMark?_eq_some_iff] at found
      exact absurd ⟨rest.toList, by rw [found, String.toList_append]⟩ unmarked

/-- What a string becomes: a reference, a tagged group, or the literal that it was. The pass
for references comes first, and what it leaves does not begin with the mark of one. -/
theorem resolve_text (text : String) :
    (∃ target, text = "@" ++ target ∧ resolve (literal (.str text)) = reference target) ∨
      (∃ tag, text = "!tagged " ++ tag ∧ resolve (literal (.str text)) = taggedGroup tag) ∨
      (IsPlain (.str text) ∧ resolve (literal (.str text)) = literal (.str text)) := by
  cases referred : afterMark? referenceMark text with
  | some target =>
    refine .inl ⟨target, (afterMark?_eq_some_iff _ _ _).mp referred, ?_⟩
    simp [resolve, resolveReferences, resolveTagged, rewriteLeaves, referenceRule, referred]
  | none =>
    cases grouped : afterMark? taggedMark text with
    | some tag =>
      refine .inr (.inl ⟨tag, (afterMark?_eq_some_iff _ _ _).mp grouped, ?_⟩)
      simp [resolve, resolveReferences, resolveTagged, rewriteLeaves, referenceRule, taggedRule,
        referred, grouped]
    | none =>
      refine .inr (.inr ⟨⟨(afterMark?_eq_none_iff _ _).mp referred,
        (afterMark?_eq_none_iff _ _).mp grouped⟩, ?_⟩)
      simp [resolve, resolveReferences, resolveTagged, rewriteLeaves, referenceRule, taggedRule,
        referred, grouped]

/-- The trees of a list after both passes. -/
def resolveItems (items : List ArgumentTree) : List ArgumentTree :=
  rewriteItems taggedRule (rewriteItems referenceRule items)

/-- The entries of a map after both passes. -/
def resolveEntries (entries : List (String × ArgumentTree)) : List (String × ArgumentTree) :=
  rewriteEntries taggedRule (rewriteEntries referenceRule entries)

/-- A list is resolved item by item. -/
theorem resolve_list (items : List ArgumentTree) :
    resolve (list items) = list (resolveItems items) := by
  simp only [resolve, resolveReferences, resolveTagged, rewriteLeaves, resolveItems]

/-- A map is resolved entry by entry. -/
theorem resolve_map (entries : List (String × ArgumentTree)) :
    resolve (map entries) = map (resolveEntries entries) := by
  simp only [resolve, resolveReferences, resolveTagged, rewriteLeaves, resolveEntries]

/-- The first item is resolved by itself. -/
theorem resolveItems_cons (item : ArgumentTree) (items : List ArgumentTree) :
    resolveItems (item :: items) = resolve item :: resolveItems items := by
  simp only [resolveItems, rewriteItems, resolve, resolveReferences, resolveTagged]

/-- The first entry keeps its key, and its value is resolved by itself. -/
theorem resolveEntries_cons (key : String) (value : ArgumentTree)
    (entries : List (String × ArgumentTree)) :
    resolveEntries ((key, value) :: entries) = (key, resolve value) :: resolveEntries entries := by
  simp only [resolveEntries, rewriteEntries, resolve, resolveReferences, resolveTagged]

/-- A plain value that is left as a literal is written as it is. -/
theorem written_of_literal {value : Json} (plain : IsPlain value)
    (left : resolve (ofJson value) = literal value) :
    toPayload (resolve (ofJson value)) = value ∧
      ∀ leaf ∈ literals (resolve (ofJson value)), IsPlain leaf := by
  rw [left, toPayload, literals]
  exact ⟨rfl, by simpa using plain⟩

mutual

/-- The tree of a payload is written as the payload, and its literals are plain. -/
theorem resolve_ofJson : ∀ value : Json, toPayload (resolve (ofJson value)) = value ∧
    ∀ leaf ∈ literals (resolve (ofJson value)), IsPlain leaf
  | .null => written_of_literal trivial rfl
  | .bool _ => written_of_literal trivial rfl
  | .int _ => written_of_literal trivial rfl
  | .double _ => written_of_literal trivial rfl
  | .str text => by
    have tree : ofJson (.str text) = literal (.str text) := rfl
    rcases resolve_text text with ⟨target, marked, node⟩ | ⟨tag, marked, node⟩ | ⟨plain, left⟩
    · rw [tree, node, toPayload, ← marked, literals]
      exact ⟨rfl, by simp⟩
    · rw [tree, node, toPayload, ← marked, literals]
      exact ⟨rfl, by simp⟩
    · exact written_of_literal plain left
  | .arr items => by
    obtain ⟨written, plain⟩ := resolveItems_ofItems items
    rw [ofJson, resolve_list, toPayload, literals, written]
    exact ⟨rfl, plain⟩
  | .obj entries => by
    obtain ⟨written, plain⟩ := resolveEntries_ofEntries entries
    rw [ofJson, resolve_map, toPayload, literals, written]
    exact ⟨rfl, plain⟩

/-- The trees of the items of an array are written as the items. -/
theorem resolveItems_ofItems : ∀ items : List Json,
    itemsToPayload (resolveItems (ofItems items)) = items ∧
      ∀ leaf ∈ itemLiterals (resolveItems (ofItems items)), IsPlain leaf
  | [] => ⟨rfl, by simp [ofItems, resolveItems, rewriteItems, itemLiterals]⟩
  | item :: items => by
    obtain ⟨written, plain⟩ := resolve_ofJson item
    obtain ⟨othersWritten, othersPlain⟩ := resolveItems_ofItems items
    rw [ofItems, resolveItems_cons, itemsToPayload, itemLiterals, written, othersWritten]
    refine ⟨rfl, fun leaf member => ?_⟩
    rcases List.mem_append.mp member with own | other
    · exact plain leaf own
    · exact othersPlain leaf other

/-- The trees of the entries of an object are written as the entries. -/
theorem resolveEntries_ofEntries : ∀ entries : List (String × Json),
    entriesToPayload (resolveEntries (ofEntries entries)) = entries ∧
      ∀ leaf ∈ entryLiterals (resolveEntries (ofEntries entries)), IsPlain leaf
  | [] => ⟨rfl, by simp [ofEntries, resolveEntries, rewriteEntries, entryLiterals]⟩
  | (key, value) :: entries => by
    obtain ⟨written, plain⟩ := resolve_ofJson value
    obtain ⟨othersWritten, othersPlain⟩ := resolveEntries_ofEntries entries
    rw [ofEntries, resolveEntries_cons, entriesToPayload, entryLiterals, written, othersWritten]
    refine ⟨rfl, fun leaf member => ?_⟩
    rcases List.mem_append.mp member with own | other
    · exact plain leaf own
    · exact othersPlain leaf other

end

/-- A payload can be read off its resolved tree again: written with their marks, the references
and tagged groups of the tree, with its lists, maps and literals, are the payload. No literal
of the tree, at whatever depth, is a string that begins with a mark, an array or an object. -/
theorem resolve_lossless_and_complete (value : Json) :
    toPayload (resolve (ofJson value)) = value ∧
      ∀ leaf ∈ literals (resolve (ofJson value)),
        (∀ text, leaf = .str text →
          ¬"@".toList <+: text.toList ∧ ¬"!tagged ".toList <+: text.toList) ∧
        (∀ items, leaf ≠ .arr items) ∧ ∀ entries, leaf ≠ .obj entries := by
  obtain ⟨written, plain⟩ := resolve_ofJson value
  refine ⟨written, fun leaf member => ?_⟩
  have own := plain leaf member
  refine ⟨?_, ?_, ?_⟩
  · rintro text rfl
    exact own
  · rintro items rfl
    exact own
  · rintro entries rfl
    exact own

/-- The mark that comes first counts, and a mark needs its last character. -/
example :
    resolve (ofJson (.arr [.str "@!tagged x", .str "!tagged @x", .str "@", .str "!tagged"])) =
      list [reference "!tagged x", taggedGroup "@x", reference "", literal (.str "!tagged")] := by
  decide +kernel

end ServiceWiring.ArgumentTree
