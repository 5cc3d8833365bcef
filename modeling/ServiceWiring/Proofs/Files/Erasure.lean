import ServiceWiring.Proofs.Files.Tree

/-!
# Trees without an entry

When what stands at a place is taken away, everything else stays: what stands at any other place
is what stood there, less the entry if it was below. `without` says this of a tree that itself
stands somewhere, so that a walk can take it along.

The main statements are that erasing a place leaves the tree without the entry there, that a
well-formed tree stays well-formed, and that the order of the entries does not matter.
-/

namespace ServiceWiring

namespace FileTree

mutual

/-- A tree that stands somewhere, without the entry at a place. -/
def without (place here : Place) : FileTree → FileTree
  | .directory entries => .directory (withoutIn place here entries)
  | tree => tree

/-- The entries of a directory that is somewhere, without the entry at a place. -/
def withoutIn (place here : Place) : List (String × FileTree) → List (String × FileTree)
  | [] => []
  | (name, tree) :: rest =>
    if here ++ [name] = place then withoutIn place here rest
    else (name, tree.without place (here ++ [name])) :: withoutIn place here rest

end

/-- A file has no entry to lose. -/
@[simp]
theorem without_file (place here : Place) (content : ByteArray) :
    (file content).without place here = file content := rfl

/-- Neither has a link. -/
@[simp]
theorem without_link (place here : Place) (target : String) :
    (link target).without place here = link target := rfl

/-- A directory loses an entry, or one of its entries does. -/
@[simp]
theorem without_directory (place here : Place) (entries : List (String × FileTree)) :
    (directory entries).without place here = directory (withoutIn place here entries) := by
  rw [without]

/-- The entries of a tree are left without the one at the place. -/
theorem entries_without (place here : Place) (tree : FileTree) :
    (tree.without place here).entries = withoutIn place here tree.entries := by
  cases tree <;> simp [without, entries, withoutIn]

/-- The entry at the place goes, and the others are treated each by itself. -/
theorem withoutIn_eq_filterMap (place here : Place) (entries : List (String × FileTree)) :
    withoutIn place here entries = entries.filterMap fun entry =>
      if here ++ [entry.1] = place then none
      else some (entry.1, entry.2.without place (here ++ [entry.1])) := by
  induction entries with
  | nil => rw [withoutIn, List.filterMap_nil]
  | cons entry rest inductionHypothesis =>
    rw [withoutIn, List.filterMap_cons, inductionHypothesis]
    split <;> rfl

/-- The entry at the place is not found any more. Any other one is found, without the entry. -/
theorem get?_withoutIn (place here : Place) (name : String) (entries : List (String × FileTree)) :
    Keyed.get? name (withoutIn place here entries) =
      if here ++ [name] = place then none
      else (Keyed.get? name entries).map (without place (here ++ [name])) := by
  induction entries with
  | nil => simp [withoutIn, Keyed.get?]
  | cons entry rest inductionHypothesis =>
    rw [withoutIn]
    by_cases same : entry.1 = name
    · split <;> rename_i away
      · rw [inductionHypothesis, if_pos (same ▸ away), if_pos (same ▸ away)]
      · rw [Keyed.get?, if_pos same, Keyed.get?, if_pos same, if_neg (same ▸ away), same]
        rfl
    · split
      · rw [inductionHypothesis, Keyed.get?, if_neg same]
      · rw [Keyed.get?, if_neg same, inductionHypothesis, Keyed.get?, if_neg same]

/-- What stands neither at the place nor below it is found where it stood, without the entry. -/
theorem at?_without {place here names : Place} (apart : ¬ place <+: here ++ names)
    (tree : FileTree) :
    (tree.without place here).at? names = (tree.at? names).map (without place (here ++ names)) := by
  induction names generalizing here tree with
  | nil => simp [at?]
  | cons name names inductionHypothesis =>
    have split : here ++ name :: names = (here ++ [name]) ++ names := by simp
    have different : here ++ [name] ≠ place := by
      rintro rfl
      exact apart (split ▸ List.prefix_append _ _)
    rw [at?, at?, entries_without, get?_withoutIn, if_neg different]
    rw [split] at apart ⊢
    cases Keyed.get? name tree.entries with
    | none => rfl
    | some child => exact inductionHypothesis apart child

mutual

/-- A tree that is not on the way to the place stays as it is. -/
theorem without_of_not_prefix {place here : Place} (apart : ¬ here <+: place) :
    ∀ tree : FileTree, tree.without place here = tree
  | .file _ | .link _ => rfl
  | .directory entries => by rw [without, withoutIn_of_not_prefix apart entries]

/-- So do the entries of a directory that is not on the way. -/
theorem withoutIn_of_not_prefix {place here : Place} (apart : ¬ here <+: place) :
    ∀ entries : List (String × FileTree), withoutIn place here entries = entries
  | [] => by rw [withoutIn]
  | (name, tree) :: rest => by
    have further : ¬ here ++ [name] <+: place := fun leads =>
      apart ((List.prefix_append _ _).trans leads)
    have different : here ++ [name] ≠ place := fun same => further (same ▸ List.prefix_refl _)
    rw [withoutIn, if_neg different, without_of_not_prefix further tree,
      withoutIn_of_not_prefix apart rest]

end

/-- Entries of other names than the first one on the way to the place are not on that way. -/
theorem without_of_ne {name other : String} (different : other ≠ name) (names here : Place)
    (tree : FileTree) : tree.without (here ++ name :: names) (here ++ [other]) = tree := by
  refine without_of_not_prefix (fun leads => different ?_) tree
  rw [List.prefix_append_right_inj, List.cons_prefix_cons] at leads
  exact leads.1

/-- Erasing what stands at a place leaves the tree without that entry. -/
theorem erase_eq_without {names : Place} (below : names ≠ []) (here : Place) (tree : FileTree) :
    tree.erase names = tree.without (here ++ names) here := by
  induction names generalizing here tree with
  | nil => exact absurd rfl below
  | cons name names inductionHypothesis =>
    cases tree with
    | file _ | link _ => cases names <;> rfl
    | directory entries =>
      rw [without]
      cases names with
      | nil =>
        rw [erase]
        congr 1
        induction entries with
        | nil => rw [withoutIn, List.filter_nil]
        | cons entry rest others =>
          by_cases same : entry.1 = name
          · simp [withoutIn, same, others]
          · simp [withoutIn, same, others, without_of_ne]
      | cons next names =>
        have inside := inductionHypothesis (by simp) (here ++ [name])
        simp only [List.append_assoc, List.singleton_append] at inside
        change directory (entries.map _) = _
        congr 1
        induction entries with
        | nil => rw [withoutIn, List.map_nil]
        | cons entry rest others =>
          have further : here ++ [entry.1] ≠ here ++ name :: next :: names := by simp
          rw [List.map_cons, others, withoutIn, if_neg further]
          congr 1
          by_cases same : entry.1 = name
          · subst same
            simp [inside]
          · simp [same, without_of_ne]

/-! ## Well-formed trees -/

/-- The names in a directory without the entry are names in the directory. -/
theorem keys_withoutIn_subset (place here : Place) (entries : List (String × FileTree)) :
    Keyed.keys (withoutIn place here entries) ⊆ Keyed.keys entries := by
  induction entries with
  | nil => simp [withoutIn, Keyed.keys]
  | cons entry rest inductionHypothesis =>
    rw [withoutIn]
    split
    · exact List.subset_cons_of_subset _ inductionHypothesis
    · exact List.cons_subset_cons _ inductionHypothesis

/-- A well-formed directory is well-formed without the entry. -/
theorem WellFormed.withoutIn {place : Place} {entries : List (String × FileTree)}
    (formed : (directory entries).WellFormed) (here : Place) :
    (directory (withoutIn place here entries)).WellFormed := by
  induction entries using entries_induction generalizing here with
  | nil =>
    rw [FileTree.withoutIn]
    exact wellFormed_directory_nil
  | cons name tree rest inside inductionHypothesis =>
    obtain ⟨named, unlike, within, others⟩ := wellFormed_cons_iff.mp formed
    have further := inductionHypothesis others here
    rw [FileTree.withoutIn]
    split
    · exact further
    · have below : (tree.without place (here ++ [name])).WellFormed := by
        cases tree with
        | file _ | link _ => exact wellFormed_of_entries rfl
        | directory inner =>
          rw [without]
          exact inside within _
      exact wellFormed_cons_iff.mpr
        ⟨named, fun listed => unlike (keys_withoutIn_subset _ _ _ listed), below, further⟩

/-- The order of the entries in a directory is not a matter of the entry that is left out, if
those of the directories below are not. Two lists of the same entries in ascending order are the
same. -/
theorem inOrder_withoutIn {place here : Place} {entries : List (String × FileTree)}
    (formed : (directory entries).WellFormed)
    (inside : sortedEntries (withoutIn place here entries) =
      withoutIn place here (sortedEntries entries)) :
    inOrder (withoutIn place here entries) = withoutIn place here (inOrder entries) := by
  have ascending : ∀ {entries : List (String × FileTree)}, (directory entries).WellFormed →
      (inOrder entries).Pairwise fun left right => left.1 < right.1 := fun {entries} formed => by
    have whole := ascending_sorted formed
    rw [sorted_directory] at whole
    exact whole [] _ rfl
  have permuted : (inOrder (withoutIn place here entries)).Perm
      (withoutIn place here (inOrder entries)) := by
    refine (List.mergeSort_perm ..).trans ?_
    rw [inside, withoutIn_eq_filterMap, withoutIn_eq_filterMap]
    exact ((List.mergeSort_perm ..).filterMap _).symm
  have ascendingToo : (withoutIn place here (inOrder entries)).Pairwise
      fun left right => left.1 < right.1 := by
    rw [withoutIn_eq_filterMap]
    refine (ascending formed).filterMap _ ?_
    intro left right below first isFirst second isSecond
    split_ifs at isFirst isSecond
    cases isFirst
    cases isSecond
    exact below
  refine permuted.eq_of_pairwise ?_ (ascending (formed.withoutIn here)) ascendingToo
  exact fun left right _ _ below above => absurd above (String.lt_asymm below)

/-- Sorting the entries of a directory is not a matter of the entry that is left out. -/
theorem sortedEntries_withoutIn {place : Place} {entries : List (String × FileTree)}
    (formed : (directory entries).WellFormed) (here : Place) :
    sortedEntries (withoutIn place here entries) =
      withoutIn place here (sortedEntries entries) := by
  induction entries using entries_induction generalizing here with
  | nil => rw [withoutIn, sortedEntries, withoutIn]
  | cons name tree rest inside inductionHypothesis =>
    obtain ⟨_, _, within, others⟩ := wellFormed_cons_iff.mp formed
    have below : (tree.without place (here ++ [name])).sorted =
        tree.sorted.without place (here ++ [name]) := by
      cases tree with
      | file _ | link _ => rfl
      | directory inner =>
        rw [without, sorted_directory, sorted_directory, without,
          inOrder_withoutIn within (inside within _)]
    rw [withoutIn, sortedEntries, withoutIn, ← inductionHypothesis others here]
    split
    · rfl
    · rw [sortedEntries, below]

/-- Sorting a tree and leaving an entry out do not depend on one another. -/
theorem sorted_without {tree : FileTree} (formed : tree.WellFormed) (place here : Place) :
    (tree.without place here).sorted = tree.sorted.without place here := by
  cases tree with
  | file _ | link _ => rfl
  | directory entries =>
    rw [without, sorted_directory, sorted_directory, without,
      inOrder_withoutIn formed (sortedEntries_withoutIn formed here)]

end FileTree

end ServiceWiring
