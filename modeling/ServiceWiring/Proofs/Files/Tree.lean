import Mathlib.Data.List.Perm.Basic
import ServiceWiring.Files.Tree
import ServiceWiring.Proofs.Keyed

/-!
# Well-formed trees

In a tree that a file system can hold, no directory has two entries of one name, and every
name is one that a path can spell: not empty, without a slash, and neither of the two names
that paths use for directions. Both are said of the directories at all places of the tree, so
a tree that hangs below a place is well-formed with the whole.

The main statements are about sorting. It changes nothing but the order of entries: at each
place stands the same as before, sorted itself. Afterwards the names in every directory
ascend.
-/

namespace ServiceWiring

/-- Whether a text can be the name of an entry. -/
def IsEntryName (name : String) : Prop :=
  name ≠ "" ∧ name ≠ "." ∧ name ≠ ".." ∧ '/' ∉ name.toList

/-- Names of entries can be told from other texts. -/
instance (name : String) : Decidable (IsEntryName name) :=
  inferInstanceAs (Decidable (_ ∧ _))

namespace FileTree

/-- Whether something holds of the entries of every directory of the tree, its top included. -/
def Everywhere (holds : List (String × FileTree) → Prop) (tree : FileTree) : Prop :=
  ∀ place entries, tree.at? place = some (.directory entries) → holds entries

/-- Whether a file system can hold the tree. -/
def WellFormed (tree : FileTree) : Prop :=
  tree.Everywhere fun entries =>
    (Keyed.keys entries).Nodup ∧ ∀ name ∈ Keyed.keys entries, IsEntryName name

/-- Whether the names in every directory of the tree ascend. -/
def Ascending (tree : FileTree) : Prop :=
  tree.Everywhere fun entries => entries.Pairwise fun left right => left.1 < right.1

/-- A directory has the entries that it is made of. -/
@[simp]
theorem entries_directory (listed : List (String × FileTree)) :
    (directory listed).entries = listed := rfl

/-- Induction over the entries of a directory and over the entries of each of them. What is no
directory has none. -/
@[elab_as_elim]
theorem entries_induction {motive : List (String × FileTree) → Prop} (nil : motive [])
    (cons : ∀ name tree rest, motive tree.entries → motive rest →
      motive ((name, tree) :: rest))
    (entries : List (String × FileTree)) : motive entries :=
  match entries with
  | [] => nil
  | (name, .file content) :: rest =>
    cons name (.file content) rest nil (entries_induction nil cons rest)
  | (name, .link target) :: rest =>
    cons name (.link target) rest nil (entries_induction nil cons rest)
  | (name, .directory inner) :: rest =>
    cons name (.directory inner) rest (entries_induction nil cons inner)
      (entries_induction nil cons rest)

/-- A way through a tree can be gone in two parts. -/
theorem at?_append (front back : Place) (tree : FileTree) :
    tree.at? (front ++ back) = (tree.at? front).bind (at? back) := by
  induction front generalizing tree with
  | nil => rfl
  | cons name front inductionHypothesis =>
    rw [List.cons_append, at?, at?]
    cases Keyed.get? name tree.entries with
    | none => rfl
    | some child => exact inductionHypothesis child

/-- What stands in a directory under a name is one step away. -/
theorem at?_singleton (name : String) (entries : List (String × FileTree)) :
    (directory entries).at? [name] = Keyed.get? name entries := by
  rw [at?, entries_directory]
  cases Keyed.get? name entries <;> rfl

/-- What stands in a directory under a name is at the place of the directory and the name. -/
theorem at?_concat {tree : FileTree} {place : Place} {entries : List (String × FileTree)}
    (found : tree.at? place = some (.directory entries)) (name : String) :
    tree.at? (place ++ [name]) = Keyed.get? name entries := by
  rw [at?_append, found, Option.bind_some, at?_singleton]

/-- Something can be found only in a directory. -/
theorem at?_cons_eq_some_iff {tree found : FileTree} {name : String} {names : Place} :
    tree.at? (name :: names) = some found ↔
      ∃ entries child, tree = .directory entries ∧ Keyed.get? name entries = some child ∧
        child.at? names = some found := by
  rw [at?, Option.bind_eq_some_iff]
  cases tree with
  | directory entries => simp
  | file _ => simp [FileTree.entries, Keyed.get?]
  | link _ => simp [FileTree.entries, Keyed.get?]

/-- Where there are no entries there is nothing but the top. -/
theorem at?_eq_some_iff_of_entries {tree found : FileTree} (bare : tree.entries = [])
    {place : Place} : tree.at? place = some found ↔ place = [] ∧ tree = found := by
  cases place with
  | nil => simp [at?]
  | cons name names => simp [at?, bare, Keyed.get?]

/-- What stands below some entries is the first one of them, or below it, or it is among the
others. -/
theorem at?_cons_entry_iff {name : String} {tree found : FileTree}
    {rest : List (String × FileTree)} (distinct : name ∉ Keyed.keys rest) {place : Place}
    (below : place ≠ []) :
    (directory ((name, tree) :: rest)).at? place = some found ↔
      (∃ names, place = name :: names ∧ tree.at? names = some found) ∨
        (directory rest).at? place = some found := by
  cases place with
  | nil => exact absurd rfl below
  | cons first names =>
    rw [at?, at?, entries_directory, entries_directory, Keyed.get?]
    by_cases same : name = first
    · subst same
      have absent : Keyed.get? name rest = none := Keyed.get?_eq_none distinct
      simp [absent]
    · simp [same, Ne.symm same]

section Everywhere

variable {holds : List (String × FileTree) → Prop}

/-- What holds everywhere in a tree does so below each place of it. -/
theorem Everywhere.below {tree child : FileTree} {place : Place} (whole : tree.Everywhere holds)
    (found : tree.at? place = some child) : child.Everywhere holds := by
  intro further entries inside
  exact whole (place ++ further) entries (by rw [at?_append, found, Option.bind_some, inside])

/-- In a tree without entries there is at most one directory, which is empty. -/
theorem everywhere_of_entries (empty : holds []) {tree : FileTree} (bare : tree.entries = []) :
    tree.Everywhere holds := by
  intro place entries found
  obtain ⟨rfl, rfl⟩ := (at?_eq_some_iff_of_entries bare).mp found
  rw [entries_directory] at bare
  rwa [bare]

/-- Something that holds of entries only if it does of all but the first one holds everywhere in
a directory if it holds of the entries, everywhere in what the first one holds, and everywhere
in a directory of the others. -/
theorem everywhere_cons_iff {name : String} {tree : FileTree} {rest : List (String × FileTree)}
    (shorter : holds ((name, tree) :: rest) → name ∉ Keyed.keys rest ∧ holds rest) :
    (directory ((name, tree) :: rest)).Everywhere holds ↔
      holds ((name, tree) :: rest) ∧ tree.Everywhere holds ∧
        (directory rest).Everywhere holds := by
  constructor
  · intro whole
    have top := whole [] _ rfl
    obtain ⟨unlike, others⟩ := shorter top
    refine ⟨top, fun place entries found => ?_, fun place entries found => ?_⟩
    · exact whole (name :: place) entries
        ((at?_cons_entry_iff unlike (by simp)).mpr (.inl ⟨place, rfl, found⟩))
    · cases place with
      | nil =>
        obtain rfl : rest = entries := by simpa [at?] using found
        exact others
      | cons first names =>
        exact whole (first :: names) entries
          ((at?_cons_entry_iff unlike (by simp)).mpr (.inr found))
  · rintro ⟨top, within, others⟩ place entries found
    by_cases start : place = []
    · subst start
      obtain rfl : (name, tree) :: rest = entries := by simpa [at?] using found
      exact top
    · rcases (at?_cons_entry_iff (shorter top).1 start).mp found with ⟨names, rfl, below⟩ | among
      · exact within names entries below
      · exact others place entries among

end Everywhere

namespace WellFormed

/-- What stands at a place of a well-formed tree is well-formed. -/
theorem below {tree child : FileTree} {place : Place} (formed : tree.WellFormed)
    (found : tree.at? place = some child) : child.WellFormed :=
  Everywhere.below formed found

/-- What is found in a well-formed directory is well-formed. -/
theorem child {name : String} {child : FileTree} {entries : List (String × FileTree)}
    (formed : (FileTree.directory entries).WellFormed)
    (listed : Keyed.get? name entries = some child) : child.WellFormed :=
  formed.below ((at?_singleton name entries).trans listed)

/-- The names on the way to something in a well-formed tree are names of entries. -/
theorem isEntryName_of_mem {tree found : FileTree} {place : Place} (formed : tree.WellFormed)
    (reached : tree.at? place = some found) : ∀ name ∈ place, IsEntryName name := by
  induction place generalizing tree with
  | nil => simp
  | cons first names inductionHypothesis =>
    obtain ⟨entries, child, rfl, listed, further⟩ := at?_cons_eq_some_iff.mp reached
    have named : IsEntryName first := (formed [] entries rfl).2 first
      (List.mem_map_of_mem (Keyed.mem_of_get?_eq_some listed))
    exact List.forall_mem_cons.mpr ⟨named, inductionHypothesis (formed.child listed) further⟩

/-- What a directory in a well-formed tree lists is at the place of the directory and the name. -/
theorem at?_of_mem {tree child : FileTree} {place : Place} {name : String}
    {entries : List (String × FileTree)} (formed : tree.WellFormed)
    (found : tree.at? place = some (.directory entries)) (listed : (name, child) ∈ entries) :
    tree.at? (place ++ [name]) = some child :=
  (at?_concat found name).trans (Keyed.get?_of_mem (formed place entries found).1 listed)

end WellFormed

/-- A tree without entries is well-formed. -/
theorem wellFormed_of_entries {tree : FileTree} (bare : tree.entries = []) : tree.WellFormed :=
  everywhere_of_entries (by simp [Keyed.keys]) bare

/-- A file is well-formed whatever it holds. -/
@[simp]
theorem wellFormed_file (content : ByteArray) : (file content).WellFormed :=
  wellFormed_of_entries rfl

/-- A link is well-formed wherever it leads. -/
@[simp]
theorem wellFormed_link (target : String) : (link target).WellFormed :=
  wellFormed_of_entries rfl

/-- A directory without entries is well-formed. -/
@[simp]
theorem wellFormed_directory_nil : (directory []).WellFormed :=
  wellFormed_of_entries rfl

/-- A directory is well-formed if its first entry has a name of its own and holds a
well-formed tree, and the other entries are a well-formed directory. -/
theorem wellFormed_cons_iff {name : String} {tree : FileTree} {rest : List (String × FileTree)} :
    (directory ((name, tree) :: rest)).WellFormed ↔
      IsEntryName name ∧ name ∉ Keyed.keys rest ∧ tree.WellFormed ∧
        (directory rest).WellFormed := by
  rw [WellFormed, everywhere_cons_iff]
  · simp only [Keyed.keys, List.map_cons, List.nodup_cons, List.forall_mem_cons]
    constructor
    · rintro ⟨⟨⟨unlike, _⟩, named, _⟩, within, others⟩
      exact ⟨named, unlike, within, others⟩
    · rintro ⟨named, unlike, within, others⟩
      exact ⟨⟨⟨unlike, (others [] rest rfl).1⟩, named, (others [] rest rfl).2⟩, within, others⟩
  · rintro ⟨distinct, named⟩
    exact ⟨(List.nodup_cons.mp distinct).1, (List.nodup_cons.mp distinct).2,
      (List.forall_mem_cons.mp named).2⟩

/-- What a well-formed tree holds is the content of a well-formed directory. -/
theorem WellFormed.entries {tree : FileTree} (formed : tree.WellFormed) :
    (directory tree.entries).WellFormed := by
  cases tree with
  | directory inner => exact formed
  | file _ | link _ => exact wellFormed_of_entries rfl

/-- A tree without entries ascends. -/
theorem ascending_of_entries {tree : FileTree} (bare : tree.entries = []) : tree.Ascending :=
  everywhere_of_entries .nil bare

/-- A file ascends, having no names. -/
@[simp]
theorem ascending_file (content : ByteArray) : (file content).Ascending :=
  ascending_of_entries rfl

/-- A link ascends, having no names. -/
@[simp]
theorem ascending_link (target : String) : (link target).Ascending :=
  ascending_of_entries rfl

/-- A directory without entries ascends. -/
@[simp]
theorem ascending_directory_nil : (directory []).Ascending :=
  ascending_of_entries rfl

/-- A directory ascends if the name of its first entry comes before the others, and what the
first one holds ascends, and so do the others. -/
theorem ascending_cons_iff {name : String} {tree : FileTree} {rest : List (String × FileTree)} :
    (directory ((name, tree) :: rest)).Ascending ↔
      (∀ other ∈ Keyed.keys rest, name < other) ∧ tree.Ascending ∧
        (directory rest).Ascending := by
  have first : (∀ entry ∈ rest, name < entry.1) ↔ ∀ other ∈ Keyed.keys rest, name < other := by
    simp [Keyed.keys]
  rw [Ascending, everywhere_cons_iff]
  · rw [List.pairwise_cons, first]
    constructor
    · rintro ⟨⟨below, _⟩, within, others⟩
      exact ⟨below, within, others⟩
    · rintro ⟨below, within, others⟩
      exact ⟨⟨below, others [] rest rfl⟩, within, others⟩
  · intro inTurn
    obtain ⟨below, others⟩ := List.pairwise_cons.mp inTurn
    exact ⟨fun member => String.lt_irrefl name (first.mp below name member), others⟩

/-- Sorting a directory sorts what is in it and puts the entries in order. -/
theorem sortedEntries_eq_map (entries : List (String × FileTree)) :
    sortedEntries entries = entries.map fun entry => (entry.1, entry.2.sorted) := by
  induction entries with
  | nil => rfl
  | cons entry entries inductionHypothesis =>
    rw [sortedEntries, inductionHypothesis, List.map_cons]

/-- The entries of a directory in the order of their names, each of them sorted. -/
def inOrder (entries : List (String × FileTree)) : List (String × FileTree) :=
  (sortedEntries entries).mergeSort fun left right => !(right.1 < left.1)

/-- Sorting a directory puts its sorted entries in order. -/
theorem sorted_directory (entries : List (String × FileTree)) :
    (directory entries).sorted = .directory (inOrder entries) := by
  rw [sorted, inOrder]

/-- Sorting keeps the names of a directory, up to their order. -/
theorem keys_inOrder (entries : List (String × FileTree)) :
    (Keyed.keys (inOrder entries)).Perm (Keyed.keys entries) := by
  have names : Keyed.keys (sortedEntries entries) = Keyed.keys entries := by
    rw [sortedEntries_eq_map, Keyed.keys, List.map_map]
    rfl
  rw [← names]
  exact (List.mergeSort_perm ..).map Prod.fst

/-- What is found in a directory is found, sorted, in the sorted one. -/
theorem get?_inOrder {entries : List (String × FileTree)} (distinct : (Keyed.keys entries).Nodup)
    (name : String) :
    Keyed.get? name (inOrder entries) = (Keyed.get? name entries).map sorted := by
  have distinctToo : (Keyed.keys (inOrder entries)).Nodup :=
    (keys_inOrder entries).nodup_iff.mpr distinct
  cases found : Keyed.get? name entries with
  | none =>
    apply Keyed.get?_eq_none
    rw [(keys_inOrder entries).mem_iff, ← Keyed.get?_isSome_iff, found]
    simp
  | some child =>
    apply Keyed.get?_of_mem distinctToo
    rw [inOrder, (List.mergeSort_perm ..).mem_iff, sortedEntries_eq_map, List.mem_map]
    exact ⟨(name, child), Keyed.mem_of_get?_eq_some found, rfl⟩

/-- At each place of a sorted tree stands what stood there before, sorted. -/
theorem at?_sorted {tree : FileTree} (formed : tree.WellFormed) (place : Place) :
    tree.sorted.at? place = (tree.at? place).map sorted := by
  induction place generalizing tree with
  | nil => rfl
  | cons name names inductionHypothesis =>
    cases tree with
    | file _ => rfl
    | link _ => rfl
    | directory entries =>
      have listed := get?_inOrder (formed [] entries rfl).1 name
      rw [sorted_directory, at?, at?]
      rw [entries_directory, entries_directory, listed]
      cases found : Keyed.get? name entries with
      | none => rfl
      | some child => exact inductionHypothesis (formed.child found)

/-- Sorting moves no file. -/
theorem at?_sorted_eq_file_iff {tree : FileTree} (formed : tree.WellFormed) {place : Place}
    {content : ByteArray} :
    tree.sorted.at? place = some (.file content) ↔ tree.at? place = some (.file content) := by
  rw [at?_sorted formed, Option.map_eq_some_iff]
  constructor
  · rintro ⟨child, stood, same⟩
    cases child with
    | file _ => exact stood.trans (congrArg some same)
    | link _ => simp [sorted] at same
    | directory _ => simp [sorted] at same
  · exact fun stood => ⟨_, stood, rfl⟩

/-- A directory of a sorted tree holds the entries of one of the tree, in order. -/
theorem exists_of_at?_sorted {tree : FileTree} (formed : tree.WellFormed) {place : Place}
    {entries : List (String × FileTree)}
    (found : tree.sorted.at? place = some (.directory entries)) :
    ∃ unsorted, tree.at? place = some (.directory unsorted) ∧ entries = inOrder unsorted := by
  rw [at?_sorted formed, Option.map_eq_some_iff] at found
  obtain ⟨child, stood, same⟩ := found
  cases child with
  | file _ => simp [sorted] at same
  | link _ => simp [sorted] at same
  | directory unsorted =>
    rw [sorted_directory, FileTree.directory.injEq] at same
    exact ⟨unsorted, stood, same.symm⟩

/-- Sorting keeps a tree well-formed. -/
theorem WellFormed.sorted {tree : FileTree} (formed : tree.WellFormed) :
    tree.sorted.WellFormed := by
  intro place entries found
  obtain ⟨unsorted, stood, rfl⟩ := exists_of_at?_sorted formed found
  obtain ⟨distinct, named⟩ := formed place unsorted stood
  refine ⟨(keys_inOrder unsorted).nodup_iff.mpr distinct, fun name member => named name ?_⟩
  exact (keys_inOrder unsorted).mem_iff.mp member

/-- In a sorted tree names ascend. Names that do not descend and differ ascend. -/
theorem ascending_sorted {tree : FileTree} (formed : tree.WellFormed) :
    tree.sorted.Ascending := by
  intro place entries found
  obtain ⟨unsorted, stood, rfl⟩ := exists_of_at?_sorted formed found
  have distinct : (Keyed.keys (inOrder unsorted)).Nodup :=
    (keys_inOrder unsorted).nodup_iff.mpr (formed place unsorted stood).1
  have transitive : ∀ first second third : String × FileTree,
      (!decide (second.1 < first.1)) = true → (!decide (third.1 < second.1)) = true →
      (!decide (third.1 < first.1)) = true := by
    intro first second third below above
    simp only [Bool.not_eq_true', decide_eq_false_iff_not, String.not_lt] at below above ⊢
    exact String.le_trans below above
  have total : ∀ first second : String × FileTree,
      (!decide (second.1 < first.1) || !decide (first.1 < second.1)) = true := by
    intro first second
    simp only [Bool.or_eq_true, Bool.not_eq_true', decide_eq_false_iff_not, String.not_lt]
    exact String.le_total _ _
  have weak : (inOrder unsorted).Pairwise fun left right =>
      (!decide (right.1 < left.1)) = true :=
    List.pairwise_mergeSort transitive total _
  have strict := weak.and (List.pairwise_map.mp distinct)
  refine strict.imp fun both => ?_
  simp only [Bool.not_eq_true', decide_eq_false_iff_not, String.not_lt] at both
  by_contra notBelow
  exact both.2 (String.le_antisymm both.1 (String.not_lt.mp notBelow))

/-- A directory that ascends is in order if what is in it is sorted. -/
theorem sorted_directory_of_ascending {entries : List (String × FileTree)}
    (ascending : (directory entries).Ascending) (inside : sortedEntries entries = entries) :
    (directory entries).sorted = .directory entries := by
  have weak : entries.Pairwise fun left right => (!decide (right.1 < left.1)) = true :=
    (ascending [] entries rfl).imp fun below => by
      simp only [Bool.not_eq_true', decide_eq_false_iff_not]
      exact String.lt_asymm below
  rw [sorted_directory, inOrder, inside, List.mergeSort_of_pairwise weak]

/-- A tree that ascends is sorted already. -/
theorem sorted_of_ascending {tree : FileTree} (ascending : tree.Ascending) :
    tree.sorted = tree := by
  have within : ∀ entries : List (String × FileTree), (directory entries).Ascending →
      sortedEntries entries = entries := by
    intro entries ascends
    induction entries using entries_induction with
    | nil => rfl
    | cons name tree rest inside inductionHypothesis =>
      obtain ⟨_, below, others⟩ := ascending_cons_iff.mp ascends
      have same : tree.sorted = tree := by
        cases tree with
        | file _ => rfl
        | link _ => rfl
        | directory inner => exact sorted_directory_of_ascending below (inside below)
      rw [sortedEntries, same, inductionHypothesis others]
  cases tree with
  | file _ => rfl
  | link _ => rfl
  | directory entries => exact sorted_directory_of_ascending ascending (within entries ascending)

end FileTree

end ServiceWiring
