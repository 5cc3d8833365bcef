import Mathlib.Data.List.Lex
import ServiceWiring.Files.Walk
import ServiceWiring.Proofs.Files.Lookup
import ServiceWiring.Proofs.Text.Bytes

/-!
# Walks that leave links alone

Without links, what a walk lists is a matter of the tree that it starts from: the places of
the wanted files there that have no excluded name on the way. `filePlaces` is that list, and
`walk_eq` says that the walk consists of it.

The main statements describe the list. It has exactly the places at which a wanted file stands
and on whose way there is no excluded name. If the entries of directories ascend, then so do
the places, compared name by name; the names are compared by their bytes.
-/

namespace ServiceWiring

/-- Whether a walk takes up a place: nothing on the way has an excluded name, and the last
name is a wanted one. -/
def WalkRules.Admits (rules : WalkRules) (place : Place) : Prop :=
  (∀ name ∈ place, rules.excludes name = false) ∧
    ∃ name, place.getLast? = some name ∧ rules.wants name = true

/-- A single name is taken up if it is wanted and not excluded. -/
theorem WalkRules.admits_singleton {rules : WalkRules} {name : String} :
    rules.Admits [name] ↔ rules.excludes name = false ∧ rules.wants name = true := by
  simp [Admits]

/-- A longer way is taken up if its first name is not excluded and the rest is taken up. -/
theorem WalkRules.admits_cons {rules : WalkRules} {name : String} {names : Place}
    (further : names ≠ []) :
    rules.Admits (name :: names) ↔ rules.excludes name = false ∧ rules.Admits names := by
  cases names with
  | nil => exact absurd rfl further
  | cons next others =>
    rw [Admits, Admits, List.getLast?_cons_cons, List.forall_mem_cons, and_assoc]

namespace FileTree

mutual

/-- The places of the wanted files under an entry: the entry itself or what is below it. Links
are left out, and so is everything with an excluded name on the way. -/
def placesUnder (rules : WalkRules) (name : String) : FileTree → List Place
  | .file _ => if rules.excludes name || !rules.wants name then [] else [[name]]
  | .link _ => []
  | .directory entries =>
    if rules.excludes name then [] else (filePlaces rules entries).map (name :: ·)

/-- The places of the wanted files below some entries, in the order of the entries. -/
def filePlaces (rules : WalkRules) : List (String × FileTree) → List Place
  | [] => []
  | (name, tree) :: rest => placesUnder rules name tree ++ filePlaces rules rest

end

/-- The files that are listed when links yield nothing are those at the places of wanted
files. -/
theorem filesBelow_eq (rules : WalkRules) (visit : Visit) (entries : List (String × FileTree)) :
    filesBelow rules (fun _ _ => []) visit entries =
      (filePlaces rules entries).map fun place => .ok (visit.names ++ place) := by
  induction entries using entries_induction generalizing visit with
  | nil => rw [filesBelow, filePlaces, List.map_nil]
  | cons name tree rest inside inductionHypothesis =>
    rw [filePlaces, List.map_append, ← inductionHypothesis]
    cases tree with
    | file content =>
      rw [filesBelow, placesUnder, listed]
      split <;> rfl
    | link target => rw [filesBelow, placesUnder, List.map_nil]
    | directory inner =>
      rw [filesBelow, placesUnder]
      split
      · rfl
      · rw [entries_directory] at inside
        simp [inside, Visit.enter]

/-- The places under an entry begin with its name. -/
theorem exists_of_mem_placesUnder {rules : WalkRules} {name : String} {tree : FileTree}
    {place : Place} (member : place ∈ placesUnder rules name tree) :
    ∃ names, place = name :: names := by
  cases tree with
  | file content =>
    rw [placesUnder] at member
    split at member
    · simp at member
    · exact ⟨[], List.mem_singleton.mp member⟩
  | link target => simp [placesUnder] at member
  | directory inner =>
    rw [placesUnder] at member
    split at member
    · simp at member
    · obtain ⟨names, _, rfl⟩ := List.mem_map.mp member
      exact ⟨names, rfl⟩

/-- The place of a file begins with the name of an entry. -/
theorem exists_of_mem_filePlaces {rules : WalkRules} {entries : List (String × FileTree)}
    {place : Place} (member : place ∈ filePlaces rules entries) :
    ∃ name ∈ Keyed.keys entries, ∃ names, place = name :: names := by
  induction entries with
  | nil => simp [filePlaces] at member
  | cons entry rest inductionHypothesis =>
    rw [filePlaces, List.mem_append] at member
    rcases member with under | among
    · exact ⟨entry.1, List.mem_cons_self, exists_of_mem_placesUnder under⟩
    · obtain ⟨name, listed, begins⟩ := inductionHypothesis among
      exact ⟨name, List.mem_cons_of_mem _ listed, begins⟩

/-- What is listed under an entry, if what is listed below it are its files that the walk takes
up. -/
theorem mem_placesUnder_iff {rules : WalkRules} {name : String} {tree : FileTree}
    {place : Place}
    (inside : ∀ names, names ∈ filePlaces rules tree.entries ↔
      (∃ content, (directory tree.entries).at? names = some (.file content)) ∧
        rules.Admits names) :
    place ∈ placesUnder rules name tree ↔
      (∃ names content, place = name :: names ∧ tree.at? names = some (.file content)) ∧
        rules.Admits place := by
  cases tree with
  | file content =>
    rw [placesUnder]
    constructor
    · intro member
      split at member
      · simp at member
      · rename_i admitted
        rw [List.mem_singleton] at member
        subst member
        exact ⟨⟨[], content, rfl, rfl⟩, WalkRules.admits_singleton.mpr (by simpa using admitted)⟩
    · rintro ⟨⟨names, found, rfl, reached⟩, admitted⟩
      obtain ⟨rfl, _⟩ := (at?_eq_some_iff_of_entries rfl).mp reached
      rw [if_neg (by simpa using WalkRules.admits_singleton.mp admitted)]
      exact List.mem_singleton_self _
  | link target =>
    rw [placesUnder]
    constructor
    · simp
    · rintro ⟨⟨names, found, rfl, reached⟩, _⟩
      exact absurd ((at?_eq_some_iff_of_entries rfl).mp reached).2 (by simp)
  | directory inner =>
    rw [entries_directory] at inside
    have proper : ∀ names content,
        (FileTree.directory inner).at? names = some (.file content) → names ≠ [] := by
      rintro names content reached rfl
      simp [at?] at reached
    rw [placesUnder]
    constructor
    · intro member
      split at member
      · simp at member
      · rename_i kept
        obtain ⟨names, listed, rfl⟩ := List.mem_map.mp member
        obtain ⟨⟨content, reached⟩, admitted⟩ := (inside names).mp listed
        refine ⟨⟨names, content, rfl, reached⟩, ?_⟩
        exact (WalkRules.admits_cons (proper names content reached)).mpr
          ⟨by simpa using kept, admitted⟩
    · rintro ⟨⟨names, content, rfl, reached⟩, admitted⟩
      obtain ⟨kept, admittedBelow⟩ :=
        (WalkRules.admits_cons (proper names content reached)).mp admitted
      rw [if_neg (by simp [kept])]
      exact List.mem_map_of_mem ((inside names).mpr ⟨⟨content, reached⟩, admittedBelow⟩)

/-- The list has exactly the places at which a file stands and that the walk takes up. -/
theorem mem_filePlaces_iff {rules : WalkRules} {entries : List (String × FileTree)}
    (formed : (directory entries).WellFormed) {place : Place} :
    place ∈ filePlaces rules entries ↔
      (∃ content, (directory entries).at? place = some (.file content)) ∧
        rules.Admits place := by
  induction entries using entries_induction generalizing place with
  | nil =>
    have nothing : ∀ content, (directory []).at? place ≠ some (.file content) :=
      fun content reached => absurd ((at?_eq_some_iff_of_entries rfl).mp reached).2 (by simp)
    simp [filePlaces, nothing]
  | cons name tree rest inside inductionHypothesis =>
    obtain ⟨_, unlike, within, others⟩ := wellFormed_cons_iff.mp formed
    rw [filePlaces, List.mem_append, inductionHypothesis others,
      mem_placesUnder_iff fun names => inside within.entries, ← or_and_right]
    refine and_congr_left fun _ => ?_
    by_cases top : place = []
    · simp [top, at?]
    · simp only [at?_cons_entry_iff unlike top, exists_or]
      rw [exists_comm]

/-- The same for what a tree holds. A file that stands at the top is none below it. -/
theorem mem_filePlaces_entries_iff {rules : WalkRules} {tree : FileTree}
    (formed : tree.WellFormed) {place : Place} :
    place ∈ filePlaces rules tree.entries ↔
      (∃ content, tree.at? place = some (.file content)) ∧ rules.Admits place := by
  rw [mem_filePlaces_iff formed.entries]
  refine and_congr_left fun ⟨_, name, ends, _⟩ => ?_
  cases place with
  | nil => simp at ends
  | cons first names => rfl

/-- If entries ascend then so do the places of the files below them. -/
theorem pairwise_filePlaces (rules : WalkRules) {entries : List (String × FileTree)}
    (ascending : (directory entries).Ascending) :
    (filePlaces rules entries).Pairwise (List.Lex (· < ·)) := by
  induction entries using entries_induction with
  | nil => rw [filePlaces]; exact .nil
  | cons name tree rest inside inductionHypothesis =>
    obtain ⟨below, within, others⟩ := ascending_cons_iff.mp ascending
    rw [filePlaces, List.pairwise_append]
    refine ⟨?_, inductionHypothesis others, fun first under second among => ?_⟩
    · cases tree with
      | file content =>
        rw [placesUnder]
        split
        · exact .nil
        · exact List.pairwise_singleton _ _
      | link target => rw [placesUnder]; exact .nil
      | directory inner =>
        rw [placesUnder]
        split
        · exact .nil
        · exact (inside within).map _ fun _ _ earlier => .cons earlier
    · obtain ⟨names, rfl⟩ := exists_of_mem_placesUnder under
      obtain ⟨other, listed, further, rfl⟩ := exists_of_mem_filePlaces among
      exact .rel (below other listed)

/-- Places that ascend do so by the bytes of their names, and none occurs twice. -/
theorem pairwise_bytesBefore {places : List Place} (inOrder : places.Pairwise (List.Lex (· < ·))) :
    places.Pairwise (List.Lex Text.BytesBefore) ∧ places.Nodup := by
  refine ⟨inOrder.imp fun earlier => ?_, inOrder.imp fun earlier same => ?_⟩
  · exact List.Lex.imp (fun _ _ => Text.bytesBefore_of_lt) _ _ earlier
  · exact List.lex_irrefl String.lt_irrefl _ (same ▸ earlier)

end FileTree

/-- A walk that leaves links alone lists the places of the wanted files in the tree that it
starts from. If the start leads nowhere then the walk consists of that fault. -/
theorem FileSystem.walk_eq {rules : WalkRules} (unfollowed : rules.followsLinks = false)
    (start : String) (system : FileSystem) :
    system.walk rules start =
      match system.find start with
      | .error fault => [.error (.system start fault)]
      | .ok tree => (FileTree.filePlaces rules tree.entries).map .ok := by
  unfold walk find
  cases located : system.locate .target start with
  | error fault => rfl
  | ok place =>
    obtain ⟨tree, stood⟩ := exists_at?_of_locate located
    have silent : onLink rules system start = fun _ _ => [] := by
      rw [onLink, if_neg (by simp [unfollowed])]
    simp [bind, Except.bind, stood, silent, FileTree.filesBelow_eq]

end ServiceWiring
