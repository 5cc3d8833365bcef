import ServiceWiring.Proofs.Files.Scanner

/-!
# Pruned trees

A tree is pruned by leaving out every entry with an excluded name, and with it all that is
below. No file that a walk takes up is lost by that, and none is gained: the places of the
wanted files are the same before and after.

The main statements are about two systems in which a path leads to the same, up to what is
pruned away. A scanner that leaves links alone finds the same in both for a module at that
path, and the paths of the files that it finds lead to the same contents.
-/

namespace ServiceWiring

namespace FileTree

mutual

/-- The tree without the entries that have an excluded name. -/
def pruned (excludes : String → Bool) : FileTree → FileTree
  | .directory entries => .directory (prunedEntries excludes entries)
  | tree => tree

/-- Entries without those that have an excluded name, and pruned themselves. -/
def prunedEntries (excludes : String → Bool) :
    List (String × FileTree) → List (String × FileTree)
  | [] => []
  | (name, tree) :: rest =>
    if excludes name then prunedEntries excludes rest
    else (name, tree.pruned excludes) :: prunedEntries excludes rest

end

/-- What is in a pruned tree is what is in the tree, pruned. -/
theorem entries_pruned (excludes : String → Bool) (tree : FileTree) :
    (tree.pruned excludes).entries = prunedEntries excludes tree.entries := by
  cases tree <;> simp [pruned, entries, prunedEntries]

/-- An entry with an excluded name is not found any more; any other one is found, pruned. -/
theorem get?_prunedEntries (excludes : String → Bool) (name : String)
    (entries : List (String × FileTree)) :
    Keyed.get? name (prunedEntries excludes entries) =
      if excludes name then none else (Keyed.get? name entries).map (pruned excludes) := by
  induction entries with
  | nil => simp [prunedEntries, Keyed.get?]
  | cons entry rest inductionHypothesis =>
    by_cases same : entry.1 = name
    · cases excluded : excludes name <;>
        simp [prunedEntries, Keyed.get?, inductionHypothesis, same, excluded]
    · cases other : excludes entry.1 <;>
        simp [prunedEntries, Keyed.get?, inductionHypothesis, same, other]

/-- Files stay at their places when a tree is pruned, unless there is an excluded name on the
way. -/
theorem at?_pruned_eq_file_iff {excludes : String → Bool} {tree : FileTree} {place : Place}
    {content : ByteArray} :
    (tree.pruned excludes).at? place = some (.file content) ↔
      tree.at? place = some (.file content) ∧ ∀ name ∈ place, excludes name = false := by
  induction place generalizing tree with
  | nil => cases tree <;> simp [pruned, at?]
  | cons name names inductionHypothesis =>
    rw [at?, at?, entries_pruned, get?_prunedEntries, List.forall_mem_cons]
    cases excludes name with
    | true => simp
    | false =>
      cases Keyed.get? name tree.entries with
      | none => simp
      | some child => simpa using @inductionHypothesis child

/-- Pruning by the excluded names of a walk takes no wanted file away from it. -/
theorem filePlaces_prunedEntries (rules : WalkRules) (entries : List (String × FileTree)) :
    filePlaces rules (prunedEntries rules.excludes entries) = filePlaces rules entries := by
  induction entries using entries_induction with
  | nil => rw [prunedEntries]
  | cons name tree rest inside inductionHypothesis =>
    rw [prunedEntries, filePlaces]
    cases excluded : rules.excludes name with
    | true =>
      have nothing : placesUnder rules name tree = [] := by
        cases tree <;> simp [placesUnder, excluded]
      rw [if_pos rfl, inductionHypothesis, nothing, List.nil_append]
    | false =>
      have same : placesUnder rules name (tree.pruned rules.excludes) =
          placesUnder rules name tree := by
        cases tree with
        | file _ => rfl
        | link _ => rfl
        | directory inner =>
          rw [entries_directory] at inside
          rw [pruned, placesUnder, placesUnder, inside]
      rw [if_neg Bool.false_ne_true, filePlaces, inductionHypothesis, same]

end FileTree

/-- What a scan goes through in a tree: nothing with an excluded name, and the rest in the order
of the names if the scan sorts. -/
def ScanConfig.visible (config : ScanConfig) (tree : FileTree) : FileTree :=
  (if config.sorted then tree.sorted else tree).pruned config.excludedNames.contains

/-- Whether a path is the same in two systems for someone who does not look below excluded
names: it leads nowhere for the same reason, or to trees in which the same is visible. -/
def ScanConfig.AgreeAt (config : ScanConfig) (first second : FileSystem) (path : String) : Prop :=
  (first.find path).map config.visible = (second.find path).map config.visible

/-- Two systems that agree at a path have the same fault there or trees that look the same. -/
theorem ScanConfig.AgreeAt.cases {config : ScanConfig} {first second : FileSystem} {path : String}
    (agree : config.AgreeAt first second path) :
    (∃ fault, first.find path = .error fault ∧ second.find path = .error fault) ∨
      ∃ tree other, first.find path = .ok tree ∧ second.find path = .ok other ∧
        config.visible tree = config.visible other := by
  unfold AgreeAt at agree
  cases firstFound : first.find path <;> cases secondFound : second.find path <;>
    simp_all [Except.map]

namespace FileScanner

/-- The places that a scanner goes through are those of the files that are visible to it. -/
theorem filePlaces_arranged (scanner : FileScanner) (tree : FileTree) :
    FileTree.filePlaces scanner.rules (scanner.arranged tree).entries =
      FileTree.filePlaces scanner.rules (scanner.config.visible tree).entries := by
  rw [ScanConfig.visible, FileTree.entries_pruned]
  exact (FileTree.filePlaces_prunedEntries scanner.rules _).symm

/-- A scanner finds the same in a module in two systems that agree at its path. -/
theorem scan_eq_of_agreeAt {scanner : FileScanner} {first second : FileSystem} {module : Module}
    (unfollowed : scanner.config.followLinks = false) (own : scanner.skips module = false)
    (formedFirst : first.root.WellFormed) (formedSecond : second.root.WellFormed)
    (agree : scanner.config.AgreeAt first second module.path) :
    scanner.scan first module = scanner.scan second module := by
  rw [scan_eq unfollowed own formedFirst, scan_eq unfollowed own formedSecond]
  rcases agree.cases with ⟨fault, nowhere, nowhereElse⟩ | ⟨tree, other, found, otherFound, same⟩
  · rw [nowhere, nowhereElse]
  · rw [found, otherFound]
    dsimp only
    rw [filePlaces_arranged, filePlaces_arranged, same]

/-- A file is visible to a scanner if it stands in the tree without an excluded name on the way. -/
theorem at?_visible_eq_file_iff {config : ScanConfig} {tree : FileTree}
    (formed : tree.WellFormed) {place : Place} {content : ByteArray} :
    (config.visible tree).at? place = some (.file content) ↔
      tree.at? place = some (.file content) ∧ ∀ name ∈ place, name ∉ config.excludedNames := by
  rw [ScanConfig.visible, FileTree.at?_pruned_eq_file_iff]
  simp only [List.contains_eq_mem, decide_eq_false_iff_not]
  split
  · rw [FileTree.at?_sorted_eq_file_iff formed]
  · rfl

/-- The files that a scanner finds in a module are read alike in two systems that agree at its
path. -/
theorem find_eq_of_agreeAt {scanner : FileScanner} {first second : FileSystem} {module : Module}
    (unfollowed : scanner.config.followLinks = false) (own : scanner.skips module = false)
    (formedFirst : first.root.WellFormed) (formedSecond : second.root.WellFormed)
    (agree : scanner.config.AgreeAt first second module.path) {candidate : CandidateFile}
    (scanned : .ok candidate ∈ scanner.scan first module) :
    ∃ path : String, candidate.path = path ∧ first.find path = second.find path := by
  rw [scan_eq unfollowed own formedFirst] at scanned
  rcases agree.cases with ⟨fault, nowhere, _⟩ | ⟨tree, other, found, otherFound, same⟩
  · simp [nowhere] at scanned
  · rw [found] at scanned
    obtain ⟨place, listed, made⟩ := List.mem_map.mp scanned
    obtain rfl := Except.ok.inj made
    obtain ⟨_, _, stood⟩ := FileSystem.find_eq_ok_iff.mp found
    obtain ⟨_, _, otherStood⟩ := FileSystem.find_eq_ok_iff.mp otherFound
    obtain ⟨⟨content, reached⟩, below, unexcluded⟩ :=
      exists_file_of_listed (formedFirst.below stood) listed
    have visible :=
      (at?_visible_eq_file_iff (formedFirst.below stood)).mpr ⟨reached, unexcluded⟩
    rw [same] at visible
    have otherReached := ((at?_visible_eq_file_iff (formedSecond.below otherStood)).mp visible).1
    obtain ⟨-, path, spelled, leads⟩ := candidate_reaches formedFirst found below reached
    obtain ⟨-, other, otherSpelled, otherLeads⟩ :=
      candidate_reaches formedSecond otherFound below otherReached
    obtain rfl := RawPath.ofText_inj.mp (spelled.symm.trans otherSpelled)
    exact ⟨path, spelled, leads.trans otherLeads.symm⟩

end FileScanner

end ServiceWiring
