import ServiceWiring.Files.Scanner
import ServiceWiring.Proofs.Files.Lookup

/-!
# Scans do not look into files

The skeleton of a tree has the same files, links and directories under the same names, with
nothing in the files. Where a path leads, what a walk lists and which candidates a scanner
finds is a matter of the skeleton alone. So systems with one skeleton have the same
candidates, and the same faults among them, whatever is in their files; links may be followed
or not.
-/

namespace ServiceWiring

namespace FileTree

mutual

/-- The tree with nothing in its files. -/
def skeleton : FileTree → FileTree
  | .file _ => .file .empty
  | .link target => .link target
  | .directory entries => .directory (skeletonEntries entries)

/-- The entries of a directory with nothing in the files below them. -/
def skeletonEntries : List (String × FileTree) → List (String × FileTree)
  | [] => []
  | (name, tree) :: rest => (name, tree.skeleton) :: skeletonEntries rest

end

/-- Each entry keeps its name, and becomes a skeleton by itself. -/
theorem skeletonEntries_eq_map (entries : List (String × FileTree)) :
    skeletonEntries entries = entries.map fun entry => (entry.1, entry.2.skeleton) := by
  induction entries with
  | nil => rfl
  | cons entry entries inductionHypothesis =>
    rw [skeletonEntries, inductionHypothesis, List.map_cons]

/-- A skeleton has the entries of the tree as skeletons. -/
theorem entries_skeleton (tree : FileTree) :
    tree.skeleton.entries = skeletonEntries tree.entries := by
  cases tree <;> simp [skeleton, entries, skeletonEntries]

/-- What is found under a name is the skeleton of what was. -/
theorem get?_skeletonEntries (name : String) (entries : List (String × FileTree)) :
    Keyed.get? name (skeletonEntries entries) = (Keyed.get? name entries).map skeleton := by
  induction entries with
  | nil => rfl
  | cons entry entries inductionHypothesis =>
    rw [skeletonEntries, Keyed.get?, Keyed.get?, inductionHypothesis]
    split <;> rfl

/-- What stands at a place of a skeleton is the skeleton of what stands there. -/
theorem at?_skeleton (place : Place) (tree : FileTree) :
    tree.skeleton.at? place = (tree.at? place).map skeleton := by
  induction place generalizing tree with
  | nil => rfl
  | cons name names inductionHypothesis =>
    rw [at?, at?, entries_skeleton, get?_skeletonEntries]
    cases Keyed.get? name tree.entries with
    | none => rfl
    | some child => exact inductionHypothesis child

mutual

/-- Sorting and emptying the files do not depend on one another. -/
theorem sorted_skeleton : ∀ tree : FileTree, tree.skeleton.sorted = tree.sorted.skeleton
  | .file _ | .link _ => rfl
  | .directory entries => by
    have reordered : inOrder (skeletonEntries entries) = skeletonEntries (inOrder entries) := by
      rw [inOrder, sortedEntries_skeletonEntries entries, inOrder, skeletonEntries_eq_map,
        skeletonEntries_eq_map, List.map_mergeSort]
      intro _ _ _ _
      rfl
    rw [skeleton, sorted_directory, sorted_directory, skeleton, reordered]

/-- Nor do they for the entries of a directory. -/
theorem sortedEntries_skeletonEntries : ∀ entries : List (String × FileTree),
    sortedEntries (skeletonEntries entries) = skeletonEntries (sortedEntries entries)
  | [] => rfl
  | (name, tree) :: rest => by
    rw [skeletonEntries, sortedEntries, sortedEntries, skeletonEntries, sorted_skeleton tree,
      sortedEntries_skeletonEntries rest]

end

mutual

/-- A skeleton has as many directories as its tree. -/
theorem directoryCount_skeleton : ∀ tree : FileTree,
    tree.skeleton.directoryCount = tree.directoryCount
  | .file _ | .link _ => rfl
  | .directory entries => by
    rw [skeleton, directoryCount, directoryCountIn_skeletonEntries entries, directoryCount]

/-- So have the entries of a directory. -/
theorem directoryCountIn_skeletonEntries : ∀ entries : List (String × FileTree),
    directoryCountIn (skeletonEntries entries) = directoryCountIn entries
  | [] => rfl
  | (name, tree) :: rest => by
    rw [skeletonEntries, directoryCountIn, directoryCount_skeleton tree,
      directoryCountIn_skeletonEntries rest, directoryCountIn]

end

/-- The files below some entries are listed by their names. -/
theorem filesBelow_skeletonEntries (rules : WalkRules)
    (onLink : Visit → String → List (Except WalkFault (List String))) (visit : Visit)
    (entries : List (String × FileTree)) :
    filesBelow rules onLink visit (skeletonEntries entries) =
      filesBelow rules onLink visit entries := by
  induction entries using entries_induction generalizing visit with
  | nil => rfl
  | cons name tree rest inside inductionHypothesis =>
    rw [skeletonEntries]
    cases tree with
    | file _ | link _ => rw [skeleton, filesBelow, filesBelow, inductionHypothesis]
    | directory entries =>
      rw [entries_directory] at inside
      rw [skeleton, filesBelow, filesBelow, inductionHypothesis, inside]

end FileTree

namespace FileSystem

/-- A piece of a path leads on by the names of entries and by links. -/
theorem follow_skeleton (root : FileTree) (links : Nat) (here : Place) (piece : String) :
    follow root.skeleton links here piece = follow root links here piece := by
  rw [follow, FileTree.at?_skeleton, follow]
  cases root.at? here with
  | none => rfl
  | some tree =>
    cases tree with
    | file _ | link _ => rfl
    | directory entries =>
      simp only [Option.map_some, FileTree.skeleton, FileTree.get?_skeletonEntries]
      cases Keyed.get? piece entries with
      | none => rfl
      | some child => cases child <;> rfl

/-- A lookup takes the same way through a skeleton as through its tree. -/
theorem locateFrom_skeleton (root : FileTree) (links : Nat) (here : Place) (path : List String) :
    locateFrom root.skeleton .target links here path =
      locateFrom root .target links here path := by
  induction links, here, path using lookup_induction root with
  | finished links here => rw [locateFrom_nil, locateFrom_nil]
  | further links here piece rest inductionHypothesis =>
    rw [locateFrom_cons, locateFrom_cons, follow_skeleton]
    cases followed : follow root links here piece with
    | error fault => rfl
    | ok next => exact inductionHypothesis _ _ _ followed

/-- The system with nothing in its files. -/
def skeleton (system : FileSystem) : FileSystem := { system with root := system.root.skeleton }

/-- A path leads to the same place, whatever is in files. -/
theorem locate_skeleton (path : String) (system : FileSystem) :
    system.skeleton.locate .target path = system.locate .target path := by
  simp only [locate, skeleton, locateFrom_skeleton]

/-- A link yields the same, followed or not. -/
theorem onLink_skeleton (rules : WalkRules) (system : FileSystem) (start : String) :
    onLink rules system.skeleton start = onLink rules system start := by
  have followed : ∀ depth,
      followLink rules system.skeleton start depth = followLink rules system start depth := by
    intro depth
    induction depth with
    | zero => rfl
    | succ depth inductionHypothesis =>
      funext visit name
      simp only [followLink, locate_skeleton, inductionHypothesis]
      cases system.locate .target (pathBelow start (visit.names ++ [name])) with
      | error fault => rfl
      | ok location =>
        simp only [skeleton, FileTree.at?_skeleton]
        cases system.root.at? location with
        | none => rfl
        | some tree =>
          cases tree with
          | file _ | link _ => rfl
          | directory entries =>
            simp only [Option.map_some, FileTree.skeleton, FileTree.filesBelow_skeletonEntries]
  have depths : system.skeleton.root.directoryCount = system.root.directoryCount :=
    FileTree.directoryCount_skeleton system.root
  rw [onLink, onLink, followed, depths]

/-- A walk lists the same files and meets the same faults, whatever is in the files. -/
theorem walk_skeleton (rules : WalkRules) (start : String) (system : FileSystem) :
    system.skeleton.walk rules start = system.walk rules start := by
  rw [walk, walk, locate_skeleton, onLink_skeleton]
  cases system.locate .target start with
  | error fault => rfl
  | ok location =>
    simp only [skeleton, FileTree.at?_skeleton]
    cases system.root.at? location with
    | none => rfl
    | some tree =>
      simp only [Option.map_some, Option.getD_some, FileTree.entries_skeleton,
        FileTree.filesBelow_skeletonEntries]

end FileSystem

/-- A scanner finds the same candidates in systems that differ in the content of files only. -/
theorem FileScanner.source_congr (scanner : FileScanner) {left right : FileSystem}
    (same : left.skeleton = right.skeleton) : scanner.source left = scanner.source right := by
  have walked : ∀ system : FileSystem, scanner.scan system.skeleton = scanner.scan system := by
    intro system
    have sorted : system.skeleton.sorted = system.sorted.skeleton := by
      simp only [FileSystem.sorted, FileSystem.skeleton, FileTree.sorted_skeleton]
    funext module
    unfold scan
    cases scanner.config.sorted <;>
      simp only [sorted, FileSystem.walk_skeleton, if_true, Bool.false_eq_true, if_false]
  rw [source, source, ← walked left, same, walked right]

end ServiceWiring
