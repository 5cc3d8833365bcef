import ServiceWiring.Proofs.Class.Index
import ServiceWiring.Proofs.Files.Lookup
import ServiceWiring.Proofs.Files.Scanner

/-!
# Walks list no file twice

A walk gives each file the names on the way to it. Two ways may lead to one file when links are
followed, but no way is listed twice, because the entries of a directory have different names
and what is below an entry has its name on the way. That needs a well-formed system; it holds
for links that are followed and for links that are left alone.

The main statement is about the candidates of a module: their paths are spelled by names of
entries, and no two of them are the same path.
-/

namespace ServiceWiring

namespace FileTree

/-- The ways to the files that a walk lists. -/
def listedPlaces (found : List (Except WalkFault Place)) : List Place :=
  found.filterMap Except.toOption

/-- Whether a walk lists files below some entries of a directory only, each of them once. The
names on the way to the directory come first. -/
structure ListsBelow (front : Place) (names : List String)
    (found : List (Except WalkFault Place)) : Prop where
  once : (listedPlaces found).Nodup
  below : ∀ place ∈ listedPlaces found, ∃ name ∈ names, ∃ rest,
    place = front ++ name :: rest ∧ ∀ segment ∈ name :: rest, IsEntryName segment

namespace ListsBelow

variable {front : Place} {name : String} {names : List String}
  {found further : List (Except WalkFault Place)}

/-- A list without files lists nothing twice. -/
theorem of_faults (faults : listedPlaces found = []) : ListsBelow front names found where
  once := by
    rw [faults]
    exact List.nodup_nil
  below := by
    rw [faults]
    simp

/-- What is listed below an entry and what is listed below entries of other names can be listed
together. -/
theorem append (own : ListsBelow front [name] found) (others : ListsBelow front names further)
    (different : name ∉ names) : ListsBelow front (name :: names) (found ++ further) := by
  have parts : listedPlaces (found ++ further) = listedPlaces found ++ listedPlaces further :=
    List.filterMap_append
  constructor
  · rw [parts, List.nodup_append]
    refine ⟨own.once, others.once, ?_⟩
    intro place here other there same
    obtain ⟨first, isName, rest, rfl, -⟩ := own.below place here
    obtain ⟨second, member, otherRest, rfl, -⟩ := others.below other there
    obtain rfl := List.mem_singleton.mp isName
    obtain ⟨rfl, -⟩ := List.cons.inj (List.append_cancel_left same)
    exact different member
  · intro place member
    rw [parts, List.mem_append] at member
    rcases member with here | there
    · obtain ⟨first, isName, way⟩ := own.below place here
      exact ⟨first, by simpa using .inl (List.mem_singleton.mp isName), way⟩
    · obtain ⟨first, isName, way⟩ := others.below place there
      exact ⟨first, List.mem_cons_of_mem _ isName, way⟩

/-- What is listed below the entries of a directory is listed below the directory. -/
theorem enter (named : IsEntryName name) (inside : ListsBelow (front ++ [name]) names found) :
    ListsBelow front [name] found where
  once := inside.once
  below := by
    intro place member
    obtain ⟨first, -, rest, rfl, ways⟩ := inside.below place member
    exact ⟨name, List.mem_singleton_self _, first :: rest, by simp,
      List.forall_mem_cons.mpr ⟨named, ways⟩⟩

end ListsBelow

/-- A file is listed once at most. -/
theorem listsBelow_listed (rules : WalkRules) (visit : Visit) {name : String}
    (named : IsEntryName name) : ListsBelow visit.names [name] (listed rules visit name) := by
  rw [listed]
  split
  · exact .of_faults rfl
  · refine ⟨List.nodup_singleton _, ?_⟩
    intro place member
    obtain rfl : place = visit.names ++ [name] := by
      simpa [listedPlaces, Except.toOption] using member
    exact ⟨name, List.mem_singleton_self _, [], rfl, by simpa using named⟩

/-- The files below the entries of a well-formed directory are listed once each, if that is so
for what links yield. -/
theorem listsBelow_filesBelow (rules : WalkRules)
    {onLink : Visit → String → List (Except WalkFault Place)}
    (links : ∀ visit name, IsEntryName name → ListsBelow visit.names [name] (onLink visit name))
    (visit : Visit) {entries : List (String × FileTree)}
    (formed : (directory entries).WellFormed) :
    ListsBelow visit.names (Keyed.keys entries) (filesBelow rules onLink visit entries) := by
  induction entries using entries_induction generalizing visit with
  | nil => exact .of_faults (by rw [filesBelow]; rfl)
  | cons name tree rest inside inductionHypothesis =>
    obtain ⟨named, unlike, within, others⟩ := wellFormed_cons_iff.mp formed
    have further := inductionHypothesis visit others
    cases tree with
    | file content =>
      rw [filesBelow]
      exact (listsBelow_listed rules visit named).append further unlike
    | link target =>
      rw [filesBelow]
      exact (links visit name named).append further unlike
    | directory inner =>
      rw [filesBelow]
      refine ListsBelow.append ?_ further unlike
      split
      · exact .of_faults rfl
      · exact .enter named (inside (visit.enter name (visit.location ++ [name])) within)

end FileTree

namespace FileSystem

open FileTree (ListsBelow listedPlaces listsBelow_listed listsBelow_filesBelow)

variable {rules : WalkRules} {system : FileSystem}

/-- A link that is followed yields each file below what it leads to once. -/
theorem listsBelow_followLink (formed : system.root.WellFormed) (start : String) (depth : Nat)
    (visit : Visit) {name : String} (named : IsEntryName name) :
    ListsBelow visit.names [name] (followLink rules system start depth visit name) := by
  induction depth generalizing visit name with
  | zero => exact .of_faults rfl
  | succ depth inductionHypothesis =>
    rw [followLink]
    split
    · exact .of_faults rfl
    · rename_i location located
      split
      · rename_i entries stood
        have inside := listsBelow_filesBelow rules
          (fun visit name named => inductionHypothesis visit named) (visit.enter name location)
          (formed.below stood)
        split
        · exact .of_faults rfl
        · split
          · exact .of_faults rfl
          · exact .enter named inside
      · exact listsBelow_listed rules visit named

/-- A walk lists no way twice, and the names on its ways are names of entries. -/
theorem walk_listsOnce (formed : system.root.WellFormed) (start : String) :
    (listedPlaces (system.walk rules start)).Nodup ∧
      ∀ place ∈ listedPlaces (system.walk rules start),
        place ≠ [] ∧ ∀ name ∈ place, IsEntryName name := by
  have links : ∀ visit name, IsEntryName name →
      ListsBelow visit.names [name] (onLink rules system start visit name) := by
    intro visit name named
    rw [onLink]
    split
    · exact listsBelow_followLink formed start _ visit named
    · exact .of_faults rfl
  rw [walk]
  split
  · exact ⟨List.nodup_nil, by simp [listedPlaces, Except.toOption]⟩
  · rename_i location located
    have top : (FileTree.directory
        (((system.root.at? location).map FileTree.entries).getD [])).WellFormed := by
      cases stood : system.root.at? location with
      | none => exact FileTree.wellFormed_directory_nil
      | some tree => exact (formed.below stood).entries
    obtain ⟨once, below⟩ := listsBelow_filesBelow rules links ⟨[], location, []⟩ top
    refine ⟨once, fun place member => ?_⟩
    obtain ⟨name, -, rest, rfl, named⟩ := below place member
    exact ⟨by simp, by simpa using named⟩

end FileSystem

/-! ## The candidates of a module -/

/-- Pieces that are names of entries are components of their own. -/
theorem Path.map_fst_pieceComponents {pieces : List (List Char)}
    (named : ∀ piece ∈ pieces, IsEntryName (String.ofList piece)) (before : List Char) :
    (pieceComponents before pieces).map Prod.fst = pieces.map .normal := by
  induction pieces generalizing before with
  | nil => rfl
  | cons piece pieces inductionHypothesis =>
    obtain ⟨⟨present, still, up, -⟩, others⟩ := List.forall_mem_cons.mp named
    have noPiece : ∀ other : List Char, String.ofList piece ≠ String.ofList other →
        piece ≠ other := fun other different same => different (congrArg String.ofList same)
    rw [pieceComponents, if_neg (noPiece [] present), if_neg (noPiece ['.'] still),
      if_neg (noPiece ['.', '.'] up), List.map_cons, List.map_cons, inductionHypothesis others]

/-- Names of entries with slashes between them are the components of their path. -/
theorem Path.components_intercalate {names : Place} (present : names ≠ [])
    (named : ∀ name ∈ names, IsEntryName name) :
    components (String.intercalate "/" names) =
      names.map fun name => .normal name.toList := by
  have pieces : Text.splitOnChar '/' (String.intercalate "/" names).toList =
      names.map String.toList := by
    have whole := congrArg (List.map String.toList) (FileSystem.pieces_intercalate present named)
    simpa [FileSystem.pieces] using whole
  have entryNames : ∀ piece ∈ names.map String.toList, IsEntryName (String.ofList piece) :=
    List.forall_mem_map.mpr fun name member => by
      rw [String.ofList_toList]
      exact named name member
  have relative : ∀ next others, names.map String.toList ≠ [] :: next :: others := by
    intro next others split
    have empty : [] ∈ names.map String.toList := by
      rw [split]
      exact List.mem_cons_self
    exact (entryNames [] empty).1 rfl
  rw [components, componentEnds, pieces]
  split
  · rename_i next others split
    exact absurd split (relative next others)
  · rw [map_fst_pieceComponents entryNames, List.map_map]
    rfl

/-- The candidates of a module stand at different places, links or no links, and their paths
have the names on the way as components. -/
theorem FileScanner.files_distinct (scanner : FileScanner) {system : FileSystem}
    (formed : system.root.WellFormed) (module : Module) :
    ∃ places : List Place, places.Nodup ∧
      (scanner.source system).files [module] =
        places.map (fun place => ⟨module, module.candidate place⟩) ∧
      ∀ place ∈ places, Path.components (String.intercalate "/" place) =
        place.map fun name => .normal name.toList := by
  have listed : ∀ system : FileSystem, system.root.WellFormed →
      ∃ places : List Place, places.Nodup ∧
        (system.walk scanner.rules module.path).filterMap Except.toOption = places ∧
        ∀ place ∈ places, Path.components (String.intercalate "/" place) =
          place.map fun name => .normal name.toList := by
    intro system formed
    obtain ⟨once, named⟩ := FileSystem.walk_listsOnce formed module.path
    refine ⟨_, once, rfl, fun place member => ?_⟩
    exact Path.components_intercalate (named place member).1 (named place member).2
  have walked : (if scanner.config.sorted then system.sorted else system).root.WellFormed := by
    split
    · exact formed.sorted
    · exact formed
  have candidates : (scanner.source system).candidates module = scanner.scan system module := rfl
  rw [CandidateSource.files, List.flatMap_singleton, candidates, scan]
  split
  · exact ⟨[], List.nodup_nil, rfl, by simp⟩
  · obtain ⟨places, once, reached, spelled⟩ := listed _ walked
    refine ⟨places, once, ?_, spelled⟩
    rw [← reached, List.map_filterMap, List.filterMap_map]
    congr 1
    funext found
    cases found <;> rfl

end ServiceWiring
