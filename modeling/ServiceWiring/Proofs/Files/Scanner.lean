import ServiceWiring.Files.Scanner
import ServiceWiring.Proofs.Files.Components
import ServiceWiring.Proofs.Files.Walk

/-!
# What scanners find

A scanner that leaves links alone finds, for a module of its own, the files in the tree that
the path of the module leads to: those of a wanted name with no excluded name on the way. If
the path leads nowhere then the scanner finds that fault, and nothing else.

The main statement is about scanners that sort. What such a scanner finds is a listing of the
source files of the module: each of them is there once, there is nothing else, and the paths
ascend name by name. Inside the path of the module each path leads to its file.
-/

namespace ServiceWiring

namespace ScanConfig

/-- Whether a name matches one of the patterns of source files. -/
def MatchesName (config : ScanConfig) (name : String) : Prop :=
  ∃ glob ∈ config.filePatterns, ∃ tokens,
    Glob.parse glob = .ok tokens ∧ Glob.matchesName tokens name = true

/-- Whether a file at a place below a module counts as a source file: its name matches a
pattern, and neither it nor a directory on the way has an excluded name. -/
def Selects (config : ScanConfig) (place : Place) : Prop :=
  (∃ name, place.getLast? = some name ∧ config.MatchesName name) ∧
    ∀ segment ∈ place, segment ∉ config.excludedNames

end ScanConfig

/-- The names in the path of a candidate below its module, if that path is a text. -/
def CandidateFile.segments (candidate : CandidateFile) : Place :=
  (candidate.relative.text?.map FileSystem.pieces).getD []

/-- The candidate at a place below a module. -/
def Module.candidate (module : Module) (names : Place) : CandidateFile :=
  ⟨module.path, String.intercalate "/" names⟩

/-- The path of a candidate at a place is the text of both its parts. -/
theorem Module.candidate_path (module : Module) (names : Place) :
    (module.candidate names).path = Path.join module.path (String.intercalate "/" names) :=
  RawPath.join_ofText ..

/-- Its segments are the pieces of the text below the module. -/
theorem Module.candidate_segments (module : Module) (names : Place) :
    (module.candidate names).segments = FileSystem.pieces (String.intercalate "/" names) := by
  rw [CandidateFile.segments, candidate, RawPath.text?_ofText]
  rfl

/-- What it means that candidates are the source files of a module in the tree that its path
leads to. -/
structure ListsSourceFiles (config : ScanConfig) (module : Module) (tree : FileTree)
    (candidates : List CandidateFile) : Prop where
  rooted : ∀ candidate ∈ candidates, candidate.root = module.path
  texts : ∀ candidate ∈ candidates, ∃ relative : String, candidate.relative = relative
  /-- There are the files that count, and no others; there is nothing that is no file. -/
  exact : ∀ place, place ∈ candidates.map CandidateFile.segments ↔
    (∃ content, tree.at? place = some (.file content)) ∧ config.Selects place
  once : (candidates.map CandidateFile.segments).Nodup
  ascending : (candidates.map CandidateFile.segments).Pairwise (List.Lex Text.BytesBefore)

/-- Places that ascend list the source files if they are those of the files that count and the
candidates at them spell them. -/
theorem ListsSourceFiles.of_places {config : ScanConfig} {module : Module} {tree : FileTree}
    {places : List Place}
    (spelled : ∀ place ∈ places, (module.candidate place).segments = place)
    (exact : ∀ place, place ∈ places ↔
      (∃ content, tree.at? place = some (.file content)) ∧ config.Selects place)
    (inTurn : places.Pairwise (List.Lex (· < ·))) :
    ListsSourceFiles config module tree (places.map module.candidate) := by
  have segments : (places.map module.candidate).map CandidateFile.segments = places := by
    rw [List.map_map]
    exact (List.map_congr_left spelled).trans (List.map_id places)
  obtain ⟨ascending, once⟩ := FileTree.pairwise_bytesBefore inTurn
  exact {
    rooted := List.forall_mem_map.mpr fun _ _ => rfl
    texts := List.forall_mem_map.mpr fun _ _ => ⟨_, rfl⟩
    exact := segments.symm ▸ exact
    once := segments.symm ▸ once
    ascending := segments.symm ▸ ascending }

namespace FileScanner

/-- The tokens of some patterns are those that the patterns are taken apart into. -/
theorem mem_iff_of_mapM_pattern {globs : List String} {patterns : List (List Glob.Token)}
    (parsed : globs.mapM pattern = .ok patterns) (tokens : List Glob.Token) :
    tokens ∈ patterns ↔ ∃ glob ∈ globs, Glob.parse glob = .ok tokens := by
  induction globs generalizing patterns with
  | nil =>
    obtain rfl : [] = patterns := by simpa [pure, Except.pure] using parsed
    simp
  | cons glob rest inductionHypothesis =>
    rw [List.mapM_cons, pattern] at parsed
    cases first : Glob.parse glob with
    | error fault => simp [first, Except.mapError, bind, Except.bind] at parsed
    | ok own =>
      cases others : rest.mapM pattern with
      | error fault => simp [first, others, Except.mapError, bind, Except.bind] at parsed
      | ok further =>
        obtain rfl : own :: further = patterns := by
          simpa [first, others, Except.mapError, bind, Except.bind, pure, Except.pure]
            using parsed
        simp [inductionHypothesis others, first, eq_comm]

/-- A scanner for a configuration has its patterns taken apart. -/
theorem ofConfig_eq_ok {config : ScanConfig} {scanner : FileScanner}
    (made : ofConfig config = .ok scanner) :
    scanner.config = config ∧ config.filePatterns.mapM pattern = .ok scanner.patterns := by
  cases parsed : config.filePatterns.mapM pattern with
  | error fault => simp [ofConfig, parsed, Except.map] at made
  | ok patterns =>
    obtain rfl : ⟨config, patterns⟩ = scanner := by
      simpa [ofConfig, parsed, Except.map] using made
    exact ⟨rfl, rfl⟩

/-- A scanner for a configuration follows its rules. -/
theorem admits_iff_selects {config : ScanConfig} {scanner : FileScanner}
    (made : ofConfig config = .ok scanner) (place : Place) :
    scanner.rules.Admits place ↔ config.Selects place := by
  obtain ⟨configured, parsed⟩ := ofConfig_eq_ok made
  have wanted : ∀ name, scanner.rules.wants name = true ↔ config.MatchesName name := fun name => by
    simp only [rules, List.any_eq_true, mem_iff_of_mapM_pattern parsed, ScanConfig.MatchesName]
    constructor
    · rintro ⟨tokens, ⟨glob, listed, apart⟩, fits⟩
      exact ⟨glob, listed, tokens, apart, fits⟩
    · rintro ⟨glob, listed, tokens, apart, fits⟩
      exact ⟨tokens, ⟨glob, listed, apart⟩, fits⟩
  simp only [WalkRules.Admits, ScanConfig.Selects, wanted]
  simp [rules, configured, and_comm]

/-- A tree as the scanner goes through it. -/
def arranged (scanner : FileScanner) (tree : FileTree) : FileTree :=
  if scanner.config.sorted then tree.sorted else tree

/-- What a scanner finds for a module of its own that leaves links alone: the wanted files in
the tree that the path of the module leads to. -/
theorem scan_eq {scanner : FileScanner} {system : FileSystem} {module : Module}
    (unfollowed : scanner.config.followLinks = false) (own : scanner.skips module = false)
    (formed : system.root.WellFormed) :
    scanner.scan system module =
      match system.find module.path with
      | .error fault => [.error (.scan module.path (.system module.path fault))]
      | .ok tree =>
        (FileTree.filePlaces scanner.rules (scanner.arranged tree).entries).map fun names =>
          .ok (module.candidate names) := by
  have walked : (if scanner.config.sorted then system.sorted else system).find module.path =
      (system.find module.path).map scanner.arranged := by
    unfold arranged
    split
    · exact FileSystem.find_sorted formed _
    · cases system.find module.path <;> rfl
  rw [scan, own, if_neg Bool.false_ne_true]
  dsimp only
  rw [FileSystem.walk_eq unfollowed, walked]
  cases system.find module.path with
  | error fault => rfl
  | ok tree => simp [Except.map, Module.candidate]

/-- The places that a scanner goes through are those of the files in the tree that its rules
admit, in whatever order. -/
theorem mem_filePlaces_arranged_iff {scanner : FileScanner} {tree : FileTree}
    (formed : tree.WellFormed) {place : Place} :
    place ∈ FileTree.filePlaces scanner.rules (scanner.arranged tree).entries ↔
      (∃ content, tree.at? place = some (.file content)) ∧ scanner.rules.Admits place := by
  unfold arranged
  split
  · rw [FileTree.mem_filePlaces_entries_iff formed.sorted]
    simp only [FileTree.at?_sorted_eq_file_iff formed]
  · exact FileTree.mem_filePlaces_entries_iff formed

/-- A place that a scanner goes through is that of a file, below the top, without an excluded
name on the way. -/
theorem exists_file_of_listed {scanner : FileScanner} {tree : FileTree} (formed : tree.WellFormed)
    {place : Place}
    (listed : place ∈ FileTree.filePlaces scanner.rules (scanner.arranged tree).entries) :
    (∃ content, tree.at? place = some (.file content)) ∧ place ≠ [] ∧
      ∀ name ∈ place, name ∉ scanner.config.excludedNames := by
  obtain ⟨stands, kept, name, ends, _⟩ := (mem_filePlaces_arranged_iff formed).mp listed
  refine ⟨stands, ?_, by simpa [rules] using kept⟩
  rintro rfl
  simp at ends

/-- The places that a scanner goes through ascend if it sorts. -/
theorem pairwise_filePlaces_arranged {scanner : FileScanner}
    (inOrder : scanner.config.sorted = true) {entries : List (String × FileTree)}
    (formed : (FileTree.directory entries).WellFormed) :
    (FileTree.filePlaces scanner.rules
      (scanner.arranged (.directory entries)).entries).Pairwise (List.Lex (· < ·)) := by
  have ascending := FileTree.ascending_sorted formed
  rw [FileTree.sorted_directory] at ascending
  rw [arranged, if_pos inOrder, FileTree.sorted_directory]
  exact FileTree.pairwise_filePlaces scanner.rules ascending

/-- A candidate at the place of a file has the names on the way there as its segments, and its
path leads to the file. -/
theorem candidate_reaches {system : FileSystem} {module : Module} {tree : FileTree}
    {place : Place} {content : ByteArray} (formed : system.root.WellFormed)
    (found : system.find module.path = .ok tree) (below : place ≠ [])
    (reached : tree.at? place = some (.file content)) :
    (module.candidate place).segments = place ∧
      ∃ path : String, (module.candidate place).path = path ∧
        system.find path = .ok (.file content) := by
  obtain ⟨_, _, stood⟩ := FileSystem.find_eq_ok_iff.mp found
  have named := (formed.below stood).isEntryName_of_mem reached
  exact ⟨(module.candidate_segments place).trans (FileSystem.pieces_intercalate below named),
    _, module.candidate_path place, FileSystem.find_join formed found reached below (by simp)⟩

/-- A scanner that sorts and leaves links alone lists the source files of a module of its own,
and the path of each of them leads to the file. -/
theorem scan_lists_source_files {config : ScanConfig} {scanner : FileScanner}
    {system : FileSystem} {module : Module} {entries : List (String × FileTree)}
    (made : ofConfig config = .ok scanner) (unfollowed : config.followLinks = false)
    (inOrder : config.sorted = true) (own : module.isVendored config.vendorMarkers = false)
    (formed : system.root.WellFormed)
    (found : system.find module.path = .ok (.directory entries)) :
    ∃ candidates, scanner.scan system module = candidates.map .ok ∧
      ListsSourceFiles config module (.directory entries) candidates ∧
      ∀ candidate ∈ candidates, ∃ content, ∃ path : String,
        (FileTree.directory entries).at? candidate.segments = some (.file content) ∧
          candidate.path = path ∧ system.find path = .ok (.file content) := by
  have configured : scanner.config = config := (ofConfig_eq_ok made).1
  obtain ⟨_, _, stood⟩ := FileSystem.find_eq_ok_iff.mp found
  have formedTree : (FileTree.directory entries).WellFormed := formed.below stood
  have kept : scanner.skips module = false := by rwa [skips, configured]
  have reaches : ∀ place ∈ FileTree.filePlaces scanner.rules
      (scanner.arranged (.directory entries)).entries, ∃ content,
      (FileTree.directory entries).at? place = some (.file content) ∧
        (module.candidate place).segments = place ∧
        ∃ path : String, (module.candidate place).path = path ∧
          system.find path = .ok (.file content) := by
    intro place listed
    obtain ⟨⟨content, reached⟩, below, _⟩ := exists_file_of_listed formedTree listed
    exact ⟨content, reached, candidate_reaches formed found below reached⟩
  refine ⟨(FileTree.filePlaces scanner.rules
    (scanner.arranged (.directory entries)).entries).map module.candidate, ?_, .of_places
      (fun place listed => (reaches place listed).choose_spec.2.1) (fun place => ?_)
      (pairwise_filePlaces_arranged (configured ▸ inOrder) formedTree), ?_⟩
  · rw [scan_eq (configured ▸ unfollowed) kept formed, found, List.map_map]
    rfl
  · rw [mem_filePlaces_arranged_iff formedTree, admits_iff_selects made]
  · refine List.forall_mem_map.mpr fun place listed => ?_
    obtain ⟨content, reached, same, path, spelled, leads⟩ := reaches place listed
    exact ⟨content, path, by rwa [same], spelled, leads⟩

/-- The entries of a module, among them a directory before a file whose name begins like its
own, a link, and tests. -/
def officeEntries : List (String × FileTree) :=
  [("a", .directory [("Sender.php", .file .empty)]), ("a.php", .file "<?php".toUTF8),
    ("link.php", .link "a.php"), ("notes.md", .file .empty),
    ("tests", .directory [("Check.php", .file .empty)])]

/-- A system with that module. -/
def officeSystem : FileSystem where
  root := .directory [("office", .directory officeEntries)]
  workingDirectory := []

/-- The path of the module leads to its directory. -/
theorem find_officeSystem : officeSystem.find "office" = .ok (.directory officeEntries) := by
  have pieces : FileSystem.pieces "office" = ["office"] := by decide
  have located : officeSystem.locate .target "office" = .ok ["office"] := by
    simp [FileSystem.locate, pieces, FileSystem.locateFrom, officeSystem, FileTree.at?,
      FileTree.entries, Keyed.get?, Path.isAbsolute]
  exact FileSystem.find_eq_ok_iff.mpr ⟨["office"], located, rfl⟩

/-- Such a system can exist. -/
theorem wellFormed_officeSystem : officeSystem.root.WellFormed := by
  simp [officeSystem, officeEntries, FileTree.wellFormed_cons_iff, Keyed.keys]
  decide

/-- The scanner by the standard rules. -/
def standardScanner : FileScanner :=
  ⟨.standard, [.anyBytes :: ".php".toList.map Glob.Token.literal]⟩

/-- What that scanner finds in the office. -/
theorem scan_officeSystem :
    standardScanner.scan officeSystem ⟨"office", "App"⟩ =
      [.ok ⟨"office", "a/Sender.php"⟩, .ok ⟨"office", "a.php"⟩] := by
  have ascending : (FileTree.directory officeEntries).Ascending := by
    simp only [officeEntries, FileTree.ascending_cons_iff, FileTree.ascending_file,
      FileTree.ascending_link, FileTree.ascending_directory_nil, and_true]
    decide
  have places : FileTree.filePlaces standardScanner.rules
      (standardScanner.arranged (.directory officeEntries)).entries =
        [["a", "Sender.php"], ["a.php"]] := by
    rw [arranged, FileTree.sorted_of_ascending ascending, ite_self]
    decide +kernel
  rw [scan_eq rfl (by decide) wellFormed_officeSystem, find_officeSystem]
  dsimp only
  rw [places]
  simp [Module.candidate]

/-- The office has two source files by the standard rules, the one in the directory first. -/
theorem scan_lists_source_files_office :
    ofConfig .standard = .ok standardScanner ∧
      ListsSourceFiles .standard ⟨"office", "App"⟩ (.directory officeEntries)
        [⟨"office", "a/Sender.php"⟩, ⟨"office", "a.php"⟩] := by
  have made : ofConfig .standard = .ok standardScanner := by cbv
  have own : Module.isVendored ScanConfig.standard.vendorMarkers ⟨"office", "App"⟩ = false := by
    decide
  obtain ⟨candidates, scanned, lists, _⟩ := scan_lists_source_files made rfl rfl own
    wellFormed_officeSystem find_officeSystem
  have same : candidates = [⟨"office", "a/Sender.php"⟩, ⟨"office", "a.php"⟩] :=
    List.map_injective_iff.mpr (fun _ _ => Except.ok.inj) (scanned.symm.trans scan_officeSystem)
  exact ⟨made, same ▸ lists⟩

end FileScanner

end ServiceWiring
