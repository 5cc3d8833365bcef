import ServiceWiring.Proofs.Discovery.Tally
import ServiceWiring.Proofs.Discovery.Unresolved
import ServiceWiring.Proofs.Files.Pruning

/-!
# Content that cannot influence a discovery

A discovery goes through the files of its modules twice: to find what classes there are, and
to collect the services among them. Both times it leaves out vendored modules, and in the
other ones what is below an excluded name.

The main statement compares two discoveries with one configuration but for the modules, in
two file systems. If they have the same modules of their own, in the same order, and the paths
of these modules agree up to what is below excluded names, then the discoveries end alike:
with the same error, or with the same directives handed over in the same order and the same
numbers. Only the number of vendored modules may differ.
-/

namespace ServiceWiring

/-- The numbers of a discovery but that of the modules that were left out. -/
def Stats.withoutVendored (stats : Stats) : Stats := { stats with modulesVendored := 0 }

/-- Whether two sources find the same in two lists of modules: neither finds anything in modules
that it leaves out, and the others are the same, with the same candidates. -/
structure FindAlike (source other : CandidateSource) (modules others : List Module) : Prop where
  silent : ∀ module, source.skips module = true → source.candidates module = []
  otherSilent : ∀ module, other.skips module = true → other.candidates module = []
  own : (modules.filter fun module => !source.skips module) =
    others.filter fun module => !other.skips module
  candidates : ∀ module ∈ modules, source.skips module = false →
    source.candidates module = other.candidates module

namespace FindAlike

variable {source other : CandidateSource} {modules others : List Module}

/-- What is picked from the candidates of the modules that are not left out is the same. -/
theorem flatMap_own {β : Type} (alike : FindAlike source other modules others)
    (pick : Module → Except DiscoveryError CandidateFile → Option β) :
    ((modules.filter fun module => !source.skips module).flatMap fun module =>
        (source.candidates module).filterMap (pick module)) =
      (others.filter fun module => !other.skips module).flatMap fun module =>
        (other.candidates module).filterMap (pick module) := by
  rw [← alike.own]
  apply List.flatMap_congr
  intro module member
  obtain ⟨listed, kept⟩ := List.mem_filter.mp member
  rw [alike.candidates module listed (by simpa using kept)]

/-- Modules that are left out contribute nothing to what is picked from all. -/
theorem flatMap_filter_own {β : Type}
    (silent : ∀ module, source.skips module = true → source.candidates module = [])
    (modules : List Module) (pick : Module → Except DiscoveryError CandidateFile → Option β) :
    (modules.flatMap fun module => (source.candidates module).filterMap (pick module)) =
      (modules.filter fun module => !source.skips module).flatMap fun module =>
        (source.candidates module).filterMap (pick module) := by
  induction modules with
  | nil => rfl
  | cons module modules inductionHypothesis =>
    rw [List.flatMap_cons, List.filter_cons, inductionHypothesis]
    cases skipped : source.skips module with
    | true => simp [silent module skipped]
    | false => simp

/-- What is picked from the candidates of all modules is the same. -/
theorem flatMap_all {β : Type} (alike : FindAlike source other modules others)
    (pick : Module → Except DiscoveryError CandidateFile → Option β) :
    (modules.flatMap fun module => (source.candidates module).filterMap (pick module)) =
      others.flatMap fun module => (other.candidates module).filterMap (pick module) := by
  rw [flatMap_filter_own alike.silent, flatMap_filter_own alike.otherSilent, alike.flatMap_own]

/-- The files that are found are the same, and so are the faults. -/
theorem files_eq (alike : FindAlike source other modules others) :
    source.files modules = other.files others ∧ source.faults modules = other.faults others :=
  ⟨alike.flatMap_all CandidateSource.file?, alike.flatMap_all fun _ => CandidateSource.fault?⟩

/-- The tables of the classes that the files declare are the same, if the files are read
alike. -/
theorem ofModules_eq (alike : FindAlike source other modules others) (naming : Naming)
    {read otherRead : RawPath → Option String}
    (same : ∀ found ∈ source.files modules, read found.file.path = otherRead found.file.path) :
    ClassTable.ofModules naming read source modules =
      ClassTable.ofModules naming otherRead other others := by
  have indexed : ClassIndex.ofFiles naming read (source.files modules) =
      ClassIndex.ofFiles naming otherRead (source.files modules) := by
    apply List.foldl_ext
    intro index found listed
    rw [ClassIndex.addFile, ClassIndex.addFile, ClassIndex.declaredBy, ClassIndex.declaredBy,
      same found listed]
  rw [ClassTable.ofModules_eq, ClassTable.ofModules_eq, indexed, alike.files_eq.1,
    alike.files_eq.2]

/-- A pipeline meets the same failures and the same classes. -/
theorem failures_eq (alike : FindAlike source other modules others) (pipeline : Pipeline) :
    pipeline.failures source modules = pipeline.failures other others ∧
      pipeline.candidateClasses source modules = pipeline.candidateClasses other others :=
  ⟨alike.flatMap_own _, alike.flatMap_own _⟩

/-- The tallies differ in the number of the modules that were left out only. -/
theorem tally_eq (alike : FindAlike source other modules others) (pipeline : Pipeline) :
    (pipeline.tally source modules).withoutVendored =
      (pipeline.tally other others).withoutVendored := by
  have scanned : modules.countP (fun module => !source.skips module) =
      others.countP fun module => !other.skips module := by
    rw [List.countP_eq_length_filter, List.countP_eq_length_filter, alike.own]
  simp only [Pipeline.tally, ClassTable.tally, Stats.withoutVendored,
    pipeline.filterMap_class_findings, (alike.failures_eq pipeline).2,
    (count_beginnings _ _ _).2, scanned]

/-- A run ends alike: with the same state of the builder, and the same error or the same
numbers, that of the modules that were left out aside. -/
theorem run_eq {σ : Type} (alike : FindAlike source other modules others) (pipeline : Pipeline)
    (builder : ContainerBuilder σ) (state : σ) :
    (pipeline.run source modules builder state).1.map Stats.withoutVendored =
        (pipeline.run other others builder state).1.map Stats.withoutVendored ∧
      (pipeline.run source modules builder state).2 =
        (pipeline.run other others builder state).2 := by
  obtain ⟨failures, classes⟩ := alike.failures_eq pipeline
  have services : pipeline.services source modules = pipeline.services other others := by
    rw [Pipeline.services, Pipeline.services, classes]
  cases first : (pipeline.failures source modules).head? with
  | some error =>
    rw [pipeline.run_of_failure source modules first,
      pipeline.run_of_failure other others (failures ▸ first)]
    exact ⟨rfl, rfl⟩
  | none =>
    have passing := List.head?_eq_none_iff.mp first
    obtain ⟨stats, collected, runs⟩ := pipeline.run_of_no_failure source modules passing
    obtain ⟨otherStats, otherCollected, otherRuns⟩ :=
      pipeline.run_of_no_failure other others (failures ▸ passing)
    have counted := (pipeline.collect_stats source modules collected).2
    have otherCounted := (pipeline.collect_stats other others otherCollected).2
    have numbers : stats.withoutVendored = otherStats.withoutVendored := by
      rw [counted, otherCounted, Stats.zero_add, Stats.zero_add, alike.tally_eq pipeline]
    rw [runs, otherRuns, services]
    split
    · exact ⟨rfl, rfl⟩
    · rename_i emitted _ _
      have reported := congrArg (fun kept : Stats => { kept with directivesEmitted := emitted })
        numbers
      exact ⟨congrArg Except.ok reported, rfl⟩

end FindAlike

/-- In systems that agree at the paths of the modules of its own, a scanner that leaves links
alone finds the same, and the files that it finds are read alike. -/
theorem FileScanner.findAlike {scanner : FileScanner} {first second : FileSystem}
    {modules others : List Module} (unfollowed : scanner.config.followLinks = false)
    (formedFirst : first.root.WellFormed) (formedSecond : second.root.WellFormed)
    (own : (modules.filter fun module => !scanner.skips module) =
      others.filter fun module => !scanner.skips module)
    (agree : ∀ module ∈ modules, scanner.skips module = false →
      scanner.config.AgreeAt first second module.path) :
    FindAlike (scanner.source first) (scanner.source second) modules others ∧
      ∀ found ∈ (scanner.source first).files modules,
        first.sourceText? found.file.path = second.sourceText? found.file.path := by
  constructor
  · exact {
      silent := fun _ => scanner.candidates_of_skips first
      otherSilent := fun _ => scanner.candidates_of_skips second
      own := own
      candidates := fun module listed kept =>
        scan_eq_of_agreeAt unfollowed kept formedFirst formedSecond (agree module listed kept) }
  · intro found member
    obtain ⟨module, listed, within⟩ := List.mem_flatMap.mp member
    obtain ⟨candidate, scanned, picked⟩ := List.mem_filterMap.mp within
    cases kept : scanner.skips module with
    | true =>
      rw [scanner.candidates_of_skips first kept] at scanned
      simp at scanned
    | false =>
      cases candidate with
      | error fault => simp [CandidateSource.file?] at picked
      | ok file =>
        obtain rfl : ⟨module, file⟩ = found := by simpa [CandidateSource.file?] using picked
        obtain ⟨path, text, same⟩ := find_eq_of_agreeAt unfollowed kept formedFirst formedSecond
          (agree module listed kept) scanned
        rw [show (ModuleFile.mk module file).file.path = path from text,
          FileSystem.sourceText?_ofText, FileSystem.sourceText?_ofText, FileSystem.readText?,
          FileSystem.readText?, FileSystem.read, FileSystem.read, same]

/-- The modules of a configuration that are no third-party code. -/
def DiscoveryConfig.ownModules (config : DiscoveryConfig) : List Module :=
  config.modules.filter fun module => !module.isVendored config.scan.vendorMarkers

namespace Discovery

variable {σ : Type}

/-- A discovery is a run of one pipeline over its modules, if its scanner and the table of the
classes in its files can be made. -/
theorem perform_eq {config : DiscoveryConfig} {scanner : FileScanner}
    (made : FileScanner.ofConfig config.scan = .ok scanner) (system : FileSystem)
    (parser : MetadataParser) (builder : ContainerBuilder σ) (state : σ) :
    perform system config parser builder state =
      match ClassTable.ofModules ⟨config.separator⟩ system.sourceText? (scanner.source system)
          config.modules with
      | .error error => (.error error, state)
      | .ok table =>
        Pipeline.run ⟨⟨config.separator⟩, table, parser, config.environment⟩
          (scanner.source system) config.modules builder state := by
  unfold perform
  cases indexed : ClassTable.ofModules ⟨config.separator⟩ system.sourceText?
      (scanner.source system) config.modules with
  | error error => simp [assemble, made, bind, Except.bind, indexed]
  | ok table => simp [assemble, made, bind, Except.bind, indexed, run, pure, Except.pure]

/-- What is in vendored modules and below excluded names cannot influence a discovery. Two
systems and two lists of modules are compared that have the same modules of their own, in the
same order, such that the systems agree at the path of each of them. Then the discoveries end
alike with every builder, one that records what it is handed included: with the same error, or
with the same numbers but for that of the vendored modules, and with the builder in the same
state. Nothing is asked of the other modules; they need not even exist.

Proof: the scanner finds the same files in both, so the tables of classes are the same, and the
runs differ in the beginnings of vendored modules only. -/
theorem perform_ignores_hidden {first second : FileSystem} {config : DiscoveryConfig}
    {others : List Module} (unfollowed : config.scan.followLinks = false)
    (formedFirst : first.root.WellFormed) (formedSecond : second.root.WellFormed)
    (own : config.ownModules = { config with modules := others }.ownModules)
    (agree : ∀ module ∈ config.ownModules, config.scan.AgreeAt first second module.path)
    (parser : MetadataParser) (builder : ContainerBuilder σ) (state : σ) :
    (perform first config parser builder state).1.map Stats.withoutVendored =
        (perform second { config with modules := others } parser builder state).1.map
          Stats.withoutVendored ∧
      (perform first config parser builder state).2 =
        (perform second { config with modules := others } parser builder state).2 := by
  cases made : FileScanner.ofConfig config.scan with
  | error error => simp [perform, assemble, made, bind, Except.bind]
  | ok scanner =>
    obtain ⟨configured, _⟩ := FileScanner.ofConfig_eq_ok made
    have kept : config.ownModules = config.modules.filter fun module => !scanner.skips module := by
      simp only [DiscoveryConfig.ownModules, FileScanner.skips, configured]
    have otherKept : { config with modules := others }.ownModules =
        others.filter fun module => !scanner.skips module := by
      simp only [DiscoveryConfig.ownModules, FileScanner.skips, configured]
    rw [kept, otherKept] at own
    rw [kept, ← configured] at agree
    obtain ⟨alike, read⟩ := scanner.findAlike (configured ▸ unfollowed) formedFirst formedSecond
      own fun module listed ours => agree module (List.mem_filter.mpr ⟨listed, by simp [ours]⟩)
    have tables : ClassTable.ofModules ⟨config.separator⟩ first.sourceText? (scanner.source first)
        config.modules = ClassTable.ofModules ⟨config.separator⟩ second.sourceText?
          (scanner.source second) others := alike.ofModules_eq _ read
    rw [perform_eq made, @perform_eq _ { config with modules := others } _ made]
    dsimp only
    rw [← tables]
    split
    · exact ⟨rfl, rfl⟩
    · exact alike.run_eq _ builder state

/-- A class that is a service, in its place. -/
def mailerSource : FileTree :=
  .file "namespace App;\n/** @Service() */\nclass Mailer \x7b\x7d".toUTF8

/-- A system with tests that declare the class again, and with third-party code. -/
def crowdedSystem : FileSystem where
  root := .directory [
    ("src", .directory [("Mailer.php", mailerSource),
      ("tests", .directory [("Mailer.php", mailerSource)])]),
    ("vendor", .directory [("Mailer.php", mailerSource)])]
  workingDirectory := []

/-- A system with nothing but the class, and something else where the tests were. -/
def bareSystem : FileSystem where
  root := .directory [("src", .directory [("Mailer.php", mailerSource), ("tests", .link "..")])]
  workingDirectory := []

/-- The configuration of a discovery in some modules. -/
def mailerConfig (modules : List Module) : DiscoveryConfig :=
  { DiscoveryConfig.standard with modules }

/-- But for what is below excluded names, both systems have the same at the path of the module. -/
theorem agreeAt_src : ScanConfig.standard.AgreeAt crowdedSystem bareSystem "src" := by
  have pieces : FileSystem.pieces "src" = ["src"] := by decide
  have located : crowdedSystem.locate .target "src" = .ok ["src"] ∧
      bareSystem.locate .target "src" = .ok ["src"] := by
    simp [FileSystem.locate, pieces, FileSystem.locateFrom, crowdedSystem, bareSystem,
      FileTree.at?, FileTree.entries, Keyed.get?, Path.isAbsolute]
  have crowded := FileSystem.find_eq_ok_iff.mpr ⟨["src"], located.1, rfl⟩
  have bare := FileSystem.find_eq_ok_iff.mpr ⟨["src"], located.2, rfl⟩
  have ascending :
      (FileTree.directory [("Mailer.php", mailerSource),
        ("tests", .directory [("Mailer.php", mailerSource)])]).Ascending ∧
      (FileTree.directory [("Mailer.php", mailerSource), ("tests", .link "..")]).Ascending := by
    simp only [mailerSource, FileTree.ascending_cons_iff, FileTree.ascending_file,
      FileTree.ascending_link, FileTree.ascending_directory_nil, and_true]
    decide
  have excluded : ScanConfig.standard.excludedNames.contains "tests" = true ∧
      ScanConfig.standard.excludedNames.contains "Mailer.php" = false := by
    decide
  rw [ScanConfig.AgreeAt, crowded, bare]
  simp only [Except.map, ScanConfig.visible, FileTree.sorted_of_ascending ascending.1,
    FileTree.sorted_of_ascending ascending.2, ite_self, FileTree.pruned, FileTree.prunedEntries,
    excluded, if_true, Bool.false_eq_true, if_false]

/-- Tests and third-party code make no difference to what is defined and counted. -/
theorem perform_ignores_hidden_mailer :
    let crowded := perform crowdedSystem (mailerConfig [⟨"vendor", "App"⟩, ⟨"src", "App"⟩])
      DocBlock.parser (boundedBuilder [] none).recorded ([], [])
    let bare := perform bareSystem (mailerConfig [⟨"src", "App"⟩, ⟨"gone/vendor", "Lib"⟩])
      DocBlock.parser (boundedBuilder [] none).recorded ([], [])
    crowded.1.map Stats.withoutVendored = bare.1.map Stats.withoutVendored ∧
      crowded.2 = bare.2 := by
  have formed : crowdedSystem.root.WellFormed ∧ bareSystem.root.WellFormed := by
    simp [crowdedSystem, bareSystem, mailerSource, FileTree.wellFormed_cons_iff, Keyed.keys]
    decide
  have ours : (mailerConfig [⟨"vendor", "App"⟩, ⟨"src", "App"⟩]).ownModules = [⟨"src", "App"⟩] ∧
      (mailerConfig [⟨"src", "App"⟩, ⟨"gone/vendor", "Lib"⟩]).ownModules = [⟨"src", "App"⟩] := by
    decide
  refine perform_ignores_hidden rfl formed.1 formed.2 (ours.1.trans ours.2.symm) ?_
    DocBlock.parser (boundedBuilder [] none).recorded ([], [])
  rw [ours.1, List.forall_mem_singleton]
  exact agreeAt_src

end Discovery

end ServiceWiring
