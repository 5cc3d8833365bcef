import ServiceWiring.Discovery.Plan
import ServiceWiring.Proofs.Config.Loading
import ServiceWiring.Proofs.Discovery.Unresolved
import ServiceWiring.Proofs.Files.Scanner

/-!
# Setting up a discovery

A plan is checked as a whole before anything is done. The main theorem says that nothing but
the violations of its configuration can prevent a discovery with classes of the host, and
that without such classes a module that cannot be scanned is the only further hindrance.

The rules of a configuration and the scanner look at the file name patterns one after the
other. What joins them is that a pattern which the scanner refuses is a violation, with the
same pattern and the same fault.
-/

namespace ServiceWiring

namespace FileScanner

/-- Some patterns cannot be taken apart only if one of them is not well formed. -/
theorem exists_fault_of_mapM_pattern {globs : List String} {error : DiscoveryError}
    (failed : globs.mapM pattern = .error error) :
    ∃ glob ∈ globs, ∃ fault, Glob.parse glob = .error fault ∧ error = .badPattern glob fault := by
  induction globs with
  | nil => contradiction
  | cons glob rest inductionHypothesis =>
    rw [List.mapM_cons, pattern] at failed
    cases first : Glob.parse glob with
    | error fault =>
      refine ⟨glob, List.mem_cons_self, fault, first, ?_⟩
      simpa [first, Except.mapError, bind, Except.bind, eq_comm] using failed
    | ok own =>
      have others : rest.mapM pattern = .error error := by
        cases further : rest.mapM pattern with
        | error other =>
          simpa [first, further, Except.mapError, bind, Except.bind] using failed
        | ok tokens =>
          simp [first, further, Except.mapError, bind, Except.bind, pure, Except.pure] at failed
      obtain ⟨other, member, found⟩ := inductionHypothesis others
      exact ⟨other, List.mem_cons_of_mem _ member, found⟩

/-- A scanner that cannot be made for a configuration has met a pattern that violates its
rules. -/
theorem issue_of_ofConfig {config : DiscoveryConfig} {error : DiscoveryError}
    (failed : ofConfig config.scan = .error error) :
    ∃ glob fault, error = .badPattern glob fault ∧ .badPattern glob fault ∈ config.issues := by
  have unparsed : config.scan.filePatterns.mapM pattern = .error error := by
    cases parsed : config.scan.filePatterns.mapM pattern with
    | error other => simpa [ofConfig, parsed, Except.map] using failed
    | ok patterns => simp [ofConfig, parsed, Except.map] at failed
  obtain ⟨glob, listed, fault, illFormed, rfl⟩ := exists_fault_of_mapM_pattern unparsed
  have issue : DiscoveryConfig.patternIssue? glob = some (.badPattern glob fault) := by
    rw [DiscoveryConfig.patternIssue?, illFormed]
  refine ⟨glob, fault, rfl, ?_⟩
  simp only [DiscoveryConfig.issues, List.mem_append, List.mem_filterMap]
  exact .inl (.inl (.inr ⟨glob, listed, issue⟩))

/-- A configuration without violations has a scanner. -/
theorem exists_ofConfig {config : DiscoveryConfig} (valid : config.issues = []) :
    ∃ scanner, ofConfig config.scan = .ok scanner := by
  cases made : ofConfig config.scan with
  | ok scanner => exact ⟨scanner, rfl⟩
  | error error =>
    obtain ⟨glob, fault, -, violation⟩ := issue_of_ofConfig made
    rw [valid] at violation
    contradiction

/-- The faults that a scanner meets are those of modules that it does not leave out. -/
theorem fault_of_mem_faults {scanner : FileScanner} {system : FileSystem}
    {modules : List Module} {error : DiscoveryError}
    (met : error ∈ (scanner.source system).faults modules) :
    ∃ module ∈ modules, scanner.skips module = false ∧
      ∃ fault, error = .scan module.path fault := by
  obtain ⟨module, listed, met⟩ := List.mem_flatMap.mp met
  obtain ⟨found, yielded, isFault⟩ := List.mem_filterMap.mp met
  cases skipped : scanner.skips module with
  | true =>
    rw [candidates_of_skips scanner system skipped] at yielded
    contradiction
  | false =>
    refine ⟨module, listed, skipped, ?_⟩
    have scanned : found ∈ scanner.scan system module := yielded
    rw [scan, skipped, if_neg Bool.false_ne_true] at scanned
    obtain ⟨walked, -, rfl⟩ := List.mem_map.mp scanned
    cases walked with
    | ok names => contradiction
    | error fault => exact ⟨fault, (Option.some.inj isFault).symm⟩

end FileScanner

namespace DiscoveryPlan

/-- A plan for a valid configuration is carried out. -/
theorem build_of_valid (plan : DiscoveryPlan) (system : FileSystem)
    (valid : plan.config.validate = .ok ()) :
    plan.build system = Discovery.assemble system plan.config plan.parser plan.classes := by
  rw [build, valid]
  rfl

/-- A plan for a configuration that is not valid is refused. -/
theorem build_of_invalid (plan : DiscoveryPlan) (system : FileSystem) {error : ConfigError}
    (failed : plan.config.validate = .error error) :
    plan.build system = .error (.config error) := by
  rw [build, failed]
  rfl

/-- A plan with classes of the host is carried out exactly if its configuration violates no
rule, and otherwise all violations are reported. Without such classes the modules must be
scanned first, and a module of the configuration that cannot be scanned is all that can be in
the way of a plan without violations; its patterns never are.

Proof: a pattern that the scanner refuses is a violation, so there is a scanner. A table of
classes is made unless the scanner meets a fault, and then the first fault is the error. -/
theorem build_succeeds_unless_violated (plan : DiscoveryPlan) (system : FileSystem) :
    (∀ table, plan.classes = some table →
      ((∃ discovery, plan.build system = .ok discovery) ↔ plan.config.issues = [])) ∧
    (plan.config.issues ≠ [] →
      plan.build system = .error (.config (.invalid plan.config.issues))) ∧
    (plan.config.issues = [] →
      ∃ scanner, FileScanner.ofConfig plan.config.scan = .ok scanner ∧
        (plan.classes = none →
          ((∃ discovery, plan.build system = .ok discovery) ↔
            (scanner.source system).faults plan.config.modules = []) ∧
          ∀ error, plan.build system = .error error →
            ∃ module ∈ plan.config.modules, scanner.skips module = false ∧
              ∃ fault, error = .scan module.path fault)) := by
  have refused : plan.config.issues ≠ [] →
      plan.build system = .error (.config (.invalid plan.config.issues)) := by
    intro violated
    refine plan.build_of_invalid system ?_
    rw [DiscoveryConfig.validate, if_neg (by simpa using violated)]
  have accepted : plan.config.issues = [] → plan.config.validate = .ok () := by
    intro valid
    rw [DiscoveryConfig.validate, valid]
    rfl
  refine ⟨fun table given => ⟨?_, fun valid => ?_⟩, refused, fun valid => ?_⟩
  · rintro ⟨discovery, built⟩
    by_contra violated
    rw [refused violated] at built
    contradiction
  · obtain ⟨scanner, made⟩ := FileScanner.exists_ofConfig valid
    rw [plan.build_of_valid system (accepted valid), Discovery.assemble_eq made, given]
    exact ⟨_, rfl⟩
  · obtain ⟨scanner, made⟩ := FileScanner.exists_ofConfig valid
    refine ⟨scanner, made, fun absent => ?_⟩
    rw [plan.build_of_valid system (accepted valid), Discovery.assemble_eq made, absent]
    simp only [ClassTable.ofModules_eq]
    cases faults : (scanner.source system).faults plan.config.modules with
    | nil => exact ⟨iff_of_true ⟨_, rfl⟩ rfl, nofun⟩
    | cons fault others =>
      refine ⟨iff_of_false nofun (List.cons_ne_nil fault others), ?_⟩
      intro error failed
      obtain rfl : fault = error := Except.error.inj failed
      have met : fault ∈ (scanner.source system).faults plan.config.modules := by
        rw [faults]
        exact List.mem_cons_self
      exact FileScanner.fault_of_mem_faults met

/-- A plan for the attic, which the office does not have. -/
def atticPlan : DiscoveryPlan :=
  withConfig { DiscoveryConfig.standard with
    scan := { ScanConfig.standard with sorted := false }
    modules := [⟨"attic", "App"⟩] } standard

/-- A plan with a blank environment and a pattern that is not well formed. -/
def spoiledPlan : DiscoveryPlan :=
  withConfig { DiscoveryConfig.standard with
    environment := " "
    scan := { ScanConfig.standard with filePatterns := ["*.php", "src/["] } } standard

/-- The plan for the attic is carried out with classes of the host, and fails at the attic
without them. Both violations of the spoiled plan are reported. -/
theorem build_succeeds_unless_violated_attic :
    (∃ discovery, (atticPlan.withClasses .empty).build FileScanner.officeSystem = .ok discovery) ∧
      (∃ fault, atticPlan.build FileScanner.officeSystem = .error (.scan "attic" fault)) ∧
      spoiledPlan.build FileScanner.officeSystem =
        .error (.config (.invalid [.blankEnvironment, .badPattern "src/[" .unclosedClass])) := by
  have valid : atticPlan.config.issues = [] := by decide +kernel
  have spoiled : spoiledPlan.config.issues =
      [.blankEnvironment, .badPattern "src/[" .unclosedClass] := by
    decide +kernel
  refine ⟨?_, ?_, ?_⟩
  · obtain ⟨given, -⟩ :=
      build_succeeds_unless_violated (atticPlan.withClasses .empty) FileScanner.officeSystem
    exact (given .empty rfl).mpr valid
  · obtain ⟨scanner, made, hindered⟩ :=
      (build_succeeds_unless_violated atticPlan FileScanner.officeSystem).2.2 valid
    obtain ⟨unhindered, hindrance⟩ := hindered rfl
    have missing : FileScanner.officeSystem.locate .target "attic" = .error .notFound := by
      have pieces : FileSystem.pieces "attic" = ["attic"] := by decide
      simp [FileSystem.locate, pieces, FileSystem.locateFrom, FileScanner.officeSystem,
        FileTree.at?, Keyed.get?, Path.isAbsolute]
    have skipped : scanner.skips ⟨"attic", "App"⟩ = false := by
      rw [FileScanner.skips, (FileScanner.ofConfig_eq_ok made).1]
      decide
    have scanned : scanner.scan FileScanner.officeSystem ⟨"attic", "App"⟩ =
        [.error (.scan "attic" (.system "attic" .notFound))] := by
      rw [FileScanner.scan, skipped, (FileScanner.ofConfig_eq_ok made).1]
      simp [atticPlan, withConfig, FileSystem.walk, missing]
    cases built : atticPlan.build FileScanner.officeSystem with
    | ok discovery =>
      have faultless := unhindered.mp ⟨discovery, built⟩
      simp [atticPlan, withConfig, CandidateSource.faults, FileScanner.source, scanned,
        CandidateSource.fault?] at faultless
    | error error =>
      obtain ⟨module, listed, -, fault, rfl⟩ := hindrance error built
      obtain rfl := List.mem_singleton.mp listed
      exact ⟨fault, rfl⟩
  · have violated : spoiledPlan.config.issues ≠ [] := by
      rw [spoiled]
      exact List.cons_ne_nil _ _
    obtain ⟨-, refused, -⟩ :=
      build_succeeds_unless_violated spoiledPlan FileScanner.officeSystem
    rw [refused violated, spoiled]

end DiscoveryPlan

end ServiceWiring
