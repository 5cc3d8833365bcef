import Mathlib.Data.List.Basic
import ServiceWiring.Proofs.Config.Written
import ServiceWiring.Proofs.Files.Lookup
import ServiceWiring.Proofs.Text.Bytes

/-!
# What loading makes of a configuration file

Without environment variables that hold settings, loading takes three steps: it reads what
is written in the file, puts the modules into the directory of the file, and checks the
result. The order of the last two matters. A module whose path is written as empty is that
directory itself once it has been put there, so its violation shows only where the path of
the file has no directory part. All other violations are seen as they are written.

The main statement says so for every file, every path of it, and every violation.
-/

namespace ServiceWiring

namespace Path

/-- A path is inside a directory as nothing only if both are empty. -/
theorem isEmpty_join (base relative : String) :
    (join base relative).isEmpty = (base.isEmpty && relative.isEmpty) := by
  have absolute : isAbsolute relative = true → relative.isEmpty = false := by
    intro absolute
    rw [Bool.eq_false_iff]
    intro empty
    rw [String.isEmpty_iff.mp empty] at absolute
    exact absurd absolute (by decide)
  unfold join
  split
  · rename_i starts
    rw [absolute starts, Bool.and_false]
  · have appended : ∀ front back : String,
        (front ++ back).isEmpty = (front.isEmpty && back.isEmpty) := by
      intro front back
      rw [Bool.eq_iff_iff, Bool.and_eq_true]
      simp only [String.isEmpty_iff, String.append_eq_empty_iff]
    cases empty : base.isEmpty with
    | true =>
      rw [Bool.true_or, if_pos rfl, appended, empty]
    | false =>
      split <;> simp [appended, empty]

/-- A path is inside the empty directory as it is. -/
theorem join_empty (relative : String) : join "" relative = relative := by
  unfold join
  split
  · rfl
  · simp

end Path

/-- Whether no variable holds a setting: no name begins with the prefix and an
underscore, in any mixture of cases. -/
def Settings.Unset (namePrefix : String) (bindings : List (String × String)) : Prop :=
  ∀ binding ∈ bindings,
    ¬(Text.lower (namePrefix ++ "_")).toList <+: (Text.lower binding.1).toList

/-- Where no variable holds a setting, there are no settings from the environment. -/
theorem Settings.Unset.ofEnvironment {namePrefix : String} {bindings : List (String × String)}
    (unset : Unset namePrefix bindings) : Settings.ofEnvironment namePrefix bindings = [] := by
  rw [Settings.ofEnvironment, List.filterMap_eq_nil_iff.mpr]
  · rfl
  · intro binding member
    have apart : Text.stripPrefix? (Text.lower (namePrefix ++ "_")).toList
        (Text.lower binding.1).toList = none := by
      rw [Option.eq_none_iff_forall_ne_some]
      intro rest stripped
      exact unset binding member
        ⟨rest, ((Text.stripPrefix?_eq_some_iff _ _ _).mp stripped).symm⟩
    simp only [ofVariableName?, apart, Option.map_none]

namespace DiscoveryConfig

/-- The configuration with its modules inside a directory. -/
def settled (directory : String) (config : DiscoveryConfig) : DiscoveryConfig :=
  { config with modules := config.modules.map (ConfigSource.settle directory) }

/-- Whether a configuration keeps the rules that do not concern its modules. -/
structure KeepsRules (config : DiscoveryConfig) : Prop where
  environment : Text.allBlank config.environment.toList = false
  patterns : config.scan.filePatterns ≠ []
  wellFormed : ∀ glob ∈ config.scan.filePatterns, ∃ parsed, Glob.parse glob = .ok parsed
  separator : config.separator ≠ ""

/-- A pattern has a violation unless it is well formed. -/
theorem patternIssue?_eq_none_iff (glob : String) :
    patternIssue? glob = none ↔ ∃ parsed, Glob.parse glob = .ok parsed := by
  unfold patternIssue?
  cases Glob.parse glob <;> simp

/-- Modules have a violation unless all have paths. -/
theorem moduleIssues_eq_nil_iff (first : Nat) (modules : List Module) :
    moduleIssues first modules = [] ↔ ∀ module ∈ modules, module.path ≠ "" := by
  induction modules generalizing first with
  | nil => simp [moduleIssues]
  | cons module modules inductionHypothesis =>
    simp [moduleIssues, inductionHypothesis]

/-- A configuration has no violations exactly if it keeps all rules. -/
theorem issues_eq_nil_iff (config : DiscoveryConfig) :
    config.issues = [] ↔ config.KeepsRules ∧ ∀ module ∈ config.modules, module.path ≠ "" := by
  simp only [issues, List.append_eq_nil_iff, moduleIssues_eq_nil_iff, List.filterMap_eq_nil_iff,
    patternIssue?_eq_none_iff]
  constructor
  · rintro ⟨⟨⟨⟨environment, patterns⟩, wellFormed⟩, separator⟩, modules⟩
    refine ⟨⟨?_, ?_, wellFormed, ?_⟩, modules⟩
    · simpa using environment
    · simpa using patterns
    · simpa using separator
  · rintro ⟨⟨environment, patterns, wellFormed, separator⟩, modules⟩
    refine ⟨⟨⟨⟨?_, ?_⟩, wellFormed⟩, ?_⟩, modules⟩
    · simp [environment]
    · simpa using patterns
    · simpa using separator

/-- Whether a violation shows once the modules are inside a directory. -/
def isVisible (directory : String) : ConfigIssue → Bool
  | .emptyModulePath _ => directory.isEmpty
  | _ => true

/-- The violations of modules in a directory are those that show there. -/
theorem moduleIssues_settled (directory : String) (first : Nat) (modules : List Module) :
    moduleIssues first (modules.map (ConfigSource.settle directory)) =
      (moduleIssues first modules).filter (isVisible directory) := by
  induction modules generalizing first with
  | nil => rfl
  | cons module modules inductionHypothesis =>
    have shown : (if (Path.join directory module.path).isEmpty then
          [ConfigIssue.emptyModulePath first] else []) =
        (if module.path.isEmpty then [ConfigIssue.emptyModulePath first] else []).filter
          (isVisible directory) := by
      rw [Path.isEmpty_join]
      cases module.path.isEmpty <;> cases empty : directory.isEmpty <;> simp [isVisible, empty]
    rw [List.map_cons, moduleIssues, moduleIssues, List.filter_append, ← shown,
      inductionHypothesis]
    rfl

/-- The violations of a configuration with its modules in a directory are those that show
there, in the same order. -/
theorem issues_settled (directory : String) (config : DiscoveryConfig) :
    (config.settled directory).issues = config.issues.filter (isVisible directory) := by
  have patterns : config.scan.filePatterns.filterMap patternIssue? =
      (config.scan.filePatterns.filterMap patternIssue?).filter (isVisible directory) := by
    symm
    rw [List.filter_eq_self]
    intro issue member
    obtain ⟨glob, _, found⟩ := List.mem_filterMap.mp member
    unfold patternIssue? at found
    split at found
    · cases found
    · cases found
      rfl
  have single : ∀ (present : Bool) (issue : ConfigIssue), isVisible directory issue = true →
      (if present then [issue] else []) =
        (if present then [issue] else []).filter (isVisible directory) := by
    intro present issue visible
    cases present <;> simp [visible]
  simp only [issues, List.filter_append, settled, moduleIssues_settled]
  rw [← patterns, ← single _ _ rfl, ← single _ _ rfl, ← single _ _ rfl]
  rfl

/-- No violation shows in a directory exactly if the rules are kept that show there. -/
theorem issues_settled_eq_nil_iff (directory : String) (config : DiscoveryConfig) :
    (config.settled directory).issues = [] ↔
      config.KeepsRules ∧ (directory = "" → ∀ module ∈ config.modules, module.path ≠ "") := by
  have paths : (∀ module ∈ (config.settled directory).modules, module.path ≠ "") ↔
      (directory = "" → ∀ module ∈ config.modules, module.path ≠ "") := by
    have inside : ∀ module : Module,
        (ConfigSource.settle directory module).path ≠ "" ↔ (directory = "" → module.path ≠ "") := by
      intro module
      have empty := Path.isEmpty_join directory module.path
      rw [Bool.eq_iff_iff, Bool.and_eq_true] at empty
      simp only [String.isEmpty_iff] at empty
      rw [ConfigSource.settle, Ne, empty, not_and]
    simp only [settled, List.forall_mem_map, inside]
    exact ⟨fun kept here module member => kept module member here,
      fun kept module member here => kept here module member⟩
  have rules : (config.settled directory).KeepsRules ↔ config.KeepsRules :=
    ⟨fun ⟨environment, patterns, wellFormed, separator⟩ =>
      ⟨environment, patterns, wellFormed, separator⟩,
    fun ⟨environment, patterns, wellFormed, separator⟩ =>
      ⟨environment, patterns, wellFormed, separator⟩⟩
  rw [issues_eq_nil_iff, rules, paths]

end DiscoveryConfig

namespace ConfigSource

open DiscoveryConfig (isVisible)

/-- The configuration that is written in a file: what its settings describe, with nothing
on top of them. -/
def written? (system : FileSystem) (path : String) : Except ConfigError DiscoveryConfig :=
  (fileSettings system path).bind fun settings =>
    match DiscoveryConfig.ofSettings? (Settings.layer settings (.obj [])) with
    | some config => .ok config
    | none => .error .unreadable

/-- In a file that holds a saved configuration that one is written. -/
theorem written?_toToml {system : FileSystem} {path : String} {config : DiscoveryConfig}
    (present : system.isFile path = true) (content : system.readText? path = some config.toToml)
    (toml : Path.extension path = ['t', 'o', 'm', 'l']) : written? system path = .ok config := by
  have settings : fileSettings system path = .ok config.savedSettings := by
    rw [fileSettings, present, content, Option.bind_some, settings?, if_pos toml,
      config.parse?_toToml]
    rfl
  rw [written?, settings]
  dsimp only [Except.bind]
  rw [config.layer_savedSettings, config.ofSettings?_savedSettings]

/-- The directory that the modules of a configuration file are in. -/
def directoryOf (path : String) : String := (Path.parent? path).getD ""

/-- Without variables, loading puts the modules of what is written into the directory of the
file and checks the result. -/
theorem load_written {path namePrefix : String} {bindings : List (String × String)}
    (unset : Settings.Unset namePrefix bindings) (system : FileSystem) :
    load ⟨some path, namePrefix⟩ system bindings =
      (written? system path).bind fun config =>
        (config.settled (directoryOf path)).validate.map fun _ =>
          config.settled (directoryOf path) := by
  have same : settle "" = id := by
    funext module
    rw [settle, Path.join_empty]
    rfl
  have alone : ∀ settings, Settings.layer [] settings = settings := fun _ => rfl
  unfold load written? directoryOf
  rw [unset.ofEnvironment]
  dsimp only
  cases fileSettings system path with
  | error fault => rfl
  | ok settings =>
    simp only [Except.bind, bind, alone, Option.bind_some]
    cases DiscoveryConfig.ofSettings? (Settings.layer settings (.obj [])) with
    | none => rfl
    | some config =>
      cases Path.parent? path with
      | some directory =>
        dsimp only [DiscoveryConfig.settled, Option.getD_some]
        cases DiscoveryConfig.validate
          { config with modules := config.modules.map (settle directory) } <;> rfl
      | none =>
        dsimp only [DiscoveryConfig.settled, Option.getD_none]
        rw [same, List.map_id]
        cases config.validate <;> rfl

/-- Loading a file whose settings describe a configuration, without variables. The file is
refused exactly if the configuration violates one of the rules that show in the directory
of the file; the refusal lists these violations in the order of the rules. Otherwise the
configuration is as it is written, with relative paths of modules inside the directory. -/
theorem load_file {path namePrefix : String} {bindings : List (String × String)}
    (unset : Settings.Unset namePrefix bindings) {system : FileSystem} {config : DiscoveryConfig}
    (written : written? system path = .ok config) :
    ((∃ loaded, load ⟨some path, namePrefix⟩ system bindings = .ok loaded) ↔
      config.KeepsRules ∧
        (directoryOf path = "" → ∀ module ∈ config.modules, module.path ≠ "")) ∧
    (∀ loaded, load ⟨some path, namePrefix⟩ system bindings = .ok loaded →
      loaded = { config with
        modules := config.modules.map fun module =>
          if Path.isAbsolute module.path then module
          else { module with path := Path.join (directoryOf path) module.path } }) ∧
    (∀ error, load ⟨some path, namePrefix⟩ system bindings = .error error →
      error = .invalid (config.issues.filter (isVisible (directoryOf path)))) := by
  have loads : load ⟨some path, namePrefix⟩ system bindings =
      (config.settled (directoryOf path)).validate.map fun _ =>
        config.settled (directoryOf path) := by
    rw [load_written unset, written]
    rfl
  unfold DiscoveryConfig.validate at loads
  have kept := DiscoveryConfig.issues_settled_eq_nil_iff (directoryOf path) config
  have shown := DiscoveryConfig.issues_settled (directoryOf path) config
  by_cases valid : (config.settled (directoryOf path)).issues = []
  · rw [valid] at loads
    have loaded : load ⟨some path, namePrefix⟩ system bindings =
        .ok (config.settled (directoryOf path)) := loads
    rw [loaded]
    refine ⟨⟨fun _ => kept.mp valid, fun _ => ⟨_, rfl⟩⟩, ?_, by simp⟩
    rintro _ ⟨⟩
    rw [DiscoveryConfig.settled]
    congr 2
    funext module
    rw [settle, Path.join]
    split <;> rfl
  · rw [if_neg (by simpa using valid), shown] at loads
    have refused : load ⟨some path, namePrefix⟩ system bindings =
        .error (.invalid (config.issues.filter (isVisible (directoryOf path)))) := loads
    rw [refused]
    refine ⟨⟨by simp, fun rules => absurd (kept.mpr rules) valid⟩, by simp, ?_⟩
    rintro _ ⟨⟩
    rfl

/-- A configuration with a module whose path is empty. -/
def pathless : DiscoveryConfig := { DiscoveryConfig.standard with modules := [⟨"", "App"⟩] }

/-- A system with that configuration in a file of the working directory, and in one of a
directory below it. -/
def pathlessSystem : FileSystem where
  root := .directory [("conf", .directory [("d.toml", .file pathless.toToml.toUTF8)]),
    ("d.toml", .file pathless.toToml.toUTF8)]
  workingDirectory := []

/-- Both files say what the configuration is. -/
theorem written?_pathless (path : String) (known : path = "d.toml" ∨ path = "conf/d.toml") :
    written? pathlessSystem path = .ok pathless := by
  have pieces : FileSystem.pieces "d.toml" = ["d.toml"] ∧
      FileSystem.pieces "conf/d.toml" = ["conf", "d.toml"] := by decide
  have found : pathlessSystem.find path = .ok (.file pathless.toToml.toUTF8) := by
    rw [FileSystem.find_eq_ok_iff]
    rcases known with rfl | rfl
    · refine ⟨["d.toml"], ?_, rfl⟩
      simp [FileSystem.locate, pieces, FileSystem.locateFrom, pathlessSystem, FileTree.at?,
        FileTree.entries, Keyed.get?, Path.isAbsolute]
    · refine ⟨["conf", "d.toml"], ?_, rfl⟩
      simp [FileSystem.locate, pieces, FileSystem.locateFrom, pathlessSystem, FileTree.at?,
        FileTree.entries, Keyed.get?, Path.isAbsolute]
  apply written?_toToml
  · rw [FileSystem.isFile, found]
  · rw [FileSystem.readText?, FileSystem.read, found]
    exact Text.fromUTF8?_toUTF8 _
  · rcases known with rfl | rfl <;> decide

/-- Variables of other names do not matter, and in the working directory the violation is
reported. -/
theorem load_file_pathless :
    load ⟨some "d.toml", "DISCOVERY"⟩ pathlessSystem [("DISCO", "on")] =
      .error (.invalid [.emptyModulePath 0]) := by
  have unset : Settings.Unset "DISCOVERY" [("DISCO", "on")] := by
    simp only [Settings.Unset, List.forall_mem_singleton]
    decide
  obtain ⟨loads, _, refuses⟩ := load_file unset (written?_pathless "d.toml" (.inl rfl))
  have directory : directoryOf "d.toml" = "" := by decide
  cases loaded : load ⟨some "d.toml", "DISCOVERY"⟩ pathlessSystem [("DISCO", "on")] with
  | ok config => exact absurd rfl ((loads.mp ⟨config, loaded⟩).2 directory _ List.mem_cons_self)
  | error error =>
    rw [refuses error loaded, directory]
    decide +kernel

/-- The same configuration is loaded from a file below, where the empty path has become that
of the directory: the violation is not reported. -/
theorem load_hides_emptyModulePath :
    written? pathlessSystem "conf/d.toml" = .ok pathless ∧
      pathless.issues = [.emptyModulePath 0] ∧
      load ⟨some "conf/d.toml", "DISCOVERY"⟩ pathlessSystem [] =
        .ok { DiscoveryConfig.standard with modules := [⟨"conf/", "App"⟩] } := by
  have written := written?_pathless "conf/d.toml" (.inr rfl)
  have unset : Settings.Unset "DISCOVERY" [] := List.forall_mem_nil _
  have directory : directoryOf "conf/d.toml" = "conf" := by decide
  have valid : (pathless.settled "conf").validate = .ok () := by decide +kernel
  refine ⟨written, by decide +kernel, ?_⟩
  rw [load_written unset, written, directory]
  dsimp only [Except.bind]
  rw [valid]
  decide

end ConfigSource

end ServiceWiring
