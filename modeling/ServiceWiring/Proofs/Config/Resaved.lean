import ServiceWiring.Proofs.Config.Saved
import ServiceWiring.Proofs.Files.Components

/-!
# Configurations that were loaded, saved and loaded again

Loading puts the modules of a configuration into the directory of its file, and saving writes
their paths as they have become. A file that is saved next to the one that was loaded therefore
puts them into the directory a second time. The main statement says when that does no harm:
where the directory is the one that relative paths start from, or the paths of the modules are
absolute. In all other cases another configuration is loaded.

A path can be written in different ways, and two configurations are the same if the paths of
their modules have the same components. So a path with one more dot at its beginning counts as
the same, though it is another text.
-/

namespace ServiceWiring

namespace Path

open Text (splitOnChar splitOnChar_mark splitOnChar_ne_nil)

/-! ## The components of joined paths -/

variable {base relative : String}

/-- The pieces of a relative path inside another one come behind those of the other one, where
an empty piece at its end does not count. -/
theorem exists_pieces_join (nonempty : base ≠ "") (inside : isAbsolute relative = false) :
    ∃ front back, front ≠ [] ∧ (back = [] ∨ back = [[]]) ∧
      splitOnChar '/' base.toList = front ++ back ∧
      splitOnChar '/' (join base relative).toList =
        front ++ splitOnChar '/' relative.toList := by
  obtain ⟨-, front, outer, whole⟩ := FileSystem.join_eq nonempty inside
  have joined := congrArg (splitOnChar '/') whole
  rw [splitOnChar_mark] at joined
  rcases outer with same | slash
  · exact ⟨_, [], splitOnChar_ne_nil _ _, .inl rfl, by rw [same, List.append_nil], joined⟩
  · refine ⟨_, [[]], splitOnChar_ne_nil _ _, .inr rfl, ?_, joined⟩
    rw [slash, splitOnChar_mark]
    rfl

/-- A relative path inside another one begins like the other one. -/
theorem beginning_join (nonempty : base ≠ "") (inside : isAbsolute relative = false) :
    beginning (join base relative) = beginning base := by
  obtain ⟨front, back, present, -, outer, joined⟩ := exists_pieces_join nonempty inside
  rw [beginning, beginning, (FileSystem.join_eq nonempty inside).1, joined, outer,
    List.head?_append_of_ne_nil _ present, List.head?_append_of_ne_nil _ present]

/-- Behind its beginning it has the components of both. -/
theorem laterComponents_join (nonempty : base ≠ "") (inside : isAbsolute relative = false) :
    laterComponents (join base relative) = laterComponents base ++ laterComponents relative := by
  obtain ⟨front, back, -, nothing, outer, joined⟩ := exists_pieces_join nonempty inside
  have noMore : back.filterMap laterComponent? = [] := by
    rcases nothing with rfl | rfl <;> rfl
  rw [laterComponents, laterComponents, laterComponents, joined, outer, List.filterMap_append,
    List.filterMap_append, noMore, List.append_nil]

/-- Whether a path has no components, or none but a dot at its beginning. Such a path leads to
where it starts from. -/
def IsHere (path : String) : Prop := ∀ component ∈ components path, component = .current

/-- A relative path leads nowhere if there is nothing behind its beginning. -/
theorem isHere_iff {path : String} (inside : isAbsolute path = false) :
    IsHere path ↔ laterComponents path = [] := by
  have begins : ∀ component ∈ beginning path, component = .current := by
    rw [beginning, if_neg (by simp [inside])]
    split <;> simp
  have later : ∀ component ∈ laterComponents path, component ≠ .current := by
    intro component member
    obtain ⟨piece, -, found⟩ := List.mem_filterMap.mp member
    rintro rfl
    rw [laterComponent?] at found
    split_ifs at found <;> simp at found
  rw [IsHere, components_eq, List.forall_mem_append]
  constructor
  · intro here
    rw [List.eq_nil_iff_forall_not_mem]
    exact fun component member => later component member (here.2 component member)
  · intro none
    rw [none]
    exact ⟨begins, List.forall_mem_nil _⟩

/-- A path that is inside a directory already is the same path when it is put there again, if
the directory leads nowhere or the path is absolute, and only then. -/
theorem same_join_join_iff (directory path : String) :
    same (join directory (join directory path)) (join directory path) = true ↔
      IsHere directory ∨ isAbsolute (join directory path) = true := by
  rw [same, beq_iff_eq]
  by_cases absolute : isAbsolute (join directory path) = true
  · have kept : join directory (join directory path) = join directory path := by
      rw [join, if_pos absolute]
    rw [kept]
    exact ⟨fun _ => .inr absolute, fun _ => rfl⟩
  by_cases empty : directory = ""
  · subst empty
    have here : IsHere "" := List.forall_mem_nil _
    rw [join_empty]
    exact ⟨fun _ => .inl here, fun _ => rfl⟩
  have outside : isAbsolute (join directory path) = false := by simpa using absolute
  have relative : isAbsolute path = false := by
    rw [Bool.eq_false_iff]
    intro starts
    rw [join, if_pos starts] at absolute
    exact absolute starts
  have relativeDirectory : isAbsolute directory = false := by
    rw [← (FileSystem.join_eq empty relative).1, outside]
  -- Both paths begin like the directory, and end alike; the outer one has the directory twice.
  rw [components_eq, components_eq (join directory path), beginning_join empty outside,
    beginning_join empty relative, laterComponents_join empty outside, List.append_cancel_left_eq,
    List.append_left_eq_self, isHere_iff relativeDirectory]
  simp [outside]

/-- What is inside an absolute path is absolute. -/
theorem isAbsolute_join_of_base {base : String} (absolute : isAbsolute base = true)
    (path : String) : isAbsolute (join base path) = true := by
  have nonempty : base ≠ "" := by
    rintro rfl
    exact absurd absolute (by decide)
  cases inside : isAbsolute path with
  | true => rw [join, if_pos inside, inside]
  | false => rw [(FileSystem.join_eq nonempty inside).1, absolute]

/-- A path inside a directory is written like the path itself only where the directory has no
name or the path is absolute. -/
theorem join_eq_self_iff (directory path : String) :
    join directory path = path ↔ directory = "" ∨ isAbsolute path = true := by
  constructor
  · intro kept
    by_contra otherwise
    rw [not_or, Bool.not_eq_true] at otherwise
    obtain ⟨-, front, -, whole⟩ := FileSystem.join_eq otherwise.1 otherwise.2
    have longer := congrArg List.length whole
    rw [kept, List.length_append, List.length_cons] at longer
    omega
  · rintro (rfl | absolute)
    · exact join_empty path
    · rw [join, if_pos absolute]

end Path

namespace DiscoveryConfig

/-- A configuration whose modules are put into a directory is the same if that does not change
the paths of the modules. -/
theorem same_settled (directory : String) (config : DiscoveryConfig) :
    (config.settled directory).same config = true ↔
      ∀ module ∈ config.modules, Path.same (Path.join directory module.path) module.path = true := by
  have paths : ∀ modules : List Module,
      (modules.map (ConfigSource.settle directory)).isEqv modules Module.same =
        modules.all fun module => Path.same (Path.join directory module.path) module.path := by
    intro modules
    induction modules with
    | nil => rfl
    | cons module modules inductionHypothesis =>
      rw [List.map_cons, List.isEqv, inductionHypothesis, List.all_cons, Module.same,
        ConfigSource.settle]
      simp
  rw [same, settled, paths]
  simp

/-- It is written like before if their paths are. -/
theorem settled_eq_self_iff (directory : String) (config : DiscoveryConfig) :
    config.settled directory = config ↔
      directory = "" ∨ ∀ module ∈ config.modules, Path.isAbsolute module.path = true := by
  have each : ∀ module : Module, ConfigSource.settle directory module = module ↔
      directory = "" ∨ Path.isAbsolute module.path = true := by
    intro module
    rw [← Path.join_eq_self_iff, ConfigSource.settle]
    cases module
    simp
  have modules : config.settled directory = config ↔
      config.modules.map (ConfigSource.settle directory) = config.modules.map id := by
    rw [settled, List.map_id]
    cases config
    simp
  rw [modules, List.map_inj_left]
  simp only [id_eq, each, forall_or_left]

/-- A configuration is valid exactly if it has no violations. -/
theorem validate_eq_ok_iff (config : DiscoveryConfig) :
    config.validate = .ok () ↔ config.issues = [] := by
  rw [validate]
  cases config.issues <;> simp

end DiscoveryConfig

namespace ConfigSource

/-- The configuration that has been saved to a TOML file is written in it. -/
theorem written?_save {config : DiscoveryConfig} {path : String}
    (toml : Path.extension path = ['t', 'o', 'm', 'l']) {system saved : FileSystem}
    (success : config.save path system = .ok saved) : written? saved path = .ok config := by
  rw [DiscoveryConfig.save] at success
  cases stored : system.write path config.toToml.toUTF8 with
  | error fault =>
    rw [stored] at success
    cases success
  | ok changed =>
    rw [stored] at success
    cases success
    obtain ⟨present, content⟩ := FileSystem.readText?_write stored
    exact written?_toToml present content toml

/-- A loaded configuration is valid, and its modules have been put into the directory of the
file. -/
theorem exists_written_of_load {path namePrefix : String} {bindings : List (String × String)}
    (unset : Settings.Unset namePrefix bindings) {system : FileSystem} {config : DiscoveryConfig}
    (loaded : load ⟨some path, namePrefix⟩ system bindings = .ok config) :
    config.issues = [] ∧ ∃ written : DiscoveryConfig, config = written.settled (directoryOf path) := by
  rw [load_written unset] at loaded
  cases found : written? system path with
  | error fault =>
    rw [found] at loaded
    cases loaded
  | ok written =>
    rw [found] at loaded
    dsimp only [Except.bind] at loaded
    cases valid : (written.settled (directoryOf path)).validate with
    | error fault =>
      rw [valid] at loaded
      cases loaded
    | ok =>
      rw [valid] at loaded
      cases loaded
      exact ⟨(DiscoveryConfig.validate_eq_ok_iff _).mp valid, written, rfl⟩

/-- A configuration that was loaded from a file and saved to a TOML file of the same directory
can be loaded again, with relative paths of modules inside the directory once more. That is the
configuration that was saved if the directory leads nowhere or all these paths are absolute, and
only then; it is written in the same way if the directory has no name at all or all paths are
absolute. All paths are absolute if the path of the directory is.

Proof: what is loaded is what is written, put into the directory. The modules of the loaded
configuration are there already, so each of their paths is one that the directory was joined to. -/
theorem load_resaved {path namePrefix : String} {bindings : List (String × String)}
    (unset : Settings.Unset namePrefix bindings) {system : FileSystem} {config : DiscoveryConfig}
    (loaded : load ⟨some path, namePrefix⟩ system bindings = .ok config) {other : String}
    (toml : Path.extension other = ['t', 'o', 'm', 'l'])
    (beside : directoryOf other = directoryOf path) {saved : FileSystem}
    (success : config.save other system = .ok saved) :
    ∃ again, load ⟨some other, namePrefix⟩ saved bindings = .ok again ∧
      again = { config with
        modules := config.modules.map fun module =>
          if Path.isAbsolute module.path then module
          else { module with path := Path.join (directoryOf path) module.path } } ∧
      (again.same config = true ↔ Path.IsHere (directoryOf path) ∨
        ∀ module ∈ config.modules, Path.isAbsolute module.path = true) ∧
      (again = config ↔ directoryOf path = "" ∨
        ∀ module ∈ config.modules, Path.isAbsolute module.path = true) ∧
      (Path.isAbsolute (directoryOf path) = true →
        ∀ module ∈ config.modules, Path.isAbsolute module.path = true) := by
  obtain ⟨valid, written, rfl⟩ := exists_written_of_load unset loaded
  generalize directoryOf path = directory at *
  refine ⟨(written.settled directory).settled directory, ?_, ?_, ?_,
    DiscoveryConfig.settled_eq_self_iff directory _, ?_⟩
  · have stillValid : ((written.settled directory).settled directory).validate = .ok () := by
      rw [DiscoveryConfig.validate_eq_ok_iff, DiscoveryConfig.issues_settled, valid]
      rfl
    rw [load_written unset, written?_save toml success, beside]
    dsimp only [Except.bind]
    rw [stillValid]
    rfl
  · rw [DiscoveryConfig.settled]
    congr 2
    funext module
    rw [settle, Path.join]
    split <;> rfl
  · rw [DiscoveryConfig.same_settled]
    simp only [DiscoveryConfig.settled, List.forall_mem_map, settle, Path.same_join_join_iff,
      forall_or_left]
  · intro absolute
    simp only [DiscoveryConfig.settled, List.forall_mem_map, settle]
    exact fun module _ => Path.isAbsolute_join_of_base absolute module.path

/-- A configuration with a module in a relative path. -/
def unsettled : DiscoveryConfig := { DiscoveryConfig.standard with modules := [⟨"src", "App"⟩] }

/-- A system with that configuration in a file of the working directory, and in one of a
directory below it. -/
def unsettledSystem : FileSystem where
  root := .directory [("conf", .directory [("d.toml", .file unsettled.toToml.toUTF8)]),
    ("d.toml", .file unsettled.toToml.toUTF8)]
  workingDirectory := []

/-- Both files are loaded with the module in the directory of the file. -/
theorem load_unsettled (path : String) (known : path = "./d.toml" ∨ path = "conf/d.toml") :
    load ⟨some path, "DISCOVERY"⟩ unsettledSystem [] =
      .ok (unsettled.settled (directoryOf path)) := by
  have pieces : FileSystem.pieces "./d.toml" = [".", "d.toml"] ∧
      FileSystem.pieces "conf/d.toml" = ["conf", "d.toml"] := by decide
  have found : unsettledSystem.find path = .ok (.file unsettled.toToml.toUTF8) := by
    rw [FileSystem.find_eq_ok_iff]
    rcases known with rfl | rfl
    · refine ⟨["d.toml"], ?_, rfl⟩
      simp [FileSystem.locate, pieces, FileSystem.locateFrom, unsettledSystem, FileTree.at?,
        FileTree.entries, Keyed.get?, Path.isAbsolute]
    · refine ⟨["conf", "d.toml"], ?_, rfl⟩
      simp [FileSystem.locate, pieces, FileSystem.locateFrom, unsettledSystem, FileTree.at?,
        FileTree.entries, Keyed.get?, Path.isAbsolute]
  have written : written? unsettledSystem path = .ok unsettled := by
    apply written?_toToml
    · rw [FileSystem.isFile, found]
    · rw [FileSystem.readText?, FileSystem.read, found]
      exact Text.fromUTF8?_toUTF8 _
    · rcases known with rfl | rfl <;> decide
  have valid : (unsettled.settled (directoryOf path)).validate = .ok () := by
    rcases known with rfl | rfl <;> decide +kernel
  rw [load_written (List.forall_mem_nil _), written]
  dsimp only [Except.bind]
  rw [valid]
  rfl

/-- Next to both files another one can be saved. -/
theorem save_unsettled (config : DiscoveryConfig) :
    (∃ saved, config.save "./e.toml" unsettledSystem = .ok saved) ∧
      ∃ saved, config.save "conf/e.toml" unsettledSystem = .ok saved := by
  have pieces : FileSystem.pieces "./e.toml" = [".", "e.toml"] ∧
      FileSystem.pieces "conf/e.toml" = ["conf", "e.toml"] := by decide
  have here : unsettledSystem.locate .writing "./e.toml" = .ok ["e.toml"] := by
    simp [FileSystem.locate, pieces, FileSystem.locateFrom, unsettledSystem, FileTree.at?,
      Keyed.get?, Path.isAbsolute]
  have below : unsettledSystem.locate .writing "conf/e.toml" = .ok ["conf", "e.toml"] := by
    simp [FileSystem.locate, pieces, FileSystem.locateFrom, unsettledSystem, FileTree.at?,
      FileTree.entries, Keyed.get?, Path.isAbsolute]
  rw [DiscoveryConfig.save, DiscoveryConfig.save, FileSystem.write, FileSystem.write, here, below]
  exact ⟨⟨_, rfl⟩, ⟨_, rfl⟩⟩

/-- From the working directory, named by a dot, the same configuration is loaded again, with one
more dot in the path of its module. -/
theorem load_resaved_here :
    ∃ config saved again, load ⟨some "./d.toml", "DISCOVERY"⟩ unsettledSystem [] = .ok config ∧
      config.save "./e.toml" unsettledSystem = .ok saved ∧
      load ⟨some "./e.toml", "DISCOVERY"⟩ saved [] = .ok again ∧
      again.same config = true ∧ again ≠ config := by
  have directory : directoryOf "./d.toml" = "." ∧ directoryOf "./e.toml" = "." := by
    decide
  have loaded := load_unsettled "./d.toml" (.inl rfl)
  obtain ⟨saved, success⟩ := (save_unsettled (unsettled.settled (directoryOf "./d.toml"))).1
  obtain ⟨again, reloaded, -, same, unchanged, -⟩ :=
    load_resaved (List.forall_mem_nil _) loaded (by decide)
      (directory.2.trans directory.1.symm) success
  refine ⟨_, saved, again, loaded, success, reloaded, same.mpr (.inl ?_), ?_⟩
  · have components : Path.components "." = [.current] := by decide
    rw [directory.1, Path.IsHere, components, List.forall_mem_singleton]
  · rw [Ne, unchanged, directory.1]
    decide

/-- From a directory below, another configuration is loaded again: its module has been put into
that directory twice. -/
theorem load_moves_resaved :
    ∃ saved, load ⟨some "conf/d.toml", "DISCOVERY"⟩ unsettledSystem [] =
        .ok { DiscoveryConfig.standard with modules := [⟨"conf/src", "App"⟩] } ∧
      DiscoveryConfig.save { DiscoveryConfig.standard with modules := [⟨"conf/src", "App"⟩] }
        "conf/e.toml" unsettledSystem = .ok saved ∧
      load ⟨some "conf/e.toml", "DISCOVERY"⟩ saved [] =
        .ok { DiscoveryConfig.standard with modules := [⟨"conf/conf/src", "App"⟩] } ∧
      DiscoveryConfig.same { DiscoveryConfig.standard with modules := [⟨"conf/conf/src", "App"⟩] }
        { DiscoveryConfig.standard with modules := [⟨"conf/src", "App"⟩] } = false := by
  have once : unsettled.settled (directoryOf "conf/d.toml") =
      { DiscoveryConfig.standard with modules := [⟨"conf/src", "App"⟩] } := by decide
  obtain ⟨saved, success⟩ := (save_unsettled
    { DiscoveryConfig.standard with modules := [⟨"conf/src", "App"⟩] }).2
  refine ⟨saved, ?_, success, ?_, by decide⟩
  · rw [load_unsettled "conf/d.toml" (.inr rfl), once]
  · have directory : directoryOf "conf/e.toml" = "conf" := by decide
    rw [load_written (List.forall_mem_nil _), written?_save (by decide) success, directory]
    dsimp only [Except.bind]
    decide +kernel

end ConfigSource

end ServiceWiring
