import ServiceWiring.Config.Basic
import ServiceWiring.Error
import ServiceWiring.Files.System
import ServiceWiring.Toml.Printer

/-!
# Saving configurations

A configuration is saved as a TOML document with every part written out: the
environment first, then the scan rules and the separator as tables, and the modules as
an array of tables. Paths of modules are written as they are.
-/

namespace ServiceWiring

open Toml (Field writeLines writeTable writeElement)

/-- The lines of scan rules. -/
def ScanConfig.tomlLines (scan : ScanConfig) : List (String × Field) :=
  [("file_patterns", .texts scan.filePatterns), ("excluded_dirs", .texts scan.excludedNames),
    ("vendor_markers", .texts scan.vendorMarkers), ("follow_links", .flag scan.followLinks),
    ("sorted", .flag scan.sorted)]

/-- The lines of a module. -/
def Module.tomlLines (module : Module) : List (String × Field) :=
  [("path", .text module.path), ("namespace_prefix", .text module.namespacePrefix)]

namespace DiscoveryConfig

/-- The lines before the first table. Where there are no modules, a line says so. -/
def tomlLines (config : DiscoveryConfig) : List (String × Field) :=
  ("environment", .text config.environment) ::
    (if config.modules.isEmpty then [("modules", .texts [])] else [])

/-- A configuration as a TOML document. -/
def toToml (config : DiscoveryConfig) : String :=
  String.ofList (writeLines config.tomlLines ++ writeTable "scan" config.scan.tomlLines ++
    writeTable "resolver" [("namespace_separator", .text config.separator)] ++
    config.modules.flatMap fun module => writeElement "modules" module.tomlLines)

/-- Writes a configuration to a file. -/
def save (config : DiscoveryConfig) (path : String) (system : FileSystem) :
    Except ConfigError FileSystem :=
  (system.write path config.toToml.toUTF8).mapError .fileAccess

end DiscoveryConfig

end ServiceWiring
