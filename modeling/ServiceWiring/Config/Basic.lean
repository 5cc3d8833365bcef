import ServiceWiring.Json.Record
import ServiceWiring.Path

/-!
# Discovery configurations

A configuration names the environment, the rules by which modules are scanned, the
separator of namespaces, and the modules. Every part has a value of its own when it
is not given. A module is a directory and the namespace of the classes in it.

In JSON a module may call its namespace `namespace` or `namespace_prefix`, but not
both at once.
-/

namespace ServiceWiring

/-- A directory of source files and the namespace that its classes are in. -/
structure Module where
  path : String
  namespacePrefix : String
deriving DecidableEq, Repr

/-- The rules by which modules are scanned. -/
structure ScanConfig where
  /-- Patterns of the names of source files. -/
  filePatterns : List String
  /-- Names of directories and files that are left out. -/
  excludedNames : List String
  /-- Path components that mark a module as third-party code. -/
  vendorMarkers : List String
  followLinks : Bool
  sorted : Bool
deriving DecidableEq, Repr

/-- All that a discovery is told. -/
structure DiscoveryConfig where
  environment : String
  scan : ScanConfig
  separator : String
  modules : List Module
deriving DecidableEq, Repr

namespace Module

/-- Whether a component of the path of the module is one of some markers. -/
def isVendored (markers : List String) (module : Module) : Bool :=
  (Path.components module.path).any fun component =>
    markers.contains (String.ofList component.text)

/-- Whether two modules are the same. Their paths may be written differently. -/
def same (left right : Module) : Bool :=
  Path.same left.path right.path && left.namespacePrefix == right.namespacePrefix

/-- The record of a module. -/
def toJson (module : Module) : Json :=
  .obj [("path", .str module.path), ("namespace_prefix", .str module.namespacePrefix)]

/-- A field that has a second name: the value under the one name that is present. -/
def aliasedField? (name otherName : Option Json) : Option Json :=
  match name, otherName with
  | some _, some _ => none
  | some value, none => some value
  | none, value => value

/-- The module that a record describes: an object, or an array of its two fields. -/
def ofJson? : Json → Option Module
  | .obj entries => do
    some {
      path := ← Json.required Json.string? (Keyed.get? "path" entries)
      namespacePrefix := ← Json.required Json.string?
        (aliasedField? (Keyed.get? "namespace_prefix" entries)
          (Keyed.get? "namespace" entries)) }
  | .arr [path, namespacePrefix] => do
    some { path := ← path.string?, namespacePrefix := ← namespacePrefix.string? }
  | _ => none

end Module

namespace ScanConfig

/-- The rules that apply when none are given. -/
def standard : ScanConfig where
  filePatterns := ["*.php"]
  excludedNames := ["tests", "Tests", "DependencyInjection", "Resources"]
  vendorMarkers := ["vendor"]
  followLinks := false
  sorted := true

/-- The record of the rules. -/
def toJson (scan : ScanConfig) : Json :=
  .obj [("file_patterns", .arr (scan.filePatterns.map .str)),
    ("excluded_dirs", .arr (scan.excludedNames.map .str)),
    ("vendor_markers", .arr (scan.vendorMarkers.map .str)),
    ("follow_links", .bool scan.followLinks), ("sorted", .bool scan.sorted)]

/-- The rules that a record describes, with the standard ones for those it leaves out. -/
def ofJson? (value : Json) : Option ScanConfig := do
  let names := Json.list? Json.string?
  match ← value.record?
      ["file_patterns", "excluded_dirs", "vendor_markers", "follow_links", "sorted"] with
  | [filePatterns, excludedNames, vendorMarkers, followLinks, sorted] =>
    some {
      filePatterns := ← Json.defaulted standard.filePatterns names filePatterns
      excludedNames := ← Json.defaulted standard.excludedNames names excludedNames
      vendorMarkers := ← Json.defaulted standard.vendorMarkers names vendorMarkers
      followLinks := ← Json.defaulted standard.followLinks Json.bool? followLinks
      sorted := ← Json.defaulted standard.sorted Json.bool? sorted }
  | _ => none

end ScanConfig

namespace DiscoveryConfig

/-- The configuration when nothing is given. -/
def standard : DiscoveryConfig where
  environment := "dev"
  scan := .standard
  separator := "\\"
  modules := []

/-- The configuration for another environment. -/
def withEnvironment (environment : String) (config : DiscoveryConfig) : DiscoveryConfig :=
  { config with environment }

/-- The configuration with one more module at the end. -/
def withModule (module : Module) (config : DiscoveryConfig) : DiscoveryConfig :=
  { config with modules := config.modules ++ [module] }

/-- Whether two configurations are the same. Paths of modules may be written differently. -/
def same (left right : DiscoveryConfig) : Bool :=
  left.environment == right.environment && left.scan == right.scan &&
    left.separator == right.separator && left.modules.isEqv right.modules Module.same

/-- The record with the separator, which stands in a part of its own. -/
def resolverToJson (separator : String) : Json := .obj [("namespace_separator", .str separator)]

/-- The separator in such a record. -/
def resolverOfJson? (value : Json) : Option String := do
  match ← value.record? ["namespace_separator"] with
  | [separator] => Json.defaulted standard.separator Json.string? separator
  | _ => none

/-- The record of a configuration. -/
def toJson (config : DiscoveryConfig) : Json :=
  .obj [("environment", .str config.environment), ("scan", config.scan.toJson),
    ("resolver", resolverToJson config.separator),
    ("modules", .arr (config.modules.map Module.toJson))]

/-- The configuration that a record describes. What it leaves out is as in the standard one. -/
def ofJson? (value : Json) : Option DiscoveryConfig := do
  match ← value.record? ["environment", "scan", "resolver", "modules"] with
  | [environment, scan, resolver, modules] =>
    some {
      environment := ← Json.defaulted standard.environment Json.string? environment
      scan := ← Json.defaulted standard.scan ScanConfig.ofJson? scan
      separator := ← Json.defaulted standard.separator resolverOfJson? resolver
      modules := ← Json.defaulted standard.modules (Json.list? Module.ofJson?) modules }
  | _ => none

end DiscoveryConfig

end ServiceWiring
