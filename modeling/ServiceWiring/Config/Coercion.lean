import ServiceWiring.Config.Basic
import ServiceWiring.Decimal.Written
import ServiceWiring.Text.Lower

/-!
# Configurations from settings

Settings are read more freely than data: texts may be given as numbers or truth values,
and truth values as numbers or words. A record may be an array of its fields in order,
in which fields at the end may be missing and items beyond the last field have no
effect. Nothing stands for `null`, and tables and arrays stand for nothing else.
-/

namespace ServiceWiring.Settings

open Decimal (Binary64 plainFormat)
open Text (lower)

/-- The text of a setting. Integers beyond sixty-three bits are rounded. -/
def text? : Json → Option String
  | .str text => some text
  | .bool value => some (if value then "true" else "false")
  | .int value =>
    some (if value < 0x8000000000000000 then toString value
      else (Binary64.ofNat value.toNat).write plainFormat)
  | .double value => some (value.write plainFormat)
  | _ => none

/-- The truth value of a setting. -/
def flag? : Json → Option Bool
  | .bool value => some value
  | .int value => some (value != 0)
  | .double value => some !value.isZero
  | .str text =>
    let word := lower text
    if ["1", "true", "on", "yes"].contains word then some true
    else if ["0", "false", "off", "no"].contains word then some false
    else none
  | _ => none

/-- The values of the named fields of a setting that is a record. -/
def record? (names : List String) : Json → Option (List (Option Json))
  | .obj entries => some (names.map fun name => Keyed.get? name entries)
  | .arr items =>
    some ((items.map some ++ List.replicate names.length none).take names.length)
  | _ => none

/-- The separator of namespaces in the settings of the resolver. -/
def separator? (setting : Json) : Option String := do
  match ← record? ["namespace_separator"] setting with
  | [separator] => Json.defaulted DiscoveryConfig.standard.separator text? separator
  | _ => none

end ServiceWiring.Settings

namespace ServiceWiring

/-- The scan rules that a setting describes. -/
def ScanConfig.ofSetting? (setting : Json) : Option ScanConfig := do
  let names := Json.list? Settings.text?
  match ← Settings.record?
      ["file_patterns", "excluded_dirs", "vendor_markers", "follow_links", "sorted"] setting with
  | [filePatterns, excludedNames, vendorMarkers, followLinks, sorted] =>
    some {
      filePatterns := ← Json.defaulted standard.filePatterns names filePatterns
      excludedNames := ← Json.defaulted standard.excludedNames names excludedNames
      vendorMarkers := ← Json.defaulted standard.vendorMarkers names vendorMarkers
      followLinks := ← Json.defaulted standard.followLinks Settings.flag? followLinks
      sorted := ← Json.defaulted standard.sorted Settings.flag? sorted }
  | _ => none

/-- The module that a setting describes. -/
def Module.ofSetting? : Json → Option Module
  | .obj entries => do
    some {
      path := ← Json.required Settings.text? (Keyed.get? "path" entries)
      namespacePrefix := ← Json.required Settings.text?
        (aliasedField? (Keyed.get? "namespace_prefix" entries)
          (Keyed.get? "namespace" entries)) }
  | .arr (path :: namespacePrefix :: _) => do
    some { path := ← Settings.text? path, namespacePrefix := ← Settings.text? namespacePrefix }
  | _ => none

/-- The configuration that settings describe. -/
def DiscoveryConfig.ofSettings? (settings : Json) : Option DiscoveryConfig := do
  match ← Settings.record? ["environment", "scan", "resolver", "modules"] settings with
  | [environment, scan, resolver, modules] =>
    some {
      environment := ← Json.defaulted standard.environment Settings.text? environment
      scan := ← Json.defaulted standard.scan ScanConfig.ofSetting? scan
      separator := ← Json.defaulted standard.separator Settings.separator? resolver
      modules := ← Json.defaulted standard.modules (Json.list? Module.ofSetting?) modules }
  | _ => none

end ServiceWiring
