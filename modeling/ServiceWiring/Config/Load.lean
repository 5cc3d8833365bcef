import ServiceWiring.Config.Coercion
import ServiceWiring.Config.Environment
import ServiceWiring.Config.Settings
import ServiceWiring.Config.Validation
import ServiceWiring.Files.System
import ServiceWiring.Json.Reader
import ServiceWiring.Toml.Document

/-!
# Loading configurations

A configuration comes from a file, if one is named, with environment variables on top
of it. The extension of the file tells its format, TOML or JSON. Paths of modules are
relative to the directory of the file. Only a valid configuration is handed out.
-/

namespace ServiceWiring

/-- Where a configuration is loaded from. -/
structure ConfigSource where
  file : Option String
  /-- The prefix of the environment variables that hold settings. -/
  variablePrefix : String

namespace ConfigSource

/-- Environment variables with the usual prefix, and no file. -/
def standard : ConfigSource := ⟨none, "DISCOVERY"⟩

/-- The settings in a text, in the format that an extension names. -/
def settings? (extension : List Char) (text : String) : Option (List (String × Json)) :=
  if extension = ['t', 'o', 'm', 'l'] then (Toml.parse? text.toList).bind Json.entries?
  else if extension = ['j', 's', 'o', 'n'] then
    match Json.parse text.toList with
    | .ok (.obj entries) => some entries
    | _ => none
  else none

/-- The settings in a file. -/
def fileSettings (system : FileSystem) (path : String) :
    Except ConfigError (List (String × Json)) :=
  if !system.isFile path then .error (.fileNotFound path)
  else
    match (system.readText? path).bind (settings? (Path.extension path)) with
    | some settings => .ok settings
    | none => .error .unreadable

/-- A module whose path is relative to a directory. -/
def settle (directory : String) (module : Module) : Module :=
  { module with path := Path.join directory module.path }

/-- Loads a configuration. -/
def load (source : ConfigSource) (system : FileSystem) (bindings : List (String × String)) :
    Except ConfigError DiscoveryConfig := do
  let file ← match source.file with
    | some path => fileSettings system path
    | none => .ok []
  let settings := Settings.layer (Settings.ofEnvironment source.variablePrefix bindings)
    (Settings.layer file (.obj []))
  match DiscoveryConfig.ofSettings? settings with
  | none => .error .unreadable
  | some config =>
    let config := match source.file.bind Path.parent? with
      | some directory => { config with modules := config.modules.map (settle directory) }
      | none => config
    config.validate
    return config

end ConfigSource

end ServiceWiring
