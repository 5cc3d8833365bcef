import ServiceWiring.Config.Load
import ServiceWiring.Discovery.Run
import ServiceWiring.Logging

/-!
# Discovery plans

A plan gathers what a discovery is to work with, step by step: a configuration or a
file to load one from, modules, an environment, and a parser, a class table and log
settings of the host. Setting up the discovery checks the configuration first.
-/

namespace ServiceWiring

/-- What a discovery is to work with. -/
structure DiscoveryPlan where
  config : DiscoveryConfig
  parser : MetadataParser
  /-- The classes of the host; without them the files tell what classes there are. -/
  classes : Option ClassTable
  /-- The log settings to install, if any. -/
  logging : Option LogSettings

namespace DiscoveryPlan

/-- The plan in which nothing has been chosen. -/
def standard : DiscoveryPlan := ⟨.standard, DocBlock.parser, none, none⟩

/-- The plan for a configuration in place of the present one. -/
def withConfig (config : DiscoveryConfig) (plan : DiscoveryPlan) : DiscoveryPlan :=
  { plan with config }

/-- The plan for the configuration in a file, with environment variables on top. -/
def loadConfig (system : FileSystem) (bindings : List (String × String)) (path : String)
    (plan : DiscoveryPlan) : Except DiscoveryError DiscoveryPlan :=
  match ConfigSource.load { ConfigSource.standard with file := some path } system bindings with
  | .ok config => .ok (plan.withConfig config)
  | .error error => .error (.config error)

/-- The plan with one more module. -/
def withModule (module : Module) (plan : DiscoveryPlan) : DiscoveryPlan :=
  { plan with config := plan.config.withModule module }

/-- The plan for another environment. -/
def withEnvironment (environment : String) (plan : DiscoveryPlan) : DiscoveryPlan :=
  { plan with config := plan.config.withEnvironment environment }

/-- The plan with a parser of the host. -/
def withParser (parser : MetadataParser) (plan : DiscoveryPlan) : DiscoveryPlan :=
  { plan with parser }

/-- The plan with the classes of the host. -/
def withClasses (classes : ClassTable) (plan : DiscoveryPlan) : DiscoveryPlan :=
  { plan with classes := some classes }

/-- The plan with log settings. -/
def withLogging (settings : LogSettings) (plan : DiscoveryPlan) : DiscoveryPlan :=
  { plan with logging := some settings }

/-- Sets up the discovery, unless the configuration is not valid. -/
def build (system : FileSystem) (plan : DiscoveryPlan) : Except DiscoveryError Discovery := do
  plan.config.validate.mapError .config
  Discovery.assemble system plan.config plan.parser plan.classes

end DiscoveryPlan

end ServiceWiring
