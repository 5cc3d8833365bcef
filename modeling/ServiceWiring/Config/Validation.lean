import ServiceWiring.Config.Basic
import ServiceWiring.Files.Glob
import ServiceWiring.Text.Blank

/-!
# Valid configurations

A configuration is valid when its environment is not blank, it has patterns and
each of them is well formed, its separator is not empty, and no module has an empty
path. All violations are reported together, in this order.
-/

namespace ServiceWiring.DiscoveryConfig

/-- The violation of a pattern that is not well formed. -/
def patternIssue? (glob : String) : Option ConfigIssue :=
  match Glob.parse glob with
  | .ok _ => none
  | .error fault => some (.badPattern glob fault)

/-- The violations of modules whose numbers start at `first`. -/
def moduleIssues (first : Nat) : List Module → List ConfigIssue
  | [] => []
  | module :: modules =>
    (if module.path.isEmpty then [.emptyModulePath first] else []) ++
      moduleIssues (first + 1) modules

/-- All violations of a configuration. -/
def issues (config : DiscoveryConfig) : List ConfigIssue :=
  (if Text.allBlank config.environment.toList then [.blankEnvironment] else []) ++
    (if config.scan.filePatterns.isEmpty then [.noPatterns] else []) ++
    config.scan.filePatterns.filterMap patternIssue? ++
    (if config.separator.isEmpty then [.emptySeparator] else []) ++
    moduleIssues 0 config.modules

/-- Refuses a configuration that is not valid. -/
def validate (config : DiscoveryConfig) : Except ConfigError Unit :=
  if config.issues.isEmpty then .ok () else .error (.invalid config.issues)

end ServiceWiring.DiscoveryConfig
