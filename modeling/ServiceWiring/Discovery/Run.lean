import ServiceWiring.Class.Index
import ServiceWiring.Container.Memory
import ServiceWiring.Discovery.Pipeline
import ServiceWiring.Files.Scanner

/-!
# Discoveries

A discovery is a pipeline with the configuration that it was made for and the scanner
that finds its candidates. Its classes are those that the host names or, if the host
names none, those that the files declare when the discovery is set up. Files that
change afterwards change what is scanned, and not what the classes are.
-/

namespace ServiceWiring

/-- A discovery that is ready to run. -/
structure Discovery where
  config : DiscoveryConfig
  scanner : FileScanner
  pipeline : Pipeline

namespace Discovery

/-- Sets up the discovery for a configuration, which need not be valid. -/
def assemble (system : FileSystem) (config : DiscoveryConfig) (parser : MetadataParser)
    (classes : Option ClassTable) : Except DiscoveryError Discovery := do
  let scanner ← FileScanner.ofConfig config.scan
  let naming : Naming := ⟨config.separator⟩
  let table ← match classes with
    | some table => .ok table
    | none => ClassTable.ofModules naming system.sourceText? (scanner.source system) config.modules
  return ⟨config, scanner, ⟨naming, table, parser, config.environment⟩⟩

/-- The descriptors of the services in some modules, in the order of discovery. -/
def collect (discovery : Discovery) (system : FileSystem) (modules : List Module)
    (stats : Stats) : Except DiscoveryError (List ServiceDescriptor) × Stats :=
  discovery.pipeline.collect (discovery.scanner.source system) modules stats

/-- Hands the directives of some modules to a builder. -/
def run {σ : Type} (discovery : Discovery) (system : FileSystem) (modules : List Module)
    (builder : ContainerBuilder σ) (state : σ) : Except DiscoveryError Stats × σ :=
  discovery.pipeline.run (discovery.scanner.source system) modules builder state

/-- The directives that a container holds after a run over the configured modules, and
the numbers of the run. -/
def directives (discovery : Discovery) (system : FileSystem) :
    Except DiscoveryError (List ConstructionDirective × Stats) :=
  let (result, container) := discovery.run system discovery.config.modules Container.builder .empty
  result.map fun stats => (container.directives, stats)

/-- Sets up a discovery of the classes that the files declare, and runs it over the modules of
its configuration. A discovery that cannot be set up leaves the builder alone. -/
def perform {σ : Type} (system : FileSystem) (config : DiscoveryConfig)
    (parser : MetadataParser) (builder : ContainerBuilder σ) (state : σ) :
    Except DiscoveryError Stats × σ :=
  match assemble system config parser none with
  | .error error => (.error error, state)
  | .ok discovery => discovery.run system config.modules builder state

end Discovery

end ServiceWiring
