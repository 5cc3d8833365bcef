import ServiceWiring.Class.Naming
import ServiceWiring.Class.Table
import ServiceWiring.Discovery.Candidate
import ServiceWiring.Discovery.Stats
import ServiceWiring.Service.Build

/-!
# Collecting descriptors

A collection goes through what the source yields for some modules, in order. Each
candidate leads to the class that its path gives the name of. A class that cannot be
loaded, that is no service, or that is none in this environment is counted and left
out; a class that came up before is left out without being counted. The first fault
or error ends the collection, and what was counted until then remains counted.
-/

namespace ServiceWiring

/-- What a collection meets on its way. -/
inductive Finding
  /-- A module that is left out. -/
  | vendored
  /-- A module whose candidates follow. -/
  | scanned
  /-- A candidate, by the class it should declare. -/
  | candidate (id : ClassIdentifier)
  | fault (error : DiscoveryError)
deriving DecidableEq, Repr

/-- What a source yields for a module. -/
def findingsIn (naming : Naming) (source : CandidateSource) (module : Module) : List Finding :=
  if source.skips module then [.vendored]
  else
    .scanned :: (source.candidates module).map fun
      | .ok file => .candidate (naming.classIdentifier file.relative module.namespacePrefix)
      | .error error => .fault error

/-- What a source yields for some modules. -/
def findings (naming : Naming) (source : CandidateSource) (modules : List Module) :
    List Finding :=
  modules.flatMap (findingsIn naming source)

/-- The descriptors found so far, in the order of discovery. -/
structure Collection where
  descriptors : List ServiceDescriptor
  /-- The loadable classes that have come up. -/
  seen : List ClassIdentifier
  stats : Stats
deriving DecidableEq, Repr

namespace Collection

/-- Counts the outcome for a class, and keeps the descriptor of a service. -/
def record (outcome : BuildOutcome) (collection : Collection) : Collection :=
  let stats := collection.stats
  match outcome with
  | .registered descriptor =>
    { collection with descriptors := collection.descriptors ++ [descriptor] }
  | .undocumented =>
    { collection with
      stats := { stats with undocumentedClasses := stats.undocumentedClasses + 1 } }
  | .notService =>
    { collection with
      stats := { stats with nonServiceClasses := stats.nonServiceClasses + 1 } }
  | .environmentExcluded =>
    { collection with
      stats := { stats with environmentExcluded := stats.environmentExcluded + 1 } }

/-- Looks at the class that a candidate leads to. -/
def visit (table : ClassTable)
    (build : ClassDefinition → Except DiscoveryError BuildOutcome) (id : ClassIdentifier)
    (collection : Collection) : Except DiscoveryError Unit × Collection :=
  let stats := collection.stats
  match table.loadable id with
  | none =>
    (.ok (), { collection with
      stats := { stats with unresolvedClasses := stats.unresolvedClasses + 1 } })
  | some definition =>
    if collection.seen.contains id then (.ok (), collection)
    else
      let collection := { collection with seen := id :: collection.seen }
      match build definition with
      | .error error => (.error error, collection)
      | .ok outcome => (.ok (), collection.record outcome)

/-- Takes up one finding. -/
def take (table : ClassTable)
    (build : ClassDefinition → Except DiscoveryError BuildOutcome) (finding : Finding)
    (collection : Collection) : Except DiscoveryError Unit × Collection :=
  let stats := collection.stats
  match finding with
  | .vendored =>
    (.ok (), { collection with
      stats := { stats with modulesVendored := stats.modulesVendored + 1 } })
  | .scanned =>
    (.ok (), { collection with
      stats := { stats with modulesScanned := stats.modulesScanned + 1 } })
  | .fault error => (.error error, collection)
  | .candidate id =>
    visit table build id { collection with
      stats := { stats with candidateFiles := stats.candidateFiles + 1 } }

/-- Takes up findings until one of them ends the collection. -/
def takeAll (table : ClassTable)
    (build : ClassDefinition → Except DiscoveryError BuildOutcome) :
    List Finding → Collection → Except DiscoveryError Unit × Collection
  | [], collection => (.ok (), collection)
  | finding :: findings, collection =>
    match take table build finding collection with
    | (.error error, collection) => (.error error, collection)
    | (.ok (), collection) => takeAll table build findings collection

end Collection

end ServiceWiring
