import ServiceWiring.Container.Emission
import ServiceWiring.Discovery.Collection
import ServiceWiring.Service.Order

/-!
# Discovery pipelines

A pipeline finds the services among the candidates of some modules and hands their
directives to a container builder. All descriptors are collected before the first directive is handed
over, so the builder sees nothing of a run that fails before. Arguments are resolved
after collecting, and the directives go out in the order of their priorities.
-/

namespace ServiceWiring

/-- What descriptors are made with. -/
structure Pipeline where
  naming : Naming
  table : ClassTable
  parser : MetadataParser
  environment : String

namespace Pipeline

/-- The descriptors of the services in some modules, in the order of discovery. The
numbers are added to those given, also when the collection fails. -/
def collect (pipeline : Pipeline) (source : CandidateSource) (modules : List Module)
    (stats : Stats) : Except DiscoveryError (List ServiceDescriptor) × Stats :=
  let (result, collection) := Collection.takeAll pipeline.table
    (buildDescriptor pipeline.parser pipeline.environment)
    (findings pipeline.naming source modules) ⟨[], [], stats⟩
  (result.map fun () => collection.descriptors, collection.stats)

/-- The descriptors as they are emitted: with resolved arguments, by priority. -/
def emission (descriptors : List ServiceDescriptor) : List ServiceDescriptor :=
  ServiceDescriptor.order (descriptors.map ServiceDescriptor.resolve)

/-- Hands the directives of some modules to a builder. -/
def run {σ : Type} (pipeline : Pipeline) (source : CandidateSource) (modules : List Module)
    (builder : ContainerBuilder σ) (state : σ) : Except DiscoveryError Stats × σ :=
  match pipeline.collect source modules .zero with
  | (.error error, _) => (.error error, state)
  | (.ok descriptors, stats) =>
    match emit builder (emission descriptors) state with
    | (.error refusal, state) => (.error (.registration refusal), state)
    | (.ok emitted, state) => (.ok { stats with directivesEmitted := emitted }, state)

end Pipeline

end ServiceWiring
