import ServiceWiring.Discovery.Run
import ServiceWiring.Proofs.Container.Redefinition
import ServiceWiring.Proofs.Discovery.Tally
import ServiceWiring.Proofs.Files.Scanner

/-!
# The directives that a discovery returns

A discovery returns what a container holds after a run. The container is handed the
directives of the services in ascending priority, and a service may declare the identifier
of another one; so what is returned may be shorter than what was emitted, and in another
order. The main statement says exactly what is returned, and when it is what was emitted.

The sequence that was emitted is observed through a record that the container keeps beside
its entries, as in the statements about builders of any kind.
-/

namespace ServiceWiring

namespace Pipeline

variable (pipeline : Pipeline) (source : CandidateSource) (modules : List Module)

/-- A run into an empty container that succeeds has handed it the directives of the services,
and leaves it as it is after their definitions. -/
theorem run_container {stats : Stats} {container : Container}
    (succeeded : pipeline.run source modules Container.builder .empty = (.ok stats, container)) :
    container = Container.ofList (pipeline.definitions source modules) ∧
      stats.directivesEmitted = (pipeline.definitions source modules).length ∧
      pipeline.run source modules Container.builder.recorded (.empty, []) =
        (.ok stats, (container, pipeline.definitions source modules)) := by
  obtain ⟨passing, _⟩ := pipeline.run_stats source modules succeeded
  obtain ⟨numbers, emitted, plain, recorded⟩ := pipeline.run_of_accepts source modules passing
    (Container.accepts_builder (pipeline.definitions source modules) .empty)
  rw [succeeded, Prod.mk.injEq, Except.ok.injEq] at plain
  obtain ⟨rfl, rfl⟩ := plain
  exact ⟨rfl, emitted, recorded⟩

end Pipeline

namespace Discovery

/-- **What a container holds.** When directives are defined in an empty container, which
accepts them all, its identifiers are the different ones of the directives in the order of
their first definition; under each of them stands the directive that was defined last, under
all others none; every directive stands under its own identifier; and the size is the number
of different identifiers.

So a discovery that succeeds returns, of the directives that were emitted in ascending
priority, the last of each identifier at the first position of this identifier. These are no
more than were emitted, and they are the emitted ones in their order exactly when the emitted
identifiers are pairwise distinct. -/
theorem directives_keep_last :
    (∀ definitions : List ConstructionDirective,
      Accepts Container.builder definitions .empty (Container.ofList definitions) ∧
      (Container.ofList definitions).ids =
        (definitions.map ConstructionDirective.id).eraseDups ∧
      (∀ id, (Container.ofList definitions).get? id =
        (definitions.filter fun directive => directive.id = id).getLast?) ∧
      (∀ id directive, (id, directive) ∈ (Container.ofList definitions).entries →
        directive.id = id) ∧
      (Container.ofList definitions).size =
        (definitions.map ConstructionDirective.id).toFinset.card) ∧
    ∀ (discovery : Discovery) (system : FileSystem) (held : List ConstructionDirective)
      (stats : Stats), discovery.directives system = .ok (held, stats) →
      ∃ (ordered : List ServiceDescriptor) (container : Container),
        discovery.run system discovery.config.modules Container.builder.recorded (.empty, []) =
          (.ok stats, (container, ordered.map ConstructionDirective.ofDescriptor)) ∧
        (ordered.Pairwise fun left right => left.priority ≤ right.priority) ∧
        (let emitted := ordered.map ConstructionDirective.ofDescriptor
        held.map some = (emitted.map ConstructionDirective.id).eraseDups.map (fun id =>
            (emitted.filter fun directive => directive.id = id).getLast?) ∧
          stats.directivesEmitted = emitted.length ∧ held.length ≤ stats.directivesEmitted ∧
          (held = emitted ↔ (emitted.map ConstructionDirective.id).Nodup)) := by
  constructor
  · intro definitions
    exact ⟨Container.accepts_builder definitions .empty, Container.ids_ofList definitions,
      Container.get?_ofList definitions, fun _ _ => Container.id_of_mem_ofList,
      Container.size_ofList definitions⟩
  · intro discovery system held stats returned
    obtain ⟨result, container, ran⟩ : ∃ result container,
        discovery.run system discovery.config.modules Container.builder .empty =
          (result, container) := ⟨_, _, rfl⟩
    rw [directives, ran] at returned
    cases result with
    | error error => simp [Except.map] at returned
    | ok numbers =>
      simp only [Except.map, Except.ok.injEq, Prod.mk.injEq] at returned
      obtain ⟨rfl, rfl⟩ := returned
      obtain ⟨rfl, emitted, recorded⟩ := discovery.pipeline.run_container _ _ ran
      have sorted := ServiceDescriptor.order_sortsStably
        (((discovery.pipeline.services (discovery.scanner.source system)
          discovery.config.modules).map Prod.snd).map ServiceDescriptor.resolve)
      refine ⟨_, _, recorded, sorted.ascending, Container.directives_ofList _, emitted, ?_,
        Container.directives_ofList_eq_iff _⟩
      have fewer := List.toFinset_card_le ((discovery.pipeline.definitions
        (discovery.scanner.source system) discovery.config.modules).map
          ConstructionDirective.id)
      rw [← Container.size_ofList, List.length_map, ← emitted] at fewer
      rw [Container.directives, List.length_map]
      exact fewer

/-- Two services that declare one identifier. The one that is found last is defined first. -/
def twinsPipeline : Pipeline where
  naming := .standard
  table := .ofList [⟨"App\\a\\Sender", .classKind, some "", []⟩,
    ⟨"App\\a", .classKind, some "", []⟩]
  parser id _ :=
    .ok [⟨serviceName, .obj [("id", .str "mailer"),
      ("priority", .int (if id = "App\\a" then 1 else 2))]⟩]
  environment := "dev"

/-- A discovery of these two among the files of the office. -/
def twins : Discovery where
  config := { DiscoveryConfig.standard with modules := [⟨"office", "App"⟩] }
  scanner := FileScanner.standardScanner
  pipeline := twinsPipeline

/-- The descriptor of one of them. -/
def twinDescriptor (classId : ClassIdentifier) (priority : Int) : ServiceDescriptor :=
  { ServiceDescriptor.ofClass classId with id := some "mailer", priority }

/-- The directive that remains of them. -/
def remainingDirective : ConstructionDirective :=
  .ofDescriptor (twinDescriptor "App\\a\\Sender" 2)

/-- What that discovery finds. -/
theorem findings_twins :
    findings twins.pipeline.naming (twins.scanner.source FileScanner.officeSystem)
        twins.config.modules =
      [.scanned, .candidate "App\\a\\Sender", .candidate "App\\a"] := by
  have own : (twins.scanner.source FileScanner.officeSystem).skips ⟨"office", "App"⟩ = false := by
    decide
  have scanned : (twins.scanner.source FileScanner.officeSystem).candidates ⟨"office", "App"⟩ =
      [.ok ⟨"office", "a/Sender.php"⟩, .ok ⟨"office", "a.php"⟩] := FileScanner.scan_officeSystem
  have modules : twins.config.modules = [⟨"office", "App"⟩] := rfl
  rw [modules, findings, List.flatMap_singleton, findingsIn, own, scanned]
  decide +kernel

/-- The descriptor that is found last is emitted first. -/
theorem emission_twins :
    Pipeline.emission [twinDescriptor "App\\a\\Sender" 2, twinDescriptor "App\\a" 1] =
      [twinDescriptor "App\\a" 1, twinDescriptor "App\\a\\Sender" 2] := by
  have resolved : ∀ classId priority,
      (twinDescriptor classId priority).resolve = twinDescriptor classId priority :=
    fun _ _ => rfl
  have later : ¬(twinDescriptor "App\\a\\Sender" 2).priority ≤
      (twinDescriptor "App\\a" 1).priority := by
    decide
  simp [Pipeline.emission, ServiceDescriptor.order, List.mergeSort, resolved, later]

/-- What that discovery returns. -/
theorem directives_twins : twins.directives FileScanner.officeSystem =
    .ok ([remainingDirective], ⟨1, 0, 2, 0, 0, 0, 0, 2⟩) := by
  have collected : twins.pipeline.collect (twins.scanner.source FileScanner.officeSystem)
      twins.config.modules .zero =
        (.ok [twinDescriptor "App\\a\\Sender" 2, twinDescriptor "App\\a" 1],
          ⟨1, 0, 2, 0, 0, 0, 0, 0⟩) := by
    rw [Pipeline.collect, findings_twins]
    decide
  rw [directives, run, Pipeline.run, collected]
  dsimp only
  rw [emission_twins]
  rfl

/-- Of two directives with one identifier the second one is returned, and nothing else. -/
theorem directives_keep_last_twins :
    twins.directives FileScanner.officeSystem =
        .ok ([remainingDirective], ⟨1, 0, 2, 0, 0, 0, 0, 2⟩) ∧
      ∃ (ordered : List ServiceDescriptor) (container : Container),
        twins.run FileScanner.officeSystem twins.config.modules Container.builder.recorded
            (.empty, []) =
          (.ok ⟨1, 0, 2, 0, 0, 0, 0, 2⟩,
            (container, ordered.map ConstructionDirective.ofDescriptor)) ∧
        ¬((ordered.map ConstructionDirective.ofDescriptor).map ConstructionDirective.id).Nodup := by
  obtain ⟨ordered, container, recorded, _, _, emitted, _, whole⟩ :=
    directives_keep_last.2 twins FileScanner.officeSystem _ _ directives_twins
  refine ⟨directives_twins, ordered, container, recorded, fun distinct => ?_⟩
  have same := congrArg List.length (whole.mpr distinct)
  rw [← emitted] at same
  exact absurd same (by decide)

end Discovery

end ServiceWiring
