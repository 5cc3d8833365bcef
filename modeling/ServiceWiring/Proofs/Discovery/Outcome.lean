import Mathlib.Data.List.Basic
import ServiceWiring.Proofs.Class.Table
import ServiceWiring.Proofs.Discovery.Runs

/-!
# What a run defines

The first main statement says which directives a builder has been handed when a run
succeeds: one for each class that the candidates provide, in the stable ascending order
of priorities. The second says that a run is all or nothing up to refusals: whatever
else ends it does so before the builder is used, and a refusal leaves exactly the
directives before the refused one accepted.

Both hold for every builder, table, parser and environment and for whatever a source
yields, the scanner of any file system included. The builder is observed through its
record of the directives it is handed, which changes neither result nor state.
-/

namespace ServiceWiring.Pipeline

variable {σ : Type} (pipeline : Pipeline) (source : CandidateSource) (modules : List Module)

/-- If the table has its definitions under their names, each service is one of the class
that it is listed under. -/
theorem services_classIds
    (named : pipeline.table.Named) :
    (pipeline.services source modules).map (fun service => service.2.classId) =
      (pipeline.services source modules).map Prod.fst := by
  apply List.map_congr_left
  rintro ⟨id, descriptor⟩ member
  obtain ⟨_, definition, found, _, registered⟩ :=
    (pipeline.mem_services_iff source modules id descriptor).mp member
  rw [classId_of_registered registered, named id definition found]

/-- A run that succeeds has handed the builder the directives of the services, resolved
and sorted stably by priority, and nothing else. The services are the classes that the
candidates provide, each listed once, so each of them is defined exactly once; and if
the table has its definitions under their names, no two directives are for one class.

Proof: of the three ways in which a run may end only the last one succeeds, and there
the record is the definitions. Sorting permutes, so each service keeps its one place. -/
theorem run_defines_services {builder : ContainerBuilder σ} {state final : σ} {stats : Stats}
    (succeeded : pipeline.run source modules builder state = (.ok stats, final)) :
    ∃ ordered : List ServiceDescriptor,
      SortsStably ServiceDescriptor.priority
        ((pipeline.services source modules).map fun service => service.2.resolve) ordered ∧
      pipeline.run source modules builder.recorded (state, []) =
        (.ok stats, (final, ordered.map ConstructionDirective.ofDescriptor)) ∧
      ((pipeline.services source modules).map Prod.fst).Nodup ∧
      (∀ id descriptor, (id, descriptor) ∈ pipeline.services source modules ↔
        pipeline.Provides source modules id descriptor) ∧
      (ordered.map ConstructionDirective.ofDescriptor).Perm
        ((pipeline.services source modules).map fun service =>
          ConstructionDirective.ofDescriptor service.2.resolve) ∧
      (pipeline.table.Named →
        ((ordered.map ConstructionDirective.ofDescriptor).map
          ConstructionDirective.classId).Nodup) := by
  have sorts := ServiceDescriptor.order_sortsStably
    ((pipeline.services source modules).map fun service => service.2.resolve)
  have emitted : pipeline.definitions source modules =
      (ServiceDescriptor.order ((pipeline.services source modules).map fun service =>
        service.2.resolve)).map ConstructionDirective.ofDescriptor := by
    rw [definitions, emission, List.map_map]
    rfl
  have permuted : (pipeline.definitions source modules).Perm
      ((pipeline.services source modules).map fun service =>
        ConstructionDirective.ofDescriptor service.2.resolve) := by
    have moved := sorts.members.map ConstructionDirective.ofDescriptor
    rw [List.map_map, ← emitted] at moved
    exact moved
  have recorded : pipeline.run source modules builder.recorded (state, []) =
      (.ok stats, (final, pipeline.definitions source modules)) := by
    rcases pipeline.run_cases source modules builder state with
      ⟨error, first⟩ | ⟨passing, ⟨last, accepts⟩ | ⟨accepted, refused, last, refusal, refuses⟩⟩
    · rw [pipeline.run_of_failure source modules first] at succeeded
      simp at succeeded
    · obtain ⟨numbers, _, plain, record⟩ := pipeline.run_of_accepts source modules passing accepts
      rw [plain, Prod.mk.injEq, Except.ok.injEq] at succeeded
      rw [record, succeeded.1, succeeded.2]
    · rw [(pipeline.run_of_refusesAfter source modules passing refuses).1] at succeeded
      simp at succeeded
  rw [emitted] at recorded permuted
  refine ⟨_, sorts, recorded, pipeline.nodup_services source modules,
    pipeline.mem_services_iff source modules, permuted, ?_⟩
  intro named
  have classes := permuted.map ConstructionDirective.classId
  rw [List.map_map (l := pipeline.services source modules)] at classes
  refine classes.nodup_iff.mpr ?_
  have same := pipeline.services_classIds source modules named
  have nodup := pipeline.nodup_services source modules
  rw [← same] at nodup
  exact nodup

/-- Two classes and an interface, with a service annotation each. -/
def annotatedPipeline (annotations : ClassIdentifier → List (String × Json)) : Pipeline where
  naming := .standard
  table := .ofList [⟨"App\\Mailer", .classKind, some "", []⟩,
    ⟨"App\\Logger", .enumKind, some "", []⟩, ⟨"App\\Port", .interfaceKind, some "", []⟩]
  parser id _ := .ok [⟨serviceName, .obj (annotations id)⟩]
  environment := "dev"

/-- The mailer is to be defined after the others, and is handed the logger and all services
with a tag. -/
def mailerPipeline : Pipeline := annotatedPipeline fun id =>
  if id = "App\\Mailer" then
    [("priority", .int 1), ("arguments", .arr [.str "@App\\Logger", .str "!tagged transport"])]
  else []

/-- Four files in every module but the vendored one. -/
def mailerSource : CandidateSource where
  skips module := module.path == "vendor"
  candidates module :=
    ["Mailer.php", "Logger.php", "Port.php", "Orphan.php"].map fun name : String =>
      .ok ⟨module.path, name⟩

/-- A directory that is listed twice, and a vendored module. -/
def mailerModules : List Module := [⟨"src", "App"⟩, ⟨"vendor", "Lib"⟩, ⟨"src", "App\\"⟩]

/-- The directive of the logger, whose annotation declares nothing. -/
def loggerDirective : ConstructionDirective := .ofDescriptor (.ofClass "App\\Logger")

/-- The directive of the mailer, with its arguments resolved. -/
def mailerDirective : ConstructionDirective :=
  { ConstructionDirective.ofDescriptor (.ofClass "App\\Mailer") with
    arguments := .list [.reference "App\\Logger", .taggedGroup "transport"] }

/-- The services of that pipeline, in the order in which they come up. -/
def mailerServices : List ServiceDescriptor :=
  [{ ServiceDescriptor.ofClass "App\\Mailer" with
      priority := 1
      arguments := .list [.literal (.str "@App\\Logger"), .literal (.str "!tagged transport")] },
    .ofClass "App\\Logger"]

/-- They are what the pipeline collects. -/
theorem collect_mailerPipeline :
    mailerPipeline.collect mailerSource mailerModules .zero =
        (.ok mailerServices, ⟨2, 1, 8, 4, 0, 0, 0, 0⟩) ∧
      (mailerPipeline.services mailerSource mailerModules).map Prod.snd = mailerServices := by
  decide +kernel

/-- The logger goes before the mailer. -/
theorem emission_mailerServices :
    emission mailerServices = [.ofClass "App\\Logger",
      { ServiceDescriptor.ofClass "App\\Mailer" with
        priority := 1
        arguments := .list [.reference "App\\Logger", .taggedGroup "transport"] }] := by
  rw [emission, mailerServices, List.map_cons, List.map_cons, List.map_nil,
    ServiceDescriptor.order_pair (by decide)]
  decide +kernel

/-- The mailer comes up first and twice, and is defined last and once, with its arguments
resolved. -/
theorem run_defines_services_mailer :
    ∃ ordered : List ServiceDescriptor,
      SortsStably ServiceDescriptor.priority
        ((mailerPipeline.services mailerSource mailerModules).map fun service =>
          service.2.resolve) ordered ∧
      mailerPipeline.run mailerSource mailerModules (boundedBuilder [] none).recorded ([], []) =
        (.ok ⟨2, 1, 8, 4, 0, 0, 0, 2⟩,
          ([loggerDirective, mailerDirective],
            ordered.map ConstructionDirective.ofDescriptor)) ∧
      ((ordered.map ConstructionDirective.ofDescriptor).map
        ConstructionDirective.classId).Nodup := by
  have succeeded : mailerPipeline.run mailerSource mailerModules (boundedBuilder [] none) [] =
      (.ok ⟨2, 1, 8, 4, 0, 0, 0, 2⟩, [loggerDirective, mailerDirective]) := by
    rw [run, collect_mailerPipeline.1]
    dsimp only
    rw [emission_mailerServices]
    rfl
  obtain ⟨ordered, sorts, recorded, _, _, _, distinct⟩ :=
    run_defines_services mailerPipeline mailerSource mailerModules succeeded
  exact ⟨ordered, sorts, recorded, distinct (ClassTable.named_ofList _)⟩

/-- A run that fails with anything but a refusal has left the builder as it was, and its
error is the first failure among the candidates; and the first failure ends every run
before the builder is handed anything. Where there is no failure, a run fails with a
refusal exactly when the builder refuses a directive after accepting those before it, and
then the builder has been handed these and the refused one. A run that succeeds reports
the number of directives handed over. -/
theorem run_all_or_nothing (builder : ContainerBuilder σ) (state : σ) :
    (∀ error final, pipeline.run source modules builder state = (.error error, final) →
      (∀ refusal, error ≠ .registration refusal) →
      final = state ∧ (pipeline.failures source modules).head? = some error) ∧
    (∀ error, (pipeline.failures source modules).head? = some error →
      pipeline.run source modules builder state = (.error error, state) ∧
      pipeline.run source modules builder.recorded (state, []) =
        (.error error, (state, []))) ∧
    (∀ refusal final, pipeline.failures source modules = [] →
      (pipeline.run source modules builder state = (.error (.registration refusal), final) ↔
        ∃ accepted refused, RefusesAfter builder (pipeline.definitions source modules)
          accepted refused state final refusal)) ∧
    (∀ accepted refused refusal final, pipeline.failures source modules = [] →
      RefusesAfter builder (pipeline.definitions source modules) accepted refused state final
        refusal →
      pipeline.run source modules builder.recorded (state, []) =
        (.error (.registration refusal), (final, accepted ++ [refused]))) ∧
    (∀ stats final calls, pipeline.run source modules builder.recorded (state, []) =
        (.ok stats, (final, calls)) → stats.directivesEmitted = calls.length) := by
  refine ⟨?_, ?_, ?_, ?_, ?_⟩
  · intro error final failed other
    rcases pipeline.run_cases source modules builder state with
      ⟨fault, first⟩ | ⟨passing, ⟨last, accepts⟩ | ⟨accepted, refused, last, refusal, refuses⟩⟩
    · rw [pipeline.run_of_failure source modules first, Prod.mk.injEq, Except.error.injEq]
        at failed
      obtain ⟨rfl, rfl⟩ := failed
      exact ⟨rfl, first⟩
    · obtain ⟨_, _, plain, _⟩ := pipeline.run_of_accepts source modules passing accepts
      simp [plain] at failed
    · rw [(pipeline.run_of_refusesAfter source modules passing refuses).1, Prod.mk.injEq,
        Except.error.injEq] at failed
      exact absurd failed.1.symm (other refusal)
  · intro error first
    exact ⟨pipeline.run_of_failure source modules first _ _,
      pipeline.run_of_failure source modules first _ _⟩
  · intro refusal final passing
    constructor
    · intro failed
      rcases accepts_or_refusesAfter builder (pipeline.definitions source modules) state with
        ⟨last, accepts⟩ | ⟨accepted, refused, last, reason, refuses⟩
      · obtain ⟨_, _, plain, _⟩ := pipeline.run_of_accepts source modules passing accepts
        simp [plain] at failed
      · rw [(pipeline.run_of_refusesAfter source modules passing refuses).1, Prod.mk.injEq,
          Except.error.injEq, DiscoveryError.registration.injEq] at failed
        obtain ⟨rfl, rfl⟩ := failed
        exact ⟨accepted, refused, refuses⟩
    · rintro ⟨accepted, refused, refuses⟩
      exact (pipeline.run_of_refusesAfter source modules passing refuses).1
  · intro accepted refused refusal final passing refuses
    exact (pipeline.run_of_refusesAfter source modules passing refuses).2
  · intro stats final calls succeeded
    rcases pipeline.run_cases source modules builder state with
      ⟨error, first⟩ | ⟨passing, ⟨last, accepts⟩ | ⟨accepted, refused, last, refusal, refuses⟩⟩
    · rw [pipeline.run_of_failure source modules first] at succeeded
      simp at succeeded
    · obtain ⟨numbers, count, _, record⟩ :=
        pipeline.run_of_accepts source modules passing accepts
      simp only [record, Prod.mk.injEq, Except.ok.injEq] at succeeded
      obtain ⟨rfl, rfl, rfl⟩ := succeeded
      exact count
    · rw [(pipeline.run_of_refusesAfter source modules passing refuses).2] at succeeded
      simp at succeeded

/-- The mailer as before, and a logger whose priority is no number. -/
def unreadablePipeline : Pipeline := annotatedPipeline fun id =>
  if id = "App\\Logger" then [("priority", .str "soon")] else []

/-- A builder that refuses the mailer has accepted the logger before. If the annotation of the
logger cannot be read then the builder is handed nothing, though the mailer came first. -/
theorem run_all_or_nothing_mailer :
    (mailerPipeline.run mailerSource mailerModules (boundedBuilder ["App\\Mailer"] none) [] =
        (.error (.registration ⟨"App\\Mailer", "refused"⟩), [loggerDirective]) ∧
      mailerPipeline.run mailerSource mailerModules
          (boundedBuilder ["App\\Mailer"] none).recorded ([], []) =
        (.error (.registration ⟨"App\\Mailer", "refused"⟩),
          ([loggerDirective], [loggerDirective, mailerDirective]))) ∧
    ∃ mismatch : DeclaredService.Mismatch,
      unreadablePipeline.run mailerSource mailerModules (boundedBuilder [] none) [] =
          (.error (.metadata (.payload "App\\Logger" mismatch)), []) ∧
        unreadablePipeline.run mailerSource mailerModules (boundedBuilder [] none).recorded
            ([], []) =
          (.error (.metadata (.payload "App\\Logger" mismatch)), ([], [])) := by
  constructor
  · have passing : mailerPipeline.failures mailerSource mailerModules = [] := by
      decide +kernel
    have ordered : mailerPipeline.definitions mailerSource mailerModules =
        [loggerDirective] ++ mailerDirective :: [] := by
      rw [definitions, collect_mailerPipeline.2, emission_mailerServices]
      rfl
    have refuses : RefusesAfter (boundedBuilder ["App\\Mailer"] none)
        (mailerPipeline.definitions mailerSource mailerModules) [loggerDirective]
        mailerDirective [] [loggerDirective] ⟨"App\\Mailer", "refused"⟩ :=
      ⟨[], _, ordered, .next (by cbv) (.none _), by cbv⟩
    obtain ⟨_, _, fails, hands, _⟩ := run_all_or_nothing mailerPipeline mailerSource mailerModules
      (boundedBuilder ["App\\Mailer"] none) []
    exact ⟨(fails _ _ passing).mpr ⟨_, _, refuses⟩, hands _ _ _ _ passing refuses⟩
  · have first : (unreadablePipeline.failures mailerSource mailerModules).head? =
        some (.metadata (.payload "App\\Logger" (.wrongType (.str "soon") .int32))) := by
      decide +kernel
    obtain ⟨_, stops, _⟩ := run_all_or_nothing unreadablePipeline mailerSource mailerModules
      (boundedBuilder [] none) []
    exact ⟨_, stops _ first⟩

end ServiceWiring.Pipeline
