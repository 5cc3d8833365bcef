import ServiceWiring.Proofs.Container.Handover
import ServiceWiring.Proofs.Discovery.Services
import ServiceWiring.Proofs.Service.StableOrder

/-!
# Runs

A run collects the services of some modules and hands their directives to a builder.
It either stops at the first failure among the candidates, before the builder has
received anything; or the builder refuses one of the directives, after all those before
it and before any after it; or the builder accepts all of them.

The directives are those of the services with their arguments resolved, in the stable
ascending order of their priorities, one for each service. No more than that decides a
run: neither the numbers it keeps nor the walk that finds the services occur in the
main statements.
-/

namespace ServiceWiring

/-- Each class of a list without repetitions occurs in it once. The members of the rest
differ from the first member, and there are fewer of them. -/
theorem nodup_eraseDups (classes : List ClassIdentifier) : classes.eraseDups.Nodup := by
  induction length : classes.length using Nat.strongRecOn generalizing classes with
  | ind size inductionHypothesis =>
    cases classes with
    | nil => simp
    | cons first rest =>
      rw [List.eraseDups_cons, List.nodup_cons]
      constructor
      · rw [List.mem_eraseDups, List.mem_filter]
        rintro ⟨_, differs⟩
        simp at differs
      · have shorter : (rest.filter fun other => !other == first).length < size := by
          rw [← length, List.length_cons]
          exact Nat.lt_succ_of_le (List.length_filter_le _ _)
        exact inductionHypothesis _ shorter _ rfl

/-- A registered descriptor is one of the class that was built. -/
theorem classId_of_registered {parser : MetadataParser} {environment : String}
    {definition : ClassDefinition} {descriptor : ServiceDescriptor}
    (registered : buildDescriptor parser environment definition = .ok (.registered descriptor)) :
    descriptor.classId = definition.id := by
  unfold buildDescriptor at registered
  split at registered
  · simp at registered
  · split at registered
    · simp at registered
    · unfold buildAnnotated at registered
      split at registered
      · simp at registered
      · split at registered
        · simp at registered
        · dsimp only at registered
          split at registered
          · simp at registered
          · split at registered
            · simp only [Except.ok.injEq, BuildOutcome.registered.injEq] at registered
              rw [← registered, DeclaredService.descriptor]
            · simp at registered

namespace Pipeline

variable {σ : Type} (pipeline : Pipeline) (source : CandidateSource) (modules : List Module)

/-- Whether a class is a service with a descriptor: a candidate leads to it, the table
holds it as a class or an enumeration, and it is registered. -/
def Provides (id : ClassIdentifier) (descriptor : ServiceDescriptor) : Prop :=
  id ∈ pipeline.candidateClasses source modules ∧
    ∃ definition, pipeline.table.lookup id = some definition ∧
      (definition.kind = .classKind ∨ definition.kind = .enumKind) ∧
      pipeline.build definition = .ok (.registered descriptor)

/-- The directives of the services in the order in which they are handed to a builder. -/
def definitions : List ConstructionDirective :=
  (emission ((pipeline.services source modules).map Prod.snd)).map
    ConstructionDirective.ofDescriptor

/-- No class is listed twice among the services. -/
theorem nodup_services : ((pipeline.services source modules).map Prod.fst).Nodup := by
  have part : ((pipeline.services source modules).map Prod.fst).Sublist
      ((pipeline.candidateClasses source modules).filter fun id =>
        (pipeline.table.loadable id).isSome).eraseDups := by
    rw [services, List.map_filterMap]
    have picked : (fun id => Option.map Prod.fst
        ((pipeline.table.descriptor? pipeline.build id).map (id, ·))) =
        Option.guard fun id => (pipeline.table.descriptor? pipeline.build id).isSome := by
      funext id
      cases described : pipeline.table.descriptor? pipeline.build id <;>
        simp [Option.guard, described]
    rw [picked, List.filterMap_eq_filter]
    exact List.filter_sublist
  exact part.nodup (nodup_eraseDups _)

/-- A class has a descriptor exactly when the table holds it as a class or an
enumeration and it is registered with this descriptor. -/
theorem descriptor?_eq_some_iff (id : ClassIdentifier) (descriptor : ServiceDescriptor) :
    pipeline.table.descriptor? pipeline.build id = some descriptor ↔
      ∃ definition, pipeline.table.lookup id = some definition ∧
        (definition.kind = .classKind ∨ definition.kind = .enumKind) ∧
        pipeline.build definition = .ok (.registered descriptor) := by
  have kinds : ∀ definition : ClassDefinition, definition.isLoadable = true ↔
      definition.kind = .classKind ∨ definition.kind = .enumKind := by
    intro definition
    unfold ClassDefinition.isLoadable
    cases definition.kind <;> simp [ClassKind.isLoadable]
  rw [ClassTable.descriptor?, Option.bind_eq_some_iff]
  constructor
  · rintro ⟨definition, loaded, built⟩
    rw [ClassTable.loadable, Option.filter_eq_some_iff] at loaded
    split at built
    · rename_i found registered
      simp only [Option.some.injEq] at built
      exact ⟨definition, loaded.1, (kinds definition).mp loaded.2, built ▸ registered⟩
    · contradiction
  · rintro ⟨definition, found, kind, registered⟩
    refine ⟨definition, ?_, by simp [registered]⟩
    rw [ClassTable.loadable, Option.filter_eq_some_iff]
    exact ⟨found, (kinds definition).mpr kind⟩

/-- The services are the classes that the candidates provide, with their descriptors. -/
theorem mem_services_iff (id : ClassIdentifier) (descriptor : ServiceDescriptor) :
    (id, descriptor) ∈ pipeline.services source modules ↔
      pipeline.Provides source modules id descriptor := by
  rw [services, List.mem_filterMap]
  simp only [List.mem_eraseDups, List.mem_filter, Option.map_eq_some_iff, Prod.mk.injEq]
  constructor
  · rintro ⟨_, ⟨candidate, _⟩, _, described, rfl, rfl⟩
    exact ⟨candidate, (pipeline.descriptor?_eq_some_iff _ _).mp described⟩
  · rintro ⟨candidate, provided⟩
    have described := (pipeline.descriptor?_eq_some_iff id descriptor).mpr provided
    refine ⟨id, ⟨candidate, ?_⟩, descriptor, described, rfl, rfl⟩
    rw [ClassTable.descriptor?] at described
    cases loaded : pipeline.table.loadable id with
    | none => simp [loaded] at described
    | some _ => rfl

/-- A failure among the candidates ends the run before the builder is used. -/
theorem run_of_failure {error : DiscoveryError}
    (first : (pipeline.failures source modules).head? = some error)
    (builder : ContainerBuilder σ) (state : σ) :
    pipeline.run source modules builder state = (.error error, state) := by
  have collected := pipeline.collect_result source modules .zero
  rw [first] at collected
  rw [run]
  split
  · rename_i same
    rw [same] at collected
    simp only [Except.error.injEq] at collected
    rw [collected]
  · rename_i same
    rw [same] at collected
    contradiction

/-- Without a failure among the candidates the services are collected, and the run is
their emission, whatever the builder. -/
theorem run_of_no_failure (passing : pipeline.failures source modules = []) :
    ∃ stats : Stats,
      pipeline.collect source modules .zero =
        (.ok ((pipeline.services source modules).map Prod.snd), stats) ∧
      ∀ {τ : Type} (builder : ContainerBuilder τ) (state : τ),
        pipeline.run source modules builder state =
          match emit builder (emission ((pipeline.services source modules).map Prod.snd))
            state with
          | (.error refusal, after) => (.error (.registration refusal), after)
          | (.ok emitted, after) => (.ok { stats with directivesEmitted := emitted }, after) := by
  have collected := pipeline.collect_result source modules .zero
  rw [passing, List.head?_nil] at collected
  refine ⟨(pipeline.collect source modules .zero).2, Prod.ext collected rfl, ?_⟩
  intro τ builder state
  have whole : pipeline.collect source modules .zero =
      (.ok ((pipeline.services source modules).map Prod.snd),
        (pipeline.collect source modules .zero).2) := Prod.ext collected rfl
  generalize (pipeline.collect source modules .zero).2 = stats at whole
  cases emitted : emit builder (emission ((pipeline.services source modules).map Prod.snd))
      state with
  | mk result after =>
    cases result with
    | error refusal => simp only [run, whole, emitted]
    | ok count => simp only [run, whole, emitted]

/-- A builder that accepts all directives has received exactly them when the run ends,
and the run reports their number. -/
theorem run_of_accepts {builder : ContainerBuilder σ} {state final : σ}
    (passing : pipeline.failures source modules = [])
    (accepts : Accepts builder (pipeline.definitions source modules) state final) :
    ∃ stats : Stats, stats.directivesEmitted = (pipeline.definitions source modules).length ∧
      pipeline.run source modules builder state = (.ok stats, final) ∧
      pipeline.run source modules builder.recorded (state, []) =
        (.ok stats, (final, pipeline.definitions source modules)) := by
  obtain ⟨plain, recorded⟩ := emit_of_accepts builder accepts []
  obtain ⟨stats, _, runs⟩ := pipeline.run_of_no_failure source modules passing
  refine ⟨{ stats with directivesEmitted := (pipeline.definitions source modules).length },
    rfl, ?_, ?_⟩
  · rw [runs, plain, definitions, List.length_map]
  · rw [runs, recorded, definitions, List.length_map, List.nil_append]

/-- A refusal ends the run when the builder has received the directives before the
refused one and that one. -/
theorem run_of_refusesAfter {builder : ContainerBuilder σ} {state final : σ}
    {accepted : List ConstructionDirective} {refused : ConstructionDirective}
    {refusal : Refusal} (passing : pipeline.failures source modules = [])
    (refuses : RefusesAfter builder (pipeline.definitions source modules) accepted refused
      state final refusal) :
    pipeline.run source modules builder state = (.error (.registration refusal), final) ∧
      pipeline.run source modules builder.recorded (state, []) =
        (.error (.registration refusal), (final, accepted ++ [refused])) := by
  obtain ⟨plain, recorded⟩ := emit_of_refusesAfter builder refuses []
  obtain ⟨_, _, runs⟩ := pipeline.run_of_no_failure source modules passing
  constructor
  · rw [runs, plain]
  · rw [runs, recorded, List.nil_append]

/-- A run ends in one of three ways: with the first failure among the candidates, with
the first refusal, or with all directives accepted. -/
theorem run_cases (builder : ContainerBuilder σ) (state : σ) :
    (∃ error, (pipeline.failures source modules).head? = some error) ∨
      pipeline.failures source modules = [] ∧
        ((∃ final, Accepts builder (pipeline.definitions source modules) state final) ∨
          ∃ accepted refused final refusal, RefusesAfter builder
            (pipeline.definitions source modules) accepted refused state final refusal) := by
  cases passing : pipeline.failures source modules with
  | nil => exact .inr ⟨rfl, accepts_or_refusesAfter builder _ state⟩
  | cons error _ => exact .inl ⟨error, rfl⟩

end Pipeline

end ServiceWiring
