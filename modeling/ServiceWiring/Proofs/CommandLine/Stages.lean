import ServiceWiring.CommandLine.Run
import ServiceWiring.Proofs.Discovery.Setup

/-!
# The stages of a command line

Before it shows anything a command line goes through five stages: it loads a configuration
with modules, checks it, sets up a discovery for it, which indexes the classes, collects the
services, and hands their directives to a container. The stages are named here one by one, as
they may fail, and all together, as what they lead to.

The main statement is that either a stage fails and nothing is shown, or all of them are gone
through and what the container holds is shown. They exclude each other, so what is shown is
determined.
-/

namespace ServiceWiring

/-- A discovery that has been set up has the configuration and the parser that it was set up
for. -/
theorem Discovery.of_assemble {system : FileSystem} {config : DiscoveryConfig}
    {parser : MetadataParser} {classes : Option ClassTable} {discovery : Discovery}
    (assembled : assemble system config parser classes = .ok discovery) :
    discovery.config = config ∧ discovery.pipeline.parser = parser := by
  unfold assemble at assembled
  cases made : FileScanner.ofConfig config.scan with
  | error error => simp [made, bind, Except.bind] at assembled
  | ok scanner =>
    simp only [made, bind, Except.bind] at assembled
    split at assembled
    · cases assembled
      exact ⟨rfl, rfl⟩
    · split at assembled
      · cases assembled
      · cases assembled
        exact ⟨rfl, rfl⟩

/-- A run collects descriptors and hands over all of them, or it fails in one of the two. -/
theorem Discovery.run_cases {σ : Type} (discovery : Discovery) (system : FileSystem)
    (modules : List Module) (builder : ContainerBuilder σ) (state : σ) :
    (∃ error, (discovery.collect system modules .zero).1 = .error error ∧
        (discovery.run system modules builder state).1 = .error error) ∨
      ∃ descriptors counted,
        discovery.collect system modules .zero = (.ok descriptors, counted) ∧
        ((∃ refusal, (emit builder (Pipeline.emission descriptors) state).1 = .error refusal ∧
            (discovery.run system modules builder state).1 = .error (.registration refusal)) ∨
          ∃ emitted, (emit builder (Pipeline.emission descriptors) state).1 = .ok emitted ∧
            (discovery.run system modules builder state).1 =
              .ok { counted with directivesEmitted := emitted }) := by
  rw [run, Pipeline.run, ← collect]
  rcases discovery.collect system modules .zero with ⟨error | descriptors, counted⟩
  · exact .inl ⟨error, rfl, rfl⟩
  · refine .inr ⟨descriptors, counted, rfl, ?_⟩
    dsimp only
    rcases emit builder (Pipeline.emission descriptors) state with ⟨refusal | emitted, final⟩
    · exact .inl ⟨refusal, rfl, rfl⟩
    · exact .inr ⟨emitted, rfl, rfl⟩

namespace CommandLine

namespace Invocation

variable (invocation : Invocation) (system : FileSystem) (bindings : List (String × String))

/-- The configuration of an invocation: the one in its file, with its environment in place of
that of the file and its modules behind those of the file, in the order in which they are
given. -/
def configuration : Except ConfigError DiscoveryConfig :=
  let base : Except ConfigError DiscoveryConfig := match invocation.config with
    | none => .ok .standard
    | some path =>
      ConfigSource.load { ConfigSource.standard with file := some path } system bindings
  base.map fun base =>
    { base with
      environment := invocation.environment.getD base.environment
      modules := base.modules ++ invocation.modules }

/-- An invocation goes through all stages: this is its configuration, this the discovery, and
these are the numbers and the container after the run. -/
structure Completes (config : DiscoveryConfig) (discovery : Discovery) (stats : Stats)
    (container : Container) : Prop where
  configured : invocation.configuration system bindings = .ok config
  nonempty : config.modules ≠ []
  valid : config.validate = .ok ()
  assembled : Discovery.assemble system config DocBlock.parser none = .ok discovery
  ran : discovery.run system config.modules Container.builder .empty = (.ok stats, container)

/-- A stage of an invocation fails. -/
inductive Fails : Prop
  /-- The file of the configuration cannot be loaded. -/
  | loading {error : ConfigError}
    (failed : invocation.configuration system bindings = .error error)
  /-- There is no module. -/
  | modules {config : DiscoveryConfig}
    (configured : invocation.configuration system bindings = .ok config)
    (none : config.modules = [])
  /-- The configuration is not valid. -/
  | validation {config : DiscoveryConfig} {error : ConfigError}
    (configured : invocation.configuration system bindings = .ok config)
    (failed : config.validate = .error error)
  /-- The classes cannot be indexed. -/
  | indexing {config : DiscoveryConfig} {error : DiscoveryError}
    (configured : invocation.configuration system bindings = .ok config)
    (failed : Discovery.assemble system config DocBlock.parser none = .error error)
  /-- The services cannot be collected. -/
  | collection {config : DiscoveryConfig} {discovery : Discovery} {error : DiscoveryError}
    (configured : invocation.configuration system bindings = .ok config)
    (assembled : Discovery.assemble system config DocBlock.parser none = .ok discovery)
    (failed : (discovery.collect system config.modules .zero).1 = .error error)
  /-- The directives cannot be handed over. -/
  | emission {config : DiscoveryConfig} {discovery : Discovery} {stats : Stats}
    {descriptors : List ServiceDescriptor} {refusal : Refusal}
    (configured : invocation.configuration system bindings = .ok config)
    (assembled : Discovery.assemble system config DocBlock.parser none = .ok discovery)
    (collected : discovery.collect system config.modules .zero = (.ok descriptors, stats))
    (failed : (emit Container.builder (Pipeline.emission descriptors) .empty).1 = .error refusal)

variable {invocation system bindings}

/-- The stages of an invocation that goes through all of them do not fail. -/
theorem Completes.not_fails {config : DiscoveryConfig} {discovery : Discovery} {stats : Stats}
    {container : Container} (completes : Completes invocation system bindings config discovery
      stats container) : ¬Fails invocation system bindings := by
  obtain ⟨configured, nonempty, valid, assembled, ran⟩ := completes
  have sameConfig : ∀ {other}, invocation.configuration system bindings = .ok other →
      config = other := fun found => Except.ok.inj (configured.symm.trans found)
  have sameDiscovery : ∀ {other},
      Discovery.assemble system config DocBlock.parser none = .ok other → discovery = other :=
    fun found => Except.ok.inj (assembled.symm.trans found)
  intro fails
  cases fails with
  | loading failed => cases configured.symm.trans failed
  | modules found none =>
    obtain rfl := sameConfig found
    exact nonempty none
  | validation found failed =>
    obtain rfl := sameConfig found
    cases valid.symm.trans failed
  | indexing found failed =>
    obtain rfl := sameConfig found
    cases assembled.symm.trans failed
  | collection found made failed =>
    obtain rfl := sameConfig found
    obtain rfl := sameDiscovery made
    rcases discovery.run_cases system config.modules Container.builder .empty with
      ⟨_, _, stopped⟩ | ⟨_, _, collected, _⟩
    · rw [ran] at stopped
      cases stopped
    · rw [collected] at failed
      cases failed
  | emission found made collected failed =>
    obtain rfl := sameConfig found
    obtain rfl := sameDiscovery made
    rcases discovery.run_cases system config.modules Container.builder .empty with
      ⟨_, _, stopped⟩ | ⟨_, _, again, ⟨_, _, stopped⟩ | ⟨_, handed, _⟩⟩
    · rw [ran] at stopped
      cases stopped
    · rw [ran] at stopped
      cases stopped
    · rw [collected] at again
      cases again
      rw [handed] at failed
      cases failed

/-- A step that goes well is not reported. -/
@[simp] theorem during_ok {α : Type} (context : String) (value : α) :
    during context (.ok value) = .ok value := rfl

/-- A step that fails is reported with what was being done and what led to it. -/
@[simp] theorem during_error {α : Type} (context : String) (error : DiscoveryError) :
    during (α := α) context (.error error) = .error ⟨context, error.chain⟩ := rfl

/-- Modules are put behind those of a plan one after the other. -/
theorem foldl_withModule (modules : List Module) (plan : DiscoveryPlan) :
    modules.foldl (fun plan module => plan.withModule module) plan =
      plan.withConfig { plan.config with modules := plan.config.modules ++ modules } := by
  induction modules generalizing plan with
  | nil => simp [DiscoveryPlan.withConfig]
  | cons module modules inductionHypothesis =>
    rw [List.foldl_cons, inductionHypothesis]
    simp [DiscoveryPlan.withConfig, DiscoveryPlan.withModule, DiscoveryConfig.withModule]

/-- The plan of an invocation is the standard one for its configuration. -/
theorem plan_cases (invocation : Invocation) (system : FileSystem)
    (bindings : List (String × String)) :
    (∃ error report, invocation.configuration system bindings = .error error ∧
        invocation.plan system bindings = .error report) ∨
      ∃ config, invocation.configuration system bindings = .ok config ∧
        invocation.plan system bindings = .ok (DiscoveryPlan.standard.withConfig config) := by
  have planned : ∀ base : DiscoveryConfig,
      (let plan := DiscoveryPlan.standard.withConfig base
      invocation.modules.foldl (fun plan module => plan.withModule module)
        (match invocation.environment with
        | none => plan
        | some environment => plan.withEnvironment environment)) =
          DiscoveryPlan.standard.withConfig { base with
            environment := invocation.environment.getD base.environment
            modules := base.modules ++ invocation.modules } := by
    intro base
    rw [foldl_withModule]
    cases invocation.environment <;> rfl
  unfold configuration plan
  cases invocation.config with
  | none => exact .inr ⟨_, rfl, congrArg Except.ok (planned .standard)⟩
  | some path =>
    dsimp only
    cases loaded : ConfigSource.load { ConfigSource.standard with file := some path } system
        bindings with
    | error error =>
      refine .inl ⟨error, ⟨"无法加载配置文件: " ++ path, (DiscoveryError.config error).chain⟩, rfl, ?_⟩
      simp [DiscoveryPlan.loadConfig, loaded, bind, Except.bind]
    | ok base =>
      refine .inr ⟨_, rfl, ?_⟩
      simp only [DiscoveryPlan.loadConfig, loaded, during_ok, bind, Except.bind]
      exact congrArg Except.ok (planned base)

/-- A stage of an invocation fails and it shows nothing, or it goes through all of them and
shows what the container holds.

Proof: the stages are gone through in their order, each after those before it went well. -/
theorem rendered_cases (invocation : Invocation) (system : FileSystem)
    (bindings : List (String × String)) :
    (Fails invocation system bindings ∧
        ∃ report, invocation.rendered system bindings = .error report) ∨
      ∃ config discovery stats container,
        Completes invocation system bindings config discovery stats container ∧
          invocation.rendered system bindings =
            .ok (render (invocation.format.getD .json) container.directives stats) := by
  rcases plan_cases invocation system bindings with
    ⟨error, report, failed, unplanned⟩ | ⟨config, configured, planned⟩
  · exact .inl ⟨.loading failed, report, by simp [rendered, unplanned, bind, Except.bind]⟩
  have settled : (DiscoveryPlan.standard.withConfig config).config = config := rfl
  simp only [rendered, planned, bind, Except.bind, settled]
  by_cases nonempty : config.modules = []
  · refine .inl ⟨.modules configured nonempty, ?_⟩
    simp [nonempty, throw, throwThe, MonadExceptOf.throw]
  have scanned : config.modules.isEmpty = false := by simpa using nonempty
  rcases valid : config.validate with error | _
  · refine .inl ⟨.validation configured valid, ?_⟩
    simp [scanned, DiscoveryPlan.build_of_invalid (.withConfig config .standard) system valid]
  have built : (DiscoveryPlan.standard.withConfig config).build system =
      Discovery.assemble system config DocBlock.parser none :=
    DiscoveryPlan.build_of_valid (.withConfig config .standard) system valid
  rcases assembled : Discovery.assemble system config DocBlock.parser none with error | discovery
  · refine .inl ⟨.indexing configured assembled, ?_⟩
    simp [scanned, built, assembled]
  obtain ⟨own, _⟩ := Discovery.of_assemble assembled
  simp only [scanned, built, assembled, Discovery.directives, own, during_ok, Bool.false_eq_true,
    if_false]
  rcases discovery.run_cases system config.modules Container.builder .empty with
    ⟨error, failed, stopped⟩ |
      ⟨descriptors, counted, collected, ⟨refusal, failed, stopped⟩ | ⟨emitted, _, ran⟩⟩
  · refine .inl ⟨.collection configured assembled failed, ?_⟩
    simp [stopped, Except.map]
  · refine .inl ⟨.emission configured assembled collected failed, ?_⟩
    simp [stopped, Except.map]
  · refine .inr ⟨config, discovery, _, (discovery.run system config.modules Container.builder
      .empty).2, ⟨configured, nonempty, valid, assembled, Prod.ext ran rfl⟩, ?_⟩
    simp [ran, Except.map, pure, Except.pure]

/-- What an invocation goes through is determined by it. -/
theorem Completes.unique {config other : DiscoveryConfig} {discovery another : Discovery}
    {stats numbers : Stats} {container held : Container}
    (completes : Completes invocation system bindings config discovery stats container)
    (again : Completes invocation system bindings other another numbers held) :
    stats = numbers ∧ container = held := by
  have sameConfig := completes.configured.symm.trans again.configured
  cases sameConfig
  have sameDiscovery := completes.assembled.symm.trans again.assembled
  cases sameDiscovery
  have sameRun := completes.ran.symm.trans again.ran
  cases sameRun
  exact ⟨rfl, rfl⟩

/-- An invocation that goes through all stages shows what the container holds. -/
theorem rendered_of_completes {config : DiscoveryConfig} {discovery : Discovery} {stats : Stats}
    {container : Container} (completes : Completes invocation system bindings config discovery
      stats container) :
    invocation.rendered system bindings =
      .ok (render (invocation.format.getD .json) container.directives stats) := by
  rcases rendered_cases invocation system bindings with
    ⟨fails, _⟩ | ⟨_, _, _, _, again, rendered⟩
  · exact absurd fails completes.not_fails
  · obtain ⟨rfl, rfl⟩ := completes.unique again
    exact rendered

end Invocation

end CommandLine

end ServiceWiring
