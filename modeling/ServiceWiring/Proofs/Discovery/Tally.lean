import Mathlib.Data.Finset.Card
import Mathlib.Data.List.Induction
import ServiceWiring.Proofs.Discovery.Runs

/-!
# What a discovery counts

The numbers of a discovery are a tally of what was found: of the modules, of the candidates,
of the candidates whose class cannot be loaded, and of the outcomes for the loadable classes,
each class once. Taking up findings adds their tally to the numbers there are; only the
classes that came up before matter to it.

The main statement is that a run loses no candidate. Every candidate is counted once as
unresolved, as undocumented, as no service, as excluded or as emitted, or else it leads to a
class that an earlier candidate led to. Such repetitions are the only candidates that no
number shows.
-/

namespace ServiceWiring

namespace Stats

/-- Two sets of numbers taken together. -/
def add (left right : Stats) : Stats where
  modulesScanned := left.modulesScanned + right.modulesScanned
  modulesVendored := left.modulesVendored + right.modulesVendored
  candidateFiles := left.candidateFiles + right.candidateFiles
  unresolvedClasses := left.unresolvedClasses + right.unresolvedClasses
  undocumentedClasses := left.undocumentedClasses + right.undocumentedClasses
  nonServiceClasses := left.nonServiceClasses + right.nonServiceClasses
  environmentExcluded := left.environmentExcluded + right.environmentExcluded
  directivesEmitted := left.directivesEmitted + right.directivesEmitted

/-- Numbers are added up in any grouping. -/
theorem add_assoc (first second third : Stats) :
    (first.add second).add third = first.add (second.add third) := by
  simp only [add, Nat.add_assoc]

/-- Numbers that are added to nothing stay. -/
theorem zero_add (stats : Stats) : zero.add stats = stats := by
  simp only [add, zero, Nat.zero_add]

end Stats

namespace ClassTable

variable (table : ClassTable) (build : ClassDefinition → Except DiscoveryError BuildOutcome)

/-- What becomes of a class, if it is loadable and can be built. -/
def outcome? (id : ClassIdentifier) : Option BuildOutcome :=
  (table.loadable id).bind fun definition => (build definition).toOption

/-- The tally of some findings, for someone who knows some classes already. -/
def tally (known : List ClassIdentifier) (findings : List Finding) : Stats :=
  let classes := findings.filterMap Finding.class?
  let outcomes := (table.unseen known classes).filterMap (table.outcome? build)
  { modulesScanned := findings.count .scanned
    modulesVendored := findings.count .vendored
    candidateFiles := classes.length
    unresolvedClasses := classes.countP fun id => (table.loadable id).isNone
    undocumentedClasses := outcomes.count .undocumented
    nonServiceClasses := outcomes.count .notService
    environmentExcluded := outcomes.count .environmentExcluded
    directivesEmitted := 0 }

/-- The first finding is counted first, and its class is known to the findings after it. -/
theorem tally_cons (known : List ClassIdentifier) (finding : Finding) (findings : List Finding) :
    table.tally build known (finding :: findings) =
      (table.tally build known [finding]).add
        (table.tally build ((table.unseen known finding.class?.toList).reverse ++ known)
          findings) := by
  have alone : [finding].filterMap Finding.class? = finding.class?.toList := by
    cases finding <;> rfl
  simp only [tally, Stats.add, Collection.filterMap_class_cons, alone, table.unseen_toList_append,
    List.filterMap_append, List.count_append, List.countP_append, List.length_append,
    List.count_cons, List.count_nil, Nat.zero_add, Stats.mk.injEq, and_true]
  exact ⟨Nat.add_comm .., Nat.add_comm ..⟩

end ClassTable

namespace Collection

variable (table : ClassTable) (build : ClassDefinition → Except DiscoveryError BuildOutcome)

/-- A finding that is no failure is counted. -/
theorem take_stats {finding : Finding} (collection : Collection)
    (passed : failureOf? table build finding = none) :
    (take table build finding collection).2.stats =
      collection.stats.add (table.tally build collection.seen [finding]) := by
  have nothing : ∀ known : List ClassIdentifier, table.unseen known [] = [] := fun _ => rfl
  cases finding with
  | vendored => rfl
  | scanned => rfl
  | fault error => simp [failureOf?] at passed
  | candidate id =>
    have alone : [Finding.candidate id].filterMap Finding.class? = [id] := rfl
    simp only [failureOf?] at passed
    cases loaded : table.loadable id with
    | none =>
      have skipped : table.unseen collection.seen [id] = [] :=
        table.unseen_cons_of_skipped (.inl loaded)
      simp [take, visit, loaded, ClassTable.tally, alone, skipped, Stats.add]
    | some definition =>
      by_cases known : id ∈ collection.seen
      · have skipped : table.unseen collection.seen [id] = [] :=
          table.unseen_cons_of_skipped (.inr known)
        simp [take, visit, loaded, known, ClassTable.tally, alone, skipped, Stats.add]
      · have fresh : table.unseen collection.seen [id] = [id] :=
          table.unseen_cons_of_taken loaded known
        cases built : build definition with
        | error error => simp [ClassTable.failure?, loaded, built] at passed
        | ok outcome =>
          have became : table.outcome? build id = some outcome := by
            simp [ClassTable.outcome?, loaded, built, Except.toOption]
          cases outcome <;>
            simp [take, visit, loaded, known, built, record, ClassTable.tally, alone, fresh,
              became, Stats.add]

/-- Findings without a failure are all counted. -/
theorem takeAll_stats {findings : List Finding} (collection : Collection)
    (passing : findings.findSome? (failureOf? table build) = none) :
    (takeAll table build findings collection).2.stats =
      collection.stats.add (table.tally build collection.seen findings) := by
  induction findings generalizing collection with
  | nil => rfl
  | cons finding findings inductionHypothesis =>
    rw [List.findSome?_cons] at passing
    cases passed : failureOf? table build finding with
    | some error => simp [passed] at passing
    | none =>
      rw [passed] at passing
      obtain ⟨went, seen, _⟩ := take_of_none table build collection passed
      rw [takeAll_cons_of_ok table build went, inductionHypothesis _ passing, seen,
        take_stats table build collection passed, table.tally_cons build _ finding findings,
        Stats.add_assoc]

end Collection

/-- Each module begins with one finding, which says whether the module is left out. -/
theorem count_beginnings (naming : Naming) (source : CandidateSource) (modules : List Module) :
    (findings naming source modules).count .vendored = modules.countP source.skips ∧
      (findings naming source modules).count .scanned =
        modules.countP fun module => !source.skips module := by
  have candidates : ∀ (module : Module) (mark : Finding), mark = .scanned ∨ mark = .vendored →
      ((source.candidates module).map (naming.finding module)).count mark = 0 := by
    intro module mark beginning
    rw [List.count_eq_zero, List.mem_map]
    rintro ⟨candidate, _, same⟩
    cases candidate <;> rcases beginning with rfl | rfl <;> simp [Naming.finding] at same
  have within : ∀ module, (findingsIn naming source module).count .vendored =
        (if source.skips module then 1 else 0) ∧
      (findingsIn naming source module).count .scanned =
        if !source.skips module then 1 else 0 := by
    intro module
    cases skipped : source.skips module with
    | true => simp [findingsIn, skipped]
    | false =>
      have opened : findingsIn naming source module =
          .scanned :: (source.candidates module).map (naming.finding module) := by
        rw [findingsIn, skipped]
        rfl
      rw [opened, List.count_cons, List.count_cons, candidates module .vendored (.inr rfl),
        candidates module .scanned (.inl rfl)]
      exact ⟨rfl, rfl⟩
  induction modules with
  | nil => exact ⟨rfl, rfl⟩
  | cons module modules inductionHypothesis =>
    simp only [findings] at inductionHypothesis ⊢
    obtain ⟨vendored, scanned⟩ := within module
    rw [List.flatMap_cons, List.count_append, List.count_append, vendored, scanned,
      inductionHypothesis.1, inductionHypothesis.2, List.countP_cons, List.countP_cons]
    exact ⟨Nat.add_comm .., Nat.add_comm ..⟩

namespace ClassTable

variable (table : ClassTable) (build : ClassDefinition → Except DiscoveryError BuildOutcome)

/-- The classes of a list that can be loaded, with repetitions. -/
def loadables (classes : List ClassIdentifier) : List ClassIdentifier :=
  classes.filter fun id => (table.loadable id).isSome

/-- The number of places in a list where a class stands that can be loaded and that stands at
an earlier place as well. -/
def repetitions (classes : List ClassIdentifier) : Nat :=
  classes.zipIdx.countP fun (id, index) =>
    (table.loadable id).isSome && (classes.take index).contains id

/-- The last class of a list is a repetition if it can be loaded and stands before. -/
theorem repetitions_concat (classes : List ClassIdentifier) (id : ClassIdentifier) :
    table.repetitions (classes ++ [id]) = table.repetitions classes +
      if (table.loadable id).isSome && classes.contains id then 1 else 0 := by
  have earlier : (classes.zipIdx).countP (fun (other, index) =>
      (table.loadable other).isSome && ((classes ++ [id]).take index).contains other) =
        table.repetitions classes := by
    apply List.countP_congr
    rintro ⟨other, index⟩ member
    have within : index ≤ classes.length := by
      have bound := (List.mem_zipIdx member).2.1
      omega
    simp only [List.take_append_of_le_length within]
  rw [repetitions, List.zipIdx_append, List.countP_append, earlier]
  simp [List.countP_cons]

/-- The new classes of a list are its loadable ones, each once. -/
theorem unseen_nil (classes : List ClassIdentifier) :
    table.unseen [] classes = (table.loadables classes).eraseDups := by
  rw [unseen, loadables]
  congr 2
  funext id
  simp

/-- Every place with a loadable class is either the first one of its class or a repetition. -/
theorem length_loadables (classes : List ClassIdentifier) :
    (table.loadables classes).length =
      (table.unseen [] classes).length + table.repetitions classes := by
  induction classes using List.reverseRecOn with
  | nil => rfl
  | append_singleton classes id inductionHypothesis =>
    rw [unseen_nil] at inductionHypothesis ⊢
    rw [repetitions_concat, loadables, List.filter_append, ← loadables, List.length_append,
      List.eraseDups_append, List.length_append, inductionHypothesis]
    cases loads : (table.loadable id).isSome with
    | false => simp [loads, List.removeAll]
    | true =>
      by_cases member : id ∈ classes
      · have known : id ∈ table.loadables classes := List.mem_filter.mpr ⟨member, loads⟩
        simp [loads, member, known, List.removeAll]
        omega
      · have unknown : id ∉ table.loadables classes := fun kept =>
          member (List.mem_filter.mp kept).1
        have alone : [id].eraseDups = [id] := rfl
        simp [loads, member, unknown, List.removeAll, alone]
        omega

/-- There are as many new classes as there are different loadable ones. -/
theorem card_loadables (classes : List ClassIdentifier) :
    (table.loadables classes).toFinset.card = (table.unseen [] classes).length := by
  rw [unseen_nil, ← List.toFinset_card_of_nodup (nodup_eraseDups _)]
  congr 1
  ext id
  rw [List.mem_toFinset, List.mem_toFinset, List.mem_eraseDups]

/-- A class can be loaded or not. -/
theorem length_eq_loadables (classes : List ClassIdentifier) :
    classes.length = (table.loadables classes).length +
      classes.countP fun id => (table.loadable id).isNone := by
  rw [loadables, ← List.countP_eq_length_filter,
    List.length_eq_countP_add_countP fun id => (table.loadable id).isSome]
  congr 2
  funext id
  cases table.loadable id <;> rfl

/-- No loadable class stands at two places exactly when there are no repetitions. -/
theorem nodup_loadables_iff (classes : List ClassIdentifier) :
    (table.loadables classes).Nodup ↔ table.repetitions classes = 0 := by
  have places := table.length_loadables classes
  have different := table.card_loadables classes
  constructor
  · intro distinct
    rw [List.toFinset_card_of_nodup distinct] at different
    omega
  · intro none
    have whole : (table.loadables classes).dedup.length = (table.loadables classes).length := by
      rw [← List.card_toFinset]
      omega
    rw [← List.dedup_eq_self]
    exact (List.dedup_sublist _).eq_of_length whole

/-- Classes that can all be built come to one outcome each, and those that are registered
have descriptors. -/
theorem length_of_outcomes {classes : List ClassIdentifier}
    (built : ∀ id ∈ classes, ∃ outcome, table.outcome? build id = some outcome) :
    classes.length = (classes.filterMap (table.outcome? build)).count .undocumented +
      (classes.filterMap (table.outcome? build)).count .notService +
      (classes.filterMap (table.outcome? build)).count .environmentExcluded +
      (classes.filterMap (table.descriptor? build)).length := by
  induction classes with
  | nil => rfl
  | cons id classes inductionHypothesis =>
    obtain ⟨outcome, became⟩ := built id (List.mem_cons_self ..)
    have others := inductionHypothesis fun other member => built other (List.mem_cons_of_mem _ member)
    obtain ⟨definition, loaded, same⟩ := Option.bind_eq_some_iff.mp became
    have made : build definition = .ok outcome := by
      cases result : build definition with
      | error error => simp [result, Except.toOption] at same
      | ok own =>
        simp only [result, Except.toOption, Option.some.injEq] at same
        rw [same]
    rw [List.filterMap_cons_some became, List.length_cons, others]
    cases outcome <;> simp [descriptor?, loaded, made] <;> omega

end ClassTable

namespace Pipeline

variable {σ : Type} (pipeline : Pipeline) (source : CandidateSource) (modules : List Module)

/-- The tally of what is found in some modules. -/
def tally : Stats :=
  pipeline.table.tally pipeline.build [] (findings pipeline.naming source modules)

/-- A collection that succeeds has met no failure, and adds its tally to the numbers. -/
theorem collect_stats {stats after : Stats} {descriptors : List ServiceDescriptor}
    (collected : pipeline.collect source modules stats = (.ok descriptors, after)) :
    pipeline.failures source modules = [] ∧ after = stats.add (pipeline.tally source modules) := by
  have passing : (pipeline.failures source modules).head? = none := by
    have result := pipeline.collect_result source modules stats
    rw [collected] at result
    cases first : (pipeline.failures source modules).head? with
    | none => rfl
    | some error => simp [first] at result
  refine ⟨List.head?_eq_none_iff.mp passing, ?_⟩
  rw [← findSome?_failure_findings] at passing
  have counted := Collection.takeAll_stats pipeline.table pipeline.build ⟨[], [], stats⟩ passing
  rw [collect, Prod.mk.injEq] at collected
  exact collected.2.symm.trans counted

/-- A run that succeeds has met no failure. It reports its tally, and the number of services
as that of the directives. -/
theorem run_stats {builder : ContainerBuilder σ} {state final : σ} {stats : Stats}
    (succeeded : pipeline.run source modules builder state = (.ok stats, final)) :
    pipeline.failures source modules = [] ∧
      stats = { pipeline.tally source modules with
        directivesEmitted := (pipeline.services source modules).length } := by
  have passing : pipeline.failures source modules = [] := by
    rcases pipeline.run_cases source modules builder state with ⟨error, first⟩ | ⟨passing, _⟩
    · rw [pipeline.run_of_failure source modules first] at succeeded
      simp at succeeded
    · exact passing
  refine ⟨passing, ?_⟩
  obtain ⟨numbers, collected, runs⟩ := pipeline.run_of_no_failure source modules passing
  have counted := (pipeline.collect_stats source modules collected).2
  rw [Stats.zero_add] at counted
  rw [runs] at succeeded
  split at succeeded
  · simp at succeeded
  · rename_i emitted after handed
    simp only [Prod.mk.injEq, Except.ok.injEq] at succeeded
    obtain ⟨rfl, rfl⟩ := succeeded
    rw [counted, emit_count builder _ _ _ _ handed, emission, ServiceDescriptor.order,
      List.length_mergeSort, List.length_map, List.length_map]

/-- Without a failure every new class among the candidates has an outcome. -/
theorem outcome_of_unseen {id : ClassIdentifier}
    (passing : pipeline.failures source modules = [])
    (fresh : id ∈ pipeline.table.unseen [] (pipeline.candidateClasses source modules)) :
    ∃ outcome, pipeline.table.outcome? pipeline.build id = some outcome := by
  rw [ClassTable.unseen_nil, List.mem_eraseDups, ClassTable.loadables, List.mem_filter,
    ← filterMap_class_findings, List.mem_filterMap] at fresh
  obtain ⟨⟨finding, found, led⟩, loads⟩ := fresh
  obtain ⟨definition, loaded⟩ := Option.isSome_iff_exists.mp loads
  have passed : Collection.failureOf? pipeline.table pipeline.build finding = none := by
    have none := pipeline.findSome?_failure_findings source modules
    rw [passing, List.head?_nil, List.findSome?_eq_none_iff] at none
    exact none finding found
  have candidate : finding = .candidate id := by
    cases finding <;> simp_all [Finding.class?]
  rw [candidate] at passed
  cases built : pipeline.build definition with
  | error error => simp [Collection.failureOf?, ClassTable.failure?, loaded, built] at passed
  | ok outcome => exact ⟨outcome, by simp [ClassTable.outcome?, loaded, built, Except.toOption]⟩

/-- A run that succeeds has counted every module once, and every candidate: as unresolved, as
undocumented, as no service, as excluded or as emitted, or else the candidate repeats the
loadable class of an earlier one. The last four of these numbers make up the different
loadable classes, so nothing but repetitions is missing from the numbers that are reported.

Proof: the numbers are the tally of the findings. Its outcomes are those of the new classes,
each of which comes to one outcome; and every loadable candidate is new or a repetition. -/
theorem run_conserves_candidates {builder : ContainerBuilder σ} {state final : σ} {stats : Stats}
    (succeeded : pipeline.run source modules builder state = (.ok stats, final)) :
    (stats.modulesScanned + stats.modulesVendored = modules.length ∧
      stats.modulesVendored = modules.countP source.skips) ∧
    stats.candidateFiles = (pipeline.candidateClasses source modules).length ∧
    stats.candidateFiles = stats.unresolvedClasses + stats.undocumentedClasses +
      stats.nonServiceClasses + stats.environmentExcluded + stats.directivesEmitted +
      pipeline.table.repetitions (pipeline.candidateClasses source modules) ∧
    (pipeline.table.loadables (pipeline.candidateClasses source modules)).toFinset.card =
      stats.undocumentedClasses + stats.nonServiceClasses + stats.environmentExcluded +
        stats.directivesEmitted ∧
    (stats.candidateFiles = stats.skipped + stats.directivesEmitted ↔
      (pipeline.table.loadables (pipeline.candidateClasses source modules)).Nodup) := by
  obtain ⟨passing, counted⟩ := pipeline.run_stats source modules succeeded
  obtain ⟨vendored, scanned⟩ := count_beginnings pipeline.naming source modules
  have outcomes := pipeline.table.length_of_outcomes pipeline.build fun id fresh =>
    pipeline.outcome_of_unseen source modules passing fresh
  rw [← services_descriptors, List.length_map] at outcomes
  have places := pipeline.table.length_loadables (pipeline.candidateClasses source modules)
  have different := pipeline.table.card_loadables (pipeline.candidateClasses source modules)
  have split := pipeline.table.length_eq_loadables (pipeline.candidateClasses source modules)
  rw [ClassTable.nodup_loadables_iff, different]
  subst counted
  simp only [tally, ClassTable.tally, filterMap_class_findings, Stats.skipped, vendored, scanned]
  have modulesSplit := List.length_eq_countP_add_countP source.skips (l := modules)
  refine ⟨⟨?_, trivial⟩, trivial, ?_, ?_, ?_⟩
  · simp only [Bool.not_eq_true, Bool.decide_eq_false] at modulesSplit
    omega
  all_goals omega

/-- A service, a class without documentation, one without annotation, a service for another
environment and an interface. -/
def officePipeline : Pipeline where
  naming := .standard
  table := .ofList [⟨"App\\Mailer", .classKind, some "", []⟩,
    ⟨"App\\Plain", .classKind, none, []⟩, ⟨"App\\Note", .classKind, some "", []⟩,
    ⟨"App\\Job", .enumKind, some "", []⟩, ⟨"App\\Port", .interfaceKind, some "", []⟩]
  parser id _ :=
    .ok (if id = "App\\Note" then []
      else [⟨serviceName, .obj (if id = "App\\Job" then [("envs", .arr [.str "prod"])] else [])⟩])
  environment := "dev"

/-- One file for each class in every module but the vendored one. -/
def officeSource : CandidateSource where
  skips module := module.path == "vendor"
  candidates module :=
    ["Mailer.php", "Plain.php", "Note.php", "Job.php", "Port.php"].map fun name =>
      .ok ⟨module.path, name⟩

/-- A directory that is listed twice, and a vendored module. -/
def officeModules : List Module := [⟨"src", "App"⟩, ⟨"vendor", "Lib"⟩, ⟨"src", "App\\"⟩]

/-- Of ten candidates six are shown by the numbers and four repeat a class. -/
theorem run_conserves_candidates_office :
    officePipeline.run officeSource officeModules (boundedBuilder [] none) [] =
        (.ok ⟨2, 1, 10, 2, 1, 1, 1, 1⟩, [.ofDescriptor (.ofClass "App\\Mailer")]) ∧
      10 = 2 + 1 + 1 + 1 + 1 + officePipeline.table.repetitions
        (officePipeline.candidateClasses officeSource officeModules) ∧
      ¬(officePipeline.table.loadables
        (officePipeline.candidateClasses officeSource officeModules)).Nodup := by
  have collected : officePipeline.collect officeSource officeModules .zero =
      (.ok [.ofClass "App\\Mailer"], ⟨2, 1, 10, 2, 1, 1, 1, 0⟩) := by decide +kernel
  have succeeded : officePipeline.run officeSource officeModules (boundedBuilder [] none) [] =
      (.ok ⟨2, 1, 10, 2, 1, 1, 1, 1⟩, [.ofDescriptor (.ofClass "App\\Mailer")]) := by
    rw [run, collected]
    cbv
  obtain ⟨_, _, conserved, _, repeated⟩ :=
    run_conserves_candidates officePipeline officeSource officeModules succeeded
  refine ⟨succeeded, conserved, fun distinct => ?_⟩
  have none := repeated.mpr distinct
  exact absurd none (by decide)

end Pipeline

end ServiceWiring
