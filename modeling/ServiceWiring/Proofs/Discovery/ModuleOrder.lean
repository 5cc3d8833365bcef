import ServiceWiring.Proofs.Discovery.Tally

/-!
# The order of the modules

Which candidate comes first of those that lead to one class depends on the order of the
modules, and every later candidate is treated according to the earlier ones. Yet what is
collected does not depend on that order. The classes that come up are the same, each of
them is built alike wherever it comes up first, and a class that cannot be built is a
failure whether or not it is the first one.

The main statement compares the collections over two orders of some modules, which may
overlap or be listed twice: they succeed together, count the same, and find the same
services. In definition order services of different priorities stand in the same order.
-/

namespace ServiceWiring

universe u
variable {α : Type u}

/-- Lists with the same members have the same members once. -/
theorem eraseDups_perm {classes others : List ClassIdentifier} (permuted : classes.Perm others) :
    classes.eraseDups.Perm others.eraseDups := by
  rw [List.perm_ext_iff_of_nodup (nodup_eraseDups _) (nodup_eraseDups _)]
  intro id
  rw [List.mem_eraseDups, List.mem_eraseDups, permuted.mem_iff]

/-- Where a stable sort has two members of different keys, the one of the lower key comes
first. -/
theorem SortsStably.sublist_pair_iff {key : α → Int} {list sorted : List α}
    (sorts : SortsStably key list sorted) {first second : α} (differ : key first ≠ key second) :
    [first, second].Sublist sorted ↔
      first ∈ list ∧ second ∈ list ∧ key first < key second := by
  constructor
  · intro part
    have below := List.pairwise_iff_forall_sublist.mp sorts.ascending part
    refine ⟨sorts.members.mem_iff.mp (part.subset (by simp)),
      sorts.members.mem_iff.mp (part.subset (by simp)), ?_⟩
    omega
  · rintro ⟨firstListed, secondListed, lower⟩
    obtain ⟨before, after, rfl⟩ := List.append_of_mem (sorts.members.mem_iff.mpr firstListed)
    have secondSorted := sorts.members.mem_iff.mpr secondListed
    rw [List.mem_append, List.mem_cons] at secondSorted
    rcases secondSorted with earlier | same | later
    · have below := (List.pairwise_append.mp sorts.ascending).2.2 second earlier first
        List.mem_cons_self
      omega
    · rw [same] at differ
      exact absurd rfl differ
    · exact (List.Sublist.cons_cons first (List.singleton_sublist.mpr later)).trans
        (List.sublist_append_right before _)

namespace ServiceDescriptor

/-- Sorting lists with the same members puts members of different priorities in the same
order. -/
theorem sublist_order_iff_of_perm {descriptors others : List ServiceDescriptor}
    (permuted : descriptors.Perm others) {first second : ServiceDescriptor}
    (differ : first.priority ≠ second.priority) :
    [first, second].Sublist (order descriptors) ↔ [first, second].Sublist (order others) := by
  rw [(order_sortsStably descriptors).sublist_pair_iff differ,
    (order_sortsStably others).sublist_pair_iff differ, permuted.mem_iff, permuted.mem_iff]

end ServiceDescriptor

namespace ClassTable

variable (table : ClassTable) (build : ClassDefinition → Except DiscoveryError BuildOutcome)

/-- Findings are counted alike in every order by someone who knows no class yet. -/
theorem tally_perm {found others : List Finding} (permuted : found.Perm others) :
    table.tally build [] found = table.tally build [] others := by
  have classes := permuted.filterMap Finding.class?
  have outcomes : ((table.unseen [] (found.filterMap Finding.class?)).filterMap
      (table.outcome? build)).Perm
      ((table.unseen [] (others.filterMap Finding.class?)).filterMap (table.outcome? build)) :=
    (eraseDups_perm (classes.filter _)).filterMap _
  simp only [tally, permuted.count_eq, classes.length_eq, classes.countP_eq, outcomes.count_eq]

end ClassTable

namespace Pipeline

variable (pipeline : Pipeline) (source : CandidateSource) {modules others : List Module}

/-- Modules in another order have the same failures, in another order. -/
theorem failures_perm (permuted : modules.Perm others) :
    (pipeline.failures source modules).Perm (pipeline.failures source others) :=
  (permuted.filter _).flatMap_right _

/-- Modules in another order provide the same services, in another order. -/
theorem services_perm (permuted : modules.Perm others) :
    (pipeline.services source modules).Perm (pipeline.services source others) := by
  have classes : (pipeline.candidateClasses source modules).Perm
      (pipeline.candidateClasses source others) := (permuted.filter _).flatMap_right _
  exact (eraseDups_perm (classes.filter _)).filterMap _

/-- Modules in another order have the same tally. -/
theorem tally_modules_perm (permuted : modules.Perm others) :
    pipeline.tally source modules = pipeline.tally source others :=
  pipeline.table.tally_perm pipeline.build (permuted.flatMap_right _)

/-- A collection succeeds exactly when there are no failures, with the services and the
tally. -/
theorem collect_eq_ok_iff (stats after : Stats) (descriptors : List ServiceDescriptor) :
    pipeline.collect source modules stats = (.ok descriptors, after) ↔
      pipeline.failures source modules = [] ∧
        descriptors = (pipeline.services source modules).map Prod.snd ∧
        after = stats.add (pipeline.tally source modules) := by
  have result := pipeline.collect_result source modules stats
  constructor
  · intro collected
    obtain ⟨passing, counted⟩ := pipeline.collect_stats source modules collected
    rw [collected, passing] at result
    exact ⟨passing, Except.ok.inj result, counted⟩
  · rintro ⟨passing, rfl, rfl⟩
    rw [passing] at result
    obtain ⟨numbers, whole⟩ : ∃ numbers, pipeline.collect source modules stats =
        (.ok ((pipeline.services source modules).map Prod.snd), numbers) :=
      ⟨_, Prod.ext result rfl⟩
    rw [whole, (pipeline.collect_stats source modules whole).2]

/-- **The order of the modules does not matter.** Let the same modules be given in two orders,
be they overlapping or repeated, with the same table, parser and environment. A collection
over the one succeeds if and only if that over the other does. Then both count the same, and
the descriptors of the one are those of the other in some order; and in definition order,
whether before or after their arguments are resolved, two descriptors of different priority
stand in the same order in both.

Proof: failures, services and tally are read off the classes of the candidates, each class
once. Another order of the modules permutes these, and none of the three depends on which
candidate of a class came first. -/
theorem collect_ignores_module_order (permuted : modules.Perm others) (stats : Stats) :
    ((∃ descriptors after, pipeline.collect source modules stats = (.ok descriptors, after)) ↔
      ∃ descriptors after, pipeline.collect source others stats = (.ok descriptors, after)) ∧
    ∀ descriptors otherDescriptors after otherAfter,
      pipeline.collect source modules stats = (.ok descriptors, after) →
      pipeline.collect source others stats = (.ok otherDescriptors, otherAfter) →
      after = otherAfter ∧ descriptors.Perm otherDescriptors ∧
      ∀ first second : ServiceDescriptor, first.priority ≠ second.priority →
        ([first, second].Sublist (ServiceDescriptor.order descriptors) ↔
          [first, second].Sublist (ServiceDescriptor.order otherDescriptors)) ∧
        ([first, second].Sublist (emission descriptors) ↔
          [first, second].Sublist (emission otherDescriptors)) := by
  have failures : pipeline.failures source modules = [] ↔
      pipeline.failures source others = [] := by
    rw [← List.length_eq_zero_iff, (pipeline.failures_perm source permuted).length_eq,
      List.length_eq_zero_iff]
  constructor
  · simp only [collect_eq_ok_iff, failures, exists_and_left, exists_eq, and_true]
  · intro descriptors otherDescriptors after otherAfter collected otherCollected
    obtain ⟨_, rfl, rfl⟩ := (pipeline.collect_eq_ok_iff source _ _ _).mp collected
    obtain ⟨_, rfl, rfl⟩ := (pipeline.collect_eq_ok_iff source _ _ _).mp otherCollected
    have same := (pipeline.services_perm source permuted).map Prod.snd
    refine ⟨by rw [pipeline.tally_modules_perm source permuted], same, ?_⟩
    intro first second differ
    exact ⟨ServiceDescriptor.sublist_order_iff_of_perm same differ,
      ServiceDescriptor.sublist_order_iff_of_perm (same.map ServiceDescriptor.resolve) differ⟩

/-- Two services of different priorities. -/
def crossedPipeline : Pipeline where
  naming := .standard
  table := .ofList [⟨"App\\Mailer", .classKind, some "", []⟩,
    ⟨"App\\Logger", .enumKind, some "", []⟩]
  parser id _ :=
    .ok [⟨serviceName, .obj [("priority", .int (if id = "App\\Mailer" then 1 else 0))]⟩]
  environment := "dev"

/-- Two modules that have the same files in opposite order. -/
def crossedSource : CandidateSource where
  skips _ := false
  candidates module :=
    (if module.path = "a" then ["Mailer.php", "Logger.php"]
      else ["Logger.php", "Mailer.php"]).map fun name => .ok ⟨module.path, name⟩

/-- The services are found in one order or the other, and are defined in one. -/
theorem collect_ignores_module_order_crossed :
    let mailer := { ServiceDescriptor.ofClass "App\\Mailer" with priority := 1 }
    let logger := ServiceDescriptor.ofClass "App\\Logger"
    crossedPipeline.collect crossedSource [⟨"a", "App"⟩, ⟨"b", "App"⟩] .zero =
        (.ok [mailer, logger], ⟨2, 0, 4, 0, 0, 0, 0, 0⟩) ∧
      crossedPipeline.collect crossedSource [⟨"b", "App"⟩, ⟨"a", "App"⟩] .zero =
        (.ok [logger, mailer], ⟨2, 0, 4, 0, 0, 0, 0, 0⟩) ∧
      ([logger, mailer].Sublist (emission [mailer, logger]) ↔
        [logger, mailer].Sublist (emission [logger, mailer])) := by
  intro mailer logger
  have collected : crossedPipeline.collect crossedSource [⟨"a", "App"⟩, ⟨"b", "App"⟩] .zero =
      (.ok [mailer, logger], ⟨2, 0, 4, 0, 0, 0, 0, 0⟩) := by decide +kernel
  have otherCollected :
      crossedPipeline.collect crossedSource [⟨"b", "App"⟩, ⟨"a", "App"⟩] .zero =
        (.ok [logger, mailer], ⟨2, 0, 4, 0, 0, 0, 0, 0⟩) := by decide +kernel
  have permuted : [Module.mk "a" "App", ⟨"b", "App"⟩].Perm [⟨"b", "App"⟩, ⟨"a", "App"⟩] :=
    .swap ..
  obtain ⟨_, _, defined⟩ := (collect_ignores_module_order crossedPipeline crossedSource permuted
    .zero).2 _ _ _ _ collected otherCollected
  exact ⟨collected, otherCollected, (defined logger mailer (by decide)).2⟩

end Pipeline

end ServiceWiring
