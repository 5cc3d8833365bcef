import ServiceWiring.Discovery.Pipeline

/-!
# The services among some candidates

What a collection amounts to, said without the walk that computes it. The candidates
of the modules that are not left out lead to classes, in the order of the modules and
of their candidates. The loadable ones among these, each where it comes up first, are
built, and those that are registered are the services. Independently of repetitions,
every candidate is a failure or none: a fault of the source, or a loadable class that
cannot be built.

The main statement is that a collection fails with the first of these failures, and
otherwise yields exactly the services. A class that comes up again is never a failure
of its own, since it would have been one when it came up first; the invariant of the
walk is that no class seen so far is a failure.
-/

namespace ServiceWiring

/-- The class that a finding leads to, if it is a candidate. -/
def Finding.class? : Finding → Option ClassIdentifier
  | .candidate id => some id
  | .vendored | .scanned | .fault _ => none

namespace ClassTable

variable (table : ClassTable) (build : ClassDefinition → Except DiscoveryError BuildOutcome)

/-- Why a class cannot be built, if it is loadable and cannot. -/
def failure? (id : ClassIdentifier) : Option DiscoveryError :=
  (table.loadable id).bind fun definition =>
    match build definition with
    | .error error => some error
    | .ok _ => none

/-- The descriptor of a class, if it is loadable and registered. -/
def descriptor? (id : ClassIdentifier) : Option ServiceDescriptor :=
  (table.loadable id).bind fun definition =>
    match build definition with
    | .ok (.registered descriptor) => some descriptor
    | _ => none

/-- The loadable classes of a list that are not known yet, each where it comes up first. -/
def unseen (known classes : List ClassIdentifier) : List ClassIdentifier :=
  (classes.filter fun id => (table.loadable id).isSome && !known.contains id).eraseDups

/-- A class that is not loadable, or known, adds nothing. -/
theorem unseen_cons_of_skipped {known classes : List ClassIdentifier} {id : ClassIdentifier}
    (skipped : table.loadable id = none ∨ id ∈ known) :
    table.unseen known (id :: classes) = table.unseen known classes := by
  have dropped : ((table.loadable id).isSome && !known.contains id) = false := by
    rcases skipped with absent | member
    · simp [absent]
    · simp [member]
  rw [unseen, List.filter_cons, dropped, if_neg Bool.false_ne_true, unseen]

/-- A loadable class that is not known comes first and is known from then on. -/
theorem unseen_cons_of_taken {known classes : List ClassIdentifier} {id : ClassIdentifier}
    {definition : ClassDefinition} (loaded : table.loadable id = some definition)
    (unknown : id ∉ known) :
    table.unseen known (id :: classes) = id :: table.unseen (id :: known) classes := by
  have kept : ((table.loadable id).isSome && !known.contains id) = true := by
    simp [loaded, unknown]
  rw [unseen, List.filter_cons, kept, if_pos rfl, List.eraseDups_cons, List.filter_filter, unseen]
  congr 2
  apply List.filter_congr
  intro other _
  simp only [List.contains_cons, Bool.not_or]
  cases (table.loadable other).isSome <;> cases other == id <;> simp

/-- At most one class after another list: what it adds is known to the classes after it. -/
theorem unseen_toList_append (known classes : List ClassIdentifier)
    (class? : Option ClassIdentifier) :
    table.unseen known (class?.toList ++ classes) = table.unseen known class?.toList ++
      table.unseen ((table.unseen known class?.toList).reverse ++ known) classes := by
  have nothing : ∀ known : List ClassIdentifier, table.unseen known [] = [] := fun _ => rfl
  cases class? with
  | none => simp [nothing]
  | some id =>
    simp only [Option.toList_some, List.singleton_append]
    cases loaded : table.loadable id with
    | none =>
      have skipped : table.loadable id = none ∨ id ∈ known := .inl loaded
      simp [table.unseen_cons_of_skipped skipped, nothing]
    | some definition =>
      by_cases member : id ∈ known
      · have skipped : table.loadable id = none ∨ id ∈ known := .inr member
        simp [table.unseen_cons_of_skipped skipped, nothing]
      · simp [table.unseen_cons_of_taken loaded member, nothing]

/-- Only the class itself can be new in a list of one class. -/
theorem mem_unseen_toList {known : List ClassIdentifier} {class? : Option ClassIdentifier}
    {id : ClassIdentifier} (member : id ∈ table.unseen known class?.toList) :
    class? = some id := by
  rw [unseen, List.mem_eraseDups, List.mem_filter, Option.mem_toList] at member
  exact member.1

end ClassTable

namespace Collection

variable (table : ClassTable) (build : ClassDefinition → Except DiscoveryError BuildOutcome)

/-- Why a finding ends a collection, if it does. -/
def failureOf? : Finding → Option DiscoveryError
  | .fault error => some error
  | .candidate id => table.failure? build id
  | .vendored | .scanned => none

/-- No class that has come up is a failure. -/
def Settled (collection : Collection) : Prop :=
  ∀ id ∈ collection.seen, table.failure? build id = none

/-- A finding that is a failure ends the collection with it. -/
theorem take_of_failure {finding : Finding} {error : DiscoveryError} {collection : Collection}
    (settled : collection.Settled table build)
    (failed : failureOf? table build finding = some error) :
    (take table build finding collection).1 = .error error := by
  cases finding with
  | vendored => simp [failureOf?] at failed
  | scanned => simp [failureOf?] at failed
  | fault other =>
    simp only [failureOf?, Option.some.injEq] at failed
    simp [take, failed]
  | candidate id =>
    simp only [failureOf?] at failed
    have unknown : id ∉ collection.seen := by
      intro known
      rw [settled id known] at failed
      contradiction
    obtain ⟨definition, loaded, broken⟩ := Option.bind_eq_some_iff.mp failed
    split at broken
    · rename_i fault built
      simp only [Option.some.injEq] at broken
      simp [take, visit, loaded, unknown, built, broken]
    · contradiction

/-- What a finding that is no failure does to a collection: it goes on, with the class
of the finding and its descriptor added if the class is loadable and new. -/
theorem take_of_none {finding : Finding} (collection : Collection)
    (passed : failureOf? table build finding = none) :
    (take table build finding collection).1 = .ok () ∧
      (take table build finding collection).2.seen =
        (table.unseen collection.seen finding.class?.toList).reverse ++ collection.seen ∧
      (take table build finding collection).2.descriptors = collection.descriptors ++
        (table.unseen collection.seen finding.class?.toList).filterMap
          (table.descriptor? build) := by
  have nothing : table.unseen collection.seen [] = [] := rfl
  cases finding with
  | vendored => simp [take, Finding.class?, nothing]
  | scanned => simp [take, Finding.class?, nothing]
  | fault error => simp [failureOf?] at passed
  | candidate id =>
    simp only [failureOf?] at passed
    simp only [Finding.class?, Option.toList_some]
    cases loaded : table.loadable id with
    | none =>
      rw [table.unseen_cons_of_skipped (.inl loaded)]
      simp [take, visit, loaded, nothing]
    | some definition =>
      by_cases known : id ∈ collection.seen
      · rw [table.unseen_cons_of_skipped (.inr known)]
        simp [take, visit, loaded, known, nothing]
      · rw [table.unseen_cons_of_taken loaded known]
        have alone : table.unseen (id :: collection.seen) [] = [] := rfl
        cases built : build definition with
        | error error => simp [ClassTable.failure?, loaded, built] at passed
        | ok outcome =>
          cases outcome <;>
            simp [take, visit, loaded, known, built, record, alone, ClassTable.descriptor?]

/-- A finding that is no failure leaves no failure among the classes that came up. -/
theorem settled_take {finding : Finding} {collection : Collection}
    (settled : collection.Settled table build)
    (passed : failureOf? table build finding = none) :
    (take table build finding collection).2.Settled table build := by
  intro id member
  rw [(take_of_none table build collection passed).2.1, List.mem_append, List.mem_reverse] at member
  rcases member with new | old
  · have candidate : finding = .candidate id := by
      have led := table.mem_unseen_toList new
      cases finding <;> simp_all [Finding.class?]
    rw [candidate] at passed
    exact passed
  · exact settled id old

/-- A finding that ends the collection leaves the findings after it alone. -/
theorem takeAll_cons_of_error {finding : Finding} {findings : List Finding}
    {collection : Collection} {error : DiscoveryError}
    (ended : (take table build finding collection).1 = .error error) :
    takeAll table build (finding :: findings) collection = take table build finding collection := by
  rw [takeAll]
  split
  · rename_i same
    exact same.symm
  · rename_i same
    rw [same] at ended
    contradiction

/-- A finding that does not end the collection is followed by those after it. -/
theorem takeAll_cons_of_ok {finding : Finding} {findings : List Finding}
    {collection : Collection} (went : (take table build finding collection).1 = .ok ()) :
    takeAll table build (finding :: findings) collection =
      takeAll table build findings (take table build finding collection).2 := by
  rw [takeAll]
  split
  · rename_i same
    rw [same] at went
    contradiction
  · rename_i same
    rw [same]

/-- Taking up findings ends with the first failure among them. -/
theorem takeAll_of_failure {findings : List Finding} {collection : Collection}
    {error : DiscoveryError} (settled : collection.Settled table build)
    (first : findings.findSome? (failureOf? table build) = some error) :
    (takeAll table build findings collection).1 = .error error := by
  induction findings generalizing collection with
  | nil => simp at first
  | cons finding findings inductionHypothesis =>
    rw [List.findSome?_cons] at first
    cases failed : failureOf? table build finding with
    | some fault =>
      rw [failed] at first
      have ended := take_of_failure table build settled failed
      rw [takeAll_cons_of_error table build ended, ended, Option.some.inj first]
    | none =>
      rw [failed] at first
      have went := (take_of_none table build collection failed).1
      rw [takeAll_cons_of_ok table build went]
      exact inductionHypothesis (settled_take table build settled failed) first

/-- The class of a candidate comes before those of the findings behind it. -/
theorem filterMap_class_cons (finding : Finding) (findings : List Finding) :
    (finding :: findings).filterMap Finding.class? =
      finding.class?.toList ++ findings.filterMap Finding.class? := by
  rw [List.filterMap_cons]
  cases finding <;> rfl

/-- Findings without a failure are all taken up, and the descriptors of the classes new
among them are added in order. -/
theorem takeAll_of_none {findings : List Finding} (collection : Collection)
    (passing : findings.findSome? (failureOf? table build) = none) :
    (takeAll table build findings collection).1 = .ok () ∧
      (takeAll table build findings collection).2.descriptors = collection.descriptors ++
        (table.unseen collection.seen (findings.filterMap Finding.class?)).filterMap
          (table.descriptor? build) := by
  induction findings generalizing collection with
  | nil => simp [takeAll, ClassTable.unseen]
  | cons finding findings inductionHypothesis =>
    rw [List.findSome?_cons] at passing
    cases passed : failureOf? table build finding with
    | some error => simp [passed] at passing
    | none =>
      rw [passed] at passing
      obtain ⟨went, seen, descriptors⟩ :=
        take_of_none table build collection passed
      obtain ⟨finished, collected⟩ :=
        inductionHypothesis (take table build finding collection).2 passing
      rw [takeAll_cons_of_ok table build went, filterMap_class_cons, table.unseen_toList_append]
      refine ⟨finished, ?_⟩
      rw [collected, seen, descriptors, List.filterMap_append, List.append_assoc]

end Collection

/-- What is found at a candidate of a module. -/
def Naming.finding (naming : Naming) (module : Module) :
    Except DiscoveryError CandidateFile → Finding
  | .ok file => .candidate (naming.classIdentifier file.relative module.namespacePrefix)
  | .error error => .fault error

/-- What is picked from the findings of some modules is picked from the candidates of
the modules that are not left out, unless the beginnings of modules are picked too. -/
theorem filterMap_findings {β : Type} (naming : Naming) (source : CandidateSource)
    (modules : List Module) (pick : Finding → Option β) (vendored : pick .vendored = none)
    (scanned : pick .scanned = none) :
    (findings naming source modules).filterMap pick =
      (modules.filter fun module => !source.skips module).flatMap fun module =>
        (source.candidates module).filterMap fun candidate =>
          pick (naming.finding module candidate) := by
  have within : ∀ module, (findingsIn naming source module).filterMap pick =
      if source.skips module then []
      else (source.candidates module).filterMap fun candidate =>
        pick (naming.finding module candidate) := by
    intro module
    unfold findingsIn
    split
    · simp [vendored]
    · rw [List.filterMap_cons, scanned, List.filterMap_map]
      congr 1
  induction modules with
  | nil => rfl
  | cons module modules inductionHypothesis =>
    simp only [findings] at inductionHypothesis ⊢
    rw [List.flatMap_cons, List.filterMap_append, inductionHypothesis, within]
    cases skipped : source.skips module <;> simp [skipped]

namespace Pipeline

variable (pipeline : Pipeline) (source : CandidateSource) (modules : List Module)

/-- The outcome for a class in the environment of the pipeline. -/
def build : ClassDefinition → Except DiscoveryError BuildOutcome :=
  buildDescriptor pipeline.parser pipeline.environment

/-- The classes that the candidates of the modules lead to, in the order of the modules
and of their candidates, with repetitions. -/
def candidateClasses : List ClassIdentifier :=
  (modules.filter fun module => !source.skips module).flatMap fun module =>
    (source.candidates module).filterMap fun
      | .ok file =>
        some (pipeline.naming.classIdentifier file.relative module.namespacePrefix)
      | .error _ => none

/-- The failures among the candidates of the modules, in the order of the modules and of
their candidates: faults of the source, and loadable classes that cannot be built. -/
def failures : List DiscoveryError :=
  (modules.filter fun module => !source.skips module).flatMap fun module =>
    (source.candidates module).filterMap fun
      | .ok file => pipeline.table.failure? pipeline.build
          (pipeline.naming.classIdentifier file.relative module.namespacePrefix)
      | .error error => some error

/-- The services among the candidates of the modules, by their classes: the loadable
classes, each where it comes up first, that are registered. -/
def services : List (ClassIdentifier × ServiceDescriptor) :=
  ((pipeline.candidateClasses source modules).filter fun id =>
      (pipeline.table.loadable id).isSome).eraseDups.filterMap fun id =>
    (pipeline.table.descriptor? pipeline.build id).map (id, ·)

/-- The classes of the findings are those of the candidates. -/
theorem filterMap_class_findings :
    (findings pipeline.naming source modules).filterMap Finding.class? =
      pipeline.candidateClasses source modules := by
  rw [filterMap_findings _ _ _ _ rfl rfl, candidateClasses]
  congr 2
  funext module
  congr 1
  funext candidate
  cases candidate <;> rfl

/-- The first failure of the findings is the first of the candidates. -/
theorem findSome?_failure_findings :
    (findings pipeline.naming source modules).findSome?
        (Collection.failureOf? pipeline.table pipeline.build) =
      (pipeline.failures source modules).head? := by
  rw [← List.head?_filterMap, filterMap_findings _ _ _ _ rfl rfl, failures]
  congr 3
  funext module
  congr 1
  funext candidate
  cases candidate <;> rfl

/-- The descriptors of the services are those of the classes that are new to an empty
collection. -/
theorem services_descriptors :
    (pipeline.services source modules).map Prod.snd =
      (pipeline.table.unseen [] (pipeline.candidateClasses source modules)).filterMap
        (pipeline.table.descriptor? pipeline.build) := by
  rw [services, ClassTable.unseen, List.map_filterMap]
  simp only [List.contains_nil, Bool.not_false, Bool.and_true, Option.map_map]
  congr 1
  funext id
  cases pipeline.table.descriptor? pipeline.build id <;> rfl

/-- A collection fails with the first failure, and otherwise yields the descriptors of
the services in the order of discovery. -/
theorem collect_result (stats : Stats) :
    (pipeline.collect source modules stats).1 =
      match (pipeline.failures source modules).head? with
      | some error => .error error
      | none => .ok ((pipeline.services source modules).map Prod.snd) := by
  have settled : Collection.Settled pipeline.table pipeline.build ⟨[], [], stats⟩ := by
    simp [Collection.Settled]
  rw [collect, ← findSome?_failure_findings]
  cases first : (findings pipeline.naming source modules).findSome?
      (Collection.failureOf? pipeline.table pipeline.build) with
  | some error =>
    have failed := Collection.takeAll_of_failure pipeline.table pipeline.build settled first
    simp only [build] at failed
    simp [failed, Except.map]
  | none =>
    obtain ⟨finished, collected⟩ := Collection.takeAll_of_none pipeline.table pipeline.build
      ⟨[], [], stats⟩ first
    rw [filterMap_class_findings, ← services_descriptors] at collected
    simp only [build] at finished collected
    simp [finished, collected, Except.map]

end Pipeline

end ServiceWiring
