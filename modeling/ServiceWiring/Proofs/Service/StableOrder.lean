import ServiceWiring.Service.Order

/-!
# The definition order is a stable sort

A list sorts another one stably when it holds the same members, ascends in their
keys, and lists the members of each single key in the order of the other list. Only
one list does so: the first member of the sorted list is the first among those of
the lowest key. The definition order of descriptors is this sort by priority.
-/

namespace ServiceWiring

universe u v
variable {α : Type u}

/-- Whether `sorted` is the stable ascending sort of `list` by integer keys. -/
structure SortsStably (key : α → Int) (list sorted : List α) : Prop where
  members : sorted.Perm list
  ascending : sorted.Pairwise fun left right => key left ≤ key right
  stable : ∀ value : Int, sorted.filter (key · = value) = list.filter (key · = value)

namespace SortsStably

/-- The head of a stable sort has the least key, so nothing of a lower key stands in
any list that sorts the same one. -/
theorem head_least {key : α → Int} {list rest : List α} {first : α}
    (sorts : SortsStably key list (first :: rest)) {member : α} (present : member ∈ list) :
    key first ≤ key member := by
  rcases List.mem_cons.mp (sorts.members.mem_iff.mpr present) with rfl | later
  · exact Int.le_refl _
  · exact (List.pairwise_cons.mp sorts.ascending).1 member later

/-- Two stable sorts of one list are equal. The least key is the key of both heads,
and both list its members in the same order, so the heads agree; without them both
are stable sorts of what remains. -/
theorem unique {key : α → Int} {list left right : List α}
    (sortsLeft : SortsStably key list left) (sortsRight : SortsStably key list right) :
    left = right := by
  induction left generalizing list right with
  | nil =>
    have empty : list = [] := sortsLeft.members.symm.eq_nil
    have other : right = [] := by
      have members := sortsRight.members
      rw [empty] at members
      exact members.eq_nil
    exact other.symm
  | cons first rest inductionHypothesis =>
    cases right with
    | nil =>
      have empty : list = [] := sortsRight.members.symm.eq_nil
      have members := sortsLeft.members
      rw [empty] at members
      exact absurd members.eq_nil (by simp)
    | cons other tail =>
      have firstPresent : first ∈ list := sortsLeft.members.mem_iff.mp (by simp)
      have otherPresent : other ∈ list := sortsRight.members.mem_iff.mp (by simp)
      have sameKey : key first = key other := by
        have below := sortsLeft.head_least otherPresent
        have above := sortsRight.head_least firstPresent
        omega
      have agree : ∀ value : Int, (first :: rest).filter (key · = value) =
          (other :: tail).filter (key · = value) := fun value =>
        (sortsLeft.stable value).trans (sortsRight.stable value).symm
      have sameHead : first = other := by
        have heads := agree (key first)
        simp only [List.filter_cons, decide_true, if_true, sameKey] at heads
        exact (List.cons.inj heads).1
      subst sameHead
      have tails : ∀ value : Int, rest.filter (key · = value) =
          tail.filter (key · = value) := by
        intro value
        have both := agree value
        simp only [List.filter_cons] at both
        split at both
        · exact (List.cons.inj both).2
        · exact both
      have permuted : rest.Perm tail :=
        (List.perm_cons first).mp (sortsLeft.members.trans sortsRight.members.symm)
      have sortsRest : SortsStably key rest rest :=
        ⟨List.Perm.refl _, (List.pairwise_cons.mp sortsLeft.ascending).2, fun _ => rfl⟩
      have sortsTail : SortsStably key rest tail :=
        ⟨permuted.symm, (List.pairwise_cons.mp sortsRight.ascending).2, fun value =>
          (tails value).symm⟩
      rw [inductionHypothesis sortsRest sortsTail]

/-- A list that ascends is its own stable sort. -/
theorem of_ascending {key : α → Int} {list : List α}
    (ascending : list.Pairwise fun left right => key left ≤ key right) :
    SortsStably key list list :=
  ⟨List.Perm.refl list, ascending, fun _ => rfl⟩

/-- Leaving members out of a list leaves them out of its stable sort. -/
theorem filter {key : α → Int} {list sorted : List α} (sorts : SortsStably key list sorted)
    (keep : α → Bool) : SortsStably key (list.filter keep) (sorted.filter keep) := by
  refine ⟨sorts.members.filter keep, sorts.ascending.filter keep, fun value => ?_⟩
  have exchange : ∀ members : List α, (members.filter keep).filter (key · = value) =
      (members.filter (key · = value)).filter keep := by
    intro members
    rw [List.filter_filter, List.filter_filter]
    congr 1
    funext member
    exact Bool.and_comm ..
  rw [exchange, exchange, sorts.stable]

/-- Changing the members of a list without their keys changes those of its stable sort. -/
theorem map {β : Type v} {key : α → Int} {otherKey : β → Int} {list sorted : List α}
    (sorts : SortsStably key list sorted) {change : α → β}
    (keeps : ∀ member, otherKey (change member) = key member) :
    SortsStably otherKey (list.map change) (sorted.map change) := by
  refine ⟨sorts.members.map change, ?_, fun value => ?_⟩
  · rw [List.pairwise_map]
    exact sorts.ascending.imp fun below => by rwa [keeps, keeps]
  · have sameKeys : (fun other => decide (otherKey other = value)) ∘ change =
        fun member => decide (key member = value) := by
      funext member
      rw [Function.comp_apply, keeps]
    rw [List.filter_map, List.filter_map, sameKeys, sorts.stable]

end SortsStably

namespace ServiceDescriptor

/-- The definition order sorts stably by priority. The descriptors of one priority
are an ascending part of the list, which sorting leaves in its order; sorting adds
none to them, since it permutes. -/
theorem order_sortsStably (descriptors : List ServiceDescriptor) :
    SortsStably priority descriptors (order descriptors) := by
  have transitive : ∀ first second third : ServiceDescriptor,
      decide (first.priority ≤ second.priority) = true →
      decide (second.priority ≤ third.priority) = true →
      decide (first.priority ≤ third.priority) = true := by
    intro first second third below above
    simp only [decide_eq_true_eq] at below above ⊢
    omega
  have total : ∀ first second : ServiceDescriptor,
      (decide (first.priority ≤ second.priority) ||
        decide (second.priority ≤ first.priority)) = true := by
    intro first second
    simp only [Bool.or_eq_true, decide_eq_true_eq]
    omega
  have permuted : (order descriptors).Perm descriptors := List.mergeSort_perm ..
  have ascending : (order descriptors).Pairwise fun left right =>
      decide (left.priority ≤ right.priority) = true :=
    List.pairwise_mergeSort transitive total descriptors
  refine ⟨permuted, ascending.imp fun below => of_decide_eq_true below, ?_⟩
  intro value
  have level : (descriptors.filter (priority · = value)).Pairwise fun left right =>
      decide (left.priority ≤ right.priority) = true := by
    rw [List.pairwise_iff_forall_sublist]
    intro left right part
    have leftLevel : decide (left.priority = value) = true :=
      (List.mem_filter.mp (part.subset (List.mem_cons_self ..))).2
    have rightLevel : decide (right.priority = value) = true :=
      (List.mem_filter.mp (part.subset (List.mem_cons_of_mem _ (by simp)))).2
    simp only [decide_eq_true_eq] at leftLevel rightLevel ⊢
    omega
  have kept : (descriptors.filter (priority · = value)).Sublist (order descriptors) :=
    List.sublist_mergeSort transitive total level List.filter_sublist
  have filtered := kept.filter (priority · = value)
  rw [List.filter_filter] at filtered
  simp only [Bool.and_self] at filtered
  have sameLength : (descriptors.filter (priority · = value)).length =
      ((order descriptors).filter (priority · = value)).length :=
    (permuted.symm.filter _).length_eq
  exact (filtered.eq_of_length sameLength).symm

/-- What sorts descriptors stably by priority is their definition order. -/
theorem order_eq_of_sortsStably {descriptors sorted : List ServiceDescriptor}
    (sorts : SortsStably priority descriptors sorted) : order descriptors = sorted :=
  (order_sortsStably descriptors).unique sorts

/-- Of two descriptors the one with the lower priority goes first. -/
theorem order_pair {first second : ServiceDescriptor} (lower : second.priority < first.priority) :
    order [first, second] = [second, first] := by
  refine order_eq_of_sortsStably ⟨.swap .., ?_, fun value => ?_⟩
  · exact List.pairwise_pair.mpr (Int.le_of_lt lower)
  · -- No value is the priority of both.
    by_cases own : second.priority = value
    · have other : first.priority ≠ value := by omega
      simp [own, other]
    · simp [List.filter_cons, own]

/-- The definition order has the descriptors that it is made of, in ascending priority, and
those of each priority in the order in which they came. Therefore it does not matter whether
descriptors are ordered once or twice, before or after they are resolved, and before or after
some of them are left out.

Proof: each of these lists is a stable sort by priority, and there is only one. -/
theorem order_laws (descriptors : List ServiceDescriptor) :
    (order descriptors).Perm descriptors ∧
    (order descriptors).Pairwise (fun left right => left.priority ≤ right.priority) ∧
    (∀ value : Int, (order descriptors).filter (fun descriptor => descriptor.priority = value) =
      descriptors.filter fun descriptor => descriptor.priority = value) ∧
    order (order descriptors) = order descriptors ∧
    order (descriptors.map resolve) = (order descriptors).map resolve ∧
    ∀ keep : ServiceDescriptor → Bool,
      order (descriptors.filter keep) = (order descriptors).filter keep := by
  have sorts := order_sortsStably descriptors
  refine ⟨sorts.members, sorts.ascending, sorts.stable, ?_, ?_, fun keep => ?_⟩
  · exact order_eq_of_sortsStably (.of_ascending sorts.ascending)
  · exact order_eq_of_sortsStably (sorts.map fun _ => rfl)
  · exact order_eq_of_sortsStably (sorts.filter keep)

/-- Priorities may lie as far apart as words of thirty-two bits can. -/
example :
    (order [{ ofClass "Last" with priority := 2147483647 }, ofClass "Middle",
      { ofClass "First" with priority := -2147483648 }, ofClass "Other"]).map classId =
        ["First", "Middle", "Other", "Last"] := by
  cbv

end ServiceDescriptor

end ServiceWiring
