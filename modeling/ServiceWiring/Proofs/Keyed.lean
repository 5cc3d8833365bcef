import Mathlib.Data.List.Induction
import Mathlib.Data.List.Nodup
import ServiceWiring.Keyed

/-!
# Looking up keyed entries

Entries in a list may repeat a key, and the first entry of a key is the one that is found.
Where keys are distinct, what is found does not depend on the order of the entries.
-/

namespace ServiceWiring.Keyed

universe u v
variable {κ : Type u} {α : Type v} [DecidableEq κ]

/-- A value that is found under a key stands there. -/
theorem mem_of_get?_eq_some {key : κ} {value : α} {entries : List (κ × α)}
    (found : get? key entries = some value) : (key, value) ∈ entries := by
  induction entries with
  | nil => simp [get?] at found
  | cons entry rest inductionHypothesis =>
    obtain ⟨candidate, first⟩ := entry
    rw [get?] at found
    split at found
    · rename_i same
      rw [same, Option.some.inj found]
      exact List.mem_cons_self
    · exact List.mem_cons_of_mem _ (inductionHypothesis found)

/-- Nothing is found under a key that is not there. -/
theorem get?_eq_none {key : κ} {entries : List (κ × α)} (absent : key ∉ keys entries) :
    get? key entries = none := by
  rw [← get?_isSome_iff, Option.not_isSome_iff_eq_none] at absent
  exact absent

/-- A value is found under its key when no other entry has the key. -/
theorem get?_of_mem {key : κ} {value : α} {entries : List (κ × α)} (distinct : (keys entries).Nodup)
    (member : (key, value) ∈ entries) : get? key entries = some value := by
  have present : key ∈ keys entries := List.mem_map_of_mem member
  obtain ⟨other, found⟩ := Option.isSome_iff_exists.mp ((get?_isSome_iff key entries).mpr present)
  have sameEntry : (key, other) = (key, value) :=
    List.inj_on_of_nodup_map distinct (mem_of_get?_eq_some found) member rfl
  rw [found, (Prod.mk.inj sameEntry).2]

/-- Among entries one behind the other the front ones are found first. -/
theorem get?_append (key : κ) (front back : List (κ × α)) :
    get? key (front ++ back) = (get? key front).or (get? key back) := by
  induction front with
  | nil => rfl
  | cons entry front inductionHypothesis =>
    rw [List.cons_append, get?, get?]
    split
    · rfl
    · exact inductionHypothesis

/-- Where keys are distinct, the values are what is found under the keys, in their order. -/
theorem map_get?_keys {entries : List (κ × α)} (distinct : (keys entries).Nodup) :
    (keys entries).map (fun key => get? key entries) = entries.map fun entry => some entry.2 := by
  rw [keys, List.map_map]
  apply List.map_congr_left
  intro entry member
  exact get?_of_mem distinct member

/-- A new key comes last with its value. -/
theorem insert_of_not_mem {key : κ} {entries : List (κ × α)} (fresh : key ∉ keys entries)
    (value : α) : insert key value entries = entries ++ [(key, value)] := by
  induction entries with
  | nil => rfl
  | cons entry rest inductionHypothesis =>
    rw [keys, List.map_cons, List.mem_cons, not_or] at fresh
    rw [insert, if_neg (Ne.symm fresh.1), inductionHypothesis fresh.2]
    rfl

/-- The last entry takes a new value under its key. -/
theorem insert_concat {key : κ} {front : List (κ × α)} (fresh : key ∉ keys front)
    (old value : α) : insert key value (front ++ [(key, old)]) = front ++ [(key, value)] := by
  induction front with
  | nil => exact if_pos rfl
  | cons entry front inductionHypothesis =>
    rw [keys, List.map_cons, List.mem_cons, not_or] at fresh
    rw [List.cons_append, insert, if_neg (Ne.symm fresh.1), inductionHypothesis fresh.2]
    rfl

/-- The last entry is found under its key. -/
theorem get?_concat {key : κ} {front : List (κ × α)} (fresh : key ∉ keys front) (value : α) :
    get? key (front ++ [(key, value)]) = some value := by
  rw [get?_append, get?_eq_none fresh, Option.none_or]
  exact if_pos rfl

omit [DecidableEq κ] in
/-- Where keys are distinct, each is new behind the entries before it. -/
theorem new_of_nodup_keys {front back : List (κ × α)} {entry : κ × α}
    (distinct : (keys (front ++ entry :: back)).Nodup) :
    entry.1 ∉ keys front ∧ (keys (front ++ [entry] ++ back)).Nodup := by
  constructor
  · rw [keys, List.map_append] at distinct
    exact fun old => (List.nodup_append.mp distinct).2.2 _ old _ List.mem_cons_self rfl
  · rwa [List.append_assoc]

/-- Entries after an insertion are the inserted one and those that were there. -/
theorem mem_of_mem_insert {key : κ} {value : α} {entries : List (κ × α)} {entry : κ × α}
    (member : entry ∈ insert key value entries) : entry = (key, value) ∨ entry ∈ entries := by
  induction entries with
  | nil => exact .inl (List.mem_singleton.mp member)
  | cons first entries inductionHypothesis =>
    rw [insert] at member
    split at member
    · exact (List.mem_cons.mp member).imp_right (List.mem_cons_of_mem _)
    · rcases List.mem_cons.mp member with rfl | member
      · exact .inr List.mem_cons_self
      · exact (inductionHypothesis member).imp_right (List.mem_cons_of_mem _)

/-- Inserting pairs brings about no entries but the pairs. -/
theorem mem_of_mem_ofPairs {pairs : List (κ × α)} {entry : κ × α}
    (member : entry ∈ ofPairs pairs) : entry ∈ pairs := by
  induction pairs using List.reverseRecOn with
  | nil => exact member
  | append_singleton pairs last inductionHypothesis =>
    rw [ofPairs, List.foldl_append] at member
    rcases mem_of_mem_insert member with rfl | member
    · exact List.mem_append_right _ List.mem_cons_self
    · exact List.mem_append_left _ (inductionHypothesis member)

/-- Inserting pairs leaves no key twice. -/
theorem nodup_keys_ofPairs (pairs : List (κ × α)) : (keys (ofPairs pairs)).Nodup := by
  induction pairs using List.reverseRecOn with
  | nil => exact List.nodup_nil
  | append_singleton pairs last inductionHypothesis =>
    rw [ofPairs, List.foldl_append]
    exact nodup_keys_insert _ _ _ inductionHypothesis

/-- Pairs with distinct keys stay as they are when they are inserted. -/
theorem ofPairs_of_nodup {pairs : List (κ × α)} (distinct : (keys pairs).Nodup) :
    ofPairs pairs = pairs := by
  induction pairs using List.reverseRecOn with
  | nil => rfl
  | append_singleton pairs last inductionHypothesis =>
    obtain ⟨new, _⟩ := new_of_nodup_keys distinct
    have front : (keys pairs).Nodup := by
      rw [keys, List.map_append] at distinct
      exact (List.nodup_append.mp distinct).1
    rw [ofPairs, List.foldl_append, ← ofPairs, inductionHypothesis front]
    exact insert_of_not_mem new last.2

/-- A key that only the fields can hold is looked up among the fields, wherever
these stand between other entries. The other entries may repeat their keys. -/
theorem get?_of_perm_append {key : κ} {fields others entries : List (κ × α)}
    (order : entries.Perm (fields ++ others)) (distinct : (keys fields).Nodup)
    (foreign : key ∉ keys others) : get? key entries = get? key fields := by
  have sameKeys : key ∈ keys entries ↔ key ∈ keys fields := by
    have permuted : key ∈ keys entries ↔ key ∈ keys (fields ++ others) := (order.map Prod.fst).mem_iff
    rw [permuted, keys, List.map_append, List.mem_append]
    exact or_iff_left foreign
  cases found : get? key entries with
  | none =>
    have absent : key ∉ keys entries := by
      rw [← get?_isSome_iff, found]
      simp
    exact (get?_eq_none (sameKeys.not.mp absent)).symm
  | some value =>
    rcases List.mem_append.mp (order.mem_iff.mp (mem_of_get?_eq_some found)) with member | member
    · exact (get?_of_mem distinct member).symm
    · exact absurd (List.mem_map_of_mem member) foreign

end ServiceWiring.Keyed
