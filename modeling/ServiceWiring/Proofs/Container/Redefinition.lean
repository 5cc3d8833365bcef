import Mathlib.Data.Finset.Card
import Mathlib.Data.List.Induction
import ServiceWiring.Container.Memory
import ServiceWiring.Proofs.Container.Handover
import ServiceWiring.Proofs.Keyed

/-!
# Containers after many definitions

What a container holds when directives have been defined in it one after the other, said
without the order in which that came about. Position and content come from different
definitions: an identifier stands where it was first defined, and what stands there is the
directive defined last under it. So the directives are held as they were defined exactly
when no identifier was defined twice.
-/

namespace ServiceWiring

namespace Container

/-- The container in which some directives have been defined, one after the other. -/
def ofList (directives : List ConstructionDirective) : Container :=
  directives.foldl (fun container directive => container.define directive) empty

/-- The directive that stands last under an identifier. -/
def lastUnder? (id : String) (directives : List ConstructionDirective) :
    Option ConstructionDirective :=
  (directives.filter fun directive => directive.id = id).getLast?

/-- One more definition is made in the container of the others. -/
theorem ofList_concat (directives : List ConstructionDirective) (last : ConstructionDirective) :
    ofList (directives ++ [last]) = (ofList directives).define last := by
  rw [ofList, List.foldl_append]
  rfl

/-- The last directive is the one under its own identifier, and no other. -/
theorem lastUnder?_concat (id : String) (directives : List ConstructionDirective)
    (last : ConstructionDirective) :
    lastUnder? id (directives ++ [last]) =
      if last.id = id then some last else lastUnder? id directives := by
  by_cases same : last.id = id <;> simp [lastUnder?, same]

/-- A container accepts all directives, and holds them afterwards. -/
theorem accepts_builder (directives : List ConstructionDirective) (container : Container) :
    Accepts builder directives container
      (directives.foldl (fun container directive => container.define directive) container) := by
  induction directives generalizing container with
  | nil => exact .none container
  | cons directive directives inductionHypothesis =>
    exact .next rfl (inductionHypothesis (container.define directive))

/-- Identifiers stand in the order of their first definition, each once. -/
theorem ids_ofList (directives : List ConstructionDirective) :
    (ofList directives).ids = (directives.map ConstructionDirective.id).eraseDups := by
  induction directives using List.reverseRecOn with
  | nil => rfl
  | append_singleton directives last inductionHypothesis =>
    have alone : [last.id].eraseDups = [last.id] := rfl
    rw [ofList_concat, ids_define, inductionHypothesis, List.map_append, List.eraseDups_append]
    simp only [List.mem_eraseDups, List.map_cons, List.map_nil, List.removeAll, List.filter_cons,
      List.filter_nil, List.elem_eq_mem]
    by_cases known : last.id ∈ directives.map ConstructionDirective.id
    · simp [known]
    · simp [known, alone]

/-- The directive under an identifier is the one defined last under it. -/
theorem get?_ofList (directives : List ConstructionDirective) (id : String) :
    (ofList directives).get? id = lastUnder? id directives := by
  induction directives using List.reverseRecOn with
  | nil => rfl
  | append_singleton directives last inductionHypothesis =>
    rw [ofList_concat, lastUnder?_concat]
    split
    · rename_i same
      rw [← same, get?_define_self]
    · rename_i differs
      rw [get?_define_of_ne (Ne.symm differs), inductionHypothesis]

/-- No identifier stands twice. -/
theorem nodup_ids_ofList (directives : List ConstructionDirective) :
    (ofList directives).ids.Nodup := by
  induction directives using List.reverseRecOn with
  | nil => exact List.nodup_nil
  | append_singleton directives last inductionHypothesis =>
    rw [ofList_concat]
    exact Keyed.nodup_keys_insert _ _ _ inductionHypothesis

/-- What stands under an identifier is a directive that was defined, under its own. -/
theorem mem_of_mem_ofList {directives : List ConstructionDirective} {id : String}
    {directive : ConstructionDirective} (held : (id, directive) ∈ (ofList directives).entries) :
    directive ∈ directives ∧ directive.id = id := by
  have found : (ofList directives).get? id = some directive :=
    Keyed.get?_of_mem (nodup_ids_ofList directives) held
  rw [get?_ofList] at found
  have member := List.mem_filter.mp (List.mem_of_getLast? found)
  exact ⟨member.1, of_decide_eq_true member.2⟩

/-- Every directive stands under its own identifier. -/
theorem id_of_mem_ofList {directives : List ConstructionDirective} {id : String}
    {directive : ConstructionDirective} (held : (id, directive) ∈ (ofList directives).entries) :
    directive.id = id :=
  (mem_of_mem_ofList held).2

/-- The identifiers are those of the directives held. -/
theorem map_id_directives_ofList (directives : List ConstructionDirective) :
    (ofList directives).directives.map ConstructionDirective.id = (ofList directives).ids := by
  rw [Container.directives, List.map_map]
  apply List.map_congr_left
  rintro ⟨id, directive⟩ member
  exact id_of_mem_ofList member

/-- Each identifier holds its last directive at its first position. -/
theorem directives_ofList (directives : List ConstructionDirective) :
    (ofList directives).directives.map some =
      (directives.map ConstructionDirective.id).eraseDups.map fun id =>
        lastUnder? id directives := by
  have values := Keyed.map_get?_keys (nodup_ids_ofList directives)
  rw [← ids_ofList, Container.directives, List.map_map]
  refine (values.symm.trans ?_)
  apply List.map_congr_left
  intro id _
  exact get?_ofList directives id

/-- There are as many directives as different identifiers, so no more than were defined. -/
theorem size_ofList (directives : List ConstructionDirective) :
    (ofList directives).size =
      (directives.map ConstructionDirective.id).toFinset.card := by
  have members : (ofList directives).ids.toFinset =
      (directives.map ConstructionDirective.id).toFinset := by
    ext id
    rw [ids_ofList, List.mem_toFinset, List.mem_toFinset, List.mem_eraseDups]
  rw [← members, List.toFinset_card_of_nodup (nodup_ids_ofList directives), ids, Keyed.keys,
    List.length_map, size]

/-- The directives are held as they were defined exactly when their identifiers are
pairwise distinct. If they are not, a container is shorter than what was defined. -/
theorem directives_ofList_eq_iff (directives : List ConstructionDirective) :
    (ofList directives).directives = directives ↔
      (directives.map ConstructionDirective.id).Nodup := by
  constructor
  · intro same
    have distinct := nodup_ids_ofList directives
    rw [← map_id_directives_ofList, same] at distinct
    exact distinct
  · intro distinct
    induction directives using List.reverseRecOn with
    | nil => rfl
    | append_singleton directives last inductionHypothesis =>
      rw [List.map_append, List.nodup_append] at distinct
      obtain ⟨others, _, apart⟩ := distinct
      have fresh : last.id ∉ (ofList directives).ids := by
        rw [ids_ofList, List.mem_eraseDups]
        intro known
        exact apart _ known _ (by simp) rfl
      rw [ofList_concat, define, Container.directives, Keyed.insert_of_not_mem fresh,
        List.map_append, ← Container.directives, inductionHypothesis others]
      rfl

end Container

end ServiceWiring
