import Mathlib.Data.Finset.Card
import Mathlib.Data.List.Induction
import ServiceWiring.Proofs.Class.Table
import ServiceWiring.Proofs.Keyed

/-!
# Tables after many insertions

What a table holds when definitions have been put into it one after the other, said without
the order in which that came about, and what each insertion gives back.

`Holds` ties the three views of a table to the definitions that were put in: what is found
under a name, how many names there are, and which names can be loaded all follow from the
definition that was put in last under each name. One insertion keeps `Holds` and gives back
the definition that counted before, whatever kinds of definitions replace one another; so
does a whole run, by induction. The main statement is about a run on the table of a list.
-/

namespace ServiceWiring.ClassTable

/-- The definition that stands last under a name. -/
def lastNamed? (id : String) (definitions : List ClassDefinition) :
    Option ClassDefinition :=
  (definitions.filter fun definition => definition.id = id).getLast?

/-- The last definition is the one under its own name, and no other. -/
theorem lastNamed?_concat (id : String) (definitions : List ClassDefinition)
    (last : ClassDefinition) :
    lastNamed? id (definitions ++ [last]) =
      if last.id = id then some last else lastNamed? id definitions := by
  by_cases same : last.id = id <;> simp [lastNamed?, same]

/-- There is a last definition under every name that a definition has, and under no other. -/
theorem lastNamed?_isSome_iff {id : String} {definitions : List ClassDefinition} :
    (lastNamed? id definitions).isSome ↔ id ∈ definitions.map ClassDefinition.id := by
  rw [lastNamed?, List.getLast?_isSome, ne_eq, List.filter_eq_nil_iff, List.mem_map]
  simp

/-- Whether a table holds what some definitions leave that are put in one after the other:
under each name the last one, and each name once, with a definition of that name. -/
structure Holds (definitions : List ClassDefinition) (table : ClassTable) : Prop where
  last : ∀ id, table.lookup id = lastNamed? id definitions
  distinct : (Keyed.keys table.entries).Nodup
  named : table.entries.map (fun entry => entry.2.id) = Keyed.keys table.entries

/-- The empty table holds what no definitions leave. -/
theorem holds_empty : Holds [] empty := ⟨fun _ => rfl, List.nodup_nil, rfl⟩

section

variable {definitions : List ClassDefinition} {table : ClassTable}

/-- One more definition gives back the one that stood last under its name, and counts from
then on. -/
theorem Holds.replace (holds : Holds definitions table) (definition : ClassDefinition) :
    (table.replace definition).1 = lastNamed? definition.id definitions ∧
      Holds (definitions ++ [definition]) (table.replace definition).2 := by
  rw [replace_eq]
  refine ⟨holds.last definition.id, ?_, Keyed.nodup_keys_insert _ _ _ holds.distinct, ?_⟩
  · intro id
    rw [lastNamed?_concat]
    split
    · rename_i same
      rw [← same, lookup_insert_self]
    · rename_i differs
      rw [lookup_insert_of_ne (Ne.symm differs), holds.last]
  · rw [Keyed.keys]
    refine List.map_congr_left fun entry member => ?_
    rcases Keyed.mem_of_mem_insert member with rfl | old
    · rfl
    · exact List.map_inj_left.mp holds.named entry old

/-- The names of a table are those of the definitions that were put in. -/
theorem Holds.mem_keys_iff (holds : Holds definitions table) (id : String) :
    id ∈ Keyed.keys table.entries ↔ id ∈ definitions.map ClassDefinition.id := by
  rw [← Keyed.get?_isSome_iff, ← lookup, holds.last, lastNamed?_isSome_iff]

/-- A table is as large as there are different names. -/
theorem Holds.size_eq (holds : Holds definitions table) :
    table.size = (definitions.map ClassDefinition.id).toFinset.card := by
  have members : (Keyed.keys table.entries).toFinset =
      (definitions.map ClassDefinition.id).toFinset := by
    ext id
    rw [List.mem_toFinset, List.mem_toFinset, holds.mem_keys_iff]
  rw [← members, List.toFinset_card_of_nodup holds.distinct, Keyed.keys, List.length_map, size]

/-- A name can be loaded exactly when the definition that stands last under it is that of a
class or an enumeration, and then it is this definition that is loaded. -/
theorem Holds.loadable_eq_some_iff (holds : Holds definitions table) (id : String)
    (found : ClassDefinition) :
    table.loadable id = some found ↔
      lastNamed? id definitions = some found ∧
        (found.kind = .classKind ∨ found.kind = .enumKind) := by
  rw [loadable, holds.last, Option.filter_eq_some_iff]
  refine and_congr_right fun _ => ?_
  cases kind : found.kind <;> simp [ClassDefinition.isLoadable, ClassKind.isLoadable, kind]

/-- A run of insertions gives back, for each definition, the one that stood last under its
name until then, and leaves what all definitions leave. -/
theorem Holds.replaceAll {earlier : List ClassDefinition} (holds : Holds earlier table)
    (definitions : List ClassDefinition) :
    Holds (earlier ++ definitions) (replaceAll definitions table).2 ∧
      ∀ position, (ClassTable.replaceAll definitions table).1[position]? =
        definitions[position]?.map fun definition =>
          lastNamed? definition.id (earlier ++ definitions.take position) := by
  induction definitions generalizing earlier table with
  | nil => exact ⟨(List.append_nil earlier).symm ▸ holds, fun position => rfl⟩
  | cons definition definitions inductionHypothesis =>
    obtain ⟨replaced, onward⟩ := holds.replace definition
    obtain ⟨after, answers⟩ := inductionHypothesis onward
    simp only [List.append_assoc, List.singleton_append] at after answers
    refine ⟨after, fun position => ?_⟩
    cases position with
    | zero => simp [ClassTable.replaceAll, replaced]
    | succ position => exact answers position

end

/-- The table of some definitions holds what they leave. -/
theorem holds_ofList (definitions : List ClassDefinition) :
    Holds definitions (ofList definitions) := by
  induction definitions using List.reverseRecOn with
  | nil => exact holds_empty
  | append_singleton definitions last inductionHypothesis =>
    have whole := (inductionHypothesis.replace last).2
    rw [replace_eq] at whole
    rwa [ofList, List.foldl_append]

/-- **What a table tells of the definitions put into it.** A table is made from a list and
then filled by any number of insertions. Each of these gives back the definition put in last
before it under the same name, and nothing for a new name. In the end, and so at any time,
the table has the definition put in last under each name, every definition stands under its
own name, there are as many as different names, and the names that can be loaded are those
whose last definition is that of a class or an enumeration. One more definition is found in
place of any other under its name, and can be loaded unless it is an interface or a trait. -/
theorem replaceAll_keeps_last (initial definitions : List ClassDefinition) :
    let (replaced, table) := replaceAll definitions (ofList initial)
    let all := initial ++ definitions
    (∀ position, replaced[position]? = definitions[position]?.map fun definition =>
      lastNamed? definition.id (initial ++ definitions.take position)) ∧
    (∀ id, table.lookup id = lastNamed? id all) ∧
    table.entries.map (fun entry => entry.2.id) = Keyed.keys table.entries ∧
    table.size = (all.map ClassDefinition.id).toFinset.card ∧
    (∀ id found, table.loadable id = some found ↔
      lastNamed? id all = some found ∧ (found.kind = .classKind ∨ found.kind = .enumKind)) ∧
    ∀ next, (table.replace next).1 = lastNamed? next.id all ∧
      (table.replace next).2.lookup next.id = some next ∧
      ((table.replace next).2.loadable next.id = none ↔
        next.kind = .interfaceKind ∨ next.kind = .traitKind) := by
  obtain ⟨holds, answers⟩ := (holds_ofList initial).replaceAll definitions
  refine ⟨answers, holds.last, holds.named, holds.size_eq, holds.loadable_eq_some_iff, ?_⟩
  intro next
  obtain ⟨replaced, after⟩ := holds.replace next
  have found : (((replaceAll definitions (ofList initial)).2.replace next).2).lookup next.id =
      some next := by
    rw [after.last, lastNamed?_concat, if_pos rfl]
  refine ⟨replaced, found, ?_⟩
  rw [loadable, found]
  cases kind : next.kind <;> simp [ClassDefinition.isLoadable, ClassKind.isLoadable, kind]

/-- A class that is put in again as an interface gives way to it and can no longer be loaded. -/
example :
    let (replaced, table) := replaceAll
      [⟨"App\\Mailer", .classKind, none, []⟩, ⟨"App\\Mailer", .interfaceKind, none, []⟩] empty
    replaced = [none, some ⟨"App\\Mailer", .classKind, none, []⟩] ∧
      table.lookup "App\\Mailer" = some ⟨"App\\Mailer", .interfaceKind, none, []⟩ ∧
      table.loadable "App\\Mailer" = none := by
  decide

end ServiceWiring.ClassTable
