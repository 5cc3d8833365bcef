import ServiceWiring.Class.Table

/-!
# Tables by name

Definitions are put into a table under their own names. A table that is filled in this
way, and in no other, therefore lists every definition under its name.
-/

namespace ServiceWiring.ClassTable

/-- Whether every definition that is found is found under its own name. -/
def Named (table : ClassTable) : Prop :=
  ∀ id definition, table.lookup id = some definition → definition.id = id

/-- Putting in a definition keeps definitions under their names. -/
theorem named_insert {table : ClassTable} (named : table.Named) (definition : ClassDefinition) :
    (table.insert definition).Named := by
  intro id found lookup
  by_cases same : id = definition.id
  · rw [same, lookup_insert_self, Option.some.injEq] at lookup
    rw [same, lookup]
  · rw [lookup_insert_of_ne same] at lookup
    exact named id found lookup

/-- A table that is made of some definitions has them under their names. -/
theorem named_ofList (definitions : List ClassDefinition) : (ofList definitions).Named := by
  suffices general : ∀ table : ClassTable, table.Named →
      (definitions.foldl (fun table definition => table.insert definition) table).Named by
    refine general empty ?_
    intro id definition found
    simp [lookup, empty, Keyed.get?] at found
  induction definitions with
  | nil => exact fun _ named => named
  | cons definition definitions inductionHypothesis =>
    intro table named
    exact inductionHypothesis _ (named_insert named definition)

end ServiceWiring.ClassTable
