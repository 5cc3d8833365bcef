import ServiceWiring.Class.Definition

/-!
# Class tables

A table holds one definition per class name, the one that was put in last. The
names of a table are those of its definitions.
-/

namespace ServiceWiring

/-- Class definitions by name. -/
structure ClassTable where
  entries : List (String × ClassDefinition)
deriving DecidableEq, Repr

namespace ClassTable

/-- The table without names. -/
def empty : ClassTable := ⟨[]⟩

/-- The definition under a name, of whatever kind. -/
def lookup (id : String) (table : ClassTable) : Option ClassDefinition :=
  Keyed.get? id table.entries

/-- Puts a definition under its own name, in place of any that is there. -/
def insert (definition : ClassDefinition) (table : ClassTable) : ClassTable :=
  ⟨Keyed.insert definition.id definition table.entries⟩

/-- Puts a definition under its own name, and gives back the one that was there. -/
def replace (definition : ClassDefinition) (table : ClassTable) :
    Option ClassDefinition × ClassTable :=
  let (replaced, entries) := Keyed.replace definition.id definition table.entries
  (replaced, ⟨entries⟩)

/-- Puts definitions into a table one after the other, and collects what each of them
replaces. -/
def replaceAll : List ClassDefinition → ClassTable → List (Option ClassDefinition) × ClassTable
  | [], table => ([], table)
  | definition :: definitions, table =>
    let (replaced, table) := table.replace definition
    let (others, table) := replaceAll definitions table
    (replaced :: others, table)

/-- The table of some definitions, put in one after the other. -/
def ofList (definitions : List ClassDefinition) : ClassTable :=
  definitions.foldl (fun table definition => table.insert definition) empty

/-- The number of names. -/
def size (table : ClassTable) : Nat := table.entries.length

/-- Whether a table has no names. -/
def isEmpty (table : ClassTable) : Bool := table.size == 0

/-- The definition under a name, if it can be loaded. -/
def loadable (id : String) (table : ClassTable) : Option ClassDefinition :=
  (table.lookup id).filter ClassDefinition.isLoadable

/-- A replacement puts the definition in, and gives back what was found under its name. -/
theorem replace_eq (definition : ClassDefinition) (table : ClassTable) :
    table.replace definition = (table.lookup definition.id, table.insert definition) := by
  rw [replace, Keyed.replace_eq, lookup, insert]

/-- The definition put in last is found under its name. -/
theorem lookup_insert_self (definition : ClassDefinition) (table : ClassTable) :
    (table.insert definition).lookup definition.id = some definition :=
  Keyed.get?_insert_self ..

/-- Putting in a definition leaves all other names alone. -/
theorem lookup_insert_of_ne {id : String} {definition : ClassDefinition}
    (differs : id ≠ definition.id) (table : ClassTable) :
    (table.insert definition).lookup id = table.lookup id :=
  Keyed.get?_insert_of_ne differs ..

end ClassTable

end ServiceWiring
