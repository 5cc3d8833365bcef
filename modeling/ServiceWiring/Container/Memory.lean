import ServiceWiring.Container.Builder

/-!
# Containers in memory

A container holds one directive per identifier. Defining an identifier again
replaces its directive and keeps its place, so the identifiers stand in the order
in which they were first defined. It accepts every directive.
-/

namespace ServiceWiring

/-- Directives by the identifier under which they are registered. -/
structure Container where
  entries : List (String × ConstructionDirective)
deriving DecidableEq, Repr

namespace Container

/-- The container without directives. -/
def empty : Container := ⟨[]⟩

/-- Registers a directive under its own identifier. -/
def define (directive : ConstructionDirective) (container : Container) : Container :=
  ⟨Keyed.insert directive.id directive container.entries⟩

/-- The directive under an identifier. -/
def get? (id : String) (container : Container) : Option ConstructionDirective :=
  Keyed.get? id container.entries

/-- The identifiers in the order of their first definition. -/
def ids (container : Container) : List String := Keyed.keys container.entries

/-- The directives in the order of the first definition of their identifiers. -/
def directives (container : Container) : List ConstructionDirective :=
  container.entries.map Prod.snd

/-- The number of identifiers. -/
def size (container : Container) : Nat := container.entries.length

/-- Whether a container holds no directives. -/
def isEmpty (container : Container) : Bool := container.size == 0

/-- The container as a builder. -/
def builder : ContainerBuilder Container where
  define directive container := (.ok (), container.define directive)

/-- The directive defined last under an identifier is the one that is found. -/
theorem get?_define_self (directive : ConstructionDirective) (container : Container) :
    (container.define directive).get? directive.id = some directive :=
  Keyed.get?_insert_self ..

/-- Defining an identifier leaves the directives of all others alone. -/
theorem get?_define_of_ne {id : String} {directive : ConstructionDirective}
    (differs : id ≠ directive.id) (container : Container) :
    (container.define directive).get? id = container.get? id :=
  Keyed.get?_insert_of_ne differs ..

/-- A known identifier keeps its place; a new one comes last. -/
theorem ids_define (directive : ConstructionDirective) (container : Container) :
    (container.define directive).ids =
      if directive.id ∈ container.ids then container.ids
      else container.ids ++ [directive.id] :=
  Keyed.keys_insert ..

end Container

end ServiceWiring
