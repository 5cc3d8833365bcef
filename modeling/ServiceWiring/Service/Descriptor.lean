import ServiceWiring.Argument.Resolution
import ServiceWiring.Service.Parts

/-!
# Service descriptors

A descriptor says all that is known about one service: its class, what its
annotation declares, and for which environments it is meant. Descriptors without
environments are meant for all. After a descriptor is built only its arguments
and its factory change, once, when they are resolved.
-/

namespace ServiceWiring

/-- The full name of a class. -/
abbrev ClassIdentifier := String

/-- What is known about one service. -/
structure ServiceDescriptor where
  classId : ClassIdentifier
  /-- The declared identifier of the service. -/
  id : Option String
  flags : ServiceFlags
  /-- Services of lower priority are defined first. -/
  priority : Int
  /-- The environments it is meant for, in ascending order and without repetition. -/
  environments : List String
  /-- The class may have one public method at most. -/
  singleMethod : Bool
  arguments : ArgumentTree
  tags : List Tag
  methodCalls : List MethodCall
  factory : Option ArgumentTree
  decorates : Option String
deriving DecidableEq, Repr

namespace ServiceDescriptor

/-- The descriptor of a class whose annotation declares nothing. -/
def ofClass (classId : ClassIdentifier) : ServiceDescriptor where
  classId
  id := none
  flags := .standard
  priority := 0
  environments := []
  singleMethod := false
  arguments := .empty
  tags := []
  methodCalls := []
  factory := none
  decorates := none

/-- Puts a name into an ascending list without repetition. -/
def insertName (name : String) : List String → List String
  | [] => [name]
  | first :: names =>
    if name < first then name :: first :: names
    else if name = first then first :: names
    else first :: insertName name names

/-- The names of a list in ascending order and without repetition. -/
def nameSet (names : List String) : List String :=
  names.foldl (fun sorted name => insertName name sorted) []

/-- The identifier under which the service is registered: the declared one, or
that of its class. -/
def registrationId (descriptor : ServiceDescriptor) : String :=
  descriptor.id.getD descriptor.classId

/-- Whether the service is meant for an environment. -/
def appliesTo (environment : String) (descriptor : ServiceDescriptor) : Bool :=
  descriptor.environments.isEmpty || descriptor.environments.contains environment

/-- The descriptor with its arguments and its factory resolved. -/
def resolve (descriptor : ServiceDescriptor) : ServiceDescriptor :=
  { descriptor with
    arguments := descriptor.arguments.resolve
    factory := descriptor.factory.map ArgumentTree.resolve }

/-- Insertion adds the name and keeps the others. -/
theorem mem_insertName (name other : String) (names : List String) :
    other ∈ insertName name names ↔ other = name ∨ other ∈ names := by
  induction names with
  | nil => simp [insertName]
  | cons first names inductionHypothesis =>
    simp only [insertName]
    split
    · simp
    · split
      · rename_i same
        simp [same]
      · simp only [List.mem_cons, inductionHypothesis]
        constructor
        · rintro (equal | equal | member)
          · exact .inr (.inl equal)
          · exact .inl equal
          · exact .inr (.inr member)
        · rintro (equal | equal | member)
          · exact .inr (.inl equal)
          · exact .inl equal
          · exact .inr (.inr member)

/-- A set of names has the members of the list it is made from. -/
theorem mem_nameSet (name : String) (names : List String) : name ∈ nameSet names ↔ name ∈ names := by
  suffices general : ∀ sorted : List String,
      name ∈ names.foldl (fun sorted name => insertName name sorted) sorted ↔
        name ∈ names ∨ name ∈ sorted by
    simpa [nameSet] using general []
  induction names with
  | nil => simp
  | cons first names inductionHypothesis =>
    intro sorted
    simp only [List.foldl_cons, inductionHypothesis, mem_insertName, List.mem_cons]
    constructor
    · rintro (member | equal | member)
      · exact .inl (.inr member)
      · exact .inl (.inl equal)
      · exact .inr member
    · rintro ((equal | member) | member)
      · exact .inr (.inl equal)
      · exact .inl member
      · exact .inr (.inr member)

end ServiceDescriptor

end ServiceWiring
