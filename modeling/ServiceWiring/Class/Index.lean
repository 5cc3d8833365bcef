import ServiceWiring.Class.Source
import ServiceWiring.Class.Table
import ServiceWiring.Discovery.Candidate

/-!
# Class indexes

An index is the table of the classes that source files declare. A file that cannot be
read or declares nothing adds nothing to it.

Of several files that declare one class, those count that are where the class belongs:
whose path, below the prefix of the module, gives the name of the class. Among them,
and among files of which none is in its place, the last one counts.
-/

namespace ServiceWiring

/-- A class that a file declares. -/
structure DeclaredClass where
  definition : ClassDefinition
  /-- Whether the file is where the class belongs. -/
  inPlace : Bool
deriving DecidableEq, Repr

/-- Classes found so far. -/
structure ClassIndex where
  table : ClassTable
  /-- The classes that have been found in their place. -/
  settled : List ClassIdentifier
deriving DecidableEq, Repr

namespace ClassIndex

/-- The index of no files. -/
def empty : ClassIndex := ⟨.empty, []⟩

/-- The index with one more declaration. -/
def add (declared : DeclaredClass) (index : ClassIndex) : ClassIndex :=
  let id := declared.definition.id
  if declared.inPlace then ⟨index.table.insert declared.definition, id :: index.settled⟩
  else if index.settled.contains id then index
  else ⟨index.table.insert declared.definition, index.settled⟩

/-- The class that a candidate of a module declares, where `read` gives the text of
the files that can be read. -/
def declaredBy (naming : Naming) (read : RawPath → Option String) (module : Module)
    (candidate : CandidateFile) : Option DeclaredClass := do
  let definition ← ClassDefinition.ofSource? naming (← read candidate.path)
  return {
    definition
    inPlace :=
      naming.classIdentifier candidate.relative module.namespacePrefix == definition.id }

/-- The index with the classes of some candidates of a module. The first fault among
the candidates ends it. -/
def addCandidates (naming : Naming) (read : RawPath → Option String) (module : Module) :
    List (Except DiscoveryError CandidateFile) → ClassIndex → Except DiscoveryError ClassIndex
  | [], index => .ok index
  | .error error :: _, _ => .error error
  | .ok candidate :: candidates, index =>
    addCandidates naming read module candidates
      (match declaredBy naming read module candidate with
      | some declared => index.add declared
      | none => index)

/-- The index with the classes of some modules. -/
def addModules (naming : Naming) (read : RawPath → Option String) (source : CandidateSource) :
    List Module → ClassIndex → Except DiscoveryError ClassIndex
  | [], index => .ok index
  | module :: modules, index => do
    addModules naming read source modules
      (← addCandidates naming read module (source.candidates module) index)

end ClassIndex

/-- The table of the classes that the files of some modules declare. -/
def ClassTable.ofModules (naming : Naming) (read : RawPath → Option String)
    (source : CandidateSource) (modules : List Module) : Except DiscoveryError ClassTable :=
  (ClassIndex.addModules naming read source modules .empty).map ClassIndex.table

end ServiceWiring
