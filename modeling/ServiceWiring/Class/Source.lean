import ServiceWiring.Class.Declaration
import ServiceWiring.Class.Members
import ServiceWiring.Class.Naming

/-!
# Definitions in a source text

A source text defines the class of its first declaration. Its name is qualified by
the namespace declared before it, and its methods are those declared at the first
level of its body.
-/

namespace ServiceWiring

/-- The definition that a source text contains, if it declares a class. -/
def ClassDefinition.ofSource? (naming : Naming) (source : String) : Option ClassDefinition :=
  (Source.declaration? source.toList).map fun (before, declared, after) =>
    { id := naming.qualify ((Source.namespace? before).map String.ofList)
        (String.ofList declared.name)
      kind := declared.kind
      docComment := (Source.docComment? before).map String.ofList
      methods := Source.methods (Source.members after) }

end ServiceWiring
