import ServiceWiring.RawPath

/-!
# Class names

The full name of a class is made of the parts of its namespace and its short
name, with a separator between each two parts. It is known in two ways: from the
place of a file below the root of a module, and from the declarations inside the
file. For a file where it belongs the two agree.
-/

namespace ServiceWiring

/-- The separator of namespaces that name classes. -/
structure Naming where
  separator : String
deriving DecidableEq, Repr

namespace Naming

open Text (dropCopiesAtEnd trimMatches)

/-- The separator that is used when none is configured. -/
def standard : Naming := ⟨"\\"⟩

/-- Replaces the last of some names by its stem. -/
def stemLast : List (List Char) → List (List Char)
  | [] => []
  | [name] => [Path.stem name]
  | name :: names => name :: stemLast names

/-- The class that a file should declare: the prefix of its module and the names
in its path as they are shown, the last one without extension. The prefix may end in
separators. -/
def classIdentifier (naming : Naming) (path : RawPath) (namespacePrefix : String) : String :=
  let separator := naming.separator.toList
  let base := dropCopiesAtEnd separator namespacePrefix.toList
  let relative := Text.join separator (stemLast path.shownNames)
  String.ofList (if base.isEmpty then relative else base ++ separator ++ relative)

/-- The class that a declaration in a namespace introduces. Separator characters
around the namespace are left out; without a namespace the short name is the full
one. -/
def qualify (naming : Naming) (inside : Option String) (shortName : String) : String :=
  let base := trimMatches naming.separator.toList.contains ((inside.getD "").toList)
  if base.isEmpty then shortName
  else String.ofList (base ++ naming.separator.toList ++ shortName.toList)

end Naming

end ServiceWiring
