import ServiceWiring.Json.Record

/-!
# Class definitions

What the library knows about a declared class: its name, what kind of declaration
it is, the documentation block before it, and its methods in order. Classes and
enumerations can be loaded; interfaces and traits cannot.

In JSON a definition without documentation block has `null` there, and may leave
the entry out when it is read.
-/

namespace ServiceWiring

/-- The kinds of class-like declarations. -/
inductive ClassKind
  | classKind
  | interfaceKind
  | traitKind
  | enumKind
deriving DecidableEq, Repr

/-- From where a method may be called. -/
inductive Visibility
  | publicAccess
  | protectedAccess
  | privateAccess
deriving DecidableEq, Repr

/-- Whether a method is called when an instance is made, when it is given up, or
by its users. -/
inductive MethodRole
  | constructorRole
  | destructorRole
  | regular
deriving DecidableEq, Repr

/-- A declared method. -/
structure MethodSignature where
  name : String
  visibility : Visibility
  role : MethodRole
deriving DecidableEq, Repr

/-- A declared class. -/
structure ClassDefinition where
  id : String
  kind : ClassKind
  docComment : Option String
  methods : List MethodSignature
deriving DecidableEq, Repr

namespace ClassKind

/-- The kinds by their keywords. -/
def names : List (String × ClassKind) :=
  [("class", classKind), ("interface", interfaceKind), ("trait", traitKind), ("enum", enumKind)]

/-- The keyword of a kind. -/
def name : ClassKind → String
  | classKind => "class"
  | interfaceKind => "interface"
  | traitKind => "trait"
  | enumKind => "enum"

/-- Instances can be made of classes and enumerations only. -/
def isLoadable : ClassKind → Bool
  | classKind | enumKind => true
  | interfaceKind | traitKind => false

end ClassKind

namespace Visibility

/-- Visibilities by their keywords. -/
def names : List (String × Visibility) :=
  [("public", publicAccess), ("protected", protectedAccess), ("private", privateAccess)]

/-- The keyword of a visibility. -/
def name : Visibility → String
  | publicAccess => "public"
  | protectedAccess => "protected"
  | privateAccess => "private"

end Visibility

namespace MethodRole

/-- Roles by the words for them in records. -/
def names : List (String × MethodRole) :=
  [("constructor", constructorRole), ("destructor", destructorRole), ("regular", regular)]

/-- The word for a role in records. -/
def name : MethodRole → String
  | constructorRole => "constructor"
  | destructorRole => "destructor"
  | regular => "regular"

end MethodRole

namespace MethodSignature

/-- Whether the method is part of what the class offers to its users. Static
methods are. -/
def isPublicApi (method : MethodSignature) : Bool :=
  method.visibility == .publicAccess && method.role == .regular

/-- The record of a method. -/
def toJson (method : MethodSignature) : Json :=
  .obj [("name", .str method.name), ("visibility", .str method.visibility.name),
    ("role", .str method.role.name)]

/-- The method that a record describes; all of its fields are required. -/
def ofJson? (value : Json) : Option MethodSignature := do
  match ← value.record? ["name", "visibility", "role"] with
  | [name, visibility, role] =>
    some {
      name := ← Json.required Json.string? name
      visibility := ← Json.required (Json.choice? Visibility.names) visibility
      role := ← Json.required (Json.choice? MethodRole.names) role }
  | _ => none

end MethodSignature

namespace ClassDefinition

/-- Whether instances can be made of the class. -/
def isLoadable (definition : ClassDefinition) : Bool := definition.kind.isLoadable

/-- The methods that the class offers to its users, in order. -/
def publicMethods (definition : ClassDefinition) : List MethodSignature :=
  definition.methods.filter MethodSignature.isPublicApi

/-- The record of a class. -/
def toJson (definition : ClassDefinition) : Json :=
  .obj [("id", .str definition.id), ("kind", .str definition.kind.name),
    ("doc_comment", Json.ofOption .str definition.docComment),
    ("methods", .arr (definition.methods.map MethodSignature.toJson))]

/-- The class that a record describes, which may leave out the documentation block. -/
def ofJson? (value : Json) : Option ClassDefinition := do
  match ← value.record? ["id", "kind", "doc_comment", "methods"] with
  | [id, kind, docComment, methods] =>
    some {
      id := ← Json.required Json.string? id
      kind := ← Json.required (Json.choice? ClassKind.names) kind
      docComment := ← Json.optional Json.string? docComment
      methods := ← Json.required (Json.list? MethodSignature.ofJson?) methods }
  | _ => none

end ClassDefinition

end ServiceWiring
