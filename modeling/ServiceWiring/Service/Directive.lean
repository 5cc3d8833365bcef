import ServiceWiring.Argument.Written
import ServiceWiring.Service.Descriptor

/-!
# Construction directives

A directive is the record that a container receives for one service. It has the
identifier under which the service is registered and no trace of priority or
environments, which have done their work when directives are made.

In JSON the flags stand beside the other entries, and a missing factory or
decorated service has no entry at all. Reading takes objects only, with entries
in any order and unknown ones ignored; `null` counts as missing for those two.
-/

namespace ServiceWiring

/-- What a container needs in order to construct one service. -/
structure ConstructionDirective where
  id : String
  classId : ClassIdentifier
  flags : ServiceFlags
  arguments : ArgumentTree
  tags : List Tag
  methodCalls : List MethodCall
  factory : Option ArgumentTree
  decorates : Option String
deriving DecidableEq, Repr

namespace ConstructionDirective

/-- The directive of a descriptor. -/
def ofDescriptor (descriptor : ServiceDescriptor) : ConstructionDirective where
  id := descriptor.registrationId
  classId := descriptor.classId
  flags := descriptor.flags
  arguments := descriptor.arguments
  tags := descriptor.tags
  methodCalls := descriptor.methodCalls
  factory := descriptor.factory
  decorates := descriptor.decorates

/-- An entry that is left out when there is no value. -/
def optionalEntry {α : Type} (name : String) (write : α → Json) : Option α → List (String × Json)
  | none => []
  | some value => [(name, write value)]

/-- The record of a directive, in which its flags stand next to the other fields. -/
def toJson (directive : ConstructionDirective) : Json :=
  .obj ([("id", .str directive.id), ("class", .str directive.classId)] ++
    directive.flags.entries ++
    [("arguments", directive.arguments.toJson),
      ("tags", .arr (directive.tags.map Tag.toJson)),
      ("method_calls", .arr (directive.methodCalls.map MethodCall.toJson))] ++
    optionalEntry "factory" ArgumentTree.toJson directive.factory ++
    optionalEntry "decorates" .str directive.decorates)

/-- The directive that a record describes, which must be an object. -/
def ofJson? : Json → Option ConstructionDirective
  | .obj entries => do
    let field := fun name => Keyed.get? name entries
    some {
      id := ← Json.required Json.string? (field "id")
      classId := ← Json.required Json.string? (field "class")
      flags := ← ServiceFlags.ofFields? (ServiceFlags.names.map field)
      arguments := ← Json.required ArgumentTree.ofJson? (field "arguments")
      tags := ← Json.required (Json.list? Tag.ofJson?) (field "tags")
      methodCalls := ← Json.required (Json.list? MethodCall.ofJson?) (field "method_calls")
      factory := ← Json.optional ArgumentTree.ofJson? (field "factory")
      decorates := ← Json.optional Json.string? (field "decorates") }
  | _ => none

end ConstructionDirective

end ServiceWiring
