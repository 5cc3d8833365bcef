import ServiceWiring.Json.Record

/-!
# Parts of a service

The flags, tags and method calls that descriptors and directives share, and how
they are written in JSON. A tag without attributes and a call without arguments
may leave them out when they are read; both are always written.
-/

namespace ServiceWiring

/-- How the container builds and shows a service. -/
structure ServiceFlags where
  autowired : Bool
  autoconfigured : Bool
  lazy : Bool
  isPublic : Bool
  isAbstract : Bool
deriving DecidableEq, Repr

/-- The flags of a service that declares none. -/
def ServiceFlags.standard : ServiceFlags := ⟨true, true, false, false, false⟩

/-- A tag and its attributes. -/
structure Tag where
  name : String
  attributes : List (String × Json)
deriving DecidableEq, Repr

/-- A method to call on a new instance. -/
structure MethodCall where
  method : String
  arguments : List Json
deriving DecidableEq, Repr

namespace ServiceFlags

/-- The names of the flags, in their declared order. -/
def names : List String := ["autowired", "autoconfigured", "lazy", "public", "abstract"]

/-- One entry per flag, in their declared order. -/
def entries (flags : ServiceFlags) : List (String × Json) :=
  [("autowired", .bool flags.autowired), ("autoconfigured", .bool flags.autoconfigured),
    ("lazy", .bool flags.lazy), ("public", .bool flags.isPublic),
    ("abstract", .bool flags.isAbstract)]

/-- The record of some flags. -/
def toJson (flags : ServiceFlags) : Json := .obj flags.entries

/-- The flags from the values of their fields; each must be present. -/
def ofFields? : List (Option Json) → Option ServiceFlags
  | [autowired, autoconfigured, lazy, isPublic, isAbstract] => do
    some {
      autowired := ← Json.required Json.bool? autowired
      autoconfigured := ← Json.required Json.bool? autoconfigured
      lazy := ← Json.required Json.bool? lazy
      isPublic := ← Json.required Json.bool? isPublic
      isAbstract := ← Json.required Json.bool? isAbstract }
  | _ => none

/-- The flags that a record describes. -/
def ofJson? (value : Json) : Option ServiceFlags := (value.record? names).bind ofFields?

end ServiceFlags

namespace Tag

/-- The record of a tag. -/
def toJson (tag : Tag) : Json :=
  .obj [("name", .str tag.name), ("attributes", .obj tag.attributes)]

/-- The tag that a record describes, without attributes if it has none. -/
def ofJson? (value : Json) : Option Tag := do
  match ← value.record? ["name", "attributes"] with
  | [name, attributes] =>
    some {
      name := ← Json.required Json.string? name
      attributes := ← Json.defaulted [] Json.entries? attributes }
  | _ => none

end Tag

namespace MethodCall

/-- The record of a method call. -/
def toJson (call : MethodCall) : Json :=
  .obj [("method", .str call.method), ("arguments", .arr call.arguments)]

/-- The call that a record describes, without arguments if it has none. -/
def ofJson? (value : Json) : Option MethodCall := do
  match ← value.record? ["method", "arguments"] with
  | [method, arguments] =>
    some {
      method := ← Json.required Json.string? method
      arguments := ← Json.defaulted [] Json.items? arguments }
  | _ => none

end MethodCall

end ServiceWiring
