import ServiceWiring.Class.Definition
import ServiceWiring.Decimal.Written
import ServiceWiring.Service.Descriptor
import ServiceWiring.Text.Quoted

/-!
# Service annotations

The payload of a service annotation is `null`, an object with some of fourteen
fields, or an array with their values in declared order from the first on. Every
field has a value of its own when it is not declared. Unknown fields are refused,
as are values of another type; the first mismatch in the order of the payload is
reported.

A tag is declared by its name alone, or by an object with the name and any
attributes beside it.
-/

namespace ServiceWiring

open Decimal (dataFormat)

/-- A declared tag. -/
inductive TagSpec
  | bare (name : String)
  | detailed (name : String) (attributes : List (String × Json))
deriving DecidableEq, Repr

/-- The tag that is declared. -/
def TagSpec.tag : TagSpec → Tag
  | .bare name => ⟨name, []⟩
  | .detailed name attributes => ⟨name, attributes⟩

/-- What a service annotation declares. -/
structure DeclaredService where
  id : Option String
  flags : ServiceFlags
  priority : Int
  environments : List String
  singleMethod : Bool
  arguments : Json
  tags : List TagSpec
  methodCalls : List MethodCall
  factory : Option Json
  decorates : Option String
deriving DecidableEq, Repr

namespace DeclaredService

/-- The annotation that declares nothing. -/
def standard : DeclaredService where
  id := none
  flags := .standard
  priority := 0
  environments := []
  singleMethod := false
  arguments := .arr []
  tags := []
  methodCalls := []
  factory := none
  decorates := none

/-- What a value was expected to be. -/
inductive Expected
  | boolean
  | string
  | int32
  | sequence
  | service
  | methodCall
deriving DecidableEq, Repr

/-- Why a payload does not describe a service. -/
inductive Mismatch
  | wrongType (found : Json) (expected : Expected)
  | outOfRange (found : Int)
  | unknownField (name : String)
  | missingMethod
  | tooLong (length : Nat)
  | emptyMethodCall
  | noTag
deriving DecidableEq, Repr

/-- The fields of a payload. -/
inductive Field
  | id
  | autowired
  | autoconfigured
  | lazy
  | isPublic
  | isAbstract
  | priority
  | environments
  | singleMethod
  | arguments
  | tags
  | methodCalls
  | factory
  | decorates
deriving DecidableEq, Repr

/-- The fields in declared order, under the names they have in payloads. -/
def Field.names : List (String × Field) :=
  [("id", .id), ("autowired", .autowired), ("autoconfigured", .autoconfigured),
    ("lazy", .lazy), ("public", .isPublic), ("abstract", .isAbstract),
    ("priority", .priority), ("envs", .environments),
    ("singleMethodConstraint", .singleMethod), ("arguments", .arguments), ("tags", .tags),
    ("methodCalls", .methodCalls), ("factory", .factory), ("decorates", .decorates)]

/-- How a message names a value that was found. -/
def describeFound : Json → String
  | .null => "null"
  | .bool value => "boolean `" ++ toString value ++ "`"
  | .int value => "integer `" ++ toString value ++ "`"
  | .double value => "floating point `" ++ value.write dataFormat ++ "`"
  | .str text => "string " ++ Text.quoted text
  | .arr _ => "sequence"
  | .obj _ => "map"

/-- How a message names what was expected. -/
def Expected.describe : Expected → String
  | .boolean => "a boolean"
  | .string => "a string"
  | .int32 => "i32"
  | .sequence => "a sequence"
  | .service => "struct ServiceAnnotation"
  | .methodCall => "struct MethodCall"

/-- The wording of a mismatch. -/
def Mismatch.message : Mismatch → String
  | .wrongType found expected =>
    "invalid type: " ++ describeFound found ++ ", expected " ++ expected.describe
  | .outOfRange found => "invalid value: integer `" ++ toString found ++ "`, expected i32"
  | .unknownField name =>
    "unknown field `" ++ name ++ "`, expected one of " ++
      String.intercalate ", " (Field.names.map fun (known, _) => "`" ++ known ++ "`")
  | .missingMethod => "missing field `method`"
  | .tooLong length =>
    "invalid length " ++ toString length ++ ", expected fewer elements in array"
  | .emptyMethodCall => "invalid length 0, expected struct MethodCall with 2 elements"
  | .noTag => "data did not match any variant of untagged enum TagSpec"

/-- The result of reading a value. -/
abbrev Reading := Except Mismatch

/-- A truth value. -/
def readBool : Json → Reading Bool
  | .bool value => .ok value
  | other => .error (.wrongType other .boolean)

/-- A string, for which nothing else is taken. -/
def readString : Json → Reading String
  | .str text => .ok text
  | other => .error (.wrongType other .string)

/-- A string, or `null` for none. -/
def readOptionalString : Json → Reading (Option String)
  | .null => .ok none
  | other => (readString other).map some

/-- A signed 32-bit integer. -/
def readPriority : Json → Reading Int
  | .int value => if Json.isInt32 value then .ok value else .error (.outOfRange value)
  | other => .error (.wrongType other .int32)

/-- The items of a sequence, each read the same way. -/
def readSequence {α : Type} (read : Json → Reading α) : Json → Reading (List α)
  | .arr items => items.mapM read
  | other => .error (.wrongType other .sequence)

/-- The entries of an object without those under a key. -/
def withoutKey (key : String) (entries : List (String × Json)) : List (String × Json) :=
  entries.filter fun (candidate, _) => candidate ≠ key

/-- A tag: its name, or an object with its name and its attributes. -/
def readTag : Json → Reading TagSpec
  | .str name => .ok (.bare name)
  | .obj entries =>
    match Keyed.get? "name" entries with
    | some (.str name) => .ok (.detailed name (withoutKey "name" entries))
    | _ => .error .noTag
  | _ => .error .noTag

/-- The entries of a method call in the order in which they are given. -/
def readMethodEntries (method : Option String) (arguments : List Json) :
    List (String × Json) → Reading MethodCall
  | [] =>
    match method with
    | some method => .ok ⟨method, arguments⟩
    | none => .error .missingMethod
  | (key, value) :: entries => do
    if key = "method" then readMethodEntries (some (← readString value)) arguments entries
    else if key = "arguments" then
      readMethodEntries method (← readSequence .ok value) entries
    else readMethodEntries method arguments entries

/-- A method call: an object, or an array of the method and perhaps its arguments. -/
def readMethodCall : Json → Reading MethodCall
  | .obj entries => readMethodEntries none [] entries
  | .arr [] => .error .emptyMethodCall
  | .arr [method] => do .ok ⟨← readString method, []⟩
  | .arr [method, arguments] => do .ok ⟨← readString method, ← readSequence .ok arguments⟩
  | .arr (method :: arguments :: further) => do
    let _ ← readString method
    let _ ← readSequence .ok arguments
    .error (.tooLong (further.length + 2))
  | other => .error (.wrongType other .methodCall)

/-- The declaration with one field replaced by what a value declares. -/
def setField (declared : DeclaredService) (field : Field) (value : Json) :
    Reading DeclaredService :=
  let setFlag (set : ServiceFlags → Bool → ServiceFlags) : Reading DeclaredService :=
    (readBool value).map fun flag => { declared with flags := set declared.flags flag }
  match field with
  | .id => (readOptionalString value).map ({ declared with id := · })
  | .autowired => setFlag fun flags flag => { flags with autowired := flag }
  | .autoconfigured => setFlag fun flags flag => { flags with autoconfigured := flag }
  | .lazy => setFlag fun flags flag => { flags with lazy := flag }
  | .isPublic => setFlag fun flags flag => { flags with isPublic := flag }
  | .isAbstract => setFlag fun flags flag => { flags with isAbstract := flag }
  | .priority => (readPriority value).map ({ declared with priority := · })
  | .environments =>
    (readSequence readString value).map ({ declared with environments := · })
  | .singleMethod => (readBool value).map ({ declared with singleMethod := · })
  | .arguments => .ok { declared with arguments := value }
  | .tags => (readSequence readTag value).map ({ declared with tags := · })
  | .methodCalls =>
    (readSequence readMethodCall value).map ({ declared with methodCalls := · })
  | .factory =>
    .ok { declared with factory := if value = .null then none else some value }
  | .decorates => (readOptionalString value).map ({ declared with decorates := · })

/-- The declaration with the entries of an object set, one after the other. -/
def setEntries (declared : DeclaredService) :
    List (String × Json) → Reading DeclaredService
  | [] => .ok declared
  | (key, value) :: entries =>
    match Keyed.get? key Field.names with
    | none => .error (.unknownField key)
    | some field => do setEntries (← declared.setField field value) entries

/-- The declaration with the items of an array set, in the order of some fields. -/
def setItems (declared : DeclaredService) (length : Nat) :
    List Field → List Json → Reading DeclaredService
  | _, [] => .ok declared
  | [], _ :: _ => .error (.tooLong length)
  | field :: fields, value :: values => do
    setItems (← declared.setField field value) length fields values

/-- The annotation that a payload declares. -/
def ofPayload : Json → Reading DeclaredService
  | .null => .ok standard
  | .obj entries => standard.setEntries entries
  | .arr items => standard.setItems items.length (Field.names.map Prod.snd) items
  | other => .error (.wrongType other .service)

/-- The descriptor of a class with this annotation, its arguments not resolved. -/
def descriptor (declared : DeclaredService) (classId : ClassIdentifier) :
    ServiceDescriptor where
  classId
  id := declared.id
  flags := declared.flags
  priority := declared.priority
  environments := ServiceDescriptor.nameSet declared.environments
  singleMethod := declared.singleMethod
  arguments := .ofJson declared.arguments
  tags := declared.tags.map TagSpec.tag
  methodCalls := declared.methodCalls
  factory := declared.factory.map .ofJson
  decorates := declared.decorates

end DeclaredService

end ServiceWiring
