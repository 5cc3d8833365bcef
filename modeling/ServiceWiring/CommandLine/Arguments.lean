import ServiceWiring.Config.Basic

/-!
# Command line arguments

The options of the command line. An option that takes a value has it behind an equals
sign, directly behind its letter, or in the next argument, which must not begin with a
hyphen unless it is one. Letters may share a hyphen, of which only the last may take a
value. Modules may be given several times and all other options once. There are no
arguments other than options; two hyphens may end them.
-/

namespace ServiceWiring.CommandLine

open Text (cutAt stripPrefix?)

/-- How the directives are shown. -/
inductive Format
  | json
  | summary
deriving DecidableEq, Repr

/-- What a command line asks for. -/
structure Invocation where
  config : Option String
  environment : Option String
  modules : List Module
  output : Option String
  format : Option Format
  verbose : Bool
deriving DecidableEq, Repr

/-- Why a command line asks for nothing. -/
inductive Refused
  /-- It is not well formed. -/
  | usage
  /-- It asks for help. -/
  | help
deriving DecidableEq, Repr

/-- The options. -/
inductive Flag
  | config
  | environment
  | module
  | output
  | format
  | verbose
  | help
deriving DecidableEq, Repr

/-- The names of the options. -/
def Flag.names : List (List Char × Flag) :=
  [("config".toList, .config), ("env".toList, .environment), ("module".toList, .module),
    ("output".toList, .output), ("format".toList, .format), ("verbose".toList, .verbose),
    ("help".toList, .help)]

/-- The letters of the options. -/
def Flag.letters : List (Char × Flag) :=
  [('c', .config), ('e', .environment), ('m', .module), ('o', .output), ('f', .format),
    ('v', .verbose), ('h', .help)]

/-- Whether an option takes a value. -/
def Flag.takesValue : Flag → Bool
  | .verbose | .help => false
  | _ => true

namespace Invocation

/-- An invocation without options. -/
def empty : Invocation := ⟨none, none, [], none, none, false⟩

/-- The module that a value names: a path, an equals sign and a namespace. -/
def module? (value : String) : Option Module :=
  match cutAt '=' value.toList with
  | none | some ([], _) => none
  | some (path, namespacePrefix) => some ⟨String.ofList path, String.ofList namespacePrefix⟩

/-- The format that a value names. -/
def format? (value : String) : Option Format :=
  if value = "json" then some .json
  else if value = "summary" then some .summary
  else none

/-- A value for something that has none yet. -/
def once {α : Type} (present : Option α) (value : Option α) : Except Refused (Option α) :=
  match present, value with
  | none, some value => .ok (some value)
  | _, _ => .error .usage

/-- A path, which must not be empty. -/
def path? (value : String) : Option String := if value.isEmpty then none else some value

/-- Takes up an option without value. -/
def mark (flag : Flag) (invocation : Invocation) : Except Refused Invocation :=
  match flag with
  | .help => .error .help
  | .verbose => if invocation.verbose then .error .usage else .ok { invocation with verbose := true }
  | _ => .error .usage

/-- Takes up an option with its value. -/
def give (flag : Flag) (value : String) (invocation : Invocation) :
    Except Refused Invocation := do
  match flag with
  | .config => return { invocation with config := ← once invocation.config (path? value) }
  | .environment => return { invocation with environment := ← once invocation.environment value }
  | .output => return { invocation with output := ← once invocation.output (path? value) }
  | .format => return { invocation with format := ← once invocation.format (format? value) }
  | .module =>
    match module? value with
    | some module => return { invocation with modules := invocation.modules ++ [module] }
    | none => throw .usage
  | .verbose | .help => throw .usage

end Invocation

/-- An argument that stands alone, or an option that needs the next one as its value. -/
inductive Progress
  | complete (invocation : Invocation)
  | awaiting (flag : Flag) (invocation : Invocation)

/-- Takes up the letters behind a hyphen. -/
def readLetters (invocation : Invocation) : List Char → Except Refused Progress
  | [] => .ok (.complete invocation)
  | letter :: rest =>
    match Keyed.get? letter Flag.letters with
    | none => .error .usage
    | some flag =>
      if flag.takesValue then
        if rest.isEmpty then .ok (.awaiting flag invocation)
        else
          let value := (stripPrefix? ['='] rest).getD rest
          (invocation.give flag (String.ofList value)).map .complete
      else
        match invocation.mark flag with
        | .error refused => .error refused
        | .ok invocation => readLetters invocation rest

/-- Takes up the name behind two hyphens, with its value if it has one. -/
def readName (invocation : Invocation) (text : List Char) : Except Refused Progress :=
  let (name, value) := match cutAt '=' text with
    | some (name, value) => (name, some (String.ofList value))
    | none => (text, none)
  match Keyed.get? name Flag.names, value with
  | none, _ => .error .usage
  | some flag, some value => (invocation.give flag value).map .complete
  | some flag, none =>
    if flag.takesValue then .ok (.awaiting flag invocation)
    else (invocation.mark flag).map .complete

/-- Takes up an argument that begins with a hyphen. -/
def readOption (invocation : Invocation) (argument : List Char) : Except Refused Progress :=
  match argument with
  | '-' :: '-' :: name => readName invocation name
  | '-' :: letter :: letters => readLetters invocation (letter :: letters)
  | _ => .error .usage

/-- Whether an argument can be the value of the option before it. -/
def isValue (argument : List Char) : Bool :=
  argument.head? != some '-' || argument == ['-']

/-- Takes up arguments; `awaiting` is the option that the first of them is to be the
value of. -/
def readAll (awaiting : Option Flag) (invocation : Invocation) :
    List String → Except Refused Invocation
  | [] => if awaiting.isSome then .error .usage else .ok invocation
  | argument :: arguments =>
    match awaiting with
    | some flag =>
      if isValue argument.toList then do
        readAll none (← invocation.give flag argument) arguments
      else .error .usage
    | none =>
      if argument = "--" then if arguments.isEmpty then .ok invocation else .error .usage
      else do
        match ← readOption invocation argument.toList with
        | .complete invocation => readAll none invocation arguments
        | .awaiting flag invocation => readAll (some flag) invocation arguments

/-- What the arguments of a command line ask for. -/
def Invocation.ofArguments (arguments : List String) : Except Refused Invocation :=
  readAll none .empty arguments

end ServiceWiring.CommandLine
