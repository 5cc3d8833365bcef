import ServiceWiring.Text.Digits
import ServiceWiring.Text.Split

/-!
# Logging presets

What a discovery tells about itself while it runs, and how much. There are two
presets, for development and for production, and settings that apply when none is
chosen. Messages themselves are not modelled: the library only says which settings
are in force and whether they can be installed, which happens once per process.
-/

namespace ServiceWiring

/-- How important a message must be to be shown, from the most important on. -/
inductive LogLevel
  | error
  | warn
  | info
  | debug
  | trace
deriving DecidableEq, Repr

/-- What a message shows. -/
structure LogSettings where
  level : LogLevel
  showTarget : Bool
  showThreadIds : Bool
  showFile : Bool
  showLineNumber : Bool
  jsonFormat : Bool
deriving DecidableEq, Repr

/-- The name of a level. -/
def LogLevel.name : LogLevel → String
  | error => "ERROR"
  | warn => "WARN"
  | info => "INFO"
  | debug => "DEBUG"
  | trace => "TRACE"

/-- The levels in their order. -/
def LogLevel.all : List LogLevel := [error, warn, info, debug, trace]

/-- The number that a text denotes, a plus sign being allowed. -/
def LogLevel.number? (text : List Char) : Option Nat :=
  let digits := (Text.stripPrefix? ['+'] text).getD text
  if digits.isEmpty then none else Text.numeral? 10 digits

/-- The level with a name, in upper or lower case, or with a number from one on. -/
def LogLevel.ofName? (name : String) : Option LogLevel :=
  match LogLevel.number? name.toList with
  | some 0 => none
  | some (place + 1) => all[place]?
  | none => all.find? fun level => level.name.toList == name.toList.map Char.toUpper

namespace LogSettings

/-- The settings when none are chosen. -/
def standard : LogSettings := ⟨.info, true, false, false, false, false⟩

/-- Everything that helps to find a mistake. -/
def development : LogSettings := ⟨.debug, true, true, true, true, false⟩

/-- Little, and in a form for machines. -/
def production : LogSettings := ⟨.info, false, false, false, false, true⟩

/-- The preset with a name. -/
def preset? : String → Option LogSettings
  | "development" => some development
  | "production" => some production
  | "default" => some standard
  | _ => none

/-- The settings with another level. -/
def withLevel (level : LogLevel) (settings : LogSettings) : LogSettings := { settings with level }

/-- Installing settings succeeds where none are installed yet. -/
def install (installed : Option LogSettings) (settings : LogSettings) : Bool × LogSettings :=
  match installed with
  | none => (true, settings)
  | some present => (false, present)

end LogSettings

end ServiceWiring
