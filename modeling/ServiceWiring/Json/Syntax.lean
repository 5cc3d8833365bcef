/-!
# Faults in JSON texts

Why a text is not JSON, and where. A fault names its cause and the place where
reading stopped; the place is reported as a line and a column. Lines count from
one and end with a line feed. The column is the number of bytes of the line, in
UTF-8, that precede the place.
-/

namespace ServiceWiring.Json

/-- The ways in which a text can fail to be JSON. -/
inductive Cause
  | endInList
  | endInObject
  | endInString
  | endInValue
  | expectedColon
  | expectedListCommaOrEnd
  | expectedObjectCommaOrEnd
  | expectedWord
  | expectedValue
  | invalidEscape
  | invalidNumber
  | numberOutOfRange
  | controlCharacter
  | keyMustBeString
  | loneSurrogate
  | trailingComma
  | trailingCharacters
  | endOfHexEscape
  | nestingTooDeep
deriving DecidableEq, Repr

/-- The wording of a cause. -/
def Cause.message : Cause → String
  | .endInList => "EOF while parsing a list"
  | .endInObject => "EOF while parsing an object"
  | .endInString => "EOF while parsing a string"
  | .endInValue => "EOF while parsing a value"
  | .expectedColon => "expected `:`"
  | .expectedListCommaOrEnd => "expected `,` or `]`"
  | .expectedObjectCommaOrEnd => "expected `,` or `\x7d`"
  | .expectedWord => "expected ident"
  | .expectedValue => "expected value"
  | .invalidEscape => "invalid escape"
  | .invalidNumber => "invalid number"
  | .numberOutOfRange => "number out of range"
  | .controlCharacter =>
    "control character (\\u0000-\\u001F) found while parsing a string"
  | .keyMustBeString => "key must be a string"
  | .loneSurrogate => "lone leading surrogate in hex escape"
  | .trailingComma => "trailing comma"
  | .trailingCharacters => "trailing characters"
  | .endOfHexEscape => "unexpected end of hex escape"
  | .nestingTooDeep => "recursion limit exceeded"

/-- A cause, the unread text, and how many bytes of that text the reported place
lies beyond its beginning. -/
structure Fault where
  cause : Cause
  rest : List Char
  beyond : Nat
deriving DecidableEq, Repr

/-- A fault at the beginning of the unread text. -/
def Fault.here (cause : Cause) (rest : List Char) : Fault := ⟨cause, rest, 0⟩

/-- A fault at the next byte of the unread text, or at its end. -/
def Fault.next (cause : Cause) (rest : List Char) : Fault :=
  ⟨cause, rest, if rest.isEmpty then 0 else 1⟩

/-- The bytes of a text in UTF-8. -/
def utf8 (text : List Char) : List UInt8 := (String.ofList text).toUTF8.toList

/-- The number of bytes of a text in UTF-8. -/
def utf8Length (text : List Char) : Nat :=
  text.foldl (fun length c => length + c.utf8Size) 0

/-- The line and the column after some bytes of a text. -/
def place (bytes : List UInt8) : Nat × Nat :=
  (1 + bytes.count 10, (bytes.reverse.takeWhile (· != 10)).length)

/-- The wording of a fault found in a text. -/
def Fault.message (text : List Char) (fault : Fault) : String :=
  let offset := utf8Length text - utf8Length fault.rest + fault.beyond
  let (line, column) := place ((utf8 text).take offset)
  fault.cause.message ++ " at line " ++ toString line ++ " column " ++ toString column

example : (Fault.next .expectedValue ['x']).message ['\n', 'é', 'x'] =
    "expected value at line 2 column 3" := by decide +kernel

end ServiceWiring.Json
