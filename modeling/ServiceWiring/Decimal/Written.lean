import ServiceWiring.Decimal.Shortest

/-!
# Written numbers

How a binary64 value is written once its shortest decimal is known, and how a
decimal literal is read. Writing is governed by one record per format; both
formats used in this library write the digits of the shortest decimal and differ
in where positional notation ends, whether a whole number keeps a `.0`, and how a
tie between two equally near decimals is decided.

Reading takes an optional sign and either digits with an optional point and an
optional exponent, or one of the words for infinity and for a value that is not a
number, in any mixture of cases. At least one digit is required.
-/

namespace ServiceWiring.Decimal

/-- The choices by which one written form of numbers differs from another. -/
structure NumberFormat where
  /-- The least and greatest number of places before the point, with leading zeros
  after the point counted negatively, that are written without an exponent. -/
  positional : Option (Int × Int)
  /-- Whole numbers written without an exponent end in `.0`. -/
  keepsPoint : Bool
  tie : Tie

/-- Data files: an exponent from `1e16` on and below `1e-5`, and `1.0` for one. -/
def dataFormat : NumberFormat := ⟨some (-4, 16), true, .even⟩

/-- Plain text: never an exponent, and `1` for one. -/
def plainFormat : NumberFormat := ⟨none, false, .up⟩

/-- Digits with a point after the given number of places, filled up with zeros. -/
def placePoint (digits : List Char) (places : Int) (keepsPoint : Bool) : List Char :=
  if places ≤ 0 then
    ['0', '.'] ++ List.replicate (-places).toNat '0' ++ digits
  else if digits.length ≤ places.toNat then
    digits ++ List.replicate (places.toNat - digits.length) '0' ++
      (if keepsPoint then ['.', '0'] else [])
  else digits.take places.toNat ++ '.' :: digits.drop places.toNat

/-- Digits in scientific notation, the point after the first digit. -/
def scientific (digits : List Char) (places : Int) : List Char :=
  let mantissa := match digits with
    | first :: second :: more => first :: '.' :: second :: more
    | few => few
  mantissa ++ 'e' :: (toString (places - 1)).toList

/-- The written form of a magnitude. -/
def writeMagnitude (format : NumberFormat) (code : Nat) : List Char :=
  if code = 0 then placePoint ['0'] 1 format.keepsPoint
  else if code = infiniteCode then ['i', 'n', 'f']
  else
    let (digits, exponent) := shortestDecimal format.tie code
    let text := Nat.toDigits 10 digits
    let places := exponent + text.length
    match format.positional with
    | none => placePoint text places format.keepsPoint
    | some (least, greatest) =>
      if least ≤ places ∧ places ≤ greatest then placePoint text places format.keepsPoint
      else scientific text places

/-- The written form of a value. The sign of zero is kept. -/
def Binary64.write (format : NumberFormat) (value : Binary64) : String :=
  if infiniteCode < value.code then "NaN"
  else String.ofList
    ((if value.negative then ['-'] else []) ++ writeMagnitude format value.code)

/-- The value of a list of digits read after those of `start`. -/
def digitsValue (start : Nat) (digits : List Char) : Nat :=
  digits.foldl (fun value digit => 10 * value + (digit.toNat - '0'.toNat)) start

/-- An exponent with an optional sign, which must have a digit. -/
def readExponent? (text : List Char) : Option Int :=
  let (negative, digits) := match text with
    | '-' :: rest => (true, rest)
    | '+' :: rest => (false, rest)
    | rest => (false, rest)
  if digits.isEmpty || !digits.all Char.isDigit then none
  else some (if negative then -(digitsValue 0 digits : Int) else digitsValue 0 digits)

/-- The magnitude code of an unsigned decimal literal. -/
def readMagnitude? (text : List Char) : Option Nat :=
  let word := text.map Char.toLower
  if word = ['i', 'n', 'f'] ∨ word = ['i', 'n', 'f', 'i', 'n', 'i', 't', 'y'] then
    some infiniteCode
  else if word = ['n', 'a', 'n'] then some undefinedCode
  else
    let whole := text.takeWhile Char.isDigit
    let afterWhole := text.dropWhile Char.isDigit
    let (fraction, tail) := match afterWhole with
      | '.' :: rest => (rest.takeWhile Char.isDigit, rest.dropWhile Char.isDigit)
      | rest => ([], rest)
    if whole.isEmpty && fraction.isEmpty then none
    else
      let digits := digitsValue (digitsValue 0 whole) fraction
      match tail with
      | [] => some (decimalCode digits (-(fraction.length : Int)))
      | mark :: exponent =>
        if mark = 'e' ∨ mark = 'E' then
          (readExponent? exponent).map fun power =>
            decimalCode digits (power - fraction.length)
        else none

/-- The value of a decimal literal, rounded once. -/
def Binary64.read? (text : List Char) : Option Binary64 :=
  match text with
  | '-' :: rest => (readMagnitude? rest).map (⟨true, ·⟩)
  | '+' :: rest => (readMagnitude? rest).map (⟨false, ·⟩)
  | rest => (readMagnitude? rest).map (⟨false, ·⟩)

example : (Binary64.read? "1e16".toList).map (·.write dataFormat) = some "1e16" := by decide +kernel
example : (Binary64.read? "-12.50".toList).map (·.write dataFormat) = some "-12.5" := by
  decide +kernel
example : (Binary64.read? "100000".toList).map (·.write dataFormat) = some "100000.0" := by
  decide +kernel
example : (Binary64.read? "1e-7".toList).map (·.write plainFormat) = some "0.0000001" := by
  decide +kernel

end ServiceWiring.Decimal
