/-!
# Binary64 values

The non-integer numbers of the library are IEEE 754 binary64 values. A value is
a sign and a magnitude code: the eleven exponent bits followed by the fifty-two
fraction bits, read as one natural number. Codes are ordered as the magnitudes
they denote, the code after the largest finite one is infinity, and all codes
above it are the values that are not numbers.

Rounding a ratio goes to the nearest value and, at equal distance, to the even
code. Products and quotients are formed exactly and rounded once. All arithmetic
is on natural numbers; no machine floating point is involved.
-/

namespace ServiceWiring.Decimal

/-- A binary64 value: its sign, and its exponent and fraction bits as a number. -/
structure Binary64 where
  negative : Bool
  code : Nat
deriving DecidableEq, Repr

/-- The code of infinity; every smaller code is finite. -/
def infiniteCode : Nat := 0x7FF * Nat.pow 2 52

/-- The code of a value that is not a number. -/
def undefinedCode : Nat := infiniteCode + Nat.pow 2 51

/-- The quotient rounded to the nearest natural number, ties to the even one. -/
def roundHalfEven (numerator denominator : Nat) : Nat :=
  let whole := numerator / denominator
  let twice := 2 * (numerator % denominator)
  if twice < denominator then whole
  else if denominator < twice then whole + 1
  else whole + whole % 2

/-- A ratio times a power of two, as a ratio of natural numbers. -/
def scaleByPowerOfTwo (numerator denominator : Nat) (exponent : Int) : Nat × Nat :=
  match exponent with
  | .ofNat shift => (numerator * Nat.pow 2 shift, denominator)
  | .negSucc shift => (numerator, denominator * Nat.pow 2 (shift + 1))

/-- The exponent of the last fraction bit of values in the binade of a ratio.
The estimate from the two bit lengths is one too high when the scaled ratio
stays below `2 ^ 52`; subnormal values share the least exponent. -/
def lastBitExponent (numerator denominator : Nat) : Int :=
  let estimate : Int := (numerator.log2 : Int) - denominator.log2 - 52
  let scaled := scaleByPowerOfTwo numerator denominator (-estimate)
  let exponent := if scaled.1 < scaled.2 * Nat.pow 2 52 then estimate - 1 else estimate
  max exponent (-1074)

/-- The magnitude code of the value nearest to a ratio. A significand that
rounds up to the next power of two carries into the exponent bits. -/
def nearestCode (numerator denominator : Nat) : Nat :=
  if numerator = 0 then 0
  else
    let exponent := lastBitExponent numerator denominator
    let scaled := scaleByPowerOfTwo numerator denominator (-exponent)
    let significand := roundHalfEven scaled.1 scaled.2
    min infiniteCode ((exponent + 1074).toNat * Nat.pow 2 52 + significand)

/-- The significand and the exponent of its last bit, for a finite code. -/
def significandOf (code : Nat) : Nat × Int :=
  if code / Nat.pow 2 52 = 0 then (code, -1074)
  else (Nat.pow 2 52 + code % Nat.pow 2 52, (code / Nat.pow 2 52 : Nat) - 1075)

/-- The exact magnitude of a finite code, as a ratio. -/
def ratioOf (code : Nat) : Nat × Nat :=
  scaleByPowerOfTwo (significandOf code).1 1 (significandOf code).2

/-- The code nearest to the product of two finite magnitudes. -/
def timesCode (left right : Nat) : Nat :=
  nearestCode ((ratioOf left).1 * (ratioOf right).1) ((ratioOf left).2 * (ratioOf right).2)

/-- The code nearest to the quotient of two finite magnitudes. -/
def overCode (left right : Nat) : Nat :=
  nearestCode ((ratioOf left).1 * (ratioOf right).2) ((ratioOf left).2 * (ratioOf right).1)

/-- The code nearest to `digits * 10 ^ exponent`. Exponents so far out that the
result is certainly infinite or zero are decided without forming the power. -/
def decimalCode (digits : Nat) (exponent : Int) : Nat :=
  if digits = 0 then 0
  else
    let leading := exponent + (Nat.toDigits 10 digits).length
    if 310 < leading then infiniteCode
    else if leading < -330 then 0
    else
      match exponent with
      | .ofNat power => nearestCode (digits * Nat.pow 10 power) 1
      | .negSucc power => nearestCode digits (Nat.pow 10 (power + 1))

namespace Binary64

/-- The value of a natural number. -/
def ofNat (n : Nat) : Binary64 := ⟨false, nearestCode n 1⟩

/-- Whether a value is one of the two zeros. -/
def isZero (value : Binary64) : Bool := value.code == 0

end Binary64

example : nearestCode 1 1 = 1023 * Nat.pow 2 52 := by decide +kernel
example : nearestCode (Nat.pow 2 53 + 1) 1 = nearestCode (Nat.pow 2 53) 1 := by decide +kernel
example : decimalCode 5 (-324) = 1 := by decide +kernel
example : decimalCode 17976931348623157 292 = infiniteCode - 1 := by decide +kernel
example : decimalCode 18 307 = infiniteCode := by decide +kernel

end ServiceWiring.Decimal
