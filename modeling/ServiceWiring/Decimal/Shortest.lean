import ServiceWiring.Decimal.Binary64

/-!
# Shortest decimals

The shortest decimal of a binary64 value has the fewest significant digits among
the decimals that read back as the value, and of those with as many digits it is
the nearest. Whether a decimal reads back is decided exactly: it does when it
lies between the midpoints to the neighbouring values, a midpoint itself counting
when the significand is even.

On each decimal grid only the two points around the value need a test: if any
point of the grid reads back, one of those two does. Seventeen digits suffice for
every value.
-/

namespace ServiceWiring.Decimal

/-- Which of two equally near decimals is taken. -/
inductive Tie
  | even
  | up
deriving DecidableEq, Repr

/-- The open or closed interval of magnitudes that round to a code, in quarters
of its last bit: lower end, the value, upper end, and whether the ends belong. -/
structure RoundingInterval where
  lower : Nat
  value : Nat
  upper : Nat
  closed : Bool
  quarter : Int

/-- Below a power of two the values lie twice as dense as above it. -/
def roundingInterval (code : Nat) : RoundingInterval :=
  let (significand, exponent) := significandOf code
  let denserBelow := significand = Nat.pow 2 52 ∧ 1 < code / Nat.pow 2 52
  { lower := 4 * significand - (if denserBelow then 1 else 2)
    value := 4 * significand
    upper := 4 * significand + 2
    closed := significand % 2 = 0
    quarter := exponent - 2 }

/-- Whether `point * 10 ^ exponent` lies in the interval. -/
def RoundingInterval.contains (interval : RoundingInterval) (point : Nat) (exponent : Int) : Bool :=
  let (tens, tensBelow) := match exponent with
    | .ofNat power => (point * Nat.pow 10 power, 1)
    | .negSucc power => (point, Nat.pow 10 (power + 1))
  let (unit, unitBelow) := scaleByPowerOfTwo tensBelow 1 interval.quarter
  let position := tens * unitBelow
  if interval.closed then
    interval.lower * unit ≤ position && position ≤ interval.upper * unit
  else interval.lower * unit < position && position < interval.upper * unit

/-- The number of decimal places before the point of a positive ratio, counted
negatively for the zeros that follow the point. -/
def decimalPlaces (numerator denominator : Nat) : Int :=
  if denominator ≤ numerator then (Nat.toDigits 10 (numerator / denominator)).length
  else
    let gap := (Nat.toDigits 10 denominator).length - (Nat.toDigits 10 numerator).length
    if denominator ≤ numerator * Nat.pow 10 gap then 1 - (gap : Int) else -(gap : Int)

/-- The decimal with `count` digits nearest to the value, if it reads back. -/
def decimalOfLength (tie : Tie) (code count : Nat) : Option (Nat × Int) :=
  let interval := roundingInterval code
  let (numerator, denominator) := ratioOf code
  let exponent := decimalPlaces numerator denominator - count
  let (top, bottom) := match exponent with
    | .ofNat power => (numerator, denominator * Nat.pow 10 power)
    | .negSucc power => (numerator * Nat.pow 10 (power + 1), denominator)
  let below := top / bottom
  let rest := top % bottom
  let belowFits := interval.contains below exponent
  let aboveFits := interval.contains (below + 1) exponent
  let aboveNearer :=
    bottom < 2 * rest || (bottom == 2 * rest && (tie = .up || below % 2 = 1))
  if belowFits && aboveFits then
    some (if aboveNearer then below + 1 else below, exponent)
  else if belowFits then some (below, exponent)
  else if aboveFits then some (below + 1, exponent)
  else none

/-- A decimal without zeros at the end of its digits. -/
def dropTrailingZeros (digits : Nat) (exponent : Int) : Nat × Int :=
  if nonzero : digits = 0 then (0, exponent)
  else if digits % 10 = 0 then dropTrailingZeros (digits / 10) (exponent + 1)
  else (digits, exponent)
termination_by digits
decreasing_by omega

/-- The exact decimal expansion of a finite code. -/
def exactDecimal (code : Nat) : Nat × Int :=
  match significandOf code with
  | (significand, .ofNat power) => (significand * Nat.pow 2 power, 0)
  | (significand, .negSucc power) => (significand * Nat.pow 5 (power + 1), -(power + 1))

/-- The shortest decimal of a finite code, as digits and a power of ten. Grids of
one to seventeen digits are tried; the exact expansion stands behind them. -/
def shortestDecimal (tie : Tie) (code : Nat) : Nat × Int :=
  let found := (List.range 17).findSome? fun less => decimalOfLength tie code (less + 1)
  let (digits, exponent) := found.getD (exactDecimal code)
  dropTrailingZeros digits exponent

example : shortestDecimal .even (decimalCode 1 (-1)) = (1, -1) := by decide +kernel
example : shortestDecimal .even 1 = (5, -324) := by decide +kernel
example : shortestDecimal .even (nearestCode 4503599627370497 4) =
    (11258999068426242, -1) := by decide +kernel
example : shortestDecimal .up (nearestCode 4503599627370497 4) =
    (11258999068426243, -1) := by decide +kernel

end ServiceWiring.Decimal
