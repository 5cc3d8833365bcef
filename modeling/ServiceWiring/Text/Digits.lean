/-!
# Digits

Numerals in bases of at most sixteen. Letters stand for the digits from ten on, in
upper or lower case.
-/

namespace ServiceWiring.Text

/-- The number that a hexadecimal digit stands for. -/
def hexValue? (c : Char) : Option Nat :=
  if c.isDigit then some (c.toNat - '0'.toNat)
  else if 'a' ≤ c ∧ c ≤ 'f' then some (c.toNat - 'a'.toNat + 10)
  else if 'A' ≤ c ∧ c ≤ 'F' then some (c.toNat - 'A'.toNat + 10)
  else none

/-- The number that a digit stands for in a base. -/
def digitValue? (base : Nat) (c : Char) : Option Nat := (hexValue? c).filter (· < base)

/-- The number that some digits stand for. -/
def numeral? (base : Nat) (digits : List Char) : Option Nat :=
  digits.foldlM (fun number digit => (digitValue? base digit).map (base * number + ·)) 0

example : numeral? 16 ['f', 'F'] = some 255 := by decide +kernel
example : numeral? 8 ['7', '8'] = none := by decide +kernel

end ServiceWiring.Text
