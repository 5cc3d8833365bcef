import ServiceWiring.Decimal.Written
import ServiceWiring.Json.Basic
import ServiceWiring.Json.Syntax

/-!
# Number literals

A literal without point and exponent whose digits fit a 64-bit word is an
integer. All others denote binary64 values: the leading digits that fit the word
form the significand, further digits before the point raise the power of ten, and
further digits behind it are dropped. The significand is rounded to binary64
first and then multiplied or divided by powers of ten of at most `10 ^ 308`, each
step rounded again. The result may therefore differ from the correctly rounded
one in its last bit; it is a function of the literal alone.

Negative zero, and negative integers below the 64-bit range, are binary64 values.
-/

namespace ServiceWiring.Json

open Decimal (Binary64 nearestCode infiniteCode timesCode overCode digitsValue)

/-- The value read from a text and what is left of the text, which is shorter. -/
structure Read (α : Type) (text : List Char) where
  value : α
  rest : List Char
  shorter : rest.length < text.length

/-- The greatest significand. -/
def wordLimit : Nat := Nat.pow 2 64 - 1

/-- The greatest exponent that is computed with. -/
def exponentLimit : Nat := Nat.pow 2 31 - 1

/-- The digits that extend a number without exceeding a limit: the number so
extended, and the digits from the first one that would exceed it. -/
def fitDigits (limit : Nat) : Nat → List Char → Nat × List Char
  | number, [] => (number, [])
  | number, digit :: digits =>
    let extended := 10 * number + (digit.toNat - '0'.toNat)
    if limit < extended then (number, digit :: digits)
    else fitDigits limit extended digits

/-- A magnitude divided by a power of ten, at most `10 ^ 308` at a time. -/
def descend (code power : Nat) : Nat :=
  if power ≤ 308 then overCode code (nearestCode (Nat.pow 10 power) 1)
  else if code = 0 then 0
  else descend (overCode code (nearestCode (Nat.pow 10 308) 1)) (power - 308)
termination_by power

/-- The magnitude of a significand times a power of ten, unless it is infinite. -/
def scaleSignificand (significand : Nat) (exponent : Int) : Option Nat :=
  let code := nearestCode significand 1
  match exponent with
  | .ofNat power =>
    if power ≤ 308 then
      let product := timesCode code (nearestCode (Nat.pow 10 power) 1)
      if product = infiniteCode then none else some product
    else if code = 0 then some 0
    else none
  | .negSucc power => some (descend code (power + 1))

/-- The parts of a literal after its sign. -/
structure Literal where
  significand : Nat
  /-- Digits before the point that did not fit. -/
  dropped : Nat
  /-- The digits of the fraction that did fit, if there is a point. -/
  fraction : Option Nat

/-- The value of a literal without exponent part, or none when out of range. -/
def Literal.value? (negative : Bool) (literal : Literal) : Option Json :=
  match literal.fraction with
  | some places =>
    (scaleSignificand literal.significand (literal.dropped - places)).map
      fun code => .double ⟨negative, code⟩
  | none =>
    if literal.dropped ≠ 0 then
      (scaleSignificand literal.significand literal.dropped).map
        fun code => .double ⟨negative, code⟩
    else if !negative then some (.int literal.significand)
    else if literal.significand = 0 ∨ Nat.pow 2 63 < literal.significand then
      some (.double ⟨true, nearestCode literal.significand 1⟩)
    else some (.int (-literal.significand))

/-- The end of a literal after the mark of its exponent. An exponent beyond the
limit makes a zero of zero and of every negative exponent, and a fault otherwise. -/
def readExponent (negative : Bool) (literal : Literal) (text : List Char) :
    Except Fault (Json × List Char) :=
  let (down, digitsOn) := match text with
    | '+' :: rest => (false, rest)
    | '-' :: rest => (true, rest)
    | rest => (false, rest)
  match digitsOn with
  | [] => .error (.here .endInValue [])
  | first :: _ =>
    if !first.isDigit then .error (.next .invalidNumber digitsOn)
    else
      let digits := digitsOn.takeWhile Char.isDigit
      let rest := digitsOn.dropWhile Char.isDigit
      let (exponent, excess) := fitDigits exponentLimit 0 digits
      let base : Int := literal.dropped - (literal.fraction.getD 0 : Nat)
      match excess with
      | _ :: unread =>
        if literal.significand ≠ 0 ∧ !down then
          .error (.here .numberOutOfRange (unread ++ rest))
        else .ok (.double ⟨negative, 0⟩, rest)
      | [] =>
        match scaleSignificand literal.significand
            (if down then base - exponent else base + exponent) with
        | some code => .ok (.double ⟨negative, code⟩, rest)
        | none => .error (.here .numberOutOfRange rest)

/-- The end of a literal after its digits: an exponent part, or nothing. -/
def readScale (negative : Bool) (literal : Literal) (text : List Char) :
    Except Fault (Json × List Char) :=
  match text with
  | mark :: rest =>
    if mark = 'e' ∨ mark = 'E' then readExponent negative literal rest
    else finish
  | [] => finish
where
  /-- The literal ends here. -/
  finish : Except Fault (Json × List Char) :=
    match literal.value? negative with
    | some value => .ok (value, text)
    | none => .error (.here .numberOutOfRange text)

/-- The end of a literal after the digits before its point. -/
def readFraction (negative : Bool) (significand dropped : Nat) (text : List Char) :
    Except Fault (Json × List Char) :=
  match text with
  | '.' :: afterPoint =>
    let digits := afterPoint.takeWhile Char.isDigit
    let rest := afterPoint.dropWhile Char.isDigit
    if digits.isEmpty then
      .error (.next (if afterPoint.isEmpty then .endInValue else .invalidNumber) afterPoint)
    else
      let (extended, excess) := fitDigits wordLimit significand digits
      readScale negative ⟨extended, dropped, some (digits.length - excess.length)⟩ rest
  | rest => readScale negative ⟨significand, dropped, none⟩ rest

/-- A number literal after its sign. A leading zero stands alone. -/
def readNumber (negative : Bool) (text : List Char) : Except Fault (Json × List Char) :=
  match text with
  | [] => .error (.here .endInValue [])
  | '0' :: rest =>
    match rest with
    | digit :: _ =>
      if digit.isDigit then .error (.next .invalidNumber rest)
      else readFraction negative 0 0 rest
    | [] => readFraction negative 0 0 []
  | first :: _ =>
    if !first.isDigit then .error (.next .invalidNumber text)
    else
      let digits := text.takeWhile Char.isDigit
      let (significand, excess) := fitDigits wordLimit 0 digits
      readFraction negative significand excess.length (text.dropWhile Char.isDigit)

/-- Dropping leading characters of a kind makes no text longer. -/
theorem length_dropWhile_le (kind : Char → Bool) (text : List Char) :
    (text.dropWhile kind).length ≤ text.length := by
  induction text with
  | nil => simp
  | cons c rest inductionHypothesis =>
    rw [List.dropWhile_cons]
    split
    · simp only [List.length_cons]; omega
    · simp

/-- Reading an exponent makes no text longer. -/
theorem readExponent_le {negative : Bool} {literal : Literal} {text rest : List Char}
    {value : Json} (read : readExponent negative literal text = .ok (value, rest)) :
    rest.length ≤ text.length := by
  unfold readExponent at read
  split at read
  rename_i down digitsOn signs
  have shorter : digitsOn.length ≤ text.length := by
    split at signs <;> simp only [Prod.mk.injEq] at signs <;> obtain ⟨_, rfl⟩ := signs <;> simp
  have trimmed := length_dropWhile_le Char.isDigit digitsOn
  split at read
  · simp at read
  · split at read
    · simp at read
    · dsimp only at read
      split at read
      · split at read <;> simp at read
        obtain ⟨_, rfl⟩ := read
        simpa using Nat.le_trans trimmed shorter
      · split at read <;> simp at read
        obtain ⟨_, rfl⟩ := read
        simpa using Nat.le_trans trimmed shorter

/-- Reading what follows the digits makes no text longer. -/
theorem readScale_le {negative : Bool} {literal : Literal} {text rest : List Char}
    {value : Json} (read : readScale negative literal text = .ok (value, rest)) :
    rest.length ≤ text.length := by
  unfold readScale readScale.finish at read
  split at read
  · split at read
    · have := readExponent_le read
      simp only [List.length_cons]
      omega
    · split at read <;> simp at read
      simp [read.2]
  · split at read <;> simp at read
    simp [read.2]

/-- Reading what follows the whole digits makes no text longer. -/
theorem readFraction_le {negative : Bool} {significand dropped : Nat} {text rest : List Char}
    {value : Json} (read : readFraction negative significand dropped text = .ok (value, rest)) :
    rest.length ≤ text.length := by
  unfold readFraction at read
  split at read
  · rename_i afterPoint
    dsimp only at read
    split at read
    · simp at read
    · have scaled := readScale_le read
      have trimmed := length_dropWhile_le Char.isDigit afterPoint
      simp only [List.length_cons]
      omega
  · exact readScale_le read

/-- A number literal takes at least one character. -/
theorem readNumber_lt {negative : Bool} {text rest : List Char} {value : Json}
    (read : readNumber negative text = .ok (value, rest)) : rest.length < text.length := by
  unfold readNumber at read
  split at read
  · simp at read
  · rename_i tail
    split at read
    · split at read
      · simp at read
      · have := readFraction_le read
        simp only [List.length_cons] at this ⊢
        omega
    · have := readFraction_le read
      simp only [List.length_cons]
      omega
  · rename_i first tail _
    split at read
    · simp at read
    · rename_i digit
      have fraction := readFraction_le read
      have trimmed := length_dropWhile_le Char.isDigit tail
      simp only [Bool.not_eq_true, Bool.not_eq_false'] at digit
      simp only [List.dropWhile_cons, digit, if_true] at fraction
      simp only [List.length_cons]
      omega

end ServiceWiring.Json
