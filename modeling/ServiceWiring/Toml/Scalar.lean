import ServiceWiring.Decimal.Written
import ServiceWiring.Json.Basic
import ServiceWiring.Text.Digits
import ServiceWiring.Toml.Syntax

/-!
# Plain values of TOML

Truth values, numbers, dates and times. Underscores may stand between the digits of
numbers. Integers are signed 64-bit words in base ten, or unsigned ones of at most
sixty-three bits in base sixteen, eight or two. Other numbers are binary64 values,
infinity and undefined values among them; a number that is too great is refused.

Dates and times become texts: date, `T`, time and offset, as far as they are there.
A second may be the sixtieth. Of a fraction nine digits count, and zeros at its end
are left out.
-/

namespace ServiceWiring.Toml

open Decimal (Binary64 infiniteCode digitsValue)
open Text (digitValue? numeral?)

/-- The characters of plain values. -/
def isTokenChar (c : Char) : Bool :=
  c.isAlphanum || c == '+' || c == '-' || c == '.' || c == '_' || c == ':'

/-- Digits without the underscores between them. There must be a digit at both ends and
on both sides of each underscore. -/
def plainDigits? (base : Nat) : List Char → Option (List Char)
  | [] => none
  | [c] => if (digitValue? base c).isSome then some [c] else none
  | c :: '_' :: rest =>
    if (digitValue? base c).isSome then (plainDigits? base rest).map (c :: ·) else none
  | c :: rest =>
    if (digitValue? base c).isSome then (plainDigits? base rest).map (c :: ·) else none

/-- Decimal digits without underscores and without a zero before others. -/
def decimalDigits? (text : List Char) : Option (List Char) :=
  (plainDigits? 10 text).filter fun digits => digits.length == 1 || digits.head? != some '0'

/-- A number that is a signed 64-bit word. -/
def word? (value : Int) : Option Json :=
  if -0x8000000000000000 ≤ value ∧ value < 0x8000000000000000 then some (.int value) else none

/-- The value of digits in a base. -/
def inBase? (base : Nat) (text : List Char) : Option Json := do
  word? (← numeral? base (← plainDigits? base text))

/-- The value of an integer. -/
def integer? : List Char → Option Json
  | '0' :: 'x' :: digits => inBase? 16 digits
  | '0' :: 'o' :: digits => inBase? 8 digits
  | '0' :: 'b' :: digits => inBase? 2 digits
  | '-' :: digits => do word? (-digitsValue 0 (← decimalDigits? digits))
  | '+' :: digits => do word? (digitsValue 0 (← decimalDigits? digits))
  | digits => do word? (digitsValue 0 (← decimalDigits? digits))

/-- The digits of an exponent, its sign included. -/
def exponent? : List Char → Option (List Char)
  | '-' :: digits => (plainDigits? 10 digits).map ('-' :: ·)
  | '+' :: digits => plainDigits? 10 digits
  | digits => plainDigits? 10 digits

/-- A number with a fraction, an exponent or both, without its underscores. -/
def decimalLiteral? (text : List Char) : Option (List Char) := do
  let inNumber := fun c : Char => c.isDigit || c == '_'
  let whole ← decimalDigits? (text.takeWhile inNumber)
  match text.dropWhile inNumber with
  | '.' :: rest =>
    let fraction ← plainDigits? 10 (rest.takeWhile inNumber)
    match rest.dropWhile inNumber with
    | [] => some (whole ++ '.' :: fraction)
    | mark :: power =>
      if mark = 'e' ∨ mark = 'E' then
        some (whole ++ '.' :: fraction ++ 'e' :: (← exponent? power))
      else none
  | mark :: power =>
    if mark = 'e' ∨ mark = 'E' then some (whole ++ 'e' :: (← exponent? power)) else none
  | [] => none

/-- The value of a number that is not an integer, without its sign. -/
def magnitude? (text : List Char) : Option Binary64 :=
  if text = ['i', 'n', 'f'] ∨ text = ['n', 'a', 'n'] then Binary64.read? text
  else do Binary64.read? (← decimalLiteral? text)

/-- The value of a number that is not an integer. Infinity has to be called by its name
where it is not negative. -/
def float? : List Char → Option Json
  | '-' :: text => (magnitude? text).map fun value => .double { value with negative := true }
  | '+' :: text => positive text
  | text => positive text
where
  /-- A number without a sign or with a plus sign. -/
  positive (text : List Char) : Option Json := do
    let value ← magnitude? text
    if value.code = infiniteCode ∧ text ≠ ['i', 'n', 'f'] then none else some (.double value)

/-- Two digits for a number that is no greater than a limit, and what follows them. -/
def twoDigits? (limit : Nat) : List Char → Option (List Char × List Char)
  | a :: b :: rest =>
    if a.isDigit && b.isDigit && digitsValue 0 [a, b] ≤ limit then some ([a, b], rest) else none
  | _ => none

/-- What follows a mark. -/
def behind? (mark : Char) : List Char → Option (List Char)
  | c :: rest => if c = mark then some rest else none
  | [] => none

/-- Whether a year has a twenty-ninth of February. -/
def isLeapYear (year : Nat) : Bool := year % 4 == 0 && (year % 100 != 0 || year % 400 == 0)

/-- The number of days of a month. -/
def daysIn (year month : Nat) : Nat :=
  if month = 2 then if isLeapYear year then 29 else 28
  else if month = 4 ∨ month = 6 ∨ month = 9 ∨ month = 11 then 30
  else 31

/-- A date at the beginning of a text, and what follows it. -/
def date? (text : List Char) : Option (List Char × List Char) := do
  let year := text.take 4
  if year.length ≠ 4 ∨ !year.all Char.isDigit then none
  let (month, rest) ← twoDigits? 12 (← behind? '-' (text.drop 4))
  let (day, rest) ← twoDigits? 31 (← behind? '-' rest)
  let number := digitsValue 0
  if number month = 0 ∨ number day = 0 ∨ daysIn (number year) (number month) < number day then none
  else some (year ++ '-' :: month ++ '-' :: day, rest)

/-- The fraction of a second at the beginning of a text, as it is kept. -/
def secondFraction? : List Char → Option (List Char × List Char)
  | '.' :: rest =>
    let digits := rest.takeWhile Char.isDigit
    let kept := ((digits.take 9).reverse.dropWhile (· == '0')).reverse
    if digits.isEmpty then none
    else some (if kept.isEmpty then [] else '.' :: kept, rest.dropWhile Char.isDigit)
  | rest => some ([], rest)

/-- A time at the beginning of a text, and what follows it. -/
def time? (text : List Char) : Option (List Char × List Char) := do
  let (hour, rest) ← twoDigits? 23 text
  let (minute, rest) ← twoDigits? 59 (← behind? ':' rest)
  let (second, rest) ← twoDigits? 60 (← behind? ':' rest)
  let (fraction, rest) ← secondFraction? rest
  some (hour ++ ':' :: minute ++ ':' :: second ++ fraction, rest)

/-- The difference of a time from universal time, if there is one; nothing may follow.
No difference is a positive one. -/
def offset? : List Char → Option (List Char)
  | [] => some []
  | ['Z'] | ['z'] => some ['Z']
  | sign :: rest => do
    let (hour, rest) ← twoDigits? 23 rest
    let (minute, rest) ← twoDigits? 59 (← behind? ':' rest)
    let zero := digitsValue 0 (hour ++ minute) == 0
    if !rest.isEmpty ∨ (sign ≠ '+' ∧ sign ≠ '-') then none
    else some ((if zero then '+' else sign) :: hour ++ ':' :: minute)

/-- A time with its offset; nothing may follow. -/
def offsetTime? (text : List Char) : Option (List Char) := do
  let (time, rest) ← time? text
  return time ++ (← offset? rest)

/-- A date, a time or both; nothing may follow. -/
def moment? (text : List Char) : Option (List Char) :=
  match date? text with
  | some (date, []) => some date
  | some (date, mark :: rest) =>
    if mark = 'T' ∨ mark = 't' then (offsetTime? rest).map fun time => date ++ 'T' :: time
    else none
  | none =>
    match time? text with
    | some (time, []) => some time
    | _ => none

/-- The value of a token. -/
def token? (token : List Char) : Option Json :=
  if token = ['t', 'r', 'u', 'e'] then some (.bool true)
  else if token = ['f', 'a', 'l', 's', 'e'] then some (.bool false)
  else
    match moment? token with
    | some moment => some (.str (String.ofList moment))
    | none => (float? token).or (integer? token)

/-- The plain value at the beginning of a text, and what follows it. A space may stand
between a date and a time. -/
def readPlain? (text : List Char) : Option (Json × List Char) :=
  let token := text.takeWhile isTokenChar
  let rest := text.dropWhile isTokenChar
  match date? token, rest with
  | some (date, []), ' ' :: next =>
    let time := next.takeWhile isTokenChar
    if time.isEmpty then some (.str (String.ofList date), rest)
    else (offsetTime? time).map fun time =>
      (.str (String.ofList (date ++ 'T' :: time)), next.dropWhile isTokenChar)
  | _, _ => (token? token).map fun value => (value, rest)

example : (token? "1_0e-0_1".toList) = (Binary64.read? "10e-1".toList).map .double := by
  decide +kernel
example : token? "-0x10".toList = none ∧ token? "0b1_01".toList = some (.int 5) := by
  decide +kernel

end ServiceWiring.Toml
