import Mathlib.Data.Nat.Basic
import Mathlib.Tactic.ByContra
import ServiceWiring.Proofs.Json.Grammar
import ServiceWiring.Proofs.Text.Spans

/-!
# Strings and numbers in JSON texts

Strings and numbers are read to their ends without regard to what follows. The
main statements say so: `takes_readString` for strings, which end with their
quote, and `takes_readNumeral` for numbers, which end before the first character
that cannot continue them. What is read from some characters is read from the
same characters wherever they stand, as long as nothing behind them continues a
number further than before.

They also say what the characters are: those of a string are printable, with every
quote and backslash behind a backslash, and those of a number are digits, points,
signs and exponent marks.
-/

namespace ServiceWiring.Json

open Text (isBlank hexValue?)

/-- The characters of a string between its quotes: ones that need no escape, and
backslashes with the character behind each of them. No control characters. -/
inductive Quoted : List Char → Prop
  | nil : Quoted []
  | plain {c : Char} {rest : List Char} (notQuote : c ≠ '"') (notEscape : c ≠ '\\')
    (printable : 0x20 ≤ c.toNat) (others : Quoted rest) : Quoted (c :: rest)
  | escaped {c : Char} {rest : List Char} (printable : 0x20 ≤ c.toNat) (others : Quoted rest) :
    Quoted ('\\' :: c :: rest)

/-- Quoted texts one behind the other are quoted. -/
theorem Quoted.append {front back : List Char} (frontQuoted : Quoted front)
    (backQuoted : Quoted back) : Quoted (front ++ back) := by
  induction frontQuoted with
  | nil => exact backQuoted
  | plain notQuote notEscape printable _ inductionHypothesis =>
    exact .plain notQuote notEscape printable inductionHypothesis
  | escaped printable _ inductionHypothesis => exact .escaped printable inductionHypothesis

/-- A quoted text has no control characters. -/
theorem Quoted.printable {body : List Char} (quoted : Quoted body) :
    ∀ c ∈ body, 0x20 ≤ c.toNat := by
  induction quoted with
  | nil => simp
  | plain _ _ printable _ inductionHypothesis =>
    rw [List.forall_mem_cons]
    exact ⟨printable, inductionHypothesis⟩
  | escaped printable _ inductionHypothesis =>
    rw [List.forall_mem_cons, List.forall_mem_cons]
    exact ⟨by decide, printable, inductionHypothesis⟩

/-- What only printable characters stand for is read from a printable character. -/
theorem printable_of_eq_some {α : Type} {meaning : Char → Option α}
    (none : ∀ code < 0x20, meaning (Char.ofNat code) = none) {c : Char} {value : α}
    (found : meaning c = some value) : 0x20 ≤ c.toNat := by
  by_contra control
  have nothing := none c.toNat (by omega)
  rw [Char.ofNat_toNat, found] at nothing
  cases nothing

/-- A hexadecimal digit needs no escape. -/
theorem plain_of_hexValue? {c : Char} {value : Nat} (digit : hexValue? c = some value) :
    c ≠ '"' ∧ c ≠ '\\' ∧ 0x20 ≤ c.toNat := by
  refine ⟨?_, ?_, printable_of_eq_some (by decide) digit⟩
  · rintro rfl
    cases digit
  · rintro rfl
    cases digit

/-- What reads from a text takes these characters from its beginning, whatever
follows them. -/
def Takes {α : Type} (reads : Reading α) (taken : List Char) (value : α) : Prop :=
  ∀ rest, reads (taken ++ rest) value rest

/-- Four hexadecimal digits are taken. -/
theorem takes_readHex {text rest : List Char} {unit : Nat} (read : Reads (readHex text) unit rest) :
    ∃ digits, text = digits ++ rest ∧ Quoted digits ∧
      Takes (fun text unit rest => Reads (readHex text) unit rest) digits unit := by
  unfold readHex at read
  split at read
  · exact absurd read not_reads_error
  rename_i enough
  split at read
  · rename_i a b c d tail
    split at read
    · rename_i first second third fourth firstDigit secondDigit thirdDigit fourthDigit
      obtain ⟨rfl, rfl⟩ := reads_ok_iff.mp read
      obtain ⟨a1, a2, a3⟩ := plain_of_hexValue? firstDigit
      obtain ⟨b1, b2, b3⟩ := plain_of_hexValue? secondDigit
      obtain ⟨c1, c2, c3⟩ := plain_of_hexValue? thirdDigit
      obtain ⟨d1, d2, d3⟩ := plain_of_hexValue? fourthDigit
      refine ⟨[a, b, c, d], rfl, .plain a1 a2 a3 (.plain b1 b2 b3 (.plain c1 c2 c3
        (.plain d1 d2 d3 .nil))), ?_⟩
      intro other
      have fits : ¬ utf8Length ((a :: b :: c :: d :: other).take 4) < 4 := enough
      show Reads (readHex (a :: b :: c :: d :: other)) _ other
      rw [readHex, if_neg fits]
      simp [firstDigit, secondDigit, thirdDigit, fourthDigit, reads_ok_iff]
    · exact absurd read not_reads_error
  · exact absurd read not_reads_error

/-- The digits of a character are taken: those of one code unit, or of two with the
mark of an escape between them. -/
theorem takes_readUnit {text rest : List Char} {c : Char} (read : Reads (readUnit text) c rest) :
    ∃ digits, text = digits ++ rest ∧ Quoted digits ∧
      Takes (fun text c rest => Reads (readUnit text) c rest) digits c := by
  unfold readUnit at read
  cases first : readHex text with
  | error fault => simp [first, Bind.bind, Except.bind, not_reads_error] at read
  | ok unit =>
    obtain ⟨digits, textSplit, quoted, takes⟩ := takes_readHex (reads_of_eq_ok first)
    obtain ⟨unit, tail, shorter⟩ := unit
    simp only [first, Bind.bind, Except.bind] at read
    split at read
    · exact absurd read not_reads_error
    rename_i notLow
    split at read
    · rename_i alone
      obtain ⟨rfl, rfl⟩ := reads_ok_iff.mp read
      refine ⟨digits, textSplit, quoted, ?_⟩
      intro other
      obtain ⟨_, again⟩ := takes other
      simp [readUnit, again, Bind.bind, Except.bind, notLow, alone, reads_ok_iff]
    rename_i paired
    split at read
    · exact absurd read not_reads_error
    · exact absurd read not_reads_error
    · rename_i afterMark _
      cases second : readHex afterMark with
      | error fault => simp [second, not_reads_error] at read
      | ok low =>
        obtain ⟨lowDigits, lowSplit, lowQuoted, lowTakes⟩ := takes_readHex (reads_of_eq_ok second)
        simp only [second] at read
        split at read
        · exact absurd read not_reads_error
        rename_i isLow
        obtain ⟨rfl, rfl⟩ := reads_ok_iff.mp read
        refine ⟨digits ++ '\\' :: 'u' :: lowDigits, ?_,
          quoted.append (.escaped (by decide) lowQuoted), ?_⟩
        · exact textSplit.trans (by simpa using lowSplit)
        · intro other
          obtain ⟨_, again⟩ := takes ('\\' :: 'u' :: (lowDigits ++ other))
          obtain ⟨_, lowAgain⟩ := lowTakes other
          have joined : (digits ++ '\\' :: 'u' :: lowDigits) ++ other =
              digits ++ '\\' :: 'u' :: (lowDigits ++ other) := by simp
          show Reads (readUnit ((digits ++ '\\' :: 'u' :: lowDigits) ++ other)) _ other
          rw [joined]
          simp [readUnit, again, lowAgain, Bind.bind, Except.bind, notLow, paired, isLow,
            reads_ok_iff]
    · exact absurd read not_reads_error
    · exact absurd read not_reads_error

/-- What follows a backslash is taken; with the backslash it is quoted. -/
theorem takes_readEscape {text rest : List Char} {c : Char} (read : Reads (readEscape text) c rest) :
    ∃ escape, text = escape ++ rest ∧ Quoted ('\\' :: escape) ∧
      Takes (fun text c rest => Reads (readEscape text) c rest) escape c := by
  unfold readEscape at read
  split at read
  · exact absurd read not_reads_error
  · rename_i tail
    cases unit : readUnit tail with
    | error fault => simp [unit, Bind.bind, Except.bind, not_reads_error] at read
    | ok unitRead =>
      obtain ⟨digits, split, quoted, takes⟩ := takes_readUnit (reads_of_eq_ok unit)
      simp only [unit, Bind.bind, Except.bind] at read
      obtain ⟨rfl, rfl⟩ := reads_ok_iff.mp read
      refine ⟨'u' :: digits, by simpa using split, .escaped (by decide) quoted, ?_⟩
      intro other
      obtain ⟨_, again⟩ := takes other
      simp [readEscape, again, Bind.bind, Except.bind, reads_ok_iff]
  · rename_i mark tail noUnit
    split at read
    · rename_i short
      obtain ⟨rfl, rfl⟩ := reads_ok_iff.mp read
      refine ⟨[mark], rfl, .escaped (printable_of_eq_some (by decide) short) .nil, ?_⟩
      intro other
      simp [readEscape, short, reads_ok_iff]
    · exact absurd read not_reads_error

/-- The characters of a string are taken with the quote that closes it. -/
theorem takes_readString {text rest characters : List Char}
    (read : Reads (readString text) characters rest) :
    ∃ body, text = body ++ '"' :: rest ∧ Quoted body ∧
      ∀ other, Reads (readString (body ++ '"' :: other)) characters other := by
  induction size_eq : text.length using Nat.strongRecOn generalizing text characters with
  | _ size inductionHypothesis =>
    rw [readString.eq_def] at read
    split at read
    · exact absurd read not_reads_error
    rename_i c tail
    split at read
    · rename_i quote
      obtain ⟨rfl, rfl⟩ := reads_ok_iff.mp read
      refine ⟨[], by rw [quote]; rfl, .nil, ?_⟩
      intro other
      simp [readString, reads_ok_iff]
    rename_i notQuote
    split at read
    · rename_i backslash
      cases escape : readEscape tail with
      | error fault => simp [escape, not_reads_error] at read
      | ok first =>
        cases others : readString first.rest with
        | error fault => simp [escape, others, not_reads_error] at read
        | ok more =>
          simp only [escape, others, reads_ok_iff] at read
          obtain ⟨rfl, rfl⟩ := read
          obtain ⟨front, frontSplit, frontQuoted, frontTakes⟩ :=
            takes_readEscape (reads_of_eq_ok escape)
          have reached : first.rest.length < size := by
            rw [← size_eq, List.length_cons]
            exact Nat.lt_succ_of_lt first.shorter
          obtain ⟨body, bodySplit, bodyQuoted, bodyTakes⟩ :=
            inductionHypothesis _ reached (reads_of_eq_ok others) rfl
          refine ⟨'\\' :: (front ++ body), ?_, frontQuoted.append bodyQuoted, ?_⟩
          · rw [backslash]
            exact congrArg ('\\' :: ·) (frontSplit.trans (by simpa using bodySplit))
          · intro other
            obtain ⟨_, frontAgain⟩ := frontTakes (body ++ '"' :: other)
            obtain ⟨_, bodyAgain⟩ := bodyTakes other
            rw [List.cons_append, List.append_assoc, readString.eq_def]
            simp [frontAgain, bodyAgain, reads_ok_iff]
    rename_i notEscape
    split at read
    · exact absurd read not_reads_error
    rename_i notControl
    cases others : readString tail with
    | error fault => simp [others, not_reads_error] at read
    | ok more =>
      simp only [others, reads_ok_iff] at read
      obtain ⟨rfl, rfl⟩ := read
      have reached : tail.length < size := by
        rw [← size_eq]
        exact Nat.lt_succ_self _
      obtain ⟨body, bodySplit, bodyQuoted, bodyTakes⟩ :=
        inductionHypothesis _ reached (reads_of_eq_ok others) rfl
      refine ⟨c :: body, congrArg (c :: ·) bodySplit,
        .plain notQuote notEscape (Nat.le_of_not_lt notControl) bodyQuoted, ?_⟩
      intro other
      obtain ⟨_, again⟩ := bodyTakes other
      rw [List.cons_append, readString.eq_def]
      simp [again, notQuote, notEscape, notControl, reads_ok_iff]

/-- The characters that number literals consist of. -/
def isNumeralChar (c : Char) : Bool :=
  c.isDigit || c == '.' || c == 'e' || c == 'E' || c == '+' || c == '-'

/-- A text continues a number no further than another one does. -/
def StopsLike (rest other : List Char) : Prop :=
  ∀ c ∈ other.head?, isNumeralChar c = true → rest.head? = some c

/-- A number literal that ends before one text ends before the other. -/
theorem StopsLike.append {rest other : List Char} (stops : StopsLike rest other)
    (front : List Char) : StopsLike (front ++ rest) (front ++ other) := by
  cases front with
  | nil => exact stops
  | cons first front =>
    intro c head _
    exact head

/-- What reads a number takes these characters, before any text that continues the
number no further. -/
def TakesNumber (reads : List Char → Except Fault (Json × List Char)) (lexeme : List Char)
    (value : Json) (rest : List Char) : Prop :=
  (∀ c ∈ lexeme, isNumeralChar c = true) ∧
    ∀ other, StopsLike rest other → reads (lexeme ++ other) = .ok (value, other)

/-- Digits are taken up to the first character that is none, and so they are before
any text that continues them no further. -/
theorem digits_append {text other : List Char}
    (stops : StopsLike (text.dropWhile Char.isDigit) other) :
    (text.takeWhile Char.isDigit ++ other).takeWhile Char.isDigit = text.takeWhile Char.isDigit ∧
      (text.takeWhile Char.isDigit ++ other).dropWhile Char.isDigit = other := by
  have all : (text.takeWhile Char.isDigit).all Char.isDigit = true := List.all_takeWhile
  have head : ∀ c ∈ other.head?, Char.isDigit c = false := by
    intro c otherHead
    rw [Bool.eq_false_iff]
    intro digit
    obtain ⟨_, _, _, failing⟩ := Text.exists_span Char.isDigit text
    rw [failing c (stops c otherHead (by simp [isNumeralChar, digit]))] at digit
    cases digit
  rw [Text.takeWhile_append_of_head all head, Text.dropWhile_append_of_all all,
    Text.dropWhile_of_head head]
  exact ⟨rfl, rfl⟩

/-- An exponent without a sign is read as one with a plus sign. -/
theorem readExponent_unsigned {negative : Bool} {literal : Literal} {first : Char}
    (digit : first.isDigit = true) (more : List Char) :
    readExponent negative literal (first :: more) =
      readExponent negative literal ('+' :: first :: more) := by
  rw [readExponent.eq_def, readExponent.eq_def]
  split
  rename_i down digitsOn signs
  split at signs
  · rename_i plus
    rw [(List.cons.inj plus).1] at digit
    exact absurd digit (by decide)
  · rename_i minus
    rw [(List.cons.inj minus).1] at digit
    exact absurd digit (by decide)
  · obtain ⟨rfl, rfl⟩ := Prod.mk.inj signs
    rfl

/-- The digits behind the sign of an exponent are taken. -/
theorem takes_signedExponent {negative : Bool} {literal : Literal} {sign : Char}
    {text rest : List Char} {value : Json} (isSign : sign = '+' ∨ sign = '-')
    (read : readExponent negative literal (sign :: text) = .ok (value, rest)) :
    ∃ first digits, text = (first :: digits) ++ rest ∧ first.isDigit = true ∧
      TakesNumber (fun text => readExponent negative literal (sign :: text)) (first :: digits)
        value rest := by
  rcases isSign with rfl | rfl
  -- The sign decides only whether the power is divided by.
  all_goals
    unfold readExponent at read
    simp only at read
    split at read
    · cases read
    rename_i first tail
    split at read
    · cases read
    rename_i digit
    rw [Bool.not_eq_true, Bool.not_eq_false'] at digit
    have left : rest = (first :: tail).dropWhile Char.isDigit := by
      repeat' split at read
      all_goals cases read
      all_goals rfl
    subst left
    have digits := List.takeWhile_cons_of_pos (l := tail) digit
    refine ⟨first, tail.takeWhile Char.isDigit, ?_, digit, ?_, ?_⟩
    · rw [← digits, List.takeWhile_append_dropWhile]
    · intro c member
      rw [← digits] at member
      have isDigit := List.all_eq_true.mp List.all_takeWhile c member
      simp [isNumeralChar, isDigit]
    · intro other stops
      obtain ⟨digitsAgain, otherAgain⟩ := digits_append stops
      rw [digits, List.cons_append] at digitsAgain otherAgain
      rw [List.cons_append]
      rw [digits] at read
      unfold readExponent
      simp only [digitsAgain, otherAgain, digit]
      split at read
      · split at read
        · cases read
        · rename_i small
          cases read
          rw [if_neg small]
          rfl
      · split at read
        · cases read
          rfl
        · cases read

/-- The sign and the digits of an exponent are taken. -/
theorem takes_readExponent {negative : Bool} {literal : Literal} {text rest : List Char}
    {value : Json} (read : readExponent negative literal text = .ok (value, rest)) :
    ∃ lexeme, text = lexeme ++ rest ∧
      TakesNumber (readExponent negative literal) lexeme value rest := by
  cases text with
  | nil => cases read
  | cons c tail =>
    by_cases isSign : c = '+' ∨ c = '-'
    · obtain ⟨first, digits, split, -, chars, takes⟩ := takes_signedExponent isSign read
      refine ⟨c :: first :: digits, congrArg (c :: ·) split, ?_, takes⟩
      rw [List.forall_mem_cons]
      exact ⟨by rcases isSign with rfl | rfl <;> decide, chars⟩
    by_cases digit : c.isDigit = true
    · rw [readExponent_unsigned digit] at read
      obtain ⟨first, digits, split, firstDigit, chars, takes⟩ := takes_signedExponent (.inl rfl) read
      refine ⟨first :: digits, split, chars, ?_⟩
      intro other stops
      rw [List.cons_append, readExponent_unsigned firstDigit]
      exact takes other stops
    · rw [readExponent.eq_def] at read
      split at read
      rename_i signs
      split at signs
      · rename_i plus
        exact absurd (.inl (List.cons.inj plus).1) isSign
      · rename_i minus
        exact absurd (.inr (List.cons.inj minus).1) isSign
      · obtain ⟨rfl, rfl⟩ := Prod.mk.inj signs
        simp [digit] at read

/-- A literal without exponent ends with its digits. -/
theorem readScale_unmarked {negative : Bool} {literal : Literal} {text : List Char}
    (unmarked : ∀ c ∈ text.head?, ¬ (c = 'e' ∨ c = 'E')) :
    readScale negative literal text = readScale.finish negative literal text := by
  cases text with
  | nil => rfl
  | cons c tail => rw [readScale, if_neg (unmarked c rfl)]

/-- The exponent of a literal is taken, if it has one. -/
theorem takes_readScale {negative : Bool} {literal : Literal} {text rest : List Char}
    {value : Json} (read : readScale negative literal text = .ok (value, rest)) :
    ∃ lexeme, text = lexeme ++ rest ∧
      TakesNumber (readScale negative literal) lexeme value rest := by
  by_cases unmarked : ∀ c ∈ text.head?, ¬ (c = 'e' ∨ c = 'E')
  · rw [readScale_unmarked unmarked, readScale.finish] at read
    split at read
    · rename_i found
      cases read
      refine ⟨[], rfl, by simp, ?_⟩
      intro other stops
      have otherUnmarked : ∀ c ∈ other.head?, ¬ (c = 'e' ∨ c = 'E') := by
        intro c head isMark
        have numeral : isNumeralChar c = true := by rcases isMark with rfl | rfl <;> decide
        exact unmarked c (stops c head numeral) isMark
      rw [List.nil_append, readScale_unmarked otherUnmarked, readScale.finish, found]
    · cases read
  · simp only [not_forall, Decidable.not_not] at unmarked
    obtain ⟨mark, head, isMark⟩ := unmarked
    obtain ⟨tail, rfl⟩ := List.head?_eq_some_iff.mp head
    rw [readScale, if_pos isMark] at read
    obtain ⟨lexeme, split, chars, takes⟩ := takes_readExponent read
    refine ⟨mark :: lexeme, congrArg (mark :: ·) split, ?_, ?_⟩
    · rw [List.forall_mem_cons]
      exact ⟨by rcases isMark with rfl | rfl <;> decide, chars⟩
    · intro other stops
      rw [List.cons_append, readScale, if_pos isMark]
      exact takes other stops

/-- A text that does not start with a point has no fraction. -/
theorem readFraction_unmarked {negative : Bool} {significand dropped : Nat} {text : List Char}
    (unmarked : text.head? ≠ some '.') :
    readFraction negative significand dropped text =
      readScale negative ⟨significand, dropped, none⟩ text := by
  unfold readFraction
  split
  · simp at unmarked
  · rfl

/-- The fraction and the exponent of a literal are taken, as far as it has them. -/
theorem takes_readFraction {negative : Bool} {significand dropped : Nat} {text rest : List Char}
    {value : Json} (read : readFraction negative significand dropped text = .ok (value, rest)) :
    ∃ lexeme, text = lexeme ++ rest ∧
      TakesNumber (readFraction negative significand dropped) lexeme value rest := by
  by_cases unmarked : text.head? ≠ some '.'
  · rw [readFraction_unmarked unmarked] at read
    obtain ⟨lexeme, split, chars, takes⟩ := takes_readScale read
    refine ⟨lexeme, split, chars, ?_⟩
    intro other stops
    have otherUnmarked : (lexeme ++ other).head? ≠ some '.' := by
      intro head
      rw [split] at unmarked
      exact unmarked (stops.append lexeme '.' head (by decide))
    rw [readFraction_unmarked otherUnmarked]
    exact takes other stops
  · obtain ⟨afterPoint, rfl⟩ := List.head?_eq_some_iff.mp (Decidable.not_not.mp unmarked)
    rw [readFraction] at read
    simp only at read
    split at read
    · cases read
    rename_i present
    obtain ⟨lexeme, split, chars, takes⟩ := takes_readScale read
    refine ⟨'.' :: (afterPoint.takeWhile Char.isDigit ++ lexeme), ?_, ?_, ?_⟩
    · rw [List.cons_append, List.append_assoc, ← split, List.takeWhile_append_dropWhile]
    · rw [List.forall_mem_cons, List.forall_mem_append]
      refine ⟨by decide, ?_, chars⟩
      intro c member
      have isDigit := List.all_eq_true.mp List.all_takeWhile c member
      simp [isNumeralChar, isDigit]
    · intro other stops
      have stopsDigits : StopsLike (afterPoint.dropWhile Char.isDigit) (lexeme ++ other) := by
        rw [split]
        exact stops.append lexeme
      obtain ⟨digitsAgain, otherAgain⟩ := digits_append stopsDigits
      rw [List.cons_append, List.append_assoc, readFraction]
      simp only [digitsAgain, otherAgain, present]
      exact takes other stops

/-- A leading zero is the only digit before the point. -/
theorem readNumber_zero {negative : Bool} {text : List Char}
    (alone : ∀ c ∈ text.head?, ¬ c.isDigit = true) :
    readNumber negative ('0' :: text) = readFraction negative 0 0 text := by
  cases text with
  | nil => rfl
  | cons c tail => rw [readNumber, if_neg (alone c rfl)]

/-- Digits that do not start with a zero are all before the point. -/
theorem readNumber_digits {negative : Bool} {first : Char} {tail : List Char}
    (digit : first.isDigit = true) (nonzero : first ≠ '0') :
    readNumber negative (first :: tail) =
      readFraction negative (fitDigits wordLimit 0 ((first :: tail).takeWhile Char.isDigit)).1
        (fitDigits wordLimit 0 ((first :: tail).takeWhile Char.isDigit)).2.length
        ((first :: tail).dropWhile Char.isDigit) := by
  rw [readNumber.eq_4 _ _ _ (fun zero => nonzero zero)]
  simp [digit]

/-- The characters of a number behind its sign are taken. -/
theorem takes_readNumber {negative : Bool} {text rest : List Char} {value : Json}
    (read : readNumber negative text = .ok (value, rest)) :
    ∃ lexeme, text = lexeme ++ rest ∧ lexeme.head?.any Char.isDigit = true ∧
      TakesNumber (readNumber negative) lexeme value rest := by
  cases text with
  | nil => cases read
  | cons first tail =>
    by_cases zero : first = '0'
    · subst zero
      by_cases alone : ∀ c ∈ tail.head?, ¬ c.isDigit = true
      · rw [readNumber_zero alone] at read
        obtain ⟨lexeme, split, chars, takes⟩ := takes_readFraction read
        refine ⟨'0' :: lexeme, congrArg ('0' :: ·) split, rfl, ?_, ?_⟩
        · rw [List.forall_mem_cons]
          exact ⟨by decide, chars⟩
        · intro other stops
          have otherAlone : ∀ c ∈ (lexeme ++ other).head?, ¬ c.isDigit = true := by
            intro c head digit
            rw [split] at alone
            exact alone c (stops.append lexeme c head (by simp [isNumeralChar, digit])) digit
          rw [List.cons_append, readNumber_zero otherAlone]
          exact takes other stops
      · simp only [not_forall, Decidable.not_not] at alone
        obtain ⟨c, head, digit⟩ := alone
        obtain ⟨more, rfl⟩ := List.head?_eq_some_iff.mp head
        rw [readNumber, if_pos digit] at read
        cases read
    by_cases noDigit : ¬ first.isDigit = true
    · rw [readNumber.eq_4 _ _ _ zero] at read
      simp [noDigit] at read
    have digit : first.isDigit = true := Decidable.not_not.mp noDigit
    rw [readNumber_digits digit zero] at read
    obtain ⟨lexeme, split, chars, takes⟩ := takes_readFraction read
    have digits := List.takeWhile_cons_of_pos (l := tail) digit
    refine ⟨(first :: tail).takeWhile Char.isDigit ++ lexeme, ?_, ?_, ?_, ?_⟩
    · rw [List.append_assoc, ← split, List.takeWhile_append_dropWhile]
    · rw [digits]
      simp [digit]
    · rw [List.forall_mem_append]
      refine ⟨?_, chars⟩
      intro c member
      have isDigit := List.all_eq_true.mp List.all_takeWhile c member
      simp [isNumeralChar, isDigit]
    · intro other stops
      have stopsDigits : StopsLike ((first :: tail).dropWhile Char.isDigit) (lexeme ++ other) := by
        rw [split]
        exact stops.append lexeme
      obtain ⟨digitsAgain, otherAgain⟩ := digits_append stopsDigits
      rw [digits, List.cons_append] at digitsAgain otherAgain
      rw [digits] at takes
      rw [digits, List.append_assoc, List.cons_append, readNumber_digits digit zero, digitsAgain,
        otherAgain]
      exact takes other stops

/-- A number behind a minus sign. -/
theorem reads_readNumeral_negative {tail rest : List Char} {value : Json} :
    Reads (readNumeral ('-' :: tail)) value rest ↔ readNumber true tail = .ok (value, rest) := by
  rw [readNumeral]
  split
  · rename_i failed
    simp [failed, not_reads_error]
  · rename_i read
    simp [read, reads_ok_iff]

/-- A number without a sign. -/
theorem reads_readNumeral_unsigned {text rest : List Char} {value : Json}
    (unsigned : text.head? ≠ some '-') :
    Reads (readNumeral text) value rest ↔ readNumber false text = .ok (value, rest) := by
  unfold readNumeral
  split
  · exact absurd rfl unsigned
  · split
    · rename_i failed
      simp [failed, not_reads_error]
    · rename_i read
      simp [read, reads_ok_iff]

/-- The characters of a number are taken, its sign included. -/
theorem takes_readNumeral {text rest : List Char} {value : Json}
    (read : Reads (readNumeral text) value rest) :
    ∃ first others, text = (first :: others) ++ rest ∧
      (∀ c ∈ first :: others, isNumeralChar c = true) ∧
      ∀ other, StopsLike rest other → Reads (readNumeral ((first :: others) ++ other)) value other := by
  by_cases negative : text.head? = some '-'
  · obtain ⟨tail, rfl⟩ := List.head?_eq_some_iff.mp negative
    obtain ⟨lexeme, split, -, chars, takes⟩ := takes_readNumber (reads_readNumeral_negative.mp read)
    refine ⟨'-', lexeme, congrArg ('-' :: ·) split, ?_, ?_⟩
    · rw [List.forall_mem_cons]
      exact ⟨by decide, chars⟩
    · intro other stops
      exact reads_readNumeral_negative.mpr (takes other stops)
  · obtain ⟨lexeme, split, starts, chars, takes⟩ :=
      takes_readNumber ((reads_readNumeral_unsigned negative).mp read)
    cases lexeme with
    | nil => cases starts
    | cons first others =>
      refine ⟨first, others, split, chars, ?_⟩
      intro other stops
      have unsigned : ((first :: others) ++ other).head? ≠ some '-' := by
        intro minus
        rw [split] at negative
        exact negative minus
      exact (reads_readNumeral_unsigned unsigned).mpr (takes other stops)

end ServiceWiring.Json
