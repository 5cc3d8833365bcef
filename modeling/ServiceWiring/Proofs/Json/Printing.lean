import ServiceWiring.Json.Printer
import ServiceWiring.Proofs.Json.Shape

/-!
# Printed values are read

A value in its indented form is read as itself, whatever its strings and keys hold, by
every reader that takes containers as deep as the value nests, and by no other. Binary64
numbers are left out: they are read in steps that round, and may come back as their
neighbours.

What carries the proof is that the parts of arrays and of objects are laid out alike, so
that one lemma about lines with commas between them serves for both.
-/

namespace ServiceWiring.Json

open Text (hexValue?)

/-! ## Strings -/

/-- The code of a control character has two hexadecimal digits. -/
theorem controlEscape_eq {c : Char} (control : c.toNat < 0x20) :
    controlEscape c =
      ['\\', 'u', '0', '0', Nat.digitChar (c.toNat / 16), Nat.digitChar (c.toNat % 16)] := by
  have codes : ∀ code < 0x20, controlEscape (Char.ofNat code) =
      ['\\', 'u', '0', '0', Nat.digitChar (code / 16), Nat.digitChar (code % 16)] := by decide
  have found := codes c.toNat control
  rwa [Char.ofNat_toNat] at found

/-- The code of a control character is read. -/
theorem reads_readUnit_control {c : Char} (control : c.toNat < 0x20) (tail : List Char) :
    Reads (readUnit ('0' :: '0' :: Nat.digitChar (c.toNat / 16) ::
      Nat.digitChar (c.toNat % 16) :: tail)) c tail := by
  have digit : ∀ value < 16, hexValue? (Nat.digitChar value) = some value := by decide
  have hex : Reads (readHex ('0' :: '0' :: Nat.digitChar (c.toNat / 16) ::
      Nat.digitChar (c.toNat % 16) :: tail)) c.toNat tail := by
    have enough : ¬utf8Length (('0' :: '0' :: Nat.digitChar (c.toNat / 16) ::
        Nat.digitChar (c.toNat % 16) :: tail).take 4) < 4 := by
      have high := Char.utf8Size_pos (Nat.digitChar (c.toNat / 16))
      have low := Char.utf8Size_pos (Nat.digitChar (c.toNat % 16))
      have zero := Char.utf8Size_pos '0'
      simp only [utf8Length, List.take_succ_cons, List.take_zero, List.foldl_cons,
        List.foldl_nil]
      omega
    have zero : hexValue? '0' = some 0 := by decide
    rw [readHex, if_neg enough]
    simp only [zero, digit (c.toNat / 16) (by omega), digit (c.toNat % 16) (by omega)]
    have value : ((0 * 16 + 0) * 16 + c.toNat / 16) * 16 + c.toNat % 16 = c.toNat := by omega
    exact reads_ok_iff.mpr ⟨value, rfl⟩
  obtain ⟨shorter, read⟩ := hex
  have alone : ¬(0xDC00 ≤ c.toNat ∧ c.toNat ≤ 0xDFFF) := by omega
  have single : c.toNat < 0xD800 ∨ 0xDBFF < c.toNat := .inl (by omega)
  simp only [readUnit, read, bind, Except.bind]
  rw [if_neg alone, if_pos single, reads_ok_iff]
  exact ⟨Char.ofNat_toNat c, rfl⟩

/-- A character has a short escape, or the escape of its code, or needs none. -/
theorem escapeChar_cases (c : Char) :
    (∃ mark, escapeChar c = ['\\', mark] ∧ mark ≠ 'u' ∧ shortEscape? mark = some c) ∨
      (c.toNat < 0x20 ∧ escapeChar c = controlEscape c) ∨
      (c ≠ '"' ∧ c ≠ '\\' ∧ ¬c.toNat < 0x20 ∧ escapeChar c = [c]) := by
  unfold escapeChar
  split
  · rename_i mark
    rcases mark with rfl | rfl <;> exact .inl ⟨_, rfl, by decide, by decide⟩
  rename_i plain
  rw [not_or] at plain
  -- The five short escapes of control characters.
  iterate 5
    split
    · rename_i same
      subst same
      exact .inl ⟨_, rfl, by decide, by decide⟩
  split
  · rename_i control
    exact .inr (.inl ⟨control, rfl⟩)
  · rename_i printable
    exact .inr (.inr ⟨plain.1, plain.2, printable, rfl⟩)

/-- A character is read from the way it is written, with what follows it. -/
theorem reads_escapeChar (c : Char) {tail more rest : List Char}
    (others : Reads (readString tail) more rest) :
    Reads (readString (escapeChar c ++ tail)) (c :: more) rest := by
  obtain ⟨shorter, read⟩ := others
  have escaped : ∀ {mark : List Char}, Reads (readEscape (mark ++ tail)) c tail →
      Reads (readString ('\\' :: (mark ++ tail))) (c :: more) rest := by
    rintro mark ⟨_, escape⟩
    rw [readString.eq_def]
    simp [escape, read, reads_ok_iff]
  rcases escapeChar_cases c with
    ⟨mark, written, plain, meant⟩ | ⟨control, written⟩ | ⟨noQuote, noEscape, printable, written⟩
  · rw [written]
    refine @escaped [mark] ?_
    simp [readEscape, meant, reads_ok_iff]
  · obtain ⟨_, unit⟩ := reads_readUnit_control control tail
    rw [written, controlEscape_eq control]
    refine @escaped ['u', '0', '0', Nat.digitChar (c.toNat / 16),
      Nat.digitChar (c.toNat % 16)] ?_
    simp [readEscape, unit, bind, Except.bind, reads_ok_iff]
  · rw [written, List.singleton_append, readString.eq_def]
    simp [noQuote, noEscape, printable, read, reads_ok_iff]

/-- A written string is read up to its closing quote. -/
theorem reads_writeString (text rest : List Char) :
    Reads (readString (text.flatMap escapeChar ++ '"' :: rest)) text rest := by
  induction text with
  | nil =>
    rw [List.flatMap_nil, List.nil_append, readString.eq_def]
    simp [reads_ok_iff]
  | cons c text inductionHypothesis =>
    rw [List.flatMap_cons, List.append_assoc]
    exact reads_escapeChar c inductionHypothesis

/-! ## Numbers -/

/-- Further digits make no number smaller. -/
theorem le_ofDigitChars (digits : List Char) (number : Nat) :
    number ≤ Nat.ofDigitChars 10 digits number := by
  induction digits generalizing number with
  | nil => exact Nat.le_refl _
  | cons digit digits inductionHypothesis =>
    have := inductionHypothesis (10 * number + (digit.toNat - '0'.toNat))
    rw [Nat.ofDigitChars_cons]
    omega

/-- Digits whose number does not exceed the limit all fit. -/
theorem fitDigits_of_le {limit number : Nat} {digits : List Char}
    (fits : Nat.ofDigitChars 10 digits number ≤ limit) :
    fitDigits limit number digits = (Nat.ofDigitChars 10 digits number, []) := by
  induction digits generalizing number with
  | nil => rfl
  | cons digit digits inductionHypothesis =>
    rw [Nat.ofDigitChars_cons] at fits ⊢
    have extended := le_ofDigitChars digits (10 * number + (digit.toNat - '0'.toNat))
    rw [fitDigits, if_neg (by omega), inductionHypothesis fits]

/-- The digits of a number do not start with a zero. -/
theorem head?_toDigits {number : Nat} (positive : 0 < number) :
    (Nat.toDigits 10 number).head? ≠ some '0' := by
  induction number using Nat.strongRecOn with
  | _ number inductionHypothesis =>
    by_cases small : number < 10
    · have digits : ∀ digit < 10, 0 < digit → Nat.digitChar digit ≠ '0' := by decide
      rw [Nat.toDigits_of_lt_base small]
      simpa using digits number small positive
    · rw [Nat.toDigits_of_base_le (by decide) (by omega),
        List.head?_append_of_ne_nil _ Nat.toDigits_ne_nil]
      exact inductionHypothesis (number / 10) (by omega) (by omega)

/-- What does not continue a number. -/
def Stops (rest : List Char) : Prop := ∀ c ∈ rest.head?, isNumeralChar c = false

/-- The digits of a number are read as a literal of its size. -/
theorem readNumber_toDigits {negative : Bool} {number : Nat} (fits : number ≤ wordLimit)
    {rest : List Char} (stops : Stops rest) :
    readNumber negative (Nat.toDigits 10 number ++ rest) =
      readScale.finish negative ⟨number, 0, none⟩ rest := by
  have unmarked : ∀ mark, isNumeralChar mark = true → rest.head? ≠ some mark := by
    intro mark numeral head
    rw [stops mark head] at numeral
    cases numeral
  have noDigit : ∀ c ∈ rest.head?, c.isDigit = false := by
    intro c head
    have other := stops c head
    simp only [isNumeralChar, Bool.or_eq_false_iff] at other
    exact other.1.1.1.1.1
  have fraction : ∀ number, readFraction negative number 0 rest =
      readScale.finish negative ⟨number, 0, none⟩ rest := by
    intro number
    rw [readFraction_unmarked (unmarked '.' (by decide)), readScale_unmarked]
    rintro c head (rfl | rfl)
    · exact unmarked 'e' (by decide) head
    · exact unmarked 'E' (by decide) head
  rcases Nat.eq_zero_or_pos number with rfl | positive
  · have alone : ∀ c ∈ rest.head?, ¬c.isDigit = true := by
      intro c head digit
      rw [noDigit c head] at digit
      cases digit
    exact (readNumber_zero alone).trans (fraction 0)
  · have digits : (Nat.toDigits 10 number).all Char.isDigit = true := by
      rw [List.all_eq_true]
      exact fun c member => Nat.isDigit_of_mem_toDigits (by decide) (by decide) member
    have whole : Nat.ofDigitChars 10 (Nat.toDigits 10 number) 0 = number :=
      Nat.ofDigitChars_toDigits (by decide) (by decide)
    have taken := Text.takeWhile_append_of_head digits noDigit
    have left : (Nat.toDigits 10 number ++ rest).dropWhile Char.isDigit = rest := by
      rw [Text.dropWhile_append_of_all digits, Text.dropWhile_of_head noDigit]
    have nonzero := head?_toDigits positive
    obtain ⟨first, others, written⟩ := List.exists_cons_of_ne_nil
      (Nat.toDigits_ne_nil (n := number) (b := 10))
    rw [written] at digits taken left whole nonzero ⊢
    rw [List.all_cons, Bool.and_eq_true] at digits
    rw [List.cons_append] at taken left ⊢
    rw [readNumber_digits digits.1 (by simpa using nonzero), taken, left,
      fitDigits_of_le (whole.symm ▸ fits), whole]
    exact fraction number

/-- An integer is written as its digits, with a hyphen before them if it is negative. -/
theorem toList_toString_int (value : Int) :
    (toString value).toList = if 0 ≤ value then Nat.toDigits 10 value.toNat
      else '-' :: Nat.toDigits 10 (-value).toNat := by
  rw [Int.toString_eq_repr, Int.repr_eq_if]
  split
  · exact Nat.toList_repr
  · rw [String.toList_append, Nat.toList_repr]
    rfl

/-- The digits of a number begin with a digit. -/
theorem head_toDigits (number : Nat) :
    ∃ first others, Nat.toDigits 10 number = first :: others ∧ first.isDigit = true := by
  obtain ⟨first, others, written⟩ := List.exists_cons_of_ne_nil
    (Nat.toDigits_ne_nil (n := number) (b := 10))
  exact ⟨first, others, written,
    Nat.isDigit_of_mem_toDigits (by decide) (by decide) (written ▸ List.mem_cons_self)⟩

/-- An integer begins with a hyphen or a digit. -/
theorem head_toString_int (value : Int) :
    ∃ first others, (toString value).toList = first :: others ∧
      (first = '-' ∨ first.isDigit = true) := by
  rw [toList_toString_int]
  split
  · obtain ⟨first, others, written, digit⟩ := head_toDigits value.toNat
    exact ⟨first, others, written, .inr digit⟩
  · exact ⟨_, _, rfl, .inl rfl⟩

/-- An integer within 64 bits is read from the way it is written. -/
theorem reads_readNumeral_int {value : Int} (least : -9223372036854775808 ≤ value)
    (greatest : value ≤ wordLimit) {rest : List Char} (stops : Stops rest) :
    Reads (readNumeral ((toString value).toList ++ rest)) (.int value) rest := by
  have limit : 9223372036854775808 ≤ wordLimit := by decide
  rw [toList_toString_int]
  by_cases natural : 0 ≤ value
  · have unsigned : (Nat.toDigits 10 value.toNat ++ rest).head? ≠ some '-' := by
      obtain ⟨first, others, written, digit⟩ := head_toDigits value.toNat
      rw [written, List.cons_append, List.head?_cons, Ne, Option.some.injEq]
      rintro rfl
      exact absurd digit (by decide)
    rw [if_pos natural, reads_readNumeral_unsigned unsigned,
      readNumber_toDigits (by omega) stops]
    have meant : Literal.value? false ⟨value.toNat, 0, none⟩ = some (.int value) := by
      have back : (value.toNat : Int) = value := by omega
      exact congrArg (fun value => some (Json.int value)) back
    rw [readScale.finish, meant]
  · rw [if_neg natural, List.cons_append, reads_readNumeral_negative,
      readNumber_toDigits (by omega) stops]
    have meant : Literal.value? true ⟨(-value).toNat, 0, none⟩ = some (.int value) := by
      have inRange : ¬((-value).toNat = 0 ∨ Nat.pow 2 63 < (-value).toNat) := by
        have : Nat.pow 2 63 = 9223372036854775808 := rfl
        omega
      have back : -((-value).toNat : Int) = value := by omega
      refine (if_neg inRange).trans ?_
      rw [back]
    rw [readScale.finish, meant]

/-! ## Lines -/

/-- The first part of a container on a line of its own, and the others behind commas. -/
def lined {α : Type} (depth : Nat) (write : α → List Char) : List α → List Char
  | [] => []
  | first :: others =>
    newLine depth ++ write first ++ others.flatMap fun part => ',' :: newLine depth ++ write part

/-- Items stand on lines of their own. -/
theorem writeItemLines_eq (depth : Nat) (items : List Json) :
    writeItemLines depth items = lined depth (writeIndented depth) items := by
  induction items with
  | nil => rfl
  | cons item items inductionHypothesis =>
    cases items with
    | nil => simp [writeItemLines, lined]
    | cons next items =>
      rw [writeItemLines, inductionHypothesis, lined, lined, List.flatMap_cons]
      · simp
      · simp

/-- An entry of an object. -/
def writeEntry (depth : Nat) (entry : String × Json) : List Char :=
  writeString entry.1 ++ ':' :: ' ' :: writeIndented depth entry.2

/-- Entries stand on lines of their own. -/
theorem writeEntryLines_eq (depth : Nat) (entries : List (String × Json)) :
    writeEntryLines depth entries = lined depth (writeEntry depth) entries := by
  induction entries with
  | nil => rfl
  | cons entry entries inductionHypothesis =>
    cases entries with
    | nil => simp [writeEntryLines, lined, writeEntry]
    | cons next entries =>
      rw [writeEntryLines, inductionHypothesis, lined, lined, List.flatMap_cons]
      · simp [writeEntry]
      · simp

/-- The blanks at the beginning of a line are skipped. -/
theorem skipSpace_newLine (depth : Nat) (text : List Char) :
    skipSpace (newLine depth ++ text) = skipSpace text := by
  apply Text.dropWhile_append_of_all
  simp [newLine, isSpace]

section Lined

variable {α : Type} {part : Reading α} {close : Char} {write : α → List Char} {items : List α}
  (closing : isSpace close = false)
  (starts : ∀ item ∈ items, ∃ first others, write item = first :: others ∧
    isSpace first = false ∧ first ≠ close)
  (reads : ∀ item ∈ items, ∀ {rest}, Stops rest → part (write item ++ rest) item rest)
include closing starts reads

omit closing starts reads in
/-- Behind a part stands a comma or the end of its line. -/
theorem stops_behind (line depth : Nat) (write : α → List Char) (others : List α)
    (rest : List Char) :
    Stops ((others.flatMap fun item => ',' :: newLine depth ++ write item) ++
      (newLine line ++ rest)) := by
  intro c head
  cases others with
  | nil =>
    cases head
    decide
  | cons item others =>
    cases head
    decide

omit closing reads in
/-- The first part on a line is no closing bracket, and is not skipped with the blanks. -/
theorem skipSpace_part {item : α} (member : item ∈ items) (depth : Nat) (rest : List Char) :
    skipSpace (newLine depth ++ write item ++ rest) = write item ++ rest ∧
      (write item ++ rest).head? ≠ some close := by
  obtain ⟨first, others, written, solid, open'⟩ := starts item member
  rw [List.append_assoc, skipSpace_newLine, written]
  constructor
  · simp [skipSpace, solid]
  · simpa using open'

/-- Parts behind commas are read as a series. -/
theorem series_lined (line depth : Nat) (rest : List Char) :
    Series part close ((items.flatMap fun item => ',' :: newLine depth ++ write item) ++
      (newLine line ++ close :: rest)) items rest := by
  induction items with
  | nil =>
    refine .finish ?_
    rw [List.flatMap_nil, List.nil_append, skipSpace_newLine]
    simp [skipSpace, closing]
  | cons item items inductionHypothesis =>
    have others := inductionHypothesis (fun item member => starts item (.tail _ member))
      (fun item member => reads item (.tail _ member))
    obtain ⟨skipped, open'⟩ := skipSpace_part starts List.mem_cons_self depth
      ((items.flatMap fun item => ',' :: newLine depth ++ write item) ++
        (newLine line ++ close :: rest))
    have first := reads item List.mem_cons_self
      (stops_behind line depth write items (close :: rest))
    rw [List.flatMap_cons, List.append_assoc]
    exact .next rfl (skipped ▸ open') (skipped ▸ first) others

/-- Parts on lines of their own are read as the parts of a container. -/
theorem bracketed_lined (line depth : Nat) (rest : List Char) :
    Bracketed part close (lined depth write items ++ (newLine line ++ close :: rest)) items
      rest := by
  cases items with
  | nil =>
    refine .empty ?_
    rw [lined, List.nil_append, skipSpace_newLine]
    simp [skipSpace, closing]
  | cons item items =>
    obtain ⟨skipped, open'⟩ := skipSpace_part starts List.mem_cons_self depth
      ((items.flatMap fun item => ',' :: newLine depth ++ write item) ++
        (newLine line ++ close :: rest))
    have others := series_lined closing (fun item member => starts item (.tail _ member))
      (fun item member => reads item (.tail _ member)) line depth rest
    have first := reads item List.mem_cons_self
      (stops_behind line depth write items (close :: rest))
    rw [lined, List.append_assoc]
    exact .parts (skipped ▸ open') (skipped ▸ first) others

end Lined

/-! ## Values -/

/-- A written value begins with a character that is neither a blank nor closes a container. -/
theorem head_writeIndented (line : Nat) (value : Json) (integral : value.hasDouble = false) :
    ∃ first others, writeIndented line value = first :: others ∧ isSpace first = false ∧
      first ≠ ']' ∧ first ≠ '\x7d' := by
  cases value with
  | null => exact ⟨_, _, rfl, by decide⟩
  | bool value => cases value <;> exact ⟨_, _, rfl, by decide⟩
  | int value =>
    obtain ⟨first, others, written, starts⟩ := head_toString_int value
    refine ⟨first, others, written, ?_, ?_, ?_⟩
    · rw [Bool.eq_false_iff]
      intro space
      simp only [isSpace, Bool.or_eq_true, beq_iff_eq] at space
      rcases space with ((rfl | rfl) | rfl) | rfl <;> exact absurd starts (by decide)
    · rintro rfl
      exact absurd starts (by decide)
    · rintro rfl
      exact absurd starts (by decide)
  | double => cases integral
  | str text => exact ⟨_, _, rfl, by decide⟩
  | arr items => cases items <;> exact ⟨_, _, rfl, by decide⟩
  | obj entries => cases entries <;> exact ⟨_, _, rfl, by decide⟩

/-- No blank is skipped before a written value. -/
theorem skipSpace_writeIndented (line : Nat) {value : Json} (integral : value.hasDouble = false)
    (rest : List Char) :
    skipSpace (writeIndented line value ++ rest) = writeIndented line value ++ rest := by
  obtain ⟨first, others, written, solid, _⟩ := head_writeIndented line value integral
  rw [written]
  simp [skipSpace, solid]

/-- A value without binary64 numbers is read from its indented form by every reader that
takes containers as deep as it nests, if nothing behind it continues a number.

Proof: by induction on the value. A scalar is read as it is written; the parts of a
container stand on lines of their own, and each is read by a reader that takes one level
less. -/
theorem reads_writeIndented {value : Json} (denotable : value.Denotable)
    (integral : value.hasDouble = false) {depth : Nat} (shallow : value.nesting ≤ depth)
    (line : Nat) {rest : List Char} (stops : Stops rest) :
    readingOf (readValueAt depth) (writeIndented line value ++ rest) value rest := by
  induction denotable generalizing depth line rest with
  | null => exact readingOf_readValueAt_iff.mpr .null
  | bool value =>
    cases value with
    | true => exact readingOf_readValueAt_iff.mpr .yes
    | false => exact readingOf_readValueAt_iff.mpr .no
  | @int value least greatest =>
    have read := reads_readNumeral_int least greatest stops
    obtain ⟨first, others, written, starts⟩ := head_toString_int value
    rw [written] at read
    change readingOf _ ((toString value).toList ++ rest) _ _
    rw [written]
    exact readingOf_readValueAt_iff.mpr (.number starts read)
  | double => cases integral
  | str text =>
    have form : ValueForm depth ('"' :: (text.toList.flatMap escapeChar ++ '"' :: rest))
        (.str (String.ofList text.toList)) rest := .string (reads_writeString text.toList rest)
    rw [String.ofList_toList] at form
    change readingOf _ (writeString text ++ rest) _ _
    rw [readingOf_readValueAt_iff, writeString]
    simpa using form
  | @arr items each inductionHypothesis =>
    obtain ⟨inner, rfl, shallower⟩ := nesting_arr_le_iff.mp shallow
    rw [hasDouble, itemsHaveDouble_eq_false_iff] at integral
    rw [readingOf_readValueAt_iff]
    cases items with
    | nil => exact .array rfl (.empty rfl)
    | cons item items =>
      have written : writeIndented line (.arr (item :: items)) ++ rest =
          '[' :: (lined (line + 1) (writeIndented (line + 1)) (item :: items) ++
            (newLine line ++ ']' :: rest)) := by
        rw [writeIndented, writeItemLines_eq]
        simp
      rw [written]
      refine .array rfl (bracketed_lined (by decide) ?_ ?_ line (line + 1) rest)
      · intro item member
        obtain ⟨first, others, written, solid, open', _⟩ :=
          head_writeIndented (line + 1) item (integral item member)
        exact ⟨first, others, written, solid, open'⟩
      · intro item member rest stops
        rw [readingOf_afterSpace_iff, skipSpace_writeIndented _ (integral item member)]
        exact inductionHypothesis item member (integral item member) (shallower item member) _ stops
  | @obj entries distinct each inductionHypothesis =>
    obtain ⟨inner, rfl, shallower⟩ := nesting_obj_le_iff.mp shallow
    rw [hasDouble, entriesHaveDouble_eq_false_iff] at integral
    rw [readingOf_readValueAt_iff]
    cases entries with
    | nil => exact .object rfl (.empty rfl)
    | cons entry entries =>
      have written : writeIndented line (.obj (entry :: entries)) ++ rest =
          '\x7b' :: (lined (line + 1) (writeEntry (line + 1)) (entry :: entries) ++
            (newLine line ++ '\x7d' :: rest)) := by
        rw [writeIndented, writeEntryLines_eq]
        simp
      rw [written]
      conv => arg 3; rw [← Keyed.ofPairs_of_nodup distinct]
      refine .object rfl (bracketed_lined (by decide) ?_ ?_ line (line + 1) rest)
      · intro entry _
        exact ⟨'"', _, rfl, by decide, by decide⟩
      · rintro ⟨key, value⟩ member rest stops
        have read := inductionHypothesis _ member (integral _ member) (shallower _ member)
          (line + 1) stops
        let behind := ' ' :: (writeIndented (line + 1) value ++ rest)
        refine entryOf_iff.mpr ⟨_, key.toList, ':' :: behind, behind, ?_,
          reads_writeString key.toList _, rfl, value, ?_, by rw [String.ofList_toList]⟩
        · simp [writeEntry, writeString, behind]
        · rw [readingOf_afterSpace_iff]
          change readingOf _ (skipSpace (writeIndented (line + 1) value ++ rest)) _ _
          rw [skipSpace_writeIndented _ (integral _ member)]
          exact read

/-- A printed value is read by the readers that take containers as deep as it nests, and by
no others. -/
theorem parseWithin_indented {value : Json} (denotable : value.Denotable)
    (integral : value.hasDouble = false) (depth : Nat) :
    parseWithin depth (value.indented ++ "\n").toList = .ok value ↔ value.nesting ≤ depth := by
  constructor
  · exact fun parsed => (parseWithin_spec parsed).2
  · intro shallow
    have stops : Stops ['\n'] := by
      rintro c ⟨⟩
      decide
    have read := reads_writeIndented denotable integral shallow 0 stops
    have text : (value.indented ++ "\n").toList = writeIndented 0 value ++ ['\n'] := by
      rw [String.toList_append, indented, String.toList_ofList]
      rfl
    rw [parseWithin_eq_ok_iff, text, skipSpace_writeIndented 0 integral]
    exact ⟨['\n'], readingOf_readValueAt_iff.mp read, by decide⟩

/-- A reader of less depth refuses a printed value that nests deeper, whatever it would make
of it. -/
theorem parseWithin_indented_ne {value : Json} (denotable : value.Denotable)
    (integral : value.hasDouble = false) {depth : Nat} (deeper : depth < value.nesting)
    (other : Json) : parseWithin depth (value.indented ++ "\n").toList ≠ .ok other := by
  intro parsed
  have more := parseWithin_mono (Nat.le_of_lt deeper) parsed
  rw [(parseWithin_indented denotable integral value.nesting).mpr (Nat.le_refl _)] at more
  cases more
  exact absurd (parseWithin_spec parsed).2 (Nat.not_le.mpr deeper)

end ServiceWiring.Json
