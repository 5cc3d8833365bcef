import Mathlib.Data.List.Basic
import ServiceWiring.Toml.Quoted

/-!
# Strings that are written are read

A string is written in one of four forms. In the two forms with escapes every character
is written so that it is read by itself, whatever follows it. In the two forms without
escapes every character stands for itself, which is why these forms are only chosen for
strings in which no three apostrophes meet and which do not end in one.

The main statement is that reading a written string gives the string back, and leaves
what follows it, as long as this does not begin with a further mark.
-/

namespace ServiceWiring.Toml

open Text (isGap numeral? occurs)

/-! ## Single characters -/

section Steps

variable {quoting : Quoting} {c : Char} {rest : List Char}

/-- A character that may stand for itself does so. -/
theorem body_plain (unmarked : c ≠ quoting.mark) (unescaped : quoting.escapes = true → c ≠ '\\')
    (plain : isPlain c = true) :
    quoting.body false (c :: rest) = keep c (quoting.body false rest) := by
  have noBreak : lineBreak? (c :: rest) = none := by
    unfold lineBreak?
    split
    · simp_all [isPlain]
    · simp_all [isPlain]
    · rfl
  rw [Quoting.body, if_neg unmarked, if_neg fun both => unescaped both.1 both.2]
  split
  · simp_all
  · simp [plain]

/-- A line feed stands for itself in a string that may extend over lines. -/
theorem body_feed (unmarked : '\n' ≠ quoting.mark) (block : quoting.block = true) :
    quoting.body false ('\n' :: rest) = keep '\n' (quoting.body false rest) := by
  rw [Quoting.body, if_neg unmarked, if_neg (by simp)]
  split
  · rename_i next found
    obtain rfl : rest = next := by simpa [lineBreak?] using found
    simp [block]
  · simp_all [lineBreak?]

/-- An escape stands for its character. -/
theorem body_escape {after : List Char} (unmarked : '\\' ≠ quoting.mark)
    (escapes : quoting.escapes = true) (sameLine : lineBreak? (skipGaps rest) = none)
    (found : escape? rest = some (c, after)) :
    quoting.body false ('\\' :: rest) = keep c (quoting.body false after) := by
  rw [Quoting.body, if_neg unmarked, if_pos ⟨escapes, rfl⟩, if_neg (by simp [sameLine])]
  split
  · simp_all
  · simp_all

/-- A mark that closes nothing belongs to the string. -/
theorem body_mark (isOpen : quoting.closing? rest = none) :
    quoting.body false (quoting.mark :: rest) = keep quoting.mark (quoting.body false rest) := by
  rw [Quoting.body, if_pos rfl, isOpen]

/-- Behind the marks that close a string the text goes on. -/
theorem body_closing (unmarked : rest.head? ≠ some quoting.mark) :
    quoting.body false (List.replicate (if quoting.block then 3 else 1) quoting.mark ++ rest) =
      some ([], rest) := by
  cases block : quoting.block with
  | false => simp [Quoting.body, Quoting.closing?, block]
  | true =>
    have noMore : (rest.take 2).takeWhile (· == quoting.mark) = [] := by
      cases rest with
      | nil => rfl
      | cons first others =>
        have differs : first ≠ quoting.mark := by simpa using unmarked
        simp [differs]
    simp [Quoting.body, Quoting.closing?, block, List.replicate, noMore]

end Steps

/-- The characters that need an escape of four digits have one. -/
theorem codePoint?_hexadecimal {c : Char} (unprintable : isPlain c = false) (rest : List Char) :
    codePoint? 4 (hexadecimal c ++ rest) = some (c, rest) := by
  have small : c.toNat < 0x80 := by
    simp only [isPlain, Bool.or_eq_false_iff, Bool.and_eq_false_iff, decide_eq_false_iff_not,
      bne_eq_false_iff_eq] at unprintable
    omega
  have written : ∀ code < 0x80, (hexadecimal (Char.ofNat code)).length = 4 ∧
      numeral? 16 (hexadecimal (Char.ofNat code)) = some code := by
    decide +kernel
  obtain ⟨length, value⟩ := written c.toNat small
  rw [Char.ofNat_toNat] at length value
  have valid : c.toNat.isValidChar := c.valid
  rw [codePoint?, if_neg (by simp [length]), List.take_left' length, value]
  simp [valid, List.drop_left' length]

/-- Every character of a string with escapes is read as it was written. -/
theorem body_writeChar {quoting : Quoting} (escapes : quoting.escapes = true)
    (mark : quoting.mark = '"') (c : Char) (rest : List Char) :
    quoting.body false (quoting.writeChar c ++ rest) = keep c (quoting.body false rest) := by
  have unmarked : '\\' ≠ quoting.mark := by
    rw [mark]
    decide
  -- The character behind the backslash is no gap and starts no line break.
  have short : ∀ letter value : Char, isGap letter = false → letter ≠ '\n' → letter ≠ '\r' →
      letter ≠ 'u' → letter ≠ 'U' → shortEscape? letter = some value →
      quoting.body false ('\\' :: letter :: rest) = keep value (quoting.body false rest) := by
    intro letter value noGap noFeed noReturn noShort noLong stands
    refine body_escape unmarked escapes ?_ ?_
    · simp [skipGaps, noGap, lineBreak?, noFeed, noReturn]
    · rw [escape?, stands, Option.map_some]
      · exact noShort
      · exact noLong
  unfold Quoting.writeChar
  rw [if_neg (by simp [escapes])]
  split
  · rename_i self
    rcases self with rfl | rfl
    · exact short '"' '"' rfl (by decide) (by decide) (by decide) (by decide) rfl
    · exact short '\\' '\\' rfl (by decide) (by decide) (by decide) (by decide) rfl
  split
  · subst c
    exact short 'b' '\x08' rfl (by decide) (by decide) (by decide) (by decide) rfl
  split
  · subst c
    exact short 't' '\t' rfl (by decide) (by decide) (by decide) (by decide) rfl
  split
  · subst c
    split
    · rename_i block
      exact body_feed (by rw [mark]; decide) block
    · exact short 'n' '\n' rfl (by decide) (by decide) (by decide) (by decide) rfl
  split
  · subst c
    exact short 'f' '\x0c' rfl (by decide) (by decide) (by decide) (by decide) rfl
  split
  · subst c
    exact short 'r' '\r' rfl (by decide) (by decide) (by decide) (by decide) rfl
  rename_i self _ _ _ _ _
  rw [not_or] at self
  split
  · rename_i plain
    exact body_plain (mark ▸ self.1) (fun _ => self.2) plain
  · rename_i unprintable
    refine body_escape unmarked escapes ?_ ?_
    · simp [skipGaps, isGap, lineBreak?]
    · exact codePoint?_hexadecimal (Bool.eq_false_iff.mpr unprintable) rest

/-! ## Whole strings -/

/-- A string with escapes is read up to its closing marks. -/
theorem body_escaped {quoting : Quoting} (escapes : quoting.escapes = true)
    (mark : quoting.mark = '"') (text : List Char) {rest : List Char}
    (unmarked : rest.head? ≠ some '"') :
    quoting.body false (text.flatMap quoting.writeChar ++
      (List.replicate (if quoting.block then 3 else 1) quoting.mark ++ rest)) =
        some (text, rest) := by
  induction text with
  | nil => exact body_closing (mark ▸ unmarked)
  | cons c text inductionHypothesis =>
    rw [List.flatMap_cons, List.append_assoc, body_writeChar escapes mark, inductionHypothesis]
    rfl

/-- Whether a string can be written without escapes. -/
structure Verbatim (text : List Char) : Prop where
  plain : ∀ c ∈ text, c = '\n' ∨ isPlain c = true
  noMarks : occurs ['\'', '\'', '\''] text = false
  ending : text.getLast? ≠ some '\''

/-- What is behind the first character can be written without escapes, too. -/
theorem Verbatim.tail {c : Char} {text : List Char} (verbatim : Verbatim (c :: text)) :
    Verbatim text where
  plain d member := verbatim.plain d (List.mem_cons_of_mem c member)
  noMarks := by
    have none := verbatim.noMarks
    rw [occurs, Bool.or_eq_false_iff] at none
    exact none.2
  ending := by
    cases text with
    | nil => simp
    | cons d others => simpa [List.getLast?_cons_cons] using verbatim.ending

/-- An apostrophe inside such a string does not close it. -/
theorem Verbatim.closing?_eq_none {quoting : Quoting} (block : quoting.block = true)
    (mark : quoting.mark = '\'') {text : List Char} (verbatim : Verbatim ('\'' :: text))
    (rest : List Char) : quoting.closing? (text ++ rest) = none := by
  obtain ⟨_, noMarks, ending⟩ := verbatim
  rw [occurs, Bool.or_eq_false_iff] at noMarks
  match text with
  | [] => simp at ending
  | [c] =>
    have unmarked : c ≠ '\'' := by simpa using ending
    cases rest with
    | nil => simp [Quoting.closing?, block]
    | cons d rest => simp [Quoting.closing?, block, mark, unmarked]
  | c :: d :: text =>
    have apart : ¬(c = '\'' ∧ d = '\'') := by
      rintro ⟨rfl, rfl⟩
      simp at noMarks
    simp [Quoting.closing?, block, mark, apart]

/-- A string without escapes is read up to its closing marks. It has neither line feeds nor
apostrophes, unless there are three marks. -/
theorem body_verbatim {quoting : Quoting} (verbatim : quoting.escapes = false)
    (mark : quoting.mark = '\'') {text : List Char} (fits : Verbatim text)
    (single : quoting.block = false → '\n' ∉ text ∧ '\'' ∉ text) {rest : List Char}
    (unmarked : rest.head? ≠ some '\'') :
    quoting.body false (text ++
      (List.replicate (if quoting.block then 3 else 1) quoting.mark ++ rest)) =
        some (text, rest) := by
  induction text with
  | nil => exact body_closing (mark ▸ unmarked)
  | cons c text inductionHypothesis =>
    have others := inductionHypothesis fits.tail fun line =>
      ⟨fun member => (single line).1 (List.mem_cons_of_mem c member),
        fun member => (single line).2 (List.mem_cons_of_mem c member)⟩
    have step : quoting.body false (c :: (text ++
        (List.replicate (if quoting.block then 3 else 1) quoting.mark ++ rest))) =
          keep c (quoting.body false (text ++
            (List.replicate (if quoting.block then 3 else 1) quoting.mark ++ rest))) := by
      by_cases isMark : c = '\''
      · have block : quoting.block = true := by
          by_contra line
          exact (single (by simpa using line)).2 (isMark ▸ List.mem_cons_self)
        subst isMark
        rw [← mark]
        exact body_mark (Verbatim.closing?_eq_none block mark fits _)
      · rcases fits.plain c List.mem_cons_self with rfl | plain
        · have block : quoting.block = true := by
            by_contra line
            exact (single (by simpa using line)).1 List.mem_cons_self
          exact body_feed (by rw [mark]; decide) block
        · exact body_plain (mark ▸ isMark) (fun escapes => by simp [verbatim] at escapes) plain
    rw [List.cons_append, step, others]
    rfl

/-- A string in its preferred form is a string of that form. -/
theorem preferred_cases (text : List Char) :
    Quoting.preferred text = ⟨'"', true, text.contains '\n'⟩ ∨
      Quoting.preferred text = ⟨'\'', false, text.contains '\n' || text.contains '\''⟩ ∧
        Verbatim text ∧ text ≠ [] := by
  rw [Quoting.preferred]
  split
  · rename_i literal
    simp only [Bool.and_eq_true, Bool.or_eq_true, List.contains_iff_mem, List.all_eq_true,
      beq_iff_eq, Bool.not_eq_true', bne_iff_ne, ne_eq] at literal
    obtain ⟨⟨⟨special, plain⟩, noMarks⟩, ending⟩ := literal
    refine .inr ⟨rfl, ⟨plain, noMarks, ending⟩, ?_⟩
    rintro rfl
    simp at special
  · exact .inl rfl

/-- No character with escapes begins with a mark. -/
theorem head?_writeChar {quoting : Quoting} (escapes : quoting.escapes = true) (c : Char) :
    ∃ first others, quoting.writeChar c = first :: others ∧ first ≠ '"' := by
  unfold Quoting.writeChar
  rw [if_neg (by simp [escapes])]
  repeat' split
  all_goals simp_all

/-- A string that is written with escapes is read. -/
theorem readString?_escaped (text : List Char) {rest : List Char}
    (unmarked : rest.head? ≠ some '"') :
    readString? (Quoting.write ⟨'"', true, text.contains '\n'⟩ text ++ rest) =
      some (text, rest) := by
  rw [Quoting.write]
  cases block : text.contains '\n' with
  | true =>
    have whole := @body_escaped ⟨'"', true, true⟩ rfl rfl text rest unmarked
    simpa [readString?, lineBreak?, List.replicate] using whole
  | false =>
    have whole := @body_escaped ⟨'"', true, false⟩ rfl rfl text rest unmarked
    -- Only the empty string has a mark right behind the first one.
    cases text with
    | nil =>
      cases rest with
      | nil => simpa [readString?, List.replicate] using whole
      | cons c others =>
        have noThird : c ≠ '"' := by simpa using unmarked
        simpa [readString?, List.replicate, noThird] using whole
    | cons c others =>
      obtain ⟨first, more, written, noSecond⟩ :=
        @head?_writeChar ⟨'"', true, false⟩ rfl c
      simp only [List.flatMap_cons, written] at whole ⊢
      simpa [readString?, List.replicate, noSecond] using whole

/-- A string that is written without escapes is read. -/
theorem readString?_verbatim {text : List Char} (fits : Verbatim text) (present : text ≠ [])
    {rest : List Char} (unmarked : rest.head? ≠ some '\'') :
    readString? (Quoting.write ⟨'\'', false, text.contains '\n' || text.contains '\''⟩ text ++
      rest) = some (text, rest) := by
  obtain ⟨c, others, rfl⟩ := List.exists_cons_of_ne_nil present
  have asIs : ∀ block, (c :: others).flatMap (Quoting.writeChar ⟨'\'', false, block⟩) =
      c :: others := fun _ => List.flatMap_singleton' _
  have inBlock := @body_verbatim ⟨'\'', false, true⟩ rfl rfl _ fits (by simp) rest unmarked
  rw [Quoting.write, asIs]
  cases feeds : (c :: others).contains '\n' with
  | true => simpa [readString?, lineBreak?, List.replicate] using inBlock
  | false =>
    have noFeed : '\n' ∉ c :: others := by simpa using feeds
    cases marks : (c :: others).contains '\'' with
    | true =>
      have noBreak : ∀ following, lineBreak? (c :: following) = none := by
        intro following
        unfold lineBreak?
        split
        · simp_all
        · rcases fits.plain c List.mem_cons_self with feed | plain
          · simp_all
          · simp_all [isPlain]
        · rfl
      simpa [readString?, List.replicate, noBreak] using inBlock
    | false =>
      have noMark : '\'' ∉ c :: others := by simpa using marks
      have whole := @body_verbatim ⟨'\'', false, false⟩ rfl rfl _ fits
        (fun _ => ⟨noFeed, noMark⟩) rest unmarked
      have noSecond : c ≠ '\'' := fun same => noMark (same ▸ List.mem_cons_self)
      simpa [readString?, List.replicate, noSecond] using whole

/-- A written string is read, and what follows it is left. -/
theorem readString?_writeString (text : String) {rest : List Char}
    (noQuote : rest.head? ≠ some '"') (noApostrophe : rest.head? ≠ some '\'') :
    readString? (writeString text ++ rest) = some (text.toList, rest) := by
  rw [writeString]
  rcases preferred_cases text.toList with form | ⟨form, fits, present⟩
  · rw [form]
    exact readString?_escaped text.toList noQuote
  · rw [form]
    exact readString?_verbatim fits present noApostrophe

/-- A written string begins with a mark. -/
theorem head?_writeString (text : String) :
    ∃ mark others, writeString text = mark :: others ∧ (mark = '"' ∨ mark = '\'') := by
  rw [writeString]
  rcases preferred_cases text.toList with form | ⟨form, _, _⟩
  · rw [form, Quoting.write]
    split <;> exact ⟨'"', _, rfl, .inl rfl⟩
  · rw [form, Quoting.write]
    split <;> exact ⟨'\'', _, rfl, .inr rfl⟩

end ServiceWiring.Toml
