import Mathlib.Data.List.Induction
import ServiceWiring.Proofs.Json.Atoms

/-!
# Lexemes of JSON texts

Every JSON text is a row of lexemes: blanks, strings, and single marks, which are
the characters of numbers, of literal names and of the punctuation. No mark is a
parenthesis, a star or a quote, and blanks are the four that JSON allows. So
whoever scans a JSON text lexeme by lexeme meets line feeds only between strings,
and other blanks, parentheses and stars only inside them.

The main statement is `lexed_of_parse`. It is proved by induction on how deep
containers may nest, and for the containers on the series of their parts.
-/

namespace ServiceWiring.Json

open Text (isBlank)

/-- The characters that stand for themselves between the strings of a text. -/
def isMark (c : Char) : Bool :=
  0x20 < c.toNat && !isBlank c && c != '"' && c != '(' && c != ')' && c != '*'

/-- The lexemes of a text. -/
inductive Lexeme : List Char → Prop
  | space {c : Char} (space : isSpace c = true) : Lexeme [c]
  | mark {c : Char} (mark : isMark c = true) : Lexeme [c]
  | string {body : List Char} (quoted : Quoted body) : Lexeme ('"' :: (body ++ ['"']))

/-- A text that is a row of lexemes. -/
def Lexed (text : List Char) : Prop :=
  ∃ lexemes : List (List Char), (∀ lexeme ∈ lexemes, Lexeme lexeme) ∧ text = lexemes.flatten

/-- The empty text is an empty row. -/
theorem lexed_nil : Lexed [] := ⟨[], by simp, rfl⟩

/-- A lexeme is a row by itself. -/
theorem Lexeme.lexed {lexeme : List Char} (isLexeme : Lexeme lexeme) : Lexed lexeme :=
  ⟨[lexeme], by simpa using isLexeme, by simp⟩

/-- Rows one behind the other are a row. -/
theorem Lexed.append {front back : List Char} (frontLexed : Lexed front) (backLexed : Lexed back) :
    Lexed (front ++ back) := by
  obtain ⟨fronts, frontLexemes, rfl⟩ := frontLexed
  obtain ⟨backs, backLexemes, rfl⟩ := backLexed
  refine ⟨fronts ++ backs, ?_, List.flatten_append.symm⟩
  rw [List.forall_mem_append]
  exact ⟨frontLexemes, backLexemes⟩

/-- Characters that are lexemes by themselves form a row. -/
theorem lexed_of_forall {text : List Char} (single : ∀ c ∈ text, Lexeme [c]) : Lexed text := by
  induction text with
  | nil => exact lexed_nil
  | cons c text inductionHypothesis =>
    rw [List.forall_mem_cons] at single
    exact single.1.lexed.append (inductionHypothesis single.2)

/-- Blanks form a row. -/
theorem lexed_of_spaces {text : List Char} (spaces : text.all isSpace = true) : Lexed text :=
  lexed_of_forall fun c member => .space (List.all_eq_true.mp spaces c member)

/-- Marks form a row. -/
theorem lexed_of_marks {text : List Char} (marks : text.all isMark = true) : Lexed text :=
  lexed_of_forall fun c member => .mark (List.all_eq_true.mp marks c member)

/-- The characters of numbers are marks. -/
theorem isMark_of_isNumeralChar {c : Char} (numeral : isNumeralChar c = true) :
    isMark c = true := by
  have small : c.toNat < 0x80 := by
    simp only [isNumeralChar, Char.isDigit, Bool.or_eq_true, Bool.and_eq_true, decide_eq_true_eq,
      beq_iff_eq] at numeral
    rcases numeral with ((((⟨_, digit⟩ | rfl) | rfl) | rfl) | rfl) | rfl
    · exact Nat.lt_of_le_of_lt (UInt32.le_iff_toNat_le.mp digit) (by decide)
    all_goals decide
  have all : ∀ code < 0x80, isNumeralChar (Char.ofNat code) = true →
      isMark (Char.ofNat code) = true := by decide
  have mark := all c.toNat small
  rw [Char.ofNat_toNat] at mark
  exact mark numeral

/-- Readings that take a row of lexemes from a text. -/
structure Lexes {α : Type} (reads : Reading α) : Prop where
  taken : ∀ {text : List Char} {value : α} {rest : List Char}, reads text value rest →
    ∃ taken, text = taken ++ rest ∧ Lexed taken

/-- Blanks before a text are a row of lexemes. -/
theorem skipSpace_split (text : List Char) :
    ∃ spaces, spaces.all isSpace = true ∧ text = spaces ++ skipSpace text := by
  obtain ⟨spaces, all, split, -⟩ := Text.exists_span isSpace text
  exact ⟨spaces, all, split⟩

/-- Further blanks before a text are skipped as well. -/
theorem skipSpace_append {spaces : List Char} (all : spaces.all isSpace = true)
    (text : List Char) : skipSpace (spaces ++ text) = skipSpace text :=
  Text.dropWhile_append_of_all all text

/-- A mark behind blanks is taken with them. -/
theorem lexed_to_mark {text rest : List Char} {mark : Char} (isMark : isMark mark = true)
    (skipped : skipSpace text = mark :: rest) : ∃ taken, text = taken ++ rest ∧ Lexed taken := by
  obtain ⟨spaces, all, split⟩ := skipSpace_split text
  refine ⟨spaces ++ [mark], ?_, (lexed_of_spaces all).append (Lexeme.mark isMark).lexed⟩
  rw [split, skipped]
  simp

section Containers

variable {α : Type} {part : Reading α} {close : Char}

/-- A part behind blanks is taken with them. -/
theorem Lexes.behind_space (lexes : Lexes part) {text rest : List Char} {item : α}
    (read : part (skipSpace text) item rest) : ∃ taken, text = taken ++ rest ∧ Lexed taken := by
  obtain ⟨spaces, all, split⟩ := skipSpace_split text
  obtain ⟨taken, takenSplit, lexed⟩ := lexes.taken read
  refine ⟨spaces ++ taken, ?_, (lexed_of_spaces all).append lexed⟩
  rw [List.append_assoc, ← takenSplit]
  exact split

/-- A series of parts is a row of lexemes. -/
theorem Lexes.series (lexes : Lexes part) (closeMark : isMark close = true) :
    Lexes (Series part close) := by
  constructor
  intro text items rest series
  induction series with
  | finish closing => exact lexed_to_mark closeMark closing
  | next comma present first others inductionHypothesis =>
    obtain ⟨front, rfl, frontLexed⟩ := lexed_to_mark (by decide) comma
    obtain ⟨item, itemSplit, itemLexed⟩ := lexes.behind_space first
    obtain ⟨more, moreSplit, moreLexed⟩ := inductionHypothesis
    refine ⟨front ++ (item ++ more), ?_, frontLexed.append (itemLexed.append moreLexed)⟩
    rw [itemSplit, moreSplit]
    simp

/-- The parts of a container are a row of lexemes. -/
theorem Lexes.bracketed (lexes : Lexes part) (closeMark : isMark close = true) :
    Lexes (Bracketed part close) := by
  constructor
  intro text items rest bracketed
  cases bracketed with
  | empty closing => exact lexed_to_mark closeMark closing
  | parts present first others =>
    obtain ⟨item, itemSplit, itemLexed⟩ := lexes.behind_space first
    obtain ⟨more, moreSplit, moreLexed⟩ := (lexes.series closeMark).taken others
    refine ⟨item ++ more, ?_, itemLexed.append moreLexed⟩
    rw [List.append_assoc, ← moreSplit]
    exact itemSplit

/-- The characters of a string, its quotes included, are a lexeme. -/
theorem lexed_string {tail rest characters : List Char}
    (read : Reads (readString tail) characters rest) :
    ∃ taken, '"' :: tail = taken ++ rest ∧ Lexed taken := by
  obtain ⟨body, split, quoted, -⟩ := takes_readString read
  refine ⟨'"' :: (body ++ ['"']), ?_, (Lexeme.string quoted).lexed⟩
  rw [split]
  simp

variable {value : ValueReader}

/-- An entry of an object is a row of lexemes if its value is. -/
theorem Lexes.entryOf (lexes : Lexes (readingOf value)) : Lexes (entryOf value) := by
  constructor
  intro text entry rest read
  obtain ⟨afterQuote, key, afterKey, afterColon, rfl, keyRead, colon, item, itemRead, -⟩ :=
    entryOf_iff.mp read
  obtain ⟨front, frontSplit, frontLexed⟩ := lexed_string keyRead
  obtain ⟨middle, middleSplit, middleLexed⟩ := lexed_to_mark (by decide) colon
  obtain ⟨back, backSplit, backLexed⟩ := lexes.taken itemRead
  refine ⟨front ++ (middle ++ back), ?_, frontLexed.append (middleLexed.append backLexed)⟩
  rw [frontSplit, middleSplit, backSplit]
  simp

end Containers

/-- A value is a row of lexemes if the values inside it are. -/
theorem lexed_of_form {depth : Nat}
    (nested : ∀ {inner}, depth = inner + 1 → Lexes (readingOf (readValueAt inner))) :
    Lexes (ValueForm depth) := by
  constructor
  intro text value rest form
  have nestedReader : ∀ {inner}, depth = inner + 1 → Lexes (readingOf (nestedReader inner)) := by
    intro inner deeper
    constructor
    intro text item rest read
    exact (nested deeper).behind_space (readingOf_afterSpace_iff.mp read)
  have marked : ∀ {mark : Char} {tail rest : List Char}, isMark mark = true →
      (∃ taken, tail = taken ++ rest ∧ Lexed taken) →
      ∃ taken, mark :: tail = taken ++ rest ∧ Lexed taken := by
    rintro mark tail rest isMark ⟨taken, split, lexed⟩
    exact ⟨mark :: taken, congrArg (mark :: ·) split, (Lexeme.mark isMark).lexed.append lexed⟩
  cases form with
  | null =>
    exact ⟨['n', 'u', 'l', 'l'], rfl, lexed_of_marks (by decide)⟩
  | yes =>
    exact ⟨['t', 'r', 'u', 'e'], rfl, lexed_of_marks (by decide)⟩
  | no =>
    exact ⟨['f', 'a', 'l', 's', 'e'], rfl, lexed_of_marks (by decide)⟩
  | number starts read =>
    obtain ⟨first, others, split, chars, -⟩ := takes_readNumeral read
    exact ⟨first :: others, split,
      lexed_of_forall fun c member => .mark (isMark_of_isNumeralChar (chars c member))⟩
  | string read => exact lexed_string read
  | array deeper read =>
    exact marked (by decide) (((nestedReader deeper).bracketed (by decide)).taken read)
  | object deeper read =>
    exact marked (by decide) (((nestedReader deeper).entryOf.bracketed (by decide)).taken read)

/-- A value is a row of lexemes, however deep it may be. -/
theorem lexes_readValueAt (depth : Nat) : Lexes (readingOf (readValueAt depth)) :=
  readValueAt_induction (fun _ nested => lexed_of_form nested) depth

/-- **Every JSON text is a row of lexemes.** -/
theorem lexed_of_parse {text : List Char} {value : Json} (parsed : parse text = .ok value) :
    Lexed text := by
  obtain ⟨rest, form, left⟩ := parse_eq_ok_iff.mp parsed
  obtain ⟨taken, split, lexed⟩ :=
    (lexes_readValueAt depthLimit).behind_space (readingOf_readValueAt_iff.mpr form)
  obtain ⟨spaces, all, restSplit⟩ := skipSpace_split rest
  rw [left, List.append_nil] at restSplit
  rw [split, restSplit]
  exact lexed.append (lexed_of_spaces all)

/-! ## Line feeds and ends -/

/-- The blanks of JSON are blanks. -/
theorem isBlank_of_isSpace {c : Char} (space : isSpace c = true) : isBlank c = true := by
  simp only [isSpace, Bool.or_eq_true, beq_iff_eq] at space
  rcases space with ((rfl | rfl) | rfl) | rfl <;> decide

/-- A mark is no blank and no star. -/
theorem isMark_spec {c : Char} (mark : isMark c = true) :
    0x20 < c.toNat ∧ isBlank c = false ∧ c ≠ '"' ∧ c ≠ '(' ∧ c ≠ ')' ∧ c ≠ '*' := by
  simpa [isMark, and_assoc] using mark

/-- A line feed stands between lexemes, so it parts a row of them into two. -/
theorem Lexed.split_feed {front back : List Char} (lexed : Lexed (front ++ '\n' :: back)) :
    Lexed front ∧ Lexed back := by
  obtain ⟨lexemes, areLexemes, split⟩ := lexed
  induction lexemes generalizing front with
  | nil => simp at split
  | cons lexeme lexemes inductionHypothesis =>
    rw [List.forall_mem_cons] at areLexemes
    rw [List.flatten_cons] at split
    by_cases feed : '\n' ∈ lexeme
    · have alone : lexeme = ['\n'] := by
        cases areLexemes.1 with
        | space _ => simpa [eq_comm] using feed
        | mark mark => simpa [eq_comm] using feed
        | string quoted =>
          -- A line feed inside a string would be a control character there.
          simp only [List.mem_cons, List.mem_append, List.not_mem_nil, or_false] at feed
          rcases feed with quote | inside | quote
          · cases quote
          · exact absurd (quoted.printable '\n' inside) (by decide)
          · cases quote
      subst alone
      cases front with
      | nil =>
        obtain rfl : back = lexemes.flatten := by simpa using split
        exact ⟨lexed_nil, lexemes, areLexemes.2, rfl⟩
      | cons c front =>
        obtain ⟨sameFirst, others⟩ := List.cons.inj split
        obtain ⟨frontLexed, backLexed⟩ := inductionHypothesis areLexemes.2 others
        rw [sameFirst]
        exact ⟨areLexemes.1.lexed.append frontLexed, backLexed⟩
    · obtain ⟨left, frontSplit, rest⟩ := Text.exists_left_of_lacks split feed
      obtain ⟨leftLexed, backLexed⟩ := inductionHypothesis areLexemes.2 rest.symm
      rw [frontSplit]
      exact ⟨areLexemes.1.lexed.append leftLexed, backLexed⟩

/-- The blanks before a row of lexemes are blanks of JSON, and no star follows them. -/
theorem Lexed.trimStart_split {text : List Char} (lexed : Lexed text) :
    ∃ spaces, spaces.all isSpace = true ∧ text = spaces ++ Text.trimStart text ∧
      (Text.trimStart text).head? ≠ some '*' := by
  obtain ⟨lexemes, areLexemes, rfl⟩ := lexed
  induction lexemes with
  | nil => exact ⟨[], rfl, rfl, by simp [Text.trimStart]⟩
  | cons lexeme lexemes inductionHypothesis =>
    rw [List.forall_mem_cons] at areLexemes
    rw [List.flatten_cons]
    cases areLexemes.1 with
    | @space c space =>
      obtain ⟨spaces, all, split, noStar⟩ := inductionHypothesis areLexemes.2
      have dropped : Text.trimStart ([c] ++ lexemes.flatten) = Text.trimStart lexemes.flatten := by
        simp [Text.trimStart, isBlank_of_isSpace space]
      rw [dropped]
      refine ⟨c :: spaces, ?_, congrArg (c :: ·) split, noStar⟩
      rw [List.all_cons, space, all, Bool.and_true]
    | mark mark =>
      obtain ⟨-, noBlank, -, -, -, noStar⟩ := isMark_spec mark
      refine ⟨[], rfl, ?_, ?_⟩
      · simp [Text.trimStart, noBlank]
      · simpa [Text.trimStart, noBlank] using noStar
    | string quoted =>
      have noBlank : isBlank '"' = false := by decide
      refine ⟨[], rfl, ?_, ?_⟩
      · simp [Text.trimStart, noBlank]
      · simp [Text.trimStart, noBlank]

/-- The blanks behind a row of lexemes are blanks of JSON. -/
theorem Lexed.trimEnd_split {text : List Char} (lexed : Lexed text) :
    ∃ spaces, spaces.all isSpace = true ∧ text = Text.trimEnd text ++ spaces := by
  obtain ⟨lexemes, areLexemes, rfl⟩ := lexed
  induction lexemes using List.reverseRecOn with
  | nil => exact ⟨[], rfl, rfl⟩
  | append_singleton lexemes lexeme inductionHypothesis =>
    rw [List.forall_mem_append] at areLexemes
    have isLexeme : Lexeme lexeme := areLexemes.2 lexeme (List.mem_singleton.mpr rfl)
    rw [List.flatten_append, List.flatten_cons, List.flatten_nil, List.append_nil]
    cases isLexeme with
    | @space c space =>
      obtain ⟨spaces, all, split⟩ := inductionHypothesis areLexemes.1
      refine ⟨spaces ++ [c], ?_, ?_⟩
      · rw [List.all_append, all]
        simpa using space
      · have blank : Text.allBlank [c] = true := by
          simpa [Text.allBlank] using isBlank_of_isSpace space
        rw [Text.trimEnd_append_blanks blank, ← List.append_assoc, ← split]
    | @mark c mark =>
      refine ⟨[], rfl, ?_⟩
      rw [List.append_nil]
      refine (Text.trimEnd_of_getLast ?_).symm
      simpa using (isMark_spec mark).2.1
    | @string body quoted =>
      refine ⟨[], rfl, ?_⟩
      rw [List.append_nil]
      refine (Text.trimEnd_of_getLast ?_).symm
      have whole : lexemes.flatten ++ '"' :: (body ++ ['"']) =
          (lexemes.flatten ++ '"' :: body) ++ ['"'] := by simp
      rw [whole, List.getLast?_concat]
      rintro c ⟨⟩
      decide

end ServiceWiring.Json
