import ServiceWiring.Proofs.Json.Lexemes

/-!
# The grammar of JSON texts

What a JSON text is, said by its grammar and without a reader. The grammar sets no bounds:
containers nest as deep as they like, a number has as many digits as it likes, and a string
may spell one half of a surrogate pair. Readers give up on some of these texts, and take no
others.

The main statement is that every text of the grammar is a row of lexemes. What holds of rows
of lexemes therefore holds of all JSON texts, and not only of those that a reader takes.
-/

namespace ServiceWiring.Json

open Text (hexValue?)

/-- Digits, one at least. -/
def IsDigits (text : List Char) : Prop := text ≠ [] ∧ text.all Char.isDigit = true

/-- Numbers: an integer without needless zeros before it, perhaps with a sign, and perhaps
with a fraction and an exponent behind it. -/
inductive NumberText : List Char → Prop
  | of {sign integer fraction exponent : List Char} (signed : sign = [] ∨ sign = ['-'])
    (whole : IsDigits integer) (least : integer = ['0'] ∨ integer.head? ≠ some '0')
    (parted : fraction = [] ∨ ∃ digits, IsDigits digits ∧ fraction = '.' :: digits)
    (scaled : exponent = [] ∨ ∃ mark ∈ ['e', 'E'], ∃ direction ∈ [[], ['+'], ['-']], ∃ digits,
      IsDigits digits ∧ exponent = mark :: (direction ++ digits)) :
    NumberText (sign ++ (integer ++ (fraction ++ exponent)))

/-- Strings between their quotes. -/
inductive StringText : List Char → Prop
  | nil : StringText []
  | plain {c : Char} {rest : List Char} (notQuote : c ≠ '"') (notEscape : c ≠ '\\')
    (printable : 0x20 ≤ c.toNat) (others : StringText rest) : StringText (c :: rest)
  | short {c : Char} {rest : List Char} (listed : c ∈ ['"', '\\', '/', 'b', 'f', 'n', 'r', 't'])
    (others : StringText rest) : StringText ('\\' :: c :: rest)
  | unit {digits rest : List Char} (four : digits.length = 4)
    (hexadecimal : ∀ c ∈ digits, (hexValue? c).isSome = true) (others : StringText rest) :
    StringText ('\\' :: 'u' :: (digits ++ rest))

/-- What the rules of the grammar are about. -/
inductive Symbol
  /-- A value with blanks around it. -/
  | text
  | value
  /-- The items of an array that is not empty. -/
  | items
  /-- The entries of an object that is not empty. -/
  | entries
deriving DecidableEq, Repr

/-- The rules of the grammar. -/
inductive Derives : Symbol → List Char → Prop
  | text {front value back : List Char} (before : front.all isSpace = true)
    (inside : Derives .value value) (behind : back.all isSpace = true) :
    Derives .text (front ++ (value ++ back))
  | word {word : List Char}
    (listed : word ∈ ["null".toList, "true".toList, "false".toList]) : Derives .value word
  | number {text : List Char} (number : NumberText text) : Derives .value text
  | string {body : List Char} (string : StringText body) :
    Derives .value ('"' :: (body ++ ['"']))
  | emptyArray {blank : List Char} (spaces : blank.all isSpace = true) :
    Derives .value ('[' :: (blank ++ [']']))
  | array {items : List Char} (inside : Derives .items items) :
    Derives .value ('[' :: (items ++ [']']))
  | emptyObject {blank : List Char} (spaces : blank.all isSpace = true) :
    Derives .value ('\x7b' :: (blank ++ ['\x7d']))
  | object {entries : List Char} (inside : Derives .entries entries) :
    Derives .value ('\x7b' :: (entries ++ ['\x7d']))
  | item {item : List Char} (only : Derives .text item) : Derives .items item
  | items {item others : List Char} (first : Derives .text item)
    (further : Derives .items others) : Derives .items (item ++ ',' :: others)
  | entry {front key back value : List Char} (before : front.all isSpace = true)
    (named : StringText key) (behind : back.all isSpace = true) (only : Derives .text value) :
    Derives .entries (front ++ ('"' :: (key ++ '"' :: (back ++ ':' :: value))))
  | entries {front others : List Char} (first : Derives .entries front)
    (further : Derives .entries others) : Derives .entries (front ++ ',' :: others)

/-- The characters of a number are those that numbers are made of. -/
theorem NumberText.all_isNumeralChar {text : List Char} (number : NumberText text) :
    ∀ c ∈ text, isNumeralChar c = true := by
  have digit : ∀ {digits : List Char}, IsDigits digits → ∀ c ∈ digits, isNumeralChar c = true := by
    intro digits areDigits c member
    simp [isNumeralChar, List.all_eq_true.mp areDigits.2 c member]
  cases number with
  | of signed whole _ parted scaled =>
    simp only [List.forall_mem_append]
    refine ⟨?_, digit whole, ?_, ?_⟩
    · rcases signed with rfl | rfl <;> exact List.all_eq_true.mp (by decide)
    · rcases parted with rfl | ⟨digits, areDigits, rfl⟩
      · simp
      · exact List.forall_mem_cons.mpr ⟨by decide, digit areDigits⟩
    · rcases scaled with rfl | ⟨mark, listed, direction, chosen, digits, areDigits, rfl⟩
      · simp
      · simp only [List.mem_cons, List.not_mem_nil, or_false] at listed chosen
        refine List.forall_mem_cons.mpr ⟨?_, List.forall_mem_append.mpr ⟨?_, digit areDigits⟩⟩
        · rcases listed with rfl | rfl <;> decide
        · rcases chosen with rfl | rfl | rfl <;> exact List.all_eq_true.mp (by decide)

/-- Hexadecimal digits need no escape, so they can stand before a quoted text. -/
theorem Quoted.hexadecimal {digits rest : List Char}
    (hexadecimal : ∀ c ∈ digits, (hexValue? c).isSome = true) (others : Quoted rest) :
    Quoted (digits ++ rest) := by
  induction digits with
  | nil => exact others
  | cons c digits inductionHypothesis =>
    obtain ⟨first, further⟩ := List.forall_mem_cons.mp hexadecimal
    obtain ⟨value, known⟩ := Option.isSome_iff_exists.mp first
    obtain ⟨notQuote, notEscape, printable⟩ := plain_of_hexValue? known
    exact .plain notQuote notEscape printable (inductionHypothesis further)

/-- A string of the grammar is quoted. -/
theorem StringText.quoted {body : List Char} (string : StringText body) : Quoted body := by
  induction string with
  | nil => exact .nil
  | plain notQuote notEscape printable _ inductionHypothesis =>
    exact .plain notQuote notEscape printable inductionHypothesis
  | short listed _ inductionHypothesis =>
    refine .escaped ?_ inductionHypothesis
    have printable : ∀ c ∈ ['"', '\\', '/', 'b', 'f', 'n', 'r', 't'], 0x20 ≤ c.toNat := by simp
    exact printable _ listed
  | unit _ hexadecimal _ inductionHypothesis =>
    exact .escaped (by decide) (.hexadecimal hexadecimal inductionHypothesis)

/-- A string between its quotes is a row of one lexeme. -/
theorem StringText.lexed {body : List Char} (string : StringText body) :
    Lexed ('"' :: (body ++ ['"'])) :=
  (Lexeme.string string.quoted).lexed

/-- A mark and a row behind it are a row. -/
theorem Lexed.cons_mark {mark : Char} {text : List Char} (isMark : isMark mark = true)
    (lexed : Lexed text) : Lexed (mark :: text) :=
  (Lexeme.mark isMark).lexed.append lexed

/-- A row between two marks is a row. -/
theorem Lexed.between_marks {opening closing : Char} {text : List Char}
    (opens : isMark opening = true) (closes : isMark closing = true) (lexed : Lexed text) :
    Lexed (opening :: (text ++ [closing])) :=
  .cons_mark opens (lexed.append (Lexeme.mark closes).lexed)

/-- **Every text of the grammar is a row of lexemes.** -/
theorem Derives.lexed {symbol : Symbol} {text : List Char} (derived : Derives symbol text) :
    Lexed text := by
  induction derived with
  | text before _ behind inside =>
    exact (lexed_of_spaces before).append (inside.append (lexed_of_spaces behind))
  | word listed =>
    simp only [List.mem_cons, List.not_mem_nil, or_false] at listed
    rcases listed with rfl | rfl | rfl <;> exact lexed_of_marks (by decide)
  | number number =>
    exact lexed_of_forall fun c member =>
      .mark (isMark_of_isNumeralChar (number.all_isNumeralChar c member))
  | string string => exact string.lexed
  | emptyArray spaces | emptyObject spaces =>
    exact .between_marks (by decide) (by decide) (lexed_of_spaces spaces)
  | array _ inside | object _ inside => exact .between_marks (by decide) (by decide) inside
  | item _ only => exact only
  | items _ _ first further | entries _ _ first further =>
    exact first.append (.cons_mark (by decide) further)
  | entry before named behind _ only =>
    refine (lexed_of_spaces before).append ?_
    have colon : isMark ':' = true := by decide
    have valued := (lexed_of_spaces behind).append (.cons_mark colon only)
    simpa using named.lexed.append valued

end ServiceWiring.Json
