import ServiceWiring.Class.Members

/-!
# Code and its first level

Source code as a sequence of items: plain characters, quoted strings, line and block
comments, attribute groups, and blocks of further code in braces, nested to any depth.
The text of some code is written down by a function on it, and so is its first level,
in which a single space stands for every item that is not a plain character.

The main statement is that the members of a body are the first level of its code,
whatever the code before the body is, as long as it opens no brace, and whatever text
follows the body. It rests on a lemma for every kind of item, which says that reading
the item stops right behind it.
-/

namespace ServiceWiring.Source

open Text (occurs)

/-- A unit of a quoted string: a character that stands for itself, or a character behind
a backslash. -/
inductive Letter
  | plain (c : Char)
  | escaped (c : Char)

namespace Letter

/-- The letter as it is written. -/
def text : Letter → List Char
  | plain c => [c]
  | escaped c => ['\\', c]

/-- Whether a string that started with the quote goes on behind the letter. -/
def fits (quote : Char) : Letter → Bool
  | plain c => c != quote && c != '\\'
  | escaped _ => true

end Letter

/-- A string between two equal quotes. -/
structure Quoted where
  quote : Char
  letters : List Letter
  starts : isQuote quote = true
  fits : letters.all (Letter.fits quote) = true

/-- The string with its quotes. -/
def Quoted.text (string : Quoted) : List Char :=
  string.quote :: (string.letters.flatMap Letter.text ++ [string.quote])

/-- A comment up to the end of its line, which does not belong to it. -/
structure LineComment where
  text : List Char
  marked : ['/', '/'] <+: text ∨ text.head? = some '#' ∧ text.tail.head? ≠ some '['
  oneLine : '\n' ∉ text

/-- A comment between two marks. -/
structure BlockComment where
  inside : List Char
  isOpen : occurs ['*', '/'] inside = false

/-- The comment with its marks. -/
def BlockComment.text (comment : BlockComment) : List Char :=
  '/' :: '*' :: (comment.inside ++ ['*', '/'])

/-- What stands in an attribute group: characters, strings and further brackets. -/
inductive Brackets
  | done
  | plain (c : Char) (rest : Brackets)
  | quoted (string : Quoted) (rest : Brackets)
  | group (inner rest : Brackets)

namespace Brackets

/-- What stands between the brackets. -/
def text : Brackets → List Char
  | done => []
  | plain c rest => c :: rest.text
  | quoted string rest => string.text ++ rest.text
  | group inner rest => '[' :: (inner.text ++ ']' :: rest.text)

/-- Whether no character is a quote or a bracket. -/
def fits : Brackets → Bool
  | done => true
  | plain c rest => !isQuote c && c != '[' && c != ']' && rest.fits
  | quoted _ rest => rest.fits
  | group inner rest => inner.fits && rest.fits

end Brackets

/-- Source code, item by item. A line comment is followed by a line feed. -/
inductive Code
  | done
  | plain (c : Char) (rest : Code)
  | quoted (string : Quoted) (rest : Code)
  | lineComment (comment : LineComment) (rest : Code)
  | blockComment (comment : BlockComment) (rest : Code)
  | attributes (group : Brackets) (rest : Code)
  | block (inner rest : Code)

/-- Whether a character is code of its own before another one. Quotes, braces and `#`
start or end something else, and so does a slash before a slash or a star. -/
def isPlain (c next : Char) : Bool :=
  !isQuote c && c != '#' && c != '\x7b' && c != '\x7d' &&
    !(c == '/' && (next == '/' || next == '*'))

namespace Code

/-- The code as it is written. -/
def text : Code → List Char
  | done => []
  | plain c rest => c :: rest.text
  | quoted string rest => string.text ++ rest.text
  | lineComment comment rest => comment.text ++ '\n' :: rest.text
  | blockComment comment rest => comment.text ++ rest.text
  | attributes group rest => '#' :: '[' :: (group.text ++ ']' :: rest.text)
  | block inner rest => '\x7b' :: (inner.text ++ '\x7d' :: rest.text)

/-- The plain characters, with a space in the place of each other item. -/
def firstLevel : Code → List Char
  | done => []
  | plain c rest => c :: rest.firstLevel
  | lineComment _ rest => ' ' :: '\n' :: rest.firstLevel
  | quoted _ rest | blockComment _ rest | attributes _ rest | block _ rest =>
    ' ' :: rest.firstLevel

/-- Whether every plain character is one where it stands, the last of them before the
character `next`. -/
def fits (next : Char) : Code → Bool
  | done => true
  | plain c rest => isPlain c (rest.text.headD next) && rest.fits next
  | quoted _ rest | lineComment _ rest | blockComment _ rest => rest.fits next
  | attributes group rest => group.fits && rest.fits next
  | block inner rest => inner.fits '\x7d' && rest.fits next

/-- Whether the code holds no block. -/
def flat : Code → Bool
  | done => true
  | block _ _ => false
  | plain _ rest | quoted _ rest | lineComment _ rest | blockComment _ rest
  | attributes _ rest => rest.flat

/-- Two pieces of code, one after the other. -/
def append : Code → Code → Code
  | done, other => other
  | plain c rest, other => plain c (rest.append other)
  | quoted string rest, other => quoted string (rest.append other)
  | lineComment comment rest, other => lineComment comment (rest.append other)
  | blockComment comment rest, other => blockComment comment (rest.append other)
  | attributes group rest, other => attributes group (rest.append other)
  | block inner rest, other => block inner (rest.append other)

instance : Append Code := ⟨append⟩

/-- Plain characters as code. -/
def ofChars : List Char → Code
  | [] => done
  | c :: rest => plain c (ofChars rest)

/-- The text of two pieces of code is that of the first and that of the second. -/
@[simp] theorem text_append (code other : Code) :
    (code ++ other).text = code.text ++ other.text := by
  change (code.append other).text = _
  induction code <;> simp_all [append, text]

/-- So is their first level. -/
@[simp] theorem firstLevel_append (code other : Code) :
    (code ++ other).firstLevel = code.firstLevel ++ other.firstLevel := by
  change (code.append other).firstLevel = _
  induction code <;> simp_all [append, firstLevel]

/-- The last character of the first piece stands before the second one. -/
@[simp] theorem fits_append (next : Char) (code other : Code) :
    (code ++ other).fits next = (code.fits (other.text.headD next) && other.fits next) := by
  have texts : ∀ code : Code, (code.append other).text = code.text ++ other.text :=
    fun code => text_append code other
  change (code.append other).fits next = _
  induction code with
  | done => simp [append, fits]
  | plain c rest inductionHypothesis =>
    simp [append, fits, inductionHypothesis, texts, Bool.and_assoc]
  | quoted | lineComment | blockComment => simp_all [append, fits]
  | attributes | block => simp_all [append, fits, Bool.and_assoc]

/-- Plain characters are written as they are. -/
@[simp] theorem text_ofChars (chars : List Char) : (ofChars chars).text = chars := by
  induction chars <;> simp_all [ofChars, text]

/-- Plain characters are all at the first level. -/
@[simp] theorem firstLevel_ofChars (chars : List Char) : (ofChars chars).firstLevel = chars := by
  induction chars <;> simp_all [ofChars, firstLevel]

/-- Characters that are plain before every other one make code. -/
theorem fits_ofChars {chars : List Char} (plain : ∀ c ∈ chars, ∀ next, isPlain c next = true)
    (next : Char) : (ofChars chars).fits next = true := by
  induction chars with
  | nil => rfl
  | cons c rest inductionHypothesis =>
    have first := plain c List.mem_cons_self
    have others := inductionHypothesis fun d member => plain d (List.mem_cons_of_mem c member)
    simp [ofChars, fits, first, others]

end Code

/-! ## Where items end -/

/-- A string ends behind the quote that closes it. -/
theorem afterString_letters {quote : Char} (starts : isQuote quote = true)
    {letters : List Letter} (fits : letters.all (Letter.fits quote) = true)
    (following : List Char) :
    afterString quote (letters.flatMap Letter.text ++ quote :: following) = following := by
  induction letters with
  | nil =>
    have noEscape : quote ≠ '\\' := by
      rintro rfl
      exact absurd starts (by decide)
    simp [afterString, noEscape]
  | cons letter letters inductionHypothesis =>
    rw [List.all_cons, Bool.and_eq_true] at fits
    obtain ⟨first, others⟩ := fits
    have ended := inductionHypothesis others
    rw [List.flatMap_cons, List.append_assoc]
    cases letter with
    | plain c =>
      simp only [Letter.fits, Bool.and_eq_true, bne_iff_ne, ne_eq] at first
      simp [Letter.text, afterString, first.1, first.2, ended]
    | escaped c => simp [Letter.text, afterString, ended]

/-- A line comment ends before the line feed. -/
theorem afterLine_eq {text : List Char} (oneLine : '\n' ∉ text) (following : List Char) :
    afterLine (text ++ '\n' :: following) = '\n' :: following := by
  have inside : ∀ c ∈ text, (c != '\n') = true := by
    intro c member
    rw [bne_iff_ne]
    rintro rfl
    exact oneLine member
  simp [afterLine, List.dropWhile_append_of_pos inside]

/-- A block comment ends behind its first end mark. -/
theorem afterBlockComment_eq {inside : List Char}
    (isOpen : occurs ['*', '/'] inside = false) (following : List Char) :
    afterBlockComment (inside ++ '*' :: '/' :: following) = following := by
  induction inside with
  | nil => simp [afterBlockComment]
  | cons c rest inductionHypothesis =>
    simp only [occurs, Bool.or_eq_false_iff] at isOpen
    have noMark : ∀ tail, c = '*' → rest ++ '*' :: '/' :: following = '/' :: tail → False := by
      intro tail star slash
      cases rest with
      | nil => simp at slash
      | cons d others => simp_all
    rw [List.cons_append, afterBlockComment.eq_3 _ _ noMark]
    exact inductionHypothesis isOpen.2

namespace Brackets

/-- Balanced brackets leave as many brackets open as there were. -/
theorem afterAttribute_text {brackets : Brackets} (fits : brackets.fits = true) (depth : Nat)
    (following : List Char) :
    afterAttribute (depth + 1) (brackets.text ++ following) =
      afterAttribute (depth + 1) following := by
  induction brackets generalizing depth following with
  | done => rfl
  | plain c rest inductionHypothesis =>
    simp only [Brackets.fits, Bool.and_eq_true, Bool.not_eq_true', bne_iff_ne, ne_eq] at fits
    obtain ⟨⟨⟨noQuote, noOpening⟩, noClosing⟩, others⟩ := fits
    rw [text, List.cons_append, afterAttribute]
    simp [noQuote, noOpening, noClosing, inductionHypothesis others]
  | quoted string rest inductionHypothesis =>
    have ended := afterString_letters string.starts string.fits (rest.text ++ following)
    rw [text, Quoted.text, List.cons_append, List.cons_append, afterAttribute,
      if_pos string.starts]
    simpa [ended] using inductionHypothesis fits depth following
  | group inner rest innerHypothesis restHypothesis =>
    simp only [Brackets.fits, Bool.and_eq_true] at fits
    have opening : isQuote '[' = false := by decide
    have closing : isQuote ']' = false := by decide
    rw [text, List.cons_append, List.append_assoc, afterAttribute, if_neg (by simp [opening]),
      if_pos rfl, innerHypothesis fits.1, List.cons_append, afterAttribute]
    simp [closing, restHypothesis fits.2]

/-- An attribute group ends behind the bracket that closes it. -/
theorem afterAttribute_eq {brackets : Brackets} (fits : brackets.fits = true)
    (following : List Char) :
    afterAttribute 0 ('[' :: (brackets.text ++ ']' :: following)) = following := by
  have opening : isQuote '[' = false := by decide
  have closing : isQuote ']' = false := by decide
  rw [afterAttribute, if_neg (by simp [opening]), if_pos rfl,
    afterAttribute_text fits 0 (']' :: following), afterAttribute]
  simp [closing]

end Brackets

/-! ## What items contribute -/

/-- A plain character is a piece of its own. -/
theorem nextPiece_plain {c next : Char} (plain : isPlain c next = true)
    {following : List Char} (starts : following.head? = some next) :
    nextPiece c following = (.plain c, following) := by
  simp only [isPlain, Bool.and_eq_true, Bool.not_eq_true', bne_iff_ne, ne_eq,
    Bool.and_eq_false_iff, beq_eq_false_iff_ne, Bool.or_eq_false_iff] at plain
  obtain ⟨⟨⟨⟨noQuote, noHash⟩, noOpening⟩, noClosing⟩, noComment⟩ := plain
  have noLine : ¬(c = '/' ∧ following.head? = some '/') := by
    rw [starts, Option.some.injEq]
    rcases noComment with noSlash | ⟨noSecond, _⟩
    · exact fun both => noSlash both.1
    · exact fun both => noSecond both.2
  have noBlock : ¬(c = '/' ∧ following.head? = some '*') := by
    rw [starts, Option.some.injEq]
    rcases noComment with noSlash | ⟨_, noStar⟩
    · exact fun both => noSlash both.1
    · exact fun both => noStar both.2
  simp [nextPiece, noQuote, noHash, noOpening, noClosing, noLine, noBlock]

/-- A line comment is left out up to its line feed. -/
theorem nextPiece_lineComment (comment : LineComment) (following : List Char) :
    ∃ c rest, comment.text ++ '\n' :: following = c :: rest ∧
      nextPiece c rest = (.aside, '\n' :: following) := by
  obtain ⟨text, marked, oneLine⟩ := comment
  rcases marked with ⟨rest, rfl⟩ | ⟨hash, noGroup⟩
  · have oneLine : '\n' ∉ '/' :: rest := by simp_all
    have ended := afterLine_eq oneLine following
    refine ⟨'/', '/' :: rest ++ '\n' :: following, rfl, ?_⟩
    have noQuote : isQuote '/' = false := by decide
    rw [nextPiece, if_neg (by simp [noQuote]), if_pos (by simp), ended]
  · cases text with
    | nil => simp at hash
    | cons c rest =>
      obtain rfl : c = '#' := by simpa using hash
      rw [List.mem_cons, not_or] at oneLine
      have ended := afterLine_eq oneLine.2 following
      have noQuote : isQuote '#' = false := by decide
      have noBracket : (rest ++ '\n' :: following).head? ≠ some '[' := by
        cases rest with
        | nil => simp
        | cons d others => simpa using noGroup
      refine ⟨'#', rest ++ '\n' :: following, rfl, ?_⟩
      rw [nextPiece, if_neg (by simp [noQuote]), if_neg (by simp), if_neg (by simp),
        if_neg (fun both => noBracket both.2), if_pos rfl, ended]

section Steps

variable {c : Char} {rest after : List Char} (depth : Nat)

/-- Plain characters belong to the first level of the body. -/
theorem membersAt_plain {code : Char} (piece : nextPiece c rest = (.plain code, after)) :
    membersAt depth (c :: rest) = (if depth = 1 then [code] else []) ++ membersAt depth after := by
  rw [membersAt]
  split <;> rename_i found <;> rw [piece] at found <;> cases found
  by_cases first : depth = 1 <;> simp [first]

/-- What is left out counts as a space at the first level of the body. -/
theorem membersAt_aside (piece : nextPiece c rest = (.aside, after)) :
    membersAt depth (c :: rest) = (if depth = 1 then [' '] else []) ++ membersAt depth after := by
  rw [membersAt]
  split <;> rename_i found <;> rw [piece] at found <;> cases found
  by_cases first : depth = 1 <;> simp [first]

/-- A brace that opens a block inside the body counts as a space at its first level. -/
theorem membersAt_opening (rest : List Char) :
    membersAt depth ('\x7b' :: rest) =
      (if depth = 1 then [' '] else []) ++ membersAt (depth + 1) rest := by
  have piece : nextPiece '\x7b' rest = (.opening, rest) := by
    simp [nextPiece, isQuote]
  rw [membersAt]
  split <;> rename_i found <;> rw [piece] at found <;> cases found
  by_cases first : depth = 1 <;> simp [first]

/-- A brace that closes a block leads back to the level around it. -/
theorem membersAt_closing (rest : List Char) :
    membersAt (depth + 2) ('\x7d' :: rest) = membersAt (depth + 1) rest := by
  have piece : nextPiece '\x7d' rest = (.closing, rest) := by
    simp [nextPiece, isQuote]
  rw [membersAt]
  split <;> rename_i found <;> rw [piece] at found <;> cases found
  simp

/-- The brace that closes the body ends its members. -/
theorem membersAt_end (rest : List Char) : membersAt 1 ('\x7d' :: rest) = [] := by
  have piece : nextPiece '\x7d' rest = (.closing, rest) := by
    simp [nextPiece, isQuote]
  rw [membersAt]
  split <;> rename_i found <;> rw [piece] at found <;> cases found
  simp

end Steps

namespace Code

/-- Reading some code contributes its first level when it stands at the first level of
the body, and nothing otherwise. Before the body, the code must not open a block. -/
theorem membersAt_text {code : Code} {next : Char} (fits : code.fits next = true) {depth : Nat}
    (inside : 0 < depth ∨ code.flat = true) {following : List Char}
    (starts : following.head? = some next) :
    membersAt depth (code.text ++ following) =
      (if depth = 1 then code.firstLevel else []) ++ membersAt depth following := by
  induction code generalizing depth next following with
  | done => simp [text, firstLevel]
  | plain c rest inductionHypothesis =>
    simp only [Code.fits, Bool.and_eq_true] at fits
    have follower : (rest.text ++ following).head? = some (rest.text.headD next) := by
      cases rest.text <;> simp [starts]
    have piece := nextPiece_plain fits.1 follower
    rw [text, List.cons_append, membersAt_plain depth piece,
      inductionHypothesis fits.2 (by simpa [flat] using inside) starts]
    split <;> simp [firstLevel]
  | quoted string rest inductionHypothesis =>
    have piece : nextPiece string.quote
        (string.letters.flatMap Letter.text ++ string.quote :: (rest.text ++ following)) =
          (.aside, rest.text ++ following) := by
      rw [nextPiece, if_pos string.starts, afterString_letters string.starts string.fits]
    have step := membersAt_aside depth piece
    rw [inductionHypothesis fits (by simpa [flat] using inside) starts] at step
    rw [text, Quoted.text]
    simp only [List.cons_append, List.append_assoc, List.nil_append] at step ⊢
    rw [step]
    split <;> simp [firstLevel]
  | lineComment comment rest inductionHypothesis =>
    obtain ⟨c, tail, shape, piece⟩ := nextPiece_lineComment comment (rest.text ++ following)
    have feed : nextPiece '\n' (rest.text ++ following) =
        (.plain '\n', rest.text ++ following) := by
      simp [nextPiece, isQuote]
    rw [text, List.append_assoc, List.cons_append, shape, membersAt_aside depth piece,
      membersAt_plain depth feed,
      inductionHypothesis fits (by simpa [flat] using inside) starts]
    split <;> simp [firstLevel]
  | blockComment comment rest inductionHypothesis =>
    have noQuote : isQuote '/' = false := by decide
    have ended := afterBlockComment_eq comment.isOpen (rest.text ++ following)
    have piece : nextPiece '/' ('*' :: (comment.inside ++ '*' :: '/' :: (rest.text ++ following))) =
        (.aside, rest.text ++ following) := by
      simp [nextPiece, noQuote, ended]
    have step := membersAt_aside depth piece
    rw [inductionHypothesis fits (by simpa [flat] using inside) starts] at step
    rw [text, BlockComment.text]
    simp only [List.cons_append, List.append_assoc, List.nil_append] at step ⊢
    rw [step]
    split <;> simp [firstLevel]
  | attributes group rest inductionHypothesis =>
    simp only [Code.fits, Bool.and_eq_true] at fits
    have noQuote : isQuote '#' = false := by decide
    have ended := Brackets.afterAttribute_eq fits.1 (rest.text ++ following)
    have piece : nextPiece '#' ('[' :: (group.text ++ ']' :: (rest.text ++ following))) =
        (.aside, rest.text ++ following) := by
      simp [nextPiece, noQuote, ended]
    have step := membersAt_aside depth piece
    rw [inductionHypothesis fits.2 (by simpa [flat] using inside) starts] at step
    rw [text]
    simp only [List.cons_append, List.append_assoc] at step ⊢
    rw [step]
    split <;> simp [firstLevel]
  | block inner rest innerHypothesis restHypothesis =>
    simp only [Code.fits, Bool.and_eq_true] at fits
    -- Code that holds a block is never read before the body.
    obtain ⟨level, rfl⟩ : ∃ level, depth = level + 1 := by
      rcases inside with positive | flat
      · exact ⟨depth - 1, by omega⟩
      · simp [Code.flat] at flat
    rw [text, List.cons_append, List.append_assoc, List.cons_append, membersAt_opening,
      innerHypothesis fits.1 (.inl (by omega)) rfl, if_neg (by omega : level + 1 + 1 ≠ 1),
      List.nil_append, membersAt_closing, restHypothesis fits.2 (.inl (by omega)) starts]
    split <;> simp [firstLevel]

/-- The members of a body are the first level of its code, whatever stands before the
brace that opens it and behind the one that closes it. -/
theorem members_body {header body : Code} (headerFits : header.fits '\x7b' = true)
    (headerFlat : header.flat = true) (bodyFits : body.fits '\x7d' = true) (tail : List Char) :
    members (header.text ++ '\x7b' :: (body.text ++ '\x7d' :: tail)) = body.firstLevel := by
  rw [members, membersAt_text headerFits (.inr headerFlat) rfl, if_neg Nat.zero_ne_one,
    List.nil_append, membersAt_opening, if_neg Nat.zero_ne_one, List.nil_append,
    membersAt_text bodyFits (.inl Nat.zero_lt_one) rfl, if_pos rfl, membersAt_end,
    List.append_nil]

end Code

end ServiceWiring.Source
