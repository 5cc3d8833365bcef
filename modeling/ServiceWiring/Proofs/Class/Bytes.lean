import ServiceWiring.Class.Bytes
import ServiceWiring.Proofs.Class.Returns
import ServiceWiring.Proofs.Text.Bytes

/-!
# Members collected from bytes

A scan that goes through the bytes of a class body from offset to offset, skips strings, comments
and attribute groups, and counts braces and brackets might stop inside a character, run past the
end, or count below zero. The one that collects the members of a body does none of this.

On any bytes, every skip ends behind its start and not past the end, and the brackets of an
attribute group are counted without going below zero, however the strings, comments and groups
may be broken off. No quote, brace or hash sign is kept. On the bytes of a text, moreover, every
skip ends between two characters. So the main statement is that the bytes collected are those
of the members of the body, and that they are collected without a fault.

What carries the proofs is that no byte of a character beyond ASCII is that of an ASCII
character. The scan goes through such characters byte by byte, and also when an escape makes it
jump into the middle of one.
-/

namespace ServiceWiring.Source.Bytes

open Text (byte encoded encoded_nil encoded_cons encoded_append ne_byte_of_high byte_inj
  utf8EncodeChar_ascii ne_byte_of_mem exists_firstByte head?_encoded_iff)

/-- Nothing is skipped at a byte only if it is no quote and no hash sign. -/
theorem unmarked_of_skippedTo {bytes : List UInt8} {offset : Nat} {b : UInt8}
    (here : bytes[offset]? = some b) (nothing : skippedTo bytes offset = .ok none) :
    startsString b = false ∧ b ≠ byte '#' := by
  simp only [skippedTo, here] at nothing
  split_ifs at nothing with string line comment group hash
  · cases nothing
  · cases nothing
  · cases nothing
  · cases ends : attributeEnd bytes 0 (offset + 1) <;> rw [ends] at nothing <;> cases nothing
  · cases nothing
  · exact ⟨by simpa using string, hash⟩

/-- The characters that stand at no first level. -/
def marks : List Char := ['\x7b', '\x7d', '\'', '"', '#']

/-- Keeping bytes that are no marks adds no mark to what has been collected. -/
theorem not_mem_withKept {kept collected : List UInt8} (keeps : Bool)
    (unmarked : ∀ mark ∈ marks, byte mark ∉ kept)
    (unmarkedBehind : ∀ mark ∈ marks, byte mark ∉ collected) :
    ∀ mark ∈ marks, byte mark ∉ withKept keeps kept collected := by
  intro mark isMark
  cases keeps with
  | false => exact unmarkedBehind mark isMark
  | true => exact List.not_mem_append (unmarked mark isMark) (unmarkedBehind mark isMark)

/-- The bytes of a body are collected from any offset on: braces are counted without going below
zero, as brackets are. No mark is collected. -/
theorem exists_collect (bytes : List UInt8) (depth offset : Nat) :
    ∃ collected, collect bytes depth offset = .ok collected ∧
      ∀ mark ∈ marks, byte mark ∉ collected := by
  have space : ∀ mark ∈ marks, byte mark ∉ [byte ' '] := by
    simp only [marks, List.forall_mem_cons, List.not_mem_nil, false_imp_iff, implies_true, and_true]
    decide
  fun_induction collect bytes depth offset with
  | case1 depth offset none => exact ⟨[], rfl, by simp⟩
  | case2 depth offset b here counted below =>
    obtain ⟨skipped, skips, -⟩ := skippedTo_advances bytes offset
    rw [skips] at below
    cases below
  | case3 depth offset b here next skips inductionHypothesis =>
    obtain ⟨collected, result, unmarked⟩ := inductionHypothesis
    exact ⟨_, by rw [result]; rfl, not_mem_withKept (depth == 1) space unmarked⟩
  | case4 depth offset plain here inductionHypothesis =>
    obtain ⟨collected, result, unmarked⟩ := inductionHypothesis
    exact ⟨_, by rw [result]; rfl, not_mem_withKept (depth + 1 == 2) space unmarked⟩
  | case5 offset plain here noOpening inductionHypothesis => exact inductionHypothesis
  | case6 offset => exact ⟨[], rfl, by simp⟩
  | case7 depth offset plain outside last counted below =>
    rw [lowered_of_pos _ (Nat.pos_of_ne_zero outside)] at below
    cases below
  | case8 depth offset plain outside last deeper lowers here noOpening inductionHypothesis =>
    exact inductionHypothesis
  | case9 depth offset b here plain noOpening noClosing inductionHypothesis =>
    obtain ⟨collected, result, unmarked⟩ := inductionHypothesis
    obtain ⟨noString, noHash⟩ := unmarked_of_skippedTo here plain
    simp only [startsString, Bool.or_eq_false_iff, beq_eq_false_iff_ne] at noString
    refine ⟨_, by rw [result]; rfl, not_mem_withKept (depth == 1) ?_ unmarked⟩
    simp [marks, Ne.symm noOpening, Ne.symm noClosing, Ne.symm noString.1, Ne.symm noString.2,
      Ne.symm noHash]

/-! ## Characters and bytes -/

/-- Where a front ends there stands the first byte of what comes behind it. -/
theorem getElem?_behind (front back : List UInt8) :
    (front ++ back)[front.length]? = back.head? := by
  rw [List.getElem?_append_right (Nat.le_refl _), Nat.sub_self, List.head?_eq_getElem?]

/-- The byte behind the first one of what comes behind a front. -/
theorem getElem?_behind_succ (front : List UInt8) (b : UInt8) (back : List UInt8) :
    (front ++ b :: back)[front.length + 1]? = back.head? := by
  have := getElem?_behind (front ++ [b]) back
  simpa using this

/-- A scan passes bytes that make it go on by one. -/
theorem passes {α : Type} (scan : List UInt8 → Nat → α) (plain : UInt8 → Prop)
    (step : ∀ {bytes offset b}, bytes[offset]? = some b → plain b →
      scan bytes offset = scan bytes (offset + 1))
    (front back : List UInt8) {passed : List UInt8} (all : ∀ b ∈ passed, plain b) :
    scan (front ++ (passed ++ back)) front.length =
      scan ((front ++ passed) ++ back) (front ++ passed).length := by
  induction passed generalizing front with
  | nil => simp
  | cons b passed inductionHypothesis =>
    obtain ⟨first, others⟩ := List.forall_mem_cons.mp all
    have onward := inductionHypothesis (front ++ [b]) others
    have here : (front ++ (b :: passed ++ back))[front.length]? = some b := by
      rw [getElem?_behind]
      rfl
    rw [step here first]
    simpa using onward

/-- Quotes are ASCII characters. -/
theorem ascii_of_isQuote {quote : Char} (starts : isQuote quote = true) : quote.toNat < 0x80 := by
  simp only [isQuote, Bool.or_eq_true, beq_iff_eq] at starts
  rcases starts with rfl | rfl <;> decide

/-- A scan of the bytes of some characters, behind other bytes, goes on to where those that are
left begin. -/
def Reaches (scan : List UInt8 → Nat → Except Counted Nat) (front : List UInt8)
    (text left : List Char) : Prop :=
  ∃ taken, text = taken ++ left ∧
    scan (front ++ encoded text) front.length = .ok (front ++ encoded taken).length

/-- Behind the last character there is only the end to reach. -/
theorem Reaches.nil {scan : List UInt8 → Nat → Except Counted Nat} {front : List UInt8} {next : Nat}
    (ends : scan (front ++ encoded []) front.length = .ok next)
    (bounds : front.length ≤ next ∧ next ≤ (front ++ encoded []).length) :
    Reaches scan front [] [] := by
  refine ⟨[], rfl, ends.trans (congrArg _ ?_)⟩
  rw [encoded_nil, List.append_nil] at bounds ⊢
  omega

/-- A scan that passes some characters reaches what the scan by which it goes on reaches from
behind them. -/
theorem Reaches.behind {scan onward : List UInt8 → Nat → Except Counted Nat} {front : List UInt8}
    (passed : List Char) {text left : List Char}
    (further : Reaches onward (front ++ encoded passed) text left)
    (passes : scan (front ++ (encoded passed ++ encoded text)) front.length =
      onward ((front ++ encoded passed) ++ encoded text) (front ++ encoded passed).length) :
    Reaches scan front (passed ++ text) left := by
  obtain ⟨taken, split, ends⟩ := further
  refine ⟨passed ++ taken, by rw [List.append_assoc, ← split], ?_⟩
  rw [encoded_append, passes, ends, encoded_append, List.append_assoc]

/-- A scan that goes on by one at every byte of a character reaches what it reaches from behind
the character. -/
theorem Reaches.cons {scan : List UInt8 → Nat → Except Counted Nat} (plain : UInt8 → Prop)
    (step : ∀ {bytes offset b}, bytes[offset]? = some b → plain b →
      scan bytes offset = scan bytes (offset + 1))
    {front : List UInt8} {c : Char} {text left : List Char}
    (all : ∀ b ∈ String.utf8EncodeChar c, plain b)
    (further : Reaches scan (front ++ encoded [c]) text left) :
    Reaches scan front (c :: text) left :=
  further.behind [c] (passes scan plain step front (encoded text) (by simpa using all))

/-- A string of characters ends where that of their bytes does. -/
theorem reaches_afterString {quote : Char} (starts : isQuote quote = true) (front : List UInt8)
    (text : List Char) :
    Reaches (fun bytes offset => .ok (stringEnd bytes (byte quote) offset)) front text
      (afterString quote text) := by
  have ascii := ascii_of_isQuote starts
  have noEscape : '\\' ≠ quote := by
    rintro rfl
    contradiction
  fun_induction afterString quote text generalizing front with
  | case1 =>
    have bounds := stringEnd_bounds (front ++ encoded []) (byte quote) front.length
    rw [Nat.min_eq_left (by simp)] at bounds
    exact .nil rfl bounds
  | case2 =>
    have bounds := stringEnd_bounds (front ++ encoded ['\\']) (byte quote) (front.length + 2)
    have here : (front ++ encoded ['\\'])[front.length]? = some (byte '\\') := getElem?_behind ..
    have size : (front ++ encoded ['\\']).length = front.length + 1 := by simp; rfl
    refine ⟨['\\'], rfl, congrArg _ ?_⟩
    rw [stringEnd_at here, if_pos rfl]
    omega
  | case3 c text inductionHypothesis =>
    -- The escape makes the scan jump behind the first byte of the character.
    obtain ⟨first, others, several, high, -⟩ := exists_firstByte c
    refine (inductionHypothesis (front ++ encoded ['\\', c])).behind ['\\', c]
      (congrArg _ ?_)
    have here : (front ++ (encoded ['\\', c] ++ encoded text))[front.length]? = some (byte '\\') :=
      getElem?_behind ..
    rw [stringEnd_at here, if_pos rfl]
    have onward := passes (fun bytes offset => stringEnd bytes (byte quote) offset)
      (fun b => 0x80 ≤ b) ?_ (front ++ [byte '\\', first]) (encoded text) high
    · simpa [several, show String.utf8EncodeChar '\\' = [byte '\\'] from rfl] using onward
    · intro bytes offset b here high
      rw [stringEnd_at here, if_neg (ne_byte_of_high high (by decide)),
        if_neg (ne_byte_of_high high ascii)]
  | case4 text noLast noEscapes =>
    have here : (front ++ encoded (quote :: text))[front.length]? = some (byte quote) := by
      rw [getElem?_behind, encoded_cons, utf8EncodeChar_ascii ascii]
      rfl
    have noEscapeByte : byte quote ≠ byte '\\' :=
      fun same => noEscape ((byte_inj ascii (by decide)).mp same).symm
    refine ⟨[quote], rfl, congrArg _ ?_⟩
    rw [stringEnd_at here, if_neg noEscapeByte, if_pos rfl]
    simp [utf8EncodeChar_ascii ascii]
  | case5 c text noLast noEscapes noQuote inductionHypothesis =>
    have plain : c ≠ '\\' := by
      rintro rfl
      cases text with
      | nil => exact noLast rfl rfl
      | cons d text => exact noEscapes d text rfl rfl
    refine .cons (fun b => b ≠ byte '\\' ∧ b ≠ byte quote) ?_ ?_ (inductionHypothesis _)
    · intro bytes offset b here plain
      rw [stringEnd_at here, if_neg plain.1, if_neg plain.2]
    · intro b member
      exact ⟨ne_byte_of_mem plain (by decide) b member, ne_byte_of_mem noQuote ascii b member⟩

/-- A line of characters ends where that of their bytes does. -/
theorem reaches_afterLine (front : List UInt8) (text : List Char) :
    Reaches (fun bytes offset => .ok (lineEnd bytes offset)) front text (afterLine text) := by
  induction text generalizing front with
  | nil => exact .nil rfl (lineEnd_bounds (front ++ encoded []) front.length (by simp))
  | cons c text inductionHypothesis =>
    by_cases feed : c = '\n'
    · subst feed
      have here : (front ++ encoded ('\n' :: text))[front.length]? = some (byte '\n') :=
        getElem?_behind ..
      exact ⟨[], rfl, congrArg _ (by rw [lineEnd_at here, if_pos rfl]; simp)⟩
    · have after : afterLine (c :: text) = afterLine text := by simp [afterLine, feed]
      rw [after]
      refine .cons (· ≠ byte '\n') ?_ (ne_byte_of_mem feed (by decide)) (inductionHypothesis _)
      intro bytes offset b here noFeed
      rw [lineEnd_at here, if_neg noFeed]

/-- A block comment of characters ends where that of their bytes does. -/
theorem reaches_afterBlockComment (front : List UInt8) (text : List Char) :
    Reaches (fun bytes offset => .ok (commentEnd bytes offset)) front text
      (afterBlockComment text) := by
  fun_induction afterBlockComment text generalizing front with
  | case1 => exact .nil rfl (commentEnd_bounds (front ++ encoded []) front.length (by simp))
  | case2 text =>
    have here : (front ++ encoded ('*' :: '/' :: text))[front.length]? = some (byte '*') :=
      getElem?_behind ..
    have next : (front ++ encoded ('*' :: '/' :: text))[front.length + 1]? = some (byte '/') :=
      getElem?_behind_succ ..
    refine ⟨['*', '/'], rfl, congrArg _ ?_⟩
    rw [commentEnd_at here, if_pos ⟨rfl, next⟩]
    simp [utf8EncodeChar_ascii]
  | case3 c text unmarked inductionHypothesis =>
    by_cases star : c = '*'
    · subst star
      have here : (front ++ (encoded ['*'] ++ encoded text))[front.length]? = some (byte '*') :=
        getElem?_behind ..
      have next : (front ++ (encoded ['*'] ++ encoded text))[front.length + 1]? =
          (encoded text).head? := getElem?_behind_succ ..
      have noSlash : (encoded text).head? ≠ some (byte '/') := by
        rw [Ne, head?_encoded_iff (by decide)]
        intro slash
        obtain ⟨others, rfl⟩ := List.head?_eq_some_iff.mp slash
        exact unmarked others rfl rfl
      refine (inductionHypothesis _).behind ['*'] (congrArg _ ?_)
      rw [commentEnd_at here, next, if_neg (fun marks => noSlash marks.2)]
      simp [utf8EncodeChar_ascii]
    · refine .cons (· ≠ byte '*') ?_ (ne_byte_of_mem star (by decide)) (inductionHypothesis _)
      intro bytes offset b here noStar
      rw [commentEnd_at here, if_neg (fun marks => noStar marks.1)]

/-- A byte starts a string exactly if its character does. -/
theorem startsString_iff {c : Char} {first : UInt8}
    (marks : ∀ mark : Char, mark.toNat < 0x80 → (first = byte mark ↔ c = mark)) :
    startsString first = isQuote c := by
  rw [Bool.eq_iff_iff]
  simp only [startsString, isQuote, Bool.or_eq_true, beq_iff_eq, marks '\'' (by decide),
    marks '"' (by decide)]

/-- An attribute group of characters ends where that of their bytes does, while a bracket is
open. -/
theorem reaches_afterAttribute {depth : Nat} (opened : 0 < depth) (front : List UInt8)
    (text : List Char) :
    Reaches (fun bytes offset => attributeEnd bytes depth offset) front text
      (afterAttribute depth text) := by
  fun_induction afterAttribute depth text generalizing front with
  | case1 depth =>
    obtain ⟨next, ends, bounds⟩ :=
      exists_attributeEnd (front ++ encoded []) depth front.length opened (by simp)
    exact .nil ends bounds
  | case2 depth c text quote inductionHypothesis =>
    have ascii := ascii_of_isQuote quote
    have string : startsString (byte c) = true := by
      rw [startsString_iff fun mark markAscii => byte_inj ascii markAscii, quote]
    obtain ⟨taken, split, ends⟩ := reaches_afterString quote (front ++ encoded [c]) text
    have whole : c :: text = (c :: taken) ++ afterString c text := congrArg (c :: ·) split
    have same : front ++ encoded [c] ++ encoded text =
        front ++ (encoded (c :: taken) ++ encoded (afterString c text)) := by
      rw [← encoded_append, ← whole, List.append_assoc, ← encoded_append]
      rfl
    have here : (front ++ (encoded (c :: taken) ++ encoded (afterString c text)))[front.length]? =
        some (byte c) := by
      rw [getElem?_behind, encoded_cons, utf8EncodeChar_ascii ascii]
      rfl
    have behind : (front ++ encoded [c]).length = front.length + 1 := by
      simp [utf8EncodeChar_ascii ascii]
    rw [whole]
    refine (inductionHypothesis opened _).behind (c :: taken) ?_
    rw [behind, same] at ends
    rw [attributeEnd_at here, if_pos string, Except.ok.inj ends]
    simp
  | case3 depth text noQuote inductionHypothesis =>
    have here : (front ++ (encoded ['['] ++ encoded text))[front.length]? = some (byte '[') :=
      getElem?_behind ..
    refine (inductionHypothesis (Nat.succ_pos depth) _).behind ['['] ?_
    rw [attributeEnd_at here, if_neg (by decide), if_pos rfl]
    simp [utf8EncodeChar_ascii]
  | case4 depth text last noQuote noOpening =>
    have here : (front ++ encoded (']' :: text))[front.length]? = some (byte ']') :=
      getElem?_behind ..
    obtain rfl : depth = 1 := by omega
    refine ⟨[']'], rfl, (attributeEnd_at here 1).trans ?_⟩
    rw [if_neg (by decide), if_neg (by decide), if_pos rfl]
    simp [utf8EncodeChar_ascii, lowered]
  | case5 depth text noQuote noOpening inside inductionHypothesis =>
    have here : (front ++ (encoded [']'] ++ encoded text))[front.length]? = some (byte ']') :=
      getElem?_behind ..
    obtain ⟨depth, rfl⟩ : ∃ remaining, depth = remaining + 2 := ⟨depth - 2, by omega⟩
    refine (inductionHypothesis (Nat.succ_pos depth) _).behind [']'] ?_
    rw [attributeEnd_at here, if_neg (by decide), if_neg (by decide), if_pos rfl]
    simp [utf8EncodeChar_ascii, lowered]
  | case6 depth c text noQuote noOpening noClosing inductionHypothesis =>
    have unmarked : c ≠ '\'' ∧ c ≠ '"' := by simpa [isQuote] using noQuote
    refine .cons (fun b => (b ≠ byte '\'' ∧ b ≠ byte '"') ∧ b ≠ byte '[' ∧ b ≠ byte ']')
      ?_ ?_ (inductionHypothesis opened _)
    · intro bytes offset b here plain
      rw [attributeEnd_at here, if_neg (by simpa [startsString] using plain.1), if_neg plain.2.1,
        if_neg plain.2.2]
    · intro b member
      exact ⟨⟨ne_byte_of_mem unmarked.1 (by decide) b member,
          ne_byte_of_mem unmarked.2 (by decide) b member⟩,
        ne_byte_of_mem noOpening (by decide) b member,
        ne_byte_of_mem noClosing (by decide) b member⟩

/-! ## The bytes of a body -/

/-- A string is skipped from its quote on. -/
theorem reaches_string {quote : Char} (starts : isQuote quote = true) (front : List UInt8)
    (rest : List Char) :
    Reaches (fun bytes offset => .ok (stringEnd bytes (byte quote) (offset + 1))) front
      (quote :: rest) (afterString quote rest) :=
  (reaches_afterString starts _ rest).behind [quote]
    (by simp [utf8EncodeChar_ascii (ascii_of_isQuote starts)])

/-- A block comment is skipped from its mark on. -/
theorem reaches_blockComment (front : List UInt8) (rest : List Char) :
    Reaches (fun bytes offset => .ok (commentEnd bytes (offset + 2))) front ('/' :: '*' :: rest)
      (afterBlockComment rest) :=
  (reaches_afterBlockComment _ rest).behind ['/', '*'] (by simp [utf8EncodeChar_ascii])

/-- An attribute group is skipped from its mark on. -/
theorem reaches_attribute (front : List UInt8) (rest : List Char) :
    Reaches (fun bytes offset => attributeEnd bytes 0 (offset + 1)) front ('#' :: '[' :: rest)
      (afterAttribute 0 ('[' :: rest)) := by
  have bracket : (front ++ (encoded ['#', '['] ++ encoded rest))[front.length + 1]? =
      some (byte '[') := getElem?_behind_succ ..
  have opens : afterAttribute 0 ('[' :: rest) = afterAttribute 1 rest := by
    rw [afterAttribute, if_neg (by decide), if_pos rfl]
  rw [opens]
  refine (reaches_afterAttribute Nat.one_pos _ rest).behind ['#', '['] ?_
  refine (attributeEnd_at bracket 0).trans ?_
  rw [if_neg (by decide), if_pos rfl]
  simp [utf8EncodeChar_ascii]

/-- A line comment is skipped from its mark on. -/
theorem reaches_lineComment (mark : Char) (noFeed : mark ≠ '\n') (front : List UInt8)
    (rest : List Char) :
    Reaches (fun bytes offset => .ok (lineEnd bytes offset)) front (mark :: rest)
      (afterLine rest) := by
  have within : afterLine (mark :: rest) = afterLine rest := by simp [afterLine, noFeed]
  rw [← within]
  exact reaches_afterLine front (mark :: rest)

/-- Two marks that stand one after the other stand at one offset and at the next. -/
theorem marks_encoded_iff {mark other : Char} (ascii : mark.toNat < 0x80)
    (otherAscii : other.toNat < 0x80) (front : List UInt8) (c : Char) (rest : List Char) :
    (front ++ encoded (c :: rest))[front.length]? = some (byte mark) ∧
        (front ++ encoded (c :: rest))[front.length + 1]? = some (byte other) ↔
      c = mark ∧ rest.head? = some other := by
  rw [getElem?_behind, head?_encoded_iff ascii, List.head?_cons, Option.some_inj]
  refine and_congr_right ?_
  rintro rfl
  rw [encoded_cons, utf8EncodeChar_ascii ascii]
  exact (congrArg (· = _) (getElem?_behind_succ ..)).to_iff.trans
    (head?_encoded_iff otherAscii rest)

/-- Where a character begins there is something to skip exactly if it begins a string, a comment or
an attribute group. The skip ends where the characters behind begin. -/
theorem skippedTo_encoded (front : List UInt8) (c : Char) (rest : List Char) :
    ∃ taken, c :: rest = taken ++ (nextPiece c rest).2 ∧
      skippedTo (front ++ encoded (c :: rest)) front.length =
        .ok (if (nextPiece c rest).1 = .aside then some (front ++ encoded taken).length
          else none) := by
  obtain ⟨first, others, several, high, marks⟩ := exists_firstByte c
  have here : (front ++ encoded (c :: rest))[front.length]? = some first := by
    rw [getElem?_behind, encoded_cons, several]
    rfl
  have pair : ∀ mark other : Char, mark.toNat < 0x80 → other.toNat < 0x80 →
      (first = byte mark ∧ (front ++ encoded (c :: rest))[front.length + 1]? = some (byte other) ↔
        c = mark ∧ rest.head? = some other) := by
    intro mark other ascii otherAscii
    rw [← marks_encoded_iff ascii otherAscii front, here, Option.some_inj]
  unfold skippedTo nextPiece
  simp only [here, startsString_iff marks, pair '/' '/' (by decide) (by decide),
    pair '/' '*' (by decide) (by decide),
    pair '#' '[' (by decide) (by decide)]
  simp only [marks '#' (by decide)]
  by_cases quote : isQuote c = true
  · obtain ⟨taken, split, ends⟩ := reaches_string quote front rest
    obtain rfl : first = byte c := (marks c (ascii_of_isQuote quote)).mpr rfl
    simp only [if_pos quote, if_true]
    exact ⟨taken, split, congrArg (·.map some) ends⟩
  by_cases line : c = '/' ∧ rest.head? = some '/'
  · obtain ⟨taken, split, ends⟩ := reaches_lineComment c (by rw [line.1]; decide) front rest
    simp only [if_neg quote, if_pos line, if_true]
    exact ⟨taken, split, congrArg (·.map some) ends⟩
  by_cases comment : c = '/' ∧ rest.head? = some '*'
  · simp only [if_neg quote, if_neg line, if_pos comment, if_true]
    obtain ⟨rfl, star⟩ := comment
    obtain ⟨rest, rfl⟩ := List.head?_eq_some_iff.mp star
    obtain ⟨taken, split, ends⟩ := reaches_blockComment front rest
    exact ⟨taken, split, congrArg (·.map some) ends⟩
  by_cases group : c = '#' ∧ rest.head? = some '['
  · simp only [if_neg quote, if_neg line, if_neg comment, if_pos group, if_true]
    obtain ⟨rfl, bracket⟩ := group
    obtain ⟨rest, rfl⟩ := List.head?_eq_some_iff.mp bracket
    obtain ⟨taken, split, ends⟩ := reaches_attribute front rest
    exact ⟨taken, split, congrArg (·.map some) ends⟩
  by_cases hash : c = '#'
  · obtain ⟨taken, split, ends⟩ := reaches_lineComment c (by rw [hash]; decide) front rest
    simp only [if_neg quote, if_neg line, if_neg comment, if_neg group, if_pos hash, if_true]
    exact ⟨taken, split, congrArg (·.map some) ends⟩
  refine ⟨[c], ?_⟩
  simp only [if_neg quote, if_neg line, if_neg comment, if_neg group, if_neg hash]
  split_ifs <;> simp_all

/-- Nothing is skipped at a byte beyond ASCII. -/
theorem skippedTo_high {bytes : List UInt8} {offset : Nat} {b : UInt8}
    (here : bytes[offset]? = some b) (high : 0x80 ≤ b) : skippedTo bytes offset = .ok none := by
  have unmarked : ∀ mark : Char, mark.toNat < 0x80 → b ≠ byte mark :=
    fun mark ascii => ne_byte_of_high high ascii
  simp [skippedTo, here, startsString, unmarked '\'' (by decide), unmarked '"' (by decide),
    unmarked '/' (by decide), unmarked '#' (by decide)]

/-- Bytes beyond ASCII are kept. -/
theorem collect_high (front back : List UInt8) (depth : Nat) {passed : List UInt8}
    (high : ∀ b ∈ passed, 0x80 ≤ b) :
    collect (front ++ (passed ++ back)) depth front.length =
      (collect ((front ++ passed) ++ back) depth (front ++ passed).length).map
        (withKept (depth == 1) passed) := by
  induction passed generalizing front with
  | nil =>
    obtain ⟨collected, result, -⟩ := exists_collect (front ++ back) depth front.length
    simp [result, Except.map, withKept]
  | cons b passed inductionHypothesis =>
    obtain ⟨first, others⟩ := List.forall_mem_cons.mp high
    have onward := inductionHypothesis (front ++ [b]) others
    have here : (front ++ (b :: passed ++ back))[front.length]? = some b := by
      rw [getElem?_behind]
      rfl
    obtain ⟨collected, result, -⟩ :=
      exists_collect ((front ++ b :: passed) ++ back) depth (front ++ b :: passed).length
    simp only [List.append_assoc, List.cons_append, List.nil_append, List.length_append,
      List.length_cons, List.length_nil, Nat.zero_add] at onward here result ⊢
    rw [collect_at here, skippedTo_high here first]
    dsimp only
    rw [if_neg (ne_byte_of_high first (by decide)), if_neg (ne_byte_of_high first (by decide)),
      onward, result]
    by_cases level : depth = 1 <;> simp [Except.map, withKept, level]

/-- The other bytes of a character are kept with its first one. -/
theorem collect_restOfChar (front : List UInt8) (depth : Nat) (rest : List Char) {c : Char}
    {first : UInt8} {others : List UInt8} (several : String.utf8EncodeChar c = first :: others)
    (high : ∀ b ∈ others, 0x80 ≤ b) :
    (collect (front ++ encoded (c :: rest)) depth (front.length + 1)).map
        (withKept (depth == 1) [first]) =
      (collect (front ++ encoded (c :: rest)) depth (front ++ encoded [c]).length).map
        (withKept (depth == 1) (encoded [c])) := by
  have passed := collect_high (front ++ [first]) (encoded rest) depth high
  have behind : front ++ [first] ++ others = front ++ encoded [c] := by simp [several]
  have same : front ++ [first] ++ (others ++ encoded rest) = front ++ encoded (c :: rest) := by
    simp [several]
  have whole : front ++ encoded [c] ++ encoded rest = front ++ encoded (c :: rest) := by simp
  have next : (front ++ [first]).length = front.length + 1 := List.length_append
  rw [behind, same, whole, next] at passed
  obtain ⟨collected, result, -⟩ :=
    exists_collect (front ++ encoded (c :: rest)) depth (front ++ encoded [c]).length
  rw [passed, result]
  by_cases level : depth = 1 <;> simp [Except.map, withKept, level, several]

/-- What begins with a character is left out, or it is a brace or another character of code. -/
theorem nextPiece_cases (c : Char) (rest : List Char) :
    (∃ after, nextPiece c rest = (.aside, after)) ∨
      c = '\x7b' ∧ nextPiece c rest = (.opening, rest) ∨
      c = '\x7d' ∧ nextPiece c rest = (.closing, rest) ∨
      (c ≠ '\x7b' ∧ c ≠ '\x7d') ∧ nextPiece c rest = (.plain c, rest) := by
  unfold nextPiece
  split_ifs <;> simp_all

/-- Characters are kept at the first level. -/
theorem withKept_encoded (depth : Nat) (kept members : List Char) :
    withKept (depth == 1) (encoded kept) (encoded members) =
      encoded ((if depth = 1 then kept else []) ++ members) := by
  by_cases level : depth = 1 <;> simp [withKept, level]

/-- What is collected of the bytes of a body are the bytes of its members. -/
theorem collect_encoded (front : List UInt8) (depth : Nat) (text : List Char) :
    collect (front ++ encoded text) depth front.length = .ok (encoded (membersAt depth text)) := by
  induction size : text.length using Nat.strongRecOn generalizing front depth text with
  | ind size inductionHypothesis =>
    subst size
    cases text with
    | nil =>
      rw [collect]
      split <;> simp_all [membersAt]
    | cons c rest =>
      have shorter := nextPiece_le c rest
      obtain ⟨first, others, several, high, marks⟩ := exists_firstByte c
      obtain ⟨taken, split, skips⟩ := skippedTo_encoded front c rest
      have here : (front ++ encoded (c :: rest))[front.length]? = some first := by
        rw [getElem?_behind, encoded_cons, several]
        rfl
      have further : ∀ depth, collect (front ++ encoded (c :: rest)) depth
          (front ++ encoded taken).length =
            .ok (encoded (membersAt depth (nextPiece c rest).2)) := by
        intro depth
        have behind := inductionHypothesis _ (by simp only [List.length_cons]; omega)
          (front ++ encoded taken) depth (nextPiece c rest).2 rfl
        rwa [List.append_assoc, ← encoded_append, ← split] at behind
      have single : (nextPiece c rest).2 = rest → taken = [c] := by
        intro same
        rw [same] at split
        exact (List.append_cancel_right (show [c] ++ rest = taken ++ rest from split)).symm
      rw [collect_at here, skips, membersAt_cons]
      simp only [marks '\x7b' (by decide), marks '\x7d' (by decide)]
      rcases nextPiece_cases c rest with ⟨after, piece⟩ | ⟨rfl, piece⟩ | ⟨rfl, piece⟩ |
          ⟨⟨noOpening, noClosing⟩, piece⟩ <;>
        simp only [piece, if_true, Piece.shown, Piece.depthAfter?, forall_const] at further single ⊢
      · rw [further]
        exact congrArg Except.ok (withKept_encoded depth [' '] (membersAt depth after))
      · have behind : (front ++ encoded taken).length = front.length + 1 := by
          simp [single, utf8EncodeChar_ascii]
        have level : (depth + 1 == 2) = (depth == 1) := by simp
        simp only [← behind, further, level, reduceCtorEq, if_false]
        exact congrArg Except.ok (withKept_encoded depth [' '] (membersAt (depth + 1) rest))
      · have behind : (front ++ encoded taken).length = front.length + 1 := by
          simp [single, utf8EncodeChar_ascii]
        simp only [← behind, further, reduceCtorEq, if_false]
        rcases depth with _ | _ | depth <;> rfl
      · rw [single] at further
        simp only [noOpening, noClosing, if_false, reduceCtorEq,
          collect_restOfChar front depth rest several high, further]
        exact congrArg Except.ok (withKept_encoded depth [c] (membersAt depth rest))

/-! ## Members -/

/-- The members of the body of a class are collected from the bytes of its text. The bytes that
are collected are valid, and they are those of the members, without braces, quotes and hash
signs. Every skip on the way advances within the text, and neither the brackets nor the braces are
counted below zero. -/
theorem collect_members (text : String) :
    SkipsAdvance (Text.bytes text) ∧
      ∃ collected, collect (Text.bytes text) 0 0 = .ok collected ∧
        String.fromUTF8? ⟨collected.toArray⟩ = some (String.ofList (members text.toList)) ∧
        ∀ mark ∈ ['\x7b', '\x7d', '\'', '"', '#'], byte mark ∉ collected := by
  refine ⟨skipsAdvance (Text.bytes text), ?_⟩
  have result : collect (Text.bytes text) 0 0 = .ok (encoded (members text.toList)) := by
    rw [Text.bytes_eq]
    exact collect_encoded [] 0 text.toList
  obtain ⟨collected, same, unmarked⟩ := exists_collect (Text.bytes text) 0 0
  obtain rfl := Except.ok.inj (result.symm.trans same)
  refine ⟨_, result, ?_, unmarked⟩
  rw [← Text.bytes_ofList, Text.bytes, Array.toArray_toList]
  exact Text.fromUTF8?_toUTF8 _

end ServiceWiring.Source.Bytes
