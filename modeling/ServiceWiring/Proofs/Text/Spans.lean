import ServiceWiring.Text.Blank
import ServiceWiring.Text.Split
import ServiceWiring.Text.Word

/-!
# Spans of a text

What it means that a scanner takes the characters of one kind from the beginning of a
text, and that what it takes cannot reach beyond a character of another kind. Blanks
are not word characters, and the characters of names are.
-/

namespace ServiceWiring.Text

/-- A part that lacks a mark ends before the first mark behind some text. -/
theorem exists_left_of_lacks {text following part rest : List Char} {mark : Char}
    (split : text ++ mark :: following = part ++ rest) (lacks : mark ∉ part) :
    ∃ left, text = part ++ left ∧ rest = left ++ mark :: following := by
  rw [List.append_eq_append_iff] at split
  rcases split with ⟨beyond, partSplit, markSplit⟩ | ⟨left, textSplit, restSplit⟩
  · cases beyond with
    | nil =>
      rw [List.append_nil] at partSplit
      exact ⟨[], by simp [partSplit], by simpa using markSplit.symm⟩
    | cons c beyond =>
      rw [List.cons_append, List.cons.injEq] at markSplit
      refine absurd ?_ lacks
      rw [partSplit, markSplit.1]
      simp
  · exact ⟨left, textSplit, restSplit⟩

/-- A mark of another kind is none of some characters of a kind. -/
theorem not_mem_of_all {kind : Char → Bool} {mark : Char} (other : kind mark = false)
    {text : List Char} (all : text.all kind = true) : mark ∉ text := by
  intro member
  rw [List.all_eq_true.mp all mark member] at other
  contradiction

/-- The characters of a kind at the beginning of a text, and the rest of it. -/
theorem exists_span (kind : Char → Bool) (text : List Char) :
    ∃ front, front.all kind = true ∧ text = front ++ text.dropWhile kind ∧
      ∀ c ∈ (text.dropWhile kind).head?, kind c = false := by
  refine ⟨text.takeWhile kind, ?_, List.takeWhile_append_dropWhile.symm, ?_⟩
  · exact List.all_takeWhile
  · intro c head
    have failing := List.head?_dropWhile_not kind text
    rw [Option.mem_def.mp head] at failing
    simpa using failing

/-- Characters of a kind are dropped. -/
theorem dropWhile_append_of_all {kind : Char → Bool} {front : List Char}
    (all : front.all kind = true) (rest : List Char) :
    (front ++ rest).dropWhile kind = rest.dropWhile kind :=
  List.dropWhile_append_of_pos (List.all_eq_true.mp all)

/-- Nothing is dropped before a character of another kind. -/
theorem dropWhile_of_head {kind : Char → Bool} {rest : List Char}
    (head : ∀ c ∈ rest.head?, kind c = false) : rest.dropWhile kind = rest := by
  cases rest with
  | nil => rfl
  | cons c rest => simp [head c rfl]

/-- Exactly the characters of a kind are taken before a character of another kind. -/
theorem takeWhile_append_of_head {kind : Char → Bool} {front rest : List Char}
    (all : front.all kind = true) (head : ∀ c ∈ rest.head?, kind c = false) :
    (front ++ rest).takeWhile kind = front := by
  rw [List.takeWhile_append_of_pos (List.all_eq_true.mp all)]
  cases rest with
  | nil => simp
  | cons c rest => simp [head c rfl]

/-- A mark of another kind stays where it is. -/
theorem dropWhile_append_mark {kind : Char → Bool} {mark : Char} (other : kind mark = false)
    (text following : List Char) :
    (text ++ mark :: following).dropWhile kind = text.dropWhile kind ++ mark :: following := by
  induction text with
  | nil => simp [other]
  | cons c text inductionHypothesis =>
    cases taken : kind c <;> simp [taken, inductionHypothesis]

/-- A part comes up in a text when it is a stretch of it. -/
theorem occurs_iff_infix {part text : List Char} : occurs part text = true ↔ part <:+: text := by
  induction text with
  | nil => simp [occurs]
  | cons c rest inductionHypothesis =>
    rw [occurs, Bool.or_eq_true, inductionHypothesis, List.isPrefixOf_iff_prefix,
      List.infix_cons_iff]

/-- A part that does not come up in a text comes up in no stretch of it. -/
theorem occurs_of_infix {part stretch text : List Char} (inside : stretch <:+: text)
    (absent : occurs part text = false) : occurs part stretch = false := by
  rw [Bool.eq_false_iff, ne_eq, occurs_iff_infix] at absent ⊢
  intro found
  exact absent (found.trans inside)

/-- Blanks before a text that is not blank are left out whatever follows it. -/
theorem trimStart_append {line : List Char} (present : trimStart line ≠ []) (rest : List Char) :
    trimStart (line ++ rest) = trimStart line ++ rest := by
  rw [trimStart] at present
  rw [trimStart, List.dropWhile_append, if_neg (by simpa using present), trimStart]

/-- Blanks at the end of a text do not count. -/
theorem trimEnd_append_blanks {blanks : List Char} (all : allBlank blanks = true)
    (text : List Char) : trimEnd (text ++ blanks) = trimEnd text := by
  have reversed : blanks.reverse.all isBlank = true := by
    rw [List.all_reverse]
    exact all
  rw [trimEnd, trimEnd, List.reverse_append, dropWhile_append_of_all reversed]

/-- A text that does not end with a blank stays as it is. -/
theorem trimEnd_of_getLast {text : List Char} (last : ∀ c ∈ text.getLast?, isBlank c = false) :
    trimEnd text = text := by
  rw [← List.head?_reverse] at last
  rw [trimEnd, dropWhile_of_head last, List.reverse_reverse]

/-- A text is what remains of it without the blanks at its end, and these blanks. -/
theorem exists_trimEnd (text : List Char) :
    ∃ blanks, allBlank blanks = true ∧ text = trimEnd text ++ blanks ∧
      ∀ c ∈ (trimEnd text).getLast?, isBlank c = false := by
  obtain ⟨front, all, split, head⟩ := exists_span isBlank text.reverse
  refine ⟨front.reverse, by rw [allBlank, List.all_reverse]; exact all, ?_, ?_⟩
  · rw [trimEnd, ← List.reverse_append, ← split, List.reverse_reverse]
  · rw [trimEnd, List.getLast?_reverse]
    exact head

/-- Trimming adds no characters. -/
theorem trimEnd_subset (text : List Char) : trimEnd text ⊆ text := by
  obtain ⟨blanks, -, whole, -⟩ := exists_trimEnd text
  exact fun c member => whole ▸ List.mem_append_left _ member

/-- Trimming adds no character. -/
theorem trim_subset (text : List Char) : trim text ⊆ text := fun _ member =>
  (List.dropWhile_suffix isBlank).subset (trimEnd_subset _ member)

/-- A line ends at its line feed. -/
theorem cutLine_line {line : List Char} (oneLine : '\n' ∉ line) (following : List Char) :
    cutLine (line ++ '\n' :: following) = (line, some following) := by
  induction line with
  | nil => simp [cutLine]
  | cons c line inductionHypothesis =>
    rw [List.mem_cons, not_or] at oneLine
    have noFeed : c ≠ '\n' := fun feed => oneLine.1 feed.symm
    rw [List.cons_append, cutLine, if_neg noFeed, inductionHypothesis oneLine.2]

/-- The code points of the blanks, one by one. -/
def blankCodes : List Nat :=
  [9, 10, 11, 12, 13, 0x20, 0x85, 0xA0, 0x1680, 0x2000, 0x2001, 0x2002, 0x2003, 0x2004, 0x2005,
   0x2006, 0x2007, 0x2008, 0x2009, 0x200A, 0x2028, 0x2029, 0x202F, 0x205F, 0x3000]

/-- Every blank has one of these code points. -/
theorem mem_blankCodes_of_isBlank {c : Char} (blank : isBlank c = true) :
    c.toNat ∈ blankCodes := by
  simp only [isBlank, Bool.or_eq_true, Bool.and_eq_true, decide_eq_true_eq, beq_iff_eq] at blank
  simp only [blankCodes, List.mem_cons, List.not_mem_nil, or_false]
  omega

/-- Blanks are not word characters. -/
theorem isWordChar_of_isBlank {c : Char} (blank : isBlank c = true) : isWordChar c = false := by
  have none : ∀ code ∈ blankCodes, isWordChar (Char.ofNat code) = false := by
    decide +kernel
  have := none c.toNat (mem_blankCodes_of_isBlank blank)
  rwa [Char.ofNat_toNat] at this

/-- The characters of names are word characters. -/
theorem isWordChar_of_isNameChar {c : Char} (name : isNameChar c = true) :
    isWordChar c = true := by
  have ascii : c.toNat < 0x80 := by
    rw [isNameChar] at name
    delta Char.isAlphanum Char.isAlpha Char.isUpper Char.isLower Char.isDigit at name
    simp only [Bool.or_eq_true, Bool.and_eq_true, decide_eq_true_eq, beq_iff_eq] at name
    rcases name with ((⟨_, upper⟩ | ⟨_, lower⟩) | ⟨_, digit⟩) | rfl
    · exact Nat.lt_of_le_of_lt (UInt32.le_iff_toNat_le.mp upper) (by decide)
    · exact Nat.lt_of_le_of_lt (UInt32.le_iff_toNat_le.mp lower) (by decide)
    · exact Nat.lt_of_le_of_lt (UInt32.le_iff_toNat_le.mp digit) (by decide)
    · decide
  rw [isWordChar_of_ascii c ascii, name]

/-- A name starts with a character of names. -/
theorem isNameChar_of_isNameStart {c : Char} (start : isNameStart c = true) :
    isNameChar c = true := by
  rw [isNameStart, Bool.or_eq_true] at start
  rw [isNameChar, Bool.or_eq_true]
  rcases start with letter | underscore
  · left
    delta Char.isAlphanum
    rw [letter, Bool.true_or]
  · exact .inr underscore

/-- Spaces and tabs are blank. -/
theorem isBlank_of_isGap {c : Char} (gap : isGap c = true) : isBlank c = true := by
  simp only [isGap, Bool.or_eq_true, beq_iff_eq] at gap
  rcases gap with rfl | rfl <;> decide

/-- Names hold no blanks. -/
theorem isNameChar_of_isBlank {c : Char} (blank : isBlank c = true) : isNameChar c = false := by
  rw [Bool.eq_false_iff]
  intro name
  have word := isWordChar_of_isNameChar name
  rw [isWordChar_of_isBlank blank] at word
  exact absurd word (by decide)

/-- No name starts with a blank. -/
theorem isNameStart_of_isBlank {c : Char} (blank : isBlank c = true) : isNameStart c = false := by
  rw [Bool.eq_false_iff]
  intro start
  have name := isNameChar_of_isNameStart start
  rw [isNameChar_of_isBlank blank] at name
  exact absurd name (by decide)

/-- Text that starts like a name does so whatever follows it. -/
theorem starts_append {part : List Char} (starts : part.head?.any isNameStart = true)
    (rest : List Char) : (part ++ rest).head?.any isNameStart = true := by
  cases part with
  | nil => simp at starts
  | cons c part => exact starts

/-- Nothing is dropped from text that starts like a name, if no name starts with a character
of the kind. -/
theorem dropWhile_of_starts {kind : Char → Bool}
    (apart : ∀ c, kind c = true → isNameStart c = false) {text : List Char}
    (starts : text.head?.any isNameStart = true) : text.dropWhile kind = text := by
  apply dropWhile_of_head
  intro c head
  rw [Option.mem_def.mp head, Option.any_some] at starts
  rw [Bool.eq_false_iff]
  intro ofKind
  rw [apart c ofKind] at starts
  exact absurd starts (by decide)

/-! ## Words with what parts them -/

/-- The text behind a part and the characters of a kind that follow it, of which there must
be one. -/
def afterPart? (kind : Char → Bool) (part text : List Char) : Option (List Char) :=
  match stripPrefix? part text with
  | some (c :: rest) => if kind c then some (rest.dropWhile kind) else none
  | _ => none

/-- What all readings agree on is the first that is found. -/
theorem findSome?_of_unique {α β : Type} {read : α → Option β} {choices : List α} {choice : α}
    {result : β} (member : choice ∈ choices) (found : read choice = some result)
    (unique : ∀ other ∈ choices, ∀ value, read other = some value → value = result) :
    choices.findSome? read = some result := by
  cases first : choices.findSome? read with
  | none =>
    rw [List.findSome?_eq_none_iff.mp first choice member] at found
    exact absurd found (by simp)
  | some value =>
    obtain ⟨other, otherMember, otherFound⟩ := List.exists_of_findSome?_eq_some first
    rw [unique other otherMember value otherFound]

section Parts

variable {kind : Char → Bool} {part text rest : List Char}

/-- A part is read when a character of the kind follows it, and all of them are left out. -/
theorem afterPart?_eq_some_iff :
    afterPart? kind part text = some rest ↔
      ∃ (c : Char) (others : List Char), text = part ++ c :: (others ++ rest) ∧
        kind c = true ∧ others.all kind = true ∧ ∀ c ∈ rest.head?, kind c = false := by
  constructor
  · intro found
    unfold afterPart? at found
    split at found
    · rename_i c tail stripped
      split at found
      · rename_i first
        rw [stripPrefix?_eq_some_iff] at stripped
        obtain ⟨others, all, tailSplit, head⟩ := exists_span kind tail
        rw [Option.some.injEq] at found
        rw [found] at tailSplit head
        exact ⟨c, others, by rw [stripped, tailSplit], first, all, head⟩
      · simp at found
    · simp at found
  · rintro ⟨c, others, rfl, first, all, head⟩
    have stripped := (stripPrefix?_eq_some_iff part _ (c :: (others ++ rest))).mpr rfl
    simp only [afterPart?, stripped, first, if_true, dropWhile_append_of_all all,
      dropWhile_of_head head]

/-- A part is read in front of a character of the kind. -/
theorem afterPart?_part {c : Char} (first : kind c = true) :
    afterPart? kind part (part ++ c :: rest) = some (rest.dropWhile kind) := by
  have stripped := (stripPrefix?_eq_some_iff part _ (c :: rest)).mpr rfl
  simp [afterPart?, stripped, first]

/-- A part that is read before a mark of another kind ends before it. -/
theorem afterPart?_before_mark {mark : Char} (lacks : mark ∉ part) (other : kind mark = false)
    {following : List Char} (found : afterPart? kind part (text ++ mark :: following) = some rest) :
    ∃ (c : Char) (others left : List Char), text = part ++ c :: (others ++ left) ∧
      kind c = true ∧ others.all kind = true ∧ rest = left ++ mark :: following := by
  obtain ⟨c, others, split, first, all, _⟩ := afterPart?_eq_some_iff.mp found
  have absent : mark ∉ part ++ c :: others := by
    rw [List.mem_append, List.mem_cons]
    rintro (inPart | rfl | inOthers)
    · exact lacks inPart
    · rw [first] at other
      contradiction
    · exact not_mem_of_all other all inOthers
  have split : text ++ mark :: following = (part ++ c :: others) ++ rest := by simp [split]
  obtain ⟨left, textSplit, restSplit⟩ := exists_left_of_lacks split absent
  exact ⟨c, others, left, by simp [textSplit], first, all, restSplit⟩

/-- At most one word is read at the beginning of a text, if no character of names parts
words. -/
theorem afterPart?_unique (apart : ∀ c, kind c = true → isNameChar c = false)
    {other otherRest : List Char} (names : part.all isNameChar = true)
    (otherNames : other.all isNameChar = true) (found : afterPart? kind part text = some rest)
    (otherFound : afterPart? kind other text = some otherRest) : part = other := by
  obtain ⟨c, others, split, first, -, -⟩ := afterPart?_eq_some_iff.mp found
  obtain ⟨d, otherOthers, otherSplit, otherFirst, -, -⟩ := afterPart?_eq_some_iff.mp otherFound
  -- A word is all that stands in front of the first character that belongs to no name.
  have taken : text.takeWhile isNameChar = part := by
    rw [split]
    exact takeWhile_append_of_head names (by simp [apart c first])
  have otherTaken : text.takeWhile isNameChar = other := by
    rw [otherSplit]
    exact takeWhile_append_of_head otherNames (by simp [apart d otherFirst])
  exact taken.symm.trans otherTaken

/-- No word is read in text whose first character cannot start one. -/
theorem afterPart?_of_head (starts : part.head?.any isNameStart = true)
    (head : ∀ c ∈ text.head?, isNameStart c = false) : afterPart? kind part text = none := by
  apply Option.eq_none_iff_forall_ne_some.mpr
  intro rest found
  obtain ⟨c, others, split, -, -, -⟩ := afterPart?_eq_some_iff.mp found
  obtain ⟨d, partHead, start⟩ := (Option.any_eq_true _ _).mp starts
  have noStart := head d (by
    rw [split, List.head?_append, partHead]
    rfl)
  rw [start] at noStart
  exact absurd noStart (by decide)

end Parts

end ServiceWiring.Text
