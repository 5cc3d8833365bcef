import ServiceWiring.Proofs.Json.Lexemes

/-!
# Spacing in JSON texts

What a JSON text means does not depend on the blanks between its lines. Two texts are
`Respaced` when they differ in gaps only that start with a line feed, a carriage
return or a tab, and in blanks at the end. Such a gap cannot stand in a string, where
a control character would be a fault, so it stands between lexemes. A gap that starts
with a space is not given up, since it may stand in a string.

The main statement is `parse_of_respaced`: if a text is read, a respaced text is read
as the same value. It follows the readings step by step. After each of them the rests
are respaced again.
-/

namespace ServiceWiring.Json

/-- A gap that stands in no string: blanks that start with a control character. -/
structure IsBreak (gap : List Char) : Prop where
  spaces : gap.all isSpace = true
  control : ∃ c ∈ gap.head?, c.toNat < 0x20

/-- Texts that differ in such gaps, and in blanks at the end of the first. -/
inductive Respaced : List Char → List Char → Prop
  | tail {spaces : List Char} (all : spaces.all isSpace = true) : Respaced spaces []
  | keep (c : Char) {text other : List Char} (respaced : Respaced text other) :
    Respaced (c :: text) (c :: other)
  | gap {front back text other : List Char} (frontBreak : IsBreak front) (backBreak : IsBreak back)
    (respaced : Respaced text other) : Respaced (front ++ text) (back ++ other)

namespace Respaced

/-- A text is respaced to itself. -/
theorem refl : ∀ text : List Char, Respaced text text
  | [] => .tail rfl
  | c :: text => .keep c (refl text)

/-- Text before respaced texts stays as it is. -/
theorem prepend (front : List Char) {text other : List Char} (respaced : Respaced text other) :
    Respaced (front ++ text) (front ++ other) := by
  induction front with
  | nil => exact respaced
  | cons c front inductionHypothesis => exact .keep c inductionHypothesis

/-- Respaced texts are respaced behind their blanks. -/
theorem skipSpace {text other : List Char} (respaced : Respaced text other) :
    Respaced (Json.skipSpace text) (Json.skipSpace other) := by
  induction respaced with
  | tail all =>
    have nothing := skipSpace_append all []
    rw [List.append_nil] at nothing
    rw [nothing]
    exact refl []
  | @keep c text other respaced inductionHypothesis =>
    by_cases space : isSpace c = true
    · simpa [Json.skipSpace, space] using inductionHypothesis
    · have solid : isSpace c = false := by simpa using space
      simpa [Json.skipSpace, solid] using Respaced.keep c respaced
  | gap frontBreak backBreak _ inductionHypothesis =>
    rw [skipSpace_append frontBreak.spaces, skipSpace_append backBreak.spaces]
    exact inductionHypothesis

/-- A carriage return before a line feed may be left out. -/
theorem dropReturn {text other : List Char} (respaced : Respaced ('\n' :: text) ('\n' :: other)) :
    Respaced ('\r' :: '\n' :: text) ('\n' :: other) := by
  generalize textWhole : '\n' :: text = longText at respaced
  generalize otherWhole : '\n' :: other = longOther at respaced ⊢
  cases respaced with
  | tail all => cases otherWhole
  | keep c respaced =>
    obtain ⟨rfl, rfl⟩ := List.cons.inj textWhole
    have frontBreak : IsBreak ['\r', '\n'] := ⟨by decide, '\r', rfl, by decide⟩
    have backBreak : IsBreak ['\n'] := ⟨by decide, '\n', rfl, by decide⟩
    exact .gap frontBreak backBreak respaced
  | @gap front _ _ _ frontBreak backBreak respaced =>
    have longer : IsBreak ('\r' :: front) := by
      refine ⟨?_, '\r', rfl, by decide⟩
      rw [List.all_cons, frontBreak.spaces]
      rfl
    exact .gap longer backBreak respaced

/-- A text that is respaced to a blank one is blank. -/
theorem allBlank {text other : List Char} (respaced : Respaced text other)
    (blank : Text.allBlank text = true) : Text.allBlank other = true := by
  have ofSpaces : ∀ {spaces : List Char}, spaces.all isSpace = true →
      Text.allBlank spaces = true := fun all =>
    List.all_eq_true.mpr fun c member => isBlank_of_isSpace (List.all_eq_true.mp all c member)
  induction respaced with
  | tail _ => rfl
  | keep c _ inductionHypothesis =>
    simp only [Text.allBlank, List.all_cons, Bool.and_eq_true] at blank ⊢
    exact ⟨blank.1, inductionHypothesis blank.2⟩
  | gap frontBreak backBreak _ inductionHypothesis =>
    simp only [Text.allBlank, List.all_append, Bool.and_eq_true] at blank ⊢
    exact ⟨ofSpaces backBreak.spaces, inductionHypothesis blank.2⟩

/-- A character that is no blank stays. -/
theorem solid {c : Char} {rest other : List Char} (notSpace : isSpace c = false)
    (respaced : Respaced (c :: rest) other) :
    ∃ otherRest, other = c :: otherRest ∧ Respaced rest otherRest := by
  generalize whole : c :: rest = text at respaced
  cases respaced with
  | tail all =>
    rw [← whole, List.all_cons, notSpace] at all
    cases all
  | keep first respaced =>
    obtain ⟨rfl, rfl⟩ := List.cons.inj whole
    exact ⟨_, rfl, respaced⟩
  | @gap front _ _ _ frontBreak _ _ =>
    obtain ⟨spaces, first, head, _⟩ := frontBreak
    obtain ⟨others, rfl⟩ := List.head?_eq_some_iff.mp head
    rw [← (List.cons.inj whole).1, List.all_cons, notSpace] at spaces
    cases spaces

/-- Marks are no blanks. -/
theorem isSpace_of_isMark {c : Char} (mark : isMark c = true) : isSpace c = false := by
  rw [Bool.eq_false_iff]
  intro space
  have blank := isBlank_of_isSpace space
  rw [(isMark_spec mark).2.1] at blank
  cases blank

/-- Marks stay. -/
theorem marks (front : List Char) {rest other : List Char} (areMarks : front.all isMark = true)
    (respaced : Respaced (front ++ rest) other) :
    ∃ otherRest, other = front ++ otherRest ∧ Respaced rest otherRest := by
  induction front generalizing other with
  | nil => exact ⟨other, rfl, respaced⟩
  | cons c front inductionHypothesis =>
    rw [List.all_cons, Bool.and_eq_true] at areMarks
    obtain ⟨next, rfl, nextRespaced⟩ := solid (isSpace_of_isMark areMarks.1) respaced
    obtain ⟨otherRest, rfl, restRespaced⟩ := inductionHypothesis areMarks.2 nextRespaced
    exact ⟨otherRest, rfl, restRespaced⟩

/-- Printable characters with a quote behind them stay, blanks among them. -/
theorem quoted {body rest other : List Char} (printable : ∀ c ∈ body, 0x20 ≤ c.toNat)
    (respaced : Respaced (body ++ '"' :: rest) other) :
    ∃ otherRest, other = body ++ '"' :: otherRest ∧ Respaced rest otherRest := by
  induction body generalizing other with
  | nil => exact solid (by decide) respaced
  | cons c body inductionHypothesis =>
    rw [List.forall_mem_cons] at printable
    generalize whole : (c :: body) ++ '"' :: rest = text at respaced
    cases respaced with
    | tail all =>
      rw [← whole, List.all_append, List.all_cons] at all
      have quote : isSpace '"' = false := by decide
      simp [quote] at all
    | keep first respaced =>
      obtain ⟨rfl, rfl⟩ := List.cons.inj whole
      obtain ⟨otherRest, rfl, restRespaced⟩ := inductionHypothesis printable.2 respaced
      exact ⟨otherRest, rfl, restRespaced⟩
    | @gap front _ _ _ frontBreak _ _ =>
      -- The gap would start with a control character of the string.
      obtain ⟨-, first, head, control⟩ := frontBreak
      obtain ⟨others, rfl⟩ := List.head?_eq_some_iff.mp head
      rw [← (List.cons.inj whole).1] at control
      omega

/-- A first character that is no blank was there before. -/
theorem head_of_head {text other : List Char} (respaced : Respaced text other) {c : Char}
    (notSpace : isSpace c = false) (head : other.head? = some c) : text.head? = some c := by
  cases respaced with
  | tail _ => cases head
  | keep first _ => exact head
  | @gap _ back _ _ _ backBreak _ =>
    obtain ⟨spaces, first, backHead, _⟩ := backBreak
    obtain ⟨others, rfl⟩ := List.head?_eq_some_iff.mp backHead
    obtain rfl : first = c := Option.some.inj head
    rw [List.all_cons, notSpace] at spaces
    cases spaces

/-- A respaced text continues a number no further. -/
theorem stopsLike {text other : List Char} (respaced : Respaced text other) :
    StopsLike text other := by
  intro c head numeral
  exact respaced.head_of_head (isSpace_of_isMark (isMark_of_isNumeralChar numeral)) head

end Respaced

/-- Readings that read the same value from a respaced text and leave a respaced rest. -/
structure Respaces {α : Type} (reads : Reading α) : Prop where
  again : ∀ {text other : List Char} {value : α} {rest : List Char}, reads text value rest →
    Respaced text other → ∃ otherRest, reads other value otherRest ∧ Respaced rest otherRest

section Containers

variable {α : Type} {part : Reading α} {close : Char}

/-- A series of parts is read again. -/
theorem Respaces.series (respaces : Respaces part) (closeMark : isMark close = true) :
    Respaces (Series part close) := by
  constructor
  intro text other items rest series respaced
  have closeSolid := Respaced.isSpace_of_isMark closeMark
  induction series generalizing other with
  | finish closing =>
    have skipped := respaced.skipSpace
    rw [closing] at skipped
    obtain ⟨otherRest, otherClosing, restRespaced⟩ := skipped.solid closeSolid
    exact ⟨otherRest, .finish otherClosing, restRespaced⟩
  | next comma present first others inductionHypothesis =>
    have skipped := respaced.skipSpace
    rw [comma] at skipped
    obtain ⟨otherAfter, otherComma, afterRespaced⟩ := skipped.solid (by decide)
    obtain ⟨otherItem, itemRead, itemRespaced⟩ := respaces.again first afterRespaced.skipSpace
    obtain ⟨otherRest, othersRead, restRespaced⟩ := inductionHypothesis itemRespaced
    have otherPresent : (skipSpace otherAfter).head? ≠ some close := fun early =>
      present (afterRespaced.skipSpace.head_of_head closeSolid early)
    exact ⟨otherRest, .next otherComma otherPresent itemRead othersRead, restRespaced⟩

/-- The parts of a container are read again. -/
theorem Respaces.bracketed (respaces : Respaces part) (closeMark : isMark close = true) :
    Respaces (Bracketed part close) := by
  constructor
  intro text other items rest bracketed respaced
  have closeSolid := Respaced.isSpace_of_isMark closeMark
  have skipped := respaced.skipSpace
  cases bracketed with
  | empty closing =>
    rw [closing] at skipped
    obtain ⟨otherRest, otherClosing, restRespaced⟩ := skipped.solid closeSolid
    exact ⟨otherRest, .empty otherClosing, restRespaced⟩
  | parts present first others =>
    obtain ⟨otherItem, itemRead, itemRespaced⟩ := respaces.again first skipped
    obtain ⟨otherRest, othersRead, restRespaced⟩ :=
      (respaces.series closeMark).again others itemRespaced
    have otherPresent : (skipSpace other).head? ≠ some close := fun early =>
      present (skipped.head_of_head closeSolid early)
    exact ⟨otherRest, .parts otherPresent itemRead othersRead, restRespaced⟩

/-- The characters of a string are read again. -/
theorem respaces_readString :
    Respaces fun text characters rest => Reads (readString text) characters rest := by
  constructor
  intro text other characters rest read respaced
  obtain ⟨body, rfl, isQuoted, again⟩ := takes_readString read
  obtain ⟨otherRest, rfl, restRespaced⟩ := respaced.quoted isQuoted.printable
  exact ⟨otherRest, again otherRest, restRespaced⟩

variable {value : ValueReader}

/-- An entry of an object is read again. -/
theorem Respaces.entryOf (respaces : Respaces (readingOf value)) : Respaces (entryOf value) := by
  constructor
  intro text other entry rest read respaced
  obtain ⟨afterQuote, key, afterKey, afterColon, rfl, keyRead, colon, item, itemRead, same⟩ :=
    entryOf_iff.mp read
  obtain ⟨otherQuote, rfl, quoteRespaced⟩ := respaced.solid (by decide)
  obtain ⟨otherKey, keyAgain, keyRespaced⟩ := respaces_readString.again keyRead quoteRespaced
  have skipped := keyRespaced.skipSpace
  rw [colon] at skipped
  obtain ⟨otherColon, colonAgain, colonRespaced⟩ := skipped.solid (by decide)
  obtain ⟨otherRest, itemAgain, restRespaced⟩ := respaces.again itemRead colonRespaced
  exact ⟨otherRest,
    entryOf_iff.mpr ⟨_, _, _, _, rfl, keyAgain, colonAgain, item, itemAgain, same⟩, restRespaced⟩

end Containers

/-- A value is read again if the values inside it are. -/
theorem respaces_form {depth : Nat}
    (nested : ∀ {inner}, depth = inner + 1 → Respaces (readingOf (readValueAt inner))) :
    Respaces (ValueForm depth) := by
  constructor
  intro text other value rest form respaced
  have nestedReader : ∀ {inner}, depth = inner + 1 → Respaces (readingOf (nestedReader inner)) := by
    intro inner deeper
    constructor
    intro text other item rest read respaced
    obtain ⟨otherRest, again, restRespaced⟩ :=
      (nested deeper).again (readingOf_afterSpace_iff.mp read) respaced.skipSpace
    exact ⟨otherRest, readingOf_afterSpace_iff.mpr again, restRespaced⟩
  cases form with
  | null =>
    obtain ⟨otherRest, rfl, restRespaced⟩ :=
      Respaced.marks ['n', 'u', 'l', 'l'] (by decide) respaced
    exact ⟨otherRest, .null, restRespaced⟩
  | yes =>
    obtain ⟨otherRest, rfl, restRespaced⟩ :=
      Respaced.marks ['t', 'r', 'u', 'e'] (by decide) respaced
    exact ⟨otherRest, .yes, restRespaced⟩
  | no =>
    obtain ⟨otherRest, rfl, restRespaced⟩ :=
      Respaced.marks ['f', 'a', 'l', 's', 'e'] (by decide) respaced
    exact ⟨otherRest, .no, restRespaced⟩
  | number starts read =>
    obtain ⟨first, others, split, chars, again⟩ := takes_readNumeral read
    have areMarks : (first :: others).all isMark = true :=
      List.all_eq_true.mpr fun c member => isMark_of_isNumeralChar (chars c member)
    rw [split] at respaced
    obtain ⟨otherRest, rfl, restRespaced⟩ := Respaced.marks (first :: others) areMarks respaced
    have sameFirst := (List.cons.inj split).1
    rw [sameFirst] at starts
    exact ⟨otherRest, .number starts (again otherRest restRespaced.stopsLike), restRespaced⟩
  | string read =>
    obtain ⟨otherTail, rfl, tailRespaced⟩ := respaced.solid (by decide)
    obtain ⟨otherRest, again, restRespaced⟩ := respaces_readString.again read tailRespaced
    exact ⟨otherRest, .string again, restRespaced⟩
  | array deeper read =>
    obtain ⟨otherTail, rfl, tailRespaced⟩ := respaced.solid (by decide)
    obtain ⟨otherRest, again, restRespaced⟩ :=
      ((nestedReader deeper).bracketed (by decide)).again read tailRespaced
    exact ⟨otherRest, .array deeper again, restRespaced⟩
  | object deeper read =>
    obtain ⟨otherTail, rfl, tailRespaced⟩ := respaced.solid (by decide)
    obtain ⟨otherRest, again, restRespaced⟩ :=
      ((nestedReader deeper).entryOf.bracketed (by decide)).again read tailRespaced
    exact ⟨otherRest, .object deeper again, restRespaced⟩

/-- A value is read again, however deep it may be. -/
theorem respaces_readValueAt (depth : Nat) : Respaces (readingOf (readValueAt depth)) :=
  readValueAt_induction (fun _ nested => respaces_form nested) depth

/-- **A respaced text means the same.** -/
theorem parse_of_respaced {text other : List Char} {value : Json}
    (parsed : parse text = .ok value) (respaced : Respaced text other) :
    parse other = .ok value := by
  obtain ⟨rest, form, left⟩ := parse_eq_ok_iff.mp parsed
  obtain ⟨otherRest, again, restRespaced⟩ :=
    (respaces_readValueAt depthLimit).again (readingOf_readValueAt_iff.mpr form) respaced.skipSpace
  have skipped := restRespaced.skipSpace
  rw [left] at skipped
  have otherLeft : skipSpace otherRest = [] := by
    cases found : skipSpace otherRest with
    | nil => rfl
    | cons c others =>
      obtain ⟨_, _, _, notSpace⟩ := Text.exists_span isSpace otherRest
      have head : (skipSpace otherRest).head? = some c := by
        rw [found]
        rfl
      cases skipped.head_of_head (notSpace c head) head
  exact parse_eq_ok_iff.mpr ⟨otherRest, readingOf_readValueAt_iff.mp again, otherLeft⟩

end ServiceWiring.Json
