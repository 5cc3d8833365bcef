import Mathlib.Data.List.Forall2
import ServiceWiring.Proofs.Service.Closing
import ServiceWiring.Proofs.Text.Lines

/-!
# Laid out annotations

How a documentation block may be laid out. A block is a list of items, each with lines
of its own: free text, annotations without a payload, and annotations with a payload
between parentheses. A payload may go on over several lines, and every line may be
decorated with blanks and one star. What an annotation denotes is part of its layout,
so `block` and `Item.entries` say what is written and what should be read from it, and
neither mentions how a block is read.

A payload denotes the value of its text without the decoration of its lines. The blanks
behind the star of a continued line are different from all others, since they stay in
the JSON text, where only spaces and tabs are blanks.

The second part is about line ends. When a block is cut into lines, carriage returns
before line feeds are lost and an empty last line is none. `received_items` says that
this gives the lines of other items with the same annotations, so the reader may be
followed on lines that are as they were laid out.
-/

namespace ServiceWiring.DocBlock

open Text (isBlank isGap isNameStart allBlank trim trimStart trimEnd join lines cutLine
  dropReturn ReceivedLine Received)

/-! ## The layout of a block -/

/-- The blanks that may stand inside a line. -/
def isInlineBlank (c : Char) : Bool := isBlank c && c != '\n' && c != '\r'

/-- What may stand before the text of a line: blanks, perhaps a star, and blanks. -/
structure Decoration where
  before : List Char
  star : Bool
  behind : List Char
  beforeBlank : before.all isInlineBlank = true
  behindBlank : behind.all isInlineBlank = true

/-- The decoration as it is written. -/
def Decoration.text (decoration : Decoration) : List Char :=
  decoration.before ++ ((if decoration.star then ['*'] else []) ++ decoration.behind)

/-- A line on which a payload goes on. The blanks behind its star become part of the
JSON text, so they are spaces and tabs. -/
structure ContinuedLine where
  decoration : Decoration
  text : List Char
  oneLine : '\n' ∉ text
  spaced : decoration.behind.all isGap = true

/-- The line with its decoration. -/
def ContinuedLine.raw (line : ContinuedLine) : List Char := line.decoration.text ++ line.text

/-- Lines behind the line feeds that part them from what stands before. -/
def feedLines (lines : List (List Char)) : List Char := lines.flatMap ('\n' :: ·)

/-- A text between parentheses, laid out on one line or several. -/
structure Payload where
  first : List Char
  further : List ContinuedLine
  oneLine : '\n' ∉ first

/-- The text itself, without the decoration of its lines. -/
def Payload.text (payload : Payload) : List Char :=
  payload.first ++ feedLines (payload.further.map ContinuedLine.text)

/-- A text between parentheses denotes a value: it is JSON, or blank. -/
inductive Denotes (text : List Char) : Json → Prop
  | json {value : Json} (parsed : Json.parse text = .ok value) : Denotes text value
  | blank (blank : allBlank text = true) : Denotes text .null

/-- The name of an annotation. -/
structure EntryName where
  first : Char
  others : List Char
  start : isNameStart first = true
  chars : others.all isAnnotationChar = true

/-- The name as it is written. -/
def EntryName.text (name : EntryName) : List Char := name.first :: name.others

/-- Whether a text starts like an annotation, blanks apart. -/
def startsEntry (text : List Char) : Bool :=
  match trimStart text with
  | '@' :: c :: _ => isNameStart c
  | _ => false

/-- A line of free text: neither the line nor what stands behind its star starts like an
annotation. -/
structure FreeLine where
  text : List Char
  oneLine : '\n' ∉ text
  free : startsEntry text = false
  freeBehindStar : ∀ before behind, text = before ++ '*' :: behind → allBlank before = true →
    startsEntry behind = false

/-- An annotation without a payload. What follows its name neither continues the name nor
opens a payload. -/
structure BareEntry where
  decoration : Decoration
  name : EntryName
  trailing : List Char
  oneLine : '\n' ∉ trailing
  ended : trailing.head?.any isAnnotationChar = false
  unopened : (trimStart trailing).head? ≠ some '('

/-- An annotation with a payload between parentheses, and any text behind it. -/
structure FullEntry where
  decoration : Decoration
  name : EntryName
  gap : List Char
  gapBlank : gap.all isInlineBlank = true
  payload : Payload
  value : Json
  denotes : Denotes payload.text value
  trailing : List Char
  oneLine : '\n' ∉ trailing

/-- What a block is made of. -/
inductive Item
  | free (line : FreeLine)
  | bare (entry : BareEntry)
  | full (entry : FullEntry)

/-- Lines of which the last is closed by a parenthesis with some text behind it. -/
def closedLines (trailing : List Char) : List Char → List (List Char) → List (List Char)
  | last, [] => [last ++ ')' :: trailing]
  | line, next :: others => line :: closedLines trailing next others

/-- The text of a full annotation up to its opening parenthesis. -/
def FullEntry.opening (entry : FullEntry) : List Char :=
  entry.decoration.text ++ '@' :: (entry.name.text ++ (entry.gap ++ ['(']))

/-- The lines of an item. -/
def Item.lines : Item → List (List Char)
  | .free line => [line.text]
  | .bare entry =>
    [entry.decoration.text ++ '@' :: (entry.name.text ++ entry.trailing)]
  | .full entry =>
    closedLines entry.trailing (entry.opening ++ entry.payload.first)
      (entry.payload.further.map ContinuedLine.raw)

/-- What should be read of an item: nothing of free text, and an annotation otherwise. -/
def Item.entries : Item → List DocEntry
  | .free _ => []
  | .bare entry => [⟨String.ofList entry.name.text, .null⟩]
  | .full entry => [⟨String.ofList entry.name.text, entry.value⟩]

/-- The block that consists of some items. -/
def block (items : List Item) : String :=
  String.ofList (['/', '*', '*'] ++ (join ['\n'] (items.flatMap Item.lines) ++ ['*', '/']))

/-! ## Line ends -/

/-- Blanks inside a line are blanks, and neither line feeds nor carriage returns. -/
theorem isInlineBlank_spec {c : Char} (blank : isInlineBlank c = true) :
    isBlank c = true ∧ c ≠ '\n' ∧ c ≠ '\r' := by
  simpa [isInlineBlank, and_assoc] using blank

/-- Inline blanks are blanks. -/
theorem allBlank_of_inline {text : List Char} (inline : text.all isInlineBlank = true) :
    allBlank text = true := by
  rw [List.all_eq_true] at inline
  exact List.all_eq_true.mpr fun c member => (isInlineBlank_spec (inline c member)).1

/-- Inline blanks stand on one line. -/
theorem not_mem_of_inline {text : List Char} (inline : text.all isInlineBlank = true) {c : Char}
    (ending : c = '\n' ∨ c = '\r') : c ∉ text := by
  intro member
  obtain ⟨_, noFeed, noReturn⟩ := isInlineBlank_spec (List.all_eq_true.mp inline c member)
  rcases ending with rfl | rfl
  · exact noFeed rfl
  · exact noReturn rfl

/-- A decoration stands on one line. -/
theorem Decoration.not_mem_text (decoration : Decoration) {c : Char}
    (ending : c = '\n' ∨ c = '\r') : c ∉ decoration.text := by
  have notStar : c ∉ (if decoration.star then ['*'] else []) := by
    rcases ending with rfl | rfl <;> split <;> decide
  rw [text, List.mem_append, List.mem_append]
  rintro (inBefore | inStar | inBehind)
  · exact not_mem_of_inline decoration.beforeBlank ending inBefore
  · exact notStar inStar
  · exact not_mem_of_inline decoration.behindBlank ending inBehind

/-- The characters of a name are no blanks. -/
theorem isAnnotationChar_of_isBlank {c : Char} (blank : isBlank c = true) :
    isAnnotationChar c = false := by
  have notBackslash : c ≠ '\\' := by
    rintro rfl
    exact absurd blank (by decide)
  simp [isAnnotationChar, Text.isNameChar_of_isBlank blank, notBackslash]

/-- A name consists of annotation characters. -/
theorem EntryName.all_text (name : EntryName) : name.text.all isAnnotationChar = true := by
  have first : isAnnotationChar name.first = true := by
    rw [isAnnotationChar, Text.isNameChar_of_isNameStart name.start, Bool.true_or]
  rw [text, List.all_cons, first, name.chars, Bool.and_self]

/-- A name stands on one line. -/
theorem EntryName.not_mem_text (name : EntryName) {c : Char}
    (blank : isBlank c = true) : c ∉ name.text := by
  intro member
  have char := List.all_eq_true.mp name.all_text c member
  rw [isAnnotationChar_of_isBlank blank] at char
  cases char

/-- The text of a full annotation before its payload stands on one line. -/
theorem FullEntry.not_mem_opening (entry : FullEntry) {c : Char}
    (ending : c = '\n' ∨ c = '\r') : c ∉ entry.opening := by
  have blank : isBlank c = true := by rcases ending with rfl | rfl <;> decide
  have notAt : c ≠ '@' := by rcases ending with rfl | rfl <;> decide
  have notParenthesis : c ≠ '(' := by rcases ending with rfl | rfl <;> decide
  have notGap := not_mem_of_inline entry.gapBlank ending
  simp [opening, entry.decoration.not_mem_text ending, entry.name.not_mem_text blank,
    notAt, notParenthesis, notGap]

/-- What starts like an annotation does so whatever follows. -/
theorem startsEntry_append {text : List Char} (starts : startsEntry text = true)
    (rest : List Char) : startsEntry (text ++ rest) = true := by
  unfold startsEntry at starts ⊢
  split at starts
  · rename_i c tail trimmed
    have present : trimStart text ≠ [] := by simp [trimmed]
    rw [Text.trimStart_append present, trimmed]
    exact starts
  · cases starts

/-- A respaced text denotes the same. -/
theorem Denotes.respaced {text other : List Char} {value : Json} (denotes : Denotes text value)
    (respaced : Json.Respaced text other) : Denotes other value := by
  cases denotes with
  | json parsed => exact .json (Json.parse_of_respaced parsed respaced)
  | blank blank => exact .blank (respaced.allBlank blank)

/-- A received line is free if the line is. -/
theorem FreeLine.received (line : FreeLine) {text : List Char}
    (received : ReceivedLine line.text text) : ∃ other : FreeLine, text = other.text := by
  obtain ⟨rest, split⟩ := received.exists_rest
  have notStarts : ∀ {text : List Char}, startsEntry (text ++ rest) = false →
      startsEntry text = false := by
    intro text unstarted
    rw [Bool.eq_false_iff]
    intro starts
    rw [startsEntry_append starts rest] at unstarted
    cases unstarted
  refine ⟨⟨text, received.not_mem line.oneLine, notStarts (split ▸ line.free), ?_⟩, rfl⟩
  rintro before behind rfl blank
  apply notStarts
  apply line.freeBehindStar before (behind ++ rest) _ blank
  rw [split]
  simp

/-- A received line holds a bare annotation if the line does. -/
theorem BareEntry.received (entry : BareEntry) {line : List Char}
    (received : ReceivedLine
      (entry.decoration.text ++ '@' :: (entry.name.text ++ entry.trailing)) line) :
    ∃ other : BareEntry, (Item.bare other).lines = [line] ∧ other.name = entry.name := by
  have whole : entry.decoration.text ++ '@' :: (entry.name.text ++ entry.trailing) =
      (entry.decoration.text ++ '@' :: entry.name.text) ++ entry.trailing := by simp
  have lacks : '\r' ∉ entry.decoration.text ++ '@' :: entry.name.text := by
    have notName : '\r' ∉ entry.name.text := entry.name.not_mem_text (by decide)
    simp [entry.decoration.not_mem_text (.inr rfl), notName]
  rw [whole] at received
  obtain ⟨trailing, rfl, trailingReceived⟩ := received.split_of_lacks lacks
  obtain ⟨rest, split⟩ := trailingReceived.exists_rest
  have ended : trailing.head?.any isAnnotationChar = false := by
    cases start : trailing with
    | nil => rfl
    | cons c others =>
      have whole := entry.ended
      rw [split, start] at whole
      exact whole
  have unopened : (trimStart trailing).head? ≠ some '(' := by
    intro opened
    have present : trimStart trailing ≠ [] := by
      intro nothing
      rw [nothing] at opened
      cases opened
    apply entry.unopened
    rw [split, Text.trimStart_append present, List.head?_append, opened]
    rfl
  exact ⟨{ entry with
      trailing, oneLine := trailingReceived.not_mem entry.oneLine, ended, unopened },
    by simp [Item.lines], rfl⟩

/-- Received lines are respaced if what follows them is. -/
theorem respaced_received {line received text other : List Char}
    (isReceived : ReceivedLine line received)
    (respaced : Json.Respaced ('\n' :: text) ('\n' :: other)) :
    Json.Respaced (line ++ '\n' :: text) (received ++ '\n' :: other) := by
  rcases isReceived with rfl | rfl
  · exact respaced.prepend received
  · rcases Text.dropReturn_cases line with same | shorter
    · rw [same]
      exact respaced.prepend line
    · have longer := respaced.dropReturn.prepend (dropReturn line)
      generalize dropReturn line = short at *
      rw [shorter, List.append_assoc]
      exact longer

/-- Lines of a payload are received as the lines of a respaced one. `lead` is what stands
before the payload on its first line. -/
theorem received_closedLines {trailing lead first : List Char} {further : List ContinuedLine}
    {lines : List (List Char)} (trailingLine : '\n' ∉ trailing) (lacks : '\r' ∉ lead)
    (firstLine : '\n' ∉ first)
    (received : List.Forall₂ ReceivedLine
      (closedLines trailing (lead ++ first) (further.map ContinuedLine.raw)) lines) :
    ∃ (otherTrailing otherFirst : List Char) (otherFurther : List ContinuedLine),
      lines = closedLines otherTrailing (lead ++ otherFirst) (otherFurther.map ContinuedLine.raw) ∧
      '\n' ∉ otherTrailing ∧ '\n' ∉ otherFirst ∧
      Json.Respaced (first ++ feedLines (further.map ContinuedLine.text))
        (otherFirst ++ feedLines (otherFurther.map ContinuedLine.text)) := by
  induction further generalizing lead first lines with
  | nil =>
    rw [List.map_nil, closedLines, List.forall₂_cons_left_iff] at received
    obtain ⟨line, others, same, nothing, rfl⟩ := received
    obtain rfl := List.forall₂_nil_left_iff.mp nothing
    obtain ⟨otherTrailing, rfl, trailingReceived⟩ := same.split (by decide)
    exact ⟨otherTrailing, first, [], rfl, trailingReceived.not_mem trailingLine, firstLine,
      .refl _⟩
  | cons next further inductionHypothesis =>
    rw [List.map_cons, closedLines, List.forall₂_cons_left_iff] at received
    obtain ⟨line, others, same, more, rfl⟩ := received
    obtain ⟨otherFirst, rfl, firstReceived⟩ := same.split_of_lacks lacks
    -- On the next line the decoration is what stands before the payload.
    obtain ⟨otherTrailing, otherText, otherFurther, rfl, otherTrailingLine, otherLine, respaced⟩ :=
      inductionHypothesis (next.decoration.not_mem_text (.inr rfl)) next.oneLine more
    refine ⟨otherTrailing, otherFirst, { next with text := otherText, oneLine := otherLine } ::
      otherFurther, rfl, otherTrailingLine, firstReceived.not_mem firstLine, ?_⟩
    exact respaced_received firstReceived (.keep '\n' respaced)

/-- Lines of a full annotation are received as the lines of one with the same name and
value. -/
theorem FullEntry.received (entry : FullEntry) {lines : List (List Char)}
    (received : List.Forall₂ ReceivedLine (Item.full entry).lines lines) :
    ∃ other : FullEntry, (Item.full other).lines = lines ∧
      (Item.full other).entries = (Item.full entry).entries := by
  obtain ⟨trailing, first, further, rfl, oneLine, firstLine, respaced⟩ :=
    received_closedLines entry.oneLine (entry.not_mem_opening (.inr rfl))
      entry.payload.oneLine received
  exact ⟨{ entry with
      payload := ⟨first, further, firstLine⟩
      denotes := entry.denotes.respaced respaced
      trailing, oneLine }, rfl, rfl⟩

/-- The lines of an item are received as the lines of one with the same annotation. -/
theorem Item.received (item : Item) {lines : List (List Char)}
    (received : List.Forall₂ ReceivedLine item.lines lines) :
    ∃ other : Item, other.lines = lines ∧ other.entries = item.entries := by
  have single : ∀ {raw : List Char}, List.Forall₂ ReceivedLine [raw] lines →
      ∃ line, lines = [line] ∧ ReceivedLine raw line := by
    intro raw received
    rw [List.forall₂_cons_left_iff] at received
    obtain ⟨line, others, same, nothing, rfl⟩ := received
    obtain rfl := List.forall₂_nil_left_iff.mp nothing
    exact ⟨line, rfl, same⟩
  cases item with
  | free line =>
    obtain ⟨text, rfl, same⟩ := single received
    obtain ⟨other, rfl⟩ := line.received same
    exact ⟨.free other, rfl, rfl⟩
  | bare entry =>
    obtain ⟨text, rfl, same⟩ := single received
    obtain ⟨other, otherLines, sameName⟩ := entry.received same
    exact ⟨.bare other, otherLines, by rw [Item.entries, Item.entries, sameName]⟩
  | full entry =>
    obtain ⟨other, otherLines, sameEntry⟩ := entry.received received
    exact ⟨.full other, otherLines, sameEntry⟩

/-- The last line of a payload is closed. -/
theorem exists_closedLines (trailing first : List Char) (further : List (List Char)) :
    ∃ front last, closedLines trailing first further = front ++ [last ++ ')' :: trailing] := by
  induction further generalizing first with
  | nil => exact ⟨[], first, rfl⟩
  | cons next further inductionHypothesis =>
    obtain ⟨front, last, lines⟩ := inductionHypothesis next
    exact ⟨first :: front, last, by rw [closedLines, lines, List.cons_append]⟩

/-- The lines of a payload are lines if its parts are. -/
theorem closedLines_oneLine {trailing first : List Char} {further : List (List Char)}
    (trailingLine : '\n' ∉ trailing) (firstLine : '\n' ∉ first)
    (furtherLines : ∀ line ∈ further, '\n' ∉ line) :
    ∀ line ∈ closedLines trailing first further, '\n' ∉ line := by
  induction further generalizing first with
  | nil => simp [closedLines, firstLine, trailingLine]
  | cons next further inductionHypothesis =>
    rw [List.forall_mem_cons] at furtherLines
    rw [closedLines, List.forall_mem_cons]
    exact ⟨firstLine, inductionHypothesis furtherLines.1 furtherLines.2⟩

/-- The lines of an item hold no line feeds. -/
theorem Item.oneLine (item : Item) : ∀ line ∈ item.lines, '\n' ∉ line := by
  cases item with
  | free line => simpa [Item.lines] using line.oneLine
  | bare entry =>
    have notDecoration := entry.decoration.not_mem_text (.inl rfl)
    have notName : '\n' ∉ entry.name.text := entry.name.not_mem_text (by decide)
    simp [Item.lines, notDecoration, notName, entry.oneLine]
  | full entry =>
    refine closedLines_oneLine entry.oneLine ?_ ?_
    · simp [entry.not_mem_opening (.inl rfl), entry.payload.oneLine]
    · rw [List.forall_mem_map]
      intro line _
      simp [ContinuedLine.raw, line.decoration.not_mem_text (.inl rfl), line.oneLine]

/-- An item has lines. -/
theorem Item.lines_ne_nil (item : Item) : item.lines ≠ [] := by
  cases item with
  | free line => exact List.cons_ne_nil _ _
  | bare entry => exact List.cons_ne_nil _ _
  | full entry =>
    obtain ⟨front, last, lines⟩ := exists_closedLines entry.trailing
      (entry.opening ++ entry.payload.first)
      (entry.payload.further.map ContinuedLine.raw)
    simp [Item.lines, lines]

/-- An item whose last line is empty is an empty line. -/
theorem Item.of_empty_end {item : Item} {front : List (List Char)}
    (ended : item.lines = front ++ [[]]) : front = [] ∧ item.entries = [] := by
  cases item with
  | free line => exact ⟨(List.append_eq_singleton_iff.mp ended.symm).elim And.left (by simp), rfl⟩
  | bare entry =>
    rcases List.append_eq_singleton_iff.mp ended.symm with ⟨-, same⟩ | ⟨-, nothing⟩
    · simp at same
    · cases nothing
  | full entry =>
    obtain ⟨_, last, lines⟩ := exists_closedLines entry.trailing
      (entry.opening ++ entry.payload.first)
      (entry.payload.further.map ContinuedLine.raw)
    rw [Item.lines, lines] at ended
    have same := List.append_inj_right' ended rfl
    simp at same

/-- The lines of some items are received as the lines of items with the same
annotations. -/
theorem received_items {items : List Item} {lines : List (List Char)}
    (received : Received (items.flatMap Item.lines) lines) :
    ∃ others : List Item, lines = others.flatMap Item.lines ∧
      others.flatMap Item.entries = items.flatMap Item.entries := by
  induction items generalizing lines with
  | nil =>
    cases received
    exact ⟨[], rfl, rfl⟩
  | cons item items inductionHypothesis =>
    rw [List.flatMap_cons] at received
    rcases received.append with ⟨front, back, rfl, frontReceived, backReceived⟩ |
      ⟨nothing, front, ended, frontReceived⟩
    · obtain ⟨other, rfl, sameEntry⟩ := item.received frontReceived
      obtain ⟨others, rfl, sameEntries⟩ := inductionHypothesis backReceived
      refine ⟨other :: others, rfl, ?_⟩
      rw [List.flatMap_cons, List.flatMap_cons, sameEntry, sameEntries]
    · -- The last line of the block is empty and not received; so the item is free text.
      obtain ⟨rfl, noEntry⟩ := item.of_empty_end ended
      obtain rfl := List.forall₂_nil_left_iff.mp frontReceived
      have noItems : items = [] := by
        rw [List.flatMap_eq_nil_iff] at nothing
        exact List.eq_nil_iff_forall_not_mem.mpr fun other member =>
          other.lines_ne_nil (nothing other member)
      refine ⟨[], rfl, ?_⟩
      rw [noItems, List.flatMap_cons, noEntry, List.nil_append]

end ServiceWiring.DocBlock
