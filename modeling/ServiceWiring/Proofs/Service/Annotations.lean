import ServiceWiring.Proofs.Service.Layout

/-!
# Reading laid out annotations

Reading a block gives back the annotations that it was laid out from. The lines of the
block are first received without carriage returns and then lose their decoration, which
respaces the payloads at most. From there on the reading is followed item by item:
`Item.annotations_lines` tells what one item contributes to the annotations of the
lines behind it, and an induction over the items puts these together.
-/

namespace ServiceWiring.DocBlock

open Text (isBlank isGap isNameStart allBlank trim trimStart trimEnd join cutLine stripPrefix?
  stripSuffix?)
open Json (Lexed Respaced)

/-! ## Lines without their decoration -/

/-- Blanks and a star before a text go. -/
theorem undecorateLine_star {before : List Char} (blank : allBlank before = true)
    (behind : List Char) : undecorateLine (before ++ '*' :: behind) = behind := by
  have trimmed : trimStart (before ++ '*' :: behind) = '*' :: behind := by
    rw [trimStart, Text.dropWhile_append_of_all blank]
    rfl
  simp [undecorateLine, trimmed, stripPrefix?]

/-- Blanks before a text do not count. -/
theorem undecorateLine_blanks {before : List Char} (blank : allBlank before = true)
    (text : List Char) : undecorateLine (before ++ text) = undecorateLine text := by
  have trimmed : trimStart (before ++ text) = trimStart text :=
    Text.dropWhile_append_of_all blank text
  rw [undecorateLine, undecorateLine, trimmed]

/-- Blanks alone go when no star stands behind them. -/
theorem undecorateLine_of_head {line : List Char} (unstarred : (trimStart line).head? ≠ some '*') :
    undecorateLine line = trimStart line := by
  rw [undecorateLine]
  cases found : stripPrefix? ['*'] (trimStart line) with
  | none => rfl
  | some behind =>
    rw [(Text.stripPrefix?_eq_some_iff _ _ _).mp found] at unstarred
    exact absurd rfl unstarred

/-- A line starts with a star, blanks apart, or it does not. -/
theorem starred_cases (line : List Char) :
    (∃ before behind, line = before ++ '*' :: behind ∧ allBlank before = true) ∨
    (trimStart line).head? ≠ some '*' := by
  by_cases starred : (trimStart line).head? = some '*'
  · obtain ⟨behind, trimmed⟩ := List.head?_eq_some_iff.mp starred
    obtain ⟨before, blank, split, -⟩ := Text.exists_span isBlank line
    refine .inl ⟨before, behind, ?_, blank⟩
    rw [← trimmed]
    exact split
  · exact .inr starred

/-- A line without its decoration stands on one line. -/
theorem not_mem_undecorateLine {line : List Char} (oneLine : '\n' ∉ line) :
    '\n' ∉ undecorateLine line := by
  rcases starred_cases line with ⟨before, behind, rfl, blank⟩ | unstarred
  · rw [undecorateLine_star blank]
    exact fun member => oneLine (List.mem_append_right _ (List.mem_cons_of_mem _ member))
  · rw [undecorateLine_of_head unstarred]
    exact fun member => oneLine ((List.dropWhile_suffix _).subset member)

/-- Text from a character that is neither a blank nor a star stays. -/
theorem undecorateLine_append_mark {mark : Char} (notBlank : isBlank mark = false)
    (notStar : mark ≠ '*') (front back : List Char) :
    undecorateLine (front ++ mark :: back) = undecorateLine front ++ mark :: back := by
  rcases starred_cases front with ⟨before, behind, rfl, blank⟩ | unstarred
  · rw [undecorateLine_star blank, List.append_assoc, List.cons_append, undecorateLine_star blank]
  · have trimmed : trimStart (front ++ mark :: back) = trimStart front ++ mark :: back :=
      Text.dropWhile_append_mark notBlank front back
    have wholeUnstarred : (trimStart (front ++ mark :: back)).head? ≠ some '*' := by
      rw [trimmed]
      cases start : trimStart front with
      | nil => simpa using notStar
      | cons c rest => simpa [start] using unstarred
    rw [undecorateLine_of_head unstarred, undecorateLine_of_head wholeUnstarred, trimmed]

/-- Of a decoration the blanks behind the star stay. -/
theorem Decoration.undecorateLine (decoration : Decoration) (text : List Char) :
    undecorateLine (decoration.text ++ text) =
      if decoration.star then decoration.behind ++ text else DocBlock.undecorateLine text := by
  have before := allBlank_of_inline decoration.beforeBlank
  have behind := allBlank_of_inline decoration.behindBlank
  rw [Decoration.text, List.append_assoc, List.append_assoc]
  cases decoration.star with
  | true =>
    rw [if_pos rfl, if_pos rfl]
    exact undecorateLine_star before (decoration.behind ++ text)
  | false =>
    rw [if_neg Bool.false_ne_true, if_neg Bool.false_ne_true, List.nil_append,
      undecorateLine_blanks before, undecorateLine_blanks behind]

/-! ## Payloads without the decoration of their lines -/

/-- The text of a payload as it is found in a block: the decoration of its lines is gone
but for the blanks behind the stars. -/
def Payload.found (payload : Payload) : List Char :=
  payload.first ++ feedLines (payload.further.map fun line => undecorateLine line.raw)

/-- When its decoration goes, a line of a JSON text differs in spaces of JSON at its
beginning only. -/
theorem ContinuedLine.undecorate_lexed (line : ContinuedLine) (lexed : Lexed line.text) :
    ∃ spaces otherSpaces text, line.text = spaces ++ text ∧
      undecorateLine line.raw = otherSpaces ++ text ∧
      spaces.all Json.isSpace = true ∧ otherSpaces.all Json.isSpace = true := by
  rw [raw, line.decoration.undecorateLine]
  cases line.decoration.star with
  | true =>
    refine ⟨[], line.decoration.behind, line.text, rfl, if_pos rfl, rfl, ?_⟩
    rw [List.all_eq_true]
    intro c member
    have gap := List.all_eq_true.mp line.spaced c member
    simp only [isGap, Bool.or_eq_true, beq_iff_eq] at gap
    rcases gap with rfl | rfl <;> decide
  | false =>
    -- The line has no star of its own, since JSON has none outside strings.
    obtain ⟨spaces, all, split, unstarred⟩ := lexed.trimStart_split
    rw [if_neg Bool.false_ne_true, undecorateLine_of_head unstarred]
    exact ⟨spaces, [], trimStart line.text, split, rfl, all, rfl⟩

/-- A blank line of a payload stays blank. -/
theorem ContinuedLine.undecorate_blank (line : ContinuedLine) (blank : allBlank line.text = true) :
    allBlank (undecorateLine line.raw) = true := by
  rw [raw, line.decoration.undecorateLine]
  cases line.decoration.star with
  | true =>
    rw [if_pos rfl, allBlank, List.all_append, Bool.and_eq_true]
    exact ⟨allBlank_of_inline line.decoration.behindBlank, blank⟩
  | false =>
    have nothing := (Text.trimStart_eq_nil_iff line.text).mpr blank
    rw [if_neg Bool.false_ne_true, undecorateLine_of_head (by simp [nothing]), nothing]
    rfl

/-- Lines are blank if each of them is. -/
theorem allBlank_feedLines {first : List Char} {lines : List (List Char)} :
    allBlank (first ++ feedLines lines) = true ↔
      allBlank first = true ∧ ∀ line ∈ lines, allBlank line = true := by
  have feed : isBlank '\n' = true := by decide
  simp [allBlank, feedLines, feed]

/-- The lines of a row of lexemes are rows of lexemes. -/
theorem lexed_feedLines {first : List Char} {lines : List (List Char)}
    (lexed : Lexed (first ++ feedLines lines)) : ∀ line ∈ lines, Lexed line := by
  have all : Lexed first ∧ ∀ line ∈ lines, Lexed line := by
    induction lines generalizing first with
    | nil => simpa [feedLines] using lexed
    | cons line lines inductionHypothesis =>
      obtain ⟨firstLexed, restLexed⟩ := lexed.split_feed
      rw [List.forall_mem_cons]
      exact ⟨firstLexed, inductionHypothesis restLexed⟩
  exact all.2

/-- The decoration of its lines only respaces a JSON text. -/
theorem respaced_undecorate {further : List ContinuedLine}
    (lexed : ∀ line ∈ further, Lexed line.text) :
    Respaced (feedLines (further.map ContinuedLine.text))
      (feedLines (further.map fun line => undecorateLine line.raw)) := by
  induction further with
  | nil => exact .refl []
  | cons line further inductionHypothesis =>
    rw [List.forall_mem_cons] at lexed
    obtain ⟨spaces, otherSpaces, text, split, found, all, otherAll⟩ := line.undecorate_lexed lexed.1
    have isBreak : ∀ {gap : List Char}, gap.all Json.isSpace = true → Json.IsBreak ('\n' :: gap) :=
      fun all => ⟨by rw [List.all_cons, all]; rfl, '\n', rfl, by decide⟩
    have respaced : Respaced _ _ :=
      .gap (isBreak all) (isBreak otherAll) ((inductionHypothesis lexed.2).prepend text)
    rw [List.map_cons, List.map_cons, split, found]
    simpa [feedLines] using respaced

/-- The payload denotes the same when the decoration of its lines is gone. -/
theorem Denotes.found {payload : Payload} {value : Json} (denotes : Denotes payload.text value) :
    Denotes payload.found value := by
  cases denotes with
  | json parsed =>
    have lexed := lexed_feedLines (Json.lexed_of_parse parsed)
    rw [List.forall_mem_map] at lexed
    have respaced := (respaced_undecorate lexed).prepend payload.first
    exact .json (Json.parse_of_respaced parsed respaced)
  | blank blank =>
    rw [Payload.text, allBlank_feedLines, List.forall_mem_map] at blank
    refine .blank (allBlank_feedLines.mpr ⟨blank.1, ?_⟩)
    rw [List.forall_mem_map]
    exact fun line member => line.undecorate_blank (blank.2 line member)

/-- A text that denotes something is passed on the way to the closing parenthesis. -/
theorem Denotes.passed {text : List Char} {value : Json} (denotes : Denotes text value) :
    Passed text := by
  cases denotes with
  | json parsed => exact .of_lexed (Json.lexed_of_parse parsed)
  | blank blank => exact .of_allBlank blank

/-- A text that denotes something is read as that. -/
theorem Denotes.payload (name : List Char) {text : List Char} {value : Json}
    (denotes : Denotes text value) : payload name text = .ok value := by
  cases denotes with
  | json parsed => exact payload_of_parse name parsed
  | blank blank => exact payload_of_allBlank name blank

/-! ## Reading line by line -/

/-- Lines are joined by the line feeds before them. -/
theorem join_feedLines (line : List Char) (lines : List (List Char)) :
    join ['\n'] (line :: lines) = line ++ feedLines lines := by
  induction lines generalizing line with
  | nil => simp [join, feedLines]
  | cons next lines inductionHypothesis =>
    rw [Text.join_cons_cons, inductionHypothesis, List.append_assoc]
    rfl

/-- Lines stand behind line feeds when they are joined and one line feed stands before
them. -/
theorem feedLines_eq {lines : List (List Char)} (present : lines ≠ []) :
    feedLines lines = '\n' :: join ['\n'] lines := by
  cases lines with
  | nil => exact absurd rfl present
  | cons line lines =>
    rw [join_feedLines]
    rfl

/-- The lines of a payload and further ones, joined. -/
theorem join_closedLines (trailing first : List Char) (further others : List (List Char)) :
    join ['\n'] (closedLines trailing first further ++ others) =
      (first ++ feedLines further) ++ ')' :: (trailing ++ feedLines others) := by
  induction further generalizing first with
  | nil => simp [closedLines, feedLines, join_feedLines]
  | cons next further inductionHypothesis =>
    have present : closedLines trailing next further ++ others ≠ [] := by
      obtain ⟨front, last, lines⟩ := exists_closedLines trailing next further
      simp [lines]
    rw [closedLines, List.cons_append, join_feedLines, feedLines_eq present, inductionHypothesis]
    simp [feedLines]

/-- The closing parenthesis and what stands behind it stay. -/
theorem map_closedLines (trailing first : List Char) (further : List (List Char)) :
    (closedLines trailing first further).map undecorateLine =
      closedLines trailing (undecorateLine first) (further.map undecorateLine) := by
  induction further generalizing first with
  | nil =>
    rw [closedLines, List.map_singleton, undecorateLine_append_mark (by decide) (by decide)]
    rfl
  | cons next further inductionHypothesis =>
    rw [closedLines, List.map_cons, inductionHypothesis]
    rfl

/-- The first line of some lines is cut off. -/
theorem cutLine_feedLines {line : List Char} (oneLine : '\n' ∉ line) (lines : List (List Char)) :
    (cutLine (line ++ feedLines lines)).1 = line ∧
      nextLines (line ++ feedLines lines) = join ['\n'] lines := by
  cases lines with
  | nil =>
    have cut := Text.cutLine_of_oneLine oneLine
    simp [feedLines, nextLines, cut, join]
  | cons next lines =>
    have cut := Text.cutLine_line oneLine (next ++ feedLines lines)
    rw [join_feedLines]
    exact ⟨congrArg Prod.fst cut, congrArg (fun parts => parts.2.getD []) cut⟩

/-- A line without an annotation is passed over. -/
theorem annotations_free {line : List Char} (oneLine : '\n' ∉ line)
    (free : annotationName? line = none) (lines : List (List Char)) :
    annotations (line ++ feedLines lines) = annotations (join ['\n'] lines) := by
  obtain ⟨cut, next⟩ := cutLine_feedLines oneLine lines
  rw [annotations.eq_def]
  split
  · rename_i nothing
    rw [nothing] at next
    rw [← next, nextLines, cutLine, Option.getD_none, annotations]
  · rename_i c tail whole
    rw [whole] at cut next
    split
    · rw [next]
    · rename_i name behind found
      rw [cut, free] at found
      cases found

/-- A line with an annotation that opens no parenthesis gives one annotation. -/
theorem annotations_bare {line name behind : List Char} {entries : List DocEntry}
    {lines : List (List Char)} (oneLine : '\n' ∉ line)
    (named : annotationName? line = some (name, behind))
    (unopened : (trimStart behind).head? ≠ some '(')
    (others : annotations (join ['\n'] lines) = .ok entries) :
    annotations (line ++ feedLines lines) = .ok (⟨String.ofList name, .null⟩ :: entries) := by
  obtain ⟨cut, next⟩ := cutLine_feedLines oneLine lines
  rw [annotations.eq_def]
  split
  · rename_i nothing
    rw [(List.append_eq_nil_iff.mp nothing).1] at named
    cases named
  · rename_i c tail whole
    rw [whole] at cut next
    split
    · rename_i found
      rw [cut, named] at found
      cases found
    · rename_i _ _ found
      rw [cut, named] at found
      cases found
      split
      · rename_i opened gap
        rw [gap] at unopened
        exact absurd rfl unopened
      · rw [next, others]

/-- An annotation with a closed payload gives one annotation and goes on behind it. -/
theorem annotations_full {front name gap opened body after : List Char} {value : Json}
    {entries : List DocEntry} (oneLine : '\n' ∉ front)
    (named : ∀ rest, annotationName? (front ++ '(' :: rest) = some (name, gap ++ '(' :: rest))
    (gapBlank : allBlank gap = true)
    (closed : cutAtClosing .code 0 opened = some (body, after))
    (denoted : payload name body = .ok value)
    (others : annotations (nextLines after) = .ok entries) :
    annotations (front ++ '(' :: opened) = .ok (⟨String.ofList name, value⟩ :: entries) := by
  -- The payload may end on this line or on a later one. In both cases what follows the
  -- opening parenthesis on the line and the lines behind it are `opened`.
  have openingLine : '\n' ∉ front ++ ['('] := by simp [oneLine]
  have cut := Text.cutLine_behind openingLine opened
  rw [List.append_assoc, List.singleton_append, List.append_assoc, List.singleton_append] at cut
  have unblanked : trimStart (gap ++ '(' :: (cutLine opened).1) = '(' :: (cutLine opened).1 := by
    rw [trimStart, Text.dropWhile_append_of_all gapBlank]
    rfl
  rw [annotations.eq_def]
  split
  · rename_i nothing
    simp at nothing
  · rename_i c tail whole
    rw [whole] at cut
    split
    · rename_i found
      rw [cut, named] at found
      cases found
    · rename_i _ _ found
      rw [cut, named] at found
      cases found
      split
      · rename_i otherOpened gapSplit
        rw [unblanked] at gapSplit
        obtain rfl := (List.cons.inj gapSplit).2
        rw [cut, cutLine_append]
        split
        · rename_i unclosed
          rw [closed] at unclosed
          cases unclosed
        · rename_i _ _ otherClosed
          rw [closed] at otherClosed
          cases otherClosed
          rw [denoted, others]
      · rename_i unopened
        exact absurd unblanked (unopened _)

/-! ## Reading item by item -/

/-- The name behind blanks and an at sign is read to its end. -/
theorem annotationName?_name (name : EntryName) {front rest : List Char}
    (blank : allBlank front = true) (ended : rest.head?.any isAnnotationChar = false) :
    annotationName? (front ++ '@' :: (name.text ++ rest)) = some (name.text, rest) := by
  have trimmed : trimStart (front ++ '@' :: (name.text ++ rest)) =
      '@' :: name.first :: (name.others ++ rest) := by
    rw [trimStart, Text.dropWhile_append_of_all blank]
    rfl
  have other : ∀ c ∈ rest.head?, isAnnotationChar c = false := by
    intro c head
    rw [Option.mem_def.mp head, Option.any_some] at ended
    exact ended
  have taken := Text.takeWhile_append_of_head name.chars other
  have left : (name.others ++ rest).dropWhile isAnnotationChar = rest := by
    rw [Text.dropWhile_append_of_all name.chars, Text.dropWhile_of_head other]
  rw [annotationName?, trimmed]
  simp [name.start, taken, left, EntryName.text]

/-- No annotation stands where none starts. -/
theorem annotationName?_eq_none {line : List Char} (free : startsEntry line = false) :
    annotationName? line = none := by
  unfold startsEntry at free
  unfold annotationName?
  split
  · rename_i c rest trimmed
    simp only [trimmed] at free
    rw [if_neg (by simp [free])]
  · rfl

/-- A free line has no annotation when its decoration is gone. -/
theorem FreeLine.annotationName? (line : FreeLine) :
    annotationName? (undecorateLine line.text) = none := by
  apply annotationName?_eq_none
  rcases starred_cases line.text with ⟨before, behind, split, blank⟩ | unstarred
  · rw [split, undecorateLine_star blank]
    exact line.freeBehindStar before behind split blank
  · have twice : trimStart (trimStart line.text) = trimStart line.text := by
      obtain ⟨_, _, _, head⟩ := Text.exists_span isBlank line.text
      exact Text.dropWhile_of_head head
    rw [undecorateLine_of_head unstarred, startsEntry, twice]
    exact line.free

/-- Of the decoration of an annotation blanks remain at most. -/
theorem Decoration.exists_undecorated (decoration : Decoration) :
    ∃ front, front.all isInlineBlank = true ∧
      ∀ rest, DocBlock.undecorateLine (decoration.text ++ '@' :: rest) = front ++ '@' :: rest := by
  cases star : decoration.star with
  | true =>
    refine ⟨decoration.behind, decoration.behindBlank, fun rest => ?_⟩
    rw [decoration.undecorateLine, if_pos star]
  | false =>
    refine ⟨[], rfl, fun rest => ?_⟩
    have unblanked : trimStart ('@' :: rest) = '@' :: rest := rfl
    rw [decoration.undecorateLine, if_neg (by simp [star]),
      undecorateLine_of_head (by simp [unblanked]), unblanked]
    rfl

/-- The name of a full annotation is read up to the blanks before its parenthesis. -/
theorem FullEntry.annotationName? (entry : FullEntry) {front : List Char}
    (blank : allBlank front = true) (opened : List Char) :
    annotationName? ((front ++ '@' :: (entry.name.text ++ entry.gap)) ++ '(' :: opened) =
      some (entry.name.text, entry.gap ++ '(' :: opened) := by
  have ended : (entry.gap ++ '(' :: opened).head?.any isAnnotationChar = false := by
    cases gap : entry.gap with
    | nil => rfl
    | cons first others =>
      have gapBlank := allBlank_of_inline entry.gapBlank
      rw [gap, allBlank, List.all_cons, Bool.and_eq_true] at gapBlank
      exact isAnnotationChar_of_isBlank gapBlank.1
  rw [List.append_assoc, List.cons_append, List.append_assoc]
  exact annotationName?_name entry.name blank ended

/-- The lines of a full annotation without their decoration: its name, and the payload
as it is found between the parentheses. -/
theorem FullEntry.join_lines (entry : FullEntry) {front : List Char}
    (undecorated : ∀ rest, undecorateLine (entry.decoration.text ++ '@' :: rest) =
      front ++ '@' :: rest) (others : List (List Char)) :
    join ['\n'] ((Item.full entry).lines.map undecorateLine ++ others) =
      (front ++ '@' :: (entry.name.text ++ entry.gap)) ++
        '(' :: (entry.payload.found ++ ')' :: (entry.trailing ++ feedLines others)) := by
  have first : undecorateLine (entry.opening ++ entry.payload.first) =
      (front ++ '@' :: (entry.name.text ++ entry.gap)) ++ '(' :: entry.payload.first := by
    simp [FullEntry.opening, undecorated]
  rw [Item.lines, map_closedLines, join_closedLines, first, Payload.found, List.map_map]
  simp [Function.comp_def]

/-- An item gives its annotation, and the lines behind it give theirs. -/
theorem Item.annotations_lines (item : Item) {others : List (List Char)} {entries : List DocEntry}
    (rest : annotations (join ['\n'] others) = .ok entries) :
    annotations (join ['\n'] (item.lines.map undecorateLine ++ others)) =
      .ok (item.entries ++ entries) := by
  cases item with
  | free line =>
    rw [Item.lines, List.map_singleton, List.singleton_append, join_feedLines,
      annotations_free (not_mem_undecorateLine line.oneLine) line.annotationName?, rest]
    rfl
  | bare entry =>
    obtain ⟨front, inline, undecorated⟩ := entry.decoration.exists_undecorated
    have notName : '\n' ∉ entry.name.text := entry.name.not_mem_text (by decide)
    have oneLine : '\n' ∉ front ++ '@' :: (entry.name.text ++ entry.trailing) := by
      simp [not_mem_of_inline inline (.inl rfl), notName, entry.oneLine]
    rw [Item.lines, List.map_singleton, undecorated, List.singleton_append, join_feedLines]
    exact annotations_bare oneLine
      (annotationName?_name entry.name (allBlank_of_inline inline) entry.ended)
      entry.unopened rest
  | full entry =>
    obtain ⟨front, inline, undecorated⟩ := entry.decoration.exists_undecorated
    have notName : '\n' ∉ entry.name.text := entry.name.not_mem_text (by decide)
    have oneLine : '\n' ∉ front ++ '@' :: (entry.name.text ++ entry.gap) := by
      simp [not_mem_of_inline inline (.inl rfl), notName,
        not_mem_of_inline entry.gapBlank (.inl rfl)]
    have found := entry.denotes.found
    have closed := found.passed.cutAtClosing (entry.trailing ++ feedLines others)
    have next : annotations (nextLines (entry.trailing ++ feedLines others)) = .ok entries := by
      rw [(cutLine_feedLines entry.oneLine others).2]
      exact rest
    rw [entry.join_lines undecorated]
    exact annotations_full oneLine (entry.annotationName? (allBlank_of_inline inline))
      (allBlank_of_inline entry.gapBlank) closed (found.payload entry.name.text) next

/-- The lines of some items give their annotations. -/
theorem annotations_items (items : List Item) :
    annotations (join ['\n'] ((items.flatMap Item.lines).map undecorateLine)) =
      .ok (items.flatMap Item.entries) := by
  induction items with
  | nil => rw [List.flatMap_nil, List.map_nil, join, annotations, List.flatMap_nil]
  | cons item items inductionHypothesis =>
    rw [List.flatMap_cons, List.map_append, item.annotations_lines inductionHypothesis,
      List.flatMap_cons]

/-- Between its marks a block is its lines. -/
theorem undecorate_block (inner : List Char) :
    undecorate (['/', '*', '*'] ++ (inner ++ ['*', '/'])) =
      join ['\n'] ((Text.lines inner).map undecorateLine) := by
  have trimmed : trim (['/', '*', '*'] ++ (inner ++ ['*', '/'])) =
      ['/', '*', '*'] ++ (inner ++ ['*', '/']) := by
    have start : trimStart (['/', '*', '*'] ++ (inner ++ ['*', '/'])) =
        ['/', '*', '*'] ++ (inner ++ ['*', '/']) := rfl
    have ended : ['/', '*', '*'] ++ (inner ++ ['*', '/']) =
        (['/', '*', '*'] ++ (inner ++ ['*'])) ++ ['/'] := by simp
    rw [trim, start]
    apply Text.trimEnd_of_getLast
    intro c last
    rw [ended, List.getLast?_concat] at last
    obtain rfl : '/' = c := Option.some.inj last
    rfl
  have opened := (Text.stripPrefix?_eq_some_iff ['/', '*', '*'] _ (inner ++ ['*', '/'])).mpr rfl
  have closed := (Text.stripSuffix?_eq_some_iff ['*', '/'] _ inner).mpr rfl
  simp only [undecorate, trimmed, opened, closed, Option.getD_some]

/-- **A block is read as the annotations that it was laid out from.** Blanks in its layout may be
any white space but line feeds, except that behind the star of a line that a payload continues
on they are spaces and tabs: these stay in front of the JSON text, which has few blanks of its
own. -/
theorem parse_block (items : List Item) :
    parse (block items) = .ok (items.flatMap Item.entries) := by
  have oneLine : ∀ line ∈ items.flatMap Item.lines, '\n' ∉ line := by
    intro line member
    obtain ⟨item, _, inItem⟩ := List.mem_flatMap.mp member
    exact item.oneLine line inItem
  obtain ⟨others, lines, sameEntries⟩ := received_items (Text.received_lines oneLine)
  rw [parse, block, String.toList_ofList, undecorate_block, lines, annotations_items, sameEntries]

/-- A line of free text. That no annotation stands behind its star is seen without its
decoration. -/
def FreeLine.ofText (text : List Char) (oneLine : '\n' ∉ text)
    (free : startsEntry text = false)
    (freeUndecorated : startsEntry (undecorateLine text) = false) : FreeLine where
  text
  oneLine
  free
  freeBehindStar := by
    intro before behind split blank
    rw [split, undecorateLine_star blank] at freeUndecorated
    exact freeUndecorated

/-- The decoration of the lines of most blocks. -/
def usualDecoration : Decoration := ⟨[' '], true, [' '], by decide, by decide⟩

/-- A payload on four lines. Its string holds a parenthesis, an escaped quote, a star
and an at sign, and its third line has no star. -/
def mailerPayload : Payload where
  first := ['{']
  further := [
    ⟨usualDecoration, " \"id\": \"a) \\\"(*@b\",".toList, by decide, by decide⟩,
    ⟨⟨[' ', '\t'], false, [], by decide, by decide⟩, "\"tags\": []\r".toList, by decide, by decide⟩,
    ⟨usualDecoration, ['}'], by decide, by decide⟩]
  oneLine := by decide

/-- What that payload denotes. -/
def mailerValue : Json := .obj [("id", .str "a) \"(*@b"), ("tags", .arr [])]

/-- Free text, an annotation without a payload, one with a payload on several lines,
and one with a blank payload. -/
def mailerItems : List Item := [
  .free (.ofText " Sends mail, see @link.".toList (by decide) (by decide) (by decide)),
  .bare ⟨usualDecoration, ⟨'F', "inal\\2".toList, by decide, by decide⟩, " since 2 (or 3)".toList,
    by decide, by decide, by decide⟩,
  .full {
    decoration := usualDecoration
    name := ⟨'S', "ervice".toList, by decide, by decide⟩
    gap := [' ']
    gapBlank := by decide
    payload := mailerPayload
    value := mailerValue
    denotes := .json (by decide +kernel)
    trailing := " and (so on".toList
    oneLine := by decide },
  .full {
    decoration := usualDecoration
    name := ⟨'T', "ag".toList, by decide, by decide⟩
    gap := []
    gapBlank := by decide
    payload := ⟨[' '], [⟨usualDecoration, [' '], by decide, by decide⟩], by decide⟩
    value := .null
    denotes := .blank (by decide)
    trailing := ['.']
    oneLine := by decide },
  .free (.ofText [' '] (by decide) (by decide) (by decide))]

/-- A block with all of these lines is read to its end. -/
theorem parse_block_mailer :
    parse ("/** Sends mail, see @link.\n * @Final\\2 since 2 (or 3)\n" ++
      " * @Service (\x7b\n *  \"id\": \"a) \\\"(*@b\",\n \t\"tags\": []\r\n * \x7d) and (so on\n" ++
      " * @Tag( \n *  ).\n */") =
    .ok [⟨"Final\\2", .null⟩, ⟨"Service", mailerValue⟩, ⟨"Tag", .null⟩] := by
  have read := parse_block mailerItems
  have written : block mailerItems =
      "/** Sends mail, see @link.\n * @Final\\2 since 2 (or 3)\n" ++
      " * @Service (\x7b\n *  \"id\": \"a) \\\"(*@b\",\n \t\"tags\": []\r\n * \x7d) and (so on\n" ++
      " * @Tag( \n *  ).\n */" := by decide +kernel
  rw [written] at read
  rw [read]
  rfl

end ServiceWiring.DocBlock
