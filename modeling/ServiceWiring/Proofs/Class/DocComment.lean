import Mathlib.Data.List.Basic
import Mathlib.Data.List.Induction
import ServiceWiring.Proofs.Class.Opening
import ServiceWiring.Proofs.Text.Pieces

/-!
# The documentation block before a class

A documentation block on lines of its own, and the lines that may part it from the class:
blank lines and lines that hold an attribute group.

The main statements are that the comment right before a class is the documentation block
when there is one, whatever lines stand before it, and that there is none when the last
line that says anything does not end with the end mark of a comment. No line of a
documentation block reads as a declaration.
-/

namespace ServiceWiring.Source

open Text (isBlank isGap isNameStart allBlank trimStart trimEnd occurs cutAtLast splitOnChar
  exists_span dropWhile_append_of_all dropWhile_of_head trimStart_append trimEnd_append_blanks
  trimEnd_of_getLast exists_trimEnd splitOnChar_append splitOnChar_append_back
  not_mem_of_mem_splitOnChar)

/-- Whether the first character of a line that is not blank is a star. -/
def isStarred (line : List Char) : Bool := (trimStart line).head? == some '*'

/-- A documentation block on lines of its own. Each line after the first starts with a star,
and neither the opening mark nor the end mark comes up inside. -/
structure DocBlock where
  indent : List Char
  inside : List Char
  trail : List Char
  indentBlank : allBlank indent = true
  indentLine : '\n' ∉ indent
  trailBlank : allBlank trail = true
  trailLine : '\n' ∉ trail
  noOpening : occurs ['/', '*', '*'] (inside ++ ['*', '/']) = false
  noEnd : occurs ['*', '/'] inside = false
  starred : (splitOnChar '\n' (inside ++ ['*', '/'])).tail.all isStarred = true

namespace DocBlock

variable (doc : DocBlock)

/-- The block with its marks. -/
def block : List Char := '/' :: '*' :: '*' :: (doc.inside ++ ['*', '/'])

/-- The lines of the block, with the blanks around it. -/
def lines : List (List Char) := splitOnChar '\n' (doc.indent ++ doc.block ++ doc.trail)

end DocBlock

/-- A line that may stand between a documentation block and its class. -/
inductive SkippedLine
  | blank (text : List Char) (allBlank : allBlank text = true) (oneLine : '\n' ∉ text)
  | group (indent rest : List Char) (indentBlank : Text.allBlank indent = true)
      (oneLine : '\n' ∉ indent ++ rest)

/-- The line as it is written. -/
def SkippedLine.text : SkippedLine → List Char
  | blank text _ _ => text
  | group indent rest _ _ => indent ++ '#' :: '[' :: rest

/-- The last line that is neither blank nor an attribute line. -/
def lastLine? (lines : List (List Char)) : Option (List Char) :=
  (lines.filter fun line => !(allBlank line || isAttributeLine line)).getLast?

/-- Whether the last line that is neither blank nor an attribute line ends with the end mark
of a comment. -/
def endsInComment (lines : List (List Char)) : Bool :=
  (lastLine? lines).any fun line => ['*', '/'].isSuffixOf (trimEnd line)

/-! ## Lines of a text -/

/-- The lines of a text make up the text and a line feed. -/
theorem linesText_splitOnChar (text : List Char) :
    linesText (splitOnChar '\n' text) = text ++ ['\n'] := by
  induction text with
  | nil => rfl
  | cons c rest inductionHypothesis =>
    by_cases feed : c = '\n'
    · subst feed
      rw [splitOnChar, if_pos rfl, linesText, List.flatMap_cons]
      rw [linesText] at inductionHypothesis
      simp [inductionHypothesis]
    · rw [splitOnChar, if_neg feed]
      cases parts : splitOnChar '\n' rest with
      | nil => simp [parts, linesText] at inductionHypothesis
      | cons first others =>
        rw [parts, linesText, List.flatMap_cons] at inductionHypothesis
        simp only [linesText, List.flatMap_cons, List.cons_append, inductionHypothesis]

/-! ## Blanks and attribute lines at the end -/

/-- The blanks at the end of a text do not matter for what is left without attribute lines. -/
theorem dropAttributeLines_append_blanks {blanks : List Char} (all : allBlank blanks = true)
    (text : List Char) : dropAttributeLines (text ++ blanks) = dropAttributeLines text := by
  rw [dropAttributeLines, trimEnd_append_blanks all]
  conv => rhs; rw [dropAttributeLines]

/-- The last line of some lines is the text after them. -/
theorem cutLastLine_linesText {line : List Char} (oneLine : '\n' ∉ line)
    (lines : List (List Char)) :
    cutLastLine (linesText lines ++ line) = (linesText lines, line) := by
  have inside : line.reverse.all (· != '\n') = true := by
    rw [List.all_reverse, List.all_eq_true]
    intro c member
    rw [bne_iff_ne]
    rintro rfl
    exact oneLine member
  have head : ∀ c ∈ (linesText lines).reverse.head?, (c != '\n') = false := by
    intro c head
    rw [List.head?_reverse] at head
    induction lines using List.reverseRecOn with
    | nil => simp [linesText] at head
    | append_singleton lines last _ =>
      obtain rfl : '\n' = c := by simpa [linesText] using head
      simp
  rw [cutLastLine, List.reverse_append, dropWhile_append_of_all inside, dropWhile_of_head head,
    Text.takeWhile_append_of_head inside head, List.reverse_reverse, List.reverse_reverse]

/-- The text of some lines and some more behind them. -/
theorem linesText_append (lines others : List (List Char)) :
    linesText (lines ++ others) = linesText lines ++ linesText others :=
  List.flatMap_append

/-- Lines with one more behind them. -/
theorem linesText_concat (lines : List (List Char)) (line : List Char) :
    linesText (lines ++ [line]) = linesText lines ++ line ++ ['\n'] := by
  simp [linesText]

/-- Each text ends with the last of its lines. -/
theorem exists_lastLine (text : List Char) :
    ∃ parts last, splitOnChar '\n' text = parts ++ [last] ∧ text = linesText parts ++ last ∧
      '\n' ∉ last := by
  have nothing : '\n' ∉ [] := List.not_mem_nil
  obtain ⟨parts, last, split, -⟩ := splitOnChar_append_back nothing text
  have member : last ∈ splitOnChar '\n' text := by
    rw [split]
    exact List.mem_append_right _ List.mem_cons_self
  refine ⟨parts, last, split, ?_, not_mem_of_mem_splitOnChar member⟩
  have whole := linesText_splitOnChar text
  rw [split, linesText_concat] at whole
  exact (List.append_cancel_right whole).symm

/-- Skipping stops at a line that is neither blank nor an attribute line. -/
theorem dropAttributeLines_stop {line blanks : List Char} (oneLine : '\n' ∉ line)
    (last : ∃ c ∈ line.getLast?, isBlank c = false) (noGroup : isAttributeLine line = false)
    (all : allBlank blanks = true) (lines : List (List Char)) :
    dropAttributeLines (linesText lines ++ line ++ blanks) = linesText lines ++ line := by
  have kept : ∀ c ∈ (linesText lines ++ line).getLast?, isBlank c = false := by
    obtain ⟨c, isLast, noBlank⟩ := last
    intro d found
    rw [List.getLast?_append, Option.mem_def.mp isLast] at found
    obtain rfl : c = d := by simpa using found
    exact noBlank
  rw [dropAttributeLines, trimEnd_append_blanks all, trimEnd_of_getLast kept,
    cutLastLine_linesText oneLine]
  simp [noGroup]

/-- Blanks are no attribute line. -/
theorem isAttributeLine_of_blank {line : List Char} (blank : allBlank line = true) :
    isAttributeLine line = false := by
  rw [isAttributeLine, (Text.trimStart_eq_nil_iff line).mpr blank]
  rfl

/-- Whether a line is an attribute line does not depend on the text at its end, unless the
text is an attribute group itself or the second half of its mark. -/
theorem isAttributeLine_append {line back : List Char} (noBracket : back.head? ≠ some '[')
    (noGroup : isAttributeLine back = false) :
    isAttributeLine (line ++ back) = isAttributeLine line := by
  by_cases nothing : trimStart line = []
  · have blank := (Text.trimStart_eq_nil_iff line).mp nothing
    have trimmed : trimStart (line ++ back) = trimStart back := dropWhile_append_of_all blank back
    rw [isAttributeLine_of_blank blank, isAttributeLine, trimmed, ← isAttributeLine, noGroup]
  · rw [isAttributeLine, isAttributeLine, trimStart_append nothing]
    rcases trimmed : trimStart line with _ | ⟨c, _ | ⟨d, rest⟩⟩
    · exact absurd trimmed nothing
    · cases back with
      | nil => rfl
      | cons b back =>
        have other : '[' ≠ b := by
          rintro rfl
          exact noBracket rfl
        simp [List.isPrefixOf, other]
    · simp [List.isPrefixOf]

/-- The blanks at the end of a line do not matter for whether it is an attribute line. -/
theorem isAttributeLine_trimEnd (line : List Char) :
    isAttributeLine (trimEnd line) = isAttributeLine line := by
  obtain ⟨blanks, all, split, -⟩ := exists_trimEnd line
  have noBracket : blanks.head? ≠ some '[' := by
    intro head
    have blank := List.all_eq_true.mp all '[' (List.mem_of_head? head)
    exact absurd blank (by decide)
  conv => rhs; rw [split]
  exact (isAttributeLine_append noBracket (isAttributeLine_of_blank all)).symm

/-- A line is skipped when it is blank or an attribute line. -/
theorem dropAttributeLines_skip {line : List Char} (oneLine : '\n' ∉ line)
    (skipped : allBlank line = true ∨ isAttributeLine line = true) (lines : List (List Char)) :
    dropAttributeLines (linesText (lines ++ [line])) = dropAttributeLines (linesText lines) := by
  have feed : allBlank ['\n'] = true := by decide
  rw [linesText_concat]
  by_cases blank : allBlank line = true
  · rw [dropAttributeLines_append_blanks feed, dropAttributeLines_append_blanks blank]
  · have group : isAttributeLine line = true := skipped.resolve_left blank
    obtain ⟨blanks, all, split, last⟩ := exists_trimEnd line
    have keptLine : '\n' ∉ trimEnd line := by
      intro member
      refine oneLine ?_
      rw [split]
      exact List.mem_append_left _ member
    have present : trimEnd line ≠ [] := by
      intro nothing
      rw [nothing, List.nil_append] at split
      exact blank (split ▸ all)
    have kept : ∀ c ∈ (linesText lines ++ trimEnd line).getLast?, isBlank c = false := by
      intro c found
      rw [List.getLast?_append_of_ne_nil _ present] at found
      exact last c found
    have trimmed : trimEnd (linesText lines ++ line ++ ['\n']) =
        linesText lines ++ trimEnd line := by
      rw [trimEnd_append_blanks feed]
      conv => lhs; rw [split, ← List.append_assoc]
      rw [trimEnd_append_blanks all, trimEnd_of_getLast kept]
    rw [dropAttributeLines, trimmed, cutLastLine_linesText keptLine, isAttributeLine_trimEnd,
      dif_pos group]

/-- The text of a skipped line is one line, blank or with an attribute group. -/
theorem SkippedLine.text_spec (line : SkippedLine) : '\n' ∉ line.text ∧
    (allBlank line.text = true ∨ isAttributeLine line.text = true) := by
  cases line with
  | blank text all oneLine => exact ⟨oneLine, .inl all⟩
  | group indent rest blank oneLine =>
    rw [List.mem_append, not_or] at oneLine
    have noBlank : isBlank '#' = false := by decide
    refine ⟨by simp [SkippedLine.text, oneLine.1, oneLine.2], .inr ?_⟩
    rw [SkippedLine.text, isAttributeLine, trimStart, dropWhile_append_of_all blank]
    simp [noBlank]

/-- Skipped lines at the end of some lines do not matter. -/
theorem dropAttributeLines_skipped (lines : List (List Char)) (skipped : List SkippedLine) :
    dropAttributeLines (linesText (lines ++ skipped.map SkippedLine.text)) =
      dropAttributeLines (linesText lines) := by
  induction skipped using List.reverseRecOn with
  | nil => rw [List.map_nil, List.append_nil]
  | append_singleton skipped line inductionHypothesis =>
    obtain ⟨oneLine, isSkipped⟩ := line.text_spec
    rw [List.map_append, List.map_singleton, ← List.append_assoc,
      dropAttributeLines_skip oneLine isSkipped, inductionHypothesis]

/-! ## The comment at the end -/

/-- What does not come up in a text has no last occurrence in it. -/
theorem cutAtLast_of_not_occurs {part text : List Char} (absent : occurs part text = false) :
    cutAtLast part text = none := by
  induction text with
  | nil => simpa [cutAtLast, occurs] using absent
  | cons c rest inductionHypothesis =>
    rw [occurs, Bool.or_eq_false_iff] at absent
    rw [cutAtLast, inductionHypothesis absent.2]
    simp [absent.1]

/-- Text in front of the last occurrence stays in front of it. -/
theorem cutAtLast_append {part text before after : List Char}
    (found : cutAtLast part text = some (before, after)) (front : List Char) :
    cutAtLast part (front ++ text) = some (front ++ before, after) := by
  induction front with
  | nil => exact found
  | cons c front inductionHypothesis =>
    rw [List.cons_append, cutAtLast, inductionHypothesis, List.cons_append]

/-- The last opening mark is the one behind which none comes up. -/
theorem cutAtLast_opening {rest : List Char} (last : occurs ['/', '*', '*'] rest = false)
    (front : List Char) :
    cutAtLast ['/', '*', '*'] (front ++ '/' :: '*' :: '*' :: rest) =
      some (front, '/' :: '*' :: '*' :: rest) := by
  have absent : occurs ['/', '*', '*'] ('*' :: '*' :: rest) = false := by
    simp [occurs, List.isPrefixOf, last]
  have own : cutAtLast ['/', '*', '*'] ('/' :: '*' :: '*' :: rest) =
      some ([], '/' :: '*' :: '*' :: rest) := by
    rw [cutAtLast, cutAtLast_of_not_occurs absent]
    simp [List.isPrefixOf]
  rw [cutAtLast_append own, List.append_nil]

/-- What is cut off at the last occurrence of a part starts with the part. -/
theorem cutAtLast_eq_some {part text before after : List Char}
    (cut : cutAtLast part text = some (before, after)) :
    text = before ++ after ∧ part <+: after := by
  induction text generalizing before with
  | nil =>
    rw [cutAtLast] at cut
    split at cut
    · rename_i empty
      obtain ⟨rfl, rfl⟩ := Prod.mk.inj (Option.some.inj cut)
      rw [List.isEmpty_iff.mp empty]
      exact ⟨rfl, List.prefix_rfl⟩
    · contradiction
  | cons c text inductionHypothesis =>
    rw [cutAtLast] at cut
    split at cut
    · rename_i further back found
      obtain ⟨rfl, rfl⟩ := Prod.mk.inj (Option.some.inj cut)
      obtain ⟨whole, starts⟩ := inductionHypothesis found
      exact ⟨by rw [whole, List.cons_append], starts⟩
    · split at cut
      · rename_i starts
        obtain ⟨rfl, rfl⟩ := Prod.mk.inj (Option.some.inj cut)
        exact ⟨rfl, List.isPrefixOf_iff_prefix.mp starts⟩
      · contradiction

/-- Whether a text that begins with the opening mark is a block and no more: it is long enough
for both marks, and the end mark does not come up inside. -/
def isBlock (block : List Char) : Bool :=
  !(block.length < 5 || occurs ['*', '/'] ((block.drop 3).dropLast.dropLast))

/-- Text between the two marks makes a block if the end mark does not come up in it. -/
theorem isBlock_marked (inside : List Char) :
    isBlock ('/' :: '*' :: '*' :: (inside ++ ['*', '/'])) = !occurs ['*', '/'] inside := by
  have long : ¬(inside.length + 2 + 1 + 1 + 1 < 5) := by omega
  simp [isBlock, long]

/-- Behind an opening mark, a text that ends with an end mark does so with the end mark, or
with a slash that makes an end mark of the opening mark. -/
theorem closed_cases {before rest : List Char}
    (closed : ['*', '/'] <:+ before ++ '/' :: '*' :: '*' :: rest) :
    rest = ['/'] ∨ ∃ inside, rest = inside ++ ['*', '/'] := by
  have behind : rest <:+ before ++ '/' :: '*' :: '*' :: rest := ⟨before ++ ['/', '*', '*'], by simp⟩
  rcases List.suffix_or_suffix_of_suffix closed behind with short | long
  · obtain ⟨inside, split⟩ := short
    exact .inr ⟨inside, split.symm⟩
  · rw [List.suffix_cons_iff, List.suffix_cons_iff, List.suffix_nil] at long
    rcases long with rfl | rfl | rfl
    · exact .inr ⟨[], rfl⟩
    · exact .inl rfl
    · -- The opening mark does not end like the end mark.
      have marked : ['*', '/'] <:+ ['*', '*'] :=
        List.suffix_of_suffix_length_le closed ⟨before ++ ['/'], by simp⟩ (by simp)
      exact absurd marked (by decide)

/-- The documentation block is what the last opening mark starts, if it reaches to the end and
is a block. -/
theorem docComment?_eq (before : List Char) :
    docComment? before =
      if ['*', '/'].isSuffixOf (dropAttributeLines before) then
        ((cutAtLast ['/', '*', '*'] (dropAttributeLines before)).map Prod.snd).filter isBlock
      else none := by
  rw [docComment?]
  cases ['*', '/'].isSuffixOf (dropAttributeLines before) with
  | false => rfl
  | true =>
    cases cutAtLast ['/', '*', '*'] (dropAttributeLines before) with
    | none => rfl
    | some parts =>
      have refused : (decide (parts.2.length < 5) ||
          occurs ['*', '/'] (parts.2.drop 3).dropLast.dropLast) = !isBlock parts.2 :=
        (Bool.not_not _).symm
      simp only [Option.map_some, Option.filter, refused]
      cases isBlock parts.2 <;> rfl

/-- A comment with stars is passed over only when it stands in one line, behind an attribute
group. -/
theorem dropAttributeLines_comment {inside : List Char}
    (starred : (splitOnChar '\n' (inside ++ ['*', '/'])).tail.all isStarred = true)
    (front : List Char) :
    dropAttributeLines (front ++ '/' :: '*' :: '*' :: (inside ++ ['*', '/'])) =
      if '\n' ∉ inside ∧ isAttributeLine (cutLastLine front).2 = true then
        dropAttributeLines (cutLastLine front).1
      else front ++ '/' :: '*' :: '*' :: (inside ++ ['*', '/']) := by
  have trimmed : trimEnd (front ++ '/' :: '*' :: '*' :: (inside ++ ['*', '/'])) =
      front ++ '/' :: '*' :: '*' :: (inside ++ ['*', '/']) := by
    apply trimEnd_of_getLast
    intro c last
    have shape : front ++ '/' :: '*' :: '*' :: (inside ++ ['*', '/']) =
        front ++ '/' :: '*' :: '*' :: (inside ++ ['*']) ++ ['/'] := by simp
    rw [shape, List.getLast?_concat] at last
    obtain rfl : '/' = c := by simpa using last
    decide
  obtain ⟨lines, line, -, frontText, oneLine⟩ := exists_lastLine front
  obtain ⟨parts, part, split, text, onePart⟩ := exists_lastLine (inside ++ ['*', '/'])
  have cut := cutLastLine_linesText oneLine lines
  rw [← frontText] at cut
  rw [dropAttributeLines, trimmed, cut, text]
  cases parts with
  | nil =>
    -- The comment is part of the line in front of it, which it does not turn into a group.
    have flat : '\n' ∉ inside := by
      intro member
      apply onePart
      rw [linesText, List.flatMap_nil, List.nil_append] at text
      rw [← text]
      exact List.mem_append_left _ member
    have noLine : '\n' ∉ line ++ '/' :: '*' :: '*' :: part := by
      simp [oneLine, onePart]
    have last : cutLastLine (front ++ '/' :: '*' :: '*' :: (linesText [] ++ part)) =
        (linesText lines, line ++ '/' :: '*' :: '*' :: part) := by
      rw [frontText, List.append_assoc]
      exact cutLastLine_linesText noLine lines
    have group : isAttributeLine (line ++ '/' :: '*' :: '*' :: part) = isAttributeLine line :=
      isAttributeLine_append (by simp) rfl
    simp only [last, group, flat, not_false_eq_true, true_and, dite_eq_ite]
  | cons first others =>
    -- The last line of the comment is a line of its own, and starts with a star.
    have broken : '\n' ∈ inside := by
      have member : '\n' ∈ inside ++ ['*', '/'] := by
        rw [text]
        simp [linesText]
      simpa using member
    have last : cutLastLine (front ++ '/' :: '*' :: '*' :: (linesText (first :: others) ++ part)) =
        (linesText (lines ++ (line ++ '/' :: '*' :: '*' :: first) :: others), part) := by
      rw [← cutLastLine_linesText onePart, frontText]
      simp [linesText]
    have noGroup : isAttributeLine part = false := by
      rw [split, List.cons_append, List.tail_cons, List.all_append, Bool.and_eq_true] at starred
      have star : (trimStart part).head? = some '*' := by simpa [isStarred] using starred.2
      obtain ⟨rest, trimmed⟩ := List.head?_eq_some_iff.mp star
      rw [isAttributeLine, trimmed]
      rfl
    simp [last, noGroup, broken]

namespace DocBlock

variable (doc : DocBlock)

/-- Each line of the block starts with a slash or a star. -/
theorem starts_of_mem {part : List Char}
    (member : part ∈ splitOnChar '\n' (doc.indent ++ doc.block)) :
    (trimStart part).head? = some '/' ∨ (trimStart part).head? = some '*' := by
  have lacks : '\n' ∉ doc.indent ++ ['/', '*', '*'] := by
    simp [doc.indentLine]
  obtain ⟨first, others, split, whole⟩ := splitOnChar_append lacks (doc.inside ++ ['*', '/'])
  have text : doc.indent ++ doc.block =
      doc.indent ++ ['/', '*', '*'] ++ (doc.inside ++ ['*', '/']) := by
    simp [block]
  rw [text, whole, List.mem_cons] at member
  rcases member with rfl | member
  · have noBlank : isBlank '/' = false := by decide
    rw [List.append_assoc, trimStart, dropWhile_append_of_all doc.indentBlank]
    simp [noBlank]
  · have starred := doc.starred
    rw [split, List.tail_cons, List.all_eq_true] at starred
    exact .inr (by simpa [isStarred] using starred part member)

/-- Skipping over blanks and attribute lines leads back to the end of the block. -/
theorem dropAttributeLines_block (lines : List (List Char)) :
    dropAttributeLines (linesText (lines ++ doc.lines)) =
      linesText lines ++ doc.indent ++ doc.block := by
  have text : linesText (lines ++ doc.lines) =
      linesText lines ++ doc.indent ++ doc.block ++ (doc.trail ++ ['\n']) := by
    have own := linesText_splitOnChar (doc.indent ++ doc.block ++ doc.trail)
    rw [← DocBlock.lines] at own
    simp [linesText_append, own]
  have blanks : allBlank (doc.trail ++ ['\n']) = true := by
    have feed : isBlank '\n' = true := by decide
    have trail := doc.trailBlank
    rw [allBlank] at trail
    simp [allBlank, trail, feed]
  have noGroup : isAttributeLine (cutLastLine (linesText lines ++ doc.indent)).2 = false := by
    rw [cutLastLine_linesText doc.indentLine]
    exact isAttributeLine_of_blank doc.indentBlank
  have kept := dropAttributeLines_comment doc.starred (linesText lines ++ doc.indent)
  rw [noGroup, if_neg (by simp), ← block] at kept
  rw [text, dropAttributeLines_append_blanks blanks, kept]

/-- The comment before a class is the documentation block on the lines before it. -/
theorem docComment?_block (lines : List (List Char)) (skipped : List SkippedLine) :
    docComment? (linesText (lines ++ doc.lines ++ skipped.map SkippedLine.text)) =
      some doc.block := by
  have ending : ['*', '/'].isSuffixOf (linesText lines ++ doc.indent ++ doc.block) = true := by
    rw [List.isSuffixOf_iff_suffix]
    exact ⟨linesText lines ++ doc.indent ++ '/' :: '*' :: '*' :: doc.inside, by simp [block]⟩
  have cut := cutAtLast_opening doc.noOpening (linesText lines ++ doc.indent)
  rw [← block] at cut
  have whole : isBlock doc.block = true := by
    rw [block, isBlock_marked, doc.noEnd]
    rfl
  rw [docComment?_eq, dropAttributeLines_skipped, doc.dropAttributeLines_block, ending,
    if_pos rfl, cut, Option.map_some, Option.filter_some, if_pos whole]

/-- The lines of the block read as nothing. -/
theorem bare_of_mem {line : List Char} (member : line ∈ doc.lines) : Bare line := by
  obtain ⟨parts, part, split, whole⟩ :=
    splitOnChar_append_back doc.trailLine (doc.indent ++ doc.block)
  have starts : (trimStart line).head? = some '/' ∨ (trimStart line).head? = some '*' := by
    rw [lines, whole, List.mem_append, List.mem_singleton] at member
    rcases member with member | rfl
    · refine doc.starts_of_mem ?_
      rw [split]
      exact List.mem_append_left _ member
    · have listed : part ∈ splitOnChar '\n' (doc.indent ++ doc.block) := by
        rw [split]
        simp
      have last := doc.starts_of_mem listed
      have present : trimStart part ≠ [] := by
        intro nothing
        simp [nothing] at last
      rw [trimStart_append present, List.head?_append_of_ne_nil _ present]
      exact last
  apply bare_of_trimStart
  intro c head
  rw [Option.mem_def] at head
  rw [head, Option.some.injEq, Option.some.injEq] at starts
  rcases starts with rfl | rfl <;> decide

end DocBlock

/-- Skipped lines read as nothing. -/
theorem SkippedLine.bare_text (line : SkippedLine) : Bare line.text := by
  cases line with
  | blank text all oneLine =>
    apply bare_of_trimStart
    intro c head
    rw [SkippedLine.text, (Text.trimStart_eq_nil_iff text).mpr all] at head
    simp at head
  | group indent rest blank oneLine => exact bare_of_mark blank (by decide) (by decide) _

/-- The end mark of a comment belongs to a line that is not empty when it ends the text. -/
theorem isSuffixOf_linesText {line : List Char} (present : line ≠ [])
    (lines : List (List Char)) :
    ['*', '/'].isSuffixOf (linesText lines ++ line) = ['*', '/'].isSuffixOf line := by
  rw [Bool.eq_iff_iff, List.isSuffixOf_iff_suffix, List.isSuffixOf_iff_suffix]
  constructor
  · rintro ⟨front, split⟩
    rw [List.append_eq_append_iff] at split
    rcases split with ⟨beyond, textSplit, markSplit⟩ | ⟨rest, -, lineSplit⟩
    · rcases beyond with _ | ⟨c, _ | ⟨d, beyond⟩⟩
      · exact ⟨[], markSplit⟩
      · -- A line feed, and no star, stands before the line.
        rw [List.cons_append, List.cons.injEq] at markSplit
        obtain ⟨rfl, -⟩ := markSplit
        cases lines using List.reverseRecOn with
        | nil => simp [linesText] at textSplit
        | append_singleton lines last =>
          rw [linesText_concat] at textSplit
          exact absurd (List.append_inj_right' textSplit rfl) (by decide)
      · have lengths := congrArg List.length markSplit
        have positive := List.length_pos_iff.mpr present
        simp only [List.length_cons, List.length_append, List.length_nil] at lengths
        omega
    · exact ⟨rest, lineSplit.symm⟩
  · intro ends
    exact ends.trans (List.suffix_append _ _)

/-- The last line counts unless it is blank or an attribute line. -/
theorem lastLine?_concat (lines : List (List Char)) (line : List Char) :
    lastLine? (lines ++ [line]) =
      if allBlank line || isAttributeLine line then lastLine? lines else some line := by
  rw [lastLine?, List.filter_append]
  cases skipped : allBlank line || isAttributeLine line with
  | true =>
    have dropped : [line].filter (fun line => !(allBlank line || isAttributeLine line)) = [] := by
      rw [List.filter_cons, skipped]
      rfl
    rw [dropped, List.append_nil, if_pos rfl, lastLine?]
  | false =>
    have kept : [line].filter (fun line => !(allBlank line || isAttributeLine line)) = [line] := by
      rw [List.filter_cons, skipped]
      rfl
    rw [kept, List.getLast?_concat, if_neg Bool.false_ne_true]

/-- What remains before a class without blanks and attribute lines ends with the end mark of
a comment exactly when a comment ends there. -/
theorem isSuffixOf_dropAttributeLines {lines : List (List Char)}
    (oneLine : ∀ line ∈ lines, '\n' ∉ line) :
    ['*', '/'].isSuffixOf (dropAttributeLines (linesText lines)) = endsInComment lines := by
  induction lines using List.reverseRecOn with
  | nil =>
    have nothing : dropAttributeLines [] = [] := by
      simp [dropAttributeLines, trimEnd, cutLastLine, isAttributeLine, trimStart]
    simp [linesText, nothing, endsInComment, lastLine?]
  | append_singleton lines line inductionHypothesis =>
    have others := inductionHypothesis fun other member =>
      oneLine other (List.mem_append_left _ member)
    have own : '\n' ∉ line := oneLine line (by simp)
    cases skipped : allBlank line || isAttributeLine line with
    | true =>
      rw [dropAttributeLines_skip own (by simpa using skipped), others, endsInComment,
        endsInComment, lastLine?_concat, skipped, if_pos rfl]
    | false =>
      rw [Bool.or_eq_false_iff] at skipped
      obtain ⟨noBlank, noGroup⟩ := skipped
      obtain ⟨blanks, all, split, last⟩ := exists_trimEnd line
      have present : trimEnd line ≠ [] := by
        intro nothing
        rw [nothing, List.nil_append] at split
        rw [split, all] at noBlank
        exact absurd noBlank (by decide)
      have keptLine : '\n' ∉ trimEnd line := by
        intro member
        refine own ?_
        rw [split]
        exact List.mem_append_left _ member
      have keptLast : ∃ c ∈ (trimEnd line).getLast?, isBlank c = false :=
        ⟨_, List.getLast?_eq_some_getLast present, last _ (List.getLast?_eq_some_getLast present)⟩
      have trail : allBlank (blanks ++ ['\n']) = true := by
        have feed : isBlank '\n' = true := by decide
        rw [allBlank] at all
        simp [allBlank, all, feed]
      have text : linesText (lines ++ [line]) =
          linesText lines ++ trimEnd line ++ (blanks ++ ['\n']) := by
        rw [linesText_concat]
        conv => lhs; rw [split]
        simp only [List.append_assoc]
      rw [text, dropAttributeLines_stop keptLine keptLast
        (by rw [isAttributeLine_trimEnd, noGroup]) trail, isSuffixOf_linesText present,
        endsInComment, lastLine?_concat, noBlank, noGroup]
      rfl

/-- There is no comment before a class when none ends there. -/
theorem docComment?_of_not_endsInComment {lines : List (List Char)}
    (oneLine : ∀ line ∈ lines, '\n' ∉ line) (silent : endsInComment lines = false)
    (skipped : List SkippedLine) :
    docComment? (linesText (lines ++ skipped.map SkippedLine.text)) = none := by
  have unmarked := isSuffixOf_dropAttributeLines oneLine
  rw [silent] at unmarked
  rw [docComment?_eq, dropAttributeLines_skipped, unmarked, if_neg Bool.false_ne_true]

end ServiceWiring.Source
