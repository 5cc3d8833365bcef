import ServiceWiring.Proofs.Text.Lines
import ServiceWiring.Proofs.Text.Spans

/-!
# Texts with other line ends

A text can be rewritten so that its lines end in a carriage return and a line feed. What the
basic cuts make of the rewritten text is what they make of the text, rewritten. This holds
where both characters are treated alike: where both are blank, or where neither belongs to
what is looked for. The lines of both texts are the same, as long as the text has no carriage
returns of its own.

Seen from its end a rewritten text has the two characters in the other order. Therefore most
lemmas speak of any line ending.
-/

namespace ServiceWiring.Text

/-- A text with another ending in place of each line feed. -/
def endLines (ending text : List Char) : List Char :=
  text.flatMap fun c => if c = '\n' then ending else [c]

/-- A text with a carriage return before each line feed. -/
def crlf (text : List Char) : List Char := endLines ['\r', '\n'] text

/-- The lines of a text that is put together end as those of its parts. -/
theorem endLines_append (ending front back : List Char) :
    endLines ending (front ++ back) = endLines ending front ++ endLines ending back :=
  List.flatMap_append

/-- A line feed becomes the ending. -/
theorem endLines_feed (ending text : List Char) :
    endLines ending ('\n' :: text) = ending ++ endLines ending text := rfl

/-- Any other character stays. -/
theorem endLines_cons {c : Char} (other : c ≠ '\n') (ending text : List Char) :
    endLines ending (c :: text) = c :: endLines ending text := by
  simp [endLines, other]

/-- A text without line feeds stays as it is. -/
theorem endLines_of_oneLine {line : List Char} (oneLine : '\n' ∉ line) (ending : List Char) :
    endLines ending line = line := by
  induction line with
  | nil => rfl
  | cons c line inductionHypothesis =>
    rw [List.mem_cons, not_or] at oneLine
    rw [endLines_cons (Ne.symm oneLine.1), inductionHypothesis oneLine.2]

/-- Read backwards, a text ends its lines the other way round. -/
theorem reverse_endLines (ending text : List Char) :
    (endLines ending text).reverse = endLines ending.reverse text.reverse := by
  rw [endLines, endLines, List.reverse_flatMap]
  congr 1
  funext c
  by_cases feed : c = '\n' <;> simp [feed]

/-- A line feed has a carriage return before it afterwards. -/
theorem crlf_feed (text : List Char) : crlf ('\n' :: text) = '\r' :: '\n' :: crlf text := rfl

/-- Any other character stays as it is. -/
theorem crlf_cons {c : Char} (other : c ≠ '\n') (text : List Char) :
    crlf (c :: text) = c :: crlf text := endLines_cons other _ text

/-- Seen from its end, a rewritten text has its line feeds first. -/
theorem reverse_crlf (text : List Char) :
    (crlf text).reverse = endLines ['\n', '\r'] text.reverse := reverse_endLines _ text

section Scans

variable {kind : Char → Bool} {part : List Char} {first : Char} {others : List Char}

/-- Characters of a kind that has nothing to do with line ends are taken alike. -/
theorem takeWhile_endLines (feed : kind '\n' = false) (apart : kind first = false)
    (text : List Char) :
    (endLines (first :: others) text).takeWhile kind = text.takeWhile kind := by
  induction text with
  | nil => rfl
  | cons c text inductionHypothesis =>
    by_cases isFeed : c = '\n'
    · simp [isFeed, endLines_feed, feed, apart]
    · rw [endLines_cons isFeed, List.takeWhile_cons, List.takeWhile_cons, inductionHypothesis]

/-- What follows the characters of such a kind is rewritten. -/
theorem dropWhile_endLines (feed : kind '\n' = false) (apart : kind first = false)
    (text : List Char) :
    (endLines (first :: others) text).dropWhile kind =
      endLines (first :: others) (text.dropWhile kind) := by
  induction text with
  | nil => rfl
  | cons c text inductionHypothesis =>
    by_cases isFeed : c = '\n'
    · simp [isFeed, endLines_feed, feed, apart]
    · rw [endLines_cons isFeed, List.dropWhile_cons, List.dropWhile_cons, inductionHypothesis]
      split
      · rfl
      · rw [endLines_cons isFeed]

/-- A part that has nothing to do with line ends is taken off alike. -/
theorem stripPrefix?_endLines (feed : '\n' ∉ part) (apart : first ∉ part) (text : List Char) :
    stripPrefix? part (endLines (first :: others) text) =
      (stripPrefix? part text).map (endLines (first :: others)) := by
  induction part generalizing text with
  | nil => rfl
  | cons p part inductionHypothesis =>
    rw [List.mem_cons, not_or] at feed apart
    cases text with
    | nil => rfl
    | cons c text =>
      by_cases isFeed : c = '\n'
      · simp [isFeed, endLines_feed, stripPrefix?, Ne.symm feed.1, Ne.symm apart.1]
      · rw [endLines_cons isFeed, stripPrefix?, stripPrefix?,
          inductionHypothesis feed.2 apart.2]
        split <;> rfl

/-- Only the empty part stands before a character that it lacks. -/
theorem isPrefixOf_cons_of_lacks {c : Char} (lacks : c ∉ part) (text : List Char) :
    part.isPrefixOf (c :: text) = part.isEmpty := by
  cases part with
  | nil => rfl
  | cons p part =>
    have different : (p == c) = false := by
      rw [beq_eq_false_iff_ne]
      rintro rfl
      exact lacks List.mem_cons_self
    simp [List.isPrefixOf, different]

/-- Whether such a part stands at the beginning is not changed. -/
theorem isPrefixOf_endLines (feed : '\n' ∉ part) (apart : first ∉ part) (text : List Char) :
    part.isPrefixOf (endLines (first :: others) text) = part.isPrefixOf text := by
  induction text generalizing part with
  | nil => rfl
  | cons c text inductionHypothesis =>
    by_cases isFeed : c = '\n'
    · subst isFeed
      rw [endLines_feed, List.cons_append, isPrefixOf_cons_of_lacks apart,
        isPrefixOf_cons_of_lacks feed]
    · rw [endLines_cons isFeed]
      cases part with
      | nil => rfl
      | cons p part =>
        rw [List.mem_cons, not_or] at feed apart
        rw [List.isPrefixOf, List.isPrefixOf, inductionHypothesis feed.2 apart.2]

/-- Blanks at the beginning are left out, line ends with them. -/
theorem trimStart_endLines {ending : List Char} (blank : allBlank ending = true)
    (text : List Char) : trimStart (endLines ending text) = endLines ending (trimStart text) := by
  induction text with
  | nil => rfl
  | cons c text inductionHypothesis =>
    by_cases isFeed : c = '\n'
    · subst isFeed
      rw [endLines_feed, trimStart, dropWhile_append_of_all blank, ← trimStart,
        inductionHypothesis]
      rfl
    · rw [endLines_cons isFeed, trimStart, trimStart, List.dropWhile_cons, List.dropWhile_cons]
      split
      · exact inductionHypothesis
      · rw [endLines_cons isFeed]

end Scans

/-- Blanks at the beginning of a rewritten text are left out, carriage returns with them. -/
theorem trimStart_crlf (text : List Char) : trimStart (crlf text) = crlf (trimStart text) :=
  trimStart_endLines rfl text

/-- Blanks at its end are left out as well, which is seen from there. -/
theorem trimEnd_crlf (text : List Char) : trimEnd (crlf text) = crlf (trimEnd text) := by
  have back : trimStart (endLines ['\n', '\r'] text.reverse) =
      endLines ['\n', '\r'] (trimStart text.reverse) := trimStart_endLines rfl _
  rw [trimEnd, reverse_crlf, ← trimStart, back, reverse_endLines]
  rfl

/-- So are those at both ends. -/
theorem trim_crlf (text : List Char) : trim (crlf text) = crlf (trim text) := by
  rw [trim, trimStart_crlf, trimEnd_crlf, trim]

/-- A part at the end that has nothing to do with line ends is taken off alike. -/
theorem stripSuffix?_crlf {part : List Char} (feed : '\n' ∉ part) (text : List Char) :
    stripSuffix? part (crlf text) = (stripSuffix? part text).map crlf := by
  have backFeed : '\n' ∉ part.reverse := by simpa using feed
  rw [stripSuffix?, reverse_crlf, stripPrefix?_endLines backFeed backFeed, stripSuffix?,
    Option.map_map, Option.map_map]
  congr 1
  funext rest
  exact reverse_endLines _ rest

/-- Whether such a part stands at the end is not changed. -/
theorem isSuffixOf_crlf {part : List Char} (feed : '\n' ∉ part) (text : List Char) :
    part.isSuffixOf (crlf text) = part.isSuffixOf text := by
  have backFeed : '\n' ∉ part.reverse := by simpa using feed
  rw [List.isSuffixOf, List.isSuffixOf, reverse_crlf, isPrefixOf_endLines backFeed backFeed]

section Parts

variable {part : List Char} (feed : '\n' ∉ part) (apart : '\r' ∉ part)
include feed apart

/-- A part that has nothing to do with line ends occurs in both texts or in neither. -/
theorem occurs_crlf (text : List Char) : occurs part (crlf text) = occurs part text := by
  induction text with
  | nil => rfl
  | cons c text inductionHypothesis =>
    by_cases isFeed : c = '\n'
    · subst isFeed
      rw [crlf_feed, occurs, occurs, occurs, inductionHypothesis, isPrefixOf_cons_of_lacks apart,
        isPrefixOf_cons_of_lacks feed, isPrefixOf_cons_of_lacks feed, ← Bool.or_assoc,
        Bool.or_self]
    · have starts : part.isPrefixOf (crlf (c :: text)) = part.isPrefixOf (c :: text) :=
        isPrefixOf_endLines feed apart _
      rw [crlf_cons isFeed] at starts ⊢
      rw [occurs, occurs, inductionHypothesis, starts]

/-- The text is cut at the last occurrence of such a part. -/
theorem cutAtLast_crlf (present : part ≠ []) (text : List Char) :
    cutAtLast part (crlf text) =
      (cutAtLast part text).map fun (before, after) => (crlf before, crlf after) := by
  have nonempty : part.isEmpty = false := by simpa using present
  induction text with
  | nil => simp [crlf, endLines, cutAtLast, present]
  | cons c text inductionHypothesis =>
    by_cases isFeed : c = '\n'
    · subst isFeed
      rw [crlf_feed, cutAtLast, cutAtLast, inductionHypothesis, cutAtLast]
      cases cutAtLast part text with
      | none => simp [isPrefixOf_cons_of_lacks apart, isPrefixOf_cons_of_lacks feed, present]
      | some parts => rfl
    · have starts : part.isPrefixOf (crlf (c :: text)) = part.isPrefixOf (c :: text) :=
        isPrefixOf_endLines feed apart _
      rw [crlf_cons isFeed] at starts ⊢
      rw [cutAtLast, cutAtLast, inductionHypothesis]
      cases cutAtLast part text with
      | none =>
        simp only [Option.map_none, starts]
        split
        · rw [← crlf_cons isFeed]
          rfl
        · rfl
      | some parts => simp only [Option.map_some, crlf_cons isFeed]

end Parts

/-- A text is a line that does not end, or a line that ends and a text behind it. -/
theorem text_induction {motive : List Char → Prop}
    (last : ∀ line, '\n' ∉ line → motive line)
    (ended : ∀ line rest, '\n' ∉ line → motive rest → motive (line ++ '\n' :: rest))
    (text : List Char) : motive text := by
  suffices general : ∀ front, '\n' ∉ front → motive (front ++ text) from general [] (by simp)
  induction text with
  | nil =>
    intro front oneLine
    rw [List.append_nil]
    exact last front oneLine
  | cons c text inductionHypothesis =>
    intro front oneLine
    by_cases isFeed : c = '\n'
    · subst isFeed
      exact ended front text oneLine (inductionHypothesis [] (by simp))
    · have further := inductionHypothesis (front ++ [c]) (by simp [oneLine, Ne.symm isFeed])
      rwa [List.append_assoc] at further

/-- A line that ends has a carriage return before its line feed. -/
theorem crlf_line {line : List Char} (oneLine : '\n' ∉ line) (rest : List Char) :
    crlf (line ++ '\n' :: rest) = (line ++ ['\r']) ++ '\n' :: crlf rest := by
  rw [crlf, endLines_append, endLines_of_oneLine oneLine, endLines_feed, crlf]
  simp

/-- Both texts have the same lines, as the returns are part of the line ends. -/
theorem lines_crlf {text : List Char} (plain : '\r' ∉ text) : lines (crlf text) = lines text := by
  induction text using text_induction with
  | last line oneLine => rw [crlf, endLines_of_oneLine oneLine]
  | ended line rest oneLine inductionHypothesis =>
    rw [List.mem_append, List.mem_cons, not_or, not_or] at plain
    obtain ⟨linePlain, -, restPlain⟩ := plain
    have returned : '\n' ∉ line ++ ['\r'] := by simp [oneLine]
    have dropped : dropReturn (line ++ ['\r']) = line := by simp [dropReturn]
    have kept : dropReturn line = line :=
      if_neg fun last => linePlain (List.mem_of_getLast? last)
    rw [crlf_line oneLine, lines_feed returned, lines_feed oneLine, dropped, kept,
      inductionHypothesis restPlain]

end ServiceWiring.Text
