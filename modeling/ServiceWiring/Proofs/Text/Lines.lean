import Mathlib.Data.List.Induction
import ServiceWiring.Proofs.Text.Spans

/-!
# Lines with carriage returns

Cutting a text that was joined from lines gives the lines back, except that a carriage
return before a line feed belongs to the line end, and that an empty last line is none.
`Received` relates the lines of a text to what cutting makes of them. It leaves open
which lines lost a carriage return, so that all that is proved of received lines holds
for every kind of line end.
-/

namespace ServiceWiring.Text

/-- A line as it is received: as it was, or without the carriage return at its end. -/
def ReceivedLine (raw line : List Char) : Prop := line = raw ∨ line = dropReturn raw

/-- Lines as they are received when a text that consists of them is cut. -/
inductive Received : List (List Char) → List (List Char) → Prop
  | none : Received [] []
  | emptyEnd : Received [[]] []
  | line {raw line : List Char} {raws lines : List (List Char)} (same : ReceivedLine raw line)
    (others : Received raws lines) : Received (raw :: raws) (line :: lines)

/-- A line loses a carriage return at its end, or nothing. -/
theorem dropReturn_cases (line : List Char) :
    dropReturn line = line ∨ line = dropReturn line ++ ['\r'] := by
  rw [dropReturn]
  split
  · rename_i last
    obtain ⟨front, rfl⟩ := List.getLast?_eq_some_iff.mp last
    rw [List.dropLast_concat]
    exact .inr rfl
  · exact .inl rfl

/-- Text up to a character other than a carriage return stays in its line. -/
theorem dropReturn_append {mark : Char} (noReturn : mark ≠ '\r') (front back : List Char) :
    dropReturn (front ++ mark :: back) = front ++ mark :: dropReturn back := by
  cases back using List.reverseRecOn with
  | nil =>
    have kept : (front ++ [mark]).getLast? ≠ some '\r' := by simpa using noReturn
    rw [dropReturn, if_neg kept]
    rfl
  | append_singleton back last =>
    have whole : front ++ mark :: (back ++ [last]) = (front ++ mark :: back) ++ [last] := by simp
    rw [whole, dropReturn, dropReturn, List.getLast?_concat, List.getLast?_concat,
      List.dropLast_concat, List.dropLast_concat]
    split
    · rfl
    · simp

/-- What is received of a line up to a character other than a carriage return. -/
theorem ReceivedLine.split {mark : Char} (noReturn : mark ≠ '\r') {front back line : List Char}
    (received : ReceivedLine (front ++ mark :: back) line) :
    ∃ backLine, line = front ++ mark :: backLine ∧ ReceivedLine back backLine := by
  rcases received with rfl | rfl
  · exact ⟨back, rfl, .inl rfl⟩
  · exact ⟨dropReturn back, dropReturn_append noReturn front back, .inr rfl⟩

/-- What is received of a line behind text without carriage returns. -/
theorem ReceivedLine.split_of_lacks {front back line : List Char} (lacks : '\r' ∉ front)
    (received : ReceivedLine (front ++ back) line) :
    ∃ backLine, line = front ++ backLine ∧ ReceivedLine back backLine := by
  cases front using List.reverseRecOn with
  | nil => exact ⟨line, rfl, received⟩
  | append_singleton front mark =>
    rw [List.mem_append, not_or] at lacks
    have noReturn : mark ≠ '\r' := by
      rintro rfl
      exact lacks.2 List.mem_cons_self
    rw [List.append_assoc, List.singleton_append] at received
    obtain ⟨backLine, rfl, backReceived⟩ := received.split noReturn
    exact ⟨backLine, by simp, backReceived⟩

/-- A received line is the beginning of the line. -/
theorem ReceivedLine.exists_rest {raw line : List Char} (received : ReceivedLine raw line) :
    ∃ rest, raw = line ++ rest := by
  rcases received with rfl | rfl
  · exact ⟨[], (List.append_nil _).symm⟩
  · rcases dropReturn_cases raw with same | shorter
    · exact ⟨[], by rw [same, List.append_nil]⟩
    · exact ⟨['\r'], shorter⟩

/-- A received line has no characters that the line lacks. -/
theorem ReceivedLine.not_mem {raw line : List Char} (received : ReceivedLine raw line) {c : Char}
    (absent : c ∉ raw) : c ∉ line := by
  obtain ⟨rest, rfl⟩ := received.exists_rest
  exact fun member => absent (List.mem_append_left _ member)

/-- The first line of a text, and the lines behind its line feed. -/
theorem lines_feed {line : List Char} (oneLine : '\n' ∉ line) (rest : List Char) :
    lines (line ++ '\n' :: rest) = dropReturn line :: lines rest := by
  rw [lines.eq_def]
  split
  · rename_i nothing
    simp at nothing
  · rename_i c tail whole
    rw [← whole, cutLine_line oneLine]

/-- Text without line feeds belongs to the first line. -/
theorem cutLine_behind {front : List Char} (oneLine : '\n' ∉ front) (text : List Char) :
    cutLine (front ++ text) = (front ++ (cutLine text).1, (cutLine text).2) := by
  induction front with
  | nil => rfl
  | cons c front inductionHypothesis =>
    rw [List.mem_cons, not_or] at oneLine
    rw [List.cons_append, cutLine, if_neg (Ne.symm oneLine.1), inductionHypothesis oneLine.2]
    rfl

/-- A text without line feeds is cut into that text and nothing else. -/
theorem cutLine_of_oneLine {line : List Char} (oneLine : '\n' ∉ line) :
    cutLine line = (line, none) := by
  have cut := cutLine_behind oneLine []
  rw [List.append_nil] at cut
  simpa [cutLine] using cut

/-- A text without line feeds is one line, unless it is empty. -/
theorem lines_line {line : List Char} (oneLine : '\n' ∉ line) (present : line ≠ []) :
    lines line = [line] := by
  rw [lines.eq_def]
  split
  · exact absurd rfl present
  · rename_i c tail
    rw [cutLine_of_oneLine oneLine]

/-- Lines behind a line. -/
theorem join_cons_cons (separator first second : List Char) (others : List (List Char)) :
    join separator (first :: second :: others) =
      first ++ separator ++ join separator (second :: others) := rfl

/-- What cutting makes of joined lines. -/
theorem received_lines {raws : List (List Char)} (oneLine : ∀ raw ∈ raws, '\n' ∉ raw) :
    Received raws (lines (join ['\n'] raws)) := by
  induction raws with
  | nil =>
    rw [join, lines]
    exact .none
  | cons first others inductionHypothesis =>
    rw [List.forall_mem_cons] at oneLine
    cases others with
    | nil =>
      rw [join]
      by_cases empty : first = []
      · rw [empty, lines]
        exact .emptyEnd
      · rw [lines_line oneLine.1 empty]
        exact .line (.inl rfl) .none
    | cons second others =>
      rw [join_cons_cons, List.append_assoc, List.singleton_append, lines_feed oneLine.1]
      exact .line (.inr rfl) (inductionHypothesis oneLine.2)

/-- Lines one behind the other are received one behind the other, unless the last of
all is empty and therefore none. -/
theorem Received.append {raws others lines : List (List Char)}
    (received : Received (raws ++ others) lines) :
    (∃ front back, lines = front ++ back ∧ List.Forall₂ ReceivedLine raws front ∧
      Received others back) ∨
    (others = [] ∧ ∃ front, raws = front ++ [[]] ∧ List.Forall₂ ReceivedLine front lines) := by
  induction raws generalizing lines with
  | nil => exact .inl ⟨[], lines, rfl, .nil, received⟩
  | cons raw raws inductionHypothesis =>
    generalize whole : (raw :: raws) ++ others = all at received
    cases received with
    | none => cases whole
    | emptyEnd =>
      obtain ⟨rfl, nothing⟩ := List.cons.inj whole
      obtain ⟨rfl, rfl⟩ := List.append_eq_nil_iff.mp nothing
      exact .inr ⟨rfl, [], rfl, .nil⟩
    | line same more =>
      obtain ⟨rfl, rfl⟩ := List.cons.inj whole
      rcases inductionHypothesis more with ⟨front, back, rfl, frontReceived, backReceived⟩ |
        ⟨nothing, front, rfl, frontReceived⟩
      · exact .inl ⟨_ :: front, back, rfl, .cons same frontReceived, backReceived⟩
      · exact .inr ⟨nothing, _ :: front, rfl, .cons same frontReceived⟩

end ServiceWiring.Text
