import Mathlib.Data.List.Basic
import ServiceWiring.Text.Split

/-!
# Pieces between marks

A text that is cut at every occurrence of a mark falls into pieces without the mark. Text
without a mark extends the piece that it is put next to, and a mark parts two texts, so that
each of them has its own pieces.
-/

namespace ServiceWiring.Text

/-- Every text has a part. -/
theorem splitOnChar_ne_nil (mark : Char) (text : List Char) : splitOnChar mark text ≠ [] := by
  cases text with
  | nil => simp [splitOnChar]
  | cons c rest =>
    rw [splitOnChar]
    split
    · simp
    · split <;> simp

/-- A part between marks holds no mark. -/
theorem not_mem_of_mem_splitOnChar {mark : Char} {text part : List Char}
    (member : part ∈ splitOnChar mark text) : mark ∉ part := by
  induction text generalizing part with
  | nil =>
    rw [splitOnChar, List.mem_singleton] at member
    simp [member]
  | cons c rest inductionHypothesis =>
    by_cases same : c = mark
    · rw [splitOnChar, if_pos same, List.mem_cons] at member
      rcases member with rfl | member
      · simp
      · exact inductionHypothesis member
    · rw [splitOnChar, if_neg same] at member
      cases parts : splitOnChar mark rest with
      | nil =>
        rw [parts, List.mem_singleton] at member
        simp [member, Ne.symm same]
      | cons first others =>
        rw [parts] at member inductionHypothesis
        rcases List.mem_cons.mp member with rfl | member
        · simp [Ne.symm same, inductionHypothesis List.mem_cons_self]
        · exact inductionHypothesis (List.mem_cons_of_mem _ member)

/-- Text without a mark belongs to the first part of the text behind it. -/
theorem splitOnChar_append {mark : Char} {front : List Char} (lacks : mark ∉ front)
    (text : List Char) :
    ∃ part parts, splitOnChar mark text = part :: parts ∧
      splitOnChar mark (front ++ text) = (front ++ part) :: parts := by
  induction front with
  | nil =>
    cases split : splitOnChar mark text with
    | nil => exact absurd split (splitOnChar_ne_nil mark text)
    | cons part parts => exact ⟨part, parts, rfl, split⟩
  | cons c front inductionHypothesis =>
    rw [List.mem_cons, not_or] at lacks
    obtain ⟨part, parts, split, whole⟩ := inductionHypothesis lacks.2
    refine ⟨part, parts, split, ?_⟩
    rw [List.cons_append, splitOnChar, if_neg (Ne.symm lacks.1), whole]
    rfl

/-- Text without a mark belongs to the last part of the text before it. -/
theorem splitOnChar_append_back {mark : Char} {back : List Char} (lacks : mark ∉ back)
    (text : List Char) :
    ∃ parts part, splitOnChar mark text = parts ++ [part] ∧
      splitOnChar mark (text ++ back) = parts ++ [part ++ back] := by
  induction text with
  | nil =>
    obtain ⟨part, parts, split, whole⟩ := splitOnChar_append lacks []
    rw [splitOnChar, List.cons.injEq] at split
    refine ⟨[], [], rfl, ?_⟩
    simpa [← split.1, ← split.2] using whole
  | cons c text inductionHypothesis =>
    obtain ⟨parts, part, split, whole⟩ := inductionHypothesis
    by_cases same : c = mark
    · exact ⟨[] :: parts, part, by simp [splitOnChar, same, split],
        by simp [splitOnChar, same, whole]⟩
    · cases parts with
      | nil =>
        exact ⟨[], c :: part, by simp_all [splitOnChar], by simp_all [splitOnChar]⟩
      | cons first others =>
        exact ⟨(c :: first) :: others, part, by simp_all [splitOnChar],
          by simp_all [splitOnChar]⟩

/-- Text without a mark is a single piece. -/
theorem splitOnChar_of_lacks {mark : Char} {text : List Char} (lacks : mark ∉ text) :
    splitOnChar mark text = [text] := by
  obtain ⟨part, parts, split, whole⟩ := splitOnChar_append lacks []
  rw [splitOnChar, List.cons.injEq] at split
  rw [List.append_nil, ← split.1, ← split.2, List.append_nil] at whole
  exact whole

/-- A mark parts two texts. -/
theorem splitOnChar_mark (mark : Char) (front back : List Char) :
    splitOnChar mark (front ++ mark :: back) =
      splitOnChar mark front ++ splitOnChar mark back := by
  induction front with
  | nil => simp [splitOnChar]
  | cons c front inductionHypothesis =>
    by_cases same : c = mark
    · simp [splitOnChar, same, inductionHypothesis]
    · rw [List.cons_append, splitOnChar, if_neg same, inductionHypothesis, splitOnChar,
        if_neg same]
      cases parts : splitOnChar mark front with
      | nil => exact absurd parts (splitOnChar_ne_nil mark front)
      | cons part others => rfl

end ServiceWiring.Text
