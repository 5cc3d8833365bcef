import ServiceWiring.Class.Source
import ServiceWiring.Proofs.Class.DocComment

/-!
# Any comment before a class

A comment right before the first declaration of a source text, whatever it says and whatever
stands in front of it. The documentation block is looked for from the end, so that it starts
at the last opening mark before the class and not at the first one behind the comment before
it.

The main statement is that the class gets the comment from its last opening mark on: all of
it exactly when no opening mark comes up inside, and none of it when that mark shares its star
with the end mark. A comment that stands in one line with an attribute group is passed over
together with the group.
-/

namespace ServiceWiring.Source

open Text (isBlank allBlank occurs occurs_iff_infix cutAtLast splitOnChar)

/-- A comment that starts with the opening mark and a blank, and runs to the first end mark
behind it. Each line after the first starts with a star. Anything else may come up inside,
such as further opening marks. -/
structure StarredComment where
  inside : List Char
  blankStarts : ∃ c ∈ inside.head?, isBlank c = true
  noEnd : occurs ['*', '/'] inside = false
  starred : (splitOnChar '\n' (inside ++ ['*', '/'])).tail.all isStarred = true

/-- The comment with its marks. -/
def StarredComment.text (comment : StarredComment) : List Char :=
  '/' :: '*' :: '*' :: (comment.inside ++ ['*', '/'])

/-- The text before a class with a comment right before it: blanks and whole lines, blank or
with an attribute group, are all that parts the comment from the class. -/
structure CommentedText where
  front : List Char
  comment : StarredComment
  trail : List Char
  skipped : List SkippedLine
  trailBlank : allBlank trail = true

namespace CommentedText

variable (place : CommentedText)

/-- The whole text. -/
def text : List Char :=
  place.front ++ place.comment.text ++
    (place.trail ++ '\n' :: linesText (place.skipped.map SkippedLine.text))

/-- Whether the comment stands in one line, behind an attribute group. -/
def BehindGroup : Prop :=
  '\n' ∉ place.comment.inside ∧ isAttributeLine (cutLastLine place.front).2 = true

instance : Decidable place.BehindGroup := inferInstanceAs (Decidable (_ ∧ _))

end CommentedText

/-! ## What stands behind the comment -/

/-- Skipped lines read as nothing when the documentation block is looked for. -/
theorem dropAttributeLines_append_skipped {trail : List Char} (blank : allBlank trail = true)
    (skipped : List SkippedLine) (text : List Char) :
    dropAttributeLines (text ++ (trail ++ '\n' :: linesText (skipped.map SkippedLine.text))) =
      dropAttributeLines text := by
  have feed : allBlank ['\n'] = true := by decide
  have lines := linesText_splitOnChar (text ++ trail)
  have whole : text ++ (trail ++ '\n' :: linesText (skipped.map SkippedLine.text)) =
      linesText (splitOnChar '\n' (text ++ trail) ++ skipped.map SkippedLine.text) := by
    rw [linesText_append, lines]
    simp
  rw [whole, dropAttributeLines_skipped, lines, dropAttributeLines_append_blanks feed,
    dropAttributeLines_append_blanks blank]

/-! ## The last opening mark -/

/-- A text in which an opening mark comes up has a last one. -/
theorem exists_last_opening {text : List Char} (opened : occurs ['/', '*', '*'] text = true) :
    ∃ passed rest, text = passed ++ '/' :: '*' :: '*' :: rest ∧
      occurs ['/', '*', '*'] rest = false := by
  induction text with
  | nil => exact absurd opened (by decide)
  | cons c text inductionHypothesis =>
    cases further : occurs ['/', '*', '*'] text with
    | true =>
      obtain ⟨passed, rest, split, last⟩ := inductionHypothesis further
      exact ⟨c :: passed, rest, by rw [split, List.cons_append], last⟩
    | false =>
      rw [occurs, further, Bool.or_false, List.isPrefixOf_iff_prefix] at opened
      obtain ⟨rest, split⟩ := opened
      obtain ⟨rfl, rfl⟩ := List.cons.inj split
      exact ⟨[], rest, rfl, Text.occurs_of_infix ⟨['*', '*'], [], by simp⟩ further⟩

/-- A text with an end mark is more than a slash. -/
theorem marked_ne_slash (inside : List Char) : inside ++ ['*', '/'] ≠ ['/'] := by
  intro same
  have lengths := congrArg List.length same
  simp at lengths

namespace StarredComment

variable (comment : StarredComment)

/-- No end mark comes up before the end of the comment. -/
theorem not_occurs_end : occurs ['*', '/'] ('/' :: '*' :: '*' :: comment.inside) = false := by
  obtain ⟨c, head, blank⟩ := comment.blankStarts
  obtain ⟨rest, starts⟩ := List.head?_eq_some_iff.mp head
  have noSlash : '/' ≠ c := by
    rintro rfl
    exact absurd blank (by decide)
  have noEnd := comment.noEnd
  rw [starts] at noEnd ⊢
  simpa [occurs, List.isPrefixOf, noSlash] using noEnd

/-- What the last opening mark in the comment starts is a block, unless the mark shares its
star with the end mark. -/
theorem isBlock_of_split {passed rest : List Char}
    (split : comment.text = passed ++ '/' :: '*' :: '*' :: rest) :
    isBlock ('/' :: '*' :: '*' :: rest) = !decide (rest = ['/']) := by
  have closed : ['*', '/'] <:+ passed ++ '/' :: '*' :: '*' :: rest := by
    rw [← split]
    exact ⟨'/' :: '*' :: '*' :: comment.inside, rfl⟩
  rcases closed_cases closed with rfl | ⟨inside, rfl⟩
  · rfl
  · have whole : '/' :: '*' :: '*' :: comment.inside = passed ++ '/' :: '*' :: '*' :: inside := by
      have marked : '/' :: '*' :: '*' :: comment.inside ++ ['*', '/'] =
          passed ++ '/' :: '*' :: '*' :: inside ++ ['*', '/'] := by
        simpa [StarredComment.text] using split
      exact List.append_cancel_right marked
    have stretch : inside <:+: '/' :: '*' :: '*' :: comment.inside := by
      rw [whole]
      exact ⟨passed ++ ['/', '*', '*'], [], by simp⟩
    rw [isBlock_marked, Text.occurs_of_infix stretch comment.not_occurs_end,
      decide_eq_false (marked_ne_slash inside)]

/-- An opening mark comes up in the comment, at least its own. -/
theorem occurs_opening : occurs ['/', '*', '*'] comment.text = true :=
  occurs_iff_infix.mpr ⟨[], comment.inside ++ ['*', '/'], rfl⟩

end StarredComment

/-! ## What the class gets of the comment -/

namespace CommentedText

variable (place : CommentedText)

/-- The comment is what is left without attribute lines, unless it stands in one. -/
theorem dropAttributeLines_text : dropAttributeLines place.text =
    if place.BehindGroup then dropAttributeLines (cutLastLine place.front).1
    else place.front ++ place.comment.text := by
  rw [text, dropAttributeLines_append_skipped place.trailBlank, StarredComment.text,
    dropAttributeLines_comment place.comment.starred]
  rfl

/-- Behind an attribute group in its line, the comment is passed over. -/
theorem docComment?_of_behindGroup (behind : place.BehindGroup) :
    docComment? place.text = docComment? (cutLastLine place.front).1 := by
  rw [docComment?_eq, docComment?_eq, place.dropAttributeLines_text, if_pos behind]

/-- Otherwise the documentation block is what the last opening mark in the comment starts. -/
theorem docComment?_of_split (apart : ¬place.BehindGroup) {passed rest : List Char}
    (split : place.comment.text = passed ++ '/' :: '*' :: '*' :: rest)
    (last : occurs ['/', '*', '*'] rest = false) :
    docComment? place.text =
      if rest = ['/'] then none else some ('/' :: '*' :: '*' :: rest) := by
  have closed : ['*', '/'].isSuffixOf (place.front ++ place.comment.text) = true := by
    rw [List.isSuffixOf_iff_suffix]
    exact ⟨place.front ++ '/' :: '*' :: '*' :: place.comment.inside, by
      simp [StarredComment.text]⟩
  have cut : cutAtLast ['/', '*', '*'] (place.front ++ place.comment.text) =
      some (place.front ++ passed, '/' :: '*' :: '*' :: rest) := by
    rw [split, ← List.append_assoc]
    exact cutAtLast_opening last _
  rw [docComment?_eq, place.dropAttributeLines_text, if_neg apart, closed, if_pos rfl, cut,
    Option.map_some, Option.filter_some, place.comment.isBlock_of_split split]
  by_cases shared : rest = ['/']
  · rw [if_pos shared, shared]
    rfl
  · rw [if_neg shared, decide_eq_false shared]
    rfl

/-- The documentation block is the whole comment exactly when no opening mark comes up
inside. -/
theorem docComment?_eq_whole_iff (apart : ¬place.BehindGroup) :
    docComment? place.text = some place.comment.text ↔
      occurs ['/', '*', '*'] (place.comment.inside ++ ['*', '/']) = false := by
  constructor
  · intro whole
    obtain ⟨passed, rest, split, last⟩ := exists_last_opening place.comment.occurs_opening
    rw [place.docComment?_of_split apart split last] at whole
    split at whole
    · contradiction
    · obtain rfl : rest = place.comment.inside ++ ['*', '/'] := by
        simpa [StarredComment.text] using whole
      exact last
  · intro last
    rw [place.docComment?_of_split apart (List.nil_append _).symm last,
      if_neg (marked_ne_slash _), StarredComment.text]

end CommentedText

end ServiceWiring.Source

namespace ServiceWiring

open Source Text

/-- A class gets the comment right before it from its last opening mark on, unless the
comment stands behind an attribute group in its line. -/
theorem ClassDefinition.ofSource?_comment (naming : Naming) {source : String}
    (place : CommentedText) {declared : Declared} {after : List Char}
    (found : declaration? source.toList = some (place.text, declared, after)) :
    ∃ definition, ClassDefinition.ofSource? naming source = some definition ∧
      (place.BehindGroup → definition.docComment =
        (docComment? (cutLastLine place.front).1).map String.ofList) ∧
      (¬place.BehindGroup →
        (definition.docComment = some (String.ofList place.comment.text) ↔
          occurs ['/', '*', '*'] (place.comment.inside ++ ['*', '/']) = false) ∧
        ∃ passed rest, place.comment.text = passed ++ '/' :: '*' :: '*' :: rest ∧
          occurs ['/', '*', '*'] rest = false ∧
          definition.docComment =
            if rest = ['/'] then none
            else some (String.ofList ('/' :: '*' :: '*' :: rest))) := by
  refine ⟨_, by rw [ClassDefinition.ofSource?, found, Option.map_some], ?_, ?_⟩
  · intro behind
    dsimp only
    rw [place.docComment?_of_behindGroup behind]
  · intro apart
    constructor
    · rw [← place.docComment?_eq_whole_iff apart, ← Option.map_some]
      exact (Option.map_injective fun _ _ same => String.ofList_injective same).eq_iff
    · obtain ⟨passed, rest, split, last⟩ := exists_last_opening place.comment.occurs_opening
      refine ⟨passed, rest, split, last, ?_⟩
      dsimp only
      rw [place.docComment?_of_split apart split last]
      split <;> rfl

/-- The text before a finder, with a comment that names all files below a directory. -/
def finderText : CommentedText where
  front := []
  comment := ⟨"\n * @Service(\x7b\"arguments\": [\"src/**\"]\x7d)\n ".toList,
    ⟨'\n', rfl, rfl⟩, by decide, by decide⟩
  trail := []
  skipped := []
  trailBlank := List.all_nil

/-- A source text that declares a finder. -/
def finderSource : String := String.ofList (finderText.text ++ "class Finder \x7b\x7d".toList)

example : finderSource =
    "/**\n * @Service(\x7b\"arguments\": [\"src/**\"]\x7d)\n */\nclass Finder \x7b\x7d" := by
  decide +kernel

/-- The comment before the finder is not attached as a whole. -/
theorem ClassDefinition.ofSource?_comment_finder :
    ∃ definition, ClassDefinition.ofSource? .standard finderSource = some definition ∧
      definition.docComment ≠ some (String.ofList finderText.comment.text) := by
  have found : declaration? finderSource.toList =
      some (finderText.text, ⟨.classKind, "Finder".toList⟩, " \x7b\x7d".toList) := by
    decide +kernel
  obtain ⟨definition, read, -, attached⟩ :=
    ClassDefinition.ofSource?_comment .standard finderText found
  refine ⟨definition, read, ?_⟩
  rw [ne_eq, (attached (by decide +kernel)).1]
  decide

/-- The finder is declared, but gets only the end of the comment, behind the name of the
directory. -/
theorem ClassDefinition.ofSource?_finderSource :
    ClassDefinition.ofSource? .standard finderSource =
        some ⟨"Finder", .classKind, some "/**\"]\x7d)\n */", []⟩ ∧
      "/**\"]\x7d)\n */" ≠ String.ofList finderText.comment.text := by
  decide +kernel

end ServiceWiring
