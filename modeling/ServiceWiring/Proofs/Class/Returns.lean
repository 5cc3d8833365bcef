import ServiceWiring.Proofs.Class.Code
import ServiceWiring.Proofs.Class.LineEnds
import ServiceWiring.Proofs.Class.Silence

/-!
# Carriage returns in a class body

In the body of a class the line ends of a rewritten text do not all arrive at the search for
methods. A line comment ends before its line feed, so it takes the carriage return with it.
What can be said of both texts at every point is therefore less: that the second one has
carriage returns before some line feeds where the first has none.

The scans of the body keep this relation, and the methods found in related texts are the
same. The main statement is that a rewritten text has the methods of the text.
-/

namespace ServiceWiring

/-- Related results are both missing or both there. -/
theorem none_or_some_of_rel {α β : Type} {relation : α → β → Prop} {one : Option α}
    {other : Option β} (related : Option.Rel relation one other) :
    (one = none ∧ other = none) ∨
      ∃ first second, one = some first ∧ other = some second ∧ relation first second := by
  cases related with
  | none => exact .inl ⟨rfl, rfl⟩
  | some both => exact .inr ⟨_, _, rfl, rfl, both⟩

namespace Source

open Text (isBlank isNameStart isNameChar isWordChar stripPrefix? trimStart)

/-- The second text has carriage returns before some of its line feeds where the first text has
none. -/
inductive Returned : List Char → List Char → Prop
  | nil : Returned [] []
  | keep (c : Char) {text other : List Char} (rest : Returned text other) :
    Returned (c :: text) (c :: other)
  | feed {text other : List Char} (rest : Returned text other) :
    Returned ('\n' :: text) ('\r' :: '\n' :: other)

namespace Returned

variable {text other : List Char}

/-- A text may be left as it is. -/
theorem refl : ∀ text : List Char, Returned text text
  | [] => .nil
  | c :: text => .keep c (refl text)

/-- A rewritten text has a return before each line feed. -/
theorem crlf : ∀ text : List Char, Returned text (Text.crlf text)
  | [] => .nil
  | c :: text => by
    by_cases isFeed : c = '\n'
    · subst isFeed
      exact .feed (crlf text)
    · rw [Text.crlf_cons isFeed]
      exact .keep c (crlf text)

/-- Texts are rewritten part by part. -/
theorem append {front otherFront : List Char} (fronts : Returned front otherFront)
    (backs : Returned text other) : Returned (front ++ text) (otherFront ++ other) := by
  induction fronts with
  | nil => exact backs
  | keep c _ inductionHypothesis => exact .keep c inductionHypothesis
  | feed _ inductionHypothesis => exact .feed inductionHypothesis

/-- Both texts begin with a character that belongs to no line end, or neither does. -/
theorem head?_iff (returned : Returned text other) {c : Char} (noFeed : c ≠ '\n')
    (noReturn : c ≠ '\r') : other.head? = some c ↔ text.head? = some c := by
  cases returned with
  | nil => rfl
  | keep d rest => rfl
  | feed rest => simp [Ne.symm noFeed, Ne.symm noReturn]

end Returned

/-! ## Scans of the body -/

/-- An escape takes the next character with it. -/
theorem afterString_escape (quote c : Char) (rest : List Char) :
    afterString quote ('\\' :: c :: rest) = afterString quote rest := by
  rw [afterString]

/-- Other characters than escapes and the quote belong to the string. -/
theorem afterString_cons {quote c : Char} (noEscape : c ≠ '\\') (noQuote : c ≠ quote)
    (rest : List Char) : afterString quote (c :: rest) = afterString quote rest := by
  simp [afterString, noEscape, noQuote]

/-- The quote ends the string. -/
theorem afterString_quote {quote : Char} (isQuote : isQuote quote = true) (rest : List Char) :
    afterString quote (quote :: rest) = rest := by
  have noEscape : quote ≠ '\\' := by
    rintro rfl
    contradiction
  simp [afterString, noEscape]

/-- A string ends at the same quote. When an escape takes a return, the line feed is left,
which is no quote. -/
theorem Returned.afterString {text other : List Char} (returned : Returned text other)
    {quote : Char} (isQuote : isQuote quote = true) :
    Returned (Source.afterString quote text) (Source.afterString quote other) := by
  have noFeed : '\n' ≠ quote := by
    rintro rfl
    contradiction
  have noReturn : '\r' ≠ quote := by
    rintro rfl
    contradiction
  have skipFeed := afterString_cons (by decide) noFeed
  have skipReturn := afterString_cons (by decide) noReturn
  fun_induction Source.afterString quote text generalizing other with
  | case1 =>
    cases returned
    exact .nil
  | case2 =>
    cases returned with
    | keep _ rest =>
      cases rest
      exact .nil
  | case3 c rest inductionHypothesis =>
    cases returned with
    | keep _ behind =>
      cases behind with
      | keep _ behind =>
        rw [afterString_escape]
        exact inductionHypothesis behind
      | feed behind =>
        rw [afterString_escape, skipFeed]
        exact inductionHypothesis behind
  | case4 rest noEscape noEscapes =>
    cases returned with
    | keep _ behind =>
      rw [afterString_quote isQuote]
      exact behind
    | feed => exact absurd rfl noFeed
  | case5 c rest noLast noEscape noQuote inductionHypothesis =>
    cases returned with
    | keep _ behind =>
      have plain : c ≠ '\\' := by
        rintro rfl
        cases rest with
        | nil => exact noLast rfl rfl
        | cons d rest => exact noEscape d rest rfl rfl
      rw [afterString_cons plain noQuote]
      exact inductionHypothesis behind
    | feed behind =>
      rw [skipReturn, skipFeed]
      exact inductionHypothesis behind

/-- A line ends at the same line feed, with or without the return before it. -/
theorem Returned.afterLine {text other : List Char} (returned : Returned text other) :
    Returned (Source.afterLine text) (Source.afterLine other) := by
  induction returned with
  | nil => exact .nil
  | @keep c text other rest inductionHypothesis =>
    by_cases isFeed : c = '\n'
    · subst isFeed
      exact .keep '\n' rest
    · simpa [Source.afterLine, isFeed] using inductionHypothesis
  | feed rest => exact .keep '\n' rest

/-- Other characters than the first one of the end mark belong to the comment. -/
theorem afterBlockComment_cons {c : Char} {rest : List Char}
    (unmarked : c = '*' → rest.head? ≠ some '/') :
    afterBlockComment (c :: rest) = afterBlockComment rest := by
  rw [afterBlockComment]
  rintro tail rfl rfl
  exact unmarked rfl rfl

/-- A block comment ends at the same end mark. -/
theorem Returned.afterBlockComment {text other : List Char} (returned : Returned text other) :
    Returned (Source.afterBlockComment text) (Source.afterBlockComment other) := by
  fun_induction Source.afterBlockComment text generalizing other with
  | case1 =>
    cases returned
    exact .nil
  | case2 rest =>
    cases returned with
    | keep _ behind =>
      cases behind with
      | keep _ behind =>
        rw [Source.afterBlockComment]
        exact behind
  | case3 c rest unmarked inductionHypothesis =>
    cases returned with
    | keep _ behind =>
      rw [afterBlockComment_cons]
      · exact inductionHypothesis behind
      · rintro rfl slash
        rw [behind.head?_iff (by decide) (by decide)] at slash
        obtain ⟨others, rfl⟩ := List.head?_eq_some_iff.mp slash
        exact unmarked others rfl rfl
    | feed behind =>
      rw [afterBlockComment_cons (by simp), afterBlockComment_cons (by simp)]
      exact inductionHypothesis behind

/-- Characters that are no quotes and no brackets belong to the group. -/
theorem afterAttribute_cons {c : Char} (noQuote : isQuote c = false) (noOpening : c ≠ '[')
    (noClosing : c ≠ ']') (depth : Nat) (rest : List Char) :
    afterAttribute depth (c :: rest) = afterAttribute depth rest := by
  rw [afterAttribute]
  simp [noQuote, noOpening, noClosing]

/-- An attribute group ends at the same bracket. -/
theorem Returned.afterAttribute {text other : List Char} (returned : Returned text other)
    (depth : Nat) :
    Returned (Source.afterAttribute depth text) (Source.afterAttribute depth other) := by
  fun_induction Source.afterAttribute depth text generalizing other with
  | case1 depth =>
    cases returned
    rw [Source.afterAttribute]
    exact .nil
  | case2 depth c rest quote inductionHypothesis =>
    cases returned with
    | keep _ behind =>
      rw [Source.afterAttribute, if_pos quote]
      exact inductionHypothesis (behind.afterString quote)
    | feed => contradiction
  | case3 depth rest noQuote inductionHypothesis =>
    cases returned with
    | keep _ behind =>
      rw [Source.afterAttribute, if_neg noQuote, if_pos rfl]
      exact inductionHypothesis behind
  | case4 depth rest last noQuote noOpening =>
    cases returned with
    | keep _ behind =>
      rw [Source.afterAttribute, if_neg noQuote, if_neg noOpening, if_pos rfl, if_pos last]
      exact behind
  | case5 depth rest noQuote noOpening inside inductionHypothesis =>
    cases returned with
    | keep _ behind =>
      rw [Source.afterAttribute, if_neg noQuote, if_neg noOpening, if_pos rfl, if_neg inside]
      exact inductionHypothesis behind
  | case6 depth c rest noQuote noOpening noClosing inductionHypothesis =>
    cases returned with
    | keep _ behind =>
      rw [Source.afterAttribute, if_neg noQuote, if_neg noOpening, if_neg noClosing]
      exact inductionHypothesis behind
    | feed behind =>
      rw [afterAttribute_cons (by decide) (by decide) (by decide),
        afterAttribute_cons (by decide) (by decide) (by decide)]
      exact inductionHypothesis behind

/-- Related texts begin with the same piece, and the texts behind it are related. -/
theorem Returned.nextPiece {rest other : List Char} (returned : Returned rest other) (c : Char) :
    (nextPiece c other).1 = (nextPiece c rest).1 ∧
      Returned (nextPiece c rest).2 (nextPiece c other).2 := by
  have slash := returned.head?_iff (c := '/') (by decide) (by decide)
  have star := returned.head?_iff (c := '*') (by decide) (by decide)
  have bracket := returned.head?_iff (c := '[') (by decide) (by decide)
  unfold Source.nextPiece
  simp only [slash, star, bracket]
  split_ifs with quote lineMark commentMark groupMark hash brace closingBrace
  · exact ⟨rfl, returned.afterString quote⟩
  · exact ⟨rfl, returned.afterLine⟩
  · obtain ⟨behind, rfl⟩ := List.head?_eq_some_iff.mp commentMark.2
    cases returned with
    | keep _ returned => exact ⟨rfl, returned.afterBlockComment⟩
  · exact ⟨rfl, returned.afterAttribute 0⟩
  · exact ⟨rfl, returned.afterLine⟩
  all_goals exact ⟨rfl, returned⟩

/-- What a piece contributes to the first level of a body of which `depth` braces are open. -/
def Piece.shown (depth : Nat) : Piece → List Char
  | .plain c => if depth = 1 then [c] else []
  | .aside | .opening => if depth = 1 then [' '] else []
  | .closing => []

/-- The number of open braces behind a piece, unless it closes the body. -/
def Piece.depthAfter? (depth : Nat) : Piece → Option Nat
  | .plain _ | .aside => some depth
  | .opening => some (depth + 1)
  | .closing => if depth = 1 then none else some (depth - 1)

/-- A body is read piece by piece. -/
theorem membersAt_cons (depth : Nat) (c : Char) (rest : List Char) :
    membersAt depth (c :: rest) = (Source.nextPiece c rest).1.shown depth ++
      (((Source.nextPiece c rest).1.depthAfter? depth).map fun depth =>
        membersAt depth (Source.nextPiece c rest).2).getD [] := by
  rw [membersAt]
  split <;> rename_i after found <;> rw [found]
  · by_cases first : depth = 1 <;> simp [Piece.shown, Piece.depthAfter?, first]
  · by_cases first : depth = 1 <;> simp [Piece.shown, Piece.depthAfter?, first]
  · by_cases first : depth = 1 <;> simp [Piece.shown, Piece.depthAfter?, first]
  · rcases depth with _ | _ | depth <;> simp [Piece.shown, Piece.depthAfter?]

/-- The first levels of related texts are related. -/
theorem Returned.membersAt {text other : List Char} (returned : Returned text other)
    (depth : Nat) : Returned (Source.membersAt depth text) (Source.membersAt depth other) := by
  induction size : text.length using Nat.strongRecOn generalizing text other depth with
  | ind size inductionHypothesis =>
    subst size
    cases returned with
    | nil => exact refl _
    | @keep c text other rest =>
      obtain ⟨samePiece, behind⟩ := rest.nextPiece c
      have shorter := nextPiece_le c text
      rw [membersAt_cons, membersAt_cons, samePiece]
      refine (refl _).append ?_
      cases (Source.nextPiece c text).1.depthAfter? depth with
      | none => exact .nil
      | some depth =>
        exact inductionHypothesis _ (by simp only [List.length_cons]; omega) behind depth rfl
    | @feed text other rest =>
      have others := inductionHypothesis text.length (by simp) rest depth rfl
      have feedPiece : ∀ rest, Source.nextPiece '\n' rest = (.plain '\n', rest) := fun _ => rfl
      have returnPiece : ∀ rest, Source.nextPiece '\r' rest = (.plain '\r', rest) := fun _ => rfl
      rw [membersAt_plain depth (feedPiece text), membersAt_plain depth (returnPiece _),
        membersAt_plain depth (feedPiece other), ← List.append_assoc]
      refine append ?_ others
      split
      · exact .feed .nil
      · exact .nil

/-! ## Methods -/

namespace Returned

variable {text other : List Char}

/-- Texts are related behind their blanks. -/
theorem trimStart (returned : Returned text other) :
    Returned (Text.trimStart text) (Text.trimStart other) := by
  induction returned with
  | nil => exact .nil
  | @keep c text other rest inductionHypothesis =>
    by_cases blank : isBlank c = true
    · simpa [Text.trimStart, blank] using inductionHypothesis
    · simpa [Text.trimStart, blank] using Returned.keep c rest
  | feed _ inductionHypothesis => exact inductionHypothesis

/-- A part that has nothing to do with line ends is taken off both texts or off neither. -/
theorem stripPrefix? {part : List Char} (feed : '\n' ∉ part) (apart : '\r' ∉ part)
    (returned : Returned text other) :
    Option.Rel Returned (Text.stripPrefix? part text) (Text.stripPrefix? part other) := by
  induction part generalizing text other with
  | nil => exact .some returned
  | cons p part inductionHypothesis =>
    rw [List.mem_cons, not_or] at feed apart
    cases returned with
    | nil => exact .none
    | @keep c text other rest =>
      rw [Text.stripPrefix?, Text.stripPrefix?]
      split
      · exact inductionHypothesis feed.2 apart.2 rest
      · exact .none
    | feed rest =>
      rw [Text.stripPrefix?, Text.stripPrefix?, if_neg (Ne.symm feed.1), if_neg (Ne.symm apart.1)]
      exact .none

/-- A word with a blank is taken off both texts or off neither. -/
theorem afterWord? {word : String} (inLine : InLine word) (returned : Returned text other) :
    Option.Rel Returned (Source.afterWord? word text) (Source.afterWord? word other) := by
  unfold Source.afterWord?
  obtain ⟨none, otherNone⟩ | ⟨rest, otherRest, some, otherSome, behind⟩ :=
    none_or_some_of_rel (returned.stripPrefix? inLine.1 inLine.2)
  · rw [none, otherNone]
    exact .none
  · rw [some, otherSome]
    cases behind with
    | nil => exact .none
    | @keep c rest other behind =>
      dsimp only
      split
      · exact .some behind.trimStart
      · exact .none
    | feed behind => exact .some behind.trimStart

/-- The same modifier is taken off both texts, or none. -/
theorem modifier? (returned : Returned text other) :
    Option.Rel (fun one another => another.1 = one.1 ∧ Returned one.2 another.2)
      (Source.modifier? text) (Source.modifier? other) := by
  have inLine : ∀ word ∈ modifierWords, InLine word := by decide
  unfold Source.modifier?
  generalize modifierWords = words at inLine
  induction words with
  | nil => exact .none
  | cons word words inductionHypothesis =>
    have others := inductionHypothesis fun word member =>
      inLine word (List.mem_cons_of_mem _ member)
    rw [List.findSome?_cons, List.findSome?_cons]
    obtain ⟨none, otherNone⟩ | ⟨rest, otherRest, some, otherSome, behind⟩ :=
      none_or_some_of_rel (returned.afterWord? (inLine word List.mem_cons_self))
    · rw [none, otherNone]
      exact others
    · rw [some, otherSome]
      exact .some ⟨rfl, behind⟩

/-- The same modifiers are taken off both texts. -/
theorem modifiers (returned : Returned text other) :
    (Source.modifiers other).1 = (Source.modifiers text).1 ∧
      Returned (Source.modifiers text).2 (Source.modifiers other).2 := by
  fun_induction Source.modifiers text generalizing other with
  | case1 text unmodified =>
    have related := returned.modifier?
    rw [unmodified] at related
    obtain ⟨-, otherNone⟩ | ⟨_, _, some, _⟩ := none_or_some_of_rel related
    · rw [modifiers_of_none otherNone]
      exact ⟨rfl, returned⟩
    · contradiction
  | case2 text word rest found inductionHypothesis =>
    have related := returned.modifier?
    rw [found] at related
    obtain ⟨none, -⟩ | ⟨_, ⟨otherWord, otherRest⟩, some, otherSome, same, behind⟩ :=
      none_or_some_of_rel related
    · contradiction
    · obtain rfl := Option.some.inj some
      obtain rfl : otherWord = word := same
      obtain ⟨sameWords, furtherBehind⟩ := inductionHypothesis behind
      rw [Source.modifiers]
      split <;> rename_i otherFound <;> rw [otherSome] at otherFound <;> cases otherFound
      exact ⟨congrArg (otherWord :: ·) sameWords, furtherBehind⟩

/-- The same name is taken off both texts, or none. -/
theorem name? (returned : Returned text other) :
    Option.Rel (fun one another => another.1 = one.1 ∧ Returned one.2 another.2)
      (Source.name? text) (Source.name? other) := by
  have parts : ∀ {text other}, Returned text other →
      other.takeWhile isNameChar = text.takeWhile isNameChar ∧
        Returned (text.dropWhile isNameChar) (other.dropWhile isNameChar) := by
    intro text other returned
    induction returned with
    | nil => exact ⟨rfl, .nil⟩
    | @keep c text other rest inductionHypothesis =>
      by_cases named : isNameChar c = true
      · simpa [named] using inductionHypothesis
      · simpa [named] using Returned.keep c rest
    | feed rest => exact ⟨rfl, .feed rest⟩
  cases returned with
  | nil => exact .none
  | @keep c text other rest =>
    obtain ⟨taken, left⟩ := parts rest
    rw [Source.name?, Source.name?]
    split
    · exact .some ⟨congrArg (c :: ·) taken, left⟩
    · exact .none
  | feed rest => exact .none

/-- What follows the mark of a reference is rewritten. -/
theorem afterAmpersand (returned : Returned text other) :
    Returned (Source.afterAmpersand text) (Source.afterAmpersand other) := by
  cases returned with
  | nil => exact .nil
  | @keep c text other rest =>
    by_cases ampersand : c = '&'
    · subst ampersand
      exact rest.trimStart
    · simpa [Source.afterAmpersand, ampersand] using Returned.keep c rest
  | feed rest => exact .feed rest

/-- The same method is declared at the beginning of both texts, or none. -/
theorem methodAt? (returned : Returned text other) :
    Option.Rel (fun one another => another.1 = one.1 ∧ another.2.1 = one.2.1 ∧
      Returned one.2.2 another.2.2) (Source.methodAt? text) (Source.methodAt? other) := by
  obtain ⟨sameWords, afterModifiers⟩ := returned.modifiers
  rw [Source.methodAt?, Source.methodAt?, sameWords]
  obtain ⟨none, otherNone⟩ | ⟨_, _, some, otherSome, afterFunction⟩ :=
    none_or_some_of_rel (afterModifiers.afterWord? (show InLine "function" by decide))
  · rw [none, otherNone]
    exact .none
  rw [some, otherSome]
  dsimp only
  obtain ⟨none, otherNone⟩ | ⟨⟨name, rest⟩, ⟨otherName, otherRest⟩, some, otherSome, same,
      afterName⟩ := none_or_some_of_rel afterFunction.afterAmpersand.name?
  · rw [none, otherNone]
    exact .none
  rw [some, otherSome]
  dsimp only at same ⊢
  have behind := afterName.trimStart
  dsimp only at behind
  generalize Text.trimStart rest = blanksOff, Text.trimStart otherRest = otherBlanksOff at behind
  cases behind with
  | nil => exact .none
  | @keep c text other behind =>
    by_cases opening : c = '('
    · subst opening
      exact .some ⟨rfl, same, behind⟩
    · simp [opening]
  | feed => exact .none

/-- The same methods are declared in related texts. -/
theorem methodsFrom (returned : Returned text other) (inWord : Bool) :
    Source.methodsFrom inWord other = Source.methodsFrom inWord text := by
  induction size : text.length using Nat.strongRecOn generalizing text other inWord with
  | ind size inductionHypothesis =>
    subst size
    cases returned with
    | nil => rfl
    | @keep c text other rest =>
      have further := inductionHypothesis text.length (by simp) rest (isWordChar c) rfl
      cases inWord with
      | true => rw [methodsFrom_inWord, methodsFrom_inWord, further]
      | false =>
        obtain ⟨none, otherNone⟩ | ⟨⟨words, name, after⟩, ⟨otherWords, otherName, otherAfter⟩, some,
            otherSome, sameWords, sameName, behind⟩ :=
          none_or_some_of_rel (Returned.keep c rest).methodAt?
        · rw [methodsFrom_of_none none, methodsFrom_of_none otherNone, further]
        · have shorter := methodAt?_lt some
          have others := inductionHypothesis after.length shorter behind false rfl
          dsimp only at sameWords sameName
          rw [methodsFrom_of_some some, methodsFrom_of_some otherSome, others, sameWords, sameName]
    | @feed text other rest =>
      rw [methodsFrom_blank (by decide), methodsFrom_blank (by decide),
        methodsFrom_blank (by decide)]
      exact inductionHypothesis text.length (by simp) rest false rfl

end Returned

/-- A rewritten text has the methods of the text. -/
theorem methods_members_crlf (text : List Char) :
    methods (members (Text.crlf text)) = methods (members text) :=
  ((Returned.crlf text).membersAt 0).methodsFrom false

end Source

end ServiceWiring
