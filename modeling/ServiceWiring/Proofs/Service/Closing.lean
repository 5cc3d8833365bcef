import ServiceWiring.Proofs.Json.Spacing
import ServiceWiring.Service.DocBlock

/-!
# The parenthesis that closes a payload

Where the search for a closing parenthesis goes on undisturbed, and where it stops.
Characters other than quotes and parentheses do not disturb it, and strings do not
either, whatever they hold. So it passes every JSON text, and stops at the
parenthesis right behind the text.

What it found is trimmed and read. `payload_of_parse` says that a JSON text keeps its
value when it is trimmed, although trimming knows more blanks than JSON.
-/

namespace ServiceWiring.DocBlock

open Text (isBlank allBlank trim trimStart trimEnd)
open Json (Quoted Lexeme Lexed isSpace)

/-- A cut with some text put before what is cut off. -/
def putBefore (front : List Char) (cut : Option (List Char × List Char)) :
    Option (List Char × List Char) :=
  cut.map fun (before, after) => (front ++ before, after)

/-- Texts that the search for the closing parenthesis passes. -/
def Passed (text : List Char) : Prop :=
  ∀ depth rest, cutAtClosing .code depth (text ++ rest) =
    putBefore text (cutAtClosing .code depth rest)

/-- Nothing is put before a cut by the empty text. -/
theorem putBefore_nil (cut : Option (List Char × List Char)) : putBefore [] cut = cut := by
  cases cut <;> rfl

/-- Texts are put before a cut one after the other. -/
theorem putBefore_append (front back : List Char) (cut : Option (List Char × List Char)) :
    putBefore (front ++ back) cut = putBefore front (putBefore back cut) := by
  cases cut <;> simp [putBefore]

/-- The empty text is passed. -/
theorem passed_nil : Passed [] := fun _ _ => (putBefore_nil _).symm

/-- Texts one behind the other are passed if each of them is. -/
theorem Passed.append {front back : List Char} (frontPassed : Passed front)
    (backPassed : Passed back) : Passed (front ++ back) := by
  intro depth rest
  rw [List.append_assoc, frontPassed, backPassed, putBefore_append]

/-- A character other than quotes and parentheses is passed. -/
theorem passed_singleton {c : Char} (noQuote : c ≠ '"') (noOpening : c ≠ '(')
    (noClosing : c ≠ ')') : Passed [c] := by
  intro depth rest
  rw [List.singleton_append, cutAtClosing]
  simp [noQuote, noOpening, noClosing, putBefore]

/-- Inside a string the search goes on to the quote that closes the string. -/
theorem cutAtClosing_quoted {body : List Char} (quoted : Quoted body) (depth : Nat)
    (rest : List Char) :
    cutAtClosing .string depth (body ++ '"' :: rest) =
      putBefore (body ++ ['"']) (cutAtClosing .code depth rest) := by
  induction quoted with
  | nil => simp [cutAtClosing, putBefore]
  | @plain c body notQuote notEscape _ _ inductionHypothesis =>
    rw [List.cons_append, cutAtClosing]
    simp only [notEscape, notQuote, if_false, inductionHypothesis]
    exact (putBefore_append [c] (body ++ ['"']) _).symm
  | @escaped c body _ _ inductionHypothesis =>
    rw [List.cons_append, List.cons_append, cutAtClosing, cutAtClosing]
    simp only [if_true, inductionHypothesis, Option.map_map]
    exact (putBefore_append ['\\', c] (body ++ ['"']) _).symm

/-- A string is passed. -/
theorem passed_string {body : List Char} (quoted : Quoted body) :
    Passed ('"' :: (body ++ ['"'])) := by
  intro depth rest
  rw [List.cons_append, List.append_assoc, List.singleton_append, cutAtClosing]
  simp only [if_true, cutAtClosing_quoted quoted]
  exact (putBefore_append ['"'] (body ++ ['"']) _).symm

/-- A lexeme of JSON is passed. -/
theorem Passed.of_lexeme {lexeme : List Char} (isLexeme : Lexeme lexeme) : Passed lexeme := by
  cases isLexeme with
  | space space =>
    simp only [isSpace, Bool.or_eq_true, beq_iff_eq] at space
    rcases space with ((rfl | rfl) | rfl) | rfl <;>
      exact passed_singleton (by decide) (by decide) (by decide)
  | mark mark =>
    obtain ⟨-, -, noQuote, noOpening, noClosing, -⟩ := Json.isMark_spec mark
    exact passed_singleton noQuote noOpening noClosing
  | string quoted => exact passed_string quoted

/-- A row of lexemes is passed. -/
theorem Passed.of_lexed {text : List Char} (lexed : Lexed text) : Passed text := by
  obtain ⟨lexemes, areLexemes, rfl⟩ := lexed
  induction lexemes with
  | nil => exact passed_nil
  | cons lexeme lexemes inductionHypothesis =>
    rw [List.forall_mem_cons] at areLexemes
    rw [List.flatten_cons]
    exact (Passed.of_lexeme areLexemes.1).append (inductionHypothesis areLexemes.2)

/-- Blanks are passed. -/
theorem Passed.of_allBlank {text : List Char} (blank : allBlank text = true) : Passed text := by
  induction text with
  | nil => exact passed_nil
  | cons c text inductionHypothesis =>
    rw [allBlank, List.all_cons, Bool.and_eq_true] at blank
    have different : ∀ mark : Char, isBlank mark = false → c ≠ mark := by
      rintro mark noBlank rfl
      rw [blank.1] at noBlank
      cases noBlank
    have first : Passed [c] := passed_singleton (different '"' (by decide))
      (different '(' (by decide)) (different ')' (by decide))
    exact first.append (inductionHypothesis blank.2)

/-- The search stops at the parenthesis behind a text that it passes. -/
theorem Passed.cutAtClosing {text : List Char} (passed : Passed text) (rest : List Char) :
    cutAtClosing .code 0 (text ++ ')' :: rest) = some (text, rest) := by
  rw [passed, DocBlock.cutAtClosing]
  simp [putBefore]

/-! ## Payloads -/

/-- A JSON text is the payload that it denotes. -/
theorem payload_of_parse (name : List Char) {body : List Char} {value : Json}
    (parsed : Json.parse body = .ok value) : payload name body = .ok value := by
  -- Between the ends of a JSON text and its lexemes there are blanks of JSON only, so
  -- these are all that is trimmed.
  obtain ⟨spaces, all, split, -⟩ := (Json.lexed_of_parse parsed).trimStart_split
  have startParsed : Json.parse (trimStart body) = .ok value := by
    rw [Json.parse_eq_ok_iff, ← Json.skipSpace_append all, ← split, ← Json.parse_eq_ok_iff]
    exact parsed
  obtain ⟨trail, allTrail, trailSplit⟩ := (Json.lexed_of_parse startParsed).trimEnd_split
  have trimmed : Json.parse (trim body) = .ok value := by
    have respaced := Json.Respaced.prepend (trim body) (.tail allTrail)
    rw [List.append_nil, trim, ← trailSplit] at respaced
    exact Json.parse_of_respaced startParsed respaced
  have present : (trim body).isEmpty = false := by
    cases found : trim body with
    | nil =>
      rw [found] at trimmed
      cases trimmed
    | cons c rest => rfl
  simp [payload, trimmed, present, Except.mapError]

/-- Blanks are no payload. -/
theorem payload_of_allBlank (name : List Char) {body : List Char} (blank : allBlank body = true) :
    payload name body = .ok .null := by
  have nothing : trim body = [] := by
    rw [trim, (Text.trimStart_eq_nil_iff body).mpr blank]
    rfl
  simp [payload, nothing]

end ServiceWiring.DocBlock
