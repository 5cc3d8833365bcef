import Mathlib.Order.Bounds.Basic
import ServiceWiring.Proofs.Json.Derivation
import ServiceWiring.Proofs.Service.Closing
import ServiceWiring.Proofs.Text.Bytes
import ServiceWiring.Service.Closing

/-!
# The parenthesis that closes a text

Which parenthesis closes the one that a text begins with, said without a search. A text is
divided into string literals and the code between them. The closing parenthesis is the first
one outside of literals up to which the code closes as many parentheses as it opens.

`findClosing` is the search by offsets. It counts open parentheses, and would end with
`underflow` if it had to close one more than were opened. The main statement says that on a
text that begins with a parenthesis it finds the offset described, or nothing where there is
none, that its count never goes below zero, and that it agrees with `cutAtClosing`, by which
payloads are cut out of documentation blocks. Behind every JSON text in parentheses it stops
right there.

Both searches are compared with `codeFrom`, which reads off the code of a text from any of
their contexts.
-/

namespace ServiceWiring.DocBlock

open Text (encoded)

/-- The inside of a string literal: characters that are neither quotes nor backslashes, and
backslashes with the character behind each of them, whatever it is. -/
inductive LiteralBody : List Char → Prop
  | nil : LiteralBody []
  | plain {c : Char} {rest : List Char} (notQuote : c ≠ '"') (notEscape : c ≠ '\\')
    (others : LiteralBody rest) : LiteralBody (c :: rest)
  | escaped (c : Char) {rest : List Char} (others : LiteralBody rest) :
    LiteralBody ('\\' :: c :: rest)

/-- Whether a text consists of whole string literals and of some code outside of them. -/
inductive CodeOf : List Char → List Char → Prop
  | nil : CodeOf [] []
  | plain {c : Char} {text code : List Char} (notQuote : c ≠ '"') (others : CodeOf text code) :
    CodeOf (c :: text) (c :: code)
  | literal {body text code : List Char} (inside : LiteralBody body)
    (others : CodeOf text code) : CodeOf ('"' :: (body ++ '"' :: text)) code

/-- Whether a closing parenthesis stands at an offset, outside of literals, such that the text
up to and including it closes as many parentheses outside of literals as it opens there. -/
def ClosesAt (text : List Char) (offset : Nat) : Prop :=
  ∃ front back code, text = front ++ ')' :: back ∧ offset = (encoded front).length ∧
    CodeOf front code ∧ (code ++ [')']).count ')' = (code ++ [')']).count '('

/-! ## The code of a text -/

/-- The code in a text that is read from a context on, if the text ends outside of literals. -/
def codeFrom (context : Context) : List Char → Option (List Char)
  | [] => if context = .code then some [] else none
  | c :: rest =>
    if context = .code ∧ c ≠ '"' then (codeFrom (context.after c) rest).map (c :: ·)
    else codeFrom (context.after c) rest

/-- A literal that has been opened is read to its end. -/
theorem codeFrom_literal {body : List Char} (inside : LiteralBody body) (rest : List Char) :
    codeFrom .string (body ++ '"' :: rest) = codeFrom .code rest := by
  induction inside with
  | nil => simp [codeFrom, Context.after]
  | plain notQuote notEscape _ inductionHypothesis =>
    simpa [codeFrom, Context.after, notQuote, notEscape] using inductionHypothesis
  | escaped c _ inductionHypothesis =>
    simpa [codeFrom, Context.after] using inductionHypothesis

/-- A text whose code is read to its end has a quote that closes the literal it begins in. What
is missing of that literal is an inside of one, behind the backslash if there was one. -/
theorem exists_literal {context : Context} {text code : List Char} (literal : context ≠ .code)
    (read : codeFrom context text = some code) :
    ∃ body rest, text = body ++ '"' :: rest ∧ codeFrom .code rest = some code ∧
      LiteralBody (if context = .escape then '\\' :: body else body) := by
  induction text generalizing context with
  | nil => simp [codeFrom, literal] at read
  | cons c text inductionHypothesis =>
    cases context with
    | code => exact absurd rfl literal
    | escape =>
      obtain ⟨body, rest, rfl, further, inside⟩ :=
        inductionHypothesis (show Context.string ≠ .code by simp)
          (by simpa [codeFrom, Context.after] using read)
      exact ⟨c :: body, rest, rfl, further, .escaped c inside⟩
    | string =>
      by_cases escape : c = '\\'
      · subst escape
        obtain ⟨body, rest, rfl, further, inside⟩ :=
          inductionHypothesis (show Context.escape ≠ .code by simp)
            (by simpa [codeFrom, Context.after] using read)
        exact ⟨'\\' :: body, rest, rfl, further, inside⟩
      · by_cases quote : c = '"'
        · subst quote
          exact ⟨[], text, rfl, by simpa [codeFrom, Context.after] using read, .nil⟩
        · obtain ⟨body, rest, rfl, further, inside⟩ :=
            inductionHypothesis (show Context.string ≠ .code by simp)
              (by simpa [codeFrom, Context.after, escape, quote] using read)
          exact ⟨c :: body, rest, rfl, further, .plain quote escape inside⟩

/-- What is read of a text from outside of literals is its code. -/
theorem codeFrom_eq_some_iff {text code : List Char} :
    codeFrom .code text = some code ↔ CodeOf text code := by
  constructor
  · -- A literal is taken as a whole, so the induction is on the length of the text.
    intro read
    induction size : text.length using Nat.strong_induction_on generalizing text code with
    | _ size inductionHypothesis =>
      cases text with
      | nil =>
        obtain rfl : [] = code := by simpa [codeFrom] using read
        exact .nil
      | cons c text =>
        rw [List.length_cons] at size
        by_cases quote : c = '"'
        · subst quote
          obtain ⟨body, rest, rfl, further, inside⟩ :=
            exists_literal (show Context.string ≠ .code by simp)
              (by simpa [codeFrom, Context.after] using read)
          refine .literal inside (inductionHypothesis rest.length ?_ further rfl)
          simp only [List.length_append, List.length_cons] at size
          omega
        · obtain ⟨further, onward, rfl⟩ : ∃ further, codeFrom .code text = some further ∧
              c :: further = code := by
            simpa [codeFrom, Context.after, quote] using read
          exact .plain quote (inductionHypothesis text.length (by omega) onward rfl)
  · intro isCode
    induction isCode with
    | nil => simp [codeFrom]
    | plain notQuote _ inductionHypothesis =>
      simp [codeFrom, Context.after, notQuote, inductionHypothesis]
    | literal inside _ inductionHypothesis =>
      simpa [codeFrom, Context.after, codeFrom_literal inside] using inductionHypothesis

/-! ## Balanced fronts -/

/-- Whether a text, read from a context on, closes all but one of the parentheses that it opens
and that are open before it: the next one closes the first. -/
def Balances (context : Context) (depth : Nat) (front : List Char) : Prop :=
  ∃ code, codeFrom context front = some code ∧ code.count ')' = code.count '(' + depth

/-- Nothing balances outside of literals, with no further parenthesis open. -/
theorem balances_nil_iff {context : Context} {depth : Nat} :
    Balances context depth [] ↔ context = .code ∧ depth = 0 := by
  cases context <;> simp [Balances, codeFrom, eq_comm]

/-- An opening parenthesis has to be closed as well. -/
theorem balances_opening_iff {depth : Nat} {front : List Char} :
    Balances .code depth ('(' :: front) ↔ Balances .code (depth + 1) front := by
  simp [Balances, codeFrom, Context.after, Nat.add_assoc, Nat.add_comm 1]

/-- A closing parenthesis leaves one fewer to close. -/
theorem balances_closing_iff {depth : Nat} {front : List Char} :
    Balances .code (depth + 1) (')' :: front) ↔ Balances .code depth front := by
  simp [Balances, codeFrom, Context.after, ← Nat.add_assoc]

/-- Other characters, and all characters of literals, make no difference. -/
theorem balances_other_iff {context : Context} {c : Char} {depth : Nat} {front : List Char}
    (noOpening : ¬(context = .code ∧ c = '(')) (noClosing : ¬(context = .code ∧ c = ')')) :
    Balances context depth (c :: front) ↔ Balances (context.after c) depth front := by
  by_cases code : context = .code ∧ c ≠ '"'
  · obtain ⟨rfl, notQuote⟩ := code
    have opening : c ≠ '(' := fun same => noOpening ⟨rfl, same⟩
    have closing : c ≠ ')' := fun same => noClosing ⟨rfl, same⟩
    simp [Balances, codeFrom, notQuote, opening, closing]
  · simp only [Balances, codeFrom, if_neg code]

/-- The search for the closing parenthesis takes one character after the other. -/
theorem cutAtClosing_cons (context : Context) (depth : Nat) (c : Char) (rest : List Char) :
    cutAtClosing context depth (c :: rest) =
      if context = .code ∧ c = '(' then putBefore [c] (cutAtClosing .code (depth + 1) rest)
      else if context = .code ∧ c = ')' then
        match depth with
        | 0 => some ([], rest)
        | depth + 1 => putBefore [c] (cutAtClosing .code depth rest)
      else putBefore [c] (cutAtClosing (context.after c) depth rest) := by
  cases context with
  | escape => rfl
  | string =>
    simp only [cutAtClosing, Context.after, reduceCtorEq, false_and, if_false]
    split_ifs <;> rfl
  | code =>
    by_cases opening : c = '('
    · subst opening
      rfl
    · by_cases closing : c = ')'
      · subst closing
        cases depth <;> rfl
      · simp only [cutAtClosing, Context.after, opening, closing, and_false, if_false]
        split_ifs <;> rfl

/-- What is cut off before the closing parenthesis is balanced. -/
theorem balances_of_cutAtClosing {context : Context} {depth : Nat} {text front back : List Char}
    (cut : cutAtClosing context depth text = some (front, back)) :
    Balances context depth front := by
  induction text generalizing context depth front with
  | nil => simp [cutAtClosing] at cut
  | cons c text inductionHypothesis =>
    have further : ∀ {context depth}, putBefore [c] (cutAtClosing context depth text) =
        some (front, back) → ∃ inner, front = c :: inner ∧ Balances context depth inner := by
      intro context depth cut
      obtain ⟨⟨inner, after⟩, found, made⟩ := Option.map_eq_some_iff.mp cut
      obtain ⟨rfl, rfl⟩ := Prod.mk.inj made
      exact ⟨inner, rfl, inductionHypothesis found⟩
    rw [cutAtClosing_cons] at cut
    split at cut
    · rename_i opening
      obtain ⟨rfl, rfl⟩ := opening
      obtain ⟨inner, rfl, balances⟩ := further cut
      exact balances_opening_iff.mpr balances
    · rename_i noOpening
      split at cut
      · rename_i closing
        obtain ⟨rfl, rfl⟩ := closing
        cases depth with
        | zero =>
          obtain ⟨rfl, rfl⟩ := Prod.mk.inj (Option.some.inj cut)
          exact balances_nil_iff.mpr ⟨rfl, rfl⟩
        | succ depth =>
          obtain ⟨inner, rfl, balances⟩ := further cut
          exact balances_closing_iff.mpr balances
      · rename_i noClosing
        obtain ⟨inner, rfl, balances⟩ := further cut
        exact (balances_other_iff noOpening noClosing).mpr balances

/-- Where a balanced text comes before a closing parenthesis, the search stops there or
earlier. -/
theorem cutAtClosing_of_balances {context : Context} {depth : Nat} {other : List Char}
    (balances : Balances context depth other) (more : List Char) :
    ∃ front back, cutAtClosing context depth (other ++ ')' :: more) = some (front, back) ∧
      front <+: other := by
  induction other generalizing context depth with
  | nil =>
    obtain ⟨rfl, rfl⟩ := balances_nil_iff.mp balances
    exact ⟨[], more, rfl, List.prefix_rfl⟩
  | cons c other inductionHypothesis =>
    have further : ∀ {context depth}, Balances context depth other →
        ∃ front back, putBefore [c] (cutAtClosing context depth (other ++ ')' :: more)) =
          some (front, back) ∧ front <+: c :: other := by
      intro context depth balances
      obtain ⟨front, back, found, before⟩ := inductionHypothesis balances
      exact ⟨c :: front, back, by rw [found]; rfl, List.prefix_cons_inj c |>.mpr before⟩
    rw [List.cons_append, cutAtClosing_cons]
    split
    · rename_i opening
      obtain ⟨rfl, rfl⟩ := opening
      exact further (balances_opening_iff.mp balances)
    · rename_i noOpening
      split
      · rename_i closing
        obtain ⟨rfl, rfl⟩ := closing
        cases depth with
        | zero => exact ⟨[], _, rfl, List.nil_prefix⟩
        | succ depth => exact further (balances_closing_iff.mp balances)
      · rename_i noClosing
        exact further ((balances_other_iff noOpening noClosing).mp balances)

/-! ## The search by offsets -/

/-- With a parenthesis open, the search by offsets stops where the text is cut. Its count of
open parentheses is one more than that of the parentheses opened since. -/
theorem searchFrom_eq (context : Context) (offset depth : Nat) (text : List Char) :
    searchFrom context offset (depth + 1) text =
      match cutAtClosing context depth text with
      | some (front, _) => .found (offset + (encoded front).length)
      | none => .exhausted := by
  induction text generalizing context offset depth with
  | nil => rfl
  | cons c text inductionHypothesis =>
    have further : ∀ context depth, searchFrom context (offset + c.utf8Size) (depth + 1) text =
        match putBefore [c] (cutAtClosing context depth text) with
        | some (front, _) => .found (offset + (encoded front).length)
        | none => .exhausted := by
      intro context depth
      rw [inductionHypothesis]
      cases cutAtClosing context depth text with
      | none => rfl
      | some cut => simp [putBefore, Nat.add_assoc]
    rw [searchFrom.eq_def, cutAtClosing_cons]
    dsimp only
    split
    · exact further .code (depth + 1)
    · split
      · cases depth with
        | zero => rfl
        | succ depth => exact further .code depth
      · exact further _ depth

/-- A search that begins with a parenthesis goes on behind it with one open. -/
theorem findClosing_opening (rest : List Char) :
    findClosing ('(' :: rest) =
      match cutAtClosing .code 0 rest with
      | some (front, _) => .found (encoded ('(' :: front)).length
      | none => .exhausted := by
  have first : findClosing ('(' :: rest) = searchFrom .code 1 1 rest := rfl
  rw [first, searchFrom_eq]
  cases cutAtClosing .code 0 rest with
  | none => rfl
  | some cut =>
    simp
    rfl

/-- The first parenthesis of a text is closed at an offset if what stands before it is balanced
behind the first parenthesis. -/
theorem closesAt_opening_iff {rest : List Char} {offset : Nat} :
    ClosesAt ('(' :: rest) offset ↔
      ∃ front back, rest = front ++ ')' :: back ∧ offset = (encoded ('(' :: front)).length ∧
        Balances .code 0 front := by
  have balanced : ∀ code : List Char,
      (code ++ [')']).count ')' = (code ++ [')']).count '(' ↔
        code.count ')' + 1 = code.count '(' := by
    intro code
    simp
  constructor
  · rintro ⟨front, back, code, split, rfl, isCode, counted⟩
    rw [balanced] at counted
    cases isCode with
    | nil => simp at split
    | @plain c text code notQuote others =>
      obtain ⟨rfl, rfl⟩ := List.cons.inj split
      refine ⟨text, back, rfl, rfl, code, codeFrom_eq_some_iff.mpr others, ?_⟩
      simp at counted
      omega
    | literal inside others => simp at split
  · rintro ⟨front, back, rfl, rfl, code, isCode, counted⟩
    refine ⟨'(' :: front, back, '(' :: code, rfl, rfl,
      .plain (by decide) (codeFrom_eq_some_iff.mp isCode), ?_⟩
    rw [balanced]
    simp
    omega

/-- A search that begins with a parenthesis finds the least offset at which that is closed, or
nothing if it is closed nowhere. -/
theorem findClosing_cases (rest : List Char) :
    (cutAtClosing .code 0 rest = none ∧ findClosing ('(' :: rest) = .exhausted ∧
      ∀ offset, ¬ClosesAt ('(' :: rest) offset) ∨
    ∃ front back, cutAtClosing .code 0 rest = some (front, back) ∧
      findClosing ('(' :: rest) = .found (encoded ('(' :: front)).length ∧
      IsLeast {offset | ClosesAt ('(' :: rest) offset} (encoded ('(' :: front)).length := by
  have found := findClosing_opening rest
  -- Every offset that closes is at the place of the cut or behind it.
  have bound : ∀ offset, ClosesAt ('(' :: rest) offset → ∃ front back,
      cutAtClosing .code 0 rest = some (front, back) ∧
        (encoded ('(' :: front)).length ≤ offset := by
    intro offset closes
    obtain ⟨other, more, rfl, rfl, balances⟩ := closesAt_opening_iff.mp closes
    obtain ⟨front, back, cut, further, rfl⟩ := cutAtClosing_of_balances balances more
    exact ⟨front, back, cut, by simp⟩
  cases cut : cutAtClosing .code 0 rest with
  | none =>
    rw [cut] at found
    refine .inl ⟨rfl, found, fun offset closes => ?_⟩
    obtain ⟨front, back, other, _⟩ := bound offset closes
    rw [cut] at other
    cases other
  | some parts =>
    obtain ⟨front, back⟩ := parts
    rw [cut] at found
    refine .inr ⟨front, back, rfl, found, ?_, fun offset closes => ?_⟩
    · exact closesAt_opening_iff.mpr ⟨front, back, (cutAtClosing_append _ _ _ _ _ cut).symm, rfl,
        balances_of_cutAtClosing cut⟩
    · obtain ⟨other, more, same, before⟩ := bound offset closes
      obtain ⟨rfl, rfl⟩ := Prod.mk.inj (Option.some.inj (cut.symm.trans same))
      exact before

/-- **The parenthesis that closes a text.** A text begins with a parenthesis. The search finds
an offset exactly if it is the least one at which the text closes its parenthesis, and ends
without one exactly if there is none. Its count of open parentheses never goes below zero. It
finds what the text is cut at to get a payload. If a JSON text follows the parenthesis, and a
closing one behind it, then that is the one found, whatever comes later. -/
theorem findClosing_first_balanced (rest : List Char) :
    (∀ offset, (findClosing ('(' :: rest)).offset? = some offset ↔
      IsLeast {offset | ClosesAt ('(' :: rest) offset} offset) ∧
    ((findClosing ('(' :: rest)).offset? = none ↔
      ∀ offset, ¬ClosesAt ('(' :: rest) offset) ∧
    findClosing ('(' :: rest) ≠ .underflow ∧
    (findClosing ('(' :: rest)).offset? =
      (cutAtClosing .code 0 rest).map (fun (front, _) => (encoded ('(' :: front)).length) ∧
    ∀ json behind, Json.Derives .text json → rest = json ++ ')' :: behind →
      findClosing ('(' :: rest) = .found (encoded ('(' :: json)).length := by
  have derived : ∀ json behind, Json.Derives .text json → rest = json ++ ')' :: behind →
      findClosing ('(' :: rest) = .found (encoded ('(' :: json)).length := by
    rintro json behind isJson rfl
    rw [findClosing_opening, (Passed.of_lexed isJson.lexed).cutAtClosing behind]
  refine ⟨fun offset => ?_, ?_, ?_, ?_, derived⟩
  all_goals
    rcases findClosing_cases rest with ⟨cut, found, nowhere⟩ | ⟨front, back, cut, found, least⟩
    all_goals rw [found]
  · exact ⟨fun impossible => (nomatch impossible), fun least => absurd least.1 (nowhere offset)⟩
  · exact ⟨fun same => Option.some.inj same ▸ least,
      fun other => congrArg some (least.unique other)⟩
  · exact ⟨fun _ => nowhere, fun _ => rfl⟩
  · exact ⟨fun impossible => (nomatch impossible), fun nowhere => absurd least.1 (nowhere _)⟩
  · simp
  · simp
  · rw [cut]
    rfl
  · rw [cut]
    rfl

/-- A JSON text whose strings hold parentheses, a quote and a character of two bytes, with more
parentheses behind it. -/
theorem findClosing_first_balanced_note :
    let json := ['[', '"', '(', '\\', '"', ')', '"', ',', ' ', '"', 'é', ')', '"', ']']
    Json.Derives .text json ∧
      findClosing ('(' :: (json ++ ')' :: ['(', ')'])) = .found 16 := by
  intro json
  have none : [].all Json.isSpace = true := rfl
  have one : [' '].all Json.isSpace = true := rfl
  have first : Json.Derives .text ['"', '(', '\\', '"', ')', '"'] := by
    have body : Json.StringText ['(', '\\', '"', ')'] :=
      .plain (by decide) (by decide) (by decide) (.short (by decide)
        (.plain (by decide) (by decide) (by decide) .nil))
    exact .text none (.string body) none
  have second : Json.Derives .text [' ', '"', 'é', ')', '"'] := by
    have body : Json.StringText ['é', ')'] :=
      .plain (by decide) (by decide) (by decide)
        (.plain (by decide) (by decide) (by decide) .nil)
    exact .text one (.string body) none
  have derived : Json.Derives .text json :=
    .text none (.array (.items first (.item second))) none
  refine ⟨derived, ?_⟩
  rw [(findClosing_first_balanced _).2.2.2.2 json ['(', ')'] derived rfl]
  rfl

end ServiceWiring.DocBlock
