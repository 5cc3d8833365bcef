import ServiceWiring.Class.Definition
import ServiceWiring.Text.Blank
import ServiceWiring.Text.Split
import ServiceWiring.Text.Word

/-!
# Method declarations

A method is declared by modifiers in any order and number, the word `function`,
an optional `&`, its name and an opening parenthesis. Blanks separate the words
and may surround the mark and the name. A declaration starts where a word starts.

The strictest visibility among the modifiers counts; without one the method is
public.
-/

namespace ServiceWiring.Source

open Text (isBlank isWordChar isNameStart isNameChar stripPrefix? trimStart)

/-- The words that may stand before `function`. -/
def modifierWords : List String :=
  ["public", "protected", "private", "static", "final", "abstract"]

/-- The text after a word and the blanks behind it, of which there must be one. -/
def afterWord? (word : String) (text : List Char) : Option (List Char) :=
  match stripPrefix? word.toList text with
  | some (c :: rest) => if isBlank c then some (trimStart rest) else none
  | _ => none

/-- The modifier that a text starts with, and the text behind it. -/
def modifier? (text : List Char) : Option (String × List Char) :=
  modifierWords.findSome? fun word => (afterWord? word text).map fun rest => (word, rest)

/-- Trimming makes no text longer. -/
theorem trimStart_le (text : List Char) : (trimStart text).length ≤ text.length := by
  induction text with
  | nil => simp [trimStart]
  | cons c rest inductionHypothesis =>
    simp only [trimStart, List.dropWhile_cons] at inductionHypothesis ⊢
    split
    · simp only [List.length_cons]; omega
    · simp

/-- A word with its blank takes at least one character. -/
theorem afterWord?_lt {word : String} {text rest : List Char}
    (found : afterWord? word text = some rest) : rest.length < text.length := by
  unfold afterWord? at found
  split at found
  · rename_i c tail split
    split at found
    · have trimmed := trimStart_le tail
      rw [Text.stripPrefix?_eq_some_iff] at split
      simp only [Option.some.injEq] at found
      subst found
      rw [split, List.length_append, List.length_cons]
      omega
    · simp at found
  · simp at found

/-- A modifier takes at least one character. -/
theorem modifier?_lt {text rest : List Char} {word : String}
    (found : modifier? text = some (word, rest)) : rest.length < text.length := by
  unfold modifier? at found
  rw [List.findSome?_eq_some_iff] at found
  obtain ⟨_, candidate, _, _, match?, _⟩ := found
  simp only [Option.map_eq_some_iff, Prod.mk.injEq] at match?
  obtain ⟨after, wordFound, _, rfl⟩ := match?
  exact afterWord?_lt wordFound

/-- The modifiers that a text starts with, and the text behind them. -/
def modifiers (text : List Char) : List String × List Char :=
  match _found : modifier? text with
  | none => ([], text)
  | some (word, rest) => (word :: (modifiers rest).1, (modifiers rest).2)
termination_by text.length
decreasing_by all_goals exact modifier?_lt _found

/-- The name that a text starts with, and the text behind it. -/
def name? : List Char → Option (List Char × List Char)
  | [] => none
  | c :: rest =>
    if isNameStart c then some (c :: rest.takeWhile isNameChar, rest.dropWhile isNameChar)
    else none

/-- Modifiers make no text longer. -/
theorem modifiers_le (text : List Char) : (modifiers text).2.length ≤ text.length := by
  fun_induction modifiers text with
  | case1 => simp
  | case2 text word rest found inductionHypothesis =>
    have := modifier?_lt found
    simp only
    omega

/-- A name takes at least one character. -/
theorem name?_lt {text name rest : List Char} (found : name? text = some (name, rest)) :
    rest.length < text.length := by
  cases text with
  | nil => simp [name?] at found
  | cons c tail =>
    simp only [name?] at found
    split at found
    · simp only [Option.some.injEq, Prod.mk.injEq] at found
      obtain ⟨_, rfl⟩ := found
      have := (List.dropWhile_suffix (l := tail) isNameChar).length_le
      simp only [List.length_cons]
      omega
    · simp at found

/-- The text after an optional mark and blanks. -/
def afterAmpersand : List Char → List Char
  | '&' :: rest => trimStart rest
  | text => text

/-- A declaration at the beginning of a text: its modifiers, the name of the
method, and the text after the opening parenthesis. -/
def methodAt? (text : List Char) : Option (List String × List Char × List Char) :=
  match afterWord? "function" (modifiers text).2 with
  | none => none
  | some afterFunction =>
    match name? (afterAmpersand afterFunction) with
    | none => none
    | some (name, afterName) =>
      match trimStart afterName with
      | '(' :: rest => some ((modifiers text).1, name, rest)
      | _ => none

/-- A declaration takes at least one character. -/
theorem methodAt?_lt {text rest name : List Char} {words : List String}
    (found : methodAt? text = some (words, name, rest)) : rest.length < text.length := by
  unfold methodAt? at found
  split at found
  · simp at found
  · rename_i afterFunction wordFound
    split at found
    · simp at found
    · rename_i declared afterName nameFound
      split at found
      · rename_i tail opened
        simp only [Option.some.injEq, Prod.mk.injEq] at found
        obtain ⟨_, _, rfl⟩ := found
        have blanks := trimStart_le afterName
        rw [opened, List.length_cons] at blanks
        have named := name?_lt nameFound
        have marked : (afterAmpersand afterFunction).length ≤ afterFunction.length := by
          unfold afterAmpersand
          split
          · have := trimStart_le ‹List Char›
            simp only [List.length_cons]
            omega
          · simp
        have word := afterWord?_lt wordFound
        have before := modifiers_le text
        omega
      · simp at found

/-- The strictest visibility among some modifiers. -/
def visibilityOf (words : List String) : Visibility :=
  if words.contains "private" then .privateAccess
  else if words.contains "protected" then .protectedAccess
  else .publicAccess

/-- The role of a method by its name, in upper or lower case. -/
def roleOf (name : List Char) : MethodRole :=
  let lowered := String.ofList (Text.lowerAscii name)
  if lowered = "__construct" then .constructorRole
  else if lowered = "__destruct" then .destructorRole
  else .regular

/-- The methods declared in a text. `inWord` tells whether the text continues a
word, in which case no declaration starts at its first character. -/
def methodsFrom (inWord : Bool) (text : List Char) : List MethodSignature :=
  match text with
  | [] => []
  | c :: rest =>
    if inWord then methodsFrom (isWordChar c) rest
    else
      match _found : methodAt? (c :: rest) with
      | some (words, name, after) =>
        ⟨String.ofList name, visibilityOf words, roleOf name⟩ :: methodsFrom false after
      | none => methodsFrom (isWordChar c) rest
termination_by text.length
decreasing_by
  · simp
  · exact methodAt?_lt _found
  · simp

/-- The methods declared in the first-level text of a class body. -/
def methods (text : List Char) : List MethodSignature := methodsFrom false text

end ServiceWiring.Source
