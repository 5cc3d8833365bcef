import ServiceWiring.Class.Method

/-!
# Declarations in a source text

A class-like declaration stands at the beginning of a line: optional modifiers, a
keyword and a name, with spaces or tabs between them. The first such line of a
source text counts, wherever it stands. The text before that line is searched for
the first namespace declaration, and the documentation block is the comment right
before the line, from which it may be parted by blanks and by attribute lines only.
-/

namespace ServiceWiring.Source

open Text (isGap isNameStart isNameChar stripPrefix? cutLine trimStart trimEnd cutAtLast occurs)

/-- The text from its first character that is neither space nor tab. -/
def skipGap (text : List Char) : List Char := text.dropWhile isGap

/-- Skipping a gap makes no text longer. -/
theorem skipGap_le (text : List Char) : (skipGap text).length ≤ text.length :=
  (List.dropWhile_suffix (l := text) isGap).length_le

/-- The text after a word and the gap behind it, which must not be empty. -/
def afterWordGap? (word : String) (text : List Char) : Option (List Char) :=
  match stripPrefix? word.toList text with
  | some (c :: rest) => if isGap c then some (skipGap rest) else none
  | _ => none

/-- A word with its gap takes at least one character. -/
theorem afterWordGap?_lt {word : String} {text rest : List Char}
    (found : afterWordGap? word text = some rest) : rest.length < text.length := by
  unfold afterWordGap? at found
  split at found
  · rename_i c tail split
    split at found
    · have skipped := skipGap_le tail
      rw [Text.stripPrefix?_eq_some_iff] at split
      simp only [Option.some.injEq] at found
      subst found
      rw [split, List.length_append, List.length_cons]
      omega
    · simp at found
  · simp at found

/-- The words that may stand before the keyword of a declaration. -/
def declarationModifiers : List String := ["abstract", "final", "readonly"]

/-- The text after the modifiers that it starts with. -/
def afterModifiers (text : List Char) : List Char :=
  match _found : declarationModifiers.findSome? fun word => afterWordGap? word text with
  | none => text
  | some rest => afterModifiers rest
termination_by text.length
decreasing_by
  rw [List.findSome?_eq_some_iff] at _found
  obtain ⟨_, _, _, _, found, _⟩ := _found
  exact afterWordGap?_lt found

/-- What a declaration says: the kind and the short name of the class. -/
structure Declared where
  kind : ClassKind
  name : List Char
deriving DecidableEq, Repr

/-- The declaration at the beginning of a line, and the text after its name. -/
def declarationAt? (text : List Char) : Option (Declared × List Char) :=
  let text := afterModifiers (skipGap text)
  ClassKind.names.findSome? fun (keyword, kind) =>
    match (afterWordGap? keyword text).bind name? with
    | some (name, rest) => some (⟨kind, name⟩, rest)
    | none => none

/-- The first declaration of a source text, with the text before its line and the
text after its name. -/
def declaration? (text : List Char) : Option (List Char × Declared × List Char) :=
  match declarationAt? text with
  | some (declared, after) => some ([], declared, after)
  | none =>
    match _found : (cutLine text).2 with
    | none => none
    | some rest =>
      (declaration? rest).map fun (before, found) =>
        ((cutLine text).1 ++ '\n' :: before, found)
termination_by text.length
decreasing_by exact Text.cutLine_shorter _ _ _found

/-- The characters of a namespace name. -/
def isNamespaceChar (c : Char) : Bool := isNameChar c || c == '\\'

/-- The namespace declared at the beginning of a line. -/
def namespaceAt? (text : List Char) : Option (List Char) :=
  match afterWordGap? "namespace" (skipGap text) with
  | some (c :: rest) =>
    if isNameStart c then
      match skipGap (rest.dropWhile isNamespaceChar) with
      | mark :: _ =>
        if mark = ';' ∨ mark = '\x7b' then some (c :: rest.takeWhile isNamespaceChar) else none
      | [] => none
    else none
  | _ => none

/-- The first namespace declared in a source text. -/
def namespace? (text : List Char) : Option (List Char) :=
  match namespaceAt? text with
  | some name => some name
  | none =>
    match _found : (cutLine text).2 with
    | none => none
    | some rest => namespace? rest
termination_by text.length
decreasing_by exact Text.cutLine_shorter _ _ _found

/-- The last line of a text, and what stands before it. -/
def cutLastLine (text : List Char) : List Char × List Char :=
  ((text.reverse.dropWhile (· != '\n')).reverse, (text.reverse.takeWhile (· != '\n')).reverse)

/-- The last line and what stands before it make up the text. -/
theorem cutLastLine_append (text : List Char) :
    (cutLastLine text).1 ++ (cutLastLine text).2 = text := by
  simp only [cutLastLine]
  rw [← List.reverse_append, List.takeWhile_append_dropWhile, List.reverse_reverse]

/-- Trimming makes no text longer. -/
theorem trimEnd_le (text : List Char) : (trimEnd text).length ≤ text.length := by
  have := trimStart_le text.reverse
  simp only [trimStart, List.length_reverse] at this
  simpa [trimEnd] using this

/-- Whether a line holds an attribute group. -/
def isAttributeLine (line : List Char) : Bool := ['#', '['].isPrefixOf (trimStart line)

/-- The text without the blanks and the attribute lines at its end. -/
def dropAttributeLines (text : List Char) : List Char :=
  let trimmed := trimEnd text
  if _attribute : isAttributeLine (cutLastLine trimmed).2 then
    dropAttributeLines (cutLastLine trimmed).1
  else trimmed
termination_by text.length
decreasing_by
  have trimmedLe := trimEnd_le text
  have parts := congrArg List.length (cutLastLine_append (trimEnd text))
  have blank := trimStart_le (cutLastLine (trimEnd text)).2
  have nonempty : trimStart (cutLastLine (trimEnd text)).2 ≠ [] := by
    intro nothing
    simp [isAttributeLine, trimmed, nothing] at _attribute
  have positive := List.length_pos_iff.mpr nonempty
  rw [List.length_append] at parts
  omega

/-- The documentation block at the end of a text, attribute lines apart. The block
is the comment that the last end mark closes. -/
def docComment? (before : List Char) : Option (List Char) :=
  let text := dropAttributeLines before
  if !(['*', '/'].isSuffixOf text) then none
  else
    match cutAtLast ['/', '*', '*'] text with
    | none => none
    | some (_, block) =>
      if block.length < 5 || occurs ['*', '/'] ((block.drop 3).dropLast.dropLast) then none
      else some block

end ServiceWiring.Source
