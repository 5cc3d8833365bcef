import ServiceWiring.Proofs.Class.DocComment
import ServiceWiring.Proofs.Text.LineEnds

/-!
# Declarations in a text with other line ends

Rewriting the line ends of a source text changes nothing about what it declares before the
body of the class: the same declaration is found, on the same line, with the same namespace
before it. The documentation block is the rewritten one.

A declaration and a namespace are read from one line by tests that know neither of the two
characters of a line end. The search for the documentation block goes backwards, over blanks
and whole lines; it does not see the difference either, since both characters are blank and
the last line of a text is never ended.
-/

namespace ServiceWiring.Source

open Text (crlf endLines isGap isNameStart isNameChar stripPrefix? trimStart trimEnd cutLine
  cutAtLast occurs)

/-! ## The line of a declaration -/

/-- Spaces and tabs are skipped alike. -/
theorem skipGap_crlf (text : List Char) : skipGap (crlf text) = crlf (skipGap text) :=
  Text.dropWhile_endLines rfl rfl text

/-- The first result of reading with some choices is changed when all of them are. -/
theorem findSome?_of_map {α β γ : Type} {choices : List α} {read : α → Option β}
    {other : α → Option γ} {change : β → γ}
    (each : ∀ choice ∈ choices, other choice = (read choice).map change) :
    choices.findSome? other = (choices.findSome? read).map change := by
  induction choices with
  | nil => rfl
  | cons choice choices inductionHypothesis =>
    rw [List.findSome?_cons, List.findSome?_cons, each choice List.mem_cons_self,
      inductionHypothesis fun choice member => each choice (List.mem_cons_of_mem _ member)]
    cases read choice <;> rfl

/-- A word has nothing to do with line ends. -/
def InLine (word : String) : Prop := '\n' ∉ word.toList ∧ '\r' ∉ word.toList

instance (word : String) : Decidable (InLine word) := inferInstanceAs (Decidable (_ ∧ _))

/-- A word with a gap behind it is found alike. -/
theorem afterWordGap?_crlf {word : String} (inLine : InLine word) (text : List Char) :
    afterWordGap? word (crlf text) = (afterWordGap? word text).map crlf := by
  have stripped : stripPrefix? word.toList (crlf text) =
      (stripPrefix? word.toList text).map crlf :=
    Text.stripPrefix?_endLines inLine.1 inLine.2 text
  rw [afterWordGap?, stripped, afterWordGap?]
  cases stripPrefix? word.toList text with
  | none => rfl
  | some rest =>
    cases rest with
    | nil => rfl
    | cons c rest =>
      by_cases isFeed : c = '\n'
      · subst isFeed
        rfl
      · simp only [Option.map_some, Text.crlf_cons isFeed, skipGap_crlf]
        split <;> rfl

/-- The modifiers of a declaration are passed alike. -/
theorem afterModifiers_crlf (text : List Char) :
    afterModifiers (crlf text) = crlf (afterModifiers text) := by
  have read : ∀ text, declarationModifiers.findSome? (fun word => afterWordGap? word (crlf text)) =
      (declarationModifiers.findSome? fun word => afterWordGap? word text).map crlf := by
    intro text
    have inLine : ∀ word ∈ declarationModifiers, InLine word := by decide
    exact findSome?_of_map fun word member => afterWordGap?_crlf (inLine word member) text
  fun_induction afterModifiers text with
  | case1 text none =>
    rw [afterModifiers]
    split
    · rfl
    · rename_i other
      rw [read, none] at other
      contradiction
  | case2 text rest found inductionHypothesis =>
    rw [afterModifiers]
    split <;> rename_i other <;> rw [read, found] at other <;> cases other
    exact inductionHypothesis

/-- A name is read alike, and what follows it is rewritten. -/
theorem name?_crlf (text : List Char) :
    name? (crlf text) = (name? text).map fun (name, rest) => (name, crlf rest) := by
  cases text with
  | nil => rfl
  | cons c text =>
    by_cases isFeed : c = '\n'
    · subst isFeed
      rfl
    · have taken : (crlf text).takeWhile isNameChar = text.takeWhile isNameChar :=
        Text.takeWhile_endLines rfl rfl text
      have left : (crlf text).dropWhile isNameChar = crlf (text.dropWhile isNameChar) :=
        Text.dropWhile_endLines rfl rfl text
      rw [Text.crlf_cons isFeed, name?, name?, taken, left]
      split <;> rfl

/-- The same declaration is found at the beginning of the rewritten text. -/
theorem declarationAt?_crlf (text : List Char) :
    declarationAt? (crlf text) =
      (declarationAt? text).map fun (declared, after) => (declared, crlf after) := by
  have inLine : ∀ choice ∈ ClassKind.names, InLine choice.1 := by decide
  rw [declarationAt?, skipGap_crlf, afterModifiers_crlf, declarationAt?]
  refine findSome?_of_map ?_
  rintro ⟨keyword, kind⟩ member
  simp only [afterWordGap?_crlf (inLine (keyword, kind) member)]
  cases afterWordGap? keyword (afterModifiers (skipGap text)) with
  | none => rfl
  | some rest =>
    simp only [Option.map_some, Option.bind_some, name?_crlf]
    cases name? rest <;> rfl

/-- The same namespace is found at the beginning of the rewritten text. -/
theorem namespaceAt?_crlf (text : List Char) : namespaceAt? (crlf text) = namespaceAt? text := by
  rw [namespaceAt?, skipGap_crlf, afterWordGap?_crlf (by decide), namespaceAt?]
  cases afterWordGap? "namespace" (skipGap text) with
  | none => rfl
  | some rest =>
    cases rest with
    | nil => rfl
    | cons c rest =>
      by_cases isFeed : c = '\n'
      · subst isFeed
        rfl
      · have taken : (crlf rest).takeWhile isNamespaceChar = rest.takeWhile isNamespaceChar :=
          Text.takeWhile_endLines rfl rfl rest
        have left : (crlf rest).dropWhile isNamespaceChar =
            crlf (rest.dropWhile isNamespaceChar) := Text.dropWhile_endLines rfl rfl rest
        simp only [Option.map_some, Text.crlf_cons isFeed, taken, left, skipGap_crlf]
        cases skipGap (rest.dropWhile isNamespaceChar) with
        | nil => rfl
        | cons mark others =>
          by_cases feedMark : mark = '\n'
          · subst feedMark
            rfl
          · rw [Text.crlf_cons feedMark]

/-- The same declaration is found in the rewritten text. -/
theorem declaration?_crlf (text : List Char) :
    declaration? (crlf text) =
      (declaration? text).map fun (before, declared, after) =>
        (crlf before, declared, crlf after) := by
  induction text using Text.text_induction with
  | last line oneLine =>
    have same : crlf line = line := Text.endLines_of_oneLine oneLine _
    have read := declarationAt?_crlf line
    cases found : declarationAt? line with
    | none =>
      rw [same, declaration?_of_undeclared_last oneLine found]
      rfl
    | some result =>
      rw [found] at read
      rw [declaration?_of_declared found, declaration?_of_declared read]
      rfl
  | ended line rest oneLine inductionHypothesis =>
    have returned : '\n' ∉ line ++ ['\r'] := by simp [oneLine]
    have read := declarationAt?_crlf (line ++ '\n' :: rest)
    cases found : declarationAt? (line ++ '\n' :: rest) with
    | none =>
      rw [found, Text.crlf_line oneLine] at read
      rw [Text.crlf_line oneLine, declaration?_of_undeclared returned read,
        declaration?_of_undeclared oneLine found, inductionHypothesis, Option.map_map,
        Option.map_map]
      congr 1
      funext (before, declared, after)
      simp only [Function.comp_apply, Text.crlf_line oneLine]
    | some result =>
      rw [found] at read
      rw [declaration?_of_declared found, declaration?_of_declared read]
      rfl

/-- The same namespace is found in the rewritten text. -/
theorem namespace?_crlf (text : List Char) :
    Source.namespace? (crlf text) = Source.namespace? text := by
  induction text using Text.text_induction with
  | last line oneLine => rw [crlf, Text.endLines_of_oneLine oneLine]
  | ended line rest oneLine inductionHypothesis =>
    have returned : '\n' ∉ line ++ ['\r'] := by simp [oneLine]
    have read := namespaceAt?_crlf (line ++ '\n' :: rest)
    cases found : namespaceAt? (line ++ '\n' :: rest) with
    | none =>
      rw [found, Text.crlf_line oneLine] at read
      rw [Text.crlf_line oneLine, namespace?_of_undeclared returned read, inductionHypothesis]
      exact (namespace?_of_undeclared oneLine found).symm
    | some name =>
      rw [found] at read
      rw [namespace?_of_declared found, namespace?_of_declared read]

/-! ## The documentation block -/

/-- The last line is not ended, so it stays as it is. -/
theorem cutLastLine_crlf (text : List Char) :
    cutLastLine (crlf text) = (crlf (cutLastLine text).1, (cutLastLine text).2) := by
  simp only [cutLastLine, Text.reverse_crlf]
  have taken : (endLines ['\n', '\r'] text.reverse).takeWhile (· != '\n') =
      text.reverse.takeWhile (· != '\n') := Text.takeWhile_endLines rfl rfl _
  have left : (endLines ['\n', '\r'] text.reverse).dropWhile (· != '\n') =
      endLines ['\n', '\r'] (text.reverse.dropWhile (· != '\n')) :=
    Text.dropWhile_endLines rfl rfl _
  rw [taken, left, Text.reverse_endLines]
  rfl

/-- The same attribute lines are left out. -/
theorem dropAttributeLines_crlf (text : List Char) :
    dropAttributeLines (crlf text) = crlf (dropAttributeLines text) := by
  fun_induction dropAttributeLines text with
  | case1 text trimmed group inductionHypothesis =>
    rw [dropAttributeLines]
    simp only [Text.trimEnd_crlf, cutLastLine_crlf]
    rw [dif_pos group]
    exact inductionHypothesis
  | case2 text trimmed noGroup =>
    rw [dropAttributeLines]
    simp only [Text.trimEnd_crlf, cutLastLine_crlf]
    rw [dif_neg noGroup]

/-- A text from the opening mark to an end mark is a block if the rewritten text is one. -/
theorem isBlock_crlf {before rest : List Char}
    (closed : ['*', '/'] <:+ before ++ '/' :: '*' :: '*' :: rest) :
    isBlock (crlf ('/' :: '*' :: '*' :: rest)) = isBlock ('/' :: '*' :: '*' :: rest) := by
  have opened : crlf ('/' :: '*' :: '*' :: rest) = '/' :: '*' :: '*' :: crlf rest := rfl
  rw [opened]
  rcases closed_cases closed with rfl | ⟨inside, rfl⟩
  · rfl
  · have rewritten : crlf (inside ++ ['*', '/']) = crlf inside ++ ['*', '/'] :=
      Text.endLines_append _ _ _
    rw [rewritten, isBlock_marked, isBlock_marked, Text.occurs_crlf (by decide) (by decide)]

/-- The documentation block is found where it was, and is the rewritten one. -/
theorem docComment?_crlf (before : List Char) :
    docComment? (crlf before) = (docComment? before).map crlf := by
  rw [docComment?_eq, docComment?_eq, dropAttributeLines_crlf, Text.isSuffixOf_crlf (by decide),
    Text.cutAtLast_crlf (by decide) (by decide) (by decide)]
  cases closed : ['*', '/'].isSuffixOf (dropAttributeLines before) with
  | false => rfl
  | true =>
    cases cut : cutAtLast ['/', '*', '*'] (dropAttributeLines before) with
    | none => rfl
    | some parts =>
      obtain ⟨front, block⟩ := parts
      obtain ⟨whole, rest, rfl⟩ := cutAtLast_eq_some cut
      rw [List.isSuffixOf_iff_suffix, whole] at closed
      have same : isBlock (crlf (['/', '*', '*'] ++ rest)) = isBlock (['/', '*', '*'] ++ rest) :=
        isBlock_crlf closed
      simp only [if_true, Option.map_some, Option.filter, same]
      split <;> rfl

/-! ## Where the block stands -/

/-- What is left without the attribute lines at the end is part of the text. -/
theorem dropAttributeLines_subset (text : List Char) : dropAttributeLines text ⊆ text := by
  fun_induction dropAttributeLines text with
  | case1 =>
    rename_i text trimmed group inductionHypothesis
    intro c member
    apply Text.trimEnd_subset text
    rw [← cutLastLine_append (trimEnd text)]
    exact List.mem_append_left _ (inductionHypothesis member)
  | case2 text => exact Text.trimEnd_subset text

/-- A documentation block is part of the text before the declaration. -/
theorem docComment?_subset {before block : List Char} (found : docComment? before = some block) :
    block ⊆ before := by
  rw [docComment?_eq] at found
  split at found
  · obtain ⟨cut, -⟩ := Option.filter_eq_some_iff.mp found
    obtain ⟨⟨front, after⟩, parts, rfl⟩ := Option.map_eq_some_iff.mp cut
    intro c member
    apply dropAttributeLines_subset before
    rw [(cutAtLast_eq_some parts).1]
    exact List.mem_append_right _ member
  · contradiction

/-- The text before a declaration is part of the whole text. -/
theorem declaration?_subset {text before : List Char} {result : Declared × List Char}
    (found : declaration? text = some (before, result)) : before ⊆ text := by
  obtain ⟨lines, rest, -, rfl, rfl, -⟩ := declaration?_eq_some found
  exact List.subset_append_left _ _

end ServiceWiring.Source
