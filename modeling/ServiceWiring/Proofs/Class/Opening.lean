import ServiceWiring.Class.Declaration
import ServiceWiring.Proofs.Class.Body
import ServiceWiring.Proofs.Text.LineEnds

/-!
# The lines before a class

What it means that a line of source text reads as a declaration of a class or of a
namespace, said by the words in it, and the lines that declare the class and the
namespace themselves, with all the spacing that they may have.

The main statements are that lines that read as neither are passed over in the search for
the class and for the namespace, whatever follows them, and that the lines which declare
them are found with exactly what they declare. A line whose first character is no letter
reads as neither.
-/

namespace ServiceWiring.Source

open Text (isGap isBlank isNameStart isNameChar cutLine cutLine_line stripPrefix? afterPart?
  exists_left_of_lacks exists_span dropWhile_append_mark dropWhile_append_of_all
  dropWhile_of_head takeWhile_append_of_head)

/-- Spaces and tabs, of which there is at least one. -/
structure Spaces where
  first : Char
  others : List Char
  gap : isGap first = true
  allGap : others.all isGap = true

/-- The spaces as they are written. -/
def Spaces.text (spaces : Spaces) : List Char := spaces.first :: spaces.others

/-- Whether a text starts with the words of a declaration: perhaps modifiers, a keyword and
the beginning of a name, with spaces between them. -/
inductive Declares : List Char → Prop
  | keyword {keyword : String} (listed : keyword ∈ ["class", "interface", "trait", "enum"])
      (spaces : Spaces) {c : Char} (starts : isNameStart c = true) (rest : List Char) :
      Declares (keyword.toList ++ (spaces.text ++ c :: rest))
  | modifier {word : String} (listed : word ∈ ["abstract", "final", "readonly"])
      (spaces : Spaces) {rest : List Char} (declares : Declares rest) :
      Declares (word.toList ++ (spaces.text ++ rest))

/-- Whether a line declares a class or something like it behind its indentation. -/
def ReadsAsDeclaration (line : List Char) : Prop :=
  ∃ indent rest, line = indent ++ rest ∧ indent.all isGap = true ∧ Declares rest

/-- Whether a line declares a namespace behind its indentation. -/
def ReadsAsNamespace (line : List Char) : Prop :=
  ∃ (indent : List Char) (spaces : Spaces) (c : Char) (others gap : List Char) (mark : Char)
    (rest : List Char),
    line = indent ++ ("namespace".toList ++ (spaces.text ++
      c :: (others ++ (gap ++ mark :: rest)))) ∧
      indent.all isGap = true ∧ isNameStart c = true ∧ others.all isNamespaceChar = true ∧
      gap.all isGap = true ∧ (mark = ';' ∨ mark = '\x7b')

/-- Whether a line declares the namespace of the given name behind its indentation. -/
def NamesNamespace (line name : List Char) : Prop :=
  ∃ (indent : List Char) (spaces : Spaces) (c : Char) (others gap : List Char) (mark : Char)
    (rest : List Char),
    line = indent ++ ("namespace".toList ++ (spaces.text ++
      c :: (others ++ (gap ++ mark :: rest)))) ∧
      indent.all isGap = true ∧ isNameStart c = true ∧ others.all isNamespaceChar = true ∧
      gap.all isGap = true ∧ (mark = ';' ∨ mark = '\x7b') ∧ name = c :: others

/-- The words that may stand before the keyword of a class. -/
inductive ClassModifier
  | abstract
  | final
  | readonly

/-- The word for the modifier. -/
def ClassModifier.word : ClassModifier → String
  | abstract => "abstract"
  | final => "final"
  | readonly => "readonly"

/-- The beginning of the line that declares a class, up to its name. -/
structure ClassLine where
  indent : List Char
  modifiers : List (ClassModifier × Spaces)
  kind : ClassKind
  spaces : Spaces
  name : Name
  indented : indent.all isGap = true

namespace ClassLine

variable (line : ClassLine)

/-- The modifiers with the spaces behind them. -/
def modifierText : List Char :=
  line.modifiers.flatMap fun modifier => modifier.1.word.toList ++ modifier.2.text

/-- The line up to the name of the class. -/
def text : List Char :=
  line.indent ++ (line.modifierText ++
    (line.kind.name.toList ++ (line.spaces.text ++ line.name.text)))

end ClassLine

/-- A line that declares a namespace. Anything may follow the semicolon in the line. -/
structure NamespaceLine where
  indent : List Char
  spaces : Spaces
  first : Char
  others : List Char
  gap : List Char
  rest : List Char
  indented : indent.all isGap = true
  starts : isNameStart first = true
  goesOn : others.all isNamespaceChar = true
  allGap : gap.all isGap = true
  oneLine : '\n' ∉ rest

namespace NamespaceLine

variable (line : NamespaceLine)

/-- The declared namespace. -/
def name : List Char := line.first :: line.others

/-- The whole line. -/
def text : List Char :=
  line.indent ++ ("namespace".toList ++ (line.spaces.text ++
    (line.name ++ (line.gap ++ ';' :: line.rest))))

end NamespaceLine

/-! ## Words and the spaces behind them -/

/-- A word is read with the spaces behind it. -/
theorem afterWordGap?_eq (word : String) (text : List Char) :
    afterWordGap? word text = afterPart? isGap word.toList text := rfl

/-- The words of declarations. -/
def declarationWords : List String :=
  ["abstract", "final", "readonly", "class", "interface", "trait", "enum", "namespace"]

/-- The characters of the words of declarations are characters of names. -/
theorem all_isNameChar_of_mem_declarationWords {word : String}
    (member : word ∈ declarationWords) : word.toList.all isNameChar = true := by
  have all : ∀ word ∈ declarationWords, word.toList.all isNameChar = true := by decide
  exact all word member

/-- Spaces are no characters of names. -/
theorem isNameChar_of_isGap {c : Char} (gap : isGap c = true) : isNameChar c = false :=
  Text.isNameChar_of_isBlank (Text.isBlank_of_isGap gap)

/-- Spaces do not end a line. -/
theorem Spaces.not_mem_text (spaces : Spaces) : '\n' ∉ spaces.text := by
  have noGap : isGap '\n' = false := by decide
  have all : spaces.text.all isGap = true := by
    rw [Spaces.text, List.all_cons, spaces.gap, spaces.allGap]
    rfl
  exact Text.not_mem_of_all noGap all

/-- A word with spaces behind it is read. -/
theorem afterWordGap?_word (word : String) (spaces : Spaces) (rest : List Char) :
    afterWordGap? word (word.toList ++ (spaces.text ++ rest)) = some (skipGap rest) := by
  rw [afterWordGap?_eq, Spaces.text, List.cons_append, Text.afterPart?_part spaces.gap,
    dropWhile_append_of_all spaces.allGap, skipGap]

/-- A word that is read before the end of a line ends before it. -/
theorem afterWordGap?_before_end {word : String} (member : word ∈ declarationWords)
    {line following rest : List Char}
    (found : afterWordGap? word (line ++ '\n' :: following) = some rest) :
    ∃ (spaces : Spaces) (left : List Char), line = word.toList ++ (spaces.text ++ left) ∧
      rest = left ++ '\n' :: following := by
  have lacks : '\n' ∉ word.toList := by
    intro inside
    have name := List.all_eq_true.mp (all_isNameChar_of_mem_declarationWords member) _ inside
    exact absurd name (by decide)
  rw [afterWordGap?_eq] at found
  obtain ⟨c, others, left, split, gap, all, restSplit⟩ :=
    Text.afterPart?_before_mark lacks (by decide) found
  exact ⟨⟨c, others, gap, all⟩, left, by simp [split, Spaces.text], restSplit⟩

/-- At most one word is read at the beginning of a text. -/
theorem afterWordGap?_unique {word other : String} (member : word ∈ declarationWords)
    (otherMember : other ∈ declarationWords) {text rest otherRest : List Char}
    (found : afterWordGap? word text = some rest)
    (otherFound : afterWordGap? other text = some otherRest) : word = other := by
  rw [afterWordGap?_eq] at found otherFound
  exact String.toList_injective (Text.afterPart?_unique (fun _ => isNameChar_of_isGap)
    (all_isNameChar_of_mem_declarationWords member)
    (all_isNameChar_of_mem_declarationWords otherMember) found otherFound)

/-! ## Lines that declare no class -/

/-- Modifiers that are read in a line end before its end, and a line declares something if
what they leave of it does. -/
theorem afterModifiers_before_end (line following : List Char) :
    ∃ left, afterModifiers (line ++ '\n' :: following) = left ++ '\n' :: following ∧
      (Declares left → Declares line) := by
  generalize whole : line ++ '\n' :: following = input
  fun_induction afterModifiers input generalizing line with
  | case1 => exact ⟨line, whole.symm, id⟩
  | case2 input rest found inductionHypothesis =>
    subst whole
    obtain ⟨word, listed, read⟩ := List.exists_of_findSome?_eq_some found
    have member : word ∈ declarationWords := List.mem_append_left _ listed
    obtain ⟨spaces, left, rfl, rfl⟩ := afterWordGap?_before_end member read
    obtain ⟨remainder, modified, declares⟩ := inductionHypothesis left rfl
    exact ⟨remainder, modified, fun declared => .modifier listed spaces (declares declared)⟩

/-- In a line that does not read as a declaration, none is found. -/
theorem declarationAt?_of_not_reads {line : List Char} (silent : ¬ReadsAsDeclaration line)
    (following : List Char) : declarationAt? (line ++ '\n' :: following) = none := by
  obtain ⟨indent, indented, split, -⟩ := exists_span isGap line
  have skipped : skipGap (line ++ '\n' :: following) =
      line.dropWhile isGap ++ '\n' :: following := by
    rw [skipGap, dropWhile_append_mark (by decide)]
  obtain ⟨left, modified, declares⟩ :=
    afterModifiers_before_end (line.dropWhile isGap) following
  have undeclared : ¬Declares left := fun declared =>
    silent ⟨indent, _, split, indented, declares declared⟩
  rw [declarationAt?, skipped, modified, List.findSome?_eq_none_iff]
  rintro ⟨keyword, kind⟩ listed
  have keywords : ∀ pair ∈ ClassKind.names, pair.1 ∈ ["class", "interface", "trait", "enum"] := by
    decide
  have listed := keywords _ listed
  dsimp only at listed
  have among : ∀ keyword ∈ ["class", "interface", "trait", "enum"],
      keyword ∈ declarationWords := by
    decide
  have member := among keyword listed
  have unread : (afterWordGap? keyword (left ++ '\n' :: following)).bind name? = none := by
    cases read : afterWordGap? keyword (left ++ '\n' :: following) with
    | none => rfl
    | some rest =>
      obtain ⟨spaces, named, rfl, rfl⟩ := afterWordGap?_before_end member read
      cases named with
      | nil =>
        have noStart : isNameStart '\n' = false := by decide
        simp [name?, noStart]
      | cons c rest =>
        cases start : isNameStart c with
        | false => simp [name?, start]
        | true => exact absurd (Declares.keyword listed spaces start rest) undeclared
  simp only [unread]

/-! ## Lines that declare something -/

/-- No spaces are left out before text that starts like a name. -/
theorem skipGap_of_starts {text : List Char} (starts : text.head?.any isNameStart = true) :
    skipGap text = text :=
  Text.dropWhile_of_starts
    (fun _ gap => Text.isNameStart_of_isBlank (Text.isBlank_of_isGap gap)) starts

/-- The words of declarations start with a letter. -/
theorem starts_word {word : String} (member : word ∈ declarationWords) (rest : List Char) :
    (word.toList ++ rest).head?.any isNameStart = true := by
  have all : ∀ word ∈ declarationWords, word.toList.head?.any isNameStart = true := by
    decide
  exact Text.starts_append (all word member) rest

/-- No spaces are left out before a word of a declaration. -/
theorem skipGap_word {word : String} (member : word ∈ declarationWords) (rest : List Char) :
    skipGap (word.toList ++ rest) = word.toList ++ rest :=
  skipGap_of_starts (starts_word member rest)

/-- What follows the indentation of a line with a word of a declaration is that word. -/
theorem skipGap_indented {indent : List Char} (indented : indent.all isGap = true)
    {word : String} (member : word ∈ declarationWords) (rest : List Char) :
    skipGap (indent ++ (word.toList ++ rest)) = word.toList ++ rest := by
  rw [skipGap, dropWhile_append_of_all indented]
  exact skipGap_word member rest

/-- Of some words, the one that a text starts with is read. -/
theorem afterWordGap?_of_ne {word other : String} (member : word ∈ declarationWords)
    (otherMember : other ∈ declarationWords) (different : other ≠ word) (spaces : Spaces)
    (rest : List Char) : afterWordGap? other (word.toList ++ (spaces.text ++ rest)) = none := by
  apply Option.eq_none_iff_forall_ne_some.mpr
  intro otherRest found
  exact different
    (afterWordGap?_unique otherMember member found (afterWordGap?_word word spaces rest))

/-- Modifiers are read one after the other. -/
theorem afterModifiers_word (modifier : ClassModifier) (spaces : Spaces) (rest : List Char) :
    afterModifiers (modifier.word.toList ++ (spaces.text ++ rest)) =
      afterModifiers (skipGap rest) := by
  have listed : modifier.word ∈ declarationModifiers := by
    cases modifier <;> decide
  have member : modifier.word ∈ declarationWords := List.mem_append_left _ listed
  have own := afterWordGap?_word modifier.word spaces rest
  have first : (declarationModifiers.findSome? fun word => afterWordGap? word
      (modifier.word.toList ++ (spaces.text ++ rest))) = some (skipGap rest) := by
    refine Text.findSome?_of_unique listed own fun other otherListed value read => ?_
    obtain rfl := afterWordGap?_unique (List.mem_append_left _ otherListed) member read own
    rw [own, Option.some.injEq] at read
    rw [read]
  rw [afterModifiers]
  split <;> rename_i found <;> rw [first] at found <;> cases found
  rfl

/-- The keyword of a declaration is no modifier. -/
theorem afterModifiers_keyword (kind : ClassKind) (spaces : Spaces) (rest : List Char) :
    afterModifiers (kind.name.toList ++ (spaces.text ++ rest)) =
      kind.name.toList ++ (spaces.text ++ rest) := by
  have member : kind.name ∈ declarationWords := by
    cases kind <;> decide
  have unmodified : (declarationModifiers.findSome? fun word =>
      afterWordGap? word (kind.name.toList ++ (spaces.text ++ rest))) = none := by
    rw [List.findSome?_eq_none_iff]
    intro word listed
    have different : word ≠ kind.name := by
      rintro rfl
      cases kind <;> exact absurd listed (by decide)
    exact afterWordGap?_of_ne member (List.mem_append_left _ listed) different spaces rest
  rw [afterModifiers]
  split <;> rename_i found
  · rfl
  · rw [unmodified] at found
    exact absurd found (by simp)

namespace ClassLine

variable (line : ClassLine)

/-- The modifiers of a class are all read. -/
theorem afterModifiers_modifierText (rest : List Char) :
    afterModifiers (skipGap (line.modifierText ++
      (line.kind.name.toList ++ (line.spaces.text ++ rest)))) =
        line.kind.name.toList ++ (line.spaces.text ++ rest) := by
  rw [modifierText]
  induction line.modifiers with
  | nil =>
    have member : line.kind.name ∈ declarationWords := by
      cases line.kind <;> decide
    rw [List.flatMap_nil, List.nil_append, skipGap_word member, afterModifiers_keyword]
  | cons modifier others inductionHypothesis =>
    obtain ⟨modifier, spaces⟩ := modifier
    have member : modifier.word ∈ declarationWords := by
      cases modifier <;> decide
    rw [List.flatMap_cons, List.append_assoc, List.append_assoc, skipGap_word member,
      afterModifiers_word, inductionHypothesis]

/-- The line that declares a class is found, with the kind and the name of the class. -/
theorem declarationAt?_text {rest : List Char} (ended : ∀ c ∈ rest.head?, isNameChar c = false) :
    declarationAt? (line.text ++ rest) = some (⟨line.kind, line.name.text⟩, rest) := by
  have indented : skipGap (line.text ++ rest) = skipGap (line.modifierText ++
      (line.kind.name.toList ++ (line.spaces.text ++ (line.name.text ++ rest)))) := by
    simp only [text, List.append_assoc]
    exact dropWhile_append_of_all line.indented _
  have member : line.kind.name ∈ declarationWords := by
    cases line.kind <;> decide
  have named : skipGap (line.name.text ++ rest) = line.name.text ++ rest :=
    skipGap_of_starts line.name.starts
  have own := afterWordGap?_word line.kind.name line.spaces (line.name.text ++ rest)
  rw [named] at own
  have listed : (line.kind.name, line.kind) ∈ ClassKind.names := by
    cases line.kind <;> decide
  have sameKind : ∀ keyword kind, (keyword, kind) ∈ ClassKind.names →
      keyword = line.kind.name → kind = line.kind := by
    have sound : ∀ pair ∈ ClassKind.names, pair.1 = pair.2.name := by decide
    have apart : ∀ kind other : ClassKind, kind.name = other.name → kind = other := by
      intro kind other
      cases kind <;> cases other <;> decide
    intro keyword kind pair same
    exact apart kind line.kind ((sound _ pair).symm.trans same)
  have among : ∀ pair ∈ ClassKind.names, pair.1 ∈ declarationWords := by decide
  rw [declarationAt?, indented, afterModifiers_modifierText]
  refine Text.findSome?_of_unique listed ?_ ?_
  · simp only [own, Option.bind_some, line.name.name?_text ended]
  · rintro ⟨keyword, kind⟩ otherListed value found
    dsimp only at found
    cases read : afterWordGap? keyword (line.kind.name.toList ++ (line.spaces.text ++
        (line.name.text ++ rest))) with
    | none => simp [read] at found
    | some otherRest =>
      obtain rfl := afterWordGap?_unique (among _ otherListed) member read own
      rw [own, Option.bind_some, line.name.name?_text ended] at found
      obtain rfl := sameKind _ _ otherListed rfl
      exact (Option.some.inj found).symm

end ClassLine

/-- Spaces do not belong to the names of namespaces. -/
theorem isNamespaceChar_of_isGap {c : Char} (gap : isGap c = true) : isNamespaceChar c = false := by
  have noBackslash : c ≠ '\\' := by
    rintro rfl
    exact absurd gap (by decide)
  simp [isNamespaceChar, isNameChar_of_isGap gap, noBackslash]

/-! ## Lines that declare a namespace -/

/-- A line reads as the declaration of a namespace when it declares one of some name. -/
theorem readsAsNamespace_iff {line : List Char} :
    ReadsAsNamespace line ↔ ∃ name, NamesNamespace line name := by
  constructor
  · rintro ⟨indent, spaces, c, others, gap, mark, rest, split, indented, starts, goesOn, allGap,
      isMark⟩
    exact ⟨c :: others, indent, spaces, c, others, gap, mark, rest, split, indented, starts,
      goesOn, allGap, isMark, rfl⟩
  · rintro ⟨name, indent, spaces, c, others, gap, mark, rest, split, indented, starts, goesOn,
      allGap, isMark, -⟩
    exact ⟨indent, spaces, c, others, gap, mark, rest, split, indented, starts, goesOn, allGap,
      isMark⟩

/-- A namespace that is found is declared, with its name. -/
theorem namesNamespace_of_found {text name : List Char} (found : namespaceAt? text = some name) :
    NamesNamespace text name := by
  rw [namespaceAt?] at found
  split at found
  · rename_i c behind read
    split at found
    · rename_i starts
      split at found
      · rename_i mark rest marked
        split at found
        · rename_i isMark
          rw [afterWordGap?_eq] at read
          obtain ⟨first, spaces, word, gap, allSpaces, -⟩ := Text.afterPart?_eq_some_iff.mp read
          obtain ⟨indent, indented, split, -⟩ := exists_span isGap text
          obtain ⟨others, goesOn, nameSplit, head⟩ := exists_span isNamespaceChar behind
          obtain ⟨between, allGap, gapSplit, -⟩ :=
            exists_span isGap (behind.dropWhile isNamespaceChar)
          have taken : behind.takeWhile isNamespaceChar = others := by
            conv => lhs; rw [nameSplit]
            exact takeWhile_append_of_head goesOn head
          refine ⟨indent, ⟨first, spaces, gap, allSpaces⟩, c, others, between, mark, rest, ?_,
            indented, starts, goesOn, allGap, isMark, ?_⟩
          · rw [← marked, skipGap, ← gapSplit, ← nameSplit, split, ← skipGap, word]
            simp [Spaces.text]
          · rw [← taken]
            exact (Option.some.inj found).symm
        · contradiction
      · contradiction
    · contradiction
  · contradiction

/-- A namespace is found exactly where it is declared, with its name. -/
theorem namespaceAt?_eq_some_iff {text name : List Char} :
    namespaceAt? text = some name ↔ NamesNamespace text name := by
  constructor
  · exact namesNamespace_of_found
  · rintro ⟨indent, spaces, c, others, gap, mark, rest, rfl, indented, starts, goesOn, allGap,
      isMark, rfl⟩
    have named : skipGap (c :: (others ++ (gap ++ mark :: rest))) =
        c :: (others ++ (gap ++ mark :: rest)) :=
      skipGap_of_starts starts
    have ended : ∀ d ∈ (gap ++ mark :: rest).head?, isNamespaceChar d = false := by
      intro d head
      cases gap with
      | nil =>
        obtain rfl : mark = d := by simpa using head
        rcases isMark with rfl | rfl <;> decide
      | cons e gap =>
        obtain rfl : e = d := by simpa using head
        rw [List.all_cons, Bool.and_eq_true] at allGap
        exact isNamespaceChar_of_isGap allGap.1
    have marked : skipGap (gap ++ mark :: rest) = mark :: rest := by
      have noGap : isGap mark = false := by
        rcases isMark with rfl | rfl <;> decide
      rw [skipGap, dropWhile_append_of_all allGap]
      simp [noGap]
    rw [namespaceAt?, skipGap_indented indented (by decide), afterWordGap?_word, named]
    simp only [starts, if_true, dropWhile_append_of_all goesOn, dropWhile_of_head ended,
      takeWhile_append_of_head goesOn ended, marked, isMark]

/-- A line declares the same namespace whatever follows its line feed. -/
theorem namesNamespace_line {line name : List Char} (following : List Char) :
    NamesNamespace (line ++ '\n' :: following) name ↔ NamesNamespace line name := by
  constructor
  · rintro ⟨indent, spaces, c, others, gap, mark, rest, split, indented, starts, goesOn, allGap,
      isMark, rfl⟩
    have shape : line ++ '\n' :: following = (indent ++ "namespace".toList ++ spaces.text ++
        c :: others ++ gap ++ [mark]) ++ rest := by
      rw [split]
      simp
    have start : '\n' ≠ c := by
      rintro rfl
      exact absurd starts (by decide)
    have noFeed : '\n' ≠ mark := by
      rintro rfl
      exact absurd isMark (by decide)
    -- Up to its mark, the declaration holds no line feed and so ends before the first one.
    have noGap : isGap '\n' = false := by decide
    have noNamespace : isNamespaceChar '\n' = false := by decide
    have lacks : '\n' ∉ indent ++ "namespace".toList ++ spaces.text ++ c :: others ++ gap ++
        [mark] := by
      simp [Text.not_mem_of_all noGap indented, spaces.not_mem_text, start,
        Text.not_mem_of_all noNamespace goesOn, Text.not_mem_of_all noGap allGap, noFeed]
    obtain ⟨left, line, -⟩ := exists_left_of_lacks shape lacks
    exact ⟨indent, spaces, c, others, gap, mark, left, by simp [line], indented, starts, goesOn,
      allGap, isMark, rfl⟩
  · rintro ⟨indent, spaces, c, others, gap, mark, rest, rfl, indented, starts, goesOn, allGap,
      isMark, rfl⟩
    exact ⟨indent, spaces, c, others, gap, mark, rest ++ '\n' :: following, by simp, indented,
      starts, goesOn, allGap, isMark, rfl⟩

/-- In a line that does not read as the declaration of a namespace, none is found. -/
theorem namespaceAt?_of_not_reads {line : List Char} (silent : ¬ReadsAsNamespace line)
    (following : List Char) : namespaceAt? (line ++ '\n' :: following) = none := by
  apply Option.eq_none_iff_forall_ne_some.mpr
  intro name found
  rw [namespaceAt?_eq_some_iff, namesNamespace_line] at found
  exact silent (readsAsNamespace_iff.mpr ⟨name, found⟩)

/-- The line that declares a namespace is found, with the name of the namespace. -/
theorem NamespaceLine.namespaceAt?_text (line : NamespaceLine) (following : List Char) :
    namespaceAt? (line.text ++ following) = some line.name := by
  rw [namespaceAt?_eq_some_iff]
  exact ⟨line.indent, line.spaces, line.first, line.others, line.gap, ';', line.rest ++ following,
    by simp [text, name], line.indented, line.starts, line.goesOn, line.allGap, .inl rfl, rfl⟩

/-! ## Lines that read as nothing -/

/-- Whether the first character of a line that is neither space nor tab cannot start a
word. -/
def Bare (line : List Char) : Prop := ∀ c ∈ (skipGap line).head?, isNameStart c = false

/-- A line is bare when its first character that is not blank cannot start a word. -/
theorem bare_of_trimStart {line : List Char}
    (head : ∀ c ∈ (Text.trimStart line).head?, isNameStart c = false) : Bare line := by
  intro c skipped
  obtain ⟨indent, indented, split, -⟩ := exists_span isGap line
  have blanks : indent.all isBlank = true := by
    rw [List.all_eq_true] at indented ⊢
    exact fun d member => Text.isBlank_of_isGap (indented d member)
  cases blank : isBlank c with
  | true => exact Text.isNameStart_of_isBlank blank
  | false =>
    refine head c ?_
    have kept : ∀ d ∈ (skipGap line).head?, isBlank d = false := by
      intro d other
      rw [Option.mem_def.mp skipped] at other
      obtain rfl : c = d := by simpa using other
      exact blank
    rw [Text.trimStart, split, dropWhile_append_of_all blanks, ← skipGap, dropWhile_of_head kept]
    exact skipped

/-- A line is bare when it starts with a mark that cannot start a word, behind some blanks. -/
theorem bare_of_mark {indent : List Char} (blank : Text.allBlank indent = true) {mark : Char}
    (noBlank : isBlank mark = false) (noName : isNameStart mark = false) (rest : List Char) :
    Bare (indent ++ mark :: rest) := by
  apply bare_of_trimStart
  intro c head
  rw [Text.trimStart, dropWhile_append_of_all blank] at head
  obtain rfl : mark = c := by simpa [noBlank] using head
  exact noName

/-- What declares something starts with one of the words of declarations. -/
theorem Declares.exists_word {text : List Char} (declares : Declares text) :
    ∃ word ∈ declarationWords, word ≠ "namespace" ∧
      ∃ (spaces : Spaces) (rest : List Char), text = word.toList ++ (spaces.text ++ rest) := by
  cases declares with
  | keyword listed spaces starts rest =>
    have among : ∀ word ∈ ["class", "interface", "trait", "enum"],
        word ∈ declarationWords ∧ word ≠ "namespace" := by
      decide
    exact ⟨_, (among _ listed).1, (among _ listed).2, spaces, _, rfl⟩
  | modifier listed spaces declares =>
    have among : ∀ word ∈ ["abstract", "final", "readonly"],
        word ∈ declarationWords ∧ word ≠ "namespace" := by
      decide
    exact ⟨_, (among _ listed).1, (among _ listed).2, spaces, _, rfl⟩

/-- A bare line does not start with a word of a declaration. -/
theorem Bare.ne_word {line : List Char} (bare : Bare line) {indent : List Char}
    (indented : indent.all isGap = true) {word : String} (member : word ∈ declarationWords)
    (rest : List Char) : line ≠ indent ++ (word.toList ++ rest) := by
  rintro rfl
  obtain ⟨c, head, starts⟩ := (Option.any_eq_true _ _).mp (starts_word member rest)
  rw [← skipGap_indented indented member] at head
  rw [bare c head] at starts
  exact absurd starts (by decide)

/-- A bare line reads as no declaration of a class. -/
theorem Bare.not_readsAsDeclaration {line : List Char} (bare : Bare line) :
    ¬ReadsAsDeclaration line := by
  rintro ⟨indent, rest, split, indented, declares⟩
  obtain ⟨word, member, -, spaces, others, rfl⟩ := declares.exists_word
  exact bare.ne_word indented member _ split

/-- A bare line reads as no declaration of a namespace. -/
theorem Bare.not_readsAsNamespace {line : List Char} (bare : Bare line) :
    ¬ReadsAsNamespace line := by
  rintro ⟨indent, spaces, c, others, gap, mark, rest, split, indented, -⟩
  exact bare.ne_word indented (by decide) _ split

/-- The line that declares a namespace reads as no declaration of a class. -/
theorem NamespaceLine.not_readsAsDeclaration (line : NamespaceLine) :
    ¬ReadsAsDeclaration line.text := by
  rintro ⟨indent, rest, split, indented, declares⟩
  obtain ⟨word, member, different, spaces, others, rfl⟩ := declares.exists_word
  have own : "namespace" ∈ declarationWords := by decide
  have skipped := congrArg skipGap split
  rw [NamespaceLine.text, skipGap_indented line.indented own,
    skipGap_indented indented member] at skipped
  have read := afterWordGap?_word "namespace" line.spaces
    (line.name ++ (line.gap ++ ';' :: line.rest))
  rw [skipped] at read
  exact different (afterWordGap?_unique member own (afterWordGap?_word word spaces others) read)

/-! ## The search through the lines -/

/-- Some lines, each with the line feed that ends it. -/
def linesText (lines : List (List Char)) : List Char := lines.flatMap (· ++ ['\n'])

/-- The first line is ended, and the others follow. -/
theorem linesText_cons (line : List Char) (lines : List (List Char)) :
    linesText (line :: lines) = line ++ '\n' :: linesText lines := by
  simp [linesText]

/-- A declaration right at the beginning of a text is the first one. -/
theorem declaration?_of_declared {text after : List Char} {declared : Declared}
    (found : declarationAt? text = some (declared, after)) :
    declaration? text = some ([], declared, after) := by
  rw [declaration?]
  simp only [found]

/-- A namespace right at the beginning of a text is the first one. -/
theorem namespace?_of_declared {text name : List Char} (found : namespaceAt? text = some name) :
    Source.namespace? text = some name := by
  rw [namespace?]
  simp only [found]

section Lines

variable {line : List Char} (oneLine : '\n' ∉ line)
include oneLine

/-- A line that is no declaration is passed over, whatever follows its line feed. -/
theorem declaration?_of_undeclared {rest : List Char}
    (undeclared : declarationAt? (line ++ '\n' :: rest) = none) :
    declaration? (line ++ '\n' :: rest) =
      (declaration? rest).map fun (before, found) => (line ++ '\n' :: before, found) := by
  rw [declaration?]
  simp only [undeclared]
  split <;> rename_i found <;> rw [Text.cutLine_line oneLine] at found <;> cases found
  rw [Text.cutLine_line oneLine]

/-- Behind the last line there are no declarations. -/
theorem declaration?_of_undeclared_last (undeclared : declarationAt? line = none) :
    declaration? line = none := by
  rw [declaration?]
  simp only [undeclared]
  split
  · rfl
  · rename_i found
    rw [Text.cutLine_of_oneLine oneLine] at found
    contradiction

/-- A line that is no namespace is passed over, whatever follows its line feed. -/
theorem namespace?_of_undeclared {rest : List Char}
    (undeclared : namespaceAt? (line ++ '\n' :: rest) = none) :
    Source.namespace? (line ++ '\n' :: rest) = Source.namespace? rest := by
  rw [namespace?]
  simp only [undeclared]
  split <;> rename_i found <;> rw [Text.cutLine_line oneLine] at found <;> cases found
  rfl

end Lines

/-- Lines that do not read as a declaration are passed over in the search for one. -/
theorem declaration?_lines {lines : List (List Char)}
    (silent : ∀ line ∈ lines, '\n' ∉ line ∧ ¬ReadsAsDeclaration line) (following : List Char) :
    declaration? (linesText lines ++ following) =
      (declaration? following).map fun found => (linesText lines ++ found.1, found.2) := by
  induction lines with
  | nil => simp [linesText]
  | cons line lines inductionHypothesis =>
    obtain ⟨oneLine, undeclared⟩ := silent line List.mem_cons_self
    have others := inductionHypothesis fun line member =>
      silent line (List.mem_cons_of_mem _ member)
    rw [linesText_cons, List.append_assoc, List.cons_append,
      declaration?_of_undeclared oneLine (declarationAt?_of_not_reads undeclared _), others,
      Option.map_map]
    congr 1
    funext found
    simp

/-- Lines that do not read as a namespace are passed over in the search for one. -/
theorem namespace?_lines {lines : List (List Char)}
    (silent : ∀ line ∈ lines, '\n' ∉ line ∧ ¬ReadsAsNamespace line) (following : List Char) :
    Source.namespace? (linesText lines ++ following) = namespace? following := by
  induction lines with
  | nil => rfl
  | cons line lines inductionHypothesis =>
    obtain ⟨oneLine, undeclared⟩ := silent line List.mem_cons_self
    have others := inductionHypothesis fun line member =>
      silent line (List.mem_cons_of_mem _ member)
    have passed := namespaceAt?_of_not_reads undeclared (linesText lines ++ following)
    rw [linesText_cons, List.append_assoc, List.cons_append, namespace?_of_undeclared oneLine passed,
      others]

/-- In front of the first declaration stand whole lines. -/
theorem declaration?_eq_some {text before : List Char} {result : Declared × List Char}
    (found : declaration? text = some (before, result)) :
    ∃ lines rest, (∀ line ∈ lines, '\n' ∉ line) ∧ before = linesText lines ∧
      text = linesText lines ++ rest ∧ declarationAt? rest = some result := by
  induction text using Text.text_induction generalizing before with
  | last line oneLine =>
    cases declared : declarationAt? line with
    | none =>
      rw [declaration?_of_undeclared_last oneLine declared] at found
      contradiction
    | some here =>
      rw [declaration?_of_declared declared] at found
      obtain ⟨rfl, rfl⟩ := Prod.mk.inj (Option.some.inj found)
      exact ⟨[], line, by simp, rfl, rfl, declared⟩
  | ended line rest oneLine inductionHypothesis =>
    cases declared : declarationAt? (line ++ '\n' :: rest) with
    | none =>
      rw [declaration?_of_undeclared oneLine declared] at found
      obtain ⟨⟨further, behind⟩, later, same⟩ := Option.map_eq_some_iff.mp found
      obtain ⟨rfl, rfl⟩ := Prod.mk.inj same
      obtain ⟨lines, left, oneLines, rfl, rfl, here⟩ := inductionHypothesis later
      refine ⟨line :: lines, left, ?_, (linesText_cons line lines).symm, ?_, here⟩
      · intro other member
        rcases List.mem_cons.mp member with rfl | member
        · exact oneLine
        · exact oneLines other member
      · rw [linesText_cons, List.append_assoc, List.cons_append]
    | some here =>
      rw [declaration?_of_declared declared] at found
      obtain ⟨rfl, rfl⟩ := Prod.mk.inj (Option.some.inj found)
      exact ⟨[], _, by simp, rfl, rfl, declared⟩

end ServiceWiring.Source
