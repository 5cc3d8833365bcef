import ServiceWiring.Class.Method
import ServiceWiring.Proofs.Text.Spans

/-!
# Text that declares no method

Reading methods from the first level of a body passes over the text between them. What
text it passes over is said here without the reader: no word that starts in the text
begins with `function` before a name. A return type is read differently, because nothing
parts it from the next member when a block follows it, so that modifiers at its end are
taken for modifiers of the next method. They do no harm unless one of them is `private` or
`protected`.

The main statements are that reading the methods of a text leads over blanks, over text
that names no function up to a mark behind it, and over a return type to its block.
-/

namespace ServiceWiring.Source

open Text (isBlank isWordChar isNameStart isNameChar trimStart allBlank exists_left_of_lacks
  exists_span dropWhile_append_mark isWordChar_of_isBlank isWordChar_of_isNameChar
  isNameStart_of_isBlank)

/-- Whether no word that starts in a text begins with something that satisfies a property.
`inWord` tells whether the text continues a word. -/
def Nowhere (property : List Char → Prop) : (inWord : Bool) → List Char → Prop
  | _, [] => True
  | inWord, c :: rest =>
    (inWord = false → ¬property (c :: rest)) ∧ Nowhere property (isWordChar c) rest

/-- Whether a text starts with the word `function` before a name, with blanks between
them and perhaps a `&`. -/
def NamesFunction (text : List Char) : Prop :=
  ∃ (blanks mark others : List Char) (c : Char) (rest : List Char),
    text = "function".toList ++ (blanks ++ (mark ++ (others ++ c :: rest))) ∧
      blanks ≠ [] ∧ allBlank blanks = true ∧ (mark = [] ∨ mark = ['&']) ∧
      allBlank others = true ∧ isNameStart c = true

/-- Whether a text starts with the word `function`. -/
def StartsWithFunction (text : List Char) : Prop :=
  ∃ rest, text = "function".toList ++ rest ∧ ∀ c ∈ rest.head?, isWordChar c = false

/-- Whether a text is made of modifiers with blanks between them and perhaps behind them. -/
inductive OnlyModifiers : List Char → Prop
  | last {word : String} (listed : word ∈ modifierWords) {blanks : List Char}
      (all : allBlank blanks = true) : OnlyModifiers (word.toList ++ blanks)
  | more {word : String} (listed : word ∈ modifierWords) {c : Char} (blank : isBlank c = true)
      {blanks : List Char} (all : allBlank blanks = true) {rest : List Char}
      (others : OnlyModifiers rest) : OnlyModifiers (word.toList ++ c :: (blanks ++ rest))

/-- The modifiers that restrict from where a method may be called. -/
def restrictingWords : List String := ["private", "protected"]

/-- Whether a text is made of modifiers the first of which is restricting. -/
def Restricts (text : List Char) : Prop :=
  (∃ word ∈ restrictingWords, word.toList <+: text) ∧ OnlyModifiers text

namespace Nowhere

variable {property : List Char → Prop} {inWord : Bool} {c : Char} {rest : List Char}

/-- What holds nowhere in a text does not hold of the text itself, unless it continues a
word. -/
theorem not_self {text : List Char} (nowhere : Nowhere property false text)
    (nonempty : text ≠ []) : ¬property text := by
  cases text with
  | nil => exact absurd rfl nonempty
  | cons c rest => exact nowhere.1 rfl

/-- What holds nowhere in a text holds nowhere behind one of its characters. -/
theorem behind {before : List Char} (nowhere : Nowhere property inWord (before ++ c :: rest)) :
    Nowhere property (isWordChar c) rest := by
  induction before generalizing inWord with
  | nil => exact nowhere.2
  | cons d before inductionHypothesis => exact inductionHypothesis nowhere.2

/-- What holds nowhere in a text holds nowhere behind blanks at its beginning. -/
theorem behind_blanks {blanks : List Char} (all : allBlank blanks = true)
    (nowhere : Nowhere property false (blanks ++ rest)) : Nowhere property false rest := by
  induction blanks with
  | nil => exact nowhere
  | cons d blanks inductionHypothesis =>
    simp only [allBlank, List.all_cons, Bool.and_eq_true] at all
    have others := nowhere.2
    rw [isWordChar_of_isBlank all.1] at others
    exact inductionHypothesis all.2 others

/-- A stronger property holds nowhere either. -/
theorem mono {stronger : List Char → Prop} (implies : ∀ text, stronger text → property text)
    {text : List Char} (nowhere : Nowhere property inWord text) :
    Nowhere stronger inWord text := by
  induction text generalizing inWord with
  | nil => trivial
  | cons c rest inductionHypothesis =>
    exact ⟨fun start holds => nowhere.1 start (implies _ holds), inductionHypothesis nowhere.2⟩

/-- A property of texts that start with one of some parts holds nowhere in a text in which
none of them comes up. -/
theorem of_not_occurs (parts : List (List Char))
    (starts : ∀ text, property text → ∃ part ∈ parts, part <+: text)
    {text : List Char} (absent : ∀ part ∈ parts, Text.occurs part text = false) :
    Nowhere property inWord text := by
  induction text generalizing inWord with
  | nil => trivial
  | cons c rest inductionHypothesis =>
    simp only [Text.occurs, Bool.or_eq_false_iff] at absent
    refine ⟨fun _ holds => ?_, inductionHypothesis fun part member => (absent part member).2⟩
    obtain ⟨part, member, isPrefix⟩ := starts _ holds
    have found := List.isPrefixOf_iff_prefix.mpr isPrefix
    rw [(absent part member).1] at found
    exact absurd found (by decide)

/-- Text in which `function` does not come up names no function. -/
theorem namesFunction_of_not_occurs {text : List Char}
    (absent : Text.occurs "function".toList text = false) : Nowhere NamesFunction inWord text := by
  refine of_not_occurs ["function".toList] ?_ (by simpa using absent)
  rintro _ ⟨blanks, mark, others, c, rest, rfl, -⟩
  exact ⟨_, List.mem_singleton_self _, List.prefix_append _ _⟩

/-- Text in which `function` does not come up does not hold it as a word. -/
theorem startsWithFunction_of_not_occurs {text : List Char}
    (absent : Text.occurs "function".toList text = false) :
    Nowhere StartsWithFunction inWord text := by
  refine of_not_occurs ["function".toList] ?_ (by simpa using absent)
  rintro _ ⟨rest, rfl, -⟩
  exact ⟨_, List.mem_singleton_self _, List.prefix_append _ _⟩

/-- Text in which no restricting modifier comes up does not end with one. -/
theorem restricts_of_not_occurs {text : List Char}
    (absent : ∀ word ∈ restrictingWords, Text.occurs word.toList text = false) :
    Nowhere Restricts inWord text := by
  refine of_not_occurs (restrictingWords.map String.toList) ?_ ?_
  · rintro text ⟨⟨word, member, isPrefix⟩, -⟩
    exact ⟨_, List.mem_map_of_mem member, isPrefix⟩
  · intro part member
    obtain ⟨word, listed, rfl⟩ := List.mem_map.mp member
    exact absent word listed

end Nowhere

/-! ## Words and the blanks behind them -/

/-- A word is read with the blanks behind it. -/
theorem afterWord?_eq (word : String) (text : List Char) :
    afterWord? word text = Text.afterPart? isBlank word.toList text := rfl

/-- The characters of the modifiers and of the word `function` are characters of names. -/
theorem all_isNameChar_of_mem {word : String} (member : word ∈ "function" :: modifierWords) :
    word.toList.all isNameChar = true := by
  have all : ∀ word ∈ "function" :: modifierWords, word.toList.all isNameChar = true := by
    decide
  exact all word member

/-- The characters of the modifiers and of the word `function` are word characters. -/
theorem isWordChar_of_mem {word : String} (member : word ∈ "function" :: modifierWords)
    {c : Char} (inside : c ∈ word.toList) : isWordChar c = true :=
  isWordChar_of_isNameChar (List.all_eq_true.mp (all_isNameChar_of_mem member) c inside)

/-- The modifiers and the word `function` start with a letter. -/
theorem isNameStart_of_mem {word : String} (member : word ∈ "function" :: modifierWords) :
    word.toList.head?.any isNameStart = true := by
  have all : ∀ word ∈ "function" :: modifierWords,
      word.toList.head?.any isNameStart = true := by
    decide
  exact all word member

/-- A word that is read before a mark that is not a blank ends before it. -/
theorem afterWord?_before_mark {word : String} (member : word ∈ "function" :: modifierWords)
    {mark : Char} (noBlank : isBlank mark = false) (noWord : isWordChar mark = false)
    {text following rest : List Char}
    (found : afterWord? word (text ++ mark :: following) = some rest) :
    ∃ (c : Char) (blanks left : List Char), text = word.toList ++ c :: (blanks ++ left) ∧
      isBlank c = true ∧ allBlank blanks = true ∧ rest = left ++ mark :: following := by
  have lacks : mark ∉ word.toList := by
    intro inside
    rw [isWordChar_of_mem member inside] at noWord
    exact absurd noWord (by decide)
  rw [afterWord?_eq] at found
  exact Text.afterPart?_before_mark lacks noBlank found

/-- No word is read in text whose first character cannot start one. -/
theorem afterWord?_of_head {word : String} (member : word ∈ "function" :: modifierWords)
    {text : List Char} (head : ∀ c ∈ text.head?, isNameStart c = false) :
    afterWord? word text = none := by
  rw [afterWord?_eq]
  exact Text.afterPart?_of_head (isNameStart_of_mem member) head

/-! ## Where no declaration starts -/

/-- A modifier is read as its word. -/
theorem afterWord?_of_modifier? {text rest : List Char} {word : String}
    (found : modifier? text = some (word, rest)) :
    word ∈ modifierWords ∧ afterWord? word text = some rest := by
  unfold modifier? at found
  obtain ⟨candidate, member, read⟩ := List.exists_of_findSome?_eq_some found
  simp only [Option.map_eq_some_iff, Prod.mk.injEq] at read
  obtain ⟨after, wordFound, rfl, rfl⟩ := read
  exact ⟨member, wordFound⟩

/-- Without a modifier at its beginning, a text keeps its beginning. -/
theorem modifiers_of_none {text : List Char} (unmodified : modifier? text = none) :
    modifiers text = ([], text) := by
  rw [modifiers]
  split <;> rename_i found
  · rfl
  · rw [unmodified] at found
    exact absurd found (by simp)

/-- Nothing is declared in text whose first character cannot start a word of a declaration. -/
theorem methodAt?_of_head {text : List Char} (head : ∀ c ∈ text.head?, isNameStart c = false) :
    methodAt? text = none := by
  have noModifier : modifier? text = none := by
    apply Option.eq_none_iff_forall_ne_some.mpr
    rintro ⟨word, rest⟩ found
    obtain ⟨member, read⟩ := afterWord?_of_modifier? found
    rw [afterWord?_of_head (List.mem_cons_of_mem _ member) head] at read
    exact absurd read (by simp)
  rw [methodAt?, modifiers_of_none noModifier, afterWord?_of_head List.mem_cons_self head]

/-- Modifiers that are read before a mark end before it, and what holds nowhere in the text
before the mark holds nowhere in what they leave of it. -/
theorem modifiers_before_mark {property : List Char → Prop} {mark : Char}
    (noBlank : isBlank mark = false) (noWord : isWordChar mark = false)
    {text : List Char} (nowhere : Nowhere property false text) (following : List Char) :
    ∃ left, (modifiers (text ++ mark :: following)).2 = left ++ mark :: following ∧
      Nowhere property false left := by
  generalize whole : text ++ mark :: following = input
  fun_induction modifiers input generalizing text with
  | case1 => exact ⟨text, whole.symm, nowhere⟩
  | case2 input word rest found inductionHypothesis =>
    obtain ⟨member, read⟩ := afterWord?_of_modifier? found
    subst whole
    obtain ⟨c, blanks, left, rfl, blank, all, rfl⟩ :=
      afterWord?_before_mark (List.mem_cons_of_mem _ member) noBlank noWord read
    have behind := nowhere.behind
    rw [isWordChar_of_isBlank blank] at behind
    exact inductionHypothesis (behind.behind_blanks all) rfl

/-- Nothing is declared by text that names no function before a parenthesis or semicolon. -/
theorem methodAt?_before_mark {mark : Char} (closes : mark = ')' ∨ mark = ';')
    {text : List Char} (silent : Nowhere NamesFunction false text) (following : List Char) :
    methodAt? (text ++ mark :: following) = none := by
  have kinds : isBlank mark = false ∧ isWordChar mark = false ∧ isNameStart mark = false ∧
      mark ≠ '&' := by
    rcases closes with rfl | rfl <;> decide
  obtain ⟨noBlank, noWord, noName, noMark⟩ := kinds
  obtain ⟨left, modified, leftSilent⟩ := modifiers_before_mark noBlank noWord silent following
  rw [methodAt?, modified]
  cases read : afterWord? "function" (left ++ mark :: following) with
  | none => rfl
  | some afterFunction =>
    obtain ⟨c, blanks, named, rfl, blank, all, rfl⟩ :=
      afterWord?_before_mark List.mem_cons_self noBlank noWord read
    -- A name behind the word would be one that the text names as a function.
    have unnamed : ∀ mark others d rest, named = mark ++ (others ++ d :: rest) →
        (mark = [] ∨ mark = ['&']) → allBlank others = true → isNameStart d = false := by
      intro mark others d rest split optional othersBlank
      rw [Bool.eq_false_iff]
      intro start
      refine leftSilent.not_self (by simp) ⟨c :: blanks, mark, others, d, rest, ?_, by simp, ?_,
        optional, othersBlank, start⟩
      · simp [split]
      · simpa [allBlank, blank] using all
    have noNamed : name? (afterAmpersand (named ++ mark :: following)) = none := by
      cases named with
      | nil => simp [afterAmpersand, noMark, name?, noName]
      | cons d rest =>
        by_cases ampersand : d = '&'
        · subst ampersand
          obtain ⟨others, othersBlank, split, head⟩ := exists_span isBlank rest
          rw [List.cons_append, afterAmpersand, trimStart, dropWhile_append_mark noBlank]
          cases trimmed : rest.dropWhile isBlank with
          | nil => simp [name?, noName]
          | cons e rest =>
            rw [trimmed] at split
            have noStart := unnamed ['&'] others e rest (by simp [split]) (.inr rfl) othersBlank
            simp [name?, noStart]
        · have noStart := unnamed [] [] d rest rfl (.inl rfl) rfl
          simp [afterAmpersand, ampersand, name?, noStart]
    simp only [noNamed]

/-! ## Reading over text -/

section Steps

variable {inWord : Bool} {c : Char} {rest : List Char}

/-- No declaration starts inside a word. -/
theorem methodsFrom_inWord : methodsFrom true (c :: rest) = methodsFrom (isWordChar c) rest := by
  rw [methodsFrom]
  simp

/-- Where no declaration starts, reading goes on with the next character. -/
theorem methodsFrom_of_none (undeclared : methodAt? (c :: rest) = none) :
    methodsFrom inWord (c :: rest) = methodsFrom (isWordChar c) rest := by
  cases inWord with
  | true => exact methodsFrom_inWord
  | false =>
    rw [methodsFrom, if_neg Bool.false_ne_true]
    split
    · rename_i found
      rw [undeclared] at found
      exact absurd found (by simp)
    · rfl

/-- A declaration yields its method, and reading goes on behind its opening parenthesis. -/
theorem methodsFrom_of_some {text after name : List Char} {words : List String}
    (declared : methodAt? text = some (words, name, after)) :
    methodsFrom false text =
      ⟨String.ofList name, visibilityOf words, roleOf name⟩ :: methodsFrom false after := by
  cases text with
  | nil => exact absurd (methodAt?_lt declared) (by simp)
  | cons c rest =>
    rw [methodsFrom, if_neg Bool.false_ne_true]
    split <;> rename_i found <;> rw [declared] at found <;> cases found
    rfl

/-- A blank ends a word and declares nothing. -/
theorem methodsFrom_blank (blank : isBlank c = true) :
    methodsFrom inWord (c :: rest) = methodsFrom false rest := by
  have undeclared : methodAt? (c :: rest) = none :=
    methodAt?_of_head fun d head => by
      obtain rfl : c = d := by simpa using head
      exact isNameStart_of_isBlank blank
  rw [methodsFrom_of_none undeclared, isWordChar_of_isBlank blank]

/-- Blanks declare nothing. -/
theorem methodsFrom_blanks {blanks : List Char} (all : allBlank blanks = true) :
    methodsFrom false (blanks ++ rest) = methodsFrom false rest := by
  induction blanks with
  | nil => rfl
  | cons c blanks inductionHypothesis =>
    simp only [allBlank, List.all_cons, Bool.and_eq_true] at all
    rw [List.cons_append, methodsFrom_blank all.1]
    exact inductionHypothesis all.2

/-- Inside a word, word characters are read over. -/
theorem methodsFrom_word {word : List Char} (all : ∀ c ∈ word, isWordChar c = true) :
    methodsFrom true (word ++ rest) = methodsFrom true rest := by
  induction word with
  | nil => rfl
  | cons c word inductionHypothesis =>
    rw [List.cons_append, methodsFrom_inWord, all c List.mem_cons_self]
    exact inductionHypothesis fun d member => all d (List.mem_cons_of_mem c member)

end Steps

/-- Text that names no function declares no method before a parenthesis or semicolon. -/
theorem methodsFrom_before_mark {mark : Char} (closes : mark = ')' ∨ mark = ';')
    {text following : List Char} {inWord : Bool} (silent : Nowhere NamesFunction inWord text) :
    methodsFrom inWord (text ++ mark :: following) = methodsFrom false following := by
  induction text generalizing inWord with
  | nil =>
    have noWord : isWordChar mark = false := by
      rcases closes with rfl | rfl <;> decide
    have nothing : Nowhere NamesFunction false [] := trivial
    have undeclared := methodAt?_before_mark closes nothing following
    rw [List.nil_append] at undeclared
    rw [List.nil_append, methodsFrom_of_none undeclared, noWord]
  | cons c text inductionHypothesis =>
    have step : methodsFrom inWord (c :: (text ++ mark :: following)) =
        methodsFrom (isWordChar c) (text ++ mark :: following) := by
      cases inWord with
      | true => exact methodsFrom_inWord
      | false => exact methodsFrom_of_none (methodAt?_before_mark closes silent following)
    rw [List.cons_append, step, inductionHypothesis silent.2]

/-- At most one word is read at the beginning of a text. -/
theorem afterWord?_unique {word other : String} (member : word ∈ "function" :: modifierWords)
    (otherMember : other ∈ "function" :: modifierWords) {text rest otherRest : List Char}
    (found : afterWord? word text = some rest)
    (otherFound : afterWord? other text = some otherRest) : word = other := by
  rw [afterWord?_eq] at found otherFound
  exact String.toList_injective (Text.afterPart?_unique (fun _ => Text.isNameChar_of_isBlank)
    (all_isNameChar_of_mem member) (all_isNameChar_of_mem otherMember) found otherFound)

/-- A word with a blank behind it is read. -/
theorem afterWord?_word (word : String) {c : Char} (blank : isBlank c = true)
    (rest : List Char) : afterWord? word (word.toList ++ c :: rest) = some (trimStart rest) := by
  rw [afterWord?_eq, Text.afterPart?_part blank, trimStart]

/-- A modifier with a blank behind it is found. -/
theorem modifier?_word {word : String} (member : word ∈ modifierWords) {c : Char}
    (blank : isBlank c = true) (rest : List Char) :
    modifier? (word.toList ++ c :: rest) = some (word, trimStart rest) := by
  have own := afterWord?_word word blank rest
  refine Text.findSome?_of_unique member (by rw [own, Option.map_some]) ?_
  intro other otherMember value found
  obtain ⟨otherRest, read, rfl⟩ := Option.map_eq_some_iff.mp found
  obtain rfl := afterWord?_unique (List.mem_cons_of_mem _ member)
    (List.mem_cons_of_mem _ otherMember) own read
  rw [own, Option.some.injEq] at read
  rw [read]

/-- The modifiers of a text that starts with one are that one and those behind it. -/
theorem modifiers_word {word : String} (member : word ∈ modifierWords) {c : Char}
    (blank : isBlank c = true) (rest : List Char) :
    modifiers (word.toList ++ c :: rest) =
      (word :: (modifiers (trimStart rest)).1, (modifiers (trimStart rest)).2) := by
  rw [modifiers]
  split <;> rename_i found <;> rw [modifier?_word member blank rest] at found <;> cases found
  rfl

/-- The word `function` is no modifier. -/
theorem modifiers_function {c : Char} (blank : isBlank c = true) (rest : List Char) :
    modifiers ("function".toList ++ c :: rest) = ([], "function".toList ++ c :: rest) := by
  apply modifiers_of_none
  apply Option.eq_none_iff_forall_ne_some.mpr
  rintro ⟨word, others⟩ found
  obtain ⟨member, read⟩ := afterWord?_of_modifier? found
  have same := afterWord?_unique List.mem_cons_self (List.mem_cons_of_mem _ member)
    (afterWord?_word "function" blank rest) read
  rw [← same] at member
  exact absurd member (by decide)

/-- A modifier before a declaration changes nothing about its method, unless it restricts
from where the method may be called. -/
theorem methodsFrom_modifier {word : String} (member : word ∈ modifierWords)
    (harmless : word ∉ restrictingWords) {c : Char} (blank : isBlank c = true)
    (rest : List Char) :
    methodsFrom false (word.toList ++ c :: rest) = methodsFrom false rest := by
  obtain ⟨blanks, all, restSplit, -⟩ := exists_span isBlank rest
  have trimmed : methodsFrom false rest = methodsFrom false (trimStart rest) := by
    conv => lhs; rw [restSplit]
    exact methodsFrom_blanks all
  have extended : methodAt? (word.toList ++ c :: rest) =
      (methodAt? (trimStart rest)).map fun found => (word :: found.1, found.2) := by
    rw [methodAt?, methodAt?, modifiers_word member blank rest]
    cases afterWord? "function" (modifiers (trimStart rest)).2 with
    | none => rfl
    | some afterFunction =>
      dsimp only
      cases name? (afterAmpersand afterFunction) with
      | none => rfl
      | some named =>
        dsimp only
        cases trimStart named.2 with
        | nil => rfl
        | cons d others => by_cases opening : d = '(' <;> simp [opening]
  cases declared : methodAt? (trimStart rest) with
  | none =>
    rw [declared, Option.map_none] at extended
    have inside : ∀ c ∈ word.toList, isWordChar c = true := fun c inWord =>
      isWordChar_of_mem (List.mem_cons_of_mem _ member) inWord
    cases letters : word.toList with
    | nil =>
      have nonempty : ∀ word ∈ modifierWords, word.toList ≠ [] := by decide
      exact absurd letters (nonempty word member)
    | cons d letters' =>
      rw [letters, List.cons_append] at extended
      rw [letters] at inside
      rw [List.cons_append, methodsFrom_of_none extended, inside d List.mem_cons_self,
        methodsFrom_word fun e member => inside e (List.mem_cons_of_mem d member),
        methodsFrom_blank blank]
  | some found =>
    obtain ⟨words, name, after⟩ := found
    rw [declared, Option.map_some] at extended
    have sameVisibility : visibilityOf (word :: words) = visibilityOf words := by
      simp only [restrictingWords, List.mem_cons, List.not_mem_nil, or_false, not_or] at harmless
      simp [visibilityOf, Ne.symm harmless.1, Ne.symm harmless.2]
    rw [trimmed, methodsFrom_of_some extended, methodsFrom_of_some declared, sameVisibility]

/-- A word that is read before a space ends before it, at a blank or at the space. -/
theorem afterWord?_before_space {word : String} (member : word ∈ "function" :: modifierWords)
    {text following rest : List Char}
    (found : afterWord? word (text ++ ' ' :: following) = some rest) :
    ∃ left, text = word.toList ++ left ∧ ∀ c ∈ left.head?, isBlank c = true := by
  rw [afterWord?_eq] at found
  obtain ⟨c, blanks, split, blank, -, -⟩ := Text.afterPart?_eq_some_iff.mp found
  have lacks : ' ' ∉ word.toList := by
    intro inside
    exact absurd (isWordChar_of_mem member inside) (by decide)
  obtain ⟨left, textSplit, restSplit⟩ := exists_left_of_lacks split lacks
  refine ⟨left, textSplit, fun d head => ?_⟩
  cases left with
  | nil => simp at head
  | cons e left =>
    rw [List.cons_append, List.cons.injEq] at restSplit
    obtain rfl : e = d := by simpa using head
    rw [← restSplit.1]
    exact blank

/-- Text that names a function starts with the word. -/
theorem startsWithFunction_of_names (text : List Char) (names : NamesFunction text) :
    StartsWithFunction text := by
  obtain ⟨blanks, mark, others, c, rest, rfl, present, all, -, -, -⟩ := names
  refine ⟨_, rfl, fun d head => ?_⟩
  cases blanks with
  | nil => exact absurd rfl present
  | cons e blanks =>
    obtain rfl : e = d := by simpa using head
    rw [allBlank, List.all_cons, Bool.and_eq_true] at all
    exact isWordChar_of_isBlank all.1

/-- Where the word `function` does not stand, modifiers before a space are not followed by
it, unless there is nothing else. -/
theorem onlyModifiers_or_unread {text : List Char}
    (lacks : Nowhere StartsWithFunction false text) (following : List Char) :
    OnlyModifiers text ∨
      afterWord? "function" (modifiers (text ++ ' ' :: following)).2 = none := by
  generalize whole : text ++ ' ' :: following = input
  fun_induction modifiers input generalizing text with
  | case1 input found =>
    subst whole
    right
    apply Option.eq_none_iff_forall_ne_some.mpr
    intro rest read
    obtain ⟨left, rfl, ends⟩ := afterWord?_before_space List.mem_cons_self read
    exact lacks.not_self (by simp) ⟨left, rfl, fun c head => isWordChar_of_isBlank (ends c head)⟩
  | case2 input word rest found inductionHypothesis =>
    subst whole
    obtain ⟨listed, read⟩ := afterWord?_of_modifier? found
    obtain ⟨left, rfl, ends⟩ := afterWord?_before_space (List.mem_cons_of_mem _ listed) read
    by_cases all : allBlank left = true
    · exact .inl (.last listed all)
    · cases left with
      | nil => exact absurd rfl all
      | cons c left =>
        have blank := ends c rfl
        have present : trimStart left ≠ [] := by
          rw [Ne, Text.trimStart_eq_nil_iff]
          intro others
          rw [allBlank] at others
          simp [allBlank, blank, others] at all
        obtain ⟨blanks, blanksAll, split, -⟩ := exists_span isBlank left
        have behind := lacks.behind
        rw [isWordChar_of_isBlank blank, split] at behind
        rw [List.append_assoc, List.cons_append, afterWord?_word word blank, Option.some.injEq,
          Text.trimStart_append present] at read
        rcases inductionHypothesis (behind.behind_blanks blanksAll) read with others | unread
        · left
          rw [split]
          exact .more listed blank blanksAll others
        · exact .inr unread

/-- Modifiers none of which is restricting change nothing about the method behind them. -/
theorem methodsFrom_onlyModifiers {text : List Char} (only : OnlyModifiers text)
    (harmless : Nowhere Restricts false text) (following : List Char) :
    methodsFrom false (text ++ ' ' :: following) = methodsFrom false following := by
  have space : isBlank ' ' = true := by decide
  have nonempty : ∀ word ∈ modifierWords, word.toList ≠ [] := by decide
  induction only with
  | @last word listed blanks all =>
    have notRestricting : word ∉ restrictingWords := by
      intro restricting
      have present : word.toList ++ blanks ≠ [] :=
        List.append_ne_nil_of_left_ne_nil (nonempty word listed) blanks
      exact harmless.not_self present
        ⟨⟨word, restricting, List.prefix_append _ _⟩, .last listed all⟩
    cases blanks with
    | nil => rw [List.append_nil, methodsFrom_modifier listed notRestricting space]
    | cons c blanks =>
      rw [allBlank, List.all_cons, Bool.and_eq_true] at all
      rw [List.append_assoc, List.cons_append, methodsFrom_modifier listed notRestricting all.1,
        methodsFrom_blanks all.2, methodsFrom_blank space]
  | @more word listed c blank blanks all rest others inductionHypothesis =>
    have notRestricting : word ∉ restrictingWords := by
      intro restricting
      exact harmless.not_self (by simp)
        ⟨⟨word, restricting, List.prefix_append _ _⟩, .more listed blank all others⟩
    have behind := harmless.behind
    rw [isWordChar_of_isBlank blank] at behind
    rw [List.append_assoc, List.cons_append, methodsFrom_modifier listed notRestricting blank,
      List.append_assoc, methodsFrom_blanks all,
      inductionHypothesis (behind.behind_blanks all)]

/-- A return type declares no method, and does not change the method behind its block unless
it ends with a restricting modifier. -/
theorem methodsFrom_before_block {text : List Char} {inWord : Bool}
    (lacks : Nowhere StartsWithFunction inWord text) (harmless : Nowhere Restricts inWord text)
    (following : List Char) :
    methodsFrom inWord (text ++ ' ' :: following) = methodsFrom false following := by
  induction text generalizing inWord with
  | nil =>
    have space : isBlank ' ' = true := by decide
    rw [List.nil_append, methodsFrom_blank space]
  | cons c text inductionHypothesis =>
    have next := inductionHypothesis lacks.2 harmless.2
    cases inWord with
    | true => rw [List.cons_append, methodsFrom_inWord, next]
    | false =>
      rcases onlyModifiers_or_unread lacks following with only | unread
      · exact methodsFrom_onlyModifiers only harmless following
      · have undeclared : methodAt? (c :: (text ++ ' ' :: following)) = none := by
          rw [methodAt?, ← List.cons_append, unread]
        rw [List.cons_append, methodsFrom_of_none undeclared, next]

end ServiceWiring.Source
