import ServiceWiring.Proofs.Class.Code
import ServiceWiring.Proofs.Class.Silence

/-!
# Class bodies and their methods

A class body as the sequence of its members: methods, statements such as properties and
constants, and the gaps between them. A method may have any modifiers in any order, at
most one of which says from where it may be called, and comments may stand wherever
blanks may. Every part carries the conditions under which it is one.

The main statement is that the methods read from the first level of a body are exactly
the signatures of its methods, in order.
-/

namespace ServiceWiring.Source

open Text (isBlank isWordChar isNameStart isNameChar trimStart allBlank isWordChar_of_isBlank
  isWordChar_of_isNameChar isNameChar_of_isNameStart isNameStart_of_isBlank
  dropWhile_append_of_all dropWhile_of_head takeWhile_append_of_head)

/-- Pieces of code one after the other. -/
def Code.concat (pieces : List Code) : Code := pieces.foldr (· ++ ·) .done

/-- Code with nothing but blanks at its first level: blanks, comments and whatever else
counts as a space there. -/
structure Gap where
  code : Code
  fits : code.fits ' ' = true
  blank : allBlank code.firstLevel = true

/-- A gap that is not empty. -/
structure Break extends Gap where
  present : code.firstLevel ≠ []

/-- A name, which starts with a letter or an underscore. -/
structure Name where
  first : Char
  others : List Char
  starts : isNameStart first = true
  goesOn : others.all isNameChar = true

/-- The name as it is written. -/
def Name.text (name : Name) : List Char := name.first :: name.others

/-- What may be said about a method before the word `function`. -/
inductive Modifier
  | access (visibility : Visibility)
  | static
  | final
  | abstract
deriving DecidableEq

namespace Modifier

/-- The word for the modifier. -/
def word : Modifier → String
  | access visibility => visibility.name
  | static => "static"
  | final => "final"
  | abstract => "abstract"

/-- From where the method may be called, if the modifier says so. -/
def access? : Modifier → Option Visibility
  | access visibility => some visibility
  | static | final | abstract => none

end Modifier

/-- A declared method: its modifiers with the breaks behind them, the break behind
`function`, perhaps a `&` with the gap behind it, the name, the parameters, the return type
with its colon, and the body, without which a semicolon ends the method. The return type
does not hold the word `function`, and before a body it does not end with modifiers one of
which is restricting. -/
structure Method where
  modifiers : List (Modifier × Break)
  afterFunction : Break
  byReference : Option Gap
  name : Name
  afterName : Gap
  parameters : Code
  returnType : Code
  body : Option Code
  oneAccess : (modifiers.filterMap fun modifier => modifier.1.access?).length ≤ 1
  parametersFit : parameters.fits ')' = true
  parametersSilent : Nowhere NamesFunction false parameters.firstLevel
  returnTypeFits : returnType.fits (if body.isSome then '\x7b' else ';') = true
  returnTypeSilent : Nowhere StartsWithFunction false returnType.firstLevel
  returnTypeEnd : body.isSome = true → Nowhere Restricts false returnType.firstLevel
  bodyFits : ∀ code ∈ body, code.fits '\x7d' = true

namespace Method

variable (method : Method)

/-- The modifiers and the breaks behind them. -/
def modifierCode : Code :=
  .concat (method.modifiers.map fun modifier =>
    .ofChars modifier.1.word.toList ++ modifier.2.code)

/-- The mark of a method that returns a reference. -/
def referenceCode : Code :=
  match method.byReference with
  | none => .done
  | some gap => .plain '&' gap.code

/-- The block or the semicolon at the end of the method. -/
def endCode : Code :=
  match method.body with
  | none => .plain ';' .done
  | some body => .block body .done

/-- The method as it is written. -/
def code : Code :=
  method.modifierCode ++ (.ofChars "function".toList ++ (method.afterFunction.code ++
    (method.referenceCode ++ (.ofChars method.name.text ++ (method.afterName.code ++
      .plain '(' (method.parameters ++ .plain ')' (method.returnType ++ method.endCode)))))))

/-- From where the method may be called: from everywhere, if no modifier says otherwise. -/
def visibility : Visibility :=
  (method.modifiers.findSome? fun modifier => modifier.1.access?).getD .publicAccess

/-- What a definition of the class says about the method. -/
def signature : MethodSignature :=
  ⟨String.ofList method.name.text, method.visibility, roleOf method.name.text⟩

end Method

/-- A member of a class body. A statement may be anything that ends with a semicolon and
does not name a function at its first level. -/
inductive Member
  | method (method : Method)
  | statement (code : Code) (fits : code.fits ';' = true)
      (silent : Nowhere NamesFunction false code.firstLevel)
  | gap (gap : Gap)

namespace Member

/-- The member as it is written. -/
def code : Member → Code
  | method declared => declared.code
  | statement code _ _ => code ++ .plain ';' .done
  | gap between => between.code

/-- The signatures of a member, of which only methods have one. -/
def signatures : Member → List MethodSignature
  | method declared => [declared.signature]
  | statement .. | gap .. => []

end Member

/-- The code of a class body. -/
def bodyCode (members : List Member) : Code := .concat (members.map Member.code)

/-! ## Modifiers -/

namespace Modifier

/-- The words of the modifiers are those that are recognized. -/
theorem word_mem (modifier : Modifier) : modifier.word ∈ modifierWords := by
  cases modifier with
  | access visibility => cases visibility <;> decide
  | static | final | abstract => decide

/-- The words tell the modifiers apart. -/
theorem word_eq_name_iff (modifier : Modifier) (visibility : Visibility) :
    modifier.word = visibility.name ↔ modifier.access? = some visibility := by
  cases modifier with
  | access other => cases other <;> cases visibility <;> decide
  | static | final | abstract => cases visibility <;> decide

end Modifier

/-- The visibility read from the words of the modifiers is the one that they state. -/
theorem Method.visibilityOf_modifiers (method : Method) :
    visibilityOf (method.modifiers.map fun modifier => modifier.1.word) = method.visibility := by
  have stated : ∀ visibility : Visibility,
      visibility.name ∈ (method.modifiers.map fun modifier => modifier.1.word) ↔
        visibility ∈ method.modifiers.filterMap fun modifier => modifier.1.access? := by
    intro visibility
    simp [List.mem_map, List.mem_filterMap, Modifier.word_eq_name_iff]
  have isPrivate : "private" ∈ _ ↔ _ := stated .privateAccess
  have isProtected : "protected" ∈ _ ↔ _ := stated .protectedAccess
  have oneAccess := method.oneAccess
  rw [Method.visibility, ← List.head?_filterMap]
  generalize method.modifiers.filterMap (fun modifier => modifier.1.access?) = accesses at *
  simp only [visibilityOf, List.contains_iff_mem, isPrivate, isProtected]
  rcases accesses with _ | ⟨visibility, _ | ⟨other, others⟩⟩
  · simp
  · cases visibility <;> simp
  · simp at oneAccess

/-! ## What a method shows -/

/-- A break shows a blank and perhaps more of them. -/
theorem Break.exists_blanks (between : Break) :
    ∃ (c : Char) (blanks : List Char), between.code.firstLevel = c :: blanks ∧
      isBlank c = true ∧ allBlank blanks = true := by
  have blank := between.blank
  cases shown : between.code.firstLevel with
  | nil => exact absurd shown between.present
  | cons c blanks =>
    rw [shown, allBlank, List.all_cons, Bool.and_eq_true] at blank
    exact ⟨c, blanks, rfl, blank.1, blank.2⟩

/-- No blanks are left out before a word. -/
theorem trimStart_word {word : String} (member : word ∈ "function" :: modifierWords)
    (rest : List Char) : trimStart (word.toList ++ rest) = word.toList ++ rest :=
  Text.dropWhile_of_starts (fun _ => isNameStart_of_isBlank)
    (Text.starts_append (isNameStart_of_mem member) rest)

/-- The first level of pieces of code is what they show one after the other. -/
theorem Code.firstLevel_concat (pieces : List Code) :
    (Code.concat pieces).firstLevel = pieces.flatMap Code.firstLevel := by
  induction pieces with
  | nil => rfl
  | cons code pieces inductionHypothesis =>
    rw [Code.concat] at inductionHypothesis ⊢
    rw [List.foldr_cons, Code.firstLevel_append, inductionHypothesis, List.flatMap_cons]

namespace Name

variable (name : Name)

/-- No blanks are left out before a name. -/
theorem trimStart_text (rest : List Char) : trimStart (name.text ++ rest) = name.text ++ rest :=
  Text.dropWhile_of_starts (fun _ => isNameStart_of_isBlank) name.starts

/-- A name is read up to the first character that does not belong to names. -/
theorem name?_text {rest : List Char} (ended : ∀ c ∈ rest.head?, isNameChar c = false) :
    name? (name.text ++ rest) = some (name.text, rest) := by
  rw [Name.text, List.cons_append, name?, if_pos name.starts,
    takeWhile_append_of_head name.goesOn ended, dropWhile_append_of_all name.goesOn,
    dropWhile_of_head ended]

end Name

namespace Method

variable (method : Method)

/-- The modifiers of a method are those that are read before `function`. -/
theorem modifiers_modifierCode {c : Char} (blank : isBlank c = true) (rest : List Char) :
    Source.modifiers (method.modifierCode.firstLevel ++ ("function".toList ++ c :: rest)) =
      (method.modifiers.map fun modifier => modifier.1.word,
        "function".toList ++ c :: rest) := by
  rw [modifierCode, Code.firstLevel_concat, List.flatMap_map]
  simp only [Code.firstLevel_append, Code.firstLevel_ofChars]
  induction method.modifiers with
  | nil => exact modifiers_function blank rest
  | cons modifier others inductionHypothesis =>
    obtain ⟨word, between⟩ := modifier
    obtain ⟨d, blanks, shown, gap, all⟩ := between.exists_blanks
    rw [List.flatMap_cons, List.append_assoc, List.append_assoc, shown, List.cons_append,
      modifiers_word word.word_mem gap, trimStart, dropWhile_append_of_all all]
    have headed : (others.flatMap fun modifier =>
        modifier.1.word.toList ++ modifier.2.code.firstLevel) ++
          ("function".toList ++ c :: rest) = trimStart ((others.flatMap fun modifier =>
        modifier.1.word.toList ++ modifier.2.code.firstLevel) ++
          ("function".toList ++ c :: rest)) := by
      cases others with
      | nil => exact (trimStart_word List.mem_cons_self (c :: rest)).symm
      | cons modifier others =>
        rw [List.flatMap_cons, List.append_assoc, List.append_assoc,
          trimStart_word (List.mem_cons_of_mem _ modifier.1.word_mem)]
    rw [trimStart] at headed
    rw [← headed, inductionHypothesis, List.map_cons]

/-- The mark of a reference is passed over. -/
theorem afterAmpersand_referenceCode (rest : List Char) :
    afterAmpersand (method.referenceCode.firstLevel ++ (method.name.text ++ rest)) =
      method.name.text ++ rest := by
  cases marked : method.byReference with
  | none =>
    have noMark : method.name.first ≠ '&' := by
      intro mark
      have start := method.name.starts
      rw [mark] at start
      exact absurd start (by decide)
    simp [referenceCode, marked, Code.firstLevel, Name.text, afterAmpersand, noMark]
  | some gap =>
    simp only [referenceCode, marked, Code.firstLevel, List.cons_append, afterAmpersand]
    rw [trimStart, dropWhile_append_of_all gap.blank, ← trimStart, method.name.trimStart_text]

/-- No blanks are left out before the mark of a reference or the name. -/
theorem trimStart_referenceCode (rest : List Char) :
    trimStart (method.referenceCode.firstLevel ++ (method.name.text ++ rest)) =
      method.referenceCode.firstLevel ++ (method.name.text ++ rest) := by
  cases marked : method.byReference with
  | none =>
    simp only [referenceCode, marked, Code.firstLevel, List.nil_append]
    exact method.name.trimStart_text rest
  | some gap =>
    apply dropWhile_of_head
    intro c head
    simp only [referenceCode, marked, Code.firstLevel, List.cons_append, List.head?_cons,
      Option.mem_some] at head
    rw [← head]
    decide

/-- What a method shows behind its opening parenthesis. -/
def afterOpening : List Char :=
  method.parameters.firstLevel ++
    ')' :: (method.returnType.firstLevel ++ method.endCode.firstLevel)

/-- A method is read at its beginning. -/
theorem methodAt?_code (following : List Char) :
    methodAt? (method.code.firstLevel ++ following) =
      some (method.modifiers.map fun modifier => modifier.1.word, method.name.text,
        method.afterOpening ++ following) := by
  obtain ⟨c, blanks, shown, blank, all⟩ := method.afterFunction.exists_blanks
  generalize rest : '(' :: (method.afterOpening ++ following) = opened
  have text : method.code.firstLevel ++ following = method.modifierCode.firstLevel ++
      ("function".toList ++ c :: (blanks ++ (method.referenceCode.firstLevel ++
        (method.name.text ++ (method.afterName.code.firstLevel ++ opened))))) := by
    rw [← rest, afterOpening]
    simp [code, shown, Code.firstLevel]
  have read := afterWord?_word "function" blank (blanks ++ (method.referenceCode.firstLevel ++
    (method.name.text ++ (method.afterName.code.firstLevel ++ opened))))
  rw [trimStart, dropWhile_append_of_all all, ← trimStart, trimStart_referenceCode] at read
  have ended : ∀ c ∈ (method.afterName.code.firstLevel ++ opened).head?,
      isNameChar c = false := by
    intro c head
    cases between : method.afterName.code.firstLevel with
    | nil =>
      rw [between, ← rest] at head
      obtain rfl : '(' = c := by simpa using head
      decide
    | cons d blanks =>
      have blank := method.afterName.blank
      rw [between] at head blank
      obtain rfl : d = c := by simpa using head
      rw [allBlank, List.all_cons, Bool.and_eq_true] at blank
      exact Text.isNameChar_of_isBlank blank.1
  have parenthesis : trimStart (method.afterName.code.firstLevel ++ opened) = opened := by
    rw [trimStart, dropWhile_append_of_all method.afterName.blank, ← rest]
    have noBlank : isBlank '(' = false := by decide
    simp [noBlank]
  rw [text, methodAt?, method.modifiers_modifierCode blank]
  simp only [read, afterAmpersand_referenceCode, method.name.name?_text ended, parenthesis]
  simp only [← rest]

/-- Reading a method yields its signature, and reading goes on behind it. -/
theorem methodsFrom_code (following : List Char) :
    methodsFrom false (method.code.firstLevel ++ following) =
      method.signature :: methodsFrom false following := by
  rw [methodsFrom_of_some (method.methodAt?_code following), method.visibilityOf_modifiers,
    afterOpening, List.append_assoc, List.cons_append, List.append_assoc,
    methodsFrom_before_mark (.inl rfl) method.parametersSilent]
  have ended : methodsFrom false
      (method.returnType.firstLevel ++ (method.endCode.firstLevel ++ following)) =
        methodsFrom false following := by
    cases ending : method.body with
    | none =>
      have silent : Nowhere NamesFunction false method.returnType.firstLevel :=
        method.returnTypeSilent.mono startsWithFunction_of_names
      simp only [endCode, ending, Code.firstLevel, List.cons_append, List.nil_append]
      exact methodsFrom_before_mark (.inr rfl) silent
    | some body =>
      simp only [endCode, ending, Code.firstLevel, List.cons_append, List.nil_append]
      have present : method.body.isSome = true := by rw [ending, Option.isSome_some]
      exact methodsFrom_before_block method.returnTypeSilent (method.returnTypeEnd present) _
  rw [ended, signature]

end Method

/-- The methods read from the first level of a class body are its methods, in order. -/
theorem methods_bodyCode (members : List Member) :
    methods (bodyCode members).firstLevel = members.flatMap Member.signatures := by
  rw [methods, bodyCode, Code.firstLevel_concat, List.flatMap_map]
  induction members with
  | nil => rw [List.flatMap_nil, methodsFrom, List.flatMap_nil]
  | cons member members inductionHypothesis =>
    rw [List.flatMap_cons, List.flatMap_cons, ← inductionHypothesis]
    cases member with
    | method declared => exact declared.methodsFrom_code _
    | statement code fits silent =>
      simp only [Member.code, Code.firstLevel_append, Code.firstLevel, Member.signatures,
        List.nil_append, List.append_assoc, List.cons_append]
      exact methodsFrom_before_mark (.inr rfl) silent
    | gap between => exact methodsFrom_blanks between.blank

/-! ## Bodies are code -/

/-- Word characters are plain before every character. -/
theorem isPlain_of_isWordChar {c : Char} (word : isWordChar c = true) (next : Char) :
    isPlain c next = true := by
  have different : ∀ d : Char, isWordChar d = false → c ≠ d := by
    rintro d noWord rfl
    rw [word] at noWord
    exact absurd noWord (by decide)
  simp [isPlain, isQuote, different '\'' (by decide), different '"' (by decide),
    different '#' (by decide), different '\x7b' (by decide), different '\x7d' (by decide),
    different '/' (by decide)]

namespace Code

/-- Whether code that shows only blanks fits does not depend on what follows it. -/
theorem fits_of_blank {code : Code} {next : Char} (fits : code.fits next = true)
    (blank : allBlank code.firstLevel = true) (other : Char) : code.fits other = true := by
  induction code with
  | done => rfl
  | plain c rest inductionHypothesis =>
    simp only [Code.fits, firstLevel, allBlank, List.all_cons, Bool.and_eq_true] at fits blank ⊢
    have noSlash : c ≠ '/' := by
      rintro rfl
      exact absurd blank.1 (by decide)
    refine ⟨?_, inductionHypothesis fits.2 blank.2⟩
    have plain := fits.1
    simp only [isPlain, beq_eq_false_iff_ne.mpr noSlash, Bool.false_and] at plain ⊢
    exact plain
  | quoted | lineComment | blockComment | attributes | block =>
    simp_all [Code.fits, firstLevel, allBlank]

/-- Pieces of code that each fit before every character fit one after the other. -/
theorem fits_concat {pieces : List Code} (fit : ∀ code ∈ pieces, ∀ next, code.fits next = true)
    (next : Char) : (concat pieces).fits next = true := by
  induction pieces with
  | nil => rfl
  | cons code pieces inductionHypothesis =>
    have others := inductionHypothesis fun code member => fit code (List.mem_cons_of_mem _ member)
    rw [concat] at others ⊢
    rw [List.foldr_cons, fits_append, others, fit code List.mem_cons_self, Bool.and_self]

/-- Word characters make code. -/
theorem fits_word {word : List Char} (all : ∀ c ∈ word, isWordChar c = true) (next : Char) :
    (ofChars word).fits next = true :=
  fits_ofChars (fun c member => isPlain_of_isWordChar (all c member)) next

end Code

/-- A gap fits before every character. -/
theorem Gap.fits_code (gap : Gap) (next : Char) : gap.code.fits next = true :=
  Code.fits_of_blank gap.fits gap.blank next

/-- The characters of a name are word characters. -/
theorem Name.isWordChar_text (name : Name) : ∀ c ∈ name.text, isWordChar c = true := by
  intro c member
  rw [Name.text, List.mem_cons] at member
  rcases member with rfl | member
  · exact isWordChar_of_isNameChar (isNameChar_of_isNameStart name.starts)
  · exact isWordChar_of_isNameChar (List.all_eq_true.mp name.goesOn c member)

/-- A method fits before every character. -/
theorem Method.fits_code (method : Method) (next : Char) : method.code.fits next = true := by
  have modifiers : ∀ next, method.modifierCode.fits next = true := by
    intro next
    refine Code.fits_concat (fun code member next => ?_) next
    obtain ⟨modifier, _, rfl⟩ := List.mem_map.mp member
    have letters := Code.fits_word fun c (inside : c ∈ modifier.1.word.toList) =>
      isWordChar_of_mem (List.mem_cons_of_mem _ modifier.1.word_mem) inside
    rw [Code.fits_append, letters, modifier.2.fits_code, Bool.and_self]
  have function : ∀ next, (Code.ofChars "function".toList).fits next = true :=
    Code.fits_word fun c => isWordChar_of_mem List.mem_cons_self
  have reference : ∀ next, method.referenceCode.fits next = true := by
    intro next
    rw [referenceCode]
    cases method.byReference with
    | none => rfl
    | some gap =>
      simp only [Code.fits, gap.fits_code next, Bool.and_true]
      rfl
  have name := Code.fits_word method.name.isWordChar_text
  have opening : ∀ next, isPlain '(' next = true := fun _ => rfl
  have closing : ∀ next, isPlain ')' next = true := fun _ => rfl
  have ending : method.returnType.fits (method.endCode.text.headD next) = true ∧
      method.endCode.fits next = true := by
    have returnTypeFits := method.returnTypeFits
    have bodyFits := method.bodyFits
    rw [endCode]
    cases body : method.body with
    | none =>
      rw [body] at returnTypeFits
      exact ⟨returnTypeFits, rfl⟩
    | some code =>
      rw [body] at returnTypeFits
      refine ⟨returnTypeFits, ?_⟩
      simp [Code.fits, bodyFits code body]
  simp only [code, Code.fits_append, Code.fits, Code.text, List.headD_cons, modifiers, function,
    method.afterFunction.fits_code, reference, name, method.afterName.fits_code, opening, closing,
    method.parametersFit, ending, Bool.and_self]

/-- A class body fits before every character. -/
theorem fits_bodyCode (members : List Member) (next : Char) :
    (bodyCode members).fits next = true := by
  refine Code.fits_concat (fun code listed next => ?_) next
  obtain ⟨member, _, rfl⟩ := List.mem_map.mp listed
  cases member with
  | method declared => exact declared.fits_code next
  | statement code fits silent =>
    have semicolon : isPlain ';' next = true := rfl
    simp [Member.code, Code.fits, Code.text, fits, semicolon]
  | gap between => exact between.fits_code next

end ServiceWiring.Source
