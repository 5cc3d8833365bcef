import ServiceWiring.Proofs.Class.Code
import ServiceWiring.Proofs.Class.Sections

/-!
# Comments before a class

A comment may stand on lines of its own anywhere before the line that declares a class. The
search for the class and for its namespace goes through the lines of the text as they are, so
that the lines of a comment behind its first one can be taken for declarations.

The main statement compares a text with the same text without such a comment, for every comment
and every place between two lines before the class. A line comment changes nothing. A block
comment leaves kind and methods as they are when none of its lines reads as the declaration of a
class, and the name as well unless the first namespace in it takes the place of another one; the
first of its lines that does read as a declaration is taken for the class.
-/

namespace ServiceWiring.Source

open Text (isNameChar allBlank splitOnChar trimMatches exists_span splitOnChar_of_lacks
  splitOnChar_append not_mem_of_mem_splitOnChar)

/-- Whether a text is blank and part of one line. -/
def IsMargin (text : List Char) : Prop := allBlank text = true ∧ '\n' ∉ text

/-- A margin may be empty. -/
theorem isMargin_nil : IsMargin [] := ⟨rfl, List.not_mem_nil⟩

/-- A comment with nothing but blanks around it on its lines. -/
structure LoneComment where
  indent : List Char
  comment : LineComment ⊕ BlockComment
  trail : List Char
  indentMargin : IsMargin indent
  trailMargin : IsMargin trail

namespace LoneComment

variable (comment : LoneComment)

/-- The comment with the blanks around it. -/
def text : List Char :=
  comment.indent ++ comment.comment.elim LineComment.text BlockComment.text ++ comment.trail

/-- The lines of the comment. -/
def lines : List (List Char) := splitOnChar '\n' comment.text

/-- The lines behind the first one. -/
def furtherLines : List (List Char) := comment.lines.tail

end LoneComment

/-- The namespace that some lines declare first; nothing if none of them declares one. -/
def firstSpace (lines : List (List Char)) : List Char :=
  (lines.findSome? namespaceAt?).getD []

/-- Whether lines that are inserted between others keep the namespace that is found in them, up to
separators around it: one is declared before them, or none of them declares one, or the first one
in them is that of the lines behind them. -/
def KeepsNamespace (naming : Naming) (earlier inserted later : List (List Char)) : Prop :=
  (∃ line ∈ earlier, ReadsAsNamespace line) ∨
    ∀ space, FirstNamespace inserted space →
      trimMatches naming.separator.toList.contains space =
        trimMatches naming.separator.toList.contains (firstSpace later)

/-! ## Lines that read as declarations -/

/-- What starts with the words of a declaration is the beginning of a class line. -/
theorem Declares.exists_classLine {text : List Char} (declares : Declares text) :
    ∃ (line : ClassLine) (behind : List Char), line.indent = [] ∧ text = line.text ++ behind ∧
      ∀ c ∈ behind.head?, isNameChar c = false := by
  induction declares with
  | @keyword keyword listed spaces c starts rest =>
    have kinds : ∀ keyword ∈ ["class", "interface", "trait", "enum"],
        ∃ kind : ClassKind, kind.name = keyword := by
      simp only [List.forall_mem_cons, List.not_mem_nil, false_imp_iff, implies_true, and_true]
      exact ⟨⟨.classKind, rfl⟩, ⟨.interfaceKind, rfl⟩, ⟨.traitKind, rfl⟩, ⟨.enumKind, rfl⟩⟩
    obtain ⟨kind, rfl⟩ := kinds keyword listed
    obtain ⟨others, goesOn, split, ended⟩ := exists_span isNameChar rest
    refine ⟨⟨[], [], kind, spaces, ⟨c, others, starts, goesOn⟩, rfl⟩, _, rfl, ?_, ended⟩
    conv => lhs; rw [split]
    simp [ClassLine.text, ClassLine.modifierText, Name.text]
  | @modifier word listed spaces rest _ inductionHypothesis =>
    have modifiers : ∀ word ∈ ["abstract", "final", "readonly"],
        ∃ modifier : ClassModifier, modifier.word = word := by
      simp only [List.forall_mem_cons, List.not_mem_nil, false_imp_iff, implies_true, and_true]
      exact ⟨⟨.abstract, rfl⟩, ⟨.final, rfl⟩, ⟨.readonly, rfl⟩⟩
    obtain ⟨modifier, rfl⟩ := modifiers word listed
    obtain ⟨line, behind, unindented, rfl, ended⟩ := inductionHypothesis
    refine ⟨{ line with modifiers := (modifier, spaces) :: line.modifiers }, behind, unindented,
      ?_, ended⟩
    simp [ClassLine.text, ClassLine.modifierText, unindented]

/-- A line that reads as a declaration is a class line with something behind it. -/
theorem ReadsAsDeclaration.exists_classLine {line : List Char}
    (reads : ReadsAsDeclaration line) :
    ∃ (classLine : ClassLine) (behind : List Char), line = classLine.text ++ behind ∧
      ∀ c ∈ behind.head?, isNameChar c = false := by
  obtain ⟨indent, rest, rfl, indented, declares⟩ := reads
  obtain ⟨classLine, behind, unindented, rfl, ended⟩ := declares.exists_classLine
  refine ⟨{ classLine with indent, indented }, behind, ?_, ended⟩
  simp [ClassLine.text, ClassLine.modifierText, unindented]

/-! ## The lines of a comment -/

namespace LoneComment

variable (comment : LoneComment)

/-- No line of a comment goes on behind its end. -/
theorem oneLine {line : List Char} (member : line ∈ comment.lines) : '\n' ∉ line :=
  not_mem_of_mem_splitOnChar member

/-- A comment begins with a mark that is neither blank nor part of a word. -/
theorem exists_mark : ∃ mark rest, comment.text = comment.indent ++ mark :: rest ∧
    (mark = '/' ∨ mark = '#') := by
  rw [text, List.append_assoc]
  rcases comment.comment with line | block
  · rcases line.marked with ⟨rest, slashes⟩ | ⟨sharp, -⟩
    · exact ⟨'/', _, congrArg _ (congrArg (· ++ comment.trail) slashes.symm), .inl rfl⟩
    · obtain ⟨rest, split⟩ := List.head?_eq_some_iff.mp sharp
      exact ⟨'#', _, congrArg _ (congrArg (· ++ comment.trail) split), .inr rfl⟩
  · exact ⟨'/', _, rfl, .inl rfl⟩

/-- The first line of a comment reads as nothing. -/
theorem exists_firstLine : ∃ first, comment.lines = first :: comment.furtherLines ∧ Bare first := by
  obtain ⟨mark, rest, split, marked⟩ := comment.exists_mark
  have lacks : '\n' ∉ comment.indent ++ [mark] := by
    have noFeed : mark ≠ '\n' := by
      rcases marked with rfl | rfl <;> decide
    simp [comment.indentMargin.2, noFeed.symm]
  obtain ⟨part, parts, -, whole⟩ := splitOnChar_append lacks rest
  have lines : comment.lines = (comment.indent ++ mark :: part) :: parts := by
    rw [LoneComment.lines, split]
    simpa using whole
  refine ⟨comment.indent ++ mark :: part, by rw [furtherLines, lines, List.tail_cons], ?_⟩
  rcases marked with rfl | rfl
  · exact bare_of_mark comment.indentMargin.1 (by decide) (by decide) part
  · exact bare_of_mark comment.indentMargin.1 (by decide) (by decide) part

/-- A line comment has no line but its first. -/
theorem furtherLines_of_line {line : LineComment} (isLine : comment.comment = .inl line) :
    comment.furtherLines = [] := by
  have lacks : '\n' ∉ comment.text := by
    simp [text, isLine, comment.indentMargin.2, comment.trailMargin.2, line.oneLine]
  rw [furtherLines, lines, splitOnChar_of_lacks lacks, List.tail_cons]

end LoneComment

/-! ## What is found behind lines -/

/-- A line that reads as a declaration is taken for the class, whatever follows it. -/
theorem ClassLine.declarationAt?_line (line : ClassLine) {behind : List Char}
    (ended : ∀ c ∈ behind.head?, isNameChar c = false) (following : List Char) :
    declarationAt? (line.text ++ behind ++ '\n' :: following) =
      some (⟨line.kind, line.name.text⟩, behind ++ '\n' :: following) := by
  rw [List.append_assoc]
  apply line.declarationAt?_text
  intro c head
  cases behind with
  | nil =>
    obtain rfl : '\n' = c := by simpa using head
    decide
  | cons d behind => exact ended c head

/-- Nothing is found in a line exactly if it does not read as a declaration. -/
theorem declarationAt?_eq_none_iff {line following : List Char} :
    declarationAt? (line ++ '\n' :: following) = none ↔ ¬ReadsAsDeclaration line := by
  constructor
  · intro none reads
    obtain ⟨classLine, behind, rfl, ended⟩ := reads.exists_classLine
    rw [classLine.declarationAt?_line ended] at none
    contradiction
  · exact fun silent => declarationAt?_of_not_reads silent following

/-- No line before the declaration that is found reads as one. -/
theorem not_reads_of_declaration? {lines : List (List Char)}
    (oneLine : ∀ line ∈ lines, '\n' ∉ line) {rest : List Char} {result : Declared × List Char}
    (found : declaration? (linesText lines ++ rest) = some (linesText lines, result)) :
    (∀ line ∈ lines, ¬ReadsAsDeclaration line) ∧ declaration? rest = some ([], result) := by
  induction lines with
  | nil => exact ⟨by simp, found⟩
  | cons line lines inductionHypothesis =>
    obtain ⟨own, others⟩ := List.forall_mem_cons.mp oneLine
    rw [linesText_cons, List.append_assoc, List.cons_append] at found
    cases here : declarationAt? (line ++ '\n' :: (linesText lines ++ rest)) with
    | some other =>
      rw [declaration?_of_declared here] at found
      have nothing := congrArg Prod.fst (Option.some.inj found)
      simp at nothing
    | none =>
      rw [declaration?_of_undeclared own here] at found
      obtain ⟨⟨before, further⟩, later, same⟩ := Option.map_eq_some_iff.mp found
      obtain ⟨front, rfl⟩ := Prod.mk.inj same
      obtain rfl : before = linesText lines := by simpa using front
      obtain ⟨silent, declared⟩ := inductionHypothesis others later
      exact ⟨List.forall_mem_cons.mpr ⟨declarationAt?_eq_none_iff.mp here, silent⟩, declared⟩

/-- The first namespace of some lines and others is that of the others only if the lines declare
none. -/
theorem firstSpace_append (lines others : List (List Char)) :
    firstSpace (lines ++ others) = (lines.findSome? namespaceAt?).getD (firstSpace others) := by
  rw [firstSpace, List.findSome?_append]
  cases lines.findSome? namespaceAt? <;> rfl

/-- Lines that are inserted keep the namespace exactly if the first one is the same with them. -/
theorem keepsNamespace_iff (naming : Naming) (earlier inserted later : List (List Char)) :
    KeepsNamespace naming earlier inserted later ↔
      trimMatches naming.separator.toList.contains
          (firstSpace (earlier ++ inserted ++ later)) =
        trimMatches naming.separator.toList.contains (firstSpace (earlier ++ later)) := by
  rw [KeepsNamespace, List.append_assoc, firstSpace_append, firstSpace_append, firstSpace_append]
  simp only [firstNamespace_iff]
  have declares : (∃ line ∈ earlier, ReadsAsNamespace line) ↔
      (earlier.findSome? namespaceAt?).isSome = true := by
    rw [List.findSome?_isSome_iff]
    simp only [readsAsNamespace_iff, ← namespaceAt?_eq_some_iff, Option.isSome_iff_exists]
  rw [declares]
  cases earlier.findSome? namespaceAt? with
  | some space => simp
  | none => cases inserted.findSome? namespaceAt? <;> simp

end ServiceWiring.Source

namespace ServiceWiring

open Source
open Text (isNameChar)

/-- What a source text is read as, given the lines before its first declaration. -/
theorem ClassDefinition.ofSource?_lines (naming : Naming) {source : String}
    {lines : List (List Char)} {rest after : List Char} {declared : Declared}
    (silent : ∀ line ∈ lines, '\n' ∉ line ∧ ¬ReadsAsDeclaration line)
    (text : source.toList = linesText lines ++ rest)
    (here : declaration? rest = some ([], declared, after)) :
    ∃ definition, ofSource? naming source = some definition ∧
      definition.id = naming.qualify (some (String.ofList (firstSpace lines)))
        (String.ofList declared.name) ∧
      definition.kind = declared.kind ∧ definition.methods = Source.methods (members after) := by
  have found : declaration? source.toList = some (linesText lines, declared, after) := by
    rw [text, declaration?_lines silent, here, Option.map_some, List.append_nil]
  refine ⟨_, by rw [ofSource?, found, Option.map_some], ?_, rfl, rfl⟩
  dsimp only
  rw [namespace?_linesText fun line member => (silent line member).1, firstSpace]
  cases lines.findSome? namespaceAt? <;> rfl

/-- Lines that do not read as the declaration of a class leave kind and methods of the class behind
them as they are, and its name unless the first namespace in them takes the place of another. -/
theorem ClassDefinition.ofSource?_insertLines (naming : Naming) {source extended : String}
    {earlier inserted later : List (List Char)} {rest after : List Char} {declared : Declared}
    (silent : ∀ line ∈ earlier ++ later, '\n' ∉ line ∧ ¬ReadsAsDeclaration line)
    (insertedSilent : ∀ line ∈ inserted, '\n' ∉ line ∧ ¬ReadsAsDeclaration line)
    (text : source.toList = linesText (earlier ++ later) ++ rest)
    (extendedText : extended.toList = linesText (earlier ++ inserted ++ later) ++ rest)
    (here : declaration? rest = some ([], declared, after)) {definition : ClassDefinition}
    (read : ofSource? naming source = some definition) :
    ∃ other, ofSource? naming extended = some other ∧
      other.kind = definition.kind ∧ other.methods = definition.methods ∧
      (other.id = definition.id ↔ KeepsNamespace naming earlier inserted later) := by
  obtain ⟨_, found, id, kind, methods⟩ := ofSource?_lines naming silent text here
  obtain rfl := Option.some.inj (read.symm.trans found)
  have allSilent : ∀ line ∈ earlier ++ inserted ++ later,
      '\n' ∉ line ∧ ¬ReadsAsDeclaration line := by
    obtain ⟨earlierSilent, laterSilent⟩ := List.forall_mem_append.mp silent
    exact List.forall_mem_append.mpr
      ⟨List.forall_mem_append.mpr ⟨earlierSilent, insertedSilent⟩, laterSilent⟩
  obtain ⟨other, otherRead, otherId, otherKind, otherMethods⟩ :=
    ofSource?_lines naming allSilent extendedText here
  refine ⟨other, otherRead, otherKind.trans kind.symm, otherMethods.trans methods.symm, ?_⟩
  rw [otherId, id, naming.qualify_eq_iff, keepsNamespace_iff]

/-- What becomes of a class when a comment is inserted on lines of its own somewhere before it. A
line comment changes neither the name of the class nor its kind nor its methods. A block comment
without a line that reads as the declaration of a class keeps kind and methods, and keeps the name
exactly if a line before it declares a namespace, or no line of it does, or the first namespace in
it is the one of the lines behind it, up to separators around it. Otherwise the first line of the
comment that reads as a declaration is taken for that of the class, with the namespace declared
before that line.

Proof: the first line of a comment begins with its mark and reads as nothing. The lines before the
class read as no declaration of one, so the search gets to the comment, and past it if it has no
such line either. -/
theorem ClassDefinition.ofSource?_insertComment (naming : Naming) (comment : LoneComment)
    {source commented : String} {earlier later : List (List Char)} {rest after : List Char}
    {declared : Declared} (oneLine : ∀ line ∈ earlier ++ later, '\n' ∉ line)
    (text : source.toList = linesText (earlier ++ later) ++ rest)
    (found : declaration? source.toList =
      some (linesText (earlier ++ later), declared, after))
    (commentedText : commented.toList = linesText (earlier ++ comment.lines ++ later) ++ rest) :
    ∃ definition, ofSource? naming source = some definition ∧
      (∀ line, comment.comment = .inl line → ∃ other, ofSource? naming commented = some other ∧
        other.id = definition.id ∧ other.kind = definition.kind ∧
        other.methods = definition.methods) ∧
      ((∀ line ∈ comment.furtherLines, ¬ReadsAsDeclaration line) →
        ∃ other, ofSource? naming commented = some other ∧
          other.kind = definition.kind ∧ other.methods = definition.methods ∧
          (other.id = definition.id ↔ KeepsNamespace naming earlier comment.furtherLines later)) ∧
      ∀ passed line others, comment.furtherLines = passed ++ line :: others →
        (∀ other ∈ passed, ¬ReadsAsDeclaration other) → ReadsAsDeclaration line →
        ∃ (classLine : ClassLine) (behind : List Char) (other : ClassDefinition),
          line = classLine.text ++ behind ∧ (∀ c ∈ behind.head?, isNameChar c = false) ∧
          ofSource? naming commented = some other ∧ other.kind = classLine.kind ∧
          other.id = naming.qualify (some (String.ofList (firstSpace (earlier ++ passed))))
            (String.ofList classLine.name.text) ∧
          other.methods =
            Source.methods (members (behind ++ '\n' :: linesText (others ++ later) ++ rest)) := by
  rw [text] at found
  obtain ⟨noClass, here⟩ := not_reads_of_declaration? oneLine found
  have silent : ∀ line ∈ earlier ++ later, '\n' ∉ line ∧ ¬ReadsAsDeclaration line :=
    fun line member => ⟨oneLine line member, noClass line member⟩
  obtain ⟨definition, read, -⟩ := ofSource?_lines naming silent text here
  obtain ⟨first, lines, bare⟩ := comment.exists_firstLine
  have noSpace : namespaceAt? first = none := namespaceAt?_eq_none_iff.mpr bare.not_readsAsNamespace
  -- Only the lines behind the first one can stop the search.
  have passedOver : ∀ passed ⊆ comment.furtherLines,
      (∀ line ∈ passed, ¬ReadsAsDeclaration line) →
        ∀ line ∈ first :: passed, '\n' ∉ line ∧ ¬ReadsAsDeclaration line := by
    intro passed among noDeclaration line member
    have listed : line ∈ comment.lines := lines ▸ List.cons_subset_cons first among member
    refine ⟨comment.oneLine listed, ?_⟩
    rcases List.mem_cons.mp member with rfl | member
    · exact bare.not_readsAsDeclaration
    · exact noDeclaration line member
  have undeclared : (∀ line ∈ comment.furtherLines, ¬ReadsAsDeclaration line) →
      ∃ other, ofSource? naming commented = some other ∧
        other.kind = definition.kind ∧ other.methods = definition.methods ∧
        (other.id = definition.id ↔ KeepsNamespace naming earlier comment.furtherLines later) := by
    intro noDeclaration
    have commentSilent := passedOver _ (List.Subset.refl _) noDeclaration
    rw [lines] at commentedText
    have inserted := ofSource?_insertLines naming silent commentSilent text commentedText here read
    simpa only [KeepsNamespace, firstNamespace_iff, List.findSome?_cons, noSpace] using inserted
  refine ⟨definition, read, ?_, undeclared, ?_⟩
  · intro line isLine
    have none := comment.furtherLines_of_line isLine
    obtain ⟨other, otherRead, kind, methods, id⟩ := undeclared (by simp [none])
    refine ⟨other, otherRead, id.mpr (.inr ?_), kind, methods⟩
    simp [none, firstNamespace_iff]
  · intro passed line others split passedSilent reads
    obtain ⟨classLine, behind, rfl, ended⟩ := reads.exists_classLine
    have declaredHere := declaration?_of_declared
      (classLine.declarationAt?_line ended (linesText (others ++ later) ++ rest))
    have frontSilent : ∀ line ∈ earlier ++ first :: passed,
        '\n' ∉ line ∧ ¬ReadsAsDeclaration line :=
      List.forall_mem_append.mpr ⟨(List.forall_mem_append.mp silent).1,
        passedOver passed (split ▸ List.subset_append_left _ _) passedSilent⟩
    have front : commented.toList = linesText (earlier ++ first :: passed) ++
        (classLine.text ++ behind ++ '\n' :: (linesText (others ++ later) ++ rest)) := by
      rw [commentedText, lines, split]
      simp [linesText]
    obtain ⟨other, otherRead, otherId, otherKind, otherMethods⟩ :=
      ofSource?_lines naming frontSilent front declaredHere
    refine ⟨classLine, behind, other, rfl, ended, otherRead, otherKind, ?_, ?_⟩
    · rw [otherId, firstSpace_append, firstSpace_append, firstSpace, List.findSome?_cons, noSpace]
      rfl
    · simpa using otherMethods

/-- A notice of a licence. -/
def licenceNotice : LoneComment where
  indent := []
  comment := .inr ⟨"\nNo part of this\nclass may be sold.\n".toList, by decide⟩
  trail := []
  indentMargin := isMargin_nil
  trailMargin := isMargin_nil

/-- A text that declares a class in a namespace. -/
def unlicensedSource : String := "<?php\nnamespace App;\nclass Mailer \x7b\x7d\n"

/-- The text with the notice before the line of the namespace. -/
def licensedSource : String :=
  "<?php\n/*\nNo part of this\nclass may be sold.\n*/\n" ++
    "namespace App;\nclass Mailer \x7b\x7d\n"

/-- The second word of a line in the notice is taken for the name of the class. -/
theorem ClassDefinition.ofSource?_insertComment_licence :
    ∃ other, ofSource? .standard licensedSource = some other ∧ other.id = "may" := by
  have oneLine : ∀ line ∈ ["<?php".toList] ++ ["namespace App;".toList], '\n' ∉ line := by decide
  have text : unlicensedSource.toList =
      linesText (["<?php".toList] ++ ["namespace App;".toList]) ++
        "class Mailer \x7b\x7d\n".toList := by
    decide
  have found : declaration? unlicensedSource.toList =
      some (linesText (["<?php".toList] ++ ["namespace App;".toList]),
        ⟨.classKind, "Mailer".toList⟩, " \x7b\x7d\n".toList) := by
    decide +kernel
  have licensed : licensedSource.toList =
      linesText (["<?php".toList] ++ licenceNotice.lines ++ ["namespace App;".toList]) ++
        "class Mailer \x7b\x7d\n".toList := by
    decide
  obtain ⟨-, -, -, -, taken⟩ :=
    ofSource?_insertComment .standard licenceNotice oneLine text found licensed
  have passed : declarationAt? ("No part of this".toList ++ ['\n']) = none := by decide +kernel
  have silent : ∀ line ∈ ["No part of this".toList], ¬ReadsAsDeclaration line :=
    List.forall_mem_singleton.mpr (declarationAt?_eq_none_iff.mp passed)
  have here : declarationAt? ("class may be sold.".toList ++ ['\n']) =
      some (⟨.classKind, "may".toList⟩, " be sold.\n".toList) := by
    decide +kernel
  have reads : ReadsAsDeclaration "class may be sold.".toList := by
    by_contra unread
    exact Option.some_ne_none _ (here.symm.trans (declarationAt?_eq_none_iff.mpr unread))
  obtain ⟨classLine, behind, other, split, ended, read, -, id, -⟩ :=
    taken _ _ ["*/".toList] (by decide) silent reads
  rw [split, classLine.declarationAt?_line ended, Option.some.injEq, Prod.mk.injEq,
    Declared.mk.injEq] at here
  refine ⟨other, read, ?_⟩
  rw [id, here.1.2]
  decide

/-- A comment that declares nothing gives a class another name. -/
theorem ClassDefinition.ofSource?_licensedSource :
    ofSource? .standard unlicensedSource = some ⟨"App\\Mailer", .classKind, none, []⟩ ∧
      ofSource? .standard licensedSource = some ⟨"may", .classKind, none, []⟩ := by
  decide +kernel

end ServiceWiring
