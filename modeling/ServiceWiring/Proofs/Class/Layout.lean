import ServiceWiring.Class.Source
import ServiceWiring.Proofs.Class.DocComment

/-!
# Source texts that declare one class

The layout of a source text: lines that declare nothing, perhaps the line that declares a
namespace, perhaps a documentation block and lines with attributes, the line that declares
the class, what the class extends, its body, and any text behind it. Every part carries the
conditions under which it is one.

The main statement is that a text laid out like this defines exactly the class that it
declares: its name in its namespace, its kind, its documentation block and its methods.
-/

namespace ServiceWiring.Source

open Text (isGap isNameChar not_mem_of_all not_mem_of_mem_splitOnChar)

/-- A line that reads as no declaration. -/
structure PlainLine where
  text : List Char
  oneLine : '\n' ∉ text
  noDeclaration : ¬ReadsAsDeclaration text
  noNamespace : ¬ReadsAsNamespace text

/-- The lines of a source text before its documentation block. -/
structure Preamble where
  opening : List PlainLine
  space : Option NamespaceLine
  between : List PlainLine

/-- The lines, in order. -/
def Preamble.lines (preamble : Preamble) : List (List Char) :=
  preamble.opening.map PlainLine.text ++ (preamble.space.map NamespaceLine.text).toList ++
    preamble.between.map PlainLine.text

/-- A source text that declares one class. The header is what stands between the name of the
class and its body. Without a documentation block, no other comment must stand right before
the class. -/
structure Layout where
  preamble : Preamble
  doc : Option DocBlock
  skipped : List SkippedLine
  line : ClassLine
  header : Code
  members : List Member
  tail : List Char
  noComment : doc = none → endsInComment preamble.lines = false
  nameEnds : ∀ c ∈ header.text.head?, isNameChar c = false
  headerFits : header.fits '\x7b' = true
  headerFlat : header.flat = true

namespace Layout

variable (layout : Layout)

/-- The lines of the documentation block, if there is one. -/
def docLines : List (List Char) :=
  match layout.doc with
  | none => []
  | some doc => doc.lines

/-- The lines before the one that declares the class. -/
def linesBefore : List (List Char) :=
  layout.preamble.lines ++ layout.docLines ++ layout.skipped.map SkippedLine.text

/-- The text behind the name of the class. -/
def textAfter : List Char :=
  layout.header.text ++ '\x7b' :: ((bodyCode layout.members).text ++ '\x7d' :: layout.tail)

/-- The whole text. -/
def text : List Char := linesText layout.linesBefore ++ (layout.line.text ++ layout.textAfter)

/-- The class that the text declares. -/
def definition (naming : Naming) : ClassDefinition where
  id := naming.qualify (layout.preamble.space.map fun line => String.ofList line.name)
    (String.ofList layout.line.name.text)
  kind := layout.line.kind
  docComment := layout.doc.map fun doc => String.ofList doc.block
  methods := layout.members.flatMap Member.signatures

end Layout

/-- The line that declares a namespace is one line. -/
theorem NamespaceLine.oneLine_text (line : NamespaceLine) : '\n' ∉ line.text := by
  have noGap : isGap '\n' = false := by decide
  have noNamespace : isNamespaceChar '\n' = false := by decide
  have first : '\n' ≠ line.first := by
    intro same
    have starts := line.starts
    rw [← same] at starts
    exact absurd starts (by decide)
  simp [text, name, first, line.spaces.not_mem_text, not_mem_of_all noGap line.indented,
    not_mem_of_all noNamespace line.goesOn, not_mem_of_all noGap line.allGap, line.oneLine]

namespace Preamble

variable (preamble : Preamble)

/-- No line before the documentation block reads as the declaration of a class. -/
theorem silent_of_mem {line : List Char} (member : line ∈ preamble.lines) :
    '\n' ∉ line ∧ ¬ReadsAsDeclaration line := by
  rw [lines, List.mem_append, List.mem_append, List.mem_map, List.mem_map] at member
  rcases member with (⟨plain, _, rfl⟩ | space) | ⟨plain, _, rfl⟩
  · exact ⟨plain.oneLine, plain.noDeclaration⟩
  · cases declared : preamble.space with
    | none => simp [declared] at space
    | some namespaceLine =>
      obtain rfl : line = namespaceLine.text := by simpa [declared] using space
      exact ⟨namespaceLine.oneLine_text, namespaceLine.not_readsAsDeclaration⟩
  · exact ⟨plain.oneLine, plain.noDeclaration⟩

/-- The namespace found in the lines before a class is the one that they declare, whatever
other lines follow that read as none. -/
theorem namespace?_lines {others : List (List Char)}
    (silent : ∀ line ∈ others, '\n' ∉ line ∧ ¬ReadsAsNamespace line) :
    Source.namespace? (linesText (preamble.lines ++ others)) =
      preamble.space.map NamespaceLine.name := by
  have opening : ∀ line ∈ preamble.opening.map PlainLine.text,
      '\n' ∉ line ∧ ¬ReadsAsNamespace line := by
    intro line member
    obtain ⟨plain, _, rfl⟩ := List.mem_map.mp member
    exact ⟨plain.oneLine, plain.noNamespace⟩
  have between : ∀ line ∈ preamble.between.map PlainLine.text,
      '\n' ∉ line ∧ ¬ReadsAsNamespace line := by
    intro line member
    obtain ⟨plain, _, rfl⟩ := List.mem_map.mp member
    exact ⟨plain.oneLine, plain.noNamespace⟩
  cases declared : preamble.space with
  | none =>
    have all : ∀ line ∈ preamble.lines ++ others, '\n' ∉ line ∧ ¬ReadsAsNamespace line := by
      intro line member
      simp only [lines, declared, Option.map_none, Option.toList_none, List.append_nil,
        List.mem_append] at member
      rcases member with (member | member) | member
      · exact opening line member
      · exact between line member
      · exact silent line member
    have none : namespace? [] = none := by
      rw [namespace?]
      rfl
    rw [← List.append_nil (linesText (preamble.lines ++ others)), Source.namespace?_lines all,
      none, Option.map_none]
  | some line =>
    have shape : linesText (preamble.lines ++ others) =
        linesText (preamble.opening.map PlainLine.text) ++ (line.text ++
          '\n' :: linesText (preamble.between.map PlainLine.text ++ others)) := by
      simp [lines, declared, linesText]
    rw [shape, Source.namespace?_lines opening,
      Source.namespace?_of_declared (line.namespaceAt?_text _), Option.map_some]

end Preamble

namespace Layout

variable (layout : Layout)

/-- The lines of a documentation block and the skipped lines read as nothing. -/
theorem silent_of_mem {line : List Char}
    (member : line ∈ layout.docLines ++ layout.skipped.map SkippedLine.text) :
    '\n' ∉ line ∧ Bare line := by
  rw [List.mem_append, List.mem_map] at member
  rcases member with member | ⟨skipped, _, rfl⟩
  · rw [docLines] at member
    cases documented : layout.doc with
    | none => simp [documented] at member
    | some doc =>
      rw [documented] at member
      exact ⟨not_mem_of_mem_splitOnChar member, doc.bare_of_mem member⟩
  · exact ⟨skipped.text_spec.1, skipped.bare_text⟩

/-- The first declaration is that of the class. -/
theorem declaration?_text :
    declaration? layout.text =
      some (linesText layout.linesBefore, ⟨layout.line.kind, layout.line.name.text⟩,
        layout.textAfter) := by
  have silent : ∀ line ∈ layout.linesBefore, '\n' ∉ line ∧ ¬ReadsAsDeclaration line := by
    intro line member
    rw [linesBefore, List.append_assoc, List.mem_append] at member
    rcases member with member | member
    · exact layout.preamble.silent_of_mem member
    · obtain ⟨oneLine, bare⟩ := layout.silent_of_mem member
      exact ⟨oneLine, bare.not_readsAsDeclaration⟩
  have ended : ∀ c ∈ layout.textAfter.head?, isNameChar c = false := by
    intro c head
    have nameEnds := layout.nameEnds
    rw [textAfter] at head
    cases header : layout.header.text with
    | nil =>
      obtain rfl : '\x7b' = c := by simpa [header] using head
      decide
    | cons d rest =>
      rw [header] at head nameEnds
      exact nameEnds c (by simpa using head)
  rw [text, declaration?_lines silent,
    declaration?_of_declared (layout.line.declarationAt?_text ended), Option.map_some,
    List.append_nil]

/-- The comment before the class is its documentation block. -/
theorem docComment?_linesBefore :
    docComment? (linesText layout.linesBefore) = layout.doc.map DocBlock.block := by
  rw [linesBefore, docLines]
  cases documented : layout.doc with
  | none =>
    rw [List.append_nil, Option.map_none]
    exact docComment?_of_not_endsInComment (fun line member =>
      (layout.preamble.silent_of_mem member).1) (layout.noComment documented) layout.skipped
  | some doc => exact doc.docComment?_block layout.preamble.lines layout.skipped

/-- The namespace before the class is the one that is declared there. -/
theorem namespace?_linesBefore :
    Source.namespace? (linesText layout.linesBefore) =
      layout.preamble.space.map NamespaceLine.name := by
  rw [linesBefore, List.append_assoc]
  refine layout.preamble.namespace?_lines fun line member => ?_
  obtain ⟨oneLine, bare⟩ := layout.silent_of_mem member
  exact ⟨oneLine, bare.not_readsAsNamespace⟩

/-- The methods of the class are those of its members. -/
theorem methods_textAfter :
    methods (Source.members layout.textAfter) = layout.members.flatMap Member.signatures := by
  rw [textAfter, Code.members_body layout.headerFits layout.headerFlat
    (fits_bodyCode layout.members '\x7d'), methods_bodyCode]

end Layout

end ServiceWiring.Source

namespace ServiceWiring

open Source

/-- A space between two words of a method. -/
def spaceBreak : Break where
  code := .ofChars [' ']
  fits := rfl
  blank := rfl
  present := List.cons_ne_nil _ _

/-- A space between two words of a line. -/
def space : Spaces := ⟨' ', [], rfl, rfl⟩

/-- The method of a sender that everyone may call. -/
def sendMethod : Method where
  modifiers := []
  afterFunction := spaceBreak
  byReference := none
  name := ⟨'s', "end".toList, rfl, rfl⟩
  afterName := ⟨.done, rfl, rfl⟩
  parameters := .ofChars "$to".toList
  returnType := .ofChars ": void".toList
  body := none
  oneAccess := Nat.zero_le 1
  parametersFit := by decide
  parametersSilent := Nowhere.namesFunction_of_not_occurs (by decide)
  returnTypeFits := by decide
  returnTypeSilent := Nowhere.startsWithFunction_of_not_occurs (by decide)
  returnTypeEnd := fun _ => Nowhere.restricts_of_not_occurs (by decide)
  bodyFits := by simp

/-- The method of a sender that only the sender may call. -/
def openMethod : Method where
  modifiers := [(.static, spaceBreak), (.access .privateAccess, spaceBreak)]
  afterFunction := spaceBreak
  byReference := none
  name := ⟨'o', "pen".toList, rfl, rfl⟩
  afterName := ⟨.done, rfl, rfl⟩
  parameters := .ofChars "$by = ".toList ++ .quoted ⟨'"', [.plain '\x7b'], rfl, rfl⟩ .done
  returnType := .plain ' ' .done
  body := some (.plain ' ' (.block (.ofChars "function a() ".toList) .done))
  oneAccess := by decide
  parametersFit := by decide
  parametersSilent := Nowhere.namesFunction_of_not_occurs (by decide)
  returnTypeFits := by decide
  returnTypeSilent := Nowhere.startsWithFunction_of_not_occurs (by decide)
  returnTypeEnd := fun _ => Nowhere.restricts_of_not_occurs (by decide)
  bodyFits := by decide

/-- A source text that declares a sender of mails. -/
def senderLayout : Layout where
  preamble := {
    opening := []
    space := some ⟨[], space, 'A', "pp".toList, [], [], rfl, rfl, rfl, rfl, by decide⟩
    between := [] }
  doc := some ⟨[], " @Service ".toList, [], rfl, by decide, rfl, by decide, by decide, by decide,
    by decide⟩
  skipped := [.group [] "Final]".toList rfl (by decide)]
  line := ⟨[], [(.final, space)], .classKind, space, ⟨'S', "ender".toList, rfl, rfl⟩, rfl⟩
  header := .plain ' ' .done
  members := [.gap ⟨.ofChars " ".toList, rfl, rfl⟩, .method sendMethod,
    .gap ⟨.blockComment ⟨" function a() ".toList, by decide⟩ .done, rfl, rfl⟩,
    .method openMethod]
  tail := "function a() ".toList
  noComment := fun absent => absurd absent (by simp)
  nameEnds := by
    rintro c ⟨⟩
    rfl
  headerFits := by decide
  headerFlat := by decide

example : String.ofList senderLayout.text =
    "namespace App;\n/** @Service */\n#[Final]\nfinal class Sender \x7b " ++
      "function send($to): void;/* function a() */" ++
        "static private function open($by = \"\x7b\") \x7b \x7bfunction a() \x7d\x7d\x7d" ++
          "function a() " := by
  decide +kernel

/-- A class with four public methods. The name of the first starts with a letter beyond
ASCII, no blank parts the mark of the second from `function`, and the return type of the
third ends like a modifier. -/
def unusualMethods : String :=
  "class Sender \x7b function öffne() \x7b\x7d function&items() \x7b\x7d " ++
    "function from(): Mail\\private \x7b\x7d function send() \x7b\x7d \x7d"

/-- A class in a namespace with a letter beyond ASCII. -/
def unusualNamespace : String := "namespace Größe;\nclass Sender \x7b\x7d"

end ServiceWiring
