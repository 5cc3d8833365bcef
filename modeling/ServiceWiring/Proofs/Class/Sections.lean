import ServiceWiring.Class.Source
import ServiceWiring.Proofs.Class.DocComment

/-!
# Namespaces before a class

A source text may declare one namespace after the other. Each holds for what follows it up to
the next one, so that the one in force at a class is the last one declared before it. The
namespace of the class is looked for from the beginning of the text instead.

The main statement is that a class is named after the first namespace that a line before it
declares, and that this is its name in the namespace in force exactly when the two namespaces
are the same up to separators around them.
-/

namespace ServiceWiring.Source

open Text (splitOnChar splitOnChar_ne_nil splitOnChar_of_lacks splitOnChar_mark trimMatches)

/-- The lines of a text that are ended by a line feed. -/
def endedLines (text : List Char) : List (List Char) := (splitOnChar '\n' text).dropLast

/-- Whether a namespace is the first one that some lines declare. -/
def FirstNamespace (lines : List (List Char)) (name : List Char) : Prop :=
  ∃ earlier line later, lines = earlier ++ line :: later ∧ NamesNamespace line name ∧
    ∀ other ∈ earlier, ¬ReadsAsNamespace other

/-- Whether a namespace is in force behind some lines: it is the last one that they declare. -/
def NamespaceInForce (lines : List (List Char)) (name : List Char) : Prop :=
  ∃ earlier line later, lines = earlier ++ line :: later ∧ NamesNamespace line name ∧
    ∀ other ∈ later, ¬ReadsAsNamespace other

/-! ## The lines of a text -/

/-- Lines that are all ended are the ended lines of their text. -/
theorem endedLines_linesText {lines : List (List Char)} (oneLine : ∀ line ∈ lines, '\n' ∉ line) :
    endedLines (linesText lines) = lines := by
  induction lines with
  | nil => rfl
  | cons line lines inductionHypothesis =>
    have others := inductionHypothesis fun other member =>
      oneLine other (List.mem_cons_of_mem _ member)
    rw [endedLines] at others
    rw [linesText_cons, endedLines, splitOnChar_mark,
      splitOnChar_of_lacks (oneLine line List.mem_cons_self), List.singleton_append,
      List.dropLast_cons_of_ne_nil (splitOnChar_ne_nil _ _), others]

/-! ## The namespace that is found -/

/-- No namespace is found at the beginning of a text that does not read as a declaration of
one. -/
theorem namespaceAt?_eq_none_iff {text : List Char} :
    namespaceAt? text = none ↔ ¬ReadsAsNamespace text := by
  rw [readsAsNamespace_iff, Option.eq_none_iff_forall_ne_some, not_exists]
  simp only [ne_eq, namespaceAt?_eq_some_iff]

/-- The line feed behind a line does not matter for the namespace that the line declares. -/
theorem namespaceAt?_line (line following : List Char) :
    namespaceAt? (line ++ '\n' :: following) = namespaceAt? line := by
  apply Option.ext
  intro name
  rw [namespaceAt?_eq_some_iff, namespaceAt?_eq_some_iff, namesNamespace_line]

/-- The namespace of a text is that of its first line, if the line declares one. -/
theorem namespace?_line {line : List Char} (oneLine : '\n' ∉ line) (rest : List Char) :
    Source.namespace? (line ++ '\n' :: rest) = (namespaceAt? line).or (namespace? rest) := by
  have read := namespaceAt?_line line rest
  cases found : namespaceAt? line with
  | none =>
    rw [found] at read
    exact namespace?_of_undeclared oneLine read
  | some name =>
    rw [found] at read
    exact namespace?_of_declared read

/-- The namespace of some lines is that of the first one that declares one. -/
theorem namespace?_linesText {lines : List (List Char)} (oneLine : ∀ line ∈ lines, '\n' ∉ line) :
    Source.namespace? (linesText lines) = lines.findSome? namespaceAt? := by
  induction lines with
  | nil =>
    rw [namespace?]
    rfl
  | cons line lines inductionHypothesis =>
    have others := inductionHypothesis fun other member =>
      oneLine other (List.mem_cons_of_mem _ member)
    rw [linesText_cons, namespace?_line (oneLine line List.mem_cons_self), others,
      List.findSome?_cons]
    cases namespaceAt? line <;> rfl

/-- The first namespace is the first one that is found. -/
theorem firstNamespace_iff {lines : List (List Char)} {name : List Char} :
    FirstNamespace lines name ↔ lines.findSome? namespaceAt? = some name := by
  rw [List.findSome?_eq_some_iff]
  simp only [namespaceAt?_eq_some_iff, namespaceAt?_eq_none_iff]
  rfl

/-- Where a namespace is in force, there is a first one. -/
theorem NamespaceInForce.exists_first {lines : List (List Char)} {inForce : List Char}
    (declared : NamespaceInForce lines inForce) : ∃ first, FirstNamespace lines first := by
  obtain ⟨earlier, line, later, rfl, names, -⟩ := declared
  simp only [firstNamespace_iff]
  rw [← Option.isSome_iff_exists, List.findSome?_isSome_iff]
  have found := namespaceAt?_eq_some_iff.mpr names
  exact ⟨line, List.mem_append_right _ List.mem_cons_self, Option.isSome_iff_exists.mpr ⟨_, found⟩⟩

end ServiceWiring.Source

namespace ServiceWiring

open Source
open Text (trimMatches)

/-- A full name ends with the short name, and starts with the namespace if there is one. -/
theorem Naming.toList_qualify (naming : Naming) (inside : List Char) (shortName : String) :
    (naming.qualify (some (String.ofList inside)) shortName).toList =
      (if trimMatches naming.separator.toList.contains inside = [] then []
        else trimMatches naming.separator.toList.contains inside ++ naming.separator.toList) ++
          shortName.toList := by
  rw [Naming.qualify]
  simp only [Option.getD_some, String.toList_ofList, List.isEmpty_iff]
  split <;> simp

/-- A short name has the same full name in two namespaces when they are the same up to
separators around them. -/
theorem Naming.qualify_eq_iff (naming : Naming) (inside other : List Char) (shortName : String) :
    naming.qualify (some (String.ofList inside)) shortName =
        naming.qualify (some (String.ofList other)) shortName ↔
      trimMatches naming.separator.toList.contains inside =
        trimMatches naming.separator.toList.contains other := by
  rw [← String.toList_inj, naming.toList_qualify, naming.toList_qualify, List.append_left_inj]
  constructor
  · intro same
    split at same <;> split at same <;> rename_i first second
    · rw [first, second]
    · exact absurd (List.append_eq_nil_iff.mp same.symm).1 second
    · exact absurd (List.append_eq_nil_iff.mp same).1 first
    · exact List.append_cancel_right same
  · intro same
    rw [same]

/-- A class is named after the first namespace declared before it. In the namespace in force
it has this name only if the two are the same up to separators around them. -/
theorem ClassDefinition.ofSource?_namespaces (naming : Naming) {source : String}
    {before after : List Char} {declared : Declared}
    (found : declaration? source.toList = some (before, declared, after)) :
    before = linesText (endedLines before) ∧
      ∃ definition, ClassDefinition.ofSource? naming source = some definition ∧
        ∀ inForce, NamespaceInForce (endedLines before) inForce →
          ∃ first, FirstNamespace (endedLines before) first ∧
            definition.id =
              naming.qualify (some (String.ofList first)) (String.ofList declared.name) ∧
            (definition.id =
                naming.qualify (some (String.ofList inForce)) (String.ofList declared.name) ↔
              trimMatches naming.separator.toList.contains first =
                trimMatches naming.separator.toList.contains inForce) := by
  obtain ⟨lines, rest, oneLine, rfl, -, -⟩ := declaration?_eq_some found
  rw [endedLines_linesText oneLine]
  refine ⟨rfl, _, by rw [ClassDefinition.ofSource?, found, Option.map_some], ?_⟩
  intro inForce isInForce
  obtain ⟨first, isFirst⟩ := isInForce.exists_first
  have read : Source.namespace? (linesText lines) = some first := by
    rw [namespace?_linesText oneLine, ← firstNamespace_iff]
    exact isFirst
  refine ⟨first, isFirst, ?_, ?_⟩
  · dsimp only
    rw [read, Option.map_some]
  · dsimp only
    rw [read, Option.map_some, naming.qualify_eq_iff]

/-- The text before a class of mails, which declares two namespaces. -/
def mailText : List Char :=
  "namespace App;\nfunction boot() \x7b\x7d\nnamespace App\\Mailer;\n".toList

/-- A source text that declares two namespaces and then a class. -/
def mailSource : String := String.ofList (mailText ++ "class Sender \x7b\x7d".toList)

/-- The second namespace of the source text is in force at the class. -/
theorem mailText_inForce : NamespaceInForce (endedLines mailText) "App\\Mailer".toList := by
  refine ⟨["namespace App;".toList, "function boot() \x7b\x7d".toList],
    "namespace App\\Mailer;".toList, [], by decide, ?_, by simp⟩
  exact namespaceAt?_eq_some_iff.mp (by decide)

/-- The class does not get its name from the namespace in force. -/
theorem ClassDefinition.ofSource?_namespaces_mail :
    ∃ definition, ClassDefinition.ofSource? .standard mailSource = some definition ∧
      definition.id ≠ Naming.standard.qualify (some "App\\Mailer") "Sender" := by
  have found : declaration? mailSource.toList =
      some (mailText, ⟨.classKind, "Sender".toList⟩, " \x7b\x7d".toList) := by
    decide +kernel
  obtain ⟨-, definition, read, named⟩ := ClassDefinition.ofSource?_namespaces .standard found
  obtain ⟨first, isFirst, -, same⟩ := named _ mailText_inForce
  refine ⟨definition, read, ?_⟩
  have declared : (endedLines mailText).findSome? namespaceAt? = some "App".toList := by decide
  rw [firstNamespace_iff, declared, Option.some.injEq] at isFirst
  rw [ne_eq]
  intro equal
  have trimmed := same.mp equal
  rw [← isFirst] at trimmed
  exact absurd trimmed (by decide)

/-- The class is declared in one namespace and named after the other. -/
theorem ClassDefinition.ofSource?_mailSource :
    ClassDefinition.ofSource? .standard mailSource =
        some ⟨"App\\Sender", .classKind, none, []⟩ ∧
      NamespaceInForce (endedLines mailText) "App\\Mailer".toList ∧
      Naming.standard.qualify (some "App\\Mailer") "Sender" ≠ "App\\Sender" :=
  ⟨by decide +kernel, mailText_inForce, by decide +kernel⟩

end ServiceWiring
