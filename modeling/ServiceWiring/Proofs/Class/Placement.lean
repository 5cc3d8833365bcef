import ServiceWiring.Class.Source
import ServiceWiring.Proofs.Class.DocComment
import ServiceWiring.Proofs.Files.Components

/-!
# Where a class belongs

The full name of a class comes from two places that know nothing of each other: the
namespace and the name that its file declares, and the path of the file below the prefix
of its module. The main statements say that both give the same name when the namespace is
made of the prefix, without the separators at its end, and of the directories on the way
to the file, and the file is named after the class.
-/

namespace ServiceWiring

open Text (join dropCopiesAtEnd trimMatches stripSuffix? stripSuffix?_eq_some_iff occurs cutAtLast)

/-! ## Names in paths -/

/-- No directory on the way to the end of a path has an empty name. -/
theorem RawPath.directories_ne_nil {path : RawPath} {directories last : List (List Char)}
    (below : path.shownNames = directories ++ last) :
    ∀ directory ∈ directories, directory ≠ [] := by
  intro directory member
  have inPath : directory ∈ path.shownNames := by
    rw [below]
    exact List.mem_append_left _ member
  exact ne_nil_of_mem_shownNames inPath

/-- A single character occurs in a text when it is one of its characters. -/
theorem occurs_singleton_of_not_mem {mark : Char} {text : List Char} (absent : mark ∉ text) :
    occurs [mark] text = false := by
  induction text with
  | nil => rfl
  | cons c rest inductionHypothesis =>
    rw [List.mem_cons, not_or] at absent
    simp [occurs, List.isPrefixOf, absent.1, inductionHypothesis absent.2]

/-- An extension is what follows the last point of a name; without it the stem is left. -/
theorem Path.stem_append_extension {name extension : List Char} (present : name ≠ [])
    (flat : '.' ∉ extension) : stem (name ++ '.' :: extension) = name := by
  have last : cutAtLast ['.'] ('.' :: extension) = some ([], '.' :: extension) := by
    rw [cutAtLast, Source.cutAtLast_of_not_occurs (occurs_singleton_of_not_mem flat)]
    simp [List.isPrefixOf]
  rw [stem, Source.cutAtLast_append last, List.append_nil]
  split
  · rename_i before _ same
    simp only [Option.some.injEq, Prod.mk.injEq] at same
    exact absurd same.1 present
  · rename_i absent
    simp at absent
  · rename_i before _ _ same
    simp only [Option.some.injEq, Prod.mk.injEq] at same
    exact same.1.symm

/-- Only the last of some names is replaced by its stem. -/
theorem Naming.stemLast_concat (names : List (List Char)) (last : List Char) :
    stemLast (names ++ [last]) = names ++ [Path.stem last] := by
  induction names with
  | nil => rfl
  | cons name names inductionHypothesis =>
    cases names with
    | nil => exact congrArg (name :: ·) inductionHypothesis
    | cons next others => exact congrArg (name :: ·) inductionHypothesis

/-! ## Parts of namespaces -/

/-- Joining parts one of which is last. -/
theorem join_concat (separator : List Char) (parts : List (List Char)) (last : List Char) :
    join separator (parts ++ [last]) =
      if parts = [] then last else join separator parts ++ separator ++ last := by
  induction parts with
  | nil => rfl
  | cons part parts inductionHypothesis =>
    cases parts with
    | nil => simp [join]
    | cons next others =>
      have step : join separator (part :: next :: (others ++ [last])) =
          part ++ separator ++ join separator (next :: others ++ [last]) := rfl
      rw [List.cons_append, List.cons_append, step, inductionHypothesis]
      simp [join]

/-- Parts that are not empty join to something. -/
theorem join_eq_nil_iff {separator : List Char} {parts : List (List Char)}
    (present : ∀ part ∈ parts, part ≠ []) : join separator parts = [] ↔ parts = [] := by
  cases parts with
  | nil => simp [join]
  | cons part parts =>
    have first := present part List.mem_cons_self
    cases parts with
    | nil => simp [join, first]
    | cons next others => simp [join, first]

/-- All copies of a mark at the end are dropped from a text that does not end in one. -/
theorem dropCopiesAtEnd_append_replicate {mark : Char} {text : List Char}
    (ends : text.getLast? ≠ some mark) (count : Nat) :
    dropCopiesAtEnd [mark] (text ++ List.replicate count mark) = text := by
  induction count with
  | zero =>
    rw [List.replicate_zero, List.append_nil, dropCopiesAtEnd, dif_neg (List.cons_ne_nil _ _)]
    split
    · rfl
    · rename_i shorter found
      rw [stripSuffix?_eq_some_iff] at found
      exact absurd (by simp [found]) ends
  | succ count inductionHypothesis =>
    have shorter : stripSuffix? [mark] (text ++ List.replicate (count + 1) mark) =
        some (text ++ List.replicate count mark) := by
      rw [stripSuffix?_eq_some_iff, List.append_assoc, ← List.replicate_succ']
    rw [dropCopiesAtEnd, dif_neg (List.cons_ne_nil _ _)]
    split
    · rename_i found
      rw [shorter] at found
      contradiction
    · rename_i found
      rw [shorter, Option.some.injEq] at found
      rw [← found, inductionHypothesis]

/-- The name that a class has by the path of its file, below a prefix that may end in copies of
the separator. -/
theorem Naming.toList_classIdentifier {naming : Naming} {mark : Char}
    (single : naming.separator.toList = [mark]) {base : List Char}
    (ends : base.getLast? ≠ some mark) {trailing : Nat} {namespacePrefix : String}
    {path : RawPath}
    (marked : namespacePrefix.toList = base ++ List.replicate trailing mark)
    {directories : List (List Char)} {name extension : List Char} (named : name ≠ [])
    (flat : '.' ∉ extension)
    (below : path.shownNames = directories ++ [name ++ '.' :: extension]) :
    (naming.classIdentifier path namespacePrefix).toList =
      (if base = [] then [] else base ++ [mark]) ++ join [mark] (directories ++ [name]) := by
  rw [classIdentifier, single, marked, dropCopiesAtEnd_append_replicate ends, below,
    stemLast_concat, Path.stem_append_extension named flat]
  by_cases empty : base = [] <;> simp [empty]

/-! ## Files in their places -/

/-- Where a class belongs: in a module whose prefix is `base` and separators at its end, in a
file that is named after the class and has an extension, below some directories. -/
structure Placement where
  base : List Char
  trailing : Nat
  directories : List (List Char)
  name : List Char
  fileExtension : List Char
  baseEnds : base.getLast? ≠ some '\\'
  extensionFlat : '.' ∉ fileExtension

namespace Placement

variable (placement : Placement)

/-- The prefix of the module. -/
def namespacePrefix : List Char := placement.base ++ List.replicate placement.trailing '\\'

/-- The names on the way from the module to the file. -/
def names : List (List Char) :=
  placement.directories ++ [placement.name ++ '.' :: placement.fileExtension]

/-- The parts of the namespace: the prefix, unless it is empty, and the directories. -/
def spaceParts : List (List Char) :=
  (if placement.base = [] then [] else [placement.base]) ++ placement.directories

/-- The namespace of the class. -/
def space : List Char := join ['\\'] placement.spaceParts

/-- The full name of the class. -/
def className : List Char := join ['\\'] (placement.spaceParts ++ [placement.name])

/-- The path of a file gives the name of the class that belongs there. -/
theorem classIdentifier_eq {path : RawPath} {namespacePrefix : String} (named : placement.name ≠ [])
    (below : path.shownNames = placement.names)
    (inside : namespacePrefix.toList = placement.namespacePrefix) :
    Naming.standard.classIdentifier path namespacePrefix =
      String.ofList placement.className := by
  have separator : Naming.standard.separator.toList = ['\\'] := by decide
  rw [← String.toList_inj, String.toList_ofList, Naming.toList_classIdentifier separator
    placement.baseEnds inside named placement.extensionFlat below, className, spaceParts]
  cases base : placement.base with
  | nil => rfl
  | cons c rest =>
    cases directories : placement.directories with
    | nil => simp [join]
    | cons directory others => simp [join]

/-- The namespace and the name of a class make up its full name. -/
theorem qualify_eq {declared : Option String}
    (present : ∀ directory ∈ placement.directories, directory ≠ [])
    (inside : trimMatches (· == '\\') (declared.getD "").toList = placement.space) :
    Naming.standard.qualify declared (String.ofList placement.name) =
      String.ofList placement.className := by
  have separator : Naming.standard.separator.toList = ['\\'] := by decide
  have marks : (['\\'].contains : Char → Bool) = (· == '\\') := by
    funext c
    simp [Bool.beq_eq_decide_eq]
  have parts : ∀ part ∈ placement.spaceParts, part ≠ [] := by
    intro part member
    rw [spaceParts, List.mem_append] at member
    rcases member with base | directory
    · split at base
      · simp at base
      · rename_i nonempty
        rwa [List.mem_singleton.mp base]
    · exact present part directory
  rw [Naming.qualify, separator, marks, inside, className, join_concat, space]
  by_cases empty : placement.spaceParts = []
  · simp [empty, join]
  · have nonempty : join ['\\'] placement.spaceParts ≠ [] :=
      fun nothing => empty ((join_eq_nil_iff parts).mp nothing)
    simp [empty, nonempty]

end Placement

namespace Source

/-- The namespace that a declaration stands in: the one that is declared before it, without
separators around it. -/
def spaceBefore (before : List Char) : List Char :=
  trimMatches (· == '\\') ((namespace? before).getD [])

/-- Whether a text declares a class or an enumeration of this name in this namespace. -/
def DeclaresLoadable (space name : List Char) (text : String) : Prop :=
  ∃ before declared after, declaration? text.toList = some (before, declared, after) ∧
    (declared.kind = .classKind ∨ declared.kind = .enumKind) ∧
    declared.name = name ∧ spaceBefore before = space

/-- The name of a declaration is not empty. -/
theorem name_ne_nil_of_declaration? {text before after : List Char} {declared : Declared}
    (found : declaration? text = some (before, declared, after)) : declared.name ≠ [] := by
  have named : ∀ {text name rest : List Char}, name? text = some (name, rest) → name ≠ [] := by
    intro text name rest found
    cases text with
    | nil => simp [name?] at found
    | cons c tail =>
      rw [name?] at found
      split at found
      · simp only [Option.some.injEq, Prod.mk.injEq] at found
        rw [← found.1]
        exact List.cons_ne_nil _ _
      · contradiction
  have atLine : ∀ {text after : List Char} {declared : Declared},
      declarationAt? text = some (declared, after) → declared.name ≠ [] := by
    intro text after declared found
    obtain ⟨⟨keyword, kind⟩, -, found⟩ := List.exists_of_findSome?_eq_some found
    dsimp only at found
    split at found
    · rename_i name rest read
      simp only [Option.some.injEq, Prod.mk.injEq] at found
      obtain ⟨behind, -, read⟩ := Option.bind_eq_some_iff.mp read
      rw [← found.1]
      exact named read
    · contradiction
  obtain ⟨lines, rest, -, -, -, here⟩ := declaration?_eq_some found
  exact atLine here

end Source

namespace Placement

variable (placement : Placement)

/-- A text that declares a class where it belongs is read with the name that the path of the
file gives. -/
theorem ofSource?_eq {path : RawPath} {namespacePrefix text : String}
    (below : path.shownNames = placement.names)
    (inside : namespacePrefix.toList = placement.namespacePrefix)
    (declares : Source.DeclaresLoadable placement.space placement.name text) :
    ∃ definition, ClassDefinition.ofSource? .standard text = some definition ∧
      definition.id = Naming.standard.classIdentifier path namespacePrefix ∧
      definition.isLoadable = true := by
  obtain ⟨before, declared, after, found, kind, named, space⟩ := declares
  have nonempty : placement.name ≠ [] := named ▸ Source.name_ne_nil_of_declaration? found
  have present := RawPath.directories_ne_nil below
  have space : Text.trimMatches (· == '\\')
      (((Source.namespace? before).map String.ofList).getD "").toList = placement.space := by
    rw [← space, Source.spaceBefore]
    cases Source.namespace? before <;> simp
  rw [ClassDefinition.ofSource?, found, Option.map_some]
  refine ⟨_, rfl, ?_, ?_⟩
  · dsimp only
    rw [placement.classIdentifier_eq nonempty below inside, named,
      placement.qualify_eq present space]
  · rcases kind with kind | kind <;> simp [ClassDefinition.isLoadable, kind, ClassKind.isLoadable]

end Placement

end ServiceWiring
