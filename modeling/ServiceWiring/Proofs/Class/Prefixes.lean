import ServiceWiring.Proofs.Class.Placement
import ServiceWiring.Proofs.Class.Sections
import ServiceWiring.Proofs.Text.Spans

/-!
# Separators around the prefix of a module

A separator of one character may come up any number of times at both ends of the prefix of a
module. The path of a file and the namespace that the file declares are freed from it in different
ways: in a prefix that a path is put behind, separators are dropped at the end only, and
around a namespace they are dropped on both sides.

The main statement says for every prefix when the two give one name to a class: the prefix
must be nothing but separators or begin with none of them. Separators at its end matter only to
a namespace in which they are written before the separator of a directory.
-/

namespace ServiceWiring

open Text (join trimMatches)

/-! ## Texts with marks around them -/

/-- A text begins with some marks, and then with something else. -/
theorem exists_leading_marks (mark : Char) (text : List Char) :
    ∃ leading rest, text = List.replicate leading mark ++ rest ∧ rest.head? ≠ some mark := by
  induction text with
  | nil => exact ⟨0, [], rfl, by simp⟩
  | cons c text inductionHypothesis =>
    by_cases marked : c = mark
    · obtain ⟨leading, rest, split, starts⟩ := inductionHypothesis
      exact ⟨leading + 1, rest, by rw [marked, split]; rfl, starts⟩
    · exact ⟨0, c :: text, rfl, by simpa using marked⟩

/-- A text has some marks at either end of a core. -/
theorem exists_marks_around (mark : Char) (text : List Char) :
    ∃ leading core trailing,
      text = List.replicate leading mark ++ core ++ List.replicate trailing mark ∧
        core.head? ≠ some mark ∧ core.getLast? ≠ some mark := by
  obtain ⟨leading, rest, split, starts⟩ := exists_leading_marks mark text
  obtain ⟨trailing, reversed, reverse, ends⟩ := exists_leading_marks mark rest.reverse
  have whole : rest = reversed.reverse ++ List.replicate trailing mark := by
    simpa using congrArg List.reverse reverse
  refine ⟨leading, reversed.reverse, trailing, by rw [split, whole, List.append_assoc], ?_,
    by rwa [List.getLast?_reverse]⟩
  intro head
  rw [whole, List.head?_append, head] at starts
  exact starts rfl

/-- Marks around a core are trimmed, and nothing else. -/
theorem trimMatches_replicate {mark : Char} {core : List Char} (starts : core.head? ≠ some mark)
    (ends : core.getLast? ≠ some mark) (leading trailing : Nat) :
    trimMatches [mark].contains
      (List.replicate leading mark ++ core ++ List.replicate trailing mark) = core := by
  have marks : ∀ count, (List.replicate count mark).all [mark].contains = true := by
    intro count
    simp
  have head : ∀ text : List Char, text.head? ≠ some mark →
      ∀ c ∈ text.head?, [mark].contains c = false := by
    rintro text other c member
    simpa using fun same : c = mark => other (same ▸ member)
  rw [trimMatches, List.append_assoc, Text.dropWhile_append_of_all (marks leading)]
  by_cases empty : core = []
  · simp [empty]
  · have front : (core ++ List.replicate trailing mark).dropWhile [mark].contains =
        core ++ List.replicate trailing mark := by
      refine Text.dropWhile_of_head (head _ ?_)
      rwa [List.head?_append_of_ne_nil _ empty]
    have back : core.reverse.dropWhile [mark].contains = core.reverse :=
      Text.dropWhile_of_head (head _ (by rwa [List.head?_reverse]))
    rw [front, List.reverse_append, List.reverse_replicate,
      Text.dropWhile_append_of_all (marks trailing), back, List.reverse_reverse]

/-- Marks before a core are the same text as marks behind it only if there are none. -/
theorem replicate_append_eq_append_replicate_iff {mark : Char} {core : List Char}
    (cored : core ≠ []) (starts : core.head? ≠ some mark) (leading trailing : Nat) :
    List.replicate leading mark ++ core = core ++ List.replicate trailing mark ↔
      leading = 0 ∧ trailing = 0 := by
  constructor
  · intro same
    cases leading with
    | zero => simpa using same
    | succ leading =>
      have head := congrArg List.head? same
      rw [List.head?_append_of_ne_nil _ cored] at head
      exact absurd head.symm starts
  · rintro ⟨rfl, rfl⟩
    simp

/-! ## Names behind a prefix -/

/-- Directories that are joined do not begin with the separator. -/
theorem head?_join_of_apart {mark : Char} {directories : List (List Char)}
    (present : ∀ directory ∈ directories, directory ≠ [])
    (apart : ∀ directory ∈ directories, mark ∉ directory) :
    (join [mark] directories).head? ≠ some mark := by
  cases directories with
  | nil => simp [join]
  | cons directory others =>
    have first : (join [mark] (directory :: others)).head? = directory.head? := by
      have nonempty := present directory List.mem_cons_self
      cases others with
      | nil => rfl
      | cons next others => simp [join, List.head?_append_of_ne_nil _ nonempty]
    rw [first]
    exact fun head => apart directory List.mem_cons_self (List.mem_of_head? head)

/-- What ends with directories that are joined does not end with the separator. -/
theorem getLast?_append_join_of_apart {mark : Char} {directories : List (List Char)}
    (present : ∀ directory ∈ directories, directory ≠ [])
    (apart : ∀ directory ∈ directories, mark ∉ directory) (nested : directories ≠ [])
    (text : List Char) : (text ++ join [mark] directories).getLast? ≠ some mark := by
  obtain ⟨others, last, rfl⟩ := (List.eq_nil_or_concat directories).resolve_left nested
  rw [List.concat_eq_append] at present apart ⊢
  have member : last ∈ others ++ [last] := List.mem_append_right _ List.mem_cons_self
  have behind : ∀ front : List Char, (front ++ last).getLast? ≠ some mark := by
    intro front ends
    rw [List.getLast?_append_of_ne_nil _ (present last member)] at ends
    exact apart last member (List.mem_of_getLast? ends)
  rw [join_concat]
  split
  · exact behind text
  · rw [← List.append_assoc]
    exact behind _

section Marked

variable {mark : Char} {core : List Char} (starts : core.head? ≠ some mark)
  (ends : core.getLast? ≠ some mark) (leading trailing : Nat) {directories : List (List Char)}
  (present : ∀ directory ∈ directories, directory ≠ [])
  (apart : ∀ directory ∈ directories, mark ∉ directory)

include starts ends present apart in
/-- A namespace of a prefix and directories is trimmed down to the core of the prefix and what
follows it, or to the directories if the prefix has no core. -/
theorem trimMatches_join :
    trimMatches [mark].contains (join [mark]
        ((List.replicate leading mark ++ core ++ List.replicate trailing mark) :: directories)) =
      if core = [] then join [mark] directories
      else if directories = [] then core
      else core ++ List.replicate trailing mark ++ mark :: join [mark] directories := by
  by_cases nested : directories = []
  · simp only [nested, join, if_true, trimMatches_replicate starts ends]
    split
    · assumption
    · rfl
  · have behind : join [mark] ((List.replicate leading mark ++ core ++
        List.replicate trailing mark) :: directories) =
          List.replicate leading mark ++ (core ++ List.replicate trailing mark ++
            mark :: join [mark] directories) := by
      obtain ⟨directory, others, rfl⟩ := List.exists_cons_of_ne_nil nested
      simp [join]
    have last := getLast?_append_join_of_apart present apart nested
    rw [behind, if_neg nested]
    split
    · -- Without a core, all marks up to the first directory stand together.
      rename_i empty
      have marks : List.replicate leading mark ++ (core ++ List.replicate trailing mark ++
          mark :: join [mark] directories) =
            List.replicate (leading + (trailing + 1)) mark ++ join [mark] directories := by
        rw [empty, List.nil_append, ← List.replicate_append_replicate, List.replicate_succ']
        simp
      have trimmed := trimMatches_replicate (head?_join_of_apart present apart) (last [])
        (leading + (trailing + 1)) 0
      rwa [List.replicate_zero, List.append_nil, ← marks] at trimmed
    · -- Behind a core, the marks stand inside the text and are kept.
      rename_i cored
      have first : (core ++ List.replicate trailing mark ++
          mark :: join [mark] directories).head? ≠ some mark := by
        rwa [List.append_assoc, List.head?_append_of_ne_nil _ cored]
      have final := last (core ++ List.replicate trailing mark ++ [mark])
      rw [List.append_assoc, List.singleton_append] at final
      have trimmed := trimMatches_replicate first final leading 0
      rwa [List.replicate_zero, List.append_nil] at trimmed

variable {naming : Naming} (single : naming.separator.toList = [mark])

include starts ends present apart single in
/-- The name that a class declares in a namespace of a prefix and directories. -/
theorem Naming.toList_qualify_join (name : List Char) :
    (naming.qualify (some (String.ofList (join [mark]
        ((List.replicate leading mark ++ core ++ List.replicate trailing mark) :: directories))))
      (String.ofList name)).toList =
      (if core = [] then []
        else core ++ List.replicate (if directories = [] then 0 else trailing) mark ++ [mark]) ++
        join [mark] (directories ++ [name]) := by
  rw [toList_qualify, single, trimMatches_join starts ends leading trailing present apart,
    join_concat, String.toList_ofList]
  by_cases empty : core = []
  · by_cases flat : directories = []
    · simp [empty, flat, join]
    · simp [empty, flat, join_eq_nil_iff present]
  · by_cases flat : directories = [] <;> simp [empty, flat]

include ends single in
/-- The name that a class has by the path of its file keeps all of the prefix but the separators at
its end. -/
theorem Naming.toList_classIdentifier_marked {namespacePrefix : String} {path : RawPath}
    (marked : namespacePrefix.toList =
      List.replicate leading mark ++ core ++ List.replicate trailing mark)
    {name extension : List Char} (named : name ≠ []) (flat : '.' ∉ extension)
    (below : path.shownNames = directories ++ [name ++ '.' :: extension]) :
    (naming.classIdentifier path namespacePrefix).toList =
      (if core = [] then [] else List.replicate leading mark ++ core ++ [mark]) ++
        join [mark] (directories ++ [name]) := by
  by_cases empty : core = []
  · have marks : namespacePrefix.toList = [] ++ List.replicate (leading + trailing) mark := by
      rw [marked, empty, List.append_nil, List.replicate_append_replicate, List.nil_append]
    have none : ([] : List Char).getLast? ≠ some mark := by simp
    simpa [empty] using toList_classIdentifier single none marks named flat below
  · have last : (List.replicate leading mark ++ core).getLast? ≠ some mark := by
      rwa [List.getLast?_append_of_ne_nil _ empty]
    simpa [empty] using toList_classIdentifier single last marked named flat below

end Marked

/-- The name that a path gives to a class agrees with its name in the namespace of the prefix
and the directories exactly when the prefix is nothing but separators or begins with none. If
the separators at the end of the prefix are written down in the namespace, there must be none
before a directory either.

Proof: both names end in the directories and the short name. Before these a path has the
prefix up to its last separators; a namespace has no separators that the prefix begins with, and
has those at its end if a directory follows. -/
theorem Naming.classIdentifier_eq_qualify_iff (naming : Naming) {mark : Char}
    (single : naming.separator.toList = [mark]) (namespacePrefix : String) {path : RawPath}
    {directories : List (List Char)} {name extension : List Char}
    (below : path.shownNames = directories ++ [name ++ '.' :: extension])
    (named : name ≠ []) (flat : '.' ∉ extension)
    (apart : ∀ directory ∈ directories, mark ∉ directory) :
    ∃ leading core trailing, namespacePrefix.toList =
        List.replicate leading mark ++ core ++ List.replicate trailing mark ∧
      core.head? ≠ some mark ∧ core.getLast? ≠ some mark ∧
      (naming.classIdentifier path namespacePrefix =
          naming.qualify (some (String.ofList
            (join [mark] ((List.replicate leading mark ++ core) :: directories))))
            (String.ofList name) ↔
        core = [] ∨ leading = 0) ∧
      (naming.classIdentifier path namespacePrefix =
          naming.qualify (some (String.ofList
            (join [mark] (namespacePrefix.toList :: directories)))) (String.ofList name) ↔
        core = [] ∨ leading = 0 ∧ (directories = [] ∨ trailing = 0)) := by
  obtain ⟨leading, core, trailing, marked, starts, ends⟩ :=
    exists_marks_around mark namespacePrefix.toList
  have present := RawPath.directories_ne_nil below
  have agree : ∀ count, naming.classIdentifier path namespacePrefix =
      naming.qualify (some (String.ofList (join [mark]
          ((List.replicate leading mark ++ core ++ List.replicate count mark) :: directories))))
        (String.ofList name) ↔
      core = [] ∨ leading = 0 ∧ (directories = [] ∨ count = 0) := by
    intro count
    rw [← String.toList_inj, toList_classIdentifier_marked ends leading trailing single marked
        named flat below, toList_qualify_join starts ends leading count present apart single,
      List.append_left_inj]
    by_cases empty : core = []
    · simp [empty]
    · rw [if_neg empty, if_neg empty, List.append_left_inj,
        replicate_append_eq_append_replicate_iff empty starts]
      by_cases nested : directories = [] <;> simp [empty, nested]
  refine ⟨leading, core, trailing, marked, starts, ends, ?_, ?_⟩
  · have unmarked := agree 0
    rwa [List.replicate_zero, List.append_nil, eq_self, or_true, and_true] at unmarked
  · rw [marked]
    exact agree trailing

/-- The name by the path keeps the separator that a prefix begins with, and the namespace keeps
those before the directory. -/
theorem Naming.classIdentifier_eq_qualify_iff_rooted :
    Naming.standard.classIdentifier "Mail/Sender.php" "\\App\\" ≠
      Naming.standard.qualify (some "\\App\\\\Mail") "Sender" := by
  have single : Naming.standard.separator.toList = ['\\'] := by decide
  have below : RawPath.shownNames "Mail/Sender.php" =
      ["Mail".toList] ++ ["Sender".toList ++ '.' :: "php".toList] := by decide +kernel
  obtain ⟨leading, core, trailing, marked, starts, -, -, written⟩ :=
    classIdentifier_eq_qualify_iff .standard single "\\App\\" below (by decide) (by decide)
      (by decide)
  intro same
  rcases written.mp same with rfl | ⟨rfl, nested | rfl⟩
  · have letter : 'A' ∈ "\\App\\".toList := by decide
    rw [marked] at letter
    simp at letter
  · simp at nested
  · rw [List.replicate_zero, List.nil_append, List.append_nil] at marked
    exact starts (marked ▸ rfl)

/-- A file of a module whose prefix begins with a separator declares its class in the namespace
of that prefix, and the path of the file gives another name. -/
theorem Naming.classIdentifier_ne_qualify_rooted :
    Naming.standard.classIdentifier "Mailer.php" "\\App" = "\\App\\Mailer" ∧
      Naming.standard.qualify (some "\\App") "Mailer" = "App\\Mailer" := by
  decide +kernel

end ServiceWiring
