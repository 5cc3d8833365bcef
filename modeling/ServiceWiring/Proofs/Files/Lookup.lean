import Mathlib.Data.List.Induction
import ServiceWiring.Files.System
import ServiceWiring.Proofs.Files.Tree
import ServiceWiring.Proofs.Text.Pieces

/-!
# Looking up paths

What a path leads to is found piece by piece. `follow` says what a single piece does: it
leads to another place, or to a link whose own pieces come before those that remain, or
nowhere. So a path can be followed in two parts, the second from the place where the first
one leads; a lookup ends at a place where something stands; and the order of the entries in
directories makes no difference to it.

The main statement is about a path inside another one. If the outer path leads to a tree, and
something other than a link stands at a place of it, then the two paths joined lead there.
-/

namespace ServiceWiring

namespace FileSystem

/-- What one piece of a path does: the number of links that may still be followed, the place
to go on from, and the pieces of a link that come before the rest of the path. -/
def follow (root : FileTree) (links : Nat) (here : Place) (piece : String) :
    Except SystemFault (Nat × Place × List String) :=
  match root.at? here with
  | some (.directory entries) =>
    if piece = "" ∨ piece = "." then .ok (links, here, [])
    else if piece = ".." then .ok (links, here.dropLast, [])
    else
      match Keyed.get? piece entries with
      | none => .error .notFound
      | some (.link target) =>
        match links with
        | 0 => .error .tooManyLinks
        | links + 1 => .ok (links, if Path.isAbsolute target then [] else here, pieces target)
      | some _ => .ok (links, here ++ [piece], [])
  | _ => .error .notDirectory

/-- Without further pieces a lookup is where it is. -/
theorem locateFrom_nil (root : FileTree) (links : Nat) (here : Place) :
    locateFrom root .target links here [] = .ok here := by
  simp [locateFrom]

/-- A lookup follows the first piece of a path and then the rest. -/
theorem locateFrom_cons (root : FileTree) (links : Nat) (here : Place) (piece : String)
    (rest : List String) :
    locateFrom root .target links here (piece :: rest) =
      match follow root links here piece with
      | .error fault => .error fault
      | .ok (links, here, front) => locateFrom root .target links here (front ++ rest) := by
  rw [locateFrom, follow]
  cases root.at? here with
  | none => rfl
  | some tree =>
    cases tree with
    | file _ => rfl
    | link _ => rfl
    | directory entries =>
      dsimp only
      by_cases still : piece = "" ∨ piece = "."
      · simp [still]
      by_cases up : piece = ".."
      · simp [up]
      rw [if_neg still, if_neg up, if_neg (by simp), if_neg still, if_neg up]
      cases Keyed.get? piece entries with
      | none => simp
      | some child =>
        cases child with
        | file _ => rfl
        | directory _ => rfl
        | link target => cases links <;> simp

/-- A piece that leads on does so from a directory, and puts pieces before the rest only by
following a link. -/
theorem follow_eq_ok {root : FileTree} {links remaining : Nat} {here place : Place}
    {piece : String} {front : List String}
    (followed : follow root links here piece = .ok (remaining, place, front)) :
    (∃ entries, root.at? here = some (.directory entries)) ∧
      (remaining < links ∨ remaining = links ∧ front = []) ∧ (root.at? place).isSome := by
  unfold follow at followed
  cases stood : root.at? here with
  | none => simp [stood] at followed
  | some tree =>
    cases tree with
    | file _ => simp [stood] at followed
    | link _ => simp [stood] at followed
    | directory entries =>
      have above : (root.at? here.dropLast).isSome := by
        cases here using List.reverseRecOn with
        | nil => rfl
        | append_singleton before last =>
          rw [FileTree.at?_append, Option.bind_eq_some_iff] at stood
          obtain ⟨parent, found, _⟩ := stood
          simp [found]
      rw [stood] at followed
      dsimp only at followed
      refine ⟨⟨entries, rfl⟩, ?_⟩
      split at followed
      · simp only [Except.ok.injEq, Prod.mk.injEq] at followed
        obtain ⟨rfl, rfl, rfl⟩ := followed
        exact ⟨.inr ⟨rfl, rfl⟩, by simp [stood]⟩
      · split at followed
        · simp only [Except.ok.injEq, Prod.mk.injEq] at followed
          obtain ⟨rfl, rfl, rfl⟩ := followed
          exact ⟨.inr ⟨rfl, rfl⟩, above⟩
        · split at followed
          · simp at followed
          · split at followed
            · simp at followed
            · simp only [Except.ok.injEq, Prod.mk.injEq] at followed
              obtain ⟨rfl, rfl, rfl⟩ := followed
              refine ⟨.inl (Nat.lt_succ_self _), ?_⟩
              split
              · rfl
              · simp [stood]
          · rename_i child listed
            simp only [Except.ok.injEq, Prod.mk.injEq] at followed
            obtain ⟨rfl, rfl, rfl⟩ := followed
            exact ⟨.inr ⟨rfl, rfl⟩, by simp [FileTree.at?_concat stood, listed]⟩

/-- Induction along a lookup: on a path, the paths that its first piece leads to come before
it. They are shorter or may follow fewer links. -/
theorem lookup_induction (root : FileTree) {motive : Nat → Place → List String → Prop}
    (finished : ∀ links here, motive links here [])
    (further : ∀ links here piece rest,
      (∀ remaining place front, follow root links here piece = .ok (remaining, place, front) →
        motive remaining place (front ++ rest)) →
      motive links here (piece :: rest))
    (links : Nat) (here : Place) (path : List String) : motive links here path :=
  match path with
  | [] => finished links here
  | piece :: rest =>
    further links here piece rest fun remaining place front _followed =>
      lookup_induction root finished further remaining place (front ++ rest)
termination_by (links, path.length)
decreasing_by
  rcases (follow_eq_ok _followed).2.1 with fewer | ⟨rfl, rfl⟩
  · exact Prod.Lex.left _ _ fewer
  · exact Prod.Lex.right _ (by simp)

/-- A path that consists of two is followed in two parts. If the first one leads nowhere then
neither does the whole; otherwise the second one goes on from the place that the first one
leads to. -/
theorem locateFrom_append (root : FileTree) (links : Nat) (here : Place) (front : List String) :
    (∃ fault, locateFrom root .target links here front = .error fault ∧
        ∀ back, locateFrom root .target links here (front ++ back) = .error fault) ∨
      ∃ place remaining, locateFrom root .target links here front = .ok place ∧
        ∀ back, locateFrom root .target links here (front ++ back) =
          locateFrom root .target remaining place back := by
  induction links, here, front using lookup_induction root with
  | finished links here => exact .inr ⟨here, links, locateFrom_nil .., fun _ => rfl⟩
  | further links here piece rest inductionHypothesis =>
    simp only [List.cons_append, locateFrom_cons]
    cases followed : follow root links here piece with
    | error fault => exact .inl ⟨fault, rfl, fun _ => rfl⟩
    | ok next =>
      obtain ⟨remaining, place, inserted⟩ := next
      simpa only [List.append_assoc] using inductionHypothesis remaining place inserted followed

/-- A lookup from a place where something stands ends at such a place. -/
theorem isSome_at?_of_locateFrom {root : FileTree} {links : Nat} {here place : Place}
    {path : List String} (stands : (root.at? here).isSome)
    (located : locateFrom root .target links here path = .ok place) :
    (root.at? place).isSome := by
  induction links, here, path using lookup_induction root with
  | finished links here =>
    rw [locateFrom_nil, Except.ok.injEq] at located
    rwa [← located]
  | further links here piece rest inductionHypothesis =>
    rw [locateFrom_cons] at located
    cases followed : follow root links here piece with
    | error fault => simp [followed] at located
    | ok next =>
      obtain ⟨remaining, next, front⟩ := next
      rw [followed] at located
      exact inductionHypothesis remaining next front followed (follow_eq_ok followed).2.2 located

/-- A path that leads to a place leads to what stands there. -/
theorem exists_at?_of_locate {system : FileSystem} {path : String} {place : Place}
    (located : system.locate .target path = .ok place) :
    ∃ tree, system.root.at? place = some tree := by
  rw [← Option.isSome_iff_exists]
  unfold locate at located
  split at located
  · simp at located
  · -- The first piece of the path leads on from a directory, so the start is one.
    cases listed : pieces path with
    | nil =>
      rw [pieces, List.map_eq_nil_iff] at listed
      exact absurd listed (Text.splitOnChar_ne_nil _ _)
    | cons piece rest =>
      rw [listed, locateFrom_cons] at located
      split at located
      · simp at located
      · rename_i followed
        exact isSome_at?_of_locateFrom (follow_eq_ok followed).2.2 located

/-- From a place where a tree stands, names that lead through its directories lead to what
they lead to in the tree, unless that is a link. -/
theorem locateFrom_names {root tree found : FileTree} {here names : Place}
    (stood : root.at? here = some tree) (formed : tree.WellFormed)
    (reached : tree.at? names = some found) (direct : ∀ target, found ≠ .link target)
    (links : Nat) : locateFrom root .target links here names = .ok (here ++ names) := by
  induction names generalizing here tree with
  | nil => rw [locateFrom_nil, List.append_nil]
  | cons name rest inductionHypothesis =>
    have named := formed.isEntryName_of_mem reached name List.mem_cons_self
    obtain ⟨entries, child, rfl, listed, further⟩ := FileTree.at?_cons_eq_some_iff.mp reached
    have there : root.at? (here ++ [name]) = some child := by
      rw [FileTree.at?_concat stood, listed]
    have onward : follow root links here name = .ok (links, here ++ [name], []) := by
      unfold follow
      rw [stood]
      dsimp only
      rw [if_neg (by simp [named.1, named.2.1]), if_neg named.2.2.1, listed]
      cases child with
      | file _ => rfl
      | directory _ => rfl
      | link target =>
        -- A link has nothing below it, so the way would end here, at a link.
        cases rest with
        | nil => exact absurd (Option.some.inj further).symm (direct target)
        | cons next others =>
          obtain ⟨_, _, directory, _⟩ := FileTree.at?_cons_eq_some_iff.mp further
          exact absurd directory (by simp)
    rw [locateFrom_cons, onward]
    dsimp only
    rw [List.nil_append, inductionHypothesis there (formed.child listed) further,
      List.append_assoc, List.singleton_append]

/-- The pieces of names with slashes between them are the names. -/
theorem pieces_intercalate {names : Place} (present : names ≠ [])
    (named : ∀ name ∈ names, IsEntryName name) :
    pieces (String.intercalate "/" names) = names := by
  rw [pieces]
  induction names with
  | nil => exact absurd rfl present
  | cons name rest inductionHypothesis =>
    obtain ⟨first, others⟩ := List.forall_mem_cons.mp named
    have single : Text.splitOnChar '/' name.toList = [name.toList] :=
      Text.splitOnChar_of_lacks first.2.2.2
    cases rest with
    | nil => rw [String.intercalate_singleton, single, List.map_singleton, String.ofList_toList]
    | cons next further =>
      have written : (String.intercalate "/" (name :: next :: further)).toList =
          name.toList ++ '/' :: (String.intercalate "/" (next :: further)).toList := by
        simp [String.intercalate_cons_cons]
      rw [written, Text.splitOnChar_mark, single, List.map_append, List.map_singleton,
        String.ofList_toList, inductionHypothesis (by simp) others, List.singleton_append]

/-- Names with slashes between them are a relative path. -/
theorem not_isAbsolute_intercalate {names : Place} (present : names ≠ [])
    (named : ∀ name ∈ names, IsEntryName name) :
    Path.isAbsolute (String.intercalate "/" names) = false := by
  have whole := pieces_intercalate present named
  rw [Path.isAbsolute, Bool.eq_false_iff]
  intro begins
  obtain ⟨rest, written⟩ := List.head?_eq_some_iff.mp (beq_iff_eq.mp begins)
  rw [pieces, written, Text.splitOnChar, if_pos rfl, List.map_cons] at whole
  have empty : "" ∈ names := by
    rw [← whole]
    exact List.mem_cons_self
  exact (named "" empty).1 rfl

/-- Relative paths inside another path are written behind it and a slash. The slash may be the
last one of the outer path. -/
theorem exists_join_front {base : String} (nonempty : base ≠ "") :
    ∃ front, (base.toList = front ∨ base.toList = front ++ ['/']) ∧
      ∀ relative, Path.isAbsolute relative = false →
        (Path.join base relative).toList = front ++ '/' :: relative.toList := by
  by_cases slash : base.toList.getLast? = some '/'
  · obtain ⟨front, ends⟩ := List.getLast?_eq_some_iff.mp slash
    exact ⟨front, .inr ends, fun relative inside => by simp [Path.join, inside, ends]⟩
  · exact ⟨base.toList, .inl rfl, fun relative inside => by
      simp [Path.join, inside, slash, nonempty]⟩

/-- A relative path inside another one is absolute if the outer one is, and it is written behind it
and a slash. -/
theorem join_eq {base relative : String} (nonempty : base ≠ "")
    (inside : Path.isAbsolute relative = false) :
    Path.isAbsolute (Path.join base relative) = Path.isAbsolute base ∧
      ∃ front, (base.toList = front ∨ base.toList = front ++ ['/']) ∧
        (Path.join base relative).toList = front ++ '/' :: relative.toList := by
  obtain ⟨front, outer, joined⟩ := exists_join_front nonempty
  have written := joined relative inside
  refine ⟨?_, front, outer, written⟩
  rw [Path.isAbsolute, Path.isAbsolute, written]
  rcases outer with same | slash
  · have begun : front ≠ [] := fun none => nonempty (String.toList_eq_nil_iff.mp (same.trans none))
    rw [same, List.head?_append_of_ne_nil _ begun]
  · cases front <;> simp [slash]

/-- Names behind a path are more pieces of it. A slash at the end of the path does not matter. -/
theorem exists_pieces_join {base : String} (nonempty : base ≠ "") :
    ∃ front, (pieces base = front ∨ pieces base = front ++ [""]) ∧
      ∀ names : Place, names ≠ [] → (∀ name ∈ names, IsEntryName name) →
        Path.join base (String.intercalate "/" names) ≠ "" ∧
          Path.isAbsolute (Path.join base (String.intercalate "/" names)) = Path.isAbsolute base ∧
            pieces (Path.join base (String.intercalate "/" names)) = front ++ names := by
  obtain ⟨chars, outer, joined⟩ := exists_join_front nonempty
  refine ⟨(Text.splitOnChar '/' chars).map String.ofList, ?_, fun names present named => ?_⟩
  · rcases outer with same | slash
    · exact .inl (by rw [pieces, same])
    · refine .inr ?_
      rw [pieces, slash, Text.splitOnChar_mark, List.map_append]
      rfl
  · have inside := not_isAbsolute_intercalate present named
    have written := joined _ inside
    refine ⟨fun none => by simp [none] at written, (join_eq nonempty inside).1, ?_⟩
    rw [pieces, written, Text.splitOnChar_mark, List.map_append, ← pieces,
      pieces_intercalate present named]

/-- A path of names inside another path leads where the names lead from the place that the
other path leads to. -/
theorem locate_join {system : FileSystem} {base : String} {place names : Place}
    (located : system.locate .target base = .ok place) (present : names ≠ [])
    (named : ∀ name ∈ names, IsEntryName name) :
    ∃ remaining, system.locate .target (Path.join base (String.intercalate "/" names)) =
      locateFrom system.root .target remaining place names := by
  have nonempty : base ≠ "" := by
    rintro rfl
    simp [locate] at located
  obtain ⟨front, outer, joined⟩ := exists_pieces_join nonempty
  obtain ⟨further, sameStart, whole⟩ := joined names present named
  -- A slash at the end of the outer path is a last piece that goes nowhere.
  obtain ⟨back, nowhere, outerPieces⟩ : ∃ back, (back = [] ∨ back = [""]) ∧
      pieces base = front ++ back := by
    rcases outer with same | slash
    · exact ⟨[], .inl rfl, by rw [same, List.append_nil]⟩
    · exact ⟨[""], .inr rfl, slash⟩
  rw [locate, if_neg (by simpa using nonempty), outerPieces] at located
  rw [locate, if_neg (by simpa using further), sameStart, whole]
  rcases locateFrom_append system.root linkLimit
      (if Path.isAbsolute base then [] else system.workingDirectory) front with
    ⟨fault, _, fails⟩ | ⟨there, remaining, _, onward⟩
  · rw [fails] at located
    simp at located
  · rw [onward] at located
    have same : there = place := by
      rcases nowhere with rfl | rfl
      · simpa [locateFrom_nil] using located
      · rw [locateFrom_cons] at located
        unfold follow at located
        cases stood : system.root.at? there with
        | none => simp [stood] at located
        | some tree =>
          cases tree with
          | directory _ => simpa [stood, locateFrom_nil] using located
          | file _ => simp [stood] at located
          | link _ => simp [stood] at located
    exact ⟨remaining, by rw [onward, same]⟩

/-- What a path leads to stands at the place that it leads to. -/
theorem find_eq_ok_iff {system : FileSystem} {path : String} {tree : FileTree} :
    system.find path = .ok tree ↔
      ∃ place, system.locate .target path = .ok place ∧ system.root.at? place = some tree := by
  unfold find
  cases located : system.locate .target path with
  | error fault => simp [bind, Except.bind]
  | ok place => cases stood : system.root.at? place <;> simp [bind, Except.bind, stood]

/-- A path of names inside a path that leads to a tree leads to what stands there in the tree,
unless that is a link. -/
theorem find_join {system : FileSystem} (formed : system.root.WellFormed) {base : String}
    {tree found : FileTree} {names : Place} (outer : system.find base = .ok tree)
    (reached : tree.at? names = some found) (present : names ≠ [])
    (direct : ∀ target, found ≠ .link target) :
    system.find (Path.join base (String.intercalate "/" names)) = .ok found := by
  obtain ⟨place, located, stood⟩ := find_eq_ok_iff.mp outer
  have formedBelow : tree.WellFormed := formed.below stood
  obtain ⟨remaining, onward⟩ :=
    locate_join located present (formedBelow.isEntryName_of_mem reached)
  refine find_eq_ok_iff.mpr ⟨place ++ names, ?_, ?_⟩
  · rw [onward, locateFrom_names stood formedBelow reached direct]
  · rw [FileTree.at?_append, stood, Option.bind_some, reached]

/-- What a piece does is not a matter of the order of entries. -/
theorem follow_sorted {root : FileTree} (formed : root.WellFormed) (links : Nat) (here : Place)
    (piece : String) : follow root.sorted links here piece = follow root links here piece := by
  unfold follow
  rw [FileTree.at?_sorted formed]
  cases stood : root.at? here with
  | none => rfl
  | some tree =>
    cases tree with
    | file _ => rfl
    | link _ => rfl
    | directory entries =>
      rw [Option.map_some, FileTree.sorted_directory]
      dsimp only
      rw [FileTree.get?_inOrder (formed here entries stood).1]
      cases Keyed.get? piece entries with
      | none => rfl
      | some child =>
        cases child with
        | file _ => rfl
        | link _ => rfl
        | directory _ => rfl

/-- A lookup is not a matter of the order of entries. -/
theorem locateFrom_sorted {root : FileTree} (formed : root.WellFormed) (links : Nat)
    (here : Place) (path : List String) :
    locateFrom root.sorted .target links here path = locateFrom root .target links here path := by
  induction links, here, path using lookup_induction root with
  | finished links here => rw [locateFrom_nil, locateFrom_nil]
  | further links here piece rest inductionHypothesis =>
    rw [locateFrom_cons, locateFrom_cons, follow_sorted formed]
    cases followed : follow root links here piece with
    | error fault => rfl
    | ok next => exact inductionHypothesis _ _ _ followed

/-- In a sorted system a path leads to the same place. -/
theorem locate_sorted {system : FileSystem} (formed : system.root.WellFormed) (path : String) :
    system.sorted.locate .target path = system.locate .target path := by
  unfold locate
  split
  · rfl
  · exact locateFrom_sorted formed _ _ _

/-- In a sorted system a path leads to what it led to before, sorted. -/
theorem find_sorted {system : FileSystem} (formed : system.root.WellFormed) (path : String) :
    system.sorted.find path = (system.find path).map FileTree.sorted := by
  have there : ∀ place, system.sorted.root.at? place = (system.root.at? place).map FileTree.sorted :=
    FileTree.at?_sorted formed
  unfold find
  rw [locate_sorted formed]
  cases system.locate .target path with
  | error fault => rfl
  | ok place =>
    cases stood : system.root.at? place <;>
      simp [bind, Except.bind, there, stood, Except.map]

end FileSystem

end ServiceWiring
