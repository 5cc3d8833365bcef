import ServiceWiring.Proofs.Files.Erasure
import ServiceWiring.Proofs.Files.Lookup

/-!
# The trail of a lookup

A lookup asks for entries, one for each piece that it comes to, those of the links that it follows
included. `trail` lists their places. What stands somewhere else makes no difference to the
lookup. So a path whose trail stays away from a place, and from all that is below it, leads where
it led before when the entry at the place is taken away.

A path can also be looked up for the entry that it names, which is not followed if it is a link.
Such a lookup does not come near the place either, and like the others it is not a matter of the
order of entries.
-/

namespace ServiceWiring

namespace FileSystem

open FileTree (without withoutIn)

/-- A piece leads to a place on the way to the entry that it names. -/
theorem prefix_of_follow {root : FileTree} {links remaining : Nat} {here next : Place}
    {piece : String} {front : List String}
    (followed : follow root links here piece = .ok (remaining, next, front)) :
    next <+: here ++ [piece] := by
  have start : here <+: here ++ [piece] := List.prefix_append _ _
  unfold follow at followed
  cases stood : root.at? here with
  | none => simp [stood] at followed
  | some tree =>
    cases tree with
    | file _ => simp [stood] at followed
    | link _ => simp [stood] at followed
    | directory entries =>
      rw [stood] at followed
      dsimp only at followed
      split_ifs at followed
      · cases followed
        exact start
      · cases followed
        exact (List.dropLast_prefix here).trans start
      · cases found : Keyed.get? piece entries with
        | none => simp [found] at followed
        | some child =>
          rw [found] at followed
          cases child with
          | file _ | directory _ =>
            cases followed
            exact List.prefix_refl _
          | link target =>
            cases links with
            | zero => simp at followed
            | succ links =>
              cases followed
              split
              · exact List.nil_prefix
              · exact start

/-- What a piece does is not a matter of an entry that it does not name. -/
theorem follow_without {place : Place} {root : FileTree} {links : Nat} {here : Place}
    {piece : String} (apart : ¬ place <+: here ++ [piece]) :
    follow (root.without place []) links here piece = follow root links here piece := by
  have apartHere : ¬ place <+: [] ++ here := fun leads =>
    apart (leads.trans (List.prefix_append _ _))
  have different : here ++ [piece] ≠ place := fun same => apart (same ▸ List.prefix_refl _)
  unfold follow
  rw [FileTree.at?_without apartHere]
  cases root.at? here with
  | none => rfl
  | some tree =>
    cases tree with
    | file _ | link _ => rfl
    | directory entries =>
      rw [Option.map_some, without]
      dsimp only
      rw [FileTree.get?_withoutIn, List.nil_append, if_neg different]
      cases Keyed.get? piece entries with
      | none => rfl
      | some child => cases child <;> simp [without]

/-- The places that a lookup asks for: those of the entries that its pieces name. -/
def trail (root : FileTree) (links : Nat) (here : Place) : List String → List Place
  | [] => []
  | piece :: rest =>
    (here ++ [piece]) ::
      match _followed : follow root links here piece with
      | .error _ => []
      | .ok (remaining, next, front) => trail root remaining next (front ++ rest)
termination_by path => (links, path.length)
decreasing_by
  rcases (follow_eq_ok _followed).2.1 with fewer | ⟨rfl, rfl⟩
  · exact Prod.Lex.left _ _ fewer
  · exact Prod.Lex.right _ (by simp)

/-- Without further pieces nothing is touched. -/
theorem trail_nil (root : FileTree) (links : Nat) (here : Place) :
    trail root links here [] = [] := by
  rw [trail]

/-- A piece touches the place that it names, and where it leads the lookup goes on. -/
theorem trail_cons (root : FileTree) (links : Nat) (here : Place) (piece : String)
    (rest : List String) :
    trail root links here (piece :: rest) =
      (here ++ [piece]) ::
        match follow root links here piece with
        | .error _ => []
        | .ok (remaining, next, front) => trail root remaining next (front ++ rest) := by
  rw [trail]
  split <;> rename_i followed <;> rw [followed]

/-- Whether a lookup stays away from a place and all that is below it. -/
def StaysAway (place : Place) (root : FileTree) (links : Nat) (here : Place) (path : List String) :
    Prop := ∀ touched ∈ trail root links here path, ¬ place <+: touched

/-- A lookup stays away from a place if its first piece does, and what the piece leads to. -/
theorem staysAway_cons_iff {place : Place} {root : FileTree} {links : Nat} {here : Place}
    {piece : String} {rest : List String} :
    StaysAway place root links here (piece :: rest) ↔
      ¬ place <+: here ++ [piece] ∧ ∀ remaining next front,
        follow root links here piece = .ok (remaining, next, front) →
          StaysAway place root remaining next (front ++ rest) := by
  rw [StaysAway, trail_cons, List.forall_mem_cons]
  refine and_congr_right fun _ => ?_
  cases followed : follow root links here piece with
  | error fault => simp
  | ok next =>
    obtain ⟨remaining, next, front⟩ := next
    simp [StaysAway]

/-- A single piece that leads to no link stays away from a place if it does not name it. -/
theorem staysAway_singleton {place : Place} {root : FileTree} {links : Nat} {here : Place}
    {piece : String} (apart : ¬ place <+: here ++ [piece])
    (direct : ∀ remaining next front,
      follow root links here piece = .ok (remaining, next, front) → front = []) :
    StaysAway place root links here [piece] := by
  refine staysAway_cons_iff.mpr ⟨apart, fun remaining next front followed => ?_⟩
  rw [direct remaining next front followed]
  simp [StaysAway, trail_nil]

/-- A lookup that stays away from a place is not affected by the absence of what stands there. -/
theorem locateFrom_without {place : Place} {root : FileTree} {links : Nat} {here : Place}
    {path : List String} (away : StaysAway place root links here path) :
    locateFrom (root.without place []) .target links here path =
      locateFrom root .target links here path := by
  induction links, here, path using lookup_induction root with
  | finished links here => rw [locateFrom_nil, locateFrom_nil]
  | further links here piece rest inductionHypothesis =>
    obtain ⟨apart, onward⟩ := staysAway_cons_iff.mp away
    rw [locateFrom_cons, locateFrom_cons, follow_without apart]
    cases followed : follow root links here piece with
    | error fault => rfl
    | ok next => exact inductionHypothesis _ _ _ followed (onward _ _ _ followed)

/-- A lookup that stays away from a place does not end there or below. -/
theorem apart_of_locateFrom {place : Place} {root : FileTree} {links : Nat} {here found : Place}
    {path : List String} (start : ¬ place <+: here) (away : StaysAway place root links here path)
    (located : locateFrom root .target links here path = .ok found) : ¬ place <+: found := by
  induction links, here, path using lookup_induction root with
  | finished links here =>
    rw [locateFrom_nil, Except.ok.injEq] at located
    exact located ▸ start
  | further links here piece rest inductionHypothesis =>
    obtain ⟨apart, onward⟩ := staysAway_cons_iff.mp away
    rw [locateFrom_cons] at located
    cases followed : follow root links here piece with
    | error fault => simp [followed] at located
    | ok next =>
      rw [followed] at located
      have apartNext : ¬ place <+: next.2.1 := fun leads =>
        apart (leads.trans (prefix_of_follow followed))
      exact inductionHypothesis _ _ _ followed apartNext (onward _ _ _ followed) located

/-! ## Lookups for an entry -/

/-- A lookup for an entry follows the first piece of a path as long as it is not the last. -/
theorem locateFrom_entry_cons (root : FileTree) (links : Nat) (here : Place) (piece : String)
    {rest : List String} (more : rest ≠ []) :
    locateFrom root .entry links here (piece :: rest) =
      match follow root links here piece with
      | .error fault => .error fault
      | .ok (links, here, front) => locateFrom root .entry links here (front ++ rest) := by
  rw [locateFrom, follow]
  cases root.at? here with
  | none => rfl
  | some tree =>
    cases tree with
    | file _ | link _ => rfl
    | directory entries =>
      dsimp only
      by_cases still : piece = "" ∨ piece = "."
      · simp [still]
      by_cases up : piece = ".."
      · simp [up]
      rw [if_neg still, if_neg up, if_neg (by simp), if_neg still, if_neg up]
      cases Keyed.get? piece entries with
      | none => simp
      | some child =>
        cases child with
        | file _ | directory _ => rfl
        | link target => cases links <;> simp [more]

/-- The last piece of a lookup for an entry names it, link or not. -/
theorem locateFrom_entry_singleton (root : FileTree) (links : Nat) (here : Place)
    (piece : String) :
    locateFrom root .entry links here [piece] =
      match root.at? here with
      | some (.directory entries) =>
        if piece = "" ∨ piece = "." then .ok here
        else if piece = ".." then .ok here.dropLast
        else if (Keyed.get? piece entries).isSome then .ok (here ++ [piece])
        else .error .notFound
      | _ => .error .notDirectory := by
  rw [locateFrom]
  cases root.at? here with
  | none => rfl
  | some tree =>
    cases tree with
    | file _ | link _ => rfl
    | directory entries =>
      cases found : Keyed.get? piece entries with
      | none => simp [locateFrom, found]
      | some child => cases child <;> simp [locateFrom, found]

/-- The last piece of a lookup for an entry leads to a place on the way to the entry that it
names. -/
theorem prefix_of_locateFrom_entry {root : FileTree} {links : Nat} {here found : Place}
    {piece : String} (located : locateFrom root .entry links here [piece] = .ok found) :
    found <+: here ++ [piece] := by
  have start : here <+: here ++ [piece] := List.prefix_append _ _
  rw [locateFrom_entry_singleton] at located
  split at located
  · split_ifs at located <;> cases located
    · exact start
    · exact (List.dropLast_prefix here).trans start
    · exact List.prefix_refl _
  · cases located

/-- A lookup for an entry that stays away from a place does not end there or below. -/
theorem apart_of_locateFrom_entry {place : Place} {root : FileTree} {links : Nat}
    {here found : Place} {path : List String} (start : ¬ place <+: here)
    (away : StaysAway place root links here path)
    (located : locateFrom root .entry links here path = .ok found) : ¬ place <+: found := by
  induction links, here, path using lookup_induction root with
  | finished links here =>
    obtain rfl : here = found := by simpa [locateFrom] using located
    exact start
  | further links here piece rest inductionHypothesis =>
    obtain ⟨apart, onward⟩ := staysAway_cons_iff.mp away
    by_cases last : rest = []
    · subst last
      exact fun leads => apart (leads.trans (prefix_of_locateFrom_entry located))
    · rw [locateFrom_entry_cons _ _ _ _ last] at located
      cases followed : follow root links here piece with
      | error fault => simp [followed] at located
      | ok next =>
        rw [followed] at located
        have apartNext : ¬ place <+: next.2.1 := fun leads =>
          apart (leads.trans (prefix_of_follow followed))
        exact inductionHypothesis _ _ _ followed apartNext (onward _ _ _ followed) located

/-! ## Parts of a path -/

/-- Where a path leads, and how many links may still be followed from there. -/
inductive Reaches (root : FileTree) : Nat → Place → List String → Nat → Place → Prop
  | here (links : Nat) (here : Place) : Reaches root links here [] links here
  | further {links remaining left : Nat} {here next found : Place} {piece : String}
    {front rest : List String}
    (followed : follow root links here piece = .ok (remaining, next, front))
    (onward : Reaches root remaining next (front ++ rest) left found) :
    Reaches root links here (piece :: rest) left found

/-- A lookup that succeeds reaches a place. -/
theorem exists_reaches {root : FileTree} {links : Nat} {here found : Place} {path : List String}
    (located : locateFrom root .target links here path = .ok found) :
    ∃ left, Reaches root links here path left found := by
  induction links, here, path using lookup_induction root with
  | finished links here =>
    rw [locateFrom_nil, Except.ok.injEq] at located
    exact ⟨links, located ▸ .here links here⟩
  | further links here piece rest inductionHypothesis =>
    rw [locateFrom_cons] at located
    cases followed : follow root links here piece with
    | error fault => simp [followed] at located
    | ok next =>
      rw [followed] at located
      obtain ⟨left, onward⟩ := inductionHypothesis _ _ _ followed located
      exact ⟨left, .further followed onward⟩

namespace Reaches

variable {root : FileTree} {links left : Nat} {here found : Place} {path : List String}

/-- No more links may be followed behind a path than at its beginning. -/
theorem left_le (reaches : Reaches root links here path left found) : left ≤ links := by
  induction reaches with
  | here => exact Nat.le_refl _
  | further followed _ inductionHypothesis =>
    rcases (follow_eq_ok followed).2.1 with fewer | ⟨rfl, -⟩ <;> omega

/-- What comes behind a path is looked up from the place that the path reaches. -/
theorem locateFrom_append (reaches : Reaches root links here path left found)
    (back : List String) :
    locateFrom root .target links here (path ++ back) =
      locateFrom root .target left found back := by
  induction reaches with
  | here => rfl
  | further followed _ inductionHypothesis =>
    rw [List.cons_append, locateFrom_cons, followed]
    dsimp only
    rw [← List.append_assoc, inductionHypothesis]

/-- The same for the entry that the whole names. -/
theorem locateFrom_entry_append (reaches : Reaches root links here path left found)
    {back : List String} (more : back ≠ []) :
    locateFrom root .entry links here (path ++ back) =
      locateFrom root .entry left found back := by
  induction reaches with
  | here => rfl
  | further followed _ inductionHypothesis =>
    rw [List.cons_append, locateFrom_entry_cons _ _ _ _ (by simp [more]), followed]
    dsimp only
    rw [← List.append_assoc, inductionHypothesis]

/-- The trail of a longer path goes on from the place that the path reaches. -/
theorem trail_append (reaches : Reaches root links here path left found) (back : List String) :
    trail root links here (path ++ back) =
      trail root links here path ++ trail root left found back := by
  induction reaches with
  | here => rw [trail_nil, List.nil_append, List.nil_append]
  | further followed _ inductionHypothesis =>
    rw [List.cons_append, trail_cons, trail_cons, followed]
    dsimp only
    rw [← List.append_assoc, inductionHypothesis, List.cons_append]

/-- A path that reaches a place does so by its first part and then by its second one. -/
theorem split {front back : List String}
    (reaches : Reaches root links here (front ++ back) left found) :
    ∃ between place, Reaches root links here front between place ∧
      Reaches root between place back left found := by
  induction links, here, front using lookup_induction root with
  | finished links here => exact ⟨links, here, .here links here, reaches⟩
  | further links here piece rest inductionHypothesis =>
    rw [List.cons_append] at reaches
    cases reaches with
    | further followed onward =>
      rw [← List.append_assoc] at onward
      obtain ⟨between, place, first, second⟩ := inductionHypothesis _ _ _ followed onward
      exact ⟨between, place, .further followed first, second⟩

end Reaches

/-! ## Sorted systems -/

/-- The trail of a lookup is not a matter of the order of entries. -/
theorem trail_sorted {root : FileTree} (formed : root.WellFormed) (links : Nat) (here : Place)
    (path : List String) : trail root.sorted links here path = trail root links here path := by
  induction links, here, path using lookup_induction root with
  | finished links here => rw [trail_nil, trail_nil]
  | further links here piece rest inductionHypothesis =>
    rw [trail_cons, trail_cons, follow_sorted formed]
    cases followed : follow root links here piece with
    | error fault => rfl
    | ok next => exact congrArg _ (inductionHypothesis _ _ _ followed)

/-- Which entry a path names is not a matter of the order of entries. -/
theorem locateFrom_entry_sorted {root : FileTree} (formed : root.WellFormed) (links : Nat)
    (here : Place) (path : List String) :
    locateFrom root.sorted .entry links here path = locateFrom root .entry links here path := by
  induction links, here, path using lookup_induction root with
  | finished links here => simp [locateFrom]
  | further links here piece rest inductionHypothesis =>
    by_cases last : rest = []
    · subst last
      rw [locateFrom_entry_singleton, locateFrom_entry_singleton, FileTree.at?_sorted formed]
      cases stood : root.at? here with
      | none => rfl
      | some tree =>
        cases tree with
        | file _ | link _ => rfl
        | directory entries =>
          have listed := FileTree.get?_inOrder (formed here entries stood).1 piece
          rw [Option.map_some, FileTree.sorted_directory]
          simp only [listed, Option.isSome_map]
    · rw [locateFrom_entry_cons _ _ _ _ last, locateFrom_entry_cons _ _ _ _ last,
        follow_sorted formed]
      cases followed : follow root links here piece with
      | error fault => rfl
      | ok next => exact inductionHypothesis _ _ _ followed

end FileSystem

end ServiceWiring
