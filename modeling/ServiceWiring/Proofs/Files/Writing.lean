import ServiceWiring.Proofs.Files.Lookup
import ServiceWiring.Proofs.Text.Bytes

/-!
# Writing files

A path for writing leads through directories and links to a place in a directory where
there is a file or nothing yet. Putting a file there leaves every other file a file,
every directory a directory and every link as it was, so the path leads to the same
place afterwards, now for reading.

The main statement is that a file that has been written is a file and holds what was
written to it, be it new or not, and be it reached through links or not.
-/

namespace ServiceWiring

namespace FileTree

/-- Whether two trees are of one kind: both files, both directories, or links to the same
path. -/
inductive SameKind : FileTree → FileTree → Prop
  | file (before after : ByteArray) : SameKind (.file before) (.file after)
  | link (target : String) : SameKind (.link target) (.link target)
  | directory (before after : List (String × FileTree)) :
    SameKind (.directory before) (.directory after)

/-- A tree is of its own kind. -/
theorem SameKind.refl (tree : FileTree) : SameKind tree tree := by
  cases tree with
  | file content => exact .file content content
  | link target => exact .link target
  | directory entries => exact .directory entries entries

/-- A tree with a directory in it is one. -/
theorem exists_directory_top {root : FileTree} {place : Place}
    {entries : List (String × FileTree)} (stood : root.at? place = some (.directory entries)) :
    ∃ top, root.at? [] = some (.directory top) := by
  cases place with
  | nil => exact ⟨entries, stood⟩
  | cons first names =>
    obtain ⟨top, _, rfl, _⟩ := at?_cons_eq_some_iff.mp stood
    exact ⟨top, rfl⟩

/-- What is above a directory is one. -/
theorem exists_directory_dropLast {root : FileTree} {place : Place}
    {entries : List (String × FileTree)} (stood : root.at? place = some (.directory entries)) :
    ∃ above, root.at? place.dropLast = some (.directory above) := by
  cases place using List.reverseRecOn with
  | nil => exact ⟨entries, stood⟩
  | append_singleton front last =>
    rw [at?_append, Option.bind_eq_some_iff] at stood
    obtain ⟨outer, found, inside⟩ := stood
    obtain ⟨above, _, rfl, _⟩ := at?_cons_eq_some_iff.mp inside
    exact ⟨above, by rw [List.dropLast_concat, found]⟩

/-- Whether a file can be put at a place: in a directory, and in the place of a file or of
nothing. -/
def Writable (root : FileTree) (place : Place) : Prop :=
  ∃ parent name entries, place = parent ++ [name] ∧ root.at? parent = some (.directory entries) ∧
    ∀ found, Keyed.get? name entries = some found → ∃ content, found = .file content

/-- Putting a file where one can be put leaves everything of the kind that it was. -/
theorem Writable.at?_insert {root found : FileTree} {location place : Place}
    (writable : root.Writable location) (content : ByteArray)
    (stood : root.at? place = some found) :
    ∃ kept, (root.insert location (.file content)).at? place = some kept ∧
      SameKind found kept := by
  obtain ⟨parent, name, entries, rfl, inside, vacant⟩ := writable
  induction parent generalizing root place with
  | nil =>
    obtain rfl : root = .directory entries := Option.some.inj inside
    cases place with
    | nil => exact ⟨_, rfl, (Option.some.inj stood) ▸ .directory _ _⟩
    | cons first names =>
      obtain ⟨_, child, same, listed, further⟩ := at?_cons_eq_some_iff.mp stood
      obtain rfl := directory.inj same
      by_cases here : first = name
      · subst here
        obtain ⟨before, rfl⟩ := vacant child listed
        obtain ⟨rfl, rfl⟩ := (at?_eq_some_iff_of_entries rfl).mp further
        exact ⟨.file content, FileTree.at?_insert _ [first] _, .file before content⟩
      · refine ⟨found, ?_, .refl found⟩
        rw [List.nil_append, insert, at?, entries_directory, Keyed.get?_insert_of_ne here,
          entries_directory, listed, Option.bind_some, further]
  | cons outer parent inductionHypothesis =>
    obtain ⟨listing, next, rfl, nextListed, deeper⟩ := at?_cons_eq_some_iff.mp inside
    cases place with
    | nil => exact ⟨_, rfl, (Option.some.inj stood) ▸ .directory _ _⟩
    | cons first names =>
      obtain ⟨_, child, same, listed, further⟩ := at?_cons_eq_some_iff.mp stood
      obtain rfl := directory.inj same
      rw [List.cons_append, insert, at?, entries_directory, entries_directory]
      by_cases here : first = outer
      · subst here
        obtain rfl : next = child := Option.some.inj (nextListed.symm.trans listed)
        rw [Keyed.get?_insert_self, nextListed, Option.bind_some]
        exact inductionHypothesis further deeper
      · refine ⟨found, ?_, .refl found⟩
        rw [Keyed.get?_insert_of_ne here, listed, Option.bind_some, further]

end FileTree

namespace FileSystem

/-- A piece of a path that leads on does so when a file has been put somewhere. -/
theorem follow_insert {root : FileTree} {location : Place} (writable : root.Writable location)
    (content : ByteArray) {links : Nat} {here : Place} {piece : String}
    {next : Nat × Place × List String} (followed : follow root links here piece = .ok next) :
    follow (root.insert location (.file content)) links here piece = .ok next := by
  obtain ⟨remaining, place, front⟩ := next
  obtain ⟨⟨entries, stood⟩, _⟩ := follow_eq_ok followed
  obtain ⟨_, stillStood, ⟨⟩⟩ := writable.at?_insert content stood
  rename_i after
  unfold follow at followed ⊢
  rw [stood] at followed
  rw [stillStood]
  dsimp only at followed ⊢
  split
  · rwa [if_pos ‹_›] at followed
  rw [if_neg ‹_›] at followed
  split
  · rwa [if_pos ‹_›] at followed
  rw [if_neg ‹_›] at followed
  cases listed : Keyed.get? piece entries with
  | none => simp [listed] at followed
  | some child =>
    obtain ⟨kept, stillListed, kind⟩ :=
      writable.at?_insert content ((FileTree.at?_concat stood piece).trans listed)
    rw [FileTree.at?_concat stillStood] at stillListed
    rw [listed] at followed
    rw [stillListed]
    cases kind with
    | file => exact followed
    | link => exact followed
    | directory => exact followed

/-- A lookup for writing ends with a new name in a directory, or follows the first piece of
the path and then the rest. -/
theorem locateFrom_writing_cons {root : FileTree} {links : Nat} {here location : Place}
    {piece : String} {rest : List String}
    (located : locateFrom root .writing links here (piece :: rest) = .ok location) :
    (rest = [] ∧ location = here ++ [piece] ∧ piece ≠ "" ∧ piece ≠ "." ∧ piece ≠ ".." ∧
      ∃ entries, root.at? here = some (.directory entries) ∧ Keyed.get? piece entries = none) ∨
      ∃ remaining place front, follow root links here piece = .ok (remaining, place, front) ∧
        locateFrom root .writing remaining place (front ++ rest) = .ok location := by
  rw [locateFrom] at located
  unfold follow
  cases stood : root.at? here with
  | none => simp [stood] at located
  | some tree =>
    cases tree with
    | file _ => simp [stood] at located
    | link _ => simp [stood] at located
    | directory entries =>
      rw [stood] at located
      dsimp only at located ⊢
      by_cases still : piece = "" ∨ piece = "."
      · rw [if_pos still] at located
        exact .inr ⟨links, here, [], by rw [if_pos still], located⟩
      by_cases up : piece = ".."
      · rw [if_neg still, if_pos up] at located
        exact .inr ⟨links, here.dropLast, [], by rw [if_neg still, if_pos up], located⟩
      rw [if_neg still, if_neg up] at located ⊢
      split at located
      · simp at located
      cases listed : Keyed.get? piece entries with
      | none =>
        rw [listed] at located
        simp only [true_and] at located
        split at located
        · rename_i last
          rw [not_or] at still
          exact .inl ⟨last, (Except.ok.inj located).symm, still.1, still.2, up, entries, rfl,
            listed⟩
        · simp at located
      | some child =>
        rw [listed] at located
        cases child with
        | file _ => exact .inr ⟨_, _, _, rfl, located⟩
        | directory _ => exact .inr ⟨_, _, _, rfl, located⟩
        | link target =>
          cases links with
          | zero => simp at located
          | succ links => exact .inr ⟨_, _, _, rfl, by simpa using located⟩

/-- A piece leads to a directory, or to a place in a directory where there is a file. -/
theorem follow_reaches {root : FileTree} {links remaining : Nat} {here place : Place}
    {piece : String} {front : List String}
    (followed : follow root links here piece = .ok (remaining, place, front)) :
    (∃ entries, root.at? place = some (.directory entries)) ∨ root.Writable place := by
  obtain ⟨⟨entries, stood⟩, _⟩ := follow_eq_ok followed
  unfold follow at followed
  rw [stood] at followed
  dsimp only at followed
  split at followed
  · cases followed
    exact .inl ⟨entries, stood⟩
  split at followed
  · cases followed
    exact .inl (FileTree.exists_directory_dropLast stood)
  cases listed : Keyed.get? piece entries with
  | none => simp [listed] at followed
  | some child =>
    rw [listed] at followed
    cases child with
    | file content =>
      cases followed
      refine .inr ⟨here, piece, entries, rfl, stood, fun found same => ?_⟩
      exact ⟨content, (Option.some.inj (listed.symm.trans same)).symm⟩
    | directory inner =>
      cases followed
      exact .inl ⟨inner, (FileTree.at?_concat stood piece).trans listed⟩
    | link target =>
      cases links with
      | zero => simp at followed
      | succ links =>
        cases followed
        split
        · exact .inl (FileTree.exists_directory_top stood)
        · exact .inl ⟨entries, stood⟩

/-- A lookup for writing ends where a file can be put, if it does not end where it starts. -/
theorem writable_of_locateFrom {root : FileTree} {links : Nat} {here location : Place}
    {path : List String}
    (start : path = [] → (∃ entries, root.at? here = some (.directory entries)) ∨
      root.Writable here)
    (located : locateFrom root .writing links here path = .ok location) :
    root.Writable location := by
  induction links, here, path using lookup_induction root with
  | finished links here =>
    rw [locateFrom] at located
    rcases start rfl with ⟨entries, stood⟩ | writable
    · simp [stood, FileTree.isDirectory] at located
    · split at located
      · simp at located
      · exact (Except.ok.inj located) ▸ writable
  | further links here piece rest inductionHypothesis =>
    rcases locateFrom_writing_cons located with
      ⟨_, rfl, _, _, _, entries, stood, absent⟩ | ⟨remaining, place, front, followed, onward⟩
    · exact ⟨here, piece, entries, rfl, stood, fun found same => by simp [absent] at same⟩
    · exact inductionHypothesis remaining place front followed
        (fun _ => follow_reaches followed) onward

/-- Where a path for writing leads, it leads for reading once a file has been put there. -/
theorem locateFrom_insert {root : FileTree} {location : Place} (writable : root.Writable location)
    (content : ByteArray) {links : Nat} {here : Place} {path : List String}
    (located : locateFrom root .writing links here path = .ok location) :
    locateFrom (root.insert location (.file content)) .target links here path = .ok location := by
  induction links, here, path using lookup_induction root with
  | finished links here =>
    rw [locateFrom] at located
    split at located
    · simp at located
    · rw [locateFrom_nil, Except.ok.inj located]
  | further links here piece rest inductionHypothesis =>
    rw [locateFrom_cons]
    rcases locateFrom_writing_cons located with
      ⟨rfl, rfl, named, notStill, notUp, entries, stood, _⟩ |
        ⟨remaining, place, front, followed, onward⟩
    · -- The file is new: its directory now has an entry of this name.
      have there : (root.insert (here ++ [piece]) (.file content)).at? (here ++ [piece]) =
          some (.file content) := FileTree.at?_insert _ _ _
      obtain ⟨after, stillStood, kind⟩ := writable.at?_insert content stood
      cases kind with
      | directory _ entries =>
        have listed := (FileTree.at?_concat stillStood piece).symm.trans there
        have found : follow (root.insert (here ++ [piece]) (.file content)) links here piece =
            .ok (links, here ++ [piece], []) := by
          rw [follow, stillStood]
          dsimp only
          rw [if_neg (not_or.mpr ⟨named, notStill⟩), if_neg notUp, listed]
        rw [found]
        exact locateFrom_nil ..
    · rw [follow_insert writable content followed]
      exact inductionHypothesis remaining place front followed onward

/-- What has been written to a file stands where its path leads. -/
theorem find_write {system written : FileSystem} {path : String} {content : ByteArray}
    (success : system.write path content = .ok written) :
    written.find path = .ok (.file content) := by
  unfold write at success
  cases located : system.locate .writing path with
  | error fault => simp [located, bind, Except.bind] at success
  | ok location =>
    simp only [located, bind, Except.bind, pure, Except.pure, Except.ok.injEq] at success
    subst success
    have nonempty : ¬path.isEmpty = true := by
      intro empty
      rw [locate, if_pos empty] at located
      simp at located
    rw [locate, if_neg nonempty] at located
    have writable : system.root.Writable location :=
      writable_of_locateFrom (fun none => absurd none (by simp [pieces, Text.splitOnChar_ne_nil]))
        located
    refine find_eq_ok_iff.mpr ⟨location, ?_, FileTree.at?_insert _ _ _⟩
    rw [locate, if_neg nonempty]
    exact locateFrom_insert writable content located

/-- A text that has been written to a file is read from it, and the file is one. -/
theorem readText?_write {system written : FileSystem} {path text : String}
    (success : system.write path text.toUTF8 = .ok written) :
    written.isFile path = true ∧ written.readText? path = some text := by
  have found := find_write success
  constructor
  · rw [isFile, found]
  · rw [readText?, read, found]
    exact Text.fromUTF8?_toUTF8 text

end FileSystem

end ServiceWiring
