import ServiceWiring.Proofs.Files.Depth
import ServiceWiring.Proofs.Files.Scanner
import ServiceWiring.Proofs.Files.Trail

/-!
# Entries with an excluded name

A walk leaves out an entry with an excluded name, and all that is below it. So it should make no
difference to the walk whether the entry is there, as long as no other way leads to it. That is
so of files and directories, and of links as long as they are left alone. A link that is followed
is looked up before its name is considered. When it leads nowhere, or to a directory in which the
walk is already, it is a fault in spite of its name.

The main statement compares the scans of a module with and without the entry. They have the same
candidates, and the same faults but those about the entry itself.
-/

namespace ServiceWiring

/-- The path that a fault is about. -/
def WalkFault.path : WalkFault → String
  | .system path _ => path
  | .loop path _ => path

namespace FileSystem

/-- The place from which a path is looked up. -/
def origin (system : FileSystem) (path : String) : Place :=
  if Path.isAbsolute path then [] else system.workingDirectory

/-- Whether a path leads neither to a place nor past it. -/
def Bypasses (system : FileSystem) (path : String) (place : Place) : Prop :=
  ¬ place <+: system.origin path ∧
    StaysAway place system.root linkLimit (system.origin path) (pieces path)

/-- Whether no link leads to a place or past it, but for one that stands there or below. A link
is looked up from its directory, and it is one of the links that may be followed on the way. -/
def Unlinked (system : FileSystem) (place : Place) : Prop :=
  ∀ standing target, system.root.at? standing = some (.link target) → ¬ place <+: standing →
    ∀ links < linkLimit, StaysAway place system.root links
      (if Path.isAbsolute target then [] else standing.dropLast) (pieces target)

/-- Whether a path names the entry at a place. -/
def names (system : FileSystem) (place : Place) (path : String) : Bool :=
  match system.locate .entry path with
  | .ok found => found == place
  | .error _ => false

/-- Whether a fault is as it says: a path leads nowhere, or to the same directory as another. -/
def Explains (system : FileSystem) : WalkFault → Prop
  | .system path fault => system.locate .target path = .error fault
  | .loop path ancestor => ∃ location,
    system.locate .target path = .ok location ∧ system.locate .target ancestor = .ok location

/-- The system without the entry at a place. -/
def without (system : FileSystem) (place : Place) : FileSystem :=
  { system with root := system.root.without place [] }

/-- A path that bypasses a place leads to the same place without the entry there. -/
theorem locate_without {system : FileSystem} {path : String} {place : Place}
    (bypasses : system.Bypasses path place) :
    (system.without place).locate .target path = system.locate .target path := by
  unfold locate
  split
  · rfl
  · exact locateFrom_without bypasses.2

/-- A path that bypasses a place leads neither there nor below. -/
theorem Bypasses.apart {system : FileSystem} {path : String} {place found : Place}
    (bypasses : system.Bypasses path place) (located : system.locate .target path = .ok found) :
    ¬ place <+: found := by
  unfold locate at located
  split at located
  · cases located
  · exact apart_of_locateFrom bypasses.1 bypasses.2 located

/-- A path that bypasses a place does not name the entry there. -/
theorem Bypasses.names_eq_false {system : FileSystem} {path : String} {place : Place}
    (bypasses : system.Bypasses path place) : system.names place path = false := by
  unfold names
  split
  · rename_i found located
    unfold locate at located
    split at located
    · cases located
    · have apart := apart_of_locateFrom_entry bypasses.1 bypasses.2 located
      rw [beq_eq_false_iff_ne]
      rintro rfl
      exact apart (List.prefix_refl _)
  · rfl

/-! ## Visits -/

/-- One more name is joined at the end of a path. -/
theorem pathBelow_concat (start : String) (names : List String) (name : String) :
    pathBelow start (names ++ [name]) = Path.join (pathBelow start names) name := by
  rw [pathBelow, List.foldl_append]
  rfl

/-- Whether the paths of names behind a path consist of some pieces and the name. -/
def Spelled (start path : String) (front : List String) : Prop :=
  ∀ name, IsEntryName name → Path.join path name ≠ "" ∧
    Path.isAbsolute (Path.join path name) = Path.isAbsolute start ∧
      pieces (Path.join path name) = front ++ [name]

/-- Names behind a path are spelled by its pieces, less the empty one behind a slash at its end. -/
theorem exists_spelled {path : String} (nonempty : path ≠ "") :
    ∃ front, (pieces path = front ∨ pieces path = front ++ [""]) ∧ Spelled path path front := by
  obtain ⟨front, outer, joined⟩ := exists_pieces_join nonempty
  refine ⟨front, outer, fun name named => ?_⟩
  simpa using joined [name] (by simp) (by simpa using named)

/-- A name behind a path is one more piece for the names behind it. -/
theorem Spelled.join {start path name : String} {front : List String}
    (spelled : Spelled start path front) (named : IsEntryName name) :
    Spelled start (Path.join path name) (front ++ [name]) := by
  obtain ⟨nonempty, sameStart, written⟩ := spelled name named
  obtain ⟨pieces, outer, further⟩ := exists_spelled nonempty
  have whole : pieces = front ++ [name] := by
    rcases outer with same | slash
    · exact same.symm.trans written
    · have ends := List.append_inj_right' (written.symm.trans slash) rfl
      exact absurd (List.cons.inj ends).1 named.1
  intro next nextNamed
  rw [← whole, ← sameStart]
  exact further next nextNamed

/-- What is known of a visit in a walk from a path. The paths of the names in its directory go
on from the directory, on a way that bypasses a place, and each directory of the visit is where
its path leads. -/
structure Visited (system : FileSystem) (place : Place) (start : String) (visit : Visit) :
    Prop where
  way : ∃ front left,
    Reaches system.root linkLimit (system.origin start) front left visit.location ∧
      StaysAway place system.root linkLimit (system.origin start) front ∧
        Spelled start (pathBelow start visit.names) front
  located : ∀ directory ∈ (visit.names, visit.location) :: visit.above,
    system.locate .target (pathBelow start directory.1) = .ok directory.2

namespace Visited

variable {system : FileSystem} {place : Place} {start : String} {visit : Visit}

/-- The path of a name in the directory of a visit is looked up from the directory. -/
theorem lookup (visited : Visited system place start visit) {name : String}
    (named : IsEntryName name) :
    ∃ left ≤ linkLimit,
      system.locate .target (pathBelow start (visit.names ++ [name])) =
          locateFrom system.root .target left visit.location [name] ∧
        system.locate .entry (pathBelow start (visit.names ++ [name])) =
          locateFrom system.root .entry left visit.location [name] ∧
        (StaysAway place system.root left visit.location [name] →
          ¬ place <+: system.origin start →
            system.Bypasses (pathBelow start (visit.names ++ [name])) place) := by
  obtain ⟨front, left, reaches, away, spelled⟩ := visited.way
  obtain ⟨nonempty, sameStart, written⟩ := spelled name named
  rw [← pathBelow_concat] at nonempty sameStart written
  have origin : system.origin (pathBelow start (visit.names ++ [name])) = system.origin start := by
    rw [origin, origin, sameStart]
  have looked : ∀ purpose, system.locate purpose (pathBelow start (visit.names ++ [name])) =
      locateFrom system.root purpose linkLimit (system.origin start) (front ++ [name]) := by
    intro purpose
    rw [locate, if_neg (by simpa using nonempty), written, ← origin]
    rfl
  refine ⟨left, reaches.left_le, ?_, ?_, fun awayBelow apart => ?_⟩
  · rw [looked, reaches.locateFrom_append]
  · rw [looked, reaches.locateFrom_entry_append (by simp)]
  · rw [Bypasses, origin, written, StaysAway, reaches.trail_append]
    exact ⟨apart, List.forall_mem_append.mpr ⟨away, awayBelow⟩⟩

/-- The visit of a directory to which a name leads, on a way that stays away from the place. -/
theorem enter (visited : Visited system place start visit) {name : String}
    (named : IsEntryName name) {location : Place}
    (located : system.locate .target (pathBelow start (visit.names ++ [name])) = .ok location)
    (away : ∀ left ≤ linkLimit, StaysAway place system.root left visit.location [name]) :
    Visited system place start (visit.enter name location) := by
  obtain ⟨front, left, reaches, awayFront, spelled⟩ := visited.way
  obtain ⟨nonempty, sameStart, written⟩ := spelled name named
  rw [← pathBelow_concat] at nonempty sameStart written
  have looked : locateFrom system.root .target linkLimit (system.origin start) (front ++ [name]) =
      .ok location := by
    rw [locate, if_neg (by simpa using nonempty), written, sameStart] at located
    exact located
  obtain ⟨leftBelow, reachesBelow⟩ := exists_reaches looked
  constructor
  · refine ⟨front ++ [name], leftBelow, reachesBelow, ?_, ?_⟩
    · rw [StaysAway, reaches.trail_append]
      exact List.forall_mem_append.mpr ⟨awayFront, away left reaches.left_le⟩
    · have below : pathBelow start (visit.enter name location).names =
          Path.join (pathBelow start visit.names) name := pathBelow_concat ..
      rw [below]
      exact spelled.join named
  · exact List.forall_mem_cons.mpr ⟨located, visited.located⟩

/-- A visit is in no directory that is at the place or below, since the path of the walk is not
looked up from there. -/
theorem apart (visited : Visited system place start visit)
    (outside : ¬ place <+: system.origin start) : ¬ place <+: visit.location := by
  obtain ⟨front, left, reaches, away, -⟩ := visited.way
  have located := reaches.locateFrom_append []
  rw [List.append_nil, locateFrom_nil] at located
  exact apart_of_locateFrom outside away located

/-- An entry of its directory is not at the place or below either, unless it is the one there. -/
theorem apart_entry (visited : Visited system place start visit)
    (outside : ¬ place <+: system.origin start) {name : String}
    (other : visit.location ++ [name] ≠ place) : ¬ place <+: visit.location ++ [name] := by
  rw [List.prefix_concat_iff, not_or]
  exact ⟨other.symm, visited.apart outside⟩

/-- The visit of the directory that a walk starts from. -/
theorem of_start {path : String} {location : Place} (bypasses : system.Bypasses path place)
    (located : system.locate .target path = .ok location) :
    Visited system place path ⟨[], location, []⟩ := by
  have nonempty : path ≠ "" := by
    rintro rfl
    simp [locate] at located
  obtain ⟨front, outer, spelled⟩ := exists_spelled nonempty
  have looked : locateFrom system.root .target linkLimit (system.origin path) (pieces path) =
      .ok location := by
    rw [locate, if_neg (by simpa using nonempty)] at located
    exact located
  refine ⟨?_, by simpa [pathBelow] using located⟩
  rcases outer with same | slash
  · rw [same] at looked
    obtain ⟨left, reaches⟩ := exists_reaches looked
    exact ⟨front, left, reaches, same ▸ bypasses.2, spelled⟩
  · -- The empty piece behind a slash goes nowhere.
    rw [slash] at looked
    obtain ⟨left, reaches⟩ := exists_reaches looked
    obtain ⟨between, found, first, second⟩ := reaches.split
    have away := bypasses.2
    rw [slash, StaysAway, first.trail_append] at away
    have same : found = location := by
      cases second with
      | further followed onward =>
        unfold follow at followed
        split at followed
        · rw [if_pos (.inl rfl)] at followed
          cases followed
          cases onward
          rfl
        · cases followed
    exact ⟨front, between, same ▸ first, (List.forall_mem_append.mp away).1, spelled⟩

end Visited

/-- What following an entry does: a link continues with its own pieces, anything else leads to the
entry. -/
theorem follow_entry {root tree : FileTree} {here : Place} {name : String}
    (named : IsEntryName name) (stands : root.at? (here ++ [name]) = some tree) (links : Nat) :
    follow root links here name =
      match tree with
      | .link target =>
        match links with
        | 0 => .error .tooManyLinks
        | links + 1 => .ok (links, if Path.isAbsolute target then [] else here, pieces target)
      | _ => .ok (links, here ++ [name], []) := by
  rw [FileTree.at?_append, Option.bind_eq_some_iff] at stands
  obtain ⟨above, stood, listed⟩ := stands
  obtain ⟨entries, child, rfl, found, last⟩ := FileTree.at?_cons_eq_some_iff.mp listed
  obtain rfl : child = tree := Option.some.inj last
  unfold follow
  rw [stood]
  dsimp only
  rw [if_neg (by simp [named.1, named.2.1]), if_neg named.2.2.1, found]
  cases child <;> rfl

/-- The last piece of a lookup for an entry leads to the entry that it names. -/
theorem locateFrom_entry_of_stands {root tree : FileTree} {here : Place} {name : String}
    (named : IsEntryName name) (stands : root.at? (here ++ [name]) = some tree) (links : Nat) :
    locateFrom root .entry links here [name] = .ok (here ++ [name]) := by
  rw [FileTree.at?_append, Option.bind_eq_some_iff] at stands
  obtain ⟨above, stood, listed⟩ := stands
  obtain ⟨entries, child, rfl, found, -⟩ := FileTree.at?_cons_eq_some_iff.mp listed
  rw [locateFrom_entry_singleton, stood]
  simp [named.1, named.2.1, named.2.2.1, found]

/-- The path of an entry in the directory of a visit names the entry. -/
theorem Visited.names_entry {system : FileSystem} {place : Place} {start name : String}
    {visit : Visit} {tree : FileTree} (visited : Visited system place start visit)
    (named : IsEntryName name)
    (stands : system.root.at? (visit.location ++ [name]) = some tree) :
    system.names place (pathBelow start (visit.names ++ [name])) =
      (visit.location ++ [name] == place) := by
  obtain ⟨left, -, -, entry, -⟩ := visited.lookup named
  rw [names, entry, locateFrom_entry_of_stands named stands]

/-- When no link leads to a place, a name in a directory apart from it does not lead there either,
unless it is the name of the entry there. -/
theorem Unlinked.staysAway {system : FileSystem} {place here : Place} {name : String}
    {tree : FileTree} (unlinked : system.Unlinked place) (named : IsEntryName name)
    (stands : system.root.at? (here ++ [name]) = some tree) (apart : ¬ place <+: here ++ [name]) :
    ∀ left ≤ linkLimit, StaysAway place system.root left here [name] := by
  intro left most
  refine staysAway_cons_iff.mpr ⟨apart, fun remaining next front followed => ?_⟩
  rw [follow_entry named stands] at followed
  cases tree with
  | file _ | directory _ =>
    cases followed
    simp [StaysAway, trail_nil]
  | link target =>
    cases left with
    | zero => cases followed
    | succ left =>
      cases followed
      simpa using unlinked _ _ stands apart remaining most

/-! ## Walks -/

/-- Whether one list is what another one keeps, and there is a reason for each item that it does
not keep. -/
structure Spares {α : Type} (keeps : α → Bool) (reason : α → Prop) (before after : List α) :
    Prop where
  kept : after = before.filter keeps
  cause : ∀ item ∈ before, keeps item = false → reason item

namespace Spares

variable {α : Type} {keeps : α → Bool} {reason : α → Prop} {before after further rest : List α}

/-- Two comparisons go together. -/
theorem append (first : Spares keeps reason before after)
    (second : Spares keeps reason further rest) :
    Spares keeps reason (before ++ further) (after ++ rest) where
  kept := by rw [first.kept, second.kept, List.filter_append]
  cause item member := (List.mem_append.mp member).elim (first.cause item) (second.cause item)

/-- Where all items are kept, there is nothing to give a reason for. -/
theorem all (keepsAll : ∀ item ∈ before, keeps item = true) :
    Spares keeps reason before before where
  kept := (List.filter_eq_self.mpr keepsAll).symm
  cause item member lost := absurd (keepsAll item member) (by simp [lost])

/-- Where no item is kept, each of them has a reason. -/
theorem none (losesAll : ∀ item ∈ before, keeps item = false ∧ reason item) :
    Spares keeps reason before [] where
  kept := (List.filter_eq_nil_iff.mpr fun item member => by simp [(losesAll item member).1]).symm
  cause item member _ := (losesAll item member).2

/-- The same holds of other items in place of these. -/
theorem map {β : Type} {f : α → β} {keepsToo : β → Bool} {reasonToo : β → Prop}
    (spares : Spares keeps reason before after) (same : ∀ item, keepsToo (f item) = keeps item)
    (causes : ∀ item, reason item → reasonToo (f item)) :
    Spares keepsToo reasonToo (before.map f) (after.map f) where
  kept := by
    rw [spares.kept, List.filter_map]
    exact congrArg _ (congrArg (List.filter · before) (funext same).symm)
  cause := by
    refine List.forall_mem_map.mpr fun item member lost => causes item ?_
    exact spares.cause item member ((same item).symm.trans lost)

end Spares

/-- Whether an item of a walk has nothing to do with the entry at a place. -/
def elsewhere (system : FileSystem) (place : Place) : Except WalkFault (List String) → Bool
  | .ok _ => true
  | .error fault => !system.names place fault.path

/-- Whether an item of a walk is a fault of a link at a place: it is followed, and the fault is as
it says. -/
def Blames (system : FileSystem) (rules : WalkRules) (place : Place) :
    Except WalkFault (List String) → Prop
  | .ok _ => False
  | .error fault => rules.followsLinks = true ∧
    (∃ target, system.root.at? place = some (.link target)) ∧ system.Explains fault

section Compared

variable {system : FileSystem} {rules : WalkRules} {place : Place} {start : String}

/-- Files are elsewhere. -/
theorem elsewhere_of_mem_listed {visit : Visit} {name : String}
    {item : Except WalkFault (List String)} (member : item ∈ FileTree.listed rules visit name) :
    system.elsewhere place item = true := by
  rw [FileTree.listed] at member
  split at member
  · cases member
  · rw [List.mem_singleton.mp member]
    rfl

/-- What is listed below some entries without the one at the place is what was listed below them,
less the faults about the entry. That is so if it is so for links. -/
theorem spares_filesBelow (formed : system.root.WellFormed)
    (excluded : ∀ parent name, parent ++ [name] = place → rules.excludes name = true)
    (unlinked : system.Unlinked place) (outside : ¬ place <+: system.origin start)
    {onLink other : Visit → String → List (Except WalkFault (List String))}
    (links : ∀ visit name target, Visited system place start visit →
      system.root.at? (visit.location ++ [name]) = some (.link target) →
        Spares (system.elsewhere place) (system.Blames rules place) (onLink visit name)
          (if visit.location ++ [name] = place then [] else other visit name))
    {visit : Visit} (visited : Visited system place start visit)
    {entries : List (String × FileTree)}
    (listed : ∀ name tree, (name, tree) ∈ entries →
      system.root.at? (visit.location ++ [name]) = some tree) :
    Spares (system.elsewhere place) (system.Blames rules place)
      (FileTree.filesBelow rules onLink visit entries)
      (FileTree.filesBelow rules other visit
        (FileTree.withoutIn place visit.location entries)) := by
  induction entries using FileTree.entries_induction generalizing visit with
  | nil =>
    rw [FileTree.withoutIn, FileTree.filesBelow, FileTree.filesBelow]
    exact .all (by simp)
  | cons name tree rest inside inductionHypothesis =>
    have others := inductionHypothesis visited fun name tree member =>
      listed name tree (List.mem_cons_of_mem _ member)
    have stands := listed name tree List.mem_cons_self
    have named := formed.isEntryName_of_mem stands name (by simp)
    by_cases gone : visit.location ++ [name] = place
    · have omitted := excluded _ _ gone
      rw [FileTree.withoutIn, if_pos gone]
      cases tree with
      | file _ => simpa [FileTree.filesBelow, FileTree.listed, omitted] using others
      | link target =>
        have own := links visit name target visited stands
        rw [if_pos gone] at own
        rw [FileTree.filesBelow]
        exact own.append others
      | directory inner => simpa [FileTree.filesBelow, omitted] using others
    · have apart := visited.apart_entry outside gone
      rw [FileTree.withoutIn, if_neg gone]
      cases tree with
      | file content =>
        rw [FileTree.without_file, FileTree.filesBelow, FileTree.filesBelow]
        exact (Spares.all fun item member => elsewhere_of_mem_listed member).append others
      | link target =>
        have own := links visit name target visited stands
        rw [if_neg gone] at own
        rw [FileTree.without_link, FileTree.filesBelow, FileTree.filesBelow]
        exact own.append others
      | directory inner =>
        rw [FileTree.without_directory, FileTree.filesBelow, FileTree.filesBelow]
        refine Spares.append ?_ others
        split
        · exact .all (by simp)
        · obtain ⟨left, most, leads, -⟩ := visited.lookup named
          rw [locateFrom_cons, follow_entry named stands] at leads
          have entered := visited.enter named (leads.trans (locateFrom_nil ..))
            (unlinked.staysAway named stands apart)
          exact inside entered fun next tree member => formed.at?_of_mem stands member

/-- The link at the place itself yields nothing but faults that it is to blame for. -/
theorem spares_ownLink (formed : system.root.WellFormed) (follows : rules.followsLinks = true)
    {visit : Visit} {name target : String} (omitted : rules.excludes name = true)
    (visited : Visited system place start visit) (own : visit.location ++ [name] = place)
    (stands : system.root.at? place = some (.link target)) (depth : Nat) :
    Spares (system.elsewhere place) (system.Blames rules place)
      (followLink rules system start (depth + 1) visit name) [] := by
  rw [← own] at stands
  have named := formed.isEntryName_of_mem stands name (by simp)
  have about := visited.names_entry named stands
  rw [own, beq_self_eq_true] at about
  have alone : ∀ fault : WalkFault, system.Explains fault →
      fault.path = pathBelow start (visit.names ++ [name]) →
        Spares (system.elsewhere place) (system.Blames rules place) [.error fault] [] := by
    intro fault explained same
    refine .none fun item member => ?_
    rw [List.mem_singleton.mp member]
    exact ⟨by simp [elsewhere, same, about], follows, ⟨target, own ▸ stands⟩, explained⟩
  rw [followLink]
  split
  · rename_i fault located
    exact alone _ located rfl
  · rename_i location located
    split
    · split
      · rename_i names enclosing
        exact alone _ ⟨location, located, visited.located _ (Visit.mem_of_enclosing? enclosing)⟩ rfl
      · rw [if_pos omitted]
        exact .all (by simp)
    · rw [FileTree.listed, omitted, Bool.true_or, if_pos rfl]
      exact .all (by simp)

/-- A followed link yields without the entry at a place what it yielded before, less the faults
about the entry. -/
theorem spares_followLink (formed : system.root.WellFormed) (follows : rules.followsLinks = true)
    (excluded : ∀ parent name, parent ++ [name] = place → rules.excludes name = true)
    (unlinked : system.Unlinked place) (outside : ¬ place <+: system.origin start) (depth : Nat)
    {visit : Visit} {name target : String} (visited : Visited system place start visit)
    (stands : system.root.at? (visit.location ++ [name]) = some (.link target)) :
    Spares (system.elsewhere place) (system.Blames rules place)
      (followLink rules system start depth visit name)
      (if visit.location ++ [name] = place then []
        else followLink rules (system.without place) start depth visit name) := by
  induction depth generalizing visit name target with
  | zero =>
    rw [followLink, followLink, ite_self]
    exact .all (by simp)
  | succ depth inductionHypothesis =>
    split
    · rename_i own
      exact spares_ownLink formed follows (excluded _ _ own) visited own (own ▸ stands) depth
    · rename_i kept
      have named := formed.isEntryName_of_mem stands name (by simp)
      obtain ⟨left, most, -, -, bypasses⟩ := visited.lookup named
      have away := unlinked.staysAway named stands (visited.apart_entry outside kept)
      have around := bypasses (away left most) outside
      rw [followLink, followLink]
      simp only [locate_without around]
      have keeps : ∀ fault : WalkFault, fault.path = pathBelow start (visit.names ++ [name]) →
          Spares (system.elsewhere place) (system.Blames rules place) [.error fault]
            [.error fault] := by
        intro fault same
        refine .all fun item member => ?_
        rw [List.mem_singleton.mp member]
        simp [elsewhere, same, visited.names_entry named stands, kept]
      cases located : system.locate .target (pathBelow start (visit.names ++ [name])) with
      | error fault => exact keeps _ rfl
      | ok location =>
        have apartThere := around.apart located
        have there : (system.without place).root.at? location =
            (system.root.at? location).map (FileTree.without place location) :=
          FileTree.at?_without apartThere system.root
        dsimp only
        rw [there]
        cases stood : system.root.at? location with
        | none => exact .all fun item member => elsewhere_of_mem_listed member
        | some tree =>
          cases tree with
          | file _ | link _ => exact .all fun item member => elsewhere_of_mem_listed member
          | directory entries =>
            simp only [Option.map_some, FileTree.without_directory]
            cases visit.enclosing? location with
            | some names => exact keeps _ rfl
            | none =>
              dsimp only
              split
              · exact .all (by simp)
              · exact spares_filesBelow formed excluded unlinked outside
                  (fun visit name target => inductionHypothesis)
                  (visited.enter named located away) fun next tree member =>
                    formed.at?_of_mem stood member

/-- A walk from a path that bypasses a place yields without the entry there what it yielded
before, less the faults about the entry. -/
theorem spares_walk (formed : system.root.WellFormed)
    (excluded : ∀ parent name, parent ++ [name] = place → rules.excludes name = true)
    (unlinked : system.Unlinked place) (bypasses : system.Bypasses start place) :
    Spares (system.elsewhere place) (system.Blames rules place) (system.walk rules start)
      ((system.without place).walk rules start) := by
  have links : ∀ visit name target, Visited system place start visit →
      system.root.at? (visit.location ++ [name]) = some (.link target) →
        Spares (system.elsewhere place) (system.Blames rules place)
          (onLink rules system start visit name)
          (if visit.location ++ [name] = place then []
            else onLink rules (system.without place) start visit name) := by
    intro visit name target visited stands
    rw [onLink, onLink]
    by_cases follows : rules.followsLinks = true
    · -- Both walks follow links to one depth, which is enough for either of them.
      let depth := system.root.directoryCount + (system.without place).root.directoryCount + 1
      have whole : system.root.directoryCount < depth := by omega
      have less : (system.without place).root.directoryCount < depth := by omega
      rw [if_pos follows, if_pos follows,
        followLink_eq_of_lt rules system start (Nat.lt_succ_self _) whole,
        followLink_eq_of_lt rules (system.without place) start (Nat.lt_succ_self _) less]
      exact spares_followLink formed follows excluded unlinked bypasses.1 depth visited stands
    · rw [if_neg follows, if_neg follows, ite_self]
      exact .all (by simp)
  rw [walk, walk, locate_without bypasses]
  cases located : system.locate .target start with
  | error fault =>
    refine .all fun item member => ?_
    rw [List.mem_singleton.mp member]
    simp [elsewhere, WalkFault.path, bypasses.names_eq_false]
  | ok location =>
    have apart := bypasses.apart located
    have there : (system.without place).root.at? location =
        (system.root.at? location).map (FileTree.without place location) :=
      FileTree.at?_without apart system.root
    obtain ⟨tree, stood⟩ := exists_at?_of_locate located
    dsimp only
    rw [there, stood, Option.map_some, Option.map_some, Option.map_some, Option.getD_some,
      Option.getD_some, FileTree.entries_without]
    refine spares_filesBelow formed excluded unlinked bypasses.1 links
      (Visited.of_start bypasses located) fun name child member => ?_
    cases tree with
    | file _ | link _ => cases member
    | directory entries => exact formed.at?_of_mem stood member

end Compared

/-! ## Sorted systems -/

/-- Whether a path bypasses a place is not a matter of the order of entries. -/
theorem Bypasses.sorted {system : FileSystem} {path : String} {place : Place}
    (bypasses : system.Bypasses path place) (formed : system.root.WellFormed) :
    system.sorted.Bypasses path place := by
  refine ⟨bypasses.1, ?_⟩
  rw [StaysAway, FileSystem.sorted, trail_sorted formed]
  exact bypasses.2

/-- Sorting leaves links where they are. -/
theorem at?_sorted_eq_link_iff {system : FileSystem} (formed : system.root.WellFormed)
    {place : Place} {target : String} :
    system.sorted.root.at? place = some (.link target) ↔
      system.root.at? place = some (.link target) := by
  rw [FileSystem.sorted, FileTree.at?_sorted formed, Option.map_eq_some_iff]
  constructor
  · rintro ⟨child, stood, same⟩
    cases child with
    | link _ => exact stood.trans (congrArg some same)
    | file _ | directory _ => simp [FileTree.sorted] at same
  · exact fun stood => ⟨_, stood, rfl⟩

/-- Whether a link leads to a place is not a matter of the order of entries. -/
theorem Unlinked.sorted {system : FileSystem} {place : Place} (unlinked : system.Unlinked place)
    (formed : system.root.WellFormed) : system.sorted.Unlinked place := by
  intro standing target stands apart links few
  rw [StaysAway, FileSystem.sorted, trail_sorted formed]
  exact unlinked standing target ((at?_sorted_eq_link_iff formed).mp stands) apart links few

/-- Which items of a walk concern an entry is not a matter of the order of entries. -/
theorem elsewhere_sorted {system : FileSystem} (formed : system.root.WellFormed) (place : Place) :
    system.sorted.elsewhere place = system.elsewhere place := by
  funext item
  cases item with
  | ok _ => rfl
  | error fault =>
    have same : system.sorted.locate .entry fault.path = system.locate .entry fault.path := by
      unfold locate
      split
      · rfl
      · exact locateFrom_entry_sorted formed _ _ _
    rw [elsewhere, elsewhere, names, names, same]

/-- Nor is what a link is blamed for. -/
theorem blames_sorted {system : FileSystem} (formed : system.root.WellFormed) (rules : WalkRules)
    (place : Place) : system.sorted.Blames rules place = system.Blames rules place := by
  funext item
  cases item with
  | ok _ => rfl
  | error fault =>
    have explains : system.sorted.Explains fault ↔ system.Explains fault := by
      cases fault <;> simp only [Explains, locate_sorted formed]
    simp only [Blames, at?_sorted_eq_link_iff formed, explains]

end FileSystem

namespace FileScanner

/-- Whether what a scan yields is a fault about the entry at a place. -/
def concerns (system : FileSystem) (place : Place) : Except DiscoveryError CandidateFile → Bool
  | .error (.scan _ fault) => system.names place fault.path
  | _ => false

/-- Whether what a scan yields is a fault of a link at a place. -/
def Blames (scanner : FileScanner) (system : FileSystem) (place : Place) :
    Except DiscoveryError CandidateFile → Prop
  | .error (.scan _ fault) => system.Blames scanner.rules place (.error fault)
  | _ => False

/-- A scan yields without an entry what it yielded before, less the faults about the entry. -/
theorem spares_scan (scanner : FileScanner) {system : FileSystem} {module : Module}
    {parent : Place} {name : String} (formed : system.root.WellFormed)
    (excluded : name ∈ scanner.config.excludedNames) (unlinked : system.Unlinked (parent ++ [name]))
    (bypasses : system.Bypasses module.path (parent ++ [name])) :
    FileSystem.Spares (!concerns system (parent ++ [name]) ·)
      (scanner.Blames system (parent ++ [name])) (scanner.scan system module)
      (scanner.scan { system with root := system.root.erase (parent ++ [name]) } module) := by
  have omitted : ∀ front last, front ++ [last] = parent ++ [name] →
      scanner.rules.excludes last = true := by
    intro front last same
    obtain rfl : last = name := (List.cons.inj (List.append_inj_right' same rfl)).1
    simpa [rules] using excluded
  have erased : { system with root := system.root.erase (parent ++ [name]) } =
      system.without (parent ++ [name]) :=
    congrArg (FileSystem.mk · _) (FileTree.erase_eq_without (by simp) [] system.root)
  have walks : FileSystem.Spares (system.elsewhere (parent ++ [name]))
      (system.Blames scanner.rules (parent ++ [name]))
      ((if scanner.config.sorted then system.sorted else system).walk scanner.rules module.path)
      ((if scanner.config.sorted then (system.without (parent ++ [name])).sorted
        else system.without (parent ++ [name])).walk scanner.rules module.path) := by
    split
    · have less : (system.without (parent ++ [name])).sorted =
          system.sorted.without (parent ++ [name]) :=
        congrArg (FileSystem.mk · _) (FileTree.sorted_without formed _ _)
      rw [less, ← FileSystem.elsewhere_sorted formed, ← FileSystem.blames_sorted formed]
      exact FileSystem.spares_walk formed.sorted omitted (unlinked.sorted formed)
        (bypasses.sorted formed)
    · exact FileSystem.spares_walk formed omitted unlinked bypasses
  rw [erased, scan, scan]
  split
  · exact .all (by simp)
  · refine walks.map (fun item => ?_) fun item => ?_
    · cases item <;> rfl
    · cases item with
      | ok _ => exact False.elim
      | error _ => exact id

/-- Taking away an entry with an excluded name, to which neither a link nor the path of the module
leads, changes no candidate of the module, and no fault but those about the entry itself. There
are such faults only if links are followed and the entry is a link, and then they are as they say:
the link leads nowhere, or to a directory to which another path of the walk leads.

Proof: both walks visit the same directories, and at each of them the path of every other name is
looked up without coming by the entry. A link at the place of the entry yields faults or nothing,
since its name is excluded. -/
theorem scan_without_excluded (scanner : FileScanner) {system : FileSystem} {module : Module}
    {parent : Place} {name : String} (formed : system.root.WellFormed)
    (excluded : name ∈ scanner.config.excludedNames) (unlinked : system.Unlinked (parent ++ [name]))
    (bypasses : system.Bypasses module.path (parent ++ [name])) :
    scanner.scan { system with root := system.root.erase (parent ++ [name]) } module =
        (scanner.scan system module).filter (!concerns system (parent ++ [name]) ·) ∧
      (scanner.scan { system with root := system.root.erase (parent ++ [name]) } module).filterMap
          Except.toOption = (scanner.scan system module).filterMap Except.toOption ∧
      ∀ fault, .error (.scan module.path fault) ∈ scanner.scan system module →
        system.names (parent ++ [name]) fault.path = true →
          scanner.config.followLinks = true ∧
            (∃ target, system.root.at? (parent ++ [name]) = some (.link target)) ∧
              system.Explains fault := by
  have spares := spares_scan scanner formed excluded unlinked bypasses
  refine ⟨spares.kept, ?_, fun fault member concerned => ?_⟩
  · rw [spares.kept, List.filterMap_filter]
    congr 1
    funext item
    cases item with
    | ok _ => rfl
    | error _ => exact ite_self _
  · exact spares.cause _ member (by simp [concerns, concerned])

/-- The entries of a module with two links whose names are excluded: one to its own directory, and
one to nothing. -/
def linkedEntries : List (String × FileTree) :=
  [("Mailer.php", .file "<?php".toUTF8), ("Tests", .link "."), ("tests", .link "gone")]

/-- A system with that module. -/
def linkedSystem : FileSystem where
  root := .directory [("src", .directory linkedEntries)]
  workingDirectory := []

/-- The standard scanner, but for links, which it follows. -/
def followingScanner : FileScanner :=
  { standardScanner with config := { ScanConfig.standard with followLinks := true } }

/-- Such a system can exist. -/
theorem wellFormed_linkedSystem : linkedSystem.root.WellFormed := by
  simp [linkedSystem, linkedEntries, FileTree.wellFormed_cons_iff, Keyed.keys]
  decide

/-- Where the paths of the module and of its links lead. -/
theorem locate_linkedSystem :
    linkedSystem.locate .target "src" = .ok ["src"] ∧
      linkedSystem.locate .target "src/Tests" = .ok ["src"] ∧
        linkedSystem.locate .target "src/tests" = .error .notFound := by
  have pieces : FileSystem.pieces "src" = ["src"] ∧
      FileSystem.pieces "src/Tests" = ["src", "Tests"] ∧
        FileSystem.pieces "src/tests" = ["src", "tests"] ∧
          FileSystem.pieces "." = ["."] ∧ FileSystem.pieces "gone" = ["gone"] := by
    decide
  obtain ⟨module, own, missing, here, gone⟩ := pieces
  refine ⟨?_, ?_, ?_⟩ <;>
    simp [FileSystem.locate, FileSystem.linkLimit, FileSystem.locateFrom, module, own, missing,
      here, gone, linkedSystem, linkedEntries, FileTree.at?, FileTree.entries, Keyed.get?,
      Path.isAbsolute]

/-- The scanner finds the file and meets two faults, each at a link with an excluded name. -/
theorem scan_linkedSystem :
    followingScanner.scan linkedSystem ⟨"src", "App"⟩ =
      [.ok ⟨"src", "Mailer.php"⟩,
        .error (.scan "src" (.loop "src/Tests" "src")),
        .error (.scan "src" (.system "src/tests" .notFound))] := by
  have ascending : linkedSystem.root.Ascending := by
    simp only [linkedSystem, linkedEntries, FileTree.ascending_cons_iff, FileTree.ascending_file,
      FileTree.ascending_link, FileTree.ascending_directory_nil, and_true]
    decide
  have sorted : linkedSystem.sorted = linkedSystem :=
    congrArg (FileSystem.mk · _) (FileTree.sorted_of_ascending ascending)
  have own : followingScanner.skips ⟨"src", "App"⟩ = false := by decide
  obtain ⟨module, loop, missing⟩ := locate_linkedSystem
  rw [scan, own, if_neg Bool.false_ne_true, sorted, ite_self]
  dsimp only
  have wanted : followingScanner.rules.excludes "Mailer.php" = false ∧
      followingScanner.rules.wants "Mailer.php" = true := by decide +kernel
  have follows : followingScanner.rules.followsLinks = true := rfl
  have stood : linkedSystem.root.at? ["src"] = some (.directory linkedEntries) := rfl
  have joined : Path.join "src" "Tests" = "src/Tests" ∧ Path.join "src" "tests" = "src/tests" := by
    decide
  rw [FileSystem.walk, module]
  simp [stood, linkedEntries, FileTree.filesBelow, FileTree.listed, wanted, FileSystem.onLink,
    follows, FileSystem.followLink, joined, loop, missing, Visit.enclosing?, FileSystem.pathBelow]

/-- There are no other links in the system. -/
theorem links_linkedSystem {standing : Place} {target : String}
    (stands : linkedSystem.root.at? standing = some (.link target)) :
    standing = ["src", "Tests"] ∧ target = "." ∨ standing = ["src", "tests"] ∧ target = "gone" := by
  rcases standing with _ | ⟨first, _ | ⟨second, rest⟩⟩
  · simp [linkedSystem, FileTree.at?] at stands
  · by_cases isModule : "src" = first <;>
      simp [linkedSystem, FileTree.at?, FileTree.entries, Keyed.get?, isModule] at stands
  · have isModule : "src" = first := by
      by_contra different
      simp [linkedSystem, FileTree.at?, FileTree.entries, Keyed.get?, different] at stands
    subst isModule
    simp only [linkedSystem, linkedEntries, FileTree.at?, FileTree.entries, Keyed.get?, if_true,
      Option.bind_some] at stands
    split_ifs at stands <;>
      simp only [Option.bind_some, Option.bind_none, reduceCtorEq] at stands <;>
      obtain ⟨rfl, same⟩ := (FileTree.at?_eq_some_iff_of_entries rfl).mp stands <;>
      simp_all

/-- Neither of the two links leads to the place of the other one. -/
theorem unlinked_linkedSystem {name : String} (listed : name = "Tests" ∨ name = "tests") :
    linkedSystem.Unlinked ["src", name] := by
  have pieces : FileSystem.pieces "." = ["."] ∧ FileSystem.pieces "gone" = ["gone"] := by
    decide
  have relative : Path.isAbsolute "." = false ∧ Path.isAbsolute "gone" = false := by decide
  intro standing target stands _ links _
  rcases links_linkedSystem stands with ⟨rfl, rfl⟩ | ⟨rfl, rfl⟩
  · rw [pieces.1, relative.1]
    refine FileSystem.staysAway_singleton ?_ fun remaining next front followed => ?_
    · rcases listed with rfl | rfl <;> simp
    · have still : links = remaining ∧ ["src"] = next ∧ front = [] := by
        simpa [FileSystem.follow, linkedSystem, FileTree.at?, Keyed.get?] using followed
      exact still.2.2
  · rw [pieces.2, relative.2]
    refine FileSystem.staysAway_singleton ?_ fun remaining next front followed => ?_
    · rcases listed with rfl | rfl <;> simp
    · simp [FileSystem.follow, linkedSystem, linkedEntries, FileTree.at?, Keyed.get?] at followed

/-- The path of the module leads past neither of them. -/
theorem bypasses_linkedSystem (name : String) : linkedSystem.Bypasses "src" ["src", name] := by
  have pieces : FileSystem.pieces "src" = ["src"] := by decide
  have origin : linkedSystem.origin "src" = [] := by simp [FileSystem.origin, linkedSystem]
  rw [FileSystem.Bypasses, pieces, origin]
  refine ⟨by simp, FileSystem.staysAway_singleton (by simp) fun remaining next front followed => ?_⟩
  have onward : FileSystem.linkLimit = remaining ∧ ["src"] = next ∧ front = [] := by
    simpa [FileSystem.follow, linkedSystem, FileTree.at?, Keyed.get?] using followed
  exact onward.2.2

/-- The paths of the two links name them. -/
theorem names_linkedSystem :
    linkedSystem.names ["src", "Tests"] "src/Tests" = true ∧
      linkedSystem.names ["src", "Tests"] "src/tests" = false ∧
        linkedSystem.names ["src", "tests"] "src/tests" = true := by
  have pieces : FileSystem.pieces "src/Tests" = ["src", "Tests"] ∧
      FileSystem.pieces "src/tests" = ["src", "tests"] := by decide
  refine ⟨?_, ?_, ?_⟩ <;>
    simp [FileSystem.names, FileSystem.locate, FileSystem.locateFrom, pieces, linkedSystem,
      linkedEntries, FileTree.at?, FileTree.entries, Keyed.get?, Path.isAbsolute]

/-- Without the link to its own directory the module has the same candidate, and the fault of the
other link. -/
theorem scan_without_excluded_loop :
    "Tests" ∈ followingScanner.config.excludedNames ∧
      linkedSystem.Unlinked ["src", "Tests"] ∧ linkedSystem.Bypasses "src" ["src", "Tests"] ∧
        followingScanner.scan
            { linkedSystem with root := linkedSystem.root.erase ["src", "Tests"] } ⟨"src", "App"⟩ =
          [.ok ⟨"src", "Mailer.php"⟩, .error (.scan "src" (.system "src/tests" .notFound))] ∧
        linkedSystem.Explains (.loop "src/Tests" "src") := by
  have excluded : "Tests" ∈ followingScanner.config.excludedNames := by decide
  obtain ⟨named, other, -⟩ := names_linkedSystem
  obtain ⟨filtered, -, explained⟩ :=
    @scan_without_excluded followingScanner linkedSystem ⟨"src", "App"⟩ ["src"] "Tests"
      wellFormed_linkedSystem excluded (unlinked_linkedSystem (.inl rfl))
      (bypasses_linkedSystem "Tests")
  refine ⟨excluded, unlinked_linkedSystem (.inl rfl), bypasses_linkedSystem "Tests", ?_, ?_⟩
  · refine filtered.trans ?_
    rw [scan_linkedSystem]
    simp [concerns, WalkFault.path, named, other]
  · exact (explained (.loop "src/Tests" "src") (by simp [scan_linkedSystem]) named).2.2

/-- Without the link to nothing the module has a fault less, although the name of the link is
excluded and nothing leads to it. -/
theorem scan_blames_excluded_link :
    linkedSystem.root.WellFormed ∧ followingScanner.config.followLinks = true ∧
      "tests" ∈ followingScanner.config.excludedNames ∧
        linkedSystem.Unlinked ["src", "tests"] ∧ linkedSystem.Bypasses "src" ["src", "tests"] ∧
          followingScanner.scan
              { linkedSystem with root := linkedSystem.root.erase ["src", "tests"] }
              ⟨"src", "App"⟩ ≠
            followingScanner.scan linkedSystem ⟨"src", "App"⟩ := by
  have excluded : "tests" ∈ followingScanner.config.excludedNames := by decide
  have unlinked : linkedSystem.Unlinked (["src"] ++ ["tests"]) := unlinked_linkedSystem (.inr rfl)
  have bypasses : linkedSystem.Bypasses "src" (["src"] ++ ["tests"]) :=
    bypasses_linkedSystem "tests"
  have spares := @spares_scan followingScanner linkedSystem ⟨"src", "App"⟩ ["src"] "tests"
    wellFormed_linkedSystem excluded unlinked bypasses
  refine ⟨wellFormed_linkedSystem, rfl, excluded, unlinked, bypasses, fun same => ?_⟩
  have kept := List.filter_eq_self.mp (spares.kept.symm.trans same)
    (.error (.scan "src" (.system "src/tests" .notFound))) (by simp [scan_linkedSystem])
  simp [concerns, WalkFault.path, names_linkedSystem.2.2] at kept

end FileScanner

end ServiceWiring
