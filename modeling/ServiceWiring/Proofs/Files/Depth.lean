import Mathlib.Data.List.Perm.Subperm
import ServiceWiring.Files.Walk
import ServiceWiring.Proofs.Files.Tree

/-!
# The depth of a walk

Links are followed through a limited number of directories that links lead to. A link that leads
to a directory in which the walk is already is not followed, so those directories are different
ones, and a tree has only so many. Hence the limit is never met: a link yields the same for all
depths above the number of directories.

`directoryPlaces` lists the directories of a tree by their places. The main statement is that the
depth does not matter when it is greater than their number.
-/

namespace ServiceWiring

namespace FileTree

mutual

/-- The places of the directories in a tree, its top included. -/
def directoryPlaces : FileTree → List Place
  | .directory entries => [] :: directoryPlacesIn entries
  | _ => []

/-- The places of the directories below some entries. -/
def directoryPlacesIn : List (String × FileTree) → List Place
  | [] => []
  | (name, tree) :: rest => tree.directoryPlaces.map (name :: ·) ++ directoryPlacesIn rest

end

mutual

/-- There are as many places of directories as directories. -/
theorem length_directoryPlaces : ∀ tree : FileTree,
    tree.directoryPlaces.length = tree.directoryCount
  | .file _ | .link _ => rfl
  | .directory entries => by
    rw [directoryPlaces, directoryCount, List.length_cons, length_directoryPlacesIn entries]

/-- The same is true below some entries. -/
theorem length_directoryPlacesIn : ∀ entries : List (String × FileTree),
    (directoryPlacesIn entries).length = directoryCountIn entries
  | [] => rfl
  | (name, tree) :: rest => by
    rw [directoryPlacesIn, directoryCountIn, List.length_append, List.length_map,
      length_directoryPlaces tree, length_directoryPlacesIn rest]

end

/-- A directory stands at one of the places. -/
theorem mem_directoryPlaces {tree : FileTree} {place : Place} {entries : List (String × FileTree)}
    (stands : tree.at? place = some (.directory entries)) : place ∈ tree.directoryPlaces := by
  induction place generalizing tree with
  | nil =>
    obtain rfl : tree = .directory entries := Option.some.inj stands
    rw [directoryPlaces]
    exact List.mem_cons_self
  | cons name names inductionHypothesis =>
    obtain ⟨listed, child, rfl, found, below⟩ := at?_cons_eq_some_iff.mp stands
    have among : ∀ listed : List (String × FileTree), (name, child) ∈ listed →
        name :: names ∈ directoryPlacesIn listed := by
      intro listed member
      induction listed with
      | nil => simp at member
      | cons entry rest others =>
        rw [directoryPlacesIn, List.mem_append]
        rcases List.mem_cons.mp member with rfl | later
        · exact .inl (List.mem_map_of_mem (inductionHypothesis below))
        · exact .inr (others later)
    rw [directoryPlaces]
    exact List.mem_cons_of_mem _ (among listed (Keyed.mem_of_get?_eq_some found))

/-- There are not more different directories in a tree than directories. -/
theorem length_le_directoryCount {tree : FileTree} {places : List Place} (once : places.Nodup)
    (directories : places ⊆ tree.directoryPlaces) : places.length ≤ tree.directoryCount := by
  rw [← length_directoryPlaces]
  exact (List.subperm_of_subset once directories).length_le

end FileTree

namespace Visit

/-- The places of the directories that a visit is in. -/
def places (visit : Visit) : List Place := visit.location :: visit.above.map Prod.snd

/-- A visit is in no directory at a place exactly if the place is none of its places. -/
theorem enclosing?_eq_none_iff {visit : Visit} {location : Place} :
    visit.enclosing? location = none ↔ location ∉ visit.places := by
  simp only [enclosing?, Option.map_eq_none_iff, List.find?_eq_none, places, List.mem_cons,
    List.mem_map, beq_iff_eq]
  constructor
  · rintro nowhere (rfl | ⟨other, above, rfl⟩)
    · exact nowhere (visit.names, visit.location) (.inl rfl) rfl
    · exact nowhere other (.inr above) rfl
  · rintro apart other (rfl | above) rfl
    · exact apart (.inl rfl)
    · exact apart (.inr ⟨other, above, rfl⟩)

/-- The nearest directory at a place is one of the visit. -/
theorem mem_of_enclosing? {visit : Visit} {location : Place} {names : List String}
    (enclosing : visit.enclosing? location = some names) :
    (names, location) ∈ (visit.names, visit.location) :: visit.above := by
  obtain ⟨⟨names, place⟩, found, rfl⟩ := Option.map_eq_some_iff.mp enclosing
  obtain rfl : place = location := by simpa using List.find?_some found
  exact List.mem_of_find?_eq_some found

end Visit

namespace FileTree

/-- What is listed depends on what links yield in the directories below only. -/
theorem filesBelow_congr {rules : WalkRules}
    {onLink other : Visit → String → List (Except WalkFault Place)} {visit : Visit}
    (same : ∀ below : Visit, visit.places ⊆ below.places → onLink below = other below)
    (entries : List (String × FileTree)) :
    filesBelow rules onLink visit entries = filesBelow rules other visit entries := by
  induction entries using entries_induction generalizing visit with
  | nil => rw [filesBelow, filesBelow]
  | cons name tree rest inside inductionHypothesis =>
    have others := inductionHypothesis same
    cases tree with
    | file _ => rw [filesBelow, filesBelow, others]
    | link _ => rw [filesBelow, filesBelow, others, same visit (List.Subset.refl _)]
    | directory inner =>
      have within : ∀ location, filesBelow rules onLink (visit.enter name location) inner =
          filesBelow rules other (visit.enter name location) inner := fun location =>
        inside fun below part => same below fun place member =>
          part (List.mem_cons_of_mem _ member)
      rw [filesBelow, filesBelow, others, within]

end FileTree

namespace FileSystem

/-- The depth at which links are followed does not matter when it is greater than the number of
directories to which no link has led yet. -/
theorem followLink_eq_of_led {rules : WalkRules} {system : FileSystem} {start : String}
    {depth other : Nat} {visit : Visit} (name : String) {led : List Place} (once : led.Nodup)
    (visited : led ⊆ visit.places) (directories : led ⊆ system.root.directoryPlaces)
    (enough : system.root.directoryCount < depth + led.length)
    (otherEnough : system.root.directoryCount < other + led.length) :
    followLink rules system start depth visit name =
      followLink rules system start other visit name := by
  have most := FileTree.length_le_directoryCount once directories
  induction depth generalizing other visit name led with
  | zero => omega
  | succ depth inductionHypothesis =>
    obtain ⟨other, rfl⟩ : ∃ fewer, other = fewer + 1 := ⟨other - 1, by omega⟩
    rw [followLink, followLink]
    split
    · rfl
    · rename_i location located
      split
      · rename_i entries stands
        split
        · rfl
        · rename_i apart
          rw [Visit.enclosing?_eq_none_iff] at apart
          have further : (location :: led).Nodup :=
            List.nodup_cons.mpr ⟨fun again => apart (visited again), once⟩
          have directoriesToo : location :: led ⊆ system.root.directoryPlaces :=
            List.cons_subset.mpr ⟨FileTree.mem_directoryPlaces stands, directories⟩
          have same : ∀ below : Visit, (visit.enter name location).places ⊆ below.places →
              followLink rules system start depth below =
                followLink rules system start other below := by
            intro below part
            funext link
            refine inductionHypothesis link further ?_ directoriesToo ?_ ?_ ?_
            · intro place member
              rcases List.mem_cons.mp member with rfl | before
              · exact part List.mem_cons_self
              · exact part (List.mem_cons_of_mem _ (visited before))
            · simp only [List.length_cons]
              omega
            · simp only [List.length_cons]
              omega
            · exact FileTree.length_le_directoryCount further directoriesToo
          rw [FileTree.filesBelow_congr same]
      · rfl

/-- **A link yields the same at all depths above the number of directories.** -/
theorem followLink_eq_of_lt (rules : WalkRules) (system : FileSystem) (start : String)
    {depth other : Nat} (enough : system.root.directoryCount < depth)
    (otherEnough : system.root.directoryCount < other) :
    followLink rules system start depth = followLink rules system start other := by
  funext visit name
  exact followLink_eq_of_led name List.nodup_nil (List.nil_subset _) (List.nil_subset _) enough
    otherEnough

end FileSystem

end ServiceWiring
