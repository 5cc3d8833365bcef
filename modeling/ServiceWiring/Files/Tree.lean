import ServiceWiring.Keyed

/-!
# File trees

A tree of named entries: files with their bytes, symbolic links with the path they
hold, and directories. A place in a tree is the sequence of names that leads to it
from the top, without following links.
-/

namespace ServiceWiring

/-- What can stand under a name. -/
inductive FileTree
  | file (content : ByteArray)
  | link (target : String)
  | directory (entries : List (String × FileTree))

/-- A place in a tree: the names on the way to it. -/
abbrev Place := List String

namespace FileTree

/-- The directory with nothing in it. -/
def empty : FileTree := .directory []

/-- Whether a tree is a directory. -/
def isDirectory : FileTree → Bool
  | .directory _ => true
  | _ => false

/-- The entries of a directory; nothing else has any. -/
def entries : FileTree → List (String × FileTree)
  | .directory entries => entries
  | _ => []

/-- What stands at a place. -/
def at? : Place → FileTree → Option FileTree
  | [], tree => some tree
  | name :: names, tree => (Keyed.get? name tree.entries).bind (at? names)

/-- Puts something at a place, in place of what is there. Directories that are
missing on the way are made; a file or a link on the way makes room for one. -/
def insert (tree : FileTree) (place : Place) (added : FileTree) : FileTree :=
  match place with
  | [] => added
  | name :: names =>
    let child := (Keyed.get? name tree.entries).getD empty
    .directory (Keyed.insert name (child.insert names added) tree.entries)

/-- Takes away what stands at a place. The top of a tree cannot be taken away. -/
def erase : Place → FileTree → FileTree
  | [], tree => tree
  | [name], .directory entries => .directory (entries.filter fun entry => entry.1 != name)
  | name :: names, .directory entries =>
    .directory (entries.map fun entry =>
      if entry.1 == name then (entry.1, erase names entry.2) else entry)
  | _, tree => tree

mutual

/-- The same tree with the entries of every directory in the order of their names. -/
def sorted : FileTree → FileTree
  | .directory entries =>
    .directory ((sortedEntries entries).mergeSort fun left right => !(right.1 < left.1))
  | tree => tree

/-- The entries of a directory, sorted themselves but left where they are. -/
def sortedEntries : List (String × FileTree) → List (String × FileTree)
  | [] => []
  | (name, tree) :: rest => (name, tree.sorted) :: sortedEntries rest

end

mutual

/-- The number of directories in a tree, its top included. -/
def directoryCount : FileTree → Nat
  | .directory entries => directoryCountIn entries + 1
  | _ => 0

/-- The number of directories in the entries of one. -/
def directoryCountIn : List (String × FileTree) → Nat
  | [] => 0
  | (_, tree) :: rest => tree.directoryCount + directoryCountIn rest

end

/-- What was put at a place is found there. -/
theorem at?_insert (tree : FileTree) (place : Place) (added : FileTree) :
    (tree.insert place added).at? place = some added := by
  induction place generalizing tree with
  | nil => rfl
  | cons name names inductionHypothesis =>
    simp [insert, at?, entries, Keyed.get?_insert_self, inductionHypothesis]

end FileTree

end ServiceWiring
