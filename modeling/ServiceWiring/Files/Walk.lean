import ServiceWiring.Files.System

/-!
# Walking a directory

A walk lists the files below a directory, the contents of each directory in place of
the directory and in the order of its entries. Entries with an excluded name are left
out with all that is below them, and of the files only those with a wanted name are
listed. Links are left out or followed; the directory that the walk starts from may
be a link in any case.

A followed link counts as what it leads to, under its own name. One that leads
nowhere is a fault in its place in the list, and so is one that leads back to a
directory that is being walked; its name makes no difference to that. The walk goes
on behind a fault.
-/

namespace ServiceWiring

/-- What a walk takes up. -/
structure WalkRules where
  excludes : String → Bool
  wants : String → Bool
  followsLinks : Bool

/-- The directory that a walk is in. -/
structure Visit where
  /-- The names on the way from the start of the walk. -/
  names : List String
  /-- Where the directory is, links resolved. -/
  location : Place
  /-- The names on the way to each directory above, the nearest first, and where it is. -/
  above : List (List String × Place)

namespace Visit

/-- The visit of a directory under a name. -/
def enter (visit : Visit) (name : String) (location : Place) : Visit where
  names := visit.names ++ [name]
  location := location
  above := (visit.names, visit.location) :: visit.above

/-- The nearest directory of a visit that is at a place. -/
def enclosing? (visit : Visit) (location : Place) : Option (List String) :=
  (((visit.names, visit.location) :: visit.above).find? fun (_, place) =>
    place == location).map Prod.fst

end Visit

namespace FileTree

/-- A file as it appears in a list, if it is wanted. -/
def listed (rules : WalkRules) (visit : Visit) (name : String) :
    List (Except WalkFault (List String)) :=
  if rules.excludes name || !rules.wants name then [] else [.ok (visit.names ++ [name])]

/-- The files below some entries of a directory; `onLink` says what a link yields. -/
def filesBelow (rules : WalkRules)
    (onLink : Visit → String → List (Except WalkFault (List String))) (visit : Visit) :
    List (String × FileTree) → List (Except WalkFault (List String))
  | [] => []
  | (name, .file _) :: rest => listed rules visit name ++ filesBelow rules onLink visit rest
  | (name, .link _) :: rest => onLink visit name ++ filesBelow rules onLink visit rest
  | (name, .directory entries) :: rest =>
    (if rules.excludes name then []
      else filesBelow rules onLink (visit.enter name (visit.location ++ [name])) entries) ++
      filesBelow rules onLink visit rest

end FileTree

namespace FileSystem

/-- The path of something below the start of a walk. -/
def pathBelow (start : String) (names : List String) : String := names.foldl Path.join start

/-- What a link yields when it is followed, through at most `depth` links in turn that
lead to directories. As directories that enclose one another are different, the number
of all directories is depth enough. -/
def followLink (rules : WalkRules) (system : FileSystem) (start : String) :
    Nat → Visit → String → List (Except WalkFault (List String))
  | 0, _, _ => []
  | depth + 1, visit, name =>
    let path := pathBelow start (visit.names ++ [name])
    match system.locate .target path with
    | .error fault => [.error (.system path fault)]
    | .ok location =>
      match system.root.at? location with
      | some (.directory entries) =>
        match visit.enclosing? location with
        | some names => [.error (.loop path (pathBelow start names))]
        | none =>
          if rules.excludes name then []
          else (FileTree.filesBelow rules (followLink rules system start depth)
            (visit.enter name location) entries)
      | _ => FileTree.listed rules visit name

/-- What a link yields. -/
def onLink (rules : WalkRules) (system : FileSystem) (start : String) :
    Visit → String → List (Except WalkFault (List String)) :=
  if rules.followsLinks then
    followLink rules system start (system.root.directoryCount + 1)
  else fun _ _ => []

/-- The wanted files below a path, each by the names on the way to it, and the faults
met. A path that leads nowhere is a fault; one that leads to a file yields nothing. -/
def walk (rules : WalkRules) (start : String) (system : FileSystem) :
    List (Except WalkFault (List String)) :=
  match system.locate .target start with
  | .error fault => [.error (.system start fault)]
  | .ok location =>
    let top := ((system.root.at? location).map FileTree.entries).getD []
    FileTree.filesBelow rules (onLink rules system start) ⟨[], location, []⟩ top

end FileSystem

end ServiceWiring
