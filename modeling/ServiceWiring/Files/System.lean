import ServiceWiring.Error
import ServiceWiring.Files.Tree
import ServiceWiring.RawPath

/-!
# File systems

A file system is a tree and a place in it from which relative paths start. A path
leads through directories only: `..` goes up, a single dot and repeated slashes go
nowhere, and a link continues with the path that it holds. At most forty links are
followed on one way. A slash at the end of a path asks for a directory.

Whether a link in the last position is followed, and whether the last name may be
missing, depends on what the way is for.
-/

namespace ServiceWiring

/-- A tree of files and the directory that relative paths start from. -/
structure FileSystem where
  root : FileTree
  workingDirectory : Place

/-- What a path is looked up for. -/
inductive Lookup
  /-- For what it leads to in the end. -/
  | target
  /-- For the entry that it names, be it a link. -/
  | entry
  /-- For a file that can be written, be it a new one. -/
  | writing
deriving DecidableEq, Repr

namespace FileSystem

/-- The system that consists of a working directory only. -/
def empty : FileSystem where
  root := .directory [("work", .empty)]
  workingDirectory := ["work"]

/-- The parts of a path between its slashes. -/
def pieces (path : String) : List String :=
  (Text.splitOnChar '/' path.toList).map String.ofList

/-- The number of links that are followed on one way. -/
def linkLimit : Nat := 40

/-- Where the pieces of a path lead from a place, following no more links than
allowed. A link at the top of an absolute target starts again at the top. -/
def locateFrom (root : FileTree) (purpose : Lookup) (links : Nat) (here : Place) :
    List String → Except SystemFault Place
  | [] =>
    if purpose = .writing ∧ ((root.at? here).map FileTree.isDirectory).getD false then
      .error .isDirectory
    else .ok here
  | piece :: rest =>
    match root.at? here with
    | some (.directory entries) =>
      if piece = "" ∨ piece = "." then locateFrom root purpose links here rest
      else if piece = ".." then locateFrom root purpose links here.dropLast rest
      else if purpose = .writing ∧ rest ≠ [] ∧ rest.all String.isEmpty then .error .isDirectory
      else
        match Keyed.get? piece entries with
        | none =>
          if purpose = .writing ∧ rest = [] then .ok (here ++ [piece]) else .error .notFound
        | some (.link target) =>
          if purpose = .entry ∧ rest = [] then .ok (here ++ [piece])
          else
            match links with
            | 0 => .error .tooManyLinks
            | links + 1 =>
              locateFrom root purpose links (if Path.isAbsolute target then [] else here)
                (pieces target ++ rest)
        | some _ => locateFrom root purpose links (here ++ [piece]) rest
    | _ => .error .notDirectory
termination_by path => (links, path.length)

/-- Where a path leads. The empty path leads nowhere. -/
def locate (purpose : Lookup) (path : String) (system : FileSystem) :
    Except SystemFault Place :=
  if path.isEmpty then .error .notFound
  else
    locateFrom system.root purpose linkLimit
      (if Path.isAbsolute path then [] else system.workingDirectory) (pieces path)

/-- What a path leads to. -/
def find (path : String) (system : FileSystem) : Except SystemFault FileTree := do
  match system.root.at? (← system.locate .target path) with
  | some tree => .ok tree
  | none => .error .notFound

/-- The bytes of a file. -/
def read (path : String) (system : FileSystem) : Except SystemFault ByteArray := do
  match ← system.find path with
  | .file content => .ok content
  | _ => .error .isDirectory

/-- The text of a file, if it can be read and is UTF-8. -/
def readText? (path : String) (system : FileSystem) : Option String :=
  match system.read path with
  | .ok content => String.fromUTF8? content
  | .error _ => none

/-- The text of a file at a path that need not be one. All names in the system are texts, so a
path that is none leads nowhere. -/
def sourceText? (path : RawPath) (system : FileSystem) : Option String :=
  path.text?.bind fun path => system.readText? path

/-- At a path that is a text, that is the text of the file there. -/
@[simp]
theorem sourceText?_ofText (path : String) (system : FileSystem) :
    system.sourceText? path = system.readText? path := by
  rw [sourceText?, RawPath.text?_ofText, Option.bind_some]

/-- Whether a path leads to a file. -/
def isFile (path : String) (system : FileSystem) : Bool :=
  match system.find path with
  | .ok (.file _) => true
  | _ => false

/-- Puts something at a place of the tree. -/
def place (added : FileTree) (location : Place) (system : FileSystem) : FileSystem :=
  { system with root := system.root.insert location added }

/-- Writes a file, a new one or in place of the one that is there. -/
def write (path : String) (content : ByteArray) (system : FileSystem) :
    Except SystemFault FileSystem := do
  return system.place (.file content) (← system.locate .writing path)

/-- Makes a directory unless there is something at the path. -/
def makeDirectory (path : String) (system : FileSystem) : Except SystemFault FileSystem :=
  match system.locate .target path with
  | .ok _ => .ok system
  | .error _ => do return system.place .empty (← system.locate .writing path)

/-- Makes a directory and all that are missing above it. -/
def makeDirectories (path : String) (system : FileSystem) : Except SystemFault FileSystem :=
  (Path.componentEnds path).foldlM (fun system (_, reached) =>
    system.makeDirectory (String.ofList reached)) system

/-- Puts something at a path, and makes the directories above it. -/
def install (path : String) (added : FileTree) (system : FileSystem) :
    Except SystemFault FileSystem := do
  if added.isDirectory then system.makeDirectories path
  else
    let system ← system.makeDirectories ((Path.parent? path).getD "")
    return system.place added (← system.locate .writing path)

/-- Takes away what a path names: a link and not what it leads to, and a directory
with all that is in it. -/
def remove (path : String) (system : FileSystem) : Except SystemFault FileSystem := do
  let location ← system.locate .entry path
  return { system with root := system.root.erase location }

/-- The system in which the entries of all directories stand in the order of their
names. -/
def sorted (system : FileSystem) : FileSystem := { system with root := system.root.sorted }

end FileSystem

end ServiceWiring
