import ServiceWiring.Text.Split

/-!
# Paths

A path is text in which slashes separate components. Repeated slashes, slashes at
the end and single dots have no meaning of their own, except that a dot at the
very beginning is kept as a component. A slash at the beginning makes the path
absolute. Names are taken as they are: `..` is a component and is not resolved.
-/

namespace ServiceWiring.Path

open Text (splitOnChar cutAtLast)

/-- What stands between the slashes of a path. -/
inductive Component
  | root
  | current
  | parent
  | normal (name : List Char)
deriving DecidableEq, Repr

/-- A component as it is written. -/
def Component.text : Component → List Char
  | .root => ['/']
  | .current => ['.']
  | .parent => ['.', '.']
  | .normal name => name

/-- The name that a component is, if it is one. -/
def Component.name? : Component → Option (List Char)
  | .normal name => some name
  | .root | .current | .parent => none

/-- The components of the pieces between slashes, each with the path that ends in
it. `before` is the path up to the next piece, its last slash included. -/
def pieceComponents (before : List Char) : List (List Char) → List (Component × List Char)
  | [] => []
  | piece :: pieces =>
    let others := pieceComponents (before ++ piece ++ ['/']) pieces
    if piece = [] then others
    else if piece = ['.'] then
      if before = [] then (.current, piece) :: others else others
    else if piece = ['.', '.'] then (.parent, before ++ piece) :: others
    else (.normal piece, before ++ piece) :: others

/-- The components of a path, each with the path that ends in it. -/
def componentEnds (path : String) : List (Component × List Char) :=
  match splitOnChar '/' path.toList with
  | [] :: next :: pieces => (.root, ['/']) :: pieceComponents ['/'] (next :: pieces)
  | pieces => pieceComponents [] pieces

/-- The components of a path. -/
def components (path : String) : List Component := (componentEnds path).map Prod.fst

/-- Whether two paths have the same components, however they are written. -/
def same (left right : String) : Bool := components left == components right

/-- The names in a path, from its beginning. -/
def normalNames (path : String) : List (List Char) :=
  (components path).filterMap Component.name?

/-- Whether a path starts with a slash. -/
def isAbsolute (path : String) : Bool := path.toList.head? == some '/'

/-- The path without its last component. The root and the empty path have none. -/
def parent? (path : String) : Option String :=
  match (componentEnds path).reverse with
  | [] | (.root, _) :: _ => none
  | [_] => some ""
  | _ :: (_, before) :: _ => some (String.ofList before)

/-- One path inside another. An absolute path is inside nothing but itself. -/
def join (base relative : String) : String :=
  if isAbsolute relative then relative
  else if base.isEmpty || base.toList.getLast? == some '/' then base ++ relative
  else base ++ "/" ++ relative

/-- A file name without its last extension. A dot at the beginning of a name
starts no extension. -/
def stem (name : List Char) : List Char :=
  match cutAtLast ['.'] name with
  | some ([], _) | none => name
  | some (before, _) => before

/-- What follows the last point in the last name of a path; a point where the name
begins does not count. -/
def extension (path : String) : List Char :=
  match (normalNames path).getLast? with
  | none => []
  | some name =>
    match cutAtLast ['.'] name with
    | some ([], _) | none => []
    | some (_, pointed) => pointed.drop 1

example : (normalNames "./a//b/../c.x/").map String.ofList = ["a", "b", "c.x"] := by decide
example : parent? "a//b/./c/" = some "a//b" := by decide
example : parent? "b.toml" = some "" ∧ parent? "/" = none := by decide
example : String.ofList (stem ".php".toList) = ".php" ∧
    String.ofList (stem "a.b.php".toList) = "a.b" := by decide
example : extension "a.b/c.d.toml" = "toml".toList ∧ extension "a.b/.toml" = [] := by decide

end ServiceWiring.Path
