import ServiceWiring.Argument.Tree
import ServiceWiring.Text.Split

/-!
# Argument resolution

Strings in a payload can stand for references: `@target` for the service
`target`, and `!tagged tag` for all services with a tag. Resolution replaces the
string literals of a tree that have one of these forms. It is made of two passes,
references first; a pass looks at string literals only and keeps every list, map,
key and other leaf as it is.

Literals that are themselves arrays or objects are leaves: no pass looks inside.
-/

namespace ServiceWiring.ArgumentTree

open Text (stripPrefix?)

/-- A rule that may replace a string literal by another leaf. -/
abbrev LeafRule := String → Option ArgumentTree

mutual

/-- Applies a rule to every string literal of a tree. -/
def rewriteLeaves (rule : LeafRule) : ArgumentTree → ArgumentTree
  | literal (.str text) => (rule text).getD (literal (.str text))
  | list items => list (rewriteItems rule items)
  | map entries => map (rewriteEntries rule entries)
  | other => other

/-- Applies a rule to every string literal in a list of trees. -/
def rewriteItems (rule : LeafRule) : List ArgumentTree → List ArgumentTree
  | [] => []
  | item :: items => rewriteLeaves rule item :: rewriteItems rule items

/-- Applies a rule to every string literal under the keys of a map. -/
def rewriteEntries (rule : LeafRule) :
    List (String × ArgumentTree) → List (String × ArgumentTree)
  | [] => []
  | (key, value) :: entries => (key, rewriteLeaves rule value) :: rewriteEntries rule entries

end

/-- The mark before the target of a reference. -/
def referenceMark : String := "@"

/-- The mark before the tag of a tagged group. -/
def taggedMark : String := "!tagged "

/-- The text after a mark, if it starts with the mark. -/
def afterMark? (mark text : String) : Option String :=
  (stripPrefix? mark.toList text.toList).map String.ofList

/-- `@target` stands for a reference. -/
def referenceRule : LeafRule := fun text => (afterMark? referenceMark text).map reference

/-- `!tagged tag` stands for a tagged group. -/
def taggedRule : LeafRule := fun text => (afterMark? taggedMark text).map taggedGroup

/-- The pass that introduces references. -/
def resolveReferences : ArgumentTree → ArgumentTree := rewriteLeaves referenceRule

/-- The pass that introduces tagged groups. -/
def resolveTagged : ArgumentTree → ArgumentTree := rewriteLeaves taggedRule

/-- Both passes, references first. -/
def resolve (tree : ArgumentTree) : ArgumentTree := resolveTagged (resolveReferences tree)

end ServiceWiring.ArgumentTree
