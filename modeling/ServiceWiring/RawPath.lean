import ServiceWiring.Path
import ServiceWiring.Text.Bytes

/-!
# Paths as bytes

To a file system the names in a path are bytes, and nothing but slashes and dots has a meaning
there. Nearly all paths are texts, those of a configuration among them; what a scan finds need
not be one. A name that is no text is shown as one where it has to be, so different names may
be shown alike.
-/

namespace ServiceWiring

open Text (byte encoded)

/-- A path that need not be text. -/
structure RawPath where
  bytes : List UInt8
deriving DecidableEq, Repr

namespace RawPath

/-- The path that a text is. -/
def ofText (path : String) : RawPath := ⟨Text.bytes path⟩

instance : Coe String RawPath := ⟨ofText⟩

/-- The text that a path is, if it is one. -/
def text? (path : RawPath) : Option String := String.fromUTF8? ⟨path.bytes.toArray⟩

/-- The names in a path, from its beginning: what stands between slashes and is neither empty
nor one or two dots. -/
def names (path : RawPath) : List (List UInt8) :=
  (path.bytes.splitOn (byte '/')).filter fun piece =>
    piece ∉ [[], encoded ['.'], encoded ['.', '.']]

/-- The names in a path as they are shown. -/
def shownNames (path : RawPath) : List (List Char) := path.names.map Text.shown

/-- One path inside another. An absolute path is inside nothing but itself. -/
def join (base relative : RawPath) : RawPath :=
  if relative.bytes.head? = some (byte '/') then relative
  else if base.bytes.isEmpty || base.bytes.getLast? = some (byte '/') then
    ⟨base.bytes ++ relative.bytes⟩
  else ⟨base.bytes ++ byte '/' :: relative.bytes⟩

/-- A text is the path that it is. -/
theorem text?_ofText (path : String) : (ofText path).text? = some path := by
  have same : (⟨(Text.bytes path).toArray⟩ : ByteArray) = path.toUTF8 := by
    rw [Text.bytes, Array.toArray_toList]
  rw [text?, ofText, same, Text.fromUTF8?_toUTF8]

/-- Different texts are different paths. -/
theorem ofText_inj {path other : String} : ofText path = ofText other ↔ path = other := by
  refine ⟨fun same => ?_, congrArg ofText⟩
  have texts := congrArg text? same
  rw [text?_ofText, text?_ofText] at texts
  exact Option.some.inj texts

end RawPath

end ServiceWiring
