import ServiceWiring.Text.Blank

/-!
# Marks and blanks of TOML

What stands between the keys and values of a TOML text. Gaps are spaces and tabs. A
line ends at a line feed, which may have one carriage return before it, and a comment
extends from a number sign to the end of its line. Control characters other than the
tab are allowed nowhere.
-/

namespace ServiceWiring.Toml

open Text (isGap)

/-- The characters that may stand for themselves in comments and strings. -/
def isPlain (c : Char) : Bool := c == '\t' || (0x20 ≤ c.toNat && c.toNat != 0x7F)

/-- What follows a line break at the beginning of a text. -/
def lineBreak? : List Char → Option (List Char)
  | '\n' :: rest => some rest
  | '\r' :: '\n' :: rest => some rest
  | _ => none

/-- A line break makes a text shorter. -/
theorem lineBreak?_lt {text rest : List Char} (found : lineBreak? text = some rest) :
    rest.length < text.length := by
  unfold lineBreak? at found
  split at found
  · obtain rfl := Option.some.inj found
    simp only [List.length_cons]
    omega
  · obtain rfl := Option.some.inj found
    simp only [List.length_cons]
    omega
  · contradiction

/-- The text from its first character that is no gap. -/
def skipGaps (text : List Char) : List Char := text.dropWhile isGap

/-- The text behind a comment at its beginning. -/
def skipComment : List Char → List Char
  | '#' :: rest => rest.dropWhile isPlain
  | text => text

/-- What follows the line that a text begins in, where nothing but a comment is left of
that line. -/
def endLine? (text : List Char) : Option (List Char) :=
  match skipComment (skipGaps text) with
  | [] => some []
  | rest => lineBreak? rest

/-- The text behind gaps, line breaks and comments; `inComment` tells that it begins
inside a comment. -/
def skipFill (inComment : Bool) : List Char → List Char
  | [] => []
  | '\r' :: '\n' :: rest => skipFill false rest
  | c :: rest =>
    if c = '\n' then skipFill false rest
    else if inComment then if isPlain c then skipFill true rest else c :: rest
    else if isGap c then skipFill false rest
    else if c = '#' then skipFill true rest
    else c :: rest

end ServiceWiring.Toml
