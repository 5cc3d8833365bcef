/-!
# Blank characters

A character is blank when it has the Unicode property `White_Space`. Trimming
removes blanks at the ends of a text and leaves those inside it alone; both
ends are handled independently, so the order of the two trims does not matter.

Texts are lists of characters here. Conversion from and to `String` happens
where a text enters or leaves a scanner.
-/

namespace ServiceWiring.Text

/-- The twenty-five characters with the property `White_Space`. -/
def isBlank (c : Char) : Bool :=
  let code := c.toNat
  (9 ≤ code && code ≤ 13) || code == 0x20 || code == 0x85 || code == 0xA0 ||
    code == 0x1680 || (0x2000 ≤ code && code ≤ 0x200A) || code == 0x2028 ||
    code == 0x2029 || code == 0x202F || code == 0x205F || code == 0x3000

/-- The text from its first character that is not blank. -/
def trimStart (text : List Char) : List Char := text.dropWhile isBlank

/-- The text up to its last character that is not blank. -/
def trimEnd (text : List Char) : List Char := (text.reverse.dropWhile isBlank).reverse

/-- The text without the blanks at either end. -/
def trim (text : List Char) : List Char := trimEnd (trimStart text)

/-- A text is blank when every character in it is; the empty text is blank. -/
def allBlank (text : List Char) : Bool := text.all isBlank

/-- The ASCII blanks that may stand inside a source line. -/
def isGap (c : Char) : Bool := c == ' ' || c == '\t'

/-- Trimming leaves nothing exactly when the text holds blanks only. -/
theorem trimStart_eq_nil_iff (text : List Char) :
    trimStart text = [] ↔ allBlank text = true := by
  induction text with
  | nil => simp [trimStart, allBlank]
  | cons c rest inductionHypothesis =>
    cases blank : isBlank c <;>
      simp_all [trimStart, allBlank]

end ServiceWiring.Text
