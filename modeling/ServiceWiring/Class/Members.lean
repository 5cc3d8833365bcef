import ServiceWiring.Text.Split

/-!
# Members of a class body

The text of a class body at its first level, which is where members are declared.
Strings, comments, attribute groups and everything inside deeper braces are left
out, with one space in the place of each. Reading stops at the brace that closes
the body; what stands before the opening brace and after the closing one does not
matter.

A string, comment or attribute group that has no end takes the rest of the text.
-/

namespace ServiceWiring.Source

/-- The text after the end of a string that started with a quote. A backslash
takes the next character out of consideration. -/
def afterString (quote : Char) : List Char → List Char
  | [] => []
  | '\\' :: [] => []
  | '\\' :: _ :: rest => afterString quote rest
  | c :: rest => if c = quote then rest else afterString quote rest

/-- The text from the end of the line. -/
def afterLine (text : List Char) : List Char := text.dropWhile (· != '\n')

/-- The text after the end of a block comment. -/
def afterBlockComment : List Char → List Char
  | [] => []
  | '*' :: '/' :: rest => rest
  | _ :: rest => afterBlockComment rest

/-- Skipping a string makes no text longer. -/
theorem afterString_le (quote : Char) (text : List Char) :
    (afterString quote text).length ≤ text.length := by
  fun_induction afterString quote text <;> simp_all <;> omega

/-- Skipping a line makes no text longer. -/
theorem afterLine_le (text : List Char) : (afterLine text).length ≤ text.length := by
  induction text with
  | nil => simp [afterLine]
  | cons c rest inductionHypothesis =>
    simp only [afterLine, List.dropWhile_cons] at inductionHypothesis ⊢
    split
    · simp only [List.length_cons]; omega
    · simp

/-- Skipping a block comment makes no text longer. -/
theorem afterBlockComment_le (text : List Char) :
    (afterBlockComment text).length ≤ text.length := by
  fun_induction afterBlockComment text <;> simp_all <;> omega

/-- Whether a character starts a string. -/
def isQuote (c : Char) : Bool := c == '\'' || c == '"'

/-- The text after the bracket that closes an attribute group with `depth`
brackets open. Brackets in strings do not count. -/
def afterAttribute (depth : Nat) (text : List Char) : List Char :=
  match text with
  | [] => []
  | c :: rest =>
    if isQuote c then afterAttribute depth (afterString c rest)
    else if c = '[' then afterAttribute (depth + 1) rest
    else if c = ']' then
      if depth ≤ 1 then rest else afterAttribute (depth - 1) rest
    else afterAttribute depth rest
termination_by text.length
decreasing_by
  · have := afterString_le c rest
    simp only [List.length_cons]
    omega
  all_goals simp

/-- Skipping an attribute group makes no text longer. -/
theorem afterAttribute_le (depth : Nat) (text : List Char) :
    (afterAttribute depth text).length ≤ text.length := by
  fun_induction afterAttribute depth text with
  | case1 => simp
  | case2 depth c rest quote inductionHypothesis =>
    have := afterString_le c rest
    simp only [List.length_cons]
    omega
  | case3 => simp only [List.length_cons]; omega
  | case4 => simp
  | case5 => simp only [List.length_cons]; omega
  | case6 => simp only [List.length_cons]; omega

/-- What a body consists of, as far as members are concerned. -/
inductive Piece
  /-- A character of code. -/
  | plain (c : Char)
  /-- A string, a comment or an attribute group. -/
  | aside
  | opening
  | closing
deriving DecidableEq, Repr

/-- The piece that starts with a character, and the text after it. -/
def nextPiece (c : Char) (rest : List Char) : Piece × List Char :=
  if isQuote c then (.aside, afterString c rest)
  else if c = '/' ∧ rest.head? = some '/' then (.aside, afterLine rest)
  else if c = '/' ∧ rest.head? = some '*' then (.aside, afterBlockComment rest.tail)
  else if c = '#' ∧ rest.head? = some '[' then (.aside, afterAttribute 0 rest)
  else if c = '#' then (.aside, afterLine rest)
  else if c = '\x7b' then (.opening, rest)
  else if c = '\x7d' then (.closing, rest)
  else (.plain c, rest)

/-- A piece takes at least its first character. -/
theorem nextPiece_le (c : Char) (rest : List Char) :
    (nextPiece c rest).2.length ≤ rest.length := by
  have string := afterString_le c rest
  have line := afterLine_le rest
  have comment := afterBlockComment_le rest.tail
  have group := afterAttribute_le 0 rest
  have tail : rest.tail.length ≤ rest.length := by simp
  unfold nextPiece
  repeat' split
  all_goals dsimp only
  all_goals omega

/-- The first-level text of a body of which `depth` braces are open. -/
def membersAt (depth : Nat) (text : List Char) : List Char :=
  match text with
  | [] => []
  | c :: rest =>
    match _found : nextPiece c rest with
    | (.plain code, after) =>
      if depth = 1 then code :: membersAt depth after else membersAt depth after
    | (.aside, after) =>
      if depth = 1 then ' ' :: membersAt depth after else membersAt depth after
    | (.opening, after) =>
      if depth = 1 then ' ' :: membersAt 2 after else membersAt (depth + 1) after
    | (.closing, after) =>
      if depth = 0 then membersAt 0 after
      else if depth = 1 then []
      else membersAt (depth - 1) after
termination_by text.length
decreasing_by
  all_goals
    have shorter := nextPiece_le c rest
    rw [_found] at shorter
    dsimp only at shorter
    simp only [List.length_cons]
    omega

/-- The first-level text of the class body after a declaration. -/
def members (afterDeclaration : List Char) : List Char := membersAt 0 afterDeclaration

end ServiceWiring.Source
