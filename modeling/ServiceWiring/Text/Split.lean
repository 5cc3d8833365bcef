/-!
# Cutting texts

Lines, affixes and joins of texts. A line ends at a line feed; a carriage
return directly before that line feed belongs to the line end, while one at the
very end of the text, or anywhere else, is an ordinary character.
-/

namespace ServiceWiring.Text

/-- The text up to the first line feed, and the text after it if there is one. -/
def cutLine : List Char → List Char × Option (List Char)
  | [] => ([], none)
  | c :: rest =>
    if c = '\n' then ([], some rest)
    else ((c :: (cutLine rest).1), (cutLine rest).2)

/-- What follows the first line feed is shorter than the text. -/
theorem cutLine_shorter (text rest : List Char) (found : (cutLine text).2 = some rest) :
    rest.length < text.length := by
  induction text with
  | nil => simp [cutLine] at found
  | cons c tail inductionHypothesis =>
    by_cases feed : c = '\n'
    · simp [cutLine, feed] at found
      simp [found]
    · simp [cutLine, feed] at found
      have := inductionHypothesis found
      simp only [List.length_cons]
      omega

/-- A line without the carriage return that ends it. -/
def dropReturn (line : List Char) : List Char :=
  if line.getLast? = some '\r' then line.dropLast else line

/-- The lines of a text, without their line ends. A line feed at the end of the
text starts no further line, and the empty text has no line. -/
def lines (text : List Char) : List (List Char) :=
  match text with
  | [] => []
  | c :: tail =>
    match _found : (cutLine (c :: tail)).2 with
    | none => [(cutLine (c :: tail)).1]
    | some rest => dropReturn (cutLine (c :: tail)).1 :: lines rest
termination_by text.length
decreasing_by exact cutLine_shorter _ _ _found

/-- The parts of a text with `separator` between each two of them. -/
def join (separator : List Char) : List (List Char) → List Char
  | [] => []
  | [part] => part
  | part :: parts => part ++ separator ++ join separator parts

/-- The parts of a text between occurrences of one character. There is always
at least one part. -/
def splitOnChar (mark : Char) : List Char → List (List Char)
  | [] => [[]]
  | c :: rest =>
    if c = mark then [] :: splitOnChar mark rest
    else
      match splitOnChar mark rest with
      | [] => [[c]]
      | part :: parts => (c :: part) :: parts

/-- The text before and after the first occurrence of one character. -/
def cutAt (mark : Char) : List Char → Option (List Char × List Char)
  | [] => none
  | c :: rest =>
    if c = mark then some ([], rest)
    else (cutAt mark rest).map fun (before, after) => (c :: before, after)

/-- Whether `part` occurs anywhere in the text. -/
def occurs (part : List Char) : List Char → Bool
  | [] => part.isEmpty
  | c :: rest => part.isPrefixOf (c :: rest) || occurs part rest

/-- The text before and from the last occurrence of `part`. -/
def cutAtLast (part : List Char) : List Char → Option (List Char × List Char)
  | [] => if part.isEmpty then some ([], []) else none
  | c :: rest =>
    match cutAtLast part rest with
    | some (before, after) => some (c :: before, after)
    | none => if part.isPrefixOf (c :: rest) then some ([], c :: rest) else none

/-- The text after `part`, if the text starts with it. -/
def stripPrefix? : List Char → List Char → Option (List Char)
  | [], text => some text
  | _ :: _, [] => none
  | p :: part, c :: text => if p = c then stripPrefix? part text else none

/-- The text before `part`, if the text ends with it. -/
def stripSuffix? (part text : List Char) : Option (List Char) :=
  (stripPrefix? part.reverse text.reverse).map List.reverse

/-- A text starts with `part` exactly when it is `part` followed by the rest. -/
theorem stripPrefix?_eq_some_iff (part text rest : List Char) :
    stripPrefix? part text = some rest ↔ text = part ++ rest := by
  induction part generalizing text with
  | nil => simp [stripPrefix?]
  | cons p part inductionHypothesis =>
    cases text with
    | nil => simp [stripPrefix?]
    | cons c text =>
      by_cases same : p = c
      · simp [stripPrefix?, same, inductionHypothesis]
      · simp [stripPrefix?, same, Ne.symm same]

/-- A text ends with `part` exactly when it is the rest followed by `part`. -/
theorem stripSuffix?_eq_some_iff (part text rest : List Char) :
    stripSuffix? part text = some rest ↔ text = rest ++ part := by
  simp only [stripSuffix?, Option.map_eq_some_iff, stripPrefix?_eq_some_iff]
  constructor
  · rintro ⟨reversed, split, rfl⟩
    simpa using congrArg List.reverse split
  · rintro rfl
    exact ⟨rest.reverse, by simp, by simp⟩

/-- The text without any copies of `part` at its end. An empty `part` removes
nothing. -/
def dropCopiesAtEnd (part text : List Char) : List Char :=
  if _ : part = [] then text
  else
    match _found : stripSuffix? part text with
    | none => text
    | some shorter => dropCopiesAtEnd part shorter
termination_by text.length
decreasing_by
  have positive : 0 < part.length := List.length_pos_iff.mpr ‹_›
  rw [(stripSuffix?_eq_some_iff part text shorter).mp _found, List.length_append]
  omega

/-- The text without the characters of a kind at both ends. -/
def trimMatches (drop : Char → Bool) (text : List Char) : List Char :=
  ((text.dropWhile drop).reverse.dropWhile drop).reverse

/-- ASCII letters in lower case; every other character stays as it is. -/
def lowerAscii (text : List Char) : List Char := text.map Char.toLower

end ServiceWiring.Text
