import ServiceWiring.Json.Reader
import ServiceWiring.Text.Blank
import ServiceWiring.Text.Split
import ServiceWiring.Text.Word

/-!
# Documentation blocks

A documentation block holds annotations. An annotation stands at the beginning of
a line, blanks and one star apart: `@`, a name, and optionally a JSON text between
parentheses, which may continue on further lines. Parentheses in JSON strings do
not count. What follows the closing parenthesis on its line, and every line that
does not start with an annotation, is free text.

An annotation without JSON text, or with blanks between its parentheses, has the
payload `null`. A parenthesis that is never closed, or a text that is not JSON,
spoils the whole block; the first such fault is reported.
-/

namespace ServiceWiring

open Text (trim trimStart stripPrefix? stripSuffix? lines cutLine isNameStart isNameChar)

/-- An annotation: a name and what was said about it. -/
structure DocEntry where
  name : String
  payload : Json
deriving DecidableEq, Repr

/-- The name of the annotation that makes a class a service. -/
def serviceName : String := "Service"

/-- Whether an annotation makes its class a service. -/
def DocEntry.isService (entry : DocEntry) : Bool := entry.name == serviceName

namespace DocBlock

/-- What is wrong with a block. -/
inductive Fault
  | unclosed (name : List Char)
  | payload (name body : List Char) (fault : Json.Fault)
deriving DecidableEq, Repr

/-- The wording of a fault. -/
def Fault.message : Fault → String
  | .unclosed name => "@" ++ String.ofList name ++ " 的括号未闭合"
  | .payload name body fault =>
    "@" ++ String.ofList name ++ " 的载荷不是合法 JSON: " ++ fault.message body

/-- A line of a block without the blanks before it and one star. -/
def undecorateLine (line : List Char) : List Char :=
  let text := trimStart line
  (stripPrefix? ['*'] text).getD text

/-- The text of a block: its marks, and the decoration of every line, left out. -/
def undecorate (block : List Char) : List Char :=
  let inner := trim block
  let inner := (stripPrefix? ['/', '*', '*'] inner).getD inner
  let inner := (stripSuffix? ['*', '/'] inner).getD inner
  Text.join ['\n'] ((lines inner).map undecorateLine)

/-- Where a scan for the closing parenthesis stands. -/
inductive Context
  | code
  | string
  | escape
deriving DecidableEq, Repr

/-- The text before and after the parenthesis that closes the one before the text.
`depth` counts the parentheses opened since. -/
def cutAtClosing (context : Context) (depth : Nat) :
    List Char → Option (List Char × List Char)
  | [] => none
  | c :: rest =>
    let keep := fun (cut : Option (List Char × List Char)) =>
      cut.map fun (before, after) => (c :: before, after)
    match context with
    | .escape => keep (cutAtClosing .string depth rest)
    | .string =>
      if c = '\\' then keep (cutAtClosing .escape depth rest)
      else if c = '"' then keep (cutAtClosing .code depth rest)
      else keep (cutAtClosing .string depth rest)
    | .code =>
      if c = '"' then keep (cutAtClosing .string depth rest)
      else if c = '(' then keep (cutAtClosing .code (depth + 1) rest)
      else if c = ')' then
        if depth = 0 then some ([], rest) else keep (cutAtClosing .code (depth - 1) rest)
      else keep (cutAtClosing .code depth rest)

/-- Cutting loses the closing parenthesis only. -/
theorem cutAtClosing_append (context : Context) (depth : Nat) (text before after : List Char)
    (cut : cutAtClosing context depth text = some (before, after)) :
    before ++ ')' :: after = text := by
  induction text generalizing context depth before with
  | nil => simp [cutAtClosing] at cut
  | cons c rest inductionHypothesis =>
    simp only [cutAtClosing] at cut
    repeat' split at cut
    all_goals
      first
      | (simp only [Option.some.injEq, Prod.mk.injEq] at cut
         obtain ⟨rfl, rfl⟩ := cut
         simp_all)
      | (simp only [Option.map_eq_some_iff, Prod.mk.injEq, Prod.exists] at cut
         obtain ⟨inner, outer, found, rfl, rfl⟩ := cut
         simp [inductionHypothesis _ _ _ found])

/-- The characters of annotation names after the first. -/
def isAnnotationChar (c : Char) : Bool := isNameChar c || c == '\\'

/-- The name of the annotation that a line starts with, and the text behind it. -/
def annotationName? (line : List Char) : Option (List Char × List Char) :=
  match trimStart line with
  | '@' :: c :: rest =>
    if isNameStart c then
      some (c :: rest.takeWhile isAnnotationChar, rest.dropWhile isAnnotationChar)
    else none
  | _ => none

/-- The payload that a text between parentheses denotes. -/
def payload (name body : List Char) : Except Fault Json :=
  let text := trim body
  if text.isEmpty then .ok .null
  else (Json.parse text).mapError (.payload name text ·)

/-- A line feed and the lines behind it, if there are any. -/
def continued : Option (List Char) → List Char
  | none => []
  | some rest => '\n' :: rest

/-- The text after the next line feed. -/
def nextLines (text : List Char) : List Char := ((cutLine text).2).getD []

/-- The text after a line feed is no longer than the text. -/
theorem nextLines_le (text : List Char) : (nextLines text).length ≤ text.length := by
  unfold nextLines
  cases found : (cutLine text).2 with
  | none => simp
  | some rest =>
    have := Text.cutLine_shorter text rest found
    simp only [Option.getD_some]
    omega

/-- A line and the lines behind it make up the text. -/
theorem cutLine_append (text : List Char) :
    (cutLine text).1 ++ continued (cutLine text).2 = text := by
  induction text with
  | nil => simp [cutLine, continued]
  | cons c rest inductionHypothesis =>
    by_cases feed : c = '\n'
    · simp [cutLine, continued, feed]
    · simp [cutLine, feed, inductionHypothesis]

/-- What stands behind an annotation name is no longer than its line. -/
theorem annotationName?_lt {line name rest : List Char}
    (found : annotationName? line = some (name, rest)) : rest.length < line.length := by
  unfold annotationName? at found
  split at found
  · rename_i c tail start
    split at found
    · simp only [Option.some.injEq, Prod.mk.injEq] at found
      obtain ⟨_, rfl⟩ := found
      have trimmed := (List.dropWhile_suffix (l := line) Text.isBlank).length_le
      have dropped := (List.dropWhile_suffix (l := tail) isAnnotationChar).length_le
      simp only [trimStart] at start
      rw [start] at trimmed
      simp only [List.length_cons] at trimmed
      omega
    · simp at found
  · simp at found

/-- The text after the next line feed of a text is shorter than the text. -/
theorem nextLines_lt (c : Char) (tail : List Char) :
    (nextLines (c :: tail)).length < (c :: tail).length := by
  unfold nextLines
  cases found : (cutLine (c :: tail)).2 with
  | none => simp
  | some rest => exact Text.cutLine_shorter _ rest found

/-- An annotation with a payload takes at least one character. -/
theorem payload_shortens {text name behind opened body after : List Char}
    (named : annotationName? (cutLine text).1 = some (name, behind))
    (gap : trimStart behind = '(' :: opened)
    (closed : cutAtClosing .code 0 (opened ++ continued (cutLine text).2) = some (body, after)) :
    (nextLines after).length < text.length := by
  have further := nextLines_le after
  have whole := congrArg List.length (cutLine_append text)
  have split := congrArg List.length (cutAtClosing_append _ _ _ _ _ closed)
  have name := annotationName?_lt named
  have blanks := (List.dropWhile_suffix (l := behind) Text.isBlank).length_le
  simp only [trimStart] at gap
  rw [gap] at blanks
  simp only [List.length_append, List.length_cons] at whole split blanks
  omega

/-- The annotations in the text of a block. -/
def annotations (text : List Char) : Except Fault (List DocEntry) :=
  match text with
  | [] => .ok []
  | c :: tail =>
    match _name : annotationName? (cutLine (c :: tail)).1 with
    | none => annotations (nextLines (c :: tail))
    | some (name, behind) =>
      match _gap : trimStart behind with
      | '(' :: opened =>
        match _closed : cutAtClosing .code 0 (opened ++ continued (cutLine (c :: tail)).2) with
        | none => .error (.unclosed name)
        | some (body, after) =>
          match payload name body with
          | .error fault => .error fault
          | .ok value =>
            match annotations (nextLines after) with
            | .error fault => .error fault
            | .ok others => .ok (⟨String.ofList name, value⟩ :: others)
      | _ =>
        match annotations (nextLines (c :: tail)) with
        | .error fault => .error fault
        | .ok others => .ok (⟨String.ofList name, .null⟩ :: others)
termination_by text.length
decreasing_by
  · exact nextLines_lt c tail
  · exact payload_shortens _name _gap _closed
  · exact nextLines_lt c tail

/-- The annotations of a documentation block. -/
def parse (block : String) : Except Fault (List DocEntry) :=
  annotations (undecorate block.toList)

end DocBlock

end ServiceWiring
