import ServiceWiring.Text.Digits
import ServiceWiring.Text.Split
import ServiceWiring.Toml.Syntax

/-!
# Quoted strings of TOML

A string stands between quotation marks, in which a backslash starts an escape, or
between apostrophes, in which every character stands for itself. Between three marks
on either side it may extend over lines: each line break then counts as a line feed,
one directly behind the opening marks does not count, and up to two marks before the
closing ones belong to the string. A backslash at the end of a line takes away all
gaps and line breaks that follow it.

Writing prefers the form without escapes where there is a quotation mark or a
backslash to save and where that form can hold the string, and three marks where the
string has a line feed.
-/

namespace ServiceWiring.Toml

open Text (isGap numeral? occurs)

/-- The form of a string. -/
structure Quoting where
  mark : Char
  /-- Whether backslashes start escapes. -/
  escapes : Bool
  /-- Whether there are three marks on either side. -/
  block : Bool
deriving DecidableEq, Repr

/-- The character that a number of hexadecimal digits at the beginning of a text
denotes, and what follows them. -/
def codePoint? (count : Nat) (text : List Char) : Option (Char × List Char) :=
  if text.length < count then none
  else
    match numeral? 16 (text.take count) with
    | some code => if code.isValidChar then some (Char.ofNat code, text.drop count) else none
    | none => none

/-- The character that a mark behind a backslash stands for. -/
def shortEscape? (c : Char) : Option Char :=
  if c = '"' ∨ c = '\\' then some c
  else if c = 'b' then some '\x08'
  else if c = 't' then some '\t'
  else if c = 'n' then some '\n'
  else if c = 'f' then some '\x0c'
  else if c = 'r' then some '\r'
  else none

/-- The character that an escape stands for, and what follows the escape. -/
def escape? : List Char → Option (Char × List Char)
  | 'u' :: rest => codePoint? 4 rest
  | 'U' :: rest => codePoint? 8 rest
  | mark :: rest => (shortEscape? mark).map fun c => (c, rest)
  | [] => none

/-- Digits make a text no longer. -/
theorem codePoint?_le {count : Nat} {text rest : List Char} {c : Char}
    (found : codePoint? count text = some (c, rest)) : rest.length ≤ text.length := by
  simp only [codePoint?] at found
  repeat' split at found
  all_goals simp only [Option.some.injEq, Prod.mk.injEq, reduceCtorEq] at found
  obtain ⟨_, rfl⟩ := found
  simp

/-- An escape makes a text shorter. -/
theorem escape?_lt {text rest : List Char} {c : Char} (found : escape? text = some (c, rest)) :
    rest.length < text.length := by
  unfold escape? at found
  split at found
  · exact Nat.lt_succ_of_le (codePoint?_le found)
  · exact Nat.lt_succ_of_le (codePoint?_le found)
  · simp only [Option.map_eq_some_iff, Prod.mk.injEq] at found
    obtain ⟨_, _, _, rfl⟩ := found
    simp
  · simp at found

/-- What a mark inside a string closes, if it closes the string: the marks that still
belong to it, and what follows. -/
def Quoting.closing? (quoting : Quoting) (rest : List Char) :
    Option (List Char × List Char) :=
  if !quoting.block then some ([], rest)
  else
    match rest with
    | second :: third :: rest =>
      if second = quoting.mark ∧ third = quoting.mark then
        let more := (rest.take 2).takeWhile (· == quoting.mark)
        some (more, rest.drop more.length)
      else none
    | _ => none

/-- A character before the string that follows it. -/
def keep (c : Char) (read : Option (List Char × List Char)) : Option (List Char × List Char) :=
  read.map fun (text, rest) => (c :: text, rest)

/-- The characters of a string up to its closing marks, and what follows these. After a
backslash at the end of a line, `skipping` tells that gaps and line breaks are left
out. -/
def Quoting.body (quoting : Quoting) (skipping : Bool) (text : List Char) :
    Option (List Char × List Char) :=
  match text with
  | [] => none
  | c :: rest =>
    if c = quoting.mark then
      match quoting.closing? rest with
      | some closed => some closed
      | none => keep c (quoting.body false rest)
    else if quoting.escapes ∧ c = '\\' then
      if quoting.block ∧ (lineBreak? (skipGaps rest)).isSome then quoting.body true rest
      else
        match _found : escape? rest with
        | some (value, rest) => keep value (quoting.body false rest)
        | none => none
    else
      match _found : lineBreak? (c :: rest) with
      | some next =>
        if !quoting.block then none
        else if skipping then quoting.body true next
        else keep '\n' (quoting.body false next)
      | none =>
        if skipping ∧ isGap c then quoting.body true rest
        else if isPlain c then keep c (quoting.body false rest)
        else none
termination_by text.length
decreasing_by
  all_goals first | exact Nat.lt_succ_self _ | exact lineBreak?_lt _found | skip
  all_goals exact Nat.lt_succ_of_lt (escape?_lt _found)

/-- The string at the beginning of a text, and what follows it. -/
def readString? : List Char → Option (List Char × List Char)
  | '"' :: '"' :: '"' :: rest => Quoting.body ⟨'"', true, true⟩ false ((lineBreak? rest).getD rest)
  | '\'' :: '\'' :: '\'' :: rest =>
    Quoting.body ⟨'\'', false, true⟩ false ((lineBreak? rest).getD rest)
  | '"' :: rest => Quoting.body ⟨'"', true, false⟩ false rest
  | '\'' :: rest => Quoting.body ⟨'\'', false, false⟩ false rest
  | _ => none

/-- The form in which a string is written. -/
def Quoting.preferred (text : List Char) : Quoting :=
  let literal := (text.contains '"' || text.contains '\\') &&
    text.all (fun c => c == '\n' || isPlain c) && !occurs ['\'', '\'', '\''] text &&
    text.getLast? != some '\''
  if literal then ⟨'\'', false, text.contains '\n' || text.contains '\''⟩
  else ⟨'"', true, text.contains '\n'⟩

/-- Four or more upper-case hexadecimal digits of a character. -/
def hexadecimal (c : Char) : List Char :=
  let digits := (Nat.toDigits 16 c.toNat).map Char.toUpper
  List.replicate (4 - digits.length) '0' ++ digits

/-- A character between quotation marks. -/
def Quoting.writeChar (quoting : Quoting) (c : Char) : List Char :=
  if !quoting.escapes then [c]
  else if c = '"' ∨ c = '\\' then ['\\', c]
  else if c = '\x08' then ['\\', 'b']
  else if c = '\t' then ['\\', 't']
  else if c = '\n' then if quoting.block then [c] else ['\\', 'n']
  else if c = '\x0c' then ['\\', 'f']
  else if c = '\r' then ['\\', 'r']
  else if isPlain c then [c]
  else '\\' :: 'u' :: hexadecimal c

/-- A string in a form. A line break separates the string from the opening marks where
it has a line feed. -/
def Quoting.write (quoting : Quoting) (text : List Char) : List Char :=
  let marks := List.replicate (if quoting.block then 3 else 1) quoting.mark
  let separation := if quoting.block && text.contains '\n' then ['\n'] else []
  marks ++ separation ++ text.flatMap quoting.writeChar ++ marks

/-- A string in the form that is preferred for it. -/
def writeString (text : String) : List Char :=
  (Quoting.preferred text.toList).write text.toList

example : readString? "\"\"\"\na \\\n  b\"\"\"\"x".toList = some ("a b\"".toList, ['x']) := by
  decide +kernel
example : readString? "'a\\b' ".toList = some ("a\\b".toList, [' ']) := by decide +kernel
example : String.ofList (writeString "a'b\"c\\d") = "'''a'b\"c\\d'''" := by decide +kernel

end ServiceWiring.Toml
