import ServiceWiring.Json.Number
import ServiceWiring.Text.Digits

/-!
# Reading JSON texts

A text is JSON when it holds one value, with blanks around it and around every
mark inside it. Blanks are space, tab, line feed and carriage return. Arrays and
objects nest at most 127 deep. In an object that gives a key more than once the
last value counts, at the place of the first.

Every step returns what is left of the text together with the fact that it is
shorter, so reading ends. A fault tells where the first character that cannot
continue a JSON text was met.
-/

namespace ServiceWiring.Json

open Text (hexValue?)

/-- The characters that may stand between the marks of a text. -/
def isSpace (c : Char) : Bool := c == ' ' || c == '\n' || c == '\t' || c == '\r'

/-- The text from its first character that is not a blank. -/
def skipSpace (text : List Char) : List Char := text.dropWhile isSpace

/-- Skipping blanks makes no text longer. -/
theorem skipSpace_le (text : List Char) : (skipSpace text).length ≤ text.length :=
  length_dropWhile_le isSpace text

/-- The rest of a literal name. -/
def readWord : List Char → (text : List Char) → Except Fault (List Char)
  | [], text => .ok text
  | _ :: _, [] => .error (.here .endInValue [])
  | expected :: word, c :: text =>
    if expected = c then readWord word text else .error (.next .expectedWord (c :: text))

/-- Reading a literal name makes no text longer. -/
theorem readWord_le {word text rest : List Char} (read : readWord word text = .ok rest) :
    rest.length ≤ text.length := by
  induction word generalizing text with
  | nil => simp [readWord] at read; simp [read]
  | cons expected word inductionHypothesis =>
    cases text with
    | nil => simp [readWord] at read
    | cons c text =>
      by_cases same : expected = c
      · simp [readWord, same] at read
        have := inductionHypothesis read
        simp only [List.length_cons]
        omega
      · simp [readWord, same] at read

/-- Four hexadecimal digits. Four bytes are taken at once: where fewer are left
the string has no end, and where they are not digits the fault is behind them. -/
def readHex (text : List Char) : Except Fault (Read Nat text) :=
  if utf8Length (text.take 4) < 4 then .error (.here .endInString [])
  else
    match text with
    | a :: b :: c :: d :: rest =>
      match hexValue? a, hexValue? b, hexValue? c, hexValue? d with
      | some a, some b, some c, some d =>
        .ok ⟨((a * 16 + b) * 16 + c) * 16 + d, rest, by simp only [List.length_cons]; omega⟩
      | _, _, _, _ => .error ⟨.invalidEscape, text, 4⟩
    | _ => .error ⟨.invalidEscape, text, 4⟩

/-- A character given by its code unit, or by two units that form a pair. -/
def readUnit (text : List Char) : Except Fault (Read Char text) := do
  let ⟨unit, rest, shorter⟩ ← readHex text
  if 0xDC00 ≤ unit ∧ unit ≤ 0xDFFF then .error (.here .loneSurrogate rest)
  else if unit < 0xD800 ∨ 0xDBFF < unit then .ok ⟨Char.ofNat unit, rest, shorter⟩
  else
    match rest, shorter with
    | [], _ => .error (.here .endInString [])
    | '\\' :: [], _ => .error (.here .endInString [])
    | '\\' :: 'u' :: afterMark, shorter =>
      let ⟨low, rest, shorterStill⟩ ← readHex afterMark
      if low < 0xDC00 ∨ 0xDFFF < low then .error (.here .loneSurrogate rest)
      else
        .ok ⟨Char.ofNat (0x10000 + (unit - 0xD800) * 0x400 + (low - 0xDC00)), rest, by
          simp only [List.length_cons] at shorter; omega⟩
    | '\\' :: other :: tail, _ => .error (.next .endOfHexEscape (other :: tail))
    | other :: tail, _ => .error (.next .endOfHexEscape (other :: tail))

/-- The character that a short escape stands for. -/
def shortEscape? (c : Char) : Option Char :=
  if c = '"' ∨ c = '\\' ∨ c = '/' then some c
  else if c = 'b' then some '\x08'
  else if c = 'f' then some '\x0c'
  else if c = 'n' then some '\n'
  else if c = 'r' then some '\r'
  else if c = 't' then some '\t'
  else none

/-- What follows a backslash. -/
def readEscape (text : List Char) : Except Fault (Read Char text) :=
  match text with
  | [] => .error (.here .endInString [])
  | 'u' :: rest => do
    let ⟨c, rest, shorter⟩ ← readUnit rest
    .ok ⟨c, rest, by simp only [List.length_cons]; omega⟩
  | mark :: rest =>
    match shortEscape? mark with
    | some c => .ok ⟨c, rest, by simp⟩
    | none => .error (.next .invalidEscape (mark :: rest))

/-- The characters of a string up to its closing quote. -/
def readString (text : List Char) : Except Fault (Read (List Char) text) :=
  match text with
  | [] => .error (.here .endInString [])
  | c :: rest =>
    if c = '"' then .ok ⟨[], rest, Nat.lt_succ_self _⟩
    else if c = '\\' then
      match readEscape rest with
      | .error fault => .error fault
      | .ok ⟨first, rest, shorter⟩ =>
        match readString rest with
        | .error fault => .error fault
        | .ok ⟨more, rest, shorterStill⟩ =>
          .ok ⟨first :: more, rest, Nat.lt_succ_of_lt (Nat.lt_trans shorterStill shorter)⟩
    else if c.toNat < 0x20 then .error (.next .controlCharacter (c :: rest))
    else
      match readString rest with
      | .error fault => .error fault
      | .ok ⟨more, rest, shorter⟩ => .ok ⟨c :: more, rest, Nat.lt_succ_of_lt shorter⟩
termination_by text.length
decreasing_by all_goals simp_all only [List.length_cons]; omega

/-- A function that reads one value from the beginning of a text. -/
abbrev ValueReader := (text : List Char) → Except Fault (Read Json text)

/-- The items of an array after the first, up to its closing bracket. -/
def readItems (value : ValueReader) (text : List Char) :
    Except Fault (Read (List Json) text) :=
  match skipped : skipSpace text with
  | [] => .error (.next .endInList [])
  | mark :: rest =>
    have reached : rest.length < text.length := by
      have := skipSpace_le text
      rw [skipped, List.length_cons] at this
      omega
    if mark = ']' then .ok ⟨[], rest, reached⟩
    else if mark = ',' then
      match skippedAgain : skipSpace rest with
      | [] => .error (.next .endInValue [])
      | first :: tail =>
        have started : (first :: tail).length ≤ rest.length := skippedAgain ▸ skipSpace_le rest
        if first = ']' then .error (.next .trailingComma (first :: tail))
        else
          match value (first :: tail) with
          | .error fault => .error fault
          | .ok ⟨item, rest, shorter⟩ =>
            match readItems value rest with
            | .error fault => .error fault
            | .ok ⟨items, rest, shorterStill⟩ => .ok ⟨item :: items, rest, by omega⟩
    else .error (.next .expectedListCommaOrEnd (mark :: rest))
termination_by text.length

/-- An array after its opening bracket. -/
def readArray (value : ValueReader) (text : List Char) :
    Except Fault (Read (List Json) text) :=
  match skipped : skipSpace text with
  | [] => .error (.next .endInList [])
  | first :: tail =>
    have started : (first :: tail).length ≤ text.length := skipped ▸ skipSpace_le text
    if first = ']' then
      .ok ⟨[], tail, by simp only [List.length_cons] at started; omega⟩
    else
      match value (first :: tail) with
      | .error fault => .error fault
      | .ok ⟨item, rest, shorter⟩ =>
        match readItems value rest with
        | .error fault => .error fault
        | .ok ⟨items, rest, shorterStill⟩ => .ok ⟨item :: items, rest, by omega⟩

/-- One entry of an object from the opening quote of its key. -/
def readEntry (value : ValueReader) (text : List Char) :
    Except Fault (Read (String × Json) text) :=
  match text with
  | [] => .error (.next .endInValue [])
  | '"' :: afterQuote =>
    match readString afterQuote with
    | .error fault => .error fault
    | .ok ⟨key, afterKey, keyShorter⟩ =>
      match skipped : skipSpace afterKey with
      | [] => .error (.next .endInObject [])
      | mark :: afterMark =>
        have reached : (mark :: afterMark).length ≤ afterKey.length :=
          skipped ▸ skipSpace_le afterKey
        if mark = ':' then
          match value afterMark with
          | .error fault => .error fault
          | .ok ⟨item, rest, shorter⟩ =>
            .ok ⟨(String.ofList key, item), rest, by
              simp only [List.length_cons] at reached ⊢; omega⟩
        else .error (.next .expectedColon (mark :: afterMark))
  | other :: tail => .error (.next .keyMustBeString (other :: tail))

/-- The entries of an object after the first, up to its closing brace. -/
def readEntries (value : ValueReader) (text : List Char) :
    Except Fault (Read (List (String × Json)) text) :=
  match skipped : skipSpace text with
  | [] => .error (.next .endInObject [])
  | mark :: rest =>
    have reached : rest.length < text.length := by
      have := skipSpace_le text
      rw [skipped, List.length_cons] at this
      omega
    if mark = '\x7d' then .ok ⟨[], rest, reached⟩
    else if mark = ',' then
      match skippedAgain : skipSpace rest with
      | [] => .error (.next .endInValue [])
      | first :: tail =>
        have started : (first :: tail).length ≤ rest.length := skippedAgain ▸ skipSpace_le rest
        if first = '\x7d' then .error (.next .trailingComma (first :: tail))
        else
          match readEntry value (first :: tail) with
          | .error fault => .error fault
          | .ok ⟨entry, rest, shorter⟩ =>
            match readEntries value rest with
            | .error fault => .error fault
            | .ok ⟨entries, rest, shorterStill⟩ => .ok ⟨entry :: entries, rest, by omega⟩
    else .error (.next .expectedObjectCommaOrEnd (mark :: rest))
termination_by text.length

/-- An object after its opening brace. -/
def readObject (value : ValueReader) (text : List Char) :
    Except Fault (Read (List (String × Json)) text) :=
  match skipped : skipSpace text with
  | [] => .error (.next .endInObject [])
  | first :: tail =>
    have started : (first :: tail).length ≤ text.length := skipped ▸ skipSpace_le text
    if first = '\x7d' then
      .ok ⟨[], tail, by simp only [List.length_cons] at started; omega⟩
    else
      match readEntry value (first :: tail) with
      | .error fault => .error fault
      | .ok ⟨entry, rest, shorter⟩ =>
        match readEntries value rest with
        | .error fault => .error fault
        | .ok ⟨entries, rest, shorterStill⟩ => .ok ⟨entry :: entries, rest, by omega⟩

/-- A literal name from its second letter. -/
def readName (word : List Char) (meaning : Json) (text : List Char) :
    Except Fault (Read Json text) :=
  match text with
  | [] => .error (.here .endInValue [])
  | first :: tail =>
    match read : readWord word tail with
    | .error fault => .error fault
    | .ok rest => .ok ⟨meaning, rest, by
        have := readWord_le read; simp only [List.length_cons]; omega⟩

/-- A number from its sign or its first digit. -/
def readNumeral (text : List Char) : Except Fault (Read Json text) :=
  match text with
  | '-' :: tail =>
    match read : readNumber true tail with
    | .error fault => .error fault
    | .ok (number, rest) => .ok ⟨number, rest, by
        have := readNumber_lt read; simp only [List.length_cons]; omega⟩
  | unsigned =>
    match read : readNumber false unsigned with
    | .error fault => .error fault
    | .ok (number, rest) => .ok ⟨number, rest, readNumber_lt read⟩

/-- A value that starts at the first character. `depth` is how many containers
may still be opened. -/
def readValueAt : (depth : Nat) → ValueReader
  | depth, text =>
    match text with
    | [] => .error (.next .endInValue [])
    | first :: tail =>
      if first = 'n' then readName ['u', 'l', 'l'] .null (first :: tail)
      else if first = 't' then readName ['r', 'u', 'e'] (.bool true) (first :: tail)
      else if first = 'f' then readName ['a', 'l', 's', 'e'] (.bool false) (first :: tail)
      else if first = '-' ∨ first.isDigit then readNumeral (first :: tail)
      else if first = '"' then
        match readString tail with
        | .error fault => .error fault
        | .ok ⟨characters, rest, shorter⟩ =>
          .ok ⟨.str (String.ofList characters), rest, by simp only [List.length_cons]; omega⟩
      else if first = '[' then
        match depth with
        | 0 => .error (.next .nestingTooDeep (first :: tail))
        | inner + 1 =>
          match readArray (afterSpace (readValueAt inner)) tail with
          | .error fault => .error fault
          | .ok ⟨items, rest, shorter⟩ =>
            .ok ⟨.arr items, rest, by simp only [List.length_cons]; omega⟩
      else if first = '\x7b' then
        match depth with
        | 0 => .error (.next .nestingTooDeep (first :: tail))
        | inner + 1 =>
          match readObject (afterSpace (readValueAt inner)) tail with
          | .error fault => .error fault
          | .ok ⟨entries, rest, shorter⟩ =>
            .ok ⟨.obj (Keyed.ofPairs entries), rest, by simp only [List.length_cons]; omega⟩
      else .error (.next .expectedValue (first :: tail))
where
  /-- A value with blanks before it. -/
  afterSpace (value : ValueReader) : ValueReader := fun text =>
    match value (skipSpace text) with
    | .error fault => .error fault
    | .ok ⟨item, rest, shorter⟩ =>
      .ok ⟨item, rest, by have := skipSpace_le text; omega⟩

/-- How many containers may be open at once. -/
def depthLimit : Nat := 127

/-- The value of a JSON text. -/
def parse (text : List Char) : Except Fault Json :=
  match readValueAt depthLimit (skipSpace text) with
  | .error fault => .error fault
  | .ok ⟨value, rest, _⟩ =>
    match skipSpace rest with
    | [] => .ok value
    | extra => .error (.next .trailingCharacters extra)

end ServiceWiring.Json
