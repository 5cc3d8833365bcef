import ServiceWiring.Text.Bytes

/-!
# Class bodies byte by byte

The members of a class body, collected from the bytes of its text from offset to offset.
Strings, comments and attribute groups are skipped, with one space in the place of each, braces
and brackets are counted, and the bytes between them are kept one by one where one brace is
open. The bytes need not be those of a text, and what is broken off ends with them.

A count that would go below zero is a fault of its own. Every skip ends behind its start and not
past the end, so collecting ends whatever the bytes are.
-/

namespace ServiceWiring.Source.Bytes

open Text (byte)

/-- What is counted. -/
inductive Counted
  | brackets
  | braces
deriving DecidableEq, Repr

/-- A count that goes down by one. It must not go below zero. -/
def lowered (counted : Counted) : Nat → Except Counted Nat
  | 0 => .error counted
  | count + 1 => .ok count

/-- Whether a byte starts a string. -/
def startsString (b : UInt8) : Bool := b == byte '\'' || b == byte '"'

/-- The offset behind a string that is read from an offset on. -/
def stringEnd (bytes : List UInt8) (quote : UInt8) (offset : Nat) : Nat :=
  match _here : bytes[offset]? with
  | none => bytes.length
  | some b =>
    if b = byte '\\' then stringEnd bytes quote (offset + 2)
    else if b = quote then offset + 1
    else stringEnd bytes quote (offset + 1)
termination_by bytes.length - offset
decreasing_by
  all_goals
    have := (List.getElem?_eq_some_iff.mp _here).1
    omega

/-- What a byte does in a string. -/
theorem stringEnd_at {bytes : List UInt8} {offset : Nat} {b : UInt8}
    (here : bytes[offset]? = some b) (quote : UInt8) :
    stringEnd bytes quote offset =
      if b = byte '\\' then stringEnd bytes quote (offset + 2)
      else if b = quote then offset + 1
      else stringEnd bytes quote (offset + 1) := by
  rw [stringEnd]
  split
  · simp_all
  · rename_i other found
    obtain rfl := Option.some.inj (here.symm.trans found)
    rfl

/-- The offset of the next line feed. -/
def lineEnd (bytes : List UInt8) (offset : Nat) : Nat :=
  match _here : bytes[offset]? with
  | none => bytes.length
  | some b => if b = byte '\n' then offset else lineEnd bytes (offset + 1)
termination_by bytes.length - offset
decreasing_by
  have := (List.getElem?_eq_some_iff.mp _here).1
  omega

/-- What a byte does in a line. -/
theorem lineEnd_at {bytes : List UInt8} {offset : Nat} {b : UInt8}
    (here : bytes[offset]? = some b) :
    lineEnd bytes offset = if b = byte '\n' then offset else lineEnd bytes (offset + 1) := by
  rw [lineEnd]
  split
  · simp_all
  · rename_i other found
    obtain rfl := Option.some.inj (here.symm.trans found)
    rfl

/-- The offset behind a block comment that is read from an offset on. -/
def commentEnd (bytes : List UInt8) (offset : Nat) : Nat :=
  match _next : bytes[offset + 1]? with
  | none => bytes.length
  | some next =>
    if bytes[offset]? = some (byte '*') ∧ next = byte '/' then offset + 2
    else commentEnd bytes (offset + 1)
termination_by bytes.length - offset
decreasing_by
  have := (List.getElem?_eq_some_iff.mp _next).1
  omega

/-- What a byte does in a block comment: with the byte behind it, it may be the end mark. -/
theorem commentEnd_at {bytes : List UInt8} {offset : Nat} {b : UInt8}
    (here : bytes[offset]? = some b) :
    commentEnd bytes offset =
      if b = byte '*' ∧ bytes[offset + 1]? = some (byte '/') then offset + 2
      else commentEnd bytes (offset + 1) := by
  have inside := (List.getElem?_eq_some_iff.mp here).1
  rw [commentEnd]
  split
  · rename_i ends
    have last : bytes[offset + 1 + 1]? = none := by
      rw [List.getElem?_eq_none_iff] at ends ⊢
      omega
    rw [ends, if_neg (by simp), commentEnd, last]
  · rename_i next found
    simp only [here, found, Option.some_inj]

/-- A string ends behind the offset from which it is read, unless that is past the end. -/
theorem stringEnd_bounds (bytes : List UInt8) (quote : UInt8) (offset : Nat) :
    min offset bytes.length ≤ stringEnd bytes quote offset ∧
      stringEnd bytes quote offset ≤ bytes.length := by
  fun_induction stringEnd bytes quote offset with
  | case1 offset none =>
    omega
  | case2 offset here inductionHypothesis =>
    omega
  | case3 offset here noEscape =>
    have := (List.getElem?_eq_some_iff.mp here).1
    omega
  | case4 offset b here noEscape noQuote inductionHypothesis =>
    omega

/-- The offset behind an attribute group of which some brackets are open. -/
def attributeEnd (bytes : List UInt8) (depth offset : Nat) : Except Counted Nat :=
  match _here : bytes[offset]? with
  | none => .ok bytes.length
  | some b =>
    if startsString b then attributeEnd bytes depth (stringEnd bytes b (offset + 1))
    else if b = byte '[' then attributeEnd bytes (depth + 1) (offset + 1)
    else if b = byte ']' then
      match lowered .brackets depth with
      | .error counted => .error counted
      | .ok 0 => .ok (offset + 1)
      | .ok (depth + 1) => attributeEnd bytes (depth + 1) (offset + 1)
    else attributeEnd bytes depth (offset + 1)
termination_by bytes.length - offset
decreasing_by
  all_goals
    have inside := (List.getElem?_eq_some_iff.mp _here).1
  · have := stringEnd_bounds bytes b (offset + 1)
    omega
  all_goals omega

/-- What a byte does in an attribute group. -/
theorem attributeEnd_at {bytes : List UInt8} {offset : Nat} {b : UInt8}
    (here : bytes[offset]? = some b) (depth : Nat) :
    attributeEnd bytes depth offset =
      if startsString b then attributeEnd bytes depth (stringEnd bytes b (offset + 1))
      else if b = byte '[' then attributeEnd bytes (depth + 1) (offset + 1)
      else if b = byte ']' then
        match lowered .brackets depth with
        | .error counted => .error counted
        | .ok 0 => .ok (offset + 1)
        | .ok (depth + 1) => attributeEnd bytes (depth + 1) (offset + 1)
      else attributeEnd bytes depth (offset + 1) := by
  rw [attributeEnd]
  split
  · simp_all
  · rename_i other found
    obtain rfl := Option.some.inj (here.symm.trans found)
    rfl

/-- The offset up to which something is skipped at an offset, if there is something to skip. -/
def skippedTo (bytes : List UInt8) (offset : Nat) : Except Counted (Option Nat) :=
  match bytes[offset]?, bytes[offset + 1]? with
  | none, _ => .ok none
  | some b, next =>
    if startsString b then .ok (some (stringEnd bytes b (offset + 1)))
    else if b = byte '/' ∧ next = some (byte '/') then .ok (some (lineEnd bytes offset))
    else if b = byte '/' ∧ next = some (byte '*') then .ok (some (commentEnd bytes (offset + 2)))
    else if b = byte '#' ∧ next = some (byte '[') then
      (attributeEnd bytes 0 (offset + 1)).map some
    else if b = byte '#' then .ok (some (lineEnd bytes offset))
    else .ok none

/-! ## Every skip advances -/

/-- Whether a skip from an offset ends behind it, and not past the end. -/
def Advances (bytes : List UInt8) (start next : Nat) : Prop := start < next ∧ next ≤ bytes.length

/-- A string ends behind its quote. -/
theorem advances_stringEnd {bytes : List UInt8} {start : Nat} (inside : start < bytes.length)
    (quote : UInt8) : Advances bytes start (stringEnd bytes quote (start + 1)) := by
  have := stringEnd_bounds bytes quote (start + 1)
  exact ⟨by omega, by omega⟩

/-- A line ends at or behind the offset from which it is read. -/
theorem lineEnd_bounds (bytes : List UInt8) (offset : Nat) (inside : offset ≤ bytes.length) :
    offset ≤ lineEnd bytes offset ∧ lineEnd bytes offset ≤ bytes.length := by
  fun_induction lineEnd bytes offset with
  | case1 offset none => omega
  | case2 offset here => omega
  | case3 offset b here noFeed inductionHypothesis =>
    have := (List.getElem?_eq_some_iff.mp here).1
    omega

/-- A line ends behind its first byte, if that is no line feed. -/
theorem advances_lineEnd {bytes : List UInt8} {start : Nat} {b : UInt8}
    (here : bytes[start]? = some b) (noFeed : b ≠ byte '\n') :
    Advances bytes start (lineEnd bytes start) := by
  have inside := (List.getElem?_eq_some_iff.mp here).1
  have bounds := lineEnd_bounds bytes (start + 1) inside
  rw [lineEnd_at here, if_neg noFeed]
  exact ⟨by omega, bounds.2⟩

/-- A block comment ends at or behind the offset from which it is read. -/
theorem commentEnd_bounds (bytes : List UInt8) (offset : Nat) (inside : offset ≤ bytes.length) :
    offset ≤ commentEnd bytes offset ∧ commentEnd bytes offset ≤ bytes.length := by
  fun_induction commentEnd bytes offset with
  | case1 offset none => omega
  | case2 offset next here marks =>
    have := (List.getElem?_eq_some_iff.mp here).1
    omega
  | case3 offset next here different inductionHypothesis =>
    have := (List.getElem?_eq_some_iff.mp here).1
    omega

/-- A block comment ends behind its marks. -/
theorem advances_commentEnd {bytes : List UInt8} {start : Nat} {b : UInt8}
    (mark : bytes[start + 1]? = some b) : Advances bytes start (commentEnd bytes (start + 2)) := by
  have within := (List.getElem?_eq_some_iff.mp mark).1
  have bounds := commentEnd_bounds bytes (start + 2) within
  exact ⟨by omega, bounds.2⟩

/-- A count above zero goes down. -/
theorem lowered_of_pos (counted : Counted) {count : Nat} (positive : 0 < count) :
    lowered counted count = .ok (count - 1) := by
  cases count with
  | zero => omega
  | succ count => rfl

/-- While a bracket is open, brackets are counted without going below zero, and the group ends
behind the offset from which it is read. -/
theorem exists_attributeEnd (bytes : List UInt8) (depth offset : Nat) (opened : 0 < depth)
    (inside : offset ≤ bytes.length) :
    ∃ next, attributeEnd bytes depth offset = .ok next ∧ offset ≤ next ∧ next ≤ bytes.length := by
  fun_induction attributeEnd bytes depth offset with
  | case1 depth offset none => exact ⟨bytes.length, rfl, inside, Nat.le_refl _⟩
  | case2 depth offset b here string inductionHypothesis =>
    have within := (List.getElem?_eq_some_iff.mp here).1
    obtain ⟨passed, bounded⟩ := advances_stringEnd within b
    obtain ⟨next, ends, behind, most⟩ := inductionHypothesis opened bounded
    exact ⟨next, ends, by omega, most⟩
  | case3 depth offset here noString inductionHypothesis =>
    have within := (List.getElem?_eq_some_iff.mp here).1
    obtain ⟨next, ends, behind, most⟩ := inductionHypothesis (Nat.succ_pos depth) within
    exact ⟨next, ends, by omega, most⟩
  | case4 depth offset counted below =>
    rw [lowered_of_pos _ opened] at below
    cases below
  | case5 depth offset last here =>
    have within := (List.getElem?_eq_some_iff.mp here).1
    exact ⟨offset + 1, rfl, by omega, within⟩
  | case6 depth offset remaining further here noString noOpening inductionHypothesis =>
    have within := (List.getElem?_eq_some_iff.mp here).1
    obtain ⟨next, ends, behind, most⟩ := inductionHypothesis (Nat.succ_pos remaining) within
    exact ⟨next, ends, by omega, most⟩
  | case7 depth offset b here noString noOpening noClosing inductionHypothesis =>
    have within := (List.getElem?_eq_some_iff.mp here).1
    obtain ⟨next, ends, behind, most⟩ := inductionHypothesis opened within
    exact ⟨next, ends, by omega, most⟩

/-- An attribute group ends behind its hash sign, and its brackets are counted without going
below zero. -/
theorem advances_attributeEnd {bytes : List UInt8} {start : Nat}
    (bracket : bytes[start + 1]? = some (byte '[')) :
    ∃ next, attributeEnd bytes 0 (start + 1) = .ok next ∧ Advances bytes start next := by
  have within := (List.getElem?_eq_some_iff.mp bracket).1
  have first : attributeEnd bytes 0 (start + 1) = attributeEnd bytes 1 (start + 2) :=
    attributeEnd_at bracket 0
  obtain ⟨next, ends, behind, most⟩ := exists_attributeEnd bytes 1 (start + 2) Nat.one_pos within
  exact ⟨next, first.trans ends, by omega, most⟩

/-- Every skip from an offset advances: of a string, a line comment, a block comment or an
attribute group that starts there. -/
structure SkipsAdvance (bytes : List UInt8) : Prop where
  string : ∀ start quote, bytes[start]? = some quote → startsString quote = true →
    Advances bytes start (stringEnd bytes quote (start + 1))
  line : ∀ start mark, bytes[start]? = some mark → mark = byte '/' ∨ mark = byte '#' →
    Advances bytes start (lineEnd bytes start)
  block : ∀ start, bytes[start]? = some (byte '/') → bytes[start + 1]? = some (byte '*') →
    Advances bytes start (commentEnd bytes (start + 2))
  group : ∀ start, bytes[start]? = some (byte '#') → bytes[start + 1]? = some (byte '[') →
    ∃ next, attributeEnd bytes 0 (start + 1) = .ok next ∧ Advances bytes start next

/-- Every skip advances, whatever the bytes. -/
theorem skipsAdvance (bytes : List UInt8) : SkipsAdvance bytes where
  string _ quote here _ := advances_stringEnd (List.getElem?_eq_some_iff.mp here).1 quote
  line _ mark here isMark := advances_lineEnd here (by rcases isMark with rfl | rfl <;> decide)
  block _ _ star := advances_commentEnd star
  group _ _ bracket := advances_attributeEnd bracket

/-- Whatever is skipped at an offset, the skip advances, and nothing is counted below zero. -/
theorem skippedTo_advances (bytes : List UInt8) (offset : Nat) :
    ∃ skipped, skippedTo bytes offset = .ok skipped ∧
      ∀ next, skipped = some next → Advances bytes offset next := by
  cases here : bytes[offset]? with
  | none => exact ⟨none, by simp [skippedTo, here], by simp⟩
  | some b =>
    have advances := skipsAdvance bytes
    have skips : ∀ {end_}, Advances bytes offset end_ →
        ∀ next, some end_ = some next → Advances bytes offset next := by
      rintro _ ahead _ ⟨⟩
      exact ahead
    simp only [skippedTo, here]
    split
    · rename_i string
      exact ⟨_, rfl, skips (advances.string offset b here string)⟩
    · split
      · rename_i line
        exact ⟨_, rfl, skips (advances.line offset b here (.inl line.1))⟩
      · split
        · rename_i comment
          obtain ⟨rfl, star⟩ := comment
          exact ⟨_, rfl, skips (advances.block offset here star)⟩
        · split
          · rename_i group
            obtain ⟨rfl, bracket⟩ := group
            obtain ⟨next, ends, ahead⟩ := advances.group offset here bracket
            exact ⟨some next, by rw [ends]; rfl, skips ahead⟩
          · split
            · rename_i hash
              exact ⟨_, rfl, skips (advances.line offset b here (.inr hash))⟩
            · exact ⟨none, rfl, by simp⟩

/-! ## Collecting -/

/-- What has been collected, with some bytes before it if they are kept. -/
def withKept (keeps : Bool) (kept collected : List UInt8) : List UInt8 :=
  if keeps then kept ++ collected else collected

/-- The bytes at the first level of a body, collected from an offset on, with some braces open. -/
def collect (bytes : List UInt8) (depth offset : Nat) : Except Counted (List UInt8) :=
  match _here : bytes[offset]? with
  | none => .ok []
  | some b =>
    match _skip : skippedTo bytes offset with
    | .error counted => .error counted
    | .ok (some next) => (collect bytes depth next).map (withKept (depth == 1) [byte ' '])
    | .ok none =>
      if b = byte '\x7b' then
        (collect bytes (depth + 1) (offset + 1)).map (withKept (depth + 1 == 2) [byte ' '])
      else if b = byte '\x7d' then
        if depth = 0 then collect bytes 0 (offset + 1)
        else if depth = 1 then .ok []
        else
          match lowered .braces depth with
          | .error counted => .error counted
          | .ok depth => collect bytes depth (offset + 1)
      else (collect bytes depth (offset + 1)).map (withKept (depth == 1) [b])
termination_by bytes.length - offset
decreasing_by
  all_goals have inside := (List.getElem?_eq_some_iff.mp _here).1
  · obtain ⟨skipped, same, advances⟩ := skippedTo_advances bytes offset
    rw [_skip] at same
    obtain ⟨ahead, most⟩ := advances next (Except.ok.inj same).symm
    omega
  all_goals omega

/-- What a byte does in a body. -/
theorem collect_at {bytes : List UInt8} {offset : Nat} {b : UInt8}
    (here : bytes[offset]? = some b) (depth : Nat) :
    collect bytes depth offset =
      match skippedTo bytes offset with
      | .error counted => .error counted
      | .ok (some next) => (collect bytes depth next).map (withKept (depth == 1) [byte ' '])
      | .ok none =>
        if b = byte '\x7b' then
          (collect bytes (depth + 1) (offset + 1)).map (withKept (depth + 1 == 2) [byte ' '])
        else if b = byte '\x7d' then
          if depth = 0 then collect bytes 0 (offset + 1)
          else if depth = 1 then .ok []
          else
            match lowered .braces depth with
            | .error counted => .error counted
            | .ok depth => collect bytes depth (offset + 1)
        else (collect bytes depth (offset + 1)).map (withKept (depth == 1) [b]) := by
  rw [collect]
  split
  · simp_all
  · rename_i other found
    obtain rfl := Option.some.inj (here.symm.trans found)
    split <;> rename_i same <;> rw [same]

end ServiceWiring.Source.Bytes
