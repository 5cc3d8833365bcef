import Mathlib.Data.List.Basic
import ServiceWiring.Proofs.Json.Atoms
import ServiceWiring.Proofs.Keyed

/-!
# The values that JSON texts denote

A value that is read from a text is one that a text can denote: its integers fit into 64
bits, no object has a key twice, and it nests no deeper than the reader allows. How deep
that is does not matter otherwise: a reader that allows more reads the same value.

The main statements say so for readers of any allowance.
-/

namespace ServiceWiring.Json

/-- Whether a text can denote a value, if its binary64 numbers have a literal. -/
inductive Denotable : Json → Prop
  | null : Denotable .null
  | bool (value : Bool) : Denotable (.bool value)
  | int {value : Int} (least : -9223372036854775808 ≤ value) (greatest : value ≤ wordLimit) :
    Denotable (.int value)
  | double (value : Decimal.Binary64) : Denotable (.double value)
  | str (value : String) : Denotable (.str value)
  | arr {items : List Json} (each : ∀ item ∈ items, Denotable item) : Denotable (.arr items)
  | obj {entries : List (String × Json)} (distinct : (Keyed.keys entries).Nodup)
    (each : ∀ entry ∈ entries, Denotable entry.2) : Denotable (.obj entries)

mutual

/-- How many containers stand inside one another in a value. -/
def nesting : Json → Nat
  | arr items => nestingOfItems items + 1
  | obj entries => nestingOfEntries entries + 1
  | _ => 0

/-- The nesting of the deepest item. -/
def nestingOfItems : List Json → Nat
  | [] => 0
  | item :: items => max (nesting item) (nestingOfItems items)

/-- The nesting of the deepest value in an object. -/
def nestingOfEntries : List (String × Json) → Nat
  | [] => 0
  | (_, value) :: entries => max (nesting value) (nestingOfEntries entries)

end

mutual

/-- Whether there is a binary64 number in a value. -/
def hasDouble : Json → Bool
  | double _ => true
  | arr items => itemsHaveDouble items
  | obj entries => entriesHaveDouble entries
  | _ => false

/-- Whether there is a binary64 number in one of some values. -/
def itemsHaveDouble : List Json → Bool
  | [] => false
  | item :: items => hasDouble item || itemsHaveDouble items

/-- Whether there is a binary64 number in a value of an object. -/
def entriesHaveDouble : List (String × Json) → Bool
  | [] => false
  | (_, value) :: entries => hasDouble value || entriesHaveDouble entries

end

/-- No item nests deeper than the items do. -/
theorem nestingOfItems_le_iff {items : List Json} {depth : Nat} :
    nestingOfItems items ≤ depth ↔ ∀ item ∈ items, item.nesting ≤ depth := by
  induction items with
  | nil => simp [nestingOfItems]
  | cons item items inductionHypothesis =>
    rw [nestingOfItems, Nat.max_le, inductionHypothesis, List.forall_mem_cons]

/-- No value of an object nests deeper than the entries do. -/
theorem nestingOfEntries_le_iff {entries : List (String × Json)} {depth : Nat} :
    nestingOfEntries entries ≤ depth ↔ ∀ entry ∈ entries, entry.2.nesting ≤ depth := by
  induction entries with
  | nil => simp [nestingOfEntries]
  | cons entry entries inductionHypothesis =>
    rw [nestingOfEntries, Nat.max_le, inductionHypothesis, List.forall_mem_cons]

/-- An array nests one level deeper than its items. -/
theorem nesting_arr_le_iff {items : List Json} {depth : Nat} :
    (arr items).nesting ≤ depth ↔
      ∃ inner, depth = inner + 1 ∧ ∀ item ∈ items, item.nesting ≤ inner := by
  rw [nesting]
  cases depth with
  | zero => simp
  | succ inner => simp [nestingOfItems_le_iff]

/-- An object nests one level deeper than its values. -/
theorem nesting_obj_le_iff {entries : List (String × Json)} {depth : Nat} :
    (obj entries).nesting ≤ depth ↔
      ∃ inner, depth = inner + 1 ∧ ∀ entry ∈ entries, entry.2.nesting ≤ inner := by
  rw [nesting]
  cases depth with
  | zero => simp
  | succ inner => simp [nestingOfEntries_le_iff]

/-- Items have no binary64 number if none of them has one. -/
theorem itemsHaveDouble_eq_false_iff {items : List Json} :
    itemsHaveDouble items = false ↔ ∀ item ∈ items, item.hasDouble = false := by
  induction items with
  | nil => simp [itemsHaveDouble]
  | cons item items inductionHypothesis =>
    rw [itemsHaveDouble, Bool.or_eq_false_iff, inductionHypothesis, List.forall_mem_cons]

/-- Entries have no binary64 number if no value of theirs has one. -/
theorem entriesHaveDouble_eq_false_iff {entries : List (String × Json)} :
    entriesHaveDouble entries = false ↔ ∀ entry ∈ entries, entry.2.hasDouble = false := by
  induction entries with
  | nil => simp [entriesHaveDouble]
  | cons entry entries inductionHypothesis =>
    rw [entriesHaveDouble, Bool.or_eq_false_iff, inductionHypothesis, List.forall_mem_cons]

/-! ## What is read -/

section Parts

variable {α : Type} {part other : Reading α} {close : Char}

/-- What holds of every part that is read holds of the parts of a series. -/
theorem Series.forall {property : α → Prop}
    (each : ∀ {text item rest}, part text item rest → property item) {text rest : List Char}
    {items : List α} (series : Series part close text items rest) :
    ∀ item ∈ items, property item := by
  induction series with
  | finish => simp
  | next _ _ first _ inductionHypothesis =>
    rw [List.forall_mem_cons]
    exact ⟨each first, inductionHypothesis⟩

/-- What holds of every part that is read holds of the parts of a container. -/
theorem Bracketed.forall {property : α → Prop}
    (each : ∀ {text item rest}, part text item rest → property item) {text rest : List Char}
    {items : List α} (bracketed : Bracketed part close text items rest) :
    ∀ item ∈ items, property item := by
  cases bracketed with
  | empty => simp
  | parts _ first others =>
    rw [List.forall_mem_cons]
    exact ⟨each first, others.forall fun read => each read⟩

variable (wider : ∀ {text item rest}, part text item rest → other text item rest)
include wider

/-- A series is read where more parts are. -/
theorem Series.mono {text rest : List Char} {items : List α}
    (series : Series part close text items rest) : Series other close text items rest := by
  induction series with
  | finish closing => exact .finish closing
  | next comma present first _ inductionHypothesis =>
    exact .next comma present (wider first) inductionHypothesis

/-- A container is read where more parts are. -/
theorem Bracketed.mono {text rest : List Char} {items : List α}
    (bracketed : Bracketed part close text items rest) :
    Bracketed other close text items rest := by
  cases bracketed with
  | empty closing => exact .empty closing
  | parts present first others => exact .parts present (wider first) (others.mono wider)

end Parts

/-- Digits that fit do not exceed the limit. -/
theorem fitDigits_le {limit number : Nat} (fits : number ≤ limit) (digits : List Char) :
    (fitDigits limit number digits).1 ≤ limit := by
  induction digits generalizing number with
  | nil => exact fits
  | cons digit digits inductionHypothesis =>
    rw [fitDigits]
    split
    · exact fits
    · rename_i more
      exact inductionHypothesis (Nat.not_lt.mp more)

/-- The value of a literal can be denoted, and is no container. -/
theorem value?_spec {negative : Bool} {literal : Literal} {value : Json}
    (fits : literal.significand ≤ wordLimit) (meant : literal.value? negative = some value) :
    value.Denotable ∧ value.nesting = 0 := by
  have scaled : ∀ code : Option Nat,
      code.map (fun code => Json.double ⟨negative, code⟩) = some value →
        value.Denotable ∧ value.nesting = 0 := by
    intro code found
    obtain ⟨code, _, rfl⟩ := Option.map_eq_some_iff.mp found
    exact ⟨.double _, rfl⟩
  unfold Literal.value? at meant
  split at meant
  · exact scaled _ meant
  split at meant
  · exact scaled _ meant
  split at meant
  · cases meant
    exact ⟨.int (by omega) (by omega), rfl⟩
  split at meant
  · cases meant
    exact ⟨.double _, rfl⟩
  · rename_i inRange
    cases meant
    have least : ¬9223372036854775808 < literal.significand := fun beyond =>
      inRange (.inr beyond)
    exact ⟨.int (by omega) (by omega), rfl⟩

/-- A number with an exponent is a binary64 number. -/
theorem readExponent_spec {negative : Bool} {literal : Literal} {text rest : List Char}
    {value : Json} (read : readExponent negative literal text = .ok (value, rest)) :
    value.Denotable ∧ value.nesting = 0 := by
  suffices double : ∃ number, value = .double number by
    obtain ⟨number, rfl⟩ := double
    exact ⟨.double number, rfl⟩
  rw [readExponent.eq_def] at read
  split at read
  split at read
  · cases read
  split at read
  · cases read
  dsimp only at read
  split at read
  · split at read
    · cases read
    · cases read
      exact ⟨_, rfl⟩
  · split at read
    · cases read
      exact ⟨_, rfl⟩
    · cases read

/-- A number that is read can be denoted, and is no container. -/
theorem readNumber_spec {negative : Bool} {text rest : List Char} {value : Json}
    (read : readNumber negative text = .ok (value, rest)) :
    value.Denotable ∧ value.nesting = 0 := by
  have scale : ∀ {literal : Literal} {text}, literal.significand ≤ wordLimit →
      readScale negative literal text = .ok (value, rest) →
        value.Denotable ∧ value.nesting = 0 := by
    intro literal text fits read
    have finished : readScale.finish negative literal text = .ok (value, rest) →
        value.Denotable ∧ value.nesting = 0 := by
      intro read
      unfold readScale.finish at read
      split at read
      · rename_i meant
        cases read
        exact value?_spec fits meant
      · cases read
    unfold readScale at read
    split at read
    · split at read
      · exact readExponent_spec read
      · exact finished read
    · exact finished read
  have fraction : ∀ {significand dropped : Nat} {text}, significand ≤ wordLimit →
      readFraction negative significand dropped text = .ok (value, rest) →
        value.Denotable ∧ value.nesting = 0 := by
    intro significand dropped text fits read
    unfold readFraction at read
    split at read
    · dsimp only at read
      split at read
      · cases read
      · exact scale (fitDigits_le fits _) read
    · exact scale fits read
  unfold readNumber at read
  split at read
  · cases read
  · split at read
    · split at read
      · cases read
      · exact fraction (Nat.zero_le _) read
    · exact fraction (Nat.zero_le _) read
  · split at read
    · cases read
    · exact fraction (fitDigits_le (Nat.zero_le _) _) read

/-- A numeral that is read can be denoted, and is no container. -/
theorem readNumeral_spec {text rest : List Char} {value : Json}
    (read : Reads (readNumeral text) value rest) : value.Denotable ∧ value.nesting = 0 := by
  by_cases negative : text.head? = some '-'
  · obtain ⟨tail, rfl⟩ := List.head?_eq_some_iff.mp negative
    exact readNumber_spec (reads_readNumeral_negative.mp read)
  · exact readNumber_spec ((reads_readNumeral_unsigned negative).mp read)

/-- What a reader may yield that takes containers up to some depth. -/
def YieldsWithin (depth : Nat) (reading : Reading Json) : Prop :=
  ∀ {text value rest}, reading text value rest → value.Denotable ∧ value.nesting ≤ depth

/-- A value with containers can be denoted if what is in them can. -/
theorem yieldsWithin_form {depth : Nat}
    (inside : ∀ {inner}, depth = inner + 1 → YieldsWithin inner (readingOf (readValueAt inner))) :
    YieldsWithin depth (ValueForm depth) := by
  intro text value rest form
  cases form with
  | null => exact ⟨.null, Nat.zero_le _⟩
  | yes => exact ⟨.bool true, Nat.zero_le _⟩
  | no => exact ⟨.bool false, Nat.zero_le _⟩
  | string => exact ⟨.str _, Nat.zero_le _⟩
  | number _ read =>
    obtain ⟨denotable, flat⟩ := readNumeral_spec read
    exact ⟨denotable, flat ▸ Nat.zero_le _⟩
  | @array inner _ _ items deeper read =>
    subst deeper
    have each : ∀ item ∈ items, item.Denotable ∧ item.nesting ≤ inner :=
      Bracketed.forall (fun read => inside rfl (readingOf_afterSpace_iff.mp read)) read
    exact ⟨.arr fun item member => (each item member).1,
      nesting_arr_le_iff.mpr ⟨inner, rfl, fun item member => (each item member).2⟩⟩
  | @object inner _ _ entries deeper read =>
    subst deeper
    have each : ∀ entry ∈ entries, entry.2.Denotable ∧ entry.2.nesting ≤ inner := by
      refine Bracketed.forall (fun entryRead => ?_) read
      obtain ⟨_, _, _, _, _, _, _, item, itemRead, rfl⟩ := entryOf_iff.mp entryRead
      exact inside rfl (readingOf_afterSpace_iff.mp itemRead)
    exact ⟨.obj (Keyed.nodup_keys_ofPairs entries) fun entry member =>
        (each entry (Keyed.mem_of_mem_ofPairs member)).1,
      nesting_obj_le_iff.mpr ⟨inner, rfl, fun entry member =>
        (each entry (Keyed.mem_of_mem_ofPairs member)).2⟩⟩

/-- What is read can be denoted, and nests no deeper than the reader allows. -/
theorem yieldsWithin_readValueAt (depth : Nat) :
    YieldsWithin depth (readingOf (readValueAt depth)) := by
  induction depth with
  | zero =>
    intro text value rest read
    exact yieldsWithin_form (fun deeper => by cases deeper) (readingOf_readValueAt_iff.mp read)
  | succ depth inductionHypothesis =>
    intro text value rest read
    refine yieldsWithin_form ?_ (readingOf_readValueAt_iff.mp read)
    rintro inner deeper
    cases deeper
    exact inductionHypothesis

/-- A reader that allows one more level reads what others do. -/
theorem readingOf_readValueAt_succ {depth : Nat} {text rest : List Char} {value : Json}
    (read : readingOf (readValueAt depth) text value rest) :
    readingOf (readValueAt (depth + 1)) text value rest := by
  induction depth generalizing text value rest with
  | zero =>
    rw [readingOf_readValueAt_iff] at read ⊢
    cases read with
    | null => exact .null
    | yes => exact .yes
    | no => exact .no
    | string read => exact .string read
    | number starts read => exact .number starts read
    | array deeper => cases deeper
    | object deeper => cases deeper
  | succ depth inductionHypothesis =>
    rw [readingOf_readValueAt_iff] at read ⊢
    have wider : ∀ {text item rest}, readingOf (nestedReader depth) text item rest →
        readingOf (nestedReader (depth + 1)) text item rest := by
      intro text item rest read
      rw [readingOf_afterSpace_iff] at read ⊢
      exact inductionHypothesis read
    cases read with
    | null => exact .null
    | yes => exact .yes
    | no => exact .no
    | string read => exact .string read
    | number starts read => exact .number starts read
    | array deeper read =>
      cases deeper
      exact .array rfl (read.mono wider)
    | object deeper read =>
      cases deeper
      refine .object rfl (read.mono fun entryRead => ?_)
      obtain ⟨afterQuote, key, afterKey, afterColon, quote, keyRead, colon, item, itemRead, same⟩ :=
        entryOf_iff.mp entryRead
      exact entryOf_iff.mpr ⟨afterQuote, key, afterKey, afterColon, quote, keyRead, colon, item,
        wider itemRead, same⟩

/-- A text that is read up to some depth denotes the same for a reader that allows more. -/
theorem parseWithin_mono {depth deeper : Nat} (more : depth ≤ deeper) {text : List Char}
    {value : Json} (parsed : parseWithin depth text = .ok value) :
    parseWithin deeper text = .ok value := by
  induction more with
  | refl => exact parsed
  | step _ inductionHypothesis =>
    obtain ⟨rest, form, blank⟩ := parseWithin_eq_ok_iff.mp inductionHypothesis
    refine parseWithin_eq_ok_iff.mpr ⟨rest, ?_, blank⟩
    exact readingOf_readValueAt_iff.mp
      (readingOf_readValueAt_succ (readingOf_readValueAt_iff.mpr form))

/-- What a text denotes nests no deeper than the reader allows. -/
theorem parseWithin_spec {depth : Nat} {text : List Char} {value : Json}
    (parsed : parseWithin depth text = .ok value) : value.Denotable ∧ value.nesting ≤ depth := by
  obtain ⟨_, form, _⟩ := parseWithin_eq_ok_iff.mp parsed
  exact yieldsWithin_readValueAt depth (readingOf_readValueAt_iff.mpr form)

end ServiceWiring.Json
