import ServiceWiring.Json.Reader

/-!
# What it means that a JSON text is read

Reading takes a value from the beginning of a text and leaves the rest. `Reads`
says that it succeeds with a value and a rest, apart from the proof that the rest
is shorter, so that readings of different texts can be compared.

Arrays and objects are one construction with two pairs of brackets: parts with
commas between them, blanks around every mark, and a part after every comma.
`Bracketed` describes it as a relation over the relation that reads one part. The
main statements say that reading an array or an object is this relation. What
holds of all JSON texts is then proved by induction on it, once for both.
-/

namespace ServiceWiring.Json

/-- Reading succeeds with a value and leaves a rest. -/
def Reads {α : Type} {text : List Char} (outcome : Except Fault (Read α text)) (value : α)
    (rest : List Char) : Prop :=
  ∃ shorter, outcome = .ok ⟨value, rest, shorter⟩

/-- A relation between a text, what is read from its beginning, and the rest. -/
abbrev Reading (α : Type) := List Char → α → List Char → Prop

/-- Reading one value with a reader of values. -/
def readingOf (value : ValueReader) : Reading Json := fun text item rest =>
  Reads (value text) item rest

/-- Reading one entry of an object whose values are read by a reader. -/
def entryOf (value : ValueReader) : Reading (String × Json) := fun text entry rest =>
  Reads (readEntry value text) entry rest

/-- The parts of a container after the first, up to its closing bracket. -/
inductive Series {α : Type} (part : Reading α) (close : Char) : Reading (List α)
  | finish {text rest : List Char} (closing : skipSpace text = close :: rest) :
    Series part close text [] rest
  | next {text afterComma afterItem rest : List Char} {item : α} {items : List α}
    (comma : skipSpace text = ',' :: afterComma)
    (present : (skipSpace afterComma).head? ≠ some close)
    (first : part (skipSpace afterComma) item afterItem)
    (others : Series part close afterItem items rest) :
    Series part close text (item :: items) rest

/-- The parts of a container after its opening bracket. -/
inductive Bracketed {α : Type} (part : Reading α) (close : Char) : Reading (List α)
  | empty {text rest : List Char} (closing : skipSpace text = close :: rest) :
    Bracketed part close text [] rest
  | parts {text afterItem rest : List Char} {item : α} {items : List α}
    (present : (skipSpace text).head? ≠ some close)
    (first : part (skipSpace text) item afterItem)
    (others : Series part close afterItem items rest) :
    Bracketed part close text (item :: items) rest

/-- Nothing is read from a fault. -/
theorem not_reads_error {α : Type} {text : List Char} {fault : Fault} {value : α}
    {rest : List Char} : ¬ Reads (.error fault : Except Fault (Read α text)) value rest := by
  rintro ⟨_, impossible⟩
  cases impossible

/-- What a success reads. -/
theorem reads_ok_iff {α : Type} {text rest : List Char} {value : α} {read : Read α text} :
    Reads (.ok read) value rest ↔ read.value = value ∧ read.rest = rest := by
  obtain ⟨actual, left, shorter⟩ := read
  constructor
  · rintro ⟨_, same⟩
    cases same
    exact ⟨rfl, rfl⟩
  · rintro ⟨rfl, rfl⟩
    exact ⟨shorter, rfl⟩

/-- A success reads its value and leaves its rest. -/
theorem reads_of_eq_ok {α : Type} {text : List Char} {outcome : Except Fault (Read α text)}
    {read : Read α text} (success : outcome = .ok read) : Reads outcome read.value read.rest :=
  ⟨read.shorter, success⟩

/-- What remains is shorter than the text read from. -/
theorem Reads.shorter {α : Type} {text rest : List Char} {outcome : Except Fault (Read α text)}
    {value : α} (read : Reads outcome value rest) : rest.length < text.length := by
  obtain ⟨shorter, _⟩ := read
  exact shorter

/-- A relation that holds where a closing bracket comes next, or a comma, a part and
what it holds of again, describes series. The parts must take something from the text,
so that there are finitely many. -/
theorem iff_series {α : Type} {part : Reading α} {close : Char} (reads : Reading (List α))
    (shorter : ∀ {text item rest}, part text item rest → rest.length < text.length)
    (cases : ∀ {text items rest}, reads text items rest ↔
      (skipSpace text = close :: rest ∧ items = []) ∨
      ∃ afterComma item afterItem others, skipSpace text = ',' :: afterComma ∧
        (skipSpace afterComma).head? ≠ some close ∧ part (skipSpace afterComma) item afterItem ∧
        reads afterItem others rest ∧ item :: others = items)
    {text rest : List Char} {items : List α} :
    reads text items rest ↔ Series part close text items rest := by
  constructor
  · intro read
    -- Each part takes something from the text, so its length carries the induction.
    induction size : text.length using Nat.strongRecOn generalizing text items with
    | _ size inductionHypothesis =>
      obtain ⟨closing, rfl⟩ | ⟨afterComma, item, afterItem, others, comma, present, first, more,
        rfl⟩ := cases.mp read
      · exact .finish closing
      · have skipped := skipSpace_le text
        have skippedAgain := skipSpace_le afterComma
        rw [comma, List.length_cons] at skipped
        have reached := shorter first
        exact .next comma present first (inductionHypothesis afterItem.length (by omega) more rfl)
  · intro series
    induction series with
    | finish closing => exact cases.mpr (.inl ⟨closing, rfl⟩)
    | next comma present first _ inductionHypothesis =>
      exact cases.mpr (.inr ⟨_, _, _, _, comma, present, first, inductionHypothesis, rfl⟩)

/-- A relation that holds where a closing bracket comes next, or a part and a series
behind it, describes containers after their opening bracket. -/
theorem iff_bracketed {α : Type} {part : Reading α} {close : Char} {series : Reading (List α)}
    (seriesIff : ∀ {text items rest}, series text items rest ↔ Series part close text items rest)
    {text rest : List Char} {items : List α} :
    ((skipSpace text = close :: rest ∧ items = []) ∨
      ∃ item afterItem others, (skipSpace text).head? ≠ some close ∧
        part (skipSpace text) item afterItem ∧ series afterItem others rest ∧
        item :: others = items) ↔ Bracketed part close text items rest := by
  constructor
  · rintro (⟨closing, rfl⟩ | ⟨item, afterItem, others, present, first, more, rfl⟩)
    · exact .empty closing
    · exact .parts present first (seriesIff.mp more)
  · intro bracketed
    cases bracketed with
    | empty closing => exact .inl ⟨closing, rfl⟩
    | parts present first others => exact .inr ⟨_, _, _, present, first, seriesIff.mpr others, rfl⟩

section Containers

variable {value : ValueReader} {text rest : List Char}

/-- No value is read from the empty text. -/
theorem not_readingOf_nil {item : Json} : ¬ readingOf value [] item rest := by
  intro read
  exact absurd read.shorter (by simp)

/-- No entry is read from the empty text. -/
theorem not_entryOf_nil {entry : String × Json} : ¬ entryOf value [] entry rest := by
  intro read
  exact absurd read.shorter (by simp)

/-! ## Arrays -/

/-- The items of an array after the first: a closing bracket, or a comma, an item
and further items. -/
theorem reads_readItems_cases {items : List Json} :
    Reads (readItems value text) items rest ↔
      (skipSpace text = ']' :: rest ∧ items = []) ∨
      ∃ afterComma item afterItem others, skipSpace text = ',' :: afterComma ∧
        (skipSpace afterComma).head? ≠ some ']' ∧
        readingOf value (skipSpace afterComma) item afterItem ∧
        Reads (readItems value afterItem) others rest ∧ item :: others = items := by
  rw [readItems]
  split
  · rename_i skipped
    simp [not_reads_error, skipped]
  rename_i mark tail skipped
  by_cases closing : mark = ']'
  · simp [closing, skipped, reads_ok_iff, eq_comm, and_comm]
  by_cases other : mark ≠ ','
  · simp [closing, other, skipped, not_reads_error]
  obtain rfl : mark = ',' := Decidable.not_not.mp other
  simp only [closing, if_false, if_true, skipped, List.cons.injEq, false_and, false_or, true_and,
    exists_and_left, exists_eq_left']
  split
  · rename_i skippedAgain
    simp [skippedAgain, not_reads_error, not_readingOf_nil]
  rename_i head more skippedAgain
  by_cases early : head = ']'
  · simp [early, skippedAgain, not_reads_error]
  simp only [early, if_false, skippedAgain, List.head?_cons]
  cases first : value (head :: more) with
  | error fault => simp [readingOf, first, not_reads_error]
  | ok read =>
    obtain ⟨item, afterItem, shorter⟩ := read
    cases others : readItems value afterItem with
    | error fault => simp [early, readingOf, first, others, reads_ok_iff, not_reads_error]
    | ok read => simp [early, readingOf, first, others, reads_ok_iff, and_assoc, and_comm]

/-- The items of an array after the first form a series of values. -/
theorem reads_readItems_iff {items : List Json} :
    Reads (readItems value text) items rest ↔ Series (readingOf value) ']' text items rest :=
  iff_series (fun text items rest => Reads (readItems value text) items rest) Reads.shorter
    reads_readItems_cases

/-- An array after its opening bracket consists of bracketed values. -/
theorem reads_readArray_iff {items : List Json} :
    Reads (readArray value text) items rest ↔ Bracketed (readingOf value) ']' text items rest := by
  rw [← iff_bracketed reads_readItems_iff, readArray]
  split
  · rename_i skipped
    simp [not_reads_error, skipped, not_readingOf_nil]
  rename_i head more skipped
  by_cases early : head = ']'
  · simp [early, skipped, reads_ok_iff, eq_comm, and_comm]
  simp only [early, if_false, skipped, List.head?_cons]
  cases first : value (head :: more) with
  | error fault => simp [early, readingOf, first, not_reads_error]
  | ok read =>
    obtain ⟨item, afterItem, shorter⟩ := read
    cases others : readItems value afterItem with
    | error fault => simp [early, readingOf, first, others, reads_ok_iff, not_reads_error]
    | ok read => simp [early, readingOf, first, others, reads_ok_iff, and_assoc, and_comm]

/-! ## Objects -/

/-- One entry of an object: a key between quotes, a colon, and a value. -/
theorem entryOf_iff {entry : String × Json} :
    entryOf value text entry rest ↔
      ∃ afterQuote key afterKey afterColon, text = '"' :: afterQuote ∧
        Reads (readString afterQuote) key afterKey ∧ skipSpace afterKey = ':' :: afterColon ∧
        ∃ item, readingOf value afterColon item rest ∧ (String.ofList key, item) = entry := by
  rw [entryOf]
  cases text with
  | nil => simp [readEntry, not_reads_error]
  | cons quote afterQuote =>
    by_cases other : quote ≠ '"'
    · simp [readEntry, other, not_reads_error]
    obtain rfl : quote = '"' := Decidable.not_not.mp other
    cases keyRead : readString afterQuote with
    | error fault => simp [readEntry, keyRead, not_reads_error]
    | ok read =>
      obtain ⟨key, afterKey, keyShorter⟩ := read
      simp only [readEntry, keyRead, List.cons.injEq, true_and, exists_and_left, exists_eq_left',
        reads_ok_iff, and_assoc]
      split
      · rename_i skipped
        simp [skipped, not_reads_error]
      rename_i mark afterColon skipped
      by_cases colon : mark ≠ ':'
      · simp [skipped, colon, not_reads_error]
      obtain rfl : mark = ':' := Decidable.not_not.mp colon
      cases itemRead : value afterColon with
      | error fault => simp [skipped, readingOf, itemRead, not_reads_error]
      | ok read => simp [skipped, readingOf, itemRead, reads_ok_iff, and_assoc, and_comm]

/-- The entries of an object after the first: a closing brace, or a comma, an entry
and further entries. -/
theorem reads_readEntries_cases {entries : List (String × Json)} :
    Reads (readEntries value text) entries rest ↔
      (skipSpace text = '\x7d' :: rest ∧ entries = []) ∨
      ∃ afterComma entry afterEntry others, skipSpace text = ',' :: afterComma ∧
        (skipSpace afterComma).head? ≠ some '\x7d' ∧
        entryOf value (skipSpace afterComma) entry afterEntry ∧
        Reads (readEntries value afterEntry) others rest ∧ entry :: others = entries := by
  rw [readEntries]
  split
  · rename_i skipped
    simp [not_reads_error, skipped]
  rename_i mark tail skipped
  by_cases closing : mark = '\x7d'
  · simp [closing, skipped, reads_ok_iff, eq_comm, and_comm]
  by_cases other : mark ≠ ','
  · simp [closing, other, skipped, not_reads_error]
  obtain rfl : mark = ',' := Decidable.not_not.mp other
  simp only [closing, if_false, if_true, skipped, List.cons.injEq, false_and, false_or, true_and,
    exists_and_left, exists_eq_left']
  split
  · rename_i skippedAgain
    simp [skippedAgain, not_reads_error, not_entryOf_nil]
  rename_i head more skippedAgain
  by_cases early : head = '\x7d'
  · simp [early, skippedAgain, not_reads_error]
  simp only [early, if_false, skippedAgain, List.head?_cons]
  cases first : readEntry value (head :: more) with
  | error fault => simp [entryOf, first, not_reads_error]
  | ok read =>
    obtain ⟨entry, afterEntry, shorter⟩ := read
    cases others : readEntries value afterEntry with
    | error fault => simp [early, entryOf, first, others, reads_ok_iff, not_reads_error]
    | ok read => simp [early, entryOf, first, others, reads_ok_iff, and_assoc, and_comm]

/-- The entries of an object after the first form a series of entries. -/
theorem reads_readEntries_iff {entries : List (String × Json)} :
    Reads (readEntries value text) entries rest ↔
      Series (entryOf value) '\x7d' text entries rest :=
  iff_series (fun text entries rest => Reads (readEntries value text) entries rest) Reads.shorter
    reads_readEntries_cases

/-- An object after its opening brace consists of bracketed entries. -/
theorem reads_readObject_iff {entries : List (String × Json)} :
    Reads (readObject value text) entries rest ↔
      Bracketed (entryOf value) '\x7d' text entries rest := by
  rw [← iff_bracketed reads_readEntries_iff, readObject]
  split
  · rename_i skipped
    simp [not_reads_error, skipped, not_entryOf_nil]
  rename_i head more skipped
  by_cases early : head = '\x7d'
  · simp [early, skipped, reads_ok_iff, eq_comm, and_comm]
  simp only [early, if_false, skipped, List.head?_cons]
  cases first : readEntry value (head :: more) with
  | error fault => simp [early, entryOf, first, not_reads_error]
  | ok read =>
    obtain ⟨entry, afterEntry, shorter⟩ := read
    cases others : readEntries value afterEntry with
    | error fault => simp [early, entryOf, first, others, reads_ok_iff, not_reads_error]
    | ok read => simp [early, entryOf, first, others, reads_ok_iff, and_assoc, and_comm]

end Containers

/-! ## Values -/

/-- A literal name is read when the text starts with it. -/
theorem readWord_eq_ok_iff {word text rest : List Char} :
    readWord word text = .ok rest ↔ text = word ++ rest := by
  induction word generalizing text with
  | nil => simp [readWord]
  | cons expected word inductionHypothesis =>
    cases text with
    | nil => simp [readWord]
    | cons c text =>
      by_cases same : expected = c
      · simp [readWord, same, inductionHypothesis]
      · simp [readWord, same, Ne.symm same]

/-- A literal name is read from its second letter. -/
theorem reads_readName_iff {word tail rest : List Char} {meaning value : Json} {first : Char} :
    Reads (readName word meaning (first :: tail)) value rest ↔
      value = meaning ∧ tail = word ++ rest := by
  rw [readName, ← readWord_eq_ok_iff]
  split
  · rename_i failed
    simp [failed, not_reads_error]
  · rename_i left read
    simp [read, reads_ok_iff, eq_comm]

/-- A value with blanks before it. -/
theorem readingOf_afterSpace_iff {value : ValueReader} {text rest : List Char} {item : Json} :
    readingOf (readValueAt.afterSpace value) text item rest ↔
      readingOf value (skipSpace text) item rest := by
  rw [readingOf, readingOf, readValueAt.afterSpace]
  cases read : value (skipSpace text) with
  | error fault => simp [not_reads_error]
  | ok read => simp [reads_ok_iff]

/-- The parts of a container that stands where `depth` more may be opened. -/
abbrev nestedReader (depth : Nat) : ValueReader := readValueAt.afterSpace (readValueAt depth)

/-- The forms of a value that starts at the first character. -/
inductive ValueForm (depth : Nat) : Reading Json
  | null {rest : List Char} : ValueForm depth ('n' :: (['u', 'l', 'l'] ++ rest)) .null rest
  | yes {rest : List Char} : ValueForm depth ('t' :: (['r', 'u', 'e'] ++ rest)) (.bool true) rest
  | no {rest : List Char} :
    ValueForm depth ('f' :: (['a', 'l', 's', 'e'] ++ rest)) (.bool false) rest
  | number {first : Char} {tail rest : List Char} {value : Json}
    (starts : first = '-' ∨ first.isDigit = true)
    (read : Reads (readNumeral (first :: tail)) value rest) :
    ValueForm depth (first :: tail) value rest
  | string {tail characters rest : List Char} (read : Reads (readString tail) characters rest) :
    ValueForm depth ('"' :: tail) (.str (String.ofList characters)) rest
  | array {inner : Nat} {tail rest : List Char} {items : List Json} (deeper : depth = inner + 1)
    (read : Bracketed (readingOf (nestedReader inner)) ']' tail items rest) :
    ValueForm depth ('[' :: tail) (.arr items) rest
  | object {inner : Nat} {tail rest : List Char} {entries : List (String × Json)}
    (deeper : depth = inner + 1)
    (read : Bracketed (entryOf (nestedReader inner)) '\x7d' tail entries rest) :
    ValueForm depth ('\x7b' :: tail) (.obj (Keyed.ofPairs entries)) rest

/-- A value is read when it has one of the forms. -/
theorem readingOf_readValueAt_iff {depth : Nat} {text rest : List Char} {value : Json} :
    readingOf (readValueAt depth) text value rest ↔ ValueForm depth text value rest := by
  constructor
  · intro read
    cases text with
    | nil => exact absurd read not_readingOf_nil
    | cons first tail =>
      rw [readingOf, readValueAt.eq_def] at read
      simp only at read
      -- The reader decides on the first character, in the order of the forms.
      split at read
      · rename_i letter
        obtain ⟨rfl, rfl⟩ := reads_readName_iff.mp read
        rw [letter]
        exact .null
      split at read
      · rename_i letter
        obtain ⟨rfl, rfl⟩ := reads_readName_iff.mp read
        rw [letter]
        exact .yes
      split at read
      · rename_i letter
        obtain ⟨rfl, rfl⟩ := reads_readName_iff.mp read
        rw [letter]
        exact .no
      split at read
      · rename_i starts
        exact .number starts read
      split at read
      · rename_i quote
        rw [quote]
        cases success : readString tail with
        | error fault => simp [success, not_reads_error] at read
        | ok characters =>
          simp only [success, reads_ok_iff] at read
          obtain ⟨rfl, rfl⟩ := read
          exact .string (reads_of_eq_ok success)
      split at read
      · rename_i bracket
        rw [bracket]
        cases depth with
        | zero => exact absurd read not_reads_error
        | succ inner =>
          cases success : readArray (nestedReader inner) tail with
          | error fault => simp [success, not_reads_error] at read
          | ok items =>
            simp only [success, reads_ok_iff] at read
            obtain ⟨rfl, rfl⟩ := read
            exact .array rfl (reads_readArray_iff.mp (reads_of_eq_ok success))
      split at read
      · rename_i brace
        rw [brace]
        cases depth with
        | zero => exact absurd read not_reads_error
        | succ inner =>
          cases success : readObject (nestedReader inner) tail with
          | error fault => simp [success, not_reads_error] at read
          | ok entries =>
            simp only [success, reads_ok_iff] at read
            obtain ⟨rfl, rfl⟩ := read
            exact .object rfl (reads_readObject_iff.mp (reads_of_eq_ok success))
      · exact absurd read not_reads_error
  · intro form
    rw [readingOf, readValueAt.eq_def]
    cases form with
    | null => simp [reads_readName_iff]
    | yes => simp [reads_readName_iff]
    | no => simp [reads_readName_iff]
    | @number first tail _ _ starts read =>
      have noLetter : first ≠ 'n' ∧ first ≠ 't' ∧ first ≠ 'f' := by
        refine ⟨?_, ?_, ?_⟩ <;> rintro rfl <;> exact absurd starts (by decide)
      simpa [noLetter, starts] using read
    | string read =>
      obtain ⟨shorter, read⟩ := read
      simp [read, reads_ok_iff]
    | array deeper read =>
      obtain ⟨shorter, read⟩ := reads_readArray_iff.mpr read
      subst deeper
      simp [read, reads_ok_iff]
    | object deeper read =>
      obtain ⟨shorter, read⟩ := reads_readObject_iff.mpr read
      subst deeper
      simp [read, reads_ok_iff]

/-- What holds of the forms of a value when it holds of the values inside it holds of all
values, however deep they may be. -/
theorem readValueAt_induction {property : Reading Json → Prop}
    (step : ∀ depth, (∀ {inner}, depth = inner + 1 → property (readingOf (readValueAt inner))) →
      property (ValueForm depth)) (depth : Nat) : property (readingOf (readValueAt depth)) := by
  have forms : ∀ depth, readingOf (readValueAt depth) = ValueForm depth := by
    intro depth
    funext text value rest
    exact propext readingOf_readValueAt_iff
  induction depth with
  | zero =>
    rw [forms]
    apply step
    intro inner deeper
    cases deeper
  | succ depth inductionHypothesis =>
    rw [forms]
    apply step
    intro inner deeper
    cases deeper
    exact inductionHypothesis

/-- The value of a JSON text for a reader that takes containers up to some depth. -/
def parseWithin (depth : Nat) (text : List Char) : Except Fault Json :=
  match readValueAt depth (skipSpace text) with
  | .error fault => .error fault
  | .ok ⟨value, rest, _⟩ =>
    match skipSpace rest with
    | [] => .ok value
    | extra => .error (.next .trailingCharacters extra)

/-- A text is JSON when one value and blanks around it make it up. -/
theorem parseWithin_eq_ok_iff {depth : Nat} {text : List Char} {value : Json} :
    parseWithin depth text = .ok value ↔
      ∃ rest, ValueForm depth (skipSpace text) value rest ∧ skipSpace rest = [] := by
  simp only [← readingOf_readValueAt_iff, readingOf, parseWithin]
  cases success : readValueAt depth (skipSpace text) with
  | error fault => simp [not_reads_error]
  | ok read =>
    simp only [reads_ok_iff]
    cases left : skipSpace read.rest with
    | nil =>
      rw [Except.ok.injEq]
      constructor
      · intro same
        exact ⟨_, ⟨same, rfl⟩, left⟩
      · rintro ⟨_, ⟨same, _⟩, _⟩
        exact same
    | cons extra others => simp [left]

/-- Texts are read up to the depth that the library takes. -/
theorem parse_eq_ok_iff {text : List Char} {value : Json} :
    parse text = .ok value ↔
      ∃ rest, ValueForm depthLimit (skipSpace text) value rest ∧ skipSpace rest = [] := by
  have same : parse text = parseWithin depthLimit text := rfl
  rw [same, parseWithin_eq_ok_iff]

end ServiceWiring.Json
