import ServiceWiring.Proofs.Keyed
import ServiceWiring.Proofs.Text.Spans
import ServiceWiring.Proofs.Toml.Quoted
import ServiceWiring.Toml.Document
import ServiceWiring.Toml.Printer

/-!
# Documents that are written are read

What reading makes of the parts of a written document: a line defines its key in the
table that is open, a header opens a table that is new or one more element of an array of
tables, and an empty line does nothing. Lines only ever change the open table, which
`Opens` says of a draft: it is a context with the entries of the open table in it, and a
change of the table changes nothing else.

The main statements say which entries a draft has behind the lines of a table, behind a
table, and behind the elements of an array of tables, whatever the strings in the lines
are and whatever text follows.
-/

namespace ServiceWiring.Toml

open Text (isGap)

/-- The value that a field denotes. -/
def Field.toJson : Field → Json
  | .text value => .str value
  | .flag value => .bool value
  | .texts values => .arr (values.map .str)

/-- The entries that some lines define. -/
def fieldEntries (lines : List (String × Field)) : Entries :=
  lines.map fun line => (line.1, .value line.2.toJson)

/-- Whether a name can be written without marks. -/
def IsBareName (name : String) : Prop :=
  name.toList ≠ [] ∧ name.toList.all isBareChar = true

instance (name : String) : Decidable (IsBareName name) := inferInstanceAs (Decidable (_ ∧ _))

/-! ## Values -/

/-- Blanks before a string are skipped. -/
theorem skipFill_writeString (text : String) (rest : List Char) :
    skipFill false (writeString text ++ rest) = writeString text ++ rest := by
  obtain ⟨mark, others, written, marked⟩ := head?_writeString text
  rw [written]
  rcases marked with rfl | rfl <;> simp [skipFill, isGap]

/-- A written string is a value. -/
theorem readValue?_writeString (levels : Nat) (text : String) {rest : List Char}
    (noQuote : rest.head? ≠ some '"') (noApostrophe : rest.head? ≠ some '\'') :
    readValue? levels (writeString text ++ rest) = some (.str text, rest) := by
  have read := readString?_writeString text noQuote noApostrophe
  obtain ⟨mark, others, written, marked⟩ := head?_writeString text
  rw [written, List.cons_append] at read ⊢
  rcases marked with rfl | rfl <;> simp [readValue?.eq_def, read]

section Items

variable {value : ValueReader} {text after rest : List Char} {item : Json}

/-- An array may be empty, or have no items behind its last comma. -/
theorem readItems?_closed (closed : skipFill false text = ']' :: rest) :
    readItems? value text = some ([], rest) := by
  rw [readItems?, closed]
  rfl

/-- The last item of an array may have no comma behind it. -/
theorem readItems?_last (present : (skipFill false text).head? ≠ some ']')
    (read : value (skipFill false text) = some (item, after))
    (closed : skipFill false after = ']' :: rest) :
    readItems? value text = some ([item], rest) := by
  rw [readItems?]
  split
  · simp_all
  · rw [read]
    dsimp only
    rw [closed]
    rfl

/-- Behind an item and a comma come the other items. -/
theorem readItems?_next (present : (skipFill false text).head? ≠ some ']')
    (read : value (skipFill false text) = some (item, after))
    (comma : skipFill false after = ',' :: rest) (shorter : rest.length < text.length) :
    readItems? value text =
      (readItems? value rest).map fun (items, rest) => (item :: items, rest) := by
  rw [readItems?]
  split
  · simp_all
  · rw [read]
    dsimp only
    rw [comma]
    exact dif_pos shorter

end Items

/-- A written string is no closing bracket. -/
theorem not_closed_writeString (text : String) (rest : List Char) :
    (writeString text ++ rest).head? ≠ some ']' := by
  obtain ⟨mark, others, written, marked⟩ := head?_writeString text
  rw [written]
  rcases marked with rfl | rfl <;> simp

/-- An item on a line of its own. -/
def itemLine (value : String) : List Char :=
  ['\n', ' ', ' ', ' ', ' '] ++ writeString value ++ [',']

/-- Items on lines of their own are read up to the bracket behind them. -/
theorem readItems?_lines (levels : Nat) (values : List String) (rest : List Char) :
    readItems? (readValue? levels) (values.flatMap itemLine ++ '\n' :: ']' :: rest) =
      some (values.map .str, rest) := by
  induction values with
  | nil => exact readItems?_closed (by simp [skipFill, isGap])
  | cons value values inductionHypothesis =>
    rw [List.flatMap_cons, List.append_assoc]
    generalize values.flatMap itemLine ++ '\n' :: ']' :: rest = others at inductionHypothesis ⊢
    have skipped : skipFill false (itemLine value ++ others) =
        writeString value ++ ',' :: others := by
      simp [itemLine, skipFill, isGap, skipFill_writeString]
    have read : readValue? levels (skipFill false (itemLine value ++ others)) =
        some (.str value, ',' :: others) := by
      rw [skipped]
      exact readValue?_writeString levels value (by simp) (by simp)
    have present : (skipFill false (itemLine value ++ others)).head? ≠ some ']' := by
      rw [skipped]
      exact not_closed_writeString value _
    have comma : skipFill false (',' :: others) = ',' :: others := by simp [skipFill, isGap]
    have shorter : others.length < (itemLine value ++ others).length := by
      simp only [itemLine, List.length_append, List.length_cons]
      omega
    rw [readItems?_next present read comma shorter, inductionHypothesis]
    rfl

/-- A written truth value is a value. -/
theorem readValue?_flag (levels : Nat) (value : Bool) (rest : List Char) :
    readValue? levels ((Field.flag value).write ++ '\n' :: rest) =
      some (.bool value, '\n' :: rest) := by
  have plain : readValue? levels ((Field.flag value).write ++ '\n' :: rest) =
      readPlain? ((Field.flag value).write ++ '\n' :: rest) := by
    cases value <;> simp [Field.write, readValue?.eq_def]
  have token : ((Field.flag value).write ++ '\n' :: rest).takeWhile isTokenChar =
      (Field.flag value).write := by
    cases value <;> simp [Field.write, isTokenChar]
  have left : ((Field.flag value).write ++ '\n' :: rest).dropWhile isTokenChar =
      '\n' :: rest := by
    cases value <;> simp [Field.write, isTokenChar]
  have noDate : date? (Field.flag value).write = none := by cases value <;> decide +kernel
  have meaning : token? (Field.flag value).write = some (.bool value) := by cases value <;> rfl
  rw [plain, readPlain?, token, left, noDate]
  dsimp only
  rw [meaning]
  rfl

/-- A written field is a value. -/
theorem readValue?_write (levels : Nat) (field : Field) (rest : List Char) :
    readValue? (levels + 1) (field.write ++ '\n' :: rest) = some (field.toJson, '\n' :: rest) := by
  have array : ∀ text, readValue? (levels + 1) ('[' :: text) =
      (readItems? (readValue? levels) text).map fun (items, rest) => (.arr items, rest) := by
    intro text
    rw [readValue?.eq_def]
    rfl
  cases field with
  | text value => exact readValue?_writeString _ value (by simp) (by simp)
  | flag value => exact readValue?_flag _ value rest
  | texts values =>
    match values with
    | [] =>
      have closed : skipFill false (']' :: '\n' :: rest) = ']' :: '\n' :: rest := by
        simp [skipFill, isGap]
      have read : readItems? (readValue? levels) (']' :: '\n' :: rest) = some ([], '\n' :: rest) :=
        readItems?_closed closed
      rw [Field.write, List.cons_append, array]
      exact congrArg (Option.map _) read
    | [value] =>
      have skipped := skipFill_writeString value (']' :: '\n' :: rest)
      have read : readValue? levels (writeString value ++ ']' :: '\n' :: rest) =
          some (.str value, ']' :: '\n' :: rest) :=
        readValue?_writeString levels value (by simp) (by simp)
      have written : (Field.texts [value]).write ++ '\n' :: rest =
          '[' :: (writeString value ++ ']' :: '\n' :: rest) := by
        simp [Field.write]
      rw [written, array,
        readItems?_last (skipped.symm ▸ not_closed_writeString value _) (skipped.symm ▸ read)
          (by simp [skipFill, isGap]; rfl)]
      rfl
    | first :: second :: values =>
      have read := readItems?_lines levels (first :: second :: values) ('\n' :: rest)
      have written : (Field.texts (first :: second :: values)).write ++ '\n' :: rest =
          '[' :: ((first :: second :: values).flatMap itemLine ++ '\n' :: ']' :: '\n' :: rest) := by
        simp only [Field.write, List.cons_append, List.append_assoc, List.nil_append]
        rfl
      rw [written, array, read]
      rfl

/-! ## Names -/

/-- The characters of bare names are neither marks nor blanks. -/
theorem isBareChar_spec {c : Char} (bare : isBareChar c = true) :
    isGap c = false ∧ c ≠ '"' ∧ c ≠ '\'' ∧ c ≠ '[' ∧ c ≠ '#' ∧ c ≠ '\n' ∧ c ≠ '\r' := by
  refine ⟨?_, ?_, ?_, ?_, ?_, ?_, ?_⟩
  · by_contra gap
    rw [Bool.not_eq_false, isGap, Bool.or_eq_true, beq_iff_eq, beq_iff_eq] at gap
    rcases gap with rfl | rfl <;> exact absurd bare (by decide)
  all_goals
    rintro rfl
    exact absurd bare (by decide)

section Names

variable {name : String} (bare : IsBareName name)
include bare

/-- A bare name begins with a character of bare names. -/
theorem IsBareName.exists_first :
    ∃ first others, name.toList = first :: others ∧ isBareChar first = true := by
  obtain ⟨present, all⟩ := bare
  obtain ⟨first, others, named⟩ := List.exists_cons_of_ne_nil present
  rw [named, List.all_cons, Bool.and_eq_true] at all
  exact ⟨first, others, named, all.1⟩

/-- Nothing is skipped before a bare name. -/
theorem IsBareName.skipGaps_append (rest : List Char) :
    skipGaps (name.toList ++ rest) = name.toList ++ rest := by
  obtain ⟨first, others, named, first_bare⟩ := bare.exists_first
  rw [named]
  simp [skipGaps, (isBareChar_spec first_bare).1]

/-- A bare name is read up to a character of another kind. -/
theorem IsBareName.readName? {rest : List Char}
    (ended : ∀ c ∈ rest.head?, isBareChar c = false) :
    Toml.readName? (name.toList ++ rest) = some (name, rest) := by
  have taken : (name.toList ++ rest).takeWhile isBareChar = name.toList :=
    Text.takeWhile_append_of_head bare.2 ended
  have left : (name.toList ++ rest).dropWhile isBareChar = rest := by
    rw [Text.dropWhile_append_of_all bare.2, Text.dropWhile_of_head ended]
  obtain ⟨first, others, named, first_bare⟩ := bare.exists_first
  obtain ⟨_, noQuote, noApostrophe, _⟩ := isBareChar_spec first_bare
  have shape : name.toList ++ rest = first :: (others ++ rest) := by rw [named]; rfl
  unfold Toml.readName?
  split
  · simp_all
  · simp_all
  · dsimp only
    rw [taken, left, if_neg (by simpa using bare.1), String.ofList_toList]

/-- A bare name is a key, if no point follows it. -/
theorem IsBareName.readKey? {rest : List Char} (ended : ∀ c ∈ rest.head?, isBareChar c = false)
    (whole : (skipGaps rest).head? ≠ some '.') :
    Toml.readKey? (name.toList ++ rest) = some (([], name), skipGaps rest) := by
  have names : readNames? (depthLimit - 1) (name.toList ++ rest) =
      some ([name], skipGaps rest) := by
    rw [show depthLimit - 1 = 78 + 1 from rfl, readNames?, bare.skipGaps_append,
      bare.readName? ended]
    simp only [Option.bind_eq_bind, Option.bind_some]
    split
    · simp_all
    · rfl
  rw [Toml.readKey?, names]
  rfl

end Names

/-! ## Lines -/

/-- A written field begins with its own first character. -/
theorem skipGaps_write (field : Field) (rest : List Char) :
    skipGaps (field.write ++ rest) = field.write ++ rest := by
  cases field with
  | text value =>
    obtain ⟨mark, others, written, marked⟩ := head?_writeString value
    rw [Field.write, written]
    rcases marked with rfl | rfl <;> rfl
  | flag value => cases value <;> rfl
  | texts values =>
    match values with
    | [] => rfl
    | [_] => rfl
    | _ :: _ :: _ => rfl

/-- A line that begins with a bare name is a definition. -/
theorem readLine?_definition (draft : Draft) {name : String} (bare : IsBareName name)
    (rest : List Char) :
    readLine? draft (name.toList ++ rest) = readDefinition? draft (name.toList ++ rest) := by
  obtain ⟨first, others, named, first_bare⟩ := bare.exists_first
  obtain ⟨_, _, _, noBracket, noComment, noFeed, noReturn⟩ := isBareChar_spec first_bare
  rw [readLine?, bare.skipGaps_append, named, List.cons_append]
  split <;> simp_all

/-- A written line defines its key. -/
theorem readLine?_writeLine (draft : Draft) {line : String × Field} (bare : IsBareName line.1)
    (rest : List Char) :
    readLine? draft (writeLine line ++ rest) =
      (draft.assign [] line.1 line.2.toJson).map fun draft => (draft, rest) := by
  obtain ⟨name, field⟩ := line
  have written : writeLine (name, field) ++ rest =
      name.toList ++ ' ' :: '=' :: ' ' :: (field.write ++ '\n' :: rest) := by
    simp [writeLine]
  have key : readKey? (name.toList ++ ' ' :: '=' :: ' ' :: (field.write ++ '\n' :: rest)) =
      some (([], name), '=' :: ' ' :: (field.write ++ '\n' :: rest)) :=
    bare.readKey? (by rintro c ⟨⟩; rfl) (by simp [skipGaps, isGap])
  have value : readValue? (depthLimit - 1) (skipGaps (' ' :: (field.write ++ '\n' :: rest))) =
      some (field.toJson, '\n' :: rest) := by
    rw [show skipGaps (' ' :: (field.write ++ '\n' :: rest)) =
      skipGaps (field.write ++ '\n' :: rest) from rfl, skipGaps_write]
    exact readValue?_write _ field rest
  rw [written, readLine?_definition draft bare, readDefinition?, key]
  change (readValue? (depthLimit - 1) (skipGaps (' ' :: (field.write ++ '\n' :: rest)))).bind _ = _
  rw [value]
  change (draft.assign [] name field.toJson).bind _ = _
  cases draft.assign [] name field.toJson <;> rfl

/-- An empty line does nothing. -/
theorem readLine?_empty (draft : Draft) (rest : List Char) :
    readLine? draft ('\n' :: rest) = some (draft, rest) := rfl

/-- A header between single brackets opens a table. -/
theorem readLine?_table (draft : Draft) {name : String} (bare : IsBareName name)
    (rest : List Char) :
    readLine? draft ('[' :: (name.toList ++ ']' :: '\n' :: rest)) =
      (draft.open false [] name).map fun draft => (draft, rest) := by
  have key : readKey? (name.toList ++ ']' :: '\n' :: rest) =
      some (([], name), ']' :: '\n' :: rest) :=
    bare.readKey? (by rintro c ⟨⟩; rfl) (by simp [skipGaps, isGap])
  have header : readLine? draft ('[' :: (name.toList ++ ']' :: '\n' :: rest)) =
      readHeader? draft (name.toList ++ ']' :: '\n' :: rest) := rfl
  obtain ⟨first, others, named, first_bare⟩ := bare.exists_first
  obtain ⟨_, _, _, noBracket, _⟩ := isBareChar_spec first_bare
  rw [header, readHeader?.eq_def]
  split
  · simp_all
  · rw [key]
    change (draft.open false [] name).bind _ = _
    cases draft.open false [] name <;> rfl

/-- A header between double brackets opens an element of an array of tables. -/
theorem readLine?_element (draft : Draft) {name : String} (bare : IsBareName name)
    (rest : List Char) :
    readLine? draft ('[' :: '[' :: (name.toList ++ ']' :: ']' :: '\n' :: rest)) =
      (draft.open true [] name).map fun draft => (draft, rest) := by
  have key : readKey? (name.toList ++ ']' :: ']' :: '\n' :: rest) =
      some (([], name), ']' :: ']' :: '\n' :: rest) :=
    bare.readKey? (by rintro c ⟨⟩; rfl) (by simp [skipGaps, isGap])
  have header : readLine? draft ('[' :: '[' :: (name.toList ++ ']' :: ']' :: '\n' :: rest)) =
      readHeader? draft ('[' :: (name.toList ++ ']' :: ']' :: '\n' :: rest)) := rfl
  rw [header, readHeader?, key]
  change (draft.open true [] name).bind _ = _
  cases draft.open true [] name <;> rfl

/-- Where a line is read, the others are read behind it. -/
theorem readLines?_line {draft next : Draft} {line rest : List Char}
    (read : readLine? draft (line ++ rest) = some (next, rest)) (present : line ≠ []) :
    readLines? draft (line ++ rest) = readLines? next rest := by
  have more : (line ++ rest).isEmpty = false := by
    cases line with
    | nil => exact absurd rfl present
    | cons c line => rfl
  have shorter : rest.length < (line ++ rest).length := by
    have := List.length_pos_of_ne_nil present
    rw [List.length_append]
    omega
  rw [readLines?, if_neg (by simp [more]), read]
  exact dif_pos shorter

/-! ## Tables -/

/-- Whether the way leads to a table in a context: a change of the table changes nothing
else. -/
def Opens (context : Entries → Entries) (way : List String) : Prop :=
  ∀ inner change, Entries.reach way change (context inner) = (change inner).map context

/-- The document itself is at the end of the empty way. -/
theorem opens_document : Opens id [] := by
  intro inner change
  rw [Entries.reach, Entries.alter, Option.map_id]
  rfl

/-- What a name means that was the last one to be defined. -/
inductive Last
  | table
  | element (before : List Entries)

/-- The meaning with the entries of the open table. -/
def Last.item : Last → Entries → Item
  | table, inner => .table .header inner
  | element before, inner => .elements inner before

/-- The table that was opened last is at the end of its name. -/
theorem opens_last {name : String} {front : Entries} (new : name ∉ Keyed.keys front)
    (last : Last) : Opens (fun inner => front ++ [(name, last.item inner)]) [name] := by
  intro inner change
  rw [Entries.reach, Entries.alter, Keyed.get?_concat new]
  cases last with
  | table =>
    change (change inner).bind _ = _
    cases change inner with
    | none => rfl
    | some changed => exact congrArg some (Keyed.insert_concat new _ _)
  | element before =>
    change (change inner).bind _ = _
    cases change inner with
    | none => rfl
    | some changed => exact congrArg some (Keyed.insert_concat new _ _)

/-- A new key of the open table is defined behind the others. -/
theorem assign_new {context : Entries → Entries} {way : List String}
    (opens : Opens context way) {inner : Entries} {name : String}
    (new : name ∉ Keyed.keys inner) (value : Json) :
    Draft.assign [] name value ⟨context inner, way⟩ =
      some ⟨context (inner ++ [(name, .value value)]), way⟩ := by
  have defined : Entries.assign [] name value inner = some (inner ++ [(name, .value value)]) := by
    change Entries.define name value inner = _
    rw [Entries.define, Keyed.get?_eq_none new]
    rfl
  rw [Draft.assign]
  dsimp only
  rw [opens, defined]
  rfl

/-- Lines define their keys in the open table, in order. -/
theorem readLines?_writeLines {context : Entries → Entries} {way : List String}
    (opens : Opens context way) {lines : List (String × Field)}
    (bare : ∀ line ∈ lines, IsBareName line.1) {inner : Entries}
    (distinct : (Keyed.keys (inner ++ fieldEntries lines)).Nodup) (rest : List Char) :
    readLines? ⟨context inner, way⟩ (writeLines lines ++ rest) =
      readLines? ⟨context (inner ++ fieldEntries lines), way⟩ rest := by
  induction lines generalizing inner with
  | nil => rw [fieldEntries, List.map_nil, List.append_nil]; rfl
  | cons line lines inductionHypothesis =>
    have split : inner ++ fieldEntries (line :: lines) =
        inner ++ (line.1, .value line.2.toJson) :: fieldEntries lines := rfl
    obtain ⟨new, distinct⟩ := Keyed.new_of_nodup_keys (split ▸ distinct)
    have read := readLine?_writeLine ⟨context inner, way⟩ (bare line List.mem_cons_self)
      (writeLines lines ++ rest)
    rw [assign_new opens new] at read
    rw [writeLines, List.flatMap_cons, ← writeLines, List.append_assoc,
      readLines?_line read (by simp [writeLine]),
      inductionHypothesis (fun line member => bare line (List.mem_cons_of_mem _ member)) distinct,
      List.append_assoc]
    rfl

section Named

variable {name : String} (bareName : IsBareName name) {lines : List (String × Field)}
  (bare : ∀ line ∈ lines, IsBareName line.1) (distinct : (lines.map Prod.fst).Nodup)

include bare distinct in
/-- Lines behind a header define their keys in the table that it opens. -/
theorem readLines?_headed {context : Entries → Entries} {way : List String}
    (opens : Opens context way) {draft : Draft} {header rest : List Char} (present : header ≠ [])
    (read : readLine? draft (header ++ (writeLines lines ++ rest)) =
      some (⟨context [], way⟩, writeLines lines ++ rest)) :
    readLines? draft (['\n'] ++ (header ++ (writeLines lines ++ rest))) =
      readLines? ⟨context (fieldEntries lines), way⟩ rest := by
  have keys : (Keyed.keys ([] ++ fieldEntries lines)).Nodup := by
    rw [List.nil_append, Keyed.keys, fieldEntries, List.map_map]
    exact distinct
  rw [readLines?_line (readLine?_empty _ _) (by simp), readLines?_line read present,
    readLines?_writeLines opens bare keys, List.nil_append]

include bareName bare distinct

/-- A table with a new name is read into an entry of its own. -/
theorem readLines?_writeTable {entries : Entries} (new : name ∉ Keyed.keys entries)
    (way : List String) (rest : List Char) :
    readLines? ⟨entries, way⟩ (writeTable name lines ++ rest) =
      readLines? ⟨entries ++ [(name, .table .header (fieldEntries lines))], [name]⟩ rest := by
  have written : writeTable name lines ++ rest =
      ['\n'] ++ ('[' :: (name.toList ++ [']', '\n']) ++ (writeLines lines ++ rest)) := by
    simp [writeTable]
  have opened : Draft.open false [] name ⟨entries, way⟩ =
      some ⟨entries ++ [(name, Last.table.item [])], [name]⟩ := by
    change (Entries.openTable name entries).bind _ = _
    rw [Entries.openTable, Keyed.get?_eq_none new]
    rfl
  have header := readLine?_table ⟨entries, way⟩ bareName (writeLines lines ++ rest)
  rw [opened] at header
  rw [written]
  exact readLines?_headed bare distinct (opens_last new .table) (by simp) (by simpa using header)

/-- An element of an array of tables is read into the table that its header opens. -/
theorem readLines?_writeElement {entries front : Entries} (new : name ∉ Keyed.keys front)
    {before : List Entries}
    (opened : entries.openElement name = some (front ++ [(name, .elements [] before)]))
    (way : List String) (rest : List Char) :
    readLines? ⟨entries, way⟩ (writeElement name lines ++ rest) =
      readLines? ⟨front ++ [(name, .elements (fieldEntries lines) before)], [name]⟩ rest := by
  have written : writeElement name lines ++ rest =
      ['\n'] ++ ('[' :: '[' :: (name.toList ++ [']', ']', '\n']) ++
        (writeLines lines ++ rest)) := by
    simp [writeElement]
  have draft : Draft.open true [] name ⟨entries, way⟩ =
      some ⟨front ++ [(name, (Last.element before).item [])], [name]⟩ := by
    change (entries.openElement name).bind _ = _
    rw [opened]
    rfl
  have header := readLine?_element ⟨entries, way⟩ bareName (writeLines lines ++ rest)
  rw [draft] at header
  rw [written]
  exact readLines?_headed bare distinct (opens_last new (.element before)) (by simp)
    (by simpa using header)

end Named

/-! ## Arrays of tables -/

section Elements

variable {name : String} {front : Entries} (new : name ∉ Keyed.keys front)
include new

/-- The first element makes an array. -/
theorem openElement_new :
    front.openElement name = some (front ++ [(name, .elements [] [])]) := by
  rw [Entries.openElement, Keyed.get?_eq_none new]

/-- A further element stands behind the last one. -/
theorem openElement_further (last : Entries) (before : List Entries) :
    Entries.openElement name (front ++ [(name, .elements last before)]) =
      some (front ++ [(name, .elements [] (last :: before))]) := by
  rw [Entries.openElement, Keyed.get?_concat new]
  exact congrArg some (Keyed.insert_concat new _ _)

end Elements

/-- An array of tables with further elements. -/
def furtherElements (last : Entries) (before : List Entries) : List Entries → Item
  | [] => .elements last before
  | next :: others => furtherElements next (last :: before) others

/-- The values of elements stand in the order of the elements. -/
theorem elementsToJson_eq (done : List Json) (before : List Entries) :
    elementsToJson done before = before.reverse.map (fun inner => .obj (entriesToJson inner)) ++
      done := by
  induction before generalizing done with
  | nil => rfl
  | cons inner before inductionHypothesis =>
    rw [elementsToJson, inductionHypothesis, List.reverse_cons, List.map_append, List.append_assoc]
    rfl

/-- The value of an array of tables with further elements. -/
theorem toJson_furtherElements (last : Entries) (before others : List Entries) :
    (furtherElements last before others).toJson =
      .arr ((before.reverse ++ last :: others).map fun inner => .obj (entriesToJson inner)) := by
  induction others generalizing last before with
  | nil =>
    rw [furtherElements, Item.toJson, elementsToJson_eq, List.map_append]
    rfl
  | cons next others inductionHypothesis =>
    rw [furtherElements, inductionHypothesis, List.reverse_cons, List.append_assoc]
    rfl

/-- Further elements are read behind the others, in order. -/
theorem readLines?_furtherElements {name : String} (bareName : IsBareName name)
    {front : Entries} (new : name ∉ Keyed.keys front) {elements : List (List (String × Field))}
    (bare : ∀ lines ∈ elements, ∀ line ∈ lines, IsBareName line.1)
    (distinct : ∀ lines ∈ elements, (lines.map Prod.fst).Nodup) (last : Entries)
    (before : List Entries) :
    readLines? ⟨front ++ [(name, .elements last before)], [name]⟩
        (elements.flatMap (writeElement name)) =
      some ⟨front ++ [(name, furtherElements last before (elements.map fieldEntries))],
        [name]⟩ := by
  induction elements generalizing last before with
  | nil => rw [readLines?]; rfl
  | cons lines elements inductionHypothesis =>
    rw [List.forall_mem_cons] at bare distinct
    rw [List.flatMap_cons, readLines?_writeElement bareName bare.1 distinct.1 new
      (openElement_further new last before), inductionHypothesis bare.2 distinct.2]
    rfl

/-- The JSON entries of tables that stand one behind the other. -/
theorem entriesToJson_append (front back : Entries) :
    entriesToJson (front ++ back) = entriesToJson front ++ entriesToJson back := by
  induction front with
  | nil => rfl
  | cons entry front inductionHypothesis =>
    rw [List.cons_append, entriesToJson, inductionHypothesis]
    rfl

/-- The JSON entries of lines are their names with the values of their fields. -/
theorem entriesToJson_fieldEntries (lines : List (String × Field)) :
    entriesToJson (fieldEntries lines) = lines.map fun line => (line.1, line.2.toJson) := by
  induction lines with
  | nil => rfl
  | cons line lines inductionHypothesis =>
    rw [fieldEntries, List.map_cons, ← fieldEntries, entriesToJson, inductionHypothesis]
    rfl

/-- An array of tables at the end of a document is the value of its name. -/
theorem readLines?_elements {name : String} (bareName : IsBareName name)
    {entries : Entries} (new : name ∉ Keyed.keys entries)
    {elements : List (List (String × Field))} (present : elements ≠ [])
    (bare : ∀ lines ∈ elements, ∀ line ∈ lines, IsBareName line.1)
    (distinct : ∀ lines ∈ elements, (lines.map Prod.fst).Nodup) (way : List String) :
    ((readLines? ⟨entries, way⟩ (elements.flatMap (writeElement name))).map fun draft =>
        entriesToJson draft.entries) =
      some (entriesToJson entries ++ [(name, .arr (elements.map fun lines =>
        .obj (lines.map fun line => (line.1, line.2.toJson))))]) := by
  obtain ⟨lines, elements, rfl⟩ := List.exists_cons_of_ne_nil present
  rw [List.forall_mem_cons] at bare distinct
  rw [List.flatMap_cons, readLines?_writeElement bareName bare.1 distinct.1 new
    (openElement_new new), readLines?_furtherElements bareName new bare.2 distinct.2,
    Option.map_some, entriesToJson_append, entriesToJson, toJson_furtherElements]
  simp [entriesToJson_fieldEntries, entriesToJson]

/-- A document that begins with a line has no mark before it. -/
theorem parse?_writeLines {lines : List (String × Field)} (present : lines ≠ [])
    (bare : ∀ line ∈ lines, IsBareName line.1) (rest : List Char) :
    parse? (writeLines lines ++ rest) =
      (readLines? .empty (writeLines lines ++ rest)).map fun draft =>
        .obj (entriesToJson draft.entries) := by
  obtain ⟨line, lines, rfl⟩ := List.exists_cons_of_ne_nil present
  obtain ⟨first, others, named, first_bare⟩ := (bare line List.mem_cons_self).exists_first
  have written : ∃ following, writeLines (line :: lines) ++ rest = first :: following := by
    rw [writeLines, List.flatMap_cons, writeLine, named]
    exact ⟨_, rfl⟩
  obtain ⟨following, written⟩ := written
  rw [written, parse?]
  intro text mark
  rw [(List.cons.inj mark).1] at first_bare
  exact absurd first_bare (by decide)

end ServiceWiring.Toml
