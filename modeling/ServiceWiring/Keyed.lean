/-!
# Keyed entries

A list of entries in which each key keeps the place of its first insertion and
the value of its last one. JSON objects, tag attributes, class tables and
containers store their entries this way.

The main statements say what insertion does to the two views of such a list:
looking up a key, and the sequence of keys.
-/

namespace ServiceWiring.Keyed

universe u v
variable {κ : Type u} {α : Type v} [DecidableEq κ]

/-- The keys in the order in which they were first inserted. -/
def keys (entries : List (κ × α)) : List κ := entries.map Prod.fst

/-- The value under a key. -/
def get? (key : κ) : List (κ × α) → Option α
  | [] => none
  | (candidate, value) :: rest => if candidate = key then some value else get? key rest

/-- Puts a value under a key: in place of the value that is there, or at the end. -/
def insert (key : κ) (value : α) : List (κ × α) → List (κ × α)
  | [] => [(key, value)]
  | (candidate, old) :: rest =>
    if candidate = key then (key, value) :: rest
    else (candidate, old) :: insert key value rest

/-- Puts a value under a key, and says which one was there. -/
def replace (key : κ) (value : α) : List (κ × α) → Option α × List (κ × α)
  | [] => (none, [(key, value)])
  | (candidate, old) :: rest =>
    if candidate = key then (some old, (key, value) :: rest)
    else
      let (replaced, entries) := replace key value rest
      (replaced, (candidate, old) :: entries)

/-- The entries that result from inserting pairs one after the other. -/
def ofPairs (pairs : List (κ × α)) : List (κ × α) :=
  pairs.foldl (fun entries (key, value) => insert key value entries) []

/-- The inserted value is found under its key. -/
theorem get?_insert_self (key : κ) (value : α) (entries : List (κ × α)) :
    get? key (insert key value entries) = some value := by
  induction entries with
  | nil => simp [insert, get?]
  | cons entry rest inductionHypothesis =>
    by_cases same : entry.1 = key <;> simp [insert, get?, same, inductionHypothesis]

/-- A replacement is an insertion that tells what was found under the key before. -/
theorem replace_eq (key : κ) (value : α) (entries : List (κ × α)) :
    replace key value entries = (get? key entries, insert key value entries) := by
  induction entries with
  | nil => rfl
  | cons entry rest inductionHypothesis =>
    by_cases same : entry.1 = key <;> simp [replace, insert, get?, same, inductionHypothesis]

/-- Insertion leaves the values under all other keys alone. -/
theorem get?_insert_of_ne {key other : κ} (differs : other ≠ key) (value : α)
    (entries : List (κ × α)) : get? other (insert key value entries) = get? other entries := by
  induction entries with
  | nil => simp [insert, get?, differs.symm]
  | cons entry rest inductionHypothesis =>
    by_cases same : entry.1 = key
    · simp [insert, get?, same, differs.symm]
    · simp [insert, get?, same, inductionHypothesis]

/-- A key already present keeps its place; a new key comes last. -/
theorem keys_insert (key : κ) (value : α) (entries : List (κ × α)) :
    keys (insert key value entries) =
      if key ∈ keys entries then keys entries else keys entries ++ [key] := by
  induction entries with
  | nil => simp [insert, keys]
  | cons entry rest inductionHypothesis =>
    by_cases same : entry.1 = key
    · simp [insert, keys, same]
    · have distinct : key ≠ entry.1 := fun equal => same equal.symm
      simp only [keys] at inductionHypothesis
      by_cases member : key ∈ rest.map Prod.fst
      · simp [insert, keys, same, inductionHypothesis, member]
      · simp [insert, keys, same, inductionHypothesis, member, distinct]

/-- Insertion keeps keys distinct. -/
theorem nodup_keys_insert (key : κ) (value : α) (entries : List (κ × α))
    (distinct : (keys entries).Nodup) : (keys (insert key value entries)).Nodup := by
  rw [keys_insert]
  split
  · exact distinct
  · rename_i absent
    rw [List.nodup_append]
    refine ⟨distinct, by simp, ?_⟩
    intro present member last final
    simp only [List.mem_singleton] at final
    rintro rfl
    exact absent (final ▸ member)

/-- A key has a value exactly when it is among the keys. -/
theorem get?_isSome_iff (key : κ) (entries : List (κ × α)) :
    (get? key entries).isSome ↔ key ∈ keys entries := by
  induction entries with
  | nil => simp [get?, keys]
  | cons entry rest inductionHypothesis =>
    by_cases same : entry.1 = key
    · simp [get?, keys, same]
    · have distinct : key ≠ entry.1 := fun equal => same equal.symm
      simp only [keys] at inductionHypothesis
      simp [get?, keys, same, inductionHypothesis, distinct]

end ServiceWiring.Keyed
