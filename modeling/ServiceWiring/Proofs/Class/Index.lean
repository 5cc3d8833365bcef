import Mathlib.Data.Finset.Card
import Mathlib.Data.List.Induction
import ServiceWiring.Class.Index
import ServiceWiring.Proofs.Class.Table

/-!
# Which declaration of a class counts

An index is filled file by file. The main statement says what it holds in the end without
the order in which that came about: under the name of a class, the definition in the last
file that declares the class in its place; if there is no such file, the one in the last
file that declares it at all; and nothing else. A fault of the source ends the indexing,
and the first one is reported.

The list of settled classes carries the proof. After each file it holds exactly the
classes that a file so far declares in their place, so a misplaced declaration is passed
over exactly when a well-placed one came before it.
-/

namespace ServiceWiring

/-- A candidate and the module that it belongs to. -/
structure ModuleFile where
  module : Module
  file : CandidateFile
deriving DecidableEq, Repr

namespace ModuleFile

variable (naming : Naming) (read : RawPath → Option String)

/-- The class that the path of the file gives the name of, below the prefix of its module. -/
def expectedClass (found : ModuleFile) : ClassIdentifier :=
  naming.classIdentifier found.file.relative found.module.namespacePrefix

/-- The definition in the file, if the file can be read and declares a class. -/
def definition? (found : ModuleFile) : Option ClassDefinition :=
  (read found.file.path).bind (ClassDefinition.ofSource? naming)

/-- Whether the file can be read and declares a class of this name. -/
def Declares (id : ClassIdentifier) (found : ModuleFile) : Prop :=
  (found.definition? naming read).map ClassDefinition.id = some id

instance (id : ClassIdentifier) (found : ModuleFile) :
    Decidable (found.Declares naming read id) :=
  inferInstanceAs (Decidable (_ = _))

/-- Whether the file declares a class of this name and is where the class belongs. -/
def DeclaresInPlace (id : ClassIdentifier) (found : ModuleFile) : Prop :=
  found.Declares naming read id ∧ found.expectedClass naming = id

instance (id : ClassIdentifier) (found : ModuleFile) :
    Decidable (found.DeclaresInPlace naming read id) :=
  inferInstanceAs (Decidable (_ ∧ _))

/-- The file that counts for a class: the last one that declares it in its place or, if
there is none, the last one that declares it. -/
def counting? (id : ClassIdentifier) (files : List ModuleFile) : Option ModuleFile :=
  (files.filter fun found => found.DeclaresInPlace naming read id).getLast?.or
    (files.filter fun found => found.Declares naming read id).getLast?

/-- One more file counts if it declares the class, in its place or with no other file so far
doing so; otherwise the file that counted before still does. -/
theorem counting?_concat (id : ClassIdentifier) (files : List ModuleFile) (found : ModuleFile) :
    counting? naming read id (files ++ [found]) =
      if found.DeclaresInPlace naming read id ∨
          (found.Declares naming read id ∧
            ∀ other ∈ files, ¬other.DeclaresInPlace naming read id) then some found
      else counting? naming read id files := by
  simp only [counting?, List.filter_append, List.getLast?_append]
  by_cases declares : found.Declares naming read id
  · by_cases placed : found.DeclaresInPlace naming read id
    · simp [placed]
    · -- A misplaced file counts only if none before it is in place.
      cases last : (files.filter fun other => other.DeclaresInPlace naming read id).getLast? with
      | none =>
        have noOther : ∀ other ∈ files, ¬other.DeclaresInPlace naming read id := by
          simpa [List.getLast?_eq_none_iff, List.filter_eq_nil_iff] using last
        rw [if_pos (.inr ⟨declares, noOther⟩)]
        simp [declares, placed]
      | some other =>
        have member := List.mem_filter.mp (List.mem_of_getLast? last)
        have earlier : ¬∀ other ∈ files, ¬other.DeclaresInPlace naming read id := by
          intro noOther
          exact noOther other member.1 (by simpa using member.2)
        simp [placed, earlier]
  · have misplaced : ¬found.DeclaresInPlace naming read id := fun placed => declares placed.1
    simp [declares, misplaced]

variable {naming read}

/-- A file that counts for a class declares it. -/
theorem declares_of_counting? {id : ClassIdentifier} {files : List ModuleFile}
    {found : ModuleFile} (counts : counting? naming read id files = some found) :
    found ∈ files ∧ found.Declares naming read id := by
  rw [counting?, Option.or_eq_some_iff] at counts
  rcases counts with last | ⟨-, last⟩
  · have member := List.mem_filter.mp (List.mem_of_getLast? last)
    exact ⟨member.1, (of_decide_eq_true member.2).1⟩
  · have member := List.mem_filter.mp (List.mem_of_getLast? last)
    exact ⟨member.1, of_decide_eq_true member.2⟩

/-- If some file declares a class then one counts for it. -/
theorem exists_counting? {id : ClassIdentifier} {files : List ModuleFile} {found : ModuleFile}
    (member : found ∈ files) (declares : found.Declares naming read id) :
    ∃ other, counting? naming read id files = some other := by
  have present : (files.filter fun other => other.Declares naming read id) ≠ [] :=
    List.ne_nil_of_mem (List.mem_filter.mpr ⟨member, decide_eq_true declares⟩)
  rw [counting?, List.getLast?_eq_some_getLast present]
  cases (files.filter fun other => other.DeclaresInPlace naming read id).getLast? with
  | none => exact ⟨_, rfl⟩
  | some other => exact ⟨other, rfl⟩

end ModuleFile

namespace CandidateSource

/-- What a source yields for a module as a file of the module, if it is a candidate. -/
def file? (module : Module) : Except DiscoveryError CandidateFile → Option ModuleFile
  | .ok file => some ⟨module, file⟩
  | .error _ => none

/-- What a source yields as a fault, if it is one. -/
def fault? : Except DiscoveryError CandidateFile → Option DiscoveryError
  | .ok _ => none
  | .error error => some error

/-- The candidates of some modules, in the order of the modules and of their candidates. -/
def files (source : CandidateSource) (modules : List Module) : List ModuleFile :=
  modules.flatMap fun module => (source.candidates module).filterMap (file? module)

/-- The faults met among the candidates of some modules, in the same order. -/
def faults (source : CandidateSource) (modules : List Module) : List DiscoveryError :=
  modules.flatMap fun module => (source.candidates module).filterMap fault?

end CandidateSource

namespace ClassIndex

variable (naming : Naming) (read : RawPath → Option String)

/-- The index with the class that one more file declares, if it declares one. -/
def addFile (index : ClassIndex) (found : ModuleFile) : ClassIndex :=
  match declaredBy naming read found.module found.file with
  | some declared => index.add declared
  | none => index

/-- The index of some files. -/
def ofFiles (files : List ModuleFile) : ClassIndex := files.foldl (addFile naming read) .empty

/-- What a file declares is its definition, with a note whether the file is in place. -/
theorem declaredBy_eq (found : ModuleFile) :
    declaredBy naming read found.module found.file =
      (found.definition? naming read).map fun definition =>
        ⟨definition, found.expectedClass naming == definition.id⟩ := by
  unfold declaredBy ModuleFile.definition?
  cases read found.file.path with
  | none => rfl
  | some text =>
    simp only [Option.bind_eq_bind, Option.bind_some]
    cases ClassDefinition.ofSource? naming text <;> rfl

/-- What one more file does to an index. A file that declares nothing, and a misplaced one
that declares a settled class, leave it alone; every other declaration is put in, and
settles its class if the file is in place. -/
theorem addFile_cases (index : ClassIndex) (found : ModuleFile) :
    (found.definition? naming read = none ∧ index.addFile naming read found = index) ∨
      ∃ definition, found.definition? naming read = some definition ∧
        ((found.expectedClass naming = definition.id ∧ index.addFile naming read found =
            ⟨index.table.insert definition, definition.id :: index.settled⟩) ∨
          (found.expectedClass naming ≠ definition.id ∧ definition.id ∈ index.settled ∧
            index.addFile naming read found = index) ∨
          (found.expectedClass naming ≠ definition.id ∧ definition.id ∉ index.settled ∧
            index.addFile naming read found =
              ⟨index.table.insert definition, index.settled⟩)) := by
  rw [addFile, declaredBy_eq]
  cases found.definition? naming read with
  | none => exact .inl ⟨rfl, rfl⟩
  | some definition =>
    refine .inr ⟨definition, rfl, ?_⟩
    by_cases placed : found.expectedClass naming = definition.id
    · exact .inl ⟨placed, by simp [add, placed]⟩
    · by_cases settled : definition.id ∈ index.settled
      · exact .inr (.inl ⟨placed, settled, by simp [add, placed, settled]⟩)
      · exact .inr (.inr ⟨placed, settled, by simp [add, placed, settled]⟩)

/-- A file settles the class that it declares if it is in place. -/
theorem mem_settled_addFile (index : ClassIndex) (found : ModuleFile) (id : ClassIdentifier) :
    id ∈ (index.addFile naming read found).settled ↔
      found.DeclaresInPlace naming read id ∨ id ∈ index.settled := by
  unfold ModuleFile.DeclaresInPlace ModuleFile.Declares
  rcases addFile_cases naming read index found with ⟨declared, added⟩ |
    ⟨definition, declared, ⟨placed, added⟩ | ⟨misplaced, _, added⟩ | ⟨misplaced, _, added⟩⟩
  · simp [declared, added]
  · simp only [declared, added, placed, List.mem_cons, Option.map_some, Option.some.injEq,
      and_self, eq_comm]
  all_goals
    have absent : ¬(definition.id = id ∧ found.expectedClass naming = id) := by
      rintro ⟨rfl, placed⟩
      exact misplaced placed
    simp [declared, added, absent]

/-- A file changes what an index holds under the name of the class that it declares, unless
it is misplaced and the class is settled. -/
theorem lookup_addFile (index : ClassIndex) (found : ModuleFile) (id : ClassIdentifier) :
    (index.addFile naming read found).table.lookup id =
      if found.DeclaresInPlace naming read id ∨
          (found.Declares naming read id ∧ id ∉ index.settled) then
        found.definition? naming read
      else index.table.lookup id := by
  have inserted : ∀ definition : ClassDefinition, (index.table.insert definition).lookup id =
      if definition.id = id then some definition else index.table.lookup id := by
    intro definition
    split
    · rename_i same
      rw [← same, ClassTable.lookup_insert_self]
    · rename_i differs
      exact ClassTable.lookup_insert_of_ne (Ne.symm differs) index.table
  unfold ModuleFile.DeclaresInPlace ModuleFile.Declares
  rcases addFile_cases naming read index found with ⟨declared, added⟩ |
    ⟨definition, declared, ⟨placed, added⟩ | ⟨misplaced, settled, added⟩ |
      ⟨misplaced, unsettled, added⟩⟩
  · simp [declared, added]
  · by_cases same : definition.id = id <;> simp [declared, added, placed, inserted, same]
  · by_cases same : definition.id = id
    · subst same
      simp [declared, added, misplaced, settled]
    · simp [declared, added, same]
  · by_cases same : definition.id = id
    · subst same
      simp [declared, added, unsettled, inserted]
    · simp [declared, added, inserted, same]

/-- The index of some files and one more is the index of those files, with that one added. -/
theorem ofFiles_concat (files : List ModuleFile) (found : ModuleFile) :
    ofFiles naming read (files ++ [found]) =
      (ofFiles naming read files).addFile naming read found := by
  rw [ofFiles, List.foldl_append]
  rfl

/-- The settled classes of an index are those that a file declares in their place. -/
theorem mem_settled_ofFiles (files : List ModuleFile) (id : ClassIdentifier) :
    id ∈ (ofFiles naming read files).settled ↔
      ∃ found ∈ files, found.DeclaresInPlace naming read id := by
  induction files using List.reverseRecOn with
  | nil => simp [ofFiles, empty]
  | append_singleton files found inductionHypothesis =>
    rw [ofFiles_concat, mem_settled_addFile, inductionHypothesis]
    simp only [List.mem_append, List.mem_singleton]
    constructor
    · rintro (placed | ⟨other, member, placed⟩)
      · exact ⟨found, .inr rfl, placed⟩
      · exact ⟨other, .inl member, placed⟩
    · rintro ⟨other, member | rfl, placed⟩
      · exact .inr ⟨other, member, placed⟩
      · exact .inl placed

/-- An index holds the definition in the file that counts. The induction is on the last
file, which counts exactly when adding it replaces what is there. -/
theorem lookup_ofFiles (files : List ModuleFile) (id : ClassIdentifier) :
    (ofFiles naming read files).table.lookup id =
      (ModuleFile.counting? naming read id files).bind (ModuleFile.definition? naming read) := by
  induction files using List.reverseRecOn with
  | nil => rfl
  | append_singleton files found inductionHypothesis =>
    have unsettled : id ∉ (ofFiles naming read files).settled ↔
        ∀ other ∈ files, ¬other.DeclaresInPlace naming read id := by
      rw [mem_settled_ofFiles]
      simp
    rw [ofFiles_concat, lookup_addFile, inductionHypothesis, ModuleFile.counting?_concat]
    simp only [unsettled]
    split <;> rfl

/-- An index has one entry for each name. -/
theorem nodup_ofFiles (files : List ModuleFile) :
    (Keyed.keys (ofFiles naming read files).table.entries).Nodup := by
  induction files using List.reverseRecOn with
  | nil => simp [ofFiles, empty, ClassTable.empty, Keyed.keys]
  | append_singleton files found inductionHypothesis =>
    have inserted : ∀ definition : ClassDefinition,
        (Keyed.keys ((ofFiles naming read files).table.insert definition).entries).Nodup :=
      fun definition => Keyed.nodup_keys_insert _ _ _ inductionHypothesis
    rw [ofFiles_concat]
    rcases addFile_cases naming read (ofFiles naming read files) found with ⟨_, added⟩ |
      ⟨definition, _, ⟨_, added⟩ | ⟨_, _, added⟩ | ⟨_, _, added⟩⟩
    · rwa [added]
    · rw [added]
      exact inserted definition
    · rwa [added]
    · rw [added]
      exact inserted definition

/-- A name is among the entries of an index exactly when some file declares it. -/
theorem mem_keys_ofFiles (files : List ModuleFile) (id : ClassIdentifier) :
    id ∈ Keyed.keys (ofFiles naming read files).table.entries ↔
      ∃ found ∈ files, found.Declares naming read id := by
  have held : (Keyed.get? id (ofFiles naming read files).table.entries).isSome =
      ((ModuleFile.counting? naming read id files).bind
        (ModuleFile.definition? naming read)).isSome :=
    congrArg Option.isSome (lookup_ofFiles naming read files id)
  rw [← Keyed.get?_isSome_iff, held]
  constructor
  · intro some
    obtain ⟨definition, counted⟩ := Option.isSome_iff_exists.mp some
    obtain ⟨found, counts, _⟩ := Option.bind_eq_some_iff.mp counted
    exact ⟨found, ModuleFile.declares_of_counting? counts⟩
  · rintro ⟨found, member, declares⟩
    obtain ⟨other, counts⟩ := ModuleFile.exists_counting? member declares
    obtain ⟨definition, found, _⟩ :=
      Option.map_eq_some_iff.mp (ModuleFile.declares_of_counting? counts).2
    simp [counts, found]

/-- An index has as many entries as there are names that its files declare. -/
theorem size_ofFiles (files : List ModuleFile) :
    (ofFiles naming read files).table.size = ((files.filterMap
      (ModuleFile.definition? naming read)).map ClassDefinition.id).toFinset.card := by
  have names : (Keyed.keys (ofFiles naming read files).table.entries).toFinset = ((files.filterMap
      (ModuleFile.definition? naming read)).map ClassDefinition.id).toFinset := by
    ext id
    simp only [List.mem_toFinset, mem_keys_ofFiles, List.mem_map, List.mem_filterMap,
      ModuleFile.Declares, Option.map_eq_some_iff]
    constructor
    · rintro ⟨found, member, definition, declared, same⟩
      exact ⟨definition, ⟨found, member, declared⟩, same⟩
    · rintro ⟨definition, ⟨found, member, declared⟩, same⟩
      exact ⟨found, member, definition, declared, same⟩
  rw [← names, List.toFinset_card_of_nodup (nodup_ofFiles naming read files), Keyed.keys,
    List.length_map]
  rfl

/-- A file that declares a class in its place is the one whose definition is held, if every
file that does so has the same path. -/
theorem lookup_ofFiles_of_inPlace {files : List ModuleFile} {found : ModuleFile}
    {id : ClassIdentifier} (member : found ∈ files)
    (placed : found.DeclaresInPlace naming read id)
    (alone : ∀ other ∈ files, other.DeclaresInPlace naming read id →
      other.file.path = found.file.path) :
    (ofFiles naming read files).table.lookup id = found.definition? naming read := by
  have present : (files.filter fun other => other.DeclaresInPlace naming read id) ≠ [] :=
    List.ne_nil_of_mem (List.mem_filter.mpr ⟨member, decide_eq_true placed⟩)
  obtain ⟨last, lastFound⟩ : ∃ last, (files.filter fun other =>
      other.DeclaresInPlace naming read id).getLast? = some last :=
    ⟨_, List.getLast?_eq_some_getLast present⟩
  have lastMember := List.mem_filter.mp (List.mem_of_getLast? lastFound)
  have samePath := alone last lastMember.1 (of_decide_eq_true lastMember.2)
  rw [lookup_ofFiles, ModuleFile.counting?, lastFound, Option.some_or, Option.bind_some,
    ModuleFile.definition?, ModuleFile.definition?, samePath]

/-- Candidates are taken up one after the other until the first fault among them. -/
theorem addCandidates_eq (module : Module)
    (candidates : List (Except DiscoveryError CandidateFile)) (index : ClassIndex) :
    addCandidates naming read module candidates index =
      match (candidates.filterMap CandidateSource.fault?).head? with
      | some error => .error error
      | none => .ok ((candidates.filterMap (CandidateSource.file? module)).foldl
          (addFile naming read) index) := by
  induction candidates generalizing index with
  | nil => rfl
  | cons candidate candidates inductionHypothesis =>
    cases candidate with
    | error error => rfl
    | ok file =>
      rw [addCandidates, inductionHypothesis]
      rfl

/-- Modules are taken up one after the other until the first fault among their candidates. -/
theorem addModules_eq (source : CandidateSource) (modules : List Module) (index : ClassIndex) :
    addModules naming read source modules index =
      match (source.faults modules).head? with
      | some error => .error error
      | none => .ok ((source.files modules).foldl (addFile naming read) index) := by
  induction modules generalizing index with
  | nil => rfl
  | cons module modules inductionHypothesis =>
    rw [addModules, addCandidates_eq, CandidateSource.faults, CandidateSource.files,
      List.flatMap_cons, List.flatMap_cons, List.foldl_append]
    cases faults : (source.candidates module).filterMap CandidateSource.fault? with
    | nil =>
      exact inductionHypothesis (((source.candidates module).filterMap
        (CandidateSource.file? module)).foldl (addFile naming read) index)
    | cons error errors => rfl

end ClassIndex

namespace ClassTable

variable (naming : Naming) (read : RawPath → Option String) (source : CandidateSource)
  (modules : List Module)

/-- The table of some modules is that of the index of their files, unless there is a fault. -/
theorem ofModules_eq :
    ofModules naming read source modules =
      match (source.faults modules).head? with
      | some error => .error error
      | none => .ok (ClassIndex.ofFiles naming read (source.files modules)).table := by
  rw [ofModules, ClassIndex.addModules_eq]
  cases (source.faults modules).head? <;> rfl

/-- The first fault of the source ends the indexing. Without one there is a table, and it
holds under each name the definition in the last file that declares the class in its place;
if no file does so, the one in the last file that declares it; and nothing if none does. The
table has one entry for each name that is declared. -/
theorem ofModules_prefers_place :
    (∀ error, (source.faults modules).head? = some error →
      ofModules naming read source modules = .error error) ∧
    (source.faults modules = [] →
      ∃ table, ofModules naming read source modules = .ok table ∧
        (∀ id,
          ((∀ found ∈ source.files modules, ¬found.Declares naming read id) →
            table.lookup id = none) ∧
          (∀ found, ((source.files modules).filter fun other =>
              other.DeclaresInPlace naming read id).getLast? = some found →
            ∃ definition, found.definition? naming read = some definition ∧
              definition.id = id ∧ table.lookup id = some definition) ∧
          ((∀ other ∈ source.files modules, ¬other.DeclaresInPlace naming read id) →
            ∀ found, ((source.files modules).filter fun other =>
              other.Declares naming read id).getLast? = some found →
            ∃ definition, found.definition? naming read = some definition ∧
              definition.id = id ∧ table.lookup id = some definition)) ∧
        table.size = (((source.files modules).filterMap
          (ModuleFile.definition? naming read)).map ClassDefinition.id).toFinset.card) := by
  constructor
  · intro error first
    rw [ofModules_eq, first]
  · intro faultless
    refine ⟨(ClassIndex.ofFiles naming read (source.files modules)).table, ?_, ?_, ?_⟩
    · rw [ofModules_eq, faultless]
      rfl
    · intro id
      have held := ClassIndex.lookup_ofFiles naming read (source.files modules) id
      -- The file that counts declares the class, so the definition bears its name.
      have own : ∀ found, ModuleFile.counting? naming read id (source.files modules) = some found →
          ∃ definition, found.definition? naming read = some definition ∧ definition.id = id ∧
            (ClassIndex.ofFiles naming read (source.files modules)).table.lookup id =
              some definition := by
        intro found counts
        obtain ⟨definition, declared, same⟩ :=
          Option.map_eq_some_iff.mp (ModuleFile.declares_of_counting? counts).2
        exact ⟨definition, declared, same, by rw [held, counts, Option.bind_some, declared]⟩
      refine ⟨fun undeclared => ?_, fun found last => own found ?_,
        fun misplaced found last => own found ?_⟩
      · cases counts : ModuleFile.counting? naming read id (source.files modules) with
        | none => rw [held, counts, Option.bind_none]
        | some found =>
          obtain ⟨member, declares⟩ := ModuleFile.declares_of_counting? counts
          exact absurd declares (undeclared found member)
      · rw [ModuleFile.counting?, last, Option.some_or]
      · have none : (source.files modules).filter (fun other =>
            other.DeclaresInPlace naming read id) = [] :=
          List.filter_eq_nil_iff.mpr fun other member placed =>
            misplaced other member (of_decide_eq_true placed)
        rw [ModuleFile.counting?, none, List.getLast?_nil, Option.none_or, last]
    · exact ClassIndex.size_ofFiles naming read (source.files modules)

/-- Three files of one module that declare a mailer, the second of them in its place, and a
module that is given twice. -/
def mailerCopies : CandidateSource where
  skips _ := false
  candidates module := ["Copy.php", "Mailer.php", "Zz/Mailer.php"].map fun name : String =>
    .ok ⟨module.path, name⟩

/-- The mailer in its place has a documentation block of its own. -/
def readMailer (path : RawPath) : Option String :=
  if path = "src/Mailer.php" then some "namespace App;\n/** @Service */\nclass Mailer \x7b\x7d"
  else if path = "src/Copy.php" then some "namespace App;\nclass Mailer \x7b\x7d"
  else some "namespace App;\ninterface Mailer \x7b\x7d"

/-- The mailer is the one in its place, though a misplaced copy comes before it and another
one behind. -/
theorem ofModules_prefers_place_mailer :
    ∃ table, ofModules .standard readMailer mailerCopies [⟨"src", "App"⟩, ⟨"src", "Lib"⟩] =
        .ok table ∧
      table.lookup "App\\Mailer" =
        some ⟨"App\\Mailer", .classKind, some "/** @Service */", []⟩ ∧
      table.size = 1 := by
  obtain ⟨table, indexed, counts, size⟩ := (ofModules_prefers_place .standard readMailer
    mailerCopies [⟨"src", "App"⟩, ⟨"src", "Lib"⟩]).2 rfl
  refine ⟨table, indexed, ?_, size.trans (by decide +kernel)⟩
  obtain ⟨definition, declared, -, held⟩ := (counts "App\\Mailer").2.1
    ⟨⟨"src", "App"⟩, ⟨"src", "Mailer.php"⟩⟩ (by decide +kernel)
  rw [held, ← declared]
  decide +kernel

end ClassTable

end ServiceWiring
