import ServiceWiring.Proofs.Class.Placement
import ServiceWiring.Proofs.Discovery.Runs
import ServiceWiring.Proofs.Discovery.Unresolved
import ServiceWiring.Proofs.Files.Distinct
import ServiceWiring.Proofs.Text.Pieces

/-!
# Different files lead to different classes

The name of a class is joined from the names in a path, so two files could lead to one class
and the second one would be passed over. That takes a name that holds a character of the
separator, two extensions, or a name that is no text: the names can be told from what they are
joined to when they are shown as they are and the separator cannot come up inside them, and the
stem of a file tells the file when the extension is known.

The main statement says so for all paths below one prefix, and of the candidates of a module in
every source that keeps its files apart, as scanners do. What the module adds to a collection is
then one descriptor for each candidate that is a service, unless its class came up in a module
before. Names that are no texts may be shown alike, and then the first of the files hides the
other ones.
-/

namespace ServiceWiring

open Text (join splitOnChar splitOnChar_mark splitOnChar_of_lacks splitOnChar_ne_nil)

/-! ## Names that are joined -/

/-- Names that lack the first character of the separator are recovered from what they are joined
to. -/
theorem join_injective_of_lacks {mark : Char} {separator : List Char}
    {names others : List (List Char)} (present : names ≠ []) (otherPresent : others ≠ [])
    (lacks : ∀ name ∈ names, mark ∉ name) (otherLacks : ∀ name ∈ others, mark ∉ name)
    (same : join (mark :: separator) names = join (mark :: separator) others) :
    names = others := by
  have longer : ∀ name next : List Char, ∀ rest : List (List Char), mark ∉ name →
      splitOnChar mark (join (mark :: separator) (name :: next :: rest)) =
        name :: splitOnChar mark (separator ++ join (mark :: separator) (next :: rest)) := by
    intro name next rest free
    rw [join, List.append_assoc, List.cons_append, splitOnChar_mark, splitOnChar_of_lacks free,
      List.singleton_append]
    exact List.cons_ne_nil _ _
  have pieces := congrArg (splitOnChar mark) same
  induction names generalizing others with
  | nil => exact absurd rfl present
  | cons name names inductionHypothesis =>
    cases others with
    | nil => exact absurd rfl otherPresent
    | cons other others =>
      obtain ⟨free, namesFree⟩ := List.forall_mem_cons.mp lacks
      obtain ⟨otherFree, othersFree⟩ := List.forall_mem_cons.mp otherLacks
      rcases names with _ | ⟨next, names⟩ <;> rcases others with _ | ⟨otherNext, others⟩
      · exact congrArg (fun name => [name]) same
      · rw [longer other otherNext others otherFree, join, splitOnChar_of_lacks free] at pieces
        exact absurd (List.cons.inj pieces).2.symm (splitOnChar_ne_nil _ _)
      · rw [longer name next names free, join, splitOnChar_of_lacks otherFree] at pieces
        exact absurd (List.cons.inj pieces).2 (splitOnChar_ne_nil _ _)
      · rw [longer name next names free, longer other otherNext others otherFree] at pieces
        obtain rfl := (List.cons.inj pieces).1
        have rest : join (mark :: separator) (next :: names) =
            join (mark :: separator) (otherNext :: others) := by
          simpa [join] using same
        rw [inductionHypothesis (List.cons_ne_nil _ _) (List.cons_ne_nil _ _) namesFree othersFree
          rest (congrArg (splitOnChar mark) rest)]

/-- Whether a path is that of a source file: a text of names and no directions, none of them
with a character of the separator, and the last one more than a point and the extension. -/
def RawPath.IsSource (separator extension : List Char) (path : RawPath) : Prop :=
  ∃ (text : String) (directories : List (List Char)) (name : List Char), path = text ∧
    Path.components text = (directories ++ [name ++ '.' :: extension]).map .normal ∧
    name ≠ [] ∧
    ∀ part ∈ directories ++ [name ++ '.' :: extension], ∀ c ∈ part, c ∉ separator

/-- The names in a path of nothing but names. -/
theorem Path.normalNames_of_components {path : String} {names : List (List Char)}
    (named : components path = names.map .normal) : normalNames path = names := by
  rw [normalNames, named, List.filterMap_map]
  exact List.filterMap_some

/-- Source files with one extension are the same file if they lead to the same class. -/
theorem Naming.names_eq_of_classIdentifier_eq {naming : Naming}
    (separated : naming.separator ≠ "") {extension : List Char} (flat : '.' ∉ extension)
    {namespacePrefix : String} {path other : RawPath}
    (isSource : path.IsSource naming.separator.toList extension)
    (otherIsSource : other.IsSource naming.separator.toList extension)
    (same : naming.classIdentifier path namespacePrefix =
      naming.classIdentifier other namespacePrefix) : path.names = other.names := by
  obtain ⟨text, directories, name, rfl, components, present, apart⟩ := isSource
  obtain ⟨otherText, otherDirectories, otherName, rfl, otherComponents, otherPresent,
    otherApart⟩ := otherIsSource
  obtain ⟨mark, separator, marked⟩ := List.exists_cons_of_ne_nil
    (fun none => separated (String.toList_eq_nil_iff.mp none))
  have joined : join naming.separator.toList (directories ++ [name]) =
      join naming.separator.toList (otherDirectories ++ [otherName]) := by
    rw [classIdentifier, classIdentifier, RawPath.shownNames_ofText, RawPath.shownNames_ofText,
      Path.normalNames_of_components components,
      Path.normalNames_of_components otherComponents, stemLast_concat, stemLast_concat,
      Path.stem_append_extension present flat, Path.stem_append_extension otherPresent flat]
      at same
    have texts := String.ofList_injective same
    split at texts
    · exact texts
    · exact List.append_cancel_left texts
  have lacks : ∀ directories name,
      (∀ part ∈ directories ++ [name ++ '.' :: extension], ∀ c ∈ part,
        c ∉ naming.separator.toList) → ∀ part ∈ directories ++ [name], mark ∉ part := by
    intro directories name apart part member inside
    have first : mark ∈ naming.separator.toList := by
      rw [marked]
      exact List.mem_cons_self
    rcases List.mem_append.mp member with directory | last
    · exact apart part (List.mem_append_left _ directory) mark inside first
    · obtain rfl := List.mem_singleton.mp last
      exact apart _ (List.mem_append_right _ List.mem_cons_self) mark
        (List.mem_append_left _ inside) first
  rw [marked] at joined
  have names := join_injective_of_lacks (by simp) (by simp) (lacks _ _ apart)
    (lacks _ _ otherApart) joined
  obtain ⟨rfl, last⟩ := List.append_inj' names rfl
  obtain rfl := List.singleton_inj.mp last
  rw [RawPath.names_ofText, RawPath.names_ofText, Path.normalNames_of_components components,
    Path.normalNames_of_components otherComponents]

/-! ## What a module adds to a collection -/

/-- A list without repetitions has none to leave out. -/
theorem eraseDups_of_nodup {classes : List ClassIdentifier} (distinct : classes.Nodup) :
    classes.eraseDups = classes := by
  induction classes with
  | nil => rfl
  | cons id classes inductionHypothesis =>
    obtain ⟨new, others⟩ := List.nodup_cons.mp distinct
    have kept : classes.filter (fun other => !other == id) = classes := by
      rw [List.filter_eq_self]
      intro other member
      have different : other ≠ id := fun same => new (same ▸ member)
      simpa using different
    rw [List.eraseDups_cons, kept, inductionHypothesis others]

namespace ClassTable

variable (table : ClassTable) (build : ClassDefinition → Except DiscoveryError BuildOutcome)

/-- Only loadable classes have descriptors. -/
theorem descriptor?_of_not_loadable {id : ClassIdentifier} (absent : table.loadable id = none) :
    table.descriptor? build id = none := by
  rw [descriptor?, absent, Option.bind_none]

/-- The services among different classes behind others are those of the classes that are not
among the others. -/
theorem filterMap_unseen_append (classes : List ClassIdentifier) {further : List ClassIdentifier}
    (distinct : further.Nodup) :
    (table.unseen [] (classes ++ further)).filterMap (table.descriptor? build) =
      (table.unseen [] classes).filterMap (table.descriptor? build) ++
        (further.filter fun id => id ∉ classes).filterMap (table.descriptor? build) := by
  have kept : (further.filter fun id => (table.loadable id).isSome).Nodup := distinct.filter _
  have fresh : ((further.filter fun id => (table.loadable id).isSome).removeAll
      (classes.filter fun id => (table.loadable id).isSome)).Nodup := kept.filter _
  simp only [unseen, List.contains_nil, Bool.not_false, Bool.and_true]
  rw [List.filter_append, List.eraseDups_append, eraseDups_of_nodup fresh, List.filterMap_append]
  congr 1
  rw [List.removeAll, List.filter_filter, List.filterMap_filter, List.filterMap_filter]
  apply List.filterMap_congr
  intro id _
  cases loaded : table.loadable id with
  | none => simp [table.descriptor?_of_not_loadable build loaded]
  | some definition => simp [List.mem_filter, loaded]

end ClassTable

/-- A module whose candidates all lead to different classes adds to a collection the descriptor
of each candidate that is a service, unless its class came up in a module before. -/
theorem Pipeline.collect_concat_of_distinct (pipeline : Pipeline) {source : CandidateSource}
    (silent : ∀ module, source.skips module = true → source.candidates module = [])
    {module : Module}
    (distinct : ((source.files [module]).map (ModuleFile.expectedClass pipeline.naming)).Nodup)
    {earlier : List Module} {stats after : Stats} {descriptors : List ServiceDescriptor}
    (collected : pipeline.collect source (earlier ++ [module]) stats = (.ok descriptors, after)) :
    ∃ before, (pipeline.collect source earlier stats).1 = .ok before ∧
      descriptors = before ++ ((source.files [module]).filter fun found =>
        found.expectedClass pipeline.naming ∉ pipeline.candidateClasses source earlier).filterMap
          fun found => pipeline.table.descriptor? pipeline.build
            (found.expectedClass pipeline.naming) := by
  have passing : (pipeline.failures source (earlier ++ [module])).head? = none ∧
      (pipeline.services source (earlier ++ [module])).map Prod.snd = descriptors := by
    have result := pipeline.collect_result source (earlier ++ [module]) stats
    rw [collected] at result
    cases first : (pipeline.failures source (earlier ++ [module])).head? with
    | some error => simp [first] at result
    | none =>
      rw [first] at result
      exact ⟨rfl, (Except.ok.inj result).symm⟩
  have earlierPassing : (pipeline.failures source earlier).head? = none := by
    have parts : pipeline.failures source (earlier ++ [module]) =
        pipeline.failures source earlier ++ pipeline.failures source [module] := by
      simp only [failures, List.filter_append, List.flatMap_append]
    rw [List.head?_eq_none_iff] at passing ⊢
    rw [parts] at passing
    exact (List.append_eq_nil_iff.mp passing.1).1
  refine ⟨(pipeline.services source earlier).map Prod.snd, ?_, ?_⟩
  · rw [pipeline.collect_result source earlier stats, earlierPassing]
  · have classes : pipeline.candidateClasses source (earlier ++ [module]) =
        pipeline.candidateClasses source earlier ++
          (source.files [module]).map (ModuleFile.expectedClass pipeline.naming) := by
      simp only [pipeline.candidateClasses_eq silent, CandidateSource.files, List.flatMap_append,
        List.map_append]
    rw [← passing.2, pipeline.services_descriptors, pipeline.services_descriptors, classes,
      pipeline.table.filterMap_unseen_append pipeline.build _ distinct, List.filter_map,
      List.filterMap_map]
    rfl

/-- The files of a module belong to that module. -/
theorem CandidateSource.module_of_mem_files (source : CandidateSource) {module : Module}
    {found : ModuleFile} (member : found ∈ source.files [module]) : found.module = module := by
  rw [files, List.flatMap_singleton] at member
  obtain ⟨item, _, listed⟩ := List.mem_filterMap.mp member
  cases item with
  | error error => cases listed
  | ok file => exact congrArg ModuleFile.module (Option.some.inj listed).symm

/-- Whether a source keeps the files of each module apart: it lists none of them twice, and none
at all of a module that it leaves out. Their names need not be texts. -/
structure CandidateSource.KeepsApart (source : CandidateSource) : Prop where
  once : ∀ module, (source.files [module]).Pairwise fun first second =>
    first.file.relative.names ≠ second.file.relative.names
  silent : ∀ module, source.skips module = true → source.candidates module = []

/-- A scanner keeps files apart, whether or not it follows links. -/
theorem FileScanner.keepsApart (scanner : FileScanner) {system : FileSystem}
    (formed : system.root.WellFormed) : (scanner.source system).KeepsApart where
  once module := by
    obtain ⟨places, once, listed, spelled⟩ := scanner.files_distinct formed module
    have named : ∀ place ∈ places, (module.candidate place).relative.names =
        place.map fun name => Text.encoded name.toList := by
      intro place member
      have components := (spelled place member).trans (List.map_map (f := String.toList)
        (g := Path.Component.normal)).symm
      rw [Module.candidate, RawPath.names_ofText, Path.normalNames_of_components components,
        List.map_map]
      rfl
    rw [listed, List.pairwise_map]
    refine once.imp_of_mem ?_
    intro first second here there different names
    rw [named first here, named second there] at names
    refine different (List.map_injective_iff.mpr (fun name other same => ?_) names)
    exact String.toList_injective (RawPath.encoded_injective same)
  silent _ := scanner.candidates_of_skips system

/-- Below one prefix, different source files with one extension lead to different classes if
their paths are texts, for every separator that is not empty. So of a source that keeps files
apart, as scanners do, no two source files of a module stand in each other's way, whatever else
the module holds; and if it holds source files only, it adds to a collection the descriptor of
every file that is a service, unless the class of the file came up in an earlier module. No
service is passed over for another file of its own module.

Proof: the first character of the separator parts the names that the class is joined from, and
the stem of the last name with the extension is the file name. A walk lists no path twice. -/
theorem Naming.classIdentifier_tells_files_apart (naming : Naming)
    (separated : naming.separator ≠ "") {extension : List Char} (flat : '.' ∉ extension) :
    (∀ (namespacePrefix : String) (path other : RawPath),
      path.IsSource naming.separator.toList extension →
      other.IsSource naming.separator.toList extension →
      path.names ≠ other.names →
      naming.classIdentifier path namespacePrefix ≠
        naming.classIdentifier other namespacePrefix) ∧
    (∀ (scanner : FileScanner) (system : FileSystem), system.root.WellFormed →
      (scanner.source system).KeepsApart) ∧
    ∀ (source : CandidateSource) (module : Module), source.KeepsApart →
      (source.files [module]).Pairwise (fun first second =>
        first.file.relative.IsSource naming.separator.toList extension →
        second.file.relative.IsSource naming.separator.toList extension →
        first.expectedClass naming ≠ second.expectedClass naming) ∧
      ((∀ found ∈ source.files [module],
          found.file.relative.IsSource naming.separator.toList extension) →
        ∀ (pipeline : Pipeline) (earlier : List Module) (stats after : Stats)
          (descriptors : List ServiceDescriptor), pipeline.naming = naming →
          pipeline.collect source (earlier ++ [module]) stats = (.ok descriptors, after) →
          ∃ before, (pipeline.collect source earlier stats).1 = .ok before ∧
            descriptors = before ++ ((source.files [module]).filter fun found =>
              found.expectedClass naming ∉ pipeline.candidateClasses source earlier).filterMap
                fun found =>
                  pipeline.table.descriptor? pipeline.build (found.expectedClass naming)) := by
  refine ⟨?_, fun scanner system => scanner.keepsApart, ?_⟩
  · intro namespacePrefix path other isSource otherIsSource different same
    exact different
      (naming.names_eq_of_classIdentifier_eq separated flat isSource otherIsSource same)
  · intro source module keeps
    have apart : (source.files [module]).Pairwise (fun first second =>
        first.file.relative.IsSource naming.separator.toList extension →
        second.file.relative.IsSource naming.separator.toList extension →
        first.expectedClass naming ≠ second.expectedClass naming) := by
      refine (keeps.once module).imp_of_mem ?_
      intro first second here there different isSource otherIsSource same
      have own : first.module = second.module := by
        rw [source.module_of_mem_files here, source.module_of_mem_files there]
      rw [ModuleFile.expectedClass, ModuleFile.expectedClass, own] at same
      exact different
        (naming.names_eq_of_classIdentifier_eq separated flat isSource otherIsSource same)
    refine ⟨apart, ?_⟩
    rintro sources pipeline earlier stats after descriptors rfl collected
    have distinct : ((source.files [module]).map
        (ModuleFile.expectedClass pipeline.naming)).Nodup := by
      rw [List.nodup_iff_pairwise_ne, List.pairwise_map]
      exact apart.imp_of_mem fun here there different =>
        different (sources _ here) (sources _ there)
    exact pipeline.collect_concat_of_distinct keeps.silent distinct collected

/-- A pipeline for the office, both of whose source files declare a service. -/
def officePipeline : Pipeline where
  naming := .standard
  table := .ofList [⟨"App\\a", .classKind, some "", []⟩,
    ⟨"App\\a\\Sender", .classKind, some "", []⟩]
  parser := .always [⟨serviceName, .obj []⟩]
  environment := "dev"

/-- The services of the office, in the order of its files. -/
def officeServices : List ServiceDescriptor := [.ofClass "App\\a\\Sender", .ofClass "App\\a"]

/-- Names that differ by what stands between two points are told apart even if the prefix is
nothing but separators, and both services of the office are collected. -/
theorem Naming.classIdentifier_tells_files_apart_office :
    let source := FileScanner.standardScanner.source FileScanner.officeSystem
    Naming.standard.classIdentifier "v1.2/Report.html.php" "\\\\" ≠
        Naming.standard.classIdentifier "v1.2/Report.php" "\\\\" ∧
      officePipeline.collect source [⟨"office", "App"⟩] .zero =
        (.ok officeServices, ⟨1, 0, 2, 0, 0, 0, 0, 0⟩) ∧
      officeServices = (source.files [⟨"office", "App"⟩]).filterMap fun found =>
        officePipeline.table.descriptor? officePipeline.build (found.expectedClass .standard) := by
  intro source
  have isSource : ∀ (text : String) (directories : List (List Char)) (name : List Char),
      Path.components text = (directories ++ [name ++ ".php".toList]).map .normal → name ≠ [] →
      (∀ part ∈ directories ++ [name ++ ".php".toList], '\\' ∉ part) →
      (text : RawPath).IsSource Naming.standard.separator.toList "php".toList := by
    intro text directories name components present lacks
    refine ⟨text, directories, name, rfl, components, present, ?_⟩
    intro part member c inside separates
    obtain rfl : c = '\\' := List.mem_singleton.mp separates
    exact lacks part member inside
  obtain ⟨told, scans, office⟩ := classIdentifier_tells_files_apart .standard (by decide)
    (show '.' ∉ "php".toList by decide)
  have own : source.skips ⟨"office", "App"⟩ = false := by decide
  have scanned : source.candidates ⟨"office", "App"⟩ =
      [.ok ⟨"office", "a/Sender.php"⟩, .ok ⟨"office", "a.php"⟩] := FileScanner.scan_officeSystem
  have files : source.files [⟨"office", "App"⟩] =
      [⟨⟨"office", "App"⟩, ⟨"office", "a/Sender.php"⟩⟩,
        ⟨⟨"office", "App"⟩, ⟨"office", "a.php"⟩⟩] := by
    rw [CandidateSource.files, List.flatMap_singleton, scanned]
    rfl
  have collected : officePipeline.collect source ([] ++ [⟨"office", "App"⟩]) .zero =
      (.ok officeServices, ⟨1, 0, 2, 0, 0, 0, 0, 0⟩) := by
    have found : findings .standard source ([] ++ [⟨"office", "App"⟩]) =
        [.scanned, .candidate "App\\a\\Sender", .candidate "App\\a"] := by
      simp only [findings, findingsIn, own, scanned, List.nil_append, List.flatMap_singleton]
      decide +kernel
    rw [Pipeline.collect, officePipeline, found]
    cbv
  have sources : ∀ found ∈ source.files [⟨"office", "App"⟩],
      found.file.relative.IsSource Naming.standard.separator.toList "php".toList := by
    rw [files]
    refine List.forall_mem_cons.mpr ⟨?_, List.forall_mem_singleton.mpr ?_⟩
    · exact isSource "a/Sender.php" ["a".toList] "Sender".toList (by decide) (by decide)
        (by decide)
    · exact isSource "a.php" [] "a".toList (by decide) (by decide) (by decide)
  obtain ⟨-, added⟩ := office source ⟨"office", "App"⟩
    (scans FileScanner.standardScanner _ FileScanner.wellFormed_officeSystem)
  obtain ⟨before, none, whole⟩ := added sources officePipeline [] .zero _ _ rfl collected
  obtain rfl : [] = before := Except.ok.inj none
  refine ⟨?_, collected, by simpa [Pipeline.candidateClasses] using whole⟩
  refine told "\\\\" _ _ ?_ ?_ (by decide)
  · exact isSource "v1.2/Report.html.php" ["v1.2".toList] "Report.html".toList
      (by decide) (by decide) (by decide)
  · exact isSource "v1.2/Report.php" ["v1.2".toList] "Report".toList (by decide)
      (by decide) (by decide)

/-- Files of one module whose names differ in a byte that begins no character. -/
def undecodableSource : CandidateSource where
  skips _ := false
  candidates _ := [.ok ⟨"src", ⟨0xfe :: Text.encoded ".php".toList⟩⟩,
    .ok ⟨"src", ⟨0xff :: Text.encoded ".php".toList⟩⟩]

/-- A pipeline whose only class is the one that such files lead to. -/
def replacementPipeline : Pipeline where
  naming := .standard
  table := .ofList [⟨"App\\\ufffd", .classKind, some "", []⟩]
  parser := .always [⟨serviceName, .obj []⟩]
  environment := "dev"

/-- Two names of a stem and one extension, different and without a separator, are shown alike if
their stems are no texts. They lead to one class, and of the two files of a module only the
first one adds a service, though the source keeps them apart. -/
theorem Naming.classIdentifier_confuses_undecodable :
    let first : RawPath := ⟨0xfe :: Text.encoded ".php".toList⟩
    let second : RawPath := ⟨0xff :: Text.encoded ".php".toList⟩
    (first.names = [first.bytes] ∧ second.names = [second.bytes] ∧ first.names ≠ second.names ∧
      Text.byte '\\' ∉ first.bytes ++ second.bytes) ∧
    Naming.standard.classIdentifier first "App" = "App\\\ufffd" ∧
    Naming.standard.classIdentifier second "App" = "App\\\ufffd" ∧
    undecodableSource.KeepsApart ∧
    replacementPipeline.collect undecodableSource [⟨"src", "App"⟩] .zero =
      (.ok [.ofClass "App\\\ufffd"], ⟨1, 0, 2, 0, 0, 0, 0, 0⟩) := by
  intro first second
  have firstClass : Naming.standard.classIdentifier first "App" = "App\\\ufffd" := by
    decide +kernel
  have secondClass : Naming.standard.classIdentifier second "App" = "App\\\ufffd" := by
    decide +kernel
  have different : first.names ≠ second.names := by decide
  have keeps : undecodableSource.KeepsApart :=
    ⟨fun _ => List.pairwise_pair.mpr different, fun _ skipped => absurd skipped Bool.false_ne_true⟩
  refine ⟨⟨by decide, by decide, different, by decide⟩, firstClass, secondClass, keeps, ?_⟩
  have found : findings .standard undecodableSource [⟨"src", "App"⟩] =
      [.scanned, .candidate "App\\\ufffd", .candidate "App\\\ufffd"] := by
    decide +kernel
  rw [Pipeline.collect, replacementPipeline, found]
  cbv

end ServiceWiring
