import ServiceWiring.Discovery.Run
import ServiceWiring.Proofs.Class.Index
import ServiceWiring.Proofs.Class.Placement
import ServiceWiring.Proofs.Discovery.Services
import ServiceWiring.Proofs.Text.Bytes

/-!
# Candidates that lead to no class

A candidate is unresolved when the table has no loadable class under the name that its
path gives. A collection counts exactly these candidates.

The main statement is about discoveries whose classes are those that the files declare. A
file that declares a class or an enumeration where it belongs is found there, whatever else
declares the same class, as long as no other file does so in the same place; it is never
counted. The candidates that are counted are those whose class no file declares, or for
which an interface or a trait is found.
-/

namespace ServiceWiring

namespace Collection

variable (table : ClassTable) (build : ClassDefinition → Except DiscoveryError BuildOutcome)

/-- A finding counts as unresolved if it is a candidate whose class cannot be loaded. -/
theorem take_unresolved (finding : Finding) (collection : Collection) :
    (take table build finding collection).2.stats.unresolvedClasses =
      collection.stats.unresolvedClasses +
        finding.class?.toList.countP fun id => (table.loadable id).isNone := by
  cases finding with
  | vendored => rfl
  | scanned => rfl
  | fault error => rfl
  | candidate id =>
    simp only [take, visit, Finding.class?, Option.toList_some, List.countP_singleton]
    cases table.loadable id with
    | none => simp
    | some definition =>
      simp only [Option.isNone_some, Bool.false_eq_true, if_false, Nat.add_zero]
      split
      · rfl
      · split
        · rfl
        · rename_i outcome _
          cases outcome <;> rfl

/-- Findings that are all taken up count as unresolved as often as they are candidates whose
class cannot be loaded. -/
theorem takeAll_unresolved {findings : List Finding} {collection : Collection}
    (went : (takeAll table build findings collection).1 = .ok ()) :
    (takeAll table build findings collection).2.stats.unresolvedClasses =
      collection.stats.unresolvedClasses +
        (findings.filterMap Finding.class?).countP fun id => (table.loadable id).isNone := by
  induction findings generalizing collection with
  | nil => simp [takeAll]
  | cons finding findings inductionHypothesis =>
    cases taken : (take table build finding collection).1 with
    | error error =>
      rw [takeAll_cons_of_error table build taken, taken] at went
      contradiction
    | ok _ =>
      rw [takeAll_cons_of_ok table build taken] at went ⊢
      rw [inductionHypothesis went, take_unresolved, filterMap_class_cons, List.countP_append,
        Nat.add_assoc]

end Collection

namespace Pipeline

/-- A collection that succeeds counts the candidates whose class cannot be loaded. -/
theorem collect_unresolved {pipeline : Pipeline} {source : CandidateSource}
    {modules : List Module} {stats after : Stats} {descriptors : List ServiceDescriptor}
    (collected : pipeline.collect source modules stats = (.ok descriptors, after)) :
    after.unresolvedClasses = stats.unresolvedClasses +
      (pipeline.candidateClasses source modules).countP fun id =>
        (pipeline.table.loadable id).isNone := by
  rw [collect, Prod.mk.injEq] at collected
  obtain ⟨result, rfl⟩ := collected
  have went : (Collection.takeAll pipeline.table pipeline.build
      (findings pipeline.naming source modules) ⟨[], [], stats⟩).1 = .ok () := by
    cases taken : (Collection.takeAll pipeline.table pipeline.build
        (findings pipeline.naming source modules) ⟨[], [], stats⟩).1 with
    | error error =>
      rw [build] at taken
      rw [taken] at result
      contradiction
    | ok _ => rfl
  have counted := Collection.takeAll_unresolved pipeline.table pipeline.build went
  rw [filterMap_class_findings] at counted
  exact counted

end Pipeline

/-- Whether a class cannot be resolved: no file declares it, or what is found for it is an
interface or a trait. -/
def ClassTable.Unresolved (naming : Naming) (read : RawPath → Option String)
    (files : List ModuleFile) (table : ClassTable) (id : ClassIdentifier) : Prop :=
  (∀ found ∈ files, ¬found.Declares naming read id) ∨
    ∃ definition ∈ table.lookup id,
      definition.kind = .interfaceKind ∨ definition.kind = .traitKind

instance (naming : Naming) (read : RawPath → Option String) (files : List ModuleFile)
    (table : ClassTable) (id : ClassIdentifier) :
    Decidable (table.Unresolved naming read files id) :=
  inferInstanceAs (Decidable (_ ∨ _))

/-- In the table of some files the classes that cannot be resolved are those that cannot be
loaded. -/
theorem ClassIndex.unresolved_iff (naming : Naming) (read : RawPath → Option String)
    (files : List ModuleFile) (id : ClassIdentifier) :
    (ofFiles naming read files).table.Unresolved naming read files id ↔
      ((ofFiles naming read files).table.loadable id).isNone = true := by
  have declared : (∀ found ∈ files, ¬found.Declares naming read id) ↔
      (ofFiles naming read files).table.lookup id = none := by
    have held := Keyed.get?_isSome_iff id (ofFiles naming read files).table.entries
    rw [mem_keys_ofFiles] at held
    rw [ClassTable.lookup, ← Option.not_isSome_iff_eq_none, held]
    simp
  rw [ClassTable.Unresolved, declared, ClassTable.loadable]
  cases (ofFiles naming read files).table.lookup id with
  | none => simp
  | some definition =>
    cases kind : definition.kind <;>
      simp [kind, Option.filter, ClassDefinition.isLoadable, ClassKind.isLoadable]

/-- If nothing is found in modules that are left out, the candidates of all modules lead to
the classes that they should declare. -/
theorem Pipeline.candidateClasses_eq (pipeline : Pipeline) {source : CandidateSource}
    (silent : ∀ module, source.skips module = true → source.candidates module = [])
    (modules : List Module) :
    pipeline.candidateClasses source modules =
      (source.files modules).map (ModuleFile.expectedClass pipeline.naming) := by
  have within : ∀ module, (source.candidates module).filterMap (fun candidate =>
      Finding.class? (pipeline.naming.finding module candidate)) =
        ((source.candidates module).filterMap (CandidateSource.file? module)).map
          (ModuleFile.expectedClass pipeline.naming) := by
    intro module
    rw [List.map_filterMap]
    congr 1
    funext candidate
    cases candidate <;> rfl
  rw [← filterMap_class_findings, filterMap_findings _ _ _ _ rfl rfl, CandidateSource.files,
    List.map_flatMap]
  induction modules with
  | nil => rfl
  | cons module modules inductionHypothesis =>
    rw [List.filter_cons, List.flatMap_cons, ← inductionHypothesis, ← within]
    cases skipped : source.skips module with
    | true => simp [silent module skipped]
    | false => simp

/-- A scanner finds nothing in a module that it leaves out. -/
theorem FileScanner.candidates_of_skips (scanner : FileScanner) (system : FileSystem)
    {module : Module} (skipped : (scanner.source system).skips module = true) :
    (scanner.source system).candidates module = [] := by
  have skips : scanner.skips module = true := skipped
  simp [source, scan, skips]

namespace Discovery

/-- A discovery is set up with a table of classes, if its scanner and the table can be made. -/
theorem assemble_eq {config : DiscoveryConfig} {scanner : FileScanner}
    (made : FileScanner.ofConfig config.scan = .ok scanner) (system : FileSystem)
    (parser : MetadataParser) (classes : Option ClassTable) :
    assemble system config parser classes =
      (match classes with
        | some table => Except.ok table
        | none => ClassTable.ofModules ⟨config.separator⟩ system.sourceText? (scanner.source system)
            config.modules).map fun table =>
        ⟨config, scanner, ⟨⟨config.separator⟩, table, parser, config.environment⟩⟩ := by
  rw [assemble, made]
  cases classes <;> rfl

/-- Without classes of the host, a discovery has the table of the files of its modules. -/
theorem assemble_of_faultless {system : FileSystem} {config : DiscoveryConfig}
    {scanner : FileScanner} (parser : MetadataParser)
    (patterns : FileScanner.ofConfig config.scan = .ok scanner)
    (faultless : (scanner.source system).faults config.modules = []) :
    ∃ discovery, assemble system config parser none = .ok discovery ∧
      discovery.scanner = scanner ∧ discovery.pipeline.naming = ⟨config.separator⟩ ∧
      discovery.pipeline.table = (ClassIndex.ofFiles ⟨config.separator⟩ system.sourceText?
        ((scanner.source system).files config.modules)).table := by
  rw [assemble_eq patterns, ClassTable.ofModules_eq, faultless]
  exact ⟨_, rfl, rfl, rfl, rfl⟩

/-- A discovery of the classes that the files of its modules declare loses no class that is
where it belongs. If a file declares a class or an enumeration there, and no file with another
path declares the same class in the same place, the table holds the definition in the file
under the name that the path of the file gives, and no collection counts the candidate as
unresolved. Neither the order of the modules nor copies in other places make a difference.

Of all candidates of all modules, at whatever time, exactly those count as unresolved whose
class no file declared, or for which an interface or a trait was found. -/
theorem assemble_keeps_placed_classes (system : FileSystem) (config : DiscoveryConfig)
    (parser : MetadataParser) {scanner : FileScanner} (standard : config.separator = "\\")
    (patterns : FileScanner.ofConfig config.scan = .ok scanner)
    (faultless : (scanner.source system).faults config.modules = []) :
    ∃ discovery, assemble system config parser none = .ok discovery ∧
      (∀ (placement : Placement), ∀ found ∈ (scanner.source system).files config.modules,
        found.module.namespacePrefix.toList = placement.namespacePrefix →
        found.file.relative.shownNames = placement.names →
        ∀ text, system.sourceText? found.file.path = some text →
        Source.DeclaresLoadable placement.space placement.name text →
        (∀ other ∈ (scanner.source system).files config.modules,
          other.DeclaresInPlace .standard system.sourceText? (found.expectedClass .standard) →
          other.file.path = found.file.path) →
        (∃ definition, ClassDefinition.ofSource? .standard text = some definition ∧
          discovery.pipeline.table.lookup (found.expectedClass .standard) = some definition) ∧
        ∀ collection, (Collection.take discovery.pipeline.table discovery.pipeline.build
            (discovery.pipeline.naming.finding found.module (.ok found.file))
            collection).2.stats.unresolvedClasses = collection.stats.unresolvedClasses) ∧
      (∀ (later : FileSystem) (modules : List Module) (stats after : Stats)
        (descriptors : List ServiceDescriptor),
        discovery.collect later modules stats = (.ok descriptors, after) →
        after.unresolvedClasses = stats.unresolvedClasses +
          ((scanner.source later).files modules).countP fun found =>
            discovery.pipeline.table.Unresolved .standard system.sourceText?
              ((scanner.source system).files config.modules) (found.expectedClass .standard)) := by
  have naming : (⟨config.separator⟩ : Naming) = .standard := by
    rw [standard]
    rfl
  obtain ⟨discovery, assembled, ownScanner, ownNaming, ownTable⟩ :=
    assemble_of_faultless parser patterns faultless
  rw [naming] at ownNaming ownTable
  refine ⟨discovery, assembled, ?_, ?_⟩
  · intro placement found member inside below text readable declares alone
    obtain ⟨definition, defined, named, loadable⟩ :=
      placement.ofSource?_eq below inside declares
    have own : found.definition? .standard system.sourceText? = some definition := by
      rw [ModuleFile.definition?, readable, Option.bind_some, defined]
    have placed : found.DeclaresInPlace .standard system.sourceText?
        (found.expectedClass .standard) :=
      ⟨by rw [ModuleFile.Declares, own, Option.map_some, named]; rfl, rfl⟩
    have held := ClassIndex.lookup_ofFiles_of_inPlace .standard system.sourceText? member placed
      alone
    rw [← ownTable, own] at held
    refine ⟨⟨definition, defined, held⟩, fun collection => ?_⟩
    have loaded : discovery.pipeline.table.loadable (found.expectedClass .standard) =
        some definition := by
      rw [ClassTable.loadable, held, Option.filter_some, if_pos loadable]
    rw [Collection.take_unresolved, ownNaming]
    simp only [Naming.finding, Finding.class?, Option.toList_some, List.countP_singleton]
    rw [ModuleFile.expectedClass] at loaded
    simp [loaded]
  · intro later modules stats after descriptors collected
    have counted := Pipeline.collect_unresolved collected
    rw [ownScanner, Pipeline.candidateClasses_eq _ fun module =>
      scanner.candidates_of_skips later, List.countP_map, ownNaming] at counted
    rw [counted]
    congr 1
    apply List.countP_congr
    intro found _
    have unresolved := ClassIndex.unresolved_iff .standard system.sourceText?
      ((scanner.source system).files config.modules) (found.expectedClass .standard)
    rw [← ownTable] at unresolved
    rw [decide_eq_true_iff, unresolved]
    rfl

/-- A module with a sender of mails in its place, and a copy of it elsewhere. -/
def senderSystem : FileSystem where
  root := .directory [("src", .directory [
    ("Copy.php", .file "namespace App\\Mailer;\nclass Sender \x7b\x7d".toUTF8),
    ("Mailer", .directory [
      ("Sender.php", .file "namespace App\\Mailer;\nenum Sender \x7b\x7d".toUTF8)])])]
  workingDirectory := []

/-- The module of the sender, with a prefix that ends in a separator. -/
def senderConfig : DiscoveryConfig :=
  { DiscoveryConfig.standard with
    modules := [⟨"src", "App\\"⟩]
    scan := { ScanConfig.standard with sorted := false } }

/-- The scanner of that configuration. -/
def senderScanner : FileScanner :=
  ⟨senderConfig.scan, [.anyBytes :: ".php".toList.map Glob.Token.literal]⟩

/-- Where the sender belongs. -/
def senderPlacement : Placement where
  base := "App".toList
  trailing := 1
  directories := ["Mailer".toList]
  name := "Sender".toList
  fileExtension := "php".toList
  baseEnds := by decide
  extensionFlat := by decide

/-- The file in its place. -/
def senderFile : ModuleFile := ⟨⟨"src", "App\\"⟩, ⟨"src", "Mailer/Sender.php"⟩⟩

/-- The file with the copy. -/
def copyFile : ModuleFile := ⟨⟨"src", "App\\"⟩, ⟨"src", "Copy.php"⟩⟩

/-- What the paths in the module of the sender lead to. -/
theorem find_senderSystem :
    senderSystem.locate .target "src" = .ok ["src"] ∧
      senderSystem.sourceText? senderFile.file.path =
        some "namespace App\\Mailer;\nenum Sender \x7b\x7d" := by
  have pieces : FileSystem.pieces "src" = ["src"] ∧
      FileSystem.pieces "src/Mailer/Sender.php" = ["src", "Mailer", "Sender.php"] := by
    decide
  have sender : senderSystem.locate .target "src/Mailer/Sender.php" =
      .ok ["src", "Mailer", "Sender.php"] := by
    simp [FileSystem.locate, pieces, FileSystem.locateFrom, senderSystem, FileTree.at?,
      FileTree.entries, Keyed.get?, Path.isAbsolute]
  constructor
  · simp [FileSystem.locate, pieces, FileSystem.locateFrom, senderSystem, FileTree.at?,
      FileTree.entries, Keyed.get?, Path.isAbsolute]
  · have path : senderFile.file.path = ("src/Mailer/Sender.php" : String) := by decide
    rw [path, FileSystem.sourceText?_ofText]
    simp only [FileSystem.readText?, FileSystem.read, FileSystem.find, sender]
    exact Text.fromUTF8?_toUTF8 _

/-- The scanner finds the copy first. -/
theorem files_senderSystem :
    FileScanner.ofConfig senderConfig.scan = .ok senderScanner ∧
      senderScanner.scan senderSystem ⟨"src", "App\\"⟩ =
        [.ok copyFile.file, .ok senderFile.file] := by
  have skips : senderScanner.skips ⟨"src", "App\\"⟩ = false := by decide
  have rules : senderScanner.rules.wants "Copy.php" = true ∧
      senderScanner.rules.wants "Sender.php" = true ∧
      senderScanner.rules.excludes "Copy.php" = false ∧
      senderScanner.rules.excludes "Mailer" = false ∧
      senderScanner.rules.excludes "Sender.php" = false := by
    decide +kernel
  have walked : senderSystem.walk senderScanner.rules "src" =
      [.ok ["Copy.php"], .ok ["Mailer", "Sender.php"]] := by
    simp only [FileSystem.walk, find_senderSystem.1]
    simp [senderSystem, FileTree.at?, FileTree.entries, Keyed.get?, FileTree.filesBelow,
      FileTree.listed, Visit.enter, rules]
  refine ⟨by cbv, ?_⟩
  rw [FileScanner.scan, skips, if_neg Bool.false_ne_true, if_neg (by decide)]
  dsimp only
  rw [walked]
  rfl

/-- The sender is found in its place, as an enumeration, and not as the class that the copy
declares. -/
theorem assemble_keeps_placed_classes_sender :
    ∃ discovery, assemble senderSystem senderConfig DocBlock.parser none = .ok discovery ∧
      discovery.pipeline.table.lookup "App\\Mailer\\Sender" =
        some ⟨"App\\Mailer\\Sender", .enumKind, none, []⟩ := by
  obtain ⟨patterns, scanned⟩ := files_senderSystem
  obtain ⟨_, senderText⟩ := find_senderSystem
  have files : (senderScanner.source senderSystem).files senderConfig.modules =
      [copyFile, senderFile] := by
    simp [CandidateSource.files, senderConfig, FileScanner.source, scanned,
      CandidateSource.file?, copyFile, senderFile]
  have faultless : (senderScanner.source senderSystem).faults senderConfig.modules = [] := by
    simp [CandidateSource.faults, senderConfig, FileScanner.source, scanned,
      CandidateSource.fault?]
  obtain ⟨discovery, assembled, keeps, _⟩ := assemble_keeps_placed_classes senderSystem
    senderConfig DocBlock.parser rfl patterns faultless
  refine ⟨discovery, assembled, ?_⟩
  have declares : Source.DeclaresLoadable senderPlacement.space senderPlacement.name
      "namespace App\\Mailer;\nenum Sender \x7b\x7d" :=
    ⟨"namespace App\\Mailer;\n".toList, ⟨.enumKind, "Sender".toList⟩, " \x7b\x7d".toList, by
      decide +kernel, .inr rfl, rfl, by decide +kernel⟩
  have alone : ∀ other ∈ (senderScanner.source senderSystem).files senderConfig.modules,
      other.DeclaresInPlace .standard senderSystem.sourceText?
        (senderFile.expectedClass .standard) → other.file.path = senderFile.file.path := by
    rw [files]
    intro other member placed
    have differs : copyFile.expectedClass .standard ≠ senderFile.expectedClass .standard := by
      decide +kernel
    rcases List.mem_pair.mp member with rfl | rfl
    · exact absurd placed.2 differs
    · rfl
  obtain ⟨⟨definition, defined, held⟩, _⟩ := keeps senderPlacement senderFile (by simp [files])
    (by decide) (by decide) _ senderText declares alone
  have named : senderFile.expectedClass .standard = "App\\Mailer\\Sender" := by
    decide +kernel
  rw [← named, held, ← defined, named]
  decide +kernel

end Discovery

end ServiceWiring
