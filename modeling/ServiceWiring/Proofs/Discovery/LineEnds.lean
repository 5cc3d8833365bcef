import ServiceWiring.Proofs.Class.Index
import ServiceWiring.Proofs.Discovery.Unresolved
import ServiceWiring.Proofs.Files.Skeleton
import ServiceWiring.Proofs.Service.LineEnds

/-!
# Line ends make no difference

Source files may end their lines in a line feed, or in a carriage return and a line feed. The
main theorem says of a source text what remains the same when it is rewritten in this way, and
concludes that some files of a file system can be rewritten and others not without any effect:
a discovery fails alike or hands over the same directives and counts the same.

The files that are scanned are the same, since a scan does not look into files. Of the classes
in them only the line ends in their documentation blocks differ. So the table of classes has
the same names, and what it has under a name is built alike.
-/

namespace ServiceWiring

/-- The second system is the first one with a carriage return before each line feed in some of
its files, which are texts without carriage returns before that. -/
structure FileSystem.LineEndsChanged (before after : FileSystem) : Prop where
  workingDirectory : after.workingDirectory = before.workingDirectory
  skeleton : after.root.skeleton = before.root.skeleton
  content : ∀ place content, before.root.at? place = some (.file content) →
    after.root.at? place = some (.file content) ∨
      ∃ text : String, '\r' ∉ text.toList ∧ content = text.toUTF8 ∧
        after.root.at? place = some (.file (Text.withReturns text).toUTF8)

/-- The second definition is the first one, or has other line ends in its documentation
block. -/
def ClassDefinition.Alike (definition other : ClassDefinition) : Prop :=
  other = definition ∨
    (∀ block ∈ definition.docComment, '\r' ∉ block.toList) ∧ other = definition.withReturns

namespace ClassDefinition.Alike

variable {definition other : ClassDefinition} (alike : definition.Alike other)
include alike

/-- The definitions are of one class, which can be loaded by both or by neither. -/
theorem same : other.id = definition.id ∧ other.isLoadable = definition.isLoadable := by
  rcases alike with rfl | ⟨-, rfl⟩ <;> exact ⟨rfl, rfl⟩

/-- The class is built alike. -/
theorem built (environment : String) :
    buildDescriptor DocBlock.parser environment other =
      buildDescriptor DocBlock.parser environment definition := by
  rcases alike with rfl | ⟨plain, rfl⟩
  · rfl
  · exact buildDescriptor_withReturns environment plain

end ClassDefinition.Alike

/-! ## Files -/

/-- What is read is the file that a path leads to. -/
theorem FileSystem.readText?_eq (system : FileSystem) (path : String) :
    system.readText? path =
      match system.locate .target path with
      | .error _ => none
      | .ok place =>
        match system.root.at? place with
        | some (.file content) => String.fromUTF8? content
        | _ => none := by
  simp only [readText?, read, find]
  cases system.locate .target path with
  | error fault => rfl
  | ok place =>
    simp only [bind, Except.bind]
    cases system.root.at? place with
    | none => rfl
    | some tree => cases tree <;> rfl

namespace FileSystem.LineEndsChanged

variable {before after : FileSystem} (changed : before.LineEndsChanged after)
include changed

/-- Nothing but the content of files has changed. -/
theorem skeletons : before.skeleton = after.skeleton := by
  rw [FileSystem.skeleton, FileSystem.skeleton, changed.skeleton, changed.workingDirectory]

/-- A file is read as before, or it has been rewritten. -/
theorem readText? (path : String) :
    after.readText? path = before.readText? path ∨
      ∃ text, '\r' ∉ text.toList ∧ before.readText? path = some text ∧
        after.readText? path = some (Text.withReturns text) := by
  have located : after.locate .target path = before.locate .target path := by
    rw [← locate_skeleton, ← changed.skeletons, locate_skeleton]
  rw [FileSystem.readText?_eq, FileSystem.readText?_eq, located]
  cases before.locate .target path with
  | error fault => exact .inl rfl
  | ok place =>
    have skeletons : (after.root.at? place).map FileTree.skeleton =
        (before.root.at? place).map FileTree.skeleton := by
      rw [← FileTree.at?_skeleton, changed.skeleton, FileTree.at?_skeleton]
    cases stands : before.root.at? place with
    | none =>
      rw [stands] at skeletons
      exact .inl (by simp only [stands, Option.map_eq_none_iff.mp skeletons])
    | some tree =>
      rw [stands] at skeletons
      obtain ⟨other, otherStands, same⟩ := Option.map_eq_some_iff.mp skeletons
      cases tree with
      | file content =>
        rcases changed.content place content stands with kept | ⟨text, plain, rfl, rewritten⟩
        · exact .inl (by simp only [stands, kept])
        · refine .inr ⟨text, plain, ?_, ?_⟩
          · simp only [stands, Text.fromUTF8?_toUTF8]
          · simp only [rewritten, Text.fromUTF8?_toUTF8]
      | link target | directory entries =>
        cases other with
        | file content => cases same
        | link _ | directory _ => exact .inl (by simp only [stands, otherStands])

/-- So is one at a path that need not be a text. -/
theorem sourceText? (path : RawPath) :
    after.sourceText? path = before.sourceText? path ∨
      ∃ text, '\r' ∉ text.toList ∧ before.sourceText? path = some text ∧
        after.sourceText? path = some (Text.withReturns text) := by
  rw [FileSystem.sourceText?, FileSystem.sourceText?]
  cases path.text? with
  | none => exact .inl rfl
  | some path => exact changed.readText? path

/-- A file declares the same class as before, apart from line ends in its documentation
block. -/
theorem definition? (naming : Naming) (found : ModuleFile) :
    Option.Rel ClassDefinition.Alike (found.definition? naming before.sourceText?)
      (found.definition? naming after.sourceText?) := by
  rw [ModuleFile.definition?, ModuleFile.definition?]
  rcases changed.sourceText? found.file.path with same | ⟨text, plain, old, new⟩
  · rw [same]
    cases (before.sourceText? found.file.path).bind (ClassDefinition.ofSource? naming) with
    | none => exact .none
    | some definition => exact .some (.inl rfl)
  · rw [old, new, Option.bind_some, Option.bind_some, ClassDefinition.ofSource?_withReturns]
    cases defined : ClassDefinition.ofSource? naming text with
    | none => exact .none
    | some definition =>
      exact .some (.inr ⟨ClassDefinition.plain_of_ofSource? plain defined, rfl⟩)

end FileSystem.LineEndsChanged

/-! ## Classes -/

/-- Files that declare alike are told apart by no class. -/
theorem ModuleFile.counting?_of_alike {naming : Naming} {read otherRead : RawPath → Option String}
    (alike : ∀ found : ModuleFile, Option.Rel ClassDefinition.Alike
      (found.definition? naming read) (found.definition? naming otherRead))
    (id : ClassIdentifier) (files : List ModuleFile) :
    counting? naming otherRead id files = counting? naming read id files := by
  have declares : ∀ found : ModuleFile,
      found.Declares naming otherRead id ↔ found.Declares naming read id := by
    intro found
    rw [Declares, Declares]
    obtain ⟨none, otherNone⟩ | ⟨definition, other, some, otherSome, both⟩ :=
      none_or_some_of_rel (alike found)
    · rw [none, otherNone]
    · rw [some, otherSome, Option.map_some, Option.map_some, both.same.1]
  have declared : (fun found : ModuleFile => decide (found.Declares naming otherRead id)) =
      fun found => decide (found.Declares naming read id) :=
    funext fun found => decide_eq_decide.mpr (declares found)
  have placed : (fun found : ModuleFile => decide (found.DeclaresInPlace naming otherRead id)) =
      fun found => decide (found.DeclaresInPlace naming read id) :=
    funext fun found => decide_eq_decide.mpr (and_congr_left fun _ => declares found)
  rw [counting?, counting?, declared, placed]

/-- Tables of files that declare alike hold definitions that are alike. -/
theorem ClassIndex.lookup_of_alike {naming : Naming} {read otherRead : RawPath → Option String}
    (alike : ∀ found : ModuleFile, Option.Rel ClassDefinition.Alike
      (found.definition? naming read) (found.definition? naming otherRead))
    (files : List ModuleFile) (id : ClassIdentifier) :
    Option.Rel ClassDefinition.Alike ((ofFiles naming read files).table.lookup id)
      ((ofFiles naming otherRead files).table.lookup id) := by
  rw [lookup_ofFiles, lookup_ofFiles, ModuleFile.counting?_of_alike alike]
  cases ModuleFile.counting? naming read id files with
  | none => exact .none
  | some found => exact alike found

/-- Two tables have the same classes for a discovery: under each name either none that can be
loaded, or one that is built alike. -/
def ClassTable.BuiltAlike (environment : String) (table other : ClassTable) : Prop :=
  ∀ id, (other.loadable id).map (buildDescriptor DocBlock.parser environment) =
    (table.loadable id).map (buildDescriptor DocBlock.parser environment)

/-- Tables that hold definitions that are alike have the same classes. -/
theorem ClassTable.builtAlike_of_lookup {table other : ClassTable}
    (alike : ∀ id, Option.Rel ClassDefinition.Alike (table.lookup id) (other.lookup id))
    (environment : String) : table.BuiltAlike environment other := by
  intro id
  rw [loadable, loadable]
  obtain ⟨none, otherNone⟩ | ⟨definition, rewritten, some, otherSome, both⟩ :=
    none_or_some_of_rel (alike id)
  · rw [none, otherNone]
  · rw [some, otherSome, Option.filter, Option.filter, both.same.2]
    split
    · exact congrArg Option.some (both.built environment)
    · rfl

/-! ## Runs -/

namespace Collection

variable {table other : ClassTable} {environment : String}

/-- A finding is taken up alike. -/
theorem take_of_builtAlike (alike : table.BuiltAlike environment other) (finding : Finding)
    (collection : Collection) :
    take other (buildDescriptor DocBlock.parser environment) finding collection =
      take table (buildDescriptor DocBlock.parser environment) finding collection := by
  cases finding with
  | vendored | scanned | fault _ => rfl
  | candidate id =>
    have same := alike id
    simp only [take, visit]
    cases loaded : table.loadable id <;> cases otherLoaded : other.loadable id <;>
      simp_all

/-- All findings are taken up alike. -/
theorem takeAll_of_builtAlike (alike : table.BuiltAlike environment other)
    (findings : List Finding) (collection : Collection) :
    takeAll other (buildDescriptor DocBlock.parser environment) findings collection =
      takeAll table (buildDescriptor DocBlock.parser environment) findings collection := by
  induction findings generalizing collection with
  | nil => rfl
  | cons finding findings inductionHypothesis =>
    rw [takeAll, takeAll, take_of_builtAlike alike]
    split
    · rfl
    · exact inductionHypothesis _

end Collection

/-- A pipeline runs alike with tables whose classes are built alike. -/
theorem Pipeline.run_of_builtAlike {table other : ClassTable} {environment : String}
    (alike : table.BuiltAlike environment other) (naming : Naming) (source : CandidateSource)
    (modules : List Module) {σ : Type} (builder : ContainerBuilder σ) (state : σ) :
    run ⟨naming, other, DocBlock.parser, environment⟩ source modules builder state =
      run ⟨naming, table, DocBlock.parser, environment⟩ source modules builder state := by
  simp only [run, collect, Collection.takeAll_of_builtAlike alike]

namespace Discovery

/-- A discovery is set up alike in systems that differ in line ends: it fails with the same error,
or its runs are the same.

Proof: the scanner finds the same files in both systems, and meets the same faults. If the host
names no classes then the discoveries do have different tables, as a table keeps the
documentation blocks; but what is under a name is built alike. -/
theorem assemble_of_lineEndsChanged {before after : FileSystem}
    (changed : before.LineEndsChanged after) (config : DiscoveryConfig)
    (classes : Option ClassTable) :
    (∃ error, assemble before config DocBlock.parser classes = .error error ∧
        assemble after config DocBlock.parser classes = .error error) ∨
      ∃ discovery rewritten, assemble before config DocBlock.parser classes = .ok discovery ∧
        assemble after config DocBlock.parser classes = .ok rewritten ∧
        ∀ {σ : Type} (modules : List Module) (builder : ContainerBuilder σ) (state : σ),
          rewritten.run after modules builder state =
            discovery.run before modules builder state := by
  cases made : FileScanner.ofConfig config.scan with
  | error error => exact .inl ⟨error, by simp [assemble, made, bind, Except.bind]⟩
  | ok scanner =>
    have sources := scanner.source_congr changed.skeletons
    rw [assemble_eq made, assemble_eq made, ← sources]
    have runs : ∀ {table other : ClassTable}, table.BuiltAlike config.environment other →
        ∀ {σ : Type} (modules : List Module) (builder : ContainerBuilder σ) (state : σ),
          run ⟨config, scanner, ⟨⟨config.separator⟩, other, DocBlock.parser, config.environment⟩⟩
              after modules builder state =
            run ⟨config, scanner, ⟨⟨config.separator⟩, table, DocBlock.parser,
              config.environment⟩⟩ before modules builder state := by
      intro table other alike σ modules builder state
      rw [run, run, ← sources]
      exact Pipeline.run_of_builtAlike alike _ _ modules builder state
    cases classes with
    | some table => exact .inr ⟨_, _, rfl, rfl, runs fun _ => rfl⟩
    | none =>
      rw [ClassTable.ofModules_eq, ClassTable.ofModules_eq]
      cases ((scanner.source before).faults config.modules).head? with
      | some error => exact .inl ⟨error, rfl, rfl⟩
      | none =>
        exact .inr ⟨_, _, rfl, rfl, runs (ClassTable.builtAlike_of_lookup
          (ClassIndex.lookup_of_alike (changed.definition? ⟨config.separator⟩)
            ((scanner.source before).files config.modules)) config.environment)⟩

/-- **Line ends do not matter.** A source text without carriage returns defines, with one before
each of its line feeds, the same class with the same methods, or none if it defines none; and
its documentation block is rewritten. The class is built alike: with the same descriptor or
other outcome, or with the same error and so with the same wording, place in the block
included.

So files can be rewritten in this way, all or some, and the others left as they are, before a
discovery. With or without classes of the host it is set up with the same error, or it is
set up and all its runs end alike with every builder: with the same directives handed over, and
with the same error or the same numbers. -/
theorem line_ends_do_not_matter :
    (∀ (naming : Naming) (environment source : String), '\r' ∉ source.toList →
      ClassDefinition.ofSource? naming (Text.withReturns source) =
          (ClassDefinition.ofSource? naming source).map ClassDefinition.withReturns ∧
        ∀ definition ∈ ClassDefinition.ofSource? naming source,
          buildDescriptor DocBlock.parser environment definition.withReturns =
            buildDescriptor DocBlock.parser environment definition) ∧
    ∀ before after : FileSystem, before.LineEndsChanged after →
      ∀ (config : DiscoveryConfig) (classes : Option ClassTable),
        (∃ error, assemble before config DocBlock.parser classes = .error error ∧
            assemble after config DocBlock.parser classes = .error error) ∨
          ∃ discovery rewritten, assemble before config DocBlock.parser classes = .ok discovery ∧
            assemble after config DocBlock.parser classes = .ok rewritten ∧
            ∀ {σ : Type} (modules : List Module) (builder : ContainerBuilder σ) (state : σ),
              rewritten.run after modules builder state =
                discovery.run before modules builder state := by
  constructor
  · intro naming environment source plain
    exact ⟨ClassDefinition.ofSource?_withReturns naming source, fun definition defined =>
      buildDescriptor_withReturns environment (ClassDefinition.plain_of_ofSource? plain defined)⟩
  · intro before after changed config classes
    exact assemble_of_lineEndsChanged changed config classes

/-- The text of a class that declares a priority. -/
def letterText (priority : String) : String :=
  "<?php\nnamespace App;\n\n/**\n * @Service(\x7b\n *   \"priority\": " ++ priority ++
    "\n * \x7d)\n */\nfinal class Letter \x7b\n  public function send() \x7b\x7d\n\x7d\n"

/-- The class, with a priority that is no number. -/
def urgentLetter : ClassDefinition :=
  ⟨"App\\Letter", .classKind,
    some "/**\n * @Service(\x7b\n *   \"priority\": soon\n * \x7d)\n */",
    [⟨"send", .publicAccess, .regular⟩]⟩

/-- What is wrong with it. -/
def urgentMessage : String :=
  "元数据错误: 元数据块解析失败: App\\Letter, 原因: " ++
    "@Service 的载荷不是合法 JSON: expected value at line 2 column 16"

/-- A module with such a class, and with one that has no annotations. -/
def letterSystem (letter : String) : FileSystem where
  root := .directory [("src", .directory [("Letter.php", .file letter.toUTF8),
    ("Stamp.php", .file "namespace App;\nclass Stamp \x7b\x7d".toUTF8)])]
  workingDirectory := []

/-- The two files of the module. -/
theorem at?_letterSystem {letter : String} {place : Place} {content : ByteArray} :
    (letterSystem letter).root.at? place = some (.file content) ↔
      (place = ["src", "Letter.php"] ∧ content = letter.toUTF8) ∨
        (place = ["src", "Stamp.php"] ∧
          content = "namespace App;\nclass Stamp \x7b\x7d".toUTF8) := by
  have leaf : ∀ stored rest, (FileTree.file stored).at? rest = some (.file content) ↔
      rest = [] ∧ content = stored := by
    intro stored rest
    cases rest <;> simp [FileTree.at?, FileTree.entries, Keyed.get?, eq_comm]
  rcases place with _ | ⟨module, _ | ⟨name, rest⟩⟩
  · simp [letterSystem, FileTree.at?]
  · by_cases source : "src" = module <;>
      simp [letterSystem, FileTree.at?, FileTree.entries, Keyed.get?, source]
  · by_cases source : "src" = module
    · subst source
      by_cases letterName : "Letter.php" = name
      · subst letterName
        simp [letterSystem, FileTree.at?, FileTree.entries, Keyed.get?, leaf]
      · by_cases stampName : "Stamp.php" = name
        · subst stampName
          simp [letterSystem, FileTree.at?, FileTree.entries, Keyed.get?, leaf]
        · simp [letterSystem, FileTree.at?, FileTree.entries, Keyed.get?, letterName, stampName,
            Ne.symm letterName, Ne.symm stampName]
    · simp [letterSystem, FileTree.at?, FileTree.entries, Keyed.get?, source, Ne.symm source]

/-- The letter can be rewritten alone. -/
theorem lineEndsChanged_letterSystem {letter : String} (plain : '\r' ∉ letter.toList) :
    (letterSystem letter).LineEndsChanged (letterSystem (Text.withReturns letter)) where
  workingDirectory := rfl
  skeleton := rfl
  content place content stands := by
    rcases at?_letterSystem.mp stands with ⟨rfl, rfl⟩ | stamp
    · exact .inr ⟨letter, plain, rfl, at?_letterSystem.mpr (.inl ⟨rfl, rfl⟩)⟩
    · exact .inl (at?_letterSystem.mpr (.inr stamp))

/-- A scan of the module meets no fault. -/
theorem faults_letterSystem (letter : String) :
    (senderScanner.source (letterSystem letter)).faults senderConfig.modules = [] := by
  have pieces : FileSystem.pieces "src" = ["src"] := by decide +kernel
  have located : (letterSystem letter).locate .target "src" = .ok ["src"] := by
    simp [FileSystem.locate, pieces, FileSystem.locateFrom, letterSystem, FileTree.at?,
      FileTree.entries, Keyed.get?, Path.isAbsolute]
  have rules : senderScanner.rules.wants "Letter.php" = true ∧
      senderScanner.rules.wants "Stamp.php" = true ∧
      senderScanner.rules.excludes "Letter.php" = false ∧
      senderScanner.rules.excludes "Stamp.php" = false := by
    decide +kernel
  have walked : (letterSystem letter).walk senderScanner.rules "src" =
      [.ok ["Letter.php"], .ok ["Stamp.php"]] := by
    simp only [FileSystem.walk, located]
    simp [letterSystem, FileTree.at?, FileTree.entries, Keyed.get?, FileTree.filesBelow,
      FileTree.listed, rules]
  have skips : senderScanner.skips ⟨"src", "App\\"⟩ = false := by decide +kernel
  have scanned : senderScanner.scan (letterSystem letter) ⟨"src", "App\\"⟩ =
      [.ok ⟨"src", "Letter.php"⟩, .ok ⟨"src", "Stamp.php"⟩] := by
    rw [FileScanner.scan, skips, if_neg Bool.false_ne_true, if_neg (by decide)]
    dsimp only
    rw [walked]
    rfl
  simp [CandidateSource.faults, senderConfig, FileScanner.source, scanned, CandidateSource.fault?]

/-- A letter whose priority is no number is refused with the same words in both forms, and a
discovery is not influenced by the form of one whose priority is a number. -/
theorem line_ends_do_not_matter_letter :
    ((ClassDefinition.ofSource? .standard (Text.withReturns (letterText "soon"))).map fun letter =>
        (buildDescriptor DocBlock.parser "dev" letter).mapError DiscoveryError.message) =
      some (.error urgentMessage) ∧
    ∃ discovery rewritten,
      assemble (letterSystem (letterText "5")) senderConfig DocBlock.parser none =
        .ok discovery ∧
      assemble (letterSystem (Text.withReturns (letterText "5"))) senderConfig DocBlock.parser
        none = .ok rewritten ∧
      rewritten.run (letterSystem (Text.withReturns (letterText "5"))) senderConfig.modules
          Container.builder .empty =
        discovery.run (letterSystem (letterText "5")) senderConfig.modules Container.builder
          .empty := by
  constructor
  · obtain ⟨defines, builds⟩ := line_ends_do_not_matter.1 .standard "dev" (letterText "soon")
      (by decide +kernel)
    have defined : ClassDefinition.ofSource? .standard (letterText "soon") =
        some urgentLetter := by decide +kernel
    rw [defines, defined, Option.map_some, Option.map_some, builds urgentLetter defined]
    decide +kernel
  · have changed := lineEndsChanged_letterSystem
      (show '\r' ∉ (letterText "5").toList by decide +kernel)
    obtain ⟨discovery, assembled, _⟩ := assemble_of_faultless DocBlock.parser
      files_senderSystem.1 (faults_letterSystem (letterText "5"))
    rcases line_ends_do_not_matter.2 _ _ changed senderConfig none with
      ⟨error, failed, _⟩ | ⟨kept, rewritten, assembledFirst, assembledSecond, runs⟩
    · rw [assembled] at failed
      contradiction
    · exact ⟨kept, rewritten, assembledFirst, assembledSecond, runs _ _ _⟩

end Discovery

end ServiceWiring
