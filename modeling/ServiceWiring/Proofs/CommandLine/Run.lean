import ServiceWiring.Proofs.CommandLine.Stages
import ServiceWiring.Proofs.Discovery.Directives
import ServiceWiring.Proofs.Files.Writing
import ServiceWiring.Proofs.Json.Printing
import ServiceWiring.Proofs.Service.Denotable
import ServiceWiring.Proofs.Text.Pieces

/-!
# What a command line shows

If a stage of a command line fails, or what it would show cannot be written, it ends with a
code other than zero, shows nothing and leaves the files alone. Otherwise it shows what the
container holds.

As a JSON text, what is shown can be read, and the directives made of it are those of the
container. Trees of arguments are written with two containers for each of their lists and
maps, so a text may nest deeper than the payloads did. The reader of payloads refuses texts
that nest too deep; what it reads, it reads right.

As a summary, what is shown has a line for each directive and one for the totals, as long as no
identifier and no class holds a line feed. Texts are written as they are, so one with a line
feed takes two lines.
-/

namespace ServiceWiring

/-- A container after a run holds directives that a text can denote, if the services were
found by their documentation blocks. -/
theorem Pipeline.denotable_of_run {pipeline : Pipeline} {source : CandidateSource}
    {modules : List Module} {stats : Stats} {container : Container}
    (blocks : pipeline.parser = DocBlock.parser)
    (succeeded : pipeline.run source modules Container.builder .empty = (.ok stats, container)) :
    ∀ directive ∈ container.directives, directive.toJson.Denotable := by
  obtain ⟨rfl, _⟩ := pipeline.run_container source modules succeeded
  intro directive held
  obtain ⟨_, entry, rfl⟩ := List.mem_map.mp held
  obtain ⟨descriptor, emitted, made⟩ := List.mem_map.mp (Container.mem_of_mem_ofList entry).1
  have sorted := ServiceDescriptor.order_sortsStably
    (((pipeline.services source modules).map Prod.snd).map ServiceDescriptor.resolve)
  obtain ⟨original, found, rfl⟩ := List.mem_map.mp (sorted.members.mem_iff.mp emitted)
  obtain ⟨⟨_, _⟩, service, rfl⟩ := List.mem_map.mp found
  obtain ⟨_, definition, _, _, registered⟩ :=
    (pipeline.mem_services_iff source modules _ _).mp service
  rw [Pipeline.build, blocks] at registered
  rw [← made]
  exact ConstructionDirective.denotable_of_registered registered

/-- The numbers of a run are told on one line. -/
theorem Stats.not_mem_summary (stats : Stats) : '\n' ∉ stats.summary.toList := by
  have number : ∀ value : Nat, '\n' ∉ (toString value).toList := by
    intro value member
    rw [Nat.toString_eq_repr, Nat.toList_repr] at member
    exact absurd (Nat.isDigit_of_mem_toDigits (by decide) (by decide) member) (by decide)
  -- Its equation would be checked by evaluating the texts.
  delta summary
  simp only [String.toList_append, List.mem_append, not_or, number, not_false_iff, and_true]
  decide

namespace CommandLine

/-- The directives that are shown can be denoted by a text. -/
theorem Invocation.Completes.denotable {invocation : Invocation} {system : FileSystem}
    {bindings : List (String × String)} {config : DiscoveryConfig} {discovery : Discovery}
    {stats : Stats} {container : Container}
    (completes : invocation.Completes system bindings config discovery stats container) :
    (Json.arr (container.directives.map ConstructionDirective.toJson)).Denotable := by
  refine .arr (List.forall_mem_map.mpr ?_)
  exact Pipeline.denotable_of_run (Discovery.of_assemble completes.assembled).2 completes.ran

/-- A text is what an outcome shows: on the standard output, or in the file that the
invocation names, where nothing goes to the standard output. -/
def Outcome.Shows (outcome : Outcome) (invocation : Invocation) (text : String) : Prop :=
  match invocation.output with
  | none => outcome.output = text
  | some path => outcome.output = "" ∧ outcome.system.readText? path = some text

/-- An invocation ends with a code other than zero, silently and without touching a file, or
with the code zero when all its stages went well and what they led to is shown. -/
theorem run_cases {arguments : List String} {invocation : Invocation}
    (accepted : Invocation.ofArguments arguments = .ok invocation) (system : FileSystem)
    (bindings : List (String × String)) :
    (∃ errors, run arguments system bindings = ⟨1, "", errors, system⟩) ∨
      ∃ config discovery stats container,
        invocation.Completes system bindings config discovery stats container ∧
          (run arguments system bindings).code = 0 ∧
          (run arguments system bindings).Shows invocation
            (render (invocation.format.getD .json) container.directives stats) := by
  rcases invocation.rendered_cases system bindings with
    ⟨_, report, unshown⟩ | ⟨config, discovery, stats, container, completes, rendered⟩
  · refine .inl ⟨report.message, ?_⟩
    simp [run, accepted, Invocation.run, unshown, bind, Except.bind]
  rcases output : invocation.output with _ | path
  · refine .inr ⟨config, discovery, stats, container, completes, ?_⟩
    simp [run, accepted, Invocation.run, rendered, output, Outcome.Shows, bind, Except.bind, pure,
      Except.pure]
  rcases written : system.write path
      (render (invocation.format.getD .json) container.directives stats).toUTF8 with fault | after
  · left
    simp only [run, accepted, Invocation.run, rendered, output, written, bind, Except.bind]
    exact ⟨_, rfl⟩
  · refine .inr ⟨config, discovery, stats, container, completes, ?_⟩
    simp only [run, accepted, Invocation.run, rendered, output, written, Outcome.Shows, bind,
      Except.bind]
    exact ⟨rfl, rfl, (FileSystem.readText?_write written).2⟩

/-- What goes to the standard output when an invocation without a file to write goes through
all stages. -/
theorem run_of_completes {arguments : List String} {invocation : Invocation}
    (accepted : Invocation.ofArguments arguments = .ok invocation) {system : FileSystem}
    {bindings : List (String × String)} {config : DiscoveryConfig} {discovery : Discovery}
    {stats : Stats} {container : Container}
    (completes : invocation.Completes system bindings config discovery stats container)
    (direct : invocation.output = none) :
    run arguments system bindings =
      ⟨0, render (invocation.format.getD .json) container.directives stats, "", system⟩ := by
  simp [run, accepted, Invocation.run, Invocation.rendered_of_completes completes, direct, bind,
    Except.bind, pure, Except.pure]

section Json

variable {directives : List ConstructionDirective}
  (denotable : (Json.arr (directives.map ConstructionDirective.toJson)).Denotable)
  (integral : ∀ directive ∈ directives, directive.toJson.hasDouble = false) (stats : Stats)
include denotable integral

omit denotable in
/-- An array of directives holds no binary64 number if none of them does. -/
theorem hasDouble_directives :
    (Json.arr (directives.map ConstructionDirective.toJson)).hasDouble = false := by
  rw [Json.hasDouble, Json.itemsHaveDouble_eq_false_iff, List.forall_mem_map]
  exact integral

/-- Directives that are shown as JSON are read as they are, if the reader takes containers as
deep as they nest. -/
theorem parseWithin_render_json (depth : Nat) :
    Json.parseWithin depth (render .json directives stats).toList =
        .ok (.arr (directives.map ConstructionDirective.toJson)) ↔
      (Json.arr (directives.map ConstructionDirective.toJson)).nesting ≤ depth :=
  Json.parseWithin_indented denotable (hasDouble_directives integral) depth

/-- Directives that are shown as JSON are not read as anything, if they nest deeper than the
reader of payloads allows. -/
theorem parse_render_json_ne
    (deep : Json.depthLimit < (Json.arr (directives.map ConstructionDirective.toJson)).nesting)
    (other : Json) : Json.parse (render .json directives stats).toList ≠ .ok other :=
  Json.parseWithin_indented_ne denotable (hasDouble_directives integral) deep other

end Json

/-- A summary has one line for each directive, in their order, and the totals on one line behind
them, exactly if no identifier and no class holds a line feed. The last line ends as well. -/
theorem splitOnChar_render_summary_iff (directives : List ConstructionDirective) (stats : Stats) :
    Text.splitOnChar '\n' (render .summary directives stats).toList =
        directives.map (fun directive => (directive.id ++ " " ++ directive.classId).toList) ++
          [stats.summary.toList, []] ↔
      ∀ directive ∈ directives,
        '\n' ∉ directive.id.toList ∧ '\n' ∉ directive.classId.toList := by
  constructor
  · intro lines directive listed
    have line : (directive.id ++ " " ++ directive.classId).toList ∈
        Text.splitOnChar '\n' (render .summary directives stats).toList := by
      rw [lines]
      exact List.mem_append_left _ (List.mem_map_of_mem listed)
    have whole := Text.not_mem_of_mem_splitOnChar line
    simp only [String.toList_append, List.mem_append, not_or] at whole
    exact ⟨whole.1.1, whole.2⟩
  · intro single
    induction directives with
    | nil =>
      have text : (render .summary [] stats).toList = stats.summary.toList ++ '\n' :: [] := by
        simp [render, String.join]
      rw [text, Text.splitOnChar_mark, Text.splitOnChar_of_lacks stats.not_mem_summary]
      rfl
    | cons directive directives inductionHypothesis =>
      obtain ⟨⟨ownId, ownClass⟩, others⟩ := List.forall_mem_cons.mp single
      have text : (render .summary (directive :: directives) stats).toList =
          (directive.id ++ " " ++ directive.classId).toList ++
            '\n' :: (render .summary directives stats).toList := by
        simp [render, String.join_cons]
      have line : '\n' ∉ (directive.id ++ " " ++ directive.classId).toList := by
        simp [ownId, ownClass]
      rw [text, Text.splitOnChar_mark, Text.splitOnChar_of_lacks line,
        inductionHypothesis others, List.map_cons, List.singleton_append, List.cons_append]

/-- A module with one source file. -/
def mailerSystem (text : String) : FileSystem where
  root := .directory [("src", .directory [("Mailer.php", .file text.toUTF8)])]
  workingDirectory := []

/-- A command line for that module. -/
def mailerArguments : List String := ["--module", "src=App"]

/-- What it asks for. -/
def mailerInvocation : Invocation := { Invocation.empty with modules := [⟨"src", "App"⟩] }

/-- A command line for a summary of that module. -/
def summaryArguments : List String := mailerArguments ++ ["--format", "summary"]

/-- What that one asks for. -/
def summaryInvocation : Invocation := { mailerInvocation with format := some .summary }

/-- The configuration that it leads to. -/
def mailerConfig : DiscoveryConfig := { DiscoveryConfig.standard with modules := [⟨"src", "App"⟩] }

/-- The discovery that it leads to, when the file declares a class. -/
def mailerDiscovery (definition : ClassDefinition) : Discovery where
  config := mailerConfig
  scanner := FileScanner.standardScanner
  pipeline := ⟨.standard, .ofList [definition], DocBlock.parser, "dev"⟩

/-- The numbers of its run. -/
def mailerStats : Stats := ⟨1, 0, 1, 0, 0, 0, 0, 1⟩

/-- The command lines are well formed. -/
theorem ofArguments_mailerArguments :
    Invocation.ofArguments mailerArguments = .ok mailerInvocation ∧
      Invocation.ofArguments summaryArguments = .ok summaryInvocation := by
  constructor <;> cbv

/-- The module is found, and its file is read. -/
theorem find_mailerSystem (text : String) :
    (mailerSystem text).find "src" = .ok (.directory [("Mailer.php", .file text.toUTF8)]) ∧
      (mailerSystem text).readText? "src/Mailer.php" = some text := by
  have pieces : FileSystem.pieces "src" = ["src"] ∧
      FileSystem.pieces "src/Mailer.php" = ["src", "Mailer.php"] := by
    decide
  have module : (mailerSystem text).locate .target "src" = .ok ["src"] := by
    simp [FileSystem.locate, pieces, FileSystem.locateFrom, mailerSystem, FileTree.at?,
      FileTree.entries, Keyed.get?, Path.isAbsolute]
  have file : (mailerSystem text).locate .target "src/Mailer.php" = .ok ["src", "Mailer.php"] := by
    simp [FileSystem.locate, pieces, FileSystem.locateFrom, mailerSystem, FileTree.at?,
      FileTree.entries, Keyed.get?, Path.isAbsolute]
  constructor
  · exact FileSystem.find_eq_ok_iff.mpr ⟨["src"], module, rfl⟩
  · simp only [FileSystem.readText?, FileSystem.read, FileSystem.find, file]
    exact Text.fromUTF8?_toUTF8 _

/-- The file is the only candidate. -/
theorem scan_mailerSystem (text : String) :
    FileScanner.standardScanner.scan (mailerSystem text) ⟨"src", "App"⟩ =
      [.ok ⟨"src", "Mailer.php"⟩] := by
  have formed : (mailerSystem text).root.WellFormed := by
    simp [mailerSystem, FileTree.wellFormed_cons_iff, Keyed.keys]
    decide
  have ascending : (FileTree.directory [("Mailer.php", .file text.toUTF8)]).Ascending := by
    simp only [FileTree.ascending_cons_iff, FileTree.ascending_file,
      FileTree.ascending_directory_nil, and_true]
    decide
  have rules : FileScanner.standardScanner.rules.wants "Mailer.php" = true ∧
      FileScanner.standardScanner.rules.excludes "Mailer.php" = false := by
    decide +kernel
  have places : FileTree.filePlaces FileScanner.standardScanner.rules
      (FileScanner.standardScanner.arranged
        (.directory [("Mailer.php", .file text.toUTF8)])).entries = [["Mailer.php"]] := by
    rw [FileScanner.arranged, FileTree.sorted_of_ascending ascending, ite_self]
    simp [FileTree.entries, FileTree.filePlaces, FileTree.placesUnder, rules]
  rw [FileScanner.scan_eq rfl (by decide) formed, (find_mailerSystem text).1]
  dsimp only
  rw [places]
  simp [Module.candidate]

/-- The path of the file gives the name of the class. -/
theorem classIdentifier_mailer :
    Naming.standard.classIdentifier "Mailer.php" "App" = "App\\Mailer" := by
  decide +kernel

/-- The discovery is set up for the class that the file declares. -/
theorem assemble_mailerSystem {text : String} {definition : ClassDefinition}
    (defined : ClassDefinition.ofSource? .standard text = some definition)
    (named : definition.id = "App\\Mailer") :
    Discovery.assemble (mailerSystem text) mailerConfig DocBlock.parser none =
      .ok (mailerDiscovery definition) := by
  have patterns : FileScanner.ofConfig mailerConfig.scan = .ok FileScanner.standardScanner := by
    cbv
  have path : (CandidateFile.mk "src" "Mailer.php").path = "src/Mailer.php" := by decide
  have indexed : ClassTable.ofModules .standard (mailerSystem text).sourceText?
      (FileScanner.standardScanner.source (mailerSystem text)) mailerConfig.modules =
        .ok (.ofList [definition]) := by
    simp [ClassTable.ofModules, ClassIndex.addModules, mailerConfig, FileScanner.source,
      scan_mailerSystem, ClassIndex.addCandidates, ClassIndex.declaredBy, path,
      FileSystem.sourceText?_ofText, (find_mailerSystem text).2, defined, bind, Except.bind,
      ClassIndex.add, classIdentifier_mailer, named, Except.map, ClassTable.ofList, ClassIndex.empty]
  have naming : (⟨mailerConfig.separator⟩ : Naming) = .standard := rfl
  simp only [Discovery.assemble, patterns, bind, Except.bind, naming, indexed]
  rfl

/-- The run defines the directive of the class. -/
theorem run_mailerDiscovery {definition : ClassDefinition} {descriptor : ServiceDescriptor}
    (named : definition.id = "App\\Mailer") (loadable : definition.isLoadable = true)
    (registered :
      buildDescriptor DocBlock.parser "dev" definition = .ok (.registered descriptor))
    (text : String) :
    (mailerDiscovery definition).run (mailerSystem text) mailerConfig.modules Container.builder
        .empty =
      (.ok mailerStats, Container.empty.define (.ofDescriptor descriptor.resolve)) := by
  have own : FileScanner.standardScanner.skips ⟨"src", "App"⟩ = false := by decide
  have found : (ClassTable.ofList [definition]).loadable "App\\Mailer" = some definition := by
    rw [← named, ClassTable.ofList, List.foldl_cons, List.foldl_nil, ClassTable.loadable,
      ClassTable.lookup_insert_self, Option.filter_some, if_pos loadable]
  have collected : (mailerDiscovery definition).pipeline.collect
      (FileScanner.standardScanner.source (mailerSystem text)) mailerConfig.modules .zero =
        (.ok [descriptor], ⟨1, 0, 1, 0, 0, 0, 0, 0⟩) := by
    simp [Pipeline.collect, findings, findingsIn, mailerConfig, mailerDiscovery,
      FileScanner.source, own, scan_mailerSystem, classIdentifier_mailer, Collection.takeAll,
      Collection.take, Collection.visit, found, registered, Collection.record, Stats.zero,
      Except.map]
  have emission : Pipeline.emission [descriptor] = [descriptor.resolve] := by
    simp [Pipeline.emission, ServiceDescriptor.order]
  rw [Discovery.run, Pipeline.run]
  have scanner : (mailerDiscovery definition).scanner = FileScanner.standardScanner := rfl
  rw [scanner, collected]
  dsimp only
  rw [emission]
  rfl

/-- The text of a file with a service that declares some fields. -/
def mailerText (fields : List Char) : String :=
  "<?php\nnamespace App;\n/** @Service(\x7b" ++ String.ofList fields ++
    "\x7d) */\nclass Mailer \x7b\x7d\n"

/-- The documentation block in that file. -/
def mailerBlock (fields : List Char) : String :=
  "/** @Service(\x7b" ++ String.ofList fields ++ "\x7d) */"

/-- The class in that file. -/
def mailerClass (fields : List Char) : ClassDefinition :=
  ⟨"App\\Mailer", .classKind, some (mailerBlock fields), []⟩

/-- The characters of a text between two others, found without encoding any of them. -/
theorem toList_between (front back : String) (fields : List Char) :
    (front ++ String.ofList fields ++ back).toList = front.toList ++ fields ++ back.toList := by
  rw [String.toList_append, String.toList_append, String.toList_ofList]

/-- The characters of the file. -/
theorem toList_mailerText (fields : List Char) :
    (mailerText fields).toList =
      "<?php\nnamespace App;\n/** @Service(\x7b".toList ++ fields ++
        "\x7d) */\nclass Mailer \x7b\x7d\n".toList :=
  toList_between _ _ fields

/-- The characters of its block. -/
theorem toList_mailerBlock (fields : List Char) :
    (mailerBlock fields).toList =
      "/** @Service(\x7b".toList ++ fields ++ "\x7d) */".toList :=
  toList_between _ _ fields

/-- The class is built from the annotations in the block. -/
theorem buildDescriptor_mailerClass (fields : List Char) :
    buildDescriptor DocBlock.parser "dev" (mailerClass fields) =
      match DocBlock.annotations (DocBlock.undecorate (mailerBlock fields).toList) with
      | .error fault => .error (.metadata (.block "App\\Mailer" fault))
      | .ok annotations => buildAnnotated "dev" (mailerClass fields) annotations := by
  rw [buildDescriptor, mailerClass]
  dsimp only
  rw [DocBlock.parser, DocBlock.parse]
  cases DocBlock.annotations (DocBlock.undecorate (mailerBlock fields).toList) <;> rfl

/-- The directive of a service with some arguments. -/
def mailerDirective (arguments : ArgumentTree) : ConstructionDirective :=
  { ConstructionDirective.ofDescriptor (.ofClass "App\\Mailer") with arguments }

/-- A container with one directive holds that one. -/
theorem directives_define_empty (directive : ConstructionDirective) :
    (Container.empty.define directive).directives = [directive] :=
  rfl

/-- What that file declares is found and registered, and shown in either format. -/
theorem completes_mailerText {fields : List Char} {descriptor : ServiceDescriptor}
    (defined : ClassDefinition.ofSource? .standard (mailerText fields) =
      some (mailerClass fields))
    (registered : buildDescriptor DocBlock.parser "dev" (mailerClass fields) =
      .ok (.registered descriptor)) (format : Option Format) :
    Invocation.Completes { mailerInvocation with format } (mailerSystem (mailerText fields)) []
      mailerConfig (mailerDiscovery (mailerClass fields)) mailerStats
      (Container.empty.define (.ofDescriptor descriptor.resolve)) where
  configured := rfl
  nonempty := by decide
  valid := by decide +kernel
  assembled := assemble_mailerSystem defined rfl
  ran := run_mailerDiscovery rfl rfl registered _

/-- The fields of a service with a reference and a number. -/
def loggedFields : List Char := "\"arguments\": [\"@logger\", 5]".toList

/-- As many arrays inside one another. -/
def nestedArrays (depth : Nat) : List Char :=
  List.replicate depth '[' ++ List.replicate depth ']'

/-- An empty list inside as many others. -/
def nestedLists : Nat → ArgumentTree
  | 0 => .list []
  | depth + 1 => .list [nestedLists depth]

/-- The fields of a service with arrays inside one another as arguments. -/
def nestedFields : List Char := "\"arguments\": ".toList ++ nestedArrays 63

/-- The fields of a service whose identifier holds a line feed. -/
def partedFields : List Char := "\"id\": \"mail\\nbox\"".toList

end CommandLine

end ServiceWiring
