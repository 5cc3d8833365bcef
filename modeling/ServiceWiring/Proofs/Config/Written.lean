import ServiceWiring.Config.Load
import ServiceWiring.Config.Save
import ServiceWiring.Proofs.Service.Directive
import ServiceWiring.Proofs.Toml.Document

/-!
# Saved configurations say what they were made from

A saved configuration is a document of lines, tables and an array of tables, all with names
of their own in lower case. Read back and layered on nothing, such settings are what they
are, so the configuration that they describe is the one that was saved, whatever its texts
and lists hold.
-/

namespace ServiceWiring

namespace Settings

open Text (lower)

/-! ## Layering on nothing -/

/-- Whether a setting comes to stand as it is behind settings without its name. -/
def IsSettled (name : String) (value : Json) : Prop :=
  ∀ front, name ∉ Keyed.keys front →
    setName name value (.obj front) = .obj (front ++ [(name, value)])

/-- A value that is no table comes to stand as it is. -/
theorem isSettled_single {name : String} (lowered : lower name = name) {value : Json}
    (single : ∀ entries, value ≠ .obj entries) : IsSettled name value := by
  intro front new
  have inserted : setName name value (.obj front) =
      .obj (Keyed.insert (lower name) value front) := by
    cases value with
    | obj entries => exact absurd rfl (single entries)
    | _ => rw [setName, tableOf]; simp
  rw [inserted, lowered, Keyed.insert_of_not_mem new]

/-- Settings that each come to stand as they are do so one behind the other. -/
theorem setAll_settled {incoming : List (String × Json)}
    (settled : ∀ entry ∈ incoming, IsSettled entry.1 entry.2) {front : List (String × Json)}
    (distinct : (Keyed.keys (front ++ incoming)).Nodup) :
    setAll incoming (.obj front) = .obj (front ++ incoming) := by
  induction incoming generalizing front with
  | nil => rw [setAll, List.append_nil]
  | cons entry incoming inductionHypothesis =>
    rw [List.forall_mem_cons] at settled
    obtain ⟨new, distinct⟩ := Keyed.new_of_nodup_keys distinct
    rw [setAll, settled.1 front new, inductionHypothesis settled.2 distinct, List.append_assoc]
    rfl

/-- A table comes to stand as it is if all its settings do. -/
theorem isSettled_table {name : String} (lowered : lower name = name)
    {entries : List (String × Json)} (settled : ∀ entry ∈ entries, IsSettled entry.1 entry.2)
    (distinct : (Keyed.keys entries).Nodup) : IsSettled name (.obj entries) := by
  intro front new
  have inner : setAll entries (.obj []) = .obj entries := setAll_settled settled distinct
  rw [setName, tableOf, lowered, Keyed.get?_eq_none new, Keyed.insert_of_not_mem new,
    Option.getD_none, inner]

/-- Settings with single names that come to stand as they are make up the whole. -/
theorem layer_settled {source : List (String × Json)}
    (single : ∀ entry ∈ source, path entry.1 = [.name entry.1])
    (settled : ∀ entry ∈ source, IsSettled entry.1 entry.2) {front : List (String × Json)}
    (distinct : (Keyed.keys (front ++ source)).Nodup) :
    layer source (.obj front) = .obj (front ++ source) := by
  induction source generalizing front with
  | nil => rw [List.append_nil]; rfl
  | cons entry source inductionHypothesis =>
    rw [List.forall_mem_cons] at single settled
    obtain ⟨new, distinct⟩ := Keyed.new_of_nodup_keys distinct
    have step : layer (entry :: source) (.obj front) =
        layer source (setName entry.1 entry.2 (.obj front)) := by
      obtain ⟨name, value⟩ := entry
      rw [layer, List.foldl_cons]
      dsimp only
      rw [single.1]
      rfl
    rw [step, settled.1 front new, inductionHypothesis single.2 settled.2 distinct,
      List.append_assoc]
    rfl

end Settings

/-! ## Saved documents -/

/-- The lines of scan rules have bare names. -/
theorem ScanConfig.bare_tomlLines (scan : ScanConfig) :
    ∀ line ∈ scan.tomlLines, Toml.IsBareName line.1 := by
  simp only [tomlLines, List.forall_mem_cons]
  decide

/-- The lines of a module have bare names. -/
theorem Module.bare_tomlLines (module : Module) :
    ∀ line ∈ module.tomlLines, Toml.IsBareName line.1 := by
  simp only [tomlLines, List.forall_mem_cons]
  decide

namespace DiscoveryConfig

/-- The settings that a saved configuration consists of. -/
def savedSettings (config : DiscoveryConfig) : List (String × Json) :=
  [("environment", .str config.environment)] ++
    (if config.modules.isEmpty then [("modules", .arr [])] else []) ++
    [("scan", config.scan.toJson), ("resolver", resolverToJson config.separator)] ++
    (if config.modules.isEmpty then [] else [("modules", .arr (config.modules.map Module.toJson))])

section Document

open Toml (writeLines writeTable writeElement readLines? entriesToJson IsBareName fieldEntries
  Draft Field)

/-- The entries of a document up to its modules. -/
def savedEntries (config : DiscoveryConfig) : Toml.Entries :=
  fieldEntries config.tomlLines ++ [("scan", .table .header (fieldEntries config.scan.tomlLines))] ++
    [("resolver", .table .header
      (fieldEntries [("namespace_separator", Field.text config.separator)]))]

/-- The lines before the first table have bare names. -/
theorem bare_tomlLines (config : DiscoveryConfig) : ∀ line ∈ config.tomlLines, IsBareName line.1 := by
  have environment : IsBareName "environment" := by decide
  have modules : IsBareName "modules" := by decide
  unfold tomlLines
  cases config.modules <;> simp [environment, modules]

/-- The part of a saved document before its modules is read. -/
theorem readLines?_saved (config : DiscoveryConfig) (rest : List Char) :
    readLines? .empty (writeLines config.tomlLines ++ writeTable "scan" config.scan.tomlLines ++
        writeTable "resolver" [("namespace_separator", .text config.separator)] ++ rest) =
      readLines? ⟨config.savedEntries, ["resolver"]⟩ rest := by
  have distinct : (Keyed.keys ([] ++ fieldEntries config.tomlLines)).Nodup := by
    unfold tomlLines
    cases config.modules <;> simp [fieldEntries, Keyed.keys]
  have scan : "scan" ∉ Keyed.keys (fieldEntries config.tomlLines) := by
    unfold tomlLines
    cases config.modules <;> simp [fieldEntries, Keyed.keys]
  have resolver : "resolver" ∉ Keyed.keys (fieldEntries config.tomlLines ++
      [("scan", .table .header (fieldEntries config.scan.tomlLines))]) := by
    unfold tomlLines
    cases config.modules <;> simp [fieldEntries, Keyed.keys]
  rw [List.append_assoc, List.append_assoc]
  refine (Toml.readLines?_writeLines Toml.opens_document config.bare_tomlLines distinct _).trans ?_
  refine (Toml.readLines?_writeTable (by decide) config.scan.bare_tomlLines
    (by simp [ScanConfig.tomlLines]) scan [] _).trans ?_
  exact Toml.readLines?_writeTable (by decide) (by simp; decide) (by simp)
    resolver ["scan"] _

/-- The settings before the modules. -/
theorem entriesToJson_savedEntries (config : DiscoveryConfig) :
    entriesToJson config.savedEntries =
      [("environment", .str config.environment)] ++
        (if config.modules.isEmpty then [("modules", .arr [])] else []) ++
        [("scan", config.scan.toJson), ("resolver", resolverToJson config.separator)] := by
  simp only [savedEntries, Toml.entriesToJson_append, Toml.entriesToJson_fieldEntries,
    entriesToJson, Toml.Item.toJson]
  unfold tomlLines
  cases config.modules <;> rfl

/-- A saved document is read as its settings. -/
theorem parse?_toToml (config : DiscoveryConfig) :
    Toml.parse? config.toToml.toList = some (.obj config.savedSettings) := by
  have present : config.tomlLines ≠ [] := by simp [tomlLines]
  rw [toToml, String.toList_ofList, List.append_assoc, List.append_assoc,
    Toml.parse?_writeLines present config.bare_tomlLines, ← List.append_assoc,
    ← List.append_assoc, readLines?_saved]
  cases modules : config.modules with
  | nil =>
    have read : readLines? ⟨config.savedEntries, ["resolver"]⟩ [] =
        some ⟨config.savedEntries, ["resolver"]⟩ := by
      rw [readLines?]
      rfl
    rw [List.flatMap_nil, read, Option.map_some, entriesToJson_savedEntries, savedSettings, modules]
    simp
  | cons first others =>
    have new : "modules" ∉ Keyed.keys config.savedEntries := by
      simp [savedEntries, tomlLines, modules, fieldEntries, Keyed.keys]
    have bare : ∀ lines ∈ config.modules.map Module.tomlLines, ∀ line ∈ lines,
        IsBareName line.1 := by
      rw [List.forall_mem_map]
      exact fun module _ => module.bare_tomlLines
    have bareName : IsBareName "modules" := by decide
    have read := Toml.readLines?_elements bareName new (by simp [modules]) bare
      (by simp [Module.tomlLines]) ["resolver"]
    have read := congrArg (Option.map Json.obj) read
    rw [List.flatMap_map, Option.map_map, entriesToJson_savedEntries, List.map_map] at read
    rw [← modules]
    refine read.trans ?_
    rw [savedSettings, modules]
    rfl

end Document

/-- The settings of a saved document come to stand as they are. -/
theorem layer_savedSettings (config : DiscoveryConfig) :
    Settings.layer config.savedSettings (.obj []) = .obj config.savedSettings := by
  have single : ∀ entry ∈ config.savedSettings, Settings.path entry.1 = [.name entry.1] := by
    have names : ∀ name ∈ Keyed.keys config.savedSettings,
        name ∈ ["environment", "modules", "scan", "resolver"] := by
      unfold savedSettings
      cases config.modules <;> simp [Keyed.keys]
    have paths : ∀ name ∈ ["environment", "modules", "scan", "resolver"],
        Settings.path name = [.name name] := by decide +kernel
    exact fun entry member => paths _ (names _ (List.mem_map_of_mem member))
  have distinct : (Keyed.keys config.savedSettings).Nodup := by
    unfold savedSettings
    cases config.modules <;> simp [Keyed.keys]
  have environment : ∀ text, Settings.IsSettled "environment" (.str text) := fun _ =>
    Settings.isSettled_single (by decide) (by simp)
  have modules : ∀ items, Settings.IsSettled "modules" (.arr items) := fun _ =>
    Settings.isSettled_single (by decide) (by simp)
  have scan : Settings.IsSettled "scan" config.scan.toJson := by
    refine Settings.isSettled_table (by decide) ?_ (by simp [Keyed.keys])
    simp only [List.forall_mem_cons]
    refine ⟨?_, ?_, ?_, ?_, ?_, List.forall_mem_nil _⟩ <;>
      exact Settings.isSettled_single (by decide) (by simp)
  have resolver : Settings.IsSettled "resolver" (resolverToJson config.separator) := by
    refine Settings.isSettled_table (by decide) ?_ (by simp [Keyed.keys])
    simp only [List.forall_mem_cons]
    exact ⟨Settings.isSettled_single (by decide) (by simp), List.forall_mem_nil _⟩
  have settled : ∀ entry ∈ config.savedSettings, Settings.IsSettled entry.1 entry.2 := by
    unfold savedSettings
    cases config.modules <;> simp [environment, modules, scan, resolver]
  exact Settings.layer_settled single settled distinct

/-- The settings of a saved document describe what was saved. -/
theorem ofSettings?_savedSettings (config : DiscoveryConfig) :
    ofSettings? (.obj config.savedSettings) = some config := by
  have texts : ∀ items : List String,
      Json.list? Settings.text? (.arr (items.map .str)) = some items :=
    Json.list?_map fun _ => rfl
  have scan : ScanConfig.ofSetting? config.scan.toJson = some config.scan := by
    unfold ScanConfig.ofSetting? ScanConfig.toJson
    simp [Settings.record?, Keyed.get?, Json.defaulted, texts, Settings.flag?]
  have readModule : ∀ module : Module, Module.ofSetting? module.toJson = some module := fun _ => rfl
  have modules := Json.list?_map readModule config.modules
  have separator : Settings.separator? (resolverToJson config.separator) =
      some config.separator := rfl
  have fields : Settings.record? ["environment", "scan", "resolver", "modules"]
      (.obj config.savedSettings) =
        some [some (.str config.environment), some config.scan.toJson,
          some (resolverToJson config.separator),
          some (.arr (config.modules.map Module.toJson))] := by
    unfold savedSettings
    cases config.modules <;> simp [Settings.record?, Keyed.get?]
  rw [ofSettings?, fields]
  simp [Json.defaulted, Settings.text?, scan, separator, modules]

end DiscoveryConfig

end ServiceWiring
