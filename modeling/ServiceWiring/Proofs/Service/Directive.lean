import ServiceWiring.Proofs.Argument.Described
import ServiceWiring.Proofs.Keyed
import ServiceWiring.Service.Directive

/-!
# The JSON forms of a construction directive

A directive is handed over as a JSON object and read back from one. The main
theorem says that nothing is lost on the way, and that reading does not depend on
how the object was laid out: the entries may stand in any order, entries under
unknown names may stand between them, and the trees of the arguments and of the
factory may take any of their forms.

Reading looks every field up by its name. So it is enough that the object gives
each known name the value that the written form gives it, which a permutation
with foreign names beside the known ones does.
-/

namespace ServiceWiring

/-- A list of written items is read back item by item. -/
theorem Json.list?_map {α : Type} {write : α → Json} {read : Json → Option α}
    (readBack : ∀ item, read (write item) = some item) (items : List α) :
    Json.list? read (.arr (items.map write)) = some items := by
  rw [Json.list?]
  induction items with
  | nil => rfl
  | cons item items inductionHypothesis =>
    simp [List.mapM_cons, readBack, inductionHypothesis]

/-- Reading a tag undoes writing it. -/
theorem Tag.ofJson?_toJson (tag : Tag) : Tag.ofJson? tag.toJson = some tag := rfl

/-- Reading a method call undoes writing it. -/
theorem MethodCall.ofJson?_toJson (call : MethodCall) : MethodCall.ofJson? call.toJson = some call :=
  rfl

namespace ConstructionDirective

/-- The names under which the fields of a directive stand. -/
def fieldNames : List String :=
  ["id", "class"] ++ ServiceFlags.names ++
    ["arguments", "tags", "method_calls", "factory", "decorates"]

/-- The entries of a directive whose trees have the given forms. -/
def entriesWith (directive : ConstructionDirective) (arguments : Json) (factory : Option Json) :
    List (String × Json) :=
  [("id", .str directive.id), ("class", .str directive.classId)] ++
    directive.flags.entries ++
    [("arguments", arguments),
      ("tags", .arr (directive.tags.map Tag.toJson)),
      ("method_calls", .arr (directive.methodCalls.map MethodCall.toJson))] ++
    optionalEntry "factory" (fun json => json) factory ++
    optionalEntry "decorates" .str directive.decorates

/-- A JSON value is one of the forms of a directive: an object with its entries
and further ones under unknown names, in any order, in which the trees of the
arguments and of the factory have any of their forms. A factory or a decorated
service that the directive lacks has no entry. -/
inductive Describes (directive : ConstructionDirective) : Json → Prop
  | object {arguments : Json} {factory : Option Json} {unknown entries : List (String × Json)}
    (argumentsDescribed : directive.arguments.Describes arguments)
    (factoryDescribed : Option.Rel ArgumentTree.Describes directive.factory factory)
    (unknownNames : ∀ name ∈ Keyed.keys unknown, name ∉ fieldNames)
    (order : entries.Perm (directive.entriesWith arguments factory ++ unknown)) :
    Describes directive (.obj entries)

/-- The written form has the entries of the directive with its trees written. -/
theorem toJson_eq (directive : ConstructionDirective) :
    directive.toJson =
      .obj (directive.entriesWith directive.arguments.toJson
        (directive.factory.map ArgumentTree.toJson)) := by
  obtain ⟨_, _, _, _, _, _, factory, _⟩ := directive
  cases factory <;> rfl

/-- The written form of a factory is one of its forms, and a missing one is not written. -/
theorem describes_factory (factory : Option ArgumentTree) :
    Option.Rel ArgumentTree.Describes factory (factory.map ArgumentTree.toJson) := by
  cases factory with
  | none => exact .none
  | some tree => exact .some (ArgumentTree.describes_toJson tree)

/-- The written form of a directive is one of its forms. -/
theorem describes_toJson (directive : ConstructionDirective) : directive.Describes directive.toJson := by
  have order : (directive.entriesWith directive.arguments.toJson
      (directive.factory.map ArgumentTree.toJson)).Perm
      (directive.entriesWith directive.arguments.toJson
        (directive.factory.map ArgumentTree.toJson) ++ []) := by
    rw [List.append_nil]
  rw [toJson_eq]
  exact .object (ArgumentTree.describes_toJson directive.arguments)
    (describes_factory directive.factory) (by simp [Keyed.keys]) order

/-- The entries of a directive have distinct names. -/
theorem nodup_keys_entriesWith (directive : ConstructionDirective) (arguments : Json)
    (factory : Option Json) : (Keyed.keys (directive.entriesWith arguments factory)).Nodup := by
  cases factory <;> cases decorated : directive.decorates <;>
    simp [entriesWith, optionalEntry, decorated, Keyed.keys, ServiceFlags.entries]

/-- Objects that agree under the names of the fields are read alike. -/
theorem ofJson?_congr {left right : List (String × Json)}
    (agree : ∀ name ∈ fieldNames, Keyed.get? name left = Keyed.get? name right) :
    ofJson? (.obj left) = ofJson? (.obj right) := by
  have flagsAgree : (ServiceFlags.names.map fun name => Keyed.get? name left) =
      ServiceFlags.names.map fun name => Keyed.get? name right := by
    apply List.map_congr_left
    intro name member
    apply agree
    simp [fieldNames, member]
  simp only [ofJson?, flagsAgree, agree "id" (by decide), agree "class" (by decide),
    agree "arguments" (by decide), agree "tags" (by decide), agree "method_calls" (by decide),
    agree "factory" (by decide), agree "decorates" (by decide)]

/-- A factory in one of its forms is read as the factory, a missing one as none. -/
theorem optional_of_rel {factory : Option ArgumentTree} {json : Option Json}
    (described : Option.Rel ArgumentTree.Describes factory json) :
    Json.optional ArgumentTree.ofJson? json = some factory := by
  cases described with
  | none => rfl
  | some treeDescribed =>
    have notNull := ArgumentTree.ne_null_of_describes treeDescribed
    rw [Json.optional, ArgumentTree.ofJson?_of_describes treeDescribed, Option.map_some]
    exact notNull

/-- The factory is found exactly when there is one. -/
theorem get?_factory (directive : ConstructionDirective) (arguments : Json) (factory : Option Json) :
    Keyed.get? "factory" (directive.entriesWith arguments factory) = factory := by
  cases factory with
  | none =>
    apply Keyed.get?_eq_none
    cases decorated : directive.decorates <;>
      simp [entriesWith, optionalEntry, decorated, Keyed.keys, ServiceFlags.entries]
  | some json =>
    apply Keyed.get?_of_mem (nodup_keys_entriesWith directive arguments (some json))
    simp [entriesWith, optionalEntry]

/-- The decorated service is found exactly when there is one. -/
theorem get?_decorates (directive : ConstructionDirective) (arguments : Json)
    (factory : Option Json) :
    Keyed.get? "decorates" (directive.entriesWith arguments factory) =
      directive.decorates.map .str := by
  cases decorated : directive.decorates with
  | none =>
    apply Keyed.get?_eq_none
    cases factory <;>
      simp [entriesWith, optionalEntry, decorated, Keyed.keys, ServiceFlags.entries]
  | some service =>
    apply Keyed.get?_of_mem (nodup_keys_entriesWith directive arguments factory)
    simp [entriesWith, optionalEntry, decorated]

/-- The entries of a directive are read as the directive. -/
theorem ofJson?_entriesWith {directive : ConstructionDirective} {arguments : Json}
    {factory : Option Json} (argumentsDescribed : directive.arguments.Describes arguments)
    (factoryDescribed : Option.Rel ArgumentTree.Describes directive.factory factory) :
    ofJson? (.obj (directive.entriesWith arguments factory)) = some directive := by
  have found : ∀ entry ∈ [("id", .str directive.id), ("class", .str directive.classId)] ++
      directive.flags.entries ++ [("arguments", arguments),
        ("tags", .arr (directive.tags.map Tag.toJson)),
        ("method_calls", .arr (directive.methodCalls.map MethodCall.toJson))],
      Keyed.get? entry.1 (directive.entriesWith arguments factory) = some entry.2 := by
    intro entry member
    apply Keyed.get?_of_mem (nodup_keys_entriesWith directive arguments factory)
    rw [entriesWith, List.append_assoc _ (optionalEntry _ _ _)]
    exact List.mem_append_left _ member
  simp only [ServiceFlags.entries, List.cons_append, List.nil_append, List.forall_mem_cons,
    List.not_mem_nil, false_implies, implies_true, and_true] at found
  have decoratesRead : Json.optional Json.string? (directive.decorates.map .str) =
      some directive.decorates := by
    cases directive.decorates <;> rfl
  simp only [ofJson?, ServiceFlags.names, List.map_cons, List.map_nil, found, get?_factory,
    get?_decorates, ServiceFlags.ofFields?, Json.required, Option.bind_some,
    ArgumentTree.ofJson?_of_describes argumentsDescribed, optional_of_rel factoryDescribed,
    Json.list?_map Tag.ofJson?_toJson, Json.list?_map MethodCall.ofJson?_toJson, decoratesRead]
  rfl

/-- Reading a directive undoes writing it. -/
theorem ofJson?_toJson (directive : ConstructionDirective) :
    ofJson? directive.toJson = some directive := by
  rw [toJson_eq]
  exact ofJson?_entriesWith (ArgumentTree.describes_toJson directive.arguments)
    (describes_factory directive.factory)

/-- **A directive survives its JSON form.** For every directive, reading its
written form gives the directive back, and so does reading any other object that
has its entries: with every node of the trees in a layout of its own, the entries
in any order, and any entries under unknown names among them. -/
theorem ofJson?_of_forms (directive : ConstructionDirective) :
    ofJson? directive.toJson = some directive ∧
      ∀ json, directive.Describes json → ofJson? json = some directive := by
  have reads : ∀ json, directive.Describes json → ofJson? json = some directive := by
    intro json described
    cases described with
    | @object arguments factory unknown entries argumentsDescribed factoryDescribed unknownNames
        order =>
      have agree : ∀ name ∈ fieldNames, Keyed.get? name entries =
          Keyed.get? name (directive.entriesWith arguments factory) := by
        intro name member
        apply Keyed.get?_of_perm_append order (nodup_keys_entriesWith directive arguments factory)
        intro among
        exact unknownNames name among member
      rw [ofJson?_congr agree]
      exact ofJson?_entriesWith argumentsDescribed factoryDescribed
  exact ⟨reads directive.toJson (describes_toJson directive), reads⟩

/-- A directive with every kind of tree, a literal that looks like a node, a tag
and a factory. -/
def mailerDirective : ConstructionDirective where
  id := "mailer"
  classId := "App\\Mailer"
  flags := .standard
  arguments := .list [.reference "logger",
    .map [("z", .taggedGroup "handlers"),
      ("a", .literal (.obj [("value", .str "x"), ("type", .str "reference")]))]]
  tags := [⟨"app.mailer", [("priority", .int 5), ("alias", .null)]⟩]
  methodCalls := [⟨"setName", [.str "mailer"]⟩]
  factory := some (.reference "factory")
  decorates := none

/-- The arguments of that directive, with nodes in all three layouts. -/
def mailerArguments : Json :=
  .obj [
    ("value", .arr [
      .arr [.str "reference", .str "logger"],
      .obj [("type", .str "map"), ("value", .obj [
        ("z", .obj [("value", .str "handlers"), ("type", .str "tagged_group_reference")]),
        ("a", .arr [.str "literal", .obj [("value", .str "x"), ("type", .str "reference")]])])]]),
    ("type", .str "list")]

/-- The directive as an object with its entries out of order and entries under
unknown names among them. -/
def mailerObject : Json :=
  .obj [
    ("version", .int 2),
    ("factory", .arr [.str "reference", .str "factory"]),
    ("arguments", mailerArguments),
    ("abstract", .bool false), ("public", .bool false), ("lazy", .bool false),
    ("autoconfigured", .bool true), ("autowired", .bool true),
    ("class", .str "App\\Mailer"), ("id", .str "mailer"), ("flags", .null),
    ("method_calls", .arr [(MethodCall.mk "setName" [.str "mailer"]).toJson]),
    ("tags", .arr [(Tag.mk "app.mailer" [("priority", .int 5), ("alias", .null)]).toJson])]

/-- The nodes of these arguments describe the trees of the directive. -/
theorem describes_mailerArguments : mailerDirective.arguments.Describes mailerArguments := by
  simp only [mailerDirective, ArgumentTree.Describes, ArgumentTree.DescribesItems,
    ArgumentTree.DescribesEntries]
  exact ⟨_, ⟨_, _, rfl, .pair, _, _, rfl,
    ⟨_, ⟨_, _, rfl, .valueFirst, _, _, rfl, .pair, rfl⟩, .typeFirst⟩, rfl⟩, .valueFirst⟩

/-- The object is a form of the directive. -/
theorem describes_mailerObject : mailerDirective.Describes mailerObject := by
  have factoryDescribed : Option.Rel ArgumentTree.Describes mailerDirective.factory
      (some (.arr [.str "reference", .str "factory"])) := by
    refine .some ?_
    rw [ArgumentTree.Describes]
    exact .pair
  have unknownNames : ∀ name ∈ Keyed.keys [("version", Json.int 2), ("flags", Json.null)],
      name ∉ fieldNames := by decide
  exact .object describes_mailerArguments factoryDescribed unknownNames (by decide +kernel)

theorem ofJson?_of_forms_mailer : mailerDirective.Describes mailerObject ∧
    ofJson? mailerObject = some mailerDirective :=
  ⟨describes_mailerObject,
    (ofJson?_of_forms mailerDirective).2 mailerObject describes_mailerObject⟩

end ConstructionDirective

end ServiceWiring
