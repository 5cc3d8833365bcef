import ServiceWiring.Proofs.Service.Provenance

/-!
# Which payloads a service annotation takes

A payload declares a service when it is `null`, an object in which every entry has the name of
a field and a value of the field's type, or an array of such values for the first fields in
declared order. The main theorem says that exactly these payloads are taken.

Whether a field takes a value does not depend on what has been read before it, so the order
of the entries makes no difference to whether an object is taken. Nor does it to what is read,
because every field ends up with the value under its own name. The items of an array are read
like the entries of the object that gives each of them the name of its field, and fail alike.
-/

namespace ServiceWiring

namespace DeclaredService

/-- A value is a method call: an object with a method name, and perhaps a list of arguments
and entries that say nothing, or an array of the name and perhaps the list. -/
inductive IsCall : Json → Prop
  | object {entries : List (String × Json)} (named : "method" ∈ Keyed.keys entries)
      (methods : ∀ value, ("method", value) ∈ entries → ∃ method, value = .str method)
      (lists : ∀ value, ("arguments", value) ∈ entries → ∃ arguments, value = .arr arguments) :
      IsCall (.obj entries)
  | methodAlone (method : String) : IsCall (.arr [.str method])
  | array (method : String) (arguments : List Json) : IsCall (.arr [.str method, .arr arguments])

/-- Whether a value is of the type of a field. -/
def Field.Admits : Field → Json → Prop
  | .id, value | .decorates, value => value = .null ∨ ∃ text, value = .str text
  | .autowired, value | .autoconfigured, value | .lazy, value | .isPublic, value
  | .isAbstract, value | .singleMethod, value => ∃ flag, value = .bool flag
  | .priority, value => ∃ number, value = .int number ∧ -2147483648 ≤ number ∧ number ≤ 2147483647
  | .environments, value =>
    ∃ items, value = .arr items ∧ ∀ item ∈ items, ∃ text, item = .str text
  | .tags, value => ∃ items, value = .arr items ∧ ∀ item ∈ items, ∃ tag, DeclaresTag item tag
  | .methodCalls, value => ∃ items, value = .arr items ∧ ∀ item ∈ items, IsCall item
  | .arguments, _ | .factory, _ => True

/-- The fields in declared order. -/
def Field.inOrder : List Field := Field.names.map Prod.snd

/-- A payload declares a service. -/
inductive IsDeclaration : Json → Prop
  | nothing : IsDeclaration .null
  | object {entries : List (String × Json)}
      (known : ∀ entry ∈ entries, ∃ field : Field, entry.1 = field.name ∧ field.Admits entry.2) :
      IsDeclaration (.obj entries)
  | array {items : List Json}
      (typed : List.Forall₂ Field.Admits (Field.inOrder.take items.length) items) :
      IsDeclaration (.arr items)

/-! ## Readings that succeed -/

/-- Whether a reading has a result. -/
def Succeeds {α : Type} (read : Reading α) : Prop := ∃ value, read = .ok value

/-- A result is one. -/
theorem succeeds_ok {α : Type} (value : α) : Succeeds (.ok value) := ⟨value, rfl⟩

/-- A mismatch is no result. -/
theorem not_succeeds_error {α : Type} (mismatch : Mismatch) :
    ¬Succeeds (.error mismatch : Reading α) := by
  rintro ⟨value, found⟩
  contradiction

/-- Changing what is read makes no difference to whether it is read. -/
theorem succeeds_map {α β : Type} (read : Reading α) (change : α → β) :
    Succeeds (read.map change) ↔ Succeeds read := by
  cases read with
  | error mismatch => exact iff_of_false (not_succeeds_error _) (not_succeeds_error _)
  | ok value => exact iff_of_true (succeeds_ok _) (succeeds_ok _)

/-- Of two readings one after the other both succeed, or the two do not, when it does not
matter to the second one what the first has found. -/
theorem succeeds_bind {α β : Type} {read : Reading α} {further : α → Reading β} {others : Prop}
    (indifferent : ∀ value, Succeeds (further value) ↔ others) :
    Succeeds (read >>= further) ↔ Succeeds read ∧ others := by
  cases read with
  | error mismatch =>
    exact iff_of_false (not_succeeds_error mismatch) fun both => not_succeeds_error mismatch both.1
  | ok value => exact (indifferent value).trans (and_iff_right (succeeds_ok value)).symm

/-! ## What the fields take -/

/-- A truth value is taken where one is expected, and nothing else. -/
theorem succeeds_readBool (value : Json) :
    Succeeds (readBool value) ↔ ∃ flag, value = .bool flag := by
  constructor
  · rintro ⟨flag, read⟩
    exact ⟨flag, eq_bool_of_readBool read⟩
  · rintro ⟨flag, rfl⟩
    exact succeeds_ok flag

/-- A string is taken where one is expected, and nothing else. -/
theorem succeeds_readString (value : Json) :
    Succeeds (readString value) ↔ ∃ text, value = .str text := by
  constructor
  · rintro ⟨text, read⟩
    exact ⟨text, eq_str_of_readString read⟩
  · rintro ⟨text, rfl⟩
    exact succeeds_ok text

/-- Where a string may be missing, `null` is taken as well. -/
theorem succeeds_readOptionalString (value : Json) :
    Succeeds (readOptionalString value) ↔ value = .null ∨ ∃ text, value = .str text := by
  by_cases isNull : value = .null
  · subst isNull
    exact iff_of_true (succeeds_ok none) (.inl rfl)
  · rw [readOptionalString, succeeds_map, succeeds_readString, or_iff_right isNull]
    exact isNull

/-- A priority is an integer within 32 bits, its sign included. -/
theorem succeeds_readPriority (value : Json) :
    Succeeds (readPriority value) ↔
      ∃ number, value = .int number ∧ -2147483648 ≤ number ∧ number ≤ 2147483647 := by
  cases value with
  | int number =>
    have fits : Json.isInt32 number = true ↔ -2147483648 ≤ number ∧ number ≤ 2147483647 := by
      rw [Json.isInt32, Bool.and_eq_true, decide_eq_true_eq, decide_eq_true_eq]
    simp only [Json.int.injEq, exists_eq_left', ← fits, readPriority]
    split
    · rename_i inside
      exact iff_of_true (succeeds_ok number) inside
    · rename_i outside
      exact iff_of_false (not_succeeds_error _) outside
  | null | bool flag | double number | str text | arr items | obj entries =>
    exact iff_of_false (not_succeeds_error _) (by simp)

/-- A sequence is read when it is an array whose items are all read. -/
theorem succeeds_readSequence {α : Type} {read : Json → Reading α} {admits : Json → Prop}
    (each : ∀ item, Succeeds (read item) ↔ admits item) (value : Json) :
    Succeeds (readSequence read value) ↔
      ∃ items, value = .arr items ∧ ∀ item ∈ items, admits item := by
  constructor
  · rintro ⟨values, sequence⟩
    obtain ⟨items, rfl, found⟩ := eq_arr_of_readSequence sequence
    refine ⟨items, rfl, fun item member => (each item).mp ?_⟩
    obtain ⟨place, inside, rfl⟩ := List.getElem_of_mem member
    exact ⟨_, found.get inside (found.length_eq ▸ inside)⟩
  · rintro ⟨items, rfl, admitted⟩
    rw [readSequence]
    induction items with
    | nil => exact succeeds_ok []
    | cons item items inductionHypothesis =>
      have first := (each item).mpr (admitted item List.mem_cons_self)
      obtain ⟨values, others⟩ := inductionHypothesis fun other member =>
        admitted other (List.mem_cons_of_mem _ member)
      obtain ⟨value, own⟩ := first
      rw [List.mapM_cons, own, others]
      exact succeeds_ok (value :: values)

/-- An array is read as it is. -/
theorem succeeds_readList (value : Json) :
    Succeeds (readSequence .ok value) ↔ ∃ items, value = .arr items := by
  have each : ∀ item : Json, Succeeds (.ok item) ↔ True := fun item => by
    simp [succeeds_ok]
  rw [succeeds_readSequence each]
  simp

/-- A value is read as a tag when it declares one. -/
theorem succeeds_readTag (value : Json) :
    Succeeds (readTag value) ↔ ∃ tag, DeclaresTag value tag := by
  constructor
  · rintro ⟨spec, read⟩
    exact ⟨spec.tag, declaresTag_of_readTag read⟩
  · rintro ⟨tag, declares⟩
    cases declares with
    | bare name => exact succeeds_ok (TagSpec.bare name)
    | detailed named =>
      simp only [readTag, named]
      exact succeeds_ok _

/-- The entries of a method call are read when they name a method, now or before, and the
values under the two names that count are of their types. -/
theorem succeeds_readMethodEntries (method : Option String) (arguments : List Json)
    (entries : List (String × Json)) :
    Succeeds (readMethodEntries method arguments entries) ↔
      (method.isSome ∨ "method" ∈ Keyed.keys entries) ∧
      (∀ value, ("method", value) ∈ entries → ∃ method, value = .str method) ∧
      ∀ value, ("arguments", value) ∈ entries → ∃ arguments, value = .arr arguments := by
  induction entries generalizing method arguments with
  | nil =>
    cases method with
    | none => exact iff_of_false (not_succeeds_error _) (by simp [Keyed.keys])
    | some method => exact iff_of_true (succeeds_ok _) (by simp)
  | cons entry entries inductionHypothesis =>
    obtain ⟨key, value⟩ := entry
    rw [readMethodEntries]
    split
    · rename_i isMethod
      subst isMethod
      have further : ∀ text, Succeeds (readMethodEntries (some text) arguments entries) ↔
          (∀ value, ("method", value) ∈ entries → ∃ method, value = .str method) ∧
          ∀ value, ("arguments", value) ∈ entries → ∃ arguments, value = .arr arguments :=
        fun text => (inductionHypothesis (some text) arguments).trans (by simp)
      rw [succeeds_bind further, succeeds_readString]
      simp [Keyed.keys, or_imp, forall_and, and_assoc]
    · split
      · rename_i isArguments
        subst isArguments
        rw [succeeds_bind fun values => inductionHypothesis method values, succeeds_readList]
        simp [Keyed.keys, or_imp, forall_and, and_left_comm]
      · rename_i notMethod notArguments
        rw [inductionHypothesis]
        simp [Keyed.keys, Ne.symm notMethod, Ne.symm notArguments]

/-- Method calls are taken in the forms described, and in no others. -/
theorem succeeds_readMethodCall (value : Json) :
    Succeeds (readMethodCall value) ↔ IsCall value := by
  cases value with
  | obj entries =>
    rw [readMethodCall, succeeds_readMethodEntries]
    constructor
    · rintro ⟨named, methods, lists⟩
      exact .object (named.resolve_left Bool.false_ne_true) methods lists
    · rintro ⟨named, methods, lists⟩
      exact ⟨.inr named, methods, lists⟩
  | arr items =>
    constructor
    · rintro ⟨call, read⟩
      cases declaresCall_of_readMethodCall read with
      | array method arguments => exact .array method arguments
      | methodAlone method => exact .methodAlone method
    · intro isCall
      cases isCall with
      | methodAlone method => exact succeeds_ok _
      | array method arguments =>
        obtain ⟨values, listed⟩ := (succeeds_readList (.arr arguments)).mpr ⟨arguments, rfl⟩
        refine ⟨⟨method, values⟩, ?_⟩
        rw [readMethodCall, listed]
        rfl
  | null | bool flag | int number | double number | str text =>
    exact iff_of_false (not_succeeds_error _) nofun

/-- A field can be set to the values of its type, whatever has been set before. -/
theorem succeeds_setField (declared : DeclaredService) (field : Field) (value : Json) :
    Succeeds (declared.setField field value) ↔ field.Admits value := by
  cases field
  case arguments | factory => exact iff_of_true (succeeds_ok _) trivial
  case id | decorates => exact (succeeds_map _ _).trans (succeeds_readOptionalString value)
  case priority => exact (succeeds_map _ _).trans (succeeds_readPriority value)
  case environments =>
    exact (succeeds_map _ _).trans (succeeds_readSequence succeeds_readString value)
  case tags => exact (succeeds_map _ _).trans (succeeds_readSequence succeeds_readTag value)
  case methodCalls =>
    exact (succeeds_map _ _).trans (succeeds_readSequence succeeds_readMethodCall value)
  all_goals exact (succeeds_map _ _).trans (succeeds_readBool value)

/-- The field that has a name is the one whose type a value under the name must have. -/
theorem exists_admits_iff (field : Field) (value : Json) :
    (∃ other : Field, field.name = other.name ∧ other.Admits value) ↔ field.Admits value := by
  constructor
  · rintro ⟨other, same, admits⟩
    rwa [Field.name_injective same]
  · exact fun admits => ⟨field, rfl, admits⟩

/-- Entries are set when each of them has the name of a field and a value of its type. -/
theorem succeeds_setEntries (declared : DeclaredService) (entries : List (String × Json)) :
    Succeeds (declared.setEntries entries) ↔
      ∀ entry ∈ entries, ∃ field : Field, entry.1 = field.name ∧ field.Admits entry.2 := by
  induction entries generalizing declared with
  | nil => exact iff_of_true (succeeds_ok declared) (by simp)
  | cons entry entries inductionHypothesis =>
    obtain ⟨key, value⟩ := entry
    rw [setEntries, List.forall_mem_cons]
    split
    · rename_i unknown
      refine iff_of_false (not_succeeds_error _) ?_
      rintro ⟨⟨field, named, -⟩, -⟩
      rw [(get?_names_eq_some_iff key field).mpr named] at unknown
      contradiction
    · rename_i field known
      have named := (get?_names_eq_some_iff key field).mp known
      have own := named ▸ exists_admits_iff field value
      rw [succeeds_bind inductionHypothesis, succeeds_setField, own]

/-- Values are of the types of the first fields when there are no more of them than fields and
each is of the type of the field that it would be named after. -/
theorem typed_iff (fields : List Field) (items : List Json) :
    List.Forall₂ Field.Admits (fields.take items.length) items ↔
      items.length ≤ fields.length ∧
        ∀ entry ∈ (fields.map Field.name).zip items,
          ∃ field : Field, entry.1 = field.name ∧ field.Admits entry.2 := by
  induction items generalizing fields with
  | nil => simp
  | cons value items inductionHypothesis =>
    cases fields with
    | nil => simp
    | cons field fields =>
      simp only [List.length_cons, List.take_succ_cons, List.forall₂_cons, inductionHypothesis,
        List.map_cons, List.zip_cons_cons, List.forall_mem_cons, exists_admits_iff,
        Nat.succ_le_succ_iff]
      exact and_left_comm

/-- Exactly the payloads that declare a service are taken. -/
theorem succeeds_ofPayload (payload : Json) :
    Succeeds (ofPayload payload) ↔ IsDeclaration payload := by
  cases payload with
  | null => exact iff_of_true (succeeds_ok standard) .nothing
  | obj entries =>
    rw [ofPayload, succeeds_setEntries]
    exact ⟨.object, fun | .object known => known⟩
  | arr items =>
    have typed : Succeeds (ofPayload (.arr items)) ↔
        List.Forall₂ Field.Admits (Field.inOrder.take items.length) items := by
      rw [typed_iff, ← succeeds_setEntries standard]
      constructor
      · rintro ⟨declared, read⟩
        have fits := length_le_of_setItems read
        exact ⟨fits, declared, (setItems_eq_setEntries fits standard).symm.trans read⟩
      · rintro ⟨fits, declared, set⟩
        exact ⟨declared, (setItems_eq_setEntries fits standard).trans set⟩
    exact typed.trans ⟨.array, fun | .array typed => typed⟩
  | bool flag | int number | double number | str text =>
    exact iff_of_false (not_succeeds_error _) nofun

/-! ## The order of the entries -/

/-- An annotation is determined by what its fields hold. -/
theorem eq_of_holds {declared other : DeclaredService} {value : Field → Json}
    (holds : ∀ field, declared.Holds (value field) field)
    (otherHolds : ∀ field, other.Holds (value field) field) : declared = other := by
  have same {α : Type} {read : Reading α} {one another : α} (found : read = .ok one)
      (alsoFound : read = .ok another) : one = another :=
    Except.ok.inj (found.symm.trans alsoFound)
  obtain ⟨id, flags, priority, environments, singleMethod, arguments, tags, methodCalls, factory,
    decorates⟩ := declared
  obtain rfl : id = other.id := same (holds .id) (otherHolds .id)
  obtain rfl : flags = other.flags := by
    have autowired : flags.autowired = other.flags.autowired :=
      same (holds .autowired) (otherHolds .autowired)
    have autoconfigured : flags.autoconfigured = other.flags.autoconfigured :=
      same (holds .autoconfigured) (otherHolds .autoconfigured)
    have lazy : flags.lazy = other.flags.lazy := same (holds .lazy) (otherHolds .lazy)
    have isPublic : flags.isPublic = other.flags.isPublic :=
      same (holds .isPublic) (otherHolds .isPublic)
    have isAbstract : flags.isAbstract = other.flags.isAbstract :=
      same (holds .isAbstract) (otherHolds .isAbstract)
    obtain ⟨_, _, _, _, _⟩ := flags
    exact ServiceFlags.mk.injEq .. ▸ ⟨autowired, autoconfigured, lazy, isPublic, isAbstract⟩
  obtain rfl : priority = other.priority := same (holds .priority) (otherHolds .priority)
  obtain rfl : environments = other.environments :=
    same (holds .environments) (otherHolds .environments)
  obtain rfl : singleMethod = other.singleMethod :=
    same (holds .singleMethod) (otherHolds .singleMethod)
  obtain rfl : arguments = other.arguments :=
    (holds .arguments).trans (Eq.symm (otherHolds .arguments))
  obtain rfl : tags = other.tags := same (holds .tags) (otherHolds .tags)
  obtain rfl : methodCalls = other.methodCalls :=
    same (holds .methodCalls) (otherHolds .methodCalls)
  obtain rfl : factory = other.factory := (holds .factory).trans (Eq.symm (otherHolds .factory))
  obtain rfl : decorates = other.decorates := same (holds .decorates) (otherHolds .decorates)
  rfl

/-- Where no key is repeated, the order of the entries makes no difference to what stands under
a key. -/
theorem lastUnder?_of_perm {entries other : List (String × Json)}
    (distinct : (Keyed.keys entries).Nodup) (order : other.Perm entries) (key : String) :
    Json.lastUnder? key other = Json.lastUnder? key entries := by
  have reordered : other.reverse.Perm (entries.reverse ++ []) := by
    rw [List.append_nil]
    exact other.reverse_perm.trans (order.trans entries.reverse_perm.symm)
  have reversed : (Keyed.keys entries.reverse).Nodup := by
    rw [Keyed.keys, List.map_reverse, List.nodup_reverse]
    exact distinct
  exact Keyed.get?_of_perm_append reordered reversed List.not_mem_nil

/-- An annotation is read from an object whatever the order of its entries. -/
theorem ofPayload_of_perm {entries other : List (String × Json)}
    (distinct : (Keyed.keys entries).Nodup) (order : other.Perm entries)
    {declared : DeclaredService} (read : ofPayload (.obj entries) = .ok declared) :
    ofPayload (.obj other) = .ok declared := by
  have known := (succeeds_setEntries standard entries).mp ⟨declared, read⟩
  obtain ⟨otherDeclared, otherRead⟩ : Succeeds (ofPayload (.obj other)) :=
    (succeeds_setEntries standard other).mpr fun entry member =>
      known entry (order.mem_iff.mp member)
  have same : otherDeclared = declared := by
    refine eq_of_holds (fun field => ?_) fun field => holds_ofPayload read field
    have holds := holds_ofPayload otherRead field
    rw [given?, entriesOf, lastUnder?_of_perm distinct order] at holds
    exact holds
  rw [otherRead, same]

/-- The class that is named in errors makes no difference to what is read. -/
theorem read_eq_ok_iff (classId : ClassIdentifier) (payload : Json) (declared : DeclaredService) :
    read classId payload = .ok declared ↔ ofPayload payload = .ok declared := by
  rw [read]
  cases ofPayload payload <;> simp [Except.mapError]

/-- A service annotation is read from exactly the payloads that declare a service. Reordering
the entries of an object makes no difference to what is read, or to its being refused, and up
to fourteen items of an array are read, or refused for the same reason, like the entries of
the object that gives each of them the name of its field. -/
theorem read_takes_declarations (classId : ClassIdentifier) :
    (∀ payload, (∃ declared, read classId payload = .ok declared) ↔ IsDeclaration payload) ∧
    (∀ entries other : List (String × Json), (Keyed.keys entries).Nodup → other.Perm entries →
      ∀ declared, read classId (.obj other) = .ok declared ↔
        read classId (.obj entries) = .ok declared) ∧
    (∀ items : List Json, items.length ≤ 14 →
      read classId (.arr items) =
        read classId (.obj ((Field.names.map Prod.fst).zip items))) := by
  refine ⟨fun payload => ?_, fun entries other distinct order declared => ?_, fun items fits => ?_⟩
  · simp only [read_eq_ok_iff]
    exact succeeds_ofPayload payload
  · have otherDistinct : (Keyed.keys other).Nodup := (order.map Prod.fst).nodup_iff.mpr distinct
    rw [read_eq_ok_iff, read_eq_ok_iff]
    exact ⟨ofPayload_of_perm otherDistinct order.symm, ofPayload_of_perm distinct order⟩
  · exact congrArg (Except.mapError (MetadataError.payload classId))
      (setItems_eq_setEntries fits standard)

/-- Entries that spell two tags in different ways and leave the identifier open. -/
def queueEntries : List (String × Json) :=
  [("tags", .arr [.str "mail", .obj [("retries", .int 3), ("name", .str "queue")]]),
    ("id", .null), ("priority", .int (-5))]

/-- What the entries declare. -/
def queueService : DeclaredService :=
  { standard with
    priority := -5
    tags := [.bare "mail", .detailed "queue" [("retries", .int 3)]] }

/-- The entries are read in another order too. A flag at the second place of an array is
refused as it would be under its name, and so is a priority beyond 32 bits. -/
theorem read_takes_declarations_queue :
    (Keyed.keys queueEntries).Nodup ∧ IsDeclaration (.obj queueEntries) ∧
      read "App\\Queue" (.obj queueEntries.reverse) = .ok queueService ∧
      read "App\\Queue" (.arr [.null, .int 1]) =
        .error (.payload "App\\Queue" (.wrongType (.int 1) .boolean)) ∧
      ¬IsDeclaration (.obj [("priority", .int 2147483648)]) := by
  obtain ⟨taken, reordered, placed⟩ := read_takes_declarations "App\\Queue"
  have distinct : (Keyed.keys queueEntries).Nodup := by decide
  refine ⟨distinct, (taken _).mp ⟨queueService, rfl⟩, ?_, (placed _ (by decide)).trans rfl, ?_⟩
  · exact (reordered _ _ distinct queueEntries.reverse_perm queueService).mpr rfl
  · intro declaration
    obtain ⟨declared, found⟩ := (taken _).mpr declaration
    contradiction

end DeclaredService

end ServiceWiring
