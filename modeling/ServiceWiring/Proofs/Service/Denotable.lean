import ServiceWiring.Proofs.Json.Shape
import ServiceWiring.Proofs.Service.Directive
import ServiceWiring.Proofs.Service.Provenance

/-!
# Directives as values that texts denote

The payloads of a documentation block have been read from texts. What a directive has of
them is what a payload declares, so its JSON value is one that a text can denote as well:
no part of it has grown on the way, and the keys of its objects remain distinct.

The statements follow a payload through the stages of its use. The main one is about the
directive of a registered class.
-/

namespace ServiceWiring

namespace Json

/-- The items of an array can be denoted if it can. -/
theorem Denotable.item {items : List Json} (denotable : (Json.arr items).Denotable) {item : Json}
    (member : item ∈ items) : item.Denotable := by
  cases denotable with
  | arr each => exact each item member

/-- The values of an object can be denoted if it can. -/
theorem Denotable.entry {entries : List (String × Json)} (denotable : (Json.obj entries).Denotable)
    {entry : String × Json} (member : entry ∈ entries) : entry.2.Denotable := by
  cases denotable with
  | obj _ each => exact each entry member

/-- Without some of its entries an object can still be denoted. -/
theorem Denotable.sublist {entries fewer : List (String × Json)}
    (denotable : (Json.obj entries).Denotable) (part : fewer.Sublist entries) :
    (Json.obj fewer).Denotable := by
  cases denotable with
  | obj distinct each =>
    exact .obj (distinct.sublist (part.map Prod.fst)) fun entry member =>
      each entry (part.subset member)

/-- An object of two entries can be denoted if their values can. -/
theorem Denotable.pair {first second : String} (differ : first ≠ second) {left right : Json}
    (leftDenotable : left.Denotable) (rightDenotable : right.Denotable) :
    (Json.obj [(first, left), (second, right)]).Denotable := by
  refine .obj (by simpa [Keyed.keys] using differ) ?_
  simpa using ⟨leftDenotable, rightDenotable⟩

end Json

open Json (Denotable)

/-! ## Argument trees -/

namespace ArgumentTree

/-- The items of an array are resolved and written one by one. -/
theorem itemsToJson_resolveItems (items : List Json) :
    itemsToJson (resolveItems (ofItems items)) =
      items.map fun item => (ofJson item).resolve.toJson := by
  induction items with
  | nil => rfl
  | cons item items inductionHypothesis =>
    rw [ofItems, resolveItems_cons, itemsToJson, inductionHypothesis, List.map_cons]

/-- The entries of an object are resolved and written one by one, under their keys. -/
theorem entriesToJson_resolveEntries (entries : List (String × Json)) :
    entriesToJson (resolveEntries (ofEntries entries)) =
      entries.map fun entry => (entry.1, (ofJson entry.2).resolve.toJson) := by
  induction entries with
  | nil => rfl
  | cons entry entries inductionHypothesis =>
    rw [ofEntries, resolveEntries_cons, entriesToJson, inductionHypothesis, List.map_cons]

/-- The written tree of a value can be denoted if the value can. -/
theorem denotable_resolve {value : Json} (denotable : value.Denotable) :
    (ofJson value).resolve.toJson.Denotable := by
  have node : ∀ {kind : String} {value : Json}, value.Denotable →
      (Json.obj [("type", .str kind), ("value", value)]).Denotable := fun denotable =>
    .pair (by decide : "type" ≠ "value") (.str _) denotable
  induction denotable with
  | null => exact node .null
  | bool value => exact node (.bool value)
  | int least greatest => exact node (.int least greatest)
  | double value => exact node (.double value)
  | str text =>
    have tree : ofJson (.str text) = literal (.str text) := rfl
    rcases resolve_text text with ⟨target, _, made⟩ | ⟨tag, _, made⟩ | ⟨_, made⟩
    · rw [tree, made]
      exact node (.str target)
    · rw [tree, made]
      exact node (.str tag)
    · rw [tree, made]
      exact node (.str text)
  | @arr items _ inductionHypothesis =>
    rw [ofJson, resolve_list, toJson, itemsToJson_resolveItems]
    refine node (.arr ?_)
    rw [List.forall_mem_map]
    exact inductionHypothesis
  | @obj entries distinct _ inductionHypothesis =>
    rw [ofJson, resolve_map, toJson, entriesToJson_resolveEntries]
    refine node (.obj ?_ ?_)
    · rw [Keyed.keys, List.map_map]
      exact distinct
    · rw [List.forall_mem_map]
      exact inductionHypothesis

end ArgumentTree

/-! ## Payloads -/

namespace DeclaredService

/-- What a payload gives under a name can be denoted if the payload can. -/
theorem denotable_of_given? {payload value : Json} {name : String}
    (denotable : payload.Denotable) (given : given? name payload = some value) :
    value.Denotable := by
  have member := List.mem_reverse.mp (Keyed.mem_of_get?_eq_some given)
  cases payload with
  | obj entries => exact denotable.entry member
  | arr items => exact denotable.item (List.of_mem_zip member).2
  | null | bool | int | double | str => contradiction

/-- The same with a value in place of a missing one. -/
theorem denotable_getD {payload standard : Json} (name : String)
    (denotable : payload.Denotable) (fallback : standard.Denotable) :
    ((given? name payload).getD standard).Denotable := by
  cases given : given? name payload with
  | none => exact fallback
  | some value => exact denotable_of_given? denotable given

/-- A declared tag can be denoted if its declaration can. -/
theorem DeclaresTag.denotable {value : Json} {tag : Tag} (declares : DeclaresTag value tag)
    (denotable : value.Denotable) : tag.toJson.Denotable := by
  have attributed : ∀ {name : String} {attributes : List (String × Json)},
      (Json.obj attributes).Denotable → (Tag.mk name attributes).toJson.Denotable :=
    fun denotable => .pair (by decide : "name" ≠ "attributes") (.str _) denotable
  cases declares with
  | bare name => exact attributed (.obj List.nodup_nil (by simp))
  | detailed named => exact attributed (denotable.sublist List.filter_sublist)

/-- A declared call can be denoted if its declaration can. -/
theorem DeclaresCall.denotable {value : Json} {call : MethodCall}
    (declares : DeclaresCall value call) (denotable : value.Denotable) :
    call.toJson.Denotable := by
  have called : ∀ {method : String} {arguments : List Json},
      (Json.arr arguments).Denotable → (MethodCall.mk method arguments).toJson.Denotable :=
    fun denotable => .pair (by decide : "method" ≠ "arguments") (.str _) denotable
  cases declares with
  | @object entries method arguments _ listed =>
    refine called ?_
    rw [← listed]
    cases given : Json.lastUnder? "arguments" entries with
    | none => exact .arr (by simp)
    | some value =>
      exact denotable.entry (List.mem_reverse.mp (Keyed.mem_of_get?_eq_some given))
  | array method arguments => exact called (denotable.item (by simp))
  | methodAlone method => exact called (.arr (by simp))

/-- Parts that are declared item by item can be denoted if the items can. -/
theorem denotable_parts {α : Type} {declares : Json → α → Prop} {write : α → Json}
    {items : List Json} {parts : List α} (declared : List.Forall₂ declares items parts)
    (carried : ∀ value part, declares value part → value.Denotable → (write part).Denotable)
    (denotable : (Json.arr items).Denotable) : (Json.arr (parts.map write)).Denotable := by
  have each : ∀ item ∈ items, item.Denotable := fun _ => denotable.item
  refine .arr (List.forall_mem_map.mpr ?_)
  induction declared with
  | nil => simp
  | cons first _ inductionHypothesis =>
    rw [List.forall_mem_cons] at each ⊢
    exact ⟨carried _ _ first each.1, inductionHypothesis (.arr each.2) each.2⟩

/-- What a payload declares can be denoted if the payload can. -/
theorem Declares.denotable {classId : ClassIdentifier} {payload : Json}
    {directive : ConstructionDirective} (declares : Declares classId payload directive)
    (denotable : payload.Denotable) : directive.toJson.Denotable := by
  have empty : (Json.arr []).Denotable := .arr (by simp)
  have arguments : directive.arguments.toJson.Denotable := by
    rw [declares.arguments]
    exact ArgumentTree.denotable_resolve (denotable_getD "arguments" denotable empty)
  have tags : (Json.arr (directive.tags.map Tag.toJson)).Denotable := by
    obtain ⟨items, given, related⟩ := declares.tags
    exact denotable_parts related (fun _ _ => DeclaresTag.denotable)
      (given ▸ denotable_getD "tags" denotable empty)
  have methodCalls : (Json.arr (directive.methodCalls.map MethodCall.toJson)).Denotable := by
    obtain ⟨items, given, related⟩ := declares.methodCalls
    exact denotable_parts related (fun _ _ => DeclaresCall.denotable)
      (given ▸ denotable_getD "methodCalls" denotable empty)
  have factory : ∀ tree ∈ directive.factory, tree.toJson.Denotable := by
    rw [declares.factory]
    intro tree made
    obtain ⟨value, present, rfl⟩ := Option.map_eq_some_iff.mp made
    have given := (Option.filter_eq_some_iff.mp present).1
    exact ArgumentTree.denotable_resolve (denotable_of_given? denotable given)
  rw [ConstructionDirective.toJson_eq]
  refine .obj (directive.nodup_keys_entriesWith _ _) ?_
  simp only [ConstructionDirective.entriesWith, List.forall_mem_append, ServiceFlags.entries,
    List.forall_mem_cons, List.not_mem_nil, false_implies, implies_true, and_true]
  refine ⟨⟨⟨⟨⟨.str _, .str _⟩, .bool _, .bool _, .bool _, .bool _, .bool _⟩, arguments, tags,
    methodCalls⟩, ?_⟩, ?_⟩
  · cases made : directive.factory with
    | none => simp [ConstructionDirective.optionalEntry]
    | some tree => simpa [ConstructionDirective.optionalEntry] using factory tree made
  · cases directive.decorates with
    | none => simp [ConstructionDirective.optionalEntry]
    | some service => simpa [ConstructionDirective.optionalEntry] using Denotable.str service

/-- A class is registered with a payload, that of its first service annotation. -/
theorem registers_of_buildDescriptor {parser : MetadataParser} {environment : String}
    {definition : ClassDefinition} {descriptor : ServiceDescriptor}
    (registered : buildDescriptor parser environment definition = .ok (.registered descriptor)) :
    ∃ payload, Registers parser environment definition payload
      (.ofDescriptor descriptor.resolve) := by
  cases documented : definition.docComment with
  | none => simp [buildDescriptor, documented] at registered
  | some block =>
    cases parsed : parser definition.id block with
    | error error => simp [buildDescriptor, documented, parsed] at registered
    | ok annotations =>
      cases found : annotations.find? DocEntry.isService with
      | none => simp [buildDescriptor, documented, parsed, buildAnnotated, found] at registered
      | some entry =>
        exact ⟨entry.payload, block, annotations, entry, descriptor, documented, parsed, found,
          rfl, registered, rfl⟩

end DeclaredService

/-! ## Blocks -/

/-- A payload can be denoted. -/
theorem DocBlock.denotable_payload {name body : List Char} {value : Json}
    (read : payload name body = .ok value) : value.Denotable := by
  rw [payload] at read
  split at read
  · cases read
    exact .null
  · cases parsed : Json.parse (Text.trim body) with
    | error fault => simp [parsed, Except.mapError] at read
    | ok found =>
      rw [parsed] at read
      cases read
      exact (Json.parseWithin_spec parsed).1

/-- The payloads in the text of a block can be denoted.

Proof: by induction along the annotations. Each of them contributes a payload that has been
read from its text, or `null` where it has none. -/
theorem DocBlock.denotable_annotations {text : List Char} {entries : List DocEntry}
    (read : annotations text = .ok entries) : ∀ entry ∈ entries, entry.payload.Denotable := by
  fun_induction annotations text generalizing entries with
  | case1 =>
    cases read
    simp
  | case2 _ _ _ inductionHypothesis => exact inductionHypothesis read
  | case3 | case4 | case5 | case7 => cases read
  | case6 _ _ _ _ _ _ _ _ _ _ value found others behind inductionHypothesis =>
    cases read
    rw [List.forall_mem_cons]
    exact ⟨denotable_payload found, inductionHypothesis behind⟩
  | case8 _ _ _ _ _ others behind _ inductionHypothesis =>
    cases read
    rw [List.forall_mem_cons]
    exact ⟨.null, inductionHypothesis behind⟩

/-- The directive of a class that is registered through its documentation block is one that
a text can denote. -/
theorem ConstructionDirective.denotable_of_registered {environment : String}
    {definition : ClassDefinition} {descriptor : ServiceDescriptor}
    (registered :
      buildDescriptor DocBlock.parser environment definition = .ok (.registered descriptor)) :
    (ofDescriptor descriptor.resolve).toJson.Denotable := by
  obtain ⟨payload, registers⟩ := DeclaredService.registers_of_buildDescriptor registered
  obtain ⟨declared, read, made⟩ := DeclaredService.ofPayload_of_registers registers
  obtain ⟨block, annotations, entry, _, _, parsed, found, rfl, _⟩ := registers
  have denotable : entry.payload.Denotable := by
    rw [DocBlock.parser] at parsed
    cases blockRead : DocBlock.parse block with
    | error fault => simp [blockRead, Except.mapError] at parsed
    | ok entries =>
      rw [blockRead] at parsed
      cases parsed
      exact DocBlock.denotable_annotations blockRead entry (List.mem_of_find?_eq_some found)
  rw [made]
  exact (DeclaredService.declares_of_ofPayload read definition.id).denotable denotable

end ServiceWiring
