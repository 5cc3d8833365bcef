import ServiceWiring.Argument.Written

/-!
# The JSON forms of an argument tree

A tree has one written form and many forms from which it is read: each of its
nodes stands in an object with `type` before `value`, in an object with the two
swapped, or in an array of the two, and every node makes this choice for itself.
`Describes` relates a tree to all of these. Reading any of them gives the tree
back, and the written form is one of them.

A literal may hold a JSON value that looks like a node. It is not looked into, so
the relation leaves it as it is, whatever its shape.
-/

namespace ServiceWiring

/-- A node in JSON: a named kind of tree with its value, in one of the three
layouts. -/
inductive Json.Tagged (name : String) (value : Json) : Json → Prop
  | typeFirst : Tagged name value (.obj [("type", .str name), ("value", value)])
  | valueFirst : Tagged name value (.obj [("value", value), ("type", .str name)])
  | pair : Tagged name value (.arr [.str name, value])

namespace ArgumentTree

mutual

/-- A JSON value is one of the forms of a tree. -/
def Describes : ArgumentTree → Json → Prop
  | literal value, json => Json.Tagged "literal" value json
  | reference target, json => Json.Tagged "reference" (.str target) json
  | taggedGroup tag, json => Json.Tagged "tagged_group_reference" (.str tag) json
  | list items, json => ∃ values, DescribesItems items values ∧ Json.Tagged "list" (.arr values) json
  | map entries, json =>
    ∃ values, DescribesEntries entries values ∧ Json.Tagged "map" (.obj values) json

/-- JSON values are forms of the trees of a list, place by place. -/
def DescribesItems : List ArgumentTree → List Json → Prop
  | [], values => values = []
  | item :: items, values =>
    ∃ first rest, values = first :: rest ∧ Describes item first ∧ DescribesItems items rest

/-- JSON entries hold forms of the trees of a map, in its order and under its
keys. -/
def DescribesEntries : List (String × ArgumentTree) → List (String × Json) → Prop
  | [], values => values = []
  | (key, tree) :: entries, values =>
    ∃ first rest, values = (key, first) :: rest ∧ Describes tree first ∧
      DescribesEntries entries rest

end

mutual

/-- The written form of a tree is one of its forms. -/
theorem describes_toJson : ∀ tree : ArgumentTree, Describes tree (toJson tree)
  | .literal _ => by rw [Describes, toJson]; exact .typeFirst
  | .reference _ => by rw [Describes, toJson]; exact .typeFirst
  | .taggedGroup _ => by rw [Describes, toJson]; exact .typeFirst
  | .list items => by
    rw [Describes, toJson]
    exact ⟨itemsToJson items, describesItems_itemsToJson items, .typeFirst⟩
  | .map entries => by
    rw [Describes, toJson]
    exact ⟨entriesToJson entries, describesEntries_entriesToJson entries, .typeFirst⟩

/-- The written forms of the trees of a list are forms of them. -/
theorem describesItems_itemsToJson :
    ∀ items : List ArgumentTree, DescribesItems items (itemsToJson items)
  | [] => by rw [DescribesItems, itemsToJson]
  | item :: items => by
    rw [DescribesItems, itemsToJson]
    exact ⟨toJson item, itemsToJson items, rfl, describes_toJson item,
      describesItems_itemsToJson items⟩

/-- The written entries of a map hold forms of its trees. -/
theorem describesEntries_entriesToJson :
    ∀ entries : List (String × ArgumentTree), DescribesEntries entries (entriesToJson entries)
  | [] => by rw [DescribesEntries, entriesToJson]
  | (key, tree) :: entries => by
    rw [DescribesEntries, entriesToJson]
    exact ⟨toJson tree, entriesToJson entries, rfl, describes_toJson tree,
      describesEntries_entriesToJson entries⟩

end

/-- All three layouts of a node are read as its kind with its value. -/
theorem ofJson?_of_tagged {name : String} {kind : Kind} {value json : Json}
    (named : Keyed.get? name Kind.names = some kind) (tagged : Json.Tagged name value json) :
    ofJson? json = ofValue? kind value := by
  cases tagged with
  | typeFirst => simp [ofJson?, ofValueEntry?, Keyed.get?, Json.choice?, named]
  | valueFirst => simp [ofJson?, ofValueEntry?, Keyed.get?, Json.choice?, named]
  | pair => simp [ofJson?, Json.choice?, named]

mutual

/-- Every form of a tree is read as the tree. The recursion is on the tree: what
stands in a literal is taken over unread, and the parts of a list or a map are
smaller trees. -/
theorem ofJson?_of_describes :
    ∀ {tree : ArgumentTree} {json : Json}, Describes tree json → ofJson? json = some tree
  | .literal value, json, described => by
    rw [Describes] at described
    rw [ofJson?_of_tagged rfl described, ofValue?]
  | .reference target, json, described => by
    rw [Describes] at described
    rw [ofJson?_of_tagged rfl described, ofValue?]
  | .taggedGroup tag, json, described => by
    rw [Describes] at described
    rw [ofJson?_of_tagged rfl described, ofValue?]
  | .list items, json, described => by
    rw [Describes] at described
    obtain ⟨values, itemsDescribed, tagged⟩ := described
    rw [ofJson?_of_tagged rfl tagged, ofValue?, ofItems?_of_describes itemsDescribed, Option.map_some]
  | .map entries, json, described => by
    rw [Describes] at described
    obtain ⟨values, entriesDescribed, tagged⟩ := described
    rw [ofJson?_of_tagged rfl tagged, ofValue?, ofEntries?_of_describes entriesDescribed,
      Option.map_some]

/-- Forms of the trees of a list are read as the list. -/
theorem ofItems?_of_describes :
    ∀ {items : List ArgumentTree} {values : List Json}, DescribesItems items values →
      ofItems? values = some items
  | [], values, described => by
    rw [DescribesItems] at described
    rw [described, ofItems?]
  | item :: items, values, described => by
    rw [DescribesItems] at described
    obtain ⟨first, rest, rfl, firstDescribed, restDescribed⟩ := described
    simp [ofItems?, ofJson?_of_describes firstDescribed, ofItems?_of_describes restDescribed]

/-- Entries that hold forms of the trees of a map are read as the map. -/
theorem ofEntries?_of_describes :
    ∀ {entries : List (String × ArgumentTree)} {values : List (String × Json)},
      DescribesEntries entries values → ofEntries? values = some entries
  | [], values, described => by
    rw [DescribesEntries] at described
    rw [described, ofEntries?]
  | (key, tree) :: entries, values, described => by
    rw [DescribesEntries] at described
    obtain ⟨first, rest, rfl, firstDescribed, restDescribed⟩ := described
    simp [ofEntries?, ofJson?_of_describes firstDescribed, ofEntries?_of_describes restDescribed]

end

/-- Reading undoes writing. -/
theorem ofJson?_toJson (tree : ArgumentTree) : ofJson? (toJson tree) = some tree :=
  ofJson?_of_describes (describes_toJson tree)

/-- No form of a tree is `null`, so a form never counts as a missing value. -/
theorem ne_null_of_describes {tree : ArgumentTree} {json : Json} (described : Describes tree json) :
    json ≠ .null := by
  rintro rfl
  have nothing := ofJson?_of_describes described
  simp [ofJson?] at nothing

end ArgumentTree

end ServiceWiring
