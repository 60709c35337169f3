import Leasehold.Document.Decode
import Leasehold.Proofs.Json.Scanning

/-!
# Written records are decoded

The document of a written value is settled already, so holding it to its kinds changes nothing. Of
an object whose fields have distinct names, a record finds under each of its names what was written
there, and two records that share the object do not disturb each other (`record?_object`,
`shared?_object`).
-/
namespace Leasehold.Json

mutual

/-- The document of a written value is held to its kinds already. -/
theorem settle?_node : ∀ value : Json, value.node.settle? = some value.node
  | .null => rfl
  | .bool _ => rfl
  | .number value => by
    simp only [node]
    split <;> rfl
  | .text _ => rfl
  | .list items => by simp [node, Node.settle?, settleItems?_nodeItems items]
  | .object fields => by simp [node, Node.settle?, settleEntries?_nodeFields fields]

/-- The documents of the items of an array are held to their kinds already. -/
theorem settleItems?_nodeItems :
    ∀ items : List Json, Node.settleItems? (nodeItems items) = some (nodeItems items)
  | [] => rfl
  | item :: items => by
    simp [nodeItems, Node.settleItems?, settle?_node item, settleItems?_nodeItems items]

/-- The documents of the fields of an object are held to their kinds already. -/
theorem settleEntries?_nodeFields :
    ∀ fields : List (String × Json),
      Node.settleEntries? (nodeFields fields) = some (nodeFields fields)
  | [] => rfl
  | (name, value) :: fields => by
    have key : (Node.ofText name).settle? = some (Node.ofText name) := rfl
    simp [nodeFields, Node.settleEntries?, key, settle?_node value,
      settleEntries?_nodeFields fields]

end

/-- The fields that are picked from an object: those with one of the names. -/
def picked (names : List String) (fields : List (String × Json)) : List (String × Node) :=
  (fields.filter fun field => names.contains field.1).map fun field => (field.1, field.2.node)

/-- A written name stands for the field of that name. -/
theorem fieldName?_ofText (names : List String) (name : String) :
    Node.fieldName? names (Node.ofText name) = some (if name ∈ names then some name else none) := by
  have found : names.find? (· = name) = if name ∈ names then some name else none := by
    induction names with
    | nil => rfl
    | cons first names ih =>
      by_cases same : first = name
      · simp [same]
      · simp [same, ih, Ne.symm same]
  simp [Node.fieldName?, Node.ofText, Node.text?, found]

/-- A name that no field has finds nothing. -/
theorem lookup_eq_none {β : Type} {fields : List (String × β)} {name : String}
    (absent : name ∉ fields.map Prod.fst) : fields.lookup name = none := by
  rw [List.lookup_eq_none_iff]
  intro field member
  have other : name ≠ field.1 := fun same => absent (same ▸ List.mem_map_of_mem member)
  simpa using other

/-- A field that may be left out is found under its own name only. -/
@[simp]
theorem lookup_present {α : Type} (key name : String) (encode : α → Json) (value : Option α) :
    (present name encode value).lookup key = if key = name then value.map encode else none := by
  cases value with
  | none => simp [present]
  | some value =>
    by_cases same : key = name
    · simp [present, same]
    · have other : (key == name) = false := by simpa using same
      simp [present, List.lookup_cons, other, same]

/-- A filter that keeps a name does not change what is found under it. -/
theorem lookup_filter {β : Type} (test : String → Bool) {name : String}
    (kept : test name = true) (fields : List (String × β)) :
    (fields.filter fun field => test field.1).lookup name = fields.lookup name := by
  induction fields with
  | nil => rfl
  | cons field fields ih =>
    obtain ⟨first, value⟩ := field
    by_cases here : name = first
    · subst here
      simp [kept]
    · have other : (name == first) = false := by simpa using here
      by_cases keeps : test first = true
      · simp [List.lookup_cons, other, keeps, ih]
      · simp [List.lookup_cons, other, keeps, ih]

/-- What is found among documents is the document of what is found. -/
theorem lookup_map_node (fields : List (String × Json)) (name : String) :
    (fields.map fun field => (field.1, field.2.node)).lookup name =
      (fields.lookup name).map node := by
  induction fields with
  | nil => rfl
  | cons field fields ih =>
    obtain ⟨first, value⟩ := field
    simp only [List.map_cons, List.lookup_cons, ih]
    cases name == first <;> rfl

/-- What is found under a name of the record is what was written there. -/
theorem lookup_picked {names : List String} {name : String} (known : name ∈ names)
    (fields : List (String × Json)) :
    (picked names fields).lookup name = (fields.lookup name).map node := by
  have kept : names.contains name = true := by simpa using known
  rw [picked, lookup_map_node, lookup_filter names.contains kept]

/-- Every field with one of the names is picked when no name is used twice. -/
theorem pick?_nodeFields (names : List String) {fields : List (String × Json)}
    (distinct : (fields.map Prod.fst).Nodup) :
    Node.pick? names (nodeFields fields) = some (picked names fields) := by
  induction fields with
  | nil => rfl
  | cons field fields ih =>
    obtain ⟨name, value⟩ := field
    rw [List.map_cons, List.nodup_cons] at distinct
    have later := ih distinct.2
    by_cases wanted : name ∈ names
    · have single : (picked names fields).lookup name = none := by
        rw [lookup_picked wanted, lookup_eq_none distinct.1]
        rfl
      have first : picked names ((name, value) :: fields) =
          (name, value.node) :: picked names fields := by simp [picked, wanted]
      simp [nodeFields, Node.pick?, fieldName?_ofText, later, single, wanted, first]
    · have skipped : picked names ((name, value) :: fields) = picked names fields := by
        simp [picked, wanted]
      simp [nodeFields, Node.pick?, fieldName?_ofText, later, wanted, skipped]

/-- The fields of an object under other names. -/
def others (names : List String) (fields : List (String × Json)) : List (String × Json) :=
  fields.filter fun field => !names.contains field.1

/-- The other fields of an object are kept as they are. -/
theorem others?_nodeFields (names : List String) (fields : List (String × Json)) :
    Node.others? names (nodeFields fields) = some (nodeFields (others names fields)) := by
  induction fields with
  | nil => rfl
  | cons field fields ih =>
    obtain ⟨name, value⟩ := field
    have key : (Node.ofText name).text? = some name := rfl
    by_cases own : name ∈ names
    · have skipped : others names ((name, value) :: fields) = others names fields := by
        simp [others, own]
      simp [nodeFields, Node.others?, key, ih, own, skipped]
    · have kept : others names ((name, value) :: fields) =
          (name, value) :: others names fields := by simp [others, own]
      simp [nodeFields, Node.others?, key, ih, own, settle?_node, kept]

/-- What is found under another name stays. -/
theorem lookup_others {names : List String} {name : String} (free : name ∉ names)
    (fields : List (String × Json)) : (others names fields).lookup name = fields.lookup name := by
  have kept : (!names.contains name) = true := by simpa using free
  exact lookup_filter (fun name => !names.contains name) kept fields

/-- The fields of a record hold what was written under each of its names. -/
structure Holds (fields : Node.Fields) (names : List String) (written : List (String × Json)) :
    Prop where
  /-- The record was written as an object. -/
  mapping : fields.positional = false
  /-- Each name finds what was written under it. -/
  find : ∀ name ∈ names, fields.find? name = (written.lookup name).map node

namespace Holds

variable {fields : Node.Fields} {names : List String} {first second : List (String × Json)}

/-- Of an object in two parts, a record holds what was written in the first if the second has none
of its names. -/
theorem left (holds : Holds fields names (first ++ second))
    (apart : ∀ name ∈ names, name ∉ second.map Prod.fst) : Holds fields names first where
  mapping := holds.mapping
  find name known := by
    rw [holds.find name known, List.lookup_append, lookup_eq_none (apart name known),
      Option.or_none]

/-- Of an object in two parts, a record holds what was written in the second if the first has none
of its names. -/
theorem right (holds : Holds fields names (first ++ second))
    (apart : ∀ name ∈ names, name ∉ first.map Prod.fst) : Holds fields names second where
  mapping := holds.mapping
  find name known := by
    rw [holds.find name known, List.lookup_append, lookup_eq_none (apart name known),
      Option.none_or]

end Holds

/-- A record is read from an object with distinct names. -/
theorem record?_object (names : List String) {written : List (String × Json)}
    (distinct : (written.map Prod.fst).Nodup) :
    ∃ fields, (object written).node.record? names = some fields ∧ Holds fields names written :=
  ⟨⟨picked names written, false⟩, by simp [node, Node.record?, pick?_nodeFields names distinct],
    rfl, fun _ known => lookup_picked known written⟩

/-- Two records without a common name are read from an object with distinct names. -/
theorem shared?_object {names inner : List String} {written : List (String × Json)}
    (distinct : (written.map Prod.fst).Nodup) (apart : ∀ name ∈ inner, name ∉ names) :
    ∃ own second, (object written).node.shared? names inner = some (own, second) ∧
      Holds own names written ∧ Holds second inner written := by
  have remaining : ((others names written).map Prod.fst).Nodup :=
    distinct.sublist (List.filter_sublist.map Prod.fst)
  refine ⟨⟨picked names written, false⟩, ⟨picked inner (others names written), false⟩, ?_,
    ⟨rfl, fun _ known => lookup_picked known written⟩, rfl, fun name known => ?_⟩
  · simp [node, Node.shared?, pick?_nodeFields _ distinct, others?_nodeFields,
      pick?_nodeFields inner remaining]
  · exact (lookup_picked known _).trans (by rw [lookup_others (apart name known)])

end Leasehold.Json
