import Leasehold.Document

/-!
# Decoding documents

A decoder turns a node into a value or fails; nothing is said about why. Records are decoded field
by field: an entry under an unknown key is skipped, a field given twice fails, and a field that is
absent fails unless it is optional or has a default. Most records may also be written as a sequence
of their fields in order, in which case the fields left out at the end must be ones with a default.
-/
namespace Leasehold.Node

/-- The text of a node. -/
def text? : Node → Option String
  | .scalar _ spelling => spelling
  | _ => none

/-- The truth value of a node. -/
def bool? : Node → Option Bool
  | .scalar (.bool value) _ => some value
  | _ => none

/-- The number of a node, when it is whole, not below zero and at most `largest`. -/
def natural? (largest : Nat) : Node → Option Nat
  | .scalar (.whole value) _ => if value ≤ largest then some value else none
  | .scalar (.minus 0) _ => some 0
  | _ => none

/-- The node stands for no value. -/
def isNull : Node → Bool
  | .scalar .null _ => true
  | _ => false

/-- Every item of a sequence, decoded. -/
def list? {α : Type} (decode : Node → Option α) : Node → Option (List α)
  | .list items => items.mapM decode
  | _ => none

/-- A value that may be null. -/
def nullable? {α : Type} (decode : Node → Option α) (node : Node) : Option (Option α) :=
  if node.isNull then some none else (decode node).map some

/-- A name out of a fixed choice: the name itself, or a mapping from the name to null. -/
def choice? {α : Type} (choose : String → Option α) : Node → Option α
  | .map [(name, value)] => if value.isNull then name.text?.bind choose else none
  | node => node.text?.bind choose

/-- The node says nothing: it is null or a mapping without entries. -/
def isVoid : Node → Bool
  | .map [] => true
  | node => node.isNull

/-- A name out of a fixed choice, in a part of a document that is held to its kinds. There a mapping
may also lead to an empty mapping, and may start from the place of the choice among all of them. -/
def settledChoice? {α : Type} (choices : List α) (choose : String → Option α) : Node → Option α
  | .map [(.scalar (.whole place) none, value)] => if value.isVoid then choices[place]? else none
  | .map [(name, value)] => if value.isVoid then name.text?.bind choose else none
  | node => node.text?.bind choose

/-- The fields of a record. -/
structure Fields where
  /-- The node under each name that was given. -/
  given : List (String × Node)
  /-- The record was written as a sequence. -/
  positional : Bool

namespace Fields

/-- The node of a field, if it was given. -/
def find? (fields : Fields) (name : String) : Option Node := fields.given.lookup name

/-- A field that must be given. -/
def required? {α : Type} (fields : Fields) (name : String) (decode : Node → Option α) : Option α :=
  (fields.find? name).bind decode

/-- A field that may be left out of a mapping or be null. -/
def optional? {α : Type} (fields : Fields) (name : String) (decode : Node → Option α) :
    Option (Option α) :=
  match fields.find? name with
  | some node => node.nullable? decode
  | none => if fields.positional then none else some none

/-- A field with a value of its own when it is left out. -/
def defaulted? {α : Type} (fields : Fields) (name : String) (fallback : α)
    (decode : Node → Option α) : Option α :=
  match fields.find? name with
  | some node => decode node
  | none => some fallback

end Fields

/-- The field of a record that a key stands for, if there is one. The key is the name of the field
or, when it is held to be a number, its place. No other key is allowed. -/
def fieldName? (names : List String) : Node → Option (Option String)
  | .scalar (.whole place) none => some names[place]?
  | key => key.text?.map fun name => names.find? (· = name)

/-- The entries of a mapping that stand for the given fields. A field given twice fails. -/
def pick? (names : List String) : List (Node × Node) → Option (List (String × Node))
  | [] => some []
  | (key, value) :: rest => do
    let field ← fieldName? names key
    let rest ← pick? names rest
    match field with
    | none => some rest
    | some name => if (rest.lookup name).isSome then none else some ((name, value) :: rest)

/-- The entries of a mapping under keys other than the given names, each value held to its kind. The
keys are read as text. -/
def others? (names : List String) : List (Node × Node) → Option (List (Node × Node))
  | [] => some []
  | (key, value) :: rest => do
    let name ← key.text?
    let rest ← others? names rest
    if names.contains name then some rest
    else
      let value ← value.settle?
      some ((ofText name, value) :: rest)

/-- The fields of a record written as a mapping, or as a sequence in the order of the names. -/
def record? (names : List String) : Node → Option Fields
  | .map entries => (pick? names entries).map (⟨·, false⟩)
  | .list items => if items.length ≤ names.length then some ⟨names.zip items, true⟩ else none
  | .scalar _ _ => none

/-- The fields of a record that shares its mapping with a second record: its own fields, and those
of the second, in which every scalar is held to its own kind. -/
def shared? (names inner : List String) : Node → Option (Fields × Fields)
  | .map entries => do
    let own ← pick? names entries
    let rest ← others? names entries
    let second ← pick? inner rest
    some (⟨own, false⟩, ⟨second, false⟩)
  | _ => none

end Leasehold.Node
