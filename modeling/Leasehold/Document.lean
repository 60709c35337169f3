/-!
# Documents

Configurations and request lists are written in one of two notations. Both are read into the tree of
this module before anything is decoded. The two notations differ in what a scalar may stand for: one
gives every scalar a single kind, the other lets a bare word be read as text wherever text is
wanted. A scalar therefore carries the kind that its notation settles on together with the text it
may be read as, if any.
-/
namespace Leasehold

/-- What a scalar is taken for when nothing else is known about its place. -/
inductive Scalar where
  /-- No value. -/
  | null
  /-- A truth value. -/
  | bool (value : Bool)
  /-- A whole number without a minus sign that fits 64 bits. -/
  | whole (magnitude : Nat)
  /-- A whole number with a minus sign that fits 64 bits; zero may have the sign too. -/
  | minus (magnitude : Nat)
  /-- A number written with a fraction or an exponent, or too large for a whole number. -/
  | fraction
  /-- A text. -/
  | text (value : String)
  /-- Something that its notation admits but that has no value, such as half of a surrogate pair or
  a number without bound. It does no harm where it is skipped. -/
  | unreadable
deriving DecidableEq, Repr, Inhabited

/-- A document, or a part of one. -/
inductive Node where
  /-- A scalar and the text it may be read as where text is wanted. -/
  | scalar (value : Scalar) (spelling : Option String)
  /-- A sequence. -/
  | list (items : List Node)
  /-- A mapping in the order written. A key is a node too, and need not be a text. -/
  | map (entries : List (Node × Node))
deriving Inhabited

namespace Node

/-- The node for a text. -/
def ofText (text : String) : Node := .scalar (.text text) (some text)

/-- The node for a place at which nothing was written. -/
def null : Node := .scalar .null none

/-- The node for something without a value. -/
def unreadable : Node := .scalar .unreadable none

mutual

/-- The document with every scalar, keys included, held to the kind its notation settled on, so that
only a text may be read as text. A part without a value makes the whole fail. -/
def settle? : Node → Option Node
  | .scalar value _ =>
    match value with
    | .unreadable => none
    | .text text => some (.scalar (.text text) (some text))
    | other => some (.scalar other none)
  | .list items => (settleItems? items).map .list
  | .map entries => (settleEntries? entries).map .map

/-- Every item of a sequence, each held to its kind. -/
def settleItems? : List Node → Option (List Node)
  | [] => some []
  | item :: rest => do
    let item ← settle? item
    let rest ← settleItems? rest
    some (item :: rest)

/-- Every entry of a mapping, each held to its kind. -/
def settleEntries? : List (Node × Node) → Option (List (Node × Node))
  | [] => some []
  | (key, value) :: rest => do
    let key ← settle? key
    let value ← settle? value
    let rest ← settleEntries? rest
    some ((key, value) :: rest)

end

end Node

end Leasehold
