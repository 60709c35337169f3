import Leasehold.FirstOccurrences
import Leasehold.Text.Hex

/-!
# Test expressions of client classes

A client class may carry a test over the facts known about a client: the identifiers it presented,
the interface its request arrived on, and the classes it already belongs to. This module holds the
expressions and the names of the classes that an expression asks about.
-/
namespace Leasehold

/-- A fact about a client that an expression can read. -/
inductive ClientField where
  /-- The hardware address. -/
  | mac
  /-- The client identifier option. -/
  | clientId
  /-- The unique identifier of a client of the second family. -/
  | duid
  /-- The receiving interface. -/
  | iface
  /-- The circuit that a relay received the request on. -/
  | circuitId
deriving DecidableEq, Repr

/-- A test expression. -/
inductive Expr where
  /-- A text. -/
  | string (value : String)
  /-- A sequence of bytes. -/
  | hex (value : Bytes)
  /-- A number of 32 bits. -/
  | int (value : UInt32)
  /-- A truth value. -/
  | bool (value : Bool)
  /-- Whether the client belongs to a class. -/
  | member (name : String)
  /-- A fact about the client. -/
  | field (field : ClientField)
  /-- Part of the bytes of a value, from a position, of a length or up to the end. -/
  | substring (value : Expr) (start : UInt64) (length : Option UInt64)
  /-- The negation of a truth value. -/
  | not (value : Expr)
  /-- Both truth values. -/
  | and (left right : Expr)
  /-- At least one of the truth values. -/
  | or (left right : Expr)
  /-- Both values are equal. -/
  | equal (left right : Expr)
  /-- The values are not equal. -/
  | notEqual (left right : Expr)
deriving DecidableEq, Repr, Inhabited

namespace Expr

/-- Every class name that an expression asks about, in the order written. -/
def mentions : Expr → List String
  | string _ | hex _ | int _ | bool _ | field _ => []
  | member name => [name]
  | substring value _ _ => value.mentions
  | not value => value.mentions
  | and left right | or left right | equal left right | notEqual left right =>
    left.mentions ++ right.mentions

/-- The class names that an expression asks about, each once, in order of first occurrence. -/
def dependencies (expr : Expr) : List String := firstOccurrences expr.mentions

end Expr

end Leasehold
