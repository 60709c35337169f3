import Leasehold.Text.Blank
import Leasehold.Text.Quoted

/-!
# Client identifiers

A client is known by up to four identifiers, each of its own kind. An identifier is written in
hexadecimal, with or without separators; the identifier of a circuit may also be a text in single
quotes. Leases are recorded against one of the identifiers a client presents, its owner identifier.
-/
namespace Leasehold

/-- The kinds of client identifiers. -/
inductive IdentifierKind where
  /-- The hardware address. -/
  | hwAddress
  /-- The unique identifier of a client of the second family. -/
  | duid
  /-- The client identifier option. -/
  | clientId
  /-- The circuit that a relay received the request on. -/
  | circuitId
deriving DecidableEq, Repr, Hashable

namespace IdentifierKind

/-- The name of each kind. -/
def text : IdentifierKind → String
  | hwAddress => "hw-address"
  | duid => "duid"
  | clientId => "client-id"
  | circuitId => "circuit-id"

/-- The kind with a name. -/
def ofText? : String → Option IdentifierKind
  | "hw-address" => some hwAddress
  | "duid" => some duid
  | "client-id" => some clientId
  | "circuit-id" => some circuitId
  | _ => none

end IdentifierKind

/-- A client identifier. -/
structure Identifier where
  /-- Its kind. -/
  kind : IdentifierKind
  /-- Its bytes. -/
  value : Bytes
deriving DecidableEq, Repr, Hashable

/-- Why a text is not an identifier. -/
inductive IdentifierFault where
  /-- Text in quotes was given for a kind other than a circuit. -/
  | quotedText
  /-- The text is not a sequence of hexadecimal digits. -/
  | hex (fault : Text.Hex.Fault)
  /-- There are no digits. -/
  | empty
deriving DecidableEq, Repr

/-- The wording of each fault. -/
def IdentifierFault.message : IdentifierFault → String
  | .quotedText => "quoted text is only valid for circuit-id"
  | .hex .oddLength => "Odd number of digits"
  | .hex (.badDigit byte position) =>
    "Invalid character " ++ Text.quotedSingle (Char.ofNat byte.toNat) ++ " at position " ++
      toString position
  | .empty => "empty identifier"

/-- A text that is not an identifier of a kind. -/
structure InvalidIdentifier where
  /-- The wanted kind. -/
  kind : IdentifierKind
  /-- The text as it was written. -/
  value : String
  /-- What is wrong with it. -/
  fault : IdentifierFault
deriving DecidableEq, Repr

/-- The wording of the error. -/
def InvalidIdentifier.message (error : InvalidIdentifier) : String :=
  "invalid " ++ error.kind.text ++ " identifier " ++ Text.quoted error.value ++ ": " ++
    error.fault.message

namespace Identifier

/-- The text between single quotes, when a text is written in them. -/
def unquoted? : List Char → Option (List Char)
  | '\'' :: rest => if rest.getLast? = some '\'' then some rest.dropLast else none
  | _ => none

/-- The text without any number of marks for hexadecimal at its front. -/
def dropMarks : List Char → List Char
  | '0' :: 'x' :: rest => dropMarks rest
  | text => text

/-- A character that may stand between two digits. -/
def isSeparator (c : Char) : Bool := c = ':' || c = '-'

/-- The bytes of an identifier that is written in hexadecimal. -/
def hexValue (text : List Char) : Except IdentifierFault Bytes :=
  match Text.Hex.decode (Text.utf8 ((dropMarks text).filter (!isSeparator ·))) with
  | .error fault => .error (.hex fault)
  | .ok [] => .error .empty
  | .ok bytes => .ok bytes

/-- The bytes of an identifier of a kind. -/
def valueOf (kind : IdentifierKind) (text : List Char) : Except IdentifierFault Bytes :=
  let trimmed := Text.trim text
  match unquoted? trimmed with
  | some inner => if kind = .circuitId then .ok (Text.utf8 inner) else .error .quotedText
  | none => hexValue trimmed

/-- Read an identifier of a kind. -/
def parse (kind : IdentifierKind) (text : String) : Except InvalidIdentifier Identifier :=
  match valueOf kind text.toList with
  | .ok value => .ok ⟨kind, value⟩
  | .error fault => .error ⟨kind, text, fault⟩

/-- The bytes of an identifier in hexadecimal, with colons between them. -/
def valueText (identifier : Identifier) : List Char :=
  List.intercalate [':'] (identifier.value.map Text.Hex.pair)

/-- The kind and the bytes of an identifier. -/
def text (identifier : Identifier) : String :=
  identifier.kind.text ++ "=" ++ String.ofList identifier.valueText

end Identifier

/-- Every identifier that a client presents in one request. -/
structure ClientIdentifiers where
  /-- The hardware address. -/
  hwAddress : Option Bytes
  /-- The unique identifier of a client of the second family. -/
  duid : Option Bytes
  /-- The client identifier option. -/
  clientId : Option Bytes
  /-- The circuit that a relay received the request on. -/
  circuitId : Option Bytes
deriving DecidableEq, Repr

namespace ClientIdentifiers

/-- The identifier of a kind. -/
def get? (ids : ClientIdentifiers) : IdentifierKind → Option Bytes
  | .hwAddress => ids.hwAddress
  | .duid => ids.duid
  | .clientId => ids.clientId
  | .circuitId => ids.circuitId

/-- The client presents no identifier. -/
def isEmpty (ids : ClientIdentifiers) : Bool :=
  ids.hwAddress.isNone && ids.duid.isNone && ids.clientId.isNone && ids.circuitId.isNone

/-- The client presents the identifier. -/
def presents (ids : ClientIdentifiers) (identifier : Identifier) : Bool :=
  ids.get? identifier.kind = some identifier.value

/-- The identifier of a kind, together with its kind. -/
def identifier? (ids : ClientIdentifiers) (kind : IdentifierKind) : Option Identifier :=
  (ids.get? kind).map (⟨kind, ·⟩)

/-- The identifier that leases are recorded against: the unique identifier, then the client
identifier where it counts, then the hardware address. -/
def owner? (ids : ClientIdentifiers) (matchClientId : Bool) : Option Identifier :=
  (ids.identifier? .duid).or
    ((if matchClientId then ids.identifier? .clientId else none).or (ids.identifier? .hwAddress))

end ClientIdentifiers

end Leasehold
