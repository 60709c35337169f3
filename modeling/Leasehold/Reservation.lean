import Std.Data.HashMap
import Leasehold.Config

/-!
# Host reservations

A reservation gives a host, known by one or more identifiers, fixed addresses and blocks, a host
name and classes. Reservations of one scope share no identifier and, unless that is allowed, claim
no address twice, where a block claims its first address. The index finds a reservation by the
identifiers a client presents, trying the kinds of identifiers in a fixed order, and by the address
it claims.
-/
namespace Leasehold

/-- A host reservation. -/
structure Reservation where
  /-- The scope it belongs to. -/
  scope : Scope
  /-- The identifiers of the host, in the fixed order of their kinds. -/
  identifiers : List Identifier
  /-- The reserved addresses, in the order given, each once. -/
  addresses : List Address
  /-- The reserved blocks. -/
  blocks : List Block
  /-- The name of the host. -/
  hostname : Option String
  /-- The classes that the host is assigned to. -/
  classes : List String
deriving DecidableEq, Repr

/-- Why a reservation is refused. -/
inductive ReservationError where
  /-- One of its identifiers cannot be read. -/
  | invalidIdentifier (error : InvalidIdentifier)
  /-- It has no identifier. -/
  | missingIdentifier (scope : Scope)
  /-- Another reservation of the scope has one of its identifiers. -/
  | duplicateIdentifier (scope : Scope) (identifier : Identifier) (first second : String)
  /-- Another reservation of the scope claims one of its addresses. -/
  | duplicateAddress (scope : Scope) (address : Address) (first second : String)
deriving DecidableEq, Repr

/-- The wording of each error. -/
def ReservationError.message : ReservationError → String
  | .invalidIdentifier error => error.message
  | .missingIdentifier scope => scope.text ++ " reservation has no identifier"
  | .duplicateIdentifier scope identifier first second =>
    scope.text ++ " reservations " ++ first ++ " and " ++ second ++ " share identifier " ++
      identifier.text
  | .duplicateAddress scope address first second =>
    scope.text ++ " reservations " ++ first ++ " and " ++ second ++ " both reserve " ++
      address.text

namespace Reservation

/-- The identifiers that a configured reservation gives, in the fixed order of their kinds. -/
def givenIdentifiers (entry : Config.Reservation) : List (IdentifierKind × String) :=
  [(IdentifierKind.hwAddress, entry.hwAddress), (.duid, entry.duid),
    (.clientId, entry.clientId), (.circuitId, entry.circuitId)].filterMap
      fun (kind, text) => text.map (kind, ·)

/-- Read the identifiers of a configured reservation; the first that cannot be read is reported. -/
def readIdentifiers : List (IdentifierKind × String) → Except InvalidIdentifier (List Identifier)
  | [] => .ok []
  | (kind, text) :: rest =>
    match Identifier.parse kind text with
    | .error error => .error error
    | .ok identifier => (readIdentifiers rest).map (identifier :: ·)

/-- The addresses followed by those of the others that are not among them yet. -/
def appendNew (addresses others : List Address) : List Address :=
  others.foldl (fun found address =>
    if address ∈ found then found else found ++ [address]) addresses

/-- The reservation of a scope that a configuration describes. -/
def ofConfig (scope : Scope) (entry : Config.Reservation) : Except ReservationError Reservation :=
  match readIdentifiers (givenIdentifiers entry) with
  | .error error => .error (.invalidIdentifier error)
  | .ok [] => .error (.missingIdentifier scope)
  | .ok identifiers => .ok {
      scope
      identifiers
      addresses := appendNew entry.ipAddress.toList entry.ipAddresses
      blocks := entry.blocks.map Block.trunc
      hostname := entry.hostname
      classes := entry.clientClasses }

/-- The first reserved address of a family. -/
def address? (reservation : Reservation) (family : Family) : Option Address :=
  reservation.addresses.find? (·.family == family)

/-- The client presents one of the identifiers of the host. -/
def belongsTo (reservation : Reservation) (ids : ClientIdentifiers) : Bool :=
  reservation.identifiers.any ids.presents

/-- The name of a reservation in messages: its first identifier. -/
def label (reservation : Reservation) : String :=
  (reservation.identifiers.head?.map Identifier.text).getD ""

/-- The addresses that a reservation claims: the reserved ones and the first of each block. -/
def claimed (reservation : Reservation) : List Address :=
  reservation.addresses ++ reservation.blocks.map Block.first

end Reservation

/-- Reservations, found by scope and identifier and by scope and address. -/
structure ReservationIndex where
  /-- The kinds of identifiers that are tried, in order. -/
  order : List IdentifierKind
  /-- The reservations in the order they were inserted. -/
  hosts : Array Reservation
  /-- The place of the reservation with an identifier. -/
  byIdentifier : Std.HashMap (Scope × Identifier) Nat
  /-- The places of the reservations that claim an address, in the order they were inserted. -/
  byAddress : Std.HashMap (Scope × Address) (List Nat)

namespace ReservationIndex

/-- The index without reservations. -/
def empty (order : List IdentifierKind) : ReservationIndex := ⟨order, #[], ∅, ∅⟩

/-- The places of the reservations of a scope that claim an address. -/
def claims (index : ReservationIndex) (scope : Scope) (address : Address) : List Nat :=
  (index.byAddress[(scope, address)]?).getD []

/-- The name of the reservation at a place. -/
def labelAt (index : ReservationIndex) (place : Nat) : String :=
  (index.hosts[place]?.map Reservation.label).getD ""

/-- The first identifier of a new reservation that another one of its scope has. -/
def sharedIdentifier? (index : ReservationIndex) (new : Reservation) :
    Option (Identifier × Nat) :=
  new.identifiers.findSome? fun identifier =>
    (index.byIdentifier[(new.scope, identifier)]?).map (identifier, ·)

/-- The first address that a new reservation and another one of its scope claim. -/
def sharedAddress? (index : ReservationIndex) (new : Reservation) : Option (Address × Nat) :=
  new.claimed.findSome? fun address =>
    (index.claims new.scope address).head?.map (address, ·)

/-- Add the place of a reservation to those that claim an address. -/
def addClaim (scope : Scope) (place : Nat)
    (found : Std.HashMap (Scope × Address) (List Nat)) (address : Address) :
    Std.HashMap (Scope × Address) (List Nat) :=
  found.insert (scope, address) ((found[(scope, address)]?).getD [] ++ [place])

/-- Add a reservation that shares nothing with another one. -/
def append (index : ReservationIndex) (new : Reservation) : ReservationIndex :=
  let place := index.hosts.size
  { index with
    hosts := index.hosts.push new
    byIdentifier := new.identifiers.foldl
      (fun found identifier => found.insert (new.scope, identifier) place) index.byIdentifier
    byAddress := new.claimed.foldl (addClaim new.scope place) index.byAddress }

/-- Add a reservation unless another one of its scope has one of its identifiers or, when addresses
are unique, claims one of its addresses. -/
def insert (index : ReservationIndex) (new : Reservation) (uniqueAddresses : Bool) :
    Except ReservationError ReservationIndex :=
  match index.sharedIdentifier? new with
  | some (identifier, place) =>
    .error (.duplicateIdentifier new.scope identifier (index.labelAt place) new.label)
  | none =>
    match if uniqueAddresses then index.sharedAddress? new else none with
    | some (address, place) =>
      .error (.duplicateAddress new.scope address (index.labelAt place) new.label)
    | none => .ok (index.append new)

/-- The reservation of a client in a scope, by the first kind of identifier that finds one. -/
def lookup (index : ReservationIndex) (scope : Scope) (ids : ClientIdentifiers) :
    Option Reservation :=
  index.order.findSome? fun kind => do
    let identifier ← ids.identifier? kind
    let place ← index.byIdentifier[(scope, identifier)]?
    index.hosts[place]?

/-- The first reservation of a scope that claims an address. -/
def lookupAddress (index : ReservationIndex) (scope : Scope) (address : Address) :
    Option Reservation :=
  (index.claims scope address).head?.bind (index.hosts[·]?)

/-- Some reservation of the scope claims the address and does not belong to the client. -/
def reservedForOther (index : ReservationIndex) (scope : Scope) (address : Address)
    (ids : ClientIdentifiers) : Bool :=
  (index.claims scope address).any fun place =>
    (index.hosts[place]?).any fun host => !host.belongsTo ids

end ReservationIndex

end Leasehold
