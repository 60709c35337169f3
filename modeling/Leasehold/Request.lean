import Leasehold.LeaseTime
import Leasehold.Topology.Select

/-!
# Requests for leases

A request is what a client asks for and what is known about the client: its identifiers, where the
request came from, and its wishes for an address, a lifetime and a name.
-/
namespace Leasehold

/-- What a client asks for. -/
inductive LeaseKind where
  /-- A single address. -/
  | address
  /-- A block of addresses of its own. -/
  | block
deriving DecidableEq, Repr

/-- Whether an allocation is recorded. -/
inductive AllocationMode where
  /-- An address is found for the client, and nothing is recorded. -/
  | offer
  /-- The address that is found is recorded as leased. -/
  | commit
deriving DecidableEq, Repr

/-- How logs name a mode. -/
def AllocationMode.text : AllocationMode → String
  | .offer => "offer"
  | .commit => "commit"

/-- A request for a lease. -/
structure Request where
  /-- The identifiers that the client presents. -/
  identifiers : ClientIdentifiers
  /-- Where the request came from. -/
  selector : Selector
  /-- The address that the client would like. -/
  hint : Option Address
  /-- The lifetime that the client would like. -/
  lifetime : Option Duration
  /-- What the client asks for. -/
  kind : LeaseKind
  /-- The name that the client gives itself. -/
  hostname : Option String
deriving DecidableEq, Repr

/-- What is known about the client of a request before its reservation has been looked up. -/
def Request.facts (request : Request) : ClassFacts :=
  .unreserved request.identifiers request.selector.iface

/-- What is known about the client of a request, given its reservation or that it has none. -/
def Request.factsWith (request : Request) (reservation : Option Reservation) : ClassFacts where
  identifiers := request.identifiers
  iface := request.selector.iface
  known := some reservation.isSome
  reserved := (reservation.map (·.classes)).getD []

end Leasehold
