import Leasehold.AddressText
import Leasehold.Identifier
import Leasehold.Scope
import Leasehold.Timestamp

/-!
# Leases

A lease records that an address, or the block that begins at it, was handed to a client. What the
record means at an instant depends on its state and on whether its lifetime is over: it is in use,
it keeps the address from being handed out, it has to be reclaimed first, or it is only remembered
so that the client can have the address again.
-/
namespace Leasehold

/-- What became of a lease. -/
inductive LeaseState where
  /-- It was handed out, and its owner holds it until it expires. -/
  | active
  /-- It was found to be over by whoever stored it, and waits to be reclaimed. -/
  | expiredReclaimable
  /-- It was reclaimed, and the address is free. -/
  | reclaimed
  /-- A client found the address in use by someone else, so that it is kept out of use for a while.
  -/
  | declined
deriving DecidableEq, Repr

namespace LeaseState

/-- The name of each state. -/
def text : LeaseState → String
  | active => "active"
  | expiredReclaimable => "expired-reclaimable"
  | reclaimed => "reclaimed"
  | declined => "declined"

/-- The state with a name. -/
def ofText? : String → Option LeaseState
  | "active" => some active
  | "expired-reclaimable" => some expiredReclaimable
  | "reclaimed" => some reclaimed
  | "declined" => some declined
  | _ => none

end LeaseState

/-- The record of an address. -/
structure Lease where
  /-- The address, or the first address of the block. -/
  address : Address
  /-- The length of the block, which for a single address is the width of its family. -/
  length : Nat
  /-- The identifier that the lease is recorded against. -/
  owner : Option Identifier
  /-- The subnet that the lease belongs to. -/
  subnet : SubnetId
  /-- The number of the pool that the address was taken from. -/
  pool : Option UInt32
  /-- When the client was last heard of. -/
  lastSeen : Instant
  /-- How long the lease is valid from then on. -/
  valid : Duration
  /-- What became of the lease. -/
  state : LeaseState
  /-- The name of the client. -/
  hostname : Option String
  /-- How many writes the record has seen since it came into being. -/
  version : Nat
deriving DecidableEq, Repr

namespace Lease

/-- The record of an address that nobody holds. -/
def vacant (address : Address) (length : Nat) (subnet : SubnetId) : Lease where
  address := address
  length := length
  owner := none
  subnet := subnet
  pool := none
  lastSeen := 0
  valid := 0
  state := .reclaimed
  hostname := none
  version := 0

/-- When the lifetime of a lease is over. -/
def expiresAt (lease : Lease) : Instant := lease.lastSeen + lease.valid

/-- The lifetime of a lease is over, whatever became of it. -/
def isExpired (lease : Lease) (now : Instant) : Bool := lease.expiresAt ≤ now

/-- The lease is held by its owner. -/
def isActive (lease : Lease) (now : Instant) : Bool :=
  lease.state == .active && !lease.isExpired now

/-- The address cannot be handed to anyone else: it is held, or was declined not long ago. -/
def blocks (lease : Lease) (now : Instant) : Bool :=
  match lease.state with
  | .active | .declined => !lease.isExpired now
  | .expiredReclaimable | .reclaimed => false

/-- The lease has to be reclaimed before its address is handed out again. -/
def needsReclaim (lease : Lease) (now : Instant) : Bool :=
  match lease.state with
  | .active | .declined => lease.isExpired now
  | .expiredReclaimable => true
  | .reclaimed => false

/-- The lease is recorded against the identifier. -/
def isOwnedBy (lease : Lease) (identifier : Identifier) : Bool := lease.owner == some identifier

/-- The address and the length of its block. -/
def target (lease : Lease) : String := lease.address.text ++ "/" ++ toString lease.length

/-- A lease in one line. -/
def text (lease : Lease) : String :=
  lease.target ++ " " ++ lease.state.text ++ " subnet " ++ toString lease.subnet.toNat ++
    (match lease.owner with
      | none => ""
      | some owner => " owner " ++ owner.text) ++
    " expires " ++ Timestamp.zulu lease.expiresAt

end Lease

end Leasehold
