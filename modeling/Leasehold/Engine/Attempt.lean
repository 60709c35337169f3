import Leasehold.Lease
import Leasehold.Selection

/-!
# Attempts at an allocation

An attempt is one try to serve a request in one subnet: the client's reservation there has been
looked up, its classes are final, and the instant is fixed. Everything in this module follows from
these facts alone: which pools the client may use, which address its reservation fixes, which
addresses are suggested before the pools are searched, and what the record of an address means for
the client.
-/
namespace Leasehold

/-- One try to serve a request in one subnet. -/
structure Attempt where
  /-- The request. -/
  request : Request
  /-- The subnet. -/
  candidate : Candidate
  /-- Whether the allocation is recorded. -/
  mode : AllocationMode
  /-- The identifier that the lease is recorded against. -/
  owner : Identifier
  /-- The classes that the client belongs to. -/
  classes : ClassSet
  /-- The name that the lease is given. -/
  hostname : Option String
  /-- When the attempt began. -/
  now : Instant
deriving DecidableEq, Repr

/-- An address, or a block by its first address, and how it would be recorded. -/
structure Target where
  /-- The address. -/
  address : Address
  /-- The length of the block. -/
  length : Nat
  /-- The number of the pool. -/
  pool : Option UInt32
deriving DecidableEq, Repr

/-- What the record of an address means for a client. -/
inductive Standing where
  /-- The address may be taken. -/
  | free
  /-- The client itself holds the address. -/
  | held
  /-- Someone else holds the address, or it is kept out of use. -/
  | blocked (lease : Lease)
deriving DecidableEq, Repr

namespace Attempt

/-- The attempt at a request in a subnet, for a client with the reservation. -/
def ofReservation (topology : Topology) (candidate : Candidate) (request : Request)
    (mode : AllocationMode) (owner : Identifier) (reservation : Option Reservation)
    (now : Instant) : Attempt where
  request := request
  candidate := candidate
  mode := mode
  owner := owner
  classes := topology.classesWith request reservation
  hostname := (reservation.bind (·.hostname)).or request.hostname
  now := now

/-- The subnet. -/
def subnet (attempt : Attempt) : Subnet := attempt.candidate.subnet

/-- The pools of the subnet that hand out what the client asks for. -/
def pools (attempt : Attempt) : List Pool :=
  match attempt.request.kind with
  | .address => attempt.subnet.pools
  | .block => attempt.subnet.delegatedPools

/-- The pools that the classes of the client admit it to. -/
def eligiblePools (attempt : Attempt) : List Pool :=
  attempt.pools.filter (·.serves attempt.classes)

/-- The scope whose reservations for others the client does not get. -/
def protectedScope? (attempt : Attempt) : Option Scope :=
  attempt.candidate.params.reservationMode.protectedScope? attempt.subnet.id

/-- The address is reserved for another client, and not to be given to this one. -/
def isKeptForOther (attempt : Attempt) (topology : Topology) (address : Address) : Bool :=
  match attempt.protectedScope? with
  | none => false
  | some scope =>
    topology.reservations.reservedForOther scope address attempt.request.identifiers

/-- The lifetimes that the client gets. -/
def lifetimes (attempt : Attempt) : Lifetimes :=
  attempt.candidate.params.leaseTime.determine attempt.request.lifetime

/-- The length recorded for single addresses of the subnet. -/
def addressLength (attempt : Attempt) : Nat := attempt.subnet.family.width

/-- The lease is of the kind that the client asks for: blocks are shorter than single addresses. -/
def isSameKind (attempt : Attempt) (lease : Lease) : Bool :=
  decide (lease.length < attempt.addressLength) == (attempt.request.kind == .block)

/-- What a reservation holds for the client: the first address of the family of the subnet, or the
first block. -/
def reserved? (attempt : Attempt) (reservation : Reservation) : Option (Address × Nat) :=
  match attempt.request.kind with
  | .address =>
    (reservation.address? attempt.subnet.family).map fun address =>
      (address, attempt.addressLength)
  | .block => reservation.blocks.head?.map fun block => (block.address, block.length)

/-- What a reservation fixes for the client, if the subnet may hand it out: an address has to lie in
the subnet, and outside its pools the mode has to allow it. -/
def fixed? (attempt : Attempt) (reservation : Reservation) : Option Target :=
  match attempt.reserved? reservation with
  | none => none
  | some (address, length) =>
    let pool := attempt.pools.find? (·.contains address)
    let inside := attempt.request.kind == .block || attempt.subnet.contains address
    let allowed := pool.isSome || attempt.candidate.params.reservationMode.allowsOutOfPool
    if inside && allowed then some ⟨address, length, pool.bind (·.id)⟩ else none

/-- An address of a pool, recorded as the pool says. -/
def ofPool (pool : Pool) (address : Address) : Target := ⟨address, pool.leaseLength, pool.id⟩

/-- An address of a pool that the client may use. -/
def target? (attempt : Attempt) (address : Address) : Option Target :=
  (attempt.eligiblePools.find? (·.contains address)).map fun pool => ofPool pool address

/-- The leases of the subnet, among the given ones, that are recorded against the client and of the
kind it asks for. -/
def ownLeases (attempt : Attempt) (leases : List Lease) : List Lease :=
  leases.filter fun lease =>
    lease.subnet == attempt.subnet.id && lease.isOwnedBy attempt.owner && attempt.isSameKind lease

/-- The addresses to try before the pools are searched: those of the leases that the client holds,
then the one that it would like, then those of the leases that it once held, the most recent first.
Addresses outside the pools that the client may use are left out. -/
def suggestions (attempt : Attempt) (leases : List Lease) : List Target :=
  let own := attempt.ownLeases leases
  let holds := own.filter (·.isActive attempt.now)
  let held := (own.filter (!·.isActive attempt.now)).mergeSort
    (fun left right => right.lastSeen ≤ left.lastSeen)
  (holds.map (·.address) ++ attempt.request.hint.toList ++ held.map (·.address)).filterMap
    attempt.target?

/-- What the record of an address means for the client. -/
def standing (attempt : Attempt) : Option Lease → Standing
  | none => .free
  | some lease =>
    if !lease.blocks attempt.now then .free
    else if lease.state == .active && lease.isOwnedBy attempt.owner then .held
    else .blocked lease

/-- The record of an address has to be reclaimed before the allocation is recorded. -/
def overdue? (attempt : Attempt) (current : Option Lease) : Option Lease :=
  match attempt.mode with
  | .offer => none
  | .commit => current.filter (·.needsReclaim attempt.now)

/-- The lease that the client would get. -/
def lease (attempt : Attempt) (target : Target) (version : Nat) : Lease where
  address := target.address
  length := target.length
  owner := some attempt.owner
  subnet := attempt.subnet.id
  pool := target.pool
  lastSeen := attempt.now
  valid := attempt.lifetimes.valid
  state := .active
  hostname := attempt.hostname
  version := version

end Attempt

/-- How a client came by a lease. -/
inductive GrantKind where
  /-- The address was found for it. -/
  | new
  /-- It held the address, and the lease was extended. -/
  | renewed
  /-- Its reservation fixes the address. -/
  | reserved
deriving DecidableEq, Repr

/-- What a client is given. -/
structure Grant where
  /-- The lease. -/
  lease : Lease
  /-- The subnet. -/
  subnet : SubnetId
  /-- The number of the pool. -/
  pool : Option UInt32
  /-- How the client came by the lease. -/
  kind : GrantKind
  /-- The name that the lease was given. -/
  hostname : Option String
  /-- The classes that the client belongs to. -/
  classes : ClassSet
  /-- The lifetimes. -/
  lifetimes : Lifetimes
  /-- The lease was recorded. -/
  committed : Bool
deriving DecidableEq, Repr

end Leasehold
