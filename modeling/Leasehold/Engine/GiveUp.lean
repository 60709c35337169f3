import Leasehold.Engine.Task

/-!
# Giving up a lease

A client gives up an address that it no longer needs, or one that it found in use by someone else.
Both take the client's own lease, and only while it is held. The record of a released address is
deleted; that of a declined one is kept without an owner, and keeps the address out of use for the
probation period.
-/
namespace Leasehold.Engine

/-- The identifier that a lease on record would have for its owner, if it were the client's. The
subnet of the lease decides whether the client identifier counts; it does where the subnet is no
longer configured. -/
def ownerOf (topology : Topology) (ids : ClientIdentifiers) (lease : Lease) : Option Identifier :=
  ids.owner? (((topology.subnet? lease.subnet).map fun subnet =>
    (topology.params subnet).matchClientId).getD true)

/-- The lease that the client holds on an address. -/
def ownLease (topology : Topology) (ids : ClientIdentifiers) (address : Address) : Task Lease := do
  match ← call (.getLease address) with
  | none => fail (.leaseNotFound address)
  | some lease =>
    match ownerOf topology ids lease with
    | none => fail .missingIdentifier
    | some owner =>
      let now ← clock
      if lease.isOwnedBy owner && lease.isActive now then return lease
      else fail (.leaseNotFound address)

/-- Delete the record of a lease that the client holds. -/
def releaseHeld (topology : Topology) (ids : ClientIdentifiers) (address : Address) :
    Task Lease := do
  let lease ← ownLease topology ids address
  match ← call (.delete address) with
  | none => fail (.leaseNotFound address)
  | some _ =>
    count (.assigned lease.subnet) (-1)
    count .released 1
    return lease

/-- The client gives up its lease on an address. The result is the lease as it was. -/
def release (topology : Topology) (ids : ClientIdentifiers) (address : Address) : Task Lease :=
  holding address (fail (.lostRace address)) (releaseHeld topology ids address)

/-- The record of a declined lease. -/
def declinedLease (lease : Lease) (now : Instant) (probation : Duration) : Lease :=
  { lease with
    owner := none
    hostname := none
    lastSeen := now
    valid := probation
    state := .declined }

/-- Keep the address of a lease that the client holds out of use. -/
def declineHeld (topology : Topology) (ids : ClientIdentifiers) (probation : Duration)
    (address : Address) : Task Lease := do
  let lease ← ownLease topology ids address
  let declined := declinedLease lease (← clock) probation
  match ← call (.write declined (.version lease.version)) with
  | .conflict _ => fail (.lostRace address)
  | .committed stored =>
    count (.assigned lease.subnet) (-1)
    count .declined 1
    return stored

/-- The client found its address in use by someone else. The result is the lease as it is recorded
from then on. -/
def decline (topology : Topology) (ids : ClientIdentifiers) (probation : Duration)
    (address : Address) : Task Lease :=
  holding address (fail (.lostRace address)) (declineHeld topology ids probation address)

end Leasehold.Engine
