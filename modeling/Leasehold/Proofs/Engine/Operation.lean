import Leasehold.Proofs.Engine.GivingUp
import Leasehold.Proofs.Engine.Sweeping
import Leasehold.Topology.Build

/-!
# Operations of an engine

An engine is used by operations: allocations, releases, declines and sweeps. Each is carried out in
surroundings of its own, so that time may pass and another topology may come into force in between.
The states that an engine can reach are those after some history of operations.

With the store to itself an operation takes every record through changes that are open to its client
(`carryOut_moves`), and a sweep has no client.
-/
namespace Leasehold.Engine

open Ledger

/-- What an engine is used for. -/
inductive Operation where
  /-- Allocate a lease for a request. -/
  | allocate (request : Request) (mode : AllocationMode) (limit : Option Nat)
  /-- Give up the lease on an address. -/
  | release (ids : ClientIdentifiers) (address : Address)
  /-- Refuse an address that was found in use. -/
  | decline (ids : ClientIdentifiers) (probation : Duration) (address : Address)
  /-- Sweep, as of the instant of the clock. -/
  | sweep (settings : SweepSettings)
deriving DecidableEq, Repr

namespace Operation

/-- The task of an operation. Its result is of no interest here. -/
def task (topology : Topology) : Operation → Task Unit
  | allocate request mode limit => do let _ ← Engine.allocate topology request mode limit
  | release ids address => do let _ ← Engine.release topology ids address
  | decline ids probation address => do let _ ← Engine.decline topology ids probation address
  | sweep settings => do let _ ← Engine.sweep settings (← clock)

/-- The client that asks for an operation. -/
def client? : Operation → Option ClientIdentifiers
  | allocate request _ _ => some request.identifiers
  | release ids _ => some ids
  | decline ids _ _ => some ids
  | sweep _ => none

/-- The identifier is one that leases of the client who asks for the operation are recorded against.
-/
def Owns (operation : Operation) (owner : Identifier) : Prop :=
  ∃ ids, operation.client? = some ids ∧ ids.Owns owner

/-- With the store to itself an operation does what is open to its client. -/
theorem keeps (operation : Operation) (topology : Topology) (now : Instant) (ledger : Ledger) :
    (operation.task topology).Keeps (alone now now operation.Owns) anyhow ledger := by
  have idle : Steady (alone now now operation.Owns) fun _ => True := steady_alone _
  cases operation with
  | allocate request mode limit =>
    have mine (owner : Identifier) (owns : request.identifiers.Owns owner) :
        (allocate request mode limit).Owns owner := ⟨_, rfl, owns⟩
    have holds : HasGranted ledger.granted ledger := ⟨rfl⟩
    exact (keeps_alone (keeps_allocate_sharing mine holds)).discard
  | release ids address =>
    exact (keeps_release fun owner owns => ⟨_, rfl, owns⟩).discard
  | decline ids probation address =>
    exact (keeps_decline fun owner owns => ⟨_, rfl, owns⟩).discard
  | sweep settings =>
    exact idle.clock_bind Answers.clock trivial fun _ _ =>
      keeps_sweep.discard

end Operation

/-- An operation together with the surroundings that it is carried out in. -/
structure Event where
  /-- The time, the review of leases, the random starts and the topology in force. -/
  around : Surroundings
  /-- The operation. -/
  operation : Operation

namespace State

/-- The state after an operation. -/
def carryOut (state : State) (event : Event) : State :=
  (state.run event.around (event.operation.task event.around.topology)).2

/-- The state after one operation after another. -/
def play (state : State) (history : List Event) : State := history.foldl carryOut state

/-- A task that keeps to its terms when it has the store to itself takes every record through
changes that are open to its client. -/
theorem run_moves {α : Type} {around : Surroundings} {now : Instant} {own : Identifier → Prop}
    {task : Task α} {goal : Except EngineError α → Ledger → Prop} {state : State}
    (keeps : task.Keeps (alone around.now now own) goal (ofState state [])) :
    Relation.ReflTransGen (Moves now own) state.store (state.run around task).2.store := by
  obtain ⟨last, seen, -, changes⟩ := keeps.run (answers_of_shows around) rfl
  change last.store = (state.run around task).2.store at seen
  rw [← seen]
  clear seen
  induction changes with
  | refl => exact .refl
  | tail _ moves ih => exact ih.tail moves

/-- An operation takes every record through changes that are open to its client. -/
theorem carryOut_moves (state : State) (event : Event) :
    Relation.ReflTransGen (Moves event.around.now event.operation.Owns) state.store
      (state.carryOut event).store :=
  run_moves (event.operation.keeps event.around.topology event.around.now (ofState state []))

end State

/-! A small network to carry out operations in: one subnet, with one address to hand out. -/
namespace Sample

/-- The address. -/
def address : Address := ⟨.v4, 167772170, by decide⟩

/-- The configuration. Reservations do not count in it. -/
def config : Config where
  params := .unset
  identifierOrder := [.hwAddress]
  uniqueAddresses := true
  clientClasses := []
  reservations := []
  subnets := [{
    id := 1
    block := ⟨⟨.v4, 167772160, by decide⟩, 24, by decide⟩
    pools := [⟨"10.0.0.10-10.0.0.10", none, none⟩]
    delegatedPools := []
    clientClass := none
    reservations := []
    params := { Config.Params.unset with
      reservationMode := some .disabled
      interface := some "lan" } }]
  networks := []

/-- The topology that is built from it. -/
def topology : Topology := (Topology.build config 1).toOption.getD .empty

/-- A client that is known by its hardware address alone. -/
def client (number : UInt8) : ClientIdentifiers := ⟨some [number], none, none, none⟩

/-- The client asks for an address, on the interface of the subnet. -/
def request (number : UInt8) : Request :=
  ⟨client number, ⟨some "lan", none, none, none, none⟩, none, none, .address, none⟩

/-- The surroundings at an instant, without a review. -/
def around (now : Instant) : Surroundings := ⟨now, fun _ _ _ => true, fun _ => 0, topology⟩

/-- The client is leased an address. -/
def leases (number : UInt8) (now : Instant) : Event :=
  ⟨around now, .allocate (request number) .commit none⟩

/-- The lease of the client. -/
def lease (number : UInt8) (now : Instant) (version : Nat) : Lease :=
  { Lease.vacant address 32 1 with
    owner := some ⟨.hwAddress, [number]⟩
    lastSeen := now
    valid := defaultValidLifetime
    state := .active
    version := version }

/-- When the first lease of the small network is over. -/
def expiry : Instant := 8000000

end Sample

end Leasehold.Engine
