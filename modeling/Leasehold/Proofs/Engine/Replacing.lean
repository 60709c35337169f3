import Leasehold.Proofs.Engine.Account
import Leasehold.Proofs.Engine.Renewal

/-!
# Which active leases an allocation replaces

Leases are stored by their addresses alone, whatever they are for, so that a lease on a block takes
the place of a lease on its first address. An allocation that is recorded leaves every active lease
as it is, except that of the address which it grants. It grants the address of an active lease to
the client itself only, as a renewal or because its reservation says so, and only if the subnet has
this address to give as what the client asks for (`active_leases_kept`). An address that a subnet
gives both for itself and as the first of a block thus costs a client the one lease when it asks for
the other (`address_lease_replaced`).
-/
namespace Leasehold

open Engine (Surroundings)

/-- What a lease is for: blocks are shorter than single addresses. -/
def Lease.kind (lease : Lease) : LeaseKind :=
  if lease.length < lease.address.family.width then .block else .address

namespace Attempt

/-- The attempt may come to an address: the reservation of the client fixes it, or a pool that the
client may use contains it. -/
def MayComeTo (attempt : Attempt) (topology : Topology) (address : Address) : Prop :=
  (∃ target, attempt.fixedTarget? topology = some target ∧ target.address = address) ∨
    ∃ pool ∈ attempt.eligiblePools, pool.contains address = true

variable {attempt : Attempt}

/-- The record of an active lease is not cleared. -/
theorem clearedRecord_of_isActive {lease : Lease} (active : lease.isActive attempt.now = true) :
    attempt.clearedRecord (some lease) = some lease := by
  have kept := Lease.not_needsReclaim_of_isActive active
  unfold clearedRecord overdue?
  cases attempt.mode with
  | offer => rfl
  | commit => simp [Option.filter, kept]

/-- The record of an active lease leaves the address to nobody but its owner. -/
theorem owner_of_mayHave {lease : Lease} (active : lease.isActive attempt.now = true)
    (may : attempt.mayHave (some lease) = true) :
    lease.owner = some attempt.owner ∧ attempt.kindOf (some lease) = .renewed := by
  rcases of_mayHave may with ⟨renewed, old, same, -, owned⟩ | ⟨-, free⟩
  · obtain rfl := Option.some.inj same
    exact ⟨owned, renewed⟩
  · have blocks := Engine.blocks_of_isActive active
    rw [free lease rfl] at blocks
    exact nomatch blocks

end Attempt

namespace Engine

section Replacing

variable {topology : Topology} {request : Request} {limit : Option Nat} {attempt : Attempt}
  {around : Surroundings} {lease : Lease}

/-- Clearing an address leaves the active leases as they are. -/
theorem Chronicle.get?_cleared_of_isActive {chronicle : Chronicle} {now : Instant}
    (stored : chronicle.store.get? lease.address = some lease)
    (active : lease.isActive now = true) (address : Address) :
    (chronicle.cleared now address).store.get? lease.address = some lease := by
  unfold cleared
  cases due : (chronicle.store.get? address).filter (·.needsReclaim now) with
  | none => exact stored
  | some old =>
    obtain ⟨found, overdue⟩ := Option.filter_eq_some_iff.mp due
    have placed : old.address = address := Store.address_of_get? found
    have apart : old.address ≠ lease.address := by
      intro same
      rw [← placed, same, stored] at found
      obtain rfl := Option.some.inj found
      rw [Lease.not_needsReclaim_of_isActive active] at overdue
      exact nomatch overdue
    have elsewhere : (Attempt.reclaimed old).address ≠ lease.address := apart
    change (chronicle.store.insert (Attempt.reclaimed old)).get? lease.address = some lease
    rw [Store.get?_insert, if_neg elsewhere]
    exact stored

/-- An allocation that fails leaves the active leases as they are. -/
theorem get?_of_failed_allocate {mode : AllocationMode} {state : State} {error : EngineError}
    (stored : state.store.get? lease.address = some lease)
    (active : lease.isActive around.now = true)
    (failed : (state.run around (allocate topology request mode limit)).1 = .error error) :
    (state.run around (allocate topology request mode limit)).2.store.get? lease.address =
      some lease := by
  let start : Chronicle := ⟨state.store, [], state.announcements⟩
  have keeps : (allocate topology request mode limit).Keeps (Chronicle.observed around.now)
      (concluding (Chronicle.Grants topology request mode around.now start)
        (Chronicle.Leaves mode around.now start)) start := Chronicle.keeps_allocate start
  have reached := Chronicle.reached_of_keeps keeps
  rw [failed] at reached
  rcases Setback.eq_or_eq_prepared reached with same | ⟨address, same⟩
  · have store := congrArg Chronicle.store same
    dsimp only at store
    rw [store]
    exact stored
  · have store := congrArg Chronicle.store same
    dsimp only at store
    rw [store]
    cases mode with
    | offer => exact stored
    | commit => exact Chronicle.get?_cleared_of_isActive stored active address

/-- What is promised of a grant that replaces an active lease. -/
structure Replaces (topology : Topology) (request : Request) (now : Instant) (attempt : Attempt)
    (lease : Lease) (grant : Grant) : Prop where
  /-- It is made by an attempt at the request. -/
  serves : Serves topology request .commit now attempt
  /-- The attempt may come to the address as what the client asks for. -/
  reached : attempt.MayComeTo topology lease.address
  /-- The lease was that of the client itself. -/
  owner : lease.owner = some attempt.owner ∧ grant.lease.owner = some attempt.owner
  /-- The address counts as renewed or as reserved. -/
  kind : grant.kind = .renewed ∨ grant.kind = .reserved
  /-- The record has seen one more write. -/
  version : grant.lease.version = lease.version + 1

/-- A grant of the address of an active lease replaces it. -/
theorem Provides.replaces {scene after : Scene} {leases : List Lease} {target : Target}
    {grant : Grant} (accepted : topology.Accepted)
    (serves : Serves topology request .commit around.now attempt)
    (provides : Provides topology attempt around scene limit leases target grant after)
    (stored : scene.store.get? lease.address = some lease)
    (active : lease.isActive around.now = true)
    (same : grant.lease.address = lease.address) :
    Replaces topology request around.now attempt lease grant := by
  obtain ⟨now, commits⟩ := serves.now_mode
  rw [← now] at active
  have placed : target.address = lease.address := provides.address.symm.trans same
  have found : scene.store.get? target.address = some lease := by
    rw [placed]
    exact stored
  have issued : grant.lease = attempt.issued target (some lease) := by
    rw [provides.granted, found]
    rfl
  have version : grant.lease.version = lease.version + 1 := by
    rw [issued, Attempt.issued, commits, Attempt.clearedRecord_of_isActive active]
    rfl
  have owner : grant.lease.owner = some attempt.owner := by
    obtain ⟨version, recorded⟩ := provides.exists_lease
    rw [recorded]
    rfl
  have chosen := provides.chosen
  generalize known : grant.kind = kind at chosen
  cases chosen with
  | fixed fixed _ may =>
    rw [found] at may
    have mine := (Attempt.owner_of_mayHave active may).1
    exact ⟨serves, .inl ⟨target, fixed, placed⟩, ⟨mine, owner⟩, .inr known, version⟩
  | found unfixed first =>
    obtain ⟨member, admitted⟩ := of_firstAdmitted first
    obtain ⟨-, -, may⟩ := Attempt.admits_eq_true_iff.mp admitted
    obtain ⟨pool, eligible, -, contained⟩ :=
      Attempt.exists_pool_of_mem_trials (fun pool => serves.isSound accepted) member
    rw [found] at may known
    rw [placed] at contained
    obtain ⟨mine, renewed⟩ := Attempt.owner_of_mayHave active may
    exact ⟨serves, .inr ⟨pool, eligible, contained⟩, ⟨mine, owner⟩, .inl (known.trans renewed),
      version⟩

/-- An allocation that is recorded leaves an active lease as it is exactly when it does not grant the
address of the lease. When it does, the lease was that of the client itself, the attempt had the
address to give as what the client asks for, and the lease of the grant is stored instead. An active
lease on an address that no attempt may come to is therefore left as it is. -/
theorem active_leases_kept (accepted : topology.Accepted) (around : Surroundings) (state : State)
    (stored : state.store.get? lease.address = some lease)
    (active : lease.isActive around.now = true) :
    let ended := state.run around (allocate topology request .commit limit)
    (ended.2.store.get? lease.address = some lease ↔
      ∀ grant, ended.1 = .ok grant → grant.lease.address ≠ lease.address) ∧
    (∀ grant, ended.1 = .ok grant → grant.lease.address = lease.address →
      ended.2.store.get? lease.address = some grant.lease ∧
        ∃ attempt, Replaces topology request around.now attempt lease grant) ∧
    ((∀ attempt, Serves topology request .commit around.now attempt →
        ¬ attempt.MayComeTo topology lease.address) →
      ended.2.store.get? lease.address = some lease) := by
  intro ended
  have kept (away : ∀ grant, ended.1 = .ok grant → grant.lease.address ≠ lease.address) :
      ended.2.store.get? lease.address = some lease := by
    cases outcome : ended.1 with
    | error error => exact get?_of_failed_allocate stored active outcome
    | ok grant =>
      obtain ⟨owners, attempt, target, -, serves, provides⟩ :=
        exists_of_run_allocate (State.scene_run outcome)
      have recorded := provides.get?_after serves.now_mode.2 lease.address
      rw [if_neg (away grant outcome).symm] at recorded
      exact recorded.trans stored
  have replaced (grant : Grant) (granted : ended.1 = .ok grant)
      (same : grant.lease.address = lease.address) :
      ended.2.store.get? lease.address = some grant.lease ∧
        ∃ attempt, Replaces topology request around.now attempt lease grant := by
    obtain ⟨owners, attempt, target, -, serves, provides⟩ :=
      exists_of_run_allocate (State.scene_run granted)
    have recorded := provides.get?_after serves.now_mode.2 lease.address
    rw [if_pos same.symm] at recorded
    exact ⟨recorded, attempt, provides.replaces accepted serves stored active same⟩
  refine ⟨⟨fun unchanged grant granted same => ?_, kept⟩, replaced, fun unreached => ?_⟩
  · obtain ⟨recorded, attempt, replaces⟩ := replaced grant granted same
    obtain rfl : lease = grant.lease := Option.some.inj (unchanged.symm.trans recorded)
    exact absurd replaces.version (Nat.ne_add_one _)
  · refine kept fun grant granted same => ?_
    obtain ⟨-, attempt, replaces⟩ := replaced grant granted same
    exact unreached attempt replaces.serves replaces.reached

end Replacing

/-- The conditions can be met: the lease of the first client outlives the request of the second for
the only address of the small network, and is replaced when the first client asks again. -/
theorem active_leases_kept_of_first_client :
    let held := State.initial.play [Sample.leases 1 0]
    let asked (number : UInt8) := held.run (Sample.around 5)
      (allocate Sample.topology (Sample.request number) .commit none)
    (asked 2).2.store.get? Sample.address = some (Sample.lease 1 0 1) ∧
      ∃ grant, (asked 1).1 = .ok grant ∧
        (asked 1).2.store.get? Sample.address = some grant.lease ∧ grant.lease.version = 2 := by
  intro held asked
  have accepted : Sample.topology.Accepted := Topology.accepted_build _ _
  have stored : held.store.get? (Sample.lease 1 0 1).address = some (Sample.lease 1 0 1) := by
    decide +kernel
  have active : (Sample.lease 1 0 1).isActive (Sample.around 5).now = true := by decide
  have refused : (asked 2).1.toOption = none := by decide +kernel
  have renewed : (asked 1).1.toOption.map (·.lease.address) = some Sample.address := by
    decide +kernel
  constructor
  · apply (active_leases_kept accepted (Sample.around 5) held stored active).1.mpr
    intro grant granted
    change (asked 2).1 = _ at granted
    rw [granted] at refused
    exact nomatch refused
  · obtain ⟨grant, granted, same⟩ := ok_of_toOption renewed
    obtain ⟨recorded, attempt, replaces⟩ :=
      (active_leases_kept accepted (Sample.around 5) held stored active).2.1 grant granted same
    exact ⟨grant, granted, recorded, replaces.version⟩

namespace Sample

/-- A subnet whose first address is one to hand out, and also the first of the block that is
delegated from it. -/
def sharing : Topology :=
  (Topology.build { config with
    subnets := [delegating 1 (blockAt 0 64) [⟨"::-::f", none, none⟩] (blockAt 0 64) 64] }
    1).toOption.getD .empty

/-- The first client is leased an address of the subnet. -/
def leasesShared : Event :=
  ⟨{ around 0 with topology := sharing }, .allocate (request 1) .commit none⟩

/-- The lease on the first address. -/
def sharedLease : Lease :=
  { lease 1 0 1 with address := (blockAt 0 64).address, length := 128 }

end Sample

/-- An active lease does not outlive every allocation of a lease of the other kind: when the client
asks for a block, the one that begins at its address counts as the lease which it holds. -/
theorem address_lease_replaced :
    ¬ ∀ (topology : Topology) (history : List Event) (request : Request) (limit : Option Nat)
      (around : Surroundings) (lease : Lease), topology.Accepted →
      (∀ event ∈ history, event.around.topology = topology) →
      (State.initial.play history).store.get? lease.address = some lease →
      lease.isActive around.now = true → lease.kind ≠ request.kind →
      ((State.initial.play history).run around
        (allocate topology request .commit limit)).2.store.get? lease.address = some lease := by
  intro kept
  have stored : (State.initial.play [Sample.leasesShared]).store.get? Sample.sharedLease.address =
      some Sample.sharedLease := by decide +kernel
  have replaced : (((State.initial.play [Sample.leasesShared]).run (Sample.around 5)
      (allocate Sample.sharing (Sample.requestBlock 1) .commit none)).2.store.get?
        Sample.sharedLease.address).map (·.length) = some 64 := by decide +kernel
  have inForce : ∀ event ∈ [Sample.leasesShared], event.around.topology = Sample.sharing := by
    intro event member
    obtain rfl := List.mem_singleton.mp member
    rfl
  have unchanged := kept Sample.sharing [Sample.leasesShared] (Sample.requestBlock 1) none
    (Sample.around 5) Sample.sharedLease (Topology.accepted_build _ _) inForce stored (by decide)
    (by decide)
  rw [unchanged] at replaced
  exact absurd replaced (by decide)

end Engine

end Leasehold
