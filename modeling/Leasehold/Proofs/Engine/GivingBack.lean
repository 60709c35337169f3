import Leasehold.Proofs.Engine.Renewal
import Leasehold.Proofs.Engine.Trace
import Leasehold.Proofs.Store.Scan
import Leasehold.Proofs.Topology.Matching

/-!
# Giving back what was granted

A client that was granted a lease can give it up as long as the lease is not over: it is found to be
the holder, because the identifier that a lease is recorded against follows from its subnet alone,
whether it is granted or given up. Nobody else is found to be the holder, and then nothing changes
(`granted_lease_given_back`).
-/
namespace Leasehold.Engine

section GivingUp

variable {topology : Topology} {ids : ClientIdentifiers} {address : Address}
  {around : Surroundings} {scene : Scene} {lease : Lease}

/-- The record of a lease after it was declined. -/
def declinedRecord (lease : Lease) (now : Instant) (probation : Duration) : Lease :=
  { declinedLease lease now probation with version := lease.version + 1 }

/-- The client is found to hold the lease that is stored for the address. -/
structure IsHolder (topology : Topology) (ids : ClientIdentifiers) (address : Address)
    (now : Instant) (store : Store) (lease : Lease) : Prop where
  /-- The lease is stored. -/
  stored : store.get? address = some lease
  /-- The client would be its owner. -/
  owned : ∃ owner, ownerOf topology ids lease = some owner ∧ lease.owner = some owner
  /-- It is held. -/
  active : lease.isActive now = true

/-- What a client is told about a lease of which someone else is the owner, given the identifier
that the lease would be recorded against if it were its own. -/
def denial (own : Option Identifier) (address : Address) : EngineError :=
  match own with
  | none => .missingIdentifier
  | some _ => .leaseNotFound address

namespace Scene

/-- The holder of a lease is told that it has it. -/
theorem run_ownLease_of_holder
    (holder : IsHolder topology ids address around.now scene.store lease) :
    scene.run around (ownLease topology ids address) = (.ok lease, scene) := by
  obtain ⟨owner, own, recorded⟩ := holder.owned
  have owned : lease.isOwnedBy owner = true := by simp [Lease.isOwnedBy, recorded]
  unfold ownLease
  rw [run_getLease_bind, holder.stored]
  dsimp only
  rw [own]
  dsimp only
  rw [run_clock_bind, owned, holder.active]
  rfl

/-- Whatever a client would do with its lease, it is told that it has none, or that it presents no
identifier, when it would not be the owner of the one that is stored. -/
theorem run_ownLease_bind_of_other {α : Type} (stored : scene.store.get? address = some lease)
    (other : ownerOf topology ids lease ≠ lease.owner) (rest : Lease → Task α) :
    scene.run around (ownLease topology ids address >>= rest) =
      (.error (denial (ownerOf topology ids lease) address), scene) := by
  have failed : scene.run around (ownLease topology ids address) =
      (.error (denial (ownerOf topology ids lease) address), scene) := by
    unfold ownLease denial
    rw [run_getLease_bind, stored]
    dsimp only
    cases own : ownerOf topology ids lease with
    | none => rfl
    | some owner =>
      have unowned : lease.isOwnedBy owner = false := by
        rw [own] at other
        simpa [Lease.isOwnedBy] using other.symm
      dsimp only
      rw [run_clock_bind, unowned]
      rfl
  rw [run_bind, failed]

/-- The holder of a lease gives it up: its record is deleted. -/
theorem run_releaseHeld_of_holder
    (holder : IsHolder topology ids address around.now scene.store lease) :
    scene.run around (releaseHeld topology ids address) =
      (.ok lease, { scene with store := scene.store.erase address }) := by
  have deleted : scene.store.answer (.delete address) =
      (some lease, scene.store.erase address) := by
    simp only [Store.answer, Store.delete, holder.stored]
  unfold releaseHeld
  rw [run_bind_ok (run_ownLease_of_holder holder), run_call_bind, deleted]
  rfl

/-- The holder of a lease declines it: its record is replaced. -/
theorem run_declineHeld_of_holder
    (holder : IsHolder topology ids address around.now scene.store lease) (probation : Duration) :
    scene.run around (declineHeld topology ids probation address) =
      (.ok (declinedRecord lease around.now probation),
        { scene with
          store := scene.store.insert (declinedRecord lease around.now probation) }) := by
  have placed : lease.address = address := Store.address_of_get? holder.stored
  have written : scene.store.write (declinedLease lease around.now probation)
      (.version lease.version) = (.committed (declinedRecord lease around.now probation),
        scene.store.insert (declinedRecord lease around.now probation)) := by
    apply Store.write_of_met
    simp [declinedLease, placed, holder.stored, Store.nextVersion?]
  unfold declineHeld
  rw [run_bind_ok (run_ownLease_of_holder holder), run_clock_bind]
  dsimp only
  rw [run_write_bind, written]
  rfl

end Scene

variable {state : State} (free : state.locks.isLocked address = false)
include free

/-- Work under a lock that is free ends as it does without the lock, in a state with the same store.
-/
theorem State.run_holding {α : Type} {busy work : Task α} {outcome : Except EngineError α}
    {store : Store} (ran : ∀ locks, (⟨state.store, locks, state.cursors⟩ : Scene).run around work =
      (outcome, ⟨store, locks, state.cursors⟩)) :
    (state.run around (holding address busy work)).1 = outcome ∧
      (state.run around (holding address busy work)).2.store = store := by
  have held : state.scene.run around (holding address busy work) =
      (outcome, ⟨store, state.locks, state.cursors⟩) := Scene.run_holding_of_free free (ran _)
  obtain ⟨result, last⟩ := state.run_scene around (holding address busy work)
  rw [held] at result last
  exact ⟨result, congrArg Scene.store last⟩

/-- The holder of a lease releases it, and only its record is gone. -/
theorem State.run_release_of_holder
    (holder : IsHolder topology ids address around.now state.store lease) :
    let released := state.run around (release topology ids address)
    released.1 = .ok lease ∧ released.2.store = state.store.erase address :=
  state.run_holding free fun _ =>
    Scene.run_releaseHeld_of_holder holder

/-- The holder of a lease declines it, and only its record is changed. -/
theorem State.run_decline_of_holder
    (holder : IsHolder topology ids address around.now state.store lease) (probation : Duration) :
    let declined := state.run around (decline topology ids probation address)
    declined.1 = .ok (declinedRecord lease around.now probation) ∧
      declined.2.store = state.store.insert (declinedRecord lease around.now probation) :=
  state.run_holding free fun _ =>
    Scene.run_declineHeld_of_holder holder probation

/-- Whoever would not be the owner of a lease can neither release nor decline it, and nothing
changes. -/
theorem State.run_giveUp_of_other (stored : state.store.get? address = some lease)
    (other : ownerOf topology ids lease ≠ lease.owner) (probation : Duration) :
    let released := state.run around (release topology ids address)
    let declined := state.run around (decline topology ids probation address)
    let error := denial (ownerOf topology ids lease) address
    (released.1 = .error error ∧ released.2.store = state.store) ∧
      declined.1 = .error error ∧ declined.2.store = state.store :=
  ⟨state.run_holding free fun _ => Scene.run_ownLease_bind_of_other stored other _,
    state.run_holding free fun _ => Scene.run_ownLease_bind_of_other stored other _⟩

end GivingUp

section Granted

variable {topology : Topology} {request : Request} {limit : Option Nat} {around : Surroundings}
  {grant : Grant}

/-- The client that was granted a lease would be its owner, were the lease given up. -/
theorem ownerOf_lease (accepted : topology.Accepted) {attempt : Attempt} {now : Instant}
    {mode : AllocationMode} (serves : Serves topology request mode now attempt) (target : Target)
    (version : Nat) :
    ownerOf topology request.identifiers (attempt.lease target version) = some attempt.owner := by
  obtain ⟨subnet, member, same⟩ := Topology.exists_of_mem_select serves.selected
  have found : topology.subnet? (attempt.lease target version).subnet = some subnet := by
    change topology.subnet? attempt.candidate.subnet.id = some subnet
    rw [same]
    exact accepted.subnet?_eq_some member
  have owned := serves.owned
  rw [same] at owned
  unfold ownerOf
  rw [found]
  exact owned

/-- A grant that is committed puts its lease on record, and changes no other record. -/
theorem get?_of_granted {state : State}
    (granted : (state.run around (allocate topology request .commit limit)).1 = .ok grant)
    (address : Address) :
    (state.run around (allocate topology request .commit limit)).2.store.get? address =
      if address = grant.lease.address then some grant.lease else state.store.get? address := by
  obtain ⟨owners, attempt, target, -, serves, provides⟩ :=
    exists_of_run_allocate (State.scene_run granted)
  exact provides.get?_after serves.now_mode.2 address

/-- The client that was granted a lease is found to be its holder, as long as it is not over,
whatever operations strangers have carried out in between. -/
theorem isHolder_of_granted (accepted : topology.Accepted) {state : State}
    (granted : (state.run around (allocate topology request .commit limit)).1 = .ok grant)
    {between : List Event}
    (strangers : ∀ event ∈ between, ∀ ids, event.operation.client? = some ids →
      request.identifiers.AreStrangers ids)
    (meanwhile : ∀ event ∈ between, event.around.now < grant.lease.expiresAt) {now : Instant}
    (inTime : now < grant.lease.expiresAt) :
    IsHolder topology request.identifiers grant.lease.address now
      ((state.run around (allocate topology request .commit limit)).2.play between).store
        grant.lease := by
  have recorded := get?_of_granted granted grant.lease.address
  rw [if_pos rfl] at recorded
  obtain ⟨owners, attempt, target, -, serves, provides⟩ :=
    exists_of_run_allocate (State.scene_run granted)
  obtain ⟨version, lease⟩ := provides.exists_lease
  have own : ownerOf topology request.identifiers grant.lease = some attempt.owner := by
    rw [lease]
    exact ownerOf_lease accepted serves target version
  have owned : grant.lease.owner = some attempt.owner := by rw [lease]; rfl
  have active : grant.lease.state = .active := by rw [lease]; rfl
  have undisturbed := undisturbed_play recorded active owned serves.owns strangers meanwhile
  exact ⟨undisturbed.kept, ⟨_, own, owned⟩, (grant.lease.isActive_iff now).mpr ⟨active, inTime⟩⟩

/-- A lease that was granted and recorded can be given back by the client, and by nobody else, as
long as it is not over and its address is not locked, whatever operations strangers have carried out
in between. Where there was no record before, and nothing happened in between, giving it back
restores the store. -/
theorem granted_lease_given_back (accepted : topology.Accepted) {state : State}
    (granted : (state.run around (allocate topology request .commit limit)).1 = .ok grant)
    {between : List Event}
    (strangers : ∀ event ∈ between, ∀ ids, event.operation.client? = some ids →
      request.identifiers.AreStrangers ids)
    (meanwhile : ∀ event ∈ between, event.around.now < grant.lease.expiresAt)
    {later : State} {again : Surroundings}
    (kept : later.store =
      ((state.run around (allocate topology request .commit limit)).2.play between).store)
    (free : later.locks.isLocked grant.lease.address = false)
    (inTime : again.now < grant.lease.expiresAt) :
    let released := later.run again (release topology request.identifiers grant.lease.address)
    (released.1 = .ok grant.lease ∧
      ∀ address, released.2.store.get? address =
        if address = grant.lease.address then none else later.store.get? address) ∧
    (∀ probation,
      let declined := later.run again
        (decline topology request.identifiers probation grant.lease.address)
      let record := declinedRecord grant.lease again.now probation
      declined.1 = .ok record ∧ record.state = .declined ∧ record.owner = none ∧
        ∀ address, declined.2.store.get? address =
          if address = grant.lease.address then some record else later.store.get? address) ∧
    (∀ ids, (∀ matching, ids.owner? matching ≠ grant.lease.owner) → ∀ probation,
      let released := later.run again (release topology ids grant.lease.address)
      let declined := later.run again (decline topology ids probation grant.lease.address)
      ∃ error, (released.1 = .error error ∧ released.2.store = later.store) ∧
        declined.1 = .error error ∧ declined.2.store = later.store) ∧
    (between = [] → state.store.get? grant.lease.address = none →
      released.2.store = state.store) := by
  intro released
  have holder : IsHolder topology request.identifiers grant.lease.address again.now later.store
      grant.lease := kept ▸ isHolder_of_granted accepted granted strangers meanwhile inTime
  obtain ⟨given, erased⟩ := State.run_release_of_holder free holder
  have left (address : Address) : released.2.store.get? address =
      if address = grant.lease.address then none else later.store.get? address := by
    rw [show released.2.store = _ from erased, Store.get?_erase]
    simp only [eq_comm]
  refine ⟨⟨given, left⟩, fun probation => ?declined, fun ids differ probation => ?others,
    fun nothing vacant => ?restored⟩
  case declined =>
    obtain ⟨given, replaced⟩ := State.run_decline_of_holder free holder probation
    refine ⟨given, rfl, rfl, fun address => ?_⟩
    rw [replaced, Store.get?_insert]
    change (if grant.lease.address = address then _ else _) = _
    simp only [eq_comm]
  case others =>
    exact ⟨_, State.run_giveUp_of_other free holder.stored (differ _) probation⟩
  case restored =>
    subst nothing
    refine Store.ext_get? fun address => ?_
    rw [left, kept]
    split
    · next same => rw [same, vacant]
    · next different => exact (get?_of_granted granted address).trans (if_neg different)

end Granted

/-- The conditions can be met: the first client holds the only address of the small network, the
second one asks for it and would release it, both in vain, and the first releases it. -/
theorem granted_lease_given_back_of_first_client :
    let task := allocate Sample.topology (Sample.request 1) .commit none
    let later := (State.initial.run (Sample.around 0) task).2.play [Sample.leases 2 2]
    let attempt ids := later.run (Sample.around 5) (release Sample.topology ids Sample.address)
    (∃ error, (attempt (Sample.client 2)).1 = .error error) ∧
      (attempt (Sample.client 2)).2.store = later.store ∧
      (attempt (Sample.client 1)).1 = .ok (Sample.lease 1 0 1) ∧
      (attempt (Sample.client 1)).2.store.get? Sample.address = none := by
  dsimp only
  have known : (State.initial.run (Sample.around 0)
      (allocate Sample.topology (Sample.request 1) .commit none)).1.toOption.map (·.lease) =
        some (Sample.lease 1 0 1) := by decide +kernel
  obtain ⟨grant, granted, lease⟩ := ok_of_toOption known
  have address : grant.lease.address = Sample.address := by rw [lease]; rfl
  have strangers := Sample.strangers_leases (show (1 : UInt8) ≠ 2 by decide) 2
  have inTime : (Sample.around 5).now < grant.lease.expiresAt := by
    rw [lease]
    decide
  have accepted : Sample.topology.Accepted := Topology.accepted_build _ _
  have given := granted_lease_given_back accepted granted strangers (by rw [lease]; decide) rfl
    (by rw [address]; decide +kernel) inTime
  have client : (Sample.request 1).identifiers = Sample.client 1 := rfl
  rw [address, client] at given
  obtain ⟨⟨released, erased⟩, -, others, -⟩ := given
  have differ : ∀ matching, (Sample.client 2).owner? matching ≠ grant.lease.owner := by
    rw [lease]
    decide
  obtain ⟨error, ⟨refused, unchanged⟩, -⟩ := others (Sample.client 2) differ 0
  rw [lease] at released
  exact ⟨⟨error, refused⟩, unchanged, released, (erased Sample.address).trans (if_pos rfl)⟩

end Leasehold.Engine
