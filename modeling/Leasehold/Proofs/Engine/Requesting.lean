import Leasehold.Proofs.Engine.Exhaustion
import Leasehold.Proofs.Engine.Holdings
import Leasehold.Proofs.Engine.Offering

/-!
# Asking for what was offered

A client that was offered an address asks for it by naming it as the one that it would like. The
offer has moved the cursors of the pools, but no record and no lock. The subnets in which it found
nothing have nothing to find, wherever a walk begins, and the wish of the client does not open an
address to it. In the subnet of the offer the leases that the client holds still come first, and
then the address that it names. The client is therefore given what it was offered
(`commit_after_offer`).
-/
namespace Leasehold

open Engine (Surroundings Scene)

/-- The request of a client that would like an address. -/
def Request.wishing (request : Request) (address : Address) : Request :=
  { request with hint := some address }

namespace Attempt

/-- The attempt as it is made in a mode, when the client would like an address. -/
def wishing (attempt : Attempt) (mode : AllocationMode) (address : Address) : Attempt :=
  { attempt with request := attempt.request.wishing address, mode }

variable {attempt : Attempt}

/-- A wish makes no address available. -/
theorem isAvailable_of_wishing {mode : AllocationMode} {topology : Topology}
    {locks : AddressLocks} {store : Store} {wish address : Address}
    (available : (attempt.wishing mode wish).IsAvailable topology locks store address) :
    attempt.IsAvailable topology locks store address where
  usable := ⟨available.usable.pooled, available.usable.unreserved⟩
  unlocked := available.unlocked
  unblocked := available.unblocked

/-- The address that the client would like is suggested right after those of the leases that it
holds. -/
theorem exists_suggestions_wishing {address : Address} {target : Target}
    (usable : attempt.target? address = some target) (mode : AllocationMode)
    (leases : List Lease) : ∃ others, (attempt.wishing mode address).suggestions leases =
      attempt.renewals leases ++ target :: others := by
  refine ⟨((((attempt.ownLeases leases).filter (!·.isActive attempt.now)).mergeSort
    (fun left right => right.lastSeen ≤ left.lastSeen)).map (·.address)).filterMap
      attempt.target?, ?_⟩
  change ((((attempt.ownLeases leases).filter (·.isActive attempt.now)).map (·.address) ++
    [address]) ++ _).filterMap attempt.target? = _
  rw [List.filterMap_append, List.filterMap_append, List.filterMap_cons_some usable,
    List.append_assoc]
  rfl

end Attempt

namespace Engine

variable {topology : Topology} {request : Request} {mode mode' : AllocationMode}
  {attempt : Attempt} {around again : Surroundings} {scene : Scene} {leases : List Lease}
  {target : Target} {kind : GrantKind}

/-- An attempt can be made in another mode for a client that would like an address. -/
theorem Serves.wishing {now : Instant} (serves : Serves topology request mode now attempt)
    (mode' : AllocationMode) (address : Address) :
    Serves topology (request.wishing address) mode' now (attempt.wishing mode' address) where
  selected := serves.selected
  owned := serves.owned
  made := congrArg (·.wishing mode' address) serves.made

/-- Where nothing was found, nothing is found for a wish either, wherever the walks begin and
however they are limited. -/
theorem Exhausts.wishing (accepted : topology.Accepted)
    (serves : Serves topology request mode around.now attempt)
    (part : ∀ pool ∈ attempt.pools, ¬ pool.spansAll) (sameTime : again.now = around.now)
    (exhausts : Exhausts topology attempt around scene none leases) (wish : Address)
    (cursors : PoolCursors) (limit : Option Nat) :
    Exhausts topology (attempt.wishing mode' wish) again { scene with cursors } limit leases where
  unfixed := exhausts.unfixed
  nothing := by
    have servesAgain : Serves topology (request.wishing wish) mode' again.now
        (attempt.wishing mode' wish) := by
      rw [sameTime]
      exact serves.wishing mode' wish
    cases found : firstAdmitted topology (attempt.wishing mode' wish) { scene with cursors }
        ((attempt.wishing mode' wish).trials again cursors limit leases) with
    | none => rfl
    | some target =>
      have available := isAvailable_of_firstAdmitted accepted servesAgain found
      have unavailable := not_isAvailable_of_firstAdmitted accepted serves part exhausts.nothing
        target.address
      exact absurd (Attempt.isAvailable_of_wishing available) unavailable

/-- An address that was found is found again when the client asks for it. Either it is that of the
first lease which can be renewed, or none can be, and what the client would like comes next. -/
theorem firstAdmitted_wishing (accepted : topology.Accepted)
    (serves : Serves topology request mode around.now attempt)
    (first : firstAdmitted topology attempt scene
      (attempt.trials around scene.cursors none leases) = some target)
    (cursors : PoolCursors) (limit : Option Nat) :
    firstAdmitted topology (attempt.wishing mode' target.address) { scene with cursors }
      ((attempt.wishing mode' target.address).trials again cursors limit leases) = some target := by
  obtain ⟨member, admitted⟩ := of_firstAdmitted first
  have usable := serves.target?_of_mem_trials accepted member
  obtain ⟨others, suggested⟩ := attempt.exists_suggestions leases
  obtain ⟨rest, wished⟩ := Attempt.exists_suggestions_wishing usable mode' leases
  unfold Attempt.trials at first ⊢
  rw [suggested, List.append_assoc] at first
  rw [wished, List.append_assoc, List.cons_append]
  unfold firstAdmitted at first ⊢
  rw [List.find?_append] at first ⊢
  change (List.find? (fun other : Target => attempt.admits topology scene other.address) _).or
    (List.find? (fun other : Target => attempt.admits topology scene other.address) _) = _
  cases renewed : (attempt.renewals leases).find?
      (fun other => attempt.admits topology scene other.address) with
  | some other =>
    rw [renewed, Option.some_or] at first
    rw [Option.some_or, first]
  | none =>
    rw [Option.none_or]
    exact List.find?_cons_of_pos admitted

/-- An address that was chosen is chosen again when the client asks for it. -/
theorem Chooses.wishing (accepted : topology.Accepted)
    (serves : Serves topology request mode around.now attempt)
    (chosen : Chooses topology attempt around scene none leases target kind)
    (cursors : PoolCursors) (limit : Option Nat) :
    Chooses topology (attempt.wishing mode' target.address) again { scene with cursors } limit leases
      target kind := by
  cases chosen with
  | fixed fixed free may => exact .fixed fixed free may
  | found unfixed first =>
    exact .found unfixed (firstAdmitted_wishing accepted serves first cursors limit)

/-- The way to an address stays the way to it when the client asks for it. -/
theorem LeadsTo.wishing (accepted : topology.Accepted)
    (part : ∀ subnet ∈ topology.subnets, ∀ pool ∈ subnet.pools ++ subnet.delegatedPools,
      ¬ pool.spansAll) (sameTime : again.now = around.now) {candidates : List Candidate}
    (leads : LeadsTo topology request mode around scene none leases candidates attempt target kind)
    (cursors : PoolCursors) (limit : Option Nat) :
    LeadsTo topology (request.wishing target.address) mode' again { scene with cursors } limit
      leases candidates (attempt.wishing mode' target.address) target kind := by
  induction leads with
  | @here attempt target kind rest serves chosen =>
    have servesAgain := serves.wishing mode' target.address
    rw [← sameTime] at servesAgain
    exact .here servesAgain (chosen.wishing accepted serves cursors limit)
  | @later skipped attempt target kind rest serves exhausts _ ih =>
    have servesAgain := serves.wishing mode' target.address
    rw [← sameTime] at servesAgain
    have within (pool : Pool) (member : pool ∈ skipped.pools) : ¬ pool.spansAll :=
      serves.not_spansAll part member
    have exhaustsAgain : Exhausts topology (skipped.wishing mode' target.address) again
        { scene with cursors } limit leases :=
      exhausts.wishing accepted serves within sameTime target.address cursors limit
    have leadsAgain := LeadsTo.later servesAgain exhaustsAgain ih
    exact leadsAgain

/-- A client that asks for the address that it was offered, at the same instant and before anything
else happens, is given what it was offered: the same address, of the same length, in the same
subnet, and all else but the version of the record. The offer must not be limited, no pool may span
all addresses, because the last of these is not tried, and no review may turn the lease down. -/
theorem commit_after_offer (accepted : topology.Accepted)
    (part : ∀ subnet ∈ topology.subnets, ∀ pool ∈ subnet.pools ++ subnet.delegatedPools,
      ¬ pool.spansAll)
    (sameTime : again.now = around.now)
    (unreviewed : ∀ request lease mode, again.review request lease mode = true)
    (state : State) {offered : Grant}
    (granted : (state.run around (allocate topology request .offer none)).1 = .ok offered)
    (limit : Option Nat) :
    let after := (state.run around (allocate topology request .offer none)).2
    ∃ version, (after.run again
        (allocate topology (request.wishing offered.lease.address) .commit limit)).1 =
      .ok { offered with
        lease := { offered.lease with version }
        committed := true } := by
  intro after
  have ran : state.scene.run around (allocate topology request .offer none) =
      (.ok offered, after.scene) := State.scene_run granted
  obtain ⟨owners, attempt, target, known, leads, provides⟩ := exists_leadsTo_of_run_allocate ran
  have offers : attempt.mode = .offer := leads.serves.now_mode.2
  -- The offer has moved cursors, and nothing else.
  have scene : after.scene = { state.scene with cursors := after.cursors } := by
    have store : after.store = state.store := (run_offer topology request none around state).1
    have locks : after.locks = state.locks := provides.locks
    unfold State.scene
    rw [store, locks]
  have leadsAgain : LeadsTo topology (request.wishing target.address) .commit again after.scene limit
      (owners.flatMap after.scene.store.ofOwner)
      (preferred topology (request.wishing target.address) after.scene.store again.now owners)
      (attempt.wishing .commit target.address) target offered.kind := by
    rw [scene, sameTime]
    exact leads.wishing accepted part sameTime after.cursors limit
  have knownAgain : owners? (request.wishing target.address)
      (topology.select (request.wishing target.address)).candidates = some owners := known
  have ranAgain := run_allocate_of_leadsTo knownAgain leadsAgain (unreviewed _ _ _)
  rw [← (after.run_scene again _).1, ← provides.address] at ranAgain
  obtain ⟨version, recorded⟩ := Attempt.grantOf_inMode offers target offered.kind
    (state.scene.store.get? target.address)
  rw [← provides.granted] at recorded
  refine ⟨version, ranAgain.trans (congrArg Except.ok ?_)⟩
  rw [← recorded, provides.address, scene]
  rfl

/-- The conditions can be met: the first client is offered the only address of the small network,
asks for it, and is leased it. -/
theorem commit_after_offer_of_first_client :
    let offer := State.initial.run (Sample.around 0)
      (allocate Sample.topology (Sample.request 1) .offer none)
    ∃ recorded, (offer.2.run (Sample.around 0)
        (allocate Sample.topology ((Sample.request 1).wishing Sample.address) .commit none)).1 =
          .ok recorded ∧
      recorded.lease.address = Sample.address ∧ recorded.lease.length = 32 ∧
      recorded.subnet = 1 ∧ recorded.committed = true := by
  intro offer
  have accepted : Sample.topology.Accepted := Topology.accepted_build _ _
  have part : ∀ subnet ∈ Sample.topology.subnets,
      ∀ pool ∈ subnet.pools ++ subnet.delegatedPools, ¬ pool.spansAll := by decide +kernel
  have known : offer.1.toOption.map (fun grant => (grant.lease, grant.subnet)) =
      some (Sample.lease 1 0 0, 1) := by decide +kernel
  obtain ⟨offered, granted, same⟩ := ok_of_toOption known
  obtain ⟨lease, subnet⟩ := Prod.mk.inj same
  obtain ⟨version, ran⟩ :=
    commit_after_offer accepted part rfl (fun _ _ _ => rfl) State.initial granted none
  rw [lease] at ran
  exact ⟨_, ran, rfl, rfl, subnet, rfl⟩

end Engine

end Leasehold
