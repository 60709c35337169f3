import Leasehold.Proofs.Engine.Operation
import Leasehold.Proofs.Engine.Route
import Leasehold.Proofs.Topology.Candidates
import Leasehold.Proofs.Topology.Claims
import Leasehold.Proofs.Topology.Subnets

/-!
# What a dynamic allocation grants

In an accepted topology an address that was found for a client, rather than fixed by its
reservation, is a candidate of a pool that the client may use in a selected subnet, and everything
in its lease follows from that pool, the subnet and the request. Nobody else holds the address or
has it reserved. When the lease is recorded, its own record is all that changes
(`allocate_dynamic_sound`).
-/
namespace Leasehold

open Engine (Surroundings Scene)

namespace Attempt

variable {attempt : Attempt} {around : Surroundings} {cursors : PoolCursors} {limit : Option Nat}
  {leases : List Lease}

/-- The addresses that are tried are candidates of pools that the client may use. -/
theorem exists_pool_of_mem_trials (sound : ∀ pool ∈ attempt.pools, pool.IsSound) {target : Target}
    (member : target ∈ attempt.trials around cursors limit leases) :
    ∃ pool ∈ attempt.eligiblePools, target = ofPool pool target.address ∧
      pool.contains target.address = true := by
  rcases List.mem_append.mp member with suggested | searched
  · obtain ⟨address, -, found⟩ := List.mem_filterMap.mp suggested
    obtain ⟨pool, usable, rfl, contained⟩ := exists_pool_of_target? found
    exact ⟨pool, usable, rfl, contained⟩
  · obtain ⟨pool, eligible, inside⟩ := List.mem_flatMap.mp searched
    obtain ⟨address, visited, rfl⟩ := List.mem_map.mp inside
    obtain ⟨index, numbered⟩ := Pool.exists_nth?_of_mem_visited visited
    have usable := sound pool (List.mem_filter.mp eligible).1
    exact ⟨pool, eligible, rfl, Pool.contains_of_nth? usable numbered⟩

/-- Without a limit every candidate of the pools that the client may use is tried. -/
theorem mem_trials_of_contains (sound : ∀ pool ∈ attempt.pools, pool.IsSound)
    (part : ∀ pool ∈ attempt.pools, ¬ pool.spansAll) {pool : Pool}
    (eligible : pool ∈ attempt.eligiblePools) {address : Address}
    (contained : pool.contains address = true) :
    ofPool pool address ∈ attempt.trials around cursors none leases := by
  have member := (List.mem_filter.mp eligible).1
  have visited := (Pool.mem_visited_iff (sound pool member) (part pool member)
    (attempt.walkStart around cursors pool) address).mpr contained
  apply List.mem_append_right
  exact List.mem_flatMap.mpr ⟨pool, eligible, List.mem_map_of_mem visited⟩

/-- A record that does not keep its address from the client is not in the way, or is that of a
lease which the client itself holds. -/
theorem of_mayHave {record : Option Lease} (may : attempt.mayHave record = true) :
    (attempt.kindOf record = .renewed ∧ ∃ old, record = some old ∧ old.isActive attempt.now = true ∧
        old.owner = some attempt.owner) ∨
      (attempt.kindOf record = .new ∧
        ∀ old, record = some old → old.blocks attempt.now = false) := by
  cases record with
  | none => exact .inr ⟨rfl, nofun⟩
  | some old =>
    by_cases blocks : old.blocks attempt.now = true
    · by_cases mine : (old.state == .active && old.isOwnedBy attempt.owner) = true
      · left
        have held : attempt.standing (some old) = .held := by simp [standing, blocks, mine]
        obtain ⟨active, owned⟩ := (Bool.and_eq_true _ _).mp mine
        have state : old.state = .active := beq_iff_eq.mp active
        have alive : old.isExpired attempt.now = false := by
          simpa [Lease.blocks, state] using blocks
        refine ⟨by simp [kindOf, held], old, rfl, ?_, ?_⟩
        · simp [Lease.isActive, state, alive]
        · simpa [Lease.isOwnedBy] using owned
      · have blocked : attempt.standing (some old) = .blocked old := by
          simp [standing, blocks, mine]
        simp [mayHave, blocked] at may
    · right
      have free : attempt.standing (some old) = .free := by simp [standing, blocks]
      refine ⟨by simp [kindOf, free], ?_⟩
      rintro _ ⟨⟩
      simpa using blocks

end Attempt

namespace Engine

variable {topology : Topology} {request : Request} {mode : AllocationMode} {limit : Option Nat}
  {attempt : Attempt} {around : Surroundings}

/-- The subnet of an attempt belongs to the topology. -/
theorem Serves.mem_subnets {now : Instant} (serves : Serves topology request mode now attempt) :
    attempt.subnet ∈ topology.subnets := by
  obtain ⟨subnet, inside, same⟩ := Topology.exists_of_mem_select serves.selected
  have here : attempt.subnet = subnet := congrArg Candidate.subnet same
  rw [here]
  exact inside

/-- The subnet of an attempt has sound pools in an accepted topology. -/
theorem Serves.hasSoundPools {now : Instant} (serves : Serves topology request mode now attempt)
    (accepted : topology.Accepted) : attempt.subnet.HasSoundPools :=
  accepted.hasSoundPools serves.mem_subnets

/-- The pools that an attempt searches are those of a subnet. -/
theorem Serves.exists_subnet_of_mem_pools {now : Instant}
    (serves : Serves topology request mode now attempt) {pool : Pool}
    (member : pool ∈ attempt.pools) :
    ∃ subnet ∈ topology.subnets, pool ∈ subnet.pools ++ subnet.delegatedPools := by
  refine ⟨attempt.subnet, serves.mem_subnets, List.mem_append.mpr ?_⟩
  unfold Attempt.pools at member
  cases kind : attempt.request.kind with
  | address =>
    rw [kind] at member
    exact .inl member
  | block =>
    rw [kind] at member
    exact .inr member

/-- The pools that an attempt searches are sound in an accepted topology. -/
theorem Serves.isSound {now : Instant} (serves : Serves topology request mode now attempt)
    (accepted : topology.Accepted) {pool : Pool} (member : pool ∈ attempt.pools) :
    pool.IsSound := by
  have sound := serves.hasSoundPools accepted
  unfold Attempt.pools at member
  cases kind : attempt.request.kind with
  | address =>
    rw [kind] at member
    exact (sound.addresses pool member).1
  | block =>
    rw [kind] at member
    exact (sound.blocks pool member).1

/-- An address that is tried belongs to one pool, and is recorded as this pool says. -/
theorem Serves.target?_of_mem_trials {now : Instant}
    (serves : Serves topology request mode now attempt) (accepted : topology.Accepted)
    {cursors : PoolCursors} {leases : List Lease} {target : Target}
    (member : target ∈ attempt.trials around cursors limit leases) :
    attempt.target? target.address = some target := by
  obtain ⟨pool, eligible, same, contained⟩ :=
    Attempt.exists_pool_of_mem_trials (fun pool => serves.isSound accepted) member
  have apart : Pool.AreApart attempt.pools := by
    have sound := serves.hasSoundPools accepted
    unfold Attempt.pools
    cases attempt.request.kind with
    | address => exact sound.apart
    | block => exact sound.blocksApart
  unfold Attempt.target?
  cases found : attempt.eligiblePools.find? (·.contains target.address) with
  | none => exact absurd contained (List.find?_eq_none.mp found pool eligible)
  | some other =>
    have contains : other.contains target.address = true := by simpa using List.find?_some found
    have listed : other ∈ attempt.pools :=
      (List.mem_filter.mp (List.mem_of_find?_eq_some found)).1
    obtain rfl := apart.eq_of_contains listed (List.mem_filter.mp eligible).1 contains contained
    exact congrArg some same.symm

/-- What is promised of an address that was found for a client in a subnet, given the records before
the allocation. -/
structure IsDynamicGrant (topology : Topology) (attempt : Attempt) (pool : Pool) (before : Store)
    (grant : Grant) : Prop where
  /-- The subnet is that of the attempt. -/
  subnet : grant.subnet = attempt.subnet.id ∧ grant.lease.subnet = attempt.subnet.id
  /-- The pool hands out what the client asks for there. -/
  searched : pool ∈ attempt.pools
  /-- The address is a candidate of the pool. -/
  contained : pool.contains grant.lease.address = true
  /-- The classes are those of the client. -/
  classes : grant.classes = topology.classesWith attempt.request
    (topology.reservation? attempt.candidate attempt.request.identifiers)
  /-- They admit the client to the pool. -/
  admitted : grant.classes.allows pool.guard = true
  /-- The length recorded is that of the pool. -/
  length : grant.lease.length = pool.leaseLength
  /-- The pool recorded is that pool. -/
  number : grant.pool = pool.id ∧ grant.lease.pool = pool.id
  /-- The lease is recorded against the identifier of the client that counts in the subnet. -/
  owner : grant.lease.owner = ownerIn attempt.request attempt.candidate
  /-- The client was heard of at the instant of the attempt. -/
  lastSeen : grant.lease.lastSeen = attempt.now
  /-- The lease is valid for the time that the request leads to. -/
  valid : grant.lease.valid =
    (attempt.candidate.params.leaseTime.determine attempt.request.lifetime).valid
  /-- The address is not reserved for another client. -/
  unreserved : ¬ attempt.IsReservedForOther topology grant.lease.address
  /-- The lease was renewed exactly when the client itself held the address. -/
  renewed : grant.kind = .renewed ↔ ∃ old, before.get? grant.lease.address = some old ∧
    old.isActive attempt.now = true ∧ old.owner = grant.lease.owner
  /-- Otherwise nothing stood in the way. -/
  free : grant.kind ≠ .renewed → ∀ old, before.get? grant.lease.address = some old →
    old.blocks attempt.now = false

/-- What an attempt provides, when no address is fixed for the client, is a dynamic grant. -/
theorem Provides.isDynamicGrant {scene after : Scene} {leases : List Lease} {target : Target}
    {grant : Grant} (serves : Serves topology request mode around.now attempt)
    (accepted : topology.Accepted)
    (provides : Provides topology attempt around scene limit leases target grant after)
    (dynamic : grant.kind ≠ .reserved) :
    ∃ pool, IsDynamicGrant topology attempt pool scene.store grant := by
  obtain ⟨version, recorded⟩ := provides.exists_lease
  have chosen := provides.chosen
  have granted := provides.granted
  generalize grant.kind = kind at chosen granted dynamic
  cases chosen with
  | fixed => exact absurd rfl dynamic
  | found unfixed first =>
    obtain ⟨member, admitted⟩ := of_firstAdmitted first
    obtain ⟨unkept, -, may⟩ := Attempt.admits_eq_true_iff.mp admitted
    obtain ⟨pool, eligible, same, contained⟩ :=
      Attempt.exists_pool_of_mem_trials (fun pool => serves.isSound accepted) member
    obtain ⟨searched, serving⟩ := List.mem_filter.mp eligible
    have classes : attempt.classes = topology.classesWith attempt.request
        (topology.reservation? attempt.candidate attempt.request.identifiers) := by
      rw [serves.request_eq]
      exact serves.classes_eq
    have unreserved : ¬ attempt.IsReservedForOther topology target.address := by
      rw [← Attempt.isKeptForOther_iff accepted, unkept]
      exact Bool.false_ne_true
    have owned : some attempt.owner = ownerIn attempt.request attempt.candidate := by
      rw [serves.request_eq, serves.owned]
    refine ⟨pool, ?_⟩
    constructor
    · rw [recorded, granted]
      exact ⟨rfl, rfl⟩
    · exact searched
    · rw [recorded]
      exact contained
    · rw [granted]
      exact classes
    · rw [granted]
      exact serving
    · rw [recorded, same]
      rfl
    · rw [recorded, granted, same]
      exact ⟨rfl, rfl⟩
    · rw [recorded]
      exact owned
    · rw [recorded]
      rfl
    · rw [recorded]
      rfl
    · rw [recorded]
      exact unreserved
    · rw [recorded, granted]
      change attempt.kindOf (scene.store.get? target.address) = .renewed ↔ ∃ old,
        scene.store.get? target.address = some old ∧ old.isActive attempt.now = true ∧
          old.owner = some attempt.owner
      rcases Attempt.of_mayHave may with ⟨renewed, held⟩ | ⟨new, free⟩
      · exact ⟨fun _ => held, fun _ => renewed⟩
      · rw [new]
        constructor
        · nofun
        · rintro ⟨old, stored, held, -⟩
          have blocks := blocks_of_isActive held
          rw [free old stored] at blocks
          exact nomatch blocks
    · rw [recorded, granted]
      change attempt.kindOf (scene.store.get? target.address) ≠ .renewed → ∀ old,
        scene.store.get? target.address = some old → old.blocks attempt.now = false
      intro notRenewed
      rcases Attempt.of_mayHave may with ⟨renewed, -⟩ | ⟨-, free⟩
      · exact absurd renewed notRenewed
      · exact free

/-- What an attempt provides is stored, when the allocation is recorded, and nothing else changes. -/
theorem Provides.get?_after {scene after : Scene} {leases : List Lease} {target : Target}
    {grant : Grant}
    (provides : Provides topology attempt around scene limit leases target grant after)
    (commits : attempt.mode = .commit) (address : Address) :
    after.store.get? address =
      if address = grant.lease.address then some grant.lease else scene.store.get? address := by
  have lease : grant.lease = attempt.issued target (scene.store.get? target.address) := by
    rw [provides.granted]
    rfl
  rw [provides.store, lease, Attempt.issued_address]
  exact Attempt.get?_storeAfter_of_commit commits rfl provides.approved address

/-- An address that an allocation finds for a client is sound in every respect: it is a candidate of
a pool that the client may use in a selected subnet, nobody else holds it or has it reserved, and its
lease follows from the pool, the subnet and the request. When the lease is recorded, it is what is
stored for the address afterwards, and the other records are as before; an offer leaves every record
as it was. -/
theorem allocate_dynamic_sound (accepted : topology.Accepted) (around : Surroundings)
    (state : State) {grant : Grant}
    (granted : (state.run around (allocate topology request mode limit)).1 = .ok grant)
    (dynamic : grant.kind ≠ .reserved) :
    let after := (state.run around (allocate topology request mode limit)).2.store
    (∃ attempt pool, Serves topology request mode around.now attempt ∧
      IsDynamicGrant topology attempt pool state.store grant) ∧
    (mode = .commit → ∀ address, after.get? address =
      if address = grant.lease.address then some grant.lease else state.store.get? address) ∧
    (mode = .offer → after = state.store) := by
  intro after
  obtain ⟨owners, attempt, target, -, serves, provides⟩ :=
    exists_of_run_allocate (State.scene_run granted)
  obtain ⟨-, made⟩ := serves.now_mode
  refine ⟨?_, ?_, ?_⟩
  · obtain ⟨pool, sound⟩ := provides.isDynamicGrant serves accepted dynamic
    exact ⟨attempt, pool, serves, sound⟩
  · intro commits
    exact provides.get?_after (made.trans commits)
  · intro offers
    have store := provides.store
    rw [Attempt.storeAfter_of_offer (made.trans offers)] at store
    exact store

/-- The conditions can be met: the first client is leased the only address of the small network, as
a new lease that is stored and no other. -/
theorem allocate_dynamic_sound_of_first_client :
    let ended := State.initial.run (Sample.around 0)
      (allocate Sample.topology (Sample.request 1) .commit none)
    ∃ grant, ended.1 = .ok grant ∧ grant.lease = Sample.lease 1 0 1 ∧
      (∃ attempt pool, IsDynamicGrant Sample.topology attempt pool .empty grant) ∧
      ∀ address, ended.2.store.get? address =
        if address = Sample.address then some (Sample.lease 1 0 1) else none := by
  intro ended
  have accepted : Sample.topology.Accepted := Topology.accepted_build _ _
  have known : ended.1.toOption.map (fun grant => (grant.lease, grant.kind)) =
      some (Sample.lease 1 0 1, .new) := by decide +kernel
  obtain ⟨grant, granted, found⟩ := ok_of_toOption known
  obtain ⟨lease, kind⟩ := Prod.mk.inj found
  have dynamic : grant.kind ≠ .reserved := by simp [kind]
  obtain ⟨⟨attempt, pool, -, sound⟩, stored, -⟩ :=
    allocate_dynamic_sound accepted (Sample.around 0) State.initial granted dynamic
  refine ⟨grant, granted, lease, ⟨attempt, pool, sound⟩, ?_⟩
  rw [lease] at stored
  exact stored rfl

end Engine

end Leasehold
