import Leasehold.Proofs.Engine.Dynamic

/-!
# When an allocation finds no address

An address is available in a subnet when it is a candidate of a pool that the client may use there,
is not reserved for another client, is not locked, and has no record that keeps it from the client.
An allocation that is neither limited nor reviewed, and for which no address is fixed, succeeds
exactly when an address is available in a selected subnet, wherever the walks through the pools
begin. Otherwise it fails with a lost race when an address that the client may use is locked, and
finds the pools exhausted when none is (`allocate_exhaustion`).
-/
namespace Leasehold

open Engine (Surroundings Scene)

namespace Attempt

/-- The client may use the address, whoever holds it now: a pool that admits the client contains it,
and no reservation of another client keeps it. -/
structure MayUse (attempt : Attempt) (topology : Topology) (address : Address) : Prop where
  /-- A pool that admits the client contains the address. -/
  pooled : ∃ pool ∈ attempt.eligiblePools, pool.contains address = true
  /-- The address is not reserved for another client. -/
  unreserved : ¬ attempt.IsReservedForOther topology address

/-- The address can be given to the client. -/
structure IsAvailable (attempt : Attempt) (topology : Topology) (locks : AddressLocks)
    (store : Store) (address : Address) : Prop where
  /-- The client may use it. -/
  usable : attempt.MayUse topology address
  /-- It is not locked. -/
  unlocked : locks.isLocked address = false
  /-- No record keeps it from the client but that of a lease which the client itself holds. -/
  unblocked : ∀ old, store.get? address = some old → old.blocks attempt.now = true →
    old.state = .active ∧ old.owner = some attempt.owner

variable {attempt : Attempt} {topology : Topology} {scene : Scene}

/-- A record leaves its address to the client when it does not block it, or belongs to a lease that
the client itself holds. -/
theorem mayHave_iff (record : Option Lease) :
    attempt.mayHave record = true ↔ ∀ old, record = some old →
      old.blocks attempt.now = true → old.state = .active ∧ old.owner = some attempt.owner := by
  cases record with
  | none => exact ⟨fun _ => nofun, fun _ => rfl⟩
  | some old =>
    by_cases blocks : old.blocks attempt.now = true
    · by_cases mine : (old.state == .active && old.isOwnedBy attempt.owner) = true
      · have held : attempt.standing (some old) = .held := by simp [standing, blocks, mine]
        have parts : old.state = .active ∧ old.owner = some attempt.owner := by
          simpa [Lease.isOwnedBy] using mine
        simp [mayHave, held, parts]
      · have blocked : attempt.standing (some old) = .blocked old := by
          simp [standing, blocks, mine]
        have parts : ¬ (old.state = .active ∧ old.owner = some attempt.owner) := by
          simpa [Lease.isOwnedBy] using mine
        simp only [mayHave, blocked, Bool.false_eq_true, false_iff]
        exact fun keeps => parts (keeps old rfl blocks)
    · have free : attempt.standing (some old) = .free := by simp [standing, blocks]
      simp only [mayHave, free, true_iff]
      rintro _ ⟨⟩ stillBlocks
      exact absurd stillBlocks blocks

/-- What an attempt admits is available, when a pool that admits the client contains it. -/
theorem admits_iff (accepted : topology.Accepted) {address : Address}
    (pooled : ∃ pool ∈ attempt.eligiblePools, pool.contains address = true) :
    attempt.admits topology scene address = true ↔
      attempt.IsAvailable topology scene.locks scene.store address := by
  have kept := attempt.isKeptForOther_iff accepted address
  have may := attempt.mayHave_iff (scene.store.get? address)
  rw [admits_eq_true_iff]
  constructor
  · rintro ⟨unkept, unlocked, allowed⟩
    have unreserved : ¬ attempt.IsReservedForOther topology address := by
      rw [← kept, unkept]
      exact Bool.false_ne_true
    exact ⟨⟨pooled, unreserved⟩, unlocked, may.mp allowed⟩
  · intro available
    have unkept : attempt.isKeptForOther topology address = false := by
      rw [← Bool.not_eq_true, kept]
      exact available.usable.unreserved
    exact ⟨unkept, available.unlocked, may.mpr available.unblocked⟩

/-- What an attempt passes over is locked, and the client may use it. -/
theorem passesOver_iff (accepted : topology.Accepted) {address : Address}
    (pooled : ∃ pool ∈ attempt.eligiblePools, pool.contains address = true) :
    attempt.passesOver topology scene address = true ↔
      attempt.MayUse topology address ∧ scene.locks.isLocked address = true := by
  have kept := attempt.isKeptForOther_iff accepted address
  unfold passesOver
  rw [Bool.and_eq_true, Bool.not_eq_true']
  constructor
  · rintro ⟨unkept, locked⟩
    have unreserved : ¬ attempt.IsReservedForOther topology address := by
      rw [← kept, unkept]
      exact Bool.false_ne_true
    exact ⟨⟨pooled, unreserved⟩, locked⟩
  · rintro ⟨usable, locked⟩
    have unkept : attempt.isKeptForOther topology address = false := by
      rw [← Bool.not_eq_true, kept]
      exact usable.unreserved
    exact ⟨unkept, locked⟩

end Attempt

namespace Engine

variable {topology : Topology} {request : Request} {mode : AllocationMode}
  {attempt : Attempt} {around : Surroundings} {scene : Scene} {leases : List Lease}

section Subnet

variable (accepted : topology.Accepted)
  (serves : Serves topology request mode around.now attempt)
  (part : ∀ pool ∈ attempt.pools, ¬ pool.spansAll)
include accepted serves

/-- An address that was found is available. -/
theorem isAvailable_of_firstAdmitted {limit : Option Nat} {target : Target}
    (first : firstAdmitted topology attempt scene
      (attempt.trials around scene.cursors limit leases) = some target) :
    attempt.IsAvailable topology scene.locks scene.store target.address := by
  obtain ⟨member, admitted⟩ := of_firstAdmitted first
  obtain ⟨pool, eligible, -, contained⟩ :=
    Attempt.exists_pool_of_mem_trials (fun pool => serves.isSound accepted) member
  exact (Attempt.admits_iff accepted ⟨pool, eligible, contained⟩).mp admitted

/-- An address that was passed over is locked, and the client may use it. -/
theorem mayUse_of_firstBusy {limit : Option Nat} {address : Address}
    (first : firstBusy topology attempt scene
      (attempt.trials around scene.cursors limit leases) = some address) :
    attempt.MayUse topology address ∧ scene.locks.isLocked address = true := by
  obtain ⟨target, found, rfl⟩ := Option.map_eq_some_iff.mp first
  have passed : attempt.passesOver topology scene target.address = true := by
    simpa using List.find?_some found
  obtain ⟨pool, eligible, -, contained⟩ := Attempt.exists_pool_of_mem_trials
    (fun pool => serves.isSound accepted) (List.mem_of_find?_eq_some found)
  exact (Attempt.passesOver_iff accepted ⟨pool, eligible, contained⟩).mp passed

include part

/-- Where nothing is found, nothing is available. -/
theorem not_isAvailable_of_firstAdmitted
    (nothing : firstAdmitted topology attempt scene
      (attempt.trials around scene.cursors none leases) = none) (address : Address) :
    ¬ attempt.IsAvailable topology scene.locks scene.store address := by
  intro available
  obtain ⟨pool, eligible, contained⟩ := available.usable.pooled
  have tried : Attempt.ofPool pool address ∈ attempt.trials around scene.cursors none leases :=
    Attempt.mem_trials_of_contains (fun pool => serves.isSound accepted) part eligible contained
  have refused := List.find?_eq_none.mp nothing _ tried
  exact refused ((Attempt.admits_iff accepted ⟨pool, eligible, contained⟩).mpr available)

/-- Where nothing is passed over, no address that the client may use is locked. -/
theorem not_isLocked_of_firstBusy
    (nothing : firstBusy topology attempt scene
      (attempt.trials around scene.cursors none leases) = none) {address : Address}
    (usable : attempt.MayUse topology address) : scene.locks.isLocked address = false := by
  rw [← Bool.not_eq_true]
  intro locked
  obtain ⟨pool, eligible, contained⟩ := usable.pooled
  have tried : Attempt.ofPool pool address ∈ attempt.trials around scene.cursors none leases :=
    Attempt.mem_trials_of_contains (fun pool => serves.isSound accepted) part eligible contained
  have passed := List.find?_eq_none.mp (Option.map_eq_none_iff.mp nothing) _ tried
  exact passed ((Attempt.passesOver_iff accepted ⟨pool, eligible, contained⟩).mpr ⟨usable, locked⟩)

end Subnet

/-- A candidate determines the attempt that is made in it. -/
theorem Serves.eq_of_candidate {other : Attempt} {now : Instant}
    (serves : Serves topology request mode now attempt)
    (servesOther : Serves topology request mode now other)
    (same : attempt.candidate = other.candidate) : attempt = other := by
  have owner : attempt.owner = other.owner := by
    have owned := serves.owned
    rw [same, servesOther.owned] at owned
    exact (Option.some.inj owned).symm
  rw [serves.made, servesOther.made, same, owner]

/-- The attempt is made in one of the candidates. -/
structure ServesIn (topology : Topology) (request : Request) (mode : AllocationMode)
    (now : Instant) (candidates : List Candidate) (attempt : Attempt) : Prop where
  /-- It is made for the request. -/
  serves : Serves topology request mode now attempt
  /-- It is made in one of the candidates. -/
  member : attempt.candidate ∈ candidates

/-- How an allocation ends that goes through candidates after others, in which it may have passed
over an address. -/
inductive Ending (topology : Topology) (request : Request) (mode : AllocationMode) (now : Instant)
    (scene : Scene) (candidates : List Candidate) (last : SubnetId) (busy : Option Address) :
    Except EngineError Grant → Prop where
  /-- The client is given an address. -/
  | granted (grant : Grant) : Ending topology request mode now scene candidates last busy (.ok grant)
  /-- Nothing is available, and an address that the client may use is locked. -/
  | lostRace {address : Address}
    (nothing : ∀ attempt, ServesIn topology request mode now candidates attempt →
      ∀ address, ¬ attempt.IsAvailable topology scene.locks scene.store address)
    (locked : busy = some address ∨ ∃ attempt,
      ServesIn topology request mode now candidates attempt ∧
        attempt.MayUse topology address ∧ scene.locks.isLocked address = true) :
    Ending topology request mode now scene candidates last busy (.error (.lostRace address))
  /-- Nothing is available, and nothing that the client may use is locked. -/
  | exhausted {id : SubnetId}
    (nothing : ∀ attempt, ServesIn topology request mode now candidates attempt →
      ∀ address, ¬ attempt.IsAvailable topology scene.locks scene.store address)
    (unlocked : busy = none ∧ ∀ attempt,
      ServesIn topology request mode now candidates attempt →
        ∀ address, attempt.MayUse topology address → scene.locks.isLocked address = false)
    (named : id = last ∨ ∃ candidate ∈ candidates, candidate.subnet.id = id) :
    Ending topology request mode now scene candidates last busy (.error (.poolExhausted id))

/-- What holds of the attempt in the first candidate, and of those in the others, holds of all. -/
theorem ServesIn.forall_cons {candidate : Candidate} {rest : List Candidate} {now : Instant}
    {holds : Attempt → Prop} (serves : Serves topology request mode now attempt)
    (here : attempt.candidate = candidate) (first : holds attempt)
    (others : ∀ other, ServesIn topology request mode now rest other → holds other) (other : Attempt)
    (serving : ServesIn topology request mode now (candidate :: rest) other) : holds other := by
  rcases List.mem_cons.mp serving.member with same | later
  · obtain rfl := serves.eq_of_candidate serving.serves (here.trans same.symm)
    exact first
  · exact others other ⟨serving.serves, later⟩

/-- What holds of attempts in the other candidates holds of them among all. -/
theorem ServesIn.cons {candidate : Candidate} {rest : List Candidate} {now : Instant}
    (serving : ServesIn topology request mode now rest attempt) :
    ServesIn topology request mode now (candidate :: rest) attempt :=
  ⟨serving.serves, List.mem_cons_of_mem candidate serving.member⟩

/-- After a candidate in which nothing is available, the others decide how the allocation ends. What
was passed over in it counts as passed over before them. -/
theorem Ending.cons {rest : List Candidate} {last : SubnetId} {busy skipped : Option Address}
    {now : Instant} {result : Except EngineError Grant}
    (serves : Serves topology request mode now attempt)
    (nothing : ∀ address, ¬ attempt.IsAvailable topology scene.locks scene.store address)
    (passed : ∀ address, skipped = some address →
      attempt.MayUse topology address ∧ scene.locks.isLocked address = true)
    (unlocked : skipped = none → ∀ address, attempt.MayUse topology address →
      scene.locks.isLocked address = false)
    (ending : Ending topology request mode now scene rest attempt.candidate.subnet.id
      (busy.or skipped) result) :
    Ending topology request mode now scene (attempt.candidate :: rest) last busy result := by
  have member : ServesIn topology request mode now (attempt.candidate :: rest) attempt :=
    ⟨serves, List.mem_cons_self⟩
  cases ending with
  | granted grant => exact .granted grant
  | lostRace nothingLater locked =>
    refine .lostRace (ServesIn.forall_cons serves rfl nothing nothingLater) ?_
    rcases locked with known | ⟨other, serving, usable, held⟩
    · rcases Option.or_eq_some_iff.mp known with before | ⟨-, here⟩
      · exact .inl before
      · exact .inr ⟨attempt, member, passed _ here⟩
    · exact .inr ⟨other, serving.cons, usable, held⟩
  | exhausted nothingLater unlockedLater named =>
    obtain ⟨unknown, free⟩ := unlockedLater
    obtain ⟨before, here⟩ := Option.or_eq_none_iff.mp unknown
    refine .exhausted (ServesIn.forall_cons serves rfl nothing nothingLater)
      ⟨before, ServesIn.forall_cons serves rfl (unlocked here) free⟩ ?_
    rcases named with rfl | ⟨candidate, inside, same⟩
    · exact .inr ⟨attempt.candidate, List.mem_cons_self, rfl⟩
    · exact .inr ⟨candidate, List.mem_cons_of_mem _ inside, same⟩

/-- An allocation that goes through candidates ends in the right way. -/
theorem ending_of_allocateAmong (accepted : topology.Accepted)
    (part : ∀ attempt, Serves topology request mode around.now attempt →
      ∀ pool ∈ attempt.pools, ¬ pool.spansAll)
    (unreviewed : ∀ request lease mode, around.review request lease mode = true)
    (unfixed : ∀ attempt, Serves topology request mode around.now attempt →
      attempt.fixedTarget? topology = none)
    {last : SubnetId} {busy : Option Address} {candidates : List Candidate}
    (serves : ∀ candidate ∈ candidates,
      ∃ attempt, Serves topology request mode around.now attempt ∧ attempt.candidate = candidate) :
    Ending topology request mode around.now scene candidates last busy
      (scene.run around
        (allocateAmong topology request mode none leases last busy candidates)).1 := by
  induction candidates generalizing last busy with
  | nil =>
    have nobody (attempt : Attempt) :
        ¬ ServesIn topology request mode around.now [] attempt :=
      fun serving => absurd serving.member List.not_mem_nil
    cases busy with
    | some address =>
      exact .lostRace (fun attempt serving => absurd serving (nobody attempt)) (.inl rfl)
    | none =>
      exact .exhausted (fun attempt serving => absurd serving (nobody attempt))
        ⟨rfl, fun attempt serving => absurd serving (nobody attempt)⟩ (.inl rfl)
  | cons candidate rest ih =>
    obtain ⟨attempt, serving, rfl⟩ := serves candidate List.mem_cons_self
    cases found : firstAdmitted topology attempt scene
      (attempt.trials around scene.cursors none leases) with
    | some target =>
      obtain ⟨cursors, ran⟩ :=
        run_allocateIn_of_chooses serving (.found (unfixed attempt serving) found)
      rw [Attempt.given_eq unreviewed] at ran
      unfold allocateAmong
      rw [Scene.run_bind_ok ran]
      exact .granted _
    | none =>
      have ran : scene.run around
          (allocateIn topology request mode none leases attempt.candidate) = _ :=
        run_allocateIn_of_exhausts serving ⟨unfixed attempt serving, found⟩
      unfold allocateAmong
      rw [Scene.run_bind_ok ran]
      refine Ending.cons serving ?_ ?_ ?_
        (ih fun other member => serves other (List.mem_cons_of_mem _ member))
      · exact not_isAvailable_of_firstAdmitted accepted serving (part attempt serving) found
      · intro address passed
        exact mayUse_of_firstBusy accepted serving passed
      · intro nothing address usable
        exact not_isLocked_of_firstBusy accepted serving (part attempt serving) nothing usable

/-- The pools that an attempt searches do not span all addresses when no pool of the topology does. -/
theorem Serves.not_spansAll {now : Instant} (serves : Serves topology request mode now attempt)
    (part : ∀ subnet ∈ topology.subnets, ∀ pool ∈ subnet.pools ++ subnet.delegatedPools,
      ¬ pool.spansAll) {pool : Pool} (member : pool ∈ attempt.pools) : ¬ pool.spansAll := by
  obtain ⟨subnet, inside, listed⟩ := serves.exists_subnet_of_mem_pools member
  exact part subnet inside pool listed

/-- A dynamic allocation that succeeds has found an address that was available. -/
theorem exists_isAvailable_of_run_allocate (accepted : topology.Accepted) {limit : Option Nat}
    (unfixed : ∀ attempt, Serves topology request mode around.now attempt →
      attempt.fixedTarget? topology = none) {grant : Grant} {after : Scene}
    (ran : scene.run around (allocate topology request mode limit) = (.ok grant, after)) :
    ∃ attempt address, Serves topology request mode around.now attempt ∧
      attempt.IsAvailable topology scene.locks scene.store address := by
  obtain ⟨owners, attempt, target, -, serves, provides⟩ := exists_of_run_allocate ran
  have chosen := provides.chosen
  generalize grant.kind = kind at chosen
  cases chosen with
  | fixed fixed =>
    rw [unfixed attempt serves] at fixed
    exact nomatch fixed
  | found _ first =>
    exact ⟨attempt, target.address, serves, isAvailable_of_firstAdmitted accepted serves first⟩

/-- An allocation goes through the selected candidates, in some order, and ends in the right way. -/
theorem ending_of_allocate (scene : Scene) (accepted : topology.Accepted)
    (part : ∀ attempt, Serves topology request mode around.now attempt →
      ∀ pool ∈ attempt.pools, ¬ pool.spansAll)
    (unreviewed : ∀ request lease mode, around.review request lease mode = true)
    (selected : (topology.select request).candidates ≠ [])
    (owned : ∀ candidate ∈ (topology.select request).candidates,
      ∃ owner, ownerIn request candidate = some owner)
    (unfixed : ∀ attempt, Serves topology request mode around.now attempt →
      attempt.fixedTarget? topology = none) :
    ∃ candidates, (∀ candidate, candidate ∈ candidates ↔
        candidate ∈ (topology.select request).candidates) ∧
      ∃ first ∈ (topology.select request).candidates,
        Ending topology request mode around.now scene candidates first.subnet.id none
          (scene.run around (allocate topology request mode none)).1 := by
  obtain ⟨owners, known⟩ := (owners?_isSome_iff _).mpr owned
  obtain ⟨first, others, split⟩ := List.exists_cons_of_ne_nil selected
  have inside : first ∈ (topology.select request).candidates := by
    rw [split]
    exact List.mem_cons_self
  refine ⟨_, mem_prefer_iff _ (holdsIn (owners.flatMap scene.store.ofOwner) around.now), first,
    inside, ?_⟩
  rw [run_allocate, run_serve split known]
  refine ending_of_allocateAmong accepted part unreviewed unfixed fun candidate member => ?_
  have listed := (mem_prefer_iff _ _ candidate).mp member
  obtain ⟨owner, owns⟩ := owned candidate listed
  exact exists_serves listed owns

/-- Something is granted when an address is available, by an allocation without a limit or a review
for a client that has an owner in every selected subnet and a fixed address in none. -/
theorem exists_grant_of_isAvailable (state : State) (accepted : topology.Accepted)
    (part : ∀ subnet ∈ topology.subnets, ∀ pool ∈ subnet.pools ++ subnet.delegatedPools,
      ¬ pool.spansAll)
    (unreviewed : ∀ request lease mode, around.review request lease mode = true)
    (owned : ∀ candidate ∈ (topology.select request).candidates,
      ∃ owner, ownerIn request candidate = some owner)
    (unfixed : ∀ attempt, Serves topology request mode around.now attempt →
      attempt.fixedTarget? topology = none)
    (serves : Serves topology request mode around.now attempt) {address : Address}
    (available : attempt.IsAvailable topology state.locks state.store address) :
    ∃ grant, (state.run around (allocate topology request mode none)).1 = .ok grant := by
  obtain ⟨candidates, same, first, -, ending⟩ := ending_of_allocate state.scene accepted
    (fun attempt serves pool => serves.not_spansAll part) unreviewed
    (List.ne_nil_of_mem serves.selected) owned unfixed
  rw [← (state.run_scene around _).1] at ending
  have serving : ServesIn topology request mode around.now candidates attempt :=
    ⟨serves, (same _).mpr serves.selected⟩
  generalize (state.run around (allocate topology request mode none)).1 = result at ending ⊢
  cases ending with
  | granted grant => exact ⟨grant, rfl⟩
  | lostRace nothing => exact absurd available (nothing attempt serving address)
  | exhausted nothing => exact absurd available (nothing attempt serving address)

/-- An allocation without a limit or a review, for a client that has an owner in every selected
subnet and a fixed address in none, succeeds exactly when an address is available in one of them.
When none is available, it fails with a lost race for an address that the client may use and that is
locked, if there is one, and else because the pools are exhausted. No pool may span all addresses,
because the last of these is not tried. -/
theorem allocate_exhaustion (accepted : topology.Accepted)
    (part : ∀ subnet ∈ topology.subnets, ∀ pool ∈ subnet.pools ++ subnet.delegatedPools,
      ¬ pool.spansAll)
    (around : Surroundings)
    (unreviewed : ∀ request lease mode, around.review request lease mode = true)
    (selected : (topology.select request).candidates ≠ [])
    (owned : ∀ candidate ∈ (topology.select request).candidates,
      ∃ owner, ownerIn request candidate = some owner)
    (unfixed : ∀ attempt, Serves topology request mode around.now attempt →
      attempt.fixedTarget? topology = none)
    (state : State) :
    let result := (state.run around (allocate topology request mode none)).1
    ((∃ grant, result = .ok grant) ↔ ∃ attempt address,
      Serves topology request mode around.now attempt ∧
        attempt.IsAvailable topology state.locks state.store address) ∧
    ((¬ ∃ attempt address, Serves topology request mode around.now attempt ∧
        attempt.IsAvailable topology state.locks state.store address) →
      ((∃ attempt address, Serves topology request mode around.now attempt ∧
          attempt.MayUse topology address ∧ state.locks.isLocked address = true) →
        ∃ attempt address, Serves topology request mode around.now attempt ∧
          attempt.MayUse topology address ∧ state.locks.isLocked address = true ∧
          result = .error (.lostRace address)) ∧
      ((¬ ∃ attempt address, Serves topology request mode around.now attempt ∧
          attempt.MayUse topology address ∧ state.locks.isLocked address = true) →
        ∃ candidate ∈ (topology.select request).candidates,
          result = .error (.poolExhausted candidate.subnet.id))) := by
  intro result
  obtain ⟨candidates, same, first, inside, ending⟩ := ending_of_allocate state.scene
    accepted (fun attempt serves pool => serves.not_spansAll part) unreviewed selected owned unfixed
  rw [← (state.run_scene around _).1] at ending
  change Ending topology request mode around.now state.scene candidates first.subnet.id none
    result at ending
  have serving (attempt : Attempt) (serves : Serves topology request mode around.now attempt) :
      ServesIn topology request mode around.now candidates attempt :=
    ⟨serves, (same _).mpr serves.selected⟩
  have sound (grant : Grant) (granted : result = .ok grant) : ∃ attempt address,
      Serves topology request mode around.now attempt ∧
        attempt.IsAvailable topology state.locks state.store address :=
    exists_isAvailable_of_run_allocate accepted unfixed (State.scene_run granted)
  clear_value result
  constructor
  · constructor
    · rintro ⟨grant, granted⟩
      exact sound grant granted
    · rintro ⟨attempt, address, serves, available⟩
      cases ending with
      | granted grant => exact ⟨grant, rfl⟩
      | lostRace nothing =>
        exact absurd available (nothing attempt (serving attempt serves) address)
      | exhausted nothing =>
        exact absurd available (nothing attempt (serving attempt serves) address)
  · intro nothing
    constructor
    · rintro ⟨attempt, address, serves, usable, locked⟩
      cases ending with
      | granted grant => exact absurd (sound grant rfl) nothing
      | lostRace _ passed =>
        rcases passed with before | ⟨other, servingOther, usableOther, lockedOther⟩
        · exact nomatch before
        · exact ⟨other, _, servingOther.serves, usableOther, lockedOther, rfl⟩
      | exhausted _ unlocked =>
        have free : state.locks.isLocked address = false :=
          unlocked.2 attempt (serving attempt serves) address usable
        rw [free] at locked
        exact nomatch locked
    · intro unlocked
      cases ending with
      | granted grant => exact absurd (sound grant rfl) nothing
      | lostRace _ passed =>
        rcases passed with before | ⟨other, servingOther, usableOther, lockedOther⟩
        · exact nomatch before
        · exact absurd ⟨other, _, servingOther.serves, usableOther, lockedOther⟩ unlocked
      | exhausted _ _ named =>
        rcases named with rfl | ⟨candidate, member, rfl⟩
        · exact ⟨first, inside, rfl⟩
        · exact ⟨candidate, (same candidate).mp member, rfl⟩

/-- The conditions can be met: while the first client holds the only address of the small network,
nothing is available to the second, which finds the pools exhausted. -/
theorem allocate_exhaustion_of_second_client :
    let held := State.initial.play [Sample.leases 1 0]
    (¬ ∃ attempt address,
      Serves Sample.topology (Sample.request 2) .commit 5 attempt ∧
        attempt.IsAvailable Sample.topology held.locks held.store address) ∧
    ∃ candidate ∈ (Sample.topology.select (Sample.request 2)).candidates,
      (held.run (Sample.around 5) (allocate Sample.topology (Sample.request 2) .commit none)).1 =
        .error (.poolExhausted candidate.subnet.id) := by
  intro held
  have accepted : Sample.topology.Accepted := Topology.accepted_build _ _
  have part : ∀ subnet ∈ Sample.topology.subnets,
      ∀ pool ∈ subnet.pools ++ subnet.delegatedPools, ¬ pool.spansAll := by decide +kernel
  have selected : (Sample.topology.select (Sample.request 2)).candidates ≠ [] := by decide +kernel
  have owned : ∀ candidate ∈ (Sample.topology.select (Sample.request 2)).candidates,
      ∃ owner, ownerIn (Sample.request 2) candidate = some owner := by
    have known : ∀ candidate ∈ (Sample.topology.select (Sample.request 2)).candidates,
        (ownerIn (Sample.request 2) candidate).isSome = true := by decide +kernel
    exact fun candidate member => Option.isSome_iff_exists.mp (known candidate member)
  have disabled : ∀ candidate ∈ (Sample.topology.select (Sample.request 2)).candidates,
      candidate.params.reservationMode = .disabled := by decide +kernel
  have unfixed (attempt : Attempt)
      (serves : Serves Sample.topology (Sample.request 2) .commit (Sample.around 5).now attempt) :
      attempt.fixedTarget? Sample.topology = none := by
    simp [Attempt.fixedTarget?, Topology.reservation?, disabled _ serves.selected,
      ReservationMode.usesGlobal, ReservationMode.usesSubnet]
  have fails : (held.run (Sample.around 5)
      (allocate Sample.topology (Sample.request 2) .commit none)).1.toOption = none := by
    decide +kernel
  have free : held.locks = .none := by decide +kernel
  obtain ⟨succeeds, otherwise⟩ := allocate_exhaustion accepted part (Sample.around 5)
    (fun _ _ _ => rfl) selected owned unfixed held
  have nothing := mt succeeds.mpr (by
    rintro ⟨grant, granted⟩
    rw [granted] at fails
    exact nomatch fails)
  refine ⟨nothing, (otherwise nothing).2 ?_⟩
  rintro ⟨attempt, address, -, -, locked⟩
  rw [free] at locked
  exact nomatch locked

end Engine

end Leasehold
