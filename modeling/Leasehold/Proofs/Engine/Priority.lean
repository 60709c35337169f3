import Leasehold.Proofs.Engine.Exhaustion
import Leasehold.Proofs.Engine.Holdings
import Leasehold.Proofs.Store.Batches

/-!
# The order in which addresses are found

Where no address is fixed for the client, the addresses of a subnet have an order: those of the
leases that the client holds, the one that it would like, those of the leases that it once held, and
then the candidates of the pools, each from where its walk begins (`Attempt.entries`). The four
searches of an attempt amount to one search through that list. It gives the client the first address
that is available, and only a walk through a pool that comes to this address moves a cursor
(`allocate_priority`).
-/
namespace Leasehold

open Engine (Surroundings Scene State Resolves Task Search firstAdmitted)

/-- An address that an attempt may come to. -/
structure Entry where
  /-- The address. -/
  address : Address
  /-- The pool and the number of its candidate, when it is a walk that comes to the address. -/
  step : Option (Pool × Nat)

/-- Where walks begin once the client was given the address. -/
def Entry.cursorsAfter (entry : Entry) (subnet : SubnetId) (cursors : PoolCursors) : PoolCursors :=
  match entry.step with
  | none => cursors
  | some (pool, index) => cursors.picked subnet pool index

/-- The client of the one lease was heard of after that of the other, or at the same instant, with
the address that comes first. -/
def Lease.SeenAfter (left right : Lease) : Prop :=
  right.lastSeen < left.lastSeen ∨ left.lastSeen = right.lastSeen ∧ left.IsBelow right

namespace Attempt

/-- The lease belongs to the subnet and to the client, and is of the kind that it asks for. -/
def isOwn (attempt : Attempt) (lease : Lease) : Bool :=
  lease.subnet == attempt.subnet.id && lease.isOwnedBy attempt.owner && attempt.isSameKind lease

/-- The address is a candidate of a pool that the client may use. -/
def isPooled (attempt : Attempt) (address : Address) : Bool :=
  attempt.eligiblePools.any (·.contains address)

/-- The candidates of a pool from where its walk begins, at most as many as there may be tried. -/
def walked (attempt : Attempt) (around : Surroundings) (cursors : PoolCursors)
    (limit : Option Nat) (pool : Pool) : List Entry :=
  (List.range (min (limit.getD pool.capacity) pool.capacity)).filterMap fun offset =>
    let index := (attempt.walkStart around cursors pool + offset) % pool.capacity
    (pool.nth? index).map fun address => ⟨address, some (pool, index)⟩

/-- The addresses that come before the pools: those of the leases that the client holds, the one that
it would like, and those of the leases that it once held. Addresses outside the pools that the client
may use are left out. -/
def suggested (attempt : Attempt) (store : Store) (previous : List Lease) : List Entry :=
  let held := store.leases.filter fun lease => lease.isActive attempt.now && attempt.isOwn lease
  let addresses :=
    held.map (·.address) ++ attempt.request.hint.toList ++ previous.map (·.address)
  (addresses.filter attempt.isPooled).map (⟨·, none⟩)

/-- The addresses of the subnet in the order of their priority. -/
def entries (attempt : Attempt) (around : Surroundings) (cursors : PoolCursors)
    (limit : Option Nat) (store : Store) (previous : List Lease) : List Entry :=
  attempt.suggested store previous ++
    attempt.eligiblePools.flatMap (attempt.walked around cursors limit)

/-- The leases of the client that it no longer holds, the most recent first. -/
def previous (attempt : Attempt) (store : Store) : List Lease :=
  (store.leases.filter fun lease => !lease.isActive attempt.now && attempt.isOwn lease).mergeSort
    fun left right => right.lastSeen ≤ left.lastSeen

variable {attempt : Attempt} {around : Surroundings} {cursors : PoolCursors} {limit : Option Nat}
  {owners : List Identifier}

/-- Leases of the same instant are left in the order of their addresses. -/
theorem pairwise_previous (attempt : Attempt) (store : Store) :
    (attempt.previous store).Pairwise Lease.SeenAfter := by
  have ordered : (store.leases.filter fun lease =>
      !lease.isActive attempt.now && attempt.isOwn lease).Pairwise Lease.IsBelow :=
    store.ascending.filter _
  refine (pairwise_mergeSort_of
    (fun left right => decide (right.lastSeen ≤ left.lastSeen)) ?_ ?_ ordered).imp ?_
  · intro first second third later latest
    simp only [decide_eq_true_eq] at later latest ⊢
    exact Nat.le_trans latest later
  · intro left right
    simpa using Nat.le_total right.lastSeen left.lastSeen
  · rintro left right ⟨later, ties⟩
    simp only [decide_eq_true_eq] at later ties
    rcases Nat.lt_or_eq_of_le later with before | same
    · exact .inl before
    · exact .inr ⟨same.symm, ties (Nat.le_of_eq same.symm)⟩

/-- Among the leases that are read for a client, its own in the subnet are those of the store. -/
theorem ownLeases_flatMap_ofOwner (attempt : Attempt) (store : Store) (distinct : owners.Nodup)
    (listed : attempt.owner ∈ owners) :
    attempt.ownLeases (owners.flatMap store.ofOwner) = store.leases.filter attempt.isOwn := by
  refine (attempt.ascending_ownLeases store distinct).eq_of_mem_iff (store.ascending.filter _)
    fun lease => ?_
  unfold ownLeases
  rw [List.mem_filter, List.mem_filter, Store.mem_flatMap_ofOwner_iff, Store.mem_leases_iff]
  constructor
  · rintro ⟨⟨stored, -⟩, own⟩
    exact ⟨stored, own⟩
  · rintro ⟨stored, own⟩
    refine ⟨⟨stored, attempt.owner, listed, ?_⟩, own⟩
    have parts : (lease.subnet == attempt.subnet.id && lease.isOwnedBy attempt.owner &&
      attempt.isSameKind lease) = true := own
    simp only [Lease.isOwnedBy, beq_iff_eq, Bool.and_eq_true] at parts
    exact parts.1.2

/-- The suggested addresses are those of the list that lie in pools the client may use. -/
theorem filterMap_target? (addresses : List Address) :
    (addresses.filterMap attempt.target?).map (·.address) = addresses.filter attempt.isPooled := by
  induction addresses with
  | nil => rfl
  | cons address rest ih =>
    rw [List.filterMap_cons]
    cases found : attempt.target? address with
    | none =>
      have outside : attempt.isPooled address = false := by
        have missing := Option.map_eq_none_iff.mp found
        simpa [isPooled] using missing
      rw [List.filter_cons_of_neg (by simp [outside])]
      exact ih
    | some target =>
      have inside : attempt.isPooled address = true := by
        obtain ⟨pool, usable, -, contained⟩ := exists_pool_of_target? found
        exact List.any_eq_true.mpr ⟨pool, usable, contained⟩
      rw [List.filter_cons_of_pos inside, List.map_cons, ih, address_of_target? found]

end Attempt

namespace Pool

/-- What a walk comes to, from one of its steps on. -/
def steps (pool : Pool) (walk : PoolWalk) : (remaining offset : Nat) → List Entry
  | 0, _ => []
  | remaining + 1, offset =>
    match pool.nth? (walk.index offset) with
    | none => []
    | some address =>
      ⟨address, some (pool, walk.index offset)⟩ :: pool.steps walk remaining (offset + 1)

/-- A walk comes to the addresses that it visits. -/
theorem map_steps (pool : Pool) (walk : PoolWalk) (remaining offset : Nat) :
    (pool.steps walk remaining offset).map (·.address) = pool.visited walk remaining offset := by
  induction remaining generalizing offset with
  | zero => rfl
  | succ remaining ih =>
    unfold steps visited
    cases pool.nth? (walk.index offset) with
    | none => rfl
    | some address => exact congrArg (address :: ·) (ih (offset + 1))

/-- In a sound pool a walk comes to a candidate with every step. -/
theorem steps_eq_filterMap {pool : Pool} (sound : pool.IsSound) {walk : PoolWalk}
    (ofPool : walk.capacity = pool.capacity) (remaining offset : Nat)
    (within : offset + remaining ≤ walk.count) :
    pool.steps walk remaining offset = (List.range' offset remaining).filterMap fun step =>
      (pool.nth? (walk.index step)).map fun address =>
        ⟨address, some (pool, walk.index step)⟩ := by
  induction remaining generalizing offset with
  | zero => rfl
  | succ remaining ih =>
    have inside : walk.index offset < pool.capacity := by
      rw [← ofPool]
      exact walk.index_lt (by omega)
    obtain ⟨address, numbered, -, -⟩ := exists_nth? sound inside
    unfold steps
    rw [List.range'_succ, List.filterMap_cons, numbered, ih (offset + 1) (by omega)]
    rfl

end Pool

namespace Attempt

variable {attempt : Attempt} {around : Surroundings} {cursors : PoolCursors} {limit : Option Nat}
  {owners : List Identifier}

/-- What a walk through a sound pool comes to. -/
theorem walked_eq_steps {pool : Pool} (sound : pool.IsSound) :
    attempt.walked around cursors limit pool =
      pool.steps (PoolWalk.ofPool pool (attempt.walkStart around cursors pool) limit)
        (min (limit.getD pool.capacity) pool.capacity) 0 := by
  let walk := PoolWalk.ofPool pool (attempt.walkStart around cursors pool) limit
  have whole : pool.steps walk walk.count 0 = _ :=
    Pool.steps_eq_filterMap sound rfl walk.count 0 (Nat.le_of_eq (Nat.zero_add _))
  refine Eq.trans ?_ whole.symm
  rw [← List.range_eq_range']
  refine List.filterMap_congr fun offset member => ?_
  have inside : offset < pool.capacity :=
    Nat.lt_of_lt_of_le (List.mem_range.mp member) (Nat.min_le_right _ _)
  rw [PoolWalk.index_ofPool pool _ limit inside]

/-- A walk through a sound pool comes to the addresses that are tried. -/
theorem map_walked {pool : Pool} (sound : pool.IsSound) :
    (attempt.walked around cursors limit pool).map (·.address) =
      (attempt.poolTrials around cursors limit pool).map (·.address) := by
  rw [walked_eq_steps sound, Pool.map_steps]
  unfold poolTrials
  rw [List.map_map]
  exact (List.map_id _).symm

/-- The addresses that come before the pools are those that are suggested. -/
theorem map_suggested (attempt : Attempt) (store : Store) (distinct : owners.Nodup)
    (listed : attempt.owner ∈ owners) :
    (attempt.suggested store (attempt.previous store)).map (·.address) =
      (attempt.suggestions (owners.flatMap store.ofOwner)).map (·.address) := by
  unfold suggested suggestions
  dsimp only
  rw [filterMap_target?, ownLeases_flatMap_ofOwner _ _ distinct listed, List.filter_filter,
    List.filter_filter, List.map_map]
  exact List.map_id _

/-- The addresses that are tried are those of the list of priorities. -/
theorem map_entries (sound : ∀ pool ∈ attempt.pools, pool.IsSound) (store : Store)
    (distinct : owners.Nodup) (listed : attempt.owner ∈ owners) :
    (attempt.entries around cursors limit store (attempt.previous store)).map (·.address) =
      (attempt.trials around cursors limit (owners.flatMap store.ofOwner)).map (·.address) := by
  unfold entries trials
  rw [List.map_append, List.map_append, attempt.map_suggested store distinct listed,
    List.map_flatMap, List.map_flatMap]
  congr 1
  exact List.flatMap_congr fun pool eligible =>
    map_walked (sound pool (List.mem_filter.mp eligible).1)

end Attempt

namespace Engine

variable {topology : Topology} {request : Request} {mode : AllocationMode} {attempt : Attempt}
  {around : Surroundings} {scene : Scene} {limit : Option Nat}

/-- Where walks begin once the client was given the first address of a list that is admitted. -/
def Scene.cursorsAfter (topology : Topology) (attempt : Attempt) (scene : Scene)
    (entries : List Entry) : PoolCursors :=
  match entries.find? fun entry => attempt.admits topology scene entry.address with
  | none => scene.cursors
  | some entry => entry.cursorsAfter attempt.subnet.id scene.cursors

/-- An address that is admitted comes before all that follow. -/
theorem Scene.cursorsAfter_cons_of_admits (entry : Entry) {rest : List Entry}
    (admitted : attempt.admits topology scene entry.address = true) :
    scene.cursorsAfter topology attempt (entry :: rest) =
      entry.cursorsAfter attempt.subnet.id scene.cursors := by
  have found : (entry :: rest).find? (fun other => attempt.admits topology scene other.address) =
      some entry := List.find?_cons_of_pos admitted
  unfold cursorsAfter
  rw [found]

/-- An address that is not admitted does not count. -/
theorem Scene.cursorsAfter_cons_of_not_admits (entry : Entry) {rest : List Entry}
    (refused : attempt.admits topology scene entry.address = false) :
    scene.cursorsAfter topology attempt (entry :: rest) =
      scene.cursorsAfter topology attempt rest := by
  unfold cursorsAfter
  rw [List.find?_cons_of_neg (by simp [refused])]

/-- Suggested addresses move no cursor. -/
theorem cursorsAfter_suggested (store : Store) (previous : List Lease) :
    scene.cursorsAfter topology attempt (attempt.suggested store previous) = scene.cursors := by
  unfold Scene.cursorsAfter Attempt.suggested
  dsimp only
  rw [List.find?_map]
  cases List.find? _ _ <;> rfl

section Cursors

variable (unreviewed : ∀ request lease mode, around.review request lease mode = true)
include unreviewed

/-- Without a review the client is given an address that the attempt admits. -/
theorem exists_run_tryTarget {target : Target}
    (admitted : attempt.admits topology scene target.address = true) :
    ∃ grant after, scene.run around (tryTarget topology attempt target) =
      (.ok (.granted grant), after) ∧ after.cursors = scene.cursors := by
  let record := scene.store.get? target.address
  refine ⟨attempt.grantOf target (attempt.kindOf record) record,
    { scene with store := attempt.storeAfter around target record scene.store }, ?_, rfl⟩
  rw [Scene.run_tryTarget_of_admits admitted, Attempt.given_eq unreviewed]
  rfl

/-- Trying suggested addresses moves no cursor. -/
theorem cursors_tryTargets (targets : List Target) (busy : Option Address) :
    (scene.run around (tryTargets topology attempt busy targets)).2.cursors = scene.cursors := by
  induction targets generalizing busy with
  | nil => rfl
  | cons target rest ih =>
    unfold tryTargets
    cases admitted : attempt.admits topology scene target.address with
    | true =>
      obtain ⟨grant, after, taken, unmoved⟩ := exists_run_tryTarget unreviewed admitted
      rw [Scene.run_bind_ok taken]
      exact unmoved
    | false =>
      rw [Scene.run_bind_ok (Scene.run_tryTarget_of_not_admits admitted)]
      cases attempt.passesOver topology scene target.address with
      | true => exact ih _
      | false => exact ih busy

/-- A walk through a pool moves its cursor behind the candidate that the client is given. -/
theorem cursors_walkPool (pool : Pool) (walk : PoolWalk) (remaining offset : Nat)
    (busy : Option Address) :
    (scene.run around (walkPool topology attempt pool walk remaining offset busy)).2.cursors =
      scene.cursorsAfter topology attempt (pool.steps walk remaining offset) := by
  induction remaining generalizing offset busy with
  | zero => rfl
  | succ remaining ih =>
    unfold walkPool Pool.steps
    cases numbered : pool.nth? (walk.index offset) with
    | none => rfl
    | some address =>
      let target := Attempt.ofPool pool address
      dsimp only
      cases admitted : attempt.admits topology scene target.address with
      | true =>
        obtain ⟨grant, after, taken, unmoved⟩ := exists_run_tryTarget unreviewed admitted
        rw [Scene.cursorsAfter_cons_of_admits ⟨address, _⟩ admitted, Scene.run_bind_ok taken]
        exact congrArg (PoolCursors.picked · attempt.subnet.id pool (walk.index offset)) unmoved
      | false =>
        rw [Scene.cursorsAfter_cons_of_not_admits ⟨address, _⟩ admitted,
          Scene.run_bind_ok (Scene.run_tryTarget_of_not_admits admitted)]
        cases attempt.passesOver topology scene target.address with
        | true => exact ih _ _
        | false => exact ih _ busy

/-- When addresses are searched before others, the cursors are those of the one search or the other.
-/
theorem cursors_append {targets : List Target} {entries others : List Entry} {busy : Option Address}
    {task : Task Search} {rest : Option Address → Task Search}
    (resolves : Resolves topology attempt around scene targets busy task)
    (same : entries.map (·.address) = targets.map (·.address))
    (first : (scene.run around task).2.cursors = scene.cursorsAfter topology attempt entries)
    (second : ∀ busy,
      (scene.run around (rest busy)).2.cursors = scene.cursorsAfter topology attempt others) :
    (scene.run around (do
      match ← task with
      | .granted grant => return .granted grant
      | .exhausted busy => rest busy)).2.cursors =
      scene.cursorsAfter topology attempt (entries ++ others) := by
  -- Entries and targets say different things about an address, so the two searches are compared by
  -- the addresses at which they stop.
  have found : (entries.find? fun entry => attempt.admits topology scene entry.address).map
        (·.address) = (firstAdmitted topology attempt scene targets).map (·.address) := by
    have both := congrArg (List.find? (attempt.admits topology scene)) same
    rw [List.find?_map, List.find?_map] at both
    exact both
  have whole : scene.cursorsAfter topology attempt (entries ++ others) =
      match entries.find? fun entry => attempt.admits topology scene entry.address with
      | none => scene.cursorsAfter topology attempt others
      | some entry => entry.cursorsAfter attempt.subnet.id scene.cursors := by
    unfold Scene.cursorsAfter
    rw [List.find?_append]
    cases entries.find? fun entry => attempt.admits topology scene entry.address <;> rfl
  rw [whole]
  cases admitted : firstAdmitted topology attempt scene targets with
  | none =>
    rw [admitted] at found
    rw [Option.map_eq_none_iff.mp found, Scene.run_bind, resolves.exhausts admitted]
    exact second _
  | some target =>
    obtain ⟨cursors, ran⟩ := resolves.finds admitted
    rw [admitted] at found
    obtain ⟨entry, listed, -⟩ := Option.map_eq_some_iff.mp found
    unfold Scene.cursorsAfter at first
    rw [listed] at first ⊢
    rw [Attempt.given_eq unreviewed] at ran
    rw [← first, Scene.run_bind, ran]
    rfl

/-- Searching pools moves the cursor of the one in which the client is given an address. -/
theorem cursors_searchPools {pools : List Pool} (sound : ∀ pool ∈ pools, pool.IsSound)
    (busy : Option Address) :
    (scene.run around (searchPools topology attempt limit busy pools)).2.cursors =
      scene.cursorsAfter topology attempt
        (pools.flatMap (attempt.walked around scene.cursors limit)) := by
  induction pools generalizing busy with
  | nil => rfl
  | cons pool rest ih =>
    have here := sound pool List.mem_cons_self
    unfold searchPools
    rw [Scene.run_bind_ok (run_walkStart pool), List.flatMap_cons]
    refine cursors_append unreviewed (resolves_walkPool pool _ _ _ busy)
      (Attempt.map_walked here) ?_ fun busy =>
        ih (fun other member => sound other (List.mem_cons_of_mem pool member)) busy
    rw [Attempt.walked_eq_steps here]
    exact cursors_walkPool unreviewed pool _ _ 0 busy

/-- Searching a subnet moves the cursor of the pool whose walk comes to the address that the client
is given, and no other. -/
theorem cursors_searchSubnet {owners : List Identifier}
    (sound : ∀ pool ∈ attempt.pools, pool.IsSound)
    (distinct : owners.Nodup) (listed : attempt.owner ∈ owners) :
    (scene.run around (searchSubnet topology attempt limit
        (owners.flatMap scene.store.ofOwner))).2.cursors =
      scene.cursorsAfter topology attempt (attempt.entries around scene.cursors limit scene.store
        (attempt.previous scene.store)) := by
  unfold searchSubnet
  refine cursors_append unreviewed (resolves_tryTargets _ none)
    (attempt.map_suggested scene.store distinct listed) ?_ fun busy =>
      cursors_searchPools unreviewed
        (fun pool eligible => sound pool (List.mem_filter.mp eligible).1) busy
  rw [cursors_tryTargets unreviewed, cursorsAfter_suggested]

end Cursors

/-- An address of the list comes first among those that are tried when it is admitted and none before
it is. -/
theorem exists_firstAdmitted {entries front back : List Entry} {entry : Entry}
    {targets : List Target} (same : entries.map (·.address) = targets.map (·.address))
    (split : entries = front ++ entry :: back)
    (refused : ∀ other ∈ front, attempt.admits topology scene other.address = false)
    (admitted : attempt.admits topology scene entry.address = true) :
    (∃ target, firstAdmitted topology attempt scene targets = some target ∧
      target.address = entry.address) ∧
      scene.cursorsAfter topology attempt entries =
        entry.cursorsAfter attempt.subnet.id scene.cursors := by
  have found : entries.find? (fun other => attempt.admits topology scene other.address) =
      some entry :=
    List.find?_eq_some_iff_append.mpr
      ⟨admitted, front, back, split, fun other member => by simp [refused other member]⟩
  constructor
  · have both := congrArg (List.find? (attempt.admits topology scene)) same
    rw [List.find?_map, List.find?_map] at both
    change (entries.find? fun other => attempt.admits topology scene other.address).map _ =
      (firstAdmitted topology attempt scene targets).map _ at both
    rw [found] at both
    obtain ⟨target, first, address⟩ := Option.map_eq_some_iff.mp both.symm
    exact ⟨target, first, address⟩
  · unfold Scene.cursorsAfter
    rw [found]

/-- The addresses of the list are candidates of pools that the client may use. -/
theorem exists_pool_of_mem_entries {cursors : PoolCursors} {owners : List Identifier}
    (sound : ∀ pool ∈ attempt.pools, pool.IsSound) {store : Store} (distinct : owners.Nodup)
    (listed : attempt.owner ∈ owners) {entry : Entry}
    (member : entry ∈ attempt.entries around cursors limit store (attempt.previous store)) :
    ∃ pool ∈ attempt.eligiblePools, pool.contains entry.address = true := by
  have inside := List.mem_map_of_mem (f := (·.address)) member
  rw [Attempt.map_entries sound store distinct listed] at inside
  obtain ⟨target, tried, same⟩ := List.mem_map.mp inside
  obtain ⟨pool, eligible, -, contained⟩ := Attempt.exists_pool_of_mem_trials sound tried
  exact ⟨pool, eligible, same ▸ contained⟩

section Subnet

variable (accepted : topology.Accepted)
  (serves : Serves topology request mode around.now attempt)
  {owners : List Identifier}
  (known : owners? request (topology.select request).candidates = some owners)
include accepted serves known

/-- An address of the list is admitted when it is available. -/
theorem admits_iff_of_mem_entries {entry : Entry}
    (member : entry ∈ attempt.entries around scene.cursors limit scene.store
      (attempt.previous scene.store)) :
    attempt.admits topology scene entry.address = true ↔
      attempt.IsAvailable topology scene.locks scene.store entry.address :=
  Attempt.admits_iff accepted (exists_pool_of_mem_entries (fun _ => serves.isSound accepted)
    (nodup_owners? known) (serves.owner_mem known) member)

/-- Nothing is found among the addresses that are tried when no address of the list is available. -/
theorem firstAdmitted_eq_none_iff :
    firstAdmitted topology attempt scene (attempt.trials around scene.cursors limit
        (owners.flatMap scene.store.ofOwner)) = none ↔
      ∀ entry ∈ attempt.entries around scene.cursors limit scene.store
          (attempt.previous scene.store),
        ¬ attempt.IsAvailable topology scene.locks scene.store entry.address := by
  let entries := attempt.entries around scene.cursors limit scene.store
    (attempt.previous scene.store)
  let trials := attempt.trials around scene.cursors limit (owners.flatMap scene.store.ofOwner)
  have same : entries.map (·.address) = trials.map (·.address) :=
    Attempt.map_entries (fun _ => serves.isSound accepted) scene.store (nodup_owners? known)
      (serves.owner_mem known)
  have tried : (trials.map (·.address)).find? (attempt.admits topology scene) = none ↔ _ :=
    List.find?_eq_none
  rw [List.find?_map, Option.map_eq_none_iff] at tried
  refine tried.trans ?_
  rw [← same, List.forall_mem_map]
  exact forall₂_congr fun entry member =>
    not_congr (admits_iff_of_mem_entries accepted serves known member)

variable (scene limit) (unfixed : attempt.fixedTarget? topology = none)
include unfixed

/-- The client is given the first address of the list that is available. -/
theorem exists_grant_of_first
    (unreviewed : ∀ request lease mode, around.review request lease mode = true)
    {front back : List Entry} {entry : Entry}
    (split : attempt.entries around scene.cursors limit scene.store
      (attempt.previous scene.store) = front ++ entry :: back)
    (refused : ∀ other ∈ front,
      ¬ attempt.IsAvailable topology scene.locks scene.store other.address)
    (available : attempt.IsAvailable topology scene.locks scene.store entry.address) :
    ∃ grant pool after,
      scene.run around (allocateIn topology request mode limit
        (owners.flatMap scene.store.ofOwner) attempt.candidate) = (.ok (.granted grant), after) ∧
      grant.lease.address = entry.address ∧
      IsDynamicGrant topology attempt pool scene.store grant ∧
      after.cursors = entry.cursorsAfter attempt.subnet.id scene.cursors := by
  have sound : ∀ pool ∈ attempt.pools, pool.IsSound := fun pool => serves.isSound accepted
  have distinct := nodup_owners? known
  have listed := serves.owner_mem known
  have inside (other : Entry) (among : other ∈ front ++ entry :: back) :
      attempt.admits topology scene other.address = true ↔
        attempt.IsAvailable topology scene.locks scene.store other.address :=
    admits_iff_of_mem_entries accepted serves known (split ▸ among)
  obtain ⟨⟨target, first, address⟩, moved⟩ := exists_firstAdmitted
    (Attempt.map_entries sound scene.store distinct listed) split
    (fun other member => Bool.eq_false_iff.mpr
      ((not_congr (inside other (List.mem_append_left _ member))).mpr (refused other member)))
    ((inside entry (by simp)).mpr available)
  obtain ⟨cursors, ran⟩ := run_allocateIn_of_chooses serves (.found unfixed first)
  rw [Attempt.given_eq unreviewed] at ran
  obtain ⟨found, provides⟩ := provides_of_run_granted serves ran
  obtain ⟨pool, promised⟩ :=
    provides.isDynamicGrant serves accepted (provides.kind_ne_reserved unfixed)
  refine ⟨_, pool, _, ran, (Attempt.issued_address target _).trans address, promised, ?_⟩
  have moves : (scene.run around (searchSubnet topology attempt limit
      (owners.flatMap scene.store.ofOwner))).2.cursors = _ :=
    cursors_searchSubnet unreviewed sound distinct listed
  rw [← run_allocateDynamic, ← run_allocateIn_of_unfixed serves unfixed, ran] at moves
  exact moves.trans moved

/-- The subnet is exhausted when no address of the list is available, and then only. -/
theorem run_allocateIn_exhausted_iff :
    (∃ busy after, scene.run around (allocateIn topology request mode limit
        (owners.flatMap scene.store.ofOwner) attempt.candidate) =
          (.ok (.exhausted busy), after)) ↔
      ∀ entry ∈ attempt.entries around scene.cursors limit scene.store
          (attempt.previous scene.store),
        ¬ attempt.IsAvailable topology scene.locks scene.store entry.address := by
  rw [← firstAdmitted_eq_none_iff accepted serves known]
  constructor
  · rintro ⟨busy, after, ran⟩
    exact (exhausts_of_run serves ran).1.nothing
  · intro nothing
    exact ⟨_, _, run_allocateIn_of_exhausts serves ⟨unfixed, nothing⟩⟩

end Subnet

/-- Where no address is fixed for the client and leases are not reviewed, an attempt in a subnet gives
the client the first address that is available: of the leases that the client holds there, in the
order of their addresses, then the one that it would like, then of the leases that it once held, the
most recent first, and then of the pools that it may use, in their order and each from where its walk
begins. A cursor moves only when the walk through its pool comes to that address, and then behind it.
The subnet is exhausted exactly when no address of the list is available, and then everything is as
it was. -/
theorem allocate_priority (accepted : topology.Accepted)
    (serves : Serves topology request mode around.now attempt)
    (unfixed : attempt.fixedTarget? topology = none)
    (unreviewed : ∀ request lease mode, around.review request lease mode = true)
    {owners : List Identifier}
    (known : owners? request (topology.select request).candidates = some owners)
    (limit : Option Nat) (state : State) :
    let leases := owners.flatMap state.store.ofOwner
    let ended := state.run around (allocateIn topology request mode limit leases attempt.candidate)
    ∃ previous : List Lease,
      previous.Perm (state.store.leases.filter fun lease =>
        !lease.isActive attempt.now && attempt.isOwn lease) ∧
      previous.Pairwise Lease.SeenAfter ∧
      let entries := attempt.entries around state.cursors limit state.store previous
      (∀ front entry back, entries = front ++ entry :: back →
        (∀ other ∈ front,
          ¬ attempt.IsAvailable topology state.locks state.store other.address) →
        attempt.IsAvailable topology state.locks state.store entry.address →
        ∃ grant pool, ended.1 = .ok (.granted grant) ∧ grant.lease.address = entry.address ∧
          IsDynamicGrant topology attempt pool state.store grant ∧
          ended.2.cursors = entry.cursorsAfter attempt.subnet.id state.cursors) ∧
      ((∃ busy, ended.1 = .ok (.exhausted busy)) ↔ ∀ entry ∈ entries,
        ¬ attempt.IsAvailable topology state.locks state.store entry.address) ∧
      ((∃ busy, ended.1 = .ok (.exhausted busy)) → ended.2.scene = state.scene) := by
  intro leases ended
  obtain ⟨result, last⟩ := state.run_scene around
    (allocateIn topology request mode limit leases attempt.candidate)
  refine ⟨attempt.previous state.store, List.mergeSort_perm _ _,
    attempt.pairwise_previous state.store, fun front entry back split refused available => ?_,
    ?_, ?_⟩
  · obtain ⟨grant, pool, after, ran, address, promised, moved⟩ :=
      exists_grant_of_first state.scene limit accepted serves known unfixed unreviewed split
        refused available
    have reached : ended.2.scene = after := last.trans (congrArg Prod.snd ran)
    exact ⟨grant, pool, result.trans (congrArg Prod.fst ran), address, promised,
      (congrArg Scene.cursors reached).trans moved⟩
  · refine Iff.trans ?_
      (run_allocateIn_exhausted_iff state.scene limit accepted serves known unfixed)
    constructor
    · rintro ⟨busy, found⟩
      exact ⟨busy, _, State.scene_run found⟩
    · rintro ⟨busy, after, ran⟩
      exact ⟨busy, result.trans (congrArg Prod.fst ran)⟩
  · rintro ⟨busy, found⟩
    exact (exhausts_of_run serves (State.scene_run found)).2

/-- The subnet of the small network, as it is selected for the first client. -/
def Sample.onlyCandidate : Candidate :=
  (Sample.topology.select (Sample.request 1)).candidates.head (by decide +kernel)

/-- The attempt that is made there for the first client. -/
def Sample.firstAttempt (now : Instant) : Attempt :=
  .ofReservation Sample.topology Sample.onlyCandidate (Sample.request 1) .commit
    ⟨.hwAddress, [1]⟩
    (Sample.topology.reservation? Sample.onlyCandidate (Sample.request 1).identifiers) now

/-- The attempt serves the request of the first client. -/
theorem Sample.serves_firstAttempt (now : Instant) :
    Serves Sample.topology (Sample.request 1) .commit now (Sample.firstAttempt now) :=
  have owned : ownerIn (Sample.request 1) Sample.onlyCandidate = some ⟨.hwAddress, [1]⟩ := by
    decide +kernel
  ⟨List.head_mem (by decide +kernel), owned, rfl⟩

/-- The conditions can be met: the first client is given the address that it holds before the walk
through the pool comes to it, so the cursors stay as they are. -/
theorem allocate_priority_of_first_client :
    let held := State.initial.play [Sample.leases 1 0]
    let ended := held.run (Sample.around 5) (allocateIn Sample.topology (Sample.request 1) .commit
      none (held.store.ofOwner ⟨.hwAddress, [1]⟩) Sample.onlyCandidate)
    ∃ grant, ended.1 = .ok (.granted grant) ∧ grant.lease.address = Sample.address ∧
      ended.2.cursors = held.cursors := by
  intro held ended
  have accepted : Sample.topology.Accepted := Topology.accepted_build _ _
  have unfixed : (Sample.firstAttempt 5).fixedTarget? Sample.topology = none := by decide +kernel
  have known : owners? (Sample.request 1)
      (Sample.topology.select (Sample.request 1)).candidates = some [⟨.hwAddress, [1]⟩] := by
    decide +kernel
  have leases : [⟨.hwAddress, [1]⟩].flatMap held.store.ofOwner =
      held.store.ofOwner ⟨.hwAddress, [1]⟩ := List.append_nil _
  have unreviewed : ∀ request lease mode, (Sample.around 5).review request lease mode = true :=
    fun _ _ _ => rfl
  obtain ⟨previous, same, -, gives, -⟩ := allocate_priority accepted (Sample.serves_firstAttempt 5)
    unfixed unreviewed known none held
  rw [leases] at gives
  have nothing : (held.store.leases.filter fun lease =>
      !lease.isActive (Sample.firstAttempt 5).now && (Sample.firstAttempt 5).isOwn lease) = [] := by
    decide +kernel
  rw [nothing] at same
  obtain rfl := same.eq_nil
  have found : (((Sample.firstAttempt 5).entries (Sample.around 5) held.cursors none held.store
      []).head?.map fun entry => (entry.address, entry.step.isNone)) =
        some (Sample.address, true) := by decide +kernel
  obtain ⟨entry, first, shown⟩ := Option.map_eq_some_iff.mp found
  obtain ⟨rest, listed⟩ := List.head?_eq_some_iff.mp first
  obtain ⟨address, suggested⟩ := Prod.mk.inj shown
  have pooled : ∃ pool ∈ (Sample.firstAttempt 5).eligiblePools,
      pool.contains entry.address = true := by
    rw [address]
    decide +kernel
  have admitted : (Sample.firstAttempt 5).admits Sample.topology held.scene entry.address = true := by
    rw [address]
    decide +kernel
  obtain ⟨grant, pool, granted, given, -, moved⟩ := gives [] entry rest listed nofun
    ((Attempt.admits_iff accepted pooled).mp admitted)
  refine ⟨grant, granted, given.trans address, moved.trans ?_⟩
  unfold Entry.cursorsAfter
  rw [Option.isNone_iff_eq_none.mp suggested]

end Engine

end Leasehold
