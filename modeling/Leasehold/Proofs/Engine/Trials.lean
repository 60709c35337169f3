import Leasehold.Proofs.Engine.Search
import Leasehold.Proofs.Engine.Trial
import Leasehold.Proofs.Topology.Pools

/-!
# Which address an allocation finds

On its own, an allocation tries the addresses of a subnet in an order that follows from the scene:
the suggested ones, and then the pools that the client may use, each from where its walk begins. The
first that the attempt admits is given to the client. When there is none, the subnet is exhausted
and the scene is as it was, and the first address that was locked is remembered
(`resolves_allocateDynamic`). So it goes from one selected subnet to the next.
-/
namespace Leasehold

open Engine (Surroundings Scene)

namespace Attempt

/-- The number of the candidate that the walk through a pool begins at. -/
def walkStart (attempt : Attempt) (around : Surroundings) (cursors : PoolCursors) (pool : Pool) :
    Nat :=
  match attempt.candidate.params.allocator with
  | .iterative => cursors.next (pool.cursorKey attempt.subnet.id)
  | .random => around.start pool.capacity

/-- The addresses of a pool in the order in which they are tried. -/
def poolTrials (attempt : Attempt) (around : Surroundings) (cursors : PoolCursors)
    (limit : Option Nat) (pool : Pool) : List Target :=
  let walk := PoolWalk.ofPool pool (attempt.walkStart around cursors pool) limit
  (pool.visited walk walk.count 0).map (ofPool pool)

/-- The addresses of the subnet in the order in which they are tried. -/
def trials (attempt : Attempt) (around : Surroundings) (cursors : PoolCursors)
    (limit : Option Nat) (leases : List Lease) : List Target :=
  attempt.suggestions leases ++
    attempt.eligiblePools.flatMap (attempt.poolTrials around cursors limit)

end Attempt

namespace Engine

variable {topology : Topology} {attempt : Attempt} {around : Surroundings} {scene : Scene}

/-- The first of some addresses that the attempt admits. -/
def firstAdmitted (topology : Topology) (attempt : Attempt) (scene : Scene)
    (targets : List Target) : Option Target :=
  targets.find? fun target => attempt.admits topology scene target.address

/-- The first address that is admitted is one of those that are tried, and is admitted. -/
theorem of_firstAdmitted {targets : List Target} {target : Target}
    (first : firstAdmitted topology attempt scene targets = some target) :
    target ∈ targets ∧ attempt.admits topology scene target.address = true :=
  ⟨List.mem_of_find?_eq_some first, by simpa using List.find?_some first⟩

/-- The first of some addresses that is passed over because it is locked. -/
def firstBusy (topology : Topology) (attempt : Attempt) (scene : Scene) (targets : List Target) :
    Option Address :=
  (targets.find? fun target => attempt.passesOver topology scene target.address).map (·.address)

/-- A task gives the client the first of some addresses that the attempt admits, or finds none of
them, after it may have passed over an address. -/
structure Resolves (topology : Topology) (attempt : Attempt) (around : Surroundings)
    (scene : Scene) (targets : List Target) (busy : Option Address) (task : Task Search) : Prop
    where
  /-- The first address that is admitted is given to the client. -/
  finds : ∀ {target}, firstAdmitted topology attempt scene targets = some target →
    let record := scene.store.get? target.address
    ∃ cursors, scene.run around task =
      ((attempt.given around target (attempt.kindOf record) record).map .granted,
        ⟨attempt.storeAfter around target record scene.store, scene.locks, cursors⟩)
  /-- Without one the scene stays as it is, and the first address passed over is known. -/
  exhausts : firstAdmitted topology attempt scene targets = none →
    scene.run around task =
      (.ok (.exhausted (busy.or (firstBusy topology attempt scene targets))), scene)

namespace Resolves

variable {targets others : List Target} {busy : Option Address} {task : Task Search}

/-- What a task achieves follows from its run, whatever it is put together from. -/
theorem of_run_eq {other : Task Search}
    (resolves : Resolves topology attempt around scene targets busy task)
    (same : scene.run around other = scene.run around task) :
    Resolves topology attempt around scene targets busy other where
  finds found := by
    rw [same]
    exact resolves.finds found
  exhausts none := by
    rw [same]
    exact resolves.exhausts none

/-- Without addresses nothing is found. -/
theorem nil : Resolves topology attempt around scene [] busy (pure (.exhausted busy)) where
  finds found := nomatch found
  exhausts _ := by simp [firstBusy]

/-- An address is tried before the others. -/
theorem cons {target : Target} {finish : Grant → Task Search} {next : Option Address → Task Search}
    (finishes : ∀ grant (last : Scene), ∃ cursors,
      last.run around (finish grant) = (.ok (.granted grant), { last with cursors }))
    (rest : ∀ busy, Resolves topology attempt around scene targets busy (next busy)) :
    Resolves topology attempt around scene (target :: targets) busy (do
      match ← tryTarget topology attempt target with
      | .granted grant => finish grant
      | .unavailable => next busy
      | .busy => next (busy.or (some target.address))) := by
  cases admitted : attempt.admits topology scene target.address with
  | true =>
    have first : firstAdmitted topology attempt scene (target :: targets) = some target :=
      List.find?_cons_of_pos admitted
    have ran : scene.run around (tryTarget topology attempt target) = _ :=
      Scene.run_tryTarget_of_admits admitted
    constructor
    · intro found same
      obtain rfl := Option.some.inj (first.symm.trans same)
      dsimp only
      rw [Scene.run_bind, ran]
      cases attempt.given around target
        (attempt.kindOf (scene.store.get? target.address)) (scene.store.get? target.address) with
      | error error => exact ⟨scene.cursors, rfl⟩
      | ok grant => exact finishes grant _
    · intro none
      rw [first] at none
      exact nomatch none
  | false =>
    have refused : ¬ attempt.admits topology scene target.address = true := by simp [admitted]
    have later : firstAdmitted topology attempt scene (target :: targets) =
        firstAdmitted topology attempt scene targets := List.find?_cons_of_neg refused
    have ran : scene.run around (tryTarget topology attempt target) = _ :=
      Scene.run_tryTarget_of_not_admits admitted
    -- A locked address comes first among those that are passed over, unless one came before.
    cases passed : attempt.passesOver topology scene target.address with
    | true =>
      have goesOn : scene.run around (do
          match ← tryTarget topology attempt target with
          | .granted grant => finish grant
          | .unavailable => next busy
          | .busy => next (busy.or (some target.address))) =
          scene.run around (next (busy.or (some target.address))) := by
        rw [Scene.run_bind, ran, passed]
        rfl
      have first : firstBusy topology attempt scene (target :: targets) = some target.address := by
        simp [firstBusy, passed]
      have known (later : Option Address) :
          (busy.or (some target.address)).or later = busy.or (some target.address) := by
        cases busy <;> rfl
      constructor
      · intro found same
        rw [goesOn]
        exact (rest _).finds (later.symm.trans same)
      · intro none
        rw [goesOn, (rest _).exhausts (later.symm.trans none), first, known]
    | false =>
      have goesOn : scene.run around (do
          match ← tryTarget topology attempt target with
          | .granted grant => finish grant
          | .unavailable => next busy
          | .busy => next (busy.or (some target.address))) = scene.run around (next busy) := by
        rw [Scene.run_bind, ran, passed]
        rfl
      have first : firstBusy topology attempt scene (target :: targets) =
          firstBusy topology attempt scene targets := by
        simp [firstBusy, passed]
      constructor
      · intro found same
        rw [goesOn]
        exact (rest _).finds (later.symm.trans same)
      · intro none
        rw [goesOn, (rest _).exhausts (later.symm.trans none), first]

/-- Some addresses are tried before others. -/
theorem append {rest : Option Address → Task Search}
    (first : Resolves topology attempt around scene targets busy task)
    (second : ∀ busy, Resolves topology attempt around scene others busy (rest busy)) :
    Resolves topology attempt around scene (targets ++ others) busy (do
      match ← task with
      | .granted grant => return .granted grant
      | .exhausted busy => rest busy) := by
  have whole : firstAdmitted topology attempt scene (targets ++ others) =
      (firstAdmitted topology attempt scene targets).or
        (firstAdmitted topology attempt scene others) := List.find?_append
  cases found : firstAdmitted topology attempt scene targets with
  | some target =>
    rw [found] at whole
    constructor
    · intro other same
      obtain rfl : target = other := Option.some.inj (whole.symm.trans same)
      obtain ⟨cursors, ran⟩ := first.finds found
      refine ⟨cursors, ?_⟩
      rw [Scene.run_bind, ran]
      cases attempt.given around target
        (attempt.kindOf (scene.store.get? target.address)) (scene.store.get? target.address) <;> rfl
    · intro none
      exact nomatch whole.symm.trans none
  | none =>
    rw [found, Option.none_or] at whole
    have goesOn : scene.run around (do
        match ← task with
        | .granted grant => return .granted grant
        | .exhausted busy => rest busy) =
        scene.run around (rest (busy.or (firstBusy topology attempt scene targets))) :=
      Scene.run_bind_ok (first.exhausts found)
    have busyFirst : firstBusy topology attempt scene (targets ++ others) =
        (firstBusy topology attempt scene targets).or
          (firstBusy topology attempt scene others) := by
      simp [firstBusy, List.find?_append, Option.map_or]
    constructor
    · intro target same
      rw [goesOn]
      exact (second _).finds (whole.symm.trans same)
    · intro none
      rw [goesOn, (second _).exhausts (whole.symm.trans none), busyFirst, Option.or_assoc]

end Resolves

/-- Addresses are tried one after another. -/
theorem resolves_tryTargets (targets : List Target) (busy : Option Address) :
    Resolves topology attempt around scene targets busy
      (tryTargets topology attempt busy targets) := by
  induction targets generalizing busy with
  | nil => exact Resolves.nil
  | cons target rest ih => exact Resolves.cons (fun _ last => ⟨last.cursors, rfl⟩) ih

/-- The candidates of a pool are tried in the order in which they are visited. -/
theorem resolves_walkPool (pool : Pool) (walk : PoolWalk) (remaining offset : Nat)
    (busy : Option Address) :
    Resolves topology attempt around scene
      ((pool.visited walk remaining offset).map (Attempt.ofPool pool)) busy
      (walkPool topology attempt pool walk remaining offset busy) := by
  induction remaining generalizing offset busy with
  | zero => exact Resolves.nil
  | succ remaining ih =>
    unfold walkPool Pool.visited
    cases visited : pool.nth? (walk.index offset) with
    | none => exact Resolves.nil
    | some address =>
      refine Resolves.cons (fun grant last => ?_) (ih (offset + 1))
      exact ⟨last.cursors.set (pool.cursorKey attempt.subnet.id)
        (pool.following (walk.index offset)), rfl⟩

/-- Where a walk begins follows from the cursors. -/
theorem run_walkStart (pool : Pool) :
    scene.run around (walkStart attempt pool) =
      (.ok (attempt.walkStart around scene.cursors pool), scene) := by
  unfold walkStart Attempt.walkStart
  cases attempt.candidate.params.allocator <;> rfl

/-- Pools are searched one after another. -/
theorem resolves_searchPools (limit : Option Nat) (pools : List Pool) (busy : Option Address) :
    Resolves topology attempt around scene
      (pools.flatMap (attempt.poolTrials around scene.cursors limit)) busy
      (searchPools topology attempt limit busy pools) := by
  induction pools generalizing busy with
  | nil => exact Resolves.nil
  | cons pool rest ih =>
    rw [List.flatMap_cons]
    unfold searchPools
    refine Resolves.of_run_eq ?_ (Scene.run_bind_ok (run_walkStart pool))
    exact Resolves.append (resolves_walkPool pool _ _ _ busy) ih

/-- The suggested addresses of a subnet are tried before its pools. -/
theorem resolves_searchSubnet (limit : Option Nat) (leases : List Lease) :
    Resolves topology attempt around scene
      (attempt.trials around scene.cursors limit leases) none
      (searchSubnet topology attempt limit leases) :=
  Resolves.append (resolves_tryTargets _ none) (resolves_searchPools limit _)

/-- Reporting how a search goes does not change what it finds. -/
theorem run_allocateDynamic (limit : Option Nat) (leases : List Lease) :
    scene.run around (allocateDynamic topology attempt limit leases) =
      scene.run around (searchSubnet topology attempt limit leases) := by
  unfold allocateDynamic
  rw [Scene.run_report_bind, Scene.run_bind, Scene.run_attempt]
  match scene.run around (searchSubnet topology attempt limit leases) with
  | (.ok (.granted grant), after) => rfl
  | (.ok (.exhausted busy), after) => rfl
  | (.error error, after) => rfl

/-- An address is found for the client among those of the subnet. -/
theorem resolves_allocateDynamic (limit : Option Nat) (leases : List Lease) :
    Resolves topology attempt around scene
      (attempt.trials around scene.cursors limit leases) none
      (allocateDynamic topology attempt limit leases) :=
  (resolves_searchSubnet limit leases).of_run_eq (run_allocateDynamic limit leases)

end Engine

end Leasehold
