import Leasehold.Proofs.Engine.Account
import Leasehold.Proofs.Engine.Annals
import Leasehold.Proofs.Engine.Locks
import Leasehold.Proofs.Engine.Lockstep

/-!
# Sweeps and allocations in either order

An allocation reclaims the record that it is about to replace, and a sweep reclaims whatever is
over. It does not matter which of them comes first (`sweep_allocate_comm`): the allocation goes the
same way through a store and through the store that a sweep leaves (`lockstep_swept`), and both
orders have the same account in the end.
-/
namespace Leasehold

open Engine (Surroundings)

namespace Attempt

variable {attempt : Attempt}

/-- What the client is given of an address does not depend on who reclaims its record. -/
theorem given_swept (commits : attempt.mode = .commit) (around : Surroundings) (target : Target)
    (kind : GrantKind) (current : Option Lease) :
    attempt.given around target kind (current.map (·.swept attempt.now)) =
      attempt.given around target kind current := by
  unfold given isApproved grantOf issued proposal
  rw [clearedRecord_swept commits]

end Attempt

namespace Engine

variable {around : Surroundings}

/-- Allocations have the same result, and leave the same cursors. -/
abbrev agreeing (grant : Grant) (last : Scene) (grant' : Grant) (last' : Scene) : Prop :=
  grant' = grant ∧ last'.cursors = last.cursors

/-- Allocations that agree come to the same result, and leave the same cursors. -/
theorem eq_of_together {outcome outcome' : Except EngineError Grant} {last last' : Scene}
    (together : Together agreeing (fun last last' => last'.cursors = last.cursors)
      (outcome, last) (outcome', last')) :
    outcome' = outcome ∧ last'.cursors = last.cursors := by
  obtain ⟨grant, _, rfl, rfl, rfl, cursors⟩ | ⟨error, rfl, rfl, cursors⟩ := together.ok_or_error
  · exact ⟨rfl, cursors⟩
  · exact ⟨rfl, cursors⟩

/-- An address is given alike before and after its record is reclaimed. -/
theorem together_given_swept {attempt : Attempt} (commits : attempt.mode = .commit) (scene : Scene)
    (target : Target) (kind : GrantKind) (current : Option Lease) (store store' : Store) :
    Together agreeing (fun last last' => last'.cursors = last.cursors)
      (attempt.given around target kind current, ⟨store, scene.locks, scene.cursors⟩)
      (attempt.given around target kind (current.map (·.swept attempt.now)),
        ⟨store', scene.locks, scene.cursors⟩) := by
  rw [Attempt.given_swept commits]
  cases attempt.given around target kind current with
  | ok grant => exact ⟨rfl, rfl⟩
  | error error => exact ⟨rfl, rfl⟩

/-- An allocation goes the same way before and after everything is reclaimed. -/
theorem lockstep_swept (topology : Topology) (request : Request) (around : Surroundings)
    (scene : Scene) :
    Lockstep topology request .commit .commit around scene
      { scene with store := scene.store.swept around.now } agreeing
      (fun last last' => last'.cursors = last.cursors) where
  cursors := rfl
  stays := rfl
  moves common key number := ⟨common.1, congrArg (·.set key number) common.2⟩
  prefers owners candidate := by
    rw [Store.flatMap_ofOwner_swept, holdsIn_swept]
  suggests attempt serves owners := by
    rw [Store.flatMap_ofOwner_swept, ← serves.now_mode.1, Attempt.suggestions_swept]
  fixed attempt serves target := by
    obtain ⟨now, commits⟩ := serves.now_mode
    rw [← commits, Attempt.inMode_self]
    refine together_tryFixed rfl ?_ (fun kind => ?_) rfl
    · rw [Store.get?_swept, ← now, Attempt.standing_swept]
    · rw [Store.get?_swept, ← now]
      exact together_given_swept commits scene target kind _ _ _
  dynamic attempt serves target := by
    obtain ⟨now, commits⟩ := serves.now_mode
    rw [← commits, Attempt.inMode_self]
    refine together_tryTarget rfl ?_ (fun kind => ?_) rfl
    · rw [Store.get?_swept, ← now, Attempt.standing_swept]
    · rw [Store.get?_swept, ← now]
      exact together_given_swept commits scene target kind _ _ _

section Sweep

variable (around : Surroundings) {now : Instant} {scene : Scene}

/-- Reclaiming a record writes it, whether it is still stored or not. -/
theorem exists_run_reclaim (scene : Scene) (lease : Lease) :
    ∃ result, scene.run around (reclaim lease) = (.ok result, { scene with
      store := (scene.store.write { lease with state := .reclaimed }
        (.version lease.version)).2 }) := by
  unfold reclaim
  rw [Scene.run_write_bind]
  cases (scene.store.write { lease with state := .reclaimed } (.version lease.version)).1 with
  | conflict found => exact ⟨none, rfl⟩
  | committed stored =>
    refine ⟨some stored, ?_⟩
    dsimp only
    split <;> rfl

/-- Taking on a listed record writes it as reclaimed, and does nothing else. -/
theorem exists_run_sweepExpired (lease : Lease)
    (free : scene.locks.isLocked lease.address = false) (counts : SweepCounts) :
    ∃ counts', scene.run around (sweepExpired counts lease) = (.ok counts', { scene with
      store := (scene.store.write { lease with state := .reclaimed }
        (.version lease.version)).2 }) := by
  obtain ⟨result, ran⟩ := exists_run_reclaim around
    { scene with locks := (scene.locks.lock lease.address).2 } lease
  cases result with
  | none =>
    refine ⟨counts.addSkipped, Scene.run_holding_of_free free ?_⟩
    rw [Scene.run_bind_ok ran]
    rfl
  | some stored =>
    refine ⟨counts.addReclaimed, Scene.run_holding_of_free free ?_⟩
    rw [Scene.run_bind_ok ran]
    rfl

/-- Taking on records that include all that are over leaves none that is, when nothing is locked. -/
theorem exists_run_sweepEach (unlocked : scene.locks = .none) {leases : List Lease}
    (listed : ∀ old ∈ scene.store.overdue now, old ∈ leases) (counts : SweepCounts) :
    ∃ counts' store, scene.run around (sweepEach sweepExpired counts leases) =
      (.ok counts', { scene with store }) ∧ store.overdue now = [] := by
  induction leases generalizing scene counts with
  | nil =>
    exact ⟨counts, scene.store, rfl, List.eq_nil_iff_forall_not_mem.mpr fun old member =>
      List.not_mem_nil (listed old member)⟩
  | cons lease rest ih =>
    have free : scene.locks.isLocked lease.address = false := by
      rw [unlocked]
      rfl
    obtain ⟨middle, ran⟩ := exists_run_sweepExpired around lease free counts
    let written := (scene.store.write { lease with state := .reclaimed } (.version lease.version)).2
    unfold sweepEach
    rw [Scene.run_bind_ok ran]
    refine @ih ⟨written, scene.locks, scene.cursors⟩ unlocked (fun old later => ?_) middle
    obtain ⟨member, other⟩ := Store.mem_overdue_of_write later
    exact (List.mem_cons.mp (listed old member)).resolve_left other

/-- A sweep that takes on everything and removes nothing leaves no record that is over, when nothing
is locked. -/
theorem exists_run_sweep {settings : SweepSettings} (unlocked : scene.locks = .none)
    (forGood : settings.hold = none)
    (whole : (scene.store.overdue now).length ≤ settings.batch) :
    ∃ counts store, scene.run around (sweep settings now) = (.ok counts, { scene with store }) ∧
      store.overdue now = [] := by
  have listed : ∀ old ∈ scene.store.overdue now,
      old ∈ scene.store.scanExpired settings.batch now :=
    fun old => scene.store.mem_scanExpired_of_mem_overdue now whole
  obtain ⟨counts, store, ran, done⟩ :=
    exists_run_sweepEach around unlocked listed .none
  refine ⟨counts, store, ?_, done⟩
  change scene.run around (sweepEach sweepExpired .none
    (scene.store.scanExpired settings.batch now) >>= removeReclaimed settings now) = _
  rw [Scene.run_bind_ok ran]
  unfold removeReclaimed
  rw [forGood]
  rfl

end Sweep

/-- The chronicle that begins in a state. -/
def State.chronicle (state : State) : Chronicle := ⟨state.store, [], state.announcements⟩

/-- A sweep that removes nothing makes no difference in the end. -/
theorem State.alike_sweep {settings : SweepSettings} (forGood : settings.hold = none)
    (state : State) :
    Chronicle.Alike around.now (state.run around (sweep settings around.now)).2.chronicle
      state.chronicle := by
  have keeps : (sweep settings around.now).Keeps (Chronicle.observed around.now)
      (atEnd (Chronicle.Lawful (.sweep settings) around.now state.chronicle)) state.chronicle :=
    Chronicle.keeps_sweep_lawful _
  have alike := Chronicle.alike_of_sweep forGood (Chronicle.reached_of_keeps_atEnd keeps)
  exact ⟨alike.store, alike.account⟩

/-- What an allocation leads to that is to be recorded, as far as records and announcements go. -/
theorem State.exists_leads {topology : Topology} (accepted : topology.Accepted) (request : Request)
    (limit : Option Nat) (around : Surroundings) (state : State) :
    let allocated := state.run around (allocate topology request .commit limit)
    ∃ changes, Chronicle.Leads around.now state.chronicle allocated.1
      ⟨allocated.2.store, changes, allocated.2.announcements⟩ := by
  have keeps : (allocate topology request .commit limit).Keeps (Chronicle.observed around.now)
      (concluding (Chronicle.Grants topology request .commit around.now state.chronicle)
        (Chronicle.Leaves .commit around.now state.chronicle)) state.chronicle :=
    Chronicle.keeps_allocate _
  exact ⟨_, Chronicle.leads_of_concluding accepted (Chronicle.reached_of_keeps keeps)⟩

/-- A sweep that takes on everything and removes nothing reclaims what is over, and nothing else
changes in the scene. -/
theorem State.scene_sweep {settings : SweepSettings} (forGood : settings.hold = none)
    {state : State} (unlocked : state.locks = .none)
    (whole : (state.store.overdue around.now).length ≤ settings.batch) :
    (state.run around (sweep settings around.now)).2.scene =
      { state.scene with store := state.store.swept around.now } := by
  have scene := (state.run_scene around (sweep settings around.now)).2
  have start : state.scene.locks = .none := unlocked
  obtain ⟨counts, store, ran, done⟩ := exists_run_sweep around start forGood whole
  rw [ran] at scene
  have last : (state.run around (sweep settings around.now)).2.store = store :=
    congrArg Scene.store scene
  have same : store = state.store.swept around.now := by
    rw [← store.swept_of_overdue_nil around.now done, ← last]
    exact (state.alike_sweep forGood).store
  rw [scene, same]

/-- An allocation that is to be recorded comes to the same result after a sweep as without it, and
leaves the same cursors. -/
theorem State.run_allocate_of_swept {state swept : State}
    (begins : swept.scene = { state.scene with store := state.store.swept around.now })
    (topology : Topology) (request : Request) (limit : Option Nat) :
    let after := swept.run around (allocate topology request .commit limit)
    let without := state.run around (allocate topology request .commit limit)
    after.1 = without.1 ∧ after.2.cursors = without.2.cursors := by
  intro after without
  have together : Together agreeing (fun last last' => last'.cursors = last.cursors)
      (state.scene.run around (allocate topology request .commit limit))
      (swept.scene.run around (allocate topology request .commit limit)) := by
    rw [begins]
    exact (lockstep_swept topology request around state.scene).allocate
  rw [State.scene_run (rfl : without.1 = without.1), State.scene_run (rfl : after.1 = after.1)]
    at together
  exact eq_of_together together

/-- Chronicles that are alike have the same records where nothing is over, and have announced the
same. -/
theorem State.eq_of_alike {now : Instant} {left right : State}
    (alike : Chronicle.Alike now left.chronicle right.chronicle)
    (leftDone : left.store.overdue now = []) (rightDone : right.store.overdue now = []) :
    left.store = right.store ∧ left.announcements.Perm right.announcements ∧
      left.leaseEvents.Perm right.leaseEvents := by
  obtain ⟨store, told⟩ := alike.eq_of_overdue_nil leftDone rightDone
  refine ⟨store, told, ?_⟩
  rw [left.leaseEvents_eq, right.leaseEvents_eq]
  exact told.filter _

/-- A sweep that takes on every record and removes none may come before an allocation that is to be
recorded, or after it. Under every topology that can come into force, and while nothing is locked,
the client is granted the same lease, or is refused with the same error. In the end the records and
the cursors are the same, and the same was announced, in one order or another. -/
theorem sweep_allocate_comm {topology : Topology} (accepted : topology.Accepted)
    (request : Request) (limit : Option Nat) (around : Surroundings) {settings : SweepSettings}
    (forGood : settings.hold = none) {state : State} (unlocked : state.locks = .none)
    (whole : state.store.leases.length ≤ settings.batch) :
    let swept := (state.run around (sweep settings around.now)).2
    let sweptFirst := swept.run around (allocate topology request .commit limit)
    let allocated := state.run around (allocate topology request .commit limit)
    let sweptLast := (allocated.2.run around (sweep settings around.now)).2
    sweptFirst.1 = allocated.1 ∧ sweptFirst.2.store = sweptLast.store ∧
      sweptFirst.2.cursors = sweptLast.cursors ∧
      sweptFirst.2.announcements.Perm sweptLast.announcements ∧
      sweptFirst.2.leaseEvents.Perm sweptLast.leaseEvents := by
  intro swept sweptFirst allocated sweptLast
  have few : (state.store.overdue around.now).length ≤ settings.batch :=
    (List.length_filter_le _ _).trans whole
  have begins : swept.scene = { state.scene with store := state.store.swept around.now } :=
    State.scene_sweep forGood unlocked few
  have nothingOver : swept.chronicle.store.overdue around.now = [] := by
    have store : swept.store = state.store.swept around.now := congrArg Scene.store begins
    change swept.store.overdue around.now = []
    rw [store, Store.overdue_swept]
  obtain ⟨result, cursors⟩ : sweptFirst.1 = allocated.1 ∧
      sweptFirst.2.cursors = allocated.2.cursors :=
    State.run_allocate_of_swept begins topology request limit
  obtain ⟨_, leadsFirst⟩ := swept.exists_leads accepted request limit around
  obtain ⟨_, leads⟩ := state.exists_leads accepted request limit around
  -- Whether the sweep comes first does not show in what the allocation leads to.
  have alike : Chronicle.Alike around.now sweptFirst.2.chronicle allocated.2.chronicle := by
    change Chronicle.Leads _ _ sweptFirst.1 _ at leadsFirst
    rw [result] at leadsFirst
    have alike := leadsFirst.alike leads (State.alike_sweep forGood state)
    exact ⟨alike.store, alike.account⟩
  have unlockedAfter : allocated.2.locks = .none :=
    (compositional_givesBack.allocate.locks_run around state).trans unlocked
  have fewAfter : (allocated.2.store.overdue around.now).length ≤ settings.batch :=
    leads.length_overdue_le.trans few
  have ends : sweptLast.scene =
      { allocated.2.scene with store := allocated.2.store.swept around.now } :=
    State.scene_sweep forGood unlockedAfter fewAfter
  have firstDone : sweptFirst.2.store.overdue around.now = [] := by
    have none := leadsFirst.length_overdue_le
    rw [nothingOver] at none
    exact List.eq_nil_of_length_eq_zero (Nat.le_zero.mp none)
  have lastDone : sweptLast.store.overdue around.now = [] := by
    have store : sweptLast.store = allocated.2.store.swept around.now := congrArg Scene.store ends
    rw [store, Store.overdue_swept]
  obtain ⟨store, told, events⟩ :=
    State.eq_of_alike (alike.trans (State.alike_sweep forGood allocated.2).symm) firstDone lastDone
  have kept : sweptLast.cursors = allocated.2.cursors := congrArg Scene.cursors ends
  exact ⟨result, store, cursors.trans kept.symm, told, events⟩

/-- The lease of the first client is over. The second client is granted the address by the third
write, whether a sweep has reclaimed the lease before or the allocation does. -/
theorem sweep_allocate_comm_of_expired_lease :
    let around := Sample.around Sample.expiry
    let state := State.initial.play [Sample.leases 1 0]
    (state.run around (allocate Sample.topology (Sample.request 2) .commit none)).1.toOption.map
        (·.lease.version) = some 3 ∧
      let swept := (state.run around (sweep ⟨1, none⟩ around.now)).2
      let sweptFirst := swept.run around (allocate Sample.topology (Sample.request 2) .commit none)
      let allocated := state.run around (allocate Sample.topology (Sample.request 2) .commit none)
      let sweptLast := (allocated.2.run around (sweep ⟨1, none⟩ around.now)).2
      sweptFirst.1 = allocated.1 ∧ sweptFirst.2.store = sweptLast.store ∧
        sweptFirst.2.cursors = sweptLast.cursors ∧
        sweptFirst.2.announcements.Perm sweptLast.announcements ∧
        sweptFirst.2.leaseEvents.Perm sweptLast.leaseEvents := by
  intro around state
  have accepted : Sample.topology.Accepted := Topology.accepted_build _ _
  have forGood : (⟨1, none⟩ : SweepSettings).hold = none := rfl
  have unlocked : state.locks = .none := locks_play_initial _
  have whole : state.store.leases.length ≤ 1 := by decide +kernel
  refine ⟨?_, sweep_allocate_comm accepted (Sample.request 2) none around forGood unlocked whole⟩
  decide +kernel

end Engine

end Leasehold
