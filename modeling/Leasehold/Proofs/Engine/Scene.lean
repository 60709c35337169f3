import Leasehold.Engine.State

/-!
# A task on its own

What a task does when no other task is in its way follows from its surroundings and from the store,
the locks and the cursors that it finds, which make up the scene. The log decides nothing, and
neither does the time that was waited (`State.run_scene`). A run in a scene is computed along the
way the task is put together. A task that does its work under a lock leaves the locks as they were
(`run_holding_of_free`).
-/
namespace Leasehold

/-- Unlocking an address that was locked before leaves the locks as they were. -/
theorem AddressLocks.unlock_lock (locks : AddressLocks) {address : Address}
    (free : locks.isLocked address = false) : (locks.lock address).2.unlock address = locks := by
  obtain ⟨held, distinct⟩ := locks
  have absent : address ∉ held := by simpa [isLocked] using free
  have kept : held.filter (· ≠ address) = held := by
    rw [List.filter_eq_self]
    intro other member
    have different : other ≠ address := by
      rintro rfl
      exact absent member
    simpa using different
  simpa [lock, unlock, free] using kept

namespace Engine

variable {α β : Type} {around : Surroundings}

/-- What decides about the answers to a task, apart from its surroundings. -/
structure Scene where
  /-- The records of leases. -/
  store : Store
  /-- The locked addresses. -/
  locks : AddressLocks
  /-- Where the next walks through pools begin. -/
  cursors : PoolCursors

/-- The scene that a state presents. -/
def State.scene (state : State) : Scene := ⟨state.store, state.locks, state.cursors⟩

namespace Scene

/-- A state that presents the scene, with nothing in its log. -/
def toState (scene : Scene) : State := ⟨scene.store, scene.locks, scene.cursors, [], 0⟩

/-- Answer a question. -/
def answer (around : Surroundings) (question : Ask) (scene : Scene) : Reply question × Scene :=
  let (reply, state) := scene.toState.answer around question
  (reply, state.scene)

/-- Carry out a task. -/
def run (around : Surroundings) (task : Task α) (scene : Scene) : Except EngineError α × Scene :=
  Program.run (answer around) task scene

end Scene

/-- An answer, and the scene after it, follow from the scene. -/
theorem State.answer_scene (around : Surroundings) (question : Ask) (state : State) :
    (state.answer around question).1 = (state.scene.answer around question).1 ∧
      (state.answer around question).2.scene = (state.scene.answer around question).2 := by
  cases question with
  | lock address =>
    cases answered : state.locks.lock address
    simp [Scene.answer, State.answer, Scene.toState, State.scene, answered]
  | repository call =>
    cases answered : state.store.answer call
    simp [Scene.answer, State.answer, State.callStore, Scene.toState, State.scene, answered]
  | _ => exact ⟨rfl, rfl⟩

/-- The result of a run, and the scene after it, follow from the scene. -/
theorem State.run_scene (around : Surroundings) (task : Task α) (state : State) :
    (state.run around task).1 = (state.scene.run around task).1 ∧
      (state.run around task).2.scene = (state.scene.run around task).2 := by
  induction task generalizing state with
  | done result => exact ⟨rfl, rfl⟩
  | fail error => exact ⟨rfl, rfl⟩
  | ask question next ih =>
    obtain ⟨reply, after⟩ := state.answer_scene around question
    have rest := ih (state.answer around question).1 (state.answer around question).2
    rw [reply, after] at rest
    constructor
    · change (State.run around (next (state.answer around question).1)
        (state.answer around question).2).1 = _
      rw [reply]
      exact rest.1
    · change (State.run around (next (state.answer around question).1)
        (state.answer around question).2).2.scene = _
      rw [reply]
      exact rest.2

/-- A run ends in a scene as it ends in the state that presents it. -/
theorem State.scene_run {task : Task α} {state : State} {outcome : Except EngineError α}
    (ended : (state.run around task).1 = outcome) :
    state.scene.run around task = (outcome, (state.run around task).2.scene) := by
  obtain ⟨result, last⟩ := state.run_scene around task
  rw [last, ← ended, result]

namespace Scene

variable (scene : Scene)

/-- A task that is done leaves the scene as it is. -/
@[simp]
theorem run_pure (result : α) : scene.run around (pure result : Task α) = (.ok result, scene) :=
  rfl

/-- An outcome leaves the scene as it is. -/
@[simp]
theorem run_ofExcept (outcome : Except EngineError α) :
    scene.run around (Program.ofExcept outcome : Task α) = (outcome, scene) := by
  cases outcome <;> rfl

/-- One task after another: the second begins in the scene that the first leaves. -/
theorem run_bind (first : Task α) (rest : α → Task β) :
    scene.run around (first >>= rest) =
      match scene.run around first with
      | (.ok result, after) => after.run around (rest result)
      | (.error error, after) => (.error error, after) := by
  refine (Program.run_bind (answer around) first rest scene).trans ?_
  unfold run
  cases Program.run (answer around) first scene with
  | mk outcome after => cases outcome <;> rfl

/-- A task leaves the same scene when its error is made part of its result. -/
@[simp]
theorem run_attempt (task : Task α) :
    scene.run around (task.attempt : Task (Except EngineError α)) =
      (.ok (scene.run around task).1, (scene.run around task).2) :=
  Program.run_attempt (answer around) task scene

variable {scene}

/-- A task goes on from a result in the scene that is left with it. -/
theorem run_bind_ok {first : Task α} {rest : α → Task β} {result : α} {after : Scene}
    (ran : scene.run around first = (.ok result, after)) :
    scene.run around (first >>= rest) = after.run around (rest result) := by
  rw [run_bind, ran]

/-- What one task after another achieves, the second has achieved after the first. -/
theorem ok_of_run_bind {first : Task α} {rest : α → Task β} {result : β} {last : Scene}
    (ran : scene.run around (first >>= rest) = (.ok result, last)) :
    ∃ middle after, scene.run around first = (.ok middle, after) ∧
      after.run around (rest middle) = (.ok result, last) := by
  rw [run_bind] at ran
  split at ran
  · next middle after began => exact ⟨middle, after, began, ran⟩
  · cases ran

/-- The clock is one of the surroundings. -/
@[simp]
theorem run_clock_bind (rest : Instant → Task β) :
    scene.run around (clock >>= rest) = scene.run around (rest around.now) := rfl

/-- A report does not change the scene. -/
@[simp]
theorem run_report_bind (notice : Notice) (rest : Unit → Task β) :
    scene.run around (report notice >>= rest) = scene.run around (rest ()) := rfl

/-- A counter does not change the scene. -/
@[simp]
theorem run_count_bind (metric : Metric) (change : Int) (rest : Unit → Task β) :
    scene.run around (count metric change >>= rest) = scene.run around (rest ()) := rfl

/-- The record of an address is looked up in the store. -/
@[simp]
theorem run_getLease_bind (address : Address) (rest : Option Lease → Task β) :
    scene.run around (call (.getLease address) >>= rest) =
      scene.run around (rest (scene.store.get? address)) := rfl

/-- The records of a client are looked up in the store. -/
@[simp]
theorem run_getLeases_bind (owner : Identifier) (rest : List Lease → Task β) :
    scene.run around (call (.getLeases owner) >>= rest) =
      scene.run around (rest (scene.store.ofOwner owner)) := rfl

/-- Leases are reviewed by the surroundings. -/
@[simp]
theorem run_review_bind (request : Request) (lease : Lease) (mode : AllocationMode)
    (rest : Bool → Task β) :
    scene.run around (query (.review request lease mode) >>= rest) =
      scene.run around (rest (around.review request lease mode)) := rfl

/-- A write is answered from the store, and leaves the rest of the scene as it is. -/
theorem run_write_bind (lease : Lease) (expected : Expectation) (rest : WriteOutcome → Task β) :
    scene.run around (call (.write lease expected) >>= rest) =
      { scene with store := (scene.store.write lease expected).2 }.run around
        (rest (scene.store.write lease expected).1) := by
  cases answered : scene.store.write lease expected
  change Program.run _ _ _ = _
  simp [call, Bind.bind, Program.bind, Program.run, answer, State.answer, State.callStore,
    Store.answer, toState, State.scene, answered, run]

/-- Work under a lock is left out when the address is locked. -/
theorem run_holding_of_locked {address : Address} {busy work : Task α}
    (locked : scene.locks.isLocked address = true) :
    scene.run around (holding address busy work) = scene.run around busy := by
  have answered : answer around (.lock address) scene = (false, scene) := by
    simp [answer, State.answer, toState, State.scene, AddressLocks.lock, locked]
  change Program.run (answer around) (.ask (.lock address) _) scene = _
  rw [Program.run, answered]
  rfl

/-- Work under a lock that leaves the locks as they are does what it does, and the address is free
again afterwards. -/
theorem run_holding_of_free {address : Address} {busy work : Task α}
    (free : scene.locks.isLocked address = false) {outcome : Except EngineError α} {store : Store}
    {cursors : PoolCursors}
    (ran : { scene with locks := (scene.locks.lock address).2 }.run around work =
      (outcome, ⟨store, (scene.locks.lock address).2, cursors⟩)) :
    scene.run around (holding address busy work) = (outcome, ⟨store, scene.locks, cursors⟩) := by
  have answered : answer around (.lock address) scene =
      (true, { scene with locks := (scene.locks.lock address).2 }) := by
    simp [answer, State.answer, toState, State.scene, AddressLocks.lock, free]
  have unlocked : answer around (.unlock address) ⟨store, (scene.locks.lock address).2, cursors⟩ =
      ((), ⟨store, scene.locks, cursors⟩) := by
    simp [answer, State.answer, toState, State.scene, scene.locks.unlock_lock free]
  have worked : { scene with locks := (scene.locks.lock address).2 }.run around
      (do
        let outcome ← work.attempt
        query (.unlock address)
        Program.ofExcept outcome) = (outcome, ⟨store, scene.locks, cursors⟩) := by
    rw [run_bind_ok (by rw [run_attempt, ran])]
    have opened : (⟨store, (scene.locks.lock address).2, cursors⟩ : Scene).run around
        (query (.unlock address)) = (.ok (), ⟨store, scene.locks, cursors⟩) :=
      congrArg (fun answered => (Except.ok answered.1, answered.2)) unlocked
    rw [run_bind_ok opened, run_ofExcept]
  refine Eq.trans ?_ worked
  change Program.run (answer around) (.ask (.lock address) _) scene = _
  rw [Program.run, answered]
  rfl

end Scene

end Engine

end Leasehold
