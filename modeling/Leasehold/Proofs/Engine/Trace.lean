import Leasehold.Proofs.Engine.Journal
import Leasehold.Proofs.Engine.Scene

/-!
# What a task asks on its way

The trace of a task lists the questions that it asks when no other task is in its way, each with the
scene that it is asked in. A task that is put together from others asks what these ask, one after
the other (`trace_bind`). The changes of records that a task makes are read off its trace, and are
those of its journal (`State.journal_eq_changes`).
-/
namespace Leasehold.Engine

variable {α β : Type} {around : Surroundings}

namespace Scene

/-- The questions of a task in order, each with the scene that it is asked in. -/
def trace (around : Surroundings) : Task α → Scene → List (Ask × Scene)
  | .done _, _ => []
  | .fail _, _ => []
  | .ask question next, scene =>
    let (reply, after) := scene.answer around question
    (question, scene) :: after.trace around (next reply)

/-- The questions of a task in order. -/
def questions (around : Surroundings) (task : Task α) (scene : Scene) : List Ask :=
  (scene.trace around task).map (·.1)

/-- The change that a question makes in the scene that it is asked in. -/
def change? (around : Surroundings) (asked : Ask × Scene) : Option RecordChange :=
  asked.1.change? asked.2.store (asked.2.answer around asked.1).2.store

/-- The changes that a task makes, in order. -/
def changes (around : Surroundings) (task : Task α) (scene : Scene) : List RecordChange :=
  (scene.trace around task).filterMap (change? around)

variable (scene : Scene)

/-- An outcome asks nothing. -/
@[simp]
theorem trace_ofExcept (outcome : Except EngineError α) :
    scene.trace around (Program.ofExcept outcome : Task α) = [] := by
  cases outcome <;> rfl

/-- One task after another: the second goes on in the scene that the first leaves, unless that has
failed. -/
theorem trace_bind (first : Task α) (rest : α → Task β) :
    scene.trace around (first >>= rest) = scene.trace around first ++
      match scene.run around first with
      | (.ok result, after) => after.trace around (rest result)
      | (.error _, _) => [] := by
  induction first generalizing scene with
  | done result => rfl
  | fail error => rfl
  | ask question next ih =>
    exact congrArg ((question, scene) :: ·)
      (ih (scene.answer around question).1 (scene.answer around question).2)

/-- A task asks the same when its error is made part of its result. -/
@[simp]
theorem trace_attempt (task : Task α) :
    scene.trace around (task.attempt : Task (Except EngineError α)) = scene.trace around task := by
  induction task generalizing scene with
  | done result => rfl
  | fail error => rfl
  | ask question next ih =>
    exact congrArg ((question, scene) :: ·)
      (ih (scene.answer around question).1 (scene.answer around question).2)

variable {scene}

/-- After a result, the questions of the second task follow those of the first. -/
theorem trace_bind_ok {first : Task α} {rest : α → Task β} {result : α} {after : Scene}
    (ran : scene.run around first = (.ok result, after)) :
    scene.trace around (first >>= rest) =
      scene.trace around first ++ after.trace around (rest result) := by
  rw [trace_bind, ran]

/-- So they do without the scenes that they are asked in. -/
theorem questions_bind_ok {first : Task α} {rest : α → Task β} {result : α} {after : Scene}
    (ran : scene.run around first = (.ok result, after)) :
    scene.questions around (first >>= rest) =
      scene.questions around first ++ after.questions around (rest result) := by
  unfold questions
  rw [trace_bind_ok ran, List.map_append]

/-- So do the changes of records. -/
theorem changes_bind_ok {first : Task α} {rest : α → Task β} {result : α} {after : Scene}
    (ran : scene.run around first = (.ok result, after)) :
    scene.changes around (first >>= rest) =
      scene.changes around first ++ after.changes around (rest result) := by
  unfold changes
  rw [trace_bind_ok ran, List.filterMap_append]

/-- Looking at the clock is one question. -/
@[simp]
theorem trace_clock_bind (rest : Instant → Task β) :
    scene.trace around (clock >>= rest) =
      (.clock, scene) :: scene.trace around (rest around.now) := rfl

/-- A report is one question. -/
@[simp]
theorem trace_report_bind (notice : Notice) (rest : Unit → Task β) :
    scene.trace around (report notice >>= rest) =
      (.report notice, scene) :: scene.trace around (rest ()) := rfl

/-- A call on the repository is answered from the store. -/
theorem trace_call_bind (request : RepositoryCall) (rest : request.Answer → Task β) :
    scene.trace around (call request >>= rest) =
      (.repository request, scene) ::
        { scene with store := (scene.store.answer request).2 }.trace around
          (rest (scene.store.answer request).1) := rfl

/-- The task goes on from what the store answers. -/
theorem run_call_bind (request : RepositoryCall) (rest : request.Answer → Task β) :
    scene.run around (call request >>= rest) =
      { scene with store := (scene.store.answer request).2 }.run around
        (rest (scene.store.answer request).1) := rfl

/-- A call on the repository changes at most the record that it is about. -/
theorem changes_call_bind (request : RepositoryCall) (rest : request.Answer → Task β) :
    scene.changes around (call request >>= rest) =
      ((Ask.repository request).change? scene.store (scene.store.answer request).2).toList ++
        { scene with store := (scene.store.answer request).2 }.changes around
          (rest (scene.store.answer request).1) := by
  have made : change? around (.repository request, scene) =
      (Ask.repository request).change? scene.store (scene.store.answer request).2 := rfl
  unfold changes
  rw [trace_call_bind, List.filterMap_cons, made]
  cases (Ask.repository request).change? scene.store (scene.store.answer request).2 <;> rfl

/-- Reading a record changes none. -/
@[simp]
theorem changes_getLease_bind (address : Address) (rest : Option Lease → Task β) :
    scene.changes around (call (.getLease address) >>= rest) =
      scene.changes around (rest (scene.store.get? address)) := by
  refine (changes_call_bind (.getLease address) rest).trans ?_
  rw [show (scene.store.answer (.getLease address)).2 = scene.store from rfl, Ask.change?_self]
  rfl

/-- Work under a lock is left out when the address is locked. -/
theorem trace_holding_of_locked {address : Address} {busy work : Task α}
    (locked : scene.locks.isLocked address = true) :
    scene.trace around (holding address busy work) =
      (.lock address, scene) :: scene.trace around busy := by
  have answered : answer around (.lock address) scene = (false, scene) := by
    simp [answer, State.answer, toState, State.scene, AddressLocks.lock, locked]
  change trace around (.ask (.lock address) _) scene = _
  rw [trace, answered]

/-- Then only what is done instead changes records. -/
theorem changes_holding_of_locked {address : Address} {busy work : Task α}
    (locked : scene.locks.isLocked address = true) :
    scene.changes around (holding address busy work) = scene.changes around busy := by
  unfold changes
  rw [trace_holding_of_locked locked]
  rfl

/-- Work under a lock comes between locking and unlocking the address. -/
theorem trace_holding_of_free {address : Address} {busy work : Task α}
    (free : scene.locks.isLocked address = false) {outcome : Except EngineError α} {after : Scene}
    (ran : { scene with locks := (scene.locks.lock address).2 }.run around work =
      (outcome, after)) :
    scene.trace around (holding address busy work) =
      (.lock address, scene) ::
        ({ scene with locks := (scene.locks.lock address).2 }.trace around work ++
          [(.unlock address, after)]) := by
  have answered : answer around (.lock address) scene =
      (true, { scene with locks := (scene.locks.lock address).2 }) := by
    simp [answer, State.answer, toState, State.scene, AddressLocks.lock, free]
  have worked : { scene with locks := (scene.locks.lock address).2 }.trace around
      (do
        let outcome ← work.attempt
        query (.unlock address)
        Program.ofExcept outcome) =
      { scene with locks := (scene.locks.lock address).2 }.trace around work ++
        [(.unlock address, after)] := by
    rw [trace_bind_ok (by rw [run_attempt, ran]), trace_attempt]
    cases outcome <;> rfl
  rw [← worked]
  change trace around (.ask (.lock address) _) scene = _
  rw [trace, answered]

/-- Locking and unlocking change no record. -/
theorem changes_holding_of_free {address : Address} {busy work : Task α}
    (free : scene.locks.isLocked address = false) {outcome : Except EngineError α} {after : Scene}
    (ran : { scene with locks := (scene.locks.lock address).2 }.run around work =
      (outcome, after)) :
    scene.changes around (holding address busy work) =
      { scene with locks := (scene.locks.lock address).2 }.changes around work := by
  unfold changes
  rw [trace_holding_of_free free ran, List.filterMap_cons, List.filterMap_append]
  exact List.append_nil _

end Scene

/-- The journal of a task lists the changes that its questions make. -/
theorem State.journal_eq_changes (around : Surroundings) (task : Task α) (state : State) :
    state.journal around task = state.scene.changes around task := by
  induction task generalizing state with
  | done result => rfl
  | fail error => rfl
  | ask question next ih =>
    obtain ⟨reply, after⟩ := state.answer_scene around question
    have store : (state.answer around question).2.store =
        (state.scene.answer around question).2.store := congrArg Scene.store after
    have rest := ih (state.answer around question).1 (state.answer around question).2
    rw [reply, after] at rest
    have made : question.change? state.store (state.answer around question).2.store =
        Scene.change? around (question, state.scene) := congrArg _ store
    unfold journal Scene.changes Scene.trace
    dsimp only
    rw [reply, rest, made, List.filterMap_cons]
    cases Scene.change? around (question, state.scene) <;> rfl

end Leasehold.Engine
