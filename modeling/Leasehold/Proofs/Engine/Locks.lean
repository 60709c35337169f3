import Leasehold.Proofs.Engine.Construction
import Leasehold.Proofs.Engine.Operation
import Leasehold.Proofs.Engine.Scene

/-!
# Locks are given back

A task on its own gives back every lock that it takes, however it ends: the ways to put tasks
together hand this on, because locks are taken for some work only. So nothing is locked in any state
that an engine reaches from the beginning (`locks_play_initial`).
-/
namespace Leasehold.Engine

/-- A task on its own leaves the locks as they were. -/
def GivesBack {α : Type} (task : Task α) : Prop :=
  ∀ around (scene : Scene), (scene.run around task).2.locks = scene.locks

namespace GivesBack

variable {α β : Type}

/-- Two tasks that leave the locks as they were do so one after the other. -/
theorem bind {first : Task α} {rest : α → Task β} (before : GivesBack first)
    (after : ∀ result, GivesBack (rest result)) : GivesBack (first >>= rest) := by
  intro around scene
  have same := before around scene
  rw [Scene.run_bind]
  match ran : scene.run around first with
  | (.ok result, middle) =>
    rw [ran] at same
    exact (after result around middle).trans same
  | (.error error, middle) =>
    rw [ran] at same
    exact same

/-- A plain question is not about locks. -/
theorem query {question : Ask} (plain : question.isPlain = true) :
    GivesBack (query question) := by
  intro around scene
  cases question with
  | repository request => exact nomatch plain
  | lock address => exact nomatch plain
  | unlock address => exact nomatch plain
  | _ => rfl

/-- The repository knows of no locks. -/
theorem call (request : RepositoryCall) : GivesBack (call request) := by
  intro around scene
  have answered : Scene.answer around (.repository request) scene =
      (.ok (scene.store.answer request).1,
        { scene with store := (scene.store.answer request).2 }) := by
    cases found : scene.store.answer request
    simp [Scene.answer, State.answer, State.callStore, Scene.toState, State.scene, found]
  change (Program.run (Scene.answer around) (.ask (.repository request) _) scene).2.locks = _
  rw [Program.run, answered]
  rfl

/-- The lock for some work is given back when the work gives back its own. -/
theorem holding {address : Address} {busy work : Task α} (whenBusy : GivesBack busy)
    (whenFree : GivesBack work) : GivesBack (holding address busy work) := by
  intro around scene
  cases locked : scene.locks.isLocked address with
  | true =>
    rw [Scene.run_holding_of_locked locked]
    exact whenBusy around scene
  | false =>
    have same := whenFree around { scene with locks := (scene.locks.lock address).2 }
    match ran : { scene with locks := (scene.locks.lock address).2 }.run around work with
    | (outcome, ⟨store, locks, cursors⟩) =>
      rw [ran] at same
      obtain rfl : locks = (scene.locks.lock address).2 := same
      rw [Scene.run_holding_of_free locked ran]

end GivesBack

/-- Giving back the locks is handed on by every way to put tasks together. -/
theorem compositional_givesBack : Compositional @GivesBack where
  done _ _ _ := rfl
  failed _ _ _ := rfl
  bind := GivesBack.bind
  attempt {α task} gives around scene := by
    rw [Scene.run_attempt]
    exact gives around scene
  query _ plain := GivesBack.query plain
  call request _ := GivesBack.call request
  holding _ whenBusy whenFree := GivesBack.holding whenBusy whenFree

/-- Every operation gives back its locks. -/
theorem Operation.givesBack (operation : Operation) (topology : Topology) :
    GivesBack (operation.task topology) := by
  have rules := compositional_givesBack
  have discards {α : Type} {task : Task α} (gives : GivesBack task) :
      GivesBack (do let _ ← task : Task Unit) := rules.bind gives fun _ => rules.done ()
  have deletes (address : Address) : GivesBack (call (.delete address)) := GivesBack.call _
  cases operation with
  | allocate request mode limit => exact discards rules.allocate
  | release ids address => exact discards (rules.release (deletes address))
  | decline ids probation address => exact discards (rules.decline probation)
  | sweep settings =>
    exact rules.bind rules.clock fun now =>
      discards (rules.sweep (fun counts lease => rules.sweepReclaimed (deletes _) counts) settings now)

/-- The run of a task that gives back its locks leaves them as they were. -/
theorem GivesBack.locks_run {α : Type} {task : Task α} (gives : GivesBack task)
    (around : Surroundings) (state : State) : (state.run around task).2.locks = state.locks := by
  have given := gives around state.scene
  rw [← (state.run_scene around task).2] at given
  exact given

/-- An operation leaves the locks as they were. -/
theorem State.locks_carryOut (state : State) (event : Event) :
    (state.carryOut event).locks = state.locks :=
  (event.operation.givesBack event.around.topology).locks_run event.around state

/-- Operations leave the locks as they were. -/
theorem State.locks_play (state : State) (history : List Event) :
    (state.play history).locks = state.locks := by
  induction history generalizing state with
  | nil => rfl
  | cons event rest ih => exact (ih (state.carryOut event)).trans (state.locks_carryOut event)

/-- Nothing is locked in a state that an engine reaches from the beginning. -/
theorem locks_play_initial (history : List Event) :
    (State.initial.play history).locks = .none :=
  State.initial.locks_play history

end Leasehold.Engine
