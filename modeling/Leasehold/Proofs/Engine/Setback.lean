import Leasehold.Proofs.Engine.Operation
import Leasehold.Proofs.Engine.Recording

/-!
# What a failed allocation leaves behind

A lease is recorded by the last call of its allocation, so that an allocation which fails has
recorded none. The record of the address, though, is reclaimed before the lease is reviewed, and
stays reclaimed when the review turns the lease down or the repository fails at the last call. In
every other case the store is as it was (`allocate_setback`). Any of the calls may fail, and any of
the addresses may be locked.
-/
namespace Leasehold

/-- The store after the record of an address was reclaimed, if that was due. -/
def Store.cleared (store : Store) (now : Instant) (address : Address) : Store :=
  match (store.get? address).filter (·.needsReclaim now) with
  | none => store
  | some lease => store.insert (Attempt.reclaimed lease)

namespace Engine

variable {α : Type}

/-- The calls on a repository that fail, by their numbers, and how each of them fails. -/
abbrev Outage := Nat → Option RepositoryError

namespace State

/-- Answer a question while some of the calls fail without an effect. The calls are counted. -/
def answerDuring (around : Surroundings) (outage : Outage) :
    (question : Ask) → State × Nat → Reply question × (State × Nat)
  | .repository call, (state, calls) =>
    match outage calls with
    | some error => (.error error, (state, calls + 1))
    | none =>
      let (answer, state) := state.callStore call
      (.ok answer, (state, calls + 1))
  | question, (state, calls) =>
    let (reply, state) := state.answer around question
    (reply, (state, calls))

/-- Carry out a task while some of its calls fail. -/
def runDuring (around : Surroundings) (outage : Outage) (task : Task α) (state : State) :
    Except EngineError α × State :=
  let (outcome, (last, _)) := Program.run (answerDuring around outage) task (state, 0)
  (outcome, last)

end State

/-- Clearing an address shows in the store. -/
theorem Chronicle.store_cleared (chronicle : Chronicle) (now : Instant) (address : Address) :
    (chronicle.cleared now address).store = chronicle.store.cleared now address := by
  unfold cleared Store.cleared
  cases (chronicle.store.get? address).filter (·.needsReclaim now) <;> rfl

/-- Whatever calls fail, a task finds the records that the store has. -/
theorem Chronicle.exists_answers_during (around : Surroundings) (outage : Outage) (question : Ask)
    (actual : State × Nat) (chronicle : Chronicle) (shows : chronicle.store = actual.1.store) :
    ∃ after, (observed around.now).answers question chronicle
      (State.answerDuring around outage question actual).1 after ∧
        after.store = (State.answerDuring around outage question actual).2.1.store := by
  let last := (State.answerDuring around outage question actual).2.1.store
  refine ⟨⟨last, chronicle.changes ++ (question.change? chronicle.store last).toList,
    chronicle.told ++ question.announcement?.toList⟩, ⟨?_, rfl, rfl⟩, rfl⟩
  obtain ⟨state, calls⟩ := actual
  cases question with
  | repository call =>
    cases fails : outage calls with
    | some error =>
      simp only [State.answerDuring, fails, last]
      exact shows.symm
    | none =>
      simp only [State.answerDuring, fails, last]
      rw [shows]
      rfl
  | clock => exact ⟨rfl, shows.symm⟩
  | _ => exact shows.symm

/-- What is reached in the chronicle of a task is reached whatever calls fail. -/
theorem Chronicle.reached_during (outage : Outage) {around : Surroundings} {task : Task α}
    {goal : Except EngineError α → Chronicle → Prop} {state : State}
    (keeps : task.Keeps (observed around.now) goal ⟨state.store, [], []⟩) :
    ∃ last, last.store = (state.runDuring around outage task).2.store ∧
      goal (state.runDuring around outage task).1 last := by
  have shows : (⟨state.store, [], []⟩ : Chronicle).store = (state, 0).1.store := rfl
  obtain ⟨last, seen, reached, -⟩ := keeps.run (exists_answers_during around outage) shows
  exact ⟨last, seen, reached⟩

/-- An allocation that was to be recorded and fails, whatever calls fail and whatever addresses are
locked, leaves the store as it was, except that an address may have been cleared: the one for which
a lease was turned down, or one for which the repository failed to record it. -/
theorem allocate_setback {topology : Topology} {request : Request} {limit : Option Nat}
    {around : Surroundings} {outage : Outage} {state : State} {error : EngineError}
    (failed : (state.runDuring around outage (allocate topology request .commit limit)).1 =
      .error error) :
    Setback state.store (state.store.cleared around.now) error
      (state.runDuring around outage (allocate topology request .commit limit)).2.store := by
  obtain ⟨last, seen, reached⟩ :=
    Chronicle.reached_during outage (Chronicle.keeps_allocate ⟨state.store, [], []⟩)
  rw [failed] at reached
  have cleared : Chronicle.store ∘ (⟨state.store, [], []⟩ : Chronicle).prepared .commit around.now =
      state.store.cleared around.now := by
    funext address
    exact Chronicle.store_cleared _ _ _
  rw [← seen, ← cleared]
  exact Setback.map Chronicle.store reached

namespace Sample

/-- The small network after its address was leased to the first client. -/
def taken : State := State.initial.play [leases 1 0]

/-- The surroundings when that lease is over, where every lease is turned down. -/
def turningDown : Surroundings := { around expiry with review := fun _ _ _ => false }

end Sample

/-- The lease of the second client is turned down, and the one of the first was reclaimed before. -/
theorem allocate_setback_of_veto :
    let ended := Sample.taken.runDuring Sample.turningDown (fun _ => none)
      (allocate Sample.topology (Sample.request 2) .commit none)
    ended.1 = .error (.turnedDown Sample.address) ∧
      ended.2.store = Sample.taken.store.cleared Sample.expiry Sample.address := by
  intro ended
  have failed : ended.1 = .error (.turnedDown Sample.address) := by decide +kernel
  exact ⟨failed, allocate_setback failed⟩

/-- An allocation that fails may change a record. -/
theorem reclaimed_by_failed_allocation :
    ¬ ∀ (topology : Topology) (request : Request) (limit : Option Nat) (around : Surroundings)
      (outage : Outage) (state : State) (error : EngineError),
      (state.runDuring around outage (allocate topology request .commit limit)).1 =
          .error error →
        ∀ address, (state.runDuring around outage
          (allocate topology request .commit limit)).2.store.get? address =
            state.store.get? address := by
  intro unchanged
  have before : Sample.taken.store.get? Sample.address = some (Sample.lease 1 0 1) := by
    decide +kernel
  have after : (Sample.taken.runDuring Sample.turningDown (fun _ => none)
      (allocate Sample.topology (Sample.request 2) .commit none)).2.store.get? Sample.address =
        some (Attempt.reclaimed (Sample.lease 1 0 1)) := by
    decide +kernel
  have kept := unchanged Sample.topology (Sample.request 2) none Sample.turningDown (fun _ => none)
    Sample.taken (.turnedDown Sample.address) (by decide +kernel) Sample.address
  rw [before, after] at kept
  exact absurd (Option.some.inj kept) (by decide)

end Engine

end Leasehold
