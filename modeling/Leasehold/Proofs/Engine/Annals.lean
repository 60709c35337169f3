import Leasehold.Proofs.Engine.LifeCycle

/-!
# The annals of an engine

Operations are carried out one after another, each at its own instant, under its own topology and
with its own review. The annals of such a history list every change of a record, together with the
event that made it. Each of them is a step in the life of its record, and listeners are told of
exactly these changes, in order, with the leases as they are recorded (`history_lifeCycle`).
-/
namespace Leasehold.Engine

namespace State

/-- The changes that an operation makes, in order. -/
def changesOf (state : State) (event : Event) : List RecordChange :=
  state.journal event.around (event.operation.task event.around.topology)

/-- The changes that a history makes, in order, each with the event that made it. -/
def annals (state : State) : List Event → List (Event × RecordChange)
  | [] => []
  | event :: rest =>
    (state.changesOf event).map (event, ·) ++ (state.carryOut event).annals rest

/-- An operation makes changes that are open to it, and announces each of them in turn. -/
theorem changesOf_lifeCycle (state : State) (event : Event) :
    (∀ change ∈ state.changesOf event,
      LifeCycle event.around.now event.operation change.before change.after) ∧
    (state.carryOut event).announcements =
      state.announcements ++ (state.changesOf event).flatMap RecordChange.notices := by
  have lawful : Chronicle.Lawful event.operation event.around.now
      ⟨state.store, [], state.announcements⟩
      ⟨(state.carryOut event).store, state.changesOf event,
        (state.carryOut event).announcements⟩ :=
    Chronicle.reached_of_keeps_atEnd (event.operation.keeps_lawful event.around.topology
      event.around.now ⟨state.store, [], state.announcements⟩)
  obtain ⟨changes, made, told, following⟩ := lawful.exists_changes
  obtain rfl : state.changesOf event = changes := made
  exact ⟨following, told⟩

/-- From the records at first, the changes of a history lead to the records at last. -/
theorem replays_annals (state : State) (history : List Event) :
    Replays state.store.get? ((state.annals history).map (·.2))
      (state.play history).store.get? := by
  induction history generalizing state with
  | nil => rfl
  | cons event rest ih =>
    have first : Replays state.store.get? (state.changesOf event)
        (state.carryOut event).store.get? :=
      replays_journal event.around (event.operation.task event.around.topology) state
    have made : (state.annals (event :: rest)).map (·.2) =
        state.changesOf event ++ ((state.carryOut event).annals rest).map (·.2) := by
      simp [annals, Function.comp_def]
    rw [made]
    exact first.append (ih (state.carryOut event))

/-- Every change of a history is made by one of its events, and is open to that event. -/
theorem lifeCycle_of_mem_annals {state : State} {history : List Event} {event : Event}
    {change : RecordChange} (member : (event, change) ∈ state.annals history) :
    event ∈ history ∧
      LifeCycle event.around.now event.operation change.before change.after := by
  induction history generalizing state with
  | nil => exact absurd member List.not_mem_nil
  | cons first rest ih =>
    rcases List.mem_append.mp member with here | later
    · obtain ⟨other, made, same⟩ := List.mem_map.mp here
      obtain ⟨rfl, rfl⟩ := Prod.mk.inj same
      exact ⟨List.mem_cons_self, (state.changesOf_lifeCycle first).1 other made⟩
    · obtain ⟨inside, following⟩ := ih later
      exact ⟨List.mem_cons_of_mem first inside, following⟩

/-- Every change of a history is announced in turn, and nothing else is. -/
theorem announcements_play (state : State) (history : List Event) :
    (state.play history).announcements =
      state.announcements ++ (state.annals history).flatMap (·.2.notices) := by
  induction history generalizing state with
  | nil => exact (List.append_nil _).symm
  | cons event rest ih =>
    have told : ((state.carryOut event).play rest).announcements =
        (state.carryOut event).announcements ++
          ((state.carryOut event).annals rest).flatMap (·.2.notices) := ih _
    rw [(state.changesOf_lifeCycle event).2] at told
    change ((state.carryOut event).play rest).announcements = _
    rw [told, annals, List.flatMap_append, List.flatMap_map, List.append_assoc]

/-- Listeners are told of the changes of a history in turn. -/
theorem leaseEvents_play (state : State) (history : List Event) :
    (state.play history).leaseEvents =
      state.leaseEvents ++ (state.annals history).filterMap (·.2.leaseEvent?) := by
  rw [leaseEvents_eq, leaseEvents_eq, announcements_play, List.filter_append]
  congr 1
  induction state.annals history with
  | nil => rfl
  | cons entry rest ih =>
    rw [List.flatMap_cons, List.filter_append, ih, RecordChange.filter_notices,
      List.filterMap_cons]
    cases entry.2.leaseEvent? <;> rfl

end State

/-- Whatever operations are carried out from the empty store on, the record of every address goes
through the changes that the annals list. Each of them is a step in the life of the record that is
open to the operation at its instant, so that a record becomes active only where there was none,
where it had been reclaimed, or where its client still held it. Listeners are told of every lease
that was committed or reclaimed, as it is recorded and in this order, and of nothing else. -/
theorem history_lifeCycle (history : List Event) :
    let annals := State.initial.annals history
    Replays (fun _ => none) (annals.map (·.2)) (State.initial.play history).store.get? ∧
    (∀ event change, (event, change) ∈ annals → event ∈ history ∧
      LifeCycle event.around.now event.operation change.before change.after ∧
      ∀ old lease, change.before = some old → change.after = some lease → lease.state = .active →
        old.state = .reclaimed ∨ old.isActive event.around.now) ∧
    (State.initial.play history).leaseEvents = annals.filterMap (·.2.leaseEvent?) := by
  refine ⟨State.initial.replays_annals history, fun event change member => ?_, ?_⟩
  · obtain ⟨inside, following⟩ := State.lifeCycle_of_mem_annals member
    refine ⟨inside, following, fun old lease before after active => ?_⟩
    rw [after] at following
    exact following.of_active active old before
  · exact State.initial.leaseEvents_play history

/-- A lease is recorded, reclaimed by a sweep once it is over, and recorded for the next client. -/
example :
    (State.initial.annals [Sample.leases 1 0, ⟨Sample.around Sample.expiry, .sweep ⟨1, none⟩⟩,
        Sample.leases 2 Sample.expiry]).map (fun entry => entry.2.after) =
      [some (Sample.lease 1 0 1), some (Attempt.reclaimed (Sample.lease 1 0 1)),
        some (Sample.lease 2 Sample.expiry 3)] := by
  decide +kernel

end Leasehold.Engine
