import Mathlib.Logic.Function.Basic
import Leasehold.Engine.State
import Leasehold.Proofs.Engine.Steady
import Leasehold.Proofs.Store.Effects

/-!
# The journal of a task

Whatever a task does to the records, it does one record at a time, by a call that writes or deletes
it. The journal of a task lists these changes in order, with the record before and after each of
them. Nothing is left out: from the records that the task finds, the changes of its journal lead to
those that it leaves (`State.replays_journal`).

The engine announces the changes that it makes. What is to be announced of a change follows from
the change alone (`RecordChange.notices`): a gauge counts the leases that are handed out, listeners
are told of leases that were committed or reclaimed, and the rest is counted.
-/
namespace Leasehold

open Engine (Ask Reply State Surroundings Task wasAssigned)

/-- Listeners are told: a lease was committed or reclaimed. -/
def Notice.isLeaseEvent : Notice → Bool
  | .committed _ | .reclaimed _ => true
  | .reviewed _ _ _ | .phase _ _ _ | .count _ _ => false

/-- A change of the record of an address. -/
structure RecordChange where
  /-- The address. -/
  address : Address
  /-- The record before, if there was one. -/
  before : Option Lease
  /-- The record after, if there is one. -/
  after : Option Lease
deriving DecidableEq, Repr

namespace RecordChange

/-- The lease was handed out before the change. -/
def tookAssigned (change : RecordChange) : Bool := change.before.any wasAssigned

/-- How the record of an address differs between two stores, if it does. -/
def between? (before after : Store) (address : Address) : Option RecordChange :=
  if before.get? address = after.get? address then none
  else some ⟨address, before.get? address, after.get? address⟩

/-- What is announced of a change. -/
def notices (change : RecordChange) : List Notice :=
  match change.after with
  | none =>
    match change.before with
    | none => []
    | some lease =>
      if wasAssigned lease then [.count (.assigned lease.subnet) (-1), .count .released 1]
      else [.count .removed 1]
  | some lease =>
    match lease.state with
    | .active =>
      (if change.tookAssigned then [] else [.count (.assigned lease.subnet) 1]) ++
        [.committed lease]
    | .reclaimed =>
      (if change.tookAssigned then [.count (.assigned lease.subnet) (-1)] else []) ++
        [.count .reclaimed 1, .reclaimed lease]
    | .declined => [.count (.assigned lease.subnet) (-1), .count .declined 1]
    | .expiredReclaimable => []

/-- What is announced when a lease is handed out. -/
theorem notices_of_active {change : RecordChange} {lease : Lease}
    (stored : change.after = some lease) (active : lease.state = .active) :
    change.notices = (if change.tookAssigned then [] else [.count (.assigned lease.subnet) 1]) ++
      [.committed lease] := by
  unfold notices
  rw [stored]
  dsimp only
  rw [active]

/-- What is announced when a lease is reclaimed. -/
theorem notices_of_reclaimed {change : RecordChange} {lease : Lease}
    (stored : change.after = some lease) (reclaimed : lease.state = .reclaimed) :
    change.notices =
      (if change.tookAssigned then [.count (.assigned lease.subnet) (-1)] else []) ++
        [.count .reclaimed 1, .reclaimed lease] := by
  unfold notices
  rw [stored]
  dsimp only
  rw [reclaimed]

/-- What is announced when a lease is declined. -/
theorem notices_of_declined {change : RecordChange} {lease : Lease}
    (stored : change.after = some lease) (declined : lease.state = .declined) :
    change.notices = [.count (.assigned lease.subnet) (-1), .count .declined 1] := by
  unfold notices
  rw [stored]
  dsimp only
  rw [declined]

/-- What is announced when a record is removed. -/
theorem notices_of_removed {change : RecordChange} {lease : Lease} (gone : change.after = none)
    (stored : change.before = some lease) :
    change.notices =
      if wasAssigned lease then [.count (.assigned lease.subnet) (-1), .count .released 1]
      else [.count .removed 1] := by
  unfold notices
  rw [gone]
  dsimp only
  rw [stored]

/-- What listeners are told of a change. -/
def leaseEvent? (change : RecordChange) : Option Notice :=
  match change.after with
  | none => none
  | some lease =>
    match lease.state with
    | .active => some (.committed lease)
    | .reclaimed => some (.reclaimed lease)
    | .declined | .expiredReclaimable => none

/-- Of all that is announced of a change, listeners are told of the lease as it is recorded. -/
theorem filter_notices (change : RecordChange) :
    change.notices.filter Notice.isLeaseEvent = change.leaseEvent?.toList := by
  obtain ⟨address, before, after⟩ := change
  cases after with
  | none =>
    cases before with
    | none => rfl
    | some lease =>
      dsimp only [notices, leaseEvent?]
      split <;> rfl
  | some lease =>
    dsimp only [notices, leaseEvent?]
    cases lease.state with
    | active => dsimp only; split <;> rfl
    | reclaimed => dsimp only; split <;> rfl
    | declined => rfl
    | expiredReclaimable => rfl

end RecordChange

/-- Changes of records lead from the records of some addresses to others, each of them from the
record that its address has by then. -/
def Replays : (Address → Option Lease) → List RecordChange → (Address → Option Lease) → Prop
  | records, [], last => last = records
  | records, change :: rest, last =>
    records change.address = change.before ∧
      Replays (Function.update records change.address change.after) rest last

/-- Changes that go on where others have led lead on from there. -/
theorem Replays.append {first middle last : Address → Option Lease}
    {changes others : List RecordChange} (begins : Replays first changes middle)
    (goesOn : Replays middle others last) : Replays first (changes ++ others) last := by
  induction changes generalizing first with
  | nil =>
    obtain rfl : middle = first := begins
    exact goesOn
  | cons change rest ih =>
    obtain ⟨before, following⟩ := begins
    exact ⟨before, ih following⟩

/-- A call changes the record of no address but the one that it is about. -/
theorem Store.get?_answer_of_other {store : Store} {call : RepositoryCall} {address : Address}
    (other : call.address? ≠ some address) :
    (store.answer call).2.get? address = store.get? address := by
  apply get?_answer_of_no_effect
  cases call with
  | write lease expected =>
    have different : ¬ lease.address = address := fun same => other (congrArg some same)
    simp [RepositoryCall.effect?, different]
  | delete erased =>
    have different : ¬ erased = address := fun same => other (congrArg some same)
    simp [RepositoryCall.effect?, different]
  | _ => rfl

/-- The change that a question makes, given the stores before and after it. -/
def Engine.Ask.change? (question : Ask) (before after : Store) : Option RecordChange :=
  match question with
  | .repository call => call.address?.bind (RecordChange.between? before after)
  | _ => none

/-- A question that leaves the store as it is makes no change. -/
theorem Engine.Ask.change?_self (question : Ask) (store : Store) :
    question.change? store store = none := by
  cases question with
  | repository call => cases about : call.address? <;> simp [change?, about, RecordChange.between?]
  | _ => rfl

/-- A store becomes another by the change that a call makes. -/
theorem Store.replays_answer (store : Store) (call : RepositoryCall) :
    Replays store.get? ((Ask.repository call).change? store (store.answer call).2).toList
      (store.answer call).2.get? := by
  cases about : call.address? with
  | none =>
    have kept : (store.answer call).2.get? = store.get? := by
      funext address
      exact get?_answer_of_other (by simp [about])
    simp [Ask.change?, about, Replays, kept]
  | some changed =>
    have others : (store.answer call).2.get? =
        Function.update store.get? changed ((store.answer call).2.get? changed) := by
      funext address
      by_cases same : address = changed
      · rw [same, Function.update_self]
      · rw [Function.update_of_ne same]
        exact get?_answer_of_other (by simpa [about] using Ne.symm same)
    by_cases kept : store.get? changed = (store.answer call).2.get? changed
    · rw [← kept, Function.update_eq_self] at others
      rw [Ask.change?, about, Option.bind_some, RecordChange.between?, if_pos kept]
      exact others
    · rw [Ask.change?, about, Option.bind_some, RecordChange.between?, if_neg kept]
      exact ⟨rfl, others⟩

namespace Engine.State

variable {α : Type}

/-- The changes that a task makes, in order. -/
def journal (around : Surroundings) : Task α → State → List RecordChange
  | .done _, _ => []
  | .fail _, _ => []
  | .ask question next, state =>
    let (reply, after) := state.answer around question
    (question.change? state.store after.store).toList ++ after.journal around (next reply)

/-- What was announced so far, in order. -/
def announcements (state : State) : List Notice :=
  (state.log.filter Notice.isAnnouncement).reverse

/-- What listeners were told so far, in order. -/
def leaseEvents (state : State) : List Notice :=
  (state.log.filter Notice.isLeaseEvent).reverse

/-- Listeners are told what was announced, except for the counts. -/
theorem leaseEvents_eq (state : State) :
    state.leaseEvents = state.announcements.filter Notice.isLeaseEvent := by
  have inside (notice : Notice) :
      (notice.isLeaseEvent && notice.isAnnouncement) = notice.isLeaseEvent := by
    cases notice <;> rfl
  unfold leaseEvents announcements
  rw [List.filter_reverse, List.filter_filter]
  simp only [inside]

/-- The store after a question is the one before it with the change that the question makes. -/
theorem replays_answer (around : Surroundings) (question : Ask) (state : State) :
    Replays state.store.get?
      (question.change? state.store (state.answer around question).2.store).toList
      (state.answer around question).2.store.get? := by
  cases question with
  | repository call => exact state.store.replays_answer call
  | _ => rfl

/-- From the records that a task finds, the changes of its journal lead to those that it leaves. -/
theorem replays_journal (around : Surroundings) (task : Task α) (state : State) :
    Replays state.store.get? (state.journal around task) (state.run around task).2.store.get? := by
  induction task generalizing state with
  | done result => rfl
  | fail error => rfl
  | ask question next ih => exact (replays_answer around question state).append (ih _ _)

end Engine.State

end Leasehold
