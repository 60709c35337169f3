import Leasehold.Proofs.Engine.Construction
import Leasehold.Proofs.Engine.Operation
import Leasehold.Proofs.Engine.Scene
import Leasehold.Proofs.Store.Growth

/-!
# Locks as fences

A lock on an address fences its record off: as long as somebody else holds it, no operation changes
the record, and a client that wants to give the address up is turned away. Nor does an operation keep
a lock, or give back one that is not its own, whatever becomes of it (`locks_fence`).

An operation is followed here through any course of events. The time goes on between its questions,
leases are turned down at will, other engines call the same repository in between, so that its own
writes may be refused, and any of its calls may fail, before or after it has taken effect.
-/
namespace Leasehold

/-- The address whose record a call may change. -/
def RepositoryCall.touched? : RepositoryCall → Option Address
  | write lease _ => some lease.address
  | delete address => some address
  | getLease _ | getLeases _ | scanExpired _ _ | scanReclaimed _ _ | countActive _ _ => none

namespace Store

/-- What a call makes of a record depends on that record alone. -/
theorem get?_answer_congr {left right : Store} {address : Address}
    (same : left.get? address = right.get? address) (call : RepositoryCall) :
    (left.answer call).2.get? address = (right.answer call).2.get? address := by
  cases call with
  | write lease expected =>
    change (left.write lease expected).2.get? address = (right.write lease expected).2.get? address
    rw [get?_write, get?_write]
    by_cases here : lease.address = address
    · subst here
      rw [same]
    · simp only [if_neg here, same]
      split <;> split <;> rfl
  | delete erased =>
    change (left.delete erased).2.get? address = (right.delete erased).2.get? address
    rw [get?_delete, get?_delete, same]
  | _ => exact same

/-- What calls make of a record depends on that record alone. -/
theorem get?_after_congr {left right : Store} {address : Address}
    (same : left.get? address = right.get? address) (calls : List RepositoryCall) :
    (left.after calls).get? address = (right.after calls).get? address := by
  induction calls generalizing left right with
  | nil => exact same
  | cons call rest ih => exact ih (get?_answer_congr same call)

/-- A call leaves every record as it is, other than the one that it may change. -/
theorem get?_answer_of_not_touched {store : Store} {call : RepositoryCall} {address : Address}
    (spared : call.touched? ≠ some address) :
    (store.answer call).2.get? address = store.get? address := by
  cases call with
  | write lease expected =>
    have other : lease.address ≠ address := fun same => spared (congrArg some same)
    change (store.write lease expected).2.get? address = _
    rw [get?_write]
    split
    · rfl
    · exact if_neg other
  | delete erased =>
    change (store.delete erased).2.get? address = _
    rw [get?_delete]
    exact if_neg fun same => spared (congrArg some same)
  | _ => rfl

end Store

namespace Engine

variable {α β : Type}

/-- What surrounds one question of a task. -/
structure Moment where
  /-- The time, the review of leases, the random starts and the topology in force. -/
  around : Surroundings
  /-- The calls that others make on the repository right before the question. -/
  others : List RepositoryCall
  /-- How a call on the repository fails, if it does, and whether it takes effect all the same. -/
  failure : Option (RepositoryError × Bool)

/-- What surrounds the questions of a task, one after another. -/
abbrev Course := Nat → Moment

/-- The calls that others make in the course of so many questions. -/
def Course.others (course : Course) (asked : Nat) : List RepositoryCall :=
  (List.range asked).flatMap fun number => (course number).others

/-- The calls of others before one more question come last. -/
theorem Course.others_succ (course : Course) (asked : Nat) :
    course.others (asked + 1) = course.others asked ++ (course asked).others := by
  simp [others, List.range_succ]

namespace State

/-- The state after others have called the repository. -/
def met (state : State) (calls : List RepositoryCall) : State :=
  { state with store := state.store.after calls }

/-- Answer a question in a course of events. The questions are counted. -/
def answerAmid (course : Course) :
    (question : Ask) → State × Nat → Reply question × (State × Nat)
  | .repository call, (state, asked) =>
    let moment := course asked
    let state := state.met moment.others
    let (answer, after) := state.callStore call
    match moment.failure with
    | none => (.ok answer, (after, asked + 1))
    | some (error, true) => (.error error, (after, asked + 1))
    | some (error, false) => (.error error, (state, asked + 1))
  | question, (state, asked) =>
    let moment := course asked
    let (reply, after) := (state.met moment.others).answer moment.around question
    (reply, (after, asked + 1))

/-- Carry out a task in a course of events. The result comes with the state that is left and with
how many questions were asked. -/
def runAmid (course : Course) (task : Task α) (state : State) :
    Except EngineError α × (State × Nat) :=
  Program.run (answerAmid course) task (state, 0)

end State

/-- The address whose record a question may change. -/
def Ask.touched? : Ask → Option Address
  | .repository call => call.touched?
  | _ => none

/-- What is watched of a task: the locks, and the addresses whose records it has asked to change. -/
structure Ground where
  /-- The locks. -/
  locks : AddressLocks
  /-- The addresses. -/
  touched : List Address

namespace Ground

/-- How questions are answered, as far as this is watched. A record that is read is for the address
that it is read from. -/
structure Answers (question : Ask) (before : Ground) (reply : Reply question) (after : Ground) :
    Prop where
  /-- Addresses are locked and unlocked. -/
  locks : match question, reply with
    | .lock address, free => (free, after.locks) = before.locks.lock address
    | .unlock address, _ => after.locks = before.locks.unlock address
    | _, _ => after.locks = before.locks
  /-- The addresses are written down. -/
  touched : after.touched = before.touched ++ question.touched?.toList
  /-- Records are for the address that they are read from. -/
  placed : match question, reply with
    | .repository (.getLease address), .ok found => ∀ lease, found = some lease →
      lease.address = address
    | _, _ => True

/-- The terms of a task that may change the records of its own addresses. -/
def bounds (own : Address → Prop) : Terms Ask Reply Ground where
  answers := Answers
  rely := Eq
  allowed before after := ∀ address ∈ after.touched, address ∈ before.touched ∨ own address
  rely_refl _ := rfl
  rely_trans := Eq.trans

variable {own : Address → Prop} {before after ground : Ground}

/-- A question that changes no record is allowed. -/
theorem Answers.allowed_of_not_touched {question : Ask} {reply : Reply question}
    (answered : Answers question before reply after) (spared : question.touched? = none) :
    (bounds own).allowed before after := by
  intro address member
  rw [answered.touched, spared, Option.toList_none, List.append_nil] at member
  exact .inl member

/-- A plain question leaves the locks as they are. -/
theorem Answers.locks_of_isPlain {question : Ask} {reply : Reply question}
    (answered : Answers question before reply after) (plain : question.isPlain = true) :
    after.locks = before.locks := by
  have locks := answered.locks
  cases question with
  | repository | lock | unlock => exact nomatch plain
  | _ => exact locks

/-- A call leaves the locks as they are. -/
theorem Answers.locks_of_call {call : RepositoryCall} {reply : Reply (.repository call)}
    (answered : Answers (.repository call) before reply after) : after.locks = before.locks :=
  answered.locks

end Ground

open Ground

/-- The task gives back its locks, and asks for no changes but those of the records that are its own
to change, given the locks that it finds. -/
def StaysWithin (own : AddressLocks → Address → Prop) (task : Task α) : Prop :=
  ∀ ground : Ground,
    task.Keeps (bounds (own ground.locks)) (atEnd fun last => last.locks = ground.locks) ground

/-- Addresses that are not locked may be changed. -/
def unlocked (locks : AddressLocks) (address : Address) : Prop := locks.isLocked address = false

/-- One address may be changed. -/
def onlyAt (address : Address) (_ : AddressLocks) : Address → Prop := (· = address)

namespace StaysWithin

variable {own : AddressLocks → Address → Prop} {address : Address}

/-- One task after another: the second finds the locks that the first has found. -/
theorem bind {first : Task α} {rest : α → Task β} (begins : StaysWithin own first)
    (goesOn : ∀ result, StaysWithin own (rest result)) : StaysWithin own (first >>= rest) := by
  intro ground
  refine (begins ground).bind fun result last same => ?_
  have keeps := goesOn result last
  rw [same] at keeps
  exact keeps

/-- A call may change no record, or one that is the task's own. -/
theorem call {request : RepositoryCall}
    (mine : ∀ locks touched, request.touched? = some touched → own locks touched) :
    StaysWithin own (call request) := by
  rintro ground later rfl reply after answered
  have locks := answered.locks_of_call
  refine ⟨fun touched member => ?_, ?_⟩
  · rw [answered.touched] at member
    rcases List.mem_append.mp member with old | new
    · exact .inl old
    · exact .inr (mine _ touched (Option.mem_toList.mp new))
  · cases reply <;> exact fun last same => same ▸ locks

/-- A record that is read is for the address that it is read from. -/
theorem getLease_bind {rest : Option Lease → Task α}
    (goesOn : ∀ found, (∀ lease, found = some lease → lease.address = address) →
      StaysWithin own (rest found)) :
    StaysWithin own (Engine.call (.getLease address) >>= rest) := by
  rintro ground later rfl reply after answered
  have locks := answered.locks_of_call
  refine ⟨answered.allowed_of_not_touched rfl, ?_⟩
  cases reply with
  | error error => exact fun last same => same ▸ locks
  | ok found =>
    have keeps := goesOn found answered.placed after
    rw [locks] at keeps
    exact keeps

/-- Staying within bounds is handed on by every way to put tasks together that neither changes a
record nor takes a lock. -/
theorem constructive (own : AddressLocks → Address → Prop) :
    Constructive fun {α} (task : Task α) => StaysWithin own task where
  done _ _ := fun _ same => same ▸ rfl
  failed _ _ := fun _ same => same ▸ rfl
  bind := bind
  attempt {α task} stays ground := by
    have keeps : Program.Keeps (bounds (own ground.locks))
        (concluding (atEnd fun last => last.locks = ground.locks) fun _ _ => False)
        (task.attempt : Task (Except EngineError α)) ground := (stays ground).attempt
    refine keeps.weaken fun {outcome last} reached => ?_
    match outcome with
    | .ok (.ok result) => exact reached
    | .ok (.error error) => exact reached
    | .error error => exact reached.elim
  query question plain := by
    rintro ground later rfl reply after answered
    have spared : question.touched? = none := by
      cases question with
      | repository => exact nomatch plain
      | _ => rfl
    exact ⟨answered.allowed_of_not_touched spared,
      fun last same => same ▸ answered.locks_of_isPlain plain⟩
  read request noWrite noDelete := by
    refine call fun locks touched changes => ?_
    cases request with
    | write => exact absurd rfl noWrite
    | delete => exact absurd rfl noDelete
    | _ => exact nomatch changes

/-- Work that changes only the record of an address may be done under its lock, by a task that is to
change no record of an address that is locked. -/
theorem holding {busy work : Task α} (whenBusy : StaysWithin unlocked busy)
    (whenFree : StaysWithin (onlyAt address) work) :
    StaysWithin unlocked (holding address busy work) := by
  rintro ground later rfl free after answered
  have locked : (free, after.locks) = ground.locks.lock address := answered.locks
  refine ⟨answered.allowed_of_not_touched rfl, ?_⟩
  cases free with
  | false =>
    have same : after.locks = ground.locks := by
      unfold AddressLocks.lock at locked
      split at locked
      · exact congrArg Prod.snd locked
      · cases congrArg Prod.fst locked
    have keeps := whenBusy after
    rw [same] at keeps
    exact keeps
  | true =>
    have isFree : ground.locks.isLocked address = false := by
      unfold AddressLocks.lock at locked
      split at locked
      · cases congrArg Prod.fst locked
      · next free => exact Bool.eq_false_iff.mpr free
    have taken : after.locks = (ground.locks.lock address).2 := congrArg Prod.snd locked
    -- The work may change the record of the address, which nobody else has locked.
    have works : work.Keeps (bounds (unlocked ground.locks))
        (atEnd fun last => last.locks = after.locks) after := by
      refine (whenFree after).mono (fun answered => answered) (fun same => same)
        (fun {before after} change touched member => ?_) id
      rcases change touched member with old | rfl
      · exact .inl old
      · exact .inr isFree
    refine works.attempt.bind fun outcome last reached => ?_
    have kept : last.locks = after.locks := by
      cases outcome <;> exact reached
    rintro _ rfl reply final unlocks
    have given : final.locks = ground.locks := by
      have opened : final.locks = last.locks.unlock address := unlocks.locks
      rw [opened, kept, taken, AddressLocks.unlock_lock _ isFree]
    refine ⟨unlocks.allowed_of_not_touched rfl, ?_⟩
    exact Program.Keeps.ofExcept fun end' same => by
      cases outcome <;> exact same ▸ given

/-- What a client that holds a lease is answered is its record, for the address that was asked for. -/
theorem ownLease_bind {topology : Topology} {ids : ClientIdentifiers} {rest : Lease → Task α}
    (goesOn : ∀ lease, lease.address = address → StaysWithin own (rest lease)) :
    StaysWithin own (ownLease topology ids address >>= rest) := by
  have reads : ∀ ground, (ownLease topology ids address).Keeps (bounds (own ground.locks))
      (concluding (fun lease last => last.locks = ground.locks ∧ lease.address = address)
        fun _ last => last.locks = ground.locks) ground := by
    rintro ground later rfl reply after answered
    have locks := answered.locks_of_call
    refine ⟨answered.allowed_of_not_touched rfl, ?_⟩
    rcases reply with error | found | lease
    · exact fun last same => same ▸ locks
    · exact fun last same => same ▸ locks
    · dsimp only [Program.bind]
      cases ownerOf topology ids lease with
      | none => exact fun last same => same ▸ locks
      | some owner =>
        rintro _ rfl now final told
        refine ⟨told.allowed_of_not_touched rfl, ?_⟩
        have kept : final.locks = ground.locks := (told.locks_of_isPlain rfl).trans locks
        change Program.Keeps _ _ (if lease.isOwnedBy owner && lease.isActive now then pure lease
          else fail (.leaseNotFound address)) final
        split
        · exact fun last same => ⟨same ▸ kept, answered.placed lease rfl⟩
        · exact fun last same => same ▸ kept
  intro ground
  refine (reads ground).bind fun lease last reached => ?_
  have keeps := goesOn lease reached.2 last
  rw [reached.1] at keeps
  exact keeps

section Allocation

variable {topology : Topology} {attempt : Attempt}

/-- Writing the record of an address. -/
theorem write {lease : Lease} {expected : Expectation} (placed : lease.address = address) :
    StaysWithin (onlyAt address) (Engine.call (.write lease expected)) :=
  call fun _ _ changes => (Option.some.inj changes).symm.trans placed

/-- Deleting the record of an address. -/
theorem delete : StaysWithin (onlyAt address) (Engine.call (.delete address)) :=
  call fun _ _ changes => (Option.some.inj changes).symm

/-- Reclaiming the record of an address. -/
theorem reclaim {lease : Lease} (placed : lease.address = address) :
    StaysWithin (onlyAt address) (Engine.reclaim lease) :=
  (constructive _).reclaim (write placed)

/-- Giving the client an address whose record was read. -/
theorem grant {target : Target} {current : Option Lease}
    (placed : ∀ lease, current = some lease → lease.address = target.address) (kind : GrantKind)
    (renewed : Bool) :
    StaysWithin (onlyAt target.address) (Engine.grant attempt target kind current renewed) :=
  (constructive _).grant ((constructive _).clear fun lease read => reclaim (placed lease read))
    (fun _ _ => (constructive _).record (write rfl) renewed) kind

/-- Trying the address that a reservation fixes. -/
theorem tryFixed (target : Target) : StaysWithin unlocked (Engine.tryFixed attempt target) := by
  apply holding ((constructive _).failed _)
  apply getLease_bind
  intro current placed
  split
  · exact grant placed _ _
  · exact grant placed _ _
  · exact (constructive _).failed _

/-- Trying an address that the client may use. -/
theorem tryTarget (target : Target) :
    StaysWithin unlocked (Engine.tryTarget topology attempt target) := by
  unfold Engine.tryTarget
  split
  · exact (constructive _).done _
  · apply holding ((constructive _).done _)
    apply getLease_bind
    intro current placed
    split
    · exact bind (grant placed _ _) fun _ => (constructive _).done _
    · exact bind (grant placed _ _) fun _ => (constructive _).done _
    · exact (constructive _).done _

end Allocation

section GivingUp

variable {topology : Topology} {ids : ClientIdentifiers}

/-- Releasing an address. -/
theorem release : StaysWithin unlocked (Engine.release topology ids address) := by
  have rules := constructive (onlyAt address)
  apply holding ((constructive _).failed _)
  apply ownLease_bind
  intro lease placed
  apply bind delete
  intro found
  cases found with
  | none => exact rules.failed _
  | some removed =>
    exact bind (rules.count _ _) fun _ => bind (rules.count _ _) fun _ => rules.done _

/-- Declining an address. -/
theorem decline (probation : Duration) :
    StaysWithin unlocked (Engine.decline topology ids probation address) := by
  have rules := constructive (onlyAt address)
  apply holding ((constructive _).failed _)
  apply ownLease_bind
  intro lease placed
  apply bind rules.clock
  intro now
  have declined : (declinedLease lease now probation).address = address := placed
  apply bind (write declined)
  intro outcome
  cases outcome with
  | conflict found => exact rules.failed _
  | committed stored =>
    exact bind (rules.count _ _) fun _ => bind (rules.count _ _) fun _ => rules.done _

end GivingUp

section Sweeping

/-- Reclaiming one record of a listing. -/
theorem sweepExpired (counts : SweepCounts) (lease : Lease) :
    StaysWithin unlocked (Engine.sweepExpired counts lease) := by
  have rules := constructive (onlyAt lease.address)
  apply holding ((constructive _).done _)
  apply bind (reclaim rfl)
  intro result
  cases result <;> exact rules.done _

/-- Removing one reclaimed record. -/
theorem sweepReclaimed (counts : SweepCounts) (lease : Lease) :
    StaysWithin unlocked (Engine.sweepReclaimed counts lease) := by
  have rules := constructive (onlyAt lease.address)
  apply holding ((constructive _).done _)
  apply bind (rules.getLease lease.address)
  intro current
  split
  · apply bind delete
    intro found
    cases found with
    | none => exact rules.done counts
    | some removed => exact bind (rules.count _ _) fun _ => rules.done _
  · exact rules.done _

end Sweeping

end StaysWithin

/-- Every operation gives back its locks, and asks for no changes but those of records of addresses
that are not locked. -/
theorem Operation.staysWithin (operation : Operation) (topology : Topology) :
    StaysWithin unlocked (operation.task topology) := by
  have rules := StaysWithin.constructive unlocked
  have discards {α : Type} {task : Task α} (stays : StaysWithin unlocked task) :
      StaysWithin unlocked (do let _ ← task : Task Unit) := rules.bind stays fun _ => rules.done ()
  cases operation with
  | allocate request mode limit =>
    exact discards (rules.allocate (fun _ => StaysWithin.tryFixed) fun _ => StaysWithin.tryTarget)
  | release ids address => exact discards StaysWithin.release
  | decline ids probation address => exact discards (StaysWithin.decline probation)
  | sweep settings =>
    exact rules.bind rules.clock fun now =>
      discards (rules.sweep StaysWithin.sweepExpired StaysWithin.sweepReclaimed settings now)

/-- A state shows the locks, and the records of the addresses that were not asked to be changed are
those that others have left. -/
structure Ground.Shows (course : Course) (start : Store) (actual : State × Nat) (ground : Ground) :
    Prop where
  /-- The locks are those of the state. -/
  locks : ground.locks = actual.1.locks
  /-- Records change by what others do. -/
  untouched : ∀ address, address ∉ ground.touched →
    actual.1.store.get? address = (start.after (course.others actual.2)).get? address

namespace Ground.Shows

variable {course : Course} {start : Store} {actual : State × Nat} {ground : Ground}

/-- What others do before a question does to the records what it would have done without the task. -/
theorem met (shows : ground.Shows course start actual) (address : Address)
    (spared : address ∉ ground.touched) :
    (actual.1.store.after (course actual.2).others).get? address =
      (start.after (course.others (actual.2 + 1))).get? address := by
  rw [course.others_succ, Store.after_append]
  exact Store.get?_after_congr (shows.untouched address spared) _

/-- A call is answered from what others have left, or fails, with or without taking effect. -/
theorem answer_call (shows : ground.Shows course start actual) (request : RepositoryCall) :
    ∃ after : Ground,
      Answers (.repository request) ground
        (State.answerAmid course (.repository request) actual).1 after ∧
      after.Shows course start (State.answerAmid course (.repository request) actual).2 := by
  obtain ⟨state, asked⟩ := actual
  let store := state.store.after (course asked).others
  refine ⟨⟨state.locks, ground.touched ++ request.touched?.toList⟩, ?_⟩
  have spared {address : Address} (out : address ∉ ground.touched ++ request.touched?.toList) :
      address ∉ ground.touched ∧ request.touched? ≠ some address := by
    simpa using out
  have idle : ∀ address, address ∉ ground.touched ++ request.touched?.toList →
      store.get? address = (start.after (course.others (asked + 1))).get? address :=
    fun address out => shows.met address (spared out).1
  have effective : ∀ address, address ∉ ground.touched ++ request.touched?.toList →
      (store.answer request).2.get? address =
        (start.after (course.others (asked + 1))).get? address :=
    fun address out => (Store.get?_answer_of_not_touched (spared out).2).trans (idle address out)
  cases failure : (course asked).failure with
  | none =>
    have answered : State.answerAmid course (.repository request) (state, asked) =
        (.ok (store.answer request).1,
          { state with store := (store.answer request).2 }, asked + 1) := by
      simp only [State.answerAmid, failure]
      rfl
    rw [answered]
    refine ⟨⟨shows.locks.symm, rfl, ?_⟩, rfl, effective⟩
    cases request with
    | getLease address => exact fun lease found => Store.address_of_get? found
    | _ => exact trivial
  | some failed =>
    obtain ⟨error, effect⟩ := failed
    cases effect with
    | true =>
      have answered : State.answerAmid course (.repository request) (state, asked) =
          (.error error, { state with store := (store.answer request).2 }, asked + 1) := by
        simp only [State.answerAmid, failure]
        rfl
      rw [answered]
      exact ⟨⟨shows.locks.symm, rfl, by cases request <;> trivial⟩, rfl, effective⟩
    | false =>
      have answered : State.answerAmid course (.repository request) (state, asked) =
          (.error error, { state with store }, asked + 1) := by
        simp only [State.answerAmid, failure]
        rfl
      rw [answered]
      exact ⟨⟨shows.locks.symm, rfl, by cases request <;> trivial⟩, rfl, idle⟩

/-- Questions are answered in a course of events as they are in view of what is watched. -/
theorem answer (shows : ground.Shows course start actual) (question : Ask) :
    ∃ after : Ground, Answers question ground (State.answerAmid course question actual).1 after ∧
      after.Shows course start (State.answerAmid course question actual).2 := by
  have untouched : ∀ address, address ∉ ground.touched ++ [] →
      (actual.1.store.after (course actual.2).others).get? address =
        (start.after (course.others (actual.2 + 1))).get? address :=
    fun address out => shows.met address (by simpa using out)
  cases question with
  | repository request => exact shows.answer_call request
  | lock address =>
    refine ⟨⟨(actual.1.locks.lock address).2, ground.touched ++ []⟩, ⟨?_, rfl, trivial⟩, rfl,
      untouched⟩
    rw [shows.locks]
    rfl
  | unlock address =>
    refine ⟨⟨actual.1.locks.unlock address, ground.touched ++ []⟩, ⟨?_, rfl, trivial⟩, rfl,
      untouched⟩
    rw [shows.locks]
  | _ => exact ⟨⟨actual.1.locks, ground.touched ++ []⟩, ⟨shows.locks.symm, rfl, trivial⟩, rfl,
      untouched⟩

end Ground.Shows

variable {course : Course} {state : State}

/-- A task gives back its locks in every course of events, and the records that are not its own to
change are left to others. -/
theorem StaysWithin.run {own : AddressLocks → Address → Prop} {task : Task α}
    (stays : StaysWithin own task) (course : Course) (state : State) :
    (state.runAmid course task).2.1.locks = state.locks ∧
      ∀ address, ¬own state.locks address → (state.runAmid course task).2.1.store.get? address =
        (state.store.after (course.others (state.runAmid course task).2.2)).get? address := by
  have start : Ground.Shows course state.store (state, 0) ⟨state.locks, []⟩ :=
    ⟨rfl, fun _ _ => rfl⟩
  obtain ⟨last, shows, reached, changes⟩ :=
    (stays ⟨state.locks, []⟩).run (fun question _ _ shows => shows.answer question) start
  have locks : last.locks = state.locks := by
    revert reached
    cases (task.run (State.answerAmid course) (state, 0)).1 <;> exact id
  have touched : ∀ address ∈ last.touched, own state.locks address := by
    clear shows reached locks
    induction changes with
    | refl => exact fun _ member => absurd member List.not_mem_nil
    | tail _ change ih =>
      exact fun address member => (change address member).elim (ih address) id
  exact ⟨shows.locks.symm.trans locks,
    fun address other => shows.untouched address fun member => other (touched address member)⟩

/-- Work under a lock that somebody else has is not begun. -/
theorem State.runAmid_holding_of_locked {address : Address} {error : EngineError} {work : Task α}
    (locked : state.locks.isLocked address = true) :
    (state.runAmid course (holding address (fail error) work)).1 = .error error := by
  have taken : state.locks.lock address = (false, state.locks) := by
    simp [AddressLocks.lock, locked]
  have answered : State.answerAmid course (.lock address) (state, 0) =
      (false, state.met (course 0).others, 1) := by
    simp [State.answerAmid, State.answer, State.met, taken]
  unfold State.runAmid holding
  rw [Program.run, answered]
  rfl

/-- Whatever an operation meets with, it ends with the locks that it has found. Each record of an
address that was locked is as the calls of others alone have left it: unchanged, if there were none.
A client that would give up such an address, in whatever way, is told that the race for it is lost.
-/
theorem locks_fence (operation : Operation) (topology : Topology) (course : Course)
    (state : State) :
    (state.runAmid course (operation.task topology)).2.1.locks = state.locks ∧
      ∀ address, state.locks.isLocked address = true →
        (state.runAmid course (operation.task topology)).2.1.store.get? address =
            (state.store.after (course.others
              (state.runAmid course (operation.task topology)).2.2)).get? address ∧
          (∀ ids, (state.runAmid course (release topology ids address)).1 =
            .error (.lostRace address)) ∧
          ∀ ids probation, (state.runAmid course (decline topology ids probation address)).1 =
            .error (.lostRace address) := by
  obtain ⟨locks, records⟩ := (operation.staysWithin topology).run course state
  refine ⟨locks, fun address locked => ⟨records address ?_, ?_, ?_⟩⟩
  · simp [unlocked, locked]
  · exact fun ids => State.runAmid_holding_of_locked locked
  · exact fun ids probation => State.runAmid_holding_of_locked locked

namespace Sample

/-- The client has leased the address, which somebody has locked since. -/
def fenced : State :=
  { State.initial.carryOut (leases 1 0) with locks := (AddressLocks.none.lock address).2 }

/-- The lease is over, and nothing gets in the way. -/
def quiet : Course := fun _ => ⟨around expiry, [], none⟩

end Sample

/-- A sweep passes over the record of a locked address, although the lease is over. -/
theorem locks_fence_of_locked_address :
    (Sample.fenced.runAmid Sample.quiet ((Operation.sweep ⟨1, none⟩).task .empty)).2.1.store.get?
      Sample.address = some (Sample.lease 1 0 1) := by
  have locked : Sample.fenced.locks.isLocked Sample.address = true := by decide +kernel
  obtain ⟨-, records⟩ := locks_fence (.sweep ⟨1, none⟩) .empty Sample.quiet Sample.fenced
  refine (records Sample.address locked).1.trans ?_
  have alone (asked : Nat) : Sample.quiet.others asked = [] := by
    simp [Course.others, Sample.quiet]
  rw [alone]
  decide +kernel

end Engine

end Leasehold
