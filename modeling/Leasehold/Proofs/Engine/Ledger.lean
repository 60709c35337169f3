import Leasehold.Engine.State
import Leasehold.Proofs.Engine.Change
import Leasehold.Proofs.Engine.Steady

/-!
# The ledger of a task

Of the state that tasks share, a task is judged by the records alone, together with the leases that
it has handed out itself, and the repository may fail at any call without an effect.

A task that shares the store counts on others to let it grow, and to spare the leases that its
client holds; in return it lets the store grow itself. A task that has the store to itself counts on
its finding everything as it left it. Either changes records only in the ways open to its client at
an instant, which is the one that the clock shows except for a sweep.
-/
namespace Leasehold.Engine

/-- The lease that a question has handed out: a record that was written as active. -/
def handedOut? : (question : Ask) → Reply question → Option Lease
  | .repository (.write _ _), .ok (.committed stored) =>
    if stored.state = .active then some stored else none
  | _, _ => none

/-- What a task is judged by. -/
structure Ledger where
  /-- The records. -/
  store : Store
  /-- The leases that the task has handed out, the latest last. -/
  granted : List Lease

namespace Ledger

/-- How questions are answered while the clock shows an instant: calls on the repository from the
records, unless they fail without an effect. -/
def Answers (shown : Instant) (question : Ask) (before : Ledger) (reply : Reply question)
    (after : Ledger) : Prop :=
  after.granted = before.granted ++ (handedOut? question reply).toList ∧
    match question, reply with
    | .repository call, .ok answer => (answer, after.store) = before.store.answer call
    | .clock, instant => instant = shown ∧ after.store = before.store
    | _, _ => after.store = before.store

/-- What a task that shares the store counts on: the store grows, and the leases held by its client
stay. -/
structure Considerate (now : Instant) (own : Identifier → Prop) (before after : Ledger) :
    Prop where
  /-- Others hand out nothing on behalf of the task. -/
  granted : after.granted = before.granted
  /-- The store grows. -/
  grows : before.store.Grows after.store
  /-- The leases that the client holds stay. -/
  spared : ∀ {address lease owner}, before.store.get? address = some lease →
    lease.isActive now → lease.owner = some owner → own owner →
      after.store.get? address = some lease

/-- The terms of a task that shares the store with others. -/
def sharing (shown now : Instant) (own : Identifier → Prop) : Terms Ask Reply Ledger where
  answers := Answers shown
  rely := Considerate now own
  allowed before after := Moves now own before.store after.store ∧ before.store.Grows after.store
  rely_refl _ := ⟨rfl, .refl _, fun stored _ _ _ => stored⟩
  rely_trans first second :=
    ⟨second.granted.trans first.granted, first.grows.trans second.grows,
      fun stored held owned mine =>
        second.spared (first.spared stored held owned mine) held owned mine⟩

/-- The terms of a task that has the store to itself. -/
def alone (shown now : Instant) (own : Identifier → Prop) : Terms Ask Reply Ledger where
  answers := Answers shown
  rely := Eq
  allowed before after := Moves now own before.store after.store
  rely_refl _ := rfl
  rely_trans := Eq.trans

variable {shown now : Instant} {own : Identifier → Prop} {before after : Ledger}

/-- The clock tells what it shows. -/
theorem Answers.clock {instant : Instant} (answered : Answers shown .clock before instant after) :
    instant = shown := answered.2.1

/-- A question without a change leaves the ledger as it is. -/
theorem Answers.eq_of_not_isChange {question : Ask} {reply : Reply question}
    (answered : Answers shown question before reply after) (harmless : question.isChange = false) :
    after = before := by
  have store : after.store = before.store := by
    cases question with
    | repository call =>
      cases reply with
      | error error => exact answered.2
      | ok answer =>
        cases call with
        | write | delete => exact nomatch harmless
        | _ => exact (Prod.mk.inj answered.2).2
    | clock => exact answered.2.2
    | _ => exact answered.2
  have nothing : handedOut? question reply = none := by
    unfold handedOut?
    split
    · exact nomatch harmless
    · rfl
  have granted : after.granted = before.granted := by
    rw [answered.1, nothing]
    exact List.append_nil _
  cases after
  cases before
  simp_all

/-- What a task shared the store for, it does as well when it has the store to itself. -/
theorem keeps_alone {α : Type} {task : Task α} {goal : Except EngineError α → Ledger → Prop}
    {ledger : Ledger} (keeps : task.Keeps (sharing shown now own) goal ledger) :
    task.Keeps (alone shown now own) goal ledger := by
  refine keeps.mono (fun answered => answered) (fun same => ?_) (fun change => change.1) id
  cases same
  exact (sharing shown now own).rely_refl _

/-- Among others, a condition that they do not break is steady. -/
theorem steady_sharing {condition : Ledger → Prop}
    (spared : ∀ {before after}, Considerate now own before after → condition before →
      condition after) : Steady (sharing shown now own) condition where
  spared := spared
  kept harmless holds answered := by
    rw [answered.eq_of_not_isChange (Ask.isChange_of_not_isHeeded harmless)]
    exact ⟨⟨.refl now own _, .refl _⟩, holds⟩

/-- With the store to itself, every condition of a task is steady. -/
theorem steady_alone (condition : Ledger → Prop) : Steady (alone shown now own) condition where
  spared same holds := same ▸ holds
  kept harmless holds answered := by
    rw [answered.eq_of_not_isChange (Ask.isChange_of_not_isHeeded harmless)]
    exact ⟨.refl now own _, holds⟩

/-- The task has handed out these leases. -/
structure HasGranted (granted : List Lease) (ledger : Ledger) : Prop where
  /-- They are on record. -/
  same : ledger.granted = granted

/-- Others hand out nothing on behalf of the task. -/
theorem HasGranted.later {granted : List Lease} (holds : HasGranted granted before)
    (meanwhile : Considerate now own before after) : HasGranted granted after :=
  ⟨meanwhile.granted.trans holds.same⟩

/-- What a question hands out is added to what was handed out before. -/
theorem Answers.hasGranted {question : Ask} {reply : Reply question}
    (answered : Answers shown question before reply after) {granted : List Lease}
    (holds : HasGranted granted before) :
    HasGranted (granted ++ (handedOut? question reply).toList) after :=
  ⟨holds.same ▸ answered.1⟩

/-- What a task that shares the store has handed out is steady. -/
theorem hasGranted_steady (granted : List Lease) :
    Steady (sharing shown now own) (HasGranted granted) :=
  steady_sharing fun meanwhile holds => holds.later meanwhile

/-- The task has handed out these leases and has read the record of an address, which has only grown
since. -/
structure Knows (granted : List Lease) (address : Address) (record : Option Lease)
    (ledger : Ledger) : Prop where
  /-- The leases that were handed out. -/
  granted : HasGranted granted ledger
  /-- What is stored now is what was read, or has a higher version. -/
  grown : Grown record (ledger.store.get? address)
  /-- The record that was read is for the address. -/
  placed : ∀ lease, record = some lease → lease.address = address

/-- Others let the record grow. -/
theorem Knows.later {granted : List Lease} {address : Address} {record : Option Lease}
    (knows : Knows granted address record before) (meanwhile : Considerate now own before after) :
    Knows granted address record after :=
  ⟨knows.granted.later meanwhile, knows.grown.trans (meanwhile.grows address), knows.placed⟩

/-- What a task that shares the store knows of a record is steady. -/
theorem knows_steady (granted : List Lease) (address : Address) (record : Option Lease) :
    Steady (sharing shown now own) (Knows granted address record) :=
  steady_sharing fun meanwhile knows => knows.later meanwhile

/-- The task has written a record, after it had handed out these leases. An active record was handed
out with it, and it stays while it is held. -/
structure Wrote (now : Instant) (own : Identifier → Prop) (granted : List Lease) (lease : Lease)
    (ledger : Ledger) : Prop where
  /-- The leases that were handed out. -/
  granted : HasGranted (granted ++ if lease.state = .active then [lease] else []) ledger
  /-- What is stored now is what was written, or has a higher version. -/
  grown : Grown (some lease) (ledger.store.get? lease.address)
  /-- A lease that the client holds is stored. -/
  held : ∀ owner, lease.isActive now → lease.owner = some owner → own owner →
    ledger.store.get? lease.address = some lease

/-- Others let the record grow, and spare a lease that the client holds. -/
theorem Wrote.later {granted : List Lease} {lease : Lease}
    (wrote : Wrote now own granted lease before) (meanwhile : Considerate now own before after) :
    Wrote now own granted lease after :=
  ⟨wrote.granted.later meanwhile, wrote.grown.trans (meanwhile.grows lease.address),
    fun owner held owned mine =>
      meanwhile.spared (wrote.held owner held owned mine) held owned mine⟩

/-- What a task that shares the store has written is steady. -/
theorem wrote_steady (granted : List Lease) (lease : Lease) :
    Steady (sharing shown now own) (Wrote now own granted lease) :=
  steady_sharing fun meanwhile wrote => wrote.later meanwhile

/-- What was read of a record is known from then on. -/
theorem keeps_getLease {granted : List Lease} {address : Address} {ledger : Ledger}
    (holds : HasGranted granted ledger) :
    (call (.getLease address)).Keeps (sharing shown now own)
      (ending (Knows granted address) (HasGranted granted)) ledger := by
  intro later meanwhile reply after answered
  have holdsLater := holds.later meanwhile
  have same := answered.eq_of_not_isChange rfl
  subst same
  refine ⟨⟨.refl now own _, .refl _⟩, ?_⟩
  cases reply with
  | error error => exact fun last next => holdsLater.later next
  | ok record =>
    obtain rfl : record = after.store.get? address := (Prod.mk.inj answered.2).1
    have knows : Knows granted address (after.store.get? address) after :=
      ⟨holdsLater, .refl _, fun lease stored => Store.address_of_get? stored⟩
    exact fun last next => knows.later next

/-- What a write reaches: nothing in case of a conflict. -/
def written (now : Instant) (own : Identifier → Prop) (granted : List Lease) (lease : Lease) :
    WriteOutcome → Ledger → Prop
  | .conflict _, ledger => HasGranted granted ledger
  | .committed stored, ledger => stored = lease ∧ Wrote now own granted lease ledger

/-- A task that shares the store may write a record that expects what it knows, where that is one of
the changes open to its client. -/
theorem keeps_write {granted : List Lease} {lease : Lease} {read : Option Lease} {ledger : Ledger}
    (knows : Knows granted lease.address read ledger)
    (change : Change now own read (some { lease with version := recordVersion read + 1 })) :
    (call (.write lease (.ofCurrent read))).Keeps (sharing shown now own)
      (ending (written now own granted { lease with version := recordVersion read + 1 })
        (HasGranted granted)) ledger := by
  intro later meanwhile reply after answered
  change Answers shown _ later reply after at answered
  have knowsLater := knows.later meanwhile
  have idle (store : after.store = later.store)
      (nothing : handedOut? (.repository (.write lease (.ofCurrent read))) reply = none) :
      (sharing shown now own).allowed later after ∧ HasGranted granted after := by
    have holds := answered.hasGranted knowsLater.granted
    rw [nothing] at holds
    exact ⟨⟨store ▸ .refl now own _, store ▸ .refl _⟩, by simpa using holds⟩
  cases reply with
  | error error =>
    obtain ⟨allowed, holds⟩ := idle answered.2 rfl
    exact ⟨allowed, fun last next => holds.later next⟩
  | ok outcome =>
    obtain ⟨told, store⟩ := Prod.mk.inj answered.2
    change outcome = (later.store.write lease (.ofCurrent read)).1 at told
    change after.store = (later.store.write lease (.ofCurrent read)).2 at store
    cases met : Store.nextVersion? (.ofCurrent read) (later.store.get? lease.address) with
    | none =>
      rw [Store.write_of_unmet met] at told store
      subst told
      obtain ⟨allowed, holds⟩ := idle store rfl
      exact ⟨allowed, fun last next => holds.later next⟩
    | some version =>
      -- The record has grown since it was read and still has its version, so it has not changed.
      have current := knowsLater.grown.eq_of_met (Option.isSome_of_mem met)
      obtain rfl : version = recordVersion read + 1 := by
        rw [current] at met
        exact Store.nextVersion?_eq_some met
      have moves : Moves now own later.store (later.store.write lease (.ofCurrent read)).2 := by
        refine .of_write fun version again => ?_
        obtain rfl := Option.some.inj (met.symm.trans again)
        rw [current]
        exact change
      have grows := Store.grows_write later.store lease (.ofCurrent read)
      rw [Store.write_of_met met] at told store moves grows
      subst told
      have stored : after.store.get? lease.address =
          some { lease with version := recordVersion read + 1 } := by
        rw [store, Store.get?_insert, if_pos rfl]
      have wrote : Wrote now own granted { lease with version := recordVersion read + 1 }
          after := by
        refine ⟨?_, .inl stored, fun _ _ _ _ => stored⟩
        have holds := answered.hasGranted knowsLater.granted
        unfold handedOut? at holds
        by_cases active : lease.state = .active <;> simpa [active] using holds
      exact ⟨⟨store ▸ moves, store ▸ grows⟩, fun last next => ⟨rfl, wrote.later next⟩⟩

/-- A task that has the store to itself may make a call that changes records in the ways open to its
client. It is answered from the records, unless it fails. -/
theorem keeps_call_alone {request : RepositoryCall} {ledger : Ledger}
    (moves : Moves now own ledger.store (ledger.store.answer request).2) :
    (call request).Keeps (alone shown now own)
      (ending (fun answer last => (answer, last.store) = ledger.store.answer request)
        (fun _ => True)) ledger := by
  rintro later rfl reply after answered
  cases reply with
  | error error =>
    have store : after.store = ledger.store := answered.2
    have allowed : Moves now own ledger.store after.store := store ▸ .refl now own _
    exact ⟨allowed, fun _ _ => trivial⟩
  | ok answer =>
    have told : (answer, after.store) = ledger.store.answer request := answered.2
    have store : after.store = (ledger.store.answer request).2 := (Prod.mk.inj told).2
    have allowed : Moves now own ledger.store after.store := store ▸ moves
    exact ⟨allowed, fun last same => same ▸ told⟩

/-- What a state shows of itself to a task that has handed out these leases. -/
def ofState (state : State) (granted : List Lease) : Ledger := ⟨state.store, granted⟩

/-- A state answers as the terms say. -/
theorem answers_ofState (around : Surroundings) (question : Ask) (state : State)
    (granted : List Lease) :
    Answers around.now question (ofState state granted) (state.answer around question).1
      (ofState (state.answer around question).2
        (granted ++ (handedOut? question (state.answer around question).1).toList)) := by
  refine ⟨rfl, ?_⟩
  cases question with
  | clock => exact ⟨rfl, rfl⟩
  | _ => rfl

/-- The records are those of the state. -/
def Shows (state : State) (ledger : Ledger) : Prop := ledger.store = state.store

/-- A state answers as the terms say, whatever the task has handed out. -/
theorem answers_of_shows (around : Surroundings) (question : Ask) (state : State) (ledger : Ledger)
    (shows : Shows state ledger) : ∃ after,
      (alone around.now now own).answers question ledger (state.answer around question).1 after ∧
        Shows (state.answer around question).2 after := by
  obtain ⟨store, granted⟩ := ledger
  cases shows
  exact ⟨_, answers_ofState around question state granted, rfl⟩

end Ledger

end Leasehold.Engine
