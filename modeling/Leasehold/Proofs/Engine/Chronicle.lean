import Leasehold.Proofs.Engine.Journal
import Leasehold.Proofs.Engine.Trial

/-!
# The chronicle of a task

A task that has the store to itself is followed change by change: its chronicle has the records, the
changes that were made to them, and what was announced. Calls on the repository may fail without an
effect at any time. Where a call is answered, the chronicle goes on in one way only, so that it says
exactly what a task has done when it ends.

A change is settled once everything is announced that is to be announced of it. Tasks of the engine
settle every change before they make the next.
-/
namespace Leasehold.Engine

/-- What a question announces. -/
def Ask.announcement? : Ask → Option Notice
  | .report notice => if notice.isAnnouncement then some notice else none
  | _ => none

/-- What a task that has the store to itself has done. -/
structure Chronicle where
  /-- The records. -/
  store : Store
  /-- The changes of records, the latest last. -/
  changes : List RecordChange
  /-- What was announced, the latest last. -/
  told : List Notice

namespace Chronicle

/-- How questions are answered while the clock shows an instant: calls on the repository from the
records, unless they fail without an effect. Changes and announcements are written down. -/
structure Answers (now : Instant) (question : Ask) (before : Chronicle) (reply : Reply question)
    (after : Chronicle) : Prop where
  /-- The records are those that the reply comes with. -/
  store : match question, reply with
    | .repository call, .ok answer => (answer, after.store) = before.store.answer call
    | .clock, instant => instant = now ∧ after.store = before.store
    | _, _ => after.store = before.store
  /-- The change is written down. -/
  changes : after.changes =
    before.changes ++ (question.change? before.store after.store).toList
  /-- What is announced is written down. -/
  told : after.told = before.told ++ question.announcement?.toList

/-- The terms of a task that has the store to itself and is followed change by change. -/
def observed (now : Instant) : Terms Ask Reply Chronicle where
  answers := Answers now
  rely := Eq
  allowed _ _ := True
  rely_refl _ := rfl
  rely_trans := Eq.trans

variable {now : Instant} {chronicle : Chronicle}

/-- A question leaves the chronicle as it is, unless it asks for a change or announces one. -/
theorem Answers.eq_of_quiet {question : Ask} {before after : Chronicle} {reply : Reply question}
    (answered : Answers now question before reply after)
    (quiet : question.isHeeded Notice.isAnnouncement = false) : after = before := by
  have store : after.store = before.store := by
    have told := answered.store
    cases question with
    | repository call =>
      cases reply with
      | error error => exact told
      | ok answer =>
        cases call with
        | write | delete => exact nomatch quiet
        | _ => exact (Prod.mk.inj told).2
    | clock => exact told.2
    | _ => exact told
  have nothing : question.change? before.store after.store = none := by
    rw [store]
    exact question.change?_self before.store
  have silent : question.announcement? = none := by
    cases question with
    | report notice => exact if_neg (Bool.not_eq_true _ ▸ quiet)
    | _ => rfl
  have changes := answered.changes
  have told := answered.told
  rw [nothing, Option.toList_none, List.append_nil] at changes
  rw [silent, Option.toList_none, List.append_nil] at told
  cases after
  cases before
  simp_all

/-- Every condition of a task is calm. -/
theorem calm (condition : Chronicle → Prop) : Calm (observed now) condition where
  spared same holds := same ▸ holds
  kept quiet holds answered := by
    rw [answered.eq_of_quiet quiet]
    exact ⟨trivial, holds⟩

/-- The clock tells what it shows. -/
theorem clock_eq {before after : Chronicle} {instant : Instant}
    (answered : (observed now).answers .clock before instant after) : instant = now :=
  answered.store.1

/-- The chronicle after a call that is answered. -/
def afterCall (chronicle : Chronicle) (call : RepositoryCall) : Chronicle :=
  let store := (chronicle.store.answer call).2
  { chronicle with
    store
    changes := chronicle.changes ++
      ((Ask.repository call).change? chronicle.store store).toList }

/-- The chronicle after something was announced. -/
def announced (chronicle : Chronicle) (notices : List Notice) : Chronicle :=
  { chronicle with told := chronicle.told ++ notices }

/-- Recording a lease, as a change. -/
def recording (chronicle : Chronicle) (lease : Lease) : RecordChange :=
  ⟨lease.address, chronicle.store.get? lease.address, some lease⟩

/-- Removing a record, as a change. -/
def removing (chronicle : Chronicle) (address : Address) : RecordChange :=
  ⟨address, chronicle.store.get? address, none⟩

/-- The chronicle after a lease was recorded and the change was settled. -/
def settled (chronicle : Chronicle) (lease : Lease) : Chronicle where
  store := chronicle.store.insert lease
  changes := chronicle.changes ++ [chronicle.recording lease]
  told := chronicle.told ++ (chronicle.recording lease).notices

/-- The chronicle after a record was removed and the change was settled. -/
def dismissed (chronicle : Chronicle) (address : Address) : Chronicle where
  store := chronicle.store.erase address
  changes := chronicle.changes ++ [chronicle.removing address]
  told := chronicle.told ++ (chronicle.removing address).notices

/-- Announcing some notices and then others is announcing them in a row. -/
@[simp]
theorem announced_announced (first second : List Notice) :
    (chronicle.announced first).announced second = chronicle.announced (first ++ second) := by
  simp [announced]

/-- A call that changes no record leaves the chronicle as it is. -/
theorem afterCall_of_read {call : RepositoryCall}
    (reads : (Ask.repository call).isChange = false) : chronicle.afterCall call = chronicle := by
  have same : (chronicle.store.answer call).2 = chronicle.store := by
    cases call with
    | write | delete => exact nomatch reads
    | _ => rfl
  unfold afterCall
  rw [same]
  simp [Ask.change?_self]

/-- A write whose expectation is met records the lease. Once this is announced the change is
settled. -/
theorem announced_afterCall_write {lease : Lease} {expected : Expectation} {version : Nat}
    (met : Store.nextVersion? expected (chronicle.store.get? lease.address) = some version) :
    (chronicle.afterCall (.write lease expected)).announced
      (chronicle.recording { lease with version }).notices =
        chronicle.settled { lease with version } := by
  have wrote : chronicle.store.answer (.write lease expected) =
      (.committed { lease with version }, chronicle.store.insert { lease with version }) :=
    Store.write_of_met met
  have different : chronicle.store.get? lease.address ≠ some { lease with version } := by
    intro same
    have counted := Store.nextVersion?_eq_some met
    rw [same] at counted
    exact Nat.succ_ne_self _ counted.symm
  unfold afterCall announced settled
  rw [wrote]
  simp [Ask.change?, RepositoryCall.address?, RecordChange.between?, Store.get?_insert, different,
    recording]

/-- A deletion removes the record that there is. Once this is announced the change is settled. -/
theorem announced_afterCall_delete {address : Address} {lease : Lease}
    (stored : chronicle.store.get? address = some lease) :
    (chronicle.afterCall (.delete address)).announced (chronicle.removing address).notices =
      chronicle.dismissed address := by
  have deleted : chronicle.store.answer (.delete address) =
      (some lease, chronicle.store.erase address) := by
    simp [Store.answer, Store.delete, stored]
  unfold afterCall announced dismissed
  rw [deleted]
  simp [Ask.change?, RepositoryCall.address?, RecordChange.between?, Store.get?_erase, stored,
    removing]

section Rules

variable {α β : Type} {good : α → Chronicle → Prop} {bad : EngineError → Chronicle → Prop}

/-- A task may announce something first. -/
theorem report_bind {notice : Notice} (announces : notice.isAnnouncement = true)
    {rest : Unit → Task α}
    (goesOn : (rest ()).Keeps (observed now) (concluding good bad)
      (chronicle.announced [notice])) :
    (report notice >>= rest).Keeps (observed now) (concluding good bad) chronicle := by
  rintro later rfl reply after answered
  have same : after = chronicle.announced [notice] := by
    obtain ⟨store, changes, told⟩ := answered
    change after.store = chronicle.store at store
    simp only [Ask.change?, Option.toList_none, List.append_nil] at changes
    simp only [Ask.announcement?, announces, if_true, Option.toList_some] at told
    cases after
    simp_all [announced]
  rw [same]
  exact ⟨trivial, goesOn⟩

/-- A task may call the repository first. -/
theorem call_bind {request : RepositoryCall} {rest : request.Answer → Task α}
    (failing : ∀ error, bad (.ofRepository error) chronicle)
    (goesOn : (rest (chronicle.store.answer request).1).Keeps (observed now)
      (concluding good bad) (chronicle.afterCall request)) :
    (call request >>= rest).Keeps (observed now) (concluding good bad) chronicle := by
  rintro later rfl reply after answered
  refine ⟨trivial, ?_⟩
  obtain ⟨store, changes, told⟩ := answered
  change after.told = chronicle.told ++ [] at told
  rw [List.append_nil] at told
  cases reply with
  | error error =>
    have kept : after.store = chronicle.store := store
    rw [kept, Ask.change?_self, Option.toList_none, List.append_nil] at changes
    have same : after = chronicle := by
      cases after
      cases chronicle
      simp_all
    rw [same]
    rintro later rfl
    exact failing error
  | ok answer =>
    have replied : (answer, after.store) = chronicle.store.answer request := store
    have same : after = chronicle.afterCall request := by
      unfold afterCall
      rw [← replied]
      cases after
      simp_all
    have told : answer = (chronicle.store.answer request).1 := congrArg Prod.fst replied
    rw [same, told]
    exact goesOn

/-- A task may read from the repository first. -/
theorem read_bind {request : RepositoryCall} {rest : request.Answer → Task α}
    (reads : (Ask.repository request).isChange = false)
    (failing : ∀ error, bad (.ofRepository error) chronicle)
    (goesOn : (rest (chronicle.store.answer request).1).Keeps (observed now)
      (concluding good bad) chronicle) :
    (call request >>= rest).Keeps (observed now) (concluding good bad) chronicle := by
  apply call_bind failing
  rw [afterCall_of_read reads]
  exact goesOn

/-- A task may read a record first. -/
theorem getLease_bind {address : Address} {rest : Option Lease → Task α}
    (failing : ∀ error, bad (.ofRepository error) chronicle)
    (goesOn : (rest (chronicle.store.get? address)).Keeps (observed now) (concluding good bad)
      chronicle) :
    (call (.getLease address) >>= rest).Keeps (observed now) (concluding good bad) chronicle :=
  read_bind rfl failing goesOn

/-- A task may write a record first, where it knows what is stored. -/
theorem write_bind {lease : Lease} {expected : Expectation} {rest : WriteOutcome → Task α}
    {version : Nat}
    (met : Store.nextVersion? expected (chronicle.store.get? lease.address) = some version)
    (failing : ∀ error, bad (.ofRepository error) chronicle)
    (goesOn : (rest (.committed { lease with version })).Keeps (observed now)
      (concluding good bad) (chronicle.afterCall (.write lease expected))) :
    (call (.write lease expected) >>= rest).Keeps (observed now) (concluding good bad)
      chronicle := by
  apply call_bind failing
  have answered : (chronicle.store.answer (.write lease expected)).1 =
      .committed { lease with version } := congrArg Prod.fst (Store.write_of_met met)
  rw [answered]
  exact goesOn

/-- A write whose expectation is not met does nothing. -/
theorem conflict_bind {lease : Lease} {expected : Expectation} {rest : WriteOutcome → Task α}
    (unmet : Store.nextVersion? expected (chronicle.store.get? lease.address) = none)
    (failing : ∀ error, bad (.ofRepository error) chronicle)
    (goesOn : (rest (.conflict (chronicle.store.get? lease.address))).Keeps (observed now)
      (concluding good bad) chronicle) :
    (call (.write lease expected) >>= rest).Keeps (observed now) (concluding good bad)
      chronicle := by
  have answered : chronicle.store.answer (.write lease expected) =
      (.conflict (chronicle.store.get? lease.address), chronicle.store) :=
    Store.write_of_unmet unmet
  apply call_bind failing
  have same : chronicle.afterCall (.write lease expected) = chronicle := by
    unfold afterCall
    rw [answered]
    simp [Ask.change?_self]
  rw [same, answered]
  exact goesOn

/-- A task may delete a record first, where it knows what is stored. -/
theorem delete_bind {address : Address} {lease : Lease} {rest : Option Lease → Task α}
    (stored : chronicle.store.get? address = some lease)
    (failing : ∀ error, bad (.ofRepository error) chronicle)
    (goesOn : (rest (some lease)).Keeps (observed now) (concluding good bad)
      (chronicle.afterCall (.delete address))) :
    (call (.delete address) >>= rest).Keeps (observed now) (concluding good bad) chronicle := by
  apply call_bind failing
  have answered : (chronicle.store.answer (.delete address)).1 = some lease :=
    (chronicle.store.delete_fst address).trans stored
  rw [answered]
  exact goesOn

end Rules

/-- A record that is stored is reclaimed, and the change is settled, unless the repository fails
before it. -/
theorem keeps_reclaim {lease : Lease} {good : Option Lease → Chronicle → Prop}
    {bad : EngineError → Chronicle → Prop}
    (stored : chronicle.store.get? lease.address = some lease)
    (failing : ∀ error, bad (.ofRepository error) chronicle)
    (reached : good (some (Attempt.reclaimed lease))
      (chronicle.settled (Attempt.reclaimed lease))) :
    (reclaim lease).Keeps (observed now) (concluding good bad) chronicle := by
  have met : Store.nextVersion? (.version lease.version)
      (chronicle.store.get? { lease with state := .reclaimed }.address) =
        some (lease.version + 1) := by
    simp [stored, Store.nextVersion?]
  have notices : (chronicle.recording (Attempt.reclaimed lease)).notices =
      (if wasAssigned lease then [.count (.assigned lease.subnet) (-1)] else []) ++
        [.count .reclaimed 1, .reclaimed (Attempt.reclaimed lease)] := by
    rw [RecordChange.notices_of_reclaimed rfl rfl]
    simp [RecordChange.tookAssigned, recording, Attempt.reclaimed, stored]
  have settled : (chronicle.afterCall
      (.write { lease with state := .reclaimed } (.version lease.version))).announced
        (chronicle.recording (Attempt.reclaimed lease)).notices =
          chronicle.settled (Attempt.reclaimed lease) := announced_afterCall_write met
  rw [← settled, notices] at reached
  refine write_bind met failing ?_
  dsimp only
  split
  · next counts =>
    rw [if_pos counts] at reached
    refine report_bind rfl (report_bind rfl (report_bind rfl ?_))
    rintro later rfl
    rw [announced_announced, announced_announced]
    exact reached
  · next spared =>
    rw [if_neg spared] at reached
    refine report_bind rfl (report_bind rfl ?_)
    rintro later rfl
    rw [announced_announced]
    exact reached

/-- What an answer makes known is announced from then on. -/
theorem announcements_answer (around : Surroundings) (question : Ask) (state : State) :
    (state.answer around question).2.announcements =
      state.announcements ++ question.announcement?.toList := by
  cases question with
  | report notice =>
    change ((notice :: state.log).filter Notice.isAnnouncement).reverse = _
    cases announces : notice.isAnnouncement <;>
      simp [State.announcements, Ask.announcement?, announces]
  | review request lease mode =>
    exact (List.append_nil _).symm
  | _ => exact (List.append_nil _).symm

/-- What is reached in the chronicle of a task is reached by its run, with the changes of its
journal. -/
theorem reached_of_keeps {α : Type} {around : Surroundings} {task : Task α}
    {goal : Except EngineError α → Chronicle → Prop} {state : State}
    {changes : List RecordChange}
    (keeps : task.Keeps (observed around.now) goal ⟨state.store, changes, state.announcements⟩) :
    goal (state.run around task).1
      ⟨(state.run around task).2.store, changes ++ state.journal around task,
        (state.run around task).2.announcements⟩ := by
  induction task generalizing state changes with
  | done result =>
    change goal _ ⟨_, changes ++ [], _⟩
    rw [List.append_nil]
    exact keeps _ rfl
  | fail error =>
    change goal _ ⟨_, changes ++ [], _⟩
    rw [List.append_nil]
    exact keeps _ rfl
  | ask question next ih =>
    let after := (state.answer around question).2
    let made := (question.change? state.store after.store).toList
    have answered : Answers around.now question ⟨state.store, changes, state.announcements⟩
        (state.answer around question).1 ⟨after.store, changes ++ made, after.announcements⟩ := by
      refine ⟨?_, rfl, announcements_answer around question state⟩
      cases question with
      | clock => exact ⟨rfl, rfl⟩
      | _ => rfl
    have rest := ih _ (keeps _ rfl _ _ answered).2
    rw [List.append_assoc] at rest
    exact rest

/-- What is reached however a task ends is reached by its run. -/
theorem reached_of_keeps_atEnd {α : Type} {around : Surroundings} {task : Task α}
    {good : Chronicle → Prop} {state : State} {changes : List RecordChange}
    (keeps : task.Keeps (observed around.now) (atEnd good)
      ⟨state.store, changes, state.announcements⟩) :
    good ⟨(state.run around task).2.store, changes ++ state.journal around task,
      (state.run around task).2.announcements⟩ := by
  have reached := reached_of_keeps keeps
  cases ended : (state.run around task).1 with
  | ok result => rw [ended] at reached; exact reached
  | error error => rw [ended] at reached; exact reached

end Chronicle

end Leasehold.Engine
