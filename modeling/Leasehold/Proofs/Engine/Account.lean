import Leasehold.Proofs.Engine.LifeCycle
import Leasehold.Proofs.Engine.Race
import Leasehold.Proofs.Engine.Swept

/-!
# What is announced sooner or later

A record that is over is reclaimed sooner or later, by a sweep or by the next allocation that takes
its address, and this is announced then. The account of a chronicle lists what was announced
together with what is still to be announced of the records that are over. It does not depend on who
reclaims them and when: as far as the account goes, and the store once everything is reclaimed,
reclaiming a record makes no difference (`Alike.of_reclaimed`). A sweep that removes nothing
therefore makes none (`alike_of_sweep`), and allocations that start alike and end with the same
result end alike (`Leads.alike`).
-/
namespace Leasehold

/-- Reclaiming a record, as a change. -/
def RecordChange.reclaiming (old : Lease) : RecordChange :=
  ⟨old.address, some old, some (Attempt.reclaimed old)⟩

/-- A lease that is held is not over. -/
theorem Lease.not_needsReclaim_of_isActive {lease : Lease} {now : Instant}
    (held : lease.isActive now = true) : lease.needsReclaim now = false := by
  by_contra ended
  rw [(not_blocks_of_over now (Bool.not_eq_false _ ▸ ended)).2] at held
  exact Bool.false_ne_true held

namespace Engine

namespace Chronicle

variable {now : Instant} {chronicle left middle right : Chronicle}

/-- What was announced, and what is still to be announced of the records that are over. -/
def account (chronicle : Chronicle) (now : Instant) : List Notice :=
  chronicle.told ++
    (chronicle.store.overdue now).flatMap fun old => (RecordChange.reclaiming old).notices

/-- Two chronicles have the same account, and the same records once everything is reclaimed. -/
structure Alike (now : Instant) (left right : Chronicle) : Prop where
  /-- The records are the same once everything is reclaimed. -/
  store : left.store.swept now = right.store.swept now
  /-- The accounts list the same. -/
  account : (left.account now).Perm (right.account now)

namespace Alike

/-- A chronicle is like itself. -/
theorem refl (chronicle : Chronicle) : Alike now chronicle chronicle := ⟨rfl, .refl _⟩

/-- When one chronicle is like another, the other is like the one. -/
theorem symm (alike : Alike now left right) : Alike now right left :=
  ⟨alike.store.symm, alike.account.symm⟩

/-- Chronicles that are like a third one are like each other. -/
theorem trans (first : Alike now left middle) (second : Alike now middle right) :
    Alike now left right :=
  ⟨first.store.trans second.store, first.account.trans second.account⟩

/-- Reclaiming a record that is over makes no difference. -/
theorem of_reclaimed {old : Lease} (stored : chronicle.store.get? old.address = some old)
    (ended : old.needsReclaim now = true) :
    Alike now (chronicle.settled (Attempt.reclaimed old)) chronicle := by
  refine ⟨Store.swept_insert_reclaimed stored ended, ?_⟩
  have change : chronicle.recording (Attempt.reclaimed old) = RecordChange.reclaiming old := by
    unfold recording RecordChange.reclaiming
    change RecordChange.mk old.address (chronicle.store.get? old.address) _ = _
    rw [stored]
  have due := (Store.overdue_insert_reclaimed stored ended).flatMap_right
    fun old => (RecordChange.reclaiming old).notices
  unfold Chronicle.account settled
  rw [change, List.append_assoc]
  exact due.symm.append_left _

/-- Recording the same lease makes the same difference, where no record has to be reclaimed before.
-/
theorem of_settled {lease : Lease} (alike : Alike now left right)
    (current : lease.needsReclaim now = false) (leftClear : left.store.IsClear now lease.address)
    (rightClear : right.store.IsClear now lease.address) :
    Alike now (left.settled lease) (right.settled lease) := by
  have found : left.store.get? lease.address = right.store.get? lease.address := by
    rw [← leftClear.get?_swept, ← rightClear.get?_swept, alike.store]
  have change : left.recording lease = right.recording lease := by
    unfold recording
    rw [found]
  have rearranged {chronicle : Chronicle} (clear : chronicle.store.IsClear now lease.address) :
      ((chronicle.settled lease).account now).Perm
        ((chronicle.recording lease).notices ++ chronicle.account now) := by
    have due := (Store.overdue_insert current clear).flatMap_right
      fun old => (RecordChange.reclaiming old).notices
    refine (due.append_left (chronicle.settled lease).told).trans ?_
    unfold Chronicle.account settled
    rw [← List.append_assoc]
    exact List.perm_append_comm.append_right _
  constructor
  · change (left.store.insert lease).swept now = (right.store.insert lease).swept now
    rw [Store.swept_insert, Store.swept_insert, alike.store]
  · refine (rearranged leftClear).trans (.trans ?_ (rearranged rightClear).symm)
    rw [change]
    exact alike.account.append_left _

/-- Where nothing is over the records are the same, and the same was announced. -/
theorem eq_of_overdue_nil (alike : Alike now left right) (leftDone : left.store.overdue now = [])
    (rightDone : right.store.overdue now = []) :
    left.store = right.store ∧ left.told.Perm right.told := by
  constructor
  · rw [← left.store.swept_of_overdue_nil now leftDone, alike.store,
      right.store.swept_of_overdue_nil now rightDone]
  · have account := alike.account
    unfold Chronicle.account at account
    rw [leftDone, rightDone, List.flatMap_nil, List.append_nil, List.append_nil] at account
    exact account

end Alike

/-- Clearing an address makes no difference. -/
theorem alike_cleared (chronicle : Chronicle) (address : Address) :
    Alike now (chronicle.cleared now address) chronicle := by
  unfold cleared
  split
  · exact .refl chronicle
  · next old due =>
    obtain ⟨stored, ended⟩ := Option.filter_eq_some_iff.mp due
    rw [← Store.address_of_get? stored] at stored
    exact .of_reclaimed stored ended

/-- Once it was cleared, an address has no record that is over. -/
theorem isClear_cleared (chronicle : Chronicle) (address : Address) :
    (chronicle.cleared now address).store.IsClear now address := by
  intro old stored
  unfold cleared at stored
  split at stored
  · next spared =>
    rw [stored] at spared
    simpa [Option.filter] using spared
  · next lease due =>
    obtain ⟨found, -⟩ := Option.filter_eq_some_iff.mp due
    have reclaimed : (chronicle.store.insert (Attempt.reclaimed lease)).get? address = some old :=
      stored
    rw [Store.get?_insert_reclaimed, if_pos (Store.address_of_get? found)] at reclaimed
    rw [← Option.some.inj reclaimed]
    rfl

/-- What a sweep that removes nothing does is to reclaim records that are over. -/
theorem Step.of_sweep {settings : SweepSettings} (forGood : settings.hold = none)
    (step : Step (.sweep settings) now left right) :
    ∃ old, left.store.get? old.address = some old ∧ old.needsReclaim now = true ∧
      right = left.settled (Attempt.reclaimed old) := by
  generalize same : Operation.sweep settings = operation at step
  cases step with
  | @recorded lease change =>
    subst same
    generalize stored : left.store.get? lease.address = before at change
    cases change with
    | swept ended => exact ⟨_, stored, ended, rfl⟩
  | @removed address change =>
    subst same
    generalize left.store.get? address = before at change
    cases change with
    | removed limited =>
      rw [forGood] at limited
      exact nomatch limited

/-- A sweep that removes nothing makes no difference. -/
theorem alike_of_sweep {settings : SweepSettings} (forGood : settings.hold = none)
    (lawful : Lawful (.sweep settings) now left right) : Alike now right left := by
  induction lawful with
  | refl => exact .refl left
  | tail _ step ih =>
    obtain ⟨old, stored, ended, rfl⟩ := step.of_sweep forGood
    exact (Alike.of_reclaimed stored ended).trans ih

/-- What an allocation that is to be recorded leads to with a result. The address that is granted was
cleared, and a lease was recorded for it that is held from then on. An allocation that failed may
have cleared an address. -/
def Leads (now : Instant) (start : Chronicle) : Except EngineError Grant → Chronicle → Prop
  | .ok grant, last => grant.lease.isActive now = true ∧
      last = (start.cleared now grant.lease.address).settled grant.lease
  | .error _, last => last = start ∨ ∃ address, last = start.cleared now address

/-- Under a topology that was accepted, an allocation comes to nothing else. -/
theorem leads_of_concluding {topology : Topology} (accepted : topology.Accepted)
    {request : Request} {start last : Chronicle} {outcome : Except EngineError Grant}
    (ended : concluding (Grants topology request .commit now start) (Leaves .commit now start)
      outcome last) : Leads now start outcome last := by
  cases outcome with
  | ok grant =>
    obtain ⟨attempt, target, version, serves, lease⟩ := Grants.provided ended
    have held : grant.lease.isActive now = true := by
      rw [lease]
      exact serves.isActive_lease accepted target version
    exact ⟨held, (Grants.recorded ended rfl).last⟩
  | error error => exact Setback.eq_or_eq_prepared ended

/-- Allocations that start alike and have the same result end alike. -/
theorem Leads.alike {start start' last last' : Chronicle} {outcome : Except EngineError Grant}
    (leads : Leads now start outcome last) (leads' : Leads now start' outcome last')
    (alike : Alike now start start') : Alike now last last' := by
  cases outcome with
  | ok grant =>
    obtain ⟨held, rfl⟩ := leads
    obtain ⟨-, rfl⟩ := leads'
    have cleared : Alike now (start.cleared now grant.lease.address)
        (start'.cleared now grant.lease.address) :=
      (alike_cleared start _).trans (alike.trans (alike_cleared start' _).symm)
    exact cleared.of_settled (Lease.not_needsReclaim_of_isActive held) (isClear_cleared start _)
      (isClear_cleared start' _)
  | error error =>
    have spared {start last : Chronicle} (leads : Leads now start (.error error) last) :
        Alike now last start := by
      obtain rfl | ⟨address, rfl⟩ := leads
      · exact .refl last
      · exact alike_cleared start address
    exact (spared leads).trans (alike.trans (spared leads').symm)

/-- Clearing an address makes no record overdue. -/
theorem length_overdue_cleared_le (chronicle : Chronicle) (address : Address) :
    ((chronicle.cleared now address).store.overdue now).length ≤
      (chronicle.store.overdue now).length := by
  unfold cleared
  split
  · exact Nat.le_refl _
  · next old due =>
    obtain ⟨stored, ended⟩ := Option.filter_eq_some_iff.mp due
    rw [← Store.address_of_get? stored] at stored
    rw [(Store.overdue_insert_reclaimed stored ended).length_eq]
    exact Nat.le_succ _

/-- An allocation makes no record overdue. -/
theorem Leads.length_overdue_le {start last : Chronicle} {outcome : Except EngineError Grant}
    (leads : Leads now start outcome last) :
    (last.store.overdue now).length ≤ (start.store.overdue now).length := by
  cases outcome with
  | ok grant =>
    obtain ⟨held, rfl⟩ := leads
    have recorded := Store.overdue_insert (Lease.not_needsReclaim_of_isActive held)
      (isClear_cleared start grant.lease.address)
    exact recorded.length_eq.trans_le (length_overdue_cleared_le start _)
  | error error =>
    obtain rfl | ⟨address, rfl⟩ := leads
    · exact Nat.le_refl _
    · exact length_overdue_cleared_le start address

end Chronicle

end Engine

end Leasehold
