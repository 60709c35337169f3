import Mathlib.Algebra.BigOperators.Group.List.Basic
import Mathlib.Algebra.Ring.Int.Defs
import Leasehold.Proofs.Engine.Annals
import Leasehold.Proofs.Store.Scan

/-!
# The gauge of leases that are handed out

A gauge for each subnet is raised when a lease is handed out and lowered when it is taken back. The
records that are handed out are counted alongside: what a change does to their number follows from
the records before and after it, and so does what is announced of the change. The two agree except
where the client that holds a lease extends it in another subnet. The record then counts for the
other subnet, and nothing is announced to the gauges, so that from then on each of them is off by one
(`assigned_gauge_spec`, `gauge_off_by_transfer`).
-/
namespace Leasehold

open Engine (Ask Reply State Surroundings Task Event Operation LifeCycle wasAssigned)

namespace Store

/-- How many records a condition holds of. -/
def count (store : Store) (condition : Lease → Bool) : Nat := store.leases.countP condition

/-- Without the record of an address there is one record less, if there was one. -/
theorem count_erase (store : Store) (address : Address) (condition : Lease → Bool) :
    (store.erase address).count condition + ((store.get? address).any condition).toNat =
      store.count condition := by
  cases stored : store.get? address with
  | none =>
    have same : store.erase address = store := ext_get? fun other => by
      rw [get?_erase]
      split
      · next here => rw [← here, stored]
      · rfl
    rw [same]
    rfl
  | some lease =>
    have placed : lease.address = address := address_of_get? stored
    have absent : lease ∉ (store.erase address).leases := by
      rw [mem_leases_iff, get?_erase, if_pos placed.symm]
      exact nofun
    have permuted : store.leases.Perm (lease :: (store.erase address).leases) := by
      refine (List.perm_ext_iff_of_nodup store.nodup_leases
        (List.nodup_cons.mpr ⟨absent, nodup_leases _⟩)).mpr fun other => ?_
      rw [List.mem_cons, mem_leases_iff, mem_leases_iff, get?_erase]
      split
      · next here => rw [← here, stored]; simp [eq_comm]
      · next elsewhere =>
        have different : other ≠ lease := fun same => elsewhere (by rw [same, placed])
        simp [different]
    unfold count
    rw [permuted.countP_eq, List.countP_cons, Option.any_some]
    cases condition lease <;> rfl

/-- Two stores that differ in the record of one address count alike apart from it. -/
theorem count_of_others {before after : Store} {address : Address}
    (others : ∀ other, other ≠ address → after.get? other = before.get? other)
    (condition : Lease → Bool) :
    after.count condition + ((before.get? address).any condition).toNat =
      before.count condition + ((after.get? address).any condition).toNat := by
  have same : after.erase address = before.erase address := ext_get? fun other => by
    rw [get?_erase, get?_erase]
    split
    · rfl
    · next different => exact others other (Ne.symm different)
  have countedBefore := before.count_erase address condition
  have countedAfter := after.count_erase address condition
  rw [same] at countedAfter
  omega

end Store

/-- By how much a change moves the number of records that a condition holds of. -/
def RecordChange.difference (change : RecordChange) (condition : Lease → Bool) : Int :=
  (change.after.any condition).toNat - (change.before.any condition).toNat

/-- A call changes the number of records that a condition holds of by the change it makes. -/
theorem Store.count_answer (store : Store) (call : RepositoryCall) (condition : Lease → Bool) :
    ((store.answer call).2.count condition : Int) = store.count condition +
      ((((Ask.repository call).change? store (store.answer call).2).toList.map
        (·.difference condition)).sum) := by
  cases about : call.address? with
  | none =>
    have same : (store.answer call).2 = store :=
      ext_get? fun address => get?_answer_of_other (by simp [about])
    rw [same, Ask.change?_self]
    simp
  | some address =>
    have others (other : Address) (different : other ≠ address) :
        (store.answer call).2.get? other = store.get? other :=
      get?_answer_of_other (by simpa [about] using different.symm)
    have counted := count_of_others others condition
    simp only [Ask.change?, about, Option.bind_some, RecordChange.between?]
    split
    · next same =>
      rw [same] at counted
      simp
      omega
    · simp [RecordChange.difference]
      omega

namespace Engine.State

/-- A question changes the number of records that a condition holds of by the change it makes. -/
theorem count_answer (around : Surroundings) (question : Ask) (state : State)
    (condition : Lease → Bool) :
    ((state.answer around question).2.store.count condition : Int) = state.store.count condition +
      (((question.change? state.store (state.answer around question).2.store).toList.map
        (·.difference condition)).sum) := by
  cases question with
  | repository call => exact state.store.count_answer call condition
  | _ => exact (Int.add_zero _).symm

/-- The number of records that a condition holds of, after a task. -/
theorem count_journal {α : Type} (around : Surroundings) (task : Task α) (state : State)
    (condition : Lease → Bool) :
    ((state.run around task).2.store.count condition : Int) = state.store.count condition +
      ((state.journal around task).map (·.difference condition)).sum := by
  induction task generalizing state with
  | done result => exact (Int.add_zero _).symm
  | fail error => exact (Int.add_zero _).symm
  | ask question next ih =>
    have first := state.count_answer around question condition
    refine (ih (state.answer around question).1 (state.answer around question).2).trans ?_
    rw [first, Int.add_assoc, ← List.sum_append, ← List.map_append]
    rfl

/-- The number of records that a condition holds of, after a history. -/
theorem count_annals (state : State) (history : List Event) (condition : Lease → Bool) :
    ((state.play history).store.count condition : Int) = state.store.count condition +
      ((state.annals history).map (·.2.difference condition)).sum := by
  induction history generalizing state with
  | nil => exact (Int.add_zero _).symm
  | cons event rest ih =>
    have first := state.count_journal event.around
      (event.operation.task event.around.topology) condition
    refine (ih (state.carryOut event)).trans ?_
    unfold carryOut
    rw [first, annals, List.map_append, List.map_map, List.sum_append, Int.add_assoc]
    rfl

end Engine.State

/-- The lease was handed out in the subnet, and not taken back. -/
def Lease.isAssigned (lease : Lease) (subnet : SubnetId) : Bool :=
  decide (lease.subnet = subnet) && wasAssigned lease

/-- A record that is not handed out counts for no subnet. -/
theorem Engine.any_isAssigned_of_away {record : Option Lease}
    (away : record.any wasAssigned = false) (subnet : SubnetId) :
    record.any (·.isAssigned subnet) = false := by
  cases record with
  | none => rfl
  | some lease =>
    have away : wasAssigned lease = false := away
    simp [Lease.isAssigned, away]

namespace RecordChange

/-- By how much what is announced of a change moves the gauge of a subnet. -/
def gauge (change : RecordChange) (subnet : SubnetId) : Int :=
  (change.notices.map (Notice.change (.assigned subnet))).sum

/-- By how much a change moves the number of leases of a subnet while the lease stays handed out. -/
def transfer (change : RecordChange) (subnet : SubnetId) : Int :=
  if change.tookAssigned ∧ change.after.any wasAssigned then
    change.difference (·.isAssigned subnet)
  else 0

variable {change : RecordChange} {old lease : Lease}

/-- When a lease is handed out, its gauge goes up unless the record was handed out before. -/
theorem gauge_add_transfer_of_active (stored : change.after = some lease)
    (active : lease.state = .active) (subnet : SubnetId) :
    change.gauge subnet + change.transfer subnet = change.difference (·.isAssigned subnet) := by
  have assigned : wasAssigned lease = true := by simp [wasAssigned, active]
  unfold gauge transfer
  rw [notices_of_active stored active]
  cases took : change.tookAssigned with
  | true => simp [Notice.change, stored, assigned]
  | false =>
    have absent := Engine.any_isAssigned_of_away took subnet
    unfold difference
    rw [absent, stored]
    by_cases here : lease.subnet = subnet <;>
      simp [Notice.change, Lease.isAssigned, assigned, here]

/-- When a record is taken back, the gauge of its subnet goes down if it was handed out. -/
theorem gauge_add_transfer_of_takenBack (stored : change.before = some old)
    (away : change.after.any wasAssigned = false) {subnet : SubnetId}
    (announced : change.gauge subnet =
      if wasAssigned old ∧ old.subnet = subnet then -1 else 0) :
    change.gauge subnet + change.transfer subnet = change.difference (·.isAssigned subnet) := by
  have absent := Engine.any_isAssigned_of_away away subnet
  unfold transfer difference
  rw [announced, absent, away, stored]
  cases assigned : wasAssigned old <;> by_cases here : old.subnet = subnet <;>
    simp [Lease.isAssigned, assigned, here]

/-- Reclaiming a record is announced to the gauge of its subnet if it was handed out. -/
theorem gauge_of_reclaimed (stored : change.before = some old)
    (reclaimed : change.after = some (Attempt.reclaimed old)) (subnet : SubnetId) :
    change.gauge subnet = if wasAssigned old ∧ old.subnet = subnet then -1 else 0 := by
  have took : change.tookAssigned = wasAssigned old := by
    unfold tookAssigned
    rw [stored]
    rfl
  unfold gauge
  rw [notices_of_reclaimed reclaimed rfl, took]
  cases wasAssigned old <;> by_cases here : old.subnet = subnet <;>
    simp [Notice.change, Attempt.reclaimed, here]

end RecordChange

namespace Engine

/-- An allocation extends a lease that its client holds, and takes it to another subnet. -/
structure Event.Transfers (event : Event) (change : RecordChange) (old lease : Lease) : Prop where
  /-- A client asks for an address, and both leases are recorded against it. -/
  client : ∃ request limit owner, event.operation = .allocate request .commit limit ∧
    request.identifiers.Owns owner ∧ old.owner = some owner ∧ lease.owner = some owner
  /-- The lease before. -/
  before : change.before = some old
  /-- The lease after. -/
  after : change.after = some lease
  /-- The client held it. -/
  held : old.isActive event.around.now
  /-- The client holds it. -/
  active : lease.state = .active
  /-- The subnets differ. -/
  elsewhere : old.subnet ≠ lease.subnet

variable {now : Instant} {operation : Operation} {change : RecordChange}

/-- A lease that is held was handed out. -/
theorem wasAssigned_of_isActive {lease : Lease} (held : lease.isActive now) :
    wasAssigned lease = true := by
  have active : lease.state = .active := by simpa using ((Bool.and_eq_true _ _).mp held).1
  simp [wasAssigned, active]

/-- A gauge is moved by as much as the number of leases of its subnet, unless the lease stays handed
out. -/
theorem LifeCycle.gauge_add_transfer
    (lawful : LifeCycle now operation change.before change.after) (subnet : SubnetId) :
    change.gauge subnet + change.transfer subnet = change.difference (·.isAssigned subnet) := by
  obtain ⟨address, before, after⟩ := change
  cases lawful with
  | leased mine owned active => exact RecordChange.gauge_add_transfer_of_active rfl active subnet
  | leasedAgain free mine owned active =>
    exact RecordChange.gauge_add_transfer_of_active rfl active subnet
  | renewed held ownedBefore mine owned active =>
    exact RecordChange.gauge_add_transfer_of_active rfl active subnet
  | reclaimed =>
    exact RecordChange.gauge_add_transfer_of_takenBack rfl rfl
      (RecordChange.gauge_of_reclaimed rfl rfl subnet)
  | swept =>
    exact RecordChange.gauge_add_transfer_of_takenBack rfl rfl
      (RecordChange.gauge_of_reclaimed rfl rfl subnet)
  | declined held =>
    refine RecordChange.gauge_add_transfer_of_takenBack rfl rfl ?_
    unfold RecordChange.gauge
    rw [RecordChange.notices_of_declined rfl rfl]
    simp [Notice.change, declinedLease, wasAssigned_of_isActive held]
  | @released ids owner old held =>
    refine RecordChange.gauge_add_transfer_of_takenBack rfl rfl ?_
    unfold RecordChange.gauge
    rw [RecordChange.notices_of_removed rfl rfl]
    simp [Notice.change, wasAssigned_of_isActive held]
  | @removed settings hold old limited ended =>
    refine RecordChange.gauge_add_transfer_of_takenBack rfl rfl ?_
    unfold RecordChange.gauge
    rw [RecordChange.notices_of_removed rfl rfl]
    simp [Notice.change, wasAssigned, ended]

/-- A lease stays handed out only where its client extends it, and it counts for another subnet only
if that takes it there. -/
theorem LifeCycle.transfer_eq_zero_or {event : Event}
    (lawful : LifeCycle event.around.now event.operation change.before change.after)
    (subnet : SubnetId) :
    change.transfer subnet = 0 ∨ ∃ old lease, event.Transfers change old lease := by
  obtain ⟨around, operation⟩ := event
  obtain ⟨address, before, after⟩ := change
  cases lawful with
  | leased | removed _ ended | leasedAgain ended =>
    exact .inl (if_neg (by simp [RecordChange.tookAssigned, wasAssigned, *]))
  | reclaimed | swept | declined | released =>
    exact .inl (if_neg fun stays => Bool.false_ne_true stays.2)
  | @renewed request limit owner old lease held ownedBefore mine owned active =>
    by_cases same : old.subnet = lease.subnet
    · left
      have assigned : wasAssigned lease = true := by simp [wasAssigned, active]
      unfold RecordChange.transfer RecordChange.difference
      simp [Lease.isAssigned, same, assigned, wasAssigned_of_isActive held]
    · exact .inr ⟨old, lease, ⟨request, limit, owner, rfl, mine, ownedBefore, owned⟩, rfl, rfl,
        held, active, same⟩

/-- What is recorded was not found to be over by whoever recorded it. -/
theorem LifeCycle.ne_expiredReclaimable {before : Option Lease} {lease : Lease}
    (lawful : LifeCycle now operation before (some lease)) : lease.state ≠ .expiredReclaimable := by
  cases lawful with
  | leased _ _ active | leasedAgain _ _ _ active | renewed _ _ _ _ active => simp [active]
  | reclaimed | swept | declined => exact nofun

end Engine

/-- What every change leaves of a record holds of the records that the changes lead to. -/
theorem Replays.forall {records last : Address → Option Lease} {changes : List RecordChange}
    {motive : Lease → Prop} (replays : Replays records changes last)
    (first : ∀ address lease, records address = some lease → motive lease)
    (leaves : ∀ change ∈ changes, ∀ lease, change.after = some lease → motive lease) :
    ∀ address lease, last address = some lease → motive lease := by
  induction changes generalizing records with
  | nil =>
    obtain rfl : last = records := replays
    exact first
  | cons change rest ih =>
    refine ih replays.2 (fun address lease stored => ?_) fun other member =>
      leaves other (List.mem_cons_of_mem change member)
    by_cases here : address = change.address
    · rw [here, Function.update_self] at stored
      exact leaves change List.mem_cons_self lease stored
    · rw [Function.update_of_ne here] at stored
      exact first address lease stored

namespace Engine.State

/-- The gauge of a subnet: all that was announced to it, added up. -/
def gauge (state : State) (subnet : SubnetId) : Int :=
  (state.log.map (Notice.change (.assigned subnet))).sum

/-- The totals of what was reported list the gauge of every subnet that does not show zero. -/
theorem mem_totals_iff (state : State) (subnet : SubnetId) (amount : Int) :
    (.assigned subnet, amount) ∈ Notice.totals state.log.reverse ↔
      amount = state.gauge subnet ∧ amount ≠ 0 := by
  have added : state.log.reverse.foldl
      (fun sum notice => sum + notice.change (.assigned subnet)) 0 = state.gauge subnet := by
    unfold gauge
    rw [← List.sum_reverse, ← List.map_reverse, List.sum_eq_foldl, List.foldl_map]
  have silent (absent : .assigned subnet ∉ state.log.reverse.filterMap Notice.metric?) :
      state.gauge subnet = 0 := by
    refine List.sum_eq_zero fun amount member => ?_
    obtain ⟨notice, inside, rfl⟩ := List.mem_map.mp member
    have other : notice.metric? ≠ some (.assigned subnet) := fun same =>
      absent (List.mem_filterMap.mpr ⟨notice, List.mem_reverse.mpr inside, same⟩)
    cases notice with
    | count metric amount => exact if_neg fun same => other (congrArg some same)
    | _ => rfl
  unfold Notice.totals
  rw [List.mem_filter, List.mem_map]
  constructor
  · rintro ⟨⟨metric, -, same⟩, some⟩
    obtain ⟨rfl, rfl⟩ := Prod.mk.inj same
    exact ⟨added, by simpa using some⟩
  · rintro ⟨rfl, some⟩
    refine ⟨⟨.assigned subnet, ?_, by rw [added]⟩, by simpa using some⟩
    rw [mem_firstOccurrences]
    by_contra absent
    exact some (silent absent)

/-- What is announced is all that counts for a gauge. -/
theorem gauge_eq (state : State) (subnet : SubnetId) :
    state.gauge subnet =
      (state.announcements.map (Notice.change (.assigned subnet))).sum := by
  unfold gauge announcements
  rw [List.map_reverse, List.sum_reverse]
  induction state.log with
  | nil => rfl
  | cons notice rest ih =>
    rw [List.map_cons, List.sum_cons, ih]
    cases announced : notice.isAnnouncement with
    | true => rw [List.filter_cons_of_pos announced, List.map_cons, List.sum_cons]
    | false =>
      rw [List.filter_cons_of_neg (by simp [announced])]
      have silent : notice.change (.assigned subnet) = 0 := by
        cases notice with
        | count metric amount =>
          cases metric with
          | outcome => rfl
          | _ => exact nomatch announced
        | _ => rfl
      rw [silent, Int.zero_add]

/-- The changes of a history move the gauges one after another. -/
theorem gauge_play (state : State) (history : List Event) (subnet : SubnetId) :
    (state.play history).gauge subnet =
      state.gauge subnet + ((state.annals history).map (·.2.gauge subnet)).sum := by
  rw [gauge_eq, gauge_eq, announcements_play, List.map_append, List.sum_append]
  congr 1
  induction state.annals history with
  | nil => rfl
  | cons entry rest ih =>
    rw [List.flatMap_cons, List.map_append, List.sum_append, ih]
    rfl

/-- A record in a store that can be reached is handed out when it is active. -/
theorem wasAssigned_eq (history : List Event) {lease : Lease}
    (stored : (initial.play history).store.get? lease.address = some lease) :
    wasAssigned lease = (lease.state == .active) := by
  have known : lease.state ≠ .expiredReclaimable := by
    refine Replays.forall (motive := fun lease => lease.state ≠ .expiredReclaimable)
      (initial.replays_annals history) (fun _ _ found => nomatch found)
      (fun change member lease after => ?_) lease.address lease stored
    obtain ⟨⟨event, made⟩, inside, rfl⟩ := List.mem_map.mp member
    have lawful := (lifeCycle_of_mem_annals inside).2
    rw [after] at lawful
    exact lawful.ne_expiredReclaimable
  unfold wasAssigned
  cases state : lease.state <;> simp_all

end Engine.State

namespace Engine

/-- The gauge of a subnet, in every state that can be reached: it shows the number of records of the
subnet that were handed out and not taken back, but for the leases that were extended in another
subnet, which are still counted for the one they were handed out in. It is exact as long as no lease
is taken to another subnet by an allocation of the client that holds it. -/
theorem assigned_gauge_spec (history : List Event) (subnet : SubnetId) :
    let state := State.initial.play history
    let annals := State.initial.annals history
    let assigned : Nat := state.store.count fun lease =>
      lease.subnet == subnet && lease.state == .active
    state.gauge subnet + (annals.map (·.2.transfer subnet)).sum = assigned ∧
    (∀ event change, (event, change) ∈ annals → change.transfer subnet ≠ 0 →
      ∃ old lease, event.Transfers change old lease) ∧
    ((∀ event change old lease, (event, change) ∈ annals → ¬ event.Transfers change old lease) →
      state.gauge subnet = assigned) := by
  intro state annals assigned
  have counted : state.store.count (·.isAssigned subnet) = assigned := by
    refine List.countP_congr fun lease member => ?_
    rw [← State.wasAssigned_eq history (Store.get?_of_mem member)]
    simp [Lease.isAssigned]
  have lawful : ∀ entry ∈ annals,
      LifeCycle entry.1.around.now entry.1.operation entry.2.before entry.2.after := by
    rintro ⟨event, change⟩ member
    exact (State.lifeCycle_of_mem_annals member).2
  have balance : state.gauge subnet + (annals.map (·.2.transfer subnet)).sum = assigned := by
    have moved : (annals.map fun entry => entry.2.gauge subnet + entry.2.transfer subnet) =
        annals.map (·.2.difference (·.isAssigned subnet)) :=
      List.map_congr_left fun entry member => (lawful entry member).gauge_add_transfer subnet
    have number : (state.store.count (·.isAssigned subnet) : Int) =
        0 + (annals.map (·.2.difference (·.isAssigned subnet))).sum :=
      State.initial.count_annals history (·.isAssigned subnet)
    have shown : state.gauge subnet = 0 + (annals.map (·.2.gauge subnet)).sum :=
      State.initial.gauge_play history subnet
    rw [← counted, number, shown, ← moved, List.sum_map_add, Int.add_assoc]
  have transfers (event : Event) (change : RecordChange) (member : (event, change) ∈ annals)
      (moves : change.transfer subnet ≠ 0) : ∃ old lease, event.Transfers change old lease :=
    ((lawful _ member).transfer_eq_zero_or subnet).resolve_left moves
  refine ⟨balance, transfers, fun stays => ?_⟩
  have nothing : (annals.map (·.2.transfer subnet)).sum = 0 := by
    refine List.sum_eq_zero fun amount member => ?_
    obtain ⟨entry, inside, rfl⟩ := List.mem_map.mp member
    by_contra moves
    obtain ⟨old, lease, transfers⟩ := transfers entry.1 entry.2 inside moves
    exact stays entry.1 entry.2 old lease inside transfers
  omega

namespace Sample

/-- The small network with another number for its subnet. -/
def renumbered : Topology :=
  (Topology.build { config with
    subnets := config.subnets.map fun subnet => { subnet with id := 2 } } 2).toOption.getD .empty

/-- The client is leased the address, and extends the lease under the other number. -/
def transferred : List Event :=
  [leases 1 0, ⟨{ around 5 with topology := renumbered }, .allocate (request 1) .commit none⟩]

end Sample

/-- The gauges do not always show the number of records of their subnets that are active. After the
lease of a client was extended in another subnet, the first gauge still counts it, and the other one
does not. -/
theorem gauge_off_by_transfer :
    ¬ ∀ (history : List Event) (subnet : SubnetId),
      (State.initial.play history).gauge subnet =
        (State.initial.play history).store.count fun lease =>
          lease.subnet == subnet && lease.state == .active := by
  intro exact
  have shown : (State.initial.play Sample.transferred).gauge 2 = 0 := by decide +kernel
  have active : ((State.initial.play Sample.transferred).store.count fun lease =>
      lease.subnet == 2 && lease.state == .active) = 1 := by decide +kernel
  have same := exact Sample.transferred 2
  rw [shown, active] at same
  exact nomatch same

end Engine

end Leasehold
