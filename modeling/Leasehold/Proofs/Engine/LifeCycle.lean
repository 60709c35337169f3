import Leasehold.Proofs.Engine.Operation
import Leasehold.Proofs.Engine.Recording

/-!
# The life of a record

What can become of the record of an address depends on what it is, and on who does what. It begins
as the lease of a client, which may extend it, decline it or give it up while it is not over.
Whatever is over is reclaimed before anything else becomes of it, and only then the address is
leased again or its record is removed (`LifeCycle`). Every change that an operation makes is one of
these, and it is announced before the next one is made (`Operation.keeps_lawful`).
-/
namespace Leasehold.Engine

/-- What an operation makes of the record of an address at an instant. -/
inductive LifeCycle (now : Instant) : Operation → Option Lease → Option Lease → Prop where
  /-- A lease is recorded for an address without a record. -/
  | leased {request : Request} {limit : Option Nat} {owner : Identifier} {lease : Lease}
    (mine : request.identifiers.Owns owner) (owned : lease.owner = some owner)
    (active : lease.state = .active) (seen : lease.lastSeen = now) (first : lease.version = 1) :
    LifeCycle now (.allocate request .commit limit) none (some lease)
  /-- A lease is recorded for an address whose record was reclaimed. -/
  | leasedAgain {request : Request} {limit : Option Nat} {owner : Identifier} {old lease : Lease}
    (free : old.state = .reclaimed) (mine : request.identifiers.Owns owner)
    (owned : lease.owner = some owner) (active : lease.state = .active)
    (seen : lease.lastSeen = now) (next : lease.version = old.version + 1) :
    LifeCycle now (.allocate request .commit limit) (some old) (some lease)
  /-- The client that holds a lease extends it. -/
  | renewed {request : Request} {limit : Option Nat} {owner : Identifier} {old lease : Lease}
    (held : old.isActive now) (ownedBefore : old.owner = some owner)
    (mine : request.identifiers.Owns owner) (owned : lease.owner = some owner)
    (active : lease.state = .active) (seen : lease.lastSeen = now)
    (next : lease.version = old.version + 1) :
    LifeCycle now (.allocate request .commit limit) (some old) (some lease)
  /-- An allocation reclaims a record that is over, with everything else as it was. -/
  | reclaimed {request : Request} {limit : Option Nat} {old : Lease}
    (ended : old.needsReclaim now) :
    LifeCycle now (.allocate request .commit limit) (some old) (some (Attempt.reclaimed old))
  /-- A sweep reclaims a record that is over, with everything else as it was. -/
  | swept {settings : SweepSettings} {old : Lease} (ended : old.needsReclaim now) :
    LifeCycle now (.sweep settings) (some old) (some (Attempt.reclaimed old))
  /-- The client that holds a lease declines its address. -/
  | declined {ids : ClientIdentifiers} {probation : Duration} {owner : Identifier} {old : Lease}
    (held : old.isActive now) (owned : old.owner = some owner) (mine : ids.Owns owner) :
    LifeCycle now (.decline ids probation old.address) (some old)
      (some { declinedLease old now probation with version := old.version + 1 })
  /-- The client that holds a lease gives it up. -/
  | released {ids : ClientIdentifiers} {owner : Identifier} {old : Lease} (held : old.isActive now)
    (owned : old.owner = some owner) (mine : ids.Owns owner) :
    LifeCycle now (.release ids old.address) (some old) none
  /-- A sweep removes a reclaimed record, where such records are not kept for good. -/
  | removed {settings : SweepSettings} {hold : Duration} {old : Lease}
    (limited : settings.hold = some hold) (ended : old.state = .reclaimed) :
    LifeCycle now (.sweep settings) (some old) none

variable {now : Instant}

/-- A record becomes active only where there was none before, where it had been reclaimed, or where
it is the lease of a client that still holds it. -/
theorem LifeCycle.of_active {operation : Operation} {before : Option Lease} {lease : Lease}
    (change : LifeCycle now operation before (some lease)) (active : lease.state = .active) :
    ∀ old, before = some old → old.state = .reclaimed ∨ old.isActive now := by
  rintro old rfl
  cases change with
  | leasedAgain free => exact .inl free
  | renewed held => exact .inr held
  | reclaimed => exact nomatch active
  | swept => exact nomatch active
  | declined => exact nomatch active

namespace Chronicle

/-- An operation makes a change that is open to it, and settles it. -/
inductive Step (operation : Operation) (now : Instant) : Chronicle → Chronicle → Prop where
  /-- A lease is recorded. -/
  | recorded {chronicle : Chronicle} {lease : Lease}
    (change : LifeCycle now operation (chronicle.store.get? lease.address) (some lease)) :
    Step operation now chronicle (chronicle.settled lease)
  /-- A record is removed. -/
  | removed {chronicle : Chronicle} {address : Address}
    (change : LifeCycle now operation (chronicle.store.get? address) none) :
    Step operation now chronicle (chronicle.dismissed address)

/-- An operation makes changes that are open to it, and settles each of them. -/
abbrev Lawful (operation : Operation) (now : Instant) : Chronicle → Chronicle → Prop :=
  Relation.ReflTransGen (Step operation now)

variable {operation : Operation} {start last : Chronicle}

/-- A step makes one change, and announces it. -/
theorem Step.exists_change (step : Step operation now start last) :
    ∃ change, last.changes = start.changes ++ [change] ∧
      last.told = start.told ++ change.notices ∧
        LifeCycle now operation change.before change.after := by
  cases step with
  | recorded lawful => exact ⟨_, rfl, rfl, lawful⟩
  | removed lawful => exact ⟨_, rfl, rfl, lawful⟩

/-- The changes that were settled are those of the life cycle, and each was announced in turn. -/
theorem Lawful.exists_changes (lawful : Lawful operation now start last) :
    ∃ changes, last.changes = start.changes ++ changes ∧
      last.told = start.told ++ changes.flatMap RecordChange.notices ∧
        ∀ change ∈ changes, LifeCycle now operation change.before change.after := by
  induction lawful with
  | refl => exact ⟨[], by simp⟩
  | tail _ step ih =>
    obtain ⟨changes, made, told, lawful⟩ := ih
    obtain ⟨change, changed, announced, following⟩ := step.exists_change
    refine ⟨changes ++ [change], ?_, ?_, ?_⟩
    · rw [changed, made, List.append_assoc]
    · rw [announced, told, List.flatMap_append, List.flatMap_singleton, List.append_assoc]
    · intro other member
      rcases List.mem_append.mp member with earlier | same
      · exact lawful other earlier
      · obtain rfl := List.mem_singleton.mp same
        exact following

section Allocation

variable {request : Request} {limit : Option Nat}

/-- Clearing an address is lawful. -/
theorem lawful_cleared (start : Chronicle) (address : Address) :
    Lawful (.allocate request .commit limit) now start (start.cleared now address) := by
  unfold cleared
  split
  · exact .refl
  · next lease due =>
    obtain ⟨stored, ended⟩ := Option.filter_eq_some_iff.mp due
    have placed : lease.address = address := Store.address_of_get? stored
    refine .single (.recorded ?_)
    change LifeCycle now _ (start.store.get? lease.address) _
    rw [placed, stored]
    exact .reclaimed ended

/-- What an allocation does before a review is lawful. -/
theorem lawful_prepared (start : Chronicle) (mode : AllocationMode) (address : Address) :
    Lawful (.allocate request mode limit) now start (start.prepared mode now address) := by
  cases mode with
  | offer => exact .refl
  | commit => exact lawful_cleared start address

/-- Recording a lease is lawful. -/
theorem Records.lawful {lease : Lease} (records : Records now request start lease last) :
    Lawful (.allocate request .commit limit) now start last := by
  obtain ⟨⟨owner, mine, owned, room⟩, active, seen, next, rfl⟩ := records
  refine (lawful_cleared start lease.address).tail (.recorded ?_)
  rcases room with free | ⟨old, stored, held, ownedBefore⟩
  · cases stored : (start.cleared now lease.address).store.get? lease.address with
    | none =>
      rw [stored] at next
      exact .leased mine owned active seen next
    | some old =>
      rw [stored] at next
      exact .leasedAgain (free old stored) mine owned active seen next
  · rw [stored] at next ⊢
    exact .renewed held ownedBefore mine owned active seen next

/-- What an allocation that fails leaves is lawful. -/
theorem lawful_of_leaves {mode : AllocationMode} {error : EngineError}
    (leaves : Leaves mode now start error last) :
    Lawful (.allocate request mode limit) now start last := by
  rcases leaves.eq_or_eq_prepared with rfl | ⟨address, rfl⟩
  · exact .refl
  · exact lawful_prepared start mode address

/-- An allocation is lawful. -/
theorem keeps_allocate_lawful (topology : Topology) (mode : AllocationMode) (start : Chronicle) :
    (allocate topology request mode limit).Keeps (observed now)
      (atEnd (Lawful (.allocate request mode limit) now start)) start := by
  refine (keeps_allocate start).weaken fun {outcome last} reached => ?_
  cases outcome with
  | error error => exact lawful_of_leaves reached
  | ok grant =>
    cases mode with
    | offer =>
      obtain rfl := reached.offered rfl
      exact .refl
    | commit => exact (reached.recorded rfl).lawful

end Allocation

section GivingUp

variable {topology : Topology} {ids : ClientIdentifiers} {address : Address}

/-- The client holds a lease that is stored, and nothing was done so far. -/
structure HoldsStill (now : Instant) (ids : ClientIdentifiers) (start : Chronicle)
    (address : Address) (lease : Lease) (last : Chronicle) : Prop where
  /-- Nothing was done. -/
  same : last = start
  /-- The lease is stored. -/
  stored : start.store.get? address = some lease
  /-- It is held. -/
  held : lease.isActive now
  /-- It is recorded against the client. -/
  owned : ∃ owner, lease.owner = some owner ∧ ids.Owns owner

/-- Looking for the lease that a client holds does nothing. -/
theorem keeps_ownLease {bad : EngineError → Chronicle → Prop} (failing : ∀ error, bad error start) :
    (ownLease topology ids address).Keeps (observed now)
      (concluding (HoldsStill now ids start address) bad) start := by
  have stays (error : EngineError) : (fail error : Task Lease).Keeps (observed now)
      (concluding (HoldsStill now ids start address) bad) start := by
    rintro later rfl
    exact failing error
  refine getLease_bind (fun error => failing _) ?_
  cases stored : start.store.get? address with
  | none => exact stays _
  | some lease =>
    dsimp only
    split
    · exact stays _
    · next owner presented =>
      refine (calm (· = start)).clock_bind clock_eq rfl ?_
      rintro later rfl
      split
      · next passed =>
        obtain ⟨owned, held⟩ := (Bool.and_eq_true _ _).mp passed
        have same : lease.owner = some owner := by simpa [Lease.isOwnedBy] using owned
        rintro last rfl
        exact ⟨rfl, stored, held, owner, same, _, presented⟩
      · exact stays _

/-- Giving up a lease is lawful. -/
theorem keeps_release_lawful (start : Chronicle) :
    (release topology ids address).Keeps (observed now)
      (atEnd (Lawful (.release ids address) now start)) start := by
  refine keeps_holding (calm (· = start)) (fun _ => calm _) (fun _ => calm _) rfl ?_ ?_
  · rintro later rfl last rfl
    exact .refl
  rintro later rfl
  refine (keeps_ownLease fun _ => .refl).bind fun lease last holds => ?_
  obtain ⟨rfl, stored, held, owner, owned, mine⟩ := holds
  have lawful : Lawful (.release ids address) now last (last.dismissed address) := by
    refine .single (.removed ?_)
    have placed : lease.address = address := Store.address_of_get? stored
    rw [stored, ← placed]
    exact .released held owned mine
  have active : lease.state = .active := by
    simpa using ((Bool.and_eq_true _ _).mp held).1
  have notices : (last.removing address).notices =
      [.count (.assigned lease.subnet) (-1), .count .released 1] := by
    rw [RecordChange.notices_of_removed rfl stored, if_pos (by simp [wasAssigned, active])]
  rw [← announced_afterCall_delete stored, notices] at lawful
  refine delete_bind stored (fun _ => .refl) (report_bind rfl (report_bind rfl ?_))
  rintro later rfl
  rw [announced_announced]
  exact lawful

/-- Declining an address is lawful. -/
theorem keeps_decline_lawful {probation : Duration} (start : Chronicle) :
    (decline topology ids probation address).Keeps (observed now)
      (atEnd (Lawful (.decline ids probation address) now start)) start := by
  refine keeps_holding (calm (· = start)) (fun _ => calm _) (fun _ => calm _) rfl ?_ ?_
  · rintro later rfl last rfl
    exact .refl
  rintro later rfl
  refine (keeps_ownLease fun _ => .refl).bind fun lease last holds => ?_
  obtain ⟨rfl, stored, held, owner, owned, mine⟩ := holds
  refine (calm (· = last)).clock_bind clock_eq rfl ?_
  rintro later rfl
  obtain rfl : lease.address = address := Store.address_of_get? stored
  have met : Store.nextVersion? (.version lease.version)
      (later.store.get? (declinedLease lease now probation).address) =
        some (lease.version + 1) := by
    change Store.nextVersion? _ (later.store.get? lease.address) = _
    simp [stored, Store.nextVersion?]
  let declined := { declinedLease lease now probation with version := lease.version + 1 }
  have lawful : Lawful (.decline ids probation lease.address) now later
      (later.settled declined) := by
    refine .single (.recorded ?_)
    change LifeCycle now _ (later.store.get? lease.address) _
    rw [stored]
    exact .declined held owned mine
  have recorded : (later.recording declined).after = some declined := rfl
  have notices : (later.recording declined).notices =
      [.count (.assigned lease.subnet) (-1), .count .declined 1] := by
    rw [RecordChange.notices_of_declined recorded rfl]
    rfl
  have settled : (later.afterCall (.write (declinedLease lease now probation)
      (.version lease.version))).announced (later.recording declined).notices =
        later.settled declined := announced_afterCall_write met
  rw [← settled, notices] at lawful
  refine write_bind met (fun _ => .refl) (report_bind rfl (report_bind rfl ?_))
  rintro last rfl
  rw [announced_announced]
  exact lawful

end GivingUp

section Sweep

variable {settings : SweepSettings} {chronicle : Chronicle}

/-- A sweep has reclaimed records, and nothing else was done. -/
def Swept (settings : SweepSettings) (now : Instant) (start last : Chronicle) : Prop :=
  Lawful (.sweep settings) now start last ∧ start.store.Grows last.store

/-- A listed record that is over is reclaimed, unless it was changed since. -/
theorem keeps_reclaim_swept {lease : Lease} (swept : Swept settings now start chronicle)
    (listed : start.store.get? lease.address = some lease) (ended : lease.needsReclaim now) :
    (reclaim lease).Keeps (observed now) (atEnd (Swept settings now start)) chronicle := by
  cases met : Store.nextVersion? (.version lease.version)
    (chronicle.store.get? lease.address) with
  | none =>
    refine conflict_bind met (fun _ => swept) ?_
    rintro later rfl
    exact swept
  | some version =>
    have stored : chronicle.store.get? lease.address = some lease :=
      (listed ▸ swept.2 lease.address).eq_of_met (Option.isSome_of_mem met)
    refine keeps_reclaim stored (fun _ => swept) ⟨swept.1.tail (.recorded ?_), ?_⟩
    · change LifeCycle now _ (chronicle.store.get? lease.address) _
      rw [stored]
      exact .swept ended
    · have wrote : chronicle.store.write { lease with state := .reclaimed }
          (.version lease.version) =
            (.committed (Attempt.reclaimed lease),
              chronicle.store.insert (Attempt.reclaimed lease)) :=
        Store.write_of_met (by simp [stored, Store.nextVersion?])
      have grows := chronicle.store.grows_write { lease with state := .reclaimed }
        (.version lease.version)
      rw [wrote] at grows
      exact swept.2.trans grows

/-- Removing a reclaimed record is lawful where such records are not kept for good. -/
theorem keeps_sweepReclaimed_lawful {hold : Duration} (limited : settings.hold = some hold)
    {lease : Lease} {counts : SweepCounts} (lawful : Lawful (.sweep settings) now start chronicle) :
    (sweepReclaimed counts lease).Keeps (observed now)
      (atEnd (Lawful (.sweep settings) now start)) chronicle := by
  have idle : Calm (observed now) (· = chronicle) := calm _
  refine keeps_holding idle (fun _ => calm _) (fun _ => calm _) rfl ?_ ?_
  · rintro later rfl last rfl
    exact lawful
  rintro later rfl
  refine getLease_bind (fun _ => lawful) ?_
  split
  · next unchanged =>
    cases stored : later.store.get? lease.address with
    | none =>
      rw [stored] at unchanged
      exact nomatch unchanged
    | some old =>
      rw [stored] at unchanged
      have ended : old.state = .reclaimed := by
        simpa using ((Bool.and_eq_true _ _).mp unchanged).1
      have removes : Lawful (.sweep settings) now start (later.dismissed lease.address) := by
        refine lawful.tail (.removed ?_)
        rw [stored]
        exact .removed limited ended
      have notices : (later.removing lease.address).notices = [.count .removed 1] := by
        rw [RecordChange.notices_of_removed rfl stored, if_neg (by simp [wasAssigned, ended])]
      rw [← announced_afterCall_delete stored, notices] at removes
      refine delete_bind stored (fun _ => lawful) (report_bind rfl ?_)
      rintro last rfl
      exact removes
  · rintro last rfl
    exact lawful

/-- A sweep is lawful. -/
theorem keeps_sweep_lawful (start : Chronicle) :
    (sweep settings now).Keeps (observed now) (atEnd (Lawful (.sweep settings) now start))
      start := by
  have begins : Swept settings now start start := ⟨.refl, .refl _⟩
  refine read_bind rfl (fun _ => .refl) ?_
  have reclaims : (sweepEach sweepExpired .none (start.store.scanExpired settings.batch now)).Keeps
      (observed now) (atEnd (Swept settings now start)) start := by
    refine keeps_sweepEach (calm _) (fun lease member counts chronicle swept => ?_) begins
    obtain ⟨listed, ended⟩ := Store.stored_of_mem_scanExpired member
    exact keeps_sweepExpired_of_reclaim (calm _) (calm _) id
      (fun _ swept => keeps_reclaim_swept swept listed ended) swept
  have lawful : (sweepEach sweepExpired .none (start.store.scanExpired settings.batch now)).Keeps
      (observed now) (atEnd (Lawful (.sweep settings) now start)) start :=
    reclaims.weaken fun {outcome last} swept => by cases outcome <;> exact swept.1
  refine lawful.bind fun counts last lawful => ?_
  cases limited : settings.hold with
  | none =>
    unfold removeReclaimed
    rw [limited]
    rintro later rfl
    exact lawful
  | some hold =>
    exact keeps_removeReclaimed (calm _)
      (fun _ _ _ lawful => keeps_sweepReclaimed_lawful limited lawful) lawful

end Sweep

end Chronicle

/-- Every operation is lawful. -/
theorem Operation.keeps_lawful (operation : Operation) (topology : Topology) (now : Instant)
    (start : Chronicle) :
    (operation.task topology).Keeps (Chronicle.observed now)
      (atEnd (Chronicle.Lawful operation now start)) start := by
  have discards {α : Type} {task : Task α}
      (keeps : task.Keeps (Chronicle.observed now)
        (atEnd (Chronicle.Lawful operation now start)) start) :
      (do let _ ← task : Task Unit).Keeps (Chronicle.observed now)
        (atEnd (Chronicle.Lawful operation now start)) start :=
    keeps.bind fun _ _ lawful => by
      rintro last rfl
      exact lawful
  cases operation with
  | allocate request mode limit =>
    exact discards (Chronicle.keeps_allocate_lawful topology mode start)
  | release ids address => exact discards (Chronicle.keeps_release_lawful start)
  | decline ids probation address => exact discards (Chronicle.keeps_decline_lawful start)
  | sweep settings =>
    refine (Chronicle.calm (· = start)).clock_bind Chronicle.clock_eq rfl ?_
    rintro later rfl
    exact discards (Chronicle.keeps_sweep_lawful later)

end Leasehold.Engine
