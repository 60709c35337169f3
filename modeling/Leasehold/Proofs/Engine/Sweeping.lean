import Leasehold.Engine.Sweep
import Leasehold.Proofs.Engine.Allocation
import Leasehold.Proofs.Store.Scan

/-!
# What a sweep does to the records

A sweep lists the records that are over and then takes them on one after another. As long as the
store only grows, a listed record that is still stored under its version is the one that was listed,
so reclaiming it is a change that is open to everybody. Removing reclaimed records deletes what has
just been read, and relies on the store being the sweep's own.
-/
namespace Leasehold.Engine

open Ledger

section Parts

variable {σ : Type} {terms : Terms Ask Reply σ} {condition : σ → Prop} {heeded : Notice → Bool}
  (steady : SteadyUnless heeded terms condition)
include steady

/-- Taking on records one after another keeps a condition that taking on each of them keeps. -/
theorem keeps_sweepEach {one : SweepCounts → Lease → Task SweepCounts} {leases : List Lease}
    {counts : SweepCounts} {state : σ}
    (each : ∀ lease ∈ leases, ∀ counts state, condition state →
      (one counts lease).Keeps terms (atEnd condition) state)
    (holds : condition state) :
    (sweepEach one counts leases).Keeps terms (atEnd condition) state := by
  induction leases generalizing counts state with
  | nil => exact steady.done _ holds
  | cons lease rest ih =>
    refine (each lease List.mem_cons_self counts state holds).bind fun counts last holds => ?_
    exact ih (fun other member => each other (List.mem_cons_of_mem lease member)) holds

/-- Taking on a listed record keeps a condition that reclaiming it does, from a stronger one on that
locking keeps. -/
theorem keeps_sweepExpired_of_reclaim {idle : σ → Prop}
    (idleSteady : SteadyUnless heeded terms idle)
    (stronger : ∀ {state}, idle state → condition state) {lease : Lease}
    (reclaims : ∀ state, idle state → (reclaim lease).Keeps terms (atEnd condition) state)
    {counts : SweepCounts} {state : σ} (holds : idle state) :
    (sweepExpired counts lease).Keeps terms (atEnd condition) state := by
  refine keeps_holding idleSteady (fun _ => steady) (fun _ => steady) holds
    (fun later holds => steady.done _ (stronger holds)) fun later holds => ?_
  refine (reclaims later holds).bind fun result last holds => ?_
  cases result with
  | none => exact steady.done _ holds
  | some stored => exact steady.done _ holds

/-- Removing reclaimed records keeps a condition that removing each of them keeps. -/
theorem keeps_removeReclaimed {settings : SweepSettings} {instant : Instant}
    (each : ∀ lease counts state, condition state →
      (sweepReclaimed counts lease).Keeps terms (atEnd condition) state)
    {counts : SweepCounts} {state : σ} (holds : condition state) :
    (removeReclaimed settings instant counts).Keeps terms (atEnd condition) state := by
  unfold removeReclaimed
  split
  · exact steady.done _ holds
  · refine (steady.call rfl holds).bind fun kept last holds => ?_
    exact keeps_sweepEach steady (fun lease _ => each lease) holds

end Parts

variable {shown now : Instant} {own : Identifier → Prop} {granted : List Lease} {ledger : Ledger}

/-- Reclaiming a listed record, or skipping it, hands out nothing. -/
theorem keeps_sweepExpired {lease : Lease} {counts : SweepCounts}
    (knows : Knows granted lease.address (some lease) ledger) (ended : lease.needsReclaim now) :
    (sweepExpired counts lease).Keeps (sharing shown now own)
      (atEnd (HasGranted granted)) ledger := by
  refine keeps_sweepExpired_of_reclaim (hasGranted_steady granted)
    (knows_steady granted lease.address (some lease)) (fun knows => knows.granted)
    (fun later knows => ?_) knows
  refine (keeps_reclaim knows ended).weaken fun {outcome last} reached => ?_
  match outcome with
  | .error error => exact reached
  | .ok none => exact reached
  | .ok (some stored) => exact reached.2.granted

/-- The task has handed out these leases, and the store has grown since a listing was made. -/
def SinceListing (granted : List Lease) (listing : Store) (ledger : Ledger) : Prop :=
  HasGranted granted ledger ∧ listing.Grows ledger.store

/-- What a sweep knows of its listing is steady. -/
theorem sinceListing_steady (granted : List Lease) (listing : Store) :
    Steady (sharing shown now own) (SinceListing granted listing) :=
  steady_sharing fun meanwhile since =>
    ⟨since.1.later meanwhile, since.2.trans meanwhile.grows⟩

/-- Reclaiming the records of a listing lets the store grow. -/
theorem keeps_sweepExpired_listed {listing : Store} {lease : Lease} {counts : SweepCounts}
    (stored : listing.get? lease.address = some lease) (ended : lease.needsReclaim now)
    (since : SinceListing granted listing ledger) :
    (sweepExpired counts lease).Keeps (sharing shown now own)
      (atEnd (SinceListing granted listing)) ledger := by
  have knows : Knows granted lease.address (some lease) ledger :=
    ⟨since.1, stored ▸ since.2 lease.address, by rintro _ ⟨⟩; rfl⟩
  have reclaims : (sweepExpired counts lease).Keeps (sharing shown now own)
      (atEnd (HasGranted granted)) ledger := keeps_sweepExpired knows ended
  refine (reclaims.frame (fun last => listing.Grows last.store) since.2
    (fun meanwhile grown => grown.trans meanwhile.grows)
    (fun change grown => grown.trans change.2)).weaken fun {outcome last} reached => ?_
  cases outcome <;> exact reached

/-- Removing a reclaimed record, or skipping it, deletes nothing but reclaimed records. -/
theorem keeps_sweepReclaimed {lease : Lease} {counts : SweepCounts} :
    (sweepReclaimed counts lease).Keeps (alone shown now own) anyhow ledger := by
  have idle : Steady (alone shown now own) fun _ => True := steady_alone _
  refine keeps_holding idle (fun _ => idle) (fun _ => idle) trivial (fun _ _ => idle.done _ trivial)
    fun later _ => ?_
  refine (keeps_call_alone (.refl now own _)).bind fun record last told => ?_
  obtain ⟨read, same⟩ := Prod.mk.inj told
  change record = later.store.get? lease.address at read
  change last.store = later.store at same
  split
  · next unchanged =>
    have moves : Moves now own last.store (last.store.answer (.delete lease.address)).2 := by
      refine .of_delete fun old stored => .removed ?_
      rw [read, ← same, stored] at unchanged
      exact (by simpa [isUnchanged] using unchanged : old.state = .reclaimed ∧ _).1
    refine (keeps_call_alone moves).bind fun found last _ => ?_
    cases found with
    | none => exact idle.done _ trivial
    | some removed => exact idle.count_bind rfl trivial fun _ _ => idle.done _ trivial
  · exact idle.done _ trivial

/-- A sweep that has the store to itself changes only records that are over. -/
theorem keeps_sweep {settings : SweepSettings} :
    (sweep settings now).Keeps (alone shown now own) anyhow ledger := by
  have idle : Steady (alone shown now own) fun _ => True := steady_alone _
  refine (keeps_call_alone (.refl now own _)).bind fun listed last told => ?_
  obtain ⟨scanned, same⟩ := Prod.mk.inj told
  change listed = ledger.store.scanExpired settings.batch now at scanned
  change last.store = ledger.store at same
  have since : SinceListing last.granted last.store last := ⟨⟨rfl⟩, .refl _⟩
  have reclaims : (sweepEach sweepExpired .none listed).Keeps (sharing shown now own)
      (atEnd (SinceListing last.granted last.store)) last := by
    refine keeps_sweepEach (sinceListing_steady _ _) (fun lease member counts state since => ?_)
      since
    rw [scanned, ← same] at member
    obtain ⟨stored, ended⟩ := Store.stored_of_mem_scanExpired member
    exact keeps_sweepExpired_listed stored ended since
  refine (keeps_alone reclaims).anyhow.bind fun counts later _ => ?_
  exact keeps_removeReclaimed idle (fun _ _ _ _ => keeps_sweepReclaimed) trivial

end Leasehold.Engine
