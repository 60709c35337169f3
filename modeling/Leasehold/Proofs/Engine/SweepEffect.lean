import Mathlib.Logic.Function.Iterate
import Leasehold.Engine.Sweep
import Leasehold.Proofs.Engine.Operation
import Leasehold.Proofs.Engine.Trace
import Leasehold.Proofs.Store.Batches

/-!
# What a sweep comes to

A sweep that nobody disturbs goes through two listings. Of either it takes on the records whose
addresses are not locked: the first listing is of records that are over, and each of them is
reclaimed; the second is made of the store that this leaves, and its records are removed. Nothing
else changes, and everything is counted (`Sweeps`). When no address is locked, the records that are
left to be reclaimed are those behind the listing, so that sweeping again and again at one instant
comes to an end (`sweep_effect`).
-/
namespace Leasehold

namespace Store

/-- The store with the record of an address, or without one. -/
def put (store : Store) (address : Address) : Option Lease → Store
  | none => store.erase address
  | some lease => store.insert lease

/-- The record of one address is put in place, and the others are as before. -/
theorem get?_put (store : Store) {address : Address} {record : Option Lease}
    (placed : ∀ lease, record = some lease → lease.address = address) (other : Address) :
    (store.put address record).get? other =
      if address = other then record else store.get? other := by
  cases record with
  | none => exact store.get?_erase address other
  | some lease =>
    rw [← placed lease rfl]
    exact store.get?_insert lease other

end Store

namespace Engine

variable {around : Surroundings} {locks : AddressLocks}

/-- Of the records of a listing those are taken on whose addresses are not locked. Each of them
becomes something, and every other record stays as it is. -/
structure Turns (locks : AddressLocks) (become : Lease → Option Lease) (listing : List Lease)
    (before after : Store) : Prop where
  /-- The records that are taken on. -/
  taken : ∀ lease ∈ listing, locks.isLocked lease.address = false →
    after.get? lease.address = become lease
  /-- All other records. -/
  others : ∀ address, (∀ lease ∈ listing, lease.address = address →
    locks.isLocked address = true) → after.get? address = before.get? address

/-- Nothing becomes of the records of an empty listing. -/
theorem Turns.nil {become : Lease → Option Lease} (store : Store) :
    Turns locks become [] store store where
  taken _ inside := absurd inside List.not_mem_nil
  others _ _ := rfl

/-- The records of a listing whose addresses are not locked. -/
def unlockedAmong (locks : AddressLocks) (listing : List Lease) : List Lease :=
  listing.filter fun lease => !locks.isLocked lease.address

/-- The records of a listing whose addresses are locked. -/
def lockedAmong (locks : AddressLocks) (listing : List Lease) : List Lease :=
  listing.filter fun lease => locks.isLocked lease.address

/-- What is counted when the records of a listing are taken on one after another. -/
def tally (locks : AddressLocks) (counted : SweepCounts → SweepCounts) (counts : SweepCounts)
    (listing : List Lease) : SweepCounts :=
  listing.foldl (fun counts lease =>
    if locks.isLocked lease.address then counts.addSkipped else counted counts) counts

/-- Records that are reclaimed and records that are skipped are counted apart. -/
theorem tally_addReclaimed (counts : SweepCounts) (listing : List Lease) :
    tally locks .addReclaimed counts listing = { counts with
      reclaimed := counts.reclaimed + (unlockedAmong locks listing).length
      skipped := counts.skipped + (lockedAmong locks listing).length } := by
  induction listing generalizing counts with
  | nil => rfl
  | cons lease rest ih =>
    change tally locks .addReclaimed _ rest = _
    rw [ih]
    cases locked : locks.isLocked lease.address <;>
      simp [unlockedAmong, lockedAmong, locked, SweepCounts.addReclaimed,
        SweepCounts.addSkipped] <;>
      omega

/-- Records that are removed and records that are skipped are counted apart. -/
theorem tally_addRemoved (counts : SweepCounts) (listing : List Lease) :
    tally locks .addRemoved counts listing = { counts with
      removed := counts.removed + (unlockedAmong locks listing).length
      skipped := counts.skipped + (lockedAmong locks listing).length } := by
  induction listing generalizing counts with
  | nil => rfl
  | cons lease rest ih =>
    change tally locks .addRemoved _ rest = _
    rw [ih]
    cases locked : locks.isLocked lease.address <;>
      simp [unlockedAmong, lockedAmong, locked, SweepCounts.addRemoved, SweepCounts.addSkipped] <;>
        omega

/-- What taking on a record comes to while it is stored as it was listed: it is skipped when its
address is locked, and else it becomes something and is counted. -/
structure TakesOn (around : Surroundings) (one : SweepCounts → Lease → Task SweepCounts)
    (counted : SweepCounts → SweepCounts) (become : Lease → Option Lease) (lease : Lease)
    (scene : Scene) : Prop where
  /-- The record stays at its address. -/
  placed : ∀ other, become lease = some other → other.address = lease.address
  /-- The record is skipped. -/
  skips : scene.locks.isLocked lease.address = true → ∀ counts,
    scene.run around (one counts lease) = (.ok counts.addSkipped, scene) ∧
      scene.changes around (one counts lease) = []
  /-- The record is taken on. -/
  takes : scene.locks.isLocked lease.address = false → ∀ counts,
    scene.run around (one counts lease) = (.ok (counted counts),
        { scene with store := scene.store.put lease.address (become lease) }) ∧
      scene.changes around (one counts lease) = [⟨lease.address, some lease, become lease⟩]

section Listing

variable {one : SweepCounts → Lease → Task SweepCounts} {counted : SweepCounts → SweepCounts}
  {become : Lease → Option Lease}

/-- The records of a listing are taken on one after another. -/
theorem run_sweepEach (around : Surroundings) {listing : List Lease}
    (distinct : listing.Pairwise (·.address ≠ ·.address))
    (takesOn : ∀ lease ∈ listing, ∀ scene : Scene,
      scene.store.get? lease.address = some lease → TakesOn around one counted become lease scene)
    (scene : Scene) (stored : ∀ lease ∈ listing, scene.store.get? lease.address = some lease)
    (counts : SweepCounts) :
    ∃ after, scene.run around (sweepEach one counts listing) =
        (.ok (tally scene.locks counted counts listing), { scene with store := after }) ∧
      scene.changes around (sweepEach one counts listing) =
        (unlockedAmong scene.locks listing).map (fun lease =>
          ⟨lease.address, some lease, become lease⟩) ∧
      Turns scene.locks become listing scene.store after := by
  induction listing generalizing scene counts with
  | nil => exact ⟨scene.store, rfl, rfl, .nil scene.store⟩
  | cons lease rest ih =>
    obtain ⟨apart, distinct⟩ := List.pairwise_cons.mp distinct
    have here := takesOn lease List.mem_cons_self scene (stored lease List.mem_cons_self)
    have others := fun other member => takesOn other (List.mem_cons_of_mem lease member)
    have storedLater := fun other member => stored other (List.mem_cons_of_mem lease member)
    unfold sweepEach
    cases locked : scene.locks.isLocked lease.address with
    | true =>
      obtain ⟨ran, unchanged⟩ := here.skips locked counts
      obtain ⟨after, goesOn, changed, turns⟩ :=
        ih distinct others scene storedLater counts.addSkipped
      refine ⟨after, ?_, ?_, ?_, ?_⟩
      · rw [Scene.run_bind_ok ran, goesOn]
        simp [tally, locked]
      · rw [Scene.changes_bind_ok ran, unchanged, changed]
        simp [unlockedAmong, locked]
      · intro other member free
        rcases List.mem_cons.mp member with rfl | inside
        · rw [locked] at free
          exact nomatch free
        · exact turns.taken other inside free
      · intro address passed
        exact turns.others address fun other inside =>
          passed other (List.mem_cons_of_mem lease inside)
    | false =>
      obtain ⟨ran, changedHere⟩ := here.takes locked counts
      have put := scene.store.get?_put here.placed
      have storedAfter (other : Lease) (inside : other ∈ rest) :
          (scene.store.put lease.address (become lease)).get? other.address = some other := by
        rw [put, if_neg (apart other inside)]
        exact storedLater other inside
      obtain ⟨after, goesOn, changed, turns⟩ :=
        ih distinct others { scene with store := scene.store.put lease.address (become lease) }
          storedAfter (counted counts)
      refine ⟨after, ?_, ?_, ?_, ?_⟩
      · rw [Scene.run_bind_ok ran, goesOn]
        simp [tally, locked]
      · rw [Scene.changes_bind_ok ran, changedHere, changed]
        simp [unlockedAmong, locked]
      · intro other member free
        rcases List.mem_cons.mp member with rfl | inside
        · -- No later record of the listing has the address of this one.
          rw [turns.others other.address fun later inside same =>
            absurd same.symm (apart later inside), put, if_pos rfl]
        · exact turns.taken other inside free
      · intro address passed
        rw [turns.others address fun other inside =>
          passed other (List.mem_cons_of_mem lease inside), put, if_neg]
        rintro rfl
        rw [passed lease List.mem_cons_self rfl] at locked
        exact nomatch locked

end Listing

/-- Reclaiming a record that is stored changes its state and its version. -/
theorem changes_reclaim {lease : Lease} {scene : Scene}
    (stored : scene.store.get? lease.address = some lease) :
    scene.changes around (reclaim lease) =
      [⟨lease.address, some lease, some (Attempt.reclaimed lease)⟩] := by
  have committed : scene.store.write { lease with state := .reclaimed } (.version lease.version) =
      (.committed (Attempt.reclaimed lease), scene.store.insert (Attempt.reclaimed lease)) :=
    Store.write_of_met (by simp [stored, Store.nextVersion?])
  have answered : scene.store.answer (.write { lease with state := .reclaimed }
      (.version lease.version)) =
      (.committed (Attempt.reclaimed lease), scene.store.insert (Attempt.reclaimed lease)) :=
    committed
  have counted : lease ≠ Attempt.reclaimed lease := fun same =>
    Nat.ne_of_lt (Nat.lt_succ_self lease.version) (congrArg Lease.version same)
  have made : (Ask.repository (.write { lease with state := .reclaimed }
      (.version lease.version))).change? scene.store
        (scene.store.insert (Attempt.reclaimed lease)) =
      some ⟨lease.address, some lease, some (Attempt.reclaimed lease)⟩ := by
    simp [Ask.change?, RepositoryCall.address?, RecordChange.between?, stored,
      Store.get?_insert_reclaimed, counted]
  unfold reclaim
  rw [Scene.changes_call_bind, answered, made]
  dsimp only
  split <;> rfl

/-- A record is taken on under a lock as it is without one. -/
theorem takes_holding {address : Address} {busy work : Task SweepCounts} {scene : Scene}
    (free : scene.locks.isLocked address = false) {counts : SweepCounts} {store : Store}
    {changes : List RecordChange}
    (worked : let under := { scene with locks := (scene.locks.lock address).2 }
      under.run around work = (.ok counts, { under with store }) ∧
        under.changes around work = changes) :
    scene.run around (holding address busy work) = (.ok counts, { scene with store }) ∧
      scene.changes around (holding address busy work) = changes :=
  ⟨Scene.run_holding_of_free free worked.1,
    (Scene.changes_holding_of_free free worked.1).trans worked.2⟩

/-- A record that is over is reclaimed. -/
theorem takesOn_sweepExpired {lease : Lease} {scene : Scene}
    (stored : scene.store.get? lease.address = some lease) :
    TakesOn around sweepExpired .addReclaimed (fun lease => some (Attempt.reclaimed lease)) lease
      scene where
  placed := by
    rintro _ ⟨⟩
    rfl
  skips locked counts :=
    ⟨Scene.run_holding_of_locked locked, Scene.changes_holding_of_locked locked⟩
  takes free counts := by
    refine takes_holding free ?_
    intro under
    have reclaimed : under.run around (reclaim lease) = _ := Scene.run_reclaim stored
    have changed : under.changes around (reclaim lease) = _ := changes_reclaim stored
    refine ⟨Scene.run_bind_ok reclaimed, ?_⟩
    rw [Scene.changes_bind_ok reclaimed, changed]
    rfl

/-- A reclaimed record is removed. -/
theorem takesOn_sweepReclaimed {lease : Lease} {scene : Scene}
    (reclaimed : lease.state = .reclaimed) (stored : scene.store.get? lease.address = some lease) :
    TakesOn around sweepReclaimed .addRemoved (fun _ => none) lease scene where
  placed _ found := absurd found.symm (Option.some_ne_none _)
  skips locked counts :=
    ⟨Scene.run_holding_of_locked locked, Scene.changes_holding_of_locked locked⟩
  takes free counts := by
    have unchanged : isUnchanged lease (some lease) = true := by simp [isUnchanged, reclaimed]
    have deleted : scene.store.answer (.delete lease.address) =
        (some lease, scene.store.erase lease.address) := by
      simp [Store.answer, Store.delete, stored]
    have made : (Ask.repository (.delete lease.address)).change? scene.store
        (scene.store.erase lease.address) = some ⟨lease.address, some lease, none⟩ := by
      simp [Ask.change?, RepositoryCall.address?, RecordChange.between?, stored, Store.get?_erase]
    refine takes_holding free ?_
    intro under
    have read : under.store.get? lease.address = some lease := stored
    constructor
    · rw [Scene.run_getLease_bind, read, if_pos unchanged, Scene.run_call_bind, deleted]
      rfl
    · rw [Scene.changes_getLease_bind, read, if_pos unchanged, Scene.changes_call_bind, deleted,
        made]
      rfl

/-- Records of one store that are listed once have different addresses. -/
theorem pairwise_address_ne {store : Store} {listing : List Lease} (once : listing.Nodup)
    (stored : ∀ lease ∈ listing, store.get? lease.address = some lease) :
    listing.Pairwise (·.address ≠ ·.address) := by
  refine once.pairwise_of_forall_ne fun left inLeft right inRight different same => different ?_
  have left_stored := stored left inLeft
  rw [same, stored right inRight] at left_stored
  exact (Option.some.inj left_stored).symm

/-- What a sweep comes to, given the two listings that it goes through and the store that it leaves
between them. -/
structure Sweeps (settings : SweepSettings) (now : Instant) (locks : AddressLocks) (before : Store)
    (expired : List Lease) (middle : Store) (held : List Lease) (after : Store)
    (counts : SweepCounts) (changes : List RecordChange) : Prop where
  /-- The first listing is of the records to be reclaimed that expired first. -/
  overdue : AreFirst Lease.ExpiresBefore settings.batch (before.overdue now) expired
  /-- These are reclaimed, unless they are locked, and all other records stay as they are. -/
  reclaims : Turns locks (fun lease => some (Attempt.reclaimed lease)) expired before middle
  /-- Where reclaimed records are kept for good there is nothing in the second listing. -/
  keeps : settings.hold = none → held = []
  /-- The second listing is of reclaimed records, those of the smallest addresses, that expired
  before the hold time began. -/
  lapsed : ∀ hold, settings.hold = some hold →
    AreFirst Lease.IsBelow settings.batch (middle.lapsed (now - hold)) held
  /-- These are removed, unless they are locked, and all other records stay as they are. -/
  removes : Turns locks (fun _ => none) held middle after
  /-- Exactly these records are counted. -/
  counted : counts = ⟨(unlockedAmong locks expired).length, (unlockedAmong locks held).length,
    (lockedAmong locks expired).length + (lockedAmong locks held).length⟩
  /-- The records are reclaimed first, and then removed. -/
  made : changes =
    (unlockedAmong locks expired).map (fun lease =>
        ⟨lease.address, some lease, some (Attempt.reclaimed lease)⟩) ++
      (unlockedAmong locks held).map fun lease => ⟨lease.address, some lease, none⟩

section Sweep

variable {settings : SweepSettings} {now : Instant}

/-- Removing reclaimed records goes through the second listing. -/
theorem exists_removeReclaimed (around : Surroundings) (settings : SweepSettings) (now : Instant)
    (scene : Scene) (counts : SweepCounts) :
    ∃ held after, scene.run around (removeReclaimed settings now counts) =
        (.ok (tally scene.locks .addRemoved counts held), { scene with store := after }) ∧
      scene.changes around (removeReclaimed settings now counts) =
        (unlockedAmong scene.locks held).map (fun lease => ⟨lease.address, some lease, none⟩) ∧
      Turns scene.locks (fun _ => none) held scene.store after ∧
      (settings.hold = none → held = []) ∧
      ∀ hold, settings.hold = some hold →
        AreFirst Lease.IsBelow settings.batch (scene.store.lapsed (now - hold)) held := by
  unfold removeReclaimed
  cases limited : settings.hold with
  | none =>
    exact ⟨[], scene.store, rfl, rfl, .nil scene.store, fun _ => rfl,
      fun _ found => absurd found.symm (Option.some_ne_none _)⟩
  | some hold =>
    have first := scene.store.areFirst_scanReclaimed (now - hold) settings.batch
    have listed (lease : Lease) (member : lease ∈ scene.store.scanReclaimed (now - hold)
        settings.batch) : scene.store.get? lease.address = some lease ∧
          lease.state = .reclaimed :=
      have lapsed := (scene.store.mem_lapsed_iff (now - hold) lease).mp (first.mem member)
      ⟨lapsed.1, lapsed.2.1⟩
    have distinct := pairwise_address_ne (first.nodup (scene.store.nodup_leases.filter _))
      fun lease member => (listed lease member).1
    obtain ⟨after, ran, changed, turns⟩ := run_sweepEach around distinct
      (fun lease member scene => takesOn_sweepReclaimed (listed lease member).2) scene
      (fun lease member => (listed lease member).1) counts
    refine ⟨_, after, ran, ?_, turns, fun kept => absurd kept (Option.some_ne_none _), ?_⟩
    · refine (Scene.changes_call_bind _ _).trans ?_
      exact changed
    · rintro _ ⟨⟩
      exact first

/-- A sweep that nobody disturbs goes through two listings. -/
theorem exists_sweeps (around : Surroundings) (settings : SweepSettings) (now : Instant)
    (scene : Scene) :
    ∃ counts expired middle held after,
      scene.run around (sweep settings now) = (.ok counts, { scene with store := after }) ∧
      Sweeps settings now scene.locks scene.store expired middle held after counts
        (scene.changes around (sweep settings now)) := by
  have first := scene.store.areFirst_scanExpired settings.batch now
  have listed (lease : Lease) (member : lease ∈ scene.store.scanExpired settings.batch now) :
      scene.store.get? lease.address = some lease :=
    ((scene.store.mem_overdue_iff now lease).mp (first.mem member)).1
  have distinct := pairwise_address_ne (first.nodup (scene.store.nodup_overdue now)) listed
  obtain ⟨middle, reclaimed, changed, reclaims⟩ := run_sweepEach around distinct
    (fun lease _ scene => takesOn_sweepExpired) scene listed .none
  obtain ⟨held, after, removed, changedLater, removes, keeps, lapsed⟩ :=
    exists_removeReclaimed around settings now { scene with store := middle }
      (tally scene.locks .addReclaimed .none (scene.store.scanExpired settings.batch now))
  refine ⟨_, scene.store.scanExpired settings.batch now, middle, held, after,
    (Scene.run_bind_ok reclaimed).trans removed, ?_⟩
  refine ⟨first, reclaims, keeps, lapsed, removes, ?_, ?_⟩
  · rw [tally_addRemoved, tally_addReclaimed]
    simp [SweepCounts.none]
  · refine (Scene.changes_call_bind _ _).trans ?_
    refine (Scene.changes_bind_ok reclaimed).trans ?_
    rw [changed]
    exact congrArg _ changedLater

variable {before middle after : Store} {expired held : List Lease} {counts : SweepCounts}
  {changes : List RecordChange}

/-- When no address is locked, the records that are left to be reclaimed are those that were not
listed. -/
theorem Sweeps.exists_left
    (sweeps : Sweeps settings now locks before expired middle held after counts changes)
    (kept : settings.hold = none) (free : ∀ address, locks.isLocked address = false) :
    ∃ others, (expired ++ others).Perm (before.overdue now) ∧
      (after.overdue now).Perm others := by
  obtain ⟨others, same, -, -⟩ := sweeps.overdue
  have once : (expired ++ others).Nodup := same.nodup_iff.mpr (before.nodup_overdue now)
  have left (address : Address) : after.get? address = middle.get? address := by
    refine sweeps.removes.others address fun lease member => ?_
    rw [sweeps.keeps kept] at member
    exact absurd member List.not_mem_nil
  have stored (lease : Lease) (member : lease ∈ expired ++ others) :
      before.get? lease.address = some lease ∧ lease.needsReclaim now = true :=
    (before.mem_overdue_iff now lease).mp (same.mem_iff.mp member)
  refine ⟨others, same, ?_⟩
  refine (List.perm_ext_iff_of_nodup (after.nodup_overdue now) once.of_append_right).mpr
    fun lease => ?_
  rw [Store.mem_overdue_iff, left]
  by_cases listed : ∃ old ∈ expired, old.address = lease.address
  · -- The record was reclaimed, and the one that was listed is not among the others.
    obtain ⟨old, member, same⟩ := listed
    have found := sweeps.reclaims.taken old member (free old.address)
    rw [same] at found
    constructor
    · rintro ⟨here, ended⟩
      obtain rfl := Option.some.inj (found.symm.trans here)
      exact nomatch ended
    · intro other
      have known := (stored lease (List.mem_append_right expired other)).1
      rw [← same, (stored old (List.mem_append_left others member)).1] at known
      obtain rfl := Option.some.inj known
      exact (List.disjoint_of_nodup_append once member other).elim
  · have here : middle.get? lease.address = before.get? lease.address :=
      sweeps.reclaims.others lease.address fun old member same =>
        absurd ⟨old, member, same⟩ listed
    rw [here, ← Store.mem_overdue_iff, ← same.mem_iff, List.mem_append]
    exact or_iff_right fun member => listed ⟨lease, member, rfl⟩

/-- The state after a sweep. -/
def State.swept (around : Surroundings) (settings : SweepSettings) (now : Instant) (state : State) :
    State :=
  (state.run around (sweep settings now)).2

/-- A sweep from a state goes through two listings, and leaves the locks and the cursors alone. -/
theorem State.exists_sweeps (around : Surroundings) (settings : SweepSettings) (now : Instant)
    (state : State) :
    ∃ counts expired middle held,
      (state.run around (sweep settings now)).1 = .ok counts ∧
      Sweeps settings now state.locks state.store expired middle held
        (state.swept around settings now).store counts
        (state.journal around (sweep settings now)) ∧
      (state.swept around settings now).locks = state.locks ∧
      (state.swept around settings now).cursors = state.cursors := by
  obtain ⟨counts, expired, middle, held, after, ran, sweeps⟩ :=
    Engine.exists_sweeps around settings now state.scene
  obtain ⟨result, scene⟩ := state.run_scene around (sweep settings now)
  rw [ran] at result scene
  have store : (state.swept around settings now).store = after := congrArg Scene.store scene
  refine ⟨counts, expired, middle, held, result, ?_, congrArg Scene.locks scene,
    congrArg Scene.cursors scene⟩
  rw [store, state.journal_eq_changes]
  exact sweeps

/-- Sweeps one after another leave fewer and fewer records to be reclaimed. -/
theorem State.length_overdue_swept (around : Surroundings) (kept : settings.hold = none)
    (sweeps : Nat) {state : State} (free : ∀ address, state.locks.isLocked address = false) :
    (((State.swept around settings now)^[sweeps] state).store.overdue now).length =
      (state.store.overdue now).length - sweeps * settings.batch := by
  induction sweeps generalizing state with
  | zero => simp
  | succ sweeps ih =>
    obtain ⟨counts, expired, middle, held, -, once, locks, -⟩ :=
      state.exists_sweeps around settings now
    obtain ⟨others, whole, left⟩ := once.exists_left kept free
    have fewer : others.length = (state.store.overdue now).length - settings.batch := by
      obtain ⟨-, -, -, listed⟩ := once.overdue
      have all := whole.length_eq
      rw [List.length_append, listed] at all
      omega
    rw [Function.iterate_succ_apply, ih (by rwa [locks]), left.length_eq, fewer, Nat.succ_mul]
    omega

/-- A sweep finds nothing to do where no record has to be reclaimed and none is ever removed. -/
theorem State.run_sweep_of_settled (around : Surroundings) (kept : settings.hold = none)
    {state : State} (settled : state.store.overdue now = []) :
    state.run around (sweep settings now) = (.ok .none, state) := by
  have nothing : state.store.scanExpired settings.batch now = [] := by
    refine List.eq_nil_iff_forall_not_mem.mpr fun lease member => ?_
    have overdue := (state.store.areFirst_scanExpired settings.batch now).mem member
    rw [settled] at overdue
    exact absurd overdue List.not_mem_nil
  change State.run around (do
    removeReclaimed settings now
      (← sweepEach sweepExpired .none (state.store.scanExpired settings.batch now))) state = _
  rw [nothing]
  unfold removeReclaimed
  rw [kept]
  rfl

end Sweep

/-- A sweep lists the first of the records that are over, and of the reclaimed records that this
leaves the first that have been over for longer than the hold time. It reclaims the ones and removes
the others, except for those whose addresses are locked, and counts them; every other record stays
as it is, and so do the locks and the cursors. Where reclaimed records are kept for good and no
address is locked, as many sweeps at one instant as there are batches of records that are over leave
none of these, and one more sweep leaves everything as it is. -/
theorem sweep_effect (around : Surroundings) (settings : SweepSettings) (now : Instant)
    (state : State) :
    (∃ counts expired middle held,
      (state.run around (sweep settings now)).1 = .ok counts ∧
      Sweeps settings now state.locks state.store expired middle held
        (state.swept around settings now).store counts
        (state.journal around (sweep settings now)) ∧
      (state.swept around settings now).locks = state.locks ∧
      (state.swept around settings now).cursors = state.cursors) ∧
    (1 ≤ settings.batch → settings.hold = none →
      (∀ address, state.locks.isLocked address = false) →
      let batches := ((state.store.overdue now).length + settings.batch - 1) / settings.batch
      let settled := (State.swept around settings now)^[batches] state
      settled.store.overdue now = [] ∧
        settled.run around (sweep settings now) = (.ok .none, settled)) := by
  refine ⟨state.exists_sweeps around settings now, fun positive kept free => ?_⟩
  intro batches settled
  have enough : (state.store.overdue now).length ≤ batches * settings.batch := by
    have whole := Nat.div_add_mod ((state.store.overdue now).length + settings.batch - 1)
      settings.batch
    have short := Nat.mod_lt ((state.store.overdue now).length + settings.batch - 1) positive
    change settings.batch * batches + _ = _ at whole
    rw [Nat.mul_comm] at whole
    omega
  have nothing : settled.store.overdue now = [] := by
    have left : (settled.store.overdue now).length = _ :=
      State.length_overdue_swept around kept batches free
    refine List.eq_nil_of_length_eq_zero ?_
    rw [left]
    omega
  exact ⟨nothing, settled.run_sweep_of_settled around kept nothing⟩

/-- The conditions can be met: the only lease of the small network is over, and one sweep settles
everything. -/
theorem sweep_effect_of_first_client :
    let around := Sample.around Sample.expiry
    let state := State.initial.play [Sample.leases 1 0]
    let settled := state.swept around ⟨1, none⟩ Sample.expiry
    (state.store.overdue Sample.expiry).length = 1 ∧ settled.store.overdue Sample.expiry = [] ∧
      settled.run around (sweep ⟨1, none⟩ Sample.expiry) = (.ok .none, settled) := by
  intro around state settled
  have single : (state.store.overdue Sample.expiry).length = 1 := by decide +kernel
  have unlocked : state.locks = .none := by decide +kernel
  have settles := (sweep_effect around ⟨1, none⟩ Sample.expiry state).2 (by decide) rfl
    fun address => by rw [unlocked]; rfl
  rw [single] at settles
  exact ⟨single, settles⟩

end Engine

end Leasehold
