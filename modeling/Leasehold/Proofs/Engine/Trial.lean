import Leasehold.Engine.Allocate
import Leasehold.Proofs.Engine.Scene
import Leasehold.Proofs.Store.Growth

/-!
# What becomes of one address

An allocation on its own tries one address after another. What becomes of one of them follows from
the attempt and the scene. An address that the attempt admits is given to the client, unless the
review turns the lease down; the grant, and the store afterwards, are computed here
(`run_tryTarget_of_admits`, `run_tryFixed_of_free`). Every other address leaves the scene as it is.
-/
namespace Leasehold

open Engine (Surroundings Scene)

namespace Store

/-- What is read of a record is what a write that comes right after it expects. -/
theorem nextVersion?_ofCurrent (current : Option Lease) :
    nextVersion? (.ofCurrent current) current = some (recordVersion current + 1) := by
  cases current <;> simp [nextVersion?, Expectation.ofCurrent, recordVersion]

/-- A write that expects what is stored is committed. -/
theorem write_ofCurrent_self {store : Store} {lease : Lease} {current : Option Lease}
    (stored : store.get? lease.address = current) :
    store.write lease (.ofCurrent current) =
      (.committed { lease with version := recordVersion current + 1 },
        store.insert { lease with version := recordVersion current + 1 }) := by
  apply write_of_met
  rw [stored]
  exact nextVersion?_ofCurrent current

end Store

namespace Attempt

variable (attempt : Attempt)

/-- A record that was reclaimed. -/
def reclaimed (lease : Lease) : Lease :=
  { lease with state := .reclaimed, version := lease.version + 1 }

/-- The record of an address, once it has been reclaimed where that is due. -/
def clearedRecord (current : Option Lease) : Option Lease :=
  match attempt.overdue? current with
  | none => current
  | some lease => some (reclaimed lease)

/-- The store, once the record of an address has been reclaimed where that is due. -/
def clearedStore (current : Option Lease) (store : Store) : Store :=
  match attempt.overdue? current with
  | none => store
  | some lease => store.insert (reclaimed lease)

/-- The lease that is reviewed. -/
def proposal (target : Target) (current : Option Lease) : Lease :=
  attempt.lease target (recordVersion (attempt.clearedRecord current))

/-- The lease that the client is given. Recording it counts its version on. -/
def issued (target : Target) (current : Option Lease) : Lease :=
  match attempt.mode with
  | .offer => attempt.proposal target current
  | .commit => attempt.lease target (recordVersion (attempt.clearedRecord current) + 1)

/-- What the client is given. -/
def grantOf (target : Target) (kind : GrantKind) (current : Option Lease) : Grant where
  lease := attempt.issued target current
  subnet := attempt.subnet.id
  pool := target.pool
  kind := kind
  hostname := attempt.hostname
  classes := attempt.classes
  lifetimes := attempt.lifetimes
  committed := attempt.mode == .commit

/-- The review lets the lease through. -/
def isApproved (around : Surroundings) (target : Target) (current : Option Lease) : Bool :=
  around.review attempt.request (attempt.proposal target current) attempt.mode

/-- What giving the client an address ends in. -/
def given (around : Surroundings) (target : Target) (kind : GrantKind) (current : Option Lease) :
    Except EngineError Grant :=
  if attempt.isApproved around target current then .ok (attempt.grantOf target kind current)
  else .error (.turnedDown target.address)

/-- The store after the client was given an address. -/
def storeAfter (around : Surroundings) (target : Target) (current : Option Lease) (store : Store) :
    Store :=
  match attempt.mode with
  | .offer => store
  | .commit =>
    if attempt.isApproved around target current then
      (attempt.clearedStore current store).insert (attempt.issued target current)
    else attempt.clearedStore current store

/-- The record of an address does not keep it from the client. -/
def mayHave (current : Option Lease) : Bool :=
  match attempt.standing current with
  | .free | .held => true
  | .blocked _ => false

/-- How the client comes by an address that it may have. -/
def kindOf (current : Option Lease) : GrantKind :=
  match attempt.standing current with
  | .held => .renewed
  | .free | .blocked _ => .new

/-- The address is given to the client when it is tried. -/
def admits (topology : Topology) (scene : Scene) (address : Address) : Bool :=
  !attempt.isKeptForOther topology address && !scene.locks.isLocked address &&
    attempt.mayHave (scene.store.get? address)

/-- The address is passed over because it is locked. -/
def passesOver (topology : Topology) (scene : Scene) (address : Address) : Bool :=
  !attempt.isKeptForOther topology address && scene.locks.isLocked address

variable {attempt}

/-- Without a review the client is given the address. -/
theorem given_eq {around : Surroundings}
    (unreviewed : ∀ request lease mode, around.review request lease mode = true) (target : Target)
    (kind : GrantKind) (current : Option Lease) :
    attempt.given around target kind current = .ok (attempt.grantOf target kind current) := by
  simp [given, isApproved, unreviewed]

/-- An address that is found for the client does not count as reserved. -/
theorem kindOf_ne_reserved (current : Option Lease) : attempt.kindOf current ≠ .reserved := by
  unfold kindOf
  split <;> decide

/-- What an attempt admits is kept for nobody else, is not locked, and may be had. -/
theorem admits_eq_true_iff {topology : Topology} {scene : Scene} {address : Address} :
    attempt.admits topology scene address = true ↔
      attempt.isKeptForOther topology address = false ∧ scene.locks.isLocked address = false ∧
        attempt.mayHave (scene.store.get? address) = true := by
  unfold admits
  rw [Bool.and_eq_true, Bool.and_eq_true, Bool.not_eq_true', Bool.not_eq_true', and_assoc]

/-- Only records that are to be reclaimed are cleared, and only when the allocation is recorded. -/
theorem overdue?_eq_some {current : Option Lease} {lease : Lease}
    (overdue : attempt.overdue? current = some lease) :
    current = some lease ∧ attempt.mode = .commit := by
  unfold overdue? at overdue
  cases mode : attempt.mode with
  | offer => simp [mode] at overdue
  | commit =>
    rw [mode] at overdue
    exact ⟨(Option.filter_eq_some_iff.mp overdue).1, rfl⟩

/-- Clearing touches the record of its address alone. -/
theorem get?_clearedStore {store : Store} {address : Address} {current : Option Lease}
    (stored : store.get? address = current) (other : Address) :
    (attempt.clearedStore current store).get? other =
      if other = address then attempt.clearedRecord current else store.get? other := by
  unfold clearedStore clearedRecord
  cases overdue : attempt.overdue? current with
  | none =>
    by_cases same : other = address
    · simp [same, stored]
    · simp [same]
  | some lease =>
    obtain ⟨rfl, -⟩ := overdue?_eq_some overdue
    have placed : lease.address = address := Store.address_of_get? stored
    dsimp only
    rw [Store.get?_insert]
    by_cases same : other = address
    · simp [reclaimed, placed, same]
    · simp [reclaimed, placed, same, Ne.symm same]

/-- An offer clears nothing. -/
theorem clearedStore_of_offer (offers : attempt.mode = .offer) (current : Option Lease)
    (store : Store) : attempt.clearedStore current store = store := by
  simp [clearedStore, overdue?, offers]

/-- The lease that the client is given is that of the attempt, with some version. -/
theorem exists_issued (attempt : Attempt) (target : Target) (current : Option Lease) :
    ∃ version, attempt.issued target current = attempt.lease target version := by
  unfold issued
  cases attempt.mode with
  | offer => exact ⟨_, rfl⟩
  | commit => exact ⟨_, rfl⟩

/-- The lease that the client is given is for the address. -/
theorem issued_address (target : Target) (current : Option Lease) :
    (attempt.issued target current).address = target.address := by
  unfold issued
  cases attempt.mode <;> rfl

/-- An offer leaves the store as it is. -/
theorem storeAfter_of_offer (offers : attempt.mode = .offer) (around : Surroundings)
    (target : Target) (current : Option Lease) (store : Store) :
    attempt.storeAfter around target current store = store := by
  simp [storeAfter, offers]

/-- A lease that is recorded is stored for its address, and the other records are as before. -/
theorem get?_storeAfter_of_commit (commits : attempt.mode = .commit) {around : Surroundings}
    {target : Target} {current : Option Lease} {store : Store}
    (stored : store.get? target.address = current)
    (approved : attempt.isApproved around target current = true) (other : Address) :
    (attempt.storeAfter around target current store).get? other =
      if other = target.address then some (attempt.issued target current)
      else store.get? other := by
  simp only [storeAfter, commits, approved, if_true]
  rw [Store.get?_insert, issued_address, get?_clearedStore stored]
  by_cases same : other = target.address
  · simp [same]
  · simp [same, Ne.symm same]

end Attempt

namespace Engine

variable {topology : Topology} {attempt : Attempt} {around : Surroundings} {scene : Scene}

namespace Scene

/-- A record that is stored is reclaimed. -/
theorem run_reclaim {lease : Lease} (stored : scene.store.get? lease.address = some lease) :
    scene.run around (reclaim lease) =
      (.ok (some (Attempt.reclaimed lease)),
        { scene with store := scene.store.insert (Attempt.reclaimed lease) }) := by
  have committed : scene.store.write { lease with state := .reclaimed } (.version lease.version) =
      (.committed (Attempt.reclaimed lease), scene.store.insert (Attempt.reclaimed lease)) :=
    Store.write_of_met (by simp [stored, Store.nextVersion?])
  unfold reclaim
  rw [run_write_bind, committed]
  dsimp only
  split <;> rfl

/-- The record that is stored for an address is reclaimed where that is due. -/
theorem run_clear {address : Address} {current : Option Lease}
    (stored : scene.store.get? address = current) :
    scene.run around (clear attempt current) =
      (.ok (attempt.clearedRecord current),
        { scene with store := attempt.clearedStore current scene.store }) := by
  unfold clear Attempt.clearedRecord Attempt.clearedStore
  cases overdue : attempt.overdue? current with
  | none => rfl
  | some lease =>
    obtain ⟨rfl, -⟩ := Attempt.overdue?_eq_some overdue
    have placed : lease.address = address := Store.address_of_get? stored
    rw [← placed] at stored
    dsimp only
    rw [run_bind_ok (run_reclaim stored)]
    rfl

/-- A lease is recorded where what is known of the record is stored. -/
theorem run_record {lease : Lease} {current : Option Lease} {renewed : Bool}
    (stored : scene.store.get? lease.address = current) :
    scene.run around (record lease current renewed) =
      (.ok { lease with version := recordVersion current + 1 },
        { scene with
          store := scene.store.insert { lease with version := recordVersion current + 1 } }) := by
  unfold record
  rw [run_write_bind, Store.write_ofCurrent_self stored]
  dsimp only
  split <;> rfl

/-- What giving the client an address ends in, and what it leaves. -/
theorem run_grant {target : Target} {kind : GrantKind} {current : Option Lease} {renewed : Bool}
    (stored : scene.store.get? target.address = current) :
    scene.run around (grant attempt target kind current renewed) =
      (attempt.given around target kind current,
        { scene with store := attempt.storeAfter around target current scene.store }) := by
  have cleared : (attempt.clearedStore current scene.store).get? target.address =
      attempt.clearedRecord current := by
    rw [Attempt.get?_clearedStore stored, if_pos rfl]
  unfold grant
  rw [run_bind_ok (run_clear stored)]
  dsimp only
  rw [run_review_bind]
  change Scene.run around (if !attempt.isApproved around target current then _ else _) _ = _
  unfold Attempt.given Attempt.storeAfter
  cases approved : attempt.isApproved around target current with
  | false =>
    cases mode : attempt.mode with
    | offer =>
      rw [Attempt.clearedStore_of_offer mode]
      rfl
    | commit => rfl
  | true =>
    cases mode : attempt.mode with
    | offer =>
      rw [Attempt.clearedStore_of_offer mode]
      simp only [Attempt.grantOf, Attempt.issued, mode]
      rfl
    | commit =>
      have recorded : { scene with store := attempt.clearedStore current scene.store }.run around
          (record (attempt.proposal target current) (attempt.clearedRecord current) renewed) =
          (.ok (attempt.issued target current),
            { scene with
              store := (attempt.clearedStore current scene.store).insert
                (attempt.issued target current) }) := by
        rw [run_record (show _ = attempt.clearedRecord current from cleared)]
        simp only [Attempt.issued, mode]
        rfl
      refine (run_bind_ok recorded).trans ?_
      simp only [Attempt.grantOf, Attempt.issued, mode]
      rfl

/-- An address that the attempt admits is given to the client. -/
theorem run_tryTarget_of_admits {target : Target}
    (admitted : attempt.admits topology scene target.address = true) :
    let record := scene.store.get? target.address
    scene.run around (tryTarget topology attempt target) =
      ((attempt.given around target (attempt.kindOf record) record).map .granted,
        { scene with store := attempt.storeAfter around target record scene.store }) := by
  intro record
  obtain ⟨unkept, free, allowed⟩ := Attempt.admits_eq_true_iff.mp admitted
  have may : attempt.mayHave record = true := allowed
  unfold tryTarget
  rw [unkept, if_neg Bool.false_ne_true]
  apply run_holding_of_free free
  rw [run_getLease_bind]
  change Scene.run around (match attempt.standing record with | _ => _) _ = _
  -- Either way the record is the one that is stored, whoever holds the lock.
  have granted (kind : GrantKind) (renewed : Bool) :
      { scene with locks := (scene.locks.lock target.address).2 }.run around
        (do return .granted (← grant attempt target kind record renewed) : Task Tried) =
      ((attempt.given around target kind record).map .granted,
        ⟨attempt.storeAfter around target record scene.store,
          (scene.locks.lock target.address).2, scene.cursors⟩) := by
    have ran : { scene with locks := (scene.locks.lock target.address).2 }.run around
        (grant attempt target kind record renewed) = (attempt.given around target kind record,
          ⟨attempt.storeAfter around target record scene.store,
            (scene.locks.lock target.address).2, scene.cursors⟩) := run_grant rfl
    rw [run_bind, ran]
    cases attempt.given around target kind record <;> rfl
  cases standing : attempt.standing record with
  | free =>
    simp only [Attempt.kindOf, standing]
    exact granted .new false
  | held =>
    simp only [Attempt.kindOf, standing]
    exact granted .renewed true
  | blocked lease => simp [Attempt.mayHave, standing] at may

/-- An address that the attempt does not admit is passed over, and the scene stays as it is. -/
theorem run_tryTarget_of_not_admits {target : Target}
    (refused : attempt.admits topology scene target.address = false) :
    scene.run around (tryTarget topology attempt target) =
      (.ok (if attempt.passesOver topology scene target.address then .busy else .unavailable),
        scene) := by
  unfold tryTarget
  cases kept : attempt.isKeptForOther topology target.address with
  | true => simp [Attempt.passesOver, kept]
  | false =>
    cases locked : scene.locks.isLocked target.address with
    | true =>
      rw [if_neg Bool.false_ne_true, run_holding_of_locked locked]
      simp [Attempt.passesOver, kept, locked]
    | false =>
      have blocked : attempt.mayHave (scene.store.get? target.address) = false := by
        simpa [Attempt.admits, kept, locked] using refused
      have passed : attempt.passesOver topology scene target.address = false := by
        simp [Attempt.passesOver, locked]
      rw [if_neg Bool.false_ne_true, passed, if_neg Bool.false_ne_true]
      apply run_holding_of_free locked
      rw [run_getLease_bind]
      change Scene.run around
        (match attempt.standing (scene.store.get? target.address) with | _ => _) _ = _
      cases standing : attempt.standing (scene.store.get? target.address) with
      | free => simp [Attempt.mayHave, standing] at blocked
      | held => simp [Attempt.mayHave, standing] at blocked
      | blocked lease => rfl

/-- The address that a reservation fixes is given to the client when it is free. -/
theorem run_tryFixed_of_free {target : Target}
    (free : scene.locks.isLocked target.address = false)
    (may : attempt.mayHave (scene.store.get? target.address) = true) :
    let record := scene.store.get? target.address
    scene.run around (tryFixed attempt target) =
      (attempt.given around target .reserved record,
        { scene with store := attempt.storeAfter around target record scene.store }) := by
  intro record
  apply run_holding_of_free free
  rw [run_getLease_bind]
  change Scene.run around (match attempt.standing record with | _ => _) _ = _
  cases standing : attempt.standing record with
  | free => exact run_grant rfl
  | held => exact run_grant rfl
  | blocked lease =>
    have refused : attempt.mayHave record = false := by simp [Attempt.mayHave, standing]
    rw [refused] at may
    exact absurd may Bool.false_ne_true

/-- Trying the address that a reservation fixes fails when it is locked. -/
theorem run_tryFixed_of_locked {target : Target}
    (locked : scene.locks.isLocked target.address = true) :
    scene.run around (tryFixed attempt target) =
      (.error (.lostRace target.address), scene) := run_holding_of_locked locked

/-- Trying the address that a reservation fixes fails when its record keeps it from the client. -/
theorem run_tryFixed_of_blocked {target : Target}
    (free : scene.locks.isLocked target.address = false) {lease : Lease}
    (blocked : attempt.standing (scene.store.get? target.address) = .blocked lease) :
    scene.run around (tryFixed attempt target) =
      (.error (.reservationConflict target.address (holder lease)), scene) := by
  apply run_holding_of_free free
  rw [run_getLease_bind]
  change Scene.run around
    (match attempt.standing (scene.store.get? target.address) with | _ => _) _ = _
  rw [blocked]
  rfl

/-- The address that a reservation fixes is given to nobody else: trying it fails when it is locked
or its record keeps it from the client. -/
theorem run_tryFixed_of_not_free {target : Target}
    (taken : scene.locks.isLocked target.address = true ∨
      attempt.mayHave (scene.store.get? target.address) = false) :
    ∃ error, scene.run around (tryFixed attempt target) = (.error error, scene) := by
  cases locked : scene.locks.isLocked target.address with
  | true => exact ⟨_, run_tryFixed_of_locked locked⟩
  | false =>
    have blocked : attempt.mayHave (scene.store.get? target.address) = false :=
      taken.resolve_left (by simp [locked])
    cases standing : attempt.standing (scene.store.get? target.address) with
    | free => simp [Attempt.mayHave, standing] at blocked
    | held => simp [Attempt.mayHave, standing] at blocked
    | blocked lease => exact ⟨_, run_tryFixed_of_blocked locked standing⟩

end Scene

end Engine

end Leasehold
