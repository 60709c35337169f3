import Leasehold.Proofs.Engine.Allocation
import Leasehold.Proofs.Engine.Chronicle

/-!
# What an allocation leaves behind

An allocation that has the store to itself changes the record of at most one address: it reclaims
the record where that is due, and then it records the lease. An offer changes nothing
(`keeps_allocate`). What an allocation leaves that fails is told by its error. In most cases it has
changed nothing; where a review turned the lease down, the record was reclaimed before that, and a
repository that fails may do so before the record is reclaimed or after.
-/
namespace Leasehold

open Engine (wasAssigned)

namespace Attempt

variable {attempt : Attempt}

/-- Once it is cleared, the record of an address that the client may take counts as handed out when
the client holds it, and only then. -/
theorem any_wasAssigned_clearedRecord (commits : attempt.mode = .commit) {current : Option Lease}
    (passed : ∀ lease, attempt.standing current ≠ .blocked lease) :
    (attempt.clearedRecord current).any wasAssigned =
      decide (attempt.standing current = .held) := by
  cases current with
  | none => simp [clearedRecord, overdue?, commits, standing]
  | some lease =>
    have notBlocked := passed lease
    by_cases due : lease.needsReclaim attempt.now
    · have cleared : attempt.clearedRecord (some lease) = some (reclaimed lease) := by
        simp [clearedRecord, overdue?, commits, Option.filter, due]
      have free : lease.blocks attempt.now = false := by
        cases state : lease.state <;> simp_all [Lease.blocks, Lease.needsReclaim]
      rw [cleared]
      simp [standing, free, wasAssigned, reclaimed]
    · have kept : attempt.clearedRecord (some lease) = some lease := by
        simp [clearedRecord, overdue?, commits, Option.filter, due]
      rw [kept]
      clear passed
      cases state : lease.state <;>
        simp_all [standing, Lease.blocks, Lease.needsReclaim, wasAssigned]

/-- Clearing the record of an address that the client may take leaves room for its lease. -/
theorem leasable_clearedRecord (commits : attempt.mode = .commit) {current : Option Lease}
    (passed : ∀ lease, attempt.standing current ≠ .blocked lease) :
    Engine.Leasable attempt.now attempt.owner (attempt.clearedRecord current) := by
  unfold clearedRecord
  cases overdue : attempt.overdue? current with
  | none =>
    refine Engine.leasable_of_standing passed fun old stored => ?_
    simpa [overdue?, commits, stored, Option.filter] using overdue
  | some lease =>
    left
    rintro _ ⟨⟩
    rfl

end Attempt

namespace Engine

/-- What an allocation that starts somewhere leaves when it fails, as far as its error tells. Where
a lease was turned down, its address had been prepared. Where the repository failed, an address may
have been prepared before. In all other cases nothing was done. -/
def Setback {σ : Type} (start : σ) (prepared : Address → σ) : EngineError → σ → Prop
  | .turnedDown address, last => last = prepared address
  | .unavailable _, last | .repository _, last => last = start ∨ ∃ address, last = prepared address
  | _, last => last = start

namespace Setback

variable {σ τ : Type} {start : σ} {prepared : Address → σ}

/-- An allocation that fails may have done nothing, unless a lease was turned down. -/
theorem of_not_isRefusal (error : EngineError) (kept : error.isRefusal = false) :
    Setback start prepared error start := by
  cases error with
  | turnedDown address => exact nomatch kept
  | unavailable reason => exact .inl rfl
  | repository reason => exact .inl rfl
  | _ => rfl

/-- An allocation that fails with the repository may have done nothing. -/
theorem of_repository (error : RepositoryError) :
    Setback start prepared (.ofRepository error) start :=
  of_not_isRefusal _ (EngineError.isRefusal_ofRepository error)

/-- An allocation that fails with the repository may have prepared an address before. -/
theorem of_repository_later (address : Address) (error : RepositoryError) :
    Setback start prepared (.ofRepository error) (prepared address) := by
  cases error <;> exact .inr ⟨address, rfl⟩

/-- Whatever the error is, nothing was done, or an address had been prepared. -/
theorem eq_or_eq_prepared {error : EngineError} {last : σ}
    (setback : Setback start prepared error last) :
    last = start ∨ ∃ address, last = prepared address := by
  cases error with
  | turnedDown address => exact .inr ⟨address, setback⟩
  | unavailable reason => exact setback
  | repository reason => exact setback
  | _ => exact .inl setback

/-- What is left can be seen in part. -/
theorem map (part : σ → τ) {error : EngineError} {last : σ}
    (setback : Setback start prepared error last) :
    Setback (part start) (part ∘ prepared) error (part last) := by
  cases error with
  | turnedDown address => exact congrArg part setback
  | unavailable reason =>
    exact setback.imp (congrArg part) fun ⟨address, same⟩ => ⟨address, congrArg part same⟩
  | repository reason =>
    exact setback.imp (congrArg part) fun ⟨address, same⟩ => ⟨address, congrArg part same⟩
  | _ => exact congrArg part setback

end Setback

namespace Chronicle

variable {now : Instant} {chronicle : Chronicle}

/-- The chronicle after the record of an address was reclaimed, if that was due. -/
def cleared (chronicle : Chronicle) (now : Instant) (address : Address) : Chronicle :=
  match (chronicle.store.get? address).filter (·.needsReclaim now) with
  | none => chronicle
  | some lease => chronicle.settled (Attempt.reclaimed lease)

/-- The chronicle when a lease on an address is about to be reviewed. -/
def prepared (chronicle : Chronicle) (mode : AllocationMode) (now : Instant) (address : Address) :
    Chronicle :=
  match mode with
  | .offer => chronicle
  | .commit => chronicle.cleared now address

variable {attempt : Attempt} {address : Address}

/-- What an attempt does before a review is to reclaim the record where that is due for it. -/
theorem prepared_eq :
    chronicle.prepared attempt.mode attempt.now address =
      match attempt.overdue? (chronicle.store.get? address) with
      | none => chronicle
      | some lease => chronicle.settled (Attempt.reclaimed lease) := by
  unfold prepared cleared Attempt.overdue?
  cases attempt.mode <;> rfl

/-- The record that an attempt finds when a lease is about to be reviewed. -/
theorem get?_prepared :
    (chronicle.prepared attempt.mode attempt.now address).store.get? address =
      attempt.clearedRecord (chronicle.store.get? address) := by
  have store : (chronicle.prepared attempt.mode attempt.now address).store =
      attempt.clearedStore (chronicle.store.get? address) chronicle.store := by
    rw [prepared_eq]
    unfold Attempt.clearedStore
    cases attempt.overdue? (chronicle.store.get? address) <;> rfl
  rw [store, Attempt.get?_clearedStore rfl, if_pos rfl]

/-- The record of an address is reclaimed where that is due, unless the repository fails before. -/
theorem keeps_clear {good : Option Lease → Chronicle → Prop} {bad : EngineError → Chronicle → Prop}
    (failing : ∀ error, bad (.ofRepository error) chronicle)
    (reached : good (attempt.clearedRecord (chronicle.store.get? address))
      (chronicle.prepared attempt.mode attempt.now address)) :
    (clear attempt (chronicle.store.get? address)).Keeps (observed now) (concluding good bad)
      chronicle := by
  rw [prepared_eq] at reached
  unfold Attempt.clearedRecord at reached
  unfold clear
  cases overdue : attempt.overdue? (chronicle.store.get? address) with
  | none =>
    rw [overdue] at reached
    rintro later rfl
    exact reached
  | some lease =>
    rw [overdue] at reached
    obtain ⟨stored, -⟩ := Attempt.overdue?_eq_some overdue
    have placed : lease.address = address := Store.address_of_get? stored
    rw [← placed] at stored
    have reclaims : (reclaim lease).Keeps (observed now)
        (concluding (fun result last => result = some (Attempt.reclaimed lease) ∧
          last = chronicle.settled (Attempt.reclaimed lease)) bad) chronicle :=
      keeps_reclaim stored failing ⟨rfl, rfl⟩
    refine reclaims.bind ?_
    rintro _ _ ⟨rfl, rfl⟩
    rintro later rfl
    exact reached

/-- A lease is recorded for an address, unless the repository fails before. -/
theorem keeps_record {lease : Lease} {renewed : Bool} {good : Lease → Chronicle → Prop}
    {bad : EngineError → Chronicle → Prop} (active : lease.state = .active)
    (counted : (chronicle.store.get? lease.address).any wasAssigned = renewed)
    (failing : ∀ error, bad (.ofRepository error) chronicle)
    (reached : ∀ stored, stored =
      { lease with version := recordVersion (chronicle.store.get? lease.address) + 1 } →
        good stored (chronicle.settled stored)) :
    (record lease (chronicle.store.get? lease.address) renewed).Keeps (observed now)
      (concluding good bad) chronicle := by
  have met := Store.nextVersion?_ofCurrent (chronicle.store.get? lease.address)
  generalize same : recordVersion (chronicle.store.get? lease.address) + 1 = version at met reached
  have notices : (chronicle.recording { lease with version }).notices =
      (if renewed then [] else [.count (.assigned lease.subnet) 1]) ++
        [.committed { lease with version }] := by
    have handedOut : ({ lease with version } : Lease).state = .active := active
    rw [RecordChange.notices_of_active rfl handedOut]
    simp [RecordChange.tookAssigned, recording, counted]
  have goal := reached _ rfl
  rw [← announced_afterCall_write met, notices] at goal
  refine write_bind met failing ?_
  dsimp only
  cases renewed with
  | true =>
    refine report_bind rfl ?_
    rintro later rfl
    exact goal
  | false =>
    refine report_bind rfl (report_bind rfl ?_)
    rintro later rfl
    rw [announced_announced]
    exact goal

/-- A lease was recorded, after the record of its address had been reclaimed where that was due: the
address was free by then, or the client itself held it. -/
structure Records (now : Instant) (request : Request) (start : Chronicle) (lease : Lease)
    (last : Chronicle) : Prop where
  /-- The lease is that of the client, and the record left room for it. -/
  owned : ∃ owner, request.identifiers.Owns owner ∧ lease.owner = some owner ∧
    Leasable now owner ((start.cleared now lease.address).store.get? lease.address)
  /-- It was handed out. -/
  active : lease.state = .active
  /-- It was handed out at the instant. -/
  seen : lease.lastSeen = now
  /-- Its version is the next one. -/
  next : lease.version =
    recordVersion ((start.cleared now lease.address).store.get? lease.address) + 1
  /-- Nothing else was done. -/
  last : last = (start.cleared now lease.address).settled lease

/-- What a grant comes with: its lease is the one of an attempt, and was recorded, or nothing was
done, as the mode says. -/
structure Grants (topology : Topology) (request : Request) (mode : AllocationMode) (now : Instant)
    (start : Chronicle) (grant : Grant) (last : Chronicle) : Prop where
  /-- The lease is the one of an attempt. -/
  provided : ∃ attempt target version, Serves topology request mode now attempt ∧
    grant.lease = attempt.lease target version
  /-- An offer does nothing. -/
  offered : mode = .offer → last = start
  /-- A lease that is committed was recorded. -/
  recorded : mode = .commit → Records now request start grant.lease last

/-- What an allocation leaves that fails. -/
abbrev Leaves (mode : AllocationMode) (now : Instant) (start : Chronicle) :
    EngineError → Chronicle → Prop := Setback start (start.prepared mode now)

section Tries

variable {topology : Topology} {request : Request} {mode : AllocationMode} {start : Chronicle}

/-- An address that the client may have, as far as its record goes, is given to it, or the error
tells what was done. -/
theorem keeps_grant (serves : Serves topology request mode now attempt) {target : Target}
    {kind : GrantKind} {renewed : Bool}
    (passed : ∀ lease, attempt.standing (start.store.get? target.address) ≠ .blocked lease)
    (renews : decide (attempt.standing (start.store.get? target.address) = .held) = renewed) :
    (grant attempt target kind (start.store.get? target.address) renewed).Keeps (observed now)
      (concluding (Grants topology request mode now start) (Leaves mode now start)) start := by
  obtain ⟨rfl, rfl⟩ := serves.now_mode
  have owner : request.identifiers.Owns attempt.owner := ⟨_, serves.owned⟩
  have clears : (clear attempt (start.store.get? target.address)).Keeps (observed attempt.now)
      (concluding (fun current last =>
        current = attempt.clearedRecord (start.store.get? target.address) ∧
          last = start.prepared attempt.mode attempt.now target.address)
        (Leaves attempt.mode attempt.now start)) start :=
    keeps_clear Setback.of_repository ⟨rfl, rfl⟩
  refine clears.bind ?_
  rintro _ _ ⟨rfl, rfl⟩
  have stored : (start.prepared attempt.mode attempt.now target.address).store.get?
      target.address = attempt.clearedRecord (start.store.get? target.address) := get?_prepared
  refine (calm (· = start.prepared attempt.mode attempt.now target.address)).query_bind rfl rfl
    fun approved later same => ?_
  subst same
  cases approved with
  | false =>
    rintro later rfl
    exact rfl
  | true =>
    dsimp only [Bool.not_true, Bool.false_eq_true, ↓reduceIte]
    cases mode : attempt.mode with
    | offer =>
      rintro later rfl
      exact ⟨⟨attempt, target, _, mode ▸ serves, rfl⟩, fun _ => rfl, nofun⟩
    | commit =>
      have room := Attempt.leasable_clearedRecord mode passed
      have counted := Attempt.any_wasAssigned_clearedRecord mode passed
      rw [mode] at serves stored
      rw [renews, ← stored] at counted
      rw [← stored] at room
      have records : (record (attempt.lease target (recordVersion
          (attempt.clearedRecord (start.store.get? target.address))))
          (attempt.clearedRecord (start.store.get? target.address)) renewed).Keeps
          (observed attempt.now) (concluding (fun lease last =>
            lease = attempt.lease target (recordVersion
              ((start.cleared attempt.now target.address).store.get? target.address) + 1) ∧
            last = (start.cleared attempt.now target.address).settled lease)
          (Leaves .commit attempt.now start)) (start.prepared .commit attempt.now target.address) := by
        rw [← stored]
        exact keeps_record rfl counted (Setback.of_repository_later _)
          fun _ same => ⟨same, rfl⟩
      refine records.bind ?_
      rintro _ _ ⟨rfl, rfl⟩
      rintro later rfl
      exact ⟨⟨attempt, target, _, serves, rfl⟩, nofun, fun _ =>
        ⟨⟨attempt.owner, owner, rfl, room⟩, rfl, rfl, rfl, rfl⟩⟩

/-- The address that a reservation fixes is given to the client, or the error tells what was done.
-/
theorem keeps_tryFixed (serves : Serves topology request mode now attempt) (target : Target) :
    (tryFixed attempt target).Keeps (observed now)
      (concluding (Grants topology request mode now start) (Leaves mode now start)) start := by
  have idle : Calm (observed now) (· = start) := calm _
  refine keeps_holding idle (fun _ => calm _) (fun _ => calm _) rfl ?_ ?_
  · rintro later rfl last rfl
    exact rfl
  · rintro later rfl
    refine getLease_bind Setback.of_repository ?_
    cases standing : attempt.standing (later.store.get? target.address) with
    | free => exact keeps_grant serves (by simp [standing]) (by simp [standing])
    | held => exact keeps_grant serves (by simp [standing]) (by simp [standing])
    | blocked lease =>
      rintro last rfl
      exact rfl

/-- An address of a pool is given to the client, or nothing is done, or the error tells what was
done. -/
theorem keeps_tryTarget (serves : Serves topology request mode now attempt) (target : Target) :
    (tryTarget topology attempt target).Keeps (observed now)
      (concluding (tried (Grants topology request mode now start) (· = start))
        (Leaves mode now start)) start := by
  have idle : Calm (observed now) (· = start) := calm _
  unfold tryTarget
  split
  · rintro later rfl
    exact rfl
  refine keeps_holding idle (fun _ => calm _) (fun _ => calm _) rfl
    (fun later same => fun last next => next ▸ same) ?_
  rintro later rfl
  refine getLease_bind Setback.of_repository ?_
  have grants (kind : GrantKind) (renewed : Bool)
      (passed : ∀ lease, attempt.standing (later.store.get? target.address) ≠ .blocked lease)
      (renews : decide (attempt.standing (later.store.get? target.address) = .held) = renewed) :
      (do return .granted (← grant attempt target kind (later.store.get? target.address) renewed) :
        Task Tried).Keeps (observed now)
        (concluding (tried (Grants topology request mode now later) (· = later))
          (Leaves mode now later)) later :=
    (keeps_grant serves passed renews).bind fun grant last given => by
      rintro after rfl
      exact given
  cases standing : attempt.standing (later.store.get? target.address) with
  | free => exact grants .new false (by simp [standing]) (by simp [standing])
  | held => exact grants .renewed true (by simp [standing]) (by simp [standing])
  | blocked lease =>
    rintro last rfl
    exact rfl

/-- An allocation that has the store to itself does what its grant comes with, or what its error
tells. -/
theorem keeps_allocate {limit : Option Nat} (start : Chronicle) :
    (allocate topology request mode limit).Keeps (observed now)
      (concluding (Grants topology request mode now start) (Leaves mode now start)) start := by
  have reaches : Reaches (observed now) topology request mode now
      (Grants topology request mode now start) (· = start) (Leaves mode now start) :=
    { clock := clock_eq
      idleCalm := calm _
      givenCalm := fun _ => calm _
      badCalm := fun _ => calm _
      stayed := fun error kept _ same => same ▸ .of_not_isRefusal error kept
      fixed := fun _ serves target _ _ same => same ▸ keeps_tryFixed serves target
      dynamic := fun _ serves target _ _ same => same ▸ keeps_tryTarget serves target }
  exact reaches.keeps_allocate rfl

end Tries

end Chronicle

end Engine

end Leasehold
