import Leasehold.Proofs.Engine.Ledger
import Leasehold.Proofs.Engine.Search

/-!
# What an allocation does to the records

An allocation reads the record of an address, and goes on only when the address may be taken: it is
free, or the client itself holds it. Before the lease is recorded a record that is over is
reclaimed. Both writes expect what the task knows, so whatever others do in between, each of them is
a change that is open to the client (`keeps_allocate_sharing`). A recorded lease is the last thing
that the allocation writes, and an allocation that fails has handed out nothing.
-/
namespace Leasehold.Engine

open Ledger

/-- The record leaves room for a lease of an owner: it is vacant or reclaimed, or the owner holds
it. -/
def Leasable (now : Instant) (owner : Identifier) (record : Option Lease) : Prop :=
  (∀ old, record = some old → old.state = .reclaimed) ∨
    ∃ old, record = some old ∧ old.isActive now ∧ old.owner = some owner

variable {shown now : Instant} {own : Identifier → Prop} {granted : List Lease} {ledger : Ledger}

/-- A lease of an owner may be written where its record leaves room for it. -/
theorem Leasable.change {record : Option Lease} {lease : Lease} {owner : Identifier}
    (leasable : Leasable now owner record) (mine : own owner) (active : lease.state = .active)
    (seen : lease.lastSeen = now) (owned : lease.owner = some owner)
    (next : lease.version = recordVersion record + 1) : Change now own record (some lease) := by
  rcases leasable with free | ⟨old, rfl, held, ownedBefore⟩
  · exact .leased free active seen owned mine next
  · exact .renewed held ownedBefore mine active seen owned next

/-- An address that may be taken has a record that leaves room, unless it has to be reclaimed first.
-/
theorem leasable_of_standing {attempt : Attempt} {record : Option Lease}
    (passed : ∀ lease, attempt.standing record ≠ .blocked lease)
    (settled : ∀ old, record = some old → old.needsReclaim attempt.now = false) :
    Leasable attempt.now attempt.owner record := by
  cases record with
  | none => exact .inl nofun
  | some old =>
    have notOver := settled old rfl
    by_cases blocks : old.blocks attempt.now
    · right
      have held : old.state = .active ∧ old.isOwnedBy attempt.owner := by
        simpa [Attempt.standing, blocks] using passed old
      have alive : old.isExpired attempt.now = false := by
        simpa [Lease.needsReclaim, held.1] using notOver
      refine ⟨old, rfl, by simp [Lease.isActive, held.1, alive], ?_⟩
      simpa [Lease.isOwnedBy] using held.2
    · left
      rintro _ ⟨⟩
      cases state : old.state <;> simp_all [Lease.blocks, Lease.needsReclaim]

/-- What reclaiming a record reaches: the task knows the reclaimed record, if there is one. -/
def cleared (granted : List Lease) (address : Address) (result : Option Lease) (ledger : Ledger) :
    Prop :=
  match result with
  | none => HasGranted granted ledger
  | some stored => stored.state = .reclaimed ∧ Knows granted address (some stored) ledger

/-- What reclaiming a record reaches is steady. -/
theorem cleared_steady (granted : List Lease) (address : Address) (result : Option Lease) :
    Steady (sharing shown now own) (cleared granted address result) := by
  cases result with
  | none => exact hasGranted_steady granted
  | some stored =>
    exact steady_sharing fun meanwhile known => ⟨known.1, known.2.later meanwhile⟩

/-- A record that the task knows and that is over may be reclaimed. -/
theorem keeps_reclaim {lease : Lease} (knows : Knows granted lease.address (some lease) ledger)
    (ended : lease.needsReclaim now) :
    (reclaim lease).Keeps (sharing shown now own)
      (ending (cleared granted lease.address) (HasGranted granted)) ledger := by
  have writes : (call (.write { lease with state := .reclaimed } (.ofCurrent (some lease)))).Keeps
      (sharing shown now own) (ending (written now own granted
        { lease with state := .reclaimed, version := lease.version + 1 }) (HasGranted granted))
        ledger := keeps_write knows (.reclaimed ended)
  refine keeps_reclaim_of_write (cleared_steady granted lease.address)
    (writes.weaken fun {outcome last} reached => ?_)
  match outcome with
  | .error error => exact reached
  | .ok (.conflict found) => exact reached
  | .ok (.committed stored) =>
    obtain ⟨rfl, wrote⟩ := reached
    exact ⟨rfl, by simpa using wrote.granted, wrote.grown, by rintro _ ⟨⟩; rfl⟩

/-- Clearing the record of an address that may be taken leaves room for a lease of the client, when
the lease is to be recorded. -/
theorem keeps_clear {attempt : Attempt} {address : Address} {record : Option Lease}
    (knows : Knows granted address record ledger)
    (passed : ∀ lease, attempt.standing record ≠ .blocked lease) :
    (clear attempt record).Keeps (sharing shown attempt.now own)
      (ending (fun current last => Knows granted address current last ∧
        (attempt.mode = .commit → Leasable attempt.now attempt.owner current))
        (HasGranted granted)) ledger := by
  unfold clear
  split
  · next settled =>
    have room (commits : attempt.mode = .commit) :
        Leasable attempt.now attempt.owner record := by
      refine leasable_of_standing passed fun old stored => ?_
      simpa [Attempt.overdue?, commits, stored] using settled
    exact fun _ meanwhile => ⟨knows.later meanwhile, room⟩
  · next lease overdue =>
    obtain ⟨stored, ended⟩ : record = some lease ∧ lease.needsReclaim attempt.now := by
      unfold Attempt.overdue? at overdue
      cases mode : attempt.mode with
      | offer => simp [mode] at overdue
      | commit =>
        rw [mode] at overdue
        exact Option.filter_eq_some_iff.mp overdue
    subst stored
    obtain rfl := knows.placed lease rfl
    refine (keeps_reclaim knows ended).bind fun result last reached => ?_
    cases result with
    | none => exact (hasGranted_steady granted).failed _ reached
    | some reclaimed =>
      obtain ⟨ended, known⟩ := reached
      have room : Leasable attempt.now attempt.owner (some reclaimed) := by
        left
        rintro _ ⟨⟩
        exact ended
      exact fun _ meanwhile => ⟨known.later meanwhile, fun _ => room⟩

/-- A lease may be recorded where the record that the task knows leaves room for it. -/
theorem keeps_record {lease : Lease} {current : Option Lease} {owner : Identifier} {renewed : Bool}
    (knows : Knows granted lease.address current ledger) (room : Leasable now owner current)
    (mine : own owner) (active : lease.state = .active) (seen : lease.lastSeen = now)
    (owned : lease.owner = some owner) :
    (record lease current renewed).Keeps (sharing shown now own)
      (ending (fun stored last => stored = { lease with version := recordVersion current + 1 } ∧
        Wrote now own granted stored last) (HasGranted granted)) ledger := by
  refine (keeps_write knows (room.change mine active seen owned rfl)).bind
    fun outcome last reached => ?_
  cases outcome with
  | conflict found => exact (hasGranted_steady granted).failed _ reached
  | committed stored =>
    obtain ⟨same, wrote⟩ := reached
    rw [← same] at wrote
    have steady : Steady (sharing shown now own) (Wrote now own granted stored) :=
      wrote_steady granted stored
    have reports (last : Ledger) (wrote : Wrote now own granted stored last) :
        (do report (.committed stored); return stored : Task Lease).Keeps (sharing shown now own)
          (ending (fun stored last => stored = { lease with version := recordVersion current + 1 } ∧
            Wrote now own granted stored last) (HasGranted granted)) last :=
      steady.report_bind rfl wrote fun _ wrote => fun _ meanwhile =>
        ⟨same, wrote.later meanwhile⟩
    dsimp only
    split
    · exact steady.count_bind rfl wrote reports
    · exact reports last wrote

/-- What a grant reaches: its lease is the one of an attempt at the request, and it is recorded when
the allocation is. -/
structure Given (topology : Topology) (request : Request) (mode : AllocationMode) (now : Instant)
    (own : Identifier → Prop) (granted : List Lease) (grant : Grant) (ledger : Ledger) : Prop where
  /-- The lease is the one of an attempt. -/
  provided : ∃ attempt target version, Serves topology request mode now attempt ∧
    grant.lease = attempt.lease target version
  /-- An offer hands out nothing. -/
  offered : mode = .offer → HasGranted granted ledger
  /-- A lease that is committed was written. -/
  committed : mode = .commit → Wrote now own granted grant.lease ledger

variable {topology : Topology} {request : Request} {mode : AllocationMode}

/-- What a grant reaches is steady. -/
theorem given_steady (grant : Grant) :
    Steady (sharing shown now own) (Given topology request mode now own granted grant) :=
  steady_sharing fun meanwhile given =>
    ⟨given.provided, fun offers => (given.offered offers).later meanwhile,
      fun commits => (given.committed commits).later meanwhile⟩

/-- An attempt is made at the instant, and records leases when the allocation does. -/
theorem Serves.now_mode {attempt : Attempt} (serves : Serves topology request mode now attempt) :
    attempt.now = now ∧ attempt.mode = mode := by
  rw [serves.made]
  exact ⟨rfl, rfl⟩

/-- The client is given an address that it may have, as far as the record goes that the task knows.
-/
theorem keeps_grant {attempt : Attempt} (serves : Serves topology request mode now attempt)
    (mine : own attempt.owner) {target : Target} {kind : GrantKind} {record : Option Lease}
    {renewed : Bool} (knows : Knows granted target.address record ledger)
    (passed : ∀ lease, attempt.standing record ≠ .blocked lease) :
    (grant attempt target kind record renewed).Keeps (sharing shown now own)
      (ending (Given topology request mode now own granted) (HasGranted granted)) ledger := by
  obtain ⟨rfl, rfl⟩ := serves.now_mode
  refine (keeps_clear knows passed).bind fun current last ⟨known, room⟩ => ?_
  have steady : Steady (sharing shown attempt.now own) (Knows granted target.address current) :=
    knows_steady granted target.address current
  refine steady.query_bind rfl known fun approved later known => ?_
  cases approved with
  | false => exact (hasGranted_steady granted).failed _ known.granted
  | true =>
    dsimp only [Bool.not_true, Bool.false_eq_true, ↓reduceIte]
    cases mode : attempt.mode with
    | offer =>
      rw [mode] at serves
      have given (grant : Grant)
          (same : grant.lease = attempt.lease target (recordVersion current)) :
          Given topology request .offer attempt.now own granted grant later :=
        ⟨⟨attempt, target, recordVersion current, serves, same⟩, fun _ => known.granted, nofun⟩
      exact fun _ meanwhile => (given_steady _).spared meanwhile (given _ rfl)
    | commit =>
      rw [mode] at serves
      refine (keeps_record known (room mode) mine rfl rfl rfl).bind fun stored last reached => ?_
      obtain ⟨same, wrote⟩ := reached
      have given (grant : Grant) (lease : grant.lease = stored) :
          Given topology request .commit attempt.now own granted grant last :=
        ⟨⟨attempt, target, recordVersion current + 1, serves, lease.trans same⟩, nofun,
          fun _ => lease ▸ wrote⟩
      exact fun _ meanwhile => (given_steady _).spared meanwhile (given _ rfl)

/-- Trying the address that a reservation fixes gives it to the client, or hands out nothing. -/
theorem keeps_tryFixed {attempt : Attempt} (serves : Serves topology request mode now attempt)
    (mine : own attempt.owner) (target : Target) (idle : HasGranted granted ledger) :
    (tryFixed attempt target).Keeps (sharing shown now own)
      (ending (Given topology request mode now own granted) (HasGranted granted)) ledger := by
  have steady : Steady (sharing shown now own) (HasGranted granted) := hasGranted_steady granted
  refine keeps_holding steady given_steady (fun _ => steady) idle
    (fun later idle => steady.failed _ idle) fun later idle => ?_
  refine (keeps_getLease idle).bind fun record last knows => ?_
  cases standing : attempt.standing record with
  | free => exact keeps_grant serves mine knows (by simp [standing])
  | held => exact keeps_grant serves mine knows (by simp [standing])
  | blocked lease => exact steady.failed _ knows.granted

/-- Trying an address of a pool gives it to the client, or hands out nothing. -/
theorem keeps_tryTarget {attempt : Attempt} (serves : Serves topology request mode now attempt)
    (mine : own attempt.owner) (target : Target) (idle : HasGranted granted ledger) :
    (tryTarget topology attempt target).Keeps (sharing shown now own)
      (ending (tried (Given topology request mode now own granted) (HasGranted granted))
        (HasGranted granted)) ledger := by
  have steady : Steady (sharing shown now own) (HasGranted granted) := hasGranted_steady granted
  have triedSteady (result : Tried) : Steady (sharing shown now own)
      (tried (Given topology request mode now own granted) (HasGranted granted) result) := by
    cases result with
    | granted grant => exact given_steady grant
    | unavailable => exact steady
    | busy => exact steady
  unfold tryTarget
  split
  · exact fun _ meanwhile => steady.spared meanwhile idle
  refine keeps_holding steady triedSteady (fun _ => steady) idle
    (fun later idle => fun _ meanwhile => steady.spared meanwhile idle) fun later idle => ?_
  refine (keeps_getLease idle).bind fun record last knows => ?_
  have grants (kind : GrantKind) (renewed : Bool)
      (passed : ∀ lease, attempt.standing record ≠ .blocked lease) :
      (do return .granted (← grant attempt target kind record renewed) : Task Tried).Keeps
        (sharing shown now own)
        (ending (tried (Given topology request mode now own granted) (HasGranted granted))
          (HasGranted granted)) last :=
    (keeps_grant serves mine knows passed).bind fun grant _ given =>
      fun _ meanwhile => (given_steady grant).spared meanwhile given
  cases standing : attempt.standing record with
  | free => exact grants .new false (by simp [standing])
  | held => exact grants .renewed true (by simp [standing])
  | blocked lease => exact fun _ meanwhile => steady.spared meanwhile knows.granted

/-- An allocation that shares the store with others ends with a lease that is recorded, or only
offered, as its mode says, or it fails and has handed out nothing. -/
theorem keeps_allocate_sharing (mine : ∀ owner, request.identifiers.Owns owner → own owner)
    {limit : Option Nat} (idle : HasGranted granted ledger) :
    (allocate topology request mode limit).Keeps (sharing now now own)
      (ending (Given topology request mode now own granted) (HasGranted granted)) ledger := by
  have owner {attempt : Attempt} (serves : Serves topology request mode now attempt) :
      own attempt.owner := mine _ ⟨_, serves.owned⟩
  have reaches : Reaches (sharing now now own) topology request mode now
      (Given topology request mode now own granted) (HasGranted granted)
      (fun _ => HasGranted granted) :=
    { clock := Answers.clock
      idleCalm := (hasGranted_steady granted).calm
      givenCalm := fun grant => (given_steady grant).calm
      badCalm := fun _ => (hasGranted_steady granted).calm
      stayed := fun _ _ _ idle => idle
      fixed := fun _ serves target _ _ idle => keeps_tryFixed serves (owner serves) target idle
      dynamic := fun _ serves target _ _ idle => keeps_tryTarget serves (owner serves) target idle }
  exact reaches.keeps_allocate idle

end Leasehold.Engine
