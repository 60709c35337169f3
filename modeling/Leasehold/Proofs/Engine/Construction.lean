import Leasehold.Engine.Allocate
import Leasehold.Engine.GiveUp
import Leasehold.Engine.Sweep

/-!
# How tasks are put together

The tasks of an engine are put together in a few ways only: they are done or fail, ask a question, go
on from a result, make an error part of their result, and do some work under a lock. A property that
is handed on by all of these ways holds of every task, whatever it is told (`Compositional`). Where
deletions need an argument of their own, they are left to whoever uses a rule.

Some properties are not handed on by writes and by locks as such, but by the few pieces of work that
are made of them. For these the rules leave such pieces to whoever uses them (`Constructive`).
-/
namespace Leasehold.Engine

/-- The question neither calls the repository nor locks or unlocks an address. -/
def Ask.isPlain : Ask → Bool
  | .repository _ | .lock _ | .unlock _ => false
  | _ => true

/-- A property of tasks that is handed on by every way to put them together that neither changes a
record nor takes a lock. -/
structure Constructive (holds : {α : Type} → Task α → Prop) : Prop where
  /-- It holds of a task that is done. -/
  done : ∀ {α : Type} (result : α), holds (pure result : Task α)
  /-- It holds of a task that has failed. -/
  failed : ∀ {α : Type} (error : EngineError), holds (fail error : Task α)
  /-- It holds of one task after another. -/
  bind : ∀ {α β : Type} {first : Task α} {rest : α → Task β}, holds first →
    (∀ result, holds (rest result)) → holds (first >>= rest)
  /-- It holds of a task whose error is part of its result. -/
  attempt : ∀ {α : Type} {task : Task α}, holds task →
    holds (task.attempt : Task (Except EngineError α))
  /-- It holds of plain questions. -/
  query : ∀ question : Ask, question.isPlain = true → holds (query question)
  /-- It holds of calls that only read. -/
  read : ∀ request : RepositoryCall, request.kind ≠ .write → request.kind ≠ .delete →
    holds (call request)

namespace Constructive

variable {holds : {α : Type} → Task α → Prop} (rules : Constructive holds)
include rules

/-- A report. -/
theorem report (notice : Notice) : holds (report notice) := rules.query (.report notice) rfl

/-- A count. -/
theorem count (metric : Metric) (change : Int) : holds (count metric change) :=
  rules.report (.count metric change)

/-- The time. -/
theorem clock : holds clock := rules.query .clock rfl

/-- The record of an address. -/
theorem getLease (address : Address) : holds (call (.getLease address)) :=
  rules.read _ (by simp [RepositoryCall.kind]) (by simp [RepositoryCall.kind])

/-- An outcome that is only restored. -/
theorem ofExcept {α : Type} (outcome : Except EngineError α) :
    holds (Program.ofExcept outcome : Task α) := by
  cases outcome with
  | ok result => exact rules.done result
  | error error => exact rules.failed error

/-- Reclaiming a record, where writing it is covered. -/
theorem reclaim {lease : Lease}
    (writes : holds (call (.write { lease with state := .reclaimed } (.version lease.version)))) :
    holds (reclaim lease) := by
  unfold Engine.reclaim
  apply rules.bind writes
  intro outcome
  cases outcome with
  | conflict found => exact rules.done none
  | committed stored =>
    have reports : holds (do
        Engine.count .reclaimed 1
        Engine.report (.reclaimed stored)
        return some stored : Task (Option Lease)) :=
      rules.bind (rules.count _ _) fun _ => rules.bind (rules.report _) fun _ => rules.done _
    dsimp only
    split
    · exact rules.bind (rules.count _ _) fun _ => reports
    · exact reports

section Allocation

variable {topology : Topology} {request : Request} {mode : AllocationMode} {limit : Option Nat}
  {attempt : Attempt}

/-- Clearing the record of an address, where reclaiming it is covered. -/
theorem clear {current : Option Lease}
    (reclaims : ∀ lease, current = some lease → holds (Engine.reclaim lease)) :
    holds (clear attempt current) := by
  unfold Engine.clear
  split
  · exact rules.done current
  · next lease overdue =>
    have stored : current = some lease := by
      unfold Attempt.overdue? at overdue
      split at overdue
      · exact nomatch overdue
      · exact (Option.filter_eq_some_iff.mp overdue).1
    apply rules.bind (reclaims lease stored)
    intro result
    cases result with
    | none => exact rules.failed _
    | some reclaimed => exact rules.done _

/-- Recording a lease, where writing it is covered. -/
theorem record {lease : Lease} {current : Option Lease}
    (writes : holds (call (.write lease (.ofCurrent current)))) (renewed : Bool) :
    holds (record lease current renewed) := by
  unfold Engine.record
  apply rules.bind writes
  intro outcome
  cases outcome with
  | conflict found => exact rules.failed _
  | committed stored =>
    have reports : holds (do
        Engine.report (.committed stored)
        return stored : Task Lease) :=
      rules.bind (rules.report _) fun _ => rules.done _
    dsimp only
    split
    · exact rules.bind (rules.count _ _) fun _ => reports
    · exact reports

/-- Giving the client an address, where clearing it and recording the lease are covered. -/
theorem grant {target : Target} {current : Option Lease} {renewed : Bool}
    (clears : holds (Engine.clear attempt current))
    (records : ∀ current version, holds (Engine.record (attempt.lease target version) current
      renewed)) (kind : GrantKind) :
    holds (grant attempt target kind current renewed) := by
  unfold Engine.grant
  apply rules.bind clears
  intro current
  apply rules.bind (rules.query _ rfl)
  intro approved
  cases approved with
  | false => exact rules.failed _
  | true =>
    dsimp only [Bool.not_true, Bool.false_eq_true, ↓reduceIte]
    cases mode : attempt.mode with
    | offer => exact rules.bind (rules.done _) fun _ => rules.done _
    | commit => exact rules.bind (records _ _) fun _ => rules.done _

section Tries

variable (dynamic : ∀ target, holds (tryTarget topology attempt target))
include dynamic

/-- Trying addresses one after another. -/
theorem tryTargets (targets : List Target) (busy : Option Address) :
    holds (tryTargets topology attempt busy targets) := by
  induction targets generalizing busy with
  | nil => exact rules.done _
  | cons target rest ih =>
    apply rules.bind (dynamic target)
    intro result
    cases result with
    | granted grant => exact rules.done _
    | unavailable => exact ih busy
    | busy => exact ih _

/-- Walking through a pool. -/
theorem walkPool (pool : Pool) (walk : PoolWalk) (remaining offset : Nat)
    (busy : Option Address) :
    holds (walkPool topology attempt pool walk remaining offset busy) := by
  induction remaining generalizing offset busy with
  | zero => exact rules.done _
  | succ remaining ih =>
    unfold Engine.walkPool
    split
    · exact rules.done _
    · apply rules.bind (dynamic _)
      intro result
      cases result with
      | granted grant => exact rules.bind (rules.query _ rfl) fun _ => rules.done _
      | unavailable => exact ih _ _
      | busy => exact ih _ _

/-- Searching pools. -/
theorem searchPools (pools : List Pool) (busy : Option Address) :
    holds (searchPools topology attempt limit busy pools) := by
  induction pools generalizing busy with
  | nil => exact rules.done _
  | cons pool rest ih =>
    have start : holds (walkStart attempt pool) := by
      unfold walkStart
      split <;> exact rules.query _ rfl
    apply rules.bind start
    intro first
    apply rules.bind (rules.walkPool dynamic pool _ _ _ _)
    intro found
    cases found with
    | granted grant => exact rules.done _
    | exhausted busy => exact ih busy

/-- Searching a subnet. -/
theorem searchSubnet (leases : List Lease) :
    holds (searchSubnet topology attempt limit leases) := by
  apply rules.bind (rules.tryTargets dynamic _ none)
  intro found
  cases found with
  | granted grant => exact rules.done _
  | exhausted busy => exact rules.searchPools dynamic _ busy

/-- Finding an address for the client. -/
theorem allocateDynamic (leases : List Lease) :
    holds (allocateDynamic topology attempt limit leases) := by
  apply rules.bind (rules.report _)
  intro _
  apply rules.bind (rules.attempt (rules.searchSubnet dynamic leases))
  intro result
  match result with
  | .ok (.granted grant) => exact rules.bind (rules.report _) fun _ => rules.done _
  | .ok (.exhausted busy) => exact rules.bind (rules.report _) fun _ => rules.done _
  | .error error => exact rules.bind (rules.report _) fun _ => rules.failed _

end Tries

/-- Giving the client the address that its reservation fixes. -/
theorem allocateFixed {target : Target} (tries : holds (tryFixed attempt target)) :
    holds (allocateFixed attempt target) := by
  apply rules.bind (rules.report _)
  intro _
  apply rules.bind (rules.attempt tries)
  intro result
  cases result with
  | ok grant => exact rules.bind (rules.report _) fun _ => rules.done _
  | error error => exact rules.bind (rules.report _) fun _ => rules.failed _

section Requests

variable (fixed : ∀ attempt target, holds (tryFixed attempt target))
  (dynamic : ∀ attempt target, holds (tryTarget topology attempt target))
include fixed dynamic

/-- Serving a request in one subnet. -/
theorem allocateIn (leases : List Lease) (candidate : Candidate) :
    holds (allocateIn topology request mode limit leases candidate) := by
  unfold Engine.allocateIn
  split
  · exact rules.failed _
  · apply rules.bind (rules.report _)
    intro _
    apply rules.bind rules.clock
    intro now
    dsimp only
    split
    · exact rules.allocateFixed (fixed _ _)
    · exact rules.allocateDynamic (dynamic _) leases

/-- Serving a request in one of several subnets. -/
theorem allocateAmong (leases : List Lease) (last : SubnetId) (busy : Option Address)
    (candidates : List Candidate) :
    holds (allocateAmong topology request mode limit leases last busy candidates) := by
  induction candidates generalizing last busy with
  | nil => cases busy <;> exact rules.failed _
  | cons candidate rest ih =>
    apply rules.bind (rules.allocateIn fixed dynamic leases candidate)
    intro found
    cases found with
    | granted grant => exact rules.done grant
    | exhausted skipped => exact ih _ _

omit fixed dynamic in
/-- Reading the leases recorded against identifiers. -/
theorem leasesOf (owners : List Identifier) : holds (leasesOf owners) := by
  induction owners with
  | nil => exact rules.done _
  | cons owner rest ih =>
    apply rules.bind (rules.read _ (by simp [RepositoryCall.kind]) (by simp [RepositoryCall.kind]))
    intro found
    exact rules.bind ih fun _ => rules.done _

/-- Serving a request. -/
theorem serve : holds (serve topology request mode limit) := by
  unfold Engine.serve
  split
  · exact rules.failed _
  dsimp only
  split
  · exact rules.failed _
  unfold allocateSelected
  split
  · exact rules.failed _
  · apply rules.bind (rules.leasesOf _)
    intro leases
    exact rules.bind rules.clock fun _ => rules.allocateAmong fixed dynamic _ _ _ _

/-- An allocation, where trying an address is covered. -/
theorem allocate : holds (allocate topology request mode limit) := by
  apply rules.bind (rules.attempt (rules.serve fixed dynamic))
  intro result
  exact rules.bind (rules.count _ _) fun _ => rules.ofExcept result

end Requests

end Allocation

/-- Reading the lease that the client holds on an address. -/
theorem ownLease {topology : Topology} {ids : ClientIdentifiers} {address : Address} :
    holds (ownLease topology ids address) := by
  apply rules.bind (rules.getLease address)
  intro found
  split
  · exact rules.failed _
  · split
    · exact rules.failed _
    · apply rules.bind rules.clock
      intro now
      split
      · exact rules.done _
      · exact rules.failed _

/-- Taking on records one after another. -/
theorem sweepEach {one : SweepCounts → Lease → Task SweepCounts}
    (each : ∀ counts lease, holds (one counts lease)) (counts : SweepCounts) (leases : List Lease) :
    holds (sweepEach one counts leases) := by
  induction leases generalizing counts with
  | nil => exact rules.done counts
  | cons lease rest ih => exact rules.bind (each counts lease) ih

/-- A sweep, where taking on one record is covered. -/
theorem sweep (reclaims : ∀ counts lease, holds (Engine.sweepExpired counts lease))
    (removes : ∀ counts lease, holds (Engine.sweepReclaimed counts lease))
    (settings : SweepSettings) (now : Instant) : holds (sweep settings now) := by
  apply rules.bind (rules.read _ (by simp [RepositoryCall.kind]) (by simp [RepositoryCall.kind]))
  intro listed
  apply rules.bind (rules.sweepEach reclaims _ listed)
  intro counts
  unfold removeReclaimed
  split
  · exact rules.done counts
  · apply rules.bind (rules.read _ (by simp [RepositoryCall.kind]) (by simp [RepositoryCall.kind]))
    intro kept
    exact rules.sweepEach removes counts kept

end Constructive

/-- A property of tasks that is handed on by every way to put them together, but for deletions. -/
structure Compositional (holds : {α : Type} → Task α → Prop) : Prop where
  /-- It holds of a task that is done. -/
  done : ∀ {α : Type} (result : α), holds (pure result : Task α)
  /-- It holds of a task that has failed. -/
  failed : ∀ {α : Type} (error : EngineError), holds (fail error : Task α)
  /-- It holds of one task after another. -/
  bind : ∀ {α β : Type} {first : Task α} {rest : α → Task β}, holds first →
    (∀ result, holds (rest result)) → holds (first >>= rest)
  /-- It holds of a task whose error is part of its result. -/
  attempt : ∀ {α : Type} {task : Task α}, holds task →
    holds (task.attempt : Task (Except EngineError α))
  /-- It holds of plain questions. -/
  query : ∀ question : Ask, question.isPlain = true → holds (query question)
  /-- It holds of calls other than deletions. -/
  call : ∀ request : RepositoryCall, request.kind ≠ .delete → holds (call request)
  /-- It holds of work under a lock. -/
  holding : ∀ {α : Type} {busy work : Task α} (address : Address), holds busy → holds work →
    holds (holding address busy work)

namespace Compositional

variable {holds : {α : Type} → Task α → Prop} (rules : Compositional holds)
include rules

/-- Calls that only read are no deletions. -/
theorem constructive : Constructive holds :=
  ⟨rules.done, rules.failed, rules.bind, rules.attempt, rules.query,
    fun request _ other => rules.call request other⟩

/-- A count. -/
theorem count (metric : Metric) (change : Int) : holds (count metric change) :=
  rules.constructive.count metric change

/-- The time. -/
theorem clock : holds clock := rules.constructive.clock

/-- Writing a record. -/
theorem write (lease : Lease) (expected : Expectation) :
    holds (Engine.call (.write lease expected)) :=
  rules.call _ (by simp [RepositoryCall.kind])

/-- Reclaiming a record. -/
theorem reclaim (lease : Lease) : holds (reclaim lease) :=
  rules.constructive.reclaim (rules.write _ _)

section Allocation

variable {topology : Topology} {request : Request} {mode : AllocationMode} {limit : Option Nat}
  {attempt : Attempt}

/-- Giving the client an address. -/
theorem grant (target : Target) (kind : GrantKind) (current : Option Lease) (renewed : Bool) :
    holds (grant attempt target kind current renewed) :=
  rules.constructive.grant (rules.constructive.clear fun lease _ => rules.reclaim lease)
    (fun _ _ => rules.constructive.record (rules.write _ _) renewed) kind

/-- Trying the address that a reservation fixes. -/
theorem tryFixed (target : Target) : holds (tryFixed attempt target) := by
  apply rules.holding target.address (rules.failed _)
  apply rules.bind (rules.constructive.getLease target.address)
  intro current
  split
  · exact rules.grant _ _ _ _
  · exact rules.grant _ _ _ _
  · exact rules.failed _

/-- Trying an address that the client may use. -/
theorem tryTarget (target : Target) : holds (tryTarget topology attempt target) := by
  unfold Engine.tryTarget
  split
  · exact rules.done _
  · apply rules.holding target.address (rules.done _)
    apply rules.bind (rules.constructive.getLease target.address)
    intro current
    split
    · exact rules.bind (rules.grant _ _ _ _) fun _ => rules.done _
    · exact rules.bind (rules.grant _ _ _ _) fun _ => rules.done _
    · exact rules.done _

/-- An allocation. -/
theorem allocate : holds (allocate topology request mode limit) :=
  rules.constructive.allocate (fun _ => rules.tryFixed) (fun _ => rules.tryTarget)

end Allocation

section GivingUp

variable {topology : Topology} {ids : ClientIdentifiers} {address : Address}

/-- Declining an address. -/
theorem decline (probation : Duration) : holds (decline topology ids probation address) := by
  apply rules.holding address (rules.failed _)
  apply rules.bind rules.constructive.ownLease
  intro lease
  apply rules.bind rules.clock
  intro now
  apply rules.bind (rules.write _ _)
  intro outcome
  cases outcome with
  | conflict found => exact rules.failed _
  | committed stored =>
    exact rules.bind (rules.count _ _) fun _ => rules.bind (rules.count _ _) fun _ => rules.done _

/-- Releasing an address, where deleting its record is covered. -/
theorem release (deletes : holds (Engine.call (.delete address))) :
    holds (release topology ids address) := by
  apply rules.holding address (rules.failed _)
  apply rules.bind rules.constructive.ownLease
  intro lease
  apply rules.bind deletes
  intro found
  cases found with
  | none => exact rules.failed _
  | some removed =>
    exact rules.bind (rules.count _ _) fun _ => rules.bind (rules.count _ _) fun _ => rules.done _

end GivingUp

section Sweeping

/-- Reclaiming one record of a listing. -/
theorem sweepExpired (counts : SweepCounts) (lease : Lease) :
    holds (sweepExpired counts lease) := by
  apply rules.holding lease.address (rules.done _)
  apply rules.bind (rules.reclaim lease)
  intro result
  cases result <;> exact rules.done _

/-- Removing one reclaimed record, where deleting it is covered. -/
theorem sweepReclaimed {lease : Lease} (deletes : holds (Engine.call (.delete lease.address)))
    (counts : SweepCounts) : holds (sweepReclaimed counts lease) := by
  apply rules.holding lease.address (rules.done _)
  apply rules.bind (rules.constructive.getLease lease.address)
  intro current
  split
  · apply rules.bind deletes
    intro found
    cases found with
    | none => exact rules.done counts
    | some removed => exact rules.bind (rules.count _ _) fun _ => rules.done _
  · exact rules.done _

/-- A sweep, where removing one reclaimed record is covered. -/
theorem sweep (removes : ∀ counts lease, holds (Engine.sweepReclaimed counts lease))
    (settings : SweepSettings) (now : Instant) : holds (sweep settings now) :=
  rules.constructive.sweep rules.sweepExpired removes settings now

end Sweeping

end Compositional

end Leasehold.Engine
