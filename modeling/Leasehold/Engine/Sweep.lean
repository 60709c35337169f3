import Leasehold.Engine.Reclaim

/-!
# Sweeps

A sweep reclaims leases that are over, those that expired first coming first, and then removes
reclaimed records that have been kept long enough. An address that is locked is skipped, and so is a
record that changed since it was listed.
-/
namespace Leasehold.Engine

/-- How a sweep works. -/
structure SweepSettings where
  /-- How many records are taken on at most, of either kind. -/
  batch : Nat
  /-- How long reclaimed records are kept; for good if there is no time. -/
  hold : Option Duration
deriving DecidableEq, Repr

/-- What a sweep did. -/
structure SweepCounts where
  /-- The leases that were reclaimed. -/
  reclaimed : Nat
  /-- The records that were removed. -/
  removed : Nat
  /-- The records that were skipped. -/
  skipped : Nat
deriving DecidableEq, Repr

namespace SweepCounts

/-- Nothing was done. -/
def none : SweepCounts := ⟨0, 0, 0⟩

/-- One more lease was reclaimed. -/
def addReclaimed (counts : SweepCounts) : SweepCounts :=
  { counts with reclaimed := counts.reclaimed + 1 }

/-- One more record was removed. -/
def addRemoved (counts : SweepCounts) : SweepCounts :=
  { counts with removed := counts.removed + 1 }

/-- One more record was skipped. -/
def addSkipped (counts : SweepCounts) : SweepCounts :=
  { counts with skipped := counts.skipped + 1 }

end SweepCounts

/-- Reclaim one lease, or skip it. -/
def sweepExpired (counts : SweepCounts) (lease : Lease) : Task SweepCounts :=
  holding lease.address (return counts.addSkipped) do
    match ← reclaim lease with
    | some _ => return counts.addReclaimed
    | none => return counts.addSkipped

/-- The record that was listed is still the one that is stored. -/
def isUnchanged (listed : Lease) (current : Option Lease) : Bool :=
  match current with
  | none => false
  | some lease => lease.state == .reclaimed && lease.version == listed.version

/-- Remove one reclaimed record, or skip it. -/
def sweepReclaimed (counts : SweepCounts) (lease : Lease) : Task SweepCounts :=
  holding lease.address (return counts.addSkipped) do
    if isUnchanged lease (← call (.getLease lease.address)) then
      match ← call (.delete lease.address) with
      | some _ =>
        count .removed 1
        return counts.addRemoved
      | none => return counts
    else return counts.addSkipped

/-- Take on records one after another. -/
def sweepEach (one : SweepCounts → Lease → Task SweepCounts) (counts : SweepCounts) :
    List Lease → Task SweepCounts
  | [] => return counts
  | lease :: rest => do
    sweepEach one (← one counts lease) rest

/-- Remove the reclaimed records that have been kept long enough. -/
def removeReclaimed (settings : SweepSettings) (now : Instant) (counts : SweepCounts) :
    Task SweepCounts :=
  match settings.hold with
  | none => return counts
  | some hold => do
    sweepEach sweepReclaimed counts (← call (.scanReclaimed (now - hold) settings.batch))

/-- Sweep once, as of an instant. -/
def sweep (settings : SweepSettings) (now : Instant) : Task SweepCounts := do
  let counts ← sweepEach sweepExpired .none (← call (.scanExpired settings.batch now))
  removeReclaimed settings now counts

end Leasehold.Engine
