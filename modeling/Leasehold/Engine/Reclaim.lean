import Leasehold.Engine.Task

/-!
# Reclaiming one lease
-/
namespace Leasehold.Engine

/-- The lease counts as handed out. -/
def wasAssigned (lease : Lease) : Bool :=
  match lease.state with
  | .active | .expiredReclaimable => true
  | .reclaimed | .declined => false

/-- Reclaim a lease that is over: its record keeps everything but its state. There is no result when
the record changed since it was read. -/
def reclaim (lease : Lease) : Task (Option Lease) := do
  match ← call (.write { lease with state := .reclaimed } (.version lease.version)) with
  | .conflict _ => return none
  | .committed stored =>
    if wasAssigned lease then count (.assigned stored.subnet) (-1)
    count .reclaimed 1
    report (.reclaimed stored)
    return some stored

end Leasehold.Engine
