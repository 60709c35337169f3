import Leasehold.Engine.Retry
import Leasehold.Engine.Sweep

/-!
# Options of the engine

The options are plain numbers, as an operator sets them. Some numbers stand for something else: a
hold time of zero keeps reclaimed records for good, and a limit of zero on tries means no limit.
-/
namespace Leasehold

/-- The options of the engine. -/
structure Options where
  /-- The seconds between two sweeps. -/
  reclaimInterval : Nat
  /-- How many records a sweep takes on at most. -/
  reclaimBatch : Nat
  /-- The seconds that reclaimed records are kept, or zero. -/
  holdReclaimedTime : Nat
  /-- How many times an allocation is tried. -/
  retryAttempts : Nat
  /-- The milliseconds to wait before the second try. -/
  retryBackoff : Nat
  /-- How many candidates of a pool are tried, or zero. -/
  maxAllocAttempts : Nat
deriving DecidableEq, Repr

namespace Options

/-- The options that hold where an operator sets none. -/
def default : Options where
  reclaimInterval := 10
  reclaimBatch := 100
  holdReclaimedTime := 3600
  retryAttempts := 3
  retryBackoff := 50
  maxAllocAttempts := 0

/-- The time between two sweeps. -/
def interval (options : Options) : Duration := seconds options.reclaimInterval

/-- How long reclaimed records are kept, if not for good. -/
def hold? (options : Options) : Option Duration :=
  if options.holdReclaimedTime = 0 then none else some (seconds options.holdReclaimedTime)

/-- How sweeps work. -/
def sweepSettings (options : Options) : Engine.SweepSettings :=
  ⟨options.reclaimBatch, options.hold?⟩

/-- How allocations are tried again. At least one try is made. -/
def retryPolicy (options : Options) : Engine.RetryPolicy :=
  ⟨max options.retryAttempts 1, options.retryBackoff⟩

/-- How many candidates of a pool are tried, if there is a limit. -/
def limit? (options : Options) : Option Nat :=
  if options.maxAllocAttempts = 0 then none else some options.maxAllocAttempts

end Options

end Leasehold
