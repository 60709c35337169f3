import Leasehold.Engine.Allocate
import Leasehold.Text.Decimal

/-!
# Trying an allocation again

After a lost race, or while the repository cannot be reached, an allocation is tried again from the
start, on the topology that is in force then. The wait before each try is twice as long as the one
before it.
-/
namespace Leasehold.Engine

/-- How often and after what waits an allocation is tried again. -/
structure RetryPolicy where
  /-- How many tries are made at most; one is made in any case. -/
  attempts : Nat
  /-- The wait before the second try. -/
  backoff : Duration
deriving DecidableEq, Repr

namespace RetryPolicy

/-- The longest time that can be waited: every second that 64 bits can count, and 999 milliseconds.
-/
def longestWait : Duration := seconds largestLong + 999

/-- The wait after so many tries. The factor that it is longer by than the first wait is cut to what
fits 32 bits. -/
def delay (policy : RetryPolicy) (tries : Nat) : Duration :=
  min (policy.backoff * min (Nat.pow 2 (tries - 1)) largestWord) longestWait

end RetryPolicy

/-- Try an allocation, and try it again at most so many times. -/
def retry (policy : RetryPolicy) (request : Request) (mode : AllocationMode)
    (limit : Option Nat) : (more tries : Nat) → Task Grant
  | 0, _ => do allocate (← query .topology) request mode limit
  | more + 1, tries => do
    match ← (allocate (← query .topology) request mode limit).attempt with
    | .ok grant => return grant
    | .error error =>
      if error.isRetryable then
        query (.pause (policy.delay tries))
        retry policy request mode limit more (tries + 1)
      else fail error

/-- Allocate a lease for a request, trying again while that may help. -/
def allocateWithRetry (policy : RetryPolicy) (request : Request) (mode : AllocationMode)
    (limit : Option Nat) : Task Grant :=
  retry policy request mode limit (policy.attempts - 1) 1

end Leasehold.Engine
