import Leasehold.Arguments
import Leasehold.Options

/-!
# Setting options

Each option can be set by a flag or, where the flag is not given, by a variable of the environment.
-/
namespace Leasehold

/-- The options that can be set. -/
inductive Setting where
  /-- The seconds between two sweeps. -/
  | reclaimInterval
  /-- How many records a sweep takes on at most. -/
  | reclaimBatch
  /-- The seconds that reclaimed records are kept. -/
  | holdReclaimedTime
  /-- How many times an allocation is tried. -/
  | retryAttempts
  /-- The milliseconds to wait before the second try. -/
  | retryBackoff
  /-- How many candidates of a pool are tried. -/
  | maxAllocAttempts
deriving DecidableEq, Repr

namespace Setting

/-- Every option that can be set. -/
def all : List Setting :=
  [reclaimInterval, reclaimBatch, holdReclaimedTime, retryAttempts, retryBackoff, maxAllocAttempts]

/-- The long name of the flag of an option. -/
def flagName : Setting → String
  | reclaimInterval => "reclaim-interval"
  | reclaimBatch => "reclaim-batch"
  | holdReclaimedTime => "hold-reclaimed-time"
  | retryAttempts => "retry-attempts"
  | retryBackoff => "retry-backoff-ms"
  | maxAllocAttempts => "max-alloc-attempts"

/-- The variable of an option. -/
def variableName : Setting → String
  | reclaimInterval => "RECLAIM_INTERVAL"
  | reclaimBatch => "RECLAIM_BATCH"
  | holdReclaimedTime => "HOLD_RECLAIMED_TIME"
  | retryAttempts => "RETRY_ATTEMPTS"
  | retryBackoff => "RETRY_BACKOFF_MS"
  | maxAllocAttempts => "MAX_ALLOC_ATTEMPTS"

/-- Read a number of 64 bits. -/
def readLong (text : String) : Option Nat :=
  (Text.Decimal.read largestLong text.toList).toOption

/-- Read a number of 32 bits. A minus sign may stand before a zero. -/
def readShort (text : String) : Option Nat :=
  match text.toList with
  | '-' :: digits =>
    if digits.isEmpty || !digits.all Text.Decimal.isDigit || Text.Decimal.value digits ≠ 0 then none
    else some 0
  | digits => (Text.Decimal.read largestWord digits).toOption

/-- Read the number of an option. -/
def read : Setting → String → Option Nat
  | retryAttempts => readShort
  | reclaimInterval | reclaimBatch | holdReclaimedTime | retryBackoff | maxAllocAttempts => readLong

/-- The flag of an option. -/
def flag (setting : Setting) : Flag Setting where
  key := setting
  name := setting.flagName
  letter := none
  accepts text := (setting.read text).isSome

end Setting

namespace Options

/-- The options with another number for one of them. -/
def set (options : Options) (number : Nat) : Setting → Options
  | .reclaimInterval => { options with reclaimInterval := number }
  | .reclaimBatch => { options with reclaimBatch := number }
  | .holdReclaimedTime => { options with holdReclaimedTime := number }
  | .retryAttempts => { options with retryAttempts := number }
  | .retryBackoff => { options with retryBackoff := number }
  | .maxAllocAttempts => { options with maxAllocAttempts := number }

/-- Set options from texts; those without a text stay as they are. -/
def setAll (text? : Setting → Option String) (options : Options) :
    List Setting → Except UsageError Options
  | [] => .ok options
  | setting :: rest =>
    match text? setting with
    | none => setAll text? options rest
    | some text =>
      match setting.read text with
      | none => .error .badValue
      | some number => setAll text? (options.set number setting) rest

/-- The options that flags and, where a flag is not given, variables of the environment set. -/
def ofTexts (given environment : Setting → Option String) : Except UsageError Options :=
  setAll (fun setting => (given setting).or (environment setting)) .default Setting.all

/-- The options that a command line of nothing but their flags sets. -/
def ofWords (words : List String) : Except UsageError Options :=
  match Arguments.read (Setting.all.map Setting.flag) [] words with
  | .error error => .error error
  | .ok arguments => ofTexts arguments.value? fun _ => none

end Options

end Leasehold
