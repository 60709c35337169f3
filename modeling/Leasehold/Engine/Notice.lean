import Leasehold.FirstOccurrences
import Leasehold.Lease
import Leasehold.Request

/-!
# What the engine reports

While it serves a request, the engine reports leases that were committed and reclaimed, the phases
an allocation goes through, and what is to be counted. Nothing it does depends on who listens.
Reviews of leases, which do decide what the engine does, are noted along with the rest.
-/
namespace Leasehold

/-- The phases of an allocation in one subnet. -/
inductive Phase where
  /-- The subnet is about to be tried. -/
  | requested
  /-- The reservation of the client is looked up. -/
  | reservationCheck
  /-- Addresses are tried. -/
  | conflictCheck
  /-- An address was found. -/
  | committed
  /-- No address was found. -/
  | rejected
deriving DecidableEq, Repr

/-- The name of each phase. -/
def Phase.text : Phase → String
  | .requested => "requested"
  | .reservationCheck => "reservation-check"
  | .conflictCheck => "conflict-check"
  | .committed => "committed"
  | .rejected => "rejected"

/-- How an allocation ended. -/
inductive Outcome where
  /-- An address was offered. -/
  | offered
  /-- A new lease was recorded. -/
  | committed
  /-- A lease was extended. -/
  | renewed
  /-- The reserved address was leased. -/
  | reserved
  /-- No subnet was left. -/
  | noSubnet
  /-- Every address was taken. -/
  | poolExhausted
  /-- The reserved address was held by someone else. -/
  | reservationConflict
  /-- A race for an address was lost. -/
  | repositoryConflict
  /-- The repository could not be reached. -/
  | repositoryTransient
  /-- The repository could not serve a call. -/
  | repositoryError
  /-- A review turned the lease down. -/
  | hookSkipped
  /-- The client presented no usable identifier. -/
  | missingIdentifier
deriving DecidableEq, Repr

/-- The name of each outcome. -/
def Outcome.text : Outcome → String
  | .offered => "offered"
  | .committed => "committed"
  | .renewed => "renewed"
  | .reserved => "reserved"
  | .noSubnet => "no_subnet"
  | .poolExhausted => "pool_exhausted"
  | .reservationConflict => "reservation_conflict"
  | .repositoryConflict => "repository_conflict"
  | .repositoryTransient => "repository_transient"
  | .repositoryError => "repository_error"
  | .hookSkipped => "hook_skipped"
  | .missingIdentifier => "missing_identifier"

/-- What is counted. -/
inductive Metric where
  /-- Allocations by how they ended. -/
  | outcome (outcome : Outcome)
  /-- Leases that clients declined. -/
  | declined
  /-- Leases that were reclaimed. -/
  | reclaimed
  /-- Leases that clients released. -/
  | released
  /-- Reclaimed leases whose records were removed. -/
  | removed
  /-- Leases of a subnet that were handed out and not taken back. -/
  | assigned (subnet : SubnetId)
deriving DecidableEq, Repr

/-- The name of each count. -/
def Metric.text : Metric → String
  | .outcome ending => "alloc_outcome_counts:" ++ ending.text
  | .declined => "leases_declined"
  | .reclaimed => "leases_reclaimed"
  | .released => "leases_released"
  | .removed => "leases_removed"
  | .assigned subnet => "subnet_assigned_addresses:" ++ toString subnet.toNat

/-- Something that the engine reports. -/
inductive Notice where
  /-- A lease was reviewed before it was handed out, and was let through or turned down. -/
  | reviewed (lease : Lease) (mode : AllocationMode) (kept : Bool)
  /-- A lease was recorded for a client. -/
  | committed (lease : Lease)
  /-- A lease that was over was reclaimed. -/
  | reclaimed (lease : Lease)
  /-- An allocation went from one phase to another, with the address it is about if it is one. -/
  | phase (before after : Phase) (address : Option Address)
  /-- A count changed. -/
  | count (metric : Metric) (change : Int)
deriving DecidableEq, Repr

namespace Notice

/-- A lease with its version. -/
def versioned (lease : Lease) : String := lease.text ++ " v" ++ toString lease.version

/-- The line of a notice about a lease. -/
def leaseLine? : Notice → Option String
  | reviewed lease mode kept =>
    some ("select " ++ lease.target ++ " " ++ mode.text ++ " v" ++ toString lease.version ++
      if kept then "" else " skip")
  | committed lease => some ("committed " ++ versioned lease)
  | reclaimed lease => some ("reclaimed " ++ versioned lease)
  | phase _ _ _ | count _ _ => none

/-- The line of a notice about the phases of an allocation. -/
def phaseLine? : Notice → Option String
  | phase before after address =>
    some (before.text ++ ">" ++ after.text ++ " " ++ (address.map (·.text)).getD "-")
  | reviewed _ _ _ | committed _ | reclaimed _ | count _ _ => none

/-- By how much a notice changes a count. -/
def change (metric : Metric) : Notice → Int
  | count other amount => if other = metric then amount else 0
  | reviewed _ _ _ | committed _ | reclaimed _ | phase _ _ _ => 0

/-- The count that a notice changes. -/
def metric? : Notice → Option Metric
  | count metric _ => some metric
  | reviewed _ _ _ | committed _ | reclaimed _ | phase _ _ _ => none

/-- Every count that was changed by notices on the whole, and by how much. -/
def totals (notices : List Notice) : List (Metric × Int) :=
  ((firstOccurrences (notices.filterMap metric?)).map fun metric =>
    (metric, notices.foldl (fun sum notice => sum + notice.change metric) 0)).filter (·.2 ≠ 0)

end Notice

end Leasehold
