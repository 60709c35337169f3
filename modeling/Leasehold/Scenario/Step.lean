import Leasehold.Config
import Leasehold.Engine.GiveUp
import Leasehold.Engine.Retry
import Leasehold.Engine.State
import Leasehold.Engine.Sweep
import Leasehold.Topology.Build

/-!
# Steps of a scenario

A scenario exercises one engine step by step: requests of clients, sweeps, configurations put in
force, direct calls on the repository and motions of the clock. Faults can be armed that strike on a
later call of the repository, and a step can be held before one of its calls while others run.
-/
namespace Leasehold

/-- What a fault does to the call it strikes. -/
inductive FaultAction where
  /-- The call fails as if the repository could not be reached. -/
  | transient
  /-- The call fails as if the repository could not serve it. -/
  | backend
  /-- The record that the call is about is written anew, unchanged, or made if there is none. -/
  | bump
  /-- The record that the call is about is removed. -/
  | delete
deriving DecidableEq, Repr

/-- A fault in the repository. -/
structure Fault where
  /-- The kind of call that it strikes. -/
  point : CallKind
  /-- What it does. -/
  action : FaultAction
  /-- How many calls it lets pass first. -/
  after : Nat
  /-- How many calls it strikes. -/
  count : Nat
  /-- The reason that failed calls give. -/
  reason : String
deriving DecidableEq, Repr

/-- What the author of a direct write expects to be stored. -/
inductive Belief where
  /-- What it says. -/
  | expected (expectation : Expectation)
  /-- Whatever is stored. -/
  | current
deriving DecidableEq, Repr

/-- A step of a scenario. -/
inductive Step where
  /-- Put a configuration in force; without one, the text of the configuration could not be read. -/
  | commit (config : Option Config)
  /-- Look at the topology in force. -/
  | current
  /-- Set the clock. -/
  | setClock (now : Instant)
  /-- Move the clock on. -/
  | advanceClock (amount : Duration)
  /-- Allocate a lease. -/
  | allocate (request : Request) (mode : AllocationMode)
  /-- Allocate a lease, trying again while that may help. -/
  | allocateWithRetry (request : Request) (mode : AllocationMode) (policy : Engine.RetryPolicy)
  /-- Select the subnets for a request. -/
  | select (request : Request)
  /-- Release a lease. -/
  | release (ids : ClientIdentifiers) (address : Address)
  /-- Decline a lease. -/
  | decline (ids : ClientIdentifiers) (address : Address)
  /-- Sweep once, as of an instant or of now. -/
  | sweep (settings : Engine.SweepSettings) (instant : Option Instant)
  /-- Sweep, and sweep again as often as given, each time after the clock moved on. -/
  | sweeper (settings : Engine.SweepSettings) (interval : Duration) (ticks : Nat)
  /-- Write a record. -/
  | put (lease : Lease) (belief : Belief)
  /-- Read a record. -/
  | get (address : Address)
  /-- Delete a record. -/
  | delete (address : Address)
  /-- List the records of an owner. -/
  | owned (owner : Identifier)
  /-- List the records that have to be reclaimed, as of an instant or of now. -/
  | scanExpired (most : Nat) (instant : Option Instant)
  /-- List the reclaimed records that expired before an instant or before now. -/
  | scanReclaimed (most : Nat) (before : Option Instant)
  /-- Count the records of a subnet that are held, as of an instant or of now. -/
  | countActive (subnet : SubnetId) (instant : Option Instant)
  /-- Look at the whole store. -/
  | snapshot
  /-- Arm a fault. -/
  | arm (fault : Fault)
  /-- Hold a step before one of its calls of a kind, having let so many pass, while others run. -/
  | interleave (point : CallKind) (after : Nat) (outer : Step) (inner : List Step)

/-- The answer to a step. -/
inductive Answer where
  /-- There is nothing to say. -/
  | nothing
  /-- A configuration could not be read. -/
  | unreadable
  /-- A configuration was refused. -/
  | refused (error : ConfigError)
  /-- The topology that was put in force. -/
  | inForce (topology : Topology)
  /-- The topology in force. -/
  | current (topology : Topology)
  /-- What time it is. -/
  | time (now : Instant)
  /-- The result of an allocation. -/
  | granted (grant : Grant)
  /-- The engine failed. -/
  | failed (error : EngineError)
  /-- How long an allocation waited between its tries, and its result. -/
  | retried (waited : Duration) (result : Except EngineError Grant)
  /-- The outcome of a selection. -/
  | selected (selection : Selection)
  /-- A lease. -/
  | lease (lease : Lease)
  /-- What a sweep did. -/
  | swept (counts : Engine.SweepCounts)
  /-- The number of records after each sweep. -/
  | sizes (sizes : List Nat)
  /-- What became of a write. -/
  | written (outcome : WriteOutcome)
  /-- The record of an address. -/
  | found (lease : Option Lease)
  /-- The record that was deleted. -/
  | deleted (lease : Option Lease)
  /-- Records. -/
  | listed (leases : List Lease)
  /-- A number of records. -/
  | counted (number : Nat)
  /-- The whole store. -/
  | snapshot (store : Store)
  /-- A call on the repository failed. -/
  | callFailed (error : RepositoryError)
  /-- Whether a step was held, its answer, and the answers to those that ran in between. -/
  | interleaved (held : Bool) (outer : Answer) (inner : List Answer)

end Leasehold
