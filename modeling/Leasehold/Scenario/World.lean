import Leasehold.Scenario.Step

/-!
# The world of a scenario

Besides the state that the tasks of the engine share, a scenario has a clock, a topology in force
and the faults that are armed. The questions that steps ask are those of the engine and a few of
their own.
-/
namespace Leasehold.Scenario

/-- How the engine of a scenario is set up. -/
structure Setup where
  /-- How many candidates of a pool are tried at most. -/
  limit : Option Nat
  /-- How long declined addresses are kept out of use. -/
  probation : Duration
  /-- Addresses that are turned down in review. -/
  vetoedAddresses : List Address
  /-- Names of clients whose leases are turned down in review. -/
  vetoedHosts : List String
deriving DecidableEq, Repr

namespace Setup

/-- How long declined addresses are kept out of use unless something else is set. -/
def defaultProbation : Duration := seconds 86400

/-- A lease is let through unless its address or the name that the client gives is vetoed. -/
def review (setup : Setup) (request : Request) (lease : Lease) (_ : AllocationMode) : Bool :=
  !setup.vetoedAddresses.contains lease.address &&
    !request.hostname.any setup.vetoedHosts.contains

end Setup

/-- The world of a scenario. -/
structure World where
  /-- What the tasks of the engine share. -/
  state : Engine.State
  /-- The topology in force. -/
  topology : Topology
  /-- What time it is. -/
  now : Instant
  /-- The faults that were armed, in order. -/
  faults : List Fault

/-- The world before the first step. -/
def World.initial (now : Instant) : World := ⟨.initial, .empty, now, []⟩

/-- What a step asks. -/
inductive Ask where
  /-- A question of the engine. -/
  | engine (question : Engine.Ask)
  /-- Put a configuration in force. -/
  | commit (config : Config)
  /-- Set the clock. -/
  | setClock (now : Instant)
  /-- The store as it is. -/
  | store
  /-- How long tasks have waited. -/
  | waited
  /-- Arm a fault. -/
  | arm (fault : Fault)

/-- What the questions are answered with. -/
abbrev Reply : Ask → Type
  | .engine question => Engine.Reply question
  | .commit _ => Except ConfigError Topology
  | .setClock _ => Unit
  | .store => Store
  | .waited => Duration
  | .arm _ => Unit

namespace World

/-- What surrounds the tasks of the engine. A walk that starts at random starts at the first
candidate. -/
def surroundings (setup : Setup) (world : World) : Engine.Surroundings where
  now := world.now
  review := setup.review
  start := fun _ => 0
  topology := world.topology

/-- Put a configuration in force, unless it is refused. -/
def commit (world : World) (config : Config) : Except ConfigError Topology × World :=
  match Topology.build config (world.topology.generation + 1) with
  | .error error => (.error error, world)
  | .ok topology => (.ok topology, { world with topology })

/-- The action of the fault that strikes a call, and the faults that stay armed. The first fault
that is armed for the kind of call decides: it lets the call pass, or strikes. -/
def strike (kind : CallKind) : List Fault → Option (FaultAction × String) × List Fault
  | [] => (none, [])
  | fault :: rest =>
    if fault.point = kind ∧ 0 < fault.count then
      if 0 < fault.after then (none, { fault with after := fault.after - 1 } :: rest)
      else
        (some (fault.action, fault.reason), { fault with count := fault.count - 1 } :: rest)
    else
      let (action, others) := strike kind rest
      (action, fault :: others)

/-- Write the record of an address anew, unchanged, or make one if there is none. -/
def bump (store : Store) (address : Address) : Store :=
  let current := store.get? address
  (store.write (current.getD (.vacant address 32 0)) (.ofCurrent current)).2

/-- The store after a fault that does not make its call fail. -/
def disturb (action : FaultAction) (call : RepositoryCall) (store : Store) : Store :=
  match action, call.address? with
  | .bump, some address => bump store address
  | .delete, some address => (store.delete address).2
  | _, _ => store

/-- Answer a call on the repository, after the fault that strikes it. -/
def call (world : World) (call : RepositoryCall) :
    Except RepositoryError call.Answer × World :=
  let (fault, faults) := strike call.kind world.faults
  let world := { world with faults }
  match fault with
  | some (.transient, reason) => (.error (.transient reason), world)
  | some (.backend, reason) => (.error (.backend reason), world)
  | some (action, _) =>
    let (answer, store) := (disturb action call world.state.store).answer call
    (.ok answer, { world with state := { world.state with store } })
  | none =>
    let (answer, state) := world.state.callStore call
    (.ok answer, { world with state })

/-- Answer a question. -/
def answer (setup : Setup) : (question : Ask) → World → Reply question × World
  | .engine (.repository call), world => world.call call
  | .engine question, world =>
    let (reply, state) := Engine.State.answer (world.surroundings setup) question world.state
    (reply, { world with state })
  | .commit config, world => world.commit config
  | .setClock now, world => ((), { world with now })
  | .store, world => (world.state.store, world)
  | .waited, world => (world.state.waited, world)
  | .arm fault, world => ((), { world with faults := world.faults ++ [fault] })

end World

end Leasehold.Scenario
