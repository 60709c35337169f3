import Leasehold.Engine.GiveUp
import Leasehold.Engine.State
import Leasehold.Options

/-!
# Simulations

A simulation serves a list of requests one after another from an empty store, on one topology and at
one instant, and reports what came of each. At its end it may sweep once, as if some time had
passed. It ends early only when a request cannot be understood.
-/
namespace Leasehold.Simulation

/-- What a client wants. -/
inductive Action where
  /-- A lease. -/
  | allocate
  /-- To give up a lease. -/
  | release
  /-- To report that its address is in use. -/
  | decline
deriving DecidableEq, Repr

namespace Action

/-- The action with a name. -/
def ofText? : String → Option Action
  | "allocate" => some allocate
  | "release" => some release
  | "decline" => some decline
  | _ => none

/-- How messages name each action. -/
def label : Action → String
  | allocate => "Allocate"
  | release => "Release"
  | decline => "Decline"

end Action

/-- A request as it is written down. Identifiers are texts that have not been read yet. -/
structure Entry where
  /-- What the client wants. -/
  action : Action
  /-- The hardware address. -/
  hwAddress : Option String
  /-- The unique identifier of a client of the second family. -/
  duid : Option String
  /-- The client identifier option. -/
  clientId : Option String
  /-- The circuit that a relay received the request on. -/
  circuitId : Option String
  /-- Where the request came from. -/
  selector : Selector
  /-- The address that the client would like. -/
  hint : Option Address
  /-- The lifetime that the client would like, in seconds. -/
  lifetime : Option Nat
  /-- The name that the client gives itself. -/
  hostname : Option String
  /-- The client asks for a block. -/
  wantsBlock : Bool
  /-- Nothing is to be recorded. -/
  offer : Bool
  /-- The address that is released or declined. -/
  address : Option Address
deriving DecidableEq, Repr

/-- Why a simulation ended early. -/
inductive Fault where
  /-- An identifier of a request cannot be read. -/
  | badIdentifier (index : Nat) (error : InvalidIdentifier)
  /-- A request does not name the address that it is about. -/
  | missingAddress (index : Nat) (action : Action)
deriving DecidableEq, Repr

namespace Fault

/-- The wording of each fault. -/
def message : Fault → String
  | badIdentifier index _ => "request " ++ toString index ++ " has an invalid identifier"
  | missingAddress index action =>
    "request " ++ toString index ++ " needs an addr to " ++ action.label

/-- The wording of each fault, followed by that of its cause. -/
def fullMessage (fault : Fault) : String :=
  match fault with
  | badIdentifier _ error => fault.message ++ ": " ++ error.message
  | missingAddress _ _ => fault.message

end Fault

namespace Entry

/-- The bytes of an identifier of a kind. -/
def readIdentifier (kind : IdentifierKind) (text : Option String) :
    Except InvalidIdentifier (Option Bytes) :=
  match text with
  | none => .ok none
  | some text => (Identifier.parse kind text).map fun identifier => some identifier.value

/-- The identifiers that the client presents. -/
def identifiers (entry : Entry) : Except InvalidIdentifier ClientIdentifiers := do
  .ok {
    hwAddress := ← readIdentifier .hwAddress entry.hwAddress
    duid := ← readIdentifier .duid entry.duid
    clientId := ← readIdentifier .clientId entry.clientId
    circuitId := ← readIdentifier .circuitId entry.circuitId }

/-- The request, for a client that presents the identifiers. -/
def request (entry : Entry) (identifiers : ClientIdentifiers) : Request where
  identifiers := identifiers
  selector := entry.selector
  hint := entry.hint
  lifetime := entry.lifetime.map seconds
  kind := if entry.wantsBlock then .block else .address
  hostname := entry.hostname

/-- Whether the allocation is recorded. -/
def mode (entry : Entry) : AllocationMode := if entry.offer then .offer else .commit

end Entry

/-- What came of a request. -/
inductive Outcome where
  /-- The client was given a lease. -/
  | granted (grant : Grant)
  /-- The client gave up a lease; this is the record of it. -/
  | givenUp (lease : Lease)
  /-- The engine failed. -/
  | failed (error : EngineError)
deriving DecidableEq, Repr

/-- What came of a simulation. -/
structure Report where
  /-- The number of the topology. -/
  generation : Nat
  /-- What came of each request. -/
  outcomes : List Outcome
  /-- The records that are left in the store. -/
  leases : List Lease
  /-- How many leases the sweep reclaimed. -/
  reclaimed : Option Nat
deriving DecidableEq, Repr

/-- The outcome of a task, given how to tell its result. -/
def told {α : Type} (outcome : α → Outcome) : Except EngineError α → Outcome
  | .ok result => outcome result
  | .error error => .failed error

/-- How long declined addresses are kept out of use. -/
def probation : Duration := seconds 86400

/-- Serve one request. -/
def serve (options : Options) (around : Engine.Surroundings) (index : Nat) (entry : Entry)
    (state : Engine.State) : Except Fault (Outcome × Engine.State) :=
  match entry.identifiers with
  | .error error => .error (.badIdentifier index error)
  | .ok identifiers =>
    match entry.action, entry.address with
    | .allocate, _ =>
      let task := Engine.allocateWithRetry options.retryPolicy (entry.request identifiers)
        entry.mode options.limit?
      let (result, state) := state.run around task
      .ok (told .granted result, state)
    | .release, some address =>
      let (result, state) := state.run around (Engine.release around.topology identifiers address)
      .ok (told .givenUp result, state)
    | .decline, some address =>
      let (result, state) :=
        state.run around (Engine.decline around.topology identifiers probation address)
      .ok (told .givenUp result, state)
    | action, none => .error (.missingAddress index action)

/-- Serve requests one after another, the first of which has the given number. -/
def serveAll (options : Options) (around : Engine.Surroundings) (index : Nat)
    (state : Engine.State) : List Entry → Except Fault (List Outcome × Engine.State)
  | [] => .ok ([], state)
  | entry :: rest =>
    match serve options around index entry state with
    | .error fault => .error fault
    | .ok (outcome, state) =>
      match serveAll options around (index + 1) state rest with
      | .error fault => .error fault
      | .ok (outcomes, state) => .ok (outcome :: outcomes, state)

/-- Sweep once, as if some seconds had passed. The number of leases reclaimed is left out when the
sweep fails. -/
def sweepAfter (options : Options) (around : Engine.Surroundings) (passed : Nat)
    (state : Engine.State) : Option Nat × Engine.State :=
  let (result, state) :=
    state.run around (Engine.sweep options.sweepSettings (around.now + seconds passed))
  (result.toOption.map (·.reclaimed), state)

/-- Serve requests, and then sweep if that is wanted. -/
def run (options : Options) (around : Engine.Surroundings) (entries : List Entry)
    (reclaimAfter : Option Nat) : Except Fault Report :=
  match serveAll options around 0 .initial entries with
  | .error fault => .error fault
  | .ok (outcomes, state) =>
    let (reclaimed, state) := match reclaimAfter with
      | none => (none, state)
      | some passed => sweepAfter options around passed state
    .ok ⟨around.topology.generation, outcomes, state.store.leases, reclaimed⟩

end Leasehold.Simulation
