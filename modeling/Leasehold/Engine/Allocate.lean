import Leasehold.Engine.Attempt
import Leasehold.Engine.Reclaim

/-!
# Allocating a lease

An allocation tries the selected subnets one after another. In each, the address that the client's
reservation fixes is the only one tried; without one, the suggested addresses come first and then
the pools. An address is locked while its record is read, checked and written. A record that is over
is reclaimed before it is written anew. An address that is taken is passed over, and so is one that
is locked, except that a fixed address is never passed over; every other trouble ends the
allocation.
-/
namespace Leasehold.Engine

/-- What became of one address. -/
inductive Tried where
  /-- The client was given it. -/
  | granted (grant : Grant)
  /-- It is not for this client. -/
  | unavailable
  /-- It was locked. -/
  | busy

/-- What became of the addresses of a subnet. -/
inductive Search where
  /-- The client was given one. -/
  | granted (grant : Grant)
  /-- It was given none, with the first address that was passed over because it was locked. -/
  | exhausted (busy : Option Address)

/-- Reclaim the record of an address where that is due. The answer is the record as it is then. -/
def clear (attempt : Attempt) (current : Option Lease) : Task (Option Lease) :=
  match attempt.overdue? current with
  | none => return current
  | some lease => do
    match ← reclaim lease with
    | some reclaimed => return some reclaimed
    | none => fail (.lostRace lease.address)

/-- Record a lease for the client, unless its record changed. -/
def record (lease : Lease) (current : Option Lease) (renewed : Bool) : Task Lease := do
  match ← call (.write lease (.ofCurrent current)) with
  | .conflict _ => fail (.lostRace lease.address)
  | .committed stored =>
    if !renewed then count (.assigned stored.subnet) 1
    report (.committed stored)
    return stored

/-- Give the client an address that it may have, as far as its record goes. -/
def grant (attempt : Attempt) (target : Target) (kind : GrantKind) (current : Option Lease)
    (renewed : Bool) : Task Grant := do
  let current ← clear attempt current
  let lease := attempt.lease target ((current.map (·.version)).getD 0)
  if !(← query (.review attempt.request lease attempt.mode)) then
    fail (.turnedDown target.address)
  else
    let lease ← match attempt.mode with
      | .offer => pure lease
      | .commit => record lease current renewed
    return {
      lease
      subnet := lease.subnet
      pool := target.pool
      kind
      hostname := attempt.hostname
      classes := attempt.classes
      lifetimes := attempt.lifetimes
      committed := attempt.mode == .commit }

/-- How messages name the holder of an address: by its owner, or by what became of it. -/
def holder (lease : Lease) : String := (lease.owner.map (·.text)).getD lease.state.text

/-- Try the address that the client's reservation fixes. -/
def tryFixed (attempt : Attempt) (target : Target) : Task Grant :=
  holding target.address (fail (.lostRace target.address)) do
    let current ← call (.getLease target.address)
    match attempt.standing current with
    | .free => grant attempt target .reserved current false
    | .held => grant attempt target .reserved current true
    | .blocked lease => fail (.reservationConflict target.address (holder lease))

/-- Try an address that the client may use. -/
def tryTarget (topology : Topology) (attempt : Attempt) (target : Target) : Task Tried :=
  if attempt.isKeptForOther topology target.address then return .unavailable
  else
    holding target.address (return .busy) do
      let current ← call (.getLease target.address)
      match attempt.standing current with
      | .free => return .granted (← grant attempt target .new current false)
      | .held => return .granted (← grant attempt target .renewed current true)
      | .blocked _ => return .unavailable

/-- Try addresses one after another. -/
def tryTargets (topology : Topology) (attempt : Attempt) (busy : Option Address) :
    List Target → Task Search
  | [] => return .exhausted busy
  | target :: rest => do
    match ← tryTarget topology attempt target with
    | .granted grant => return .granted grant
    | .unavailable => tryTargets topology attempt busy rest
    | .busy => tryTargets topology attempt (busy.or (some target.address)) rest

/-- Try the candidates of a pool, from one step of a walk on. -/
def walkPool (topology : Topology) (attempt : Attempt) (pool : Pool) (walk : PoolWalk) :
    (remaining offset : Nat) → Option Address → Task Search
  | 0, _, busy => return .exhausted busy
  | remaining + 1, offset, busy =>
    match pool.nth? (walk.index offset) with
    | none => return .exhausted busy
    | some address => do
      match ← tryTarget topology attempt (Attempt.ofPool pool address) with
      | .granted grant =>
        query (.setCursor (pool.cursorKey attempt.subnet.id) (pool.following (walk.index offset)))
        return .granted grant
      | .unavailable => walkPool topology attempt pool walk remaining (offset + 1) busy
      | .busy =>
        walkPool topology attempt pool walk remaining (offset + 1) (busy.or (some address))

/-- Where the walk through a pool begins. -/
def walkStart (attempt : Attempt) (pool : Pool) : Task Nat :=
  match attempt.candidate.params.allocator with
  | .iterative => query (.cursor (pool.cursorKey attempt.subnet.id))
  | .random => query (.randomStart pool.capacity)

/-- Search pools one after another, trying at most so many candidates of each. -/
def searchPools (topology : Topology) (attempt : Attempt) (limit : Option Nat)
    (busy : Option Address) : List Pool → Task Search
  | [] => return .exhausted busy
  | pool :: rest => do
    let walk := PoolWalk.ofPool pool (← walkStart attempt pool) limit
    match ← walkPool topology attempt pool walk walk.count 0 busy with
    | .granted grant => return .granted grant
    | .exhausted busy => searchPools topology attempt limit busy rest

/-- Find an address for a client whose reservation fixes none. -/
def searchSubnet (topology : Topology) (attempt : Attempt) (limit : Option Nat)
    (leases : List Lease) : Task Search := do
  match ← tryTargets topology attempt none (attempt.suggestions leases) with
  | .granted grant => return .granted grant
  | .exhausted busy => searchPools topology attempt limit busy attempt.eligiblePools

/-- Report the phase that an allocation goes to from the search for an address. -/
def endPhase (phase : Phase) (address : Option Address) : Task Unit :=
  report (.phase .conflictCheck phase address)

/-- Give the client the address that its reservation fixes. -/
def allocateFixed (attempt : Attempt) (target : Target) : Task Search := do
  report (.phase .reservationCheck .conflictCheck (some target.address))
  match ← (tryFixed attempt target).attempt with
  | .ok grant =>
    endPhase .committed (some target.address)
    return .granted grant
  | .error error =>
    endPhase .rejected (some target.address)
    fail error

/-- Find an address for the client. -/
def allocateDynamic (topology : Topology) (attempt : Attempt) (limit : Option Nat)
    (leases : List Lease) : Task Search := do
  report (.phase .reservationCheck .conflictCheck none)
  match ← (searchSubnet topology attempt limit leases).attempt with
  | .ok (.granted grant) =>
    endPhase .committed (some grant.lease.address)
    return .granted grant
  | .ok (.exhausted busy) =>
    endPhase .rejected none
    return .exhausted busy
  | .error error =>
    endPhase .rejected none
    fail error

/-- The identifier that a lease of a candidate is recorded against. -/
def ownerIn (request : Request) (candidate : Candidate) : Option Identifier :=
  request.identifiers.owner? candidate.params.matchClientId

/-- Serve a request in one subnet, given the leases recorded against the client. -/
def allocateIn (topology : Topology) (request : Request) (mode : AllocationMode)
    (limit : Option Nat) (leases : List Lease) (candidate : Candidate) : Task Search :=
  match ownerIn request candidate with
  | none => fail .missingIdentifier
  | some owner => do
    report (.phase .requested .reservationCheck none)
    let reservation := topology.reservation? candidate request.identifiers
    let attempt := Attempt.ofReservation topology candidate request mode owner reservation (← clock)
    match reservation.bind attempt.fixed? with
    | some target => allocateFixed attempt target
    | none => allocateDynamic topology attempt limit leases

/-- Serve a request in one of several subnets, after others were exhausted. -/
def allocateAmong (topology : Topology) (request : Request) (mode : AllocationMode)
    (limit : Option Nat) (leases : List Lease) (last : SubnetId) (busy : Option Address) :
    List Candidate → Task Grant
  | [] =>
    match busy with
    | some address => fail (.lostRace address)
    | none => fail (.poolExhausted last)
  | candidate :: rest => do
    match ← allocateIn topology request mode limit leases candidate with
    | .granted grant => return grant
    | .exhausted skipped =>
      allocateAmong topology request mode limit leases candidate.subnet.id (busy.or skipped) rest

/-- The identifiers that leases of the candidates are recorded against, each once. There are none
when the client presents none for some candidate. -/
def owners? (request : Request) (candidates : List Candidate) : Option (List Identifier) :=
  (candidates.mapM (ownerIn request)).map firstOccurrences

/-- The leases recorded against identifiers. -/
def leasesOf : List Identifier → Task (List Lease)
  | [] => return []
  | owner :: rest => do
    let found ← call (.getLeases owner)
    return found ++ (← leasesOf rest)

/-- The client holds one of the leases in the subnet of a candidate. -/
def holdsIn (leases : List Lease) (now : Instant) (candidate : Candidate) : Bool :=
  leases.any fun lease => lease.subnet == candidate.subnet.id && lease.isActive now

/-- Serve a request in the selected subnets, those in which the client holds a lease first. -/
def allocateSelected (topology : Topology) (request : Request) (mode : AllocationMode)
    (limit : Option Nat) (selection : Selection) (first : Candidate) : Task Grant :=
  match owners? request selection.candidates with
  | none => fail .missingIdentifier
  | some owners => do
    let leases ← leasesOf owners
    let preferred := selection.prefer (holdsIn leases (← clock))
    allocateAmong topology request mode limit leases first.subnet.id none preferred.candidates

/-- Serve a request. -/
def serve (topology : Topology) (request : Request) (mode : AllocationMode) (limit : Option Nat) :
    Task Grant :=
  if request.identifiers.isEmpty then fail .missingIdentifier
  else
    let selection := topology.select request
    match selection.candidates with
    | [] => fail .noSubnet
    | first :: _ => allocateSelected topology request mode limit selection first

/-- How an allocation ended. -/
def outcome (mode : AllocationMode) : Except EngineError Grant → Outcome
  | .ok grant =>
    match mode, grant.kind with
    | .offer, _ => .offered
    | .commit, .new => .committed
    | .commit, .renewed => .renewed
    | .commit, .reserved => .reserved
  | .error error =>
    match error with
    | .noSubnet => .noSubnet
    | .missingIdentifier => .missingIdentifier
    | .poolExhausted _ => .poolExhausted
    | .reservationConflict _ _ => .reservationConflict
    | .lostRace _ => .repositoryConflict
    | .unavailable _ => .repositoryTransient
    | .turnedDown _ => .hookSkipped
    | .repository _ | .leaseNotFound _ => .repositoryError

/-- Allocate a lease for a request. At most `limit` candidates of each pool are tried. -/
def allocate (topology : Topology) (request : Request) (mode : AllocationMode)
    (limit : Option Nat) : Task Grant := do
  let result ← (serve topology request mode limit).attempt
  count (.outcome (outcome mode result)) 1
  Program.ofExcept result

end Leasehold.Engine
