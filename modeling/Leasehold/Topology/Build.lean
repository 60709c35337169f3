import Leasehold.Topology

/-!
# Checking configurations

A configuration becomes a topology when everything in it is consistent; otherwise the first fault is
reported and nothing of it is kept. Checks run in a fixed order: client classes, global
reservations, then subnet by subnet in the order written, the subnets of shared networks last, and
finally the lifetimes that hold in each subnet. Within a subnet its number comes first, then its
pools, and then its reservations.
-/
namespace Leasehold

/-- What is wrong with a pool. -/
inductive PoolFault where
  /-- Its range cannot be read. -/
  | range (fault : RangeFault)
  /-- The ends of its range are of different families. -/
  | mixedFamilies
  /-- The first address is after the last. -/
  | reversed
  /-- It leaves the block of its subnet. -/
  | outside (block : Block)
  /-- Only blocks of 128-bit addresses are delegated. -/
  | notV6
  /-- The delegated blocks are larger than the block that is divided, or longer than an address. -/
  | badLength (least : Nat)
deriving DecidableEq, Repr

/-- The wording of each fault. -/
def PoolFault.message : PoolFault → String
  | .range fault => fault.message
  | .mixedFamilies => "mixed address families"
  | .reversed => "first address is after last"
  | .outside block => "not inside " ++ block.text
  | .notV6 => "prefix delegation needs an IPv6 prefix"
  | .badLength least => "delegated_len must be between " ++ toString least ++ " and 128"

/-- Why a configuration is refused. -/
inductive ConfigError where
  /-- The client classes are refused. -/
  | classes (error : ClassError)
  /-- No kind of identifier is left to look reservations up by. -/
  | emptyIdentifierOrder
  /-- A reservation is refused. -/
  | reservation (error : ReservationError)
  /-- Two subnets have one number. -/
  | duplicateSubnetId (id : SubnetId)
  /-- There is no number above the highest one. -/
  | subnetIdExhausted (highest : SubnetId)
  /-- The name of a shared network is blank. -/
  | emptyNetworkName
  /-- Two shared networks have one name. -/
  | duplicateNetwork (name : String)
  /-- A subnet of a shared network is on another interface than the rest. -/
  | interfaceMismatch (network : String) (subnet : SubnetId) (expected found : String)
  /-- A subnet of a shared network differs from it in having the last word. -/
  | authoritativeMismatch (network : String) (subnet : SubnetId) (expected found : Bool)
  /-- A pool is refused. -/
  | invalidPool (subnet : SubnetId) (pool : String) (fault : PoolFault)
  /-- Two pools of a subnet overlap. -/
  | overlappingPools (subnet : SubnetId) (first second : String)
  /-- The lifetimes that hold in a subnet are out of order. -/
  | invalidLifetime (subnet : SubnetId) (time : LeaseTime)
  /-- A reservation of a subnet has an address outside of it. -/
  | reservationOutside (subnet : SubnetId) (reservation : String) (address : Address)
deriving DecidableEq, Repr

/-- A truth value in messages. -/
def boolText (value : Bool) : String := if value then "true" else "false"

/-- The wording of each error. -/
def ConfigError.message : ConfigError → String
  | .classes error => error.message
  | .emptyIdentifierOrder => "host_reservation_identifiers must not be empty"
  | .reservation error => error.message
  | .duplicateSubnetId id => "duplicate subnet id " ++ toString id.toNat
  | .subnetIdExhausted highest =>
    "no subnet ids left to autogenerate after " ++ toString highest.toNat
  | .emptyNetworkName => "shared network name must not be empty"
  | .duplicateNetwork name => "duplicate shared network name " ++ Text.quoted name
  | .interfaceMismatch network subnet expected found =>
    "subnet " ++ toString subnet.toNat ++ " in shared network " ++ Text.quoted network ++
      " uses interface " ++ Text.quoted found ++ ", expected " ++ Text.quoted expected
  | .authoritativeMismatch network subnet expected found =>
    "subnet " ++ toString subnet.toNat ++ " authoritative=" ++ boolText found ++
      " disagrees with shared network " ++ Text.quoted network ++ " authoritative=" ++
      boolText expected
  | .invalidPool subnet pool fault =>
    "invalid pool " ++ Text.quoted pool ++ " in subnet " ++ toString subnet.toNat ++ ": " ++
      fault.message
  | .overlappingPools subnet first second =>
    "pools " ++ first ++ " and " ++ second ++ " overlap in subnet " ++ toString subnet.toNat
  | .invalidLifetime subnet time =>
    "invalid lifetimes in subnet " ++ toString subnet.toNat ++
      ": expected min <= valid <= max, got " ++ toString (inSeconds time.least) ++ "s <= " ++
      toString (inSeconds time.fallback) ++ "s <= " ++ toString (inSeconds time.most) ++ "s"
  | .reservationOutside subnet host address =>
    "reservation " ++ host ++ " for " ++ address.text ++ " is outside of subnet " ++
      toString subnet.toNat

/-- The numbers given to subnets so far. -/
structure SubnetIds where
  /-- Every number given. -/
  used : List SubnetId
  /-- The highest number given, or zero. -/
  highest : SubnetId

namespace SubnetIds

/-- No number has been given. -/
def none : SubnetIds := ⟨[], 0⟩

/-- Give a subnet the number it asks for, or the one above the highest when it asks for none. -/
def assign (ids : SubnetIds) (requested : UInt32) : Except ConfigError (SubnetId × SubnetIds) :=
  let chosen : Except ConfigError SubnetId :=
    if requested = 0 then
      if ids.highest.toNat < largestWord then .ok (ids.highest + 1)
      else .error (.subnetIdExhausted ids.highest)
    else .ok requested
  match chosen with
  | .error error => .error error
  | .ok id =>
    if ids.used.contains id then .error (.duplicateSubnetId id)
    else .ok (id, ⟨id :: ids.used, if ids.highest < id then id else ids.highest⟩)

end SubnetIds

namespace Pool

/-- The address pool that a configuration describes, in a subnet with the given block. -/
def ofConfig (block : Block) (entry : Config.Pool) : Except PoolFault Pool :=
  match parseRange entry.pool with
  | .error fault => .error (.range fault)
  | .ok (first, last) =>
    if first.family ≠ last.family then .error .mixedFamilies
    else if last.value < first.value then .error .reversed
    else if !block.contains first || !block.contains last then .error (.outside block)
    else .ok ⟨entry.id, .addresses, first, last, entry.clientClass⟩

/-- The pool of delegated blocks that a configuration describes.

Numbers have no bound here. In 128 bits the last candidate cannot be computed for two entries
(`wideLast?_eq_none_iff`): all addresses as one block, and all addresses as single ones. Where a bit
counts modulo 128 instead, either is a pool of the first address alone. The first one is that here,
too, while the second one is a pool of all addresses. -/
def ofDelegated (entry : Config.DelegatedPool) : Except PoolFault Pool :=
  let block := entry.block.trunc
  let length := entry.delegatedLength.toNat
  if block.family ≠ .v6 then .error .notV6
  else if length < block.length ∨ 128 < length then .error (.badLength block.length)
  else
    let count := Nat.pow 2 (length - block.length)
    let lastValue := block.firstValue + (count - 1) * Nat.pow 2 (128 - length)
    match Address.ofNat? .v6 lastValue with
    | none => .error (.badLength block.length)
    | some last => .ok ⟨entry.id, .blocks length, block.first, last, entry.clientClass⟩

/-- The first pool that overlaps a later one, and the first it overlaps. -/
def overlapping? : List Pool → Option (Pool × Pool)
  | [] => none
  | pool :: rest =>
    match rest.find? pool.overlaps with
    | some other => some (pool, other)
    | none => overlapping? rest

end Pool

/-- What has been given out and collected while subnets are checked. -/
structure Builder where
  /-- The numbers given to subnets. -/
  ids : SubnetIds
  /-- The reservations collected. -/
  reservations : ReservationIndex
  /-- No two reservations of one scope may claim the same address. -/
  uniqueAddresses : Bool

namespace Builder

/-- Collect a reservation. -/
def reserve (builder : Builder) (reservation : Reservation) : Except ConfigError Builder :=
  match builder.reservations.insert reservation builder.uniqueAddresses with
  | .error error => .error (.reservation error)
  | .ok reservations => .ok { builder with reservations }

/-- Collect the reservations of a scope. Those of a subnet must not have an address outside its
block. -/
def reserveAll (scope : Scope) (inside : Reservation → Except ConfigError Unit)
    (builder : Builder) : List Config.Reservation → Except ConfigError Builder
  | [] => .ok builder
  | entry :: rest =>
    match Reservation.ofConfig scope entry with
    | .error error => .error (.reservation error)
    | .ok reservation =>
      match inside reservation with
      | .error error => .error error
      | .ok () =>
        match builder.reserve reservation with
        | .error error => .error error
        | .ok builder => reserveAll scope inside builder rest

/-- A reservation of a subnet has no address outside its block. -/
def checkInside (id : SubnetId) (block : Block) (reservation : Reservation) :
    Except ConfigError Unit :=
  match reservation.addresses.find? (!block.contains ·) with
  | some address => .error (.reservationOutside id reservation.label address)
  | none => .ok ()

/-- The pools of a subnet, by the given way to read one. -/
def readPools {ε : Type} (id : SubnetId) (label : ε → String) (read : ε → Except PoolFault Pool) :
    List ε → Except ConfigError (List Pool)
  | [] => .ok []
  | entry :: rest =>
    match read entry with
    | .error fault => .error (.invalidPool id (label entry) fault)
    | .ok pool => (readPools id label read rest).map (pool :: ·)

/-- How messages name a pool of delegated blocks. -/
def delegatedLabel (entry : Config.DelegatedPool) : String :=
  entry.block.text ++ "/" ++ toString entry.delegatedLength.toNat

/-- No two pools overlap. -/
def checkApart (id : SubnetId) (pools : List Pool) : Except ConfigError Unit :=
  match Pool.overlapping? pools with
  | some (first, second) => .error (.overlappingPools id first.text second.text)
  | none => .ok ()

/-- Check one subnet. -/
def subnet (builder : Builder) (network : Option String) (entry : Config.Subnet) :
    Except ConfigError (Subnet × Builder) := do
  let (id, ids) ← builder.ids.assign entry.id
  let block := entry.block.trunc
  let pools ← readPools id (·.pool) (Pool.ofConfig block) entry.pools
  let delegatedPools ← readPools id delegatedLabel Pool.ofDelegated entry.delegatedPools
  checkApart id pools
  checkApart id delegatedPools
  let builder ←
    reserveAll (.subnet id) (checkInside id block) { builder with ids } entry.reservations
  .ok ({ id, block, pools, delegatedPools, guard := entry.clientClass, network,
         params := Params.ofConfig entry.params }, builder)

/-- Check subnets one after another. -/
def subnets (builder : Builder) : List Config.Subnet → Except ConfigError (List Subnet × Builder)
  | [] => .ok ([], builder)
  | entry :: rest => do
    let (first, builder) ← builder.subnet none entry
    let (others, builder) ← builder.subnets rest
    .ok (first :: others, builder)

/-- The interface that the subnets of a shared network have to be on after one more subnet: the one
of the network, or else the first that a subnet names. -/
def agreeInterface (network : String) (expected : Option String) (subnet : Subnet) :
    Except ConfigError (Option String) :=
  match subnet.params.interface, expected with
  | none, _ => .ok expected
  | some found, none => .ok (some found)
  | some found, some wanted =>
    if wanted = found then .ok expected
    else .error (.interfaceMismatch network subnet.id wanted found)

/-- A subnet of a shared network does not differ from it in having the last word. -/
def agreeAuthoritative (network : String) (expected : Bool) (subnet : Subnet) :
    Except ConfigError Unit :=
  match subnet.params.authoritative with
  | none => .ok ()
  | some found =>
    if found = expected then .ok ()
    else .error (.authoritativeMismatch network subnet.id expected found)

/-- Check the subnets of a shared network one after another. -/
def members (builder : Builder) (network : String) (authoritative : Bool)
    (expected : Option String) :
    List Config.Subnet → Except ConfigError (List Subnet × Builder)
  | [] => .ok ([], builder)
  | entry :: rest => do
    let (first, builder) ← builder.subnet (some network) entry
    let expected ← agreeInterface network expected first
    agreeAuthoritative network authoritative first
    let (others, builder) ← builder.members network authoritative expected rest
    .ok (first :: others, builder)

/-- Check one shared network, after those with the given names. -/
def network (builder : Builder) (global : Params) (names : List String) (entry : Config.Network) :
    Except ConfigError (Network × Builder) := do
  if (Text.trim entry.name.toList).isEmpty then .error .emptyNetworkName
  else if names.contains entry.name then .error (.duplicateNetwork entry.name)
  else
    let params := Params.ofConfig entry.params
    let authoritative := (params.authoritative.or global.authoritative).getD false
    let (subnets, builder) ←
      builder.members entry.name authoritative params.interface entry.subnets
    .ok ({ name := entry.name, guard := entry.clientClass, subnets, params }, builder)

/-- Check shared networks one after another. -/
def networks (builder : Builder) (global : Params) (names : List String) :
    List Config.Network → Except ConfigError (List Network × Builder)
  | [] => .ok ([], builder)
  | entry :: rest => do
    let (first, builder) ← builder.network global names entry
    let (others, builder) ← builder.networks global (first.name :: names) rest
    .ok (first :: others, builder)

end Builder

namespace Topology

/-- The lifetimes that hold in each subnet are in order. -/
def checkLifetimes (topology : Topology) : Except ConfigError Unit :=
  match topology.subnets.find? fun subnet => !(topology.params subnet).leaseTime.isOrdered with
  | some subnet => .error (.invalidLifetime subnet.id (topology.params subnet).leaseTime)
  | none => .ok ()

/-- Check a configuration. -/
def build (config : Config) (generation : Nat) : Except ConfigError Topology := do
  let classes ← (ClassTable.ofConfig config.clientClasses).mapError .classes
  let global := Params.ofConfig config.params
  if config.identifierOrder.isEmpty then .error .emptyIdentifierOrder
  else
    let builder : Builder := ⟨.none, .empty config.identifierOrder, config.uniqueAddresses⟩
    let builder ← builder.reserveAll .global (fun _ => .ok ()) config.reservations
    let (plain, builder) ← builder.subnets config.subnets
    let (networks, builder) ← builder.networks global [] config.networks
    let topology : Topology := {
      generation
      subnets := plain ++ networks.flatMap (·.subnets)
      networks
      global
      reservations := builder.reservations
      classes }
    topology.checkLifetimes
    .ok topology

end Topology

end Leasehold
