import Leasehold.AddressText
import Leasehold.Identifier
import Leasehold.Scope

/-!
# Configurations

A configuration is what an operator writes: parameters at three levels, client classes, host
reservations, subnets with their pools, and shared networks of subnets. Nothing in it has been
checked yet beyond its form; texts that later stages read, such as pool ranges, identifiers and
class tests, are kept as written.
-/
namespace Leasehold

/-- A lifetime or a timer in a configuration: a positive number of seconds that fits 32 bits. -/
structure Seconds where
  /-- The number of seconds. -/
  value : Nat
  /-- It is not zero. -/
  positive : 0 < value
  /-- It fits 32 bits. -/
  bounded : value ≤ largestWord
deriving DecidableEq, Repr

/-- The lifetime of a number of seconds, when it is one. -/
def Seconds.ofNat? (value : Nat) : Option Seconds :=
  if fits : 0 < value ∧ value ≤ largestWord then some ⟨value, fits.1, fits.2⟩ else none

namespace Config

/-- Parameters that may be set at any of the three levels. -/
structure Params where
  /-- The lifetime of a lease for a client that asks for none. -/
  validLifetime : Option Seconds
  /-- The shortest lifetime of a lease. -/
  minValidLifetime : Option Seconds
  /-- The longest lifetime of a lease. -/
  maxValidLifetime : Option Seconds
  /-- When a client renews its lease. -/
  renewTimer : Option Seconds
  /-- When a client looks for any server to extend its lease. -/
  rebindTimer : Option Seconds
  /-- How host reservations apply. -/
  reservationMode : Option ReservationMode
  /-- The interface that selects the subnet. -/
  interface : Option String
  /-- The relay addresses that select the subnet. -/
  relay : Option (List Address)
  /-- The server has the last word on leases. -/
  authoritative : Option Bool
  /-- Leases may be recorded against the client identifier. -/
  matchClientId : Option Bool
  /-- The order in which candidates are tried. -/
  allocator : Option AllocatorKind
deriving DecidableEq, Repr

/-- Parameters of which none is set. -/
def Params.unset : Params :=
  ⟨none, none, none, none, none, none, none, none, none, none, none⟩

/-- A pool of addresses. -/
structure Pool where
  /-- The first and the last address, or a block. -/
  pool : String
  /-- The class that a client must belong to. -/
  clientClass : Option String
  /-- The number recorded on leases from the pool. -/
  id : Option UInt32
deriving DecidableEq, Repr

/-- A pool of delegated blocks. -/
structure DelegatedPool where
  /-- The block that is divided. -/
  block : Block
  /-- The length of the delegated blocks. -/
  delegatedLength : UInt8
  /-- The class that a client must belong to. -/
  clientClass : Option String
  /-- The number recorded on leases from the pool. -/
  id : Option UInt32
deriving DecidableEq, Repr

/-- A host reservation. -/
structure Reservation where
  /-- The hardware address of the host. -/
  hwAddress : Option String
  /-- The unique identifier of the host. -/
  duid : Option String
  /-- The client identifier of the host. -/
  clientId : Option String
  /-- The circuit of the host. -/
  circuitId : Option String
  /-- One reserved address. -/
  ipAddress : Option Address
  /-- Further reserved addresses. -/
  ipAddresses : List Address
  /-- Reserved blocks. -/
  blocks : List Block
  /-- The name of the host. -/
  hostname : Option String
  /-- The classes that the host is assigned to. -/
  clientClasses : List String
deriving DecidableEq, Repr

/-- A client class. -/
structure ClientClass where
  /-- Its name. -/
  name : String
  /-- The test for membership. Without one, only reservations assign the class. -/
  test : Option String
deriving DecidableEq, Repr

/-- A subnet. -/
structure Subnet where
  /-- Its number, or zero when one is to be generated. -/
  id : UInt32
  /-- Its block. -/
  block : Block
  /-- Its address pools. -/
  pools : List Pool
  /-- Its pools of delegated blocks. -/
  delegatedPools : List DelegatedPool
  /-- The class that a client must belong to. -/
  clientClass : Option String
  /-- Its host reservations. -/
  reservations : List Reservation
  /-- Its own parameters. -/
  params : Params
deriving DecidableEq, Repr

/-- A shared network. -/
structure Network where
  /-- Its name. -/
  name : String
  /-- The class that a client must belong to. -/
  clientClass : Option String
  /-- Its subnets. -/
  subnets : List Subnet
  /-- The parameters of the network. -/
  params : Params
deriving DecidableEq, Repr

/-- The kinds of identifiers that a reservation is looked up by, in order, unless configured. -/
def defaultIdentifierOrder : List IdentifierKind := [.hwAddress, .duid, .circuitId, .clientId]

end Config

/-- A configuration. -/
structure Config where
  /-- The global parameters. -/
  params : Config.Params
  /-- The kinds of identifiers that a reservation is looked up by, in order. -/
  identifierOrder : List IdentifierKind
  /-- No two reservations of one scope may claim the same address. -/
  uniqueAddresses : Bool
  /-- The client classes. -/
  clientClasses : List Config.ClientClass
  /-- The global host reservations. -/
  reservations : List Config.Reservation
  /-- The subnets outside shared networks. -/
  subnets : List Config.Subnet
  /-- The shared networks. -/
  networks : List Config.Network
deriving DecidableEq, Repr

end Leasehold
