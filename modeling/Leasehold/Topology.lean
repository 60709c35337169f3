import Leasehold.ClientClass
import Leasehold.Params
import Leasehold.Pool
import Leasehold.Reservation

/-!
# Topologies

A topology is a configuration that has been checked: numbered subnets with their pools, shared
networks of subnets, host reservations and client classes. The subnets of shared networks stand in
the list of all subnets too, after the subnets outside them, and refer to their network by name.
-/
namespace Leasehold

/-- A subnet. -/
structure Subnet where
  /-- Its number. -/
  id : SubnetId
  /-- Its block, given by the first address. -/
  block : Block
  /-- Its address pools. -/
  pools : List Pool
  /-- Its pools of delegated blocks. -/
  delegatedPools : List Pool
  /-- The class that a client must belong to. -/
  guard : Option String
  /-- The name of its shared network. -/
  network : Option String
  /-- The parameters set on the subnet itself. -/
  params : Params
deriving DecidableEq, Repr

namespace Subnet

/-- The family of the addresses of the subnet. -/
def family (subnet : Subnet) : Family := subnet.block.family

/-- The address lies in the subnet. -/
def contains (subnet : Subnet) (address : Address) : Bool := subnet.block.contains address

/-- The address pool with a candidate. -/
def findPool? (subnet : Subnet) (address : Address) : Option Pool :=
  subnet.pools.find? (·.contains address)

/-- The pool of delegated blocks with a candidate. -/
def findDelegatedPool? (subnet : Subnet) (address : Address) : Option Pool :=
  subnet.delegatedPools.find? (·.contains address)

/-- The number of candidates of all pools, which is cut to what fits 128 bits. -/
def total (subnet : Subnet) : Nat :=
  (subnet.pools ++ subnet.delegatedPools).foldl
    (fun sum pool => min (sum + pool.capacity) largestWide) 0

end Subnet

/-- A shared network. -/
structure Network where
  /-- Its name. -/
  name : String
  /-- The class that a client must belong to. -/
  guard : Option String
  /-- Its subnets. -/
  subnets : List Subnet
  /-- The parameters set on the network. -/
  params : Params
deriving DecidableEq, Repr

/-- A configuration that has been checked. -/
structure Topology where
  /-- How many configurations were put in force up to this one. -/
  generation : Nat
  /-- Every subnet, those of shared networks last. -/
  subnets : List Subnet
  /-- The shared networks. -/
  networks : List Network
  /-- The global parameters. -/
  global : Params
  /-- The host reservations. -/
  reservations : ReservationIndex
  /-- The client classes. -/
  classes : ClassTable

namespace Topology

/-- The topology without subnets. -/
def empty : Topology := ⟨0, [], [], .unset, .empty [], .empty⟩

/-- The subnet with a number. -/
def subnet? (topology : Topology) (id : SubnetId) : Option Subnet :=
  topology.subnets.find? (·.id == id)

/-- The shared network with a name. -/
def network? (topology : Topology) (name : String) : Option Network :=
  topology.networks.find? (·.name == name)

/-- The shared network that a subnet belongs to. -/
def networkOf? (topology : Topology) (subnet : Subnet) : Option Network :=
  subnet.network.bind topology.network?

/-- The levels at which the parameters of a subnet may be set. -/
def inheritance (topology : Topology) (subnet : Subnet) : Inheritance :=
  ⟨subnet.params, (topology.networkOf? subnet).map (·.params), topology.global⟩

/-- Every parameter of a subnet, resolved. -/
def params (topology : Topology) (subnet : Subnet) : SubnetParams :=
  (topology.inheritance subnet).resolve

end Topology

end Leasehold
