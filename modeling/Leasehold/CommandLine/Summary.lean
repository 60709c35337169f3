import Leasehold.Text.Quoted
import Leasehold.Topology

/-!
# Summaries of topologies

A summary counts what there is, and then has a line for each shared network and each subnet.
-/
namespace Leasehold

/-- A name that may be missing. -/
def someName : Option String → String
  | none => "None"
  | some name => "Some(" ++ Text.quoted name ++ ")"

/-- The line of a shared network. -/
def Network.summary (network : Network) : String :=
  "shared-network " ++ network.name ++ " guard=" ++ someName network.guard ++ " subnets=[" ++
    String.intercalate ", " (network.subnets.map fun subnet => toString subnet.id.toNat) ++ "]"

namespace Topology

/-- The line of a subnet. -/
def subnetSummary (topology : Topology) (subnet : Subnet) : String :=
  let params := topology.params subnet
  "subnet " ++ toString subnet.id.toNat ++ " " ++ subnet.block.text ++ " network=" ++
    someName subnet.network ++ " pools=" ++ toString subnet.pools.length ++ " pd_pools=" ++
    toString subnet.delegatedPools.length ++ " addrs=" ++ toString subnet.total ++ " mode=" ++
    params.reservationMode.label ++ " allocator=" ++ params.allocator.label ++ " valid=" ++
    toString (inSeconds params.leaseTime.fallback) ++ "s"

/-- How much there is of everything. -/
def countSummary (topology : Topology) : String :=
  toString topology.subnets.length ++ " subnets, " ++ toString topology.networks.length ++
    " shared networks, " ++ toString topology.reservations.hosts.size ++ " reservations, " ++
    toString topology.classes.classes.length ++ " client classes"

/-- The lines of the summary of a topology. -/
def summary (topology : Topology) : List String :=
  topology.countSummary ::
    topology.networks.map Network.summary ++ topology.subnets.map topology.subnetSummary

end Topology

end Leasehold
