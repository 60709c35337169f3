import Leasehold.Config.Decode
import Leasehold.Simulation

/-!
# Reading lists of requests

A request is a record of which every field may be left out.
-/
namespace Leasehold.Simulation

namespace Entry

/-- The names of the fields of a request. -/
def names : List String :=
  ["action", "hw_address", "duid", "client_id", "circuit_id", "iface", "relay_addr", "link_select",
    "client_addr", "local_addr", "hint", "lifetime", "hostname", "prefix", "offer", "addr"]

/-- A field that may be left out or be null. -/
def field? {α : Type} (fields : Node.Fields) (name : String) (decode : Node → Option α) :
    Option (Option α) :=
  fields.defaulted? name none (·.nullable? decode)

/-- The origin of a request. -/
def selector? (fields : Node.Fields) : Option Selector := do
  some {
    iface := ← field? fields "iface" Node.text?
    relayAddress := ← field? fields "relay_addr" Config.address?
    linkSelection := ← field? fields "link_select" Config.address?
    clientAddress := ← field? fields "client_addr" Config.address?
    localAddress := ← field? fields "local_addr" Config.address? }

/-- The request of a node. -/
def ofNode? (node : Node) : Option Entry := do
  let fields ← node.record? names
  some {
    action := ← fields.defaulted? "action" .allocate (·.choice? Action.ofText?)
    hwAddress := ← field? fields "hw_address" Node.text?
    duid := ← field? fields "duid" Node.text?
    clientId := ← field? fields "client_id" Node.text?
    circuitId := ← field? fields "circuit_id" Node.text?
    selector := ← selector? fields
    hint := ← field? fields "hint" Config.address?
    lifetime := ← field? fields "lifetime" (·.natural? largestLong)
    hostname := ← field? fields "hostname" Node.text?
    wantsBlock := ← fields.defaulted? "prefix" false Node.bool?
    offer := ← fields.defaulted? "offer" false Node.bool?
    address := ← field? fields "addr" Config.address? }

end Entry

/-- Read a list of requests. -/
def parse? (kind : TextFormat) (text : String) : Option (List Entry) :=
  kind.decode? (·.list? Entry.ofNode?) text

end Leasehold.Simulation
