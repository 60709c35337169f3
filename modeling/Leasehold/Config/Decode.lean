import Leasehold.Config
import Leasehold.Document.Decode
import Leasehold.Json.Reader
import Leasehold.Yaml.Reader

/-!
# Reading configurations

A configuration is read from JSON, from YAML, or from whichever of the two a text turns out to be,
JSON being tried first. The names of the fields are fixed here. The parameters of a level share the
mapping of that level. Durations are whole seconds, or a text with a unit.
-/
namespace Leasehold

/-- The notation that a text is expected in. -/
inductive TextFormat where
  /-- JSON alone. -/
  | json
  /-- YAML alone. -/
  | yaml
  /-- JSON, and YAML where that fails. -/
  | either
deriving DecidableEq, Repr

/-- Decode a text in a notation. In either notation, a text that is JSON but does not decode gets a
second chance as YAML. -/
def TextFormat.decode? {α : Type} (kind : TextFormat) (decode : Node → Option α) (text : String) :
    Option α :=
  let json := fun (_ : Unit) => (Json.read? text.toList).bind decode
  let yaml := fun (_ : Unit) => (Yaml.read? text.toList).bind decode
  match kind with
  | .json => json ()
  | .yaml => yaml ()
  | .either => (json ()).or (yaml ())

namespace Seconds

/-- The seconds in one unit of time. -/
def unit? : List Char → Option Nat
  | [] => some 1
  | ['s'] => some 1
  | ['m'] => some 60
  | ['h'] => some 3600
  | _ => none

/-- Read a number with an optional unit. -/
def parse? (text : String) : Option Seconds := do
  let trimmed := Text.trim text.toList
  let digits := trimmed.takeWhile Text.Decimal.isDigit
  let unit ← unit? (Text.trim (trimmed.dropWhile Text.Decimal.isDigit))
  let number := Text.Decimal.value digits
  if digits.isEmpty || number > largestWord then none else ofNat? (number * unit)

/-- The lifetime of a node that was held to its kind. -/
def ofNode? (node : Node) : Option Seconds :=
  match node.natural? largestLong with
  | some value => ofNat? value
  | none => node.text?.bind parse?

end Seconds

namespace Config

/-- The address of a node. -/
def address? (node : Node) : Option Address :=
  node.text?.bind fun text => Address.parse? text.toList

/-- The block of a node. -/
def block? (node : Node) : Option Block := node.text?.bind fun text => Block.parse? text.toList

/-- The number of 32 bits of a node. -/
def word? (node : Node) : Option UInt32 := (node.natural? largestWord).map UInt32.ofNat

/-- The number of 8 bits of a node. -/
def byte? (node : Node) : Option UInt8 := (node.natural? largestByte).map UInt8.ofNat

/-- The relay addresses of a node. -/
def relay? (node : Node) : Option (List Address) := do
  let fields ← node.record? ["ip_addresses"]
  fields.defaulted? "ip_addresses" [] (·.list? address?)

/-- The names of the parameters. -/
def Params.names : List String :=
  ["valid_lifetime", "min_valid_lifetime", "max_valid_lifetime", "renew_timer", "rebind_timer",
    "reservation_mode", "interface", "relay", "authoritative", "match_client_id", "allocator"]

/-- The parameters among the fields of a level. -/
def Params.ofFields? (fields : Node.Fields) : Option Params := do
  some {
    validLifetime := ← fields.optional? "valid_lifetime" Seconds.ofNode?
    minValidLifetime := ← fields.optional? "min_valid_lifetime" Seconds.ofNode?
    maxValidLifetime := ← fields.optional? "max_valid_lifetime" Seconds.ofNode?
    renewTimer := ← fields.optional? "renew_timer" Seconds.ofNode?
    rebindTimer := ← fields.optional? "rebind_timer" Seconds.ofNode?
    reservationMode := ← fields.optional? "reservation_mode"
      (·.settledChoice? ReservationMode.choices ReservationMode.ofText?)
    interface := ← fields.optional? "interface" Node.text?
    relay := ← fields.optional? "relay" relay?
    authoritative := ← fields.optional? "authoritative" Node.bool?
    matchClientId := ← fields.optional? "match_client_id" Node.bool?
    allocator := ← fields.optional? "allocator"
      (·.settledChoice? AllocatorKind.choices AllocatorKind.ofText?) }

/-- The pool of a node. -/
def Pool.ofNode? (node : Node) : Option Pool := do
  let fields ← node.record? ["pool", "client_class", "id"]
  some {
    pool := ← fields.required? "pool" Node.text?
    clientClass := ← fields.optional? "client_class" Node.text?
    id := ← fields.optional? "id" word? }

/-- The pool of delegated blocks of a node. -/
def DelegatedPool.ofNode? (node : Node) : Option DelegatedPool := do
  let fields ← node.record? ["prefix", "delegated_len", "client_class", "id"]
  some {
    block := ← fields.required? "prefix" block?
    delegatedLength := ← fields.required? "delegated_len" byte?
    clientClass := ← fields.optional? "client_class" Node.text?
    id := ← fields.optional? "id" word? }

/-- The names of the fields of a host reservation. -/
def Reservation.names : List String :=
  ["hw_address", "duid", "client_id", "circuit_id", "ip_address", "ip_addresses", "prefixes",
    "hostname", "client_classes"]

/-- The host reservation of a node. -/
def Reservation.ofNode? (node : Node) : Option Reservation := do
  let fields ← node.record? Reservation.names
  some {
    hwAddress := ← fields.optional? "hw_address" Node.text?
    duid := ← fields.optional? "duid" Node.text?
    clientId := ← fields.optional? "client_id" Node.text?
    circuitId := ← fields.optional? "circuit_id" Node.text?
    ipAddress := ← fields.optional? "ip_address" address?
    ipAddresses := ← fields.defaulted? "ip_addresses" [] (·.list? address?)
    blocks := ← fields.defaulted? "prefixes" [] (·.list? block?)
    hostname := ← fields.optional? "hostname" Node.text?
    clientClasses := ← fields.defaulted? "client_classes" [] (·.list? Node.text?) }

/-- The client class of a node. -/
def ClientClass.ofNode? (node : Node) : Option ClientClass := do
  let fields ← node.record? ["name", "test"]
  some {
    name := ← fields.required? "name" Node.text?
    test := ← fields.optional? "test" Node.text? }

/-- The names of the fields of a subnet, other than its parameters. -/
def Subnet.names : List String :=
  ["id", "subnet", "pools", "pd_pools", "client_class", "reservations"]

/-- The subnet of a node. -/
def Subnet.ofNode? (node : Node) : Option Subnet := do
  let (fields, shared) ← node.shared? Subnet.names Params.names
  some {
    id := ← fields.defaulted? "id" 0 word?
    block := ← fields.required? "subnet" block?
    pools := ← fields.defaulted? "pools" [] (·.list? Pool.ofNode?)
    delegatedPools := ← fields.defaulted? "pd_pools" [] (·.list? DelegatedPool.ofNode?)
    clientClass := ← fields.optional? "client_class" Node.text?
    reservations := ← fields.defaulted? "reservations" [] (·.list? Reservation.ofNode?)
    params := ← Params.ofFields? shared }

/-- The names of the fields of a shared network, other than its parameters. -/
def Network.names : List String := ["name", "client_class", "subnets"]

/-- The shared network of a node. -/
def Network.ofNode? (node : Node) : Option Network := do
  let (fields, shared) ← node.shared? Network.names Params.names
  some {
    name := ← fields.required? "name" Node.text?
    clientClass := ← fields.optional? "client_class" Node.text?
    subnets := ← fields.defaulted? "subnets" [] (·.list? Subnet.ofNode?)
    params := ← Params.ofFields? shared }

/-- The names of the fields of a configuration, other than the global parameters. -/
def names : List String :=
  ["host_reservation_identifiers", "ip_reservations_unique", "client_classes", "reservations",
    "subnets", "shared_networks"]

/-- The configuration of a node. -/
def ofNode? (node : Node) : Option Config := do
  let (fields, shared) ← node.shared? names Params.names
  some {
    params := ← Params.ofFields? shared
    identifierOrder :=
      ← fields.defaulted? "host_reservation_identifiers" defaultIdentifierOrder
          (·.list? (·.choice? IdentifierKind.ofText?))
    uniqueAddresses := ← fields.defaulted? "ip_reservations_unique" true Node.bool?
    clientClasses := ← fields.defaulted? "client_classes" [] (·.list? ClientClass.ofNode?)
    reservations := ← fields.defaulted? "reservations" [] (·.list? Reservation.ofNode?)
    subnets := ← fields.defaulted? "subnets" [] (·.list? Subnet.ofNode?)
    networks := ← fields.defaulted? "shared_networks" [] (·.list? Network.ofNode?) }

/-- Read a configuration. -/
def parse? (kind : TextFormat) (text : String) : Option Config := kind.decode? ofNode? text

end Config

end Leasehold
