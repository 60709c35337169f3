import Leasehold.Json
import Leasehold.Simulation

/-!
# Writing reports

The report of a simulation is written as JSON. Fields without a value are left out.
-/
namespace Leasehold.Simulation

/-- The name of each way to come by a lease. -/
def kindText : GrantKind → String
  | .new => "new"
  | .renewed => "renewed"
  | .reserved => "reserved"

/-- A field that is left out when there are no texts. -/
def texts (name : String) : List String → List (String × Json)
  | [] => []
  | found => [(name, .list (found.map .text))]

/-- The fields that tell what a client was given: the address, how it came by it, its name and
classes, and when the lease ends. -/
def leaseFields (lease : Lease) (kind hostname : Option String) (classes : List String) :
    List (String × Json) :=
  ("addr", .text lease.target) :: ("subnet_id", .number lease.subnet.toNat) ::
    Json.present "kind" .text kind ++ Json.present "hostname" .text hostname ++
    texts "classes" classes ++ [("expires_at", .text (Timestamp.offset lease.expiresAt))]

/-- What came of the request with a number. -/
def Outcome.json (index : Nat) (outcome : Outcome) : Json :=
  let fields := match outcome with
    | .granted grant =>
      ("ok", Json.bool true) ::
        leaseFields grant.lease (some (kindText grant.kind)) grant.hostname grant.classes.names ++
        [("committed", .bool grant.committed)]
    | .givenUp lease =>
      ("ok", Json.bool true) :: leaseFields lease none none [] ++ [("committed", .bool true)]
    | .failed error =>
      [("ok", Json.bool false), ("committed", .bool false), ("error", .text error.message)]
  .object (("request", .number index) :: fields)

/-- A report. -/
def Report.json (report : Report) : Json :=
  .object ([("generation", .number report.generation),
    ("outcomes", .list (report.outcomes.mapIdx Outcome.json)),
    ("leases", .list (report.leases.map fun lease => .text lease.text))] ++
    Json.present "reclaimed" .number report.reclaimed)

end Leasehold.Simulation
