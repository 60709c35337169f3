import Leasehold.Main
import Leasehold.Proofs.Classes.Dependencies
import Leasehold.Proofs.Classes.Meaning
import Leasehold.Proofs.Config.RoundTrip
import Leasehold.Proofs.DependencyOrder.LeastOrder
import Leasehold.Proofs.Engine.Deletions
import Leasehold.Proofs.Engine.Fencing
import Leasehold.Proofs.Engine.FixedAddress
import Leasehold.Proofs.Engine.Gauge
import Leasehold.Proofs.Engine.GivingBack
import Leasehold.Proofs.Engine.Guards
import Leasehold.Proofs.Engine.HoldTime
import Leasehold.Proofs.Engine.Identification
import Leasehold.Proofs.Engine.Isolation
import Leasehold.Proofs.Engine.Precedence
import Leasehold.Proofs.Engine.Priority
import Leasehold.Proofs.Engine.Race
import Leasehold.Proofs.Engine.Renewal
import Leasehold.Proofs.Engine.Replacing
import Leasehold.Proofs.Engine.Requesting
import Leasehold.Proofs.Engine.Retrying
import Leasehold.Proofs.Engine.Selecting
import Leasehold.Proofs.Engine.Setback
import Leasehold.Proofs.Engine.Shape
import Leasehold.Proofs.Engine.SweepAmong
import Leasehold.Proofs.Engine.SweepFirst
import Leasehold.Proofs.Expr.Spelling
import Leasehold.Proofs.Text.Identifiers
import Leasehold.Proofs.Topology.Agreement
import Leasehold.Proofs.Topology.Cursors
import Leasehold.Proofs.Topology.Delegations
import Leasehold.Proofs.Topology.Indexing
import Leasehold.Proofs.Topology.Lifetimes
import Leasehold.Proofs.Topology.PlainList
import Leasehold.Proofs.Topology.Walks
import Leasehold.Scenario.Run
