import PolicyTopology.Document.Json
import PolicyTopology.Log.Console
import PolicyTopology.Snapshot
import PolicyTopology.Proofs.Precedence
import PolicyTopology.Proofs.Document.Reading
import PolicyTopology.Proofs.Policy.ByKind
import PolicyTopology.Proofs.Policy.Carried
import PolicyTopology.Proofs.Topology.FailureClosure
import PolicyTopology.Proofs.Topology.Override
import PolicyTopology.Proofs.Deciding
import PolicyTopology.Proofs.Document.Agreement
import PolicyTopology.Proofs.Policy.Group
import PolicyTopology.Proofs.Topology.Conflict
import PolicyTopology.Proofs.Document.Layering
import PolicyTopology.Proofs.Policy.Layer
import PolicyTopology.Proofs.Policy.Disorder
import PolicyTopology.Proofs.Policy.Peers
import PolicyTopology.Proofs.Topology.Origin
import PolicyTopology.Proofs.Topology.RouteOrder
import PolicyTopology.Proofs.Topology.Modes
import PolicyTopology.Proofs.Topology.BothEnds
import PolicyTopology.Proofs.Topology.FirstResource
import PolicyTopology.Proofs.Topology.DiscoveryOrder
import PolicyTopology.Proofs.Tabulation
import PolicyTopology.Proofs.Policy.OneKind
import PolicyTopology.Proofs.Topology.Interrupted
import PolicyTopology.Proofs.Topology.KindByKind
import PolicyTopology.Proofs.Topology.HeldByKind
import PolicyTopology.Proofs.Topology.Reads
import PolicyTopology.Proofs.Topology.Cone
import PolicyTopology.Proofs.Topology.Partition
import PolicyTopology.Proofs.Policy.Legible
import PolicyTopology.Proofs.Topology.Held
import PolicyTopology.Proofs.Topology.Legible
import PolicyTopology.Proofs.Topology.Containment
import PolicyTopology.Proofs.Topology.Attached
import PolicyTopology.Proofs.Topology.Ancestry
import PolicyTopology.Proofs.Topology.Rerun
import PolicyTopology.Proofs.Document.Union
import PolicyTopology.Proofs.Policy.United
import PolicyTopology.Proofs.Topology.DirectUnion
import PolicyTopology.Proofs.Topology.History
import PolicyTopology.Proofs.Topology.Fixpoint
import PolicyTopology.Proofs.Policy.Outline
import PolicyTopology.Proofs.Topology.Descent
import PolicyTopology.Proofs.Topology.Account
import PolicyTopology.Proofs.Document.Join
import PolicyTopology.Proofs.Policy.DirectMerge
import PolicyTopology.Proofs.Policy.Level
import PolicyTopology.Proofs.Topology.KindsReached
import PolicyTopology.Proofs.Topology.Journal
import PolicyTopology.Proofs.Topology.Counters
import PolicyTopology.Proofs.Topology.Atomicity
import PolicyTopology.Proofs.Document.Shedding
import PolicyTopology.Proofs.Resource.NullFields
import PolicyTopology.Proofs.Policy.Calls
import PolicyTopology.Proofs.Topology.BackendCalls
import PolicyTopology.Proofs.Document.Matching
import PolicyTopology.Proofs.Alike
import PolicyTopology.Proofs.Policy.Twins
import PolicyTopology.Proofs.Policy.Symmetry
import PolicyTopology.Proofs.Topology.RouteSymmetry
import PolicyTopology.Proofs.Document.Leaves
import PolicyTopology.Proofs.Policy.Relaid
import PolicyTopology.Proofs.Naming
import PolicyTopology.Proofs.Topology.Named
