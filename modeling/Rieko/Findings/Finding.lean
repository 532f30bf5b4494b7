import Rieko.Domain.Channel
import Rieko.Lib.Json

namespace Rieko

inductive ObservationSource where
  | fixture (redactedHash configuredNode : String)
  | lnd (redactedEndpoint configuredNode : String)
  | btcPay (redactedEndpoint configuredStore : String) (underlyingNode : Option String)
deriving DecidableEq, Repr

inductive ProducerRole where
  | ingest | normalizer | detector
deriving DecidableEq, Repr

structure ProducerVersion where
  name : String
  version : String
  role : ProducerRole
deriving DecidableEq, Repr

structure ChannelSnapshotReference where
  network : Option BitcoinNetwork
  observedAt : DateTime
  stateDigest : String
deriving DecidableEq, Repr

inductive ObservationReference where
  | channelState (channelId : String) (snapshot : ChannelSnapshotReference)
  | channelWindow (channelId : String) (snapshots : List ChannelSnapshotReference)
deriving DecidableEq, Repr

def ObservationReference.channelId : ObservationReference → String
  | .channelState channelId _ => channelId
  | .channelWindow channelId _ => channelId

/-- The snapshot that was observed last, of several at one instant the last one. -/
def ObservationReference.newest : ObservationReference → Option ChannelSnapshotReference
  | .channelState _ snapshot => some snapshot
  | .channelWindow _ snapshots => latestBy (·.observedAt) snapshots.reverse

structure FindingProvenance where
  network : Option BitcoinNetwork
  source : ObservationSource
  producers : List ProducerVersion
  observation : ObservationReference
deriving DecidableEq, Repr

structure FindingCycleScope where
  detector : String
  network : Option BitcoinNetwork
  node : Option String
  complete : Bool
deriving DecidableEq, Repr

inductive Severity where
  | info | warning | critical
deriving DecidableEq, Repr

def Severity.rank : Severity → Nat
  | .info => 0
  | .warning => 1
  | .critical => 2

structure Evidence where
  key : String
  value : Json
deriving BEq

namespace Evidence

def string (key value : String) : Evidence := ⟨key, .string value⟩

def number (key : String) (value : Binary64) : Evidence := ⟨key, .ofF64 value⟩

def text (key value : String) : Evidence := string key value

end Evidence

inductive FindingLifecycle where
  | active | resolved
deriving DecidableEq, Repr

inductive FindingLifecycleFilter where
  | active | resolved | all
deriving DecidableEq, Repr

def findingSchemaVersion : Nat := 2

structure Finding where
  id : String
  detector : String
  detectorVersion : String
  schemaVersion : Nat
  severity : Severity
  node : Option String
  channel : Option String
  evidence : List Evidence
  provenance : Option FindingProvenance
  explanation : Option String
  timestamp : DateTime
  firstSeenAt : DateTime
  lastSeenAt : DateTime
  lifecycle : FindingLifecycle

namespace Finding

def evidenceValue (finding : Finding) (key : String) : Option Json :=
  (finding.evidence.find? (·.key = key)).map (·.value)

def bare (id detector : String) (seenAt : DateTime) : Finding where
  id
  detector
  detectorVersion := "1"
  schemaVersion := findingSchemaVersion
  severity := .warning
  node := none
  channel := none
  evidence := []
  provenance := none
  explanation := none
  timestamp := seenAt
  firstSeenAt := seenAt
  lastSeenAt := seenAt
  lifecycle := .active

def network (finding : Finding) : Option BitcoinNetwork := finding.provenance.bind (·.network)

end Finding

namespace FindingCycleScope

def covers (scope : FindingCycleScope) (finding : Finding) : Bool :=
  finding.detector = scope.detector ∧ finding.network = scope.network ∧ finding.node = scope.node

end FindingCycleScope

end Rieko
