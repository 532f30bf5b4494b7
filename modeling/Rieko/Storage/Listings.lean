import Rieko.Storage.LatestFindings
import Rieko.Storage.Snapshots

/-! The listings of the storage over records, beside those of the latest findings. -/

namespace Rieko

open Ranking

def Tables.resolveForFinding (findingId : String) (now : DateTime) (tables : Tables) : Tables :=
  { tables with
    recommendations := Rows.updateWhere (fun row => row.findingId = findingId)
      (fun row => { row with lifecycle := some "resolved", action.updatedAt := now }) tables.recommendations }

namespace SqliteStorage

open SqlConnection

def findingsForChannel (channelId : String) (limit : Nat) : SqliteM (List Finding) :=
  selectLatest (fun finding => finding.channel = some channelId) limit

def findingsForChannelByLifecycle (channelId : String) (limit : Nat) : FindingLifecycleFilter → SqliteM (List Finding)
  | .active => selectLatest (fun finding => finding.channel = some channelId ∧ finding.lifecycle = .active) limit
  | .resolved => selectLatest (fun finding => finding.channel = some channelId ∧ finding.lifecycle = .resolved) limit
  | .all => findingsForChannel channelId limit

def latestRecommendations (limit : Nat) : SqliteM (List Recommendation) :=
  sql .backend (query fun tables => (latestFirst (·.action.createdAt) tables.recommendations).take limit)

def latestActiveRecommendations (limit : Nat) : SqliteM (List Recommendation) :=
  sql .backend (query fun tables =>
    (latestFirst (·.action.createdAt) (tables.recommendations.filter fun row =>
      row.lifecycle = none ∨ row.lifecycle = some "active")).take limit)

def resolveRecommendationsForFinding (findingId : String) (now : DateTime) : SqliteM Unit :=
  sql .backend (execute (Tables.resolveForFinding findingId now))

def recentAudit (limit : Nat) : SqliteM (List AuditEntry) :=
  sql .backend (query fun tables => (latestFirst (·.timestamp) tables.audit).take limit)

def recentChannelSnapshots (channelId : String) (limit : Nat) : SqliteM (List ChannelSnapshot) :=
  sql .backend (query fun tables =>
    (latestFirst (·.ts) (tables.channelSnapshots.filter fun row => row.channelId = channelId)).take limit)

def recentChannelSnapshotsForNode (nodeId channelId : String) (limit : Nat) : SqliteM (List ChannelSnapshot) :=
  sql .backend (query fun tables =>
    (latestFirst (·.ts) (tables.channelSnapshots.filter fun row =>
      row.nodeId = some nodeId ∧ row.channelId = channelId)).take limit)

end SqliteStorage

end Rieko
