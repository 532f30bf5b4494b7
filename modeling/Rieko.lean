import Rieko.Alerts.DedupKey
import Rieko.Alerts.InMemory
import Rieko.Alerts.Telegram
import Rieko.Alerts.TelegramRetry
import Rieko.Api.Access
import Rieko.Api.Outsiders
import Rieko.Api.Routes
import Rieko.Api.ServerRuns
import Rieko.Api.SimulationRate
import Rieko.Api.SimulationReads
import Rieko.Api.Simulations
import Rieko.Cli.Actions
import Rieko.Cli.AuditTrail
import Rieko.Cli.Completeness
import Rieko.Cli.Durations
import Rieko.Cli.Health
import Rieko.Cli.HiddenActions
import Rieko.Cli.IngestRetry
import Rieko.Cli.Ladders
import Rieko.Cli.ModelIndependence
import Rieko.Cli.Polling
import Rieko.Cli.Provenance
import Rieko.Cli.RecommendationLifecycle
import Rieko.Cli.RootCause
import Rieko.Cli.Watch
import Rieko.Cli.WebhookWindow
import Rieko.Detectors.Resolution
import Rieko.Detectors.SettlementInvoices
import Rieko.Findings.CanonicalEvidence
import Rieko.Findings.Identity
import Rieko.Findings.StateDigest
import Rieko.Graph.Adjacency
import Rieko.Graph.CheapestPath
import Rieko.Graph.HistoryWindow
import Rieko.IngestBtcpay.Amounts
import Rieko.IngestBtcpay.Signature
import Rieko.IngestLnd.Amounts
import Rieko.IngestLnd.Flags
import Rieko.Recommendations.Acceptance
import Rieko.Recommendations.Review
import Rieko.Simulation.Panics
import Rieko.Simulation.Replay
import Rieko.Simulation.Routes
import Rieko.Storage.FindingHysteresis
import Rieko.Storage.FindingRefinement
import Rieko.Storage.HiddenCounts
import Rieko.Storage.LatestFindings
import Rieko.Storage.MergedFindings
import Rieko.Storage.Migrations
import Rieko.Storage.RecentSnapshots
import Rieko.Storage.RepeatedWrites
import Rieko.Storage.Rollback
import Rieko.Storage.TextFindings
import Rieko.Storage.TextListings
import Rieko.Storage.TextRefinement
import Rieko.Storage.TextTimes
import Rieko.Storage.TextWrites
import Rieko.Storage.Upgrades
