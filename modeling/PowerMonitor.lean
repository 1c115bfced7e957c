import PowerMonitor.Access.Recovery
import PowerMonitor.Alerts.Chains
import PowerMonitor.Alerts.Hysteresis
import PowerMonitor.Assignments.CostRuns
import PowerMonitor.Assignments.Readers
import PowerMonitor.Assignments.Retries
import PowerMonitor.Bills.Isolation
import PowerMonitor.Cycles.CumulativeContext
import PowerMonitor.Cycles.Reversal
import PowerMonitor.Cycles.TierSummaries
import PowerMonitor.DataReset.Boundary
import PowerMonitor.DataReset.Commands
import PowerMonitor.DataReset.Deferral
import PowerMonitor.DataReset.LateSensors
import PowerMonitor.Firmware.Exclusivity
import PowerMonitor.Firmware.HeadlessStability
import PowerMonitor.Firmware.Images
import PowerMonitor.Firmware.Stability
import PowerMonitor.History.Agreement
import PowerMonitor.History.Buckets
import PowerMonitor.History.CombinedBuckets
import PowerMonitor.History.CoverageShares
import PowerMonitor.History.Overlaps
import PowerMonitor.History.TierLookup
import PowerMonitor.History.Topology
import PowerMonitor.Ingestion.Acknowledgement
import PowerMonitor.Ingestion.Confluence
import PowerMonitor.Ingestion.EventSafety
import PowerMonitor.Ingestion.Rollups
import PowerMonitor.Ingestion.Silence
import PowerMonitor.Library.SlidingWindow
import PowerMonitor.Library.Unions
import PowerMonitor.Lifecycle.Review
import PowerMonitor.Network.Agreement
import PowerMonitor.Pricing.Preservation
import PowerMonitor.Rates.Acceptance
import PowerMonitor.Rates.AccountAdjustments
import PowerMonitor.Rates.BillingCycles
import PowerMonitor.Rates.Conservation
import PowerMonitor.Rates.CostRows
import PowerMonitor.Rates.CycleReport
import PowerMonitor.Rates.Disclosure
import PowerMonitor.Rates.FailedRuns
import PowerMonitor.Rates.Percentages
import PowerMonitor.Rates.ReadingOrder
import PowerMonitor.Rates.Recalculation
import PowerMonitor.Rates.SliceTimes
import PowerMonitor.Rates.StartedCycles
import PowerMonitor.Security.AgentProtocol
import PowerMonitor.Security.Canonical
import PowerMonitor.Security.Protocol
import PowerMonitor.Security.SignIn
import PowerMonitor.Sites.Lifecycle
import PowerMonitor.Sites.Transfers
import PowerMonitor.Sources.Changes
import PowerMonitor.Sources.WeeklySchedule
