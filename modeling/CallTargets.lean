import CallTargets.Event.Report
import CallTargets.HintCheck
import CallTargets.Hierarchy.Snapshot
import CallTargets.Session
import CallTargets.Proofs.Hierarchy.Lookup
import CallTargets.Proofs.Hierarchy.Search
import CallTargets.Proofs.Hierarchy.Subtypes
import CallTargets.Proofs.Text.ByteOrder
import CallTargets.Proofs.Dispatch.Collect
import CallTargets.Proofs.Dispatch.Targets
import CallTargets.Proofs.Dispatch.Defaults
import CallTargets.Proofs.Dispatch.Limits
import CallTargets.Proofs.Dispatch.StaticCalls
import CallTargets.Proofs.Dispatch.ConcreteTargets
import CallTargets.Proofs.Merge.MoreDerived
import CallTargets.Proofs.Merge.Grouping
import CallTargets.Proofs.Types.Grammar
import CallTargets.Proofs.Types.RoundTrip
import CallTargets.Proofs.Merge.MissingSuperclass
import CallTargets.Proofs.Telemetry.Counting
import CallTargets.Proofs.Telemetry.Runs
import CallTargets.Proofs.Hierarchy.Agreement
import CallTargets.Proofs.Dispatch.Monotone
import CallTargets.Proofs.Json.ReadBack
import CallTargets.Proofs.Json.Depth
import CallTargets.Proofs.Json.Forms
import CallTargets.Proofs.Json.Spellings
import CallTargets.Proofs.Hierarchy.Construction
import CallTargets.Proofs.Hierarchy.Reload
import CallTargets.Proofs.Hierarchy.DepthFirst
import CallTargets.Proofs.Dispatch.DefaultSearch
import CallTargets.Proofs.Hierarchy.Markers
import CallTargets.Proofs.Types.OuterInstance
import CallTargets.Proofs.Dispatch.Matching
import CallTargets.Proofs.Merge.Leniency
import CallTargets.Proofs.Telemetry.Buckets
import CallTargets.Proofs.Telemetry.Samples
import CallTargets.Proofs.Telemetry.Histories
import CallTargets.Proofs.Telemetry.Percentiles
import CallTargets.Proofs.Dispatch.ObjectMethods
import CallTargets.Proofs.Merge.HintReports
import CallTargets.Proofs.Settings.FilterGrammar
import CallTargets.Proofs.Types.Gaps
import CallTargets.Proofs.Settings.FilterInForce
import CallTargets.Proofs.Settings.UnknownKeys
import CallTargets.Proofs.Hierarchy.Edges
import CallTargets.Proofs.Types.Offsets
