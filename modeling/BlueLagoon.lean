import BlueLagoon.Interleaving.Program
import BlueLagoon.Interleaving.Semantics
import BlueLagoon.Interleaving.RelyGuarantee
import BlueLagoon.Interleaving.Monitor
import BlueLagoon.Text
import BlueLagoon.Table
import BlueLagoon.Contracts
import BlueLagoon.Config
import BlueLagoon.Schema
import BlueLagoon.Harness
import BlueLagoon.Execution
import BlueLagoon.Workspace
import BlueLagoon.ConversationBindings
import BlueLagoon.Foreground
import BlueLagoon.GovernedActions.Records
import BlueLagoon.Recovery.Decision
import BlueLagoon.Recovery.Store
import BlueLagoon.Recovery.LeaseRefresh
import BlueLagoon.Recovery.Triggers
import BlueLagoon.Approval
import BlueLagoon.ApprovalStateMachine
import BlueLagoon.PendingLimit
import BlueLagoon.Recovery.GovernedAction
import BlueLagoon.Recovery.Supervision
import BlueLagoon.Recovery.ExpiredLeases
import BlueLagoon.GovernedActions.Fingerprint
import BlueLagoon.GovernedActions.Validation
import BlueLagoon.GovernedActions.FingerprintSoundness
import BlueLagoon.GovernedActions.Execution
import BlueLagoon.Orchestration
import BlueLagoon.GovernedActions.Effects
import BlueLagoon.GovernedActions.ScriptBinding
import BlueLagoon.ActionCap
import BlueLagoon.Background
import BlueLagoon.Recovery.BackgroundRestart
import BlueLagoon.Intake
import BlueLagoon.ScheduledForeground
import BlueLagoon.TelegramForeground
import BlueLagoon.ApprovalReplies
import BlueLagoon.Rescheduling
import BlueLagoon.Recovery.ScheduledRecovery
import BlueLagoon.Canonical.Validation
import BlueLagoon.Canonical.Continuity
import BlueLagoon.Interleaving.Undisturbed
import BlueLagoon.Memory
import BlueLagoon.Succession
import BlueLagoon.MemoryStore
import BlueLagoon.SelfModel
import BlueLagoon.SelfModelChain
import BlueLagoon.Identity.Store
import BlueLagoon.Identity.Deltas
import BlueLagoon.Identity.Merge
import BlueLagoon.Identity.Writes
import BlueLagoon.Identity.ProtectedCore
import BlueLagoon.Identity.UniqueKeys
import BlueLagoon.Identity.Lifecycle
import BlueLagoon.Canonical.Application
import BlueLagoon.Canonical.Decisions
import BlueLagoon.Identity.Constraints
import BlueLagoon.Canonical.SchemaSafety
import BlueLagoon.Management.Diagnosis
import BlueLagoon.Management.Consistency
import BlueLagoon.Management.RetryAdvice
import BlueLagoon.Search
import BlueLagoon.Worker.ControlBlocks
import BlueLagoon.Worker.ControlBlockSoundness
import BlueLagoon.Identity.Snapshot
import BlueLagoon.Ranking
import BlueLagoon.Identity.Boundaries
import BlueLagoon.Migrations.Apply
import BlueLagoon.Migrations.Convergence
import BlueLagoon.Worker.Unconscious
import BlueLagoon.Identity.Taint
import BlueLagoon.Identity.Reflection
import BlueLagoon.ScheduleRange
import BlueLagoon.TelegramIngress
import BlueLagoon.TriggerKinds
import BlueLagoon.TurnObservations
import BlueLagoon.Worker.ModelGateway
import BlueLagoon.Worker.Protocol
import BlueLagoon.Worker.ProtocolIntegrity
import BlueLagoon.Retrieval
import BlueLagoon.RetrievalUpdates
import BlueLagoon.Runtime
import BlueLagoon.InterruptedReplay
import BlueLagoon.ForegroundEffects
import BlueLagoon.IntakeEffects
import BlueLagoon.StrandedExecutions
import BlueLagoon.Interleaving.OffsetLog
import BlueLagoon.TelegramService
import BlueLagoon.Codec
import BlueLagoon.GovernedActions.BoundaryCoverage
import BlueLagoon.GovernedActions.RowEncoding
import BlueLagoon.GovernedActions.StoredFingerprint
import BlueLagoon.FetchedContent
import BlueLagoon.FetchedContent.Blocks
import BlueLagoon.FetchedContent.Elements
import BlueLagoon.FetchedContent.Fragments
import BlueLagoon.FetchedContent.Previews
import BlueLagoon.CapturedOutput
import BlueLagoon.KeyedList
import BlueLagoon.Management.TraceGraph
import BlueLagoon.BackgroundPlanning
import BlueLagoon.ConcurrentPlanning
import BlueLagoon.BackgroundExecution
import BlueLagoon.Recovery.BackgroundTimeouts
import BlueLagoon.Migrations.Metadata
import BlueLagoon.Identity.NearDuplicates
import BlueLagoon.GovernedActions.WorkspaceListings
import BlueLagoon.SemanticDocuments
import BlueLagoon.SelfModelObservations
import BlueLagoon.Markup
import BlueLagoon.TelegramRendering
import BlueLagoon.ToolExecution
import BlueLagoon.ForegroundResumption
import BlueLagoon.RetrievedContext
import BlueLagoon.ConversationIsolation
import BlueLagoon.ScriptVersions
import BlueLagoon.ApprovalGate.Aside
import BlueLagoon.Interleaving.Gate
import BlueLagoon.ApprovalGate.Protocol
import BlueLagoon.ApprovalGate.Execution
import BlueLagoon.ApprovalGate.Turns
import BlueLagoon.ApprovalGate.Resolution
import BlueLagoon.ApprovalGate.Conversations
import BlueLagoon.ApprovalGate.Soundness
import BlueLagoon.Interleaving.Extension
import BlueLagoon.SlidingWindow
import BlueLagoon.WakeSignals
import BlueLagoon.GrowingTable
import BlueLagoon.WakeSignals.Protocol
import BlueLagoon.WakeSignals.Review
import BlueLagoon.WakeSignals.Soundness
import BlueLagoon.BackgroundRuns
import BlueLagoon.BackgroundRuns.Aside
import BlueLagoon.BackgroundRuns.Leases
import BlueLagoon.BackgroundRuns.Executors
import BlueLagoon.BackgroundRuns.Soundness
import BlueLagoon.Recovery.LeaseRecovery
