import BlueLagoon.Canonical.Tables
import BlueLagoon.Config
import BlueLagoon.Table

/-!
# Tables

The rows of the tables the modelled functions read and write, with the constraints
the migrations put on them. A constraint is named the way the database names it in
the error of a statement that breaks it.
-/

namespace BlueLagoon

structure ExecutionRecord where
  executionId : Uuid
  traceId : Uuid
  triggerKind : String
  syntheticTrigger : Option String := none
  status : String
  workerKind : Option String := none
  workerPid : Option Int := none
  requestPayload : Json := .obj []
  responsePayload : Option Json := none
  createdAt : DateTime := 0
  updatedAt : DateTime := 0
  completedAt : Option DateTime := none

structure AuditEvent where
  eventId : Uuid
  occurredAt : DateTime
  loopKind : String
  subsystem : String
  eventKind : String
  severity : String
  traceId : Uuid
  executionId : Option Uuid
  payload : Json

structure CausalLinkRecord where
  causalLinkId : Uuid
  traceId : Uuid
  sourceKind : String
  sourceId : Uuid
  targetKind : String
  targetId : Uuid
  edgeKind : String
  payload : Json

structure ConversationBindingRecord where
  conversationBindingId : Uuid
  channelKind : ChannelKind
  externalUserId : String
  externalConversationId : String
  internalPrincipalRef : String
  internalConversationRef : String
  deriving DecidableEq, Repr

structure IngressEventRecord where
  ingressId : Uuid
  conversationBindingId : Option Uuid
  traceId : Uuid
  executionId : Option Uuid
  occurredAt : DateTime
  receivedAt : DateTime
  channelKind : ChannelKind
  externalUserId : String
  externalConversationId : String
  internalPrincipalRef : Option String
  internalConversationRef : Option String
  eventKind : IngressEventKind
  externalEventId : String
  externalMessageId : Option String
  status : String
  foregroundStatus : String
  lastProcessedAt : Option DateTime
  rejectionReason : Option String
  textBody : Option String
  commandName : Option String
  commandArgs : List String
  approvalToken : Option String
  approvalCallbackData : Option String
  rawPayloadRef : Option String
  deriving DecidableEq, Repr

structure ExecutionIngressLinkRecord where
  executionIngressLinkId : Uuid
  executionId : Uuid
  ingressId : Uuid
  linkRole : String
  sequenceIndex : Nat
  createdAt : DateTime
  deriving DecidableEq, Repr

structure ApprovalRequestRecord where
  approvalRequestId : Uuid
  traceId : Uuid
  executionId : Option Uuid
  actionProposalId : Uuid
  actionFingerprint : GovernedActionFingerprint
  actionKind : GovernedActionKind
  riskTier : GovernedActionRiskTier
  title : String
  consequenceSummary : String
  capabilityScope : CapabilityScope
  status : ApprovalRequestStatus
  requestedBy : String
  token : String
  requestedAt : DateTime
  expiresAt : DateTime
  resolvedAt : Option DateTime := none
  resolutionKind : Option ApprovalResolutionDecision := none
  resolvedBy : Option String := none
  resolutionReason : Option String := none
  createdAt : DateTime := 0
  updatedAt : DateTime := 0
  deriving DecidableEq, Repr

structure GovernedActionExecutionRecord where
  governedActionExecutionId : Uuid
  traceId : Uuid
  executionId : Option Uuid := none
  approvalRequestId : Option Uuid := none
  actionProposalId : Uuid
  actionFingerprint : GovernedActionFingerprint
  actionKind : GovernedActionKind
  riskTier : GovernedActionRiskTier
  status : GovernedActionStatus
  capabilityScope : CapabilityScope
  payload : GovernedActionPayload
  workspaceScriptId : Option Uuid := none
  workspaceScriptVersionId : Option Uuid := none
  blockedReason : Option String := none
  outputRef : Option String := none
  startedAt : Option DateTime := none
  completedAt : Option DateTime := none
  createdAt : DateTime := 0
  updatedAt : DateTime := 0
  deriving DecidableEq, Repr

structure WorkspaceScriptRecord where
  workspaceScriptId : Uuid
  workspaceArtifactId : Uuid
  language : String
  entrypoint : Option String
  latestVersion : Nat
  createdAt : DateTime := 0
  updatedAt : DateTime := 0
  deriving DecidableEq, Repr

structure WorkspaceScriptVersionRecord where
  workspaceScriptVersionId : Uuid
  workspaceScriptId : Uuid
  version : Nat
  contentText : String
  contentSha256 : String
  changeSummary : Option String
  createdAt : DateTime := 0
  deriving DecidableEq, Repr

structure WorkspaceScriptRunRecord where
  workspaceScriptRunId : Uuid
  workspaceScriptId : Uuid
  workspaceScriptVersionId : Uuid
  traceId : Uuid
  executionId : Option Uuid
  governedActionExecutionId : Option Uuid
  approvalRequestId : Option Uuid
  status : WorkspaceScriptRunStatus
  riskTier : GovernedActionRiskTier
  args : List String
  outputRef : Option String
  failureSummary : Option String
  startedAt : Option DateTime
  completedAt : Option DateTime
  createdAt : DateTime := 0
  updatedAt : DateTime := 0
  deriving DecidableEq, Repr

inductive WorkerLeaseKind
  | foreground
  | background
  | governedAction
  deriving DecidableEq, Repr

/-- `WorkerLeaseKind::as_str`. -/
def WorkerLeaseKind.asStr : WorkerLeaseKind → String
  | foreground => "foreground"
  | background => "background"
  | governedAction => "governed_action"

inductive WorkerLeaseStatus
  | active
  | released
  | expired
  | terminated
  deriving DecidableEq, Repr

/-- `WorkerLeaseStatus::as_str`. -/
def WorkerLeaseStatus.asStr : WorkerLeaseStatus → String
  | active => "active"
  | released => "released"
  | expired => "expired"
  | terminated => "terminated"

structure WorkerLeaseRecord where
  workerLeaseId : Uuid
  traceId : Uuid
  executionId : Option Uuid := none
  backgroundJobId : Option Uuid := none
  backgroundJobRunId : Option Uuid := none
  governedActionExecutionId : Option Uuid := none
  workerKind : WorkerLeaseKind
  status : WorkerLeaseStatus
  leaseToken : Uuid
  workerPid : Option Int := none
  leaseAcquiredAt : DateTime
  leaseExpiresAt : DateTime
  lastHeartbeatAt : DateTime
  releasedAt : Option DateTime := none
  metadata : Json := .obj []
  createdAt : DateTime := 0
  updatedAt : DateTime := 0

inductive RecoveryCheckpointKind
  | foreground
  | background
  | governedAction
  deriving DecidableEq, Repr

inductive RecoveryReasonCode
  | crash
  | timeoutOrStall
  | supervisorRestart
  | approvalTransition
  | integrityOrPolicyBlock
  deriving DecidableEq, Repr

/-- `RecoveryReasonCode::as_str`. -/
def RecoveryReasonCode.asStr : RecoveryReasonCode → String
  | crash => "crash"
  | timeoutOrStall => "timeout_or_stall"
  | supervisorRestart => "supervisor_restart"
  | approvalTransition => "approval_transition"
  | integrityOrPolicyBlock => "integrity_or_policy_block"

inductive RecoveryCheckpointStatus
  | open_
  | resolved
  | abandoned
  | invalidated
  deriving DecidableEq, Repr

inductive RecoveryDecision
  | continue_
  | retry
  | defer
  | reapprove
  | clarify
  | abandon
  deriving DecidableEq, Repr

/-- `RecoveryDecision::as_str`. -/
def RecoveryDecision.asStr : RecoveryDecision → String
  | continue_ => "continue"
  | retry => "retry"
  | defer => "defer"
  | reapprove => "reapprove"
  | clarify => "clarify"
  | abandon => "abandon"

structure RecoveryCheckpointRecord where
  recoveryCheckpointId : Uuid
  traceId : Uuid
  executionId : Option Uuid
  backgroundJobId : Option Uuid
  backgroundJobRunId : Option Uuid
  governedActionExecutionId : Option Uuid
  approvalRequestId : Option Uuid
  checkpointKind : RecoveryCheckpointKind
  recoveryReasonCode : RecoveryReasonCode
  status : RecoveryCheckpointStatus
  recoveryDecision : Option RecoveryDecision
  recoveryBudgetRemaining : Int
  checkpointPayload : Json
  resolvedSummary : Option String
  createdAt : DateTime
  updatedAt : DateTime
  resolvedAt : Option DateTime

inductive OperationalDiagnosticSeverity
  | info
  | warn
  | error
  | critical
  deriving DecidableEq, Repr

structure OperationalDiagnosticRecord where
  operationalDiagnosticId : Uuid
  traceId : Option Uuid
  executionId : Option Uuid
  subsystem : String
  severity : OperationalDiagnosticSeverity
  reasonCode : String
  summary : String
  diagnosticPayload : Json
  createdAt : DateTime

inductive BackgroundJobStatus
  | planned
  | leased
  | running
  | completed
  | failed
  | suppressed
  | cancelled
  deriving DecidableEq, Repr

/-- The derived `Debug` name, in lower case. -/
def BackgroundJobStatus.debug : BackgroundJobStatus → String
  | planned => "planned"
  | leased => "leased"
  | running => "running"
  | completed => "completed"
  | failed => "failed"
  | suppressed => "suppressed"
  | cancelled => "cancelled"

inductive BackgroundJobRunStatus
  | leased
  | running
  | completed
  | failed
  | timedOut
  deriving DecidableEq, Repr

/-- The derived `Debug` name, in lower case. -/
def BackgroundJobRunStatus.debug : BackgroundJobRunStatus → String
  | leased => "leased"
  | running => "running"
  | completed => "completed"
  | failed => "failed"
  | timedOut => "timedout"

structure BackgroundJobRecord where
  backgroundJobId : Uuid
  traceId : Uuid
  jobKind : UnconsciousJobKind := .memoryConsolidation
  triggerId : Uuid := 0
  deduplicationKey : String
  status : BackgroundJobStatus
  availableAt : DateTime := 0
  leaseExpiresAt : Option DateTime := none
  lastStartedAt : Option DateTime := none
  lastCompletedAt : Option DateTime := none
  createdAt : DateTime := 0
  updatedAt : DateTime := 0
  deriving DecidableEq, Repr

structure BackgroundJobRunRecord where
  backgroundJobRunId : Uuid
  backgroundJobId : Uuid
  traceId : Uuid
  executionId : Option Uuid := none
  leaseToken : Uuid
  status : BackgroundJobRunStatus
  workerPid : Option Int := none
  leaseAcquiredAt : DateTime
  leaseExpiresAt : DateTime
  startedAt : Option DateTime := none
  completedAt : Option DateTime := none
  resultPayload : Option Json := none
  failurePayload : Option Json := none
  createdAt : DateTime := 0
  updatedAt : DateTime := 0

structure EpisodeRecord where
  episodeId : Uuid
  traceId : Uuid
  executionId : Uuid
  ingressId : Option Uuid
  internalPrincipalRef : String
  internalConversationRef : String
  triggerKind : String
  triggerSource : String
  status : String
  startedAt : DateTime
  completedAt : Option DateTime := none
  outcome : Option String := none
  summary : Option String := none
  deriving DecidableEq, Repr

structure EpisodeMessageRecord where
  episodeMessageId : Uuid
  episodeId : Uuid
  traceId : Uuid
  executionId : Uuid
  messageOrder : Nat
  messageRole : String
  channelKind : ChannelKind
  textBody : Option String
  externalMessageId : Option String
  deriving DecidableEq, Repr

inductive ScheduledForegroundTaskStatus
  | active
  | paused
  | disabled
  deriving DecidableEq, Repr

inductive ScheduledForegroundLastOutcome
  | completed
  | suppressed
  | failed
  deriving DecidableEq, Repr

structure ScheduledForegroundTaskRecord where
  scheduledForegroundTaskId : Uuid
  taskKey : String
  channelKind : ChannelKind := .telegram
  status : ScheduledForegroundTaskStatus
  internalPrincipalRef : String
  internalConversationRef : String
  messageText : String
  cadenceSeconds : Nat
  cooldownSeconds : Nat
  nextDueAt : DateTime
  currentExecutionId : Option Uuid := none
  currentRunStartedAt : Option DateTime := none
  lastExecutionId : Option Uuid := none
  lastRunStartedAt : Option DateTime := none
  lastRunCompletedAt : Option DateTime := none
  lastOutcome : Option ScheduledForegroundLastOutcome := none
  lastOutcomeReason : Option String := none
  lastOutcomeSummary : Option String := none
  createdBy : String
  updatedBy : String
  createdAt : DateTime := 0
  updatedAt : DateTime := 0
  deriving DecidableEq, Repr

/-- The columns of a task that say when it runs next, and whether it does. -/
structure TaskSchedule where
  status : ScheduledForegroundTaskStatus
  cadenceSeconds : Nat
  cooldownSeconds : Nat
  nextDueAt : DateTime
  deriving DecidableEq, Repr

def ScheduledForegroundTaskRecord.schedule (task : ScheduledForegroundTaskRecord) :
    TaskSchedule where
  status := task.status
  cadenceSeconds := task.cadenceSeconds
  cooldownSeconds := task.cooldownSeconds
  nextDueAt := task.nextDueAt

/-- The status of a retrieval artifact. -/
inductive RetrievalArtifactStatus
  | active
  | archived
  deriving DecidableEq, Repr

structure RetrievalArtifactRecord where
  retrievalArtifactId : Uuid
  sourceKind : String
  sourceEpisodeId : Option Uuid
  sourceMemoryArtifactId : Option Uuid
  internalConversationRef : Option String
  lexicalDocument : String
  relevanceTimestamp : DateTime
  status : RetrievalArtifactStatus
  /-- `payload_json ->> 'source_ref'`. -/
  sourceRef : Option String := none
  /-- `payload_json ->> 'semantic_document'`. -/
  semanticDocument : Option String := none
  deriving DecidableEq, Repr

/-- The database. -/
structure Database where
  executionRecords : List ExecutionRecord := []
  auditEvents : List AuditEvent := []
  causalLinks : List CausalLinkRecord := []
  conversationBindings : List ConversationBindingRecord := []
  ingressEvents : List IngressEventRecord := []
  executionIngressLinks : List ExecutionIngressLinkRecord := []
  approvalRequests : List ApprovalRequestRecord := []
  governedActionExecutions : List GovernedActionExecutionRecord := []
  workspaceScripts : List WorkspaceScriptRecord := []
  workspaceScriptVersions : List WorkspaceScriptVersionRecord := []
  workspaceScriptRuns : List WorkspaceScriptRunRecord := []
  workerLeases : List WorkerLeaseRecord := []
  recoveryCheckpoints : List RecoveryCheckpointRecord := []
  operationalDiagnostics : List OperationalDiagnosticRecord := []
  backgroundJobs : List BackgroundJobRecord := []
  backgroundJobRuns : List BackgroundJobRunRecord := []
  episodes : List EpisodeRecord := []
  episodeMessages : List EpisodeMessageRecord := []
  scheduledForegroundTasks : List ScheduledForegroundTaskRecord := []
  proposals : List ProposalRecord := []
  mergeDecisions : List MergeDecisionRecord := []
  memoryArtifacts : List MemoryArtifactRecord := []
  selfModelArtifacts : List SelfModelArtifactRecord := []
  identityLifecycle : List IdentityLifecycleRecord := []
  identityItems : List IdentityItemRecord := []
  identityKickstartInterviews : List IdentityInterviewRecord := []
  identityDiagnostics : List IdentityDiagnosticRecord := []
  retrievalArtifacts : List RetrievalArtifactRecord := []

namespace Database

variable (db : Database)

/-! ## References between tables -/

/-- A nullable foreign key to `execution_records`. -/
def hasExecution (id : Option Uuid) : Bool :=
  id.all fun id => db.executionRecords.any fun row => row.executionId = id

/-- A nullable foreign key to `conversation_bindings`. -/
def hasConversationBinding (id : Option Uuid) : Bool :=
  id.all fun id => db.conversationBindings.any fun row => row.conversationBindingId = id

/-- A nullable foreign key to `approval_requests`. -/
def hasApprovalRequest (id : Option Uuid) : Bool :=
  id.all fun id => db.approvalRequests.any fun row => row.approvalRequestId = id

/-- A nullable foreign key to `governed_action_executions`. -/
def hasGovernedAction (id : Option Uuid) : Bool :=
  id.all fun id => db.governedActionExecutions.any fun row => row.governedActionExecutionId = id

/-- A nullable foreign key to `workspace_scripts`. -/
def hasWorkspaceScript (id : Option Uuid) : Bool :=
  id.all fun id => db.workspaceScripts.any fun row => row.workspaceScriptId = id

/-- A nullable foreign key to `workspace_script_versions`. -/
def hasWorkspaceScriptVersion (id : Option Uuid) : Bool :=
  id.all fun id => db.workspaceScriptVersions.any fun row => row.workspaceScriptVersionId = id

/-! ## Constraints on new and changed rows

`violation` is the first constraint a row would break, given the other rows of its
table. -/

/-- The first condition of the list that does not hold. -/
def firstBroken (conditions : List (Bool × String)) : Option String :=
  (conditions.find? fun condition => !condition.1).map Prod.snd

theorem firstBroken_eq_none {conditions : List (Bool × String)} :
    firstBroken conditions = none ↔ ∀ condition ∈ conditions, condition.1 = true := by
  simp [firstBroken]

/-- Constraints on an `execution_records` row that is inserted. -/
def executionRecordViolation (row : ExecutionRecord) : Option String :=
  firstBroken
    [(db.executionRecords.all fun other => other.executionId ≠ row.executionId,
      "execution_records_pkey")]

/-- Constraints on a `conversation_bindings` row that is inserted or changed. -/
def conversationBindingViolation (row : ConversationBindingRecord) : Option String :=
  firstBroken
    [(db.conversationBindings.all fun other =>
        other.conversationBindingId = row.conversationBindingId ||
          !(other.channelKind = row.channelKind && other.externalUserId = row.externalUserId &&
            other.externalConversationId = row.externalConversationId),
      "conversation_bindings_channel_kind_external_user_id_external_key"),
     (db.conversationBindings.all fun other =>
        other.conversationBindingId = row.conversationBindingId ||
          other.internalConversationRef ≠ row.internalConversationRef,
      "conversation_bindings_internal_conversation_ref_key")]

/-- Constraints on an `ingress_events` row that is inserted. -/
def ingressEventViolation (row : IngressEventRecord) : Option String :=
  firstBroken
    [(db.ingressEvents.all fun other => other.ingressId ≠ row.ingressId, "ingress_events_pkey"),
     (db.ingressEvents.all fun other =>
        !(other.channelKind = row.channelKind && other.externalEventId = row.externalEventId),
      "ingress_events_channel_kind_external_event_id_key"),
     (db.hasConversationBinding row.conversationBindingId,
      "ingress_events_conversation_binding_id_fkey"),
     (db.hasExecution row.executionId, "ingress_events_execution_id_fkey")]

/-- Constraints on an `execution_ingress_links` row that is inserted. -/
def executionIngressLinkViolation (row : ExecutionIngressLinkRecord) : Option String :=
  firstBroken
    [(db.executionIngressLinks.all fun other =>
        other.executionIngressLinkId ≠ row.executionIngressLinkId,
      "execution_ingress_links_pkey"),
     (db.executionIngressLinks.all fun other =>
        !(other.executionId = row.executionId && other.ingressId = row.ingressId),
      "execution_ingress_links_execution_id_ingress_id_key"),
     (db.executionIngressLinks.all fun other =>
        !(other.executionId = row.executionId && other.sequenceIndex = row.sequenceIndex),
      "execution_ingress_links_execution_id_sequence_index_key"),
     (db.hasExecution (some row.executionId), "execution_ingress_links_execution_id_fkey")]

/-- Constraints on an `episodes` row that is inserted. -/
def episodeViolation (row : EpisodeRecord) : Option String :=
  firstBroken
    [(db.episodes.all fun other => other.episodeId ≠ row.episodeId, "episodes_pkey"),
     (db.episodes.all fun other => other.executionId ≠ row.executionId,
      "episodes_execution_id_key"),
     (db.hasExecution (some row.executionId), "episodes_execution_id_fkey"),
     (row.ingressId.all fun id => db.ingressEvents.any fun event => event.ingressId = id,
      "episodes_ingress_id_fkey")]

/-- Constraints on an `episode_messages` row that is inserted. -/
def episodeMessageViolation (row : EpisodeMessageRecord) : Option String :=
  firstBroken
    [(db.episodeMessages.all fun other => other.episodeMessageId ≠ row.episodeMessageId,
      "episode_messages_pkey"),
     (db.episodeMessages.all fun other =>
        !(other.episodeId = row.episodeId && other.messageOrder = row.messageOrder),
      "episode_messages_episode_id_message_order_key"),
     (db.episodes.any fun episode => episode.episodeId = row.episodeId,
      "episode_messages_episode_id_fkey"),
     (db.hasExecution (some row.executionId), "episode_messages_execution_id_fkey")]

/-- Constraints on a `retrieval_artifacts` row that is inserted. -/
def retrievalArtifactViolation (row : RetrievalArtifactRecord) : Option String :=
  firstBroken
    [(db.retrievalArtifacts.all fun other => other.retrievalArtifactId ≠ row.retrievalArtifactId,
      "retrieval_artifacts_pkey"),
     ((row.sourceEpisodeId.isSome && row.sourceMemoryArtifactId.isNone &&
          row.sourceKind = "episode") ||
        (row.sourceEpisodeId.isNone && row.sourceMemoryArtifactId.isSome &&
          row.sourceKind = "memory_artifact"),
      "retrieval_artifacts_check"),
     (row.sourceEpisodeId.all fun id => db.episodes.any fun episode => episode.episodeId = id,
      "retrieval_artifacts_source_episode_id_fkey"),
     (row.sourceMemoryArtifactId.all fun id =>
        db.memoryArtifacts.any fun artifact => artifact.memoryArtifactId = id,
      "retrieval_artifacts_source_memory_artifact_id_fkey")]

/-- Constraints on an `approval_requests` row that is inserted. -/
def approvalRequestViolation (row : ApprovalRequestRecord) : Option String :=
  firstBroken
    [(db.approvalRequests.all fun other => other.approvalRequestId ≠ row.approvalRequestId,
      "approval_requests_pkey"),
     (db.approvalRequests.all fun other => other.token ≠ row.token,
      "approval_requests_token_key"),
     (db.approvalRequests.all fun other =>
        !(other.status = .pending && other.actionFingerprint = row.actionFingerprint),
      "approval_requests_pending_fingerprint_uidx"),
     (decide (row.expiresAt > row.requestedAt), "approval_requests_check"),
     (db.hasExecution row.executionId, "approval_requests_execution_id_fkey")]

/-- Constraints on a `governed_action_executions` row that is inserted or changed. -/
def governedActionExecutionViolation (row : GovernedActionExecutionRecord) : Option String :=
  firstBroken
    [(db.governedActionExecutions.all fun other =>
        other.governedActionExecutionId = row.governedActionExecutionId ||
          row.executionId.isNone || other.executionId ≠ row.executionId,
      "governed_action_executions_execution_id_key"),
     (row.completedAt.all fun completed =>
        row.startedAt.any fun started => decide (started ≤ completed),
      "governed_action_executions_check"),
     (db.hasExecution row.executionId, "governed_action_executions_execution_id_fkey"),
     (db.hasApprovalRequest row.approvalRequestId,
      "governed_action_executions_approval_request_id_fkey"),
     (db.hasWorkspaceScript row.workspaceScriptId,
      "governed_action_executions_workspace_script_id_fkey"),
     (db.hasWorkspaceScriptVersion row.workspaceScriptVersionId,
      "governed_action_executions_workspace_script_version_id_fkey")]

/-- Constraints on a `workspace_script_versions` row that is inserted. -/
def workspaceScriptVersionViolation (row : WorkspaceScriptVersionRecord) : Option String :=
  firstBroken
    [(db.workspaceScriptVersions.all fun other =>
        other.workspaceScriptVersionId ≠ row.workspaceScriptVersionId,
      "workspace_script_versions_pkey"),
     (db.workspaceScriptVersions.all fun other =>
        !(other.workspaceScriptId = row.workspaceScriptId && other.version = row.version),
      "workspace_script_versions_workspace_script_id_version_key")]

/-- Constraints on a `workspace_script_runs` row that is inserted or changed. -/
def workspaceScriptRunViolation (row : WorkspaceScriptRunRecord) : Option String :=
  firstBroken
    [(db.workspaceScriptRuns.all fun other =>
        other.workspaceScriptRunId = row.workspaceScriptRunId ||
          row.executionId.isNone || other.executionId ≠ row.executionId,
      "workspace_script_runs_execution_id_key"),
     (db.workspaceScriptRuns.all fun other =>
        other.workspaceScriptRunId = row.workspaceScriptRunId ||
          row.governedActionExecutionId.isNone ||
          other.governedActionExecutionId ≠ row.governedActionExecutionId,
      "workspace_script_runs_governed_action_execution_id_key"),
     (row.completedAt.all fun completed =>
        row.startedAt.any fun started => decide (started ≤ completed),
      "workspace_script_runs_check"),
     (db.hasExecution row.executionId, "workspace_script_runs_execution_id_fkey"),
     (db.hasGovernedAction row.governedActionExecutionId,
      "workspace_script_runs_governed_action_execution_id_fkey"),
     (db.hasApprovalRequest row.approvalRequestId,
      "workspace_script_runs_approval_request_id_fkey")]

/-- `status IN ('planned', 'leased', 'running')`: the jobs whose deduplication key is taken. -/
def deduplicates (row : BackgroundJobRecord) : Bool :=
  row.status = .planned || row.status = .leased || row.status = .running

/-- Constraints on a `background_jobs` row that is changed. -/
def backgroundJobViolation (row : BackgroundJobRecord) : Option String :=
  firstBroken
    [(row.status ≠ .leased || row.leaseExpiresAt.isSome, "background_jobs_check"),
     (!deduplicates row || db.backgroundJobs.all fun other =>
        other.backgroundJobId = row.backgroundJobId ||
          !(deduplicates other && other.deduplicationKey = row.deduplicationKey),
      "background_jobs_dedup_active_uidx")]

/-- Constraints on a `scheduled_foreground_tasks` row that is inserted or changed. -/
def scheduledForegroundTaskViolation (row : ScheduledForegroundTaskRecord) : Option String :=
  firstBroken
    [(db.scheduledForegroundTasks.all fun other =>
        other.scheduledForegroundTaskId = row.scheduledForegroundTaskId ||
          other.taskKey ≠ row.taskKey,
      "scheduled_foreground_tasks_task_key_key"),
     (decide (row.cadenceSeconds ≥ 1), "scheduled_foreground_tasks_cadence_seconds_check"),
     (row.currentExecutionId.isNone == row.currentRunStartedAt.isNone,
      "scheduled_foreground_tasks_check"),
     (row.lastExecutionId.isNone == row.lastRunStartedAt.isNone &&
        (row.lastExecutionId.isSome || row.lastRunCompletedAt.isNone),
      "scheduled_foreground_tasks_check1"),
     (row.lastRunCompletedAt.isNone || row.lastRunStartedAt.isSome,
      "scheduled_foreground_tasks_check2"),
     (row.lastRunCompletedAt.all fun completed =>
        row.lastRunStartedAt.all fun started => decide (started ≤ completed),
      "scheduled_foreground_tasks_check3"),
     (db.hasExecution row.currentExecutionId,
      "scheduled_foreground_tasks_current_execution_id_fkey"),
     (db.hasExecution row.lastExecutionId, "scheduled_foreground_tasks_last_execution_id_fkey")]

end Database

/-- Constraints of a `background_job_runs` row by itself. -/
def BackgroundJobRunRecord.violation (row : BackgroundJobRunRecord) : Option String :=
  Database.firstBroken
    [(decide (row.leaseExpiresAt ≥ row.leaseAcquiredAt), "background_job_runs_check"),
     (match row.status with
      | .leased => row.startedAt.isNone && row.completedAt.isNone
      | .running => row.startedAt.isSome && row.completedAt.isNone
      | .completed | .failed | .timedOut => row.startedAt.isSome && row.completedAt.isSome,
      "background_job_runs_check1")]

/-- Constraints of a `worker_leases` row by itself. -/
def WorkerLeaseRecord.violation (row : WorkerLeaseRecord) : Option String :=
  Database.firstBroken
    [(decide (row.leaseExpiresAt ≥ row.leaseAcquiredAt), "worker_leases_check"),
     (decide (row.lastHeartbeatAt ≥ row.leaseAcquiredAt), "worker_leases_check1"),
     (decide (row.status = .active) == row.releasedAt.isNone, "worker_leases_check2")]

/-- Constraints on a `worker_leases` row that is inserted. -/
def Database.workerLeaseViolation (db : Database) (row : WorkerLeaseRecord) : Option String :=
  (Database.firstBroken
    [(db.workerLeases.all fun other => other.workerLeaseId ≠ row.workerLeaseId,
      "worker_leases_pkey"),
     (db.workerLeases.all fun other => other.leaseToken ≠ row.leaseToken,
      "worker_leases_lease_token_key"),
     (db.hasExecution row.executionId, "worker_leases_execution_id_fkey"),
     (db.hasGovernedAction row.governedActionExecutionId,
      "worker_leases_governed_action_execution_id_fkey")]).or row.violation

/-- A lease that can be inserted has an identifier of its own. -/
theorem Database.fresh_of_workerLeaseViolation {db : Database} {row : WorkerLeaseRecord}
    (h : db.workerLeaseViolation row = none) :
    ∀ other ∈ db.workerLeases, other.workerLeaseId ≠ row.workerLeaseId := by
  rw [workerLeaseViolation, Option.or_eq_none_iff, firstBroken_eq_none] at h
  simpa using h.1 _ List.mem_cons_self

end BlueLagoon
