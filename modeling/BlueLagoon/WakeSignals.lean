import BlueLagoon.BackgroundExecution
import BlueLagoon.Chrono
import BlueLagoon.Identity.Snapshot
import BlueLagoon.Intake
import BlueLagoon.Unconscious

/-!
# Wake signals

A background job may ask for the user's attention by wake signals. Each signal is recorded and
reviewed on its own: policy accepts, defers, suppresses or rejects it by the configuration, the
state of the harness and the signals before it. An accepted signal is staged as a foreground
ingress of the configured conversation, and all but a rejected one start a cooldown.
-/

namespace BlueLagoon

open Interleaving Harness

structure WakeSignalPolicyConfig where
  allowForegroundConversion : Bool
  maxPendingSignals : Nat
  cooldownSeconds : Nat
  deriving DecidableEq, Repr

structure TelegramForegroundBindingConfig where
  allowedUserId : Int
  allowedChatId : Int
  internalPrincipalRef : String
  internalConversationRef : String
  deriving DecidableEq, Repr

/-! ## The store -/

namespace Background

/-- What a statement on the wake signals leaves behind. -/
structure SignalEffect (α : Type) where
  value : α
  rows : List WakeSignalRecord
  events : List UnconsciousEvent := []

/-- A statement on the wake signals. -/
def onWakeSignals {α : Type} (message : String)
    (body : DateTime → Database → List WakeSignalRecord → Except ErrorChain (SignalEffect α)) :
    Unconscious α :=
  Prog.ask (S := unconscious) (Sum.inl Query.statement) fun (at_ : Option DateTime) =>
    match at_ with
    | none => .fail [message, "error communicating with database"]
    | some now => .tx fun state => (body now state.1.db state.2).map fun effect =>
        { value := effect.value
          state := (state.1, effect.rows)
          events := effect.events.map Sum.inr }

/-- A query that reads the wake signals. -/
def fetchWakeSignals {α : Type} (message : String)
    (read : DateTime → Database → List WakeSignalRecord → α) : Unconscious α :=
  onWakeSignals message fun now db rows => .ok { value := read now db rows, rows := rows }

/-- The row of a new wake signal. -/
def wakeSignalRow (now : DateTime) (signal : NewWakeSignalRecord) : WakeSignalRecord where
  wakeSignalId := signal.signal.signalId
  backgroundJobId := signal.backgroundJobId
  backgroundJobRunId := signal.backgroundJobRunId
  traceId := signal.traceId
  executionId := signal.executionId
  signal := signal.signal
  status := signal.status
  decision := none
  requestedAt := signal.requestedAt
  reviewedAt := none
  cooldownUntil := signal.cooldownUntil
  createdAt := now
  updatedAt := now

/-- Constraints on a `wake_signals` row that is inserted. -/
def wakeSignalViolation (db : Database) (rows : List WakeSignalRecord) (row : WakeSignalRecord) :
    Option String :=
  Database.firstBroken
    [(rows.all fun other => other.wakeSignalId ≠ row.wakeSignalId, "wake_signals_pkey"),
     (db.backgroundJobs.any fun job => job.backgroundJobId = row.backgroundJobId,
      "wake_signals_background_job_id_fkey"),
     (row.backgroundJobRunId.all fun id =>
        db.backgroundJobRuns.any fun run => run.backgroundJobRunId = id,
      "wake_signals_background_job_run_id_fkey"),
     (db.hasExecution row.executionId, "wake_signals_execution_id_fkey")]

/-- `insert_wake_signal`. -/
def insertWakeSignal (signal : NewWakeSignalRecord) : Unconscious Unit :=
  onWakeSignals "failed to insert wake signal" fun now db rows =>
    let row := wakeSignalRow now signal
    match wakeSignalViolation db rows row with
    | some constraint => .error ["failed to insert wake signal", constraint]
    | none => .ok
        { value := ()
          rows := rows ++ [row]
          events := [.recorded row.wakeSignalId] }

/-- `get_wake_signal`. -/
def getWakeSignal (wakeSignalId : Uuid) : Unconscious WakeSignalRecord :=
  onWakeSignals "failed to fetch wake signal" fun _ _ rows =>
    match Table.find WakeSignalRecord.wakeSignalId wakeSignalId rows with
    | some row => .ok { value := row, rows := rows }
    | none => .error ["failed to fetch wake signal",
        "no rows returned by a query that expected to return at least one row"]

/-- A wake signal that is pending, accepted or deferred, and whose cooldown is not over. -/
def isOpen (now : DateTime) (row : WakeSignalRecord) : Bool :=
  (row.status = .pendingReview || row.status = .accepted || row.status = .deferred) &&
    row.cooldownUntil.all fun cooldownUntil => now < cooldownUntil

/-- `count_open_wake_signals`. -/
def countOpenWakeSignals (now : DateTime) : Unconscious Nat :=
  fetchWakeSignals "failed to count open wake signals" fun _ _ rows => rows.countP (isOpen now)

/-- Another wake signal of the reason code whose cooldown is not over. -/
def coolsDown (reasonCode : String) (now : DateTime) (excludeWakeSignalId : Uuid)
    (row : WakeSignalRecord) : Bool :=
  row.signal.reasonCode = reasonCode && row.wakeSignalId ≠ excludeWakeSignalId &&
    row.cooldownUntil.any fun cooldownUntil => now < cooldownUntil

/-- `has_active_wake_signal_cooldown`. -/
def hasActiveWakeSignalCooldown (reasonCode : String) (now : DateTime)
    (excludeWakeSignalId : Uuid) : Unconscious Bool :=
  fetchWakeSignals "failed to check active wake-signal cooldown" fun _ _ rows =>
    rows.any (coolsDown reasonCode now excludeWakeSignalId)

/-- `wake_signal_status_for_decision`. -/
def wakeSignalStatusForDecision : WakeSignalDecisionKind → WakeSignalStatus
  | .accepted => .accepted
  | .rejected => .rejected
  | .suppressed => .suppressed
  | .deferred => .deferred

/-- The row of a wake signal once it is reviewed. -/
def reviewed (now : DateTime) (decision : WakeSignalDecision) (reviewedAt : DateTime)
    (cooldownUntil : Option DateTime) (row : WakeSignalRecord) : WakeSignalRecord :=
  { row with
    status := wakeSignalStatusForDecision decision.decision
    decision := some
      { signalId := row.wakeSignalId
        decision := decision.decision
        reason := decision.reason }
    reviewedAt := some reviewedAt
    cooldownUntil := cooldownUntil
    updatedAt := now }

/-- `record_wake_signal_decision`. -/
def recordWakeSignalDecision (wakeSignalId : Uuid) (decision : WakeSignalDecision)
    (reviewedAt : DateTime) (cooldownUntil : Option DateTime) : Unconscious Unit :=
  onWakeSignals "failed to record wake signal decision" fun now _ rows =>
    .ok
      { value := ()
        rows := Table.update (fun row => row.wakeSignalId = wakeSignalId)
          (reviewed now decision reviewedAt cooldownUntil) rows
        events := [.reviewed wakeSignalId] }

end Background

/-! ## The state of the harness -/

structure InternalStateSeed where
  loadPct : Nat := 10
  healthPct : Nat := 100
  reliabilityPct : Nat := 100
  resourcePressurePct : Nat := 10
  confidencePct : Nat := 80
  connectionQualityPct : Nat := 100

structure InternalStateSnapshot where
  loadPct : Nat
  healthPct : Nat
  reliabilityPct : Nat
  resourcePressurePct : Nat
  confidencePct : Nat
  connectionQualityPct : Nat
  activeConditions : List String

structure InternalStateSignals where
  activeBackgroundRuns : Nat := 0
  pendingApprovals : Nat := 0
  pendingWakeSignals : Nat := 0
  recentFailedRuns : Nat := 0
  recentCriticalDiagnostics : Nat := 0

namespace SelfModel

/-- `add_bounded`. -/
def addBounded (base delta maxValue : Nat) : Nat := min (base + delta) maxValue

/-- `subtract_bounded`. -/
def subtractBounded (base penalty minValue : Nat) : Nat := max (base - penalty) minValue

/-- The condition that a count adds. -/
def condition (name : String) (count : Nat) : List String :=
  if count > 0 then [s!"{name}:{count}"] else []

/-- `build_internal_state_from_signals`. -/
def buildInternalStateFromSignals (seed : InternalStateSeed) (activeConditions : List String)
    (signals : InternalStateSignals) : InternalStateSnapshot :=
  let loadPressure := signals.activeBackgroundRuns * 12 + signals.pendingApprovals * 4 +
    signals.pendingWakeSignals * 3
  let reliabilityPenalty := signals.recentFailedRuns * 12 + signals.recentCriticalDiagnostics * 8
  let resourcePressure := signals.activeBackgroundRuns * 10 + signals.pendingWakeSignals * 4 +
    signals.pendingApprovals * 2
  { loadPct := addBounded seed.loadPct loadPressure 100
    healthPct := subtractBounded seed.healthPct reliabilityPenalty 0
    reliabilityPct := subtractBounded seed.reliabilityPct reliabilityPenalty 0
    resourcePressurePct := addBounded seed.resourcePressurePct resourcePressure 100
    confidencePct := subtractBounded seed.confidencePct (reliabilityPenalty / 2) 0
    connectionQualityPct := subtractBounded seed.connectionQualityPct
      (signals.recentCriticalDiagnostics * 5) 0
    activeConditions := activeConditions ++
      condition "active_background_runs" signals.activeBackgroundRuns ++
      condition "pending_approvals" signals.pendingApprovals ++
      condition "pending_wake_signals" signals.pendingWakeSignals ++
      condition "recent_failed_runs" signals.recentFailedRuns ++
      condition "recent_critical_diagnostics" signals.recentCriticalDiagnostics }

/-- What the statement of `load_internal_state_signals` counts. -/
def internalStateSignals (now : DateTime) (db : Database) (rows : List WakeSignalRecord) :
    InternalStateSignals where
  activeBackgroundRuns := db.backgroundJobRuns.countP fun run =>
    run.status = .leased || run.status = .running
  pendingApprovals := db.approvalRequests.countP fun request => request.status = .pending
  pendingWakeSignals := rows.countP fun row => row.status = .pendingReview
  recentFailedRuns := db.backgroundJobRuns.countP fun run =>
    (run.status = .failed || run.status = .timedOut) &&
      decide (now - seconds 3600 < run.leaseAcquiredAt)
  recentCriticalDiagnostics := db.operationalDiagnostics.countP fun diagnostic =>
    diagnostic.severity = .critical && decide (now - seconds 3600 < diagnostic.createdAt)

/-- `derive_live_internal_state_snapshot`. -/
def deriveLiveInternalStateSnapshot (seed : InternalStateSeed) (activeConditions : List String) :
    Unconscious InternalStateSnapshot := do
  let signals ← Background.fetchWakeSignals "failed to load internal-state runtime signals"
    internalStateSignals
  pure (buildInternalStateFromSignals seed activeConditions signals)

end SelfModel

/-! ## Policy -/

structure WakeSignalEvaluationContext where
  pendingSignalCount : Nat
  cooldownActive : Bool
  foregroundChannelAvailable : Bool
  internalResourcePressurePct : Nat
  internalReliabilityPct : Nat
  identityBoundaries : List String

namespace Policy

/-- `identity_boundary_defers_wake_signal`. -/
def identityBoundaryDefersWakeSignal (boundaries : List String) : Bool :=
  boundaries.any fun boundary =>
    let normalized := Text.toAsciiLowercase (Text.trim boundary)
    Text.contains normalized "do not proactively wake" ||
      Text.contains normalized "no proactive wake" ||
      Text.contains normalized "avoid proactive wake" ||
      Text.contains normalized "defer proactive"

/-- `evaluate_wake_signal`. -/
def evaluateWakeSignal (config : WakeSignalPolicyConfig) (signal : WakeSignal)
    (context : WakeSignalEvaluationContext) : WakeSignalDecision :=
  if !context.foregroundChannelAvailable then
    { signalId := signal.signalId
      decision := .rejected
      reason := "no foreground conversation binding is configured for wake-signal conversion" }
  else if !config.allowForegroundConversion then
    { signalId := signal.signalId
      decision := .deferred
      reason := "wake-signal foreground conversion is disabled by policy" }
  else if identityBoundaryDefersWakeSignal context.identityBoundaries ∧
      signal.priority ≠ .high then
    { signalId := signal.signalId
      decision := .deferred
      reason := "identity boundary defers non-urgent proactive foreground wake signals" }
  else if context.internalResourcePressurePct ≥ 85 ∧ signal.priority ≠ .high then
    { signalId := signal.signalId
      decision := .deferred
      reason := s!"non-urgent wake signal deferred because internal resource pressure is {context.internalResourcePressurePct}%" }
  else if context.internalReliabilityPct ≤ 35 ∧ signal.priority ≠ .high then
    { signalId := signal.signalId
      decision := .deferred
      reason := s!"non-urgent wake signal deferred because internal reliability is {context.internalReliabilityPct}%" }
  else if context.cooldownActive ∧ signal.priority ≠ .high then
    { signalId := signal.signalId
      decision := .deferred
      reason := s!"wake signal '{signal.reasonCode}' remains within the active cooldown window" }
  else if context.pendingSignalCount ≥ config.maxPendingSignals then
    { signalId := signal.signalId
      decision :=
        match signal.priority with
        | .low => .suppressed
        | .normal => .deferred
        | .high => .accepted
      reason := s!"wake-signal queue is at or above the configured limit ({config.maxPendingSignals})" }
  else
    { signalId := signal.signalId
      decision := .accepted
      reason := "wake signal satisfies configured foreground conversion policy" }

end Policy

/-! ## Staging -/

namespace Foreground

/-- The external identifier of the ingress of a wake signal. -/
def wakeSignalExternalEventId (wakeSignalId : Uuid) : String := s!"wake-signal:{wakeSignalId}"

/-- What the ingress of a wake signal says it came of. -/
def approvedWakeSignalRawPayloadRef (wakeSignal : WakeSignalRecord) : String :=
  let run := (wakeSignal.backgroundJobRunId.map toString).getD "none"
  s!"wake_signal:{wakeSignal.wakeSignalId}:background_job:{wakeSignal.backgroundJobId}:background_run:{run}"

/-- `build_approved_wake_signal_ingress`. -/
def buildApprovedWakeSignalIngress (bindingConfig : TelegramForegroundBindingConfig)
    (wakeSignal : WakeSignalRecord) (ingressId : Uuid) : NormalizedIngress where
  ingressId := ingressId
  channelKind := .telegram
  externalUserId := toString bindingConfig.allowedUserId
  externalConversationId := toString bindingConfig.allowedChatId
  externalEventId := wakeSignalExternalEventId wakeSignal.wakeSignalId
  externalMessageId := none
  internalPrincipalRef := bindingConfig.internalPrincipalRef
  internalConversationRef := bindingConfig.internalConversationRef
  eventKind := .messageCreated
  occurredAt := wakeSignal.requestedAt
  textBody := some s!"A policy-approved maintenance wake signal requires conscious follow-up.\nReason code: {wakeSignal.signal.reasonCode}\nSummary: {wakeSignal.signal.summary}\nUse the maintenance insight to produce one concise user-facing reply if a proactive update is warranted."
  commandHint := none
  approvalPayload := none
  rawPayloadRef := some (approvedWakeSignalRawPayloadRef wakeSignal)

/-- `matching_conversation_binding_for_binding_config`. -/
def matchingConversationBindingForBindingConfig (config : TelegramForegroundBindingConfig)
    (ingress : NormalizedIngress) : Harness (Option NewConversationBinding) :=
  matchingConversationBinding
    { allowedUserId := config.allowedUserId
      allowedChatId := config.allowedChatId
      internalPrincipalRef := config.internalPrincipalRef
      internalConversationRef := config.internalConversationRef } ingress

/-- The audit event of a staged wake signal. -/
def wakeSignalStagedEvent (ingress : NormalizedIngress) (wakeSignal : WakeSignalRecord)
    (action : ConversationBindingAction) : NewAuditEvent where
  loopKind := "conscious"
  subsystem := "foreground_trigger"
  eventKind := "foreground_trigger_staged_from_wake_signal"
  severity := "info"
  traceId := wakeSignal.traceId
  executionId := wakeSignal.executionId
  payload := .obj
    [("wake_signal_id", .uuid wakeSignal.wakeSignalId),
     ("background_job_id", .uuid wakeSignal.backgroundJobId),
     ("background_job_run_id", .ofOption .uuid wakeSignal.backgroundJobRunId),
     ("ingress_id", .uuid ingress.ingressId),
     ("external_event_id", .str ingress.externalEventId),
     ("deduplication_key", .str (foregroundDeduplicationKey ingress)),
     ("reason_code", .str wakeSignal.signal.reasonCode),
     ("conversation_binding_action", .str action.asStr)]

/-- The transaction of `stage_approved_wake_signal_foreground_ingress`. -/
def commitStagedWakeSignal (ingress : NormalizedIngress) (wakeSignal : WakeSignalRecord)
    (binding : NewConversationBinding) (lookups : BindingLookups)
    (causalLinkId auditEventId : Uuid) (now : DateTime) (db : Database) :
    Except ErrorChain (Effect Unit) :=
  match reconcileLookedUp lookups binding db with
  | .error e => .error e
  | .ok (written, bound) =>
    match insertIngressEvent
        { ingress := ingress
          conversationBindingId := some written.record.conversationBindingId
          traceId := wakeSignal.traceId
          executionId := none
          status := "accepted"
          rejectionReason := none } now bound with
    | .error e => .error e
    | .ok stored =>
      let linked := CausalLinks.add causalLinkId
        { traceId := wakeSignal.traceId
          sourceKind := "wake_signal"
          sourceId := wakeSignal.wakeSignalId
          targetKind := "ingress_event"
          targetId := ingress.ingressId
          edgeKind := "staged_foreground_trigger"
          payload := .obj
            [("reason_code", .str wakeSignal.signal.reasonCode),
             ("background_job_id", .uuid wakeSignal.backgroundJobId),
             ("background_job_run_id", .ofOption .uuid wakeSignal.backgroundJobRunId)] } stored
      .ok
        { value := ()
          db :=
            { linked with
              auditEvents := linked.auditEvents ++
                [Audit.row auditEventId now
                  (wakeSignalStagedEvent ingress wakeSignal written.action)] }
          events := [.bindingReconciled written.record.conversationBindingId,
            .ingressStored ingress.ingressId] }

/-- `stage_approved_wake_signal_foreground_ingress`. -/
def stageApprovedWakeSignalForegroundIngress (bindingConfig : TelegramForegroundBindingConfig)
    (wakeSignal : WakeSignalRecord) : Harness StagedForegroundIngressOutcome := do
  let ingressId ← newUuid
  let ingress := buildApprovedWakeSignalIngress bindingConfig wakeSignal ingressId
  let existing ← findIngressEventByChannelEvent ingress.channelKind ingress.externalEventId
  match existing with
  | some existing => do
    let duplicate ← duplicateForegroundTriggerOutcome ingress existing
    pure (.duplicate duplicate)
  | none => do
    let matching ← matchingConversationBindingForBindingConfig bindingConfig ingress
    let binding ← expect
      "approved wake-signal ingress must match the configured conversation binding" matching
    let lookups ← lookUpBindings binding
    let causalLinkId ← newUuid
    let auditEventId ← newUuid
    transaction "failed to start wake-signal foreground staging transaction"
      (commitStagedWakeSignal ingress wakeSignal binding lookups causalLinkId auditEventId)
    pure (.accepted
      { ingressId := ingress.ingressId
        traceId := wakeSignal.traceId
        internalConversationRef := ingress.internalConversationRef })

end Foreground

/-! ## Recovery -/

namespace Recovery

/-- `recover_wake_signal_policy_block`. -/
def recoverWakeSignalPolicyBlock (wakeSignal : WakeSignalRecord) (now : DateTime)
    (diagnosticReasonCode diagnosticSummary : String) : Harness RecoveryTriggerOutcome := do
  let checkpointPayload := Json.obj
    [("wake_signal_id", .uuid wakeSignal.wakeSignalId),
     ("background_job_id", .uuid wakeSignal.backgroundJobId),
     ("background_job_run_id", .ofOption .uuid wakeSignal.backgroundJobRunId),
     ("execution_id", .ofOption .uuid wakeSignal.executionId),
     ("status", .str wakeSignal.status.debug),
     ("priority", .str wakeSignal.signal.priority.asStr),
     ("reason_code", .str wakeSignal.signal.reasonCode),
     ("summary", .str wakeSignal.signal.summary),
     ("requested_at", .time wakeSignal.requestedAt)]
  let checkpointId ← newUuid
  let diagnosticId ← newUuid
  issueRecoveryTrigger
    { recoveryCheckpointId := checkpointId
      traceId := wakeSignal.traceId
      executionId := wakeSignal.executionId
      backgroundJobId := some wakeSignal.backgroundJobId
      backgroundJobRunId := wakeSignal.backgroundJobRunId
      governedActionExecutionId := none
      approvalRequestId := none
      checkpointKind := .background
      recoveryReasonCode := .integrityOrPolicyBlock
      recoveryBudgetRemaining := 1
      checkpointPayload := checkpointPayload }
    { checkpointKind := .background
      reasonCode := .integrityOrPolicyBlock
      actionClassification := .safeReplay
      evidenceState := .notStarted
      approvalState := .notRequired
      policyState := .valid
      recoveryBudgetRemaining := 1
      clarificationAvailable := false }
    { operationalDiagnosticId := diagnosticId
      traceId := some wakeSignal.traceId
      executionId := wakeSignal.executionId
      subsystem := "background_execution"
      severity := .warn
      reasonCode := diagnosticReasonCode
      summary := diagnosticSummary
      diagnosticPayload := checkpointPayload }
    now

end Recovery

/-! ## The review -/

namespace BackgroundExecution

structure WakeSignalPersistenceSummary where
  totalCount : Nat := 0
  acceptedCount : Nat := 0
  deferredCount : Nat := 0
  suppressedCount : Nat := 0
  rejectedCount : Nat := 0
  stagedCount : Nat := 0
  deriving DecidableEq, Repr

/-- What a review goes by, besides the signal. -/
structure WakeSignalPolicy where
  config : WakeSignalPolicyConfig
  foregroundBinding : Option TelegramForegroundBindingConfig

/-- `validate_wake_signal`. -/
def validateWakeSignal (signal : WakeSignal) : Except ErrorChain Unit :=
  if Text.isBlank signal.reasonCode then .error ["wake signal reason_code must not be empty"]
  else if Text.isBlank signal.summary then .error ["wake signal summary must not be empty"]
  else .ok ()

/-- `cooldown_seconds as i64`. -/
def asI64 (n : Nat) : Int := Int.bmod n (2 ^ 64)

/-- `cooldown_until`. -/
def cooldownUntil (config : WakeSignalPolicyConfig) (decisionKind : WakeSignalDecisionKind)
    (reviewedAt : DateTime) : Except ErrorChain (Option DateTime) :=
  match decisionKind with
  | .accepted | .deferred | .suppressed =>
    (Chrono.addSeconds reviewedAt (asI64 config.cooldownSeconds)).map some
  | .rejected => .ok none

/-- An audit event of the review of a wake signal. -/
def writeWakeSignalAuditEvent (leased : LeasedBackgroundExecution) (eventKind severity : String)
    (payload : Json) : Unconscious Unit := do
  let _ ← Prog.lift (Audit.insert
    { loopKind := "unconscious"
      subsystem := "background_execution"
      eventKind := eventKind
      severity := severity
      traceId := leased.job.traceId
      executionId := some leased.executionId
      payload := payload })
  pure ()

/-- The severity of the audit event of a decision. -/
def decisionSeverity : WakeSignalDecisionKind → String
  | .accepted => "info"
  | .deferred | .suppressed | .rejected => "warn"

/-- `record_wake_signal_decision_audit`. -/
def recordWakeSignalDecisionAudit (leased : LeasedBackgroundExecution)
    (recordedSignal : WakeSignalRecord) (decision : WakeSignalDecision)
    (cooldownUntil : Option DateTime) : Unconscious Unit :=
  writeWakeSignalAuditEvent leased "wake_signal_reviewed" (decisionSeverity decision.decision)
    (.obj
      [("wake_signal_id", .uuid recordedSignal.wakeSignalId),
       ("decision", .str decision.decision.asStr),
       ("reason", .str decision.reason),
       ("reason_code", .str recordedSignal.signal.reasonCode),
       ("cooldown_until", .ofOption .time cooldownUntil)])

/-- A signal is recorded, with its link and its audit event. -/
def recordWakeSignal (leased : LeasedBackgroundExecution) (signal : WakeSignal)
    (requestedAt : DateTime) : Unconscious WakeSignalRecord := do
  Background.insertWakeSignal
    { backgroundJobId := leased.job.backgroundJobId
      backgroundJobRunId := some leased.backgroundJobRunId
      traceId := leased.job.traceId
      executionId := some leased.executionId
      signal := signal
      status := .pendingReview
      requestedAt := requestedAt
      cooldownUntil := none }
  let recordedSignal ← Background.getWakeSignal signal.signalId
  let _ ← Prog.lift (CausalLinks.insert
    { traceId := leased.job.traceId
      sourceKind := "background_job_run"
      sourceId := leased.backgroundJobRunId
      targetKind := "wake_signal"
      targetId := recordedSignal.wakeSignalId
      edgeKind := "recorded_wake_signal"
      payload := .obj
        [("background_job_id", .uuid leased.job.backgroundJobId),
         ("reason_code", .str recordedSignal.signal.reasonCode),
         ("priority", .str recordedSignal.signal.priority.asStr)] })
  writeWakeSignalAuditEvent leased "wake_signal_recorded" "info"
    (.obj
      [("wake_signal_id", .uuid recordedSignal.wakeSignalId),
       ("background_job_id", .uuid leased.job.backgroundJobId),
       ("background_job_run_id", .uuid leased.backgroundJobRunId),
       ("reason", .str recordedSignal.signal.reason.asStr),
       ("priority", .str recordedSignal.signal.priority.asStr),
       ("reason_code", .str recordedSignal.signal.reasonCode),
       ("summary", .str recordedSignal.signal.summary)])
  pure recordedSignal

/-- What the policy says of a recorded signal. -/
def reviewWakeSignal (policy : WakeSignalPolicy) (identitySnapshot : CompactIdentitySnapshot)
    (recordedSignal : WakeSignalRecord) (requestedAt : DateTime) :
    Unconscious WakeSignalDecision := do
  let internalState ← SelfModel.deriveLiveInternalStateSnapshot {} ["wake_signal_review"]
  let pendingSignalCount ← Background.countOpenWakeSignals requestedAt
  let cooldownActive ← Background.hasActiveWakeSignalCooldown recordedSignal.signal.reasonCode
    requestedAt recordedSignal.wakeSignalId
  pure (Policy.evaluateWakeSignal policy.config recordedSignal.signal
    { pendingSignalCount := pendingSignalCount
      cooldownActive := cooldownActive
      foregroundChannelAvailable := policy.foregroundBinding.isSome
      internalResourcePressurePct := internalState.resourcePressurePct
      internalReliabilityPct := internalState.reliabilityPct
      identityBoundaries := identitySnapshot.boundaries })

/-- A rejected signal is routed through recovery. -/
def recoverRejected (recordedSignal : WakeSignalRecord) (decision : WakeSignalDecision)
    (requestedAt : DateTime) : Harness Unit :=
  if decision.decision = .rejected then do
    let _ ← context "failed to route rejected wake-signal conversion through recovery"
      (Recovery.recoverWakeSignalPolicyBlock recordedSignal requestedAt
        "wake_signal_routing_rejected" decision.reason)
    pure ()
  else pure ()

/-- An accepted signal is staged; the decision that is kept, and how many were staged. -/
def stageAcceptedSignal (policy : WakeSignalPolicy) (leased : LeasedBackgroundExecution)
    (recordedSignal : WakeSignalRecord) (decision : WakeSignalDecision) :
    Unconscious (WakeSignalDecision × Nat) :=
  if decision.decision = .accepted then do
    let binding ← Prog.lift (expect
      "accepted wake signal requires a configured Telegram foreground binding"
      policy.foregroundBinding)
    let outcome ← Prog.lift
      (Foreground.stageApprovedWakeSignalForegroundIngress binding recordedSignal)
    match outcome with
    | .accepted staged => do
      writeWakeSignalAuditEvent leased "wake_signal_foreground_conversion_staged" "info"
        (.obj
          [("wake_signal_id", .uuid recordedSignal.wakeSignalId),
           ("ingress_id", .uuid staged.ingressId),
           ("internal_conversation_ref", .str staged.internalConversationRef)])
      pure (decision, 1)
    | .duplicate duplicate => do
      writeWakeSignalAuditEvent leased "wake_signal_foreground_conversion_duplicate" "info"
        (.obj
          [("wake_signal_id", .uuid recordedSignal.wakeSignalId),
           ("existing_ingress_id", .uuid duplicate.ingressId),
           ("existing_trace_id", .uuid duplicate.traceId)])
      pure
        ({ signalId := recordedSignal.wakeSignalId
           decision := .accepted
           reason := s!"{decision.reason}; equivalent foreground ingress was already staged" }, 0)
    | .rejected _ =>
      .fail ["approved wake-signal staging returned an unexpected rejected outcome"]
  else pure (decision, 0)

/-- The counts, once a signal is decided. -/
def counted (summary : WakeSignalPersistenceSummary) (stagedCount : Nat) :
    WakeSignalDecisionKind → WakeSignalPersistenceSummary
  | .accepted =>
    { summary with
      totalCount := summary.totalCount + 1
      stagedCount := summary.stagedCount + stagedCount
      acceptedCount := summary.acceptedCount + 1 }
  | .deferred =>
    { summary with
      totalCount := summary.totalCount + 1
      stagedCount := summary.stagedCount + stagedCount
      deferredCount := summary.deferredCount + 1 }
  | .suppressed =>
    { summary with
      totalCount := summary.totalCount + 1
      stagedCount := summary.stagedCount + stagedCount
      suppressedCount := summary.suppressedCount + 1 }
  | .rejected =>
    { summary with
      totalCount := summary.totalCount + 1
      stagedCount := summary.stagedCount + stagedCount
      rejectedCount := summary.rejectedCount + 1 }

/-- One turn of the loop of `persist_wake_signals`. -/
def persistWakeSignal (policy : WakeSignalPolicy) (leased : LeasedBackgroundExecution)
    (identitySnapshot : CompactIdentitySnapshot) (summary : WakeSignalPersistenceSummary)
    (signal : WakeSignal) : Unconscious WakeSignalPersistenceSummary := do
  Prog.ofExcept (validateWakeSignal signal)
  let requestedAt ← Prog.lift utcNow
  let recordedSignal ← recordWakeSignal leased signal requestedAt
  let policyDecision ← reviewWakeSignal policy identitySnapshot recordedSignal requestedAt
  let cooldownUntil ← Prog.ofExcept
    (cooldownUntil policy.config policyDecision.decision requestedAt)
  Prog.lift (recoverRejected recordedSignal policyDecision requestedAt)
  let (persistedDecision, stagedCount) ← stageAcceptedSignal policy leased recordedSignal
    policyDecision
  Background.recordWakeSignalDecision recordedSignal.wakeSignalId persistedDecision requestedAt
    cooldownUntil
  recordWakeSignalDecisionAudit leased recordedSignal persistedDecision cooldownUntil
  pure (counted summary stagedCount persistedDecision.decision)

/-- `persist_wake_signals`. -/
def persistWakeSignals (policy : WakeSignalPolicy) (leased : LeasedBackgroundExecution)
    (wakeSignals : List WakeSignal) : Unconscious WakeSignalPersistenceSummary := do
  let identitySnapshot ← Prog.lift (Identity.reconstructCompactIdentitySnapshot 32)
  Prog.foldlM (persistWakeSignal policy leased identitySnapshot) {} wakeSignals

end BackgroundExecution

end BlueLagoon
