import BlueLagoon.Approval
import BlueLagoon.Episodes
import BlueLagoon.Foreground
import BlueLagoon.GovernedActions.Execution

/-!
# Foreground orchestration

What a conscious turn does with the governed actions it proposes: each one is planned, then
executed, routed for approval, or handled as the action cap says. An approval that comes
back from Telegram settles the action that waits for it, and a follow-up turn may propose
further actions.
-/

namespace BlueLagoon

open Interleaving Harness

structure ForegroundActionLoopTracker where
  executedActionCount : Nat
  deriving DecidableEq, Repr

structure GovernedActionProcessingSummary where
  observations : List GovernedActionObservation := []
  proposedCount : Nat := 0
  executedCount : Nat := 0
  blockedCount : Nat := 0
  pendingApprovalCount : Nat := 0
  actionLimitReached : Bool := false

structure ParsedApprovalResolutionIngress where
  approvalToken : String
  decision : ApprovalResolutionDecision
  expectedActionFingerprint : Option GovernedActionFingerprint
  resolutionSource : String

structure TelegramApprovalResolutionCompletion where
  traceId : Uuid
  executionId : Uuid
  ingressId : Uuid
  approvalRequestId : Uuid
  decision : ApprovalResolutionDecision
  outboundMessageId : Int

inductive ForegroundFailureKind
  | approvalResolutionFailure
  | contextAssemblyFailure
  | malformedActionProposal
  | workerProtocolFailure
  | scheduledForegroundValidationFailure
  | modelGatewayTransportFailure
  | providerRejected
  | telegramDeliveryFailure
  | persistenceFailure
  deriving DecidableEq, Repr

/-- `ForegroundFailureKind::as_str`. -/
def ForegroundFailureKind.asStr : ForegroundFailureKind → String
  | approvalResolutionFailure => "approval_resolution_failure"
  | contextAssemblyFailure => "context_assembly_failure"
  | malformedActionProposal => "malformed_action_proposal"
  | workerProtocolFailure => "worker_protocol_failure"
  | scheduledForegroundValidationFailure => "scheduled_foreground_validation_failure"
  | modelGatewayTransportFailure => "model_gateway_transport_failure"
  | providerRejected => "provider_rejected"
  | telegramDeliveryFailure => "telegram_delivery_failure"
  | persistenceFailure => "persistence_failure"

namespace ForegroundActionLoopTracker

/-- The largest `u32`. -/
def u32Max : Nat := 4294967295

/-- `ForegroundActionLoopTracker::remaining_actions_before_cap`. -/
def remainingActionsBeforeCap (tracker : ForegroundActionLoopTracker) (config : RuntimeConfig) :
    Nat :=
  config.governedActions.maxActionsPerForegroundTurn - tracker.executedActionCount

/-- `ForegroundActionLoopTracker::is_at_cap`. -/
def isAtCap (tracker : ForegroundActionLoopTracker) (config : RuntimeConfig) : Bool :=
  tracker.remainingActionsBeforeCap config = 0

/-- `ForegroundActionLoopTracker::record_executed_action`. -/
def recordExecutedAction (tracker : ForegroundActionLoopTracker) : ForegroundActionLoopTracker :=
  { executedActionCount := min (tracker.executedActionCount + 1) u32Max }

end ForegroundActionLoopTracker

/-- `GovernedActionProcessingSummary::merge`. -/
def GovernedActionProcessingSummary.merge (summary other : GovernedActionProcessingSummary) :
    GovernedActionProcessingSummary where
  observations := summary.observations ++ other.observations
  proposedCount := summary.proposedCount + other.proposedCount
  executedCount := summary.executedCount + other.executedCount
  blockedCount := summary.blockedCount + other.blockedCount
  pendingApprovalCount := summary.pendingApprovalCount + other.pendingApprovalCount
  actionLimitReached := summary.actionLimitReached || other.actionLimitReached

namespace Orchestration

/-! ## Telegram addresses -/

/-- `parse_telegram_chat_id`. -/
def parseTelegramChatId (ingress : NormalizedIngress) : Except ErrorChain Int :=
  match Text.parseI64 ingress.externalConversationId with
  | some chatId => .ok chatId
  | none => .error [s!"failed to parse Telegram conversation id '{ingress.externalConversationId}'"]

/-- `parse_telegram_reply_target`. -/
def parseTelegramReplyTarget (ingress : NormalizedIngress) : Except ErrorChain (Option Int) :=
  match ingress.externalMessageId with
  | none => .ok none
  | some messageId =>
    match Text.parseI64 messageId with
    | some target => .ok (some target)
    | none => .error [s!"failed to parse Telegram message id '{messageId}'"]

/-! ## The action cap -/

/-- `consequence_summary_for_proposal`. -/
def consequenceSummaryForProposal (proposal : GovernedActionProposal) : String :=
  let scope := proposal.capabilityScope
  s!"{proposal.title} with {scope.filesystem.readRoots.length} read root(s), {scope.filesystem.writeRoots.length} write root(s), network={scope.network.asStr}, {scope.environment.allowVariables.length} environment variable(s), timeout={scope.execution.timeoutMs} ms"

/-- `foreground_action_limit_summary`. -/
def foregroundActionLimitSummary (config : RuntimeConfig) (tracker : ForegroundActionLoopTracker) :
    String :=
  s!"foreground governed-action limit reached: {tracker.executedActionCount} action(s) already executed in this turn; configured maximum is {config.governedActions.maxActionsPerForegroundTurn}"

/-- `foreground_action_limit_payload`. -/
def foregroundActionLimitPayload (config : RuntimeConfig) (tracker : ForegroundActionLoopTracker) :
    Json :=
  .obj
    [("executed_action_count", .int tracker.executedActionCount),
     ("max_actions_per_turn", .int config.governedActions.maxActionsPerForegroundTurn),
     ("remaining_actions_before_cap", .int (tracker.remainingActionsBeforeCap config)),
     ("cap_exceeded_behavior", .str config.governedActions.capExceededBehavior.asStr)]

/-- The update by which the cap overrides the status of a planned action. -/
def capUpdate (record : GovernedActionExecutionRecord) (status : GovernedActionStatus)
    (blockedReason : Option String) : GovernedActionExecutionUpdate where
  governedActionExecutionId := record.governedActionExecutionId
  status := status
  executionId := none
  outputRef := none
  blockedReason := blockedReason
  approvalRequestId := none
  startedAt := none
  completedAt := none

/-- The cap under `AlwaysDeny`: the action is blocked. -/
def denyAtCap (config : RuntimeConfig) (tracker : ForegroundActionLoopTracker)
    (record : GovernedActionExecutionRecord) : Harness GovernedActionObservation := do
  let limitSummary := foregroundActionLimitSummary config tracker
  let blockedRecord ← GovernedActions.updateGovernedActionExecution
    (capUpdate record .blocked (some limitSummary))
  GovernedActions.writeGovernedActionAuditEvent blockedRecord "governed_action_blocked" "warn"
    (.obj
      [("phase", .str "foreground_action_limit"),
       ("reason", .str limitSummary),
       ("limit", foregroundActionLimitPayload config tracker)])
  let observationId ← newUuid
  pure
    { observationId := observationId
      actionKind := blockedRecord.actionKind
      outcome :=
        { status := .blocked
          summary := limitSummary
          fingerprint := some blockedRecord.actionFingerprint
          outputRef := blockedRecord.outputRef } }

/-- The cap under `Escalate`: an action that needed no approval waits for one now. -/
def escalateAtCap (config : RuntimeConfig) (tracker : ForegroundActionLoopTracker)
    (record : GovernedActionExecutionRecord) (requiresApproval : Bool) : Harness Unit := do
  Prog.emit (.actionEscalated record.governedActionExecutionId)
  if requiresApproval then pure ()
  else
    let approvalRecord ← GovernedActions.updateGovernedActionExecution
      (capUpdate record .awaitingApproval none)
    GovernedActions.writeGovernedActionAuditEvent approvalRecord "governed_action_cap_escalated"
      "info" (foregroundActionLimitPayload config tracker)

/-! ## Routing for approval -/

/-- `deliver_telegram_approval_prompt`. -/
def deliverTelegramApprovalPrompt (ingress : NormalizedIngress)
    (approvalRequest : ApprovalRequestRecord) : Harness Unit := do
  let chatId ← Prog.ofExcept (parseTelegramChatId ingress)
  let replyToMessageId ← Prog.ofExcept (parseTelegramReplyTarget ingress)
  let _ ← Prog.ask (Query.approvalPrompt chatId replyToMessageId approvalRequest)
    fun (answer : Except ErrorChain Int) => Prog.ofExcept answer
  pure ()

/-- The approval request for an action: the pending one with its fingerprint, or a new one. -/
def approvalRequestFor (config : RuntimeConfig) (trigger : ForegroundTrigger)
    (proposal : GovernedActionProposal) (record : GovernedActionExecutionRecord)
    (approvalTitle approvalConsequenceSummary : String) : Harness ApprovalRequestRecord := do
  let pending ← Approval.getPendingApprovalRequestByFingerprint record.actionFingerprint
  match pending with
  | some existing => pure existing
  | none => do
    let approvalRequestId ← newUuid
    let token ← newUuid
    let ttl ← expect "approval TTL exceeded i64 range" (toI64 config.approvals.defaultTtlSeconds)
    Approval.createApprovalRequest config
      { approvalRequestId := approvalRequestId
        traceId := trigger.traceId
        executionId := some trigger.executionId
        actionProposalId := record.actionProposalId
        actionFingerprint := record.actionFingerprint
        actionKind := record.actionKind
        riskTier := record.riskTier
        title := approvalTitle
        consequenceSummary := approvalConsequenceSummary
        capabilityScope := proposal.capabilityScope
        requestedBy := s!"telegram:{trigger.ingress.internalPrincipalRef}"
        token := toString token
        requestedAt := trigger.receivedAt
        expiresAt := trigger.receivedAt + seconds ttl }

/-- `route_governed_action_for_approval`. -/
def routeGovernedActionForApproval (config : RuntimeConfig) (trigger : ForegroundTrigger)
    (proposal : GovernedActionProposal) (record : GovernedActionExecutionRecord)
    (approvalTitle approvalConsequenceSummary : String) : Harness Unit := do
  let approvalRequest ← approvalRequestFor config trigger proposal record approvalTitle
    approvalConsequenceSummary
  let _ ← GovernedActions.attachApprovalRequest record.governedActionExecutionId
    approvalRequest.approvalRequestId
  let now ← utcNow
  let _ ← context "failed to route pending approval transition through recovery"
    (Recovery.recoverApprovalRequestTransition approvalRequest .pending now
      "approval_transition_pending")
  deliverTelegramApprovalPrompt trigger.ingress approvalRequest

/-! ## Processing proposals -/

/-- What the loop over the proposals carries along. -/
structure ProcessingState where
  tracker : ForegroundActionLoopTracker
  summary : GovernedActionProcessingSummary

/-- A blocked action was observed. -/
def ProcessingState.blocked (state : ProcessingState) (observation : GovernedActionObservation) :
    ProcessingState :=
  { state with
    summary :=
      { state.summary with
        blockedCount := state.summary.blockedCount + 1
        observations := state.summary.observations ++ [observation] } }

/-- An action was denied at the cap. -/
def ProcessingState.denied (state : ProcessingState) (observation : GovernedActionObservation) :
    ProcessingState :=
  { state.blocked observation with
    summary := { (state.blocked observation).summary with actionLimitReached := true } }

/-- An action waits for an approval. -/
def ProcessingState.routed (state : ProcessingState) : ProcessingState :=
  { state with
    summary :=
      { state.summary with
        pendingApprovalCount := state.summary.pendingApprovalCount + 1 } }

/-- An action was executed, or blocked by its execution. -/
def ProcessingState.executed (state : ProcessingState)
    (result : GovernedActionExecutionResult) : ProcessingState :=
  if result.outcome.status = .blocked then state.blocked result.observation
  else
    { tracker := state.tracker.recordExecutedAction
      summary :=
        { state.summary with
          executedCount := state.summary.executedCount + 1
          observations := state.summary.observations ++ [result.observation] } }

section Turns

variable [GovernedActionServices]

/-- The end of one turn of the loop: the action is routed for approval or executed. -/
def routeOrExecute (config : RuntimeConfig) (trigger : ForegroundTrigger)
    (proposal : GovernedActionProposal) (record : GovernedActionExecutionRecord)
    (requiresApproval : Bool) (approvalTitle approvalConsequenceSummary : String)
    (state : ProcessingState) : Harness ProcessingState :=
  if requiresApproval then do
    routeGovernedActionForApproval config trigger proposal record approvalTitle
      approvalConsequenceSummary
    pure state.routed
  else do
    let executed ← GovernedActions.executeGovernedAction config record
    Prog.emit (.actionReturned record.governedActionExecutionId executed.outcome.status)
    pure (state.executed executed)

/-- What the loop does with a planned action. -/
def processPlanned (config : RuntimeConfig) (trigger : ForegroundTrigger)
    (proposal : GovernedActionProposal) (planned : PlannedGovernedAction)
    (state : ProcessingState) : Harness ProcessingState :=
  let consequenceSummary := consequenceSummaryForProposal proposal
  if state.tracker.isAtCap config then
    match config.governedActions.capExceededBehavior with
    | .alwaysApprove => do
      GovernedActions.writeGovernedActionAuditEvent planned.record
        "governed_action_cap_auto_approved" "info"
        (foregroundActionLimitPayload config state.tracker)
      routeOrExecute config trigger proposal planned.record planned.requiresApproval
        proposal.title consequenceSummary state
    | .alwaysDeny => do
      let observation ← denyAtCap config state.tracker planned.record
      pure (state.denied observation)
    | .escalate => do
      escalateAtCap config state.tracker planned.record planned.requiresApproval
      routeOrExecute config trigger proposal planned.record true
        s!"Continue after action limit: {proposal.title}"
        s!"{foregroundActionLimitSummary config state.tracker}. {consequenceSummary}" state
  else
    routeOrExecute config trigger proposal planned.record planned.requiresApproval
      proposal.title consequenceSummary state

/-- One turn of the loop of `process_governed_action_proposals`. The action is planned
without an execution. -/
def processProposal (config : RuntimeConfig) (trigger : ForegroundTrigger)
    (state : ProcessingState) (proposal : GovernedActionProposal) : Harness ProcessingState := do
  let governedActionExecutionId ← newUuid
  let planning ← GovernedActions.planGovernedAction config
    { governedActionExecutionId := governedActionExecutionId
      traceId := trigger.traceId
      executionId := none
      proposal := proposal }
  match planning with
  | .blocked blocked => do
    let observationId ← newUuid
    pure (state.blocked
      { observationId := observationId
        actionKind := blocked.record.actionKind
        outcome := blocked.outcome })
  | .planned planned => processPlanned config trigger proposal planned state

/-- `process_governed_action_proposals`. -/
def processGovernedActionProposals (config : RuntimeConfig) (trigger : ForegroundTrigger)
    (tracker : ForegroundActionLoopTracker) (proposals : List GovernedActionProposal) :
    Harness ProcessingState :=
  Prog.foldlM (processProposal config trigger)
    { tracker := tracker, summary := { proposedCount := proposals.length } } proposals

/-! ## Conscious turns -/

/-- `FOREGROUND_WORKER_TIMEOUT_GRACE_MS`. -/
def foregroundWorkerTimeoutGraceMs : Nat := 5000

/-- `effective_foreground_worker_timeout_ms`. -/
def effectiveForegroundWorkerTimeoutMs (config : RuntimeConfig) : Nat :=
  min (config.harness.defaultWallClockBudgetMs + foregroundWorkerTimeoutGraceMs)
    18446744073709551615

/-- The lease of a conscious worker after its response. -/
def completeConsciousLease (workerLeaseId : Uuid) :
    Except ErrorChain (Option ConsciousWorkerResult) → Harness (Option ConsciousWorkerResult)
  | .ok response => do
    let heartbeatAt ← utcNow
    let _ ← context "failed to refresh foreground worker lease after worker response"
      (Recovery.refreshWorkerLeaseProgress workerLeaseId heartbeatAt)
    let releasedAt ← utcNow
    let _ ← context "failed to release foreground worker lease after success"
      (Recovery.releaseWorkerLease workerLeaseId releasedAt)
    pure response
  | .error error =>
    let errorMessage := formatErrorChain error
    if Text.contains errorMessage "timed out" then do
      let now ← utcNow
      let _ ← context
        s!"failed to route timed-out foreground worker lease through recovery: {errorMessage}"
        (Recovery.recoverObservedWorkerTimeout workerLeaseId now "foreground_worker_timeout"
          errorMessage)
      .fail error
    else do
      let releasedAt ← utcNow
      let _ ← context
        s!"failed to release foreground worker lease after worker failure: {errorMessage}"
        (Recovery.releaseWorkerLease workerLeaseId releasedAt)
      .fail error

/-- `launch_leased_conscious_worker`. -/
def launchLeasedConsciousWorker (trigger : ForegroundTrigger)
    (observations : List GovernedActionObservation) (timeoutMs : Nat) :
    Harness (Option ConsciousWorkerResult) := do
  let startedAt ← utcNow
  let timeout ← expect "foreground worker timeout exceeded chrono range" (toI64 timeoutMs)
  let workerLeaseId ← newUuid
  let leaseToken ← newUuid
  let workerLease ← Recovery.createWorkerLease
    { workerLeaseId := workerLeaseId
      traceId := trigger.traceId
      executionId := some trigger.executionId
      backgroundJobId := none
      backgroundJobRunId := none
      governedActionExecutionId := none
      workerKind := .foreground
      leaseToken := leaseToken
      workerPid := none
      leaseAcquiredAt := startedAt
      leaseExpiresAt := startedAt + milliseconds timeout
      lastHeartbeatAt := startedAt
      metadata := .obj
        [("source", .str "foreground_orchestration"),
         ("trigger_kind", .str trigger.triggerKind.asStr),
         ("ingress_id", .uuid trigger.ingress.ingressId)] }
  let response ← Prog.ask (Query.consciousWorker trigger.executionId observations timeoutMs)
    fun (answer : Except ErrorChain (Option ConsciousWorkerResult)) => Prog.ret answer
  completeConsciousLease workerLease.workerLeaseId response

/-- What a conscious turn ends with. -/
structure ConsciousTurnLoopOutcome where
  result : ConsciousWorkerResult
  summary : GovernedActionProcessingSummary

/-- One pass of a conscious turn: the worker answers, and its proposals are processed. -/
def consciousPass (config : RuntimeConfig) (trigger : ForegroundTrigger)
    (tracker : ForegroundActionLoopTracker) (observations : List GovernedActionObservation) :
    Harness (ConsciousWorkerResult × ProcessingState) := do
  Prog.emit .workerPassStarted
  Prog.emit (.workerRequested observations)
  let response ← launchLeasedConsciousWorker trigger observations
    (effectiveForegroundWorkerTimeoutMs config)
  let result ← expect "conscious follow-up worker returned a non-conscious result" response
  let round ← processGovernedActionProposals config trigger tracker result.governedActionProposals
  Prog.emit (.passObserved round.summary.observations)
  pure (result, round)

/-- The worker passes a turn may take. -/
def maxWorkerPasses (config : RuntimeConfig) : Nat :=
  min (config.governedActions.maxActionsPerForegroundTurn + 2) ForegroundActionLoopTracker.u32Max

/-- The loop of `execute_conscious_turn_with_governed_action_loop`. It has no bound of its own
in the source; `fuel` is one for the recursion. -/
def consciousTurnLoop (config : RuntimeConfig) (trigger : ForegroundTrigger) :
    (fuel workerPassCount : Nat) → ForegroundActionLoopTracker →
      GovernedActionProcessingSummary → Bool → List GovernedActionObservation →
      Harness ConsciousTurnLoopOutcome
  | 0, _, _, _, _, _ => bail "out of fuel"
  | fuel + 1, workerPassCount, tracker, summary, limitFollowUpConsumed, observations => do
    let workerPassCount := min (workerPassCount + 1) ForegroundActionLoopTracker.u32Max
    let (result, round) ← consciousPass config trigger tracker observations
    let summary := summary.merge round.summary
    if round.summary.observations ≠ [] ∧ round.summary.pendingApprovalCount = 0 ∧
        workerPassCount < maxWorkerPasses config ∧
        (!round.summary.actionLimitReached || !limitFollowUpConsumed) then
      consciousTurnLoop config trigger fuel workerPassCount round.tracker summary
        (limitFollowUpConsumed || round.summary.actionLimitReached) summary.observations
    else
      pure { result := result, summary := summary }

/-- `execute_conscious_turn_with_governed_action_loop`. -/
def executeConsciousTurn (config : RuntimeConfig) (trigger : ForegroundTrigger)
    (initialExecutedActionCount : Nat) (observations : List GovernedActionObservation) :
    Harness ConsciousTurnLoopOutcome :=
  consciousTurnLoop config trigger (maxWorkerPasses config) 0
    { executedActionCount := initialExecutedActionCount } {} false observations

end Turns

/-! ## Episodes -/

/-- `episode_trigger_metadata`. -/
def episodeTriggerMetadata : ForegroundTriggerKind → String × String
  | .userIngress => ("user_ingress", "telegram")
  | .scheduledTask => ("scheduled_task", "foreground_scheduler")
  | .approvedWakeSignal => ("approved_wake_signal", "wake_signal")
  | .supervisorRecoveryEvent => ("supervisor_recovery_event", "foreground_recovery")
  | .approvalResolutionEvent => ("approval_resolution_event", "approval_resolution")

/-- The episode that a trigger opens. -/
def episodeOf (trigger : ForegroundTrigger) (episodeId : Uuid) : NewEpisode where
  episodeId := episodeId
  traceId := trigger.traceId
  executionId := trigger.executionId
  ingressId := some trigger.ingress.ingressId
  internalPrincipalRef := trigger.ingress.internalPrincipalRef
  internalConversationRef := trigger.ingress.internalConversationRef
  triggerKind := (episodeTriggerMetadata trigger.triggerKind).1
  triggerSource := (episodeTriggerMetadata trigger.triggerKind).2
  status := "started"
  startedAt := trigger.receivedAt

/-! ## Failures -/

/-- The episode of a failed execution, if it has one. -/
def failEpisode (errorMessage : String) : Option Uuid → Harness Unit
  | some episodeId => Foreground.markEpisodeFailed episodeId "failed" errorMessage
  | none => pure ()

/-- `record_foreground_failure`. -/
def recordForegroundFailure (trigger : ForegroundTrigger) (episodeId : Option Uuid)
    (failureKind : ForegroundFailureKind) (errorMessage : String) : Harness Unit := do
  Execution.markFailed trigger.executionId
    (.obj [("kind", .str failureKind.asStr), ("message", .str errorMessage)])
  failEpisode errorMessage episodeId
  let _ ← Audit.insert
    { loopKind := "conscious"
      subsystem := "foreground_orchestration"
      eventKind := "foreground_execution_failed"
      severity := "error"
      traceId := trigger.traceId
      executionId := some trigger.executionId
      payload := .obj
        [("episode_id", .ofOption .uuid episodeId),
         ("failure_kind", .str failureKind.asStr),
         ("error", .str errorMessage)] }
  pure ()

/-- `record_and_return_approval_resolution_failure`. -/
def recordAndReturnApprovalResolutionFailure {α : Type} (trigger : ForegroundTrigger)
    (failureKind : ForegroundFailureKind) (error : ErrorChain) : Harness α := do
  let recorded ← (recordForegroundFailure trigger none failureKind
    (formatErrorChain error)).attempt
  match recorded with
  | .error recordError =>
    .fail (s!"failed to record approval-resolution execution failure: {errorText recordError}" :: error)
  | .ok _ => do
    let processed ← (Foreground.markIngressEventProcessed trigger.ingress.ingressId
      trigger.executionId).attempt
    match processed with
    | .error processError =>
      .fail (s!"failed to mark approval resolution ingress as processed: {errorText processError}" :: error)
    | .ok _ => .fail error

/-- A step whose error ends the resolution. -/
def orFail {α : Type} (trigger : ForegroundTrigger) (failureKind : ForegroundFailureKind)
    (step : Harness α) : Harness α := do
  let result ← step.attempt
  match result with
  | .ok value => pure value
  | .error error => recordAndReturnApprovalResolutionFailure trigger failureKind error

/-! ## Resolving an approval from Telegram -/

/-- The request with the token of the callback. -/
def approvalRequestOfToken (trigger : ForegroundTrigger)
    (parsed : ParsedApprovalResolutionIngress) : Harness ApprovalRequestRecord := do
  let found ← orFail trigger .persistenceFailure
    (Approval.getApprovalRequestByToken parsed.approvalToken)
  match found with
  | some request => pure request
  | none =>
    recordAndReturnApprovalResolutionFailure trigger .approvalResolutionFailure
      [s!"approval callback referenced unknown approval token '{parsed.approvalToken}'"]

/-- `approval_resolution_message`. -/
def approvalResolutionMessage (resolution : ApprovalResolutionResult) : String :=
  match resolution.event.decision with
  | .approved => s!"Approved: {resolution.request.title}"
  | .rejected => s!"Rejected: {resolution.request.title}"
  | .expired => "Approval request expired before it could be applied."
  | .invalidated =>
    "Approval request is no longer valid because the requested action changed."

/-- `approval_follow_up_delivery_text`. -/
def approvalFollowUpDeliveryText (modelText : String) : String :=
  let trimmed := Text.trim modelText
  if trimmed.isEmpty then "Approved action completed." else trimmed

/-- The audit event of a follow-up that failed; whether it can be written does not matter. -/
def noteFollowUpFailure (trigger : ForegroundTrigger) (payload : Json) : Harness Unit := do
  let _ ← (Audit.insert
    { loopKind := "conscious"
      subsystem := "foreground_orchestration"
      eventKind := "approval_follow_up_failed"
      severity := "warning"
      traceId := trigger.traceId
      executionId := some trigger.executionId
      payload := payload }).attempt
  pure ()

variable [GovernedActionServices]

/-- The execution of an action whose approval went through. -/
def executeIfApproved (config : RuntimeConfig) (decision : ApprovalResolutionDecision)
    (synced : GovernedActionExecutionRecord) : Harness (Option GovernedActionExecutionResult) :=
  if decision = .approved then do
    let executed ← GovernedActions.executeGovernedAction config synced
    pure (some executed)
  else pure none

/-- What a resolution does to the action that is linked to its request. -/
def settleLinkedAction (config : RuntimeConfig) (trigger : ForegroundTrigger)
    (resolution : ApprovalResolutionResult) : Harness (Option GovernedActionExecutionResult) := do
  let linked ← orFail trigger .persistenceFailure
    (GovernedActions.getGovernedActionExecutionByApprovalRequestId
      resolution.request.approvalRequestId)
  match linked with
  | none => pure none
  | some record => do
    let synced ← orFail trigger .persistenceFailure
      (GovernedActions.syncStatusFromApprovalResolution record.governedActionExecutionId
        resolution.event.decision (some trigger.executionId) resolution.event.reason)
    orFail trigger .workerProtocolFailure
      (executeIfApproved config resolution.event.decision synced)

/-- `approval_follow_up_episode_text`. -/
def approvalFollowUpEpisodeText (observations : List GovernedActionObservation)
    (modelText : String) : String :=
  let observationText :=
    if observations.isEmpty then
      "Harness governed-action observation: approved action completed."
    else
      let joined := " | ".intercalate (observations.map fun observation =>
        s!"{observation.actionKind.asStr}:{observation.outcome.summary}")
      s!"Harness governed-action observations: {joined}"
  let trimmed := Text.trim modelText
  if trimmed.isEmpty then observationText else s!"{trimmed}\n\n{observationText}"

/-- The turn that follows an executed action. -/
def followUpTurn (config : RuntimeConfig) (trigger : ForegroundTrigger) (followUpEpisodeId : Uuid)
    (chatId : Int) (replyToMessageId : Option Int) (executed : GovernedActionExecutionResult) :
    Harness Unit := do
  let _ ← assembleForegroundContext followUpEpisodeId
  let turn ← executeConsciousTurn config trigger 1 [executed.observation]
  let persistedText := approvalFollowUpEpisodeText turn.summary.observations
    turn.result.assistantText
  let followUpMessageId ← newUuid
  Foreground.insertEpisodeMessage
    { episodeMessageId := followUpMessageId
      episodeId := followUpEpisodeId
      traceId := trigger.traceId
      executionId := trigger.executionId
      messageOrder := 0
      messageRole := "assistant"
      channelKind := .telegram
      textBody := some persistedText
      externalMessageId := none }
  let _ ← applyCandidateProposals
  let outboundMessageId ← sendMessage chatId
    (approvalFollowUpDeliveryText turn.result.assistantText) replyToMessageId
  Foreground.updateEpisodeMessageExternalMessageId followUpMessageId (toString outboundMessageId)
  Foreground.markEpisodeCompleted followUpEpisodeId "completed"
    (String.ofList (persistedText.toList.take 120))

/-- What follows an executed action; its failure is noted and does not end the resolution. -/
def approvalFollowUp (config : RuntimeConfig) (trigger : ForegroundTrigger) (chatId : Int)
    (replyToMessageId : Option Int) (executed : GovernedActionExecutionResult) :
    Harness Unit := do
  let followUpEpisodeId ← newUuid
  let inserted ← (Foreground.insertEpisode (episodeOf trigger followUpEpisodeId)).attempt
  match inserted with
  | .error error =>
    noteFollowUpFailure trigger
      (.obj [("step", .str "insert_episode"), ("error", .str (formatErrorChain error))])
  | .ok _ => do
    let result ← (followUpTurn config trigger followUpEpisodeId chatId replyToMessageId
      executed).attempt
    match result with
    | .ok _ => pure ()
    | .error error => do
      let _ ← (Foreground.markEpisodeFailed followUpEpisodeId "follow_up_failed"
        (formatErrorChain error)).attempt
      noteFollowUpFailure trigger
        (.obj
          [("follow_up_episode_id", .uuid followUpEpisodeId),
           ("error", .str (formatErrorChain error))])

/-- The follow-up of a resolution that executed an action. -/
def followUpIfExecuted (config : RuntimeConfig) (trigger : ForegroundTrigger) (chatId : Int)
    (replyToMessageId : Option Int) : Option GovernedActionExecutionResult → Harness Unit
  | none => pure ()
  | some executed => approvalFollowUp config trigger chatId replyToMessageId executed

/-- The end of a resolution: the execution, the ingress event and the audit log are
completed. -/
def completeResolution (trigger : ForegroundTrigger) (parsed : ParsedApprovalResolutionIngress)
    (resolution : ApprovalResolutionResult) (executed : Option GovernedActionExecutionResult)
    (outboundMessageId : Int) : Harness Unit := do
  orFail trigger .persistenceFailure
    (Execution.markSucceeded trigger.executionId "approval_resolution" 0
      (.obj
        [("kind", .str "approval_resolution"),
         ("approval_request_id", .uuid resolution.request.approvalRequestId),
         ("decision", .str resolution.event.decision.asStr),
         ("resolved_by", .str resolution.event.resolvedBy),
         ("resolved_at", .time resolution.event.resolvedAt),
         ("governed_action_execution_id", .ofOption
           (fun result : GovernedActionExecutionResult =>
             .uuid result.record.governedActionExecutionId) executed),
         ("governed_action_status", .ofOption
           (fun result : GovernedActionExecutionResult => .str result.outcome.status.asStr)
           executed),
         ("governed_action_summary", .ofOption
           (fun result : GovernedActionExecutionResult => .str result.outcome.summary) executed),
         ("outbound_message_id", .int outboundMessageId),
         ("resolution_source", .str parsed.resolutionSource)]))
  orFail trigger .persistenceFailure
    (Foreground.markIngressEventProcessed trigger.ingress.ingressId trigger.executionId)
  let _ ← orFail trigger .persistenceFailure (Audit.insert
    { loopKind := "conscious"
      subsystem := "foreground_orchestration"
      eventKind := "approval_resolution_resolved"
      severity := "info"
      traceId := trigger.traceId
      executionId := some trigger.executionId
      payload := .obj
        [("ingress_id", .uuid trigger.ingress.ingressId),
         ("approval_request_id", .uuid resolution.request.approvalRequestId),
         ("decision", .str resolution.event.decision.asStr),
         ("outbound_message_id", .int outboundMessageId),
         ("resolution_source", .str parsed.resolutionSource)] })
  pure ()

/-- The attempt a callback makes. -/
def telegramAttempt (trigger : ForegroundTrigger) (parsed : ParsedApprovalResolutionIngress)
    (request : ApprovalRequestRecord) : ApprovalResolutionAttempt where
  token := parsed.approvalToken
  actorRef := s!"telegram:{trigger.ingress.internalPrincipalRef}"
  expectedActionFingerprint := parsed.expectedActionFingerprint.getD request.actionFingerprint
  decision := parsed.decision
  reason := some parsed.resolutionSource
  resolvedAt := trigger.receivedAt

/-- `orchestrate_telegram_approval_resolution_trigger`. -/
def orchestrateTelegramApprovalResolutionTrigger (config : RuntimeConfig)
    (trigger : ForegroundTrigger) (parsed : ParsedApprovalResolutionIngress) :
    Harness TelegramApprovalResolutionCompletion := do
  let request ← approvalRequestOfToken trigger parsed
  let resolution ← orFail trigger .approvalResolutionFailure
    (Approval.resolveApprovalRequest (telegramAttempt trigger parsed request))
  let chatId ← orFail trigger .telegramDeliveryFailure
    (Prog.ofExcept (parseTelegramChatId trigger.ingress))
  let replyToMessageId ← orFail trigger .telegramDeliveryFailure
    (Prog.ofExcept (parseTelegramReplyTarget trigger.ingress))
  let executed ← settleLinkedAction config trigger resolution
  let outboundMessageId ← orFail trigger .telegramDeliveryFailure
    (sendMessage chatId (approvalResolutionMessage resolution) replyToMessageId)
  followUpIfExecuted config trigger chatId replyToMessageId executed
  completeResolution trigger parsed resolution executed outboundMessageId
  pure
    { traceId := trigger.traceId
      executionId := trigger.executionId
      ingressId := trigger.ingress.ingressId
      approvalRequestId := resolution.request.approvalRequestId
      decision := resolution.event.decision
      outboundMessageId := outboundMessageId }

end Orchestration

/-! ## Resolving an approval from the command line -/

structure ResolveApprovalRequest where
  approvalRequestId : Uuid
  actorRef : Option String
  decision : ApprovalResolutionDecision
  reason : Option String

structure ApprovalResolutionSummary where
  approvalRequest : ApprovalRequestRecord
  governedAction : Option GovernedActionExecutionRecord

namespace Management

/-- `default_cli_actor_ref`. -/
def defaultCliActorRef (requestedBy : String) : String :=
  match Text.splitOnce ':' requestedBy with
  | some (_, principal) => if Text.isBlank principal then "cli:operator" else s!"cli:{principal}"
  | none => "cli:operator"

/-- The attempt the operator makes. -/
def managementAttempt (request : ResolveApprovalRequest) (approvalRequest : ApprovalRequestRecord)
    (resolvedAt : DateTime) : ApprovalResolutionAttempt where
  token := approvalRequest.token
  actorRef := request.actorRef.getD (defaultCliActorRef approvalRequest.requestedBy)
  expectedActionFingerprint := approvalRequest.actionFingerprint
  decision := request.decision
  reason := request.reason
  resolvedAt := resolvedAt

variable [GovernedActionServices]

/-- What a resolution does to the action that is linked to its request. The action is given
the execution of the request. -/
def settleLinkedAction (config : RuntimeConfig) (resolution : ApprovalResolutionResult) :
    Harness (Option GovernedActionExecutionRecord) := do
  let linked ← GovernedActions.getGovernedActionExecutionByApprovalRequestId
    resolution.request.approvalRequestId
  match linked with
  | none => pure none
  | some record => do
    let synced ← GovernedActions.syncStatusFromApprovalResolution
      record.governedActionExecutionId resolution.event.decision resolution.request.executionId
      resolution.event.reason
    let executed ← Orchestration.executeIfApproved config resolution.event.decision synced
    pure (some ((executed.map (·.record)).getD synced))

/-- `resolve_approval_request`. -/
def resolveApprovalRequest (config : RuntimeConfig) (request : ResolveApprovalRequest) :
    Harness ApprovalResolutionSummary := do
  if ¬ config.approvals.allowCliResolution then
    bail "CLI approval resolution is disabled by configuration"
  else
    elsewhere "verify_schema"
    let approvalRequest ← Approval.getApprovalRequest request.approvalRequestId
    let resolvedAt ← utcNow
    let resolution ← Approval.resolveApprovalRequest
      (managementAttempt request approvalRequest resolvedAt)
    let governedAction ← settleLinkedAction config resolution
    pure { approvalRequest := resolution.request, governedAction := governedAction }

end Management

end BlueLagoon
