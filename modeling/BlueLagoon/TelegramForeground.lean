import BlueLagoon.Intake
import BlueLagoon.Orchestration

/-!
# Telegram foreground executions

An ingress from Telegram is taken in and answered at once, or answered later as part of the
plan of an execution. The reply to an approval prompt resolves the approval; everything else
opens an episode, and a conscious turn answers it.
-/

namespace BlueLagoon

open Interleaving Harness

structure UserEpisodeMessage where
  textBody : String
  externalMessageId : Option String
  deriving DecidableEq, Repr

structure ForegroundRecoveryContext where
  mode : ForegroundExecutionMode := .singleIngress
  orderedIngress : List OrderedIngressReference := []

structure TelegramForegroundPlanExecution where
  traceId : Uuid
  executionId : Uuid
  triggerKindOverride : Option ForegroundTriggerKind
  plan : PendingForegroundExecutionPlan

structure TelegramForegroundCompletion where
  traceId : Uuid
  executionId : Uuid
  episodeId : Uuid
  ingressId : Uuid
  outboundMessageId : Int

inductive TelegramForegroundOrchestrationOutcome
  | completed (completion : TelegramForegroundCompletion)
  | approvalResolved (completion : TelegramApprovalResolutionCompletion)
  | duplicate (duplicate : DuplicateForegroundTrigger)
  | rejected (rejected : RejectedForegroundTrigger)

structure ForegroundFailureContext where
  trigger : ForegroundTrigger
  episodeId : Option Uuid
  terminalIngressIds : List Uuid

structure ForegroundFailureDeliveryTarget where
  chatId : Int
  replyToMessageId : Option Int

namespace Orchestration

/-! ## Replies to approval prompts -/

/-- `parse_approval_callback_decision`. -/
def parseApprovalCallbackDecision (decision : String) :
    Except ErrorChain ApprovalResolutionDecision :=
  let trimmed := Text.trim decision
  if trimmed = "approve" ∨ trimmed = "approved" then .ok .approved
  else if trimmed = "reject" ∨ trimmed = "rejected" then .ok .rejected
  else .error [s!"approval callback decision '{trimmed}' is unsupported"]

/-- The `decision|token|fingerprint` form of callback data. -/
def splitCallbackData (callbackData : String) : Option (String × String × String) :=
  (Text.splitOnce '|' callbackData).bind fun (decision, remainder) =>
    (Text.splitOnce '|' remainder).map fun (token, fingerprint) => (decision, token, fingerprint)

/-- `parse_approval_callback_ingress`. -/
def parseApprovalCallbackIngress (ingress : NormalizedIngress) :
    Except ErrorChain ParsedApprovalResolutionIngress :=
  match ingress.approvalPayload with
  | none => .error ["approval callback ingress is missing approval payload metadata"]
  | some payload =>
    match payload.callbackData with
    | none => .error ["approval callback ingress is missing callback data"]
    | some callbackData =>
      match splitCallbackData callbackData with
      | some (decision, token, fingerprint) =>
        (parseApprovalCallbackDecision decision).map fun decision =>
          { approvalToken := Text.trim token
            decision := decision
            expectedActionFingerprint := some { value := Text.trim fingerprint }
            resolutionSource := s!"telegram callback {payload.token}" }
      | none =>
        match Text.splitOnce ':' callbackData with
        | some (decision, token) =>
          (parseApprovalCallbackDecision decision).map fun decision =>
            { approvalToken := Text.trim token
              decision := decision
              expectedActionFingerprint := none
              resolutionSource := s!"telegram callback {payload.token}" }
        | none => .error [s!"approval callback data '{callbackData}' is malformed"]

/-- The token of `/approve` or `/reject`. -/
def parseApprovalCommand (hint : CommandHint) :
    Except ErrorChain ParsedApprovalResolutionIngress :=
  match hint.args with
  | [arg] =>
    let token := Text.trim arg
    if token.isEmpty then
      .error [s!"approval fallback command '/{hint.command}' requires a non-empty token argument"]
    else
      (parseApprovalCallbackDecision hint.command).map fun decision =>
        { approvalToken := token
          decision := decision
          expectedActionFingerprint := none
          resolutionSource := s!"telegram command /{hint.command} {token}" }
  | _ =>
    .error [s!"approval fallback command '/{hint.command}' requires exactly one token argument"]

/-- `parse_approval_resolution_ingress`. -/
def parseApprovalResolutionIngress (ingress : NormalizedIngress) :
    Except ErrorChain (Option ParsedApprovalResolutionIngress) :=
  if ingress.eventKind = .approvalCallback then
    (parseApprovalCallbackIngress ingress).map some
  else
    match ingress.commandHint with
    | none => .ok none
    | some hint =>
      if hint.command = "approve" ∨ hint.command = "reject" then
        (parseApprovalCommand hint).map some
      else .ok none

/-! ## Failures of an execution -/

/-- `record_and_return_failure`. -/
def recordAndReturnFailure {α : Type} (trigger : ForegroundTrigger) (episodeId : Option Uuid)
    (failureKind : ForegroundFailureKind) (error : ErrorChain) : Harness α := do
  let recorded ← (recordForegroundFailure trigger episodeId failureKind
    (formatErrorChain error)).attempt
  match recorded with
  | .error recordError =>
    .fail (s!"failed to record foreground execution failure: {errorText recordError}" :: error)
  | .ok _ => .fail error

/-- A step whose error is recorded and ends the execution. -/
def orRecordFailure {α : Type} (trigger : ForegroundTrigger) (episodeId : Option Uuid)
    (failureKind : ForegroundFailureKind) (step : Harness α) : Harness α := do
  let result ← step.attempt
  match result with
  | .ok value => pure value
  | .error error => recordAndReturnFailure trigger episodeId failureKind error

/-- `foreground_failure_notice_text`. -/
def foregroundFailureNoticeText (traceId : Uuid) (failureKind : ForegroundFailureKind) : String :=
  match failureKind with
  | .malformedActionProposal =>
    s!"I couldn't complete that because the assistant failed to produce a valid governed-action proposal for the required task. Trace: {traceId}. Failure kind: {failureKind.asStr}. Send the request again; if it repeats, inspect the trace with `admin trace explain --trace-id {traceId}`."
  | .workerProtocolFailure =>
    s!"I couldn't complete that because the worker protocol failed while processing the request. Trace: {traceId}. Failure kind: {failureKind.asStr}. Inspect the trace with `admin trace explain --trace-id {traceId}` before retrying."
  | .scheduledForegroundValidationFailure =>
    s!"I couldn't complete that because the scheduled foreground action was invalid. Trace: {traceId}. Failure kind: {failureKind.asStr}. Inspect the trace with `admin trace explain --trace-id {traceId}` before retrying."
  | _ =>
    s!"I hit an internal runtime error while processing that message. Trace: {traceId}. Failure kind: {failureKind.asStr}. Send another message to continue."

/-- `classify_conscious_worker_failure`. -/
def classifyConsciousWorkerFailure (error : ErrorChain) : ForegroundFailureKind :=
  let message := formatErrorChain error
  let mentions := fun patterns : List String => patterns.any (Text.contains message)
  if mentions ["provider returned status"] then .providerRejected
  else if mentions ["scheduled foreground cadence_seconds", "scheduled foreground task key",
      "scheduled foreground message_text"] then .scheduledForegroundValidationFailure
  else if mentions ["violates check constraint", "failed to insert governed action execution",
      "failed to insert scheduled foreground task",
      "failed to update scheduled foreground task"] then .persistenceFailure
  else if mentions ["model gateway transport failed", "error sending request for url",
      "failed to decode provider HTTP response body"] then .modelGatewayTransportFailure
  else if mentions ["invalid governed-action proposal block",
      "attempted a governed action without the required governed-action block",
      "returned a likely governed-action payload outside the required governed-action block",
      "governed-action control block marker was present but the block was malformed or incomplete"]
      then .malformedActionProposal
  else .workerProtocolFailure

/-- `persist_foreground_failure_notice`. -/
def persistForegroundFailureNotice (context : ForegroundFailureContext) (noticeText : String) :
    Harness (Option Uuid) :=
  match context.episodeId with
  | none => pure none
  | some episodeId => do
    let messageOrder ← fetch "failed to allocate foreground failure notice message order" fun db =>
      (((db.episodeMessages.filter fun row => row.episodeId = episodeId).map fun row =>
        row.messageOrder + 1).foldr max 0)
    let episodeMessageId ← newUuid
    Harness.context "failed to persist foreground failure notice episode message"
      (Foreground.insertEpisodeMessage
        { episodeMessageId := episodeMessageId
          episodeId := episodeId
          traceId := context.trigger.traceId
          executionId := context.trigger.executionId
          messageOrder := messageOrder
          messageRole := "assistant"
          channelKind := .telegram
          textBody := some noticeText
          externalMessageId := none })
    pure (some episodeMessageId)

/-- `deliver_foreground_failure_notice`: a notice that cannot be delivered is let go. -/
def deliverForegroundFailureNotice (target : ForegroundFailureDeliveryTarget)
    (noticeText : String) : Harness (Option Int) := do
  let sent ← (sendMessage target.chatId noticeText target.replyToMessageId).attempt
  match sent with
  | .ok messageId => pure (some messageId)
  | .error _ => pure none

/-- `mark_terminal_failure_ingress_processed`. -/
def markTerminalFailureIngressProcessed (context : ForegroundFailureContext) : Harness Unit :=
  Harness.context "failed to close terminally failed foreground ingress"
    (Foreground.markIngressEventsProcessed context.terminalIngressIds
      context.trigger.executionId)

/-- The notice that was persisted gets the identifier it was delivered under. -/
def attachDeliveredNotice : Option Uuid → Option Int → Harness Unit
  | some episodeMessageId, some outboundMessageId =>
    Harness.context "failed to attach delivered failure notice id to episode message"
      (Foreground.updateEpisodeMessageExternalMessageId episodeMessageId
        (toString outboundMessageId))
  | _, _ => pure ()

/-- `record_and_deliver_foreground_failure`. -/
def recordAndDeliverForegroundFailure (context : ForegroundFailureContext)
    (failureKind : ForegroundFailureKind) (errorMessage : String)
    (target : ForegroundFailureDeliveryTarget) : Harness Unit := do
  let noticeText := foregroundFailureNoticeText context.trigger.traceId failureKind
  let recorded ← (recordForegroundFailure context.trigger context.episodeId failureKind
    errorMessage).attempt
  match recorded with
  | .error recordError => do
    let _ ← deliverForegroundFailureNotice target noticeText
    .fail recordError
  | .ok _ => do
    let persisted ← (persistForegroundFailureNotice context noticeText).attempt
    let receipt ← deliverForegroundFailureNotice target noticeText
    let closed ← (markTerminalFailureIngressProcessed context).attempt
    let persistedMessageId ← Prog.ofExcept persisted
    attachDeliveredNotice persistedMessageId receipt
    Prog.ofExcept closed

/-- `record_deliver_and_return_failure`. -/
def recordDeliverAndReturnFailure {α : Type} (context : ForegroundFailureContext)
    (failureKind : ForegroundFailureKind) (target : ForegroundFailureDeliveryTarget)
    (error : ErrorChain) : Harness α := do
  let recorded ← (recordAndDeliverForegroundFailure context failureKind (formatErrorChain error)
    target).attempt
  match recorded with
  | .error recordError =>
    .fail (s!"failed to record foreground execution failure: {errorText recordError}" :: error)
  | .ok _ => .fail error

/-- A step whose error is recorded, told to the user and ends the execution. -/
def orDeliverFailure {α : Type} (context : ForegroundFailureContext)
    (failureKind : ForegroundFailureKind) (target : ForegroundFailureDeliveryTarget)
    (step : Harness α) : Harness α := do
  let result ← step.attempt
  match result with
  | .ok value => pure value
  | .error error => recordDeliverAndReturnFailure context failureKind target error

/-! ## Executions -/

/-- `build_trigger_user_messages`: only what a user, a schedule or a recovery sends is kept as
the user's words. -/
def buildTriggerUserMessages (triggerKind : ForegroundTriggerKind)
    (candidateMessages : List UserEpisodeMessage) : List UserEpisodeMessage :=
  match triggerKind with
  | .userIngress | .scheduledTask | .supervisorRecoveryEvent => candidateMessages
  | .approvedWakeSignal | .approvalResolutionEvent => []

/-- `terminal_failure_ingress_ids`, and the events that a completed execution has processed:
those of the plan, or the event of the trigger. -/
def coveredIngressIds (trigger : ForegroundTrigger) (context : ForegroundRecoveryContext) :
    List Uuid :=
  if context.orderedIngress.isEmpty then [trigger.ingress.ingressId]
  else context.orderedIngress.map OrderedIngressReference.ingressId

/-- `foreground_failure_context`. -/
def foregroundFailureContext (trigger : ForegroundTrigger)
    (recoveryContext : ForegroundRecoveryContext) (episodeId : Uuid) :
    ForegroundFailureContext where
  trigger := trigger
  episodeId := some episodeId
  terminalIngressIds := coveredIngressIds trigger recoveryContext

/-- The user's message at an index of an episode. -/
def userEpisodeMessage (trigger : ForegroundTrigger) (episodeId episodeMessageId : Uuid)
    (index : Nat) (message : UserEpisodeMessage) : NewEpisodeMessage where
  episodeMessageId := episodeMessageId
  episodeId := episodeId
  traceId := trigger.traceId
  executionId := trigger.executionId
  messageOrder := index
  messageRole := "user"
  channelKind := trigger.ingress.channelKind
  textBody := some message.textBody
  externalMessageId := message.externalMessageId

/-- One turn of the loop over the user's messages. -/
def insertUserMessage (trigger : ForegroundTrigger) (episodeId : Uuid)
    (entry : UserEpisodeMessage × Nat) : Harness Unit := do
  let episodeMessageId ← newUuid
  orRecordFailure trigger (some episodeId) .persistenceFailure
    (Foreground.insertEpisodeMessage
      (userEpisodeMessage trigger episodeId episodeMessageId entry.2 entry.1))

/-- The user's messages, in order. -/
def insertUserMessages (trigger : ForegroundTrigger) (episodeId : Uuid)
    (userMessages : List UserEpisodeMessage) : Harness Unit :=
  Prog.foldlM (fun _ entry => insertUserMessage trigger episodeId entry) () userMessages.zipIdx

/-- The start of an execution: its episode, with the user's messages. -/
def openEpisode (trigger : ForegroundTrigger) (episodeId : Uuid)
    (userMessages : List UserEpisodeMessage) : Harness Unit := do
  let metadata := episodeTriggerMetadata trigger.triggerKind
  orRecordFailure trigger none .persistenceFailure
    (Foreground.insertEpisode (episodeOf trigger episodeId))
  let _ ← orRecordFailure trigger (some episodeId) .persistenceFailure (CausalLinks.insert
    { traceId := trigger.traceId
      sourceKind := "execution_record"
      sourceId := trigger.executionId
      targetKind := "episode"
      targetId := episodeId
      edgeKind := "opened_episode"
      payload := .obj
        [("ingress_id", .uuid trigger.ingress.ingressId),
         ("trigger_kind", .str metadata.1),
         ("trigger_source", .str metadata.2)] })
  insertUserMessages trigger episodeId userMessages

/-- `foreground_assistant_delivery_text`. -/
def foregroundAssistantDeliveryText (modelText : String)
    (summary : GovernedActionProcessingSummary) (identityFallback : Option String) : String :=
  let trimmed := Text.trim modelText
  let blockedObservation := summary.observations.reverse.find? fun observation =>
    observation.outcome.status = .blocked
  if !trimmed.isEmpty then trimmed
  else if summary.pendingApprovalCount > 0 then
    if summary.pendingApprovalCount = 1 then
      "Approval requested. Use the approval prompt above to continue."
    else
      s!"{summary.pendingApprovalCount} approvals requested. Use the approval prompts above to continue."
  else
    match blockedObservation with
    | some observation => observation.outcome.summary
    | none => identityFallback.getD "No assistant response was generated."

section Turns

variable [GovernedActionServices]

/-- The assembled context and the turn that answers in it. -/
def answerInContext (config : RuntimeConfig) (trigger : ForegroundTrigger)
    (failure : ForegroundFailureContext) (target : ForegroundFailureDeliveryTarget)
    (episodeId : Uuid) : Harness ConsciousTurnLoopOutcome := do
  let metadata ← orDeliverFailure failure .contextAssemblyFailure target
    (assembleForegroundContext episodeId)
  let _ ← orDeliverFailure failure .persistenceFailure target (Audit.insert
    { loopKind := "conscious"
      subsystem := "foreground_orchestration"
      eventKind := "foreground_context_assembled"
      severity := "info"
      traceId := trigger.traceId
      executionId := some trigger.executionId
      payload := metadata })
  let turn ← (executeConsciousTurn config trigger 0 []).attempt
  match turn with
  | .ok turn => pure turn
  | .error error => do
    recordAndDeliverForegroundFailure failure (classifyConsciousWorkerFailure error)
      (formatErrorChain error) target
    .fail error

end Turns

/-- The assistant's answer is kept and sent. -/
def deliverAnswer (trigger : ForegroundTrigger) (failure : ForegroundFailureContext)
    (target : ForegroundFailureDeliveryTarget) (episodeId : Uuid) (messageOrder : Nat)
    (assistantText : String) : Harness Int := do
  let assistantEpisodeMessageId ← newUuid
  orDeliverFailure failure .persistenceFailure target (Foreground.insertEpisodeMessage
    { episodeMessageId := assistantEpisodeMessageId
      episodeId := episodeId
      traceId := trigger.traceId
      executionId := trigger.executionId
      messageOrder := messageOrder
      messageRole := "assistant"
      channelKind := .telegram
      textBody := some assistantText
      externalMessageId := none })
  let sent ← (sendMessage target.chatId assistantText target.replyToMessageId).attempt
  match sent with
  | .error error => do
    recordForegroundFailure trigger (some episodeId) .telegramDeliveryFailure
      (formatErrorChain error)
    .fail error
  | .ok messageId => do
    orDeliverFailure failure .persistenceFailure target
      (Foreground.updateEpisodeMessageExternalMessageId assistantEpisodeMessageId
        (toString messageId))
    pure messageId

/-- The summary that a completed episode keeps. -/
def completedEpisodeSummary (turn : ConsciousTurnLoopOutcome)
    (proposals : ProposalProcessingSummary) : String :=
  s!"{turn.result.episodeSummary} | proposals evaluated={proposals.evaluatedCount}, accepted={proposals.acceptedCount}, rejected={proposals.rejectedCount}, canonical_writes={proposals.canonicalWriteCount} | governed_actions proposed={turn.summary.proposedCount}, executed={turn.summary.executedCount}, blocked={turn.summary.blockedCount}, pending_approvals={turn.summary.pendingApprovalCount}"

/-- The end of an execution: its record, its episode, its ingress events and the audit log
are completed. -/
def completeExecution (trigger : ForegroundTrigger) (recoveryContext : ForegroundRecoveryContext)
    (failure : ForegroundFailureContext) (target : ForegroundFailureDeliveryTarget)
    (episodeId : Uuid) (turn : ConsciousTurnLoopOutcome) (proposals : ProposalProcessingSummary)
    (outboundMessageId : Int) : Harness Unit := do
  let processedIngressIds := coveredIngressIds trigger recoveryContext
  orDeliverFailure failure .persistenceFailure target
    (Execution.markSucceeded trigger.executionId "conscious" turn.result.workerPid
      turn.result.responsePayload)
  orDeliverFailure failure .persistenceFailure target
    (Foreground.markEpisodeCompleted episodeId turn.result.episodeOutcome
      (completedEpisodeSummary turn proposals))
  orDeliverFailure failure .persistenceFailure target
    (Foreground.markIngressEventsProcessed processedIngressIds trigger.executionId)
  let _ ← orDeliverFailure failure .persistenceFailure target (Audit.insert
    { loopKind := "conscious"
      subsystem := "foreground_orchestration"
      eventKind := "foreground_execution_completed"
      severity := "info"
      traceId := trigger.traceId
      executionId := some trigger.executionId
      payload := .obj
        [("episode_id", .uuid episodeId),
         ("ingress_id", .uuid trigger.ingress.ingressId),
         ("processed_ingress_ids", .arr (processedIngressIds.map .uuid)),
         ("outbound_message_id", .int outboundMessageId),
         ("assistant_summary", .str turn.result.episodeSummary),
         ("governed_action_summary", .obj
           [("proposed", .int turn.summary.proposedCount),
            ("executed", .int turn.summary.executedCount),
            ("blocked", .int turn.summary.blockedCount),
            ("pending_approvals", .int turn.summary.pendingApprovalCount)]),
         ("proposal_summary", .obj
           [("evaluated", .int proposals.evaluatedCount),
            ("accepted", .int proposals.acceptedCount),
            ("rejected", .int proposals.rejectedCount),
            ("canonical_writes", .int proposals.canonicalWriteCount)])] })
  pure ()

variable [GovernedActionServices]

/-- `orchestrate_telegram_foreground_trigger`. -/
def orchestrateTelegramForegroundTrigger (config : RuntimeConfig) (trigger : ForegroundTrigger)
    (recoveryContext : ForegroundRecoveryContext) (userMessages : List UserEpisodeMessage) :
    Harness TelegramForegroundCompletion := do
  let episodeId ← newUuid
  openEpisode trigger episodeId userMessages
  let chatId ← orRecordFailure trigger (some episodeId) .telegramDeliveryFailure
    (Prog.ofExcept (parseTelegramChatId trigger.ingress))
  let replyToMessageId ← orRecordFailure trigger (some episodeId) .telegramDeliveryFailure
    (Prog.ofExcept (parseTelegramReplyTarget trigger.ingress))
  let failure := foregroundFailureContext trigger recoveryContext episodeId
  let target : ForegroundFailureDeliveryTarget :=
    { chatId := chatId, replyToMessageId := replyToMessageId }
  let turn ← answerInContext config trigger failure target episodeId
  let fallback ← identityFallback
  let outboundMessageId ← deliverAnswer trigger failure target episodeId userMessages.length
    (foregroundAssistantDeliveryText turn.result.assistantText turn.summary fallback)
  let proposals ← orDeliverFailure failure .persistenceFailure target applyCandidateProposals
  completeExecution trigger recoveryContext failure target episodeId turn proposals
    outboundMessageId
  pure
    { traceId := trigger.traceId
      executionId := trigger.executionId
      episodeId := episodeId
      ingressId := trigger.ingress.ingressId
      outboundMessageId := outboundMessageId }

/-- What both entry points do with a trigger: a reply to an approval prompt resolves the
approval, anything else is executed. -/
def orchestrateTrigger (config : RuntimeConfig) (trigger : ForegroundTrigger)
    (recoveryContext : ForegroundRecoveryContext) (candidateMessages : List UserEpisodeMessage) :
    Harness TelegramForegroundOrchestrationOutcome := do
  let parsed ← Prog.ofExcept (parseApprovalResolutionIngress trigger.ingress)
  match parsed with
  | some parsed => do
    let completion ← orchestrateTelegramApprovalResolutionTrigger config trigger parsed
    pure (.approvalResolved completion)
  | none => do
    let completion ← orchestrateTelegramForegroundTrigger config trigger recoveryContext
      (buildTriggerUserMessages trigger.triggerKind candidateMessages)
    pure (.completed completion)

/-- `orchestrate_telegram_foreground_ingress`. -/
def orchestrateTelegramForegroundIngress (config : RuntimeConfig)
    (telegramConfig : ResolvedTelegramConfig) (ingress : NormalizedIngress) :
    Harness TelegramForegroundOrchestrationOutcome := do
  let intake ← Foreground.intakeTelegramForegroundTrigger config telegramConfig ingress
  match intake with
  | .duplicate duplicate => pure (.duplicate duplicate)
  | .rejected rejected => pure (.rejected rejected)
  | .accepted trigger =>
    orchestrateTrigger config trigger {}
      (trigger.ingress.textBody.toList.map fun textBody =>
        { textBody := textBody, externalMessageId := trigger.ingress.externalMessageId })

/-- The trigger of a planned execution. -/
def planTrigger (config : RuntimeConfig) (execution : TelegramForegroundPlanExecution) :
    Harness ForegroundTrigger := do
  let primaryIngress ← Foreground.loadNormalizedIngress execution.plan.primaryIngress.ingressId
  match execution.triggerKindOverride with
  | some triggerKind =>
    Foreground.buildForegroundTriggerWithKind config execution.traceId execution.executionId
      triggerKind primaryIngress
  | none =>
    Foreground.buildForegroundTrigger config execution.traceId execution.executionId
      primaryIngress

/-- The texts of the events of a plan. -/
def planMessages (plan : PendingForegroundExecutionPlan) : List UserEpisodeMessage :=
  plan.orderedIngress.filterMap fun ingress =>
    ingress.textBody.map fun textBody =>
      { textBody := textBody, externalMessageId := ingress.externalMessageId }

/-- `orchestrate_telegram_foreground_plan`. -/
def orchestrateTelegramForegroundPlan (config : RuntimeConfig)
    (execution : TelegramForegroundPlanExecution) :
    Harness TelegramForegroundOrchestrationOutcome := do
  let trigger ← planTrigger config execution
  orchestrateTrigger config trigger
    { mode := execution.plan.mode, orderedIngress := execution.plan.orderedIngress }
    (planMessages execution.plan)

end Orchestration

end BlueLagoon
