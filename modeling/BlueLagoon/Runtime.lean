import BlueLagoon.Recovery.Triggers
import BlueLagoon.TelegramForeground
import BlueLagoon.TelegramIngress

/-!
# Processing Telegram updates

The updates of a batch are taken in one after the other: messages are staged, the reply to an
approval prompt is answered on the spot. Then each conversation with something staged, or left
behind by an earlier process, gets an execution of its own: its record is inserted, the events
it takes on are planned, what ran before is inspected, and the plan is orchestrated.
-/

namespace BlueLagoon

open Interleaving Harness

structure TelegramProcessingSummary where
  fetchedUpdates : Nat := 0
  completedCount : Nat := 0
  backlogRecoveryCount : Nat := 0
  duplicateCount : Nat := 0
  triggerRejectedCount : Nat := 0
  normalizationRejectedCount : Nat := 0
  ignoredCount : Nat := 0
  deriving DecidableEq, Repr

structure TelegramProcessingContext where
  config : RuntimeConfig
  telegramConfig : ResolvedTelegramConfig
  rawPayloadRef : Option String

structure BlockedTelegramForegroundRecovery where
  chatId : Int
  traceId : Uuid
  executionId : Uuid
  primaryIngress : IngressEventRecord
  selectedIngressIds : List Uuid
  outcome : RecoveryTriggerOutcome

/-- What the loop over the updates has collected. -/
structure TelegramIntakeProgress where
  summary : TelegramProcessingSummary := {}
  stagedConversations : List String := []
  newlyStagedConversations : List String := []

namespace TelegramProcessingSummary

/-- The outcome of an orchestration is counted. -/
def count (summary : TelegramProcessingSummary) :
    TelegramForegroundOrchestrationOutcome → TelegramProcessingSummary
  | .completed _ | .approvalResolved _ =>
    { summary with completedCount := summary.completedCount + 1 }
  | .duplicate _ => { summary with duplicateCount := summary.duplicateCount + 1 }
  | .rejected _ => { summary with triggerRejectedCount := summary.triggerRejectedCount + 1 }

/-- A backlog recovery is counted. -/
def countBacklog (summary : TelegramProcessingSummary) (isBacklogRecovery : Bool) :
    TelegramProcessingSummary :=
  if isBacklogRecovery then
    { summary with backlogRecoveryCount := summary.backlogRecoveryCount + 1 }
  else summary

end TelegramProcessingSummary

namespace Runtime

/-! ## Updates that are not accepted -/

/-- `record_telegram_normalization_rejected`. -/
def recordTelegramNormalizationRejected (externalEventId detail : String)
    (rawPayloadRef : Option String) : Harness Unit := do
  let traceId ← newUuid
  let _ ← Audit.insert
    { loopKind := "conscious"
      subsystem := "telegram_ingress"
      eventKind := "telegram_ingress_normalization_rejected"
      severity := "warn"
      traceId := traceId
      executionId := none
      payload := .obj
        [("external_event_id", .str externalEventId),
         ("detail", .str detail),
         ("raw_payload_ref", .ofOption .str rawPayloadRef)] }
  pure ()

/-- `record_telegram_update_ignored`. -/
def recordTelegramUpdateIgnored (externalEventId : String) (rawPayloadRef : Option String) :
    Harness Unit := do
  let traceId ← newUuid
  let _ ← Audit.insert
    { loopKind := "conscious"
      subsystem := "telegram_ingress"
      eventKind := "telegram_ingress_ignored"
      severity := "info"
      traceId := traceId
      executionId := none
      payload := .obj
        [("external_event_id", .str externalEventId),
         ("raw_payload_ref", .ofOption .str rawPayloadRef)] }
  pure ()

/-! ## Blocked recoveries -/

/-- `format!("{:?}", status).to_lowercase()`. -/
def checkpointStatusText : RecoveryCheckpointStatus → String
  | .open_ => "open"
  | .resolved => "resolved"
  | .abandoned => "abandoned"
  | .invalidated => "invalidated"

/-- `parse_telegram_reply_target_from_ingress_record`. -/
def parseTelegramReplyTargetFromIngressRecord (ingress : IngressEventRecord) :
    Except ErrorChain (Option Int) :=
  match ingress.externalMessageId with
  | none => .ok none
  | some messageId =>
    match Text.parseI64 messageId with
    | some target => .ok (some target)
    | none => .error [s!"failed to parse Telegram message id '{messageId}'"]

/-- `handle_blocked_telegram_foreground_recovery`: a notice that cannot be delivered is let
go. -/
def handleBlockedTelegramForegroundRecovery (blocked : BlockedTelegramForegroundRecovery) :
    Harness Unit := do
  Execution.markFailed blocked.executionId
    (.obj
      [("kind", .str "foreground_recovery_blocked"),
       ("recovery_decision", .str blocked.outcome.decision.decision.asStr),
       ("checkpoint_status", .str (checkpointStatusText blocked.outcome.checkpoint.status)),
       ("diagnostic_reason_code", .str blocked.outcome.diagnostic.reasonCode),
       ("summary", .str blocked.outcome.decision.summary)])
  Foreground.markIngressEventsProcessed blocked.selectedIngressIds blocked.executionId
  let replyToMessageId ← Prog.ofExcept
    (parseTelegramReplyTargetFromIngressRecord blocked.primaryIngress)
  let _ ← (sendMessage blocked.chatId
    s!"I could not automatically resume that interrupted request. Trace: {blocked.traceId}. Recovery was blocked because the prior execution already linked governed actions and replay would not be safe."
    replyToMessageId).attempt
  pure ()

/-! ## Plans -/

/-- The recovery that a plan goes through before it is orchestrated. -/
structure RestartRecovery where
  recoveryReasonCode : RecoveryReasonCode
  triggerSource : String
  failureContext : String

/-- Which recovery a plan needs: one that resumes stale processing, or a backlog that only the
recovery scan has found. -/
def restartRecovery (plan : PendingForegroundExecutionPlan) (recoveredOnlyFromScan : Bool) :
    Option RestartRecovery :=
  if plan.decisionReason = .staleProcessingResume then
    some
      { recoveryReasonCode := .crash
        triggerSource := "telegram_foreground_processing_loop"
        failureContext := "failed to route stale foreground processing through recovery" }
  else if recoveredOnlyFromScan && plan.mode = .backlogRecovery then
    some
      { recoveryReasonCode := .supervisorRestart
        triggerSource := "telegram_foreground_recovery_scan"
        failureContext := "failed to route foreground supervisor restart through recovery" }
  else none

/-- What the loop hands to `recover_foreground_restart_trigger`. -/
def restartRequest (traceId executionId : Uuid) (internalConversationRef : String)
    (plan : PendingForegroundExecutionPlan) (recovery : RestartRecovery) :
    ForegroundRestartRecoveryRequest where
  traceId := traceId
  executionId := executionId
  interruptedExecutionId := plan.interruptedExecutionId
  internalConversationRef := internalConversationRef
  recoveryReasonCode := recovery.recoveryReasonCode
  triggerSource := recovery.triggerSource
  decisionReason := plan.decisionReason.asStr
  selectedIngressIds := plan.orderedIngress.map OrderedIngressReference.ingressId
  primaryIngressId := plan.primaryIngress.ingressId
  recoveryMode := "backlog_recovery"

/-- What ran before is inspected. -/
def recoverRestart (traceId executionId : Uuid) (internalConversationRef : String)
    (plan : PendingForegroundExecutionPlan) (recovery : RestartRecovery) :
    Harness RecoveryTriggerOutcome := do
  Prog.emit (.restartRecoveryRequested executionId)
  let now ← utcNow
  Harness.context recovery.failureContext
    (Recovery.recoverForegroundRestartTrigger
      (restartRequest traceId executionId internalConversationRef plan recovery) now)

variable [GovernedActionServices]

/-- A plan is started. -/
def startPlan (context : TelegramProcessingContext) (traceId executionId : Uuid)
    (plan : PendingForegroundExecutionPlan) (recovery : Option RestartRecovery)
    (summary : TelegramProcessingSummary) : Harness TelegramProcessingSummary := do
  Prog.emit (.planOrchestrated executionId)
  let outcome ← Orchestration.orchestrateTelegramForegroundPlan context.config
    { traceId := traceId
      executionId := executionId
      triggerKindOverride := recovery.map fun _ => .supervisorRecoveryEvent
      plan := plan }
  match outcome with
  | .completed _ | .approvalResolved _ =>
    pure ((summary.count outcome).countBacklog (plan.mode = .backlogRecovery))
  | .duplicate _ | .rejected _ => pure (summary.count outcome)

/-- What the loop does with a plan: one that needs no recovery, or whose recovery decides to
continue, is started. -/
def servePlan (context : TelegramProcessingContext) (traceId executionId : Uuid)
    (internalConversationRef : String) (recoveredOnlyFromScan : Bool)
    (plan : PendingForegroundExecutionPlan) (summary : TelegramProcessingSummary) :
    Harness TelegramProcessingSummary :=
  match restartRecovery plan recoveredOnlyFromScan with
  | none => startPlan context traceId executionId plan none summary
  | some recovery => do
    let outcome ← recoverRestart traceId executionId internalConversationRef plan recovery
    if outcome.decision.decision = .continue_ then
      startPlan context traceId executionId plan (some recovery) summary
    else do
      handleBlockedTelegramForegroundRecovery
        { chatId := context.telegramConfig.allowedChatId
          traceId := traceId
          executionId := executionId
          primaryIngress := plan.primaryIngress
          selectedIngressIds := plan.orderedIngress.map OrderedIngressReference.ingressId
          outcome := outcome }
      let counted := summary.countBacklog (plan.mode = .backlogRecovery)
      pure { counted with triggerRejectedCount := counted.triggerRejectedCount + 1 }

/-! ## Conversations -/

/-- The execution that is inserted for a conversation. -/
def pendingExecution (traceId executionId : Uuid) (internalConversationRef : String) :
    NewExecutionRecord where
  executionId := executionId
  traceId := traceId
  triggerKind := "telegram_pending_ingress"
  syntheticTrigger := none
  status := "started"
  requestPayload := .obj
    [("internal_conversation_ref", .str internalConversationRef),
     ("kind", .str "telegram_pending_ingress")]

/-- One turn of the loop over the conversations. -/
def processConversation (context : TelegramProcessingContext)
    (recoveryScanConversations newlyStagedConversations : List String)
    (summary : TelegramProcessingSummary) (internalConversationRef : String) :
    Harness TelegramProcessingSummary := do
  let traceId ← newUuid
  let executionId ← newUuid
  Execution.insertLogging [.executionStarted executionId, .planningRequested executionId]
    (pendingExecution traceId executionId internalConversationRef)
  let plan ← Foreground.planPendingForegroundExecution context.config traceId executionId
    internalConversationRef false
  match plan with
  | none => pure summary
  | some plan =>
    servePlan context traceId executionId internalConversationRef
      (recoveryScanConversations.contains internalConversationRef &&
        !newlyStagedConversations.contains internalConversationRef)
      plan summary

/-! ## Updates -/

/-- A reply to an approval prompt is orchestrated. -/
def answerCallback (context : TelegramProcessingContext) (progress : TelegramIntakeProgress)
    (ingress : NormalizedIngress) : Harness TelegramIntakeProgress := do
  let outcome ← Orchestration.orchestrateTelegramForegroundIngress context.config
    context.telegramConfig ingress
  pure { progress with summary := progress.summary.count outcome }

/-- Any other accepted update is staged. -/
def stageUpdate (context : TelegramProcessingContext) (progress : TelegramIntakeProgress)
    (ingress : NormalizedIngress) : Harness TelegramIntakeProgress := do
  let staged ← Foreground.stageTelegramForegroundIngress context.telegramConfig ingress
  match staged with
  | .accepted staged =>
    pure
      { progress with
        stagedConversations :=
          Text.insertIntoSet staged.internalConversationRef progress.stagedConversations
        newlyStagedConversations :=
          Text.insertIntoSet staged.internalConversationRef progress.newlyStagedConversations }
  | .duplicate _ =>
    pure
      { progress with
        summary :=
          { progress.summary with duplicateCount := progress.summary.duplicateCount + 1 } }
  | .rejected _ =>
    pure
      { progress with
        summary :=
          { progress.summary with
            triggerRejectedCount := progress.summary.triggerRejectedCount + 1 } }

/-- One turn of the loop over the updates. -/
def takeUpdate (context : TelegramProcessingContext) (progress : TelegramIntakeProgress)
    (update : TelegramUpdate) : Harness TelegramIntakeProgress := do
  let normalization ← Ingress.normalizeTelegramUpdate context.telegramConfig update
    context.rawPayloadRef
  match normalization with
  | .accepted ingress =>
    if ingress.eventKind = .approvalCallback then answerCallback context progress ingress
    else stageUpdate context progress ingress
  | .rejected rejected => do
    recordTelegramNormalizationRejected rejected.externalEventId rejected.detail
      context.rawPayloadRef
    pure
      { progress with
        summary :=
          { progress.summary with
            normalizationRejectedCount := progress.summary.normalizationRejectedCount + 1 } }
  | .ignored externalEventId => do
    recordTelegramUpdateIgnored externalEventId context.rawPayloadRef
    pure
      { progress with
        summary := { progress.summary with ignoredCount := progress.summary.ignoredCount + 1 } }

/-- `process_telegram_updates`. -/
def processTelegramUpdates (context : TelegramProcessingContext)
    (updates : List TelegramUpdate) : Harness TelegramProcessingSummary := do
  let progress ← Prog.foldlM (takeUpdate context)
    { summary := { fetchedUpdates := updates.length } } updates
  let recoverable ← Foreground.listRecoverableForegroundConversations context.config
  Prog.foldlM
    (processConversation context (recoverable.foldl (fun set ref => Text.insertIntoSet ref set) [])
      progress.newlyStagedConversations)
    progress.summary
    (recoverable.foldl (fun set ref => Text.insertIntoSet ref set) progress.stagedConversations)

end Runtime

end BlueLagoon
