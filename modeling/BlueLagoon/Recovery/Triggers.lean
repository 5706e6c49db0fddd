import BlueLagoon.GovernedActions.Records
import BlueLagoon.Recovery.Store

/-!
# Recovery triggers

A trigger opens a checkpoint, decides, resolves the checkpoint with the decision and
leaves a diagnostic.
-/

namespace BlueLagoon

open Interleaving Harness

structure RecoveryTriggerOutcome where
  checkpoint : RecoveryCheckpointRecord
  decision : RecoveryDecisionOutcome
  diagnostic : OperationalDiagnosticRecord

structure ForegroundRestartRecoveryRequest where
  traceId : Uuid
  executionId : Uuid
  interruptedExecutionId : Option Uuid
  internalConversationRef : String
  recoveryReasonCode : RecoveryReasonCode
  triggerSource : String
  decisionReason : String
  selectedIngressIds : List Uuid
  primaryIngressId : Uuid
  recoveryMode : String

namespace Recovery

/-- `issue_recovery_trigger`. -/
def issueRecoveryTrigger (checkpoint : NewRecoveryCheckpoint) (request : RecoveryDecisionRequest)
    (diagnostic : NewOperationalDiagnostic) (now : DateTime) :
    Harness RecoveryTriggerOutcome := do
  let checkpoint ← createRecoveryCheckpoint checkpoint
  let decision ← Prog.ofExcept (evaluateRecoveryDecision request)
  let checkpoint ← resolveRecoveryCheckpoint
    { recoveryCheckpointId := checkpoint.recoveryCheckpointId
      status := decision.checkpointStatus
      recoveryDecision := decision.decision
      resolvedSummary := some decision.summary
      resolvedAt := now }
  let diagnostic ← insertOperationalDiagnostic diagnostic
  pure { checkpoint := checkpoint, decision := decision, diagnostic := diagnostic }

/-! ### What a trigger touches -/

/-- Actions that change nothing but checkpoints and diagnostics are `B`-actions. -/
def Tolerates (B : Database → Database → List Event → Prop) : Prop :=
  ∀ db checkpoints diagnostics events,
    (events = [] ∨ ∃ id, events = [.checkpointOpened id]) →
      B db { db with recoveryCheckpoints := checkpoints, operationalDiagnostics := diagnostics }
        events

section Confined

variable {B : Database → Database → List Event → Prop}

theorem Tolerates.refl (h : Tolerates B) (db : Database) : B db db [] :=
  h db db.recoveryCheckpoints db.operationalDiagnostics [] (by simp)

theorem createRecoveryCheckpoint_confined (h : Tolerates B)
    (checkpoint : NewRecoveryCheckpoint) :
    (createRecoveryCheckpoint checkpoint).Confined (OnDb B) := by
  unfold createRecoveryCheckpoint
  split
  · exact Prog.confined_fail _
  · refine Prog.Confined.bind (confined_execute h.refl ?_) fun _ => confined_fetchOne h.refl
    intro now db effect hbody
    obtain rfl := Except.ok.inj hbody
    exact h db _ db.operationalDiagnostics _ (by simp)

theorem resolveRecoveryCheckpoint_confined (h : Tolerates B)
    (resolution : RecoveryCheckpointResolution) :
    (resolveRecoveryCheckpoint resolution).Confined (OnDb B) := by
  unfold resolveRecoveryCheckpoint
  split
  · exact Prog.confined_fail _
  · refine Prog.Confined.bind (confined_execute h.refl ?_) fun _ => confined_fetchOne h.refl
    intro now db effect hbody
    obtain rfl := Except.ok.inj hbody
    exact h db _ db.operationalDiagnostics [] (by simp)

theorem insertOperationalDiagnostic_confined (h : Tolerates B)
    (diagnostic : NewOperationalDiagnostic) :
    (insertOperationalDiagnostic diagnostic).Confined (OnDb B) := by
  refine Prog.Confined.bind (Prog.confined_ofExcept _) fun _ => ?_
  refine Prog.Confined.bind (confined_execute h.refl ?_) fun _ => confined_fetchOne h.refl
  intro now db effect hbody
  obtain rfl := Except.ok.inj hbody
  exact h db db.recoveryCheckpoints _ [] (by simp)

theorem issueRecoveryTrigger_confined (h : Tolerates B) (checkpoint : NewRecoveryCheckpoint)
    (request : RecoveryDecisionRequest) (diagnostic : NewOperationalDiagnostic)
    (now : DateTime) :
    (issueRecoveryTrigger checkpoint request diagnostic now).Confined (OnDb B) := by
  refine Prog.Confined.bind (createRecoveryCheckpoint_confined h _) fun _ => ?_
  refine Prog.Confined.bind (Prog.confined_ofExcept _) fun _ => ?_
  refine Prog.Confined.bind (resolveRecoveryCheckpoint_confined h _) fun _ => ?_
  exact Prog.Confined.bind (insertOperationalDiagnostic_confined h _) fun _ => Prog.confined_ret _

end Confined

/-! ## Approval transitions -/

/-- What the diagnostic of an approval transition says; nothing for a state the trigger
does not support. -/
def approvalTransitionSummary : RecoveryApprovalState → Option String
  | .pending => some "governed action execution is deferred pending approval resolution"
  | .expired => some "approval request expired before resolution"
  | .invalidated => some "approval request was invalidated and requires explicit follow-up"
  | .missingRequired => some "required approval request is missing and must be recreated"
  | .notRequired | .approvedFresh | .rejected => none

/-- The derived `Debug` name of an approval state. -/
def approvalStateDebug : RecoveryApprovalState → String
  | .notRequired => "NotRequired"
  | .pending => "Pending"
  | .approvedFresh => "ApprovedFresh"
  | .expired => "Expired"
  | .invalidated => "Invalidated"
  | .rejected => "Rejected"
  | .missingRequired => "MissingRequired"

/-- `recover_approval_request_transition`. -/
def recoverApprovalRequestTransition (request : ApprovalRequestRecord)
    (approvalState : RecoveryApprovalState) (now : DateTime) (diagnosticReasonCode : String) :
    Harness RecoveryTriggerOutcome :=
  match approvalTransitionSummary approvalState with
  | none =>
    bail s!"approval transition recovery does not support state {approvalStateDebug approvalState}"
  | some diagnosticSummary => do
    let linkedExecution ← GovernedActions.getGovernedActionExecutionByApprovalRequestId
      request.approvalRequestId
    let governedActionExecutionId := linkedExecution.map (·.governedActionExecutionId)
    let checkpointKind : RecoveryCheckpointKind :=
      if linkedExecution.isSome then .governedAction else .foreground
    let actionClassification : RecoveryActionClassification :=
      if linkedExecution.isSome then .ambiguousOrNonrepeatable else .safeReplay
    let checkpointPayload := Json.obj
      [("approval_request_id", .uuid request.approvalRequestId),
       ("action_proposal_id", .uuid request.actionProposalId),
       ("action_fingerprint", .str request.actionFingerprint.value),
       ("action_kind", .str request.actionKind.asStr),
       ("risk_tier", .str request.riskTier.asStr),
       ("title", .str request.title),
       ("consequence_summary", .str request.consequenceSummary),
       ("requested_by", .str request.requestedBy),
       ("requested_at", .time request.requestedAt),
       ("expires_at", .time request.expiresAt),
       ("approval_state", .str (approvalStateLabel approvalState)),
       ("governed_action_execution_id", .ofOption .uuid governedActionExecutionId)]
    let checkpointId ← newUuid
    let diagnosticId ← newUuid
    issueRecoveryTrigger
      { recoveryCheckpointId := checkpointId
        traceId := request.traceId
        executionId := request.executionId
        backgroundJobId := none
        backgroundJobRunId := none
        governedActionExecutionId := governedActionExecutionId
        approvalRequestId := some request.approvalRequestId
        checkpointKind := checkpointKind
        recoveryReasonCode := .approvalTransition
        recoveryBudgetRemaining := 1
        checkpointPayload := checkpointPayload }
      { checkpointKind := checkpointKind
        reasonCode := .approvalTransition
        actionClassification := actionClassification
        evidenceState := .notStarted
        approvalState := approvalState
        policyState := .valid
        recoveryBudgetRemaining := 1
        clarificationAvailable := false }
      { operationalDiagnosticId := diagnosticId
        traceId := some request.traceId
        executionId := request.executionId
        subsystem := "approval"
        severity := .warn
        reasonCode := diagnosticReasonCode
        summary := diagnosticSummary
        diagnosticPayload := checkpointPayload }
      now

theorem recoverApprovalRequestTransition_confined
    {B : Database → Database → List Event → Prop} (h : Tolerates B)
    (request : ApprovalRequestRecord) (approvalState : RecoveryApprovalState) (now : DateTime)
    (diagnosticReasonCode : String) :
    (recoverApprovalRequestTransition request approvalState now diagnosticReasonCode).Confined
      (OnDb B) := by
  unfold recoverApprovalRequestTransition
  split
  · exact Prog.confined_fail _
  · refine Prog.Confined.bind (confined_fetch h.refl) fun _ => ?_
    refine Prog.Confined.bind (confined_newUuid h.refl) fun _ => ?_
    refine Prog.Confined.bind (confined_newUuid h.refl) fun _ => ?_
    exact issueRecoveryTrigger_confined h _ _ _ _

/-! ## Foreground restarts -/

/-- `governed_action_recovery_action_classification`. -/
def governedActionRecoveryActionClassification (record : GovernedActionExecutionRecord) :
    RecoveryActionClassification :=
  match record.actionKind with
  | .inspectWorkspaceArtifact | .listWorkspaceArtifacts | .listWorkspaceScripts
  | .inspectWorkspaceScript | .listWorkspaceScriptRuns | .runDiagnostic => .safeReplay
  | .createWorkspaceArtifact | .updateWorkspaceArtifact | .createWorkspaceScript
  | .appendWorkspaceScriptVersion | .upsertScheduledForegroundTask | .requestBackgroundJob
  | .runSubprocess | .runWorkspaceScript | .webFetch => .ambiguousOrNonrepeatable

/-- A prior action that may be replayed: no approval is attached to it and its kind is safe. -/
def replaySafe (record : GovernedActionExecutionRecord) : Bool :=
  record.approvalRequestId.isNone &&
    governedActionRecoveryActionClassification record = .safeReplay

/-- The checks at the start of `recover_foreground_restart_trigger`. -/
def validateForegroundRestart (request : ForegroundRestartRecoveryRequest) :
    Except ErrorChain Unit :=
  if ¬ (request.recoveryReasonCode = .crash ∨ request.recoveryReasonCode = .supervisorRestart) then
    .error ["foreground restart recovery requires crash or supervisor-restart reason code"]
  else if Text.isBlank request.internalConversationRef then
    .error ["foreground restart recovery requires an internal conversation reference"]
  else if Text.isBlank request.triggerSource then
    .error ["foreground restart recovery requires a trigger source"]
  else if Text.isBlank request.decisionReason then
    .error ["foreground restart recovery requires a decision reason"]
  else if Text.isBlank request.recoveryMode then
    .error ["foreground restart recovery requires a recovery mode"]
  else if request.selectedIngressIds = [] then
    .error ["foreground restart recovery requires at least one selected ingress"]
  else .ok ()

/-- The reason code of the diagnostic of a foreground restart. -/
def foregroundRestartReasonCode (reason : RecoveryReasonCode) (replaySafePriorActions : Bool) :
    String :=
  match reason, replaySafePriorActions with
  | .supervisorRestart, true => "foreground_supervisor_restart_recovered"
  | .supervisorRestart, false => "foreground_supervisor_restart_replay_blocked"
  | _, true => "foreground_processing_crash_recovered"
  | _, false => "foreground_processing_crash_replay_blocked"

/-- The start of the summary of the diagnostic of a foreground restart. -/
def foregroundRestartReasonSummary : RecoveryReasonCode → String
  | .supervisorRestart => "foreground backlog recovery was resumed during supervisor startup"
  | _ => "foreground processing was resumed after a crash or interrupted execution"

/-- The decision a foreground restart asks for, given whether what ran before is safe to
replay. -/
def foregroundRestartDecisionRequest (reason : RecoveryReasonCode)
    (replaySafePriorActions : Bool) : RecoveryDecisionRequest where
  checkpointKind := .foreground
  reasonCode := reason
  actionClassification :=
    if replaySafePriorActions then .safeReplay else .ambiguousOrNonrepeatable
  evidenceState := if replaySafePriorActions then .durableIncomplete else .ambiguous
  approvalState := .notRequired
  policyState := .valid
  recoveryBudgetRemaining := 1
  clarificationAvailable := false

/-- `recover_foreground_restart_trigger`. -/
def recoverForegroundRestartTrigger (request : ForegroundRestartRecoveryRequest)
    (now : DateTime) : Harness RecoveryTriggerOutcome := do
  Prog.ofExcept (validateForegroundRestart request)
  let inspectedExecutionId := request.interruptedExecutionId.getD request.executionId
  let priorGovernedActions ←
    GovernedActions.listGovernedActionExecutionsByExecutionId inspectedExecutionId
  let replaySafePriorActions := priorGovernedActions.all replaySafe
  let checkpointPayload := Json.obj
    [("source", .str request.triggerSource),
     ("internal_conversation_ref", .str request.internalConversationRef),
     ("decision_reason", .str request.decisionReason),
     ("recovery_mode", .str request.recoveryMode),
     ("selected_ingress_ids", .arr (request.selectedIngressIds.map .uuid)),
     ("primary_ingress_id", .uuid request.primaryIngressId),
     ("interrupted_execution_id", .ofOption .uuid request.interruptedExecutionId),
     ("inspected_execution_id", .uuid inspectedExecutionId),
     ("prior_governed_action_count", .int priorGovernedActions.length),
     ("prior_governed_actions", .arr (priorGovernedActions.map fun record => .obj
       [("governed_action_execution_id", .uuid record.governedActionExecutionId),
        ("action_kind", .str record.actionKind.asStr),
        ("status", .str record.status.asStr),
        ("approval_request_id", .ofOption .uuid record.approvalRequestId)]))]
  let decisionRequest :=
    foregroundRestartDecisionRequest request.recoveryReasonCode replaySafePriorActions
  let decision ← Prog.ofExcept (evaluateRecoveryDecision decisionRequest)
  let checkpointId ← newUuid
  let diagnosticId ← newUuid
  issueRecoveryTrigger
    { recoveryCheckpointId := checkpointId
      traceId := request.traceId
      executionId := some request.executionId
      backgroundJobId := none
      backgroundJobRunId := none
      governedActionExecutionId := none
      approvalRequestId := none
      checkpointKind := .foreground
      recoveryReasonCode := request.recoveryReasonCode
      recoveryBudgetRemaining := 1
      checkpointPayload := checkpointPayload }
    decisionRequest
    { operationalDiagnosticId := diagnosticId
      traceId := some request.traceId
      executionId := some request.executionId
      subsystem := "recovery"
      severity := .warn
      reasonCode := foregroundRestartReasonCode request.recoveryReasonCode replaySafePriorActions
      summary := s!"{foregroundRestartReasonSummary request.recoveryReasonCode}; recovery decision: {decision.decision.asStr}"
      diagnosticPayload := checkpointPayload }
    now

theorem recoverForegroundRestartTrigger_confined {B : Database → Database → List Event → Prop}
    (h : Tolerates B) (request : ForegroundRestartRecoveryRequest) (now : DateTime) :
    (recoverForegroundRestartTrigger request now).Confined (OnDb B) := by
  unfold recoverForegroundRestartTrigger
  refine Prog.Confined.bind (Prog.confined_ofExcept _) fun _ => ?_
  refine Prog.Confined.bind (confined_fetch h.refl) fun priorGovernedActions => ?_
  refine Prog.Confined.bind (Prog.confined_ofExcept _) fun decision => ?_
  refine Prog.Confined.bind (confined_newUuid h.refl) fun checkpointId => ?_
  refine Prog.Confined.bind (confined_newUuid h.refl) fun diagnosticId => ?_
  exact issueRecoveryTrigger_confined h _ _ _ _

end Recovery

end BlueLagoon
