import BlueLagoon.Recovery.Triggers
import BlueLagoon.Workspace

/-!
# Recovery of governed actions

What is known about an interrupted governed action is gathered into a context: its
record, its execution record, its script run, and the classifications drawn from
them. The decision is then written back to the record.
-/

namespace BlueLagoon

open Interleaving Harness

structure WorkerLeaseRecoveryOutcome where
  lease : WorkerLeaseRecord
  checkpoint : RecoveryCheckpointRecord
  decision : RecoveryDecisionOutcome
  diagnostic : OperationalDiagnosticRecord

structure GovernedActionRecoveryContext where
  record : GovernedActionExecutionRecord
  executionRecord : Option ExecutionRecord
  workspaceScriptRun : Option WorkspaceScriptRunRecord
  actionClassification : RecoveryActionClassification
  evidenceState : RecoveryEvidenceState
  approvalState : RecoveryApprovalState
  clarificationAvailable : Bool

namespace Recovery

/-! ## Evidence -/

/-- `workspace_script_run_is_terminal`. -/
def workspaceScriptRunIsTerminal : WorkspaceScriptRunStatus → Bool
  | .completed | .failed | .timedOut | .blocked => true
  | .pending | .running => false

/-- `governed_action_has_terminal_evidence`. -/
def governedActionHasTerminalEvidence (record : GovernedActionExecutionRecord)
    (executionRecord : Option ExecutionRecord) : Bool :=
  record.completedAt.isSome ||
    executionRecord.any fun executionRecord =>
      executionRecord.status = "completed" || executionRecord.status = "failed"

/-- `determine_governed_action_evidence_state`. -/
def determineGovernedActionEvidenceState (record : GovernedActionExecutionRecord)
    (executionRecord : Option ExecutionRecord)
    (workspaceScriptRun : Option WorkspaceScriptRunRecord) : RecoveryEvidenceState :=
  if governedActionHasTerminalEvidence record executionRecord then .durableCompleted
  else if workspaceScriptRun.any fun run => workspaceScriptRunIsTerminal run.status then
    .durableCompleted
  else if record.startedAt.isSome then
    match record.actionKind with
    | .runSubprocess | .runWorkspaceScript => .ambiguous
    | _ => .durableIncomplete
  else .notStarted

/-- What the status of an approval request means to recovery. -/
def approvalStateOfStatus : ApprovalRequestStatus → RecoveryApprovalState
  | .pending => .pending
  | .approved => .approvedFresh
  | .rejected => .rejected
  | .expired => .expired
  | .invalidated => .invalidated

/-- `determine_governed_action_approval_state`: an approval does not carry over to an
ambiguous action that timed out without being completed. -/
def determineGovernedActionApprovalState (record : GovernedActionExecutionRecord)
    (actionClassification : RecoveryActionClassification) (evidenceState : RecoveryEvidenceState)
    (reasonCode : RecoveryReasonCode) (policyState : RecoveryPolicyState) :
    Harness RecoveryApprovalState :=
  match record.approvalRequestId with
  | none => pure .notRequired
  | some approvalRequestId => do
    let status ← fetch "failed to load approval status for governed-action recovery" fun db =>
      (Table.find ApprovalRequestRecord.approvalRequestId approvalRequestId
        db.approvalRequests).map (·.status)
    match status with
    | none => pure .missingRequired
    | some status =>
      if approvalStateOfStatus status = .approvedFresh &&
          actionClassification = .ambiguousOrNonrepeatable && reasonCode = .timeoutOrStall &&
          policyState = .valid && evidenceState ≠ .durableCompleted then
        pure .missingRequired
      else
        pure (approvalStateOfStatus status)

/-- The execution record of an action that was given one. -/
def loadExecutionRecord : Option Uuid → Harness (Option ExecutionRecord)
  | some executionId => do
    let executionRecord ← Execution.get executionId
    pure (some executionRecord)
  | none => pure none

/-- The latest run of the script of a script action. -/
def loadWorkspaceScriptRun (record : GovernedActionExecutionRecord) :
    Harness (Option WorkspaceScriptRunRecord) :=
  match record.workspaceScriptId with
  | some _ =>
    Workspace.getLatestWorkspaceScriptRunByGovernedActionExecutionId
      record.governedActionExecutionId
  | none => pure none

/-- `load_governed_action_recovery_context`. -/
def loadGovernedActionRecoveryContext (record : GovernedActionExecutionRecord)
    (reasonCode : RecoveryReasonCode) (policyState : RecoveryPolicyState) :
    Harness GovernedActionRecoveryContext := do
  let executionRecord ← loadExecutionRecord record.executionId
  let workspaceScriptRun ← loadWorkspaceScriptRun record
  let actionClassification := governedActionRecoveryActionClassification record
  let evidenceState :=
    determineGovernedActionEvidenceState record executionRecord workspaceScriptRun
  let approvalState ← determineGovernedActionApprovalState record actionClassification
    evidenceState reasonCode policyState
  pure
    { record := record
      executionRecord := executionRecord
      workspaceScriptRun := workspaceScriptRun
      actionClassification := actionClassification
      evidenceState := evidenceState
      approvalState := approvalState
      clarificationAvailable :=
        actionClassification = .ambiguousOrNonrepeatable && approvalState = .notRequired }

theorem loadGovernedActionRecoveryContext_confined
    {B : Database → Database → List Event → Prop} (refl : ∀ db, B db db [])
    (record : GovernedActionExecutionRecord) (reasonCode : RecoveryReasonCode)
    (policyState : RecoveryPolicyState) :
    (loadGovernedActionRecoveryContext record reasonCode policyState).Confined (OnDb B) := by
  refine Prog.Confined.bind ?_ fun executionRecord => Prog.Confined.bind ?_ fun run =>
    Prog.Confined.bind ?_ fun _ => Prog.confined_ret _
  · unfold loadExecutionRecord
    split
    · exact Prog.Confined.bind (confined_fetchOne refl) fun _ => Prog.confined_ret _
    · exact Prog.confined_ret _
  · unfold loadWorkspaceScriptRun
    split
    · exact confined_fetch refl
    · exact Prog.confined_ret _
  · unfold determineGovernedActionApprovalState
    split
    · exact Prog.confined_ret _
    · refine Prog.Confined.bind (confined_fetch refl) fun status => ?_
      split
      · exact Prog.confined_ret _
      · split <;> exact Prog.confined_ret _

/-! ## The checkpoint of a governed action -/

/-- `governed_action_recovery_checkpoint_payload`. -/
def governedActionRecoveryCheckpointPayload (context : GovernedActionRecoveryContext)
    (lease : Option WorkerLeaseRecord) (source : String) (errorMessage : Option String) : Json :=
  .obj
    [("source", .str source),
     ("error_message", .ofOption .str errorMessage),
     ("governed_action_execution_id", .uuid context.record.governedActionExecutionId),
     ("approval_request_id", .ofOption .uuid context.record.approvalRequestId),
     ("action_proposal_id", .uuid context.record.actionProposalId),
     ("action_fingerprint", .str context.record.actionFingerprint.value),
     ("action_kind", .str context.record.actionKind.asStr),
     ("risk_tier", .str context.record.riskTier.asStr),
     ("governed_action_status", .str context.record.status.asStr),
     ("output_ref", .ofOption .str context.record.outputRef),
     ("started_at", .ofOption .time context.record.startedAt),
     ("completed_at", .ofOption .time context.record.completedAt),
     ("recovery_action_classification",
      .str (actionClassificationLabel context.actionClassification)),
     ("recovery_evidence_state", .str (evidenceStateLabel context.evidenceState)),
     ("recovery_approval_state", .str (approvalStateLabel context.approvalState)),
     ("execution_record", .ofOption
      (fun record : ExecutionRecord => .obj
        [("execution_id", .uuid record.executionId),
         ("status", .str record.status),
         ("completed_at", .ofOption .time record.completedAt),
         ("response_payload", .ofOption id record.responsePayload)])
      context.executionRecord),
     ("workspace_script_run", .ofOption
      (fun run : WorkspaceScriptRunRecord => .obj
        [("workspace_script_run_id", .uuid run.workspaceScriptRunId),
         ("status", .str run.status.asStr),
         ("output_ref", .ofOption .str run.outputRef),
         ("failure_summary", .ofOption .str run.failureSummary),
         ("started_at", .ofOption .time run.startedAt),
         ("completed_at", .ofOption .time run.completedAt)])
      context.workspaceScriptRun),
     ("worker_lease", .ofOption
      (fun lease : WorkerLeaseRecord => .obj
        [("worker_lease_id", .uuid lease.workerLeaseId),
         ("worker_kind", .str lease.workerKind.asStr),
         ("worker_lease_status", .str lease.status.asStr),
         ("worker_pid", .ofOption .int lease.workerPid),
         ("lease_acquired_at", .time lease.leaseAcquiredAt),
         ("lease_expires_at", .time lease.leaseExpiresAt),
         ("last_heartbeat_at", .time lease.lastHeartbeatAt),
         ("metadata", lease.metadata)])
      lease)]

/-! ## Reconciliation -/

/-- What a completed or failed execution record says about its action. -/
def terminalExecution (now : DateTime) (executionRecord : ExecutionRecord) :
    Option (GovernedActionStatus × Option String × DateTime) :=
  if executionRecord.status = "completed" then
    some (.executed, none, executionRecord.completedAt.getD now)
  else if executionRecord.status = "failed" then
    let payload := executionRecord.responsePayload
    let summary := (payload.bind (Json.get "summary")).bind Json.asStr
    let status : GovernedActionStatus :=
      match (payload.bind (Json.get "status")).bind Json.asStr with
      | some "blocked" => .blocked
      | some "completed" => .executed
      | _ => .failed
    some (status, summary, executionRecord.completedAt.getD now)
  else none

/-- `governed_action_terminal_state`. -/
def governedActionTerminalState (context : GovernedActionRecoveryContext) (now : DateTime) :
    Option (GovernedActionStatus × Option String × DateTime) :=
  match context.executionRecord.bind (terminalExecution now) with
  | some terminal => some terminal
  | none =>
    match context.workspaceScriptRun with
    | some run =>
      let terminal := fun status => some (status, run.failureSummary, run.completedAt.getD now)
      match run.status with
      | .completed => terminal .executed
      | .blocked => terminal .blocked
      | .failed | .timedOut => terminal .failed
      | .pending | .running => none
    | none =>
      context.record.completedAt.map fun completedAt =>
        (context.record.status, context.record.blockedReason, completedAt)

/-- `workspace_script_run_status_from_governed_action_status`. -/
def workspaceScriptRunStatusFromGovernedActionStatus (status : GovernedActionStatus)
    (hasFailureSummary : Bool) : Option WorkspaceScriptRunStatus :=
  match status with
  | .executed => some .completed
  | .blocked => some .blocked
  | .failed => if hasFailureSummary then some .failed else some .timedOut
  | .proposed | .awaitingApproval | .approved | .rejected | .expired | .invalidated => none

/-- The status a decision other than `Continue` writes. -/
def reconciledStatus (record : GovernedActionExecutionRecord) (policyState : RecoveryPolicyState) :
    RecoveryDecision → GovernedActionStatus
  | .reapprove => .invalidated
  | .clarify | .abandon => if policyState = .recheckFailed then .blocked else .failed
  | .retry => if record.approvalRequestId.isSome then .approved else .proposed
  | .defer => .awaitingApproval
  | .continue_ => record.status

/-- The blocked reason a decision other than `Continue` writes. -/
def reconciledReason (summary : String) : RecoveryDecision → Option String
  | .retry => none
  | _ => some summary

/-- The script run of an action that was found completed is completed with it. -/
def completeScriptRun (context : GovernedActionRecoveryContext) (status : GovernedActionStatus)
    (blockedReason : Option String) (completedAt : DateTime) : Harness Unit :=
  match context.workspaceScriptRun with
  | none => pure ()
  | some run =>
    if workspaceScriptRunIsTerminal run.status then pure ()
    else
      match workspaceScriptRunStatusFromGovernedActionStatus status blockedReason.isSome with
      | none => pure ()
      | some runStatus => do
        let _ ← Workspace.updateWorkspaceScriptRunStatus
          { workspaceScriptRunId := run.workspaceScriptRunId
            status := runStatus
            outputRef := (context.record.executionId.map GovernedActions.executionOutputRef).or run.outputRef
            failureSummary := blockedReason
            startedAt := run.startedAt.or context.record.startedAt
            completedAt := some completedAt }
        pure ()

/-- The update a reconciliation writes to the record. -/
def reconciledUpdate (record : GovernedActionExecutionRecord) (status : GovernedActionStatus)
    (blockedReason : Option String) (completedAt : DateTime) :
    GovernedActionExecutionUpdate where
  governedActionExecutionId := record.governedActionExecutionId
  status := status
  executionId := record.executionId
  outputRef := record.executionId.map GovernedActions.executionOutputRef
  blockedReason := blockedReason
  approvalRequestId := record.approvalRequestId
  startedAt := record.startedAt
  completedAt := some completedAt

/-- `reconcile_governed_action_recovery`: a completion time is written with every decision. -/
def reconcileGovernedActionRecovery (context : GovernedActionRecoveryContext)
    (decision : RecoveryDecision) (policyState : RecoveryPolicyState) (now : DateTime)
    (summary : String) : Harness GovernedActionExecutionRecord :=
  if decision = .continue_ then
    match governedActionTerminalState context now with
    | some (status, blockedReason, completedAt) => do
      completeScriptRun context status blockedReason completedAt
      GovernedActions.updateGovernedActionExecution
        (reconciledUpdate context.record status blockedReason completedAt)
        [.actionReconciled context.record.governedActionExecutionId decision]
    | none => pure context.record
  else
    GovernedActions.updateGovernedActionExecution
      (reconciledUpdate context.record (reconciledStatus context.record policyState decision)
        (reconciledReason summary decision) now)
      [.actionReconciled context.record.governedActionExecutionId decision]

section Confined

variable {B : Database → Database → List Event → Prop}

theorem completeScriptRun_confined
    (h : ∀ db rows, B db { db with workspaceScriptRuns := rows } [])
    (context : GovernedActionRecoveryContext) (status : GovernedActionStatus)
    (blockedReason : Option String) (completedAt : DateTime) :
    (completeScriptRun context status blockedReason completedAt).Confined (OnDb B) := by
  unfold completeScriptRun
  split
  · exact Prog.confined_ret _
  · split
    · exact Prog.confined_ret _
    · split
      · exact Prog.confined_ret _
      · exact Prog.Confined.bind (Workspace.updateWorkspaceScriptRunStatus_confined h _)
          fun _ => Prog.confined_ret _

/-- What a reconciliation may do, decision by decision: one update of the record, after its
script run. -/
theorem reconcileGovernedActionRecovery_confined
    (hruns : ∀ db rows, B db { db with workspaceScriptRuns := rows } [])
    (context : GovernedActionRecoveryContext) (decision : RecoveryDecision)
    (policyState : RecoveryPolicyState) (now : DateTime) (summary : String)
    (hupdate : ∀ status blockedReason completedAt,
      (decision = .continue_ → governedActionTerminalState context now =
        some (status, blockedReason, completedAt)) →
      (decision ≠ .continue_ → status = reconciledStatus context.record policyState decision) →
      (GovernedActions.updateGovernedActionExecution
        (reconciledUpdate context.record status blockedReason completedAt)
        [.actionReconciled context.record.governedActionExecutionId decision]).Confined
          (OnDb B)) :
    (reconcileGovernedActionRecovery context decision policyState now summary).Confined
      (OnDb B) := by
  unfold reconcileGovernedActionRecovery
  split
  · rename_i hcontinue
    split
    · rename_i status blockedReason completedAt hterminal
      refine Prog.Confined.bind (completeScriptRun_confined hruns _ _ _ _) fun _ => ?_
      exact hupdate status blockedReason completedAt (fun _ => hterminal)
        fun hne => absurd hcontinue hne
    · exact Prog.confined_ret _
  · rename_i hcontinue
    exact hupdate _ _ _ (fun h => absurd h hcontinue) fun _ => rfl

end Confined

/-! ## Timeouts and policy re-checks -/

/-- `recover_governed_action_worker_lease_timeout`. -/
def recoverGovernedActionWorkerLeaseTimeout (lease : WorkerLeaseRecord) (now : DateTime)
    (source diagnosticReasonCode : String) (diagnosticSeverity : OperationalDiagnosticSeverity)
    (errorMessage : Option String) : Harness WorkerLeaseRecoveryOutcome := do
  let governedActionExecutionId ←
    expect "governed-action recovery requires a governed action execution id"
      lease.governedActionExecutionId
  let record ← GovernedActions.getGovernedActionExecution governedActionExecutionId
  let context ← loadGovernedActionRecoveryContext record .timeoutOrStall .valid
  let checkpointPayload :=
    governedActionRecoveryCheckpointPayload context (some lease) source errorMessage
  let checkpointId ← newUuid
  let checkpoint ← createRecoveryCheckpoint
    { recoveryCheckpointId := checkpointId
      traceId := lease.traceId
      executionId := lease.executionId
      backgroundJobId := none
      backgroundJobRunId := none
      governedActionExecutionId := some governedActionExecutionId
      approvalRequestId := context.record.approvalRequestId
      checkpointKind := .governedAction
      recoveryReasonCode := .timeoutOrStall
      recoveryBudgetRemaining := 1
      checkpointPayload := checkpointPayload }
  let decision ← Prog.ofExcept (evaluateRecoveryDecision
    { checkpointKind := .governedAction
      reasonCode := .timeoutOrStall
      actionClassification := context.actionClassification
      evidenceState := context.evidenceState
      approvalState := context.approvalState
      policyState := .valid
      recoveryBudgetRemaining := checkpoint.recoveryBudgetRemaining
      clarificationAvailable := context.clarificationAvailable })
  let checkpoint ← resolveRecoveryCheckpoint
    { recoveryCheckpointId := checkpoint.recoveryCheckpointId
      status := decision.checkpointStatus
      recoveryDecision := decision.decision
      resolvedSummary := some decision.summary
      resolvedAt := now }
  let reconciledRecord ←
    reconcileGovernedActionRecovery context decision.decision .valid now decision.summary
  GovernedActions.writeGovernedActionAuditEvent reconciledRecord
    "governed_action_recovery_resolved" "warn"
    (.obj
      [("worker_lease_id", .uuid lease.workerLeaseId),
       ("recovery_checkpoint_id", .uuid checkpoint.recoveryCheckpointId),
       ("recovery_decision", .str decision.decision.asStr),
       ("recovery_reason_code", .str RecoveryReasonCode.timeoutOrStall.asStr),
       ("action_classification", .str (actionClassificationLabel context.actionClassification)),
       ("evidence_state", .str (evidenceStateLabel context.evidenceState)),
       ("approval_state", .str (approvalStateLabel context.approvalState)),
       ("policy_state", .str (policyStateLabel .valid)),
       ("source", .str source)])
  let diagnosticId ← newUuid
  let diagnostic ← insertOperationalDiagnostic
    { operationalDiagnosticId := diagnosticId
      traceId := some lease.traceId
      executionId := lease.executionId
      subsystem := "governed_actions"
      severity := diagnosticSeverity
      reasonCode := diagnosticReasonCode
      summary := s!"governed action execution interruption observed; recovery decision: {decision.decision.asStr}"
      diagnosticPayload := checkpointPayload }
  pure { lease := lease, checkpoint := checkpoint, decision := decision, diagnostic := diagnostic }

/-- `recover_governed_action_policy_recheck_failure`. -/
def recoverGovernedActionPolicyRecheckFailure (record : GovernedActionExecutionRecord)
    (now : DateTime) (failureSummary : String) : Harness RecoveryTriggerOutcome := do
  if Text.isBlank failureSummary then
    bail "governed action policy re-check failure summary must not be empty"
  else
    let context ←
      loadGovernedActionRecoveryContext record .integrityOrPolicyBlock .recheckFailed
    let checkpointPayload := governedActionRecoveryCheckpointPayload context none
      "policy_recheck" (some failureSummary)
    let decision ← Prog.ofExcept (evaluateRecoveryDecision
      { checkpointKind := .governedAction
        reasonCode := .integrityOrPolicyBlock
        actionClassification := context.actionClassification
        evidenceState := context.evidenceState
        approvalState := context.approvalState
        policyState := .recheckFailed
        recoveryBudgetRemaining := 1
        clarificationAvailable := context.clarificationAvailable })
    let checkpointId ← newUuid
    let checkpoint ← createRecoveryCheckpoint
      { recoveryCheckpointId := checkpointId
        traceId := record.traceId
        executionId := record.executionId
        backgroundJobId := none
        backgroundJobRunId := none
        governedActionExecutionId := some record.governedActionExecutionId
        approvalRequestId := record.approvalRequestId
        checkpointKind := .governedAction
        recoveryReasonCode := .integrityOrPolicyBlock
        recoveryBudgetRemaining := 1
        checkpointPayload := checkpointPayload }
    let checkpoint ← resolveRecoveryCheckpoint
      { recoveryCheckpointId := checkpoint.recoveryCheckpointId
        status := decision.checkpointStatus
        recoveryDecision := decision.decision
        resolvedSummary := some decision.summary
        resolvedAt := now }
    let reconciledRecord ← reconcileGovernedActionRecovery context decision.decision
      .recheckFailed now decision.summary
    GovernedActions.writeGovernedActionAuditEvent reconciledRecord
      "governed_action_recovery_resolved" "warn"
      (.obj
        [("recovery_checkpoint_id", .uuid checkpoint.recoveryCheckpointId),
         ("recovery_decision", .str decision.decision.asStr),
         ("recovery_reason_code", .str RecoveryReasonCode.integrityOrPolicyBlock.asStr),
         ("action_classification",
          .str (actionClassificationLabel context.actionClassification)),
         ("evidence_state", .str (evidenceStateLabel context.evidenceState)),
         ("approval_state", .str (approvalStateLabel context.approvalState)),
         ("policy_state", .str (policyStateLabel .recheckFailed))])
    let diagnosticId ← newUuid
    let diagnostic ← insertOperationalDiagnostic
      { operationalDiagnosticId := diagnosticId
        traceId := some record.traceId
        executionId := record.executionId
        subsystem := "governed_actions"
        severity := .warn
        reasonCode := "governed_action_policy_recheck_failed"
        summary := s!"governed action execution was blocked during policy re-check; recovery decision: {decision.decision.asStr}"
        diagnosticPayload := checkpointPayload }
    pure { checkpoint := checkpoint, decision := decision, diagnostic := diagnostic }

end Recovery

end BlueLagoon
