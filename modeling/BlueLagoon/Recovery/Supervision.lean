import BlueLagoon.Recovery.GovernedAction

/-!
# Lease supervision

A supervision pass expires every lease that is due in one statement, then recovers
them one after the other; the first recovery that fails ends the pass.
-/

namespace BlueLagoon

open Interleaving Harness

structure WorkerLeaseSupervisionSummary where
  softWarningDiagnostics : List OperationalDiagnosticRecord
  recoveredExpiredLeases : List WorkerLeaseRecoveryOutcome

namespace Recovery

/-- `recovery_checkpoint_kind_for_worker_lease`. -/
def recoveryCheckpointKindForWorkerLease : WorkerLeaseKind → RecoveryCheckpointKind
  | .foreground => .foreground
  | .background => .background
  | .governedAction => .governedAction

/-- `recovery_action_classification_for_lease`. -/
def recoveryActionClassificationForLease (lease : WorkerLeaseRecord) :
    RecoveryActionClassification :=
  match lease.workerKind with
  | .foreground | .background => .safeReplay
  | .governedAction => .ambiguousOrNonrepeatable

/-- `recover_worker_lease_timeout`. -/
def recoverWorkerLeaseTimeout (lease : WorkerLeaseRecord) (now : DateTime)
    (source diagnosticReasonCode : String) (diagnosticSeverity : OperationalDiagnosticSeverity)
    (errorMessage : Option String) : Harness WorkerLeaseRecoveryOutcome := do
  if lease.workerKind = .governedAction then
    recoverGovernedActionWorkerLeaseTimeout lease now source diagnosticReasonCode
      diagnosticSeverity errorMessage
  else
    let checkpointId ← newUuid
    let checkpoint ← createRecoveryCheckpoint
      { recoveryCheckpointId := checkpointId
        traceId := lease.traceId
        executionId := lease.executionId
        backgroundJobId := lease.backgroundJobId
        backgroundJobRunId := lease.backgroundJobRunId
        governedActionExecutionId := lease.governedActionExecutionId
        approvalRequestId := none
        checkpointKind := recoveryCheckpointKindForWorkerLease lease.workerKind
        recoveryReasonCode := .timeoutOrStall
        recoveryBudgetRemaining := 1
        checkpointPayload := .obj
          [("source", .str source),
           ("worker_lease_id", .uuid lease.workerLeaseId),
           ("worker_kind", .str lease.workerKind.asStr),
           ("worker_lease_status", .str lease.status.asStr),
           ("worker_pid", .ofOption .int lease.workerPid),
           ("lease_acquired_at", .time lease.leaseAcquiredAt),
           ("lease_expires_at", .time lease.leaseExpiresAt),
           ("last_heartbeat_at", .time lease.lastHeartbeatAt),
           ("error_message", .ofOption .str errorMessage),
           ("metadata", lease.metadata)] }
    let decision ← Prog.ofExcept (evaluateRecoveryDecision
      { checkpointKind := checkpoint.checkpointKind
        reasonCode := checkpoint.recoveryReasonCode
        actionClassification := recoveryActionClassificationForLease lease
        evidenceState := .durableIncomplete
        approvalState := .notRequired
        policyState := .valid
        recoveryBudgetRemaining := checkpoint.recoveryBudgetRemaining
        clarificationAvailable := false })
    let checkpoint ← resolveRecoveryCheckpoint
      { recoveryCheckpointId := checkpoint.recoveryCheckpointId
        status := decision.checkpointStatus
        recoveryDecision := decision.decision
        resolvedSummary := some decision.summary
        resolvedAt := now }
    let diagnosticId ← newUuid
    let diagnostic ← insertOperationalDiagnostic
      { operationalDiagnosticId := diagnosticId
        traceId := some lease.traceId
        executionId := lease.executionId
        subsystem := "recovery"
        severity := diagnosticSeverity
        reasonCode := diagnosticReasonCode
        summary := s!"worker lease timeout or stall observed; recovery decision: {decision.decision.asStr}"
        diagnosticPayload := .obj
          [("source", .str source),
           ("worker_lease_id", .uuid lease.workerLeaseId),
           ("worker_kind", .str lease.workerKind.asStr),
           ("worker_lease_status", .str lease.status.asStr),
           ("recovery_checkpoint_id", .uuid checkpoint.recoveryCheckpointId),
           ("recovery_decision", .str decision.decision.asStr),
           ("error_message", .ofOption .str errorMessage)] }
    pure { lease := lease, checkpoint := checkpoint, decision := decision
           diagnostic := diagnostic }

/-- The recovery of a lease that was found expired. -/
def recoverExpiredWorkerLease (now : DateTime) (lease : WorkerLeaseRecord) :
    Harness WorkerLeaseRecoveryOutcome :=
  recoverWorkerLeaseTimeout lease now "worker_lease_expiry" "worker_lease_expired" .warn none

/-- `recover_expired_worker_leases`. -/
def recoverExpiredWorkerLeases (now : DateTime) : Harness (List WorkerLeaseRecoveryOutcome) := do
  let expiredLeases ← expireDueWorkerLeases now
  Prog.foldlM
    (fun outcomes lease => do
      let outcome ← recoverExpiredWorkerLease now lease
      pure (outcomes ++ [outcome]))
    [] expiredLeases

/-- `recover_observed_worker_timeout`. -/
def recoverObservedWorkerTimeout (workerLeaseId : Uuid) (now : DateTime)
    (observedSource errorMessage : String) : Harness WorkerLeaseRecoveryOutcome := do
  if Text.isBlank observedSource then
    bail "observed worker timeout source must not be empty"
  else if Text.isBlank errorMessage then
    bail "observed worker timeout error message must not be empty"
  else
    let lease ← terminateActiveWorkerLease workerLeaseId now
    recoverWorkerLeaseTimeout lease now observedSource "worker_lease_timeout_observed" .error
      (some errorMessage)

/-- One turn of the loop of `supervise_worker_leases` over the leases still active. -/
def warnWorkerLease (now : DateTime) (softWarningThresholdPercent : Nat)
    (diagnostics : List OperationalDiagnosticRecord) (lease : WorkerLeaseRecord) :
    Harness (List OperationalDiagnosticRecord) := do
  let decision ←
    Prog.ofExcept (classifyWorkerLeaseSupervision lease now softWarningThresholdPercent)
  if decision ≠ .softWarning then
    pure diagnostics
  else
    let warned ← diagnosticExistsForWorkerLease "worker_lease_soft_warning" lease.workerLeaseId
    if warned then
      pure diagnostics
    else
      let diagnosticId ← newUuid
      let diagnostic ← insertOperationalDiagnostic
        { operationalDiagnosticId := diagnosticId
          traceId := some lease.traceId
          executionId := lease.executionId
          subsystem := "recovery"
          severity := .warn
          reasonCode := "worker_lease_soft_warning"
          summary := "worker lease is nearing expiry without completion"
          diagnosticPayload := .obj
            [("worker_lease_id", .uuid lease.workerLeaseId),
             ("worker_kind", .str lease.workerKind.asStr),
             ("lease_acquired_at", .time lease.leaseAcquiredAt),
             ("lease_expires_at", .time lease.leaseExpiresAt),
             ("last_heartbeat_at", .time lease.lastHeartbeatAt),
             ("soft_warning_threshold_percent", .int softWarningThresholdPercent)] }
      pure (diagnostics ++ [diagnostic])

/-- `supervise_worker_leases`. -/
def superviseWorkerLeases (now : DateTime) (softWarningThresholdPercent : Nat) :
    Harness WorkerLeaseSupervisionSummary := do
  if ¬ (1 ≤ softWarningThresholdPercent ∧ softWarningThresholdPercent ≤ 100) then
    bail "soft warning threshold percent must be between 1 and 100"
  else
    let recoveredExpiredLeases ← recoverExpiredWorkerLeases now
    let activeLeases ← listActiveWorkerLeases 100
    let softWarningDiagnostics ←
      Prog.foldlM (warnWorkerLease now softWarningThresholdPercent) [] activeLeases
    pure
      { softWarningDiagnostics := softWarningDiagnostics
        recoveredExpiredLeases := recoveredExpiredLeases }

end Recovery

end BlueLagoon
