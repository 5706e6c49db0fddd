import BlueLagoon.Execution
import BlueLagoon.Recovery.Decision

/-!
# Checkpoints, diagnostics and worker leases

The tables of the recovery subsystem.
-/

namespace BlueLagoon

open Interleaving Harness

structure NewRecoveryCheckpoint where
  recoveryCheckpointId : Uuid
  traceId : Uuid
  executionId : Option Uuid
  backgroundJobId : Option Uuid
  backgroundJobRunId : Option Uuid
  governedActionExecutionId : Option Uuid
  approvalRequestId : Option Uuid
  checkpointKind : RecoveryCheckpointKind
  recoveryReasonCode : RecoveryReasonCode
  recoveryBudgetRemaining : Int
  checkpointPayload : Json

structure RecoveryCheckpointResolution where
  recoveryCheckpointId : Uuid
  status : RecoveryCheckpointStatus
  recoveryDecision : RecoveryDecision
  resolvedSummary : Option String
  resolvedAt : DateTime

structure NewOperationalDiagnostic where
  operationalDiagnosticId : Uuid
  traceId : Option Uuid
  executionId : Option Uuid
  subsystem : String
  severity : OperationalDiagnosticSeverity
  reasonCode : String
  summary : String
  diagnosticPayload : Json

structure NewWorkerLease where
  workerLeaseId : Uuid
  traceId : Uuid
  executionId : Option Uuid
  backgroundJobId : Option Uuid
  backgroundJobRunId : Option Uuid
  governedActionExecutionId : Option Uuid
  workerKind : WorkerLeaseKind
  leaseToken : Uuid
  workerPid : Option Int
  leaseAcquiredAt : DateTime
  leaseExpiresAt : DateTime
  lastHeartbeatAt : DateTime
  metadata : Json

inductive WorkerLeaseSupervisionDecision
  | healthy
  | softWarning
  | hardExpired
  deriving DecidableEq, Repr

namespace Recovery

/-! ## Checkpoints -/

/-- `get_recovery_checkpoint`. -/
def getRecoveryCheckpoint (recoveryCheckpointId : Uuid) : Harness RecoveryCheckpointRecord :=
  fetchOne "failed to fetch recovery checkpoint" fun db =>
    Table.find RecoveryCheckpointRecord.recoveryCheckpointId recoveryCheckpointId
      db.recoveryCheckpoints

/-- The row of a new checkpoint. -/
def checkpointRow (now : DateTime) (checkpoint : NewRecoveryCheckpoint) :
    RecoveryCheckpointRecord where
  recoveryCheckpointId := checkpoint.recoveryCheckpointId
  traceId := checkpoint.traceId
  executionId := checkpoint.executionId
  backgroundJobId := checkpoint.backgroundJobId
  backgroundJobRunId := checkpoint.backgroundJobRunId
  governedActionExecutionId := checkpoint.governedActionExecutionId
  approvalRequestId := checkpoint.approvalRequestId
  checkpointKind := checkpoint.checkpointKind
  recoveryReasonCode := checkpoint.recoveryReasonCode
  status := .open_
  recoveryDecision := none
  recoveryBudgetRemaining := checkpoint.recoveryBudgetRemaining
  checkpointPayload := checkpoint.checkpointPayload
  resolvedSummary := none
  createdAt := now
  updatedAt := now
  resolvedAt := none

/-- `create_recovery_checkpoint`. -/
def createRecoveryCheckpoint (checkpoint : NewRecoveryCheckpoint) :
    Harness RecoveryCheckpointRecord := do
  if checkpoint.recoveryBudgetRemaining < 0 then
    bail "recovery budget remaining must not be negative"
  else
    execute "failed to insert recovery checkpoint" fun now db =>
      .ok { value := ()
            db := { db with recoveryCheckpoints :=
              db.recoveryCheckpoints ++ [checkpointRow now checkpoint] }
            events := [.checkpointOpened checkpoint.recoveryCheckpointId] }
    getRecoveryCheckpoint checkpoint.recoveryCheckpointId

/-- The row of a checkpoint once it is resolved. -/
def checkpointResolved (now : DateTime) (resolution : RecoveryCheckpointResolution)
    (row : RecoveryCheckpointRecord) : RecoveryCheckpointRecord :=
  { row with
      status := resolution.status
      recoveryDecision := some resolution.recoveryDecision
      resolvedSummary := resolution.resolvedSummary
      resolvedAt := some resolution.resolvedAt
      updatedAt := now }

/-- `resolve_recovery_checkpoint`. -/
def resolveRecoveryCheckpoint (resolution : RecoveryCheckpointResolution) :
    Harness RecoveryCheckpointRecord := do
  if resolution.status = .open_ then
    bail "resolved recovery checkpoint status must not be open"
  else
    execute "failed to resolve recovery checkpoint" fun now db =>
      .ok { value := ()
            db := { db with
              recoveryCheckpoints :=
                Table.update
                  (fun row => row.recoveryCheckpointId = resolution.recoveryCheckpointId)
                  (checkpointResolved now resolution) db.recoveryCheckpoints } }
    getRecoveryCheckpoint resolution.recoveryCheckpointId

/-! ## Diagnostics -/

/-- `get_operational_diagnostic`. -/
def getOperationalDiagnostic (operationalDiagnosticId : Uuid) :
    Harness OperationalDiagnosticRecord :=
  fetchOne "failed to fetch operational diagnostic" fun db =>
    Table.find OperationalDiagnosticRecord.operationalDiagnosticId operationalDiagnosticId
      db.operationalDiagnostics

/-- `validate_new_operational_diagnostic`. -/
def validateNewOperationalDiagnostic (diagnostic : NewOperationalDiagnostic) :
    Except ErrorChain Unit :=
  if Text.isBlank diagnostic.subsystem then
    .error ["operational diagnostic subsystem must not be empty"]
  else if Text.isBlank diagnostic.reasonCode then
    .error ["operational diagnostic reason code must not be empty"]
  else if Text.isBlank diagnostic.summary then
    .error ["operational diagnostic summary must not be empty"]
  else .ok ()

/-- A diagnostic whose texts all say something is valid. -/
theorem validateNewOperationalDiagnostic_ok {diagnostic : NewOperationalDiagnostic}
    (subsystem : Text.isBlank diagnostic.subsystem = false)
    (reasonCode : Text.isBlank diagnostic.reasonCode = false)
    (summary : Text.isBlank diagnostic.summary = false) :
    validateNewOperationalDiagnostic diagnostic = .ok () := by
  simp [validateNewOperationalDiagnostic, subsystem, reasonCode, summary]

/-- The row of a new diagnostic. -/
def diagnosticRow (now : DateTime) (diagnostic : NewOperationalDiagnostic) :
    OperationalDiagnosticRecord where
  operationalDiagnosticId := diagnostic.operationalDiagnosticId
  traceId := diagnostic.traceId
  executionId := diagnostic.executionId
  subsystem := diagnostic.subsystem
  severity := diagnostic.severity
  reasonCode := diagnostic.reasonCode
  summary := diagnostic.summary
  diagnosticPayload := diagnostic.diagnosticPayload
  createdAt := now

/-- `insert_operational_diagnostic`. -/
def insertOperationalDiagnostic (diagnostic : NewOperationalDiagnostic) :
    Harness OperationalDiagnosticRecord := do
  .ofExcept (validateNewOperationalDiagnostic diagnostic)
  execute "failed to insert operational diagnostic" fun now db =>
    .ok { value := ()
          db := { db with operationalDiagnostics :=
            db.operationalDiagnostics ++ [diagnosticRow now diagnostic] } }
  getOperationalDiagnostic diagnostic.operationalDiagnosticId

/-- `diagnostic_payload_json ->> 'worker_lease_id'` is the given lease. -/
def namesWorkerLease (workerLeaseId : Uuid) (payload : Json) : Bool :=
  match payload.get "worker_lease_id" with
  | some (.uuid id) => id = workerLeaseId
  | _ => false

/-- `diagnostic_exists_for_worker_lease`. -/
def diagnosticExistsForWorkerLease (reasonCode : String) (workerLeaseId : Uuid) : Harness Bool :=
  fetch "failed to check worker lease diagnostic existence" fun db =>
    db.operationalDiagnostics.any fun row =>
      row.reasonCode = reasonCode && namesWorkerLease workerLeaseId row.diagnosticPayload

/-! ## Worker leases -/

/-- `get_worker_lease`. -/
def getWorkerLease (workerLeaseId : Uuid) : Harness WorkerLeaseRecord :=
  fetchOne "failed to fetch worker lease" fun db =>
    Table.find WorkerLeaseRecord.workerLeaseId workerLeaseId db.workerLeases

/-- `validate_new_worker_lease`. -/
def validateNewWorkerLease (lease : NewWorkerLease) : Except ErrorChain Unit :=
  if lease.leaseExpiresAt < lease.leaseAcquiredAt then
    .error ["worker lease expiry must not be earlier than acquisition"]
  else if lease.lastHeartbeatAt < lease.leaseAcquiredAt then
    .error ["worker lease heartbeat must not be earlier than acquisition"]
  else .ok ()

/-- The row of a new lease. -/
def leaseRow (now : DateTime) (lease : NewWorkerLease) : WorkerLeaseRecord where
  workerLeaseId := lease.workerLeaseId
  traceId := lease.traceId
  executionId := lease.executionId
  backgroundJobId := lease.backgroundJobId
  backgroundJobRunId := lease.backgroundJobRunId
  governedActionExecutionId := lease.governedActionExecutionId
  workerKind := lease.workerKind
  status := .active
  leaseToken := lease.leaseToken
  workerPid := lease.workerPid
  leaseAcquiredAt := lease.leaseAcquiredAt
  leaseExpiresAt := lease.leaseExpiresAt
  lastHeartbeatAt := lease.lastHeartbeatAt
  metadata := lease.metadata
  createdAt := now
  updatedAt := now

/-- `create_worker_lease`. -/
def createWorkerLease (lease : NewWorkerLease) : Harness WorkerLeaseRecord := do
  .ofExcept (validateNewWorkerLease lease)
  execute "failed to insert worker lease" fun now db =>
    match db.workerLeaseViolation (leaseRow now lease) with
    | some constraint => .error constraint
    | none =>
      .ok { value := (), db := { db with workerLeases := db.workerLeases ++ [leaseRow now lease] } }
  getWorkerLease lease.workerLeaseId

/-- `classify_worker_lease_supervision`; durations are compared in whole milliseconds. -/
def classifyWorkerLeaseSupervision (lease : WorkerLeaseRecord) (now : DateTime)
    (softWarningThresholdPercent : Nat) : Except ErrorChain WorkerLeaseSupervisionDecision :=
  if ¬ (1 ≤ softWarningThresholdPercent ∧ softWarningThresholdPercent ≤ 100) then
    .error ["soft warning threshold percent must be between 1 and 100"]
  else if lease.status ≠ .active then .ok .healthy
  else if lease.leaseExpiresAt ≤ now then .ok .hardExpired
  else
    let totalMs := (lease.leaseExpiresAt - lease.leaseAcquiredAt).tdiv 1000
    if totalMs ≤ 0 then .ok .hardExpired
    else
      let elapsedMs := max ((now - lease.leaseAcquiredAt).tdiv 1000) 0
      let warningMs := (totalMs * softWarningThresholdPercent).tdiv 100
      if elapsedMs ≥ warningMs then .ok .softWarning else .ok .healthy

/-- `UPDATE worker_leases .. WHERE status = 'active' AND ..`: all rows it selects, or none
when one of them would break a constraint. -/
def changeActiveLeases (which : WorkerLeaseRecord → Bool)
    (change : WorkerLeaseRecord → WorkerLeaseRecord) (db : Database) :
    Except String (Effect (List WorkerLeaseRecord)) :=
  let selected := fun row : WorkerLeaseRecord => row.status = .active && which row
  let changed := (db.workerLeases.filter selected).map change
  match changed.findSome? WorkerLeaseRecord.violation with
  | some constraint => .error constraint
  | none =>
    .ok { value := changed
          db := { db with workerLeases := Table.update selected change db.workerLeases } }

theorem changeActiveLeases_eq_ok {which : WorkerLeaseRecord → Bool}
    {change : WorkerLeaseRecord → WorkerLeaseRecord} {db : Database}
    {effect : Effect (List WorkerLeaseRecord)} (h : changeActiveLeases which change db = .ok effect) :
    effect =
      { value := (db.workerLeases.filter fun row => row.status = .active && which row).map change
        db := { db with
          workerLeases :=
            Table.update (fun row => row.status = .active && which row) change
              db.workerLeases } } := by
  dsimp only [changeActiveLeases] at h
  split at h
  · cases h
  · exact (Except.ok.inj h).symm

/-- The row of a lease once it is refreshed. -/
def leaseRefreshed (now heartbeatAt leaseExpiresAt : DateTime) (row : WorkerLeaseRecord) :
    WorkerLeaseRecord :=
  { row with
      lastHeartbeatAt := heartbeatAt
      leaseExpiresAt := leaseExpiresAt
      updatedAt := now }

/-- `refresh_worker_lease`. -/
def refreshWorkerLease (workerLeaseId : Uuid) (heartbeatAt leaseExpiresAt : DateTime) :
    Harness WorkerLeaseRecord := do
  if leaseExpiresAt < heartbeatAt then
    bail "worker lease expiry must not be earlier than the heartbeat"
  else
    let _ ← execute "failed to refresh worker lease" fun now db =>
      changeActiveLeases (fun row => row.workerLeaseId = workerLeaseId)
        (leaseRefreshed now heartbeatAt leaseExpiresAt) db
    getWorkerLease workerLeaseId

/-- `refresh_worker_lease_progress`. -/
def refreshWorkerLeaseProgress (workerLeaseId : Uuid) (heartbeatAt : DateTime) :
    Harness WorkerLeaseRecord := do
  let lease ← getWorkerLease workerLeaseId
  if lease.status ≠ .active then
    bail s!"worker lease {workerLeaseId} cannot be refreshed because status is {lease.status.asStr}"
  else
    let leaseDuration := lease.leaseExpiresAt - lease.leaseAcquiredAt
    if leaseDuration ≤ 0 then
      bail "worker lease duration must be positive for progress refresh"
    else
      refreshWorkerLease workerLeaseId heartbeatAt (heartbeatAt + leaseDuration)

/-- The row of a lease that is over. -/
def leaseEnded (now : DateTime) (status : WorkerLeaseStatus) (releasedAt : DateTime)
    (row : WorkerLeaseRecord) : WorkerLeaseRecord :=
  { row with status := status, releasedAt := some releasedAt, updatedAt := now }

/-- `release_worker_lease`. -/
def releaseWorkerLease (workerLeaseId : Uuid) (releasedAt : DateTime) :
    Harness WorkerLeaseRecord := do
  let _ ← execute "failed to release worker lease" fun now db =>
    changeActiveLeases (fun row => row.workerLeaseId = workerLeaseId)
      (leaseEnded now .released releasedAt) db
  getWorkerLease workerLeaseId

/-- `expire_due_worker_leases`: one statement for every lease that is due. -/
def expireDueWorkerLeases (now : DateTime) : Harness (List WorkerLeaseRecord) :=
  execute "failed to expire due worker leases" fun at_ db =>
    (changeActiveLeases (fun row => row.leaseExpiresAt ≤ now) (leaseEnded at_ .expired now) db).map
      fun effect =>
        { effect with
            events := effect.value.map fun row => Event.leaseExpired row.workerLeaseId }

/-- `terminate_active_worker_lease`. -/
def terminateActiveWorkerLease (workerLeaseId : Uuid) (terminatedAt : DateTime) :
    Harness WorkerLeaseRecord := do
  let rows ← execute "failed to terminate active worker lease" fun now db =>
    changeActiveLeases (fun row => row.workerLeaseId = workerLeaseId)
      (leaseEnded now .terminated terminatedAt) db
  match rows with
  | row :: _ => .ret row
  | [] => do
    let lease ← getWorkerLease workerLeaseId
    bail s!"worker lease {workerLeaseId} cannot be recovered from observed timeout because status is {lease.status.asStr}"

/-- `list_active_worker_leases`. -/
def listActiveWorkerLeases (limit : Nat) : Harness (List WorkerLeaseRecord) :=
  fetch "failed to list active worker leases" fun db =>
    ((db.workerLeases.filter fun row => row.status = .active).insertionSort fun a b =>
      a.leaseExpiresAt < b.leaseExpiresAt ∨
        a.leaseExpiresAt = b.leaseExpiresAt ∧ a.createdAt ≤ b.createdAt).take limit

end Recovery

end BlueLagoon
