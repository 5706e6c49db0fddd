import BlueLagoon.WakeSignals

/-!
# Runs of background jobs

A process that looks for work leases the first due job that nobody else is leasing, together with
a new run and its execution. It then runs the worker, applies what the worker hands back, and
completes the run and the job, or records their failure.
-/

namespace BlueLagoon

open Interleaving Harness

/-! ## Leasing -/

namespace Background

/-- Constraints on a `background_job_runs` row that is inserted. -/
def newBackgroundJobRunViolation (db : Database) (row : BackgroundJobRunRecord) : Option String :=
  Database.firstBroken
    [(row.violation.isNone, "background_job_runs_check"),
     (db.backgroundJobRuns.all fun other => other.backgroundJobRunId ≠ row.backgroundJobRunId,
      "background_job_runs_pkey"),
     (db.backgroundJobRuns.all fun other =>
        row.executionId.isNone || other.executionId ≠ row.executionId,
      "background_job_runs_execution_id_key"),
     (db.backgroundJobRuns.all fun other => other.leaseToken ≠ row.leaseToken,
      "background_job_runs_lease_token_key"),
     (db.backgroundJobs.any fun job => job.backgroundJobId = row.backgroundJobId,
      "background_job_runs_background_job_id_fkey"),
     (db.hasExecution row.executionId, "background_job_runs_execution_id_fkey")]

/-- `insert_job_run`. -/
def insertJobRun (row : BackgroundJobRunRecord) (db : Database) : Except ErrorChain Database :=
  match newBackgroundJobRunViolation db row with
  | some constraint => .error ["failed to insert background job run", constraint]
  | none => .ok { db with backgroundJobRuns := db.backgroundJobRuns ++ [row] }

end Background

namespace BackgroundExecution

/-- The identifiers of a lease. -/
structure LeaseIds where
  executionId : Uuid
  backgroundJobRunId : Uuid
  leaseToken : Uuid

/-- The run of a lease. -/
def leasedRun (job : BackgroundJobRecord) (ids : LeaseIds) (now leaseExpiresAt at_ : DateTime) :
    BackgroundJobRunRecord where
  backgroundJobRunId := ids.backgroundJobRunId
  backgroundJobId := job.backgroundJobId
  traceId := job.traceId
  executionId := some ids.executionId
  leaseToken := ids.leaseToken
  status := .leased
  workerPid := none
  leaseAcquiredAt := now
  leaseExpiresAt := leaseExpiresAt
  startedAt := none
  completedAt := none
  resultPayload := none
  failurePayload := none
  createdAt := at_
  updatedAt := at_

/-- The execution of a lease. The request of the worker is left out. -/
def leasedExecution (job : BackgroundJobRecord) (triggerKind : BackgroundTriggerKind)
    (ids : LeaseIds) : NewExecutionRecord where
  executionId := ids.executionId
  traceId := job.traceId
  triggerKind := triggerKind.asStr
  syntheticTrigger := none
  status := "started"
  requestPayload := .null

/-- What a transaction on the tables of the harness leaves behind, with what it says of the
unconscious loop. -/
structure LeaseEffect where
  value : Option LeasedBackgroundExecution
  db : Database
  events : List UnconsciousEvent := []

/-- The transaction of `lease_next_due_job`. -/
def commitLease (columns : Uuid → JobColumns) (locked : List Uuid) (ids : LeaseIds)
    (now leaseExpiresAt at_ : DateTime) (db : Database) : Except ErrorChain LeaseEffect :=
  match Background.leaseDueJob locked at_ now leaseExpiresAt db with
  | .error cause => .error ["failed to lease background job", cause]
  | .ok { value := none, db := _, events := _ } => .ok { value := none, db := db }
  | .ok { value := some job, db := leasedDb, events := _ } =>
    let triggerKind := (columns job.backgroundJobId).triggerKind
    let row := Execution.row at_ (leasedExecution job triggerKind ids)
    match leasedDb.executionRecordViolation row with
    | some constraint => .error ["failed to insert execution record", constraint]
    | none =>
      let executing := { leasedDb with executionRecords := leasedDb.executionRecords ++ [row] }
      match Background.insertJobRun (leasedRun job ids now leaseExpiresAt at_) executing with
      | .error e => .error e
      | .ok running =>
        .ok
          { value := some
              { job := job
                triggerKind := triggerKind
                backgroundJobRunId := ids.backgroundJobRunId
                executionId := ids.executionId
                leaseToken := ids.leaseToken
                leaseExpiresAt := leaseExpiresAt }
            db := running
            events := [.leased job.backgroundJobId ids.backgroundJobRunId] }

/-- `lease_next_due_job`. The identifiers are drawn before the transaction: where no job is due,
nobody sees them. -/
def leaseNextDueJob (leaseTimeoutMs : Nat) (now : DateTime) :
    Unconscious (Option LeasedBackgroundExecution) := do
  let timeoutMs ← Prog.lift (expect
    "background.scheduler.lease_timeout_ms exceeded chrono range" (toI64 leaseTimeoutMs))
  let leaseExpiresAt ← Prog.ofExcept (Chrono.addDuration now (1000 * timeoutMs))
  let executionId ← Prog.lift newUuid
  let backgroundJobRunId ← Prog.lift newUuid
  let leaseToken ← Prog.lift newUuid
  let ids : LeaseIds :=
    { executionId := executionId
      backgroundJobRunId := backgroundJobRunId
      leaseToken := leaseToken }
  Prog.ask (S := unconscious) (Sum.inr .jobColumns) fun (columns : Uuid → JobColumns) =>
    Prog.ask (S := unconscious) (Sum.inr .lockedJobs) fun (locked : List Uuid) =>
      Prog.ask (S := unconscious) (Sum.inl Query.statement) fun (at_ : Option DateTime) =>
        match at_ with
        | none => .fail
            ["failed to begin background lease transaction", "error communicating with database"]
        | some at_ => .tx fun state =>
            (commitLease columns locked ids now leaseExpiresAt at_ state.1.db).map fun effect =>
              { value := effect.value
                state := ({ state.1 with db := effect.db }, state.2)
                events := effect.events.map Sum.inr }

/-! ## Executing -/

structure BackgroundExecutionOutcome where
  backgroundJobId : Uuid
  backgroundJobRunId : Uuid
  executionId : Uuid
  traceId : Uuid
  workerPid : Int
  summary : String
  deriving DecidableEq, Repr

/-- `worker::launch_unconscious_worker`. -/
def launchUnconsciousWorker (executionId : Uuid) :
    Unconscious (Except ErrorChain UnconsciousWorkerResponse) :=
  Prog.ask (S := unconscious) (Sum.inr (.unconsciousWorker executionId))
    fun (response : Except ErrorChain UnconsciousWorkerResponse) => .ret response

/-- `match .. { Ok(..) => .., Err(error) => { persist_background_failure(..); return Err(error) } }`,
once the worker has responded. -/
def orFailure {α : Type} (leased : LeasedBackgroundExecution) (startedAt : DateTime)
    (workerPid : Int) (p : Unconscious α) : Unconscious α := do
  match (← p.attempt) with
  | .ok a => pure a
  | .error e => do
    Prog.lift (persistBackgroundFailure leased startedAt (some workerPid) (errorText e) false)
    .fail e

/-- `validate_diagnostic_alert`. -/
def validateDiagnosticAlert (diagnostic : DiagnosticAlert) : Except ErrorChain Unit :=
  if Text.isBlank diagnostic.code then .error ["diagnostic alert code must not be empty"]
  else if Text.isBlank diagnostic.summary then
    .error ["diagnostic alert summary must not be empty"]
  else .ok ()

/-- One turn of the loop of `persist_diagnostic_alerts`. -/
def persistDiagnosticAlert (leased : LeasedBackgroundExecution) (count : Nat)
    (diagnostic : DiagnosticAlert) : Harness Nat := do
  Prog.ofExcept (validateDiagnosticAlert diagnostic)
  let _ ← Audit.insert
    { loopKind := "unconscious"
      subsystem := "background_execution"
      eventKind := "background_diagnostic_recorded"
      severity := diagnostic.severity.asStr
      traceId := leased.job.traceId
      executionId := some leased.executionId
      payload := .obj
        [("alert_id", .uuid diagnostic.alertId),
         ("code", .str diagnostic.code),
         ("summary", .str diagnostic.summary),
         ("details", .ofOption .str diagnostic.details),
         ("background_job_id", .uuid leased.job.backgroundJobId),
         ("background_job_run_id", .uuid leased.backgroundJobRunId)] }
  pure (count + 1)

/-- `persist_diagnostic_alerts`. -/
def persistDiagnosticAlerts (leased : LeasedBackgroundExecution)
    (diagnostics : List DiagnosticAlert) : Harness Nat :=
  Prog.foldlM (persistDiagnosticAlert leased) 0 diagnostics

/-- The summary of a run that went through. -/
def runSummary (result : UnconsciousWorkerResult) (proposals : ProposalProcessingSummary)
    (retrieval : RetrievalUpdateApplicationSummary) (diagnosticCount : Nat)
    (wakeSignals : WakeSignalPersistenceSummary) : String :=
  s!"{result.summary} | proposals evaluated={proposals.evaluatedCount}, accepted={proposals.acceptedCount}, rejected={proposals.rejectedCount}, canonical_writes={proposals.canonicalWriteCount}, retrieval_updates={retrieval.evaluatedCount}, retrieval_upserts={retrieval.upsertedCount}, retrieval_archives={retrieval.archivedCount}, diagnostics={diagnosticCount}, wake_signals={wakeSignals.totalCount} (accepted={wakeSignals.acceptedCount}, deferred={wakeSignals.deferredCount}, suppressed={wakeSignals.suppressedCount}, rejected={wakeSignals.rejectedCount}, staged={wakeSignals.stagedCount})"

/-- What the worker handed back is applied; the summary of the run. -/
def applyMaintenanceOutputs (policy : WakeSignalPolicy) (leased : LeasedBackgroundExecution)
    (episodeIds : List Uuid) (startedAt : DateTime) (workerPid : Int)
    (result : UnconsciousWorkerResult) : Unconscious String := do
  let proposals ← orFailure leased startedAt workerPid (Prog.lift applyCandidateProposals)
  let retrieval ← orFailure leased startedAt workerPid (Prog.lift
    (Retrieval.applyRetrievalUpdates
      { traceId := leased.job.traceId
        executionId := leased.executionId
        sourceLoopKind := "unconscious"
        subsystem := "background_execution"
        episodeIds := episodeIds } result.maintenanceOutputs.retrievalUpdates))
  let diagnosticCount ← orFailure leased startedAt workerPid (Prog.lift
    (persistDiagnosticAlerts leased result.maintenanceOutputs.diagnostics))
  let wakeSignals ← orFailure leased startedAt workerPid
    (persistWakeSignals policy leased result.maintenanceOutputs.wakeSignals)
  pure (runSummary result proposals retrieval diagnosticCount wakeSignals)

/-- The end of `execute_leased_job`. -/
def completeLeasedJob (leased : LeasedBackgroundExecution) (startedAt : DateTime)
    (response : UnconsciousWorkerResponse) (summary : String) :
    Harness BackgroundExecutionOutcome := do
  let completedAt ← utcNow
  Background.updateJobRunStatus leased.backgroundJobRunId
    { status := .completed
      workerPid := some response.workerPid
      startedAt := some startedAt
      completedAt := some completedAt
      resultPayload := some response.payload
      failurePayload := none }
  Background.updateJobStatus leased.job.backgroundJobId
    { status := .completed
      leaseExpiresAt := none
      lastStartedAt := some startedAt
      lastCompletedAt := some completedAt }
  Execution.markSucceeded leased.executionId "unconscious" response.workerPid response.payload
  let _ ← Audit.insert
    { loopKind := "unconscious"
      subsystem := "background_execution"
      eventKind := "background_job_completed"
      severity := "info"
      traceId := leased.job.traceId
      executionId := some leased.executionId
      payload := .obj
        [("background_job_id", .uuid leased.job.backgroundJobId),
         ("background_job_run_id", .uuid leased.backgroundJobRunId),
         ("job_kind", .str leased.job.jobKind.asStr),
         ("summary", .str summary)] }
  pure
    { backgroundJobId := leased.job.backgroundJobId
      backgroundJobRunId := leased.backgroundJobRunId
      executionId := leased.executionId
      traceId := leased.job.traceId
      workerPid := response.workerPid
      summary := summary }

/-- `execute_leased_job`, whatever the worker does. -/
def runLeasedJob (policy : WakeSignalPolicy) (leased : LeasedBackgroundExecution)
    (episodeIds : List Uuid) : Unconscious BackgroundExecutionOutcome := do
  let (startedAt, workerLease) ← Prog.lift (startLeasedJob leased)
  match (← launchUnconsciousWorker leased.executionId) with
  | .error e => do
    Prog.lift (failLeasedJob leased startedAt workerLease e)
    .fail e
  | .ok response => do
    let now ← Prog.lift utcNow
    let _ ← Prog.lift (context
      "failed to refresh background worker lease after worker response"
      (Recovery.refreshWorkerLeaseProgress workerLease.workerLeaseId now))
    Prog.lift (releaseBackgroundWorkerLease workerLease.workerLeaseId)
    match response.result with
    | none => do
      Prog.lift (persistBackgroundFailure leased startedAt (some response.workerPid)
        "unconscious worker returned an invalid result shape" false)
      .fail ["unconscious worker returned an invalid result shape"]
    | some result => do
      let summary ← applyMaintenanceOutputs policy leased episodeIds startedAt response.workerPid
        result
      Prog.lift (completeLeasedJob leased startedAt response summary)

/-- `execute_next_due_job`. -/
def executeNextDueJob (policy : WakeSignalPolicy) (leaseTimeoutMs : Nat) (now : DateTime) :
    Unconscious (Option BackgroundExecutionOutcome) := do
  match (← leaseNextDueJob leaseTimeoutMs now) with
  | none => pure none
  | some leased =>
    Prog.ask (S := unconscious) (Sum.inr .jobColumns) fun (columns : Uuid → JobColumns) => do
      let outcome ← runLeasedJob policy leased (columns leased.job.backgroundJobId).episodeIds
      pure (some outcome)

end BackgroundExecution

end BlueLagoon
