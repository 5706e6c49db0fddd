import BlueLagoon.Background
import BlueLagoon.BackgroundPlanning
import BlueLagoon.Recovery.Supervision

/-!
# Executing a leased background job

A planned job that is due is leased by giving it a run. The run is started, a worker lease
is taken, and the unconscious worker is launched; when it gives no response the run and its
job are failed before the lease is handed to recovery, or released.

What the harness does with a response is left out, with the request the worker is sent.
-/

namespace BlueLagoon

open Interleaving Harness

/-! ## Leasing -/

namespace Background

/-- `ORDER BY available_at ASC, created_at ASC`. -/
def dueBefore (a b : BackgroundJobRecord) : Prop :=
  a.availableAt < b.availableAt ∨ a.availableAt = b.availableAt ∧ a.createdAt ≤ b.createdAt

instance : DecidableRel dueBefore := fun a b => by
  unfold dueBefore
  infer_instance

/-- The planned jobs that may be leased at `dueBeforeOrAt`. -/
def dueJobs (dueBeforeOrAt : DateTime) (db : Database) : List BackgroundJobRecord :=
  (db.backgroundJobs.filter fun job =>
    job.status = .planned && decide (job.availableAt ≤ dueBeforeOrAt)).insertionSort dueBefore

/-- The row of a job that is leased. -/
def jobLeased (now leaseExpiresAt : DateTime) (row : BackgroundJobRecord) : BackgroundJobRecord :=
  { row with status := .leased, leaseExpiresAt := some leaseExpiresAt, updatedAt := now }

/-- `lease_due_job`, within the transaction of its caller: the first due job that no other
transaction holds locked. -/
def leaseDueJob (locked : List Uuid) (now dueBeforeOrAt leaseExpiresAt : DateTime)
    (db : Database) : Except String (Effect (Option BackgroundJobRecord)) :=
  match (dueJobs dueBeforeOrAt db).filter fun job => job.backgroundJobId ∉ locked with
  | [] => .ok { value := none, db := db }
  | job :: _ =>
    (changeJob job.backgroundJobId (jobLeased now leaseExpiresAt) db).map fun effect =>
      { value := some { job with
          status := .leased
          leaseExpiresAt := some leaseExpiresAt }
        db := effect.db }

end Background

/-! ## Executing -/

/-- A job with the run that it was leased for. -/
structure LeasedBackgroundExecution where
  job : BackgroundJobRecord
  /-- The kind of the trigger of the job. -/
  triggerKind : BackgroundTriggerKind
  backgroundJobRunId : Uuid
  executionId : Uuid
  leaseToken : Uuid
  leaseExpiresAt : DateTime

namespace BackgroundExecution

/-- `create_background_worker_lease`. -/
def createBackgroundWorkerLease (leased : LeasedBackgroundExecution) (startedAt : DateTime) :
    Harness WorkerLeaseRecord := do
  let workerLeaseId ← newUuid
  Recovery.createWorkerLease
    { workerLeaseId := workerLeaseId
      traceId := leased.job.traceId
      executionId := some leased.executionId
      backgroundJobId := some leased.job.backgroundJobId
      backgroundJobRunId := some leased.backgroundJobRunId
      governedActionExecutionId := none
      workerKind := .background
      leaseToken := leased.leaseToken
      workerPid := none
      leaseAcquiredAt := startedAt
      leaseExpiresAt := leased.leaseExpiresAt
      lastHeartbeatAt := startedAt
      metadata := .obj
        [("source", .str "background_execution"),
         ("job_kind", .str leased.job.jobKind.asStr)] }

/-- `release_background_worker_lease`. -/
def releaseBackgroundWorkerLease (workerLeaseId : Uuid) : Harness Unit := do
  let now ← utcNow
  let _ ← Recovery.releaseWorkerLease workerLeaseId now
  pure ()

/-- `persist_background_failure`. -/
def persistBackgroundFailure (leased : LeasedBackgroundExecution) (startedAt : DateTime)
    (workerPid : Option Int) (errorMessage : String) (timedOut : Bool) : Harness Unit := do
  let completedAt ← utcNow
  let failurePayload := Json.obj
    [("kind", .str (if timedOut then "worker_timeout" else "worker_failure")),
     ("message", .str errorMessage)]
  Background.updateJobRunStatus leased.backgroundJobRunId
    { status := if timedOut then .timedOut else .failed
      workerPid := workerPid
      startedAt := some startedAt
      completedAt := some completedAt
      resultPayload := none
      failurePayload := some failurePayload }
  Background.updateJobStatus leased.job.backgroundJobId
    { status := .failed
      leaseExpiresAt := none
      lastStartedAt := some startedAt
      lastCompletedAt := some completedAt }
  Execution.markFailed leased.executionId failurePayload
  let _ ← Audit.insert
    { loopKind := "unconscious"
      subsystem := "background_execution"
      eventKind := if timedOut then "background_job_timed_out" else "background_job_failed"
      severity := "error"
      traceId := leased.job.traceId
      executionId := some leased.executionId
      payload := .obj
        [("background_job_id", .uuid leased.job.backgroundJobId),
         ("background_job_run_id", .uuid leased.backgroundJobRunId),
         ("job_kind", .str leased.job.jobKind.asStr),
         ("error", .str errorMessage)] }
  pure ()

/-- `execute_leased_job` up to the launch of the worker: the start of the run and its worker
lease. -/
def startLeasedJob (leased : LeasedBackgroundExecution) : Harness (DateTime × WorkerLeaseRecord) := do
  let startedAt ← utcNow
  Background.updateJobStatus leased.job.backgroundJobId
    { status := .running
      leaseExpiresAt := some leased.leaseExpiresAt
      lastStartedAt := some startedAt
      lastCompletedAt := leased.job.lastCompletedAt }
  Background.updateJobRunStatus leased.backgroundJobRunId
    { status := .running
      workerPid := none
      startedAt := some startedAt
      completedAt := none
      resultPayload := none
      failurePayload := none }
  let _ ← Audit.insert
    { loopKind := "unconscious"
      subsystem := "background_execution"
      eventKind := "background_job_started"
      severity := "info"
      traceId := leased.job.traceId
      executionId := some leased.executionId
      payload := .obj
        [("background_job_id", .uuid leased.job.backgroundJobId),
         ("background_job_run_id", .uuid leased.backgroundJobRunId),
         ("job_kind", .str leased.job.jobKind.asStr),
         ("trigger_kind", .str leased.triggerKind.asStr),
         ("lease_token", .uuid leased.leaseToken)] }
  let workerLease ← createBackgroundWorkerLease leased startedAt
  pure (startedAt, workerLease)

/-- `timed_out` in `execute_leased_job`: what the error of the worker says. -/
def timedOut (error : ErrorChain) : Bool := Text.contains (errorText error) "timed out"

/-- The branch of `execute_leased_job` for a worker that gave no response. -/
def failLeasedJob (leased : LeasedBackgroundExecution) (startedAt : DateTime)
    (workerLease : WorkerLeaseRecord) (error : ErrorChain) : Harness Unit := do
  persistBackgroundFailure leased startedAt none (errorText error) (timedOut error)
  if timedOut error then
    let now ← utcNow
    let _ ← context "failed to route timed-out background worker lease through recovery"
      (Recovery.recoverObservedWorkerTimeout workerLease.workerLeaseId now
        "background_worker_timeout" (errorText error))
    pure ()
  else
    releaseBackgroundWorkerLease workerLease.workerLeaseId

/-- `execute_leased_job` for a worker that gave no response, up to the `return` of its
error. -/
def executeLeasedJob (leased : LeasedBackgroundExecution) (error : ErrorChain) : Harness Unit := do
  let started ← startLeasedJob leased
  failLeasedJob leased started.1 started.2 error

end BackgroundExecution

end BlueLagoon
