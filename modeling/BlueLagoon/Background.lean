import BlueLagoon.Harness

/-!
# Background jobs and their runs

A job is leased by giving it a run; a run that is leased or running is active. A run
without an active worker lease is stranded.
-/

namespace BlueLagoon

open Interleaving Harness

structure UpdateBackgroundJobStatus where
  status : BackgroundJobStatus
  leaseExpiresAt : Option DateTime
  lastStartedAt : Option DateTime
  lastCompletedAt : Option DateTime

structure UpdateBackgroundJobRunStatus where
  status : BackgroundJobRunStatus
  workerPid : Option Int
  startedAt : Option DateTime
  completedAt : Option DateTime
  resultPayload : Option Json
  failurePayload : Option Json

/-- `status IN ('leased', 'running')`. -/
def BackgroundJobRecord.isActive (job : BackgroundJobRecord) : Bool :=
  job.status = .leased || job.status = .running

/-- `status IN ('leased', 'running')`. -/
def BackgroundJobRunRecord.isActive (run : BackgroundJobRunRecord) : Bool :=
  run.status = .leased || run.status = .running

namespace Background

/-! ## Reading -/

/-- `get_job`. -/
def getJob (backgroundJobId : Uuid) : Harness BackgroundJobRecord :=
  fetchOne "failed to fetch background job" fun db =>
    Table.find BackgroundJobRecord.backgroundJobId backgroundJobId db.backgroundJobs

/-- `get_job_run`. -/
def getJobRun (backgroundJobRunId : Uuid) : Harness BackgroundJobRunRecord :=
  fetchOne "failed to fetch background job run" fun db =>
    Table.find BackgroundJobRunRecord.backgroundJobRunId backgroundJobRunId db.backgroundJobRuns

/-- An active run of an active job that no active worker lease names. -/
def isStranded (db : Database) (run : BackgroundJobRunRecord) : Bool :=
  run.isActive &&
    (db.backgroundJobs.any fun job =>
      job.backgroundJobId = run.backgroundJobId && job.isActive) &&
    !(db.workerLeases.any fun lease =>
      lease.backgroundJobRunId = some run.backgroundJobRunId && lease.status = .active)

/-- `ORDER BY COALESCE(started_at, lease_acquired_at), background_job_run_id`. -/
def strandedBefore (a b : BackgroundJobRunRecord) : Prop :=
  let since := fun run : BackgroundJobRunRecord => run.startedAt.getD run.leaseAcquiredAt
  since a < since b ∨ since a = since b ∧ a.backgroundJobRunId ≤ b.backgroundJobRunId

instance : DecidableRel strandedBefore := fun a b => by
  unfold strandedBefore
  infer_instance

/-- The first stranded runs. -/
def strandedRuns (limit : Nat) (db : Database) : List BackgroundJobRunRecord :=
  ((db.backgroundJobRuns.filter (isStranded db)).insertionSort strandedBefore).take limit

/-- `list_active_job_run_pairs_without_worker_leases`. -/
def listActiveJobRunPairsWithoutWorkerLeases (limit : Nat) : Harness (List (Uuid × Uuid)) :=
  fetch "failed to list active background job runs without worker leases" fun db =>
    (strandedRuns limit db).map fun run => (run.backgroundJobId, run.backgroundJobRunId)

/-! ## Status updates -/

/-- The row of a job after an update. -/
def jobUpdated (now : DateTime) (update : UpdateBackgroundJobStatus) (row : BackgroundJobRecord) :
    BackgroundJobRecord :=
  { row with
      status := update.status
      leaseExpiresAt := update.leaseExpiresAt
      lastStartedAt := update.lastStartedAt
      lastCompletedAt := update.lastCompletedAt
      updatedAt := now }

/-- `UPDATE background_jobs .. WHERE background_job_id = $1`. -/
def changeJob (id : Uuid) (change : BackgroundJobRecord → BackgroundJobRecord) (db : Database) :
    Except String (Effect Unit) :=
  match Table.find BackgroundJobRecord.backgroundJobId id db.backgroundJobs with
  | none => .ok { value := (), db := db }
  | some row =>
    match db.backgroundJobViolation (change row) with
    | some constraint => .error constraint
    | none =>
      .ok { value := ()
            db := { db with
              backgroundJobs :=
                Table.update (fun row => row.backgroundJobId = id) change db.backgroundJobs } }

/-- `update_job_status`. -/
def updateJobStatus (backgroundJobId : Uuid) (update : UpdateBackgroundJobStatus) :
    Harness Unit :=
  execute "failed to update background job status" fun now db =>
    changeJob backgroundJobId (jobUpdated now update) db

/-- The row of a run after an update. -/
def runUpdated (now : DateTime) (update : UpdateBackgroundJobRunStatus)
    (row : BackgroundJobRunRecord) : BackgroundJobRunRecord :=
  { row with
      status := update.status
      workerPid := update.workerPid
      startedAt := update.startedAt
      completedAt := update.completedAt
      resultPayload := update.resultPayload
      failurePayload := update.failurePayload
      updatedAt := now }

/-- `UPDATE background_job_runs .. WHERE background_job_run_id = $1`. -/
def changeRun (id : Uuid) (change : BackgroundJobRunRecord → BackgroundJobRunRecord)
    (events : List Event) (db : Database) : Except String (Effect Unit) :=
  match Table.find BackgroundJobRunRecord.backgroundJobRunId id db.backgroundJobRuns with
  | none => .ok { value := (), db := db }
  | some row =>
    match (change row).violation with
    | some constraint => .error constraint
    | none =>
      .ok { value := ()
            db := { db with
              backgroundJobRuns :=
                Table.update (fun row => row.backgroundJobRunId = id) change
                  db.backgroundJobRuns }
            events := events }

/-- `update_job_run_status`; `events` is what the caller's update means to the log. -/
def updateJobRunStatus (backgroundJobRunId : Uuid) (update : UpdateBackgroundJobRunStatus)
    (events : List Event := []) : Harness Unit :=
  execute "failed to update background job run status" fun now db =>
    changeRun backgroundJobRunId (runUpdated now update) events db

end Background

end BlueLagoon
