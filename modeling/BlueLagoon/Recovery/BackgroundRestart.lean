import BlueLagoon.Background
import BlueLagoon.Recovery.Triggers

/-!
# Background runs after a supervisor restart

On startup every stranded background run is given a recovery checkpoint, failed, and
its job put back to the planned ones. The checkpoint, the run and the job are written
by separate statements, and the run is failed with the start it had.
-/

namespace BlueLagoon

open Interleaving Harness

namespace Recovery

/-- The evidence a stranded run left. -/
def strandedEvidence (run : BackgroundJobRunRecord) : RecoveryEvidenceState :=
  if run.status = .leased ∧ run.startedAt = none then .notStarted else .durableIncomplete

/-- The decision a stranded run asks for. -/
def strandedDecisionRequest (run : BackgroundJobRunRecord) : RecoveryDecisionRequest where
  checkpointKind := .background
  reasonCode := .supervisorRestart
  actionClassification := .safeReplay
  evidenceState := strandedEvidence run
  approvalState := .notRequired
  policyState := .valid
  recoveryBudgetRemaining := 1
  clarificationAvailable := false

/-- The payload of the checkpoint and the diagnostic of a stranded run. -/
def strandedCheckpointPayload (job : BackgroundJobRecord) (run : BackgroundJobRunRecord) : Json :=
  .obj
    [("source", .str "background_supervisor_startup"),
     ("background_job_id", .uuid job.backgroundJobId),
     ("background_job_run_id", .uuid run.backgroundJobRunId),
     ("job_status", .str job.status.debug),
     ("run_status", .str run.status.debug),
     ("lease_acquired_at", .time run.leaseAcquiredAt),
     ("lease_expires_at", .time run.leaseExpiresAt),
     ("started_at", .ofOption .time run.startedAt),
     ("execution_id", .ofOption .uuid run.executionId)]

/-- The status of the job once its stranded run is failed. -/
def nextJobStatus : RecoveryDecision → BackgroundJobStatus
  | .retry | .continue_ => .planned
  | _ => .failed

/-- The update that fails a stranded run: it keeps the start the run had. -/
def strandedRunUpdate (run : BackgroundJobRunRecord) (now : DateTime) (failurePayload : Json) :
    UpdateBackgroundJobRunStatus where
  status := .failed
  workerPid := run.workerPid
  startedAt := run.startedAt
  completedAt := some now
  resultPayload := none
  failurePayload := some failurePayload

/-- The update of the job of a stranded run. -/
def strandedJobUpdate (job : BackgroundJobRecord) (run : BackgroundJobRunRecord)
    (nextStatus : BackgroundJobStatus) : UpdateBackgroundJobStatus where
  status := nextStatus
  leaseExpiresAt := none
  lastStartedAt := job.lastStartedAt.or run.startedAt
  lastCompletedAt := job.lastCompletedAt

/-- The checkpoint, the decision and the diagnostic of a stranded run. -/
def issueStrandedRunTrigger (now : DateTime) (job : BackgroundJobRecord)
    (run : BackgroundJobRunRecord) : Harness RecoveryTriggerOutcome := do
  let checkpointId ← newUuid
  let diagnosticId ← newUuid
  issueRecoveryTrigger
    { recoveryCheckpointId := checkpointId
      traceId := job.traceId
      executionId := run.executionId
      backgroundJobId := some job.backgroundJobId
      backgroundJobRunId := some run.backgroundJobRunId
      governedActionExecutionId := none
      approvalRequestId := none
      checkpointKind := .background
      recoveryReasonCode := .supervisorRestart
      recoveryBudgetRemaining := 1
      checkpointPayload := strandedCheckpointPayload job run }
    (strandedDecisionRequest run)
    { operationalDiagnosticId := diagnosticId
      traceId := some job.traceId
      executionId := run.executionId
      subsystem := "recovery"
      severity := .warn
      reasonCode := "background_supervisor_restart_recovered"
      summary := "background execution was stranded across supervisor restart; recovery was evaluated"
      diagnosticPayload := strandedCheckpointPayload job run }
    now

/-- The execution record of a stranded run is failed with it. -/
def failStrandedExecution (failurePayload : Json) : Option Uuid → Harness Unit
  | some executionId => Execution.markFailed executionId failurePayload
  | none => pure ()

/-- What follows the trigger of a stranded run: the run, its job and its execution are
written, one after the other. -/
def settleStrandedRun (now : DateTime) (job : BackgroundJobRecord) (run : BackgroundJobRunRecord)
    (outcome : RecoveryTriggerOutcome) : Harness Unit := do
  let failurePayload := Json.obj
    [("kind", .str "supervisor_restart_recovery"),
     ("background_job_id", .uuid job.backgroundJobId),
     ("background_job_run_id", .uuid run.backgroundJobRunId),
     ("recovery_checkpoint_id", .uuid outcome.checkpoint.recoveryCheckpointId),
     ("recovery_decision", .str outcome.decision.decision.asStr),
     ("source", .str "background_supervisor_startup")]
  Background.updateJobRunStatus run.backgroundJobRunId (strandedRunUpdate run now failurePayload)
    [.backgroundRunFailed run.backgroundJobRunId]
  let nextStatus := nextJobStatus outcome.decision.decision
  Background.updateJobStatus job.backgroundJobId (strandedJobUpdate job run nextStatus)
  failStrandedExecution failurePayload run.executionId
  let _ ← Audit.insert
    { loopKind := "unconscious"
      subsystem := "recovery"
      eventKind := "background_job_supervisor_restart_recovered"
      severity := "warn"
      traceId := job.traceId
      executionId := run.executionId
      payload := .obj
        [("background_job_id", .uuid job.backgroundJobId),
         ("background_job_run_id", .uuid run.backgroundJobRunId),
         ("recovery_checkpoint_id", .uuid outcome.checkpoint.recoveryCheckpointId),
         ("recovery_decision", .str outcome.decision.decision.asStr),
         ("next_job_status", .str nextStatus.debug)] }
  pure ()

/-- One turn of the loop of `recover_background_supervisor_restart`. -/
def recoverStrandedRun (now : DateTime) (outcomes : List RecoveryTriggerOutcome)
    (pair : Uuid × Uuid) : Harness (List RecoveryTriggerOutcome) := do
  let job ← Background.getJob pair.1
  let run ← Background.getJobRun pair.2
  let outcome ← issueStrandedRunTrigger now job run
  settleStrandedRun now job run outcome
  pure (outcomes ++ [outcome])

/-- `recover_background_supervisor_restart`. -/
def recoverBackgroundSupervisorRestart (now : DateTime) (limit : Nat) :
    Harness (List RecoveryTriggerOutcome) := do
  let strandedPairs ← Background.listActiveJobRunPairsWithoutWorkerLeases limit
  Prog.foldlM (recoverStrandedRun now) [] strandedPairs

/-! ## What the constraints and the checkpoints say -/

/-- The checkpoint was opened for the run after a supervisor restart. -/
def isRestartCheckpoint (backgroundJobRunId : Uuid) (row : RecoveryCheckpointRecord) : Bool :=
  row.backgroundJobRunId = some backgroundJobRunId && row.recoveryReasonCode = .supervisorRestart

/-- How many checkpoints supervisor restarts have opened for the run. -/
def restartCheckpoints (backgroundJobRunId : Uuid) (db : Database) : Nat :=
  db.recoveryCheckpoints.countP (isRestartCheckpoint backgroundJobRunId)

/-- The constraints of the two tables. -/
structure BackgroundConsistent (db : Database) : Prop where
  runIds : (db.backgroundJobRuns.map BackgroundJobRunRecord.backgroundJobRunId).Nodup
  jobIds : (db.backgroundJobs.map BackgroundJobRecord.backgroundJobId).Nodup
  deduplicated : ((db.backgroundJobs.filter Database.deduplicates).map
    BackgroundJobRecord.deduplicationKey).Nodup
  valid : ∀ run ∈ db.backgroundJobRuns, run.violation = none

/-- No run is recovered twice, and an active run was not recovered at all. -/
structure RecoveredOnce (db : Database) : Prop where
  once : ∀ backgroundJobRunId, restartCheckpoints backgroundJobRunId db ≤ 1
  active : ∀ run ∈ db.backgroundJobRuns, run.isActive →
    restartCheckpoints run.backgroundJobRunId db = 0

/-- What holds between two restarts. -/
structure BackgroundSound (db : Database) : Prop where
  consistent : BackgroundConsistent db
  recoveredOnce : RecoveredOnce db

/-- Every checkpoint that was opened is followed by the failure of its run. -/
def Settled (events : List Event) : Prop :=
  events.countP (fun e => match e with | .checkpointOpened _ => true | _ => false) =
    events.countP fun e => match e with | .backgroundRunFailed _ => true | _ => false

/-! ## The trigger -/

/-- What a trigger that opens `checkpoint` does to the database. -/
structure Triggered (checkpoint : NewRecoveryCheckpoint) (db db' : Database) : Prop where
  frame : ∃ checkpoints diagnostics, db' = { db with
    recoveryCheckpoints := checkpoints, operationalDiagnostics := diagnostics }
  counted : ∀ runId, restartCheckpoints runId db' = restartCheckpoints runId db +
    if checkpoint.backgroundJobRunId = some runId ∧
      checkpoint.recoveryReasonCode = .supervisorRestart then 1 else 0
  present : (Table.find RecoveryCheckpointRecord.recoveryCheckpointId
    checkpoint.recoveryCheckpointId db'.recoveryCheckpoints).isSome

section Alone

variable {answers : Answers system} {w : World} {es : List Event} {now : DateTime}
  {checkpoint : NewRecoveryCheckpoint} {db : Database}

/-- The checkpoint is there, or the database was not reached before its insert or after it. -/
theorem createRecoveryCheckpoint_alone (hbudget : 0 ≤ checkpoint.recoveryBudgetRemaining) :
    (createRecoveryCheckpoint checkpoint).Alone answers (fun r w' es' => match r with
      | .ok row => Triggered checkpoint w.db w'.db ∧
          es' = es ++ [.checkpointOpened checkpoint.recoveryCheckpointId] ∧
          row.recoveryCheckpointId = checkpoint.recoveryCheckpointId
      | .error e => IsFault e ∧ ((w'.db = w.db ∧ es' = es) ∨
          es' = es ++ [.checkpointOpened checkpoint.recoveryCheckpointId])) w es := by
  unfold createRecoveryCheckpoint
  rw [if_neg (by omega)]
  refine Prog.Alone.bind (R := fun r w' es' => match r with
    | .ok _ => Triggered checkpoint w.db w'.db ∧
        es' = es ++ [.checkpointOpened checkpoint.recoveryCheckpointId]
    | .error e => IsFault e ∧ w'.db = w.db ∧ es' = es) ?_ ?_
    (fun e w' es' h => ⟨h.1, Or.inl h.2⟩)
  · refine alone_execute (fun at_ effect hbody => ?_) (fun at_ cause hbody => by cases hbody)
      (fun e he => ⟨he, rfl, rfl⟩)
    obtain rfl := Except.ok.inj hbody
    refine ⟨⟨⟨_, w.db.operationalDiagnostics, rfl⟩, fun runId => ?_, ?_⟩, rfl⟩
    · simp [restartCheckpoints, isRestartCheckpoint, checkpointRow, List.countP_singleton]
    · have hmem : checkpointRow at_ checkpoint ∈
          w.db.recoveryCheckpoints ++ [checkpointRow at_ checkpoint] := by simp
      exact Table.find_isSome_of_mem hmem
  · rintro _ w' es' ⟨htriggered, hes⟩
    obtain ⟨row, hrow⟩ := Option.isSome_iff_exists.mp htriggered.present
    exact alone_fetchOne hrow ⟨htriggered, hes, Table.key_of_find hrow⟩
      fun e he => ⟨he, Or.inr hes⟩

/-- Resolving the checkpoint keeps it. -/
theorem resolveRecoveryCheckpoint_alone {resolution : RecoveryCheckpointResolution}
    (hstatus : resolution.status ≠ .open_)
    (hid : resolution.recoveryCheckpointId = checkpoint.recoveryCheckpointId)
    (h : Triggered checkpoint db w.db) :
    (resolveRecoveryCheckpoint resolution).Alone answers (fun r w' es' => match r with
      | .ok _ => Triggered checkpoint db w'.db ∧ es' = es
      | .error e => IsFault e ∧ es' = es) w es := by
  unfold resolveRecoveryCheckpoint
  rw [if_neg hstatus]
  refine Prog.Alone.bind (R := fun r w' es' => match r with
    | .ok _ => Triggered checkpoint db w'.db ∧ es' = es
    | .error e => IsFault e ∧ es' = es) ?_ ?_ (fun e w' es' h => h)
  · refine alone_execute (fun at_ effect hbody => ?_) (fun at_ cause hbody => by cases hbody)
      (fun e he => ⟨he, rfl⟩)
    obtain rfl := Except.ok.inj hbody
    obtain ⟨⟨checkpoints, diagnostics, hframe⟩, hcounted, hpresent⟩ := h
    refine ⟨⟨⟨_, diagnostics, by rw [hframe]⟩, fun runId => ?_, ?_⟩, by simp⟩
    · rw [← hcounted runId]
      exact Table.countP_update fun _ => rfl
    · have hkey : ∀ row, (checkpointResolved at_ resolution row).recoveryCheckpointId =
          row.recoveryCheckpointId := fun _ => rfl
      dsimp only
      rw [Table.find_update hkey, Option.isSome_map]
      exact hpresent
  · rintro _ w' es' ⟨htriggered, hes⟩
    obtain ⟨row, hrow⟩ := Option.isSome_iff_exists.mp htriggered.present
    rw [← hid] at hrow
    exact alone_fetchOne hrow ⟨htriggered, hes⟩ fun e he => ⟨he, hes⟩

theorem insertOperationalDiagnostic_alone {diagnostic : NewOperationalDiagnostic}
    (hvalid : validateNewOperationalDiagnostic diagnostic = .ok ())
    (h : Triggered checkpoint db w.db) :
    (insertOperationalDiagnostic diagnostic).Alone answers (fun r w' es' => match r with
      | .ok _ => Triggered checkpoint db w'.db ∧ es' = es
      | .error e => IsFault e ∧ es' = es) w es := by
  unfold insertOperationalDiagnostic
  rw [hvalid, Prog.bind_eq, Prog.ofExcept_ok, Prog.ret_bind]
  refine Prog.Alone.bind (R := fun r w' es' => match r with
    | .ok _ => Triggered checkpoint db w'.db ∧ es' = es ∧
        (Table.find OperationalDiagnosticRecord.operationalDiagnosticId
          diagnostic.operationalDiagnosticId w'.db.operationalDiagnostics).isSome
    | .error e => IsFault e ∧ es' = es) ?_ ?_ (fun e w' es' h => h)
  · refine alone_execute (fun at_ effect hbody => ?_) (fun at_ cause hbody => by cases hbody)
      (fun e he => ⟨he, rfl⟩)
    obtain rfl := Except.ok.inj hbody
    obtain ⟨⟨checkpoints, diagnostics, hframe⟩, hcounted, hpresent⟩ := h
    refine ⟨⟨⟨checkpoints, _, by rw [hframe]⟩, hcounted, hpresent⟩, by simp, ?_⟩
    have hmem : diagnosticRow at_ diagnostic ∈ diagnostics ++ [diagnosticRow at_ diagnostic] := by
      simp
    rw [hframe]
    exact Table.find_isSome_of_mem hmem
  · rintro _ w' es' ⟨htriggered, hes, hsome⟩
    obtain ⟨row, hrow⟩ := Option.isSome_iff_exists.mp hsome
    exact alone_fetchOne hrow ⟨htriggered, hes⟩ fun e he => ⟨he, hes⟩

/-- How a trigger ends: with the decision, or cut by a fault before or after its checkpoint. -/
def TriggerEnds (checkpoint : NewRecoveryCheckpoint) (request : RecoveryDecisionRequest)
    (db : Database) (es : List Event) :
    Except ErrorChain RecoveryTriggerOutcome → World → List Event → Prop
  | .ok outcome, w', es' =>
    Triggered checkpoint db w'.db ∧ es' = es ++ [.checkpointOpened checkpoint.recoveryCheckpointId] ∧
      outcome.decision.decision = classifyRecoveryDecision request
  | .error e, w', es' =>
    IsFault e ∧ ((w'.db = db ∧ es' = es) ∨
      es' = es ++ [.checkpointOpened checkpoint.recoveryCheckpointId])

theorem issueRecoveryTrigger_alone {request : RecoveryDecisionRequest}
    {diagnostic : NewOperationalDiagnostic}
    (hbudget : 0 ≤ checkpoint.recoveryBudgetRemaining)
    (hrequest : 0 ≤ request.recoveryBudgetRemaining)
    (hvalid : validateNewOperationalDiagnostic diagnostic = .ok ()) :
    (issueRecoveryTrigger checkpoint request diagnostic now).Alone answers
      (TriggerEnds checkpoint request w.db es) w es := by
  obtain ⟨decision, hdecision, hclass, hstatus⟩ := evaluateRecoveryDecision_ok request hrequest
  unfold issueRecoveryTrigger
  rw [hdecision, Prog.ofExcept_ok]
  refine (createRecoveryCheckpoint_alone hbudget).bind ?_ (fun e w' es' h => h)
  rintro row w' es' ⟨htriggered, hes, hid⟩
  refine (resolveRecoveryCheckpoint_alone ?_ hid htriggered).bind ?_
    (fun e w' es' h => ⟨h.1, Or.inr (h.2.trans hes)⟩)
  · rw [hstatus]
    exact checkpointStatusForDecision_ne_open _
  · rintro resolved w' es' ⟨htriggered, rfl⟩
    refine (insertOperationalDiagnostic_alone hvalid htriggered).bind ?_
      (fun e w' es' h => ⟨h.1, Or.inr (h.2.trans hes)⟩)
    rintro noted w' es' ⟨htriggered, rfl⟩
    exact ⟨htriggered, hes, hclass⟩

/-! ## One stranded run -/

/-- A stranded run that recovery can fail: it has a start. -/
structure Recoverable (pair : Uuid × Uuid) (job : BackgroundJobRecord)
    (run : BackgroundJobRunRecord) (db : Database) : Prop where
  jobFound : Table.find BackgroundJobRecord.backgroundJobId pair.1 db.backgroundJobs = some job
  runFound : Table.find BackgroundJobRunRecord.backgroundJobRunId pair.2 db.backgroundJobRuns = some run
  deduplicates : Database.deduplicates job
  active : run.isActive
  started : run.startedAt.isSome

/-- What the recovery of a stranded run leaves behind. -/
structure RunRecovered (pair : Uuid × Uuid) (db db' : Database) : Prop where
  sound : BackgroundSound db'
  runs : ∃ failed : BackgroundJobRunRecord → BackgroundJobRunRecord,
    (∀ run, (failed run).backgroundJobRunId = run.backgroundJobRunId) ∧
    (∀ run, (failed run).isActive = false) ∧
    db'.backgroundJobRuns =
      Table.update (fun run => run.backgroundJobRunId = pair.2) failed db.backgroundJobRuns
  jobs : ∀ id job, Table.find BackgroundJobRecord.backgroundJobId id db.backgroundJobs = some job →
    Database.deduplicates job → ∃ job', Database.deduplicates job' ∧
      Table.find BackgroundJobRecord.backgroundJobId id db'.backgroundJobs = some job'
  checkpoints : ∀ runId, restartCheckpoints runId db' = restartCheckpoints runId db +
    if pair.2 = runId then 1 else 0

/-- The run has ended, and supervisor restarts opened exactly one checkpoint for it. -/
structure RunDone (backgroundJobRunId : Uuid) (db : Database) : Prop where
  ended : ∀ run ∈ db.backgroundJobRuns, run.backgroundJobRunId = backgroundJobRunId →
    run.isActive = false
  checkpoint : restartCheckpoints backgroundJobRunId db = 1

/-- Soundness is kept, and the runs that were done stay done. -/
structure Progress (db db' : Database) : Prop where
  sound : BackgroundSound db'
  done : ∀ backgroundJobRunId, RunDone backgroundJobRunId db → RunDone backgroundJobRunId db'

/-- The error of a pass, and what holds when no checkpoint was left without its failed run. -/
def CutShort (db : Database) (e : ErrorChain) (w : World) (es : List Event) : Prop :=
  IsFault e ∧ (Settled es → Progress db w.db)

theorem Progress.refl {db : Database} (h : BackgroundSound db) : Progress db db :=
  ⟨h, fun _ hdone => hdone⟩

theorem Progress.trans {db db' db'' : Database} (h : Progress db db') (h' : Progress db' db'') :
    Progress db db'' :=
  ⟨h'.sound, fun id hdone => h'.done id (h.done id hdone)⟩

theorem Settled.opened {es : List Event} (h : Settled es) (id : Uuid) :
    ¬ Settled (es ++ [.checkpointOpened id]) := by
  unfold Settled at h ⊢
  simp only [List.countP_append, List.countP_singleton, h]
  simp

theorem Settled.failed {es : List Event} (h : Settled es) (id runId : Uuid) :
    Settled (es ++ [.checkpointOpened id] ++ [.backgroundRunFailed runId]) := by
  unfold Settled at h ⊢
  simp only [List.countP_append, List.countP_singleton, h]
  simp

/-- The constraints and the checkpoints are about three tables. -/
theorem BackgroundSound.of_same {db db' : Database} (h : BackgroundSound db)
    (runs : db'.backgroundJobRuns = db.backgroundJobRuns)
    (jobs : db'.backgroundJobs = db.backgroundJobs)
    (checkpoints : db'.recoveryCheckpoints = db.recoveryCheckpoints) : BackgroundSound db' where
  consistent :=
    { runIds := by rw [runs]; exact h.consistent.runIds
      jobIds := by rw [jobs]; exact h.consistent.jobIds
      deduplicated := by rw [jobs]; exact h.consistent.deduplicated
      valid := by rw [runs]; exact h.consistent.valid }
  recoveredOnce :=
    { once := by
        simp only [restartCheckpoints, checkpoints]
        exact h.recoveredOnce.once
      active := by
        simp only [restartCheckpoints, checkpoints, runs]
        exact h.recoveredOnce.active }

/-- A run that has a start can be failed. -/
theorem strandedRunUpdate_violation {run : BackgroundJobRunRecord} (hvalid : run.violation = none)
    (hstarted : run.startedAt.isSome) (at_ : DateTime) (failurePayload : Json) :
    (Background.runUpdated at_ (strandedRunUpdate run now failurePayload) run).violation =
      none := by
  rw [BackgroundJobRunRecord.violation, Database.firstBroken_eq_none] at hvalid ⊢
  have hlease := hvalid _ List.mem_cons_self
  simp only [List.mem_cons, List.not_mem_nil, or_false, forall_eq_or_imp, forall_eq]
  exact ⟨hlease, by simp [Background.runUpdated, strandedRunUpdate, hstarted]⟩

/-- Failing the run after its checkpoint is sound. -/
theorem BackgroundSound.runFailed {pair : Uuid × Uuid} {job : BackgroundJobRecord}
    {run : BackgroundJobRunRecord} {db db' : Database} (h : BackgroundSound db)
    (hrun : Recoverable pair job run db) (htriggered : Triggered checkpoint db db')
    (hnames : checkpoint.backgroundJobRunId = some pair.2)
    (hreason : checkpoint.recoveryReasonCode = .supervisorRestart)
    {failed : BackgroundJobRunRecord → BackgroundJobRunRecord}
    (hid : ∀ run, (failed run).backgroundJobRunId = run.backgroundJobRunId)
    (hinactive : ∀ run, (failed run).isActive = false) (hvalid : (failed run).violation = none) :
    BackgroundSound { db' with
      backgroundJobRuns :=
        Table.update (fun row => row.backgroundJobRunId = pair.2) failed db'.backgroundJobRuns } := by
  obtain ⟨⟨checkpoints, diagnostics, rfl⟩, hcounted, -⟩ := htriggered
  have hpair : run.backgroundJobRunId = pair.2 := Table.key_of_find hrun.runFound
  have hmem : run ∈ db.backgroundJobRuns := Table.mem_of_find hrun.runFound
  simp only [hnames, hreason, and_true, Option.some.injEq] at hcounted
  refine ⟨⟨?_, h.consistent.jobIds, h.consistent.deduplicated, ?_⟩, ⟨fun runId => ?_, ?_⟩⟩
  · rw [Table.map_key_update hid]
    exact h.consistent.runIds
  · intro row hrow
    rcases Table.mem_update.mp hrow with ⟨hold, -⟩ | ⟨old, hold, hwhich, rfl⟩
    · exact h.consistent.valid row hold
    · obtain rfl : old = run := Table.eq_of_mem_of_key h.consistent.runIds hold hmem
        ((of_decide_eq_true hwhich).trans hpair.symm)
      exact hvalid
  · -- The run of the pair had no checkpoint before, the others keep theirs.
    have hcount : restartCheckpoints runId _ = _ := hcounted runId
    simp only [restartCheckpoints] at hcount ⊢
    rw [hcount]
    by_cases heq : pair.2 = runId
    · have hzero := h.recoveredOnce.active run hmem hrun.active
      rw [hpair, heq] at hzero
      simp only [restartCheckpoints] at hzero
      simp [heq, hzero]
    · rw [if_neg heq]
      exact h.recoveredOnce.once runId
  · intro row hrow hactive
    rcases Table.mem_update.mp hrow with ⟨hold, hwhich⟩ | ⟨old, hold, hwhich, rfl⟩
    · have hne : pair.2 ≠ row.backgroundJobRunId := Ne.symm (of_decide_eq_false hwhich)
      have hcount : restartCheckpoints row.backgroundJobRunId _ = _ :=
        hcounted row.backgroundJobRunId
      simp only [restartCheckpoints] at hcount ⊢
      rw [hcount, if_neg hne]
      exact h.recoveredOnce.active row hold hactive
    · rw [hinactive] at hactive
      cases hactive

/-- A job that holds its deduplication key may be put back to the planned ones, or leased. -/
theorem heldKey_violation {db : Database} {job changed : BackgroundJobRecord}
    (h : BackgroundConsistent db) (hmem : job ∈ db.backgroundJobs)
    (hdeduplicates : Database.deduplicates job) (hid : changed.backgroundJobId = job.backgroundJobId)
    (hkey : changed.deduplicationKey = job.deduplicationKey)
    (hlease : changed.status ≠ .leased ∨ changed.leaseExpiresAt.isSome) :
    db.backgroundJobViolation changed = none := by
  rw [Database.backgroundJobViolation, Database.firstBroken_eq_none]
  simp only [List.mem_cons, List.not_mem_nil, or_false, forall_eq_or_imp, forall_eq]
  refine ⟨by simpa using hlease, ?_⟩
  rw [Bool.or_eq_true]
  refine Or.inr (List.all_eq_true.mpr fun other hother => ?_)
  by_contra hclash
  simp only [Bool.or_eq_true, not_or, decide_eq_true_eq, Bool.not_eq_true, Bool.not_eq_false',
    Bool.and_eq_true] at hclash
  obtain ⟨hne, hother', hsame⟩ := hclash
  -- Two jobs that hold the same key are the same job.
  have heq : other = job := Table.eq_of_mem_of_key h.deduplicated
    (List.mem_filter.mpr ⟨hother, hother'⟩) (List.mem_filter.mpr ⟨hmem, hdeduplicates⟩)
    (hsame.trans hkey)
  exact hne (by rw [heq, hid])

/-- Putting the job back to the planned ones is sound. -/
theorem BackgroundSound.jobPlanned {db : Database} {job : BackgroundJobRecord} {id : Uuid}
    (h : BackgroundSound db)
    (hfound : Table.find BackgroundJobRecord.backgroundJobId id db.backgroundJobs = some job)
    (hdeduplicates : Database.deduplicates job)
    {planned : BackgroundJobRecord → BackgroundJobRecord}
    (hid : ∀ row, (planned row).backgroundJobId = row.backgroundJobId)
    (hkey : ∀ row, (planned row).deduplicationKey = row.deduplicationKey)
    (hstatus : ∀ row, (planned row).status = .planned) :
    BackgroundSound { db with
      backgroundJobs :=
        Table.update (fun row => row.backgroundJobId = id) planned db.backgroundJobs } where
  consistent :=
    { runIds := h.consistent.runIds
      jobIds := by
        rw [Table.map_key_update hid]
        exact h.consistent.jobIds
      deduplicated := by
        rw [Table.map_filter_update (fun row hrow hwhich => ?_) hkey]
        · exact h.consistent.deduplicated
        · obtain rfl : row = job := Table.eq_of_mem_of_key h.consistent.jobIds hrow
            (Table.mem_of_find hfound)
            ((of_decide_eq_true hwhich).trans (Table.key_of_find hfound).symm)
          rw [hdeduplicates]
          simp [Database.deduplicates, hstatus]
      valid := h.consistent.valid }
  recoveredOnce := ⟨h.recoveredOnce.once, h.recoveredOnce.active⟩

/-- What recovery leaves behind is about three tables. -/
theorem RunRecovered.of_same {pair : Uuid × Uuid} {db db' db'' : Database}
    (h : RunRecovered pair db db') (runs : db''.backgroundJobRuns = db'.backgroundJobRuns)
    (jobs : db''.backgroundJobs = db'.backgroundJobs)
    (checkpoints : db''.recoveryCheckpoints = db'.recoveryCheckpoints) :
    RunRecovered pair db db'' where
  sound := h.sound.of_same runs jobs checkpoints
  runs := by
    rw [runs]
    exact h.runs
  jobs := by
    rw [jobs]
    exact h.jobs
  checkpoints := by
    simp only [restartCheckpoints, checkpoints]
    exact h.checkpoints

theorem RunRecovered.jobPlanned {pair : Uuid × Uuid} {db db' : Database}
    {job : BackgroundJobRecord} (h : RunRecovered pair db db')
    (hfound : Table.find BackgroundJobRecord.backgroundJobId pair.1 db'.backgroundJobs = some job)
    (hdeduplicates : Database.deduplicates job)
    {planned : BackgroundJobRecord → BackgroundJobRecord}
    (hid : ∀ row, (planned row).backgroundJobId = row.backgroundJobId)
    (hkey : ∀ row, (planned row).deduplicationKey = row.deduplicationKey)
    (hstatus : ∀ row, (planned row).status = .planned) :
    RunRecovered pair db { db' with
      backgroundJobs :=
        Table.update (fun row => row.backgroundJobId = pair.1) planned db'.backgroundJobs } where
  sound := h.sound.jobPlanned hfound hdeduplicates hid hkey hstatus
  runs := h.runs
  jobs := by
    intro id job' hjob' hdeduplicates'
    obtain ⟨job'', hdeduplicates'', hjob''⟩ := h.jobs id job' hjob' hdeduplicates'
    rw [Table.find_update hid, hjob'']
    refine ⟨if decide (job''.backgroundJobId = pair.1) then planned job'' else job'', ?_, rfl⟩
    split
    · simp [Database.deduplicates, hstatus]
    · exact hdeduplicates''
  checkpoints := h.checkpoints

/-- The recovered run is done. -/
theorem RunRecovered.done {pair : Uuid × Uuid} {db db' : Database} (h : RunRecovered pair db db')
    (hcount : restartCheckpoints pair.2 db = 0) : RunDone pair.2 db' where
  ended := by
    obtain ⟨failed, -, hinactive, hruns⟩ := h.runs
    intro run hrun hid
    rw [hruns] at hrun
    rcases Table.mem_update.mp hrun with ⟨-, hwhich⟩ | ⟨old, -, -, rfl⟩
    · exact absurd hid (of_decide_eq_false hwhich)
    · exact hinactive old
  checkpoint := by rw [h.checkpoints, hcount, if_pos rfl]

/-- A run that is done stays done when another one is recovered. -/
theorem RunDone.kept {backgroundJobRunId : Uuid} {pair : Uuid × Uuid} {db db' : Database}
    (hdone : RunDone backgroundJobRunId db) (h : RunRecovered pair db db')
    (hne : pair.2 ≠ backgroundJobRunId) :
    RunDone backgroundJobRunId db' where
  ended := by
    obtain ⟨failed, -, hinactive, hruns⟩ := h.runs
    intro run hrun hid
    rw [hruns] at hrun
    rcases Table.mem_update.mp hrun with ⟨hold, -⟩ | ⟨old, -, -, rfl⟩
    · exact hdone.ended run hold hid
    · exact hinactive old
  checkpoint := by rw [h.checkpoints, if_neg hne, hdone.checkpoint]

/-- The run was active, so it was not one of those that were done. -/
theorem RunRecovered.progress {pair : Uuid × Uuid} {job : BackgroundJobRecord}
    {run : BackgroundJobRunRecord} {db db' : Database} (h : RunRecovered pair db db')
    (hrun : Recoverable pair job run db) : Progress db db' where
  sound := h.sound
  done := by
    intro id hdone
    refine hdone.kept h fun heq => ?_
    have hended := hdone.ended run (Table.mem_of_find hrun.runFound)
      ((Table.key_of_find hrun.runFound).trans heq)
    rw [hrun.active] at hended
    cases hended

/-- The statement that fails the run goes through. -/
theorem failStrandedRun_alone {pair : Uuid × Uuid} {job : BackgroundJobRecord}
    {run : BackgroundJobRunRecord} {failurePayload : Json} (h : BackgroundSound db)
    (hrun : Recoverable pair job run db) (htriggered : Triggered checkpoint db w.db)
    (hnames : checkpoint.backgroundJobRunId = some pair.2)
    (hreason : checkpoint.recoveryReasonCode = .supervisorRestart) :
    (Background.updateJobRunStatus run.backgroundJobRunId (strandedRunUpdate run now failurePayload)
      [.backgroundRunFailed run.backgroundJobRunId]).Alone answers (fun r w' es' => match r with
        | .ok _ => RunRecovered pair db w'.db ∧ w'.db.backgroundJobs = db.backgroundJobs ∧
            es' = es ++ [.backgroundRunFailed run.backgroundJobRunId]
        | .error e => IsFault e ∧ es' = es) w es := by
  have hrunId : run.backgroundJobRunId = pair.2 := Table.key_of_find hrun.runFound
  obtain ⟨⟨checkpoints, diagnostics, hframe⟩, hcounted, hpresent⟩ := htriggered
  have hruns : w.db.backgroundJobRuns = db.backgroundJobRuns := by rw [hframe]
  have hvalid : ∀ at_, (Background.runUpdated at_ (strandedRunUpdate run now failurePayload)
      run).violation = none := fun at_ => strandedRunUpdate_violation
    (h.consistent.valid run (Table.mem_of_find hrun.runFound)) hrun.started at_ _
  have hchange : ∀ at_, Background.changeRun run.backgroundJobRunId
      (Background.runUpdated at_ (strandedRunUpdate run now failurePayload))
      [.backgroundRunFailed run.backgroundJobRunId] w.db = .ok
        { value := ()
          db := { w.db with
            backgroundJobRuns :=
              Table.update (fun row => row.backgroundJobRunId = run.backgroundJobRunId)
                (Background.runUpdated at_ (strandedRunUpdate run now failurePayload))
                w.db.backgroundJobRuns }
          events := [.backgroundRunFailed run.backgroundJobRunId] } := by
    intro at_
    rw [Background.changeRun, hruns, hrunId, hrun.runFound]
    simp only [hvalid at_]
  refine alone_execute (fun at_ effect hbody => ?_) (fun at_ cause hbody => ?_)
    (fun e he => ⟨he, rfl⟩)
  · rw [hchange at_] at hbody
    obtain rfl := Except.ok.inj hbody
    refine ⟨⟨?_, ⟨Background.runUpdated at_ (strandedRunUpdate run now failurePayload),
      fun _ => rfl, fun _ => rfl, ?_⟩, ?_, ?_⟩, by rw [hframe], rfl⟩
    · rw [hrunId]
      exact h.runFailed hrun ⟨⟨checkpoints, diagnostics, hframe⟩, hcounted, hpresent⟩ hnames
        hreason (fun _ => rfl) (fun _ => rfl) (hvalid at_)
    · dsimp only
      rw [hrunId, hruns]
    · intro id job' hjob' hdeduplicates'
      refine ⟨job', hdeduplicates', ?_⟩
      dsimp only
      rw [hframe]
      exact hjob'
    · intro runId
      have hcount := hcounted runId
      simp only [hnames, hreason, and_true, Option.some.injEq] at hcount
      exact hcount
  · rw [hchange at_] at hbody
    cases hbody

theorem failStrandedExecution_alone {pair : Uuid × Uuid} {failurePayload : Json}
    {executionId : Option Uuid} (h : RunRecovered pair db w.db) :
    (failStrandedExecution failurePayload executionId).Alone answers (fun r w' es' =>
      es' = es ∧ RunRecovered pair db w'.db ∧ ∀ e, r = .error e → IsFault e) w es := by
  cases executionId with
  | none => exact ⟨rfl, h, fun _ h => by cases h⟩
  | some executionId =>
    refine Execution.markFailed_alone (fun rows => ?_) (fun e he => ?_)
    · exact ⟨rfl, h.of_same rfl rfl rfl, fun _ h => by cases h⟩
    · exact ⟨rfl, h, fun _ h => Except.error.inj h ▸ he⟩

/-- The run is failed, its job planned again, and its execution and the audit log follow. -/
theorem settleStrandedRun_alone {pair : Uuid × Uuid} {job : BackgroundJobRecord}
    {run : BackgroundJobRunRecord} {outcome : RecoveryTriggerOutcome} {id : Uuid}
    (h : BackgroundSound db) (hrun : Recoverable pair job run db)
    (htriggered : Triggered checkpoint db w.db)
    (hnames : checkpoint.backgroundJobRunId = some pair.2)
    (hreason : checkpoint.recoveryReasonCode = .supervisorRestart)
    (hdecision : outcome.decision.decision = .retry) (hes : Settled es) :
    (settleStrandedRun now job run outcome).Alone answers (fun r w' es' => match r with
      | .ok _ => RunRecovered pair db w'.db ∧ Settled es'
      | .error e => CutShort db e w' es') w (es ++ [.checkpointOpened id]) := by
  have hjobId : job.backgroundJobId = pair.1 := Table.key_of_find hrun.jobFound
  unfold settleStrandedRun
  rw [hdecision]
  refine (failStrandedRun_alone h hrun htriggered hnames hreason).bind ?_ ?_
  · rintro _ w' es' ⟨hrecovered, hjobs, rfl⟩
    have hes' := hes.failed id run.backgroundJobRunId
    have hfound : Table.find BackgroundJobRecord.backgroundJobId job.backgroundJobId
        w'.db.backgroundJobs = some job := by
      rw [hjobs, hjobId]
      exact hrun.jobFound
    have hchange : ∀ at_, Background.changeJob job.backgroundJobId (Background.jobUpdated at_
        (strandedJobUpdate job run .planned)) w'.db = .ok
          { value := ()
            db := { w'.db with
              backgroundJobs :=
                Table.update (fun row => row.backgroundJobId = job.backgroundJobId)
                  (Background.jobUpdated at_ (strandedJobUpdate job run .planned))
                  w'.db.backgroundJobs } } := by
      intro at_
      have hviolation : w'.db.backgroundJobViolation
          (Background.jobUpdated at_ (strandedJobUpdate job run .planned) job) = none :=
        heldKey_violation hrecovered.sound.consistent (Table.mem_of_find hfound)
          hrun.deduplicates rfl rfl (Or.inl (by simp [Background.jobUpdated, strandedJobUpdate]))
      rw [Background.changeJob, hfound]
      simp only [hviolation]
    refine Prog.Alone.bind (R := fun r w'' es'' => es'' = es ++ [.checkpointOpened id] ++
        [.backgroundRunFailed run.backgroundJobRunId] ∧ RunRecovered pair db w''.db ∧
          ∀ e, r = .error e → IsFault e) ?_ ?_ ?_
    · refine alone_execute (fun at_ effect hbody => ?_) (fun at_ cause hbody => ?_)
        (fun e he => ⟨rfl, hrecovered, fun _ h => Except.error.inj h ▸ he⟩)
      · obtain rfl := Except.ok.inj ((hchange at_).symm.trans hbody)
        refine ⟨by simp, ?_, fun _ h => by cases h⟩
        rw [hjobId] at hfound
        rw [hjobId]
        exact hrecovered.jobPlanned hfound hrun.deduplicates (fun _ => rfl) (fun _ => rfl)
          (fun _ => rfl)
      · exact absurd ((hchange at_).symm.trans hbody) (by simp)
    · rintro _ w'' es'' ⟨rfl, hplanned, -⟩
      refine (failStrandedExecution_alone hplanned).bind ?_ ?_
      · rintro _ w₃ es₃ ⟨rfl, hfailed, -⟩
        refine Prog.Alone.bind (R := fun r w₄ es₄ => es₄ = es ++ [.checkpointOpened id] ++
          [.backgroundRunFailed run.backgroundJobRunId] ∧ RunRecovered pair db w₄.db ∧
            ∀ e, r = .error e → IsFault e) ?_ ?_ ?_
        · refine Audit.insert_alone (fun id issued rows => ?_) (fun e issued he => ?_)
          · exact ⟨rfl, hfailed.of_same rfl rfl rfl, fun _ h => by cases h⟩
          · exact ⟨rfl, hfailed, fun _ h => Except.error.inj h ▸ he⟩
        · rintro _ w₄ es₄ ⟨rfl, hnoted, -⟩
          exact ⟨hnoted, hes'⟩
        · rintro e w₄ es₄ ⟨rfl, hnoted, hfault⟩
          exact ⟨hfault e rfl, fun _ => hnoted.progress hrun⟩
      · rintro e w₃ es₃ ⟨rfl, hfailed, hfault⟩
        exact ⟨hfault e rfl, fun _ => hfailed.progress hrun⟩
    · rintro e w'' es'' ⟨rfl, hrecovered', hfault⟩
      exact ⟨hfault e rfl, fun _ => hrecovered'.progress hrun⟩
  · rintro e w' es' ⟨hfault, rfl⟩
    exact ⟨hfault, fun hsettled => absurd hsettled (hes.opened id)⟩

/-- A stranded run that has a start is asked to be retried. -/
theorem strandedDecision_retry (run : BackgroundJobRunRecord) :
    classifyRecoveryDecision (strandedDecisionRequest run) = .retry := by
  unfold strandedDecisionRequest strandedEvidence
  split <;> rfl

/-- The trigger of a stranded run opens one checkpoint, for that run. -/
theorem issueStrandedRunTrigger_alone {pair : Uuid × Uuid} {job : BackgroundJobRecord}
    {run : BackgroundJobRunRecord} (hrun : Recoverable pair job run w.db) :
    (issueStrandedRunTrigger now job run).Alone answers (fun r w' es' => match r with
      | .ok outcome => outcome.decision.decision = .retry ∧ ∃ checkpoint,
          Triggered checkpoint w.db w'.db ∧ checkpoint.backgroundJobRunId = some pair.2 ∧
            checkpoint.recoveryReasonCode = .supervisorRestart ∧
            es' = es ++ [.checkpointOpened checkpoint.recoveryCheckpointId]
      | .error e => IsFault e ∧ ((w'.db = w.db ∧ es' = es) ∨
          ∃ id, es' = es ++ [.checkpointOpened id])) w es := by
  unfold issueStrandedRunTrigger
  refine Prog.Alone.bind (R := fun r w' es' => w'.db = w.db ∧ es' = es ∧ ∃ id, r = .ok id)
    (alone_newUuid fun id _ => ⟨rfl, rfl, id, rfl⟩) ?_ (by rintro e w' es' ⟨_, _, _, h⟩; cases h)
  rintro checkpointId w₁ es₁ ⟨hdb₁, rfl, -⟩
  refine Prog.Alone.bind (R := fun r w' es' => w'.db = w.db ∧ es' = es₁ ∧ ∃ id, r = .ok id)
    (alone_newUuid fun id _ => ⟨hdb₁, rfl, id, rfl⟩) ?_ (by rintro e w' es' ⟨_, _, _, h⟩; cases h)
  rintro diagnosticId w₂ es₂ ⟨hdb₂, rfl, -⟩
  have hsummary : Text.isBlank "background execution was stranded across supervisor restart; recovery was evaluated" =
      false := by decide
  have hsubsystem : Text.isBlank "recovery" = false := by decide
  have hreasonCode : Text.isBlank "background_supervisor_restart_recovered" = false := by decide
  refine Prog.Alone.mono (issueRecoveryTrigger_alone ?_ ?_ ?_) fun r w' es' hends => ?_
  · exact Int.le_of_lt Int.one_pos
  · exact Int.le_of_lt Int.one_pos
  · exact validateNewOperationalDiagnostic_ok hsubsystem hreasonCode hsummary
  have hpair : run.backgroundJobRunId = pair.2 := Table.key_of_find hrun.runFound
  rw [hdb₂] at hends
  cases r with
  | ok outcome =>
    obtain ⟨htriggered, hes, hdecision⟩ := hends
    rw [strandedDecision_retry] at hdecision
    exact ⟨hdecision, _, htriggered, by rw [hpair], rfl, hes⟩
  | error e =>
    obtain ⟨hfault, hbefore | hafter⟩ := hends
    · exact ⟨hfault, Or.inl hbefore⟩
    · exact ⟨hfault, Or.inr ⟨_, hafter⟩⟩

/-- One turn of the loop: the run is recovered, or a fault cut it short. -/
theorem recoverStrandedRun_alone {pair : Uuid × Uuid} {job : BackgroundJobRecord}
    {run : BackgroundJobRunRecord} {outcomes : List RecoveryTriggerOutcome}
    (h : BackgroundSound w.db) (hrun : Recoverable pair job run w.db) (hes : Settled es) :
    (recoverStrandedRun now outcomes pair).Alone answers (fun r w' es' => match r with
      | .ok _ => RunRecovered pair w.db w'.db ∧ Settled es'
      | .error e => CutShort w.db e w' es') w es := by
  unfold recoverStrandedRun
  refine Prog.Alone.bind (R := fun r w' es' => w' = w ∧ es' = es ∧ match r with
    | .ok job' => job' = job
    | .error e => IsFault e) ?_ ?_ ?_
  · exact alone_fetchOne hrun.jobFound ⟨rfl, rfl, rfl⟩ fun e he => ⟨rfl, rfl, he⟩
  · rintro _ w₁ es₁ ⟨rfl, rfl, rfl⟩
    refine Prog.Alone.bind (R := fun r w' es' => w' = w₁ ∧ es' = es₁ ∧ match r with
      | .ok run' => run' = run
      | .error e => IsFault e) ?_ ?_ ?_
    · exact alone_fetchOne hrun.runFound ⟨rfl, rfl, rfl⟩ fun e he => ⟨rfl, rfl, he⟩
    · rintro _ _ _ ⟨rfl, rfl, rfl⟩
      refine (issueStrandedRunTrigger_alone hrun).bind ?_ ?_
      · rintro outcome w' es' ⟨hdecision, checkpoint, htriggered, hnames, hreason, rfl⟩
        refine (settleStrandedRun_alone h hrun htriggered hnames hreason hdecision hes).bind ?_ ?_
        · intro _ w'' es'' hrecovered
          exact hrecovered
        · intro e w'' es'' hcut
          exact hcut
      · rintro e w' es' ⟨hfault, ⟨hdb, rfl⟩ | ⟨id, rfl⟩⟩
        · exact ⟨hfault, fun _ => hdb.symm ▸ Progress.refl h⟩
        · exact ⟨hfault, fun hsettled => absurd hsettled (hes.opened id)⟩
    · rintro e _ _ ⟨rfl, rfl, hfault⟩
      exact ⟨hfault, fun _ => Progress.refl h⟩
  · rintro e _ _ ⟨rfl, rfl, hfault⟩
    exact ⟨hfault, fun _ => Progress.refl h⟩

end Alone

/-! ## A whole pass -/

/-- Every run that a restart lists has a start. -/
def AllStarted (limit : Nat) (db : Database) : Prop :=
  ∀ run ∈ Background.strandedRuns limit db, run.startedAt.isSome

/-- What holds between two turns of the loop over `pairs`, with `rest` to come, when it
started in `db`. -/
structure BetweenTurns (db : Database) (pairs rest : List (Uuid × Uuid)) (w : World)
    (es : List Event) : Prop where
  progress : Progress db w.db
  settled : Settled es
  runIds : (rest.map Prod.snd).Nodup
  recoverable : ∀ pair ∈ rest, ∃ job run, Recoverable pair job run w.db
  done : ∀ pair ∈ pairs, pair ∉ rest → RunDone pair.2 w.db

section Pass

variable {answers : Answers system} {w : World} {es : List Event} {now : DateTime}
  {pair : Uuid × Uuid} {db db' : Database}

/-- Recovering one run leaves the others as they were. -/
theorem RunRecovered.recoverable {other : Uuid × Uuid} {job : BackgroundJobRecord}
    {run : BackgroundJobRunRecord} (h : RunRecovered pair db db') (hne : other.2 ≠ pair.2)
    (hrun : Recoverable other job run db) : ∃ job', Recoverable other job' run db' := by
  obtain ⟨job', hdeduplicates, hfound⟩ := h.jobs other.1 job hrun.jobFound hrun.deduplicates
  obtain ⟨failed, hid, -, hruns⟩ := h.runs
  refine ⟨job', hfound, ?_, hdeduplicates, hrun.active, hrun.started⟩
  have hkey : run.backgroundJobRunId = other.2 := Table.key_of_find hrun.runFound
  rw [hruns, Table.find_update hid, hrun.runFound, Option.map_some, hkey,
    if_neg (by simpa using hne)]

/-- One turn of the loop. -/
theorem BetweenTurns.turn {pairs rest : List (Uuid × Uuid)}
    {outcomes : List RecoveryTriggerOutcome} (h : BetweenTurns db pairs (pair :: rest) w es) :
    (recoverStrandedRun now outcomes pair).Alone answers (fun r w' es' => match r with
      | .ok _ => BetweenTurns db pairs rest w' es'
      | .error e => CutShort db e w' es') w es := by
  obtain ⟨job, run, hrun⟩ := h.recoverable pair List.mem_cons_self
  have hsound := h.progress.sound
  have hrunId : run.backgroundJobRunId = pair.2 := Table.key_of_find hrun.runFound
  have hzero : restartCheckpoints pair.2 w.db = 0 := by
    rw [← hrunId]
    exact hsound.recoveredOnce.active run (Table.mem_of_find hrun.runFound) hrun.active
  have hnodup : pair.2 ∉ rest.map Prod.snd ∧ (rest.map Prod.snd).Nodup := by
    have hruns := h.runIds
    rwa [List.map_cons, List.nodup_cons] at hruns
  refine (recoverStrandedRun_alone hsound hrun h.settled).mono fun r w' es' hturn => ?_
  cases r with
  | error e => exact ⟨hturn.1, fun hsettled => h.progress.trans (hturn.2 hsettled)⟩
  | ok outcomes' =>
    obtain ⟨hrecovered, hsettled⟩ := hturn
    refine ⟨h.progress.trans (hrecovered.progress hrun), hsettled, hnodup.2,
      fun other hother => ?_, fun other hother hnot => ?_⟩
    · have hne : other.2 ≠ pair.2 := by
        intro heq
        exact hnodup.1 (heq ▸ List.mem_map_of_mem hother)
      obtain ⟨otherJob, otherRun, hotherRun⟩ :=
        h.recoverable other (List.mem_cons_of_mem _ hother)
      obtain ⟨otherJob', hkept⟩ := hrecovered.recoverable hne hotherRun
      exact ⟨otherJob', otherRun, hkept⟩
    · by_cases hsame : other.2 = pair.2
      · rw [hsame]
        exact hrecovered.done hzero
      · refine (h.done other hother fun hmem => ?_).kept hrecovered (Ne.symm hsame)
        rcases List.mem_cons.mp hmem with rfl | hmem
        · exact hsame rfl
        · exact hnot hmem

/-- The runs that a restart lists are stranded, and stored. -/
theorem mem_strandedRuns {limit : Nat} {run : BackgroundJobRunRecord}
    (h : run ∈ Background.strandedRuns limit db) :
    run ∈ db.backgroundJobRuns ∧ Background.isStranded db run := by
  have hsorted := List.mem_of_mem_take h
  rw [List.mem_insertionSort] at hsorted
  exact List.mem_filter.mp hsorted

/-- No run is listed twice. -/
theorem strandedRuns_ids_nodup (limit : Nat) (h : BackgroundConsistent db) :
    ((Background.strandedRuns limit db).map BackgroundJobRunRecord.backgroundJobRunId).Nodup := by
  have hfiltered : ((db.backgroundJobRuns.filter (Background.isStranded db)).map
      BackgroundJobRunRecord.backgroundJobRunId).Nodup :=
    (List.filter_sublist.map _).nodup h.runIds
  have hperm := (List.perm_insertionSort Background.strandedBefore
    (db.backgroundJobRuns.filter (Background.isStranded db))).map
      BackgroundJobRunRecord.backgroundJobRunId
  exact ((List.take_sublist _ _).map _).nodup (hperm.nodup_iff.mpr hfiltered)

/-- A listed run that has a start can be recovered. -/
theorem recoverable_of_stranded {limit : Nat} {run : BackgroundJobRunRecord}
    (h : BackgroundConsistent db) (hmem : run ∈ Background.strandedRuns limit db)
    (hstarted : run.startedAt.isSome) :
    ∃ job, Recoverable (run.backgroundJobId, run.backgroundJobRunId) job run db := by
  obtain ⟨hrun, hstranded⟩ := mem_strandedRuns hmem
  simp only [Background.isStranded, Bool.and_eq_true, List.any_eq_true, decide_eq_true_eq]
    at hstranded
  obtain ⟨⟨hactive, job, hjob, hid, hjobActive⟩, -⟩ := hstranded
  refine ⟨job, ?_, Table.find_eq_some_of_mem h.runIds hrun, ?_, hactive, hstarted⟩
  · rw [← hid]
    exact Table.find_eq_some_of_mem h.jobIds hjob
  · -- An active job holds its deduplication key.
    simp only [BackgroundJobRecord.isActive, Bool.or_eq_true, decide_eq_true_eq] at hjobActive
    rcases hjobActive with hleased | hrunning
    · simp [Database.deduplicates, hleased]
    · simp [Database.deduplicates, hrunning]

/-- A restart recovers every run it lists, or is cut short by a fault. -/
theorem recoverBackgroundSupervisorRestart_alone {limit : Nat} (h : BackgroundSound w.db)
    (hstarted : AllStarted limit w.db) :
    (recoverBackgroundSupervisorRestart now limit).Alone answers (fun r w' es' => match r with
      | .ok _ => Progress w.db w'.db ∧ ∀ run ∈ Background.strandedRuns limit w.db,
          RunDone run.backgroundJobRunId w'.db
      | .error e => CutShort w.db e w' es') w [] := by
  unfold recoverBackgroundSupervisorRestart Background.listActiveJobRunPairsWithoutWorkerLeases
  refine Prog.Alone.bind (R := fun r w' es' => w' = w ∧ es' = [] ∧ match r with
    | .ok pairs => pairs = (Background.strandedRuns limit w.db).map fun run =>
        (run.backgroundJobId, run.backgroundJobRunId)
    | .error e => IsFault e) ?_ ?_ ?_
  · exact alone_fetch ⟨rfl, rfl, rfl⟩ fun e he => ⟨rfl, rfl, he⟩
  · rintro pairs w₁ es₁ ⟨rfl, rfl, rfl⟩
    have hstart : BetweenTurns w₁.db ((Background.strandedRuns limit w₁.db).map fun run =>
        (run.backgroundJobId, run.backgroundJobRunId)) ((Background.strandedRuns limit w₁.db).map
          fun run => (run.backgroundJobId, run.backgroundJobRunId)) w₁ [] := by
      refine ⟨.refl h, rfl, ?_, fun pair hpair => ?_, fun pair hpair hnot => absurd hpair hnot⟩
      · rw [List.map_map]
        exact strandedRuns_ids_nodup limit h.consistent
      · obtain ⟨run, hrun, rfl⟩ := List.mem_map.mp hpair
        obtain ⟨job, hjob⟩ := recoverable_of_stranded h.consistent hrun (hstarted run hrun)
        exact ⟨job, run, hjob⟩
    refine (Prog.alone_foldlM (J := fun _ rest w' es' => BetweenTurns w₁.db _ rest w' es')
      (E := fun e w' es' => CutShort w₁.db e w' es') (fun outcomes pair rest w' es' hturn => ?_) _ [] w₁
      [] hstart).mono fun r w' es' hend => ?_
    · refine hturn.turn.mono fun r w'' es'' h => ?_
      cases r with
      | error e => exact h
      | ok outcomes => exact h
    cases r with
    | error e => exact hend
    | ok outcomes =>
      exact ⟨hend.progress, fun run hrun => hend.done _ (List.mem_map_of_mem hrun) (by simp)⟩
  · rintro e _ _ ⟨rfl, rfl, hfault⟩
    exact ⟨hfault, fun _ => .refl h⟩

end Pass

/-! ## Restart after restart -/

/-- What the rest of the harness does to the database between two restarts: a run that has
ended is not taken up again, a new run has no checkpoint, and only a restart opens restart
checkpoints. -/
structure Meanwhile (db db' : Database) : Prop where
  consistent : BackgroundConsistent db'
  ended : ∀ run ∈ db.backgroundJobRuns, run.isActive = false →
    ∀ run' ∈ db'.backgroundJobRuns, run'.backgroundJobRunId = run.backgroundJobRunId →
      run'.isActive = false
  fresh : ∀ run' ∈ db'.backgroundJobRuns, run'.isActive →
    (∃ run ∈ db.backgroundJobRuns, run.backgroundJobRunId = run'.backgroundJobRunId) ∨
      restartCheckpoints run'.backgroundJobRunId db' = 0
  checkpoints : ∀ id, restartCheckpoints id db' = restartCheckpoints id db

theorem Meanwhile.progress {db db' : Database} (h : Meanwhile db db') (hdb : BackgroundSound db) :
    Progress db db' where
  sound :=
    { consistent := h.consistent
      recoveredOnce :=
        { once := fun id => (h.checkpoints id).le.trans (hdb.recoveredOnce.once id)
          active := by
            intro run' hrun' hactive
            rcases h.fresh run' hrun' hactive with ⟨run, hrun, hid⟩ | hzero
            · have hwas : run.isActive := by
                by_contra hended
                have hfalse := h.ended run hrun (by simpa using hended) run' hrun' hid.symm
                rw [hactive] at hfalse
                cases hfalse
              rw [h.checkpoints, ← hid]
              exact hdb.recoveredOnce.active run hrun hwas
            · exact hzero } }
  done := by
    intro id hdone
    have hcount : restartCheckpoints id db' = 1 := (h.checkpoints id).trans hdone.checkpoint
    refine ⟨fun run' hrun' hid => ?_, hcount⟩
    by_contra hactive
    rcases h.fresh run' hrun' (by simpa using hactive) with ⟨run, hrun, hsame⟩ | hzero
    · exact hactive (h.ended run hrun (hdone.ended run hrun (hsame.trans hid)) run' hrun' hsame.symm)
    · rw [hid, hcount] at hzero
      cases hzero

/-- The database after any number of restarts, each of which listed started runs only and
left no checkpoint without its failed run, and the runs that the completed ones listed. -/
inductive Restarted (limit : Nat) : Database → List Uuid → Prop
  | start {db : Database} (sound : BackgroundSound db) : Restarted limit db []
  | meanwhile {db db' : Database} {recovered : List Uuid} (run : Restarted limit db recovered)
      (step : Meanwhile db db') : Restarted limit db' recovered
  | restart {w : World} {recovered : List Uuid} {outcomes : List RecoveryTriggerOutcome}
      (run : Restarted limit w.db recovered) (now : DateTime) (o : Oracle system) (n : Nat)
      (started : AllStarted limit w.db)
      (completed : ((recoverBackgroundSupervisorRestart now limit).run o n w).result =
        .ok outcomes) :
      Restarted limit ((recoverBackgroundSupervisorRestart now limit).run o n w).state.db
        (recovered ++ (Background.strandedRuns limit w.db).map
          BackgroundJobRunRecord.backgroundJobRunId)
  | cutShort {w : World} {recovered : List Uuid} {e : ErrorChain}
      (run : Restarted limit w.db recovered) (now : DateTime) (o : Oracle system) (n : Nat)
      (started : AllStarted limit w.db)
      (failed : ((recoverBackgroundSupervisorRestart now limit).run o n w).result = .error e)
      (settled : Settled ((recoverBackgroundSupervisorRestart now limit).run o n w).events) :
      Restarted limit ((recoverBackgroundSupervisorRestart now limit).run o n w).state.db recovered

/-- A restart of which every listed run has a start. -/
theorem recoverBackgroundSupervisorRestart_run {limit : Nat} {w : World} (h : BackgroundSound w.db)
    (hstarted : AllStarted limit w.db) (now : DateTime) (o : Oracle system) (n : Nat) :
    match ((recoverBackgroundSupervisorRestart now limit).run o n w).result with
    | .ok _ => Progress w.db ((recoverBackgroundSupervisorRestart now limit).run o n w).state.db ∧
        ∀ run ∈ Background.strandedRuns limit w.db, RunDone run.backgroundJobRunId
          ((recoverBackgroundSupervisorRestart now limit).run o n w).state.db
    | .error e => CutShort w.db e ((recoverBackgroundSupervisorRestart now limit).run o n w).state
        ((recoverBackgroundSupervisorRestart now limit).run o n w).events := by
  have halone : (recoverBackgroundSupervisorRestart now limit).Alone (fun _ _ => True) _ w [] :=
    recoverBackgroundSupervisorRestart_alone h hstarted
  have hpass := halone.run (o := o) (fun _ _ => trivial) n
  rw [List.nil_append] at hpass
  exact hpass

/-- The invariant of restarts: soundness, and what was recovered is done. -/
theorem Restarted.invariant {limit : Nat} {db : Database} {recovered : List Uuid}
    (h : Restarted limit db recovered) :
    BackgroundSound db ∧ ∀ id ∈ recovered, RunDone id db := by
  induction h with
  | start sound => exact ⟨sound, by simp⟩
  | meanwhile _ step ih =>
    have hprogress := step.progress ih.1
    exact ⟨hprogress.sound, fun id hid => hprogress.done id (ih.2 id hid)⟩
  | restart _ now o n started completed ih =>
    have hpass := recoverBackgroundSupervisorRestart_run ih.1 started now o n
    rw [completed] at hpass
    obtain ⟨hprogress, hdone⟩ := hpass
    refine ⟨hprogress.sound, fun id hid => ?_⟩
    rcases List.mem_append.mp hid with hid | hid
    · exact hprogress.done id (ih.2 id hid)
    · obtain ⟨run, hrun, rfl⟩ := List.mem_map.mp hid
      exact hdone run hrun
  | cutShort _ now o n started failed settled ih =>
    have hpass := recoverBackgroundSupervisorRestart_run ih.1 started now o n
    rw [failed] at hpass
    have hprogress := hpass.2 settled
    exact ⟨hprogress.sound, fun id hid => hprogress.done id (ih.2 id hid)⟩

/-- In every run of restarts that list started runs only: a restart fails only when the
database is not reached, a completed one leaves rows that satisfy the constraints and none
of the listed runs active, and a run has at most one checkpoint, and exactly one for good
once it is recovered. -/
theorem restarts_make_progress {limit : Nat} {db : Database} {recovered : List Uuid}
    (h : Restarted limit db recovered) :
    (∀ id, restartCheckpoints id db ≤ 1) ∧ (∀ id ∈ recovered, RunDone id db) ∧
      ∀ (w : World) (now : DateTime) (o : Oracle system) (n : Nat), w.db = db →
        AllStarted limit db →
        match ((recoverBackgroundSupervisorRestart now limit).run o n w).result with
        | .error e => IsFault e
        | .ok _ =>
          (∀ run ∈ ((recoverBackgroundSupervisorRestart now limit).run o n
            w).state.db.backgroundJobRuns, run.violation = none) ∧
          ∀ run ∈ Background.strandedRuns limit db, RunDone run.backgroundJobRunId
            ((recoverBackgroundSupervisorRestart now limit).run o n w).state.db := by
  obtain ⟨hsound, hdone⟩ := h.invariant
  refine ⟨hsound.recoveredOnce.once, hdone, fun w now o n hw hstarted => ?_⟩
  subst hw
  have hpass := recoverBackgroundSupervisorRestart_run hsound hstarted now o n
  cases hresult : ((recoverBackgroundSupervisorRestart now limit).run o n w).result with
  | error e =>
    rw [hresult] at hpass
    exact hpass.1
  | ok outcomes =>
    rw [hresult] at hpass
    obtain ⟨hprogress, hlisted⟩ := hpass
    exact ⟨hprogress.sound.consistent.valid, hlisted⟩

/-! ## A run that was leased and not started -/

/-- A job that holds a lease on one run, and no worker lease. -/
def strandedDatabase (status : BackgroundJobRunStatus) (startedAt : Option DateTime) :
    Database where
  backgroundJobs :=
    [{ backgroundJobId := 1, traceId := 2, deduplicationKey := "memory_consolidation"
       status := .leased, leaseExpiresAt := some 60 }]
  backgroundJobRuns :=
    [{ backgroundJobRunId := 3, backgroundJobId := 1, traceId := 2, leaseToken := 4
       status := status, leaseAcquiredAt := 10, leaseExpiresAt := 60, startedAt := startedAt }]

theorem strandedDatabase_sound {status : BackgroundJobRunStatus} {startedAt : Option DateTime}
    (h : ∀ run ∈ (strandedDatabase status startedAt).backgroundJobRuns, run.violation = none) :
    BackgroundSound (strandedDatabase status startedAt) where
  consistent :=
    { runIds := by simp [strandedDatabase]
      jobIds := by simp [strandedDatabase]
      deduplicated := by simp [strandedDatabase, Database.deduplicates]
      valid := h }
  recoveredOnce := by
    refine ⟨fun id => ?_, fun run hrun hactive => ?_⟩
    · simp [restartCheckpoints, strandedDatabase]
    · simp [restartCheckpoints, strandedDatabase]

/-- The database after a restart at `now`. -/
def afterRestart (now : DateTime) (w : World) : World :=
  ((recoverBackgroundSupervisorRestart now 40).run (steady now) 100 w).state

/-- A run that was started is recovered by the first restart, and stays so. -/
theorem restarts_make_progress_startedRun :
    RunDone 3 (afterRestart 100 { db := strandedDatabase .running (some 20) }).db := by
  have hsound : BackgroundSound (strandedDatabase .running (some 20)) :=
    strandedDatabase_sound (by decide)
  have hstarted : AllStarted 40 (strandedDatabase .running (some 20)) := by
    unfold AllStarted
    decide
  have hcompleted : ((recoverBackgroundSupervisorRestart 100 40).run (steady 100) 100
      { db := strandedDatabase .running (some 20) }).result.isOk = true := by rfl
  obtain ⟨outcomes, houtcomes⟩ : ∃ outcomes, ((recoverBackgroundSupervisorRestart 100 40).run
      (steady 100) 100 { db := strandedDatabase .running (some 20) }).result = .ok outcomes := by
    cases hresult : ((recoverBackgroundSupervisorRestart 100 40).run (steady 100) 100
        { db := strandedDatabase .running (some 20) }).result with
    | ok outcomes => exact ⟨outcomes, rfl⟩
    | error e =>
      rw [hresult] at hcompleted
      cases hcompleted
  have hrun := Restarted.restart (.start hsound) 100 (steady 100) 100 hstarted houtcomes
  exact (restarts_make_progress hrun).2.1 3 (by decide)

/-- A run that was leased and not started: every restart opens a checkpoint, breaks the
constraint when it fails the run, and leaves the run leased. -/
theorem restart_leasedRun_stuck :
    BackgroundSound (strandedDatabase .leased none) ∧
      ((recoverBackgroundSupervisorRestart 100 40).run (steady 100) 100
        { db := strandedDatabase .leased none }).result =
          .error ["failed to update background job run status", "background_job_runs_check1"] ∧
      ((afterRestart 100 { db := strandedDatabase .leased none }).db.backgroundJobRuns.map
        BackgroundJobRunRecord.status) = [.leased] ∧
      restartCheckpoints 3 (afterRestart 100 (afterRestart 100
        { db := strandedDatabase .leased none })).db = 2 := by
  refine ⟨strandedDatabase_sound (by decide), by rfl, by decide, by decide⟩

end Recovery

end BlueLagoon
