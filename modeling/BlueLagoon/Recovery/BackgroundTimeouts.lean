import BlueLagoon.BackgroundExecution
import BlueLagoon.Recovery.BackgroundRestart
import BlueLagoon.Recovery.ExpiredLeases

/-!
# Background jobs whose worker timed out

A timeout is observed by the process that launched the worker, found by a supervision pass
over the worker leases, or found when the supervisor restarts. Each of the three records a
decision about the run; only the restart writes what the decision says into the job.
-/

namespace BlueLagoon.Recovery

open Interleaving Harness

/-! ## Statuses and recorded decisions -/

/-- The status of a job, if there is one. -/
def jobStatus (backgroundJobId : Uuid) (db : Database) : Option BackgroundJobStatus :=
  (Table.find BackgroundJobRecord.backgroundJobId backgroundJobId db.backgroundJobs).map
    BackgroundJobRecord.status

/-- The status of a run, if there is one. -/
def runStatus (backgroundJobRunId : Uuid) (db : Database) : Option BackgroundJobRunStatus :=
  (Table.find BackgroundJobRunRecord.backgroundJobRunId backgroundJobRunId
    db.backgroundJobRuns).map BackgroundJobRunRecord.status

/-- Between `db` and `db'` a checkpoint was added that records the decision about the run. -/
def Records (backgroundJobRunId : Uuid) (decision : RecoveryDecision) (db db' : Database) : Prop :=
  ∃ row ∈ db'.recoveryCheckpoints.drop db.recoveryCheckpoints.length,
    row.backgroundJobRunId = some backgroundJobRunId ∧ row.recoveryDecision = some decision

/-- The job is among those that may be leased, from the instant on that it is available. -/
def CanBeLeased (backgroundJobId : Uuid) (db : Database) : Prop :=
  ∀ job, Table.find BackgroundJobRecord.backgroundJobId backgroundJobId db.backgroundJobs =
    some job → ∀ now, job.availableAt ≤ now → job ∈ Background.dueJobs now db

/-- What a decision asks of the job of the run. -/
def Demands (backgroundJobId : Uuid) (db : Database) : RecoveryDecision → Prop
  | .retry | .continue_ =>
    jobStatus backgroundJobId db = some .planned ∧ CanBeLeased backgroundJobId db
  | _ => jobStatus backgroundJobId db = some .failed

/-- A planned job may be leased. -/
theorem canBeLeased_of_planned {backgroundJobId : Uuid} {db : Database}
    (h : jobStatus backgroundJobId db = some .planned) : CanBeLeased backgroundJobId db := by
  intro job hjob now hdue
  have hstatus : job.status = .planned := by
    rw [jobStatus, hjob] at h
    exact Option.some.inj h
  rw [Background.dueJobs, List.mem_insertionSort, List.mem_filter]
  refine ⟨Table.mem_of_find hjob, ?_⟩
  simp [hstatus, hdue]

/-! ## Statements that change one table at most -/

/-- The tables that a recovery of a background run reads are left as they are. -/
structure Keeps (db db' : Database) (_events : List Event) : Prop where
  checkpoints : db'.recoveryCheckpoints = db.recoveryCheckpoints
  jobs : db'.backgroundJobs = db.backgroundJobs
  runs : db'.backgroundJobRuns = db.backgroundJobRuns
  leases : db'.workerLeases = db.workerLeases

theorem Keeps.refl (db : Database) : Keeps db db [] := ⟨rfl, rfl, rfl, rfl⟩

/-- The job has the new status; nothing else that a recovery reads is changed. -/
structure JobChanged (backgroundJobId : Uuid) (status : BackgroundJobStatus) (w w' : World) :
    Prop where
  issued : w'.issued = w.issued
  checkpoints : w'.db.recoveryCheckpoints = w.db.recoveryCheckpoints
  runs : ∀ id, runStatus id w'.db = runStatus id w.db
  leases : w'.db.workerLeases = w.db.workerLeases
  jobs : ∀ id, jobStatus id w'.db =
    if id = backgroundJobId then (jobStatus id w.db).map (fun _ => status) else jobStatus id w.db

/-- The run has the new status; nothing else that a recovery reads is changed. -/
structure RunChanged (backgroundJobRunId : Uuid) (status : BackgroundJobRunStatus) (w w' : World) :
    Prop where
  issued : w'.issued = w.issued
  checkpoints : w'.db.recoveryCheckpoints = w.db.recoveryCheckpoints
  jobs : ∀ id, jobStatus id w'.db = jobStatus id w.db
  leases : w'.db.workerLeases = w.db.workerLeases
  runs : ∀ id, runStatus id w'.db =
    if id = backgroundJobRunId then (runStatus id w.db).map (fun _ => status)
    else runStatus id w.db

theorem updateJobStatus_ensures {w : World} {backgroundJobId : Uuid}
    {update : UpdateBackgroundJobStatus} :
    (Background.updateJobStatus backgroundJobId update).Ensures w fun _ w' =>
      JobChanged backgroundJobId update.status w w' := by
  refine ensures_execute fun now effect hbody => ?_
  unfold Background.changeJob at hbody
  split at hbody
  · rename_i hnone
    obtain rfl := Except.ok.inj hbody
    refine ⟨rfl, rfl, fun _ => rfl, rfl, fun id => ?_⟩
    by_cases hid : id = backgroundJobId
    · rw [if_pos hid, hid, jobStatus, hnone]
      rfl
    · rw [if_neg hid]
  · rename_i row hrow
    split at hbody
    · cases hbody
    · obtain rfl := Except.ok.inj hbody
      refine ⟨rfl, rfl, fun _ => rfl, rfl, fun id => ?_⟩
      show Option.map _ (Table.find _ id (Table.update _ _ _)) = _
      rw [Table.map_find_update (b := update.status)]
      · rw [jobStatus, Option.map_map]
        rfl
      · exact fun _ => rfl
      · exact fun _ => rfl

theorem updateJobRunStatus_ensures {w : World} {backgroundJobRunId : Uuid}
    {update : UpdateBackgroundJobRunStatus} {events : List Event} :
    (Background.updateJobRunStatus backgroundJobRunId update events).Ensures w fun _ w' =>
      RunChanged backgroundJobRunId update.status w w' := by
  refine ensures_execute fun now effect hbody => ?_
  unfold Background.changeRun at hbody
  split at hbody
  · rename_i hnone
    obtain rfl := Except.ok.inj hbody
    refine ⟨rfl, rfl, fun _ => rfl, rfl, fun id => ?_⟩
    by_cases hid : id = backgroundJobRunId
    · rw [if_pos hid, hid, runStatus, hnone]
      rfl
    · rw [if_neg hid]
  · rename_i row hrow
    split at hbody
    · cases hbody
    · obtain rfl := Except.ok.inj hbody
      refine ⟨rfl, rfl, fun _ => rfl, rfl, fun id => ?_⟩
      show Option.map _ (Table.find _ id (Table.update _ _ _)) = _
      rw [Table.map_find_update (b := update.status)]
      · rw [runStatus, Option.map_map]
        rfl
      · exact fun _ => rfl
      · exact fun _ => rfl

/-! ## One more checkpoint -/

/-- The identifiers of the checkpoints were issued. -/
def CheckpointsIssued (w : World) : Prop :=
  ∀ row ∈ w.db.recoveryCheckpoints, row.recoveryCheckpointId ∈ w.issued

/-- A checkpoint with the property was added, and nothing else that counts was changed. -/
structure Checkpointed (P : RecoveryCheckpointRecord → Prop) (db : Database) (w : World) :
    Prop where
  issued : CheckpointsIssued w
  added : ∃ row, w.db.recoveryCheckpoints = db.recoveryCheckpoints ++ [row] ∧ P row
  jobs : w.db.backgroundJobs = db.backgroundJobs
  runs : w.db.backgroundJobRuns = db.backgroundJobRuns

theorem CheckpointsIssued.of_keeps {w w' : World} {es : List Event} (h : CheckpointsIssued w)
    (hkeeps : OnDb Keeps w w' es) : CheckpointsIssued w' := by
  intro row hrow
  rw [hkeeps.1.checkpoints] at hrow
  exact hkeeps.2 (h row hrow)

/-- An identifier that was not issued is not that of a checkpoint. -/
theorem CheckpointsIssued.fresh {w : World} (h : CheckpointsIssued w) {id : Uuid}
    (hid : id ∉ w.issued) : ∀ row ∈ w.db.recoveryCheckpoints, row.recoveryCheckpointId ≠ id := by
  intro row hrow heq
  exact hid (heq ▸ h row hrow)

theorem Checkpointed.of_keeps {P : RecoveryCheckpointRecord → Prop} {db : Database} {w w' : World}
    {es : List Event} (h : Checkpointed P db w) (hkeeps : OnDb Keeps w w' es) :
    Checkpointed P db w' where
  issued := h.issued.of_keeps hkeeps
  added := by
    rw [hkeeps.1.checkpoints]
    exact h.added
  jobs := hkeeps.1.jobs.trans h.jobs
  runs := hkeeps.1.runs.trans h.runs

theorem createRecoveryCheckpoint_ensures {w : World} {checkpoint : NewRecoveryCheckpoint}
    (hfresh : ∀ row ∈ w.db.recoveryCheckpoints,
      row.recoveryCheckpointId ≠ checkpoint.recoveryCheckpointId) :
    (createRecoveryCheckpoint checkpoint).Ensures w fun row w' =>
      (∃ now, row = checkpointRow now checkpoint) ∧
        w' = { w with db := { w.db with
          recoveryCheckpoints := w.db.recoveryCheckpoints ++ [row] } } := by
  unfold createRecoveryCheckpoint
  split
  · exact Prog.ensures_fail
  · refine Prog.Ensures.bind (Q := fun _ w' => ∃ now, w' = { w with db := { w.db with
      recoveryCheckpoints := w.db.recoveryCheckpoints ++ [checkpointRow now checkpoint] } })
      (ensures_execute fun now effect hbody => ?_) ?_
    · obtain rfl := Except.ok.inj hbody
      exact ⟨now, rfl⟩
    · rintro _ _ ⟨now, rfl⟩
      refine ensures_fetchOne fun row hrow => ?_
      obtain rfl : checkpointRow now checkpoint = row := by
        have hself : Table.find RecoveryCheckpointRecord.recoveryCheckpointId
            (checkpointRow now checkpoint).recoveryCheckpointId
              (w.db.recoveryCheckpoints ++ [checkpointRow now checkpoint]) =
                some (checkpointRow now checkpoint) := Table.find_append_self hfresh
        exact Option.some.inj (hself.symm.trans hrow)
      exact ⟨⟨now, rfl⟩, rfl⟩

/-- Resolving a checkpoint that is the last of the table changes this row only. -/
theorem resolveRecoveryCheckpoint_ensures {w : World} {rows : List RecoveryCheckpointRecord}
    {row : RecoveryCheckpointRecord} {resolution : RecoveryCheckpointResolution}
    (hrows : w.db.recoveryCheckpoints = rows ++ [row])
    (hid : row.recoveryCheckpointId = resolution.recoveryCheckpointId)
    (hfresh : ∀ other ∈ rows, other.recoveryCheckpointId ≠ row.recoveryCheckpointId) :
    (resolveRecoveryCheckpoint resolution).Ensures w fun _ w' =>
      ∃ now, w' = { w with db := { w.db with
        recoveryCheckpoints := rows ++ [checkpointResolved now resolution row] } } := by
  unfold resolveRecoveryCheckpoint
  split
  · exact Prog.ensures_fail
  · refine Prog.Ensures.bind (Q := fun _ w' => ∃ now, w' = { w with db := { w.db with
      recoveryCheckpoints := rows ++ [checkpointResolved now resolution row] } })
      (ensures_execute fun now effect hbody => ?_) ?_
    · obtain rfl := Except.ok.inj hbody
      refine ⟨now, ?_⟩
      have hold : Table.update
          (fun row => decide (row.recoveryCheckpointId = resolution.recoveryCheckpointId))
          (checkpointResolved now resolution) rows = rows := by
        refine Table.update_eq_self fun other hother => ?_
        rw [← hid]
        exact decide_eq_false (hfresh other hother)
      have hnew : Table.update
          (fun row => decide (row.recoveryCheckpointId = resolution.recoveryCheckpointId))
          (checkpointResolved now resolution) (rows ++ [row]) =
            rows ++ [checkpointResolved now resolution row] := by
        rw [Table.update, List.map_append, ← Table.update, hold, List.map_singleton,
          if_pos (decide_eq_true hid)]
      rw [← hnew, ← hrows]
    · rintro _ _ ⟨now, rfl⟩
      exact ensures_fetchOne fun _ _ => ⟨now, rfl⟩

/-- A checkpoint with an identifier of its own is opened and resolved by a decision. -/
theorem checkpointed_ensures {α : Type} {w : World} {checkpoint : NewRecoveryCheckpoint}
    {now : DateTime}
    {evaluate : RecoveryCheckpointRecord → Except ErrorChain RecoveryDecisionOutcome}
    {rest : RecoveryCheckpointRecord → RecoveryDecisionOutcome → RecoveryCheckpointRecord →
      Harness α}
    {P : RecoveryCheckpointRecord → Prop} (hissued : CheckpointsIssued w)
    (hid : checkpoint.recoveryCheckpointId ∈ w.issued)
    (hfresh : ∀ row ∈ w.db.recoveryCheckpoints,
      row.recoveryCheckpointId ≠ checkpoint.recoveryCheckpointId)
    (hP : ∀ created decision at_ resolution,
      evaluate (checkpointRow created checkpoint) = .ok decision →
        resolution.recoveryDecision = decision.decision →
          P (checkpointResolved at_ resolution (checkpointRow created checkpoint)))
    (hrest : ∀ row decision resolved, (rest row decision resolved).Confined (OnDb Keeps)) :
    ((createRecoveryCheckpoint checkpoint).bind fun row =>
      (Prog.ofExcept (evaluate row)).bind fun decision =>
        (resolveRecoveryCheckpoint
          { recoveryCheckpointId := row.recoveryCheckpointId
            status := decision.checkpointStatus
            recoveryDecision := decision.decision
            resolvedSummary := some decision.summary
            resolvedAt := now }).bind fun resolved => rest row decision resolved).Ensures w
      fun _ w' => Checkpointed P w.db w' := by
  refine (createRecoveryCheckpoint_ensures hfresh).bind ?_
  rintro _ _ ⟨⟨created, rfl⟩, rfl⟩
  refine (Prog.ensures_ofExcept (Q := fun decision w' => w' = _ ∧
    evaluate (checkpointRow created checkpoint) = .ok decision) fun decision h => ⟨rfl, h⟩).bind ?_
  rintro decision _ ⟨rfl, hdecision⟩
  refine (resolveRecoveryCheckpoint_ensures rfl rfl hfresh).bind ?_
  rintro resolved _ ⟨at_, rfl⟩
  refine (hrest _ _ _).ensures (T := Checkpointed P w.db)
    (fun _ _ _ hold hkeeps => hold.of_keeps hkeeps) ?_
  refine ⟨fun row hrow => ?_, ⟨_, rfl, hP created decision at_ _ hdecision rfl⟩, rfl, rfl⟩
  rcases List.mem_append.mp hrow with hold | hnew
  · exact hissued row hold
  · obtain rfl := List.mem_singleton.mp hnew
    exact hid

/-- What an evaluation decides. -/
theorem evaluateRecoveryDecision_decision {request : RecoveryDecisionRequest}
    {outcome : RecoveryDecisionOutcome} (h : evaluateRecoveryDecision request = .ok outcome) :
    outcome.decision = classifyRecoveryDecision request := by
  unfold evaluateRecoveryDecision at h
  split at h
  · cases h
  · obtain rfl := Except.ok.inj h
    rfl

theorem insertOperationalDiagnostic_keeps (diagnostic : NewOperationalDiagnostic) :
    (insertOperationalDiagnostic diagnostic).Confined (OnDb Keeps) := by
  refine Prog.Confined.bind (Prog.confined_ofExcept _) fun _ => ?_
  refine Prog.Confined.bind (confined_execute Keeps.refl ?_) fun _ => confined_fetchOne Keeps.refl
  intro now db effect hbody
  obtain rfl := Except.ok.inj hbody
  exact ⟨rfl, rfl, rfl, rfl⟩

theorem insertAudit_keeps (event : NewAuditEvent) : (Audit.insert event).Confined (OnDb Keeps) :=
  Audit.insert_confined (fun _ _ => ⟨rfl, rfl, rfl, rfl⟩) event

theorem markFailed_keeps (executionId : Uuid) (responsePayload : Json) :
    (Execution.markFailed executionId responsePayload).Confined (OnDb Keeps) :=
  Execution.markFailed_confined (fun _ _ _ => ⟨rfl, rfl, rfl, rfl⟩) executionId responsePayload

theorem reconcileGovernedActionRecovery_keeps (governed : GovernedActionRecoveryContext)
    (decision : RecoveryDecision) (policyState : RecoveryPolicyState) (now : DateTime)
    (summary : String) :
    (reconcileGovernedActionRecovery governed decision policyState now summary).Confined
      (OnDb Keeps) := by
  refine reconcileGovernedActionRecovery_confined (fun _ _ => ⟨rfl, rfl, rfl, rfl⟩) _ _ _ _ _ ?_
  intro status blockedReason completedAt _ _
  exact GovernedActions.updateGovernedActionExecution_confined Keeps.refl
    fun _ _ _ _ _ => ⟨rfl, rfl, rfl, rfl⟩

/-- The checkpoint of a background lease says that its run is to be retried. -/
def DecidesFor (lease : WorkerLeaseRecord) (row : RecoveryCheckpointRecord) : Prop :=
  lease.workerKind = .background →
    row.backgroundJobRunId = lease.backgroundJobRunId ∧ row.recoveryDecision = some .retry

/-- A recovery that goes through leaves a checkpoint with the decision for its lease. -/
theorem recoverWorkerLeaseTimeout_ensures {w : World} {lease : WorkerLeaseRecord}
    {now : DateTime} {source diagnosticReasonCode : String}
    {severity : OperationalDiagnosticSeverity} {errorMessage : Option String}
    (hissued : CheckpointsIssued w) :
    (recoverWorkerLeaseTimeout lease now source diagnosticReasonCode severity
      errorMessage).Ensures w fun _ w' => Checkpointed (DecidesFor lease) w.db w' := by
  unfold recoverWorkerLeaseTimeout
  split
  · rename_i hgoverned
    unfold recoverGovernedActionWorkerLeaseTimeout
    refine Prog.Ensures.bind (Q := fun _ w' => w' = w) ?_ ?_
    · intro o n id hrun
      exact (run_expect_eq_ok hrun).2
    intro governedActionExecutionId w₁ hw₁
    rw [hw₁]
    refine Prog.Ensures.bind (Q := fun _ w' => w' = w) (ensures_fetchOne fun _ _ => rfl) ?_
    intro record w₂ hw₂
    rw [hw₂]
    -- The context is read before the checkpoint gets its identifier.
    refine Prog.Ensures.bind
      (Q := fun _ (w' : World) => w'.db = w.db ∧ w.issued ⊆ w'.issued) ?_ ?_
    · have hreads : (loadGovernedActionRecoveryContext record .timeoutOrStall .valid).Confined
          (OnDb fun db db' _ => db' = db) :=
        loadGovernedActionRecoveryContext_confined (fun _ => rfl) _ _ _
      refine hreads.ensures (T := fun (t : World) => t.db = w.db ∧ w.issued ⊆ t.issued) ?_
        ⟨rfl, List.Subset.refl _⟩
      intro t t' es hold hact
      exact ⟨hact.1.trans hold.1, List.Subset.trans hold.2 hact.2⟩
    rintro governed w₃ ⟨hdb, hsubset⟩
    have hissued₃ : CheckpointsIssued w₃ := by
      intro row hrow
      rw [hdb] at hrow
      exact hsubset (hissued row hrow)
    refine (ensures_newUuid (Q := fun id w' => id ∉ w₃.issued ∧
      w' = { w₃ with issued := id :: w₃.issued }) fun id hid => ⟨hid, rfl⟩).bind ?_
    rintro id _ ⟨hid, rfl⟩
    rw [← hdb]
    refine checkpointed_ensures (w := { w₃ with issued := id :: w₃.issued })
      (fun row hrow => List.mem_cons_of_mem _ (hissued₃ row hrow))
      List.mem_cons_self (hissued₃.fresh hid) ?_ ?_
    · intro created decision at_ resolution _ _ hbackground
      rw [hgoverned] at hbackground
      cases hbackground
    · intro row decision resolved
      refine Prog.Confined.bind (reconcileGovernedActionRecovery_keeps _ _ _ _ _) fun _ => ?_
      refine Prog.Confined.bind (GovernedActions.writeGovernedActionAuditEvent_confined
        (fun _ _ => ⟨rfl, rfl, rfl, rfl⟩) _ _ _ _) fun _ => ?_
      refine Prog.Confined.bind (confined_newUuid Keeps.refl) fun _ => ?_
      exact Prog.Confined.bind (insertOperationalDiagnostic_keeps _) fun _ => Prog.confined_ret _
  · rename_i hkind
    refine (ensures_newUuid (Q := fun id w' => id ∉ w.issued ∧
      w' = { w with issued := id :: w.issued }) fun id hid => ⟨hid, rfl⟩).bind ?_
    rintro id _ ⟨hid, rfl⟩
    refine checkpointed_ensures (fun row hrow => List.mem_cons_of_mem _ (hissued row hrow))
      List.mem_cons_self (hissued.fresh hid) ?_ ?_
    · intro created decision at_ resolution hdecision hresolution hbackground
      refine ⟨rfl, ?_⟩
      show some resolution.recoveryDecision = _
      rw [hresolution, evaluateRecoveryDecision_decision hdecision]
      simp [classifyRecoveryDecision, checkpointRow, recoveryCheckpointKindForWorkerLease,
        recoveryActionClassificationForLease, hbackground]
    · intro row decision resolved
      refine Prog.Confined.bind (confined_newUuid Keeps.refl) fun _ => ?_
      exact Prog.Confined.bind (insertOperationalDiagnostic_keeps _) fun _ => Prog.confined_ret _

/-! ## A supervision pass -/

/-- The decisions that were recorded are those of the checkpoints that were added. -/
theorem records_iff {backgroundJobRunId : Uuid} {decision : RecoveryDecision} {db db' : Database}
    {rows : List RecoveryCheckpointRecord}
    (h : db'.recoveryCheckpoints = db.recoveryCheckpoints ++ rows) :
    Records backgroundJobRunId decision db db' ↔ ∃ row ∈ rows,
      row.backgroundJobRunId = some backgroundJobRunId ∧ row.recoveryDecision = some decision := by
  rw [Records, h, List.drop_left]

/-- The leases of `batch` that are not in `rest` have been recovered. -/
structure BatchRecovered (batch rest : List WorkerLeaseRecord) (db : Database) (w : World) :
    Prop where
  issued : CheckpointsIssued w
  jobs : w.db.backgroundJobs = db.backgroundJobs
  runs : w.db.backgroundJobRuns = db.backgroundJobRuns
  added : ∃ rows, w.db.recoveryCheckpoints = db.recoveryCheckpoints ++ rows ∧
    ∀ lease ∈ batch, lease ∈ rest ∨ ∃ row ∈ rows, DecidesFor lease row

theorem BatchRecovered.of_keeps {batch rest : List WorkerLeaseRecord} {db : Database}
    {w w' : World} {es : List Event} (h : BatchRecovered batch rest db w)
    (hkeeps : OnDb Keeps w w' es) : BatchRecovered batch rest db w' where
  issued := h.issued.of_keeps hkeeps
  jobs := hkeeps.1.jobs.trans h.jobs
  runs := hkeeps.1.runs.trans h.runs
  added := by
    rw [hkeeps.1.checkpoints]
    exact h.added

/-- One turn: the next lease of the batch gets its checkpoint. -/
theorem BatchRecovered.next {batch rest : List WorkerLeaseRecord} {lease : WorkerLeaseRecord}
    {db : Database} {w w' : World} (h : BatchRecovered batch (lease :: rest) db w)
    (hnext : Checkpointed (DecidesFor lease) w.db w') : BatchRecovered batch rest db w' where
  issued := hnext.issued
  jobs := hnext.jobs.trans h.jobs
  runs := hnext.runs.trans h.runs
  added := by
    obtain ⟨rows, hrows, hdecided⟩ := h.added
    obtain ⟨row, hrow, hlease⟩ := hnext.added
    refine ⟨rows ++ [row], by rw [hrow, hrows, List.append_assoc], fun other hother => ?_⟩
    rcases hdecided other hother with hwaiting | ⟨old, hold, hdecides⟩
    · rcases List.mem_cons.mp hwaiting with rfl | hwaiting
      · exact Or.inr ⟨row, by simp, hlease⟩
      · exact Or.inl hwaiting
    · exact Or.inr ⟨old, List.mem_append_left _ hold, hdecides⟩

/-- The leases that are due are handed to recovery with their runs. -/
theorem expireDueWorkerLeases_ensures {w : World} {now : DateTime} :
    (expireDueWorkerLeases now).Ensures w fun batch w' =>
      (∃ rows, w' = { w with db := { w.db with workerLeases := rows } }) ∧
        ∀ lease ∈ w.db.workerLeases, isDue now lease → ∃ expired ∈ batch,
          expired.workerKind = lease.workerKind ∧
            expired.backgroundJobRunId = lease.backgroundJobRunId := by
  refine ensures_execute fun at_ effect hbody => ?_
  cases hchange : changeActiveLeases (fun row => row.leaseExpiresAt ≤ now)
      (leaseEnded at_ .expired now) w.db with
  | error constraint => simp [hchange, Except.map] at hbody
  | ok changed =>
    rw [hchange] at hbody
    obtain rfl := Except.ok.inj hbody
    rw [changeActiveLeases_eq_ok hchange]
    refine ⟨⟨_, rfl⟩, fun lease hlease hdue => ?_⟩
    have hselected : lease ∈ w.db.workerLeases.filter (isDue now) :=
      List.mem_filter.mpr ⟨hlease, hdue⟩
    exact ⟨leaseEnded at_ .expired now lease, List.mem_map_of_mem hselected, rfl, rfl⟩

/-- A pass that ends well records the decision to retry the run of every background lease
that was due, and leaves jobs and runs as they were. -/
theorem superviseWorkerLeases_ensures {w : World} {now : DateTime}
    {softWarningThresholdPercent : Nat} (hissued : CheckpointsIssued w) :
    (superviseWorkerLeases now softWarningThresholdPercent).Ensures w fun _ w' =>
      (∀ id, jobStatus id w'.db = jobStatus id w.db) ∧
        (∀ id, runStatus id w'.db = runStatus id w.db) ∧
        ∀ lease ∈ w.db.workerLeases, isDue now lease → lease.workerKind = .background →
          ∀ id, lease.backgroundJobRunId = some id → Records id .retry w.db w'.db := by
  unfold superviseWorkerLeases
  split
  · exact Prog.ensures_fail
  refine Prog.Ensures.bind (Q := fun _ (w' : World) => ∃ batch, BatchRecovered batch [] w.db w' ∧
    ∀ lease ∈ w.db.workerLeases, isDue now lease → ∃ expired ∈ batch,
      expired.workerKind = lease.workerKind ∧
        expired.backgroundJobRunId = lease.backgroundJobRunId) ?_ ?_
  · refine expireDueWorkerLeases_ensures.bind ?_
    rintro batch _ ⟨⟨rows, rfl⟩, hbatch⟩
    refine (Prog.ensures_foldlM (J := fun _ rest w' => BatchRecovered batch rest w.db w')
      (fun outcomes lease rest t hturn => ?_) batch [] _ ?_).mono ?_
    · refine (recoverWorkerLeaseTimeout_ensures hturn.issued).bind ?_
      intro outcome t' hnext
      exact Prog.ensures_ret (hturn.next hnext)
    · exact ⟨hissued, rfl, rfl, [], by simp, fun lease hlease => Or.inl hlease⟩
    · intro outcomes w' hrecovered
      exact ⟨batch, hrecovered, hbatch⟩
  · rintro outcomes w' ⟨batch, hrecovered, hbatch⟩
    refine Prog.Ensures.mono (Q := fun _ w' => BatchRecovered batch [] w.db w') ?_ ?_
    · exact (warnings_confined Keeps.refl insertOperationalDiagnostic_keeps now
        softWarningThresholdPercent outcomes).ensures
          (fun _ _ _ hold hkeeps => hold.of_keeps hkeeps) hrecovered
    · intro _ w'' h
      refine ⟨fun id => by rw [jobStatus, h.jobs, jobStatus],
        fun id => by rw [runStatus, h.runs, runStatus], fun lease hlease hdue hkind id hid => ?_⟩
      obtain ⟨expired, hexpired, hsameKind, hsameRun⟩ := hbatch lease hlease hdue
      obtain ⟨rows, hrows, hdecided⟩ := h.added
      rcases hdecided expired hexpired with hnil | ⟨row, hrow, hdecides⟩
      · cases hnil
      · obtain ⟨hrun, hdecision⟩ := hdecides (hsameKind.trans hkind)
        rw [records_iff hrows]
        exact ⟨row, hrow, (hrun.trans hsameRun).trans hid, hdecision⟩

/-! ## A timeout that is observed -/

/-- The leases with the identifier are background leases for the run. -/
def LeaseFor (workerLeaseId backgroundJobRunId : Uuid) (db : Database) : Prop :=
  ∀ lease ∈ db.workerLeases, lease.workerLeaseId = workerLeaseId →
    lease.workerKind = .background ∧ lease.backgroundJobRunId = some backgroundJobRunId

/-- The new lease is the only one with its identifier. -/
theorem createBackgroundWorkerLease_ensures {w : World} {leased : LeasedBackgroundExecution}
    {startedAt : DateTime} :
    (BackgroundExecution.createBackgroundWorkerLease leased startedAt).Ensures w fun lease w' =>
      w.issued ⊆ w'.issued ∧ w'.db.recoveryCheckpoints = w.db.recoveryCheckpoints ∧
        LeaseFor lease.workerLeaseId leased.backgroundJobRunId w'.db := by
  unfold BackgroundExecution.createBackgroundWorkerLease
  refine (ensures_newUuid (Q := fun id w' => w' = { w with issued := id :: w.issued })
    fun id _ => rfl).bind ?_
  rintro id _ rfl
  unfold createWorkerLease
  refine Prog.Ensures.bind (Q := fun _ w' => w' = { w with issued := id :: w.issued })
    (Prog.ensures_ofExcept fun _ _ => rfl) ?_
  rintro _ _ rfl
  refine Prog.Ensures.bind (Q := fun _ (w' : World) => w.issued ⊆ w'.issued ∧
    w'.db.recoveryCheckpoints = w.db.recoveryCheckpoints ∧
      LeaseFor id leased.backgroundJobRunId w'.db) (ensures_execute fun now effect hbody => ?_) ?_
  · dsimp only at hbody
    split at hbody
    · cases hbody
    · rename_i hvalid
      obtain rfl := Except.ok.inj hbody
      refine ⟨List.subset_cons_self _ _, rfl, fun lease hlease hid => ?_⟩
      rcases List.mem_append.mp hlease with hold | hnew
      · exact absurd hid (Database.fresh_of_workerLeaseViolation hvalid lease hold)
      · obtain rfl := List.mem_singleton.mp hnew
        exact ⟨rfl, rfl⟩
  · rintro _ w' ⟨hissued, hcheckpoints, hfor⟩
    refine ensures_fetchOne fun lease hlease => ⟨hissued, hcheckpoints, ?_⟩
    rw [Table.key_of_find hlease]
    exact hfor

/-- A run is started with a worker lease of its own, and without a checkpoint. -/
theorem startLeasedJob_ensures {w : World} {leased : LeasedBackgroundExecution} :
    (BackgroundExecution.startLeasedJob leased).Ensures w fun started w' =>
      w.issued ⊆ w'.issued ∧ w'.db.recoveryCheckpoints = w.db.recoveryCheckpoints ∧
        LeaseFor started.2.workerLeaseId leased.backgroundJobRunId w'.db := by
  unfold BackgroundExecution.startLeasedJob
  refine (ensures_utcNow (Q := fun now w' => w' = { w with clock := now })
    fun now _ => rfl).bind ?_
  rintro startedAt _ rfl
  refine updateJobStatus_ensures.bind ?_
  intro _ w₁ hjob
  refine updateJobRunStatus_ensures.bind ?_
  intro _ w₂ hrun
  have hissued₂ : w₂.issued = w.issued := hrun.issued.trans hjob.issued
  have hcheckpoints₂ : w₂.db.recoveryCheckpoints = w.db.recoveryCheckpoints :=
    hrun.checkpoints.trans hjob.checkpoints
  refine Prog.Ensures.bind (Q := fun _ (w' : World) => w.issued ⊆ w'.issued ∧
    w'.db.recoveryCheckpoints = w.db.recoveryCheckpoints) ?_ ?_
  · refine (insertAudit_keeps _).ensures (T := fun (t : World) => w.issued ⊆ t.issued ∧
      t.db.recoveryCheckpoints = w.db.recoveryCheckpoints) ?_ ⟨?_, hcheckpoints₂⟩
    · intro t t' es hold hkeeps
      exact ⟨List.Subset.trans hold.1 hkeeps.2, hkeeps.1.checkpoints.trans hold.2⟩
    · rw [hissued₂]
      exact List.Subset.refl _
  · rintro _ w₃ ⟨hissued₃, hcheckpoints₃⟩
    refine createBackgroundWorkerLease_ensures.bind ?_
    rintro lease w₄ ⟨hissued₄, hcheckpoints₄, hfor⟩
    exact Prog.ensures_ret ⟨List.Subset.trans hissued₃ hissued₄,
      hcheckpoints₄.trans hcheckpoints₃, hfor⟩

/-- What the failure of a run leaves: the job is not planned, the leases are as they were,
and no checkpoint was opened. -/
structure Failed (leased : LeasedBackgroundExecution) (w w' : World) : Prop where
  issued : w.issued ⊆ w'.issued
  checkpoints : w'.db.recoveryCheckpoints = w.db.recoveryCheckpoints
  leases : w'.db.workerLeases = w.db.workerLeases
  job : jobStatus leased.job.backgroundJobId w'.db ≠ some .planned

theorem Failed.of_keeps {leased : LeasedBackgroundExecution} {w w' w'' : World} {es : List Event}
    (h : Failed leased w w') (hkeeps : OnDb Keeps w' w'' es) : Failed leased w w'' where
  issued := List.Subset.trans h.issued hkeeps.2
  checkpoints := hkeeps.1.checkpoints.trans h.checkpoints
  leases := hkeeps.1.leases.trans h.leases
  job := by
    rw [jobStatus, hkeeps.1.jobs]
    exact h.job

theorem persistBackgroundFailure_ensures {w : World} {leased : LeasedBackgroundExecution}
    {startedAt : DateTime} {workerPid : Option Int} {errorMessage : String} {timedOut : Bool} :
    (BackgroundExecution.persistBackgroundFailure leased startedAt workerPid errorMessage
      timedOut).Ensures w fun _ w' => Failed leased w w' := by
  unfold BackgroundExecution.persistBackgroundFailure
  refine (ensures_utcNow (Q := fun now w' => w' = { w with clock := now })
    fun now _ => rfl).bind ?_
  rintro completedAt _ rfl
  refine updateJobRunStatus_ensures.bind ?_
  intro _ w₁ hrun
  refine updateJobStatus_ensures.bind ?_
  intro _ w₂ hjob
  have hfailed : Failed leased w w₂ := by
    refine ⟨?_, hjob.checkpoints.trans hrun.checkpoints, hjob.leases.trans hrun.leases, ?_⟩
    · rw [hjob.issued, hrun.issued]
      exact List.Subset.refl _
    · rw [hjob.jobs, if_pos rfl]
      cases jobStatus leased.job.backgroundJobId w₁.db <;> simp
  refine ((markFailed_keeps _ _).ensures (T := Failed leased w)
    (fun _ _ _ hold hkeeps => hold.of_keeps hkeeps) hfailed).bind ?_
  intro _ w₃ hmarked
  refine ((insertAudit_keeps _).ensures (T := Failed leased w)
    (fun _ _ _ hold hkeeps => hold.of_keeps hkeeps) hmarked).bind ?_
  intro _ w₄ hnoted
  exact Prog.ensures_ret hnoted

/-- The lease that was terminated is one of those with the identifier. -/
theorem terminateActiveWorkerLease_ensures {w : World} {workerLeaseId : Uuid}
    {terminatedAt : DateTime} :
    (terminateActiveWorkerLease workerLeaseId terminatedAt).Ensures w fun lease w' =>
      (∃ rows, w' = { w with db := { w.db with workerLeases := rows } }) ∧
        ∃ old ∈ w.db.workerLeases, old.workerLeaseId = workerLeaseId ∧
          lease.workerKind = old.workerKind ∧
            lease.backgroundJobRunId = old.backgroundJobRunId := by
  unfold terminateActiveWorkerLease
  refine Prog.Ensures.bind (Q := fun terminated w' =>
    (∃ rows, w' = { w with db := { w.db with workerLeases := rows } }) ∧
      ∀ lease ∈ terminated, ∃ old ∈ w.db.workerLeases, old.workerLeaseId = workerLeaseId ∧
        lease.workerKind = old.workerKind ∧ lease.backgroundJobRunId = old.backgroundJobRunId)
    (ensures_execute fun now effect hbody => ?_) ?_
  · rw [changeActiveLeases_eq_ok hbody]
    refine ⟨⟨_, rfl⟩, fun lease hlease => ?_⟩
    obtain ⟨old, hselected, rfl⟩ := List.mem_map.mp hlease
    obtain ⟨hold, hwhich⟩ := List.mem_filter.mp hselected
    rw [Bool.and_eq_true] at hwhich
    exact ⟨old, hold, of_decide_eq_true hwhich.2, rfl, rfl⟩
  · rintro terminated w' ⟨hdb, hterminated⟩
    cases terminated with
    | nil =>
      refine Prog.Ensures.bind (Q := fun _ _ => True) (ensures_fetchOne fun _ _ => trivial) ?_
      intro lease t _
      exact Prog.ensures_fail
    | cons lease others => exact Prog.ensures_ret ⟨hdb, hterminated lease List.mem_cons_self⟩

/-- A timeout that is observed records the decision to retry the run, and leaves its job
unplanned. -/
theorem executeLeasedJob_ensures {w : World} {leased : LeasedBackgroundExecution}
    {error : ErrorChain} (hissued : CheckpointsIssued w)
    (htimedOut : BackgroundExecution.timedOut error) :
    (BackgroundExecution.executeLeasedJob leased error).Ensures w fun _ w' =>
      Records leased.backgroundJobRunId .retry w.db w'.db ∧
        jobStatus leased.job.backgroundJobId w'.db ≠ some .planned := by
  unfold BackgroundExecution.executeLeasedJob
  refine startLeasedJob_ensures.bind ?_
  rintro ⟨startedAt, workerLease⟩ w₁ ⟨hissued₁, hcheckpoints₁, hfor⟩
  unfold BackgroundExecution.failLeasedJob
  refine persistBackgroundFailure_ensures.bind ?_
  intro _ w₂ hfailed
  rw [if_pos htimedOut]
  refine (ensures_utcNow (Q := fun now w' => w' = { w₂ with clock := now })
    fun now _ => rfl).bind ?_
  rintro now _ rfl
  have hcheckpoints₂ : w₂.db.recoveryCheckpoints = w.db.recoveryCheckpoints :=
    hfailed.checkpoints.trans hcheckpoints₁
  have hissued₂ : CheckpointsIssued w₂ := by
    intro row hrow
    rw [hcheckpoints₂] at hrow
    exact hfailed.issued (hissued₁ (hissued row hrow))
  refine Prog.Ensures.bind (Q := fun _ (w' : World) =>
    Records leased.backgroundJobRunId .retry w.db w'.db ∧
      jobStatus leased.job.backgroundJobId w'.db ≠ some .planned) (Prog.Ensures.mapError ?_)
    fun _ _ h => Prog.ensures_ret h
  unfold recoverObservedWorkerTimeout
  split
  · exact Prog.ensures_fail
  split
  · exact Prog.ensures_fail
  refine terminateActiveWorkerLease_ensures.bind ?_
  rintro lease _ ⟨⟨rows, rfl⟩, old, hold, hid, hkind, hrun⟩
  have hissued₃ : CheckpointsIssued
      { w₂ with clock := now, db := { w₂.db with workerLeases := rows } } := hissued₂
  refine (recoverWorkerLeaseTimeout_ensures hissued₃).mono ?_
  intro outcome w' hcheckpointed
  obtain ⟨row, hrow, hdecides⟩ := hcheckpointed.added
  -- The lease that is terminated is the one the run was started with.
  have hlease : old.workerKind = .background ∧
      old.backgroundJobRunId = some leased.backgroundJobRunId := by
    refine hfor old ?_ hid
    rw [← hfailed.leases]
    exact hold
  obtain ⟨hrowRun, hdecision⟩ := hdecides (hkind.trans hlease.1)
  refine ⟨(records_iff (hrow.trans ?_)).mpr
    ⟨row, List.mem_singleton_self row, (hrowRun.trans hrun).trans hlease.2, hdecision⟩, ?_⟩
  · rw [← hcheckpoints₂]
  · rw [jobStatus, hcheckpointed.jobs]
    exact hfailed.job

/-! ## A restart of the supervisor -/

/-- What the recovery of a stranded run leaves behind. -/
structure RunReplanned (pair : Uuid × Uuid) (db : Database) (w : World) : Prop where
  issued : CheckpointsIssued w
  added : ∃ row, w.db.recoveryCheckpoints = db.recoveryCheckpoints ++ [row] ∧
    row.backgroundJobRunId = some pair.2 ∧ row.recoveryDecision = some .retry
  jobs : ∀ id, jobStatus id w.db = if id = pair.1 then some .planned else jobStatus id db
  runs : ∀ id, runStatus id w.db = if id = pair.2 then some .failed else runStatus id db

theorem RunReplanned.of_keeps {pair : Uuid × Uuid} {db : Database} {w w' : World}
    {es : List Event} (h : RunReplanned pair db w) (hkeeps : OnDb Keeps w w' es) :
    RunReplanned pair db w' where
  issued := h.issued.of_keeps hkeeps
  added := by
    rw [hkeeps.1.checkpoints]
    exact h.added
  jobs := by
    simp only [jobStatus, hkeeps.1.jobs]
    exact h.jobs
  runs := by
    simp only [runStatus, hkeeps.1.runs]
    exact h.runs

/-- A trigger returns the decision that the request is classified by. -/
theorem issueRecoveryTrigger_decision {w : World} {checkpoint : NewRecoveryCheckpoint}
    {request : RecoveryDecisionRequest} {diagnostic : NewOperationalDiagnostic} {now : DateTime} :
    (issueRecoveryTrigger checkpoint request diagnostic now).Ensures w fun outcome _ =>
      outcome.decision.decision = classifyRecoveryDecision request := by
  unfold issueRecoveryTrigger
  refine Prog.Ensures.bind (Q := fun _ _ => True) (fun _ _ _ _ => trivial) ?_
  intro row w₁ _
  refine Prog.Ensures.bind
    (Q := fun (decision : RecoveryDecisionOutcome) _ =>
      decision.decision = classifyRecoveryDecision request)
    (Prog.ensures_ofExcept fun _ => evaluateRecoveryDecision_decision) ?_
  intro decision w₂ hdecision
  refine Prog.Ensures.bind (Q := fun _ _ => True) (fun _ _ _ _ => trivial) ?_
  intro resolved w₃ _
  refine Prog.Ensures.bind (Q := fun _ _ => True) (fun _ _ _ _ => trivial) ?_
  intro noted w₄ _
  exact Prog.ensures_ret hdecision

/-- The checkpoint of a stranded run says that the run is to be retried. -/
theorem issueStrandedRunTrigger_ensures {w : World} {now : DateTime} {job : BackgroundJobRecord}
    {run : BackgroundJobRunRecord} (hissued : CheckpointsIssued w) :
    (issueStrandedRunTrigger now job run).Ensures w fun outcome w' =>
      outcome.decision.decision = .retry ∧
        Checkpointed (fun row => row.backgroundJobRunId = some run.backgroundJobRunId ∧
          row.recoveryDecision = some .retry) w.db w' := by
  unfold issueStrandedRunTrigger
  refine (ensures_newUuid (Q := fun id w' => id ∉ w.issued ∧
    w' = { w with issued := id :: w.issued }) fun id hid => ⟨hid, rfl⟩).bind ?_
  rintro id _ ⟨hid, rfl⟩
  refine (ensures_newUuid (Q := fun diagnosticId w' =>
    w' = { w with issued := diagnosticId :: id :: w.issued }) fun _ _ => rfl).bind ?_
  rintro diagnosticId _ rfl
  refine Prog.Ensures.and ?_ ?_
  · rw [← strandedDecision_retry run]
    exact issueRecoveryTrigger_decision
  · refine checkpointed_ensures (w := { w with issued := diagnosticId :: id :: w.issued })
      (fun row hrow => List.mem_cons_of_mem _ (List.mem_cons_of_mem _ (hissued row hrow)))
      (List.mem_cons_of_mem _ List.mem_cons_self) (hissued.fresh hid) ?_ ?_
    · intro created decision at_ resolution hdecision hresolution
      refine ⟨rfl, ?_⟩
      show some resolution.recoveryDecision = _
      rw [hresolution, evaluateRecoveryDecision_decision hdecision, strandedDecision_retry]
    · intro row decision resolved
      exact Prog.Confined.bind (insertOperationalDiagnostic_keeps _) fun _ => Prog.confined_ret _

theorem failStrandedExecution_keeps (failurePayload : Json) (executionId : Option Uuid) :
    (failStrandedExecution failurePayload executionId).Confined (OnDb Keeps) := by
  cases executionId with
  | none => exact Prog.confined_ret _
  | some executionId => exact markFailed_keeps executionId failurePayload

/-- One turn of the loop: the decision is recorded and the job planned again. -/
theorem recoverStrandedRun_ensures {w : World} {now : DateTime} {pair : Uuid × Uuid}
    {outcomes : List RecoveryTriggerOutcome} (hissued : CheckpointsIssued w) :
    (recoverStrandedRun now outcomes pair).Ensures w fun _ w' => RunReplanned pair w.db w' := by
  unfold recoverStrandedRun
  refine Prog.Ensures.bind (Q := fun job w' => w = w' ∧
    Table.find BackgroundJobRecord.backgroundJobId pair.1 w.db.backgroundJobs = some job)
    (ensures_fetchOne fun job hjob => ⟨rfl, hjob⟩) ?_
  rintro job _ ⟨rfl, hjob⟩
  refine Prog.Ensures.bind (Q := fun run w' => w = w' ∧ Table.find
    BackgroundJobRunRecord.backgroundJobRunId pair.2 w.db.backgroundJobRuns = some run)
    (ensures_fetchOne fun run hrun => ⟨rfl, hrun⟩) ?_
  rintro run _ ⟨rfl, hrun⟩
  have hjobId : job.backgroundJobId = pair.1 := Table.key_of_find hjob
  have hrunId : run.backgroundJobRunId = pair.2 := Table.key_of_find hrun
  refine (issueStrandedRunTrigger_ensures hissued).bind ?_
  rintro outcome w₁ ⟨hdecision, hcheckpointed⟩
  refine Prog.Ensures.bind (Q := fun _ w' => RunReplanned pair w.db w') ?_
    fun _ _ h => Prog.ensures_ret h
  unfold settleStrandedRun
  rw [hdecision]
  refine updateJobRunStatus_ensures.bind ?_
  intro _ w₂ hfailed
  refine updateJobStatus_ensures.bind ?_
  intro _ w₃ hplanned
  have hreplanned : RunReplanned pair w.db w₃ := by
    refine ⟨fun row hrow => ?_, ?_, fun id => ?_, fun id => ?_⟩
    · rw [hplanned.issued, hfailed.issued]
      rw [hplanned.checkpoints, hfailed.checkpoints] at hrow
      exact hcheckpointed.issued row hrow
    · rw [hplanned.checkpoints, hfailed.checkpoints, ← hrunId]
      exact hcheckpointed.added
    · have hbefore : jobStatus id w₁.db = jobStatus id w.db := by
        rw [jobStatus, hcheckpointed.jobs, jobStatus]
      rw [hplanned.jobs, hjobId, hfailed.jobs, hbefore]
      by_cases hid : id = pair.1
      · rw [if_pos hid, if_pos hid, hid, jobStatus, hjob]
        rfl
      · rw [if_neg hid, if_neg hid]
    · have hbefore : runStatus id w₁.db = runStatus id w.db := by
        rw [runStatus, hcheckpointed.runs, runStatus]
      rw [hplanned.runs, hfailed.runs, hrunId, hbefore]
      by_cases hid : id = pair.2
      · rw [if_pos hid, if_pos hid, hid, runStatus, hrun]
        rfl
      · rw [if_neg hid, if_neg hid]
  refine ((failStrandedExecution_keeps _ _).ensures (T := RunReplanned pair w.db)
    (fun _ _ _ hold hkeeps => hold.of_keeps hkeeps) hreplanned).bind ?_
  intro _ w₄ hended
  refine ((insertAudit_keeps _).ensures (T := RunReplanned pair w.db)
    (fun _ _ _ hold hkeeps => hold.of_keeps hkeeps) hended).bind ?_
  intro _ w₅ hnoted
  exact Prog.ensures_ret hnoted

/-- The pairs that are not in `rest` have been recovered. -/
structure PairsReplanned (pairs rest : List (Uuid × Uuid)) (db : Database) (w : World) : Prop where
  issued : CheckpointsIssued w
  added : ∃ rows, w.db.recoveryCheckpoints = db.recoveryCheckpoints ++ rows ∧
    (∀ row ∈ rows, row.recoveryDecision = some .retry) ∧
    ∀ pair ∈ pairs, pair ∈ rest ∨ ∃ row ∈ rows, row.backgroundJobRunId = some pair.2
  jobs : ∀ pair ∈ pairs, pair ∈ rest ∨ jobStatus pair.1 w.db = some .planned
  runs : ∀ pair ∈ pairs, pair ∈ rest ∨ runStatus pair.2 w.db = some .failed

/-- One turn: a job that was planned again stays planned, and a run that was failed failed. -/
theorem PairsReplanned.next {pairs rest : List (Uuid × Uuid)} {pair : Uuid × Uuid}
    {db : Database} {w w' : World} (h : PairsReplanned pairs (pair :: rest) db w)
    (hnext : RunReplanned pair w.db w') : PairsReplanned pairs rest db w' where
  issued := hnext.issued
  added := by
    obtain ⟨rows, hrows, hretried, hdecided⟩ := h.added
    obtain ⟨row, hrow, hrun, hdecision⟩ := hnext.added
    refine ⟨rows ++ [row], by rw [hrow, hrows, List.append_assoc], ?_, fun other hother => ?_⟩
    · intro old hold
      rcases List.mem_append.mp hold with hold | hnew
      · exact hretried old hold
      · obtain rfl := List.mem_singleton.mp hnew
        exact hdecision
    · rcases hdecided other hother with hwaiting | ⟨old, hold, holdRun⟩
      · rcases List.mem_cons.mp hwaiting with rfl | hwaiting
        · exact Or.inr ⟨row, by simp, hrun⟩
        · exact Or.inl hwaiting
      · exact Or.inr ⟨old, List.mem_append_left _ hold, holdRun⟩
  jobs := by
    intro other hother
    rw [hnext.jobs]
    by_cases hsame : other.1 = pair.1
    · exact Or.inr (if_pos hsame)
    · rw [if_neg hsame]
      rcases h.jobs other hother with hwaiting | hplanned
      · rcases List.mem_cons.mp hwaiting with rfl | hwaiting
        · exact absurd rfl hsame
        · exact Or.inl hwaiting
      · exact Or.inr hplanned
  runs := by
    intro other hother
    rw [hnext.runs]
    by_cases hsame : other.2 = pair.2
    · exact Or.inr (if_pos hsame)
    · rw [if_neg hsame]
      rcases h.runs other hother with hwaiting | hfailed
      · rcases List.mem_cons.mp hwaiting with rfl | hwaiting
        · exact absurd rfl hsame
        · exact Or.inl hwaiting
      · exact Or.inr hfailed

/-- A restart that ends well decides that every run it lists is to be retried; it fails the
runs and plans their jobs again. -/
theorem recoverBackgroundSupervisorRestart_ensures {w : World} {now : DateTime} {limit : Nat}
    (hissued : CheckpointsIssued w) :
    (recoverBackgroundSupervisorRestart now limit).Ensures w fun _ w' =>
      ∀ run ∈ Background.strandedRuns limit w.db,
        Records run.backgroundJobRunId .retry w.db w'.db ∧
          (∀ decision, Records run.backgroundJobRunId decision w.db w'.db → decision = .retry) ∧
          jobStatus run.backgroundJobId w'.db = some .planned ∧
          runStatus run.backgroundJobRunId w'.db = some .failed := by
  unfold recoverBackgroundSupervisorRestart Background.listActiveJobRunPairsWithoutWorkerLeases
  refine Prog.Ensures.bind (Q := fun pairs w' => w = w' ∧ pairs =
    (Background.strandedRuns limit w.db).map fun run =>
      (run.backgroundJobId, run.backgroundJobRunId)) (ensures_fetch ⟨rfl, rfl⟩) ?_
  rintro pairs _ ⟨rfl, hpairs⟩
  refine (Prog.ensures_foldlM (S := system) (J := fun _ rest w' => PairsReplanned pairs rest w.db w')
    (fun outcomes pair rest t hturn => ?_) pairs [] w ?_).mono ?_
  · exact (recoverStrandedRun_ensures hturn.issued).mono fun _ _ hnext => hturn.next hnext
  · exact ⟨hissued, ⟨[], by simp, by simp, fun pair hpair => Or.inl hpair⟩,
      fun pair hpair => Or.inl hpair, fun pair hpair => Or.inl hpair⟩
  · intro outcomes w' h run hrun
    have hpair : (run.backgroundJobId, run.backgroundJobRunId) ∈ pairs := by
      rw [hpairs]
      exact List.mem_map_of_mem hrun
    have hnil : (run.backgroundJobId, run.backgroundJobRunId) ∉ ([] : List (Uuid × Uuid)) := by
      simp
    obtain ⟨rows, hrows, hretried, hdecided⟩ := h.added
    obtain ⟨row, hrow, hrowRun⟩ := (hdecided _ hpair).resolve_left hnil
    refine ⟨(records_iff hrows).mpr ⟨row, hrow, hrowRun, hretried row hrow⟩, ?_,
      (h.jobs _ hpair).resolve_left hnil, (h.runs _ hpair).resolve_left hnil⟩
    intro decision hrecords
    obtain ⟨other, hother, -, hdecision⟩ := (records_iff hrows).mp hrecords
    have hsame : some decision = some .retry := hdecision.symm.trans (hretried other hother)
    exact Option.some.inj hsame

/-! ## The three routes -/

/-- Who notices that the worker of a background job timed out. -/
inductive TimeoutRoute
  /-- The process that launched the worker, from the error of the launch. -/
  | observed (leased : LeasedBackgroundExecution) (error : ErrorChain)
  /-- A supervision pass over the worker leases. -/
  | supervised (now : DateTime) (softWarningThresholdPercent : Nat)
  /-- The supervisor when it restarts. -/
  | restarted (now : DateTime) (limit : Nat)

namespace TimeoutRoute

/-- What the route runs. -/
def recover : TimeoutRoute → Harness Unit
  | observed leased error => BackgroundExecution.executeLeasedJob leased error
  | supervised now softWarningThresholdPercent => do
    let _ ← superviseWorkerLeases now softWarningThresholdPercent
    pure ()
  | restarted now limit => do
    let _ ← recoverBackgroundSupervisorRestart now limit
    pure ()

/-- The worker of the job timed out with the run, and the route comes across it. A job whose
worker holds a lease was leased for it, so that it is not among the planned ones. -/
def Meets (backgroundJobId backgroundJobRunId : Uuid) (db : Database) : TimeoutRoute → Prop
  | observed leased error => leased.job.backgroundJobId = backgroundJobId ∧
    leased.backgroundJobRunId = backgroundJobRunId ∧ BackgroundExecution.timedOut error
  | supervised now _ => jobStatus backgroundJobId db ≠ some .planned ∧
    ∃ lease ∈ db.workerLeases, isDue now lease ∧ lease.workerKind = .background ∧
      lease.backgroundJobId = some backgroundJobId ∧
        lease.backgroundJobRunId = some backgroundJobRunId
  | restarted _ limit => ∃ run ∈ Background.strandedRuns limit db,
    run.backgroundJobId = backgroundJobId ∧ run.backgroundJobRunId = backgroundJobRunId

/-- The route is the restart of the supervisor. -/
def isRestart : TimeoutRoute → Bool
  | restarted _ _ => true
  | observed _ _ | supervised _ _ => false

end TimeoutRoute

/-- A timeout of the worker of a background job that one of the routes recovered. -/
structure RecoveredTimeout where
  route : TimeoutRoute
  backgroundJobId : Uuid
  backgroundJobRunId : Uuid
  before : World
  issued : CheckpointsIssued before
  meets : route.Meets backgroundJobId backgroundJobRunId before.db
  oracle : Oracle system
  asked : Nat
  completed : (route.recover.run oracle asked before).result = .ok ()

namespace RecoveredTimeout

/-- The database once the recovery is over. -/
def after (t : RecoveredTimeout) : Database := (t.route.recover.run t.oracle t.asked t.before).state.db

/-- The recovery recorded the decision about the run. -/
def Records (t : RecoveredTimeout) (decision : RecoveryDecision) : Prop :=
  Recovery.Records t.backgroundJobRunId decision t.before.db t.after

/-- The job is what the recorded decision asks for. -/
def CarriedOut (t : RecoveredTimeout) : Prop :=
  ∀ decision, t.Records decision → Demands t.backgroundJobId t.after decision

/-- Where the two recoveries decided the same, they leave the job and the run alike. -/
def LeavesAs (t t' : RecoveredTimeout) : Prop :=
  ∀ decision, t.Records decision → t'.Records decision →
    jobStatus t.backgroundJobId t.after = jobStatus t'.backgroundJobId t'.after ∧
      runStatus t.backgroundJobRunId t.after = runStatus t'.backgroundJobRunId t'.after

end RecoveredTimeout

/-- What a restart leaves of a timeout that it recovered. -/
structure Replanned (t : RecoveredTimeout) : Prop where
  decided : ∀ decision, t.Records decision → decision = .retry
  job : jobStatus t.backgroundJobId t.after = some .planned
  run : runStatus t.backgroundJobRunId t.after = some .failed

theorem Replanned.carriedOut {t : RecoveredTimeout} (h : Replanned t) : t.CarriedOut := by
  intro decision hrecords
  obtain rfl := h.decided decision hrecords
  exact ⟨h.job, canBeLeased_of_planned h.job⟩

/-- The routes decide that the run is to be retried; the restart plans the job again, and the
others do not. -/
theorem recoveredTimeout_cases (t : RecoveredTimeout) :
    t.Records .retry ∧ (t.route.isRestart ∧ Replanned t ∨
      t.route.isRestart = false ∧ jobStatus t.backgroundJobId t.after ≠ some .planned) := by
  obtain ⟨route, jobId, runId, before, hissued, hmeets, oracle, asked, hcompleted⟩ := t
  cases route with
  | observed leased error =>
    obtain ⟨rfl, rfl, htimedOut⟩ := hmeets
    obtain ⟨hrecords, hjob⟩ :=
      executeLeasedJob_ensures hissued htimedOut oracle asked () hcompleted
    exact ⟨hrecords, Or.inr ⟨rfl, hjob⟩⟩
  | supervised now softWarningThresholdPercent =>
    obtain ⟨hjob, lease, hlease, hdue, hkind, -, hrun⟩ := hmeets
    obtain ⟨hjobs, -, hrecords⟩ :=
      (superviseWorkerLeases_ensures hissued).discard oracle asked () hcompleted
    refine ⟨hrecords lease hlease hdue hkind runId hrun, Or.inr ⟨rfl, ?_⟩⟩
    intro hplanned
    exact hjob ((hjobs jobId).symm.trans hplanned)
  | restarted now limit =>
    obtain ⟨run, hrun, rfl, rfl⟩ := hmeets
    obtain ⟨hrecords, hdecided, hjob, hfailed⟩ :=
      (recoverBackgroundSupervisorRestart_ensures hissued).discard oracle asked () hcompleted run hrun
    exact ⟨hrecords, Or.inl ⟨rfl, hdecided, hjob, hfailed⟩⟩

/-- Every route records the decision to retry; two timeouts have theirs carried out, and are
left alike, if and only if a restart of the supervisor found both. -/
theorem timeouts_carried_out_iff (t t' : RecoveredTimeout) :
    (t.Records .retry ∧ t'.Records .retry) ∧
      (t.CarriedOut ∧ t'.CarriedOut ∧ t.LeavesAs t' ↔
        t.route.isRestart ∧ t'.route.isRestart) := by
  obtain ⟨hrecords, hcases⟩ := recoveredTimeout_cases t
  obtain ⟨hrecords', hcases'⟩ := recoveredTimeout_cases t'
  refine ⟨⟨hrecords, hrecords'⟩, ?_⟩
  constructor
  · rintro ⟨hcarried, hcarried', -⟩
    constructor
    · rcases hcases with ⟨hrestart, -⟩ | ⟨-, hjob⟩
      · exact hrestart
      · exact absurd (hcarried .retry hrecords).1 hjob
    · rcases hcases' with ⟨hrestart', -⟩ | ⟨-, hjob'⟩
      · exact hrestart'
      · exact absurd (hcarried' .retry hrecords').1 hjob'
  · rintro ⟨hrestart, hrestart'⟩
    have hreplanned : Replanned t := by
      rcases hcases with ⟨-, h⟩ | ⟨hnot, -⟩
      · exact h
      · rw [hnot] at hrestart
        cases hrestart
    have hreplanned' : Replanned t' := by
      rcases hcases' with ⟨-, h⟩ | ⟨hnot, -⟩
      · exact h
      · rw [hnot] at hrestart'
        cases hrestart'
    refine ⟨hreplanned.carriedOut, hreplanned'.carriedOut, fun decision _ _ => ⟨?_, ?_⟩⟩
    · rw [hreplanned.job, hreplanned'.job]
    · rw [hreplanned.run, hreplanned'.run]

/-! ## A restart and a timeout that was observed -/

/-- A run that was started before the supervisor restarted. -/
def restartTimeout : RecoveredTimeout where
  route := .restarted 100 40
  backgroundJobId := 1
  backgroundJobRunId := 3
  before := { db := strandedDatabase .running (some 20) }
  issued := by simp [CheckpointsIssued, strandedDatabase]
  meets := ⟨_, List.mem_singleton_self _, rfl, rfl⟩
  oracle := steady 100
  asked := 0
  completed := by rfl

theorem timeouts_carried_out_iff_restart : restartTimeout.CarriedOut :=
  ((timeouts_carried_out_iff restartTimeout restartTimeout).2.mpr ⟨rfl, rfl⟩).1

/-- A job that was leased for a run, before the run is started. -/
def leasedDatabase : Database :=
  { strandedDatabase .leased none with
      executionRecords :=
        [{ executionId := 5, traceId := 2, triggerKind := "time_schedule"
           syntheticTrigger := none, status := "started", requestPayload := .null }] }

/-- The worker of the leased job is terminated after half a minute. -/
def observedTimeout : RecoveredTimeout where
  route := .observed
    { job := { backgroundJobId := 1, traceId := 2, deduplicationKey := "memory_consolidation"
               status := .leased, leaseExpiresAt := some 60 }
      triggerKind := .timeSchedule
      backgroundJobRunId := 3
      executionId := 5
      leaseToken := 4
      leaseExpiresAt := 60 }
    ["unconscious worker subprocess timed out after 30000 ms and was terminated"]
  backgroundJobId := 1
  backgroundJobRunId := 3
  before := { db := leasedDatabase }
  issued := by simp [CheckpointsIssued, leasedDatabase, strandedDatabase]
  meets := ⟨rfl, rfl, by decide⟩
  oracle := steady 20
  asked := 0
  completed := by rfl

/-- The decision is to retry, and the job is failed all the same. -/
theorem observed_timeout_not_carried_out :
    observedTimeout.Records .retry ∧
      jobStatus observedTimeout.backgroundJobId observedTimeout.after = some .failed ∧
      runStatus observedTimeout.backgroundJobRunId observedTimeout.after = some .timedOut ∧
      ¬ observedTimeout.CarriedOut := by
  have hrecords : observedTimeout.Records .retry := (recoveredTimeout_cases observedTimeout).1
  have hjob : jobStatus observedTimeout.backgroundJobId observedTimeout.after = some .failed := by
    decide
  refine ⟨hrecords, hjob, by decide, fun hcarried => ?_⟩
  have hplanned := (hcarried .retry hrecords).1
  rw [hjob] at hplanned
  cases hplanned

end BlueLagoon.Recovery
