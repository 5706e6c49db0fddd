import BlueLagoon.Recovery.Supervision

/-!
# When the recovery of a lease goes through

A recovery fails at a statement that is lost, at a row that is missing, and at a completion
that is written before its start. Where the tables are as their constraints have them and the
action of the lease has started in time, a recovery whose statements are all served goes through.
-/

namespace BlueLagoon.Recovery

open Interleaving Harness

/-! ## Checkpoints and diagnostics -/

section Steps

variable {w : World}

/-- A checkpoint that is served is there, and is looked up by its identifier. -/
theorem createRecoveryCheckpoint_delivers {checkpoint : NewRecoveryCheckpoint}
    (hbudget : 0 ≤ checkpoint.recoveryBudgetRemaining) :
    (createRecoveryCheckpoint checkpoint).Delivers served (fun row w' =>
      (∃ now, w'.db = { w.db with
        recoveryCheckpoints := w.db.recoveryCheckpoints ++ [checkpointRow now checkpoint] }) ∧
      Table.find RecoveryCheckpointRecord.recoveryCheckpointId checkpoint.recoveryCheckpointId
        w'.db.recoveryCheckpoints = some row) w := by
  have hnonneg : ¬ checkpoint.recoveryBudgetRemaining < 0 := by omega
  unfold createRecoveryCheckpoint
  rw [if_neg hnonneg]
  refine Prog.Delivers.bind (R := fun _ (w' : World) => ∃ now, w'.db = { w.db with
    recoveryCheckpoints := w.db.recoveryCheckpoints ++ [checkpointRow now checkpoint] })
    (delivers_execute fun now => ⟨_, rfl, now, rfl⟩) ?_
  rintro _ w' ⟨now, hdb⟩
  have hmem : checkpointRow now checkpoint ∈ w'.db.recoveryCheckpoints := by simp [hdb]
  have hsome : (Table.find RecoveryCheckpointRecord.recoveryCheckpointId
      checkpoint.recoveryCheckpointId w'.db.recoveryCheckpoints).isSome :=
    Table.find_isSome_of_mem hmem
  obtain ⟨row, hrow⟩ := Option.isSome_iff_exists.mp hsome
  exact delivers_fetchOne hrow ⟨⟨now, hdb⟩, hrow⟩

/-- A checkpoint that is there can be resolved; nothing but checkpoints changes. -/
theorem resolveRecoveryCheckpoint_delivers {resolution : RecoveryCheckpointResolution}
    (hstatus : resolution.status ≠ .open_)
    (hopened : (Table.find RecoveryCheckpointRecord.recoveryCheckpointId
      resolution.recoveryCheckpointId w.db.recoveryCheckpoints).isSome) :
    (resolveRecoveryCheckpoint resolution).Delivers served (fun _ w' =>
      ∃ rows, w'.db = { w.db with recoveryCheckpoints := rows }) w := by
  unfold resolveRecoveryCheckpoint
  rw [if_neg hstatus]
  refine Prog.Delivers.bind (R := fun _ (w' : World) => ∃ now, w'.db = { w.db with
    recoveryCheckpoints :=
      Table.update (fun row => row.recoveryCheckpointId = resolution.recoveryCheckpointId)
        (checkpointResolved now resolution) w.db.recoveryCheckpoints })
    (delivers_execute fun now => ⟨_, rfl, now, rfl⟩) ?_
  rintro _ w' ⟨now, hdb⟩
  have hkey : ∀ row, (checkpointResolved now resolution row).recoveryCheckpointId =
      row.recoveryCheckpointId := fun _ => rfl
  have hsome : (Table.find RecoveryCheckpointRecord.recoveryCheckpointId
      resolution.recoveryCheckpointId w'.db.recoveryCheckpoints).isSome := by
    rw [hdb]
    show (Table.find _ _ (Table.update _ _ _)).isSome
    rw [Table.find_update hkey, Option.isSome_map]
    exact hopened
  obtain ⟨row, hrow⟩ := Option.isSome_iff_exists.mp hsome
  exact delivers_fetchOne hrow ⟨_, hdb⟩

theorem insertOperationalDiagnostic_delivers {diagnostic : NewOperationalDiagnostic}
    (hvalid : validateNewOperationalDiagnostic diagnostic = .ok ()) :
    (insertOperationalDiagnostic diagnostic).Delivers served (fun _ _ => True) w := by
  refine Prog.Delivers.bind (R := fun _ w' => w = w') (Prog.delivers_ofExcept hvalid rfl) ?_
  rintro _ _ rfl
  refine Prog.Delivers.bind (R := fun _ (w' : World) => (Table.find
    OperationalDiagnosticRecord.operationalDiagnosticId diagnostic.operationalDiagnosticId
    w'.db.operationalDiagnostics).isSome) (delivers_execute fun now => ⟨_, rfl, ?_⟩) ?_
  · have hmem : diagnosticRow now diagnostic ∈
        w.db.operationalDiagnostics ++ [diagnosticRow now diagnostic] := by simp
    exact Table.find_isSome_of_mem hmem
  · intro _ w' hsome
    obtain ⟨row, hrow⟩ := Option.isSome_iff_exists.mp hsome
    exact delivers_fetchOne hrow trivial

end Steps

/-! ## The action of a lease -/

/-- The runs of the script of an action. -/
def runsOf (record : GovernedActionExecutionRecord) (db : Database) :
    List WorkspaceScriptRunRecord :=
  db.workspaceScriptRuns.filter fun run =>
    run.governedActionExecutionId = some record.governedActionExecutionId

/-- The execution record of an action. -/
def executionOf (record : GovernedActionExecutionRecord) (db : Database) :
    Option ExecutionRecord :=
  record.executionId.bind fun executionId =>
    Table.find ExecutionRecord.executionId executionId db.executionRecords

/-- The lease names an action, and what this action names is stored. -/
structure ActionFound (lease : WorkerLeaseRecord) (record : GovernedActionExecutionRecord)
    (db : Database) : Prop where
  named : lease.governedActionExecutionId = some record.governedActionExecutionId
  found : GovernedActions.recordOf record.governedActionExecutionId db = some record
  execution : record.executionId.isSome → (executionOf record db).isSome

/-- The instants at which the action was started, by its own record and by its script runs. -/
def starts (record : GovernedActionExecutionRecord) (db : Database) : List DateTime :=
  record.startedAt.toList ++ (runsOf record db).filterMap WorkspaceScriptRunRecord.startedAt

/-- The instants that may be written as its completion: the pass's own, and what its record, its
execution record and its script runs say. -/
def completions (now : DateTime) (record : GovernedActionExecutionRecord) (db : Database) :
    List DateTime :=
  now :: (record.completedAt.toList ++
    ((executionOf record db).bind ExecutionRecord.completedAt).toList ++
      (runsOf record db).filterMap WorkspaceScriptRunRecord.completedAt)

/-- An action whose recovery can write its completion: it has started, nothing that may be
written as its completion is before a start, and the rows are as their constraints have them. -/
structure RecoverableAction (now : DateTime) (lease : WorkerLeaseRecord)
    (record : GovernedActionExecutionRecord) (db : Database) : Prop
    extends ActionFound lease record db where
  valid : db.governedActionExecutionViolation record = none
  validRuns : ∀ run ∈ db.workspaceScriptRuns, db.workspaceScriptRunViolation run = none
  started : record.startedAt.isSome
  inOrder : ∀ start ∈ starts record db, ∀ completion ∈ completions now record db,
    start ≤ completion

/-! ### Its context -/

/-- How many statements look up what is known about an action. -/
def contextLookups (record : GovernedActionExecutionRecord) : Nat :=
  record.executionId.toList.length + (record.workspaceScriptId.toList.length +
    record.approvalRequestId.toList.length)

/-- What a context says of its action is what the tables say. -/
structure ContextOf (record : GovernedActionExecutionRecord) (db : Database)
    (context : GovernedActionRecoveryContext) : Prop where
  action : context.record = record
  execution : context.executionRecord = executionOf record db
  run : ∀ run, context.workspaceScriptRun = some run → run ∈ runsOf record db

section Context

variable {w : World} {record : GovernedActionExecutionRecord}

theorem loadExecutionRecord_reads
    (hfound : record.executionId.isSome → (executionOf record w.db).isSome) :
    Reads record.executionId.toList.length (loadExecutionRecord record.executionId)
      (fun executionRecord => executionRecord = executionOf record w.db) w := by
  cases hid : record.executionId with
  | none => exact reads_ret (by simp [executionOf, hid])
  | some executionId =>
    obtain ⟨executionRecord, hexecution⟩ :=
      Option.isSome_iff_exists.mp (hfound (by simp [hid]))
    rw [hexecution]
    rw [executionOf, hid, Option.bind_some] at hexecution
    exact Reads.bind (l := 0) (R := fun found => found = executionRecord)
      (reads_fetchOne hexecution rfl) fun found hfound => reads_ret (congrArg some hfound)

theorem loadWorkspaceScriptRun_reads :
    Reads record.workspaceScriptId.toList.length (loadWorkspaceScriptRun record)
      (fun run => ∀ latest, run = some latest → latest ∈ runsOf record w.db) w := by
  unfold loadWorkspaceScriptRun
  cases record.workspaceScriptId with
  | none => exact reads_ret fun latest h => by cases h
  | some workspaceScriptId =>
    exact reads_fetch fun latest hlatest => (Table.mem_of_first hlatest :)

theorem determineGovernedActionApprovalState_reads
    {actionClassification : RecoveryActionClassification} {evidenceState : RecoveryEvidenceState}
    {reasonCode : RecoveryReasonCode} {policyState : RecoveryPolicyState} :
    Reads record.approvalRequestId.toList.length
      (determineGovernedActionApprovalState record actionClassification evidenceState reasonCode
        policyState) (fun _ => True) w := by
  unfold determineGovernedActionApprovalState
  cases record.approvalRequestId with
  | none => exact reads_ret trivial
  | some approvalRequestId =>
    refine Reads.bind (l := 0) (R := fun _ => True) (reads_fetch trivial) fun status _ => ?_
    cases status with
    | none => exact reads_ret trivial
    | some status =>
      dsimp only
      split <;> exact reads_ret trivial

/-- A context is read, and says what the tables say. -/
theorem loadGovernedActionRecoveryContext_reads {reasonCode : RecoveryReasonCode}
    {policyState : RecoveryPolicyState}
    (hfound : record.executionId.isSome → (executionOf record w.db).isSome) :
    Reads (contextLookups record)
      (loadGovernedActionRecoveryContext record reasonCode policyState)
      (ContextOf record w.db) w := by
  refine Reads.bind (loadExecutionRecord_reads hfound) fun executionRecord hexecution => ?_
  refine Reads.bind loadWorkspaceScriptRun_reads fun run hrun => ?_
  refine Reads.bind (l := 0) determineGovernedActionApprovalState_reads fun approvalState _ => ?_
  exact reads_ret ⟨rfl, hexecution, hrun⟩

end Context

/-! ### Its completion -/

section Completion

variable {w : World} {lease : WorkerLeaseRecord} {record : GovernedActionExecutionRecord}
  {context : GovernedActionRecoveryContext} {now : DateTime}

/-- The completion that a terminal state comes with is one of those that may be written. -/
theorem governedActionTerminalState_completion {db : Database} {status : GovernedActionStatus}
    {blockedReason : Option String} {completedAt : DateTime} (hcontext : ContextOf record db context)
    (h : governedActionTerminalState context now = some (status, blockedReason, completedAt)) :
    completedAt ∈ completions now record db := by
  have getD_mem : ∀ (instant : Option DateTime), (∀ t, instant = some t →
      t ∈ completions now record db) → instant.getD now ∈ completions now record db := by
    intro instant hinstant
    cases instant with
    | none => exact List.mem_cons_self
    | some t => exact hinstant t rfl
  unfold governedActionTerminalState at h
  split at h
  · -- the execution record has ended
    rename_i terminal hterminal
    obtain rfl := Option.some.inj h
    obtain ⟨executionRecord, hexecution, hended⟩ := Option.bind_eq_some_iff.mp hterminal
    have hcompleted : completedAt = executionRecord.completedAt.getD now := by
      unfold terminalExecution at hended
      split at hended
      · simp only [Option.some.injEq, Prod.mk.injEq] at hended
        exact hended.2.2.symm
      · split at hended
        · simp only [Option.some.injEq, Prod.mk.injEq] at hended
          exact hended.2.2.symm
        · cases hended
    rw [hcompleted]
    refine getD_mem _ fun t ht => ?_
    rw [hcontext.execution] at hexecution
    simp [completions, hexecution, ht]
  · split at h
    · -- its script run has ended
      rename_i run hrun
      have hcompleted : completedAt = run.completedAt.getD now := by
        split at h <;> simp_all
      rw [hcompleted]
      refine getD_mem _ fun t ht => ?_
      have hmem : t ∈ (runsOf record db).filterMap WorkspaceScriptRunRecord.completedAt :=
        List.mem_filterMap.mpr ⟨run, hcontext.run run hrun, ht⟩
      simp [completions, hmem]
    · -- only its own record says that it has ended
      obtain ⟨t, ht, heq⟩ := Option.map_eq_some_iff.mp h
      simp only [Prod.mk.injEq] at heq
      rw [hcontext.action] at ht
      rw [← heq.2.2]
      simp [completions, ht]

/-- A completion that is not before the start breaks no constraint of the action. -/
theorem reconciledUpdate_violation {db : Database}
    (hvalid : db.governedActionExecutionViolation record = none)
    {completedAt : DateTime} (hstarted : record.startedAt.any fun t => decide (t ≤ completedAt))
    (at_ : DateTime) (status : GovernedActionStatus) (blockedReason : Option String) :
    db.governedActionExecutionViolation (GovernedActions.updated at_
      (reconciledUpdate record status blockedReason completedAt) record) = none := by
  rw [Database.governedActionExecutionViolation, Database.firstBroken_eq_none] at hvalid ⊢
  simp only [List.mem_cons, List.not_mem_nil, or_false, forall_eq_or_imp, forall_eq] at hvalid ⊢
  obtain ⟨hkey, -, hexecution, happroval, hscript, hversion⟩ := hvalid
  simp only [GovernedActions.updated, reconciledUpdate, Option.or_self]
  exact ⟨hkey, by simpa using hstarted, hexecution, happroval, hscript, hversion⟩

/-- Nor does it break one of a script run. -/
theorem runUpdated_violation {db : Database} {row : WorkspaceScriptRunRecord}
    (hvalid : db.workspaceScriptRunViolation row = none)
    {update : UpdateWorkspaceScriptRunStatus} {completedAt : DateTime}
    (hcompleted : update.completedAt = some completedAt)
    (hstarted : update.startedAt.any fun t => decide (t ≤ completedAt)) (at_ : DateTime) :
    db.workspaceScriptRunViolation (Workspace.runUpdated at_ update row) = none := by
  rw [Database.workspaceScriptRunViolation, Database.firstBroken_eq_none] at hvalid ⊢
  simp only [List.mem_cons, List.not_mem_nil, or_false, forall_eq_or_imp, forall_eq] at hvalid ⊢
  obtain ⟨hexecutionKey, hactionKey, -, hrest⟩ := hvalid
  refine ⟨hexecutionKey, hactionKey, ?_, hrest⟩
  simp only [Workspace.runUpdated, hcompleted, Option.all_some]
  exact hstarted

theorem updateGovernedActionExecution_delivers {update : GovernedActionExecutionUpdate}
    {events : List Event}
    (hfound : GovernedActions.recordOf update.governedActionExecutionId w.db = some record)
    (hvalid : ∀ at_, w.db.governedActionExecutionViolation
      (GovernedActions.updated at_ update record) = none) :
    (GovernedActions.updateGovernedActionExecution update events).Delivers served
      (fun _ _ => True) w := by
  refine Prog.Delivers.bind (R := fun _ (w' : World) =>
    (GovernedActions.recordOf update.governedActionExecutionId w'.db).isSome)
    (delivers_execute fun at_ => ?_) fun _ w' hsome => ?_
  · rw [GovernedActions.changeRecord, hfound]
    simp only [hvalid at_]
    refine ⟨_, rfl, ?_⟩
    have hkey : ∀ row, (GovernedActions.updated at_ update row).governedActionExecutionId =
        row.governedActionExecutionId := fun _ => rfl
    show (Table.find _ _ (Table.update _ _ _)).isSome
    rw [Table.find_update hkey, Option.isSome_map]
    exact Option.isSome_of_eq_some hfound
  · obtain ⟨row, hrow⟩ := Option.isSome_iff_exists.mp hsome
    exact delivers_fetchOne hrow trivial

theorem updateWorkspaceScriptRunStatus_delivers {update : UpdateWorkspaceScriptRunStatus}
    {row : WorkspaceScriptRunRecord}
    (hfound : Table.find WorkspaceScriptRunRecord.workspaceScriptRunId update.workspaceScriptRunId
      w.db.workspaceScriptRuns = some row)
    (hvalid : ∀ at_, w.db.workspaceScriptRunViolation (Workspace.runUpdated at_ update row) =
      none) :
    (Workspace.updateWorkspaceScriptRunStatus update).Delivers served
      (fun _ w' => ∃ rows, w'.db = { w.db with workspaceScriptRuns := rows }) w := by
  refine Prog.Delivers.bind (R := fun rowsAffected (w' : World) => rowsAffected = 1 ∧
    (Table.find WorkspaceScriptRunRecord.workspaceScriptRunId update.workspaceScriptRunId
      w'.db.workspaceScriptRuns).isSome ∧
    ∃ rows, w'.db = { w.db with workspaceScriptRuns := rows }) (delivers_execute fun at_ => ?_) ?_
  · rw [hfound]
    simp only [hvalid at_]
    refine ⟨_, rfl, rfl, ?_, _, rfl⟩
    have hkey : ∀ row, (Workspace.runUpdated at_ update row).workspaceScriptRunId =
        row.workspaceScriptRunId := fun _ => rfl
    show (Table.find _ _ (Table.update _ _ _)).isSome
    rw [Table.find_update hkey, Option.isSome_map, hfound]
    rfl
  · rintro _ w' ⟨rfl, hsome, hdb⟩
    rw [if_neg Nat.one_ne_zero]
    obtain ⟨updated, hupdated⟩ := Option.isSome_iff_exists.mp hsome
    exact delivers_fetchOne hupdated hdb

/-- A start of the action or of its script run is not after the completion. -/
theorem RecoverableAction.any_le {db : Database} (h : RecoverableAction now lease record db)
    {completedAt : DateTime} (hcompletion : completedAt ∈ completions now record db)
    {started : Option DateTime} (hstarted : started.isSome)
    (hmem : ∀ t, started = some t → t ∈ starts record db) :
    started.any fun t => decide (t ≤ completedAt) := by
  obtain ⟨t, rfl⟩ := Option.isSome_iff_exists.mp hstarted
  exact decide_eq_true (h.inOrder t (hmem t rfl) completedAt hcompletion)

/-- The script run of a recoverable action can be completed with it. -/
theorem completeScriptRun_delivers (h : RecoverableAction now lease record w.db)
    (hcontext : ContextOf record w.db context) {completedAt : DateTime}
    (hcompletion : completedAt ∈ completions now record w.db) (status : GovernedActionStatus)
    (blockedReason : Option String) :
    (completeScriptRun context status blockedReason completedAt).Delivers served
      (fun _ w' => ∃ rows, w'.db = { w.db with workspaceScriptRuns := rows }) w := by
  unfold completeScriptRun
  split
  · exact Prog.delivers_ret ⟨_, rfl⟩
  rename_i run hrun
  split
  · exact Prog.delivers_ret ⟨_, rfl⟩
  split
  · exact Prog.delivers_ret ⟨_, rfl⟩
  have hof : run ∈ runsOf record w.db := hcontext.run run hrun
  have hmem : run ∈ w.db.workspaceScriptRuns := (List.mem_filter.mp hof).1
  have hsome : (Table.find WorkspaceScriptRunRecord.workspaceScriptRunId run.workspaceScriptRunId
      w.db.workspaceScriptRuns).isSome := Table.find_isSome_of_mem hmem
  obtain ⟨row, hrow⟩ := Option.isSome_iff_exists.mp hsome
  have hstarted : (run.startedAt.or context.record.startedAt).isSome := by
    rw [hcontext.action, Option.isSome_or, h.started, Bool.or_true]
  refine Prog.Delivers.bind (updateWorkspaceScriptRunStatus_delivers hrow fun at_ =>
    runUpdated_violation (h.validRuns row (Table.mem_of_find hrow)) rfl
      (h.any_le hcompletion hstarted fun t ht => ?_) at_) fun _ _ hw' => Prog.delivers_ret hw'
  rw [hcontext.action] at ht
  rcases Option.or_eq_some_iff.mp ht with hrunStart | ⟨-, hstart⟩
  · exact List.mem_append_right _ (List.mem_filterMap.mpr ⟨run, hof, hrunStart⟩)
  · exact List.mem_append_left _ (by simp [hstart])

/-- Any decision about a recoverable action can be written. -/
theorem reconcileGovernedActionRecovery_delivers (h : RecoverableAction now lease record w.db)
    (hcontext : ContextOf record w.db context) (decision : RecoveryDecision)
    (policyState : RecoveryPolicyState) (summary : String) :
    (reconcileGovernedActionRecovery context decision policyState now summary).Delivers served
      (fun _ _ => True) w := by
  have hstart : ∀ t, record.startedAt = some t → t ∈ starts record w.db := fun t ht =>
    List.mem_append_left _ (by simp [ht])
  have hvalid : ∀ {completedAt}, completedAt ∈ completions now record w.db →
      ∀ (status : GovernedActionStatus) (blockedReason : Option String) (at_ : DateTime),
        w.db.governedActionExecutionViolation (GovernedActions.updated at_
          (reconciledUpdate record status blockedReason completedAt) record) = none :=
    fun hcompletion status blockedReason at_ => reconciledUpdate_violation h.valid
      (h.any_le hcompletion h.started hstart) at_ status blockedReason
  unfold reconcileGovernedActionRecovery
  split
  · split
    · rename_i status blockedReason completedAt hterminal
      have hcompletion := governedActionTerminalState_completion hcontext hterminal
      refine Prog.Delivers.bind
        (completeScriptRun_delivers h hcontext hcompletion status blockedReason) ?_
      rintro _ w' ⟨rows, hdb⟩
      rw [hcontext.action]
      have hfound : GovernedActions.recordOf record.governedActionExecutionId w'.db =
          some record := by
        rw [hdb]
        exact h.found
      refine updateGovernedActionExecution_delivers hfound fun at_ => ?_
      rw [hdb]
      exact hvalid hcompletion status blockedReason at_
    · exact Prog.delivers_ret trivial
  · rw [hcontext.action]
    exact updateGovernedActionExecution_delivers h.found fun at_ =>
      hvalid List.mem_cons_self _ _ at_

end Completion

/-! ## The recovery as a whole -/

/-- The recovery of a lease that finds nothing in its way: checkpoints have the budgets that their
constraint allows, and the action of the lease, if it is one of an action, is recoverable. -/
structure Unobstructed (now : DateTime) (lease : WorkerLeaseRecord) (db : Database) : Prop where
  budgets : ∀ row ∈ db.recoveryCheckpoints, 0 ≤ row.recoveryBudgetRemaining
  action : lease.workerKind = .governedAction → ∃ record, RecoverableAction now lease record db

section Recovery

variable {w : World} {lease : WorkerLeaseRecord} {record : GovernedActionExecutionRecord}
  {now : DateTime}

/-- What is recoverable stays so while checkpoints are written. -/
theorem RecoverableAction.checkpointed {db : Database}
    (h : RecoverableAction now lease record db) (rows : List RecoveryCheckpointRecord) :
    RecoverableAction now lease record { db with recoveryCheckpoints := rows } :=
  ⟨⟨h.named, h.found, h.execution⟩, h.valid, h.validRuns, h.started, h.inOrder⟩

/-- The rule of a checkpoint: it is opened, a decision is drawn from it, and it is resolved with
the decision. Its identifier may find an older row, which has a budget all the same. -/
theorem checkpoint_delivers {α : Type} {checkpoint : NewRecoveryCheckpoint}
    {request : RecoveryCheckpointRecord → RecoveryDecisionRequest}
    {next : RecoveryDecisionOutcome → RecoveryCheckpointRecord → Harness α} {R : α → World → Prop}
    (hbudget : 0 ≤ checkpoint.recoveryBudgetRemaining)
    (hrequest : ∀ row, (row ∈ w.db.recoveryCheckpoints ∨ ∃ at_, row = checkpointRow at_ checkpoint) →
      0 ≤ (request row).recoveryBudgetRemaining)
    (hnext : ∀ decision resolved (w' : World), (∃ rows, w'.db = { w.db with
      recoveryCheckpoints := rows }) → (next decision resolved).Delivers served R w') :
    ((createRecoveryCheckpoint checkpoint).bind fun opened =>
      (Prog.ofExcept (evaluateRecoveryDecision (request opened))).bind fun decision =>
        (resolveRecoveryCheckpoint
          { recoveryCheckpointId := opened.recoveryCheckpointId
            status := decision.checkpointStatus
            recoveryDecision := decision.decision
            resolvedSummary := some decision.summary
            resolvedAt := now }).bind fun resolved => next decision resolved).Delivers
      served R w := by
  refine (createRecoveryCheckpoint_delivers hbudget).bind ?_
  rintro opened w₁ ⟨⟨at_, hdb⟩, hopened⟩
  have hnonneg : 0 ≤ (request opened).recoveryBudgetRemaining := by
    have hmem := Table.mem_of_find hopened
    rw [hdb] at hmem
    refine hrequest opened ((List.mem_append.mp hmem).imp_right fun hnew => ?_)
    exact ⟨at_, List.mem_singleton.mp hnew⟩
  obtain ⟨decision, hdecision, -, hstatus⟩ := evaluateRecoveryDecision_ok (request opened) hnonneg
  refine Prog.Delivers.bind (R := fun found w' => found = decision ∧ w₁ = w')
    (Prog.delivers_ofExcept hdecision ⟨rfl, rfl⟩) ?_
  rintro _ _ ⟨rfl, rfl⟩
  refine (resolveRecoveryCheckpoint_delivers ?_ ?_).bind ?_
  · rw [hstatus]
    exact checkpointStatusForDecision_ne_open _
  · rw [Table.key_of_find hopened, hopened]
    rfl
  · rintro resolved w₂ ⟨rows, hresolved⟩
    exact hnext _ resolved w₂ ⟨rows, by rw [hresolved, hdb]⟩

/-- A checkpoint that was there and one that is new have a budget. -/
theorem Unobstructed.budget_nonneg {db : Database} (h : Unobstructed now lease db)
    {checkpoint : NewRecoveryCheckpoint} (hbudget : 0 ≤ checkpoint.recoveryBudgetRemaining)
    (row : RecoveryCheckpointRecord)
    (hrow : row ∈ db.recoveryCheckpoints ∨ ∃ at_, row = checkpointRow at_ checkpoint) :
    0 ≤ row.recoveryBudgetRemaining := by
  rcases hrow with hold | ⟨at_, rfl⟩
  · exact h.budgets row hold
  · exact hbudget

/-- A diagnostic with a new identifier is written. -/
theorem diagnosed_delivers {α : Type} {diagnostic : Uuid → NewOperationalDiagnostic}
    {next : OperationalDiagnosticRecord → α}
    (hvalid : ∀ id, validateNewOperationalDiagnostic (diagnostic id) = .ok ()) :
    (newUuid.bind fun id => (insertOperationalDiagnostic (diagnostic id)).bind fun noted =>
      .ret (next noted)).Delivers served (fun _ _ => True) w :=
  Prog.Delivers.bind (R := fun _ _ => True) (delivers_newUuid fun _ _ => trivial) fun id _ _ =>
    (insertOperationalDiagnostic_delivers (hvalid id)).bind fun _ _ _ => Prog.delivers_ret trivial

/-- Where nothing is in its way, and every statement is served, the recovery of a lease that
expired goes through. -/
theorem recoverExpiredWorkerLease_delivers (h : Unobstructed now lease w.db) :
    (recoverExpiredWorkerLease now lease).Delivers served (fun _ _ => True) w := by
  have hreasonCode : Text.isBlank "worker_lease_expired" = false := by decide
  have hbudget : (0 : Int) ≤ 1 := Int.le_of_lt Int.one_pos
  unfold recoverExpiredWorkerLease recoverWorkerLeaseTimeout
  split
  · rename_i hkind
    obtain ⟨record, haction⟩ := h.action hkind
    unfold recoverGovernedActionWorkerLeaseTimeout
    refine Prog.Delivers.bind (R := fun id w' => id = record.governedActionExecutionId ∧ w' = w)
      ?_ ?_
    · rw [haction.named]
      exact Prog.delivers_ret ⟨rfl, rfl⟩
    rintro _ w ⟨rfl, rfl⟩
    refine (reads_fetchOne (R := fun found => found = record) haction.found rfl).delivers.bind ?_
    rintro record w ⟨rfl, rfl⟩
    refine (loadGovernedActionRecoveryContext_reads haction.execution).delivers.bind ?_
    rintro context w ⟨hcontext, rfl⟩
    refine Prog.Delivers.bind (R := fun _ (w' : World) => w'.db = w.db)
      (delivers_newUuid fun _ _ => rfl) fun checkpointId w₁ hdb => ?_
    rw [← hdb] at haction hcontext h
    refine checkpoint_delivers hbudget (h.budget_nonneg hbudget) fun decision resolved w₂ => ?_
    rintro ⟨rows, hrows⟩
    have haction₂ : RecoverableAction now lease record w₂.db := by
      rw [hrows]
      exact haction.checkpointed rows
    have hcontext₂ : ContextOf record w₂.db context := by
      rw [hrows]
      exact ⟨hcontext.action, hcontext.execution, hcontext.run⟩
    refine (reconcileGovernedActionRecovery_delivers haction₂ hcontext₂ _ _ _).bind ?_
    intro reconciled w₃ _
    refine Prog.Delivers.bind (R := fun _ _ => True) ?_ fun _ w₄ _ => ?_
    · refine Prog.Delivers.bind (R := fun _ _ => True) ?_ fun _ _ _ => Prog.delivers_ret trivial
      exact Prog.Delivers.bind (R := fun _ _ => True) (delivers_newUuid fun _ _ => trivial)
        fun _ _ _ => delivers_execute fun _ => ⟨_, rfl, trivial⟩
    · refine diagnosed_delivers fun id => validateNewOperationalDiagnostic_ok ?_ hreasonCode ?_
      · show Text.isBlank "governed_actions" = false
        decide
      · show Text.isBlank ("governed action execution interruption observed; recovery decision: " ++
          toString decision.decision.asStr) = false
        exact Text.isBlank_append (by decide)
  · refine Prog.Delivers.bind (R := fun _ (w' : World) => w'.db = w.db)
      (delivers_newUuid fun _ _ => rfl) fun checkpointId w₁ hdb => ?_
    rw [← hdb] at h
    refine checkpoint_delivers hbudget (h.budget_nonneg hbudget) fun decision resolved w₂ _ => ?_
    refine diagnosed_delivers fun id => validateNewOperationalDiagnostic_ok ?_ hreasonCode ?_
    · show Text.isBlank "recovery" = false
      decide
    · show Text.isBlank ("worker lease timeout or stall observed; recovery decision: " ++
        toString decision.decision.asStr) = false
      exact Text.isBlank_append (by decide)

end Recovery

/-! ## As far as the checkpoint -/

/-- `lookups` statements are served, and after a question for an identifier one more. -/
def CheckpointServed (o : Oracle system) (n lookups : Nat) : Prop :=
  (∀ i < lookups, served .statement (o (n + i) .statement)) ∧
    served .statement (o (n + lookups + 1) .statement)

/-- Nothing keeps the recovery of a lease from its checkpoint: what it looks up is found, and
these statements and the insert are served. -/
def CheckpointReached (o : Oracle system) (n : Nat) (lease : WorkerLeaseRecord) (db : Database) :
    Prop :=
  if lease.workerKind = .governedAction then
    ∃ record, ActionFound lease record db ∧ CheckpointServed o n (1 + contextLookups record)
  else CheckpointServed o n 0

section Checkpoint

variable {o : Oracle system} {n : Nat} {w : World} {lease : WorkerLeaseRecord} {now : DateTime}

/-- A checkpoint whose insert is served is opened, whatever comes after it. -/
theorem newCheckpoint_opens {α : Type} {checkpoint : Uuid → NewRecoveryCheckpoint}
    {next : RecoveryCheckpointRecord → Harness α}
    (hbudget : ∀ id, 0 ≤ (checkpoint id).recoveryBudgetRemaining)
    (hserved : served .statement (o (n + 1) .statement)) :
    ∃ id, Event.checkpointOpened id ∈ ((newUuid.bind fun id =>
      (createRecoveryCheckpoint (checkpoint id)).bind next).run o n w).events := by
  obtain ⟨at_, hat⟩ := Option.isSome_iff_exists.mp hserved
  set id := unused w.issued (o n .newUuid) with hid
  have hnonneg : ¬ (checkpoint id).recoveryBudgetRemaining < 0 := Int.not_lt.mpr (hbudget id)
  have huuid : newUuid.run o n w =
      { result := .ok id, state := { w with issued := id :: w.issued }, events := []
        asked := n + 1 } := rfl
  refine ⟨(checkpoint id).recoveryCheckpointId, ?_⟩
  rw [Prog.run_bind_of_silent o n w huuid]
  refine Prog.mem_events_run_bind_left _ _ _ ?_
  rw [createRecoveryCheckpoint, if_neg hnonneg]
  refine Prog.mem_events_run_bind_left _ _ _ ?_
  unfold execute transaction
  simp only [Prog.run, hat]
  exact List.mem_cons_self

theorem opens_of_silent {α β : Type} {p : Harness α} {f : α → Harness β} {a : α} {w' : World}
    {m : Nat} (hp : p.run o n w = { result := .ok a, state := w', events := [], asked := m })
    (h : ∃ id, Event.checkpointOpened id ∈ ((f a).run o m w').events) :
    ∃ id, Event.checkpointOpened id ∈ ((p.bind f).run o n w).events := by
  rwa [Prog.run_bind_of_silent o n w hp]

/-- The recovery of a lease opens a checkpoint, where nothing keeps it from there. -/
theorem recoverExpiredWorkerLease_opens (h : CheckpointReached o n lease w.db) :
    ∃ id, Event.checkpointOpened id ∈ ((recoverExpiredWorkerLease now lease).run o n w).events := by
  have hbudget : (0 : Int) ≤ 1 := Int.le_of_lt Int.one_pos
  unfold CheckpointReached at h
  unfold recoverExpiredWorkerLease recoverWorkerLeaseTimeout
  split
  · rename_i hkind
    rw [if_pos hkind] at h
    obtain ⟨record, hfound, hlookups, hinsert⟩ := h
    have hrecord : Reads 1
        (GovernedActions.getGovernedActionExecution record.governedActionExecutionId)
        (fun found => found = record) w := reads_fetchOne hfound.found rfl
    have hcontext : Reads (contextLookups record)
        (loadGovernedActionRecoveryContext record .timeoutOrStall .valid)
        (ContextOf record w.db) w := loadGovernedActionRecoveryContext_reads hfound.execution
    obtain ⟨_, rfl, hrecord⟩ := hrecord o n fun i hi => hlookups i (by omega)
    obtain ⟨context, -, hcontext⟩ := hcontext o (n + 1) fun i hi => by
      rw [Nat.add_assoc]
      exact hlookups (1 + i) (by omega)
    unfold recoverGovernedActionWorkerLeaseTimeout
    rw [hfound.named]
    refine opens_of_silent rfl (opens_of_silent hrecord (opens_of_silent hcontext ?_))
    rw [← Nat.add_assoc] at hinsert
    exact newCheckpoint_opens (fun _ => hbudget) hinsert
  · rename_i hkind
    rw [if_neg hkind] at h
    exact newCheckpoint_opens (fun _ => hbudget) h.2

end Checkpoint

end BlueLagoon.Recovery
