import BlueLagoon.GovernedActions.Execution

/-!
# What the executors touch

An executor works on the execution record and the script run of its action, hands
commands to the subprocess runner, and ends with one final update of the record. What
lies beyond that it leaves alone, so a property that survives these effects survives
every executor.
-/

namespace BlueLagoon

open Interleaving Harness

namespace GovernedActions

/-- An update an executor may end with. -/
structure FinalUpdate (record : GovernedActionExecutionRecord)
    (update : GovernedActionExecutionUpdate) : Prop where
  id : update.governedActionExecutionId = record.governedActionExecutionId
  terminal : update.status = .executed ∨ update.status = .failed ∨ update.status = .blocked
  executionId : update.executionId = record.executionId
  attached : update.executionId.isSome
  unlinked : update.approvalRequestId = none
  completed : update.completedAt.isSome

/-- The database once the record of an update is changed. -/
def afterUpdate (now : DateTime) (update : GovernedActionExecutionUpdate) (db : Database) :
    Database :=
  { db with
    governedActionExecutions :=
      Table.update (fun row => row.governedActionExecutionId = update.governedActionExecutionId)
        (updated now update) db.governedActionExecutions }

/-- `B` allows what an executor of the record does; `commands` are the commands it may hand
to the subprocess runner. -/
structure AllowsExecutor (B : Database → Database → List Event → Prop)
    (commands : SubprocessAction → Prop) (record : GovernedActionExecutionRecord) : Prop where
  executions : ∀ db rows, Execution.Advances db.executionRecords rows →
    B db { db with executionRecords := rows } []
  runs : ∀ db rows, B db { db with workspaceScriptRuns := rows } []
  audit : ∀ db rows, B db { db with auditEvents := rows } []
  started : ∀ db command, commands command → B db db [.subprocessStarted command]
  settled : ∀ now db row update, FinalUpdate record update →
    recordOf update.governedActionExecutionId db = some row →
    db.governedActionExecutionViolation (updated now update row) = none →
    B db (afterUpdate now update db)
      [.actionSettled record.governedActionExecutionId update.status]

variable {B : Database → Database → List Event → Prop} {commands : SubprocessAction → Prop}
  {record : GovernedActionExecutionRecord}

namespace AllowsExecutor

theorem refl (h : AllowsExecutor B commands record) (db : Database) : B db db [] :=
  h.executions db db.executionRecords (.refl _)

/-! ## The last step of every executor -/

theorem settle (h : AllowsExecutor B commands record) {executionId : Uuid}
    (hid : record.executionId = some executionId) {settlement : Settlement}
    (hstatus : settlement.status = .executed ∨ settlement.status = .failed ∨
      settlement.status = .blocked) :
    (settle record executionId settlement).Confined (OnDb B) := by
  have hfinal : FinalUpdate record (settlementUpdate record executionId settlement) :=
    { id := rfl
      terminal := hstatus
      executionId := hid.symm
      attached := rfl
      unlinked := rfl
      completed := rfl }
  refine Prog.Confined.bind (updateGovernedActionExecution_confined h.refl ?_) fun _ => ?_
  · exact fun now db row hrow hvalid => h.settled now db row _ hfinal hrow hvalid
  · refine Prog.Confined.bind (writeGovernedActionAuditEvent_confined h.audit _ _ _ _) fun _ => ?_
    exact Prog.Confined.bind (confined_newUuid h.refl) fun _ => Prog.confined_ret _

theorem markFinished (h : AllowsExecutor B commands record) (executionId : Uuid)
    (success : Bool) (responsePayload : Json) :
    (markFinished executionId success responsePayload).Confined (OnDb B) := by
  unfold GovernedActions.markFinished
  split
  · exact Execution.markSucceeded_confined h.executions _ _ _ _
  · exact Execution.markFailed_confined h.executions _ _

theorem startOf (h : AllowsExecutor B commands record) :
    (startOf record).Confined (OnDb B) := by
  unfold GovernedActions.startOf
  split
  · exact Prog.confined_ret _
  · exact confined_utcNow h.refl

theorem executeBoundedSubprocess (h : AllowsExecutor B commands record) {scope : CapabilityScope}
    {command : SubprocessAction} (hcommand : commands command) :
    (executeBoundedSubprocess scope command).attempt.Confined (OnDb B) := by
  refine Prog.Confined.attempt (Prog.Confined.bind (Prog.Confined.emit ?_) fun _ => ?_)
  · exact fun w => OnDb.emit (h.started w.db command hcommand)
  · exact fun answer => Prog.confined_ofExcept (S := system) answer

/-! ## One executor after the other -/

theorem executeSubprocess (h : AllowsExecutor B commands record) {action : SubprocessAction}
    (hcommand : commands action) :
    (executeSubprocessGovernedAction record action).Confined (OnDb B) := by
  unfold executeSubprocessGovernedAction
  refine confined_expect_bind fun executionId hid => ?_
  refine Prog.Confined.bind h.startOf fun startedAt => ?_
  refine Prog.Confined.bind (h.executeBoundedSubprocess hcommand) fun result => ?_
  cases result with
  | error error =>
    refine Prog.Confined.bind (Execution.markFailed_confined h.executions _ _) fun _ => ?_
    refine Prog.Confined.bind (confined_utcNow h.refl) fun _ => ?_
    exact h.settle hid (Or.inr (Or.inr rfl))
  | ok outcome =>
    refine Prog.Confined.bind (confined_utcNow h.refl) fun _ => ?_
    dsimp only
    split
    · refine Prog.Confined.bind (Execution.markFailed_confined h.executions _ _) fun _ => ?_
      exact h.settle hid (Or.inr (Or.inl rfl))
    · refine Prog.Confined.bind (h.markFinished _ _ _) fun _ => ?_
      refine h.settle hid ?_
      dsimp only
      split <;> simp

/-- Running a script takes the steps that an executor may take, and asks for its command only. -/
theorem runWorkspaceScript (h : AllowsExecutor B commands record)
    {action : WorkspaceScriptAction} {executionId : Uuid}
    (hid : record.executionId = some executionId) {script : WorkspaceScriptRecord}
    {version : WorkspaceScriptVersionRecord} {command : SubprocessAction}
    (hcommand : commands command) :
    (runWorkspaceScript record action executionId script version command).Confined
      (OnDb B) := by
  have hrun := Workspace.updateWorkspaceScriptRunStatus_confined h.runs
  refine Prog.Confined.bind (confined_newUuid h.refl) fun _ => ?_
  refine Prog.Confined.bind (Workspace.recordWorkspaceScriptRun_confined h.runs _) fun _ => ?_
  refine Prog.Confined.bind (confined_utcNow h.refl) fun _ => ?_
  refine Prog.Confined.bind (hrun _) fun _ => ?_
  refine Prog.Confined.bind (h.executeBoundedSubprocess hcommand) fun result => ?_
  cases result with
  | error error =>
    refine Prog.Confined.bind (Execution.markFailed_confined h.executions _ _) fun _ => ?_
    refine Prog.Confined.bind (confined_utcNow h.refl) fun _ => ?_
    refine Prog.Confined.bind (hrun _) fun _ => ?_
    refine Prog.Confined.bind (confined_utcNow h.refl) fun _ => ?_
    exact h.settle hid (Or.inr (Or.inr rfl))
  | ok outcome =>
    refine Prog.Confined.bind (confined_utcNow h.refl) fun _ => ?_
    dsimp only
    split
    · refine Prog.Confined.bind (Execution.markFailed_confined h.executions _ _) fun _ => ?_
      refine Prog.Confined.bind (hrun _) fun _ => ?_
      exact h.settle hid (Or.inr (Or.inl rfl))
    · refine Prog.Confined.bind (h.markFinished _ _ _) fun _ => ?_
      refine Prog.Confined.bind (hrun _) fun _ => ?_
      refine h.settle hid ?_
      dsimp only
      split <;> simp

theorem resolveScriptVersion (h : AllowsExecutor B commands record)
    (action : WorkspaceScriptAction) :
    (resolveScriptVersion action).Confined (OnDb B) := by
  unfold GovernedActions.resolveScriptVersion
  split
  · exact confined_fetchOne h.refl
  · exact Prog.Confined.bind (confined_fetch h.refl) fun latest => confined_expect latest

theorem executeWorkspaceScript (h : AllowsExecutor B commands record) {config : RuntimeConfig}
    {action : WorkspaceScriptAction}
    (hcommands : ∀ script version command,
      buildWorkspaceScriptSubprocessAction config script version action = .ok command →
        commands command) :
    (executeWorkspaceScriptGovernedAction config record action).Confined (OnDb B) := by
  unfold executeWorkspaceScriptGovernedAction
  refine confined_expect_bind fun executionId hid => ?_
  refine Prog.Confined.bind (confined_fetchOne h.refl) fun script => ?_
  refine Prog.Confined.bind (h.resolveScriptVersion action) fun version => ?_
  split
  · exact Prog.confined_fail _
  · refine Prog.confined_ofExcept_bind fun command hbuild => ?_
    exact h.runWorkspaceScript hid (hcommands _ _ _ hbuild)

theorem executeWebFetch (h : AllowsExecutor B commands record) (action : WebFetchAction) :
    (executeWebFetchGovernedAction record action).Confined (OnDb B) := by
  unfold executeWebFetchGovernedAction
  refine confined_expect_bind fun executionId hid => ?_
  refine Prog.Confined.bind h.startOf fun startedAt => ?_
  refine Prog.Confined.bind (fun _ => trivial) fun fetchResult => ?_
  refine Prog.Confined.bind (confined_utcNow h.refl) fun _ => ?_
  cases fetchResult with
  | error error =>
    refine Prog.Confined.bind (Execution.markFailed_confined h.executions _ _) fun _ => ?_
    exact h.settle hid (Or.inr (Or.inl rfl))
  | ok outcome =>
    refine Prog.Confined.bind (fun answer => Prog.confined_ofExcept (S := system) answer) fun formatted => ?_
    refine Prog.Confined.bind (Execution.markSucceeded_confined h.executions _ _ _ _)
      fun _ => ?_
    exact h.settle hid (Or.inl rfl)

theorem executeHarnessNative (h : AllowsExecutor B commands record) :
    (executeHarnessNativeAction record).Confined (OnDb B) := by
  refine Prog.Confined.bind (fun answer => Prog.confined_ofExcept (S := system) answer) fun report => ?_
  unfold completeHarnessNativeAction
  refine confined_expect_bind fun executionId hid => ?_
  refine Prog.Confined.bind (Execution.markSucceeded_confined h.executions _ _ _ _) fun _ => ?_
  refine Prog.Confined.bind (confined_utcNow h.refl) fun _ => ?_
  exact h.settle hid (Or.inl rfl)

/-- Whatever the payload is. -/
theorem executePayload (h : AllowsExecutor B (fun _ => True) record) (config : RuntimeConfig) :
    (executePayload config record).Confined (OnDb B) := by
  unfold GovernedActions.executePayload
  split
  · exact h.executeSubprocess trivial
  · exact h.executeWorkspaceScript fun _ _ _ _ => trivial
  · exact h.executeWebFetch _
  · exact h.executeHarnessNative

end AllowsExecutor

end GovernedActions

end BlueLagoon
