import BlueLagoon.Execution

/-!
# Workspace scripts

Scripts with their versions and runs. A version is never changed once it is
written; appending one takes the next number and makes it the latest.
-/

namespace BlueLagoon

open Interleaving Harness

/-- Services outside the repository that compute a value: the SHA-256 digest of a
text, in lower-case hexadecimal. -/
class Digest where
  sha256Hex : String → String

structure NewWorkspaceScriptVersion where
  workspaceScriptVersionId : Uuid
  workspaceScriptId : Uuid
  contentText : String
  changeSummary : Option String
  deriving DecidableEq, Repr

structure NewWorkspaceScriptRun where
  workspaceScriptRunId : Uuid
  workspaceScriptId : Uuid
  workspaceScriptVersionId : Uuid
  traceId : Uuid
  executionId : Option Uuid
  governedActionExecutionId : Option Uuid
  approvalRequestId : Option Uuid
  status : WorkspaceScriptRunStatus
  riskTier : GovernedActionRiskTier
  args : List String
  outputRef : Option String
  failureSummary : Option String
  startedAt : Option DateTime
  completedAt : Option DateTime

structure UpdateWorkspaceScriptRunStatus where
  workspaceScriptRunId : Uuid
  status : WorkspaceScriptRunStatus
  outputRef : Option String
  failureSummary : Option String
  startedAt : Option DateTime
  completedAt : Option DateTime

namespace Workspace

/-- `validate_script_content`: the size limit counts bytes. -/
def validateScriptContent (config : RuntimeConfig) (contentText : String) :
    Except ErrorChain Unit :=
  if contentText.utf8ByteSize > config.workspace.maxScriptBytes then
    .error [s!"workspace script content exceeds configured limit of {config.workspace.maxScriptBytes} bytes"]
  else
    .ok ()

/-! ## Scripts and versions -/

/-- `get_workspace_script`. -/
def getWorkspaceScript (workspaceScriptId : Uuid) : Harness WorkspaceScriptRecord :=
  fetchOne "failed to fetch workspace script" fun db =>
    Table.find WorkspaceScriptRecord.workspaceScriptId workspaceScriptId db.workspaceScripts

/-- `get_workspace_script_version`. -/
def getWorkspaceScriptVersion (workspaceScriptVersionId : Uuid) :
    Harness WorkspaceScriptVersionRecord :=
  fetchOne "failed to fetch workspace script version" fun db =>
    Table.find WorkspaceScriptVersionRecord.workspaceScriptVersionId workspaceScriptVersionId
      db.workspaceScriptVersions

/-- The versions of a script. -/
def versionsOf (workspaceScriptId : Uuid) (db : Database) : List WorkspaceScriptVersionRecord :=
  db.workspaceScriptVersions.filter fun row => row.workspaceScriptId = workspaceScriptId

/-- `ORDER BY version DESC LIMIT 1`. -/
def latestVersion (workspaceScriptId : Uuid) (db : Database) :
    Option WorkspaceScriptVersionRecord :=
  Table.first (fun a b => decide (a.version > b.version)) (versionsOf workspaceScriptId db)

/-- `get_latest_workspace_script_version`. -/
def getLatestWorkspaceScriptVersion (workspaceScriptId : Uuid) :
    Harness (Option WorkspaceScriptVersionRecord) :=
  fetch "failed to fetch latest workspace script version" (latestVersion workspaceScriptId)

/-- The largest value of an `INTEGER` column. -/
def i32Max : Nat := 2147483647

variable [Digest]

/-- The row of an appended version. -/
def versionRow (now : DateTime) (version : NewWorkspaceScriptVersion) (next : Nat) :
    WorkspaceScriptVersionRecord where
  workspaceScriptVersionId := version.workspaceScriptVersionId
  workspaceScriptId := version.workspaceScriptId
  version := next
  contentText := version.contentText
  contentSha256 := Digest.sha256Hex version.contentText
  changeSummary := version.changeSummary
  createdAt := now

/-- The row of a script once its latest version is `next`. -/
def movedOn (now : DateTime) (next : Nat) (row : WorkspaceScriptRecord) : WorkspaceScriptRecord :=
  { row with latestVersion := next, updatedAt := now }

/-- The transaction of `append_workspace_script_version`: lock the script, take the next
number, insert the version, move the script on. The number is computed on an `i32`. -/
def appendVersion (version : NewWorkspaceScriptVersion) (now : DateTime) (db : Database) :
    Except ErrorChain (Effect Unit) :=
  match Table.find WorkspaceScriptRecord.workspaceScriptId version.workspaceScriptId
      db.workspaceScripts with
  | none => .error ["failed to lock workspace script for version append",
      "no rows returned by a query that expected to return at least one row"]
  | some script =>
    let next := script.latestVersion + 1
    if next > i32Max then
      .error ["failed to insert workspace script version", "workspace_script_versions_version_check"]
    else
      match db.workspaceScriptVersionViolation (versionRow now version next) with
      | some constraint => .error ["failed to insert workspace script version", constraint]
      | none =>
        .ok { value := ()
              db := { db with
                workspaceScriptVersions :=
                  db.workspaceScriptVersions ++ [versionRow now version next]
                workspaceScripts :=
                  Table.update (fun row => row.workspaceScriptId = version.workspaceScriptId)
                    (movedOn now next) db.workspaceScripts } }

/-- An append that goes through adds one version, with the number after the script's. -/
theorem appendVersion_eq_ok {version : NewWorkspaceScriptVersion} {now : DateTime}
    {db : Database} {effect : Effect Unit} (h : appendVersion version now db = .ok effect) :
    ∃ script,
      Table.find WorkspaceScriptRecord.workspaceScriptId version.workspaceScriptId
        db.workspaceScripts = some script ∧
      effect.db.workspaceScriptVersions = db.workspaceScriptVersions ++
        [versionRow now version (script.latestVersion + 1)] ∧
      effect.db.workspaceScripts =
        Table.update (fun row => row.workspaceScriptId = version.workspaceScriptId)
          (movedOn now (script.latestVersion + 1)) db.workspaceScripts ∧
      effect.events = [] := by
  unfold appendVersion at h
  split at h
  · cases h
  rename_i script hfind
  dsimp only at h
  split at h
  · cases h
  split at h
  · cases h
  obtain rfl := Except.ok.inj h
  exact ⟨script, hfind, rfl, rfl, rfl⟩

/-- `append_workspace_script_version`. -/
def appendWorkspaceScriptVersion (config : RuntimeConfig) (version : NewWorkspaceScriptVersion) :
    Harness WorkspaceScriptVersionRecord := do
  .ofExcept (validateScriptContent config version.contentText)
  transaction "failed to start workspace script version transaction" (appendVersion version)
  getWorkspaceScriptVersion version.workspaceScriptVersionId

omit [Digest]

/-! ## Runs -/

/-- `get_workspace_script_run`. -/
def getWorkspaceScriptRun (workspaceScriptRunId : Uuid) : Harness WorkspaceScriptRunRecord :=
  fetchOne "failed to fetch workspace script run" fun db =>
    Table.find WorkspaceScriptRunRecord.workspaceScriptRunId workspaceScriptRunId
      db.workspaceScriptRuns

/-- The row of a new run. -/
def runRow (now : DateTime) (run : NewWorkspaceScriptRun) : WorkspaceScriptRunRecord where
  workspaceScriptRunId := run.workspaceScriptRunId
  workspaceScriptId := run.workspaceScriptId
  workspaceScriptVersionId := run.workspaceScriptVersionId
  traceId := run.traceId
  executionId := run.executionId
  governedActionExecutionId := run.governedActionExecutionId
  approvalRequestId := run.approvalRequestId
  status := run.status
  riskTier := run.riskTier
  args := run.args
  outputRef := run.outputRef
  failureSummary := run.failureSummary
  startedAt := run.startedAt
  completedAt := run.completedAt
  createdAt := now
  updatedAt := now

/-- `record_workspace_script_run`. -/
def recordWorkspaceScriptRun (run : NewWorkspaceScriptRun) : Harness WorkspaceScriptRunRecord := do
  execute "failed to insert workspace script run" fun now db =>
    match db.workspaceScriptRunViolation (runRow now run) with
    | some constraint => .error constraint
    | none =>
      .ok { value := ()
            db := { db with workspaceScriptRuns := db.workspaceScriptRuns ++ [runRow now run] } }
  getWorkspaceScriptRun run.workspaceScriptRunId

/-- The row of a run once its status is updated. -/
def runUpdated (now : DateTime) (update : UpdateWorkspaceScriptRunStatus)
    (row : WorkspaceScriptRunRecord) : WorkspaceScriptRunRecord :=
  { row with
      status := update.status
      outputRef := update.outputRef
      failureSummary := update.failureSummary
      startedAt := update.startedAt
      completedAt := update.completedAt
      updatedAt := now }

/-- `update_workspace_script_run_status`. -/
def updateWorkspaceScriptRunStatus (update : UpdateWorkspaceScriptRunStatus) :
    Harness WorkspaceScriptRunRecord := do
  let rowsAffected ← execute "failed to update workspace script run" fun now db =>
    match Table.find WorkspaceScriptRunRecord.workspaceScriptRunId update.workspaceScriptRunId
        db.workspaceScriptRuns with
    | none => .ok { value := 0, db := db }
    | some row =>
      match db.workspaceScriptRunViolation (runUpdated now update row) with
      | some constraint => .error constraint
      | none =>
        .ok { value := 1
              db := { db with
                workspaceScriptRuns :=
                  Table.update (fun row => row.workspaceScriptRunId = update.workspaceScriptRunId)
                    (runUpdated now update) db.workspaceScriptRuns } }
  if rowsAffected = 0 then
    bail s!"workspace script run '{update.workspaceScriptRunId}' was not found"
  else
    getWorkspaceScriptRun update.workspaceScriptRunId

/-! ### What they touch -/

section Confined

variable {B : Database → Database → List Event → Prop}

theorem recordWorkspaceScriptRun_confined
    (h : ∀ db rows, B db { db with workspaceScriptRuns := rows } [])
    (run : NewWorkspaceScriptRun) : (recordWorkspaceScriptRun run).Confined (OnDb B) := by
  have refl : ∀ db, B db db [] := fun db => h db db.workspaceScriptRuns
  refine Prog.Confined.bind (confined_execute refl ?_) fun _ => confined_fetchOne refl
  intro now db effect hbody
  split at hbody
  · cases hbody
  · obtain rfl := Except.ok.inj hbody
    exact h db _

theorem updateWorkspaceScriptRunStatus_confined
    (h : ∀ db rows, B db { db with workspaceScriptRuns := rows } [])
    (update : UpdateWorkspaceScriptRunStatus) :
    (updateWorkspaceScriptRunStatus update).Confined (OnDb B) := by
  have refl : ∀ db, B db db [] := fun db => h db db.workspaceScriptRuns
  refine Prog.Confined.bind (confined_execute refl ?_) fun rowsAffected => ?_
  · intro now db effect hbody
    split at hbody
    · obtain rfl := Except.ok.inj hbody
      exact refl db
    · split at hbody
      · cases hbody
      · obtain rfl := Except.ok.inj hbody
        exact h db _
  · split
    · exact Prog.confined_fail _
    · exact confined_fetchOne refl

end Confined

/-- `get_latest_workspace_script_run_by_governed_action_execution_id`. -/
def getLatestWorkspaceScriptRunByGovernedActionExecutionId (governedActionExecutionId : Uuid) :
    Harness (Option WorkspaceScriptRunRecord) :=
  fetch "failed to fetch workspace script run by governed action execution" fun db =>
    Table.first
      (fun a b => decide (a.createdAt > b.createdAt) ||
        (decide (a.createdAt = b.createdAt) &&
          decide (a.workspaceScriptRunId > b.workspaceScriptRunId)))
      (db.workspaceScriptRuns.filter fun row =>
        row.governedActionExecutionId = some governedActionExecutionId)

end Workspace

end BlueLagoon
