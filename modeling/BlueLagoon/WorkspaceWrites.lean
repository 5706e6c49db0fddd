import BlueLagoon.GovernedActions.WorkspaceListings
import BlueLagoon.Interleaving.Sequential
import BlueLagoon.Workspace
import Mathlib.Data.List.Range

/-!
# Writing in the workspace

The actions that create and change artifacts and scripts. An action reads what it is to change,
checks what it expects of it, and writes in a transaction of its own; other actions may come in
between.
-/

namespace BlueLagoon

open Interleaving

/-- The tables of the workspace that are written. -/
structure WorkspaceTables where
  artifacts : List WorkspaceArtifactRecord := []
  scripts : List WorkspaceScriptRecord := []
  versions : List WorkspaceScriptVersionRecord := []

namespace WorkspaceWrites

/-! ## Statements -/

/-- What is asked of the surroundings. -/
inductive Query
  /-- Does the next statement reach the database, and at what `NOW()`? -/
  | statement
  /-- `Uuid::now_v7()`. -/
  | newUuid

def Query.Answer : Query → Type
  | .statement => Option DateTime
  | .newUuid => Uuid

/-- The vocabulary of the workspace. -/
abbrev workspace : Sig where
  State := WorkspaceTables
  Query := Query
  Answer := Query.Answer
  Event := Empty
  Error := ErrorChain

/-- A program on the workspace. -/
abbrev OnWorkspace (α : Type) := Prog workspace α

/-- What a transaction that goes through leaves behind. -/
def committed {α : Type} (body : WorkspaceTables → Except ErrorChain (α × WorkspaceTables))
    (tables : WorkspaceTables) : Except ErrorChain (Commit workspace α) :=
  (body tables).map fun effect => { value := effect.1, state := effect.2 }

/-- One transaction at some `NOW()`, all or nothing. -/
def transaction {α : Type} (message : String)
    (body : DateTime → WorkspaceTables → Except ErrorChain (α × WorkspaceTables)) :
    OnWorkspace α :=
  Prog.ask Query.statement fun (at_ : Option DateTime) =>
    match at_ with
    | none => .fail [message, "error communicating with database"]
    | some now => .tx (committed (body now))

/-- A query that reads. -/
def fetch {α : Type} (message : String) (read : WorkspaceTables → α) : OnWorkspace α :=
  transaction message fun _ tables => .ok (read tables, tables)

/-- A query for exactly one row. -/
def fetchOne {α : Type} (message : String) (read : WorkspaceTables → Option α) : OnWorkspace α :=
  transaction message fun _ tables =>
    match read tables with
    | some a => .ok (a, tables)
    | none => .error [message,
        "no rows returned by a query that expected to return at least one row"]

/-- `Uuid::now_v7()`. -/
def newUuid : OnWorkspace Uuid := Prog.ask Query.newUuid fun (id : Uuid) => .ret id

/-! ## Artifacts -/

structure NewWorkspaceArtifact where
  workspaceArtifactId : Uuid
  traceId : Option Uuid
  executionId : Option Uuid
  artifactKind : WorkspaceArtifactKind
  title : String
  contentText : Option String
  metadata : Json

structure UpdateWorkspaceArtifact where
  workspaceArtifactId : Uuid
  title : String
  contentText : Option String
  status : WorkspaceArtifactStatus
  metadata : Json

/-- `validate_artifact_title`. -/
def validateArtifactTitle (title : String) : Except ErrorChain Unit :=
  if Text.isBlank title then .error ["workspace artifact title must not be empty"] else .ok ()

/-- `validate_artifact_content`: the size limit counts bytes. -/
def validateArtifactContent (config : RuntimeConfig) (contentText : Option String) :
    Except ErrorChain Unit :=
  match contentText with
  | none => .ok ()
  | some contentText =>
    if contentText.utf8ByteSize > config.workspace.maxArtifactBytes then
      .error [s!"workspace artifact content exceeds configured limit of {config.workspace.maxArtifactBytes} bytes"]
    else .ok ()

/-- `get_workspace_artifact`. -/
def getWorkspaceArtifact (workspaceArtifactId : Uuid) : OnWorkspace WorkspaceArtifactRecord :=
  fetchOne "failed to fetch workspace artifact" fun tables =>
    Table.find WorkspaceArtifactRecord.workspaceArtifactId workspaceArtifactId tables.artifacts

/-- The row of a new artifact. -/
def artifactRow (now : DateTime) (artifact : NewWorkspaceArtifact) : WorkspaceArtifactRecord where
  workspaceArtifactId := artifact.workspaceArtifactId
  traceId := artifact.traceId
  executionId := artifact.executionId
  artifactKind := artifact.artifactKind
  title := artifact.title
  contentText := artifact.contentText
  status := .active
  metadata := artifact.metadata
  createdAt := now
  updatedAt := now

/-- `INSERT INTO workspace_artifacts`. -/
def insertArtifact (message : String) (artifact : NewWorkspaceArtifact) (now : DateTime)
    (tables : WorkspaceTables) : Except ErrorChain WorkspaceTables :=
  if tables.artifacts.any fun other =>
      other.workspaceArtifactId = artifact.workspaceArtifactId then
    .error [message, "workspace_artifacts_pkey"]
  else .ok { tables with artifacts := tables.artifacts ++ [artifactRow now artifact] }

/-- `create_workspace_artifact`. -/
def createWorkspaceArtifact (config : RuntimeConfig) (artifact : NewWorkspaceArtifact) :
    OnWorkspace WorkspaceArtifactRecord := do
  if artifact.artifactKind = .script then
    .fail ["script artifacts must be created through create_workspace_script"]
  else
    .ofExcept (validateArtifactTitle artifact.title)
    .ofExcept (validateArtifactContent config artifact.contentText)
    transaction "failed to insert workspace artifact" fun now tables =>
      (insertArtifact "failed to insert workspace artifact" artifact now tables).map fun tables =>
        ((), tables)
    getWorkspaceArtifact artifact.workspaceArtifactId

/-- The row of an artifact that is updated. -/
def artifactUpdated (now : DateTime) (update : UpdateWorkspaceArtifact)
    (row : WorkspaceArtifactRecord) : WorkspaceArtifactRecord :=
  { row with
      title := update.title
      contentText := update.contentText
      status := update.status
      metadata := update.metadata
      updatedAt := now }

/-- `update_workspace_artifact`. -/
def updateWorkspaceArtifact (config : RuntimeConfig) (update : UpdateWorkspaceArtifact) :
    OnWorkspace WorkspaceArtifactRecord := do
  .ofExcept (validateArtifactTitle update.title)
  .ofExcept (validateArtifactContent config update.contentText)
  let rowsAffected ← transaction "failed to update workspace artifact" fun now tables =>
    .ok ((tables.artifacts.filter fun row =>
        row.workspaceArtifactId = update.workspaceArtifactId).length,
      { tables with
        artifacts :=
          Table.update (fun row => row.workspaceArtifactId = update.workspaceArtifactId)
            (artifactUpdated now update) tables.artifacts })
  if rowsAffected = 0 then
    .fail [s!"workspace artifact '{update.workspaceArtifactId}' was not found"]
  else getWorkspaceArtifact update.workspaceArtifactId

/-! ## Scripts -/

structure NewWorkspaceScript where
  workspaceScriptId : Uuid
  workspaceArtifactId : Uuid
  workspaceScriptVersionId : Uuid
  traceId : Option Uuid
  executionId : Option Uuid
  title : String
  metadata : Json
  language : String
  entrypoint : Option String
  contentText : String
  changeSummary : Option String

structure WorkspaceScriptBundle where
  artifact : WorkspaceArtifactRecord
  script : WorkspaceScriptRecord
  initialVersion : WorkspaceScriptVersionRecord

/-- `get_workspace_script`. -/
def getWorkspaceScript (workspaceScriptId : Uuid) : OnWorkspace WorkspaceScriptRecord :=
  fetchOne "failed to fetch workspace script" fun tables =>
    Table.find WorkspaceScriptRecord.workspaceScriptId workspaceScriptId tables.scripts

/-- `get_workspace_script_version`. -/
def getWorkspaceScriptVersion (workspaceScriptVersionId : Uuid) :
    OnWorkspace WorkspaceScriptVersionRecord :=
  fetchOne "failed to fetch workspace script version" fun tables =>
    Table.find WorkspaceScriptVersionRecord.workspaceScriptVersionId workspaceScriptVersionId
      tables.versions

/-- The versions of a script. -/
def versionsOf (workspaceScriptId : Uuid) (tables : WorkspaceTables) :
    List WorkspaceScriptVersionRecord :=
  tables.versions.filter fun row => row.workspaceScriptId = workspaceScriptId

/-- `get_latest_workspace_script_version`: `ORDER BY version DESC LIMIT 1`. -/
def getLatestWorkspaceScriptVersion (workspaceScriptId : Uuid) :
    OnWorkspace (Option WorkspaceScriptVersionRecord) :=
  fetch "failed to fetch latest workspace script version" fun tables =>
    Table.first (fun a b => decide (a.version > b.version)) (versionsOf workspaceScriptId tables)

/-- `INSERT INTO workspace_scripts`. -/
def insertScript (row : WorkspaceScriptRecord) (tables : WorkspaceTables) :
    Except ErrorChain WorkspaceTables :=
  if tables.scripts.any fun other => other.workspaceScriptId = row.workspaceScriptId then
    .error ["failed to insert workspace script", "workspace_scripts_pkey"]
  else if tables.scripts.any fun other => other.workspaceArtifactId = row.workspaceArtifactId then
    .error ["failed to insert workspace script", "workspace_scripts_workspace_artifact_id_key"]
  else .ok { tables with scripts := tables.scripts ++ [row] }

/-- `INSERT INTO workspace_script_versions`. -/
def insertVersion (message : String) (row : WorkspaceScriptVersionRecord)
    (tables : WorkspaceTables) : Except ErrorChain WorkspaceTables :=
  if row.version > Workspace.i32Max then
    .error [message, "workspace_script_versions_version_check"]
  else if tables.versions.any fun other =>
      other.workspaceScriptVersionId = row.workspaceScriptVersionId then
    .error [message, "workspace_script_versions_pkey"]
  else if tables.versions.any fun other =>
      other.workspaceScriptId = row.workspaceScriptId && other.version = row.version then
    .error [message, "workspace_script_versions_workspace_script_id_version_key"]
  else .ok { tables with versions := tables.versions ++ [row] }

variable [Digest]

/-- The artifact of a new script. -/
def scriptArtifact (script : NewWorkspaceScript) : NewWorkspaceArtifact where
  workspaceArtifactId := script.workspaceArtifactId
  traceId := script.traceId
  executionId := script.executionId
  artifactKind := .script
  title := script.title
  contentText := none
  metadata := script.metadata

/-- The row of a new script. -/
def scriptRow (now : DateTime) (script : NewWorkspaceScript) : WorkspaceScriptRecord where
  workspaceScriptId := script.workspaceScriptId
  workspaceArtifactId := script.workspaceArtifactId
  language := script.language
  entrypoint := script.entrypoint
  latestVersion := 1
  createdAt := now
  updatedAt := now

/-- The initial version of a new script. -/
def initialVersion (script : NewWorkspaceScript) : NewWorkspaceScriptVersion where
  workspaceScriptVersionId := script.workspaceScriptVersionId
  workspaceScriptId := script.workspaceScriptId
  contentText := script.contentText
  changeSummary := script.changeSummary

/-- The transaction of `create_workspace_script`. -/
def insertNewScript (script : NewWorkspaceScript) (now : DateTime) (tables : WorkspaceTables) :
    Except ErrorChain (Unit × WorkspaceTables) := do
  let tables ← insertArtifact "failed to insert workspace script artifact" (scriptArtifact script)
    now tables
  let tables ← insertScript (scriptRow now script) tables
  let tables ← insertVersion "failed to insert initial workspace script version"
    (Workspace.versionRow now (initialVersion script) 1) tables
  pure ((), tables)

/-- `create_workspace_script`. -/
def createWorkspaceScript (config : RuntimeConfig) (script : NewWorkspaceScript) :
    OnWorkspace WorkspaceScriptBundle := do
  .ofExcept (validateArtifactTitle script.title)
  .ofExcept (Workspace.validateScriptContent config script.contentText)
  transaction "failed to start workspace script transaction" (insertNewScript script)
  let artifact ← getWorkspaceArtifact script.workspaceArtifactId
  let row ← getWorkspaceScript script.workspaceScriptId
  let version ← getWorkspaceScriptVersion script.workspaceScriptVersionId
  pure { artifact := artifact, script := row, initialVersion := version }

/-- The transaction of `append_workspace_script_version`: lock the script, take the next number,
insert the version, move the script and its artifact on. -/
def appendVersion (version : NewWorkspaceScriptVersion) (now : DateTime)
    (tables : WorkspaceTables) : Except ErrorChain (Unit × WorkspaceTables) :=
  match Table.find WorkspaceScriptRecord.workspaceScriptId version.workspaceScriptId
      tables.scripts with
  | none => .error ["failed to lock workspace script for version append",
      "no rows returned by a query that expected to return at least one row"]
  | some script => do
    let tables ← insertVersion "failed to insert workspace script version"
      (Workspace.versionRow now version (script.latestVersion + 1)) tables
    pure ((), { tables with
      scripts := Table.update (fun row => row.workspaceScriptId = version.workspaceScriptId)
        (Workspace.movedOn now (script.latestVersion + 1)) tables.scripts
      artifacts := Table.update (fun row => row.workspaceArtifactId = script.workspaceArtifactId)
        (fun row => { row with updatedAt := now }) tables.artifacts })

/-- `append_workspace_script_version`. -/
def appendWorkspaceScriptVersion (config : RuntimeConfig) (version : NewWorkspaceScriptVersion) :
    OnWorkspace WorkspaceScriptVersionRecord := do
  .ofExcept (Workspace.validateScriptContent config version.contentText)
  transaction "failed to start workspace script version transaction" (appendVersion version)
  getWorkspaceScriptVersion version.workspaceScriptVersionId

/-! ## Actions -/

omit [Digest] in
/-- `execute_create_workspace_artifact`, up to the completion. -/
def executeCreateWorkspaceArtifact (config : RuntimeConfig)
    (record : GovernedActionExecutionRecord) (action : CreateWorkspaceArtifactAction) :
    OnWorkspace NativeReport := do
  let workspaceArtifactId ← newUuid
  let artifact ← createWorkspaceArtifact config
    { workspaceArtifactId := workspaceArtifactId
      traceId := some record.traceId
      executionId := record.executionId
      artifactKind := action.artifactKind
      title := Text.trim action.title
      contentText := some action.contentText
      metadata := .obj
        [("source", .str "governed_action"),
         ("governed_action_execution_id", .uuid record.governedActionExecutionId),
         ("provenance", .ofOption .str action.provenance)] }
  pure
    { summary := s!"created workspace artifact {artifact.workspaceArtifactId} '{artifact.title}'"
      payload := .obj
        [("workspace_artifact_id", .uuid artifact.workspaceArtifactId),
         ("artifact_kind", .str artifact.artifactKind.asStr),
         ("title", .str artifact.title),
         ("updated_at", .time artifact.updatedAt)] }

omit [Digest] in
/-- `execute_update_workspace_artifact`, up to the completion. -/
def executeUpdateWorkspaceArtifact (config : RuntimeConfig)
    (record : GovernedActionExecutionRecord) (action : UpdateWorkspaceArtifactAction) :
    OnWorkspace NativeReport := do
  let current ← getWorkspaceArtifact action.artifactId
  if current.artifactKind = .script then
    .fail ["script artifacts must be updated with append_workspace_script_version"]
  else if current.status ≠ .active then
    .fail ["workspace artifact is archived"]
  else if action.expectedUpdatedAt.any fun expected => current.updatedAt ≠ expected then
    .fail ["workspace artifact update conflict: updated_at does not match expected value"]
  else
    let updated ← updateWorkspaceArtifact config
      { workspaceArtifactId := action.artifactId
        title := Text.trim (action.title.getD current.title)
        contentText := some action.contentText
        status := .active
        metadata := .obj
          [("source", .str "governed_action"),
           ("governed_action_execution_id", .uuid record.governedActionExecutionId),
           ("previous_metadata", current.metadata),
           ("change_summary", .str action.changeSummary)] }
    pure
      { summary := s!"updated workspace artifact {updated.workspaceArtifactId} '{updated.title}'"
        payload := .obj
          [("workspace_artifact_id", .uuid updated.workspaceArtifactId),
           ("title", .str updated.title),
           ("updated_at", .time updated.updatedAt)] }

/-- `execute_create_workspace_script`, up to the completion. -/
def executeCreateWorkspaceScript (config : RuntimeConfig)
    (record : GovernedActionExecutionRecord) (action : CreateWorkspaceScriptAction) :
    OnWorkspace NativeReport := do
  let workspaceScriptId ← newUuid
  let workspaceArtifactId ← newUuid
  let workspaceScriptVersionId ← newUuid
  let script ← createWorkspaceScript config
    { workspaceScriptId := workspaceScriptId
      workspaceArtifactId := workspaceArtifactId
      workspaceScriptVersionId := workspaceScriptVersionId
      traceId := some record.traceId
      executionId := record.executionId
      title := Text.trim action.title
      metadata := .obj
        [("source", .str "governed_action"),
         ("governed_action_execution_id", .uuid record.governedActionExecutionId),
         ("description", .ofOption .str action.description),
         ("requested_capabilities", .arr (action.requestedCapabilities.map .str))]
      language := Text.toAsciiLowercase (Text.trim action.language)
      entrypoint := none
      contentText := action.contentText
      changeSummary := some "initial governed script version" }
  pure
    { summary := s!"created workspace script {script.script.workspaceScriptId} '{script.artifact.title}' version {script.initialVersion.version}"
      payload := .obj
        [("workspace_script_id", .uuid script.script.workspaceScriptId),
         ("workspace_artifact_id", .uuid script.artifact.workspaceArtifactId),
         ("workspace_script_version_id", .uuid script.initialVersion.workspaceScriptVersionId),
         ("language", .str script.script.language),
         ("version", .int script.initialVersion.version),
         ("content_sha256", .str script.initialVersion.contentSha256)] }

/-- What an append expects of the latest version of its script. -/
def checkExpectations (action : AppendWorkspaceScriptVersionAction)
    (latest : WorkspaceScriptVersionRecord) : Except ErrorChain Unit :=
  if action.expectedLatestVersionId.any (latest.workspaceScriptVersionId ≠ ·) then
    .error ["workspace script version conflict: latest version id changed"]
  else if action.expectedContentSha256.any (latest.contentSha256 ≠ ·) then
    .error ["workspace script version conflict: latest content hash changed"]
  else .ok ()

/-- `execute_append_workspace_script_version`, up to the completion. -/
def executeAppendWorkspaceScriptVersion (config : RuntimeConfig)
    (action : AppendWorkspaceScriptVersionAction) : OnWorkspace NativeReport := do
  let script ← getWorkspaceScript action.scriptId
  if Text.toAsciiLowercase script.language ≠ Text.toAsciiLowercase (Text.trim action.language) then
    .fail ["workspace script language mismatch"]
  else
    let artifact ← getWorkspaceArtifact script.workspaceArtifactId
    if artifact.status ≠ .active then
      .fail ["workspace script is archived"]
    else
      let found ← getLatestWorkspaceScriptVersion action.scriptId
      let latest ← match found with
        | some latest => pure latest
        | none => .fail ["workspace script has no versions"]
      .ofExcept (checkExpectations action latest)
      let workspaceScriptVersionId ← newUuid
      let version ← appendWorkspaceScriptVersion config
        { workspaceScriptVersionId := workspaceScriptVersionId
          workspaceScriptId := action.scriptId
          contentText := action.contentText
          changeSummary := some action.changeSummary }
      pure
        { summary := s!"appended workspace script {version.workspaceScriptId} version {version.version}"
          payload := .obj
            [("workspace_script_id", .uuid version.workspaceScriptId),
             ("workspace_script_version_id", .uuid version.workspaceScriptVersionId),
             ("version", .int version.version),
             ("content_sha256", .str version.contentSha256)] }

end WorkspaceWrites

end BlueLagoon
