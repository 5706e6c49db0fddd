import BlueLagoon.Codec
import BlueLagoon.GovernedActions.Execution

/-!
# Governed actions in their rows

A row keeps the scope and the payload of an action as JSON documents, and its kind, tier and
status by name. What was written is read back as it was.
-/

namespace BlueLagoon

namespace RowEncoding

open Codec

/-! ## Enumerations -/

def artifactKind : Codec WorkspaceArtifactKind :=
  enumeration WorkspaceArtifactKind.asStr [.note, .runbook, .scratchpad, .taskList, .script]
    (by intro a; cases a <;> decide +kernel)

def statusFilter : Codec WorkspaceArtifactStatusFilter :=
  enumeration WorkspaceArtifactStatusFilter.asStr [.active, .archived, .any]
    (by intro a; cases a <;> decide +kernel)

def runStatus : Codec WorkspaceScriptRunStatus :=
  enumeration WorkspaceScriptRunStatus.asStr
    [.pending, .running, .completed, .failed, .timedOut, .blocked]
    (by intro a; cases a <;> decide +kernel)

def jobKind : Codec UnconsciousJobKind :=
  enumeration UnconsciousJobKind.asStr
    [.memoryConsolidation, .retrievalMaintenance, .contradictionAndDriftScan,
      .selfModelReflection]
    (by intro a; cases a <;> decide +kernel)

def diagnosticDocument : Codec DiagnosticDocument :=
  enumeration DiagnosticDocument.asStr
    [.philosophy, .requirements, .implementationDesign, .internalDocumentation,
      .contextAssembly, .governedActions]
    (by intro a; cases a <;> decide +kernel)

def networkPosture : Codec NetworkAccessPosture :=
  enumeration NetworkAccessPosture.asStr [.disabled, .allowlisted, .enabled]
    (by intro a; cases a <;> decide +kernel)

/-! ## Scopes -/

def filesystemScope : Codec FilesystemCapabilityScope where
  encode scope := .obj
    [("read_roots", (list string).encode scope.readRoots),
     ("write_roots", (list string).encode scope.writeRoots)]
  decode json := do
    let readRoots ← (list string).field "read_roots" json
    let writeRoots ← (list string).field "write_roots" json
    some { readRoots := readRoots, writeRoots := writeRoots }
  decode_encode scope := by simp [field]
  encode_ne_null := by rintro _ ⟨⟩

def environmentScope : Codec EnvironmentCapabilityScope where
  encode scope := .obj [("allow_variables", (list string).encode scope.allowVariables)]
  decode json := do
    let allowVariables ← (list string).field "allow_variables" json
    some { allowVariables := allowVariables }
  decode_encode scope := by simp [field]
  encode_ne_null := by rintro _ ⟨⟩

def executionBudget : Codec ExecutionCapabilityBudget where
  encode budget := .obj
    [("timeout_ms", nat.encode budget.timeoutMs),
     ("max_stdout_bytes", nat.encode budget.maxStdoutBytes),
     ("max_stderr_bytes", nat.encode budget.maxStderrBytes)]
  decode json := do
    let timeoutMs ← nat.field "timeout_ms" json
    let maxStdoutBytes ← nat.field "max_stdout_bytes" json
    let maxStderrBytes ← nat.field "max_stderr_bytes" json
    some
      { timeoutMs := timeoutMs, maxStdoutBytes := maxStdoutBytes, maxStderrBytes := maxStderrBytes }
  decode_encode budget := by simp [field]
  encode_ne_null := by rintro _ ⟨⟩

def capabilityScope : Codec CapabilityScope where
  encode scope := .obj
    [("filesystem", filesystemScope.encode scope.filesystem),
     ("network", networkPosture.encode scope.network),
     ("environment", environmentScope.encode scope.environment),
     ("execution", executionBudget.encode scope.execution)]
  decode json := do
    let filesystem ← filesystemScope.field "filesystem" json
    let network ← networkPosture.field "network" json
    let environment ← environmentScope.field "environment" json
    let execution ← executionBudget.field "execution" json
    some
      { filesystem := filesystem
        network := network
        environment := environment
        execution := execution }
  decode_encode scope := by simp [field]
  encode_ne_null := by rintro _ ⟨⟩

/-! ## Payloads

Each action is an object with its fields; some of them have defaults. -/

/-- `DEFAULT_GOVERNED_ACTION_LIST_LIMIT`. -/
def defaultGovernedActionListLimit : Nat := 10

def inspectWorkspaceArtifact : Codec InspectWorkspaceArtifactAction where
  encode action := .obj
    [("artifact_id", uuid.encode action.artifactId),
     ("artifact_kind", artifactKind.encode action.artifactKind)]
  decode json := do
    let artifactId ← uuid.field "artifact_id" json
    let kind ← artifactKind.field "artifact_kind" json
    some { artifactId := artifactId, artifactKind := kind }
  decode_encode action := by simp [field]
  encode_ne_null := by rintro _ ⟨⟩

def listWorkspaceArtifacts : Codec ListWorkspaceArtifactsAction where
  encode action := .obj
    [("artifact_kind", .ofOption artifactKind.encode action.artifactKind),
     ("status", statusFilter.encode action.status),
     ("query", .ofOption string.encode action.query),
     ("limit", nat.encode action.limit)]
  decode json := do
    let kind ← artifactKind.optionalField "artifact_kind" json
    let status ← statusFilter.fieldOr "status" .active json
    let query ← string.optionalField "query" json
    let limit ← nat.fieldOr "limit" defaultGovernedActionListLimit json
    some { artifactKind := kind, status := status, query := query, limit := limit }
  decode_encode action := by simp [fieldOr, optionalField]
  encode_ne_null := by rintro _ ⟨⟩

def createWorkspaceArtifact : Codec CreateWorkspaceArtifactAction where
  encode action := .obj
    [("artifact_kind", artifactKind.encode action.artifactKind),
     ("title", string.encode action.title),
     ("content_text", string.encode action.contentText),
     ("provenance", .ofOption string.encode action.provenance)]
  decode json := do
    let kind ← artifactKind.field "artifact_kind" json
    let title ← string.field "title" json
    let contentText ← string.field "content_text" json
    let provenance ← string.optionalField "provenance" json
    some
      { artifactKind := kind, title := title, contentText := contentText, provenance := provenance }
  decode_encode action := by simp [field, optionalField]
  encode_ne_null := by rintro _ ⟨⟩

def updateWorkspaceArtifact : Codec UpdateWorkspaceArtifactAction where
  encode action := .obj
    [("artifact_id", uuid.encode action.artifactId),
     ("expected_updated_at", .ofOption time.encode action.expectedUpdatedAt),
     ("title", .ofOption string.encode action.title),
     ("content_text", string.encode action.contentText),
     ("change_summary", string.encode action.changeSummary)]
  decode json := do
    let artifactId ← uuid.field "artifact_id" json
    let expectedUpdatedAt ← time.optionalField "expected_updated_at" json
    let title ← string.optionalField "title" json
    let contentText ← string.field "content_text" json
    let changeSummary ← string.field "change_summary" json
    some
      { artifactId := artifactId
        expectedUpdatedAt := expectedUpdatedAt
        title := title
        contentText := contentText
        changeSummary := changeSummary }
  decode_encode action := by simp [field, optionalField]
  encode_ne_null := by rintro _ ⟨⟩

def listWorkspaceScripts : Codec ListWorkspaceScriptsAction where
  encode action := .obj
    [("status", statusFilter.encode action.status),
     ("language", .ofOption string.encode action.language),
     ("query", .ofOption string.encode action.query),
     ("limit", nat.encode action.limit)]
  decode json := do
    let status ← statusFilter.fieldOr "status" .active json
    let language ← string.optionalField "language" json
    let query ← string.optionalField "query" json
    let limit ← nat.fieldOr "limit" defaultGovernedActionListLimit json
    some { status := status, language := language, query := query, limit := limit }
  decode_encode action := by simp [fieldOr, optionalField]
  encode_ne_null := by rintro _ ⟨⟩

def inspectWorkspaceScript : Codec InspectWorkspaceScriptAction where
  encode action := .obj
    [("script_id", uuid.encode action.scriptId),
     ("script_version_id", .ofOption uuid.encode action.scriptVersionId)]
  decode json := do
    let scriptId ← uuid.field "script_id" json
    let scriptVersionId ← uuid.optionalField "script_version_id" json
    some { scriptId := scriptId, scriptVersionId := scriptVersionId }
  decode_encode action := by simp [field, optionalField]
  encode_ne_null := by rintro _ ⟨⟩

def createWorkspaceScript : Codec CreateWorkspaceScriptAction where
  encode action := .obj
    [("title", string.encode action.title),
     ("language", string.encode action.language),
     ("content_text", string.encode action.contentText),
     ("description", .ofOption string.encode action.description),
     ("requested_capabilities", (list string).encode action.requestedCapabilities)]
  decode json := do
    let title ← string.field "title" json
    let language ← string.field "language" json
    let contentText ← string.field "content_text" json
    let description ← string.optionalField "description" json
    let requestedCapabilities ← (list string).field "requested_capabilities" json
    some
      { title := title
        language := language
        contentText := contentText
        description := description
        requestedCapabilities := requestedCapabilities }
  decode_encode action := by simp [field, optionalField]
  encode_ne_null := by rintro _ ⟨⟩

def appendWorkspaceScriptVersion : Codec AppendWorkspaceScriptVersionAction where
  encode action := .obj
    [("script_id", uuid.encode action.scriptId),
     ("expected_latest_version_id", .ofOption uuid.encode action.expectedLatestVersionId),
     ("expected_content_sha256", .ofOption string.encode action.expectedContentSha256),
     ("language", string.encode action.language),
     ("content_text", string.encode action.contentText),
     ("change_summary", string.encode action.changeSummary)]
  decode json := do
    let scriptId ← uuid.field "script_id" json
    let expectedLatestVersionId ← uuid.optionalField "expected_latest_version_id" json
    let expectedContentSha256 ← string.optionalField "expected_content_sha256" json
    let language ← string.field "language" json
    let contentText ← string.field "content_text" json
    let changeSummary ← string.field "change_summary" json
    some
      { scriptId := scriptId
        expectedLatestVersionId := expectedLatestVersionId
        expectedContentSha256 := expectedContentSha256
        language := language
        contentText := contentText
        changeSummary := changeSummary }
  decode_encode action := by simp [field, optionalField]
  encode_ne_null := by rintro _ ⟨⟩

def listWorkspaceScriptRuns : Codec ListWorkspaceScriptRunsAction where
  encode action := .obj
    [("script_id", uuid.encode action.scriptId),
     ("status", .ofOption runStatus.encode action.status),
     ("limit", nat.encode action.limit)]
  decode json := do
    let scriptId ← uuid.field "script_id" json
    let status ← runStatus.optionalField "status" json
    let limit ← nat.fieldOr "limit" defaultGovernedActionListLimit json
    some { scriptId := scriptId, status := status, limit := limit }
  decode_encode action := by simp [field, fieldOr, optionalField]
  encode_ne_null := by rintro _ ⟨⟩

def upsertScheduledForegroundTask : Codec UpsertScheduledForegroundTaskAction where
  encode action := .obj
    [("task_key", string.encode action.taskKey),
     ("title", string.encode action.title),
     ("user_facing_prompt", string.encode action.userFacingPrompt),
     ("next_due_at_utc", .ofOption time.encode action.nextDueAtUtc),
     ("cadence_seconds", nat.encode action.cadenceSeconds),
     ("cooldown_seconds", .ofOption nat.encode action.cooldownSeconds),
     ("internal_principal_ref", string.encode action.internalPrincipalRef),
     ("internal_conversation_ref", string.encode action.internalConversationRef),
     ("active", bool.encode action.active)]
  decode json := do
    let taskKey ← string.field "task_key" json
    let title ← string.field "title" json
    let userFacingPrompt ← string.field "user_facing_prompt" json
    let nextDueAtUtc ← time.optionalField "next_due_at_utc" json
    let cadenceSeconds ← nat.field "cadence_seconds" json
    let cooldownSeconds ← nat.optionalField "cooldown_seconds" json
    let internalPrincipalRef ← string.field "internal_principal_ref" json
    let internalConversationRef ← string.field "internal_conversation_ref" json
    let active ← bool.field "active" json
    some
      { taskKey := taskKey
        title := title
        userFacingPrompt := userFacingPrompt
        nextDueAtUtc := nextDueAtUtc
        cadenceSeconds := cadenceSeconds
        cooldownSeconds := cooldownSeconds
        internalPrincipalRef := internalPrincipalRef
        internalConversationRef := internalConversationRef
        active := active }
  decode_encode action := by simp [field, optionalField]
  encode_ne_null := by rintro _ ⟨⟩

def requestBackgroundJob : Codec RequestBackgroundJobAction where
  encode action := .obj
    [("job_kind", jobKind.encode action.jobKind),
     ("rationale", string.encode action.rationale),
     ("input_scope_ref", .ofOption string.encode action.inputScopeRef),
     ("urgency", .ofOption string.encode action.urgency),
     ("wake_preference", .ofOption string.encode action.wakePreference),
     ("internal_conversation_ref", .ofOption string.encode action.internalConversationRef)]
  decode json := do
    let kind ← jobKind.field "job_kind" json
    let rationale ← string.field "rationale" json
    let inputScopeRef ← string.optionalField "input_scope_ref" json
    let urgency ← string.optionalField "urgency" json
    let wakePreference ← string.optionalField "wake_preference" json
    let internalConversationRef ← string.optionalField "internal_conversation_ref" json
    some
      { jobKind := kind
        rationale := rationale
        inputScopeRef := inputScopeRef
        urgency := urgency
        wakePreference := wakePreference
        internalConversationRef := internalConversationRef }
  decode_encode action := by simp [field, optionalField]
  encode_ne_null := by rintro _ ⟨⟩

def subprocess : Codec SubprocessAction where
  encode action := .obj
    [("command", string.encode action.command),
     ("args", (list string).encode action.args),
     ("working_directory", .ofOption string.encode action.workingDirectory)]
  decode json := do
    let command ← string.field "command" json
    let args ← (list string).field "args" json
    let workingDirectory ← string.optionalField "working_directory" json
    some { command := command, args := args, workingDirectory := workingDirectory }
  decode_encode action := by simp [field, optionalField]
  encode_ne_null := by rintro _ ⟨⟩

def workspaceScript : Codec WorkspaceScriptAction where
  encode action := .obj
    [("script_id", uuid.encode action.scriptId),
     ("script_version_id", .ofOption uuid.encode action.scriptVersionId),
     ("args", (list string).encode action.args)]
  decode json := do
    let scriptId ← uuid.field "script_id" json
    let scriptVersionId ← uuid.optionalField "script_version_id" json
    let args ← (list string).field "args" json
    some { scriptId := scriptId, scriptVersionId := scriptVersionId, args := args }
  decode_encode action := by simp [field, optionalField]
  encode_ne_null := by rintro _ ⟨⟩

def webFetch : Codec WebFetchAction where
  encode action := .obj
    [("url", string.encode action.url),
     ("timeout_ms", nat.encode action.timeoutMs),
     ("max_response_bytes", nat.encode action.maxResponseBytes)]
  decode json := do
    let url ← string.field "url" json
    let timeoutMs ← nat.field "timeout_ms" json
    let maxResponseBytes ← nat.field "max_response_bytes" json
    some { url := url, timeoutMs := timeoutMs, maxResponseBytes := maxResponseBytes }
  decode_encode action := by simp [field]
  encode_ne_null := by rintro _ ⟨⟩

/-! ### Diagnostic queries -/

/-- The name of a query. -/
def diagnosticName : DiagnosticQuery → String
  | .runtimeStatus => "runtime_status"
  | .healthSummary => "health_summary"
  | .operationalDiagnostics _ => "operational_diagnostics"
  | .traceRecent _ => "trace_recent"
  | .traceShow _ _ => "trace_show"
  | .foregroundPending _ => "foreground_pending"
  | .foregroundSchedules _ => "foreground_schedules"
  | .backgroundList _ => "background_list"
  | .recoveryCheckpoints _ _ => "recovery_checkpoints"
  | .recoveryLeases _ _ => "recovery_leases"
  | .schemaStatus => "schema_status"
  | .schemaUpgradePath => "schema_upgrade_path"
  | .approvalsList _ => "approvals_list"
  | .actionsList _ => "actions_list"
  | .wakeSignalsList _ => "wake_signals_list"
  | .identityStatus => "identity_status"
  | .identityShow => "identity_show"
  | .identityHistory _ => "identity_history"
  | .identityDiagnostics _ => "identity_diagnostics"
  | .workspaceArtifacts _ => "workspace_artifacts"
  | .workspaceScripts _ => "workspace_scripts"
  | .workspaceRuns _ _ => "workspace_runs"
  | .internalDoc _ => "internal_doc"

/-- The parameters of a query; the ones without parameters have no such field. -/
def diagnosticParams : DiagnosticQuery → List (String × Json)
  | .runtimeStatus | .healthSummary | .schemaStatus | .schemaUpgradePath | .identityStatus
  | .identityShow => []
  | .operationalDiagnostics limit | .traceRecent limit | .foregroundPending limit
  | .foregroundSchedules limit | .backgroundList limit | .approvalsList limit
  | .actionsList limit | .wakeSignalsList limit | .identityHistory limit
  | .identityDiagnostics limit | .workspaceArtifacts limit | .workspaceScripts limit =>
    [("params", .obj [("limit", nat.encode limit)])]
  | .traceShow traceId executionId =>
    [("params", .obj
      [("trace_id", .ofOption uuid.encode traceId),
       ("execution_id", .ofOption uuid.encode executionId)])]
  | .recoveryCheckpoints openOnly limit =>
    [("params", .obj [("open_only", bool.encode openOnly), ("limit", nat.encode limit)])]
  | .recoveryLeases limit softWarningThresholdPercent =>
    [("params", .obj
      [("limit", nat.encode limit),
       ("soft_warning_threshold_percent", nat.encode softWarningThresholdPercent)])]
  | .workspaceRuns scriptId limit =>
    [("params", .obj
      [("script_id", .ofOption uuid.encode scriptId), ("limit", nat.encode limit)])]
  | .internalDoc document =>
    [("params", .obj [("document", diagnosticDocument.encode document)])]

/-- The `limit` of the parameters. -/
def limitOf (json : Json) : Option Nat :=
  (json.get "params").bind (nat.fieldOr "limit" defaultGovernedActionListLimit)

def diagnosticQuery : Codec DiagnosticQuery where
  encode query := .obj (("query", string.encode (diagnosticName query)) :: diagnosticParams query)
  decode json := do
    match ← string.field "query" json with
    | "runtime_status" => some .runtimeStatus
    | "health_summary" => some .healthSummary
    | "operational_diagnostics" => (limitOf json).map .operationalDiagnostics
    | "trace_recent" => (limitOf json).map .traceRecent
    | "trace_show" => do
      let params ← json.get "params"
      let traceId ← uuid.optionalField "trace_id" params
      let executionId ← uuid.optionalField "execution_id" params
      some (.traceShow traceId executionId)
    | "foreground_pending" => (limitOf json).map .foregroundPending
    | "foreground_schedules" => (limitOf json).map .foregroundSchedules
    | "background_list" => (limitOf json).map .backgroundList
    | "recovery_checkpoints" => do
      let openOnly ← (json.get "params").bind (bool.fieldOr "open_only" false)
      let limit ← limitOf json
      some (.recoveryCheckpoints openOnly limit)
    | "recovery_leases" => do
      let limit ← limitOf json
      let percent ← (json.get "params").bind (nat.fieldOr "soft_warning_threshold_percent" 80)
      some (.recoveryLeases limit percent)
    | "schema_status" => some .schemaStatus
    | "schema_upgrade_path" => some .schemaUpgradePath
    | "approvals_list" => (limitOf json).map .approvalsList
    | "actions_list" => (limitOf json).map .actionsList
    | "wake_signals_list" => (limitOf json).map .wakeSignalsList
    | "identity_status" => some .identityStatus
    | "identity_show" => some .identityShow
    | "identity_history" => (limitOf json).map .identityHistory
    | "identity_diagnostics" => (limitOf json).map .identityDiagnostics
    | "workspace_artifacts" => (limitOf json).map .workspaceArtifacts
    | "workspace_scripts" => (limitOf json).map .workspaceScripts
    | "workspace_runs" => do
      let params ← json.get "params"
      let scriptId ← uuid.optionalField "script_id" params
      let limit ← limitOf json
      some (.workspaceRuns scriptId limit)
    | "internal_doc" => do
      let document ← (json.get "params").bind (diagnosticDocument.field "document")
      some (.internalDoc document)
    | _ => none
  decode_encode query := by
    cases query <;>
      simp [field, fieldOr, optionalField, limitOf, diagnosticName, diagnosticParams]
  encode_ne_null := by rintro _ ⟨⟩

def runDiagnostic : Codec RunDiagnosticAction where
  encode action := .obj [("query", diagnosticQuery.encode action.query)]
  decode json := do
    let query ← diagnosticQuery.field "query" json
    some { query := query }
  decode_encode action := by simp [field]
  encode_ne_null := by rintro _ ⟨⟩

/-! ### All payloads -/

/-- A payload under its kind. -/
def tagged (kind : GovernedActionKind) (value : Json) : Json :=
  .obj [("kind", string.encode kind.asStr), ("value", value)]

def encodePayload : GovernedActionPayload → Json
  | .inspectWorkspaceArtifact action =>
    tagged .inspectWorkspaceArtifact (inspectWorkspaceArtifact.encode action)
  | .listWorkspaceArtifacts action =>
    tagged .listWorkspaceArtifacts (listWorkspaceArtifacts.encode action)
  | .createWorkspaceArtifact action =>
    tagged .createWorkspaceArtifact (createWorkspaceArtifact.encode action)
  | .updateWorkspaceArtifact action =>
    tagged .updateWorkspaceArtifact (updateWorkspaceArtifact.encode action)
  | .listWorkspaceScripts action =>
    tagged .listWorkspaceScripts (listWorkspaceScripts.encode action)
  | .inspectWorkspaceScript action =>
    tagged .inspectWorkspaceScript (inspectWorkspaceScript.encode action)
  | .createWorkspaceScript action =>
    tagged .createWorkspaceScript (createWorkspaceScript.encode action)
  | .appendWorkspaceScriptVersion action =>
    tagged .appendWorkspaceScriptVersion (appendWorkspaceScriptVersion.encode action)
  | .listWorkspaceScriptRuns action =>
    tagged .listWorkspaceScriptRuns (listWorkspaceScriptRuns.encode action)
  | .upsertScheduledForegroundTask action =>
    tagged .upsertScheduledForegroundTask (upsertScheduledForegroundTask.encode action)
  | .requestBackgroundJob action =>
    tagged .requestBackgroundJob (requestBackgroundJob.encode action)
  | .runDiagnostic action => tagged .runDiagnostic (runDiagnostic.encode action)
  | .runSubprocess action => tagged .runSubprocess (subprocess.encode action)
  | .runWorkspaceScript action => tagged .runWorkspaceScript (workspaceScript.encode action)
  | .webFetch action => tagged .webFetch (webFetch.encode action)

def payload : Codec GovernedActionPayload where
  encode := encodePayload
  decode json := do
    let kind ← string.field "kind" json
    match kind with
    | "inspect_workspace_artifact" =>
      (inspectWorkspaceArtifact.field "value" json).map .inspectWorkspaceArtifact
    | "list_workspace_artifacts" =>
      (listWorkspaceArtifacts.field "value" json).map .listWorkspaceArtifacts
    | "create_workspace_artifact" =>
      (createWorkspaceArtifact.field "value" json).map .createWorkspaceArtifact
    | "update_workspace_artifact" =>
      (updateWorkspaceArtifact.field "value" json).map .updateWorkspaceArtifact
    | "list_workspace_scripts" =>
      (listWorkspaceScripts.field "value" json).map .listWorkspaceScripts
    | "inspect_workspace_script" =>
      (inspectWorkspaceScript.field "value" json).map .inspectWorkspaceScript
    | "create_workspace_script" =>
      (createWorkspaceScript.field "value" json).map .createWorkspaceScript
    | "append_workspace_script_version" =>
      (appendWorkspaceScriptVersion.field "value" json).map .appendWorkspaceScriptVersion
    | "list_workspace_script_runs" =>
      (listWorkspaceScriptRuns.field "value" json).map .listWorkspaceScriptRuns
    | "upsert_scheduled_foreground_task" =>
      (upsertScheduledForegroundTask.field "value" json).map .upsertScheduledForegroundTask
    | "request_background_job" =>
      (requestBackgroundJob.field "value" json).map .requestBackgroundJob
    | "run_diagnostic" => (runDiagnostic.field "value" json).map .runDiagnostic
    | "run_subprocess" => (subprocess.field "value" json).map .runSubprocess
    | "run_workspace_script" => (workspaceScript.field "value" json).map .runWorkspaceScript
    | "web_fetch" => (webFetch.field "value" json).map .webFetch
    | _ => none
  decode_encode payload := by
    cases payload <;> simp [encodePayload, tagged, field, GovernedActionKind.asStr]
  encode_ne_null payload := by
    cases payload <;> rintro ⟨⟩

end RowEncoding

/-! ## Rows -/

/-- A row of `governed_action_executions`: the columns that hold encoded values, beside the
others. -/
structure GovernedActionExecutionRow where
  actionFingerprint : String
  actionKind : String
  riskTier : String
  status : String
  capabilityScopeJson : Json
  payloadJson : Json
  /-- The record, of which only the columns without an encoding count. -/
  plain : GovernedActionExecutionRecord

namespace GovernedActions

/-- `parse_governed_action_kind`. -/
def parseGovernedActionKind (value : String) : Except ErrorChain GovernedActionKind :=
  match value with
  | "inspect_workspace_artifact" => .ok .inspectWorkspaceArtifact
  | "list_workspace_artifacts" => .ok .listWorkspaceArtifacts
  | "create_workspace_artifact" => .ok .createWorkspaceArtifact
  | "update_workspace_artifact" => .ok .updateWorkspaceArtifact
  | "list_workspace_scripts" => .ok .listWorkspaceScripts
  | "inspect_workspace_script" => .ok .inspectWorkspaceScript
  | "create_workspace_script" => .ok .createWorkspaceScript
  | "append_workspace_script_version" => .ok .appendWorkspaceScriptVersion
  | "list_workspace_script_runs" => .ok .listWorkspaceScriptRuns
  | "upsert_scheduled_foreground_task" => .ok .upsertScheduledForegroundTask
  | "request_background_job" => .ok .requestBackgroundJob
  | "run_diagnostic" => .ok .runDiagnostic
  | "run_subprocess" => .ok .runSubprocess
  | "run_workspace_script" => .ok .runWorkspaceScript
  | "web_fetch" => .ok .webFetch
  | other => .error [s!"unrecognized governed action kind '{other}'"]

/-- `parse_governed_action_risk_tier`. -/
def parseGovernedActionRiskTier (value : String) : Except ErrorChain GovernedActionRiskTier :=
  match value with
  | "tier_0" => .ok .tier0
  | "tier_1" => .ok .tier1
  | "tier_2" => .ok .tier2
  | "tier_3" => .ok .tier3
  | other => .error [s!"unrecognized governed action risk tier '{other}'"]

/-- `parse_governed_action_status`. -/
def parseGovernedActionStatus (value : String) : Except ErrorChain GovernedActionStatus :=
  match value with
  | "proposed" => .ok .proposed
  | "awaiting_approval" => .ok .awaitingApproval
  | "approved" => .ok .approved
  | "rejected" => .ok .rejected
  | "expired" => .ok .expired
  | "invalidated" => .ok .invalidated
  | "blocked" => .ok .blocked
  | "executed" => .ok .executed
  | "failed" => .ok .failed
  | other => .error [s!"unrecognized governed action status '{other}'"]

theorem parseGovernedActionKind_asStr (kind : GovernedActionKind) :
    parseGovernedActionKind kind.asStr = .ok kind := by
  cases kind <;> rfl

theorem parseGovernedActionRiskTier_asStr (tier : GovernedActionRiskTier) :
    parseGovernedActionRiskTier tier.asStr = .ok tier := by
  cases tier <;> rfl

theorem parseGovernedActionStatus_asStr (status : GovernedActionStatus) :
    parseGovernedActionStatus status.asStr = .ok status := by
  cases status <;> rfl

/-- What `persist_governed_action_execution` binds for a record. -/
def encodeRow (record : GovernedActionExecutionRecord) : GovernedActionExecutionRow where
  actionFingerprint := record.actionFingerprint.value
  actionKind := record.actionKind.asStr
  riskTier := record.riskTier.asStr
  status := record.status.asStr
  capabilityScopeJson := RowEncoding.capabilityScope.encode record.capabilityScope
  payloadJson := RowEncoding.payload.encode record.payload
  plain := record

/-- `serde_json::from_value(..).context(message)`. -/
def decodeColumn {α : Type} (c : Codec α) (message : String) (json : Json) : Except ErrorChain α :=
  match c.decode json with
  | some a => .ok a
  | none => .error [message]

/-- `decode_governed_action_execution_row`. -/
def decodeGovernedActionExecutionRow (row : GovernedActionExecutionRow) :
    Except ErrorChain GovernedActionExecutionRecord := do
  let actionKind ← parseGovernedActionKind row.actionKind
  let riskTier ← parseGovernedActionRiskTier row.riskTier
  let status ← parseGovernedActionStatus row.status
  let capabilityScope ← decodeColumn RowEncoding.capabilityScope
    "failed to decode governed action capability scope" row.capabilityScopeJson
  let payload ← decodeColumn RowEncoding.payload "failed to decode governed action payload"
    row.payloadJson
  .ok
    { row.plain with
        actionFingerprint := { value := row.actionFingerprint }
        actionKind := actionKind
        riskTier := riskTier
        status := status
        capabilityScope := capabilityScope
        payload := payload }

theorem decodeColumn_encode {α : Type} (c : Codec α) (message : String) (a : α) :
    decodeColumn c message (c.encode a) = .ok a := by
  unfold decodeColumn
  rw [c.decode_encode]

/-- A record is read back from its row as it was written. -/
theorem decodeRow_encodeRow (record : GovernedActionExecutionRecord) :
    decodeGovernedActionExecutionRow (encodeRow record) = .ok record := by
  unfold decodeGovernedActionExecutionRow encodeRow
  dsimp only
  rw [parseGovernedActionKind_asStr, parseGovernedActionRiskTier_asStr,
    parseGovernedActionStatus_asStr, decodeColumn_encode, decodeColumn_encode]
  rfl

end GovernedActions

end BlueLagoon
