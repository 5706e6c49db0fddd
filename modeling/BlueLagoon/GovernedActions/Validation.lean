import BlueLagoon.GovernedActions.Fingerprint

/-!
# Checks on proposals

The shape of a proposal is checked before anything is recorded; its scope is checked
when it is planned and again when it is executed.
-/

namespace BlueLagoon.GovernedActions

/-- `GOVERNED_ACTION_LIST_LIMIT_MAX`. -/
def governedActionListLimitMax : Nat := 25

/-- `if condition { bail!(message) }`. -/
def ensureNot (condition : Bool) (message : String) : Except ErrorChain Unit :=
  if condition then .error [message] else .ok ()

/-- A check that is followed by more goes through when it does not apply. -/
theorem ensureNot_bind_eq_ok {α : Type} {condition : Bool} {message : String}
    {next : Unit → Except ErrorChain α} {a : α} :
    (ensureNot condition message >>= next) = .ok a ↔ condition = false ∧ next () = .ok a := by
  cases condition with
  | true => exact iff_of_false (by rintro ⟨⟩) (by simp)
  | false => exact ⟨fun h => ⟨rfl, h⟩, fun h => h.2⟩

/-! ## Payloads -/

/-- `validate_limit`. -/
def validateLimit (limit : Nat) (label : String) : Except ErrorChain Unit := do
  ensureNot (limit = 0) s!"{label} limit must be greater than zero"
  ensureNot (limit > governedActionListLimitMax)
    s!"{label} limit exceeds maximum of {governedActionListLimitMax}"

/-- `validate_workspace_inspection_action`. -/
def validateWorkspaceInspectionAction (action : InspectWorkspaceArtifactAction) :
    Except ErrorChain Unit := do
  ensureNot (isNil action.artifactId) "workspace artifact inspection artifact_id must not be nil"
  ensureNot (action.artifactKind = .script)
    "workspace inspection proposals must use inspect_workspace_script for scripts"

/-- `validate_list_workspace_artifacts_action`. -/
def validateListWorkspaceArtifactsAction (action : ListWorkspaceArtifactsAction) :
    Except ErrorChain Unit := do
  validateLimit action.limit "workspace artifact listing"
  ensureNot (action.artifactKind = some .script)
    "workspace artifact listing must use list_workspace_scripts for scripts"

/-- `validate_create_workspace_artifact_action`. -/
def validateCreateWorkspaceArtifactAction (action : CreateWorkspaceArtifactAction) :
    Except ErrorChain Unit := do
  ensureNot (action.artifactKind = .script) "script artifacts must use create_workspace_script"
  ensureNot (Text.isBlank action.title) "workspace artifact creation title must not be empty"

/-- `validate_update_workspace_artifact_action`. -/
def validateUpdateWorkspaceArtifactAction (action : UpdateWorkspaceArtifactAction) :
    Except ErrorChain Unit := do
  ensureNot (isNil action.artifactId) "workspace artifact update artifact_id must not be nil"
  ensureNot (action.title.any Text.isBlank) "workspace artifact update title must not be empty"
  ensureNot (Text.isBlank action.changeSummary)
    "workspace artifact update change_summary must not be empty"

/-- `validate_list_workspace_scripts_action`. -/
def validateListWorkspaceScriptsAction (action : ListWorkspaceScriptsAction) :
    Except ErrorChain Unit :=
  validateLimit action.limit "workspace script listing"

/-- `validate_inspect_workspace_script_action`. -/
def validateInspectWorkspaceScriptAction (action : InspectWorkspaceScriptAction) :
    Except ErrorChain Unit :=
  ensureNot (isNil action.scriptId) "workspace script inspection script_id must not be nil"

/-- `validate_workspace_script_language`. -/
def validateWorkspaceScriptLanguage (language : String) : Except ErrorChain Unit :=
  let normalized := Text.toAsciiLowercase (Text.trim language)
  ensureNot (!(["powershell", "pwsh", "sh", "bash", "python"].contains normalized))
    s!"workspace script language '{normalized}' is not supported"

/-- `validate_create_workspace_script_action`. -/
def validateCreateWorkspaceScriptAction (action : CreateWorkspaceScriptAction) :
    Except ErrorChain Unit := do
  ensureNot (Text.isBlank action.title) "workspace script creation title must not be empty"
  validateWorkspaceScriptLanguage action.language
  ensureNot (Text.isBlank action.contentText)
    "workspace script creation content_text must not be empty"

/-- `validate_append_workspace_script_version_action`. -/
def validateAppendWorkspaceScriptVersionAction (action : AppendWorkspaceScriptVersionAction) :
    Except ErrorChain Unit := do
  ensureNot (isNil action.scriptId) "workspace script version script_id must not be nil"
  validateWorkspaceScriptLanguage action.language
  ensureNot (Text.isBlank action.contentText)
    "workspace script version content_text must not be empty"
  ensureNot (Text.isBlank action.changeSummary)
    "workspace script version change_summary must not be empty"

/-- `validate_list_workspace_script_runs_action`. -/
def validateListWorkspaceScriptRunsAction (action : ListWorkspaceScriptRunsAction) :
    Except ErrorChain Unit := do
  ensureNot (isNil action.scriptId) "workspace script run listing script_id must not be nil"
  validateLimit action.limit "workspace script run listing"

/-- `is_one_shot_scheduled_task_key`. -/
def isOneShotScheduledTaskKey (taskKey : String) : Bool :=
  let normalized := Text.toAsciiLowercase (Text.trim taskKey)
  Text.startsWith normalized "oneoff_" || Text.startsWith normalized "one_shot_"

/-- `validate_upsert_scheduled_foreground_task_action`. -/
def validateUpsertScheduledForegroundTaskAction (action : UpsertScheduledForegroundTaskAction) :
    Except ErrorChain Unit := do
  ensureNot (Text.isBlank action.taskKey) "scheduled foreground task_key must not be empty"
  ensureNot (Text.isBlank action.title) "scheduled foreground task title must not be empty"
  ensureNot (Text.isBlank action.userFacingPrompt)
    "scheduled foreground prompt must not be empty"
  ensureNot (action.cadenceSeconds = 0 && !isOneShotScheduledTaskKey action.taskKey)
    "scheduled foreground cadence_seconds must be greater than zero unless task_key uses one-shot prefix"
  ensureNot (Text.isBlank action.internalPrincipalRef || Text.isBlank action.internalConversationRef)
    "scheduled foreground conversation binding fields must not be empty"

/-- `validate_request_background_job_action`. -/
def validateRequestBackgroundJobAction (action : RequestBackgroundJobAction) :
    Except ErrorChain Unit :=
  ensureNot (Text.isBlank action.rationale) "background job request rationale must not be empty"

/-- The limit of a diagnostic query that has one. -/
def diagnosticLimit : DiagnosticQuery → Option Nat
  | .operationalDiagnostics limit | .traceRecent limit | .foregroundPending limit
  | .foregroundSchedules limit | .backgroundList limit | .recoveryCheckpoints _ limit
  | .recoveryLeases limit _ | .approvalsList limit | .actionsList limit
  | .wakeSignalsList limit | .identityHistory limit | .identityDiagnostics limit
  | .workspaceArtifacts limit | .workspaceScripts limit | .workspaceRuns _ limit => some limit
  | .runtimeStatus | .healthSummary | .traceShow _ _ | .schemaStatus | .schemaUpgradePath
  | .identityStatus | .identityShow | .internalDoc _ => none

/-- `validate_diagnostic_limit`. -/
def validateDiagnosticLimit (action : RunDiagnosticAction) : Except ErrorChain Unit :=
  match diagnosticLimit action.query with
  | some limit => validateLimit limit "diagnostic query"
  | none => .ok ()

/-- `validate_run_diagnostic_action`. -/
def validateRunDiagnosticAction (action : RunDiagnosticAction) : Except ErrorChain Unit := do
  match action.query with
  | .traceShow none none => .error ["diagnostic trace_show requires trace_id or execution_id"]
  | .recoveryLeases _ softWarningThresholdPercent =>
    ensureNot (softWarningThresholdPercent < 1 || softWarningThresholdPercent > 100)
      "diagnostic recovery_leases soft warning threshold must be 1-100"
  | _ => .ok ()
  validateDiagnosticLimit action

/-- `validate_subprocess_action`. -/
def validateSubprocessAction (action : SubprocessAction) : Except ErrorChain Unit :=
  ensureNot (Text.isBlank action.command) "subprocess proposals must declare a command"

/-- `validate_workspace_script_action`. -/
def validateWorkspaceScriptAction (action : WorkspaceScriptAction) : Except ErrorChain Unit :=
  ensureNot (action.args.any Text.isBlank) "workspace script arguments must not be empty"

/-- `validate_web_fetch_shape`. -/
def validateWebFetchShape (action : WebFetchAction) : Except ErrorChain Unit := do
  ensureNot (Text.isBlank action.url) "web fetch proposals must declare a URL"
  ensureNot (action.timeoutMs = 0) "web fetch timeout_ms must be greater than zero"
  ensureNot (action.maxResponseBytes = 0) "web fetch max_response_bytes must be greater than zero"

/-- `validate_proposal_shape`. -/
def validateProposalShape (proposal : GovernedActionProposal) : Except ErrorChain Unit := do
  ensureNot (Text.isBlank proposal.title) "governed action title must not be empty"
  match proposal.actionKind, proposal.payload with
  | .inspectWorkspaceArtifact, .inspectWorkspaceArtifact action =>
    validateWorkspaceInspectionAction action
  | .listWorkspaceArtifacts, .listWorkspaceArtifacts action =>
    validateListWorkspaceArtifactsAction action
  | .createWorkspaceArtifact, .createWorkspaceArtifact action =>
    validateCreateWorkspaceArtifactAction action
  | .updateWorkspaceArtifact, .updateWorkspaceArtifact action =>
    validateUpdateWorkspaceArtifactAction action
  | .listWorkspaceScripts, .listWorkspaceScripts action =>
    validateListWorkspaceScriptsAction action
  | .inspectWorkspaceScript, .inspectWorkspaceScript action =>
    validateInspectWorkspaceScriptAction action
  | .createWorkspaceScript, .createWorkspaceScript action =>
    validateCreateWorkspaceScriptAction action
  | .appendWorkspaceScriptVersion, .appendWorkspaceScriptVersion action =>
    validateAppendWorkspaceScriptVersionAction action
  | .listWorkspaceScriptRuns, .listWorkspaceScriptRuns action =>
    validateListWorkspaceScriptRunsAction action
  | .upsertScheduledForegroundTask, .upsertScheduledForegroundTask action =>
    validateUpsertScheduledForegroundTaskAction action
  | .requestBackgroundJob, .requestBackgroundJob action =>
    validateRequestBackgroundJobAction action
  | .runDiagnostic, .runDiagnostic action => validateRunDiagnosticAction action
  | .runSubprocess, .runSubprocess action => validateSubprocessAction action
  | .runWorkspaceScript, .runWorkspaceScript action => validateWorkspaceScriptAction action
  | .webFetch, .webFetch action => validateWebFetchShape action
  | _, _ => .error ["governed action kind does not match the proposal payload"]

/-! ## Scopes -/

/-- `validate_harness_native_scope`. -/
def validateHarnessNativeScope (scope : CapabilityScope) (label : String) :
    Except ErrorChain Unit := do
  ensureNot (!scope.filesystem.readRoots.isEmpty || !scope.filesystem.writeRoots.isEmpty)
    s!"{label} proposals must not request filesystem scope"
  ensureNot (!scope.environment.allowVariables.isEmpty)
    s!"{label} proposals must not request environment variable scope"
  ensureNot (scope.network ≠ .disabled) s!"{label} proposals must not request network access"

/-- Kinds the harness carries out on its own tables. -/
def isHarnessNative : GovernedActionKind → Bool
  | .inspectWorkspaceArtifact | .listWorkspaceArtifacts | .createWorkspaceArtifact
  | .updateWorkspaceArtifact | .listWorkspaceScripts | .inspectWorkspaceScript
  | .createWorkspaceScript | .appendWorkspaceScriptVersion | .listWorkspaceScriptRuns
  | .upsertScheduledForegroundTask | .requestBackgroundJob | .runDiagnostic => true
  | .runSubprocess | .runWorkspaceScript | .webFetch => false

/-- `normalized_filesystem_roots`. -/
def normalizedFilesystemRoots (scope : CapabilityScope) : List String :=
  Text.trimmedSet (scope.filesystem.readRoots ++ scope.filesystem.writeRoots)

/-- The limits on the execution of an action that runs outside the harness. -/
def validateExecutionBudget (config : RuntimeConfig) (budget : ExecutionCapabilityBudget) :
    Except ErrorChain Unit := do
  let limits := config.governedActions
  ensureNot (budget.timeoutMs = 0) "governed action timeout must be greater than zero"
  ensureNot (budget.timeoutMs > limits.maxSubprocessTimeoutMs)
    s!"governed action timeout {budget.timeoutMs} exceeds the configured maximum ({limits.maxSubprocessTimeoutMs})"
  ensureNot (budget.maxStdoutBytes = 0 || budget.maxStderrBytes = 0)
    "governed action captured output limits must be greater than zero"
  ensureNot (budget.maxStdoutBytes > limits.maxCapturedOutputBytes ||
      budget.maxStderrBytes > limits.maxCapturedOutputBytes)
    s!"governed action captured output exceeds the configured maximum ({limits.maxCapturedOutputBytes})"

/-- The environment variables of a scope, one after the other. -/
def validateEnvironmentVariables (allowlisted : List String) : List String →
    Except ErrorChain Unit
  | [] => .ok ()
  | name :: names => do
    ensureNot (Text.isBlank name)
      "governed action environment variable names must not be empty"
    ensureNot (!allowlisted.contains name)
      s!"governed action environment variable '{name}' is not allowlisted"
    validateEnvironmentVariables allowlisted names

variable [GovernedActionServices]

/-- `validate_web_fetch_action`. -/
def validateWebFetchAction (config : RuntimeConfig) (scope : CapabilityScope)
    (action : WebFetchAction) : Except ErrorChain Unit := do
  validateWebFetchShape action
  let scheme ←
    match GovernedActionServices.urlScheme action.url with
    | .ok scheme => .ok scheme
    | .error e => .error (s!"web fetch URL '{action.url}' is not a valid URL" :: e)
  ensureNot (scheme ≠ "http" && scheme ≠ "https")
    s!"web fetch URL must use http or https scheme, got '{scheme}'"
  ensureNot (action.timeoutMs > config.governedActions.maxWebFetchTimeoutMs)
    s!"web fetch timeout_ms {action.timeoutMs} exceeds the configured maximum ({config.governedActions.maxWebFetchTimeoutMs})"
  ensureNot (action.maxResponseBytes > config.governedActions.maxWebFetchResponseBytes)
    s!"web fetch max_response_bytes {action.maxResponseBytes} exceeds the configured maximum ({config.governedActions.maxWebFetchResponseBytes})"
  ensureNot (scope.network ≠ .enabled)
    "web fetch proposals must set capability_scope.network to \"enabled\""

/-- The checks of `validate_capability_scope` that depend on the payload. -/
def validatePayloadScope (config : RuntimeConfig) (proposal : GovernedActionProposal) :
    Except ErrorChain Unit :=
  let scope := proposal.capabilityScope
  match proposal.actionKind, proposal.payload with
  | .inspectWorkspaceArtifact, .inspectWorkspaceArtifact _ =>
    validateHarnessNativeScope scope "workspace inspection"
  | .listWorkspaceArtifacts, .listWorkspaceArtifacts _ =>
    validateHarnessNativeScope scope "workspace artifact listing"
  | .createWorkspaceArtifact, .createWorkspaceArtifact _ =>
    validateHarnessNativeScope scope "workspace artifact creation"
  | .updateWorkspaceArtifact, .updateWorkspaceArtifact _ =>
    validateHarnessNativeScope scope "workspace artifact update"
  | .listWorkspaceScripts, .listWorkspaceScripts _ =>
    validateHarnessNativeScope scope "workspace script listing"
  | .inspectWorkspaceScript, .inspectWorkspaceScript _ =>
    validateHarnessNativeScope scope "workspace script inspection"
  | .createWorkspaceScript, .createWorkspaceScript _ =>
    validateHarnessNativeScope scope "workspace script creation"
  | .appendWorkspaceScriptVersion, .appendWorkspaceScriptVersion _ =>
    validateHarnessNativeScope scope "workspace script version append"
  | .listWorkspaceScriptRuns, .listWorkspaceScriptRuns _ =>
    validateHarnessNativeScope scope "workspace script run listing"
  | .upsertScheduledForegroundTask, .upsertScheduledForegroundTask _ =>
    validateHarnessNativeScope scope "scheduled foreground task upsert"
  | .requestBackgroundJob, .requestBackgroundJob _ =>
    validateHarnessNativeScope scope "background job request"
  | .runDiagnostic, .runDiagnostic action => do
    validateHarnessNativeScope scope "diagnostic query"
    validateRunDiagnosticAction action
  | .runSubprocess, .runSubprocess action => validateSubprocessAction action
  | .runWorkspaceScript, .runWorkspaceScript action => validateWorkspaceScriptAction action
  | .webFetch, .webFetch action => validateWebFetchAction config scope action
  | _, _ => .error ["governed action kind does not match the proposal payload"]

/-- `validate_capability_scope`. -/
def validateCapabilityScope (config : RuntimeConfig) (proposal : GovernedActionProposal) :
    Except ErrorChain Unit := do
  let scope := proposal.capabilityScope
  let filesystemRoots := normalizedFilesystemRoots scope
  let limits := config.governedActions
  let isWebFetch := decide (proposal.actionKind = .webFetch)
  ensureNot (filesystemRoots.isEmpty && !isHarnessNative proposal.actionKind && !isWebFetch)
    "governed actions must request at least one filesystem root"
  ensureNot (filesystemRoots.length > limits.maxFilesystemRootsPerAction)
    s!"governed action requested {filesystemRoots.length} filesystem roots, exceeding the configured limit ({limits.maxFilesystemRootsPerAction})"
  ensureNot ((scope.filesystem.readRoots ++ scope.filesystem.writeRoots).any Text.isBlank)
    "governed action filesystem roots must not be empty"
  if isWebFetch || isHarnessNative proposal.actionKind then .ok ()
  else validateExecutionBudget config scope.execution
  ensureNot (scope.environment.allowVariables.length > limits.maxEnvironmentVariablesPerAction)
    s!"governed action requested {scope.environment.allowVariables.length} environment variables, exceeding the configured limit ({limits.maxEnvironmentVariablesPerAction})"
  validateEnvironmentVariables limits.allowlistedEnvironmentVariables
    scope.environment.allowVariables
  validatePayloadScope config proposal

end BlueLagoon.GovernedActions
