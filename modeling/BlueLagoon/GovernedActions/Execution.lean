import BlueLagoon.Identity.Snapshot
import BlueLagoon.GovernedActions.Validation
import BlueLagoon.Recovery.Supervision

/-!
# Planning and executing governed actions

A proposal is planned into a record. Executing the record checks the policy again,
opens an execution record and a worker lease, hands the payload to its executor, lets
the executor write the final status, and closes the lease.
-/

namespace BlueLagoon

open Interleaving Harness

structure PlannedGovernedAction where
  record : GovernedActionExecutionRecord
  requiresApproval : Bool

structure BlockedGovernedAction where
  record : GovernedActionExecutionRecord
  outcome : GovernedActionExecutionOutcome

inductive GovernedActionPlanningOutcome
  | planned (action : PlannedGovernedAction)
  | blocked (action : BlockedGovernedAction)

structure GovernedActionExecutionResult where
  record : GovernedActionExecutionRecord
  outcome : GovernedActionExecutionOutcome
  observation : GovernedActionObservation
  scriptRun : Option WorkspaceScriptRunRecord

namespace GovernedActions

section Policy

variable [GovernedActionServices]

/-- `validate_governed_action_policy`. -/
def validateGovernedActionPolicy (config : RuntimeConfig) (proposal : GovernedActionProposal) :
    Harness Unit := do
  Prog.ofExcept (validateCapabilityScope config proposal)
  let identity ← Identity.reconstructCompactIdentitySnapshot 32
  match Policy.evaluateGovernedActionIdentityBoundaries proposal identity.boundaries with
  | .allowed => pure ()
  | .denied reason => bail reason

/-! ## Planning -/

/-- The status a new record gets. -/
def plannedStatus (requiresApproval : Bool) : Except ErrorChain Unit → GovernedActionStatus
  | .error _ => .blocked
  | .ok _ => if requiresApproval then .awaitingApproval else .proposed

/-- The audit event of a planned action: its kind and its severity. -/
def planningEvent : GovernedActionStatus → String × String
  | .blocked => ("governed_action_blocked", "warn")
  | .awaitingApproval => ("governed_action_planned_for_approval", "info")
  | _ => ("governed_action_planned", "info")

/-- The link from the execution that planned an action, when there is one. -/
def linkPlanningExecution (request : GovernedActionPlanningRequest)
    (record : GovernedActionExecutionRecord) : Harness Unit :=
  match request.executionId with
  | none => pure ()
  | some executionId => do
    let _ ← CausalLinks.insert
      { traceId := request.traceId
        sourceKind := "execution_record"
        sourceId := executionId
        targetKind := "governed_action_execution"
        targetId := record.governedActionExecutionId
        edgeKind := "planned_action"
        payload := .obj
          [("action_kind", .str record.actionKind.asStr),
           ("risk_tier", .str record.riskTier.asStr),
           ("status", .str record.status.asStr)] }
    pure ()

/-- `plan_governed_action`. -/
def planGovernedAction (config : RuntimeConfig) (request : GovernedActionPlanningRequest) :
    Harness GovernedActionPlanningOutcome := do
  Prog.ofExcept (validateProposalShape request.proposal)
  let actionFingerprint := fingerprintGovernedAction request.proposal
  let riskTier := Policy.classifyGovernedActionRisk request.proposal
  let requiresApproval := Policy.governedActionRequiresApproval config riskTier
  let validation ← (validateGovernedActionPolicy config request.proposal).attempt
  let status := plannedStatus requiresApproval validation
  let blockedReason :=
    match validation with
    | .error e => some (errorText e)
    | .ok _ => none
  persistGovernedActionExecution request actionFingerprint riskTier status blockedReason
  let record ← getGovernedActionExecution request.governedActionExecutionId
  linkPlanningExecution request record
  let _ ← Audit.insert
    { loopKind := "conscious"
      subsystem := "governed_actions"
      eventKind := (planningEvent status).1
      severity := (planningEvent status).2
      traceId := request.traceId
      executionId := request.executionId
      payload := .obj
        [("governed_action_execution_id", .uuid record.governedActionExecutionId),
         ("action_proposal_id", .uuid record.actionProposalId),
         ("action_fingerprint", .str record.actionFingerprint.value),
         ("action_kind", .str record.actionKind.asStr),
         ("risk_tier", .str record.riskTier.asStr),
         ("status", .str record.status.asStr),
         ("approval_required", .bool requiresApproval),
         ("blocked_reason", .ofOption .str record.blockedReason)] }
  if status = .blocked then
    pure (.blocked
      { record := record
        outcome :=
          { status := status
            summary := blockedReason.getD "governed action was blocked"
            fingerprint := some record.actionFingerprint
            outputRef := none } })
  else
    pure (.planned { record := record, requiresApproval := requiresApproval })

end Policy

/-! ## Results -/

/-- `proposal_from_record`. -/
def proposalFromRecord (record : GovernedActionExecutionRecord) : GovernedActionProposal where
  proposalId := record.actionProposalId
  title := s!"{record.actionKind.asStr}:{record.governedActionExecutionId}"
  rationale := record.blockedReason
  actionKind := record.actionKind
  requestedRiskTier := some record.riskTier
  capabilityScope := record.capabilityScope
  payload := record.payload

/-- `governed_action_execution_result`. -/
def governedActionExecutionResult (record : GovernedActionExecutionRecord)
    (outcome : GovernedActionExecutionOutcome) (scriptRun : Option WorkspaceScriptRunRecord) :
    Harness GovernedActionExecutionResult := do
  let observationId ← newUuid
  pure
    { record := record
      outcome := outcome
      observation :=
        { observationId := observationId, actionKind := record.actionKind, outcome := outcome }
      scriptRun := scriptRun }

/-- How an executor ends an action. -/
structure Settlement where
  status : GovernedActionStatus
  summary : String
  blockedReason : Option String
  startedAt : Option DateTime
  completedAt : DateTime
  eventKind : String
  severity : String
  /-- The details of the audit event, from the updated record. -/
  details : GovernedActionExecutionRecord → Json
  scriptRun : Option WorkspaceScriptRunRecord := none
  /-- The outcome reports the output reference of the row instead of the written one. -/
  readsBackOutputRef : Bool := false

/-- The update of the record at the end of its execution. -/
def settlementUpdate (record : GovernedActionExecutionRecord) (executionId : Uuid)
    (settlement : Settlement) : GovernedActionExecutionUpdate where
  governedActionExecutionId := record.governedActionExecutionId
  status := settlement.status
  executionId := some executionId
  outputRef := some (executionOutputRef executionId)
  blockedReason := settlement.blockedReason
  approvalRequestId := none
  startedAt := settlement.startedAt
  completedAt := some settlement.completedAt

/-- What every executor does last: the record gets its final status, an audit event is
written, and the outcome is handed back. -/
def settle (record : GovernedActionExecutionRecord) (executionId : Uuid)
    (settlement : Settlement) : Harness GovernedActionExecutionResult := do
  let updatedRecord ← updateGovernedActionExecution
    (settlementUpdate record executionId settlement)
    [.actionSettled record.governedActionExecutionId settlement.status]
  writeGovernedActionAuditEvent updatedRecord settlement.eventKind settlement.severity
    (settlement.details updatedRecord)
  governedActionExecutionResult updatedRecord
    { status := settlement.status
      summary := settlement.summary
      fingerprint := some updatedRecord.actionFingerprint
      outputRef :=
        if settlement.readsBackOutputRef then updatedRecord.outputRef
        else some (executionOutputRef executionId) }
    settlement.scriptRun

/-- `complete_harness_native_action`. -/
def completeHarnessNativeAction (record : GovernedActionExecutionRecord) (summary : String)
    (payload : Json) : Harness GovernedActionExecutionResult := do
  let executionId ←
    expect "harness-native governed action requires an execution record" record.executionId
  Execution.markSucceeded executionId "governed_action" 0
    (.obj [("status", .str "completed"), ("summary", .str summary), ("payload", payload)])
  let completedAt ← utcNow
  settle record executionId
    { status := .executed
      summary := summary
      blockedReason := none
      startedAt := record.startedAt
      completedAt := completedAt
      eventKind := "governed_action_execution_completed"
      severity := "info"
      details := fun _ => payload }

/-! ## Executors -/

/-- `started_at.unwrap_or_else(Utc::now)`. -/
def startOf (record : GovernedActionExecutionRecord) : Harness DateTime :=
  match record.startedAt with
  | some startedAt => pure startedAt
  | none => utcNow

/-- The execution record of a command that ran to its end. -/
def markFinished (executionId : Uuid) (success : Bool) (responsePayload : Json) : Harness Unit :=
  if success then Execution.markSucceeded executionId "governed_action" 0 responsePayload
  else Execution.markFailed executionId responsePayload

/-- `execute_bounded_subprocess`. -/
def executeBoundedSubprocess (scope : CapabilityScope) (action : SubprocessAction) :
    Harness SubprocessOutcome := do
  Prog.emit (.subprocessStarted action)
  Prog.ask (Query.boundedSubprocess scope action)
    fun (answer : Except ErrorChain SubprocessOutcome) => Prog.ofExcept answer

/-- The exit status of a subprocess as text. -/
def exitStatusText (exitCode : Option Int) : String :=
  match exitCode with
  | some value => toString value
  | none => "unknown"

/-- `execute_subprocess_governed_action`. -/
def executeSubprocessGovernedAction (record : GovernedActionExecutionRecord)
    (action : SubprocessAction) : Harness GovernedActionExecutionResult := do
  let executionId ←
    expect "governed subprocess execution requires an attached execution record"
      record.executionId
  let startedAt ← startOf record
  let result ← (executeBoundedSubprocess record.capabilityScope action).attempt
  match result with
  | .error error => do
    let summary := errorText error
    Execution.markFailed executionId
      (.obj [("status", .str "blocked"), ("summary", .str summary)])
    let completedAt ← utcNow
    settle record executionId
      { status := .blocked
        summary := summary
        blockedReason := some summary
        startedAt := some startedAt
        completedAt := completedAt
        eventKind := "governed_action_execution_blocked"
        severity := "warn"
        details := fun _ => .obj [("reason", .str summary), ("phase", .str "backend")]
        readsBackOutputRef := true }
  | .ok outcome => do
    let completedAt ← utcNow
    if outcome.timedOut then
      let summary :=
        s!"bounded subprocess timed out after {record.capabilityScope.execution.timeoutMs} ms"
      Execution.markFailed executionId
        (.obj
          [("status", .str "timed_out"), ("summary", .str summary),
           ("stdout", .str outcome.stdout), ("stderr", .str outcome.stderr)])
      settle record executionId
        { status := .failed
          summary := summary
          blockedReason := some summary
          startedAt := some startedAt
          completedAt := completedAt
          eventKind := "governed_action_execution_timed_out"
          severity := "warn"
          details := fun updatedRecord => .obj
            [("stdout_bytes", .int updatedRecord.capabilityScope.execution.maxStdoutBytes),
             ("stderr_bytes", .int updatedRecord.capabilityScope.execution.maxStderrBytes)] }
    else
      let success := decide (outcome.exitCode = some 0)
      let summary :=
        if success then "bounded subprocess completed successfully"
        else s!"bounded subprocess exited with status {exitStatusText outcome.exitCode}"
      let responsePayload := Json.obj
        [("status", .str (if success then "completed" else "failed")),
         ("summary", .str summary),
         ("exit_code", .ofOption .int outcome.exitCode),
         ("stdout", .str outcome.stdout),
         ("stderr", .str outcome.stderr)]
      markFinished executionId success responsePayload
      settle record executionId
        { status := if success then .executed else .failed
          summary := summary
          blockedReason := if success then none else some summary
          startedAt := some startedAt
          completedAt := completedAt
          eventKind :=
            if success then "governed_action_execution_completed"
            else "governed_action_execution_failed"
          severity := if success then "info" else "warn"
          details := fun _ => .obj
            [("exit_code", .ofOption .int outcome.exitCode),
             ("stdout_excerpt", .str outcome.stdout),
             ("stderr_excerpt", .str outcome.stderr)] }

/-- `build_workspace_script_subprocess_action`. -/
def buildWorkspaceScriptSubprocessAction (config : RuntimeConfig)
    (script : WorkspaceScriptRecord) (version : WorkspaceScriptVersionRecord)
    (action : WorkspaceScriptAction) : Except ErrorChain SubprocessAction :=
  let workspaceRoot := some config.workspace.rootDir
  match Text.toAsciiLowercase script.language with
  | "powershell" | "pwsh" =>
    .ok { command :=
            if Text.eqIgnoreAsciiCase script.language "pwsh" then "pwsh" else "powershell"
          args := ["-NoProfile", "-Command", version.contentText] ++ action.args
          workingDirectory := workspaceRoot }
  | "sh" | "bash" =>
    .ok { command := if Text.eqIgnoreAsciiCase script.language "bash" then "bash" else "sh"
          args := ["-c", version.contentText] ++ action.args
          workingDirectory := workspaceRoot }
  | "python" =>
    .ok { command := "python"
          args := ["-c", version.contentText] ++ action.args
          workingDirectory := workspaceRoot }
  | other =>
    .error [s!"workspace script language '{other}' is not supported by the first governed backend"]

/-- The version a script action runs: the one it names, or the latest. -/
def resolveScriptVersion (action : WorkspaceScriptAction) :
    Harness WorkspaceScriptVersionRecord :=
  match action.scriptVersionId with
  | some versionId => Workspace.getWorkspaceScriptVersion versionId
  | none => do
    let latest ← Workspace.getLatestWorkspaceScriptVersion action.scriptId
    expect "workspace script has no canonical versions" latest

/-- The run of a resolved script: it is recorded, handed to the subprocess runner, and its
outcome goes into the run, the execution record and the record of the action. -/
def runWorkspaceScript (record : GovernedActionExecutionRecord) (action : WorkspaceScriptAction)
    (executionId : Uuid) (script : WorkspaceScriptRecord)
    (version : WorkspaceScriptVersionRecord) (subprocessAction : SubprocessAction) :
    Harness GovernedActionExecutionResult := do
  let scriptRunId ← newUuid
  let pendingRun ← Workspace.recordWorkspaceScriptRun
    { workspaceScriptRunId := scriptRunId
      workspaceScriptId := script.workspaceScriptId
      workspaceScriptVersionId := version.workspaceScriptVersionId
      traceId := record.traceId
      executionId := some executionId
      governedActionExecutionId := some record.governedActionExecutionId
      approvalRequestId := record.approvalRequestId
      status := .pending
      riskTier := record.riskTier
      args := action.args
      outputRef := none
      failureSummary := none
      startedAt := none
      completedAt := none }
  let startedAt ← utcNow
  let outputRef := executionOutputRef executionId
  let runningRun ← Workspace.updateWorkspaceScriptRunStatus
    { workspaceScriptRunId := pendingRun.workspaceScriptRunId
      status := .running
      outputRef := none
      failureSummary := none
      startedAt := some startedAt
      completedAt := none }
  let scriptRefs :=
    [("workspace_script_id", Json.uuid script.workspaceScriptId),
     ("workspace_script_version_id", Json.uuid version.workspaceScriptVersionId)]
  let result ← (executeBoundedSubprocess record.capabilityScope subprocessAction).attempt
  match result with
  | .error error => do
    let summary := errorText error
    Execution.markFailed executionId
      (.obj ([("status", .str "blocked"), ("summary", .str summary)] ++ scriptRefs))
    let runCompletedAt ← utcNow
    let blockedRun ← Workspace.updateWorkspaceScriptRunStatus
      { workspaceScriptRunId := runningRun.workspaceScriptRunId
        status := .blocked
        outputRef := some outputRef
        failureSummary := some summary
        startedAt := some startedAt
        completedAt := some runCompletedAt }
    let completedAt ← utcNow
    settle record executionId
      { status := .blocked
        summary := summary
        blockedReason := some summary
        startedAt := some startedAt
        completedAt := completedAt
        eventKind := "governed_action_execution_blocked"
        severity := "warn"
        details := fun _ => .obj
          [("workspace_script_run_id", .uuid blockedRun.workspaceScriptRunId),
           ("reason", .str summary), ("phase", .str "backend")]
        scriptRun := some blockedRun }
  | .ok outcome => do
    let completedAt ← utcNow
    if outcome.timedOut then
      let summary := s!"workspace script '{script.workspaceScriptId}' timed out after {record.capabilityScope.execution.timeoutMs} ms"
      Execution.markFailed executionId
        (.obj ([("status", .str "timed_out"), ("summary", .str summary)] ++ scriptRefs ++
          [("stdout", .str outcome.stdout), ("stderr", .str outcome.stderr)]))
      let updatedRun ← Workspace.updateWorkspaceScriptRunStatus
        { workspaceScriptRunId := runningRun.workspaceScriptRunId
          status := .timedOut
          outputRef := some outputRef
          failureSummary := some summary
          startedAt := some startedAt
          completedAt := some completedAt }
      settle record executionId
        { status := .failed
          summary := summary
          blockedReason := some summary
          startedAt := some startedAt
          completedAt := completedAt
          eventKind := "governed_action_execution_timed_out"
          severity := "warn"
          details := fun _ => .obj
            [("workspace_script_run_id", .uuid updatedRun.workspaceScriptRunId)]
          scriptRun := some updatedRun }
    else
      let success := decide (outcome.exitCode = some 0)
      let summary :=
        if success then
          s!"workspace script '{script.workspaceScriptId}' completed successfully"
        else
          s!"workspace script '{script.workspaceScriptId}' exited with status {exitStatusText outcome.exitCode}"
      let responsePayload := Json.obj
        ([("status", .str (if success then "completed" else "failed")),
          ("summary", .str summary)] ++ scriptRefs ++
         [("exit_code", .ofOption .int outcome.exitCode),
          ("stdout", .str outcome.stdout),
          ("stderr", .str outcome.stderr)])
      markFinished executionId success responsePayload
      let updatedRun ← Workspace.updateWorkspaceScriptRunStatus
        { workspaceScriptRunId := runningRun.workspaceScriptRunId
          status := if success then .completed else .failed
          outputRef := some outputRef
          failureSummary := if success then none else some summary
          startedAt := some startedAt
          completedAt := some completedAt }
      settle record executionId
        { status := if success then .executed else .failed
          summary := summary
          blockedReason := if success then none else some summary
          startedAt := some startedAt
          completedAt := completedAt
          eventKind :=
            if success then "governed_action_execution_completed"
            else "governed_action_execution_failed"
          severity := if success then "info" else "warn"
          details := fun _ => .obj
            ([("workspace_script_run_id", .uuid updatedRun.workspaceScriptRunId)] ++
              scriptRefs ++ [("exit_code", .ofOption .int outcome.exitCode)])
          scriptRun := some updatedRun }

/-- `execute_workspace_script_governed_action`. -/
def executeWorkspaceScriptGovernedAction (config : RuntimeConfig)
    (record : GovernedActionExecutionRecord) (action : WorkspaceScriptAction) :
    Harness GovernedActionExecutionResult := do
  let executionId ←
    expect "governed workspace-script execution requires an attached execution record"
      record.executionId
  let script ← Workspace.getWorkspaceScript action.scriptId
  let version ← resolveScriptVersion action
  if version.workspaceScriptId ≠ action.scriptId then
    bail "workspace script version does not belong to the requested script"
  else
    let subprocessAction ← Prog.ofExcept
      (buildWorkspaceScriptSubprocessAction config script version action)
    runWorkspaceScript record action executionId script version subprocessAction

/-- `WEB_FETCH_OBSERVATION_PREVIEW_CHARS`. -/
def webFetchObservationPreviewChars : Nat := 1500

/-- `web_fetch_execution_summary`. -/
def webFetchExecutionSummary (action : WebFetchAction) (outcome : WebFetchOutcome)
    (formatted : FetchedContentForModel) : String :=
  let preview := if formatted.preview.isEmpty then "<empty>" else formatted.preview
  let truncationNote :=
    if outcome.truncated then s!"; response truncated to {action.maxResponseBytes} bytes"
    else if formatted.previewTruncated then
      s!"; preview truncated to {webFetchObservationPreviewChars} chars"
    else ""
  let contentType := outcome.contentType.getD "unknown"
  s!"web fetch completed for {action.url}; content_type: {contentType}; formatted_as: {formatted.formatterKind}; preview:\n{preview}{truncationNote}"

/-- `execute_web_fetch_governed_action`. -/
def executeWebFetchGovernedAction (record : GovernedActionExecutionRecord)
    (action : WebFetchAction) : Harness GovernedActionExecutionResult := do
  let executionId ←
    expect "governed web fetch execution requires an attached execution record"
      record.executionId
  let startedAt ← startOf record
  let fetchResult ← Prog.ask (Query.webFetch action)
    fun (answer : Except ErrorChain WebFetchOutcome) => Prog.ret answer
  let completedAt ← utcNow
  match fetchResult with
  | .error error => do
    let summary := errorText error
    Execution.markFailed executionId
      (.obj [("status", .str "failed"), ("summary", .str summary)])
    settle record executionId
      { status := .failed
        summary := summary
        blockedReason := some summary
        startedAt := some startedAt
        completedAt := completedAt
        eventKind := "governed_action_execution_failed"
        severity := "warn"
        details := fun _ => .obj [("reason", .str summary), ("phase", .str "backend")] }
  | .ok outcome => do
    let formatted ← Prog.ask (Query.formatFetched action outcome)
      fun (answer : Except ErrorChain FetchedContentForModel) => Prog.ofExcept answer
    let summary := webFetchExecutionSummary action outcome formatted
    Execution.markSucceeded executionId "governed_action" 0
      (.obj
        [("status", .str "completed"),
         ("summary", .str summary),
         ("url", .str action.url),
         ("body", .str outcome.body),
         ("content_type", .ofOption .str outcome.contentType),
         ("formatted_preview", .str formatted.preview),
         ("formatter_kind", .str formatted.formatterKind),
         ("preview_truncated", .bool formatted.previewTruncated),
         ("truncated", .bool outcome.truncated)])
    settle record executionId
      { status := .executed
        summary := summary
        blockedReason := none
        startedAt := some startedAt
        completedAt := completedAt
        eventKind := "governed_action_execution_completed"
        severity := "info"
        details := fun _ => .obj
          [("url", .str action.url),
           ("body_bytes", .int outcome.body.utf8ByteSize),
           ("content_type", .ofOption .str outcome.contentType),
           ("formatter_kind", .str formatted.formatterKind),
           ("preview_chars", .int formatted.preview.length),
           ("preview_truncated", .bool formatted.previewTruncated),
           ("truncated", .bool outcome.truncated)] }

/-- The executors of the harness-native kinds: each works on the tables of its subsystem,
then completes the action. -/
def executeHarnessNativeAction (record : GovernedActionExecutionRecord) :
    Harness GovernedActionExecutionResult := do
  let report ← Prog.ask (Query.harnessNative record.payload)
    fun (answer : Except ErrorChain NativeReport) => Prog.ofExcept answer
  completeHarnessNativeAction record report.summary report.payload

/-- The executor of a payload. -/
def executePayload (config : RuntimeConfig) (record : GovernedActionExecutionRecord) :
    Harness GovernedActionExecutionResult :=
  match record.payload with
  | .runSubprocess action => executeSubprocessGovernedAction record action
  | .runWorkspaceScript action => executeWorkspaceScriptGovernedAction config record action
  | .webFetch action => executeWebFetchGovernedAction record action
  | _ => executeHarnessNativeAction record

/-! ## The worker lease of an execution -/

/-- How long the lease of an action runs. -/
def effectiveTimeoutMs (config : RuntimeConfig) (record : GovernedActionExecutionRecord) : Nat :=
  match record.payload with
  | .webFetch action => action.timeoutMs
  | .runSubprocess _ | .runWorkspaceScript _ => record.capabilityScope.execution.timeoutMs
  | _ => config.governedActions.defaultSubprocessTimeoutMs

/-- `create_governed_action_worker_lease`. -/
def createGovernedActionWorkerLease (record : GovernedActionExecutionRecord)
    (startedAt : DateTime) (timeoutMs : Nat) : Harness WorkerLeaseRecord := do
  let timeoutMs ← expect "governed action timeout exceeded chrono range" (toI64 timeoutMs)
  let workerLeaseId ← newUuid
  let leaseToken ← newUuid
  Recovery.createWorkerLease
    { workerLeaseId := workerLeaseId
      traceId := record.traceId
      executionId := record.executionId
      backgroundJobId := none
      backgroundJobRunId := none
      governedActionExecutionId := some record.governedActionExecutionId
      workerKind := .governedAction
      leaseToken := leaseToken
      workerPid := none
      leaseAcquiredAt := startedAt
      leaseExpiresAt := startedAt + milliseconds timeoutMs
      lastHeartbeatAt := startedAt
      metadata := .obj
        [("source", .str "governed_actions"),
         ("action_kind", .str record.actionKind.asStr),
         ("risk_tier", .str record.riskTier.asStr)] }

/-- `governed_action_result_is_timeout`. -/
def governedActionResultIsTimeout (result : GovernedActionExecutionResult) : Bool :=
  result.outcome.status = .failed && Text.contains result.outcome.summary "timed out"

/-- The refresh of the lease after a payload that went through; when it fails, so does the
execution. -/
def refreshAfterProgress (workerLeaseId : Uuid) (progressed : Bool) : Harness Unit :=
  if progressed then do
    let heartbeatAt ← utcNow
    let _ ← context "failed to refresh governed-action worker lease after action progress"
      (Recovery.refreshWorkerLeaseProgress workerLeaseId heartbeatAt)
    pure ()
  else pure ()

/-- The lease after a payload that did not time out: it is released. -/
def releaseLease (workerLeaseId : Uuid) (progressed : Bool) :
    Harness (Except ErrorChain Unit) := do
  refreshAfterProgress workerLeaseId progressed
  let releasedAt ← utcNow
  let released ← (Recovery.releaseWorkerLease workerLeaseId releasedAt).attempt
  pure (released.map fun _ => ())

/-- The lease after a payload that timed out: recovery takes it over. -/
def recoverTimedOutLease (workerLeaseId : Uuid) (summary : String) :
    Harness (Except ErrorChain Unit) := do
  let now ← utcNow
  let recovered ← (context
    "failed to route timed-out governed-action worker lease through recovery"
    (Recovery.recoverObservedWorkerTimeout workerLeaseId now "governed_action_timeout"
      summary)).attempt
  pure (recovered.map fun _ => ())

/-- What becomes of the lease once the executor is done. -/
def completeLease (workerLeaseId : Uuid) :
    Except ErrorChain GovernedActionExecutionResult → Harness (Except ErrorChain Unit)
  | .ok result =>
    if governedActionResultIsTimeout result then
      recoverTimedOutLease workerLeaseId result.outcome.summary
    else releaseLease workerLeaseId true
  | .error _ => releaseLease workerLeaseId false

/-- The outcome of an execution, from those of its payload and of its lease. -/
def combineResults :
    Except ErrorChain GovernedActionExecutionResult → Except ErrorChain Unit →
      Except ErrorChain GovernedActionExecutionResult
  | .ok result, .ok _ => .ok result
  | .ok _, .error e =>
    .error ("failed to complete governed-action worker lease after success" :: e)
  | .error e, .ok _ => .error e
  | .error actionError, .error leaseError =>
    .error (s!"failed to complete governed-action worker lease after action failure: {errorText actionError}" :: leaseError)

/-! ## Execution -/

/-- The update that starts an execution. -/
def startUpdate (record : GovernedActionExecutionRecord) (executionId : Uuid)
    (startedAt : DateTime) : GovernedActionExecutionUpdate where
  governedActionExecutionId := record.governedActionExecutionId
  status := record.status
  executionId := some executionId
  outputRef := none
  blockedReason := none
  approvalRequestId := none
  startedAt := some startedAt
  completedAt := none

/-- The update of an action that fails its policy re-check. -/
def recheckUpdate (record : GovernedActionExecutionRecord) (summary : String)
    (completedAt : DateTime) : GovernedActionExecutionUpdate where
  governedActionExecutionId := record.governedActionExecutionId
  status := .blocked
  executionId := none
  outputRef := none
  blockedReason := some summary
  approvalRequestId := none
  startedAt := some completedAt
  completedAt := some completedAt

/-- What `execute_governed_action` does with an action that fails its policy re-check. -/
def blockOnPolicyRecheck (record : GovernedActionExecutionRecord) (error : ErrorChain) :
    Harness GovernedActionExecutionResult := do
  let summary := errorText error
  let completedAt ← utcNow
  let record ← updateGovernedActionExecution (recheckUpdate record summary completedAt)
    [.actionSettled record.governedActionExecutionId .blocked]
  writeGovernedActionAuditEvent record "governed_action_execution_blocked" "warn"
    (.obj [("reason", .str summary), ("phase", .str "policy_recheck")])
  let _ ← context "failed to route governed-action policy re-check failure through recovery"
    (Recovery.recoverGovernedActionPolicyRecheckFailure record completedAt summary)
  governedActionExecutionResult record
    { status := .blocked
      summary := summary
      fingerprint := some record.actionFingerprint
      outputRef := record.outputRef }
    none

/-- The start of an execution: an execution record, and the start in the record itself. -/
def startExecution (record : GovernedActionExecutionRecord) :
    Harness (GovernedActionExecutionRecord × DateTime) := do
  let executionId ← newUuid
  Execution.insert
    { executionId := executionId
      traceId := record.traceId
      triggerKind := "governed_action"
      syntheticTrigger := none
      status := "started"
      requestPayload := .obj
        [("governed_action_execution_id", .uuid record.governedActionExecutionId),
         ("action_kind", .str record.actionKind.asStr),
         ("risk_tier", .str record.riskTier.asStr)] }
  let startedAt ← utcNow
  let startedRecord ← updateGovernedActionExecution (startUpdate record executionId startedAt)
  writeGovernedActionAuditEvent startedRecord "governed_action_execution_started" "info"
    (.obj [("execution_id", .uuid executionId)])
  pure (startedRecord, startedAt)

variable [GovernedActionServices]

/-- `execute_governed_action`. -/
def executeGovernedAction (config : RuntimeConfig) (record : GovernedActionExecutionRecord) :
    Harness GovernedActionExecutionResult := do
  let validation ← (validateGovernedActionPolicy config (proposalFromRecord record)).attempt
  match validation with
  | .error error => blockOnPolicyRecheck record error
  | .ok _ => do
    let (startedRecord, startedAt) ← startExecution record
    let workerLease ← createGovernedActionWorkerLease startedRecord startedAt
      (effectiveTimeoutMs config startedRecord)
    Prog.emit (.payloadDispatched startedRecord.governedActionExecutionId)
    let result ← (executePayload config startedRecord).attempt
    let leaseCompletion ← completeLease workerLease.workerLeaseId result
    Prog.ofExcept (combineResults result leaseCompletion)

end GovernedActions

end BlueLagoon
