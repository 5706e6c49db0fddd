import BlueLagoon.GovernedActions.Execution
import Mathlib.Data.Finset.Basic

/-!
# What a fingerprint covers

Two proposals with one fingerprint have the same canonical form. What their executors do is
another matter: some use a field as the canonical form has it, others use the field as it was
proposed, with the blanks that the canonical form leaves out.
-/

namespace BlueLagoon

open Interleaving Harness

/-- The surroundings of a command: the filesystem roots it is confined to, the variables it is
given, and its limits. -/
@[ext]
structure Sandbox where
  roots : Finset String
  environment : Finset String
  network : NetworkAccessPosture
  execution : ExecutionCapabilityBudget
  deriving DecidableEq

/-- What the executor of an action hands on: to the subprocess runner, to the HTTP client, to
the workspace, the scheduler, the background planner and the management queries. `Request` is
the request that the HTTP client makes of a URL. -/
inductive DispatchedEffect (Request : Type)
  | inspectArtifact (action : InspectWorkspaceArtifactAction)
  | listArtifacts (artifactKind : Option WorkspaceArtifactKind)
      (status : WorkspaceArtifactStatusFilter) (query : Option String) (limit : Nat)
  | createArtifact (artifactKind : WorkspaceArtifactKind) (title contentText : String)
      (provenance : Option String)
  | updateArtifact (artifactId : Uuid) (expectedUpdatedAt : Option DateTime)
      (title : Option String) (contentText changeSummary : String)
  | listScripts (status : WorkspaceArtifactStatusFilter) (language query : Option String)
      (limit : Nat)
  | inspectScript (action : InspectWorkspaceScriptAction)
  | createScript (title language contentText : String) (description : Option String)
      (requestedCapabilities : List String)
  | appendScriptVersion (scriptId : Uuid) (expectedLatestVersionId : Option Uuid)
      (expectedContentSha256 : Option String) (language contentText changeSummary : String)
  | listScriptRuns (action : ListWorkspaceScriptRunsAction)
  | upsertTask (taskKey internalPrincipalRef internalConversationRef messageText : String)
      (nextDueAt : Option DateTime) (cadenceSeconds : Nat) (cooldownSeconds : Option Nat)
      (active : Bool)
  | planBackgroundJob (jobKind : UnconsciousJobKind) (reasonSummary : String)
      (payloadRef internalConversationRef : Option String)
  | diagnostic (action : RunDiagnosticAction)
  | subprocess (sandbox : Sandbox) (action : SubprocessAction)
  | script (sandbox : Sandbox) (action : WorkspaceScriptAction)
  | fetch (request : Request) (timeoutMs maxResponseBytes : Nat)

namespace GovernedActions

/-! ## What the executors use -/

/-- `resolve_allowed_roots` and `apply_scoped_environment` of `execute_bounded_subprocess`: roots
are trimmed, variables are not. -/
def sandboxOf (scope : CapabilityScope) : Sandbox where
  roots := (((scope.filesystem.readRoots ++ scope.filesystem.writeRoots).map Text.trim).filter
    fun root => !root.isEmpty).toFinset
  environment := scope.environment.allowVariables.toFinset
  network := scope.network
  execution := scope.execution

section Effects

variable {Request : Type} (requestOf : String → Request)

/-- What the executor of each payload hands on, with each field as the executor uses it. -/
def dispatchedEffect (scope : CapabilityScope) : GovernedActionPayload → DispatchedEffect Request
  -- `execute_inspect_workspace_artifact`
  | .inspectWorkspaceArtifact action => .inspectArtifact action
  -- `execute_list_workspace_artifacts`: the query is searched for in lower case
  | .listWorkspaceArtifacts action =>
    .listArtifacts action.artifactKind action.status
      (action.query.map Text.toAsciiLowercase) action.limit
  -- `execute_create_workspace_artifact`: the provenance goes into the metadata
  | .createWorkspaceArtifact action =>
    .createArtifact action.artifactKind (Text.trim action.title) action.contentText
      action.provenance
  -- `execute_update_workspace_artifact`: the change summary goes into the metadata
  | .updateWorkspaceArtifact action =>
    .updateArtifact action.artifactId action.expectedUpdatedAt (action.title.map Text.trim)
      action.contentText action.changeSummary
  -- `execute_list_workspace_scripts`: languages are compared without case
  | .listWorkspaceScripts action =>
    .listScripts action.status
      (action.language.map fun language => Text.toAsciiLowercase (Text.trim language))
      (action.query.map Text.toAsciiLowercase) action.limit
  -- `execute_inspect_workspace_script`
  | .inspectWorkspaceScript action => .inspectScript action
  -- `execute_create_workspace_script`: description and capabilities go into the metadata
  | .createWorkspaceScript action =>
    .createScript (Text.trim action.title) (Text.toAsciiLowercase (Text.trim action.language))
      action.contentText action.description action.requestedCapabilities
  -- `execute_append_workspace_script_version`: the expected hash is compared as it is
  | .appendWorkspaceScriptVersion action =>
    .appendScriptVersion action.scriptId action.expectedLatestVersionId
      action.expectedContentSha256 (Text.toAsciiLowercase (Text.trim action.language))
      action.contentText action.changeSummary
  -- `execute_list_workspace_script_runs`
  | .listWorkspaceScriptRuns action => .listScriptRuns action
  -- `execute_upsert_scheduled_foreground_task`, `insert_task` and `update_task`
  | .upsertScheduledForegroundTask action =>
    .upsertTask (Text.trim action.taskKey) (Text.trim action.internalPrincipalRef)
      (Text.trim action.internalConversationRef) (Text.trim action.userFacingPrompt)
      action.nextDueAtUtc action.cadenceSeconds action.cooldownSeconds action.active
  -- `execute_request_background_job`
  | .requestBackgroundJob action =>
    .planBackgroundJob action.jobKind action.rationale action.inputScopeRef
      action.internalConversationRef
  -- `execute_run_diagnostic_action`
  | .runDiagnostic action => .diagnostic action
  -- `execute_bounded_subprocess`
  | .runSubprocess action => .subprocess (sandboxOf scope) action
  -- `execute_workspace_script_governed_action`
  | .runWorkspaceScript action => .script (sandboxOf scope) action
  -- `execute_web_fetch`
  | .webFetch action => .fetch (requestOf action.url) action.timeoutMs action.maxResponseBytes

/-- The two payloads agree on the fields that are used as they were proposed. -/
def AgreeAsProposed : GovernedActionPayload → GovernedActionPayload → Prop
  | .listWorkspaceArtifacts action, .listWorkspaceArtifacts other =>
    action.query.map Text.toAsciiLowercase = other.query.map Text.toAsciiLowercase
  | .createWorkspaceArtifact action, .createWorkspaceArtifact other =>
    action.provenance = other.provenance
  | .updateWorkspaceArtifact action, .updateWorkspaceArtifact other =>
    action.changeSummary = other.changeSummary
  | .listWorkspaceScripts action, .listWorkspaceScripts other =>
    action.query.map Text.toAsciiLowercase = other.query.map Text.toAsciiLowercase
  | .createWorkspaceScript action, .createWorkspaceScript other =>
    action.description = other.description ∧
      action.requestedCapabilities = other.requestedCapabilities
  | .appendWorkspaceScriptVersion action, .appendWorkspaceScriptVersion other =>
    action.expectedContentSha256 = other.expectedContentSha256 ∧
      action.changeSummary = other.changeSummary
  | .requestBackgroundJob action, .requestBackgroundJob other =>
    action.rationale = other.rationale ∧ action.inputScopeRef = other.inputScopeRef ∧
      action.internalConversationRef = other.internalConversationRef
  | .runSubprocess action, .runSubprocess other =>
    action.command = other.command ∧ action.workingDirectory = other.workingDirectory
  | .webFetch action, .webFetch other => requestOf action.url = requestOf other.url
  | _, _ => True

/-- Payloads with one canonical form have the same effect exactly when they agree on what is
used as proposed. -/
theorem dispatchedEffect_eq_iff {scope scope' : CapabilityScope}
    {payload payload' : GovernedActionPayload} (hsandbox : sandboxOf scope = sandboxOf scope')
    (h : canonicalGovernedActionPayload payload = canonicalGovernedActionPayload payload') :
    dispatchedEffect requestOf scope payload = dispatchedEffect requestOf scope' payload' ↔
      AgreeAsProposed requestOf payload payload' := by
  cases payload <;> cases payload' <;>
    simp only [canonicalGovernedActionPayload, reduceCtorEq] at h
  -- the kinds agree; what is left is one goal for each kind
  case inspectWorkspaceArtifact.inspectWorkspaceArtifact action other =>
    simp only [GovernedActionPayload.inspectWorkspaceArtifact.injEq] at h
    simp [dispatchedEffect, AgreeAsProposed, h]
  case listWorkspaceArtifacts.listWorkspaceArtifacts action other =>
    simp only [GovernedActionPayload.listWorkspaceArtifacts.injEq,
      ListWorkspaceArtifactsAction.mk.injEq] at h
    simp [dispatchedEffect, AgreeAsProposed, h]
  case createWorkspaceArtifact.createWorkspaceArtifact action other =>
    simp only [GovernedActionPayload.createWorkspaceArtifact.injEq,
      CreateWorkspaceArtifactAction.mk.injEq] at h
    simp [dispatchedEffect, AgreeAsProposed, h]
  case updateWorkspaceArtifact.updateWorkspaceArtifact action other =>
    simp only [GovernedActionPayload.updateWorkspaceArtifact.injEq,
      UpdateWorkspaceArtifactAction.mk.injEq] at h
    simp [dispatchedEffect, AgreeAsProposed, h]
  case listWorkspaceScripts.listWorkspaceScripts action other =>
    simp only [GovernedActionPayload.listWorkspaceScripts.injEq,
      ListWorkspaceScriptsAction.mk.injEq] at h
    have hlanguage : (action.language.map fun language => Text.toAsciiLowercase
        (Text.trim language)) = other.language.map fun language =>
          Text.toAsciiLowercase (Text.trim language) := by
      have := congrArg (Option.map Text.toAsciiLowercase) h.2.1
      rwa [Option.map_map, Option.map_map] at this
    simp [dispatchedEffect, AgreeAsProposed, h, hlanguage]
  case inspectWorkspaceScript.inspectWorkspaceScript action other =>
    simp only [GovernedActionPayload.inspectWorkspaceScript.injEq] at h
    simp [dispatchedEffect, AgreeAsProposed, h]
  case createWorkspaceScript.createWorkspaceScript action other =>
    simp only [GovernedActionPayload.createWorkspaceScript.injEq,
      CreateWorkspaceScriptAction.mk.injEq] at h
    simp [dispatchedEffect, AgreeAsProposed, h]
  case appendWorkspaceScriptVersion.appendWorkspaceScriptVersion action other =>
    simp only [GovernedActionPayload.appendWorkspaceScriptVersion.injEq,
      AppendWorkspaceScriptVersionAction.mk.injEq] at h
    simp [dispatchedEffect, AgreeAsProposed, h]
  case listWorkspaceScriptRuns.listWorkspaceScriptRuns action other =>
    simp only [GovernedActionPayload.listWorkspaceScriptRuns.injEq] at h
    simp [dispatchedEffect, AgreeAsProposed, h]
  case upsertScheduledForegroundTask.upsertScheduledForegroundTask action other =>
    simp only [GovernedActionPayload.upsertScheduledForegroundTask.injEq,
      UpsertScheduledForegroundTaskAction.mk.injEq] at h
    simp [dispatchedEffect, AgreeAsProposed, h]
  case requestBackgroundJob.requestBackgroundJob action other =>
    simp only [GovernedActionPayload.requestBackgroundJob.injEq,
      RequestBackgroundJobAction.mk.injEq] at h
    simp [dispatchedEffect, AgreeAsProposed, h]
  case runDiagnostic.runDiagnostic action other =>
    simp only [GovernedActionPayload.runDiagnostic.injEq] at h
    simp [dispatchedEffect, AgreeAsProposed, h]
  case runSubprocess.runSubprocess action other =>
    simp only [GovernedActionPayload.runSubprocess.injEq, SubprocessAction.mk.injEq] at h
    simp only [dispatchedEffect, AgreeAsProposed, hsandbox, DispatchedEffect.subprocess.injEq,
      true_and]
    constructor
    · rintro rfl
      exact ⟨rfl, rfl⟩
    · rintro ⟨hcommand, hdirectory⟩
      cases action
      cases other
      simp_all
  case runWorkspaceScript.runWorkspaceScript action other =>
    simp only [GovernedActionPayload.runWorkspaceScript.injEq] at h
    simp [dispatchedEffect, AgreeAsProposed, h, hsandbox]
  case webFetch.webFetch action other =>
    simp only [GovernedActionPayload.webFetch.injEq, WebFetchAction.mk.injEq] at h
    simp [dispatchedEffect, AgreeAsProposed, h]

end Effects

/-! ## The executors dispatch it

What an executor asks of its surroundings besides time, identifiers and the database is the
effect of its payload. For a subprocess, a script and a fetch the effect is read off the question.
The other twelve kinds hand the payload itself to their subsystem, and `dispatchedEffect` is what
the subsystem takes from it; of these kinds the lemmas say only that the payload handed over is
the planned one. -/

/-- What the subprocess runner, the HTTP client and the subsystems make of a question. -/
inductive Requests {Request : Type} (requestOf : String → Request) :
    Query → DispatchedEffect Request → Prop
  | subprocess (scope : CapabilityScope) (action : SubprocessAction) :
    Requests requestOf (.boundedSubprocess scope action) (.subprocess (sandboxOf scope) action)
  | fetch (action : WebFetchAction) :
    Requests requestOf (.webFetch action)
      (.fetch (requestOf action.url) action.timeoutMs action.maxResponseBytes)
  | native (scope : CapabilityScope) (payload : GovernedActionPayload) :
    Requests requestOf (.harnessNative payload) (dispatchedEffect requestOf scope payload)

/-- A requested effect is the planned one; that of a script is the command that runs one of its
versions, in the same surroundings. -/
inductive CarriesOut {Request : Type} (config : RuntimeConfig) :
    DispatchedEffect Request → DispatchedEffect Request → Prop
  | same (effect : DispatchedEffect Request) : CarriesOut config effect effect
  | script {sandbox : Sandbox} {action : WorkspaceScriptAction} {script : WorkspaceScriptRecord}
      {version : WorkspaceScriptVersionRecord} {command : SubprocessAction}
      (built : buildWorkspaceScriptSubprocessAction config script version action = .ok command) :
    CarriesOut config (.subprocess sandbox command) (.script sandbox action)

/-- `P` allows the questions that every executor asks. -/
structure AllowsQuestions (P : Query → Prop) : Prop where
  statement : P .statement
  utcNow : P .utcNow
  newUuid : P .newUuid
  formatFetched : ∀ action outcome, P (.formatFetched action outcome)

namespace AllowsQuestions

variable {P : Query → Prop} {α : Type} {record : GovernedActionExecutionRecord}

theorem transaction (h : AllowsQuestions P) {message : String}
    {body : DateTime → Database → Except ErrorChain (Effect α)} :
    (Harness.transaction message body).Asks P := by
  refine ⟨h.statement, fun at_ => ?_⟩
  cases at_ with
  | none => trivial
  | some now => exact Prog.asks_tx (S := system) _

theorem now (h : AllowsQuestions P) : Harness.utcNow.Asks P :=
  ⟨h.utcNow, fun _ _ => trivial⟩

theorem uuid (h : AllowsQuestions P) : Harness.newUuid.Asks P :=
  ⟨h.newUuid, fun _ _ => trivial⟩

theorem expect {message : String} {found : Option α} : (Harness.expect message found).Asks P := by
  cases found <;> trivial

theorem startOf (h : AllowsQuestions P) : (startOf record).Asks P := by
  unfold GovernedActions.startOf
  split
  · trivial
  · exact h.now

theorem update (h : AllowsQuestions P) {change : GovernedActionExecutionUpdate}
    {events : List Event} : (updateGovernedActionExecution change events).Asks P :=
  Prog.Asks.bind h.transaction fun _ => h.transaction

theorem settle (h : AllowsQuestions P) {executionId : Uuid} {settlement : Settlement} :
    (settle record executionId settlement).Asks P := by
  refine Prog.Asks.bind h.update fun _ => ?_
  refine Prog.Asks.bind (Prog.Asks.bind (Prog.Asks.bind h.uuid fun _ => h.transaction)
    fun _ => trivial) fun _ => ?_
  exact Prog.Asks.bind h.uuid fun _ => trivial

theorem markFinished (h : AllowsQuestions P) {executionId : Uuid} {success : Bool}
    {responsePayload : Json} : (markFinished executionId success responsePayload).Asks P := by
  unfold GovernedActions.markFinished
  split
  · exact h.transaction
  · exact h.transaction

theorem updateRun (h : AllowsQuestions P) {change : UpdateWorkspaceScriptRunStatus} :
    (Workspace.updateWorkspaceScriptRunStatus change).Asks P := by
  refine Prog.Asks.bind h.transaction fun rowsAffected => ?_
  split
  · trivial
  · exact h.transaction

theorem executeBoundedSubprocess {scope : CapabilityScope} {command : SubprocessAction}
    (hcommand : P (.boundedSubprocess scope command)) :
    (executeBoundedSubprocess scope command).attempt.Asks P := by
  refine Prog.Asks.attempt (Prog.Asks.bind (Prog.asks_emit (S := system) _) fun _ => ?_)
  exact ⟨hcommand, fun answer => Prog.asks_ofExcept (S := system) answer⟩

/-! ### One executor after the other -/

theorem executeSubprocess (h : AllowsQuestions P) {action : SubprocessAction}
    (hcommand : P (.boundedSubprocess record.capabilityScope action)) :
    (executeSubprocessGovernedAction record action).Asks P := by
  refine Prog.Asks.bind expect fun executionId => ?_
  refine Prog.Asks.bind h.startOf fun startedAt => ?_
  refine Prog.Asks.bind (executeBoundedSubprocess hcommand) fun result => ?_
  cases result with
  | error error =>
    refine Prog.Asks.bind h.transaction fun _ => ?_
    exact Prog.Asks.bind h.now fun _ => h.settle
  | ok outcome =>
    refine Prog.Asks.bind h.now fun _ => ?_
    dsimp only
    split
    · exact Prog.Asks.bind h.transaction fun _ => h.settle
    · exact Prog.Asks.bind h.markFinished fun _ => h.settle

theorem runWorkspaceScript (h : AllowsQuestions P) {action : WorkspaceScriptAction}
    {executionId : Uuid} {script : WorkspaceScriptRecord}
    {version : WorkspaceScriptVersionRecord} {command : SubprocessAction}
    (hcommand : P (.boundedSubprocess record.capabilityScope command)) :
    (runWorkspaceScript record action executionId script version command).Asks P := by
  refine Prog.Asks.bind h.uuid fun _ => ?_
  refine Prog.Asks.bind (Prog.Asks.bind h.transaction fun _ => h.transaction) fun _ => ?_
  refine Prog.Asks.bind h.now fun _ => ?_
  refine Prog.Asks.bind h.updateRun fun _ => ?_
  refine Prog.Asks.bind (executeBoundedSubprocess hcommand) fun result => ?_
  cases result with
  | error error =>
    refine Prog.Asks.bind h.transaction fun _ => ?_
    refine Prog.Asks.bind h.now fun _ => ?_
    refine Prog.Asks.bind h.updateRun fun _ => ?_
    exact Prog.Asks.bind h.now fun _ => h.settle
  | ok outcome =>
    refine Prog.Asks.bind h.now fun _ => ?_
    dsimp only
    split
    · refine Prog.Asks.bind h.transaction fun _ => ?_
      exact Prog.Asks.bind h.updateRun fun _ => h.settle
    · refine Prog.Asks.bind h.markFinished fun _ => ?_
      exact Prog.Asks.bind h.updateRun fun _ => h.settle

theorem executeWorkspaceScript (h : AllowsQuestions P) {config : RuntimeConfig}
    {action : WorkspaceScriptAction}
    (hcommands : ∀ script version command,
      buildWorkspaceScriptSubprocessAction config script version action = .ok command →
        P (.boundedSubprocess record.capabilityScope command)) :
    (executeWorkspaceScriptGovernedAction config record action).Asks P := by
  refine Prog.Asks.bind expect fun executionId => ?_
  refine Prog.Asks.bind h.transaction fun script => ?_
  refine Prog.Asks.bind ?_ fun version => ?_
  · unfold resolveScriptVersion
    split
    · exact h.transaction
    · exact Prog.Asks.bind h.transaction fun _ => expect
  · split
    · trivial
    · cases hbuilt : buildWorkspaceScriptSubprocessAction config script version action with
      | error e => trivial
      | ok command => exact h.runWorkspaceScript (hcommands _ _ _ hbuilt)

theorem executeWebFetch (h : AllowsQuestions P) {action : WebFetchAction}
    (hfetch : P (.webFetch action)) : (executeWebFetchGovernedAction record action).Asks P := by
  refine Prog.Asks.bind expect fun executionId => ?_
  refine Prog.Asks.bind h.startOf fun startedAt => ?_
  refine Prog.Asks.bind ⟨hfetch, fun _ => trivial⟩ fun fetchResult => ?_
  refine Prog.Asks.bind h.now fun _ => ?_
  cases fetchResult with
  | error error => exact Prog.Asks.bind h.transaction fun _ => h.settle
  | ok outcome =>
    refine Prog.Asks.bind ⟨h.formatFetched _ _, fun answer =>
      Prog.asks_ofExcept (S := system) answer⟩ fun formatted => ?_
    exact Prog.Asks.bind h.transaction fun _ => h.settle

theorem executeHarnessNative (h : AllowsQuestions P) (hnative : P (.harnessNative record.payload)) :
    (executeHarnessNativeAction record).Asks P := by
  refine Prog.Asks.bind ⟨hnative, fun answer => Prog.asks_ofExcept (S := system) answer⟩
    fun report => ?_
  refine Prog.Asks.bind expect fun executionId => ?_
  refine Prog.Asks.bind h.transaction fun _ => ?_
  exact Prog.Asks.bind h.now fun _ => h.settle

end AllowsQuestions

/-- Whatever effect the executor of a payload requests, it is the one of the payload. -/
theorem executePayload_requests {Request : Type} (requestOf : String → Request)
    (config : RuntimeConfig) (record : GovernedActionExecutionRecord) :
    (executePayload config record).Asks fun question =>
      ∀ effect, Requests requestOf question effect →
        CarriesOut config effect
          (dispatchedEffect requestOf record.capabilityScope record.payload) := by
  have h : AllowsQuestions fun question => ∀ effect, Requests requestOf question effect →
      CarriesOut config effect
        (dispatchedEffect requestOf record.capabilityScope record.payload) :=
    { statement := fun _ hrequest => by cases hrequest
      utcNow := fun _ hrequest => by cases hrequest
      newUuid := fun _ hrequest => by cases hrequest
      formatFetched := fun _ _ _ hrequest => by cases hrequest }
  unfold executePayload
  split
  · next action hpayload =>
    refine h.executeSubprocess fun effect hrequest => ?_
    cases hrequest
    rw [hpayload]
    exact .same _
  · next action hpayload =>
    refine h.executeWorkspaceScript fun script version command hbuilt effect hrequest => ?_
    cases hrequest
    rw [hpayload]
    exact .script hbuilt
  · next action hpayload =>
    refine h.executeWebFetch fun effect hrequest => ?_
    cases hrequest
    rw [hpayload]
    exact .same _
  · next hsubprocess hscript hfetch =>
    refine h.executeHarnessNative fun effect hrequest => ?_
    cases hrequest with
    | native scope payload =>
      -- the effect of a harness-native payload does not depend on the scope
      have hscope : dispatchedEffect requestOf scope record.payload =
          dispatchedEffect requestOf record.capabilityScope record.payload := by
        cases hpayload : record.payload with
        | runSubprocess action => exact absurd hpayload (hsubprocess action)
        | runWorkspaceScript action => exact absurd hpayload (hscript action)
        | _ => rfl
      rw [hscope]
      exact .same _

/-! ## Scopes with one canonical form -/

/-- Scopes with one canonical form confine commands to the same roots. -/
theorem sandboxOf_roots {scope scope' : CapabilityScope}
    (h : canonicalCapabilityScope scope = canonicalCapabilityScope scope') :
    (sandboxOf scope).roots = (sandboxOf scope').roots := by
  simp only [canonicalCapabilityScope, CanonicalCapabilityScope.mk.injEq] at h
  obtain ⟨hread, hwrite, -⟩ := h
  have hroots : ∀ (scope : CapabilityScope) root, root ∈ (sandboxOf scope).roots ↔
      (root ∈ Text.trimmedSet scope.filesystem.readRoots ∨
        root ∈ Text.trimmedSet scope.filesystem.writeRoots) ∧ root.isEmpty = false := by
    intro scope root
    simp only [sandboxOf, List.mem_toFinset, List.mem_filter, List.mem_map, List.mem_append,
      Text.mem_trimmedSet, Bool.not_eq_true']
    constructor
    · rintro ⟨⟨value, hmem | hmem, rfl⟩, hempty⟩
      · exact ⟨Or.inl ⟨value, hmem, rfl⟩, hempty⟩
      · exact ⟨Or.inr ⟨value, hmem, rfl⟩, hempty⟩
    · rintro ⟨⟨value, hmem, rfl⟩ | ⟨value, hmem, rfl⟩, hempty⟩
      · exact ⟨⟨value, Or.inl hmem, rfl⟩, hempty⟩
      · exact ⟨⟨value, Or.inr hmem, rfl⟩, hempty⟩
  ext root
  rw [hroots scope root, hroots scope' root, hread, hwrite]

/-- The name of a variable has no blanks. -/
theorem trim_of_isValidEnvVarName {name : String} (h : isValidEnvVarName name = true) :
    Text.trim name = name := by
  apply Text.trim_eq_self
  intro c hc
  rw [isValidEnvVarName, Bool.and_eq_true, List.all_eq_true] at h
  have hchar := h.2 c hc
  simp only [Bool.or_eq_true, Bool.and_eq_true, decide_eq_true_eq, Char.le_def,
    UInt32.le_iff_toNat_le] at hchar
  have hrange : 48 ≤ c.toNat ∧ c.toNat ≤ 95 := by
    rcases hchar with (⟨hlow, hhigh⟩ | ⟨hlow, hhigh⟩) | rfl
    · exact ⟨le_trans (by decide) hlow, le_trans hhigh (by decide)⟩
    · exact ⟨le_trans (by decide) hlow, le_trans hhigh (by decide)⟩
    · decide
  simp only [Text.isWhitespace, Bool.or_eq_false_iff, Bool.and_eq_false_iff, decide_eq_false_iff_not]
  omega

/-- Variables that pass the check are on the allowlist. -/
theorem mem_allowlisted {allowlisted names : List String}
    (h : validateEnvironmentVariables allowlisted names = .ok ()) :
    ∀ name ∈ names, name ∈ allowlisted := by
  induction names with
  | nil => simp
  | cons first names ih =>
    unfold validateEnvironmentVariables at h
    rw [ensureNot_bind_eq_ok, ensureNot_bind_eq_ok] at h
    obtain ⟨-, hlisted, hrest⟩ := h
    intro name hname
    rcases List.mem_cons.mp hname with rfl | hmem
    · simpa using hlisted
    · exact ih hrest name hmem

section Validated

variable [GovernedActionServices]

/-- A scope that was validated asks for allowlisted variables. -/
theorem allowVariables_allowlisted {config : RuntimeConfig} {proposal : GovernedActionProposal}
    (h : validateCapabilityScope config proposal = .ok ()) :
    ∀ name ∈ proposal.capabilityScope.environment.allowVariables,
      name ∈ config.governedActions.allowlistedEnvironmentVariables := by
  unfold validateCapabilityScope at h
  dsimp only at h
  rw [ensureNot_bind_eq_ok, ensureNot_bind_eq_ok, ensureNot_bind_eq_ok] at h
  obtain ⟨-, -, -, h⟩ := h
  -- the limits on the execution are checked for commands only
  split at h <;>
  · obtain ⟨_, -, h⟩ := except_bind_eq_ok.mp h
    obtain ⟨-, h⟩ := ensureNot_bind_eq_ok.mp h
    obtain ⟨_, hvariables, -⟩ := except_bind_eq_ok.mp h
    exact mem_allowlisted hvariables

/-- Validated scopes with one canonical form give commands the same surroundings. -/
theorem sandboxOf_eq {config : RuntimeConfig}
    (hconfig : config.governedActions.EnvironmentNamesValid)
    {proposal proposal' : GovernedActionProposal}
    (hvalid : validateCapabilityScope config proposal = .ok ())
    (hvalid' : validateCapabilityScope config proposal' = .ok ())
    (h : canonicalCapabilityScope proposal.capabilityScope =
      canonicalCapabilityScope proposal'.capabilityScope) :
    sandboxOf proposal.capabilityScope = sandboxOf proposal'.capabilityScope := by
  have hroots := sandboxOf_roots h
  have hmem : ∀ {proposal : GovernedActionProposal} name,
      validateCapabilityScope config proposal = .ok () →
        (name ∈ (sandboxOf proposal.capabilityScope).environment ↔
          name ∈ (canonicalCapabilityScope proposal.capabilityScope).environmentVariables) := by
    intro proposal name hvalid
    have htrim : ∀ value ∈ proposal.capabilityScope.environment.allowVariables,
        Text.trim value = value := fun value hvalue =>
      trim_of_isValidEnvVarName (hconfig value (allowVariables_allowlisted hvalid value hvalue))
    simp only [sandboxOf, canonicalCapabilityScope, List.mem_toFinset, Text.mem_trimmedSet]
    constructor
    · exact fun hname => ⟨name, hname, htrim name hname⟩
    · rintro ⟨value, hvalue, rfl⟩
      rwa [htrim value hvalue]
  have henvironment : (sandboxOf proposal.capabilityScope).environment =
      (sandboxOf proposal'.capabilityScope).environment := by
    ext name
    rw [hmem name hvalid, hmem name hvalid', h]
  simp only [canonicalCapabilityScope, CanonicalCapabilityScope.mk.injEq] at h
  obtain ⟨-, -, hnetwork, -, htimeout, hstdout, hstderr⟩ := h
  have hexecution : proposal.capabilityScope.execution = proposal'.capabilityScope.execution := by
    cases hp : proposal.capabilityScope.execution
    cases hq : proposal'.capabilityScope.execution
    rw [hp, hq] at htimeout hstdout hstderr
    dsimp only at htimeout hstdout hstderr
    rw [htimeout, hstdout, hstderr]
  exact Sandbox.ext hroots henvironment hnetwork hexecution

/-! ## Fingerprints and effects -/

/-- A proposal that is validated when it is planned. -/
structure Validated (config : RuntimeConfig) (proposal : GovernedActionProposal) : Prop where
  shape : validateProposalShape proposal = .ok ()
  scope : validateCapabilityScope config proposal = .ok ()

/-- What the execution of a proposal dispatches. -/
def effectOf {Request : Type} (requestOf : String → Request) (proposal : GovernedActionProposal) :
    DispatchedEffect Request :=
  dispatchedEffect requestOf proposal.capabilityScope proposal.payload

/-- Validated proposals with one fingerprint dispatch the same effect exactly when they agree on
what is used as proposed. -/
theorem fingerprint_binds_effect_iff {Request : Type} (requestOf : String → Request)
    (config : RuntimeConfig) (hconfig : config.governedActions.EnvironmentNamesValid)
    (proposal proposal' : GovernedActionProposal) (hvalid : Validated config proposal)
    (hvalid' : Validated config proposal') (h : canonicalInput proposal = canonicalInput proposal') :
    effectOf requestOf proposal = effectOf requestOf proposal' ↔
      AgreeAsProposed requestOf proposal.payload proposal'.payload := by
  simp only [canonicalInput, CanonicalGovernedActionFingerprintInput.mk.injEq] at h
  obtain ⟨-, -, hscope, hpayload⟩ := h
  exact dispatchedEffect_eq_iff requestOf
    (sandboxOf_eq hconfig hvalid.scope hvalid'.scope hscope) hpayload

end Validated

/-- A proposal to run a command in the workspace. -/
def commandProposal (command : String) : GovernedActionProposal where
  proposalId := 1
  title := "run a command"
  rationale := none
  actionKind := .runSubprocess
  requestedRiskTier := none
  capabilityScope :=
    { filesystem := { readRoots := ["."] }
      execution := { timeoutMs := 1000, maxStdoutBytes := 1024, maxStderrBytes := 1024 } }
  payload := .runSubprocess { command := command, args := ["--all"], workingDirectory := none }

/-- A blank before a command is not in the fingerprint, and it is in the command. -/
theorem fingerprint_leaves_blanks_out :
    letI := plainServices
    Validated RuntimeConfig.shipped (commandProposal "run") ∧
      Validated RuntimeConfig.shipped (commandProposal " run") ∧
      canonicalInput (commandProposal "run") = canonicalInput (commandProposal " run") ∧
      effectOf id (commandProposal "run") ≠ effectOf id (commandProposal " run") := by
  let _services := plainServices
  refine ⟨⟨by rfl, by rfl⟩, ⟨by rfl, by rfl⟩, by rfl, ?_⟩
  intro h
  simp [effectOf, dispatchedEffect, commandProposal] at h

/-- The equivalence, for these two proposals. -/
theorem fingerprint_binds_effect_iff_commands :
    (effectOf id (commandProposal "run") = effectOf id (commandProposal " run") ↔
      AgreeAsProposed id (commandProposal "run").payload (commandProposal " run").payload) ∧
      ¬ AgreeAsProposed id (commandProposal "run").payload (commandProposal " run").payload := by
  let _services := plainServices
  have hnames : RuntimeConfig.shipped.governedActions.EnvironmentNamesValid := by
    unfold GovernedActionsConfig.EnvironmentNamesValid
    decide
  refine ⟨fingerprint_binds_effect_iff id RuntimeConfig.shipped hnames _ _ ⟨by rfl, by rfl⟩
    ⟨by rfl, by rfl⟩ (by rfl), ?_⟩
  simp [AgreeAsProposed, commandProposal]

end GovernedActions

end BlueLagoon
