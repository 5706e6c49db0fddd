import BlueLagoon.Text
import Mathlib.Data.List.Forall2

/-!
# Contracts

The values the components of the harness exchange: governed-action proposals, their
payloads and scopes, fingerprints, approval requests and resolutions, ingress and
foreground triggers. Unsigned machine integers are `Nat`; a conversion that can fail
in the source is a check in the model.
-/

namespace BlueLagoon

/-- An identifier; only equality and, for tie-breaking `ORDER BY`, the order matter. -/
abbrev Uuid := Nat

/-- `Uuid::is_nil`. -/
def isNil (id : Uuid) : Bool := id = 0

/-- An instant, in microseconds, the resolution the database stores. -/
abbrev DateTime := Int

/-- `chrono::Duration::milliseconds`. -/
def milliseconds (ms : Int) : Int := 1000 * ms

/-- `chrono::Duration::seconds`. -/
def seconds (s : Int) : Int := 1000000 * s

/-- The largest value of an `i64`. -/
def i64Max : Nat := 9223372036854775807

/-- `i64::try_from` on an unsigned value. -/
def toI64 (n : Nat) : Option Int := if n ≤ i64Max then some n else none

/-- The chain of messages of an `anyhow::Error`, outermost first. -/
abbrev ErrorChain := List String

theorem except_bind_eq_ok {ε α β : Type} {x : Except ε α} {next : α → Except ε β} {b : β} :
    (x >>= next) = .ok b ↔ ∃ a, x = .ok a ∧ next a = .ok b := by
  cases x with
  | ok a => exact ⟨fun h => ⟨a, rfl, h⟩, fun ⟨_, ha, h⟩ => Except.ok.inj ha ▸ h⟩
  | error e => exact iff_of_false (by rintro ⟨⟩) (by rintro ⟨a, ha, -⟩; cases ha)

theorem except_map_eq_ok {ε α β : Type} {x : Except ε α} {f : α → β} {b : β} :
    x.map f = .ok b ↔ ∃ a, x = .ok a ∧ f a = b := by
  cases x with
  | ok a => exact ⟨fun h => ⟨a, rfl, Except.ok.inj h⟩, fun ⟨_, ha, h⟩ => by rw [ha, ← h]; rfl⟩
  | error e => exact iff_of_false (by rintro ⟨⟩) (by rintro ⟨a, ha, -⟩; cases ha)

/-- A loop that succeeds, element by element. -/
theorem except_mapM_eq_ok {ε α β : Type} {f : α → Except ε β} {list : List α}
    {results : List β} :
    list.mapM f = .ok results ↔ List.Forall₂ (fun a b => f a = .ok b) list results := by
  induction list generalizing results with
  | nil =>
    rw [List.mapM_nil, List.forall₂_nil_left_iff]
    constructor
    · intro h
      exact (Except.ok.inj h).symm
    · rintro rfl
      rfl
  | cons a list ih =>
    rw [List.mapM_cons, except_bind_eq_ok]
    constructor
    · rintro ⟨b, ha, hrest⟩
      obtain ⟨results', hlist, heq⟩ := except_bind_eq_ok.mp hrest
      obtain rfl := Except.ok.inj heq
      exact List.Forall₂.cons ha (ih.mp hlist)
    · intro h
      cases h with
      | cons ha hlist =>
        refine ⟨_, ha, ?_⟩
        rw [except_bind_eq_ok]
        exact ⟨_, ih.mpr hlist, rfl⟩

/-- What a loop that succeeds results in. -/
theorem mem_of_except_mapM {ε α β : Type} {f : α → Except ε β} {list : List α}
    {results : List β} (h : list.mapM f = .ok results) {b : β} :
    b ∈ results ↔ ∃ a ∈ list, f a = .ok b := by
  have hforall := except_mapM_eq_ok.mp h
  clear h
  induction hforall with
  | nil => simp
  | cons ha _ ih =>
    rw [List.mem_cons, List.exists_mem_cons_iff, ha]
    exact or_congr ⟨fun h => h ▸ rfl, fun h => (Except.ok.inj h).symm⟩ ih

/-- A loop succeeds if it does for every element. -/
theorem exists_except_mapM {ε α β : Type} {f : α → Except ε β} {list : List α} :
    (∃ results, list.mapM f = .ok results) ↔ ∀ a ∈ list, ∃ b, f a = .ok b := by
  simp only [except_mapM_eq_ok]
  induction list with
  | nil => simp
  | cons a list ih =>
    rw [List.forall_mem_cons, ← ih]
    constructor
    · rintro ⟨_, _ | ⟨ha, hlist⟩⟩
      exact ⟨⟨_, ha⟩, _, hlist⟩
    · rintro ⟨⟨b, ha⟩, results, hlist⟩
      exact ⟨b :: results, .cons ha hlist⟩
/-- A sequence of two steps that fails, fails in one of them. -/
theorem except_bind_eq_error {ε α β : Type} {x : Except ε α} {f : α → Except ε β} {e : ε} :
    x >>= f = .error e ↔ x = .error e ∨ ∃ a, x = .ok a ∧ f a = .error e := by
  cases x with
  | error e' =>
    refine ⟨fun h => Or.inl (congrArg Except.error (Except.error.inj h)), ?_⟩
    rintro (h | ⟨a, ⟨⟩, -⟩)
    exact congrArg Except.error (Except.error.inj h)
  | ok a =>
    constructor
    · exact fun h => Or.inr ⟨a, rfl, h⟩
    · rintro (⟨⟨⟩⟩ | ⟨a', ha, h⟩)
      obtain rfl := Except.ok.inj ha
      exact h

theorem except_map_eq_error {ε α β : Type} {x : Except ε α} {f : α → β} {e : ε} :
    x.map f = .error e ↔ x = .error e := by
  cases x with
  | error e' => exact ⟨fun h => congrArg Except.error (Except.error.inj h),
      fun h => congrArg Except.error (Except.error.inj h)⟩
  | ok a => exact iff_of_false (by rintro ⟨⟩) (by rintro ⟨⟩)

/-- `ToString for anyhow::Error`: the outermost message. -/
def errorText : ErrorChain → String
  | [] => ""
  | message :: _ => message

/-- `format_error_chain`. -/
def formatErrorChain (error : ErrorChain) : String := ": ".intercalate error

/-- A JSON document. -/
inductive Json
  | null
  | bool (value : Bool)
  | int (value : Int)
  | str (value : String)
  | uuid (value : Uuid)
  | time (value : DateTime)
  | arr (items : List Json)
  | obj (fields : List (String × Json))

/-- `Option` values are `null` when absent. -/
def Json.ofOption {α : Type} (encode : α → Json) : Option α → Json
  | none => .null
  | some a => encode a

/-- `Value::get` with a key. -/
def Json.get (key : String) : Json → Option Json
  | .obj fields => (fields.find? fun field => field.1 = key).map Prod.snd
  | _ => none

/-- `Value::as_str`. -/
def Json.asStr : Json → Option String
  | .str value => some value
  | _ => none

/-! ## Governed actions -/

/-- Risk tiers, from the least to the most risky. -/
inductive GovernedActionRiskTier
  | tier0
  | tier1
  | tier2
  | tier3
  deriving DecidableEq, Repr

namespace GovernedActionRiskTier

/-- The position of a tier in the derived order. -/
def rank : GovernedActionRiskTier → Nat
  | tier0 => 0
  | tier1 => 1
  | tier2 => 2
  | tier3 => 3

theorem rank_injective {a b : GovernedActionRiskTier} (h : a.rank = b.rank) : a = b := by
  cases a <;> cases b <;> first | rfl | cases h

instance : LinearOrder GovernedActionRiskTier where
  le a b := a.rank ≤ b.rank
  lt a b := a.rank < b.rank
  le_refl a := Nat.le_refl _
  le_trans a b c := Nat.le_trans
  lt_iff_le_not_ge a b := by omega
  le_antisymm a b hab hba := rank_injective (Nat.le_antisymm hab hba)
  le_total a b := Nat.le_total _ _
  toDecidableLE := fun a b => inferInstanceAs (Decidable (a.rank ≤ b.rank))
  toDecidableEq := inferInstance
  toDecidableLT := fun a b => inferInstanceAs (Decidable (a.rank < b.rank))

/-- `governed_action_risk_tier_as_str`. -/
def asStr : GovernedActionRiskTier → String
  | tier0 => "tier_0"
  | tier1 => "tier_1"
  | tier2 => "tier_2"
  | tier3 => "tier_3"

end GovernedActionRiskTier

inductive NetworkAccessPosture
  | disabled
  | allowlisted
  | enabled
  deriving DecidableEq, Repr

structure FilesystemCapabilityScope where
  readRoots : List String := []
  writeRoots : List String := []
  deriving DecidableEq, Repr

structure EnvironmentCapabilityScope where
  allowVariables : List String := []
  deriving DecidableEq, Repr

structure ExecutionCapabilityBudget where
  timeoutMs : Nat
  maxStdoutBytes : Nat
  maxStderrBytes : Nat
  deriving DecidableEq, Repr

/-- What a governed action may touch. -/
structure CapabilityScope where
  filesystem : FilesystemCapabilityScope := {}
  network : NetworkAccessPosture := .disabled
  environment : EnvironmentCapabilityScope := {}
  execution : ExecutionCapabilityBudget
  deriving DecidableEq, Repr

def NetworkAccessPosture.asStr : NetworkAccessPosture → String
  | disabled => "disabled"
  | allowlisted => "allowlisted"
  | enabled => "enabled"

inductive GovernedActionKind
  | inspectWorkspaceArtifact
  | listWorkspaceArtifacts
  | createWorkspaceArtifact
  | updateWorkspaceArtifact
  | listWorkspaceScripts
  | inspectWorkspaceScript
  | createWorkspaceScript
  | appendWorkspaceScriptVersion
  | listWorkspaceScriptRuns
  | upsertScheduledForegroundTask
  | requestBackgroundJob
  | runDiagnostic
  | runSubprocess
  | runWorkspaceScript
  | webFetch
  deriving DecidableEq, Repr

/-- `governed_action_kind_as_str`. -/
def GovernedActionKind.asStr : GovernedActionKind → String
  | inspectWorkspaceArtifact => "inspect_workspace_artifact"
  | listWorkspaceArtifacts => "list_workspace_artifacts"
  | createWorkspaceArtifact => "create_workspace_artifact"
  | updateWorkspaceArtifact => "update_workspace_artifact"
  | listWorkspaceScripts => "list_workspace_scripts"
  | inspectWorkspaceScript => "inspect_workspace_script"
  | createWorkspaceScript => "create_workspace_script"
  | appendWorkspaceScriptVersion => "append_workspace_script_version"
  | listWorkspaceScriptRuns => "list_workspace_script_runs"
  | upsertScheduledForegroundTask => "upsert_scheduled_foreground_task"
  | requestBackgroundJob => "request_background_job"
  | runDiagnostic => "run_diagnostic"
  | runSubprocess => "run_subprocess"
  | runWorkspaceScript => "run_workspace_script"
  | webFetch => "web_fetch"

inductive WorkspaceArtifactKind
  | note
  | runbook
  | scratchpad
  | taskList
  | script
  deriving DecidableEq, Repr

/-- The serialized name of an artifact kind. -/
def WorkspaceArtifactKind.asStr : WorkspaceArtifactKind → String
  | note => "note"
  | runbook => "runbook"
  | scratchpad => "scratchpad"
  | taskList => "task_list"
  | script => "script"

inductive WorkspaceArtifactStatusFilter
  | active
  | archived
  | any
  deriving DecidableEq, Repr

/-- The serialized name of a filter. -/
def WorkspaceArtifactStatusFilter.asStr : WorkspaceArtifactStatusFilter → String
  | active => "active"
  | archived => "archived"
  | any => "any"

inductive WorkspaceScriptRunStatus
  | pending
  | running
  | completed
  | failed
  | timedOut
  | blocked
  deriving DecidableEq, Repr

/-- The serialized name of a run status. -/
def WorkspaceScriptRunStatus.asStr : WorkspaceScriptRunStatus → String
  | pending => "pending"
  | running => "running"
  | completed => "completed"
  | failed => "failed"
  | timedOut => "timed_out"
  | blocked => "blocked"

inductive UnconsciousJobKind
  | memoryConsolidation
  | retrievalMaintenance
  | contradictionAndDriftScan
  | selfModelReflection
  deriving DecidableEq, Repr

/-- `job_kind_as_str`. -/
def UnconsciousJobKind.asStr : UnconsciousJobKind → String
  | memoryConsolidation => "memory_consolidation"
  | retrievalMaintenance => "retrieval_maintenance"
  | contradictionAndDriftScan => "contradiction_and_drift_scan"
  | selfModelReflection => "self_model_reflection"

inductive DiagnosticDocument
  | philosophy
  | requirements
  | implementationDesign
  | internalDocumentation
  | contextAssembly
  | governedActions
  deriving DecidableEq, Repr

/-- The serialized name of a document. -/
def DiagnosticDocument.asStr : DiagnosticDocument → String
  | philosophy => "philosophy"
  | requirements => "requirements"
  | implementationDesign => "implementation_design"
  | internalDocumentation => "internal_documentation"
  | contextAssembly => "context_assembly"
  | governedActions => "governed_actions"

inductive DiagnosticQuery
  | runtimeStatus
  | healthSummary
  | operationalDiagnostics (limit : Nat)
  | traceRecent (limit : Nat)
  | traceShow (traceId executionId : Option Uuid)
  | foregroundPending (limit : Nat)
  | foregroundSchedules (limit : Nat)
  | backgroundList (limit : Nat)
  | recoveryCheckpoints (openOnly : Bool) (limit : Nat)
  | recoveryLeases (limit softWarningThresholdPercent : Nat)
  | schemaStatus
  | schemaUpgradePath
  | approvalsList (limit : Nat)
  | actionsList (limit : Nat)
  | wakeSignalsList (limit : Nat)
  | identityStatus
  | identityShow
  | identityHistory (limit : Nat)
  | identityDiagnostics (limit : Nat)
  | workspaceArtifacts (limit : Nat)
  | workspaceScripts (limit : Nat)
  | workspaceRuns (scriptId : Option Uuid) (limit : Nat)
  | internalDoc (document : DiagnosticDocument)
  deriving DecidableEq, Repr

structure InspectWorkspaceArtifactAction where
  artifactId : Uuid
  artifactKind : WorkspaceArtifactKind
  deriving DecidableEq, Repr

structure ListWorkspaceArtifactsAction where
  artifactKind : Option WorkspaceArtifactKind
  status : WorkspaceArtifactStatusFilter
  query : Option String
  limit : Nat
  deriving DecidableEq, Repr

structure CreateWorkspaceArtifactAction where
  artifactKind : WorkspaceArtifactKind
  title : String
  contentText : String
  provenance : Option String
  deriving DecidableEq, Repr

structure UpdateWorkspaceArtifactAction where
  artifactId : Uuid
  expectedUpdatedAt : Option DateTime
  title : Option String
  contentText : String
  changeSummary : String
  deriving DecidableEq, Repr

structure ListWorkspaceScriptsAction where
  status : WorkspaceArtifactStatusFilter
  language : Option String
  query : Option String
  limit : Nat
  deriving DecidableEq, Repr

structure InspectWorkspaceScriptAction where
  scriptId : Uuid
  scriptVersionId : Option Uuid
  deriving DecidableEq, Repr

structure CreateWorkspaceScriptAction where
  title : String
  language : String
  contentText : String
  description : Option String
  requestedCapabilities : List String
  deriving DecidableEq, Repr

structure AppendWorkspaceScriptVersionAction where
  scriptId : Uuid
  expectedLatestVersionId : Option Uuid
  expectedContentSha256 : Option String
  language : String
  contentText : String
  changeSummary : String
  deriving DecidableEq, Repr

structure ListWorkspaceScriptRunsAction where
  scriptId : Uuid
  status : Option WorkspaceScriptRunStatus
  limit : Nat
  deriving DecidableEq, Repr

structure UpsertScheduledForegroundTaskAction where
  taskKey : String
  title : String
  userFacingPrompt : String
  nextDueAtUtc : Option DateTime
  cadenceSeconds : Nat
  cooldownSeconds : Option Nat
  internalPrincipalRef : String
  internalConversationRef : String
  active : Bool
  deriving DecidableEq, Repr

structure RequestBackgroundJobAction where
  jobKind : UnconsciousJobKind
  rationale : String
  inputScopeRef : Option String
  urgency : Option String
  wakePreference : Option String
  internalConversationRef : Option String
  deriving DecidableEq, Repr

structure RunDiagnosticAction where
  query : DiagnosticQuery
  deriving DecidableEq, Repr

structure SubprocessAction where
  command : String
  args : List String
  workingDirectory : Option String
  deriving DecidableEq, Repr

structure WorkspaceScriptAction where
  scriptId : Uuid
  scriptVersionId : Option Uuid
  args : List String
  deriving DecidableEq, Repr

structure WebFetchAction where
  url : String
  timeoutMs : Nat
  maxResponseBytes : Nat
  deriving DecidableEq, Repr

inductive GovernedActionPayload
  | inspectWorkspaceArtifact (action : InspectWorkspaceArtifactAction)
  | listWorkspaceArtifacts (action : ListWorkspaceArtifactsAction)
  | createWorkspaceArtifact (action : CreateWorkspaceArtifactAction)
  | updateWorkspaceArtifact (action : UpdateWorkspaceArtifactAction)
  | listWorkspaceScripts (action : ListWorkspaceScriptsAction)
  | inspectWorkspaceScript (action : InspectWorkspaceScriptAction)
  | createWorkspaceScript (action : CreateWorkspaceScriptAction)
  | appendWorkspaceScriptVersion (action : AppendWorkspaceScriptVersionAction)
  | listWorkspaceScriptRuns (action : ListWorkspaceScriptRunsAction)
  | upsertScheduledForegroundTask (action : UpsertScheduledForegroundTaskAction)
  | requestBackgroundJob (action : RequestBackgroundJobAction)
  | runDiagnostic (action : RunDiagnosticAction)
  | runSubprocess (action : SubprocessAction)
  | runWorkspaceScript (action : WorkspaceScriptAction)
  | webFetch (action : WebFetchAction)
  deriving DecidableEq, Repr

structure GovernedActionProposal where
  proposalId : Uuid
  title : String
  rationale : Option String
  actionKind : GovernedActionKind
  requestedRiskTier : Option GovernedActionRiskTier
  capabilityScope : CapabilityScope
  payload : GovernedActionPayload
  deriving DecidableEq, Repr

structure GovernedActionFingerprint where
  value : String
  deriving DecidableEq, Repr

inductive GovernedActionStatus
  | proposed
  | awaitingApproval
  | approved
  | rejected
  | expired
  | invalidated
  | blocked
  | executed
  | failed
  deriving DecidableEq, Repr

/-- `governed_action_status_as_str`. -/
def GovernedActionStatus.asStr : GovernedActionStatus → String
  | proposed => "proposed"
  | awaitingApproval => "awaiting_approval"
  | approved => "approved"
  | rejected => "rejected"
  | expired => "expired"
  | invalidated => "invalidated"
  | blocked => "blocked"
  | executed => "executed"
  | failed => "failed"

structure GovernedActionExecutionOutcome where
  status : GovernedActionStatus
  summary : String
  fingerprint : Option GovernedActionFingerprint
  outputRef : Option String
  deriving DecidableEq, Repr

structure GovernedActionObservation where
  observationId : Uuid
  actionKind : GovernedActionKind
  outcome : GovernedActionExecutionOutcome
  deriving DecidableEq, Repr

inductive GovernedActionCapExceededBehavior
  | escalate
  | alwaysApprove
  | alwaysDeny
  deriving DecidableEq, Repr

/-! ## Approvals -/

inductive ApprovalRequestStatus
  | pending
  | approved
  | rejected
  | expired
  | invalidated
  deriving DecidableEq, Repr

inductive ApprovalResolutionDecision
  | approved
  | rejected
  | expired
  | invalidated
  deriving DecidableEq, Repr

/-- How a cap behaviour is written in a payload. -/
def GovernedActionCapExceededBehavior.asStr : GovernedActionCapExceededBehavior → String
  | escalate => "escalate"
  | alwaysApprove => "always_approve"
  | alwaysDeny => "always_deny"

/-- `approval_resolution_to_status`. -/
def ApprovalResolutionDecision.toStatus : ApprovalResolutionDecision → ApprovalRequestStatus
  | approved => .approved
  | rejected => .rejected
  | expired => .expired
  | invalidated => .invalidated

/-- `approval_resolution_decision_as_str`. -/
def ApprovalResolutionDecision.asStr : ApprovalResolutionDecision → String
  | approved => "approved"
  | rejected => "rejected"
  | expired => "expired"
  | invalidated => "invalidated"

structure ApprovalResolutionEvent where
  resolutionId : Uuid
  approvalRequestId : Uuid
  decision : ApprovalResolutionDecision
  resolvedBy : String
  resolvedAt : DateTime
  reason : Option String
  deriving DecidableEq, Repr

/-! ## Foreground ingress -/

inductive ChannelKind
  | telegram
  deriving DecidableEq, Repr

/-- `channel_kind_as_str`. -/
def ChannelKind.asStr : ChannelKind → String
  | telegram => "telegram"

inductive IngressEventKind
  | messageCreated
  | commandIssued
  | approvalCallback
  deriving DecidableEq, Repr

/-- `ingress_event_kind_as_str`. -/
def IngressEventKind.asStr : IngressEventKind → String
  | messageCreated => "message_created"
  | commandIssued => "command_issued"
  | approvalCallback => "approval_callback"

structure CommandHint where
  command : String
  args : List String
  deriving DecidableEq, Repr

structure ApprovalPayload where
  token : String
  callbackData : Option String
  deriving DecidableEq, Repr

structure NormalizedIngress where
  ingressId : Uuid
  channelKind : ChannelKind
  externalUserId : String
  externalConversationId : String
  externalEventId : String
  externalMessageId : Option String
  internalPrincipalRef : String
  internalConversationRef : String
  eventKind : IngressEventKind
  occurredAt : DateTime
  textBody : Option String
  commandHint : Option CommandHint
  approvalPayload : Option ApprovalPayload
  rawPayloadRef : Option String
  deriving DecidableEq, Repr

structure ForegroundBudget where
  iterationBudget : Nat
  wallClockBudgetMs : Nat
  tokenBudget : Nat
  deriving DecidableEq, Repr

inductive ForegroundTriggerKind
  | userIngress
  | scheduledTask
  | approvedWakeSignal
  | supervisorRecoveryEvent
  | approvalResolutionEvent
  deriving DecidableEq, Repr

/-- The serialized name. -/
def ForegroundTriggerKind.asStr : ForegroundTriggerKind → String
  | userIngress => "user_ingress"
  | scheduledTask => "scheduled_task"
  | approvedWakeSignal => "approved_wake_signal"
  | supervisorRecoveryEvent => "supervisor_recovery_event"
  | approvalResolutionEvent => "approval_resolution_event"

inductive ForegroundExecutionMode
  | singleIngress
  | backlogRecovery
  deriving DecidableEq, Repr

structure ForegroundTrigger where
  triggerId : Uuid
  traceId : Uuid
  executionId : Uuid
  triggerKind : ForegroundTriggerKind
  ingress : NormalizedIngress
  receivedAt : DateTime
  deduplicationKey : String
  deriving DecidableEq, Repr

end BlueLagoon
