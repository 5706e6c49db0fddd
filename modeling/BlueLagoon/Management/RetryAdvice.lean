import BlueLagoon.Management.Consistency

/-!
# The advice to retry

The loader gives the nodes of governed actions the kind `governed_action`; the diagnosis
looks for the kind `governed_action_execution`, which no loader writes. So no governed
action is seen: side effects are never reported, and a blocked action alone never makes
the verdict `Blocked`.
-/

namespace BlueLagoon.Management

variable {display : Display} {tables : TraceTables} {traceId : Uuid}
  {executionId lookupTrace : Option Uuid} {report : TraceReport}

/-- An action whose side effects have happened or may have. -/
def Touched (action : GovernedActionExecutionRecord) : Prop :=
  action.status = .executed ∨ action.status = .failed ∨ action.startedAt ≠ none

/-- The governed actions of a trace. -/
def actionsOf (tables : TraceTables) (traceId : Uuid) : List GovernedActionExecutionRecord :=
  tables.governedActionExecutions.filter fun row => row.traceId = traceId

/-- The approval requests of a trace. -/
def approvalsOf (tables : TraceTables) (traceId : Uuid) : List ApprovalRequestRecord :=
  tables.approvalRequests.filter fun row => row.traceId = traceId

/-- What an operator relies on before repeating a turn. -/
structure SoundAdvice (tables : TraceTables) (traceId : Uuid)
    (diagnosis : TraceDiagnosisSummary) : Prop where
  safe : diagnosis.retrySafety = .safe → ∀ action ∈ actionsOf tables traceId, ¬ Touched action
  noneExecuted : diagnosis.sideEffectStatus = .noneExecuted →
    ∀ action ∈ actionsOf tables traceId, ¬ Touched action
  blocked : (∃ action ∈ actionsOf tables traceId, action.status = .blocked) →
    (∀ approval ∈ approvalsOf tables traceId, approval.status ≠ .pending) →
      diagnosis.verdict = .blocked

/-! ## What the diagnosis sees of a loaded trace -/

/-- No loaded node is of the kind the diagnosis takes for a governed action. -/
theorem not_governedActionExecution {node : TraceNode}
    (h : node ∈ (traceReport display tables traceId executionId).nodes) :
    node.nodeKind ≠ "governed_action_execution" := by
  intro hkind
  have htraced := (identified_of_mem (mem_traceReport h)).1.1
  rw [hkind] at htraced
  exact absurd htraced (by decide)

theorem deriveSideEffectStatus_traceReport :
    deriveSideEffectStatus (traceReport display tables traceId executionId) = .noneExecuted := by
  have hnone : (traceReport display tables traceId executionId).nodes.filter
      (fun node => node.nodeKind = "governed_action_execution") = [] := by
    rw [List.filter_eq_nil_iff]
    intro node hnode
    simpa using not_governedActionExecution hnode
  unfold deriveSideEffectStatus
  rw [hnone, if_pos rfl]

theorem isPendingApproval_approvalNode {row : ApprovalRequestRecord} :
    isPendingApproval (approvalNode row) ↔ row.status = .pending := by
  cases hstatus : row.status <;>
    simp [isPendingApproval, approvalNode, TraceNode.statusIn, approvalRequestStatusText, hstatus]

theorem isBlocked_approvalNode {row : ApprovalRequestRecord} :
    isBlocked (approvalNode row) ↔ row.status = .rejected ∨ row.status = .expired := by
  cases hstatus : row.status <;>
    simp [isBlocked, approvalNode, TraceNode.statusIn, approvalRequestStatusText, hstatus]

/-- A loaded trace has a pending approval node when it has a pending approval. -/
theorem findPendingApprovalNode_traceReport :
    (findPendingApprovalNode (traceReport display tables traceId executionId)).isSome ↔
      ∃ approval ∈ approvalsOf tables traceId, approval.status = .pending := by
  rw [findPendingApprovalNode, List.find?_isSome]
  constructor
  · rintro ⟨node, hnode, hpending⟩
    obtain ⟨row, hrow, htrace, rfl⟩ :=
      approval_of_kind hnode (nodeKind_of_isPendingApproval hpending)
    exact ⟨row, List.mem_filter.mpr ⟨hrow, decide_eq_true htrace⟩,
      isPendingApproval_approvalNode.mp hpending⟩
  · rintro ⟨row, hrow, hpending⟩
    obtain ⟨hmem, htrace⟩ := List.mem_filter.mp hrow
    exact ⟨approvalNode row, approvalNode_mem_traceReport hmem (of_decide_eq_true htrace),
      isPendingApproval_approvalNode.mpr hpending⟩

/-- A loaded trace has a blocked node when one of its approvals was rejected or expired:
a blocked action makes none. -/
theorem findBlockedNode_traceReport :
    (findBlockedNode (traceReport display tables traceId executionId)).isSome ↔
      ∃ approval ∈ approvalsOf tables traceId,
        approval.status = .rejected ∨ approval.status = .expired := by
  rw [findBlockedNode, List.find?_isSome]
  constructor
  · rintro ⟨node, hnode, hblocked⟩
    have hkind := (nodeKind_of_isBlocked hblocked).resolve_left (not_governedActionExecution hnode)
    obtain ⟨row, hrow, htrace, rfl⟩ := approval_of_kind hnode hkind
    exact ⟨row, List.mem_filter.mpr ⟨hrow, decide_eq_true htrace⟩,
      isBlocked_approvalNode.mp hblocked⟩
  · rintro ⟨row, hrow, hblocked⟩
    obtain ⟨hmem, htrace⟩ := List.mem_filter.mp hrow
    exact ⟨approvalNode row, approvalNode_mem_traceReport hmem (of_decide_eq_true htrace),
      isBlocked_approvalNode.mpr hblocked⟩

/-- The verdict is `Blocked` exactly when there is a blocked node and no pending approval. -/
theorem deriveTraceVerdict_eq_blocked {pendingApproval blockedNode : Option TraceNode}
    {failureClass : Option TraceFailureClass} :
    deriveTraceVerdict report pendingApproval blockedNode failureClass = .blocked ↔
      ¬ pendingApproval.isSome ∧ blockedNode.isSome := by
  unfold deriveTraceVerdict
  split
  · rename_i hpending
    exact iff_of_false nofun fun h => h.1 hpending
  · rename_i hpending
    split
    · rename_i hblocked
      exact iff_of_true rfl ⟨hpending, hblocked⟩
    · rename_i hblocked
      refine iff_of_false ?_ fun h => hblocked h.2
      split
      · nofun
      · split <;> nofun

/-- The advice about a loaded trace is sound exactly when no action of the trace is
touched and a blocked action, with no approval pending, comes with an approval that was
rejected or has expired. -/
theorem soundAdvice_iff
    (hload : loadTraceReport display tables lookupTrace executionId = .ok report) :
    SoundAdvice tables report.traceId (diagnoseTraceReport display report) ↔
      (∀ action ∈ actionsOf tables report.traceId, ¬ Touched action) ∧
        ((∃ action ∈ actionsOf tables report.traceId, action.status = .blocked) →
          (∀ approval ∈ approvalsOf tables report.traceId, approval.status ≠ .pending) →
            ∃ approval ∈ approvalsOf tables report.traceId,
              approval.status = .rejected ∨ approval.status = .expired) := by
  obtain ⟨traceId, -, rfl⟩ := except_map_eq_ok.mp hload
  rw [traceId_traceReport]
  have heffects : (diagnoseTraceReport display
      (traceReport display tables traceId executionId)).sideEffectStatus = .noneExecuted :=
    deriveSideEffectStatus_traceReport
  have hverdict : (diagnoseTraceReport display
      (traceReport display tables traceId executionId)).verdict = .blocked ↔
      ¬ (∃ approval ∈ approvalsOf tables traceId, approval.status = .pending) ∧
        ∃ approval ∈ approvalsOf tables traceId,
          approval.status = .rejected ∨ approval.status = .expired :=
    deriveTraceVerdict_eq_blocked.trans
      (and_congr (not_congr findPendingApprovalNode_traceReport) findBlockedNode_traceReport)
  constructor
  · intro h
    refine ⟨h.noneExecuted heffects, fun hblocked hpending => ?_⟩
    exact (hverdict.mp (h.blocked hblocked hpending)).2
  · rintro ⟨huntouched, hblocked⟩
    refine ⟨fun _ => huntouched, fun _ => huntouched, fun hsome hpending => ?_⟩
    refine hverdict.mpr ⟨?_, hblocked hsome hpending⟩
    rintro ⟨approval, hmem, hstatus⟩
    exact hpending approval hmem hstatus

/-! ## A retry that repeats a side effect -/

/-- An action that listed the artifacts of the workspace. -/
def executedAction : GovernedActionExecutionRecord where
  governedActionExecutionId := 5
  traceId := 1
  executionId := some 2
  actionProposalId := 6
  actionFingerprint := ⟨"fingerprint"⟩
  actionKind := .listWorkspaceArtifacts
  riskTier := .tier0
  status := .executed
  capabilityScope :=
    { execution := { timeoutMs := 1000, maxStdoutBytes := 1000, maxStderrBytes := 1000 } }
  payload := .listWorkspaceArtifacts
    { artifactKind := none, status := .active, query := none, limit := 20 }
  startedAt := some 20
  completedAt := some 25
  createdAt := 15

/-- The record of a turn that failed. -/
def failedExecution : ExecutionRecord where
  executionId := 2
  traceId := 1
  triggerKind := "telegram_message"
  status := "failed"
  createdAt := 10

/-- The same action, blocked before it started because its approval was rejected. -/
def blockedAction : GovernedActionExecutionRecord :=
  { executedAction with
    approvalRequestId := some 8
    riskTier := .tier2
    status := .blocked
    blockedReason := some "approval was rejected"
    startedAt := none
    completedAt := none }

def rejectedApproval : ApprovalRequestRecord where
  approvalRequestId := 8
  traceId := 1
  executionId := some 2
  actionProposalId := 6
  actionFingerprint := ⟨"fingerprint"⟩
  actionKind := .listWorkspaceArtifacts
  riskTier := .tier2
  title := "List the artifacts"
  consequenceSummary := "reads the workspace"
  capabilityScope := executedAction.capabilityScope
  status := .rejected
  requestedBy := "conscious_worker"
  token := "token"
  requestedAt := 15
  expiresAt := 900
  resolvedAt := some 18

/-- A turn whose action was blocked with its approval. -/
def refusedTurn : TraceTables where
  executionRecords := [failedExecution]
  approvalRequests := [rejectedApproval]
  governedActionExecutions := [blockedAction]
  approvalKeys := by decide
  approvalBits := by decide

/-- The advice about a blocked action is sound: its approval makes the verdict. -/
theorem soundAdvice_iff_refusedTurn :
    blockedAction ∈ actionsOf refusedTurn 1 ∧
      SoundAdvice refusedTurn 1
        (diagnoseTraceReport errorDisplay (traceReport errorDisplay refusedTurn 1 none)) := by
  have hload : loadTraceReport errorDisplay refusedTurn (some 1) none =
      .ok (traceReport errorDisplay refusedTurn 1 none) := rfl
  have hsound := soundAdvice_iff hload
  rw [traceId_traceReport] at hsound
  refine ⟨List.mem_filter.mpr ⟨List.mem_cons_self, rfl⟩, hsound.mpr ⟨?_, ?_⟩⟩
  · intro action haction
    obtain rfl := List.mem_singleton.mp (List.mem_filter.mp haction).1
    rintro (⟨⟨⟩⟩ | ⟨⟨⟩⟩ | hstarted)
    exact hstarted rfl
  · intro _ _
    exact ⟨rejectedApproval, List.mem_filter.mpr ⟨List.mem_cons_self, rfl⟩, Or.inl rfl⟩

/-- A turn whose action was executed and whose next model call failed. -/
def failedTurn : TraceTables where
  executionRecords := [failedExecution]
  modelCallRecords :=
    [{ modelCallId := 7, traceId := 1, executionId := some 2, purpose := "foreground"
       taskClass := none, provider := "local", model := "model", inputTokens := none
       outputTokens := none, finishReason := none, status := "failed"
       errorSummary := some "transport error", startedAt := 30 }]
  approvalRequests := []
  governedActionExecutions := [executedAction]
  approvalKeys := List.nodup_nil
  approvalBits := by rintro row ⟨⟩

/-- The advice is that a retry is safe. -/
theorem failedTurn_unsound :
    (diagnoseTraceReport errorDisplay
        (traceReport errorDisplay failedTurn 1 none)).retrySafety = .safe ∧
      executedAction ∈ actionsOf failedTurn 1 ∧ Touched executedAction ∧
      ¬ SoundAdvice failedTurn 1
        (diagnoseTraceReport errorDisplay (traceReport errorDisplay failedTurn 1 none)) := by
  have hsafe : (diagnoseTraceReport errorDisplay
      (traceReport errorDisplay failedTurn 1 none)).retrySafety = .safe := by
    decide +kernel
  have hmem : executedAction ∈ actionsOf failedTurn 1 :=
    List.mem_filter.mpr ⟨List.mem_cons_self, rfl⟩
  have htouched : Touched executedAction := Or.inl rfl
  exact ⟨hsafe, hmem, htouched, fun h => h.safe hsafe executedAction hmem htouched⟩

end BlueLagoon.Management
