import BlueLagoon.GovernedActions.Effects
import BlueLagoon.Orchestration

/-!
# What a conscious turn touches

Planning, routing and executing actions, and launching the workers of a turn, work on
the records of actions, executions, approvals, leases and recovery. The conversations,
the ingress events, the episodes and the scripts of the workspace stay as they are. A turn also
leaves a few milestones in the log; everything else it logs is routine.
-/

namespace BlueLagoon

open Interleaving Harness

/-- An event that does not tell of a foreground execution and its ingress events. -/
def Event.Quiet : Event → Prop
  | .executionStarted _ | .planningRequested _ | .foregroundPlanned _ _ _
  | .ingressTakenOver _ => False
  | _ => True

/-- An event that is no milestone of a conscious turn, or of the execution it belongs to. -/
def Event.Routine : Event → Prop
  | .workerPassStarted | .workerRequested _ | .passObserved _ | .payloadDispatched _
  | .actionReturned _ _ => False
  | e => e.Quiet

/-- An event of a round of proposals, or one that is no milestone. -/
def Event.OfRound : Event → Prop
  | .workerPassStarted | .workerRequested _ | .passObserved _ => False
  | e => e.Quiet

theorem Event.OfRound.quiet {e : Event} (h : e.OfRound) : e.Quiet := by
  cases e <;> first | exact h | exact h.elim

theorem Event.Routine.ofRound {e : Event} (h : e.Routine) : e.OfRound := by
  cases e <;> first | exact h | trivial

/-- A step that leaves the tables no turn writes as they are, and emits `E`-events. -/
structure TurnStep (E : Event → Prop) (db db' : Database) (events : List Event) : Prop where
  conversationBindings : db'.conversationBindings = db.conversationBindings
  ingressEvents : db'.ingressEvents = db.ingressEvents
  executionIngressLinks : db'.executionIngressLinks = db.executionIngressLinks
  workspaceScripts : db'.workspaceScripts = db.workspaceScripts
  workspaceScriptVersions : db'.workspaceScriptVersions = db.workspaceScriptVersions
  episodes : db'.episodes = db.episodes
  episodeMessages : db'.episodeMessages = db.episodeMessages
  executions : Execution.Advances db.executionRecords db'.executionRecords
  events : ∀ e ∈ events, E e

/-- A step of a turn that is no milestone. -/
abbrev RoutineStep : Database → Database → List Event → Prop := TurnStep Event.Routine

namespace TurnStep

variable {E : Event → Prop}

/-- A step that changes none of the tables. -/
theorem emitting (db : Database) {events : List Event} (h : ∀ e ∈ events, E e) :
    TurnStep E db db events :=
  ⟨rfl, rfl, rfl, rfl, rfl, rfl, rfl, .refl _, h⟩

theorem refl (db : Database) : TurnStep E db db [] := emitting db (by simp)

/-- What emits fewer kinds of events is a step that may emit more. -/
theorem mono {E' : Event → Prop} (hE : ∀ e, E e → E' e) {db db' : Database} {events : List Event}
    (h : TurnStep E db db' events) : TurnStep E' db db' events :=
  { h with events := fun e he => hE e (h.events e he) }

theorem advancing (db : Database) (rows : List ExecutionRecord)
    (h : Execution.Advances db.executionRecords rows) :
    TurnStep E db { db with executionRecords := rows } [] :=
  ⟨rfl, rfl, rfl, rfl, rfl, rfl, rfl, h, by simp⟩

theorem audit (db : Database) (rows : List AuditEvent) :
    TurnStep E db { db with auditEvents := rows } [] :=
  ⟨rfl, rfl, rfl, rfl, rfl, rfl, rfl, .refl _, by simp⟩

theorem causalLinks (db : Database) (rows : List CausalLinkRecord) :
    TurnStep E db { db with causalLinks := rows } [] :=
  ⟨rfl, rfl, rfl, rfl, rfl, rfl, rfl, .refl _, by simp⟩

theorem runs (db : Database) (rows : List WorkspaceScriptRunRecord) :
    TurnStep E db { db with workspaceScriptRuns := rows } [] :=
  ⟨rfl, rfl, rfl, rfl, rfl, rfl, rfl, .refl _, by simp⟩

theorem leases (db : Database) (rows : List WorkerLeaseRecord) :
    TurnStep E db { db with workerLeases := rows } [] :=
  ⟨rfl, rfl, rfl, rfl, rfl, rfl, rfl, .refl _, by simp⟩

theorem records (db : Database) (rows : List GovernedActionExecutionRecord)
    {events : List Event} (h : ∀ e ∈ events, E e) :
    TurnStep E db { db with governedActionExecutions := rows } events :=
  ⟨rfl, rfl, rfl, rfl, rfl, rfl, rfl, .refl _, h⟩

theorem triggers : Recovery.Tolerates RoutineStep := by
  rintro db checkpoints diagnostics events hevents
  refine ⟨rfl, rfl, rfl, rfl, rfl, rfl, rfl, .refl _, fun e he => ?_⟩
  rcases hevents with rfl | ⟨id, rfl⟩
  · simp at he
  · obtain rfl : e = .checkpointOpened id := by simpa using he
    trivial

theorem executor (record : GovernedActionExecutionRecord) :
    GovernedActions.AllowsExecutor RoutineStep (fun _ => True) record where
  executions := advancing
  runs := runs
  audit := audit
  started := fun db _ _ => emitting db (by simp [Event.Routine, Event.Quiet])
  settled := fun _ db _ _ _ _ _ => records db _ (by simp [Event.Routine, Event.Quiet])

end TurnStep

/-! ## Worker leases -/

namespace Recovery

theorem createWorkerLease_routine (lease : NewWorkerLease) :
    (createWorkerLease lease).Confined (OnDb RoutineStep) := by
  refine Prog.Confined.bind (Prog.confined_ofExcept _) fun _ => ?_
  refine Prog.Confined.bind (confined_execute TurnStep.refl ?_) fun _ =>
    confined_fetchOne TurnStep.refl
  intro now db effect hbody
  split at hbody
  · cases hbody
  · obtain rfl := Except.ok.inj hbody
    exact TurnStep.leases db _

/-- A statement on the active leases. -/
theorem changeActiveLeases_routine {message : String}
    {which : DateTime → WorkerLeaseRecord → Bool}
    {change : DateTime → WorkerLeaseRecord → WorkerLeaseRecord} :
    (execute message fun now db => changeActiveLeases (which now) (change now) db).Confined
      (OnDb RoutineStep) := by
  refine confined_execute TurnStep.refl fun now db effect hbody => ?_
  obtain rfl := changeActiveLeases_eq_ok hbody
  exact TurnStep.leases db _

theorem refreshWorkerLeaseProgress_routine (workerLeaseId : Uuid) (heartbeatAt : DateTime) :
    (refreshWorkerLeaseProgress workerLeaseId heartbeatAt).Confined (OnDb RoutineStep) := by
  refine Prog.Confined.bind (confined_fetchOne TurnStep.refl) fun lease => ?_
  split
  · exact Prog.confined_fail _
  · dsimp only
    split
    · exact Prog.confined_fail _
    · unfold refreshWorkerLease
      split
      · exact Prog.confined_fail _
      · exact Prog.Confined.bind changeActiveLeases_routine fun _ =>
          confined_fetchOne TurnStep.refl

theorem releaseWorkerLease_routine (workerLeaseId : Uuid) (releasedAt : DateTime) :
    (releaseWorkerLease workerLeaseId releasedAt).Confined (OnDb RoutineStep) :=
  Prog.Confined.bind changeActiveLeases_routine fun _ => confined_fetchOne TurnStep.refl

theorem terminateActiveWorkerLease_routine (workerLeaseId : Uuid) (terminatedAt : DateTime) :
    (terminateActiveWorkerLease workerLeaseId terminatedAt).Confined (OnDb RoutineStep) := by
  refine Prog.Confined.bind changeActiveLeases_routine fun rows => ?_
  split
  · exact Prog.confined_ret _
  · exact Prog.Confined.bind (confined_fetchOne TurnStep.refl) fun _ => Prog.confined_fail _

/-! ## Recovery -/

theorem reconcileGovernedActionRecovery_routine (context : GovernedActionRecoveryContext)
    (decision : RecoveryDecision) (policyState : RecoveryPolicyState) (now : DateTime)
    (summary : String) :
    (reconcileGovernedActionRecovery context decision policyState now summary).Confined
      (OnDb RoutineStep) := by
  refine reconcileGovernedActionRecovery_confined TurnStep.runs context decision policyState now
    summary fun status blockedReason completedAt _ _ => ?_
  refine GovernedActions.updateGovernedActionExecution_confined TurnStep.refl ?_
  exact fun _ db _ _ _ => TurnStep.records db _ (by simp [Event.Routine, Event.Quiet])

theorem recoverGovernedActionWorkerLeaseTimeout_routine (lease : WorkerLeaseRecord)
    (now : DateTime) (source diagnosticReasonCode : String)
    (diagnosticSeverity : OperationalDiagnosticSeverity) (errorMessage : Option String) :
    (recoverGovernedActionWorkerLeaseTimeout lease now source diagnosticReasonCode
      diagnosticSeverity errorMessage).Confined (OnDb RoutineStep) := by
  have refl : ∀ db, RoutineStep db db [] := TurnStep.refl
  refine confined_expect_bind fun _ _ => ?_
  refine Prog.Confined.bind (confined_fetchOne refl) fun record => ?_
  refine Prog.Confined.bind (loadGovernedActionRecoveryContext_confined refl _ _ _) fun _ => ?_
  refine Prog.Confined.bind (confined_newUuid refl) fun _ => ?_
  refine Prog.Confined.bind (createRecoveryCheckpoint_confined TurnStep.triggers _) fun _ => ?_
  refine Prog.Confined.bind (Prog.confined_ofExcept _) fun _ => ?_
  refine Prog.Confined.bind (resolveRecoveryCheckpoint_confined TurnStep.triggers _) fun _ => ?_
  refine Prog.Confined.bind (reconcileGovernedActionRecovery_routine _ _ _ _ _) fun _ => ?_
  refine Prog.Confined.bind
    (GovernedActions.writeGovernedActionAuditEvent_confined TurnStep.audit _ _ _ _) fun _ => ?_
  refine Prog.Confined.bind (confined_newUuid refl) fun _ => ?_
  exact Prog.Confined.bind (insertOperationalDiagnostic_confined TurnStep.triggers _)
    fun _ => Prog.confined_ret _

theorem recoverWorkerLeaseTimeout_routine (lease : WorkerLeaseRecord) (now : DateTime)
    (source diagnosticReasonCode : String) (diagnosticSeverity : OperationalDiagnosticSeverity)
    (errorMessage : Option String) :
    (recoverWorkerLeaseTimeout lease now source diagnosticReasonCode diagnosticSeverity
      errorMessage).Confined (OnDb RoutineStep) := by
  have refl : ∀ db, RoutineStep db db [] := TurnStep.refl
  unfold recoverWorkerLeaseTimeout
  split
  · exact recoverGovernedActionWorkerLeaseTimeout_routine _ _ _ _ _ _
  · refine Prog.Confined.bind (confined_newUuid refl) fun _ => ?_
    refine Prog.Confined.bind (createRecoveryCheckpoint_confined TurnStep.triggers _)
      fun _ => ?_
    refine Prog.Confined.bind (Prog.confined_ofExcept _) fun _ => ?_
    refine Prog.Confined.bind (resolveRecoveryCheckpoint_confined TurnStep.triggers _)
      fun _ => ?_
    refine Prog.Confined.bind (confined_newUuid refl) fun _ => ?_
    exact Prog.Confined.bind (insertOperationalDiagnostic_confined TurnStep.triggers _)
      fun _ => Prog.confined_ret _

theorem recoverObservedWorkerTimeout_routine (workerLeaseId : Uuid) (now : DateTime)
    (observedSource errorMessage : String) :
    (recoverObservedWorkerTimeout workerLeaseId now observedSource errorMessage).Confined
      (OnDb RoutineStep) := by
  unfold recoverObservedWorkerTimeout
  split
  · exact Prog.confined_fail _
  · split
    · exact Prog.confined_fail _
    · exact Prog.Confined.bind (terminateActiveWorkerLease_routine _ _) fun _ =>
        recoverWorkerLeaseTimeout_routine _ _ _ _ _ _

theorem recoverGovernedActionPolicyRecheckFailure_routine
    (record : GovernedActionExecutionRecord) (now : DateTime) (failureSummary : String) :
    (recoverGovernedActionPolicyRecheckFailure record now failureSummary).Confined
      (OnDb RoutineStep) := by
  have refl : ∀ db, RoutineStep db db [] := TurnStep.refl
  unfold recoverGovernedActionPolicyRecheckFailure
  split
  · exact Prog.confined_fail _
  · refine Prog.Confined.bind (loadGovernedActionRecoveryContext_confined refl _ _ _)
      fun _ => ?_
    refine Prog.Confined.bind (Prog.confined_ofExcept _) fun _ => ?_
    refine Prog.Confined.bind (confined_newUuid refl) fun _ => ?_
    refine Prog.Confined.bind (createRecoveryCheckpoint_confined TurnStep.triggers _)
      fun _ => ?_
    refine Prog.Confined.bind (resolveRecoveryCheckpoint_confined TurnStep.triggers _)
      fun _ => ?_
    refine Prog.Confined.bind (reconcileGovernedActionRecovery_routine _ _ _ _ _) fun _ => ?_
    refine Prog.Confined.bind
      (GovernedActions.writeGovernedActionAuditEvent_confined TurnStep.audit _ _ _ _)
      fun _ => ?_
    refine Prog.Confined.bind (confined_newUuid refl) fun _ => ?_
    exact Prog.Confined.bind (insertOperationalDiagnostic_confined TurnStep.triggers _)
      fun _ => Prog.confined_ret _

end Recovery

/-! ## Planning and starting an action -/

namespace GovernedActions

theorem updateGovernedActionExecution_routine (update : GovernedActionExecutionUpdate)
    {events : List Event} (h : ∀ e ∈ events, e.Routine) :
    (updateGovernedActionExecution update events).Confined (OnDb RoutineStep) :=
  updateGovernedActionExecution_confined TurnStep.refl fun _ db _ _ _ => TurnStep.records db _ h

theorem persistGovernedActionExecution_routine (request : GovernedActionPlanningRequest)
    (actionFingerprint : GovernedActionFingerprint) (riskTier : GovernedActionRiskTier)
    (status : GovernedActionStatus) (blockedReason : Option String) :
    (persistGovernedActionExecution request actionFingerprint riskTier status
      blockedReason).Confined (OnDb RoutineStep) := by
  refine confined_execute TurnStep.refl fun now db effect hbody => ?_
  unfold insertRecord at hbody
  split at hbody
  · cases hbody
  · split at hbody
    · cases hbody
    · obtain rfl := Except.ok.inj hbody
      exact TurnStep.records db _ (by simp [Event.Routine, Event.Quiet])

theorem attachApprovalRequest_routine (governedActionExecutionId approvalRequestId : Uuid) :
    (attachApprovalRequest governedActionExecutionId approvalRequestId).Confined
      (OnDb RoutineStep) := by
  refine Prog.Confined.bind (confined_execute TurnStep.refl ?_) fun _ => ?_
  · intro now db effect hbody
    rcases changeRecord_eq_ok hbody with ⟨hdb, hevents⟩ | ⟨row, hrow, hvalid, hdb, hevents⟩
    · rw [hdb, hevents]
      exact TurnStep.refl db
    · rw [hdb, hevents]
      exact TurnStep.records db _ (by simp [Event.Routine, Event.Quiet])
  · refine Prog.Confined.bind (confined_fetchOne TurnStep.refl) fun record => ?_
    exact Prog.Confined.bind (CausalLinks.insert_confined TurnStep.causalLinks _)
      fun _ => Prog.confined_ret _

theorem writeGovernedActionAuditEvent_routine (record : GovernedActionExecutionRecord)
    (eventKind severity : String) (payload : Json) :
    (writeGovernedActionAuditEvent record eventKind severity payload).Confined
      (OnDb RoutineStep) :=
  writeGovernedActionAuditEvent_confined TurnStep.audit _ _ _ _

theorem governedActionExecutionResult_routine (record : GovernedActionExecutionRecord)
    (outcome : GovernedActionExecutionOutcome) (scriptRun : Option WorkspaceScriptRunRecord) :
    (governedActionExecutionResult record outcome scriptRun).Confined (OnDb RoutineStep) :=
  Prog.Confined.bind (confined_newUuid TurnStep.refl) fun _ => Prog.confined_ret _

theorem blockOnPolicyRecheck_routine (record : GovernedActionExecutionRecord)
    (error : ErrorChain) :
    (blockOnPolicyRecheck record error).Confined (OnDb RoutineStep) := by
  refine Prog.Confined.bind (confined_utcNow TurnStep.refl) fun completedAt => ?_
  refine Prog.Confined.bind
    (updateGovernedActionExecution_routine _ (by simp [Event.Routine, Event.Quiet])) fun record => ?_
  refine Prog.Confined.bind (writeGovernedActionAuditEvent_routine _ _ _ _) fun _ => ?_
  refine Prog.Confined.bind (Prog.Confined.mapError
    (Recovery.recoverGovernedActionPolicyRecheckFailure_routine _ _ _)) fun _ => ?_
  exact governedActionExecutionResult_routine _ _ _

theorem startExecution_routine (record : GovernedActionExecutionRecord) :
    (startExecution record).Confined (OnDb RoutineStep) := by
  refine Prog.Confined.bind (confined_newUuid TurnStep.refl) fun executionId => ?_
  refine Prog.Confined.bind (Execution.insert_confined TurnStep.advancing _) fun _ => ?_
  refine Prog.Confined.bind (confined_utcNow TurnStep.refl) fun startedAt => ?_
  refine Prog.Confined.bind (updateGovernedActionExecution_routine _ (by simp)) fun _ => ?_
  exact Prog.Confined.bind (writeGovernedActionAuditEvent_routine _ _ _ _)
    fun _ => Prog.confined_ret _

theorem createGovernedActionWorkerLease_routine (record : GovernedActionExecutionRecord)
    (startedAt : DateTime) (timeoutMs : Nat) :
    (createGovernedActionWorkerLease record startedAt timeoutMs).Confined
      (OnDb RoutineStep) := by
  refine Prog.Confined.bind (confined_expect _) fun _ => ?_
  refine Prog.Confined.bind (confined_newUuid TurnStep.refl) fun _ => ?_
  refine Prog.Confined.bind (confined_newUuid TurnStep.refl) fun _ => ?_
  exact Recovery.createWorkerLease_routine _

theorem completeLease_routine (workerLeaseId : Uuid)
    (result : Except ErrorChain GovernedActionExecutionResult) :
    (completeLease workerLeaseId result).Confined (OnDb RoutineStep) := by
  have release : ∀ progressed, (releaseLease workerLeaseId progressed).Confined
      (OnDb RoutineStep) := by
    intro progressed
    refine Prog.Confined.bind ?_ fun _ => ?_
    · unfold refreshAfterProgress
      split
      · refine Prog.Confined.bind (confined_utcNow TurnStep.refl) fun _ => ?_
        exact Prog.Confined.bind (Prog.Confined.mapError
          (Recovery.refreshWorkerLeaseProgress_routine _ _)) fun _ => Prog.confined_ret _
      · exact Prog.confined_ret _
    · refine Prog.Confined.bind (confined_utcNow TurnStep.refl) fun _ => ?_
      exact Prog.Confined.bind (Prog.Confined.attempt (Recovery.releaseWorkerLease_routine _ _))
        fun _ => Prog.confined_ret _
  cases result with
  | error e => exact release false
  | ok result =>
    show (if governedActionResultIsTimeout result then _ else _ : Harness _).Confined _
    split
    · refine Prog.Confined.bind (confined_utcNow TurnStep.refl) fun _ => ?_
      exact Prog.Confined.bind (Prog.Confined.attempt (Prog.Confined.mapError
        (Recovery.recoverObservedWorkerTimeout_routine _ _ _ _))) fun _ => Prog.confined_ret _
    · exact release true

section Policy

variable [GovernedActionServices]

theorem validateGovernedActionPolicy_routine (config : RuntimeConfig)
    (proposal : GovernedActionProposal) :
    (validateGovernedActionPolicy config proposal).Confined (OnDb RoutineStep) := by
  refine Prog.Confined.bind (Prog.confined_ofExcept _) fun _ => ?_
  refine Prog.Confined.bind
    (Identity.reconstructCompactIdentitySnapshot_confined TurnStep.refl _) fun identity => ?_
  split
  · exact Prog.confined_ret _
  · exact Prog.confined_fail _

theorem planGovernedAction_routine (config : RuntimeConfig)
    (request : GovernedActionPlanningRequest) :
    (planGovernedAction config request).Confined (OnDb RoutineStep) := by
  refine Prog.Confined.bind (Prog.confined_ofExcept _) fun _ => ?_
  refine Prog.Confined.bind (Prog.Confined.attempt (validateGovernedActionPolicy_routine _ _))
    fun validation => ?_
  refine Prog.Confined.bind (persistGovernedActionExecution_routine _ _ _ _ _) fun _ => ?_
  refine Prog.Confined.bind (confined_fetchOne TurnStep.refl) fun record => ?_
  refine Prog.Confined.bind ?_ fun _ => ?_
  · unfold linkPlanningExecution
    split
    · exact Prog.confined_ret _
    · exact Prog.Confined.bind (CausalLinks.insert_confined TurnStep.causalLinks _)
        fun _ => Prog.confined_ret _
  · refine Prog.Confined.bind (Audit.insert_confined TurnStep.audit _) fun _ => ?_
    dsimp only
    split <;> exact Prog.confined_ret _

end Policy

end GovernedActions

/-! ## Approvals -/

namespace Approval

theorem createApprovalRequest_routine (config : RuntimeConfig)
    (request : NewApprovalRequestRecord) :
    (createApprovalRequest config request).Confined (OnDb RoutineStep) := by
  have refl : ∀ db, RoutineStep db db [] := TurnStep.refl
  refine Prog.Confined.bind (Prog.confined_ofExcept _) fun _ => ?_
  refine Prog.Confined.bind (Prog.Confined.bind (confined_transaction refl ?_) fun _ => ?_)
    fun _ => ?_
  · intro now db effect hbody
    obtain rfl := Except.ok.inj hbody
    exact TurnStep.emitting db (by simp [Event.Routine, Event.Quiet])
  · split
    · exact Prog.confined_fail _
    · exact Prog.confined_ret _
  · refine Prog.Confined.bind (confined_newUuid refl) fun _ => ?_
    refine Prog.Confined.bind (confined_transaction refl ?_) fun _ => confined_fetchOne refl
    intro now db effect hbody
    unfold createRequest at hbody
    split at hbody
    · cases hbody
    · obtain rfl := Except.ok.inj hbody
      exact ⟨rfl, rfl, rfl, rfl, rfl, rfl, rfl, .refl _, by simp [Event.Routine, Event.Quiet]⟩

end Approval

namespace Orchestration

theorem routeGovernedActionForApproval_routine (config : RuntimeConfig)
    (trigger : ForegroundTrigger) (proposal : GovernedActionProposal)
    (record : GovernedActionExecutionRecord) (title consequenceSummary : String) :
    (routeGovernedActionForApproval config trigger proposal record title
      consequenceSummary).Confined (OnDb RoutineStep) := by
  have refl : ∀ db, RoutineStep db db [] := TurnStep.refl
  refine Prog.Confined.bind (Prog.Confined.bind (confined_fetch refl) fun pending => ?_)
    fun approvalRequest => ?_
  · cases pending with
    | some existing => exact Prog.confined_ret _
    | none =>
      refine Prog.Confined.bind (confined_newUuid refl) fun _ => ?_
      refine Prog.Confined.bind (confined_newUuid refl) fun _ => ?_
      refine Prog.Confined.bind (confined_expect _) fun _ => ?_
      exact Approval.createApprovalRequest_routine _ _
  · refine Prog.Confined.bind (GovernedActions.attachApprovalRequest_routine _ _) fun _ => ?_
    refine Prog.Confined.bind (confined_utcNow refl) fun _ => ?_
    refine Prog.Confined.bind (Prog.Confined.mapError
      (Recovery.recoverApprovalRequestTransition_confined TurnStep.triggers _ _ _ _))
      fun _ => ?_
    refine Prog.Confined.bind (Prog.confined_ofExcept _) fun _ => ?_
    refine Prog.Confined.bind (Prog.confined_ofExcept _) fun _ => ?_
    exact Prog.Confined.bind (fun answer => Prog.confined_ofExcept (S := system) answer)
      fun _ => Prog.confined_ret _

/-! ## The action cap -/

theorem denyAtCap_routine (config : RuntimeConfig) (tracker : ForegroundActionLoopTracker)
    (record : GovernedActionExecutionRecord) :
    (denyAtCap config tracker record).Confined (OnDb RoutineStep) := by
  refine Prog.Confined.bind
    (GovernedActions.updateGovernedActionExecution_routine _ (by simp)) fun _ => ?_
  refine Prog.Confined.bind (GovernedActions.writeGovernedActionAuditEvent_routine _ _ _ _)
    fun _ => ?_
  exact Prog.Confined.bind (confined_newUuid TurnStep.refl) fun _ => Prog.confined_ret _

theorem escalateAtCap_routine (config : RuntimeConfig) (tracker : ForegroundActionLoopTracker)
    (record : GovernedActionExecutionRecord) (requiresApproval : Bool) :
    (escalateAtCap config tracker record requiresApproval).Confined (OnDb RoutineStep) := by
  refine Prog.Confined.bind (Prog.Confined.emit fun w => ?_) fun _ => ?_
  · exact OnDb.emit (TurnStep.emitting w.db (by simp [Event.Routine, Event.Quiet]))
  · split
    · exact Prog.confined_ret _
    · refine Prog.Confined.bind
        (GovernedActions.updateGovernedActionExecution_routine _ (by simp)) fun _ => ?_
      exact GovernedActions.writeGovernedActionAuditEvent_routine _ _ _ _

/-! ## Conscious workers -/

theorem launchLeasedConsciousWorker_routine (trigger : ForegroundTrigger)
    (observations : List GovernedActionObservation) (timeoutMs : Nat) :
    (launchLeasedConsciousWorker trigger observations timeoutMs).Confined
      (OnDb RoutineStep) := by
  have refl : ∀ db, RoutineStep db db [] := TurnStep.refl
  have release : ∀ (message : String) id releasedAt,
      (context message (Recovery.releaseWorkerLease id releasedAt)).Confined
        (OnDb RoutineStep) :=
    fun _ _ _ => Prog.Confined.mapError (Recovery.releaseWorkerLease_routine _ _)
  refine Prog.Confined.bind (confined_utcNow refl) fun _ => ?_
  refine Prog.Confined.bind (confined_expect _) fun _ => ?_
  refine Prog.Confined.bind (confined_newUuid refl) fun _ => ?_
  refine Prog.Confined.bind (confined_newUuid refl) fun _ => ?_
  refine Prog.Confined.bind (Recovery.createWorkerLease_routine _) fun workerLease => ?_
  refine Prog.Confined.bind (fun _ => trivial) fun response => ?_
  cases response with
  | ok response =>
    refine Prog.Confined.bind (confined_utcNow refl) fun _ => ?_
    refine Prog.Confined.bind (Prog.Confined.mapError
      (Recovery.refreshWorkerLeaseProgress_routine _ _)) fun _ => ?_
    refine Prog.Confined.bind (confined_utcNow refl) fun _ => ?_
    exact Prog.Confined.bind (release _ _ _) fun _ => Prog.confined_ret _
  | error error =>
    dsimp only [completeConsciousLease]
    split
    · refine Prog.Confined.bind (confined_utcNow refl) fun _ => ?_
      exact Prog.Confined.bind (Prog.Confined.mapError
        (Recovery.recoverObservedWorkerTimeout_routine _ _ _ _)) fun _ => Prog.confined_fail _
    · refine Prog.Confined.bind (confined_utcNow refl) fun _ => ?_
      exact Prog.Confined.bind (release _ _ _) fun _ => Prog.confined_fail _

end Orchestration

/-! ## Rounds of proposals -/

/-- A routine program is one a round may run. -/
theorem confined_ofRound {α : Type} {p : Harness α} (hp : p.Confined (OnDb RoutineStep)) :
    p.Confined (OnDb (TurnStep Event.OfRound)) :=
  hp.mono fun _ _ _ h => ⟨h.1.mono fun _ => Event.Routine.ofRound, h.2⟩

section Rounds

variable [GovernedActionServices]

theorem GovernedActions.executeGovernedAction_ofRound (config : RuntimeConfig)
    (record : GovernedActionExecutionRecord) :
    (executeGovernedAction config record).Confined (OnDb (TurnStep Event.OfRound)) := by
  unfold executeGovernedAction
  refine Prog.Confined.bind
    (confined_ofRound (Prog.Confined.attempt (validateGovernedActionPolicy_routine _ _)))
    fun validation => ?_
  cases validation with
  | error error => exact confined_ofRound (blockOnPolicyRecheck_routine _ _)
  | ok _ =>
    refine Prog.Confined.bind (confined_ofRound (startExecution_routine record)) fun started => ?_
    refine Prog.Confined.bind
      (confined_ofRound (createGovernedActionWorkerLease_routine _ _ _)) fun workerLease => ?_
    refine Prog.Confined.bind (Prog.Confined.emit fun w => ?_) fun _ => ?_
    · exact OnDb.emit (TurnStep.emitting w.db (by simp [Event.OfRound, Event.Quiet]))
    · refine Prog.Confined.bind (confined_ofRound
        (Prog.Confined.attempt ((TurnStep.executor started.1).executePayload config)))
        fun result => ?_
      exact Prog.Confined.bind (confined_ofRound (completeLease_routine _ _)) fun _ =>
        Prog.confined_ofExcept _

namespace Orchestration

theorem routeOrExecute_ofRound (config : RuntimeConfig) (trigger : ForegroundTrigger)
    (proposal : GovernedActionProposal) (record : GovernedActionExecutionRecord)
    (requiresApproval : Bool) (title consequenceSummary : String) (state : ProcessingState) :
    (routeOrExecute config trigger proposal record requiresApproval title consequenceSummary
      state).Confined (OnDb (TurnStep Event.OfRound)) := by
  unfold routeOrExecute
  split
  · exact Prog.Confined.bind
      (confined_ofRound (routeGovernedActionForApproval_routine _ _ _ _ _ _)) fun _ =>
        Prog.confined_ret _
  · refine Prog.Confined.bind (GovernedActions.executeGovernedAction_ofRound _ _) fun executed => ?_
    refine Prog.Confined.bind (Prog.Confined.emit fun w => ?_) fun _ => Prog.confined_ret _
    exact OnDb.emit (TurnStep.emitting w.db (by simp [Event.OfRound, Event.Quiet]))

theorem processPlanned_ofRound (config : RuntimeConfig) (trigger : ForegroundTrigger)
    (proposal : GovernedActionProposal) (planned : PlannedGovernedAction)
    (state : ProcessingState) :
    (processPlanned config trigger proposal planned state).Confined
      (OnDb (TurnStep Event.OfRound)) := by
  unfold processPlanned
  dsimp only
  split
  · split
    · exact Prog.Confined.bind
        (confined_ofRound (GovernedActions.writeGovernedActionAuditEvent_routine _ _ _ _))
        fun _ => routeOrExecute_ofRound _ _ _ _ _ _ _ _
    · exact Prog.Confined.bind (confined_ofRound (denyAtCap_routine _ _ _)) fun _ =>
        Prog.confined_ret _
    · exact Prog.Confined.bind (confined_ofRound (escalateAtCap_routine _ _ _ _)) fun _ =>
        routeOrExecute_ofRound _ _ _ _ _ _ _ _
  · exact routeOrExecute_ofRound _ _ _ _ _ _ _ _

/-- A round of proposals leaves the tables no turn writes as they are. -/
theorem processGovernedActionProposals_ofRound (config : RuntimeConfig)
    (trigger : ForegroundTrigger) (tracker : ForegroundActionLoopTracker)
    (proposals : List GovernedActionProposal) :
    (processGovernedActionProposals config trigger tracker proposals).Confined
      (OnDb (TurnStep Event.OfRound)) := by
  refine Prog.Confined.foldlM (fun state proposal => ?_) _ _
  refine Prog.Confined.bind (confined_newUuid TurnStep.refl) fun _ => ?_
  refine Prog.Confined.bind (confined_ofRound (GovernedActions.planGovernedAction_routine _ _))
    fun planning => ?_
  cases planning with
  | blocked blocked =>
    exact Prog.Confined.bind (confined_newUuid TurnStep.refl) fun _ => Prog.confined_ret _
  | planned planned => exact processPlanned_ofRound _ _ _ _ _

end Orchestration

end Rounds

end BlueLagoon
