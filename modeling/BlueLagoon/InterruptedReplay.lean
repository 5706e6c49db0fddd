import BlueLagoon.ForegroundPlans
import BlueLagoon.Recovery.LeaseRecovery
import BlueLagoon.Runtime

/-!
# Replaying interrupted turns

A plan may take over the events of several turns that died. Before it is started, the governed
actions of one of these turns are inspected: the one whose event comes first. The actions of
the others are not looked at.
-/

namespace BlueLagoon

open Interleaving Harness

namespace Recovery

/-! ## What the recovery of a restart decides -/

section Trigger

variable {w : World} {es : List Event} {checkpoint : NewRecoveryCheckpoint}
  {request : RecoveryDecisionRequest} {diagnostic : NewOperationalDiagnostic} {now : DateTime}

/-- A trigger that returns has decided what it was asked for. -/
theorem issueRecoveryTrigger_returns :
    (issueRecoveryTrigger checkpoint request diagnostic now).Returns fun outcome =>
      evaluateRecoveryDecision request = .ok outcome.decision := by
  unfold issueRecoveryTrigger
  refine Prog.Returns.bind (Prog.Returns.any _) fun opened _ => ?_
  refine Prog.Returns.bind (Prog.returns_ofExcept _) fun decision hdecision => ?_
  refine Prog.Returns.bind (Prog.Returns.any _) fun resolved _ => ?_
  refine Prog.Returns.bind (Prog.Returns.any _) fun noted _ => ?_
  exact hdecision

/-- When every statement gets through, a trigger returns. -/
theorem issueRecoveryTrigger_delivers (hbudget : 0 ≤ checkpoint.recoveryBudgetRemaining)
    (hrequest : 0 ≤ request.recoveryBudgetRemaining)
    (hvalid : validateNewOperationalDiagnostic diagnostic = .ok ()) :
    (issueRecoveryTrigger checkpoint request diagnostic now).Delivers served
      (fun _ _ => True) w := by
  refine checkpoint_delivers hbudget (fun _ _ => hrequest) fun decision resolved w' _ => ?_
  exact (insertOperationalDiagnostic_delivers hvalid).bind fun _ _ _ => Prog.delivers_ret trivial

end Trigger

/-- What the recovery of a restart decides when it inspects an execution. -/
def restartDecision (reason : RecoveryReasonCode) (executionId : Uuid) (db : Database) :
    RecoveryDecision :=
  classifyRecoveryDecision (foregroundRestartDecisionRequest reason
    ((GovernedActions.recordsOfExecution executionId db).all replaySafe))

section Restart

variable {w : World} {es : List Event} {request : ForegroundRestartRecoveryRequest}
  {now : DateTime}

/-- The execution a restart recovery inspects. -/
def inspectedExecution (request : ForegroundRestartRecoveryRequest) : Uuid :=
  request.interruptedExecutionId.getD request.executionId

/-- A recovery that returns has decided on what the inspected execution has done. -/
theorem recoverForegroundRestartTrigger_decides {answers : Answers system} :
    (recoverForegroundRestartTrigger request now).Alone answers (fun r _ _ =>
      ∀ outcome, r = .ok outcome → outcome.decision.decision =
        restartDecision request.recoveryReasonCode (inspectedExecution request) w.db) w es := by
  unfold recoverForegroundRestartTrigger
  refine Prog.Alone.bind (R := fun _ w' _ => w' = w) (Prog.alone_ofExcept.mpr rfl) ?_
    (fun e w' es' _ outcome h => by cases h)
  intro _ w₁ es₁ hw₁
  subst hw₁
  refine Prog.Alone.bind (R := fun r w' _ => ∀ records, r = .ok records → records =
    GovernedActions.recordsOfExecution (inspectedExecution request) w₁.db)
    (alone_fetch (fun records h => ?_) fun e _ records h => by cases h) ?_
    (fun e w' es' _ outcome h => by cases h)
  · exact (Except.ok.inj h).symm
  intro records w₂ es₂ hrecords
  obtain rfl := hrecords records rfl
  have hbudget : 0 ≤ (foregroundRestartDecisionRequest request.recoveryReasonCode
      ((GovernedActions.recordsOfExecution (inspectedExecution request) w₁.db).all
        replaySafe)).recoveryBudgetRemaining := by
    show (0 : Int) ≤ 1
    decide
  obtain ⟨decision, hdecision, hclass, -⟩ := evaluateRecoveryDecision_ok _ hbudget
  have hreturns : ∀ checkpoint diagnostic, (issueRecoveryTrigger checkpoint
      (foregroundRestartDecisionRequest request.recoveryReasonCode
        ((GovernedActions.recordsOfExecution (inspectedExecution request) w₁.db).all
          replaySafe)) diagnostic now).Returns fun outcome =>
      outcome.decision.decision =
        restartDecision request.recoveryReasonCode (inspectedExecution request) w₁.db := by
    intro checkpoint diagnostic
    have hissued := @issueRecoveryTrigger_returns checkpoint
      (foregroundRestartDecisionRequest request.recoveryReasonCode
        ((GovernedActions.recordsOfExecution (inspectedExecution request) w₁.db).all
          replaySafe)) diagnostic now
    refine hissued.mono fun outcome houtcome => ?_
    rw [hdecision] at houtcome
    obtain rfl := Except.ok.inj houtcome
    exact hclass
  refine Prog.Returns.alone ?_
  refine Prog.Returns.bind (Prog.Returns.any _) fun decision _ => ?_
  refine Prog.Returns.bind (Prog.Returns.any _) fun checkpointId _ => ?_
  refine Prog.Returns.bind (Prog.Returns.any _) fun diagnosticId _ => ?_
  exact hreturns _ _

/-- A recovery that returns was asked for something valid. -/
theorem recoverForegroundRestartTrigger_valid :
    (recoverForegroundRestartTrigger request now).Returns fun _ =>
      validateForegroundRestart request = .ok () := by
  unfold recoverForegroundRestartTrigger
  refine Prog.Returns.bind (Prog.returns_ofExcept _) fun checked hchecked => ?_
  exact (Prog.Returns.any _).mono fun _ _ => hchecked

/-- The diagnostic of a restart says something. -/
theorem restartDiagnostic_valid {traceId executionId : Option Uuid} {diagnosticId : Uuid}
    {payload : Json} {safe : Bool} {decision : RecoveryDecision} :
    validateNewOperationalDiagnostic
      { operationalDiagnosticId := diagnosticId
        traceId := traceId
        executionId := executionId
        subsystem := "recovery"
        severity := .warn
        reasonCode := foregroundRestartReasonCode request.recoveryReasonCode safe
        summary := s!"{foregroundRestartReasonSummary request.recoveryReasonCode}; recovery decision: {decision.asStr}"
        diagnosticPayload := payload } = .ok () := by
  refine validateNewOperationalDiagnostic_ok ?_ ?_ ?_
  · show Text.isBlank "recovery" = false
    decide
  · show Text.isBlank (foregroundRestartReasonCode request.recoveryReasonCode safe) = false
    unfold foregroundRestartReasonCode
    split <;> decide
  · show Text.isBlank (toString (foregroundRestartReasonSummary request.recoveryReasonCode) ++
      "; recovery decision: " ++ toString decision.asStr) = false
    rw [String.append_assoc]
    refine Text.isBlank_append ?_
    unfold foregroundRestartReasonSummary
    split <;> decide

/-- When every statement gets through, a valid recovery returns. -/
theorem recoverForegroundRestartTrigger_delivers
    (hvalid : validateForegroundRestart request = .ok ()) :
    (recoverForegroundRestartTrigger request now).Delivers served (fun _ _ => True) w := by
  unfold recoverForegroundRestartTrigger
  refine Prog.Delivers.bind (R := fun _ _ => True) (Prog.delivers_ofExcept hvalid trivial) ?_
  intro _ w₀ _
  refine Prog.Delivers.bind (R := fun _ _ => True) (delivers_fetch trivial) ?_
  intro records w₁ _
  have hbudget : 0 ≤ (foregroundRestartDecisionRequest request.recoveryReasonCode
      (records.all replaySafe)).recoveryBudgetRemaining := by
    show (0 : Int) ≤ 1
    decide
  obtain ⟨decision, hdecision, -, -⟩ := evaluateRecoveryDecision_ok _ hbudget
  refine Prog.Delivers.bind (R := fun _ _ => True) (Prog.delivers_ofExcept hdecision trivial) ?_
  intro _ _ _
  refine Prog.Delivers.bind (R := fun _ _ => True) (delivers_newUuid fun _ _ => trivial) ?_
  intro checkpointId w₂ _
  refine Prog.Delivers.bind (R := fun _ _ => True) (delivers_newUuid fun _ _ => trivial) ?_
  intro diagnosticId w₃ _
  refine issueRecoveryTrigger_delivers ?_ hbudget restartDiagnostic_valid
  show (0 : Int) ≤ 1
  decide

end Restart

end Recovery

namespace Runtime

open Recovery Foreground

/-! ## Starting a batch -/

/-- Programs that start no plan. -/
def StartsNothing (_db _db' : Database) (events : List Event) : Prop :=
  ∀ executionId, .planOrchestrated executionId ∉ events

theorem startsNothing_tolerates : Tolerates StartsNothing := by
  intro db checkpoints diagnostics events hevents executionId hmem
  rcases hevents with rfl | ⟨id, rfl⟩
  · cases hmem
  · cases List.mem_singleton.mp hmem

theorem handleBlocked_startsNothing (blocked : BlockedTelegramForegroundRecovery) :
    (handleBlockedTelegramForegroundRecovery blocked).Confined (OnDb StartsNothing) := by
  have refl : ∀ db, StartsNothing db db [] := fun _ _ => List.not_mem_nil
  have update : ∀ ingressId, (markIngressEventProcessed ingressId blocked.executionId).Confined
      (OnDb StartsNothing) := by
    intro ingressId
    refine confined_execute refl fun now db effect hbody => ?_
    obtain rfl := Except.ok.inj hbody
    intro executionId hmem
    obtain ⟨owner, -, howner⟩ := List.mem_map.mp hmem
    cases howner
  refine Prog.Confined.bind (Execution.markFailed_confined (fun db _ _ => refl db) _ _) fun _ => ?_
  refine Prog.Confined.bind (Prog.Confined.foldlM (fun _ id => update id) _ _) fun _ => ?_
  refine Prog.Confined.bind (Prog.confined_ofExcept _) fun _ => ?_
  refine Prog.Confined.bind (Prog.Confined.attempt (confined_sendMessage _ _ _)) fun _ => ?_
  exact Prog.confined_ret _

theorem recoverRestart_startsNothing (traceId executionId : Uuid)
    (internalConversationRef : String) (plan : PendingForegroundExecutionPlan)
    (recovery : RestartRecovery) :
    (recoverRestart traceId executionId internalConversationRef plan recovery).Confined
      (OnDb StartsNothing) := by
  refine Prog.Confined.bind (Prog.Confined.emit fun w => ?_) fun _ => ?_
  · refine OnDb.emit fun id hmem => ?_
    cases List.mem_singleton.mp hmem
  · refine Prog.Confined.bind (confined_utcNow startsNothing_tolerates.refl) fun now => ?_
    exact Prog.Confined.mapError
      (recoverForegroundRestartTrigger_confined startsNothing_tolerates _ _)

/-- No run of such a program starts a plan. -/
theorem not_started_of_confined {α : Type} {p : Harness α}
    (hp : p.Confined (OnDb StartsNothing)) (o : Oracle system) (n : Nat) (w : World)
    (executionId : Uuid) : .planOrchestrated executionId ∉ (p.run o n w).events := by
  have hrun := hp.run o n w (OnDb.refl startsNothing_tolerates.refl) (OnDb.trans
    fun db db' db'' events events' h h' id hmem =>
      (List.mem_append.mp hmem).elim (h id) (h' id))
  exact hrun.1 executionId

section Serving

variable [GovernedActionServices] (context : TelegramProcessingContext)
  (summary : TelegramProcessingSummary) {traceId executionId : Uuid}
  {internalConversationRef : String} {recoveredOnlyFromScan : Bool}
  {plan : PendingForegroundExecutionPlan} {w : World} {recovery : RestartRecovery}

/-- A plan that needs a recovery is started only when the recovery is asked for something valid
and decides to continue. -/
theorem servePlan_starts_only {answers : Answers system}
    (hrecovery : restartRecovery plan recoveredOnlyFromScan = some recovery)
    (hblocked : validateForegroundRestart
        (restartRequest traceId executionId internalConversationRef plan recovery) = .ok () →
      restartDecision recovery.recoveryReasonCode
        (plan.interruptedExecutionId.getD executionId) w.db ≠ .continue_) :
    (servePlan context traceId executionId internalConversationRef recoveredOnlyFromScan plan
      summary).Alone answers (fun _ _ es => .planOrchestrated executionId ∉ es) w [] := by
  have nothing : ∀ {α : Type} {p : Harness α} {w : World} {es : List Event},
      p.Confined (OnDb StartsNothing) → Event.planOrchestrated executionId ∉ es →
        p.Alone answers (fun _ _ es => .planOrchestrated executionId ∉ es) w es := by
    intro α p w es hp hes
    refine hp.alone (T := fun _ es => .planOrchestrated executionId ∉ es)
      (fun w w' es es' hold hstep hmem => ?_) hes
    rcases List.mem_append.mp hmem with h | h
    · exact hold h
    · exact hstep.1 executionId h
  have hdecides : (recoverRestart traceId executionId internalConversationRef plan
      recovery).Alone answers (fun r _ _ => ∀ outcome, r = .ok outcome →
        outcome.decision.decision ≠ .continue_) w [] := by
    have hemit : ∀ Q : Except ErrorChain Unit → World → List Event → Prop,
        (Prog.emit (S := system) (.restartRecoveryRequested executionId)).Alone answers Q w [] ↔
          Q (.ok ()) w [.restartRecoveryRequested executionId] := fun _ => Iff.rfl
    refine Prog.Alone.bind (R := fun _ w' _ => w' = w) ((hemit _).mpr rfl) ?_
      (fun e w' es' _ outcome h => by cases h)
    intro _ w₁ es₁ hw₁
    subst hw₁
    refine Prog.Alone.bind (R := fun _ w' _ => w'.db = w₁.db) (alone_utcNow fun _ _ => rfl) ?_
      (fun e w' es' _ outcome h => by cases h)
    intro now w₂ es₂ hdb
    refine Prog.Alone.mapError ((recoverForegroundRestartTrigger_valid.alone.and
      recoverForegroundRestartTrigger_decides).mono ?_)
    intro r w' es' hr outcome houtcome hcontinue
    cases r with
    | error e => cases houtcome
    | ok decided =>
      obtain rfl := Except.ok.inj houtcome
      have hvalid := hr.1 _ rfl
      have hdecided := hr.2 _ rfl
      rw [hcontinue, hdb] at hdecided
      exact hblocked hvalid hdecided.symm
  unfold servePlan
  rw [hrecovery]
  refine ((nothing (recoverRestart_startsNothing _ _ _ _ _) List.not_mem_nil).and hdecides).bind ?_ fun e w' es' h => h.1
  intro outcome w' es' h
  rw [if_neg (h.2 outcome rfl)]
  refine nothing ?_ h.1
  exact Prog.Confined.bind (handleBlocked_startsNothing _) fun _ => Prog.confined_ret _

/-- A plan whose recovery decides to continue is started when every statement gets through. -/
theorem servePlan_starts
    (hrecovery : restartRecovery plan recoveredOnlyFromScan = some recovery)
    (hvalid : validateForegroundRestart
      (restartRequest traceId executionId internalConversationRef plan recovery) = .ok ())
    (hcontinue : restartDecision recovery.recoveryReasonCode
      (plan.interruptedExecutionId.getD executionId) w.db = .continue_) :
    (servePlan context traceId executionId internalConversationRef recoveredOnlyFromScan plan
      summary).Alone served (fun _ _ es => .planOrchestrated executionId ∈ es) w [] := by
  have hrecovered : (recoverRestart traceId executionId internalConversationRef plan
      recovery).Alone served (fun r _ _ => ∃ outcome, r = .ok outcome ∧
        outcome.decision.decision = .continue_) w [] := by
    have hemit : ∀ Q : Except ErrorChain Unit → World → List Event → Prop,
        (Prog.emit (S := system) (.restartRecoveryRequested executionId)).Alone served Q w [] ↔
          Q (.ok ()) w [.restartRecoveryRequested executionId] := fun _ => Iff.rfl
    refine Prog.Alone.bind (R := fun r w' _ => r = .ok () ∧ w' = w) ((hemit _).mpr ⟨rfl, rfl⟩) ?_
      (fun e w' es' h => by cases h.1)
    intro _ w₁ es₁ hw₁
    obtain ⟨-, rfl⟩ := hw₁
    refine Prog.Alone.bind (R := fun r w' _ => (∃ now, r = .ok now) ∧ w'.db = w₁.db)
      (alone_utcNow fun now _ => ⟨⟨now, rfl⟩, rfl⟩) ?_
      (fun e w' es' h => by obtain ⟨⟨_, h⟩, -⟩ := h; cases h)
    intro now w₂ es₂ hnow
    refine Prog.Alone.mapError
      (((recoverForegroundRestartTrigger_delivers hvalid es₂).and
        recoverForegroundRestartTrigger_decides).mono ?_)
    intro r w' es' hr
    obtain ⟨⟨outcome, rfl, -⟩, hdecided⟩ := hr
    refine ⟨outcome, rfl, ?_⟩
    have hdecision := hdecided outcome rfl
    rw [hnow.2] at hdecision
    exact hdecision.trans hcontinue
  unfold servePlan
  rw [hrecovery]
  refine hrecovered.bind ?_ fun e w' es' h => ?_
  · intro outcome w' es' h
    obtain ⟨outcome', houtcome, hdecision⟩ := h
    obtain rfl := Except.ok.inj houtcome
    rw [if_pos hdecision]
    unfold startPlan
    refine Prog.Alone.bind (R := fun _ _ es => .planOrchestrated executionId ∈ es) ?_
      (fun _ w es hmem => Prog.alone_mem _ hmem) fun e w es hmem => hmem
    show Event.planOrchestrated executionId ∈ es' ++ [.planOrchestrated executionId]
    exact List.mem_append_right _ List.mem_cons_self
  · obtain ⟨outcome, h, -⟩ := h
    cases h

end Serving

/-! ## All that was interrupted -/

/-- A batch that is started replays executions all of whose actions are safe to replay. -/
def StartsOnlyInspected (executionId : Uuid) (interrupted : List Uuid) (db : Database)
    (events : List Event) : Prop :=
  .planOrchestrated executionId ∈ events →
    ∀ other ∈ interrupted, restartDecision .crash other db = .continue_

/-- What the loop asks of the recovery of a crash is valid when the conversation has a name. -/
theorem validateForegroundRestart_stale {traceId executionId : Uuid}
    {internalConversationRef : String} {plan : PendingForegroundExecutionPlan}
    {recovery : RestartRecovery} {recoveredOnlyFromScan : Bool}
    (hreason : plan.decisionReason = .staleProcessingResume)
    (hrecovery : restartRecovery plan recoveredOnlyFromScan = some recovery)
    (hselected : plan.orderedIngress.map OrderedIngressReference.ingressId ≠ []) :
    recovery.recoveryReasonCode = .crash ∧
      (validateForegroundRestart
        (restartRequest traceId executionId internalConversationRef plan recovery) = .ok () ↔
        Text.isBlank internalConversationRef = false) := by
  unfold restartRecovery at hrecovery
  rw [if_pos hreason] at hrecovery
  obtain rfl := Option.some.inj hrecovery
  refine ⟨rfl, ?_⟩
  have hsource : Text.isBlank "telegram_foreground_processing_loop" = false := by decide
  have hdecided : Text.isBlank plan.decisionReason.asStr = false := by
    rw [hreason]
    decide
  have hmode : Text.isBlank "backlog_recovery" = false := by decide
  unfold validateForegroundRestart restartRequest
  dsimp only
  rw [if_neg (by simp), hsource, hdecided, hmode, if_neg hselected]
  cases Text.isBlank internalConversationRef <;> simp

/-- A plan that takes over the events of several interrupted executions goes through the
recovery of a crash, which inspects the execution whose event comes first. -/
theorem restartRecovery_of_several {config : BacklogRecoveryConfig} {ids : PlanningIds}
    {traceId executionId : Uuid} {internalConversationRef : String} {now_ now : DateTime}
    {db : Database} {effect : Effect (Option PendingForegroundExecutionPlan)}
    {plan : PendingForegroundExecutionPlan} (recoveredOnlyFromScan : Bool)
    (hplanned : planPending config ids traceId executionId internalConversationRef false now_ now
      db = .ok effect)
    (hplan : effect.value = some plan)
    (hseveral : ∃ first ∈ interruptedExecutions
        (plannedIngress config internalConversationRef now_ db),
      ∃ second ∈ interruptedExecutions (plannedIngress config internalConversationRef now_ db),
        first ≠ second) :
    ∃ recovery, restartRecovery plan recoveredOnlyFromScan = some recovery ∧
      (validateForegroundRestart
        (restartRequest traceId executionId internalConversationRef plan recovery) = .ok () ↔
        Text.isBlank internalConversationRef = false) ∧
      restartDecision recovery.recoveryReasonCode
        (plan.interruptedExecutionId.getD executionId) effect.db =
          restartDecision .crash ((interruptedExecutionId
            (plannedIngress config internalConversationRef now_ db)).getD executionId) db := by
  have hcommitted : PlanCommitted config executionId internalConversationRef now_ now db plan
      effect := by
    rcases planPending_eq_ok hplanned with ⟨hnone, -, -, -⟩ | ⟨committed, hvalue, hcommitted⟩
    · rw [hplan] at hnone
      cases hnone
    · obtain rfl : plan = committed := Option.some.inj (hplan.symm.trans hvalue)
      exact hcommitted
  obtain ⟨first, hfirst, second, hsecond, hne⟩ := hseveral
  have hreason : plan.decisionReason = .staleProcessingResume :=
    hcommitted.reason.trans (pendingDecision_stale hfirst hsecond hne)
  have hselected : plan.orderedIngress.map OrderedIngressReference.ingressId ≠ [] := by
    rw [hcommitted.ordered]
    intro hnil
    exact hcommitted.selected (List.map_eq_nil_iff.mp hnil)
  obtain ⟨recovery, hrecovery⟩ :
      ∃ recovery, restartRecovery plan recoveredOnlyFromScan = some recovery := by
    unfold restartRecovery
    rw [if_pos hreason]
    exact ⟨_, rfl⟩
  obtain ⟨hcrash, hvalid⟩ := @validateForegroundRestart_stale traceId executionId
    internalConversationRef plan recovery recoveredOnlyFromScan hreason hrecovery hselected
  refine ⟨recovery, hrecovery, hvalid, ?_⟩
  -- Planning leaves the records of the governed actions as they are.
  obtain ⟨links, causalLinks, auditEvents, hstore⟩ := hcommitted.store
  rw [hcrash, hcommitted.interrupted, hstore]
  rfl

/-- A plan that takes over the events of several interrupted executions is started only after
the actions of each of them were found safe to replay, whatever happens, exactly when the
recovery cannot be asked for the conversation, when it stops at the execution whose event comes
first, or when no execution has anything that it would stop at. -/
theorem startsOnlyInspected_iff [GovernedActionServices] (context : TelegramProcessingContext)
    (ids : PlanningIds) (traceId executionId : Uuid) (internalConversationRef : String)
    (recoveredOnlyFromScan : Bool) (summary : TelegramProcessingSummary) (now_ now : DateTime)
    (db : Database)
    (effect : Effect (Option PendingForegroundExecutionPlan))
    (plan : PendingForegroundExecutionPlan) (w : World)
    (hplanned : planPending context.config.backlogRecovery ids traceId executionId
      internalConversationRef false now_ now db = .ok effect)
    (hplan : effect.value = some plan) (hw : w.db = effect.db)
    (hseveral : ∃ first ∈ interruptedExecutions
        (plannedIngress context.config.backlogRecovery internalConversationRef now_ db),
      ∃ second ∈ interruptedExecutions
        (plannedIngress context.config.backlogRecovery internalConversationRef now_ db),
      first ≠ second) :
    (∀ o : Oracle system, StartsOnlyInspected executionId
        (interruptedExecutions
          (plannedIngress context.config.backlogRecovery internalConversationRef now_ db)) db
        ((servePlan context traceId executionId internalConversationRef recoveredOnlyFromScan plan
          summary).run o 0 w).events) ↔
      Text.isBlank internalConversationRef = true ∨
        restartDecision .crash
          ((interruptedExecutionId (plannedIngress context.config.backlogRecovery
            internalConversationRef now_ db)).getD executionId) db ≠ .continue_ ∨
        ∀ other ∈ interruptedExecutions (plannedIngress context.config.backlogRecovery
            internalConversationRef now_ db),
          restartDecision .crash other db = .continue_ := by
  obtain ⟨recovery, hrecovery, hvalid, hinspected⟩ :=
    restartRecovery_of_several recoveredOnlyFromScan hplanned hplan hseveral
  rw [← hw] at hinspected
  constructor
  -- where the inspected execution may continue, the plan is started whatever became of the others
  · intro h
    by_contra hnot
    obtain ⟨hnamed, hnot⟩ := not_or.mp hnot
    obtain ⟨hcontinue, hunsafe⟩ := not_or.mp hnot
    have hstarts := servePlan_starts context summary hrecovery
      (hvalid.mpr (Bool.eq_false_iff.mpr hnamed)) (hinspected.trans (not_not.mp hcontinue))
    have hstarted := hstarts.run (served_steady 0) 0
    rw [List.nil_append] at hstarted
    exact hunsafe (h (steady 0) hstarted)
  · intro h o hstarted
    -- what has started was validated, and the decision of the one inspected was to continue
    have hcontinues : ¬ (validateForegroundRestart
        (restartRequest traceId executionId internalConversationRef plan recovery) = .ok () →
      restartDecision recovery.recoveryReasonCode
        (plan.interruptedExecutionId.getD executionId) w.db ≠ .continue_) := by
      intro hblocked
      have hstops : (servePlan context traceId executionId internalConversationRef
          recoveredOnlyFromScan plan summary).Alone (fun _ _ => True)
          (fun _ _ es => .planOrchestrated executionId ∉ es) w [] :=
        servePlan_starts_only context summary hrecovery hblocked
      have hnothing := hstops.run (o := o) (fun _ _ => trivial) 0
      rw [List.nil_append] at hnothing
      exact hnothing hstarted
    rcases h with hblank | hstops | hall
    · refine absurd (fun hok => ?_) hcontinues
      rw [hvalid.mp hok] at hblank
      cases hblank
    · refine absurd (fun _ => ?_) hcontinues
      rw [hinspected]
      exact hstops
    · exact hall

/-! ### Two crashed turns -/

/-- A message that an execution was processing when it died. -/
def crashedIngress (ingressId executionId : Uuid) (occurredAt : DateTime) : IngressEventRecord where
  ingressId := ingressId
  conversationBindingId := none
  traceId := 1
  executionId := some executionId
  occurredAt := occurredAt
  receivedAt := occurredAt
  channelKind := .telegram
  externalUserId := "42"
  externalConversationId := "42"
  internalPrincipalRef := some "primary"
  internalConversationRef := some "telegram-primary"
  eventKind := .messageCreated
  externalEventId := toString ingressId
  externalMessageId := none
  status := "accepted"
  foregroundStatus := "processing"
  lastProcessedAt := some occurredAt
  rejectionReason := none
  textBody := some "hello"
  commandName := none
  commandArgs := []
  approvalToken := none
  approvalCallbackData := none
  rawPayloadRef := none

/-- A fetch of a web page that an execution has started. -/
def startedFetch (executionId : Uuid) : GovernedActionExecutionRecord where
  governedActionExecutionId := 50
  traceId := 1
  executionId := some executionId
  actionProposalId := 51
  actionFingerprint := ⟨"fingerprint"⟩
  actionKind := .webFetch
  riskTier := .tier1
  status := .approved
  capabilityScope :=
    { execution := { timeoutMs := 1000, maxStdoutBytes := 1000, maxStderrBytes := 1000 } }
  payload := .webFetch
    { url := "https://example.org", timeoutMs := 1000, maxResponseBytes := 1000 }

/-- Two turns have died, and the given one of them had started a fetch. -/
def crashedDatabase (fetching : Uuid) : Database where
  executionRecords :=
    [{ executionId := 11, traceId := 1, triggerKind := "telegram_pending_ingress"
       status := "started" },
     { executionId := 12, traceId := 2, triggerKind := "telegram_pending_ingress"
       status := "started" },
     { executionId := 13, traceId := 3, triggerKind := "telegram_pending_ingress"
       status := "started" }]
  ingressEvents := [crashedIngress 21 11 100, crashedIngress 22 12 200]
  governedActionExecutions := [startedFetch fetching]

/-- What serves the conversation. -/
def crashedContext : TelegramProcessingContext where
  config := RuntimeConfig.shipped
  telegramConfig :=
    { allowedUserId := 42
      allowedChatId := 42
      internalPrincipalRef := "primary"
      internalConversationRef := "telegram-primary" }
  rawPayloadRef := none

def crashedPlanningIds : PlanningIds where
  links := [31, 32, 33, 34, 35, 36, 37, 38]
  causalLinks := [41, 42, 43, 44, 45, 46, 47, 48]
  auditEvent := 49

/-- An instant at which both turns are stale. -/
def crashedNow : DateTime := seconds 4000

/-- The planning of an execution that takes over both turns. -/
def crashedPlanning (fetching : Uuid) :
    Except ErrorChain (Effect (Option PendingForegroundExecutionPlan)) :=
  planPending crashedContext.config.backlogRecovery crashedPlanningIds 3 13 "telegram-primary"
    false crashedNow crashedNow (crashedDatabase fetching)

theorem crashedPlanning_planned (fetching : Uuid) (h : fetching = 11 ∨ fetching = 12) :
    ∃ effect plan, crashedPlanning fetching = .ok effect ∧ effect.value = some plan := by
  have hplanned : (match crashedPlanning fetching with
      | .ok effect => effect.value.isSome
      | .error _ => false) = true := by
    rcases h with rfl | rfl <;> decide +kernel
  cases hplanning : crashedPlanning fetching with
  | error e =>
    rw [hplanning] at hplanned
    cases hplanned
  | ok effect =>
    rw [hplanning] at hplanned
    obtain ⟨plan, hplan⟩ := Option.isSome_iff_exists.mp hplanned
    exact ⟨effect, plan, rfl, hplan⟩

theorem crashedPlanning_interrupted (fetching : Uuid) (h : fetching = 11 ∨ fetching = 12) :
    interruptedExecutions (plannedIngress crashedContext.config.backlogRecovery "telegram-primary"
      crashedNow (crashedDatabase fetching)) = [11, 12] := by
  rcases h with rfl | rfl <;> decide +kernel

/-- The fetch was started by the turn whose message comes second, and the batch is started. -/
theorem second_crash_not_inspected :
    letI := GovernedActions.plainServices
    ∃ effect plan, crashedPlanning 12 = .ok effect ∧ effect.value = some plan ∧
      ¬ StartsOnlyInspected 13
        (interruptedExecutions (plannedIngress crashedContext.config.backlogRecovery
          "telegram-primary" crashedNow (crashedDatabase 12))) (crashedDatabase 12)
        ((servePlan crashedContext 3 13 "telegram-primary" true plan {}).run (steady 0) 0
          { db := effect.db }).events := by
  let _services := GovernedActions.plainServices
  obtain ⟨effect, plan, hplanned, hplan⟩ := crashedPlanning_planned 12 (Or.inr rfl)
  refine ⟨effect, plan, hplanned, hplan, fun h => ?_⟩
  have hlisted := crashedPlanning_interrupted 12 (Or.inr rfl)
  have hseveral : ∃ first ∈ interruptedExecutions (plannedIngress
        crashedContext.config.backlogRecovery "telegram-primary" crashedNow (crashedDatabase 12)),
      ∃ second ∈ interruptedExecutions (plannedIngress
        crashedContext.config.backlogRecovery "telegram-primary" crashedNow (crashedDatabase 12)),
        first ≠ second := by
    rw [hlisted]
    decide
  obtain ⟨recovery, hrecovery, hvalid, hinspected⟩ :=
    restartRecovery_of_several true hplanned hplan hseveral
  have hsafe : restartDecision .crash ((interruptedExecutionId (plannedIngress
      crashedContext.config.backlogRecovery "telegram-primary" crashedNow
        (crashedDatabase 12))).getD 13) (crashedDatabase 12) = .continue_ := by decide +kernel
  have hstarts := @servePlan_starts _services crashedContext {} 3 13 "telegram-primary" true plan
    { db := effect.db } recovery hrecovery (hvalid.mpr (by decide)) (hinspected.trans hsafe)
  have hstarted := hstarts.run (served_steady 0) 0
  rw [List.nil_append] at hstarted
  have hunsafe := h hstarted 12 (by rw [hlisted]; decide)
  revert hunsafe
  decide +kernel

/-- The fetch was started by the turn whose message comes first. -/
theorem startsOnlyInspected_iff_first_crash :
    ∃ effect plan, crashedPlanning 11 = .ok effect ∧ effect.value = some plan ∧
      letI := GovernedActions.plainServices
      ((∀ o : Oracle system, StartsOnlyInspected 13
          (interruptedExecutions (plannedIngress crashedContext.config.backlogRecovery
            "telegram-primary" crashedNow (crashedDatabase 11))) (crashedDatabase 11)
          ((servePlan crashedContext 3 13 "telegram-primary" true plan {}).run o 0
            { db := effect.db }).events) ↔
        Text.isBlank "telegram-primary" = true ∨
          restartDecision .crash
            ((interruptedExecutionId (plannedIngress crashedContext.config.backlogRecovery
              "telegram-primary" crashedNow (crashedDatabase 11))).getD 13)
              (crashedDatabase 11) ≠ .continue_ ∨
          ∀ other ∈ interruptedExecutions (plannedIngress crashedContext.config.backlogRecovery
              "telegram-primary" crashedNow (crashedDatabase 11)),
            restartDecision .crash other (crashedDatabase 11) = .continue_) := by
  let _services := GovernedActions.plainServices
  obtain ⟨effect, plan, hplanned, hplan⟩ := crashedPlanning_planned 11 (Or.inl rfl)
  refine ⟨effect, plan, hplanned, hplan, ?_⟩
  refine startsOnlyInspected_iff crashedContext crashedPlanningIds 3 13 "telegram-primary" true {}
    crashedNow crashedNow (crashedDatabase 11) effect plan { db := effect.db } hplanned hplan rfl ?_
  rw [crashedPlanning_interrupted 11 (Or.inl rfl)]
  decide

end Runtime

end BlueLagoon
