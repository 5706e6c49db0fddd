import BlueLagoon.InterruptedReplay

/-!
# Resuming interrupted turns

A plan that takes over an event of a turn that died goes through the recovery first, and is
started only when the recovery decides to continue. A single event is no backlog: a plan that
takes it over is started at once.
-/

namespace BlueLagoon

open Interleaving Harness Foreground

namespace Foreground

section Decision

variable {config : BacklogRecoveryConfig} {internalConversationRef : String} {now_ : DateTime}
  {db : Database}

/-- One event alone is planned as such, whatever became of it before. -/
theorem pendingDecision_single
    (h : (pendingIngress config internalConversationRef now_ db).length = 1) :
    pendingDecision config internalConversationRef now_ db =
      { mode := .singleIngress, reason := .singleIngress } := by
  unfold pendingDecision
  obtain ⟨only, honly⟩ := List.length_eq_one_iff.mp h
  rw [honly]
  rfl

/-- Among several events, one that was left in processing makes the plan a resumption. -/
theorem pendingDecision_resumes {ingress : IngressEventRecord}
    (hmem : ingress ∈ pendingIngress config internalConversationRef now_ db)
    (hprocessing : ingress.foregroundStatus = "processing")
    (hseveral : (pendingIngress config internalConversationRef now_ db).length ≠ 1) :
    (pendingDecision config internalConversationRef now_ db).reason =
      .staleProcessingResume := by
  unfold pendingDecision
  generalize pendingIngress config internalConversationRef now_ db = pending at hmem hseveral
  cases pending with
  | nil => cases hmem
  | cons oldest rest =>
    cases rest with
    | nil => exact absurd rfl hseveral
    | cons next rest =>
      have hresumed : ((oldest :: next :: rest).any fun ingress =>
          ingress.foregroundStatus = "processing") = true :=
        List.any_eq_true.mpr ⟨ingress, hmem, decide_eq_true hprocessing⟩
      unfold evaluatePendingForegroundExecution
      dsimp only
      rw [if_neg (by decide), if_pos hresumed]

end Decision

end Foreground

namespace Runtime

section Serving

variable [GovernedActionServices] (context : TelegramProcessingContext)
  (traceId executionId : Uuid) (internalConversationRef : String) (recoveredOnlyFromScan : Bool)
  (plan : PendingForegroundExecutionPlan) (summary : TelegramProcessingSummary)

/-- In every run that serves the plan, the recovery is called for it, and the plan is
orchestrated only after a call that decided to continue. -/
def ResumesThroughRecovery : Prop :=
  ∀ (o : Oracle system) (n : Nat) (w : World),
    .restartRecoveryRequested executionId ∈
        ((servePlan context traceId executionId internalConversationRef recoveredOnlyFromScan plan
          summary).run o n w).events ∧
      (.planOrchestrated executionId ∈
          ((servePlan context traceId executionId internalConversationRef recoveredOnlyFromScan
            plan summary).run o n w).events →
        ∃ recovery outcome, restartRecovery plan recoveredOnlyFromScan = some recovery ∧
          ((recoverRestart traceId executionId internalConversationRef plan recovery).run o n
            w).result = .ok outcome ∧
          outcome.decision.decision = .continue_)

variable {context traceId executionId internalConversationRef recoveredOnlyFromScan plan summary}

/-- A plan without a recovery is started. -/
theorem startPlan_starts {recovery : Option RestartRecovery} (o : Oracle system) (n : Nat)
    (w : World) : .planOrchestrated executionId ∈
      ((startPlan context traceId executionId plan recovery summary).run o n w).events :=
  List.mem_cons_self

omit [GovernedActionServices] in
/-- The recovery is called before anything else. -/
theorem recoverRestart_requests {recovery : RestartRecovery} (o : Oracle system) (n : Nat)
    (w : World) : .restartRecoveryRequested executionId ∈
      ((recoverRestart traceId executionId internalConversationRef plan recovery).run o n
        w).events :=
  List.mem_cons_self

theorem not_resumesThroughRecovery (h : restartRecovery plan recoveredOnlyFromScan = none) :
    ¬ ResumesThroughRecovery context traceId executionId internalConversationRef
      recoveredOnlyFromScan plan summary := by
  intro hresumes
  obtain ⟨-, honly⟩ := hresumes (steady 0) 0 {}
  unfold servePlan at honly
  rw [h] at honly
  obtain ⟨recovery, -, hrecovery, -⟩ := honly (startPlan_starts _ _ _)
  cases hrecovery

theorem resumesThroughRecovery_of_recovery {recovery : RestartRecovery}
    (h : restartRecovery plan recoveredOnlyFromScan = some recovery) :
    ResumesThroughRecovery context traceId executionId internalConversationRef
      recoveredOnlyFromScan plan summary := by
  intro o n w
  unfold servePlan
  rw [h]
  dsimp only
  rw [Prog.bind_eq, Prog.run_bind, Run.andThen]
  have hrequested := @recoverRestart_requests traceId executionId internalConversationRef plan
    recovery o n w
  have hnotStarted := not_started_of_confined
    (recoverRestart_startsNothing traceId executionId internalConversationRef plan recovery) o n w
    executionId
  cases hresult : ((recoverRestart traceId executionId internalConversationRef plan recovery).run
      o n w).result with
  | error e => exact ⟨hrequested, fun hstarted => absurd hstarted hnotStarted⟩
  | ok outcome =>
    refine ⟨List.mem_append_left _ hrequested, fun hstarted => ?_⟩
    by_cases hcontinue : outcome.decision.decision = .continue_
    · exact ⟨recovery, outcome, rfl, hresult, hcontinue⟩
    · dsimp only at hstarted
      rw [if_neg hcontinue] at hstarted
      rcases List.mem_append.mp hstarted with hearly | hlate
      · exact absurd hearly hnotStarted
      · refine absurd hlate (not_started_of_confined ?_ _ _ _ _)
        exact Prog.Confined.bind (handleBlocked_startsNothing _) fun _ => Prog.confined_ret _

/-- A plan that takes over an event left in processing goes through the recovery exactly when
the event is not the only one to be planned. -/
theorem resumesThroughRecovery_iff (ids : PlanningIds) (now_ now : DateTime) (db : Database)
    (effect : Effect (Option PendingForegroundExecutionPlan))
    (hplanned : planPending context.config.backlogRecovery ids traceId executionId
      internalConversationRef false now_ now db = .ok effect)
    (hplan : effect.value = some plan) :
    ((∃ ingress ∈ plannedIngress context.config.backlogRecovery internalConversationRef now_ db,
        ingress.foregroundStatus = "processing") →
      ResumesThroughRecovery context traceId executionId internalConversationRef
        recoveredOnlyFromScan plan summary) ↔
    ¬ ∃ ingress, pendingIngress context.config.backlogRecovery internalConversationRef now_ db =
        [ingress] ∧ ingress.foregroundStatus = "processing" := by
  obtain ⟨committed, hvalue, hcommitted⟩ := (planPending_eq_ok hplanned).resolve_left
    (fun h => by rw [hplan] at h; cases h.1)
  obtain rfl : plan = committed := Option.some.inj (hplan.symm.trans hvalue)
  constructor
  · rintro h ⟨ingress, honly, hprocessing⟩
    have hlength : (pendingIngress context.config.backlogRecovery internalConversationRef now_
        db).length = 1 := by rw [honly]; rfl
    have hdecision := pendingDecision_single hlength
    have hselected : plannedIngress context.config.backlogRecovery internalConversationRef now_ db =
        [ingress] := by
      unfold plannedIngress
      rw [hdecision, honly]
      rfl
    refine not_resumesThroughRecovery ?_ (h ⟨ingress, by rw [hselected]; exact List.mem_cons_self,
      hprocessing⟩)
    unfold restartRecovery
    rw [hcommitted.reason, hcommitted.mode, hdecision, if_neg (by decide), if_neg (by simp)]
  · rintro h ⟨ingress, hmem, hprocessing⟩
    replace hmem := selectedIngress_subset hmem
    have hseveral : (pendingIngress context.config.backlogRecovery internalConversationRef now_
        db).length ≠ 1 := by
      intro hlength
      obtain ⟨only, honly⟩ := List.length_eq_one_iff.mp hlength
      rw [honly, List.mem_singleton] at hmem
      exact h ⟨only, honly, hmem ▸ hprocessing⟩
    obtain ⟨recovery, hrecovery⟩ :
        ∃ recovery, restartRecovery plan recoveredOnlyFromScan = some recovery := by
      unfold restartRecovery
      rw [if_pos (hcommitted.reason.trans (pendingDecision_resumes hmem hprocessing hseveral))]
      exact ⟨_, rfl⟩
    exact resumesThroughRecovery_of_recovery hrecovery

end Serving

/-- Two messages of two turns that died are resumed through the recovery. -/
theorem resumesThroughRecovery_two :
    ∃ effect plan, crashedPlanning 11 = .ok effect ∧ effect.value = some plan ∧
      letI := GovernedActions.plainServices
      (((∃ ingress ∈ plannedIngress crashedContext.config.backlogRecovery "telegram-primary"
            crashedNow (crashedDatabase 11), ingress.foregroundStatus = "processing") →
          ResumesThroughRecovery crashedContext 3 13 "telegram-primary" false plan {}) ↔
        ¬ ∃ ingress, pendingIngress crashedContext.config.backlogRecovery "telegram-primary"
            crashedNow (crashedDatabase 11) = [ingress] ∧
          ingress.foregroundStatus = "processing") := by
  let _services := GovernedActions.plainServices
  obtain ⟨effect, plan, hplanned, hplan⟩ := crashedPlanning_planned 11 (Or.inl rfl)
  exact ⟨effect, plan, hplanned, hplan, resumesThroughRecovery_iff crashedPlanningIds crashedNow
    crashedNow (crashedDatabase 11) effect hplanned hplan⟩

/-- One turn has died with its message. -/
def lonelyDatabase : Database where
  executionRecords :=
    [{ executionId := 11, traceId := 1, triggerKind := "telegram_pending_ingress"
       status := "started" },
     { executionId := 13, traceId := 3, triggerKind := "telegram_pending_ingress"
       status := "started" }]
  ingressEvents := [crashedIngress 21 11 100]

/-- The one message of a turn that died is planned again, and started at once. -/
theorem lonely_crash_not_recovered :
    letI := GovernedActions.plainServices
    ∃ effect plan,
      planPending crashedContext.config.backlogRecovery crashedPlanningIds 3 13 "telegram-primary"
        false crashedNow crashedNow lonelyDatabase = .ok effect ∧ effect.value = some plan ∧
      (∃ ingress ∈ plannedIngress crashedContext.config.backlogRecovery "telegram-primary"
        crashedNow lonelyDatabase, ingress.foregroundStatus = "processing") ∧
      ¬ ResumesThroughRecovery crashedContext 3 13 "telegram-primary" false plan {} := by
  let _services := GovernedActions.plainServices
  have hplans : ((planPending crashedContext.config.backlogRecovery crashedPlanningIds 3 13
      "telegram-primary" false crashedNow crashedNow lonelyDatabase).toOption.bind
        (·.value)).any (fun plan => (restartRecovery plan false).isNone) = true := by
    decide +kernel
  cases hplanned : planPending crashedContext.config.backlogRecovery crashedPlanningIds 3 13
      "telegram-primary" false crashedNow crashedNow lonelyDatabase with
  | error e =>
    rw [hplanned] at hplans
    cases hplans
  | ok effect =>
    rw [hplanned] at hplans
    cases hplan : effect.value with
    | none =>
      simp [Except.toOption, hplan] at hplans
    | some plan =>
      have hnone : restartRecovery plan false = none := by
        simpa [Except.toOption, hplan] using hplans
      exact ⟨effect, plan, rfl, hplan, by decide +kernel, not_resumesThroughRecovery hnone⟩

end Runtime

end BlueLagoon
