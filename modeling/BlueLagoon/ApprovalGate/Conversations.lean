import BlueLagoon.ApprovalGate.Turns
import BlueLagoon.TelegramForeground

/-!
# Conversations at the gate

Around a turn there are an episode, its messages, the ingress events that it answers and the
failures that end it. None of them goes through the gate; what a failed step returns with is the
failure.
-/

namespace BlueLagoon

open Interleaving Harness ApprovalGate

/-! ## Ingress and episodes -/

namespace Foreground

theorem markIngressEventProcessed_aside (ingressId executionId : Uuid) :
    Aside (markIngressEventProcessed ingressId executionId) := by
  refine confined_execute AsideStep.refl fun now db effect hbody => ?_
  obtain rfl := Except.ok.inj hbody
  refine ⟨rfl, rfl, fun e he => ?_⟩
  obtain ⟨owner, -, rfl⟩ := List.mem_map.mp he
  exact not_false

theorem markIngressEventsProcessed_aside (ingressIds : List Uuid) (executionId : Uuid) :
    Aside (markIngressEventsProcessed ingressIds executionId) :=
  Prog.Confined.foldlM (fun _ _ => markIngressEventProcessed_aside _ _) _ _

theorem updateEpisodeMessageExternalMessageId_aside (episodeMessageId : Uuid)
    (externalMessageId : String) :
    Aside (updateEpisodeMessageExternalMessageId episodeMessageId externalMessageId) := by
  refine confined_execute AsideStep.refl fun now db effect hbody => ?_
  obtain rfl := Except.ok.inj hbody
  exact .episodeMessages db _

theorem insertEpisodeMessage_aside (message : NewEpisodeMessage) :
    Aside (insertEpisodeMessage message) :=
  insertEpisodeMessage_confined (fun db _ => AsideStep.episodeMessages db _) AsideStep.refl _

theorem buildForegroundTriggerWithKind_aside (config : RuntimeConfig) (traceId executionId : Uuid)
    (triggerKind : ForegroundTriggerKind) (ingress : NormalizedIngress) :
    Aside (buildForegroundTriggerWithKind config traceId executionId triggerKind ingress) := by
  refine Prog.Confined.bind (Prog.confined_ofExcept _) fun _ => ?_
  refine Prog.Confined.bind (confined_newUuid AsideStep.refl) fun _ => ?_
  exact Prog.Confined.bind (confined_utcNow AsideStep.refl) fun _ => Prog.confined_ret _

end Foreground

namespace Orchestration

/-! ## Failures -/

theorem recordForegroundFailure_aside (trigger : ForegroundTrigger) (episodeId : Option Uuid)
    (failureKind : ForegroundFailureKind) (errorMessage : String) :
    Aside (recordForegroundFailure trigger episodeId failureKind errorMessage) := by
  refine Prog.Confined.bind (Execution.markFailed_confined AsideStep.executions _ _)
    fun _ => ?_
  refine Prog.Confined.bind ?_ fun _ => ?_
  · cases episodeId with
    | none => exact Prog.confined_ret _
    | some episodeId => exact Foreground.markEpisodeFailed_confined AsideStep.episodes _ _ _
  · exact Prog.Confined.bind (Audit.insert_confined AsideStep.audit _) fun _ =>
      Prog.confined_ret _

theorem recordAndReturnApprovalResolutionFailure_aside {α : Type} (trigger : ForegroundTrigger)
    (failureKind : ForegroundFailureKind) (error : ErrorChain) :
    Aside (@recordAndReturnApprovalResolutionFailure α trigger failureKind error) := by
  refine Prog.Confined.bind (Prog.Confined.attempt (recordForegroundFailure_aside _ _ _ _))
    fun recorded => ?_
  cases recorded with
  | error recordError => exact Prog.confined_fail _
  | ok _ =>
    refine Prog.Confined.bind (Prog.Confined.attempt
      (Foreground.markIngressEventProcessed_aside _ _)) fun processed => ?_
    cases processed <;> exact Prog.confined_fail _

theorem recordAndReturnFailure_aside {α : Type} (trigger : ForegroundTrigger)
    (episodeId : Option Uuid) (failureKind : ForegroundFailureKind) (error : ErrorChain) :
    Aside (@recordAndReturnFailure α trigger episodeId failureKind error) := by
  refine Prog.Confined.bind (Prog.Confined.attempt (recordForegroundFailure_aside _ _ _ _))
    fun recorded => ?_
  cases recorded <;> exact Prog.confined_fail _

theorem persistForegroundFailureNotice_aside (context : ForegroundFailureContext)
    (noticeText : String) : Aside (persistForegroundFailureNotice context noticeText) := by
  unfold persistForegroundFailureNotice
  split
  · exact Prog.confined_ret _
  · refine Prog.Confined.bind (confined_fetch AsideStep.refl) fun _ => ?_
    refine Prog.Confined.bind (confined_newUuid AsideStep.refl) fun _ => ?_
    exact Prog.Confined.bind (Prog.Confined.mapError (Foreground.insertEpisodeMessage_aside _))
      fun _ => Prog.confined_ret _

theorem deliverForegroundFailureNotice_aside (target : ForegroundFailureDeliveryTarget)
    (noticeText : String) : Aside (deliverForegroundFailureNotice target noticeText) := by
  refine Prog.Confined.bind (Prog.Confined.attempt (confined_sendMessage _ _ _)) fun sent => ?_
  cases sent <;> exact Prog.confined_ret _

theorem attachDeliveredNotice_aside (episodeMessageId : Option Uuid)
    (outboundMessageId : Option Int) :
    Aside (attachDeliveredNotice episodeMessageId outboundMessageId) := by
  unfold attachDeliveredNotice
  split
  · exact Prog.Confined.mapError (Foreground.updateEpisodeMessageExternalMessageId_aside _ _)
  · exact Prog.confined_ret _

theorem recordAndDeliverForegroundFailure_aside (context : ForegroundFailureContext)
    (failureKind : ForegroundFailureKind) (errorMessage : String)
    (target : ForegroundFailureDeliveryTarget) :
    Aside (recordAndDeliverForegroundFailure context failureKind errorMessage target) := by
  refine Prog.Confined.bind (Prog.Confined.attempt (recordForegroundFailure_aside _ _ _ _))
    fun recorded => ?_
  cases recorded with
  | error recordError =>
    exact Prog.Confined.bind (deliverForegroundFailureNotice_aside _ _) fun _ =>
      Prog.confined_fail _
  | ok _ =>
    refine Prog.Confined.bind (Prog.Confined.attempt
      (persistForegroundFailureNotice_aside _ _)) fun persisted => ?_
    refine Prog.Confined.bind (deliverForegroundFailureNotice_aside _ _) fun receipt => ?_
    refine Prog.Confined.bind (Prog.Confined.attempt (Prog.Confined.mapError
      (Foreground.markIngressEventsProcessed_aside _ _))) fun closed => ?_
    refine Prog.Confined.bind (Prog.confined_ofExcept _) fun persistedMessageId => ?_
    exact Prog.Confined.bind (attachDeliveredNotice_aside _ _) fun _ => Prog.confined_ofExcept _

theorem recordDeliverAndReturnFailure_aside {α : Type} (context : ForegroundFailureContext)
    (failureKind : ForegroundFailureKind) (target : ForegroundFailureDeliveryTarget)
    (error : ErrorChain) :
    Aside (@recordDeliverAndReturnFailure α context failureKind target error) := by
  refine Prog.Confined.bind (Prog.Confined.attempt
    (recordAndDeliverForegroundFailure_aside _ _ _ _)) fun recorded => ?_
  cases recorded <;> exact Prog.confined_fail _

theorem noteFollowUpFailure_aside (trigger : ForegroundTrigger) (payload : Json) :
    Aside (noteFollowUpFailure trigger payload) :=
  Prog.Confined.bind (Prog.Confined.attempt (Audit.insert_confined AsideStep.audit _))
    fun _ => Prog.confined_ret _

/-! ### Steps with a failure of their own -/

theorem orFail_aside {α : Type} (trigger : ForegroundTrigger)
    (failureKind : ForegroundFailureKind) {step : Harness α} (hstep : Aside step) :
    Aside (orFail trigger failureKind step) := by
  refine Prog.Confined.bind (Prog.Confined.attempt hstep) fun result => ?_
  cases result with
  | ok value => exact Prog.confined_ret _
  | error error => exact recordAndReturnApprovalResolutionFailure_aside _ _ _

theorem orRecordFailure_aside {α : Type} (trigger : ForegroundTrigger) (episodeId : Option Uuid)
    (failureKind : ForegroundFailureKind) {step : Harness α} (hstep : Aside step) :
    Aside (orRecordFailure trigger episodeId failureKind step) := by
  refine Prog.Confined.bind (Prog.Confined.attempt hstep) fun result => ?_
  cases result with
  | ok value => exact Prog.confined_ret _
  | error error => exact recordAndReturnFailure_aside _ _ _ _

theorem orDeliverFailure_aside {α : Type} (context : ForegroundFailureContext)
    (failureKind : ForegroundFailureKind) (target : ForegroundFailureDeliveryTarget)
    {step : Harness α} (hstep : Aside step) :
    Aside (orDeliverFailure context failureKind target step) := by
  refine Prog.Confined.bind (Prog.Confined.attempt hstep) fun result => ?_
  cases result with
  | ok value => exact Prog.confined_ret _
  | error error => exact recordDeliverAndReturnFailure_aside _ _ _ _

/-- The failure of a resolution returns nothing but an error. -/
theorem recordAndReturnApprovalResolutionFailure_returns {α : Type} (trigger : ForegroundTrigger)
    (failureKind : ForegroundFailureKind) (error : ErrorChain) :
    (@recordAndReturnApprovalResolutionFailure α trigger failureKind error).Returns
      fun _ => False := by
  refine Prog.Returns.bind (Prog.Returns.any _) fun recorded _ => ?_
  cases recorded with
  | error recordError => exact trivial
  | ok _ =>
    refine Prog.Returns.bind (Prog.Returns.any _) fun processed _ => ?_
    cases processed <;> exact trivial

/-! ## Around a turn -/

theorem openEpisode_aside (trigger : ForegroundTrigger) (episodeId : Uuid)
    (userMessages : List UserEpisodeMessage) :
    Aside (openEpisode trigger episodeId userMessages) := by
  refine Prog.Confined.bind (orRecordFailure_aside _ _ _
    (Foreground.insertEpisode_confined AsideStep.episodes _)) fun _ => ?_
  refine Prog.Confined.bind (orRecordFailure_aside _ _ _
    (CausalLinks.insert_confined AsideStep.causalLinks _)) fun _ => ?_
  refine Prog.Confined.foldlM (fun _ entry => ?_) _ _
  refine Prog.Confined.bind (confined_newUuid AsideStep.refl) fun _ => ?_
  exact orRecordFailure_aside _ _ _ (Foreground.insertEpisodeMessage_aside _)

theorem deliverAnswer_aside (trigger : ForegroundTrigger) (failure : ForegroundFailureContext)
    (target : ForegroundFailureDeliveryTarget) (episodeId : Uuid) (messageOrder : Nat)
    (assistantText : String) :
    Aside (deliverAnswer trigger failure target episodeId messageOrder assistantText) := by
  refine Prog.Confined.bind (confined_newUuid AsideStep.refl) fun _ => ?_
  refine Prog.Confined.bind (orDeliverFailure_aside _ _ _
    (Foreground.insertEpisodeMessage_aside _)) fun _ => ?_
  refine Prog.Confined.bind (Prog.Confined.attempt (confined_sendMessage _ _ _)) fun sent => ?_
  cases sent with
  | error error =>
    exact Prog.Confined.bind (recordForegroundFailure_aside _ _ _ _) fun _ =>
      Prog.confined_fail _
  | ok messageId =>
    exact Prog.Confined.bind (orDeliverFailure_aside _ _ _
      (Foreground.updateEpisodeMessageExternalMessageId_aside _ _)) fun _ =>
        Prog.confined_ret _

theorem completeExecution_aside (trigger : ForegroundTrigger)
    (recoveryContext : ForegroundRecoveryContext) (failure : ForegroundFailureContext)
    (target : ForegroundFailureDeliveryTarget) (episodeId : Uuid)
    (turn : ConsciousTurnLoopOutcome) (proposals : ProposalProcessingSummary)
    (outboundMessageId : Int) :
    Aside (completeExecution trigger recoveryContext failure target episodeId turn proposals
      outboundMessageId) := by
  refine Prog.Confined.bind (orDeliverFailure_aside _ _ _
    (Execution.markSucceeded_confined AsideStep.executions _ _ _ _)) fun _ => ?_
  refine Prog.Confined.bind (orDeliverFailure_aside _ _ _
    (Foreground.markEpisodeCompleted_confined AsideStep.episodes _ _ _)) fun _ => ?_
  refine Prog.Confined.bind (orDeliverFailure_aside _ _ _
    (Foreground.markIngressEventsProcessed_aside _ _)) fun _ => ?_
  exact Prog.Confined.bind (orDeliverFailure_aside _ _ _
    (Audit.insert_confined AsideStep.audit _)) fun _ => Prog.confined_ret _

theorem completeResolution_aside (trigger : ForegroundTrigger)
    (parsed : ParsedApprovalResolutionIngress) (resolution : ApprovalResolutionResult)
    (executed : Option GovernedActionExecutionResult) (outboundMessageId : Int) :
    Aside (completeResolution trigger parsed resolution executed outboundMessageId) := by
  refine Prog.Confined.bind (orFail_aside _ _
    (Execution.markSucceeded_confined AsideStep.executions _ _ _ _)) fun _ => ?_
  refine Prog.Confined.bind (orFail_aside _ _ (Foreground.markIngressEventProcessed_aside _ _))
    fun _ => ?_
  exact Prog.Confined.bind (orFail_aside _ _ (Audit.insert_confined AsideStep.audit _))
    fun _ => Prog.confined_ret _

theorem approvalRequestOfToken_aside (trigger : ForegroundTrigger)
    (parsed : ParsedApprovalResolutionIngress) :
    Aside (approvalRequestOfToken trigger parsed) := by
  refine Prog.Confined.bind (orFail_aside _ _ (confined_fetch AsideStep.refl)) fun found => ?_
  cases found with
  | some request => exact Prog.confined_ret _
  | none => exact recordAndReturnApprovalResolutionFailure_aside _ _ _

theorem planTrigger_aside (config : RuntimeConfig) (execution : TelegramForegroundPlanExecution) :
    Aside (planTrigger config execution) := by
  refine Prog.Confined.bind (Prog.Confined.bind (confined_fetchOne AsideStep.refl) fun _ =>
    Prog.confined_ofExcept _) fun ingress => ?_
  split <;> exact Foreground.buildForegroundTriggerWithKind_aside _ _ _ _ _

/-! ## Turns with what surrounds them -/

section Turns

variable [GovernedActionServices] {ι : Type} {config : RuntimeConfig} {answers : Answers system}
  {i : ι}

theorem answerInContext_plays (trigger : ForegroundTrigger) (failure : ForegroundFailureContext)
    (target : ForegroundFailureDeliveryTarget) (episodeId : Uuid) (v : Shared system ι) :
    Plays config answers i (answerInContext config trigger failure target episodeId) v := by
  refine plays_bind (passes_aside (orDeliverFailure_aside _ _ _
    (confined_assembleForegroundContext _))) fun metadata v _ => ?_
  refine plays_bind (passes_aside (orDeliverFailure_aside _ _ _
    (Audit.insert_confined AsideStep.audit _))) fun _ v _ => ?_
  refine plays_then (plays_attempt (executeConsciousTurn_plays _ _ _ _)) fun turn v => ?_
  cases turn with
  | ok turn => exact plays_ret _
  | error error =>
    exact plays_bind (passes_aside (recordAndDeliverForegroundFailure_aside _ _ _ _))
      fun _ _ _ => plays_fail _

theorem orchestrateTelegramForegroundTrigger_plays (trigger : ForegroundTrigger)
    (recoveryContext : ForegroundRecoveryContext) (userMessages : List UserEpisodeMessage)
    (v : Shared system ι) :
    Plays config answers i (orchestrateTelegramForegroundTrigger config trigger recoveryContext
      userMessages) v := by
  refine plays_bind (passes_aside (confined_newUuid AsideStep.refl)) fun episodeId v _ => ?_
  refine plays_bind (passes_aside (openEpisode_aside _ _ _)) fun _ v _ => ?_
  refine plays_bind (passes_aside (orRecordFailure_aside _ _ _ (Prog.confined_ofExcept _)))
    fun chatId v _ => ?_
  refine plays_bind (passes_aside (orRecordFailure_aside _ _ _ (Prog.confined_ofExcept _)))
    fun replyToMessageId v _ => ?_
  refine plays_then (answerInContext_plays _ _ _ _ _) fun turn v => ?_
  refine plays_bind (passes_aside (Prog.confined_query _)) fun fallback v _ => ?_
  refine plays_bind (passes_aside (deliverAnswer_aside _ _ _ _ _ _))
    fun outboundMessageId v _ => ?_
  refine plays_bind (passes_aside (orDeliverFailure_aside _ _ _ confined_applyCandidateProposals))
    fun proposals v _ => ?_
  exact plays_bind (passes_aside (completeExecution_aside _ _ _ _ _ _ _ _)) fun _ _ _ =>
    plays_ret _

theorem followUpTurn_plays (trigger : ForegroundTrigger) (followUpEpisodeId : Uuid)
    (chatId : Int) (replyToMessageId : Option Int) (executed : GovernedActionExecutionResult)
    (v : Shared system ι) :
    Plays config answers i (followUpTurn config trigger followUpEpisodeId chatId
      replyToMessageId executed) v := by
  refine plays_bind (passes_aside (confined_assembleForegroundContext _)) fun _ v _ => ?_
  refine plays_then (executeConsciousTurn_plays _ _ _ _) fun turn v => (passes_aside ?_).plays
  refine Prog.Confined.bind (confined_newUuid AsideStep.refl) fun _ => ?_
  refine Prog.Confined.bind (Foreground.insertEpisodeMessage_aside _) fun _ => ?_
  refine Prog.Confined.bind confined_applyCandidateProposals fun _ => ?_
  refine Prog.Confined.bind (confined_sendMessage _ _ _) fun _ => ?_
  refine Prog.Confined.bind (Foreground.updateEpisodeMessageExternalMessageId_aside _ _)
    fun _ => ?_
  exact Foreground.markEpisodeCompleted_confined AsideStep.episodes _ _ _

theorem followUpIfExecuted_plays (trigger : ForegroundTrigger) (chatId : Int)
    (replyToMessageId : Option Int) (executed : Option GovernedActionExecutionResult)
    (v : Shared system ι) :
    Plays config answers i (followUpIfExecuted config trigger chatId replyToMessageId executed)
      v := by
  cases executed with
  | none => exact plays_ret _
  | some executed =>
    refine plays_bind (passes_aside (confined_newUuid AsideStep.refl)) fun followUpEpisodeId v _ =>
      plays_bind (passes_attempt (passes_aside
        (Foreground.insertEpisode_confined AsideStep.episodes _))) fun inserted v _ => ?_
    cases inserted with
    | error error => exact (passes_aside (noteFollowUpFailure_aside _ _)).plays
    | ok _ =>
      refine plays_then (plays_attempt (followUpTurn_plays _ _ _ _ _ _)) fun result v => ?_
      cases result with
      | ok _ => exact plays_ret _
      | error error =>
        refine (passes_aside ?_).plays
        exact Prog.Confined.bind (Prog.Confined.attempt
          (Foreground.markEpisodeFailed_confined AsideStep.episodes _ _ _)) fun _ =>
            noteFollowUpFailure_aside _ _

end Turns

end Orchestration

end BlueLagoon
