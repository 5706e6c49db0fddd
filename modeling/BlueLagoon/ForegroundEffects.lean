import BlueLagoon.ForegroundPlans
import BlueLagoon.Runtime
import BlueLagoon.TurnEffects

/-!
# What processing a batch touches

Whatever the processing of a batch does, execution records only advance and stored ingress
events stay stored. An event that is being processed leaves an execution that has not ended
only where the log says so. Most steps are quiet: they tell the log nothing of the foreground
executions.
-/

namespace BlueLagoon

open Interleaving Harness

namespace Foreground

/-- An ingress event is being processed for the execution. -/
def Processing (executionId : Uuid) (db : Database) : Prop :=
  ∃ row ∈ db.ingressEvents,
    row.executionId = some executionId ∧ row.foregroundStatus = "processing"

/-- The delivery is stored. -/
def Stored (channelKind : ChannelKind) (externalEventId : String) (db : Database) : Prop :=
  ∃ row ∈ db.ingressEvents,
    row.channelKind = channelKind ∧ row.externalEventId = externalEventId

end Foreground

open Foreground

/-- What a step of the processing of a batch does to executions and ingress events, with events
of the kind `E`. -/
structure ForegroundStep (E : Event → Prop) (db db' : Database) (events : List Event) : Prop where
  executions : Execution.Advances db.executionRecords db'.executionRecords
  stored : ∀ channelKind externalEventId, Stored channelKind externalEventId db →
    Stored channelKind externalEventId db'
  processing : ∀ executionId, Processing executionId db → Execution.Started executionId db →
    .ingressTakenOver executionId ∉ events → Processing executionId db'
  events : ∀ e ∈ events, E e

/-- An event by which no execution starts and nothing is planned. -/
def Event.Unstarted : Event → Prop
  | .executionStarted _ | .planningRequested _ | .foregroundPlanned _ _ _ => False
  | _ => True

theorem Event.Quiet.unstarted {e : Event} (h : e.Quiet) : e.Unstarted := by
  cases e <;> trivial

/-- A step that tells the log nothing of the foreground executions. -/
abbrev QuietStep : Database → Database → List Event → Prop := ForegroundStep Event.Quiet

/-- A step by which no execution starts. -/
abbrev LaterStep : Database → Database → List Event → Prop := ForegroundStep Event.Unstarted

/-- Any step. -/
abbrev AnyStep : Database → Database → List Event → Prop := ForegroundStep fun _ => True

namespace ForegroundStep

variable {E E' : Event → Prop} {db db' : Database} {events : List Event}

theorem mono (hE : ∀ e, E e → E' e) (h : ForegroundStep E db db' events) :
    ForegroundStep E' db db' events :=
  { h with events := fun e he => hE e (h.events e he) }

/-- A step that leaves the ingress events as they are. -/
theorem of_ingress (hexecutions : Execution.Advances db.executionRecords db'.executionRecords)
    (hingress : db'.ingressEvents = db.ingressEvents) (hevents : ∀ e ∈ events, E e) :
    ForegroundStep E db db' events where
  executions := hexecutions
  stored := by
    intro channelKind externalEventId hstored
    unfold Stored
    rw [hingress]
    exact hstored
  processing := by
    intro executionId hprocessing _ _
    unfold Processing
    rw [hingress]
    exact hprocessing
  events := hevents

theorem refl (db : Database) : ForegroundStep E db db [] :=
  of_ingress (.refl _) rfl (by simp)

/-- A step of a turn. -/
theorem of_turn {T : Event → Prop} (hT : ∀ e, T e → E e) (h : TurnStep T db db' events) :
    ForegroundStep E db db' events :=
  of_ingress h.executions h.ingressEvents fun e he => hT e (h.events e he)

theorem of_executions (db : Database) (rows : List ExecutionRecord)
    (h : Execution.Advances db.executionRecords rows) :
    ForegroundStep E db { db with executionRecords := rows } [] :=
  of_ingress h rfl (by simp)

theorem of_audit (db : Database) (rows : List AuditEvent) :
    ForegroundStep E db { db with auditEvents := rows } [] :=
  of_ingress (.refl _) rfl (by simp)

theorem of_causalLinks (db : Database) (rows : List CausalLinkRecord) :
    ForegroundStep E db { db with causalLinks := rows } [] :=
  of_ingress (.refl _) rfl (by simp)

theorem of_episodes (db : Database) (rows : List EpisodeRecord) :
    ForegroundStep E db { db with episodes := rows } [] :=
  of_ingress (.refl _) rfl (by simp)

theorem of_episodeMessages (db : Database) (rows : List EpisodeMessageRecord) :
    ForegroundStep E db { db with episodeMessages := rows } [] :=
  of_ingress (.refl _) rfl (by simp)

/-- Each event is still there, with the execution and the status that it had. -/
theorem of_kept (hexecutions : Execution.Advances db.executionRecords db'.executionRecords)
    (hkept : ∀ row ∈ db.ingressEvents, ∃ row' ∈ db'.ingressEvents,
      row'.channelKind = row.channelKind ∧ row'.externalEventId = row.externalEventId ∧
        row'.executionId = row.executionId ∧ row'.foregroundStatus = row.foregroundStatus)
    (hevents : ∀ e ∈ events, E e) : ForegroundStep E db db' events where
  executions := hexecutions
  stored := by
    intro channelKind externalEventId hstored
    obtain ⟨row, hrow, hchannel, hevent⟩ := hstored
    obtain ⟨row', hrow', hsameChannel, hsameEvent, -, -⟩ := hkept row hrow
    exact ⟨row', hrow', hsameChannel.trans hchannel, hsameEvent.trans hevent⟩
  processing := by
    intro executionId hprocessing _ _
    obtain ⟨row, hrow, howner, hstatus⟩ := hprocessing
    obtain ⟨row', hrow', -, -, hsameOwner, hsameStatus⟩ := hkept row hrow
    exact ⟨row', hrow', hsameOwner.trans howner, hsameStatus.trans hstatus⟩
  events := hevents

/-- Events that are changed stay stored; the log tells from which executions they were taken. -/
theorem of_changed {which : IngressEventRecord → Bool}
    {change : IngressEventRecord → IngressEventRecord}
    (hexecutions : Execution.Advances db.executionRecords db'.executionRecords)
    (hingress : db'.ingressEvents = Table.update which change db.ingressEvents)
    (hkey : ∀ row, (change row).channelKind = row.channelKind ∧
      (change row).externalEventId = row.externalEventId)
    (htaken : ∀ row ∈ db.ingressEvents, which row = true → ∀ executionId,
      liveOwner db row = some executionId → .ingressTakenOver executionId ∈ events)
    (hevents : ∀ e ∈ events, E e) : ForegroundStep E db db' events where
  executions := hexecutions
  stored := by
    intro channelKind externalEventId hstored
    obtain ⟨row, hrow, hchannel, hevent⟩ := hstored
    refine ⟨if which row then change row else row, ?_, ?_⟩
    · rw [hingress]
      exact List.mem_map_of_mem hrow
    · obtain ⟨hsameChannel, hsameEvent⟩ := hkey row
      split
      · exact ⟨hsameChannel.trans hchannel, hsameEvent.trans hevent⟩
      · exact ⟨hchannel, hevent⟩
  processing := by
    intro executionId hprocessing hstarted huntaken
    obtain ⟨row, hrow, howner, hstatus⟩ := hprocessing
    have hlive : liveOwner db row = some executionId := by
      unfold liveOwner
      rw [if_pos hstatus, howner]
      simp [hstarted]
    have hnot : ¬ which row = true := fun hwhich => huntaken (htaken row hrow hwhich _ hlive)
    refine ⟨row, ?_, howner, hstatus⟩
    rw [hingress]
    exact Table.mem_update.mpr (Or.inl ⟨hrow, Bool.eq_false_iff.mpr hnot⟩)
  events := hevents

end ForegroundStep

/-! ## Quiet programs -/

section Quiet

/-- A turn's step is quiet if its events are. -/
theorem confined_quiet {α : Type} {T : Event → Prop} (hT : ∀ e, T e → e.Quiet) {p : Harness α}
    (hp : p.Confined (OnDb (TurnStep T))) : p.Confined (OnDb QuietStep) :=
  hp.mono fun _ _ _ h => ⟨.of_turn hT h.1, h.2⟩

/-- A quiet program is one by which no execution starts. -/
theorem confined_later {α : Type} {p : Harness α} (hp : p.Confined (OnDb QuietStep)) :
    p.Confined (OnDb LaterStep) :=
  hp.mono fun _ _ _ h => ⟨h.1.mono fun _ => Event.Quiet.unstarted, h.2⟩

theorem confined_any {α : Type} {p : Harness α} (hp : p.Confined (OnDb LaterStep)) :
    p.Confined (OnDb AnyStep) :=
  hp.mono fun _ _ _ h => ⟨h.1.mono fun _ _ => trivial, h.2⟩

theorem quietStep_emitting (db : Database) {event : Event} (h : event.Quiet) :
    QuietStep db db [event] :=
  .of_ingress (.refl _) rfl (by simpa using h)

theorem quietStep_tolerates : Recovery.Tolerates QuietStep := by
  intro db checkpoints diagnostics events hevents
  refine .of_ingress (.refl _) rfl fun e he => ?_
  rcases hevents with rfl | ⟨id, rfl⟩
  · simp at he
  · obtain rfl : e = .checkpointOpened id := by simpa using he
    trivial

theorem quietStep_settling : Approval.AllowsSettling QuietStep where
  triggers := quietStep_tolerates
  transition := by
    intro resolutionId eventId record transition resolvedAt now db
    unfold Approval.applyResolutionTransition
    split
    · refine .of_ingress (.refl _) rfl fun e he => ?_
      obtain rfl := List.mem_singleton.mp he
      trivial
    · exact .refl db

namespace Orchestration

section Turns

variable [GovernedActionServices]

theorem consciousPass_quiet (config : RuntimeConfig) (trigger : ForegroundTrigger)
    (tracker : ForegroundActionLoopTracker) (observations : List GovernedActionObservation) :
    (consciousPass config trigger tracker observations).Confined (OnDb QuietStep) := by
  have emits : ∀ e : Event, e.Quiet → (Prog.emit e : Harness Unit).Confined (OnDb QuietStep) :=
    fun e he => Prog.Confined.emit fun w => OnDb.emit (quietStep_emitting w.db he)
  refine Prog.Confined.bind (emits _ trivial) fun _ => ?_
  refine Prog.Confined.bind (emits _ trivial) fun _ => ?_
  refine Prog.Confined.bind (confined_quiet (fun e he => he.ofRound.quiet)
    (launchLeasedConsciousWorker_routine _ _ _)) fun response => ?_
  refine Prog.Confined.bind (confined_expect _) fun result => ?_
  refine Prog.Confined.bind (confined_quiet (fun e => Event.OfRound.quiet)
    (processGovernedActionProposals_ofRound _ _ _ _)) fun round => ?_
  exact Prog.Confined.bind (emits _ trivial) fun _ => Prog.confined_ret _

theorem consciousTurnLoop_quiet (config : RuntimeConfig) (trigger : ForegroundTrigger)
    (fuel workerPassCount : Nat) (tracker : ForegroundActionLoopTracker)
    (summary : GovernedActionProcessingSummary) (limitFollowUpConsumed : Bool)
    (observations : List GovernedActionObservation) :
    (consciousTurnLoop config trigger fuel workerPassCount tracker summary
      limitFollowUpConsumed observations).Confined (OnDb QuietStep) := by
  induction fuel generalizing workerPassCount tracker summary limitFollowUpConsumed
    observations with
  | zero => exact Prog.confined_fail _
  | succ fuel ih =>
    unfold consciousTurnLoop
    refine Prog.Confined.bind (consciousPass_quiet _ _ _ _) fun pass => ?_
    dsimp only
    split
    · exact ih _ _ _ _ _
    · exact Prog.confined_ret _

theorem executeConsciousTurn_quiet (config : RuntimeConfig) (trigger : ForegroundTrigger)
    (initialExecutedActionCount : Nat) (observations : List GovernedActionObservation) :
    (executeConsciousTurn config trigger initialExecutedActionCount observations).Confined
      (OnDb QuietStep) :=
  consciousTurnLoop_quiet _ _ _ _ _ _ _ _

theorem executeIfApproved_quiet (config : RuntimeConfig) (decision : ApprovalResolutionDecision)
    (synced : GovernedActionExecutionRecord) :
    (executeIfApproved config decision synced).Confined (OnDb QuietStep) := by
  unfold executeIfApproved
  split
  · refine Prog.Confined.bind (confined_quiet (fun e => Event.OfRound.quiet)
      (GovernedActions.executeGovernedAction_ofRound _ _)) fun executed => ?_
    exact Prog.confined_ret _
  · exact Prog.confined_ret _

end Turns

/-! ### Failures -/

theorem failEpisode_quiet (errorMessage : String) (episodeId : Option Uuid) :
    (failEpisode errorMessage episodeId).Confined (OnDb QuietStep) := by
  cases episodeId with
  | none => exact Prog.confined_ret _
  | some episodeId =>
    exact Foreground.markEpisodeFailed_confined ForegroundStep.of_episodes _ _ _

theorem noteFollowUpFailure_quiet (trigger : ForegroundTrigger) (payload : Json) :
    (noteFollowUpFailure trigger payload).Confined (OnDb QuietStep) := by
  refine Prog.Confined.bind (Prog.Confined.attempt
    (Audit.insert_confined ForegroundStep.of_audit _)) fun _ => ?_
  exact Prog.confined_ret _

theorem deliverForegroundFailureNotice_quiet (target : ForegroundFailureDeliveryTarget)
    (noticeText : String) :
    (deliverForegroundFailureNotice target noticeText).Confined (OnDb QuietStep) := by
  refine Prog.Confined.bind (Prog.Confined.attempt (confined_sendMessage _ _ _)) fun sent => ?_
  cases sent <;> exact Prog.confined_ret _

theorem persistForegroundFailureNotice_quiet (context : ForegroundFailureContext)
    (noticeText : String) :
    (persistForegroundFailureNotice context noticeText).Confined (OnDb QuietStep) := by
  unfold persistForegroundFailureNotice
  split
  · exact Prog.confined_ret _
  · refine Prog.Confined.bind (confined_fetch .refl) fun _ => ?_
    refine Prog.Confined.bind (confined_newUuid .refl) fun _ => ?_
    refine Prog.Confined.bind (Prog.Confined.mapError (Foreground.insertEpisodeMessage_confined
      (fun db _ => .of_episodeMessages db _) .refl _)) fun _ => ?_
    exact Prog.confined_ret _

theorem updateEpisodeMessageExternalMessageId_quiet (episodeMessageId : Uuid)
    (externalMessageId : String) :
    (Foreground.updateEpisodeMessageExternalMessageId episodeMessageId
      externalMessageId).Confined (OnDb QuietStep) := by
  refine confined_execute .refl fun now db effect hbody => ?_
  obtain rfl := Except.ok.inj hbody
  exact .of_episodeMessages db _

theorem attachDeliveredNotice_quiet (episodeMessageId : Option Uuid)
    (outboundMessageId : Option Int) :
    (attachDeliveredNotice episodeMessageId outboundMessageId).Confined (OnDb QuietStep) := by
  unfold attachDeliveredNotice
  split
  · exact Prog.Confined.mapError (updateEpisodeMessageExternalMessageId_quiet _ _)
  · exact Prog.confined_ret _

/-! ### Follow-ups -/

section Turns

variable [GovernedActionServices]

theorem followUpTurn_quiet (config : RuntimeConfig) (trigger : ForegroundTrigger)
    (followUpEpisodeId : Uuid) (chatId : Int) (replyToMessageId : Option Int)
    (executed : GovernedActionExecutionResult) :
    (followUpTurn config trigger followUpEpisodeId chatId replyToMessageId executed).Confined
      (OnDb QuietStep) := by
  refine Prog.Confined.bind (confined_assembleForegroundContext _) fun _ => ?_
  refine Prog.Confined.bind (executeConsciousTurn_quiet _ _ _ _) fun turn => ?_
  refine Prog.Confined.bind (confined_newUuid .refl) fun _ => ?_
  refine Prog.Confined.bind (Foreground.insertEpisodeMessage_confined
    (fun db _ => .of_episodeMessages db _) .refl _) fun _ => ?_
  refine Prog.Confined.bind confined_applyCandidateProposals fun _ => ?_
  refine Prog.Confined.bind (confined_sendMessage _ _ _) fun _ => ?_
  refine Prog.Confined.bind (updateEpisodeMessageExternalMessageId_quiet _ _) fun _ => ?_
  exact Foreground.markEpisodeCompleted_confined ForegroundStep.of_episodes _ _ _

theorem followUpIfExecuted_quiet (config : RuntimeConfig) (trigger : ForegroundTrigger)
    (chatId : Int) (replyToMessageId : Option Int)
    (executed : Option GovernedActionExecutionResult) :
    (followUpIfExecuted config trigger chatId replyToMessageId executed).Confined
      (OnDb QuietStep) := by
  cases executed with
  | none => exact Prog.confined_ret _
  | some executed =>
    refine Prog.Confined.bind (confined_newUuid .refl) fun followUpEpisodeId => ?_
    refine Prog.Confined.bind (Prog.Confined.attempt
      (Foreground.insertEpisode_confined ForegroundStep.of_episodes _)) fun inserted => ?_
    cases inserted with
    | error error => exact noteFollowUpFailure_quiet _ _
    | ok _ =>
      refine Prog.Confined.bind (Prog.Confined.attempt (followUpTurn_quiet _ _ _ _ _ _))
        fun result => ?_
      cases result with
      | ok _ => exact Prog.confined_ret _
      | error error =>
        refine Prog.Confined.bind (Prog.Confined.attempt
          (Foreground.markEpisodeFailed_confined ForegroundStep.of_episodes _ _ _)) fun _ => ?_
        exact noteFollowUpFailure_quiet _ _

end Turns

/-! ### Triggers -/

theorem buildForegroundTriggerWithKind_quiet (config : RuntimeConfig) (traceId executionId : Uuid)
    (triggerKind : ForegroundTriggerKind) (ingress : NormalizedIngress) :
    (Foreground.buildForegroundTriggerWithKind config traceId executionId triggerKind
      ingress).Confined (OnDb QuietStep) := by
  refine Prog.Confined.bind (Prog.confined_ofExcept _) fun _ => ?_
  refine Prog.Confined.bind (confined_newUuid .refl) fun _ => ?_
  exact Prog.Confined.bind (confined_utcNow .refl) fun _ => Prog.confined_ret _

theorem planTrigger_quiet (config : RuntimeConfig) (execution : TelegramForegroundPlanExecution) :
    (planTrigger config execution).Confined (OnDb QuietStep) := by
  refine Prog.Confined.bind (Prog.Confined.bind (confined_fetchOne .refl) fun _ =>
    Prog.confined_ofExcept _) fun ingress => ?_
  split
  · exact buildForegroundTriggerWithKind_quiet _ _ _ _ _
  · exact buildForegroundTriggerWithKind_quiet _ _ _ _ _

end Orchestration

end Quiet

/-! ## Programs by which no execution starts -/

namespace Foreground

theorem mem_takenOver {db : Database} {ingressId executionId : Uuid} {row : IngressEventRecord}
    (hrow : row ∈ db.ingressEvents) (hid : row.ingressId = ingressId)
    (hlive : liveOwner db row = some executionId) :
    .ingressTakenOver executionId ∈ takenOver ingressId db := by
  unfold takenOver
  refine List.mem_map_of_mem (List.mem_filterMap.mpr ⟨row, ?_, hlive⟩)
  exact List.mem_filter.mpr ⟨hrow, decide_eq_true hid⟩

theorem takenOver_unstarted {db : Database} {ingressId : Uuid} {e : Event}
    (h : e ∈ takenOver ingressId db) : e.Unstarted := by
  unfold takenOver at h
  obtain ⟨executionId, -, rfl⟩ := List.mem_map.mp h
  trivial

theorem setForegroundState_later (ingressId : Uuid) (executionId : Option Uuid)
    (foregroundStatus : String) (now : DateTime) (db : Database) :
    LaterStep db (setForegroundState ingressId executionId foregroundStatus now db)
      (takenOver ingressId db) := by
  refine ForegroundStep.of_changed (.refl _) rfl (fun _ => ⟨rfl, rfl⟩) ?_ ?_
  · intro row hrow hwhich owner hlive
    exact mem_takenOver hrow (of_decide_eq_true hwhich) hlive
  · intro e he
    exact takenOver_unstarted he

theorem markIngressEventProcessed_later (ingressId executionId : Uuid) :
    (markIngressEventProcessed ingressId executionId).Confined (OnDb LaterStep) := by
  refine confined_execute .refl fun now db effect hbody => ?_
  obtain rfl := Except.ok.inj hbody
  exact setForegroundState_later _ _ _ _ _

theorem markIngressEventsProcessed_later (ingressIds : List Uuid) (executionId : Uuid) :
    (markIngressEventsProcessed ingressIds executionId).Confined (OnDb LaterStep) :=
  Prog.Confined.foldlM (fun _ _ => markIngressEventProcessed_later _ _) _ _

end Foreground

namespace Orchestration

theorem recordForegroundFailure_quiet (trigger : ForegroundTrigger) (episodeId : Option Uuid)
    (failureKind : ForegroundFailureKind) (errorMessage : String) :
    (recordForegroundFailure trigger episodeId failureKind errorMessage).Confined
      (OnDb QuietStep) := by
  refine Prog.Confined.bind (Execution.markFailed_confined ForegroundStep.of_executions _ _)
    fun _ => ?_
  refine Prog.Confined.bind (failEpisode_quiet _ _) fun _ => ?_
  exact Prog.Confined.bind (Audit.insert_confined ForegroundStep.of_audit _) fun _ =>
    Prog.confined_ret _

theorem recordAndReturnApprovalResolutionFailure_later {α : Type} (trigger : ForegroundTrigger)
    (failureKind : ForegroundFailureKind) (error : ErrorChain) :
    (@recordAndReturnApprovalResolutionFailure α trigger failureKind error).Confined
      (OnDb LaterStep) := by
  refine Prog.Confined.bind (confined_later (Prog.Confined.attempt
    (recordForegroundFailure_quiet _ _ _ _))) fun recorded => ?_
  cases recorded with
  | error recordError => exact Prog.confined_fail _
  | ok _ =>
    refine Prog.Confined.bind (Prog.Confined.attempt
      (Foreground.markIngressEventProcessed_later _ _)) fun processed => ?_
    cases processed with
    | error processError => exact Prog.confined_fail _
    | ok _ => exact Prog.confined_fail _

theorem recordAndReturnFailure_quiet {α : Type} (trigger : ForegroundTrigger)
    (episodeId : Option Uuid) (failureKind : ForegroundFailureKind) (error : ErrorChain) :
    (@recordAndReturnFailure α trigger episodeId failureKind error).Confined
      (OnDb QuietStep) := by
  refine Prog.Confined.bind (Prog.Confined.attempt (recordForegroundFailure_quiet _ _ _ _))
    fun recorded => ?_
  cases recorded with
  | error recordError => exact Prog.confined_fail _
  | ok _ => exact Prog.confined_fail _

theorem recordAndDeliverForegroundFailure_later (context : ForegroundFailureContext)
    (failureKind : ForegroundFailureKind) (errorMessage : String)
    (target : ForegroundFailureDeliveryTarget) :
    (recordAndDeliverForegroundFailure context failureKind errorMessage target).Confined
      (OnDb LaterStep) := by
  refine Prog.Confined.bind (confined_later (Prog.Confined.attempt
    (recordForegroundFailure_quiet _ _ _ _))) fun recorded => ?_
  cases recorded with
  | error recordError =>
    refine Prog.Confined.bind (confined_later (deliverForegroundFailureNotice_quiet _ _))
      fun _ => ?_
    exact Prog.confined_fail _
  | ok _ =>
    refine Prog.Confined.bind (confined_later (Prog.Confined.attempt
      (persistForegroundFailureNotice_quiet _ _))) fun persisted => ?_
    refine Prog.Confined.bind (confined_later (deliverForegroundFailureNotice_quiet _ _))
      fun receipt => ?_
    refine Prog.Confined.bind (Prog.Confined.attempt (Prog.Confined.mapError
      (Foreground.markIngressEventsProcessed_later _ _))) fun closed => ?_
    refine Prog.Confined.bind (Prog.confined_ofExcept _) fun persistedMessageId => ?_
    refine Prog.Confined.bind (confined_later (attachDeliveredNotice_quiet _ _)) fun _ => ?_
    exact Prog.confined_ofExcept _

theorem recordDeliverAndReturnFailure_later {α : Type} (context : ForegroundFailureContext)
    (failureKind : ForegroundFailureKind) (target : ForegroundFailureDeliveryTarget)
    (error : ErrorChain) :
    (@recordDeliverAndReturnFailure α context failureKind target error).Confined
      (OnDb LaterStep) := by
  refine Prog.Confined.bind (Prog.Confined.attempt
    (recordAndDeliverForegroundFailure_later _ _ _ _)) fun recorded => ?_
  cases recorded with
  | error recordError => exact Prog.confined_fail _
  | ok _ => exact Prog.confined_fail _

/-! ### Steps with a failure of their own -/

theorem orFail_later {α : Type} (trigger : ForegroundTrigger)
    (failureKind : ForegroundFailureKind) {step : Harness α}
    (hstep : step.Confined (OnDb LaterStep)) :
    (orFail trigger failureKind step).Confined (OnDb LaterStep) := by
  refine Prog.Confined.bind (Prog.Confined.attempt hstep) fun result => ?_
  cases result with
  | ok value => exact Prog.confined_ret _
  | error error => exact recordAndReturnApprovalResolutionFailure_later _ _ _

theorem orRecordFailure_quiet {α : Type} (trigger : ForegroundTrigger) (episodeId : Option Uuid)
    (failureKind : ForegroundFailureKind) {step : Harness α}
    (hstep : step.Confined (OnDb QuietStep)) :
    (orRecordFailure trigger episodeId failureKind step).Confined (OnDb QuietStep) := by
  refine Prog.Confined.bind (Prog.Confined.attempt hstep) fun result => ?_
  cases result with
  | ok value => exact Prog.confined_ret _
  | error error => exact recordAndReturnFailure_quiet _ _ _ _

theorem orDeliverFailure_later {α : Type} (context : ForegroundFailureContext)
    (failureKind : ForegroundFailureKind) (target : ForegroundFailureDeliveryTarget)
    {step : Harness α} (hstep : step.Confined (OnDb LaterStep)) :
    (orDeliverFailure context failureKind target step).Confined (OnDb LaterStep) := by
  refine Prog.Confined.bind (Prog.Confined.attempt hstep) fun result => ?_
  cases result with
  | ok value => exact Prog.confined_ret _
  | error error => exact recordDeliverAndReturnFailure_later _ _ _ _

/-! ### Executions -/

theorem openEpisode_quiet (trigger : ForegroundTrigger) (episodeId : Uuid)
    (userMessages : List UserEpisodeMessage) :
    (openEpisode trigger episodeId userMessages).Confined (OnDb QuietStep) := by
  refine Prog.Confined.bind (orRecordFailure_quiet _ _ _
    (Foreground.insertEpisode_confined ForegroundStep.of_episodes _)) fun _ => ?_
  refine Prog.Confined.bind (orRecordFailure_quiet _ _ _
    (CausalLinks.insert_confined ForegroundStep.of_causalLinks _)) fun _ => ?_
  refine Prog.Confined.foldlM (fun _ entry => ?_) _ _
  refine Prog.Confined.bind (confined_newUuid .refl) fun _ => ?_
  exact orRecordFailure_quiet _ _ _ (Foreground.insertEpisodeMessage_confined
    (fun db _ => .of_episodeMessages db _) .refl _)

theorem deliverAnswer_later (trigger : ForegroundTrigger) (failure : ForegroundFailureContext)
    (target : ForegroundFailureDeliveryTarget) (episodeId : Uuid) (messageOrder : Nat)
    (assistantText : String) :
    (deliverAnswer trigger failure target episodeId messageOrder assistantText).Confined
      (OnDb LaterStep) := by
  refine Prog.Confined.bind (confined_newUuid .refl) fun _ => ?_
  refine Prog.Confined.bind (orDeliverFailure_later _ _ _
    (Foreground.insertEpisodeMessage_confined (fun db _ => .of_episodeMessages db _) .refl _))
    fun _ => ?_
  refine Prog.Confined.bind (Prog.Confined.attempt (confined_sendMessage _ _ _)) fun sent => ?_
  cases sent with
  | error error =>
    refine Prog.Confined.bind (confined_later (recordForegroundFailure_quiet _ _ _ _)) fun _ => ?_
    exact Prog.confined_fail _
  | ok messageId =>
    refine Prog.Confined.bind (orDeliverFailure_later _ _ _
      (confined_later (updateEpisodeMessageExternalMessageId_quiet _ _))) fun _ => ?_
    exact Prog.confined_ret _

theorem completeExecution_later (trigger : ForegroundTrigger)
    (recoveryContext : ForegroundRecoveryContext) (failure : ForegroundFailureContext)
    (target : ForegroundFailureDeliveryTarget) (episodeId : Uuid) (turn : ConsciousTurnLoopOutcome)
    (proposals : ProposalProcessingSummary) (outboundMessageId : Int) :
    (completeExecution trigger recoveryContext failure target episodeId turn proposals
      outboundMessageId).Confined (OnDb LaterStep) := by
  refine Prog.Confined.bind (orDeliverFailure_later _ _ _
    (Execution.markSucceeded_confined ForegroundStep.of_executions _ _ _ _)) fun _ => ?_
  refine Prog.Confined.bind (orDeliverFailure_later _ _ _
    (Foreground.markEpisodeCompleted_confined ForegroundStep.of_episodes _ _ _)) fun _ => ?_
  refine Prog.Confined.bind (orDeliverFailure_later _ _ _
    (Foreground.markIngressEventsProcessed_later _ _)) fun _ => ?_
  refine Prog.Confined.bind (orDeliverFailure_later _ _ _
    (Audit.insert_confined ForegroundStep.of_audit _)) fun _ => ?_
  exact Prog.confined_ret _

theorem completeResolution_later (trigger : ForegroundTrigger)
    (parsed : ParsedApprovalResolutionIngress) (resolution : ApprovalResolutionResult)
    (executed : Option GovernedActionExecutionResult) (outboundMessageId : Int) :
    (completeResolution trigger parsed resolution executed outboundMessageId).Confined
      (OnDb LaterStep) := by
  refine Prog.Confined.bind (orFail_later _ _
    (Execution.markSucceeded_confined ForegroundStep.of_executions _ _ _ _)) fun _ => ?_
  refine Prog.Confined.bind (orFail_later _ _ (Foreground.markIngressEventProcessed_later _ _))
    fun _ => ?_
  refine Prog.Confined.bind (orFail_later _ _
    (Audit.insert_confined ForegroundStep.of_audit _)) fun _ => ?_
  exact Prog.confined_ret _

theorem approvalRequestOfToken_later (trigger : ForegroundTrigger)
    (parsed : ParsedApprovalResolutionIngress) :
    (approvalRequestOfToken trigger parsed).Confined (OnDb LaterStep) := by
  refine Prog.Confined.bind (orFail_later _ _ (confined_fetch .refl)) fun found => ?_
  cases found with
  | some request => exact Prog.confined_ret _
  | none => exact recordAndReturnApprovalResolutionFailure_later _ _ _

theorem syncStatusFromApprovalResolution_quiet (governedActionExecutionId : Uuid)
    (decision : ApprovalResolutionDecision) (executionId : Option Uuid)
    (reason : Option String) :
    (GovernedActions.syncStatusFromApprovalResolution governedActionExecutionId decision
      executionId reason).Confined (OnDb QuietStep) :=
  confined_quiet (fun _ he => he.ofRound.quiet)
    (GovernedActions.updateGovernedActionExecution_routine _ (by simp))

variable [GovernedActionServices]

theorem answerInContext_later (config : RuntimeConfig) (trigger : ForegroundTrigger)
    (failure : ForegroundFailureContext) (target : ForegroundFailureDeliveryTarget)
    (episodeId : Uuid) :
    (answerInContext config trigger failure target episodeId).Confined (OnDb LaterStep) := by
  refine Prog.Confined.bind (orDeliverFailure_later _ _ _
    (confined_assembleForegroundContext _)) fun metadata => ?_
  refine Prog.Confined.bind (orDeliverFailure_later _ _ _
    (Audit.insert_confined ForegroundStep.of_audit _)) fun _ => ?_
  refine Prog.Confined.bind (confined_later (Prog.Confined.attempt
    (executeConsciousTurn_quiet _ _ _ _))) fun turn => ?_
  cases turn with
  | ok turn => exact Prog.confined_ret _
  | error error =>
    refine Prog.Confined.bind (recordAndDeliverForegroundFailure_later _ _ _ _) fun _ => ?_
    exact Prog.confined_fail _

theorem orchestrateTelegramForegroundTrigger_later (config : RuntimeConfig)
    (trigger : ForegroundTrigger) (recoveryContext : ForegroundRecoveryContext)
    (userMessages : List UserEpisodeMessage) :
    (orchestrateTelegramForegroundTrigger config trigger recoveryContext userMessages).Confined
      (OnDb LaterStep) := by
  refine Prog.Confined.bind (confined_newUuid .refl) fun episodeId => ?_
  refine Prog.Confined.bind (confined_later (openEpisode_quiet _ _ _)) fun _ => ?_
  refine Prog.Confined.bind (confined_later (orRecordFailure_quiet _ _ _
    (Prog.confined_ofExcept _))) fun chatId => ?_
  refine Prog.Confined.bind (confined_later (orRecordFailure_quiet _ _ _
    (Prog.confined_ofExcept _))) fun replyToMessageId => ?_
  refine Prog.Confined.bind (answerInContext_later _ _ _ _ _) fun turn => ?_
  refine Prog.Confined.bind (Prog.confined_query _) fun fallback => ?_
  refine Prog.Confined.bind (deliverAnswer_later _ _ _ _ _ _) fun outboundMessageId => ?_
  refine Prog.Confined.bind (orDeliverFailure_later _ _ _ confined_applyCandidateProposals)
    fun proposals => ?_
  refine Prog.Confined.bind (completeExecution_later _ _ _ _ _ _ _ _) fun _ => ?_
  exact Prog.confined_ret _

theorem settleLinkedAction_later (config : RuntimeConfig) (trigger : ForegroundTrigger)
    (resolution : ApprovalResolutionResult) :
    (settleLinkedAction config trigger resolution).Confined (OnDb LaterStep) := by
  refine Prog.Confined.bind (orFail_later _ _ (confined_fetch .refl)) fun linked => ?_
  cases linked with
  | none => exact Prog.confined_ret _
  | some record =>
    refine Prog.Confined.bind (orFail_later _ _
      (confined_later (syncStatusFromApprovalResolution_quiet _ _ _ _))) fun synced => ?_
    exact orFail_later _ _ (confined_later (executeIfApproved_quiet _ _ _))

theorem orchestrateTelegramApprovalResolutionTrigger_later (config : RuntimeConfig)
    (trigger : ForegroundTrigger) (parsed : ParsedApprovalResolutionIngress) :
    (orchestrateTelegramApprovalResolutionTrigger config trigger parsed).Confined
      (OnDb LaterStep) := by
  refine Prog.Confined.bind (approvalRequestOfToken_later _ _) fun request => ?_
  refine Prog.Confined.bind (orFail_later _ _
    (confined_later (quietStep_settling.resolveApprovalRequest _))) fun resolution => ?_
  refine Prog.Confined.bind (orFail_later _ _ (Prog.confined_ofExcept _)) fun chatId => ?_
  refine Prog.Confined.bind (orFail_later _ _ (Prog.confined_ofExcept _))
    fun replyToMessageId => ?_
  refine Prog.Confined.bind (settleLinkedAction_later _ _ _) fun executed => ?_
  refine Prog.Confined.bind (orFail_later _ _ (confined_sendMessage _ _ _))
    fun outboundMessageId => ?_
  refine Prog.Confined.bind (confined_later (followUpIfExecuted_quiet _ _ _ _ _)) fun _ => ?_
  refine Prog.Confined.bind (completeResolution_later _ _ _ _ _) fun _ => ?_
  exact Prog.confined_ret _

theorem orchestrateTrigger_later (config : RuntimeConfig) (trigger : ForegroundTrigger)
    (recoveryContext : ForegroundRecoveryContext) (candidateMessages : List UserEpisodeMessage) :
    (orchestrateTrigger config trigger recoveryContext candidateMessages).Confined
      (OnDb LaterStep) := by
  refine Prog.Confined.bind (Prog.confined_ofExcept _) fun parsed => ?_
  cases parsed with
  | some parsed =>
    refine Prog.Confined.bind (orchestrateTelegramApprovalResolutionTrigger_later _ _ _)
      fun completion => ?_
    exact Prog.confined_ret _
  | none =>
    refine Prog.Confined.bind (orchestrateTelegramForegroundTrigger_later _ _ _ _)
      fun completion => ?_
    exact Prog.confined_ret _

theorem orchestrateTelegramForegroundPlan_later (config : RuntimeConfig)
    (execution : TelegramForegroundPlanExecution) :
    (orchestrateTelegramForegroundPlan config execution).Confined (OnDb LaterStep) :=
  Prog.Confined.bind (confined_later (planTrigger_quiet _ _)) fun _ =>
    orchestrateTrigger_later _ _ _ _

end Orchestration

/-! ## Plans -/

namespace Runtime

theorem recoverRestart_quiet (traceId executionId : Uuid) (internalConversationRef : String)
    (plan : PendingForegroundExecutionPlan) (recovery : RestartRecovery) :
    (recoverRestart traceId executionId internalConversationRef plan recovery).Confined
      (OnDb QuietStep) := by
  refine Prog.Confined.bind (Prog.Confined.emit fun w => ?_) fun _ => ?_
  · exact OnDb.emit (quietStep_emitting w.db trivial)
  · refine Prog.Confined.bind (confined_utcNow .refl) fun now => ?_
    exact Prog.Confined.mapError
      (Recovery.recoverForegroundRestartTrigger_confined quietStep_tolerates _ _)

theorem handleBlockedTelegramForegroundRecovery_later
    (blocked : BlockedTelegramForegroundRecovery) :
    (handleBlockedTelegramForegroundRecovery blocked).Confined (OnDb LaterStep) := by
  refine Prog.Confined.bind (Execution.markFailed_confined ForegroundStep.of_executions _ _)
    fun _ => ?_
  refine Prog.Confined.bind (Foreground.markIngressEventsProcessed_later _ _) fun _ => ?_
  refine Prog.Confined.bind (Prog.confined_ofExcept _) fun replyToMessageId => ?_
  refine Prog.Confined.bind (Prog.Confined.attempt (confined_sendMessage _ _ _)) fun _ => ?_
  exact Prog.confined_ret _

variable [GovernedActionServices]

theorem startPlan_later (context : TelegramProcessingContext) (traceId executionId : Uuid)
    (plan : PendingForegroundExecutionPlan) (recovery : Option RestartRecovery)
    (summary : TelegramProcessingSummary) :
    (startPlan context traceId executionId plan recovery summary).Confined
      (OnDb LaterStep) := by
  refine Prog.Confined.bind (Prog.Confined.emit fun w => ?_) fun _ => ?_
  · have hquiet : (Event.planOrchestrated executionId).Quiet := trivial
    exact OnDb.emit ((quietStep_emitting w.db hquiet).mono fun _ => Event.Quiet.unstarted)
  · refine Prog.Confined.bind (Orchestration.orchestrateTelegramForegroundPlan_later _ _)
      fun outcome => ?_
    cases outcome <;> exact Prog.confined_ret _

theorem servePlan_later (context : TelegramProcessingContext) (traceId executionId : Uuid)
    (internalConversationRef : String) (recoveredOnlyFromScan : Bool)
    (plan : PendingForegroundExecutionPlan) (summary : TelegramProcessingSummary) :
    (servePlan context traceId executionId internalConversationRef recoveredOnlyFromScan plan
      summary).Confined (OnDb LaterStep) := by
  unfold servePlan
  split
  · exact startPlan_later _ _ _ _ _ _
  · refine Prog.Confined.bind (confined_later (recoverRestart_quiet _ _ _ _ _)) fun outcome => ?_
    split
    · exact startPlan_later _ _ _ _ _ _
    · refine Prog.Confined.bind (handleBlockedTelegramForegroundRecovery_later _) fun _ => ?_
      exact Prog.confined_ret _

end Runtime

end BlueLagoon
