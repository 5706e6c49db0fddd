import BlueLagoon.ForegroundEffects

/-!
# What taking in a batch touches

Staging, accepting and rejecting a delivery add its event to the stored ones; planning marks
events that are stored. With that, every step of the processing of a batch is a foreground step.
-/

namespace BlueLagoon

open Interleaving Harness

namespace Foreground

/-! ## Bindings and new events -/

/-- Each event is still there. -/
def Kept (rows rows' : List IngressEventRecord) : Prop :=
  ∀ row ∈ rows, ∃ row' ∈ rows',
    row'.channelKind = row.channelKind ∧ row'.externalEventId = row.externalEventId ∧
      row'.executionId = row.executionId ∧ row'.foregroundStatus = row.foregroundStatus

/-- Events that refer to other bindings are still there. -/
theorem kept_rebound (bindingOf : IngressEventRecord → Option Uuid)
    (rows added : List IngressEventRecord) : Kept rows (rebound bindingOf rows ++ added) := by
  intro row hrow
  refine ⟨{ row with conversationBindingId := bindingOf row }, ?_, rfl, rfl, rfl, rfl⟩
  exact List.mem_append_left _ (List.mem_map_of_mem hrow)

/-- An event that is inserted has an identifier of its own. -/
theorem insertIngressEvent_eq_ok {event : NewIngressEvent} {now : DateTime} {db db' : Database}
    (h : insertIngressEvent event now db = .ok db') :
    db' = { db with ingressEvents := db.ingressEvents ++ [ingressRow now event] } ∧
      ∀ other ∈ db.ingressEvents, other.ingressId ≠ event.ingress.ingressId := by
  unfold insertIngressEvent at h
  split at h
  · cases h
  · next hvalid =>
    obtain rfl := Except.ok.inj h
    refine ⟨rfl, fun other hother => ?_⟩
    rw [Database.ingressEventViolation, Database.firstBroken_eq_none] at hvalid
    have hfresh := hvalid _ List.mem_cons_self
    rw [List.all_eq_true] at hfresh
    exact of_decide_eq_true (hfresh other hother)

theorem reconcileLookedUp_eq_ok {lookups : BindingLookups} {binding : NewConversationBinding}
    {db db' : Database} {written : ConversationBindingWriteResult}
    (h : reconcileLookedUp lookups binding db = .ok (written, db')) :
    ∃ bindings bindingOf, db' =
      { db with
        conversationBindings := bindings
        ingressEvents := rebound bindingOf db.ingressEvents } :=
  reconcileFound_frame h

theorem lookUpBindings_quiet (binding : NewConversationBinding) :
    (lookUpBindings binding).Confined (OnDb QuietStep) := by
  refine Prog.Confined.bind (confined_fetch .refl) fun external => ?_
  refine confined_transaction .refl fun now db effect hbody => ?_
  obtain rfl := Except.ok.inj hbody
  exact quietStep_emitting db trivial

theorem reconcileConversationBinding_quiet (binding : NewConversationBinding) :
    (reconcileConversationBinding binding).Confined (OnDb QuietStep) := by
  refine Prog.Confined.bind (lookUpBindings_quiet _) fun lookups => ?_
  refine confined_transaction .refl fun now db effect hbody => ?_
  split at hbody
  · cases hbody
  · next written bound hreconciled =>
    obtain rfl := Except.ok.inj hbody
    obtain ⟨bindings, bindingOf, rfl⟩ := reconcileLookedUp_eq_ok hreconciled
    refine .of_kept (.refl _) ?_ fun e he => ?_
    · have hkept := kept_rebound bindingOf db.ingressEvents []
      rw [List.append_nil] at hkept
      exact hkept
    · obtain rfl := List.mem_singleton.mp he
      trivial

theorem matchingConversationBinding_quiet (config : ResolvedTelegramConfig)
    (ingress : NormalizedIngress) :
    (matchingConversationBinding config ingress).Confined (OnDb QuietStep) := by
  unfold matchingConversationBinding
  split
  · exact Prog.confined_ret _
  · split
    · exact Prog.confined_ret _
    · split
      · exact Prog.confined_ret _
      · split
        · exact Prog.confined_ret _
        · exact Prog.Confined.bind (confined_newUuid .refl) fun _ => Prog.confined_ret _

theorem maybeUpsertMatchingConversationBinding_quiet (config : ResolvedTelegramConfig)
    (ingress : NormalizedIngress) :
    (maybeUpsertMatchingConversationBinding config ingress).Confined (OnDb QuietStep) := by
  refine Prog.Confined.bind (matchingConversationBinding_quiet _ _) fun binding => ?_
  cases binding with
  | none => exact Prog.confined_ret _
  | some binding =>
    exact Prog.Confined.bind (reconcileConversationBinding_quiet _) fun _ => Prog.confined_ret _

theorem findIngressEventByChannelEvent_quiet (channelKind : ChannelKind)
    (externalEventId : String) :
    (findIngressEventByChannelEvent channelKind externalEventId).Confined (OnDb QuietStep) := by
  refine confined_transaction .refl fun now db effect hbody => ?_
  obtain rfl := Except.ok.inj hbody
  exact quietStep_emitting db trivial

theorem duplicateForegroundTriggerOutcome_quiet (ingress : NormalizedIngress)
    (existing : IngressEventRecord) :
    (duplicateForegroundTriggerOutcome ingress existing).Confined (OnDb QuietStep) :=
  Prog.Confined.bind (Audit.insert_confined ForegroundStep.of_audit _) fun _ =>
    Prog.confined_ret _

theorem rejectForegroundTrigger_later (config : ResolvedTelegramConfig)
    (ingress : NormalizedIngress) (reason : String) :
    (rejectForegroundTrigger config ingress reason).Confined (OnDb LaterStep) := by
  refine Prog.Confined.bind (confined_newUuid .refl) fun traceId => ?_
  refine Prog.Confined.bind
    (confined_later (maybeUpsertMatchingConversationBinding_quiet _ _)) fun binding => ?_
  refine Prog.Confined.bind (confined_transaction .refl ?_) fun _ => ?_
  · intro now db effect hbody
    split at hbody
    · cases hbody
    · next stored hstored =>
      obtain rfl := Except.ok.inj hbody
      obtain ⟨rfl, -⟩ := insertIngressEvent_eq_ok hstored
      refine .of_kept (.refl _) ?_ fun e he => ?_
      · intro row hrow
        exact ⟨row, List.mem_append_left _ hrow, rfl, rfl, rfl, rfl⟩
      · obtain rfl := List.mem_singleton.mp he
        trivial
  · refine Prog.Confined.bind (confined_execute .refl ?_) fun _ => ?_
    · intro now db effect hbody
      obtain rfl := Except.ok.inj hbody
      exact setForegroundState_later _ _ _ _ _
    · exact Prog.Confined.bind (Audit.insert_confined ForegroundStep.of_audit _) fun _ =>
        Prog.confined_ret _

/-! ## Staging -/

/-- A staged event is stored besides the others. -/
theorem commitStaged_eq_ok {ingress : NormalizedIngress} {traceId : Uuid}
    {binding : NewConversationBinding} {lookups : BindingLookups} {auditEventId : Uuid}
    {now : DateTime} {db : Database} {effect : Effect Unit}
    (h : commitStaged ingress traceId binding lookups auditEventId now db = .ok effect) :
    LaterStep db effect.db effect.events ∧
      Stored ingress.channelKind ingress.externalEventId effect.db := by
  unfold commitStaged at h
  split at h
  · cases h
  · next written bound hreconciled =>
    split at h
    · cases h
    · next stored hstored =>
      obtain rfl := Except.ok.inj h
      obtain ⟨bindings, bindingOf, rfl⟩ := reconcileLookedUp_eq_ok hreconciled
      obtain ⟨rfl, -⟩ := insertIngressEvent_eq_ok hstored
      constructor
      · refine .of_kept (.refl _) (kept_rebound bindingOf _ _) fun e he => ?_
        simp only [List.mem_cons, List.not_mem_nil, or_false] at he
        rcases he with rfl | rfl <;> trivial
      · exact ⟨_, List.mem_append_right _ (List.mem_singleton.mpr rfl), rfl, rfl⟩

theorem stageTelegramForegroundIngress_later (telegramConfig : ResolvedTelegramConfig)
    (ingress : NormalizedIngress) :
    (stageTelegramForegroundIngress telegramConfig ingress).Confined (OnDb LaterStep) := by
  refine Prog.Confined.bind (confined_later (findIngressEventByChannelEvent_quiet _ _))
    fun existing => ?_
  cases existing with
  | some existing =>
    exact Prog.Confined.bind (confined_later (duplicateForegroundTriggerOutcome_quiet _ _))
      fun _ => Prog.confined_ret _
  | none =>
    dsimp only
    split
    · exact Prog.Confined.bind (rejectForegroundTrigger_later _ _ _) fun _ => Prog.confined_ret _
    · refine Prog.Confined.bind (confined_newUuid .refl) fun traceId => ?_
      refine Prog.Confined.bind (confined_later (matchingConversationBinding_quiet _ _))
        fun matching => ?_
      refine Prog.Confined.bind (confined_expect _) fun binding => ?_
      refine Prog.Confined.bind (confined_later (lookUpBindings_quiet _)) fun lookups => ?_
      refine Prog.Confined.bind (confined_newUuid .refl) fun auditEventId => ?_
      refine Prog.Confined.bind (confined_transaction .refl ?_) fun _ => Prog.confined_ret _
      intro now db effect hbody
      exact (commitStaged_eq_ok hbody).1

/-! ## Accepting -/

/-- What an accepted trigger leaves behind: its execution, which goes on, and its event, which
is being processed. -/
structure Accepted (trigger : ForegroundTrigger) (db db' : Database) (events : List Event) :
    Prop where
  step : AnyStep db db' events
  started : ∀ executionId, .executionStarted executionId ∈ events →
    executionId = trigger.executionId
  unplanned : ∀ executionId recoverable selected,
    .foregroundPlanned executionId recoverable selected ∉ events
  execution : Execution.Started trigger.executionId db'
  processing : Processing trigger.executionId db'
  stored : Stored trigger.ingress.channelKind trigger.ingress.externalEventId db'

/-- The transaction of an accepted trigger is dropped, or leaves it in progress. -/
theorem commitAccepted_eq_ok {config : RuntimeConfig} {trigger : ForegroundTrigger}
    {binding : NewConversationBinding} {lookups : BindingLookups} {auditEventId : Uuid}
    {now : DateTime} {db : Database} {effect : Effect (Except ErrorChain Unit)}
    (h : commitAccepted config trigger binding lookups auditEventId now db = .ok effect) :
    (∃ error, effect.value = .error error ∧ effect.db = db ∧ effect.events = []) ∨
      (effect.value = .ok () ∧ Accepted trigger db effect.db effect.events) := by
  unfold commitAccepted at h
  dsimp only at h
  split at h
  · cases h
  · next hvalid =>
    split at h
    · cases h
    · next written bound hreconciled =>
      obtain ⟨bindings, bindingOf, rfl⟩ := reconcileLookedUp_eq_ok hreconciled
      split at h
      · obtain rfl := Except.ok.inj h
        exact Or.inl ⟨_, rfl, rfl, rfl⟩
      · next stored hstored =>
        obtain rfl := Except.ok.inj h
        obtain ⟨rfl, hfresh⟩ := insertIngressEvent_eq_ok hstored
        refine Or.inr ⟨rfl, ?_⟩
        have hadvances : Execution.Advances db.executionRecords
            (db.executionRecords ++ [Execution.row now (acceptedExecution config trigger)]) :=
          .append _ _
        have hnew : ∀ other ∈ db.executionRecords, ExecutionRecord.executionId other ≠
            ExecutionRecord.executionId
              (Execution.row now (acceptedExecution config trigger)) := by
          rw [Database.executionRecordViolation, Database.firstBroken_eq_none] at hvalid
          have hunique := hvalid _ List.mem_cons_self
          rw [List.all_eq_true] at hunique
          exact fun other hother => of_decide_eq_true (hunique other hother)
        -- The new event alone is marked.
        have hmarked : foregroundStateSet (some trigger.executionId) "processing" now
            (ingressRow now
              { ingress := trigger.ingress
                conversationBindingId := some written.record.conversationBindingId
                traceId := trigger.traceId
                executionId := some trigger.executionId
                status := "accepted"
                rejectionReason := none }) ∈
            (setForegroundState trigger.ingress.ingressId (some trigger.executionId)
              "processing" now
              { db with
                ingressEvents := rebound bindingOf db.ingressEvents ++
                  [ingressRow now
                    { ingress := trigger.ingress
                      conversationBindingId := some written.record.conversationBindingId
                      traceId := trigger.traceId
                      executionId := some trigger.executionId
                      status := "accepted"
                      rejectionReason := none }] }).ingressEvents := by
          refine Table.mem_update.mpr (Or.inr ⟨_, ?_, decide_eq_true rfl, rfl⟩)
          exact List.mem_append_right _ (List.mem_singleton.mpr rfl)
        refine ⟨.of_kept hadvances ?_ fun _ _ => trivial, ?_, ?_, ?_, ?_, ?_⟩
        · intro row hrow
          obtain ⟨row', hrow', hsame⟩ := kept_rebound bindingOf db.ingressEvents [] row hrow
          rw [List.append_nil] at hrow'
          refine ⟨row', ?_, hsame⟩
          have hother : row'.ingressId ≠ trigger.ingress.ingressId := hfresh row' hrow'
          exact Table.mem_update.mpr
            (Or.inl ⟨List.mem_append_left _ hrow', decide_eq_false hother⟩)
        · intro executionId he
          simpa using he
        · intro executionId recoverable selected he
          simp at he
        · exact ⟨_, Table.find_append_self hnew, rfl⟩
        · exact ⟨_, hmarked, rfl, rfl⟩
        · exact ⟨_, hmarked, rfl, rfl⟩

/-- A quiet program may be one of any kind. -/
theorem confined_quiet_any {α : Type} {p : Harness α} (hp : p.Confined (OnDb QuietStep)) :
    p.Confined (OnDb AnyStep) :=
  confined_any (confined_later hp)

/-- Accepting a trigger takes the steps of a foreground call only. -/
theorem acceptForegroundTrigger_any (config : RuntimeConfig)
    (telegramConfig : ResolvedTelegramConfig) (ingress : NormalizedIngress) :
    (acceptForegroundTrigger config telegramConfig ingress).Confined (OnDb AnyStep) := by
  refine Prog.Confined.bind (confined_newUuid .refl) fun traceId => ?_
  refine Prog.Confined.bind (confined_newUuid .refl) fun executionId => ?_
  refine Prog.Confined.bind (confined_quiet_any
    (Orchestration.buildForegroundTriggerWithKind_quiet _ _ _ _ _)) fun trigger => ?_
  refine Prog.Confined.bind (confined_quiet_any (matchingConversationBinding_quiet _ _))
    fun matching => ?_
  refine Prog.Confined.bind (confined_expect _) fun binding => ?_
  refine Prog.Confined.bind (confined_quiet_any (lookUpBindings_quiet _)) fun lookups => ?_
  refine Prog.Confined.bind (confined_newUuid .refl) fun auditEventId => ?_
  refine Prog.Confined.bind (confined_transaction .refl ?_) fun committed => ?_
  · intro now db effect hbody
    rcases commitAccepted_eq_ok hbody with ⟨error, -, hdb, hevents⟩ | ⟨-, haccepted⟩
    · rw [hdb, hevents]
      exact .refl db
    · exact haccepted.step
  · cases committed with
    | ok _ => exact Prog.confined_ret _
    | error error =>
      dsimp only
      split
      · refine Prog.Confined.bind (confined_quiet_any
          (findIngressEventByChannelEvent_quiet _ _)) fun existing => ?_
        cases existing with
        | some existing =>
          exact Prog.Confined.bind
            (confined_quiet_any (duplicateForegroundTriggerOutcome_quiet _ _))
            fun _ => Prog.confined_ret _
        | none => exact Prog.confined_fail _
      · exact Prog.confined_fail _

theorem intakeTelegramForegroundTrigger_any (config : RuntimeConfig)
    (telegramConfig : ResolvedTelegramConfig) (ingress : NormalizedIngress) :
    (intakeTelegramForegroundTrigger config telegramConfig ingress).Confined (OnDb AnyStep) := by
  refine Prog.Confined.bind (confined_quiet_any (findIngressEventByChannelEvent_quiet _ _))
    fun existing => ?_
  cases existing with
  | some existing =>
    exact Prog.Confined.bind (confined_quiet_any (duplicateForegroundTriggerOutcome_quiet _ _))
      fun _ => Prog.confined_ret _
  | none =>
    dsimp only
    split
    · exact Prog.Confined.bind (confined_any (rejectForegroundTrigger_later _ _ _))
        fun _ => Prog.confined_ret _
    · exact acceptForegroundTrigger_any _ _ _

/-! ## Planning -/

/-- What is planned is being processed for the execution it is planned for. -/
theorem planCommitted_processing {config : BacklogRecoveryConfig} {executionId : Uuid}
    {internalConversationRef : String} {now_ now : DateTime} {db : Database}
    {plan : PendingForegroundExecutionPlan}
    {effect : Effect (Option PendingForegroundExecutionPlan)}
    (h : PlanCommitted config executionId internalConversationRef now_ now db plan effect) :
    Processing executionId effect.db := by
  obtain ⟨links, causalLinks, auditEvents, hstore⟩ := h.store
  obtain ⟨ingress, hingress⟩ := List.exists_mem_of_ne_nil _ h.selected
  refine ⟨foregroundStateSet (some executionId) "processing" now ingress, ?_, rfl, rfl⟩
  rw [hstore]
  refine Table.mem_update.mpr (Or.inr ⟨ingress, mem_plannedIngress hingress, ?_, rfl⟩)
  rw [List.contains_iff_mem]
  exact List.mem_map_of_mem hingress

/-- A plan takes events over from the executions its log names, and starts none. -/
theorem planCommitted_step {config : BacklogRecoveryConfig} {executionId : Uuid}
    {internalConversationRef : String} {now_ now : DateTime} {db : Database}
    {plan : PendingForegroundExecutionPlan}
    {effect : Effect (Option PendingForegroundExecutionPlan)}
    (h : PlanCommitted config executionId internalConversationRef now_ now db plan effect) :
    AnyStep db effect.db effect.events := by
  obtain ⟨links, causalLinks, auditEvents, hstore⟩ := h.store
  obtain ⟨recoverable, statuses, hevents⟩ := h.events
  rw [hstore, hevents]
  refine .of_changed (.refl _) rfl (fun _ => ⟨rfl, rfl⟩) ?_ fun _ _ => trivial
  intro row hrow hwhich owner hlive
  rw [List.contains_iff_mem] at hwhich
  obtain ⟨ingress, hingress, hsame⟩ := List.mem_map.mp hwhich
  refine List.mem_cons_of_mem _ (List.mem_flatMap.mpr ⟨ingress, hingress, ?_⟩)
  exact mem_takenOver hrow hsame.symm hlive

theorem planPendingForegroundExecution_any (config : RuntimeConfig) (traceId executionId : Uuid)
    (internalConversationRef : String) :
    (planPendingForegroundExecution config traceId executionId internalConversationRef
      false).Confined (OnDb AnyStep) := by
  refine Prog.Confined.bind (confined_utcNow .refl) fun now => ?_
  refine Prog.Confined.bind (confined_newUuids .refl _) fun links => ?_
  refine Prog.Confined.bind (confined_newUuids .refl _) fun causalLinks => ?_
  refine Prog.Confined.bind (confined_newUuid .refl) fun auditEvent => ?_
  refine confined_transaction .refl fun at_ db effect hbody => ?_
  rcases planPending_eq_ok hbody with ⟨-, hdb, hevents, -⟩ | ⟨plan, -, hcommitted⟩
  · rw [hdb]
    exact .of_ingress (.refl _) rfl fun _ _ => trivial
  · exact planCommitted_step hcommitted

end Foreground

namespace Runtime

open Foreground

/-! ## The batch -/

theorem recordNormalizationRejected_quiet (externalEventId detail : String)
    (rawPayloadRef : Option String) :
    (recordTelegramNormalizationRejected externalEventId detail rawPayloadRef).Confined
      (OnDb QuietStep) := by
  refine Prog.Confined.bind (confined_newUuid .refl) fun traceId => ?_
  exact Prog.Confined.bind (Audit.insert_confined ForegroundStep.of_audit _) fun _ =>
    Prog.confined_ret _

theorem recordUpdateIgnored_quiet (externalEventId : String) (rawPayloadRef : Option String) :
    (recordTelegramUpdateIgnored externalEventId rawPayloadRef).Confined (OnDb QuietStep) := by
  refine Prog.Confined.bind (confined_newUuid .refl) fun traceId => ?_
  exact Prog.Confined.bind (Audit.insert_confined ForegroundStep.of_audit _) fun _ =>
    Prog.confined_ret _

variable [GovernedActionServices]

theorem orchestrateIngress_any (config : RuntimeConfig) (telegramConfig : ResolvedTelegramConfig)
    (ingress : NormalizedIngress) :
    (Orchestration.orchestrateTelegramForegroundIngress config telegramConfig ingress).Confined
      (OnDb AnyStep) := by
  refine Prog.Confined.bind (intakeTelegramForegroundTrigger_any _ _ _) fun intake => ?_
  cases intake with
  | duplicate duplicate => exact Prog.confined_ret _
  | rejected rejected => exact Prog.confined_ret _
  | accepted trigger => exact confined_any (Orchestration.orchestrateTrigger_later _ _ _ _)

theorem takeUpdate_any (context : TelegramProcessingContext) (progress : TelegramIntakeProgress)
    (update : TelegramUpdate) : (takeUpdate context progress update).Confined (OnDb AnyStep) := by
  refine Prog.Confined.bind (Prog.Confined.bind (confined_newUuid .refl) fun _ =>
    Prog.confined_ret _) fun normalization => ?_
  cases normalization with
  | accepted ingress =>
    dsimp only
    split
    · exact Prog.Confined.bind (orchestrateIngress_any _ _ _) fun _ => Prog.confined_ret _
    · refine Prog.Confined.bind
        (confined_any (stageTelegramForegroundIngress_later _ _)) fun staged => ?_
      cases staged <;> exact Prog.confined_ret _
  | rejected rejected =>
    exact Prog.Confined.bind (confined_quiet_any (recordNormalizationRejected_quiet _ _ _))
      fun _ => Prog.confined_ret _
  | ignored externalEventId =>
    exact Prog.Confined.bind (confined_quiet_any (recordUpdateIgnored_quiet _ _))
      fun _ => Prog.confined_ret _

theorem processConversation_any (context : TelegramProcessingContext)
    (recoveryScanConversations newlyStagedConversations : List String)
    (summary : TelegramProcessingSummary) (internalConversationRef : String) :
    (processConversation context recoveryScanConversations newlyStagedConversations summary
      internalConversationRef).Confined (OnDb AnyStep) := by
  refine Prog.Confined.bind (confined_newUuid .refl) fun traceId => ?_
  refine Prog.Confined.bind (confined_newUuid .refl) fun executionId => ?_
  refine Prog.Confined.bind (confined_execute .refl ?_) fun _ => ?_
  · intro now db effect hbody
    split at hbody
    · cases hbody
    · obtain rfl := Except.ok.inj hbody
      exact .of_ingress (.append _ _) rfl fun _ _ => trivial
  · refine Prog.Confined.bind (planPendingForegroundExecution_any _ _ _ _) fun plan => ?_
    cases plan with
    | none => exact Prog.confined_ret _
    | some plan => exact confined_any (servePlan_later _ _ _ _ _ _ _)

/-- Whatever the processing of a batch does is a foreground step. -/
theorem processTelegramUpdates_any (context : TelegramProcessingContext)
    (updates : List TelegramUpdate) :
    (processTelegramUpdates context updates).Confined (OnDb AnyStep) := by
  refine Prog.Confined.bind (Prog.Confined.foldlM (fun _ _ => takeUpdate_any _ _ _) _ _)
    fun progress => ?_
  refine Prog.Confined.bind (Prog.Confined.bind (confined_utcNow .refl) fun _ =>
    confined_fetch .refl) fun recoverable => ?_
  exact Prog.Confined.foldlM (fun _ _ => processConversation_any _ _ _ _ _) _ _

end Runtime

end BlueLagoon
