import BlueLagoon.ApprovalGate.Conversations

/-!
# Resolutions at the gate

A request leaves `pending` once. Whoever approves it may execute one action that waits for it;
nobody else may, and nobody did before.
-/

namespace BlueLagoon.ApprovalGate

open Interleaving Harness

variable {ι : Type} {config : RuntimeConfig} {answers : Answers system} {i : ι}
  {v w : Shared system ι}

/-! ## Requests that leave `pending` -/

theorem toStatus_ne_pending (decision : ApprovalResolutionDecision) :
    decision.toStatus ≠ .pending := by
  cases decision <;> decide

/-- What a transition does to a pending request. -/
theorem view_resolved (hinv : Gated config w) {resolutionId eventId : Uuid}
    {record row : ApprovalRequestRecord} {transition : ResolutionTransition}
    {resolvedAt now : DateTime} (world : World)
    (hrow : row ∈ w.state.db.approvalRequests)
    (hid : row.approvalRequestId = record.approvalRequestId) (hpending : row.status = .pending)
    (hdb : world.db = (Approval.applyResolutionTransition resolutionId eventId record transition
      resolvedAt now w.state.db).db) :
    (view config w).asks record.approvalRequestId = some (row.actionFingerprint, true) ∧
    view config (w.push i world [.approvalResolved record.approvalRequestId
        record.actionFingerprint transition.decision]) =
      { view config w with
        asks := Function.update (view config w).asks record.approvalRequestId
          (some (row.actionFingerprint, false))
        log := (view config w).log ++ [(i, .resolved record.approvalRequestId
          record.actionFingerprint (decide (transition.decision = .approved)))] } ∧
    world.db.governedActionExecutions = w.state.db.governedActionExecutions ∧
    world.db.approvalRequests.map ApprovalRequestRecord.approvalRequestId =
      w.state.db.approvalRequests.map ApprovalRequestRecord.approvalRequestId := by
  have hfound : Table.find ApprovalRequestRecord.approvalRequestId record.approvalRequestId
      w.state.db.approvalRequests = some row := by
    rw [← hid]
    exact Table.find_eq_some_of_mem hinv.requestKeys hrow
  have hwhich : Approval.isPendingRequest record.approvalRequestId row = true := by
    simp [Approval.isPendingRequest, hid, hpending]
  have hany : w.state.db.approvalRequests.any
      (Approval.isPendingRequest record.approvalRequestId) = true :=
    List.any_eq_true.mpr ⟨row, hrow, hwhich⟩
  rw [Approval.applyResolutionTransition, if_pos hany] at hdb
  have hkey : ∀ r : ApprovalRequestRecord, (Approval.resolvedRow now transition resolvedAt
      r).approvalRequestId = r.approvalRequestId := fun _ => rfl
  have hties : tieOf world.db = tieOf w.state.db := by rw [hdb]; rfl
  have hclosed : decide (transition.decision.toStatus = .pending) = false :=
    decide_eq_false (toStatus_ne_pending _)
  have hasks : askOf world.db = Function.update (askOf w.state.db) record.approvalRequestId
      (some (row.actionFingerprint, false)) := by
    rw [hdb, ← hclosed]
    refine map_find_change (g := fun row : ApprovalRequestRecord =>
      (row.actionFingerprint, decide (row.status = .pending))) hkey hfound hwhich fun r hr => ?_
    rw [Approval.isPendingRequest, Bool.and_eq_true, decide_eq_true_eq] at hr
    exact hr.1
  refine ⟨?_, ?_, ?_, ?_⟩
  · show (Table.find _ _ _).map _ = _
    rw [hfound, Option.map_some, hpending]
    rfl
  · rw [view_push, hties, hasks]
    rfl
  · rw [hdb]
    rfl
  · rw [hdb]
    exact Table.map_key_update hkey

/-! ## Approvals -/

/-- The thread approved the request, and no action that waits for it has been executed. -/
structure Granted (config : RuntimeConfig) (i : ι) (approvalRequestId : Uuid)
    (v : Shared system ι) : Prop where
  grant : ∃ fingerprint, (i, .resolved approvalRequestId fingerprint true) ∈ (view config v).log
  unspent : Gate.Unspent approvalRequestId (view config v)

theorem Granted.of_relies {approvalRequestId : Uuid} (h : Granted config i approvalRequestId v)
    (hrely : Relies config i v w) : Granted config i approvalRequestId w := by
  obtain ⟨fingerprint, hgrant⟩ := h.grant
  exact ⟨⟨fingerprint, hrely.log hgrant⟩,
    hrely.unspent approvalRequestId fingerprint true hgrant h.unspent⟩

/-- With an approval, an action that waits for it may be executed. -/
theorem Granted.maySend {approvalRequestId id : Uuid} {fingerprint : GovernedActionFingerprint}
    (h : Granted config i approvalRequestId v)
    (htie : (view config v).ties id = some (fingerprint, some approvalRequestId)) :
    MaySend config i id v :=
  ⟨htie ▸ Option.some_ne_none _, .granted approvalRequestId fingerprint htie h.unspent h.grant⟩

/-- A thread that resolves a request as approved is granted it. -/
theorem resolveRequest_wp (resolutionId eventId : Uuid) (attempt : ApprovalResolutionAttempt) :
    (gateProtocol config answers ι).wp i
      (transaction "failed to start approval resolution transaction"
        (Approval.resolveRequest resolutionId eventId attempt))
      (fun r w => ∀ resolved, r = .ok resolved → resolved.2.decision = .approved →
        Granted config i resolved.1 w) v := by
  refine wp_transaction (fun w now effect hinv _ hbody => ?_) fun _ _ _ _ hr => (nomatch hr)
  obtain ⟨record, transition, hfind, hpending, -, hdb, hevents, hid, hdecision⟩ :=
    Approval.resolveRequest_eq_ok hbody
  obtain ⟨hopen, hview, hrecords, hrequests⟩ := view_resolved hinv { w.state with
      db := effect.db } (Table.mem_of_find hfind) rfl hpending hdb
  rw [← hevents] at hview
  refine ⟨allows_step hinv ?_ ?_ ?_, fun resolved hr hdecided => ?_⟩
  · exact hview ▸ .resolved _ _ _ _ hopen fun _ => rfl
  · rw [hrecords]
    exact hinv.recordKeys
  · rw [hrequests]
    exact hinv.requestKeys
  · obtain rfl := Except.ok.inj hr
    have happroved : transition.decision = .approved := hdecision.symm.trans hdecided
    rw [hid]
    refine ⟨⟨record.actionFingerprint, ?_⟩, ?_⟩
    · rw [hview, happroved]
      exact List.mem_append_right _ (List.mem_singleton.mpr rfl)
    · intro a f htie j hsent
      rw [hview] at htie hsent
      rcases List.mem_append.mp hsent with hold | hnew
      · exact hinv.sound.unspent_of_open hopen a f htie j hold
      · cases (Prod.mk.inj (List.mem_singleton.mp hnew)).2

/-- A resolution that approves its request grants it. -/
theorem resolveApprovalRequest_wp (attempt : ApprovalResolutionAttempt) :
    (gateProtocol config answers ι).wp i (Approval.resolveApprovalRequest attempt)
      (fun r w => ∀ resolution, r = .ok resolution → resolution.event.decision = .approved →
        Granted config i resolution.request.approvalRequestId w) v := by
  refine Protocol.wp_seq (passes_aside (Prog.confined_ofExcept _)) (fun _ v _ => ?_)
    fun _ _ _ _ hr => (nomatch hr)
  refine Protocol.wp_seq (passes_aside (confined_newUuid AsideStep.refl))
    (fun resolutionId v _ => ?_) fun _ _ _ _ hr => (nomatch hr)
  refine Protocol.wp_seq (passes_aside (confined_newUuid AsideStep.refl))
    (fun eventId v _ => ?_) fun _ _ _ _ hr => (nomatch hr)
  refine Protocol.wp_seq (resolveRequest_wp resolutionId eventId attempt)
    (fun resolved v hgranted => ?_) fun _ _ _ _ hr => (nomatch hr)
  refine Protocol.wp_seq (Protocol.wp_returns
    (returns_fetchOne fun db row hrow => Table.key_of_find hrow)
    (passes_aside (confined_fetchOne AsideStep.refl))) ?_ fun _ _ _ _ hr => (nomatch hr)
  intro request w ⟨hid, hrely⟩ resolution hr happroved
  obtain rfl := Except.ok.inj hr
  show Granted config i request.approvalRequestId w
  rw [hid request rfl]
  exact (hgranted resolved rfl happroved).of_relies hrely

/-- A request whose time is over is refused, unless it left `pending` before. -/
theorem expireRequest_plays (now : DateTime) (results : List ApprovalResolutionResult)
    (record : ApprovalRequestRecord) (v : Shared system ι) :
    Plays config answers i (Approval.expireRequest now results record) v := by
  refine plays_bind (passes_aside (confined_newUuid AsideStep.refl)) fun resolutionId v _ =>
    plays_bind (passes_aside (confined_newUuid AsideStep.refl)) fun eventId v _ =>
      plays_then ?_ fun maybeEvent v => ?_
  · refine wp_transaction (fun w at_ effect hinv _ hbody => ⟨?_, trivial⟩) fun _ _ _ => trivial
    by_cases hany : w.state.db.approvalRequests.any
        (Approval.isPendingRequest record.approvalRequestId) = true
    · obtain ⟨row, hrow, hwhich⟩ := List.any_eq_true.mp hany
      rw [Approval.isPendingRequest, Bool.and_eq_true, decide_eq_true_eq, decide_eq_true_eq]
        at hwhich
      have heffect := Except.ok.inj hbody
      obtain ⟨hopen, hview, hrecords, hrequests⟩ := view_resolved hinv { w.state with
        db := effect.db } hrow hwhich.1 hwhich.2 (congrArg Effect.db heffect.symm)
      have hevents : effect.events = [.approvalResolved record.approvalRequestId
          record.actionFingerprint Approval.expiry.decision] := by
        rw [← heffect, Approval.applyResolutionTransition, if_pos hany]
      rw [← hevents] at hview
      refine allows_step hinv ?_ ?_ ?_
      · exact hview ▸ .resolved _ _ _ _ hopen fun hgranted => absurd hgranted (by decide)
      · rw [hrecords]
        exact hinv.recordKeys
      · rw [hrequests]
        exact hinv.requestKeys
    · rw [Approval.applyResolutionTransition, if_neg hany] at hbody
      obtain rfl := Except.ok.inj hbody
      exact (commits_aside hinv (AsideStep.refl _)).1
  · cases maybeEvent with
    | none => exact plays_ret _
    | some event =>
      refine (passes_aside (Prog.Confined.bind (confined_fetchOne AsideStep.refl)
        fun request => ?_)).plays
      exact Prog.Confined.bind (Recovery.recoverApprovalRequestTransition_confined
        AsideStep.triggers _ _ _ _) fun _ => Prog.confined_ret _

theorem expireDueApprovalRequests_plays (now : DateTime) (v : Shared system ι) :
    Plays config answers i (Approval.expireDueApprovalRequests now) v := by
  refine plays_bind (passes_aside (confined_fetch AsideStep.refl)) fun pendingRows v _ => ?_
  refine Protocol.wp_mono (fun _ _ _ => trivial) (Protocol.wp_foldlM (I := fun _ _ => True)
    (E := fun _ _ => True) pendingRows (fun results record w _ _ => ?_) _ v trivial)
  refine Protocol.wp_mono (fun r _ _ => ?_) (expireRequest_plays now results record w)
  cases r <;> trivial

/-! ## The action that waits for a request -/

/-- A step whose error is returned as the failure of the resolution. -/
theorem orFail_wp {α : Type} {Q : α → Shared system ι → Prop} {trigger : ForegroundTrigger}
    {failureKind : ForegroundFailureKind} {step : Harness α}
    (h : (gateProtocol config answers ι).wp i step (fun r w => ∀ a, r = .ok a → Q a w) v) :
    (gateProtocol config answers ι).wp i (Orchestration.orFail trigger failureKind step)
      (fun r w => ∀ a, r = .ok a → Q a w) v := by
  refine Protocol.wp_seq (Protocol.wp_attempt.mpr (Protocol.wp_mono (fun r w hr => ?_) h))
    (R := fun r w => ∀ result, r = .ok result → ∀ a, result = .ok a → Q a w) ?_
    fun _ _ _ _ hr => (nomatch hr)
  · intro result heq a hresult
    obtain rfl := Except.ok.inj heq
    exact hr a hresult
  · intro result w hresult
    cases result with
    | ok value =>
      intro a hr
      obtain rfl := Except.ok.inj hr
      exact hresult _ rfl _ rfl
    | error error =>
      refine Protocol.wp_mono (fun r u hr a hok => (hr.1 a hok).elim) (Protocol.wp_returns
        (Orchestration.recordAndReturnApprovalResolutionFailure_returns _ _ _)
        (passes_aside (Orchestration.recordAndReturnApprovalResolutionFailure_aside _ _ _)))

/-- The action that is found waits for the request. -/
def Waits (config : RuntimeConfig) (approvalRequestId id : Uuid) (v : Shared system ι) : Prop :=
  ∃ fingerprint, (view config v).ties id = some (fingerprint, some approvalRequestId)

theorem Waits.of_relies {approvalRequestId id : Uuid}
    (h : Waits config approvalRequestId id v) (hrely : Relies config i v w) :
    Waits config approvalRequestId id w := by
  obtain ⟨fingerprint, htie⟩ := h
  obtain ⟨link, htie', hlink⟩ := hrely.ties id fingerprint _ htie
  obtain rfl := hlink _ rfl
  exact ⟨fingerprint, htie'⟩

theorem getGovernedActionExecutionByApprovalRequestId_wp (approvalRequestId : Uuid) :
    (gateProtocol config answers ι).wp i
      (GovernedActions.getGovernedActionExecutionByApprovalRequestId approvalRequestId)
      (fun r w => Relies config i v w ∧ ∀ record, r = .ok (some record) →
        Waits config approvalRequestId record.governedActionExecutionId w) v := by
  refine wp_fetch (fun w hinv hrely => ⟨hrely, fun record hr => ?_⟩)
    fun w e hrely => ⟨hrely, fun _ hr => (nomatch hr)⟩
  obtain ⟨hmem, hwhich⟩ := List.mem_filter.mp (Table.mem_of_first (Except.ok.inj hr))
  refine ⟨record.actionFingerprint, ?_⟩
  show (GovernedActions.recordOf _ _).map _ = _
  rw [GovernedActions.recordOf, Table.find_eq_some_of_mem hinv.recordKeys hmem,
    Option.map_some, of_decide_eq_true hwhich]

/-- What the resolution does to the record of the action keeps what it waits for. -/
theorem syncStatusFromApprovalResolution_wp (id : Uuid) (decision : ApprovalResolutionDecision)
    (executionId : Option Uuid) (reason : Option String) :
    (gateProtocol config answers ι).wp i
      (GovernedActions.syncStatusFromApprovalResolution id decision executionId reason)
      (fun r w => Relies config i v w ∧ ∀ synced, r = .ok synced →
        synced.governedActionExecutionId = id) v := by
  refine Protocol.wp_mono (fun r w hr => ⟨hr.1, fun synced hok => (hr.2 synced hok).1⟩)
    (updateGovernedActionExecution_wp (fun q hq => ?_) fun e he => (nomatch he))
  cases hq

section Settling

variable [GovernedActionServices]

theorem executeIfApproved_plays {decision : ApprovalResolutionDecision}
    {synced : GovernedActionExecutionRecord}
    (hmay : decision = .approved → MaySend config i synced.governedActionExecutionId v) :
    Plays config answers i (Orchestration.executeIfApproved config decision synced) v := by
  unfold Orchestration.executeIfApproved
  split
  · rename_i happroved
    exact plays_then (executeGovernedAction_plays (hmay happroved)) fun _ _ => plays_ret _
  · exact plays_ret _

omit [GovernedActionServices] in
/-- An action that waits for the request of an approval may be executed. -/
theorem maySend_of_approval {resolution : ApprovalResolutionResult} {id : Uuid}
    (hgranted : resolution.event.decision = .approved →
      Granted config i resolution.request.approvalRequestId v)
    (hwaits : Waits config resolution.request.approvalRequestId id v)
    (happroved : resolution.event.decision = .approved) : MaySend config i id v := by
  obtain ⟨fingerprint, htie⟩ := hwaits
  exact (hgranted happroved).maySend htie

/-- Settling the action of a resolved request plays by the protocol, where an approval was granted
to the thread. -/
theorem settleLinkedAction_plays (trigger : ForegroundTrigger)
    {resolution : ApprovalResolutionResult}
    (hgranted : resolution.event.decision = .approved →
      Granted config i resolution.request.approvalRequestId v) :
    Plays config answers i (Orchestration.settleLinkedAction config trigger resolution) v := by
  have hlinked : (gateProtocol config answers ι).wp i
      (GovernedActions.getGovernedActionExecutionByApprovalRequestId
        resolution.request.approvalRequestId)
      (fun r w => ∀ linked, r = .ok linked → Relies config i v w ∧ ∀ record,
        linked = some record → Waits config resolution.request.approvalRequestId
          record.governedActionExecutionId w) v :=
    Protocol.wp_mono (fun r w hr linked hok =>
      ⟨hr.1, fun record hrecord => hr.2 record (hok.trans (congrArg _ hrecord))⟩)
      (getGovernedActionExecutionByApprovalRequestId_wp _)
  refine Protocol.wp_seq (orFail_wp hlinked) (fun linked w hpost => ?_) fun _ _ _ => trivial
  obtain ⟨hrely, hwaits⟩ := hpost linked rfl
  cases linked with
  | none => exact plays_ret _
  | some record =>
    have hwaits := hwaits record rfl
    have hsynced : (gateProtocol config answers ι).wp i
        (GovernedActions.syncStatusFromApprovalResolution record.governedActionExecutionId
          resolution.event.decision (some trigger.executionId) resolution.event.reason)
        (fun r u => ∀ synced, r = .ok synced → Relies config i w u ∧
          synced.governedActionExecutionId = record.governedActionExecutionId) w :=
      Protocol.wp_mono (fun r u hr synced hok => ⟨hr.1, hr.2 synced hok⟩)
        (syncStatusFromApprovalResolution_wp _ _ _ _)
    refine Protocol.wp_seq (orFail_wp hsynced) (fun synced u hpost => ?_) fun _ _ _ => trivial
    obtain ⟨hlater, hid⟩ := hpost synced rfl
    have hexecute : Plays config answers i (Orchestration.executeIfApproved config
        resolution.event.decision synced) u := by
      refine executeIfApproved_plays fun happroved => ?_
      rw [hid]
      exact maySend_of_approval
        (fun happroved => ((hgranted happroved).of_relies hrely).of_relies hlater)
        (hwaits.of_relies hlater) happroved
    exact Protocol.wp_mono (fun _ _ _ => trivial) (orFail_wp (Q := fun _ _ => True)
      (Protocol.wp_mono (fun _ _ _ _ _ => trivial) hexecute))

/-- A resolution from the chat. -/
theorem orchestrateTelegramApprovalResolutionTrigger_plays (trigger : ForegroundTrigger)
    (parsed : ParsedApprovalResolutionIngress) (v : Shared system ι) :
    Plays config answers i (Orchestration.orchestrateTelegramApprovalResolutionTrigger config
      trigger parsed) v := by
  refine plays_bind (passes_aside (Orchestration.approvalRequestOfToken_aside _ _))
    fun request v _ => ?_
  refine Protocol.wp_seq (orFail_wp (resolveApprovalRequest_wp _))
    (fun resolution v hpost => ?_) fun _ _ _ => trivial
  have hgranted := hpost resolution rfl
  refine plays_bind (passes_aside (Orchestration.orFail_aside _ _ (Prog.confined_ofExcept _)))
    fun chatId v hrely => ?_
  have hgranted := fun happroved => (hgranted happroved).of_relies hrely
  refine plays_bind (passes_aside (Orchestration.orFail_aside _ _ (Prog.confined_ofExcept _)))
    fun replyToMessageId v hrely => ?_
  have hgranted := fun happroved => (hgranted happroved).of_relies hrely
  refine plays_then (settleLinkedAction_plays trigger hgranted) fun executed v => ?_
  refine plays_bind (passes_aside (Orchestration.orFail_aside _ _ (confined_sendMessage _ _ _)))
    fun outboundMessageId v _ => ?_
  refine plays_then (Orchestration.followUpIfExecuted_plays _ _ _ _ _) fun _ v => ?_
  exact plays_bind (passes_aside (Orchestration.completeResolution_aside _ _ _ _ _))
    fun _ _ _ => plays_ret _

theorem orchestrateTrigger_plays (trigger : ForegroundTrigger)
    (recoveryContext : ForegroundRecoveryContext) (candidateMessages : List UserEpisodeMessage)
    (v : Shared system ι) :
    Plays config answers i (Orchestration.orchestrateTrigger config trigger recoveryContext
      candidateMessages) v := by
  refine plays_bind (passes_aside (Prog.confined_ofExcept _)) fun parsed v _ => ?_
  cases parsed with
  | some parsed =>
    exact plays_then (orchestrateTelegramApprovalResolutionTrigger_plays _ _ _) fun _ _ =>
      plays_ret _
  | none =>
    exact plays_then (Orchestration.orchestrateTelegramForegroundTrigger_plays _ _ _ _)
      fun _ _ => plays_ret _

theorem orchestrateTelegramForegroundPlan_plays (execution : TelegramForegroundPlanExecution)
    (v : Shared system ι) :
    Plays config answers i (Orchestration.orchestrateTelegramForegroundPlan config execution)
      v :=
  plays_bind (passes_aside (Orchestration.planTrigger_aside _ _)) fun _ v _ =>
    orchestrateTrigger_plays _ _ _ v

/-- A resolution from the command line. -/
theorem resolveApprovalRequest_plays (request : ResolveApprovalRequest) (v : Shared system ι) :
    Plays config answers i (Management.resolveApprovalRequest config request) v := by
  unfold Management.resolveApprovalRequest
  split
  · exact plays_fail _
  · refine plays_bind (passes_aside (confined_elsewhere _)) fun _ v _ => ?_
    refine plays_bind (passes_aside (confined_fetchOne AsideStep.refl))
      fun approvalRequest v _ => ?_
    refine plays_bind (passes_aside (confined_utcNow AsideStep.refl)) fun resolvedAt v _ => ?_
    refine Protocol.wp_seq (resolveApprovalRequest_wp _) (fun resolution v hpost => ?_)
      fun _ _ _ => trivial
    have hgranted := hpost resolution rfl
    refine plays_then ?_ fun _ _ => plays_ret _
    refine Protocol.wp_seq (getGovernedActionExecutionByApprovalRequestId_wp _) ?_
      fun _ _ _ => trivial
    intro linked w ⟨hrely, hwaits⟩
    cases linked with
    | none => exact plays_ret _
    | some record =>
      refine Protocol.wp_seq (syncStatusFromApprovalResolution_wp _ _ _ _) ?_
        fun _ _ _ => trivial
      intro synced u ⟨hlater, hid⟩
      refine plays_then (executeIfApproved_plays fun happroved => ?_) fun _ _ => plays_ret _
      rw [hid synced rfl]
      exact maySend_of_approval
        (fun happroved => ((hgranted happroved).of_relies hrely).of_relies hlater)
        ((hwaits record rfl).of_relies hlater) happroved

end Settling

end BlueLagoon.ApprovalGate
