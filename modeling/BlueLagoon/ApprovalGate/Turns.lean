import BlueLagoon.ApprovalGate.Execution

/-!
# Turns at the gate

A turn plans its own actions. It sends those that are free, and attaches a request to the others;
no other thread does either to them. Resolving a request takes its permission, and with it the
one action that is looked up for it may be sent.
-/

namespace BlueLagoon.ApprovalGate

open Interleaving Harness

variable {ι : Type} {config : RuntimeConfig} {answers : Answers system} {i : ι}
  {v : Shared system ι}

/-! ## Planning -/

/-- The thread planned the action, and has neither sent it nor attached a request to it. -/
structure Mine (config : RuntimeConfig) (i : ι) (id : Uuid)
    (fingerprint : GovernedActionFingerprint) (free : Bool) (v : Shared system ι) : Prop where
  planned : (i, .planned id fingerprint free) ∈ (view config v).log
  tied : ∃ link, (view config v).ties id = some (fingerprint, link)
  unsent : Gate.Unsent id (view config v)

/-- And has not held it back. -/
structure Fresh (config : RuntimeConfig) (i : ι) (id : Uuid)
    (fingerprint : GovernedActionFingerprint) (free : Bool) (v : Shared system ι) : Prop
    extends Mine config i id fingerprint free v where
  unescalated : Gate.Unescalated id (view config v)

section Mine

variable {id : Uuid} {fingerprint : GovernedActionFingerprint} {free : Bool}
  {w : Shared system ι}

theorem Mine.of_relies (h : Mine config i id fingerprint free v) (hrely : Relies config i v w) :
    Mine config i id fingerprint free w := by
  obtain ⟨link, htie⟩ := h.tied
  obtain ⟨link', htie', -⟩ := hrely.ties id fingerprint link htie
  exact ⟨hrely.log h.planned, ⟨link', htie'⟩,
    hrely.unsent id fingerprint free h.planned h.unsent⟩

theorem Fresh.of_relies (h : Fresh config i id fingerprint free v)
    (hrely : Relies config i v w) : Fresh config i id fingerprint free w :=
  ⟨h.toMine.of_relies hrely, hrely.unescalated id fingerprint free h.planned h.unescalated⟩

/-- What is free may be sent. -/
theorem Fresh.maySend (h : Fresh config i id fingerprint true v) :
    MaySend config i id v := by
  obtain ⟨link, htie⟩ := h.tied
  exact ⟨htie ▸ Option.some_ne_none _,
    .free ⟨⟨fingerprint, h.planned⟩, h.unescalated, h.unsent.unlinked⟩ h.unsent⟩

end Mine

theorem insertRecord_eq_ok {row : GovernedActionExecutionRecord} {db : Database}
    {effect : Effect Unit} (h : GovernedActions.insertRecord row db = .ok effect) :
    (∀ other ∈ db.governedActionExecutions,
      other.governedActionExecutionId ≠ row.governedActionExecutionId) ∧
    effect = {
      value := ()
      db := { db with governedActionExecutions := db.governedActionExecutions ++ [row] }
      events := [.actionPlanned row.governedActionExecutionId row.actionFingerprint
        row.riskTier] } := by
  unfold GovernedActions.insertRecord at h
  split at h
  · cases h
  · rename_i hfresh
    split at h
    · cases h
    · refine ⟨fun other hmem heq => hfresh ?_, (Except.ok.inj h).symm⟩
      exact List.any_eq_true.mpr ⟨other, hmem, decide_eq_true heq⟩

/-- A new record is planned by the thread that inserts it. -/
theorem persistGovernedActionExecution_wp (request : GovernedActionPlanningRequest)
    (actionFingerprint : GovernedActionFingerprint) (riskTier : GovernedActionRiskTier)
    (status : GovernedActionStatus) (blockedReason : Option String) :
    (gateProtocol config answers ι).wp i
      (GovernedActions.persistGovernedActionExecution request actionFingerprint riskTier status
        blockedReason)
      (fun r w => r = .ok () → Fresh config i request.governedActionExecutionId
        actionFingerprint (!Policy.governedActionRequiresApproval config riskTier) w) v := by
  refine wp_execute (fun w now effect hinv _ hbody => ?_) fun _ _ _ hr => (nomatch hr)
  obtain ⟨hfresh, heffect⟩ := insertRecord_eq_ok hbody
  have hnone : tieOf w.state.db request.governedActionExecutionId = none := map_find_fresh hfresh
  have hview : view config (committed w i effect) =
      { view config w with
        ties := Function.update (view config w).ties request.governedActionExecutionId
          (some (actionFingerprint, none))
        log := (view config w).log ++ [(i, .planned request.governedActionExecutionId
          actionFingerprint (!Policy.governedActionRequiresApproval config riskTier))] } := by
    rw [view_push, heffect]
    exact congrArg (fun ties => Gate.State.mk ties _ _) (map_find_append hfresh)
  have hunknown : ∀ j e, (j, e) ∈ (view config w).log →
      e = .sent request.governedActionExecutionId ∨
        e = .escalated request.governedActionExecutionId → False := by
    intro j e hmem he
    refine hinv.sound.known j request.governedActionExecutionId ?_ hnone
    rcases he with rfl | rfl
    · exact Or.inl hmem
    · exact Or.inr hmem
  refine ⟨allows_step hinv ?_ ?_ ?_, fun _ => ⟨⟨?_, ⟨none, ?_⟩, ?_, ?_⟩, ?_⟩⟩
  · rw [hview]
    exact .planned _ _ _ hnone
  · rw [heffect]
    exact Table.nodup_append_fresh hinv.recordKeys hfresh
  · rw [heffect]
    exact hinv.requestKeys
  · rw [hview]
    exact List.mem_append_right _ (List.mem_singleton.mpr rfl)
  · rw [hview]
    exact Function.update_self ..
  · intro j hmem
    rw [hview] at hmem
    rcases List.mem_append.mp hmem with hold | hnew
    · exact hunknown j _ hold (Or.inl rfl)
    · have heq := (Prod.mk.inj (List.mem_singleton.mp hnew)).2
      cases heq
  · intro f q htie
    rw [hview] at htie
    rcases Gate.ties_update_eq htie with ⟨-, heq⟩ | ⟨hne, -⟩
    · cases (Prod.mk.inj heq).2
    · exact hne rfl
  · intro j hmem
    rw [hview] at hmem
    rcases List.mem_append.mp hmem with hold | hnew
    · exact hunknown j _ hold (Or.inr rfl)
    · have heq := (Prod.mk.inj (List.mem_singleton.mp hnew)).2
      cases heq

/-- What planning hands to the loop: an action of the thread's own, free if no approval is
required. -/
def PlannedHere (config : RuntimeConfig) (i : ι) (v : Shared system ι)
    (planned : PlannedGovernedAction) : Prop :=
  Fresh config i planned.record.governedActionExecutionId planned.record.actionFingerprint
    (!planned.requiresApproval) v

theorem linkPlanningExecution_aside (request : GovernedActionPlanningRequest)
    (record : GovernedActionExecutionRecord) :
    Aside (GovernedActions.linkPlanningExecution request record) := by
  unfold GovernedActions.linkPlanningExecution
  split
  · exact Prog.confined_ret _
  · exact Prog.Confined.bind (CausalLinks.insert_confined AsideStep.causalLinks _)
      fun _ => Prog.confined_ret _

/-- A planned action is the thread's own, and free if no approval is required. -/
theorem planGovernedAction_wp [GovernedActionServices]
    (request : GovernedActionPlanningRequest) :
    (gateProtocol config answers ι).wp i (GovernedActions.planGovernedAction config request)
      (fun r w => ∀ planned, r = .ok (.planned planned) → PlannedHere config i w planned) v := by
  unfold GovernedActions.planGovernedAction
  refine Protocol.wp_seq (passes_aside (Prog.confined_ofExcept _)) (fun _ v _ => ?_)
    fun _ _ _ _ hr => (nomatch hr)
  refine Protocol.wp_seq (passes_attempt (passes_aside (validateGovernedActionPolicy_aside _ _)))
    (fun validation v _ => ?_) fun _ _ _ _ hr => (nomatch hr)
  refine Protocol.wp_seq (persistGovernedActionExecution_wp _ _ _ _ _) (fun _ v hpersisted => ?_)
    fun _ _ _ _ hr => (nomatch hr)
  have hfresh := hpersisted rfl
  refine Protocol.wp_seq (getGovernedActionExecution_wp _) ?_ fun _ _ _ _ hr => (nomatch hr)
  intro record w ⟨hrely, hfetched⟩
  obtain ⟨hid, -, link, htie⟩ := hfetched record rfl
  have hfresh := hfresh.of_relies hrely
  have hfingerprint : record.actionFingerprint =
      GovernedActions.fingerprintGovernedAction request.proposal := by
    obtain ⟨link', htie'⟩ := hfresh.tied
    exact (Prod.mk.inj (Option.some.inj (htie.symm.trans htie'))).1
  refine Protocol.wp_seq (passes_aside (linkPlanningExecution_aside _ _)) (fun _ w' hrely => ?_)
    fun _ _ _ _ hr => (nomatch hr)
  have hfresh := hfresh.of_relies hrely
  refine Protocol.wp_seq (passes_aside (Audit.insert_confined AsideStep.audit _))
    (fun _ w'' hrely => ?_) fun _ _ _ _ hr => (nomatch hr)
  have hfresh := hfresh.of_relies hrely
  dsimp only
  split
  · exact fun _ hr => (nomatch hr)
  · intro planned hr
    obtain rfl := GovernedActionPlanningOutcome.planned.inj (Except.ok.inj hr)
    show Fresh config i record.governedActionExecutionId record.actionFingerprint _ w''
    rw [hid, hfingerprint]
    exact hfresh

/-! ## Requests -/

/-- There is an approval request for the fingerprint. -/
def Asked (config : RuntimeConfig) (approvalRequestId : Uuid)
    (fingerprint : GovernedActionFingerprint) (v : Shared system ι) : Prop :=
  ∃ pending, (view config v).asks approvalRequestId = some (fingerprint, pending)

theorem Asked.of_relies {approvalRequestId : Uuid} {fingerprint : GovernedActionFingerprint}
    {w : Shared system ι} (h : Asked config approvalRequestId fingerprint v)
    (hrely : Relies config i v w) : Asked config approvalRequestId fingerprint w := by
  obtain ⟨pending, hask⟩ := h
  exact hrely.asks approvalRequestId fingerprint pending hask

theorem asked_of_mem {w : Shared system ι} (hinv : Gated config w) {row : ApprovalRequestRecord}
    (h : row ∈ w.state.db.approvalRequests) :
    Asked config row.approvalRequestId row.actionFingerprint w := by
  refine ⟨decide (row.status = .pending), ?_⟩
  show (Table.find _ _ _).map _ = _
  rw [Table.find_eq_some_of_mem hinv.requestKeys h]
  rfl

theorem createRequest_eq_ok {eventId : Uuid} {request : NewApprovalRequestRecord}
    {now : DateTime} {db : Database} {effect : Effect Unit}
    (h : Approval.createRequest eventId request now db = .ok effect) :
    (∀ other ∈ db.approvalRequests,
      other.approvalRequestId ≠ (Approval.requestRow now request).approvalRequestId) ∧
    effect.db.approvalRequests = db.approvalRequests ++ [Approval.requestRow now request] ∧
    effect.db.governedActionExecutions = db.governedActionExecutions ∧
    effect.events = [.approvalRequested request.approvalRequestId] := by
  unfold Approval.createRequest at h
  split at h
  · cases h
  · rename_i hviolation
    obtain rfl := Except.ok.inj h
    refine ⟨?_, rfl, rfl, rfl⟩
    have hall := Database.firstBroken_eq_none.mp hviolation
    simpa using hall _ List.mem_cons_self

/-- A request that is created is one for its fingerprint. -/
theorem createRequest_wp (eventId : Uuid) (request : NewApprovalRequestRecord) :
    (gateProtocol config answers ι).wp i
      (transaction "failed to start approval request transaction"
        (Approval.createRequest eventId request))
      (fun r w => Relies config i v w ∧ (r = .ok () →
        Asked config request.approvalRequestId request.actionFingerprint w)) v := by
  refine wp_transaction (fun w now effect hinv hrely hbody => ?_)
    fun _ _ hrely => ⟨hrely, fun hr => (nomatch hr)⟩
  obtain ⟨hfresh, hrequests, hrecords, hevents⟩ := createRequest_eq_ok hbody
  have hties : tieOf effect.db = tieOf w.state.db := by
    funext id
    rw [tieOf, GovernedActions.recordOf, hrecords]
    rfl
  have hasks : askOf effect.db = Function.update (askOf w.state.db) request.approvalRequestId
      (some (request.actionFingerprint, true)) := by
    have happended := map_find_append (g := fun row : ApprovalRequestRecord =>
      (row.actionFingerprint, decide (row.status = .pending))) hfresh
    rw [← hrequests] at happended
    exact happended
  have hnone : (view config w).asks request.approvalRequestId = none := map_find_fresh hfresh
  have hview : view config (committed w i effect) = { view config w with
      asks := Function.update (view config w).asks request.approvalRequestId
        (some (request.actionFingerprint, true)) } := by
    rw [view_push, hties, hasks, hevents]
    exact congrArg (Gate.State.mk _ _) (List.append_nil _)
  refine ⟨allows_step hinv ?_ ?_ ?_, hrely.trans ?_, fun _ => ⟨true, ?_⟩⟩
  · rw [hview]
    exact .asked _ _ hnone
  · rw [hrecords]
    exact hinv.recordKeys
  · rw [hrequests]
    exact Table.nodup_append_fresh hinv.requestKeys hfresh
  · rw [hview]
    exact Gate.rely_asked hnone
  · rw [hview]
    exact Function.update_self ..

theorem enforcePendingRequestLimit_aside :
    Aside (Approval.enforcePendingRequestLimit config) := by
  refine Prog.Confined.bind (confined_transaction AsideStep.refl fun now db effect hbody => ?_)
    fun pendingCount => ?_
  · obtain rfl := Except.ok.inj hbody
    exact AsideStep.emitting db not_false
  · split
    · exact Prog.confined_fail _
    · exact Prog.confined_ret _

theorem createApprovalRequest_passes (request : NewApprovalRequestRecord) :
    Passes config answers i (Approval.createApprovalRequest config request) v := by
  refine passes_bind (passes_aside (Prog.confined_ofExcept _)) fun _ v _ => ?_
  refine passes_bind (passes_aside enforcePendingRequestLimit_aside) fun _ v _ => ?_
  refine passes_bind (passes_aside (confined_newUuid AsideStep.refl)) fun eventId v _ => ?_
  refine passes_bind (Protocol.wp_mono (fun _ _ h => h.1) (createRequest_wp eventId request))
    fun _ v _ => ?_
  exact passes_aside (confined_fetchOne AsideStep.refl)

theorem createApprovalRequest_wp (request : NewApprovalRequestRecord) :
    (gateProtocol config answers ι).wp i (Approval.createApprovalRequest config request)
      (fun r w => ∀ created, r = .ok created →
        Asked config created.approvalRequestId request.actionFingerprint w) v := by
  refine Protocol.wp_seq (passes_aside (Prog.confined_ofExcept _)) (fun _ v _ => ?_)
    fun _ _ _ _ hr => (nomatch hr)
  refine Protocol.wp_seq (passes_aside enforcePendingRequestLimit_aside) (fun _ v _ => ?_)
    fun _ _ _ _ hr => (nomatch hr)
  refine Protocol.wp_seq (passes_aside (confined_newUuid AsideStep.refl)) (fun eventId v _ => ?_)
    fun _ _ _ _ hr => (nomatch hr)
  refine Protocol.wp_seq (createRequest_wp eventId request) (fun _ v hcreated => ?_)
    fun _ _ _ _ hr => (nomatch hr)
  have hasked := hcreated.2 rfl
  refine Protocol.wp_mono ?_ (Protocol.wp_returns
    (returns_fetchOne fun db row hrow => Table.key_of_find hrow)
    (passes_aside (confined_fetchOne AsideStep.refl)))
  intro r w ⟨hid, hrely⟩ created hr
  rw [hid created hr]
  exact hasked.of_relies hrely

/-- The request an action is routed to is for its fingerprint. -/
theorem approvalRequestFor_wp (trigger : ForegroundTrigger) (proposal : GovernedActionProposal)
    (record : GovernedActionExecutionRecord) (title consequenceSummary : String) :
    (gateProtocol config answers ι).wp i
      (Orchestration.approvalRequestFor config trigger proposal record title consequenceSummary)
      (fun r w => ∀ request, r = .ok request →
        Asked config request.approvalRequestId record.actionFingerprint w) v := by
  unfold Orchestration.approvalRequestFor
  have hpending : (gateProtocol config answers ι).wp i
      (Approval.getPendingApprovalRequestByFingerprint record.actionFingerprint)
      (fun r w => ∀ request, r = .ok (some request) →
        Asked config request.approvalRequestId record.actionFingerprint w) v := by
    refine wp_fetch (fun w hinv _ request hr => ?_) fun _ _ _ _ hr => (nomatch hr)
    have hfound := Except.ok.inj hr
    have hfingerprint : request.actionFingerprint = record.actionFingerprint := by
      have hwhich := List.find?_some hfound
      rw [Bool.and_eq_true, decide_eq_true_eq] at hwhich
      exact hwhich.1
    have hasked := asked_of_mem hinv (List.mem_of_find?_eq_some hfound)
    rw [hfingerprint] at hasked
    exact hasked
  refine Protocol.wp_seq hpending ?_ fun _ _ _ _ hr => (nomatch hr)
  intro pending v hfound
  cases pending with
  | some existing =>
    intro request hr
    obtain rfl := Except.ok.inj hr
    exact hfound _ rfl
  | none =>
    refine Protocol.wp_seq (passes_aside (confined_newUuid AsideStep.refl)) (fun _ v _ => ?_)
      fun _ _ _ _ hr => (nomatch hr)
    refine Protocol.wp_seq (passes_aside (confined_newUuid AsideStep.refl)) (fun _ v _ => ?_)
      fun _ _ _ _ hr => (nomatch hr)
    refine Protocol.wp_seq (passes_aside (confined_expect _)) (fun _ v _ => ?_)
      fun _ _ _ _ hr => (nomatch hr)
    exact createApprovalRequest_wp _

theorem approvalRequestFor_passes (trigger : ForegroundTrigger)
    (proposal : GovernedActionProposal) (record : GovernedActionExecutionRecord)
    (title consequenceSummary : String) :
    Passes config answers i (Orchestration.approvalRequestFor config trigger proposal record
      title consequenceSummary) v := by
  refine passes_bind (passes_aside (confined_fetch AsideStep.refl)) fun pending v _ => ?_
  cases pending with
  | some existing => exact passes_ret _
  | none =>
    refine passes_bind (passes_aside (confined_newUuid AsideStep.refl)) fun _ v _ => ?_
    refine passes_bind (passes_aside (confined_newUuid AsideStep.refl)) fun _ v _ => ?_
    refine passes_bind (passes_aside (confined_expect _)) fun _ v _ => ?_
    exact createApprovalRequest_passes _

/-! ## Routing -/

section Routing

variable {id : Uuid} {fingerprint : GovernedActionFingerprint} {free : Bool}

/-- A thread may attach a request for its fingerprint to an action of its own. -/
theorem attachApprovalRequest_plays {approvalRequestId : Uuid}
    (hmine : Mine config i id fingerprint free v)
    (hasked : Asked config approvalRequestId fingerprint v) :
    Plays config answers i (GovernedActions.attachApprovalRequest id approvalRequestId) v := by
  unfold GovernedActions.attachApprovalRequest
  refine plays_then ?_ fun _ v => ?_
  · refine wp_execute (fun w now effect hinv hrely hbody => ⟨?_, trivial⟩) fun _ _ _ => trivial
    have hmine := hmine.of_relies hrely
    obtain ⟨pending, hask⟩ := hasked.of_relies hrely
    rcases GovernedActions.changeRecord_eq_ok hbody with
      ⟨hdb, hevents⟩ | ⟨row, hrow, hvalid, hdb, hevents⟩
    · refine (commits_aside hinv ?_).1
      rw [hdb, hevents]
      exact AsideStep.refl _
    · have hkey : ∀ r : GovernedActionExecutionRecord,
          (GovernedActions.attached now approvalRequestId r).governedActionExecutionId =
            r.governedActionExecutionId := fun _ => rfl
      have hfingerprint : row.actionFingerprint = fingerprint := by
        obtain ⟨link, htie⟩ := hmine.tied
        obtain ⟨found, hfound, hpair⟩ := Option.map_eq_some_iff.mp htie
        obtain rfl := Option.some.inj (hfound.symm.trans hrow)
        exact (Prod.mk.inj hpair).1
      have hties : tieOf effect.db = Function.update (tieOf w.state.db) id
          (some (fingerprint, some approvalRequestId)) := by
        rw [hdb, ← hfingerprint]
        refine map_find_change hkey hrow (decide_eq_true (Table.key_of_find hrow)) ?_
        exact fun r hr => of_decide_eq_true hr
      have hasks : askOf effect.db = askOf w.state.db := by rw [hdb]; rfl
      have hview : view config (committed w i effect) = { view config w with
          ties := Function.update (view config w).ties id
            (some (fingerprint, some approvalRequestId)) } := by
        rw [view_push, hties, hasks, hevents]
        exact congrArg (Gate.State.mk _ _) (List.append_nil _)
      refine allows_step hinv ?_ ?_ ?_
      · rw [hview]
        exact .attached id fingerprint free approvalRequestId pending hmine.planned
          hmine.unsent hask
      · rw [hdb]
        show ((Table.update _ _ _).map _).Nodup
        rw [Table.map_key_update hkey]
        exact hinv.recordKeys
      · rw [hdb]
        exact hinv.requestKeys
  · refine (passes_aside (Prog.Confined.bind (confined_fetchOne AsideStep.refl)
      fun record => ?_)).plays
    exact Prog.Confined.bind (CausalLinks.insert_confined AsideStep.causalLinks _)
      fun _ => Prog.confined_ret _

theorem deliverTelegramApprovalPrompt_aside (ingress : NormalizedIngress)
    (approvalRequest : ApprovalRequestRecord) :
    Aside (Orchestration.deliverTelegramApprovalPrompt ingress approvalRequest) := by
  refine Prog.Confined.bind (Prog.confined_ofExcept _) fun _ => ?_
  refine Prog.Confined.bind (Prog.confined_ofExcept _) fun _ => ?_
  exact Prog.Confined.bind (fun answer => Prog.confined_ofExcept (S := system) answer)
    fun _ => Prog.confined_ret _

theorem routeGovernedActionForApproval_plays (trigger : ForegroundTrigger)
    (proposal : GovernedActionProposal) {record : GovernedActionExecutionRecord}
    (title consequenceSummary : String)
    (hmine : Mine config i record.governedActionExecutionId record.actionFingerprint free v) :
    Plays config answers i (Orchestration.routeGovernedActionForApproval config trigger
      proposal record title consequenceSummary) v := by
  refine Protocol.wp_seq (Protocol.wp_and (approvalRequestFor_passes _ _ _ _ _)
    (approvalRequestFor_wp trigger proposal record title consequenceSummary)) ?_
    fun _ _ _ => trivial
  intro request w ⟨hrely, hasked⟩
  refine plays_then (attachApprovalRequest_plays (hmine.of_relies hrely) (hasked _ rfl))
    fun _ w => ?_
  refine (passes_aside (Prog.Confined.bind (confined_utcNow AsideStep.refl)
    fun now => ?_)).plays
  refine Prog.Confined.bind (Prog.Confined.mapError
    (Recovery.recoverApprovalRequestTransition_confined AsideStep.triggers _ _ _ _)) fun _ => ?_
  exact deliverTelegramApprovalPrompt_aside _ _

end Routing

/-! ## Processing proposals -/

section Processing

variable [GovernedActionServices]

theorem routeOrExecute_plays (trigger : ForegroundTrigger) (proposal : GovernedActionProposal)
    {record : GovernedActionExecutionRecord} {requiresApproval : Bool}
    (title consequenceSummary : String) (state : Orchestration.ProcessingState)
    (hfresh : Fresh config i record.governedActionExecutionId record.actionFingerprint
      (!requiresApproval) v) :
    Plays config answers i (Orchestration.routeOrExecute config trigger proposal record
      requiresApproval title consequenceSummary state) v := by
  unfold Orchestration.routeOrExecute
  cases requiresApproval with
  | true =>
    exact plays_then (routeGovernedActionForApproval_plays _ _ _ _ hfresh.toMine)
      fun _ _ => plays_ret _
  | false =>
    refine plays_then (executeGovernedAction_plays hfresh.maySend) fun executed w => ?_
    refine plays_bind (passes_aside (Prog.Confined.emit fun w => ?_)) fun _ w _ => plays_ret _
    exact OnDb.emit (AsideStep.emitting w.db not_false)

omit [GovernedActionServices] in
/-- Holding an action back leaves it to its thread to route it. -/
theorem escalateAtCap_wp (tracker : ForegroundActionLoopTracker)
    {record : GovernedActionExecutionRecord} (requiresApproval : Bool) {free : Bool}
    (hmine : Mine config i record.governedActionExecutionId record.actionFingerprint free v) :
    (gateProtocol config answers ι).wp i
      (Orchestration.escalateAtCap config tracker record requiresApproval)
      (fun _ w => Mine config i record.governedActionExecutionId record.actionFingerprint free
        w) v := by
  unfold Orchestration.escalateAtCap
  have hemit : (gateProtocol config answers ι).wp i
      (Prog.emit (.actionEscalated record.governedActionExecutionId))
      (fun _ w => Mine config i record.governedActionExecutionId record.actionFingerprint free
        w) v := by
    refine Protocol.wp_emit fun w hinv hrely => ?_
    have hmine := hmine.of_relies hrely
    have hview : view config (w.push i w.state
        [.actionEscalated record.governedActionExecutionId]) = { view config w with
          log := (view config w).log ++ [(i, .escalated record.governedActionExecutionId)] } :=
      view_push config w i w.state _
    refine ⟨allows_step hinv ?_ hinv.recordKeys hinv.requestKeys, ?_, ?_, ?_⟩
    · rw [hview]
      exact .escalated _ _ _ hmine.planned hmine.unsent
    · rw [hview]
      exact List.mem_append_left _ hmine.planned
    · rw [hview]
      exact hmine.tied
    · rw [hview]
      exact hmine.unsent.concat (by simp)
  refine Protocol.wp_seq hemit (fun _ w hmine => ?_) fun _ _ h => h
  refine Protocol.wp_mono (fun _ _ hrely => hmine.of_relies hrely) (passes_aside ?_)
  split
  · exact Prog.confined_ret _
  · refine Prog.Confined.bind (updateGovernedActionExecution_aside rfl fun e he => (nomatch he))
      fun _ => ?_
    exact writeGovernedActionAuditEvent_aside _ _ _ _

omit [GovernedActionServices] in
theorem denyAtCap_aside (tracker : ForegroundActionLoopTracker)
    (record : GovernedActionExecutionRecord) :
    Aside (Orchestration.denyAtCap config tracker record) := by
  refine Prog.Confined.bind (updateGovernedActionExecution_aside rfl fun e he => (nomatch he))
    fun _ => ?_
  refine Prog.Confined.bind (writeGovernedActionAuditEvent_aside _ _ _ _) fun _ => ?_
  exact Prog.Confined.bind (confined_newUuid AsideStep.refl) fun _ => Prog.confined_ret _

theorem processPlanned_plays (trigger : ForegroundTrigger) (proposal : GovernedActionProposal)
    {planned : PlannedGovernedAction} (state : Orchestration.ProcessingState)
    (hplanned : PlannedHere config i v planned) :
    Plays config answers i (Orchestration.processPlanned config trigger proposal planned state)
      v := by
  unfold Orchestration.processPlanned
  dsimp only
  split
  · split
    · refine plays_bind (passes_aside (writeGovernedActionAuditEvent_aside _ _ _ _))
        fun _ w hrely => ?_
      exact routeOrExecute_plays _ _ _ _ _ (Fresh.of_relies hplanned hrely)
    · exact plays_bind (passes_aside (denyAtCap_aside _ _)) fun _ _ _ => plays_ret _
    · refine Protocol.wp_seq (escalateAtCap_wp _ _ hplanned.toMine) (fun _ w hmine => ?_)
        fun _ _ _ => trivial
      exact plays_then (routeGovernedActionForApproval_plays _ _ _ _ hmine)
        fun _ _ => plays_ret _
  · exact routeOrExecute_plays _ _ _ _ _ hplanned

theorem processProposal_plays (trigger : ForegroundTrigger)
    (state : Orchestration.ProcessingState) (proposal : GovernedActionProposal)
    (v : Shared system ι) :
    Plays config answers i (Orchestration.processProposal config trigger state proposal) v := by
  refine plays_bind (passes_aside (confined_newUuid AsideStep.refl)) fun id v _ => ?_
  refine Protocol.wp_seq (planGovernedAction_wp _) (fun planning w hplanned => ?_)
    fun _ _ _ => trivial
  cases planning with
  | blocked blocked =>
    exact plays_bind (passes_aside (confined_newUuid AsideStep.refl)) fun _ _ _ => plays_ret _
  | planned planned => exact processPlanned_plays _ _ _ (hplanned planned rfl)

theorem processGovernedActionProposals_plays (trigger : ForegroundTrigger)
    (tracker : ForegroundActionLoopTracker) (proposals : List GovernedActionProposal)
    (v : Shared system ι) :
    Plays config answers i (Orchestration.processGovernedActionProposals config trigger tracker
      proposals) v := by
  refine Protocol.wp_mono (fun _ _ _ => trivial) (Protocol.wp_foldlM (I := fun _ _ => True)
    (E := fun _ _ => True) proposals (fun state proposal w _ _ => ?_) _ v trivial)
  refine Protocol.wp_mono (fun r _ _ => ?_) (processProposal_plays trigger state proposal w)
  cases r <;> trivial

/-! ## Conscious turns -/

omit [GovernedActionServices] in
theorem launchLeasedConsciousWorker_passes (trigger : ForegroundTrigger)
    (observations : List GovernedActionObservation) (timeoutMs : Nat) :
    Passes config answers i (Orchestration.launchLeasedConsciousWorker trigger observations
      timeoutMs) v := by
  have refl : ∀ db, AsideStep db db [] := AsideStep.refl
  refine passes_bind (passes_aside (confined_utcNow refl)) fun _ v _ => ?_
  refine passes_bind (passes_aside (confined_expect _)) fun _ v _ => ?_
  refine passes_bind (passes_aside (confined_newUuid refl)) fun _ v _ => ?_
  refine passes_bind (passes_aside (confined_newUuid refl)) fun _ v _ => ?_
  refine passes_bind (passes_aside (createWorkerLease_aside _)) fun workerLease v _ => ?_
  refine passes_bind (passes_aside fun _ => trivial) fun response v _ => ?_
  cases response with
  | ok response =>
    refine passes_bind (passes_aside (confined_utcNow refl)) fun _ v _ => ?_
    refine passes_bind (passes_context (passes_aside (refreshWorkerLeaseProgress_aside _ _)))
      fun _ v _ => ?_
    refine passes_bind (passes_aside (confined_utcNow refl)) fun _ v _ => ?_
    exact passes_bind (passes_context (passes_aside (releaseWorkerLease_aside _ _)))
      fun _ _ _ => passes_ret _
  | error error =>
    dsimp only [Orchestration.completeConsciousLease]
    split
    · refine passes_bind (passes_aside (confined_utcNow refl)) fun _ v _ => ?_
      exact passes_bind (passes_context (recoverObservedWorkerTimeout_passes _ _ _ _))
        fun _ _ _ => passes_aside (Prog.confined_fail _)
    · refine passes_bind (passes_aside (confined_utcNow refl)) fun _ v _ => ?_
      exact passes_bind (passes_context (passes_aside (releaseWorkerLease_aside _ _)))
        fun _ _ _ => passes_aside (Prog.confined_fail _)

theorem consciousPass_plays (trigger : ForegroundTrigger)
    (tracker : ForegroundActionLoopTracker) (observations : List GovernedActionObservation)
    (v : Shared system ι) :
    Plays config answers i (Orchestration.consciousPass config trigger tracker observations)
      v := by
  have emits : ∀ {e : Event}, ¬e.OfGate → Aside (Prog.emit e : Harness Unit) :=
    fun he => Prog.Confined.emit fun w => OnDb.emit (AsideStep.emitting w.db he)
  refine plays_bind (passes_aside (emits not_false)) fun _ v _ => ?_
  refine plays_bind (passes_aside (emits not_false)) fun _ v _ => ?_
  refine plays_bind (launchLeasedConsciousWorker_passes _ _ _) fun response v _ => ?_
  refine plays_bind (passes_aside (confined_expect _)) fun result v _ => ?_
  refine plays_then (processGovernedActionProposals_plays _ _ _ v) fun round v => ?_
  exact plays_bind (passes_aside (emits not_false)) fun _ _ _ => plays_ret _

theorem executeConsciousTurn_plays (trigger : ForegroundTrigger)
    (initialExecutedActionCount : Nat) (observations : List GovernedActionObservation)
    (v : Shared system ι) :
    Plays config answers i (Orchestration.executeConsciousTurn config trigger
      initialExecutedActionCount observations) v := by
  unfold Orchestration.executeConsciousTurn
  generalize Orchestration.maxWorkerPasses config = fuel
  generalize ({ executedActionCount := initialExecutedActionCount } :
    ForegroundActionLoopTracker) = tracker
  generalize ({} : GovernedActionProcessingSummary) = summary
  generalize false = limitFollowUpConsumed
  generalize 0 = workerPassCount
  induction fuel generalizing v workerPassCount tracker summary limitFollowUpConsumed
    observations with
  | zero => exact plays_fail _
  | succ fuel ih =>
    unfold Orchestration.consciousTurnLoop
    refine plays_then (consciousPass_plays _ _ _ v) fun pass v => ?_
    dsimp only
    split
    · exact ih _ v _ _ _ _
    · exact plays_ret _

end Processing

end BlueLagoon.ApprovalGate
