import BlueLagoon.ApprovalGate.Resolution

/-!
# No action slips past its approval

Foreground executions, resolutions from the chat and from the command line, expiries and the
supervision of leases run side by side, on one database. Each hands a payload to its executor only
as the gate allows.
-/

namespace BlueLagoon.ApprovalGate

open Interleaving Harness

/-! ## What runs side by side -/

/-- A call that plans, routes, resolves or executes governed actions, or recovers them. -/
inductive GateOperation
  | foreground (trigger : ForegroundTrigger) (recoveryContext : ForegroundRecoveryContext)
      (candidateMessages : List UserEpisodeMessage)
  | plan (execution : TelegramForegroundPlanExecution)
  | resolve (request : ResolveApprovalRequest)
  | expireDue (now : DateTime)
  | supervise (now : DateTime) (softWarningThresholdPercent : Nat)

variable [GovernedActionServices]

/-- The program of a call, without its result. -/
def GateOperation.program (config : RuntimeConfig) : GateOperation → Harness Unit
  | .foreground trigger recoveryContext candidateMessages => do
    let _ ← Orchestration.orchestrateTrigger config trigger recoveryContext candidateMessages
    pure ()
  | .plan execution => do
    let _ ← Orchestration.orchestrateTelegramForegroundPlan config execution
    pure ()
  | .resolve request => do
    let _ ← Management.resolveApprovalRequest config request
    pure ()
  | .expireDue now => do
    let _ ← Approval.expireDueApprovalRequests now
    pure ()
  | .supervise now softWarningThresholdPercent => do
    let _ ← Recovery.superviseWorkerLeases now softWarningThresholdPercent
    pure ()

variable {ι : Type} {config : RuntimeConfig} {answers : Answers system}

theorem GateOperation.program_plays (i : ι) (operation : GateOperation) (v : Shared system ι) :
    Plays config answers i (operation.program config) v := by
  cases operation with
  | foreground trigger recoveryContext candidateMessages =>
    exact plays_then (orchestrateTrigger_plays _ _ _ _) fun _ _ => plays_ret _
  | plan execution =>
    exact plays_then (orchestrateTelegramForegroundPlan_plays _ _) fun _ _ => plays_ret _
  | resolve request =>
    exact plays_then (resolveApprovalRequest_plays _ _) fun _ _ => plays_ret _
  | expireDue now =>
    exact plays_then (expireDueApprovalRequests_plays _ _) fun _ _ => plays_ret _
  | supervise now softWarningThresholdPercent =>
    exact plays_then (superviseWorkerLeases_passes _ _).plays fun _ _ => plays_ret _

/-- One process for each call, all of them at their start. -/
def gatePool (config : RuntimeConfig) (operations : ι → GateOperation) (w : World) :
    Config system fun _ : ι => Unit where
  threads i := (operations i).program config
  shared := { state := w }

/-- The keys of the tables are unique, and an action waits for a request that was made for it. -/
structure Consistent (db : Database) : Prop where
  recordKeys : (db.governedActionExecutions.map
    GovernedActionExecutionRecord.governedActionExecutionId).Nodup
  requestKeys : (db.approvalRequests.map ApprovalRequestRecord.approvalRequestId).Nodup
  links : ∀ row ∈ db.governedActionExecutions, ∀ approvalRequestId,
    row.approvalRequestId = some approvalRequestId → ∃ request ∈ db.approvalRequests,
      request.approvalRequestId = approvalRequestId ∧
        request.actionFingerprint = row.actionFingerprint

omit [GovernedActionServices] in
theorem gated_start {w : World} (h : Consistent w.db) :
    Gated config ({ state := w } : Shared system ι) := by
  refine ⟨.start rfl fun id fingerprint approvalRequestId htie => ?_, h.recordKeys,
    h.requestKeys⟩
  obtain ⟨row, hrow, hpair⟩ := Option.map_eq_some_iff.mp htie
  obtain ⟨rfl, hlink⟩ := Prod.mk.inj hpair
  obtain ⟨request, hrequest, rfl, hfingerprint⟩ :=
    h.links row (Table.mem_of_find hrow) approvalRequestId hlink
  refine ⟨decide (request.status = .pending), ?_⟩
  show (Table.find _ _ _).map _ = _
  rw [Table.find_eq_some_of_mem h.requestKeys hrequest, Option.map_some, hfingerprint]

/-! ## What a payload that was handed over tells -/

/-- The action was planned by the thread under a tier that needs no approval, and was not held
back; no request is attached to it. -/
structure SentFreely (config : RuntimeConfig) (i : ι) (row : GovernedActionExecutionRecord)
    (log : List (ι × Event)) : Prop where
  planned : ∃ tier, (i, .actionPlanned row.governedActionExecutionId row.actionFingerprint
    tier) ∈ log
  free : ∀ j fingerprint tier,
    (j, .actionPlanned row.governedActionExecutionId fingerprint tier) ∈ log →
      Policy.governedActionRequiresApproval config tier = false
  unescalated : ∀ j, (j, .actionEscalated row.governedActionExecutionId) ∉ log
  unlinked : row.approvalRequestId = none

/-- The thread approved the request that is attached to the action, for the fingerprint of the
action; no other action that waits for the request was executed. -/
structure SentOnApproval (i : ι) (row : GovernedActionExecutionRecord)
    (rows : List GovernedActionExecutionRecord) (before log : List (ι × Event)) : Prop where
  approved : ∃ approvalRequestId, row.approvalRequestId = some approvalRequestId ∧
    (i, .approvalResolved approvalRequestId row.actionFingerprint .approved) ∈ before
  alone : ∀ other ∈ rows, other.approvalRequestId = row.approvalRequestId →
    other.governedActionExecutionId ≠ row.governedActionExecutionId →
      ∀ j, (j, .payloadDispatched other.governedActionExecutionId) ∉ log

section Reading

variable {i : ι} {log : List (ι × Event)}

omit [GovernedActionServices] in
/-- An entry of the gate's log is read off an entry of the log. -/
theorem exists_of_mem_gateEntry {entry : Gate.Event Uuid GovernedActionFingerprint Uuid}
    (h : (i, entry) ∈ log.filterMap (gateEntry config)) :
    ∃ e, (i, e) ∈ log ∧ gateEvent config e = some entry := by
  obtain ⟨⟨j, e⟩, hmem, hentry⟩ := List.mem_filterMap.mp h
  obtain ⟨entry', he, hpair⟩ := Option.map_eq_some_iff.mp hentry
  obtain ⟨rfl, rfl⟩ := Prod.mk.inj hpair
  exact ⟨e, hmem, he⟩

omit [GovernedActionServices] in
theorem planned_of_entry {id : Uuid} {fingerprint : GovernedActionFingerprint} {free : Bool}
    (h : (i, .planned id fingerprint free) ∈ log.filterMap (gateEntry config)) :
    ∃ tier, (i, .actionPlanned id fingerprint tier) ∈ log := by
  obtain ⟨e, hmem, he⟩ := exists_of_mem_gateEntry h
  cases e with
  | actionPlanned id' fingerprint' tier =>
    obtain ⟨rfl, rfl, -⟩ := Gate.Event.planned.inj (Option.some.inj he)
    exact ⟨tier, hmem⟩
  | _ => cases he

omit [GovernedActionServices] in
theorem approved_of_entry {approvalRequestId : Uuid} {fingerprint : GovernedActionFingerprint}
    (h : (i, .resolved approvalRequestId fingerprint true) ∈
      log.filterMap (gateEntry config)) :
    (i, .approvalResolved approvalRequestId fingerprint .approved) ∈ log := by
  obtain ⟨e, hmem, he⟩ := exists_of_mem_gateEntry h
  cases e with
  | approvalResolved id fingerprint' decision =>
    obtain ⟨rfl, rfl, hdecision⟩ := Gate.Event.resolved.inj (Option.some.inj he)
    rw [← of_decide_eq_true hdecision]
    exact hmem
  | _ => cases he

end Reading

/-! ## The gate holds -/

/-- In every run of the calls, however they are interleaved, a payload is handed over once for each
action. Either the thread planned the action under a tier that needs no approval and did not hold
it back, or it approved the request that is attached to the action before; and on one approval no
more than one action is executed. -/
theorem payload_passes_gate [DecidableEq ι] (config : RuntimeConfig)
    (operations : ι → GateOperation) (answers : Answers system) {w : World}
    (hstart : Consistent w.db) {c : Config system fun _ : ι => Unit}
    (reach : Config.Reachable answers (gatePool config operations w) c)
    {before after : List (ι × Event)} {i : ι} {id : Uuid}
    (hlog : c.shared.log = before ++ (i, .payloadDispatched id) :: after) :
    (∀ j, (j, .payloadDispatched id) ∉ before ∧ (j, .payloadDispatched id) ∉ after) ∧
      ∃ row ∈ c.shared.state.db.governedActionExecutions, row.governedActionExecutionId = id ∧
        (SentFreely config i row c.shared.log ∨
          SentOnApproval i row c.shared.state.db.governedActionExecutions before
            c.shared.log) := by
  have hkept : (gateProtocol config answers ι).Kept (fun _ _ _ => True)
      (gatePool config operations w) :=
    Protocol.kept_of_wp (gated_start hstart) fun i =>
      (operations i).program_plays i (gatePool config operations w).shared
  have hgated : Gated config c.shared := (hkept.reachable reach).1
  have hsplit : (view config c.shared).log = before.filterMap (gateEntry config) ++
      (i, .sent id) :: after.filterMap (gateEntry config) := by
    show c.shared.log.filterMap (gateEntry config) = _
    rw [hlog, List.filterMap_append, List.filterMap_cons]
    rfl
  have hmem : (i, .payloadDispatched id) ∈ c.shared.log := by
    rw [hlog]
    exact List.mem_append_right _ List.mem_cons_self
  -- what the gate says of its log is said of the payloads, the `sent` of this model
  obtain ⟨honce, hpassed⟩ := hgated.sound.sent hsplit
  refine ⟨fun j => ⟨fun h => (honce j).1 (mem_gateEntry h rfl),
    fun h => (honce j).2 (mem_gateEntry h rfl)⟩, ?_⟩
  have hknown := hgated.sound.known i id (Or.inl (mem_gateEntry hmem rfl))
  obtain ⟨⟨fingerprint, link⟩, htie⟩ := Option.ne_none_iff_exists'.mp hknown
  obtain ⟨row, hrow, hpair⟩ := Option.map_eq_some_iff.mp htie
  obtain ⟨rfl, rfl⟩ := Prod.mk.inj hpair
  obtain rfl := Table.key_of_find hrow
  refine ⟨row, Table.mem_of_find hrow, rfl, ?_⟩
  -- the gate let it pass because it is free, or because the thread was granted its request
  rcases hpassed with hfree | ⟨approvalRequestId, fingerprint, htie', hgrant, halone⟩
  · obtain ⟨fingerprint, hplanned⟩ := hfree.planned
    refine Or.inl ⟨?_, fun j fingerprint' tier hplanned' => ?_, fun j hescalated => ?_, ?_⟩
    · obtain ⟨link, hrecorded⟩ := hgated.sound.recorded _ _ _ _ hplanned
      obtain ⟨rfl, -⟩ := Prod.mk.inj (Option.some.inj (hrecorded.symm.trans htie))
      exact planned_of_entry hplanned
    · have hentry : (j, .planned _ fingerprint' _) ∈ (view config c.shared).log :=
        mem_gateEntry hplanned' rfl
      simpa using (hgated.sound.plannedOnce _ _ _ _ _ _ _ hplanned hentry).2.2
    · exact hfree.unescalated j (mem_gateEntry hescalated rfl)
    · cases hlink : row.approvalRequestId with
      | none => rfl
      | some approvalRequestId =>
        rw [hlink] at htie
        exact absurd htie (hfree.unlinked _ _)
  · obtain ⟨hfingerprint, hlink⟩ := Prod.mk.inj (Option.some.inj (htie.symm.trans htie'))
    rw [← hfingerprint] at hgrant
    refine Or.inr ⟨⟨approvalRequestId, hlink, approved_of_entry hgrant⟩, ?_⟩
    intro other hother hsame hne j hsent
    refine halone other.governedActionExecutionId other.actionFingerprint hne ?_ j
      (mem_gateEntry hsent rfl)
    show (GovernedActions.recordOf _ _).map _ = _
    rw [GovernedActions.recordOf, Table.find_eq_some_of_mem hgated.recordKeys hother,
      Option.map_some, hsame, hlink]

/-! ### An action that is approved from the command line -/

/-- Every action requires an approval. -/
def cautiousConfig : RuntimeConfig :=
  { RuntimeConfig.shipped with
    governedActions :=
      { RuntimeConfig.shipped.governedActions with
        approvalRequiredMinRiskTier := .tier0 } }

/-- Surroundings in which the worker asks for a query until it has observed something. -/
def askingOnce : Oracle system := fun n q =>
  match q with
  | .consciousWorker _ [] _ =>
    .ok (some
      { governedActionProposals := [Orchestration.statusQuery 1]
        assistantText := "" })
  | q => steady 20 n q

/-- The message of the trigger, and its execution. -/
def greeted : World where
  db :=
    { executionRecords :=
        [{ executionId := 1000
           traceId := 1
           triggerKind := "telegram"
           status := "started" }]
      ingressEvents :=
        [{ ingressId := 1
           conversationBindingId := none
           traceId := 1
           executionId := some 1000
           occurredAt := 10
           receivedAt := 10
           channelKind := .telegram
           externalUserId := "42"
           externalConversationId := "42"
           internalPrincipalRef := some "primary"
           internalConversationRef := some "telegram-primary"
           eventKind := .messageCreated
           externalEventId := "event"
           externalMessageId := none
           status := "accepted"
           foregroundStatus := "processing"
           lastProcessedAt := none
           rejectionReason := none
           textBody := some "hello"
           commandName := none
           commandArgs := []
           approvalToken := none
           approvalCallbackData := none
           rawPayloadRef := none }] }

/-- The message is answered by one process, and the request that comes of it approved by the
other. -/
def askThenApprove : Bool → GateOperation
  | false => .foreground Orchestration.sampleTrigger {} []
  | true => .resolve
      { approvalRequestId := 27
        actorRef := none
        decision := .approved
        reason := none }

omit [GovernedActionServices] in
theorem payload_passes_gate_approved :
    let _services := GovernedActions.plainServices
    ∃ c : Config system fun _ : Bool => Unit,
      Config.Reachable (fun _ _ => True) (gatePool cautiousConfig askThenApprove greeted) c ∧
      ∃ before after, c.shared.log = before ++ (true, .payloadDispatched 20) :: after ∧
        ∃ row ∈ c.shared.state.db.governedActionExecutions,
          row.governedActionExecutionId = 20 ∧
            (SentFreely cautiousConfig true row c.shared.log ∨
              SentOnApproval true row c.shared.state.db.governedActionExecutions before
                c.shared.log) := by
  intro _services
  have hasked : Config.Reachable (fun _ _ => True)
      (gatePool cautiousConfig askThenApprove greeted) _ :=
    Config.reachable_run (o := askingOnce) (fun _ _ => trivial) false
      ((askThenApprove false).program cautiousConfig) 0 _ rfl
  have happroved := hasked.trans (Config.reachable_run (o := askingOnce) (fun _ _ => trivial)
    true ((askThenApprove true).program cautiousConfig) 100 _ rfl)
  obtain ⟨c, reach, hlog⟩ : ∃ c, Config.Reachable (fun _ _ => True)
      (gatePool cautiousConfig askThenApprove greeted) c ∧
        c.shared.log = c.shared.log.take 9 ++ (true, .payloadDispatched 20) ::
          c.shared.log.drop 10 :=
    ⟨_, happroved, by decide +kernel⟩
  have hstart : Consistent greeted.db := ⟨by decide, by decide, by simp [greeted]⟩
  exact ⟨c, reach, _, _, hlog,
    (payload_passes_gate cautiousConfig askThenApprove _ hstart reach hlog).2⟩

end BlueLagoon.ApprovalGate
