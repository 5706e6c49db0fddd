import BlueLagoon.ActionCap
import BlueLagoon.ApprovalGate.Protocol

/-!
# Executing an action at the gate

Recovery writes the request of an action back as it read it, which changes nothing, since a
request that is attached to an action stays attached. Executing an action is sending it: the
thread needs the gate's permit when it hands the payload over, and nothing afterwards.
-/

namespace BlueLagoon.ApprovalGate

open Interleaving Harness

section Passing

variable {ι : Type} {config : RuntimeConfig} {answers : Answers system} {i : ι}
  {v w : Shared system ι} {α β : Type}

/-- The program plays by the protocol and takes nothing away from its own thread. -/
def Passes (config : RuntimeConfig) (answers : Answers system) (i : ι) (p : Harness α)
    (v : Shared system ι) : Prop :=
  (gateProtocol config answers ι).wp i p (fun _ w => Relies config i v w) v

/-- The program plays by the protocol. -/
def Plays (config : RuntimeConfig) (answers : Answers system) (i : ι) (p : Harness α)
    (v : Shared system ι) : Prop :=
  (gateProtocol config answers ι).wp i p (fun _ _ => True) v

theorem Passes.plays {p : Harness α} (h : Passes config answers i p v) :
    Plays config answers i p v :=
  Protocol.wp_mono (fun _ _ _ => trivial) h

theorem passes_aside {p : Harness α} (hp : Aside p) : Passes config answers i p v :=
  wp_aside hp v

theorem passes_ret (a : α) : Passes config answers i (pure a) v := .refl _ _

theorem plays_ret (a : α) : Plays config answers i (pure a) v := trivial

theorem plays_fail (e : ErrorChain) : Plays config answers i (.fail e : Harness α) v := trivial

/-- One passing program after the other, with what the first returns. -/
theorem passes_bind_returns {R : α → Prop} {p : Harness α} {f : α → Harness β}
    (hp : Passes config answers i p v) (hreturns : p.Returns R)
    (hf : ∀ a w, R a → Relies config i v w → Passes config answers i (f a) w) :
    Passes config answers i (p >>= f) v := by
  refine Protocol.wp_seq (Protocol.wp_returns hreturns hp) ?_ fun _ _ h => h.2
  intro a w ⟨hR, hrely⟩
  exact Protocol.wp_mono (fun _ _ h => hrely.trans h) (hf a w (hR a rfl) hrely)

theorem passes_bind {p : Harness α} {f : α → Harness β} (hp : Passes config answers i p v)
    (hf : ∀ a w, Relies config i v w → Passes config answers i (f a) w) :
    Passes config answers i (p >>= f) v :=
  passes_bind_returns hp (Prog.Returns.any p) fun a w _ => hf a w

theorem passes_attempt {p : Harness α} (hp : Passes config answers i p v) :
    Passes config answers i p.attempt v :=
  Protocol.wp_attempt.mpr hp

theorem passes_context {p : Harness α} {message : String} (hp : Passes config answers i p v) :
    Passes config answers i (context message p) v :=
  Protocol.wp_mapError.mpr hp

/-- After a program that passes, what was relied on before it can still be. -/
theorem plays_bind_returns {R : α → Prop} {p : Harness α} {f : α → Harness β}
    (hp : Passes config answers i p v) (hreturns : p.Returns R)
    (hf : ∀ a w, R a → Relies config i v w → Plays config answers i (f a) w) :
    Plays config answers i (p >>= f) v := by
  refine Protocol.wp_seq (Protocol.wp_returns hreturns hp) ?_ fun _ _ _ => trivial
  intro a w ⟨hR, hrely⟩
  exact hf a w (hR a rfl) hrely

theorem plays_bind {p : Harness α} {f : α → Harness β} (hp : Passes config answers i p v)
    (hf : ∀ a w, Relies config i v w → Plays config answers i (f a) w) :
    Plays config answers i (p >>= f) v :=
  plays_bind_returns hp (Prog.Returns.any p) fun a w _ => hf a w

/-- After a program of which nothing more is needed. -/
theorem plays_then {p : Harness α} {f : α → Harness β} (hp : Plays config answers i p v)
    (hf : ∀ a w, Plays config answers i (f a) w) : Plays config answers i (p >>= f) v :=
  Protocol.wp_seq hp (fun a w _ => hf a w) fun _ _ _ => trivial

theorem plays_attempt {p : Harness α} (hp : Plays config answers i p v) :
    Plays config answers i p.attempt v :=
  Protocol.wp_attempt.mpr hp

end Passing

/-! ## Records whose request is written back -/

section Linked

variable {ι : Type} {config : RuntimeConfig} {answers : Answers system} {i : ι}
  {v : Shared system ι}

/-- The request an update writes, if any, is attached to its action already. -/
def Linked (config : RuntimeConfig) (id : Uuid) (request : Option Uuid)
    (v : Shared system ι) : Prop :=
  ∀ q, request = some q → ∃ f, (view config v).ties id = some (f, some q)

theorem Linked.of_relies {id : Uuid} {request : Option Uuid} {w : Shared system ι}
    (h : Linked config id request v) (hrely : Relies config i v w) :
    Linked config id request w := by
  intro q hq
  obtain ⟨f, htie⟩ := h q hq
  obtain ⟨link', htie', hlink⟩ := hrely.ties id f _ htie
  obtain rfl := hlink q rfl
  exact ⟨f, htie'⟩

/-- A row that is found is linked to its own request. -/
theorem linked_of_recordOf {id : Uuid} {row : GovernedActionExecutionRecord}
    (h : GovernedActions.recordOf id v.state.db = some row) :
    Linked config id row.approvalRequestId v := by
  intro q hq
  refine ⟨row.actionFingerprint, ?_⟩
  show (GovernedActions.recordOf id v.state.db).map _ = _
  rw [h, Option.map_some, hq]

/-- An update that leaves an action with its request does not go through the gate. -/
theorem update_linked {update : GovernedActionExecutionUpdate} {w : Shared system ι}
    (hkeys : (w.state.db.governedActionExecutions.map
      GovernedActionExecutionRecord.governedActionExecutionId).Nodup)
    (hlinked : Linked config update.governedActionExecutionId update.approvalRequestId w)
    {events : List Event} (hevents : ∀ e ∈ events, ¬e.OfGate) (now : DateTime) :
    AsideStep w.state.db (GovernedActions.afterUpdate now update w.state.db) events := by
  refine ⟨?_, rfl, hevents⟩
  show (Table.update _ _ _).map tie = _
  rw [Table.update, List.map_map]
  refine List.map_congr_left fun row hrow => ?_
  rw [Function.comp_apply]
  split
  · rename_i hid
    have hsame : update.approvalRequestId.or row.approvalRequestId = row.approvalRequestId := by
      cases hq : update.approvalRequestId with
      | none => rfl
      | some q =>
        obtain ⟨f, htie⟩ := hlinked q hq
        obtain ⟨found, hfound, hpair⟩ := Option.map_eq_some_iff.mp htie
        have hrowIs : found = row := Table.eq_of_mem_of_key hkeys (Table.mem_of_find hfound) hrow
          ((Table.key_of_find hfound).trans (of_decide_eq_true hid).symm)
        rw [← hrowIs]
        exact (Prod.mk.inj hpair).2.symm
    show (row.governedActionExecutionId, row.actionFingerprint,
      update.approvalRequestId.or row.approvalRequestId) = tie row
    rw [hsame]
    rfl
  · rfl

/-- The record that is fetched is linked to its own request. -/
theorem getGovernedActionExecution_wp (id : Uuid) :
    (gateProtocol config answers ι).wp i (GovernedActions.getGovernedActionExecution id)
      (fun r w => Relies config i v w ∧ ∀ record, r = .ok record →
        record.governedActionExecutionId = id ∧ Linked config id record.approvalRequestId w ∧
          ∃ link, (view config w).ties id = some (record.actionFingerprint, link)) v := by
  refine wp_transaction (fun w now effect hinv hrely hbody => ?_)
    fun w e hrely => ⟨hrely, fun _ hr => (nomatch hr)⟩
  split at hbody
  · rename_i row hrow
    obtain rfl := Except.ok.inj hbody
    obtain ⟨hallowed, hkept⟩ : (gateProtocol config answers ι).Allows i w
        (committed w i { value := row, db := w.state.db }) ∧ Relies config i w
          (committed w i { value := row, db := w.state.db }) :=
      commits_aside hinv (AsideStep.refl _)
    refine ⟨hallowed, hrely.trans hkept, fun record hr => ?_⟩
    obtain rfl := Except.ok.inj hr
    have hlinked : Linked config id row.approvalRequestId w := linked_of_recordOf hrow
    refine ⟨Table.key_of_find hrow, hlinked.of_relies hkept, row.approvalRequestId, ?_⟩
    show (GovernedActions.recordOf id w.state.db).map _ = _
    rw [hrow]
    rfl
  · cases hbody

/-- An update leaves the ties of its action as they are, and returns its record. -/
theorem updateGovernedActionExecution_wp {update : GovernedActionExecutionUpdate}
    (hlinked : Linked config update.governedActionExecutionId update.approvalRequestId v)
    {events : List Event} (hevents : ∀ e ∈ events, ¬e.OfGate) :
    (gateProtocol config answers ι).wp i
      (GovernedActions.updateGovernedActionExecution update events)
      (fun r w => Relies config i v w ∧ ∀ record, r = .ok record →
        record.governedActionExecutionId = update.governedActionExecutionId ∧
          Linked config record.governedActionExecutionId record.approvalRequestId w) v := by
  have hexecute : (gateProtocol config answers ι).wp i
      (execute "failed to update governed action execution" fun now db =>
        GovernedActions.changeRecord update.governedActionExecutionId
          (GovernedActions.updated now update) events db) (fun _ w => Relies config i v w) v := by
    refine wp_execute (fun w now effect hinv hrely hbody => ?_) fun w _ hrely => hrely
    have haside : AsideStep w.state.db effect.db effect.events := by
      rcases GovernedActions.changeRecord_eq_ok hbody with
        ⟨hdb, hnone⟩ | ⟨row, hrow, hvalid, hdb, hsome⟩
      · rw [hdb, hnone]
        exact AsideStep.refl _
      · rw [hdb, hsome]
        exact update_linked hinv.recordKeys (hlinked.of_relies hrely) hevents now
    exact ⟨(commits_aside hinv haside).1, hrely.trans (relies_aside haside)⟩
  refine Protocol.wp_seq hexecute ?_ fun _ _ hrely => ⟨hrely, fun _ hr => (nomatch hr)⟩
  intro _ w hrely
  refine Protocol.wp_mono ?_ (getGovernedActionExecution_wp update.governedActionExecutionId)
  intro r u ⟨hlater, hfetched⟩
  refine ⟨hrely.trans hlater, fun record hr => ?_⟩
  obtain ⟨hid, hown, -⟩ := hfetched record hr
  exact ⟨hid, hid ▸ hown⟩

theorem updateGovernedActionExecution_passes {update : GovernedActionExecutionUpdate}
    (hlinked : Linked config update.governedActionExecutionId update.approvalRequestId v)
    {events : List Event} (hevents : ∀ e ∈ events, ¬e.OfGate) :
    Passes config answers i (GovernedActions.updateGovernedActionExecution update events) v :=
  Protocol.wp_mono (fun _ _ h => h.1) (updateGovernedActionExecution_wp hlinked hevents)

end Linked

/-! ## Recovery -/

section Recovery

variable {ι : Type} {config : RuntimeConfig} {answers : Answers system} {i : ι}
  {v : Shared system ι}

theorem reconcileGovernedActionRecovery_passes {context : GovernedActionRecoveryContext}
    (hlinked : Linked config context.record.governedActionExecutionId
      context.record.approvalRequestId v)
    (decision : RecoveryDecision) (policyState : RecoveryPolicyState) (now : DateTime)
    (summary : String) :
    Passes config answers i (Recovery.reconcileGovernedActionRecovery context decision
      policyState now summary) v := by
  have hevents : ∀ e ∈ [Event.actionReconciled context.record.governedActionExecutionId
      decision], ¬e.OfGate := by
    intro e he
    obtain rfl := List.mem_singleton.mp he
    exact not_false
  unfold Recovery.reconcileGovernedActionRecovery
  split
  · split
    · refine passes_bind (passes_aside
        (Recovery.completeScriptRun_confined AsideStep.runs _ _ _ _)) fun _ w hrely => ?_
      exact updateGovernedActionExecution_passes (hlinked.of_relies hrely) hevents
    · exact passes_ret _
  · exact updateGovernedActionExecution_passes hlinked hevents

/-- The context of a recovery holds the record it was loaded for. -/
theorem loadGovernedActionRecoveryContext_returns (record : GovernedActionExecutionRecord)
    (reasonCode : RecoveryReasonCode) (policyState : RecoveryPolicyState) :
    (Recovery.loadGovernedActionRecoveryContext record reasonCode policyState).Returns
      fun context => context.record = record := by
  refine Prog.Returns.bind (Prog.Returns.any _) fun _ _ => ?_
  refine Prog.Returns.bind (Prog.Returns.any _) fun _ _ => ?_
  exact Prog.Returns.bind (Prog.Returns.any _) fun _ _ => rfl

/-- The recovery of an action's lease goes past the gate, too. -/
theorem recoverGovernedActionWorkerLeaseTimeout_passes (lease : WorkerLeaseRecord)
    (now : DateTime) (source diagnosticReasonCode : String)
    (diagnosticSeverity : OperationalDiagnosticSeverity) (errorMessage : Option String) :
    Passes config answers i (Recovery.recoverGovernedActionWorkerLeaseTimeout lease now source
      diagnosticReasonCode diagnosticSeverity errorMessage) v := by
  have refl : ∀ db, AsideStep db db [] := AsideStep.refl
  refine passes_bind (passes_aside (confined_expect _)) fun id v _ => ?_
  refine Protocol.wp_seq (getGovernedActionExecution_wp id) ?_ fun _ _ h => h.1
  intro record w ⟨hrely, hfetched⟩
  obtain ⟨hid, hlinked, -⟩ := hfetched record rfl
  refine Protocol.wp_mono (fun _ _ h => hrely.trans h) ?_
  refine passes_bind_returns (passes_aside
    (Recovery.loadGovernedActionRecoveryContext_confined refl _ _ _))
    (loadGovernedActionRecoveryContext_returns _ _ _) ?_
  intro context v hcontext hcontextRely
  have hlinked' : Linked config context.record.governedActionExecutionId
      context.record.approvalRequestId v := by
    rw [hcontext, hid]
    exact hlinked.of_relies hcontextRely
  refine passes_bind (passes_aside (confined_newUuid refl)) fun _ v hrely => ?_
  have hlinked' := hlinked'.of_relies hrely
  refine passes_bind (passes_aside
    (Recovery.createRecoveryCheckpoint_confined AsideStep.triggers _)) fun _ v hrely => ?_
  have hlinked' := hlinked'.of_relies hrely
  refine passes_bind (passes_aside (Prog.confined_ofExcept _)) fun _ v hrely => ?_
  have hlinked' := hlinked'.of_relies hrely
  refine passes_bind (passes_aside
    (Recovery.resolveRecoveryCheckpoint_confined AsideStep.triggers _)) fun _ v hrely => ?_
  have hlinked' := hlinked'.of_relies hrely
  refine passes_bind (reconcileGovernedActionRecovery_passes hlinked' _ _ _ _) fun _ v _ => ?_
  refine passes_bind (passes_aside (writeGovernedActionAuditEvent_aside _ _ _ _))
    fun _ v _ => ?_
  refine passes_bind (passes_aside (confined_newUuid refl)) fun _ v _ => ?_
  refine passes_bind (passes_aside
    (Recovery.insertOperationalDiagnostic_confined AsideStep.triggers _)) fun _ v _ => ?_
  exact passes_ret _

theorem recoverWorkerLeaseTimeout_passes (lease : WorkerLeaseRecord) (now : DateTime)
    (source diagnosticReasonCode : String) (diagnosticSeverity : OperationalDiagnosticSeverity)
    (errorMessage : Option String) :
    Passes config answers i (Recovery.recoverWorkerLeaseTimeout lease now source
      diagnosticReasonCode diagnosticSeverity errorMessage) v := by
  have refl : ∀ db, AsideStep db db [] := AsideStep.refl
  unfold Recovery.recoverWorkerLeaseTimeout
  split
  · exact recoverGovernedActionWorkerLeaseTimeout_passes _ _ _ _ _ _
  · refine passes_aside (Prog.Confined.bind (confined_newUuid refl) fun _ => ?_)
    refine Prog.Confined.bind
      (Recovery.createRecoveryCheckpoint_confined AsideStep.triggers _) fun _ => ?_
    refine Prog.Confined.bind (Prog.confined_ofExcept _) fun _ => ?_
    refine Prog.Confined.bind
      (Recovery.resolveRecoveryCheckpoint_confined AsideStep.triggers _) fun _ => ?_
    refine Prog.Confined.bind (confined_newUuid refl) fun _ => ?_
    exact Prog.Confined.bind
      (Recovery.insertOperationalDiagnostic_confined AsideStep.triggers _) fun _ =>
        Prog.confined_ret _

theorem recoverObservedWorkerTimeout_passes (workerLeaseId : Uuid) (now : DateTime)
    (observedSource errorMessage : String) :
    Passes config answers i (Recovery.recoverObservedWorkerTimeout workerLeaseId now
      observedSource errorMessage) v := by
  unfold Recovery.recoverObservedWorkerTimeout
  split
  · exact passes_aside (Prog.confined_fail _)
  · split
    · exact passes_aside (Prog.confined_fail _)
    · exact passes_bind (passes_aside (terminateActiveWorkerLease_aside _ _)) fun _ _ _ =>
        recoverWorkerLeaseTimeout_passes _ _ _ _ _ _

/-- A failed recheck of the policy goes past the gate: the action keeps its request, and is not
sent. -/
theorem recoverGovernedActionPolicyRecheckFailure_passes
    {record : GovernedActionExecutionRecord}
    (hlinked : Linked config record.governedActionExecutionId record.approvalRequestId v)
    (now : DateTime) (failureSummary : String) :
    Passes config answers i (Recovery.recoverGovernedActionPolicyRecheckFailure record now
      failureSummary) v := by
  have refl : ∀ db, AsideStep db db [] := AsideStep.refl
  unfold Recovery.recoverGovernedActionPolicyRecheckFailure
  split
  · exact passes_aside (Prog.confined_fail _)
  · refine passes_bind_returns (passes_aside
      (Recovery.loadGovernedActionRecoveryContext_confined refl _ _ _))
      (loadGovernedActionRecoveryContext_returns _ _ _) ?_
    intro context v hcontext hcontextRely
    have hlinked' : Linked config context.record.governedActionExecutionId
        context.record.approvalRequestId v := by
      rw [hcontext]
      exact hlinked.of_relies hcontextRely
    refine passes_bind (passes_aside (Prog.confined_ofExcept _)) fun _ v hrely => ?_
    have hlinked' := hlinked'.of_relies hrely
    refine passes_bind (passes_aside (confined_newUuid refl)) fun _ v hrely => ?_
    have hlinked' := hlinked'.of_relies hrely
    refine passes_bind (passes_aside
      (Recovery.createRecoveryCheckpoint_confined AsideStep.triggers _)) fun _ v hrely => ?_
    have hlinked' := hlinked'.of_relies hrely
    refine passes_bind (passes_aside
      (Recovery.resolveRecoveryCheckpoint_confined AsideStep.triggers _)) fun _ v hrely => ?_
    have hlinked' := hlinked'.of_relies hrely
    refine passes_bind (reconcileGovernedActionRecovery_passes hlinked' _ _ _ _)
      fun _ v _ => ?_
    refine passes_bind (passes_aside (writeGovernedActionAuditEvent_aside _ _ _ _))
      fun _ v _ => ?_
    refine passes_bind (passes_aside (confined_newUuid refl)) fun _ v _ => ?_
    refine passes_bind (passes_aside
      (Recovery.insertOperationalDiagnostic_confined AsideStep.triggers _)) fun _ v _ => ?_
    exact passes_ret _

/-- A loop whose turns pass. -/
theorem passes_foldlM {α β : Type} {f : β → α → Harness β}
    (hf : ∀ b x w, Passes config answers i (f b x) w) (xs : List α) (b : β) :
    Passes config answers i (Prog.foldlM f b xs) v := by
  induction xs generalizing b v with
  | nil => exact passes_ret b
  | cons x xs ih => exact passes_bind (hf b x v) fun b' w _ => ih b'

theorem superviseWorkerLeases_passes (now : DateTime) (softWarningThresholdPercent : Nat) :
    Passes config answers i (Recovery.superviseWorkerLeases now softWarningThresholdPercent)
      v := by
  have refl : ∀ db, AsideStep db db [] := AsideStep.refl
  unfold Recovery.superviseWorkerLeases
  split
  · exact passes_aside (Prog.confined_fail _)
  · refine passes_bind (passes_bind (passes_aside (expireDueWorkerLeases_aside now))
      fun expired w _ => passes_foldlM (fun outcomes lease w => ?_) _ _) fun recovered w _ => ?_
    · exact passes_bind (recoverWorkerLeaseTimeout_passes _ _ _ _ _ _) fun _ _ _ => passes_ret _
    · refine passes_bind (passes_aside (confined_fetch refl)) fun active w _ => ?_
      exact passes_bind (passes_foldlM (fun diagnostics lease w =>
        passes_aside (warnWorkerLease_aside _ _ _ _)) _ _) fun _ w _ => passes_ret _

end Recovery

/-! ## Executing an action -/

section Sending

variable {ι : Type} {config : RuntimeConfig} {answers : Answers system} {i : ι}
  {v : Shared system ι}

theorem blockOnPolicyRecheck_passes (record : GovernedActionExecutionRecord)
    (error : ErrorChain) :
    Passes config answers i (GovernedActions.blockOnPolicyRecheck record error) v := by
  refine passes_bind (passes_aside (confined_utcNow AsideStep.refl)) fun completedAt v _ => ?_
  refine Protocol.wp_seq (updateGovernedActionExecution_wp ?_ ?_) ?_ fun _ _ h => h.1
  · intro q hq
    cases hq
  · intro e he
    obtain rfl := List.mem_singleton.mp he
    exact not_false
  intro record w ⟨hrely, hupdated⟩
  obtain ⟨-, hlinked⟩ := hupdated record rfl
  refine Protocol.wp_mono (fun _ _ h => hrely.trans h) ?_
  refine passes_bind (passes_aside (writeGovernedActionAuditEvent_aside _ _ _ _))
    fun _ u hrely => ?_
  refine passes_bind (passes_context (recoverGovernedActionPolicyRecheckFailure_passes
    (hlinked.of_relies hrely) _ _)) fun _ u _ => ?_
  exact passes_bind (passes_aside (confined_newUuid AsideStep.refl)) fun _ _ _ => passes_ret _

theorem completeLease_passes (workerLeaseId : Uuid)
    (result : Except ErrorChain GovernedActionExecutionResult) :
    Passes config answers i (GovernedActions.completeLease workerLeaseId result) v := by
  cases result with
  | error e => exact passes_aside (releaseLease_aside workerLeaseId false)
  | ok result =>
    show Passes config answers i
      (if GovernedActions.governedActionResultIsTimeout result then _ else _) v
    split
    · refine passes_bind (passes_aside (confined_utcNow AsideStep.refl)) fun _ w _ => ?_
      exact passes_bind (passes_attempt (passes_context
        (recoverObservedWorkerTimeout_passes _ _ _ _))) fun _ _ _ => passes_ret _
    · exact passes_aside (releaseLease_aside workerLeaseId true)

/-- What the gate knows of the action whose execution has been permitted. -/
structure MaySend (config : RuntimeConfig) (i : ι) (id : Uuid) (v : Shared system ι) : Prop where
  known : (view config v).ties id ≠ none
  permit : Gate.Permit i id (view config v)

theorem MaySend.of_relies {id : Uuid} {w : Shared system ι} (h : MaySend config i id v)
    (hrely : Relies config i v w) : MaySend config i id w := by
  refine ⟨?_, hrely.permit h.permit⟩
  obtain ⟨⟨f, link⟩, htie⟩ := Option.ne_none_iff_exists'.mp h.known
  obtain ⟨link', htie', -⟩ := hrely.ties id f link htie
  rw [htie']
  exact Option.some_ne_none _

/-- Handing the payload over is sending the action. -/
theorem emit_payloadDispatched_plays {id : Uuid} (hmay : MaySend config i id v) :
    Plays config answers i (Prog.emit (.payloadDispatched id)) v := by
  refine Protocol.wp_emit fun w hinv hrely => ⟨?_, trivial⟩
  have hmay := hmay.of_relies hrely
  refine allows_step hinv ?_ hinv.recordKeys hinv.requestKeys
  rw [view_push]
  exact .sent id hmay.known hmay.permit

variable [GovernedActionServices]

/-- Who may send an action may execute it. -/
theorem executeGovernedAction_plays {record : GovernedActionExecutionRecord}
    (hmay : MaySend config i record.governedActionExecutionId v) :
    Plays config answers i (GovernedActions.executeGovernedAction config record) v := by
  unfold GovernedActions.executeGovernedAction
  refine plays_bind (passes_attempt (passes_aside (validateGovernedActionPolicy_aside _ _)))
    fun validation w hrely => ?_
  have hmay := hmay.of_relies hrely
  cases validation with
  | error error => exact (blockOnPolicyRecheck_passes _ _).plays
  | ok _ =>
    refine plays_bind_returns (passes_aside (startExecution_aside record))
      (GovernedActions.startExecution_returns record) fun started w hid hrely => ?_
    have hmay := hmay.of_relies hrely
    refine plays_bind (passes_aside (createGovernedActionWorkerLease_aside _ _ _))
      fun workerLease w hrely => ?_
    have hmay := hmay.of_relies hrely
    rw [← hid] at hmay
    refine plays_then (emit_payloadDispatched_plays hmay) fun _ w => ?_
    refine plays_bind (passes_attempt (passes_aside
      ((AsideStep.executor started.1).executePayload config))) fun result w _ => ?_
    refine plays_bind (completeLease_passes _ _) fun completion w _ => ?_
    exact (passes_aside (Prog.confined_ofExcept _)).plays

end Sending

end BlueLagoon.ApprovalGate
