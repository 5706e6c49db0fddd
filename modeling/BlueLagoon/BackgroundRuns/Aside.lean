import BlueLagoon.BackgroundRuns
import BlueLagoon.IntakeEffects

/-!
# What happens aside of the background jobs

Jobs and their runs change where a job is leased, started, completed or failed. Worker leases,
recovery, the updates of the retrieval documents and the review of the wake signals leave both as
they are.
-/

namespace BlueLagoon

open Interleaving Harness

namespace BackgroundExecution

/-- A step that leaves the jobs and their runs as they are. -/
structure RunsKept (db db' : Database) (_ : List Event) : Prop where
  jobs : db'.backgroundJobs = db.backgroundJobs
  runs : db'.backgroundJobRuns = db.backgroundJobRuns

/-- A program of the harness all of whose steps do. -/
abbrev KeepsRuns {α : Type} (p : Harness α) : Prop := p.Confined (OnDb RunsKept)

/-- A move of the unconscious loop that leaves them as they are, and leases nothing. -/
structure Sparing (s s' : unconscious.State) (es : List unconscious.Event) : Prop where
  jobs : s'.1.db.backgroundJobs = s.1.db.backgroundJobs
  runs : s'.1.db.backgroundJobRuns = s.1.db.backgroundJobRuns
  unleased : ∀ backgroundJobId backgroundJobRunId,
    Sum.inr (.leased backgroundJobId backgroundJobRunId) ∉ es

/-- A program of the unconscious loop all of whose moves do. -/
abbrev Spares {α : Type} (p : Unconscious α) : Prop := p.Confined Sparing

theorem RunsKept.refl (db : Database) : RunsKept db db [] := ⟨rfl, rfl⟩

theorem spares_lift {α : Type} {p : Harness α} (hp : KeepsRuns p) : Spares p.lift := by
  apply (Prog.Confined.lift hp).mono
  rintro s s' es ⟨-, events, rfl, hkept, -⟩
  refine ⟨hkept.jobs, hkept.runs, fun _ _ hmem => ?_⟩
  obtain ⟨event, -, heq⟩ := List.mem_map.mp hmem
  cases heq

/-! ## Worker leases -/

section Leases

theorem createWorkerLease_keepsRuns (lease : NewWorkerLease) :
    KeepsRuns (Recovery.createWorkerLease lease) := by
  apply Prog.Confined.bind (Prog.confined_ofExcept _)
  intro _
  apply Prog.Confined.bind
  · apply confined_execute RunsKept.refl
    intro now db effect hbody
    split at hbody
    · cases hbody
    · obtain rfl := Except.ok.inj hbody
      exact ⟨rfl, rfl⟩
  · exact fun _ => confined_fetchOne RunsKept.refl

/-- A statement on the active leases. -/
theorem changeActiveLeases_keepsRuns {message : String}
    {which : DateTime → WorkerLeaseRecord → Bool}
    {change : DateTime → WorkerLeaseRecord → WorkerLeaseRecord} :
    KeepsRuns (execute message fun now db =>
      Recovery.changeActiveLeases (which now) (change now) db) := by
  apply confined_execute RunsKept.refl
  intro now db effect hbody
  obtain rfl := Recovery.changeActiveLeases_eq_ok hbody
  exact ⟨rfl, rfl⟩

theorem refreshWorkerLeaseProgress_keepsRuns (workerLeaseId : Uuid) (heartbeatAt : DateTime) :
    KeepsRuns (Recovery.refreshWorkerLeaseProgress workerLeaseId heartbeatAt) := by
  apply Prog.Confined.bind (confined_fetchOne RunsKept.refl)
  intro lease
  split
  · exact Prog.confined_fail _
  · dsimp only
    split
    · exact Prog.confined_fail _
    · unfold Recovery.refreshWorkerLease
      split
      · exact Prog.confined_fail _
      · apply Prog.Confined.bind changeActiveLeases_keepsRuns
        exact fun _ => confined_fetchOne RunsKept.refl

theorem releaseBackgroundWorkerLease_keepsRuns (workerLeaseId : Uuid) :
    KeepsRuns (releaseBackgroundWorkerLease workerLeaseId) := by
  apply Prog.Confined.bind (confined_utcNow RunsKept.refl)
  intro now
  apply Prog.Confined.bind
  · apply Prog.Confined.bind changeActiveLeases_keepsRuns
    exact fun _ => confined_fetchOne RunsKept.refl
  · exact fun _ => Prog.confined_ret _

theorem createBackgroundWorkerLease_keepsRuns (leased : LeasedBackgroundExecution)
    (startedAt : DateTime) : KeepsRuns (createBackgroundWorkerLease leased startedAt) := by
  apply Prog.Confined.bind (confined_newUuid RunsKept.refl)
  exact fun _ => createWorkerLease_keepsRuns _

end Leases

/-! ## Recovery -/

section Recovery

theorem tolerates_runsKept : Recovery.Tolerates RunsKept := fun _ _ _ _ _ => ⟨rfl, rfl⟩

theorem recoverGovernedActionWorkerLeaseTimeout_keepsRuns (lease : WorkerLeaseRecord)
    (now : DateTime) (source diagnosticReasonCode : String)
    (diagnosticSeverity : OperationalDiagnosticSeverity) (errorMessage : Option String) :
    KeepsRuns (Recovery.recoverGovernedActionWorkerLeaseTimeout lease now source
      diagnosticReasonCode diagnosticSeverity errorMessage) := by
  apply confined_expect_bind
  intro id _
  apply Prog.Confined.bind (confined_fetchOne RunsKept.refl)
  intro record
  apply Prog.Confined.bind
    (Recovery.loadGovernedActionRecoveryContext_confined RunsKept.refl _ _ _)
  intro recovered
  apply Prog.Confined.bind (confined_newUuid RunsKept.refl)
  intro checkpointId
  apply Prog.Confined.bind (Recovery.createRecoveryCheckpoint_confined tolerates_runsKept _)
  intro checkpoint
  apply Prog.Confined.bind (Prog.confined_ofExcept _)
  intro decision
  apply Prog.Confined.bind (Recovery.resolveRecoveryCheckpoint_confined tolerates_runsKept _)
  intro resolved
  apply Prog.Confined.bind
  · apply Recovery.reconcileGovernedActionRecovery_confined fun _ _ => ⟨rfl, rfl⟩
    intro status blockedReason completedAt _ _
    exact GovernedActions.updateGovernedActionExecution_confined RunsKept.refl
      fun _ _ _ _ _ => ⟨rfl, rfl⟩
  intro reconciled
  apply Prog.Confined.bind
    (GovernedActions.writeGovernedActionAuditEvent_confined (fun _ _ => ⟨rfl, rfl⟩) _ _ _ _)
  intro _
  apply Prog.Confined.bind (confined_newUuid RunsKept.refl)
  intro diagnosticId
  apply Prog.Confined.bind (Recovery.insertOperationalDiagnostic_confined tolerates_runsKept _)
  exact fun _ => Prog.confined_ret _

theorem recoverWorkerLeaseTimeout_keepsRuns (lease : WorkerLeaseRecord) (now : DateTime)
    (source diagnosticReasonCode : String) (diagnosticSeverity : OperationalDiagnosticSeverity)
    (errorMessage : Option String) :
    KeepsRuns (Recovery.recoverWorkerLeaseTimeout lease now source diagnosticReasonCode
      diagnosticSeverity errorMessage) := by
  unfold Recovery.recoverWorkerLeaseTimeout
  split
  · exact recoverGovernedActionWorkerLeaseTimeout_keepsRuns _ _ _ _ _ _
  · apply Prog.Confined.bind (confined_newUuid RunsKept.refl)
    intro checkpointId
    apply Prog.Confined.bind (Recovery.createRecoveryCheckpoint_confined tolerates_runsKept _)
    intro checkpoint
    apply Prog.Confined.bind (Prog.confined_ofExcept _)
    intro decision
    apply Prog.Confined.bind (Recovery.resolveRecoveryCheckpoint_confined tolerates_runsKept _)
    intro resolved
    apply Prog.Confined.bind (confined_newUuid RunsKept.refl)
    intro diagnosticId
    apply Prog.Confined.bind (Recovery.insertOperationalDiagnostic_confined tolerates_runsKept _)
    exact fun _ => Prog.confined_ret _

theorem recoverObservedWorkerTimeout_keepsRuns (workerLeaseId : Uuid) (now : DateTime)
    (observedSource errorMessage : String) :
    KeepsRuns (Recovery.recoverObservedWorkerTimeout workerLeaseId now observedSource
      errorMessage) := by
  unfold Recovery.recoverObservedWorkerTimeout
  split
  · exact Prog.confined_fail _
  · split
    · exact Prog.confined_fail _
    · apply Prog.Confined.bind
      · apply Prog.Confined.bind changeActiveLeases_keepsRuns
        intro rows
        split
        · exact Prog.confined_ret _
        · apply Prog.Confined.bind (confined_fetchOne RunsKept.refl)
          exact fun _ => Prog.confined_fail _
      · exact fun lease => recoverWorkerLeaseTimeout_keepsRuns _ _ _ _ _ _

end Recovery

/-! ## What a worker hands back -/

section Outputs

theorem insertAudit_keepsRuns (event : NewAuditEvent) : KeepsRuns (Audit.insert event) :=
  Audit.insert_confined (fun _ _ => ⟨rfl, rfl⟩) event

theorem archiveRetrievalArtifacts_keepsRuns (sourceRef : String)
    (internalConversationRef : Option String) :
    KeepsRuns (Continuity.archiveRetrievalArtifactsBySourceRef sourceRef
      internalConversationRef) := by
  apply confined_execute RunsKept.refl
  intro now db effect hbody
  obtain rfl := Except.ok.inj hbody
  exact ⟨rfl, rfl⟩

theorem applyRetrievalUpdates_keepsRuns (context : RetrievalUpdateApplicationContext)
    (updates : List RetrievalUpdateProposal) :
    KeepsRuns (Retrieval.applyRetrievalUpdates context updates) := by
  apply Prog.Confined.foldlM
  intro summary update
  apply Prog.Confined.bind (Prog.confined_ofExcept _)
  intro _
  have hlast : ∀ applied : RetrievalUpdateApplicationSummary, KeepsRuns
      (do Prog.emit (Event.retrievalUpdateApplied update.updateId); pure applied) := by
    intro applied
    apply Prog.Confined.bind
    · exact Prog.Confined.emit fun w => ⟨⟨rfl, rfl⟩, List.Subset.refl _⟩
    · exact fun _ => Prog.confined_ret _
  dsimp only
  split
  · refine Prog.Confined.bind ?_ hlast
    apply Prog.Confined.bind (archiveRetrievalArtifacts_keepsRuns _ _)
    intro archivedCount
    apply Prog.Confined.bind (confined_expect _)
    intro sourceEpisodeId
    apply Prog.Confined.bind
    · apply confined_execute RunsKept.refl
      intro now db effect hbody
      split at hbody
      · cases hbody
      · obtain rfl := Except.ok.inj hbody
        exact ⟨rfl, rfl⟩
    · intro _
      exact Prog.Confined.bind (insertAudit_keepsRuns _) fun _ => Prog.confined_ret _
  · refine Prog.Confined.bind ?_ hlast
    apply Prog.Confined.bind (archiveRetrievalArtifacts_keepsRuns _ _)
    intro archivedCount
    exact Prog.Confined.bind (insertAudit_keepsRuns _) fun _ => Prog.confined_ret _

theorem persistDiagnosticAlerts_keepsRuns (leased : LeasedBackgroundExecution)
    (diagnostics : List DiagnosticAlert) :
    KeepsRuns (persistDiagnosticAlerts leased diagnostics) := by
  apply Prog.Confined.foldlM
  intro count diagnostic
  apply Prog.Confined.bind (Prog.confined_ofExcept _)
  intro _
  exact Prog.Confined.bind (insertAudit_keepsRuns _) fun _ => Prog.confined_ret _

end Outputs

/-! ## Wake signals -/

section WakeSignals

/-- A statement on the wake signals says nothing of leases. -/
theorem onWakeSignals_spares {α : Type} {message : String}
    {body : DateTime → Database → List WakeSignalRecord →
      Except ErrorChain (Background.SignalEffect α)}
    (h : ∀ now db rows effect, body now db rows = .ok effect →
      ∀ backgroundJobId backgroundJobRunId,
        UnconsciousEvent.leased backgroundJobId backgroundJobRunId ∉ effect.events) :
    Spares (Background.onWakeSignals message body) := by
  rintro (_ | now)
  · exact Prog.confined_fail _
  · apply Prog.Confined.tx
    · intro s
      exact ⟨rfl, rfl, fun _ _ hmem => List.not_mem_nil hmem⟩
    · intro s c hcommit
      cases heffect : body now s.1.db s.2 with
      | error e =>
        rw [heffect] at hcommit
        cases hcommit
      | ok effect =>
        rw [heffect] at hcommit
        obtain rfl := Except.ok.inj hcommit
        refine ⟨rfl, rfl, fun jobId runId hmem => ?_⟩
        obtain ⟨event, hevent, heq⟩ := List.mem_map.mp hmem
        obtain rfl := Sum.inr.inj heq
        exact h now _ _ effect heffect jobId runId hevent

theorem fetchWakeSignals_spares {α : Type} {message : String}
    {read : DateTime → Database → List WakeSignalRecord → α} :
    Spares (Background.fetchWakeSignals message read) := by
  apply onWakeSignals_spares
  intro now db rows effect hbody jobId runId hmem
  obtain rfl := Except.ok.inj hbody
  cases hmem

theorem insertWakeSignal_spares (signal : NewWakeSignalRecord) :
    Spares (Background.insertWakeSignal signal) := by
  apply onWakeSignals_spares
  intro now db rows effect hbody jobId runId hmem
  dsimp only at hbody
  split at hbody
  · cases hbody
  · obtain rfl := Except.ok.inj hbody
    cases List.mem_singleton.mp hmem

theorem getWakeSignal_spares (wakeSignalId : Uuid) :
    Spares (Background.getWakeSignal wakeSignalId) := by
  apply onWakeSignals_spares
  intro now db rows effect hbody jobId runId hmem
  split at hbody
  · obtain rfl := Except.ok.inj hbody
    cases hmem
  · cases hbody

theorem recordWakeSignalDecision_spares (wakeSignalId : Uuid) (decision : WakeSignalDecision)
    (reviewedAt : DateTime) (cooldownUntil : Option DateTime) :
    Spares (Background.recordWakeSignalDecision wakeSignalId decision reviewedAt
      cooldownUntil) := by
  apply onWakeSignals_spares
  intro now db rows effect hbody jobId runId hmem
  obtain rfl := Except.ok.inj hbody
  cases List.mem_singleton.mp hmem

theorem writeWakeSignalAuditEvent_spares (leased : LeasedBackgroundExecution)
    (eventKind severity : String) (payload : Json) :
    Spares (writeWakeSignalAuditEvent leased eventKind severity payload) := by
  apply Prog.Confined.bind (spares_lift (insertAudit_keepsRuns _))
  exact fun _ => Prog.confined_ret _

theorem recordWakeSignal_spares (leased : LeasedBackgroundExecution) (signal : WakeSignal)
    (requestedAt : DateTime) : Spares (recordWakeSignal leased signal requestedAt) := by
  apply Prog.Confined.bind (insertWakeSignal_spares _)
  intro _
  apply Prog.Confined.bind (getWakeSignal_spares _)
  intro recordedSignal
  apply Prog.Confined.bind
  · exact spares_lift (CausalLinks.insert_confined (fun _ _ => ⟨rfl, rfl⟩) _)
  intro _
  apply Prog.Confined.bind (writeWakeSignalAuditEvent_spares _ _ _ _)
  exact fun _ => Prog.confined_ret _

theorem reviewWakeSignal_spares (policy : WakeSignalPolicy)
    (identitySnapshot : CompactIdentitySnapshot) (recordedSignal : WakeSignalRecord)
    (requestedAt : DateTime) :
    Spares (reviewWakeSignal policy identitySnapshot recordedSignal requestedAt) := by
  apply Prog.Confined.bind
  · exact Prog.Confined.bind fetchWakeSignals_spares fun _ => Prog.confined_ret _
  intro internalState
  apply Prog.Confined.bind fetchWakeSignals_spares
  intro pendingSignalCount
  apply Prog.Confined.bind fetchWakeSignals_spares
  exact fun _ => Prog.confined_ret _

theorem recoverRejected_keepsRuns (recordedSignal : WakeSignalRecord)
    (decision : WakeSignalDecision) (requestedAt : DateTime) :
    KeepsRuns (recoverRejected recordedSignal decision requestedAt) := by
  unfold recoverRejected
  split
  · apply Prog.Confined.bind
    · apply Prog.Confined.mapError
      unfold Recovery.recoverWakeSignalPolicyBlock
      apply Prog.Confined.bind (confined_newUuid RunsKept.refl)
      intro checkpointId
      apply Prog.Confined.bind (confined_newUuid RunsKept.refl)
      exact fun _ => Recovery.issueRecoveryTrigger_confined tolerates_runsKept _ _ _ _
    · exact fun _ => Prog.confined_ret _
  · exact Prog.confined_ret _

theorem commitStagedWakeSignal_runsKept {ingress : NormalizedIngress} {row : WakeSignalRecord}
    {new : NewConversationBinding} {lookups : Foreground.BindingLookups}
    {causalLinkId auditEventId : Uuid} {now : DateTime} {db : Database} {effect : Effect Unit}
    (h : Foreground.commitStagedWakeSignal ingress row new lookups causalLinkId auditEventId now
      db = .ok effect) : RunsKept db effect.db effect.events := by
  unfold Foreground.commitStagedWakeSignal at h
  split at h
  · cases h
  rename_i written bound hreconciled
  split at h
  · cases h
  rename_i stored hinserted
  obtain rfl := Except.ok.inj h
  obtain ⟨bindings, bindingOf, rfl⟩ := Foreground.reconcileLookedUp_eq_ok hreconciled
  obtain ⟨rfl, -⟩ := Foreground.insertIngressEvent_eq_ok hinserted
  unfold CausalLinks.add
  constructor
  · split <;> rfl
  · split <;> rfl

/-- Staging the ingress of a wake signal leaves jobs and runs alone. -/
theorem stageApprovedWakeSignal_keepsRuns (bindingConfig : TelegramForegroundBindingConfig)
    (wakeSignal : WakeSignalRecord) :
    KeepsRuns (Foreground.stageApprovedWakeSignalForegroundIngress bindingConfig
      wakeSignal) := by
  apply Prog.Confined.bind (confined_newUuid RunsKept.refl)
  intro ingressId
  apply Prog.Confined.bind
  · apply confined_transaction RunsKept.refl
    intro now db effect hbody
    obtain rfl := Except.ok.inj hbody
    exact ⟨rfl, rfl⟩
  rintro (_ | existing)
  · apply Prog.Confined.bind
    · unfold Foreground.matchingConversationBindingForBindingConfig
      unfold Foreground.matchingConversationBinding
      repeat' split
      all_goals first
        | exact Prog.confined_ret _
        | exact Prog.Confined.bind (confined_newUuid RunsKept.refl) fun _ => Prog.confined_ret _
    intro matching
    apply Prog.Confined.bind (confined_expect _)
    intro binding
    apply Prog.Confined.bind
    · apply Prog.Confined.bind (confined_fetch RunsKept.refl)
      intro external
      apply confined_transaction RunsKept.refl
      intro now db effect hbody
      obtain rfl := Except.ok.inj hbody
      exact ⟨rfl, rfl⟩
    intro lookups
    apply Prog.Confined.bind (confined_newUuid RunsKept.refl)
    intro causalLinkId
    apply Prog.Confined.bind (confined_newUuid RunsKept.refl)
    intro auditEventId
    apply Prog.Confined.bind
    · apply confined_transaction RunsKept.refl
      exact fun _ _ _ hbody => commitStagedWakeSignal_runsKept hbody
    · exact fun _ => Prog.confined_ret _
  · apply Prog.Confined.bind
    · exact Prog.Confined.bind (insertAudit_keepsRuns _) fun _ => Prog.confined_ret _
    · exact fun _ => Prog.confined_ret _

theorem stageAcceptedSignal_spares (policy : WakeSignalPolicy)
    (leased : LeasedBackgroundExecution) (recordedSignal : WakeSignalRecord)
    (decision : WakeSignalDecision) :
    Spares (stageAcceptedSignal policy leased recordedSignal decision) := by
  unfold stageAcceptedSignal
  split
  · apply Prog.Confined.bind (spares_lift (confined_expect _))
    intro binding
    apply Prog.Confined.bind (spares_lift (stageApprovedWakeSignal_keepsRuns _ _))
    intro outcome
    cases outcome with
    | accepted staged =>
      apply Prog.Confined.bind (writeWakeSignalAuditEvent_spares _ _ _ _)
      exact fun _ => Prog.confined_ret _
    | duplicate duplicate =>
      apply Prog.Confined.bind (writeWakeSignalAuditEvent_spares _ _ _ _)
      exact fun _ => Prog.confined_ret _
    | rejected reason => exact Prog.confined_fail _
  · exact Prog.confined_ret _

theorem persistWakeSignals_spares (policy : WakeSignalPolicy) (leased : LeasedBackgroundExecution)
    (wakeSignals : List WakeSignal) : Spares (persistWakeSignals policy leased wakeSignals) := by
  apply Prog.Confined.bind
  · exact spares_lift (Identity.reconstructCompactIdentitySnapshot_confined RunsKept.refl _)
  intro identitySnapshot
  apply Prog.Confined.foldlM
  intro summary signal
  apply Prog.Confined.bind (Prog.confined_ofExcept _)
  intro _
  apply Prog.Confined.bind (spares_lift (confined_utcNow RunsKept.refl))
  intro requestedAt
  apply Prog.Confined.bind (recordWakeSignal_spares _ _ _)
  intro recordedSignal
  apply Prog.Confined.bind (reviewWakeSignal_spares _ _ _ _)
  intro policyDecision
  apply Prog.Confined.bind (Prog.confined_ofExcept _)
  intro cooldownUntil
  apply Prog.Confined.bind (spares_lift (recoverRejected_keepsRuns _ _ _))
  intro _
  apply Prog.Confined.bind (stageAcceptedSignal_spares _ _ _ _)
  rintro ⟨persistedDecision, stagedCount⟩
  apply Prog.Confined.bind (recordWakeSignalDecision_spares _ _ _ _)
  intro _
  apply Prog.Confined.bind (writeWakeSignalAuditEvent_spares _ _ _ _)
  exact fun _ => Prog.confined_ret _

end WakeSignals

end BackgroundExecution

end BlueLagoon
