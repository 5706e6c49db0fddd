import BlueLagoon.ForegroundEffects

/-!
# What happens aside of the approval gate

Which action is which, what it was fingerprinted as and which approval request it waits for is
written when the action is planned and when a request is attached to it. Leases,
executors and the records of the conversation leave this as it is, and the approval requests too.
-/

namespace BlueLagoon

open Interleaving Harness

/-- An event of the gate between a proposal and its execution. -/
def Event.OfGate : Event → Prop
  | .actionPlanned _ _ _ | .actionEscalated _ | .approvalResolved _ _ _
  | .payloadDispatched _ => True
  | _ => False

namespace ApprovalGate

/-- What the gate goes by: the action, its fingerprint, and the request that is attached to it. -/
def tie (row : GovernedActionExecutionRecord) : Uuid × GovernedActionFingerprint × Option Uuid :=
  (row.governedActionExecutionId, row.actionFingerprint, row.approvalRequestId)

/-- A step that does not go through the gate. -/
structure AsideStep (db db' : Database) (events : List Event) : Prop where
  ties : db'.governedActionExecutions.map tie = db.governedActionExecutions.map tie
  requests : db'.approvalRequests = db.approvalRequests
  events : ∀ e ∈ events, ¬e.OfGate

/-- A program none of whose steps goes through the gate. -/
abbrev Aside {α : Type} (p : Harness α) : Prop := p.Confined (OnDb AsideStep)

namespace AsideStep

/-- A step on tables that the gate does not read. -/
theorem of_eq {db db' : Database} (hrecords : db'.governedActionExecutions =
    db.governedActionExecutions) (hrequests : db'.approvalRequests = db.approvalRequests) :
    AsideStep db db' [] :=
  ⟨by rw [hrecords], hrequests, fun _ he => (nomatch he)⟩

theorem refl (db : Database) : AsideStep db db [] := of_eq rfl rfl

theorem emitting (db : Database) {event : Event} (h : ¬event.OfGate) :
    AsideStep db db [event] := by
  refine ⟨rfl, rfl, fun e he => ?_⟩
  obtain rfl := List.mem_singleton.mp he
  exact h

theorem executions (db : Database) (rows : List ExecutionRecord)
    (_ : Execution.Advances db.executionRecords rows) :
    AsideStep db { db with executionRecords := rows } [] := of_eq rfl rfl

theorem audit (db : Database) (rows : List AuditEvent) :
    AsideStep db { db with auditEvents := rows } [] := of_eq rfl rfl

theorem causalLinks (db : Database) (rows : List CausalLinkRecord) :
    AsideStep db { db with causalLinks := rows } [] := of_eq rfl rfl

theorem runs (db : Database) (rows : List WorkspaceScriptRunRecord) :
    AsideStep db { db with workspaceScriptRuns := rows } [] := of_eq rfl rfl

theorem leases (db : Database) (rows : List WorkerLeaseRecord) :
    AsideStep db { db with workerLeases := rows } [] := of_eq rfl rfl

theorem episodes (db : Database) (rows : List EpisodeRecord) :
    AsideStep db { db with episodes := rows } [] := of_eq rfl rfl

theorem episodeMessages (db : Database) (rows : List EpisodeMessageRecord) :
    AsideStep db { db with episodeMessages := rows } [] := of_eq rfl rfl

theorem triggers : Recovery.Tolerates AsideStep := by
  intro db checkpoints diagnostics events hevents
  rcases hevents with rfl | ⟨id, rfl⟩
  · exact of_eq rfl rfl
  · refine ⟨rfl, rfl, fun e he => ?_⟩
    obtain rfl := List.mem_singleton.mp he
    exact not_false

/-- An update that attaches no request leaves the ties of every action as they are. -/
theorem map_tie_update {update : GovernedActionExecutionUpdate}
    (hunlinked : update.approvalRequestId = none) (now : DateTime)
    (rows : List GovernedActionExecutionRecord) :
    (Table.update (fun row => row.governedActionExecutionId = update.governedActionExecutionId)
      (GovernedActions.updated now update) rows).map tie = rows.map tie := by
  refine Table.map_key_update fun row => ?_
  show (row.governedActionExecutionId, row.actionFingerprint,
    update.approvalRequestId.or row.approvalRequestId) = tie row
  rw [hunlinked]
  rfl

theorem update {update : GovernedActionExecutionUpdate}
    (hunlinked : update.approvalRequestId = none) {events : List Event}
    (hevents : ∀ e ∈ events, ¬e.OfGate) (now : DateTime) (db : Database) :
    AsideStep db (GovernedActions.afterUpdate now update db) events :=
  ⟨map_tie_update hunlinked now _, rfl, hevents⟩

theorem executor (record : GovernedActionExecutionRecord) :
    GovernedActions.AllowsExecutor AsideStep (fun _ => True) record where
  executions := executions
  runs := runs
  audit := audit
  started := fun db _ _ => emitting db id
  settled := fun now db _ _ hfinal _ _ => update hfinal.unlinked (fun e he => by
    obtain rfl := List.mem_singleton.mp he
    exact id) now db

end AsideStep

/-! ## Leases -/

section Leases

theorem createWorkerLease_aside (lease : NewWorkerLease) :
    Aside (Recovery.createWorkerLease lease) := by
  refine Prog.Confined.bind (Prog.confined_ofExcept _) fun _ => ?_
  refine Prog.Confined.bind (confined_execute AsideStep.refl ?_) fun _ =>
    confined_fetchOne AsideStep.refl
  intro now db effect hbody
  split at hbody
  · cases hbody
  · obtain rfl := Except.ok.inj hbody
    exact AsideStep.leases db _

/-- A statement on the active leases. -/
theorem changeActiveLeases_aside {message : String}
    {which : DateTime → WorkerLeaseRecord → Bool}
    {change : DateTime → WorkerLeaseRecord → WorkerLeaseRecord} :
    Aside (execute message fun now db =>
      Recovery.changeActiveLeases (which now) (change now) db) := by
  refine confined_execute AsideStep.refl fun now db effect hbody => ?_
  obtain rfl := Recovery.changeActiveLeases_eq_ok hbody
  exact AsideStep.leases db _

theorem refreshWorkerLeaseProgress_aside (workerLeaseId : Uuid) (heartbeatAt : DateTime) :
    Aside (Recovery.refreshWorkerLeaseProgress workerLeaseId heartbeatAt) := by
  refine Prog.Confined.bind (confined_fetchOne AsideStep.refl) fun lease => ?_
  split
  · exact Prog.confined_fail _
  · dsimp only
    split
    · exact Prog.confined_fail _
    · unfold Recovery.refreshWorkerLease
      split
      · exact Prog.confined_fail _
      · exact Prog.Confined.bind changeActiveLeases_aside fun _ =>
          confined_fetchOne AsideStep.refl

theorem releaseWorkerLease_aside (workerLeaseId : Uuid) (releasedAt : DateTime) :
    Aside (Recovery.releaseWorkerLease workerLeaseId releasedAt) :=
  Prog.Confined.bind changeActiveLeases_aside fun _ => confined_fetchOne AsideStep.refl

theorem terminateActiveWorkerLease_aside (workerLeaseId : Uuid) (terminatedAt : DateTime) :
    Aside (Recovery.terminateActiveWorkerLease workerLeaseId terminatedAt) := by
  refine Prog.Confined.bind changeActiveLeases_aside fun rows => ?_
  split
  · exact Prog.confined_ret _
  · exact Prog.Confined.bind (confined_fetchOne AsideStep.refl) fun _ => Prog.confined_fail _

theorem expireDueWorkerLeases_aside (now : DateTime) :
    Aside (Recovery.expireDueWorkerLeases now) := by
  refine confined_execute AsideStep.refl fun at_ db effect hbody => ?_
  obtain ⟨expired, hexpired, rfl⟩ := except_map_eq_ok.mp hbody
  obtain rfl := Recovery.changeActiveLeases_eq_ok hexpired
  refine ⟨rfl, rfl, fun e he => ?_⟩
  obtain ⟨row, -, rfl⟩ := List.mem_map.mp he
  exact not_false

theorem warnWorkerLease_aside (now : DateTime) (softWarningThresholdPercent : Nat)
    (diagnostics : List OperationalDiagnosticRecord) (lease : WorkerLeaseRecord) :
    Aside (Recovery.warnWorkerLease now softWarningThresholdPercent diagnostics lease) := by
  refine Prog.Confined.bind (Prog.confined_ofExcept _) fun decision => ?_
  split
  · exact Prog.confined_ret _
  · refine Prog.Confined.bind (confined_fetch AsideStep.refl) fun warned => ?_
    split
    · exact Prog.confined_ret _
    · refine Prog.Confined.bind (confined_newUuid AsideStep.refl) fun _ => ?_
      exact Prog.Confined.bind
        (Recovery.insertOperationalDiagnostic_confined AsideStep.triggers _) fun _ =>
          Prog.confined_ret _

end Leases

/-! ## Records -/

/-- An update that attaches no request, whatever it means to the log. -/
theorem updateGovernedActionExecution_aside {update : GovernedActionExecutionUpdate}
    (hunlinked : update.approvalRequestId = none) {events : List Event}
    (hevents : ∀ e ∈ events, ¬e.OfGate) :
    Aside (GovernedActions.updateGovernedActionExecution update events) :=
  GovernedActions.updateGovernedActionExecution_confined AsideStep.refl
    fun now db _ _ _ => AsideStep.update hunlinked hevents now db

/-! ## Before an action is executed -/

section Execution

theorem writeGovernedActionAuditEvent_aside (record : GovernedActionExecutionRecord)
    (eventKind severity : String) (payload : Json) :
    Aside (GovernedActions.writeGovernedActionAuditEvent record eventKind severity payload) :=
  GovernedActions.writeGovernedActionAuditEvent_confined AsideStep.audit _ _ _ _

theorem startExecution_aside (record : GovernedActionExecutionRecord) :
    Aside (GovernedActions.startExecution record) := by
  refine Prog.Confined.bind (confined_newUuid AsideStep.refl) fun executionId => ?_
  refine Prog.Confined.bind (Execution.insert_confined AsideStep.executions _) fun _ => ?_
  refine Prog.Confined.bind (confined_utcNow AsideStep.refl) fun startedAt => ?_
  refine Prog.Confined.bind
    (updateGovernedActionExecution_aside rfl fun e he => (nomatch he)) fun _ => ?_
  exact Prog.Confined.bind (writeGovernedActionAuditEvent_aside _ _ _ _)
    fun _ => Prog.confined_ret _

theorem createGovernedActionWorkerLease_aside (record : GovernedActionExecutionRecord)
    (startedAt : DateTime) (timeoutMs : Nat) :
    Aside (GovernedActions.createGovernedActionWorkerLease record startedAt timeoutMs) := by
  refine Prog.Confined.bind (confined_expect _) fun _ => ?_
  refine Prog.Confined.bind (confined_newUuid AsideStep.refl) fun _ => ?_
  refine Prog.Confined.bind (confined_newUuid AsideStep.refl) fun _ => ?_
  exact createWorkerLease_aside _

theorem releaseLease_aside (workerLeaseId : Uuid) (progressed : Bool) :
    Aside (GovernedActions.releaseLease workerLeaseId progressed) := by
  refine Prog.Confined.bind ?_ fun _ => ?_
  · unfold GovernedActions.refreshAfterProgress
    split
    · refine Prog.Confined.bind (confined_utcNow AsideStep.refl) fun _ => ?_
      exact Prog.Confined.bind (Prog.Confined.mapError (refreshWorkerLeaseProgress_aside _ _))
        fun _ => Prog.confined_ret _
    · exact Prog.confined_ret _
  · refine Prog.Confined.bind (confined_utcNow AsideStep.refl) fun _ => ?_
    exact Prog.Confined.bind (Prog.Confined.attempt (releaseWorkerLease_aside _ _))
      fun _ => Prog.confined_ret _

theorem validateGovernedActionPolicy_aside [GovernedActionServices] (config : RuntimeConfig)
    (proposal : GovernedActionProposal) :
    Aside (GovernedActions.validateGovernedActionPolicy config proposal) := by
  refine Prog.Confined.bind (Prog.confined_ofExcept _) fun _ => ?_
  refine Prog.Confined.bind
    (Identity.reconstructCompactIdentitySnapshot_confined AsideStep.refl _) fun identity => ?_
  split
  · exact Prog.confined_ret _
  · exact Prog.confined_fail _

end Execution

end ApprovalGate

end BlueLagoon
