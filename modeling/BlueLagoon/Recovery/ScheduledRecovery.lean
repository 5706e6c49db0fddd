import BlueLagoon.Orchestration
import BlueLagoon.ScheduledForeground

/-!
# Recovery of interrupted scheduled tasks

The scheduler finds tasks whose run was interrupted, routes them through the recovery of
foreground restarts and gives the run an outcome. The ingress event of the run is what the other
service, which plans recoverable ingress events, goes by; it is left as it was.
-/

namespace BlueLagoon

open Interleaving Harness

/-- The derived `Debug` name of a task status. -/
def ScheduledForegroundTaskStatus.debug : ScheduledForegroundTaskStatus → String
  | active => "Active"
  | paused => "Paused"
  | disabled => "Disabled"

/-- The derived `Debug` name of an outcome. -/
def ScheduledForegroundLastOutcome.debug : ScheduledForegroundLastOutcome → String
  | completed => "Completed"
  | suppressed => "Suppressed"
  | failed => "Failed"

namespace ScheduledForeground

/-! ## Interrupted runs -/

/-- The ingress event of a run: the first that was received for its execution. -/
def runIngress (executionId : Uuid) (db : Database) : Option IngressEventRecord :=
  Table.first (fun a b => decide (a.receivedAt < b.receivedAt))
    (db.ingressEvents.filter fun row => row.executionId = some executionId)

/-- Is the run over, or was it abandoned? -/
def isInterrupted (staleCutoff : DateTime) (task : ScheduledForegroundTaskRecord)
    (execution : ExecutionRecord) (db : Database) : Bool :=
  execution.status = "completed" || execution.status = "failed" ||
    (execution.status = "started" &&
      (task.currentRunStartedAt.any fun startedAt => decide (startedAt ≤ staleCutoff)) &&
      !db.workerLeases.any fun lease =>
        lease.executionId = task.currentExecutionId && lease.status = .active)

/-- `ORDER BY current_run_started_at ASC, task_key ASC`. -/
def startedBefore (a b : ScheduledForegroundTaskRecord) : Prop :=
  a.currentRunStartedAt.getD 0 < b.currentRunStartedAt.getD 0 ∨
    a.currentRunStartedAt.getD 0 = b.currentRunStartedAt.getD 0 ∧
      a.taskKey.toList ≤ b.taskKey.toList

instance : DecidableRel startedBefore := fun _ _ => inferInstanceAs (Decidable (_ ∨ _))

/-- The interrupted run of a task, when there is one. -/
def interruptedRun (staleCutoff : DateTime) (db : Database) (task : ScheduledForegroundTaskRecord) :
    Option RecoverableScheduledForegroundTask := do
  let executionId ← task.currentExecutionId
  let execution ← Table.find ExecutionRecord.executionId executionId db.executionRecords
  if isInterrupted staleCutoff task execution db then
    some
      { task := task
        executionStatus := execution.status
        ingressId := (runIngress executionId db).map (·.ingressId) }
  else none

/-- `list_recoverable_in_progress_tasks`. -/
def listRecoverableInProgressTasks (staleCutoff : DateTime) (limit : Nat) :
    Harness (List RecoverableScheduledForegroundTask) :=
  fetch "failed to list recoverable in-progress scheduled foreground tasks" fun db =>
    ((db.scheduledForegroundTasks.insertionSort startedBefore).filterMap
      (interruptedRun staleCutoff db)).take limit

/-! ## Their recovery -/

/-- `record_scheduled_foreground_terminal_audit`. -/
def recordScheduledForegroundTerminalAudit (eventKind severity : String)
    (traceId executionId : Uuid) (task : ScheduledForegroundTaskRecord) (detail : Json) :
    Harness Unit := do
  let _ ← Audit.insert
    { loopKind := "conscious"
      subsystem := "scheduled_foreground"
      eventKind := eventKind
      severity := severity
      traceId := traceId
      executionId := some executionId
      payload := .obj
        [("scheduled_foreground_task_id", .uuid task.scheduledForegroundTaskId),
         ("task_key", .str task.taskKey),
         ("status", .str task.status.debug),
         ("last_outcome", .ofOption (fun outcome => .str outcome.debug) task.lastOutcome),
         ("next_due_at", .time task.nextDueAt),
         ("detail", detail)] }
  pure ()

/-- The restart recovery a run with an ingress event is routed through. -/
def restartRequest (recoverable : RecoverableScheduledForegroundTask)
    (traceId executionId ingressId : Uuid) : ForegroundRestartRecoveryRequest where
  traceId := traceId
  executionId := executionId
  interruptedExecutionId := some executionId
  internalConversationRef := recoverable.task.internalConversationRef
  recoveryReasonCode := .supervisorRestart
  triggerSource := "scheduled_foreground_supervisor_recovery"
  decisionReason := "scheduled_task_supervisor_restart_recovery"
  selectedIngressIds := [ingressId]
  primaryIngressId := ingressId
  recoveryMode := "single_ingress"

/-- The part of `recover_scheduled_foreground_task` that routes the run through recovery. -/
def routeThroughRecovery (recoverable : RecoverableScheduledForegroundTask)
    (traceId executionId : Uuid) (now : DateTime) : Harness Unit :=
  match recoverable.ingressId with
  | none => pure ()
  | some ingressId => do
    let _ ← context "failed to route interrupted scheduled foreground task through recovery"
      (Recovery.recoverForegroundRestartTrigger
        (restartRequest recoverable traceId executionId ingressId) now)
    pure ()

/-- The part of `recover_scheduled_foreground_task` that gives the run an outcome. -/
def finalizeRecoveredRun (recoverable : RecoverableScheduledForegroundTask)
    (traceId executionId : Uuid) (now : DateTime) : Harness Unit := do
  let detail := Json.obj
    [("recovery", .str "supervisor_restart"),
     ("execution_status", .str recoverable.executionStatus),
     ("ingress_id", .ofOption .uuid recoverable.ingressId)]
  if recoverable.executionStatus = "completed" then
    let completed ← markTaskCompleted recoverable.task executionId now
      "scheduled foreground completion was finalized during supervisor recovery"
    recordScheduledForegroundTerminalAudit "scheduled_foreground_task_recovered_completed" "warn"
      traceId executionId completed detail
  else if recoverable.executionStatus = "failed" then
    let failed ← markTaskFailed recoverable.task executionId now "supervisor_restart_recovery"
      "scheduled foreground failure was finalized during supervisor recovery"
    recordScheduledForegroundTerminalAudit "scheduled_foreground_task_recovered_failed" "warn"
      traceId executionId failed detail
  else
    Execution.markFailed executionId (.obj
      [("kind", .str "scheduled_foreground_recovery"),
       ("message", .str "scheduled foreground execution was interrupted and failed closed during supervisor recovery")])
    let failed ← markTaskFailed recoverable.task executionId now "supervisor_restart_recovery"
      "scheduled foreground execution was interrupted and failed closed during supervisor recovery"
    recordScheduledForegroundTerminalAudit "scheduled_foreground_task_recovered_failed" "warn"
      traceId executionId failed detail

/-- `recover_scheduled_foreground_task`. -/
def recoverScheduledForegroundTask (recoverable : RecoverableScheduledForegroundTask) :
    Harness Unit := do
  let executionId ← expect
    "recoverable scheduled foreground task is missing current_execution_id"
    recoverable.task.currentExecutionId
  let execution ← Execution.get executionId
  let now ← utcNow
  routeThroughRecovery recoverable execution.traceId executionId now
  finalizeRecoveredRun recoverable execution.traceId executionId now

/-- `recover_interrupted_scheduled_foreground_tasks`. -/
def recoverInterruptedScheduledForegroundTasks (config : RuntimeConfig) (limit : Nat) :
    Harness Nat :=
  if !config.scheduledForeground.enabled then pure 0
  else do
    let timeoutMs ← Prog.ofExcept (tryI64 "scheduled foreground worker timeout exceeded i64 range"
      (Orchestration.effectiveForegroundWorkerTimeoutMs config))
    let now ← utcNow
    let recoverable ← listRecoverableInProgressTasks (now - milliseconds timeoutMs) limit
    Prog.foldlM (fun recovered task =>
      (recoverScheduledForegroundTask task).bind fun _ => .ret (recovered + 1)) 0 recoverable

/-! ## What recovery touches -/

/-- The ingress events stay as they are. -/
def SameIngress (db db' : Database) (_ : List Event) : Prop :=
  db'.ingressEvents = db.ingressEvents

theorem sameIngress_refl (db : Database) : SameIngress db db [] := rfl

theorem sameIngress_tolerates : Recovery.Tolerates SameIngress := fun _ _ _ _ _ => rfl

theorem changeTask_sameIngress {taskId : Uuid} {which : ScheduledForegroundTaskRecord → Bool}
    {change : ScheduledForegroundTaskRecord → ScheduledForegroundTaskRecord}
    {event : ScheduledForegroundTaskRecord → Event} {db : Database}
    {effect : Effect (Option ScheduledForegroundTaskRecord)}
    (h : changeTask taskId which change event db = .ok effect) :
    SameIngress db effect.db effect.events := by
  unfold changeTask at h
  split at h
  · obtain rfl := Except.ok.inj h
    rfl
  · split at h
    · cases h
    · obtain rfl := Except.ok.inj h
      rfl

theorem recordTaskRun_sameIngress (task : ScheduledForegroundTaskRecord) (executionId : Uuid)
    (completedAt : DateTime) (data : TaskRunOutcomeData) :
    (recordTaskRun task executionId completedAt data).Confined (OnDb SameIngress) := by
  refine Prog.Confined.bind (Prog.confined_ofExcept _) fun interval => ?_
  refine Prog.Confined.bind (Prog.confined_ofExcept _) fun nextDueAt => ?_
  refine Prog.Confined.bind (confined_execute sameIngress_refl ?_) fun _ => confined_expect _
  exact fun now db effect hbody => changeTask_sameIngress hbody

theorem recordTerminalAudit_sameIngress (eventKind severity : String) (traceId executionId : Uuid)
    (task : ScheduledForegroundTaskRecord) (detail : Json) :
    (recordScheduledForegroundTerminalAudit eventKind severity traceId executionId task
      detail).Confined (OnDb SameIngress) :=
  Prog.Confined.bind (Audit.insert_confined (fun _ _ => rfl) _) fun _ => Prog.confined_ret _

theorem finalizeRecoveredRun_sameIngress (recoverable : RecoverableScheduledForegroundTask)
    (traceId executionId : Uuid) (now : DateTime) :
    (finalizeRecoveredRun recoverable traceId executionId now).Confined (OnDb SameIngress) := by
  unfold finalizeRecoveredRun
  dsimp only
  split
  · exact Prog.Confined.bind (recordTaskRun_sameIngress _ _ _ _) fun _ =>
      recordTerminalAudit_sameIngress _ _ _ _ _ _
  · split
    · exact Prog.Confined.bind (recordTaskRun_sameIngress _ _ _ _) fun _ =>
        recordTerminalAudit_sameIngress _ _ _ _ _ _
    · refine Prog.Confined.bind (Execution.markFailed_confined (fun _ _ _ => rfl) _ _) fun _ => ?_
      exact Prog.Confined.bind (recordTaskRun_sameIngress _ _ _ _) fun _ =>
        recordTerminalAudit_sameIngress _ _ _ _ _ _

/-- Whatever becomes of the run, its ingress event stays as it is. -/
theorem recoverScheduledForegroundTask_sameIngress
    (recoverable : RecoverableScheduledForegroundTask) :
    (recoverScheduledForegroundTask recoverable).Confined (OnDb SameIngress) := by
  unfold recoverScheduledForegroundTask
  refine confined_expect_bind fun executionId _ => ?_
  refine Prog.Confined.bind (confined_fetchOne sameIngress_refl) fun execution => ?_
  refine Prog.Confined.bind (confined_utcNow sameIngress_refl) fun now => ?_
  refine Prog.Confined.bind ?_ fun _ => finalizeRecoveredRun_sameIngress _ _ _ _
  unfold routeThroughRecovery
  cases recoverable.ingressId with
  | none => exact Prog.confined_ret _
  | some ingressId =>
    refine Prog.Confined.bind (Prog.Confined.mapError ?_) fun _ => Prog.confined_ret _
    exact Recovery.recoverForegroundRestartTrigger_confined sameIngress_tolerates _ _

theorem recoverInterruptedScheduledForegroundTasks_sameIngress (config : RuntimeConfig)
    (limit : Nat) :
    (recoverInterruptedScheduledForegroundTasks config limit).Confined (OnDb SameIngress) := by
  unfold recoverInterruptedScheduledForegroundTasks
  split
  · exact Prog.confined_ret _
  · generalize tryI64 _ (Orchestration.effectiveForegroundWorkerTimeoutMs config) = timeout
    refine Prog.Confined.bind (Prog.confined_ofExcept (S := system) timeout) fun timeoutMs => ?_
    refine Prog.Confined.bind (confined_utcNow sameIngress_refl) fun now => ?_
    refine Prog.Confined.bind (confined_fetch sameIngress_refl) fun recoverable => ?_
    refine Prog.Confined.foldlM (fun recovered task => ?_) _ _
    exact Prog.Confined.bind (recoverScheduledForegroundTask_sameIngress task) fun _ =>
      Prog.confined_ret _

/-! ## Ingress that can be planned again -/

/-- No plan, however late, finds the event. -/
def NeverSelectable (ingressId : Uuid) (db : Database) : Prop :=
  ∀ internalConversationRef staleCutoff limit,
    ∀ row ∈ Foreground.recoverableIngress internalConversationRef staleCutoff limit db,
      row.ingressId ≠ ingressId

/-- The event was processed, or it never was one to be processed. -/
def Settled (ingressId : Uuid) (db : Database) : Prop :=
  ∀ row ∈ db.ingressEvents, row.ingressId = ingressId →
    row.internalConversationRef.isSome → row.status = "accepted" →
      row.foregroundStatus ≠ "pending" ∧ row.foregroundStatus ≠ "processing"

theorem mem_recoverableIngress {internalConversationRef : String} {staleCutoff : DateTime}
    {limit : Nat} {db : Database} {row : IngressEventRecord}
    (h : row ∈ Foreground.recoverableIngress internalConversationRef staleCutoff limit db) :
    row ∈ db.ingressEvents ∧ row.internalConversationRef = some internalConversationRef ∧
      Foreground.isRecoverable staleCutoff row = true := by
  have hsorted := List.mem_of_mem_take h
  rw [List.mem_insertionSort, List.mem_filter] at hsorted
  simpa using hsorted

/-- An event that is not settled is found once it is old enough. -/
theorem neverSelectable_iff {ingressId : Uuid} {db : Database} :
    NeverSelectable ingressId db ↔ Settled ingressId db := by
  constructor
  · intro hnever row hrow hid hconversation hstatus
    obtain ⟨internalConversationRef, href⟩ := Option.isSome_iff_exists.mp hconversation
    by_contra hnot
    refine hnever internalConversationRef (Foreground.touchedAt row) db.ingressEvents.length row ?_
      hid
    unfold Foreground.recoverableIngress
    rw [List.take_of_length_le]
    · rw [List.mem_insertionSort, List.mem_filter]
      refine ⟨hrow, ?_⟩
      simp only [href, Foreground.isRecoverable, hstatus]
      simp
      tauto
    · rw [List.length_insertionSort]
      exact List.length_filter_le _ _
  · intro hsettled internalConversationRef staleCutoff limit row hrow hid
    obtain ⟨hmem, href, hrecoverable⟩ := mem_recoverableIngress hrow
    unfold Foreground.isRecoverable at hrecoverable
    simp only [Bool.and_eq_true, Bool.or_eq_true, decide_eq_true_eq] at hrecoverable
    obtain ⟨hstatus, hstate⟩ := hrecoverable
    have hnot := hsettled row hmem hid (by rw [href]; rfl) hstatus
    rcases hstate with hpending | ⟨hprocessing, -⟩
    · exact hnot.1 hpending
    · exact hnot.2 hprocessing

/-! ## Two services over one event -/

/-- Marking an event as processing settles nothing, and unsettles nothing unless the event is
the one in question. -/
theorem settled_setProcessing {ingressId other executionId : Uuid} {now : DateTime} {db : Database}
    (h : other = ingressId → ¬ Settled ingressId db) :
    Settled ingressId (Foreground.setForegroundState other (some executionId) "processing" now db) ↔
      Settled ingressId db := by
  constructor
  · intro hsettled row hrow hid hconversation hstatus
    by_cases hother : row.ingressId = other
    · -- The row would be in `processing` now.
      have hmem : Foreground.foregroundStateSet (some executionId) "processing" now row ∈
          (Foreground.setForegroundState other (some executionId) "processing" now
            db).ingressEvents :=
        Table.mem_update.mpr (Or.inr ⟨row, hrow, by simpa using hother, rfl⟩)
      exact absurd rfl (hsettled _ hmem hid hconversation hstatus).2
    · have hmem : row ∈ (Foreground.setForegroundState other (some executionId) "processing" now
          db).ingressEvents :=
        Table.mem_update.mpr (Or.inl ⟨hrow, by simpa using hother⟩)
      exact hsettled row hmem hid hconversation hstatus
  · intro hsettled row hrow hid hconversation hstatus
    rcases Table.mem_update.mp hrow with ⟨hmem, -⟩ | ⟨old, -, hold, rfl⟩
    · exact hsettled row hmem hid hconversation hstatus
    · have hold' : old.ingressId = other := by simpa using hold
      exact absurd hsettled (h (hold'.symm.trans hid))

theorem settled_congr {ingressId : Uuid} {db db' : Database}
    (h : db'.ingressEvents = db.ingressEvents) : Settled ingressId db' ↔ Settled ingressId db := by
  unfold Settled
  rw [h]

theorem settled_planIngress {ingressId traceId executionId : Uuid} {mode : ForegroundExecutionMode}
    {primary : IngressEventRecord} {linkIds causalLinkIds : List Uuid} {now : DateTime}
    {db db' : Database} {entry : IngressEventRecord × Nat}
    (h : entry.1.ingressId = ingressId → ¬ Settled ingressId db)
    (hplan : Foreground.planIngress traceId executionId mode primary linkIds causalLinkIds now db
      entry = .ok db') : Settled ingressId db' ↔ Settled ingressId db := by
  unfold Foreground.planIngress at hplan
  dsimp only at hplan
  split at hplan
  · cases hplan
  · obtain rfl := Except.ok.inj hplan
    rw [← settled_setProcessing h]
    refine settled_congr ?_
    unfold CausalLinks.add
    split <;> rfl

/-- The turns of the planning loop, one after the other. -/
theorem settled_planIngress_foldlM {ingressId traceId executionId : Uuid}
    {mode : ForegroundExecutionMode} {primary : IngressEventRecord}
    {linkIds causalLinkIds : List Uuid} {now : DateTime} {db' : Database}
    (entries : List (IngressEventRecord × Nat)) (db : Database)
    (h : ∀ entry ∈ entries, entry.1.ingressId = ingressId → ¬ Settled ingressId db)
    (hplan : entries.foldlM (Foreground.planIngress traceId executionId mode primary linkIds
      causalLinkIds now) db = .ok db') : Settled ingressId db' ↔ Settled ingressId db := by
  induction entries generalizing db with
  | nil =>
    obtain rfl := Except.ok.inj hplan
    exact Iff.rfl
  | cons entry entries ih =>
    rw [List.foldlM_cons] at hplan
    cases hturn : Foreground.planIngress traceId executionId mode primary linkIds causalLinkIds
        now db entry with
    | error e =>
      rw [hturn] at hplan
      cases hplan
    | ok planned =>
      rw [hturn] at hplan
      have hfirst := settled_planIngress (h entry List.mem_cons_self) hturn
      have hrest := ih planned (fun other hother hid => by
        rw [hfirst]
        exact h other (List.mem_cons_of_mem _ hother) hid) hplan
      exact hrest.trans hfirst

theorem selectedIngress_subset (mode : ForegroundExecutionMode) (pending : List IngressEventRecord) :
    Foreground.selectedIngress mode pending ⊆ pending := by
  cases mode with
  | singleIngress => exact List.take_subset 1 pending
  | backlogRecovery => exact List.Subset.refl pending

/-- A plan takes on events that are not settled, and settles none. -/
theorem settled_planPending {ingressId : Uuid} {config : BacklogRecoveryConfig}
    {ids : Foreground.PlanningIds} {traceId executionId : Uuid} {internalConversationRef : String}
    {forceRecovery : Bool} {now_ now : DateTime} {db : Database}
    {effect : Effect (Option PendingForegroundExecutionPlan)}
    (h : Foreground.planPending config ids traceId executionId internalConversationRef forceRecovery
      now_ now db = .ok effect) : Settled ingressId effect.db ↔ Settled ingressId db := by
  unfold Foreground.planPending at h
  dsimp only at h
  split at h
  · obtain rfl := Except.ok.inj h
    exact Iff.rfl
  · split at h
    · cases h
    · next planned hplanned =>
      obtain rfl := Except.ok.inj h
      have hentries : Settled ingressId planned ↔ Settled ingressId db := by
        refine settled_planIngress_foldlM _ db ?_ hplanned
        rintro ⟨row, index⟩ hentry hid hsettled
        have hselected : row ∈ Foreground.selectedIngress _ _ :=
          (List.mem_zipIdx' hentry).2 ▸ List.getElem_mem _
        have hpending := selectedIngress_subset _ _ hselected
        exact neverSelectable_iff.mpr hsettled _ _ _ row hpending hid
      rw [← hentries]
      exact settled_congr rfl

/-- What works on the ingress of a scheduled run once it is interrupted: the recovery of the
scheduler, and the plans of the other service. -/
inductive InterruptedRunOperation
  | recover (recoverable : RecoverableScheduledForegroundTask)
  | recoverAll (config : RuntimeConfig) (limit : Nat)
  | plan (config : RuntimeConfig) (traceId executionId : Uuid) (internalConversationRef : String)
      (forceRecovery : Bool)

def InterruptedRunOperation.program : InterruptedRunOperation → Harness Unit
  | .recover recoverable => recoverScheduledForegroundTask recoverable
  | .recoverAll config limit => do
    let _ ← recoverInterruptedScheduledForegroundTasks config limit
    pure ()
  | .plan config traceId executionId internalConversationRef forceRecovery => do
    let _ ← Foreground.planPendingForegroundExecution config traceId executionId
      internalConversationRef forceRecovery
    pure ()

/-- An event is settled by none of them. -/
theorem InterruptedRunOperation.program_confined (operation : InterruptedRunOperation)
    (ingressId : Uuid) :
    operation.program.Confined (OnDb fun db db' _ =>
      (Settled ingressId db' ↔ Settled ingressId db)) := by
  have hsame : ∀ {p : Harness Unit}, p.Confined (OnDb SameIngress) →
      p.Confined (OnDb fun db db' _ => (Settled ingressId db' ↔ Settled ingressId db)) :=
    fun hp => hp.mono fun w w' events h => ⟨settled_congr h.1, h.2⟩
  cases operation with
  | recover recoverable => exact hsame (recoverScheduledForegroundTask_sameIngress recoverable)
  | recoverAll config limit =>
    refine hsame (Prog.Confined.bind ?_ fun _ => Prog.confined_ret _)
    exact recoverInterruptedScheduledForegroundTasks_sameIngress config limit
  | plan config traceId executionId internalConversationRef forceRecovery =>
    refine Prog.Confined.bind ?_ fun _ => Prog.confined_ret _
    refine Prog.Confined.bind (confined_utcNow fun _ => Iff.rfl) fun now => ?_
    refine Prog.Confined.bind (confined_newUuids (fun _ => Iff.rfl) _) fun links => ?_
    refine Prog.Confined.bind (confined_newUuids (fun _ => Iff.rfl) _) fun causalLinks => ?_
    refine Prog.Confined.bind (confined_newUuid fun _ => Iff.rfl) fun auditEvent => ?_
    exact confined_transaction (fun _ => Iff.rfl) fun now db effect hbody =>
      settled_planPending hbody

namespace InterruptedRunOperation

/-- One process for each of them, all at their start. -/
def start {ι : Type} (operations : ι → InterruptedRunOperation) (w : World) :
    Config system (fun _ : ι => Unit) where
  threads i := (operations i).program
  shared := { state := w }

end InterruptedRunOperation

/-- In every state of every run of recoveries and plans, those after the recovery of an event's
own run among them: no later plan can find the event exactly when it was settled before. -/
theorem neverSelectable_iff_settled {ι : Type} [DecidableEq ι]
    (operations : ι → InterruptedRunOperation) (answers : Answers system) (w : World)
    (ingressId : Uuid) {c : Config system fun _ : ι => Unit}
    (reach : Config.Reachable answers (InterruptedRunOperation.start operations w) c) :
    NeverSelectable ingressId c.shared.state.db ↔ Settled ingressId w.db := by
  have hconfined : (InterruptedRunOperation.start operations w).Confined fun _ =>
      OnDb fun db db' _ => (Settled ingressId db' ↔ Settled ingressId db) :=
    fun i => (operations i).program_confined ingressId
  rw [neverSelectable_iff]
  refine hconfined.invariant (fun v => Settled ingressId v.state.db ↔ Settled ingressId w.db)
    Iff.rfl ?_ reach
  exact fun v i s es hv haction => haction.1.trans hv

/-- A task that is due, in a bound conversation. -/
def dailyDue : World where
  db :=
    { conversationBindings :=
        [{ conversationBindingId := 4
           channelKind := .telegram
           externalUserId := "42"
           externalConversationId := "42"
           internalPrincipalRef := "principal"
           internalConversationRef := "conversation" }]
      scheduledForegroundTasks :=
        [{ scheduledForegroundTaskId := 5
           taskKey := "daily"
           status := .active
           internalPrincipalRef := "principal"
           internalConversationRef := "conversation"
           messageText := "Report."
           cadenceSeconds := 3600
           cooldownSeconds := 600
           nextDueAt := 0
           createdBy := "owner"
           updatedBy := "owner" }] }
  issued := [1, 2, 4, 5]

/-- Its run is claimed, and nothing comes after. -/
def interrupted : World := ((claimNextDueTask 1 2 0).run (steady 0) 10 dailyDue).state

/-- The first recovery of the next process. -/
def recoveryAlone : Unit → InterruptedRunOperation := fun _ => .recoverAll RuntimeConfig.shipped 40

/-- The instant of the recovery, long after the claim. -/
def nextDay : DateTime := seconds 86400

def recoveryStart : Config system fun _ : Unit => Unit :=
  InterruptedRunOperation.start recoveryAlone interrupted

def afterRecovery : Config system fun _ : Unit => Unit :=
  Config.schedule (steady nextDay) (List.replicate 34 ()) 20 recoveryStart

theorem reachable_afterRecovery :
    Config.Reachable (fun _ _ => True) recoveryStart afterRecovery :=
  Config.reachable_schedule (fun _ _ => trivial) (List.replicate 34 ()) 20 recoveryStart

theorem neverSelectable_iff_settled_interrupted :
    NeverSelectable 11 afterRecovery.shared.state.db ↔ Settled 11 interrupted.db :=
  neverSelectable_iff_settled recoveryAlone _ interrupted 11 reachable_afterRecovery

/-- A run that is interrupted and failed by the recovery leaves an event that a later plan takes
on again. -/
theorem failed_run_selectable_again :
    Config.Reachable (fun _ _ => True) recoveryStart afterRecovery ∧
      afterRecovery.threads () = .ret () ∧
      (afterRecovery.shared.state.db.scheduledForegroundTasks.map fun task =>
        (task.currentExecutionId, task.lastExecutionId, task.lastOutcome)) =
          [(none, some 1, some .failed)] ∧
      (runIngress 1 afterRecovery.shared.state.db).map (·.ingressId) = some 11 ∧
      ¬ NeverSelectable 11 afterRecovery.shared.state.db := by
  refine ⟨reachable_afterRecovery, Prog.ended_eq_some.mp (by decide +kernel), by decide +kernel,
    by decide +kernel, ?_⟩
  rw [neverSelectable_iff]
  unfold Settled
  decide +kernel

end ScheduledForeground

end BlueLagoon
