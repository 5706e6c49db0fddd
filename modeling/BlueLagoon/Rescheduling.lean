import BlueLagoon.Interleaving.Monitor
import BlueLagoon.ScheduledForeground

/-!
# Rescheduling a task that runs

While a task runs, its schedule may be changed under it. The outcome of the run is written with
what its caller knows of the task, which is the record of the claim; of the row it is written
into, only the execution is checked. What becomes of the change is read from the log: it keeps
every schedule a task is given, and every outcome with the schedule it was computed from.
-/

namespace BlueLagoon

open Interleaving Harness

/-- The calls that work on scheduled tasks: a run, from the claim to its outcome; the outcome of
a run that was claimed before; an upsert. -/
inductive TaskOperation
  | run (data : TaskRunOutcomeData)
  | record (task : ScheduledForegroundTaskRecord) (executionId : Uuid) (completedAt : DateTime)
      (data : TaskRunOutcomeData)
  | upsert (config : RuntimeConfig) (request : UpsertScheduledForegroundTask)

namespace ScheduledForeground

/-- A run, of which only the claim and the outcome matter here. -/
def runTask (data : TaskRunOutcomeData) : Harness Unit := do
  let traceId ← newUuid
  let executionId ← newUuid
  let claimedAt ← utcNow
  let claimed ← claimNextDueTask executionId traceId claimedAt
  match claimed with
  | none => pure ()
  | some claim => do
    let completedAt ← utcNow
    let _ ← recordTaskRun claim.task executionId completedAt data
    pure ()

end ScheduledForeground

def TaskOperation.program : TaskOperation → Harness Unit
  | .run data => ScheduledForeground.runTask data
  | .record task executionId completedAt data => do
    let _ ← ScheduledForeground.recordTaskRun task executionId completedAt data
    pure ()
  | .upsert config request => do
    let _ ← ScheduledForeground.upsertTask config request
    pure ()

namespace ScheduledForeground

/-! ## Schedules of tasks -/

/-- The schedules of all tasks. -/
abbrev Schedules := Uuid → Option TaskSchedule

def scheduleOf (db : Database) : Schedules := fun taskId =>
  (Table.find ScheduledForegroundTaskRecord.scheduledForegroundTaskId taskId
    db.scheduledForegroundTasks).map ScheduledForegroundTaskRecord.schedule

def UniqueTasks (db : Database) : Prop :=
  (db.scheduledForegroundTasks.map
    ScheduledForegroundTaskRecord.scheduledForegroundTaskId).Nodup

/-- What a run leaves of the schedule it finds. -/
def scheduleAfter (run : RecordedTaskRun) (found : TaskSchedule) : TaskSchedule :=
  { found with
      status := if run.oneShot then .disabled else found.status
      nextDueAt := run.completedAt + seconds (intervalSeconds run.captured run.outcome) }

/-- What one action does to the schedules. -/
inductive ScheduleStep (before : Schedules) : Schedules → List Event → Prop
  | quiet : ScheduleStep before before []
  | claimed (taskId executionId : Uuid) :
      ScheduleStep before before [.taskClaimed taskId executionId]
  | upserted (taskId : Uuid) (schedule : TaskSchedule) :
      ScheduleStep before (Function.update before taskId (some schedule))
        [.taskUpserted taskId schedule]
  | recorded (run : RecordedTaskRun) (found : TaskSchedule)
      (row : before run.taskId = some found) (written : run.written = scheduleAfter run found) :
      ScheduleStep before (Function.update before run.taskId (some run.written))
        [.taskRunRecorded run]

/-- The actions of the calls, as far as schedules go. -/
def TaskAction (db db' : Database) (events : List Event) : Prop :=
  UniqueTasks db → UniqueTasks db' ∧ ScheduleStep (scheduleOf db) (scheduleOf db') events

/-- Actions on other tables are quiet. -/
theorem TaskAction.of_eq {db db' : Database}
    (h : db'.scheduledForegroundTasks = db.scheduledForegroundTasks) : TaskAction db db' [] := by
  intro hunique
  have hsame : scheduleOf db' = scheduleOf db := by
    unfold scheduleOf
    rw [h]
  rw [hsame]
  refine ⟨?_, .quiet⟩
  unfold UniqueTasks
  rw [h]
  exact hunique

theorem taskAction_refl (db : Database) : TaskAction db db [] := .of_eq rfl

/-- The row of one task gets a schedule; the other tasks keep theirs. -/
theorem scheduleOf_update {db : Database} (hunique : UniqueTasks db) {taskId : Uuid}
    {which : ScheduledForegroundTaskRecord → Bool}
    {change : ScheduledForegroundTaskRecord → ScheduledForegroundTaskRecord}
    (hkey : ∀ row, (change row).scheduledForegroundTaskId = row.scheduledForegroundTaskId)
    {row : ScheduledForegroundTaskRecord} (hmem : row ∈ db.scheduledForegroundTasks)
    (hid : row.scheduledForegroundTaskId = taskId) (hwhich : which row = true) :
    scheduleOf
        { db with
            scheduledForegroundTasks :=
              Table.update (fun row => row.scheduledForegroundTaskId = taskId && which row)
                change db.scheduledForegroundTasks } =
      Function.update (scheduleOf db) taskId (some (change row).schedule) := by
  funext other
  show ((Table.find _ other (Table.update _ change db.scheduledForegroundTasks)).map _) = _
  rw [Table.find_update hkey]
  by_cases hother : other = taskId
  · subst hother
    have hfind := Table.find_eq_some_of_mem hunique hmem
    rw [hid] at hfind
    rw [hfind, Function.update_self]
    simp [hid, hwhich]
  · rw [Function.update_of_ne hother]
    unfold scheduleOf
    cases hfind : Table.find ScheduledForegroundTaskRecord.scheduledForegroundTaskId other
        db.scheduledForegroundTasks with
    | none => rfl
    | some found =>
      have hne : found.scheduledForegroundTaskId ≠ taskId := by
        rw [Table.key_of_find hfind]
        exact hother
      simp [hne]

/-- An update of the row of a task, with what it says about it. -/
theorem changeTask_action {taskId : Uuid} {which : ScheduledForegroundTaskRecord → Bool}
    {change : ScheduledForegroundTaskRecord → ScheduledForegroundTaskRecord}
    {event : ScheduledForegroundTaskRecord → Event} {db : Database}
    {effect : Effect (Option ScheduledForegroundTaskRecord)}
    (hkey : ∀ row, (change row).scheduledForegroundTaskId = row.scheduledForegroundTaskId)
    (hstep : ∀ row before, row.scheduledForegroundTaskId = taskId →
      before taskId = some row.schedule →
      ScheduleStep before (Function.update before taskId (some (change row).schedule))
        [event (change row)])
    (h : changeTask taskId which change event db = .ok effect) :
    TaskAction db effect.db effect.events := by
  intro hunique
  unfold changeTask at h
  split at h
  · obtain rfl := Except.ok.inj h
    exact taskAction_refl db hunique
  · next row hfind =>
    split at h
    · cases h
    · obtain rfl := Except.ok.inj h
      have hmem := List.mem_of_find?_eq_some hfind
      have hrow := List.find?_some hfind
      simp only [Bool.and_eq_true, decide_eq_true_eq] at hrow
      have hfound : scheduleOf db taskId = some row.schedule := by
        unfold scheduleOf
        rw [← hrow.1, Table.find_eq_some_of_mem hunique hmem]
        rfl
      refine ⟨?_, ?_⟩
      · unfold UniqueTasks
        rw [Table.map_key_update hkey]
        exact hunique
      · rw [scheduleOf_update hunique hkey hmem hrow.1 hrow.2]
        exact hstep row (scheduleOf db) hrow.1 hfound

/-! ## Upserts -/

/-- A new task has a schedule from its insertion on. -/
theorem scheduleOf_append {db : Database} {row : ScheduledForegroundTaskRecord}
    (hfresh : ∀ other ∈ db.scheduledForegroundTasks,
      other.scheduledForegroundTaskId ≠ row.scheduledForegroundTaskId) :
    scheduleOf
        { db with scheduledForegroundTasks := db.scheduledForegroundTasks ++ [row] } =
      Function.update (scheduleOf db) row.scheduledForegroundTaskId (some row.schedule) := by
  funext other
  show ((Table.find _ other (db.scheduledForegroundTasks ++ [row])).map _) = _
  by_cases hother : other = row.scheduledForegroundTaskId
  · subst hother
    rw [Table.find_append_self hfresh, Function.update_self]
    rfl
  · rw [Table.find_append_of_ne (Ne.symm hother), Function.update_of_ne hother]
    rfl

theorem confined_orNow (at_ : Option DateTime) : (orNow at_).Confined (OnDb TaskAction) := by
  cases at_ with
  | some at_ => exact Prog.confined_ret _
  | none => exact confined_utcNow taskAction_refl

theorem insertTask_confined (config : RuntimeConfig) (request : UpsertScheduledForegroundTask) :
    (insertTask config request).Confined (OnDb TaskAction) := by
  unfold insertTask
  refine Prog.Confined.bind (confined_orNow _) fun nextDueAt => ?_
  refine Prog.Confined.bind (confined_newUuid taskAction_refl) fun taskId => ?_
  refine Prog.Confined.bind (Prog.confined_ofExcept _) fun _ => ?_
  refine Prog.Confined.bind (Prog.confined_ofExcept _) fun _ => ?_
  refine confined_execute taskAction_refl fun now db effect hbody => ?_
  dsimp only at hbody
  split at hbody
  · cases hbody
  · next hviolation =>
    obtain rfl := Except.ok.inj hbody
    intro hunique
    have hfresh : ∀ other ∈ db.scheduledForegroundTasks,
        other.scheduledForegroundTaskId ≠ taskId := by
      have hnone := (Option.or_eq_none_iff.mp hviolation).2
      by_contra hnot
      rw [if_neg (by simpa using hnot)] at hnone
      cases hnone
    refine ⟨?_, ?_⟩
    · exact Table.nodup_append_fresh hunique hfresh
    · rw [scheduleOf_append hfresh]
      exact .upserted taskId _

theorem updateTask_confined (config : RuntimeConfig) (existing : ScheduledForegroundTaskRecord)
    (request : UpsertScheduledForegroundTask) :
    (updateTask config existing request).Confined (OnDb TaskAction) := by
  unfold updateTask
  refine Prog.Confined.bind (Prog.confined_ofExcept _) fun _ => ?_
  refine Prog.Confined.bind (Prog.confined_ofExcept _) fun _ => ?_
  refine Prog.Confined.bind (confined_execute taskAction_refl ?_) fun updated => ?_
  · intro now db effect hbody
    have hkey : ∀ schedule row, (taskUpdated now request schedule row).scheduledForegroundTaskId =
        row.scheduledForegroundTaskId := fun _ _ => rfl
    refine changeTask_action (hkey _) (fun row before _ _ => ?_) hbody
    exact .upserted _ _
  · cases updated with
    | none => exact Prog.confined_fail _
    | some record => exact Prog.confined_ret _

theorem upsertTask_confined (config : RuntimeConfig) (request : UpsertScheduledForegroundTask) :
    (upsertTask config request).Confined (OnDb TaskAction) := by
  unfold upsertTask
  refine Prog.Confined.bind (Prog.confined_ofExcept _) fun _ => ?_
  refine Prog.Confined.bind (confined_fetch taskAction_refl) fun existing => ?_
  cases existing with
  | some existing =>
    exact Prog.Confined.bind (updateTask_confined config existing request) fun _ =>
      Prog.confined_ret _
  | none =>
    exact Prog.Confined.bind (insertTask_confined config request) fun _ => Prog.confined_ret _

/-! ## Runs -/

theorem insertIngressEvent_tasks {event : NewIngressEvent} {now : DateTime} {db db' : Database}
    (h : Foreground.insertIngressEvent event now db = .ok db') :
    db'.scheduledForegroundTasks = db.scheduledForegroundTasks := by
  unfold Foreground.insertIngressEvent at h
  split at h
  · cases h
  · obtain rfl := Except.ok.inj h
    rfl

@[simp] theorem add_scheduledForegroundTasks (causalLinkId : Uuid) (link : NewCausalLink)
    (db : Database) : (CausalLinks.add causalLinkId link db).scheduledForegroundTasks =
      db.scheduledForegroundTasks := by
  unfold CausalLinks.add
  split <;> rfl

/-- The ingress of a claim leaves the tasks as they are. -/
theorem stageClaimIngress_tasks {executionId traceId : Uuid} {claimedAt : DateTime}
    {ids : ClaimIds} {task : ScheduledForegroundTaskRecord} {now : DateTime} {db db' : Database}
    {ingress : Option NormalizedIngress}
    (h : stageClaimIngress executionId traceId claimedAt ids task now db = .ok (ingress, db')) :
    db'.scheduledForegroundTasks = db.scheduledForegroundTasks := by
  unfold stageClaimIngress at h
  split at h
  · obtain ⟨-, rfl⟩ := Prod.mk.inj (Except.ok.inj h)
    rfl
  · dsimp only at h
    split at h
    · cases h
    · next stored hstored =>
      obtain ⟨-, rfl⟩ := Prod.mk.inj (Except.ok.inj h)
      rw [add_scheduledForegroundTasks, add_scheduledForegroundTasks]
      show stored.scheduledForegroundTasks = _
      exact insertIngressEvent_tasks hstored

theorem scheduleOf_congr {db db' : Database}
    (h : db'.scheduledForegroundTasks = db.scheduledForegroundTasks) :
    scheduleOf db' = scheduleOf db := by
  unfold scheduleOf
  rw [h]

/-- What is done to other tables first does not matter. -/
theorem TaskAction.of_eq_left {db db' db'' : Database} {events : List Event}
    (h : db'.scheduledForegroundTasks = db.scheduledForegroundTasks)
    (haction : TaskAction db' db'' events) : TaskAction db db'' events := by
  intro hunique
  rw [← scheduleOf_congr h]
  refine haction ?_
  unfold UniqueTasks
  rw [h]
  exact hunique

/-- A claim leaves the schedules as they are. -/
theorem claimDueTask_action {executionId traceId : Uuid} {claimedAt : DateTime} {ids : ClaimIds}
    {now : DateTime} {db : Database} {effect : Effect (Option ClaimedScheduledForegroundTask)}
    (h : claimDueTask executionId traceId claimedAt ids now db = .ok effect) :
    TaskAction db effect.db effect.events := by
  unfold claimDueTask at h
  split at h
  · obtain rfl := Except.ok.inj h
    exact taskAction_refl db
  · next task _ =>
    dsimp only at h
    split at h
    · cases h
    · split at h
      · cases h
      · next ingress staged hstaged =>
        split at h
        · cases h
        · next changed hchanged =>
          have hkey : ∀ row, (taskClaimed now executionId claimedAt row).scheduledForegroundTaskId =
              row.scheduledForegroundTaskId := fun _ => rfl
          have hclaim : TaskAction staged changed.db changed.events := by
            refine changeTask_action hkey (fun row before hid hbefore => ?_) hchanged
            -- The row of the claimed task keeps its schedule.
            have hsame : Function.update before task.scheduledForegroundTaskId
                (some (taskClaimed now executionId claimedAt row).schedule) = before := by
              rw [← Function.update_eq_self task.scheduledForegroundTaskId before, hbefore]
              simp only [Function.update_idem]
              rfl
            rw [hsame]
            exact .claimed _ _
          split at h
          · cases h
          · obtain rfl := Except.ok.inj h
            refine hclaim.of_eq_left ?_
            rw [stageClaimIngress_tasks hstaged, add_scheduledForegroundTasks]

theorem claimNextDueTask_confined (executionId traceId : Uuid) (claimedAt : DateTime) :
    (claimNextDueTask executionId traceId claimedAt).Confined (OnDb TaskAction) := by
  have hid := confined_newUuid taskAction_refl
  unfold claimNextDueTask
  refine Prog.Confined.bind hid fun executionLink => ?_
  refine Prog.Confined.bind hid fun ingress => ?_
  refine Prog.Confined.bind hid fun stagedLink => ?_
  refine Prog.Confined.bind hid fun ingressLink => ?_
  exact confined_transaction taskAction_refl fun now db effect hbody => claimDueTask_action hbody

/-- The outcome of a run takes the next run from the record at hand. -/
theorem recordTaskRun_confined (task : ScheduledForegroundTaskRecord) (executionId : Uuid)
    (completedAt : DateTime) (data : TaskRunOutcomeData) :
    (recordTaskRun task executionId completedAt data).Confined (OnDb TaskAction) := by
  unfold recordTaskRun
  refine Prog.confined_ofExcept_bind fun interval hinterval => ?_
  have hvalue : interval = (intervalSeconds task.schedule data.outcome : Int) := by
    unfold tryI64 toI64 at hinterval
    split at hinterval
    · next converted hconverted =>
      obtain rfl := Except.ok.inj hinterval
      split at hconverted
      · exact (Option.some.inj hconverted).symm
      · cases hconverted
    · cases hinterval
  subst hvalue
  refine Prog.confined_ofExcept_bind fun nextDueAt hnext => ?_
  obtain rfl := Chrono.of_addSeconds_eq_ok hnext
  unfold updateTaskRunOutcome
  refine Prog.Confined.bind (confined_execute taskAction_refl ?_) fun _ => confined_expect _
  intro now db effect hbody
  have hkey : ∀ nextDueAt oneShot row,
      (taskRunWritten now executionId completedAt data nextDueAt oneShot
        row).scheduledForegroundTaskId = row.scheduledForegroundTaskId := fun _ _ _ => rfl
  refine changeTask_action (hkey _ _) (fun row before _ hbefore => ?_) hbody
  generalize isOneShotTaskKey task.taskKey = oneShot
  refine ScheduleStep.recorded
    { taskId := task.scheduledForegroundTaskId
      executionId := executionId
      captured := task.schedule
      oneShot := oneShot
      outcome := data.outcome
      completedAt := completedAt
      written := _ } row.schedule hbefore ?_
  simp only [taskRunWritten, scheduleAfter, ScheduledForegroundTaskRecord.schedule]

theorem program_confined (operation : TaskOperation) :
    operation.program.Confined (OnDb TaskAction) := by
  cases operation with
  | run data =>
    refine Prog.Confined.bind (confined_newUuid taskAction_refl) fun traceId => ?_
    refine Prog.Confined.bind (confined_newUuid taskAction_refl) fun executionId => ?_
    refine Prog.Confined.bind (confined_utcNow taskAction_refl) fun claimedAt => ?_
    refine Prog.Confined.bind (claimNextDueTask_confined _ _ _) fun claimed => ?_
    cases claimed with
    | none => exact Prog.confined_ret _
    | some claim =>
      refine Prog.Confined.bind (confined_utcNow taskAction_refl) fun completedAt => ?_
      exact Prog.Confined.bind (recordTaskRun_confined _ _ _ _) fun _ => Prog.confined_ret _
  | record task executionId completedAt data =>
    exact Prog.Confined.bind (recordTaskRun_confined _ _ _ _) fun _ => Prog.confined_ret _
  | upsert config request =>
    exact Prog.Confined.bind (upsertTask_confined _ _) fun _ => Prog.confined_ret _

/-! ## What the log says -/

/-- The schedules the tasks were given last. -/
def observeGiven (given : Schedules) : Event → Schedules
  | .taskUpserted taskId schedule => Function.update given taskId (some schedule)
  | .taskRunRecorded run => Function.update given run.taskId (some run.written)
  | _ => given

/-- The schedules the tasks were given by upserts since they were claimed. -/
def observeUpserted (upserted : Schedules) : Event → Schedules
  | .taskClaimed taskId _ => Function.update upserted taskId none
  | .taskUpserted taskId schedule => Function.update upserted taskId (some schedule)
  | .taskRunRecorded run => Function.update upserted run.taskId none
  | _ => upserted

variable {ι : Type}

def lastGiven (log : List (ι × Event)) : Schedules :=
  watch (S := system) observeGiven (log.map Prod.snd) fun _ => none

def upsertedDuringRun (log : List (ι × Event)) : Schedules :=
  watch (S := system) observeUpserted (log.map Prod.snd) fun _ => none

/-- What the outcome of a run leaves is what the upsert asked for. The next run may be computed
from the upserted cadence instead, whatever the outcome was: an interval that is the upserted
cooldown is not what the upsert asked for. -/
structure KeepsUpsert (run : RecordedTaskRun) (upserted : TaskSchedule) : Prop where
  status : run.written.status = upserted.status
  cadence : run.written.cadenceSeconds = upserted.cadenceSeconds
  nextDue : run.written.nextDueAt = upserted.nextDueAt ∨
    run.written.nextDueAt = run.completedAt + seconds upserted.cadenceSeconds

/-- The record at hand when the outcome is written is as good as the upserted schedule: the
captured cadence, or after a run that did not complete the captured cooldown, is the upserted
cadence; and only a task that the upsert disabled is disabled as a one-shot. -/
structure AgreesWithUpsert (run : RecordedTaskRun) (upserted : TaskSchedule) : Prop where
  oneShot : run.oneShot = true → upserted.status = .disabled
  interval : (if run.outcome = .completed then run.captured.cadenceSeconds
    else run.captured.cooldownSeconds) = upserted.cadenceSeconds

/-- Something holds of every outcome in the log that is written after an upsert of the task
during the run. -/
def OutcomesAfterUpserts (holds : RecordedTaskRun → TaskSchedule → Prop)
    (log : List (ι × Event)) : Prop :=
  ∀ i run before after, log = before ++ (i, .taskRunRecorded run) :: after →
    ∀ upserted, upsertedDuringRun before run.taskId = some upserted → holds run upserted

theorem intervalSeconds_eq (schedule : TaskSchedule) (outcome : ScheduledForegroundLastOutcome) :
    intervalSeconds schedule outcome =
      if outcome = .completed then schedule.cadenceSeconds else schedule.cooldownSeconds := by
  cases outcome <;> rfl

theorem seconds_injective {n m : Nat} (h : seconds n = seconds m) : n = m := by
  unfold seconds at h
  omega

section Written

variable {run : RecordedTaskRun} {upserted : TaskSchedule}

/-- An outcome that is written into the upserted schedule keeps it when the record at hand
agrees with it. -/
theorem AgreesWithUpsert.keepsUpsert (hagrees : AgreesWithUpsert run upserted)
    (hwritten : run.written = scheduleAfter run upserted) : KeepsUpsert run upserted := by
  refine { status := ?_, cadence := ?_, nextDue := Or.inr ?_ }
  · rw [hwritten]
    show (if run.oneShot = true then .disabled else upserted.status) = upserted.status
    split
    · next honeShot => exact (hagrees.oneShot honeShot).symm
    · rfl
  · rw [hwritten]
    rfl
  · rw [hwritten]
    show run.completedAt + seconds (intervalSeconds run.captured run.outcome) = _
    rw [intervalSeconds_eq, hagrees.interval]

/-- There is no other way to keep it, unless the next run happens to fall on the upserted
one. -/
theorem KeepsUpsert.agrees (hkeeps : KeepsUpsert run upserted)
    (hwritten : run.written = scheduleAfter run upserted) :
    AgreesWithUpsert run upserted ∨ run.written.nextDueAt = upserted.nextDueAt := by
  rcases hkeeps.nextDue with hsame | hcadence
  · exact Or.inr hsame
  · refine Or.inl { oneShot := fun honeShot => ?_, interval := ?_ }
    · have hstatus := hkeeps.status
      rw [hwritten] at hstatus
      change (if run.oneShot = true then .disabled else upserted.status) = _ at hstatus
      rw [if_pos honeShot] at hstatus
      exact hstatus.symm
    · rw [hwritten] at hcadence
      change run.completedAt + seconds (intervalSeconds run.captured run.outcome) = _ at hcadence
      rw [← intervalSeconds_eq]
      exact seconds_injective (Int.add_left_cancel hcadence)

end Written

/-! ## Every run -/

/-- What is said of some tasks is so. -/
def Follows (said actual : Schedules) : Prop :=
  ∀ taskId schedule, said taskId = some schedule → actual taskId = some schedule

namespace Follows

variable {said actual : Schedules}

theorem given (h : Follows said actual) (taskId : Uuid) (schedule : TaskSchedule) :
    Follows (Function.update said taskId (some schedule))
      (Function.update actual taskId (some schedule)) := by
  intro other found hsaid
  by_cases hother : other = taskId
  · subst hother
    rwa [Function.update_self] at hsaid ⊢
  · rw [Function.update_of_ne hother] at hsaid ⊢
    exact h other found hsaid

/-- Nothing is said of a task any more. -/
theorem forget (h : Follows said actual) (taskId : Uuid) :
    Follows (Function.update said taskId none) actual := by
  intro other found hsaid
  by_cases hother : other = taskId
  · subst hother
    rw [Function.update_self] at hsaid
    cases hsaid
  · rw [Function.update_of_ne hother] at hsaid
    exact h other found hsaid

theorem forget_changed (h : Follows said actual) (taskId : Uuid) (schedule : TaskSchedule) :
    Follows (Function.update said taskId none)
      (Function.update actual taskId (some schedule)) := by
  have hforget := (h.given taskId schedule).forget taskId
  rwa [Function.update_idem] at hforget

end Follows

/-- The log accounts for the schedules: the last one that a task was given is the one it has,
and an outcome is written into what an upsert left. -/
structure Accounted (v : Shared system ι) : Prop where
  unique : UniqueTasks v.state.db
  given : Follows (lastGiven v.log) (scheduleOf v.state.db)
  upserted : Follows (upsertedDuringRun v.log) (scheduleOf v.state.db)
  outcomes : OutcomesAfterUpserts (fun run upserted => run.written = scheduleAfter run upserted)
    v.log

theorem lastGiven_concat (log : List (ι × Event)) (i : ι) (e : Event) :
    lastGiven (log ++ [(i, e)]) = observeGiven (lastGiven log) e := by
  unfold lastGiven
  rw [List.map_append, watch_append]
  rfl

theorem upsertedDuringRun_concat (log : List (ι × Event)) (i : ι) (e : Event) :
    upsertedDuringRun (log ++ [(i, e)]) = observeUpserted (upsertedDuringRun log) e := by
  unfold upsertedDuringRun
  rw [List.map_append, watch_append]
  rfl

/-- An outcome finds what the log says of its task. -/
theorem OutcomesAfterUpserts.concat {holds : RecordedTaskRun → TaskSchedule → Prop}
    {log : List (ι × Event)} {i : ι} {e : Event} (h : OutcomesAfterUpserts holds log)
    (hlast : ∀ run, e = .taskRunRecorded run → ∀ upserted,
      upsertedDuringRun log run.taskId = some upserted → holds run upserted) :
    OutcomesAfterUpserts holds (log ++ [(i, e)]) := by
  intro j run before after hlog upserted hupserted
  rcases split_concat hlog with ⟨after', hold⟩ | ⟨rfl, hentry⟩
  · exact h j run before after' hold upserted hupserted
  · obtain ⟨-, rfl⟩ := Prod.mk.inj hentry
    exact hlast run rfl upserted hupserted

/-- An action with one event keeps the account when the event says what happened. -/
theorem Accounted.event {v : Shared system ι} (h : Accounted v) {i : ι} {w : World} {e : Event}
    (unique : UniqueTasks w.db)
    (given : Follows (observeGiven (lastGiven v.log) e) (scheduleOf w.db))
    (upserted : Follows (observeUpserted (upsertedDuringRun v.log) e) (scheduleOf w.db))
    (outcome : ∀ run, e = .taskRunRecorded run → ∀ upserted,
      upsertedDuringRun v.log run.taskId = some upserted →
        run.written = scheduleAfter run upserted) :
    Accounted (v.push i w [e]) where
  unique := unique
  given := by
    rw [Shared.push_log, List.map_singleton, lastGiven_concat]
    exact given
  upserted := by
    rw [Shared.push_log, List.map_singleton, upsertedDuringRun_concat]
    exact upserted
  outcomes := h.outcomes.concat outcome

/-- One action keeps the account. -/
theorem Accounted.push {v : Shared system ι} (h : Accounted v) {i : ι} {w : World}
    {events : List Event} (haction : TaskAction v.state.db w.db events) :
    Accounted (v.push i w events) := by
  obtain ⟨hunique, hstep⟩ := haction h.unique
  generalize hafter : scheduleOf w.db = after at hstep
  cases hstep with
  | quiet =>
    have hlog : (v.push i w []).log = v.log := by simp
    refine { unique := hunique, given := ?_, upserted := ?_, outcomes := ?_ }
    · rw [hlog, Shared.push_state, hafter]
      exact h.given
    · rw [hlog, Shared.push_state, hafter]
      exact h.upserted
    · rw [hlog]
      exact h.outcomes
  | claimed taskId executionId =>
    refine h.event hunique ?_ ?_ (by rintro run ⟨⟩)
    · rw [hafter]
      exact h.given
    · rw [hafter]
      exact h.upserted.forget taskId
  | upserted taskId schedule =>
    refine h.event hunique ?_ ?_ (by rintro run ⟨⟩)
    · rw [hafter]
      exact h.given.given taskId schedule
    · rw [hafter]
      exact h.upserted.given taskId schedule
  | recorded run found hfound hwritten =>
    refine h.event hunique ?_ ?_ ?_
    · rw [hafter]
      exact h.given.given run.taskId run.written
    · rw [hafter]
      exact h.upserted.forget_changed run.taskId run.written
    · rintro recorded ⟨⟩ upserted hupserted
      -- The row the outcome is written into is the one the upsert left.
      have hrow := h.upserted run.taskId upserted hupserted
      obtain rfl := Option.some.inj (hfound.symm.trans hrow)
      exact hwritten

/-- One process for each call, all of them at their start. -/
def start (operations : ι → TaskOperation) (w : World) : Config system (fun _ : ι => Unit) where
  threads i := (operations i).program
  shared := { state := w }

/-- In every run of claims, upserts and outcomes, from tasks with identifiers of their own, the
tasks have the schedules the log says they were given last. When the record at hand agreed with
the upsert each time an outcome was written after one, all of these outcomes keep the upsert of
their run; and an outcome keeps it in no other way than by falling on the upserted next run. -/
theorem upsertsKept_of_agreeing [DecidableEq ι] (operations : ι → TaskOperation)
    (answers : Answers system) (w : World) (unique : UniqueTasks w.db)
    {c : Config system fun _ : ι => Unit}
    (reach : Config.Reachable answers (start operations w) c) :
    Follows (lastGiven c.shared.log) (scheduleOf c.shared.state.db) ∧
      (OutcomesAfterUpserts AgreesWithUpsert c.shared.log →
        OutcomesAfterUpserts KeepsUpsert c.shared.log) ∧
      OutcomesAfterUpserts
        (fun run upserted => KeepsUpsert run upserted →
          AgreesWithUpsert run upserted ∨ run.written.nextDueAt = upserted.nextDueAt)
        c.shared.log := by
  have hconfined : (start operations w).Confined fun _ => OnDb TaskAction :=
    fun i => program_confined (operations i)
  have haccounted : Accounted c.shared := by
    refine hconfined.invariant Accounted ?_ (fun v i s es hv haction => hv.push haction.1) reach
    exact
      { unique := unique
        given := by rintro taskId schedule ⟨⟩
        upserted := by rintro taskId schedule ⟨⟩
        outcomes := by
          intro i run before after hlog
          simp [start] at hlog }
  refine ⟨haccounted.given, ?_, ?_⟩
  · intro hagree i run before after hlog upserted hupserted
    apply (hagree i run before after hlog upserted hupserted).keepsUpsert
    exact haccounted.outcomes i run before after hlog upserted hupserted
  · intro i run before after hlog upserted hupserted hkeeps
    apply hkeeps.agrees
    exact haccounted.outcomes i run before after hlog upserted hupserted

/-- A task that is due. -/
def reportTask (taskKey : String) : ScheduledForegroundTaskRecord where
  scheduledForegroundTaskId := 5
  taskKey := taskKey
  status := .active
  internalPrincipalRef := "principal"
  internalConversationRef := "conversation"
  messageText := "Report."
  cadenceSeconds := 3600
  cooldownSeconds := 600
  nextDueAt := 0
  createdBy := "owner"
  updatedBy := "owner"
  createdAt := 0
  updatedAt := 0

def reportDue (taskKey : String) : World :=
  { db := { scheduledForegroundTasks := [reportTask taskKey] } }

/-- The task is to run once more. -/
def reportAgain (taskKey : String) (cadenceSeconds : Nat) : UpsertScheduledForegroundTask where
  taskKey := taskKey
  internalPrincipalRef := "principal"
  internalConversationRef := "conversation"
  messageText := "Report again."
  cadenceSeconds := cadenceSeconds
  cooldownSeconds := none
  nextDueAt := some 100
  status := .active
  actorRef := "owner"

def runAndUpsert (taskKey : String) (cadenceSeconds : Nat) : Bool → TaskOperation
  | false => .run { outcome := .completed, reason := none, summary := none }
  | true => .upsert RuntimeConfig.shipped (reportAgain taskKey cadenceSeconds)

/-- The claim, the upsert, the outcome. -/
def upsertDuringRun : List Bool :=
  List.replicate 16 false ++ List.replicate 4 true ++ List.replicate 4 false

def runWithUpsert (taskKey : String) (cadenceSeconds : Nat) :
    Config system fun _ : Bool => Unit :=
  Config.schedule (steady 20) upsertDuringRun 0
    (start (runAndUpsert taskKey cadenceSeconds) (reportDue taskKey))

theorem reachable_runWithUpsert (taskKey : String) (cadenceSeconds : Nat) :
    Config.Reachable (fun _ _ => True)
      (start (runAndUpsert taskKey cadenceSeconds) (reportDue taskKey))
      (runWithUpsert taskKey cadenceSeconds) :=
  Config.reachable_schedule (fun _ _ => trivial) upsertDuringRun 0 _

/-- What is logged of the run, its upsert and its outcome. -/
def loggedUpsert (cadenceSeconds : Nat) : TaskSchedule where
  status := .active
  cadenceSeconds := cadenceSeconds
  cooldownSeconds := 600
  nextDueAt := 100

def loggedRun (cadenceSeconds : Nat) (oneShot : Bool) : RecordedTaskRun where
  taskId := 5
  executionId := 2
  captured := (reportTask "").schedule
  oneShot := oneShot
  outcome := .completed
  completedAt := 20
  written :=
    { loggedUpsert cadenceSeconds with
        status := if oneShot then .disabled else .active
        nextDueAt := 20 + seconds 3600 }

/-- A recurring task that is put on again with the cadence it has: the outcome of the run
keeps the upsert. -/
theorem upsertsKept_of_agreeing_dailyReport :
    Follows (lastGiven (runWithUpsert "daily_report" 3600).shared.log)
        (scheduleOf (runWithUpsert "daily_report" 3600).shared.state.db) ∧
      upsertedDuringRun (runWithUpsert "daily_report" 3600).shared.log.dropLast 5 =
        some (loggedUpsert 3600) ∧
      OutcomesAfterUpserts KeepsUpsert (runWithUpsert "daily_report" 3600).shared.log := by
  have hlog : (runWithUpsert "daily_report" 3600).shared.log =
      [(false, .taskClaimed 5 2)] ++ [(true, .taskUpserted 5 (loggedUpsert 3600))] ++
        [(false, .taskRunRecorded (loggedRun 3600 false))] := by
    decide +kernel
  have hkept := upsertsKept_of_agreeing (runAndUpsert "daily_report" 3600) (fun _ _ => True)
    (reportDue "daily_report") (List.nodup_singleton _) (reachable_runWithUpsert "daily_report" 3600)
  refine ⟨hkept.1, ?_, hkept.2.1 ?_⟩
  · rw [hlog]
    decide
  · rw [hlog]
    show OutcomesAfterUpserts _ ([] ++ [(false, _)] ++ [(true, _)] ++ [(false, _)])
    refine ((OutcomesAfterUpserts.concat ?_ ?_).concat ?_).concat ?_
    · intro i run before after hnil
      simp at hnil
    · rintro run ⟨⟩
    · rintro run ⟨⟩
    · rintro run ⟨⟩ upserted hupserted
      obtain rfl := Option.some.inj hupserted
      exact { oneShot := by rintro ⟨⟩, interval := rfl }

/-- A one-shot task that is armed again while it runs is disabled when the run is over, and its
next run is the one of the claimed schedule. -/
theorem rearmed_task_disabled :
    ∃ c, Config.Reachable (fun _ _ => True)
        (start (runAndUpsert "oneoff_report" 7200) (reportDue "oneoff_report")) c ∧
      UniqueTasks (reportDue "oneoff_report").db ∧
      upsertedDuringRun c.shared.log.dropLast 5 =
        some { status := .active, cadenceSeconds := 7200, cooldownSeconds := 600,
               nextDueAt := 100 } ∧
      scheduleOf c.shared.state.db 5 =
        some { status := .disabled, cadenceSeconds := 7200, cooldownSeconds := 600,
               nextDueAt := 20 + seconds 3600 } ∧
      ¬ OutcomesAfterUpserts KeepsUpsert c.shared.log := by
  refine ⟨_, reachable_runWithUpsert "oneoff_report" 7200, List.nodup_singleton _, ?_⟩
  have hlog : (runWithUpsert "oneoff_report" 7200).shared.log =
      [(false, .taskClaimed 5 2)] ++ [(true, .taskUpserted 5 (loggedUpsert 7200))] ++
        [(false, .taskRunRecorded (loggedRun 7200 true))] := by
    decide +kernel
  refine ⟨?_, by decide +kernel, fun hkept => ?_⟩
  · rw [hlog]
    decide
  · have hstatus := (hkept _ _ _ [] hlog _ rfl).status
    cases hstatus

end ScheduledForeground

end BlueLagoon
