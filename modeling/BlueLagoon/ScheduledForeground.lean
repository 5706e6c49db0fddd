import BlueLagoon.Chrono
import BlueLagoon.Intake

/-!
# Scheduled foreground tasks

A task that is due is claimed by an execution, which gets an ingress event of its own. When the
execution is over, its outcome is written into the task, with the time of the next run. Tasks
are inserted and updated under their key, also while they run.
-/

namespace BlueLagoon

open Interleaving Harness

structure UpsertScheduledForegroundTask where
  taskKey : String
  internalPrincipalRef : String
  internalConversationRef : String
  messageText : String
  cadenceSeconds : Nat
  cooldownSeconds : Option Nat
  nextDueAt : Option DateTime
  status : ScheduledForegroundTaskStatus
  actorRef : String

inductive ScheduledForegroundTaskWriteAction
  | created
  | updated
  deriving DecidableEq, Repr

structure TaskRunOutcomeData where
  outcome : ScheduledForegroundLastOutcome
  reason : Option String
  summary : Option String

structure ScheduledForegroundTaskWriteResult where
  action : ScheduledForegroundTaskWriteAction
  record : ScheduledForegroundTaskRecord

structure ClaimedScheduledForegroundTask where
  task : ScheduledForegroundTaskRecord
  ingress : Option NormalizedIngress

structure RecoverableScheduledForegroundTask where
  task : ScheduledForegroundTaskRecord
  executionStatus : String
  ingressId : Option Uuid

namespace ScheduledForeground

/-! ## Upserts -/

/-- `is_one_shot_task_key`. -/
def isOneShotTaskKey (taskKey : String) : Bool :=
  let normalized := Text.toAsciiLowercase (Text.trim taskKey)
  Text.startsWith normalized "oneoff_" || Text.startsWith normalized "one_shot_"

/-- `validate_upsert_request`. -/
def validateUpsertRequest (config : RuntimeConfig) (request : UpsertScheduledForegroundTask) :
    Except ErrorChain Unit :=
  if Text.isBlank request.taskKey then
    .error ["scheduled foreground task key must not be empty"]
  else if Text.isBlank request.actorRef then
    .error ["scheduled foreground actor_ref must not be empty"]
  else if Text.isBlank request.internalPrincipalRef then
    .error ["scheduled foreground internal_principal_ref must not be empty"]
  else if Text.isBlank request.internalConversationRef then
    .error ["scheduled foreground internal_conversation_ref must not be empty"]
  else if Text.isBlank request.messageText then
    .error ["scheduled foreground message_text must not be empty"]
  else if request.cadenceSeconds = 0 && !isOneShotTaskKey request.taskKey then
    .error ["scheduled foreground cadence_seconds must be greater than zero unless task_key uses the one-shot prefix"]
  else if request.cadenceSeconds > 0 &&
      request.cadenceSeconds < config.scheduledForeground.minCadenceSeconds then
    .error [s!"scheduled foreground cadence_seconds must be at least {config.scheduledForeground.minCadenceSeconds}"]
  else if request.cooldownSeconds = some 0 then
    .error ["scheduled foreground cooldown_seconds must be greater than zero"]
  else .ok ()

/-- `stored_cadence_seconds`. -/
def storedCadenceSeconds (config : RuntimeConfig) (request : UpsertScheduledForegroundTask) : Nat :=
  if request.cadenceSeconds = 0 && isOneShotTaskKey request.taskKey then
    config.scheduledForeground.minCadenceSeconds
  else request.cadenceSeconds

/-- `get_task_by_key`. -/
def getTaskByKey (taskKey : String) : Harness (Option ScheduledForegroundTaskRecord) :=
  fetch s!"failed to load scheduled foreground task '{taskKey}'" fun db =>
    Table.find ScheduledForegroundTaskRecord.taskKey taskKey db.scheduledForegroundTasks

/-- The row of a new task. -/
def taskRow (now : DateTime) (taskId : Uuid) (request : UpsertScheduledForegroundTask)
    (schedule : TaskSchedule) : ScheduledForegroundTaskRecord where
  scheduledForegroundTaskId := taskId
  taskKey := Text.trim request.taskKey
  status := schedule.status
  internalPrincipalRef := Text.trim request.internalPrincipalRef
  internalConversationRef := Text.trim request.internalConversationRef
  messageText := Text.trim request.messageText
  cadenceSeconds := schedule.cadenceSeconds
  cooldownSeconds := schedule.cooldownSeconds
  nextDueAt := schedule.nextDueAt
  createdBy := Text.trim request.actorRef
  updatedBy := Text.trim request.actorRef
  createdAt := now
  updatedAt := now

/-- `i64::try_from(..).context(..)`. -/
def tryI64 (message : String) (value : Nat) : Except ErrorChain Int :=
  match toI64 value with
  | some converted => .ok converted
  | none => .error [message, "out of range integral type conversion attempted"]

/-- `.unwrap_or_else(Utc::now)`. -/
def orNow : Option DateTime → Harness DateTime
  | some at_ => pure at_
  | none => utcNow

/-- `insert_task`. -/
def insertTask (config : RuntimeConfig) (request : UpsertScheduledForegroundTask) :
    Harness ScheduledForegroundTaskRecord := do
  let cooldownSeconds :=
    request.cooldownSeconds.getD config.scheduledForeground.defaultCooldownSeconds
  let cadenceSeconds := storedCadenceSeconds config request
  let nextDueAt ← orNow request.nextDueAt
  let taskId ← newUuid
  let _ ← Prog.ofExcept (tryI64 "cadence_seconds exceeds i64" cadenceSeconds)
  let _ ← Prog.ofExcept (tryI64 "cooldown_seconds exceeds i64" cooldownSeconds)
  let schedule : TaskSchedule :=
    { status := request.status
      cadenceSeconds := cadenceSeconds
      cooldownSeconds := cooldownSeconds
      nextDueAt := nextDueAt }
  execute "failed to insert scheduled foreground task" fun now db =>
    let row := taskRow now taskId request schedule
    match (db.scheduledForegroundTaskViolation row).or
        (if db.scheduledForegroundTasks.all fun other =>
            other.scheduledForegroundTaskId ≠ taskId then none
          else some "scheduled_foreground_tasks_pkey") with
    | some constraint => .error constraint
    | none =>
      .ok { value := row
            db := { db with scheduledForegroundTasks := db.scheduledForegroundTasks ++ [row] }
            events := [.taskUpserted taskId schedule] }

/-- `UPDATE scheduled_foreground_tasks .. RETURNING ..` of the row with an identifier; nothing
when no row is selected. -/
def changeTask (taskId : Uuid) (which : ScheduledForegroundTaskRecord → Bool)
    (change : ScheduledForegroundTaskRecord → ScheduledForegroundTaskRecord)
    (event : ScheduledForegroundTaskRecord → Event) (db : Database) :
    Except String (Effect (Option ScheduledForegroundTaskRecord)) :=
  match db.scheduledForegroundTasks.find? fun row =>
      row.scheduledForegroundTaskId = taskId && which row with
  | none => .ok { value := none, db := db }
  | some row =>
    match db.scheduledForegroundTaskViolation (change row) with
    | some constraint => .error constraint
    | none =>
      .ok { value := some (change row)
            db :=
              { db with
                scheduledForegroundTasks :=
                  Table.update (fun row => row.scheduledForegroundTaskId = taskId && which row)
                    change db.scheduledForegroundTasks }
            events := [event (change row)] }

/-- The row of a task once it is updated. -/
def taskUpdated (now : DateTime) (request : UpsertScheduledForegroundTask)
    (schedule : TaskSchedule) (row : ScheduledForegroundTaskRecord) :
    ScheduledForegroundTaskRecord :=
  { row with
      status := schedule.status
      internalPrincipalRef := Text.trim request.internalPrincipalRef
      internalConversationRef := Text.trim request.internalConversationRef
      messageText := Text.trim request.messageText
      cadenceSeconds := schedule.cadenceSeconds
      cooldownSeconds := schedule.cooldownSeconds
      nextDueAt := schedule.nextDueAt
      updatedBy := Text.trim request.actorRef
      updatedAt := now }

/-- `update_task`: what the request leaves open is taken from the record that was read. -/
def updateTask (config : RuntimeConfig) (existing : ScheduledForegroundTaskRecord)
    (request : UpsertScheduledForegroundTask) : Harness ScheduledForegroundTaskRecord := do
  let schedule : TaskSchedule :=
    { status := request.status
      cadenceSeconds := storedCadenceSeconds config request
      cooldownSeconds := request.cooldownSeconds.getD existing.cooldownSeconds
      nextDueAt := request.nextDueAt.getD existing.nextDueAt }
  let _ ← Prog.ofExcept (tryI64 "cadence_seconds exceeds i64" schedule.cadenceSeconds)
  let _ ← Prog.ofExcept (tryI64 "cooldown_seconds exceeds i64" schedule.cooldownSeconds)
  let message := s!"failed to update scheduled foreground task '{existing.taskKey}'"
  let updated ← execute message fun now db =>
    changeTask existing.scheduledForegroundTaskId (fun _ => true)
      (taskUpdated now request schedule)
      (fun row => .taskUpserted existing.scheduledForegroundTaskId row.schedule) db
  match updated with
  | some record => pure record
  | none =>
    .fail [message, "no rows returned by a query that expected to return at least one row"]

/-- `upsert_task`. -/
def upsertTask (config : RuntimeConfig) (request : UpsertScheduledForegroundTask) :
    Harness ScheduledForegroundTaskWriteResult := do
  Prog.ofExcept (validateUpsertRequest config request)
  let existing ← getTaskByKey request.taskKey
  match existing with
  | some existing => do
    let record ← updateTask config existing request
    pure { action := .updated, record := record }
  | none => do
    let record ← insertTask config request
    pure { action := .created, record := record }

/-! ## Claims -/

/-- `ORDER BY next_due_at ASC, task_key ASC`. -/
def dueBefore (a b : ScheduledForegroundTaskRecord) : Bool :=
  decide (a.nextDueAt < b.nextDueAt) ||
    (decide (a.nextDueAt = b.nextDueAt) && decide (a.taskKey.toList < b.taskKey.toList))

/-- `select_next_due_task_locked`. -/
def selectNextDueTask (claimedAt : DateTime) (db : Database) :
    Option ScheduledForegroundTaskRecord :=
  Table.first dueBefore (db.scheduledForegroundTasks.filter fun row =>
    row.status = .active && row.currentExecutionId.isNone && decide (row.nextDueAt ≤ claimedAt))

/-- `find_conversation_binding_locked`. -/
def findConversationBinding (internalConversationRef : String) (db : Database) :
    Option ConversationBindingRecord :=
  db.conversationBindings.find? fun row => row.internalConversationRef = internalConversationRef

/-- `build_scheduled_task_ingress`. -/
def buildScheduledTaskIngress (ingressId : Uuid) (task : ScheduledForegroundTaskRecord)
    (binding : ConversationBindingRecord) (executionId : Uuid) (occurredAt : DateTime) :
    NormalizedIngress where
  ingressId := ingressId
  channelKind := .telegram
  externalUserId := binding.externalUserId
  externalConversationId := binding.externalConversationId
  externalEventId := s!"scheduled-task:{task.taskKey}:{executionId}"
  externalMessageId := none
  internalPrincipalRef := task.internalPrincipalRef
  internalConversationRef := task.internalConversationRef
  eventKind := .messageCreated
  occurredAt := occurredAt
  textBody := some task.messageText
  commandHint := none
  approvalPayload := none
  rawPayloadRef := some s!"scheduled_foreground_task:{task.scheduledForegroundTaskId}"

/-- The identifiers a claim gives out. -/
structure ClaimIds where
  executionLink : Uuid
  ingress : Uuid
  stagedLink : Uuid
  ingressLink : Uuid

/-- The execution record of a claim. -/
def claimExecution (executionId traceId : Uuid) (task : ScheduledForegroundTaskRecord) :
    NewExecutionRecord where
  executionId := executionId
  traceId := traceId
  triggerKind := "scheduled_foreground"
  syntheticTrigger := none
  status := "started"
  requestPayload := .obj
    [("kind", .str "scheduled_foreground"),
     ("scheduled_foreground_task_id", .uuid task.scheduledForegroundTaskId),
     ("task_key", .str task.taskKey),
     ("internal_principal_ref", .str task.internalPrincipalRef),
     ("internal_conversation_ref", .str task.internalConversationRef)]

/-- The part of a claim that gives the execution its ingress event, when the conversation is
bound. -/
def stageClaimIngress (executionId traceId : Uuid) (claimedAt : DateTime) (ids : ClaimIds)
    (task : ScheduledForegroundTaskRecord) (now : DateTime) (db : Database) :
    Except ErrorChain (Option NormalizedIngress × Database) :=
  match findConversationBinding task.internalConversationRef db with
  | none => .ok (none, db)
  | some binding =>
    let ingress := buildScheduledTaskIngress ids.ingress task binding executionId claimedAt
    match Foreground.insertIngressEvent
        { ingress := ingress
          conversationBindingId := some binding.conversationBindingId
          traceId := traceId
          executionId := some executionId
          status := "accepted"
          rejectionReason := none } now db with
    | .error e =>
      .error (s!"failed to insert synthetic ingress event for scheduled foreground task '{task.taskKey}'" :: e)
    | .ok stored =>
      let processing :=
        Foreground.setForegroundState ids.ingress (some executionId) "processing" now stored
      let staged := CausalLinks.add ids.stagedLink
        { traceId := traceId
          sourceKind := "scheduled_foreground_task"
          sourceId := task.scheduledForegroundTaskId
          targetKind := "ingress_event"
          targetId := ids.ingress
          edgeKind := "staged_foreground_trigger"
          payload := .obj
            [("task_key", .str task.taskKey),
             ("external_event_id", .str ingress.externalEventId)] } processing
      .ok (some ingress, CausalLinks.add ids.ingressLink
        { traceId := traceId
          sourceKind := "ingress_event"
          sourceId := ids.ingress
          targetKind := "execution_record"
          targetId := executionId
          edgeKind := "triggered_execution"
          payload := .obj
            [("link_role", .str "scheduled_task"), ("task_key", .str task.taskKey)] } staged)

/-- The row of a task once an execution runs it. -/
def taskClaimed (now : DateTime) (executionId : Uuid) (claimedAt : DateTime)
    (row : ScheduledForegroundTaskRecord) : ScheduledForegroundTaskRecord :=
  { row with
      currentExecutionId := some executionId
      currentRunStartedAt := some claimedAt
      updatedAt := now }

/-- The transaction of `claim_next_due_task`. -/
def claimDueTask (executionId traceId : Uuid) (claimedAt : DateTime) (ids : ClaimIds)
    (now : DateTime) (db : Database) :
    Except ErrorChain (Effect (Option ClaimedScheduledForegroundTask)) :=
  match selectNextDueTask claimedAt db with
  | none => .ok { value := none, db := db }
  | some task =>
    let execution := Execution.row now (claimExecution executionId traceId task)
    match db.executionRecordViolation execution with
    | some constraint =>
      .error ["failed to insert execution record for scheduled foreground task claim",
        "failed to insert execution record", constraint]
    | none =>
      let started := { db with executionRecords := db.executionRecords ++ [execution] }
      let linked := CausalLinks.add ids.executionLink
        { traceId := traceId
          sourceKind := "scheduled_foreground_task"
          sourceId := task.scheduledForegroundTaskId
          targetKind := "execution_record"
          targetId := executionId
          edgeKind := "triggered_execution"
          payload := .obj
            [("task_key", .str task.taskKey),
             ("trigger_kind", .str "scheduled_foreground"),
             ("claimed_at", .time claimedAt)] } started
      match stageClaimIngress executionId traceId claimedAt ids task now linked with
      | .error e => .error e
      | .ok (ingress, staged) =>
        match changeTask task.scheduledForegroundTaskId (fun _ => true)
            (taskClaimed now executionId claimedAt)
            (fun row => .taskClaimed row.scheduledForegroundTaskId executionId) staged with
        | .error constraint =>
          .error [s!"failed to mark scheduled foreground task '{task.taskKey}' as in-progress",
            constraint]
        | .ok effect =>
          match effect.value with
          | none =>
            .error [s!"failed to mark scheduled foreground task '{task.taskKey}' as in-progress",
              "no rows returned by a query that expected to return at least one row"]
          | some task =>
            .ok { value := some { task := task, ingress := ingress }
                  db := effect.db
                  events := effect.events }

/-- `claim_next_due_task`. -/
def claimNextDueTask (executionId traceId : Uuid) (claimedAt : DateTime) :
    Harness (Option ClaimedScheduledForegroundTask) := do
  let executionLink ← newUuid
  let ingress ← newUuid
  let stagedLink ← newUuid
  let ingressLink ← newUuid
  transaction "failed to begin scheduled foreground claim transaction"
    (claimDueTask executionId traceId claimedAt
      { executionLink := executionLink
        ingress := ingress
        stagedLink := stagedLink
        ingressLink := ingressLink })

/-! ## Outcomes -/

/-- The row of a task once the outcome of its run is written. -/
def taskRunWritten (now : DateTime) (executionId : Uuid) (completedAt : DateTime)
    (data : TaskRunOutcomeData) (nextDueAt : DateTime) (oneShot : Bool)
    (row : ScheduledForegroundTaskRecord) : ScheduledForegroundTaskRecord :=
  { row with
      currentExecutionId := none
      currentRunStartedAt := none
      status := if oneShot then .disabled else row.status
      lastExecutionId := some executionId
      lastRunStartedAt := some (row.currentRunStartedAt.getD completedAt)
      lastRunCompletedAt := some completedAt
      lastOutcome := some data.outcome
      lastOutcomeReason := data.reason
      lastOutcomeSummary := data.summary
      nextDueAt := nextDueAt
      updatedAt := now }

/-- `update_task_run_outcome`. -/
def updateTaskRunOutcome (task : ScheduledForegroundTaskRecord) (executionId : Uuid)
    (completedAt : DateTime) (data : TaskRunOutcomeData) (nextDueAt : DateTime) :
    Harness ScheduledForegroundTaskRecord := do
  let oneShot := isOneShotTaskKey task.taskKey
  let updated ← execute s!"failed to update scheduled foreground task '{task.taskKey}' run outcome"
    fun now db =>
      changeTask task.scheduledForegroundTaskId
        (fun row => row.currentExecutionId = some executionId)
        (taskRunWritten now executionId completedAt data nextDueAt oneShot)
        (fun row => .taskRunRecorded
          { taskId := task.scheduledForegroundTaskId
            executionId := executionId
            captured := task.schedule
            oneShot := oneShot
            outcome := data.outcome
            completedAt := completedAt
            written := row.schedule }) db
  expect s!"scheduled foreground task '{task.taskKey}' was no longer owned by execution {executionId}"
    updated

/-- The interval after which a task runs again. -/
def intervalSeconds (schedule : TaskSchedule) : ScheduledForegroundLastOutcome → Nat
  | .completed => schedule.cadenceSeconds
  | .suppressed | .failed => schedule.cooldownSeconds

/-- What `mark_task_completed`, `mark_task_suppressed` and `mark_task_failed` have in common:
the next run is an interval of the record at hand away. -/
def recordTaskRun (task : ScheduledForegroundTaskRecord) (executionId : Uuid)
    (completedAt : DateTime) (data : TaskRunOutcomeData) : Harness ScheduledForegroundTaskRecord := do
  let interval ← Prog.ofExcept (tryI64 "scheduled foreground cadence exceeded i64"
    (intervalSeconds task.schedule data.outcome))
  -- `cadence_as_duration` and the sum check nothing more; chrono panics
  let nextDueAt ← Prog.ofExcept (Chrono.addSeconds completedAt interval)
  updateTaskRunOutcome task executionId completedAt data nextDueAt

/-- `mark_task_completed`. -/
def markTaskCompleted (task : ScheduledForegroundTaskRecord) (executionId : Uuid)
    (completedAt : DateTime) (summary : String) : Harness ScheduledForegroundTaskRecord :=
  recordTaskRun task executionId completedAt
    { outcome := .completed, reason := none, summary := some summary }

/-- `mark_task_suppressed`. -/
def markTaskSuppressed (task : ScheduledForegroundTaskRecord) (executionId : Uuid)
    (completedAt : DateTime) (reason summary : String) : Harness ScheduledForegroundTaskRecord :=
  recordTaskRun task executionId completedAt
    { outcome := .suppressed, reason := some reason, summary := some summary }

/-- `mark_task_failed`. -/
def markTaskFailed (task : ScheduledForegroundTaskRecord) (executionId : Uuid)
    (completedAt : DateTime) (reason summary : String) : Harness ScheduledForegroundTaskRecord :=
  recordTaskRun task executionId completedAt
    { outcome := .failed, reason := some reason, summary := some summary }

end ScheduledForeground

end BlueLagoon
