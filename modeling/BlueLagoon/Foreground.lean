import BlueLagoon.Execution

/-!
# Foreground ingress

Accepted ingress events wait in `pending` until an execution is planned for their
conversation; an event whose execution died stays in `processing` until it is stale enough
to be planned again.
-/

namespace BlueLagoon

open Interleaving Harness

inductive ForegroundExecutionDecisionReason
  | singleIngress
  | staleProcessingResume
  | pendingSpanThreshold
  | stalePendingBatch
  | forcedRecovery
  deriving DecidableEq, Repr

/-- `ForegroundExecutionDecisionReason::as_str`. -/
def ForegroundExecutionDecisionReason.asStr : ForegroundExecutionDecisionReason → String
  | singleIngress => "single_ingress"
  | staleProcessingResume => "stale_processing_resume"
  | pendingSpanThreshold => "pending_span_threshold"
  | stalePendingBatch => "stale_pending_batch"
  | forcedRecovery => "forced_recovery"

structure OrderedIngressReference where
  ingressId : Uuid
  externalMessageId : Option String
  occurredAt : DateTime
  textBody : Option String

structure PendingForegroundExecutionPlan where
  mode : ForegroundExecutionMode
  primaryIngress : IngressEventRecord
  interruptedExecutionId : Option Uuid
  orderedIngress : List OrderedIngressReference
  decisionReason : ForegroundExecutionDecisionReason

structure PendingForegroundExecutionDecision where
  mode : ForegroundExecutionMode
  reason : ForegroundExecutionDecisionReason

namespace Foreground

/-! ## The decision -/

/-- When an ingress event was last touched. -/
def touchedAt (ingress : IngressEventRecord) : DateTime :=
  ingress.lastProcessedAt.getD ingress.receivedAt

/-- `signed_duration_since(..).num_seconds().max(0)`. -/
def secondsSince (later earlier : DateTime) : Nat := ((later - earlier).tdiv 1000000).toNat

/-- `evaluate_pending_foreground_execution`: fewer than two events are never recovered. -/
def evaluatePendingForegroundExecution (config : BacklogRecoveryConfig)
    (pending : List IngressEventRecord) (now : DateTime) (forceRecovery : Bool) :
    PendingForegroundExecutionDecision :=
  match pending with
  | [] | [_] => { mode := .singleIngress, reason := .singleIngress }
  | oldest :: rest =>
    let newest := rest.getLastD oldest
    let pendingSpanSeconds := secondsSince newest.occurredAt oldest.occurredAt
    let oldestTouch := (rest.map touchedAt).foldl min (touchedAt oldest)
    let stalePendingAgeSeconds := secondsSince now oldestTouch
    let resumedProcessingExists :=
      pending.any fun ingress => ingress.foregroundStatus = "processing"
    if forceRecovery then { mode := .backlogRecovery, reason := .forcedRecovery }
    else if resumedProcessingExists then
      { mode := .backlogRecovery, reason := .staleProcessingResume }
    else if pending.length ≥ config.pendingMessageCountThreshold ∧
        pendingSpanSeconds ≥ config.pendingMessageSpanSecondsThreshold then
      { mode := .backlogRecovery, reason := .pendingSpanThreshold }
    else if pending.length ≥ config.pendingMessageCountThreshold ∧
        stalePendingAgeSeconds ≥ config.stalePendingIngressAgeSecondsThreshold then
      { mode := .backlogRecovery, reason := .stalePendingBatch }
    else { mode := .singleIngress, reason := .singleIngress }

/-- The events an execution takes on. -/
def selectedIngress (mode : ForegroundExecutionMode) (pending : List IngressEventRecord) :
    List IngressEventRecord :=
  match mode with
  | .singleIngress => pending.take 1
  | .backlogRecovery => pending

/-- The event an execution answers. -/
def primaryIngress (mode : ForegroundExecutionMode) (selected : List IngressEventRecord) :
    Option IngressEventRecord :=
  match mode with
  | .singleIngress => selected.head?
  | .backlogRecovery => selected.getLast?

/-- The execution the first interrupted event belonged to. -/
def interruptedExecutionId (selected : List IngressEventRecord) : Option Uuid :=
  (selected.find? fun ingress => ingress.foregroundStatus = "processing").bind (·.executionId)

/-! ## The store -/

/-- Is the event accepted, and pending or left behind in `processing`? -/
def isRecoverable (staleCutoff : DateTime) (ingress : IngressEventRecord) : Bool :=
  ingress.status = "accepted" &&
    (ingress.foregroundStatus = "pending" ||
      (ingress.foregroundStatus = "processing" && decide (touchedAt ingress ≤ staleCutoff)))

/-- `list_recoverable_ingress_events_for_conversation_locked`. -/
def recoverableIngress (internalConversationRef : String) (staleCutoff : DateTime)
    (limit : Nat) (db : Database) : List IngressEventRecord :=
  ((db.ingressEvents.filter fun ingress =>
      ingress.internalConversationRef = some internalConversationRef &&
        isRecoverable staleCutoff ingress).insertionSort fun a b =>
    a.occurredAt < b.occurredAt ∨
      a.occurredAt = b.occurredAt ∧ a.receivedAt ≤ b.receivedAt).take limit

/-- The row of an event once its foreground status is set. -/
def foregroundStateSet (executionId : Option Uuid) (foregroundStatus : String) (now : DateTime)
    (row : IngressEventRecord) : IngressEventRecord :=
  { row with
      executionId := executionId.or row.executionId
      foregroundStatus := foregroundStatus
      lastProcessedAt := some now }

/-- `set_ingress_event_foreground_state`. -/
def setForegroundState (ingressId : Uuid) (executionId : Option Uuid)
    (foregroundStatus : String) (now : DateTime) (db : Database) : Database :=
  { db with
    ingressEvents :=
      Table.update (fun row => row.ingressId = ingressId)
        (foregroundStateSet executionId foregroundStatus now) db.ingressEvents }

/-- The execution that is processing an event, if it has not ended. -/
def liveOwner (db : Database) (ingress : IngressEventRecord) : Option Uuid :=
  if ingress.foregroundStatus = "processing" then
    ingress.executionId.filter fun executionId => Execution.Started executionId db
  else none

/-- The executions an event is taken from when its foreground status is set. -/
def takenOver (ingressId : Uuid) (db : Database) : List Event :=
  ((db.ingressEvents.filter fun row => row.ingressId = ingressId).filterMap (liveOwner db)).map
    Event.ingressTakenOver

/-- `mark_ingress_event_processed`. -/
def markIngressEventProcessed (ingressId executionId : Uuid) : Harness Unit :=
  execute "failed to update ingress foreground state" fun now db =>
    .ok
      { value := ()
        db := setForegroundState ingressId (some executionId) "processed" now db
        events := takenOver ingressId db }

/-- `mark_ingress_events_processed`. -/
def markIngressEventsProcessed (ingressIds : List Uuid) (executionId : Uuid) : Harness Unit :=
  Prog.foldlM (fun _ ingressId => markIngressEventProcessed ingressId executionId) () ingressIds

/-! ## Planning -/

def modeStr : ForegroundExecutionMode → String
  | .singleIngress => "single_ingress"
  | .backlogRecovery => "backlog_recovery"

/-- How an event takes part in its execution. -/
def linkRole (ingress primary : IngressEventRecord) : String :=
  if ingress.ingressId = primary.ingressId then "primary" else "batch_member"

/-- One turn of the loop of `plan_pending_foreground_execution`: the event is marked, and
linked to the execution. -/
def planIngress (traceId executionId : Uuid) (mode : ForegroundExecutionMode)
    (primary : IngressEventRecord) (linkIds causalLinkIds : List Uuid) (now : DateTime)
    (db : Database) (entry : IngressEventRecord × Nat) : Except ErrorChain Database :=
  let (ingress, index) := entry
  let db := setForegroundState ingress.ingressId (some executionId) "processing" now db
  let link : ExecutionIngressLinkRecord :=
    { executionIngressLinkId := linkIds.getD index 0
      executionId := executionId
      ingressId := ingress.ingressId
      linkRole := linkRole ingress primary
      sequenceIndex := index
      createdAt := now }
  match db.executionIngressLinkViolation link with
  | some constraint => .error ["failed to insert execution ingress link", constraint]
  | none =>
    .ok (CausalLinks.add (causalLinkIds.getD index 0)
      { traceId := traceId
        sourceKind := "ingress_event"
        sourceId := ingress.ingressId
        targetKind := "execution_record"
        targetId := executionId
        edgeKind := "triggered_execution"
        payload := .obj
          [("link_role", .str (linkRole ingress primary)),
           ("sequence_index", .int index),
           ("planning_mode", .str (modeStr mode))] }
      { db with executionIngressLinks := db.executionIngressLinks ++ [link] })

/-- The identifiers a planning transaction gives out. -/
structure PlanningIds where
  links : List Uuid
  causalLinks : List Uuid
  auditEvent : Uuid

/-- The transaction of `plan_pending_foreground_execution`, at the instant `now_` of its
caller's clock. -/
def planPending (config : BacklogRecoveryConfig) (ids : PlanningIds) (traceId executionId : Uuid)
    (internalConversationRef : String) (forceRecovery : Bool) (now_ : DateTime)
    (now : DateTime) (db : Database) :
    Except ErrorChain (Effect (Option PendingForegroundExecutionPlan)) :=
  let staleCutoff := now_ - seconds config.stalePendingIngressAgeSecondsThreshold
  let pending := recoverableIngress internalConversationRef staleCutoff
    config.maxRecoveryBatchSize db
  let decision := evaluatePendingForegroundExecution config pending now_ forceRecovery
  let selected := selectedIngress decision.mode pending
  let planned := Event.foregroundPlanned executionId (pending.map (·.foregroundStatus))
    (selected.map (·.foregroundStatus))
  match primaryIngress decision.mode selected with
  | none => .ok { value := none, db := db, events := [planned] }
  | some primary =>
    match selected.zipIdx.foldlM
        (planIngress traceId executionId decision.mode primary ids.links ids.causalLinks now)
        db with
    | .error e => .error e
    | .ok marked =>
      .ok
        { value := some
            { mode := decision.mode
              primaryIngress := primary
              interruptedExecutionId := interruptedExecutionId selected
              orderedIngress := selected.map fun ingress =>
                { ingressId := ingress.ingressId
                  externalMessageId := ingress.externalMessageId
                  occurredAt := ingress.occurredAt
                  textBody := ingress.textBody }
              decisionReason := decision.reason }
          db :=
            { marked with
              auditEvents := marked.auditEvents ++
                [Audit.row ids.auditEvent now
                  { loopKind := "conscious"
                    subsystem := "foreground_recovery"
                    eventKind := "foreground_recovery_mode_decided"
                    severity := "info"
                    traceId := traceId
                    executionId := some executionId
                    payload := .obj
                      [("internal_conversation_ref", .str internalConversationRef),
                       ("mode", .str (modeStr decision.mode)),
                       ("decision_reason", .str decision.reason.asStr),
                       ("selected_ingress_ids",
                        .arr (selected.map fun ingress => .uuid ingress.ingressId)),
                       ("primary_ingress_id", .uuid primary.ingressId),
                       ("force_recovery", .bool forceRecovery),
                       ("selected_count", .int selected.length)] }] }
          events := planned :: selected.flatMap fun ingress => takenOver ingress.ingressId db }

/-- `plan_pending_foreground_execution`. -/
def planPendingForegroundExecution (config : RuntimeConfig) (traceId executionId : Uuid)
    (internalConversationRef : String) (forceRecovery : Bool) :
    Harness (Option PendingForegroundExecutionPlan) := do
  let now ← utcNow
  let links ← newUuids config.backlogRecovery.maxRecoveryBatchSize
  let causalLinks ← newUuids config.backlogRecovery.maxRecoveryBatchSize
  let auditEvent ← newUuid
  transaction "failed to start pending foreground execution planning transaction"
    (planPending config.backlogRecovery
      { links := links, causalLinks := causalLinks, auditEvent := auditEvent }
      traceId executionId internalConversationRef forceRecovery now)

/-- `list_recoverable_foreground_conversations`. -/
def listRecoverableForegroundConversations (config : RuntimeConfig) : Harness (List String) := do
  let now ← utcNow
  let staleCutoff := now - seconds config.backlogRecovery.stalePendingIngressAgeSecondsThreshold
  fetch "failed to list recoverable foreground conversations" fun db =>
    ((db.ingressEvents.filter (isRecoverable staleCutoff)).filterMap
      (·.internalConversationRef)).dedup

end Foreground

end BlueLagoon
