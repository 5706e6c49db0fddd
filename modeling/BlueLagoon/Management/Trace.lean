import BlueLagoon.Schema

/-!
# The trace report

`load_trace_report` reads the rows of one trace, table by table, and adds a node for
each. `TraceReportBuilder` keeps one node for each identifier and `finish` puts them in
the order of time. A node carries the text of its row's status: every status column is
text by the time the diagnosis sees it.

Edges and scheduling summaries are left out, as are the payload columns that no function
of the diagnosis reads.
-/

namespace BlueLagoon.Management

/-- What the report takes from libraries: how values are written as text, and read. -/
structure Display where
  /-- `ToString for JsonValue` -/
  json : Json → String
  /-- `ToString for DateTime<Utc>` -/
  time : DateTime → String
  /-- `Uuid::parse_str` -/
  parseUuid : String → Option Uuid

/-! ## Identifiers as text -/

/-- The last `width` hexadecimal digits of a number. -/
def hexDigits : Nat → Nat → List Char
  | 0, _ => []
  | width + 1, n => hexDigits width (n / 16) ++ [Nat.digitChar (n % 16)]

/-- Some of the 32 digits of an identifier. -/
def hexGroup (id : Uuid) (start length : Nat) : List Char :=
  ((hexDigits 32 id).drop start).take length

/-- `Display for Uuid`: the digits in five groups. -/
def uuidText (id : Uuid) : String :=
  String.ofList
    (hexGroup id 0 8 ++ '-' :: (hexGroup id 8 4 ++ '-' :: (hexGroup id 12 4 ++ '-' ::
      (hexGroup id 16 4 ++ '-' :: hexGroup id 20 12))))

/-- `trace_node_id`. -/
def traceNodeId (kind : String) (id : Uuid) : String := kind ++ ":" ++ uuidText id

/-- A missing text is shown as `none`. -/
def noneText (text : Option String) : String := text.getD "none"

/-- A missing token count is shown as `unknown`. -/
def tokensText (tokens : Option Nat) : String := (tokens.map toString).getD "unknown"

/-! ## Nodes -/

structure TraceNode where
  nodeId : String
  nodeKind : String
  sourceId : Uuid
  occurredAt : DateTime
  status : Option String
  title : String
  summary : String
  payload : Json
  relatedIds : List (String × Uuid) := []

structure TraceNote where
  noteKind : String
  message : String
  deriving DecidableEq, Repr

/-- The order of `TraceReportBuilder::finish`: time, kind, identifier. -/
def TraceNode.before (left right : TraceNode) : Prop :=
  left.occurredAt < right.occurredAt ∨
    (left.occurredAt = right.occurredAt ∧
      (left.nodeKind.toList < right.nodeKind.toList ∨
        (left.nodeKind = right.nodeKind ∧ left.nodeId.toList ≤ right.nodeId.toList)))

instance (left right : TraceNode) : Decidable (left.before right) :=
  inferInstanceAs (Decidable (_ ∨ _))

/-- A report: its nodes have different identifiers and stand in the order of `finish`. -/
structure TraceReport where
  traceId : Uuid
  rootExecutionId : Option Uuid
  nodes : List TraceNode
  notes : List TraceNote
  distinct : (nodes.map TraceNode.nodeId).Nodup
  sorted : nodes.Pairwise TraceNode.before

/-! ## The builder -/

structure TraceReportBuilder where
  traceId : Uuid
  rootExecutionId : Option Uuid
  nodes : List TraceNode := []
  notes : List TraceNote := []
  distinct : (nodes.map TraceNode.nodeId).Nodup

namespace TraceReportBuilder

def new (traceId : Uuid) (rootExecutionId : Option Uuid) : TraceReportBuilder where
  traceId := traceId
  rootExecutionId := rootExecutionId
  nodes := []
  distinct := List.nodup_nil

/-- `add_node`: a node whose identifier is there already is dropped. -/
def addNode (builder : TraceReportBuilder) (node : TraceNode) : TraceReportBuilder :=
  if h : node.nodeId ∈ builder.nodes.map TraceNode.nodeId then builder
  else
    { builder with
      nodes := builder.nodes ++ [node]
      distinct := by
        rw [List.map_append, List.map_singleton]
        exact (List.nodup_append_comm.mp (List.nodup_cons.mpr ⟨h, builder.distinct⟩)) }

def addNodes (builder : TraceReportBuilder) (nodes : List TraceNode) : TraceReportBuilder :=
  nodes.foldl addNode builder

def addNote (builder : TraceReportBuilder) (note : TraceNote) : TraceReportBuilder :=
  { builder with notes := builder.notes ++ [note] }

theorem before_total (left right : TraceNode) : left.before right ∨ right.before left := by
  unfold TraceNode.before
  rcases lt_trichotomy left.occurredAt right.occurredAt with htime | htime | htime
  · exact Or.inl (Or.inl htime)
  · rcases lt_trichotomy left.nodeKind.toList right.nodeKind.toList with hkind | hkind | hkind
    · exact Or.inl (Or.inr ⟨htime, Or.inl hkind⟩)
    · have hkind' : left.nodeKind = right.nodeKind := String.ext hkind
      rcases le_total left.nodeId.toList right.nodeId.toList with hid | hid
      · exact Or.inl (Or.inr ⟨htime, Or.inr ⟨hkind', hid⟩⟩)
      · exact Or.inr (Or.inr ⟨htime.symm, Or.inr ⟨hkind'.symm, hid⟩⟩)
    · exact Or.inr (Or.inr ⟨htime.symm, Or.inl hkind⟩)
  · exact Or.inr (Or.inl htime)

theorem before_trans {a b c : TraceNode} (hab : a.before b) (hbc : b.before c) : a.before c := by
  unfold TraceNode.before at *
  rcases hab with hab | ⟨hab, hab'⟩
  · refine Or.inl ?_
    rcases hbc with hbc | ⟨hbc, -⟩
    · exact lt_trans hab hbc
    · exact hbc ▸ hab
  · rcases hbc with hbc | ⟨hbc, hbc'⟩
    · exact Or.inl (hab.symm ▸ hbc)
    · refine Or.inr ⟨hab.trans hbc, ?_⟩
      rcases hab' with hab' | ⟨hkind, hab'⟩
      · refine Or.inl ?_
        rcases hbc' with hbc' | ⟨hbc', -⟩
        · exact lt_trans hab' hbc'
        · exact hbc' ▸ hab'
      · rcases hbc' with hbc' | ⟨hkind', hbc'⟩
        · exact Or.inl (hkind ▸ hbc')
        · exact Or.inr ⟨hkind.trans hkind', le_trans hab' hbc'⟩

instance : Std.Total TraceNode.before := ⟨before_total⟩

instance : IsTrans TraceNode TraceNode.before := ⟨fun _ _ _ => before_trans⟩

/-- `finish`. -/
def finish (builder : TraceReportBuilder) : TraceReport where
  traceId := builder.traceId
  rootExecutionId := builder.rootExecutionId
  nodes := builder.nodes.insertionSort TraceNode.before
  notes :=
    if builder.nodes = [] then
      builder.notes ++ [{ noteKind := "empty_trace"
                          message := "No durable records were found for this trace identifier." }]
    else builder.notes
  distinct :=
    ((List.perm_insertionSort TraceNode.before builder.nodes).map TraceNode.nodeId).nodup_iff.mpr
      builder.distinct
  sorted := List.pairwise_insertionSort TraceNode.before builder.nodes

end TraceReportBuilder

/-! ## The rows of a trace

The rows as the queries return them: a column the source reads with `row.get::<String>`
is text. -/

structure EpisodeMessageRow where
  episodeMessageId : Uuid
  episodeId : Uuid
  traceId : Uuid
  executionId : Uuid
  messageOrder : Nat
  messageRole : String
  textBody : Option String
  createdAt : DateTime

structure ModelCallRow where
  modelCallId : Uuid
  traceId : Uuid
  executionId : Option Uuid
  purpose : String
  taskClass : Option String
  provider : String
  model : String
  inputTokens : Option Nat
  outputTokens : Option Nat
  finishReason : Option String
  status : String
  errorSummary : Option String
  startedAt : DateTime

structure BackgroundJobRow where
  backgroundJobId : Uuid
  traceId : Uuid
  jobKind : String
  triggerReasonSummary : String
  status : String
  createdAt : DateTime

structure BackgroundJobRunRow where
  backgroundJobRunId : Uuid
  backgroundJobId : Uuid
  traceId : Uuid
  executionId : Option Uuid
  status : String
  createdAt : DateTime

structure WakeSignalRow where
  wakeSignalId : Uuid
  backgroundJobId : Uuid
  backgroundJobRunId : Option Uuid
  traceId : Uuid
  executionId : Option Uuid
  reasonCode : String
  summary : String
  status : String
  requestedAt : DateTime

structure ScheduledTaskRow where
  scheduledForegroundTaskId : Uuid
  taskKey : String
  status : String
  messageText : String
  currentExecutionId : Option Uuid
  lastExecutionId : Option Uuid
  updatedAt : DateTime

/-- The tables the report reads. Approval requests and governed actions, whose nodes the
diagnosis looks for, have a primary key of 128 bits. -/
structure TraceTables where
  executionRecords : List ExecutionRecord := []
  ingressEvents : List IngressEventRecord := []
  episodes : List EpisodeRecord := []
  episodeMessages : List EpisodeMessageRow := []
  auditEvents : List AuditEvent := []
  modelCallRecords : List ModelCallRow := []
  backgroundJobs : List BackgroundJobRow := []
  backgroundJobRuns : List BackgroundJobRunRow := []
  wakeSignals : List WakeSignalRow := []
  approvalRequests : List ApprovalRequestRecord := []
  governedActionExecutions : List GovernedActionExecutionRecord := []
  scheduledForegroundTasks : List ScheduledTaskRow := []
  causalLinks : List CausalLinkRecord := []
  approvalKeys : (approvalRequests.map ApprovalRequestRecord.approvalRequestId).Nodup
  approvalBits : ∀ row ∈ approvalRequests, row.approvalRequestId < 2 ^ 128

/-- `SELECT .. WHERE trace_id = $1 ORDER BY time ASC, id ASC`. -/
def rowsOfTrace {α : Type} (traceOf : α → Uuid) (timeOf : α → DateTime) (idOf : α → Uuid)
    (traceId : Uuid) (rows : List α) : List α :=
  (rows.filter fun row => traceOf row = traceId).insertionSort fun left right =>
    timeOf left < timeOf right ∨ (timeOf left = timeOf right ∧ idOf left ≤ idOf right)

theorem mem_rowsOfTrace {α : Type} {traceOf : α → Uuid} {timeOf : α → DateTime} {idOf : α → Uuid}
    {traceId : Uuid} {rows : List α} {row : α} :
    row ∈ rowsOfTrace traceOf timeOf idOf traceId rows ↔ row ∈ rows ∧ traceOf row = traceId := by
  rw [rowsOfTrace, List.mem_insertionSort, List.mem_filter, decide_eq_true_eq]

/-! ## The nodes of each table -/

/-- `short_trace_text`. -/
def shortTraceText (text : String) : String :=
  let normalized := " ".intercalate (Text.splitWhitespace text)
  if normalized.toList.length ≤ 240 then normalized
  else String.ofList (normalized.toList.take 240) ++ "..."

/-- `audit_payload_summary`. -/
def auditPayloadSummary (payload : Json) : Option String :=
  (((payload.get "summary").bind Json.asStr).or
    (((payload.get "reason").bind Json.asStr).or
      ((payload.get "reason_code").bind Json.asStr))).map shortTraceText

/-- An optional identifier among the related ones. -/
def relatedId (name : String) (id : Option Uuid) : List (String × Uuid) :=
  id.toList.map fun id => (name, id)

section Nodes

variable (display : Display) (traceId : Uuid) (tables : TraceTables)

/-- `load_trace_execution_nodes`. -/
def executionNodes : List TraceNode :=
  (rowsOfTrace ExecutionRecord.traceId ExecutionRecord.createdAt ExecutionRecord.executionId
      traceId tables.executionRecords).map fun row =>
    { nodeId := traceNodeId "execution" row.executionId
      nodeKind := "execution"
      sourceId := row.executionId
      occurredAt := row.createdAt
      status := some row.status
      title := s!"Execution {row.triggerKind}"
      summary := s!"status={row.status} worker={noneText row.workerKind} completed_at={
        noneText (row.completedAt.map display.time)}"
      payload := .obj
        [("trigger_kind", .str row.triggerKind),
         ("synthetic_trigger", .ofOption .str row.syntheticTrigger),
         ("worker_kind", .ofOption .str row.workerKind),
         ("worker_pid", .ofOption .int row.workerPid),
         ("request_payload", row.requestPayload),
         ("response_payload", .ofOption id row.responsePayload),
         ("updated_at", .time row.updatedAt),
         ("completed_at", .ofOption .time row.completedAt)] }

/-- `load_trace_ingress_nodes`. -/
def ingressNodes : List TraceNode :=
  (rowsOfTrace IngressEventRecord.traceId IngressEventRecord.occurredAt
      IngressEventRecord.ingressId traceId tables.ingressEvents).map fun row =>
    { nodeId := traceNodeId "ingress" row.ingressId
      nodeKind := "ingress"
      sourceId := row.ingressId
      occurredAt := row.occurredAt
      status := some row.status
      title := s!"{row.channelKind.asStr} {row.eventKind.asStr}"
      summary := (row.textBody.map shortTraceText).getD s!"status={row.status}"
      payload := .obj
        [("channel_kind", .str row.channelKind.asStr),
         ("event_kind", .str row.eventKind.asStr),
         ("received_at", .time row.receivedAt),
         ("rejection_reason", .ofOption .str row.rejectionReason),
         ("text_body", .ofOption .str row.textBody)]
      relatedIds := relatedId "execution_id" row.executionId }

/-- `load_trace_episode_nodes`, without the messages. -/
def episodeNodes : List TraceNode :=
  (rowsOfTrace EpisodeRecord.traceId EpisodeRecord.startedAt EpisodeRecord.episodeId
      traceId tables.episodes).map fun row =>
    { nodeId := traceNodeId "episode" row.episodeId
      nodeKind := "episode"
      sourceId := row.episodeId
      occurredAt := row.startedAt
      status := some row.status
      title := "Foreground episode"
      summary := (row.summary.map shortTraceText).getD s!"status={row.status}"
      payload := .obj
        [("execution_id", .uuid row.executionId),
         ("ingress_id", .ofOption .uuid row.ingressId),
         ("trigger_kind", .str row.triggerKind),
         ("trigger_source", .str row.triggerSource),
         ("completed_at", .ofOption .time row.completedAt),
         ("outcome", .ofOption .str row.outcome),
         ("summary", .ofOption .str row.summary)]
      relatedIds :=
        ("execution_id", row.executionId) :: relatedId "ingress_id" row.ingressId }

/-- `load_trace_episode_message_nodes`. -/
def episodeMessageNodes : List TraceNode :=
  (rowsOfTrace EpisodeMessageRow.traceId EpisodeMessageRow.createdAt
      EpisodeMessageRow.messageOrder traceId tables.episodeMessages).map fun row =>
    { nodeId := traceNodeId "episode_message" row.episodeMessageId
      nodeKind := "episode_message"
      sourceId := row.episodeMessageId
      occurredAt := row.createdAt
      status := none
      title := s!"Episode message {row.messageRole}"
      summary := (row.textBody.map shortTraceText).getD "no text body"
      payload := .obj
        [("episode_id", .uuid row.episodeId),
         ("execution_id", .uuid row.executionId),
         ("message_order", .int row.messageOrder),
         ("message_role", .str row.messageRole),
         ("text_body", .ofOption .str row.textBody)]
      relatedIds := [("episode_id", row.episodeId), ("execution_id", row.executionId)] }

/-- `load_trace_audit_nodes`. -/
def auditNodes : List TraceNode :=
  (rowsOfTrace AuditEvent.traceId AuditEvent.occurredAt AuditEvent.eventId
      traceId tables.auditEvents).map fun row =>
    { nodeId := traceNodeId "audit_event" row.eventId
      nodeKind := "audit_event"
      sourceId := row.eventId
      occurredAt := row.occurredAt
      status := some row.severity
      title := s!"{row.subsystem}.{row.eventKind}"
      summary := (auditPayloadSummary row.payload).getD row.severity
      payload := .obj
        [("loop_kind", .str row.loopKind),
         ("subsystem", .str row.subsystem),
         ("event_kind", .str row.eventKind),
         ("severity", .str row.severity),
         ("execution_id", .ofOption .uuid row.executionId),
         ("payload", row.payload)]
      relatedIds := relatedId "execution_id" row.executionId }

/-- `load_trace_model_call_nodes`. -/
def modelCallNodes : List TraceNode :=
  (rowsOfTrace ModelCallRow.traceId ModelCallRow.startedAt ModelCallRow.modelCallId
      traceId tables.modelCallRecords).map fun row =>
    { nodeId := traceNodeId "model_call" row.modelCallId
      nodeKind := "model_call"
      sourceId := row.modelCallId
      occurredAt := row.startedAt
      status := some row.status
      title := s!"Model call {row.purpose}"
      summary := s!"provider={row.provider} model={row.model} task_class={
        noneText row.taskClass} input_tokens={
        tokensText row.inputTokens} output_tokens={
        tokensText row.outputTokens} finish_reason={
        noneText row.finishReason}"
      payload := .obj
        [("trace_id", .uuid row.traceId),
         ("execution_id", .ofOption .uuid row.executionId),
         ("purpose", .str row.purpose),
         ("provider", .str row.provider),
         ("model", .str row.model),
         ("error_summary", .ofOption .str row.errorSummary)]
      relatedIds := relatedId "execution_id" row.executionId }

/-- The jobs of `load_trace_background_nodes`. -/
def backgroundJobNodes : List TraceNode :=
  (rowsOfTrace BackgroundJobRow.traceId BackgroundJobRow.createdAt
      BackgroundJobRow.backgroundJobId traceId tables.backgroundJobs).map fun row =>
    { nodeId := traceNodeId "background_job" row.backgroundJobId
      nodeKind := "background_job"
      sourceId := row.backgroundJobId
      occurredAt := row.createdAt
      status := some row.status
      title := s!"Background job {row.jobKind}"
      summary := row.triggerReasonSummary
      payload := .obj [("job_kind", .str row.jobKind), ("status", .str row.status)] }

/-- The runs of `load_trace_background_nodes`. -/
def backgroundJobRunNodes : List TraceNode :=
  (rowsOfTrace BackgroundJobRunRow.traceId BackgroundJobRunRow.createdAt
      BackgroundJobRunRow.backgroundJobRunId traceId tables.backgroundJobRuns).map fun row =>
    { nodeId := traceNodeId "background_job_run" row.backgroundJobRunId
      nodeKind := "background_job_run"
      sourceId := row.backgroundJobRunId
      occurredAt := row.createdAt
      status := some row.status
      title := "Background job run"
      summary := s!"status={row.status}"
      payload := .obj
        [("background_job_id", .uuid row.backgroundJobId),
         ("execution_id", .ofOption .uuid row.executionId)]
      relatedIds :=
        ("background_job_id", row.backgroundJobId) :: relatedId "execution_id" row.executionId }

/-- `load_trace_wake_signal_nodes`. -/
def wakeSignalNodes : List TraceNode :=
  (rowsOfTrace WakeSignalRow.traceId WakeSignalRow.requestedAt WakeSignalRow.wakeSignalId
      traceId tables.wakeSignals).map fun row =>
    { nodeId := traceNodeId "wake_signal" row.wakeSignalId
      nodeKind := "wake_signal"
      sourceId := row.wakeSignalId
      occurredAt := row.requestedAt
      status := some row.status
      title := s!"Wake signal {row.reasonCode}"
      summary := row.summary
      payload := .obj
        [("background_job_id", .uuid row.backgroundJobId),
         ("background_job_run_id", .ofOption .uuid row.backgroundJobRunId),
         ("execution_id", .ofOption .uuid row.executionId),
         ("reason_code", .str row.reasonCode)]
      relatedIds :=
        ("background_job_id", row.backgroundJobId) ::
          (relatedId "background_job_run_id" row.backgroundJobRunId ++
            relatedId "execution_id" row.executionId) }

/-- `approval_request_status_as_str`. -/
def approvalRequestStatusText : ApprovalRequestStatus → String
  | .pending => "pending"
  | .approved => "approved"
  | .rejected => "rejected"
  | .expired => "expired"
  | .invalidated => "invalidated"

/-- The node of an approval request. -/
def approvalNode (row : ApprovalRequestRecord) : TraceNode where
  nodeId := traceNodeId "approval_request" row.approvalRequestId
  nodeKind := "approval_request"
  sourceId := row.approvalRequestId
  occurredAt := row.requestedAt
  status := some (approvalRequestStatusText row.status)
  title := row.title
  summary := row.consequenceSummary
  payload := .obj
    [("execution_id", .ofOption .uuid row.executionId),
     ("action_proposal_id", .uuid row.actionProposalId),
     ("action_kind", .str row.actionKind.asStr),
     ("risk_tier", .str row.riskTier.asStr),
     ("requested_by", .str row.requestedBy),
     ("expires_at", .time row.expiresAt),
     ("resolved_at", .ofOption .time row.resolvedAt),
     ("resolution_kind", .ofOption (fun kind => .str kind.asStr) row.resolutionKind),
     ("resolved_by", .ofOption .str row.resolvedBy),
     ("resolution_reason", .ofOption .str row.resolutionReason)]
  relatedIds := relatedId "execution_id" row.executionId

/-- `load_trace_approval_nodes`. -/
def approvalNodes : List TraceNode :=
  (rowsOfTrace ApprovalRequestRecord.traceId ApprovalRequestRecord.requestedAt
    ApprovalRequestRecord.approvalRequestId traceId tables.approvalRequests).map approvalNode

/-- `load_trace_governed_action_nodes`. -/
def governedActionNodes : List TraceNode :=
  (rowsOfTrace GovernedActionExecutionRecord.traceId GovernedActionExecutionRecord.createdAt
      GovernedActionExecutionRecord.governedActionExecutionId traceId
      tables.governedActionExecutions).map fun row =>
    { nodeId := traceNodeId "governed_action" row.governedActionExecutionId
      nodeKind := "governed_action"
      sourceId := row.governedActionExecutionId
      occurredAt := row.createdAt
      status := some row.status.asStr
      title := s!"Governed action {row.actionKind.asStr}"
      summary := row.blockedReason.getD s!"status={row.status.asStr}"
      payload := .obj
        [("execution_id", .ofOption .uuid row.executionId),
         ("approval_request_id", .ofOption .uuid row.approvalRequestId),
         ("action_proposal_id", .uuid row.actionProposalId),
         ("action_kind", .str row.actionKind.asStr),
         ("risk_tier", .str row.riskTier.asStr),
         ("blocked_reason", .ofOption .str row.blockedReason),
         ("output_ref", .ofOption .str row.outputRef),
         ("started_at", .ofOption .time row.startedAt),
         ("completed_at", .ofOption .time row.completedAt)]
      relatedIds :=
        relatedId "execution_id" row.executionId ++
          relatedId "approval_request_id" row.approvalRequestId }

/-- The query of `load_trace_scheduled_task_nodes`: the tasks of the trace's executions
and those its causal links name. -/
def scheduledTaskOfTrace (row : ScheduledTaskRow) : Bool :=
  let executionIds :=
    (rowsOfTrace ExecutionRecord.traceId ExecutionRecord.createdAt ExecutionRecord.executionId
      traceId tables.executionRecords).map ExecutionRecord.executionId
  row.currentExecutionId.any (executionIds.contains ·) ||
    row.lastExecutionId.any (executionIds.contains ·) ||
    tables.causalLinks.any fun link =>
      link.traceId = traceId &&
        ((link.targetKind = "scheduled_foreground_task" &&
            link.targetId = row.scheduledForegroundTaskId) ||
          (link.sourceKind = "scheduled_foreground_task" &&
            link.sourceId = row.scheduledForegroundTaskId))

/-- `load_trace_scheduled_task_nodes`. -/
def scheduledTaskNodes : List TraceNode :=
  ((tables.scheduledForegroundTasks.filter (scheduledTaskOfTrace traceId tables)).insertionSort
      fun left right => left.updatedAt < right.updatedAt ∨
        (left.updatedAt = right.updatedAt ∧
          left.scheduledForegroundTaskId ≤ right.scheduledForegroundTaskId)).map fun row =>
    { nodeId := traceNodeId "scheduled_foreground_task" row.scheduledForegroundTaskId
      nodeKind := "scheduled_foreground_task"
      sourceId := row.scheduledForegroundTaskId
      occurredAt := row.updatedAt
      status := some row.status
      title := s!"Scheduled task {row.taskKey}"
      summary := row.messageText
      payload := .obj
        [("task_key", .str row.taskKey),
         ("current_execution_id", .ofOption .uuid row.currentExecutionId),
         ("last_execution_id", .ofOption .uuid row.lastExecutionId)]
      relatedIds :=
        relatedId "current_execution_id" row.currentExecutionId ++
          relatedId "last_execution_id" row.lastExecutionId }

/-- The nodes, in the order `load_trace_report` adds them. -/
def traceNodes : List TraceNode :=
  executionNodes display traceId tables ++ ingressNodes traceId tables ++
    episodeNodes traceId tables ++ episodeMessageNodes traceId tables ++
    auditNodes traceId tables ++ modelCallNodes traceId tables ++
    backgroundJobNodes traceId tables ++ backgroundJobRunNodes traceId tables ++
    wakeSignalNodes traceId tables ++ approvalNodes traceId tables ++
    governedActionNodes traceId tables ++ scheduledTaskNodes traceId tables

end Nodes

/-! ## The report -/

/-- `trace_node_kind_for_causal_kind`. -/
def traceNodeKindForCausalKind : String → Option String
  | "execution_record" => some "execution"
  | "ingress_event" => some "ingress"
  | "episode" => some "episode"
  | "episode_message" => some "episode_message"
  | "audit_event" => some "audit_event"
  | "background_job" => some "background_job"
  | "background_job_run" => some "background_job_run"
  | "wake_signal" => some "wake_signal"
  | "approval_request" => some "approval_request"
  | "governed_action_execution" => some "governed_action"
  | "model_call_record" => some "model_call"
  | "scheduled_foreground_task" => some "scheduled_foreground_task"
  | _ => none

/-- The note of `load_trace_explicit_causal_links` about one link; a link whose source
kind is unknown is passed over before its target is looked at. -/
def causalLinkNote (link : CausalLinkRecord) : Option TraceNote :=
  if traceNodeKindForCausalKind link.sourceKind = none then
    some { noteKind := "unknown_causal_source_kind"
           message := s!"causal link {uuidText link.causalLinkId} used unknown source kind {
             link.sourceKind}" }
  else if traceNodeKindForCausalKind link.targetKind = none then
    some { noteKind := "unknown_causal_target_kind"
           message := s!"causal link {uuidText link.causalLinkId} used unknown target kind {
             link.targetKind}" }
  else none

/-- `resolve_trace_lookup`. -/
def resolveTraceLookup (tables : TraceTables) (traceId executionId : Option Uuid) :
    Except ErrorChain Uuid :=
  let recordTraceId (id : Uuid) : Option Uuid :=
    (Table.find ExecutionRecord.executionId id tables.executionRecords).map ExecutionRecord.traceId
  match traceId, executionId with
  | some traceId, some executionId =>
    match recordTraceId executionId with
    | some found =>
      if found = traceId then .ok traceId
      else
        .error [s!"execution_id {uuidText executionId} belongs to trace_id {
          uuidText found}, not {uuidText traceId}"]
    | none => .error [s!"execution_id {uuidText executionId} was not found"]
  | some traceId, none => .ok traceId
  | none, some executionId =>
    match recordTraceId executionId with
    | some found => .ok found
    | none => .error [s!"execution_id {uuidText executionId} was not found"]
  | none, none => .error ["either trace_id or execution_id is required"]

/-- The report of one trace: what `load_trace_report` builds once the trace is known. -/
def traceReport (display : Display) (tables : TraceTables) (traceId : Uuid)
    (executionId : Option Uuid) : TraceReport :=
  let builder := (TraceReportBuilder.new traceId executionId).addNodes
    (traceNodes display traceId tables)
  let links := tables.causalLinks.filter fun link => link.traceId = traceId
  ((links.filterMap causalLinkNote).foldl TraceReportBuilder.addNote builder).finish

/-- `load_trace_report`. -/
def loadTraceReport (display : Display) (tables : TraceTables) (traceId executionId : Option Uuid) :
    Except ErrorChain TraceReport :=
  (resolveTraceLookup tables traceId executionId).map fun found =>
    traceReport display tables found executionId

/-! ## What the report holds -/

namespace TraceReportBuilder

/-- Adding a node adds no other. -/
theorem mem_addNode {builder : TraceReportBuilder} {node other : TraceNode}
    (h : other ∈ (builder.addNode node).nodes) : other ∈ builder.nodes ∨ other = node := by
  unfold addNode at h
  split at h
  · exact Or.inl h
  · simpa using h

theorem mem_addNodes {builder : TraceReportBuilder} {nodes : List TraceNode} {node : TraceNode}
    (h : node ∈ (builder.addNodes nodes).nodes) : node ∈ builder.nodes ∨ node ∈ nodes := by
  induction nodes generalizing builder with
  | nil => exact Or.inl h
  | cons first rest ih =>
    rcases ih h with hadded | hrest
    · rcases mem_addNode hadded with hbuilder | rfl
      · exact Or.inl hbuilder
      · exact Or.inr List.mem_cons_self
    · exact Or.inr (List.mem_cons_of_mem _ hrest)

theorem subset_addNode (builder : TraceReportBuilder) (node : TraceNode) :
    builder.nodes ⊆ (builder.addNode node).nodes := by
  unfold addNode
  split
  · exact List.Subset.refl _
  · exact List.subset_append_left _ _

theorem subset_addNodes (builder : TraceReportBuilder) (nodes : List TraceNode) :
    builder.nodes ⊆ (builder.addNodes nodes).nodes := by
  induction nodes generalizing builder with
  | nil => exact List.Subset.refl _
  | cons node rest ih => exact List.Subset.trans (builder.subset_addNode node) (ih _)

/-- A node is there in the end unless another with its identifier was added before it. -/
theorem mem_addNodes_of_mem {builder : TraceReportBuilder} {nodes : List TraceNode}
    {node : TraceNode} (hnode : node ∈ nodes)
    (hbuilder : ∀ other ∈ builder.nodes, other.nodeId ≠ node.nodeId)
    (hother : ∀ other ∈ nodes, other.nodeId = node.nodeId → other = node) :
    node ∈ (builder.addNodes nodes).nodes := by
  induction nodes generalizing builder with
  | nil => cases hnode
  | cons first rest ih =>
    by_cases hfirst : first = node
    · subst hfirst
      have hnew : first.nodeId ∉ builder.nodes.map TraceNode.nodeId := by
        rw [List.mem_map]
        rintro ⟨other, hmem, hid⟩
        exact hbuilder other hmem hid
      refine subset_addNodes _ rest ?_
      rw [addNode, dif_neg hnew]
      exact List.mem_append_right _ List.mem_cons_self
    · refine ih ((List.mem_cons.mp hnode).resolve_left fun h => hfirst h.symm) ?_
        fun other hmem => hother other (List.mem_cons_of_mem _ hmem)
      intro other hmem
      rcases mem_addNode hmem with hold | rfl
      · exact hbuilder other hold
      · exact fun hid => hfirst (hother _ List.mem_cons_self hid)

theorem nodes_addNotes (builder : TraceReportBuilder) (notes : List TraceNote) :
    (notes.foldl addNote builder).nodes = builder.nodes := by
  induction notes generalizing builder with
  | nil => rfl
  | cons note rest ih => exact ih _

theorem traceId_addNodes (builder : TraceReportBuilder) (nodes : List TraceNode) :
    (builder.addNodes nodes).traceId = builder.traceId := by
  induction nodes generalizing builder with
  | nil => rfl
  | cons node rest ih =>
    refine (ih (builder.addNode node)).trans ?_
    unfold addNode
    split <;> rfl

theorem traceId_addNotes (builder : TraceReportBuilder) (notes : List TraceNote) :
    (notes.foldl addNote builder).traceId = builder.traceId := by
  induction notes generalizing builder with
  | nil => rfl
  | cons note rest ih => exact ih _

theorem mem_finish {builder : TraceReportBuilder} {node : TraceNode} :
    node ∈ builder.finish.nodes ↔ node ∈ builder.nodes :=
  List.mem_insertionSort _

end TraceReportBuilder

/-! ### Identifiers -/

theorem length_hexDigits (width n : Nat) : (hexDigits width n).length = width := by
  induction width generalizing n with
  | zero => rfl
  | succ width ih => rw [hexDigits, List.length_append, ih]; rfl

/-- `width` digits tell the numbers below `16 ^ width` apart. -/
theorem hexDigits_injective {width m n : Nat} (hm : m < 16 ^ width) (hn : n < 16 ^ width)
    (h : hexDigits width m = hexDigits width n) : m = n := by
  induction width generalizing m n with
  | zero => omega
  | succ width ih =>
    rw [hexDigits, hexDigits] at h
    obtain ⟨hrest, hlast⟩ := List.append_inj' h rfl
    have hdiv : m / 16 = n / 16 := by
      refine ih ?_ ?_ hrest
      · rw [Nat.div_lt_iff_lt_mul (by decide), ← Nat.pow_succ]
        exact hm
      · rw [Nat.div_lt_iff_lt_mul (by decide), ← Nat.pow_succ]
        exact hn
    have hmod : m % 16 = n % 16 := by
      have hdigit : ∀ a < 16, ∀ b < 16, Nat.digitChar a = Nat.digitChar b → a = b := by decide
      exact hdigit _ (Nat.mod_lt _ (by decide)) _ (Nat.mod_lt _ (by decide))
        (List.head_eq_of_cons_eq hlast)
    omega

theorem length_hexGroup (id : Uuid) (start length : Nat) :
    (hexGroup id start length).length = min length (32 - start) := by
  rw [hexGroup, List.length_take, List.length_drop, length_hexDigits]

/-- The groups hold all the digits. -/
theorem hexGroups_eq (id : Uuid) :
    hexGroup id 0 8 ++ (hexGroup id 8 4 ++ (hexGroup id 12 4 ++ (hexGroup id 16 4 ++
      hexGroup id 20 12))) = hexDigits 32 id := by
  have hlast : hexGroup id 20 12 = (hexDigits 32 id).drop 20 :=
    List.take_of_length_le (by rw [List.length_drop, length_hexDigits])
  have hnext : ∀ start, hexGroup id start 4 ++ (hexDigits 32 id).drop (start + 4) =
      (hexDigits 32 id).drop start := by
    intro start
    rw [hexGroup, ← List.drop_drop, List.take_append_drop]
  rw [hlast, hnext, hnext, hnext, hexGroup, List.drop_zero, List.take_append_drop]

/-- Two identifiers of 128 bits with the same text are the same. -/
theorem uuidText_injective {a b : Uuid} (ha : a < 2 ^ 128) (hb : b < 2 ^ 128)
    (h : uuidText a = uuidText b) : a = b := by
  have hlength : ∀ start length,
      (hexGroup a start length).length = (hexGroup b start length).length := by
    intro start length
    rw [length_hexGroup, length_hexGroup]
  obtain ⟨h0, hrest⟩ := List.append_inj (String.ofList_inj.mp h) (hlength 0 8)
  obtain ⟨h8, hrest⟩ := List.append_inj (List.cons.inj hrest).2 (hlength 8 4)
  obtain ⟨h12, hrest⟩ := List.append_inj (List.cons.inj hrest).2 (hlength 12 4)
  obtain ⟨h16, hrest⟩ := List.append_inj (List.cons.inj hrest).2 (hlength 16 4)
  have h20 := (List.cons.inj hrest).2
  have hdigits : hexDigits 32 a = hexDigits 32 b := by
    rw [← hexGroups_eq a, ← hexGroups_eq b, h0, h8, h12, h16, h20]
  exact hexDigits_injective ha hb hdigits

/-- The kind and the identifier of a node's identifier. -/
theorem traceNodeId_inj {kind kind' : String} {a b : Uuid} (hkind : ':' ∉ kind.toList)
    (hkind' : ':' ∉ kind'.toList) (h : traceNodeId kind a = traceNodeId kind' b) :
    kind = kind' ∧ uuidText a = uuidText b := by
  have hsplit : ∀ {kind : String} (id : Uuid), ':' ∉ kind.toList →
      Text.splitOnce ':' (traceNodeId kind id) = some (kind, uuidText id) := by
    intro kind id hfree
    rw [Text.splitOnce_eq_some]
    exact ⟨by simp [traceNodeId, String.toList_append], hfree⟩
  have hpair := (hsplit a hkind).symm.trans ((congrArg _ h).trans (hsplit b hkind'))
  exact Prod.mk.inj (Option.some.inj hpair)

/-! ### The nodes of a trace -/

section Report

variable {display : Display} {tables : TraceTables} {traceId : Uuid} {executionId : Option Uuid}
  {node : TraceNode}

/-- The kinds the loaders write. -/
def tracedKinds : List String :=
  ["execution", "ingress", "episode", "episode_message", "audit_event", "model_call",
   "background_job", "background_job_run", "wake_signal", "approval_request", "governed_action",
   "scheduled_foreground_task"]

/-- A node whose identifier names its kind, one of the traced ones, and its row. -/
def Identified (node : TraceNode) : Prop :=
  node.nodeKind ∈ tracedKinds ∧ node.nodeId = traceNodeId node.nodeKind node.sourceId

theorem identified_of_mem_map {α : Type} {rows : List α} {nodeOf : α → TraceNode} {kind : String}
    (hkind : kind ∈ tracedKinds) (hnode : ∀ row, (nodeOf row).nodeKind = kind ∧
      (nodeOf row).nodeId = traceNodeId kind (nodeOf row).sourceId)
    (h : node ∈ rows.map nodeOf) : Identified node ∧ node.nodeKind = kind := by
  obtain ⟨row, -, rfl⟩ := List.mem_map.mp h
  obtain ⟨hkind', hid⟩ := hnode row
  exact ⟨⟨hkind' ▸ hkind, by rw [hid, hkind']⟩, hkind'⟩

/-- Each loader writes nodes of its own kind. -/
theorem identified_of_mem (h : node ∈ traceNodes display traceId tables) :
    Identified node ∧
      (node.nodeKind = "approval_request" → node ∈ approvalNodes traceId tables) := by
  have hother : ∀ {α : Type} {rows : List α} {nodeOf : α → TraceNode} (kind : String),
      kind ∈ tracedKinds → kind ≠ "approval_request" →
      (∀ row, (nodeOf row).nodeKind = kind ∧
        (nodeOf row).nodeId = traceNodeId kind (nodeOf row).sourceId) →
      node ∈ rows.map nodeOf →
      Identified node ∧
        (node.nodeKind = "approval_request" → node ∈ approvalNodes traceId tables) := by
    intro α rows nodeOf kind hmem hne hnode hnodes
    obtain ⟨hidentified, hkind⟩ := identified_of_mem_map hmem hnode hnodes
    exact ⟨hidentified, fun happroval => absurd (hkind.symm.trans happroval) hne⟩
  simp only [traceNodes, List.mem_append] at h
  rcases h with ((((((((((h | h) | h) | h) | h) | h) | h) | h) | h) | h) | h) | h
  · exact hother "execution" (by decide) (by decide) (fun _ => ⟨rfl, rfl⟩) h
  · exact hother "ingress" (by decide) (by decide) (fun _ => ⟨rfl, rfl⟩) h
  · exact hother "episode" (by decide) (by decide) (fun _ => ⟨rfl, rfl⟩) h
  · exact hother "episode_message" (by decide) (by decide) (fun _ => ⟨rfl, rfl⟩) h
  · exact hother "audit_event" (by decide) (by decide) (fun _ => ⟨rfl, rfl⟩) h
  · exact hother "model_call" (by decide) (by decide) (fun _ => ⟨rfl, rfl⟩) h
  · exact hother "background_job" (by decide) (by decide) (fun _ => ⟨rfl, rfl⟩) h
  · exact hother "background_job_run" (by decide) (by decide) (fun _ => ⟨rfl, rfl⟩) h
  · exact hother "wake_signal" (by decide) (by decide) (fun _ => ⟨rfl, rfl⟩) h
  · have hkind : "approval_request" ∈ tracedKinds := by decide
    exact ⟨(identified_of_mem_map hkind (fun _ => ⟨rfl, rfl⟩) h).1, fun _ => h⟩
  · exact hother "governed_action" (by decide) (by decide) (fun _ => ⟨rfl, rfl⟩) h
  · exact hother "scheduled_foreground_task" (by decide) (by decide) (fun _ => ⟨rfl, rfl⟩) h

theorem traceId_traceReport :
    (traceReport display tables traceId executionId).traceId = traceId :=
  (TraceReportBuilder.traceId_addNotes _ _).trans (TraceReportBuilder.traceId_addNodes _ _)

theorem mem_traceReport (h : node ∈ (traceReport display tables traceId executionId).nodes) :
    node ∈ traceNodes display traceId tables := by
  have hbuilder := TraceReportBuilder.mem_finish.mp h
  rw [TraceReportBuilder.nodes_addNotes] at hbuilder
  rcases TraceReportBuilder.mem_addNodes hbuilder with hnew | hnodes
  · cases hnew
  · exact hnodes

/-- A node of the kind of approval requests is the node of one of the trace's. -/
theorem approval_of_kind (h : node ∈ (traceReport display tables traceId executionId).nodes)
    (hkind : node.nodeKind = "approval_request") :
    ∃ row ∈ tables.approvalRequests, row.traceId = traceId ∧ node = approvalNode row := by
  have hnode := (identified_of_mem (mem_traceReport h)).2 hkind
  obtain ⟨row, hrow, rfl⟩ := List.mem_map.mp hnode
  obtain ⟨hmem, htrace⟩ := mem_rowsOfTrace.mp hrow
  exact ⟨row, hmem, htrace, rfl⟩

theorem colon_free {kind : String} (h : kind ∈ tracedKinds) : ':' ∉ kind.toList := by
  have hall : ∀ kind ∈ tracedKinds, ':' ∉ kind.toList := by decide
  exact hall kind h

/-- No approval request of the trace is missing from its report: no other node has the
identifier of its node. -/
theorem approvalNode_mem_traceReport {row : ApprovalRequestRecord}
    (hrow : row ∈ tables.approvalRequests) (htrace : row.traceId = traceId) :
    approvalNode row ∈ (traceReport display tables traceId executionId).nodes := by
  rw [traceReport, TraceReportBuilder.mem_finish, TraceReportBuilder.nodes_addNotes]
  have hnodes : approvalNode row ∈ approvalNodes traceId tables :=
    List.mem_map_of_mem (mem_rowsOfTrace.mpr ⟨hrow, htrace⟩)
  refine TraceReportBuilder.mem_addNodes_of_mem ?_ (by rintro other ⟨⟩) ?_
  · simp only [traceNodes, List.mem_append]
    exact Or.inl (Or.inl (Or.inr hnodes))
  · intro other hother hid
    obtain ⟨⟨hkind, hotherId⟩, happroval⟩ := identified_of_mem hother
    have hidText : traceNodeId other.nodeKind other.sourceId =
        traceNodeId "approval_request" row.approvalRequestId := hotherId.symm.trans hid
    obtain ⟨hsameKind, htext⟩ := traceNodeId_inj (colon_free hkind) (by decide) hidText
    obtain ⟨row', hrow', rfl⟩ := List.mem_map.mp (happroval hsameKind)
    have hmem' := (mem_rowsOfTrace.mp hrow').1
    have hsameId : row'.approvalRequestId = row.approvalRequestId :=
      uuidText_injective (tables.approvalBits row' hmem') (tables.approvalBits row hrow) htext
    rw [Table.eq_of_mem_of_key tables.approvalKeys hmem' hrow hsameId]

end Report

end BlueLagoon.Management
