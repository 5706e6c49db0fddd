import BlueLagoon.Management.Trace

/-!
# The diagnosis of a trace

`diagnose_trace_report` reads a report and says how the trace ended, what failed first
and whether a retry is safe. Verdict, failure class and the two referenced nodes come
from separate searches over the nodes; each search matches on the texts of kinds and
statuses again.
-/

namespace BlueLagoon.Management

inductive TraceDiagnosisVerdict
  | succeeded
  | failed
  | awaitingApproval
  | blocked
  | inconclusive
  deriving DecidableEq, Repr

inductive TraceFailureClass
  | modelGatewayTransportFailure
  | providerRejected
  | telegramDeliveryFailure
  | persistenceFailure
  | contextAssemblyFailure
  | malformedActionProposal
  | workerProtocolFailure
  | scheduledForegroundValidationFailure
  | approvalPending
  | approvalRejected
  | approvalExpired
  | governedActionBlocked
  | recoveryInterrupted
  | unknownFailure
  deriving DecidableEq, Repr

inductive TraceLikelyCauseKind
  | directFact
  | inference
  deriving DecidableEq, Repr

inductive TraceSideEffectStatus
  | noneExecuted
  | executed
  | possible
  | unknown
  deriving DecidableEq, Repr

inductive TraceUserReplyStatus
  | produced
  | notProduced
  | unknown
  deriving DecidableEq, Repr

inductive TraceRetrySafety
  | safe
  | notSafe
  | requiresOperator
  | unknown
  deriving DecidableEq, Repr

structure TraceNodeReference where
  nodeId : String
  nodeKind : String
  sourceId : Uuid
  occurredAt : DateTime
  status : Option String
  title : String
  summary : String
  deriving DecidableEq, Repr

structure TraceDiagnosisSummary where
  traceId : Uuid
  rootExecutionId : Option Uuid
  verdict : TraceDiagnosisVerdict
  failureClass : Option TraceFailureClass
  firstFailingNode : Option TraceNodeReference
  lastSuccessfulNode : Option TraceNodeReference
  sideEffectStatus : TraceSideEffectStatus
  userReplyStatus : TraceUserReplyStatus
  retrySafety : TraceRetrySafety
  likelyCause : Option String
  likelyCauseKind : Option TraceLikelyCauseKind
  suggestedNextSteps : List String
  notes : List String
  deriving DecidableEq, Repr

/-! ## The searches -/

/-- `trace_node_reference`. -/
def traceNodeReference (node : TraceNode) : TraceNodeReference where
  nodeId := node.nodeId
  nodeKind := node.nodeKind
  sourceId := node.sourceId
  occurredAt := node.occurredAt
  status := node.status
  title := node.title
  summary := node.summary

/-- The status is one of the given texts. -/
def TraceNode.statusIn (node : TraceNode) (statuses : List String) : Bool :=
  node.status.any (statuses.contains ·)

def isPendingApproval (node : TraceNode) : Bool :=
  node.nodeKind = "approval_request" && node.statusIn ["pending"]

def isBlocked (node : TraceNode) : Bool :=
  (node.nodeKind = "governed_action_execution" && node.statusIn ["blocked"]) ||
    (node.nodeKind = "approval_request" && node.statusIn ["rejected", "expired"])

/-- `find_pending_approval_node`. -/
def findPendingApprovalNode (report : TraceReport) : Option TraceNode :=
  report.nodes.find? isPendingApproval

/-- `find_blocked_node`. -/
def findBlockedNode (report : TraceReport) : Option TraceNode :=
  report.nodes.find? isBlocked

/-- `node_is_failure`. -/
def nodeIsFailure (node : TraceNode) : Bool :=
  if node.nodeKind = "audit_event" then node.statusIn ["error", "critical"]
  else node.statusIn ["failed", "blocked", "rejected", "expired", "invalidated"]

/-- `node_is_nonfailing`. -/
def nodeIsNonfailing (node : TraceNode) : Bool :=
  !nodeIsFailure node && !node.statusIn ["pending"]

/-- `trace_failure_priority`. -/
def traceFailurePriority (node : TraceNode) : Nat :=
  if ["model_call", "governed_action_execution", "approval_request"].contains node.nodeKind then 0
  else if node.nodeKind = "audit_event" then 1
  else if ["execution", "episode"].contains node.nodeKind then 2
  else 3

/-- The comparison of `find_first_failing_node`. -/
def failsBefore (left right : TraceNode) : Bool :=
  traceFailurePriority left < traceFailurePriority right ||
    (traceFailurePriority left = traceFailurePriority right &&
      (left.occurredAt < right.occurredAt ||
        (left.occurredAt = right.occurredAt && left.nodeId.toList < right.nodeId.toList)))

/-- `find_first_failing_node`. -/
def findFirstFailingNode (report : TraceReport) : Option TraceNode :=
  Table.first failsBefore (report.nodes.filter nodeIsFailure)

/-- `find_last_nonfailing_before`. -/
def findLastNonfailingBefore (report : TraceReport) (failingNodeId : String) :
    Option TraceNodeReference :=
  (report.nodes.findIdx? fun node => node.nodeId = failingNodeId).bind fun failureIndex =>
    (((report.nodes.take failureIndex).reverse).find? nodeIsNonfailing).map traceNodeReference

/-! ## The failure class -/

section Classes

/-- A string under a key: `get` and `as_str`. -/
def stringAt (key : String) (payload : Json) : Option String :=
  (payload.get key).bind Json.asStr

def persistencePhrases : List String :=
  ["violates check constraint", "failed to insert governed action execution",
   "failed to insert scheduled foreground task", "failed to update scheduled foreground task"]

def validationPhrases : List String :=
  ["scheduled foreground cadence_seconds", "scheduled foreground task key",
   "scheduled foreground message_text"]

def protocolPhrases : List String :=
  ["worker_protocol_phase=", "failed to write worker protocol line", "broken pipe"]

/-- `classify_failure_text`: the first group with a phrase that the text contains. -/
def classifyFailureText (text : String) : Option TraceFailureClass :=
  let holds := Text.contains (Text.toAsciiLowercase text)
  if persistencePhrases.any holds then some .persistenceFailure
  else if validationPhrases.any holds then some .scheduledForegroundValidationFailure
  else if protocolPhrases.any holds then some .workerProtocolFailure
  else none

/-- The class that a `failure_kind` or `reason_code` names. -/
def classOfFailureKind : String → TraceFailureClass
  | "model_gateway_transport_failure" => .modelGatewayTransportFailure
  | "provider_rejected" => .providerRejected
  | "telegram_delivery_failure" => .telegramDeliveryFailure
  | "persistence_failure" => .persistenceFailure
  | "context_assembly_failure" => .contextAssemblyFailure
  | "malformed_action_proposal" => .malformedActionProposal
  | "worker_protocol_failure" => .workerProtocolFailure
  | "scheduled_foreground_validation_failure" => .scheduledForegroundValidationFailure
  | "recovery_interrupted" => .recoveryInterrupted
  | _ => .unknownFailure

variable (display : Display)

/-- `classify_audit_failure`. -/
def classifyAuditFailure (node : TraceNode) : Option TraceFailureClass :=
  (node.payload.get "payload").bind fun payload =>
    (classifyFailureText (node.summary ++ " " ++ display.json payload)).or
      (((stringAt "failure_kind" payload).or (stringAt "reason_code" payload)).map
        classOfFailureKind)

/-- An identifier in a payload: `as_str` and `Uuid::parse_str`. -/
def asUuid : Json → Option Uuid
  | .uuid id => some id
  | .str text => display.parseUuid text
  | _ => none

/-- `classify_failure_from_related_audit`. -/
def classifyFailureFromRelatedAudit (report : TraceReport) (node : TraceNode) :
    Option TraceFailureClass :=
  let executionId := (node.relatedIds.lookup "execution_id").or
    ((node.payload.get "execution_id").bind (asUuid display))
  (report.nodes.filter fun candidate =>
    candidate.nodeKind = "audit_event" && node.occurredAt ≤ candidate.occurredAt &&
      executionId.all fun id => candidate.relatedIds.lookup "execution_id" = some id).findSome?
    (classifyAuditFailure display)

/-- `classify_model_call_failure`. -/
def classifyModelCallFailure (report : TraceReport) (node : TraceNode) :
    Option TraceFailureClass :=
  (classifyFailureFromRelatedAudit display report node).or
    (((stringAt "error_summary" node.payload).map Text.toAsciiLowercase).bind fun summary =>
      if Text.contains summary "timeout" || Text.contains summary "transport" then
        some .modelGatewayTransportFailure
      else if Text.contains summary "status 4" || Text.contains summary "status 5" then
        some .providerRejected
      else if Text.contains summary "persist" || Text.contains summary "database" then
        some .persistenceFailure
      else none)

/-- `classify_trace_failure`. -/
def classifyTraceFailure (report : TraceReport)
    (pendingApproval blockedNode firstFailingNode : Option TraceNode) : Option TraceFailureClass :=
  if pendingApproval.isSome then some .approvalPending
  else
    match blockedNode with
    | some node =>
      if node.status = some "rejected" then some .approvalRejected
      else if node.status = some "expired" then some .approvalExpired
      else some .governedActionBlocked
    | none =>
      firstFailingNode.bind fun node =>
        if node.nodeKind = "model_call" then
          (classifyModelCallFailure display report node).or (some .unknownFailure)
        else if node.nodeKind = "audit_event" then classifyAuditFailure display node
        else if node.nodeKind = "execution" ∨ node.nodeKind = "episode" then
          (classifyFailureFromRelatedAudit display report node).or (some .unknownFailure)
        else if node.nodeKind = "governed_action_execution" then some .governedActionBlocked
        else some .unknownFailure

end Classes

/-! ## Verdict, side effects and retry -/

/-- `Value::is_null`. -/
def isNull : Json → Bool
  | .null => true
  | _ => false

/-- A message of the assistant. -/
def isAssistantMessage (node : TraceNode) : Bool :=
  node.nodeKind = "episode_message" &&
    stringAt "message_role" node.payload = some "assistant"

/-- `derive_trace_verdict`. -/
def deriveTraceVerdict (report : TraceReport) (pendingApproval blockedNode : Option TraceNode)
    (failureClass : Option TraceFailureClass) : TraceDiagnosisVerdict :=
  if pendingApproval.isSome then .awaitingApproval
  else if blockedNode.isSome then .blocked
  else if failureClass.isSome then .failed
  else if (report.nodes.any fun node =>
      node.statusIn ["succeeded", "executed", "resolved", "completed"]) ||
      report.nodes.any isAssistantMessage then .succeeded
  else .inconclusive

/-- `derive_side_effect_status`. -/
def deriveSideEffectStatus (report : TraceReport) : TraceSideEffectStatus :=
  let actions := report.nodes.filter fun node => node.nodeKind = "governed_action_execution"
  if actions = [] then .noneExecuted
  else if actions.any fun node => node.statusIn ["executed"] then .executed
  else if actions.any fun node => node.statusIn ["failed"] ||
      (node.payload.get "started_at").any fun value => !isNull value then .possible
  else if actions.all fun node =>
      node.statusIn ["proposed", "awaiting_approval", "approved", "blocked", "rejected", "expired",
        "invalidated"] then .noneExecuted
  else .unknown

/-- `derive_user_reply_status`. -/
def deriveUserReplyStatus (report : TraceReport) : TraceUserReplyStatus :=
  if report.nodes.any isAssistantMessage then .produced
  else if report.nodes.any fun node => ["execution", "episode", "ingress"].contains node.nodeKind
  then .notProduced
  else .unknown

/-- `derive_retry_safety`. -/
def deriveRetrySafety (verdict : TraceDiagnosisVerdict) (sideEffectStatus : TraceSideEffectStatus)
    (failureClass : Option TraceFailureClass) : TraceRetrySafety :=
  if verdict = .awaitingApproval ∨ failureClass = some .approvalPending ∨
      failureClass = some .approvalRejected ∨ failureClass = some .approvalExpired then
    .requiresOperator
  else
    match sideEffectStatus with
    | .noneExecuted =>
      match verdict with
      | .succeeded => .notSafe
      | .failed | .blocked | .inconclusive => .safe
      | .awaitingApproval => .requiresOperator
    | .executed | .possible => .notSafe
    | .unknown => .unknown

/-! ## What the operator reads -/

/-- `trace_failure_class_label`. -/
def traceFailureClassLabel : TraceFailureClass → String
  | .modelGatewayTransportFailure => "The trace failed at the model gateway transport boundary."
  | .providerRejected => "The model provider rejected or failed the request."
  | .telegramDeliveryFailure => "Delivery back to the conversation channel failed."
  | .persistenceFailure => "Persistence failed during foreground processing."
  | .contextAssemblyFailure => "Foreground context assembly failed before model completion."
  | .malformedActionProposal =>
    "The assistant attempted a governed action but returned an invalid action proposal shape."
  | .workerProtocolFailure =>
    "The worker subprocess protocol failed before a valid final response returned."
  | .scheduledForegroundValidationFailure =>
    "A scheduled foreground action failed validation before execution could complete."
  | .approvalPending => "The foreground turn is waiting on a pending approval request."
  | .approvalRejected => "The required approval was rejected."
  | .approvalExpired => "The required approval expired before execution."
  | .governedActionBlocked => "A governed action was blocked by policy or validation."
  | .recoveryInterrupted => "Recovery interrupted the normal foreground continuation path."
  | .unknownFailure =>
    "The trace contains a failure, but the exact class could not be derived safely."

/-- The text a failing node itself gives as the cause. -/
def statedCause (node : TraceNode) : Option String :=
  if node.nodeKind = "model_call" then stringAt "error_summary" node.payload
  else if node.nodeKind = "audit_event" then
    (node.payload.get "payload").bind (stringAt "error")
  else none

/-- `derive_likely_cause`. -/
def deriveLikelyCause (report : TraceReport) (failureClass : Option TraceFailureClass)
    (pendingApproval blockedNode firstFailingNode : Option TraceNode) :
    Option String × Option TraceLikelyCauseKind :=
  match pendingApproval, blockedNode, firstFailingNode.bind statedCause with
  | some node, _, _ =>
    (some s!"Approval request is pending: {shortTraceText node.summary}", some .directFact)
  | none, some node, _ =>
    let detail := ((stringAt "blocked_reason" node.payload).or
      (stringAt "consequence_summary" node.payload)).getD node.summary
    (some (shortTraceText detail), some .directFact)
  | none, none, some cause => (some (shortTraceText cause), some .directFact)
  | none, none, none =>
    match failureClass with
    | some failureClass =>
      (some (shortTraceText (traceFailureClassLabel failureClass)), some .inference)
    | none =>
      if report.nodes = [] then
        (some "No durable trace records were found for this trace identifier.", some .directFact)
      else (none, none)

/-- The steps of `derive_next_steps` for a failure class. -/
def stepsForClass : Option TraceFailureClass → List String
  | some .modelGatewayTransportFailure =>
    ["Check model gateway and provider availability.",
     "Inspect recent operational diagnostics for repeated transport failures."]
  | some .providerRejected =>
    ["Inspect the failing model-call payload and provider error summary.",
     "Check recent diagnostics for repeated provider rejections."]
  | some .contextAssemblyFailure =>
    ["Inspect the latest foreground context assembly audit events.",
     "Review recent diagnostics for self-model or context assembly issues."]
  | some .malformedActionProposal =>
    ["Inspect the failing worker output and governed-action proposal formatting.",
     "Retry the request only after confirming the assistant produced a valid tagged action block."]
  | some .workerProtocolFailure =>
    ["Inspect the worker protocol phase, child exit status, and stderr excerpt.",
     "Restart or rebuild the worker/runtime if the child exited unexpectedly."]
  | some .scheduledForegroundValidationFailure =>
    ["Inspect the scheduled foreground task payload and one-shot versus recurring schedule shape.",
     "Correct or disable the scheduled foreground task before retrying."]
  | some .governedActionBlocked =>
    ["Inspect the blocked reason and capability scope on the governed action.",
     "Use the governed-action and approval management surfaces before retrying."]
  | some .approvalPending =>
    ["Resolve the pending approval request through the management CLI."]
  | some .approvalRejected | some .approvalExpired =>
    ["Inspect the approval outcome and decide whether a new request is needed."]
  | some .persistenceFailure =>
    ["Inspect recent diagnostics and recovery health for persistence errors."]
  | some .recoveryInterrupted => ["Inspect recovery checkpoints and worker leases before retrying."]
  | some .telegramDeliveryFailure =>
    ["Inspect channel delivery diagnostics before retrying the foreground turn."]
  | some .unknownFailure | none => []

/-- The step of `derive_next_steps` for the retry advice. -/
def stepForRetry : TraceRetrySafety → String
  | .safe => "Retry is safe once the underlying issue is addressed."
  | .notSafe => "Do not retry blindly; the trace may already include side effects."
  | .requiresOperator => "Operator action is required before continuation."
  | .unknown => "Treat retry safety as unknown until the ambiguous state is resolved."

/-- `derive_next_steps`. The retry advice is always a step, so that the source's fallback
for an empty list is never taken. -/
def deriveNextSteps (failureClass : Option TraceFailureClass) (retrySafety : TraceRetrySafety)
    (sideEffectStatus : TraceSideEffectStatus) (awaitingApproval : Bool) : List String :=
  let steps := stepsForClass failureClass
  let steps :=
    if awaitingApproval && !steps.any fun step => Text.contains step "approval" then
      steps ++ ["Resolve the pending approval request before attempting further work."]
    else steps
  let steps := steps ++ [stepForRetry retrySafety]
  if sideEffectStatus = .noneExecuted ∧
      ¬ (steps.any fun step => Text.contains step "Inspect the failing model-call payload") ∧
      failureClass = some .modelGatewayTransportFailure then
    steps ++ ["No governed action side effects executed before the failure."]
  else steps

/-- `diagnose_trace_report`. -/
def diagnoseTraceReport (display : Display) (report : TraceReport) : TraceDiagnosisSummary :=
  let pendingApproval := findPendingApprovalNode report
  let blockedNode := findBlockedNode report
  let firstFailingNode := findFirstFailingNode report
  let primaryFailure :=
    ((pendingApproval.or blockedNode).or firstFailingNode).map traceNodeReference
  let lastSuccessfulNode :=
    (primaryFailure.bind fun failure => findLastNonfailingBefore report failure.nodeId).or
      ((report.nodes.reverse.find? nodeIsNonfailing).map traceNodeReference)
  let failureClass :=
    classifyTraceFailure display report pendingApproval blockedNode firstFailingNode
  let verdict := deriveTraceVerdict report pendingApproval blockedNode failureClass
  let sideEffectStatus := deriveSideEffectStatus report
  let retrySafety := deriveRetrySafety verdict sideEffectStatus failureClass
  let likelyCause :=
    deriveLikelyCause report failureClass pendingApproval blockedNode firstFailingNode
  { traceId := report.traceId
    rootExecutionId := report.rootExecutionId
    verdict := verdict
    failureClass := failureClass
    firstFailingNode := primaryFailure
    lastSuccessfulNode := lastSuccessfulNode
    sideEffectStatus := sideEffectStatus
    userReplyStatus := deriveUserReplyStatus report
    retrySafety := retrySafety
    likelyCause := likelyCause.1
    likelyCauseKind := likelyCause.2
    suggestedNextSteps :=
      deriveNextSteps failureClass retrySafety sideEffectStatus pendingApproval.isSome
    notes :=
      (report.notes.map fun note => s!"{note.noteKind}: {note.message}") ++
        if firstFailingNode.isNone && pendingApproval.isNone && blockedNode.isNone then
          ["No explicit failing node was found in the durable trace."]
        else [] }

end BlueLagoon.Management
