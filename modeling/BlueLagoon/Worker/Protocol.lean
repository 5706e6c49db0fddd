import BlueLagoon.Interleaving.Sequential
import BlueLagoon.Worker.ModelGateway
import BlueLagoon.Worker.Response
import BlueLagoon.Worker.Unconscious

/-!
# The worker protocol

The harness talks to a worker subprocess in lines: it writes the request, reads a first
message, makes the model call the worker asks for, writes the answer and reads a final
message. The two launchers are copies of one program; they differ in what they call
themselves, in the gateway entry they use and in the kind of result they expect.
-/

namespace BlueLagoon.Worker

open Interleaving

/-! ## Messages -/

inductive WorkerKind
  | smoke
  | conscious
  | unconscious
  deriving DecidableEq, Repr

/-- The envelope of a request; the payload goes to the worker as it is. -/
structure WorkerRequest where
  requestId : Uuid
  traceId : Uuid
  executionId : Uuid
  sentAt : DateTime
  workerKind : WorkerKind
  payload : Json

structure SmokeWorkerResult where
  status : String
  summary : String
  deriving DecidableEq, Repr

structure UnconsciousWorkerResult where
  summary : String
  canonicalProposals : List CanonicalProposal
  deriving DecidableEq, Repr

inductive WorkerErrorCode
  | invalidRequest
  | invalidModelOutput
  | unsupportedWorker
  | internalFailure
  deriving DecidableEq, Repr

/-- `WorkerErrorCode::as_str`. -/
def WorkerErrorCode.asStr : WorkerErrorCode → String
  | .invalidRequest => "invalid_request"
  | .invalidModelOutput => "invalid_model_output"
  | .unsupportedWorker => "unsupported_worker"
  | .internalFailure => "internal_failure"

structure WorkerFailure where
  code : WorkerErrorCode
  message : String
  deriving DecidableEq, Repr

inductive WorkerResult
  | smoke (result : SmokeWorkerResult)
  | conscious (result : ConsciousWorkerResponse)
  | unconscious (result : UnconsciousWorkerResult)
  | error (failure : WorkerFailure)
  deriving DecidableEq, Repr

structure WorkerResponse where
  requestId : Uuid
  traceId : Uuid
  executionId : Uuid
  finishedAt : DateTime
  workerPid : Nat
  result : WorkerResult
  deriving DecidableEq, Repr

inductive ConsciousWorkerOutboundMessage
  | modelCallRequest (request : ModelCallRequest)
  | finalResponse (response : WorkerResponse)

/-- The JSON readers of the protocol, which are not the harness's own. -/
class ProtocolReaders where
  readMessage : String → Except String ConsciousWorkerOutboundMessage
  readJson : String → Except String Json
  readJson_null : readJson "null" = .ok .null

/-! ## What the launchers see of the world -/

/-- Why a record of a model call could not be kept. -/
structure RecordFailure where
  missingSchema : Bool
  chain : ErrorChain
  deriving DecidableEq, Repr

structure ExitStatus where
  success : Bool
  text : String
  deriving DecidableEq, Repr

/-- Operations awaited under the deadline of a launch. -/
inductive Awaitable
  | writeInitialRequest (request : WorkerRequest)
  | readLine
  | insertPendingModelCallRecord (request : ModelCallRequest) (startedAt : DateTime)
  | sendJson (request : ProviderHttpRequest)
  | markModelCallSucceeded (modelCallId : Uuid) (response : ModelCallResponse)
      (completedAt : DateTime)
  | markModelCallFailed (modelCallId : Uuid) (error : String) (completedAt : DateTime)
  | writeModelResponse (response : ModelCallResponse)
  | waitChild

/-- What an operation comes back with. -/
abbrev Awaitable.Reply : Awaitable → Type
  | .writeInitialRequest _ | .readLine | .markModelCallSucceeded _ _ _
  | .markModelCallFailed _ _ _ | .writeModelResponse _ => Except ErrorChain Unit
  | .insertPendingModelCallRecord _ _ => Except RecordFailure Uuid
  | .sendJson _ => Except ModelGatewayError ProviderHttpResponse
  | .waitChild => Except ErrorChain ExitStatus

inductive ProtocolQuery
  /-- Resolve the command, start the subprocess and take its pipes. -/
  | spawn (subcommand : String)
  | connect
  | utcNow
  /-- The deadline may pass before the operation comes back. -/
  | await (operation : Awaitable)
  /-- Exit status and error output of a worker that broke the protocol, as summaries. -/
  | failureContext
  /-- Kill a worker that has timed out. -/
  | terminate
  | readStderr

inductive ProtocolEvent
  /-- A model call went to the provider. -/
  | modelCallExecuted (request : ModelCallRequest)

inductive ProtocolError
  | deadline
  | failed (chain : ErrorChain)
  deriving DecidableEq, Repr

/-- The lines the worker has printed and the harness has not read yet. -/
structure ProtocolState where
  lines : List String
  deriving DecidableEq, Repr

/-- The vocabulary of a launch. -/
abbrev protocol : Sig where
  State := ProtocolState
  Query := ProtocolQuery
  Answer
    | .spawn _ | .connect | .terminate => Except ErrorChain Unit
    | .utcNow => DateTime
    | .await operation => Option operation.Reply
    | .failureContext => String × String
    | .readStderr => Except ErrorChain String
  Event := ProtocolEvent
  Error := ProtocolError

abbrev Protocol (α : Type) := Prog protocol α

/-- Await an operation, unless the deadline comes first. -/
def await (operation : Awaitable) : Protocol operation.Reply :=
  .ask (.await operation) fun
    | none => .fail .deadline
    | some reply => .ret reply

/-- `?` after `.context(..)`. -/
def context {α : Type} (message : String) : Except ErrorChain α → Protocol α
  | .ok a => .ret a
  | .error chain => .fail (.failed (message :: chain))

/-- The next line of the worker, `none` once it has printed its last. -/
def popLine : Protocol (Option String) :=
  .atomic (fun s => ({ lines := s.lines.tail }, [])) fun s => .ret s.lines.head?

/-! ## One model call -/

section Gateway

variable [readers : ProtocolReaders]

/-- `execute_z_ai_call`. -/
def executeZAiCall (request : ModelCallRequest) (route : ResolvedForegroundModelRouteConfig) :
    Protocol (Except ModelGatewayError ModelCallResponse) := do
  Prog.emit (S := protocol) (.modelCallExecuted request)
  match ← await (.sendJson (zAiHttpRequest request route)) with
  | .error error => return .error error
  | .ok response =>
    if ¬(200 ≤ response.status ∧ response.status < 300) then
      return .error (.providerRejected response.status (providerErrorMessage response.body))
    let now ← Prog.query (S := protocol) .utcNow
    return parseZAiResponse readers.readJson request route now response.body

/-- `execute_model_call_unchecked`. -/
def executeModelCallUnchecked (gateway : ResolvedModelGatewayConfig) (request : ModelCallRequest) :
    Protocol (Except ModelGatewayError ModelCallResponse) :=
  match validateCommonRequest request >>= fun _ => resolveForegroundRoute gateway request with
  | .error error => .ret (.error error)
  | .ok route =>
    match route.provider with
    | .zAi => executeZAiCall request route

/-- `execute_foreground_model_call`. -/
def executeForegroundModelCall (gateway : ResolvedModelGatewayConfig)
    (request : ModelCallRequest) : Protocol (Except ModelGatewayError ModelCallResponse) :=
  match validateForegroundRequest request with
  | .error error => .ret (.error error)
  | .ok () => executeModelCallUnchecked gateway request

/-- `execute_background_model_call`. -/
def executeBackgroundModelCall (gateway : ResolvedModelGatewayConfig)
    (request : ModelCallRequest) : Protocol (Except ModelGatewayError ModelCallResponse) :=
  match validateBackgroundRequest request with
  | .error error => .ret (.error error)
  | .ok () => executeModelCallUnchecked gateway request

end Gateway

/-! ## The launchers -/

/-- The two worker kinds that are launched under this protocol. -/
inductive LaunchedKind
  | conscious
  | unconscious
  deriving DecidableEq, Repr

namespace LaunchedKind

/-- How the messages of a launcher name its worker. -/
def label : LaunchedKind → String
  | conscious => "conscious"
  | unconscious => "unconscious"

def subcommand : LaunchedKind → String
  | conscious => "conscious-worker"
  | unconscious => "unconscious-worker"

/-- How the messages of a launcher name its executions. -/
def execution : LaunchedKind → String
  | conscious => "foreground"
  | unconscious => "background"

/-- `matches!(response.result, WorkerResult::..(_))` with the launcher's own kind. -/
def matchesResult : LaunchedKind → WorkerResult → Bool
  | conscious, .conscious _ => true
  | unconscious, .unconscious _ => true
  | _, _ => false

/-- The check of the gateway entry that a launcher uses. -/
def validateRequest : LaunchedKind → ModelCallRequest → Except ModelGatewayError Unit
  | conscious => validateForegroundRequest
  | unconscious => validateBackgroundRequest

/-- The gateway entry that a launcher uses. -/
def executeModelCall [ProtocolReaders] :
    LaunchedKind → ResolvedModelGatewayConfig → ModelCallRequest →
      Protocol (Except ModelGatewayError ModelCallResponse)
  | conscious => executeForegroundModelCall
  | unconscious => executeBackgroundModelCall

end LaunchedKind

section Launch

variable [readers : ProtocolReaders]

/-- `next_line`, and what the launchers say when it fails or finds the end. -/
def nextLine (phase exited : String) : Protocol String := do
  context phase (← await .readLine)
  match ← popLine with
  | some line => return line
  | none => .fail (.failed [phase ++ " " ++ exited])

/-- `serde_json::from_str` on a line. -/
def decodeMessage (message line : String) : Protocol ConsciousWorkerOutboundMessage :=
  match readers.readMessage line with
  | .ok decoded => .ret decoded
  | .error error => .fail (.failed [message, error])

/-- The pending record of the model call; a database without the table goes without. -/
def insertRecord (request : ModelCallRequest) : Protocol (Option Uuid) := do
  let startedAt ← Prog.query (S := protocol) .utcNow
  match ← await (.insertPendingModelCallRecord request startedAt) with
  | .ok modelCallId => return some modelCallId
  | .error failure =>
    if failure.missingSchema then return none
    else .fail (.failed
      ("worker_protocol_phase=record_model_call failed to persist pending model call" ::
        failure.chain))

/-- The record of the model call's outcome, which a failed call does not survive. -/
def recordOutcome (kind : LaunchedKind) (modelCallId : Option Uuid) :
    Except ModelGatewayError ModelCallResponse → Protocol ModelCallResponse
  | .ok response => do
    if let some modelCallId := modelCallId then
      let completedAt ← Prog.query (S := protocol) .utcNow
      context "worker_protocol_phase=record_model_call failed to mark model call succeeded"
        (← await (.markModelCallSucceeded modelCallId response completedAt))
    return response
  | .error error => do
    if let some modelCallId := modelCallId then
      let completedAt ← Prog.query (S := protocol) .utcNow
      context "worker_protocol_phase=record_model_call failed to mark model call failed"
        (← await (.markModelCallFailed modelCallId error.display completedAt))
    .fail (.failed [s!"worker_protocol_phase=execute_model_call {kind.label} worker model-call execution failed in the harness",
      error.display])

/-- The model call the worker asked for, recorded before and after. -/
def executeRecorded (kind : LaunchedKind) (gateway : ResolvedModelGatewayConfig)
    (request : ModelCallRequest) : Protocol ModelCallResponse := do
  let modelCallId ← insertRecord request
  let outcome ← kind.executeModelCall gateway request
  recordOutcome kind modelCallId outcome

/-- `child.wait()` after the final response. -/
def waitChild (kind : LaunchedKind) (response : WorkerResponse) :
    Protocol (WorkerResponse × ExitStatus) := do
  let status ← context s!"worker_protocol_phase=wait_child {kind.label} worker failed while waiting for exit status"
    (← await .waitChild)
  return (response, status)

/-- What follows the model call. -/
def finish (kind : LaunchedKind) (modelResponse : ModelCallResponse) :
    Protocol (WorkerResponse × ExitStatus) := do
  context "worker_protocol_phase=write_model_response" (← await (.writeModelResponse modelResponse))
  let finalLine ← nextLine "worker_protocol_phase=read_final_response"
    s!"{kind.label} worker exited before sending a final response"
  let finalMessage ← decodeMessage
    "worker_protocol_phase=read_final_response failed to decode final worker protocol message"
    finalLine
  match finalMessage with
  | .modelCallRequest _ => .fail (.failed
      [s!"worker_protocol_phase=read_final_response {kind.label} worker emitted more than one model-call request; {kind.execution} execution supports only one"])
  | .finalResponse response => waitChild kind response

/-- The `operation` that runs under the deadline. -/
def operation (kind : LaunchedKind) (gateway : ResolvedModelGatewayConfig)
    (request : WorkerRequest) : Protocol (WorkerResponse × ExitStatus) := do
  context "worker_protocol_phase=write_initial_request" (← await (.writeInitialRequest request))
  let firstLine ← nextLine "worker_protocol_phase=read_model_request"
    s!"{kind.label} worker exited before sending a protocol message"
  let firstMessage ← decodeMessage
    "worker_protocol_phase=read_model_request failed to decode first worker protocol message"
    firstLine
  match firstMessage with
  | .modelCallRequest modelRequest => do
    let modelResponse ← executeRecorded kind gateway modelRequest
    finish kind modelResponse
  | .finalResponse response => waitChild kind response

/-- The checks on a response that has come in. -/
def acceptResponse (kind : LaunchedKind) (response : WorkerResponse) (status : ExitStatus) :
    Protocol WorkerResponse := do
  match ← Prog.query (S := protocol) .readStderr with
  | .error chain => .fail (.failed chain)
  | .ok stderr =>
    if ¬status.success then
      .fail (.failed [s!"{kind.label} worker subprocess failed: {stderr}"])
    else match response.result with
      | .error failure => .fail (.failed
          [s!"{kind.label} worker returned an error response: worker_error_code={failure.code.asStr} message={failure.message}"])
      | result =>
        if kind.matchesResult result then return response
        else .fail (.failed [s!"{kind.label} worker returned a non-{kind.label} result payload"])

/-- What a launcher makes of the end of its operation. -/
def conclude (kind : LaunchedKind) (timeoutMs : Nat) :
    Except ProtocolError (WorkerResponse × ExitStatus) → Protocol WorkerResponse
  | .ok (response, status) => acceptResponse kind response status
  | .error (.failed error) => do
    let (exitSummary, stderrSummary) ← Prog.query (S := protocol) .failureContext
    .fail (.failed
      [s!"{kind.label} worker protocol failure: {errorText error}; {exitSummary}; {stderrSummary}"])
  | .error .deadline => do
    match ← Prog.query (S := protocol) .terminate with
    | .error chain => .fail (.failed
        (s!"failed to terminate timed-out {kind.label} worker subprocess" :: chain))
    | .ok () => .fail (.failed
        [s!"{kind.label} worker subprocess timed out after {timeoutMs} ms and was terminated"])

/-- `launch_conscious_worker_with_timeout` and `launch_unconscious_worker_with_timeout`. -/
def launchWithTimeout (kind : LaunchedKind) (gateway : ResolvedModelGatewayConfig)
    (request : WorkerRequest) (timeoutMs : Nat) : Protocol WorkerResponse := do
  match ← Prog.query (S := protocol) (.spawn kind.subcommand) with
  | .error chain => .fail (.failed chain)
  | .ok () =>
    match ← Prog.query (S := protocol) .connect with
    | .error chain => .fail (.failed chain)
    | .ok () =>
      let outcome ← (operation kind gateway request).attempt
      conclude kind timeoutMs outcome

/-- `launch_conscious_worker_with_timeout`. -/
def launchConsciousWorkerWithTimeout :
    ResolvedModelGatewayConfig → WorkerRequest → Nat → Protocol WorkerResponse :=
  launchWithTimeout .conscious

/-- `launch_unconscious_worker_with_timeout`. -/
def launchUnconsciousWorkerWithTimeout :
    ResolvedModelGatewayConfig → WorkerRequest → Nat → Protocol WorkerResponse :=
  launchWithTimeout .unconscious

/-- The launcher of a kind of worker. -/
def LaunchedKind.launch : LaunchedKind →
    ResolvedModelGatewayConfig → WorkerRequest → Nat → Protocol WorkerResponse
  | conscious => launchConsciousWorkerWithTimeout
  | unconscious => launchUnconsciousWorkerWithTimeout

end Launch

end BlueLagoon.Worker
