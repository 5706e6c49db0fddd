import BlueLagoon.Contracts
import BlueLagoon.Text
import Mathlib.Algebra.Group.Int.Defs

/-!
# The model gateway

A model call as the harness makes it: what a request must satisfy before it goes out, the
HTTP request it becomes, and how the provider's answer is read. The call itself belongs to
the transport and is made by the caller of this module.
-/

namespace BlueLagoon.Worker

/-! ## Requests and responses -/

inductive LoopKind
  | conscious
  | unconscious
  deriving DecidableEq, Repr

inductive ModelProviderKind
  | zAi
  deriving DecidableEq, Repr

/-- The `Debug` form of a provider. -/
def ModelProviderKind.debug : ModelProviderKind → String
  | .zAi => "ZAi"

inductive ModelCallPurpose
  | foregroundResponse
  | backgroundAnalysis
  deriving DecidableEq, Repr

inductive ModelOutputMode
  | plainText
  | jsonObject
  deriving DecidableEq, Repr

inductive ToolPolicy
  | noTools
  | proposalOnly
  deriving DecidableEq, Repr

structure ModelBudget where
  maxInputTokens : Nat
  maxOutputTokens : Nat
  timeoutMs : Nat
  deriving DecidableEq, Repr

structure ModelProviderHint where
  preferredProvider : Option ModelProviderKind
  preferredModel : Option String
  deriving DecidableEq, Repr

inductive ModelMessageRole
  | system
  | developer
  | user
  | assistant
  deriving DecidableEq, Repr

structure ModelInputMessage where
  role : ModelMessageRole
  content : String
  deriving DecidableEq, Repr

structure ModelInput where
  systemPrompt : String
  messages : List ModelInputMessage
  deriving DecidableEq, Repr

structure ModelCallRequest where
  requestId : Uuid
  traceId : Uuid
  executionId : Uuid
  loopKind : LoopKind
  purpose : ModelCallPurpose
  taskClass : String
  budget : ModelBudget
  input : ModelInput
  outputMode : ModelOutputMode
  schemaName : Option String
  schemaJson : Option Json
  toolPolicy : ToolPolicy
  providerHint : Option ModelProviderHint

structure ModelOutput where
  text : String
  json : Option Json
  finishReason : String

structure ModelUsage where
  inputTokens : Nat
  outputTokens : Nat
  deriving DecidableEq, Repr

structure ModelCallResponse where
  requestId : Uuid
  traceId : Uuid
  executionId : Uuid
  provider : ModelProviderKind
  model : String
  receivedAt : DateTime
  output : ModelOutput
  usage : ModelUsage

/-- `ResolvedForegroundModelRouteConfig`. -/
structure ResolvedForegroundModelRouteConfig where
  provider : ModelProviderKind
  model : String
  apiBaseUrl : String
  apiKey : String
  timeoutMs : Nat
  deriving DecidableEq, Repr

structure ResolvedModelGatewayConfig where
  foreground : ResolvedForegroundModelRouteConfig
  deriving DecidableEq, Repr

inductive ModelGatewayError
  | validation (message : String)
  | transport (message : String)
  | providerRejected (status : Nat) (message : String)
  | invalidResponse (message : String)
  deriving DecidableEq, Repr

/-- The `Display` form of an error. -/
def ModelGatewayError.display : ModelGatewayError → String
  | .validation message => "model gateway validation failed: " ++ message
  | .transport message => "model gateway transport failed: " ++ message
  | .providerRejected status message => s!"provider returned status {status}: " ++ message
  | .invalidResponse message => "provider response shape was invalid: " ++ message

/-! ## Validation -/

/-- `validate_foreground_request` and `validate_background_request`: a launcher makes calls
of one loop and for one purpose only. -/
def validateLoopAndPurpose (loopKind : LoopKind) (purpose : ModelCallPurpose)
    (loopMessage purposeMessage : String) (request : ModelCallRequest) :
    Except ModelGatewayError Unit := do
  if request.loopKind ≠ loopKind then
    throw (.validation loopMessage)
  if request.purpose ≠ purpose then
    throw (.validation purposeMessage)

/-- `validate_foreground_request`. -/
def validateForegroundRequest : ModelCallRequest → Except ModelGatewayError Unit :=
  validateLoopAndPurpose .conscious .foregroundResponse
    "foreground model gateway supports only conscious-loop requests"
    "foreground model gateway supports only foreground-response requests"

/-- `validate_background_request`. -/
def validateBackgroundRequest : ModelCallRequest → Except ModelGatewayError Unit :=
  validateLoopAndPurpose .unconscious .backgroundAnalysis
    "background model gateway supports only unconscious-loop requests"
    "background model gateway supports only background-analysis requests"

/-- `validate_common_request`. -/
def validateCommonRequest (request : ModelCallRequest) : Except ModelGatewayError Unit := do
  if request.budget.maxInputTokens = 0 then
    throw (.validation "model-call max_input_tokens must be greater than zero")
  if request.budget.maxOutputTokens = 0 then
    throw (.validation "model-call max_output_tokens must be greater than zero")
  if request.budget.timeoutMs = 0 then
    throw (.validation "model-call timeout_ms must be greater than zero")
  if Text.isBlank request.input.systemPrompt then
    throw (.validation "model-call system_prompt must not be empty")
  if request.input.messages.isEmpty then
    throw (.validation "model-call messages must not be empty")
  if request.outputMode = .jsonObject ∧ request.schemaName.isNone ∧ request.schemaJson.isNone then
    throw (.validation "json_object model calls must provide schema_name or schema_json")
  if request.toolPolicy ≠ .noTools ∧ request.toolPolicy ≠ .proposalOnly then
    throw (.validation "unsupported tool policy")

/-- `validate_provider_hint`. -/
def validateProviderHint (route : ResolvedForegroundModelRouteConfig) :
    Option ModelProviderHint → Except ModelGatewayError Unit
  | none => .ok ()
  | some hint => do
    if let some provider := hint.preferredProvider then
      if provider ≠ route.provider then
        throw (.validation ("provider hint " ++ provider.debug ++
          " did not match configured foreground provider " ++ route.provider.debug))
    if let some model := hint.preferredModel then
      if model ≠ route.model then
        throw (.validation ("provider hint model '" ++ model ++
          "' did not match configured foreground model '" ++ route.model ++ "'"))

/-- `resolve_foreground_route`. -/
def resolveForegroundRoute (gateway : ResolvedModelGatewayConfig) (request : ModelCallRequest) :
    Except ModelGatewayError ResolvedForegroundModelRouteConfig := do
  validateProviderHint gateway.foreground request.providerHint
  return gateway.foreground

/-! ## The provider's side -/

/-- `model_role_as_str`. -/
def modelRoleAsStr : ModelMessageRole → String
  | .system => "system"
  | .developer => "system"
  | .user => "user"
  | .assistant => "assistant"

/-- The body of a chat-completion request. -/
structure ZAiRequestBody where
  model : String
  /-- Role and content. -/
  messages : List (String × String)
  maxTokens : Nat
  temperatureTenths : Nat := 2
  /-- `response_format`'s type, where one is asked for. -/
  responseFormat : Option String
  deriving DecidableEq, Repr

/-- `z_ai_request_body`. -/
def zAiRequestBody (request : ModelCallRequest) (route : ResolvedForegroundModelRouteConfig) :
    ZAiRequestBody where
  model := route.model
  messages := ("system", request.input.systemPrompt) ::
    request.input.messages.map fun message => (modelRoleAsStr message.role, message.content)
  maxTokens := request.budget.maxOutputTokens
  responseFormat := if request.outputMode = .jsonObject then some "json_object" else none

structure ProviderHttpRequest where
  url : String
  apiKey : String
  timeoutMs : Nat
  body : ZAiRequestBody
  deriving DecidableEq, Repr

structure ProviderHttpResponse where
  status : Nat
  body : Json

/-- `str::trim_end_matches('/')`. -/
def trimEndSlashes (s : String) : String :=
  String.ofList (s.toList.reverse.dropWhile (· = '/')).reverse

/-- The request of `execute_z_ai_call`. -/
def zAiHttpRequest (request : ModelCallRequest) (route : ResolvedForegroundModelRouteConfig) :
    ProviderHttpRequest where
  url := trimEndSlashes route.apiBaseUrl ++ "/chat/completions"
  apiKey := route.apiKey
  timeoutMs := min request.budget.timeoutMs route.timeoutMs
  body := zAiRequestBody request route

/-- `Value::as_array`. -/
def asArray : Json → Option (List Json)
  | .arr items => some items
  | _ => none

/-- `Value::as_u64`. -/
def asU64 : Json → Option Nat
  | .int value => if 0 ≤ value ∧ value < 2 ^ 64 then some value.toNat else none
  | _ => none

/-- `provider_error_message`. -/
def providerErrorMessage (body : Json) : String :=
  (((body.get "error").bind (Json.get "message")).bind Json.asStr <|>
    (body.get "message").bind Json.asStr).getD "provider request failed"

/-- `extract_message_text`. -/
def extractMessageText (choice : Json) : Option String :=
  match (choice.get "message").bind (Json.get "content") with
  | some (.str text) => some text
  | some (.arr parts) =>
    let combined := String.join (parts.filterMap fun part => (part.get "text").bind Json.asStr)
    if combined.isEmpty then none else some combined
  | _ => none

/-- `parse_z_ai_response`, where `fromStr` is the JSON reader. -/
def parseZAiResponse (fromStr : String → Except String Json) (request : ModelCallRequest)
    (route : ResolvedForegroundModelRouteConfig) (now : DateTime) (body : Json) :
    Except ModelGatewayError ModelCallResponse := do
  let some choice := ((body.get "choices").bind asArray).bind List.head?
    | throw (.invalidResponse "missing choices[0] in provider response")
  let some text := extractMessageText choice
    | throw (.invalidResponse "missing choices[0].message.content in provider response")
  let usage := body.get "usage"
  -- The counts are cut to 32 bits, as `as u32` does.
  let tokens (key : String) : Nat := (((usage.bind (Json.get key)).bind asU64).getD 0) % 2 ^ 32
  let json ← match request.outputMode with
    | .plainText => pure none
    | .jsonObject => match fromStr text with
      | .ok value => pure (some value)
      | .error error => throw (.invalidResponse
          ("provider returned non-JSON content for json_object mode: " ++ error))
  return {
    requestId := request.requestId
    traceId := request.traceId
    executionId := request.executionId
    provider := route.provider
    model := route.model
    receivedAt := now
    output :=
      { text, json, finishReason := ((choice.get "finish_reason").bind Json.asStr).getD "unknown" }
    usage := { inputTokens := tokens "prompt_tokens", outputTokens := tokens "completion_tokens" } }

end BlueLagoon.Worker
