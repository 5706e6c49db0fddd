import BlueLagoon.Worker.Protocol

/-!
# What a worker can make the harness do

Whatever a worker prints, a launcher makes at most one model call and accepts only a result
of its own kind. It does not look at the ids the worker's messages carry: the call and the
response belong to the request exactly when the lines the launcher acts on say so.
-/

namespace BlueLagoon.Worker

open Interleaving

/-! ## The law -/

/-- The response is the answer to the request. -/
structure InReplyTo (request : WorkerRequest) (response : WorkerResponse) : Prop where
  requestId : response.requestId = request.requestId
  traceId : response.traceId = request.traceId
  executionId : response.executionId = request.executionId

/-- The model call is made on behalf of the request. -/
structure OnBehalf (request : WorkerRequest) (modelRequest : ModelCallRequest) : Prop where
  traceId : modelRequest.traceId = request.traceId
  executionId : modelRequest.executionId = request.executionId

instance (request : WorkerRequest) (response : WorkerResponse) :
    Decidable (InReplyTo request response) :=
  decidable_of_iff (response.requestId = request.requestId ∧ response.traceId = request.traceId ∧
      response.executionId = request.executionId)
    ⟨fun ⟨h₁, h₂, h₃⟩ => ⟨h₁, h₂, h₃⟩, fun ⟨h₁, h₂, h₃⟩ => ⟨h₁, h₂, h₃⟩⟩

section Law

variable (kind : LaunchedKind) (call : ModelCallRequest → Prop) (reply : WorkerResponse → Prop)

/-- The model calls made so far: one at most, and only such as may be made. -/
structure CallsIntact (events : List ProtocolEvent) : Prop where
  once : events.length ≤ 1
  allowed : ∀ modelRequest, .modelCallExecuted modelRequest ∈ events → call modelRequest

/-- A launch that makes one model call at most, only such as may be made, and hands on only
a response of its own kind that may be handed on. -/
structure Intact (result : Except ProtocolError WorkerResponse) (events : List ProtocolEvent) :
    Prop where
  calls : CallsIntact call events
  accepted : ∀ response, result = .ok response →
    reply response ∧ kind.matchesResult response.result

end Law

/-- The gateway lets a model request through. -/
def Admitted (kind : LaunchedKind) (gateway : ResolvedModelGatewayConfig)
    (modelRequest : ModelCallRequest) : Prop :=
  kind.validateRequest modelRequest = .ok () ∧ validateCommonRequest modelRequest = .ok () ∧
    validateProviderHint gateway.foreground modelRequest.providerHint = .ok ()

/-- The worker's line `n` says `message`. -/
def Says [readers : ProtocolReaders] (lines : List String) (n : Nat) (message : ConsciousWorkerOutboundMessage) : Prop :=
  ∃ line, lines[n]? = some line ∧ readers.readMessage line = .ok message

/-- Every line the launcher acts on asks for a call that may be made or brings a response
that may be handed on. -/
structure Honest [ProtocolReaders] (kind : LaunchedKind) (gateway : ResolvedModelGatewayConfig)
    (call : ModelCallRequest → Prop) (reply : WorkerResponse → Prop) (lines : List String) :
    Prop where
  /-- A first line that asks for a model call, if the gateway admits it. -/
  modelCall : ∀ modelRequest, Says lines 0 (.modelCallRequest modelRequest) →
    Admitted kind gateway modelRequest → call modelRequest
  /-- A first line that is already a final response, if it is of the kind expected. -/
  early : ∀ response, Says lines 0 (.finalResponse response) →
    kind.matchesResult response.result → reply response
  /-- A second line after such a model call. -/
  final : ∀ modelRequest response, Says lines 0 (.modelCallRequest modelRequest) →
    Admitted kind gateway modelRequest → Says lines 1 (.finalResponse response) →
    kind.matchesResult response.result → reply response

/-! ## One node at a time

With every answer possible, what a program establishes is what it establishes after each
answer. -/

/-- Any answer may come. -/
abbrev anyAnswer : Interleaving.Answers protocol := fun _ _ => True

section Nodes

variable {α : Type} {Q : Except ProtocolError α → ProtocolState → List ProtocolEvent → Prop}
  {s : ProtocolState} {es : List ProtocolEvent}

theorem alone_await {operation : Awaitable} {f : operation.Reply → Protocol α} :
    ((await operation).bind f).Alone anyAnswer Q s es ↔
      Q (.error .deadline) s es ∧ ∀ reply, (f reply).Alone anyAnswer Q s es := by
  constructor
  · intro h
    exact ⟨h none trivial, fun reply => h (some reply) trivial⟩
  · rintro ⟨hdeadline, hreply⟩ (_ | reply) -
    · exact hdeadline
    · exact hreply reply

theorem alone_query {q : ProtocolQuery} {f : protocol.Answer q → Protocol α} :
    ((Prog.query (S := protocol) q).bind f).Alone anyAnswer Q s es ↔
      ∀ answer, (f answer).Alone anyAnswer Q s es :=
  ⟨fun h answer => h answer trivial, fun h answer _ => h answer⟩

theorem alone_popLine {f : Option String → Protocol α} :
    (popLine.bind f).Alone anyAnswer Q s es ↔
      (f s.lines.head?).Alone anyAnswer Q { lines := s.lines.tail } es := by
  show (f s.lines.head?).Alone anyAnswer Q { lines := s.lines.tail } (es ++ []) ↔ _
  rw [List.append_nil]

end Nodes

/-! ## The end of a launch -/

section Launch

variable {kind : LaunchedKind} {gateway : ResolvedModelGatewayConfig}
  {call : ModelCallRequest → Prop} {reply : WorkerResponse → Prop}

/-- What an operation is to end in, for the launch to end in what it should. -/
def Outcome (kind : LaunchedKind) (call : ModelCallRequest → Prop)
    (reply : WorkerResponse → Prop) :
    Except ProtocolError (WorkerResponse × ExitStatus) → ProtocolState → List ProtocolEvent → Prop
  | .ok (response, status), _, es => CallsIntact call es ∧
      (status.success → kind.matchesResult response.result → reply response)
  | .error _, _, es => CallsIntact call es

theorem intact_error {error : ProtocolError} {es : List ProtocolEvent} :
    Intact kind call reply (.error error) es ↔ CallsIntact call es :=
  ⟨fun h => h.calls, fun h => ⟨h, fun _ hok => nomatch hok⟩⟩

theorem intact_ok {response : WorkerResponse} {es : List ProtocolEvent}
    (hkind : kind.matchesResult response.result = true) :
    Intact kind call reply (.ok response) es ↔
      CallsIntact call es ∧ reply response := by
  constructor
  · intro h
    exact ⟨h.calls, (h.accepted response rfl).1⟩
  · rintro ⟨hcalls, hreply⟩
    refine ⟨hcalls, fun accepted hok => ?_⟩
    obtain rfl := Except.ok.inj hok
    exact ⟨hreply, hkind⟩

/-- The last check looks at the exit status and at the kind of the result, and at nothing else. -/
theorem acceptResponse_alone {response : WorkerResponse} {status : ExitStatus}
    {s : ProtocolState} {es : List ProtocolEvent} :
    (acceptResponse kind response status).Alone anyAnswer
        (fun r _ es => Intact kind call reply r es) s es ↔
      Outcome kind call reply (.ok (response, status)) s es := by
  show ((Prog.query (S := protocol) .readStderr).bind _).Alone anyAnswer _ s es ↔ _
  rw [alone_query]
  constructor
  · intro h
    have hcalls := intact_error.mp (h (.error []))
    refine ⟨hcalls, fun hsuccess hkind => ?_⟩
    have hchecked := h (.ok "")
    dsimp only at hchecked
    rw [if_neg (not_not_intro hsuccess)] at hchecked
    have haccepted : (Prog.ret response : Protocol WorkerResponse).Alone anyAnswer
        (fun r _ es => Intact kind call reply r es) s es := by
      cases hresult : response.result with
      | error failure =>
        rw [hresult] at hkind
        cases kind <;> cases hkind
      | smoke result | conscious result | unconscious result =>
        rw [hresult] at hchecked hkind
        dsimp only at hchecked
        rwa [if_pos hkind] at hchecked
    exact ((intact_ok hkind).mp haccepted).2
  · rintro ⟨hcalls, hreply⟩ (chain | stderr)
    · exact intact_error.mpr hcalls
    · dsimp only
      split
      · exact intact_error.mpr hcalls
      · rename_i hsuccess
        have hsuccess := not_not.mp hsuccess
        split
        · exact intact_error.mpr hcalls
        · split
          · rename_i hkind
            exact (intact_ok hkind).mpr ⟨hcalls, hreply hsuccess hkind⟩
          · exact intact_error.mpr hcalls

theorem conclude_alone {timeoutMs : Nat}
    {outcome : Except ProtocolError (WorkerResponse × ExitStatus)} {s : ProtocolState}
    {es : List ProtocolEvent} :
    (conclude kind timeoutMs outcome).Alone anyAnswer
        (fun r _ es => Intact kind call reply r es) s es ↔ Outcome kind call reply outcome s es := by
  match outcome with
  | .ok (response, status) => exact acceptResponse_alone
  | .error (.failed error) =>
    show ((Prog.query (S := protocol) .failureContext).bind _).Alone anyAnswer _ s es ↔ _
    rw [alone_query]
    constructor
    · intro h
      exact intact_error.mp (h ("", ""))
    · rintro hcalls ⟨exitSummary, stderrSummary⟩
      exact intact_error.mpr hcalls
  | .error .deadline =>
    show ((Prog.query (S := protocol) .terminate).bind _).Alone anyAnswer _ s es ↔ _
    rw [alone_query]
    constructor
    · intro h
      exact intact_error.mp (h (.ok ()))
    · rintro hcalls (chain | ⟨⟩)
      · exact intact_error.mpr hcalls
      · exact intact_error.mpr hcalls

/-! ## The operation -/

variable {s : ProtocolState} {es : List ProtocolEvent}

theorem callsIntact_nil : CallsIntact call [] :=
  ⟨Nat.zero_le 1, fun _ hmem => nomatch hmem⟩

theorem callsIntact_one {modelRequest : ModelCallRequest} :
    CallsIntact call [.modelCallExecuted modelRequest] ↔ call modelRequest := by
  constructor
  · intro h
    exact h.allowed modelRequest (List.mem_singleton_self _)
  · intro h
    refine ⟨Nat.le_refl 1, fun executed hmem => ?_⟩
    obtain rfl := ProtocolEvent.modelCallExecuted.inj (List.mem_singleton.mp hmem)
    exact h

theorem waitChild_alone {response : WorkerResponse} :
    (waitChild kind response).Alone anyAnswer (Outcome kind call reply) s es ↔
      CallsIntact call es ∧
        (kind.matchesResult response.result → reply response) := by
  show ((await .waitChild).bind _).Alone anyAnswer _ s es ↔ _
  rw [alone_await]
  constructor
  · rintro ⟨hcalls, h⟩
    have hexited := h (.ok { success := true, text := "" })
    exact ⟨hcalls, hexited.2 rfl⟩
  · rintro ⟨hcalls, hreply⟩
    refine ⟨hcalls, ?_⟩
    rintro (chain | status)
    · exact hcalls
    · exact ⟨hcalls, fun _ => hreply⟩

/-- What follows the read: the line, or the end of the output. -/
def receivedLine (phase exited : String) : Protocol String :=
  popLine.bind fun
    | some line => .ret line
    | none => .fail (.failed [phase ++ " " ++ exited])

variable [readers : ProtocolReaders]

/-- Reading a line and decoding it: all that can go wrong ends the operation without a call. -/
theorem nextMessage_alone {phase exited message : String}
    {f : ConsciousWorkerOutboundMessage → Protocol (WorkerResponse × ExitStatus)} :
    ((nextLine phase exited).bind fun line => (decodeMessage message line).bind f).Alone anyAnswer
        (Outcome kind call reply) s es ↔
      CallsIntact call es ∧ ∀ decoded, Says s.lines 0 decoded →
        (f decoded).Alone anyAnswer (Outcome kind call reply) { lines := s.lines.tail } es := by
  have hnext : nextLine phase exited = (await .readLine).bind fun reply =>
      (context phase reply).bind fun _ => receivedLine phase exited := rfl
  rw [hnext]
  rw [Prog.bind_assoc]
  rw [alone_await]
  refine and_congr_right fun hcalls => ?_
  have hread : (∀ read : Except ErrorChain Unit,
        (((context phase read).bind fun _ => receivedLine phase exited).bind fun line =>
          (decodeMessage message line).bind f).Alone anyAnswer (Outcome kind call reply) s es) ↔
      ((receivedLine phase exited).bind fun line => (decodeMessage message line).bind f).Alone
        anyAnswer (Outcome kind call reply) s es := by
    constructor
    · intro h
      exact h (.ok ())
    · intro h read
      cases read with
      | ok _ => exact h
      | error _ => exact hcalls
  refine hread.trans ?_
  unfold receivedLine
  rw [Prog.bind_assoc]
  rw [alone_popLine]
  unfold Says
  cases s.lines with
  | nil =>
    constructor
    · rintro - decoded ⟨line, hline, -⟩
      cases hline
    · intro _
      exact hcalls
  | cons line rest =>
    show ((decodeMessage message line).bind f).Alone anyAnswer _ { lines := rest } es ↔ _
    unfold decodeMessage
    cases hdecoded : readers.readMessage line with
    | ok decoded =>
      constructor
      · rintro h other ⟨line', hline, hother⟩
        obtain rfl := Option.some.inj hline
        rw [hdecoded] at hother
        obtain rfl := Except.ok.inj hother
        exact h
      · intro h
        exact h decoded ⟨line, rfl, hdecoded⟩
    | error error =>
      constructor
      · rintro - other ⟨line', hline, hother⟩
        obtain rfl := Option.some.inj hline
        rw [hdecoded] at hother
        cases hother
      · intro _
        exact hcalls

theorem finish_alone {modelResponse : ModelCallResponse} :
    (finish kind modelResponse).Alone anyAnswer (Outcome kind call reply) s es ↔
      CallsIntact call es ∧ ∀ response, Says s.lines 0 (.finalResponse response) →
        kind.matchesResult response.result → reply response := by
  show ((await (.writeModelResponse modelResponse)).bind _).Alone anyAnswer _ s es ↔ _
  rw [alone_await]
  refine and_congr_right fun hcalls => ?_
  constructor
  · intro h response hsays
    have hwritten := nextMessage_alone.mp (h (.ok ()))
    exact (waitChild_alone.mp (hwritten.2 (.finalResponse response) hsays)).2
  · rintro hreply (chain | ⟨⟩)
    · exact hcalls
    · refine nextMessage_alone.mpr ⟨hcalls, ?_⟩
      rintro (modelRequest | response) hsays
      · exact hcalls
      · exact waitChild_alone.mpr ⟨hcalls, hreply response hsays⟩

/-! ### The model call -/

/-- A provider's answer that every request can take: the JSON text `null`. -/
def nullAnswer : ProviderHttpResponse where
  status := 200
  body := .obj [("choices", .arr [.obj [("message", .obj [("content", .str "null")])]])]

theorem parseZAiResponse_nullAnswer (modelRequest : ModelCallRequest)
    (route : ResolvedForegroundModelRouteConfig) (now : DateTime) :
    ∃ response, parseZAiResponse readers.readJson modelRequest route now nullAnswer.body =
      .ok response := by
  have hchoice : ((nullAnswer.body.get "choices").bind asArray).bind List.head? =
      some (.obj [("message", .obj [("content", .str "null")])]) := rfl
  have htext : extractMessageText (.obj [("message", .obj [("content", .str "null")])]) =
      some "null" := rfl
  unfold parseZAiResponse
  rw [hchoice]
  dsimp only
  rw [htext]
  dsimp only
  cases modelRequest.outputMode with
  | plainText => exact ⟨_, rfl⟩
  | jsonObject =>
    rw [readers.readJson_null]
    exact ⟨_, rfl⟩

/-- Either gateway entry is its own check before the common call. -/
theorem executeModelCall_eq (modelRequest : ModelCallRequest) :
    kind.executeModelCall gateway modelRequest =
      match kind.validateRequest modelRequest with
      | .error error => .ret (.error error)
      | .ok () => executeModelCallUnchecked gateway modelRequest := by
  cases kind with
  | conscious => rfl
  | unconscious => rfl

/-- A request that the gateway admits goes out. -/
theorem executeModelCall_of_admitted {modelRequest : ModelCallRequest}
    (h : Admitted kind gateway modelRequest) :
    kind.executeModelCall gateway modelRequest =
      executeZAiCall modelRequest gateway.foreground := by
  obtain ⟨hkind, hcommon, hhint⟩ := h
  rw [executeModelCall_eq]
  rw [hkind]
  show executeModelCallUnchecked gateway modelRequest = _
  unfold executeModelCallUnchecked resolveForegroundRoute
  rw [hcommon]
  rw [hhint]
  rfl

/-- A request that it does not admit comes back as an error, and nothing goes out. -/
theorem executeModelCall_of_not_admitted {modelRequest : ModelCallRequest}
    (h : ¬Admitted kind gateway modelRequest) :
    ∃ error, kind.executeModelCall gateway modelRequest = .ret (.error error) := by
  rw [executeModelCall_eq]
  cases hkind : kind.validateRequest modelRequest with
  | error error => exact ⟨error, rfl⟩
  | ok _ =>
    show ∃ error, executeModelCallUnchecked gateway modelRequest = .ret (.error error)
    unfold executeModelCallUnchecked resolveForegroundRoute
    cases hcommon : validateCommonRequest modelRequest with
    | error error => exact ⟨error, rfl⟩
    | ok _ =>
      cases hhint : validateProviderHint gateway.foreground modelRequest.providerHint with
      | error error => exact ⟨error, rfl⟩
      | ok _ => exact absurd ⟨hkind, hcommon, hhint⟩ h

/-! ### The recorded call -/

omit readers in
/-- A record that fails ends the operation where it is. -/
theorem insertRecord_alone {modelRequest : ModelCallRequest}
    {f : Option Uuid → Protocol (WorkerResponse × ExitStatus)} (hcalls : CallsIntact call es) :
    ((insertRecord modelRequest).bind f).Alone anyAnswer (Outcome kind call reply) s es ↔
      ∀ modelCallId, (f modelCallId).Alone anyAnswer (Outcome kind call reply) s es := by
  constructor
  · intro h modelCallId
    cases modelCallId with
    | none => exact h 0 trivial (some (.error { missingSchema := true, chain := [] })) trivial
    | some modelCallId => exact h 0 trivial (some (.ok modelCallId)) trivial
  · intro h
    rintro startedAt - (_ | ⟨⟨missingSchema, chain⟩ | modelCallId⟩) -
    · exact hcalls
    · cases missingSchema with
      | true => exact h none
      | false => exact hcalls
    · exact h (some modelCallId)

/-- An operation whose model call goes on to `finish` ends well when `finish` does; when the
call has failed there is nothing more to check. -/
theorem recordOutcome_alone {modelCallId : Option Uuid}
    {outcome : Except ModelGatewayError ModelCallResponse}
    (h : CallsIntact call es)
    (hfinish : ∀ response, outcome = .ok response →
      (finish kind response).Alone anyAnswer (Outcome kind call reply) s es) :
    ((recordOutcome kind modelCallId outcome).bind (finish kind)).Alone anyAnswer
      (Outcome kind call reply) s es := by
  cases outcome with
  | error error =>
    cases modelCallId with
    | none => exact h
    | some modelCallId =>
      rintro completedAt - (_ | ⟨chain | ⟨⟩⟩) -
      · exact h
      · exact h
      · exact h
  | ok response =>
    cases modelCallId with
    | none => exact hfinish response rfl
    | some modelCallId =>
      rintro completedAt - (_ | ⟨chain | ⟨⟩⟩) -
      · exact h
      · exact h
      · exact hfinish response rfl

/-- What the recorded call and all that follows it need. -/
theorem executeRecorded_alone {modelRequest : ModelCallRequest} :
    ((executeRecorded kind gateway modelRequest).bind (finish kind)).Alone anyAnswer
        (Outcome kind call reply) s [] ↔
      (Admitted kind gateway modelRequest → call modelRequest ∧
        ∀ response, Says s.lines 0 (.finalResponse response) →
          kind.matchesResult response.result → reply response) := by
  have hrecorded : (executeRecorded kind gateway modelRequest).bind (finish kind) =
      (insertRecord modelRequest).bind fun modelCallId =>
        ((kind.executeModelCall gateway modelRequest).bind (recordOutcome kind modelCallId)).bind
          (finish kind) := Prog.bind_assoc _ _ _
  rw [hrecorded]
  rw [insertRecord_alone callsIntact_nil]
  constructor
  · intro h hadmitted
    -- Nothing fails: no record is kept, and the provider answers what any request can take.
    have hcall := h none
    rw [executeModelCall_of_admitted hadmitted] at hcall
    obtain ⟨response, hresponse⟩ :=
      parseZAiResponse_nullAnswer modelRequest gateway.foreground 0
    have hanswered := hcall (some (.ok nullAnswer)) trivial 0 trivial
    have hfinish : (finish kind response).Alone anyAnswer (Outcome kind call reply) s
        [.modelCallExecuted modelRequest] := by
      have hrecord : ((recordOutcome kind none (parseZAiResponse readers.readJson modelRequest
          gateway.foreground 0 nullAnswer.body)).bind (finish kind)).Alone anyAnswer
          (Outcome kind call reply) s [.modelCallExecuted modelRequest] := hanswered
      rw [hresponse] at hrecord
      exact hrecord
    obtain ⟨hcalls, hreply⟩ := finish_alone.mp hfinish
    exact ⟨callsIntact_one.mp hcalls, hreply⟩
  · intro h modelCallId
    rw [Prog.bind_assoc]
    by_cases hadmitted : Admitted kind gateway modelRequest
    · obtain ⟨honBehalf, hreply⟩ := h hadmitted
      have hcalls : CallsIntact call [.modelCallExecuted modelRequest] :=
        callsIntact_one.mpr honBehalf
      have hrecorded : ∀ outcome, ((recordOutcome kind modelCallId outcome).bind
          (finish kind)).Alone anyAnswer (Outcome kind call reply) s
            [.modelCallExecuted modelRequest] := fun outcome =>
        recordOutcome_alone hcalls fun response _ => finish_alone.mpr ⟨hcalls, hreply⟩
      rw [executeModelCall_of_admitted hadmitted]
      rintro (_ | ⟨error | response⟩) -
      · exact hcalls
      · exact hrecorded (.error error)
      · show ((if ¬(200 ≤ response.status ∧ response.status < 300) then
            (Prog.ret (.error (.providerRejected response.status
              (providerErrorMessage response.body))) : Protocol _)
          else (Prog.query (S := protocol) .utcNow).bind fun now =>
            .ret (parseZAiResponse readers.readJson modelRequest gateway.foreground now
              response.body)).bind _).Alone anyAnswer _ s _
        split
        · exact hrecorded _
        · exact fun now _ => hrecorded _
    · obtain ⟨error, herror⟩ := executeModelCall_of_not_admitted hadmitted
      rw [herror]
      exact recordOutcome_alone callsIntact_nil fun response hok => nomatch hok

/-- What an operation needs of the lines of its worker. -/
theorem operation_alone (request : WorkerRequest) {lines : List String} :
    (operation kind gateway request).Alone anyAnswer (Outcome kind call reply) { lines := lines }
        [] ↔
      Honest kind gateway call reply lines := by
  show ((await (.writeInitialRequest request)).bind _).Alone anyAnswer _ _ _ ↔ _
  rw [alone_await]
  -- A line after the first is a line of what the first leaves.
  have hlater : ∀ message, Says lines.tail 0 message ↔ Says lines 1 message := by
    intro message
    unfold Says
    rw [List.getElem?_tail]
  constructor
  · rintro ⟨-, h⟩
    obtain ⟨-, hmessage⟩ := nextMessage_alone.mp (h (.ok ()))
    constructor
    · intro modelRequest hsays hadmitted
      exact (executeRecorded_alone.mp (hmessage (.modelCallRequest modelRequest) hsays)
        hadmitted).1
    · intro response hsays hkind
      exact (waitChild_alone.mp (hmessage (.finalResponse response) hsays)).2 hkind
    · intro modelRequest response hsays hadmitted hfinal hkind
      exact (executeRecorded_alone.mp (hmessage (.modelCallRequest modelRequest) hsays)
        hadmitted).2 response ((hlater _).mpr hfinal) hkind
  · intro hhonest
    refine ⟨callsIntact_nil, ?_⟩
    rintro (chain | ⟨⟩)
    · exact callsIntact_nil
    · refine nextMessage_alone.mpr ⟨callsIntact_nil, ?_⟩
      rintro (modelRequest | response) hsays
      · refine executeRecorded_alone.mpr fun hadmitted => ⟨?_, fun response hfinal hkind => ?_⟩
        · exact hhonest.modelCall modelRequest hsays hadmitted
        · exact hhonest.final modelRequest response hsays hadmitted ((hlater _).mp hfinal) hkind
      · exact waitChild_alone.mpr ⟨callsIntact_nil, hhonest.early response hsays⟩

/-- A launch ends well in every run exactly if the lines of the worker are honest. -/
theorem launch_alone (request : WorkerRequest) (timeoutMs : Nat) {lines : List String} :
    (kind.launch gateway request timeoutMs).Alone anyAnswer
        (fun r _ es => Intact kind call reply r es) { lines := lines } [] ↔
      Honest kind gateway call reply lines := by
  have hlaunch : kind.launch gateway request timeoutMs =
      launchWithTimeout kind gateway request timeoutMs := by
    cases kind with
    | conscious => rfl
    | unconscious => rfl
  have hconcluded : (((operation kind gateway request).attempt).bind
        (conclude kind timeoutMs)).Alone anyAnswer
        (fun r _ es => Intact kind call reply r es) { lines := lines } [] ↔
      Honest kind gateway call reply lines := by
    rw [Prog.alone_bind]
    rw [Prog.alone_attempt]
    rw [← operation_alone request]
    constructor
    · intro h
      exact h.mono fun r s es => conclude_alone.mp
    · intro h
      exact h.mono fun r s es => conclude_alone.mpr
  have hrefused : ∀ chain : ErrorChain, Intact kind call reply (.error (.failed chain)) [] :=
    fun chain => intact_error.mpr callsIntact_nil
  rw [hlaunch]
  constructor
  · intro h
    exact hconcluded.mp (h (.ok ()) trivial (.ok ()) trivial)
  · intro h
    rintro (chain | ⟨⟩) -
    · exact hrefused chain
    · rintro (chain | ⟨⟩) -
      · exact hrefused chain
      · exact hconcluded.mpr h

end Launch

/-! ## Every run -/

section Runs

variable [ProtocolReaders] (kind : LaunchedKind) (gateway : ResolvedModelGatewayConfig)
  (request : WorkerRequest) (timeoutMs : Nat) (lines : List String)

/-- A launch whose worker prints `lines`, where the world answers as `world` does. -/
def launched (world : Oracle protocol) : Run protocol WorkerResponse :=
  (kind.launch gateway request timeoutMs).run world 0 { lines := lines }

/-- A world where everything goes through at once and the worker leaves in good order. -/
def smoothWorld : Oracle protocol := fun _ query =>
  match query with
  | .spawn _ | .connect | .terminate => .ok ()
  | .utcNow => (0 : Int)
  | .await operation => match operation with
    | .writeInitialRequest _ | .readLine | .markModelCallSucceeded _ _ _
    | .markModelCallFailed _ _ _ | .writeModelResponse _ => some (.ok ())
    | .insertPendingModelCallRecord _ _ => some (.ok 1)
    | .sendJson _ => some (.ok nullAnswer)
    | .waitChild => some (.ok { success := true, text := "exit status: 0" })
  | .failureContext => ("worker_exit_status=exit status: 0", "worker_stderr_excerpt=<empty>")
  | .readStderr => .ok ""

theorem launched_intact_iff {call : ModelCallRequest → Prop} {reply : WorkerResponse → Prop} :
    (∀ world, Intact kind call reply (launched kind gateway request timeoutMs lines world).result
        (launched kind gateway request timeoutMs lines world).events) ↔
      Honest kind gateway call reply lines := by
  rw [← launch_alone request timeoutMs]
  rw [Prog.alone_iff_runs smoothWorld]
  rfl

/-- The model call is made for the request and its answer is the request's, in every run,
exactly when the worker's lines carry the ids of the request: the launcher never compares
them. -/
theorem launched_intact_iff_lines_honest :
    (∀ world, Intact kind (OnBehalf request) (InReplyTo request)
        (launched kind gateway request timeoutMs lines world).result
        (launched kind gateway request timeoutMs lines world).events) ↔
      Honest kind gateway (OnBehalf request) (InReplyTo request) lines :=
  launched_intact_iff kind gateway request timeoutMs lines

end Runs

/-! ### A response to another request -/

/-- The request of the run below. -/
def analysisRequest : WorkerRequest where
  requestId := 1
  traceId := 2
  executionId := 3
  sentAt := 0
  workerKind := .unconscious
  payload := .null

/-- A final response that carries the ids of some other request. -/
def foreignResponse : WorkerResponse where
  requestId := 7
  traceId := 8
  executionId := 9
  finishedAt := 0
  workerPid := 4242
  result := .unconscious { summary := "done", canonicalProposals := [] }

/-- The line that says so. -/
def foreignLine : String :=
  "\x7b\"kind\":\"final_response\",\"value\":\x7b" ++
  "\"request_id\":\"00000000-0000-0000-0000-000000000007\"," ++
  "\"trace_id\":\"00000000-0000-0000-0000-000000000008\"," ++
  "\"execution_id\":\"00000000-0000-0000-0000-000000000009\"," ++
  "\"finished_at\":\"1970-01-01T00:00:00Z\",\"worker_pid\":4242," ++
  "\"result\":\x7b\"kind\":\"unconscious\",\"value\":\x7b\"status\":\"completed\"," ++
  "\"summary\":\"done\",\"maintenance_outputs\":\x7b\"canonical_proposals\":[]," ++
  "\"retrieval_updates\":[],\"diagnostics\":[],\"wake_signals\":[]\x7d\x7d\x7d\x7d\x7d"

/-- Readers that know the texts of the run. -/
@[reducible] def foreignReaders : ProtocolReaders where
  readMessage line :=
    if line = foreignLine then .ok (.finalResponse foreignResponse) else .error "expected value"
  readJson text := if text = "null" then .ok .null else .error "expected value"
  readJson_null := rfl

/-- The gateway of the run. -/
def zAiGateway : ResolvedModelGatewayConfig where
  foreground := {
    provider := .zAi
    model := "z-ai-foreground"
    apiBaseUrl := "https://api.z.ai/api/paas/v4"
    apiKey := "key"
    timeoutMs := 20000 }

/-- A worker that answers some other request is believed. -/
theorem foreign_response_accepted :
    let _readers := foreignReaders
    ¬Intact .unconscious (OnBehalf analysisRequest) (InReplyTo analysisRequest)
      (launched .unconscious zAiGateway analysisRequest 30000 [foreignLine] smoothWorld).result
      (launched .unconscious zAiGateway analysisRequest 30000 [foreignLine] smoothWorld).events := by
  intro _readers hintact
  have hok : (launched .unconscious zAiGateway analysisRequest 30000 [foreignLine]
      smoothWorld).result = .ok foreignResponse := by decide +kernel
  have hids : 7 = 1 := (hintact.accepted foreignResponse hok).1.requestId
  exact absurd hids (by decide)

end BlueLagoon.Worker
