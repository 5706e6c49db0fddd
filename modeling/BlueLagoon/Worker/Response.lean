import BlueLagoon.Canonical.Contracts
import BlueLagoon.Worker.ControlBlocks
import Mathlib.Algebra.GroupWithZero.Nat

/-!
# The conscious worker's response

`build_conscious_worker_response` makes the worker's answer from a model's output: the
proposals it reads off the user's message and the control blocks, and the text that is
left for the user.
-/

namespace BlueLagoon.Worker

/-! ## What the worker is given -/

structure IdentityKickstartContext where
  nextStep : Option String
  deriving DecidableEq, Repr

structure IdentityLifecycleContext where
  state : IdentityLifecycleState := .bootstrapSeedOnly
  kickstartAvailable : Bool := false
  kickstart : Option IdentityKickstartContext := none
  deriving DecidableEq, Repr

structure EpisodeExcerpt where
  userMessage : Option String
  assistantMessage : Option String
  deriving DecidableEq, Repr

/-- The parts of a `ConsciousContext` that the response depends on. -/
structure ConsciousContext where
  ingress : NormalizedIngress
  mode : ForegroundExecutionMode := .singleIngress
  orderedIngressIds : List Uuid := []
  identityLifecycle : IdentityLifecycleContext := {}
  recentHistory : List EpisodeExcerpt := []
  deriving DecidableEq, Repr

/-- The JSON of an identity block. -/
structure IdentityKickstartBlock where
  action : String
  templateKey : Option String := none
  answer : Option Json := none
  cancelReason : Option String := none

/-- What the worker takes from elsewhere: the JSON reader, and the table of predefined
identities. -/
structure WorkerReaders where
  /-- `serde_json::from_str::<GovernedActionEnvelope>`, with the text of its error -/
  actions : String → Except String (List GovernedActionProposal)
  /-- `serde_json::from_str::<IdentityKickstartBlock>` -/
  kickstart : String → Option IdentityKickstartBlock
  /-- `predefined_identity_delta` -/
  predefinedIdentityDelta : String → DateTime → Option IdentityDeltaProposal

/-- `current_source_ingress_ids`. -/
def currentSourceIngressIds (context : ConsciousContext) : List Uuid :=
  if context.mode = .backlogRecovery ∧ context.orderedIngressIds ≠ [] then
    context.orderedIngressIds
  else [context.ingress.ingressId]

/-! ## Proposals from the user's message -/

/-- `validate_candidate_proposals`, for one proposal. -/
def validateCandidateProposal (context : ConsciousContext) (proposal : CanonicalProposal) :
    Except String Unit :=
  if proposal.confidencePct = 0 then
    .error "candidate proposal confidence_pct must be greater than zero"
  else if Text.isBlank proposal.subjectRef then
    .error "candidate proposal subject_ref must not be empty"
  else if proposal.provenance.sourceIngressIds = [] then
    .error "candidate proposal provenance must include source ingress ids"
  else if proposal.provenance.sourceIngressIds.any fun id =>
      !(currentSourceIngressIds context).contains id then
    .error "candidate proposal provenance referenced an unknown ingress id"
  else
    let fits : Bool :=
      match proposal.proposalKind, proposal.canonicalTarget, proposal.payload with
      | .memoryArtifact, .memoryArtifacts, .memoryArtifact payload =>
        !Text.isBlank payload.artifactKind && !Text.isBlank payload.contentText
      | .selfModelObservation, .selfModelArtifacts, .selfModelObservation payload =>
        !Text.isBlank payload.observationKind && !Text.isBlank payload.contentText
      | _, _, _ => false
    if !fits then
      .error "candidate proposal payload did not match the declared proposal kind"
    else
      match proposal.conflictPosture, proposal.supersedesArtifactId with
      | .independent, some _ | .conflicts, some _ =>
        .error "candidate proposal conflict posture allows no supersedes_artifact_id"
      | .revises, none | .supersedes, none =>
        .error "candidate proposal conflict posture requires supersedes_artifact_id"
      | _, _ => .ok ()

/-- `build_candidate_proposals`. The identifiers are drawn in order. -/
def buildCandidateProposals (context : ConsciousContext) (memoryId styleId : Uuid) :
    Except String (List CanonicalProposal) :=
  match context.ingress.textBody with
  | none => .ok []
  | some triggerText =>
    let lowered := Text.toAsciiLowercase triggerText
    let memory : List CanonicalProposal :=
      if Text.contains lowered "remember that " || Text.contains lowered "i prefer " then
        [{ proposalId := memoryId
           proposalKind := .memoryArtifact
           canonicalTarget := .memoryArtifacts
           confidencePct := 85
           conflictPosture := .independent
           subjectRef := s!"principal:{context.ingress.internalPrincipalRef}"
           rationale := some "Foreground trigger explicitly expressed a user preference or fact."
           validFrom := some context.ingress.occurredAt
           validTo := none
           supersedesArtifactId := none
           provenance :=
             { provenanceKind :=
                 match context.mode with
                 | .singleIngress => .episodeObservation
                 | .backlogRecovery => .backlogRecovery
               sourceIngressIds := currentSourceIngressIds context
               sourceEpisodeId := none }
           payload := .memoryArtifact
             { artifactKind := "preference", contentText := Text.trim triggerText } }]
      else []
    let style : List CanonicalProposal :=
      if Text.contains lowered "be concise" || Text.contains lowered "more concise" ||
          Text.contains lowered "be direct" || Text.contains lowered "more direct" then
        [{ proposalId := styleId
           proposalKind := .selfModelObservation
           canonicalTarget := .selfModelArtifacts
           confidencePct := 78
           conflictPosture := .independent
           subjectRef := "self"
           rationale := some
             "Foreground trigger contained an explicit instruction about assistant style."
           validFrom := some context.ingress.occurredAt
           validTo := none
           supersedesArtifactId := none
           provenance :=
             { provenanceKind := .episodeObservation
               sourceIngressIds := currentSourceIngressIds context
               sourceEpisodeId := none }
           payload := .selfModelObservation
             { observationKind := "interaction_style", contentText := Text.trim triggerText } }]
      else []
    (List.forM (memory ++ style) (validateCandidateProposal context)).map fun _ => memory ++ style

/-! ## Proposals from an identity block -/

/-- `current_identity_interview_step`. -/
def currentIdentityInterviewStep (context : ConsciousContext) : Option String :=
  if context.identityLifecycle.state ≠ .identityKickstartInProgress then none
  else context.identityLifecycle.kickstart.bind IdentityKickstartContext.nextStep

/-- `infer_identity_interview_answer_from_trigger`. -/
def inferIdentityInterviewAnswerFromTrigger (context : ConsciousContext) :
    Option IdentityInterviewAnswer :=
  (currentIdentityInterviewStep context).bind fun stepKey =>
    context.ingress.textBody.bind fun text =>
      let answerText := Text.trim text
      if answerText = "" then none else some { stepKey := stepKey, answerText := answerText }

/-- `parse_identity_interview_answer`, which never fails. -/
def parseIdentityInterviewAnswer (context : ConsciousContext) :
    Option Json → Option IdentityInterviewAnswer
  | none | some .null => inferIdentityInterviewAnswerFromTrigger context
  | some (.str answerText) =>
    (currentIdentityInterviewStep context).map fun stepKey =>
      { stepKey := stepKey, answerText := Text.trim answerText }
  -- a struct is also read from the sequence of its fields
  | some (.arr [.str stepKey, .str answerText]) =>
    some { stepKey := stepKey, answerText := answerText }
  | some value =>
    match (value.get "step_key").bind Json.asStr, (value.get "answer_text").bind Json.asStr with
    | some stepKey, some answerText => some { stepKey := stepKey, answerText := answerText }
    | _, _ => inferIdentityInterviewAnswerFromTrigger context

/-- A proposal about the formation of the identity, drawn from the current message. -/
def kickstartProposal (context : ConsciousContext) (proposalId : Uuid) (rationale : String)
    (delta : IdentityDeltaProposal) : CanonicalProposal where
  proposalId := proposalId
  proposalKind := .identityDelta
  canonicalTarget := .identityItems
  confidencePct := 100
  conflictPosture := .independent
  subjectRef := "self:blue-lagoon"
  rationale := some rationale
  validFrom := some context.ingress.occurredAt
  validTo := none
  supersedesArtifactId := none
  provenance :=
    { provenanceKind := .episodeObservation
      sourceIngressIds := currentSourceIngressIds context
      sourceEpisodeId := none }
  payload := .identityDelta delta

/-- `identity_interview_action_proposal`. -/
def identityInterviewActionProposal (context : ConsciousContext) (proposalId : Uuid)
    (action : IdentityKickstartAction) (lifecycleState : IdentityLifecycleState)
    (rationale : String) : CanonicalProposal :=
  kickstartProposal context proposalId rationale
    { lifecycleState := lifecycleState
      interviewAction := some action
      rationale := rationale }

/-- The proposals that the content of an identity block makes. -/
def kickstartBlockProposals (readers : WorkerReaders) (context : ConsciousContext)
    (proposalId : Uuid) (blockJson : String) : List CanonicalProposal :=
  if !context.identityLifecycle.kickstartAvailable then []
  else
    match readers.kickstart blockJson with
    | none => []
    | some block =>
      match block.action with
      | "select_predefined_identity" =>
        if context.identityLifecycle.state ≠ .bootstrapSeedOnly then []
        else
          match block.templateKey with
          | none => []
          | some templateKey =>
            (readers.predefinedIdentityDelta templateKey context.ingress.occurredAt).toList.map
              (kickstartProposal context proposalId
                s!"User selected predefined identity template '{templateKey}'.")
      | "start_custom_identity_interview" =>
        [identityInterviewActionProposal context proposalId .startCustomInterview
          .identityKickstartInProgress "User started a custom identity interview."]
      | "answer_custom_identity_question" =>
        (parseIdentityInterviewAnswer context block.answer).toList.map fun answer =>
          identityInterviewActionProposal context proposalId (.answerCustomInterview answer)
            .identityKickstartInProgress "User answered a custom identity interview step."
      | "cancel_identity_formation" =>
        [identityInterviewActionProposal context proposalId (.cancel block.cancelReason)
          .bootstrapSeedOnly "User cancelled identity formation."]
      | _ => []

/-- `build_identity_kickstart_proposals`. -/
def buildIdentityKickstartProposals (readers : WorkerReaders) (context : ConsciousContext)
    (proposalId : Uuid) (modelText : List Char) : List CanonicalProposal :=
  match extractTaggedBlock modelText .identityKickstart with
  | none => []
  | some blockJson => kickstartBlockProposals readers context proposalId blockJson

/-! ## Governed actions -/

/-- `build_governed_action_proposals`. -/
def buildGovernedActionProposals (readers : WorkerReaders) (modelText : List Char) :
    Except String (List GovernedActionProposal) :=
  match extractTaggedBlock modelText .governedActions with
  | none => .ok []
  | some blockJson =>
    match readers.actions blockJson with
    | .ok actions => .ok actions
    | .error error => .error s!"invalid governed-action proposal block: {error}"

/-- `looks_like_bare_governed_action_alias`. -/
def looksLikeBareGovernedActionAlias (text : String) : Bool :=
  !text.isEmpty &&
    (text.toList.all fun c => ('a' ≤ c && c ≤ 'z') || ('0' ≤ c && c ≤ '9') || c = '_') &&
    (["inspect_", "list_", "create_", "update_", "append_", "request_", "run_", "upsert_",
      "read_"].any (Text.startsWith text)) &&
    (text = "web_fetch" ||
      ["workspace_", "artifact", "script", "diagnostic", "subprocess", "background_job",
        "foreground_task"].any (Text.contains text))

/-- `detect_bare_governed_action_invocation`. -/
def detectBareGovernedActionInvocation (text : String) : Option String :=
  if ["inspect_workspace_artifact", "list_workspace_artifacts", "create_workspace_artifact",
      "update_workspace_artifact", "list_workspace_scripts", "inspect_workspace_script",
      "create_workspace_script", "append_workspace_script_version", "list_workspace_script_runs",
      "upsert_scheduled_foreground_task", "request_background_job", "run_diagnostic",
      "run_subprocess", "run_workspace_script", "web_fetch"].contains text ||
      looksLikeBareGovernedActionAlias text then some text
  else none

/-- `strip_json_language_prefix`. -/
def stripJsonLanguagePrefix (text : String) : String :=
  let trimmed := Text.trim text
  if Text.startsWith trimmed "json\n" then
    String.ofList ((trimmed.toList.drop 5).dropWhile Text.isWhitespace)
  else if Text.startsWith trimmed "json\r\n" then
    String.ofList ((trimmed.toList.drop 6).dropWhile Text.isWhitespace)
  else trimmed

/-- `looks_like_untagged_governed_action_payload`. -/
def looksLikeUntaggedGovernedActionPayload (text : String) : Bool :=
  let jsonish := stripJsonLanguagePrefix text
  Text.startsWith jsonish "\x7b" &&
    ((Text.contains jsonish "\"actions\"" &&
        (Text.contains jsonish "\"action_kind\"" || Text.contains jsonish "\"payload\"")) ||
      (Text.contains jsonish "\"payload\"" && Text.contains jsonish "\"kind\"" &&
        Text.contains jsonish "\"value\"") ||
      (Text.contains jsonish "\"governed-action\"" && Text.contains jsonish "\"name\"" &&
        Text.contains jsonish "\"arguments\""))

/-- `validate_governed_action_response_shape`. -/
def validateGovernedActionResponseShape (modelText : List Char) (assistantText : String)
    (proposals : List GovernedActionProposal) : Except String Unit :=
  if proposals ≠ [] then .ok ()
  else if (Search.splitFirst ControlTag.governedActions.marker modelText).isSome ∧
      extractTaggedBlock modelText .governedActions = none then
    .error "governed-action control block marker was present but the block was malformed or incomplete"
  else
    let trimmed := Text.trim assistantText
    match detectBareGovernedActionInvocation trimmed with
    | some actionName =>
      .error s!"model attempted a governed action without the required governed-action block; returned bare action token '{actionName}'"
    | none =>
      if looksLikeUntaggedGovernedActionPayload trimmed then
        .error "model returned a likely governed-action payload outside the required governed-action block"
      else .ok ()

/-! ## The response -/

/-- `history_message_count`. -/
def historyMessageCount (context : ConsciousContext) : Nat :=
  (context.recentHistory.map fun episode =>
    episode.userMessage.toList.length + episode.assistantMessage.toList.length).sum

/-- The `ConsciousWorkerResult` of a response. -/
structure ConsciousWorkerResponse where
  channelKind : ChannelKind
  internalConversationRef : String
  assistantText : String
  episodeSummary : String
  episodeOutcome : String
  messageCount : Nat
  candidateProposals : List CanonicalProposal
  governedActionProposals : List GovernedActionProposal
  deriving DecidableEq, Repr

/-- The identifiers that the proposals of a response are given. -/
structure ProposalIds where
  memory : Uuid
  style : Uuid
  kickstart : Uuid

/-- `build_conscious_worker_response`. -/
def buildConsciousWorkerResponse (readers : WorkerReaders) (context : ConsciousContext)
    (ids : ProposalIds) (modelText : String) : Except String ConsciousWorkerResponse := do
  let candidateProposals ← buildCandidateProposals context ids.memory ids.style
  let kickstartProposals :=
    buildIdentityKickstartProposals readers context ids.kickstart modelText.toList
  let governedActionProposals ← buildGovernedActionProposals readers modelText.toList
  let assistantText := String.ofList (stripWorkerControlBlocks modelText.toList)
  validateGovernedActionResponseShape modelText.toList assistantText governedActionProposals
  pure
    { channelKind := context.ingress.channelKind
      internalConversationRef := context.ingress.internalConversationRef
      assistantText := assistantText
      episodeSummary := s!"foreground response completed for {context.ingress.externalEventId}"
      episodeOutcome := "completed"
      messageCount := historyMessageCount context + 2
      candidateProposals := candidateProposals ++ kickstartProposals
      governedActionProposals := governedActionProposals }

end BlueLagoon.Worker
