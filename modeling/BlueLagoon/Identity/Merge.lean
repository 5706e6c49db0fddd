import BlueLagoon.Identity.Deltas

/-!
# Merging identity proposals

A merge applies the deltas of a proposal in one transaction, or carries out one action of
the identity kickstart: it starts the custom interview, takes the answer to the current
step, or cancels. The answer to the last step completes the interview with the items of
the identity. The ids and instants that the source draws inside a transaction are drawn
before it.
-/

namespace BlueLagoon

open Interleaving Harness

structure IdentityResetOutcome where
  resetAt : DateTime
  previousLifecycleState : Option IdentityLifecycleState
  supersededIdentityItemCount : Nat
  cancelledInterviewCount : Nat
  deriving DecidableEq, Repr

namespace Identity

/-! ## The steps of the custom interview -/

/-- `CUSTOM_IDENTITY_STEPS`. -/
def customIdentitySteps : List String :=
  ["name", "identity_form", "archetype_role", "temperament", "communication_style", "backstory",
   "age_framing", "likes", "dislikes", "values", "boundaries", "tendencies", "goals",
   "relationship_to_user"]

/-- `next_missing_step`. -/
def nextMissingStep (answeredFields : List (String × String)) : Option String :=
  customIdentitySteps.find? fun step => !(answeredFields.map Prod.fst).contains step

/-- `serde_json::Map::insert`. -/
def insertField (answeredFields : List (String × String)) (key value : String) :
    List (String × String) :=
  if (answeredFields.map Prod.fst).contains key then
    Table.update (fun field => field.1 = key) (fun _ => (key, value)) answeredFields
  else answeredFields ++ [(key, value)]

/-- `answer_value`. -/
def answerValue (answeredFields : List (String × String)) (field : String) : String :=
  Text.trim ((answeredFields.lookup field).getD "")

/-- The items of a completed interview: stability, category, key, answered field, merge policy
and weight of each, as in `custom_identity_deltas_from_answers`. -/
def customIdentityFields : List (IdentityStabilityClass × IdentityItemCategory × String × String ×
    IdentityMergePolicy × UInt8) :=
  [(.stable, .name, "name", "name", .protectedCore, 100),
   (.stable, .identityForm, "identity_form", "identity_form", .protectedCore, 100),
   (.stable, .role, "role", "archetype_role", .protectedCore, 100),
   (.stable, .archetype, "archetype", "archetype_role", .protectedCore, 100),
   (.stable, .originBackstory, "origin_backstory", "backstory", .protectedCore, 100),
   (.stable, .ageFraming, "age_framing", "age_framing", .protectedCore, 100),
   (.stable, .foundationalTrait, "foundational_trait", "temperament", .protectedCore, 100),
   (.stable, .foundationalValue, "foundational_value", "values", .protectedCore, 100),
   (.stable, .enduringBoundary, "enduring_boundary", "boundaries", .protectedCore, 100),
   (.stable, .defaultCommunicationStyle, "default_communication_style", "communication_style",
    .protectedCore, 100),
   (.evolving, .like, "like", "likes", .revisable, 80),
   (.evolving, .dislike, "dislike", "dislikes", .revisable, 80),
   (.evolving, .learnedTendency, "learned_tendency", "tendencies", .revisable, 80),
   (.evolving, .goal, "goal", "goals", .revisable, 80),
   (.evolving, .interactionStyleAdaptation, "interaction_style_adaptation",
    "relationship_to_user", .revisable, 80)]

/-- `custom_identity_deltas_from_answers`. -/
def customIdentityDeltasFromAnswers (answeredFields : List (String × String))
    (proposal : CanonicalProposal) : List IdentityItemDelta :=
  customIdentityFields.map fun (stabilityClass, category, itemKey, field, mergePolicy, weight) =>
    { operation := .add
      stabilityClass := stabilityClass
      category := category
      itemKey := itemKey
      value := answerValue answeredFields field
      confidencePct := 100
      weightPct := some weight
      source := .customInterview
      mergePolicy := mergePolicy
      evidenceRefs :=
        [{ sourceKind := "custom_identity_interview"
           summary := "User answered the custom identity interview." }]
      validFrom := proposal.validFrom
      validTo := none
      targetIdentityItemId := none }

/-- `custom_self_description`. -/
def customSelfDescription (answeredFields : List (String × String)) : String :=
  let name := answerValue answeredFields "name"
  let form := answerValue answeredFields "identity_form"
  let role := answerValue answeredFields "archetype_role"
  let style := answerValue answeredFields "communication_style"
  let values := answerValue answeredFields "values"
  let boundaries := answerValue answeredFields "boundaries"
  s!"{name} is a {form} with a {role} role. It communicates in a {style} way, values {values}, and keeps boundaries around {boundaries}."

/-- The self-description of a completed interview. -/
def customSelfDescriptionItem (context : ProposalProcessingContext) (proposal : CanonicalProposal)
    (interviewId : Uuid) (answeredFields : List (String × String)) (identityItemId : Uuid) :
    IdentityItemRecord where
  identityItemId := identityItemId
  proposalId := some proposal.proposalId
  traceId := some context.traceId
  stabilityClass := .evolving
  category := .recurringSelfDescription
  itemKey := "self_description"
  valueText := customSelfDescription answeredFields
  confidence := proposal.confidencePct.toNat
  weight := some 80
  provenanceKind := proposal.provenance.provenanceKind
  sourceKind := "custom_interview"
  mergePolicy := .revisable
  status := .active
  evidenceRefs :=
    [{ sourceKind := "identity_interview"
       sourceId := some interviewId
       summary := "Completed custom identity interview." }]
  validFrom := proposal.validFrom
  validTo := proposal.validTo
  supersedesItemId := none

/-! ## What a merge answers -/

/-- A merge that went through. -/
def accepted (proposal : CanonicalProposal) (reason : String)
    (target : Option MergeDecisionTarget) : ProposalEvaluation where
  proposalId := proposal.proposalId
  outcome := .accepted
  reason := reason
  target := target

/-- The state of the current lifecycle. -/
def lifecycleState (db : Database) : Option IdentityLifecycleState :=
  (currentLifecycle db).map IdentityLifecycleRecord.lifecycleState

/-- The interviews in progress. -/
def interviewsInProgress (db : Database) : List Uuid :=
  (db.identityKickstartInterviews.filter fun row => row.status = .inProgress).map
    IdentityInterviewRecord.identityInterviewId

/-! ## Starting the interview -/

/-- The transaction that starts an interview. -/
def startInterview (payload : IdentityDeltaProposal) (interviewId lifecycleId : Uuid)
    (startedAt now : DateTime) (db : Database) : Except ErrorChain Database := do
  let inserted ← insertIdentityInterview
    { identityInterviewId := interviewId
      status := .inProgress
      currentStep := "name"
      answeredFields := [] } now db
  recordLifecycleTransition
    { identityLifecycleId := lifecycleId
      status := .current
      lifecycleState := .identityKickstartInProgress
      activeInterviewId := some interviewId
      transitionReason := payload.rationale
      transitionedBy := "foreground_identity_interview"
      kickstartStartedAt := some startedAt } now inserted

/-- The branch of `StartCustomInterview`. -/
def startCustomInterview (proposal : CanonicalProposal) (payload : IdentityDeltaProposal) :
    Harness ProposalEvaluation := do
  let interviewId ← newUuid
  let lifecycleId ← newUuid
  let startedAt ← utcNow
  inTransaction fun now db =>
    (startInterview payload interviewId lifecycleId startedAt now db).map fun started =>
      { value := (), db := started
        events :=
          [.interviewRead interviewId,
           .interviewStarted interviewId (lifecycleState db) (interviewsInProgress db)] }
  pure (accepted proposal "custom identity interview started" none)

/-! ## Answering -/

/-- The items of a completed interview. -/
def interviewItems (context : ProposalProcessingContext) (proposal : CanonicalProposal)
    (interviewId : Uuid) (answeredFields : List (String × String)) (itemIds : List Uuid)
    (selfDescriptionItemId : Uuid) : List IdentityItemRecord :=
  ((customIdentityDeltasFromAnswers answeredFields proposal).zipWith
    (identityItemFromDelta context proposal) itemIds) ++
    [customSelfDescriptionItem context proposal interviewId answeredFields selfDescriptionItemId]

/-- `insert_identity_item_in_tx`, for each item. -/
def insertItems : List IdentityItemRecord → DateTime → Database → Except ErrorChain Database
  | [], _, db => .ok db
  | row :: rows, now, db => (insertIdentityItem row now db).bind (insertItems rows now)

/-- The transaction that completes an interview. -/
def completeInterview (interview : IdentityInterviewRecord) (answeredFields : List (String × String))
    (items : List IdentityItemRecord) (lifecycleId : Uuid) (completedAt now : DateTime)
    (db : Database) : Except ErrorChain Database := do
  let inserted ← insertItems items now
    (updateIdentityInterviewState interview.identityInterviewId .completed "completed"
      answeredFields now db)
  recordLifecycleTransition
    { identityLifecycleId := lifecycleId
      status := .current
      lifecycleState := .completeIdentityActive
      activeInterviewId := none
      transitionReason := "custom identity interview completed"
      transitionedBy := "foreground_identity_interview"
      kickstartStartedAt := some interview.createdAt
      kickstartCompletedAt := some completedAt } now inserted

/-- The branch of `AnswerCustomInterview` for an answer that is taken. -/
def takeAnswer (context : ProposalProcessingContext) (proposal : CanonicalProposal)
    (interview : IdentityInterviewRecord) (answer : String × String) : Harness ProposalEvaluation :=
  let interviewId := interview.identityInterviewId
  let answeredFields := insertField interview.answeredFields answer.1 answer.2
  match nextMissingStep answeredFields with
  | some nextStep => do
    inTransaction fun now db =>
      .ok { value := ()
            db := updateIdentityInterviewState interviewId .inProgress nextStep answeredFields now db
            events := [.interviewAnswered interviewId answer] }
    pure (accepted proposal s!"custom identity interview advanced to {nextStep}" none)
  | none => do
    let itemIds ← newUuids customIdentityFields.length
    let selfDescriptionItemId ← newUuid
    let lifecycleId ← newUuid
    let completedAt ← utcNow
    inTransaction fun now db =>
      (completeInterview interview answeredFields
        (interviewItems context proposal interviewId answeredFields itemIds selfDescriptionItemId)
        lifecycleId completedAt now db).map fun db =>
          { value := (), db := db, events := [.interviewAnswered interviewId answer] }
    pure (accepted proposal "custom identity interview completed and merged"
      (some (.identityItems (itemIds ++ [selfDescriptionItemId]))))

/-- The branch of `AnswerCustomInterview`, from the interview that was read. -/
def answerInterview (context : ProposalProcessingContext) (proposal : CanonicalProposal)
    (interview : IdentityInterviewRecord) (answer : IdentityInterviewAnswer) :
    Harness ProposalEvaluation :=
  let currentStep := interview.currentStep
  let stepKey := answer.stepKey
  if interview.status ≠ .inProgress then
    Continuity.rejectMerge proposal.proposalId "identity interview is not in progress"
  else if stepKey ≠ currentStep then
    Continuity.rejectMerge proposal.proposalId
      s!"identity interview expected step '{currentStep}' but received '{stepKey}'"
  else takeAnswer context proposal interview (stepKey, Text.trim answer.answerText)

/-- The branch of `AnswerCustomInterview`. -/
def answerCustomInterview (context : ProposalProcessingContext) (proposal : CanonicalProposal)
    (answer : IdentityInterviewAnswer) : Harness ProposalEvaluation := do
  let lifecycle ← getCurrentLifecycle
  match lifecycle with
  | none =>
    Continuity.rejectMerge proposal.proposalId "no active identity interview lifecycle exists"
  | some lifecycle =>
    match lifecycle.activeInterviewId with
    | none => Continuity.rejectMerge proposal.proposalId "identity lifecycle has no active interview"
    | some interviewId => do
      let found ← getIdentityInterview interviewId
      let interview ← expect s!"active identity interview {interviewId} missing" found
      answerInterview context proposal interview answer

/-! ## Cancelling -/

/-- The first statement of `Cancel`. -/
def cancelActiveInterview : Option Uuid → Harness Unit
  | none => pure ()
  | some interviewId =>
    inTransaction fun now db =>
      .ok { value := ()
            db := updateIdentityInterviewState interviewId .cancelled "cancelled" [] now db
            events := [.interviewCancelled interviewId] }

/-- The branch of `Cancel`. -/
def cancelCustomInterview (proposal : CanonicalProposal) (reason : Option String) :
    Harness ProposalEvaluation := do
  let lifecycle ← getCurrentLifecycle
  match lifecycle with
  | none => pure (accepted proposal "no identity interview was active" none)
  | some lifecycle => do
    cancelActiveInterview lifecycle.activeInterviewId
    let lifecycleId ← newUuid
    inTransaction fun now db =>
      (recordLifecycleTransition
        { identityLifecycleId := lifecycleId
          status := .current
          lifecycleState := .bootstrapSeedOnly
          activeInterviewId := none
          transitionReason := reason.getD "custom identity interview cancelled"
          transitionedBy := "foreground_identity_interview" } now db).map fun recorded =>
        { value := (), db := recorded
          events := [.lifecycleRecorded (lifecycleState db) .bootstrapSeedOnly] }
    pure (accepted proposal "custom identity interview cancelled" none)

/-- `apply_identity_interview_action_merge`. -/
def applyIdentityInterviewActionMerge (context : ProposalProcessingContext)
    (proposal : CanonicalProposal) (payload : IdentityDeltaProposal) :
    IdentityKickstartAction → Harness ProposalEvaluation
  | .startCustomInterview => startCustomInterview proposal payload
  | .answerCustomInterview answer => answerCustomInterview context proposal answer
  | .cancel reason => cancelCustomInterview proposal reason
  | .selectPredefinedTemplate _ =>
    pure (Proposal.reject proposal.proposalId
      "predefined template selections must be represented as identity item deltas")

/-! ## Merging deltas -/

/-- What the deltas of a proposal come to: the items they left, or the reason why one of them
is turned down. -/
abbrev DeltasOutcome := Except String (List Uuid)

/-- The loop over the item deltas, each with the id of its new item. -/
def applyItemDeltas (tables : Text.Tables) (context : ProposalProcessingContext)
    (proposal : CanonicalProposal) (now : DateTime) :
    List (IdentityItemDelta × Uuid) → Database → Except ErrorChain (DeltasOutcome × Database)
  | [], db => .ok (.ok [], db)
  | (delta, identityItemId) :: rest, db =>
    match applyIdentityItemDelta tables context proposal delta identityItemId now db with
    | .error e => .error e
    | .ok (.rejected reason, db) => .ok (.error reason, db)
    | .ok (.accepted itemId, db) =>
      (applyItemDeltas tables context proposal now rest db).map fun (outcome, db) =>
        (outcome.map (itemId :: ·), db)

/-- The self-description after the item deltas. -/
def applyDeltas (tables : Text.Tables) (context : ProposalProcessingContext)
    (proposal : CanonicalProposal) (payload : IdentityDeltaProposal) (itemIds : List Uuid)
    (selfDescriptionId : Uuid) (now : DateTime) (db : Database) :
    Except ErrorChain (DeltasOutcome × Database) :=
  match applyItemDeltas tables context proposal now (payload.itemDeltas.zip itemIds) db,
    payload.selfDescriptionDelta with
  | .ok (.ok itemIds, db), some delta =>
    (applySelfDescriptionDelta context proposal delta selfDescriptionId now db).map fun
      | (.accepted itemId, db) => (.ok (itemIds ++ [itemId]), db)
      | (.rejected reason, db) => (.error reason, db)
  | outcome, _ => outcome

/-- The row that records the lifecycle state of a proposal. -/
def mergedLifecycle (proposal : CanonicalProposal) (payload : IdentityDeltaProposal)
    (lifecycleId : Uuid) (completedAt : DateTime) : IdentityLifecycleRecord where
  identityLifecycleId := lifecycleId
  status := .current
  lifecycleState := payload.lifecycleState
  activeInterviewId := none
  transitionReason := payload.rationale
  transitionedBy := "identity_delta_merge"
  kickstartStartedAt := proposal.validFrom
  kickstartCompletedAt := some completedAt

/-- Does the merge record the lifecycle state of the proposal? -/
def recordsLifecycle (payload : IdentityDeltaProposal)
    (currentLifecycle : Option IdentityLifecycleRecord) : Bool :=
  currentLifecycle.all fun lifecycle => lifecycle.lifecycleState ≠ payload.lifecycleState

/-- The lifecycle at the end of the transaction of a merge. -/
def recordMergedLifecycle (proposal : CanonicalProposal) (payload : IdentityDeltaProposal)
    (current : Option IdentityLifecycleRecord) (lifecycleId : Uuid)
    (completedAt now : DateTime) (db : Database) : Except ErrorChain Database :=
  if recordsLifecycle payload current then
    recordLifecycleTransition (mergedLifecycle proposal payload lifecycleId completedAt) now db
  else .ok db

/-- The transaction of a merge. A rejection rolls it back. -/
def mergeDeltas (tables : Text.Tables) (context : ProposalProcessingContext)
    (proposal : CanonicalProposal) (payload : IdentityDeltaProposal)
    (current : Option IdentityLifecycleRecord) (itemIds : List Uuid)
    (selfDescriptionId lifecycleId : Uuid) (completedAt now : DateTime) (db : Database) :
    Except ErrorChain (Effect DeltasOutcome) :=
  match applyDeltas tables context proposal payload itemIds selfDescriptionId now db with
  | .error e => .error e
  | .ok (.error reason, _) => .ok { value := .error reason, db := db }
  | .ok (.ok itemIds, applied) =>
    (recordMergedLifecycle proposal payload current lifecycleId completedAt now applied).map
      fun recorded =>
        { value := .ok itemIds
          db := Continuity.updateMergeDecisionTargets proposal.proposalId none none recorded
          events :=
            if recordsLifecycle payload current then
              [.lifecycleRecorded (lifecycleState db) payload.lifecycleState]
            else [] }

/-- What follows the transaction of a merge. -/
def settleDeltas (context : ProposalProcessingContext) (proposal : CanonicalProposal) :
    DeltasOutcome → Harness ProposalEvaluation
  | .ok itemIds =>
    pure (accepted proposal "identity proposal merged into canonical identity store"
      (some (.identityItems itemIds)))
  | .error reason => do
    insertIdentityDeltaRejectionDiagnostic context proposal.proposalId reason
    Continuity.rejectMerge proposal.proposalId reason

/-- The merge of a proposal without an interview action. -/
def mergeIntoStore (tables : Text.Tables) (context : ProposalProcessingContext)
    (proposal : CanonicalProposal) (payload : IdentityDeltaProposal) :
    Harness ProposalEvaluation := do
  let current ← getCurrentLifecycle
  let itemIds ← newUuids payload.itemDeltas.length
  let selfDescriptionId ← newUuid
  let lifecycleId ← newUuid
  let completedAt ← utcNow
  let outcome ← inTransaction (mergeDeltas tables context proposal payload current itemIds
    selfDescriptionId lifecycleId completedAt)
  settleDeltas context proposal outcome

/-- `apply_identity_delta_proposal_merge`. -/
def applyIdentityDeltaProposalMerge (tables : Text.Tables) (context : ProposalProcessingContext)
    (proposal : CanonicalProposal) : Harness ProposalEvaluation :=
  let validation := Proposal.validateProposal proposal
  if validation.outcome = .rejected then
    Continuity.rejectMerge proposal.proposalId validation.reason
  else
    match proposal.payload with
    | .identityDelta payload =>
      match payload.interviewAction with
      | some action => applyIdentityInterviewActionMerge context proposal payload action
      | none => mergeIntoStore tables context proposal payload
    | _ =>
      Continuity.rejectMerge proposal.proposalId
        "identity merge requires an identity_delta payload"

/-! ## Resetting -/

/-- The transaction of a reset. -/
def resetIdentity (actorRef : String) (reason : Option String) (lifecycleId : Uuid)
    (resetAt now : DateTime) (db : Database) : Except ErrorChain Database :=
  recordLifecycleTransition
    { identityLifecycleId := lifecycleId
      status := .current
      lifecycleState := .bootstrapSeedOnly
      activeInterviewId := none
      transitionReason := reason.getD "operator identity reset"
      transitionedBy := actorRef
      resetAt := some resetAt } now
    { db with
      identityItems :=
        Table.update (fun row => row.status = .active)
          (fun row => { row with
            status := .superseded
            supersededAt := some now
            updatedAt := now }) db.identityItems
      identityKickstartInterviews :=
        Table.update (fun row => row.status = .inProgress)
          (fun row => { row with
            status := .cancelled
            currentStep := "cancelled"
            updatedAt := now }) db.identityKickstartInterviews }

/-- `reset_to_bootstrap`. -/
def resetToBootstrap (actorRef : String) (reason : Option String) :
    Harness IdentityResetOutcome := do
  let resetAt ← utcNow
  let lifecycleId ← newUuid
  inTransaction fun now db =>
    (resetIdentity actorRef reason lifecycleId resetAt now db).map fun reset =>
      { value :=
          { resetAt := resetAt
            previousLifecycleState := lifecycleState db
            supersededIdentityItemCount := db.identityItems.countP fun row => row.status = .active
            cancelledInterviewCount := (interviewsInProgress db).length }
        db := reset
        events := (interviewsInProgress db).flatMap fun id => [.interviewRead id, .interviewReset id] }

end Identity

end BlueLagoon
