import BlueLagoon.Canonical.Contracts

/-!
# Validation of canonical proposals

`validate_proposal` looks at a proposal alone, not at the stores. Its checks run in
order, and the first one that fails gives the reason of the rejection.
-/

namespace BlueLagoon

namespace Proposal

def accept (proposalId : Uuid) : ProposalEvaluation where
  proposalId := proposalId
  outcome := .accepted
  reason := "proposal accepted for canonical merge"
  target := none

def reject (proposalId : Uuid) (reason : String) : ProposalEvaluation where
  proposalId := proposalId
  outcome := .rejected
  reason := reason
  target := none

/-- `valid_to < valid_from`, when both are given. -/
def endsBeforeItStarts (validFrom validTo : Option DateTime) : Bool :=
  match validFrom, validTo with
  | some start, some finish => decide (finish < start)
  | _, _ => false

def validateConflictPosture (proposal : CanonicalProposal) : Option String :=
  match proposal.conflictPosture with
  | .independent | .conflicts =>
    if proposal.supersedesArtifactId.isSome then
      some "proposal conflict posture allows no supersedes_artifact_id"
    else none
  | .revises | .supersedes =>
    if proposal.supersedesArtifactId.isNone then
      some "proposal conflict posture requires supersedes_artifact_id"
    else none

def validateMemoryPayload (proposalId : Uuid) (payload : MemoryArtifactProposal) :
    ProposalEvaluation :=
  if Text.isBlank payload.artifactKind then
    reject proposalId "memory_artifact proposal artifact_kind must not be empty"
  else if Text.isBlank payload.contentText then
    reject proposalId "memory_artifact proposal content_text must not be empty"
  else accept proposalId

def validateSelfModelPayload (proposalId : Uuid) (payload : SelfModelObservationProposal) :
    ProposalEvaluation :=
  if Text.isBlank payload.observationKind then
    reject proposalId "self_model_observation proposal observation_kind must not be empty"
  else if Text.isBlank payload.contentText then
    reject proposalId "self_model_observation proposal content_text must not be empty"
  else accept proposalId

/-- The checks on one item delta, the body of the loop of
`validate_identity_delta_payload`. -/
def itemDeltaFault (delta : IdentityItemDelta) : Option String :=
  if Text.isBlank delta.itemKey then some "identity_delta item_key must not be empty"
  else if Text.isBlank delta.value then some "identity_delta value must not be empty"
  else if delta.confidencePct = 0 then
    some "identity_delta confidence_pct must be greater than zero"
  else if delta.weightPct.any fun weight => decide (weight > 100) then
    some "identity_delta weight_pct must be 0..=100"
  else if delta.stabilityClass = .stable && delta.source = .modelInferred then
    some "model-inferred stable identity deltas require explicit approval policy"
  else if delta.source = .modelInferred && delta.evidenceRefs.isEmpty then
    some "model-inferred identity deltas must include evidence_refs"
  else if endsBeforeItStarts delta.validFrom delta.validTo then
    some "identity_delta valid_to must not be earlier than valid_from"
  else none

def validateIdentityDeltaPayload (proposalId : Uuid) (payload : IdentityDeltaProposal) :
    ProposalEvaluation :=
  if Text.isBlank payload.rationale then
    reject proposalId "identity_delta proposal rationale must not be empty"
  else if payload.itemDeltas.isEmpty && payload.selfDescriptionDelta.isNone &&
      payload.interviewAction.isNone then
    reject proposalId
      "identity_delta proposal must include item_deltas, self_description_delta, or interview_action"
  else
    match payload.itemDeltas.findSome? itemDeltaFault with
    | some reason => reject proposalId reason
    | none =>
      if payload.selfDescriptionDelta.any fun delta => Text.isBlank delta.description then
        reject proposalId "self_description_delta description must not be empty"
      else accept proposalId

def validateProposal (proposal : CanonicalProposal) : ProposalEvaluation :=
  if Text.isBlank proposal.subjectRef then
    reject proposal.proposalId "proposal subject_ref must not be empty"
  else if proposal.confidencePct = 0 then
    reject proposal.proposalId "proposal confidence_pct must be greater than zero"
  else if proposal.provenance.sourceIngressIds.isEmpty &&
      proposal.provenance.sourceEpisodeId.isNone then
    reject proposal.proposalId
      "proposal provenance must reference at least one ingress or source episode"
  else if proposal.provenance.provenanceKind = .selfModelReflection &&
      proposal.canonicalTarget = .memoryArtifacts then
    reject proposal.proposalId
      "self_model_reflection provenance may target only self_model_artifacts or identity_items"
  else if endsBeforeItStarts proposal.validFrom proposal.validTo then
    reject proposal.proposalId "proposal valid_to must not be earlier than valid_from"
  else
    match validateConflictPosture proposal with
    | some message => reject proposal.proposalId message
    | none =>
      match proposal.proposalKind, proposal.canonicalTarget, proposal.payload with
      | .memoryArtifact, .memoryArtifacts, .memoryArtifact payload =>
        validateMemoryPayload proposal.proposalId payload
      | .selfModelObservation, .selfModelArtifacts, .selfModelObservation payload =>
        validateSelfModelPayload proposal.proposalId payload
      | .identityDelta, .identityItems, .identityDelta payload =>
        validateIdentityDeltaPayload proposal.proposalId payload
      | .memoryArtifact, .selfModelArtifacts, _ | .memoryArtifact, .identityItems, _ =>
        reject proposal.proposalId
          "memory_artifact proposals may not target self_model_artifacts or identity_items"
      | .selfModelObservation, .memoryArtifacts, _ | .selfModelObservation, .identityItems, _ =>
        reject proposal.proposalId
          "self_model_observation proposals may not target memory_artifacts or identity_items"
      | .identityDelta, .memoryArtifacts, _ | .identityDelta, .selfModelArtifacts, _ =>
        reject proposal.proposalId "identity_delta proposals may target only identity_items"
      | _, _, _ =>
        reject proposal.proposalId
          "proposal payload kind does not match proposal_kind and canonical_target"

end Proposal

end BlueLagoon
