import BlueLagoon.Identity.Merge
import BlueLagoon.Memory
import BlueLagoon.SelfModel

/-!
# Applying candidate proposals

Each candidate is validated and recorded, with the decision about it, in one transaction.
One that passed goes to the merge of its kind, which may still turn it down.
-/

namespace BlueLagoon

open Interleaving Harness

def CanonicalProposalKind.asStr : CanonicalProposalKind → String
  | memoryArtifact => "memory_artifact"
  | selfModelObservation => "self_model_observation"
  | identityDelta => "identity_delta"

def CanonicalTargetKind.asStr : CanonicalTargetKind → String
  | memoryArtifacts => "memory_artifacts"
  | selfModelArtifacts => "self_model_artifacts"
  | identityItems => "identity_items"

structure ProposalApplicationSummary where
  evaluatedCount : Nat := 0
  acceptedCount : Nat := 0
  rejectedCount : Nat := 0
  canonicalWriteCount : Nat := 0
  deriving DecidableEq, Repr

namespace Proposal

/-! ## Recording -/

/-- `proposal_content_text`. -/
def proposalContentText (proposal : CanonicalProposal) : String :=
  match proposal.payload with
  | .memoryArtifact payload => payload.contentText
  | .selfModelObservation payload => payload.contentText
  | .identityDelta payload => payload.rationale

/-- `accepted_memory_target`. -/
def acceptedMemoryTarget (evaluation : ProposalEvaluation) : Option Uuid :=
  match evaluation.target with
  | some (.memoryArtifact artifactId) => some artifactId
  | _ => none

/-- `accepted_self_model_target`. -/
def acceptedSelfModelTarget (evaluation : ProposalEvaluation) : Option Uuid :=
  match evaluation.target with
  | some (.selfModelArtifact artifactId) => some artifactId
  | _ => none

/-- `severity_for_outcome`. -/
def severityForOutcome : ProposalEvaluationOutcome → String
  | .accepted => "info"
  | .rejected => "warn"

/-- The row of a proposal; its status is the outcome of the validation. -/
def proposalRow (context : ProposalProcessingContext) (proposal : CanonicalProposal)
    (outcome : ProposalEvaluationOutcome) : ProposalRecord where
  proposalId := proposal.proposalId
  traceId := context.traceId
  executionId := context.executionId
  episodeId := context.episodeId
  sourceIngressId := context.sourceIngressId
  sourceLoopKind := context.sourceLoopKind
  proposalKind := proposal.proposalKind
  canonicalTarget := proposal.canonicalTarget
  status := outcome.asStr
  confidence := proposal.confidencePct.toNat
  conflictPosture := proposal.conflictPosture
  subjectRef := proposal.subjectRef
  contentText := proposalContentText proposal
  rationale := proposal.rationale
  validFrom := proposal.validFrom
  validTo := proposal.validTo
  supersedesArtifactId := proposal.supersedesArtifactId
  supersedesArtifactKind := proposal.supersedesArtifactId.map fun _ => proposal.canonicalTarget

/-- The row of the decision about a proposal. -/
def decisionRow (context : ProposalProcessingContext) (proposal : CanonicalProposal)
    (evaluation : ProposalEvaluation) (mergeDecisionId : Uuid) : MergeDecisionRecord where
  mergeDecisionId := mergeDecisionId
  proposalId := proposal.proposalId
  traceId := context.traceId
  executionId := context.executionId
  episodeId := context.episodeId
  decisionKind := evaluation.outcome.asStr
  decisionReason := evaluation.reason
  acceptedMemoryArtifactId := acceptedMemoryTarget evaluation
  acceptedSelfModelArtifactId := acceptedSelfModelTarget evaluation

/-- An audit event about a proposal. -/
def auditEvent (context : ProposalProcessingContext) (subsystem eventKind severity : String)
    (payload : Json) : NewAuditEvent where
  loopKind := context.sourceLoopKind
  subsystem := subsystem
  eventKind := eventKind
  severity := severity
  traceId := context.traceId
  executionId := some context.executionId
  payload := payload

/-- The event `proposal_evaluated`. -/
def evaluatedEvent (context : ProposalProcessingContext) (proposal : CanonicalProposal)
    (evaluation : ProposalEvaluation) : NewAuditEvent :=
  auditEvent context "proposal_validation" "proposal_evaluated"
    (severityForOutcome evaluation.outcome)
    (.obj
      [("proposal_id", .uuid proposal.proposalId),
       ("proposal_kind", .str proposal.proposalKind.asStr),
       ("canonical_target", .str proposal.canonicalTarget.asStr),
       ("outcome", .str evaluation.outcome.asStr),
       ("reason", .str evaluation.reason)])

/-- The event `merge_decision_recorded`. -/
def decisionEvent (context : ProposalProcessingContext) (proposal : CanonicalProposal)
    (evaluation : ProposalEvaluation) : NewAuditEvent :=
  auditEvent context "proposal_validation" "merge_decision_recorded"
    (severityForOutcome evaluation.outcome)
    (.obj
      [("proposal_id", .uuid proposal.proposalId),
       ("decision_kind", .str evaluation.outcome.asStr)])

/-- The transaction of `validate_and_record_proposal`. -/
def recordProposal (context : ProposalProcessingContext) (proposal : CanonicalProposal)
    (evaluation : ProposalEvaluation) (mergeDecisionId evaluatedId recordedId : Uuid)
    (now : DateTime) (db : Database) : Except ErrorChain Database := do
  let inserted ←
    Continuity.insertProposal (proposalRow context proposal evaluation.outcome) now db
  let decided ←
    Continuity.insertMergeDecision (decisionRow context proposal evaluation mergeDecisionId) now
      inserted
  pure { decided with
    auditEvents := decided.auditEvents ++
      [Audit.row evaluatedId now (evaluatedEvent context proposal evaluation),
       Audit.row recordedId now (decisionEvent context proposal evaluation)] }

/-- `validate_and_record_proposal`. -/
def validateAndRecordProposal (context : ProposalProcessingContext)
    (proposal : CanonicalProposal) : Harness ProposalEvaluation := do
  let evaluation := validateProposal proposal
  let mergeDecisionId ← newUuid
  let evaluatedId ← newUuid
  let recordedId ← newUuid
  inTransaction fun now db =>
    (recordProposal context proposal evaluation mergeDecisionId evaluatedId recordedId now db).map
      fun db => { value := (), db := db }
  pure evaluation

/-! ## Merging -/

/-- The merge of a proposal of each kind. -/
def mergeCandidate (tables : Text.Tables) (context : ProposalProcessingContext)
    (candidate : CanonicalProposal) : Harness ProposalEvaluation :=
  match candidate.proposalKind with
  | .memoryArtifact => Memory.applyMemoryProposalMerge context candidate
  | .selfModelObservation => SelfModel.applySelfModelProposalMerge context candidate
  | .identityDelta => Identity.applyIdentityDeltaProposalMerge tables context candidate

/-- A target of a decision as it is serialised. -/
def targetJson : MergeDecisionTarget → Json
  | .memoryArtifact artifactId =>
    .obj [("kind", .str "memory_artifact"), ("artifact_id", .uuid artifactId)]
  | .selfModelArtifact artifactId =>
    .obj [("kind", .str "self_model_artifact"), ("artifact_id", .uuid artifactId)]
  | .identityItems itemIds =>
    .obj [("kind", .str "identity_items"), ("artifact_id", .arr (itemIds.map .uuid))]

/-- The event `canonical_write_applied`, for a merge that wrote something. -/
def noteCanonicalWrite (context : ProposalProcessingContext) (subsystem : String)
    (candidate : CanonicalProposal) : Option MergeDecisionTarget → Harness Unit
  | none => pure ()
  | some target => do
    let _ ← Audit.insert (auditEvent context subsystem "canonical_write_applied" "info"
      (.obj
        [("proposal_id", .uuid candidate.proposalId),
         ("outcome", .str "accepted"),
         ("target", targetJson target)]))
    pure ()

/-- The body of the loop of `apply_candidate_proposals`; the value is the final evaluation. -/
def processCandidate (tables : Text.Tables) (context : ProposalProcessingContext)
    (subsystem : String) (candidate : CanonicalProposal) : Harness ProposalEvaluation := do
  let validation ← validateAndRecordProposal context candidate
  match validation.outcome with
  | .rejected => pure validation
  | .accepted => do
    let mergeOutcome ← mergeCandidate tables context candidate
    match mergeOutcome.outcome with
    | .accepted => do
      noteCanonicalWrite context subsystem candidate mergeOutcome.target
      pure mergeOutcome
    | .rejected => pure mergeOutcome

end Proposal

/-- The counters after a candidate. -/
def ProposalApplicationSummary.count (summary : ProposalApplicationSummary)
    (evaluation : ProposalEvaluation) : ProposalApplicationSummary :=
  match evaluation.outcome with
  | .rejected =>
    { summary with
        evaluatedCount := summary.evaluatedCount + 1
        rejectedCount := summary.rejectedCount + 1 }
  | .accepted =>
    { summary with
        evaluatedCount := summary.evaluatedCount + 1
        acceptedCount := summary.acceptedCount + 1
        canonicalWriteCount :=
          if evaluation.target.isSome then summary.canonicalWriteCount + 1
          else summary.canonicalWriteCount }

namespace Proposal

/-- `apply_candidate_proposals`. -/
def applyCandidateProposals (tables : Text.Tables) (context : ProposalProcessingContext)
    (subsystem : String) (proposals : List CanonicalProposal) :
    Harness ProposalApplicationSummary :=
  Prog.foldlM (fun summary candidate => do
    let evaluation ← processCandidate tables context subsystem candidate
    pure (summary.count evaluation)) {} proposals

end Proposal

end BlueLagoon
