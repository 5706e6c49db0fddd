import BlueLagoon.Canonical.Continuity
import BlueLagoon.Canonical.Validation

/-!
# Merging memory proposals

A merge lists the newest active artifacts of the proposal's subject, plans on them, and
writes in a transaction of its own.
-/

namespace BlueLagoon

open Interleaving Harness

namespace Memory

def activeMemoryScanLimit : Nat := 32

inductive MemoryMergePlan
  | insertNew
  | supersede (targetArtifactId : Uuid)
  | reject (reason : String)
  deriving DecidableEq, Repr

/-- The reason of a rejection for want of the target. -/
def targetMissing : String := "superseded memory artifact must exist in the active canonical set"

/-- What the posture of a proposal that is no duplicate asks for. -/
def planPosture (proposal : CanonicalProposal) (activeArtifacts : List MemoryArtifactRecord) :
    MemoryMergePlan :=
  match proposal.conflictPosture with
  | .independent => .insertNew
  | .conflicts =>
    .reject
      "conflicting memory proposals remain non-destructive in the current continuity merge baseline"
  | .revises | .supersedes =>
    match proposal.supersedesArtifactId with
    | none => .reject "superseding memory proposals require supersedes_artifact_id"
    | some targetArtifactId =>
      match Table.find MemoryArtifactRecord.memoryArtifactId targetArtifactId activeArtifacts with
      | none => .reject targetMissing
      | some targetArtifact =>
        if targetArtifact.subjectRef ≠ proposal.subjectRef then
          .reject "superseded memory artifact must belong to the same subject_ref"
        else .supersede targetArtifactId

/-- Does the artifact say what the proposal says? -/
def isDuplicate (proposal : CanonicalProposal) (payload : MemoryArtifactProposal)
    (artifact : MemoryArtifactRecord) : Bool :=
  artifact.artifactKind = payload.artifactKind && artifact.subjectRef = proposal.subjectRef &&
    artifact.contentText = payload.contentText

/-- `plan_memory_merge`. -/
def planMemoryMerge (proposal : CanonicalProposal)
    (activeArtifacts : List MemoryArtifactRecord) : MemoryMergePlan :=
  if proposal.proposalKind ≠ .memoryArtifact || proposal.canonicalTarget ≠ .memoryArtifacts then
    .reject "memory merge accepts only memory_artifact proposals"
  else
    match proposal.payload with
    | .memoryArtifact payload =>
      if activeArtifacts.any (isDuplicate proposal payload) then
        .reject "duplicate active memory artifact already exists"
      else planPosture proposal activeArtifacts
    | _ => .reject "memory merge requires a memory_artifact payload"

/-- `memory_payload`; the source panics on another payload, which no plan lets through. -/
def memoryPayload (proposal : CanonicalProposal) : Harness MemoryArtifactProposal :=
  match proposal.payload with
  | .memoryArtifact payload => pure payload
  | _ => bail "memory payload requested for non-memory proposal"

/-- The artifact a proposal becomes. -/
def artifactRow (context : ProposalProcessingContext) (proposal : CanonicalProposal)
    (payload : MemoryArtifactProposal) (memoryArtifactId : Uuid) : MemoryArtifactRecord where
  memoryArtifactId := memoryArtifactId
  proposalId := proposal.proposalId
  traceId := context.traceId
  executionId := context.executionId
  episodeId := context.episodeId
  sourceIngressId := context.sourceIngressId
  artifactKind := payload.artifactKind
  subjectRef := proposal.subjectRef
  contentText := payload.contentText
  confidence := proposal.confidencePct.toNat
  provenanceKind := proposal.provenance.provenanceKind
  status := .active
  validFrom := proposal.validFrom
  validTo := proposal.validTo
  supersedesArtifactId := proposal.supersedesArtifactId

/-- The transaction of a merge: the new artifact, the artifact it replaces, and the target
of the decision. -/
def writeArtifact (row : MemoryArtifactRecord) (target : Option Uuid) (supersededAt : DateTime)
    (now : DateTime) (db : Database) : Except ErrorChain Database := do
  let inserted ← Continuity.insertMemoryArtifact row now db
  let replaced ← match target with
    | none => pure inserted
    | some targetArtifactId =>
      Continuity.markMemoryArtifactSuperseded targetArtifactId row.memoryArtifactId supersededAt
        now inserted
  pure (Continuity.updateMergeDecisionTargets row.proposalId (some row.memoryArtifactId) none
    replaced)

/-- The branch of a plan that writes. -/
def mergeIntoStore (context : ProposalProcessingContext) (proposal : CanonicalProposal)
    (target : Option Uuid) : Harness ProposalEvaluation := do
  let memoryArtifactId ← newUuid
  let payload ← memoryPayload proposal
  let supersededAt ← utcNow
  let row := artifactRow context proposal payload memoryArtifactId
  inTransaction fun now db =>
    (writeArtifact row target supersededAt now db).map fun db =>
      { value := (), db := db, events := [.memoryMerged row.subjectRef memoryArtifactId] }
  pure { proposalId := proposal.proposalId
         outcome := .accepted
         reason := "memory proposal merged into canonical store"
         target := some (.memoryArtifact memoryArtifactId) }

/-- `apply_memory_proposal_merge`. -/
def applyMemoryProposalMerge (context : ProposalProcessingContext)
    (proposal : CanonicalProposal) : Harness ProposalEvaluation :=
  let validation := Proposal.validateProposal proposal
  if validation.outcome = .rejected then
    Continuity.rejectMerge proposal.proposalId validation.reason
  else do
    let activeArtifacts ←
      Continuity.listActiveMemoryArtifactsBySubject proposal.subjectRef activeMemoryScanLimit
    match planMemoryMerge proposal activeArtifacts with
    | .reject reason => Continuity.rejectMerge proposal.proposalId reason
    | .insertNew => mergeIntoStore context proposal none
    | .supersede targetArtifactId => mergeIntoStore context proposal (some targetArtifactId)

end Memory

end BlueLagoon
