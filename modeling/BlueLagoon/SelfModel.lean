import BlueLagoon.Canonical.Continuity
import BlueLagoon.Canonical.Validation

/-!
# The self-model

The canonical self-model is a chain of artifacts, each the successor of the one before;
the last one is active. Loading the self-model stores the seed when there is no active
artifact. Merging an observation stores the active artifact with the observation added,
and supersedes it.
-/

namespace BlueLagoon

open Interleaving Harness

structure SelfModelLoadContext where
  traceId : Uuid
  executionId : Uuid
  episodeId : Option Uuid
  deriving DecidableEq, Repr

inductive SelfModelSourceKind
  | bootstrapSeed
  | canonicalArtifact
  deriving DecidableEq, Repr

structure LoadedSelfModelSnapshot where
  snapshot : SelfModelSnapshot
  sourceKind : SelfModelSourceKind
  canonicalArtifactId : Option Uuid
  seedPath : String
  bootstrapPerformed : Bool
  deriving DecidableEq, Repr

namespace SelfModel

/-! ## Snapshots -/

/-- `validate_snapshot`, on a snapshot without a rich identity. -/
def validateSnapshot (snapshot : SelfModelSnapshot) : Except ErrorChain Unit :=
  if Text.isBlank snapshot.stableIdentity then
    .error ["self-model stable_identity must not be empty"]
  else if Text.isBlank snapshot.role then .error ["self-model role must not be empty"]
  else if Text.isBlank snapshot.communicationStyle then
    .error ["self-model communication_style must not be empty"]
  else if snapshot.capabilities.isEmpty then .error ["self-model capabilities must not be empty"]
  else if snapshot.currentGoals.isEmpty then .error ["self-model current_goals must not be empty"]
  else .ok ()

/-- The snapshot an artifact stores. -/
def stored (artifact : SelfModelArtifactRecord) : SelfModelSnapshot where
  stableIdentity := artifact.stableIdentity
  role := artifact.role
  communicationStyle := artifact.communicationStyle
  capabilities := artifact.capabilities
  constraints := artifact.constraints
  preferences := artifact.preferences
  currentGoals := artifact.currentGoals
  currentSubgoals := artifact.currentSubgoals

/-- `snapshot_from_canonical_artifact`. -/
def snapshotFromCanonicalArtifact (artifact : SelfModelArtifactRecord) :
    Except ErrorChain SelfModelSnapshot := do
  validateSnapshot (stored artifact)
  pure (stored artifact)

/-- `select_single_active_artifact`. -/
def selectSingleActiveArtifact :
    List SelfModelArtifactRecord → Except ErrorChain (Option SelfModelArtifactRecord)
  | [] => .ok none
  | [artifact] => .ok (some artifact)
  | _ => .error ["multiple active canonical self-model artifacts found"]

/-- `merge_self_model_observation`. -/
def mergeSelfModelObservation (snapshot : SelfModelSnapshot)
    (payload : SelfModelObservationProposal) : SelfModelSnapshot :=
  if payload.observationKind = "subgoal" then
    { snapshot with currentSubgoals := snapshot.currentSubgoals ++ [payload.contentText] }
  else { snapshot with preferences := snapshot.preferences ++ [payload.contentText] }

/-! ## Loading -/

/-- `require_self_model_config`. -/
def requireSelfModelConfig : Harness String :=
  Prog.ask Query.selfModelSeedPath fun (answer : Except ErrorChain String) => .ofExcept answer

/-- `load_seed_self_model_snapshot`. -/
def loadSeedSelfModelSnapshot : Harness SelfModelSnapshot := do
  let seedPath ← requireSelfModelConfig
  let snapshot ← Prog.ask (Query.selfModelSeed seedPath)
    fun (answer : Except ErrorChain SelfModelSnapshot) => .ofExcept answer
  Prog.ofExcept (validateSnapshot snapshot)
  pure snapshot

/-- The artifact that stores a snapshot. -/
def artifactRow (selfModelArtifactId : Uuid) (proposalId : Option Uuid)
    (context : SelfModelLoadContext) (artifactOrigin : String) (snapshot : SelfModelSnapshot)
    (supersedesArtifactId : Option Uuid) : SelfModelArtifactRecord where
  selfModelArtifactId := selfModelArtifactId
  proposalId := proposalId
  traceId := some context.traceId
  executionId := some context.executionId
  episodeId := context.episodeId
  artifactOrigin := artifactOrigin
  status := .active
  stableIdentity := snapshot.stableIdentity
  role := snapshot.role
  communicationStyle := snapshot.communicationStyle
  capabilities := snapshot.capabilities
  constraints := snapshot.constraints
  preferences := snapshot.preferences
  currentGoals := snapshot.currentGoals
  currentSubgoals := snapshot.currentSubgoals
  supersedesArtifactId := supersedesArtifactId

/-- The branch of `load_self_model_snapshot` that stores the seed. -/
def bootstrap (loadContext : SelfModelLoadContext) (seedPath : String) :
    Harness LoadedSelfModelSnapshot := do
  let snapshot ← loadSeedSelfModelSnapshot
  let canonicalArtifactId ← newUuid
  transaction "failed to insert self-model artifact" fun now db =>
    (Continuity.insertSelfModelArtifact
      (artifactRow canonicalArtifactId none loadContext "bootstrap_seed" snapshot none) now db).map
      fun db => { value := (), db := db, events := [.selfModelWritten canonicalArtifactId none] }
  pure { snapshot := snapshot
         sourceKind := .bootstrapSeed
         canonicalArtifactId := some canonicalArtifactId
         seedPath := seedPath
         bootstrapPerformed := true }

/-- `load_self_model_snapshot`. -/
def loadSelfModelSnapshot (loadContext : SelfModelLoadContext) :
    Harness LoadedSelfModelSnapshot := do
  let seedPath ← requireSelfModelConfig
  let activeArtifacts ← Continuity.listActiveSelfModelArtifacts 2
  let active ← Prog.ofExcept (selectSingleActiveArtifact activeArtifacts)
  match active with
  | some activeArtifact => do
    let snapshot ← Prog.ofExcept (snapshotFromCanonicalArtifact activeArtifact)
    pure { snapshot := snapshot
           sourceKind := .canonicalArtifact
           canonicalArtifactId := some activeArtifact.selfModelArtifactId
           seedPath := seedPath
           bootstrapPerformed := false }
  | none => bootstrap loadContext seedPath

/-! ## Merging -/

/-- The context under which a merge loads the self-model. -/
def loadContext (context : ProposalProcessingContext) : SelfModelLoadContext where
  traceId := context.traceId
  executionId := context.executionId
  episodeId := context.episodeId

/-- The self-model a merge starts from, and the artifact that stores it. -/
def currentSelfModel (context : ProposalProcessingContext) :
    Harness (SelfModelSnapshot × Option Uuid) := do
  let activeArtifacts ← Continuity.listActiveSelfModelArtifacts 2
  let active ← Prog.ofExcept (selectSingleActiveArtifact activeArtifacts)
  match active with
  | some artifact => do
    let snapshot ← Prog.ofExcept (snapshotFromCanonicalArtifact artifact)
    pure (snapshot, some artifact.selfModelArtifactId)
  | none => do
    let loaded ← loadSelfModelSnapshot (loadContext context)
    pure (loaded.snapshot, loaded.canonicalArtifactId)

/-- The transaction of a merge: the new artifact, the one it supersedes, and the target of
the decision. -/
def writeArtifact (row : SelfModelArtifactRecord) (proposalId : Uuid) (supersededAt : DateTime)
    (now : DateTime) (db : Database) : Except ErrorChain Database := do
  let inserted ← Continuity.insertSelfModelArtifact row now db
  let replaced ← match row.supersedesArtifactId with
    | none => pure inserted
    | some previousArtifactId =>
      Continuity.markSelfModelArtifactSuperseded previousArtifactId row.selfModelArtifactId
        supersededAt inserted
  pure (Continuity.updateMergeDecisionTargets proposalId none (some row.selfModelArtifactId)
    replaced)

/-- The branch of a merge that writes. -/
def mergeIntoStore (context : ProposalProcessingContext) (proposalId : Uuid)
    (payload : SelfModelObservationProposal) (current : SelfModelSnapshot)
    (supersededArtifactId : Option Uuid) : Harness ProposalEvaluation := do
  let nextArtifactId ← newUuid
  let supersededAt ← utcNow
  let row := artifactRow nextArtifactId (some proposalId) (loadContext context) "proposal_merge"
    (mergeSelfModelObservation current payload) supersededArtifactId
  inTransaction fun now db =>
    (writeArtifact row proposalId supersededAt now db).map fun db =>
      { value := (), db := db
        events := [.selfModelWritten nextArtifactId (some payload.contentText)] }
  pure { proposalId := proposalId
         outcome := .accepted
         reason := "self-model proposal merged into canonical store"
         target := some (.selfModelArtifact nextArtifactId) }

/-- `apply_self_model_proposal_merge`. -/
def applySelfModelProposalMerge (context : ProposalProcessingContext)
    (proposal : CanonicalProposal) : Harness ProposalEvaluation :=
  let validation := Proposal.validateProposal proposal
  if validation.outcome = .rejected then
    Continuity.rejectMerge proposal.proposalId validation.reason
  else
    match proposal.payload with
    | .selfModelObservation payload => do
      let (current, supersededArtifactId) ← currentSelfModel context
      if current.preferences.contains payload.contentText then
        Continuity.rejectMerge proposal.proposalId
          "self-model observation is already present in canonical preferences"
      else mergeIntoStore context proposal.proposalId payload current supersededArtifactId
    | _ =>
      Continuity.rejectMerge proposal.proposalId
        "self-model merge requires a self_model_observation payload"

end SelfModel

end BlueLagoon
