import BlueLagoon.Execution

/-!
# Statements on the canonical stores

Each statement is a function on the database that goes through or names the constraint
it breaks. A `CHECK` is tested before the keys and the keys before the references.
-/

namespace BlueLagoon

open Interleaving Harness

/-- The ids every canonical write is recorded under. -/
structure ProposalProcessingContext where
  traceId : Uuid
  executionId : Uuid
  episodeId : Option Uuid
  sourceIngressId : Option Uuid
  sourceLoopKind : String
  deriving DecidableEq, Repr

namespace Database

variable (db : Database)

/-! ## Constraints -/

/-- A nullable foreign key to `episodes`. -/
def hasEpisode (id : Option Uuid) : Bool :=
  id.all fun id => db.episodes.any fun row => row.episodeId = id

/-- A nullable foreign key to `ingress_events`. -/
def hasIngressEvent (id : Option Uuid) : Bool :=
  id.all fun id => db.ingressEvents.any fun row => row.ingressId = id

/-- A nullable foreign key to `proposals`. -/
def hasProposal (id : Option Uuid) : Bool :=
  id.all fun id => db.proposals.any fun row => row.proposalId = id

/-- A nullable foreign key to `memory_artifacts`. -/
def hasMemoryArtifact (id : Option Uuid) : Bool :=
  id.all fun id => db.memoryArtifacts.any fun row => row.memoryArtifactId = id

/-- A nullable foreign key to `self_model_artifacts`. -/
def hasSelfModelArtifact (id : Option Uuid) : Bool :=
  id.all fun id => db.selfModelArtifacts.any fun row => row.selfModelArtifactId = id

/-- Constraints on a `proposals` row that is inserted. -/
def proposalViolation (row : ProposalRecord) : Option String :=
  firstBroken
    [(decide (row.confidence ≤ 100), "proposals_confidence_check"),
     (row.supersedesArtifactId.isSome == row.supersedesArtifactKind.isSome, "proposals_check"),
     (db.proposals.all fun other => other.proposalId ≠ row.proposalId, "proposals_pkey"),
     (db.hasExecution (some row.executionId), "proposals_execution_id_fkey"),
     (db.hasEpisode row.episodeId, "proposals_episode_id_fkey"),
     (db.hasIngressEvent row.sourceIngressId, "proposals_source_ingress_id_fkey")]

/-- Constraints on a `merge_decisions` row that is inserted. -/
def mergeDecisionViolation (row : MergeDecisionRecord) : Option String :=
  firstBroken
    [(row.acceptedMemoryArtifactId.isNone || row.acceptedSelfModelArtifactId.isNone,
      "merge_decisions_check"),
     (db.mergeDecisions.all fun other => other.mergeDecisionId ≠ row.mergeDecisionId,
      "merge_decisions_pkey"),
     (db.mergeDecisions.all fun other => other.proposalId ≠ row.proposalId,
      "merge_decisions_proposal_id_key"),
     (db.hasProposal (some row.proposalId), "merge_decisions_proposal_id_fkey"),
     (db.hasExecution (some row.executionId), "merge_decisions_execution_id_fkey"),
     (db.hasEpisode row.episodeId, "merge_decisions_episode_id_fkey"),
     (db.hasMemoryArtifact row.acceptedMemoryArtifactId,
      "merge_decisions_accepted_memory_artifact_id_fkey"),
     (db.hasSelfModelArtifact row.acceptedSelfModelArtifactId,
      "merge_decisions_accepted_self_model_artifact_id_fkey")]

/-- Constraints on a `memory_artifacts` row that is inserted. A row may refer to itself as
far as the references go, so that the checks alone forbid it. -/
def memoryArtifactViolation (row : MemoryArtifactRecord) : Option String :=
  firstBroken
    [(decide (row.confidence ≤ 100), "memory_artifacts_confidence_check"),
     (row.supersededByArtifactId ≠ some row.memoryArtifactId, "memory_artifacts_check"),
     (row.supersedesArtifactId ≠ some row.memoryArtifactId, "memory_artifacts_check1"),
     (db.memoryArtifacts.all fun other => other.memoryArtifactId ≠ row.memoryArtifactId,
      "memory_artifacts_pkey"),
     (db.memoryArtifacts.all fun other => other.proposalId ≠ row.proposalId,
      "memory_artifacts_proposal_id_key"),
     (db.hasProposal (some row.proposalId), "memory_artifacts_proposal_id_fkey"),
     (db.hasExecution (some row.executionId), "memory_artifacts_execution_id_fkey"),
     (db.hasEpisode row.episodeId, "memory_artifacts_episode_id_fkey"),
     (db.hasIngressEvent row.sourceIngressId, "memory_artifacts_source_ingress_id_fkey"),
     (db.hasMemoryArtifact row.supersededByArtifactId,
      "memory_artifacts_superseded_by_artifact_id_fkey"),
     (db.hasMemoryArtifact row.supersedesArtifactId,
      "memory_artifacts_supersedes_artifact_id_fkey")]

/-- Constraints on the successor that a `memory_artifacts` row is given. -/
def memorySuccessorViolation (memoryArtifactId successor : Uuid) : Option String :=
  firstBroken
    [(decide (successor ≠ memoryArtifactId), "memory_artifacts_check"),
     (db.hasMemoryArtifact (some successor), "memory_artifacts_superseded_by_artifact_id_fkey")]

/-- Constraints on a `self_model_artifacts` row that is inserted. -/
def selfModelArtifactViolation (row : SelfModelArtifactRecord) : Option String :=
  firstBroken
    [(row.supersededByArtifactId ≠ some row.selfModelArtifactId, "self_model_artifacts_check"),
     (row.supersedesArtifactId ≠ some row.selfModelArtifactId, "self_model_artifacts_check1"),
     (db.selfModelArtifacts.all fun other => other.selfModelArtifactId ≠ row.selfModelArtifactId,
      "self_model_artifacts_pkey"),
     (row.proposalId.isNone ||
        db.selfModelArtifacts.all fun other => other.proposalId ≠ row.proposalId,
      "self_model_artifacts_proposal_id_key"),
     (db.hasProposal row.proposalId, "self_model_artifacts_proposal_id_fkey"),
     (db.hasExecution row.executionId, "self_model_artifacts_execution_id_fkey"),
     (db.hasEpisode row.episodeId, "self_model_artifacts_episode_id_fkey"),
     (db.hasSelfModelArtifact row.supersededByArtifactId,
      "self_model_artifacts_superseded_by_artifact_id_fkey"),
     (db.hasSelfModelArtifact row.supersedesArtifactId,
      "self_model_artifacts_supersedes_artifact_id_fkey")]

/-- Constraints on the successor that a `self_model_artifacts` row is given. -/
def selfModelSuccessorViolation (selfModelArtifactId successor : Uuid) : Option String :=
  firstBroken
    [(decide (successor ≠ selfModelArtifactId), "self_model_artifacts_check"),
     (db.hasSelfModelArtifact (some successor),
      "self_model_artifacts_superseded_by_artifact_id_fkey")]

end Database

namespace Continuity

/-- A statement that breaks the constraint, or leaves the database that is given. -/
def guarded (message : String) (violation : Option String) (db : Database) :
    Except ErrorChain Database :=
  match violation with
  | some constraint => .error [message, constraint]
  | none => .ok db

@[simp] theorem guarded_eq_ok {message : String} {violation : Option String} {db db' : Database} :
    guarded message violation db = .ok db' ↔ violation = none ∧ db' = db := by
  cases violation with
  | none => simp [guarded, eq_comm]
  | some constraint => simp [guarded]

@[simp] theorem guarded_eq_error {message : String} {violation : Option String} {db : Database}
    {e : ErrorChain} :
    guarded message violation db = .error e ↔
      ∃ constraint, violation = some constraint ∧ e = [message, constraint] := by
  cases violation with
  | none => simp [guarded]
  | some constraint => simp [guarded, eq_comm]

/-- A statement of a transaction as a transaction of its own. -/
def alone (message : String) (statement : DateTime → Database → Except ErrorChain Database) :
    Harness Unit :=
  transaction message fun now db => (statement now db).map fun db => { value := (), db := db }

/-! ## Proposals and decisions -/

/-- `insert_proposal`. -/
def insertProposal (row : ProposalRecord) (now : DateTime) (db : Database) :
    Except ErrorChain Database :=
  guarded "failed to insert proposal" (db.proposalViolation row)
    { db with proposals := db.proposals ++ [{ row with createdAt := now }] }

/-- `insert_merge_decision`. -/
def insertMergeDecision (row : MergeDecisionRecord) (now : DateTime) (db : Database) :
    Except ErrorChain Database :=
  guarded "failed to insert merge decision" (db.mergeDecisionViolation row)
    { db with mergeDecisions := db.mergeDecisions ++ [{ row with createdAt := now }] }

/-- `UPDATE merge_decisions .. WHERE proposal_id = $1`. -/
def changeMergeDecision (proposalId : Uuid) (change : MergeDecisionRecord → MergeDecisionRecord)
    (db : Database) : Database :=
  { db with
    mergeDecisions :=
      Table.update (fun row => row.proposalId = proposalId) change db.mergeDecisions }

/-- `update_merge_decision_outcome`. -/
def updateMergeDecisionOutcome (proposalId : Uuid) (decisionKind decisionReason : String) :
    Harness Unit :=
  execute "failed to update merge decision outcome" fun _ db =>
    .ok { value := ()
          db := changeMergeDecision proposalId
            (fun row => { row with
              decisionKind := decisionKind
              decisionReason := decisionReason
              acceptedMemoryArtifactId := none
              acceptedSelfModelArtifactId := none }) db }

/-- `update_merge_decision_targets_in_tx`; at most one of the targets is given, and it is a
row of the same transaction. -/
def updateMergeDecisionTargets (proposalId : Uuid)
    (acceptedMemoryArtifactId acceptedSelfModelArtifactId : Option Uuid) (db : Database) :
    Database :=
  changeMergeDecision proposalId
    (fun row => { row with
      acceptedMemoryArtifactId := acceptedMemoryArtifactId
      acceptedSelfModelArtifactId := acceptedSelfModelArtifactId }) db

/-- What every merge does with a proposal it turns down: the recorded decision becomes a
rejection with the reason, and so does the outcome. -/
def rejectMerge (proposalId : Uuid) (reason : String) : Harness ProposalEvaluation := do
  updateMergeDecisionOutcome proposalId "rejected" reason
  pure { proposalId := proposalId, outcome := .rejected, reason := reason, target := none }

/-! ## Memory artifacts -/

/-- `insert_memory_artifact`. -/
def insertMemoryArtifact (row : MemoryArtifactRecord) (now : DateTime) (db : Database) :
    Except ErrorChain Database :=
  guarded "failed to insert memory artifact" (db.memoryArtifactViolation row)
    { db with
      memoryArtifacts := db.memoryArtifacts ++ [{ row with createdAt := now, updatedAt := now }] }

/-- The row of a memory artifact that is replaced. -/
def memoryArtifactSuperseded (successor : Uuid) (supersededAt now : DateTime)
    (row : MemoryArtifactRecord) : MemoryArtifactRecord :=
  { row with
      status := .superseded
      supersededAt := some supersededAt
      supersededByArtifactId := some successor
      updatedAt := now }

/-- `mark_memory_artifact_superseded`. -/
def markMemoryArtifactSuperseded (memoryArtifactId successor : Uuid)
    (supersededAt now : DateTime) (db : Database) : Except ErrorChain Database :=
  guarded "failed to mark memory artifact as superseded"
    (if db.hasMemoryArtifact (some memoryArtifactId) then
      db.memorySuccessorViolation memoryArtifactId successor
    else none)
    { db with
      memoryArtifacts :=
        Table.update (fun row => row.memoryArtifactId = memoryArtifactId)
          (memoryArtifactSuperseded successor supersededAt now) db.memoryArtifacts }

/-- `ORDER BY created_at DESC, memory_artifact_id DESC`. -/
def newerMemory (a b : MemoryArtifactRecord) : Prop :=
  b.createdAt < a.createdAt ∨ a.createdAt = b.createdAt ∧ b.memoryArtifactId ≤ a.memoryArtifactId

instance : DecidableRel newerMemory := fun a b => by
  unfold newerMemory
  infer_instance

/-- The active artifacts of a subject. -/
def activeMemory (subjectRef : String) (db : Database) : List MemoryArtifactRecord :=
  db.memoryArtifacts.filter fun row => row.status = .active && row.subjectRef = subjectRef

/-- The rows of `list_active_memory_artifacts_by_subject`. -/
def newestMemory (subjectRef : String) (limit : Nat) (db : Database) : List MemoryArtifactRecord :=
  ((activeMemory subjectRef db).insertionSort newerMemory).take limit

/-- `list_active_memory_artifacts_by_subject`. -/
def listActiveMemoryArtifactsBySubject (subjectRef : String) (limit : Nat) :
    Harness (List MemoryArtifactRecord) :=
  transaction "failed to list active memory artifacts by subject" fun _ db =>
    .ok { value := newestMemory subjectRef limit db
          db := db
          events := [.memoryScanned subjectRef
            ((activeMemory subjectRef db).map MemoryArtifactRecord.memoryArtifactId)] }

/-! ## Self-model artifacts -/

/-- `insert_self_model_artifact`. -/
def insertSelfModelArtifact (row : SelfModelArtifactRecord) (now : DateTime) (db : Database) :
    Except ErrorChain Database :=
  guarded "failed to insert self-model artifact" (db.selfModelArtifactViolation row)
    { db with selfModelArtifacts := db.selfModelArtifacts ++ [{ row with createdAt := now }] }

/-- The row of a self-model artifact that is replaced. -/
def selfModelArtifactSuperseded (successor : Uuid) (supersededAt : DateTime)
    (row : SelfModelArtifactRecord) : SelfModelArtifactRecord :=
  { row with
      status := .superseded
      supersededAt := some supersededAt
      supersededByArtifactId := some successor }

/-- `mark_self_model_artifact_superseded`. -/
def markSelfModelArtifactSuperseded (selfModelArtifactId successor : Uuid)
    (supersededAt : DateTime) (db : Database) : Except ErrorChain Database :=
  guarded "failed to mark self-model artifact as superseded"
    (if db.hasSelfModelArtifact (some selfModelArtifactId) then
      db.selfModelSuccessorViolation selfModelArtifactId successor
    else none)
    { db with
      selfModelArtifacts :=
        Table.update (fun row => row.selfModelArtifactId = selfModelArtifactId)
          (selfModelArtifactSuperseded successor supersededAt) db.selfModelArtifacts }

/-- `ORDER BY created_at DESC, self_model_artifact_id DESC`. -/
def newerSelfModel (a b : SelfModelArtifactRecord) : Prop :=
  b.createdAt < a.createdAt ∨
    a.createdAt = b.createdAt ∧ b.selfModelArtifactId ≤ a.selfModelArtifactId

instance : DecidableRel newerSelfModel := fun a b => by
  unfold newerSelfModel
  infer_instance

/-- The active self-model artifacts. -/
def activeSelfModels (db : Database) : List SelfModelArtifactRecord :=
  db.selfModelArtifacts.filter fun row => row.status = .active

/-- `list_active_self_model_artifacts`. -/
def listActiveSelfModelArtifacts (limit : Nat) : Harness (List SelfModelArtifactRecord) :=
  transaction "failed to list active self-model artifacts" fun _ db =>
    .ok { value := ((activeSelfModels db).insertionSort newerSelfModel).take limit
          db := db
          events := [.selfModelScanned] }

end Continuity

end BlueLagoon
