import BlueLagoon.Execution

/-!
# Retrieval artifacts

The documents the foreground retrieves from, and the updates by which background
maintenance replaces or archives them.
-/

namespace BlueLagoon

open Interleaving Harness

/-! ## Updates -/

inductive RetrievalUpdateOperation
  | upsert
  | archive
  deriving DecidableEq, Repr

structure RetrievalUpdateProposal where
  updateId : Uuid
  operation : RetrievalUpdateOperation
  sourceRef : String
  lexicalDocument : String
  relevanceTimestamp : DateTime
  internalConversationRef : Option String
  rationale : Option String
  deriving DecidableEq, Repr

structure RetrievalUpdateApplicationSummary where
  evaluatedCount : Nat := 0
  upsertedCount : Nat := 0
  archivedCount : Nat := 0
  deriving DecidableEq, Repr

/-- `RetrievalUpdateApplicationContext`, with the episodes of its scope. -/
structure RetrievalUpdateApplicationContext where
  traceId : Uuid
  executionId : Uuid
  sourceLoopKind : String
  subsystem : String
  episodeIds : List Uuid
  deriving DecidableEq, Repr

namespace Continuity

/-! ## Statements on the artifacts -/

/-- `insert_retrieval_artifact`. -/
def insertRetrievalArtifact (artifact : RetrievalArtifactRecord) : Harness Unit :=
  execute "failed to insert retrieval artifact" fun _ db =>
    match db.retrievalArtifactViolation artifact with
    | some constraint => .error constraint
    | none =>
      .ok { value := ()
            db := { db with retrievalArtifacts := db.retrievalArtifacts ++ [artifact] }
            events := [.retrievalInserted artifact.retrievalArtifactId] }

/-- The rows the `UPDATE` of `archive_retrieval_artifacts_by_source_ref` selects. -/
def isActiveBySourceRef (sourceRef : String) (internalConversationRef : Option String)
    (row : RetrievalArtifactRecord) : Bool :=
  row.status = .active && row.sourceRef = some sourceRef &&
    (internalConversationRef.isNone || row.internalConversationRef = internalConversationRef)

/-- The table after that `UPDATE`. -/
def archivedBySourceRef (sourceRef : String) (internalConversationRef : Option String)
    (rows : List RetrievalArtifactRecord) : List RetrievalArtifactRecord :=
  Table.update (isActiveBySourceRef sourceRef internalConversationRef)
    (fun row => { row with status := .archived }) rows

/-- `archive_retrieval_artifacts_by_source_ref`. -/
def archiveRetrievalArtifactsBySourceRef (sourceRef : String)
    (internalConversationRef : Option String) : Harness Nat :=
  execute "failed to archive retrieval artifacts by source_ref" fun _ db =>
    let selected :=
      db.retrievalArtifacts.filter (isActiveBySourceRef sourceRef internalConversationRef)
    .ok { value := selected.length
          db := { db with
            retrievalArtifacts :=
              archivedBySourceRef sourceRef internalConversationRef db.retrievalArtifacts }
          events := [.retrievalArchived
            (selected.map RetrievalArtifactRecord.retrievalArtifactId)] }

end Continuity

namespace Retrieval

/-! ## Applying updates -/

/-- `validate_retrieval_update`. -/
def validateRetrievalUpdate (update : RetrievalUpdateProposal) : Except ErrorChain Unit :=
  if Text.isBlank update.sourceRef then
    .error ["retrieval update source_ref must not be empty"]
  else
    match update.operation with
    | .archive => .ok ()
    | .upsert =>
      if Text.isBlank update.lexicalDocument then
        .error ["retrieval upsert lexical_document must not be empty"]
      else
        match update.internalConversationRef with
        | none => .error
            ["retrieval upsert requires an internal_conversation_ref for conservative persistence"]
        | some internalConversationRef =>
          if Text.isBlank internalConversationRef then
            .error ["retrieval upsert internal_conversation_ref must not be empty"]
          else .ok ()

/-- The artifact an upsert inserts. -/
def upsertedArtifact (update : RetrievalUpdateProposal) (sourceEpisodeId : Uuid) :
    RetrievalArtifactRecord where
  retrievalArtifactId := update.updateId
  sourceKind := "episode"
  sourceEpisodeId := some sourceEpisodeId
  sourceMemoryArtifactId := none
  internalConversationRef := update.internalConversationRef
  lexicalDocument := update.lexicalDocument
  relevanceTimestamp := update.relevanceTimestamp
  status := .active
  sourceRef := some update.sourceRef

/-- The audit event of an update that was applied. -/
def appliedEvent (context : RetrievalUpdateApplicationContext) (payload : List (String × Json)) :
    NewAuditEvent where
  loopKind := context.sourceLoopKind
  subsystem := context.subsystem
  eventKind := "retrieval_update_applied"
  severity := "info"
  traceId := context.traceId
  executionId := some context.executionId
  payload := .obj payload

/-- The arm of an upsert: the earlier artifacts of the source go before the new one comes. -/
def applyUpsert (context : RetrievalUpdateApplicationContext) (update : RetrievalUpdateProposal)
    (summary : RetrievalUpdateApplicationSummary) :
    Harness RetrievalUpdateApplicationSummary := do
  let archivedCount ← Continuity.archiveRetrievalArtifactsBySourceRef update.sourceRef
    update.internalConversationRef
  let sourceEpisodeId ← expect "retrieval maintenance upsert requires a scoped episode anchor"
    context.episodeIds.head?
  Continuity.insertRetrievalArtifact (upsertedArtifact update sourceEpisodeId)
  let _ ← Audit.insert (appliedEvent context
    [("update_id", .uuid update.updateId),
     ("operation", .str "upsert"),
     ("source_ref", .str update.sourceRef),
     ("archived_prior_count", .int archivedCount),
     ("source_kind", .str "episode"),
     ("source_episode_id", .uuid sourceEpisodeId),
     ("internal_conversation_ref", .ofOption .str update.internalConversationRef)])
  pure { summary with upsertedCount := summary.upsertedCount + 1 }

/-- The arm of an archive. -/
def applyArchive (context : RetrievalUpdateApplicationContext) (update : RetrievalUpdateProposal)
    (summary : RetrievalUpdateApplicationSummary) :
    Harness RetrievalUpdateApplicationSummary := do
  let archivedCount ← Continuity.archiveRetrievalArtifactsBySourceRef update.sourceRef
    update.internalConversationRef
  let _ ← Audit.insert (appliedEvent context
    [("update_id", .uuid update.updateId),
     ("operation", .str "archive"),
     ("source_ref", .str update.sourceRef),
     ("archived_count", .int archivedCount),
     ("internal_conversation_ref", .ofOption .str update.internalConversationRef)])
  pure { summary with archivedCount := summary.archivedCount + archivedCount }

/-- One turn of the loop of `apply_retrieval_updates`. -/
def applyRetrievalUpdate (context : RetrievalUpdateApplicationContext)
    (summary : RetrievalUpdateApplicationSummary) (update : RetrievalUpdateProposal) :
    Harness RetrievalUpdateApplicationSummary := do
  Prog.ofExcept (validateRetrievalUpdate update)
  let evaluated := { summary with evaluatedCount := summary.evaluatedCount + 1 }
  let applied ← match update.operation with
    | .upsert => applyUpsert context update evaluated
    | .archive => applyArchive context update evaluated
  Prog.emit (.retrievalUpdateApplied update.updateId)
  pure applied

/-- `apply_retrieval_updates`. -/
def applyRetrievalUpdates (context : RetrievalUpdateApplicationContext)
    (updates : List RetrievalUpdateProposal) : Harness RetrievalUpdateApplicationSummary :=
  Prog.foldlM (applyRetrievalUpdate context) {} updates

end Retrieval

end BlueLagoon
