import BlueLagoon.Canonical.Contracts

/-!
# The unconscious worker's proposals

`build_unconscious_canonical_proposals` makes canonical proposals from the output of a
background model. A consolidation of memory proposes one artifact from the text; a
reflection on the self-model proposes the identity delta of the model's JSON as it is.
-/

namespace BlueLagoon.Worker

/-- The parts of an `UnconsciousScope` that the response depends on. -/
structure UnconsciousScope where
  episodeIds : List Uuid := []
  internalPrincipalRef : Option String := none
  internalConversationRef : Option String := none
  deriving DecidableEq, Repr

/-- The parts of an `UnconsciousContext` that the response depends on. -/
structure UnconsciousContext where
  jobId : Uuid
  jobKind : UnconsciousJobKind
  scope : UnconsciousScope
  deriving DecidableEq, Repr

/-- The parts of an `IdentityReflectionOutput` that the proposals depend on. -/
structure IdentityReflectionOutput where
  identityDelta : Option IdentityDeltaProposal := none
  noChangeRationale : Option String := none
  deriving DecidableEq, Repr

/-- `parse_identity_reflection_output`, on the JSON of a model's output, if it gave one. The
reader is `serde_json::from_value::<IdentityReflectionOutput>` with the text of its error. -/
def parseIdentityReflectionOutput {Value : Type}
    (read : Value → Except String IdentityReflectionOutput) (modelJson : Option Value) :
    Except String IdentityReflectionOutput :=
  match modelJson with
  | none => .error "self-model reflection did not return the required JSON object"
  | some modelJson =>
    match read modelJson with
    | .ok output => .ok output
    | .error error =>
      .error s!"self-model reflection returned invalid identity_reflection_output JSON: {error}"

/-- `build_memory_consolidation_proposals`. -/
def buildMemoryConsolidationProposals (context : UnconsciousContext) (modelText : String)
    (proposalId : Uuid) : List CanonicalProposal :=
  let contentText := Text.trim modelText
  if contentText.isEmpty || context.scope.episodeIds.isEmpty then []
  else
    match context.scope.internalPrincipalRef.or context.scope.internalConversationRef with
    | none => []
    | some subjectRef =>
      [{ proposalId := proposalId
         proposalKind := .memoryArtifact
         canonicalTarget := .memoryArtifacts
         confidencePct := 72
         conflictPosture := .independent
         subjectRef := subjectRef
         rationale := some
           "Bounded background memory consolidation over the scoped recent episodes."
         validFrom := none
         validTo := none
         supersedesArtifactId := none
         provenance :=
           { provenanceKind := .episodeObservation
             sourceIngressIds := []
             sourceEpisodeId := context.scope.episodeIds.head? }
         payload := .memoryArtifact
           { artifactKind := "background_summary", contentText := contentText } }]

/-- `build_identity_reflection_proposal`. -/
def buildIdentityReflectionProposal (context : UnconsciousContext)
    (identityDelta : IdentityDeltaProposal) (proposalId : Uuid) : CanonicalProposal where
  proposalId := proposalId
  proposalKind := .identityDelta
  canonicalTarget := .identityItems
  confidencePct := (identityDelta.itemDeltas.map IdentityItemDelta.confidencePct).max?.getD 70
  conflictPosture := .independent
  subjectRef := "self:blue-lagoon"
  rationale := some identityDelta.rationale
  validFrom := none
  validTo := none
  supersedesArtifactId := none
  provenance :=
    { provenanceKind := .selfModelReflection
      sourceIngressIds := []
      sourceEpisodeId := context.scope.episodeIds.head? }
  payload := .identityDelta identityDelta

/-- `build_unconscious_canonical_proposals`, for a reflection with the JSON of the model. -/
def buildUnconsciousCanonicalProposals {Value : Type}
    (read : Value → Except String IdentityReflectionOutput) (context : UnconsciousContext)
    (modelText : String) (modelJson : Option Value) (proposalId : Uuid) :
    List CanonicalProposal :=
  match context.jobKind with
  | .memoryConsolidation => buildMemoryConsolidationProposals context modelText proposalId
  | .selfModelReflection =>
    match parseIdentityReflectionOutput read modelJson with
    | .ok output =>
      (output.identityDelta.map fun delta =>
        buildIdentityReflectionProposal context delta proposalId).toList
    | .error _ => []
  | .retrievalMaintenance | .contradictionAndDriftScan => []

end BlueLagoon.Worker
