import BlueLagoon.Canonical.Contracts

/-!
# Rows of the canonical stores

Proposals with the decisions about them, memory artifacts, self-model artifacts, and the
tables of the identity. A confidence or weight is kept in hundredths.
-/

namespace BlueLagoon

structure ProposalRecord where
  proposalId : Uuid
  traceId : Uuid
  executionId : Uuid
  episodeId : Option Uuid
  sourceIngressId : Option Uuid
  sourceLoopKind : String
  proposalKind : CanonicalProposalKind
  canonicalTarget : CanonicalTargetKind
  status : String
  confidence : Nat
  conflictPosture : ProposalConflictPosture
  subjectRef : String
  contentText : String
  rationale : Option String
  validFrom : Option DateTime
  validTo : Option DateTime
  supersedesArtifactId : Option Uuid
  supersedesArtifactKind : Option CanonicalTargetKind
  createdAt : DateTime := 0
  deriving DecidableEq, Repr

structure MergeDecisionRecord where
  mergeDecisionId : Uuid
  proposalId : Uuid
  traceId : Uuid
  executionId : Uuid
  episodeId : Option Uuid
  decisionKind : String
  decisionReason : String
  acceptedMemoryArtifactId : Option Uuid := none
  acceptedSelfModelArtifactId : Option Uuid := none
  createdAt : DateTime := 0
  deriving DecidableEq, Repr

/-- The status of a memory artifact or of a self-model artifact. -/
inductive ArtifactStatus
  | active
  | superseded
  deriving DecidableEq, Repr

structure MemoryArtifactRecord where
  memoryArtifactId : Uuid
  proposalId : Uuid
  traceId : Uuid
  executionId : Uuid
  episodeId : Option Uuid
  sourceIngressId : Option Uuid
  artifactKind : String
  subjectRef : String
  contentText : String
  confidence : Nat
  provenanceKind : ProposalProvenanceKind
  status : ArtifactStatus
  validFrom : Option DateTime
  validTo : Option DateTime
  supersededAt : Option DateTime := none
  supersededByArtifactId : Option Uuid := none
  supersedesArtifactId : Option Uuid := none
  createdAt : DateTime := 0
  updatedAt : DateTime := 0
  deriving DecidableEq, Repr

structure SelfModelArtifactRecord where
  selfModelArtifactId : Uuid
  proposalId : Option Uuid
  traceId : Option Uuid
  executionId : Option Uuid
  episodeId : Option Uuid
  artifactOrigin : String
  status : ArtifactStatus
  stableIdentity : String
  role : String
  communicationStyle : String
  capabilities : List String
  constraints : List String
  preferences : List String
  currentGoals : List String
  currentSubgoals : List String
  supersededAt : Option DateTime := none
  supersededByArtifactId : Option Uuid := none
  supersedesArtifactId : Option Uuid := none
  createdAt : DateTime := 0
  deriving DecidableEq, Repr

inductive IdentityLifecycleStatus
  | current
  | superseded
  deriving DecidableEq, Repr

structure IdentityLifecycleRecord where
  identityLifecycleId : Uuid
  status : IdentityLifecycleStatus
  lifecycleState : IdentityLifecycleState
  activeInterviewId : Option Uuid
  transitionReason : String
  transitionedBy : String
  kickstartStartedAt : Option DateTime := none
  kickstartCompletedAt : Option DateTime := none
  resetAt : Option DateTime := none
  createdAt : DateTime := 0
  updatedAt : DateTime := 0
  deriving DecidableEq, Repr

inductive IdentityItemStatus
  | active
  | superseded
  | expired
  | rejected
  | deferred
  deriving DecidableEq, Repr

structure IdentityItemRecord where
  identityItemId : Uuid
  proposalId : Option Uuid
  traceId : Option Uuid
  stabilityClass : IdentityStabilityClass
  category : IdentityItemCategory
  itemKey : String
  valueText : String
  confidence : Nat
  weight : Option Nat
  provenanceKind : ProposalProvenanceKind
  sourceKind : String
  mergePolicy : IdentityMergePolicy
  status : IdentityItemStatus
  evidenceRefs : List IdentityEvidenceRef
  validFrom : Option DateTime
  validTo : Option DateTime
  supersededAt : Option DateTime := none
  supersedesItemId : Option Uuid := none
  supersededByItemId : Option Uuid := none
  createdAt : DateTime := 0
  updatedAt : DateTime := 0
  deriving DecidableEq, Repr

inductive IdentityInterviewStatus
  | inProgress
  | completed
  | cancelled
  deriving DecidableEq, Repr

/-- An interview; its answers are listed in the order in which their steps were answered. -/
structure IdentityInterviewRecord where
  identityInterviewId : Uuid
  status : IdentityInterviewStatus
  currentStep : String
  answeredFields : List (String × String)
  createdAt : DateTime := 0
  updatedAt : DateTime := 0
  deriving DecidableEq, Repr

structure IdentityDiagnosticRecord where
  identityDiagnosticId : Uuid
  diagnosticKind : String
  severity : String
  status : String
  identityItemId : Option Uuid
  proposalId : Option Uuid
  traceId : Option Uuid
  message : String
  createdAt : DateTime := 0
  deriving DecidableEq, Repr

end BlueLagoon
