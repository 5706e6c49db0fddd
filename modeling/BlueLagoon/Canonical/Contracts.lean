import BlueLagoon.Contracts

/-!
# Canonical proposals

What a worker proposes to change in the canonical stores: memory artifacts, the
self-model, and the items of the identity, with the steps of the identity interview.
A percentage is a `u8`.
-/

namespace BlueLagoon

/-! ## Identity -/

inductive IdentityLifecycleState
  | bootstrapSeedOnly
  | identityKickstartInProgress
  | completeIdentityActive
  | identityResetPending
  deriving DecidableEq, Repr

inductive IdentityStabilityClass
  | stable
  | evolving
  | transientProjection
  deriving DecidableEq, Repr

inductive IdentityItemCategory
  | name
  | identityForm
  | role
  | archetype
  | originBackstory
  | ageFraming
  | foundationalTrait
  | foundationalValue
  | enduringBoundary
  | defaultCommunicationStyle
  | preference
  | like
  | dislike
  | habit
  | routine
  | learnedTendency
  | autobiographicalRefinement
  | recurringSelfDescription
  | interactionStyleAdaptation
  | goal
  | subgoal
  deriving DecidableEq, Repr

/-- `identity_category_as_str`. -/
def IdentityItemCategory.asStr : IdentityItemCategory → String
  | name => "name"
  | identityForm => "identity_form"
  | role => "role"
  | archetype => "archetype"
  | originBackstory => "origin_backstory"
  | ageFraming => "age_framing"
  | foundationalTrait => "foundational_trait"
  | foundationalValue => "foundational_value"
  | enduringBoundary => "enduring_boundary"
  | defaultCommunicationStyle => "default_communication_style"
  | preference => "preference"
  | like => "like"
  | dislike => "dislike"
  | habit => "habit"
  | routine => "routine"
  | learnedTendency => "learned_tendency"
  | autobiographicalRefinement => "autobiographical_refinement"
  | recurringSelfDescription => "recurring_self_description"
  | interactionStyleAdaptation => "interaction_style_adaptation"
  | goal => "goal"
  | subgoal => "subgoal"

inductive IdentityItemSource
  | seed
  | predefinedTemplate
  | customInterview
  | userAuthored
  | operatorAuthored
  | modelInferred
  deriving DecidableEq, Repr

/-- `item_source_as_str`. -/
def IdentityItemSource.asStr : IdentityItemSource → String
  | seed => "seed"
  | predefinedTemplate => "predefined_template"
  | customInterview => "custom_interview"
  | userAuthored => "user_authored"
  | operatorAuthored => "operator_authored"
  | modelInferred => "model_inferred"

inductive IdentityMergePolicy
  | protectedCore
  | approvalRequired
  | reinforceable
  | revisable
  | expirable
  deriving DecidableEq, Repr

inductive IdentityDeltaOperation
  | add
  | reinforce
  | weaken
  | revise
  | supersede
  | expire
  deriving DecidableEq, Repr

/-- `identity_delta_operation_as_str`. -/
def IdentityDeltaOperation.asStr : IdentityDeltaOperation → String
  | add => "add"
  | reinforce => "reinforce"
  | weaken => "weaken"
  | revise => "revise"
  | supersede => "supersede"
  | expire => "expire"

structure IdentityEvidenceRef where
  sourceKind : String
  sourceId : Option Uuid := none
  summary : String
  deriving DecidableEq, Repr

structure IdentityItemDelta where
  operation : IdentityDeltaOperation
  stabilityClass : IdentityStabilityClass
  category : IdentityItemCategory
  itemKey : String
  value : String
  confidencePct : UInt8
  weightPct : Option UInt8 := none
  source : IdentityItemSource
  mergePolicy : IdentityMergePolicy
  evidenceRefs : List IdentityEvidenceRef := []
  validFrom : Option DateTime := none
  validTo : Option DateTime := none
  targetIdentityItemId : Option Uuid := none
  deriving DecidableEq, Repr

structure SelfDescriptionDelta where
  operation : IdentityDeltaOperation
  description : String
  evidenceRefs : List IdentityEvidenceRef := []
  deriving DecidableEq, Repr

structure IdentityInterviewAnswer where
  stepKey : String
  answerText : String
  deriving DecidableEq, Repr

inductive IdentityKickstartAction
  | selectPredefinedTemplate (templateKey : String)
  | startCustomInterview
  | answerCustomInterview (answer : IdentityInterviewAnswer)
  | cancel (reason : Option String)
  deriving DecidableEq, Repr

structure IdentityDeltaProposal where
  lifecycleState : IdentityLifecycleState
  itemDeltas : List IdentityItemDelta := []
  selfDescriptionDelta : Option SelfDescriptionDelta := none
  interviewAction : Option IdentityKickstartAction := none
  rationale : String
  deriving DecidableEq, Repr

/-! ## The self-model -/

/-- The self-model as a worker sees it, without what the identity adds. -/
structure SelfModelSnapshot where
  stableIdentity : String
  role : String
  communicationStyle : String
  capabilities : List String
  constraints : List String
  preferences : List String
  currentGoals : List String
  currentSubgoals : List String
  deriving DecidableEq, Repr

/-! ## Proposals -/

inductive CanonicalProposalKind
  | memoryArtifact
  | selfModelObservation
  | identityDelta
  deriving DecidableEq, Repr

inductive CanonicalTargetKind
  | memoryArtifacts
  | selfModelArtifacts
  | identityItems
  deriving DecidableEq, Repr

inductive ProposalConflictPosture
  | independent
  | revises
  | supersedes
  | conflicts
  deriving DecidableEq, Repr

inductive ProposalProvenanceKind
  | episodeObservation
  | backlogRecovery
  | selfModelReflection
  deriving DecidableEq, Repr

structure ProposalProvenance where
  provenanceKind : ProposalProvenanceKind
  sourceIngressIds : List Uuid
  sourceEpisodeId : Option Uuid
  deriving DecidableEq, Repr

structure MemoryArtifactProposal where
  artifactKind : String
  contentText : String
  deriving DecidableEq, Repr

structure SelfModelObservationProposal where
  observationKind : String
  contentText : String
  deriving DecidableEq, Repr

inductive CanonicalProposalPayload
  | memoryArtifact (payload : MemoryArtifactProposal)
  | selfModelObservation (payload : SelfModelObservationProposal)
  | identityDelta (payload : IdentityDeltaProposal)
  deriving DecidableEq, Repr

structure CanonicalProposal where
  proposalId : Uuid
  proposalKind : CanonicalProposalKind
  canonicalTarget : CanonicalTargetKind
  confidencePct : UInt8
  conflictPosture : ProposalConflictPosture
  subjectRef : String
  rationale : Option String
  validFrom : Option DateTime
  validTo : Option DateTime
  supersedesArtifactId : Option Uuid
  provenance : ProposalProvenance
  payload : CanonicalProposalPayload
  deriving DecidableEq, Repr

/-! ## What becomes of a proposal -/

inductive ProposalEvaluationOutcome
  | accepted
  | rejected
  deriving DecidableEq, Repr

/-- The decision kind and status that stand for an outcome in the tables. -/
def ProposalEvaluationOutcome.asStr : ProposalEvaluationOutcome → String
  | accepted => "accepted"
  | rejected => "rejected"

inductive MergeDecisionTarget
  | memoryArtifact (artifactId : Uuid)
  | selfModelArtifact (artifactId : Uuid)
  | identityItems (itemIds : List Uuid)
  deriving DecidableEq, Repr

structure ProposalEvaluation where
  proposalId : Uuid
  outcome : ProposalEvaluationOutcome
  reason : String
  target : Option MergeDecisionTarget
  deriving DecidableEq, Repr

end BlueLagoon
