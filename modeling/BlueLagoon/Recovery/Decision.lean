import BlueLagoon.Schema

/-!
# Recovery decisions

Interrupted work is classified by what it is, what evidence it left, where its
approval and policy stand and how much budget is left; the decision is a function
of the classification.
-/

namespace BlueLagoon

inductive RecoveryActionClassification
  | safeReplay
  | provablyIdempotentExternal
  | ambiguousOrNonrepeatable
  deriving DecidableEq, Repr

inductive RecoveryEvidenceState
  | notStarted
  | durableIncomplete
  | durableCompleted
  | ambiguous
  | corrupted
  deriving DecidableEq, Repr

inductive RecoveryApprovalState
  | notRequired
  | pending
  | approvedFresh
  | expired
  | invalidated
  | rejected
  | missingRequired
  deriving DecidableEq, Repr

inductive RecoveryPolicyState
  | valid
  | requiresRecheck
  | recheckFailed
  deriving DecidableEq, Repr

structure RecoveryDecisionRequest where
  checkpointKind : RecoveryCheckpointKind
  reasonCode : RecoveryReasonCode
  actionClassification : RecoveryActionClassification
  evidenceState : RecoveryEvidenceState
  approvalState : RecoveryApprovalState
  policyState : RecoveryPolicyState
  recoveryBudgetRemaining : Int
  clarificationAvailable : Bool
  deriving DecidableEq, Repr

structure RecoveryDecisionOutcome where
  decision : RecoveryDecision
  checkpointStatus : RecoveryCheckpointStatus
  summary : String
  deriving DecidableEq, Repr

namespace Recovery

/-! ## Labels -/

/-- `recovery_approval_state_label`. -/
def approvalStateLabel : RecoveryApprovalState → String
  | .notRequired => "not_required"
  | .pending => "pending"
  | .approvedFresh => "approved_fresh"
  | .expired => "expired"
  | .invalidated => "invalidated"
  | .rejected => "rejected"
  | .missingRequired => "missing_required"

/-- `recovery_action_classification_label`. -/
def actionClassificationLabel : RecoveryActionClassification → String
  | .safeReplay => "safe_replay"
  | .provablyIdempotentExternal => "provably_idempotent_external"
  | .ambiguousOrNonrepeatable => "ambiguous_or_nonrepeatable"

/-- `recovery_evidence_state_label`. -/
def evidenceStateLabel : RecoveryEvidenceState → String
  | .notStarted => "not_started"
  | .durableIncomplete => "durable_incomplete"
  | .durableCompleted => "durable_completed"
  | .ambiguous => "ambiguous"
  | .corrupted => "corrupted"

/-- `recovery_policy_state_label`. -/
def policyStateLabel : RecoveryPolicyState → String
  | .valid => "valid"
  | .requiresRecheck => "requires_recheck"
  | .recheckFailed => "recheck_failed"

/-! ## The decision -/

/-- `classify_recovery_decision`. -/
def classifyRecoveryDecision (request : RecoveryDecisionRequest) : RecoveryDecision :=
  if request.recoveryBudgetRemaining = 0 then .abandon
  else if request.evidenceState = .corrupted || request.policyState = .recheckFailed ||
      request.reasonCode = .integrityOrPolicyBlock || request.approvalState = .rejected then
    .abandon
  else
    match request.approvalState with
    | .pending => .defer
    | .expired | .invalidated | .missingRequired => .reapprove
    | .notRequired | .approvedFresh | .rejected =>
      if request.evidenceState = .durableCompleted then .continue_
      else
        match request.actionClassification with
        | .safeReplay =>
          match request.checkpointKind with
          | .foreground => .continue_
          | .background | .governedAction => .retry
        | .provablyIdempotentExternal => .retry
        | .ambiguousOrNonrepeatable =>
          if request.clarificationAvailable then .clarify else .abandon

/-- `checkpoint_status_for_decision`. -/
def checkpointStatusForDecision : RecoveryDecision → RecoveryCheckpointStatus
  | .abandon => .abandoned
  | .continue_ | .retry | .defer | .reapprove | .clarify => .resolved

/-- `recovery_abandonment_summary`. -/
def recoveryAbandonmentSummary (request : RecoveryDecisionRequest) : String :=
  if request.recoveryBudgetRemaining = 0 then "recovery budget is exhausted"
  else if request.evidenceState = .corrupted then "checkpoint evidence is corrupted or incomplete"
  else if request.policyState = .recheckFailed || request.reasonCode = .integrityOrPolicyBlock then
    "policy or integrity validation blocks recovery"
  else if request.approvalState = .rejected then "approval was rejected"
  else if request.actionClassification = .ambiguousOrNonrepeatable then
    "side-effect state is ambiguous and no safe clarification path is available"
  else "recovery cannot continue safely"

/-- `recovery_decision_summary`. -/
def recoveryDecisionSummary (request : RecoveryDecisionRequest) : RecoveryDecision → String
  | .continue_ => "durable evidence supports fresh-worker continuation"
  | .retry => "work can be retried within the remaining recovery budget"
  | .defer => "recovery is deferred until the pending approval state resolves"
  | .reapprove => "recovery requires a fresh approval before execution may continue"
  | .clarify => "side-effect state is ambiguous and requires user clarification"
  | .abandon => recoveryAbandonmentSummary request

/-- `evaluate_recovery_decision`. -/
def evaluateRecoveryDecision (request : RecoveryDecisionRequest) :
    Except ErrorChain RecoveryDecisionOutcome :=
  if request.recoveryBudgetRemaining < 0 then
    .error ["recovery budget remaining must not be negative"]
  else
    let decision := classifyRecoveryDecision request
    .ok { decision := decision
          checkpointStatus := checkpointStatusForDecision decision
          summary := recoveryDecisionSummary request decision }

/-- No decision leaves its checkpoint open. -/
theorem checkpointStatusForDecision_ne_open (decision : RecoveryDecision) :
    checkpointStatusForDecision decision ≠ .open_ := by
  cases decision <;> simp [checkpointStatusForDecision]

/-- With budget to spend, a decision is always made. -/
theorem evaluateRecoveryDecision_ok (request : RecoveryDecisionRequest)
    (h : 0 ≤ request.recoveryBudgetRemaining) : ∃ outcome,
      evaluateRecoveryDecision request = .ok outcome ∧
        outcome.decision = classifyRecoveryDecision request ∧
        outcome.checkpointStatus = checkpointStatusForDecision outcome.decision := by
  have hneg : ¬ request.recoveryBudgetRemaining < 0 := by omega
  simp [evaluateRecoveryDecision, hneg]

end Recovery

end BlueLagoon
