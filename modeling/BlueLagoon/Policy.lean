import BlueLagoon.Config

/-!
# Policy

Which Telegram ingress is let in and on what budget, how risky a governed action is,
whether it needs an approval, and what the boundaries of the active identity forbid.
-/

namespace BlueLagoon

inductive PolicyDecision
  | allowed
  | denied (reason : String)
  deriving DecidableEq, Repr

namespace Policy

/-! ## Foreground triggers -/

/-- `default_foreground_budget`. -/
def defaultForegroundBudget (config : RuntimeConfig) : ForegroundBudget where
  iterationBudget := config.harness.defaultForegroundIterationBudget
  wallClockBudgetMs := config.harness.defaultWallClockBudgetMs
  tokenBudget := config.harness.defaultForegroundTokenBudget

/-- `validate_foreground_budget`. -/
def validateForegroundBudget (budget : ForegroundBudget) : Except ErrorChain Unit :=
  if budget.iterationBudget = 0 then
    .error ["foreground iteration budget must be greater than zero"]
  else if budget.wallClockBudgetMs = 0 then
    .error ["foreground wall-clock budget must be greater than zero"]
  else if budget.tokenBudget = 0 then
    .error ["foreground token budget must be greater than zero"]
  else .ok ()

/-- `evaluate_telegram_foreground_trigger`. -/
def evaluateTelegramForegroundTrigger (config : ResolvedTelegramConfig)
    (ingress : NormalizedIngress) : PolicyDecision :=
  if ingress.externalUserId ≠ toString config.allowedUserId then
    .denied "Telegram ingress actor does not match the configured single-user boundary"
  else if ingress.externalConversationId ≠ toString config.allowedChatId then
    .denied "Telegram ingress conversation does not match the configured conversation boundary"
  else if ingress.internalPrincipalRef ≠ config.internalPrincipalRef then
    .denied "Telegram ingress principal binding does not match configured policy"
  else if ingress.internalConversationRef ≠ config.internalConversationRef then
    .denied "Telegram ingress internal conversation binding does not match configured policy"
  else
    match ingress.eventKind with
    | .approvalCallback =>
      if ingress.approvalPayload.isSome then .allowed
      else .denied "approval callbacks require approval payload metadata"
    | .messageCreated | .commandIssued =>
      if ingress.textBody.any fun text => !Text.isBlank text then .allowed
      else .denied "foreground Telegram triggers require a non-empty text body"

/-! ## Risk -/

/-- The tier of an action, from its kind and its scope alone. -/
def intrinsicRiskTier (proposal : GovernedActionProposal) : GovernedActionRiskTier :=
  let hasWriteScope := !proposal.capabilityScope.filesystem.writeRoots.isEmpty
  let hasEnvScope := !proposal.capabilityScope.environment.allowVariables.isEmpty
  let hasNetwork := decide (proposal.capabilityScope.network ≠ .disabled)
  match proposal.actionKind with
  | .inspectWorkspaceArtifact | .listWorkspaceArtifacts | .listWorkspaceScripts
  | .inspectWorkspaceScript | .listWorkspaceScriptRuns | .runDiagnostic => .tier0
  | .createWorkspaceArtifact | .updateWorkspaceArtifact | .requestBackgroundJob => .tier1
  | .createWorkspaceScript | .appendWorkspaceScriptVersion | .upsertScheduledForegroundTask
  | .webFetch => .tier2
  | .runSubprocess | .runWorkspaceScript =>
    if hasNetwork && hasWriteScope then .tier3
    else if hasNetwork || hasWriteScope || hasEnvScope then .tier2
    else .tier1

/-- `classify_governed_action_risk`: a request can raise the tier, not lower it. -/
def classifyGovernedActionRisk (proposal : GovernedActionProposal) : GovernedActionRiskTier :=
  let intrinsic := intrinsicRiskTier proposal
  match proposal.requestedRiskTier with
  | some requested => if requested > intrinsic then requested else intrinsic
  | none => intrinsic

/-- `governed_action_requires_approval`. -/
def governedActionRequiresApproval (config : RuntimeConfig)
    (riskTier : GovernedActionRiskTier) : Bool :=
  riskTier ≥ config.governedActions.approvalRequiredMinRiskTier

/-! ## Identity boundaries -/

/-- `boundary_blocks_network`. -/
def boundaryBlocksNetwork (normalized : String) : Bool :=
  ["no network", "do not use network", "never use network", "avoid network access",
    "network access is disabled", "without network access"].any (Text.contains normalized)

/-- `boundary_blocks_subprocess`. -/
def boundaryBlocksSubprocess (normalized : String) : Bool :=
  ["no subprocess", "do not run subprocess", "never run subprocess", "avoid subprocess",
    "without subprocess"].any (Text.contains normalized)

/-- `boundary_blocks_workspace_writes`. -/
def boundaryBlocksWorkspaceWrites (normalized : String) : Bool :=
  ["no workspace writes", "do not write", "never write", "avoid workspace writes",
    "read-only"].any (Text.contains normalized)

/-- `governed_action_has_workspace_write_effect`. -/
def governedActionHasWorkspaceWriteEffect (proposal : GovernedActionProposal) : Bool :=
  if !proposal.capabilityScope.filesystem.writeRoots.isEmpty then true
  else
    match proposal.payload with
    | .createWorkspaceArtifact _ | .updateWorkspaceArtifact _ | .createWorkspaceScript _
    | .appendWorkspaceScriptVersion _ | .upsertScheduledForegroundTask _
    | .requestBackgroundJob _ => true
    | _ => false

/-- `evaluate_governed_action_identity_boundaries`. -/
def evaluateGovernedActionIdentityBoundaries (proposal : GovernedActionProposal) :
    List String → PolicyDecision
  | [] => .allowed
  | boundary :: boundaries =>
    let normalized := Text.toAsciiLowercase (Text.trim boundary)
    if normalized.isEmpty then
      evaluateGovernedActionIdentityBoundaries proposal boundaries
    else if boundaryBlocksNetwork normalized &&
        (proposal.capabilityScope.network ≠ .disabled || proposal.actionKind = .webFetch) then
      .denied s!"identity boundary blocks governed action network access: {Text.trim boundary}"
    else if boundaryBlocksSubprocess normalized && proposal.actionKind = .runSubprocess then
      .denied s!"identity boundary blocks subprocess governed actions: {Text.trim boundary}"
    else if boundaryBlocksWorkspaceWrites normalized &&
        governedActionHasWorkspaceWriteEffect proposal then
      .denied s!"identity boundary blocks workspace write governed actions: {Text.trim boundary}"
    else
      evaluateGovernedActionIdentityBoundaries proposal boundaries

end Policy

end BlueLagoon
