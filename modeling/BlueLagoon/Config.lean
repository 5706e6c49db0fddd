import BlueLagoon.Contracts

/-!
# Runtime configuration

The settings the modelled functions read.
-/

namespace BlueLagoon

structure BacklogRecoveryConfig where
  pendingMessageCountThreshold : Nat
  pendingMessageSpanSecondsThreshold : Nat
  stalePendingIngressAgeSecondsThreshold : Nat
  maxRecoveryBatchSize : Nat
  deriving DecidableEq, Repr

structure HarnessConfig where
  defaultForegroundIterationBudget : Nat
  defaultWallClockBudgetMs : Nat
  defaultForegroundTokenBudget : Nat
  deriving DecidableEq, Repr

structure WorkspaceConfig where
  rootDir : String
  maxArtifactBytes : Nat
  maxScriptBytes : Nat
  deriving DecidableEq, Repr

structure ApprovalsConfig where
  defaultTtlSeconds : Nat
  maxPendingRequests : Nat
  allowCliResolution : Bool
  deriving DecidableEq, Repr

structure GovernedActionsConfig where
  approvalRequiredMinRiskTier : GovernedActionRiskTier
  defaultSubprocessTimeoutMs : Nat
  maxSubprocessTimeoutMs : Nat
  maxActionsPerForegroundTurn : Nat
  capExceededBehavior : GovernedActionCapExceededBehavior
  maxFilesystemRootsPerAction : Nat
  allowlistedEnvironmentVariables : List String
  maxEnvironmentVariablesPerAction : Nat
  maxCapturedOutputBytes : Nat
  maxWebFetchTimeoutMs : Nat
  maxWebFetchResponseBytes : Nat
  deriving DecidableEq, Repr

/-- The Telegram user and conversation that the harness serves. -/
structure ResolvedTelegramConfig where
  allowedUserId : Int
  allowedChatId : Int
  internalPrincipalRef : String
  internalConversationRef : String
  deriving DecidableEq, Repr

structure ScheduledForegroundConfig where
  enabled : Bool
  maxDueTasksPerIteration : Nat
  minCadenceSeconds : Nat
  defaultCooldownSeconds : Nat
  deriving DecidableEq, Repr

structure BackgroundExecutionConfig where
  defaultIterationBudget : Nat
  defaultWallClockBudgetMs : Nat
  defaultTokenBudget : Nat
  deriving DecidableEq, Repr

structure BackgroundConfig where
  execution : BackgroundExecutionConfig
  deriving DecidableEq, Repr

structure RuntimeConfig where
  harness : HarnessConfig
  background : BackgroundConfig
  backlogRecovery : BacklogRecoveryConfig
  scheduledForeground : ScheduledForegroundConfig
  workspace : WorkspaceConfig
  approvals : ApprovalsConfig
  governedActions : GovernedActionsConfig
  deriving DecidableEq, Repr

/-- `is_valid_env_var_name`. -/
def isValidEnvVarName (value : String) : Bool :=
  !value.isEmpty && value.toList.all fun character =>
    ('A' ≤ character && character ≤ 'Z') || ('0' ≤ character && character ≤ '9') ||
      character = '_'

/-- The check of `GovernedActionsConfig::validate` on the names of the allowlist. -/
def GovernedActionsConfig.EnvironmentNamesValid (config : GovernedActionsConfig) : Prop :=
  ∀ name ∈ config.allowlistedEnvironmentVariables, isValidEnvVarName name = true

/-- `config/default.toml`. -/
def RuntimeConfig.shipped : RuntimeConfig where
  harness :=
    { defaultForegroundIterationBudget := 1
      defaultWallClockBudgetMs := 60000
      defaultForegroundTokenBudget := 4000 }
  background :=
    { execution :=
        { defaultIterationBudget := 2
          defaultWallClockBudgetMs := 120000
          defaultTokenBudget := 6000 } }
  backlogRecovery :=
    { pendingMessageCountThreshold := 3
      pendingMessageSpanSecondsThreshold := 120
      stalePendingIngressAgeSecondsThreshold := 300
      maxRecoveryBatchSize := 8 }
  scheduledForeground :=
    { enabled := true
      maxDueTasksPerIteration := 2
      minCadenceSeconds := 300
      defaultCooldownSeconds := 300 }
  workspace := { rootDir := ".", maxArtifactBytes := 1048576, maxScriptBytes := 262144 }
  approvals := { defaultTtlSeconds := 900, maxPendingRequests := 32, allowCliResolution := true }
  governedActions :=
    { approvalRequiredMinRiskTier := .tier2
      defaultSubprocessTimeoutMs := 30000
      maxSubprocessTimeoutMs := 120000
      maxActionsPerForegroundTurn := 10
      capExceededBehavior := .escalate
      maxFilesystemRootsPerAction := 4
      allowlistedEnvironmentVariables := ["BLUE_LAGOON_DATABASE_URL"]
      maxEnvironmentVariablesPerAction := 8
      maxCapturedOutputBytes := 65536
      maxWebFetchTimeoutMs := 15000
      maxWebFetchResponseBytes := 524288 }

end BlueLagoon
