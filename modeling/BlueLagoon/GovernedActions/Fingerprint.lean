import BlueLagoon.Policy

/-!
# Fingerprints

The fingerprint of a proposal is a digest of its canonical form: kind, classified
tier, scope and payload, with blanks trimmed and lists of names sorted. The title,
the rationale and the identifier of the proposal do not count.
-/

namespace BlueLagoon

structure CanonicalCapabilityScope where
  filesystemReadRoots : List String
  filesystemWriteRoots : List String
  network : NetworkAccessPosture
  environmentVariables : List String
  timeoutMs : Nat
  maxStdoutBytes : Nat
  maxStderrBytes : Nat
  deriving DecidableEq, Repr

/-- The canonical payload has the variants and fields of the payload. -/
structure CanonicalGovernedActionFingerprintInput where
  actionKind : String
  riskTier : String
  capabilityScope : CanonicalCapabilityScope
  payload : GovernedActionPayload
  deriving DecidableEq, Repr

/-- Services outside the repository that compute a value. -/
class GovernedActionServices where
  /-- The SHA-256 digest of the serialized input, in lower-case hexadecimal. -/
  fingerprintHex : CanonicalGovernedActionFingerprintInput → String
  /-- The scheme of a URL, when it parses. -/
  urlScheme : String → Except ErrorChain String

namespace GovernedActions

/-- `CanonicalCapabilityScope::from`. -/
def canonicalCapabilityScope (scope : CapabilityScope) : CanonicalCapabilityScope where
  filesystemReadRoots := Text.trimmedSet scope.filesystem.readRoots
  filesystemWriteRoots := Text.trimmedSet scope.filesystem.writeRoots
  network := scope.network
  environmentVariables := Text.trimmedSet scope.environment.allowVariables
  timeoutMs := scope.execution.timeoutMs
  maxStdoutBytes := scope.execution.maxStdoutBytes
  maxStderrBytes := scope.execution.maxStderrBytes

/-- `CanonicalGovernedActionPayload::from`. -/
def canonicalGovernedActionPayload : GovernedActionPayload → GovernedActionPayload
  | .inspectWorkspaceArtifact action => .inspectWorkspaceArtifact action
  | .listWorkspaceArtifacts action =>
    .listWorkspaceArtifacts { action with query := action.query.map Text.trim }
  | .createWorkspaceArtifact action =>
    .createWorkspaceArtifact
      { action with
          title := Text.trim action.title
          provenance := action.provenance.map Text.trim }
  | .updateWorkspaceArtifact action =>
    .updateWorkspaceArtifact
      { action with
          title := action.title.map Text.trim
          changeSummary := Text.trim action.changeSummary }
  | .listWorkspaceScripts action =>
    .listWorkspaceScripts
      { action with
          language := action.language.map Text.trim
          query := action.query.map Text.trim }
  | .inspectWorkspaceScript action => .inspectWorkspaceScript action
  | .createWorkspaceScript action =>
    .createWorkspaceScript
      { action with
          title := Text.trim action.title
          language := Text.toAsciiLowercase (Text.trim action.language)
          description := action.description.map Text.trim
          requestedCapabilities := Text.trimmedSet action.requestedCapabilities }
  | .appendWorkspaceScriptVersion action =>
    .appendWorkspaceScriptVersion
      { action with
          expectedContentSha256 := action.expectedContentSha256.map Text.trim
          language := Text.toAsciiLowercase (Text.trim action.language)
          changeSummary := Text.trim action.changeSummary }
  | .listWorkspaceScriptRuns action => .listWorkspaceScriptRuns action
  | .upsertScheduledForegroundTask action =>
    .upsertScheduledForegroundTask
      { action with
          taskKey := Text.trim action.taskKey
          title := Text.trim action.title
          userFacingPrompt := Text.trim action.userFacingPrompt
          internalPrincipalRef := Text.trim action.internalPrincipalRef
          internalConversationRef := Text.trim action.internalConversationRef }
  | .requestBackgroundJob action =>
    .requestBackgroundJob
      { action with
          rationale := Text.trim action.rationale
          inputScopeRef := action.inputScopeRef.map Text.trim
          urgency := action.urgency.map Text.trim
          wakePreference := action.wakePreference.map Text.trim
          internalConversationRef := action.internalConversationRef.map Text.trim }
  | .runDiagnostic action => .runDiagnostic action
  | .runSubprocess action =>
    .runSubprocess
      { action with
          command := Text.trim action.command
          workingDirectory := action.workingDirectory.map Text.trim }
  | .runWorkspaceScript action => .runWorkspaceScript action
  | .webFetch action => .webFetch { action with url := Text.trim action.url }

/-- What the fingerprint of a proposal is computed from. -/
def canonicalInput (proposal : GovernedActionProposal) :
    CanonicalGovernedActionFingerprintInput where
  actionKind := proposal.actionKind.asStr
  riskTier := (Policy.classifyGovernedActionRisk proposal).asStr
  capabilityScope := canonicalCapabilityScope proposal.capabilityScope
  payload := canonicalGovernedActionPayload proposal.payload

variable [GovernedActionServices]

/-- `fingerprint_governed_action`. -/
def fingerprintGovernedAction (proposal : GovernedActionProposal) :
    GovernedActionFingerprint where
  value := "sha256:" ++ GovernedActionServices.fingerprintHex (canonicalInput proposal)

/-- The words of a payload that examples differ in. -/
def payloadWords : GovernedActionPayload → List String
  | .runSubprocess action => action.command :: action.args
  | .webFetch action => [action.url]
  | _ => []

/-- Services for examples. The digest of an input is spelled out, as far as examples differ in it,
and the scheme of a URL is what stands before its first colon. -/
@[reducible] def plainServices : GovernedActionServices where
  fingerprintHex input :=
    String.intercalate " " (input.actionKind :: input.riskTier :: payloadWords input.payload)
  urlScheme url := .ok (String.ofList (url.toList.takeWhile fun c => c ≠ ':'))

end GovernedActions

end BlueLagoon
