import BlueLagoon.GovernedActions.FingerprintSoundness

/-!
# What identity boundaries cover

A boundary denies a proposal by its kind, its scope and its payload. What a proposal does is
decided by the dispatcher of its payload: commands are handed to the subprocess runner for two
kinds, and a boundary against subprocesses looks at one of them.
-/

namespace BlueLagoon

open Interleaving Harness

/-- The kind a payload belongs to. -/
def GovernedActionPayload.kind : GovernedActionPayload → GovernedActionKind
  | .inspectWorkspaceArtifact _ => .inspectWorkspaceArtifact
  | .listWorkspaceArtifacts _ => .listWorkspaceArtifacts
  | .createWorkspaceArtifact _ => .createWorkspaceArtifact
  | .updateWorkspaceArtifact _ => .updateWorkspaceArtifact
  | .listWorkspaceScripts _ => .listWorkspaceScripts
  | .inspectWorkspaceScript _ => .inspectWorkspaceScript
  | .createWorkspaceScript _ => .createWorkspaceScript
  | .appendWorkspaceScriptVersion _ => .appendWorkspaceScriptVersion
  | .listWorkspaceScriptRuns _ => .listWorkspaceScriptRuns
  | .upsertScheduledForegroundTask _ => .upsertScheduledForegroundTask
  | .requestBackgroundJob _ => .requestBackgroundJob
  | .runDiagnostic _ => .runDiagnostic
  | .runSubprocess _ => .runSubprocess
  | .runWorkspaceScript _ => .runWorkspaceScript
  | .webFetch _ => .webFetch

namespace GovernedActions

/-! ## What a proposal reaches -/

/-- The question is a command for the subprocess runner. -/
def IsCommand (question : Query) : Prop := ∃ scope action, question = .boundedSubprocess scope action

/-- The question is a request for the HTTP client. -/
def IsFetch (question : Query) : Prop := ∃ action, question = .webFetch action

/-- The execution of a proposal can come to a question of the given sort. -/
def Reaches (sort : Query → Prop) (proposal : GovernedActionProposal) : Prop :=
  ∃ config record, record.payload = proposal.payload ∧
    ¬ (executePayload config record).Asks fun question => ¬ sort question

/-- Questions that are no commands and no requests are asked by every executor. -/
theorem allowsQuestions_not {sort : Query → Prop} (h : ∀ question, sort question →
    IsCommand question ∨ IsFetch question) : AllowsQuestions fun question => ¬ sort question := by
  have hnot : ∀ question, ¬ IsCommand question → ¬ IsFetch question → ¬ sort question := by
    intro question hcommand hfetch hsort
    rcases h question hsort with hsort | hsort
    · exact hcommand hsort
    · exact hfetch hsort
  refine ⟨?_, ?_, ?_, fun action outcome => ?_⟩
  all_goals
    refine hnot _ ?_ ?_
    · rintro ⟨scope, action, ⟨⟩⟩
    · rintro ⟨action, ⟨⟩⟩

/-- Only subprocesses and scripts reach the subprocess runner. -/
theorem kind_of_reaches_command {proposal : GovernedActionProposal}
    (h : Reaches IsCommand proposal) :
    proposal.payload.kind = .runSubprocess ∨ proposal.payload.kind = .runWorkspaceScript := by
  obtain ⟨config, record, hpayload, hasks⟩ := h
  by_contra hkind
  rw [not_or] at hkind
  refine hasks ?_
  have hallows : AllowsQuestions fun question => ¬ IsCommand question :=
    allowsQuestions_not fun _ => Or.inl
  unfold executePayload
  split
  · next action heq =>
    rw [← hpayload, heq] at hkind
    exact absurd rfl hkind.1
  · next action heq =>
    rw [← hpayload, heq] at hkind
    exact absurd rfl hkind.2
  · refine hallows.executeWebFetch ?_
    rintro ⟨scope, action, ⟨⟩⟩
  · refine hallows.executeHarnessNative ?_
    rintro ⟨scope, action, ⟨⟩⟩

/-- Only web fetches reach the HTTP client. -/
theorem kind_of_reaches_fetch {proposal : GovernedActionProposal} (h : Reaches IsFetch proposal) :
    proposal.payload.kind = .webFetch := by
  obtain ⟨config, record, hpayload, hasks⟩ := h
  by_contra hkind
  refine hasks ?_
  have hallows : AllowsQuestions fun question => ¬ IsFetch question :=
    allowsQuestions_not fun _ => Or.inr
  unfold executePayload
  split
  · refine hallows.executeSubprocess ?_
    rintro ⟨action, ⟨⟩⟩
  · refine hallows.executeWorkspaceScript fun _ _ _ _ => ?_
    rintro ⟨action, ⟨⟩⟩
  · next action heq =>
    rw [← hpayload, heq] at hkind
    exact absurd rfl hkind
  · refine hallows.executeHarnessNative ?_
    rintro ⟨action, ⟨⟩⟩

/-- A transaction that can commit can be followed by what comes after it. -/
theorem asks_of_transaction {α β : Type} {P : Query → Prop} {message : String}
    {body : DateTime → Database → Except ErrorChain (Effect α)} {f : α → Harness β}
    (h : ((transaction message body).bind f).Asks P) (now : DateTime) (db : Database)
    {effect : Effect α} (hbody : body now db = .ok effect) : (f effect.value).Asks P := by
  have hstate := h.2 (some now) ({ db := db } : World)
  simpa [commit, hbody] using hstate

/-- A query that can find a row can be followed by what comes after it. -/
theorem asks_of_fetchOne {α β : Type} {P : Query → Prop} {message : String}
    {read : Database → Option α} {f : α → Harness β}
    (h : ((fetchOne message read).bind f).Asks P) (db : Database) {a : α}
    (hread : read db = some a) : (f a).Asks P := by
  have hstate := h.2 (some 0) ({ db := db } : World)
  simpa [commit, hread] using hstate

/-- The script and the version that a script action comes to. -/
theorem asks_of_script {P : Query → Prop} {config : RuntimeConfig}
    {record : GovernedActionExecutionRecord} {action : WorkspaceScriptAction} {executionId : Uuid}
    (hexecution : record.executionId = some executionId)
    (h : (executeWorkspaceScriptGovernedAction config record action).Asks P) :
    ∃ script version command,
      (runWorkspaceScript record action executionId script version command).Asks P := by
  let script : WorkspaceScriptRecord :=
    { workspaceScriptId := action.scriptId
      workspaceArtifactId := 1
      language := "python"
      entrypoint := none
      latestVersion := 1 }
  let version : WorkspaceScriptVersionRecord :=
    { workspaceScriptVersionId := action.scriptVersionId.getD 1
      workspaceScriptId := action.scriptId
      version := 1
      contentText := "print()"
      contentSha256 := ""
      changeSummary := none }
  unfold executeWorkspaceScriptGovernedAction at h
  rw [hexecution] at h
  have hfound : Table.find WorkspaceScriptRecord.workspaceScriptId action.scriptId [script] =
      some script := by
    simp [Table.find, script]
  have hscript := asks_of_fetchOne h { workspaceScripts := [script] } hfound
  have hversion : ((if version.workspaceScriptId ≠ action.scriptId then
      bail "workspace script version does not belong to the requested script"
    else do
      let command ← Prog.ofExcept
        (buildWorkspaceScriptSubprocessAction config script version action)
      runWorkspaceScript record action executionId script version command :
        Harness GovernedActionExecutionResult)).Asks P := by
    unfold resolveScriptVersion at hscript
    cases hnamed : action.scriptVersionId with
    | some versionId =>
      rw [hnamed] at hscript
      refine asks_of_fetchOne hscript { workspaceScriptVersions := [version] } ?_
      simp [Table.find, version, hnamed]
    | none =>
      rw [hnamed] at hscript
      simp only [Prog.bind_eq, Prog.bind_assoc] at hscript
      have hlatest : Workspace.latestVersion action.scriptId { workspaceScriptVersions := [version] } =
          some version := by
        simp [Workspace.latestVersion, Workspace.versionsOf, Table.first, version]
      have hfetched := asks_of_transaction hscript 0 { workspaceScriptVersions := [version] } rfl
      dsimp only at hfetched
      rw [hlatest] at hfetched
      exact hfetched
  rw [if_neg (not_not.mpr rfl)] at hversion
  have hbuilt : buildWorkspaceScriptSubprocessAction config script version action =
      .ok { command := "python"
            args := ["-c", version.contentText] ++ action.args
            workingDirectory := some config.workspace.rootDir } := by
    unfold buildWorkspaceScriptSubprocessAction
    have hlanguage : Text.toAsciiLowercase "python" = "python" := by decide +kernel
    dsimp only [script]
    rw [hlanguage]
    rfl
  rw [hbuilt] at hversion
  exact ⟨script, version, _, hversion⟩

/-- A statement that can go through can be followed by what comes after it. -/
theorem asks_of_execute {α β : Type} {P : Query → Prop} {message : String}
    {body : DateTime → Database → Except String (Effect α)} {f : α → Harness β}
    (h : ((execute message body).bind f).Asks P) (now : DateTime) (db : Database)
    {effect : Effect α} (hbody : body now db = .ok effect) : (f effect.value).Asks P :=
  asks_of_transaction h now db (by rw [hbody]; rfl)

theorem asks_of_newUuid {β : Type} {P : Query → Prop} {f : Uuid → Harness β}
    (h : (newUuid.bind f).Asks P) : (f (unused [] 0)).Asks P :=
  h.2 (0 : Uuid) ({} : World)

theorem asks_of_utcNow {β : Type} {P : Query → Prop} {f : DateTime → Harness β}
    (h : (utcNow.bind f).Asks P) : ∃ now, (f now).Asks P :=
  ⟨_, h.2 (0 : DateTime) ({} : World)⟩

section ScriptRuns

variable {β : Type} {P : Query → Prop} {f : WorkspaceScriptRunRecord → Harness β}
  {record : GovernedActionExecutionRecord} {executionId : Uuid}

/-- A store in which a run of the record can be inserted and updated. -/
def runnable (record : GovernedActionExecutionRecord) (executionId : Uuid)
    (runs : List WorkspaceScriptRunRecord) : Database where
  executionRecords :=
    [{ executionId := executionId, traceId := 1, triggerKind := "governed_action"
       status := "started" }]
  governedActionExecutions := [record]
  workspaceScriptRuns := runs

theorem runnable_violation {runs : List WorkspaceScriptRunRecord} {row : WorkspaceScriptRunRecord}
    (hexecution : row.executionId = some executionId)
    (haction : row.governedActionExecutionId = some record.governedActionExecutionId)
    (happroval : row.approvalRequestId = none) (hcompleted : row.completedAt = none)
    (hruns : ∀ other ∈ runs, other.workspaceScriptRunId = row.workspaceScriptRunId) :
    (runnable record executionId runs).workspaceScriptRunViolation row = none := by
  refine Database.firstBroken_eq_none.mpr fun condition hmem => ?_
  simp only [List.mem_cons, List.not_mem_nil, or_false] at hmem
  rcases hmem with rfl | rfl | rfl | rfl | rfl | rfl
  · exact List.all_eq_true.mpr fun other hother => by simp [hruns other hother]
  · exact List.all_eq_true.mpr fun other hother => by simp [hruns other hother]
  · simp [hcompleted]
  · simp [Database.hasExecution, hexecution, runnable]
  · simp [Database.hasGovernedAction, haction, runnable]
  · simp [Database.hasApprovalRequest, happroval]

theorem asks_of_recordRun {run : NewWorkspaceScriptRun}
    (h : ((Workspace.recordWorkspaceScriptRun run).bind f).Asks P)
    (hexecution : run.executionId = some executionId)
    (haction : run.governedActionExecutionId = some record.governedActionExecutionId)
    (happroval : run.approvalRequestId = none) (hcompleted : run.completedAt = none) :
    (f (Workspace.runRow 0 run)).Asks P := by
  unfold Workspace.recordWorkspaceScriptRun at h
  simp only [Prog.bind_eq, Prog.bind_assoc] at h
  have hviolation : (runnable record executionId []).workspaceScriptRunViolation
      (Workspace.runRow 0 run) = none :=
    runnable_violation hexecution haction happroval hcompleted (by simp)
  have hinserted := asks_of_execute h 0 (runnable record executionId []) (by rw [hviolation])
  have hfound : Table.find WorkspaceScriptRunRecord.workspaceScriptRunId run.workspaceScriptRunId
      [Workspace.runRow 0 run] = some (Workspace.runRow 0 run) := by
    simp [Table.find, Workspace.runRow]
  exact asks_of_fetchOne hinserted (runnable record executionId [Workspace.runRow 0 run]) hfound

theorem asks_of_updateRun {update : UpdateWorkspaceScriptRunStatus}
    {row : WorkspaceScriptRunRecord}
    (h : ((Workspace.updateWorkspaceScriptRunStatus update).bind f).Asks P)
    (hid : row.workspaceScriptRunId = update.workspaceScriptRunId)
    (hexecution : row.executionId = some executionId)
    (haction : row.governedActionExecutionId = some record.governedActionExecutionId)
    (happroval : row.approvalRequestId = none) (hcompleted : update.completedAt = none) :
    (f row).Asks P := by
  unfold Workspace.updateWorkspaceScriptRunStatus at h
  simp only [Prog.bind_eq, Prog.bind_assoc] at h
  have hfound : Table.find WorkspaceScriptRunRecord.workspaceScriptRunId
      update.workspaceScriptRunId [row] = some row := by
    simp [Table.find, hid]
  have hviolation : (runnable record executionId [row]).workspaceScriptRunViolation
      (Workspace.runUpdated 0 update row) = none :=
    runnable_violation hexecution haction happroval hcompleted
      fun other hother => by rw [List.mem_singleton.mp hother]; rfl
  have hupdated := asks_of_execute h 0 (runnable record executionId [row])
    (by dsimp only [runnable] at hviolation ⊢; rw [hfound]; dsimp only; rw [hviolation])
  exact asks_of_fetchOne hupdated (runnable record executionId [row]) hfound

/-- A script that is run reaches the subprocess runner. -/
theorem not_asks_runWorkspaceScript {action : WorkspaceScriptAction}
    {script : WorkspaceScriptRecord} {version : WorkspaceScriptVersionRecord}
    {command : SubprocessAction} (happroval : record.approvalRequestId = none) :
    ¬ (runWorkspaceScript record action executionId script version command).Asks
      fun question => ¬ IsCommand question := by
  intro h
  have hissued := asks_of_newUuid h
  have hrecorded := asks_of_recordRun hissued rfl rfl happroval rfl
  obtain ⟨startedAt, htimed⟩ := asks_of_utcNow hrecorded
  have hrunning := asks_of_updateRun htimed rfl rfl rfl happroval rfl
  have hcommand := hrunning ({} : World)
  exact hcommand.1 ⟨_, _, rfl⟩

end ScriptRuns

/-- The record of a proposal that can be executed. -/
def executable (proposal : GovernedActionProposal) : GovernedActionExecutionRecord where
  governedActionExecutionId := 1
  traceId := 1
  executionId := some 2
  actionProposalId := proposal.proposalId
  actionFingerprint := { value := "" }
  actionKind := proposal.actionKind
  riskTier := .tier1
  status := .approved
  capabilityScope := proposal.capabilityScope
  payload := proposal.payload
  startedAt := some 0

/-- Subprocesses and scripts, and only they, reach the subprocess runner. -/
theorem reaches_command_iff {proposal : GovernedActionProposal} :
    Reaches IsCommand proposal ↔
      proposal.payload.kind = .runSubprocess ∨ proposal.payload.kind = .runWorkspaceScript := by
  refine ⟨kind_of_reaches_command, fun h => ?_⟩
  refine ⟨RuntimeConfig.shipped, executable proposal, rfl, fun hasks => ?_⟩
  unfold executePayload at hasks
  cases hpayload : (executable proposal).payload with
  | runSubprocess action =>
    rw [hpayload] at hasks
    have hcommand := hasks ({} : World)
    exact hcommand.1 ⟨_, _, rfl⟩
  | runWorkspaceScript action =>
    rw [hpayload] at hasks
    obtain ⟨script, version, command, hrun⟩ := asks_of_script rfl hasks
    exact not_asks_runWorkspaceScript rfl hrun
  | _ =>
    rw [show proposal.payload = _ from hpayload] at h
    rcases h with h | h <;> cases h

/-- Web fetches, and only they, reach the HTTP client. -/
theorem reaches_fetch_iff {proposal : GovernedActionProposal} :
    Reaches IsFetch proposal ↔ proposal.payload.kind = .webFetch := by
  refine ⟨kind_of_reaches_fetch, fun h => ?_⟩
  refine ⟨RuntimeConfig.shipped, executable proposal, rfl, fun hasks => ?_⟩
  unfold executePayload at hasks
  cases hpayload : (executable proposal).payload with
  | webFetch action =>
    rw [hpayload] at hasks
    exact hasks.1 ⟨_, rfl⟩
  | _ =>
    rw [show proposal.payload = _ from hpayload] at h
    cases h

end GovernedActions

namespace Policy

/-! ## What a boundary denies -/

/-- The form in which a boundary is read. -/
def normalizedBoundary (boundary : String) : String := Text.toAsciiLowercase (Text.trim boundary)

/-- The proposal is denied. -/
def Denied (boundaries : List String) (proposal : GovernedActionProposal) : Prop :=
  ∃ reason, evaluateGovernedActionIdentityBoundaries proposal boundaries = .denied reason

/-- The boundary denies the proposal, wherever it stands in a list. -/
def Denies (boundary : String) (proposal : GovernedActionProposal) : Prop :=
  (boundaryBlocksNetwork (normalizedBoundary boundary) ∧
      (proposal.capabilityScope.network ≠ .disabled ∨ proposal.actionKind = .webFetch)) ∨
    (boundaryBlocksSubprocess (normalizedBoundary boundary) ∧
      proposal.actionKind = .runSubprocess) ∨
    (boundaryBlocksWorkspaceWrites (normalizedBoundary boundary) ∧
      governedActionHasWorkspaceWriteEffect proposal)

/-- Nothing is recognised in a boundary without text. -/
theorem not_denies_of_isEmpty {boundary : String} {proposal : GovernedActionProposal}
    (h : (normalizedBoundary boundary).isEmpty) : ¬ Denies boundary proposal := by
  have hempty : normalizedBoundary boundary = "" := String.isEmpty_iff.mp h
  have hnetwork : boundaryBlocksNetwork "" = false := by decide +kernel
  have hsubprocess : boundaryBlocksSubprocess "" = false := by decide +kernel
  have hwrites : boundaryBlocksWorkspaceWrites "" = false := by decide +kernel
  unfold Denies
  rw [hempty, hnetwork, hsubprocess, hwrites]
  simp

/-- An action is denied exactly if one of the boundaries denies it. -/
theorem denied_iff {boundaries : List String} {proposal : GovernedActionProposal} :
    Denied boundaries proposal ↔ ∃ boundary ∈ boundaries, Denies boundary proposal := by
  unfold Denied
  induction boundaries with
  | nil => simp [evaluateGovernedActionIdentityBoundaries]
  | cons boundary boundaries ih =>
    simp only [List.mem_cons, exists_eq_or_imp]
    unfold evaluateGovernedActionIdentityBoundaries
    dsimp only
    split
    · next hempty =>
      have hnot : ¬ Denies boundary proposal := not_denies_of_isEmpty hempty
      rw [ih]
      simp [hnot]
    · split
      · next hnetwork =>
        simp only [Bool.and_eq_true, decide_eq_true_eq, Bool.or_eq_true] at hnetwork
        exact iff_of_true ⟨_, rfl⟩ (Or.inl (Or.inl hnetwork))
      · next hnetwork =>
        split
        · next hsubprocess =>
          simp only [Bool.and_eq_true, decide_eq_true_eq] at hsubprocess
          exact iff_of_true ⟨_, rfl⟩ (Or.inl (Or.inr (Or.inl hsubprocess)))
        · next hsubprocess =>
          split
          · next hwrites =>
            rw [Bool.and_eq_true] at hwrites
            exact iff_of_true ⟨_, rfl⟩ (Or.inl (Or.inr (Or.inr hwrites)))
          · next hwrites =>
            have hnot : ¬ Denies boundary proposal := by
              rintro (h | h | h)
              · exact hnetwork (by simpa [normalizedBoundary] using h)
              · exact hsubprocess (by simpa [normalizedBoundary] using h)
              · exact hwrites (by simpa [normalizedBoundary] using h)
            rw [ih]
            simp [hnot]

/-! ## Coverage -/

/-- The boundaries of a list cover what a proposal can do. -/
structure BoundariesCover (boundaries : List String) (proposal : GovernedActionProposal) :
    Prop where
  subprocess : (∃ boundary ∈ boundaries, boundaryBlocksSubprocess (normalizedBoundary boundary)) →
    GovernedActions.Reaches GovernedActions.IsCommand proposal → Denied boundaries proposal
  network : (∃ boundary ∈ boundaries, boundaryBlocksNetwork (normalizedBoundary boundary)) →
    (proposal.capabilityScope.network ≠ .disabled ∨
      GovernedActions.Reaches GovernedActions.IsFetch proposal) → Denied boundaries proposal
  monotone : ∀ more, boundaries ⊆ more → Denied boundaries proposal → Denied more proposal

/-- A script is proposed against a subprocess boundary, and no other boundary denies it. -/
structure ScriptUncovered (boundaries : List String) (proposal : GovernedActionProposal) :
    Prop where
  script : proposal.payload.kind = .runWorkspaceScript
  recognised : ∃ boundary ∈ boundaries, boundaryBlocksSubprocess (normalizedBoundary boundary)
  network : (∃ boundary ∈ boundaries, boundaryBlocksNetwork (normalizedBoundary boundary)) →
    proposal.capabilityScope.network = .disabled
  writes : (∃ boundary ∈ boundaries, boundaryBlocksWorkspaceWrites (normalizedBoundary boundary)) →
    proposal.capabilityScope.filesystem.writeRoots = []

/-- A script writes what its scope lets it write. -/
theorem writeEffect_script {proposal : GovernedActionProposal}
    (h : proposal.payload.kind = .runWorkspaceScript) :
    governedActionHasWorkspaceWriteEffect proposal =
      !proposal.capabilityScope.filesystem.writeRoots.isEmpty := by
  unfold governedActionHasWorkspaceWriteEffect
  split
  · next hroots => exact hroots.symm
  · next hroots =>
    rw [Bool.not_eq_true] at hroots
    rw [hroots]
    split
    all_goals first
      | rfl
      | next action hpayload =>
        rw [hpayload] at h
        cases h

theorem not_denied_of_uncovered {boundaries : List String} {proposal : GovernedActionProposal}
    (hkind : proposal.actionKind = proposal.payload.kind)
    (h : ScriptUncovered boundaries proposal) : ¬ Denied boundaries proposal := by
  rw [denied_iff]
  rintro ⟨boundary, hmem, hdenies⟩
  rcases hdenies with ⟨hrecognised, hnetwork⟩ | ⟨-, hsubprocess⟩ | ⟨hrecognised, hwrites⟩
  · rcases hnetwork with hnetwork | hfetch
    · exact hnetwork (h.network ⟨boundary, hmem, hrecognised⟩)
    · rw [hkind, h.script] at hfetch
      cases hfetch
  · rw [hkind, h.script] at hsubprocess
    cases hsubprocess
  · rw [writeEffect_script h.script, h.writes ⟨boundary, hmem, hrecognised⟩] at hwrites
    cases hwrites

/-- Boundaries cover every proposal but a script that only a subprocess boundary could deny. -/
theorem boundaries_cover_iff (boundaries : List String) (proposal : GovernedActionProposal)
    (hkind : proposal.actionKind = proposal.payload.kind) :
    BoundariesCover boundaries proposal ↔ ¬ ScriptUncovered boundaries proposal := by
  constructor
  · intro hcover huncovered
    refine not_denied_of_uncovered hkind huncovered (hcover.subprocess huncovered.recognised ?_)
    exact GovernedActions.reaches_command_iff.mpr (Or.inr huncovered.script)
  · intro hcovered
    refine ⟨fun hrecognised hreaches => ?_, fun hrecognised heffect => ?_,
      fun more hsubset hdenied => ?_⟩
    · rcases GovernedActions.reaches_command_iff.mp hreaches with hsubprocess | hscript
      · obtain ⟨boundary, hmem, hblocks⟩ := hrecognised
        exact denied_iff.mpr ⟨boundary, hmem, Or.inr (Or.inl ⟨hblocks, hkind.trans hsubprocess⟩)⟩
      · by_contra hdenied
        refine hcovered ⟨hscript, hrecognised, fun hnetwork => ?_, fun hwrites => ?_⟩
        · by_contra hposture
          obtain ⟨boundary, hmem, hblocks⟩ := hnetwork
          exact hdenied (denied_iff.mpr ⟨boundary, hmem, Or.inl ⟨hblocks, Or.inl hposture⟩⟩)
        · by_contra hroots
          obtain ⟨boundary, hmem, hblocks⟩ := hwrites
          refine hdenied (denied_iff.mpr ⟨boundary, hmem, Or.inr (Or.inr ⟨hblocks, ?_⟩)⟩)
          rw [writeEffect_script hscript]
          simpa using hroots
    · obtain ⟨boundary, hmem, hblocks⟩ := hrecognised
      refine denied_iff.mpr ⟨boundary, hmem, Or.inl ⟨hblocks, ?_⟩⟩
      rcases heffect with hposture | hfetch
      · exact Or.inl hposture
      · exact Or.inr (hkind.trans (GovernedActions.reaches_fetch_iff.mp hfetch))
    · obtain ⟨boundary, hmem, hdenies⟩ := denied_iff.mp hdenied
      exact denied_iff.mpr ⟨boundary, hsubset hmem, hdenies⟩

/-- A script without network access that may only read. -/
def readingScript : GovernedActionProposal where
  proposalId := 1
  title := "Run the report"
  rationale := none
  actionKind := .runWorkspaceScript
  requestedRiskTier := none
  capabilityScope :=
    { filesystem := { readRoots := ["/workspace"], writeRoots := [] }
      execution := { timeoutMs := 1000, maxStdoutBytes := 1024, maxStderrBytes := 1024 } }
  payload := .runWorkspaceScript { scriptId := 7, scriptVersionId := none, args := [] }

/-- A boundary against writes covers a script that writes. -/
theorem boundaries_cover_iff_writingScript :
    BoundariesCover ["Never run subprocess commands.", "Never write to the workspace."]
      { readingScript with
        capabilityScope :=
          { readingScript.capabilityScope with
            filesystem := { readRoots := [], writeRoots := ["/workspace"] } } } := by
  refine (boundaries_cover_iff _ _ rfl).mpr fun huncovered => ?_
  have hroots := huncovered.writes ⟨"Never write to the workspace.", by simp, by decide +kernel⟩
  cases hroots

/-- "Never run subprocess commands." does not keep a script from being run. -/
theorem script_escapes_subprocess_boundary :
    ¬ BoundariesCover ["Never run subprocess commands."] readingScript := by
  intro hcover
  obtain ⟨reason, hreason⟩ := hcover.subprocess
    ⟨"Never run subprocess commands.", by simp, by decide +kernel⟩
    (GovernedActions.reaches_command_iff.mpr (Or.inr rfl))
  have hallowed : evaluateGovernedActionIdentityBoundaries readingScript
      ["Never run subprocess commands."] = .allowed := by
    decide +kernel
  rw [hallowed] at hreason
  cases hreason

end Policy

end BlueLagoon
