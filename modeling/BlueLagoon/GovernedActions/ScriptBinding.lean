import BlueLagoon.Approval
import BlueLagoon.GovernedActions.Effects

/-!
# What an approval of a script action binds

Between the request for an approval and the execution it allows, versions may be appended
to the script. An action that names its version runs that version. An action that names
none runs whatever is latest once it executes, which is what its request would have run
only as long as the latest content has not changed.
-/

namespace BlueLagoon

open Interleaving Harness

namespace GovernedActions

/-! ## Databases with more versions -/

/-- No version has a number above the one its script carries: both start at 1, and an
append moves both on. -/
def Numbered (db : Database) : Prop :=
  ∀ version ∈ db.workspaceScriptVersions, ∀ script ∈ db.workspaceScripts,
    version.workspaceScriptId = script.workspaceScriptId →
      version.version ≤ script.latestVersion

instance (db : Database) : Decidable (Numbered db) := by
  unfold Numbered
  infer_instance

/-- The last of the added versions of a script. -/
def lastAdded (scriptId : Uuid) (added : List WorkspaceScriptVersionRecord) :
    Option WorkspaceScriptVersionRecord :=
  (added.filter fun row => row.workspaceScriptId = scriptId).getLast?

/-- The scripts of `db'` are those of `db` with `added` versions. -/
structure Appended (db : Database) (added : List WorkspaceScriptVersionRecord)
    (db' : Database) : Prop where
  versions : db'.workspaceScriptVersions = db.workspaceScriptVersions ++ added
  language : ∀ id,
    (Table.find WorkspaceScriptRecord.workspaceScriptId id db'.workspaceScripts).map
        WorkspaceScriptRecord.language =
      (Table.find WorkspaceScriptRecord.workspaceScriptId id db.workspaceScripts).map
        WorkspaceScriptRecord.language
  numbered : Numbered db → Numbered db'
  latest : Numbered db → ∀ id,
    Workspace.latestVersion id db' = (lastAdded id added).or (Workspace.latestVersion id db)

theorem Appended.of_eq {db db' : Database}
    (scripts : db'.workspaceScripts = db.workspaceScripts)
    (versions : db'.workspaceScriptVersions = db.workspaceScriptVersions) :
    Appended db [] db' where
  versions := by simp [versions]
  language := fun id => by rw [scripts]
  numbered := fun h => by rwa [Numbered, scripts, versions]
  latest := fun _ id => by
    simp [lastAdded, Workspace.latestVersion, Workspace.versionsOf, versions]

theorem Appended.trans {db db' db'' : Database} {added added' : List WorkspaceScriptVersionRecord}
    (h : Appended db added db') (h' : Appended db' added' db'') :
    Appended db (added ++ added') db'' where
  versions := by rw [h'.versions, h.versions, List.append_assoc]
  language := fun id => (h'.language id).trans (h.language id)
  numbered := fun hnumbered => h'.numbered (h.numbered hnumbered)
  latest := fun hnumbered id => by
    rw [h'.latest (h.numbered hnumbered), h.latest hnumbered, ← Option.or_assoc]
    simp [lastAdded, List.getLast?_append]

/-- The event log says nothing about commands. -/
def Silent (events : List Event) : Prop := ∀ command, .subprocessStarted command ∉ events

/-- Versions may be appended, and no command is started. -/
def Appending (db db' : Database) (events : List Event) : Prop :=
  (∃ added, Appended db added db') ∧ Silent events

theorem Appending.refl (db : Database) : Appending db db [] :=
  ⟨⟨[], .of_eq rfl rfl⟩, by simp [Silent]⟩

theorem Appending.trans {db db' db'' : Database} {events events' : List Event}
    (h : Appending db db' events) (h' : Appending db' db'' events') :
    Appending db db'' (events ++ events') := by
  obtain ⟨⟨added, h⟩, hsilent⟩ := h
  obtain ⟨⟨added', h'⟩, hsilent'⟩ := h'
  refine ⟨⟨_, h.trans h'⟩, fun command hmem => ?_⟩
  exact (List.mem_append.mp hmem).elim (hsilent command) (hsilent' command)

/-! ## What happens until the execution -/

section Digest

variable [Digest]

/-- The transaction of an append adds one version, with a number above all others of its
script. -/
theorem appendVersion_appended {version : NewWorkspaceScriptVersion} {now : DateTime}
    {db : Database} {effect : Effect Unit}
    (h : Workspace.appendVersion version now db = .ok effect) :
    ∃ row, Appended db [row] effect.db := by
  obtain ⟨script, hfind, hversions, hscripts, -⟩ := Workspace.appendVersion_eq_ok h
  have hkey := Table.key_of_find hfind
  -- every version of the script has a number below the new one
  have hbelow : Numbered db → ∀ row ∈ db.workspaceScriptVersions,
      row.workspaceScriptId = version.workspaceScriptId →
        row.version < script.latestVersion + 1 := by
    intro hnumbered row hrow hsame
    have hle := hnumbered row hrow script (Table.mem_of_find hfind) (by rw [hsame, hkey])
    exact Nat.lt_succ_of_le hle
  refine ⟨Workspace.versionRow now version (script.latestVersion + 1), hversions, fun id => ?_,
    fun hnumbered => ?_, fun hnumbered id => ?_⟩
  · have hkept : ∀ row : WorkspaceScriptRecord,
        (Workspace.movedOn now (script.latestVersion + 1) row).workspaceScriptId =
          row.workspaceScriptId := fun _ => rfl
    rw [hscripts, Table.find_update hkept, Option.map_map]
    congr 1
    funext row
    simp only [Function.comp_apply]
    split <;> rfl
  · intro row hrow owner howner hsame
    rw [hversions] at hrow
    rw [hscripts] at howner
    rcases Table.mem_update.mp howner with ⟨howner, hother⟩ | ⟨old, -, hwhich, rfl⟩
    · rcases List.mem_append.mp hrow with hrow | hrow
      · exact hnumbered row hrow owner howner hsame
      · obtain rfl := List.mem_singleton.mp hrow
        exact absurd hsame.symm (of_decide_eq_false hother)
    · rcases List.mem_append.mp hrow with hrow | hrow
      · exact Nat.le_of_lt (hbelow hnumbered row hrow (hsame.trans (of_decide_eq_true hwhich)))
      · obtain rfl := List.mem_singleton.mp hrow
        exact Nat.le_refl _
  · by_cases hid : version.workspaceScriptId = id
    · have hbefore : ∀ other ∈ Workspace.versionsOf id db,
          decide (script.latestVersion + 1 > other.version) = true := by
        intro other hother
        simp only [Workspace.versionsOf, List.mem_filter, decide_eq_true_eq] at hother
        simpa using hbelow hnumbered other hother.1 (hother.2.trans hid.symm)
      have hfirst : Table.first (fun a b => decide (a.version > b.version))
          (Workspace.versionsOf id db ++
            [Workspace.versionRow now version (script.latestVersion + 1)]) = _ :=
        Table.first_append_self hbefore
      simpa [lastAdded, Workspace.latestVersion, Workspace.versionsOf, List.filter_append,
        hversions, Workspace.versionRow, hid] using hfirst
    · simp [lastAdded, Workspace.latestVersion, Workspace.versionsOf, List.filter_append,
        hversions, Workspace.versionRow, hid]

/-- A history of appends, each of which may fail on its own. -/
def appendAll (config : RuntimeConfig) (history : List NewWorkspaceScriptVersion) :
    Harness Unit :=
  Prog.foldlM (fun _ version => do
    let _ ← (Workspace.appendWorkspaceScriptVersion config version).attempt
    pure ()) () history

/-- What happens between the request and the execution of an action: versions are appended
before and after the approval request is resolved, and the execution starts only when the
request was approved. -/
def untilApproved (config : RuntimeConfig) (before : List NewWorkspaceScriptVersion)
    (attempt : ApprovalResolutionAttempt) (after : List NewWorkspaceScriptVersion) :
    Harness Unit := do
  appendAll config before
  let resolution ← Approval.resolveApprovalRequest attempt
  appendAll config after
  if resolution.event.decision = .approved then pure ()
  else bail "approval request was not approved"

theorem appendAll_confined (config : RuntimeConfig) (history : List NewWorkspaceScriptVersion) :
    (appendAll config history).Confined (OnDb Appending) := by
  refine Prog.Confined.foldlM (fun _ version => ?_) () history
  refine Prog.Confined.bind (Prog.Confined.attempt ?_) fun _ => Prog.confined_ret _
  refine Prog.Confined.bind (Prog.confined_ofExcept _) fun _ => ?_
  refine Prog.Confined.bind (confined_transaction Appending.refl ?_) fun _ =>
    confined_fetchOne Appending.refl
  intro now db effect hbody
  obtain ⟨row, happended⟩ := appendVersion_appended hbody
  obtain ⟨-, -, -, -, hevents⟩ := Workspace.appendVersion_eq_ok hbody
  exact ⟨⟨[row], happended⟩, by simp [Silent, hevents]⟩

omit [Digest] in
theorem resolveApprovalRequest_appending (attempt : ApprovalResolutionAttempt) :
    (Approval.resolveApprovalRequest attempt).Confined (OnDb Appending) := by
  refine Prog.Confined.bind (Prog.confined_ofExcept _) fun _ => ?_
  refine Prog.Confined.bind (confined_newUuid Appending.refl) fun resolutionId => ?_
  refine Prog.Confined.bind (confined_newUuid Appending.refl) fun eventId => ?_
  refine Prog.Confined.bind (confined_transaction Appending.refl ?_) fun _ =>
    Prog.Confined.bind (confined_fetchOne Appending.refl) fun _ => Prog.confined_ret _
  intro now db effect hbody
  obtain ⟨record, transition, -, -, -, hdb, hevents, -⟩ := Approval.resolveRequest_eq_ok hbody
  refine ⟨⟨[], ?_⟩, by simp [Silent, hevents]⟩
  rw [hdb]
  unfold Approval.applyResolutionTransition
  split <;> exact .of_eq rfl rfl

theorem untilApproved_confined (config : RuntimeConfig)
    (before : List NewWorkspaceScriptVersion) (attempt : ApprovalResolutionAttempt)
    (after : List NewWorkspaceScriptVersion) :
    (untilApproved config before attempt after).Confined (OnDb Appending) := by
  refine Prog.Confined.bind (appendAll_confined config before) fun _ => ?_
  refine Prog.Confined.bind (resolveApprovalRequest_appending attempt) fun resolution => ?_
  refine Prog.Confined.bind (appendAll_confined config after) fun _ => ?_
  split
  · exact Prog.confined_ret _
  · exact Prog.confined_fail _

end Digest

/-! ## The command of an execution -/

/-- The version a script action runs in the given database. -/
def resolvedVersion (action : WorkspaceScriptAction) (db : Database) :
    Option WorkspaceScriptVersionRecord :=
  match action.scriptVersionId with
  | some versionId =>
    Table.find WorkspaceScriptVersionRecord.workspaceScriptVersionId versionId
      db.workspaceScriptVersions
  | none => Workspace.latestVersion action.scriptId db

section Run

variable {o : Oracle system} {n : Nat} {w : World}

theorem resolveScriptVersion_eq_ok {action : WorkspaceScriptAction}
    {version : WorkspaceScriptVersionRecord}
    (h : ((resolveScriptVersion action).run o n w).result = .ok version) :
    resolvedVersion action w.db = some version ∧
      ((resolveScriptVersion action).run o n w).state = w := by
  unfold resolveScriptVersion at h ⊢
  unfold resolvedVersion
  cases hpin : action.scriptVersionId with
  | some versionId =>
    simp only [hpin] at h ⊢
    exact run_fetchOne_eq_ok h
  | none =>
    simp only [hpin] at h ⊢
    obtain ⟨latest, hlatest, hexpect, hstate⟩ := Prog.run_bind_eq_ok _ _ _ h
    obtain ⟨hread, hsame⟩ := run_fetch_eq_ok hlatest
    rw [hstate]
    obtain ⟨rfl, hkept⟩ := run_expect_eq_ok hexpect
    exact ⟨hread, hkept.trans hsame⟩

/-- A program that starts at most the commands in `commands`. -/
abbrev StartsOnly (commands : SubprocessAction → Prop) : World → World → List Event → Prop :=
  OnDb fun _ _ events => ∀ command, .subprocessStarted command ∈ events → commands command

theorem started_of_confined {α : Type} {commands : SubprocessAction → Prop} {p : Harness α}
    (hp : p.Confined (StartsOnly commands)) {command : SubprocessAction}
    (h : .subprocessStarted command ∈ (p.run o n w).events) : commands command := by
  refine (hp.run o n w (OnDb.refl fun _ => ?_) (OnDb.trans ?_)).1 command h
  · intro command hmem
    cases hmem
  · intro _ _ _ events events' hleft hright command hmem
    exact (List.mem_append.mp hmem).elim (hleft command) (hright command)

/-- A command that a sequence starts is started by its second part, when the first starts
none. -/
theorem started_after {α β : Type} {p : Harness α} {f : α → Harness β}
    {command : SubprocessAction} (hp : p.Confined (StartsOnly fun _ => False))
    (h : .subprocessStarted command ∈ ((p.bind f).run o n w).events) :
    ∃ a, (p.run o n w).result = .ok a ∧ .subprocessStarted command ∈
      ((f a).run o (p.run o n w).asked (p.run o n w).state).events := by
  rcases Prog.mem_events_run_bind _ _ _ h with hmem | hrest
  · exact absurd hmem fun hmem => started_of_confined hp hmem
  · exact hrest

theorem allowsExecutor_startsOnly (commands : SubprocessAction → Prop)
    (record : GovernedActionExecutionRecord) :
    AllowsExecutor
      (fun _ _ events => ∀ command, .subprocessStarted command ∈ events → commands command)
      commands record where
  executions := by simp
  runs := by simp
  audit := by simp
  started := by
    intro db command hcommand other hmem
    obtain rfl : other = command := by simpa using hmem
    exact hcommand
  settled := by simp

/-- The command of an execution is built from the version it resolves in the database it
starts from. -/
theorem executeWorkspaceScript_started {config : RuntimeConfig}
    {record : GovernedActionExecutionRecord} {action : WorkspaceScriptAction}
    {command : SubprocessAction}
    (h : .subprocessStarted command ∈
      ((executeWorkspaceScriptGovernedAction config record action).run o n w).events) :
    ∃ script version,
      Table.find WorkspaceScriptRecord.workspaceScriptId action.scriptId w.db.workspaceScripts =
        some script ∧
      resolvedVersion action w.db = some version ∧
      buildWorkspaceScriptSubprocessAction config script version action = .ok command := by
  unfold executeWorkspaceScriptGovernedAction Workspace.getWorkspaceScript at h
  have silent := allowsExecutor_startsOnly (fun _ => False) record
  obtain ⟨executionId, hid, h⟩ := started_after (confined_expect _) h
  rw [(run_expect_eq_ok hid).2] at h
  obtain ⟨script, hscript, h⟩ := started_after (confined_fetchOne silent.refl) h
  obtain ⟨hfind, hstate⟩ := run_fetchOne_eq_ok hscript
  rw [hstate] at h
  obtain ⟨version, hversion, h⟩ := started_after (silent.resolveScriptVersion action) h
  obtain ⟨hresolved, hstate⟩ := resolveScriptVersion_eq_ok hversion
  rw [hstate] at h
  refine ⟨script, version, hfind, hresolved, ?_⟩
  split at h
  · cases h
  · cases hbuild : buildWorkspaceScriptSubprocessAction config script version action with
    | error e =>
      rw [hbuild] at h
      cases h
    | ok built =>
      rw [hbuild] at h
      -- the rest of the execution starts this command and no other
      have honly := allowsExecutor_startsOnly (fun other => other = built) record
      rw [started_of_confined (honly.runWorkspaceScript (run_expect_eq_ok hid).1 rfl) h]

end Run

/-! ## What the approval binds -/

/-- The commands built for one script language are equal exactly when the contents are. -/
theorem buildWorkspaceScriptSubprocessAction_eq_iff {config : RuntimeConfig}
    {script script' : WorkspaceScriptRecord} {version version' : WorkspaceScriptVersionRecord}
    {action : WorkspaceScriptAction} {command command' : SubprocessAction}
    (hlanguage : script'.language = script.language)
    (h : buildWorkspaceScriptSubprocessAction config script version action = .ok command)
    (h' : buildWorkspaceScriptSubprocessAction config script' version' action = .ok command') :
    command' = command ↔ version'.contentText = version.contentText := by
  unfold buildWorkspaceScriptSubprocessAction at h h'
  rw [hlanguage] at h'
  dsimp only at h h'
  split at h
  case h_6 => cases h
  all_goals
    rename_i hshell
    simp only [hshell] at h'
    obtain rfl := Except.ok.inj h
    obtain rfl := Except.ok.inj h'
    simp

section Digest

variable [Digest]

/-- What the appends until the execution leave behind. -/
theorem untilApproved_appending (config : RuntimeConfig)
    (before : List NewWorkspaceScriptVersion) (attempt : ApprovalResolutionAttempt)
    (after : List NewWorkspaceScriptVersion) (o : Oracle system) (n : Nat) (w : World) :
    ∃ added, Appended w.db added ((untilApproved config before attempt after).run o n w).state.db :=
  ((untilApproved_confined config before attempt after).run o n w
    (OnDb.refl Appending.refl) (OnDb.trans fun _ _ _ _ _ => Appending.trans)).1.1

/-- An execution after the approval runs the command that an execution at the time of the
request would have run exactly when the action names its version, or the last version
appended in between has the content that was the latest at the request. -/
theorem approved_command_eq_iff {config : RuntimeConfig}
    {record record' : GovernedActionExecutionRecord} {action : WorkspaceScriptAction}
    {before after : List NewWorkspaceScriptVersion} {attempt : ApprovalResolutionAttempt}
    {o o' : Oracle system} {n n' : Nat} {w : World} (hnumbered : Numbered w.db)
    {requested executed : SubprocessAction}
    (hrequested : .subprocessStarted requested ∈
      ((executeWorkspaceScriptGovernedAction config record action).run o n w).events)
    (hexecuted : .subprocessStarted executed ∈
      (((untilApproved config before attempt after).bind fun _ =>
        executeWorkspaceScriptGovernedAction config record' action).run o' n' w).events) :
    ∃ added,
      ((untilApproved config before attempt after).run o' n' w).state.db.workspaceScriptVersions =
        w.db.workspaceScriptVersions ++ added ∧
      (executed = requested ↔ action.scriptVersionId.isSome ∨
        ∀ last ∈ lastAdded action.scriptId added,
          ∀ latest ∈ Workspace.latestVersion action.scriptId w.db,
            last.contentText = latest.contentText) := by
  obtain ⟨added, happended⟩ := untilApproved_appending config before attempt after o' n' w
  refine ⟨added, happended.versions, ?_⟩
  have hsilent : (untilApproved config before attempt after).Confined
      (StartsOnly fun _ => False) :=
    (untilApproved_confined config before attempt after).mono fun _ _ _ h => ⟨h.1.2, h.2⟩
  obtain ⟨-, -, hexecuted⟩ := started_after hsilent hexecuted
  obtain ⟨script, version, hscript, hversion, hbuild⟩ := executeWorkspaceScript_started hrequested
  obtain ⟨script', version', hscript', hversion', hbuild'⟩ :=
    executeWorkspaceScript_started hexecuted
  have hlanguage : script'.language = script.language := by
    simpa [hscript, hscript'] using happended.language action.scriptId
  rw [buildWorkspaceScriptSubprocessAction_eq_iff hlanguage hbuild hbuild']
  unfold resolvedVersion at hversion hversion'
  cases hpin : action.scriptVersionId with
  | some versionId =>
    simp only [hpin, happended.versions] at hversion hversion'
    have hsame : version' = version := by
      rw [Table.find, List.find?_append, ← Table.find, hversion] at hversion'
      simpa using hversion'.symm
    simp [hsame]
  | none =>
    simp only [hpin, happended.latest hnumbered] at hversion hversion'
    cases hlast : lastAdded action.scriptId added with
    | none =>
      have hsame : version' = version := by
        simpa [hlast, hversion] using hversion'.symm
      simp [hsame]
    | some last =>
      obtain rfl : last = version' := by simpa [hlast] using hversion'
      simp [hversion]

end Digest

/-! ## A script that changes while its approval is pending -/

/-- The digest of the content that is appended. -/
@[reducible] def sampleDigest : Digest where
  sha256Hex _ := "fc92339e2c864d8fc1782834ede5e96beb34e096745cdb559c3a8bb67fbfae7c"

/-- The action runs the script and names no version. -/
def sampleScriptAction : WorkspaceScriptAction where
  scriptId := 20
  scriptVersionId := none
  args := []

def sampleScope : CapabilityScope where
  execution := { timeoutMs := 1000, maxStdoutBytes := 1024, maxStderrBytes := 1024 }

/-- The approved action, with an execution record attached. -/
def sampleScriptRecord : GovernedActionExecutionRecord where
  governedActionExecutionId := 3
  traceId := 1
  executionId := some 5
  approvalRequestId := some 7
  actionProposalId := 2
  actionFingerprint := ⟨"sha256:0"⟩
  actionKind := .runWorkspaceScript
  riskTier := .tier2
  status := .approved
  capabilityScope := sampleScope
  payload := .runWorkspaceScript sampleScriptAction

/-- A Python script with one version, and a pending approval request for running it. -/
def sampleScriptDatabase : Database where
  executionRecords :=
    [{ executionId := 5, traceId := 1, triggerKind := "governed_action", status := "started" }]
  approvalRequests :=
    [{ approvalRequestId := 7
       traceId := 1
       executionId := none
       actionProposalId := 2
       actionFingerprint := ⟨"sha256:0"⟩
       actionKind := .runWorkspaceScript
       riskTier := .tier2
       title := "Run the report"
       consequenceSummary := "Runs a workspace script"
       capabilityScope := sampleScope
       status := .pending
       requestedBy := "telegram:alice"
       token := "token-1"
       requestedAt := 10
       expiresAt := 100 }]
  governedActionExecutions := [sampleScriptRecord]
  workspaceScripts :=
    [{ workspaceScriptId := 20
       workspaceArtifactId := 21
       language := "python"
       entrypoint := none
       latestVersion := 1 }]
  workspaceScriptVersions :=
    [{ workspaceScriptVersionId := 30
       workspaceScriptId := 20
       version := 1
       contentText := "print(1)"
       contentSha256 := "d287bb7f9d15abdc5b6e98536263815744b6ef21c8f3c839fc434ca70d8efe99"
       changeSummary := none }]

/-- The version that is appended before the approval. -/
def sampleAppend : NewWorkspaceScriptVersion where
  workspaceScriptVersionId := 31
  workspaceScriptId := 20
  contentText := "print(2)"
  changeSummary := none

/-- The approval, in time. -/
def sampleApproval : ApprovalResolutionAttempt where
  token := "token-1"
  actorRef := "telegram:alice"
  expectedActionFingerprint := ⟨"sha256:0"⟩
  decision := .approved
  reason := none
  resolvedAt := 50

/-- The Python command with the given content. -/
def samplePython (contentText : String) : SubprocessAction where
  command := "python"
  args := ["-c", contentText]
  workingDirectory := some "."

theorem sample_requested : .subprocessStarted (samplePython "print(1)") ∈
    ((executeWorkspaceScriptGovernedAction .shipped sampleScriptRecord sampleScriptAction).run
      (steady 50) 100 { db := sampleScriptDatabase }).events := by
  decide

theorem sample_executed : letI := sampleDigest
    .subprocessStarted (samplePython "print(2)") ∈
      (((untilApproved .shipped [sampleAppend] sampleApproval []).bind fun _ =>
        executeWorkspaceScriptGovernedAction .shipped sampleScriptRecord sampleScriptAction).run
          (steady 50) 100 { db := sampleScriptDatabase }).events := by
  decide

theorem approved_command_eq_iff_sample : letI := sampleDigest
    ∃ added,
      ((untilApproved .shipped [sampleAppend] sampleApproval []).run (steady 50) 100
          { db := sampleScriptDatabase }).state.db.workspaceScriptVersions =
        sampleScriptDatabase.workspaceScriptVersions ++ added ∧
      (samplePython "print(2)" = samplePython "print(1)" ↔
        sampleScriptAction.scriptVersionId.isSome ∨ ∀ last ∈ lastAdded 20 added,
          ∀ latest ∈ Workspace.latestVersion 20 sampleScriptDatabase,
            last.contentText = latest.contentText) :=
  letI := sampleDigest
  approved_command_eq_iff (by decide) sample_requested sample_executed

/-- The approved execution runs what was appended after the request. -/
theorem approval_does_not_bind_latest : letI := sampleDigest
    ∃ requested executed,
      .subprocessStarted requested ∈ ((executeWorkspaceScriptGovernedAction .shipped
        sampleScriptRecord sampleScriptAction).run (steady 50) 100
          { db := sampleScriptDatabase }).events ∧
      .subprocessStarted executed ∈
        (((untilApproved .shipped [sampleAppend] sampleApproval []).bind fun _ =>
          executeWorkspaceScriptGovernedAction .shipped sampleScriptRecord
            sampleScriptAction).run (steady 50) 100 { db := sampleScriptDatabase }).events ∧
      executed ≠ requested :=
  ⟨_, _, sample_requested, sample_executed, by decide⟩

end GovernedActions

end BlueLagoon
