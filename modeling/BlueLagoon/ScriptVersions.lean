import BlueLagoon.GovernedActions.ScriptBinding
import BlueLagoon.WorkspaceWrites

/-!
# The versions of a script

However the actions on the workspace interleave, the versions of a script are numbered without a
gap, and what was written stays. Whether an append finds the version it expects is another
matter: the check is not in the transaction, and holds only where no other action comes in
between.
-/

namespace BlueLagoon.WorkspaceWrites

open Interleaving

/-! ## The statements -/

section Statements

variable {tables tables' : WorkspaceTables} {now : DateTime} {message : String}

theorem insertArtifact_eq_ok {artifact : NewWorkspaceArtifact}
    (h : insertArtifact message artifact now tables = .ok tables') :
    tables' = { tables with artifacts := tables.artifacts ++ [artifactRow now artifact] } := by
  unfold insertArtifact at h
  split at h
  · cases h
  · exact (Except.ok.inj h).symm

theorem insertScript_eq_ok {row : WorkspaceScriptRecord}
    (h : insertScript row tables = .ok tables') :
    (∀ other ∈ tables.scripts, other.workspaceScriptId ≠ row.workspaceScriptId) ∧
      tables' = { tables with scripts := tables.scripts ++ [row] } := by
  unfold insertScript at h
  split at h
  · cases h
  · rename_i hfresh
    split at h
    · cases h
    · refine ⟨fun other hmem heq => hfresh ?_, (Except.ok.inj h).symm⟩
      exact List.any_eq_true.mpr ⟨other, hmem, decide_eq_true heq⟩

theorem insertVersion_eq_ok {row : WorkspaceScriptVersionRecord}
    (h : insertVersion message row tables = .ok tables') :
    (∀ other ∈ tables.versions,
        other.workspaceScriptVersionId ≠ row.workspaceScriptVersionId) ∧
      tables' = { tables with versions := tables.versions ++ [row] } := by
  unfold insertVersion at h
  split at h
  · cases h
  · split at h
    · cases h
    · rename_i hfresh
      split at h
      · cases h
      · refine ⟨fun other hmem heq => hfresh ?_, (Except.ok.inj h).symm⟩
        exact List.any_eq_true.mpr ⟨other, hmem, decide_eq_true heq⟩

/-- An artifact that is changed keeps its kind. -/
theorem kept_update (which : WorkspaceArtifactRecord → Bool)
    (change : WorkspaceArtifactRecord → WorkspaceArtifactRecord)
    (hid : ∀ row, (change row).workspaceArtifactId = row.workspaceArtifactId)
    (hkind : ∀ row, (change row).artifactKind = row.artifactKind)
    (artifacts : List WorkspaceArtifactRecord) :
    ∀ artifact ∈ artifacts, ∃ artifact' ∈ Table.update which change artifacts,
      artifact'.workspaceArtifactId = artifact.workspaceArtifactId ∧
        artifact'.artifactKind = artifact.artifactKind := by
  intro artifact hmem
  cases hwhich : which artifact with
  | true =>
    exact ⟨change artifact, Table.mem_update.mpr (Or.inr ⟨artifact, hmem, hwhich, rfl⟩),
      hid artifact, hkind artifact⟩
  | false => exact ⟨artifact, Table.mem_update.mpr (Or.inl ⟨hmem, hwhich⟩), rfl, rfl⟩

theorem versionsOf_append (id : Uuid) (row : WorkspaceScriptVersionRecord)
    (tables : WorkspaceTables) :
    versionsOf id { tables with versions := tables.versions ++ [row] } =
      versionsOf id tables ++ if row.workspaceScriptId = id then [row] else [] := by
  unfold versionsOf
  rw [List.filter_append]
  congr 1
  split
  · rename_i heq
    exact List.filter_cons_of_pos (decide_eq_true heq)
  · rename_i hne
    exact List.filter_cons_of_neg (by simpa using hne)

/-- The row of a script after an append: its own, or the one that was moved on. -/
theorem mem_moved {id : Uuid} {next : Nat} {scripts : List WorkspaceScriptRecord}
    {script row : WorkspaceScriptRecord}
    (hkeys : (scripts.map WorkspaceScriptRecord.workspaceScriptId).Nodup)
    (hfound : Table.find WorkspaceScriptRecord.workspaceScriptId id scripts = some script)
    (hrow : row ∈ Table.update (fun row => row.workspaceScriptId = id)
      (Workspace.movedOn now next) scripts) :
    row ∈ scripts ∧ row.workspaceScriptId ≠ id ∨ row = Workspace.movedOn now next script := by
  rcases Table.mem_update.mp hrow with ⟨hmem, hother⟩ | ⟨old, hmem, hof, rfl⟩
  · exact Or.inl ⟨hmem, of_decide_eq_false hother⟩
  · right
    have hsame : old = script := Table.eq_of_mem_of_key hkeys hmem (Table.mem_of_find hfound)
      ((of_decide_eq_true hof).trans (Table.key_of_find hfound).symm)
    rw [hsame]

end Statements

variable [Digest]

section Transactions

variable {tables : WorkspaceTables} {now : DateTime}

/-- What a creation does. -/
theorem insertNewScript_eq_ok {script : NewWorkspaceScript} {effect : Unit × WorkspaceTables}
    (h : insertNewScript script now tables = .ok effect) :
    (∀ other ∈ tables.scripts, other.workspaceScriptId ≠ script.workspaceScriptId) ∧
    (∀ other ∈ tables.versions,
      other.workspaceScriptVersionId ≠ script.workspaceScriptVersionId) ∧
    effect.2 = {
      artifacts := tables.artifacts ++ [artifactRow now (scriptArtifact script)]
      scripts := tables.scripts ++ [scriptRow now script]
      versions := tables.versions ++ [Workspace.versionRow now (initialVersion script) 1] } := by
  obtain ⟨tables₁, h₁, h⟩ := except_bind_eq_ok.mp h
  obtain ⟨tables₂, h₂, h⟩ := except_bind_eq_ok.mp h
  obtain ⟨tables₃, h₃, h⟩ := except_bind_eq_ok.mp h
  obtain rfl := insertArtifact_eq_ok h₁
  obtain ⟨hscript, rfl⟩ := insertScript_eq_ok h₂
  obtain ⟨hversion, rfl⟩ := insertVersion_eq_ok h₃
  obtain rfl := Except.ok.inj h
  exact ⟨hscript, hversion, rfl⟩

/-- What an append does. -/
theorem appendVersion_eq_ok {version : NewWorkspaceScriptVersion}
    {effect : Unit × WorkspaceTables} (h : appendVersion version now tables = .ok effect) :
    ∃ script, Table.find WorkspaceScriptRecord.workspaceScriptId version.workspaceScriptId
        tables.scripts = some script ∧
      (∀ other ∈ tables.versions,
        other.workspaceScriptVersionId ≠ version.workspaceScriptVersionId) ∧
      effect.2 = {
        artifacts := Table.update
          (fun row => row.workspaceArtifactId = script.workspaceArtifactId)
          (fun row => { row with updatedAt := now }) tables.artifacts
        scripts := Table.update (fun row => row.workspaceScriptId = version.workspaceScriptId)
          (Workspace.movedOn now (script.latestVersion + 1)) tables.scripts
        versions := tables.versions ++
          [Workspace.versionRow now version (script.latestVersion + 1)] } := by
  unfold appendVersion at h
  split at h
  · cases h
  · rename_i script hfound
    obtain ⟨tables₁, h₁, h⟩ := except_bind_eq_ok.mp h
    obtain ⟨hversion, rfl⟩ := insertVersion_eq_ok h₁
    obtain rfl := Except.ok.inj h
    exact ⟨script, hfound, hversion, rfl⟩

end Transactions

/-! ## The invariant -/

/-- Every script has its versions from the first to the latest, in this order, and an artifact. -/
structure Versioned (tables : WorkspaceTables) : Prop where
  scriptKeys : (tables.scripts.map WorkspaceScriptRecord.workspaceScriptId).Nodup
  versionKeys :
    (tables.versions.map WorkspaceScriptVersionRecord.workspaceScriptVersionId).Nodup
  numbered : ∀ script ∈ tables.scripts,
    (versionsOf script.workspaceScriptId tables).map WorkspaceScriptVersionRecord.version =
      List.range' 1 script.latestVersion
  owned : ∀ version ∈ tables.versions, ∃ script ∈ tables.scripts,
    script.workspaceScriptId = version.workspaceScriptId
  digests : ∀ version ∈ tables.versions,
    version.contentSha256 = Digest.sha256Hex version.contentText
  held : ∀ script ∈ tables.scripts, ∃ artifact ∈ tables.artifacts,
    artifact.workspaceArtifactId = script.workspaceArtifactId ∧ artifact.artifactKind = .script

/-- What a statement does: the invariant is kept, and the versions that are there stay. -/
structure Later (tables tables' : WorkspaceTables) : Prop where
  versioned : Versioned tables → Versioned tables'
  kept : tables.versions <+: tables'.versions

theorem Later.refl (tables : WorkspaceTables) : Later tables tables :=
  ⟨id, List.prefix_refl _⟩

theorem Later.trans {tables tables' tables'' : WorkspaceTables} (h : Later tables tables')
    (h' : Later tables' tables'') : Later tables tables'' :=
  ⟨fun hversioned => h'.versioned (h.versioned hversioned), h.kept.trans h'.kept⟩

/-- A statement on the artifacts alone, where none of them goes or changes its kind. -/
theorem Later.of_artifacts {tables : WorkspaceTables} {artifacts : List WorkspaceArtifactRecord}
    (h : ∀ artifact ∈ tables.artifacts, ∃ artifact' ∈ artifacts,
      artifact'.workspaceArtifactId = artifact.workspaceArtifactId ∧
        artifact'.artifactKind = artifact.artifactKind) :
    Later tables { tables with artifacts := artifacts } where
  versioned := by
    intro hversioned
    refine ⟨hversioned.scriptKeys, hversioned.versionKeys, hversioned.numbered, hversioned.owned,
      hversioned.digests, fun script hscript => ?_⟩
    obtain ⟨artifact, hmem, hid, hkind⟩ := hversioned.held script hscript
    obtain ⟨artifact', hmem', hid', hkind'⟩ := h artifact hmem
    exact ⟨artifact', hmem', hid'.trans hid, hkind'.trans hkind⟩
  kept := List.prefix_refl _

/-! ### The transactions that keep it -/

section Kept

variable {tables : WorkspaceTables} {now : DateTime}

/-- A new script comes with its first version; the versions of other scripts stay. -/
theorem insertNewScript_later {script : NewWorkspaceScript} {effect : Unit × WorkspaceTables}
    (h : insertNewScript script now tables = .ok effect) : Later tables effect.2 := by
  obtain ⟨hscript, hversion, heffect⟩ := insertNewScript_eq_ok h
  rw [heffect]
  refine ⟨fun hversioned => ?_, List.prefix_append _ _⟩
  have hnone : versionsOf script.workspaceScriptId tables = [] := by
    refine List.filter_eq_nil_iff.mpr fun row hrow hof => ?_
    obtain ⟨owner, howner, hid⟩ := hversioned.owned row hrow
    exact hscript owner howner (hid.trans (of_decide_eq_true hof))
  refine ⟨Table.nodup_append_fresh hversioned.scriptKeys hscript,
    Table.nodup_append_fresh hversioned.versionKeys hversion, ?_, ?_, ?_, ?_⟩
  · intro row hrow
    show (versionsOf row.workspaceScriptId { tables with versions := _ }).map _ = _
    rw [versionsOf_append]
    rcases List.mem_append.mp hrow with hmem | hmem
    · have hother : (Workspace.versionRow now (initialVersion script) 1).workspaceScriptId ≠
          row.workspaceScriptId := fun heq => hscript row hmem heq.symm
      rw [if_neg hother]
      rw [List.append_nil]
      exact hversioned.numbered row hmem
    · obtain rfl := List.mem_singleton.mp hmem
      have hself : (Workspace.versionRow now (initialVersion script) 1).workspaceScriptId =
          (scriptRow now script).workspaceScriptId := rfl
      rw [if_pos hself]
      show (versionsOf script.workspaceScriptId tables ++ _).map _ = _
      rw [hnone]
      rfl
  · intro row hrow
    rcases List.mem_append.mp hrow with hmem | hmem
    · obtain ⟨owner, howner, hid⟩ := hversioned.owned row hmem
      exact ⟨owner, List.mem_append_left _ howner, hid⟩
    · obtain rfl := List.mem_singleton.mp hmem
      exact ⟨scriptRow now script, List.mem_append_right _ (List.mem_singleton.mpr rfl), rfl⟩
  · intro row hrow
    rcases List.mem_append.mp hrow with hmem | hmem
    · exact hversioned.digests row hmem
    · obtain rfl := List.mem_singleton.mp hmem
      rfl
  · intro row hrow
    rcases List.mem_append.mp hrow with hmem | hmem
    · obtain ⟨artifact, hartifact, hid, hkind⟩ := hversioned.held row hmem
      exact ⟨artifact, List.mem_append_left _ hartifact, hid, hkind⟩
    · obtain rfl := List.mem_singleton.mp hmem
      exact ⟨artifactRow now (scriptArtifact script),
        List.mem_append_right _ (List.mem_singleton.mpr rfl), rfl, rfl⟩

/-- Appending a version keeps the numbering: it gets the number after the latest one of its script,
and the versions that are there stay. -/
theorem appendVersion_later {version : NewWorkspaceScriptVersion}
    {effect : Unit × WorkspaceTables} (h : appendVersion version now tables = .ok effect) :
    Later tables effect.2 := by
  obtain ⟨script, hfound, hversion, heffect⟩ := appendVersion_eq_ok h
  have hid := Table.key_of_find hfound
  have hscript := Table.mem_of_find hfound
  rw [heffect]
  refine ⟨fun hversioned => ?_, List.prefix_append _ _⟩
  have hmoved : ∀ row : WorkspaceScriptRecord,
      (Workspace.movedOn now (script.latestVersion + 1) row).workspaceScriptId =
        row.workspaceScriptId := fun _ => rfl
  refine ⟨?_, Table.nodup_append_fresh hversioned.versionKeys hversion, ?_, ?_, ?_, ?_⟩
  · rw [Table.map_key_update hmoved]
    exact hversioned.scriptKeys
  · intro row hrow
    show (versionsOf row.workspaceScriptId { tables with versions := _ }).map _ = _
    rw [versionsOf_append]
    rcases mem_moved hversioned.scriptKeys hfound hrow with ⟨hmem, hother⟩ | rfl
    · have hne : (Workspace.versionRow now version (script.latestVersion + 1)).workspaceScriptId ≠
          row.workspaceScriptId := fun heq => hother heq.symm
      rw [if_neg hne]
      rw [List.append_nil]
      exact hversioned.numbered row hmem
    · rw [hmoved]
      have hself : (Workspace.versionRow now version (script.latestVersion + 1)).workspaceScriptId =
          script.workspaceScriptId := hid.symm
      rw [if_pos hself]
      rw [List.map_append]
      rw [hversioned.numbered script hscript]
      show _ ++ [script.latestVersion + 1] = List.range' 1 (script.latestVersion + 1)
      rw [List.range'_1_concat]
      rw [Nat.add_comm]
  · intro row hrow
    have howner : ∃ owner ∈ tables.scripts,
        owner.workspaceScriptId = row.workspaceScriptId := by
      rcases List.mem_append.mp hrow with hmem | hmem
      · exact hversioned.owned row hmem
      · rw [List.mem_singleton.mp hmem]
        exact ⟨script, hscript, hid⟩
    obtain ⟨owner, hmem, hof⟩ := howner
    by_cases happended : owner.workspaceScriptId = version.workspaceScriptId
    · exact ⟨Workspace.movedOn now (script.latestVersion + 1) owner,
        Table.mem_update.mpr (Or.inr ⟨owner, hmem, decide_eq_true happended, rfl⟩), hof⟩
    · exact ⟨owner, Table.mem_update.mpr (Or.inl ⟨hmem, decide_eq_false happended⟩), hof⟩
  · intro row hrow
    rcases List.mem_append.mp hrow with hmem | hmem
    · exact hversioned.digests row hmem
    · obtain rfl := List.mem_singleton.mp hmem
      rfl
  · intro row hrow
    have hheld : ∃ artifact ∈ tables.artifacts,
        artifact.workspaceArtifactId = row.workspaceArtifactId ∧
          artifact.artifactKind = .script := by
      rcases mem_moved hversioned.scriptKeys hfound hrow with ⟨hmem, -⟩ | rfl
      · exact hversioned.held row hmem
      · exact hversioned.held script hscript
    obtain ⟨artifact, hmem, hof, hkind⟩ := hheld
    obtain ⟨artifact', hmem', hof', hkind'⟩ := kept_update
      (fun row => row.workspaceArtifactId = script.workspaceArtifactId)
      (fun row => { row with updatedAt := now }) (fun _ => rfl) (fun _ => rfl)
      tables.artifacts artifact hmem
    exact ⟨artifact', hmem', hof'.trans hof, hkind'.trans hkind⟩

end Kept

/-! ## The actions -/

/-- Every statement of the program is one of these. -/
structure KeepsVersions {α : Type} (p : OnWorkspace α) : Prop where
  confined : p.Confined fun tables tables' _ => Later tables tables'

section Programs

variable {α β : Type} {message : String} {config : RuntimeConfig}

theorem keeps_ret (a : α) : KeepsVersions (pure a : OnWorkspace α) := ⟨Prog.confined_ret a⟩

theorem keeps_ofExcept (r : Except ErrorChain α) : KeepsVersions (Prog.ofExcept r) :=
  ⟨Prog.confined_ofExcept (S := workspace) r⟩

theorem keeps_bind {p : OnWorkspace α} {f : α → OnWorkspace β} (hp : KeepsVersions p)
    (hf : ∀ a, KeepsVersions (f a)) : KeepsVersions (p >>= f) :=
  ⟨Prog.Confined.bind hp.confined fun a => (hf a).confined⟩

/-- A check that may end the program. -/
theorem keeps_ite {c : Prop} [Decidable c] {e : ErrorChain} {p : OnWorkspace α}
    (h : KeepsVersions p) : KeepsVersions (if c then .fail e else p) := by
  split
  · exact ⟨Prog.confined_fail _⟩
  · exact h

theorem keeps_transaction
    {body : DateTime → WorkspaceTables → Except ErrorChain (α × WorkspaceTables)}
    (h : ∀ now tables effect, body now tables = .ok effect → Later tables effect.2) :
    KeepsVersions (transaction message body) := by
  refine ⟨fun at_ => ?_⟩
  cases at_ with
  | none => exact Prog.confined_fail _
  | some now =>
    refine Prog.Confined.tx (fun tables => Later.refl tables) fun tables commit hcommit => ?_
    obtain ⟨effect, heffect, rfl⟩ := except_map_eq_ok.mp hcommit
    exact h now tables effect heffect

theorem keeps_fetch {read : WorkspaceTables → α} : KeepsVersions (fetch message read) := by
  refine keeps_transaction fun now tables effect h => ?_
  obtain rfl := Except.ok.inj h
  exact Later.refl tables

theorem keeps_fetchOne {read : WorkspaceTables → Option α} :
    KeepsVersions (fetchOne message read) := by
  refine keeps_transaction fun now tables effect h => ?_
  split at h
  · obtain rfl := Except.ok.inj h
    exact Later.refl tables
  · cases h

theorem keeps_newUuid : KeepsVersions newUuid := ⟨fun _ => Prog.confined_ret _⟩

theorem createWorkspaceArtifact_keeps (artifact : NewWorkspaceArtifact) :
    KeepsVersions (createWorkspaceArtifact config artifact) := by
  unfold createWorkspaceArtifact
  refine keeps_ite ?_
  refine keeps_bind (keeps_ofExcept _) fun _ => ?_
  refine keeps_bind (keeps_ofExcept _) fun _ => ?_
  refine keeps_bind (keeps_transaction fun now tables effect h => ?_)
    fun _ => keeps_fetchOne
  obtain ⟨tables', hinsert, rfl⟩ := except_map_eq_ok.mp h
  obtain rfl := insertArtifact_eq_ok hinsert
  exact Later.of_artifacts fun other hmem => ⟨other, List.mem_append_left _ hmem, rfl, rfl⟩

theorem updateWorkspaceArtifact_keeps (update : UpdateWorkspaceArtifact) :
    KeepsVersions (updateWorkspaceArtifact config update) := by
  unfold updateWorkspaceArtifact
  refine keeps_bind (keeps_ofExcept _) fun _ => ?_
  refine keeps_bind (keeps_ofExcept _) fun _ => ?_
  refine keeps_bind (keeps_transaction fun now tables effect h => ?_) fun rowsAffected => ?_
  · obtain rfl := Except.ok.inj h
    exact Later.of_artifacts (kept_update _ (artifactUpdated now update)
      (fun _ => rfl) (fun _ => rfl) _)
  · exact keeps_ite keeps_fetchOne

theorem createWorkspaceScript_keeps (script : NewWorkspaceScript) :
    KeepsVersions (createWorkspaceScript config script) := by
  unfold createWorkspaceScript
  refine keeps_bind (keeps_ofExcept _) fun _ => ?_
  refine keeps_bind (keeps_ofExcept _) fun _ => ?_
  refine keeps_bind (keeps_transaction fun _ _ _ h => insertNewScript_later h) fun _ => ?_
  refine keeps_bind keeps_fetchOne fun _ => ?_
  refine keeps_bind keeps_fetchOne fun _ => ?_
  exact keeps_bind keeps_fetchOne fun _ => keeps_ret _

theorem appendWorkspaceScriptVersion_keeps (version : NewWorkspaceScriptVersion) :
    KeepsVersions (appendWorkspaceScriptVersion config version) := by
  unfold appendWorkspaceScriptVersion
  refine keeps_bind (keeps_ofExcept _) fun _ => ?_
  exact keeps_bind (keeps_transaction fun _ _ _ h => appendVersion_later h)
    fun _ => keeps_fetchOne

/-- A governed action on the workspace, with the record it is executed for. -/
inductive Action
  | createArtifact (record : GovernedActionExecutionRecord) (action : CreateWorkspaceArtifactAction)
  | updateArtifact (record : GovernedActionExecutionRecord) (action : UpdateWorkspaceArtifactAction)
  | createScript (record : GovernedActionExecutionRecord) (action : CreateWorkspaceScriptAction)
  | appendVersion (action : AppendWorkspaceScriptVersionAction)

/-- Its execution. -/
def Action.execute (config : RuntimeConfig) : Action → OnWorkspace NativeReport
  | .createArtifact record action => executeCreateWorkspaceArtifact config record action
  | .updateArtifact record action => executeUpdateWorkspaceArtifact config record action
  | .createScript record action => executeCreateWorkspaceScript config record action
  | .appendVersion action => executeAppendWorkspaceScriptVersion config action

theorem executeCreateWorkspaceArtifact_keeps (record : GovernedActionExecutionRecord)
    (action : CreateWorkspaceArtifactAction) :
    KeepsVersions (executeCreateWorkspaceArtifact config record action) := by
  unfold executeCreateWorkspaceArtifact
  refine keeps_bind keeps_newUuid fun _ => ?_
  exact keeps_bind (createWorkspaceArtifact_keeps _) fun _ => keeps_ret _

theorem executeUpdateWorkspaceArtifact_keeps (record : GovernedActionExecutionRecord)
    (action : UpdateWorkspaceArtifactAction) :
    KeepsVersions (executeUpdateWorkspaceArtifact config record action) := by
  unfold executeUpdateWorkspaceArtifact
  refine keeps_bind keeps_fetchOne fun current => ?_
  refine keeps_ite (keeps_ite (keeps_ite ?_))
  exact keeps_bind (updateWorkspaceArtifact_keeps _) fun _ => keeps_ret _

theorem executeCreateWorkspaceScript_keeps (record : GovernedActionExecutionRecord)
    (action : CreateWorkspaceScriptAction) :
    KeepsVersions (executeCreateWorkspaceScript config record action) := by
  unfold executeCreateWorkspaceScript
  refine keeps_bind keeps_newUuid fun _ => ?_
  refine keeps_bind keeps_newUuid fun _ => ?_
  refine keeps_bind keeps_newUuid fun _ => ?_
  exact keeps_bind (createWorkspaceScript_keeps _) fun _ => keeps_ret _

theorem executeAppendWorkspaceScriptVersion_keeps (action : AppendWorkspaceScriptVersionAction) :
    KeepsVersions (executeAppendWorkspaceScriptVersion config action) := by
  unfold executeAppendWorkspaceScriptVersion
  refine keeps_bind keeps_fetchOne fun script => ?_
  refine keeps_ite (keeps_bind keeps_fetchOne fun artifact => ?_)
  refine keeps_ite (keeps_bind keeps_fetch fun found => ?_)
  cases found with
  | none => exact ⟨Prog.confined_fail _⟩
  | some latest =>
    refine keeps_bind (keeps_ret latest) fun _ => ?_
    refine keeps_bind (keeps_ofExcept _) fun _ => ?_
    refine keeps_bind keeps_newUuid fun _ => ?_
    exact keeps_bind (appendWorkspaceScriptVersion_keeps _) fun _ => keeps_ret _

theorem Action.execute_keeps (action : Action) : KeepsVersions (action.execute config) := by
  cases action with
  | createArtifact record action => exact executeCreateWorkspaceArtifact_keeps record action
  | updateArtifact record action => exact executeUpdateWorkspaceArtifact_keeps record action
  | createScript record action => exact executeCreateWorkspaceScript_keeps record action
  | appendVersion action => exact executeAppendWorkspaceScriptVersion_keeps action

end Programs

/-- The actions, before the first of them has started. -/
def pool {ι : Type} (config : RuntimeConfig) (actions : ι → Action) (tables : WorkspaceTables) :
    Config workspace fun _ : ι => NativeReport where
  threads := fun i => (actions i).execute config
  shared := { state := tables, log := [] }

/-! ## Expectations -/

/-- There is a later version of the same script. -/
def Superseded (versionId : Uuid) (tables : WorkspaceTables) : Prop :=
  ∃ row ∈ tables.versions, row.workspaceScriptVersionId = versionId ∧
    ∃ later ∈ tables.versions, later.workspaceScriptId = row.workspaceScriptId ∧
      row.version < later.version

omit [Digest] in
/-- What is superseded stays so. -/
theorem Superseded.mono {versionId : Uuid} {tables tables' : WorkspaceTables}
    (hkept : tables.versions <+: tables'.versions) (h : Superseded versionId tables) :
    Superseded versionId tables' := by
  obtain ⟨row, hrow, hid, later, hlater, hof, hlt⟩ := h
  exact ⟨row, hkept.subset hrow, hid, later, hkept.subset hlater, hof, hlt⟩

/-- Run alone from the tables, the program ends in `Q`. -/
structure Ends {α : Type} (p : OnWorkspace α)
    (Q : Except ErrorChain α → WorkspaceTables → Prop) (tables : WorkspaceTables) : Prop where
  alone : ∀ es, p.Alone (fun _ _ => True) (fun r tables _ => Q r tables) tables es

section Ends

variable {α β : Type} {tables : WorkspaceTables} {message : String} {config : RuntimeConfig}
  {Q : Except ErrorChain α → WorkspaceTables → Prop}

omit [Digest] in
theorem ends_ret {a : α} (h : Q (.ok a) tables) : Ends (pure a) Q tables := ⟨fun _ => h⟩

omit [Digest] in
theorem ends_fail {e : ErrorChain} (h : Q (.error e) tables) : Ends (.fail e) Q tables :=
  ⟨fun _ => h⟩

omit [Digest] in
theorem ends_bind {p : OnWorkspace β} {f : β → OnWorkspace α}
    {R : Except ErrorChain β → WorkspaceTables → Prop} (hp : Ends p R tables)
    (hok : ∀ b tables, R (.ok b) tables → Ends (f b) Q tables)
    (herr : ∀ e tables, R (.error e) tables → Q (.error e) tables) : Ends (p >>= f) Q tables :=
  ⟨fun es => (hp.alone es).bind (fun b tables es h => (hok b tables h).alone es)
    fun e tables _ h => herr e tables h⟩

omit [Digest] in
theorem Ends.mono {p : OnWorkspace α} {R : Except ErrorChain α → WorkspaceTables → Prop}
    (hp : Ends p R tables) (h : ∀ r tables, R r tables → Q r tables) : Ends p Q tables :=
  ⟨fun es => (hp.alone es).mono fun r tables _ => h r tables⟩

omit [Digest] in
theorem Ends.and {p : OnWorkspace α} {R : Except ErrorChain α → WorkspaceTables → Prop}
    (hp : Ends p R tables) (hp' : Ends p Q tables) :
    Ends p (fun r tables => R r tables ∧ Q r tables) tables :=
  ⟨fun es => (hp.alone es).and (hp'.alone es)⟩

omit [Digest] in
theorem Ends.attempt {p : OnWorkspace α} (hp : Ends p Q tables) :
    Ends p.attempt (fun r tables => ∃ result, r = .ok result ∧ Q result tables) tables :=
  ⟨fun es => Prog.alone_attempt.mpr ((hp.alone es).mono fun r _ _ h => ⟨r, rfl, h⟩)⟩

omit [Digest] in
/-- A check that may end the program. -/
theorem ends_ite {c : Prop} [Decidable c] {e : ErrorChain} {p : OnWorkspace α}
    (hfail : Q (.error e) tables) (h : Ends p Q tables) :
    Ends (if c then .fail e else p) Q tables := by
  split
  · exact ends_fail hfail
  · exact h

omit [Digest] in
theorem ends_ofExcept {r : Except ErrorChain α} (h : Q r tables) :
    Ends (.ofExcept r) Q tables :=
  ⟨fun _ => Prog.alone_ofExcept.mpr h⟩

omit [Digest] in
theorem ends_newUuid {Q : Except ErrorChain Uuid → WorkspaceTables → Prop}
    (h : ∀ id, Q (.ok id) tables) : Ends newUuid Q tables := ⟨fun _ id _ => h id⟩

omit [Digest] in
theorem ends_transaction
    {body : DateTime → WorkspaceTables → Except ErrorChain (α × WorkspaceTables)}
    (ok : ∀ now effect, body now tables = .ok effect → Q (.ok effect.1) effect.2)
    (failed : ∀ e, Q (.error e) tables) : Ends (transaction message body) Q tables := by
  refine ⟨fun es at_ _ => ?_⟩
  cases at_ with
  | none => exact failed _
  | some now =>
    cases hbody : body now tables with
    | error e =>
      have hcommit : committed (body now) tables = .error e := by
        rw [committed, hbody]
        rfl
      exact (Prog.alone_tx_error hcommit).mpr (failed e)
    | ok effect =>
      have hcommit : committed (body now) tables =
          .ok { value := effect.1, state := effect.2 } := by
        rw [committed, hbody]
        rfl
      exact (Prog.alone_tx_ok hcommit).mpr (ok now effect hbody)

omit [Digest] in
/-- A query reads, and leaves the tables as they are. -/
theorem ends_fetchOne {read : WorkspaceTables → Option α} :
    Ends (fetchOne message read) (fun r tables' => tables = tables' ∧
      ∀ a, r = .ok a → read tables = some a) tables := by
  refine ends_transaction (fun now effect hbody => ?_) fun e => ⟨rfl, fun a ha => (nomatch ha)⟩
  split at hbody
  · rename_i a hread
    obtain rfl := Except.ok.inj hbody
    refine ⟨rfl, fun a' ha => ?_⟩
    obtain rfl := Except.ok.inj ha
    exact hread
  · cases hbody

omit [Digest] in
theorem ends_fetch {read : WorkspaceTables → α} :
    Ends (fetch message read) (fun r tables' => tables = tables' ∧
      ∀ a, r = .ok a → read tables = a) tables := by
  refine ends_transaction (fun now effect hbody => ?_) fun e => ⟨rfl, fun a ha => (nomatch ha)⟩
  obtain rfl := Except.ok.inj hbody
  exact ⟨rfl, fun a ha => Except.ok.inj ha⟩

/-- The latest version of a script is not superseded. -/
theorem latest_not_superseded {scriptId : Uuid} {latest : WorkspaceScriptVersionRecord}
    (hversioned : Versioned tables) (hlatest : Table.first
      (fun a b => decide (a.version > b.version)) (versionsOf scriptId tables) = some latest) :
    ¬Superseded latest.workspaceScriptVersionId tables := by
  rintro ⟨row, hrow, hid, later, hlater, hof, hlt⟩
  obtain ⟨hmem, hscript⟩ := List.mem_filter.mp (Table.mem_of_first hlatest)
  have hsame : row = latest := Table.eq_of_mem_of_key hversioned.versionKeys hrow hmem hid
  rw [hsame] at hof hlt
  have hbefore : later ∈ versionsOf scriptId tables :=
    List.mem_filter.mpr ⟨hlater, decide_eq_true (hof.trans (of_decide_eq_true hscript))⟩
  have hfirst : OrderDual.toDual latest.version ≤ OrderDual.toDual later.version :=
    @Table.first_le _ _ _ _ (fun row => OrderDual.toDual row.version)
      (fun a b => decide_eq_true_iff) _ _ _ hlatest hbefore
  exact Nat.not_le.mpr hlt hfirst

/-- The number of a version is at most that of the latest of its script. -/
theorem version_le_latest {script : WorkspaceScriptRecord} {row : WorkspaceScriptVersionRecord}
    (hversioned : Versioned tables) (hscript : script ∈ tables.scripts)
    (hrow : row ∈ versionsOf script.workspaceScriptId tables) :
    row.version ≤ script.latestVersion := by
  have hmem := List.mem_map_of_mem (f := WorkspaceScriptVersionRecord.version) hrow
  rw [hversioned.numbered script hscript, List.mem_range'_1] at hmem
  omega

omit [Digest] in
theorem checkExpectations_eq_ok {action : AppendWorkspaceScriptVersionAction}
    {latest : WorkspaceScriptVersionRecord} {versionId : Uuid}
    (hexpected : action.expectedLatestVersionId = some versionId)
    (h : checkExpectations action latest = .ok ()) :
    latest.workspaceScriptVersionId = versionId := by
  unfold checkExpectations at h
  split at h
  · cases h
  · rename_i hsame
    rw [hexpected, Option.any_some, decide_eq_true_eq, not_not] at hsame
    exact hsame

/-- An append leaves a later version than any there was of the script. -/
theorem appendWorkspaceScriptVersion_ends {version : NewWorkspaceScriptVersion}
    (hversioned : Versioned tables) :
    Ends (appendWorkspaceScriptVersion config version) (fun r tables' => ∀ row, r = .ok row →
      ∀ other ∈ versionsOf version.workspaceScriptId tables,
        Superseded other.workspaceScriptVersionId tables') tables := by
  unfold appendWorkspaceScriptVersion
  refine ends_bind (R := fun _ tables' => tables = tables') (ends_ofExcept rfl) ?_
    fun _ _ _ _ hr => (nomatch hr)
  rintro _ _ rfl
  refine ends_bind (R := fun r tables' => r = .ok () →
      ∀ other ∈ versionsOf version.workspaceScriptId tables,
        Superseded other.workspaceScriptVersionId tables')
    (ends_transaction (fun now effect h => ?_) fun _ hr => (nomatch hr)) ?_
    fun _ _ _ _ hr => (nomatch hr)
  · intro _ other hother
    obtain ⟨script, hfound, -, heffect⟩ := appendVersion_eq_ok h
    have hid := Table.key_of_find hfound
    obtain ⟨hmem, hof⟩ := List.mem_filter.mp hother
    have hle : other.version ≤ script.latestVersion := by
      refine version_le_latest hversioned (Table.mem_of_find hfound) ?_
      rwa [hid]
    rw [heffect]
    refine ⟨other, List.mem_append_left _ hmem, rfl,
      Workspace.versionRow now version (script.latestVersion + 1),
      List.mem_append_right _ (List.mem_singleton.mpr rfl), ?_, Nat.lt_succ_of_le hle⟩
    exact (of_decide_eq_true hof).symm
  · rintro _ tables' happended
    refine ends_fetchOne.mono ?_
    rintro r _ ⟨rfl, -⟩ row -
    exact happended rfl

/-- An append that goes through has found the version it expects, and supersedes it. -/
theorem executeAppendWorkspaceScriptVersion_ends {action : AppendWorkspaceScriptVersionAction}
    {versionId : Uuid} (hversioned : Versioned tables)
    (hexpected : action.expectedLatestVersionId = some versionId) :
    Ends (executeAppendWorkspaceScriptVersion config action) (fun r tables' =>
      ∀ report, r = .ok report → ¬Superseded versionId tables ∧ Superseded versionId tables')
      tables := by
  unfold executeAppendWorkspaceScriptVersion
  refine ends_bind ends_fetchOne ?_ fun _ _ _ _ hr => (nomatch hr)
  rintro script _ ⟨rfl, -⟩
  refine ends_ite (fun _ hr => (nomatch hr)) ?_
  refine ends_bind ends_fetchOne ?_ fun _ _ _ _ hr => (nomatch hr)
  rintro artifact _ ⟨rfl, -⟩
  refine ends_ite (fun _ hr => (nomatch hr)) ?_
  refine ends_bind ends_fetch ?_ fun _ _ _ _ hr => (nomatch hr)
  rintro found _ ⟨rfl, hfound⟩
  cases found with
  | none => exact ends_fail fun _ hr => (nomatch hr)
  | some latest =>
    have hlatest := hfound _ rfl
    have hmem := Table.mem_of_first hlatest
    refine ends_bind (R := fun r tables' => tables = tables' ∧ r = .ok latest)
      (ends_ret ⟨rfl, rfl⟩) ?_ fun _ _ _ _ hr => (nomatch hr)
    rintro _ _ ⟨rfl, hr⟩
    obtain rfl := (Except.ok.inj hr).symm
    refine ends_bind (R := fun r tables' => tables = tables' ∧ r = checkExpectations action latest)
      (ends_ofExcept ⟨rfl, rfl⟩) ?_ fun _ _ _ _ hr => (nomatch hr)
    rintro ⟨⟩ _ ⟨rfl, hchecked⟩
    have hid := checkExpectations_eq_ok hexpected hchecked.symm
    refine ends_bind (R := fun _ tables' => tables = tables') (ends_newUuid fun _ => rfl) ?_
      fun _ _ _ _ hr => (nomatch hr)
    rintro newVersionId _ rfl
    refine ends_bind (appendWorkspaceScriptVersion_ends hversioned) ?_
      fun _ _ _ _ hr => (nomatch hr)
    intro row tables' happended
    refine ends_ret fun _ _ => ⟨?_, ?_⟩
    · rw [← hid]
      exact latest_not_superseded hversioned hlatest
    · rw [← hid]
      exact happended row rfl latest hmem

/-- The version an action expects to be the latest of its script. -/
def Action.expects : Action → Option Uuid
  | .appendVersion action => action.expectedLatestVersionId
  | _ => none

/-- An action that goes through has found the version it expects, and supersedes it. -/
theorem Action.execute_ends (action : Action) (hversioned : Versioned tables) :
    Ends (action.execute config) (fun r tables' => Later tables tables' ∧
      ∀ versionId, action.expects = some versionId → r.isOk = true →
        ¬Superseded versionId tables ∧ Superseded versionId tables') tables := by
  have hlater : Ends (action.execute config) (fun _ tables' => Later tables tables') tables :=
    ⟨fun _ => action.execute_keeps.confined.alone (T := fun tables' _ => Later tables tables')
      (fun _ _ _ _ h hstep => h.trans hstep) (Later.refl tables)⟩
  refine hlater.and ?_
  cases action with
  | appendVersion action =>
    cases hexpected : action.expectedLatestVersionId with
    | none =>
      exact hlater.mono fun _ _ _ versionId h _ => (nomatch hexpected.symm.trans h)
    | some expected =>
      refine (executeAppendWorkspaceScriptVersion_ends hversioned hexpected).mono ?_
      intro r tables' h versionId hversion hok
      obtain rfl := Option.some.inj (hexpected.symm.trans hversion)
      cases r with
      | error e => cases hok
      | ok report => exact h report rfl
  | createArtifact record action => exact hlater.mono fun _ _ _ _ h => (nomatch h)
  | updateArtifact record action => exact hlater.mono fun _ _ _ _ h => (nomatch h)
  | createScript record action => exact hlater.mono fun _ _ _ _ h => (nomatch h)

end Ends

/-- Actions that are executed one after the other, with what became of each. -/
def executeAll (config : RuntimeConfig) :
    List Action → OnWorkspace (List (Action × Except ErrorChain NativeReport))
  | [] => pure []
  | action :: actions => do
    let result ← (action.execute config).attempt
    let results ← executeAll config actions
    pure ((action, result) :: results)

theorem executeAll_keeps {config : RuntimeConfig} (actions : List Action) :
    KeepsVersions (executeAll config actions) := by
  induction actions with
  | nil => exact keeps_ret _
  | cons action actions ih =>
    exact keeps_bind ⟨action.execute_keeps.confined.attempt⟩ fun _ =>
      keeps_bind ih fun _ => keeps_ret _

/-- Every action is told what became of it. -/
theorem executeAll_names {config : RuntimeConfig} (actions : List Action)
    {tables : WorkspaceTables} :
    Ends (executeAll config actions) (fun r _ => ∀ results, r = .ok results →
      results.map Prod.fst = actions) tables := by
  induction actions generalizing tables with
  | nil =>
    refine ends_ret fun results hr => ?_
    obtain rfl := Except.ok.inj hr
    rfl
  | cons action actions ih =>
    have hhead : Ends (action.execute config).attempt (fun _ _ => True) tables :=
      ⟨fun _ => Prog.Alone.of_forall fun _ _ _ => trivial⟩
    refine ends_bind hhead (fun result tables' _ => ?_) fun _ _ _ _ hr => (nomatch hr)
    refine ends_bind ih (fun results tables'' h => ?_) fun _ _ _ _ hr => (nomatch hr)
    refine ends_ret fun _ hr => ?_
    obtain rfl := Except.ok.inj hr
    rw [List.map_cons]
    rw [h results rfl]

/-- The action expected the version, and went through. -/
def WentThrough (versionId : Uuid) (done : Action × Except ErrorChain NativeReport) : Prop :=
  done.1.expects = some versionId ∧ done.2.isOk = true

/-- Of the actions that expect a version at most one goes through, and none where the version
was superseded before. -/
theorem executeAll_ends {config : RuntimeConfig} (actions : List Action)
    {tables : WorkspaceTables} (hversioned : Versioned tables) :
    Ends (executeAll config actions) (fun r _ => ∀ results, r = .ok results →
      (∀ done ∈ results, ∀ versionId, WentThrough versionId done →
        ¬Superseded versionId tables) ∧
      results.Pairwise fun done other => ∀ versionId, WentThrough versionId done →
        ¬WentThrough versionId other) tables := by
  induction actions generalizing tables with
  | nil =>
    refine ends_ret fun results hr => ?_
    obtain rfl := Except.ok.inj hr
    exact ⟨fun _ h => (nomatch h), List.Pairwise.nil⟩
  | cons action actions ih =>
    have hhead : Ends (action.execute config).attempt (fun r tables' => ∀ result,
        r = .ok result → Later tables tables' ∧ ∀ versionId, WentThrough versionId (action, result) →
          ¬Superseded versionId tables ∧ Superseded versionId tables') tables := by
      refine ((action.execute_ends hversioned).attempt).mono ?_
      rintro _ tables' ⟨result, rfl, hlater, h⟩ _ hr
      obtain rfl := Except.ok.inj hr
      exact ⟨hlater, fun versionId hthrough => h versionId hthrough.1 hthrough.2⟩
    refine ends_bind hhead ?_ fun _ _ _ _ hr => (nomatch hr)
    intro result tables' h
    obtain ⟨hlater, hfirst⟩ := h result rfl
    refine ends_bind (ih (hlater.versioned hversioned)) ?_ fun _ _ _ _ hr => (nomatch hr)
    intro results tables'' h
    obtain ⟨hrest, hpairs⟩ := h results rfl
    refine ends_ret fun _ hr => ?_
    obtain rfl := Except.ok.inj hr
    refine ⟨?_, List.pairwise_cons.mpr ⟨fun other hother versionId hthrough hagain => ?_, hpairs⟩⟩
    · intro done hdone versionId hthrough
      rcases List.mem_cons.mp hdone with rfl | hdone
      · exact (hfirst versionId hthrough).1
      · exact fun hsuperseded =>
          hrest done hdone versionId hthrough (hsuperseded.mono hlater.kept)
    · exact hrest other hother versionId hagain (hfirst versionId hthrough).2

/-! ## Runs -/

/-- However actions interleave: at every moment the versions of each script are numbered from 1 to
its latest without a gap, in the order in which they were written, and a version that is there
at some moment is there, as it was, at every later one. -/
theorem versions_gapless {ι : Type} [DecidableEq ι] (config : RuntimeConfig)
    (answers : Answers workspace) (actions : ι → Action) {tables : WorkspaceTables}
    (hversioned : Versioned tables) {c c' : Config workspace fun _ : ι => NativeReport}
    (reach : Config.Reachable answers (pool config actions tables) c)
    (later : Config.Reachable answers c c') :
    Versioned c.shared.state ∧ c.shared.state.versions <+: c'.shared.state.versions := by
  have hstart : (pool config actions tables).Confined
      fun _ tables tables' _ => Later tables tables' :=
    fun i => (actions i).execute_keeps.confined
  refine ⟨?_, ?_⟩
  · exact hstart.invariant (fun shared => Versioned shared.state) hversioned
      (fun _ _ _ _ h hstep => hstep.versioned h) reach
  · exact (hstart.reachable reach).relation
      (fun shared shared' => shared.state.versions <+: shared'.state.versions)
      (fun _ => List.prefix_refl _) (fun _ _ _ _ _ h hstep => h.trans hstep.kept) later

/-- Of the actions that are executed one after the other, no two that expect the same version to
be the latest of its script both go through. -/
theorem expectations_exclusive (config : RuntimeConfig) (actions : List Action)
    {tables : WorkspaceTables} (hversioned : Versioned tables) :
    Ends (executeAll config actions) (fun r tables' => Versioned tables' ∧
      ∀ results, r = .ok results → results.map Prod.fst = actions ∧
        results.Pairwise fun done other => ∀ versionId, WentThrough versionId done →
          ¬WentThrough versionId other) tables := by
  have hkept : Ends (executeAll config actions) (fun _ tables' => Later tables tables') tables :=
    ⟨fun _ => (executeAll_keeps actions).confined.alone (T := fun tables' _ => Later tables tables')
      (fun _ _ _ _ h hstep => h.trans hstep) (Later.refl tables)⟩
  refine ((hkept.and (executeAll_names actions)).and (executeAll_ends actions hversioned)).mono ?_
  intro r tables' ⟨⟨hlater, hnames⟩, hends⟩
  exact ⟨hlater.versioned hversioned, fun results hr => ⟨hnames results hr, (hends results hr).2⟩⟩

/-! ## Two appends to one script -/

section TwoAppends

/-- A script with its first version. -/
def oneScript : WorkspaceTables where
  artifacts := [artifactRow 0 {
    workspaceArtifactId := 1, traceId := none, executionId := none, artifactKind := .script
    title := "report", contentText := none, metadata := .obj [] }]
  scripts := [{
    workspaceScriptId := 2, workspaceArtifactId := 1, language := "python", entrypoint := none
    latestVersion := 1 }]
  versions := [{
    workspaceScriptVersionId := 3, workspaceScriptId := 2, version := 1
    contentText := "print(1)", contentSha256 := GovernedActions.sampleDigest.sha256Hex "print(1)"
    changeSummary := none }]

/-- Both are written for the first version. -/
def twoAppends : Bool → Action := fun second => .appendVersion {
  scriptId := 2, expectedLatestVersionId := some 3, expectedContentSha256 := none
  language := "python", contentText := if second then "print(3)" else "print(2)"
  changeSummary := "another number" }

/-- Time passes from statement to statement, and no UUID comes twice. -/
def passing : Oracle workspace
  | n, .statement => some (n : Int)
  | n, .newUuid => n + 10

/-- Both check before either writes. -/
def bothCheckFirst : List Bool :=
  List.replicate 8 false ++ List.replicate 8 true ++ List.replicate 6 false ++
    List.replicate 6 true

omit [Digest] in
theorem oneScript_versioned : letI := GovernedActions.sampleDigest
    Versioned oneScript :=
  let := GovernedActions.sampleDigest
  { scriptKeys := by decide
    versionKeys := by decide
    numbered := by decide
    owned := by decide
    digests := by decide
    held := by decide }

omit [Digest] in
/-- Two appends that expect the same version both go through where they interleave, as versions of
their own. -/
theorem versions_gapless_twoAppends : letI := GovernedActions.sampleDigest
    ∃ c : Config workspace fun _ : Bool => NativeReport,
      Config.Reachable (fun _ _ => True) (pool RuntimeConfig.shipped twoAppends oneScript) c ∧
      Versioned c.shared.state ∧ oneScript.versions <+: c.shared.state.versions ∧
      (c.shared.state.versions.map fun row => (row.version, row.contentText)) =
        [(1, "print(1)"), (2, "print(2)"), (3, "print(3)")] := by
  let := GovernedActions.sampleDigest
  have reach : Config.Reachable (fun _ _ => True)
      (pool RuntimeConfig.shipped twoAppends oneScript) _ :=
    Config.reachable_schedule (o := passing) (fun _ _ => trivial) bothCheckFirst 0 _
  exact ⟨_, reach,
    (versions_gapless RuntimeConfig.shipped _ twoAppends oneScript_versioned reach .refl).1,
    (versions_gapless RuntimeConfig.shipped _ twoAppends oneScript_versioned .refl reach).2,
    by decide +kernel⟩

omit [Digest] in
theorem expectations_exclusive_twoAppends : letI := GovernedActions.sampleDigest
    Ends (executeAll RuntimeConfig.shipped [twoAppends false, twoAppends true])
      (fun r tables' => Versioned tables' ∧
        ∀ results, r = .ok results → results.map Prod.fst = [twoAppends false, twoAppends true] ∧
          results.Pairwise fun done other => ∀ versionId, WentThrough versionId done →
            ¬WentThrough versionId other) oneScript :=
  let := GovernedActions.sampleDigest
  expectations_exclusive RuntimeConfig.shipped _ oneScript_versioned

end TwoAppends

end BlueLagoon.WorkspaceWrites
