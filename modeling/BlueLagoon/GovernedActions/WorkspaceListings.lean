import BlueLagoon.GovernedActions.Validation
import BlueLagoon.Harness
import BlueLagoon.Ranking

/-!
# Listings of the workspace

The listing actions over artifacts, scripts and script runs. Each fetches the first rows of
its table in a fixed order, four times as many as it is to return, and filters them in memory.
-/

namespace BlueLagoon

inductive WorkspaceArtifactStatus
  | active
  | archived
  deriving DecidableEq, Repr

/-- `workspace_artifact_status_label`. -/
def WorkspaceArtifactStatus.label : WorkspaceArtifactStatus → String
  | active => "active"
  | archived => "archived"

structure WorkspaceArtifactRecord where
  workspaceArtifactId : Uuid
  traceId : Option Uuid
  executionId : Option Uuid
  artifactKind : WorkspaceArtifactKind
  title : String
  contentText : Option String
  status : WorkspaceArtifactStatus
  metadata : Json
  createdAt : DateTime
  updatedAt : DateTime

/-- The tables of the workspace that are listed, with the keys of their schema. -/
structure WorkspaceStore where
  artifacts : List WorkspaceArtifactRecord
  scripts : List WorkspaceScriptRecord
  runs : List WorkspaceScriptRunRecord
  artifactKeys : (artifacts.map WorkspaceArtifactRecord.workspaceArtifactId).Nodup
  scriptKeys : (scripts.map WorkspaceScriptRecord.workspaceScriptId).Nodup
  runKeys : (runs.map WorkspaceScriptRunRecord.workspaceScriptRunId).Nodup
  scriptArtifacts : ∀ script ∈ scripts, ∃ artifact ∈ artifacts,
    artifact.workspaceArtifactId = script.workspaceArtifactId

namespace GovernedActions

variable {store : WorkspaceStore}

/-! ## Queries -/

/-- `get_workspace_artifact`. -/
def getWorkspaceArtifact (store : WorkspaceStore) (workspaceArtifactId : Uuid) :
    Except ErrorChain WorkspaceArtifactRecord :=
  match Table.find WorkspaceArtifactRecord.workspaceArtifactId workspaceArtifactId
      store.artifacts with
  | some artifact => .ok artifact
  | none => .error ["failed to fetch workspace artifact",
      "no rows returned by a query that expected to return at least one row"]

/-- `ORDER BY updated_at DESC, workspace_artifact_id DESC`. -/
def artifactsInOrder (store : WorkspaceStore) : List WorkspaceArtifactRecord :=
  store.artifacts.insertionSort
    (Ranking.Descending WorkspaceArtifactRecord.updatedAt
      WorkspaceArtifactRecord.workspaceArtifactId)

/-- `list_workspace_artifacts`. -/
def listWorkspaceArtifacts (store : WorkspaceStore) (limit : Nat) :
    List WorkspaceArtifactRecord :=
  (artifactsInOrder store).take limit

/-- `ORDER BY updated_at DESC, workspace_script_id DESC`. -/
def scriptsInOrder (store : WorkspaceStore) : List WorkspaceScriptRecord :=
  store.scripts.insertionSort
    (Ranking.Descending WorkspaceScriptRecord.updatedAt WorkspaceScriptRecord.workspaceScriptId)

/-- `list_workspace_scripts`. -/
def listWorkspaceScripts (store : WorkspaceStore) (limit : Nat) : List WorkspaceScriptRecord :=
  (scriptsInOrder store).take limit

/-- `ORDER BY created_at DESC, workspace_script_run_id DESC`, of one script or of all. -/
def runsInOrder (store : WorkspaceStore) (workspaceScriptId : Option Uuid) :
    List WorkspaceScriptRunRecord :=
  (store.runs.filter fun run => workspaceScriptId.all (run.workspaceScriptId = ·)).insertionSort
    (Ranking.Descending WorkspaceScriptRunRecord.createdAt
      WorkspaceScriptRunRecord.workspaceScriptRunId)

/-- `list_workspace_script_run_records`. -/
def listWorkspaceScriptRunRecords (store : WorkspaceStore) (workspaceScriptId : Option Uuid)
    (limit : Nat) : List WorkspaceScriptRunRecord :=
  (runsInOrder store workspaceScriptId).take limit

/-! ## Executors -/

/-- `action.limit * 4`, on a `u32`. -/
def scanLimit (limit : Nat) : Nat := limit * 4 % 2 ^ 32

/-- `preview_text`. -/
def previewText (content : String) (maxChars : Nat) : String × Bool :=
  (String.ofList (content.toList.take maxChars), !(content.toList.drop maxChars).isEmpty)

/-- `artifact_status_matches`. -/
def artifactStatusMatches (status : WorkspaceArtifactStatus) :
    WorkspaceArtifactStatusFilter → Bool
  | .active => status = .active
  | .archived => status = .archived
  | .any => true

/-- `script_run_status_matches`. -/
def scriptRunStatusMatches (status : WorkspaceScriptRunStatus)
    (filter : Option WorkspaceScriptRunStatus) : Bool :=
  filter.all (· = status)

/-- The loop of an executor over the rows it fetched. A row is passed over, or gives an item;
the loop stops once there are enough of them. -/
def selectRows {α : Type} (limit : Nat) (consider : α → Except ErrorChain (Option Json)) :
    List Json → List α → Except ErrorChain (List Json)
  | selected, [] => .ok selected
  | selected, row :: rows =>
    if selected.length ≥ limit then .ok selected
    else
      match consider row with
      | .error e => .error e
      | .ok none => selectRows limit consider selected rows
      | .ok (some item) => selectRows limit consider (selected ++ [item]) rows

/-- What a listing completes with. -/
def listingReport (listed : String) (limit : Nat) (selected : List Json) : NativeReport where
  summary := s!"listed {selected.length} workspace {listed}"
  payload := .obj [("items", .arr selected), ("limit", .int limit)]

/-- The item of an artifact. -/
def artifactItem (artifact : WorkspaceArtifactRecord) : Json :=
  let content := artifact.contentText.getD ""
  let (snippet, truncated) := previewText content 240
  .obj
    [("workspace_artifact_id", .uuid artifact.workspaceArtifactId),
     ("artifact_kind", .str artifact.artifactKind.asStr),
     ("title", .str artifact.title),
     ("status", .str artifact.status.label),
     ("updated_at", .time artifact.updatedAt),
     ("snippet", .str snippet),
     ("snippet_truncated", .bool truncated)]

/-- One round of the loop of `execute_list_workspace_artifacts`. -/
def considerArtifact (action : ListWorkspaceArtifactsAction) (artifact : WorkspaceArtifactRecord) :
    Except ErrorChain (Option Json) :=
  if !artifactStatusMatches artifact.status action.status then .ok none
  else if artifact.artifactKind = .script then .ok none
  else if action.artifactKind.any (artifact.artifactKind ≠ ·) then .ok none
  else
    let haystack :=
      Text.toAsciiLowercase (artifact.title ++ "\n" ++ artifact.contentText.getD "")
    if (action.query.map Text.toAsciiLowercase).any fun query => !Text.contains haystack query then
      .ok none
    else .ok (some (artifactItem artifact))

/-- `execute_list_workspace_artifacts`, up to the completion. -/
def executeListWorkspaceArtifacts (action : ListWorkspaceArtifactsAction) (store : WorkspaceStore) :
    Except ErrorChain NativeReport := do
  let artifacts := listWorkspaceArtifacts store (scanLimit action.limit)
  let selected ← selectRows action.limit (considerArtifact action) [] artifacts
  .ok (listingReport "artifacts" action.limit selected)

/-- The item of a script and its artifact. -/
def scriptItem (script : WorkspaceScriptRecord) (artifact : WorkspaceArtifactRecord) : Json :=
  .obj
    [("workspace_script_id", .uuid script.workspaceScriptId),
     ("workspace_artifact_id", .uuid script.workspaceArtifactId),
     ("title", .str artifact.title),
     ("language", .str script.language),
     ("status", .str artifact.status.label),
     ("latest_version", .int script.latestVersion),
     ("updated_at", .time script.updatedAt)]

/-- One round of the loop of `execute_list_workspace_scripts`; `toString` is the one of
documents. -/
def considerScript (toString : Json → String) (action : ListWorkspaceScriptsAction)
    (store : WorkspaceStore) (script : WorkspaceScriptRecord) : Except ErrorChain (Option Json) :=
  if action.language.any fun language =>
      !Text.eqIgnoreAsciiCase script.language (Text.trim language) then .ok none
  else
    match getWorkspaceArtifact store script.workspaceArtifactId with
    | .error e => .error e
    | .ok artifact =>
      if !artifactStatusMatches artifact.status action.status then .ok none
      else
        let haystack :=
          Text.toAsciiLowercase (artifact.title ++ "\n" ++ toString artifact.metadata)
        if (action.query.map Text.toAsciiLowercase).any fun query =>
            !Text.contains haystack query then .ok none
        else .ok (some (scriptItem script artifact))

/-- `execute_list_workspace_scripts`, up to the completion. -/
def executeListWorkspaceScripts (toString : Json → String) (action : ListWorkspaceScriptsAction)
    (store : WorkspaceStore) : Except ErrorChain NativeReport := do
  let scripts := listWorkspaceScripts store (scanLimit action.limit)
  let selected ← selectRows action.limit (considerScript toString action store) [] scripts
  .ok (listingReport "scripts" action.limit selected)

/-- The item of a run. -/
def runItem (run : WorkspaceScriptRunRecord) : Json :=
  .obj
    [("workspace_script_run_id", .uuid run.workspaceScriptRunId),
     ("workspace_script_id", .uuid run.workspaceScriptId),
     ("workspace_script_version_id", .uuid run.workspaceScriptVersionId),
     ("status", .str run.status.asStr),
     ("risk_tier", .str run.riskTier.asStr),
     ("started_at", .ofOption .time run.startedAt),
     ("completed_at", .ofOption .time run.completedAt),
     ("output_ref", .ofOption .str run.outputRef),
     ("failure_summary", .ofOption .str run.failureSummary)]

/-- `execute_list_workspace_script_runs`, up to the completion. -/
def executeListWorkspaceScriptRuns (action : ListWorkspaceScriptRunsAction)
    (store : WorkspaceStore) : Except ErrorChain NativeReport :=
  let runs := listWorkspaceScriptRunRecords store (some action.scriptId) (scanLimit action.limit)
  let selected := ((runs.filter fun run => scriptRunStatusMatches run.status action.status).take
    action.limit).map runItem
  .ok (listingReport "script runs" action.limit selected)

/-! ## Matching rows -/

/-- The filters of an artifact listing. Scripts have a listing of their own. -/
def artifactMatches (action : ListWorkspaceArtifactsAction) (artifact : WorkspaceArtifactRecord) :
    Bool :=
  artifactStatusMatches artifact.status action.status &&
    decide (artifact.artifactKind ≠ .script) &&
    action.artifactKind.all (artifact.artifactKind = ·) &&
    action.query.all fun query =>
      Text.contains (Text.toAsciiLowercase (artifact.title ++ "\n" ++ artifact.contentText.getD ""))
        (Text.toAsciiLowercase query)

/-- The artifact of a script. -/
def artifactOf (store : WorkspaceStore) (script : WorkspaceScriptRecord) :
    Option WorkspaceArtifactRecord :=
  Table.find WorkspaceArtifactRecord.workspaceArtifactId script.workspaceArtifactId store.artifacts

/-- The filters of a script listing. The status and the searched text are those of the
artifact of the script. -/
def scriptMatches (toString : Json → String) (action : ListWorkspaceScriptsAction)
    (store : WorkspaceStore) (script : WorkspaceScriptRecord) : Bool :=
  (action.language.all fun language =>
      Text.eqIgnoreAsciiCase script.language (Text.trim language)) &&
    (artifactOf store script).any fun artifact =>
      artifactStatusMatches artifact.status action.status &&
        action.query.all fun query =>
          Text.contains
            (Text.toAsciiLowercase (artifact.title ++ "\n" ++ toString artifact.metadata))
            (Text.toAsciiLowercase query)

/-- The item of a script of the store. -/
def scriptEntry (store : WorkspaceStore) (script : WorkspaceScriptRecord) : Json :=
  (artifactOf store script).elim .null (scriptItem script)

/-- The filters of a run listing. -/
def runMatches (action : ListWorkspaceScriptRunsAction) (run : WorkspaceScriptRunRecord) : Bool :=
  scriptRunStatusMatches run.status action.status

/-- A filter that passes a row over is one more condition on the rows that match. -/
theorem passOver {skip : Prop} [Decidable skip] {keep rest : Bool} {item : Json}
    (h : skip ↔ keep = false) :
    (if skip then .ok none else .ok (if rest then some item else none) :
      Except ErrorChain (Option Json)) = .ok (if keep && rest then some item else none) := by
  cases keep with
  | false => rw [if_pos (h.mpr rfl)]; rfl
  | true =>
    have hskip : ¬ skip := fun hskip => Bool.noConfusion (h.mp hskip)
    rw [if_neg hskip, Bool.true_and]

theorem any_not_iff {α : Type} {filter : Option α} {keep : α → Bool} :
    (filter.any fun a => !keep a) = true ↔ filter.all keep = false := by
  cases filter <;> simp

theorem passOver_query {query : Option String} {haystack : String} {item : Json} :
    (if (query.map Text.toAsciiLowercase).any fun query => !Text.contains haystack query then
      .ok none else .ok (some item) : Except ErrorChain (Option Json)) =
      .ok (if query.all fun query => Text.contains haystack (Text.toAsciiLowercase query) then
        some item else none) := by
  have h := @passOver _ _ _ true item (@any_not_iff _ (query.map Text.toAsciiLowercase)
    (Text.contains haystack))
  rw [Bool.and_true, Option.all_map] at h
  exact h

theorem considerArtifact_eq (action : ListWorkspaceArtifactsAction)
    (artifact : WorkspaceArtifactRecord) : considerArtifact action artifact =
      .ok (if artifactMatches action artifact then some (artifactItem artifact) else none) := by
  have hstatus : (!artifactStatusMatches artifact.status action.status) = true ↔
      artifactStatusMatches artifact.status action.status = false := by simp
  have hscript : artifact.artifactKind = .script ↔
      decide (artifact.artifactKind ≠ .script) = false := by simp
  have hkind : (action.artifactKind.any (artifact.artifactKind ≠ ·)) = true ↔
      action.artifactKind.all (artifact.artifactKind = ·) = false := by
    cases action.artifactKind <;> simp
  unfold considerArtifact artifactMatches
  dsimp only
  rw [passOver_query, passOver hkind, passOver hscript, passOver hstatus, Bool.and_assoc,
    Bool.and_assoc]

theorem artifactOf_isSome {script : WorkspaceScriptRecord} (h : script ∈ store.scripts) :
    ∃ artifact, artifactOf store script = some artifact := by
  obtain ⟨artifact, hmem, hkey⟩ := store.scriptArtifacts script h
  refine ⟨artifact, ?_⟩
  rw [artifactOf, ← hkey]
  exact Table.find_eq_some_of_mem store.artifactKeys hmem

theorem considerScript_eq {toString : Json → String} {action : ListWorkspaceScriptsAction}
    {script : WorkspaceScriptRecord} (h : script ∈ store.scripts) :
    considerScript toString action store script =
      .ok (if scriptMatches toString action store script then some (scriptEntry store script)
        else none) := by
  obtain ⟨artifact, hartifact⟩ := artifactOf_isSome h
  have hget : getWorkspaceArtifact store script.workspaceArtifactId = .ok artifact := by
    unfold getWorkspaceArtifact
    unfold artifactOf at hartifact
    rw [hartifact]
  have hstatus : (!artifactStatusMatches artifact.status action.status) = true ↔
      artifactStatusMatches artifact.status action.status = false := by simp
  unfold considerScript scriptMatches scriptEntry
  rw [hget, hartifact]
  dsimp only [Option.any_some, Option.elim_some]
  rw [passOver_query, passOver hstatus, passOver any_not_iff]

/-- The loop selects the first rows that match. -/
theorem selectRows_eq {α : Type} {limit : Nat} {consider : α → Except ErrorChain (Option Json)}
    {wanted : α → Bool} {item : α → Json} {rows : List α}
    (h : ∀ row ∈ rows, consider row = .ok (if wanted row then some (item row) else none))
    (selected : List Json) : selectRows limit consider selected rows =
      .ok (selected ++ ((rows.filter wanted).take (limit - selected.length)).map item) := by
  induction rows generalizing selected with
  | nil => simp [selectRows]
  | cons row rows ih =>
    have hrow := h row List.mem_cons_self
    have hrows := fun other hother => h other (List.mem_cons_of_mem _ hother)
    by_cases hfull : selected.length ≥ limit
    · rw [selectRows, if_pos hfull, Nat.sub_eq_zero_of_le hfull]
      simp
    rw [selectRows, if_neg hfull, hrow]
    cases hwanted : wanted row with
    | false => simp [ih hrows, hwanted]
    | true =>
      have hroom : limit - selected.length = limit - (selected.length + 1) + 1 := by omega
      simp [ih hrows, hwanted, hroom]

/-! ## What a listing is to return -/

/-- The outcome lists the matching rows that were updated last, as many as the limit allows. -/
def ReturnsLatest {α : Type} (updatedAt : α → DateTime) (item : α → Json) (listed : String)
    (limit : Nat) (matching : List α) (outcome : Except ErrorChain NativeReport) : Prop :=
  ∃ rows, Ranking.Highest updatedAt limit matching rows ∧
    outcome = .ok (listingReport listed limit (rows.map item))

def ArtifactsListed (action : ListWorkspaceArtifactsAction) (store : WorkspaceStore) : Prop :=
  ReturnsLatest WorkspaceArtifactRecord.updatedAt artifactItem "artifacts" action.limit
    (store.artifacts.filter (artifactMatches action)) (executeListWorkspaceArtifacts action store)

def ScriptsListed (toString : Json → String) (action : ListWorkspaceScriptsAction)
    (store : WorkspaceStore) : Prop :=
  ReturnsLatest WorkspaceScriptRecord.updatedAt (scriptEntry store) "scripts" action.limit
    (store.scripts.filter (scriptMatches toString action store))
    (executeListWorkspaceScripts toString action store)

def RunsListed (action : ListWorkspaceScriptRunsAction) (store : WorkspaceStore) : Prop :=
  ReturnsLatest WorkspaceScriptRunRecord.updatedAt runItem "script runs" action.limit
    (store.runs.filter fun run =>
      decide (run.workspaceScriptId = action.scriptId) && runMatches action run)
    (executeListWorkspaceScriptRuns action store)

theorem eq_of_map_eq {α β : Type} {f : α → β} {domain : List α}
    (hf : ∀ a ∈ domain, ∀ b ∈ domain, f a = f b → a = b) {l l' : List α} (hl : l ⊆ domain)
    (hl' : l' ⊆ domain) (h : l.map f = l'.map f) : l = l' := by
  induction l generalizing l' with
  | nil => exact (List.map_eq_nil_iff.mp h.symm).symm
  | cons a l ih =>
    cases l' with
    | nil => cases h
    | cons b l' =>
      rw [List.map_cons, List.map_cons] at h
      obtain ⟨hhead, htail⟩ := List.cons.inj h
      rw [List.cons_subset] at hl hl'
      rw [hf a hl.1 b hl'.1 hhead, ih hl.2 hl'.2 htail]

/-- The items tell the rows apart, so the rows that are listed are to be the latest ones. -/
theorem returnsLatest_iff {α : Type} {updatedAt : α → DateTime} {item : α → Json}
    {listed : String} {limit : Nat} {matching rows : List α}
    (hitem : ∀ a ∈ matching, ∀ b ∈ matching, item a = item b → a = b) (hrows : rows ⊆ matching) :
    ReturnsLatest updatedAt item listed limit matching
        (.ok (listingReport listed limit (rows.map item))) ↔
      Ranking.Highest updatedAt limit matching rows := by
  constructor
  · rintro ⟨latest, hlatest, houtcome⟩
    have hpayload := congrArg NativeReport.payload (Except.ok.inj houtcome)
    simp only [listingReport, Json.obj.injEq, List.cons.injEq, Prod.mk.injEq, Json.arr.injEq,
      true_and, and_true] at hpayload
    rw [eq_of_map_eq hitem hrows hlatest.subperm.subset hpayload]
    exact hlatest
  · intro h
    exact ⟨rows, h, rfl⟩

/-- Items that carry the key of their rows tell the rows apart. -/
theorem item_injOn {α : Type} {key : α → Uuid} {rows matching : List α} {item : α → Json}
    (hkey : (rows.map key).Nodup) (hmatching : matching ⊆ rows)
    (hitem : ∀ a ∈ rows, ∀ b ∈ rows, item a = item b → key a = key b) :
    ∀ a ∈ matching, ∀ b ∈ matching, item a = item b → a = b := by
  intro a ha b hb h
  exact Table.eq_of_mem_of_key hkey (hmatching ha) (hmatching hb)
    (hitem a (hmatching ha) b (hmatching hb) h)

theorem scriptEntry_key {a b : WorkspaceScriptRecord} (ha : a ∈ store.scripts)
    (hb : b ∈ store.scripts) (h : scriptEntry store a = scriptEntry store b) :
    a.workspaceScriptId = b.workspaceScriptId := by
  obtain ⟨artifact, hartifact⟩ := artifactOf_isSome ha
  obtain ⟨artifact', hartifact'⟩ := artifactOf_isSome hb
  unfold scriptEntry at h
  rw [hartifact, hartifact'] at h
  simp only [Option.elim_some, scriptItem, Json.obj.injEq, List.cons.injEq, Prod.mk.injEq,
    Json.uuid.injEq] at h
  exact h.1.2

/-! ## When it is returned -/

/-- An accepted limit is scanned four times over: the multiplication does not overflow. -/
theorem scanLimit_eq {limit : Nat} {label : String} (h : validateLimit limit label = .ok ()) :
    scanLimit limit = limit * 4 := by
  unfold validateLimit at h
  rw [ensureNot_bind_eq_ok] at h
  obtain ⟨-, hmax⟩ := h
  have hle : limit ≤ governedActionListLimitMax := by
    unfold ensureNot at hmax
    split at hmax
    · cases hmax
    · rename_i hnot
      simpa using hnot
  unfold scanLimit
  unfold governedActionListLimitMax at hle
  exact Nat.mod_eq_of_lt (by omega)

section Table

variable {α : Type} {key : α → DateTime} {id : α → Uuid} {table : List α} {wanted : α → Bool}
  {scanned limit : Nat}

theorem selected_subset : (((table.insertionSort (Ranking.Descending key id)).take scanned).filter
    wanted).take limit ⊆ table.filter wanted := by
  intro row hrow
  rw [List.mem_filter]
  obtain ⟨hscanned, hwanted⟩ := List.mem_filter.mp (List.mem_of_mem_take hrow)
  exact ⟨(List.mem_insertionSort _).mp (List.mem_of_mem_take hscanned), hwanted⟩

/-- The rows a listing selects have the highest values of some key exactly when rows that do
not match leave enough of them among those that are fetched, and the order of the fetch agrees
with the key as far as the limit goes. -/
theorem highest_selected_iff (hnodup : table.Nodup) (other : α → DateTime) :
    Ranking.Highest other limit (table.filter wanted)
        ((((table.insertionSort (Ranking.Descending key id)).take scanned).filter wanted).take
          limit) ↔
      Ranking.Uncrowded wanted scanned limit
          (table.insertionSort (Ranking.Descending key id)) ∧
        ∀ kept ∈ ((table.insertionSort (Ranking.Descending key id)).filter wanted).take limit,
          ∀ row ∈ ((table.insertionSort (Ranking.Descending key id)).filter wanted).drop limit,
            other row ≤ other kept := by
  have hperm := (List.perm_insertionSort (Ranking.Descending key id) table).filter wanted
  constructor
  · intro h
    have hroom : Ranking.Uncrowded wanted scanned limit
        (table.insertionSort (Ranking.Descending key id)) := by
      rw [← Ranking.length_filter_take, h.length, hperm.length_eq]
    refine ⟨hroom, ?_⟩
    rw [Ranking.filter_take_eq hroom] at h
    have hsorted := hperm.nodup_iff.mpr (hnodup.filter wanted)
    exact (Ranking.highest_take_iff hsorted).mp (h.of_perm hperm.symm)
  · rintro ⟨hroom, horder⟩
    rw [Ranking.filter_take_eq hroom]
    exact (Ranking.highest_take horder).of_perm hperm

/-- A fetch in the order of the key agrees with it. -/
theorem latest_selected_iff (hnodup : table.Nodup) :
    Ranking.Highest key limit (table.filter wanted)
        ((((table.insertionSort (Ranking.Descending key id)).take scanned).filter wanted).take
          limit) ↔
      Ranking.Uncrowded wanted scanned limit
        (table.insertionSort (Ranking.Descending key id)) := by
  rw [highest_selected_iff hnodup, and_iff_left_iff_imp]
  rintro -
  have hsorted : ((table.insertionSort (Ranking.Descending key id)).filter wanted).Pairwise
      fun a b => key b ≤ key a := by
    apply List.Pairwise.filter
    exact (List.pairwise_insertionSort (Ranking.Descending key id) table).imp
      Ranking.Descending.le
  rw [← List.take_append_drop limit (List.filter _ _), List.pairwise_append] at hsorted
  exact hsorted.2.2

end Table

/-- The listing has the latest matching artifacts exactly if the rows it fetches hold enough of
them. -/
theorem artifactsListed_iff {action : ListWorkspaceArtifactsAction}
    (h : validateListWorkspaceArtifactsAction action = .ok ()) :
    ArtifactsListed action store ↔ Ranking.Uncrowded (artifactMatches action) (action.limit * 4)
      action.limit (artifactsInOrder store) := by
  have hlimit : validateLimit action.limit "workspace artifact listing" = .ok () := by
    unfold validateListWorkspaceArtifactsAction at h
    cases hcheck : validateLimit action.limit "workspace artifact listing" with
    | ok => rfl
    | error e =>
      rw [hcheck] at h
      cases h
  have hexecute : executeListWorkspaceArtifacts action store =
      .ok (listingReport "artifacts" action.limit (((((artifactsInOrder store).take
        (action.limit * 4)).filter (artifactMatches action)).take action.limit).map
          artifactItem)) := by
    unfold executeListWorkspaceArtifacts listWorkspaceArtifacts
    dsimp only
    rw [selectRows_eq fun row _ => considerArtifact_eq action row, scanLimit_eq hlimit]
    rfl
  have hkey : ∀ a ∈ store.artifacts, ∀ b ∈ store.artifacts, artifactItem a = artifactItem b →
      a.workspaceArtifactId = b.workspaceArtifactId := by
    intro a _ b _ hitem
    simp only [artifactItem, Json.obj.injEq, List.cons.injEq, Prod.mk.injEq,
      Json.uuid.injEq] at hitem
    exact hitem.1.2
  unfold ArtifactsListed
  rw [hexecute]
  exact (returnsLatest_iff (item_injOn store.artifactKeys (List.filter_subset_self _) hkey)
    selected_subset).trans (latest_selected_iff store.artifactKeys.of_map)

theorem scriptsListed_iff {toString : Json → String} {action : ListWorkspaceScriptsAction}
    (h : validateListWorkspaceScriptsAction action = .ok ()) :
    ScriptsListed toString action store ↔
      Ranking.Uncrowded (scriptMatches toString action store) (action.limit * 4) action.limit
        (scriptsInOrder store) := by
  have hconsider : ∀ script ∈ (scriptsInOrder store).take (action.limit * 4),
      considerScript toString action store script =
        .ok (if scriptMatches toString action store script then some (scriptEntry store script)
          else none) := by
    intro script hscript
    apply considerScript_eq
    exact (List.mem_insertionSort _).mp (List.mem_of_mem_take hscript)
  have hexecute : executeListWorkspaceScripts toString action store =
      .ok (listingReport "scripts" action.limit (((((scriptsInOrder store).take
        (action.limit * 4)).filter (scriptMatches toString action store)).take
          action.limit).map (scriptEntry store))) := by
    unfold executeListWorkspaceScripts listWorkspaceScripts
    dsimp only
    rw [scanLimit_eq h, selectRows_eq hconsider]
    rfl
  unfold ScriptsListed
  rw [hexecute]
  exact (returnsLatest_iff (item_injOn store.scriptKeys (List.filter_subset_self _)
    fun a ha b hb hitem => scriptEntry_key ha hb hitem) selected_subset).trans
      (latest_selected_iff store.scriptKeys.of_map)

/-- No matching run outside the ones created last was updated after one of them. -/
def UpdatedInOrder (action : ListWorkspaceScriptRunsAction) (store : WorkspaceStore) : Prop :=
  let matching := (runsInOrder store (some action.scriptId)).filter (runMatches action)
  ∀ kept ∈ matching.take action.limit, ∀ run ∈ matching.drop action.limit,
    run.updatedAt ≤ kept.updatedAt

instance (action : ListWorkspaceScriptRunsAction) : Decidable (UpdatedInOrder action store) :=
  inferInstanceAs (Decidable (∀ kept ∈ List.take _ _, ∀ run ∈ List.drop _ _, _))

/-- The listing has the latest matching runs exactly if the rows it fetches hold enough of them, in
the order of their updates. -/
theorem runsListed_iff {action : ListWorkspaceScriptRunsAction}
    (h : validateListWorkspaceScriptRunsAction action = .ok ()) :
    RunsListed action store ↔
      Ranking.Uncrowded (runMatches action) (action.limit * 4) action.limit
        (runsInOrder store (some action.scriptId)) ∧ UpdatedInOrder action store := by
  have hlimit : validateLimit action.limit "workspace script run listing" = .ok () := by
    unfold validateListWorkspaceScriptRunsAction at h
    rw [ensureNot_bind_eq_ok] at h
    exact h.2
  have hexecute : executeListWorkspaceScriptRuns action store =
      .ok (listingReport "script runs" action.limit (((((runsInOrder store
        (some action.scriptId)).take (action.limit * 4)).filter (runMatches action)).take
          action.limit).map runItem)) := by
    unfold executeListWorkspaceScriptRuns listWorkspaceScriptRunRecords
    dsimp only
    rw [scanLimit_eq hlimit]
    rfl
  have hkey : ∀ a ∈ store.runs, ∀ b ∈ store.runs, runItem a = runItem b →
      a.workspaceScriptRunId = b.workspaceScriptRunId := by
    intro a _ b _ hitem
    simp only [runItem, Json.obj.injEq, List.cons.injEq, Prod.mk.injEq, Json.uuid.injEq] at hitem
    exact hitem.1.2
  have hmatching : (store.runs.filter fun run =>
      decide (run.workspaceScriptId = action.scriptId) && runMatches action run) =
      (store.runs.filter fun run =>
        (some action.scriptId).all (run.workspaceScriptId = ·)).filter (runMatches action) := by
    rw [List.filter_filter]
    exact List.filter_congr fun run _ => Bool.and_comm _ _
  have hinjective := item_injOn store.runKeys (List.filter_subset_self
    (p := fun run => decide (run.workspaceScriptId = action.scriptId) && runMatches action run) _)
    hkey
  unfold RunsListed
  rw [hexecute]
  rw [hmatching] at hinjective ⊢
  exact (returnsLatest_iff hinjective selected_subset).trans
    (highest_selected_iff (store.runKeys.of_map.filter _) _)

/-- Every accepted listing returns the matching rows that were updated last exactly when the
rows fetched for it hold enough matching ones, or all of them. Runs are fetched in the order
of their creation, which has to agree with the one of their updates. -/
theorem listings_return_latest_iff (toString : Json → String) (store : WorkspaceStore) :
    (∀ action, validateListWorkspaceArtifactsAction action = .ok () →
      (ArtifactsListed action store ↔
        Ranking.Uncrowded (artifactMatches action) (action.limit * 4) action.limit
          (artifactsInOrder store))) ∧
    (∀ action, validateListWorkspaceScriptsAction action = .ok () →
      (ScriptsListed toString action store ↔
        Ranking.Uncrowded (scriptMatches toString action store) (action.limit * 4) action.limit
          (scriptsInOrder store))) ∧
    ∀ action, validateListWorkspaceScriptRunsAction action = .ok () →
      (RunsListed action store ↔
        Ranking.Uncrowded (runMatches action) (action.limit * 4) action.limit
            (runsInOrder store (some action.scriptId)) ∧
          UpdatedInOrder action store) :=
  ⟨fun _ => artifactsListed_iff, fun _ => scriptsListed_iff, fun _ => runsListed_iff⟩

/-! ## A store where matches are missed -/

/-- A note that was updated at a given time. -/
def noteUpdatedAt (status : WorkspaceArtifactStatus) (time : Nat) : WorkspaceArtifactRecord where
  workspaceArtifactId := time
  traceId := none
  executionId := none
  artifactKind := .note
  title := "note"
  contentText := some "text"
  status := status
  metadata := .obj []
  createdAt := 0
  updatedAt := time

/-- One active note, and four archived ones that were updated after it. -/
def crowdedStore : WorkspaceStore where
  artifacts := noteUpdatedAt .active 1 :: [2, 3, 4, 5].map (noteUpdatedAt .archived)
  scripts := []
  runs := []
  artifactKeys := by decide
  scriptKeys := by decide
  runKeys := by decide
  scriptArtifacts := by simp

/-- A listing of one artifact with a status. -/
def listOne (status : WorkspaceArtifactStatusFilter) : ListWorkspaceArtifactsAction where
  artifactKind := none
  status := status
  query := none
  limit := 1

theorem listings_return_latest_archived :
    validateListWorkspaceArtifactsAction (listOne .archived) = .ok () ∧
      ArtifactsListed (listOne .archived) crowdedStore :=
  ⟨rfl, ((listings_return_latest_iff (fun _ => "\x7b\x7d") crowdedStore).1 (listOne .archived)
    rfl).mpr (by decide)⟩

theorem archived_notes_hide_active_one :
    validateListWorkspaceArtifactsAction (listOne .active) = .ok () ∧
      ¬ ArtifactsListed (listOne .active) crowdedStore := by
  refine ⟨rfl, ?_⟩
  rw [artifactsListed_iff rfl]
  decide

end GovernedActions
end BlueLagoon
