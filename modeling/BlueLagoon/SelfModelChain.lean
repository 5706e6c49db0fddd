import BlueLagoon.Interleaving.Undisturbed
import BlueLagoon.SelfModel

/-!
# The chain of self-model artifacts

The processes read the active artifact, and write its successor later. As long as nobody
writes an artifact between the two, there is at most one active artifact and it carries
every observation that was merged.
-/

namespace BlueLagoon

open Interleaving Harness

namespace SelfModel

/-! ## What the writes do to the rows -/

/-- The artifact carries the observation. -/
def Carries (content : String) (artifact : SelfModelArtifactRecord) : Prop :=
  content ∈ artifact.preferences ∨ content ∈ artifact.currentSubgoals

/-- At most one artifact is active, and no two share their identifier. -/
structure SingleActive (rows : List SelfModelArtifactRecord) : Prop where
  ids : (rows.map SelfModelArtifactRecord.selfModelArtifactId).Nodup
  single : ∀ a ∈ rows, ∀ b ∈ rows, a.status = .active → b.status = .active → a = b

section Rows

variable {rows : List SelfModelArtifactRecord} {new old : SelfModelArtifactRecord}

theorem SingleActive.nil : SingleActive [] where
  ids := List.nodup_nil
  single := by simp

private theorem ids_append
    (hids : (rows.map SelfModelArtifactRecord.selfModelArtifactId).Nodup)
    (fresh : ∀ a ∈ rows, a.selfModelArtifactId ≠ new.selfModelArtifactId) :
    ((rows ++ [new]).map SelfModelArtifactRecord.selfModelArtifactId).Nodup := by
  rw [List.map_append, List.nodup_append]
  refine ⟨hids, List.nodup_singleton _, ?_⟩
  intro id hid id' hid'
  obtain ⟨a, ha, rfl⟩ := List.mem_map.mp hid
  obtain rfl : id' = new.selfModelArtifactId := by simpa using hid'
  exact fresh a ha

/-- The first active artifact. -/
theorem SingleActive.bootstrap (h : SingleActive rows)
    (fresh : ∀ a ∈ rows, a.selfModelArtifactId ≠ new.selfModelArtifactId)
    (hnone : ∀ a ∈ rows, a.status ≠ .active) : SingleActive (rows ++ [new]) where
  ids := ids_append h.ids fresh
  single := by
    have honly : ∀ a ∈ rows ++ [new], a.status = .active → a = new := by
      intro a ha hactive
      rcases List.mem_append.mp ha with hold | hlast
      · exact absurd hactive (hnone a hold)
      · exact List.mem_singleton.mp hlast
    intro a ha b hb hactive hactive'
    rw [honly a ha hactive, honly b hb hactive']

/-- The rows after an artifact got its successor. -/
abbrev succeeded (rows : List SelfModelArtifactRecord) (old new : SelfModelArtifactRecord)
    (supersededAt : DateTime) : List SelfModelArtifactRecord :=
  Table.update (fun row => row.selfModelArtifactId = old.selfModelArtifactId)
    (Continuity.selfModelArtifactSuperseded new.selfModelArtifactId supersededAt) (rows ++ [new])

/-- The successor of the active artifact is the only one that is active. -/
theorem eq_new_of_active (h : SingleActive rows) (hold : old ∈ rows) (hactive : old.status = .active)
    {supersededAt : DateTime} {a : SelfModelArtifactRecord}
    (ha : a ∈ succeeded rows old new supersededAt) (hstatus : a.status = .active) : a = new := by
  rcases Table.mem_update.mp ha with ⟨hmem, hother⟩ | ⟨a, -, -, rfl⟩
  · have hother : a.selfModelArtifactId ≠ old.selfModelArtifactId := by simpa using hother
    rcases List.mem_append.mp hmem with hrow | hlast
    · exact absurd (by rw [h.single a hrow old hold hstatus hactive]) hother
    · exact List.mem_singleton.mp hlast
  · cases hstatus

theorem SingleActive.succeed (h : SingleActive rows)
    (fresh : ∀ a ∈ rows, a.selfModelArtifactId ≠ new.selfModelArtifactId) (hold : old ∈ rows)
    (hactive : old.status = .active) (supersededAt : DateTime) :
    SingleActive (succeeded rows old new supersededAt) where
  ids := by
    have hkey : ∀ row, (Continuity.selfModelArtifactSuperseded new.selfModelArtifactId supersededAt
        row).selfModelArtifactId = row.selfModelArtifactId := fun _ => rfl
    rw [Table.map_key_update hkey]
    exact ids_append h.ids fresh
  single := by
    intro a ha b hb ha' hb'
    rw [eq_new_of_active h hold hactive ha ha', eq_new_of_active h hold hactive hb hb']

/-- The successor is there. -/
theorem new_mem_succeeded (fresh : ∀ a ∈ rows, a.selfModelArtifactId ≠ new.selfModelArtifactId)
    (hold : old ∈ rows) (supersededAt : DateTime) :
    new ∈ succeeded rows old new supersededAt := by
  refine Table.mem_update.mpr (Or.inl ⟨by simp, ?_⟩)
  simpa using (fresh old hold).symm

end Rows

/-! ## The statements -/

/-- The row as it is stored. -/
def stamped (now : DateTime) (row : SelfModelArtifactRecord) : SelfModelArtifactRecord :=
  { row with createdAt := now }

section Statements

variable {row : SelfModelArtifactRecord} {db db' : Database} {now : DateTime}

theorem insertSelfModelArtifact_eq_ok
    (h : Continuity.insertSelfModelArtifact row now db = .ok db') :
    (∀ a ∈ db.selfModelArtifacts,
        a.selfModelArtifactId ≠ (stamped now row).selfModelArtifactId) ∧
      db'.selfModelArtifacts = db.selfModelArtifacts ++ [stamped now row] := by
  rw [Continuity.insertSelfModelArtifact, Continuity.guarded_eq_ok] at h
  obtain ⟨hviolation, rfl⟩ := h
  refine ⟨?_, rfl⟩
  rw [Database.selfModelArtifactViolation, Database.firstBroken_eq_none] at hviolation
  simpa [stamped] using hviolation (db.selfModelArtifacts.all fun other =>
    other.selfModelArtifactId ≠ row.selfModelArtifactId, "self_model_artifacts_pkey") (by simp)

/-- The transaction of a merge that supersedes a stored artifact. -/
theorem writeArtifact_eq_ok {proposalId : Uuid} {supersededAt : DateTime}
    {old : SelfModelArtifactRecord} (hprev : row.supersedesArtifactId = some old.selfModelArtifactId)
    (h : writeArtifact row proposalId supersededAt now db = .ok db') :
    (∀ a ∈ db.selfModelArtifacts,
        a.selfModelArtifactId ≠ (stamped now row).selfModelArtifactId) ∧
      db'.selfModelArtifacts =
        succeeded db.selfModelArtifacts old (stamped now row) supersededAt := by
  unfold writeArtifact at h
  rw [hprev] at h
  simp only [bind, Except.bind] at h
  split at h
  · cases h
  rename_i inserted hinserted
  obtain ⟨hfresh, hrows⟩ := insertSelfModelArtifact_eq_ok hinserted
  refine ⟨hfresh, ?_⟩
  split at h
  · cases h
  rename_i replaced hreplaced
  rw [Continuity.markSelfModelArtifactSuperseded, Continuity.guarded_eq_ok] at hreplaced
  obtain ⟨-, rfl⟩ := hreplaced
  obtain rfl := Except.ok.inj h
  rw [succeeded, ← hrows]
  rfl

end Statements

/-! ## The discipline -/

/-- A list observes the artifacts, and so does one's own write. -/
def footprint : Footprint system where
  Part := Unit
  Observes event _ := event = .selfModelScanned ∨ ∃ id content, event = .selfModelWritten id content
  Writes event _ := ∃ id content, event = .selfModelWritten id content

def view (_ : Unit) (w : World) : List SelfModelArtifactRecord := w.db.selfModelArtifacts

section Discipline

variable {ι : Type}

/-- One artifact is active at most, and it carries what was merged. -/
structure ChainInvariant (v : Shared system ι) : Prop where
  active : SingleActive v.state.db.selfModelArtifacts
  remembered : ∀ i id content, (i, .selfModelWritten id (some content)) ∈ v.log →
    ∃ a ∈ v.state.db.selfModelArtifacts, a.status = .active ∧ Carries content a

/-- The protocol of the processes that load and merge. -/
abbrev writers (answers : Answers system) : Protocol system ι :=
  footprint.protocol view answers ChainInvariant

/-- An action that does not touch the self-model. -/
abbrev Elsewhere : World → World → List Event → Prop :=
  OnDb fun db db' events => db'.selfModelArtifacts = db.selfModelArtifacts ∧ events = []

private theorem elsewhere_refl (db : Database) :
    db.selfModelArtifacts = db.selfModelArtifacts ∧ ([] : List Event) = [] :=
  ⟨rfl, rfl⟩

theorem requireSelfModelConfig_elsewhere : requireSelfModelConfig.Confined Elsewhere :=
  fun answer => Prog.confined_ofExcept (S := system) answer

theorem loadSeedSelfModelSnapshot_elsewhere : loadSeedSelfModelSnapshot.Confined Elsewhere := by
  refine Prog.Confined.bind requireSelfModelConfig_elsewhere fun seedPath => ?_
  refine Prog.Confined.bind (fun answer => Prog.confined_ofExcept (S := system) answer)
    fun snapshot => ?_
  exact Prog.Confined.bind (Prog.confined_ofExcept _) fun _ => Prog.confined_ret _

theorem rejectMerge_elsewhere (proposalId : Uuid) (reason : String) :
    (Continuity.rejectMerge proposalId reason).Confined Elsewhere := by
  refine Prog.Confined.bind (confined_execute elsewhere_refl ?_) fun _ => Prog.confined_ret _
  intro now db effect hbody
  obtain rfl := Except.ok.inj hbody
  exact ⟨rfl, rfl⟩

variable {answers : Answers system} {i : ι} {v w : Shared system ι}

theorem wp_elsewhere {α : Type} {p : Harness α} (hp : p.Confined Elsewhere)
    (v : Shared system ι) :
    (writers answers).wp i p (fun _ w => footprint.Unseen view i v w) v := by
  refine Footprint.wp_of_quiet hp ?_ ?_ v
  · rintro s s' events ⟨⟨hrows, rfl⟩, -⟩
    exact ⟨rfl, fun _ => hrows⟩
  · rintro w s ⟨hactive, hremembered⟩ ⟨⟨hrows, -⟩, -⟩
    constructor
    · rw [Shared.push_state, hrows]
      exact hactive
    · intro j id content hmem
      rw [Shared.push_state, hrows]
      exact hremembered j id content (by simpa using hmem)

/-- The artifact with the identifier is active, and stores the snapshot. -/
def CurrentIs (v : Shared system ι) (snapshot : SelfModelSnapshot) (id : Uuid) : Prop :=
  ∃ a ∈ v.state.db.selfModelArtifacts,
    a.selfModelArtifactId = id ∧ a.status = .active ∧ stored a = snapshot

/-- What a thread knows of the self-model it has read. -/
def Knows (i : ι) (w : Shared system ι) (snapshot : SelfModelSnapshot) (id : Option Uuid) : Prop :=
  ∃ u current, id = some current ∧ footprint.Unseen view i u w ∧ CurrentIs u snapshot current

theorem Knows.mono {snapshot : SelfModelSnapshot} {id : Option Uuid} (h : Knows i v snapshot id)
    (hseen : footprint.Unseen view i v w) : Knows i w snapshot id := by
  obtain ⟨u, current, hid, hu, hcurrent⟩ := h
  exact ⟨u, current, hid, hu.trans hseen, hcurrent⟩

theorem stored_of_snapshot {artifact : SelfModelArtifactRecord} {snapshot : SelfModelSnapshot}
    (h : snapshotFromCanonicalArtifact artifact = .ok snapshot) : stored artifact = snapshot := by
  unfold snapshotFromCanonicalArtifact at h
  simp only [bind, Except.bind] at h
  split at h
  · cases h
  · exact Except.ok.inj h

/-- The rows a list of at most two returns, when it returns one or none. -/
theorem mem_of_listed {activeArtifacts : List SelfModelArtifactRecord} {db : Database}
    (hlisted : activeArtifacts =
      ((Continuity.activeSelfModels db).insertionSort Continuity.newerSelfModel).take 2) :
    (∀ a ∈ activeArtifacts, a ∈ db.selfModelArtifacts ∧ a.status = .active) ∧
      (activeArtifacts = [] → ∀ a ∈ db.selfModelArtifacts, a.status ≠ .active) := by
  constructor
  · intro a ha
    rw [hlisted] at ha
    have hsorted := List.mem_of_mem_take ha
    rw [List.mem_insertionSort, Continuity.activeSelfModels, List.mem_filter] at hsorted
    simpa using hsorted
  · intro hnil a ha hactive
    rw [hnil, eq_comm, List.take_eq_nil_iff] at hlisted
    have hempty : (Continuity.activeSelfModels db).insertionSort Continuity.newerSelfModel = [] := by
      rcases hlisted with htwo | hempty
      · cases htwo
      · exact hempty
    have hmem : a ∈ (Continuity.activeSelfModels db).insertionSort Continuity.newerSelfModel := by
      rw [List.mem_insertionSort, Continuity.activeSelfModels, List.mem_filter]
      simpa using ⟨ha, hactive⟩
    rw [hempty] at hmem
    cases hmem

/-- After a list: its result is what the state holds. -/
theorem wp_listActiveSelfModelArtifacts :
    (writers answers).wp i (Continuity.listActiveSelfModelArtifacts 2)
      (fun r w => ∀ activeArtifacts, r = .ok activeArtifacts → activeArtifacts =
        ((Continuity.activeSelfModels w.state.db).insertionSort
          Continuity.newerSelfModel).take 2) v := by
  refine wp_transaction ?_ ?_
  · intro w now effect hinv hseen hbody
    obtain rfl := Except.ok.inj hbody
    refine ⟨Footprint.allows fun horderly => ⟨?_, fun _ _ => rfl⟩, ?_⟩
    · obtain ⟨hactive, hremembered⟩ := hinv horderly.of_append
      refine ⟨hactive, fun j id content hmem => ?_⟩
      rcases Shared.mem_push_log.mp hmem with hlogged | ⟨-, hnew⟩
      · exact hremembered j id content hlogged
      · simp at hnew
    · rintro activeArtifacts hr
      exact (Except.ok.inj hr).symm
  · rintro w e hseen activeArtifacts ⟨⟩

/-- What a selection among listed artifacts says. -/
theorem selectSingleActiveArtifact_eq_ok {activeArtifacts : List SelfModelArtifactRecord}
    {active : Option SelfModelArtifactRecord}
    (h : selectSingleActiveArtifact activeArtifacts = .ok active) :
    activeArtifacts = active.toList := by
  rcases activeArtifacts with _ | ⟨artifact, _ | ⟨other, rest⟩⟩
  · rw [← Except.ok.inj h]
    rfl
  · rw [← Except.ok.inj h]
    rfl
  · cases h

theorem selectSingleActiveArtifact_ok {activeArtifacts : List SelfModelArtifactRecord}
    (h : activeArtifacts.length ≤ 1) :
    ∃ active, selectSingleActiveArtifact activeArtifacts = .ok active := by
  rcases activeArtifacts with _ | ⟨artifact, _ | ⟨other, rest⟩⟩
  · exact ⟨none, rfl⟩
  · exact ⟨some artifact, rfl⟩
  · simp at h

/-- Rows without a repetition of which any two are the same are at most one. -/
theorem length_le_one_of_single {rows : List SelfModelArtifactRecord} (hnodup : rows.Nodup)
    (h : ∀ a ∈ rows, ∀ b ∈ rows, a = b) : rows.length ≤ 1 := by
  rcases rows with _ | ⟨a, _ | ⟨b, rest⟩⟩
  · exact Nat.zero_le 1
  · exact Nat.le_refl 1
  · have hab : a = b := h a List.mem_cons_self b (List.mem_cons_of_mem _ List.mem_cons_self)
    rw [hab] at hnodup
    exact absurd List.mem_cons_self (List.nodup_cons.mp hnodup).1

/-- The bootstrap of a store in which no artifact is active. -/
theorem wp_bootstrap {loadContext : SelfModelLoadContext} {seedPath : String}
    (hnone : ∀ a ∈ v.state.db.selfModelArtifacts, a.status ≠ .active) :
    (writers answers).wp i (bootstrap loadContext seedPath)
      (fun r w => ∀ loaded, r = .ok loaded → Knows i w loaded.snapshot loaded.canonicalArtifactId)
      v := by
  refine Protocol.wp_seq (wp_elsewhere loadSeedSelfModelSnapshot_elsewhere v)
    (fun snapshot w₁ h₁ => ?_) (fun e w _ => by rintro loaded ⟨⟩)
  refine Protocol.wp_seq (wp_elsewhere (confined_newUuid elsewhere_refl) w₁)
    (fun canonicalArtifactId w₂ h₂ => ?_) (fun e w _ => by rintro loaded ⟨⟩)
  refine Protocol.wp_seq (R := fun r w => r = .ok () →
      CurrentIs w snapshot canonicalArtifactId) (wp_transaction ?_ ?_)
    (fun _ w hcurrent => ?_) (fun e w _ => by rintro loaded ⟨⟩)
  · intro w now effect hinv h₃ hbody
    have hseen : footprint.Unseen view i v w := (h₁.trans h₂).trans h₃
    cases hinsert : Continuity.insertSelfModelArtifact (artifactRow canonicalArtifactId none
        loadContext "bootstrap_seed" snapshot none) now w.state.db with
    | error e =>
      rw [hinsert] at hbody
      cases hbody
    | ok db' =>
      rw [hinsert] at hbody
      obtain rfl := Except.ok.inj hbody
      obtain ⟨hfresh, hrows⟩ := insertSelfModelArtifact_eq_ok hinsert
      refine ⟨Footprint.allows fun horderly => ?_, fun _ => ?_⟩
      · have hwrites : footprint.Writes (.selfModelWritten canonicalArtifactId none) () :=
          ⟨_, _, rfl⟩
        have horderly' : footprint.Orderly
            (w.log ++ [(i, .selfModelWritten canonicalArtifactId none)]) := horderly
        have hview : w.state.db.selfModelArtifacts = v.state.db.selfModelArtifacts :=
          hseen.current horderly' hwrites
        have hempty : ∀ a ∈ w.state.db.selfModelArtifacts, a.status ≠ .active := by
          rw [hview]
          exact hnone
        obtain ⟨hactive, hremembered⟩ := hinv horderly'.of_append
        refine ⟨⟨?_, ?_⟩, ?_⟩
        · show SingleActive db'.selfModelArtifacts
          rw [hrows]
          exact hactive.bootstrap hfresh hempty
        · intro j id content hmem
          rcases Shared.mem_push_log.mp hmem with hlogged | ⟨-, hnew⟩
          · obtain ⟨a, ha, hstatus, -⟩ := hremembered j id content hlogged
            exact absurd hstatus (hempty a ha)
          · simp at hnew
        · intro _ hquiet
          exact absurd hwrites (hquiet _ (List.mem_singleton.mpr rfl))
      · refine ⟨stamped now (artifactRow canonicalArtifactId none loadContext "bootstrap_seed"
          snapshot none), ?_, rfl, rfl, rfl⟩
        show _ ∈ db'.selfModelArtifacts
        rw [hrows]
        exact List.mem_append_right _ (List.mem_singleton.mpr rfl)
  · rintro w e hseen ⟨⟩
  · rintro loaded hloaded
    obtain rfl := Except.ok.inj hloaded
    exact ⟨w, canonicalArtifactId, rfl, Footprint.Unseen.refl, hcurrent rfl⟩

/-- A loaded snapshot is that of the artifact that was active when it looked; where there is none, the
seed becomes it. -/
theorem wp_loadSelfModelSnapshot {loadContext : SelfModelLoadContext} :
    (writers answers).wp i (loadSelfModelSnapshot loadContext)
      (fun r w => ∀ loaded, r = .ok loaded → Knows i w loaded.snapshot loaded.canonicalArtifactId)
      v := by
  refine Protocol.wp_seq (wp_elsewhere requireSelfModelConfig_elsewhere v)
    (fun seedPath w₁ h₁ => ?_) (fun e w _ => by rintro loaded ⟨⟩)
  refine Protocol.wp_seq wp_listActiveSelfModelArtifacts (fun activeArtifacts w₂ hlisted => ?_)
    (fun e w _ => by rintro loaded ⟨⟩)
  obtain ⟨hstored, hnone⟩ := mem_of_listed (hlisted activeArtifacts rfl)
  cases hselect : selectSingleActiveArtifact activeArtifacts with
  | error e =>
    rintro loaded ⟨⟩
  | ok active =>
    have hactive := selectSingleActiveArtifact_eq_ok hselect
    cases active with
    | none => exact wp_bootstrap (hnone hactive)
    | some artifact =>
      obtain ⟨hmem, hstatus⟩ := hstored artifact (by rw [hactive]; exact List.mem_singleton.mpr rfl)
      show (writers answers).wp i
        ((Prog.ofExcept (snapshotFromCanonicalArtifact artifact)).bind _) _ w₂
      cases hsnapshot : snapshotFromCanonicalArtifact artifact with
      | error e => rintro loaded ⟨⟩
      | ok snapshot =>
        rintro loaded hloaded
        obtain rfl := Except.ok.inj hloaded
        exact ⟨w₂, _, rfl, Footprint.Unseen.refl, artifact, hmem, rfl, hstatus,
          stored_of_snapshot hsnapshot⟩

/-- The same of what a merge takes for the current self-model. -/
theorem wp_currentSelfModel {context : ProposalProcessingContext} :
    (writers answers).wp i (currentSelfModel context)
      (fun r w => ∀ current, r = .ok current → Knows i w current.1 current.2) v := by
  refine Protocol.wp_seq wp_listActiveSelfModelArtifacts (fun activeArtifacts w hlisted => ?_)
    (fun e w _ => by rintro current ⟨⟩)
  obtain ⟨hstored, -⟩ := mem_of_listed (hlisted activeArtifacts rfl)
  cases hselect : selectSingleActiveArtifact activeArtifacts with
  | error e => rintro current ⟨⟩
  | ok active =>
    have hactive := selectSingleActiveArtifact_eq_ok hselect
    cases active with
    | none =>
      show (writers answers).wp i
        ((loadSelfModelSnapshot (SelfModel.loadContext context)).bind _) _ w
      refine Protocol.wp_seq wp_loadSelfModelSnapshot (fun loaded w' hloaded => ?_)
        (fun e w' _ => by rintro current ⟨⟩)
      rintro current hcurrent
      obtain rfl := Except.ok.inj hcurrent
      exact hloaded loaded rfl
    | some artifact =>
      obtain ⟨hmem, hstatus⟩ := hstored artifact (by rw [hactive]; exact List.mem_singleton.mpr rfl)
      show (writers answers).wp i
        ((Prog.ofExcept (snapshotFromCanonicalArtifact artifact)).bind _) _ w
      cases hsnapshot : snapshotFromCanonicalArtifact artifact with
      | error e => rintro current ⟨⟩
      | ok snapshot =>
        rintro current hcurrent
        obtain rfl := Except.ok.inj hcurrent
        exact ⟨w, _, rfl, Footprint.Unseen.refl, artifact, hmem, rfl, hstatus,
          stored_of_snapshot hsnapshot⟩

/-! ## A merge -/

/-- A merge adds its observation to what the artifact carried. -/
theorem carries_merged {payload : SelfModelObservationProposal} {snapshot : SelfModelSnapshot}
    {old new : SelfModelArtifactRecord} (hold : stored old = snapshot)
    (hnew : stored new = mergeSelfModelObservation snapshot payload) :
    Carries payload.contentText new ∧ ∀ content, Carries content old → Carries content new := by
  have hpreferences : new.preferences =
      (mergeSelfModelObservation snapshot payload).preferences := by rw [← hnew]; rfl
  have hsubgoals : new.currentSubgoals =
      (mergeSelfModelObservation snapshot payload).currentSubgoals := by rw [← hnew]; rfl
  subst hold
  unfold Carries
  rw [hpreferences, hsubgoals]
  unfold mergeSelfModelObservation
  split
  · refine ⟨Or.inr (by simp), ?_⟩
    rintro content (h | h)
    · exact Or.inl h
    · exact Or.inr (List.mem_append_left _ h)
  · refine ⟨Or.inl (by simp), ?_⟩
    rintro content (h | h)
    · exact Or.inl (List.mem_append_left _ h)
    · exact Or.inr h

/-- The thread's observation has been written. -/
def Recorded (i : ι) (content : String) : Protocol.Post system ι ProposalEvaluation := fun r w =>
  ∀ evaluation, r = .ok evaluation → evaluation.outcome = .accepted →
    ∃ id, (i, .selfModelWritten id (some content)) ∈ w.log

/-- A merge that knows the active artifact writes its successor, with the new observation. -/
theorem wp_mergeIntoStore {context : ProposalProcessingContext} {proposalId : Uuid}
    {payload : SelfModelObservationProposal} {current : SelfModelSnapshot} {id : Option Uuid}
    (hknows : Knows i v current id) :
    (writers answers).wp i (mergeIntoStore context proposalId payload current id)
      (Recorded i payload.contentText) v := by
  refine Protocol.wp_seq (wp_elsewhere (confined_newUuid elsewhere_refl) v)
    (fun nextArtifactId w₁ h₁ => ?_) (fun e w _ => by rintro evaluation ⟨⟩)
  refine Protocol.wp_seq (wp_elsewhere (confined_utcNow elsewhere_refl) w₁)
    (fun supersededAt w₂ h₂ => ?_) (fun e w _ => by rintro evaluation ⟨⟩)
  obtain ⟨u, oldId, rfl, hu, old, hold, rfl, hstatus, hsnapshot⟩ := hknows
  refine Protocol.wp_seq (R := fun r w => r = .ok () →
      (i, .selfModelWritten nextArtifactId (some payload.contentText)) ∈ w.log)
    (wp_inTransaction ?_ ?_) (fun _ w hlogged => ?_) (fun e w _ => by rintro evaluation ⟨⟩)
  · intro w now effect hinv h₃ hbody
    have hseen : footprint.Unseen view i u w := ((hu.trans h₁).trans h₂).trans h₃
    cases hwrite : writeArtifact (artifactRow nextArtifactId (some proposalId)
        (SelfModel.loadContext context) "proposal_merge" (mergeSelfModelObservation current payload)
        (some old.selfModelArtifactId)) proposalId supersededAt now w.state.db with
    | error e =>
      rw [hwrite] at hbody
      cases hbody
    | ok db' =>
      rw [hwrite] at hbody
      obtain rfl := Except.ok.inj hbody
      obtain ⟨hfresh, hrows⟩ := writeArtifact_eq_ok rfl hwrite
      have hstoredNew : stored (stamped now (artifactRow nextArtifactId (some proposalId)
          (SelfModel.loadContext context) "proposal_merge"
          (mergeSelfModelObservation current payload) (some old.selfModelArtifactId))) =
          mergeSelfModelObservation current payload := rfl
      have hcarries := carries_merged hsnapshot hstoredNew
      have hnewStatus : (stamped now (artifactRow nextArtifactId (some proposalId)
          (SelfModel.loadContext context) "proposal_merge"
          (mergeSelfModelObservation current payload)
          (some old.selfModelArtifactId))).status = .active := rfl
      generalize stamped now _ = new at hfresh hrows hcarries hnewStatus
      -- where the writes are orderly, the table is still the one that the merge has read
      refine ⟨Footprint.allows fun horderly => ?_, fun _ => ?_⟩
      · have hwrites : footprint.Writes
            (.selfModelWritten nextArtifactId (some payload.contentText)) () := ⟨_, _, rfl⟩
        have horderly' : footprint.Orderly (w.log ++
            [(i, .selfModelWritten nextArtifactId (some payload.contentText))]) := horderly
        have hview : w.state.db.selfModelArtifacts = u.state.db.selfModelArtifacts :=
          hseen.current horderly' hwrites
        have holdNow : old ∈ w.state.db.selfModelArtifacts := by
          rw [hview]
          exact hold
        obtain ⟨hactive, hremembered⟩ := hinv horderly'.of_append
        refine ⟨⟨?_, ?_⟩, ?_⟩
        · show SingleActive db'.selfModelArtifacts
          rw [hrows]
          exact hactive.succeed hfresh holdNow hstatus supersededAt
        · intro j id content hmem
          refine ⟨new, ?_, hnewStatus, ?_⟩
          · show new ∈ db'.selfModelArtifacts
            rw [hrows]
            exact new_mem_succeeded hfresh holdNow supersededAt
          · -- The observation is the new one, or the superseded artifact carried it.
            rcases Shared.mem_push_log.mp hmem with hlogged | ⟨-, hnew⟩
            · obtain ⟨a, ha, hastatus, hacarries⟩ := hremembered j id content hlogged
              obtain rfl := hactive.single a ha old holdNow hastatus hstatus
              exact hcarries.2 content hacarries
            · obtain ⟨-, hcontent⟩ := Event.selfModelWritten.inj (List.mem_singleton.mp hnew)
              obtain rfl := Option.some.inj hcontent
              exact hcarries.1
        · intro _ hquiet
          exact absurd hwrites (hquiet _ (List.mem_singleton.mpr rfl))
      · exact List.mem_append_right _ (List.mem_singleton.mpr rfl)
  · rintro w e hseen ⟨⟩
  · rintro evaluation hevaluation -
    exact ⟨nextArtifactId, hlogged rfl⟩

theorem returns_rejectMerge_rejected (proposalId : Uuid) (reason : String) :
    (Continuity.rejectMerge proposalId reason).Returns fun evaluation =>
      evaluation.outcome = .rejected := by
  refine Prog.Returns.bind (Prog.Returns.any _) fun _ _ => ?_
  exact rfl

/-- A proposal that is turned down has nothing to record. -/
theorem wp_rejectMerge (proposalId : Uuid) (reason content : String) :
    (writers answers).wp i (Continuity.rejectMerge proposalId reason) (Recorded i content) v := by
  refine Protocol.wp_mono ?_ (Protocol.wp_returns (returns_rejectMerge_rejected _ _)
    (wp_elsewhere (rejectMerge_elsewhere _ _) v))
  rintro r w ⟨hreturned, -⟩ evaluation hr haccepted
  rw [hreturned evaluation hr] at haccepted
  cases haccepted

/-- The observation of a proposal. -/
def observed (proposal : CanonicalProposal) : String :=
  match proposal.payload with
  | .selfModelObservation payload => payload.contentText
  | _ => ""

theorem wp_applySelfModelProposalMerge {context : ProposalProcessingContext}
    {proposal : CanonicalProposal} :
    (writers answers).wp i (applySelfModelProposalMerge context proposal)
      (Recorded i (observed proposal)) v := by
  unfold applySelfModelProposalMerge
  dsimp only
  split
  · exact wp_rejectMerge _ _ _
  split
  · rename_i payload hpayload
    have hobserved : observed proposal = payload.contentText := by rw [observed, hpayload]
    rw [hobserved]
    refine Protocol.wp_seq wp_currentSelfModel (fun current w hknows => ?_)
      (fun e w _ => by rintro evaluation ⟨⟩)
    obtain ⟨snapshot, id⟩ := current
    dsimp only
    split
    · exact wp_rejectMerge _ _ _
    · exact wp_mergeIntoStore (hknows (snapshot, id) rfl)
  · exact wp_rejectMerge _ _ _

/-! ## Pools of loads and merges -/

/-- What a process does with the self-model. -/
inductive SelfModelCall
  | load (loadContext : SelfModelLoadContext)
  | merge (context : ProposalProcessingContext) (proposal : CanonicalProposal)

/-- The evaluation of a merge; a load has none. -/
def SelfModelCall.program : SelfModelCall → Harness (Option ProposalEvaluation)
  | .load loadContext => do
    let _ ← loadSelfModelSnapshot loadContext
    pure none
  | .merge context proposal => do
    let evaluation ← applySelfModelProposalMerge context proposal
    pure (some evaluation)

def start (calls : ι → SelfModelCall) (w : World) :
    Config system fun _ : ι => Option ProposalEvaluation where
  threads i := (calls i).program
  shared := { state := w }

/-- What a call leaves in the log when its merge was accepted. -/
def Settled (i : ι) (call : SelfModelCall) : Protocol.Post system ι (Option ProposalEvaluation) :=
  fun r w => ∀ context proposal evaluation, call = .merge context proposal →
    r = .ok (some evaluation) → evaluation.outcome = .accepted →
      ∃ id, (i, .selfModelWritten id (some (observed proposal))) ∈ w.log

theorem wp_program (call : SelfModelCall) :
    (writers answers).wp i call.program (Settled i call) v := by
  cases call with
  | load loadContext =>
    refine Protocol.wp_seq wp_loadSelfModelSnapshot (fun loaded w _ => ?_) (fun e w _ => ?_)
    · rintro context proposal evaluation ⟨⟩
    · rintro context proposal evaluation ⟨⟩
  | merge context proposal =>
    refine Protocol.wp_seq wp_applySelfModelProposalMerge (fun evaluation w hrecorded => ?_)
      (fun e w _ => by rintro context' proposal' evaluation' _ ⟨⟩)
    rintro context' proposal' evaluation' hcall hr haccepted
    obtain ⟨-, rfl⟩ := SelfModelCall.merge.inj hcall
    obtain rfl := Option.some.inj (Except.ok.inj hr)
    exact hrecorded evaluation rfl haccepted

/-- As long as nobody writes an artifact between what a process read and what it writes, at most
one artifact is active, the selection among the active ones never fails, and the active artifact
carries the observations of any two accepted merges. -/
theorem single_active_of_orderly [DecidableEq ι] (calls : ι → SelfModelCall)
    (answers : Answers system) (w : World) (empty : w.db.selfModelArtifacts = [])
    {c : Config system fun _ : ι => Option ProposalEvaluation}
    (reach : Config.Reachable answers (start calls w) c)
    (orderly : footprint.Orderly c.shared.log) :
    (∀ a ∈ c.shared.state.db.selfModelArtifacts, ∀ b ∈ c.shared.state.db.selfModelArtifacts,
        a.status = .active → b.status = .active → a = b) ∧
      (∃ active, selectSingleActiveArtifact
        (((Continuity.activeSelfModels c.shared.state.db).insertionSort
          Continuity.newerSelfModel).take 2) = .ok active) ∧
      ∀ i j context proposal context' proposal' evaluation evaluation',
        calls i = .merge context proposal → calls j = .merge context' proposal' →
        c.threads i = .ret (some evaluation) → c.threads j = .ret (some evaluation') →
        evaluation.outcome = .accepted → evaluation'.outcome = .accepted →
        ∃ a ∈ c.shared.state.db.selfModelArtifacts, a.status = .active ∧
          Carries (observed proposal) a ∧ Carries (observed proposal') a := by
  have hkept : (writers answers).Kept (fun i => Settled i (calls i)) c := by
    refine Protocol.Kept.reachable (Protocol.kept_of_wp (fun _ => ?_) fun i => ?_) reach
    · constructor
      · show SingleActive w.db.selfModelArtifacts
        rw [empty]
        exact SingleActive.nil
      · rintro i id content ⟨⟩
    · exact wp_program (calls i)
  obtain ⟨⟨hids, hsingle⟩, hremembered⟩ := hkept.1 orderly
  refine ⟨hsingle, ?_, ?_⟩
  · have hmem : ∀ x ∈ Continuity.activeSelfModels c.shared.state.db,
        x ∈ c.shared.state.db.selfModelArtifacts ∧ x.status = .active := by
      intro x hx
      simpa [Continuity.activeSelfModels] using hx
    have hactive : (Continuity.activeSelfModels c.shared.state.db).length ≤ 1 := by
      refine length_le_one_of_single ((List.Nodup.of_map _ hids).filter _) ?_
      intro a ha b hb
      exact hsingle a (hmem a ha).1 b (hmem b hb).1 (hmem a ha).2 (hmem b hb).2
    apply selectSingleActiveArtifact_ok
    rw [List.length_take, List.length_insertionSort]
    omega
  · intro i j context proposal context' proposal' evaluation evaluation' hi hj hri hrj hai haj
    have hwritten : ∀ k context proposal evaluation, calls k = .merge context proposal →
        c.threads k = .ret (some evaluation) → evaluation.outcome = .accepted →
        ∃ a ∈ c.shared.state.db.selfModelArtifacts, a.status = .active ∧
          Carries (observed proposal) a := by
      intro k context proposal evaluation hk hrk hak
      obtain ⟨v, hseen, hsettled⟩ := hkept.finished (r := .ok (some evaluation)) hrk
      obtain ⟨id, hlogged⟩ := hsettled context proposal evaluation hk rfl hak
      have hearlier : v.log <+: c.shared.log := Footprint.Unseen.log_prefix hseen
      exact hremembered k id _ (hearlier.subset hlogged)
    obtain ⟨a, ha, hactive, hcarries⟩ := hwritten i context proposal evaluation hi hri hai
    obtain ⟨b, hb, hactive', hcarries'⟩ := hwritten j context' proposal' evaluation' hj hrj haj
    obtain rfl := hsingle a ha b hb hactive hactive'
    exact ⟨a, ha, hactive, hcarries, hcarries'⟩

end Discipline

/-! ## Two processes at an empty store -/

def selfObservation : CanonicalProposal where
  proposalId := 20
  proposalKind := .selfModelObservation
  canonicalTarget := .selfModelArtifacts
  confidencePct := 90
  conflictPosture := .independent
  subjectRef := "self"
  rationale := none
  validFrom := none
  validTo := none
  supersedesArtifactId := none
  provenance := { provenanceKind := .selfModelReflection, sourceIngressIds := [4], sourceEpisodeId := none }
  payload := .selfModelObservation
    { observationKind := "preference", contentText := "Prefers concise progress updates." }

def selfContext : ProposalProcessingContext where
  traceId := 2
  executionId := 3
  episodeId := none
  sourceIngressId := none
  sourceLoopKind := "unconscious"

/-- The proposal is recorded, and no artifact is stored. -/
def noSelfModel : World where
  db :=
    { executionRecords := [{ executionId := 3, traceId := 2, triggerKind := "t", status := "started" }]
      proposals := [
        { proposalId := 20, traceId := 2, executionId := 3, episodeId := none
          sourceIngressId := none, sourceLoopKind := "unconscious"
          proposalKind := .selfModelObservation, canonicalTarget := .selfModelArtifacts
          status := "accepted", confidence := 90, conflictPosture := .independent
          subjectRef := "self", contentText := "Prefers concise progress updates."
          rationale := none, validFrom := none, validTo := none, supersedesArtifactId := none
          supersedesArtifactKind := none }] }

/-- A merge, and a load. -/
def mergeAndLoad : Bool → SelfModelCall
  | false => .merge selfContext selfObservation
  | true => .load (loadContext selfContext)

/-- The merge from its first list to its transaction. -/
def mergeAlone : List Bool := List.replicate 17 false

/-- Both processes list the active artifacts, then both store the seed. -/
def bothBootstrap : List Bool :=
  List.replicate 5 false ++ List.replicate 3 true ++ List.replicate 6 false ++ List.replicate 6 true

theorem single_active_of_orderly_mergeAlone :
    ∃ c, Config.Reachable (fun _ _ => True) (start mergeAndLoad noSelfModel) c ∧
      (c.shared.state.db.selfModelArtifacts.map SelfModelArtifactRecord.status) =
        [.superseded, .active] ∧
      ∀ a ∈ c.shared.state.db.selfModelArtifacts, ∀ b ∈ c.shared.state.db.selfModelArtifacts,
        a.status = .active → b.status = .active → a = b := by
  have reach : Config.Reachable (fun _ _ => True) (start mergeAndLoad noSelfModel)
      (Config.schedule (steady 5) mergeAlone 0 (start mergeAndLoad noSelfModel)) :=
    Config.reachable_schedule (fun _ _ => trivial) mergeAlone 0 (start mergeAndLoad noSelfModel)
  refine ⟨_, reach, by decide +kernel, ?_⟩
  have hlog : (Config.schedule (steady 5) mergeAlone 0 (start mergeAndLoad noSelfModel)).shared.log =
      [] ++ [(false, .selfModelScanned)] ++ [(false, .selfModelScanned)] ++
        [(false, .selfModelWritten 7 none)] ++
        [(false, .selfModelWritten 11 (some "Prefers concise progress updates."))] := by
    decide +kernel
  refine (single_active_of_orderly _ (fun _ _ => True) noSelfModel rfl reach ?_).1
  rw [hlog]
  refine ⟨(((Footprint.undisturbed_nil.append ?_).append ?_).append ?_).append ?_,
    fun _ _ => trivial⟩
  · rintro _ ⟨id, content, ⟨⟩⟩
  · rintro _ ⟨id, content, ⟨⟩⟩
  · rintro _ -
    exact ⟨[(false, .selfModelScanned)], _, [], rfl, Or.inl rfl, by simp⟩
  · rintro _ -
    exact ⟨[(false, .selfModelScanned), (false, .selfModelScanned)], _, [], rfl,
      Or.inr ⟨_, _, rfl⟩, by simp⟩

/-- Two processes that find no active artifact both store the seed. From then on the selection
among the active artifacts fails. -/
theorem two_active_after_concurrent_bootstrap :
    ∃ c, Config.Reachable (fun _ _ => True) (start mergeAndLoad noSelfModel) c ∧
      noSelfModel.db.selfModelArtifacts = [] ∧
      (c.shared.state.db.selfModelArtifacts.map SelfModelArtifactRecord.status) =
        [.active, .active] ∧
      selectSingleActiveArtifact
        (((Continuity.activeSelfModels c.shared.state.db).insertionSort
          Continuity.newerSelfModel).take 2) =
        .error ["multiple active canonical self-model artifacts found"] := by
  refine ⟨_, Config.reachable_schedule (o := steady 5) (fun _ _ => trivial) bothBootstrap 0
    (start mergeAndLoad noSelfModel), rfl, ?_, ?_⟩
  · decide +kernel
  · decide +kernel

end SelfModel

end BlueLagoon
