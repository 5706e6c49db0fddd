import BlueLagoon.Canonical.Application
import BlueLagoon.Identity.Lifecycle
import BlueLagoon.MemoryStore

/-!
# Decisions and their effects

A candidate is recorded before it is merged, with the outcome of its validation. A merge
that turns it down rewrites the decision (but for one of them), and not the proposal; so
what the tables say agrees with what was done exactly when no merge turns a validated
candidate down.
-/

namespace BlueLagoon

open Interleaving Harness

namespace Proposal

/-! ## What the tables say -/

/-- The recorded decisions. -/
def decisions (db : Database) : List (Uuid × String) :=
  db.mergeDecisions.map fun row => (row.proposalId, row.decisionKind)

/-- The recorded proposals. -/
def statuses (db : Database) : List (Uuid × String) :=
  db.proposals.map fun row => (row.proposalId, row.status)

/-- The canonical rows are the same. -/
structure SameCanonical (db db' : Database) : Prop where
  memoryArtifacts : db'.memoryArtifacts = db.memoryArtifacts
  selfModelArtifacts : db'.selfModelArtifacts = db.selfModelArtifacts
  identityLifecycle : db'.identityLifecycle = db.identityLifecycle
  identityItems : db'.identityItems = db.identityItems
  identityInterviews : db'.identityKickstartInterviews = db.identityKickstartInterviews

/-- The records of proposals and decisions are the same. -/
structure SameRecords (db db' : Database) : Prop where
  statuses : statuses db' = statuses db
  decisions : decisions db' = decisions db

/-- The records of the other proposals are the same. -/
structure OthersKept (proposalId : Uuid) (db db' : Database) : Prop where
  statuses : statuses db' = statuses db
  decisions : ∀ id kind, id ≠ proposalId → ((id, kind) ∈ decisions db' ↔ (id, kind) ∈ decisions db)

section Frames

variable {proposalId : Uuid} {db db' db'' : Database}

theorem SameRecords.refl (db : Database) : SameRecords db db := ⟨rfl, rfl⟩

theorem SameRecords.trans (h : SameRecords db db') (h' : SameRecords db' db'') :
    SameRecords db db'' :=
  ⟨h'.statuses.trans h.statuses, h'.decisions.trans h.decisions⟩

theorem SameRecords.others (h : SameRecords db db') : OthersKept proposalId db db' :=
  ⟨h.statuses, fun id kind _ => by rw [h.decisions]⟩

theorem OthersKept.refl (db : Database) : OthersKept proposalId db db :=
  (SameRecords.refl db).others

theorem OthersKept.trans (h : OthersKept proposalId db db') (h' : OthersKept proposalId db' db'') :
    OthersKept proposalId db db'' :=
  ⟨h'.statuses.trans h.statuses,
    fun id kind hne => (h'.decisions id kind hne).trans (h.decisions id kind hne)⟩

/-- The decision about a proposal is given another kind. -/
theorem OthersKept.changed (change : MergeDecisionRecord → MergeDecisionRecord)
    (hkey : ∀ row, (change row).proposalId = row.proposalId) :
    OthersKept proposalId db (Continuity.changeMergeDecision proposalId change db) := by
  refine ⟨rfl, fun id kind hne => ?_⟩
  constructor
  · intro hmem
    obtain ⟨row, hrow, hpair⟩ := List.mem_map.mp hmem
    rcases Table.mem_update.mp hrow with ⟨hold, -⟩ | ⟨old, -, hw, rfl⟩
    · exact List.mem_map.mpr ⟨row, hold, hpair⟩
    · have hid : old.proposalId = id := (hkey old).symm.trans (congrArg Prod.fst hpair)
      exact absurd (hid.symm.trans (of_decide_eq_true hw)) hne
  · intro hmem
    obtain ⟨row, hrow, hpair⟩ := List.mem_map.mp hmem
    have hid : row.proposalId = id := congrArg Prod.fst hpair
    refine List.mem_map.mpr ⟨row, Table.mem_update.mpr (Or.inl ⟨hrow, ?_⟩), hpair⟩
    exact decide_eq_false fun heq => hne (hid.symm.trans heq)

/-- The decision about a proposal is given its targets. -/
theorem SameRecords.targets (proposalId : Uuid) (memory selfModel : Option Uuid)
    (db : Database) :
    SameRecords db (Continuity.updateMergeDecisionTargets proposalId memory selfModel db) :=
  ⟨rfl, Table.map_key_update fun _ => rfl⟩

end Frames

/-! ## What the merges do to the records -/

section Confined

/-- An action that keeps the records. -/
abbrev KeepsRecords : World → World → List Event → Prop := OnDb fun db db' _ => SameRecords db db'

/-- An action that keeps the records of the other proposals. -/
abbrev KeepsOthers (proposalId : Uuid) : World → World → List Event → Prop :=
  OnDb fun db db' _ => OthersKept proposalId db db'

variable {tables : Text.Tables} {context : ProposalProcessingContext} {proposal : CanonicalProposal}

theorem rejectMerge_others (proposalId : Uuid) (reason : String) :
    (Continuity.rejectMerge proposalId reason).Confined (KeepsOthers proposalId) := by
  refine Prog.Confined.bind (confined_execute OthersKept.refl ?_) fun _ => Prog.confined_ret _
  intro now db effect hbody
  obtain rfl := Except.ok.inj hbody
  exact OthersKept.changed _ fun _ => rfl

/-- A transaction whose writes keep the records. -/
theorem confined_records {α : Type} {body : DateTime → Database → Except ErrorChain (Effect α)}
    (h : ∀ now db effect, body now db = .ok effect → SameRecords db effect.db) :
    (inTransaction body).Confined KeepsRecords :=
  confined_inTransaction SameRecords.refl h

/-! ### Memory -/

theorem insertMemoryArtifact_records {row : MemoryArtifactRecord} {now : DateTime}
    {db db' : Database} (h : Continuity.insertMemoryArtifact row now db = .ok db') :
    SameRecords db db' := by
  rw [Continuity.insertMemoryArtifact, Continuity.guarded_eq_ok] at h
  obtain ⟨-, rfl⟩ := h
  exact ⟨rfl, rfl⟩

theorem markMemoryArtifactSuperseded_records {id successor : Uuid} {supersededAt now : DateTime}
    {db db' : Database}
    (h : Continuity.markMemoryArtifactSuperseded id successor supersededAt now db = .ok db') :
    SameRecords db db' := by
  rw [Continuity.markMemoryArtifactSuperseded, Continuity.guarded_eq_ok] at h
  obtain ⟨-, rfl⟩ := h
  exact ⟨rfl, rfl⟩

theorem memory_writeArtifact_records {row : MemoryArtifactRecord} {target : Option Uuid}
    {supersededAt now : DateTime} {db db' : Database}
    (h : Memory.writeArtifact row target supersededAt now db = .ok db') : SameRecords db db' := by
  unfold Memory.writeArtifact at h
  obtain ⟨inserted, hinsert, h⟩ := except_bind_eq_ok.mp h
  have hinserted := insertMemoryArtifact_records hinsert
  cases target with
  | none =>
    obtain rfl := Except.ok.inj h
    exact hinserted.trans (SameRecords.targets _ _ _ _)
  | some targetArtifactId =>
    obtain ⟨replaced, hreplace, h⟩ := except_bind_eq_ok.mp h
    obtain rfl := Except.ok.inj h
    exact (hinserted.trans (markMemoryArtifactSuperseded_records hreplace)).trans
      (SameRecords.targets _ _ _ _)

theorem memory_mergeIntoStore_records (target : Option Uuid) :
    (Memory.mergeIntoStore context proposal target).Confined KeepsRecords := by
  refine Prog.Confined.bind (confined_newUuid SameRecords.refl) fun memoryArtifactId => ?_
  refine Prog.Confined.bind ?_ fun payload => ?_
  · unfold Memory.memoryPayload
    split
    · exact Prog.confined_ret _
    · exact Prog.confined_fail _
  refine Prog.Confined.bind (confined_utcNow SameRecords.refl) fun supersededAt => ?_
  refine Prog.Confined.bind (confined_records ?_) fun _ => Prog.confined_ret _
  intro now db effect hbody
  obtain ⟨written, hwrite, rfl⟩ := except_map_eq_ok.mp hbody
  exact memory_writeArtifact_records hwrite

/-! ### The self-model -/

theorem insertSelfModelArtifact_records {row : SelfModelArtifactRecord} {now : DateTime}
    {db db' : Database} (h : Continuity.insertSelfModelArtifact row now db = .ok db') :
    SameRecords db db' := by
  rw [Continuity.insertSelfModelArtifact, Continuity.guarded_eq_ok] at h
  obtain ⟨-, rfl⟩ := h
  exact ⟨rfl, rfl⟩

theorem markSelfModelArtifactSuperseded_records {id successor : Uuid} {supersededAt : DateTime}
    {db db' : Database}
    (h : Continuity.markSelfModelArtifactSuperseded id successor supersededAt db = .ok db') :
    SameRecords db db' := by
  rw [Continuity.markSelfModelArtifactSuperseded, Continuity.guarded_eq_ok] at h
  obtain ⟨-, rfl⟩ := h
  exact ⟨rfl, rfl⟩

theorem selfModel_writeArtifact_records {row : SelfModelArtifactRecord} {proposalId : Uuid}
    {supersededAt now : DateTime} {db db' : Database}
    (h : SelfModel.writeArtifact row proposalId supersededAt now db = .ok db') :
    SameRecords db db' := by
  unfold SelfModel.writeArtifact at h
  obtain ⟨inserted, hinsert, h⟩ := except_bind_eq_ok.mp h
  have hinserted := insertSelfModelArtifact_records hinsert
  cases hprevious : row.supersedesArtifactId with
  | none =>
    rw [hprevious] at h
    obtain rfl := Except.ok.inj h
    exact hinserted.trans (SameRecords.targets _ _ _ _)
  | some previousArtifactId =>
    rw [hprevious] at h
    obtain ⟨replaced, hreplace, h⟩ := except_bind_eq_ok.mp h
    obtain rfl := Except.ok.inj h
    exact (hinserted.trans (markSelfModelArtifactSuperseded_records hreplace)).trans
      (SameRecords.targets _ _ _ _)

theorem loadSeedSelfModelSnapshot_records :
    SelfModel.loadSeedSelfModelSnapshot.Confined KeepsRecords := by
  refine Prog.Confined.bind (fun answer => Prog.confined_ofExcept _) fun seedPath => ?_
  refine Prog.Confined.bind (fun answer => Prog.confined_ofExcept _) fun snapshot => ?_
  exact Prog.Confined.bind (Prog.confined_ofExcept _) fun _ => Prog.confined_ret _

theorem listActiveSelfModelArtifacts_records (limit : Nat) :
    (Continuity.listActiveSelfModelArtifacts limit).Confined KeepsRecords := by
  refine confined_transaction SameRecords.refl fun now db effect hbody => ?_
  obtain rfl := Except.ok.inj hbody
  exact SameRecords.refl db

theorem loadSelfModelSnapshot_records (loadContext : SelfModelLoadContext) :
    (SelfModel.loadSelfModelSnapshot loadContext).Confined KeepsRecords := by
  refine Prog.Confined.bind (fun answer => Prog.confined_ofExcept _) fun seedPath => ?_
  refine Prog.Confined.bind (listActiveSelfModelArtifacts_records 2) fun activeArtifacts => ?_
  refine Prog.Confined.bind (Prog.confined_ofExcept _) fun active => ?_
  cases active with
  | some activeArtifact =>
    exact Prog.Confined.bind (Prog.confined_ofExcept _) fun _ => Prog.confined_ret _
  | none =>
    refine Prog.Confined.bind loadSeedSelfModelSnapshot_records fun snapshot => ?_
    refine Prog.Confined.bind (confined_newUuid SameRecords.refl) fun canonicalArtifactId => ?_
    refine Prog.Confined.bind (confined_transaction SameRecords.refl ?_) fun _ =>
      Prog.confined_ret _
    intro now db effect hbody
    obtain ⟨inserted, hinsert, rfl⟩ := except_map_eq_ok.mp hbody
    exact insertSelfModelArtifact_records hinsert

theorem currentSelfModel_records :
    (SelfModel.currentSelfModel context).Confined KeepsRecords := by
  refine Prog.Confined.bind (listActiveSelfModelArtifacts_records 2) fun activeArtifacts => ?_
  refine Prog.Confined.bind (Prog.confined_ofExcept _) fun active => ?_
  cases active with
  | some artifact =>
    exact Prog.Confined.bind (Prog.confined_ofExcept _) fun _ => Prog.confined_ret _
  | none =>
    exact Prog.Confined.bind (loadSelfModelSnapshot_records _) fun _ => Prog.confined_ret _

theorem selfModel_mergeIntoStore_records {payload : SelfModelObservationProposal}
    {current : SelfModelSnapshot} {supersededArtifactId : Option Uuid} (proposalId : Uuid) :
    (SelfModel.mergeIntoStore context proposalId payload current
      supersededArtifactId).Confined KeepsRecords := by
  refine Prog.Confined.bind (confined_newUuid SameRecords.refl) fun nextArtifactId => ?_
  refine Prog.Confined.bind (confined_utcNow SameRecords.refl) fun supersededAt => ?_
  refine Prog.Confined.bind (confined_records ?_) fun _ => Prog.confined_ret _
  intro now db effect hbody
  obtain ⟨written, hwrite, rfl⟩ := except_map_eq_ok.mp hbody
  exact selfModel_writeArtifact_records hwrite

/-! ### The identity -/

theorem insertIdentityItem_records {row : IdentityItemRecord} {now : DateTime} {db db' : Database}
    (h : Identity.insertIdentityItem row now db = .ok db') : SameRecords db db' := by
  rw [(Identity.insertIdentityItem_eq_ok h).1]
  exact ⟨rfl, rfl⟩

theorem insertItems_records {rows : List IdentityItemRecord} {now : DateTime} {db db' : Database}
    (h : Identity.insertItems rows now db = .ok db') : SameRecords db db' := by
  induction rows generalizing db with
  | nil =>
    obtain rfl := Except.ok.inj h
    exact SameRecords.refl db
  | cons row rows ih =>
    obtain ⟨inserted, hinsert, hrest⟩ := except_bind_eq_ok.mp h
    exact (insertIdentityItem_records hinsert).trans (ih hrest)

theorem recordLifecycleTransition_records {row : IdentityLifecycleRecord} {now : DateTime}
    {db db' : Database} (h : Identity.recordLifecycleTransition row now db = .ok db') :
    SameRecords db db' := by
  rw [Identity.recordLifecycleTransition_eq_ok h]
  exact ⟨rfl, rfl⟩

theorem insertIdentityInterview_records {row : IdentityInterviewRecord} {now : DateTime}
    {db db' : Database} (h : Identity.insertIdentityInterview row now db = .ok db') :
    SameRecords db db' := by
  obtain ⟨-, rfl⟩ := Identity.checked_eq_ok.mp h
  exact ⟨rfl, rfl⟩

theorem applyDeltas_records {now : DateTime} {db db' : Database} {payload : IdentityDeltaProposal}
    {itemIds outcome : List Uuid} {selfDescriptionId : Uuid}
    (h : Identity.applyDeltas tables context proposal payload itemIds selfDescriptionId now db =
      .ok (.ok outcome, db')) : SameRecords db db' := by
  obtain ⟨itemsLeft, between, hitems, hself⟩ := Identity.applyDeltas_eq_ok h
  have hbetween : SameRecords db between := by
    refine Identity.applyItemDeltas_keep (J := SameRecords db) ?_ (SameRecords.refl db) hitems
    intro delta identityItemId itemId db₁ db₂ hdb hdelta
    obtain ⟨-, write, -, hrun⟩ := Identity.applyIdentityItemDelta_accepted hdelta
    rw [(Identity.ItemWrite.run_eq_ok hrun).1]
    exact hdb.trans ⟨rfl, rfl⟩
  rcases hself with ⟨-, rfl⟩ | ⟨delta, itemId, -, happly⟩
  · exact hbetween
  · obtain ⟨write, -, hrun⟩ := Identity.applySelfDescriptionDelta_accepted happly
    rw [(Identity.ItemWrite.run_eq_ok hrun).1]
    exact hbetween.trans ⟨rfl, rfl⟩

theorem mergeDeltas_records {payload : IdentityDeltaProposal}
    {current : Option IdentityLifecycleRecord} {itemIds : List Uuid}
    {selfDescriptionId lifecycleId : Uuid} {completedAt now : DateTime} {db : Database}
    {effect : Effect Identity.DeltasOutcome}
    (h : Identity.mergeDeltas tables context proposal payload current itemIds selfDescriptionId
      lifecycleId completedAt now db = .ok effect) : SameRecords db effect.db := by
  unfold Identity.mergeDeltas at h
  split at h
  · cases h
  · obtain rfl := Except.ok.inj h
    exact SameRecords.refl db
  · rename_i itemsLeft applied happlied
    obtain ⟨recorded, hrecord, rfl⟩ := except_map_eq_ok.mp h
    have hrecorded : SameRecords applied recorded := by
      unfold Identity.recordMergedLifecycle at hrecord
      split at hrecord
      · exact recordLifecycleTransition_records hrecord
      · obtain rfl := Except.ok.inj hrecord
        exact SameRecords.refl _
    exact ((applyDeltas_records happlied).trans hrecorded).trans (SameRecords.targets _ _ _ _)

theorem getCurrentLifecycle_records : Identity.getCurrentLifecycle.Confined KeepsRecords := by
  refine confined_records fun now db effect hbody => ?_
  obtain rfl := Except.ok.inj hbody
  exact SameRecords.refl db

theorem startCustomInterview_records (payload : IdentityDeltaProposal) :
    (Identity.startCustomInterview proposal payload).Confined KeepsRecords := by
  refine Prog.Confined.bind (confined_newUuid SameRecords.refl) fun interviewId => ?_
  refine Prog.Confined.bind (confined_newUuid SameRecords.refl) fun lifecycleId => ?_
  refine Prog.Confined.bind (confined_utcNow SameRecords.refl) fun startedAt => ?_
  refine Prog.Confined.bind (confined_records ?_) fun _ => Prog.confined_ret _
  intro now db effect hbody
  obtain ⟨started, hstart, rfl⟩ := except_map_eq_ok.mp hbody
  unfold Identity.startInterview at hstart
  obtain ⟨inserted, hinsert, hrecord⟩ := except_bind_eq_ok.mp hstart
  exact (insertIdentityInterview_records hinsert).trans (recordLifecycleTransition_records hrecord)

theorem takeAnswer_records (interview : IdentityInterviewRecord) (answer : String × String) :
    (Identity.takeAnswer context proposal interview answer).Confined KeepsRecords := by
  unfold Identity.takeAnswer
  dsimp only
  split
  · refine Prog.Confined.bind (confined_records ?_) fun _ => Prog.confined_ret _
    intro now db effect hbody
    obtain rfl := Except.ok.inj hbody
    exact ⟨rfl, rfl⟩
  · generalize Identity.customIdentityFields.length = count
    refine Prog.Confined.bind (confined_newUuids SameRecords.refl _) fun itemIds => ?_
    refine Prog.Confined.bind (confined_newUuid SameRecords.refl) fun selfDescriptionItemId => ?_
    refine Prog.Confined.bind (confined_newUuid SameRecords.refl) fun lifecycleId => ?_
    refine Prog.Confined.bind (confined_utcNow SameRecords.refl) fun completedAt => ?_
    refine Prog.Confined.bind (confined_records ?_) fun _ => Prog.confined_ret _
    intro now db effect hbody
    obtain ⟨written, hwrite, rfl⟩ := except_map_eq_ok.mp hbody
    unfold Identity.completeInterview at hwrite
    obtain ⟨inserted, hinsert, hrecord⟩ := except_bind_eq_ok.mp hwrite
    have hupdated : SameRecords db (Identity.updateIdentityInterviewState
        interview.identityInterviewId .completed "completed"
        (Identity.insertField interview.answeredFields answer.1 answer.2) now db) :=
      ⟨rfl, rfl⟩
    exact (hupdated.trans (insertItems_records hinsert)).trans
      (recordLifecycleTransition_records hrecord)

theorem cancelCustomInterview_records (reason : Option String) :
    (Identity.cancelCustomInterview proposal reason).Confined KeepsRecords := by
  refine Prog.Confined.bind getCurrentLifecycle_records fun lifecycle => ?_
  cases lifecycle with
  | none => exact Prog.confined_ret _
  | some lifecycle =>
    refine Prog.Confined.bind ?_ fun _ => ?_
    · cases lifecycle.activeInterviewId with
      | none => exact Prog.confined_ret _
      | some interviewId =>
        refine confined_records fun now db effect hbody => ?_
        obtain rfl := Except.ok.inj hbody
        exact ⟨rfl, rfl⟩
    refine Prog.Confined.bind (confined_newUuid SameRecords.refl) fun lifecycleId => ?_
    refine Prog.Confined.bind (confined_records ?_) fun _ => Prog.confined_ret _
    intro now db effect hbody
    obtain ⟨recorded, hrecord, rfl⟩ := except_map_eq_ok.mp hbody
    exact recordLifecycleTransition_records hrecord

/-- A merge whose deltas are turned down notes the reason. -/
theorem settleDeltas_others (reason : String) :
    (Identity.settleDeltas context proposal (.error reason)).Confined
      (KeepsOthers proposal.proposalId) := by
  refine Prog.Confined.bind ?_ fun _ => rejectMerge_others _ _
  refine Prog.Confined.bind (confined_newUuid OthersKept.refl) fun identityDiagnosticId => ?_
  refine confined_inTransaction OthersKept.refl fun now db effect hbody => ?_
  obtain ⟨inserted, hinsert, rfl⟩ := except_map_eq_ok.mp hbody
  obtain ⟨-, rfl⟩ := Identity.checked_eq_ok.mp hinsert
  exact SameRecords.others ⟨rfl, rfl⟩

end Confined

/-! ## When a merge turns a candidate down -/

section TurnedDown

variable (tables : Text.Tables) (context : ProposalProcessingContext) (proposal : CanonicalProposal)

/-- An item delta is rejected by the controls, or the item it is about is gone. -/
def DeltaTurnedDown (delta : IdentityItemDelta) (db : Database) : Prop :=
  (Identity.identityDeltaControlRejection tables delta db).isSome ∨
    delta.operation ≠ .add ∧ Identity.resolveIdentityDeltaTarget delta db = none

/-- One of the item deltas is turned down, in the store that those before it leave. -/
inductive ItemTurnedDown (now : DateTime) : List (IdentityItemDelta × Uuid) → Database → Prop
  | here {delta identityItemId rest db} (turnedDown : DeltaTurnedDown tables delta db) :
    ItemTurnedDown now ((delta, identityItemId) :: rest) db
  | later {delta identityItemId itemId rest db between}
    (applied : Identity.applyIdentityItemDelta tables context proposal delta identityItemId now db =
      .ok (.accepted itemId, between))
    (turnedDown : ItemTurnedDown now rest between) :
    ItemTurnedDown now ((delta, identityItemId) :: rest) db

/-- A delta of the self-description has nothing to change. -/
def SelfDescriptionTurnedDown (delta : SelfDescriptionDelta) (db : Database) : Prop :=
  delta.operation ≠ .add ∧ Identity.selfDescriptionTarget db = none

/-- One of the deltas of a proposal is turned down, in the store that those before it leave. -/
inductive DeltasTurnedDown (payload : IdentityDeltaProposal) (itemIds : List Uuid)
    (now : DateTime) (db : Database) : Prop
  | item (turnedDown : ItemTurnedDown tables context proposal now
      (payload.itemDeltas.zip itemIds) db)
  | selfDescription {delta left between} (given : payload.selfDescriptionDelta = some delta)
    (applied : Identity.applyItemDeltas tables context proposal now
      (payload.itemDeltas.zip itemIds) db = .ok (.ok left, between))
    (turnedDown : SelfDescriptionTurnedDown delta between)

/-- The interview of the current lifecycle is in progress and expects this answer. -/
def AnswerExpected (answer : IdentityInterviewAnswer) (db : Database) : Prop :=
  ∃ lifecycle interviewId interview, Identity.currentLifecycle db = some lifecycle ∧
    lifecycle.activeInterviewId = some interviewId ∧
    Table.find IdentityInterviewRecord.identityInterviewId interviewId
      db.identityKickstartInterviews = some interview ∧
    interview.status = .inProgress ∧ answer.stepKey = interview.currentStep

/-- What the surroundings hand to the merge of deltas. -/
structure Drawn where
  itemIds : List Uuid
  now : DateTime

/-- The questions of the merge of deltas, up to its transaction. -/
def draw (payload : IdentityDeltaProposal) : Harness Drawn := do
  let _ ← Identity.getCurrentLifecycle
  let itemIds ← newUuids payload.itemDeltas.length
  let _ ← newUuid
  let _ ← newUuid
  let _ ← utcNow
  inTransaction fun now db => .ok { value := { itemIds := itemIds, now := now }, db := db }

/-- The merge of a validated candidate turns it down: the state it finds, and what the
surroundings hand to it from question `n` on, leave nothing else. -/
inductive TurnedDown (o : Oracle system) (n : Nat) (w : World) : Prop
  | memory {reason} (kind : proposal.proposalKind = .memoryArtifact)
    (planned : Memory.planMemoryMerge proposal
      (Continuity.newestMemory proposal.subjectRef Memory.activeMemoryScanLimit w.db) =
        .reject reason)
  | selfModel {payload current artifactId}
    (observed : proposal.payload = .selfModelObservation payload)
    (read : ((SelfModel.currentSelfModel context).run o n w).result = .ok (current, artifactId))
    (known : payload.contentText ∈ current.preferences)
  | template {payload templateKey} (given : proposal.payload = .identityDelta payload)
    (action : payload.interviewAction = some (.selectPredefinedTemplate templateKey))
  | answer {payload answer} (given : proposal.payload = .identityDelta payload)
    (action : payload.interviewAction = some (.answerCustomInterview answer))
    (unexpected : ¬ AnswerExpected answer w.db)
  | deltas {payload drawn} (given : proposal.payload = .identityDelta payload)
    (action : payload.interviewAction = none) (read : ((draw payload).run o n w).result = .ok drawn)
    (turnedDown : DeltasTurnedDown tables context proposal payload drawn.itemIds drawn.now w.db)

end TurnedDown

/-! ### Deltas -/

section Deltas

variable {tables : Text.Tables} {context : ProposalProcessingContext} {proposal : CanonicalProposal}
  {now : DateTime} {db db' : Database}

/-- A delta is turned down for want of its write. -/
theorem applyWrite_rejected {missing : String} {write : Option (Identity.ItemWrite × Uuid)}
    {outcome : Identity.IdentityDeltaMergeOutcome}
    (h : Identity.applyWrite missing write now db = .ok (outcome, db')) :
    (∃ reason, outcome = .rejected reason) ↔ write = none := by
  cases write with
  | none =>
    obtain ⟨rfl, -⟩ := Prod.mk.inj (Except.ok.inj h)
    exact iff_of_true ⟨missing, rfl⟩ rfl
  | some write =>
    obtain ⟨written, -, hpair⟩ := except_map_eq_ok.mp h
    obtain ⟨rfl, -⟩ := Prod.mk.inj hpair
    refine iff_of_false ?_ (by simp)
    rintro ⟨reason, ⟨⟩⟩

theorem deltaWrite_eq_none {delta : IdentityItemDelta} {identityItemId : Uuid} :
    Identity.deltaWrite context proposal delta identityItemId db = none ↔
      delta.operation ≠ .add ∧ Identity.resolveIdentityDeltaTarget delta db = none := by
  unfold Identity.deltaWrite
  cases delta.operation <;> simp

theorem selfDescriptionWrite_eq_none {delta : SelfDescriptionDelta} {identityItemId : Uuid} :
    Identity.selfDescriptionWrite context proposal delta identityItemId db = none ↔
      SelfDescriptionTurnedDown delta db := by
  unfold Identity.selfDescriptionWrite SelfDescriptionTurnedDown
  cases delta.operation <;> simp

/-- What an item delta that breaks no constraint comes to. -/
theorem applyIdentityItemDelta_rejected {delta : IdentityItemDelta} {identityItemId : Uuid}
    {outcome : Identity.IdentityDeltaMergeOutcome}
    (h : Identity.applyIdentityItemDelta tables context proposal delta identityItemId now db =
      .ok (outcome, db')) :
    (∃ reason, outcome = .rejected reason) ↔ DeltaTurnedDown tables delta db := by
  unfold Identity.applyIdentityItemDelta at h
  unfold DeltaTurnedDown
  cases hcontrol : Identity.identityDeltaControlRejection tables delta db with
  | some reason =>
    rw [hcontrol] at h
    obtain ⟨rfl, -⟩ := Prod.mk.inj (Except.ok.inj h)
    exact iff_of_true ⟨reason, rfl⟩ (Or.inl rfl)
  | none =>
    obtain ⟨missing, hwrite⟩ :=
      Identity.writeIdentityItemDelta_eq context proposal delta identityItemId now db
    rw [hcontrol] at h
    rw [applyWrite_rejected (hwrite.symm.trans h), deltaWrite_eq_none]
    simp

theorem applySelfDescriptionDelta_rejected {delta : SelfDescriptionDelta} {identityItemId : Uuid}
    {outcome : Identity.IdentityDeltaMergeOutcome}
    (h : Identity.applySelfDescriptionDelta context proposal delta identityItemId now db =
      .ok (outcome, db')) :
    (∃ reason, outcome = .rejected reason) ↔ SelfDescriptionTurnedDown delta db := by
  obtain ⟨missing, hwrite⟩ :=
    Identity.applySelfDescriptionDelta_eq context proposal delta identityItemId now db
  rw [applyWrite_rejected (hwrite.symm.trans h), selfDescriptionWrite_eq_none]

/-- What the item deltas that break no constraint come to. -/
theorem applyItemDeltas_rejected {deltas : List (IdentityItemDelta × Uuid)}
    {outcome : Identity.DeltasOutcome}
    (h : Identity.applyItemDeltas tables context proposal now deltas db = .ok (outcome, db')) :
    (∃ reason, outcome = .error reason) ↔ ItemTurnedDown tables context proposal now deltas db := by
  induction deltas generalizing db outcome with
  | nil =>
    obtain ⟨rfl, -⟩ := Prod.mk.inj (Except.ok.inj h)
    refine iff_of_false ?_ ?_
    · rintro ⟨reason, ⟨⟩⟩
    · rintro ⟨⟩
  | cons first rest ih =>
    obtain ⟨delta, identityItemId⟩ := first
    rw [Identity.applyItemDeltas] at h
    split at h
    · cases h
    · rename_i reason between hfirst
      obtain ⟨rfl, -⟩ := Prod.mk.inj (Except.ok.inj h)
      exact iff_of_true ⟨reason, rfl⟩
        (.here ((applyIdentityItemDelta_rejected hfirst).mp ⟨reason, rfl⟩))
    · rename_i itemId between hfirst
      have hdelta : ¬ DeltaTurnedDown tables delta db := by
        rw [← applyIdentityItemDelta_rejected hfirst]
        rintro ⟨reason, ⟨⟩⟩
      obtain ⟨⟨rest', after⟩, hrest, hpair⟩ := except_map_eq_ok.mp h
      obtain ⟨rfl, rfl⟩ := Prod.mk.inj hpair
      have hrest' := ih hrest
      constructor
      · rintro ⟨reason, hreason⟩
        refine .later hfirst (hrest'.mp ?_)
        cases rest' with
        | error reason => exact ⟨reason, rfl⟩
        | ok left => cases hreason
      · intro hdown
        cases hdown with
        | here turnedDown => exact absurd turnedDown hdelta
        | later applied turnedDown =>
          rw [hfirst] at applied
          obtain ⟨-, rfl⟩ := Prod.mk.inj (Except.ok.inj applied)
          obtain ⟨reason, rfl⟩ := hrest'.mpr turnedDown
          exact ⟨reason, rfl⟩

/-- What the deltas of a proposal that break no constraint come to. -/
theorem applyDeltas_rejected {payload : IdentityDeltaProposal} {itemIds : List Uuid}
    {selfDescriptionId : Uuid} {outcome : Identity.DeltasOutcome}
    (h : Identity.applyDeltas tables context proposal payload itemIds selfDescriptionId now db =
      .ok (outcome, db')) :
    (∃ reason, outcome = .error reason) ↔
      DeltasTurnedDown tables context proposal payload itemIds now db := by
  unfold Identity.applyDeltas at h
  cases hitems : Identity.applyItemDeltas tables context proposal now
      (payload.itemDeltas.zip itemIds) db with
  | error e =>
    rw [hitems] at h
    cases h
  | ok applied =>
    obtain ⟨items, between⟩ := applied
    rw [hitems] at h
    have hitem := applyItemDeltas_rejected hitems
    cases items with
    | error reason =>
      obtain ⟨rfl, -⟩ := Prod.mk.inj (Except.ok.inj h)
      exact iff_of_true ⟨reason, rfl⟩ (.item (hitem.mp ⟨reason, rfl⟩))
    | ok left =>
      have hthrough : ¬ ItemTurnedDown tables context proposal now
          (payload.itemDeltas.zip itemIds) db := by
        rw [← hitem]
        rintro ⟨reason, ⟨⟩⟩
      cases hdelta : payload.selfDescriptionDelta with
      | none =>
        rw [hdelta] at h
        obtain ⟨rfl, -⟩ := Prod.mk.inj (Except.ok.inj h)
        refine iff_of_false (by rintro ⟨reason, ⟨⟩⟩) ?_
        rintro (hdown | ⟨given, -, -⟩)
        · exact hthrough hdown
        · rw [hdelta] at given
          cases given
      | some delta =>
        rw [hdelta] at h
        obtain ⟨⟨self, after⟩, hself, hpair⟩ := except_map_eq_ok.mp h
        have hself' := applySelfDescriptionDelta_rejected hself
        constructor
        · rintro ⟨reason, rfl⟩
          refine .selfDescription hdelta hitems (hself'.mp ?_)
          cases self with
          | rejected reason => exact ⟨reason, rfl⟩
          | accepted itemId => cases congrArg Prod.fst hpair
        · rintro (hdown | ⟨given, applied, hdown⟩)
          · exact absurd hdown hthrough
          · rw [hdelta] at given
            obtain rfl := Option.some.inj given
            rw [hitems] at applied
            obtain ⟨-, rfl⟩ := Prod.mk.inj (Except.ok.inj applied)
            obtain ⟨reason, rfl⟩ := hself'.mpr hdown
            exact ⟨reason, (congrArg Prod.fst hpair).symm⟩

end Deltas

/-! ### What a merge comes to -/

/-- The evaluation of a merge that ended, and what it did to the records. -/
structure Merged (proposal : CanonicalProposal) (turnedDown : Prop) (w w' : World)
    (evaluation : ProposalEvaluation) : Prop where
  outcome : evaluation.outcome = .rejected ↔ turnedDown
  others : OthersKept proposal.proposalId w.db w'.db
  kept : evaluation.outcome = .accepted → SameRecords w.db w'.db

section Merged

variable {tables : Text.Tables} {context : ProposalProcessingContext} {proposal : CanonicalProposal}
  {o : Oracle system} {n : Nat} {w w₁ w' : World} {evaluation : ProposalEvaluation}
  {turnedDown : Prop} {p : Harness ProposalEvaluation}

theorem SameRecords.run {α : Type} {p : Harness α} (hp : p.Confined KeepsRecords)
    (o : Oracle system) (n : Nat) (w : World) : SameRecords w.db (p.run o n w).state.db := by
  refine (hp.run o n w (OnDb.refl fun db => SameRecords.refl db) ?_).1
  exact OnDb.trans fun _ _ _ _ _ h h' => h.trans h'

theorem OthersKept.run {α : Type} {p : Harness α} {proposalId : Uuid}
    (hp : p.Confined (KeepsOthers proposalId)) (o : Oracle system) (n : Nat) (w : World) :
    OthersKept proposalId w.db (p.run o n w).state.db := by
  refine (hp.run o n w (OnDb.refl fun db => OthersKept.refl db) ?_).1
  exact OnDb.trans fun _ _ _ _ _ h h' => h.trans h'

/-- A branch that writes. -/
theorem Merged.accepting (hp : p.Confined KeepsRecords)
    (hreturns : p.Returns fun evaluation => evaluation.outcome = .accepted)
    (hnot : ¬ turnedDown) (h : (p.run o n w).result = .ok evaluation) :
    Merged proposal turnedDown w (p.run o n w).state evaluation := by
  have haccepted : evaluation.outcome = .accepted := hreturns.run o n w h
  refine ⟨iff_of_false ?_ hnot, (SameRecords.run hp o n w).others,
    fun _ => SameRecords.run hp o n w⟩
  rw [haccepted]
  rintro ⟨⟩

/-- A branch that turns the candidate down. -/
theorem Merged.rejecting (hp : p.Confined (KeepsOthers proposal.proposalId))
    (hreturns : p.Returns fun evaluation => evaluation.outcome = .rejected)
    (hdown : turnedDown) (h : (p.run o n w).result = .ok evaluation) :
    Merged proposal turnedDown w (p.run o n w).state evaluation := by
  have hrejected : evaluation.outcome = .rejected := hreturns.run o n w h
  refine ⟨iff_of_true hrejected hdown, OthersKept.run hp o n w, fun haccepted => ?_⟩
  rw [hrejected] at haccepted
  cases haccepted

/-- What comes before keeps the records. -/
theorem Merged.after (hbefore : SameRecords w.db w₁.db)
    (h : Merged proposal turnedDown w₁ w' evaluation) :
    Merged proposal turnedDown w w' evaluation :=
  ⟨h.outcome, hbefore.others.trans h.others, fun haccepted => hbefore.trans (h.kept haccepted)⟩

theorem rejectMerge_returns (proposalId : Uuid) (reason : String) :
    (Continuity.rejectMerge proposalId reason).Returns fun evaluation =>
      evaluation.outcome = .rejected := by
  refine Prog.Returns.bind (Prog.Returns.any _) fun _ _ => ?_
  exact rfl

theorem Merged.rejectMerge {reason : String} (hdown : turnedDown)
    (h : ((Continuity.rejectMerge proposal.proposalId reason).run o n w).result = .ok evaluation) :
    Merged proposal turnedDown w
      ((Continuity.rejectMerge proposal.proposalId reason).run o n w).state evaluation :=
  .rejecting (rejectMerge_others _ _) (rejectMerge_returns _ _) hdown h

/-- The payload of a validated candidate is of its kind. -/
theorem payload_of_validated (hvalid : (validateProposal proposal).outcome = .accepted) :
    (∃ payload, proposal.proposalKind = .memoryArtifact ∧
        proposal.payload = .memoryArtifact payload) ∨
      (∃ payload, proposal.proposalKind = .selfModelObservation ∧
        proposal.payload = .selfModelObservation payload) ∨
      ∃ payload, proposal.proposalKind = .identityDelta ∧
        proposal.payload = .identityDelta payload := by
  unfold validateProposal at hvalid
  split at hvalid
  · cases hvalid
  split at hvalid
  · cases hvalid
  split at hvalid
  · cases hvalid
  split at hvalid
  · cases hvalid
  split at hvalid
  · cases hvalid
  split at hvalid
  · cases hvalid
  · split at hvalid
    · rename_i payload hkind _ hpayload
      exact Or.inl ⟨payload, hkind, hpayload⟩
    · rename_i payload hkind _ hpayload
      exact Or.inr (Or.inl ⟨payload, hkind, hpayload⟩)
    · rename_i payload hkind _ hpayload
      exact Or.inr (Or.inr ⟨payload, hkind, hpayload⟩)
    all_goals cases hvalid

theorem not_rejected_of_validated (hvalid : (validateProposal proposal).outcome = .accepted) :
    ¬ (validateProposal proposal).outcome = .rejected := by
  rw [hvalid]
  rintro ⟨⟩

theorem memory_mergeIntoStore_returns (target : Option Uuid) :
    (Memory.mergeIntoStore context proposal target).Returns fun evaluation =>
      evaluation.outcome = .accepted := by
  refine Prog.Returns.bind (Prog.Returns.any _) fun _ _ => ?_
  refine Prog.Returns.bind (Prog.Returns.any _) fun _ _ => ?_
  refine Prog.Returns.bind (Prog.Returns.any _) fun _ _ => ?_
  exact Prog.Returns.bind (Prog.Returns.any _) fun _ _ => rfl

/-- The merge of a valid memory proposal: rejected exactly if the store turns it down, and the
records of other proposals stay. -/
theorem memory_merged {payload : MemoryArtifactProposal}
    (hkind : proposal.proposalKind = .memoryArtifact)
    (hpayload : proposal.payload = .memoryArtifact payload)
    (hvalid : (validateProposal proposal).outcome = .accepted)
    (h : ((Memory.applyMemoryProposalMerge context proposal).run o n w).result = .ok evaluation) :
    Merged proposal (TurnedDown tables context proposal o n w) w
      ((Memory.applyMemoryProposalMerge context proposal).run o n w).state evaluation := by
  -- Only the plan can turn a memory proposal down.
  have honly : TurnedDown tables context proposal o n w → ∃ reason,
      Memory.planMemoryMerge proposal (Continuity.newestMemory proposal.subjectRef
        Memory.activeMemoryScanLimit w.db) = .reject reason := by
    intro hdown
    cases hdown with
    | memory kind planned => exact ⟨_, planned⟩
    | selfModel observed => simp [hpayload] at observed
    | template given => simp [hpayload] at given
    | answer given => simp [hpayload] at given
    | deltas given => simp [hpayload] at given
  unfold Memory.applyMemoryProposalMerge at h ⊢
  dsimp only at h ⊢
  rw [if_neg (not_rejected_of_validated hvalid)] at h ⊢
  obtain ⟨activeArtifacts, hlist, hrest, hstate⟩ := Prog.run_bind_eq_ok o n w h
  obtain ⟨now, effect, hbody, rfl, hworld⟩ := run_transaction_eq_ok hlist
  obtain rfl := Except.ok.inj hbody
  rw [hstate]
  have hsame : ((Continuity.listActiveMemoryArtifactsBySubject proposal.subjectRef
      Memory.activeMemoryScanLimit).run o n w).state = w := hworld
  rw [hsame] at hrest ⊢
  cases hplan : Memory.planMemoryMerge proposal (Continuity.newestMemory proposal.subjectRef
      Memory.activeMemoryScanLimit w.db) with
  | reject reason =>
    simp only [hplan] at hrest ⊢
    exact .rejectMerge (.memory hkind hplan) hrest
  | insertNew =>
    simp only [hplan] at hrest ⊢
    refine .accepting (memory_mergeIntoStore_records _) (memory_mergeIntoStore_returns _) ?_ hrest
    intro hdown
    obtain ⟨reason, hreason⟩ := honly hdown
    rw [hplan] at hreason
    cases hreason
  | supersede targetArtifactId =>
    simp only [hplan] at hrest ⊢
    refine .accepting (memory_mergeIntoStore_records _) (memory_mergeIntoStore_returns _) ?_ hrest
    intro hdown
    obtain ⟨reason, hreason⟩ := honly hdown
    rw [hplan] at hreason
    cases hreason

theorem selfModel_mergeIntoStore_returns {payload : SelfModelObservationProposal}
    {current : SelfModelSnapshot} {supersededArtifactId : Option Uuid} (proposalId : Uuid) :
    (SelfModel.mergeIntoStore context proposalId payload current
      supersededArtifactId).Returns fun evaluation => evaluation.outcome = .accepted := by
  refine Prog.Returns.bind (Prog.Returns.any _) fun _ _ => ?_
  refine Prog.Returns.bind (Prog.Returns.any _) fun _ _ => ?_
  exact Prog.Returns.bind (Prog.Returns.any _) fun _ _ => rfl

/-- The merge of a valid observation: rejected exactly if the self-model turns it down. -/
theorem selfModel_merged {payload : SelfModelObservationProposal}
    (hkind : proposal.proposalKind = .selfModelObservation)
    (hpayload : proposal.payload = .selfModelObservation payload)
    (hvalid : (validateProposal proposal).outcome = .accepted)
    (h : ((SelfModel.applySelfModelProposalMerge context proposal).run o n w).result =
      .ok evaluation) :
    Merged proposal (TurnedDown tables context proposal o n w) w
      ((SelfModel.applySelfModelProposalMerge context proposal).run o n w).state evaluation := by
  unfold SelfModel.applySelfModelProposalMerge at h ⊢
  dsimp only at h ⊢
  rw [if_neg (not_rejected_of_validated hvalid)] at h ⊢
  simp only [hpayload] at h ⊢
  obtain ⟨⟨current, supersededArtifactId⟩, hread, hrest, hstate⟩ := Prog.run_bind_eq_ok o n w h
  rw [hstate]
  have hbefore : SameRecords w.db ((SelfModel.currentSelfModel context).run o n w).state.db :=
    SameRecords.run currentSelfModel_records o n w
  refine .after hbefore ?_
  dsimp only at hrest ⊢
  by_cases hknown : payload.contentText ∈ current.preferences
  · rw [if_pos (List.contains_iff_mem.mpr hknown)] at hrest ⊢
    exact .rejectMerge (.selfModel hpayload hread hknown) hrest
  · have hcontains : ¬ current.preferences.contains payload.contentText = true :=
      fun hmem => hknown (List.contains_iff_mem.mp hmem)
    rw [if_neg hcontains] at hrest ⊢
    refine .accepting (selfModel_mergeIntoStore_records _) (selfModel_mergeIntoStore_returns _) ?_
      hrest
    intro hdown
    cases hdown with
    | memory kind => simp [hkind] at kind
    | selfModel observed read known =>
      rw [hpayload] at observed
      obtain rfl := CanonicalProposalPayload.selfModelObservation.inj observed
      rw [hread] at read
      obtain ⟨rfl, -⟩ := Prod.mk.inj (Except.ok.inj read)
      exact hknown known
    | template given => simp [hpayload] at given
    | answer given => simp [hpayload] at given
    | deltas given => simp [hpayload] at given

theorem startCustomInterview_returns (payload : IdentityDeltaProposal) :
    (Identity.startCustomInterview proposal payload).Returns fun evaluation =>
      evaluation.outcome = .accepted := by
  refine Prog.Returns.bind (Prog.Returns.any _) fun _ _ => ?_
  refine Prog.Returns.bind (Prog.Returns.any _) fun _ _ => ?_
  refine Prog.Returns.bind (Prog.Returns.any _) fun _ _ => ?_
  exact Prog.Returns.bind (Prog.Returns.any _) fun _ _ => rfl

theorem cancelCustomInterview_returns (reason : Option String) :
    (Identity.cancelCustomInterview proposal reason).Returns fun evaluation =>
      evaluation.outcome = .accepted := by
  refine Prog.Returns.bind (Prog.Returns.any _) fun lifecycle _ => ?_
  cases lifecycle with
  | none => exact rfl
  | some lifecycle =>
    refine Prog.Returns.bind (Prog.Returns.any _) fun _ _ => ?_
    refine Prog.Returns.bind (Prog.Returns.any _) fun _ _ => ?_
    exact Prog.Returns.bind (Prog.Returns.any _) fun _ _ => rfl

theorem takeAnswer_returns (interview : IdentityInterviewRecord) (answer : String × String) :
    (Identity.takeAnswer context proposal interview answer).Returns fun evaluation =>
      evaluation.outcome = .accepted := by
  unfold Identity.takeAnswer
  dsimp only
  split
  · exact Prog.Returns.bind (Prog.Returns.any _) fun _ _ => rfl
  · generalize Identity.customIdentityFields.length = count
    refine Prog.Returns.bind (Prog.Returns.any _) fun _ _ => ?_
    refine Prog.Returns.bind (Prog.Returns.any _) fun _ _ => ?_
    refine Prog.Returns.bind (Prog.Returns.any _) fun _ _ => ?_
    refine Prog.Returns.bind (Prog.Returns.any _) fun _ _ => ?_
    exact Prog.Returns.bind (Prog.Returns.any _) fun _ _ => rfl

section Identity

variable {payload : IdentityDeltaProposal}

/-- The read of the lifecycle. -/
theorem run_getCurrentLifecycle {lifecycle : Option IdentityLifecycleRecord}
    (h : (Identity.getCurrentLifecycle.run o n w).result = .ok lifecycle) :
    lifecycle = Identity.currentLifecycle w.db ∧
      (Identity.getCurrentLifecycle.run o n w).state = w := by
  obtain ⟨now, effect, -, hbody, rfl, hstate⟩ := run_inTransaction_eq_ok h
  obtain rfl := Except.ok.inj hbody
  exact ⟨rfl, hstate⟩

/-- The read of the interview. -/
theorem run_getIdentityInterview {interviewId : Uuid} {found : Option IdentityInterviewRecord}
    (h : ((Identity.getIdentityInterview interviewId).run o n w).result = .ok found) :
    found = Table.find IdentityInterviewRecord.identityInterviewId interviewId
        w.db.identityKickstartInterviews ∧
      ((Identity.getIdentityInterview interviewId).run o n w).state = w := by
  obtain ⟨now, effect, -, hbody, rfl, hstate⟩ := run_inTransaction_eq_ok h
  obtain rfl := Except.ok.inj hbody
  exact ⟨rfl, hstate⟩

theorem answerInterview_merged {interview : IdentityInterviewRecord}
    {answer : IdentityInterviewAnswer}
    (h : ((Identity.answerInterview context proposal interview answer).run o n w).result =
      .ok evaluation) :
    Merged proposal (¬ (interview.status = .inProgress ∧ answer.stepKey = interview.currentStep)) w
      ((Identity.answerInterview context proposal interview answer).run o n w).state evaluation := by
  unfold Identity.answerInterview at h ⊢
  dsimp only at h ⊢
  by_cases hprogress : interview.status = .inProgress
  · rw [if_neg (not_not.mpr hprogress)] at h ⊢
    by_cases hstep : answer.stepKey = interview.currentStep
    · rw [if_neg (not_not.mpr hstep)] at h ⊢
      exact .accepting (takeAnswer_records _ _) (takeAnswer_returns _ _)
        (not_not.mpr ⟨hprogress, hstep⟩) h
    · rw [if_pos hstep] at h ⊢
      exact .rejectMerge (fun hready => hstep hready.2) h
  · rw [if_pos hprogress] at h ⊢
    exact .rejectMerge (fun hready => hprogress hready.1) h

/-- The merge of an answer: rejected exactly if the interview does not wait for it. -/
theorem answer_merged {answer : IdentityInterviewAnswer}
    (h : ((Identity.answerCustomInterview context proposal answer).run o n w).result =
      .ok evaluation) :
    Merged proposal (¬ AnswerExpected answer w.db) w
      ((Identity.answerCustomInterview context proposal answer).run o n w).state evaluation := by
  unfold Identity.answerCustomInterview at h ⊢
  obtain ⟨lifecycle, hread, hrest, hstate⟩ := Prog.run_bind_eq_ok o n w h
  obtain ⟨hlifecycle, hsame⟩ := run_getCurrentLifecycle hread
  rw [hstate]
  rw [hsame] at hrest ⊢
  clear hstate h
  generalize (Identity.getCurrentLifecycle.run o n w).asked = m at hrest ⊢
  cases lifecycle with
  | none =>
    refine .rejectMerge ?_ hrest
    rintro ⟨lifecycle, interviewId, interview, hcurrent, -⟩
    rw [← hlifecycle] at hcurrent
    cases hcurrent
  | some lifecycle =>
    cases hactive : lifecycle.activeInterviewId with
    | none =>
      simp only [hactive] at hrest ⊢
      refine .rejectMerge ?_ hrest
      rintro ⟨lifecycle', interviewId, interview, hcurrent, hid, -⟩
      rw [← hlifecycle] at hcurrent
      obtain rfl := Option.some.inj hcurrent
      rw [hactive] at hid
      cases hid
    | some interviewId =>
      simp only [hactive] at hrest ⊢
      obtain ⟨found, hget, hrest, hstate⟩ := Prog.run_bind_eq_ok o m w hrest
      obtain ⟨hfound, hsame'⟩ := run_getIdentityInterview hget
      rw [hstate]
      rw [hsame'] at hrest ⊢
      clear hstate
      generalize ((Identity.getIdentityInterview interviewId).run o m w).asked = k at hrest ⊢
      cases found with
      | none => cases hrest
      | some interview =>
        have hmerged := answerInterview_merged (o := o) (n := k) (w := w) hrest
        refine ⟨hmerged.outcome.trans (not_congr ?_), hmerged.others, hmerged.kept⟩
        constructor
        · rintro ⟨hprogress, hstep⟩
          exact ⟨lifecycle, interviewId, interview, hlifecycle.symm, hactive, hfound.symm,
            hprogress, hstep⟩
        · rintro ⟨lifecycle', interviewId', interview', hcurrent, hid, hfind, hprogress, hstep⟩
          rw [← hlifecycle] at hcurrent
          obtain rfl := Option.some.inj hcurrent
          rw [hactive] at hid
          obtain rfl := Option.some.inj hid
          rw [← hfound] at hfind
          obtain rfl := Option.some.inj hfind
          exact ⟨hprogress, hstep⟩

/-- What asks and reads leaves the database as it is. -/
theorem run_idle {α : Type} {p : Harness α} (hp : p.Confined Identity.Idle) (o : Oracle system)
    (n : Nat) (w : World) : (p.run o n w).state.db = w.db := by
  refine (hp.run o n w (OnDb.refl fun db => rfl) ?_).1
  exact OnDb.trans fun _ _ _ _ _ h h' => h'.trans h

theorem settleDeltas_merged {outcome : Identity.DeltasOutcome}
    (hdown : (∃ reason, outcome = .error reason) ↔ turnedDown)
    (h : ((Identity.settleDeltas context proposal outcome).run o n w).result = .ok evaluation) :
    Merged proposal turnedDown w
      ((Identity.settleDeltas context proposal outcome).run o n w).state evaluation := by
  cases outcome with
  | ok itemIds =>
    refine .accepting (Prog.confined_ret _) rfl ?_ h
    rw [← hdown]
    rintro ⟨reason, ⟨⟩⟩
  | error reason =>
    refine .rejecting (settleDeltas_others reason) ?_ (hdown.mp ⟨reason, rfl⟩) h
    exact Prog.Returns.bind (Prog.Returns.any _) fun _ _ => rejectMerge_returns _ _

/-- What the transaction of a merge comes to. -/
theorem mergeDeltas_outcome {current : Option IdentityLifecycleRecord} {itemIds : List Uuid}
    {selfDescriptionId lifecycleId : Uuid} {completedAt now : DateTime} {db : Database}
    {effect : Effect Identity.DeltasOutcome}
    (h : Identity.mergeDeltas tables context proposal payload current itemIds selfDescriptionId
      lifecycleId completedAt now db = .ok effect) :
    (∃ reason, effect.value = .error reason) ↔
      DeltasTurnedDown tables context proposal payload itemIds now db := by
  unfold Identity.mergeDeltas at h
  split at h
  · cases h
  · rename_i reason applied happlied
    obtain rfl := Except.ok.inj h
    exact applyDeltas_rejected happlied
  · rename_i left applied happlied
    obtain ⟨recorded, -, rfl⟩ := except_map_eq_ok.mp h
    exact applyDeltas_rejected happlied

/-- The merge of deltas draws what `draw` draws, and decides on it. -/
theorem deltas_merged
    (h : ((Identity.mergeIntoStore tables context proposal payload).run o n w).result =
      .ok evaluation) :
    ∃ drawn, ((draw payload).run o n w).result = .ok drawn ∧
      Merged proposal
        (DeltasTurnedDown tables context proposal payload drawn.itemIds drawn.now w.db) w
        ((Identity.mergeIntoStore tables context proposal payload).run o n w).state evaluation := by
  unfold Identity.mergeIntoStore at h ⊢
  unfold draw
  obtain ⟨current, hcurrent, h, hstate⟩ := Prog.run_bind_eq_ok o n w h
  rw [Prog.run_bind_result o n w hcurrent, hstate]
  rw [(run_getCurrentLifecycle hcurrent).2] at h ⊢
  generalize (Identity.getCurrentLifecycle.run o n w).asked = n₁ at h ⊢
  obtain ⟨itemIds, hitems, h, hstate⟩ := Prog.run_bind_eq_ok o n₁ w h
  rw [Prog.run_bind_result o n₁ w hitems, hstate]
  have hdb₂ := run_idle (confined_newUuids Identity.idle_refl payload.itemDeltas.length) o n₁ w
  generalize ((newUuids payload.itemDeltas.length).run o n₁ w).asked = n₂ at h ⊢
  generalize ((newUuids payload.itemDeltas.length).run o n₁ w).state = w₂ at h hdb₂ ⊢
  obtain ⟨selfDescriptionId, hself, h, hstate⟩ := Prog.run_bind_eq_ok o n₂ w₂ h
  rw [Prog.run_bind_result o n₂ w₂ hself, hstate]
  have hdb₃ := run_idle (confined_newUuid Identity.idle_refl) o n₂ w₂
  generalize (newUuid.run o n₂ w₂).asked = n₃ at h ⊢
  generalize (newUuid.run o n₂ w₂).state = w₃ at h hdb₃ ⊢
  obtain ⟨lifecycleId, hlifecycle, h, hstate⟩ := Prog.run_bind_eq_ok o n₃ w₃ h
  rw [Prog.run_bind_result o n₃ w₃ hlifecycle, hstate]
  have hdb₄ := run_idle (confined_newUuid Identity.idle_refl) o n₃ w₃
  generalize (newUuid.run o n₃ w₃).asked = n₄ at h ⊢
  generalize (newUuid.run o n₃ w₃).state = w₄ at h hdb₄ ⊢
  obtain ⟨completedAt, hcompleted, h, hstate⟩ := Prog.run_bind_eq_ok o n₄ w₄ h
  rw [Prog.run_bind_result o n₄ w₄ hcompleted, hstate]
  have hdb₅ := run_idle (confined_utcNow Identity.idle_refl) o n₄ w₄
  generalize (utcNow.run o n₄ w₄).asked = n₅ at h ⊢
  generalize (utcNow.run o n₄ w₄).state = w₅ at h hdb₅ ⊢
  obtain ⟨outcome, htx, h, hstate⟩ := Prog.run_bind_eq_ok o n₅ w₅ h
  have hdb : w₅.db = w.db := hdb₅.trans (hdb₄.trans (hdb₃.trans hdb₂))
  obtain ⟨now, effect, hnow, hbody, rfl, hcommitted⟩ := run_inTransaction_eq_ok htx
  refine ⟨{ itemIds := itemIds, now := now }, run_inTransaction_result hnow rfl rfl, ?_⟩
  rw [hstate]
  rw [hcommitted] at h ⊢
  rw [hdb] at hbody
  have hbefore : SameRecords w.db ({ w₅ with db := effect.db } : World).db :=
    mergeDeltas_records hbody
  refine .after hbefore ?_
  exact settleDeltas_merged (mergeDeltas_outcome hbody) h

/-- What the merge of an identity proposal comes to. -/
theorem identity_merged (hkind : proposal.proposalKind = .identityDelta)
    (hpayload : proposal.payload = .identityDelta payload)
    (hvalid : (validateProposal proposal).outcome = .accepted)
    (h : ((Identity.applyIdentityDeltaProposalMerge tables context proposal).run o n w).result =
      .ok evaluation) :
    Merged proposal (TurnedDown tables context proposal o n w) w
      ((Identity.applyIdentityDeltaProposalMerge tables context proposal).run o n w).state
      evaluation := by
  unfold Identity.applyIdentityDeltaProposalMerge at h ⊢
  dsimp only at h ⊢
  rw [if_neg (not_rejected_of_validated hvalid)] at h ⊢
  simp only [hpayload] at h ⊢
  cases haction : payload.interviewAction with
  | some action =>
    simp only [haction] at h ⊢
    -- A candidate with an action is turned down by its action.
    have honly : TurnedDown tables context proposal o n w →
        (∃ templateKey, action = .selectPredefinedTemplate templateKey) ∨
          ∃ answer, action = .answerCustomInterview answer ∧ ¬ AnswerExpected answer w.db := by
      intro hdown
      cases hdown with
      | memory kind => simp [hkind] at kind
      | selfModel observed => simp [hpayload] at observed
      | template given action =>
        rw [hpayload] at given
        obtain rfl := CanonicalProposalPayload.identityDelta.inj given
        rw [haction] at action
        exact Or.inl ⟨_, Option.some.inj action⟩
      | answer given action unexpected =>
        rw [hpayload] at given
        obtain rfl := CanonicalProposalPayload.identityDelta.inj given
        rw [haction] at action
        exact Or.inr ⟨_, Option.some.inj action, unexpected⟩
      | deltas given action =>
        rw [hpayload] at given
        obtain rfl := CanonicalProposalPayload.identityDelta.inj given
        rw [haction] at action
        cases action
    cases action with
    | startCustomInterview =>
      refine .accepting (startCustomInterview_records _) (startCustomInterview_returns _) ?_ h
      intro hdown
      rcases honly hdown with ⟨templateKey, htemplate⟩ | ⟨answer, hanswer, -⟩
      · cases htemplate
      · cases hanswer
    | answerCustomInterview answer =>
      have hmerged := answer_merged (o := o) (n := n) (w := w) h
      refine ⟨hmerged.outcome.trans ⟨fun hunexpected => .answer hpayload haction hunexpected, ?_⟩,
        hmerged.others, hmerged.kept⟩
      intro hdown
      rcases honly hdown with ⟨templateKey, htemplate⟩ | ⟨answer', hanswer, hunexpected⟩
      · cases htemplate
      · obtain rfl := IdentityKickstartAction.answerCustomInterview.inj hanswer
        exact hunexpected
    | cancel reason =>
      refine .accepting (cancelCustomInterview_records _) (cancelCustomInterview_returns _) ?_ h
      intro hdown
      rcases honly hdown with ⟨templateKey, htemplate⟩ | ⟨answer, hanswer, -⟩
      · cases htemplate
      · cases hanswer
    | selectPredefinedTemplate templateKey =>
      exact .rejecting (Prog.confined_ret _) rfl (.template hpayload haction) h
  | none =>
    simp only [haction] at h ⊢
    obtain ⟨drawn, hread, hmerged⟩ := deltas_merged h
    refine ⟨hmerged.outcome.trans ⟨fun hdown => .deltas hpayload haction hread hdown, ?_⟩,
      hmerged.others, hmerged.kept⟩
    intro hdown
    cases hdown with
    | memory kind => simp [hkind] at kind
    | selfModel observed => simp [hpayload] at observed
    | template given action =>
      rw [hpayload] at given
      obtain rfl := CanonicalProposalPayload.identityDelta.inj given
      rw [haction] at action
      cases action
    | answer given action =>
      rw [hpayload] at given
      obtain rfl := CanonicalProposalPayload.identityDelta.inj given
      rw [haction] at action
      cases action
    | deltas given action read turnedDown =>
      rw [hpayload] at given
      obtain rfl := CanonicalProposalPayload.identityDelta.inj given
      rw [hread] at read
      obtain rfl := Except.ok.inj read
      exact turnedDown

end Identity

/-- What the merge of a validated candidate comes to. -/
theorem mergeCandidate_merged (hvalid : (validateProposal proposal).outcome = .accepted)
    (h : ((mergeCandidate tables context proposal).run o n w).result = .ok evaluation) :
    Merged proposal (TurnedDown tables context proposal o n w) w
      ((mergeCandidate tables context proposal).run o n w).state evaluation := by
  rcases payload_of_validated hvalid with ⟨payload, hkind, hpayload⟩ | ⟨payload, hkind, hpayload⟩ |
    ⟨payload, hkind, hpayload⟩
  · unfold mergeCandidate at h ⊢
    simp only [hkind] at h ⊢
    exact memory_merged hkind hpayload hvalid h
  · unfold mergeCandidate at h ⊢
    simp only [hkind] at h ⊢
    exact selfModel_merged hkind hpayload hvalid h
  · unfold mergeCandidate at h ⊢
    simp only [hkind] at h ⊢
    exact identity_merged hkind hpayload hvalid h

end Merged

/-! ## One candidate -/

/-- What a candidate that is processed leaves of the records. -/
structure Processed (candidate : CanonicalProposal) (turnedDown : Prop) (w w' : World)
    (evaluation : ProposalEvaluation) : Prop where
  unrecorded : ∀ status, (candidate.proposalId, status) ∉ statuses w.db
  undecided : ∀ kind, (candidate.proposalId, kind) ∉ decisions w.db
  statuses : statuses w'.db =
    statuses w.db ++ [(candidate.proposalId, (validateProposal candidate).outcome.asStr)]
  others : ∀ id kind, id ≠ candidate.proposalId →
    ((id, kind) ∈ decisions w'.db ↔ (id, kind) ∈ decisions w.db)
  rejected : (validateProposal candidate).outcome = .rejected →
    evaluation.outcome = .rejected ∧
      (candidate.proposalId, "accepted") ∉ decisions w'.db ∧ SameCanonical w.db w'.db
  accepted : (validateProposal candidate).outcome = .accepted →
    (evaluation.outcome = .rejected ↔ turnedDown) ∧
      (evaluation.outcome = .accepted → (candidate.proposalId, "accepted") ∈ decisions w'.db)

section Candidate

variable {tables : Text.Tables} {context : ProposalProcessingContext} {subsystem : String}
  {candidate : CanonicalProposal} {o : Oracle system} {n : Nat} {w : World}
  {evaluation : ProposalEvaluation}

theorem insertProposal_eq_ok {row : ProposalRecord} {now : DateTime} {db db' : Database}
    (h : Continuity.insertProposal row now db = .ok db') :
    (∀ status, (row.proposalId, status) ∉ statuses db) ∧
      statuses db' = statuses db ++ [(row.proposalId, row.status)] ∧
      decisions db' = decisions db ∧ SameCanonical db db' := by
  rw [Continuity.insertProposal, Continuity.guarded_eq_ok] at h
  obtain ⟨hviolation, rfl⟩ := h
  rw [Database.proposalViolation, Database.firstBroken_eq_none] at hviolation
  have hkey : ∀ other ∈ db.proposals, other.proposalId ≠ row.proposalId := by
    simpa using hviolation (db.proposals.all fun other => other.proposalId ≠ row.proposalId,
      "proposals_pkey") (by simp)
  refine ⟨fun status hmem => ?_, List.map_append .., rfl, ⟨rfl, rfl, rfl, rfl, rfl⟩⟩
  obtain ⟨other, hother, hpair⟩ := List.mem_map.mp hmem
  exact hkey other hother (congrArg Prod.fst hpair)

theorem insertMergeDecision_eq_ok {row : MergeDecisionRecord} {now : DateTime}
    {db db' : Database} (h : Continuity.insertMergeDecision row now db = .ok db') :
    (∀ kind, (row.proposalId, kind) ∉ decisions db) ∧
      decisions db' = decisions db ++ [(row.proposalId, row.decisionKind)] ∧
      statuses db' = statuses db ∧ SameCanonical db db' := by
  rw [Continuity.insertMergeDecision, Continuity.guarded_eq_ok] at h
  obtain ⟨hviolation, rfl⟩ := h
  rw [Database.mergeDecisionViolation, Database.firstBroken_eq_none] at hviolation
  have hkey : ∀ other ∈ db.mergeDecisions, other.proposalId ≠ row.proposalId := by
    simpa using hviolation (db.mergeDecisions.all fun other => other.proposalId ≠ row.proposalId,
      "merge_decisions_proposal_id_key") (by simp)
  refine ⟨fun kind hmem => ?_, List.map_append .., rfl, ⟨rfl, rfl, rfl, rfl, rfl⟩⟩
  obtain ⟨other, hother, hpair⟩ := List.mem_map.mp hmem
  exact hkey other hother (congrArg Prod.fst hpair)

theorem SameCanonical.trans {db db' db'' : Database} (h : SameCanonical db db')
    (h' : SameCanonical db' db'') : SameCanonical db db'' where
  memoryArtifacts := h'.memoryArtifacts.trans h.memoryArtifacts
  selfModelArtifacts := h'.selfModelArtifacts.trans h.selfModelArtifacts
  identityLifecycle := h'.identityLifecycle.trans h.identityLifecycle
  identityItems := h'.identityItems.trans h.identityItems
  identityInterviews := h'.identityInterviews.trans h.identityInterviews

/-- The transaction that records a candidate. -/
theorem recordProposal_eq_ok {proposal : CanonicalProposal} {evaluation : ProposalEvaluation}
    {mergeDecisionId evaluatedId recordedId : Uuid} {now : DateTime} {db db' : Database}
    (h : recordProposal context proposal evaluation mergeDecisionId evaluatedId recordedId now db =
      .ok db') :
    (∀ status, (proposal.proposalId, status) ∉ statuses db) ∧
      (∀ kind, (proposal.proposalId, kind) ∉ decisions db) ∧
      statuses db' = statuses db ++ [(proposal.proposalId, evaluation.outcome.asStr)] ∧
      decisions db' = decisions db ++ [(proposal.proposalId, evaluation.outcome.asStr)] ∧
      SameCanonical db db' := by
  unfold recordProposal at h
  obtain ⟨inserted, hinsert, h⟩ := except_bind_eq_ok.mp h
  obtain ⟨decided, hdecide, h⟩ := except_bind_eq_ok.mp h
  obtain rfl := Except.ok.inj h
  obtain ⟨hunrecorded, hstatuses, hkept, hcanonical⟩ := insertProposal_eq_ok hinsert
  obtain ⟨hundecided, hdecisions, hkept', hcanonical'⟩ := insertMergeDecision_eq_ok hdecide
  refine ⟨hunrecorded, ?_, hkept'.trans hstatuses, ?_, hcanonical.trans ?_⟩
  · rw [← hkept]
    exact hundecided
  · rw [← hkept]
    exact hdecisions
  · exact hcanonical'.trans ⟨rfl, rfl, rfl, rfl, rfl⟩

/-- What recording a candidate leaves. -/
theorem run_validateAndRecordProposal
    (h : ((validateAndRecordProposal context candidate).run o n w).result = .ok evaluation) :
    evaluation = validateProposal candidate ∧
      (∀ status, (candidate.proposalId, status) ∉ statuses w.db) ∧
      (∀ kind, (candidate.proposalId, kind) ∉ decisions w.db) ∧
      statuses ((validateAndRecordProposal context candidate).run o n w).state.db =
        statuses w.db ++ [(candidate.proposalId, (validateProposal candidate).outcome.asStr)] ∧
      decisions ((validateAndRecordProposal context candidate).run o n w).state.db =
        decisions w.db ++ [(candidate.proposalId, (validateProposal candidate).outcome.asStr)] ∧
      SameCanonical w.db ((validateAndRecordProposal context candidate).run o n w).state.db := by
  unfold validateAndRecordProposal at h ⊢
  dsimp only at h ⊢
  obtain ⟨mergeDecisionId, -, h, hstate⟩ := Prog.run_bind_eq_ok o n w h
  rw [hstate]
  have hdb₁ := run_idle (confined_newUuid Identity.idle_refl) o n w
  generalize (newUuid.run o n w).asked = n₁ at h ⊢
  generalize (newUuid.run o n w).state = w₁ at h hdb₁ ⊢
  obtain ⟨evaluatedId, -, h, hstate⟩ := Prog.run_bind_eq_ok o n₁ w₁ h
  rw [hstate]
  have hdb₂ := run_idle (confined_newUuid Identity.idle_refl) o n₁ w₁
  generalize (newUuid.run o n₁ w₁).asked = n₂ at h ⊢
  generalize (newUuid.run o n₁ w₁).state = w₂ at h hdb₂ ⊢
  obtain ⟨recordedId, -, h, hstate⟩ := Prog.run_bind_eq_ok o n₂ w₂ h
  rw [hstate]
  have hdb₃ := run_idle (confined_newUuid Identity.idle_refl) o n₂ w₂
  generalize (newUuid.run o n₂ w₂).asked = n₃ at h ⊢
  generalize (newUuid.run o n₂ w₂).state = w₃ at h hdb₃ ⊢
  obtain ⟨value, htx, h, hstate⟩ := Prog.run_bind_eq_ok o n₃ w₃ h
  rw [hstate]
  obtain ⟨now, effect, -, hbody, -, hcommitted⟩ := run_inTransaction_eq_ok htx
  obtain ⟨recorded, hrecord, rfl⟩ := except_map_eq_ok.mp hbody
  rw [hdb₃.trans (hdb₂.trans hdb₁)] at hrecord
  rw [hcommitted]
  exact ⟨(Except.ok.inj h).symm, recordProposal_eq_ok hrecord⟩

theorem noteCanonicalWrite_records (target : Option MergeDecisionTarget) :
    (noteCanonicalWrite context subsystem candidate target).Confined KeepsRecords := by
  cases target with
  | none => exact Prog.confined_ret _
  | some target =>
    exact Prog.Confined.bind (Audit.insert_confined (fun _ _ => ⟨rfl, rfl⟩) _)
      fun _ => Prog.confined_ret _

/-- A candidate gets the status of its validation, the decisions of other proposals stay, and the
merge of a valid one says what the evaluation says. -/
theorem run_processCandidate
    (h : ((processCandidate tables context subsystem candidate).run o n w).result =
      .ok evaluation) :
    Processed candidate
      (TurnedDown tables context candidate o
        ((validateAndRecordProposal context candidate).run o n w).asked
        ((validateAndRecordProposal context candidate).run o n w).state)
      w ((processCandidate tables context subsystem candidate).run o n w).state evaluation := by
  unfold processCandidate at h ⊢
  obtain ⟨validation, hrecord, h, hstate⟩ := Prog.run_bind_eq_ok o n w h
  obtain ⟨rfl, hunrecorded, hundecided, hstatuses, hdecisions, hcanonical⟩ :=
    run_validateAndRecordProposal hrecord
  rw [hstate]
  generalize ((validateAndRecordProposal context candidate).run o n w).asked = m at h ⊢
  generalize ((validateAndRecordProposal context candidate).run o n w).state = w₁ at *
  have hothers : ∀ id kind, id ≠ candidate.proposalId →
      ((id, kind) ∈ decisions w₁.db ↔ (id, kind) ∈ decisions w.db) := by
    intro id kind hne
    rw [hdecisions, List.mem_append, List.mem_singleton, or_iff_left]
    exact fun heq => hne (congrArg Prod.fst heq)
  cases hvalid : (validateProposal candidate).outcome with
  | rejected =>
    simp only [hvalid] at h ⊢
    obtain rfl := Except.ok.inj h
    refine ⟨hunrecorded, hundecided, ?_, hothers, fun _ => ⟨hvalid, ?_, hcanonical⟩, ?_⟩
    · exact hstatuses
    · show (candidate.proposalId, "accepted") ∉ decisions w₁.db
      rw [hdecisions, List.mem_append, not_or]
      refine ⟨hundecided _, ?_⟩
      rw [hvalid]
      simp [ProposalEvaluationOutcome.asStr]
    · intro haccepted
      rw [hvalid] at haccepted
      cases haccepted
  | accepted =>
    simp only [hvalid] at h ⊢
    obtain ⟨mergeOutcome, hmerge, h, hstate⟩ := Prog.run_bind_eq_ok o m w₁ h
    rw [hstate]
    have hmerged := mergeCandidate_merged hvalid hmerge
    generalize ((mergeCandidate tables context candidate).run o m w₁).asked = k at h ⊢
    generalize ((mergeCandidate tables context candidate).run o m w₁).state = w₂ at *
    -- What follows the merge keeps the records.
    have hafter : ∀ w₃, OthersKept candidate.proposalId w₁.db w₃.db →
        (evaluation.outcome = .accepted → SameRecords w₁.db w₃.db) →
        evaluation.outcome = mergeOutcome.outcome → Processed candidate
          (TurnedDown tables context candidate o m w₁) w w₃ evaluation := by
      intro w₃ hkept hsame houtcome
      refine ⟨hunrecorded, hundecided, hkept.statuses.trans hstatuses, ?_, ?_, fun _ => ⟨?_, ?_⟩⟩
      · intro id kind hne
        exact (hkept.decisions id kind hne).trans (hothers id kind hne)
      · intro hrejected
        rw [hvalid] at hrejected
        cases hrejected
      · rw [houtcome]
        exact hmerged.outcome
      · intro haccepted
        rw [(hsame haccepted).decisions, hdecisions, hvalid]
        exact List.mem_append_right _ (List.mem_singleton.mpr rfl)
    cases houtcome : mergeOutcome.outcome with
    | rejected =>
      simp only [houtcome] at h ⊢
      obtain rfl := Except.ok.inj h
      exact hafter w₂ hmerged.others hmerged.kept rfl
    | accepted =>
      simp only [houtcome] at h ⊢
      obtain ⟨noted, -, h, hstate⟩ := Prog.run_bind_eq_ok o k w₂ h
      rw [hstate]
      obtain rfl := Except.ok.inj h
      have hnoted : SameRecords w₂.db
          ((noteCanonicalWrite context subsystem candidate mergeOutcome.target).run o k
            w₂).state.db :=
        SameRecords.run (noteCanonicalWrite_records _) o k w₂
      refine hafter _ (hmerged.others.trans hnoted.others) ?_ rfl
      exact fun haccepted => (hmerged.kept haccepted).trans hnoted

end Candidate

/-! ## Lists of candidates -/

/-- A candidate that was processed. -/
structure Step where
  proposal : CanonicalProposal
  /-- The state before. -/
  before : World
  /-- The state after it was recorded, which its merge finds. -/
  merging : World
  /-- How many questions had been asked by then. -/
  asked : Nat
  evaluation : ProposalEvaluation
  /-- The state after. -/
  after : World

/-- The candidates of a run, as far as it goes. -/
def trace (tables : Text.Tables) (context : ProposalProcessingContext) (subsystem : String)
    (o : Oracle system) : List CanonicalProposal → Nat → World → List Step
  | [], _, _ => []
  | candidate :: rest, n, w =>
    let recorded := (validateAndRecordProposal context candidate).run o n w
    let processed := (processCandidate tables context subsystem candidate).run o n w
    match processed.result with
    | .error _ => []
    | .ok evaluation =>
      { proposal := candidate
        before := w
        merging := recorded.state
        asked := recorded.asked
        evaluation := evaluation
        after := processed.state } ::
        trace tables context subsystem o rest processed.asked processed.state

/-- What the tables say about a candidate agrees with what was done with it. -/
structure Agrees (step : Step) (db : Database) : Prop where
  decision : step.evaluation.outcome = .accepted ↔
    (step.proposal.proposalId, "accepted") ∈ decisions db
  status : (step.proposal.proposalId, "accepted") ∈ decisions db ↔
    (step.proposal.proposalId, "accepted") ∈ statuses db
  harmless : step.evaluation.outcome = .rejected → SameCanonical step.before.db step.after.db

/-- The records of the proposals that were there are kept. -/
def RecordedKept (db db' : Database) : Prop :=
  ∀ id, (∃ status, (id, status) ∈ statuses db) → (∃ status, (id, status) ∈ statuses db') ∧
    (∀ status, (id, status) ∈ statuses db' ↔ (id, status) ∈ statuses db) ∧
    ∀ kind, (id, kind) ∈ decisions db' ↔ (id, kind) ∈ decisions db

section Trace

variable {tables : Text.Tables} {context : ProposalProcessingContext} {subsystem : String}
  {candidate : CanonicalProposal} {o : Oracle system} {w w' : World}
  {evaluation : ProposalEvaluation} {turnedDown : Prop}

theorem RecordedKept.refl (db : Database) : RecordedKept db db :=
  fun _ hrecorded => ⟨hrecorded, fun _ => Iff.rfl, fun _ => Iff.rfl⟩

theorem RecordedKept.trans {db db' db'' : Database} (h : RecordedKept db db')
    (h' : RecordedKept db' db'') : RecordedKept db db'' := by
  intro id hrecorded
  obtain ⟨hrecorded', hstatuses, hdecisions⟩ := h id hrecorded
  obtain ⟨hrecorded'', hstatuses', hdecisions'⟩ := h' id hrecorded'
  exact ⟨hrecorded'', fun status => (hstatuses' status).trans (hstatuses status),
    fun kind => (hdecisions' kind).trans (hdecisions kind)⟩

/-- A candidate leaves the records of the proposals before it as they are. -/
theorem Processed.recordedKept (h : Processed candidate turnedDown w w' evaluation) :
    RecordedKept w.db w'.db := by
  rintro id ⟨status, hmem⟩
  have hne : id ≠ candidate.proposalId := by
    rintro rfl
    exact h.unrecorded status hmem
  have hstatuses : ∀ status, (id, status) ∈ Proposal.statuses w'.db ↔
      (id, status) ∈ Proposal.statuses w.db := by
    intro status
    rw [h.statuses, List.mem_append, List.mem_singleton, or_iff_left]
    exact fun heq => hne (congrArg Prod.fst heq)
  exact ⟨⟨status, (hstatuses status).mpr hmem⟩, hstatuses, fun kind => h.others id kind hne⟩

/-- The tables agree with a candidate right after it exactly when it was rejected for good, or its
merge did not turn it down. -/
theorem Processed.agrees_iff {step : Step} (hafter : step.after = w') (hbefore : step.before = w)
    (hproposal : step.proposal = candidate) (hevaluation : step.evaluation = evaluation)
    (h : Processed candidate turnedDown w w' evaluation) :
    Agrees step w'.db ↔ ((validateProposal candidate).outcome = .accepted → ¬ turnedDown) := by
  subst hafter hbefore hproposal hevaluation
  cases hvalid : (validateProposal step.proposal).outcome with
  | rejected =>
    obtain ⟨hrejected, hundecided, hcanonical⟩ := h.rejected hvalid
    refine iff_of_true ⟨?_, ?_, fun _ => hcanonical⟩ (by rintro ⟨⟩)
    · rw [hrejected]
      exact iff_of_false (by rintro ⟨⟩) hundecided
    · refine iff_of_false hundecided ?_
      rw [h.statuses, List.mem_append, not_or]
      refine ⟨h.unrecorded _, ?_⟩
      rw [hvalid]
      simp [ProposalEvaluationOutcome.asStr]
  | accepted =>
    obtain ⟨houtcome, hdecided⟩ := h.accepted hvalid
    have hstatus : (step.proposal.proposalId, "accepted") ∈ Proposal.statuses step.after.db := by
      rw [h.statuses, hvalid]
      exact List.mem_append_right _ (List.mem_singleton.mpr rfl)
    constructor
    · intro hagrees _ hdown
      have haccepted := hagrees.decision.mpr (hagrees.status.mpr hstatus)
      rw [houtcome.mpr hdown] at haccepted
      cases haccepted
    · intro hnot
      have haccepted : step.evaluation.outcome = .accepted := by
        cases hcase : step.evaluation.outcome with
        | accepted => rfl
        | rejected => exact absurd (houtcome.mp hcase) (hnot rfl)
      have hdecision := hdecided haccepted
      refine ⟨iff_of_true haccepted hdecision, iff_of_true hdecision hstatus, ?_⟩
      intro hrejected
      rw [haccepted] at hrejected
      cases hrejected

/-- What is recorded of a candidate is not touched later. -/
theorem Agrees.congr {step : Step} {db db' : Database} (hkept : RecordedKept db db')
    (hrecorded : ∃ status, (step.proposal.proposalId, status) ∈ statuses db) :
    Agrees step db' ↔ Agrees step db := by
  obtain ⟨-, hstatuses, hdecisions⟩ := hkept _ hrecorded
  constructor
  · rintro ⟨hdecision, hstatus, hharmless⟩
    rw [hdecisions] at hdecision hstatus
    rw [hstatuses] at hstatus
    exact ⟨hdecision, hstatus, hharmless⟩
  · rintro ⟨hdecision, hstatus, hharmless⟩
    rw [← hdecisions] at hdecision
    rw [← hdecisions, ← hstatuses] at hstatus
    exact ⟨hdecision, hstatus, hharmless⟩

/-- The loop over candidates, from any counters. -/
def applyFrom (tables : Text.Tables) (context : ProposalProcessingContext) (subsystem : String)
    (summary : ProposalApplicationSummary) (proposals : List CanonicalProposal) :
    Harness ProposalApplicationSummary :=
  Prog.foldlM (fun summary candidate => do
    let evaluation ← processCandidate tables context subsystem candidate
    pure (summary.count evaluation)) summary proposals

/-- The merge of a candidate that was processed turned it down. -/
def Step.TurnedDown (tables : Text.Tables) (context : ProposalProcessingContext)
    (o : Oracle system) (step : Step) : Prop :=
  Proposal.TurnedDown tables context step.proposal o step.asked step.merging

theorem applyFrom_cons (summary : ProposalApplicationSummary) (candidate : CanonicalProposal)
    (rest : List CanonicalProposal) :
    applyFrom tables context subsystem summary (candidate :: rest) =
      (processCandidate tables context subsystem candidate >>= fun evaluation =>
        applyFrom tables context subsystem (summary.count evaluation) rest) :=
  Prog.bind_assoc ..

theorem trace_cons {rest : List CanonicalProposal} {n : Nat}
    (h : ((processCandidate tables context subsystem candidate).run o n w).result =
      .ok evaluation) :
    trace tables context subsystem o (candidate :: rest) n w =
      { proposal := candidate
        before := w
        merging := ((validateAndRecordProposal context candidate).run o n w).state
        asked := ((validateAndRecordProposal context candidate).run o n w).asked
        evaluation := evaluation
        after := ((processCandidate tables context subsystem candidate).run o n w).state } ::
        trace tables context subsystem o rest
          ((processCandidate tables context subsystem candidate).run o n w).asked
          ((processCandidate tables context subsystem candidate).run o n w).state := by
  rw [trace]
  simp only [h]

/-- The loop over a batch, by induction on its proposals: its steps are theirs, in order, the
summary counts their evaluations, and recorded proposals stay. -/
theorem run_applyFrom {proposals : List CanonicalProposal}
    {summary result : ProposalApplicationSummary} {n : Nat}
    (h : ((applyFrom tables context subsystem summary proposals).run o n w).result = .ok result) :
    RecordedKept w.db ((applyFrom tables context subsystem summary proposals).run o n w).state.db ∧
      (trace tables context subsystem o proposals n w).map Step.proposal = proposals ∧
      result = ((trace tables context subsystem o proposals n w).map Step.evaluation).foldl
        ProposalApplicationSummary.count summary ∧
      ((∀ step ∈ trace tables context subsystem o proposals n w,
          Agrees step ((applyFrom tables context subsystem summary proposals).run o n w).state.db) ↔
        ∀ step ∈ trace tables context subsystem o proposals n w,
          (validateProposal step.proposal).outcome = .accepted →
            ¬ step.TurnedDown tables context o) := by
  induction proposals generalizing summary n w with
  | nil =>
    obtain rfl := Except.ok.inj h
    refine ⟨RecordedKept.refl _, rfl, rfl, ?_⟩
    simp [trace]
  | cons candidate rest ih =>
    rw [applyFrom_cons] at h ⊢
    obtain ⟨evaluation, hprocess, hrest, hstate⟩ := Prog.run_bind_eq_ok o n w h
    rw [hstate, trace_cons hprocess]
    have hprocessed := run_processCandidate hprocess
    obtain ⟨hkept, hproposals, hresult, hagrees⟩ := ih hrest
    have hrecorded : ∃ status, (candidate.proposalId, status) ∈ statuses
        ((processCandidate tables context subsystem candidate).run o n w).state.db := by
      refine ⟨(validateProposal candidate).outcome.asStr, ?_⟩
      rw [hprocessed.statuses]
      exact List.mem_append_right _ (List.mem_singleton.mpr rfl)
    have hearlier : RecordedKept w.db
        ((processCandidate tables context subsystem candidate).run o n w).state.db :=
      hprocessed.recordedKept
    refine ⟨hearlier.trans hkept, ?_, hresult, ?_⟩
    · rw [List.map_cons, hproposals]
    · rw [List.forall_mem_cons, List.forall_mem_cons, hagrees]
      refine and_congr_left fun _ => ?_
      rw [Agrees.congr hkept hrecorded]
      exact hprocessed.agrees_iff rfl rfl rfl rfl

/-- Every candidate is counted once. -/
theorem foldl_count (evaluations : List ProposalEvaluation) (summary : ProposalApplicationSummary)
    (h : summary.evaluatedCount = summary.acceptedCount + summary.rejectedCount) :
    (evaluations.foldl ProposalApplicationSummary.count summary).evaluatedCount =
      (evaluations.foldl ProposalApplicationSummary.count summary).acceptedCount +
        (evaluations.foldl ProposalApplicationSummary.count summary).rejectedCount := by
  induction evaluations generalizing summary with
  | nil => exact h
  | cons evaluation rest ih =>
    refine ih (summary.count evaluation) ?_
    unfold ProposalApplicationSummary.count
    split
    · show summary.evaluatedCount + 1 = summary.acceptedCount + (summary.rejectedCount + 1)
      omega
    · show summary.evaluatedCount + 1 = summary.acceptedCount + 1 + summary.rejectedCount
      omega

/-- Of candidates that were processed without an error: all are counted, and the tables agree
with what was done with each of them exactly when no merge turned a validated one down. -/
theorem decisions_agree_iff {proposals : List CanonicalProposal} {n : Nat}
    {summary : ProposalApplicationSummary}
    (h : ((applyCandidateProposals tables context subsystem proposals).run o n w).result =
      .ok summary) :
    (trace tables context subsystem o proposals n w).map Step.proposal = proposals ∧
      summary = ((trace tables context subsystem o proposals n w).map Step.evaluation).foldl
        ProposalApplicationSummary.count {} ∧
      summary.evaluatedCount = summary.acceptedCount + summary.rejectedCount ∧
      ((∀ step ∈ trace tables context subsystem o proposals n w,
          Agrees step
            ((applyCandidateProposals tables context subsystem proposals).run o n w).state.db) ↔
        ∀ step ∈ trace tables context subsystem o proposals n w,
          (validateProposal step.proposal).outcome = .accepted →
            ¬ step.TurnedDown tables context o) := by
  obtain ⟨-, hproposals, hsummary, hagrees⟩ := run_applyFrom h
  refine ⟨hproposals, hsummary, ?_, hagrees⟩
  rw [hsummary]
  exact foldl_count _ _ rfl

end Trace

/-! ## An observation, once and twice -/

/-- The execution is there, and no proposal. -/
def nothingRecorded : World where
  db :=
    { executionRecords := [{ executionId := 3, traceId := 2, triggerKind := "t", status := "started" }] }

/-- The run on these candidates in steady surroundings. -/
def sampleRun (proposals : List CanonicalProposal) : Run system ProposalApplicationSummary :=
  (applyCandidateProposals Text.Tables.ascii Memory.sampleContext "continuity" proposals).run
    (steady 5) 0 nothingRecorded

/-- The candidates of that run. -/
def sampleTrace (proposals : List CanonicalProposal) : List Step :=
  trace Text.Tables.ascii Memory.sampleContext "continuity" (steady 5) proposals 0 nothingRecorded

/-- An observation, and a proposal that is about nobody. -/
def sampleCandidates : List CanonicalProposal :=
  [Memory.observation 20, { Memory.observation 21 with subjectRef := "" }]

/-- The observation is accepted and merged, the other one is rejected, and the tables agree with
both. -/
theorem decisions_agree_iff_candidates :
    (sampleTrace sampleCandidates).map (fun step => step.evaluation.outcome) =
        [.accepted, .rejected] ∧
      ∀ step ∈ sampleTrace sampleCandidates,
        Agrees step (sampleRun sampleCandidates).state.db := by
  have hok : (sampleRun sampleCandidates).result = .ok
      { evaluatedCount := 2, acceptedCount := 1, rejectedCount := 1, canonicalWriteCount := 1 } := by
    decide +kernel
  have hsteps : (sampleTrace sampleCandidates).map
      (fun step => (step.proposal, step.merging.db.memoryArtifacts.length)) =
      [(Memory.observation 20, 0), ({ Memory.observation 21 with subjectRef := "" }, 1)] := by
    decide +kernel
  refine ⟨by decide +kernel, (decisions_agree_iff hok).2.2.2.mpr fun step hstep hvalid => ?_⟩
  have hmem : (step.proposal, step.merging.db.memoryArtifacts.length) ∈
      (sampleTrace sampleCandidates).map
        fun step => (step.proposal, step.merging.db.memoryArtifacts.length) :=
    List.mem_map.mpr ⟨step, hstep, rfl⟩
  rw [hsteps] at hmem
  rcases List.mem_pair.mp hmem with hfirst | hsecond
  · obtain ⟨hproposal, hempty⟩ := Prod.mk.inj hfirst
    unfold Step.TurnedDown
    rw [hproposal]
    intro hturnedDown
    cases hturnedDown with
    | memory kind planned =>
      rw [Continuity.newestMemory, Continuity.activeMemory,
        List.length_eq_zero_iff.mp hempty] at planned
      cases planned
    | selfModel observed read known => cases observed
    | template given action => cases given
    | answer given action unexpected => cases given
    | deltas given action read turnedDown => cases given
  · obtain ⟨hproposal, -⟩ := Prod.mk.inj hsecond
    rw [hproposal] at hvalid
    cases hvalid

/-- The second of two proposals of the same observation is turned down as a duplicate, and stays
recorded as accepted. -/
theorem duplicate_recorded_as_accepted :
    (∃ summary, (sampleRun [Memory.observation 20, Memory.observation 21]).result = .ok summary) ∧
      ¬ ∀ step ∈ sampleTrace [Memory.observation 20, Memory.observation 21],
        Agrees step (sampleRun [Memory.observation 20, Memory.observation 21]).state.db := by
  have hok : (sampleRun [Memory.observation 20, Memory.observation 21]).result = .ok
      { evaluatedCount := 2, acceptedCount := 1, rejectedCount := 1, canonicalWriteCount := 1 } := by
    decide +kernel
  have hsteps : (sampleTrace [Memory.observation 20, Memory.observation 21]).map
      (fun step => (step.proposal.proposalId, step.evaluation.outcome)) =
      [(20, .accepted), (21, .rejected)] := by
    decide +kernel
  have hstatus : (21, "accepted") ∈ statuses
      (sampleRun [Memory.observation 20, Memory.observation 21]).state.db := by
    decide +kernel
  generalize sampleTrace [Memory.observation 20, Memory.observation 21] = steps at *
  generalize sampleRun [Memory.observation 20, Memory.observation 21] = run at *
  refine ⟨⟨_, hok⟩, fun hagrees => ?_⟩
  have hmem : (21, ProposalEvaluationOutcome.rejected) ∈ steps.map
      fun step => (step.proposal.proposalId, step.evaluation.outcome) := by
    rw [hsteps]
    exact List.mem_cons_of_mem _ List.mem_cons_self
  obtain ⟨step, hstep, hpair⟩ := List.mem_map.mp hmem
  obtain ⟨hid, houtcome⟩ := Prod.mk.inj hpair
  have hstep' := hagrees step hstep
  rw [← hid] at hstatus
  have haccepted := hstep'.decision.mpr (hstep'.status.mpr hstatus)
  rw [houtcome] at haccepted
  cases haccepted

end Proposal

end BlueLagoon
