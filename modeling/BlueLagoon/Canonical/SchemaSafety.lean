import BlueLagoon.Canonical.Decisions
import BlueLagoon.Identity.Constraints

/-!
# Candidates and the constraints of their tables

The validation looks at the fields of a proposal one by one, and the tables at the rows. A
confidence of more than a hundred percent passes the validation, and so do dates of a delta
that only contradict those of its proposal, and a target that no item has; each of them
makes a row that breaks a constraint. This module says exactly when a validated candidate is
safe from that.
-/

namespace BlueLagoon

open Interleaving Harness

namespace Proposal

/-- The `CHECK` and `FOREIGN KEY` constraints of `proposals`. -/
def proposalConstraints : List String :=
  ["proposals_confidence_check", "proposals_check", "proposals_execution_id_fkey",
   "proposals_episode_id_fkey", "proposals_source_ingress_id_fkey"]

/-- The `CHECK` and `FOREIGN KEY` constraints of `memory_artifacts`. -/
def memoryConstraints : List String :=
  ["memory_artifacts_confidence_check", "memory_artifacts_check", "memory_artifacts_check1",
   "memory_artifacts_proposal_id_fkey", "memory_artifacts_execution_id_fkey",
   "memory_artifacts_episode_id_fkey", "memory_artifacts_source_ingress_id_fkey",
   "memory_artifacts_superseded_by_artifact_id_fkey",
   "memory_artifacts_supersedes_artifact_id_fkey"]

/-- The `CHECK` and `FOREIGN KEY` constraints of the three tables. -/
def schemaConstraints : List String :=
  proposalConstraints ++ memoryConstraints ++ Identity.itemConstraints

/-- An error that comes from one of them. -/
def BreaksSchema (e : ErrorChain) : Prop :=
  ∃ constraint ∈ schemaConstraints, e.getLast? = some constraint

instance : DecidablePred BreaksSchema := fun e =>
  inferInstanceAs (Decidable (∃ constraint ∈ schemaConstraints, e.getLast? = some constraint))

/-- If it failed, then not by one of the constraints. -/
def Harmless {α : Type} (r : Except ErrorChain α) : Prop := ∀ e, r = .error e → ¬ BreaksSchema e

/-- A failure to find or read the seed of the self-model names no constraint. -/
def SeedReadable : Answers system
  | .selfModelSeedPath, r => Harmless (r : Except ErrorChain String)
  | .selfModelSeed _, r => Harmless (r : Except ErrorChain SelfModelSnapshot)
  | _, _ => True

/-! ## When a candidate is safe -/

section Condition

variable (tables : Text.Tables) (context : ProposalProcessingContext) (proposal : CanonicalProposal)

/-- Every item delta that is reached and not turned down makes a write that fits the items
it meets. -/
def ItemsFit (now : DateTime) : List (IdentityItemDelta × Uuid) → Database → Prop
  | [], _ => True
  | (delta, identityItemId) :: rest, db => ¬ DeltaTurnedDown tables delta db →
    ∀ write itemId, Identity.deltaWrite context proposal delta identityItemId db =
        some (write, itemId) →
      write.Fits db.identityItems ∧
        ItemsFit now rest { db with identityItems := write.rows now db.identityItems }

/-- The rows that the context names are there. -/
structure HasReferences (db : Database) : Prop where
  execution : db.hasExecution (some context.executionId) = true
  episode : db.hasEpisode context.episodeId = true
  ingress : db.hasIngressEvent context.sourceIngressId = true

/-- The confidence of the proposal is a percentage, and if the proposal is not recorded yet,
the rows of its context are there and its item deltas fit, whatever ids they are given. -/
def FitsSchema (w : World) : Prop :=
  proposal.confidencePct ≤ 100 ∧
    ((∀ status, (proposal.proposalId, status) ∉ statuses w.db) →
      HasReferences context w.db ∧
        ∀ payload, proposal.payload = .identityDelta payload → payload.interviewAction = none →
          ∀ itemIds : List Uuid, itemIds.length = payload.itemDeltas.length → itemIds.Nodup →
            (∀ id ∈ itemIds, id ∉ w.issued) →
            ∀ now, ItemsFit tables context proposal now (payload.itemDeltas.zip itemIds) w.db)

end Condition

/-- The store keeps its constraints, and its ids were issued. -/
structure StoreSound (w : World) : Prop where
  items : Identity.Stored w.db.identityItems
  itemIssued : ∀ id ∈ Identity.itemIds w.db.identityItems, id ∈ w.issued
  memoryIssued : ∀ row ∈ w.db.memoryArtifacts, row.memoryArtifactId ∈ w.issued
  decisionIssued : ∀ row ∈ w.db.mergeDecisions, row.mergeDecisionId ∈ w.issued
  decided : ∀ row ∈ w.db.mergeDecisions, ∃ status, (row.proposalId, status) ∈ statuses w.db

/-! ## Item deltas -/

section Deltas

variable {tables : Text.Tables} {context : ProposalProcessingContext} {proposal : CanonicalProposal}
  {delta : IdentityItemDelta} {now : DateTime} {db db' : Database}

theorem deltaTurnedDown_congr (h : db'.identityItems = db.identityItems) :
    DeltaTurnedDown tables delta db' ↔ DeltaTurnedDown tables delta db := by
  cases db
  cases db'
  obtain rfl := h
  exact Iff.rfl

theorem deltaWrite_congr {identityItemId : Uuid} (h : db'.identityItems = db.identityItems) :
    Identity.deltaWrite context proposal delta identityItemId db' =
      Identity.deltaWrite context proposal delta identityItemId db := by
  cases db
  cases db'
  obtain rfl := h
  rfl

/-- Whether the deltas fit is a matter of the items. -/
theorem ItemsFit.congr {deltas : List (IdentityItemDelta × Uuid)}
    (h : db'.identityItems = db.identityItems) :
    ItemsFit tables context proposal now deltas db' ↔
      ItemsFit tables context proposal now deltas db := by
  induction deltas generalizing db db' with
  | nil => exact Iff.rfl
  | cons first rest ih =>
    obtain ⟨delta, identityItemId⟩ := first
    rw [ItemsFit, ItemsFit, deltaTurnedDown_congr h, deltaWrite_congr h, h]
    refine imp_congr_right fun _ => forall₂_congr fun write itemId => imp_congr_right fun _ => ?_
    exact and_congr_right fun _ => ih rfl

/-- What the validation checks of a weight. -/
def WeightInRange (delta : IdentityItemDelta) : Prop :=
  ∀ weight, delta.weightPct = some weight → weight ≤ 100

/-- The item that a delta is about is there. -/
theorem resolveIdentityDeltaTarget_mem {targetItemId : Uuid}
    (h : Identity.resolveIdentityDeltaTarget delta db = some targetItemId) :
    targetItemId ∈ Identity.itemIds db.identityItems := by
  unfold Identity.resolveIdentityDeltaTarget at h
  split at h
  · split at h
    · rename_i hsome
      obtain rfl := Option.some.inj h
      obtain ⟨item, hitem⟩ := Option.isSome_iff_exists.mp hsome
      have hactive := List.find?_some hitem
      simp only [Identity.isActiveItem, Bool.and_eq_true, decide_eq_true_eq] at hactive
      exact Identity.mem_itemIds.mpr ⟨item, List.mem_of_find?_eq_some hitem, hactive.1⟩
    · cases h
  · obtain ⟨item, hfirst, rfl⟩ := Option.map_eq_some_iff.mp h
    have hmem := List.mem_filter.mp (Table.mem_of_first hfirst)
    exact List.mem_map_of_mem (List.mem_filter.mp hmem.1).1

theorem newRow_of_delta (hdelta : WeightInRange delta) (identityItemId : Uuid) :
    Identity.NewRow proposal.proposalId identityItemId
      (Identity.identityItemFromDelta context proposal delta identityItemId) where
  id := rfl
  proposal := rfl
  current := rfl
  weight := by
    intro weight hweight
    obtain ⟨pct, hpct, rfl⟩ := Option.map_eq_some_iff.mp hweight
    exact UInt8.le_iff_toNat_le.mp (hdelta pct hpct)

/-- The write of a delta is prepared. -/
theorem deltaWrite_prepared (hdelta : WeightInRange delta) {identityItemId itemId : Uuid}
    {write : Identity.ItemWrite}
    (h : Identity.deltaWrite context proposal delta identityItemId db = some (write, itemId)) :
    write.Prepared proposal.proposalId identityItemId db.identityItems := by
  have hnew : Identity.NewRow proposal.proposalId identityItemId
      (Identity.identityItemFromDelta context proposal delta identityItemId) :=
    newRow_of_delta hdelta identityItemId
  unfold Identity.deltaWrite at h
  dsimp only at h
  split at h
  · obtain ⟨rfl, -⟩ := Prod.mk.inj (Option.some.inj h)
    exact hnew
  · obtain ⟨target, -, hpair⟩ := Option.map_eq_some_iff.mp h
    obtain ⟨rfl, -⟩ := Prod.mk.inj hpair
    exact hnew.weight
  · obtain ⟨target, -, hpair⟩ := Option.map_eq_some_iff.mp h
    obtain ⟨rfl, -⟩ := Prod.mk.inj hpair
    trivial
  · obtain ⟨target, htarget, hpair⟩ := Option.map_eq_some_iff.mp h
    obtain ⟨rfl, -⟩ := Prod.mk.inj hpair
    exact ⟨hnew, resolveIdentityDeltaTarget_mem htarget⟩
  · obtain ⟨target, htarget, hpair⟩ := Option.map_eq_some_iff.mp h
    obtain ⟨rfl, -⟩ := Prod.mk.inj hpair
    exact ⟨hnew, resolveIdentityDeltaTarget_mem htarget⟩
  · obtain ⟨target, -, hpair⟩ := Option.map_eq_some_iff.mp h
    obtain ⟨rfl, -⟩ := Prod.mk.inj hpair
    trivial

/-- A delta that is turned down writes nothing. -/
theorem applyIdentityItemDelta_turnedDown (identityItemId : Uuid) (now : DateTime)
    (h : DeltaTurnedDown tables delta db) :
    ∃ reason, Identity.applyIdentityItemDelta tables context proposal delta identityItemId now db =
      .ok (.rejected reason, db) := by
  unfold Identity.applyIdentityItemDelta
  cases hcontrol : Identity.identityDeltaControlRejection tables delta db with
  | some reason => exact ⟨reason, rfl⟩
  | none =>
    rcases h with hsome | hmissing
    · rw [hcontrol] at hsome
      cases hsome
    · obtain ⟨missing, hwrite⟩ :=
        Identity.writeIdentityItemDelta_eq context proposal delta identityItemId now db
      rw [deltaWrite_eq_none.mpr hmissing] at hwrite
      exact ⟨missing, hwrite⟩

/-- Any other delta is its write. -/
theorem applyIdentityItemDelta_written (context : ProposalProcessingContext)
    (proposal : CanonicalProposal) (identityItemId : Uuid) (now : DateTime)
    (h : ¬ DeltaTurnedDown tables delta db) :
    ∃ write itemId,
      Identity.deltaWrite context proposal delta identityItemId db = some (write, itemId) ∧
        Identity.applyIdentityItemDelta tables context proposal delta identityItemId now db =
          (write.run now db).map (Identity.acceptedWith itemId) := by
  unfold Identity.applyIdentityItemDelta
  cases hcontrol : Identity.identityDeltaControlRejection tables delta db with
  | some reason =>
    refine absurd (Or.inl ?_) h
    rw [hcontrol]
    rfl
  | none =>
    obtain ⟨missing, hwrite⟩ :=
      Identity.writeIdentityItemDelta_eq context proposal delta identityItemId now db
    cases hdelta : Identity.deltaWrite context proposal delta identityItemId db with
    | none => exact absurd (Or.inr (deltaWrite_eq_none.mp hdelta)) h
    | some write =>
      obtain ⟨write, itemId⟩ := write
      rw [hdelta] at hwrite
      exact ⟨write, itemId, rfl, hwrite⟩

/-- Item deltas that fit go through, or one of them is turned down. -/
theorem applyItemDeltas_of_fits {deltas : List (IdentityItemDelta × Uuid)}
    (hstored : Identity.Stored db.identityItems)
    (hproposal : db.hasProposal (some proposal.proposalId) = true)
    (hweights : ∀ entry ∈ deltas, WeightInRange entry.1) (hnodup : (deltas.map Prod.snd).Nodup)
    (hfresh : ∀ id ∈ deltas.map Prod.snd, id ∉ Identity.itemIds db.identityItems)
    (hfits : ItemsFit tables context proposal now deltas db) :
    ∃ outcome items, Identity.applyItemDeltas tables context proposal now deltas db =
        .ok (outcome, { db with identityItems := items }) ∧ Identity.Stored items ∧
      ∀ id ∈ Identity.itemIds items,
        id ∈ Identity.itemIds db.identityItems ∨ id ∈ deltas.map Prod.snd := by
  induction deltas generalizing db with
  | nil => exact ⟨.ok [], db.identityItems, rfl, hstored, fun _ => Or.inl⟩
  | cons first rest ih =>
    obtain ⟨delta, identityItemId⟩ := first
    rw [List.map_cons, List.nodup_cons] at hnodup
    rw [List.forall_mem_cons] at hweights
    rw [List.map_cons, List.forall_mem_cons] at hfresh
    by_cases hdown : DeltaTurnedDown tables delta db
    · obtain ⟨reason, hdelta⟩ := applyIdentityItemDelta_turnedDown identityItemId now hdown
      refine ⟨.error reason, db.identityItems, ?_, hstored, fun _ => Or.inl⟩
      rw [Identity.applyItemDeltas, hdelta]
    · obtain ⟨write, itemId, hwrite, hdelta⟩ :=
        applyIdentityItemDelta_written context proposal identityItemId now hdown
      have hprepared := deltaWrite_prepared hweights.1 hwrite
      obtain ⟨hwriteFits, hrestFits⟩ := hfits hdown write itemId hwrite
      have hrun := Identity.ItemWrite.run_of_fits now hstored hprepared hproposal hfresh.1
        hwriteFits
      obtain ⟨outcome, items, hrest, hitems, hids⟩ := ih (hstored.written hprepared hrun) hproposal
        hweights.2 hnodup.2 (fun id hid hmem => by
          rcases Identity.mem_itemIds_rows hprepared hmem with hold | rfl
          · exact hfresh.2 id hid hold
          · exact hnodup.1 hid) hrestFits
      refine ⟨outcome.map (itemId :: ·), items, ?_, hitems, fun id hid => ?_⟩
      · rw [Identity.applyItemDeltas, hdelta, hrun]
        show (Identity.applyItemDeltas tables context proposal now rest _).map _ = _
        rw [hrest]
        rfl
      · rcases hids id hid with hold | hnew
        · rcases Identity.mem_itemIds_rows hprepared hold with hold | rfl
          · exact Or.inl hold
          · exact Or.inr List.mem_cons_self
        · exact Or.inr (List.mem_cons_of_mem _ hnew)

/-- When one does not fit, a constraint breaks. -/
theorem applyItemDeltas_breaks {deltas : List (IdentityItemDelta × Uuid)}
    (hstored : Identity.Stored db.identityItems)
    (hproposal : db.hasProposal (some proposal.proposalId) = true)
    (hweights : ∀ entry ∈ deltas, WeightInRange entry.1) (hnodup : (deltas.map Prod.snd).Nodup)
    (hfresh : ∀ id ∈ deltas.map Prod.snd, id ∉ Identity.itemIds db.identityItems)
    (hnot : ¬ ItemsFit tables context proposal now deltas db) :
    ∃ constraint ∈ Identity.itemConstraints,
      Identity.applyItemDeltas tables context proposal now deltas db = .error [constraint] := by
  induction deltas generalizing db with
  | nil => exact absurd trivial hnot
  | cons first rest ih =>
    obtain ⟨delta, identityItemId⟩ := first
    rw [List.map_cons, List.nodup_cons] at hnodup
    rw [List.forall_mem_cons] at hweights
    rw [List.map_cons, List.forall_mem_cons] at hfresh
    have hdown : ¬ DeltaTurnedDown tables delta db := by
      intro hdown
      exact hnot fun hgoes => absurd hdown hgoes
    obtain ⟨write, itemId, hwrite, hdelta⟩ :=
      applyIdentityItemDelta_written context proposal identityItemId now hdown
    have hprepared := deltaWrite_prepared hweights.1 hwrite
    by_cases hwriteFits : write.Fits db.identityItems
    · have hrun := Identity.ItemWrite.run_of_fits now hstored hprepared hproposal hfresh.1
        hwriteFits
      have hrestNot : ¬ ItemsFit tables context proposal now rest
          { db with identityItems := write.rows now db.identityItems } := by
        intro hrestFits
        refine hnot fun _ write' itemId' hwrite' => ?_
        rw [hwrite] at hwrite'
        obtain ⟨rfl, rfl⟩ := Prod.mk.inj (Option.some.inj hwrite')
        exact ⟨hwriteFits, hrestFits⟩
      obtain ⟨constraint, hmem, hrest⟩ := ih (hstored.written hprepared hrun) hproposal
        hweights.2 hnodup.2 (fun id hid hmem => by
          rcases Identity.mem_itemIds_rows hprepared hmem with hold | rfl
          · exact hfresh.2 id hid hold
          · exact hnodup.1 hid) hrestNot
      refine ⟨constraint, hmem, ?_⟩
      rw [Identity.applyItemDeltas, hdelta, hrun]
      show (Identity.applyItemDeltas tables context proposal now rest _).map _ = _
      rw [hrest]
      rfl
    · obtain ⟨constraint, hmem, hrun⟩ :=
        Identity.ItemWrite.run_breaks now hprepared hfresh.1 hwriteFits
      refine ⟨constraint, hmem, ?_⟩
      rw [Identity.applyItemDeltas, hdelta, hrun]
      rfl

end Deltas

/-! ## Programs that break no constraint -/

section Unbroken

variable {α β : Type}

/-- The program ended without breaking one of the constraints. -/
def Unbroken : Except ErrorChain α → World → List Event → Prop := fun r _ _ => Harmless r

/-- From this state, the program breaks none of the constraints. -/
def SafeAt (p : Harness α) (w : World) : Prop :=
  ∀ es, p.Alone SeedReadable Unbroken w es

/-- The program breaks none of the constraints in any state. -/
def Safe (p : Harness α) : Prop := ∀ w, SafeAt p w

variable {p : Harness α} {f : α → Harness β} {w : World}

theorem not_breaksSchema_of_isFault {e : ErrorChain} (h : IsFault e) : ¬ BreaksSchema e := by
  rintro ⟨constraint, hmem, hlast⟩
  rw [h] at hlast
  obtain rfl := Option.some.inj hlast
  revert hmem
  decide

theorem not_breaksSchema_of_named {conditions : List (Bool × String)} {constraint : String}
    (context : ErrorChain)
    (hnames : ∀ condition ∈ conditions, condition.2 ∉ schemaConstraints)
    (h : Database.firstBroken conditions = some constraint) :
    ¬ BreaksSchema (context ++ [constraint]) := by
  obtain ⟨condition, hmem, -, rfl⟩ := Database.firstBroken_eq_some h
  rintro ⟨constraint, hconstraint, hlast⟩
  rw [List.getLast?_concat] at hlast
  obtain rfl := Option.some.inj hlast
  exact hnames condition hmem hconstraint

theorem safe_ret (a : α) : Safe (Prog.ret a) := fun _ _ => by
  rintro e ⟨⟩

theorem safe_fail {e : ErrorChain} (h : ¬ BreaksSchema e) : Safe (Prog.fail e : Harness α) :=
  fun _ _ => by
    intro e' he
    obtain rfl := Except.error.inj he
    exact h

theorem safe_ofExcept {r : Except ErrorChain α} (h : Harmless r) :
    Safe (Prog.ofExcept r) :=
  fun _ _ => Prog.alone_ofExcept.mpr h

theorem alone_unbroken_of_bind {es : List Event}
    (h : (p.bind f).Alone SeedReadable Unbroken w es) : p.Alone SeedReadable Unbroken w es := by
  refine (Prog.alone_bind.mp h).mono fun r w' es' hr => ?_
  cases r with
  | ok a => rintro e ⟨⟩
  | error e =>
    intro e' he
    obtain rfl := Except.error.inj he
    exact hr e rfl

/-- The rule of sequencing, for a program that is safe after whatever comes before. -/
theorem Safe.bind (hp : Safe p) (hf : ∀ a, Safe (f a)) : Safe (p.bind f) := by
  intro w es
  exact (hp w es).bind (fun a w' es' _ => hf a w' es') fun e w' es' he e' he' => by
    obtain rfl := Except.error.inj he'
    exact he e rfl

/-- The same, from one state, for a first part that leaves `T`. -/
theorem SafeAt.bind {T : α → World → Prop}
    (hp : ∀ es, p.Alone SeedReadable (fun r w' _ => match r with
      | .ok a => T a w'
      | .error e => ¬ BreaksSchema e) w es)
    (hf : ∀ a w', T a w' → SafeAt (f a) w') : SafeAt (p.bind f) w := by
  intro es
  refine (hp es).bind (fun a w' es' ha => hf a w' ha es') fun e w' es' he e' he' => ?_
  obtain rfl := Except.error.inj he'
  exact he

theorem safeAt_transaction {message : String}
    {body : DateTime → Database → Except ErrorChain (Effect α)}
    (h : ∀ now e, body now w.db = .error e → ¬ BreaksSchema e) :
    SafeAt (transaction message body) w := by
  intro es
  refine alone_transaction (fun now effect _ => ?_) (fun now e hbody => ?_) fun e hfault => ?_
  · rintro e ⟨⟩
  · intro e' he
    obtain rfl := Except.error.inj he
    exact h now e hbody
  · intro e' he
    obtain rfl := Except.error.inj he
    exact not_breaksSchema_of_isFault hfault

theorem safeAt_inTransaction {body : DateTime → Database → Except ErrorChain (Effect α)}
    (h : ∀ now e, body now w.db = .error e → ¬ BreaksSchema e) : SafeAt (inTransaction body) w := by
  intro es
  refine alone_inTransaction (fun now effect _ => ?_) (fun now e hbody => ?_) fun e hfault => ?_
  · rintro e ⟨⟩
  · intro e' he
    obtain rfl := Except.error.inj he
    exact h now e hbody
  · intro e' he
    obtain rfl := Except.error.inj he
    exact not_breaksSchema_of_isFault hfault

theorem safe_newUuid : Safe newUuid := fun _ _ => alone_newUuid fun _ _ => by
  rintro e ⟨⟩

theorem safe_utcNow : Safe utcNow := fun _ _ => alone_utcNow fun _ _ => by
  rintro e ⟨⟩

theorem safe_newUuids (n : Nat) : Safe (newUuids n) :=
  fun _ _ => alone_newUuids n fun _ _ _ _ _ _ => by
    rintro e ⟨⟩

theorem safe_rejectMerge (proposalId : Uuid) (reason : String) :
    Safe (Continuity.rejectMerge proposalId reason) := by
  refine Safe.bind (fun w => safeAt_transaction fun now e hbody => ?_) fun _ => safe_ret _
  cases hbody

theorem safe_auditInsert (event : NewAuditEvent) : Safe (Audit.insert event) := by
  refine Safe.bind safe_newUuid fun eventId w => safeAt_transaction fun now e hbody => ?_
  cases hbody

theorem safe_noteCanonicalWrite (context : ProposalProcessingContext) (subsystem : String)
    (candidate : CanonicalProposal) (target : Option MergeDecisionTarget) :
    Safe (noteCanonicalWrite context subsystem candidate target) := by
  cases target with
  | none => exact safe_ret _
  | some target => exact Safe.bind (safe_auditInsert _) fun _ => safe_ret _

/-! ### The self-model -/

theorem insertSelfModelArtifact_unbroken {row : SelfModelArtifactRecord} {now : DateTime}
    {db : Database} {e : ErrorChain}
    (h : Continuity.insertSelfModelArtifact row now db = .error e) : ¬ BreaksSchema e := by
  obtain ⟨constraint, hviolation, rfl⟩ := Continuity.guarded_eq_error.mp h
  refine not_breaksSchema_of_named ["failed to insert self-model artifact"] ?_ hviolation
  simp only [List.forall_mem_cons, List.not_mem_nil, false_implies, implies_true, and_true]
  decide

theorem markSelfModelArtifactSuperseded_unbroken {id successor : Uuid} {supersededAt : DateTime}
    {db : Database} {e : ErrorChain}
    (h : Continuity.markSelfModelArtifactSuperseded id successor supersededAt db = .error e) :
    ¬ BreaksSchema e := by
  obtain ⟨constraint, hviolation, rfl⟩ := Continuity.guarded_eq_error.mp h
  split at hviolation
  · refine not_breaksSchema_of_named ["failed to mark self-model artifact as superseded"] ?_
      hviolation
    simp only [List.forall_mem_cons, List.not_mem_nil, false_implies, implies_true, and_true]
    decide
  · cases hviolation

theorem selfModel_writeArtifact_unbroken {row : SelfModelArtifactRecord} {proposalId : Uuid}
    {supersededAt now : DateTime} {db : Database} {e : ErrorChain}
    (h : SelfModel.writeArtifact row proposalId supersededAt now db = .error e) :
    ¬ BreaksSchema e := by
  unfold SelfModel.writeArtifact at h
  rcases except_bind_eq_error.mp h with hinsert | ⟨inserted, -, h⟩
  · exact insertSelfModelArtifact_unbroken hinsert
  cases hprevious : row.supersedesArtifactId with
  | none =>
    rw [hprevious] at h
    cases h
  | some previousArtifactId =>
    rw [hprevious] at h
    rcases except_bind_eq_error.mp h with hmark | ⟨replaced, -, h⟩
    · exact markSelfModelArtifactSuperseded_unbroken hmark
    · cases h

theorem validateSnapshot_unbroken {snapshot : SelfModelSnapshot} {e : ErrorChain}
    (h : SelfModel.validateSnapshot snapshot = .error e) : ¬ BreaksSchema e := by
  unfold SelfModel.validateSnapshot at h
  split at h
  · obtain rfl := Except.error.inj h
    decide
  split at h
  · obtain rfl := Except.error.inj h
    decide
  split at h
  · obtain rfl := Except.error.inj h
    decide
  split at h
  · obtain rfl := Except.error.inj h
    decide
  split at h
  · obtain rfl := Except.error.inj h
    decide
  · cases h

theorem safe_snapshotFromCanonicalArtifact (artifact : SelfModelArtifactRecord) :
    Safe (Prog.ofExcept (SelfModel.snapshotFromCanonicalArtifact artifact)) := by
  refine safe_ofExcept fun e h => ?_
  rcases except_bind_eq_error.mp h with hcheck | ⟨_, -, ⟨⟩⟩
  exact validateSnapshot_unbroken hcheck

theorem safe_listActiveSelfModelArtifacts (limit : Nat) :
    Safe (Continuity.listActiveSelfModelArtifacts limit) :=
  fun _ => safeAt_transaction fun now e hbody => by cases hbody

theorem safe_selectSingleActiveArtifact (artifacts : List SelfModelArtifactRecord) :
    Safe (Prog.ofExcept (SelfModel.selectSingleActiveArtifact artifacts)) := by
  refine safe_ofExcept fun e h => ?_
  unfold SelfModel.selectSingleActiveArtifact at h
  split at h
  · cases h
  · cases h
  · obtain rfl := Except.error.inj h
    decide

theorem safe_requireSelfModelConfig : Safe SelfModel.requireSelfModelConfig := by
  intro w es answer hanswer
  exact Prog.alone_ofExcept.mpr hanswer

theorem safe_loadSeedSelfModelSnapshot : Safe SelfModel.loadSeedSelfModelSnapshot := by
  refine Safe.bind safe_requireSelfModelConfig fun seedPath => Safe.bind ?_ fun snapshot => ?_
  · intro w es answer hanswer
    exact Prog.alone_ofExcept.mpr hanswer
  · refine Safe.bind (safe_ofExcept fun e h => validateSnapshot_unbroken h) fun _ => ?_
    exact safe_ret _

theorem safe_loadSelfModelSnapshot (loadContext : SelfModelLoadContext) :
    Safe (SelfModel.loadSelfModelSnapshot loadContext) := by
  refine Safe.bind safe_requireSelfModelConfig fun seedPath => ?_
  refine Safe.bind (safe_listActiveSelfModelArtifacts 2) fun activeArtifacts => ?_
  refine Safe.bind (safe_selectSingleActiveArtifact _) fun active => ?_
  cases active with
  | some activeArtifact =>
    exact Safe.bind (safe_snapshotFromCanonicalArtifact _) fun _ => safe_ret _
  | none =>
    refine Safe.bind safe_loadSeedSelfModelSnapshot fun snapshot => ?_
    refine Safe.bind safe_newUuid fun canonicalArtifactId => ?_
    refine Safe.bind (fun w => safeAt_transaction fun now e hbody => ?_) fun _ => safe_ret _
    exact insertSelfModelArtifact_unbroken (except_map_eq_error.mp hbody)

/-- The merge of an observation writes none of the three tables. -/
theorem safe_applySelfModelProposalMerge (context : ProposalProcessingContext)
    (proposal : CanonicalProposal) :
    Safe (SelfModel.applySelfModelProposalMerge context proposal) := by
  unfold SelfModel.applySelfModelProposalMerge
  dsimp only
  split
  · exact safe_rejectMerge _ _
  split
  · refine Safe.bind ?_ fun loaded => ?_
    · refine Safe.bind (safe_listActiveSelfModelArtifacts 2) fun activeArtifacts => ?_
      refine Safe.bind (safe_selectSingleActiveArtifact _) fun active => ?_
      cases active with
      | some artifact =>
        exact Safe.bind (safe_snapshotFromCanonicalArtifact _) fun _ => safe_ret _
      | none => exact Safe.bind (safe_loadSelfModelSnapshot _) fun _ => safe_ret _
    · obtain ⟨current, supersededArtifactId⟩ := loaded
      dsimp only
      split
      · exact safe_rejectMerge _ _
      · refine Safe.bind safe_newUuid fun nextArtifactId => ?_
        refine Safe.bind safe_utcNow fun supersededAt => ?_
        refine Safe.bind (fun w => safeAt_inTransaction fun now e hbody => ?_) fun _ => safe_ret _
        exact selfModel_writeArtifact_unbroken (except_map_eq_error.mp hbody)
  · exact safe_rejectMerge _ _

end Unbroken

/-! ## Recorded candidates -/

/-- What the merge of a validated candidate can rely on. -/
structure Recorded (context : ProposalProcessingContext) (proposal : CanonicalProposal)
    (w : World) : Prop where
  confidence : proposal.confidencePct ≤ 100
  proposal : w.db.hasProposal (some proposal.proposalId) = true
  references : HasReferences context w.db
  items : Identity.Stored w.db.identityItems
  itemIssued : ∀ id ∈ Identity.itemIds w.db.identityItems, id ∈ w.issued
  memoryIssued : ∀ row ∈ w.db.memoryArtifacts, row.memoryArtifactId ∈ w.issued

section Recorded

variable {tables : Text.Tables} {context : ProposalProcessingContext} {proposal : CanonicalProposal}
  {w : World}

/-- The dates of a validated proposal are in order. -/
theorem validity_of_validated (hvalid : (validateProposal proposal).outcome = .accepted) :
    endsBeforeItStarts proposal.validFrom proposal.validTo = false := by
  unfold validateProposal at hvalid
  repeat' split at hvalid
  all_goals first | cases hvalid | skip
  all_goals simpa using ‹¬ endsBeforeItStarts proposal.validFrom proposal.validTo = true›

/-! ### Memory -/

theorem hasMemoryArtifact_iff {db : Database} {id : Option Uuid} :
    db.hasMemoryArtifact id = true ↔
      ∀ i, id = some i → ∃ row ∈ db.memoryArtifacts, row.memoryArtifactId = i := by
  cases id with
  | none => simp [Database.hasMemoryArtifact]
  | some i =>
    rw [Database.hasMemoryArtifact, Option.all_some, List.any_eq_true]
    simp only [decide_eq_true_eq, Option.some.injEq, forall_eq']

/-- An artifact that refers to rows that are there, under a fresh id. -/
structure NewArtifact (row : MemoryArtifactRecord) (db : Database) : Prop where
  confidence : row.confidence ≤ 100
  current : row.supersededByArtifactId = none
  proposal : db.hasProposal (some row.proposalId) = true
  execution : db.hasExecution (some row.executionId) = true
  episode : db.hasEpisode row.episodeId = true
  ingress : db.hasIngressEvent row.sourceIngressId = true
  fresh : ∀ other ∈ db.memoryArtifacts, other.memoryArtifactId ≠ row.memoryArtifactId
  supersedes : ∀ id, row.supersedesArtifactId = some id →
    ∃ other ∈ db.memoryArtifacts, other.memoryArtifactId = id

theorem insertMemoryArtifact_unbroken {row : MemoryArtifactRecord} {now : DateTime}
    {db : Database} (hnew : NewArtifact row db) {e : ErrorChain}
    (h : Continuity.insertMemoryArtifact row now db = .error e) : ¬ BreaksSchema e := by
  obtain ⟨constraint, hviolation, rfl⟩ := Continuity.guarded_eq_error.mp h
  obtain ⟨condition, hmem, hbroken, rfl⟩ := Database.firstBroken_eq_some hviolation
  have hself : row.supersedesArtifactId ≠ some row.memoryArtifactId := by
    intro hself
    obtain ⟨other, hother, hid⟩ := hnew.supersedes _ hself
    exact hnew.fresh other hother hid
  simp only [List.mem_cons, List.not_mem_nil, or_false] at hmem
  rcases hmem with rfl | rfl | rfl | rfl | rfl | rfl | rfl | rfl | rfl | rfl | rfl
  · exact absurd hnew.confidence (of_decide_eq_false hbroken)
  · rw [hnew.current] at hbroken
    cases hbroken
  · exact absurd hself (of_decide_eq_false hbroken)
  · show ¬ BreaksSchema ["failed to insert memory artifact", "memory_artifacts_pkey"]
    decide
  · show ¬ BreaksSchema ["failed to insert memory artifact", "memory_artifacts_proposal_id_key"]
    decide
  · exact absurd hnew.proposal (by simp_all)
  · exact absurd hnew.execution (by simp_all)
  · exact absurd hnew.episode (by simp_all)
  · exact absurd hnew.ingress (by simp_all)
  · rw [hnew.current] at hbroken
    cases hbroken
  · exact absurd (hasMemoryArtifact_iff.mpr hnew.supersedes) (by simp_all)

/-- The transaction of a merge, with a target that is there, breaks no constraint. -/
theorem memory_writeArtifact_unbroken {row : MemoryArtifactRecord} {target : Option Uuid}
    {supersededAt now : DateTime} {db : Database} (hnew : NewArtifact row db)
    (htarget : ∀ id, target = some id → ∃ other ∈ db.memoryArtifacts, other.memoryArtifactId = id)
    {e : ErrorChain} (h : Memory.writeArtifact row target supersededAt now db = .error e) :
    ¬ BreaksSchema e := by
  unfold Memory.writeArtifact at h
  rcases except_bind_eq_error.mp h with hinsert | ⟨inserted, hinsert, h⟩
  · exact insertMemoryArtifact_unbroken hnew hinsert
  cases target with
  | none => cases h
  | some targetArtifactId =>
    rcases except_bind_eq_error.mp h with hmark | ⟨replaced, -, h⟩
    · exfalso
      rw [Continuity.insertMemoryArtifact, Continuity.guarded_eq_ok] at hinsert
      obtain ⟨-, rfl⟩ := hinsert
      obtain ⟨constraint, hviolation, -⟩ := Continuity.guarded_eq_error.mp hmark
      split at hviolation
      · -- The successor is there, and is not the target.
        obtain ⟨other, hother, hid⟩ := htarget targetArtifactId rfl
        obtain ⟨condition, hmem, hbroken, -⟩ := Database.firstBroken_eq_some hviolation
        simp only [List.mem_cons, List.not_mem_nil, or_false] at hmem
        rcases hmem with rfl | rfl
        · refine of_decide_eq_false hbroken fun heq => hnew.fresh other hother ?_
          rw [hid, heq]
        · have hpresent : Database.hasMemoryArtifact
              { db with
                memoryArtifacts :=
                  db.memoryArtifacts ++ [{ row with createdAt := now, updatedAt := now }] }
              (some row.memoryArtifactId) = true := by
            refine hasMemoryArtifact_iff.mpr fun i hi => ?_
            obtain rfl := Option.some.inj hi
            exact ⟨_, List.mem_append_right _ List.mem_cons_self, rfl⟩
          rw [show Database.hasMemoryArtifact _ _ = false from hbroken] at hpresent
          cases hpresent
      · cases hviolation
    · cases h

/-- An identifier is fresh, and nothing else changed. -/
theorem SafeAt.newUuid_bind {β : Type} {f : Uuid → Harness β}
    (h : ∀ id, id ∉ w.issued → SafeAt (f id) { w with issued := id :: w.issued }) :
    SafeAt (newUuid.bind f) w := by
  refine SafeAt.bind (T := fun id w' => id ∉ w.issued ∧ w' = { w with issued := id :: w.issued })
    (fun es => alone_newUuid fun id hid => ⟨hid, rfl⟩) ?_
  rintro id w' ⟨hid, rfl⟩
  exact h id hid

/-- A program that is safe anywhere may follow. -/
theorem SafeAt.then {α β : Type} {p : Harness α} {f : α → Harness β} (h : SafeAt p w)
    (hf : ∀ a, Safe (f a)) : SafeAt (p.bind f) w := by
  intro es
  refine (h es).bind (fun a w' es' _ => hf a w' es') fun e w' es' he e' he' => ?_
  obtain rfl := Except.error.inj he'
  exact he e rfl

/-- What leaves the database alone. -/
theorem SafeAt.idle_bind {α β : Type} {p : Harness α} {f : α → Harness β}
    (hsafe : Safe p) (hp : p.Confined Identity.Idle)
    (h : ∀ a w', w'.db = w.db → SafeAt (f a) w') : SafeAt (p.bind f) w := by
  intro es
  have hboth : p.Alone SeedReadable (fun r w' _ => Harmless r ∧ w'.db = w.db) w es :=
    (hsafe w es).and (Identity.alone_idle hp)
  refine hboth.bind (fun a w' es' ha => h a w' ha.2 es') fun e w' es' he e' he' => ?_
  obtain rfl := Except.error.inj he'
  exact he.1 e rfl

/-- A merge into a store that has the target keeps every constraint of the schema. -/
theorem memory_mergeIntoStore_safe (hrecorded : Recorded context proposal w)
    {target : Option Uuid} (htarget : proposal.supersedesArtifactId = target)
    (hthere : ∀ id, target = some id → ∃ row ∈ w.db.memoryArtifacts, row.memoryArtifactId = id) :
    SafeAt (Memory.mergeIntoStore context proposal target) w := by
  refine SafeAt.newUuid_bind fun memoryArtifactId hfresh => ?_
  have hpayload : Safe (Memory.memoryPayload proposal) := by
    unfold Memory.memoryPayload
    split
    · exact safe_ret _
    · exact safe_fail (by decide)
  have hpayload' : (Memory.memoryPayload proposal).Confined Identity.Idle := by
    unfold Memory.memoryPayload
    split
    · exact Prog.confined_ret _
    · exact Prog.confined_fail _
  refine SafeAt.idle_bind hpayload hpayload' fun payload w₁ hdb₁ => ?_
  refine SafeAt.idle_bind safe_utcNow (confined_utcNow Identity.idle_refl) fun supersededAt w₂ hdb₂ => ?_
  have hdb : w₂.db = w.db := hdb₂.trans hdb₁
  refine SafeAt.then (safeAt_inTransaction fun now e hbody => ?_) fun _ => safe_ret _
  rw [hdb] at hbody
  refine memory_writeArtifact_unbroken ?_ hthere (except_map_eq_error.mp hbody)
  exact
      { confidence := UInt8.le_iff_toNat_le.mp hrecorded.confidence
        current := rfl
        proposal := hrecorded.proposal
        execution := hrecorded.references.execution
        episode := hrecorded.references.episode
        ingress := hrecorded.references.ingress
        fresh := fun other hother heq => by
          have hissued := hrecorded.memoryIssued other hother
          rw [show other.memoryArtifactId = memoryArtifactId from heq] at hissued
          exact hfresh hissued
        supersedes := fun id hid => hthere id (htarget.symm.trans hid) }

/-- The merge of a recorded memory proposal breaks no constraint. -/
theorem applyMemoryProposalMerge_safe (hvalid : (validateProposal proposal).outcome = .accepted)
    (hrecorded : Recorded context proposal w) :
    SafeAt (Memory.applyMemoryProposalMerge context proposal) w := by
  unfold Memory.applyMemoryProposalMerge
  dsimp only
  rw [if_neg (not_rejected_of_validated hvalid)]
  refine SafeAt.bind (T := fun active w' => w' = w ∧ ∀ row ∈ active, row ∈ w.db.memoryArtifacts)
    (fun es => alone_transaction (fun now effect hbody => ?_) (fun now e hbody => ?_)
      fun e hfault => not_breaksSchema_of_isFault hfault) ?_
  · obtain rfl := Except.ok.inj hbody
    refine ⟨rfl, fun row hrow => ?_⟩
    have hsorted := List.mem_of_mem_take hrow
    exact (List.mem_filter.mp ((List.mem_insertionSort _).mp hsorted)).1
  · cases hbody
  rintro active w' ⟨rfl, hactive⟩
  split
  · exact safe_rejectMerge _ _ _
  · rename_i hplan
    obtain ⟨-, -, -, hposture⟩ := Memory.planMemoryMerge_writes fun reason => by
      rw [hplan]
      rintro ⟨⟩
    rw [hplan] at hposture
    have hnone := Memory.supersedes_none_of_independent hvalid
      (Memory.planPosture_insertNew hposture.symm)
    exact memory_mergeIntoStore_safe hrecorded hnone (by rintro id ⟨⟩)
  · rename_i targetArtifactId hplan
    obtain ⟨-, -, -, hposture⟩ := Memory.planMemoryMerge_writes fun reason => by
      rw [hplan]
      rintro ⟨⟩
    rw [hplan] at hposture
    obtain ⟨hsupersedes, old, hold, hid, -⟩ := Memory.planPosture_supersede hposture.symm
    refine memory_mergeIntoStore_safe hrecorded hsupersedes fun id hsome => ?_
    obtain rfl := Option.some.inj hsome
    exact ⟨old, hactive old hold, hid⟩

/-! ### The interview -/

theorem recordLifecycleTransition_unbroken {row : IdentityLifecycleRecord} {now : DateTime}
    {db : Database} {e : ErrorChain}
    (h : Identity.recordLifecycleTransition row now db = .error e) : ¬ BreaksSchema e := by
  obtain ⟨constraint, hviolation, rfl⟩ := Identity.checked_eq_error.mp h
  refine not_breaksSchema_of_named [] ?_ hviolation
  simp only [List.forall_mem_cons, List.not_mem_nil, false_implies, implies_true, and_true]
  decide

theorem insertIdentityInterview_unbroken {row : IdentityInterviewRecord} {now : DateTime}
    {db : Database} {e : ErrorChain}
    (h : Identity.insertIdentityInterview row now db = .error e) : ¬ BreaksSchema e := by
  obtain ⟨constraint, hviolation, rfl⟩ := Identity.checked_eq_error.mp h
  refine not_breaksSchema_of_named [] ?_ hviolation
  simp only [List.forall_mem_cons, List.not_mem_nil, false_implies, implies_true, and_true]
  decide

theorem safe_startCustomInterview (payload : IdentityDeltaProposal) :
    Safe (Identity.startCustomInterview proposal payload) := by
  refine Safe.bind safe_newUuid fun interviewId => ?_
  refine Safe.bind safe_newUuid fun lifecycleId => ?_
  refine Safe.bind safe_utcNow fun startedAt => ?_
  refine Safe.bind (fun w => safeAt_inTransaction fun now e hbody => ?_) fun _ => safe_ret _
  rcases except_bind_eq_error.mp (except_map_eq_error.mp hbody) with hinsert | ⟨inserted, -, hrecord⟩
  · exact insertIdentityInterview_unbroken hinsert
  · exact recordLifecycleTransition_unbroken hrecord

theorem safe_getCurrentLifecycle : Safe Identity.getCurrentLifecycle :=
  fun _ => safeAt_inTransaction fun now e hbody => by cases hbody

theorem safe_cancelCustomInterview (reason : Option String) :
    Safe (Identity.cancelCustomInterview proposal reason) := by
  refine Safe.bind safe_getCurrentLifecycle fun lifecycle => ?_
  cases lifecycle with
  | none => exact safe_ret _
  | some lifecycle =>
    refine Safe.bind ?_ fun _ => ?_
    · cases lifecycle.activeInterviewId with
      | none => exact safe_ret _
      | some interviewId =>
        exact fun w => safeAt_inTransaction fun now e hbody => by cases hbody
    refine Safe.bind safe_newUuid fun lifecycleId => ?_
    refine Safe.bind (fun w => safeAt_inTransaction fun now e hbody => ?_) fun _ => safe_ret _
    exact recordLifecycleTransition_unbroken (except_map_eq_error.mp hbody)

/-- An item that can only break its key. -/
structure PlainItem (proposalId : Uuid) (row : IdentityItemRecord) : Prop where
  range : Identity.InRange row
  weight : ∀ weight, row.weight = some weight → weight ≤ 100
  proposal : row.proposalId = some proposalId
  alone : row.supersedesItemId = none
  current : row.supersededByItemId = none

theorem insertIdentityItem_unbroken {row : IdentityItemRecord} {now : DateTime} {db : Database}
    {proposalId : Uuid} (hplain : PlainItem proposalId row)
    (hproposal : db.hasProposal (some proposalId) = true) {e : ErrorChain}
    (h : Identity.insertIdentityItem row now db = .error e) : ¬ BreaksSchema e := by
  obtain ⟨constraint, hviolation, rfl⟩ := Identity.checked_eq_error.mp h
  obtain ⟨condition, hmem, hbroken, rfl⟩ := Database.firstBroken_eq_some hviolation
  have hchecks : ∀ check ∈ Database.identityItemChecks row, check.1 = true := by
    refine Identity.identityItemChecks_iff.mpr ⟨?_, ?_, hplain.range, hplain.weight⟩
    · rw [hplain.current]
      rintro ⟨⟩
    · rw [hplain.alone]
      rintro ⟨⟩
  rcases List.mem_append.mp hmem with hcheck | hkeys
  · rw [hchecks condition hcheck] at hbroken
    cases hbroken
  simp only [List.mem_cons, List.not_mem_nil, or_false] at hkeys
  rcases hkeys with rfl | rfl | rfl | rfl
  · show ¬ BreaksSchema ["identity_items_pkey"]
    decide
  · rw [hplain.proposal] at hbroken
    rw [show db.hasProposal (some proposalId) = false from hbroken] at hproposal
    cases hproposal
  · rw [hplain.alone] at hbroken
    cases hbroken
  · rw [hplain.current] at hbroken
    cases hbroken

theorem insertItems_unbroken {rows : List IdentityItemRecord} {now : DateTime} {db : Database}
    {proposalId : Uuid} (hplain : ∀ row ∈ rows, PlainItem proposalId row)
    (hproposal : db.hasProposal (some proposalId) = true) {e : ErrorChain}
    (h : Identity.insertItems rows now db = .error e) : ¬ BreaksSchema e := by
  induction rows generalizing db with
  | nil => cases h
  | cons row rows ih =>
    rw [List.forall_mem_cons] at hplain
    rcases except_bind_eq_error.mp h with hinsert | ⟨inserted, hinsert, hrest⟩
    · exact insertIdentityItem_unbroken hplain.1 hproposal hinsert
    · obtain ⟨rfl, -⟩ := Identity.insertIdentityItem_eq_ok hinsert
      have hproposal' : Database.hasProposal
        { db with identityItems := db.identityItems ++ [Identity.ItemWrite.stamped now row] }
        (some proposalId) = true := hproposal
      exact ih hplain.2 hproposal' hrest

/-- The items of a completed interview. -/
theorem interviewItems_plain (hvalid : (validateProposal proposal).outcome = .accepted)
    (hconfidence : proposal.confidencePct ≤ 100) (interviewId : Uuid)
    (answeredFields : List (String × String)) (itemIds : List Uuid) (selfDescriptionItemId : Uuid) :
    ∀ row ∈ Identity.interviewItems context proposal interviewId answeredFields itemIds
      selfDescriptionItemId, PlainItem proposal.proposalId row := by
  have hvalidity := validity_of_validated hvalid
  intro row hrow
  rcases List.mem_append.mp hrow with hdelta | hself
  · rw [← List.map_uncurry_zip_eq_zipWith] at hdelta
    obtain ⟨⟨delta, identityItemId⟩, hzip, rfl⟩ := List.mem_map.mp hdelta
    obtain ⟨⟨stability, category, itemKey, field, mergePolicy, weight⟩, hfield, rfl⟩ :=
      List.mem_map.mp (List.of_mem_zip hzip).1
    have hweight : ∀ field ∈ Identity.customIdentityFields, field.2.2.2.2.2.toNat ≤ 100 := by decide
    exact
      { range := by
          refine ⟨by show (100 : UInt8).toNat ≤ 100; decide, ?_⟩
          show endsBeforeItStarts (proposal.validFrom.or proposal.validFrom)
            (none.or proposal.validTo) = false
          rw [Option.or_self, Option.none_or]
          exact hvalidity
        weight := by
          intro pct hpct
          obtain rfl := Option.some.inj hpct
          exact hweight _ hfield
        proposal := rfl
        alone := rfl
        current := rfl }
  · rw [List.mem_singleton.mp hself]
    exact
      { range := ⟨UInt8.le_iff_toNat_le.mp hconfidence, hvalidity⟩
        weight := by
          intro weight hweight
          obtain rfl := Option.some.inj hweight
          decide
        proposal := rfl
        alone := rfl
        current := rfl }

/-- A missing interview is no constraint. -/
theorem not_breaksSchema_interview (interviewId : Uuid) :
    ¬ BreaksSchema [s!"active identity interview {interviewId} missing"] := by
  have hfirst : ∀ constraint ∈ schemaConstraints, constraint.toList.head? ≠ some 'a' := by
    simp [schemaConstraints, proposalConstraints, memoryConstraints, Identity.itemConstraints]
  rintro ⟨constraint, hmem, hlast⟩
  obtain rfl := Option.some.inj hlast
  refine hfirst _ hmem ?_
  show ("active identity interview " ++ toString interviewId ++ " missing").toList.head? = some 'a'
  simp

/-- Taking an answer of a valid proposal keeps every constraint of the schema. -/
theorem takeAnswer_safe (hvalid : (validateProposal proposal).outcome = .accepted)
    (hconfidence : proposal.confidencePct ≤ 100)
    (hproposal : w.db.hasProposal (some proposal.proposalId) = true) (interview : IdentityInterviewRecord)
    (answer : String × String) :
    SafeAt (Identity.takeAnswer context proposal interview answer) w := by
  unfold Identity.takeAnswer
  dsimp only
  split
  · refine Safe.bind (fun w => safeAt_inTransaction fun now e hbody => ?_) (fun _ => safe_ret _) w
    cases hbody
  generalize Identity.customIdentityFields.length = count
  refine SafeAt.idle_bind (safe_newUuids count) (confined_newUuids Identity.idle_refl count)
    fun itemIds w₁ hdb₁ => ?_
  refine SafeAt.idle_bind safe_newUuid (confined_newUuid Identity.idle_refl)
    fun selfDescriptionItemId w₂ hdb₂ => ?_
  refine SafeAt.idle_bind safe_newUuid (confined_newUuid Identity.idle_refl)
    fun lifecycleId w₃ hdb₃ => ?_
  refine SafeAt.idle_bind safe_utcNow (confined_utcNow Identity.idle_refl)
    fun completedAt w₄ hdb₄ => ?_
  have hdb : w₄.db = w.db := hdb₄.trans (hdb₃.trans (hdb₂.trans hdb₁))
  refine SafeAt.then (safeAt_inTransaction fun now e hbody => ?_) fun _ => safe_ret _
  rw [hdb] at hbody
  rcases except_bind_eq_error.mp (except_map_eq_error.mp hbody) with hinsert | ⟨inserted, -, hrecord⟩
  · have hproposal' : Database.hasProposal (Identity.updateIdentityInterviewState
        interview.identityInterviewId .completed "completed"
        (Identity.insertField interview.answeredFields answer.1 answer.2) now w.db)
        (some proposal.proposalId) = true := hproposal
    exact insertItems_unbroken (interviewItems_plain hvalid hconfidence _ _ _ _) hproposal' hinsert
  · exact recordLifecycleTransition_unbroken hrecord

/-- An answer to the interview breaks no constraint. -/
theorem answerCustomInterview_safe (hvalid : (validateProposal proposal).outcome = .accepted)
    (hconfidence : proposal.confidencePct ≤ 100)
    (hproposal : w.db.hasProposal (some proposal.proposalId) = true) (answer : IdentityInterviewAnswer) :
    SafeAt (Identity.answerCustomInterview context proposal answer) w := by
  unfold Identity.answerCustomInterview
  refine SafeAt.idle_bind safe_getCurrentLifecycle Identity.getCurrentLifecycle_idle
    fun lifecycle w₁ hdb₁ => ?_
  cases lifecycle with
  | none => exact safe_rejectMerge _ _ _
  | some lifecycle =>
    cases hactive : lifecycle.activeInterviewId with
    | none =>
      simp only [hactive]
      exact safe_rejectMerge _ _ _
    | some interviewId =>
      simp only [hactive]
      refine SafeAt.idle_bind (fun w => safeAt_inTransaction fun now e hbody => by cases hbody)
        (confined_inTransaction Identity.idle_refl fun now db effect hbody => by
          obtain rfl := Except.ok.inj hbody
          rfl) fun found w₂ hdb₂ => ?_
      cases found with
      | none => exact safe_fail (not_breaksSchema_interview interviewId) w₂
      | some interview =>
        have hproposal' : w₂.db.hasProposal (some proposal.proposalId) = true := by
          rw [hdb₂, hdb₁]
          exact hproposal
        show SafeAt (Identity.answerInterview context proposal interview answer) w₂
        unfold Identity.answerInterview
        dsimp only
        split
        · exact safe_rejectMerge _ _ _
        split
        · exact safe_rejectMerge _ _ _
        · exact takeAnswer_safe hvalid hconfidence hproposal' interview _

/-! ### Deltas -/

theorem weights_of_validated {payload : IdentityDeltaProposal}
    (hvalid : (validateProposal proposal).outcome = .accepted)
    (hpayload : proposal.payload = .identityDelta payload) :
    ∀ delta ∈ payload.itemDeltas, WeightInRange delta := by
  have hchecked : (validateIdentityDeltaPayload proposal.proposalId payload).outcome = .accepted := by
    unfold validateProposal at hvalid
    rw [hpayload] at hvalid
    repeat' split at hvalid
    all_goals first | cases hvalid | skip
    all_goals simp_all
  have hfaults : payload.itemDeltas.findSome? itemDeltaFault = none := by
    unfold validateIdentityDeltaPayload at hchecked
    repeat' split at hchecked
    all_goals first | assumption | cases hchecked
  intro delta hdelta weight hweight
  have hfault := List.findSome?_eq_none_iff.mp hfaults delta hdelta
  unfold itemDeltaFault at hfault
  rw [hweight] at hfault
  by_contra hlarge
  have hover : (some weight).any (fun weight => decide (weight > 100)) = true :=
    decide_eq_true (UInt8.not_le.mp hlarge)
  rw [if_pos hover] at hfault
  repeat' split at hfault
  all_goals cases hfault

/-- The self-description after the item deltas goes through, or is turned down. -/
theorem applySelfDescriptionDelta_of_fits (context : ProposalProcessingContext) {db : Database}
    (delta : SelfDescriptionDelta) {identityItemId : Uuid} (now : DateTime)
    (hvalid : (validateProposal proposal).outcome = .accepted)
    (hconfidence : proposal.confidencePct ≤ 100)
    (hstored : Identity.Stored db.identityItems)
    (hproposal : db.hasProposal (some proposal.proposalId) = true)
    (hfresh : identityItemId ∉ Identity.itemIds db.identityItems) :
    ∃ result, Identity.applySelfDescriptionDelta context proposal delta identityItemId now db =
      .ok result := by
  obtain ⟨missing, hwrite⟩ :=
    Identity.applySelfDescriptionDelta_eq context proposal delta identityItemId now db
  rw [hwrite]
  cases hdelta : Identity.selfDescriptionWrite context proposal delta identityItemId db with
  | none => exact ⟨_, rfl⟩
  | some write =>
    obtain ⟨write, itemId⟩ := write
    have hnew : ∀ supersedesItemId, Identity.NewRow proposal.proposalId identityItemId
        (Identity.selfDescriptionItemFromDelta context proposal delta identityItemId
          supersedesItemId) := by
      intro supersedesItemId
      refine ⟨rfl, rfl, rfl, fun weight hweight => ?_⟩
      obtain rfl := Option.some.inj hweight
      decide
    have hrange : ∀ supersedesItemId, Identity.InRange
        (Identity.selfDescriptionItemFromDelta context proposal delta identityItemId
          supersedesItemId) :=
      fun _ => ⟨UInt8.le_iff_toNat_le.mp hconfidence, validity_of_validated hvalid⟩
    have htarget : ∀ targetItemId, Identity.selfDescriptionTarget db = some targetItemId →
        targetItemId ∈ Identity.itemIds db.identityItems := by
      intro targetItemId hfound
      obtain ⟨item, hfirst, rfl⟩ := Option.map_eq_some_iff.mp hfound
      have hmem := List.mem_filter.mp (Table.mem_of_first hfirst)
      exact List.mem_map_of_mem (List.mem_filter.mp hmem.1).1
    have hfits : write.Prepared proposal.proposalId identityItemId db.identityItems ∧
        write.Fits db.identityItems := by
      unfold Identity.selfDescriptionWrite at hdelta
      split at hdelta
      · obtain ⟨rfl, -⟩ := Prod.mk.inj (Option.some.inj hdelta)
        exact ⟨hnew none, hrange none, by rintro id ⟨⟩⟩
      · obtain ⟨target, -, hpair⟩ := Option.map_eq_some_iff.mp hdelta
        obtain ⟨rfl, -⟩ := Prod.mk.inj hpair
        refine ⟨fun weight hweight => ?_, trivial⟩
        obtain rfl := Option.some.inj hweight
        decide
      · obtain ⟨target, -, hpair⟩ := Option.map_eq_some_iff.mp hdelta
        obtain ⟨rfl, -⟩ := Prod.mk.inj hpair
        exact ⟨trivial, trivial⟩
      · obtain ⟨target, hfound, hpair⟩ := Option.map_eq_some_iff.mp hdelta
        obtain ⟨rfl, -⟩ := Prod.mk.inj hpair
        exact ⟨⟨hnew _, htarget target hfound⟩, hrange _⟩
      · obtain ⟨target, hfound, hpair⟩ := Option.map_eq_some_iff.mp hdelta
        obtain ⟨rfl, -⟩ := Prod.mk.inj hpair
        exact ⟨⟨hnew _, htarget target hfound⟩, hrange _⟩
      · obtain ⟨target, -, hpair⟩ := Option.map_eq_some_iff.mp hdelta
        obtain ⟨rfl, -⟩ := Prod.mk.inj hpair
        exact ⟨trivial, trivial⟩
    have hrun := Identity.ItemWrite.run_of_fits now hstored hfits.1 hproposal hfresh hfits.2
    exact ⟨_, by rw [Identity.applyWrite, hrun]; rfl⟩

/-- What the transaction of a merge of deltas finds. -/
structure Merging (proposal : CanonicalProposal) (payload : IdentityDeltaProposal)
    (itemIds : List Uuid) (selfDescriptionId : Uuid) (db : Database) : Prop where
  proposal : db.hasProposal (some proposal.proposalId) = true
  items : Identity.Stored db.identityItems
  length : itemIds.length = payload.itemDeltas.length
  nodup : itemIds.Nodup
  fresh : ∀ id ∈ itemIds, id ∉ Identity.itemIds db.identityItems
  self : selfDescriptionId ∉ Identity.itemIds db.identityItems
  apart : selfDescriptionId ∉ itemIds

section Merging

variable {payload : IdentityDeltaProposal} {current : Option IdentityLifecycleRecord}
  {itemIds : List Uuid} {selfDescriptionId lifecycleId : Uuid} {completedAt now : DateTime}
  {db : Database}

theorem Merging.zip_ids (h : Merging proposal payload itemIds selfDescriptionId db) :
    (payload.itemDeltas.zip itemIds).map Prod.snd = itemIds :=
  List.map_snd_zip (le_of_eq h.length)

theorem Merging.zip_weights (hvalid : (validateProposal proposal).outcome = .accepted)
    (hpayload : proposal.payload = .identityDelta payload) :
    ∀ entry ∈ payload.itemDeltas.zip itemIds, WeightInRange entry.1 :=
  fun _ hentry => weights_of_validated hvalid hpayload _ (List.of_mem_zip hentry).1

/-- The transaction of a merge whose deltas fit breaks no constraint. -/
theorem mergeDeltas_of_fits (hvalid : (validateProposal proposal).outcome = .accepted)
    (hpayload : proposal.payload = .identityDelta payload)
    (hconfidence : proposal.confidencePct ≤ 100)
    (hmerging : Merging proposal payload itemIds selfDescriptionId db)
    (hfits : ItemsFit tables context proposal now (payload.itemDeltas.zip itemIds) db)
    {e : ErrorChain} (h : Identity.mergeDeltas tables context proposal payload current itemIds
      selfDescriptionId lifecycleId completedAt now db = .error e) : ¬ BreaksSchema e := by
  obtain ⟨outcome, items, hitems, hstored, hids⟩ := applyItemDeltas_of_fits hmerging.items
    hmerging.proposal (Merging.zip_weights hvalid hpayload)
    (by rw [hmerging.zip_ids]; exact hmerging.nodup)
    (by rw [hmerging.zip_ids]; exact hmerging.fresh) hfits
  rw [hmerging.zip_ids] at hids
  have happlied : ∃ result, Identity.applyDeltas tables context proposal payload itemIds
      selfDescriptionId now db = .ok result := by
    unfold Identity.applyDeltas
    rw [hitems]
    cases outcome with
    | error reason => exact ⟨_, rfl⟩
    | ok left =>
      cases payload.selfDescriptionDelta with
      | none => exact ⟨_, rfl⟩
      | some delta =>
        have hself : selfDescriptionId ∉ Identity.itemIds items := fun hmem =>
          (hids _ hmem).elim hmerging.self hmerging.apart
        have hproposal : Database.hasProposal { db with identityItems := items }
          (some proposal.proposalId) = true := hmerging.proposal
        obtain ⟨result, hresult⟩ := applySelfDescriptionDelta_of_fits context delta now hvalid hconfidence hstored hproposal hself
        dsimp only
        rw [hresult]
        exact ⟨_, rfl⟩
  obtain ⟨⟨outcome, applied⟩, happlied⟩ := happlied
  unfold Identity.mergeDeltas at h
  rw [happlied] at h
  cases outcome with
  | error reason => cases h
  | ok left =>
    have hrecord := except_map_eq_error.mp h
    unfold Identity.recordMergedLifecycle at hrecord
    split at hrecord
    · exact recordLifecycleTransition_unbroken hrecord
    · cases hrecord

/-- When an item delta does not fit, the transaction breaks a constraint. -/
theorem mergeDeltas_breaks (hvalid : (validateProposal proposal).outcome = .accepted)
    (hpayload : proposal.payload = .identityDelta payload)
    (hmerging : Merging proposal payload itemIds selfDescriptionId db)
    (hnot : ¬ ItemsFit tables context proposal now (payload.itemDeltas.zip itemIds) db) :
    ∃ e, Identity.mergeDeltas tables context proposal payload current itemIds
      selfDescriptionId lifecycleId completedAt now db = .error e ∧ BreaksSchema e := by
  obtain ⟨constraint, hmem, hitems⟩ := applyItemDeltas_breaks hmerging.items
    hmerging.proposal (Merging.zip_weights hvalid hpayload)
    (by rw [hmerging.zip_ids]; exact hmerging.nodup)
    (by rw [hmerging.zip_ids]; exact hmerging.fresh) hnot
  refine ⟨[constraint], ?_, constraint, List.mem_append_right _ hmem, rfl⟩
  unfold Identity.mergeDeltas Identity.applyDeltas
  rw [hitems]

/-- The merge of a recorded identity proposal whose deltas fit breaks no constraint. -/
theorem mergeIntoStore_safe (hvalid : (validateProposal proposal).outcome = .accepted)
    (hpayload : proposal.payload = .identityDelta payload)
    (hrecorded : Recorded context proposal w)
    (hfits : ∀ itemIds : List Uuid, itemIds.length = payload.itemDeltas.length → itemIds.Nodup →
      (∀ id ∈ itemIds, id ∉ w.issued) →
      ∀ now, ItemsFit tables context proposal now (payload.itemDeltas.zip itemIds) w.db) :
    SafeAt (Identity.mergeIntoStore tables context proposal payload) w := by
  unfold Identity.mergeIntoStore
  refine SafeAt.bind (T := fun _ w' => w = w')
    (fun es => alone_inTransaction (fun now effect hbody => ?_) (fun now e hbody => ?_)
      fun e hfault => not_breaksSchema_of_isFault hfault) ?_
  · obtain rfl := Except.ok.inj hbody
    rfl
  · cases hbody
  rintro current _ rfl
  generalize hcount : payload.itemDeltas.length = count
  refine SafeAt.bind (T := fun ids w' => ids.length = count ∧ ids.Nodup ∧
      (∀ id ∈ ids, id ∉ w.issued) ∧ w'.db = w.db ∧ ∀ id, id ∈ w'.issued ↔ id ∈ ids ∨ id ∈ w.issued)
    (fun es => alone_newUuids count fun ids issued hlength hnodup hfresh hissued =>
      ⟨hlength, hnodup, hfresh, rfl, hissued⟩) ?_
  rintro itemIds w₁ ⟨hlength, hnodup, hfresh, hdb₁, hissued⟩
  refine SafeAt.newUuid_bind fun selfDescriptionId hself => ?_
  refine SafeAt.idle_bind safe_newUuid (confined_newUuid Identity.idle_refl)
    fun lifecycleId w₂ hdb₂ => ?_
  refine SafeAt.idle_bind safe_utcNow (confined_utcNow Identity.idle_refl)
    fun completedAt w₃ hdb₃ => ?_
  have hdb : w₃.db = w.db := hdb₃.trans (hdb₂.trans hdb₁)
  have hmerging : Merging proposal payload itemIds selfDescriptionId w.db :=
    { proposal := hrecorded.proposal
      items := hrecorded.items
      length := hlength.trans hcount.symm
      nodup := hnodup
      fresh := fun id hid hmem => hfresh id hid (hrecorded.itemIssued id hmem)
      self := fun hmem => hself ((hissued _).mpr (Or.inr (hrecorded.itemIssued _ hmem)))
      apart := fun hmem => hself ((hissued _).mpr (Or.inl hmem)) }
  have htransaction : SafeAt (inTransaction (Identity.mergeDeltas tables context proposal payload
      current itemIds selfDescriptionId lifecycleId completedAt)) w₃ := by
    refine safeAt_inTransaction fun now e hbody => ?_
    rw [hdb] at hbody
    exact mergeDeltas_of_fits hvalid hpayload hrecorded.confidence hmerging
      (hfits itemIds (hlength.trans hcount.symm) hnodup hfresh now) hbody
  refine htransaction.then fun outcome => ?_
  cases outcome with
  | ok itemIds => exact safe_ret _
  | error reason =>
    refine Safe.bind (Safe.bind safe_newUuid fun identityDiagnosticId w =>
      safeAt_inTransaction fun now e hbody => ?_) fun _ => safe_rejectMerge _ _
    obtain ⟨constraint, hviolation, rfl⟩ :=
      Identity.checked_eq_error.mp (except_map_eq_error.mp hbody)
    refine not_breaksSchema_of_named [] ?_ hviolation
    simp only [List.forall_mem_cons, List.not_mem_nil, false_implies, implies_true, and_true]
    decide

/-- When they do not, some answers make it break one. -/
theorem mergeIntoStore_breaks (hvalid : (validateProposal proposal).outcome = .accepted)
    (hpayload : proposal.payload = .identityDelta payload) (hrecorded : Recorded context proposal w)
    (hlength : itemIds.length = payload.itemDeltas.length) (hnodup : itemIds.Nodup)
    (hfresh : ∀ id ∈ itemIds, id ∉ w.issued)
    (hnot : ¬ ItemsFit tables context proposal now (payload.itemDeltas.zip itemIds) w.db)
    (es : List Event) :
    ¬ (Identity.mergeIntoStore tables context proposal payload).Alone SeedReadable Unbroken w es := by
  intro halone
  unfold Identity.mergeIntoStore at halone
  rw [← hlength] at halone
  have hnow : SeedReadable Query.statement (some now : Option DateTime) := trivial
  -- Each question is answered so that the transaction meets these ids at this instant.
  have hread := of_alone_inTransaction (Prog.alone_bind.mp halone) hnow
  obtain ⟨issued, -, hids⟩ := of_alone_newUuids (Prog.alone_bind.mp hread) (fun _ => trivial) hnodup
    hfresh
  have hself := unused_not_mem (issued ++ itemIds ++ Identity.itemIds w.db.identityItems) 0
  generalize unused (issued ++ itemIds ++ Identity.itemIds w.db.identityItems) 0 =
    selfDescriptionId at hself
  simp only [List.mem_append, not_or] at hself
  have hfirst := of_alone_newUuid (Prog.alone_bind.mp hids) selfDescriptionId trivial hself.1.1
  have hsecond := of_alone_newUuid (Prog.alone_bind.mp hfirst)
    (unused (selfDescriptionId :: issued) 0) trivial (unused_not_mem _ 0)
  have hthird := of_alone_utcNow (Prog.alone_bind.mp hsecond) 0 trivial
  have hlast := of_alone_inTransaction (Prog.alone_bind.mp hthird) hnow
  have hmerging : Merging proposal payload itemIds selfDescriptionId w.db :=
    { proposal := hrecorded.proposal
      items := hrecorded.items
      length := hlength
      nodup := hnodup
      fresh := fun id hid hmem => hfresh id hid (hrecorded.itemIssued id hmem)
      self := hself.2
      apart := hself.1.2 }
  obtain ⟨e, hbody, hbreaks⟩ := mergeDeltas_breaks hvalid hpayload hmerging hnot
  dsimp only at hlast
  rw [hbody] at hlast
  exact hlast e rfl hbreaks

end Merging

/-- The merge of a recorded candidate breaks no constraint when its item deltas fit. -/
theorem mergeCandidate_safe (hvalid : (validateProposal proposal).outcome = .accepted)
    (hrecorded : Recorded context proposal w)
    (hfits : ∀ payload, proposal.payload = .identityDelta payload → payload.interviewAction = none →
      ∀ itemIds : List Uuid, itemIds.length = payload.itemDeltas.length → itemIds.Nodup →
        (∀ id ∈ itemIds, id ∉ w.issued) →
        ∀ now, ItemsFit tables context proposal now (payload.itemDeltas.zip itemIds) w.db) :
    SafeAt (mergeCandidate tables context proposal) w := by
  unfold mergeCandidate
  rcases payload_of_validated hvalid with ⟨payload, hkind, hpayload⟩ | ⟨payload, hkind, hpayload⟩ |
    ⟨payload, hkind, hpayload⟩
  · simp only [hkind]
    exact applyMemoryProposalMerge_safe hvalid hrecorded
  · simp only [hkind]
    exact safe_applySelfModelProposalMerge context proposal w
  · simp only [hkind]
    unfold Identity.applyIdentityDeltaProposalMerge
    dsimp only
    rw [if_neg (not_rejected_of_validated hvalid)]
    simp only [hpayload]
    cases haction : payload.interviewAction with
    | none => exact mergeIntoStore_safe hvalid hpayload hrecorded (hfits payload hpayload haction)
    | some action =>
      cases action with
      | startCustomInterview => exact safe_startCustomInterview payload w
      | answerCustomInterview answer =>
        exact answerCustomInterview_safe hvalid hrecorded.confidence hrecorded.proposal answer
      | cancel reason => exact safe_cancelCustomInterview reason w
      | selectPredefinedTemplate templateKey => exact safe_ret _ w

end Recorded

/-! ## Recording -/

section Recording

variable {context : ProposalProcessingContext} {proposal : CanonicalProposal}
  {evaluation : ProposalEvaluation} {db : Database}

/-- No check of a proposal names a target. -/
theorem validateProposal_target (proposal : CanonicalProposal) :
    (validateProposal proposal).target = none := by
  have hmemory : ∀ id payload, (validateMemoryPayload id payload).target = none := by
    intro id payload
    unfold validateMemoryPayload
    repeat' split
    all_goals rfl
  have hself : ∀ id payload, (validateSelfModelPayload id payload).target = none := by
    intro id payload
    unfold validateSelfModelPayload
    repeat' split
    all_goals rfl
  have hidentity : ∀ id payload, (validateIdentityDeltaPayload id payload).target = none := by
    intro id payload
    unfold validateIdentityDeltaPayload
    repeat' split
    all_goals rfl
  unfold validateProposal
  repeat' split
  all_goals first
    | with_reducible exact hmemory _ _
    | with_reducible exact hself _ _
    | with_reducible exact hidentity _ _
    | rfl

theorem unrecorded_iff : (∀ status, (proposal.proposalId, status) ∉ statuses db) ↔
    ∀ row ∈ db.proposals, row.proposalId ≠ proposal.proposalId := by
  constructor
  · rintro h row hrow heq
    exact h row.status (List.mem_map.mpr ⟨row, hrow, by rw [heq]⟩)
  · intro h status hmem
    obtain ⟨row, hrow, hpair⟩ := List.mem_map.mp hmem
    exact h row hrow (congrArg Prod.fst hpair)

theorem proposalViolation_of_confidence (outcome : ProposalEvaluationOutcome)
    (h : ¬ proposal.confidencePct ≤ 100) :
    db.proposalViolation (proposalRow context proposal outcome) =
      some "proposals_confidence_check" := by
  have hover : ¬ (proposalRow context proposal outcome).confidence ≤ 100 := fun hle =>
    h (UInt8.le_iff_toNat_le.mpr hle)
  rw [Database.proposalViolation, Database.firstBroken, List.find?_cons_of_pos (by simp [hover])]
  rfl

/-- The first two checks of a row whose confidence is a percentage. -/
theorem proposalViolation_of_percentage (context : ProposalProcessingContext) (db : Database)
    (outcome : ProposalEvaluationOutcome) (h : proposal.confidencePct ≤ 100) :
    db.proposalViolation (proposalRow context proposal outcome) = Database.firstBroken
      [(db.proposals.all fun other => other.proposalId ≠ proposal.proposalId, "proposals_pkey"),
       (db.hasExecution (some context.executionId), "proposals_execution_id_fkey"),
       (db.hasEpisode context.episodeId, "proposals_episode_id_fkey"),
       (db.hasIngressEvent context.sourceIngressId, "proposals_source_ingress_id_fkey")] := by
  have hconfidence : (proposalRow context proposal outcome).confidence ≤ 100 :=
    UInt8.le_iff_toNat_le.mp h
  have hkind : ((proposalRow context proposal outcome).supersedesArtifactId.isSome ==
      (proposalRow context proposal outcome).supersedesArtifactKind.isSome) = true := by
    show (proposal.supersedesArtifactId.isSome ==
      (proposal.supersedesArtifactId.map fun _ => proposal.canonicalTarget).isSome) = true
    rw [Option.isSome_map, beq_self_eq_true]
  rw [Database.proposalViolation, Database.firstBroken,
    List.find?_cons_of_neg (by simp [hconfidence]), List.find?_cons_of_neg (by simp [hkind])]
  rfl

theorem proposalViolation_of_references (outcome : ProposalEvaluationOutcome)
    (hconfidence : proposal.confidencePct ≤ 100) (hrefs : HasReferences context db)
    (hnew : ∀ row ∈ db.proposals, row.proposalId ≠ proposal.proposalId) :
    db.proposalViolation (proposalRow context proposal outcome) = none := by
  rw [proposalViolation_of_percentage context db outcome hconfidence, Database.firstBroken_eq_none]
  simp only [List.forall_mem_cons, List.not_mem_nil, false_implies, implies_true, and_true]
  exact ⟨List.all_eq_true.mpr fun row hrow => decide_eq_true (hnew row hrow), hrefs.execution,
    hrefs.episode, hrefs.ingress⟩

/-- Recording a candidate whose confidence is no percentage breaks a check. -/
theorem recordProposal_of_confidence (context : ProposalProcessingContext) (evaluation : ProposalEvaluation)
    (mergeDecisionId evaluatedId recordedId : Uuid) (now : DateTime) (db : Database)
    (h : ¬ proposal.confidencePct ≤ 100) :
    ∃ e, recordProposal context proposal evaluation mergeDecisionId evaluatedId recordedId now db =
      .error e ∧ BreaksSchema e := by
  refine ⟨["failed to insert proposal", "proposals_confidence_check"], ?_, by decide⟩
  refine except_bind_eq_error.mpr (Or.inl ?_)
  exact Continuity.guarded_eq_error.mpr ⟨_, proposalViolation_of_confidence _ h, rfl⟩

/-- Recording a new candidate breaks a reference when a row of its context is missing. -/
theorem recordProposal_of_missing (context : ProposalProcessingContext) (evaluation : ProposalEvaluation)
    (mergeDecisionId evaluatedId recordedId : Uuid) (now : DateTime) (db : Database)
    (hconfidence : proposal.confidencePct ≤ 100)
    (hnew : ∀ row ∈ db.proposals, row.proposalId ≠ proposal.proposalId)
    (hrefs : ¬ HasReferences context db) :
    ∃ e, recordProposal context proposal evaluation mergeDecisionId evaluatedId recordedId now db =
      .error e ∧ BreaksSchema e := by
  have hviolation := proposalViolation_of_percentage context db evaluation.outcome hconfidence
  cases hfound : db.proposalViolation (proposalRow context proposal evaluation.outcome) with
  | none =>
    rw [hviolation, Database.firstBroken_eq_none] at hfound
    simp only [List.forall_mem_cons, List.not_mem_nil, false_implies, implies_true, and_true]
      at hfound
    exact absurd ⟨hfound.2.1, hfound.2.2.1, hfound.2.2.2⟩ hrefs
  | some constraint =>
    refine ⟨["failed to insert proposal", constraint], ?_, constraint, ?_, rfl⟩
    · exact except_bind_eq_error.mpr (Or.inl (Continuity.guarded_eq_error.mpr ⟨_, hfound, rfl⟩))
    · rw [hviolation] at hfound
      obtain ⟨condition, hmem, hbroken, rfl⟩ := Database.firstBroken_eq_some hfound
      simp only [List.mem_cons, List.not_mem_nil, or_false] at hmem
      rcases hmem with rfl | rfl | rfl | rfl
      · obtain ⟨row, hrow, heq⟩ := List.all_eq_false.mp hbroken
        exact absurd (by simpa using heq) (hnew row hrow)
      all_goals simp [schemaConstraints, proposalConstraints]

/-- The transaction that records a candidate in a store with room for it. -/
theorem recordProposal_of_fits (mergeDecisionId evaluatedId recordedId : Uuid)
    (now : DateTime) (htarget : evaluation.target = none)
    (hconfidence : proposal.confidencePct ≤ 100) (hrefs : HasReferences context db)
    (hnew : ∀ row ∈ db.proposals, row.proposalId ≠ proposal.proposalId)
    (hdecision : ∀ row ∈ db.mergeDecisions, row.mergeDecisionId ≠ mergeDecisionId)
    (hundecided : ∀ row ∈ db.mergeDecisions, row.proposalId ≠ proposal.proposalId) :
    ∃ db', recordProposal context proposal evaluation mergeDecisionId evaluatedId recordedId now db =
        .ok db' ∧ db'.hasProposal (some proposal.proposalId) = true ∧ HasReferences context db' ∧
      SameCanonical db db' := by
  let row := { proposalRow context proposal evaluation.outcome with createdAt := now }
  let inserted := { db with proposals := db.proposals ++ [row] }
  have hinsert : Continuity.insertProposal (proposalRow context proposal evaluation.outcome) now db =
      .ok inserted :=
    Continuity.guarded_eq_ok.mpr
      ⟨proposalViolation_of_references _ hconfidence hrefs hnew, rfl⟩
  have hpresent : inserted.hasProposal (some proposal.proposalId) = true := by
    refine List.any_eq_true.mpr ⟨row, List.mem_append_right _ List.mem_cons_self, ?_⟩
    exact decide_eq_true rfl
  have hviolation : inserted.mergeDecisionViolation
      (decisionRow context proposal evaluation mergeDecisionId) = none := by
    have hmemory : acceptedMemoryTarget evaluation = none := by
      rw [acceptedMemoryTarget, htarget]
    have hself : acceptedSelfModelTarget evaluation = none := by
      rw [acceptedSelfModelTarget, htarget]
    rw [Database.mergeDecisionViolation, Database.firstBroken_eq_none]
    simp only [List.forall_mem_cons, List.not_mem_nil, false_implies, implies_true, and_true,
      decisionRow, hmemory, hself]
    exact ⟨rfl, List.all_eq_true.mpr fun row hrow => decide_eq_true (hdecision row hrow),
      List.all_eq_true.mpr fun row hrow => decide_eq_true (hundecided row hrow), hpresent,
      hrefs.execution, hrefs.episode, rfl, rfl⟩
  let decision := { decisionRow context proposal evaluation mergeDecisionId with createdAt := now }
  let decided := { inserted with mergeDecisions := inserted.mergeDecisions ++ [decision] }
  have hdecide : Continuity.insertMergeDecision
      (decisionRow context proposal evaluation mergeDecisionId) now inserted = .ok decided :=
    Continuity.guarded_eq_ok.mpr ⟨hviolation, rfl⟩
  refine ⟨_, except_bind_eq_ok.mpr ⟨inserted, hinsert, except_bind_eq_ok.mpr ⟨decided, hdecide, rfl⟩⟩,
    hpresent, ⟨hrefs.execution, hrefs.episode, hrefs.ingress⟩, ⟨rfl, rfl, rfl, rfl, rfl⟩⟩

/-- Recording a candidate that is recorded already is an error, but of another kind. -/
theorem recordProposal_of_known (mergeDecisionId evaluatedId recordedId : Uuid)
    (now : DateTime) (hconfidence : proposal.confidencePct ≤ 100)
    (hknown : ¬ ∀ row ∈ db.proposals, row.proposalId ≠ proposal.proposalId) :
    ∃ e, recordProposal context proposal evaluation mergeDecisionId evaluatedId recordedId now db =
      .error e ∧ ¬ BreaksSchema e := by
  refine ⟨["failed to insert proposal", "proposals_pkey"], ?_, by decide⟩
  refine except_bind_eq_error.mpr (Or.inl (Continuity.guarded_eq_error.mpr ⟨_, ?_, rfl⟩))
  rw [proposalViolation_of_percentage _ _ _ hconfidence, Database.firstBroken,
    List.find?_cons_of_pos]
  · rfl
  · have hbroken : (db.proposals.all fun other => decide (other.proposalId ≠ proposal.proposalId)) =
        false := by
      rw [← Bool.not_eq_true, List.all_eq_true]
      exact fun hall => hknown fun row hrow => of_decide_eq_true (hall row hrow)
    rw [hbroken]
    rfl

end Recording

/-! ## The candidates that are safe -/

section Candidate

variable {tables : Text.Tables} {context : ProposalProcessingContext} {subsystem : String}
  {proposal : CanonicalProposal} {w : World} {es : List Event}

/-- What the store of a candidate that is not recorded yet has room for. -/
theorem StoreSound.undecided (hsound : StoreSound w)
    (hnew : ∀ row ∈ w.db.proposals, row.proposalId ≠ proposal.proposalId) :
    ∀ row ∈ w.db.mergeDecisions, row.proposalId ≠ proposal.proposalId := by
  rintro row hrow heq
  obtain ⟨status, hrecorded⟩ := hsound.decided row hrow
  rw [heq] at hrecorded
  exact unrecorded_iff.mpr hnew status hrecorded

theorem StoreSound.decisions_ne (hsound : StoreSound w) {mergeDecisionId : Uuid}
    (hfresh : mergeDecisionId ∉ w.issued) :
    ∀ row ∈ w.db.mergeDecisions, row.mergeDecisionId ≠ mergeDecisionId := by
  rintro row hrow rfl
  exact hfresh (hsound.decisionIssued row hrow)

/-- Recording a candidate, with whatever ids and at whatever instant. -/
theorem alone_validateAndRecordProposal {answers : Answers system}
    {Q : Except ErrorChain ProposalEvaluation → World → List Event → Prop}
    (ok : ∀ mergeDecisionId evaluatedId recordedId issued now db', mergeDecisionId ∉ w.issued →
      w.issued ⊆ issued →
      recordProposal context proposal (validateProposal proposal) mergeDecisionId evaluatedId
        recordedId now w.db = .ok db' →
      Q (.ok (validateProposal proposal)) { w with db := db', issued := issued } es)
    (failed : ∀ mergeDecisionId evaluatedId recordedId issued now e, mergeDecisionId ∉ w.issued →
      recordProposal context proposal (validateProposal proposal) mergeDecisionId evaluatedId
        recordedId now w.db = .error e → Q (.error e) { w with issued := issued } es)
    (fault : ∀ e w', IsFault e → Q (.error e) w' es) :
    (validateAndRecordProposal context proposal).Alone answers Q w es := by
  refine Prog.alone_bind.mpr (alone_newUuid fun mergeDecisionId hdecision => ?_)
  refine Prog.alone_bind.mpr (alone_newUuid fun evaluatedId _ => ?_)
  refine Prog.alone_bind.mpr (alone_newUuid fun recordedId _ => ?_)
  refine Prog.alone_bind.mpr (alone_inTransaction (fun now effect hbody => ?_)
    (fun now e hbody => ?_) fun e hfault => fault e _ hfault)
  · obtain ⟨db', hrecord, rfl⟩ := except_map_eq_ok.mp hbody
    show Q (.ok (validateProposal proposal)) _ (es ++ [])
    rw [List.append_nil]
    refine ok _ _ _ _ now db' hdecision ?_ hrecord
    exact fun id hid => List.mem_cons_of_mem _ (List.mem_cons_of_mem _ (List.mem_cons_of_mem _ hid))
  · exact failed _ _ _ _ now e hdecision (except_map_eq_error.mp hbody)

/-- A candidate that fits breaks no constraint. -/
theorem processCandidate_safe (hsound : StoreSound w)
    (hvalid : (validateProposal proposal).outcome = .accepted)
    (hfits : FitsSchema tables context proposal w) :
    SafeAt (processCandidate tables context subsystem proposal) w := by
  obtain ⟨hconfidence, hnewFits⟩ := hfits
  refine SafeAt.bind (T := fun evaluation w' => evaluation = validateProposal proposal ∧
    SafeAt (mergeCandidate tables context proposal) w') (fun es => ?_) ?_
  · refine alone_validateAndRecordProposal ?_ ?_ fun e w' hfault =>
      not_breaksSchema_of_isFault hfault
    · intro mergeDecisionId evaluatedId recordedId issued now db' hdecision hissued hrecord
      have hnew : ∀ row ∈ w.db.proposals, row.proposalId ≠ proposal.proposalId :=
        unrecorded_iff.mp (recordProposal_eq_ok hrecord).1
      obtain ⟨hrefs, hdeltas⟩ := hnewFits (unrecorded_iff.mpr hnew)
      obtain ⟨db'', hrecord', hpresent, hrefs', hcanonical⟩ := recordProposal_of_fits
        mergeDecisionId evaluatedId recordedId now (validateProposal_target proposal) hconfidence
        hrefs hnew (hsound.decisions_ne hdecision) (hsound.undecided hnew)
      rw [hrecord] at hrecord'
      obtain rfl := Except.ok.inj hrecord'
      refine ⟨rfl, mergeCandidate_safe hvalid ?_ ?_⟩
      · exact
          { confidence := hconfidence
            proposal := hpresent
            references := hrefs'
            items := by
              show Identity.Stored db'.identityItems
              rw [hcanonical.identityItems]
              exact hsound.items
            itemIssued := by
              intro id hid
              rw [hcanonical.identityItems] at hid
              exact hissued (hsound.itemIssued id hid)
            memoryIssued := by
              intro row hrow
              rw [hcanonical.memoryArtifacts] at hrow
              exact hissued (hsound.memoryIssued row hrow) }
      · intro payload hpayload haction itemIds hlength hnodup hfresh now
        refine (ItemsFit.congr hcanonical.identityItems).mpr ?_
        exact hdeltas payload hpayload haction itemIds hlength hnodup
          (fun id hid hold => hfresh id hid (hissued hold)) now
    · intro mergeDecisionId evaluatedId recordedId issued now e hdecision hrecord
      by_cases hnew : ∀ row ∈ w.db.proposals, row.proposalId ≠ proposal.proposalId
      · obtain ⟨hrefs, -⟩ := hnewFits (unrecorded_iff.mpr hnew)
        obtain ⟨db', hrecord', -⟩ := recordProposal_of_fits mergeDecisionId evaluatedId recordedId
          now (validateProposal_target proposal) hconfidence hrefs hnew
          (hsound.decisions_ne hdecision) (hsound.undecided hnew)
        rw [hrecord] at hrecord'
        cases hrecord'
      · obtain ⟨e', hrecord', hharmless⟩ :=
          recordProposal_of_known mergeDecisionId evaluatedId recordedId now hconfidence hnew
        rw [hrecord] at hrecord'
        obtain rfl := Except.error.inj hrecord'
        exact hharmless
  · rintro evaluation w' ⟨rfl, hmerge⟩
    rw [hvalid]
    refine hmerge.then fun mergeOutcome => ?_
    split
    · exact Safe.bind (safe_noteCanonicalWrite _ _ _ _) fun _ => safe_ret _
    · exact safe_ret _

/-- The same at ids of one's own choice, none of them among those to avoid. -/
theorem of_alone_validateAndRecordProposal
    {Q : Except ErrorChain ProposalEvaluation → World → List Event → Prop}
    (h : (validateAndRecordProposal context proposal).Alone SeedReadable Q w es)
    (avoided : List Uuid) (now : DateTime) :
    ∃ mergeDecisionId evaluatedId recordedId issued, mergeDecisionId ∉ w.issued ∧
      w.issued ⊆ issued ∧ (∀ id ∈ avoided, id ∉ w.issued → id ∉ issued) ∧
      (∀ db', recordProposal context proposal (validateProposal proposal) mergeDecisionId evaluatedId
          recordedId now w.db = .ok db' →
        Q (.ok (validateProposal proposal)) { w with db := db', issued := issued } (es ++ [])) ∧
      ∀ e, recordProposal context proposal (validateProposal proposal) mergeDecisionId evaluatedId
          recordedId now w.db = .error e → Q (.error e) { w with issued := issued } es := by
  have hnow : SeedReadable Query.statement (some now : Option DateTime) := trivial
  have hfresh : ∀ issued : List Uuid, ∃ id, id ∉ issued ∧ id ∉ avoided := by
    intro issued
    have hunused := unused_not_mem (issued ++ avoided) 0
    rw [List.mem_append, not_or] at hunused
    exact ⟨_, hunused⟩
  obtain ⟨mergeDecisionId, hdecision, havoid₁⟩ := hfresh w.issued
  obtain ⟨evaluatedId, hevaluated, havoid₂⟩ := hfresh (mergeDecisionId :: w.issued)
  obtain ⟨recordedId, hrecorded, havoid₃⟩ := hfresh (evaluatedId :: mergeDecisionId :: w.issued)
  have h₁ := of_alone_newUuid (Prog.alone_bind.mp h) mergeDecisionId trivial hdecision
  have h₂ := of_alone_newUuid (Prog.alone_bind.mp h₁) evaluatedId trivial hevaluated
  have h₃ := of_alone_newUuid (Prog.alone_bind.mp h₂) recordedId trivial hrecorded
  have h₄ := of_alone_inTransaction (Prog.alone_bind.mp h₃) hnow
  refine ⟨mergeDecisionId, evaluatedId, recordedId,
    recordedId :: evaluatedId :: mergeDecisionId :: w.issued, hdecision, ?_, ?_, ?_, ?_⟩
  · exact fun id hid => List.mem_cons_of_mem _ (List.mem_cons_of_mem _ (List.mem_cons_of_mem _ hid))
  · intro id hid hold hmem
    simp only [List.mem_cons] at hmem
    rcases hmem with rfl | rfl | rfl | hmem
    · exact havoid₃ hid
    · exact havoid₂ hid
    · exact havoid₁ hid
    · exact hold hmem
  · intro db' hrecord
    dsimp only at h₄
    rw [hrecord] at h₄
    exact h₄
  · intro e hrecord
    dsimp only at h₄
    rw [hrecord] at h₄
    exact h₄

/-- A candidate that does not fit breaks a constraint, at some answers. -/
theorem fitsSchema_of_alone (hsound : StoreSound w)
    (hvalid : (validateProposal proposal).outcome = .accepted)
    (h : (processCandidate tables context subsystem proposal).Alone SeedReadable Unbroken w es) :
    FitsSchema tables context proposal w := by
  have hrecording := Prog.alone_bind.mp h
  have hconfidence : proposal.confidencePct ≤ 100 := by
    by_contra hover
    obtain ⟨mergeDecisionId, evaluatedId, recordedId, issued, -, -, -, -, hfailed⟩ :=
      of_alone_validateAndRecordProposal hrecording [] 0
    obtain ⟨e, hrecord, hbreaks⟩ := recordProposal_of_confidence context
      (validateProposal proposal) mergeDecisionId evaluatedId recordedId 0 w.db hover
    exact hfailed e hrecord e rfl hbreaks
  refine ⟨hconfidence, fun hunrecorded => ?_⟩
  have hnew := unrecorded_iff.mp hunrecorded
  have hrefs : HasReferences context w.db := by
    by_contra hmissing
    obtain ⟨mergeDecisionId, evaluatedId, recordedId, issued, -, -, -, -, hfailed⟩ :=
      of_alone_validateAndRecordProposal hrecording [] 0
    obtain ⟨e, hrecord, hbreaks⟩ := recordProposal_of_missing context
      (validateProposal proposal) mergeDecisionId evaluatedId recordedId 0 w.db hconfidence hnew
      hmissing
    exact hfailed e hrecord e rfl hbreaks
  refine ⟨hrefs, fun payload hpayload haction itemIds hlength hnodup hfresh now => ?_⟩
  by_contra hnot
  obtain ⟨mergeDecisionId, evaluatedId, recordedId, issued, hdecision, hissued, havoid, hok, -⟩ :=
    of_alone_validateAndRecordProposal hrecording itemIds now
  obtain ⟨db', hrecord, hpresent, hrefs', hcanonical⟩ := recordProposal_of_fits
    mergeDecisionId evaluatedId recordedId now (validateProposal_target proposal) hconfidence
    hrefs hnew (hsound.decisions_ne hdecision) (hsound.undecided hnew)
  have hmerge := hok db' hrecord
  have hkind : proposal.proposalKind = .identityDelta := by
    rcases payload_of_validated hvalid with ⟨_, -, hother⟩ | ⟨_, -, hother⟩ | ⟨_, hkind, -⟩
    · rw [hpayload] at hother
      cases hother
    · rw [hpayload] at hother
      cases hother
    · exact hkind
  simp only [Prog.Following, hvalid, mergeCandidate, hkind] at hmerge
  unfold Identity.applyIdentityDeltaProposalMerge at hmerge
  dsimp only at hmerge
  rw [if_neg (not_rejected_of_validated hvalid)] at hmerge
  simp only [hpayload, haction] at hmerge
  have hnot' : ¬ ItemsFit tables context proposal now (payload.itemDeltas.zip itemIds) db' :=
    fun hfits => hnot ((ItemsFit.congr hcanonical.identityItems).mp hfits)
  have hrecorded : Recorded context proposal { w with db := db', issued := issued } :=
      { confidence := hconfidence
        proposal := hpresent
        references := hrefs'
        items := by
          show Identity.Stored db'.identityItems
          rw [hcanonical.identityItems]
          exact hsound.items
        itemIssued := by
          intro id hid
          rw [hcanonical.identityItems] at hid
          exact hissued (hsound.itemIssued id hid)
        memoryIssued := by
          intro row hrow
          rw [hcanonical.memoryArtifacts] at hrow
          exact hissued (hsound.memoryIssued row hrow) }
  exact mergeIntoStore_breaks hvalid hpayload hrecorded hlength hnodup
    (fun id hid => havoid id hid (hfresh id hid)) hnot' _ (alone_unbroken_of_bind hmerge)

/-- Whatever the surroundings answer, a validated candidate breaks none of the constraints of
its tables, if and only if it fits. -/
theorem processCandidate_unbroken_iff (hsound : StoreSound w)
    (hvalid : (validateProposal proposal).outcome = .accepted) :
    (∀ o : Oracle system, (∀ n q, SeedReadable q (o n q)) → ∀ n e,
        ((processCandidate tables context subsystem proposal).run o n w).result = .error e →
          ¬ BreaksSchema e) ↔
      FitsSchema tables context proposal w := by
  constructor
  · intro h
    have hsteady : ∀ n q, SeedReadable q (steady 0 n q) := by
      intro n q
      cases q <;> first | trivial | exact fun e he => by cases he
    have halone : (processCandidate tables context subsystem proposal).Alone SeedReadable Unbroken
        w [] := Prog.Alone.of_runs hsteady fun o ho n e he => h o ho n e he
    exact fitsSchema_of_alone hsound hvalid halone
  · intro hfits o ho n e he
    exact (processCandidate_safe hsound hvalid hfits []).run ho n e he

end Candidate

/-! ## A candidate that fits, and one that does not -/

/-- The surroundings of an execution, with an id issued for everything in it. -/
def executionStarted : World := { nothingRecorded with issued := [2, 3] }

theorem executionStarted_sound : StoreSound executionStarted where
  items := { ids := List.nodup_nil, checks := by rintro row ⟨⟩, successors := by rintro row ⟨⟩ }
  itemIssued := by rintro id ⟨⟩
  memoryIssued := by rintro row ⟨⟩
  decisionIssued := by rintro row ⟨⟩
  decided := by rintro row ⟨⟩

theorem processCandidate_unbroken_coreDescription :
    FitsSchema Text.Tables.ascii Identity.sampleContext Identity.coreDescription
        executionStarted ∧
      ∀ o : Oracle system, (∀ n q, SeedReadable q (o n q)) → ∀ n e,
        ((processCandidate Text.Tables.ascii Identity.sampleContext "continuity"
          Identity.coreDescription).run o n executionStarted).result = .error e →
          ¬ BreaksSchema e := by
  have hfits : FitsSchema Text.Tables.ascii Identity.sampleContext Identity.coreDescription
      executionStarted := by
    refine ⟨by decide, fun _ => ⟨⟨by decide, by decide, by decide⟩, ?_⟩⟩
    intro payload hpayload _ itemIds hlength _ _ now
    obtain rfl := CanonicalProposalPayload.identityDelta.inj hpayload
    obtain ⟨itemId, rfl⟩ := List.length_eq_one_iff.mp hlength
    intro _ write itemId hwrite
    obtain ⟨rfl, -⟩ := Prod.mk.inj (Option.some.inj hwrite)
    refine ⟨⟨⟨?_, rfl⟩, ?_⟩, trivial⟩
    · show (90 : UInt8).toNat ≤ 100
      decide
    · rintro id ⟨⟩
  exact ⟨hfits, (processCandidate_unbroken_iff executionStarted_sound (by decide +kernel)).mpr hfits⟩

/-- A candidate whose one item delta is about an item that does not exist. -/
def danglingTarget : CanonicalProposal :=
  Identity.identityProposal 20
    { lifecycleState := .completeIdentityActive
      itemDeltas :=
        [{ operation := .add, stabilityClass := .evolving, category := .preference
           itemKey := "tea", value := "Prefers tea.", confidencePct := 90
           source := .userAuthored, mergePolicy := .revisable
           targetIdentityItemId := some 99 }]
      rationale := "Chosen by the user." }

/-- It passes the validation, and fails the execution with a broken reference. -/
theorem danglingTarget_breaks_reference :
    (validateProposal danglingTarget).outcome = .accepted ∧
      ¬ ∀ o : Oracle system, (∀ n q, SeedReadable q (o n q)) → ∀ n e,
        ((processCandidate Text.Tables.ascii Identity.sampleContext "continuity"
          danglingTarget).run o n executionStarted).result = .error e → ¬ BreaksSchema e := by
  have hsteady : ∀ n q, SeedReadable q (steady 5 n q) := by
    intro n q
    cases q <;> first | trivial | exact fun e he => by cases he
  have herror : ((processCandidate Text.Tables.ascii Identity.sampleContext "continuity"
      danglingTarget).run (steady 5) 0 executionStarted).result =
        .error ["identity_items_supersedes_item_id_fkey"] := by
    decide +kernel
  refine ⟨by decide +kernel, fun h => h (steady 5) hsteady 0 _ herror ?_⟩
  decide

end Proposal

end BlueLagoon
