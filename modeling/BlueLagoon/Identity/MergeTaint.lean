import BlueLagoon.Identity.Taint
import BlueLagoon.Identity.Lifecycle
import BlueLagoon.Canonical.SchemaSafety

/-!
# What a merge does to the stable items and the lifecycle

A merge applies the deltas of a proposal, or starts, answers or cancels the interview. For
each of these branches this module says exactly when it leaves the stable items and the
lifecycle as they were, whatever the ids and the instants it draws.
-/

namespace BlueLagoon

open Interleaving Harness

namespace Identity

/-! ## When a merge is untainted -/

/-- The ids that a merge draws for the items of a proposal. -/
structure Drawn (count : Nat) (itemIds : List Uuid) (selfDescriptionId : Uuid) (w : World) :
    Prop where
  length : itemIds.length = count
  nodup : itemIds.Nodup
  fresh : ∀ id ∈ itemIds, id ∉ w.issued
  self : selfDescriptionId ∉ w.issued
  apart : selfDescriptionId ∉ itemIds

/-- The deltas of a proposal name the state of the lifecycle, and leave the stable items as
they are, whenever they go through. -/
def StoreUntainted (tables : Text.Tables) (context : ProposalProcessingContext)
    (proposal : CanonicalProposal) (payload : IdentityDeltaProposal) (w : World) : Prop :=
  ∀ itemIds selfDescriptionId now left applied,
    Drawn payload.itemDeltas.length itemIds selfDescriptionId w →
    applyDeltas tables context proposal payload itemIds selfDescriptionId now w.db =
      .ok (.ok left, applied) →
    lifecycleState w.db = some payload.lifecycleState ∧
      DeltasUntainted tables context proposal payload itemIds now w.db

/-- The answer is the last one of the interview that the lifecycle points to. -/
def CompletesInterview (answer : IdentityInterviewAnswer) (db : Database) : Prop :=
  ∃ interview, activeInterview db = some interview ∧ interview.status = .inProgress ∧
    answer.stepKey = interview.currentStep ∧ nextMissingStep (answered interview answer) = none

/-- The condition for each branch of a merge. -/
def MergeUntainted (tables : Text.Tables) (context : ProposalProcessingContext)
    (proposal : CanonicalProposal) (payload : IdentityDeltaProposal) (w : World) : Prop :=
  match payload.interviewAction with
  | none => StoreUntainted tables context proposal payload w
  | some .startCustomInterview => lifecycleState w.db = some .identityKickstartInProgress
  | some (.answerCustomInterview answer) => ¬ CompletesInterview answer w.db
  | some (.cancel _) =>
    lifecycleState w.db = none ∨ lifecycleState w.db = some .bootstrapSeedOnly
  | some (.selectPredefinedTemplate _) => True

section Branches

variable {tables : Text.Tables} {context : ProposalProcessingContext}
  {proposal : CanonicalProposal} {payload : IdentityDeltaProposal} {w : World} {es : List Event}
  {db db' : Database}

/-- Any answers at all. -/
abbrev anyAnswers : Answers system := fun _ _ => True

/-- A merge on its own leaves the stable items and the lifecycle of `w` as they are. -/
abbrev KeepsUntainted {α : Type} (p : Harness α) (w : World) (es : List Event) : Prop :=
  p.Alone anyAnswers (fun _ w' _ => Untainted w.db w'.db) w es

theorem Untainted.refl (db : Database) : Untainted db db :=
  ⟨StableItemsKept.refl _, rfl⟩

theorem lifecycleState_congr (h : db'.identityLifecycle = db.identityLifecycle) :
    lifecycleState db' = lifecycleState db := by
  rw [lifecycleState, lifecycleState, currentLifecycle_congr h]

theorem Untainted.of_same (hitems : db'.identityItems = db.identityItems)
    (hlifecycle : db'.identityLifecycle = db.identityLifecycle) : Untainted db db' := by
  refine ⟨?_, lifecycleState_congr hlifecycle⟩
  rw [hitems]
  exact StableItemsKept.refl _

/-- What touches neither table taints nothing more. -/
theorem untainted_of_quiet {α : Type} {p : Harness α} (hitems : p.Confined OffItems)
    (hquiet : p.Confined Quiet) {db₀ : Database} (h : Untainted db₀ w.db) :
    p.Alone anyAnswers (fun _ w' _ => Untainted db₀ w'.db) w es := by
  have hlifecycle : p.Alone anyAnswers
      (fun _ w' _ => w'.db.identityLifecycle = w.db.identityLifecycle) w es := by
    refine hquiet.alone
      (T := fun (w' : World) _ => w'.db.identityLifecycle = w.db.identityLifecycle) ?_ rfl
    rintro s s' es' es'' hs ⟨⟨-, hsame, -⟩, -⟩
    rw [hsame, hs]
  refine ((alone_offItems hitems).and hlifecycle).mono fun _ w' _ hsame => ?_
  obtain ⟨hsameItems, hsameLifecycle⟩ := hsame
  refine ⟨?_, (lifecycleState_congr hsameLifecycle).trans h.lifecycle⟩
  rw [hsameItems]
  exact h.items

/-- Some run of a program ends as every run of it does. -/
theorem exists_end {α : Type} {p : Harness α} {Q : Except ErrorChain α → World → List Event → Prop}
    (h : p.Alone anyAnswers Q w es) : ∃ r w' es', Q r w' es' :=
  ⟨_, _, _, h.run (o := steady 0) (fun _ _ => trivial) 0⟩

/-! ### The lifecycle -/

theorem lifecycleState_recorded {row : IdentityLifecycleRecord} {now : DateTime}
    (h : recordLifecycleTransition row now db = .ok db') (hcurrent : row.status = .current) :
    lifecycleState db' = some row.lifecycleState := by
  rw [lifecycleState, currentLifecycle_recorded h hcurrent]
  rfl

/-- A row with an id of its own and an interview that is there can be recorded. -/
theorem recordLifecycleTransition_of_fresh (row : IdentityLifecycleRecord) (now : DateTime)
    (db : Database) (hid : row.identityLifecycleId ∉
      db.identityLifecycle.map IdentityLifecycleRecord.identityLifecycleId)
    (hinterview : db.hasIdentityInterview row.activeInterviewId = true) :
    ∃ db', recordLifecycleTransition row now db = .ok db' := by
  refine ⟨_, checked_eq_ok.mpr ⟨?_, rfl⟩⟩
  rw [Database.identityLifecycleViolation, Database.firstBroken_eq_none]
  simp only [List.forall_mem_cons, List.not_mem_nil, false_implies, implies_true, and_true]
  refine ⟨?_, ?_, hinterview⟩
  · refine List.all_eq_true.mpr fun other hother => decide_eq_true fun heq => hid ?_
    rcases Table.mem_update.mp hother with ⟨hmem, -⟩ | ⟨old, hold, -, rfl⟩
    · rw [← heq]
      exact List.mem_map_of_mem hmem
    · rw [← heq]
      exact List.mem_map.mpr ⟨old, hold, rfl⟩
  · -- No row is current any more.
    refine Bool.or_eq_true_iff.mpr (Or.inr (List.all_eq_true.mpr fun other hother => ?_))
    rcases Table.mem_update.mp hother with ⟨-, hnot⟩ | ⟨old, -, -, rfl⟩
    · simpa using hnot
    · rfl

theorem lifecycleState_eq_none : lifecycleState db = none ↔ currentLifecycle db = none := by
  rw [lifecycleState, Option.map_eq_none_iff]

/-! ### Deltas -/

/-- The transaction of a merge that names the state of the lifecycle. -/
theorem mergeDeltas_untainted (hwell : WellFormed db.identityItems) {itemIds : List Uuid}
    {selfDescriptionId lifecycleId : Uuid} {completedAt now : DateTime}
    {current : Option IdentityLifecycleRecord} {effect : Effect DeltasOutcome}
    (hlength : itemIds.length = payload.itemDeltas.length)
    (hcondition : ∀ left applied, applyDeltas tables context proposal payload itemIds
        selfDescriptionId now db = .ok (.ok left, applied) →
      lifecycleState db = some payload.lifecycleState ∧
        DeltasUntainted tables context proposal payload itemIds now db)
    (h : mergeDeltas tables context proposal payload current itemIds selfDescriptionId lifecycleId
      completedAt now db = .ok effect) : Untainted db effect.db := by
  rcases mergeDeltas_eq_ok h with hnone | ⟨left, applied, happlied, hitems⟩
  · rw [hnone]
    exact Untainted.refl db
  · obtain ⟨hstate, hdeltas⟩ := hcondition left applied happlied
    refine ⟨?_, ?_⟩
    · rw [hitems]
      exact (applyDeltas_untainted_iff hwell hlength happlied).mpr hdeltas
    · rcases (mergeDeltas_kickstart h).2 with ⟨hsame, -⟩ | ⟨hrecorded, -⟩
      · exact lifecycleState_congr hsame
      · rw [hstate, lifecycleState, hrecorded]
        rfl

/-- The transaction of a merge whose deltas go through, with a fresh id for the lifecycle. -/
theorem mergeDeltas_of_applied {itemIds left : List Uuid} {selfDescriptionId lifecycleId : Uuid}
    (completedAt : DateTime) {now : DateTime} {applied : Database}
    (happlied : applyDeltas tables context proposal payload itemIds selfDescriptionId now db =
      .ok (.ok left, applied))
    (hlifecycle : lifecycleId ∉
      db.identityLifecycle.map IdentityLifecycleRecord.identityLifecycleId) :
    ∃ effect, mergeDeltas tables context proposal payload (currentLifecycle db) itemIds
        selfDescriptionId lifecycleId completedAt now db = .ok effect ∧ effect.value = .ok left ∧
      effect.db.identityItems = applied.identityItems ∧
      (lifecycleState effect.db = lifecycleState db →
        lifecycleState db = some payload.lifecycleState) := by
  obtain ⟨hinterviews, hrows⟩ := SameKickstart.deltas happlied
  unfold mergeDeltas recordMergedLifecycle
  rw [happlied]
  dsimp only
  by_cases hrecords : recordsLifecycle payload (currentLifecycle db) = true
  · rw [← hrows] at hlifecycle
    obtain ⟨recorded, hrecorded⟩ := recordLifecycleTransition_of_fresh
      (mergedLifecycle proposal payload lifecycleId completedAt) now applied hlifecycle rfl
    simp only [if_pos hrecords, hrecorded]
    refine ⟨_, rfl, rfl, ?_, fun hsame => ?_⟩
    · show recorded.identityItems = applied.identityItems
      exact recordLifecycleTransition_items hrecorded
    · rw [← hsame]
      exact lifecycleState_recorded hrecorded rfl
  · simp only [if_neg hrecords]
    refine ⟨_, rfl, rfl, rfl, fun _ => ?_⟩
    unfold recordsLifecycle at hrecords
    cases hcurrent : currentLifecycle db with
    | none =>
      rw [hcurrent] at hrecords
      exact absurd rfl hrecords
    | some lifecycle =>
      rw [hcurrent] at hrecords
      rw [lifecycleState, hcurrent]
      simpa using hrecords

/-- The merge of deltas taints the store exactly when they do. -/
theorem mergeIntoStore_untainted_iff (hwell : WellFormed w.db.identityItems) :
    KeepsUntainted (mergeIntoStore tables context proposal payload) w es ↔
      StoreUntainted tables context proposal payload w := by
  constructor
  · intro halone itemIds selfDescriptionId now left applied hdrawn happlied
    unfold mergeIntoStore at halone
    rw [← hdrawn.length] at halone
    have hnow : anyAnswers Query.statement (some now : Option DateTime) := trivial
    -- Each question is answered so that the transaction meets these ids at this instant.
    have hread := of_alone_inTransaction (Prog.alone_bind.mp halone) hnow
    obtain ⟨issued, hissued, hids⟩ := of_alone_newUuids (Prog.alone_bind.mp hread)
      (fun _ => trivial) hdrawn.nodup hdrawn.fresh
    have hself : selfDescriptionId ∉ issued := by
      rw [hissued, not_or]
      exact ⟨hdrawn.apart, hdrawn.self⟩
    have hfirst := of_alone_newUuid (Prog.alone_bind.mp hids) selfDescriptionId trivial hself
    obtain ⟨lifecycleId, hlifecycle⟩ : ∃ id, id ∉ (selfDescriptionId :: issued) ++
        w.db.identityLifecycle.map IdentityLifecycleRecord.identityLifecycleId :=
      ⟨_, unused_not_mem _ 0⟩
    rw [List.mem_append, not_or] at hlifecycle
    have hsecond := of_alone_newUuid (Prog.alone_bind.mp hfirst) lifecycleId trivial hlifecycle.1
    have hthird := of_alone_utcNow (Prog.alone_bind.mp hsecond) 0 trivial
    have hlast := of_alone_inTransaction (Prog.alone_bind.mp hthird) hnow
    obtain ⟨effect, hbody, hvalue, hitems, hstate⟩ :=
      mergeDeltas_of_applied (max w.clock 0) happlied hlifecycle.2
    dsimp only at hlast
    rw [hbody] at hlast
    have huntainted : Untainted w.db effect.db := by
      dsimp only [Prog.Following] at hlast
      rw [hvalue] at hlast
      exact hlast
    refine ⟨hstate huntainted.lifecycle, ?_⟩
    rw [← applyDeltas_untainted_iff hwell hdrawn.length happlied, ← hitems]
    exact huntainted.items
  · intro hcondition
    unfold mergeIntoStore
    refine Prog.alone_bind.mpr (alone_inTransaction (fun now effect hbody => ?_)
      (fun now e hbody => by cases hbody) fun e _ => Untainted.refl _)
    obtain rfl := Except.ok.inj hbody
    refine Prog.alone_bind.mpr (alone_newUuids payload.itemDeltas.length
      fun itemIds issued hlength hnodup hfresh hissued => ?_)
    refine Prog.alone_bind.mpr (alone_newUuid fun selfDescriptionId hself => ?_)
    refine Prog.alone_bind.mpr (alone_newUuid fun lifecycleId _ => ?_)
    refine Prog.alone_bind.mpr (alone_utcNow fun completedAt _ => ?_)
    rw [hissued, not_or] at hself
    have hdrawn : Drawn payload.itemDeltas.length itemIds selfDescriptionId w :=
      ⟨hlength, hnodup, hfresh, hself.2, hself.1⟩
    refine Prog.alone_bind.mpr (alone_inTransaction (fun now effect hbody => ?_)
      (fun now e hbody => Untainted.refl _) fun e _ => Untainted.refl _)
    have huntainted : Untainted w.db effect.db :=
      mergeDeltas_untainted hwell hlength
        (fun left applied happlied => hcondition _ _ _ _ _ hdrawn happlied) hbody
    exact untainted_of_quiet (settleDeltas_offItems _) (settleDeltas_quiet _) huntainted

/-! ### The interview -/

theorem startInterview_eq_ok {interviewId lifecycleId : Uuid} {startedAt now : DateTime}
    (h : startInterview payload interviewId lifecycleId startedAt now db = .ok db') :
    db'.identityItems = db.identityItems ∧
      lifecycleState db' = some .identityKickstartInProgress := by
  obtain ⟨inserted, hinsert, hrecord⟩ := except_bind_eq_ok.mp h
  obtain ⟨-, rfl⟩ := checked_eq_ok.mp hinsert
  refine ⟨?_, lifecycleState_recorded hrecord rfl⟩
  rw [recordLifecycleTransition_items hrecord]

theorem insertIdentityInterview_of_fresh (row : IdentityInterviewRecord) (now : DateTime)
    (hid : row.identityInterviewId ∉
      db.identityKickstartInterviews.map IdentityInterviewRecord.identityInterviewId) :
    insertIdentityInterview row now db = .ok
      { db with identityKickstartInterviews := db.identityKickstartInterviews ++
          [{ row with createdAt := now, updatedAt := now }] } := by
  refine checked_eq_ok.mpr ⟨?_, rfl⟩
  rw [Database.identityInterviewViolation, Database.firstBroken_eq_none]
  simp only [List.forall_mem_cons, List.not_mem_nil, false_implies, implies_true, and_true]
  refine List.all_eq_true.mpr fun other hother => decide_eq_true fun heq => hid ?_
  rw [← heq]
  exact List.mem_map_of_mem hother

theorem startInterview_of_fresh (payload : IdentityDeltaProposal)
    {interviewId lifecycleId : Uuid} (startedAt now : DateTime) (hinterview : interviewId ∉
      db.identityKickstartInterviews.map IdentityInterviewRecord.identityInterviewId)
    (hlifecycle : lifecycleId ∉
      db.identityLifecycle.map IdentityLifecycleRecord.identityLifecycleId) :
    ∃ db', startInterview payload interviewId lifecycleId startedAt now db = .ok db' := by
  unfold startInterview
  have hinserted := insertIdentityInterview_of_fresh
    { identityInterviewId := interviewId
      status := .inProgress
      currentStep := "name"
      answeredFields := [] } now hinterview
  rw [hinserted]
  exact recordLifecycleTransition_of_fresh _ now _ hlifecycle
    (List.any_eq_true.mpr ⟨_, List.mem_append_right _ List.mem_cons_self, decide_eq_true rfl⟩)

/-- The start of an interview taints the store unless one is in progress. -/
theorem startCustomInterview_untainted_iff :
    KeepsUntainted (startCustomInterview proposal payload) w es ↔
      lifecycleState w.db = some .identityKickstartInProgress := by
  constructor
  · intro halone
    unfold startCustomInterview at halone
    obtain ⟨interviewId, hinterview⟩ : ∃ id, id ∉ w.issued ++
        w.db.identityKickstartInterviews.map IdentityInterviewRecord.identityInterviewId :=
      ⟨_, unused_not_mem _ 0⟩
    rw [List.mem_append, not_or] at hinterview
    have hfirst := of_alone_newUuid (Prog.alone_bind.mp halone) interviewId trivial hinterview.1
    obtain ⟨lifecycleId, hlifecycle⟩ : ∃ id, id ∉ (interviewId :: w.issued) ++
        w.db.identityLifecycle.map IdentityLifecycleRecord.identityLifecycleId :=
      ⟨_, unused_not_mem _ 0⟩
    rw [List.mem_append, not_or] at hlifecycle
    have hsecond := of_alone_newUuid (Prog.alone_bind.mp hfirst) lifecycleId trivial hlifecycle.1
    have hthird := of_alone_utcNow (Prog.alone_bind.mp hsecond) 0 trivial
    have hnow : anyAnswers Query.statement (some 0 : Option DateTime) := trivial
    have hlast := of_alone_inTransaction (Prog.alone_bind.mp hthird) hnow
    obtain ⟨started, hstart⟩ := startInterview_of_fresh payload (max w.clock 0) 0 hinterview.2 hlifecycle.2
    dsimp only at hlast
    rw [hstart] at hlast
    have huntainted : Untainted w.db started := hlast
    rw [← huntainted.lifecycle]
    exact (startInterview_eq_ok hstart).2
  · intro hstate
    unfold startCustomInterview
    refine Prog.alone_bind.mpr (alone_newUuid fun interviewId _ => ?_)
    refine Prog.alone_bind.mpr (alone_newUuid fun lifecycleId _ => ?_)
    refine Prog.alone_bind.mpr (alone_utcNow fun startedAt _ => ?_)
    refine Prog.alone_bind.mpr (alone_inTransaction (fun now effect hbody => ?_)
      (fun now e hbody => Untainted.refl _) fun e _ => Untainted.refl _)
    obtain ⟨started, hstart, rfl⟩ := except_map_eq_ok.mp hbody
    obtain ⟨hitems, hrecorded⟩ := startInterview_eq_ok hstart
    show Untainted w.db started
    refine ⟨?_, hrecorded.trans hstate.symm⟩
    rw [hitems]
    exact StableItemsKept.refl _

/-- A cancellation taints the store unless there is no lifecycle, or only the seed. -/
theorem cancelCustomInterview_untainted_iff {reason : Option String} :
    KeepsUntainted (cancelCustomInterview proposal reason) w es ↔
      lifecycleState w.db = none ∨ lifecycleState w.db = some .bootstrapSeedOnly := by
  have hnow : anyAnswers Query.statement (some 0 : Option DateTime) := trivial
  constructor
  · intro halone
    unfold cancelCustomInterview at halone
    have hread := of_alone_inTransaction (Prog.alone_bind.mp halone) hnow
    dsimp only [Prog.Following] at hread
    cases hcurrent : currentLifecycle w.db with
    | none => exact Or.inl (lifecycleState_eq_none.mpr hcurrent)
    | some lifecycle =>
      right
      rw [hcurrent] at hread
      -- The interview, if any, is cancelled first: the lifecycle is still what it was.
      have hcancelled : ∃ w₁ : World, ∃ es₁,
          w₁.db.identityLifecycle = w.db.identityLifecycle ∧
          Prog.Alone anyAnswers (do
            let lifecycleId ← newUuid
            inTransaction fun now db =>
              (recordLifecycleTransition
                { identityLifecycleId := lifecycleId
                  status := .current
                  lifecycleState := .bootstrapSeedOnly
                  activeInterviewId := none
                  transitionReason := reason.getD "custom identity interview cancelled"
                  transitionedBy := "foreground_identity_interview" } now db).map fun recorded =>
                { value := (), db := recorded
                  events := [.lifecycleRecorded (lifecycleState db) .bootstrapSeedOnly] }
            pure (accepted proposal "custom identity interview cancelled" none) :
            Harness ProposalEvaluation) (fun _ w' _ => Untainted w.db w'.db) w₁ es₁ := by
        have hfirst := Prog.alone_bind.mp hread
        cases hactive : lifecycle.activeInterviewId with
        | none =>
          rw [hactive] at hfirst
          exact ⟨w, _, rfl, hfirst⟩
        | some interviewId =>
          rw [hactive] at hfirst
          exact ⟨{ w with db :=
            updateIdentityInterviewState interviewId .cancelled "cancelled" [] 0 w.db }, _, rfl,
            of_alone_inTransaction hfirst hnow⟩
      obtain ⟨w₁, es₁, hsame, hrest⟩ := hcancelled
      obtain ⟨lifecycleId, hlifecycle⟩ : ∃ id, id ∉ w₁.issued ++
          w₁.db.identityLifecycle.map IdentityLifecycleRecord.identityLifecycleId :=
        ⟨_, unused_not_mem _ 0⟩
      rw [List.mem_append, not_or] at hlifecycle
      have hsecond := of_alone_newUuid (Prog.alone_bind.mp hrest) lifecycleId trivial hlifecycle.1
      have hlast := of_alone_inTransaction (Prog.alone_bind.mp hsecond) hnow
      obtain ⟨recorded, hrecord⟩ := recordLifecycleTransition_of_fresh
        { identityLifecycleId := lifecycleId
          status := .current
          lifecycleState := .bootstrapSeedOnly
          activeInterviewId := none
          transitionReason := reason.getD "custom identity interview cancelled"
          transitionedBy := "foreground_identity_interview" } 0 w₁.db hlifecycle.2 rfl
      dsimp only at hlast
      rw [hrecord] at hlast
      have huntainted : Untainted w.db recorded := hlast
      rw [← huntainted.lifecycle]
      exact lifecycleState_recorded hrecord rfl
  · intro hstate
    unfold cancelCustomInterview
    refine Prog.alone_bind.mpr (alone_inTransaction (fun now effect hbody => ?_)
      (fun now e hbody => by cases hbody) fun e _ => Untainted.refl _)
    obtain rfl := Except.ok.inj hbody
    cases hcurrent : currentLifecycle w.db with
    | none =>
      simp only [Prog.Following]
      exact Untainted.refl _
    | some lifecycle =>
      simp only [Prog.Following]
      have hseed : lifecycleState w.db = some .bootstrapSeedOnly := by
        refine hstate.resolve_left fun hnone => ?_
        rw [lifecycleState_eq_none.mp hnone] at hcurrent
        cases hcurrent
      refine Prog.Alone.bind (R := fun _ w' _ => w'.db.identityItems = w.db.identityItems ∧
        w'.db.identityLifecycle = w.db.identityLifecycle) ?_ (fun _ w₁ es₁ hsame => ?_)
        fun e w' _ hsame => Untainted.of_same hsame.1 hsame.2
      · cases lifecycle.activeInterviewId with
        | none => exact ⟨rfl, rfl⟩
        | some interviewId =>
          refine alone_inTransaction (fun now effect hbody => ?_) (fun now e hbody => ⟨rfl, rfl⟩)
            fun e _ => ⟨rfl, rfl⟩
          obtain rfl := Except.ok.inj hbody
          exact ⟨rfl, rfl⟩
      · have hbefore : Untainted w.db w₁.db := Untainted.of_same hsame.1 hsame.2
        refine Prog.alone_bind.mpr (alone_newUuid fun lifecycleId _ => ?_)
        refine Prog.alone_bind.mpr (alone_inTransaction (fun now effect hbody => ?_)
          (fun now e hbody => hbefore) fun e _ => hbefore)
        obtain ⟨recorded, hrecord, rfl⟩ := except_map_eq_ok.mp hbody
        show Untainted w.db recorded
        refine ⟨?_, (lifecycleState_recorded hrecord rfl).trans hseed.symm⟩
        rw [recordLifecycleTransition_items hrecord]
        exact hbefore.items

/-! ### The answer -/

/-- Fresh ids, as many as needed. -/
theorem exists_fresh_ids (n : Nat) (avoided : List Uuid) :
    ∃ ids : List Uuid, ids.length = n ∧ ids.Nodup ∧ ∀ id ∈ ids, id ∉ avoided := by
  induction n with
  | zero => exact ⟨[], rfl, List.nodup_nil, by simp⟩
  | succ n ih =>
    obtain ⟨ids, hlength, hnodup, hfresh⟩ := ih
    have hunused := unused_not_mem (ids ++ avoided) 0
    rw [List.mem_append, not_or] at hunused
    refine ⟨_ :: ids, by rw [List.length_cons, hlength],
      List.nodup_cons.mpr ⟨hunused.1, hnodup⟩, ?_⟩
    rw [List.forall_mem_cons]
    exact ⟨hunused.2, hfresh⟩

/-- Plain items with fresh ids of their own are all inserted. -/
theorem insertItems_of_plain {proposalId : Uuid} (rows : List IdentityItemRecord) (now : DateTime)
    (db : Database) (hplain : ∀ row ∈ rows, Proposal.PlainItem proposalId row)
    (hproposal : db.hasProposal (some proposalId) = true)
    (hnodup : (rows.map IdentityItemRecord.identityItemId).Nodup)
    (hfresh : ∀ row ∈ rows, row.identityItemId ∉ itemIds db.identityItems) :
    insertItems rows now db = .ok
      { db with identityItems := db.identityItems ++ rows.map (ItemWrite.stamped now) } := by
  induction rows generalizing db with
  | nil =>
    rw [insertItems, List.map_nil, List.append_nil]
  | cons row rows ih =>
    rw [List.forall_mem_cons] at hplain hfresh
    rw [List.map_cons, List.nodup_cons] at hnodup
    have hnew : NewRow proposalId row.identityItemId row :=
      ⟨rfl, hplain.1.proposal, hplain.1.current, hplain.1.weight⟩
    have halone : SupersedesOneOf db.identityItems row := by
      intro id hid
      rw [hplain.1.alone] at hid
      cases hid
    have hinserted :=
      insertIdentityItem_of_fits now hnew hproposal hfresh.1 hplain.1.range halone
    have hrest := ih { db with identityItems := db.identityItems ++ [ItemWrite.stamped now row] }
      hplain.2 hproposal hnodup.2 fun other hother hmem => by
        rw [itemIds, List.map_append, List.mem_append] at hmem
        rcases hmem with hold | hlast
        · exact hfresh.2 other hother hold
        · refine hnodup.1 ?_
          obtain hid : other.identityItemId = row.identityItemId := List.mem_singleton.mp hlast
          rw [← hid]
          exact List.mem_map_of_mem hother
    rw [insertItems, hinserted]
    refine hrest.trans ?_
    rw [List.append_assoc]
    rfl

theorem interviewItems_ids (context : ProposalProcessingContext) (proposal : CanonicalProposal)
    (interviewId : Uuid) (answeredFields : List (String × String)) {newIds : List Uuid}
    (selfDescriptionItemId : Uuid) (hlength : newIds.length = customIdentityFields.length) :
    (interviewItems context proposal interviewId answeredFields newIds
      selfDescriptionItemId).map IdentityItemRecord.identityItemId =
      newIds ++ [selfDescriptionItemId] := by
  have hdeltas : (customIdentityDeltasFromAnswers answeredFields proposal).length =
      newIds.length := by
    rw [hlength, customIdentityDeltasFromAnswers, List.length_map]
  rw [interviewItems, List.map_append, List.map_zipWith]
  congr 1
  show List.zipWith (fun _ id => id) _ newIds = newIds
  rw [← List.map_uncurry_zip_eq_zipWith]
  exact List.map_snd_zip hdeltas.ge

/-- The first item of an interview is the name, and stable. -/
theorem interviewItems_stable (context : ProposalProcessingContext) (proposal : CanonicalProposal)
    (interviewId : Uuid) (answeredFields : List (String × String)) {newIds : List Uuid}
    (selfDescriptionItemId : Uuid) (hlength : newIds.length = customIdentityFields.length) :
    ∃ row ∈ interviewItems context proposal interviewId answeredFields newIds
      selfDescriptionItemId, row.stabilityClass = .stable := by
  cases newIds with
  | nil => cases hlength
  | cons id rest => exact ⟨_, List.mem_append_left _ List.mem_cons_self, rfl⟩

/-- The last answer of an interview leaves stable items. -/
theorem completeInterview_taints (hvalid : (Proposal.validateProposal proposal).outcome = .accepted)
    (hconfidence : proposal.confidencePct ≤ 100)
    (hproposal : db.hasProposal (some proposal.proposalId) = true)
    (interview : IdentityInterviewRecord) (answeredFields : List (String × String))
    {newIds : List Uuid} {selfDescriptionItemId lifecycleId : Uuid} (completedAt now : DateTime)
    (hlength : newIds.length = customIdentityFields.length)
    (hnodup : (newIds ++ [selfDescriptionItemId]).Nodup)
    (hfresh : ∀ id ∈ newIds ++ [selfDescriptionItemId], id ∉ itemIds db.identityItems)
    (hlifecycle : lifecycleId ∉
      db.identityLifecycle.map IdentityLifecycleRecord.identityLifecycleId) :
    ∃ db', completeInterview interview answeredFields
        (interviewItems context proposal interview.identityInterviewId answeredFields newIds
          selfDescriptionItemId) lifecycleId completedAt now db = .ok db' ∧
      ¬ Untainted db db' := by
  have hids := interviewItems_ids context proposal interview.identityInterviewId answeredFields
    selfDescriptionItemId hlength
  have hrowIds : ∀ row ∈ interviewItems context proposal interview.identityInterviewId
      answeredFields newIds selfDescriptionItemId,
      row.identityItemId ∉ itemIds db.identityItems := by
    intro row hrow
    refine hfresh _ ?_
    rw [← hids]
    exact List.mem_map_of_mem hrow
  have hcompleted := insertItems_of_plain (interviewItems context proposal
      interview.identityInterviewId answeredFields newIds selfDescriptionItemId) now
    (updateIdentityInterviewState interview.identityInterviewId .completed "completed"
      answeredFields now db)
    (Proposal.interviewItems_plain hvalid hconfidence _ _ _ _) hproposal
    (by rw [hids]; exact hnodup) hrowIds
  obtain ⟨inserted, hinserted⟩ : ∃ inserted, inserted = { updateIdentityInterviewState
        interview.identityInterviewId .completed "completed" answeredFields now db with
      identityItems := db.identityItems ++ (interviewItems context proposal
        interview.identityInterviewId answeredFields newIds selfDescriptionItemId).map
          (ItemWrite.stamped now) } := ⟨_, rfl⟩
  have hinsert := hcompleted.trans (congrArg Except.ok hinserted.symm)
  have hsame : inserted.identityLifecycle = db.identityLifecycle := by rw [hinserted]; rfl
  rw [← hsame] at hlifecycle
  obtain ⟨db', hrecord⟩ := recordLifecycleTransition_of_fresh
    { identityLifecycleId := lifecycleId
      status := .current
      lifecycleState := .completeIdentityActive
      activeInterviewId := none
      transitionReason := "custom identity interview completed"
      transitionedBy := "foreground_identity_interview"
      kickstartStartedAt := some interview.createdAt
      kickstartCompletedAt := some completedAt } now inserted hlifecycle rfl
  refine ⟨db', except_bind_eq_ok.mpr ⟨inserted, hinsert, hrecord⟩, fun huntainted => ?_⟩
  obtain ⟨row, hrow, hstable⟩ := interviewItems_stable context proposal
    interview.identityInterviewId answeredFields selfDescriptionItemId hlength
  have hstored : ItemWrite.stamped now row ∈ db'.identityItems := by
    rw [recordLifecycleTransition_items hrecord, hinserted]
    exact List.mem_append_right _ (List.mem_map_of_mem hrow)
  obtain ⟨old, hold, hid, -, -⟩ := huntainted.items _ hstored hstable
  refine hrowIds row hrow ?_
  have hmem : old.identityItemId ∈ itemIds db.identityItems := List.mem_map_of_mem hold
  rw [hid] at hmem
  exact hmem

theorem activeInterview_eq_some {interview : IdentityInterviewRecord}
    (h : activeInterview db = some interview) :
    ∃ lifecycle interviewId, currentLifecycle db = some lifecycle ∧
      lifecycle.activeInterviewId = some interviewId ∧
      Table.find IdentityInterviewRecord.identityInterviewId interviewId
        db.identityKickstartInterviews = some interview := by
  unfold activeInterview at h
  obtain ⟨interviewId, hid, hfind⟩ := Option.bind_eq_some_iff.mp h
  obtain ⟨lifecycle, hcurrent, hactive⟩ := Option.bind_eq_some_iff.mp hid
  exact ⟨lifecycle, interviewId, hcurrent, hactive, hfind⟩

/-- An answer that does not complete the interview. -/
theorem answerInterview_untainted {answer : IdentityInterviewAnswer}
    {interview : IdentityInterviewRecord}
    (hnot : ¬ (interview.status = .inProgress ∧ answer.stepKey = interview.currentStep ∧
      nextMissingStep (answered interview answer) = none)) :
    KeepsUntainted (answerInterview context proposal interview answer) w es := by
  unfold answerInterview
  dsimp only
  by_cases hstatus : interview.status = .inProgress
  · rw [if_neg (not_not_intro hstatus)]
    by_cases hstep : answer.stepKey = interview.currentStep
    · rw [if_neg (not_not_intro hstep)]
      have hfields : answered interview answer =
          insertField interview.answeredFields answer.stepKey (Text.trim answer.answerText) := rfl
      unfold takeAnswer
      dsimp only
      rw [← hfields]
      split
      · refine Prog.Alone.bind (R := fun _ w' _ => Untainted w.db w'.db)
          (alone_inTransaction (fun now effect hbody => ?_) (fun now e hbody => by cases hbody)
            fun e _ => Untainted.refl _) (fun _ w' es' h => h) fun e w' _ h => h
        obtain rfl := Except.ok.inj hbody
        exact Untainted.of_same rfl rfl
      · rename_i hnext
        exfalso
        exact hnot ⟨hstatus, hstep, hnext⟩
    · rw [if_pos hstep]
      exact untainted_of_quiet (rejectMerge_offItems _ _) (rejectMerge_quiet _ _)
        (Untainted.refl _)
  · rw [if_pos hstatus]
    exact untainted_of_quiet (rejectMerge_offItems _ _) (rejectMerge_quiet _ _) (Untainted.refl _)

/-- An answer that completes it. -/
theorem answerInterview_taints (hvalid : (Proposal.validateProposal proposal).outcome = .accepted)
    (hconfidence : proposal.confidencePct ≤ 100)
    (hproposal : w.db.hasProposal (some proposal.proposalId) = true)
    {answer : IdentityInterviewAnswer} {interview : IdentityInterviewRecord}
    (hstatus : interview.status = .inProgress) (hstep : answer.stepKey = interview.currentStep)
    (hcomplete : nextMissingStep (answered interview answer) = none) :
    ¬ KeepsUntainted (answerInterview context proposal interview answer) w es := by
  intro halone
  have hnow : anyAnswers Query.statement (some 0 : Option DateTime) := trivial
  have hfields : answered interview answer =
      insertField interview.answeredFields answer.stepKey (Text.trim answer.answerText) := rfl
  unfold answerInterview at halone
  dsimp only at halone
  rw [if_neg (not_not_intro hstatus), if_neg (not_not_intro hstep)] at halone
  unfold takeAnswer at halone
  dsimp only at halone
  rw [← hfields, hcomplete] at halone
  dsimp only at halone
  obtain ⟨newIds, hlength, hnodup, hfresh⟩ := exists_fresh_ids customIdentityFields.length
    (w.issued ++ itemIds w.db.identityItems)
  rw [← hlength] at halone
  simp only [List.mem_append, not_or] at hfresh
  obtain ⟨issued, hissued, hids⟩ := of_alone_newUuids (Prog.alone_bind.mp halone)
    (fun _ => trivial) hnodup fun id hid => (hfresh id hid).1
  obtain ⟨selfDescriptionItemId, hself⟩ : ∃ id, id ∉ issued ++ itemIds w.db.identityItems :=
    ⟨_, unused_not_mem _ 0⟩
  rw [List.mem_append, not_or] at hself
  have hfirst := of_alone_newUuid (Prog.alone_bind.mp hids) selfDescriptionItemId trivial hself.1
  obtain ⟨lifecycleId, hlifecycle⟩ : ∃ id, id ∉ (selfDescriptionItemId :: issued) ++
      w.db.identityLifecycle.map IdentityLifecycleRecord.identityLifecycleId :=
    ⟨_, unused_not_mem _ 0⟩
  rw [List.mem_append, not_or] at hlifecycle
  have hsecond := of_alone_newUuid (Prog.alone_bind.mp hfirst) lifecycleId trivial hlifecycle.1
  have hthird := of_alone_utcNow (Prog.alone_bind.mp hsecond) 0 trivial
  have hlast := of_alone_inTransaction (Prog.alone_bind.mp hthird) hnow
  have hapart : (newIds ++ [selfDescriptionItemId]).Nodup := by
    rw [List.nodup_append]
    refine ⟨hnodup, List.nodup_singleton _, fun id hid other hother heq => hself.1 ?_⟩
    rw [← List.mem_singleton.mp hother, ← heq]
    exact (hissued id).mpr (Or.inl hid)
  have hunused : ∀ id ∈ newIds ++ [selfDescriptionItemId],
      id ∉ itemIds w.db.identityItems := by
    intro id hid
    rcases List.mem_append.mp hid with hitem | hdescription
    · exact (hfresh id hitem).2
    · rw [List.mem_singleton.mp hdescription]
      exact hself.2
  obtain ⟨db', hbody, htainted⟩ := completeInterview_taints hvalid hconfidence hproposal interview
    (answered interview answer) (max w.clock 0) 0 hlength hapart hunused hlifecycle.2
  dsimp only at hlast
  rw [hbody] at hlast
  exact htainted hlast

/-- The answer of a candidate that is recorded taints the store exactly when it is the last one
of the interview. -/
theorem answerCustomInterview_untainted_iff
    (hvalid : (Proposal.validateProposal proposal).outcome = .accepted)
    (hconfidence : proposal.confidencePct ≤ 100)
    (hproposal : w.db.hasProposal (some proposal.proposalId) = true)
    {answer : IdentityInterviewAnswer} :
    KeepsUntainted (answerCustomInterview context proposal answer) w es ↔
      ¬ CompletesInterview answer w.db := by
  have hnow : anyAnswers Query.statement (some 0 : Option DateTime) := trivial
  constructor
  · rintro halone ⟨interview, hactive, hprogress, hstep, hcomplete⟩
    obtain ⟨lifecycle, interviewId, hcurrent, hid, hfind⟩ := activeInterview_eq_some hactive
    unfold answerCustomInterview at halone
    have hread := of_alone_inTransaction (Prog.alone_bind.mp halone) hnow
    dsimp only [Prog.Following] at hread
    rw [hcurrent] at hread
    dsimp only at hread
    rw [hid] at hread
    have hfound := of_alone_inTransaction (Prog.alone_bind.mp hread) hnow
    dsimp only [Prog.Following] at hfound
    rw [hfind] at hfound
    have hanswer := Prog.alone_bind.mp hfound
    exact answerInterview_taints hvalid hconfidence hproposal hprogress hstep hcomplete hanswer
  · intro hnot
    have hreject : ∀ (reason : String) (w' : World) (es' : List Event), w'.db = w.db →
        (Continuity.rejectMerge proposal.proposalId reason).Alone anyAnswers
          (fun _ w'' _ => Untainted w.db w''.db) w' es' := by
      intro reason w' es' hdb
      refine untainted_of_quiet (rejectMerge_offItems _ _) (rejectMerge_quiet _ _) ?_
      rw [hdb]
      exact Untainted.refl _
    unfold answerCustomInterview
    refine Prog.alone_bind.mpr (alone_inTransaction (fun now effect hbody => ?_)
      (fun now e hbody => by cases hbody) fun e _ => Untainted.refl _)
    obtain rfl := Except.ok.inj hbody
    dsimp only [Prog.Following]
    cases hcurrent : currentLifecycle w.db with
    | none => exact hreject _ _ _ rfl
    | some lifecycle =>
      dsimp only
      cases hid : lifecycle.activeInterviewId with
      | none => exact hreject _ _ _ rfl
      | some interviewId =>
        dsimp only
        refine Prog.alone_bind.mpr (alone_inTransaction (fun now effect hbody => ?_)
          (fun now e hbody => by cases hbody) fun e _ => Untainted.refl _)
        obtain rfl := Except.ok.inj hbody
        dsimp only [Prog.Following]
        cases hfind : Table.find IdentityInterviewRecord.identityInterviewId interviewId
            w.db.identityKickstartInterviews with
        | none => exact Untainted.refl _
        | some interview =>
          have hactive : activeInterview w.db = some interview := by
            rw [activeInterview, hcurrent, Option.bind_some, hid, Option.bind_some, hfind]
          exact Prog.alone_bind.mpr (answerInterview_untainted fun hcompletes =>
            hnot ⟨interview, hactive, hcompletes⟩)

/-! ### The merge -/

/-- The merge of a candidate that is recorded taints the store exactly when the branch it takes
does. -/
theorem applyIdentityDeltaProposalMerge_untainted_iff
    (hvalid : (Proposal.validateProposal proposal).outcome = .accepted)
    (hpayload : proposal.payload = .identityDelta payload)
    (hconfidence : proposal.confidencePct ≤ 100)
    (hproposal : w.db.hasProposal (some proposal.proposalId) = true)
    (hwell : WellFormed w.db.identityItems) :
    KeepsUntainted (applyIdentityDeltaProposalMerge tables context proposal) w es ↔
      MergeUntainted tables context proposal payload w := by
  unfold applyIdentityDeltaProposalMerge MergeUntainted
  dsimp only
  rw [if_neg (Proposal.not_rejected_of_validated hvalid)]
  simp only [hpayload]
  cases payload.interviewAction with
  | none => exact mergeIntoStore_untainted_iff hwell
  | some action =>
    cases action with
    | startCustomInterview => exact startCustomInterview_untainted_iff
    | answerCustomInterview answer =>
      exact answerCustomInterview_untainted_iff hvalid hconfidence hproposal
    | cancel reason => exact cancelCustomInterview_untainted_iff
    | selectPredefinedTemplate templateKey => exact iff_of_true (Untainted.refl _) trivial

end Branches

end Identity

end BlueLagoon
