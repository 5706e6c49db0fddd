import BlueLagoon.Identity.MergeTaint
import BlueLagoon.Worker.Unconscious

/-!
# Reflections on the identity

A background reflection proposes the identity delta of a model's output as it stands: the
source, the stability, the lifecycle state and the interview action are the model's own.
What is proposed is recorded and merged like any other candidate. This module says exactly
which outputs leave the stable items and the lifecycle as they were.
-/

namespace BlueLagoon

open Interleaving Harness

namespace Identity

/-! ## When a candidate is untainted -/

/-- The candidate is recorded, whatever the ids and the instant. -/
def RecordedAs (context : ProposalProcessingContext) (proposal : CanonicalProposal)
    (w w' : World) : Prop :=
  ∃ mergeDecisionId evaluatedId recordedId now,
    mergeDecisionId ∉ w.issued ∧ evaluatedId ∉ mergeDecisionId :: w.issued ∧
      recordedId ∉ evaluatedId :: mergeDecisionId :: w.issued ∧
      w' = { w with
        db := w'.db, issued := recordedId :: evaluatedId :: mergeDecisionId :: w.issued } ∧
      Proposal.recordProposal context proposal (Proposal.validateProposal proposal)
        mergeDecisionId evaluatedId recordedId now w.db = .ok w'.db

/-- The validation turns the candidate down, or the branch its merge takes in the store it is
recorded in is untainted. -/
def CandidateUntainted (tables : Text.Tables) (context : ProposalProcessingContext)
    (proposal : CanonicalProposal) (payload : IdentityDeltaProposal) (w : World) : Prop :=
  (Proposal.validateProposal proposal).outcome = .accepted →
    ∀ w', RecordedAs context proposal w w' → MergeUntainted tables context proposal payload w'

/-- The same for all the candidates of a list that are about the identity. -/
def CandidatesUntainted (tables : Text.Tables) (context : ProposalProcessingContext)
    (proposals : List CanonicalProposal) (w : World) : Prop :=
  ∀ proposal ∈ proposals, ∀ payload, proposal.payload = .identityDelta payload →
    CandidateUntainted tables context proposal payload w

section Candidates

variable {tables : Text.Tables} {context : ProposalProcessingContext} {subsystem : String}
  {proposal : CanonicalProposal} {payload : IdentityDeltaProposal} {w : World} {es : List Event}
  {db₀ db₁ db : Database}

/-- Untainted, seen from a store with the same items and the same lifecycle. -/
theorem Untainted.congr (h : Untainted db₀ db) (hitems : db₁.identityItems = db₀.identityItems)
    (hlifecycle : db₁.identityLifecycle = db₀.identityLifecycle) : Untainted db₁ db := by
  refine ⟨?_, h.lifecycle.trans (lifecycleState_congr hlifecycle).symm⟩
  rw [hitems]
  exact h.items

/-- What recording a candidate leaves. -/
theorem recordProposal_leaves {mergeDecisionId evaluatedId recordedId : Uuid} {now : DateTime}
    (h : Proposal.recordProposal context proposal (Proposal.validateProposal proposal)
      mergeDecisionId evaluatedId recordedId now db₀ = .ok db) :
    proposal.confidencePct ≤ 100 ∧ db.hasProposal (some proposal.proposalId) = true ∧
      Proposal.SameCanonical db₀ db := by
  have hcanonical := (Proposal.recordProposal_eq_ok h).2.2.2.2
  refine ⟨?_, ?_, hcanonical⟩
  · by_contra hover
    obtain ⟨e, hbreaks, -⟩ := Proposal.recordProposal_of_confidence context
      (Proposal.validateProposal proposal) mergeDecisionId evaluatedId recordedId now db₀ hover
    rw [h] at hbreaks
    cases hbreaks
  · unfold Proposal.recordProposal at h
    obtain ⟨inserted, hinsert, h⟩ := except_bind_eq_ok.mp h
    obtain ⟨decided, hdecide, h⟩ := except_bind_eq_ok.mp h
    obtain ⟨-, rfl⟩ := Continuity.guarded_eq_ok.mp hinsert
    obtain ⟨-, rfl⟩ := Continuity.guarded_eq_ok.mp hdecide
    obtain rfl := Except.ok.inj h
    exact List.any_eq_true.mpr
      ⟨_, List.mem_append_right _ List.mem_cons_self, decide_eq_true rfl⟩

/-- An action beside the identity. -/
abbrev Aside : World → World → List Event → Prop :=
  OnDb fun db db' _ =>
    db'.identityItems = db.identityItems ∧ db'.identityLifecycle = db.identityLifecycle

theorem noteCanonicalWrite_aside (target : Option MergeDecisionTarget) :
    (Proposal.noteCanonicalWrite context subsystem proposal target).Confined Aside := by
  cases target with
  | none => exact Prog.confined_ret _
  | some target =>
    exact Prog.Confined.bind (Audit.insert_confined (fun _ _ => ⟨rfl, rfl⟩) _)
      fun _ => Prog.confined_ret _

/-- What runs beside the identity neither taints a store nor takes a taint back. -/
theorem aside_untainted_iff {α : Type} {p : Harness α} (hp : p.Confined Aside) :
    p.Alone anyAnswers (fun _ w' _ => Untainted db₀ w'.db) w es ↔ Untainted db₀ w.db := by
  have hsame : p.Alone anyAnswers (fun _ w' _ =>
      w'.db.identityItems = w.db.identityItems ∧
        w'.db.identityLifecycle = w.db.identityLifecycle) w es := by
    refine hp.alone (T := fun (w' : World) _ => w'.db.identityItems = w.db.identityItems ∧
      w'.db.identityLifecycle = w.db.identityLifecycle) ?_ ⟨rfl, rfl⟩
    rintro s s' es' es'' ⟨hitems, hlifecycle⟩ ⟨⟨hitems', hlifecycle'⟩, -⟩
    exact ⟨hitems'.trans hitems, hlifecycle'.trans hlifecycle⟩
  have hend : ∀ w' : World, w'.db.identityItems = w.db.identityItems →
      w'.db.identityLifecycle = w.db.identityLifecycle →
      (Untainted db₀ w'.db ↔ Untainted db₀ w.db) := by
    intro w' hitems hlifecycle
    have hstate := lifecycleState_congr hlifecycle
    constructor
    · rintro ⟨hkept, hlife⟩
      rw [hitems] at hkept
      exact ⟨hkept, hstate.symm.trans hlife⟩
    · rintro ⟨hkept, hlife⟩
      rw [← hitems] at hkept
      exact ⟨hkept, hstate.trans hlife⟩
  constructor
  · intro halone
    obtain ⟨r, w', es', huntainted, hitems, hlifecycle⟩ := exists_end (halone.and hsame)
    exact (hend w' hitems hlifecycle).mp huntainted
  · intro huntainted
    refine hsame.mono fun _ w' _ hs => ?_
    exact (hend w' hs.1 hs.2).mpr huntainted

/-- What follows a program beside the identity can be left out. -/
theorem bind_untainted_iff {α β : Type} {p : Harness α} {f : α → Harness β}
    (hf : ∀ a, (f a).Confined Aside) :
    (p.bind f).Alone anyAnswers (fun _ w' _ => Untainted db₀ w'.db) w es ↔
      p.Alone anyAnswers (fun _ w' _ => Untainted db₀ w'.db) w es := by
  rw [Prog.alone_bind]
  have hstep : ∀ (r : Except ErrorChain α) (w' : World) (es' : List Event),
      Prog.Following anyAnswers f (fun _ w' _ => Untainted db₀ w'.db) r w' es' ↔
        Untainted db₀ w'.db := by
    intro r w' es'
    cases r with
    | ok a => exact aside_untainted_iff (hf a)
    | error e => exact Iff.rfl
  exact ⟨fun h => h.mono fun r w' es' => (hstep r w' es').mp,
    fun h => h.mono fun r w' es' => (hstep r w' es').mpr⟩

/-- What `process_candidate` does with an accepted candidate: the merge, and a note of it. -/
def mergeAndNote (tables : Text.Tables) (context : ProposalProcessingContext)
    (subsystem : String) (candidate : CanonicalProposal) : Harness ProposalEvaluation := do
  let mergeOutcome ← Proposal.mergeCandidate tables context candidate
  match mergeOutcome.outcome with
  | .accepted => do
    Proposal.noteCanonicalWrite context subsystem candidate mergeOutcome.target
    pure mergeOutcome
  | .rejected => pure mergeOutcome

/-- The merge of a candidate that is recorded, and what follows it. -/
theorem mergeAndNote_untainted_iff (hkind : proposal.proposalKind = .identityDelta)
    (hpayload : proposal.payload = .identityDelta payload)
    (hwell : WellFormed w.db.identityItems)
    (hvalid : (Proposal.validateProposal proposal).outcome = .accepted) {w' : World}
    (hrecorded : RecordedAs context proposal w w') {es' : List Event} :
    (mergeAndNote tables context subsystem proposal).Alone anyAnswers
        (fun _ w'' _ => Untainted w.db w''.db) w' es' ↔
      MergeUntainted tables context proposal payload w' := by
  obtain ⟨_, _, _, now, -, -, -, -, hrecord⟩ := hrecorded
  obtain ⟨hconfidence, hproposal, hcanonical⟩ := recordProposal_leaves hrecord
  have hwell' : WellFormed w'.db.identityItems := by
    rw [hcanonical.identityItems]
    exact hwell
  have hbranch : KeepsUntainted (applyIdentityDeltaProposalMerge tables context proposal) w' es' ↔
      MergeUntainted tables context proposal payload w' :=
    applyIdentityDeltaProposalMerge_untainted_iff hvalid hpayload hconfidence hproposal hwell'
  have hnote : ∀ mergeOutcome : ProposalEvaluation,
      (Proposal.noteCanonicalWrite context subsystem proposal mergeOutcome.target >>=
        fun _ => pure mergeOutcome).Confined Aside := fun _ =>
    Prog.Confined.bind (noteCanonicalWrite_aside _) fun _ => Prog.confined_ret _
  refine (bind_untainted_iff fun mergeOutcome => ?_).trans ?_
  · split
    · exact hnote mergeOutcome
    · exact Prog.confined_ret _
  · rw [← hbranch, Proposal.mergeCandidate, hkind]
    constructor
    · intro halone
      exact halone.mono fun _ w'' _ h =>
        h.congr hcanonical.identityItems hcanonical.identityLifecycle
    · intro halone
      exact halone.mono fun _ w'' _ h =>
        h.congr hcanonical.identityItems.symm hcanonical.identityLifecycle.symm

/-- Processing a candidate taints the store exactly when its merge does. -/
theorem processCandidate_untainted_iff (hkind : proposal.proposalKind = .identityDelta)
    (hpayload : proposal.payload = .identityDelta payload)
    (hwell : WellFormed w.db.identityItems) :
    KeepsUntainted (Proposal.processCandidate tables context subsystem proposal) w es ↔
      CandidateUntainted tables context proposal payload w := by
  unfold Proposal.processCandidate
  constructor
  · rintro halone hvalid w' hrecorded
    have hrecorded' := hrecorded
    obtain ⟨mergeDecisionId, evaluatedId, recordedId, now, hdecision, hevaluated, hrecordedId, hw,
      hrecord⟩ := hrecorded
    have hnow : anyAnswers Query.statement (some now : Option DateTime) := trivial
    have hvalidation := Prog.alone_bind.mp halone
    have hfirst := of_alone_newUuid (Prog.alone_bind.mp hvalidation) mergeDecisionId trivial
      hdecision
    have hsecond := of_alone_newUuid (Prog.alone_bind.mp hfirst) evaluatedId trivial hevaluated
    have hthird := of_alone_newUuid (Prog.alone_bind.mp hsecond) recordedId trivial hrecordedId
    have hlast := of_alone_inTransaction (Prog.alone_bind.mp hthird) hnow
    dsimp only at hlast
    rw [hrecord] at hlast
    dsimp only [Except.map, Prog.Following] at hlast
    have hafter := (Prog.alone_ret (Proposal.validateProposal proposal)).mp hlast
    dsimp only [Prog.Following] at hafter
    rw [hvalid] at hafter
    rw [hw]
    refine (mergeAndNote_untainted_iff hkind hpayload hwell hvalid ?_).mp hafter
    rw [← hw]
    exact hrecorded'
  · intro hcondition
    refine Prog.alone_bind.mpr (Prog.alone_bind.mpr (alone_newUuid fun mergeDecisionId hdecision => ?_))
    refine Prog.alone_bind.mpr (alone_newUuid fun evaluatedId hevaluated => ?_)
    refine Prog.alone_bind.mpr (alone_newUuid fun recordedId hrecordedId => ?_)
    refine Prog.alone_bind.mpr (alone_inTransaction (fun now effect hbody => ?_)
      (fun now e _ => Untainted.refl _) fun e _ => Untainted.refl _)
    obtain ⟨db', hrecord, rfl⟩ := except_map_eq_ok.mp hbody
    have hcanonical := (recordProposal_leaves hrecord).2.2
    dsimp only [Prog.Following]
    refine (Prog.alone_ret (Proposal.validateProposal proposal)).mpr ?_
    dsimp only [Prog.Following]
    cases hvalid : (Proposal.validateProposal proposal).outcome with
    | rejected =>
      exact Untainted.of_same hcanonical.identityItems hcanonical.identityLifecycle
    | accepted =>
      have hrecorded : RecordedAs context proposal w { w with
          db := db', issued := recordedId :: evaluatedId :: mergeDecisionId :: w.issued } :=
        ⟨mergeDecisionId, evaluatedId, recordedId, now, hdecision, hevaluated, hrecordedId, rfl,
          hrecord⟩
      exact (mergeAndNote_untainted_iff hkind hpayload hwell hvalid hrecorded).mpr
        (hcondition hvalid _ hrecorded)

end Candidates

/-! ## Reflections -/

/-- The proposals of a reflection are about the identity. -/
theorem reflection_proposals {Value : Type}
    (read : Value → Except String Worker.IdentityReflectionOutput)
    {context : Worker.UnconsciousContext} (modelText : String) (modelJson : Option Value)
    (proposalId : Uuid) (reflection : context.jobKind = .selfModelReflection) :
    Worker.buildUnconsciousCanonicalProposals read context modelText modelJson proposalId = [] ∨
      ∃ delta, Worker.buildUnconsciousCanonicalProposals read context modelText modelJson
        proposalId = [Worker.buildIdentityReflectionProposal context delta proposalId] := by
  unfold Worker.buildUnconsciousCanonicalProposals
  simp only [reflection]
  split
  · rename_i output _
    cases output.identityDelta with
    | none => exact Or.inl rfl
    | some delta => exact Or.inr ⟨delta, rfl⟩
  · exact Or.inl rfl

/-- Whatever the output of a reflection, applying its proposals leaves the stable items and the
lifecycle as they were, if and only if they are untainted. -/
theorem reflection_untainted_iff {Value : Type}
    {read : Value → Except String Worker.IdentityReflectionOutput}
    {context : Worker.UnconsciousContext} {modelText : String} {modelJson : Option Value}
    {proposalId : Uuid} {tables : Text.Tables} {processing : ProposalProcessingContext}
    {w : World} (reflection : context.jobKind = .selfModelReflection)
    (stored : WellFormed w.db.identityItems) :
    (∀ (o : Oracle system) n, Untainted w.db
        ((Proposal.applyCandidateProposals tables processing "background_execution"
          (Worker.buildUnconsciousCanonicalProposals read context modelText modelJson
            proposalId)).run o n w).state.db) ↔
      CandidatesUntainted tables processing
        (Worker.buildUnconsciousCanonicalProposals read context modelText modelJson proposalId)
        w := by
  have hruns : ∀ proposals, (∀ (o : Oracle system) n, Untainted w.db
      ((Proposal.applyCandidateProposals tables processing "background_execution" proposals).run
        o n w).state.db) ↔ KeepsUntainted (Proposal.applyCandidateProposals tables processing
          "background_execution" proposals) w [] := by
    intro proposals
    constructor
    · intro h
      have ho₀ : ∀ n q, anyAnswers q (steady 0 n q) := fun _ _ => trivial
      exact Prog.Alone.of_runs ho₀ fun o _ n => h o n
    · intro halone o n
      exact halone.run (fun _ _ => trivial) n
  rw [hruns]
  rcases reflection_proposals read modelText modelJson proposalId reflection with
    hnone | ⟨delta, hone⟩
  · rw [hnone]
    refine iff_of_true (Untainted.refl _) ?_
    rintro proposal ⟨⟩
  · rw [hone]
    have hcandidate : KeepsUntainted (Proposal.applyCandidateProposals tables processing
        "background_execution" [Worker.buildIdentityReflectionProposal context delta proposalId])
        w [] ↔
        KeepsUntainted (Proposal.processCandidate tables processing "background_execution"
          (Worker.buildIdentityReflectionProposal context delta proposalId)) w [] := by
      unfold Proposal.applyCandidateProposals Prog.foldlM
      refine (bind_untainted_iff fun summary => Prog.confined_ret _).trans ?_
      exact bind_untainted_iff fun evaluation => Prog.confined_ret _
    have hpayload : (Worker.buildIdentityReflectionProposal context delta proposalId).payload =
        .identityDelta delta := rfl
    rw [hcandidate, processCandidate_untainted_iff rfl hpayload stored]
    constructor
    · intro hcondition proposal hproposal payload hpayload
      obtain rfl := List.mem_singleton.mp hproposal
      obtain rfl := CanonicalProposalPayload.identityDelta.inj hpayload
      exact hcondition
    · intro hall
      exact hall _ List.mem_cons_self delta rfl

/-! ### A reflection that reinforces, and one that decrees -/

/-- A reflection over an episode. -/
def reflectionContext : Worker.UnconsciousContext where
  jobId := 8
  jobKind := .selfModelReflection
  scope := { episodeIds := [7] }

/-- The JSON reader, on outputs that are written as they are read. -/
def readOutput (output : Worker.IdentityReflectionOutput) :
    Except String Worker.IdentityReflectionOutput := .ok output

/-- An execution, and an identity that is complete. -/
def completeIdentity : World where
  db := { Proposal.executionStarted.db with
    identityLifecycle :=
      [{ identityLifecycleId := 1
         status := .current
         lifecycleState := .completeIdentityActive
         activeInterviewId := none
         transitionReason := "Chosen by the user."
         transitionedBy := "identity_delta_merge"
         kickstartStartedAt := none }] }
  issued := [1, 2, 3]

/-- The model infers a habit. -/
def infersHabit : Worker.IdentityReflectionOutput where
  identityDelta := some
    { lifecycleState := .completeIdentityActive
      itemDeltas :=
        [{ operation := .add, stabilityClass := .evolving, category := .habit
           itemKey := "habit", value := "Asks before it acts.", confidencePct := 60
           source := .modelInferred, mergePolicy := .revisable
           evidenceRefs := [{ sourceKind := "episode", summary := "It asked." }] }]
      rationale := "Reflection." }

theorem reflection_untainted_iff_habit :
    CandidatesUntainted Text.Tables.ascii sampleContext
        (Worker.buildUnconsciousCanonicalProposals readOutput reflectionContext ""
          (some infersHabit) 20) completeIdentity ∧
      ∀ (o : Oracle system) n, Untainted completeIdentity.db
        ((Proposal.applyCandidateProposals Text.Tables.ascii sampleContext "background_execution"
          (Worker.buildUnconsciousCanonicalProposals readOutput reflectionContext ""
            (some infersHabit) 20)).run o n completeIdentity).state.db := by
  have hcondition : CandidatesUntainted Text.Tables.ascii sampleContext
      (Worker.buildUnconsciousCanonicalProposals readOutput reflectionContext ""
        (some infersHabit) 20) completeIdentity := by
    intro proposal hproposal payload hpayload hvalid w' hrecorded
    obtain rfl := List.mem_singleton.mp hproposal
    obtain rfl := CanonicalProposalPayload.identityDelta.inj hpayload
    intro itemIds selfDescriptionId now left applied _ _
    obtain ⟨_, _, _, _, -, -, -, -, hrecord⟩ := hrecorded
    have hsame := (recordProposal_leaves hrecord).2.2
    refine ⟨?_, ?_, ?_⟩
    · exact (lifecycleState_congr hsame.identityLifecycle).trans (by decide +kernel)
    · intro delta hdelta
      obtain rfl := List.mem_singleton.mp hdelta
      rintro ⟨hstable, -⟩
      cases hstable
    · rintro _ _ _ delta ⟨⟩
  exact ⟨hcondition, (reflection_untainted_iff rfl WellFormed.nil).mpr hcondition⟩

/-- The model decrees a name, in the voice of the user. -/
def decreesName : Worker.IdentityReflectionOutput where
  identityDelta := some
    { lifecycleState := .completeIdentityActive
      itemDeltas :=
        [{ operation := .add, stabilityClass := .stable, category := .name
           itemKey := "name", value := "Lagoon", confidencePct := 90
           source := .userAuthored, mergePolicy := .protectedCore }]
      rationale := "Reflection." }

/-- It passes the validation, and is stored as a stable item of a user. -/
theorem reflection_decrees_stable :
    ¬ ∀ (o : Oracle system) n, Untainted completeIdentity.db
        ((Proposal.applyCandidateProposals Text.Tables.ascii sampleContext "background_execution"
          (Worker.buildUnconsciousCanonicalProposals readOutput reflectionContext ""
            (some decreesName) 20)).run o n completeIdentity).state.db := by
  intro h
  have hitems : ((Proposal.applyCandidateProposals Text.Tables.ascii sampleContext
      "background_execution" (Worker.buildUnconsciousCanonicalProposals readOutput
        reflectionContext "" (some decreesName) 20)).run (steady 5) 0
        completeIdentity).state.db.identityItems.map IdentityItemRecord.stabilityClass =
      [.stable] := by
    decide +kernel
  obtain ⟨row, hrow, hclass⟩ := List.mem_map.mp
    (hitems ▸ List.mem_cons_self : IdentityStabilityClass.stable ∈ _)
  obtain ⟨old, hold, -⟩ := (h (steady 5) 0).items row hrow hclass
  cases hold

end Identity

end BlueLagoon
