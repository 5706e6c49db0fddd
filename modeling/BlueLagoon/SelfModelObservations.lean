import BlueLagoon.Interleaving.PartialCorrectness
import BlueLagoon.SelfModelChain

/-!
# Observations merged one after another

What a sequence of merges makes of the self-model: which observations are taken up, where they
go, and which are turned down as present.
-/

namespace BlueLagoon.SelfModel

open Interleaving Harness

/-! ## One observation -/

/-- The field an observation is added to. -/
def selected (payload : SelfModelObservationProposal) (snapshot : SelfModelSnapshot) :
    List String :=
  if payload.observationKind = "subgoal" then snapshot.currentSubgoals else snapshot.preferences

/-- The snapshot with another value of that field. -/
def withSelected (payload : SelfModelObservationProposal) (values : List String)
    (snapshot : SelfModelSnapshot) : SelfModelSnapshot :=
  if payload.observationKind = "subgoal" then { snapshot with currentSubgoals := values }
  else { snapshot with preferences := values }

/-- What a merge decides about an observation, and the self-model it leaves behind. -/
def observe (payload : SelfModelObservationProposal) (current : SelfModelSnapshot) :
    ProposalEvaluationOutcome × SelfModelSnapshot :=
  if current.preferences.contains payload.contentText then (.rejected, current)
  else (.accepted, mergeSelfModelObservation current payload)

variable {payload : SelfModelObservationProposal} {current next snapshot : SelfModelSnapshot}

theorem observe_of_present (h : payload.contentText ∈ current.preferences) :
    observe payload current = (.rejected, current) := by
  rw [observe, if_pos (List.contains_iff_mem.mpr h)]

theorem observe_of_absent (h : payload.contentText ∉ current.preferences) :
    observe payload current = (.accepted, mergeSelfModelObservation current payload) := by
  rw [observe, if_neg (fun hcontains => h (List.contains_iff_mem.mp hcontains))]

/-- No preference is lost. -/
theorem preferences_subset_observe :
    current.preferences ⊆ (observe payload current).2.preferences := by
  by_cases h : payload.contentText ∈ current.preferences
  · rw [observe_of_present h]
    exact List.Subset.refl _
  · rw [observe_of_absent h, mergeSelfModelObservation]
    split
    · exact List.Subset.refl _
    · exact List.subset_append_left _ _

theorem selected_merge : payload.contentText ∈
    selected payload (mergeSelfModelObservation current payload) := by
  unfold selected mergeSelfModelObservation
  split
  · exact List.mem_append_right _ List.mem_cons_self
  · exact List.mem_append_right _ List.mem_cons_self

theorem withSelected_merge : withSelected payload (selected payload current)
    (mergeSelfModelObservation current payload) = current := by
  unfold withSelected selected mergeSelfModelObservation
  split <;> rfl

/-- An observation is kept apart from the preferences nowhere, or is in both fields already. -/
def Apart (payload : SelfModelObservationProposal) (current : SelfModelSnapshot) : Prop :=
  payload.observationKind ≠ "subgoal" ∨
    payload.contentText ∈ current.preferences ∧ payload.contentText ∈ current.currentSubgoals

/-- What is asked of the decision about an observation. -/
structure TakenOnce (payload : SelfModelObservationProposal) (current : SelfModelSnapshot) :
    Prop where
  repeated : (observe payload current).1 = .accepted →
    observe payload (observe payload current).2 = (.rejected, (observe payload current).2)
  justified : (observe payload current).1 = .rejected →
    payload.contentText ∈ selected payload current

/-- It holds of every kind but the subgoals, and of subgoals that are present as both. -/
theorem takenOnce_iff : TakenOnce payload current ↔ Apart payload current := by
  unfold Apart
  by_cases hkind : payload.observationKind = "subgoal"
  · by_cases hpresent : payload.contentText ∈ current.preferences
    · constructor
      · rintro ⟨-, hjustified⟩
        rw [observe_of_present hpresent, selected, if_pos hkind] at hjustified
        exact Or.inr ⟨hpresent, hjustified rfl⟩
      · rintro (hother | ⟨-, hsubgoal⟩)
        · exact absurd hkind hother
        · constructor
          · rw [observe_of_present hpresent]
            rintro ⟨⟩
          · intro _
            rw [selected, if_pos hkind]
            exact hsubgoal
    · -- the observation goes to the subgoals, where a repetition does not look
      constructor
      · rintro ⟨hrepeated, -⟩
        have hagain := hrepeated (by rw [observe_of_absent hpresent])
        rw [observe_of_absent hpresent] at hagain
        have hstill : payload.contentText ∉
            (mergeSelfModelObservation current payload).preferences := by
          rw [mergeSelfModelObservation, if_pos hkind]
          exact hpresent
        rw [observe_of_absent hstill] at hagain
        cases (Prod.mk.inj hagain).1
      · rintro (hother | ⟨hin, -⟩)
        · exact absurd hkind hother
        · exact absurd hin hpresent
  · refine iff_of_true ?_ (Or.inl hkind)
    constructor
    · intro haccepted
      apply observe_of_present
      have hmerged : ∀ {snapshot : SelfModelSnapshot}, selected payload snapshot =
          snapshot.preferences := fun {_} => if_neg hkind
      by_cases hpresent : payload.contentText ∈ current.preferences
      · rw [observe_of_present hpresent] at haccepted
        cases haccepted
      · rw [observe_of_absent hpresent, ← hmerged]
        exact selected_merge
    · intro hrejected
      by_cases hpresent : payload.contentText ∈ current.preferences
      · rw [selected, if_neg hkind]
        exact hpresent
      · rw [observe_of_absent hpresent] at hrejected
        cases hrejected

/-! ## One merge -/

/-- The self-model the store has: that of its only active artifact. -/
def Stores (db : Database) (snapshot : SelfModelSnapshot) : Prop :=
  SingleActive db.selfModelArtifacts ∧
    ∃ a ∈ db.selfModelArtifacts, a.status = .active ∧ stored a = snapshot

theorem Stores.unique {db : Database} (h : Stores db current) (h' : Stores db next) :
    current = next := by
  obtain ⟨hsingle, a, ha, hactive, rfl⟩ := h
  obtain ⟨-, b, hb, hactive', rfl⟩ := h'
  rw [hsingle.single a ha b hb hactive hactive']

theorem Stores.of_elsewhere {w w' : World} (h : Stores w.db snapshot)
    (hsame : w'.db.selfModelArtifacts = w.db.selfModelArtifacts) : Stores w'.db snapshot := by
  unfold Stores
  rw [hsame]
  exact h

/-- The reason of a merge that finds its observation present. -/
def alreadyPresent : String :=
  "self-model observation is already present in canonical preferences"

theorem validateConflictPosture_ne {proposal : CanonicalProposal} {message : String}
    (h : Proposal.validateConflictPosture proposal = some message) : message ≠ alreadyPresent := by
  unfold Proposal.validateConflictPosture at h
  split at h
  all_goals
    split at h
    · obtain rfl := Option.some.inj h
      decide
    · cases h

theorem reject_reason_ne {proposalId : Uuid} {reason : String} (h : reason ≠ alreadyPresent) :
    (Proposal.reject proposalId reason).reason ≠ alreadyPresent := h

/-- Every check on an observation gives a reason of its own. -/
theorem validateProposal_reason_ne {proposal : CanonicalProposal}
    (h : proposal.payload = .selfModelObservation payload) :
    (Proposal.validateProposal proposal).reason ≠ alreadyPresent := by
  unfold Proposal.validateProposal
  rw [h]
  split
  · exact reject_reason_ne (by decide)
  split
  · exact reject_reason_ne (by decide)
  split
  · exact reject_reason_ne (by decide)
  split
  · exact reject_reason_ne (by decide)
  split
  · exact reject_reason_ne (by decide)
  split
  · next hmessage => exact reject_reason_ne (validateConflictPosture_ne hmessage)
  cases proposal.proposalKind <;> cases proposal.canonicalTarget
  case selfModelObservation.selfModelArtifacts =>
    dsimp only
    unfold Proposal.validateSelfModelPayload
    split
    · exact reject_reason_ne (by decide)
    split
    · exact reject_reason_ne (by decide)
    · show "proposal accepted for canonical merge" ≠ alreadyPresent
      decide
  all_goals exact reject_reason_ne (by decide)

/-- What a merge that goes through makes of the self-model. -/
structure Settles (proposal : CanonicalProposal) (payload : SelfModelObservationProposal)
    (current : SelfModelSnapshot) (evaluation : ProposalEvaluation) (next : SelfModelSnapshot) :
    Prop where
  invalid : (Proposal.validateProposal proposal).outcome = .rejected →
    evaluation.outcome = .rejected ∧ evaluation.reason ≠ alreadyPresent ∧ next = current
  valid : (Proposal.validateProposal proposal).outcome ≠ .rejected →
    (evaluation.outcome, next) = observe payload current ∧
      (evaluation.outcome = .rejected → evaluation.reason = alreadyPresent)

variable {w : World} {context : ProposalProcessingContext} {proposal : CanonicalProposal}

theorem ensures_elsewhere {α : Type} {p : Harness α} (hp : p.Confined Elsewhere)
    (h : Stores w.db snapshot) : p.Ensures w fun _ w' => Stores (World.db w') snapshot := by
  refine hp.ensures (T := fun w' : World => Stores w'.db snapshot) ?_ h
  intro t t' es hold hact
  exact Stores.of_elsewhere hold hact.1.1

/-- What is listed where a self-model is stored: its artifact. -/
theorem listed_eq (h : SingleActive w.db.selfModelArtifacts) {old : SelfModelArtifactRecord}
    (hold : old ∈ w.db.selfModelArtifacts) (hactive : old.status = .active)
    {active : Option SelfModelArtifactRecord}
    (hselected : selectSingleActiveArtifact (((Continuity.activeSelfModels w.db).insertionSort
      Continuity.newerSelfModel).take 2) = .ok active) : active = some old := by
  have hlisted := selectSingleActiveArtifact_eq_ok hselected
  obtain ⟨hrows, hnone⟩ := mem_of_listed hlisted.symm
  cases active with
  | none => exact absurd hactive (hnone rfl old hold)
  | some artifact =>
    obtain ⟨hmem, hstatus⟩ := hrows artifact List.mem_cons_self
    rw [h.single artifact hmem old hold hstatus hactive]

/-- A merge starts from the self-model that is stored. -/
theorem ensures_currentSelfModel (h : SingleActive w.db.selfModelArtifacts)
    {old : SelfModelArtifactRecord} (hold : old ∈ w.db.selfModelArtifacts)
    (hactive : old.status = .active) :
    (currentSelfModel context).Ensures w fun current w' =>
      current = (stored old, some old.selfModelArtifactId) ∧ World.db w' = w.db := by
  unfold currentSelfModel
  refine Prog.Ensures.bind (Q := fun listed w' => listed =
      ((Continuity.activeSelfModels w.db).insertionSort Continuity.newerSelfModel).take 2 ∧
        World.db w' = w.db) ?_ ?_
  · intro o n listed hrun
    obtain ⟨now, effect, hbody, rfl, hstate⟩ := run_transaction_eq_ok hrun
    obtain rfl := Except.ok.inj hbody
    refine ⟨rfl, ?_⟩
    rw [Continuity.listActiveSelfModelArtifacts, hstate]
  rintro listed w' ⟨rfl, hdb⟩
  refine Prog.Ensures.bind (Q := fun active w' => active = some old ∧ World.db w' = w.db)
    (Prog.ensures_ofExcept fun active hselected => ⟨listed_eq h hold hactive hselected, hdb⟩) ?_
  rintro active w' ⟨rfl, hdb⟩
  refine Prog.Ensures.bind (Q := fun current w' => current = stored old ∧ World.db w' = w.db)
    (Prog.ensures_ofExcept fun current hsnapshot =>
      ⟨(stored_of_snapshot hsnapshot).symm, hdb⟩) ?_
  rintro current w' ⟨rfl, hdb⟩
  exact Prog.ensures_ret ⟨rfl, hdb⟩

/-- The transaction of a merge stores the self-model with the observation. -/
theorem ensures_mergeIntoStore {proposalId : Uuid} (h : SingleActive w.db.selfModelArtifacts)
    {old : SelfModelArtifactRecord} (hold : old ∈ w.db.selfModelArtifacts)
    (hactive : old.status = .active) :
    (mergeIntoStore context proposalId payload current (some old.selfModelArtifactId)).Ensures w
      fun evaluation w' => evaluation.outcome = .accepted ∧
        Stores (World.db w') (mergeSelfModelObservation current payload) := by
  unfold mergeIntoStore
  refine (ensures_newUuid (Q := fun _ w' => w'.db = w.db) fun _ _ => rfl).bind ?_
  rintro nextArtifactId w₁ hdb₁
  refine (ensures_utcNow (Q := fun _ w' => w'.db = w.db) fun _ _ => hdb₁).bind ?_
  rintro supersededAt w₂ hdb₂
  refine Prog.Ensures.bind (Q := fun _ w' =>
    Stores (World.db w') (mergeSelfModelObservation current payload)) ?_ ?_
  · intro o n _ hrun
    obtain ⟨now, effect, -, hbody, -, hstate⟩ := run_inTransaction_eq_ok hrun
    rw [hstate]
    cases hwrite : writeArtifact (artifactRow nextArtifactId (some proposalId)
        (SelfModel.loadContext context) "proposal_merge" (mergeSelfModelObservation current payload)
        (some old.selfModelArtifactId)) proposalId supersededAt now w₂.db with
    | error e =>
      rw [hwrite] at hbody
      cases hbody
    | ok db' =>
      rw [hwrite] at hbody
      obtain rfl := Except.ok.inj hbody
      rw [hdb₂] at hwrite
      obtain ⟨hfresh, hrows⟩ := writeArtifact_eq_ok rfl hwrite
      show Stores db' _
      unfold Stores
      rw [hrows]
      exact ⟨h.succeed hfresh hold hactive supersededAt, _,
        new_mem_succeeded hfresh hold supersededAt, rfl, rfl⟩
  · intro _ w₃ hstores
    exact Prog.ensures_ret ⟨rfl, hstores⟩

theorem ensures_rejectMerge {proposalId : Uuid} {reason : String} (h : Stores w.db snapshot) :
    (Continuity.rejectMerge proposalId reason).Ensures w fun evaluation w' =>
      (evaluation.outcome = .rejected ∧ evaluation.reason = reason) ∧
        Stores (World.db w') snapshot := by
  have hreturns : (Continuity.rejectMerge proposalId reason).Returns fun evaluation =>
      evaluation.outcome = .rejected ∧ evaluation.reason = reason := by
    refine Prog.Returns.bind (Prog.Returns.any _) fun _ _ => ?_
    exact ⟨rfl, rfl⟩
  exact hreturns.ensures.and (ensures_elsewhere (rejectMerge_elsewhere _ _) h)

/-- A merge that goes through settles the observation as it is decided on the stored
self-model. -/
theorem ensures_applySelfModelProposalMerge (h : Stores w.db snapshot)
    (hpayload : proposal.payload = .selfModelObservation payload) :
    (applySelfModelProposalMerge context proposal).Ensures w fun evaluation w' =>
      ∃ next, Stores (World.db w') next ∧ Settles proposal payload snapshot evaluation next := by
  obtain ⟨hsingle, old, hold, hactive, rfl⟩ := h
  have hreasons := validateProposal_reason_ne hpayload
  unfold applySelfModelProposalMerge
  dsimp only
  split
  · next hinvalid =>
    refine (ensures_rejectMerge ⟨hsingle, old, hold, hactive, rfl⟩).mono ?_
    rintro evaluation w' ⟨⟨hrejected, hreason⟩, hstores⟩
    rw [← hreason] at hreasons
    exact ⟨_, hstores, fun _ => ⟨hrejected, hreasons, rfl⟩, fun hvalid => absurd hinvalid hvalid⟩
  · next hvalid =>
    rw [hpayload]
    refine (ensures_currentSelfModel hsingle hold hactive).bind ?_
    rintro _ w₁ ⟨rfl, hdb⟩
    have hstores : Stores w₁.db (stored old) := by
      rw [hdb]
      exact ⟨hsingle, old, hold, hactive, rfl⟩
    dsimp only
    split
    · next hpresent =>
      refine (ensures_rejectMerge hstores).mono ?_
      rintro evaluation w' ⟨⟨hrejected, hreason⟩, hstores'⟩
      refine ⟨_, hstores', fun hinvalid => absurd hinvalid hvalid, fun _ => ⟨?_, fun _ => hreason⟩⟩
      rw [observe_of_present (List.contains_iff_mem.mp hpresent), hrejected]
    · next habsent =>
      rw [← hdb] at hsingle hold
      refine (ensures_mergeIntoStore hsingle hold hactive).mono ?_
      rintro evaluation w' ⟨haccepted, hstores'⟩
      refine ⟨_, hstores', fun hinvalid => absurd hinvalid hvalid, fun _ => ⟨?_, ?_⟩⟩
      · rw [observe_of_absent fun hmem => habsent (List.contains_iff_mem.mpr hmem), haccepted]
      · rw [haccepted]
        rintro ⟨⟩

/-! ## Sequences of merges -/

/-- A merge of an observation that went through, between two states. -/
structure Merge where
  context : ProposalProcessingContext
  proposal : CanonicalProposal
  payload : SelfModelObservationProposal
  observes : proposal.payload = .selfModelObservation payload
  before : World
  evaluation : ProposalEvaluation
  after : World
  went : ∃ (o : Oracle system) (n : Nat),
    ((applySelfModelProposalMerge context proposal).run o n before).result = .ok evaluation ∧
      ((applySelfModelProposalMerge context proposal).run o n before).state = after

/-- Each merge starts where the one before it ended. -/
def Follow : World → List Merge → Prop
  | _, [] => True
  | w, merge :: later => merge.before.db = w.db ∧ Follow merge.after later

theorem Merge.settles (merge : Merge) (h : Stores merge.before.db snapshot) :
    ∃ next, Stores merge.after.db next ∧
      Settles merge.proposal merge.payload snapshot merge.evaluation next := by
  obtain ⟨o, n, hresult, hstate⟩ := merge.went
  rw [← hstate]
  exact ensures_applySelfModelProposalMerge h merge.observes o n merge.evaluation hresult

/-- What is asked of a merge between two self-models. -/
structure MergedOnce (merge : Merge) (current next : SelfModelSnapshot) : Prop where
  recorded : merge.evaluation.outcome = .accepted →
    merge.payload.contentText ∈ selected merge.payload next
  alone : merge.evaluation.outcome = .accepted →
    withSelected merge.payload (selected merge.payload current) next = current
  repeated : merge.evaluation.outcome = .accepted → ∀ again : Merge,
    again.before.db = merge.after.db → again.payload = merge.payload →
      again.evaluation.outcome = .rejected ∧ Stores again.after.db next
  justified : merge.evaluation.outcome = .rejected → merge.evaluation.reason = alreadyPresent →
    merge.payload.contentText ∈ selected merge.payload current
  unchanged : merge.evaluation.outcome = .rejected → next = current

/-- The observation is turned down for another reason, or the two fields are not confused. -/
def Safe (merge : Merge) : Prop :=
  (Proposal.validateProposal merge.proposal).outcome = .rejected ∨
    ∀ current, Stores merge.before.db current → Apart merge.payload current

theorem Settles.outcome_of_present {evaluation : ProposalEvaluation}
    (h : Settles proposal payload current evaluation next)
    (hpresent : payload.contentText ∈ current.preferences) :
    evaluation.outcome = .rejected ∧ next = current := by
  by_cases hvalid : (Proposal.validateProposal proposal).outcome = .rejected
  · exact ⟨(h.invalid hvalid).1, (h.invalid hvalid).2.2⟩
  · have hobserved := (h.valid hvalid).1
    rw [observe_of_present hpresent] at hobserved
    exact Prod.mk.inj hobserved

/-- No merge loses a preference. -/
theorem Settles.preferences_subset {evaluation : ProposalEvaluation}
    (h : Settles proposal payload current evaluation next) :
    current.preferences ⊆ next.preferences := by
  by_cases hvalid : (Proposal.validateProposal proposal).outcome = .rejected
  · rw [(h.invalid hvalid).2.2]
    exact List.Subset.refl _
  · have hobserved := (h.valid hvalid).1
    have hnext : next = (observe payload current).2 := congrArg Prod.snd hobserved
    rw [hnext]
    exact preferences_subset_observe

/-- A safe merge takes its observation up once. -/
theorem mergedOnce_of_safe {merge : Merge} (hbefore : Stores merge.before.db current)
    (hafter : Stores merge.after.db next)
    (hsettles : Settles merge.proposal merge.payload current merge.evaluation next)
    (hsafe : Safe merge) : MergedOnce merge current next := by
  by_cases hvalid : (Proposal.validateProposal merge.proposal).outcome = .rejected
  · obtain ⟨hrejected, hreason, hsame⟩ := hsettles.invalid hvalid
    have hnot : merge.evaluation.outcome ≠ .accepted := by
      rw [hrejected]
      rintro ⟨⟩
    exact ⟨fun h => absurd h hnot, fun h => absurd h hnot, fun h => absurd h hnot,
      fun _ h => absurd h hreason, fun _ => hsame⟩
  obtain ⟨hobserved, -⟩ := hsettles.valid hvalid
  have houtcome : (observe merge.payload current).1 = merge.evaluation.outcome :=
    congrArg Prod.fst hobserved.symm
  have hnext : (observe merge.payload current).2 = next := congrArg Prod.snd hobserved.symm
  have htaken : TakenOnce merge.payload current := by
    rw [takenOnce_iff]
    rcases hsafe with hinvalid | hapart
    · exact absurd hinvalid hvalid
    · exact hapart current hbefore
  obtain ⟨hrepeated, hjustified⟩ := htaken
  rw [houtcome, hnext] at hrepeated
  rw [houtcome] at hjustified
  by_cases hpresent : merge.payload.contentText ∈ current.preferences
  · have hrejected := (hsettles.outcome_of_present hpresent).1
    have hnot : merge.evaluation.outcome ≠ .accepted := by
      rw [hrejected]
      rintro ⟨⟩
    exact ⟨fun h => absurd h hnot, fun h => absurd h hnot, fun h => absurd h hnot,
      fun h _ => hjustified h, fun _ => (hsettles.outcome_of_present hpresent).2⟩
  · rw [observe_of_absent hpresent] at houtcome hnext
    have hnot : merge.evaluation.outcome ≠ .rejected := by
      rw [← houtcome]
      rintro ⟨⟩
    refine ⟨fun _ => ?_, fun _ => ?_, fun haccepted again hstart hsame => ?_,
      fun h => absurd h hnot, fun h => absurd h hnot⟩
    · rw [← hnext]
      exact selected_merge
    · rw [← hnext]
      exact withSelected_merge
    · have hstored : Stores again.before.db next := by
        rw [hstart]
        exact hafter
      obtain ⟨last, hlast, hagain⟩ := again.settles hstored
      rw [hsame] at hagain
      have hin : merge.payload.contentText ∈ next.preferences := by
        by_contra hout
        have hcontradiction := hrepeated haccepted
        rw [observe_of_absent hout] at hcontradiction
        cases (Prod.mk.inj hcontradiction).1
      obtain ⟨hrejected, rfl⟩ := hagain.outcome_of_present hin
      exact ⟨hrejected, hlast⟩

/-- What a safe merge takes up is a preference. -/
theorem preference_of_accepted {merge : Merge} (hbefore : Stores merge.before.db current)
    (hsettles : Settles merge.proposal merge.payload current merge.evaluation next)
    (hsafe : Safe merge) (honce : MergedOnce merge current next)
    (haccepted : merge.evaluation.outcome = .accepted) :
    merge.payload.contentText ∈ next.preferences := by
  rcases hsafe with hinvalid | hapart
  · rw [(hsettles.invalid hinvalid).1] at haccepted
    cases haccepted
  · rcases hapart current hbefore with hkind | ⟨hpresent, -⟩
    · have hrecorded := honce.recorded haccepted
      rw [selected, if_neg hkind] at hrecorded
      exact hrecorded
    · exact hsettles.preferences_subset hpresent

/-- Once a text is a preference, the merges that bring it are turned down and change nothing. -/
theorem turned_down_of_preference {content : String} {history : List Merge}
    (hstores : Stores w.db snapshot) (hpresent : content ∈ snapshot.preferences)
    (hfollow : Follow w history) : ∀ merge ∈ history, merge.payload.contentText = content →
      merge.evaluation.outcome = .rejected ∧
        ∃ kept, Stores merge.before.db kept ∧ Stores merge.after.db kept := by
  induction history generalizing w snapshot with
  | nil => simp
  | cons first later ih =>
    obtain ⟨hstart, hlater⟩ := hfollow
    rw [← hstart] at hstores
    obtain ⟨next, hnext, hsettles⟩ := first.settles hstores
    intro merge hmem hcontent
    rcases List.mem_cons.mp hmem with rfl | hmem
    · rw [← hcontent] at hpresent
      obtain ⟨hrejected, rfl⟩ := hsettles.outcome_of_present hpresent
      exact ⟨hrejected, _, hstores, hnext⟩
    · exact ih hnext (hsettles.preferences_subset hpresent) hlater merge hmem hcontent

/-- What is asked of a sequence of merges: each takes its observation up once, and what was
taken up is turned down, without a change, whenever it comes again. -/
structure AllMergedOnce (history : List Merge) : Prop where
  each : ∀ merge ∈ history, ∃ current next, Stores merge.before.db current ∧
    Stores merge.after.db next ∧ MergedOnce merge current next
  repeats : history.Pairwise fun earlier later => earlier.evaluation.outcome = .accepted →
    later.payload = earlier.payload → later.evaluation.outcome = .rejected ∧
      ∃ kept, Stores later.before.db kept ∧ Stores later.after.db kept

/-- In every sequence of merges that are safe, from every stored self-model, observations are
merged once and only once. -/
theorem observations_merged_once {history : List Merge} (hstores : Stores w.db snapshot)
    (hfollow : Follow w history) (hsafe : ∀ merge ∈ history, Safe merge) :
    AllMergedOnce history := by
  induction history generalizing w snapshot with
  | nil => exact ⟨by simp, List.Pairwise.nil⟩
  | cons first later ih =>
    obtain ⟨hstart, hlater⟩ := hfollow
    rw [← hstart] at hstores
    obtain ⟨next, hnext, hsettles⟩ := first.settles hstores
    have hfirst := mergedOnce_of_safe hstores hnext hsettles (hsafe first List.mem_cons_self)
    obtain ⟨heach, hrepeats⟩ := ih hnext hlater fun merge hmem =>
      hsafe merge (List.mem_cons_of_mem _ hmem)
    refine ⟨?_, List.pairwise_cons.mpr ⟨?_, hrepeats⟩⟩
    · intro merge hmem
      rcases List.mem_cons.mp hmem with rfl | hmem
      · exact ⟨_, next, hstores, hnext, hfirst⟩
      · exact heach merge hmem
    · intro merge hmem haccepted hsame
      have hpresent := preference_of_accepted hstores hsettles (hsafe first List.mem_cons_self)
        hfirst haccepted
      exact turned_down_of_preference hnext hpresent hlater merge hmem (by rw [hsame])

/-! ## A subgoal that comes twice -/

/-- An observation of a kind, in a proposal of its own. -/
def observationOf (proposalId : Uuid) (kind : String) : CanonicalProposal :=
  { selfObservation with
    proposalId := proposalId
    payload := .selfModelObservation
      { observationKind := kind, contentText := "Prefers concise progress updates." } }

/-- The self-model that is stored. -/
def storedSnapshot : SelfModelSnapshot where
  stableIdentity := "blue-lagoon"
  role := "personal_assistant"
  communicationStyle := "direct"
  capabilities := ["conversation"]
  constraints := []
  preferences := ["concise"]
  currentGoals := ["support_the_user"]
  currentSubgoals := []

/-- Two proposals are recorded, and a self-model is stored. -/
def storedSelfModel : World :=
  { noSelfModel with
    db := { noSelfModel.db with
      proposals := noSelfModel.db.proposals.flatMap fun row => [row, { row with proposalId := 21 }]
      selfModelArtifacts :=
        [artifactRow 100 none (loadContext selfContext) "bootstrap_seed" storedSnapshot none] } }

theorem stores_storedSelfModel : Stores storedSelfModel.db storedSnapshot := by
  refine ⟨⟨by decide, ?_⟩, _, List.mem_cons_self, rfl, rfl⟩
  intro a ha b hb _ _
  rw [List.mem_singleton.mp ha, List.mem_singleton.mp hb]

/-- The run of a merge from a question on. -/
def runMerge (n : Nat) (w : World) (proposal : CanonicalProposal) :
    Run system ProposalEvaluation :=
  (applySelfModelProposalMerge selfContext proposal).run (steady 5) n w

theorem eq_ok_of_isSome {α β : Type} {result : Except α β} (h : result.toOption.isSome) :
    result = .ok (result.toOption.get h) := by
  cases result with
  | error e => cases h
  | ok b => rfl

/-- The merge of an observation, where its run goes through. -/
def mergeOf (n : Nat) (w : World) (proposalId : Uuid) (kind : String)
    (h : (runMerge n w (observationOf proposalId kind)).result.toOption.isSome) : Merge where
  context := selfContext
  proposal := observationOf proposalId kind
  payload := { observationKind := kind, contentText := "Prefers concise progress updates." }
  observes := rfl
  before := w
  evaluation := (runMerge n w (observationOf proposalId kind)).result.toOption.get h
  after := (runMerge n w (observationOf proposalId kind)).state
  went := ⟨steady 5, n, eq_ok_of_isSome h, rfl⟩

/-- The first merge of an observation. -/
def firstPreference : Merge := mergeOf 0 storedSelfModel 20 "preference" (by decide +kernel)

/-- The same observation again. -/
def secondPreference : Merge := mergeOf 50 firstPreference.after 21 "preference" (by decide +kernel)

/-- The same two merges, of a subgoal. -/
def firstSubgoal : Merge := mergeOf 0 storedSelfModel 20 "subgoal" (by decide +kernel)

@[inherit_doc firstSubgoal]
def secondSubgoal : Merge := mergeOf 50 firstSubgoal.after 21 "subgoal" (by decide +kernel)

theorem observations_merged_once_preference :
    Follow storedSelfModel [firstPreference, secondPreference] ∧
      AllMergedOnce [firstPreference, secondPreference] := by
  have hfollow : Follow storedSelfModel [firstPreference, secondPreference] :=
    ⟨rfl, rfl, trivial⟩
  refine ⟨hfollow, observations_merged_once stores_storedSelfModel hfollow ?_⟩
  intro merge hmem
  refine Or.inr fun current _ => Or.inl ?_
  have hkind : merge.payload.observationKind = "preference" := by
    rcases List.mem_cons.mp hmem with rfl | hmem
    · rfl
    · rw [List.mem_singleton.mp hmem]
      rfl
  rw [hkind]
  decide

/-- A subgoal that was merged is merged again: the store then lists it twice. -/
theorem repeated_subgoal_merged_again :
    Stores storedSelfModel.db storedSnapshot ∧
      Follow storedSelfModel [firstSubgoal, secondSubgoal] ∧
      secondSubgoal.payload = firstSubgoal.payload ∧
      secondSubgoal.evaluation.outcome = .accepted ∧
      ¬ AllMergedOnce [firstSubgoal, secondSubgoal] := by
  have haccepted : firstSubgoal.evaluation.outcome = .accepted := by decide +kernel
  have hagain : secondSubgoal.evaluation.outcome = .accepted := by decide +kernel
  refine ⟨stores_storedSelfModel, ⟨rfl, rfl, trivial⟩, rfl, hagain, ?_⟩
  intro h
  have hpair := (List.pairwise_cons.mp h.repeats).1 secondSubgoal List.mem_cons_self
  rw [(hpair haccepted rfl).1] at hagain
  cases hagain

end BlueLagoon.SelfModel
