import BlueLagoon.Identity.Writes

/-!
# The protected core of the identity

An active item that is stable, or whose merge policy is `protected_core`, stays as it is
under item deltas, which are turned down when they would weaken, replace or expire it.
A delta of the self-description is not checked that way. The core is kept by every
sequence of merges in which no such delta meets a protected item.
-/

namespace BlueLagoon

open Interleaving Harness

namespace Identity

/-- `item'` is what has become of `item`: the same text in the same place, held with at least
the same confidence. -/
structure Keeps (item item' : IdentityItemRecord) : Prop where
  identityItemId : item'.identityItemId = item.identityItemId
  valueText : item'.valueText = item.valueText
  category : item'.category = item.category
  itemKey : item'.itemKey = item.itemKey
  stabilityClass : item'.stabilityClass = item.stabilityClass
  mergePolicy : item'.mergePolicy = item.mergePolicy
  status : item'.status = item.status
  confidence : item.confidence ≤ item'.confidence

/-- The item is still there. -/
def Kept (item : IdentityItemRecord) (rows : List IdentityItemRecord) : Prop :=
  ∃ item' ∈ rows, Keeps item item'

section Keeps

variable {item item' item'' : IdentityItemRecord} {rows : List IdentityItemRecord}

theorem Keeps.refl (item : IdentityItemRecord) : Keeps item item :=
  ⟨rfl, rfl, rfl, rfl, rfl, rfl, rfl, Nat.le_refl _⟩

theorem Keeps.trans (h : Keeps item item') (h' : Keeps item' item'') : Keeps item item'' where
  identityItemId := h'.identityItemId.trans h.identityItemId
  valueText := h'.valueText.trans h.valueText
  category := h'.category.trans h.category
  itemKey := h'.itemKey.trans h.itemKey
  stabilityClass := h'.stabilityClass.trans h.stabilityClass
  mergePolicy := h'.mergePolicy.trans h.mergePolicy
  status := h'.status.trans h.status
  confidence := h.confidence.trans h'.confidence

theorem Keeps.isProtected (h : Keeps item item') : isProtected item' = isProtected item := by
  rw [Identity.isProtected, Identity.isProtected, h.mergePolicy, h.stabilityClass]

theorem Kept.of_mem (h : item ∈ rows) : Kept item rows := ⟨item, h, Keeps.refl item⟩

/-- A row that an update does not select stays. -/
theorem Kept.update {which : IdentityItemRecord → Bool}
    {change : IdentityItemRecord → IdentityItemRecord} (hmem : item ∈ rows)
    (h : which item = true → Keeps item (change item)) : Kept item (Table.update which change rows) := by
  by_cases hw : which item = true
  · exact ⟨change item, Table.mem_update.mpr (Or.inr ⟨item, hmem, hw, rfl⟩), h hw⟩
  · rw [Bool.not_eq_true] at hw
    exact Kept.of_mem (Table.mem_update.mpr (Or.inl ⟨hmem, hw⟩))

/-- An item whose confidence is in range is kept when it is reinforced. -/
theorem keeps_reinforced {confidence : Nat} {weight : Option Nat} {now : DateTime}
    (hrange : item.confidence ≤ 100) : Keeps item (reinforced confidence weight now item) := by
  refine ⟨rfl, rfl, rfl, rfl, rfl, rfl, rfl, ?_⟩
  show item.confidence ≤ min 100 (max item.confidence confidence)
  omega

end Keeps

/-! ## Writes that harm an item -/

/-- The write takes confidence or the active status from the item. -/
def ItemWrite.Harms (item : IdentityItemRecord) : ItemWrite → Prop
  | .add _ | .reinforce _ _ _ => False
  | .weaken targetItemId _ _ => targetItemId = item.identityItemId ∧ 0 < item.confidence
  | .replace _ targetItemId | .expire targetItemId => targetItemId = item.identityItemId

section Writes

variable {item : IdentityItemRecord} {now : DateTime} {db db' : Database}

theorem WellFormed.confidence_le {rows : List IdentityItemRecord} (hwell : WellFormed rows)
    (hmem : item ∈ rows) : item.confidence ≤ 100 := by
  have hcheck := hwell.checks item hmem (decide (item.confidence ≤ 100),
    "identity_items_confidence_check") (by simp [Database.identityItemChecks])
  simpa using hcheck

/-- Every write keeps the items that it does not harm. -/
theorem Kept.write (hwell : WellFormed db.identityItems) (hmem : item ∈ db.identityItems)
    {write : ItemWrite} (hrun : write.run now db = .ok db') (hspared : ¬ write.Harms item) :
    Kept item db'.identityItems := by
  obtain ⟨rfl, -⟩ := ItemWrite.run_eq_ok hrun
  have htarget : ∀ targetItemId, isActiveItem targetItemId item = true →
      targetItemId = item.identityItemId := by
    intro targetItemId hactive
    simp only [isActiveItem, Bool.and_eq_true, decide_eq_true_eq] at hactive
    exact hactive.1.symm
  cases write with
  | add row => exact Kept.of_mem (List.mem_append_left _ hmem)
  | reinforce targetItemId confidence weight =>
    exact Kept.update hmem fun _ => keeps_reinforced (hwell.confidence_le hmem)
  | weaken targetItemId confidence weight =>
    refine Kept.update hmem fun hw => ?_
    have hzero : item.confidence = 0 := by
      by_contra hpositive
      exact hspared ⟨htarget _ hw, Nat.pos_of_ne_zero hpositive⟩
    refine ⟨rfl, rfl, rfl, rfl, rfl, rfl, rfl, ?_⟩
    rw [hzero]
    exact Nat.zero_le _
  | replace row targetItemId =>
    refine Kept.update (List.mem_append_left _ hmem) fun hw => ?_
    exact absurd (htarget _ hw) hspared
  | expire targetItemId =>
    refine Kept.update hmem fun hw => ?_
    exact absurd (htarget _ hw) hspared

end Writes

/-! ## Item deltas spare the core -/

section Deltas

variable {tables : Text.Tables} {context : ProposalProcessingContext}
  {proposal : CanonicalProposal} {item : IdentityItemRecord} {now : DateTime} {db db' : Database}

/-- A delta whose write harms an active item is about that item, and of an operation that the
control looks at. -/
theorem deltaWrite_harms {delta : IdentityItemDelta} {identityItemId itemId : Uuid}
    {write : ItemWrite}
    (hwrite : deltaWrite context proposal delta identityItemId db = some (write, itemId))
    (hharm : write.Harms item) :
    resolveIdentityDeltaTarget delta db = some item.identityItemId ∧
      delta.operation ≠ .add ∧ delta.operation ≠ .reinforce := by
  unfold deltaWrite at hwrite
  cases hoperation : delta.operation <;> simp only [hoperation, Option.map_eq_some_iff,
    Prod.mk.injEq, Option.some.injEq] at hwrite
  case add =>
    obtain ⟨rfl, -⟩ := hwrite
    exact absurd hharm id
  all_goals
    obtain ⟨targetItemId, hresolve, rfl, -⟩ := hwrite
  case reinforce => exact absurd hharm id
  case weaken =>
    obtain ⟨htarget, -⟩ := hharm
    exact ⟨hresolve.trans (congrArg some htarget), by simp, by simp⟩
  all_goals
    have htarget : targetItemId = item.identityItemId := hharm
    exact ⟨hresolve.trans (congrArg some htarget), by simp, by simp⟩

/-- A delta that the control lets through harms no protected item. -/
theorem deltaWrite_spares (hwell : WellFormed db.identityItems) (hmem : item ∈ db.identityItems)
    (hactive : item.status = .active) (hcore : isProtected item = true)
    {delta : IdentityItemDelta} {identityItemId itemId : Uuid} {write : ItemWrite}
    (hcontrol : identityDeltaControlRejection tables delta db = none)
    (hwrite : deltaWrite context proposal delta identityItemId db = some (write, itemId)) :
    ¬ write.Harms item := by
  intro hharm
  obtain ⟨hresolve, hadd, hreinforce⟩ := deltaWrite_harms hwrite hharm
  have htarget : targetItem delta db = some item := by
    rw [targetItem, hresolve, Option.bind_some]
    exact getActiveIdentityItem_of_mem hwell hmem hactive
  unfold identityDeltaControlRejection at hcontrol
  cases hoperation : delta.operation <;> simp only [hoperation] at hcontrol hadd hreinforce
  case add => exact hadd rfl
  case reinforce => exact hreinforce rfl
  all_goals
    rw [htarget, Option.bind_some, if_pos hcore] at hcontrol
    cases hcontrol

/-- What the item deltas of a merge keep of a protected item. -/
structure Guarded (item : IdentityItemRecord) (db : Database) : Prop where
  wellFormed : WellFormed db.identityItems
  kept : Kept item db.identityItems

theorem Guarded.itemDelta (hactive : item.status = .active) (hcore : isProtected item = true)
    (h : Guarded item db) {delta : IdentityItemDelta} {identityItemId itemId : Uuid}
    (happly : applyIdentityItemDelta tables context proposal delta identityItemId now db =
      .ok (.accepted itemId, db')) : Guarded item db' := by
  obtain ⟨hcontrol, write, hwrite, hrun⟩ := applyIdentityItemDelta_accepted happly
  obtain ⟨item', hmem, hkeeps⟩ := h.kept
  have hspared : ¬ write.Harms item' :=
    deltaWrite_spares h.wellFormed hmem (hkeeps.status.trans hactive)
      (hkeeps.isProtected.trans hcore) hcontrol hwrite
  obtain ⟨item'', hmem', hkeeps'⟩ := Kept.write h.wellFormed hmem hrun hspared
  exact ⟨h.wellFormed.write hrun, item'', hmem', hkeeps.trans hkeeps'⟩

end Deltas

/-! ## Deltas of the self-description -/

/-- A delta of the self-description leaves a protected item alone: what it weakens, replaces
or expires is not protected, a weakening of an item without confidence aside. -/
def SparesCore (delta : SelfDescriptionDelta) (db : Database) : Prop :=
  ∀ item, ((selfDescriptionTarget db).bind fun id => getActiveIdentityItem id db) = some item →
    isProtected item = true → delta.operation = .add ∨ delta.operation = .reinforce ∨
      (delta.operation = .weaken ∧ item.confidence = 0)

/-- The delta of the self-description of a merge, if any, leaves protected items alone after
the item deltas of the same proposal. -/
def MergeSparesCore (tables : Text.Tables) (context : ProposalProcessingContext)
    (proposal : CanonicalProposal) (db : Database) : Prop :=
  ∀ payload, proposal.payload = .identityDelta payload → payload.interviewAction = none →
    ∀ delta, payload.selfDescriptionDelta = some delta → ∀ itemIds now left between,
      applyItemDeltas tables context proposal now (payload.itemDeltas.zip itemIds) db =
        .ok (.ok left, between) → SparesCore delta between

section SelfDescription

variable {tables : Text.Tables} {context : ProposalProcessingContext}
  {proposal : CanonicalProposal} {item : IdentityItemRecord} {now : DateTime} {db db' : Database}

/-- The delta of a self-description that spares the core harms no protected item. -/
theorem selfDescriptionWrite_spares (hwell : WellFormed db.identityItems)
    (hmem : item ∈ db.identityItems) (hactive : item.status = .active)
    (hcore : isProtected item = true) {delta : SelfDescriptionDelta}
    (hspares : SparesCore delta db) {identityItemId itemId : Uuid} {write : ItemWrite}
    (hwrite : selfDescriptionWrite context proposal delta identityItemId db =
      some (write, itemId)) : ¬ write.Harms item := by
  intro hharm
  have hitem : selfDescriptionTarget db = some item.identityItemId →
      delta.operation = .add ∨ delta.operation = .reinforce ∨
        (delta.operation = .weaken ∧ item.confidence = 0) := by
    intro htarget
    refine hspares item ?_ hcore
    rw [htarget, Option.bind_some]
    exact getActiveIdentityItem_of_mem hwell hmem hactive
  unfold selfDescriptionWrite at hwrite
  cases hoperation : delta.operation <;> simp only [hoperation, Option.map_eq_some_iff,
    Prod.mk.injEq, Option.some.injEq] at hwrite hitem
  case add =>
    obtain ⟨rfl, -⟩ := hwrite
    exact absurd hharm id
  all_goals
    obtain ⟨targetItemId, hresolve, rfl, -⟩ := hwrite
  case reinforce => exact absurd hharm id
  case weaken =>
    obtain ⟨htarget, hpositive⟩ := hharm
    have hzero := hitem (hresolve.trans (congrArg some htarget))
    simp only [reduceCtorEq, false_or, true_and] at hzero
    omega
  all_goals
    have htarget : targetItemId = item.identityItemId := hharm
    have hnone := hitem (hresolve.trans (congrArg some htarget))
    simp at hnone

/-- A merge that leaves protected items alone keeps them. -/
theorem Guarded.merged (hactive : item.status = .active) (hcore : isProtected item = true)
    (h : Guarded item db) (hspares : MergeSparesCore tables context proposal db)
    {rows : List IdentityItemRecord} (hmerged : ItemsMerged tables context proposal db rows) :
    Kept item rows := by
  cases hmerged with
  | untouched => exact h.kept
  | deltas payload_eq noAction through =>
    obtain ⟨left, between, hitems, hself⟩ := applyDeltas_eq_ok through
    have hbetween : Guarded item between :=
      applyItemDeltas_keep (J := Guarded item)
        (fun _ _ _ _ _ hdb hdelta => hdb.itemDelta hactive hcore hdelta) h hitems
    rcases hself with ⟨-, rfl⟩ | ⟨delta, itemId, hdelta, happly⟩
    · exact hbetween.kept
    · obtain ⟨write, hwrite, hrun⟩ := applySelfDescriptionDelta_accepted happly
      obtain ⟨item', hmem, hkeeps⟩ := hbetween.kept
      have hspared : ¬ write.Harms item' :=
        selfDescriptionWrite_spares hbetween.wellFormed hmem (hkeeps.status.trans hactive)
          (hkeeps.isProtected.trans hcore)
          (hspares _ payload_eq noAction delta hdelta _ _ _ _ hitems) hwrite
      obtain ⟨item'', hmem', hkeeps'⟩ := Kept.write hbetween.wellFormed hmem hrun hspared
      exact ⟨item'', hmem', hkeeps.trans hkeeps'⟩
  | @completed payload answer interview itemIds selfDescriptionId now left right payload_eq action
      active complete items through =>
    -- The items of an interview are only added.
    have hadded : ∀ (rows : List IdentityItemRecord) (left right : Database),
        insertItems rows now left = .ok right → ∀ row ∈ left.identityItems,
          row ∈ right.identityItems := by
      intro rows
      induction rows with
      | nil =>
        intro left right hinsert row hrow
        obtain rfl := Except.ok.inj hinsert
        exact hrow
      | cons first rest ih =>
        intro left right hinsert row hrow
        rw [insertItems] at hinsert
        cases hfirst : insertIdentityItem first now left with
        | error e =>
          rw [hfirst] at hinsert
          cases hinsert
        | ok inserted =>
          rw [hfirst] at hinsert
          refine ih inserted right hinsert row ?_
          rw [(insertIdentityItem_eq_ok hfirst).1]
          exact List.mem_append_left _ hrow
    obtain ⟨item', hmem, hkeeps⟩ := h.kept
    rw [← items] at hmem
    exact ⟨item', hadded _ _ _ through item' hmem, hkeeps⟩

end SelfDescription

/-! ## Sequences of merges -/

/-- One merge that leaves protected items alone. -/
def MergedSparingCore (tables : Text.Tables) (w w' : World) : Prop :=
  ∃ context proposal, MergeSparesCore tables context proposal w.db ∧
    Called tables (.merge context proposal) w w'

/-- In every store that calls make of an empty one, an active protected item is kept by every
sequence of merges that leave protected items alone. -/
theorem protected_kept {tables : Text.Tables} {w₀ w w' : World}
    (start : w₀.db.identityItems = [])
    (reach : Relation.ReflTransGen (SomeCalled tables) w₀ w)
    (merges : Relation.ReflTransGen (MergedSparingCore tables) w w') {item : IdentityItemRecord}
    (stored : item ∈ w.db.identityItems) (active : item.status = .active)
    (core : isProtected item = true) : Kept item w'.db.identityItems := by
  have hguarded : Guarded item w'.db := by
    induction merges with
    | refl => exact ⟨wellFormed_of_reachable start reach, Kept.of_mem stored⟩
    | tail _ step ih =>
      obtain ⟨context, proposal, hspares, hcalled⟩ := step
      exact ⟨ih.wellFormed.merged hcalled.items, ih.merged active core hspares hcalled.items⟩
  exact hguarded.kept

/-! ## A protected self-description -/

def sampleContext : ProposalProcessingContext where
  traceId := 2
  executionId := 3
  episodeId := none
  sourceIngressId := none
  sourceLoopKind := "conscious"

/-- A proposal of the user about the identity. -/
def identityProposal (proposalId : Uuid) (payload : IdentityDeltaProposal) :
    CanonicalProposal where
  proposalId := proposalId
  proposalKind := .identityDelta
  canonicalTarget := .identityItems
  confidencePct := 90
  conflictPosture := .independent
  subjectRef := "self"
  rationale := none
  validFrom := none
  validTo := none
  supersedesArtifactId := none
  provenance :=
    { provenanceKind := .episodeObservation, sourceIngressIds := [4], sourceEpisodeId := none }
  payload := .identityDelta payload

/-- The row of a proposal that was recorded. -/
def recordedProposal (proposalId : Uuid) : ProposalRecord where
  proposalId := proposalId
  traceId := 2
  executionId := 3
  episodeId := none
  sourceIngressId := none
  sourceLoopKind := "conscious"
  proposalKind := .identityDelta
  canonicalTarget := .identityItems
  status := "accepted"
  confidence := 90
  conflictPosture := .independent
  subjectRef := "self"
  contentText := "identity"
  rationale := none
  validFrom := none
  validTo := none
  supersedesArtifactId := none
  supersedesArtifactKind := none

/-- An empty identity, and the proposals 20 and 21. -/
def noIdentity : World where
  db := { proposals := [recordedProposal 20, recordedProposal 21] }

/-- The user gives the assistant a description of itself that is to stay. -/
def coreDescription : CanonicalProposal :=
  identityProposal 20
    { lifecycleState := .completeIdentityActive
      itemDeltas :=
        [{ operation := .add, stabilityClass := .stable, category := .recurringSelfDescription
           itemKey := "self_description", value := "A careful assistant.", confidencePct := 90
           source := .userAuthored, mergePolicy := .protectedCore }]
      rationale := "Chosen by the user." }

/-- A delta of the self-description. -/
def describes (proposalId : Uuid) (operation : IdentityDeltaOperation) : CanonicalProposal :=
  identityProposal proposalId
    { lifecycleState := .completeIdentityActive
      selfDescriptionDelta := some { operation := operation, description := "A careful assistant." }
      rationale := "Reflection." }

/-- The store after a merge, in steady surroundings. -/
def mergedWith (proposal : CanonicalProposal) (w : World) : World :=
  (((IdentityCall.merge sampleContext proposal).program Text.Tables.ascii).run (steady 5) 0 w).state

/-- The item of `coreDescription`. -/
def coreItem : IdentityItemRecord where
  identityItemId := 1
  proposalId := some 20
  traceId := some 2
  stabilityClass := .stable
  category := .recurringSelfDescription
  itemKey := "self_description"
  valueText := "A careful assistant."
  confidence := 90
  weight := none
  provenanceKind := .episodeObservation
  sourceKind := "user_authored"
  mergePolicy := .protectedCore
  status := .active
  evidenceRefs := []
  validFrom := none
  validTo := none
  createdAt := 5
  updatedAt := 5

theorem protected_kept_reinforced :
    (mergedWith coreDescription noIdentity).db.identityItems = [coreItem] ∧
      Kept coreItem (mergedWith (describes 21 .reinforce)
        (mergedWith coreDescription noIdentity)).db.identityItems := by
  have hitems : (mergedWith coreDescription noIdentity).db.identityItems = [coreItem] := by
    decide +kernel
  refine ⟨hitems, ?_⟩
  have reach : Relation.ReflTransGen (SomeCalled Text.Tables.ascii) noIdentity
      (mergedWith coreDescription noIdentity) := .single ⟨_, steady 5, 0, rfl⟩
  have hspares : MergeSparesCore Text.Tables.ascii sampleContext (describes 21 .reinforce)
      (mergedWith coreDescription noIdentity).db := by
    intro payload hpayload _ delta hdelta _ _ _ _ _ _ _ _
    obtain rfl := CanonicalProposalPayload.identityDelta.inj hpayload
    obtain rfl := Option.some.inj hdelta
    exact Or.inr (Or.inl rfl)
  have hstored : coreItem ∈ (mergedWith coreDescription noIdentity).db.identityItems := by
    rw [hitems]
    exact List.mem_cons_self
  exact protected_kept rfl reach (.single ⟨_, _, hspares, steady 5, 0, rfl⟩) hstored rfl rfl

/-- A delta of the self-description expires a protected item. -/
theorem protected_expired_by_self_description :
    ∃ w w' : World, Relation.ReflTransGen (SomeCalled Text.Tables.ascii) noIdentity w ∧
      Called Text.Tables.ascii (.merge sampleContext (describes 21 .expire)) w w' ∧
      coreItem ∈ w.db.identityItems ∧ coreItem.status = .active ∧
      isProtected coreItem = true ∧ ¬ Kept coreItem w'.db.identityItems := by
  refine ⟨mergedWith coreDescription noIdentity,
    mergedWith (describes 21 .expire) (mergedWith coreDescription noIdentity),
    .single ⟨_, steady 5, 0, rfl⟩, ⟨steady 5, 0, rfl⟩, by decide +kernel, rfl, rfl, ?_⟩
  have hitems : (mergedWith (describes 21 .expire)
      (mergedWith coreDescription noIdentity)).db.identityItems.map IdentityItemRecord.status =
      [.expired] := by
    decide +kernel
  rintro ⟨item', hmem, hkeeps⟩
  have hstatus : item'.status ∈ [IdentityItemStatus.expired] := by
    rw [← hitems]
    exact List.mem_map_of_mem hmem
  rw [hkeeps.status] at hstatus
  simp [coreItem] at hstatus

end Identity

end BlueLagoon
