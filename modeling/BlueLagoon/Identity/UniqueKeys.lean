import BlueLagoon.Identity.ProtectedCore

/-!
# One active item for each key

Added items look for their key among the newest items of their category; replacements, the
self-description and the items of an interview do not look at all. The keys of the active
items stay unique as long as every writer that does not find out finds its key free.
-/

namespace BlueLagoon

open Interleaving Harness

namespace Identity

/-- The place of an item. -/
def keyOf (item : IdentityItemRecord) : IdentityItemCategory × String :=
  (item.category, item.itemKey)

/-- No two active items share category and key. -/
def UniqueKeys (rows : List IdentityItemRecord) : Prop :=
  ∀ a ∈ rows, ∀ b ∈ rows, a.status = .active → b.status = .active →
    a.category = b.category → a.itemKey = b.itemKey → a = b

/-- No active item has the key. -/
def Free (key : IdentityItemCategory × String) (rows : List IdentityItemRecord) : Prop :=
  ∀ item ∈ rows, item.status = .active → keyOf item ≠ key

/-! ## What writes do to the keys -/

section Rows

variable {rows : List IdentityItemRecord} {row : IdentityItemRecord}

theorem UniqueKeys.nil : UniqueKeys [] := by simp [UniqueKeys]

theorem UniqueKeys.append (h : UniqueKeys rows) (hfree : Free (keyOf row) rows) :
    UniqueKeys (rows ++ [row]) := by
  intro a ha b hb hactive hactive' hcategory hkey
  rcases List.mem_append.mp ha with hold | hlast <;>
    rcases List.mem_append.mp hb with hold' | hlast'
  · exact h a hold b hold' hactive hactive' hcategory hkey
  · rw [List.mem_singleton.mp hlast'] at hcategory hkey
    exact absurd (Prod.ext hcategory hkey) (hfree a hold hactive)
  · rw [List.mem_singleton.mp hlast] at hcategory hkey
    exact absurd (Prod.ext hcategory.symm hkey.symm) (hfree b hold' hactive')
  · rw [List.mem_singleton.mp hlast, List.mem_singleton.mp hlast']

/-- A change that keeps the places and activates nothing. -/
theorem UniqueKeys.update (h : UniqueKeys rows) {which : IdentityItemRecord → Bool}
    {change : IdentityItemRecord → IdentityItemRecord}
    (place : ∀ item, keyOf (change item) = keyOf item)
    (status : ∀ item, which item = true → (change item).status = .active → item.status = .active) :
    UniqueKeys (Table.update which change rows) := by
  have hold : ∀ item' ∈ Table.update which change rows, item'.status = .active →
      ∃ item ∈ rows, item.status = .active ∧ keyOf item' = keyOf item ∧
        item' = if which item then change item else item := by
    intro item' hmem hactive
    rcases Table.mem_update.mp hmem with ⟨hrow, hw⟩ | ⟨item, hrow, hw, rfl⟩
    · exact ⟨item', hrow, hactive, rfl, by rw [hw, if_neg Bool.false_ne_true]⟩
    · exact ⟨item, hrow, status item hw hactive, place item, by rw [hw, if_pos rfl]⟩
  intro a' ha' b' hb' hactive hactive' hcategory hkey
  obtain ⟨a, ha, hactiveA, hplaceA, hA⟩ := hold a' ha' hactive
  obtain ⟨b, hb, hactiveB, hplaceB, hB⟩ := hold b' hb' hactive'
  have hplace : keyOf a = keyOf b := by
    rw [← hplaceA, ← hplaceB]
    exact Prod.ext hcategory hkey
  have hab : a = b :=
    h a ha b hb hactiveA hactiveB (congrArg Prod.fst hplace) (congrArg Prod.snd hplace)
  rw [hA, hB, hab]

/-- A new item in the place of the one that it supersedes. -/
theorem UniqueKeys.replace (h : UniqueKeys rows) {targetItemId successor : Uuid} {now : DateTime}
    (hfree : ∀ item ∈ rows, item.status = .active → keyOf item = keyOf row →
      item.identityItemId = targetItemId) :
    UniqueKeys (Table.update (isActiveItem targetItemId) (superseded successor now)
      (rows ++ [row])) := by
  -- What is active afterwards was there, and is not the target.
  have hold : ∀ item ∈ Table.update (isActiveItem targetItemId) (superseded successor now)
      (rows ++ [row]), item.status = .active →
        item ∈ rows ++ [row] ∧ item.identityItemId ≠ targetItemId := by
    intro item hmem hactive
    rcases Table.mem_update.mp hmem with ⟨hrow, hw⟩ | ⟨old, -, -, rfl⟩
    · refine ⟨hrow, fun htarget => ?_⟩
      rw [isActiveItem, htarget, hactive] at hw
      simp at hw
    · cases hactive
  intro a ha b hb hactive hactive' hcategory hkey
  obtain ⟨hmemA, hneA⟩ := hold a ha hactive
  obtain ⟨hmemB, hneB⟩ := hold b hb hactive'
  rcases List.mem_append.mp hmemA with holdA | hlastA <;>
    rcases List.mem_append.mp hmemB with holdB | hlastB
  · exact h a holdA b holdB hactive hactive' hcategory hkey
  · rw [List.mem_singleton.mp hlastB] at hcategory hkey
    exact absurd (hfree a holdA hactive (Prod.ext hcategory hkey)) hneA
  · rw [List.mem_singleton.mp hlastA] at hcategory hkey
    exact absurd (hfree b holdB hactive' (Prod.ext hcategory.symm hkey.symm)) hneB
  · rw [List.mem_singleton.mp hlastA, List.mem_singleton.mp hlastB]

/-- The write finds the key of its row free, the item that it replaces aside. -/
def ItemWrite.FindsKeyFree (rows : List IdentityItemRecord) : ItemWrite → Prop
  | .add row => Free (keyOf row) rows
  | .replace row targetItemId => ∀ item ∈ rows, item.status = .active → keyOf item = keyOf row →
      item.identityItemId = targetItemId
  | .reinforce _ _ _ | .weaken _ _ _ | .expire _ => True

theorem UniqueKeys.write {now : DateTime} {db db' : Database} (h : UniqueKeys db.identityItems)
    {write : ItemWrite} (hrun : write.run now db = .ok db')
    (hfree : write.FindsKeyFree db.identityItems) : UniqueKeys db'.identityItems := by
  obtain ⟨rfl, -⟩ := ItemWrite.run_eq_ok hrun
  cases write with
  | add row =>
    have hkey : keyOf (ItemWrite.stamped now row) = keyOf row := rfl
    exact h.append (by rw [hkey]; exact hfree)
  | reinforce targetItemId confidence weight =>
    exact h.update (fun _ => rfl) fun _ _ hactive => hactive
  | weaken targetItemId confidence weight =>
    exact h.update (fun _ => rfl) fun _ _ hactive => hactive
  | replace row targetItemId => exact h.replace hfree
  | expire targetItemId =>
    refine h.update (fun _ => rfl) fun item _ hactive => ?_
    cases hactive

end Rows

/-! ## What each writer has to find -/

/-- The scan of an added item shows it every active item with its key. -/
def ScanShowsKey (delta : IdentityItemDelta) (db : Database) : Prop :=
  ∀ item ∈ activeOfCategory delta.category db, item.itemKey = delta.itemKey →
    item ∈ listActiveIdentityItemsByCategory delta.category db

/-- An item delta does not take a key without noticing: the scan of an added item is far
enough, and the key of a replacement is free or belongs to the item that is replaced. -/
def DeltaKeepsKeys (delta : IdentityItemDelta) (db : Database) : Prop :=
  match delta.operation with
  | .add => ScanShowsKey delta db
  | .revise | .supersede => ∀ item ∈ activeOfCategory delta.category db,
      item.itemKey = delta.itemKey → resolveIdentityDeltaTarget delta db = some item.identityItemId
  | .reinforce | .weaken | .expire => True

/-- So does none of the item deltas of a merge, each at the store it is applied to. -/
def DeltasKeepKeys (tables : Text.Tables) (context : ProposalProcessingContext)
    (proposal : CanonicalProposal) (now : DateTime) :
    List (IdentityItemDelta × Uuid) → Database → Prop
  | [], _ => True
  | (delta, identityItemId) :: rest, db => DeltaKeepsKeys delta db ∧
      ∀ itemId between, applyIdentityItemDelta tables context proposal delta identityItemId now db =
        .ok (.accepted itemId, between) → DeltasKeepKeys tables context proposal now rest between

/-- The place of the self-description. -/
def selfDescriptionKey : IdentityItemCategory × String :=
  (.recurringSelfDescription, "self_description")

/-- The keys of the items of a completed interview. -/
def interviewKeys : List (IdentityItemCategory × String) :=
  customIdentityFields.map (fun (_, category, itemKey, _) => (category, itemKey)) ++
    [selfDescriptionKey]

/-- A merge takes no key without noticing. -/
def MergeKeepsKeys (tables : Text.Tables) (context : ProposalProcessingContext)
    (proposal : CanonicalProposal) (db : Database) : Prop :=
  ∀ payload, proposal.payload = .identityDelta payload →
    match payload.interviewAction with
    | none => ∀ itemIds now,
        DeltasKeepKeys tables context proposal now (payload.itemDeltas.zip itemIds) db ∧
        ∀ delta, payload.selfDescriptionDelta = some delta → delta.operation = .add →
          ∀ left between, applyItemDeltas tables context proposal now
            (payload.itemDeltas.zip itemIds) db = .ok (.ok left, between) →
            Free selfDescriptionKey between.identityItems
    | some (.answerCustomInterview answer) => ∀ interview, activeInterview db = some interview →
        nextMissingStep (answered interview answer) = none →
          ∀ key ∈ interviewKeys, Free key db.identityItems
    | some _ => True

section Writers

variable {tables : Text.Tables} {context : ProposalProcessingContext}
  {proposal : CanonicalProposal} {now : DateTime} {db db' : Database}

theorem mem_activeOfCategory {category : IdentityItemCategory} {item : IdentityItemRecord} :
    item ∈ activeOfCategory category db ↔
      item ∈ db.identityItems ∧ item.status = .active ∧ item.category = category := by
  simp [activeOfCategory]

/-- An added item that the control lets through has none of the listed keys. -/
theorem control_add {delta : IdentityItemDelta} (hoperation : delta.operation = .add)
    (hcontrol : identityDeltaControlRejection tables delta db = none) {item : IdentityItemRecord}
    (hlisted : item ∈ listActiveIdentityItemsByCategory delta.category db) :
    item.itemKey ≠ delta.itemKey := by
  unfold identityDeltaControlRejection at hcontrol
  rw [hoperation] at hcontrol
  intro hkey
  have hnone := List.findSome?_eq_none_iff.mp hcontrol item hlisted
  simp only [additionFault, hkey, decide_true, Bool.true_and, if_true] at hnone
  split at hnone <;> cases hnone

/-- A delta that the control lets through is written under a key that is free in its category. -/
theorem deltaWrite_findsKeyFree {delta : IdentityItemDelta} {identityItemId itemId : Uuid}
    {write : ItemWrite} (hcontrol : identityDeltaControlRejection tables delta db = none)
    (hkeeps : DeltaKeepsKeys delta db)
    (hwrite : deltaWrite context proposal delta identityItemId db = some (write, itemId)) :
    write.FindsKeyFree db.identityItems := by
  unfold deltaWrite at hwrite
  unfold DeltaKeepsKeys at hkeeps
  cases hoperation : delta.operation <;> simp only [hoperation, Option.map_eq_some_iff,
    Prod.mk.injEq, Option.some.injEq] at hwrite hkeeps
  case add =>
    obtain ⟨rfl, -⟩ := hwrite
    intro item hmem hactive hsame
    have hcategory : item.category = delta.category := congrArg Prod.fst hsame
    have hkey : item.itemKey = delta.itemKey := congrArg Prod.snd hsame
    have hlisted := hkeeps item (mem_activeOfCategory.mpr ⟨hmem, hactive, hcategory⟩) hkey
    exact control_add hoperation hcontrol hlisted hkey
  case revise | supersede =>
    obtain ⟨targetItemId, hresolve, rfl, -⟩ := hwrite
    intro item hmem hactive hsame
    have hcategory : item.category = delta.category := congrArg Prod.fst hsame
    have hkey : item.itemKey = delta.itemKey := congrArg Prod.snd hsame
    have htarget := hkeeps item (mem_activeOfCategory.mpr ⟨hmem, hactive, hcategory⟩) hkey
    rw [hresolve] at htarget
    exact (Option.some.inj htarget).symm
  all_goals
    obtain ⟨targetItemId, -, rfl, -⟩ := hwrite
    trivial

/-- An item found by its key is an active item with that key. -/
theorem mem_of_findActiveIdentityItemByKey {category : IdentityItemCategory} {itemKey : String}
    {id : Uuid} (h : findActiveIdentityItemByKey category itemKey db = some id) :
    ∃ item ∈ db.identityItems, item.status = .active ∧ keyOf item = (category, itemKey) ∧
      item.identityItemId = id := by
  obtain ⟨item, hfirst, rfl⟩ := Option.map_eq_some_iff.mp h
  have hmem := List.mem_filter.mp (Table.mem_of_first hfirst)
  obtain ⟨hrow, hactive, hcategory⟩ := mem_activeOfCategory.mp hmem.1
  have hkey : item.itemKey = itemKey := by simpa using hmem.2
  exact ⟨item, hrow, hactive, Prod.ext hcategory hkey, rfl⟩

theorem selfDescriptionWrite_findsKeyFree (hunique : UniqueKeys db.identityItems)
    {delta : SelfDescriptionDelta} {identityItemId itemId : Uuid} {write : ItemWrite}
    (hadd : delta.operation = .add → Free selfDescriptionKey db.identityItems)
    (hwrite : selfDescriptionWrite context proposal delta identityItemId db =
      some (write, itemId)) : write.FindsKeyFree db.identityItems := by
  have hreplaced : ∀ targetItemId, selfDescriptionTarget db = some targetItemId →
      ∀ item ∈ db.identityItems, item.status = .active → keyOf item = selfDescriptionKey →
        item.identityItemId = targetItemId := by
    intro targetItemId htarget item hmem hactive hkey
    obtain ⟨found, hfound, hfoundActive, hfoundKey, rfl⟩ :=
      mem_of_findActiveIdentityItemByKey htarget
    have hsame : keyOf item = keyOf found := hkey.trans hfoundKey.symm
    rw [hunique item hmem found hfound hactive hfoundActive (congrArg Prod.fst hsame)
      (congrArg Prod.snd hsame)]
  unfold selfDescriptionWrite at hwrite
  cases hoperation : delta.operation <;> simp only [hoperation, Option.map_eq_some_iff,
    Prod.mk.injEq, Option.some.injEq] at hwrite
  case add =>
    obtain ⟨rfl, -⟩ := hwrite
    exact hadd hoperation
  case revise | supersede =>
    obtain ⟨targetItemId, htarget, rfl, -⟩ := hwrite
    exact hreplaced targetItemId htarget
  all_goals
    obtain ⟨targetItemId, -, rfl, -⟩ := hwrite
    trivial

theorem UniqueKeys.itemDeltas (hunique : UniqueKeys db.identityItems)
    {deltas : List (IdentityItemDelta × Uuid)} {itemIds : List Uuid}
    (hkeeps : DeltasKeepKeys tables context proposal now deltas db)
    (h : applyItemDeltas tables context proposal now deltas db = .ok (.ok itemIds, db')) :
    UniqueKeys db'.identityItems := by
  induction deltas generalizing db itemIds with
  | nil =>
    rw [applyItemDeltas_nil h]
    exact hunique
  | cons first rest ih =>
    obtain ⟨itemId, between, itemIds', hfirst, hrest⟩ := applyItemDeltas_cons h
    obtain ⟨hfirstKeeps, hrestKeeps⟩ := hkeeps
    obtain ⟨hcontrol, write, hwrite, hrun⟩ := applyIdentityItemDelta_accepted hfirst
    have hbetween : UniqueKeys between.identityItems :=
      hunique.write hrun (deltaWrite_findsKeyFree hcontrol hfirstKeeps hwrite)
    exact ih hbetween (hrestKeeps _ _ hfirst) hrest

/-! ## The items of an interview -/

theorem interviewKeys_nodup : interviewKeys.Nodup := by decide

/-- The items made of deltas stand in the places of the deltas. -/
theorem zipWith_keys (context : ProposalProcessingContext) (proposal : CanonicalProposal)
    (deltas : List IdentityItemDelta)
    (itemIds : List Uuid) :
    ((deltas.zipWith (identityItemFromDelta context proposal) itemIds).map keyOf).Sublist
      (deltas.map fun delta => (delta.category, delta.itemKey)) := by
  induction deltas generalizing itemIds with
  | nil => exact List.Sublist.slnil
  | cons delta deltas ih =>
    cases itemIds with
    | nil => exact List.nil_sublist _
    | cons id itemIds => exact (ih itemIds).cons_cons _

theorem interviewItems_keys (context : ProposalProcessingContext) (proposal : CanonicalProposal)
    (interviewId : Uuid) (answeredFields : List (String × String)) (itemIds : List Uuid)
    (selfDescriptionItemId : Uuid) :
    ((interviewItems context proposal interviewId answeredFields itemIds
      selfDescriptionItemId).map keyOf).Sublist interviewKeys := by
  rw [interviewItems, List.map_append, interviewKeys]
  refine List.Sublist.append ?_ (List.Sublist.refl _)
  have hkeys := zipWith_keys context proposal
    (customIdentityDeltasFromAnswers answeredFields proposal) itemIds
  rw [customIdentityDeltasFromAnswers, List.map_map] at hkeys
  exact hkeys

/-- Items whose keys are free, and differ from each other. -/
theorem UniqueKeys.insertItems (hunique : UniqueKeys db.identityItems)
    {rows : List IdentityItemRecord} (hdistinct : (rows.map keyOf).Nodup)
    (hfree : ∀ row ∈ rows, Free (keyOf row) db.identityItems)
    (h : insertItems rows now db = .ok db') : UniqueKeys db'.identityItems := by
  induction rows generalizing db with
  | nil =>
    obtain rfl := Except.ok.inj h
    exact hunique
  | cons row rows ih =>
    rw [Identity.insertItems] at h
    cases hinsert : insertIdentityItem row now db with
    | error e =>
      rw [hinsert] at h
      cases h
    | ok inserted =>
      rw [hinsert] at h
      obtain ⟨hnew, hdistinct⟩ := List.nodup_cons.mp hdistinct
      have hrun : (ItemWrite.add row).run now db = .ok inserted := hinsert
      refine ih (hunique.write hrun (hfree row List.mem_cons_self)) hdistinct ?_ h
      intro other hother item hitem hactive hsame
      rw [(insertIdentityItem_eq_ok hinsert).1] at hitem
      rcases List.mem_append.mp hitem with hold | hlast
      · exact hfree other (List.mem_cons_of_mem _ hother) item hold hactive hsame
      · rw [List.mem_singleton.mp hlast] at hsame
        exact hnew (List.mem_map.mpr ⟨other, hother, hsame.symm⟩)

/-! ## Sequences of calls -/

theorem UniqueKeys.merged (hunique : UniqueKeys db.identityItems)
    (hkeeps : MergeKeepsKeys tables context proposal db) {rows : List IdentityItemRecord}
    (hmerged : ItemsMerged tables context proposal db rows) : UniqueKeys rows := by
  cases hmerged with
  | untouched => exact hunique
  | deltas payload_eq noAction through =>
    have hpayload := hkeeps _ payload_eq
    rw [noAction] at hpayload
    obtain ⟨left, between, hitems, hself⟩ := applyDeltas_eq_ok through
    obtain ⟨hdeltas, hdescription⟩ := hpayload _ _
    have hbetween : UniqueKeys between.identityItems := hunique.itemDeltas hdeltas hitems
    rcases hself with ⟨-, rfl⟩ | ⟨delta, itemId, hdelta, happly⟩
    · exact hbetween
    · obtain ⟨write, hwrite, hrun⟩ := applySelfDescriptionDelta_accepted happly
      refine hbetween.write hrun (selfDescriptionWrite_findsKeyFree hbetween ?_ hwrite)
      exact fun hadd => hdescription delta hdelta hadd _ _ hitems
  | completed payload_eq action active complete items through =>
    have hpayload := hkeeps _ payload_eq
    rw [action] at hpayload
    have hfree := hpayload _ active complete
    have hkeys := interviewItems_keys context proposal
    refine UniqueKeys.insertItems (by rw [items]; exact hunique)
      ((hkeys _ _ _ _).nodup interviewKeys_nodup) (fun row hrow => ?_) through
    rw [items]
    exact hfree _ ((hkeys _ _ _ _).subset (List.mem_map_of_mem hrow))

end Writers

/-- A reset, or a merge that takes no key without noticing. -/
def CalledKeepingKeys (tables : Text.Tables) (w w' : World) : Prop :=
  (∃ actorRef reason, Called tables (.reset actorRef reason) w w') ∨
    ∃ context proposal, MergeKeepsKeys tables context proposal w.db ∧
      Called tables (.merge context proposal) w w'

/-- From an empty store, no sequence of resets and of merges that take no key without noticing
makes two active items with the same category and key. -/
theorem unique_keys {tables : Text.Tables} {w w' : World} (start : w.db.identityItems = [])
    (reach : Relation.ReflTransGen (CalledKeepingKeys tables) w w') :
    UniqueKeys w'.db.identityItems := by
  induction reach with
  | refl =>
    rw [start]
    exact UniqueKeys.nil
  | tail _ step ih =>
    rcases step with ⟨actorRef, reason, hcalled⟩ | ⟨context, proposal, hkeeps, hcalled⟩
    · rcases hcalled.itemsReset with hsame | ⟨now, hreset⟩
      · rw [hsame]
        exact ih
      · rw [hreset]
        refine ih.update (fun _ => rfl) fun item _ hactive => ?_
        cases hactive
    · exact ih.merged hkeeps hcalled.items

theorem unique_keys_descriptions :
    (mergedWith (describes 21 .revise) (mergedWith (describes 20 .add)
      noIdentity)).db.identityItems.map IdentityItemRecord.status = [.superseded, .active] ∧
      UniqueKeys (mergedWith (describes 21 .revise) (mergedWith (describes 20 .add)
        noIdentity)).db.identityItems := by
  refine ⟨by decide +kernel, ?_⟩
  have hadd : MergeKeepsKeys Text.Tables.ascii sampleContext (describes 20 .add) noIdentity.db := by
    intro payload hpayload
    obtain rfl := CanonicalProposalPayload.identityDelta.inj hpayload
    intro itemIds now
    refine ⟨trivial, fun delta hdelta _ left between hitems => ?_⟩
    rw [applyItemDeltas_nil hitems]
    rintro item ⟨⟩
  have hrevise : MergeKeepsKeys Text.Tables.ascii sampleContext (describes 21 .revise)
      (mergedWith (describes 20 .add) noIdentity).db := by
    intro payload hpayload
    obtain rfl := CanonicalProposalPayload.identityDelta.inj hpayload
    intro itemIds now
    refine ⟨trivial, fun delta hdelta hoperation => ?_⟩
    obtain rfl := Option.some.inj hdelta
    cases hoperation
  have start : noIdentity.db.identityItems = [] := rfl
  exact unique_keys start (.tail (.tail .refl
    (Or.inr ⟨_, _, hadd, steady 5, 0, rfl⟩)) (Or.inr ⟨_, _, hrevise, steady 5, 0, rfl⟩))

/-- Two deltas that add a self-description leave two active items with the same key. -/
theorem two_self_descriptions :
    ∃ w : World, Relation.ReflTransGen (SomeCalled Text.Tables.ascii) noIdentity w ∧
      noIdentity.db.identityItems = [] ∧ ¬ UniqueKeys w.db.identityItems := by
  refine ⟨mergedWith (describes 21 .add) (mergedWith (describes 20 .add) noIdentity),
    .tail (.tail .refl ⟨_, steady 5, 0, rfl⟩) ⟨_, steady 5, 0, rfl⟩, rfl, fun hunique => ?_⟩
  have hids : ((mergedWith (describes 21 .add) (mergedWith (describes 20 .add)
      noIdentity)).db.identityItems.map fun item =>
        (item.proposalId, item.status, item.category, item.itemKey)) =
      [(some 20, .active, .recurringSelfDescription, "self_description"),
       (some 21, .active, .recurringSelfDescription, "self_description")] := by
    decide +kernel
  obtain ⟨a, ha, hka⟩ := List.mem_map.mp (hids ▸ List.mem_cons_self)
  obtain ⟨b, hb, hkb⟩ := List.mem_map.mp (hids ▸ List.mem_cons_of_mem _ List.mem_cons_self)
  simp only [Prod.mk.injEq] at hka hkb
  have hab : a = b := hunique a ha b hb hka.2.1 hkb.2.1 (hka.2.2.1.trans hkb.2.2.1.symm)
    (hka.2.2.2.trans hkb.2.2.2.symm)
  rw [hab, hkb.1] at hka
  simp at hka

end Identity

end BlueLagoon
