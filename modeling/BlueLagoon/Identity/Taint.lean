import BlueLagoon.Identity.Constraints
import BlueLagoon.Identity.ProtectedCore

/-!
# What deltas do to the stable items

A store is untainted by what was done to it when no item has become stable, no stable item
has been replaced and the lifecycle is in the state it was in. Writes never take that back:
a sequence of them taints the store as soon as one of them does. So the deltas of a
proposal taint it by what each of them writes.
-/

namespace BlueLagoon

open Interleaving Harness

namespace Identity

/-- Every stable item was one before, and none has been replaced since. -/
def StableItemsKept (items items' : List IdentityItemRecord) : Prop :=
  ∀ row' ∈ items', row'.stabilityClass = .stable →
    ∃ row ∈ items, row.identityItemId = row'.identityItemId ∧ row.stabilityClass = .stable ∧
      (row'.status = .superseded → row.status = .superseded)

/-- No stable item is created, promoted or replaced, and the lifecycle stays in its state. -/
structure Untainted (db db' : Database) : Prop where
  items : StableItemsKept db.identityItems db'.identityItems
  lifecycle : lifecycleState db' = lifecycleState db

/-- Every item is still there, as stable as it was, and no replacement is undone. -/
def Carried (items items' : List IdentityItemRecord) : Prop :=
  ∀ row ∈ items, ∃ row' ∈ items', row'.identityItemId = row.identityItemId ∧
    row'.stabilityClass = row.stabilityClass ∧
    (row.status = .superseded → row'.status = .superseded)

section Items

variable {items items' items'' : List IdentityItemRecord} {row : IdentityItemRecord}

theorem StableItemsKept.refl (items : List IdentityItemRecord) : StableItemsKept items items :=
  fun row hrow hstable => ⟨row, hrow, rfl, hstable, id⟩

theorem Carried.refl (items : List IdentityItemRecord) : Carried items items :=
  fun row hrow => ⟨row, hrow, rfl, rfl, id⟩

theorem Carried.trans (h : Carried items items') (h' : Carried items' items'') :
    Carried items items'' := by
  intro row hrow
  obtain ⟨row', hrow', hid, hclass, hsuperseded⟩ := h row hrow
  obtain ⟨row'', hrow'', hid', hclass', hsuperseded'⟩ := h' row' hrow'
  exact ⟨row'', hrow'', hid'.trans hid, hclass'.trans hclass, fun hold =>
    hsuperseded' (hsuperseded hold)⟩

/-- What carries the items along takes no taint back. -/
theorem stableItemsKept_trans_iff (h : Carried items items') (h' : Carried items' items'') :
    StableItemsKept items items'' ↔
      StableItemsKept items items' ∧ StableItemsKept items' items'' := by
  constructor
  · intro hkept
    refine ⟨fun row' hrow' hstable => ?_, fun row'' hrow'' hstable => ?_⟩
    · obtain ⟨row'', hrow'', hid, hclass, hlater⟩ := h' row' hrow'
      obtain ⟨row, hrow, hid', hstable', hearlier⟩ := hkept row'' hrow'' (hclass.trans hstable)
      exact ⟨row, hrow, hid'.trans hid, hstable', fun hsuperseded =>
        hearlier (hlater hsuperseded)⟩
    · obtain ⟨row, hrow, hid, hstable', hearlier⟩ := hkept row'' hrow'' hstable
      obtain ⟨row', hrow', hid', hclass, hlater⟩ := h row hrow
      exact ⟨row', hrow', hid'.trans hid, hclass.trans hstable', fun hsuperseded =>
        hlater (hearlier hsuperseded)⟩
  · rintro ⟨hfirst, hsecond⟩ row'' hrow'' hstable
    obtain ⟨row', hrow', hid, hstable', hlater⟩ := hsecond row'' hrow'' hstable
    obtain ⟨row, hrow, hid', hstable'', hearlier⟩ := hfirst row' hrow' hstable'
    exact ⟨row, hrow, hid'.trans hid, hstable'', fun hsuperseded =>
      hearlier (hlater hsuperseded)⟩

theorem Carried.append (items : List IdentityItemRecord) (row : IdentityItemRecord) :
    Carried items (items ++ [row]) :=
  fun other hother => ⟨other, List.mem_append_left _ hother, rfl, rfl, id⟩

/-- A change of active items that keeps their id and their stability. -/
theorem Carried.update {targetItemId : Uuid} {change : IdentityItemRecord → IdentityItemRecord}
    (key : ∀ row, (change row).identityItemId = row.identityItemId)
    (class_eq : ∀ row, (change row).stabilityClass = row.stabilityClass) :
    Carried items (Table.update (isActiveItem targetItemId) change items) := by
  intro row hrow
  by_cases hwhich : isActiveItem targetItemId row = true
  · refine ⟨change row, Table.mem_update.mpr (Or.inr ⟨row, hrow, hwhich, rfl⟩), key row,
      class_eq row, fun hsuperseded => ?_⟩
    simp only [isActiveItem, hsuperseded, Bool.and_eq_true, decide_eq_true_eq, reduceCtorEq,
      and_false] at hwhich
  · exact ⟨row, Table.mem_update.mpr (Or.inl ⟨hrow, by simpa using hwhich⟩), rfl, rfl, id⟩

/-- A new item taints the store if it is stable. -/
theorem stableItemsKept_append_iff
    (hfresh : ∀ other ∈ items, other.identityItemId ≠ row.identityItemId) :
    StableItemsKept items (items ++ [row]) ↔ row.stabilityClass ≠ .stable := by
  constructor
  · intro hkept hstable
    obtain ⟨other, hother, hid, -, -⟩ :=
      hkept row (List.mem_append_right _ List.mem_cons_self) hstable
    exact hfresh other hother hid
  · intro hnot other hother hstable
    rcases List.mem_append.mp hother with hold | hlast
    · exact ⟨other, hold, rfl, hstable, id⟩
    · obtain rfl := List.mem_singleton.mp hlast
      exact absurd hstable hnot

/-- A change that replaces nothing does not taint the store. -/
theorem StableItemsKept.update {targetItemId : Uuid}
    {change : IdentityItemRecord → IdentityItemRecord}
    (key : ∀ row, (change row).identityItemId = row.identityItemId)
    (class_eq : ∀ row, (change row).stabilityClass = row.stabilityClass)
    (status_ne : ∀ row, row.status = .active → (change row).status ≠ .superseded) :
    StableItemsKept items (Table.update (isActiveItem targetItemId) change items) := by
  intro row' hrow' hstable
  rcases Table.mem_update.mp hrow' with ⟨hmem, -⟩ | ⟨row, hrow, hwhich, rfl⟩
  · exact ⟨row', hmem, rfl, hstable, id⟩
  · refine ⟨row, hrow, (key row).symm, (class_eq row).symm.trans hstable, fun hsuperseded => ?_⟩
    simp only [isActiveItem, Bool.and_eq_true, decide_eq_true_eq] at hwhich
    exact absurd hsuperseded (status_ne row hwhich.2)

/-- A replacement taints the store if the item replaced is stable. -/
theorem stableItemsKept_superseded_iff (hwell : (items.map IdentityItemRecord.identityItemId).Nodup)
    {targetItemId successor : Uuid} {now : DateTime} :
    StableItemsKept items
        (Table.update (isActiveItem targetItemId) (superseded successor now) items) ↔
      ∀ row ∈ items, isActiveItem targetItemId row = true → row.stabilityClass ≠ .stable := by
  constructor
  · intro hkept row hrow hwhich hstable
    obtain ⟨other, hother, hid, -, hsuperseded⟩ := hkept (superseded successor now row)
      (Table.mem_update.mpr (Or.inr ⟨row, hrow, hwhich, rfl⟩)) hstable
    have hstatus : other.status = .superseded := hsuperseded rfl
    rw [Table.eq_of_mem_of_key hwell hother hrow hid] at hstatus
    simp only [isActiveItem, Bool.and_eq_true, decide_eq_true_eq] at hwhich
    rw [hwhich.2] at hstatus
    cases hstatus
  · intro hspared row' hrow' hstable
    rcases Table.mem_update.mp hrow' with ⟨hmem, -⟩ | ⟨row, hrow, hwhich, rfl⟩
    · exact ⟨row', hmem, rfl, hstable, id⟩
    · exact absurd hstable (hspared row hrow hwhich)

end Items

/-! ## Writes -/

/-- A write that makes an item stable, or replaces a stable one. -/
def ItemWrite.Taints (items : List IdentityItemRecord) : ItemWrite → Prop
  | add row => row.stabilityClass = .stable
  | replace row targetItemId => row.stabilityClass = .stable ∨
      ∃ item ∈ items, isActiveItem targetItemId item = true ∧ item.stabilityClass = .stable
  | reinforce _ _ _ | weaken _ _ _ | expire _ => False

section Writes

variable {context : ProposalProcessingContext} {proposal : CanonicalProposal} {now : DateTime}
  {db db' : Database}

theorem Carried.write {write : ItemWrite} (h : write.run now db = .ok db') :
    Carried db.identityItems db'.identityItems := by
  rw [(ItemWrite.run_eq_ok h).1]
  cases write with
  | add row => exact Carried.append _ _
  | reinforce targetItemId confidence weight =>
    exact Carried.update (fun _ => rfl) fun _ => rfl
  | weaken targetItemId confidence weight => exact Carried.update (fun _ => rfl) fun _ => rfl
  | replace row targetItemId =>
    exact (Carried.append _ _).trans (Carried.update (fun _ => rfl) fun _ => rfl)
  | expire targetItemId => exact Carried.update (fun _ => rfl) fun _ => rfl

/-- A write that went through taints the store exactly when it is one of those. -/
theorem stableItemsKept_write_iff (hwell : WellFormed db.identityItems) {write : ItemWrite}
    (h : write.run now db = .ok db') :
    StableItemsKept db.identityItems db'.identityItems ↔ ¬ write.Taints db.identityItems := by
  obtain ⟨rfl, hfresh⟩ := ItemWrite.run_eq_ok h
  cases write with
  | add row => exact stableItemsKept_append_iff (hfresh row rfl)
  | reinforce targetItemId confidence weight =>
    refine iff_of_true (StableItemsKept.update (fun _ => rfl) (fun _ => rfl) ?_) id
    intro row hactive
    show row.status ≠ .superseded
    rw [hactive]
    simp
  | weaken targetItemId confidence weight =>
    refine iff_of_true (StableItemsKept.update (fun _ => rfl) (fun _ => rfl) ?_) id
    intro row hactive
    show row.status ≠ .superseded
    rw [hactive]
    simp
  | expire targetItemId =>
    refine iff_of_true (StableItemsKept.update (fun _ => rfl) (fun _ => rfl) ?_) id
    intro row _
    show IdentityItemStatus.expired ≠ .superseded
    simp
  | replace row targetItemId =>
    -- First the new item, then the replacement of the old one.
    have hrow := hfresh row rfl
    obtain ⟨inserted, hinsert, -⟩ := replaceItem_eq_ok h
    have hinserted := hwell.insert hinsert
    rw [(insertIdentityItem_eq_ok hinsert).1] at hinserted
    let stored := ItemWrite.stamped now { row with supersedesItemId := some targetItemId }
    have hadded : StableItemsKept db.identityItems (db.identityItems ++ [stored]) ↔
        row.stabilityClass ≠ .stable := stableItemsKept_append_iff hrow
    have hcarried : Carried (db.identityItems ++ [stored])
        (Table.update (isActiveItem targetItemId) (superseded row.identityItemId now)
          (db.identityItems ++ [stored])) := Carried.update (fun _ => rfl) fun _ => rfl
    show StableItemsKept db.identityItems (Table.update (isActiveItem targetItemId)
      (superseded row.identityItemId now) (db.identityItems ++ [stored])) ↔ _
    rw [stableItemsKept_trans_iff (Carried.append _ _) hcarried, hadded,
      stableItemsKept_superseded_iff hinserted.ids]
    show row.stabilityClass ≠ .stable ∧ _ ↔ ¬ (row.stabilityClass = .stable ∨ _)
    rw [not_or]
    refine and_congr_right fun hnot => ⟨?_, ?_⟩
    · rintro hspared ⟨item, hitem, hwhich, hstable⟩
      exact hspared item (List.mem_append_left _ hitem) hwhich hstable
    · intro hspared item hitem hwhich hstable
      rcases List.mem_append.mp hitem with hold | hlast
      · exact hspared ⟨item, hold, hwhich, hstable⟩
      · obtain rfl := List.mem_singleton.mp hlast
        exact hnot hstable

/-! ## Deltas -/

/-- An item delta that leaves a new stable item. -/
def WritesStable (delta : IdentityItemDelta) : Prop :=
  delta.stabilityClass = .stable ∧
    (delta.operation = .add ∨ delta.operation = .revise ∨ delta.operation = .supersede)

/-- A delta of the self-description that puts another item in the place of a stable one. -/
def ReplacesStable (delta : SelfDescriptionDelta) (db : Database) : Prop :=
  (delta.operation = .revise ∨ delta.operation = .supersede) ∧
    ∃ item, ((selfDescriptionTarget db).bind fun id => getActiveIdentityItem id db) = some item ∧
      item.stabilityClass = .stable

/-- The control turns down whatever would replace a stable item, so that a delta that passes
it taints the store by the item it leaves. -/
theorem deltaWrite_taints_iff {tables : Text.Tables} (hwell : WellFormed db.identityItems)
    {delta : IdentityItemDelta} {identityItemId itemId : Uuid} {write : ItemWrite}
    (hcontrol : identityDeltaControlRejection tables delta db = none)
    (hwrite : deltaWrite context proposal delta identityItemId db = some (write, itemId)) :
    write.Taints db.identityItems ↔ WritesStable delta := by
  have hspares : ∀ row targetItemId, write = .replace row targetItemId →
      ¬ ∃ item ∈ db.identityItems, isActiveItem targetItemId item = true ∧
        item.stabilityClass = .stable := by
    rintro row targetItemId rfl ⟨item, hitem, hwhich, hstable⟩
    simp only [isActiveItem, Bool.and_eq_true, decide_eq_true_eq] at hwhich
    have hcore : isProtected item = true := by simp [isProtected, hstable]
    exact deltaWrite_spares hwell hitem hwhich.2 hcore hcontrol hwrite hwhich.1.symm
  unfold deltaWrite at hwrite
  cases hoperation : delta.operation <;> simp only [hoperation, Option.map_eq_some_iff,
    Prod.mk.injEq, Option.some.injEq] at hwrite
  case add =>
    obtain ⟨rfl, -⟩ := hwrite
    simp [ItemWrite.Taints, WritesStable, hoperation, identityItemFromDelta]
  all_goals
    obtain ⟨targetItemId, -, rfl, -⟩ := hwrite
  case revise =>
    have hspared := hspares _ _ rfl
    simp [ItemWrite.Taints, WritesStable, hoperation, identityItemFromDelta, hspared]
  case supersede =>
    have hspared := hspares _ _ rfl
    simp [ItemWrite.Taints, WritesStable, hoperation, identityItemFromDelta, hspared]
  all_goals simp [ItemWrite.Taints, WritesStable, hoperation]

/-- The self-description itself is an evolving item. -/
theorem selfDescriptionWrite_taints_iff (hwell : WellFormed db.identityItems)
    {delta : SelfDescriptionDelta} {identityItemId itemId : Uuid} {write : ItemWrite}
    (hwrite : selfDescriptionWrite context proposal delta identityItemId db =
      some (write, itemId)) :
    write.Taints db.identityItems ↔ ReplacesStable delta db := by
  have htarget : ∀ targetItemId, selfDescriptionTarget db = some targetItemId →
      ((∃ item ∈ db.identityItems, isActiveItem targetItemId item = true ∧
          item.stabilityClass = .stable) ↔
        ∃ item, ((selfDescriptionTarget db).bind fun id => getActiveIdentityItem id db) =
          some item ∧ item.stabilityClass = .stable) := by
    intro targetItemId htarget
    rw [htarget, Option.bind_some]
    constructor
    · rintro ⟨item, hitem, hwhich, hstable⟩
      simp only [isActiveItem, Bool.and_eq_true, decide_eq_true_eq] at hwhich
      refine ⟨item, ?_, hstable⟩
      rw [← hwhich.1]
      exact getActiveIdentityItem_of_mem hwell hitem hwhich.2
    · rintro ⟨item, hfound, hstable⟩
      exact ⟨item, List.mem_of_find?_eq_some hfound, List.find?_some hfound, hstable⟩
  unfold selfDescriptionWrite at hwrite
  cases hoperation : delta.operation <;> simp only [hoperation, Option.map_eq_some_iff,
    Prod.mk.injEq, Option.some.injEq] at hwrite
  case add =>
    obtain ⟨rfl, -⟩ := hwrite
    simp [ItemWrite.Taints, ReplacesStable, hoperation, selfDescriptionItemFromDelta]
  all_goals
    obtain ⟨targetItemId, hresolve, rfl, -⟩ := hwrite
  case revise =>
    simp [ItemWrite.Taints, ReplacesStable, hoperation, selfDescriptionItemFromDelta,
      htarget _ hresolve]
  case supersede =>
    simp [ItemWrite.Taints, ReplacesStable, hoperation, selfDescriptionItemFromDelta,
      htarget _ hresolve]
  all_goals simp [ItemWrite.Taints, ReplacesStable, hoperation]

end Writes

/-! ## The deltas of a proposal -/

section Merging

variable {tables : Text.Tables} {context : ProposalProcessingContext}
  {proposal : CanonicalProposal} {payload : IdentityDeltaProposal} {now : DateTime}
  {db db' : Database}

theorem applyItemDeltas_carried {deltas : List (IdentityItemDelta × Uuid)} {left : List Uuid}
    (h : applyItemDeltas tables context proposal now deltas db = .ok (.ok left, db')) :
    Carried db.identityItems db'.identityItems := by
  have hstart : Carried db.identityItems db.identityItems := Carried.refl _
  refine applyItemDeltas_keep
    (J := fun between => Carried db.identityItems between.identityItems) ?_ hstart h
  intro delta identityItemId itemId between after hcarried happly
  obtain ⟨-, write, -, hrun⟩ := applyIdentityItemDelta_accepted happly
  exact hcarried.trans (Carried.write hrun)

theorem WellFormed.itemDeltas (hwell : WellFormed db.identityItems)
    {deltas : List (IdentityItemDelta × Uuid)} {left : List Uuid}
    (h : applyItemDeltas tables context proposal now deltas db = .ok (.ok left, db')) :
    WellFormed db'.identityItems := by
  refine applyItemDeltas_keep (J := fun between => WellFormed between.identityItems) ?_ hwell h
  intro delta identityItemId itemId between after hbetween happly
  exact hbetween.itemDelta happly

/-- The item deltas of a proposal taint the store when one of them leaves a stable item. -/
theorem applyItemDeltas_untainted_iff (hwell : WellFormed db.identityItems)
    {deltas : List (IdentityItemDelta × Uuid)} {left : List Uuid}
    (h : applyItemDeltas tables context proposal now deltas db = .ok (.ok left, db')) :
    StableItemsKept db.identityItems db'.identityItems ↔
      ∀ delta ∈ deltas, ¬ WritesStable delta.1 := by
  induction deltas generalizing db left with
  | nil =>
    rw [applyItemDeltas_nil h]
    exact iff_of_true (StableItemsKept.refl _) (by simp)
  | cons first rest ih =>
    obtain ⟨delta, identityItemId⟩ := first
    obtain ⟨itemId, between, left', hfirst, hrest⟩ := applyItemDeltas_cons h
    obtain ⟨hcontrol, write, hwrite, hrun⟩ := applyIdentityItemDelta_accepted hfirst
    rw [stableItemsKept_trans_iff (Carried.write hrun) (applyItemDeltas_carried hrest),
      stableItemsKept_write_iff hwell hrun, deltaWrite_taints_iff hwell hcontrol hwrite,
      ih (hwell.itemDelta hfirst) hrest, List.forall_mem_cons]

/-- The deltas of a proposal leave the stable items of a store as they are. -/
def DeltasUntainted (tables : Text.Tables) (context : ProposalProcessingContext)
    (proposal : CanonicalProposal) (payload : IdentityDeltaProposal) (itemIds : List Uuid)
    (now : DateTime) (db : Database) : Prop :=
  (∀ delta ∈ payload.itemDeltas, ¬ WritesStable delta) ∧
    ∀ left between, applyItemDeltas tables context proposal now (payload.itemDeltas.zip itemIds)
        db = .ok (.ok left, between) →
      ∀ delta, payload.selfDescriptionDelta = some delta → ¬ ReplacesStable delta between

/-- Deltas that go through keep the stable items exactly if none of them writes a stable item. -/
theorem applyDeltas_untainted_iff (hwell : WellFormed db.identityItems)
    {itemIds left : List Uuid} {selfDescriptionId : Uuid}
    (hlength : itemIds.length = payload.itemDeltas.length)
    (h : applyDeltas tables context proposal payload itemIds selfDescriptionId now db =
      .ok (.ok left, db')) :
    StableItemsKept db.identityItems db'.identityItems ↔
      DeltasUntainted tables context proposal payload itemIds now db := by
  obtain ⟨itemsLeft, between, hitems, hself⟩ := applyDeltas_eq_ok h
  have hfirst : StableItemsKept db.identityItems between.identityItems ↔
      ∀ delta ∈ payload.itemDeltas, ¬ WritesStable delta := by
    have hdeltas : (payload.itemDeltas.zip itemIds).map Prod.fst = payload.itemDeltas :=
      List.map_fst_zip hlength.ge
    rw [applyItemDeltas_untainted_iff hwell hitems]
    conv_rhs => rw [← hdeltas]
    rw [List.forall_mem_map]
  have hread : ∀ left' between', applyItemDeltas tables context proposal now
      (payload.itemDeltas.zip itemIds) db = .ok (.ok left', between') → between' = between := by
    intro left' between' hitems'
    rw [hitems] at hitems'
    exact (Prod.mk.inj (Except.ok.inj hitems')).2.symm
  rcases hself with ⟨hnone, rfl⟩ | ⟨delta, itemId, hdelta, happly⟩
  · rw [hfirst, DeltasUntainted, and_iff_left]
    intro left' between' _ delta hdelta
    rw [hnone] at hdelta
    cases hdelta
  · obtain ⟨write, hwrite, hrun⟩ := applySelfDescriptionDelta_accepted happly
    have hbetween := hwell.itemDeltas hitems
    rw [stableItemsKept_trans_iff (applyItemDeltas_carried hitems) (Carried.write hrun), hfirst,
      stableItemsKept_write_iff hbetween hrun, selfDescriptionWrite_taints_iff hbetween hwrite,
      DeltasUntainted]
    refine and_congr_right fun _ => ⟨?_, ?_⟩
    · intro hnot left' between' hitems' delta' hdelta'
      rw [hdelta] at hdelta'
      obtain rfl := Option.some.inj hdelta'
      rw [hread left' between' hitems']
      exact hnot
    · intro hall
      exact hall itemsLeft between hitems delta hdelta

end Merging

end Identity

end BlueLagoon
