import BlueLagoon.Identity.Writes

/-!
# Writes and the constraints of the items

A write goes through when the row it inserts is in range and the item it says it supersedes
is there. When not, it breaks a `CHECK` or a `FOREIGN KEY` of `identity_items`. The other
writes never do, on a table that keeps its constraints.
-/

namespace BlueLagoon

open Interleaving Harness

/-- The constraint that is named is one of those that are broken. -/
theorem Database.firstBroken_eq_some {conditions : List (Bool × String)} {name : String}
    (h : Database.firstBroken conditions = some name) :
    ∃ condition ∈ conditions, condition.1 = false ∧ condition.2 = name := by
  obtain ⟨condition, hfind, rfl⟩ := Option.map_eq_some_iff.mp h
  refine ⟨condition, List.mem_of_find?_eq_some hfind, ?_, rfl⟩
  simpa using List.find?_some hfind

namespace Identity

/-- The `CHECK` and `FOREIGN KEY` constraints of `identity_items`. -/
def itemConstraints : List String :=
  ["identity_items_check", "identity_items_check1", "identity_items_check2",
   "identity_items_confidence_check", "identity_items_weight_check",
   "identity_items_proposal_id_fkey", "identity_items_supersedes_item_id_fkey",
   "identity_items_superseded_by_item_id_fkey"]

/-! ## Tables and writes that keep the constraints -/

/-- The ids of the items. -/
def itemIds (items : List IdentityItemRecord) : List Uuid :=
  items.map IdentityItemRecord.identityItemId

/-- The items keep their constraints, and those that were replaced name their successors. -/
structure Stored (items : List IdentityItemRecord) : Prop extends WellFormed items where
  successors : ∀ item ∈ items, ∀ id, item.supersededByItemId = some id → id ∈ itemIds items

/-- A row whose confidence is a percentage, and that does not end before it starts. -/
structure InRange (row : IdentityItemRecord) : Prop where
  confidence : row.confidence ≤ 100
  validity : Proposal.endsBeforeItStarts row.validFrom row.validTo = false

/-- The row refers to an item that is there, if to any. -/
def SupersedesOneOf (items : List IdentityItemRecord) (row : IdentityItemRecord) : Prop :=
  ∀ id, row.supersedesItemId = some id → id ∈ itemIds items

/-- What decides whether a write goes through. A replacement is given the item it supersedes. -/
def ItemWrite.Fits (items : List IdentityItemRecord) : ItemWrite → Prop
  | .add row => InRange row ∧ SupersedesOneOf items row
  | .replace row _ => InRange row
  | .reinforce _ _ _ | .weaken _ _ _ | .expire _ => True

/-- A row that a proposal inserts under a fresh id. -/
structure NewRow (proposalId identityItemId : Uuid) (row : IdentityItemRecord) : Prop where
  id : row.identityItemId = identityItemId
  proposal : row.proposalId = some proposalId
  current : row.supersededByItemId = none
  weight : ∀ weight, row.weight = some weight → weight ≤ 100

/-- A write that the deltas of a proposal make, with an id for a new item. -/
def ItemWrite.Prepared (proposalId identityItemId : Uuid) (items : List IdentityItemRecord) :
    ItemWrite → Prop
  | .add row => NewRow proposalId identityItemId row
  | .replace row targetItemId =>
    NewRow proposalId identityItemId row ∧ targetItemId ∈ itemIds items
  | .reinforce _ _ weight => ∀ w, weight = some w → w ≤ 100
  | .weaken _ _ _ | .expire _ => True

section Statements

variable {db db' : Database} {row : IdentityItemRecord} {proposalId identityItemId : Uuid}

theorem mem_itemIds {items : List IdentityItemRecord} {id : Uuid} :
    id ∈ itemIds items ↔ ∃ item ∈ items, item.identityItemId = id := List.mem_map

theorem hasIdentityItem_iff {id : Option Uuid} :
    db.hasIdentityItem id = true ↔ ∀ i, id = some i → i ∈ itemIds db.identityItems := by
  cases id with
  | none => simp [Database.hasIdentityItem]
  | some i =>
    rw [Database.hasIdentityItem, Option.all_some, List.any_eq_true]
    simp only [decide_eq_true_eq, Option.some.injEq, forall_eq', mem_itemIds]

/-- The check on the validity of a row. -/
theorem validity_check {validFrom validTo : Option DateTime} :
    (validTo.all fun finish => validFrom.all fun start => decide (start ≤ finish)) = true ↔
      Proposal.endsBeforeItStarts validFrom validTo = false := by
  cases validFrom <;> cases validTo <;> simp [Proposal.endsBeforeItStarts]

/-- The checks of an item, one by one. -/
theorem identityItemChecks_iff :
    (∀ check ∈ Database.identityItemChecks row, check.1 = true) ↔
      row.supersededByItemId ≠ some row.identityItemId ∧
        row.supersedesItemId ≠ some row.identityItemId ∧ InRange row ∧
        ∀ weight, row.weight = some weight → weight ≤ 100 := by
  have hweight : (row.weight.all fun weight => decide (weight ≤ 100)) = true ↔
      ∀ weight, row.weight = some weight → weight ≤ 100 := by
    cases row.weight <;> simp
  simp only [Database.identityItemChecks, List.forall_mem_cons, List.not_mem_nil,
    false_implies, implies_true, and_true, validity_check, hweight, decide_eq_true_eq]
  constructor
  · rintro ⟨hsuccessor, hself, hvalidity, hconfidence, hweight⟩
    exact ⟨hsuccessor, hself, ⟨hconfidence, hvalidity⟩, hweight⟩
  · rintro ⟨hsuccessor, hself, ⟨hconfidence, hvalidity⟩, hweight⟩
    exact ⟨hsuccessor, hself, hvalidity, hconfidence, hweight⟩

/-- An insertion that fits goes through. -/
theorem insertIdentityItem_of_fits (now : DateTime) (hnew : NewRow proposalId identityItemId row)
    (hproposal : db.hasProposal (some proposalId) = true)
    (hfresh : identityItemId ∉ itemIds db.identityItems) (hrange : InRange row)
    (hsupersedes : SupersedesOneOf db.identityItems row) :
    insertIdentityItem row now db =
      .ok { db with identityItems := db.identityItems ++ [ItemWrite.stamped now row] } := by
  have hself : row.supersedesItemId ≠ some row.identityItemId := by
    intro hself
    have hmem := hsupersedes _ hself
    rw [hnew.id] at hmem
    exact hfresh hmem
  have hchecks : ∀ check ∈ Database.identityItemChecks row, check.1 = true := by
    refine identityItemChecks_iff.mpr ⟨?_, hself, hrange, hnew.weight⟩
    rw [hnew.current]
    rintro ⟨⟩
  have hkey : (db.identityItems.all fun other =>
      decide (other.identityItemId ≠ row.identityItemId)) = true := by
    refine List.all_eq_true.mpr fun other hother => decide_eq_true fun heq => hfresh ?_
    rw [← hnew.id, ← heq]
    exact List.mem_map_of_mem hother
  refine checked_eq_ok.mpr ⟨?_, rfl⟩
  rw [Database.identityItemViolation, Database.firstBroken_eq_none]
  intro condition hcondition
  rcases List.mem_append.mp hcondition with hcheck | hkeys
  · exact hchecks condition hcheck
  · simp only [List.mem_cons, List.not_mem_nil, or_false] at hkeys
    rcases hkeys with rfl | rfl | rfl | rfl
    · exact hkey
    · rw [hnew.proposal]
      exact hproposal
    · exact hasIdentityItem_iff.mpr hsupersedes
    · rw [hnew.current]
      rfl

/-- An insertion that does not fit breaks a constraint. -/
theorem insertIdentityItem_breaks (row : IdentityItemRecord) (now : DateTime)
    (hid : row.identityItemId ∉ itemIds db.identityItems)
    (h : ¬ (InRange row ∧ SupersedesOneOf db.identityItems row)) :
    ∃ constraint ∈ itemConstraints, insertIdentityItem row now db = .error [constraint] := by
  cases hviolation : db.identityItemViolation row with
  | none =>
    rw [Database.identityItemViolation, Database.firstBroken_eq_none] at hviolation
    have hchecks := identityItemChecks_iff.mp fun check hcheck =>
      hviolation check (List.mem_append_left _ hcheck)
    have hsupersedes := hviolation
      (db.hasIdentityItem row.supersedesItemId, "identity_items_supersedes_item_id_fkey")
      (List.mem_append_right _ (by simp))
    exact absurd ⟨hchecks.2.2.1, hasIdentityItem_iff.mp hsupersedes⟩ h
  | some constraint =>
    refine ⟨constraint, ?_, checked_eq_error.mpr ⟨constraint, hviolation, rfl⟩⟩
    obtain ⟨condition, hmem, hbroken, rfl⟩ := Database.firstBroken_eq_some hviolation
    rcases List.mem_append.mp hmem with hcheck | hkeys
    · simp only [Database.identityItemChecks, List.mem_cons, List.not_mem_nil, or_false] at hcheck
      rcases hcheck with rfl | rfl | rfl | rfl | rfl <;> simp [itemConstraints]
    · simp only [List.mem_cons, List.not_mem_nil, or_false] at hkeys
      rcases hkeys with rfl | rfl | rfl | rfl
      · -- The key is fresh.
        obtain ⟨other, hother, heq⟩ := List.all_eq_false.mp hbroken
        refine absurd (mem_itemIds.mpr ⟨other, hother, ?_⟩) hid
        simpa using heq
      all_goals simp [itemConstraints]

/-- A change that keeps the checks and names a successor that is there goes through. -/
theorem updateActiveItem_of_checks {targetItemId : Uuid}
    {change : IdentityItemRecord → IdentityItemRecord}
    (hchecks : ∀ item ∈ db.identityItems, getActiveIdentityItem targetItemId db = some item →
      (∀ check ∈ Database.identityItemChecks (change item), check.1 = true) ∧
        db.hasIdentityItem (change item).supersededByItemId = true) :
    updateActiveItem targetItemId change db =
      .ok { db with
        identityItems := Table.update (isActiveItem targetItemId) change db.identityItems } := by
  refine checked_eq_ok.mpr ⟨?_, rfl⟩
  cases hget : getActiveIdentityItem targetItemId db with
  | none => rfl
  | some item =>
    obtain ⟨hitem, hsuccessor⟩ := hchecks item (List.mem_of_find?_eq_some hget) hget
    rw [Option.bind_some, Database.identityItemChangeViolation, Database.firstBroken_eq_none]
    intro condition hcondition
    rcases List.mem_append.mp hcondition with hcheck | hlast
    · exact hitem condition hcheck
    · rw [List.mem_singleton.mp hlast]
      exact hsuccessor

end Statements

/-! ## Writes -/

section Writes

variable {db db' : Database} {proposalId identityItemId : Uuid} {now : DateTime}
  {write : ItemWrite}

/-- A change that keeps the range, the references and the weight of an item keeps its checks. -/
theorem Stored.change (hstored : Stored db.identityItems) {targetItemId : Uuid}
    {change : IdentityItemRecord → IdentityItemRecord}
    (hid : ∀ item, (change item).identityItemId = item.identityItemId)
    (hsuccessor : ∀ item, (change item).supersededByItemId = item.supersededByItemId)
    (hsupersedes : ∀ item, (change item).supersedesItemId = item.supersedesItemId)
    (hrange : ∀ item, InRange item → InRange (change item))
    (hweight : ∀ item, (∀ weight, item.weight = some weight → weight ≤ 100) →
      ∀ weight, (change item).weight = some weight → weight ≤ 100) :
    updateActiveItem targetItemId change db =
      .ok { db with
        identityItems := Table.update (isActiveItem targetItemId) change db.identityItems } := by
  refine updateActiveItem_of_checks fun item hitem _ => ?_
  obtain ⟨hcurrent, hself, hinrange, hw⟩ :=
    identityItemChecks_iff.mp (hstored.checks item hitem)
  refine ⟨identityItemChecks_iff.mpr ⟨?_, ?_, hrange item hinrange, hweight item hw⟩, ?_⟩
  · rwa [hsuccessor, hid]
  · rwa [hsupersedes, hid]
  · rw [hsuccessor]
    exact hasIdentityItem_iff.mpr fun i hi => hstored.successors item hitem i hi

theorem reinforced_weight {confidence : Nat} {weight : Option Nat}
    (hweight : ∀ w, weight = some w → w ≤ 100) (item : IdentityItemRecord)
    (hitem : ∀ w, item.weight = some w → w ≤ 100) :
    ∀ w, (reinforced confidence weight now item).weight = some w → w ≤ 100 := by
  intro w hw
  unfold reinforced at hw
  split at hw
  · exact hitem w hw
  · obtain rfl := Option.some.inj hw
    exact hweight _ rfl
  · obtain rfl := Option.some.inj hw
    exact Nat.min_le_left _ _

theorem weakened_weight {confidence : Nat} {weight : Option Nat} (item : IdentityItemRecord)
    (hitem : ∀ w, item.weight = some w → w ≤ 100) :
    ∀ w, (weakened confidence weight now item).weight = some w → w ≤ 100 := by
  intro w hw
  unfold weakened at hw
  split at hw
  · rename_i less stored hstored
    obtain rfl := Option.some.inj hw
    exact (Nat.sub_le stored less).trans (hitem stored hstored)
  · exact hitem w hw

theorem expired_inRange {item : IdentityItemRecord} (h : InRange item) :
    InRange (expired now item) := by
  refine ⟨h.confidence, ?_⟩
  have hvalidity := h.validity
  unfold expired
  dsimp only
  split
  · rename_i finish hfinish
    rw [← hfinish]
    exact hvalidity
  · rename_i start _ hstart
    rw [hstart]
    exact decide_eq_false (not_lt.mpr (le_max_left start now))
  · rename_i hstart
    rw [hstart]
    rfl

/-- What a replacement inserts, before the item it takes the place of is changed. -/
theorem replaceItem_of_fits {row : IdentityItemRecord} {targetItemId : Uuid}
    (hstored : Stored db.identityItems) (hnew : NewRow proposalId identityItemId row)
    (htarget : targetItemId ∈ itemIds db.identityItems)
    (hproposal : db.hasProposal (some proposalId) = true)
    (hfresh : identityItemId ∉ itemIds db.identityItems) (hrange : InRange row) :
    replaceItem row targetItemId now db =
      .ok { db with
        identityItems := (ItemWrite.replace row targetItemId).rows now db.identityItems } := by
  have hnew' : NewRow proposalId identityItemId { row with supersedesItemId := some targetItemId } :=
    ⟨hnew.id, hnew.proposal, hnew.current, hnew.weight⟩
  have hinsert := insertIdentityItem_of_fits now hnew' hproposal hfresh
    ⟨hrange.confidence, hrange.validity⟩ fun id hid => by
      obtain rfl := Option.some.inj hid
      exact htarget
  unfold replaceItem
  rw [hinsert]
  refine updateActiveItem_of_checks fun item hitem hget => ?_
  have hactive := List.find?_some hget
  simp only [isActiveItem, Bool.and_eq_true, decide_eq_true_eq] at hactive
  -- The target is one of the items of before.
  have hold : item ∈ db.identityItems := by
    rcases List.mem_append.mp hitem with hold | hlast
    · exact hold
    · have hself : item.identityItemId = identityItemId := by
        rw [List.mem_singleton.mp hlast]
        exact hnew.id
      rw [← hactive.1, hself] at htarget
      exact absurd htarget hfresh
  have hne : row.identityItemId ≠ item.identityItemId := by
    intro heq
    rw [hnew.id] at heq
    exact hfresh (mem_itemIds.mpr ⟨item, hold, heq.symm⟩)
  obtain ⟨-, hself, hinrange, hweight⟩ := identityItemChecks_iff.mp (hstored.checks item hold)
  refine ⟨identityItemChecks_iff.mpr
    ⟨fun hsuccessor => hne (Option.some.inj hsuccessor), hself,
      ⟨hinrange.confidence, hinrange.validity⟩, hweight⟩, ?_⟩
  refine hasIdentityItem_iff.mpr fun i hi => ?_
  obtain rfl := Option.some.inj hi
  exact mem_itemIds.mpr ⟨_, List.mem_append_right _ List.mem_cons_self, rfl⟩

/-- A write that fits goes through. -/
theorem ItemWrite.run_of_fits (now : DateTime) (hstored : Stored db.identityItems)
    (hprepared : write.Prepared proposalId identityItemId db.identityItems)
    (hproposal : db.hasProposal (some proposalId) = true)
    (hfresh : identityItemId ∉ itemIds db.identityItems) (hfits : write.Fits db.identityItems) :
    write.run now db = .ok { db with identityItems := write.rows now db.identityItems } := by
  cases write with
  | add row => exact insertIdentityItem_of_fits now hprepared hproposal hfresh hfits.1 hfits.2
  | replace row targetItemId =>
    exact replaceItem_of_fits hstored hprepared.1 hprepared.2 hproposal hfresh hfits
  | reinforce targetItemId confidence weight =>
    refine hstored.change (fun _ => rfl) (fun _ => rfl) (fun _ => rfl) (fun item hitem => ?_)
      (reinforced_weight hprepared)
    exact ⟨Nat.min_le_left _ _, hitem.validity⟩
  | weaken targetItemId confidence weight =>
    refine hstored.change (fun _ => rfl) (fun _ => rfl) (fun _ => rfl) (fun item hitem => ?_)
      weakened_weight
    exact ⟨(Nat.sub_le item.confidence confidence).trans hitem.confidence, hitem.validity⟩
  | expire targetItemId =>
    exact hstored.change (fun _ => rfl) (fun _ => rfl) (fun _ => rfl)
      (fun item hitem => expired_inRange hitem) fun _ hitem => hitem

/-- A write that does not fit breaks a constraint. -/
theorem ItemWrite.run_breaks (now : DateTime)
    (hprepared : write.Prepared proposalId identityItemId db.identityItems)
    (hfresh : identityItemId ∉ itemIds db.identityItems) (hnot : ¬ write.Fits db.identityItems) :
    ∃ constraint ∈ itemConstraints, write.run now db = .error [constraint] := by
  cases write with
  | add row =>
    refine insertIdentityItem_breaks row now ?_ hnot
    rwa [hprepared.id]
  | replace row targetItemId =>
    have hid : row.identityItemId ∉ itemIds db.identityItems := by
      rwa [hprepared.1.id]
    obtain ⟨constraint, hmem, hinsert⟩ := insertIdentityItem_breaks
      { row with supersedesItemId := some targetItemId } now hid
      fun h => hnot ⟨h.1.confidence, h.1.validity⟩
    refine ⟨constraint, hmem, ?_⟩
    show replaceItem row targetItemId now db = _
    unfold replaceItem
    rw [hinsert]
    rfl
  | reinforce targetItemId confidence weight => exact absurd trivial hnot
  | weaken targetItemId confidence weight => exact absurd trivial hnot
  | expire targetItemId => exact absurd trivial hnot

theorem itemIds_update (targetItemId : Uuid) (change : IdentityItemRecord → IdentityItemRecord)
    (hid : ∀ item, (change item).identityItemId = item.identityItemId)
    (items : List IdentityItemRecord) :
    itemIds (Table.update (isActiveItem targetItemId) change items) = itemIds items :=
  Table.map_key_update hid

/-- The ids after a write. -/
theorem itemIds_rows (write : ItemWrite) (now : DateTime) (items : List IdentityItemRecord) :
    itemIds (write.rows now items) =
      itemIds items ++ write.inserted.toList.map IdentityItemRecord.identityItemId := by
  cases write with
  | add row => exact List.map_append
  | replace row targetItemId =>
    refine (itemIds_update targetItemId (superseded row.identityItemId now) (fun _ => rfl) _).trans ?_
    exact List.map_append
  | reinforce targetItemId confidence weight =>
    refine (itemIds_update targetItemId (reinforced confidence weight now) (fun _ => rfl) _).trans ?_
    exact (List.append_nil _).symm
  | weaken targetItemId confidence weight =>
    refine (itemIds_update targetItemId (weakened confidence weight now) (fun _ => rfl) _).trans ?_
    exact (List.append_nil _).symm
  | expire targetItemId =>
    refine (itemIds_update targetItemId (expired now) (fun _ => rfl) _).trans ?_
    exact (List.append_nil _).symm

theorem mem_itemIds_rows {items : List IdentityItemRecord} {id : Uuid}
    (hprepared : write.Prepared proposalId identityItemId items)
    (hid : id ∈ itemIds (write.rows now items)) : id ∈ itemIds items ∨ id = identityItemId := by
  rw [itemIds_rows] at hid
  refine (List.mem_append.mp hid).imp_right fun hnew => ?_
  cases write with
  | add row =>
    rw [List.mem_singleton.mp hnew]
    exact hprepared.id
  | replace row targetItemId =>
    rw [List.mem_singleton.mp hnew]
    exact hprepared.1.id
  | reinforce targetItemId confidence weight => cases hnew
  | weaken targetItemId confidence weight => cases hnew
  | expire targetItemId => cases hnew

/-- A write that goes through keeps the constraints of the items. -/
theorem Stored.written (hstored : Stored db.identityItems)
    (hprepared : write.Prepared proposalId identityItemId db.identityItems)
    (h : write.run now db = .ok db') : Stored db'.identityItems := by
  have hwell := hstored.toWellFormed.write h
  obtain ⟨rfl, -⟩ := ItemWrite.run_eq_ok h
  have hkept : itemIds db.identityItems ⊆ itemIds (write.rows now db.identityItems) := by
    rw [itemIds_rows]
    exact List.subset_append_left _ _
  refine ⟨hwell, fun item hitem id hid => ?_⟩
  cases write with
  | add row =>
    rcases List.mem_append.mp hitem with hold | hlast
    · exact hkept (hstored.successors item hold id hid)
    · rw [List.mem_singleton.mp hlast] at hid
      have hcurrent := hprepared.current
      rw [show row.supersededByItemId = some id from hid] at hcurrent
      cases hcurrent
  | replace row targetItemId =>
    rcases Table.mem_update.mp hitem with ⟨hmem, -⟩ | ⟨old, hmem, -, rfl⟩
    · rcases List.mem_append.mp hmem with hold | hlast
      · exact hkept (hstored.successors item hold id hid)
      · rw [List.mem_singleton.mp hlast] at hid
        have hcurrent := hprepared.1.current
        rw [show row.supersededByItemId = some id from hid] at hcurrent
        cases hcurrent
    · -- The successor is the row that was inserted.
      obtain rfl := Option.some.inj hid
      show row.identityItemId ∈ itemIds ((ItemWrite.replace row targetItemId).rows _ _)
      rw [itemIds_rows]
      exact List.mem_append_right _ List.mem_cons_self
  | reinforce targetItemId confidence weight =>
    rcases Table.mem_update.mp hitem with ⟨hmem, -⟩ | ⟨old, hmem, -, rfl⟩
    · exact hkept (hstored.successors item hmem id hid)
    · exact hkept (hstored.successors old hmem id hid)
  | weaken targetItemId confidence weight =>
    rcases Table.mem_update.mp hitem with ⟨hmem, -⟩ | ⟨old, hmem, -, rfl⟩
    · exact hkept (hstored.successors item hmem id hid)
    · exact hkept (hstored.successors old hmem id hid)
  | expire targetItemId =>
    rcases Table.mem_update.mp hitem with ⟨hmem, -⟩ | ⟨old, hmem, -, rfl⟩
    · exact hkept (hstored.successors item hmem id hid)
    · exact hkept (hstored.successors old hmem id hid)

end Writes

end Identity

end BlueLagoon
