import BlueLagoon.Identity.Merge

/-!
# What merges write into the items

However a delta came about, it goes through as one of five writes. This module says which
write a delta is, what each write does to the items, and that every write leaves a table
whose ids are unique and whose rows pass their checks. The programs write the items in
three transactions: the merge of deltas, the completion of an interview, and the reset.
-/

namespace BlueLagoon

open Interleaving Harness

namespace Identity

/-- What a delta that goes through does to the items. -/
inductive ItemWrite
  | add (row : IdentityItemRecord)
  | reinforce (targetItemId : Uuid) (confidence : Nat) (weight : Option Nat)
  | weaken (targetItemId : Uuid) (confidence : Nat) (weight : Option Nat)
  | replace (row : IdentityItemRecord) (targetItemId : Uuid)
  | expire (targetItemId : Uuid)

namespace ItemWrite

def run (now : DateTime) (db : Database) : ItemWrite → Except ErrorChain Database
  | add row => insertIdentityItem row now db
  | reinforce targetItemId confidence weight =>
    updateActiveItem targetItemId (reinforced confidence weight now) db
  | weaken targetItemId confidence weight =>
    updateActiveItem targetItemId (weakened confidence weight now) db
  | replace row targetItemId => replaceItem row targetItemId now db
  | expire targetItemId => updateActiveItem targetItemId (expired now) db

/-- The row as it is stored. -/
def stamped (now : DateTime) (row : IdentityItemRecord) : IdentityItemRecord :=
  { row with createdAt := now, updatedAt := now }

/-- The items after a write that went through. -/
def rows (now : DateTime) (items : List IdentityItemRecord) : ItemWrite → List IdentityItemRecord
  | add row => items ++ [stamped now row]
  | reinforce targetItemId confidence weight =>
    Table.update (isActiveItem targetItemId) (reinforced confidence weight now) items
  | weaken targetItemId confidence weight =>
    Table.update (isActiveItem targetItemId) (weakened confidence weight now) items
  | replace row targetItemId =>
    Table.update (isActiveItem targetItemId) (superseded row.identityItemId now)
      (items ++ [stamped now { row with supersedesItemId := some targetItemId }])
  | expire targetItemId => Table.update (isActiveItem targetItemId) (expired now) items

/-- The row a write inserts. -/
def inserted : ItemWrite → Option IdentityItemRecord
  | add row | replace row _ => some row
  | reinforce _ _ _ | weaken _ _ _ | expire _ => none

end ItemWrite

/-! ## Which write a delta is -/

/-- The write of an item delta, with the item it leaves; none when it finds no target. -/
def deltaWrite (context : ProposalProcessingContext) (proposal : CanonicalProposal)
    (delta : IdentityItemDelta) (identityItemId : Uuid) (db : Database) :
    Option (ItemWrite × Uuid) :=
  let row := identityItemFromDelta context proposal delta identityItemId
  match delta.operation with
  | .add => some (.add row, identityItemId)
  | .reinforce => (resolveIdentityDeltaTarget delta db).map fun targetItemId =>
    (.reinforce targetItemId delta.confidencePct.toNat (delta.weightPct.map UInt8.toNat),
      targetItemId)
  | .weaken => (resolveIdentityDeltaTarget delta db).map fun targetItemId =>
    (.weaken targetItemId delta.confidencePct.toNat (delta.weightPct.map UInt8.toNat),
      targetItemId)
  | .revise | .supersede => (resolveIdentityDeltaTarget delta db).map fun targetItemId =>
    (.replace row targetItemId, identityItemId)
  | .expire => (resolveIdentityDeltaTarget delta db).map fun targetItemId =>
    (.expire targetItemId, targetItemId)

/-- The write of a delta of the self-description. -/
def selfDescriptionWrite (context : ProposalProcessingContext) (proposal : CanonicalProposal)
    (delta : SelfDescriptionDelta) (identityItemId : Uuid) (db : Database) :
    Option (ItemWrite × Uuid) :=
  match delta.operation with
  | .add =>
    some (.add (selfDescriptionItemFromDelta context proposal delta identityItemId none),
      identityItemId)
  | .reinforce => (selfDescriptionTarget db).map fun targetItemId =>
    (.reinforce targetItemId proposal.confidencePct.toNat (some 80), targetItemId)
  | .weaken => (selfDescriptionTarget db).map fun targetItemId =>
    (.weaken targetItemId proposal.confidencePct.toNat (some 20), targetItemId)
  | .revise | .supersede => (selfDescriptionTarget db).map fun targetItemId =>
    (.replace (selfDescriptionItemFromDelta context proposal delta identityItemId
      (some targetItemId)) targetItemId, identityItemId)
  | .expire => (selfDescriptionTarget db).map fun targetItemId =>
    (.expire targetItemId, targetItemId)

/-- A delta goes through as its write, or is turned down for want of its target. -/
def applyWrite (missing : String) (write : Option (ItemWrite × Uuid)) (now : DateTime)
    (db : Database) : Except ErrorChain (IdentityDeltaMergeOutcome × Database) :=
  match write with
  | none => .ok (.rejected missing, db)
  | some (write, itemId) => (write.run now db).map (acceptedWith itemId)

section Delta

variable {tables : Text.Tables} {context : ProposalProcessingContext}
  {proposal : CanonicalProposal} {delta : IdentityItemDelta} {identityItemId : Uuid}
  {now : DateTime} {db db' : Database}

theorem writeIdentityItemDelta_eq (context : ProposalProcessingContext)
    (proposal : CanonicalProposal) (delta : IdentityItemDelta) (identityItemId : Uuid)
    (now : DateTime) (db : Database) :
    ∃ missing, writeIdentityItemDelta context proposal delta identityItemId now db =
      applyWrite missing (deltaWrite context proposal delta identityItemId db) now db := by
  unfold writeIdentityItemDelta deltaWrite
  cases delta.operation <;> cases resolveIdentityDeltaTarget delta db
  all_goals first | exact ⟨_, rfl⟩ | exact ⟨"", rfl⟩

theorem applySelfDescriptionDelta_eq (context : ProposalProcessingContext)
    (proposal : CanonicalProposal) (delta : SelfDescriptionDelta) (identityItemId : Uuid)
    (now : DateTime) (db : Database) :
    ∃ missing, applySelfDescriptionDelta context proposal delta identityItemId now db =
      applyWrite missing (selfDescriptionWrite context proposal delta identityItemId db) now db := by
  unfold applySelfDescriptionDelta selfDescriptionWrite
  cases delta.operation <;> cases selfDescriptionTarget db
  all_goals first | exact ⟨_, rfl⟩ | exact ⟨"", rfl⟩

theorem applyWrite_accepted {missing : String} {write : Option (ItemWrite × Uuid)} {itemId : Uuid}
    (h : applyWrite missing write now db = .ok (.accepted itemId, db')) :
    ∃ w, write = some (w, itemId) ∧ w.run now db = .ok db' := by
  rcases write with _ | ⟨w, id⟩
  · cases h
  · simp only [applyWrite] at h
    cases hrun : w.run now db with
    | error e =>
      rw [hrun] at h
      cases h
    | ok written =>
      rw [hrun] at h
      obtain ⟨hid, rfl⟩ := Prod.mk.inj (Except.ok.inj h)
      obtain rfl := IdentityDeltaMergeOutcome.accepted.inj hid
      exact ⟨w, rfl, hrun⟩

/-- An item delta that goes through was not turned down, and is its write. -/
theorem applyIdentityItemDelta_accepted {itemId : Uuid}
    (h : applyIdentityItemDelta tables context proposal delta identityItemId now db =
      .ok (.accepted itemId, db')) :
    identityDeltaControlRejection tables delta db = none ∧
      ∃ write, deltaWrite context proposal delta identityItemId db = some (write, itemId) ∧
        write.run now db = .ok db' := by
  unfold applyIdentityItemDelta at h
  split at h
  · cases h
  · rename_i hcontrol
    obtain ⟨missing, hwrite⟩ :=
      writeIdentityItemDelta_eq context proposal delta identityItemId now db
    rw [hwrite] at h
    exact ⟨hcontrol, applyWrite_accepted h⟩

theorem applySelfDescriptionDelta_accepted {delta : SelfDescriptionDelta} {itemId : Uuid}
    (h : applySelfDescriptionDelta context proposal delta identityItemId now db =
      .ok (.accepted itemId, db')) :
    ∃ write, selfDescriptionWrite context proposal delta identityItemId db = some (write, itemId) ∧
      write.run now db = .ok db' := by
  obtain ⟨missing, hwrite⟩ :=
    applySelfDescriptionDelta_eq context proposal delta identityItemId now db
  rw [hwrite] at h
  exact applyWrite_accepted h

end Delta

/-! ## What a write does to the items -/

/-- The items have ids of their own and pass their checks. -/
structure WellFormed (rows : List IdentityItemRecord) : Prop where
  ids : (rows.map IdentityItemRecord.identityItemId).Nodup
  checks : ∀ row ∈ rows, ∀ check ∈ Database.identityItemChecks row, check.1 = true

section Effect

variable {now : DateTime} {db db' : Database} {row : IdentityItemRecord}

theorem insertIdentityItem_eq_ok (h : insertIdentityItem row now db = .ok db') :
    db' = { db with identityItems := db.identityItems ++ [ItemWrite.stamped now row] } ∧
      (∀ other ∈ db.identityItems, other.identityItemId ≠ row.identityItemId) ∧
      ∀ check ∈ Database.identityItemChecks row, check.1 = true := by
  obtain ⟨hviolation, rfl⟩ := checked_eq_ok.mp h
  rw [Database.identityItemViolation, Database.firstBroken_eq_none] at hviolation
  refine ⟨rfl, ?_, fun check hcheck => hviolation check (List.mem_append_left _ hcheck)⟩
  have hkey := hviolation (_, "identity_items_pkey") (List.mem_append_right _ List.mem_cons_self)
  simpa using hkey

theorem updateActiveItem_eq_ok {targetItemId : Uuid}
    {change : IdentityItemRecord → IdentityItemRecord}
    (h : updateActiveItem targetItemId change db = .ok db') :
    db' = { db with
        identityItems := Table.update (isActiveItem targetItemId) change db.identityItems } ∧
      ∀ item, getActiveIdentityItem targetItemId db = some item →
        ∀ check ∈ Database.identityItemChecks (change item), check.1 = true := by
  obtain ⟨hviolation, rfl⟩ := checked_eq_ok.mp h
  refine ⟨rfl, fun item hitem check hcheck => ?_⟩
  rw [hitem, Option.bind_some, Database.identityItemChangeViolation,
    Database.firstBroken_eq_none] at hviolation
  exact hviolation check (List.mem_append_left _ hcheck)

theorem replaceItem_eq_ok {targetItemId : Uuid}
    (h : replaceItem row targetItemId now db = .ok db') :
    ∃ inserted, insertIdentityItem { row with supersedesItemId := some targetItemId } now db =
        .ok inserted ∧
      updateActiveItem targetItemId (superseded row.identityItemId now) inserted = .ok db' := by
  unfold replaceItem at h
  cases hinsert : insertIdentityItem { row with supersedesItemId := some targetItemId } now db with
  | error e =>
    rw [hinsert] at h
    cases h
  | ok inserted =>
    rw [hinsert] at h
    exact ⟨inserted, rfl, h⟩

theorem ItemWrite.run_eq_ok {write : ItemWrite} (h : write.run now db = .ok db') :
    db' = { db with identityItems := write.rows now db.identityItems } ∧
      ∀ row, write.inserted = some row →
        ∀ other ∈ db.identityItems, other.identityItemId ≠ row.identityItemId := by
  cases write with
  | add row =>
    obtain ⟨rfl, hfresh, -⟩ := insertIdentityItem_eq_ok h
    refine ⟨rfl, fun row' hrow => ?_⟩
    obtain rfl := Option.some.inj hrow
    exact hfresh
  | replace row targetItemId =>
    obtain ⟨inserted, hinsert, hupdate⟩ := replaceItem_eq_ok h
    obtain ⟨rfl, hfresh, -⟩ := insertIdentityItem_eq_ok hinsert
    obtain ⟨rfl, -⟩ := updateActiveItem_eq_ok hupdate
    refine ⟨rfl, fun row' hrow => ?_⟩
    obtain rfl := Option.some.inj hrow
    exact hfresh
  | reinforce targetItemId confidence weight =>
    exact ⟨(updateActiveItem_eq_ok h).1, by rintro row ⟨⟩⟩
  | weaken targetItemId confidence weight =>
    exact ⟨(updateActiveItem_eq_ok h).1, by rintro row ⟨⟩⟩
  | expire targetItemId => exact ⟨(updateActiveItem_eq_ok h).1, by rintro row ⟨⟩⟩

/-- An active item is the one its id resolves to. -/
theorem getActiveIdentityItem_of_mem {item : IdentityItemRecord}
    (hwell : WellFormed db.identityItems) (hmem : item ∈ db.identityItems)
    (hactive : item.status = .active) :
    getActiveIdentityItem item.identityItemId db = some item := by
  have hsome : (getActiveIdentityItem item.identityItemId db).isSome := by
    rw [getActiveIdentityItem, List.find?_isSome]
    exact ⟨item, hmem, by simp [isActiveItem, hactive]⟩
  obtain ⟨found, hfound⟩ := Option.isSome_iff_exists.mp hsome
  have hid : found.identityItemId = item.identityItemId := by
    have hprop := List.find?_some hfound
    simp only [isActiveItem, Bool.and_eq_true, decide_eq_true_eq] at hprop
    exact hprop.1
  rw [hfound, Table.eq_of_mem_of_key hwell.ids (List.mem_of_find?_eq_some hfound) hmem hid]

private theorem ids_append {rows : List IdentityItemRecord} (hwell : WellFormed rows)
    (hfresh : ∀ other ∈ rows, other.identityItemId ≠ row.identityItemId) :
    ((rows ++ [row]).map IdentityItemRecord.identityItemId).Nodup := by
  rw [List.map_append, List.nodup_append]
  refine ⟨hwell.ids, List.nodup_singleton _, ?_⟩
  intro id hid id' hid'
  obtain ⟨other, hother, rfl⟩ := List.mem_map.mp hid
  obtain rfl : id' = row.identityItemId := by simpa using hid'
  exact hfresh other hother

theorem WellFormed.insert (hwell : WellFormed db.identityItems)
    (h : insertIdentityItem row now db = .ok db') : WellFormed db'.identityItems := by
  obtain ⟨rfl, hfresh, hchecks⟩ := insertIdentityItem_eq_ok h
  refine ⟨ids_append hwell hfresh, ?_⟩
  intro other hother
  rcases List.mem_append.mp hother with hold | hlast
  · exact hwell.checks other hold
  · rw [List.mem_singleton.mp hlast]
    exact hchecks

theorem WellFormed.update (hwell : WellFormed db.identityItems) {targetItemId : Uuid}
    {change : IdentityItemRecord → IdentityItemRecord}
    (h : updateActiveItem targetItemId change db = .ok db')
    (key : ∀ item, (change item).identityItemId = item.identityItemId) :
    WellFormed db'.identityItems := by
  obtain ⟨rfl, hchecks⟩ := updateActiveItem_eq_ok h
  refine ⟨?_, ?_⟩
  · rw [Table.map_key_update key]
    exact hwell.ids
  · intro other hother
    rcases Table.mem_update.mp hother with ⟨hmem, -⟩ | ⟨old, hold, hwhich, rfl⟩
    · exact hwell.checks other hmem
    · simp only [isActiveItem, Bool.and_eq_true, decide_eq_true_eq] at hwhich
      refine hchecks old ?_
      rw [← hwhich.1]
      exact getActiveIdentityItem_of_mem hwell hold hwhich.2

theorem WellFormed.write (hwell : WellFormed db.identityItems) {write : ItemWrite}
    (h : write.run now db = .ok db') : WellFormed db'.identityItems := by
  cases write with
  | add row => exact hwell.insert h
  | replace row targetItemId =>
    obtain ⟨inserted, hinsert, hupdate⟩ := replaceItem_eq_ok h
    have hinserted : WellFormed inserted.identityItems := hwell.insert hinsert
    exact hinserted.update hupdate fun _ => rfl
  | reinforce targetItemId confidence weight =>
    have hupdate : updateActiveItem targetItemId _ db = .ok db' := h
    exact hwell.update hupdate fun _ => rfl
  | weaken targetItemId confidence weight =>
    have hupdate : updateActiveItem targetItemId _ db = .ok db' := h
    exact hwell.update hupdate fun _ => rfl
  | expire targetItemId =>
    have hupdate : updateActiveItem targetItemId _ db = .ok db' := h
    exact hwell.update hupdate fun _ => rfl

end Effect

/-! ## The deltas of a proposal -/

section Deltas

variable {tables : Text.Tables} {context : ProposalProcessingContext}
  {proposal : CanonicalProposal} {payload : IdentityDeltaProposal} {now : DateTime}
  {db db' : Database}

theorem applyItemDeltas_nil {itemIds : List Uuid}
    (h : applyItemDeltas tables context proposal now [] db = .ok (.ok itemIds, db')) : db' = db := by
  obtain ⟨-, rfl⟩ := Prod.mk.inj (Except.ok.inj h)
  rfl

/-- Deltas that go through: the first, and then the others. -/
theorem applyItemDeltas_cons {delta : IdentityItemDelta} {identityItemId : Uuid}
    {rest : List (IdentityItemDelta × Uuid)} {itemIds : List Uuid}
    (h : applyItemDeltas tables context proposal now ((delta, identityItemId) :: rest) db =
      .ok (.ok itemIds, db')) :
    ∃ itemId between itemIds',
      applyIdentityItemDelta tables context proposal delta identityItemId now db =
        .ok (.accepted itemId, between) ∧
      applyItemDeltas tables context proposal now rest between = .ok (.ok itemIds', db') := by
  rw [applyItemDeltas] at h
  split at h
  · cases h
  · cases h
  · rename_i itemId between hfirst
    cases hrest : applyItemDeltas tables context proposal now rest between with
    | error e =>
      rw [hrest] at h
      cases h
    | ok result =>
      obtain ⟨outcome, last⟩ := result
      rw [hrest] at h
      obtain ⟨houtcome, rfl⟩ := Prod.mk.inj (Except.ok.inj h)
      cases outcome with
      | error reason => cases houtcome
      | ok itemIds' => exact ⟨itemId, between, itemIds', hfirst, hrest⟩

/-- What every item delta keeps, the deltas of a proposal keep. -/
theorem applyItemDeltas_keep {J : Database → Prop}
    (step : ∀ delta identityItemId itemId db db', J db →
      applyIdentityItemDelta tables context proposal delta identityItemId now db =
        .ok (.accepted itemId, db') → J db')
    {deltas : List (IdentityItemDelta × Uuid)} {itemIds : List Uuid} (hdb : J db)
    (h : applyItemDeltas tables context proposal now deltas db = .ok (.ok itemIds, db')) : J db' := by
  induction deltas generalizing db itemIds with
  | nil =>
    rw [applyItemDeltas_nil h]
    exact hdb
  | cons first rest ih =>
    obtain ⟨itemId, between, itemIds', hfirst, hrest⟩ := applyItemDeltas_cons h
    exact ih (step _ _ _ _ _ hdb hfirst) hrest

/-- The deltas of a proposal that goes through: those of items, then the self-description. -/
theorem applyDeltas_eq_ok {itemIds outcome : List Uuid} {selfDescriptionId : Uuid}
    (h : applyDeltas tables context proposal payload itemIds selfDescriptionId now db =
      .ok (.ok outcome, db')) :
    ∃ itemsLeft between,
      applyItemDeltas tables context proposal now (payload.itemDeltas.zip itemIds) db =
        .ok (.ok itemsLeft, between) ∧
      (payload.selfDescriptionDelta = none ∧ db' = between ∨
        ∃ delta itemId, payload.selfDescriptionDelta = some delta ∧
          applySelfDescriptionDelta context proposal delta selfDescriptionId now between =
            .ok (.accepted itemId, db')) := by
  unfold applyDeltas at h
  split at h
  · rename_i itemsLeft between delta hitems hdelta
    refine ⟨itemsLeft, between, hitems, Or.inr ⟨delta, ?_⟩⟩
    cases hself : applySelfDescriptionDelta context proposal delta selfDescriptionId now between with
    | error e =>
      rw [hself] at h
      cases h
    | ok result =>
      obtain ⟨selfOutcome, last⟩ := result
      rw [hself] at h
      obtain ⟨houtcome, rfl⟩ := Prod.mk.inj (Except.ok.inj h)
      cases selfOutcome with
      | rejected reason => cases houtcome
      | accepted itemId => exact ⟨itemId, hdelta, rfl⟩
  · rename_i hno
    refine ⟨outcome, db', h, Or.inl ⟨?_, rfl⟩⟩
    cases hdelta : payload.selfDescriptionDelta with
    | none => rfl
    | some delta => exact absurd hdelta (hno _ _ _ h)

end Deltas

/-! ## The programs -/

section Programs

variable (tables : Text.Tables) (context : ProposalProcessingContext) (proposal : CanonicalProposal)

/-- The interview that the current lifecycle points to. -/
def activeInterview (db : Database) : Option IdentityInterviewRecord :=
  ((currentLifecycle db).bind IdentityLifecycleRecord.activeInterviewId).bind fun id =>
    Table.find IdentityInterviewRecord.identityInterviewId id db.identityKickstartInterviews

/-- The answers of an interview with one more. -/
def answered (interview : IdentityInterviewRecord) (answer : IdentityInterviewAnswer) :
    List (String × String) :=
  insertField interview.answeredFields answer.stepKey (Text.trim answer.answerText)

/-- What a run of a merge can make of the items of a store. -/
inductive ItemsMerged (db : Database) : List IdentityItemRecord → Prop
  | untouched : ItemsMerged db db.identityItems
  | deltas {payload : IdentityDeltaProposal} {itemIds outcome : List Uuid}
      {selfDescriptionId : Uuid} {now : DateTime} {applied : Database}
      (payload_eq : proposal.payload = .identityDelta payload)
      (noAction : payload.interviewAction = none)
      (through : applyDeltas tables context proposal payload itemIds selfDescriptionId now db =
        .ok (.ok outcome, applied)) : ItemsMerged db applied.identityItems
  | completed {payload : IdentityDeltaProposal} {answer : IdentityInterviewAnswer}
      {interview : IdentityInterviewRecord} {itemIds : List Uuid} {selfDescriptionId : Uuid}
      {now : DateTime} {left right : Database}
      (payload_eq : proposal.payload = .identityDelta payload)
      (action : payload.interviewAction = some (.answerCustomInterview answer))
      (active : activeInterview db = some interview)
      (complete : nextMissingStep (answered interview answer) = none)
      (items : left.identityItems = db.identityItems)
      (through : insertItems (interviewItems context proposal interview.identityInterviewId
        (answered interview answer) itemIds selfDescriptionId) now left = .ok right) :
      ItemsMerged db right.identityItems

variable {tables context proposal}

/-- An action that leaves the tables as they are. -/
abbrev Idle : World → World → List Event → Prop :=
  OnDb fun db db' _ => db' = db

theorem idle_refl (db : Database) : db = db := rfl

/-- An action that leaves the items as they are. -/
abbrev OffItems : World → World → List Event → Prop :=
  OnDb fun db db' _ => db'.identityItems = db.identityItems

theorem offItems_refl (db : Database) : db.identityItems = db.identityItems := rfl

theorem getCurrentLifecycle_offItems : getCurrentLifecycle.Confined OffItems := by
  refine confined_inTransaction offItems_refl fun now db effect hbody => ?_
  obtain rfl := Except.ok.inj hbody
  rfl

theorem rejectMerge_offItems (proposalId : Uuid) (reason : String) :
    (Continuity.rejectMerge proposalId reason).Confined OffItems := by
  refine Prog.Confined.bind (confined_execute offItems_refl ?_) fun _ => Prog.confined_ret _
  intro now db effect hbody
  obtain rfl := Except.ok.inj hbody
  rfl

theorem recordLifecycleTransition_eq_ok {row : IdentityLifecycleRecord} {now : DateTime}
    {db db' : Database} (h : recordLifecycleTransition row now db = .ok db') :
    db' = { supersedeLifecycle now db with
      identityLifecycle := (supersedeLifecycle now db).identityLifecycle ++
        [{ row with createdAt := now, updatedAt := now }] } :=
  (checked_eq_ok.mp h).2

theorem recordLifecycleTransition_items {row : IdentityLifecycleRecord} {now : DateTime}
    {db db' : Database} (h : recordLifecycleTransition row now db = .ok db') :
    db'.identityItems = db.identityItems := by
  rw [recordLifecycleTransition_eq_ok h]
  rfl

theorem settleDeltas_offItems (outcome : DeltasOutcome) :
    (settleDeltas context proposal outcome).Confined OffItems := by
  cases outcome with
  | ok itemIds => exact Prog.confined_ret _
  | error reason =>
    refine Prog.Confined.bind (Prog.Confined.bind (confined_newUuid offItems_refl) fun id =>
      confined_inTransaction offItems_refl ?_) fun _ => rejectMerge_offItems _ _
    intro now db effect hbody
    cases hinsert : checked _ _ with
    | error e =>
      rw [hinsert] at hbody
      cases hbody
    | ok inserted =>
      rw [hinsert] at hbody
      obtain rfl := Except.ok.inj hbody
      obtain ⟨-, rfl⟩ := checked_eq_ok.mp hinsert
      rfl

/-- A run that does not touch the items leaves them as they are. -/
theorem alone_offItems {α : Type} {answers : Answers system} {p : Harness α}
    (hp : p.Confined OffItems) {w : World} {es : List Event} :
    p.Alone answers (fun _ w' _ => w'.db.identityItems = w.db.identityItems) w es := by
  refine hp.alone (T := fun (w' : World) _ => w'.db.identityItems = w.db.identityItems) ?_ rfl
  rintro s s' es es' hs ⟨hitems, -⟩
  rw [hitems, hs]

theorem alone_idle {α : Type} {answers : Answers system} {p : Harness α}
    (hp : p.Confined Idle) {w : World} {es : List Event} :
    p.Alone answers (fun _ w' _ => w'.db = w.db) w es := by
  refine hp.alone (T := fun (w' : World) _ => w'.db = w.db) ?_ rfl
  rintro s s' es es' hs ⟨hdb, -⟩
  rw [hdb, hs]

theorem getCurrentLifecycle_idle : getCurrentLifecycle.Confined Idle := by
  refine confined_inTransaction idle_refl fun now db effect hbody => ?_
  obtain rfl := Except.ok.inj hbody
  rfl

/-- The deltas of a proposal are applied as a whole, or the items stay as they are. -/
theorem mergeDeltas_eq_ok {payload : IdentityDeltaProposal} {now completedAt : DateTime}
    {current : Option IdentityLifecycleRecord} {itemIds : List Uuid}
    {selfDescriptionId lifecycleId : Uuid} {db : Database} {effect : Effect DeltasOutcome}
    (h : mergeDeltas tables context proposal payload current itemIds selfDescriptionId lifecycleId
      completedAt now db = .ok effect) :
    effect.db = db ∨ ∃ outcome applied,
      applyDeltas tables context proposal payload itemIds selfDescriptionId now db =
        .ok (.ok outcome, applied) ∧ effect.db.identityItems = applied.identityItems := by
  unfold mergeDeltas at h
  split at h
  · cases h
  · obtain rfl := Except.ok.inj h
    exact Or.inl rfl
  · rename_i outcome applied happlied
    refine Or.inr ⟨outcome, applied, happlied, ?_⟩
    cases hrecord : recordMergedLifecycle proposal payload current lifecycleId completedAt now
        applied with
    | error e =>
      rw [hrecord] at h
      cases h
    | ok recorded =>
      rw [hrecord] at h
      obtain rfl := Except.ok.inj h
      show recorded.identityItems = applied.identityItems
      unfold recordMergedLifecycle at hrecord
      split at hrecord
      · exact recordLifecycleTransition_items hrecord
      · obtain rfl := Except.ok.inj hrecord
        rfl

variable {answers : Answers system} {w : World} {es : List Event}

/-- The merge of deltas reads the lifecycle, draws its ids, and writes in one transaction. -/
theorem mergeIntoStore_items {payload : IdentityDeltaProposal}
    (hpayload : proposal.payload = .identityDelta payload) (haction : payload.interviewAction = none) :
    (mergeIntoStore tables context proposal payload).Alone answers
      (fun _ w' _ => ItemsMerged tables context proposal w.db w'.db.identityItems) w es := by
  have hsame : ∀ w' : World, w'.db = w.db →
      ItemsMerged tables context proposal w.db w'.db.identityItems := by
    intro w' hdb
    rw [hdb]
    exact .untouched
  refine Prog.Alone.bind (alone_idle getCurrentLifecycle_idle) (fun current w₁ es₁ h₁ => ?_)
    fun e w' _ h => hsame w' h
  refine Prog.Alone.bind (alone_idle (confined_newUuids idle_refl _)) (fun itemIds w₂ es₂ h₂ => ?_)
    fun e w' _ h => hsame w' (h.trans h₁)
  refine Prog.Alone.bind (alone_idle (confined_newUuid idle_refl))
    (fun selfDescriptionId w₃ es₃ h₃ => ?_) fun e w' _ h => hsame w' (h.trans (h₂.trans h₁))
  refine Prog.Alone.bind (alone_idle (confined_newUuid idle_refl)) (fun lifecycleId w₄ es₄ h₄ => ?_)
    fun e w' _ h => hsame w' (h.trans (h₃.trans (h₂.trans h₁)))
  refine Prog.Alone.bind (alone_idle (confined_utcNow idle_refl)) (fun completedAt w₅ es₅ h₅ => ?_)
    fun e w' _ h => hsame w' (h.trans (h₄.trans (h₃.trans (h₂.trans h₁))))
  have hdb : w₅.db = w.db := h₅.trans (h₄.trans (h₃.trans (h₂.trans h₁)))
  refine Prog.Alone.bind
    (R := fun _ w' _ => ItemsMerged tables context proposal w.db w'.db.identityItems)
    (alone_inTransaction ?_ ?_ ?_) (fun outcome w₆ es₆ h₆ => ?_) fun e w' _ h => h
  · intro now effect hbody
    rw [hdb] at hbody
    rcases mergeDeltas_eq_ok hbody with hnone | ⟨outcome, applied, happlied, hitems⟩
    · show ItemsMerged tables context proposal w.db effect.db.identityItems
      rw [hnone]
      exact .untouched
    · show ItemsMerged tables context proposal w.db effect.db.identityItems
      rw [hitems]
      exact .deltas hpayload haction happlied
  · exact fun _ _ _ => hsame w₅ hdb
  · exact fun _ _ => hsame w₅ hdb
  · refine (alone_offItems (settleDeltas_offItems outcome)).mono fun _ w' _ hitems => ?_
    rw [hitems]
    exact h₆

theorem startCustomInterview_offItems (payload : IdentityDeltaProposal) :
    (startCustomInterview proposal payload).Confined OffItems := by
  refine Prog.Confined.bind (confined_newUuid offItems_refl) fun interviewId => ?_
  refine Prog.Confined.bind (confined_newUuid offItems_refl) fun lifecycleId => ?_
  refine Prog.Confined.bind (confined_utcNow offItems_refl) fun startedAt => ?_
  refine Prog.Confined.bind (confined_inTransaction offItems_refl ?_) fun _ => Prog.confined_ret _
  intro now db effect hbody
  cases hstart : startInterview payload interviewId lifecycleId startedAt now db with
  | error e =>
    rw [hstart] at hbody
    cases hbody
  | ok started =>
    rw [hstart] at hbody
    obtain rfl := Except.ok.inj hbody
    unfold startInterview at hstart
    cases hinsert : insertIdentityInterview _ now db with
    | error e =>
      rw [hinsert] at hstart
      cases hstart
    | ok inserted =>
      rw [hinsert] at hstart
      show started.identityItems = db.identityItems
      rw [recordLifecycleTransition_items hstart]
      obtain ⟨-, rfl⟩ := checked_eq_ok.mp hinsert
      rfl

theorem cancelCustomInterview_offItems (reason : Option String) :
    (cancelCustomInterview proposal reason).Confined OffItems := by
  refine Prog.Confined.bind getCurrentLifecycle_offItems fun lifecycle => ?_
  cases lifecycle with
  | none => exact Prog.confined_ret _
  | some lifecycle =>
    refine Prog.Confined.bind ?_ fun _ => ?_
    · cases lifecycle.activeInterviewId with
      | none => exact Prog.confined_ret _
      | some interviewId =>
        refine confined_inTransaction offItems_refl fun now db effect hbody => ?_
        obtain rfl := Except.ok.inj hbody
        rfl
    · refine Prog.Confined.bind (confined_newUuid offItems_refl) fun lifecycleId => ?_
      refine Prog.Confined.bind (confined_inTransaction offItems_refl ?_)
        fun _ => Prog.confined_ret _
      intro now db effect hbody
      cases hrecord : recordLifecycleTransition _ now db with
      | error e =>
        rw [hrecord] at hbody
        cases hbody
      | ok recorded =>
        rw [hrecord] at hbody
        obtain rfl := Except.ok.inj hbody
        exact recordLifecycleTransition_items hrecord

theorem completeInterview_eq_ok {interview : IdentityInterviewRecord}
    {answeredFields : List (String × String)} {items : List IdentityItemRecord}
    {lifecycleId : Uuid} {completedAt now : DateTime} {db db' : Database}
    (h : completeInterview interview answeredFields items lifecycleId completedAt now db =
      .ok db') :
    ∃ inserted, insertItems items now (updateIdentityInterviewState interview.identityInterviewId
        .completed "completed" answeredFields now db) = .ok inserted ∧
      db'.identityItems = inserted.identityItems := by
  unfold completeInterview at h
  cases hinsert : insertItems items now (updateIdentityInterviewState
      interview.identityInterviewId .completed "completed" answeredFields now db) with
  | error e =>
    rw [hinsert] at h
    cases h
  | ok inserted =>
    rw [hinsert] at h
    exact ⟨inserted, rfl, recordLifecycleTransition_items h⟩

/-- An answer writes items when it is the last. -/
theorem answerInterview_items (tables : Text.Tables) {payload : IdentityDeltaProposal}
    {answer : IdentityInterviewAnswer} {interview : IdentityInterviewRecord} (hpayload : proposal.payload = .identityDelta payload)
    (haction : payload.interviewAction = some (.answerCustomInterview answer))
    (hinterview : activeInterview w.db = some interview) :
    (answerInterview context proposal interview answer).Alone answers
      (fun _ w' _ => ItemsMerged tables context proposal w.db w'.db.identityItems) w es := by
  have hoff : ∀ {α : Type} {p : Harness α}, p.Confined OffItems → p.Alone answers
      (fun _ w' _ => ItemsMerged tables context proposal w.db w'.db.identityItems) w es := by
    intro α p hp
    refine (alone_offItems hp).mono fun _ w' _ hitems => ?_
    rw [hitems]
    exact .untouched
  unfold answerInterview
  dsimp only
  split
  · exact hoff (rejectMerge_offItems _ _)
  split
  · exact hoff (rejectMerge_offItems _ _)
  have hfields : answered interview answer =
      insertField interview.answeredFields answer.stepKey (Text.trim answer.answerText) := rfl
  unfold takeAnswer
  dsimp only
  rw [← hfields]
  clear hfields
  split
  · refine hoff (Prog.Confined.bind (confined_inTransaction offItems_refl ?_)
      fun _ => Prog.confined_ret _)
    intro now db effect hbody
    obtain rfl := Except.ok.inj hbody
    rfl
  · rename_i hcomplete
    generalize customIdentityFields.length = count
    have hsame : ∀ w' : World, w'.db = w.db →
        ItemsMerged tables context proposal w.db w'.db.identityItems := by
      intro w' hdb
      rw [hdb]
      exact .untouched
    refine Prog.Alone.bind (alone_idle (confined_newUuids idle_refl _))
      (fun itemIds w₁ es₁ h₁ => ?_) fun e w' _ h => hsame w' h
    refine Prog.Alone.bind (alone_idle (confined_newUuid idle_refl))
      (fun selfDescriptionItemId w₂ es₂ h₂ => ?_) fun e w' _ h => hsame w' (h.trans h₁)
    refine Prog.Alone.bind (alone_idle (confined_newUuid idle_refl))
      (fun lifecycleId w₃ es₃ h₃ => ?_) fun e w' _ h => hsame w' (h.trans (h₂.trans h₁))
    refine Prog.Alone.bind (alone_idle (confined_utcNow idle_refl))
      (fun completedAt w₄ es₄ h₄ => ?_) fun e w' _ h => hsame w' (h.trans (h₃.trans (h₂.trans h₁)))
    have hdb : w₄.db = w.db := h₄.trans (h₃.trans (h₂.trans h₁))
    refine Prog.Alone.bind
      (R := fun _ w' _ => ItemsMerged tables context proposal w.db w'.db.identityItems)
      (alone_inTransaction ?_ ?_ ?_) (fun _ w' es' h => h) fun e w' _ h => h
    · intro now effect hbody
      cases hwrite : completeInterview interview (answered interview answer)
          (interviewItems context proposal interview.identityInterviewId (answered interview answer)
            itemIds selfDescriptionItemId) lifecycleId completedAt now w₄.db with
      | error e =>
        rw [hwrite] at hbody
        cases hbody
      | ok db' =>
        rw [hwrite] at hbody
        obtain rfl := Except.ok.inj hbody
        obtain ⟨inserted, hinsert, hitems⟩ := completeInterview_eq_ok hwrite
        show ItemsMerged tables context proposal w.db db'.identityItems
        rw [hitems]
        have hleft : (updateIdentityInterviewState interview.identityInterviewId .completed
            "completed" (answered interview answer) now w₄.db).identityItems =
            w.db.identityItems := by
          rw [← hdb]
          rfl
        exact ItemsMerged.completed hpayload haction hinterview hcomplete hleft hinsert
    · exact fun _ _ _ => hsame w₄ hdb
    · exact fun _ _ => hsame w₄ hdb

/-- What an answer makes of the items is what the merge of its interview makes of them, or nothing.
-/
theorem answerCustomInterview_items {payload : IdentityDeltaProposal}
    {answer : IdentityInterviewAnswer} (hpayload : proposal.payload = .identityDelta payload)
    (haction : payload.interviewAction = some (.answerCustomInterview answer)) :
    (answerCustomInterview context proposal answer).Alone answers
      (fun _ w' _ => ItemsMerged tables context proposal w.db w'.db.identityItems) w es := by
  have hsame : ∀ w' : World, w'.db = w.db →
      ItemsMerged tables context proposal w.db w'.db.identityItems := by
    intro w' hdb
    rw [hdb]
    exact .untouched
  have hoff : ∀ (w' : World) (es' : List Event) (reason : String), w'.db = w.db →
      (Continuity.rejectMerge proposal.proposalId reason).Alone answers
        (fun _ w'' _ => ItemsMerged tables context proposal w.db w''.db.identityItems) w' es' := by
    intro w' es' reason hdb
    refine (alone_offItems (rejectMerge_offItems _ _)).mono fun _ w'' _ hitems => ?_
    rw [hitems, hdb]
    exact .untouched
  refine Prog.Alone.bind (R := fun r w' _ => w'.db = w.db ∧
      ∀ lifecycle, r = .ok lifecycle → lifecycle = currentLifecycle w.db)
    (alone_inTransaction ?_ ?_ ?_) (fun lifecycle w₁ es₁ h₁ => ?_) fun e w' _ h => hsame w' h.1
  · intro now effect hbody
    obtain rfl := Except.ok.inj hbody
    exact ⟨rfl, fun lifecycle hok => (Except.ok.inj hok).symm⟩
  · exact fun _ _ _ => ⟨rfl, by rintro _ ⟨⟩⟩
  · exact fun _ _ => ⟨rfl, by rintro _ ⟨⟩⟩
  obtain ⟨hdb₁, hread⟩ := h₁
  have hcurrent : lifecycle = currentLifecycle w.db := hread lifecycle rfl
  cases lifecycle with
  | none => exact hoff w₁ es₁ _ hdb₁
  | some lifecycle =>
    cases hid : lifecycle.activeInterviewId with
    | none =>
      simp only [hid]
      exact hoff w₁ es₁ _ hdb₁
    | some interviewId =>
      simp only [hid]
      refine Prog.Alone.bind (R := fun r w' _ => w'.db = w.db ∧ ∀ found, r = .ok found →
          found = Table.find IdentityInterviewRecord.identityInterviewId interviewId
            w.db.identityKickstartInterviews)
        (alone_inTransaction ?_ ?_ ?_) (fun found w₂ es₂ h₂ => ?_) fun e w' _ h => hsame w' h.1
      · intro now effect hbody
        obtain rfl := Except.ok.inj hbody
        refine ⟨hdb₁, fun found hok => ?_⟩
        rw [← Except.ok.inj hok, hdb₁]
      · exact fun _ _ _ => ⟨hdb₁, by rintro _ ⟨⟩⟩
      · exact fun _ _ => ⟨hdb₁, by rintro _ ⟨⟩⟩
      obtain ⟨hdb₂, hfound⟩ := h₂
      have hlisted := hfound found rfl
      cases found with
      | none => exact hsame w₂ hdb₂
      | some interview =>
        have hactive : activeInterview w₂.db = some interview := by
          rw [hdb₂, activeInterview, ← hcurrent, Option.bind_some, hid, Option.bind_some, ← hlisted]
        refine (answerInterview_items tables hpayload haction hactive).mono fun _ w' _ hitems => ?_
        rw [hdb₂] at hitems
        exact hitems

/-- What a merge makes of the items. -/
theorem applyIdentityDeltaProposalMerge_items :
    (applyIdentityDeltaProposalMerge tables context proposal).Alone answers
      (fun _ w' _ => ItemsMerged tables context proposal w.db w'.db.identityItems) w es := by
  have hoff : ∀ {p : Harness ProposalEvaluation}, p.Confined OffItems → p.Alone answers
      (fun _ w' _ => ItemsMerged tables context proposal w.db w'.db.identityItems) w es := by
    intro p hp
    refine (alone_offItems hp).mono fun _ w' _ hitems => ?_
    rw [hitems]
    exact .untouched
  unfold applyIdentityDeltaProposalMerge
  dsimp only
  split
  · exact hoff (rejectMerge_offItems _ _)
  split
  · rename_i payload hpayload
    split
    · rename_i action haction
      cases action with
      | startCustomInterview => exact hoff (startCustomInterview_offItems payload)
      | answerCustomInterview answer => exact answerCustomInterview_items hpayload haction
      | cancel reason => exact hoff (cancelCustomInterview_offItems reason)
      | selectPredefinedTemplate templateKey => exact hoff (Prog.confined_ret _)
    · rename_i haction
      exact mergeIntoStore_items hpayload haction
  · exact hoff (rejectMerge_offItems _ _)

/-- The row of an active item after a reset. -/
def resetItem (now : DateTime) (row : IdentityItemRecord) : IdentityItemRecord :=
  { row with status := .superseded, supersededAt := some now, updatedAt := now }

/-- A reset supersedes the active items, or goes wrong and leaves them. -/
theorem resetToBootstrap_items {actorRef : String} {reason : Option String} :
    (resetToBootstrap actorRef reason).Alone answers
      (fun _ w' _ => w'.db.identityItems = w.db.identityItems ∨ ∃ now, w'.db.identityItems =
        Table.update (fun row => row.status = .active) (resetItem now) w.db.identityItems) w es := by
  refine Prog.Alone.bind (alone_idle (confined_utcNow idle_refl)) (fun resetAt w₁ es₁ h₁ => ?_)
    fun e w' _ h => Or.inl (by rw [h])
  refine Prog.Alone.bind (alone_idle (confined_newUuid idle_refl)) (fun lifecycleId w₂ es₂ h₂ => ?_)
    fun e w' _ h => Or.inl (by rw [h, h₁])
  have hdb : w₂.db = w.db := h₂.trans h₁
  refine alone_inTransaction ?_ ?_ ?_
  · intro now effect hbody
    cases hreset : resetIdentity actorRef reason lifecycleId resetAt now w₂.db with
    | error e =>
      rw [hreset] at hbody
      cases hbody
    | ok reset =>
      rw [hreset] at hbody
      obtain rfl := Except.ok.inj hbody
      refine Or.inr ⟨now, ?_⟩
      show reset.identityItems = _
      rw [recordLifecycleTransition_items hreset, ← hdb]
      rfl
  · exact fun _ _ _ => Or.inl (by rw [hdb])
  · exact fun _ _ => Or.inl (by rw [hdb])

end Programs

/-! ## Sequences of calls -/

/-- A call on the identity. -/
inductive IdentityCall
  | merge (context : ProposalProcessingContext) (proposal : CanonicalProposal)
  | reset (actorRef : String) (reason : Option String)

/-- The program of a call. -/
def IdentityCall.program (tables : Text.Tables) : IdentityCall → Harness Unit
  | merge context proposal =>
    (applyIdentityDeltaProposalMerge tables context proposal).bind fun _ => .ret ()
  | reset actorRef reason => (resetToBootstrap actorRef reason).bind fun _ => .ret ()

/-- One call after another: `w'` is what a run of the call leaves of `w`, whatever the
surroundings answer, and whether it goes through or not. -/
def Called (tables : Text.Tables) (call : IdentityCall) (w w' : World) : Prop :=
  ∃ (o : Oracle system) (n : Nat), w' = ((call.program tables).run o n w).state

/-- Some call. -/
def SomeCalled (tables : Text.Tables) (w w' : World) : Prop :=
  ∃ call, Called tables call w w'

section Calls

variable {tables : Text.Tables} {context : ProposalProcessingContext}
  {proposal : CanonicalProposal} {w w' : World}

/-- What holds of every run of a program alone holds after the call. -/
private theorem called_of_alone {α : Type} {p : Harness α} {T : World → Prop} {o : Oracle system}
    {n : Nat} (h : p.Alone (fun _ _ => True) (fun _ w' _ => T w') w []) :
    T ((p.bind fun _ => .ret ()).run o n w).state := by
  have halone : (p.bind fun _ => .ret ()).Alone (fun _ _ => True) (fun _ w' _ => T w') w [] :=
    Prog.Alone.bind h (fun _ _ _ hT => hT) fun _ _ _ hT => hT
  exact halone.run (o := o) (fun _ _ => trivial) n

theorem Called.items (h : Called tables (.merge context proposal) w w') :
    ItemsMerged tables context proposal w.db w'.db.identityItems := by
  obtain ⟨o, n, rfl⟩ := h
  exact called_of_alone (T := fun w' => ItemsMerged tables context proposal w.db w'.db.identityItems)
    applyIdentityDeltaProposalMerge_items

theorem Called.itemsReset {actorRef : String} {reason : Option String}
    (h : Called tables (.reset actorRef reason) w w') :
    w'.db.identityItems = w.db.identityItems ∨ ∃ now, w'.db.identityItems =
      Table.update (fun row => row.status = .active) (resetItem now) w.db.identityItems := by
  obtain ⟨o, n, rfl⟩ := h
  exact called_of_alone (T := fun w' => w'.db.identityItems = w.db.identityItems ∨ ∃ now,
    w'.db.identityItems =
      Table.update (fun row => row.status = .active) (resetItem now) w.db.identityItems)
    resetToBootstrap_items

end Calls

/-! ## Every store passes its checks -/

section WellFormed

variable {tables : Text.Tables} {context : ProposalProcessingContext}
  {proposal : CanonicalProposal} {now : DateTime} {db db' : Database} {w w' : World}

theorem WellFormed.nil : WellFormed [] := ⟨List.nodup_nil, by simp⟩

theorem WellFormed.itemDelta (hwell : WellFormed db.identityItems) {delta : IdentityItemDelta}
    {identityItemId itemId : Uuid}
    (h : applyIdentityItemDelta tables context proposal delta identityItemId now db =
      .ok (.accepted itemId, db')) : WellFormed db'.identityItems := by
  obtain ⟨-, write, -, hrun⟩ := applyIdentityItemDelta_accepted h
  exact hwell.write hrun

theorem WellFormed.insertItems (hwell : WellFormed db.identityItems)
    {rows : List IdentityItemRecord} (h : insertItems rows now db = .ok db') :
    WellFormed db'.identityItems := by
  induction rows generalizing db with
  | nil =>
    obtain rfl := Except.ok.inj h
    exact hwell
  | cons row rows ih =>
    rw [Identity.insertItems] at h
    cases hinsert : insertIdentityItem row now db with
    | error e =>
      rw [hinsert] at h
      cases h
    | ok inserted =>
      rw [hinsert] at h
      exact ih (hwell.insert hinsert) h

theorem WellFormed.merged (hwell : WellFormed db.identityItems) {rows : List IdentityItemRecord}
    (h : ItemsMerged tables context proposal db rows) : WellFormed rows := by
  cases h with
  | untouched => exact hwell
  | deltas payload_eq noAction through =>
    obtain ⟨itemsLeft, between, hitems, hself⟩ := applyDeltas_eq_ok through
    have hbetween : WellFormed between.identityItems :=
      applyItemDeltas_keep (J := fun db => WellFormed db.identityItems)
        (fun _ _ _ _ _ hdb hdelta => WellFormed.itemDelta hdb hdelta) hwell hitems
    rcases hself with ⟨-, rfl⟩ | ⟨delta, itemId, -, happly⟩
    · exact hbetween
    · obtain ⟨write, -, hrun⟩ := applySelfDescriptionDelta_accepted happly
      exact hbetween.write hrun
  | completed payload_eq action active complete items through =>
    rw [← items] at hwell
    exact hwell.insertItems through

/-- A reset takes the status `active` from every item. -/
theorem WellFormed.reset {rows : List IdentityItemRecord} (hwell : WellFormed rows) :
    WellFormed (Table.update (fun row => row.status = .active) (resetItem now) rows) where
  ids := by
    have hkey : ∀ row, (resetItem now row).identityItemId = row.identityItemId := fun _ => rfl
    rw [Table.map_key_update hkey]
    exact hwell.ids
  checks := by
    intro row hrow
    rcases Table.mem_update.mp hrow with ⟨hmem, -⟩ | ⟨old, hold, -, rfl⟩
    · exact hwell.checks row hmem
    · exact hwell.checks old hold

/-- The items of every store that calls make of an empty one pass their checks. -/
theorem wellFormed_of_reachable (start : w.db.identityItems = [])
    (reach : Relation.ReflTransGen (SomeCalled tables) w w') : WellFormed w'.db.identityItems := by
  induction reach with
  | refl =>
    rw [start]
    exact WellFormed.nil
  | tail _ step ih =>
    obtain ⟨call, hcalled⟩ := step
    cases call with
    | merge context proposal => exact ih.merged hcalled.items
    | reset actorRef reason =>
      rcases hcalled.itemsReset with hsame | ⟨now, hreset⟩
      · rw [hsame]
        exact ih
      · rw [hreset]
        exact ih.reset

end WellFormed

end Identity

end BlueLagoon
