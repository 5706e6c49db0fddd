import BlueLagoon.Harness

/-!
# Conversation bindings

A binding ties an external conversation to an internal one. A new binding is reconciled
with the rows that are there: the row of the internal conversation is kept, and takes over
what belonged to another row of the external one.
-/

namespace BlueLagoon

open Harness

structure NewConversationBinding where
  conversationBindingId : Uuid
  channelKind : ChannelKind
  externalUserId : String
  externalConversationId : String
  internalPrincipalRef : String
  internalConversationRef : String
  deriving DecidableEq, Repr

inductive ConversationBindingAction
  | created
  | updated
  | rebound
  | merged
  deriving DecidableEq, Repr

/-- `ConversationBindingAction::as_str`. -/
def ConversationBindingAction.asStr : ConversationBindingAction → String
  | created => "created"
  | updated => "updated"
  | rebound => "rebound"
  | merged => "merged"

structure ConversationBindingWriteResult where
  record : ConversationBindingRecord
  action : ConversationBindingAction
  deriving DecidableEq, Repr

namespace Foreground

/-! ## The statements -/

/-- Does the row belong to the external conversation of the binding? -/
def hasExternalTuple (binding : NewConversationBinding) (row : ConversationBindingRecord) : Bool :=
  row.channelKind = binding.channelKind && row.externalUserId = binding.externalUserId &&
    row.externalConversationId = binding.externalConversationId

/-- Does the row belong to the internal conversation of the binding? -/
def hasInternalRef (binding : NewConversationBinding) (row : ConversationBindingRecord) : Bool :=
  row.internalConversationRef = binding.internalConversationRef

/-- `find_locked_conversation_binding_by_external_tuple`. -/
def findLockedConversationBindingByExternalTuple (binding : NewConversationBinding)
    (db : Database) : Option ConversationBindingRecord :=
  db.conversationBindings.find? (hasExternalTuple binding)

/-- `find_locked_conversation_binding_by_internal_ref`. -/
def findLockedConversationBindingByInternalRef (binding : NewConversationBinding)
    (db : Database) : Option ConversationBindingRecord :=
  db.conversationBindings.find? (hasInternalRef binding)

/-- The row of a binding under the given identifier. -/
def bindingRow (conversationBindingId : Uuid) (binding : NewConversationBinding) :
    ConversationBindingRecord where
  conversationBindingId := conversationBindingId
  channelKind := binding.channelKind
  externalUserId := binding.externalUserId
  externalConversationId := binding.externalConversationId
  internalPrincipalRef := binding.internalPrincipalRef
  internalConversationRef := binding.internalConversationRef

/-- `insert_conversation_binding`. -/
def insertConversationBinding (binding : NewConversationBinding) (db : Database) :
    Except ErrorChain (ConversationBindingRecord × Database) :=
  let row := bindingRow binding.conversationBindingId binding
  if db.conversationBindings.any fun other =>
      other.conversationBindingId = row.conversationBindingId then
    .error ["failed to insert conversation binding", "conversation_bindings_pkey"]
  else
    match db.conversationBindingViolation row with
    | some constraint => .error ["failed to insert conversation binding", constraint]
    | none => .ok (row, { db with conversationBindings := db.conversationBindings ++ [row] })

/-- `update_conversation_binding`. -/
def updateConversationBinding (conversationBindingId : Uuid) (binding : NewConversationBinding)
    (db : Database) : Except ErrorChain (ConversationBindingRecord × Database) :=
  let row := bindingRow conversationBindingId binding
  if db.hasConversationBinding (some conversationBindingId) then
    match db.conversationBindingViolation row with
    | some constraint => .error ["failed to update conversation binding", constraint]
    | none =>
      .ok (row,
        { db with
          conversationBindings :=
            Table.update (fun other => other.conversationBindingId = conversationBindingId)
              (fun other => bindingRow other.conversationBindingId binding)
              db.conversationBindings })
  else
    .error ["failed to update conversation binding",
      "no rows returned by a query that expected to return at least one row"]

/-- `delete_conversation_binding`. -/
def deleteConversationBinding (conversationBindingId : Uuid) (db : Database) :
    Except ErrorChain Database :=
  if db.ingressEvents.any fun row => row.conversationBindingId = some conversationBindingId then
    .error ["failed to delete superseded conversation binding",
      "ingress_events_conversation_binding_id_fkey"]
  else
    .ok { db with
      conversationBindings :=
        db.conversationBindings.filter fun row =>
          row.conversationBindingId ≠ conversationBindingId }

/-- `reassign_ingress_event_bindings`. -/
def reassignIngressEventBindings (fromBindingId toBindingId : Uuid) (db : Database) :
    Except ErrorChain Database :=
  if db.ingressEvents.any (fun row => row.conversationBindingId = some fromBindingId) &&
      !db.hasConversationBinding (some toBindingId) then
    .error ["failed to reassign ingress events to canonical conversation binding",
      "ingress_events_conversation_binding_id_fkey"]
  else
    .ok { db with
      ingressEvents :=
        Table.update (fun row => row.conversationBindingId = some fromBindingId)
          (fun row => { row with conversationBindingId := some toBindingId }) db.ingressEvents }

/-- The merge of `reconcile_conversation_binding_in_tx`: the events of the external row move
to the internal one before the external row goes, and it goes before its tuple is taken. -/
def mergeConversationBindings (externalId internalId : Uuid) (binding : NewConversationBinding)
    (db : Database) : Except ErrorChain (ConversationBindingRecord × Database) := do
  let db ← reassignIngressEventBindings externalId internalId db
  let db ← deleteConversationBinding externalId db
  updateConversationBinding internalId binding db

/-- `reconcile_conversation_binding_in_tx`, from the rows its two lookups found. -/
def reconcileFound (external internal : Option ConversationBindingRecord)
    (binding : NewConversationBinding) (db : Database) :
    Except ErrorChain (ConversationBindingWriteResult × Database) :=
  let written := fun (action : ConversationBindingAction)
      (step : Except ErrorChain (ConversationBindingRecord × Database)) =>
    step.map fun (record, db) => ({ record := record, action := action }, db)
  match external, internal with
  | none, none => written .created (insertConversationBinding binding db)
  | none, some internal =>
    written .rebound (updateConversationBinding internal.conversationBindingId binding db)
  | some external, none =>
    written .updated (updateConversationBinding external.conversationBindingId binding db)
  | some external, some internal =>
    if external.conversationBindingId = internal.conversationBindingId then
      written .updated (updateConversationBinding internal.conversationBindingId binding db)
    else
      written .merged (mergeConversationBindings external.conversationBindingId
        internal.conversationBindingId binding db)

/-- `reconcile_conversation_binding_in_tx`. -/
def reconcileConversationBindingInTx (binding : NewConversationBinding) (db : Database) :
    Except ErrorChain (ConversationBindingWriteResult × Database) :=
  reconcileFound (findLockedConversationBindingByExternalTuple binding db)
    (findLockedConversationBindingByInternalRef binding db) binding db

/-! ## Frames -/

/-- The events, with a binding that depends on each one. -/
def rebound (bindingOf : IngressEventRecord → Option Uuid) (events : List IngressEventRecord) :
    List IngressEventRecord :=
  events.map fun row => { row with conversationBindingId := bindingOf row }

/-- The database with other bindings, which its events may refer to. -/
def OnlyBindings (db db' : Database) : Prop :=
  ∃ bindings bindingOf, db' =
    { db with conversationBindings := bindings, ingressEvents := rebound bindingOf db.ingressEvents }

theorem rebound_self (events : List IngressEventRecord) :
    rebound IngressEventRecord.conversationBindingId events = events :=
  List.map_id events

/-- Only the bindings themselves are other ones. -/
theorem OnlyBindings.of_bindings (db : Database) (bindings : List ConversationBindingRecord) :
    OnlyBindings db { db with conversationBindings := bindings } := by
  refine ⟨bindings, IngressEventRecord.conversationBindingId, ?_⟩
  rw [rebound_self]

theorem OnlyBindings.trans {db db' db'' : Database} (h : OnlyBindings db db')
    (h' : OnlyBindings db' db'') : OnlyBindings db db'' := by
  obtain ⟨bindings, bindingOf, rfl⟩ := h
  obtain ⟨bindings', bindingOf', rfl⟩ := h'
  refine ⟨bindings', fun row => bindingOf' { row with conversationBindingId := bindingOf row }, ?_⟩
  unfold rebound
  rw [List.map_map]
  rfl

theorem insertConversationBinding_frame {binding : NewConversationBinding} {db db' : Database}
    {record : ConversationBindingRecord}
    (h : insertConversationBinding binding db = .ok (record, db')) : OnlyBindings db db' := by
  unfold insertConversationBinding at h
  dsimp only at h
  split at h
  · cases h
  · split at h
    · cases h
    · obtain ⟨-, rfl⟩ := Prod.mk.inj (Except.ok.inj h)
      exact .of_bindings db _

theorem updateConversationBinding_frame {binding : NewConversationBinding} {id : Uuid}
    {db db' : Database} {record : ConversationBindingRecord}
    (h : updateConversationBinding id binding db = .ok (record, db')) : OnlyBindings db db' := by
  unfold updateConversationBinding at h
  dsimp only at h
  split at h
  · split at h
    · cases h
    · obtain ⟨-, rfl⟩ := Prod.mk.inj (Except.ok.inj h)
      exact .of_bindings db _
  · cases h

theorem reassignIngressEventBindings_frame {fromBindingId toBindingId : Uuid} {db db' : Database}
    (h : reassignIngressEventBindings fromBindingId toBindingId db = .ok db') :
    OnlyBindings db db' := by
  unfold reassignIngressEventBindings at h
  split at h
  · cases h
  · obtain rfl := Except.ok.inj h
    refine ⟨db.conversationBindings, fun row =>
      if row.conversationBindingId = some fromBindingId then some toBindingId
      else row.conversationBindingId, ?_⟩
    congr 1
    unfold Table.update rebound
    refine List.map_congr_left fun row _ => ?_
    by_cases hfrom : row.conversationBindingId = some fromBindingId <;> simp [hfrom]

theorem deleteConversationBinding_frame {id : Uuid} {db db' : Database}
    (h : deleteConversationBinding id db = .ok db') : OnlyBindings db db' := by
  unfold deleteConversationBinding at h
  split at h
  · cases h
  · obtain rfl := Except.ok.inj h
    exact .of_bindings db _

theorem mergeConversationBindings_frame {binding : NewConversationBinding}
    {externalId internalId : Uuid} {db db' : Database} {record : ConversationBindingRecord}
    (h : mergeConversationBindings externalId internalId binding db = .ok (record, db')) :
    OnlyBindings db db' := by
  unfold mergeConversationBindings at h
  cases hreassigned : reassignIngressEventBindings externalId internalId db with
  | error e =>
    rw [hreassigned] at h
    cases h
  | ok reassigned =>
    rw [hreassigned] at h
    change (deleteConversationBinding externalId reassigned >>= fun db =>
      updateConversationBinding internalId binding db) = _ at h
    cases hdeleted : deleteConversationBinding externalId reassigned with
    | error e =>
      rw [hdeleted] at h
      cases h
    | ok deleted =>
      rw [hdeleted] at h
      exact ((reassignIngressEventBindings_frame hreassigned).trans
        (deleteConversationBinding_frame hdeleted)).trans (updateConversationBinding_frame h)

/-- Reconciling touches bindings and the events that refer to them. -/
theorem reconcileFound_frame {external internal : Option ConversationBindingRecord}
    {binding : NewConversationBinding} {db db' : Database}
    {written : ConversationBindingWriteResult}
    (h : reconcileFound external internal binding db = .ok (written, db')) :
    OnlyBindings db db' := by
  have hmap : ∀ {step : Except ErrorChain (ConversationBindingRecord × Database)}
      {action : ConversationBindingAction},
      (step.map fun (record, db) =>
        (({ record := record, action := action } : ConversationBindingWriteResult), db)) =
        .ok (written, db') → ∃ record, step = .ok (record, db') := by
    rintro (e | ⟨record, reached⟩) action hstep
    · cases hstep
    · obtain ⟨-, rfl⟩ := Prod.mk.inj (Except.ok.inj hstep)
      exact ⟨record, rfl⟩
  cases external with
  | none =>
    cases internal with
    | none =>
      obtain ⟨_, hstep⟩ := hmap h
      exact insertConversationBinding_frame hstep
    | some internal =>
      obtain ⟨_, hstep⟩ := hmap h
      exact updateConversationBinding_frame hstep
  | some external =>
    cases internal with
    | none =>
      obtain ⟨_, hstep⟩ := hmap h
      exact updateConversationBinding_frame hstep
    | some internal =>
      unfold reconcileFound at h
      dsimp only at h
      split at h
      · obtain ⟨_, hstep⟩ := hmap h
        exact updateConversationBinding_frame hstep
      · obtain ⟨_, hstep⟩ := hmap h
        exact mergeConversationBindings_frame hstep

/-! ## Consistency

What the constraints of the two tables say, row by row. -/

/-- The external conversation of a row. -/
def externalTuple (row : ConversationBindingRecord) : ChannelKind × String × String :=
  (row.channelKind, row.externalUserId, row.externalConversationId)

structure Consistent (db : Database) : Prop where
  ids : (db.conversationBindings.map ConversationBindingRecord.conversationBindingId).Nodup
  external : ∀ row ∈ db.conversationBindings, ∀ other ∈ db.conversationBindings,
    externalTuple row = externalTuple other → row = other
  internal : ∀ row ∈ db.conversationBindings, ∀ other ∈ db.conversationBindings,
    row.internalConversationRef = other.internalConversationRef → row = other
  references : ∀ event ∈ db.ingressEvents,
    db.hasConversationBinding event.conversationBindingId = true

/-- Does the row share a conversation with the binding? -/
def isRelated (binding : NewConversationBinding) (row : ConversationBindingRecord) : Bool :=
  hasExternalTuple binding row || hasInternalRef binding row

/-- The event, with the surviving binding in place of one that is gone. -/
def repointed (db : Database) (survivor : Uuid) (event : IngressEventRecord) :
    IngressEventRecord :=
  if db.hasConversationBinding event.conversationBindingId then event
  else { event with conversationBindingId := some survivor }

/-- What reconciling a binding makes of a database: one row has its conversations, the rows
that share none stay, and events of rows that are gone belong to the surviving one. -/
structure Reconciled (binding : NewConversationBinding) (db db' : Database)
    (record : ConversationBindingRecord) : Prop where
  consistent : Consistent db'
  record_eq : record = bindingRow record.conversationBindingId binding
  mem : record ∈ db'.conversationBindings
  only : ∀ row ∈ db'.conversationBindings, isRelated binding row = true → row = record
  kept : ∀ row ∈ db.conversationBindings, isRelated binding row = false →
    row ∈ db'.conversationBindings
  old : ∀ row ∈ db'.conversationBindings, row = record ∨ row ∈ db.conversationBindings
  events : db'.ingressEvents =
    db.ingressEvents.map (repointed db' record.conversationBindingId)
  others : db' = { db with
    conversationBindings := db'.conversationBindings, ingressEvents := db'.ingressEvents }

section Statements

variable {binding : NewConversationBinding} {db : Database} {id : Uuid}

theorem hasExternalTuple_iff (id : Uuid) {row : ConversationBindingRecord} :
    hasExternalTuple binding row = true ↔
      externalTuple row = externalTuple (bindingRow id binding) := by
  simp [hasExternalTuple, externalTuple, bindingRow]

theorem isRelated_bindingRow : isRelated binding (bindingRow id binding) = true := by
  simp [isRelated, hasInternalRef, bindingRow]

theorem hasConversationBinding_iff :
    db.hasConversationBinding (some id) = true ↔
      ∃ row ∈ db.conversationBindings, row.conversationBindingId = id := by
  simp [Database.hasConversationBinding]

/-- Events whose bindings are all there keep them. -/
theorem map_repointed_eq_self {events : List IngressEventRecord} {survivor : Uuid}
    (h : ∀ event ∈ events, db.hasConversationBinding event.conversationBindingId = true) :
    events.map (repointed db survivor) = events := by
  conv_rhs => rw [← List.map_id events]
  refine List.map_congr_left fun event hevent => ?_
  rw [repointed, if_pos (h event hevent), id]

/-- A row can be written when no other row shares a conversation with the binding. -/
theorem conversationBindingViolation_eq_none
    (others : ∀ row ∈ db.conversationBindings, row.conversationBindingId ≠ id →
      isRelated binding row = false) :
    db.conversationBindingViolation (bindingRow id binding) = none := by
  rw [Database.conversationBindingViolation, Database.firstBroken_eq_none]
  intro condition hcondition
  have hother : ∀ row ∈ db.conversationBindings, row.conversationBindingId = id ∨
      hasExternalTuple binding row = false ∧ hasInternalRef binding row = false := by
    intro row hrow
    by_cases hid : row.conversationBindingId = id
    · exact Or.inl hid
    · exact Or.inr (by simpa [isRelated] using others row hrow hid)
  simp only [List.mem_cons, List.not_mem_nil, or_false] at hcondition
  rcases hcondition with rfl | rfl
  · simp only [List.all_eq_true]
    intro row hrow
    rcases hother row hrow with hid | ⟨hexternal, -⟩
    · simp [hid, bindingRow]
    · rw [Bool.or_eq_true, Bool.not_eq_true']
      exact Or.inr hexternal
  · simp only [List.all_eq_true]
    intro row hrow
    rcases hother row hrow with hid | ⟨-, hinternal⟩
    · simp [hid, bindingRow]
    · rw [Bool.or_eq_true, decide_eq_true_eq]
      exact Or.inr (decide_eq_true (of_decide_eq_false hinternal))

/-- Updating the only row that shares a conversation with the binding reconciles it. -/
theorem updateConversationBinding_reconciled (binding : NewConversationBinding) (id : Uuid)
    (hdb : Consistent db)
    (hid : ∃ row ∈ db.conversationBindings,
      row.conversationBindingId = id ∧ isRelated binding row = true)
    (others : ∀ row ∈ db.conversationBindings, row.conversationBindingId ≠ id →
      isRelated binding row = false) :
    ∃ db', updateConversationBinding id binding db = .ok (bindingRow id binding, db') ∧
      Reconciled binding db db' (bindingRow id binding) ∧
      ∀ ref, db'.hasConversationBinding ref = db.hasConversationBinding ref := by
  obtain ⟨target, htarget, rfl, hrelated⟩ := hid
  have hkeys : ∀ row : ConversationBindingRecord,
      (bindingRow row.conversationBindingId binding).conversationBindingId =
        row.conversationBindingId := fun _ => rfl
  have hhas : db.hasConversationBinding (some target.conversationBindingId) = true :=
    hasConversationBinding_iff.mpr ⟨target, htarget, rfl⟩
  unfold updateConversationBinding
  simp only [hhas, if_true, conversationBindingViolation_eq_none others]
  refine ⟨_, rfl, ?_⟩
  generalize hrows : Table.update
    (fun other => other.conversationBindingId = target.conversationBindingId)
    (fun other => bindingRow other.conversationBindingId binding) db.conversationBindings = rows
  -- A row of the new table is the written one, or an old one that shares nothing with it.
  have hmem : ∀ row ∈ rows, row = bindingRow target.conversationBindingId binding ∨
      row ∈ db.conversationBindings ∧ isRelated binding row = false := by
    intro row hrow
    rw [← hrows, Table.mem_update] at hrow
    rcases hrow with ⟨hold, hne⟩ | ⟨old, hold, heq, rfl⟩
    · exact Or.inr ⟨hold, others row hold (of_decide_eq_false hne)⟩
    · exact Or.inl (by rw [of_decide_eq_true heq])
  have hwritten : bindingRow target.conversationBindingId binding ∈ rows := by
    rw [← hrows, Table.mem_update]
    exact Or.inr ⟨target, htarget, by simp, rfl⟩
  have hids : rows.map ConversationBindingRecord.conversationBindingId =
      db.conversationBindings.map ConversationBindingRecord.conversationBindingId := by
    rw [← hrows]
    exact Table.map_key_update hkeys
  have hrefs : ∀ ref, ({ db with conversationBindings := rows } : Database).hasConversationBinding
      ref = db.hasConversationBinding ref := by
    rintro (- | ref)
    · rfl
    · rw [Bool.eq_iff_iff, hasConversationBinding_iff, hasConversationBinding_iff]
      have hmemIds : ref ∈ rows.map ConversationBindingRecord.conversationBindingId ↔
          ref ∈ db.conversationBindings.map ConversationBindingRecord.conversationBindingId := by
        rw [hids]
      simpa using hmemIds
  have hunrelated : ∀ row ∈ rows, isRelated binding row = true →
      row = bindingRow target.conversationBindingId binding := by
    intro row hrow hshare
    rcases hmem row hrow with heq | ⟨-, hnot⟩
    · exact heq
    · rw [hnot] at hshare
      cases hshare
  refine ⟨?_, hrefs⟩
  exact
    { consistent :=
        { ids := by rw [hids]; exact hdb.ids
          external := by
            intro row hrow other hother heq
            rcases hmem row hrow with rfl | ⟨hold, hnot⟩
            · refine (hunrelated other hother ?_).symm
              simp [isRelated, (hasExternalTuple_iff _).mpr heq.symm]
            rcases hmem other hother with rfl | ⟨hold', -⟩
            · exact hunrelated row hrow (by simp [isRelated, (hasExternalTuple_iff _).mpr heq])
            · exact hdb.external row hold other hold' heq
          internal := by
            intro row hrow other hother heq
            rcases hmem row hrow with rfl | ⟨hold, hnot⟩
            · refine (hunrelated other hother ?_).symm
              simp [isRelated, hasInternalRef, ← heq, bindingRow]
            rcases hmem other hother with rfl | ⟨hold', -⟩
            · exact hunrelated row hrow (by simp [isRelated, hasInternalRef, heq, bindingRow])
            · exact hdb.internal row hold other hold' heq
          references := fun event hevent => by
            rw [hrefs]
            exact hdb.references event hevent }
      record_eq := rfl
      mem := hwritten
      only := hunrelated
      kept := by
        intro row hrow hnot
        rw [← hrows, Table.mem_update]
        refine Or.inl ⟨hrow, decide_eq_false fun hid => ?_⟩
        have hsame := Table.eq_of_mem_of_key hdb.ids hrow htarget hid
        rw [hsame, hrelated] at hnot
        cases hnot
      old := fun row hrow => (hmem row hrow).imp_right And.left
      events := (map_repointed_eq_self fun event hevent => by
        rw [hrefs]
        exact hdb.references event hevent).symm
      others := rfl }

/-- Inserting a binding that shares no conversation with a row reconciles it. -/
theorem insertConversationBinding_reconciled (hdb : Consistent db)
    (fresh : ∀ row ∈ db.conversationBindings,
      row.conversationBindingId ≠ binding.conversationBindingId)
    (others : ∀ row ∈ db.conversationBindings, isRelated binding row = false) :
    ∃ db', insertConversationBinding binding db =
        .ok (bindingRow binding.conversationBindingId binding, db') ∧
      Reconciled binding db db' (bindingRow binding.conversationBindingId binding) := by
  have hpkey : (db.conversationBindings.any fun other => other.conversationBindingId =
      (bindingRow binding.conversationBindingId binding).conversationBindingId) = false := by
    rw [List.any_eq_false]
    intro row hrow
    exact fun h => fresh row hrow (of_decide_eq_true h)
  unfold insertConversationBinding
  simp only [hpkey, Bool.false_eq_true, if_false,
    conversationBindingViolation_eq_none fun row hrow _ => others row hrow]
  refine ⟨_, rfl, ?_⟩
  generalize hnew : bindingRow binding.conversationBindingId binding = new
  have hrelated : isRelated binding new = true := by
    rw [← hnew]
    exact isRelated_bindingRow
  -- the new row breaks neither of the two unique constraints
  have hshares : ∀ row ∈ db.conversationBindings, externalTuple row ≠ externalTuple new ∧
      row.internalConversationRef ≠ new.internalConversationRef := by
    intro row hrow
    have hnot := others row hrow
    refine ⟨fun heq => ?_, fun heq => ?_⟩
    · rw [← hnew] at heq
      simp [isRelated, (hasExternalTuple_iff _).mpr heq] at hnot
    · rw [← hnew] at heq
      simp [isRelated, hasInternalRef, heq, bindingRow] at hnot
  have hgrow : ∀ ref, db.hasConversationBinding ref = true →
      ({ db with conversationBindings := db.conversationBindings ++ [new] } :
        Database).hasConversationBinding ref = true := by
    rintro (- | ref) href
    · rfl
    · obtain ⟨row, hrow, hid⟩ := hasConversationBinding_iff.mp href
      exact hasConversationBinding_iff.mpr ⟨row, List.mem_append_left _ hrow, hid⟩
  exact
    { consistent :=
        { ids := Table.nodup_append_fresh hdb.ids fun row hrow => by
            rw [← hnew]
            exact fresh row hrow
          external := by
            intro row hrow other hother heq
            rcases List.mem_append.mp hrow with hold | hlast <;>
              rcases List.mem_append.mp hother with hold' | hlast'
            · exact hdb.external row hold other hold' heq
            · rw [List.mem_singleton.mp hlast'] at heq
              exact absurd heq (hshares row hold).1
            · rw [List.mem_singleton.mp hlast] at heq
              exact absurd heq.symm (hshares other hold').1
            · rw [List.mem_singleton.mp hlast, List.mem_singleton.mp hlast']
          internal := by
            intro row hrow other hother heq
            rcases List.mem_append.mp hrow with hold | hlast <;>
              rcases List.mem_append.mp hother with hold' | hlast'
            · exact hdb.internal row hold other hold' heq
            · rw [List.mem_singleton.mp hlast'] at heq
              exact absurd heq (hshares row hold).2
            · rw [List.mem_singleton.mp hlast] at heq
              exact absurd heq.symm (hshares other hold').2
            · rw [List.mem_singleton.mp hlast, List.mem_singleton.mp hlast']
          references := fun event hevent => hgrow _ (hdb.references event hevent) }
      record_eq := by rw [← hnew]; rfl
      mem := List.mem_append_right _ (List.mem_singleton_self _)
      only := by
        intro row hrow hshare
        rcases List.mem_append.mp hrow with hold | hlast
        · rw [others row hold] at hshare
          cases hshare
        · exact List.mem_singleton.mp hlast
      kept := fun row hrow _ => List.mem_append_left _ hrow
      old := fun row hrow => (List.mem_append.mp hrow).symm.imp_left List.mem_singleton.mp
      events :=
        (map_repointed_eq_self fun event hevent => hgrow _ (hdb.references event hevent)).symm
      others := rfl }

/-- The database of a merge before its last statement: the events of the external row belong to the
internal one, and the external row is gone. -/
def reassigned (externalId internalId : Uuid) (db : Database) : Database :=
  { db with
    ingressEvents :=
      Table.update (fun row => row.conversationBindingId = some externalId)
        (fun row => { row with conversationBindingId := some internalId }) db.ingressEvents
    conversationBindings :=
      db.conversationBindings.filter fun row => row.conversationBindingId ≠ externalId }

section Merge

variable {externalId internalId : Uuid}

theorem mem_bindings_reassigned {row : ConversationBindingRecord} :
    row ∈ (reassigned externalId internalId db).conversationBindings ↔
      row ∈ db.conversationBindings ∧ row.conversationBindingId ≠ externalId := by
  simp [reassigned]

/-- No event refers to the external row any more. -/
theorem binding_ne_of_mem_reassigned (hne : externalId ≠ internalId) {event : IngressEventRecord}
    (hevent : event ∈ (reassigned externalId internalId db).ingressEvents) :
    event.conversationBindingId ≠ some externalId := by
  rw [reassigned, Table.mem_update] at hevent
  rcases hevent with ⟨-, hnot⟩ | ⟨old, -, -, rfl⟩
  · exact of_decide_eq_false hnot
  · simpa using Ne.symm hne

/-- The external row is the only one that cannot be referred to any more. -/
theorem hasConversationBinding_reassigned (ref : Option Uuid) :
    (reassigned externalId internalId db).hasConversationBinding ref =
      (db.hasConversationBinding ref && ref ≠ some externalId) := by
  cases ref with
  | none => rfl
  | some ref =>
    rw [Bool.eq_iff_iff, Bool.and_eq_true, hasConversationBinding_iff, hasConversationBinding_iff]
    constructor
    · rintro ⟨row, hrow, rfl⟩
      obtain ⟨hold, hother⟩ := mem_bindings_reassigned.mp hrow
      exact ⟨⟨row, hold, rfl⟩, by simpa using hother⟩
    · rintro ⟨⟨row, hrow, rfl⟩, hother⟩
      exact ⟨row, mem_bindings_reassigned.mpr ⟨hrow, by simpa using hother⟩, rfl⟩

/-- The constraints hold before the internal row takes over the tuple, too. -/
theorem Consistent.reassigned (hdb : Consistent db) (hne : externalId ≠ internalId)
    (hinternal : db.hasConversationBinding (some internalId) = true) :
    Consistent (reassigned externalId internalId db) where
  ids := hdb.ids.sublist (List.filter_sublist.map _)
  external := fun row hrow other hother =>
    hdb.external row (mem_bindings_reassigned.mp hrow).1 other
      (mem_bindings_reassigned.mp hother).1
  internal := fun row hrow other hother =>
    hdb.internal row (mem_bindings_reassigned.mp hrow).1 other
      (mem_bindings_reassigned.mp hother).1
  references := by
    intro event hevent
    have hnot := binding_ne_of_mem_reassigned hne hevent
    rw [hasConversationBinding_reassigned, Bool.and_eq_true]
    refine ⟨?_, by simpa using hnot⟩
    rw [Foreground.reassigned, Table.mem_update] at hevent
    rcases hevent with ⟨hold, -⟩ | ⟨old, -, -, rfl⟩
    · exact hdb.references event hold
    · exact hinternal

/-- The first two statements of the merge go through, in their order: the external row can go
because no event refers to it any more. -/
theorem mergeConversationBindings_eq (hne : externalId ≠ internalId)
    (hinternal : db.hasConversationBinding (some internalId) = true) :
    mergeConversationBindings externalId internalId binding db =
      updateConversationBinding internalId binding (reassigned externalId internalId db) := by
  have hreassign : reassignIngressEventBindings externalId internalId db = .ok { db with
      ingressEvents := (reassigned externalId internalId db).ingressEvents } := by
    simp [reassignIngressEventBindings, hinternal, reassigned]
  have hunused : ((reassigned externalId internalId db).ingressEvents.any fun row =>
      row.conversationBindingId = some externalId) = false := by
    rw [List.any_eq_false]
    intro event hevent
    simpa using binding_ne_of_mem_reassigned hne hevent
  have hdelete : deleteConversationBinding externalId { db with
      ingressEvents := (reassigned externalId internalId db).ingressEvents } =
        .ok (reassigned externalId internalId db) := by
    rw [deleteConversationBinding, if_neg (by rw [hunused]; exact Bool.false_ne_true)]
    rfl
  unfold mergeConversationBindings
  simp only [hreassign, hdelete, bind, Except.bind]

/-- Events that referred to the external row are repointed to the internal one, the others are
left alone. -/
theorem ingressEvents_reassigned (hdb : Consistent db) {db' : Database}
    (hkeep : ∀ ref, db'.hasConversationBinding ref =
      (reassigned externalId internalId db).hasConversationBinding ref) :
    (reassigned externalId internalId db).ingressEvents =
      db.ingressEvents.map (repointed db' internalId) := by
  refine List.map_congr_left fun event hevent => ?_
  simp only [repointed, hkeep, hasConversationBinding_reassigned, hdb.references event hevent,
    Bool.true_and]
  by_cases hgone : event.conversationBindingId = some externalId
  · simp [hgone]
  · simp [hgone]

end Merge

/-- Merging the external row into the internal one reconciles a binding that shares a
conversation with each. -/
theorem mergeConversationBindings_reconciled {external internal : ConversationBindingRecord}
    (hdb : Consistent db) (hexternal : external ∈ db.conversationBindings)
    (hinternal : internal ∈ db.conversationBindings)
    (hne : external.conversationBindingId ≠ internal.conversationBindingId)
    (hshare : isRelated binding internal = true)
    (hshare' : isRelated binding external = true)
    (others : ∀ row ∈ db.conversationBindings, row ≠ external → row ≠ internal →
      isRelated binding row = false) :
    ∃ db', mergeConversationBindings external.conversationBindingId
        internal.conversationBindingId binding db =
          .ok (bindingRow internal.conversationBindingId binding, db') ∧
      Reconciled binding db db' (bindingRow internal.conversationBindingId binding) := by
  have hhas : db.hasConversationBinding (some internal.conversationBindingId) = true :=
    hasConversationBinding_iff.mpr ⟨internal, hinternal, rfl⟩
  have hmerged := hdb.reassigned hne hhas
  -- in what is left, the internal row is the only one that shares a conversation
  obtain ⟨db', hupdate, hreconciled, hkeep⟩ :=
    updateConversationBinding_reconciled binding internal.conversationBindingId hmerged
      ⟨internal, mem_bindings_reassigned.mpr ⟨hinternal, Ne.symm hne⟩, rfl, hshare⟩ (by
        intro row hrow hid
        obtain ⟨hold, hid'⟩ := mem_bindings_reassigned.mp hrow
        exact others row hold (fun heq => hid' (by rw [heq])) fun heq => hid (by rw [heq]))
  refine ⟨db', (mergeConversationBindings_eq hne hhas).trans hupdate, ?_⟩
  exact
    { consistent := hreconciled.consistent
      record_eq := rfl
      mem := hreconciled.mem
      only := hreconciled.only
      kept := by
        intro row hrow hnot
        refine hreconciled.kept row (mem_bindings_reassigned.mpr ⟨hrow, fun hid => ?_⟩) hnot
        rw [Table.eq_of_mem_of_key hdb.ids hrow hexternal hid, hshare'] at hnot
        cases hnot
      old := fun row hrow =>
        (hreconciled.old row hrow).imp_right fun h => (mem_bindings_reassigned.mp h).1
      events := by
        rw [hreconciled.events, map_repointed_eq_self fun event hevent => by
          rw [hkeep]
          exact hmerged.references event hevent]
        exact ingressEvents_reassigned hdb hkeep
      others := by
        rw [hreconciled.others]
        rfl }

end Statements

/-! ## Reconciliation -/

theorem findByExternal_eq_none {binding : NewConversationBinding} {db : Database}
    (h : findLockedConversationBindingByExternalTuple binding db = none) :
    ∀ row ∈ db.conversationBindings, hasExternalTuple binding row = false := by
  simpa [findLockedConversationBindingByExternalTuple] using h

theorem findByInternal_eq_none {binding : NewConversationBinding} {db : Database}
    (h : findLockedConversationBindingByInternalRef binding db = none) :
    ∀ row ∈ db.conversationBindings, hasInternalRef binding row = false := by
  simpa [findLockedConversationBindingByInternalRef] using h

/-- The external lookup finds the only row with the tuple. -/
theorem findByExternal_eq_some {binding : NewConversationBinding} {db : Database}
    {found : ConversationBindingRecord} (hdb : Consistent db)
    (h : findLockedConversationBindingByExternalTuple binding db = some found) :
    found ∈ db.conversationBindings ∧ hasExternalTuple binding found = true ∧
      ∀ row ∈ db.conversationBindings, hasExternalTuple binding row = true → row = found := by
  have hmem := List.mem_of_find?_eq_some h
  have hfound := List.find?_some h
  refine ⟨hmem, hfound, fun row hrow hshare => hdb.external row hrow found hmem ?_⟩
  rw [hasExternalTuple_iff 0] at hshare hfound
  rw [hshare, hfound]

/-- The internal lookup finds the only row with the reference. -/
theorem findByInternal_eq_some {binding : NewConversationBinding} {db : Database}
    {found : ConversationBindingRecord} (hdb : Consistent db)
    (h : findLockedConversationBindingByInternalRef binding db = some found) :
    found ∈ db.conversationBindings ∧ hasInternalRef binding found = true ∧
      ∀ row ∈ db.conversationBindings, hasInternalRef binding row = true → row = found := by
  have hmem := List.mem_of_find?_eq_some h
  have hfound := List.find?_some h
  refine ⟨hmem, hfound, fun row hrow hshare => hdb.internal row hrow found hmem ?_⟩
  rw [of_decide_eq_true hshare, of_decide_eq_true hfound]

/-- Whatever the two lookups find, a binding with a new identifier is reconciled: it is inserted,
written over the one row that shares a conversation with it, or two rows are merged. -/
theorem reconcileInTx_reconciled {binding : NewConversationBinding} {db : Database}
    (hdb : Consistent db)
    (fresh : ∀ row ∈ db.conversationBindings,
      row.conversationBindingId ≠ binding.conversationBindingId) :
    ∃ result db', reconcileConversationBindingInTx binding db = .ok (result, db') ∧
      Reconciled binding db db' result.record := by
  unfold reconcileConversationBindingInTx reconcileFound
  cases hexternal : findLockedConversationBindingByExternalTuple binding db with
  | none =>
    have hnoExternal := findByExternal_eq_none hexternal
    cases hinternal : findLockedConversationBindingByInternalRef binding db with
    | none =>
      have hnoInternal := findByInternal_eq_none hinternal
      obtain ⟨db', hinsert, hreconciled⟩ := insertConversationBinding_reconciled hdb fresh
        fun row hrow => by simp [isRelated, hnoExternal row hrow, hnoInternal row hrow]
      simp only [hinsert]
      exact ⟨_, db', rfl, hreconciled⟩
    | some internal =>
      obtain ⟨hmem, hshare, honly⟩ := findByInternal_eq_some hdb hinternal
      obtain ⟨db', hupdate, hreconciled, -⟩ := updateConversationBinding_reconciled
        binding internal.conversationBindingId hdb ⟨internal, hmem, rfl, by simp [isRelated, hshare]⟩
        fun row hrow hid => by
          have : hasInternalRef binding row = false := by
            by_contra hother
            exact hid (by rw [honly row hrow (by simpa using hother)])
          simp [isRelated, hnoExternal row hrow, this]
      simp only [hupdate]
      exact ⟨_, db', rfl, hreconciled⟩
  | some external =>
    obtain ⟨hmem, hshare, honly⟩ := findByExternal_eq_some hdb hexternal
    cases hinternal : findLockedConversationBindingByInternalRef binding db with
    | none =>
      have hnoInternal := findByInternal_eq_none hinternal
      obtain ⟨db', hupdate, hreconciled, -⟩ := updateConversationBinding_reconciled
        binding external.conversationBindingId hdb ⟨external, hmem, rfl, by simp [isRelated, hshare]⟩
        fun row hrow hid => by
          have : hasExternalTuple binding row = false := by
            by_contra hother
            exact hid (by rw [honly row hrow (by simpa using hother)])
          simp [isRelated, hnoInternal row hrow, this]
      simp only [hupdate]
      exact ⟨_, db', rfl, hreconciled⟩
    | some internal =>
      obtain ⟨hmem', hshare', honly'⟩ := findByInternal_eq_some hdb hinternal
      have hothers : ∀ row ∈ db.conversationBindings, row ≠ external → row ≠ internal →
          isRelated binding row = false := by
        intro row hrow hne hne'
        rw [isRelated, Bool.or_eq_false_iff]
        constructor
        · by_contra hother
          exact hne (honly row hrow (by simpa using hother))
        · by_contra hother
          exact hne' (honly' row hrow (by simpa using hother))
      dsimp only
      split
      · rename_i hsame
        have heq := Table.eq_of_mem_of_key hdb.ids hmem hmem' hsame
        obtain ⟨db', hupdate, hreconciled, -⟩ := updateConversationBinding_reconciled
          binding internal.conversationBindingId hdb
          ⟨internal, hmem', rfl, by simp [isRelated, hshare']⟩
          fun row hrow hid => hothers row hrow (fun h => hid (by rw [h, heq]))
            fun h => hid (by rw [h])
        simp only [hupdate]
        exact ⟨_, db', rfl, hreconciled⟩
      · rename_i hne
        obtain ⟨db', hmerge, hreconciled⟩ := mergeConversationBindings_reconciled hdb hmem hmem'
          hne (by simp [isRelated, hshare']) (by simp [isRelated, hshare]) hothers
        simp only [hmerge]
        exact ⟨_, db', rfl, hreconciled⟩

/-- A database that a binding was reconciled with finds its row by both lookups. -/
theorem Reconciled.found {binding : NewConversationBinding} {db db' : Database}
    {record : ConversationBindingRecord} (h : Reconciled binding db db' record) :
    findLockedConversationBindingByExternalTuple binding db' = some record ∧
      findLockedConversationBindingByInternalRef binding db' = some record := by
  have hexternal : hasExternalTuple binding record = true := by
    rw [h.record_eq]
    exact (hasExternalTuple_iff _).mpr rfl
  have hinternal : hasInternalRef binding record = true := by
    rw [h.record_eq]
    simp [hasInternalRef, bindingRow]
  constructor
  · cases hfind : findLockedConversationBindingByExternalTuple binding db' with
    | none =>
      rw [findByExternal_eq_none hfind record h.mem] at hexternal
      cases hexternal
    | some found =>
      obtain ⟨-, -, honly⟩ := findByExternal_eq_some h.consistent hfind
      rw [honly record h.mem hexternal]
  · cases hfind : findLockedConversationBindingByInternalRef binding db' with
    | none =>
      rw [findByInternal_eq_none hfind record h.mem] at hinternal
      cases hinternal
    | some found =>
      obtain ⟨-, -, honly⟩ := findByInternal_eq_some h.consistent hfind
      rw [honly record h.mem hinternal]

/-- Reconciling again writes the row it finds. -/
theorem Reconciled.again {binding : NewConversationBinding} {db db' : Database}
    {record : ConversationBindingRecord} (h : Reconciled binding db db' record) :
    ∃ result db'', reconcileConversationBindingInTx binding db' = .ok (result, db'') ∧
      db''.conversationBindings = db'.conversationBindings := by
  obtain ⟨hexternal, hinternal⟩ := h.found
  have hhas : db'.hasConversationBinding (some record.conversationBindingId) = true :=
    hasConversationBinding_iff.mpr ⟨record, h.mem, rfl⟩
  have hvalid : db'.conversationBindingViolation
      (bindingRow record.conversationBindingId binding) = none := by
    refine conversationBindingViolation_eq_none fun row hrow hid => ?_
    by_contra hshare
    exact hid (by rw [h.only row hrow (by simpa using hshare)])
  unfold reconcileConversationBindingInTx reconcileFound
  simp only [hexternal, hinternal, if_true, updateConversationBinding, hhas, hvalid]
  refine ⟨_, _, rfl, ?_⟩
  conv_rhs => rw [← List.map_id db'.conversationBindings]
  refine List.map_congr_left fun row hrow => ?_
  by_cases hid : row.conversationBindingId = record.conversationBindingId
  · have heq := Table.eq_of_mem_of_key h.consistent.ids hrow h.mem hid
    rw [heq, if_pos (by simp)]
    show bindingRow record.conversationBindingId binding = record
    exact h.record_eq.symm
  · simp [hid]

/-- Reconciling a new binding with a consistent database goes through at every statement,
leaves the database consistent with one row for the binding's conversations, keeps the
unrelated rows, moves the events of a row that goes, and changes no row when it is done again. -/
theorem reconcileConversationBinding_reconciled (binding : NewConversationBinding)
    (db : Database) (consistent : Consistent db)
    (fresh : ∀ row ∈ db.conversationBindings,
      row.conversationBindingId ≠ binding.conversationBindingId) :
    ∃ result db', reconcileConversationBindingInTx binding db = .ok (result, db') ∧
      Reconciled binding db db' result.record ∧
      ∃ result' db'', reconcileConversationBindingInTx binding db' = .ok (result', db'') ∧
        db''.conversationBindings = db'.conversationBindings := by
  obtain ⟨result, db', hok, hreconciled⟩ := reconcileInTx_reconciled consistent fresh
  exact ⟨result, db', hok, hreconciled, hreconciled.again⟩

/-- A conversation that was known under two rows, one for each of its names. -/
def twoRows : Database where
  conversationBindings :=
    [{ conversationBindingId := 1, channelKind := .telegram, externalUserId := "42"
       externalConversationId := "42", internalPrincipalRef := "old"
       internalConversationRef := "old" },
     { conversationBindingId := 2, channelKind := .telegram, externalUserId := "7"
       externalConversationId := "7", internalPrincipalRef := "primary"
       internalConversationRef := "telegram-primary" }]

def sampleBinding : NewConversationBinding where
  conversationBindingId := 3
  channelKind := .telegram
  externalUserId := "42"
  externalConversationId := "42"
  internalPrincipalRef := "primary"
  internalConversationRef := "telegram-primary"

theorem reconcileConversationBinding_reconciled_twoRows :
    ∃ result db', reconcileConversationBindingInTx sampleBinding twoRows = .ok (result, db') ∧
      result.action = .merged ∧ Reconciled sampleBinding twoRows db' result.record := by
  have consistent : Consistent twoRows :=
    { ids := by decide
      external := by decide
      internal := by decide
      references := by decide }
  obtain ⟨result, db', hok, hreconciled, -⟩ :=
    reconcileConversationBinding_reconciled sampleBinding twoRows consistent (by decide)
  refine ⟨result, db', hok, ?_, hreconciled⟩
  have hmerged : (reconcileConversationBindingInTx sampleBinding twoRows).map (·.1.action) =
      .ok .merged := rfl
  rw [hok] at hmerged
  exact Except.ok.inj hmerged

end Foreground

end BlueLagoon
