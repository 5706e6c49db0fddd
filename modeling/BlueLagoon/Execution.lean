import BlueLagoon.Harness

/-!
# Execution records, audit events and causal links

The record keeping every subsystem uses.
-/

namespace BlueLagoon

open Interleaving Harness

/-! ## Audit events -/

structure NewAuditEvent where
  loopKind : String
  subsystem : String
  eventKind : String
  severity : String
  traceId : Uuid
  executionId : Option Uuid
  payload : Json

namespace Audit

/-- The row of a new event. -/
def row (eventId : Uuid) (now : DateTime) (event : NewAuditEvent) : AuditEvent where
  eventId := eventId
  occurredAt := now
  loopKind := event.loopKind
  subsystem := event.subsystem
  eventKind := event.eventKind
  severity := event.severity
  traceId := event.traceId
  executionId := event.executionId
  payload := event.payload

/-- `audit::insert`. -/
def insert (event : NewAuditEvent) : Harness Uuid := do
  let eventId ← newUuid
  execute "failed to insert audit event" fun now db =>
    .ok { value := eventId
          db := { db with auditEvents := db.auditEvents ++ [row eventId now event] } }

theorem insert_confined {B : Database → Database → List Event → Prop}
    (h : ∀ db rows, B db { db with auditEvents := rows } []) (event : NewAuditEvent) :
    (insert event).Confined (OnDb B) := by
  have refl : ∀ db, B db db [] := fun db => h db db.auditEvents
  refine Prog.Confined.bind (confined_newUuid refl) fun _ => confined_execute refl ?_
  intro now db effect hbody
  obtain rfl := Except.ok.inj hbody
  exact h db _

/-- The event is written, or the database was not reached. -/
theorem insert_alone {answers : Answers system} {event : NewAuditEvent} {w : World}
    {es : List Event} {Q : Except ErrorChain Uuid → World → List Event → Prop}
    (ok : ∀ id issued rows,
      Q (.ok id) { w with db := { w.db with auditEvents := rows }, issued := issued } es)
    (fault : ∀ e issued, IsFault e → Q (.error e) { w with issued := issued } es) :
    (insert event).Alone answers Q w es := by
  refine Prog.Alone.bind (R := fun r w' es' => ∃ id issued,
    r = .ok id ∧ w' = { w with issued := issued } ∧ es' = es) ?_ ?_ ?_
  · exact alone_newUuid fun id _ => ⟨id, _, rfl, rfl, rfl⟩
  · rintro id w' es' ⟨_, issued, -, rfl, rfl⟩
    refine alone_execute (fun now effect hbody => ?_) (fun now cause hbody => by cases hbody)
      (fun e he => fault e issued he)
    obtain rfl := Except.ok.inj hbody
    simpa using ok id issued _
  · rintro e w' es' ⟨_, _, h, -⟩
    cases h

end Audit

/-! ## Causal links -/

structure NewCausalLink where
  traceId : Uuid
  sourceKind : String
  sourceId : Uuid
  targetKind : String
  targetId : Uuid
  edgeKind : String
  payload : Json

namespace CausalLinks

/-- Does the table hold a link between the same ends already? -/
def linked (db : Database) (link : NewCausalLink) : Bool :=
  db.causalLinks.any fun row =>
    row.sourceKind = link.sourceKind && row.sourceId = link.sourceId &&
      row.targetKind = link.targetKind && row.targetId = link.targetId &&
      row.edgeKind = link.edgeKind

/-- `INSERT .. ON CONFLICT .. DO NOTHING`. -/
def add (causalLinkId : Uuid) (link : NewCausalLink) (db : Database) : Database :=
  if linked db link then db
  else
    { db with causalLinks := db.causalLinks ++
        [{ causalLinkId := causalLinkId, traceId := link.traceId
           sourceKind := link.sourceKind, sourceId := link.sourceId
           targetKind := link.targetKind, targetId := link.targetId
           edgeKind := link.edgeKind, payload := link.payload }] }

/-- `causal_links::insert`. -/
def insert (link : NewCausalLink) : Harness Uuid := do
  let causalLinkId ← newUuid
  execute "failed to insert causal link" fun _ db =>
    .ok { value := causalLinkId, db := add causalLinkId link db }

theorem insert_confined {B : Database → Database → List Event → Prop}
    (h : ∀ db rows, B db { db with causalLinks := rows } []) (link : NewCausalLink) :
    (insert link).Confined (OnDb B) := by
  have refl : ∀ db, B db db [] := fun db => h db db.causalLinks
  refine Prog.Confined.bind (confined_newUuid refl) fun _ => confined_execute refl ?_
  intro now db effect hbody
  obtain rfl := Except.ok.inj hbody
  dsimp only [add]
  split
  · exact refl db
  · exact h db _

end CausalLinks

/-! ## Execution records -/

structure NewExecutionRecord where
  executionId : Uuid
  traceId : Uuid
  triggerKind : String
  syntheticTrigger : Option String
  status : String
  requestPayload : Json

namespace Execution

/-- The row of a new record. -/
def row (now : DateTime) (record : NewExecutionRecord) : ExecutionRecord where
  executionId := record.executionId
  traceId := record.traceId
  triggerKind := record.triggerKind
  syntheticTrigger := record.syntheticTrigger
  status := record.status
  requestPayload := record.requestPayload
  createdAt := now
  updatedAt := now

/-- `execution::insert`; `events` is logged when the record is inserted. -/
def insertLogging (events : List Event) (record : NewExecutionRecord) : Harness Unit :=
  execute "failed to insert execution record" fun now db =>
    match db.executionRecordViolation (row now record) with
    | some constraint => .error constraint
    | none =>
      .ok { value := ()
            db := { db with executionRecords := db.executionRecords ++ [row now record] }
            events := events }

/-- `execution::insert`. -/
def insert (record : NewExecutionRecord) : Harness Unit := insertLogging [] record

/-- `UPDATE execution_records .. WHERE execution_id = $1`. -/
def change (db : Database) (executionId : Uuid) (f : ExecutionRecord → ExecutionRecord) :
    Database :=
  { db with executionRecords :=
      Table.update (fun row => row.executionId = executionId) f db.executionRecords }

/-- `execution::mark_succeeded`. -/
def markSucceeded (executionId : Uuid) (workerKind : String) (workerPid : Int)
    (responsePayload : Json) : Harness Unit :=
  execute "failed to mark execution record as completed" fun now db =>
    .ok { value := ()
          db := change db executionId fun row =>
            { row with
                status := "completed"
                workerKind := some workerKind
                workerPid := some workerPid
                responsePayload := some responsePayload
                updatedAt := now
                completedAt := some now } }

/-- `execution::mark_failed`. -/
def markFailed (executionId : Uuid) (responsePayload : Json) : Harness Unit :=
  execute "failed to mark execution record as failed" fun now db =>
    .ok { value := ()
          db := change db executionId fun row =>
            { row with
                status := "failed"
                responsePayload := some responsePayload
                updatedAt := now
                completedAt := some now } }

/-- `execution::get`. -/
def get (executionId : Uuid) : Harness ExecutionRecord :=
  fetchOne "failed to fetch execution record" fun db =>
    Table.find ExecutionRecord.executionId executionId db.executionRecords

/-- The record is marked, or the database was not reached. -/
theorem markFailed_alone {answers : Answers system} {executionId : Uuid}
    {responsePayload : Json} {w : World} {es : List Event}
    {Q : Except ErrorChain Unit → World → List Event → Prop}
    (ok : ∀ rows, Q (.ok ()) { w with db := { w.db with executionRecords := rows } } es)
    (fault : ∀ e, IsFault e → Q (.error e) w es) :
    (markFailed executionId responsePayload).Alone answers Q w es := by
  refine alone_execute (fun now effect hbody => ?_) (fun now cause hbody => by cases hbody) fault
  obtain rfl := Except.ok.inj hbody
  rw [List.append_nil]
  exact ok _

/-! ### Ended executions -/

/-- The record has the status of an execution that goes on. -/
def Started (executionId : Uuid) (db : Database) : Prop :=
  ∃ row, Table.find ExecutionRecord.executionId executionId db.executionRecords = some row ∧
    row.status = "started"

/-- The record has a terminal status. -/
def Ended (executionId : Uuid) (db : Database) : Prop :=
  ∃ row, Table.find ExecutionRecord.executionId executionId db.executionRecords = some row ∧
    row.status ≠ "started"

instance (executionId : Uuid) (db : Database) : Decidable (Started executionId db) :=
  decidable_of_iff
    ((Table.find ExecutionRecord.executionId executionId db.executionRecords).any
      fun row => row.status = "started")
    (by rw [Option.any_eq_true]; simp [Started])

/-- Records are added and ended; none is removed, and none starts again. -/
def Advances (rows rows' : List ExecutionRecord) : Prop :=
  ∀ executionId row, Table.find ExecutionRecord.executionId executionId rows = some row →
    ∃ row', Table.find ExecutionRecord.executionId executionId rows' = some row' ∧
      (row.status ≠ "started" → row'.status ≠ "started")

namespace Advances

variable {rows rows' rows'' : List ExecutionRecord}

theorem refl (rows : List ExecutionRecord) : Advances rows rows :=
  fun _ row hrow => ⟨row, hrow, fun h => h⟩

theorem trans (h : Advances rows rows') (h' : Advances rows' rows'') : Advances rows rows'' := by
  intro executionId row hrow
  obtain ⟨row', hrow', hended⟩ := h executionId row hrow
  obtain ⟨row'', hrow'', hended'⟩ := h' executionId row' hrow'
  exact ⟨row'', hrow'', fun hrow => hended' (hended hrow)⟩

theorem append (rows added : List ExecutionRecord) : Advances rows (rows ++ added) :=
  fun _ row hrow => ⟨row, Table.find_append_of_some hrow added, fun h => h⟩

/-- Rows that are changed keep their key and end. -/
theorem update {which : ExecutionRecord → Bool} {f : ExecutionRecord → ExecutionRecord}
    (hkey : ∀ row, (f row).executionId = row.executionId)
    (hended : ∀ row, (f row).status ≠ "started") (rows : List ExecutionRecord) :
    Advances rows (Table.update which f rows) := by
  intro executionId row hrow
  refine ⟨if which row then f row else row, ?_, fun hrow => ?_⟩
  · rw [Table.find_update hkey, hrow]
    rfl
  · split
    · exact hended row
    · exact hrow

/-- What has ended has ended for good. -/
theorem ended {db db' : Database} (h : Advances db.executionRecords db'.executionRecords)
    {executionId : Uuid} (hended : Ended executionId db) : Ended executionId db' := by
  obtain ⟨row, hrow, hstatus⟩ := hended
  obtain ⟨row', hrow', hkept⟩ := h executionId row hrow
  exact ⟨row', hrow', hkept hstatus⟩

/-- An execution that goes on has gone on all along, if there was one. -/
theorem started {db db' : Database} (h : Advances db.executionRecords db'.executionRecords)
    {executionId : Uuid} (hstarted : Started executionId db) :
    Started executionId db' ∨ Ended executionId db' := by
  obtain ⟨row, hrow, -⟩ := hstarted
  obtain ⟨row', hrow', -⟩ := h executionId row hrow
  by_cases hstatus : row'.status = "started"
  · exact Or.inl ⟨row', hrow', hstatus⟩
  · exact Or.inr ⟨row', hrow', hstatus⟩

end Advances

/-! ### What they touch -/

section Confined

variable {B : Database → Database → List Event → Prop}

theorem insert_confined (h : ∀ db rows, Advances db.executionRecords rows →
    B db { db with executionRecords := rows } []) (record : NewExecutionRecord) :
    (insert record).Confined (OnDb B) := by
  refine confined_execute (fun db => h db db.executionRecords (.refl _)) ?_
  intro now db effect hbody
  split at hbody
  · cases hbody
  · obtain rfl := Except.ok.inj hbody
    exact h db _ (.append _ _)

theorem markSucceeded_confined (h : ∀ db rows, Advances db.executionRecords rows →
    B db { db with executionRecords := rows } []) (executionId : Uuid) (workerKind : String)
    (workerPid : Int) (responsePayload : Json) :
    (markSucceeded executionId workerKind workerPid responsePayload).Confined (OnDb B) := by
  refine confined_execute (fun db => h db db.executionRecords (.refl _)) ?_
  intro now db effect hbody
  obtain rfl := Except.ok.inj hbody
  refine h db _ (.update ?_ ?_ _)
  · intro row
    rfl
  · intro row
    show "completed" ≠ "started"
    decide

theorem markFailed_confined (h : ∀ db rows, Advances db.executionRecords rows →
    B db { db with executionRecords := rows } []) (executionId : Uuid) (responsePayload : Json) :
    (markFailed executionId responsePayload).Confined (OnDb B) := by
  refine confined_execute (fun db => h db db.executionRecords (.refl _)) ?_
  intro now db effect hbody
  obtain rfl := Except.ok.inj hbody
  refine h db _ (.update ?_ ?_ _)
  · intro row
    rfl
  · intro row
    show "failed" ≠ "started"
    decide

end Confined

end Execution

end BlueLagoon
