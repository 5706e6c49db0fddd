import BlueLagoon.Execution

/-!
# Governed-action records

One row per governed action, from the moment it is planned. Six writers share
`update_governed_action_execution`, which overwrites some columns and keeps others
when it is given no value.
-/

namespace BlueLagoon

open Interleaving Harness

structure GovernedActionPlanningRequest where
  governedActionExecutionId : Uuid
  traceId : Uuid
  executionId : Option Uuid
  proposal : GovernedActionProposal

structure GovernedActionExecutionUpdate where
  governedActionExecutionId : Uuid
  status : GovernedActionStatus
  executionId : Option Uuid
  outputRef : Option String
  blockedReason : Option String
  approvalRequestId : Option Uuid
  startedAt : Option DateTime
  completedAt : Option DateTime
  deriving DecidableEq, Repr

namespace GovernedActions

/-- The record with the given identifier. -/
abbrev recordOf (id : Uuid) (db : Database) : Option GovernedActionExecutionRecord :=
  Table.find GovernedActionExecutionRecord.governedActionExecutionId id
    db.governedActionExecutions

/-- `get_governed_action_execution`. -/
def getGovernedActionExecution (governedActionExecutionId : Uuid) :
    Harness GovernedActionExecutionRecord :=
  fetchOne "failed to fetch governed action execution" (recordOf governedActionExecutionId)

/-- `ORDER BY created_at DESC, governed_action_execution_id DESC`. -/
def createdAfter (a b : GovernedActionExecutionRecord) : Bool :=
  decide (a.createdAt > b.createdAt) ||
    (decide (a.createdAt = b.createdAt) &&
      decide (a.governedActionExecutionId > b.governedActionExecutionId))

/-- The records an approval request is attached to. -/
def linkedTo (approvalRequestId : Uuid) (db : Database) : List GovernedActionExecutionRecord :=
  db.governedActionExecutions.filter fun row => row.approvalRequestId = some approvalRequestId

/-- The record the lookup by approval request returns: the latest of them. -/
def latestLinked (approvalRequestId : Uuid) (db : Database) :
    Option GovernedActionExecutionRecord :=
  Table.first createdAfter (linkedTo approvalRequestId db)

/-- `get_governed_action_execution_by_approval_request_id`. -/
def getGovernedActionExecutionByApprovalRequestId (approvalRequestId : Uuid) :
    Harness (Option GovernedActionExecutionRecord) :=
  fetch "failed to fetch governed action execution by approval request"
    (latestLinked approvalRequestId)

/-- The records of an execution, in order of creation. -/
def recordsOfExecution (executionId : Uuid) (db : Database) : List GovernedActionExecutionRecord :=
  (db.governedActionExecutions.filter fun row => row.executionId = some executionId).insertionSort
    fun a b => createdAfter a b = false

/-- `list_governed_action_executions_by_execution_id`. -/
def listGovernedActionExecutionsByExecutionId (executionId : Uuid) :
    Harness (List GovernedActionExecutionRecord) :=
  fetch "failed to list governed action executions by execution id"
    (recordsOfExecution executionId)

/-- The reference to the output of an execution. -/
def executionOutputRef (executionId : Uuid) : String := s!"execution_record:{executionId}"

/-! ## Planning -/

/-- The script and version a payload names. -/
def scriptRefs : GovernedActionPayload → Option Uuid × Option Uuid
  | .runWorkspaceScript action => (some action.scriptId, action.scriptVersionId)
  | .inspectWorkspaceScript action => (some action.scriptId, action.scriptVersionId)
  | .createWorkspaceScript _ => (none, none)
  | .appendWorkspaceScriptVersion action => (some action.scriptId, none)
  | .listWorkspaceScriptRuns action => (some action.scriptId, none)
  | _ => (none, none)

/-- The row of a newly planned action. -/
def plannedRow (now : DateTime) (request : GovernedActionPlanningRequest)
    (actionFingerprint : GovernedActionFingerprint) (riskTier : GovernedActionRiskTier)
    (status : GovernedActionStatus) (blockedReason : Option String) :
    GovernedActionExecutionRecord where
  governedActionExecutionId := request.governedActionExecutionId
  traceId := request.traceId
  executionId := request.executionId
  approvalRequestId := none
  actionProposalId := request.proposal.proposalId
  actionFingerprint := actionFingerprint
  actionKind := request.proposal.actionKind
  riskTier := riskTier
  status := status
  capabilityScope := request.proposal.capabilityScope
  payload := request.proposal.payload
  workspaceScriptId := (scriptRefs request.proposal.payload).1
  workspaceScriptVersionId := (scriptRefs request.proposal.payload).2
  blockedReason := blockedReason
  outputRef := none
  startedAt := none
  completedAt := none
  createdAt := now
  updatedAt := now

/-- The insert of `persist_governed_action_execution`. -/
def insertRecord (row : GovernedActionExecutionRecord) (db : Database) :
    Except String (Effect Unit) :=
  if db.governedActionExecutions.any fun other =>
      other.governedActionExecutionId = row.governedActionExecutionId then
    .error "governed_action_executions_pkey"
  else
    match db.governedActionExecutionViolation row with
    | some constraint => .error constraint
    | none =>
      .ok { value := ()
            db := { db with governedActionExecutions := db.governedActionExecutions ++ [row] }
            events := [.actionPlanned row.governedActionExecutionId row.actionFingerprint
              row.riskTier] }

/-- `persist_governed_action_execution`. -/
def persistGovernedActionExecution (request : GovernedActionPlanningRequest)
    (actionFingerprint : GovernedActionFingerprint) (riskTier : GovernedActionRiskTier)
    (status : GovernedActionStatus) (blockedReason : Option String) : Harness Unit :=
  execute "failed to insert governed action execution" fun now db =>
    insertRecord (plannedRow now request actionFingerprint riskTier status blockedReason) db

/-! ## Updates -/

/-- `UPDATE governed_action_executions .. WHERE governed_action_execution_id = $1`. -/
def changeRecord (id : Uuid)
    (change : GovernedActionExecutionRecord → GovernedActionExecutionRecord)
    (events : List Event) (db : Database) : Except String (Effect Unit) :=
  match recordOf id db with
  | none => .ok { value := (), db := db }
  | some row =>
    match db.governedActionExecutionViolation (change row) with
    | some constraint => .error constraint
    | none =>
      .ok { value := ()
            db := { db with
              governedActionExecutions :=
                Table.update (fun row => row.governedActionExecutionId = id) change
                  db.governedActionExecutions }
            events := events }

/-- What the statement does when it goes through: nothing, or one record changes. -/
theorem changeRecord_eq_ok {id : Uuid}
    {change : GovernedActionExecutionRecord → GovernedActionExecutionRecord}
    {events : List Event} {db : Database} {effect : Effect Unit}
    (h : changeRecord id change events db = .ok effect) :
    (effect.db = db ∧ effect.events = []) ∨
      ∃ row, recordOf id db = some row ∧
        db.governedActionExecutionViolation (change row) = none ∧
        effect.db = { db with
          governedActionExecutions :=
            Table.update (fun row => row.governedActionExecutionId = id) change
              db.governedActionExecutions } ∧ effect.events = events := by
  unfold changeRecord at h
  split at h
  · obtain rfl := Except.ok.inj h
    exact Or.inl ⟨rfl, rfl⟩
  · rename_i row hrow
    split at h
    · cases h
    · rename_i hvalid
      obtain rfl := Except.ok.inj h
      exact Or.inr ⟨row, hrow, hvalid, rfl, rfl⟩

/-- The row of an action once an approval request is attached to it. -/
def attached (now : DateTime) (approvalRequestId : Uuid) (row : GovernedActionExecutionRecord) :
    GovernedActionExecutionRecord :=
  { row with approvalRequestId := some approvalRequestId, updatedAt := now }

/-- `attach_approval_request`. -/
def attachApprovalRequest (governedActionExecutionId approvalRequestId : Uuid) :
    Harness GovernedActionExecutionRecord := do
  execute "failed to attach approval request to governed action execution" fun now db =>
    changeRecord governedActionExecutionId (attached now approvalRequestId)
      [.approvalAttached governedActionExecutionId approvalRequestId] db
  let record ← getGovernedActionExecution governedActionExecutionId
  let _ ← CausalLinks.insert
    { traceId := record.traceId
      sourceKind := "governed_action_execution"
      sourceId := governedActionExecutionId
      targetKind := "approval_request"
      targetId := approvalRequestId
      edgeKind := "required_approval"
      payload := .obj
        [("action_kind", .str record.actionKind.asStr),
         ("risk_tier", .str record.riskTier.asStr)] }
  pure record

/-- The row of an action after an update: identifiers, output and start are kept when the
update has none; the status, the blocked reason and the completion are overwritten. -/
def updated (now : DateTime) (update : GovernedActionExecutionUpdate)
    (row : GovernedActionExecutionRecord) : GovernedActionExecutionRecord :=
  { row with
      status := update.status
      executionId := update.executionId.or row.executionId
      approvalRequestId := update.approvalRequestId.or row.approvalRequestId
      outputRef := update.outputRef.or row.outputRef
      blockedReason := update.blockedReason
      startedAt := update.startedAt.or row.startedAt
      completedAt := update.completedAt
      updatedAt := now }

/-- `update_governed_action_execution`; `events` is what the caller's update means to the
log. -/
def updateGovernedActionExecution (update : GovernedActionExecutionUpdate)
    (events : List Event := []) : Harness GovernedActionExecutionRecord := do
  execute "failed to update governed action execution" fun now db =>
    changeRecord update.governedActionExecutionId (updated now update) events db
  getGovernedActionExecution update.governedActionExecutionId

theorem updateGovernedActionExecution_confined {B : Database → Database → List Event → Prop}
    {update : GovernedActionExecutionUpdate} {events : List Event} (refl : ∀ db, B db db [])
    (h : ∀ now db row, recordOf update.governedActionExecutionId db = some row →
      db.governedActionExecutionViolation (updated now update row) = none →
      B db { db with
        governedActionExecutions :=
          Table.update
            (fun row => row.governedActionExecutionId = update.governedActionExecutionId)
            (updated now update) db.governedActionExecutions } events) :
    (updateGovernedActionExecution update events).Confined (OnDb B) := by
  refine Prog.Confined.bind (confined_execute refl ?_) fun _ => confined_fetchOne refl
  intro now db effect hbody
  rcases changeRecord_eq_ok hbody with ⟨hdb, hevents⟩ | ⟨row, hrow, hvalid, hdb, hevents⟩
  · rw [hdb, hevents]
    exact refl db
  · rw [hdb, hevents]
    exact h now db row hrow hvalid

/-- The status a resolved approval gives the action that waited for it. -/
def statusOfResolution : ApprovalResolutionDecision → GovernedActionStatus
  | .approved => .approved
  | .rejected => .rejected
  | .expired => .expired
  | .invalidated => .invalidated

/-- `sync_status_from_approval_resolution`. -/
def syncStatusFromApprovalResolution (governedActionExecutionId : Uuid)
    (decision : ApprovalResolutionDecision) (executionId : Option Uuid)
    (reason : Option String) : Harness GovernedActionExecutionRecord :=
  updateGovernedActionExecution
    { governedActionExecutionId := governedActionExecutionId
      status := statusOfResolution decision
      executionId := executionId
      outputRef := none
      blockedReason := reason
      approvalRequestId := none
      startedAt := none
      completedAt := none }

/-- `write_governed_action_audit_event`. -/
def writeGovernedActionAuditEvent (record : GovernedActionExecutionRecord) (eventKind : String)
    (severity : String) (payload : Json) : Harness Unit := do
  let _ ← Audit.insert
    { loopKind := "conscious"
      subsystem := "governed_actions"
      eventKind := eventKind
      severity := severity
      traceId := record.traceId
      executionId := record.executionId
      payload := .obj
        [("governed_action_execution_id", .uuid record.governedActionExecutionId),
         ("action_fingerprint", .str record.actionFingerprint.value),
         ("action_kind", .str record.actionKind.asStr),
         ("risk_tier", .str record.riskTier.asStr),
         ("status", .str record.status.asStr),
         ("details", payload)] }
  pure ()

theorem writeGovernedActionAuditEvent_confined {B : Database → Database → List Event → Prop}
    (h : ∀ db rows, B db { db with auditEvents := rows } [])
    (record : GovernedActionExecutionRecord) (eventKind severity : String) (payload : Json) :
    (writeGovernedActionAuditEvent record eventKind severity payload).Confined (OnDb B) :=
  Prog.Confined.bind (Audit.insert_confined h _) fun _ => Prog.confined_ret _

end GovernedActions

end BlueLagoon
