import BlueLagoon.Canonical.Continuity
import BlueLagoon.Canonical.Validation

/-!
# The tables of the identity

The items of the identity, the lifecycle with its current row, the interviews of the
kickstart, and the diagnostics. Their statements add no context to an error. The
self-model artifact of an item or a lifecycle row is left out: no merge sets it.
-/

namespace BlueLagoon

open Interleaving Harness

namespace Database

variable (db : Database)

/-! ## Constraints -/

/-- A nullable foreign key to `identity_items`. -/
def hasIdentityItem (id : Option Uuid) : Bool :=
  id.all fun id => db.identityItems.any fun row => row.identityItemId = id

/-- A nullable foreign key to `identity_kickstart_interviews`. -/
def hasIdentityInterview (id : Option Uuid) : Bool :=
  id.all fun id => db.identityKickstartInterviews.any fun row => row.identityInterviewId = id

/-- The `CHECK` constraints of `identity_items`. -/
def identityItemChecks (row : IdentityItemRecord) : List (Bool × String) :=
  [(row.supersededByItemId ≠ some row.identityItemId, "identity_items_check"),
   (row.supersedesItemId ≠ some row.identityItemId, "identity_items_check1"),
   (row.validTo.all fun finish => row.validFrom.all fun start => decide (start ≤ finish),
    "identity_items_check2"),
   (decide (row.confidence ≤ 100), "identity_items_confidence_check"),
   (row.weight.all fun weight => decide (weight ≤ 100), "identity_items_weight_check")]

/-- Constraints on an `identity_items` row that is inserted. -/
def identityItemViolation (row : IdentityItemRecord) : Option String :=
  firstBroken (identityItemChecks row ++
    [(db.identityItems.all fun other => other.identityItemId ≠ row.identityItemId,
      "identity_items_pkey"),
     (db.hasProposal row.proposalId, "identity_items_proposal_id_fkey"),
     (db.hasIdentityItem row.supersedesItemId, "identity_items_supersedes_item_id_fkey"),
     (db.hasIdentityItem row.supersededByItemId, "identity_items_superseded_by_item_id_fkey")])

/-- Constraints on an `identity_items` row that is changed, but not in its key. -/
def identityItemChangeViolation (row : IdentityItemRecord) : Option String :=
  firstBroken (identityItemChecks row ++
    [(db.hasIdentityItem row.supersededByItemId, "identity_items_superseded_by_item_id_fkey")])

/-- Constraints on an `identity_lifecycle` row that is inserted. -/
def identityLifecycleViolation (row : IdentityLifecycleRecord) : Option String :=
  firstBroken
    [(db.identityLifecycle.all fun other => other.identityLifecycleId ≠ row.identityLifecycleId,
      "identity_lifecycle_pkey"),
     (row.status ≠ .current || db.identityLifecycle.all fun other => other.status ≠ .current,
      "identity_lifecycle_single_current_idx"),
     (db.hasIdentityInterview row.activeInterviewId, "identity_lifecycle_active_interview_fk")]

/-- Constraints on an `identity_kickstart_interviews` row that is inserted. -/
def identityInterviewViolation (row : IdentityInterviewRecord) : Option String :=
  firstBroken
    [(db.identityKickstartInterviews.all fun other =>
        other.identityInterviewId ≠ row.identityInterviewId,
      "identity_kickstart_interviews_pkey")]

/-- Constraints on an `identity_diagnostics` row that is inserted. -/
def identityDiagnosticViolation (row : IdentityDiagnosticRecord) : Option String :=
  firstBroken
    [(db.identityDiagnostics.all fun other =>
        other.identityDiagnosticId ≠ row.identityDiagnosticId,
      "identity_diagnostics_pkey"),
     (db.hasIdentityItem row.identityItemId, "identity_diagnostics_identity_item_id_fkey"),
     (db.hasProposal row.proposalId, "identity_diagnostics_proposal_id_fkey")]

end Database

namespace Identity

/-- A statement that breaks the constraint, or leaves the database that is given. -/
def checked (violation : Option String) (db : Database) : Except ErrorChain Database :=
  match violation with
  | some constraint => .error [constraint]
  | none => .ok db

@[simp] theorem checked_eq_ok {violation : Option String} {db db' : Database} :
    checked violation db = .ok db' ↔ violation = none ∧ db' = db := by
  cases violation with
  | none => simp [checked, eq_comm]
  | some constraint => simp [checked]

@[simp] theorem checked_eq_error {violation : Option String} {db : Database} {e : ErrorChain} :
    checked violation db = .error e ↔ ∃ constraint, violation = some constraint ∧
      e = [constraint] := by
  cases violation with
  | none => simp [checked]
  | some constraint => simp [checked, eq_comm]

/-! ## Items -/

/-- `insert_identity_item_in_tx`. -/
def insertIdentityItem (row : IdentityItemRecord) (now : DateTime) (db : Database) :
    Except ErrorChain Database :=
  checked (db.identityItemViolation row)
    { db with identityItems := db.identityItems ++ [{ row with createdAt := now, updatedAt := now }] }

/-- `WHERE identity_item_id = $1 AND status = 'active'`. -/
def isActiveItem (identityItemId : Uuid) (row : IdentityItemRecord) : Bool :=
  row.identityItemId = identityItemId && row.status = .active

/-- `get_active_identity_item_summary_in_tx`. -/
def getActiveIdentityItem (identityItemId : Uuid) (db : Database) : Option IdentityItemRecord :=
  db.identityItems.find? (isActiveItem identityItemId)

/-- `UPDATE identity_items .. WHERE identity_item_id = $1 AND status = 'active'`. -/
def updateActiveItem (identityItemId : Uuid) (change : IdentityItemRecord → IdentityItemRecord)
    (db : Database) : Except ErrorChain Database :=
  checked ((getActiveIdentityItem identityItemId db).bind fun row =>
      db.identityItemChangeViolation (change row))
    { db with identityItems := Table.update (isActiveItem identityItemId) change db.identityItems }

/-- The row of `reinforce_identity_item_values_in_tx`. -/
def reinforced (confidence : Nat) (weight : Option Nat) (now : DateTime)
    (row : IdentityItemRecord) : IdentityItemRecord :=
  { row with
      confidence := min 100 (max row.confidence confidence)
      weight :=
        match weight, row.weight with
        | none, stored => stored
        | some weight, none => some weight
        | some weight, some stored => some (min 100 (max stored weight))
      updatedAt := now }

/-- The row of `weaken_identity_item_values_in_tx`. -/
def weakened (confidence : Nat) (weight : Option Nat) (now : DateTime)
    (row : IdentityItemRecord) : IdentityItemRecord :=
  { row with
      confidence := row.confidence - confidence
      weight :=
        match weight, row.weight with
        | some weight, some stored => some (stored - weight)
        | _, stored => stored
      updatedAt := now }

/-- The row of `supersede_identity_item_in_tx`. -/
def superseded (supersededByItemId : Uuid) (now : DateTime) (row : IdentityItemRecord) :
    IdentityItemRecord :=
  { row with
      status := .superseded
      supersededAt := some now
      supersededByItemId := some supersededByItemId
      updatedAt := now }

/-- The row of `expire_identity_item_values_in_tx`. -/
def expired (now : DateTime) (row : IdentityItemRecord) : IdentityItemRecord :=
  { row with
      status := .expired
      validTo :=
        match row.validTo, row.validFrom with
        | some validTo, _ => some validTo
        | none, some validFrom => some (max validFrom now)
        | none, none => some now
      updatedAt := now }

/-- The active items of a category. -/
def activeOfCategory (category : IdentityItemCategory) (db : Database) : List IdentityItemRecord :=
  db.identityItems.filter fun row => row.status = .active && row.category = category

/-- `ORDER BY updated_at DESC`. -/
def newerItem (a b : IdentityItemRecord) : Prop := b.updatedAt ≤ a.updatedAt

instance : DecidableRel newerItem := fun a b => inferInstanceAs (Decidable (b.updatedAt ≤ a.updatedAt))

/-- `list_active_identity_items_by_category_in_tx`. -/
def listActiveIdentityItemsByCategory (category : IdentityItemCategory) (db : Database) :
    List IdentityItemRecord :=
  ((activeOfCategory category db).insertionSort newerItem).take 64

/-- `find_active_identity_item_by_key_in_tx`. -/
def findActiveIdentityItemByKey (category : IdentityItemCategory) (itemKey : String)
    (db : Database) : Option Uuid :=
  (Table.first (fun a b => decide (a.updatedAt > b.updatedAt))
    ((activeOfCategory category db).filter fun row => row.itemKey = itemKey)).map
      IdentityItemRecord.identityItemId

/-! ## The lifecycle -/

/-- `UPDATE identity_lifecycle SET status = 'superseded' WHERE status = 'current'`. -/
def supersedeLifecycle (now : DateTime) (db : Database) : Database :=
  { db with
    identityLifecycle :=
      Table.update (fun row => row.status = .current)
        (fun row => { row with status := .superseded, updatedAt := now }) db.identityLifecycle }

/-- `record_lifecycle_transition_in_tx`, for a row that is to be current. -/
def recordLifecycleTransition (row : IdentityLifecycleRecord) (now : DateTime) (db : Database) :
    Except ErrorChain Database :=
  checked ((supersedeLifecycle now db).identityLifecycleViolation row)
    { supersedeLifecycle now db with
      identityLifecycle :=
        (supersedeLifecycle now db).identityLifecycle ++
          [{ row with createdAt := now, updatedAt := now }] }

/-- The current row of the lifecycle, `ORDER BY updated_at DESC LIMIT 1`. -/
def currentLifecycle (db : Database) : Option IdentityLifecycleRecord :=
  Table.first (fun a b => decide (a.updatedAt > b.updatedAt))
    (db.identityLifecycle.filter fun row => row.status = .current)

/-- `get_current_lifecycle`. -/
def getCurrentLifecycle : Harness (Option IdentityLifecycleRecord) :=
  inTransaction fun _ db => .ok { value := currentLifecycle db, db := db }

/-! ## Interviews -/

/-- `insert_identity_interview_in_tx`. -/
def insertIdentityInterview (row : IdentityInterviewRecord) (now : DateTime) (db : Database) :
    Except ErrorChain Database :=
  checked (db.identityInterviewViolation row)
    { db with
      identityKickstartInterviews :=
        db.identityKickstartInterviews ++ [{ row with createdAt := now, updatedAt := now }] }

/-- `get_identity_interview`. -/
def getIdentityInterview (identityInterviewId : Uuid) : Harness (Option IdentityInterviewRecord) :=
  inTransaction fun _ db =>
    .ok { value := Table.find IdentityInterviewRecord.identityInterviewId identityInterviewId
            db.identityKickstartInterviews
          db := db
          events := [.interviewRead identityInterviewId] }

/-- `update_identity_interview_state_in_tx`. -/
def updateIdentityInterviewState (identityInterviewId : Uuid) (status : IdentityInterviewStatus)
    (currentStep : String) (answeredFields : List (String × String)) (now : DateTime)
    (db : Database) : Database :=
  { db with
    identityKickstartInterviews :=
      Table.update (fun row => row.identityInterviewId = identityInterviewId)
        (fun row => { row with
          status := status
          currentStep := currentStep
          answeredFields := answeredFields
          updatedAt := now }) db.identityKickstartInterviews }

/-! ## Diagnostics -/

/-- `insert_identity_delta_rejection_diagnostic`. -/
def insertIdentityDeltaRejectionDiagnostic (context : ProposalProcessingContext)
    (proposalId : Uuid) (reason : String) : Harness Unit := do
  let identityDiagnosticId ← newUuid
  let row : IdentityDiagnosticRecord :=
    { identityDiagnosticId := identityDiagnosticId
      diagnosticKind := "identity_delta_rejected"
      severity := "warning"
      status := "open"
      identityItemId := none
      proposalId := some proposalId
      traceId := some context.traceId
      message := reason }
  inTransaction fun now db =>
    (checked (db.identityDiagnosticViolation row)
      { db with identityDiagnostics := db.identityDiagnostics ++ [{ row with createdAt := now }] }).map
      fun db => { value := (), db := db }

end Identity

end BlueLagoon
