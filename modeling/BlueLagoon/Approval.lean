import BlueLagoon.Recovery.Triggers

/-!
# Approval requests

Requests are created pending, resolved once by the principal they were requested by,
and expired once they are past their time. Resolving locks the row; expiring works
from a list it read before.
-/

namespace BlueLagoon

open Interleaving Harness

structure NewApprovalRequestRecord where
  approvalRequestId : Uuid
  traceId : Uuid
  executionId : Option Uuid
  actionProposalId : Uuid
  actionFingerprint : GovernedActionFingerprint
  actionKind : GovernedActionKind
  riskTier : GovernedActionRiskTier
  title : String
  consequenceSummary : String
  capabilityScope : CapabilityScope
  requestedBy : String
  token : String
  requestedAt : DateTime
  expiresAt : DateTime
  deriving DecidableEq, Repr

structure ApprovalResolutionAttempt where
  token : String
  actorRef : String
  expectedActionFingerprint : GovernedActionFingerprint
  decision : ApprovalResolutionDecision
  reason : Option String
  resolvedAt : DateTime
  deriving DecidableEq, Repr

structure ApprovalResolutionResult where
  request : ApprovalRequestRecord
  event : ApprovalResolutionEvent
  deriving DecidableEq, Repr

structure ApprovalActorRef where
  surface : String
  principal : String
  deriving DecidableEq, Repr

structure ResolutionTransition where
  decision : ApprovalResolutionDecision
  actorRef : String
  reason : Option String
  eventKind : String
  severity : String
  deriving DecidableEq, Repr

namespace Approval

/-! ## Checks -/

/-- `parse_actor_ref`. -/
def parseActorRef (actorRef : String) : Except ErrorChain ApprovalActorRef :=
  match Text.splitOnce ':' (Text.trim actorRef) with
  | none => .error ["approval resolution actor_ref must use '<surface>:<principal>' format"]
  | some (surface, principal) =>
    if surface.isEmpty || principal.isEmpty then
      .error ["approval resolution actor_ref must use '<surface>:<principal>' format"]
    else if surface = "system" then
      .error ["approval resolution actor_ref must not use the reserved system surface"]
    else .ok { surface := surface, principal := principal }

/-- `validate_new_approval_request`. -/
def validateNewApprovalRequest (request : NewApprovalRequestRecord) : Except ErrorChain Unit :=
  if Text.isBlank request.requestedBy then
    .error ["approval request requested_by must not be empty"]
  else if Text.isBlank request.title then
    .error ["approval request title must not be empty"]
  else if Text.isBlank request.consequenceSummary then
    .error ["approval request consequence summary must not be empty"]
  else if Text.isBlank request.token then
    .error ["approval request token must not be empty"]
  else if request.expiresAt ≤ request.requestedAt then
    .error ["approval request expires_at must be greater than requested_at"]
  else .ok ()

/-- `validate_resolution_attempt`. -/
def validateResolutionAttempt (attempt : ApprovalResolutionAttempt) : Except ErrorChain Unit :=
  if Text.isBlank attempt.token then
    .error ["approval resolution token must not be empty"]
  else if Text.isBlank attempt.actorRef then
    .error ["approval resolution actor_ref must not be empty"]
  else
    match parseActorRef attempt.actorRef with
    | .error e => .error e
    | .ok _ =>
      match attempt.decision with
      | .approved | .rejected => .ok ()
      | .expired | .invalidated =>
        .error ["approval resolution decision must come from an external approve/reject action"]

/-- `validate_resolution_actor`. -/
def validateResolutionActor (record : ApprovalRequestRecord)
    (attempt : ApprovalResolutionAttempt) : Except ErrorChain Unit := do
  let requestedBy ← parseActorRef record.requestedBy
  let actor ← parseActorRef attempt.actorRef
  if actor.principal ≠ requestedBy.principal then
    .error [s!"approval resolution actor '{attempt.actorRef}' does not match the requested principal '{record.requestedBy}'"]
  else .ok ()

/-- `approval_event_kind`. -/
def approvalEventKind : ApprovalResolutionDecision → String
  | .approved => "approval_request_approved"
  | .rejected => "approval_request_rejected"
  | .expired => "approval_request_expired"
  | .invalidated => "approval_request_invalidated"

/-- `approval_event_severity`. -/
def approvalEventSeverity : ApprovalResolutionDecision → String
  | .approved | .rejected => "info"
  | .expired | .invalidated => "warn"

/-! ## Reading requests -/

/-- `get_approval_request`. -/
def getApprovalRequest (approvalRequestId : Uuid) : Harness ApprovalRequestRecord :=
  fetchOne "failed to fetch approval request" fun db =>
    Table.find ApprovalRequestRecord.approvalRequestId approvalRequestId db.approvalRequests

/-- `get_approval_request_by_token`. -/
def getApprovalRequestByToken (token : String) : Harness (Option ApprovalRequestRecord) :=
  fetch "failed to fetch approval request by token" fun db =>
    Table.find ApprovalRequestRecord.token token db.approvalRequests

/-- The pending request for a fingerprint; there is at most one. -/
def pendingByFingerprint (actionFingerprint : GovernedActionFingerprint) (db : Database) :
    Option ApprovalRequestRecord :=
  db.approvalRequests.find? fun row =>
    row.actionFingerprint = actionFingerprint && row.status = .pending

/-- `get_pending_approval_request_by_fingerprint`. -/
def getPendingApprovalRequestByFingerprint (actionFingerprint : GovernedActionFingerprint) :
    Harness (Option ApprovalRequestRecord) :=
  fetch "failed to fetch pending approval request by fingerprint"
    (pendingByFingerprint actionFingerprint)

/-! ## Creating a request -/

/-- `write_approval_audit_event`, inside the transaction of its caller. -/
def withApprovalAuditEvent (eventId : Uuid) (now : DateTime) (traceId : Uuid)
    (executionId : Option Uuid) (eventKind severity : String) (payload : Json) (db : Database) :
    Database :=
  { db with
    auditEvents := db.auditEvents ++
      [Audit.row eventId now
        { loopKind := "conscious"
          subsystem := "approval"
          eventKind := eventKind
          severity := severity
          traceId := traceId
          executionId := executionId
          payload := payload }] }

/-- The row of a new request. -/
def requestRow (now : DateTime) (request : NewApprovalRequestRecord) : ApprovalRequestRecord where
  approvalRequestId := request.approvalRequestId
  traceId := request.traceId
  executionId := request.executionId
  actionProposalId := request.actionProposalId
  actionFingerprint := request.actionFingerprint
  actionKind := request.actionKind
  riskTier := request.riskTier
  title := request.title
  consequenceSummary := request.consequenceSummary
  capabilityScope := request.capabilityScope
  status := .pending
  requestedBy := request.requestedBy
  token := request.token
  requestedAt := request.requestedAt
  expiresAt := request.expiresAt
  createdAt := now
  updatedAt := now

/-- The transaction of `create_approval_request`: the row and its audit event. -/
def createRequest (eventId : Uuid) (request : NewApprovalRequestRecord) (now : DateTime)
    (db : Database) : Except ErrorChain (Effect Unit) :=
  match db.approvalRequestViolation (requestRow now request) with
  | some constraint => .error ["failed to insert approval request", constraint]
  | none =>
    .ok { value := ()
          db := withApprovalAuditEvent eventId now request.traceId request.executionId
            "approval_request_created" "info"
            (.obj
              [("approval_request_id", .uuid request.approvalRequestId),
               ("action_proposal_id", .uuid request.actionProposalId),
               ("action_fingerprint", .str request.actionFingerprint.value),
               ("action_kind", .str request.actionKind.asStr),
               ("risk_tier", .str request.riskTier.asStr),
               ("requested_by", .str request.requestedBy),
               ("expires_at", .time request.expiresAt)])
            { db with approvalRequests := db.approvalRequests ++ [requestRow now request] }
          events := [.approvalRequested request.approvalRequestId] }

/-- How many requests are pending. -/
def pendingCount (db : Database) : Nat :=
  (db.approvalRequests.filter fun row => row.status = .pending).length

/-- `enforce_pending_request_limit`. -/
def enforcePendingRequestLimit (config : RuntimeConfig) : Harness Unit := do
  let pendingCount ← transaction "failed to count pending approval requests" fun _ db =>
    .ok { value := pendingCount db
          db := db
          events := [.pendingRequestsCounted (pendingCount db)] }
  if pendingCount ≥ config.approvals.maxPendingRequests then
    bail s!"pending approval request count is at or above the configured limit ({config.approvals.maxPendingRequests})"
  else pure ()

/-- `create_approval_request`. -/
def createApprovalRequest (config : RuntimeConfig) (request : NewApprovalRequestRecord) :
    Harness ApprovalRequestRecord := do
  Prog.ofExcept (validateNewApprovalRequest request)
  enforcePendingRequestLimit config
  let eventId ← newUuid
  transaction "failed to start approval request transaction" (createRequest eventId request)
  getApprovalRequest request.approvalRequestId

/-! ## Resolving a request -/

/-- The columns a resolution sets. -/
def resolvedRow (now : DateTime) (transition : ResolutionTransition) (resolvedAt : DateTime)
    (row : ApprovalRequestRecord) : ApprovalRequestRecord :=
  { row with
      status := transition.decision.toStatus
      resolvedAt := some resolvedAt
      resolutionKind := some transition.decision
      resolvedBy := some transition.actorRef
      resolutionReason := transition.reason
      updatedAt := now }

/-- The row the `UPDATE` of `apply_resolution_transition` selects. -/
def isPendingRequest (approvalRequestId : Uuid) (row : ApprovalRequestRecord) : Bool :=
  row.approvalRequestId = approvalRequestId && row.status = .pending

/-- `apply_resolution_transition`, inside the transaction of its caller: nothing when the
request is no longer pending. -/
def applyResolutionTransition (resolutionId eventId : Uuid) (record : ApprovalRequestRecord)
    (transition : ResolutionTransition) (resolvedAt : DateTime) (now : DateTime)
    (db : Database) : Effect (Option ApprovalResolutionEvent) :=
  if db.approvalRequests.any (isPendingRequest record.approvalRequestId) then
    { value := some
        { resolutionId := resolutionId
          approvalRequestId := record.approvalRequestId
          decision := transition.decision
          resolvedBy := transition.actorRef
          resolvedAt := resolvedAt
          reason := transition.reason }
      db := withApprovalAuditEvent eventId now record.traceId record.executionId
        transition.eventKind transition.severity
        (.obj
          [("approval_request_id", .uuid record.approvalRequestId),
           ("action_proposal_id", .uuid record.actionProposalId),
           ("action_fingerprint", .str record.actionFingerprint.value),
           ("decision", .str transition.decision.asStr),
           ("resolved_by", .str transition.actorRef),
           ("resolved_at", .time resolvedAt),
           ("reason", .ofOption .str transition.reason)])
        { db with
          approvalRequests :=
            Table.update (isPendingRequest record.approvalRequestId)
              (resolvedRow now transition resolvedAt) db.approvalRequests }
      events := [.approvalResolved record.approvalRequestId record.actionFingerprint
        transition.decision] }
  else
    { value := none, db := db }

/-- How a request leaves `pending` when its time is over. -/
def expiry : ResolutionTransition where
  decision := .expired
  actorRef := "system:approval-expiry"
  reason := some "approval request expired before resolution"
  eventKind := "approval_request_expired"
  severity := "warn"

/-- How a request leaves `pending` when the action it was for has changed. -/
def invalidation : ResolutionTransition where
  decision := .invalidated
  actorRef := "system:approval-invalidation"
  reason := some "approval request invalidated because the action fingerprint changed"
  eventKind := "approval_request_invalidated"
  severity := "warn"

/-- How an attempt moves a pending request: expiry is checked first, then the fingerprint,
then the actor. -/
def transitionOf (record : ApprovalRequestRecord) (attempt : ApprovalResolutionAttempt) :
    Except ErrorChain ResolutionTransition :=
  if attempt.resolvedAt ≥ record.expiresAt then .ok expiry
  else if record.actionFingerprint ≠ attempt.expectedActionFingerprint then .ok invalidation
  else
    match validateResolutionActor record attempt with
    | .error e => .error e
    | .ok _ =>
      .ok { decision := attempt.decision
            actorRef := attempt.actorRef
            reason := attempt.reason
            eventKind := approvalEventKind attempt.decision
            severity := approvalEventSeverity attempt.decision }

/-- The error of an attempt on a request that has left `pending`. -/
def noLongerPending (approvalRequestId : Uuid) : ErrorChain :=
  [s!"approval request '{approvalRequestId}' is no longer pending"]

/-- The transaction of `resolve_approval_request`. -/
def resolveRequest (resolutionId eventId : Uuid) (attempt : ApprovalResolutionAttempt)
    (now : DateTime) (db : Database) :
    Except ErrorChain (Effect (Uuid × ApprovalResolutionEvent)) :=
  match Table.find ApprovalRequestRecord.token attempt.token db.approvalRequests with
  | none => .error ["failed to lock approval request for resolution",
      "no rows returned by a query that expected to return at least one row"]
  | some record =>
    if record.status ≠ .pending then .error (noLongerPending record.approvalRequestId)
    else
      match transitionOf record attempt with
      | .error e => .error e
      | .ok transition =>
        let effect := applyResolutionTransition resolutionId eventId record transition
          attempt.resolvedAt now db
        match effect.value with
        | none => .error (noLongerPending record.approvalRequestId)
        | some event =>
          .ok { value := (record.approvalRequestId, event)
                db := effect.db
                events := effect.events }

/-- An attempt that goes through resolves the pending request with its token. -/
theorem resolveRequest_eq_ok {resolutionId eventId : Uuid} {attempt : ApprovalResolutionAttempt}
    {now : DateTime} {db : Database} {effect : Effect (Uuid × ApprovalResolutionEvent)}
    (h : resolveRequest resolutionId eventId attempt now db = .ok effect) :
    ∃ record transition,
      Table.find ApprovalRequestRecord.token attempt.token db.approvalRequests = some record ∧
      record.status = .pending ∧ transitionOf record attempt = .ok transition ∧
      effect.db = (applyResolutionTransition resolutionId eventId record transition
        attempt.resolvedAt now db).db ∧
      effect.events = [.approvalResolved record.approvalRequestId record.actionFingerprint
        transition.decision] ∧
      effect.value.1 = record.approvalRequestId ∧
      effect.value.2.decision = transition.decision := by
  unfold resolveRequest at h
  cases hfind : Table.find ApprovalRequestRecord.token attempt.token db.approvalRequests with
  | none => simp [hfind] at h
  | some record =>
    have hpending : record.status = .pending := by
      by_contra hne
      simp [hfind, hne] at h
    cases htransition : transitionOf record attempt with
    | error e => simp [hfind, hpending, htransition] at h
    | ok transition =>
      have hany : db.approvalRequests.any (isPendingRequest record.approvalRequestId) = true :=
        List.any_eq_true.mpr
          ⟨record, Table.mem_of_find hfind, by simp [isPendingRequest, hpending]⟩
      simp only [hfind, hpending, htransition, ne_eq, not_true_eq_false, if_false,
        applyResolutionTransition, hany, if_true] at h
      obtain rfl := Except.ok.inj h
      refine ⟨record, transition, rfl, hpending, htransition, ?_, rfl, rfl, rfl⟩
      rw [applyResolutionTransition, if_pos hany]

/-- `resolve_approval_request`. -/
def resolveApprovalRequest (attempt : ApprovalResolutionAttempt) :
    Harness ApprovalResolutionResult := do
  Prog.ofExcept (validateResolutionAttempt attempt)
  let resolutionId ← newUuid
  let eventId ← newUuid
  let (approvalRequestId, event) ←
    transaction "failed to start approval resolution transaction"
      (resolveRequest resolutionId eventId attempt)
  let request ← getApprovalRequest approvalRequestId
  pure { request := request, event := event }

/-! ## Expiring requests -/

/-- The pending requests that are due, in the order they are expired. -/
def dueRequests (now : DateTime) (db : Database) : List ApprovalRequestRecord :=
  (db.approvalRequests.filter fun row =>
    row.status = .pending && decide (row.expiresAt ≤ now)).insertionSort fun a b =>
      a.expiresAt < b.expiresAt ∨
        a.expiresAt = b.expiresAt ∧ a.approvalRequestId ≤ b.approvalRequestId

/-- One turn of the loop of `expire_due_approval_requests`, from a row read before it. -/
def expireRequest (now : DateTime) (results : List ApprovalResolutionResult)
    (record : ApprovalRequestRecord) : Harness (List ApprovalResolutionResult) := do
  let resolutionId ← newUuid
  let eventId ← newUuid
  let maybeEvent ← transaction "failed to start approval expiry transaction" fun at_ db =>
    .ok (applyResolutionTransition resolutionId eventId record expiry now at_ db)
  match maybeEvent with
  | none => pure results
  | some event => do
    let request ← getApprovalRequest record.approvalRequestId
    let _ ← Recovery.recoverApprovalRequestTransition request .expired now
      "approval_request_expired"
    pure (results ++ [{ request := request, event := event }])

/-- `expire_due_approval_requests`. -/
def expireDueApprovalRequests (now : DateTime) : Harness (List ApprovalResolutionResult) := do
  let pendingRows ← fetch "failed to fetch due approval requests for expiry" (dueRequests now)
  Prog.foldlM (expireRequest now) [] pendingRows

/-! ## What the calls touch -/

/-- `B` allows what happens to a request after it was created. -/
structure AllowsSettling (B : Database → Database → List Event → Prop) : Prop where
  triggers : Recovery.Tolerates B
  transition : ∀ resolutionId eventId record transition resolvedAt now db,
    B db (applyResolutionTransition resolutionId eventId record transition resolvedAt now db).db
      (applyResolutionTransition resolutionId eventId record transition resolvedAt now db).events

namespace AllowsSettling

variable {B : Database → Database → List Event → Prop}

theorem resolveApprovalRequest (h : AllowsSettling B) (attempt : ApprovalResolutionAttempt) :
    (resolveApprovalRequest attempt).Confined (OnDb B) := by
  have refl := h.triggers.refl
  refine Prog.Confined.bind (Prog.confined_ofExcept _) fun _ => ?_
  refine Prog.Confined.bind (confined_newUuid refl) fun resolutionId => ?_
  refine Prog.Confined.bind (confined_newUuid refl) fun eventId => ?_
  refine Prog.Confined.bind (confined_transaction refl ?_) fun _ =>
    Prog.Confined.bind (confined_fetchOne refl) fun _ => Prog.confined_ret _
  intro now db effect hbody
  obtain ⟨record, transition, hfind, hpending, -, hdb, hevents, -⟩ := resolveRequest_eq_ok hbody
  have hany : db.approvalRequests.any (isPendingRequest record.approvalRequestId) = true :=
    List.any_eq_true.mpr ⟨record, Table.mem_of_find hfind, by simp [isPendingRequest, hpending]⟩
  have happlied := h.transition resolutionId eventId record transition attempt.resolvedAt now db
  rw [hdb, hevents]
  simpa [applyResolutionTransition, hany] using happlied

theorem expireDueApprovalRequests (h : AllowsSettling B) (now : DateTime) :
    (expireDueApprovalRequests now).Confined (OnDb B) := by
  have refl := h.triggers.refl
  refine Prog.Confined.bind (confined_fetch refl) fun pendingRows => ?_
  refine Prog.Confined.foldlM (fun results record => ?_) _ _
  refine Prog.Confined.bind (confined_newUuid refl) fun resolutionId => ?_
  refine Prog.Confined.bind (confined_newUuid refl) fun eventId => ?_
  refine Prog.Confined.bind (confined_transaction refl ?_) fun maybeEvent => ?_
  · intro at_ db effect hbody
    obtain rfl := Except.ok.inj hbody
    exact h.transition resolutionId eventId record expiry now at_ db
  · split
    · exact Prog.confined_ret _
    · refine Prog.Confined.bind (confined_fetchOne refl) fun request => ?_
      exact Prog.Confined.bind
        (Recovery.recoverApprovalRequestTransition_confined h.triggers _ _ _ _)
        fun _ => Prog.confined_ret _

end AllowsSettling

end Approval

end BlueLagoon
