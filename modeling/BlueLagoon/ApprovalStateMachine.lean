import BlueLagoon.Approval

/-!
# The approval state machine

Any number of processes create, resolve and expire requests over one store. What one
of their actions can do to the store is `StoreStep`; what holds of the store in
between is `StoreInvariant`.
-/

namespace BlueLagoon.Approval

open Interleaving Harness

/-! ## The processes -/

/-- A call on the store. -/
inductive ApprovalOperation
  | create (config : RuntimeConfig) (request : NewApprovalRequestRecord)
  | resolve (attempt : ApprovalResolutionAttempt)
  | expireDue (now : DateTime)

/-- The program of a call, without its result. -/
def ApprovalOperation.program : ApprovalOperation → Harness Unit
  | .create config request => do
    let _ ← createApprovalRequest config request
    pure ()
  | .resolve attempt => do
    let _ ← resolveApprovalRequest attempt
    pure ()
  | .expireDue now => do
    let _ ← expireDueApprovalRequests now
    pure ()

/-- One process for each call, all of them at their start. -/
def start {ι : Type} (operations : ι → ApprovalOperation) (w : World) :
    Config system (fun _ : ι => Unit) where
  threads i := (operations i).program
  shared := { state := w }

/-! ## Resolutions -/

/-- The audit events of resolutions. -/
def resolutionEventKinds : List String :=
  ["approval_request_approved", "approval_request_rejected", "approval_request_expired",
   "approval_request_invalidated"]

/-- The payload names the request. -/
def namesApprovalRequest (approvalRequestId : Uuid) (payload : Json) : Bool :=
  match payload.get "approval_request_id" with
  | some (.uuid id) => id = approvalRequestId
  | _ => false

/-- An event that records a resolution of the request. -/
def isResolutionOf (approvalRequestId : Uuid) (event : AuditEvent) : Bool :=
  event.subsystem = "approval" && resolutionEventKinds.contains event.eventKind &&
    namesApprovalRequest approvalRequestId event.payload

/-- The resolution events of a request. -/
def resolutionEventsOf (approvalRequestId : Uuid) (db : Database) : List AuditEvent :=
  db.auditEvents.filter (isResolutionOf approvalRequestId)

/-- The attempt may approve or reject the request. -/
structure Admissible (attempt : ApprovalResolutionAttempt) (record : ApprovalRequestRecord) :
    Prop where
  external : attempt.decision = .approved ∨ attempt.decision = .rejected
  inTime : attempt.resolvedAt < record.expiresAt
  fingerprint : attempt.expectedActionFingerprint = record.actionFingerprint
  actor : ∃ actor requestedBy, parseActorRef attempt.actorRef = .ok actor ∧
    parseActorRef record.requestedBy = .ok requestedBy ∧ actor.surface ≠ "system" ∧
      actor.principal = requestedBy.principal

/-- Why a call may move a pending request: its time is over, its action has changed, or the
call is an admissible attempt. -/
inductive Justified (operation : ApprovalOperation) (record : ApprovalRequestRecord) :
    ResolutionTransition → DateTime → Prop
  | expired (resolvedAt : DateTime) : Justified operation record expiry resolvedAt
  | invalidated (resolvedAt : DateTime) : Justified operation record invalidation resolvedAt
  | attempted (attempt : ApprovalResolutionAttempt) (call : operation = .resolve attempt)
      (token : record.token = attempt.token) (admissible : Admissible attempt record) :
      Justified operation record
        { decision := attempt.decision
          actorRef := attempt.actorRef
          reason := attempt.reason
          eventKind := approvalEventKind attempt.decision
          severity := approvalEventSeverity attempt.decision } attempt.resolvedAt

theorem Justified.eventKind_mem {operation : ApprovalOperation}
    {record : ApprovalRequestRecord} {transition : ResolutionTransition} {resolvedAt : DateTime}
    (h : Justified operation record transition resolvedAt) :
    resolutionEventKinds.contains transition.eventKind = true := by
  cases h with
  | expired => rfl
  | invalidated => rfl
  | attempted attempt =>
    change resolutionEventKinds.contains (approvalEventKind attempt.decision) = true
    cases attempt.decision <;> decide

/-- The attempt fails on the store as it is: its actor is malformed, its decision is one
only the harness takes, or the request it locks is resolved already or was requested by
another principal. -/
inductive Refused (attempt : ApprovalResolutionAttempt) (db : Database) : Prop
  | malformedActor (e : ErrorChain) (malformed : parseActorRef attempt.actorRef = .error e)
  | internalDecision
      (internal : attempt.decision = .expired ∨ attempt.decision = .invalidated)
  | alreadyResolved (record : ApprovalRequestRecord)
      (locked : Table.find ApprovalRequestRecord.token attempt.token db.approvalRequests =
        some record)
      (resolved : record.status ≠ .pending)
  | wrongPrincipal (record : ApprovalRequestRecord)
      (locked : Table.find ApprovalRequestRecord.token attempt.token db.approvalRequests =
        some record)
      (inTime : attempt.resolvedAt < record.expiresAt)
      (fingerprint : attempt.expectedActionFingerprint = record.actionFingerprint)
      (e : ErrorChain) (mismatch : validateResolutionActor record attempt = .error e)

/-! ## What a step can do -/

/-- One action of a call, seen from the store. -/
inductive StoreStep (operation : ApprovalOperation) (db : Database) : Database → Prop
  | idle : StoreStep operation db db
  /-- Requests and audit events stay as they are. -/
  | unrelated (db' : Database) (requests : db'.approvalRequests = db.approvalRequests)
      (audit : db'.auditEvents = db.auditEvents)
      (quiet : ∀ attempt, operation ≠ .resolve attempt) : StoreStep operation db db'
  /-- A pending request with a new identifier is added. -/
  | created (db' : Database) (record : ApprovalRequestRecord) (event : AuditEvent)
      (requests : db'.approvalRequests = db.approvalRequests ++ [record])
      (audit : db'.auditEvents = db.auditEvents ++ [event])
      (fresh : ∀ other ∈ db.approvalRequests,
        other.approvalRequestId ≠ record.approvalRequestId)
      (pending : record.status = .pending)
      (recorded : ∀ id, isResolutionOf id event = false)
      (quiet : ∀ attempt, operation ≠ .resolve attempt) : StoreStep operation db db'
  /-- A pending request is resolved. -/
  | resolved (db' : Database) (record : ApprovalRequestRecord) (event : AuditEvent)
      (transition : ResolutionTransition) (resolvedAt now : DateTime)
      (mem : record ∈ db.approvalRequests) (pending : record.status = .pending)
      (requests : db'.approvalRequests = Table.update (isPendingRequest record.approvalRequestId)
        (resolvedRow now transition resolvedAt) db.approvalRequests)
      (audit : db'.auditEvents = db.auditEvents ++ [event])
      (recorded : ∀ id, isResolutionOf id event = decide (record.approvalRequestId = id))
      (justified : Justified operation record transition resolvedAt)
      (willing : ∀ attempt, operation = .resolve attempt → ¬ Refused attempt db) :
      StoreStep operation db db'

/-- The steps of a call, as the actions of its program. -/
abbrev storeAction (operation : ApprovalOperation) :
    World → World → List Event → Prop :=
  OnDb fun db db' _ => StoreStep operation db db'

theorem createRequest_step {operation : ApprovalOperation} {db : Database} {eventId : Uuid}
    {request : NewApprovalRequestRecord} {now : DateTime} {effect : Effect Unit}
    (quiet : ∀ attempt, operation ≠ .resolve attempt)
    (h : createRequest eventId request now db = .ok effect) :
    StoreStep operation db effect.db := by
  unfold createRequest at h
  split at h
  · cases h
  rename_i hviolation
  obtain rfl := Except.ok.inj h
  refine .created _ (requestRow now request) _ rfl rfl ?_ rfl (fun id => ?_) quiet
  · have hall := Database.firstBroken_eq_none.mp hviolation
    simpa using hall _ (List.mem_cons_self ..)
  · simp [isResolutionOf, Audit.row, resolutionEventKinds]

/-- The update of `apply_resolution_transition`, from a copy of the row that may be older
than the row. -/
theorem applyResolutionTransition_step {operation : ApprovalOperation} {db : Database}
    {resolutionId eventId : Uuid} {copy record : ApprovalRequestRecord}
    {transition : ResolutionTransition} {resolvedAt now : DateTime}
    (same : copy.approvalRequestId = record.approvalRequestId)
    (hmem : record ∈ db.approvalRequests) (hpending : record.status = .pending)
    (justified : Justified operation record transition resolvedAt)
    (willing : ∀ attempt, operation = .resolve attempt → ¬ Refused attempt db) :
    StoreStep operation db
      (applyResolutionTransition resolutionId eventId copy transition resolvedAt now db).db := by
  have hany : db.approvalRequests.any (isPendingRequest copy.approvalRequestId) = true :=
    List.any_eq_true.mpr ⟨record, hmem, by simp [isPendingRequest, same, hpending]⟩
  have hkind : transition.eventKind ∈ resolutionEventKinds := by
    simpa using justified.eventKind_mem
  rw [applyResolutionTransition, if_pos hany]
  refine .resolved _ record _ transition resolvedAt now hmem hpending (by rw [← same]; rfl) rfl
    (fun id => ?_) justified willing
  simp [isResolutionOf, Audit.row, namesApprovalRequest, Json.get, hkind, same]

theorem create_confined (config : RuntimeConfig) (request : NewApprovalRequestRecord) :
    (ApprovalOperation.create config request).program.Confined
      (storeAction (.create config request)) := by
  have refl : ∀ db, StoreStep (.create config request) db db := fun _ => .idle
  refine Prog.Confined.bind ?_ fun _ => Prog.confined_ret _
  refine Prog.Confined.bind (Prog.confined_ofExcept _) fun _ => ?_
  refine Prog.Confined.bind ?_ fun _ => ?_
  · refine Prog.Confined.bind (confined_transaction refl ?_) fun pendingCount => ?_
    · intro now db effect hbody
      obtain rfl := Except.ok.inj hbody
      exact refl db
    split
    · exact Prog.confined_fail _
    · exact Prog.confined_ret _
  · refine Prog.Confined.bind (confined_newUuid refl) fun eventId => ?_
    refine Prog.Confined.bind (confined_transaction refl ?_) fun _ => confined_fetchOne refl
    intro now db effect hbody
    exact createRequest_step (by simp) hbody

theorem parseActorRef_surface {actorRef : String} {actor : ApprovalActorRef}
    (h : parseActorRef actorRef = .ok actor) : actor.surface ≠ "system" := by
  unfold parseActorRef at h
  split at h
  · cases h
  · split at h
    · cases h
    · split at h
      · cases h
      · rename_i hsystem
        obtain rfl := Except.ok.inj h
        exact hsystem

/-- An attempt that passes its own checks comes from outside. -/
theorem validateResolutionAttempt_external {attempt : ApprovalResolutionAttempt}
    (h : validateResolutionAttempt attempt = .ok ()) :
    attempt.decision = .approved ∨ attempt.decision = .rejected := by
  unfold validateResolutionAttempt at h
  split at h
  · cases h
  · split at h
    · cases h
    · cases hparse : parseActorRef attempt.actorRef with
      | error e => simp [hparse] at h
      | ok actor => cases hdecision : attempt.decision <;> simp [hparse, hdecision] at h ⊢

/-- An actor that passes is the principal the request was made for. -/
theorem validateResolutionActor_principal {record : ApprovalRequestRecord}
    {attempt : ApprovalResolutionAttempt} (h : validateResolutionActor record attempt = .ok ()) :
    ∃ actor requestedBy, parseActorRef attempt.actorRef = .ok actor ∧
      parseActorRef record.requestedBy = .ok requestedBy ∧ actor.surface ≠ "system" ∧
        actor.principal = requestedBy.principal := by
  unfold validateResolutionActor at h
  cases hrequested : parseActorRef record.requestedBy with
  | error e => simp [hrequested, bind, Except.bind] at h
  | ok requestedBy =>
    cases hparse : parseActorRef attempt.actorRef with
    | error e => simp [hrequested, hparse, bind, Except.bind] at h
    | ok actor =>
      refine ⟨actor, requestedBy, rfl, rfl, parseActorRef_surface hparse, ?_⟩
      by_contra hne
      simp [hrequested, hparse, bind, Except.bind, hne] at h

/-- What an attempt may do to the request it locks. -/
theorem transitionOf_justified {record : ApprovalRequestRecord}
    {attempt : ApprovalResolutionAttempt} {transition : ResolutionTransition}
    (hvalid : validateResolutionAttempt attempt = .ok ())
    (htoken : record.token = attempt.token)
    (h : transitionOf record attempt = .ok transition) :
    Justified (.resolve attempt) record transition attempt.resolvedAt := by
  unfold transitionOf at h
  split at h
  · obtain rfl := Except.ok.inj h
    exact .expired _
  rename_i hintime
  split at h
  · obtain rfl := Except.ok.inj h
    exact .invalidated _
  rename_i hfingerprint
  cases hactor : validateResolutionActor record attempt with
  | error e => simp [hactor] at h
  | ok _ =>
    simp only [hactor, Except.ok.injEq] at h
    subst h
    exact .attempted attempt rfl htoken
      { external := validateResolutionAttempt_external hvalid
        inTime := by grind
        fingerprint := by grind
        actor := validateResolutionActor_principal hactor }

theorem transitionOf_not_refused {attempt : ApprovalResolutionAttempt} {db : Database}
    {record : ApprovalRequestRecord} {transition : ResolutionTransition}
    (hvalid : validateResolutionAttempt attempt = .ok ())
    (locked : Table.find ApprovalRequestRecord.token attempt.token db.approvalRequests =
      some record)
    (hpending : record.status = .pending) (h : transitionOf record attempt = .ok transition) :
    ¬ Refused attempt db := by
  intro hrefused
  cases hrefused with
  | malformedActor e malformed =>
    unfold validateResolutionAttempt at hvalid
    split at hvalid
    · cases hvalid
    · split at hvalid
      · cases hvalid
      · simp [malformed] at hvalid
  | internalDecision internal =>
    have := validateResolutionAttempt_external hvalid
    grind
  | alreadyResolved other hlocked hresolved =>
    obtain rfl := Option.some.inj (locked.symm.trans hlocked)
    exact hresolved hpending
  | wrongPrincipal other hlocked hinTime hfingerprint e hmismatch =>
    obtain rfl := Option.some.inj (locked.symm.trans hlocked)
    unfold transitionOf at h
    rw [if_neg (by grind), if_neg (by grind), hmismatch] at h
    cases h

theorem resolve_confined (attempt : ApprovalResolutionAttempt) :
    (ApprovalOperation.resolve attempt).program.Confined (storeAction (.resolve attempt)) := by
  have refl : ∀ db, StoreStep (.resolve attempt) db db := fun _ => .idle
  refine Prog.Confined.bind ?_ fun _ => Prog.confined_ret _
  unfold resolveApprovalRequest
  cases hvalid : validateResolutionAttempt attempt with
  | error e => exact Prog.confined_fail _
  | ok _ =>
    rw [Prog.ofExcept_ok, Prog.bind_eq, Prog.ret_bind]
    refine Prog.Confined.bind (confined_newUuid refl) fun resolutionId => ?_
    refine Prog.Confined.bind (confined_newUuid refl) fun eventId => ?_
    refine Prog.Confined.bind (confined_transaction refl ?_) fun _ =>
      Prog.Confined.bind (confined_fetchOne refl) fun _ => Prog.confined_ret _
    intro now db effect hbody
    obtain ⟨record, transition, hfind, hpending, htransition, hdb, -⟩ :=
      resolveRequest_eq_ok hbody
    rw [hdb]
    refine applyResolutionTransition_step rfl (Table.mem_of_find hfind) hpending
      (transitionOf_justified hvalid (Table.key_of_find hfind) htransition) ?_
    intro attempt' hcall
    obtain rfl := ApprovalOperation.resolve.inj hcall
    exact transitionOf_not_refused hvalid hfind hpending htransition

theorem expireDue_confined (now : DateTime) :
    (ApprovalOperation.expireDue now).program.Confined (storeAction (.expireDue now)) := by
  have refl : ∀ db, StoreStep (.expireDue now) db db := fun _ => .idle
  have tolerates : Recovery.Tolerates
      (fun db db' _ => StoreStep (.expireDue now) db db') :=
    fun db _ _ _ _ => .unrelated _ rfl rfl (by simp)
  refine Prog.Confined.bind ?_ fun _ => Prog.confined_ret _
  refine Prog.Confined.bind (confined_fetch refl) fun pendingRows => ?_
  refine Prog.Confined.foldlM (fun results record => ?_) _ _
  refine Prog.Confined.bind (confined_newUuid refl) fun resolutionId => ?_
  refine Prog.Confined.bind (confined_newUuid refl) fun eventId => ?_
  refine Prog.Confined.bind (confined_transaction refl ?_) fun maybeEvent => ?_
  · intro at_ db effect hbody
    obtain rfl := Except.ok.inj hbody
    by_cases hany : db.approvalRequests.any (isPendingRequest record.approvalRequestId)
    · obtain ⟨row, hmem, hrow⟩ := List.any_eq_true.mp hany
      simp only [isPendingRequest, Bool.and_eq_true, decide_eq_true_eq] at hrow
      exact applyResolutionTransition_step hrow.1.symm hmem hrow.2 (.expired now) (by simp)
    · rw [applyResolutionTransition, if_neg hany]
      exact .idle
  · split
    · exact Prog.confined_ret _
    · refine Prog.Confined.bind (confined_fetchOne refl) fun request => ?_
      exact Prog.Confined.bind
        (Recovery.recoverApprovalRequestTransition_confined tolerates _ _ _ _)
        fun _ => Prog.confined_ret _

/-- Every action of a call is a step of the store. -/
theorem program_confined (operation : ApprovalOperation) :
    operation.program.Confined (storeAction operation) := by
  cases operation with
  | create config request => exact create_confined config request
  | resolve attempt => exact resolve_confined attempt
  | expireDue now => exact expireDue_confined now

/-! ## What holds between the steps -/

/-- Two requests never share their identifier; a request is resolved by one event, when it
leaves `pending`; approval and rejection come from an admissible attempt. -/
structure StoreInvariant {ι : Type} (operations : ι → ApprovalOperation) (db : Database) :
    Prop where
  ids : (db.approvalRequests.map ApprovalRequestRecord.approvalRequestId).Nodup
  unresolved : ∀ id, (∀ record ∈ db.approvalRequests, record.approvalRequestId = id →
    record.status = .pending) → resolutionEventsOf id db = []
  resolved : ∀ record ∈ db.approvalRequests, record.status ≠ .pending →
    (resolutionEventsOf record.approvalRequestId db).length = 1
  provenance : ∀ record ∈ db.approvalRequests,
    record.status = .approved ∨ record.status = .rejected →
      ∃ i attempt, operations i = .resolve attempt ∧ record.token = attempt.token ∧
        Admissible attempt record ∧ record.status = attempt.decision.toStatus ∧
        record.resolvedAt = some attempt.resolvedAt ∧ record.resolvedBy = some attempt.actorRef

/-- A store before its first request. -/
structure Fresh (db : Database) : Prop where
  requests : db.approvalRequests = []
  events : ∀ id, resolutionEventsOf id db = []

section Invariant

variable {ι : Type} {operations : ι → ApprovalOperation} {db db' : Database}

theorem Fresh.storeInvariant (h : Fresh db) : StoreInvariant operations db where
  ids := by simp [h.requests]
  unresolved id _ := h.events id
  resolved record hmem := by simp [h.requests] at hmem
  provenance record hmem := by simp [h.requests] at hmem

theorem resolutionEventsOf_append {event : AuditEvent}
    (haudit : db'.auditEvents = db.auditEvents ++ [event]) (id : Uuid) :
    resolutionEventsOf id db' =
      resolutionEventsOf id db ++ if isResolutionOf id event then [event] else [] := by
  rw [resolutionEventsOf, haudit, List.filter_append, ← resolutionEventsOf, List.filter_cons,
    List.filter_nil]

/-- A request that has left `pending` stays in the table as it is. -/
theorem StoreStep.mem {operation : ApprovalOperation} (step : StoreStep operation db db')
    {record : ApprovalRequestRecord} (hmem : record ∈ db.approvalRequests)
    (hresolved : record.status ≠ .pending) : record ∈ db'.approvalRequests := by
  cases step with
  | idle => exact hmem
  | unrelated db' requests audit quiet => rwa [requests]
  | created db' new event requests =>
    rw [requests]
    exact List.mem_append_left _ hmem
  | resolved db' other event transition resolvedAt now mem pending requests =>
    rw [requests]
    exact Table.mem_update.mpr (Or.inl ⟨hmem, by simp [isPendingRequest, hresolved]⟩)

/-- Every step of the store keeps the invariant: a created request is pending and unresolved, and a
resolution gives its request the one event that names it. -/
theorem StoreInvariant.step (hinv : StoreInvariant operations db) {i : ι}
    (step : StoreStep (operations i) db db') : StoreInvariant operations db' := by
  cases step with
  | idle => exact hinv
  | unrelated db' requests audit quiet =>
    have hevents : ∀ id, resolutionEventsOf id db' = resolutionEventsOf id db := fun id => by
      rw [resolutionEventsOf, audit, ← resolutionEventsOf]
    exact
      { ids := by simpa [requests] using hinv.ids
        unresolved := by simpa [requests, hevents] using hinv.unresolved
        resolved := by simpa [requests, hevents] using hinv.resolved
        provenance := by simpa [requests] using hinv.provenance }
  | created db' record event requests audit fresh pending recorded quiet =>
    have hevents : ∀ id, resolutionEventsOf id db' = resolutionEventsOf id db := fun id => by
      simp [resolutionEventsOf_append audit, recorded]
    refine ⟨?_, fun id hall => ?_, fun other hother hresolved => ?_,
      fun other hother hdecided => ?_⟩
    · rw [requests, List.map_append]
      exact hinv.ids.append (List.nodup_singleton _) (by simpa using fresh)
    · rw [hevents]
      exact hinv.unresolved id fun other hother => hall other (by simp [requests, hother])
    · rw [hevents]
      rcases List.mem_append.mp (requests ▸ hother) with hold | hnew
      · exact hinv.resolved other hold hresolved
      · obtain rfl := List.mem_singleton.mp hnew
        exact absurd pending hresolved
    · rcases List.mem_append.mp (requests ▸ hother) with hold | hnew
      · exact hinv.provenance other hold hdecided
      · obtain rfl := List.mem_singleton.mp hnew
        simp [pending] at hdecided
  | resolved db' record event transition resolvedAt now mem pending requests audit recorded
      justified willing =>
    have hevents : ∀ id, (resolutionEventsOf id db').length =
        (resolutionEventsOf id db).length + if record.approvalRequestId = id then 1 else 0 := by
      intro id
      rw [resolutionEventsOf_append audit, List.length_append, recorded]
      split <;> simp_all
    have hstatus : transition.decision.toStatus ≠ .pending := by
      cases transition.decision <;> decide
    -- identifiers are unique: the update changes `record` and no other row
    have hrows : ∀ other, other ∈ db'.approvalRequests ↔
        (other ∈ db.approvalRequests ∧ other.approvalRequestId ≠ record.approvalRequestId) ∨
          other = resolvedRow now transition resolvedAt record := by
      intro other
      rw [requests, Table.mem_update]
      constructor
      · rintro (⟨hmem, hwhich⟩ | ⟨old, hold, hwhich, rfl⟩)
        · refine Or.inl ⟨hmem, fun hid => ?_⟩
          obtain rfl := Table.eq_of_mem_of_key hinv.ids hmem mem hid
          simp [isPendingRequest, pending] at hwhich
        · simp only [isPendingRequest, Bool.and_eq_true, decide_eq_true_eq] at hwhich
          rw [Table.eq_of_mem_of_key hinv.ids hold mem hwhich.1]
          exact Or.inr rfl
      · rintro (⟨hmem, hid⟩ | rfl)
        · exact Or.inl ⟨hmem, by simp [isPendingRequest, hid]⟩
        · exact Or.inr ⟨record, mem, by simp [isPendingRequest, pending], rfl⟩
    have hnone : resolutionEventsOf record.approvalRequestId db = [] := by
      refine hinv.unresolved _ fun other hother hid => ?_
      rwa [Table.eq_of_mem_of_key hinv.ids hother mem hid]
    refine ⟨?_, fun id hall => ?_, fun other hother hresolved => ?_,
      fun other hother hdecided => ?_⟩
    · rw [requests, Table.map_key_update]
      · exact hinv.ids
      · exact fun _ => rfl
    · have hne : record.approvalRequestId ≠ id := fun hid =>
        hstatus (hall _ ((hrows _).mpr (Or.inr rfl)) hid)
      have hold : resolutionEventsOf id db = [] := by
        refine hinv.unresolved id fun other hother hid => ?_
        exact hall other ((hrows other).mpr (Or.inl ⟨hother, by rw [hid]; exact hne.symm⟩)) hid
      rw [← List.length_eq_zero_iff, hevents, hold, if_neg hne]
      rfl
    · rcases (hrows other).mp hother with ⟨hmem, hid⟩ | rfl
      · rw [hevents, if_neg hid.symm]
        exact hinv.resolved other hmem hresolved
      · change (resolutionEventsOf record.approvalRequestId db').length = 1
        rw [hevents, hnone, if_pos rfl]
        rfl
    · rcases (hrows other).mp hother with ⟨hmem, hid⟩ | rfl
      · exact hinv.provenance other hmem hdecided
      · cases justified with
        | expired => simp [resolvedRow, expiry, ApprovalResolutionDecision.toStatus] at hdecided
        | invalidated =>
          simp [resolvedRow, invalidation, ApprovalResolutionDecision.toStatus] at hdecided
        | attempted attempt call token admissible =>
          exact ⟨i, attempt, call, token,
            ⟨admissible.external, admissible.inTime, admissible.fingerprint, admissible.actor⟩,
            rfl, rfl, rfl⟩

end Invariant

/-! ## An attempt that fails -/

/-- The resolution went through, but the resolved row could not be read back. -/
def ReadBackFailed (e : ErrorChain) : Prop := e.head? = some "failed to fetch approval request"

theorem getApprovalRequest_failsWith (approvalRequestId : Uuid) :
    (getApprovalRequest approvalRequestId).FailsWith ReadBackFailed := by
  intro at_
  cases at_ with
  | none => rfl
  | some now =>
    intro w
    cases hfind : Table.find ApprovalRequestRecord.approvalRequestId approvalRequestId
        w.db.approvalRequests <;> simp [commit, hfind, Prog.FailsWith, ReadBackFailed]

/-- A refused attempt does nothing. -/
theorem StoreStep.eq_of_refused {attempt : ApprovalResolutionAttempt} {db db' : Database}
    (step : StoreStep (.resolve attempt) db db') (refused : Refused attempt db) : db' = db := by
  cases step with
  | idle => rfl
  | unrelated db' requests audit quiet => exact absurd rfl (quiet attempt)
  | created db' record event requests audit fresh pending recorded quiet =>
    exact absurd rfl (quiet attempt)
  | resolved db' record event transition resolvedAt now mem pending requests audit recorded
      justified willing => exact absurd refused (willing attempt rfl)

/-- An attempt changes the database in one transaction, after which only reading back can
fail. -/
theorem resolve_until (attempt : ApprovalResolutionAttempt) :
    (ApprovalOperation.resolve attempt).program.Until (OnDb fun db db' _ => db' = db)
      (fun _ _ _ => True) (Prog.FailsWith ReadBackFailed) := by
  have refl : ∀ db : Database, db = db := fun _ => rfl
  unfold ApprovalOperation.program resolveApprovalRequest
  simp only [Prog.bind_eq, Prog.bind_assoc]
  refine Prog.Confined.until_bind (Prog.confined_ofExcept _) fun _ => ?_
  refine Prog.Confined.until_bind (confined_newUuid refl) fun resolutionId => ?_
  refine Prog.Confined.until_bind (confined_newUuid refl) fun eventId => ?_
  intro at_
  cases at_ with
  | none => trivial
  | some now =>
    refine Prog.Until.bind (T := fun p => ∃ resolved, p = .ret resolved)
      (Prog.Until.tx (OnDb.refl refl) (fun _ _ _ => trivial) fun resolved => ⟨_, rfl⟩) ?_
    rintro _ ⟨resolved, rfl⟩
    exact (getApprovalRequest_failsWith _).bind fun _ => trivial

/-! ## The state machine -/

/-- In every interleaving of creating, resolving and expiring: a request that has left
`pending` never changes again and has one resolution event; it is approved or rejected
only by an admissible attempt; an attempt that is refused, or that fails before its
resolution has gone through, leaves the database as it is. -/
theorem approval_state_machine {ι : Type} [DecidableEq ι] (operations : ι → ApprovalOperation)
    (answers : Answers system) (w : World) (fresh : Fresh w.db)
    {c c' : Config system fun _ : ι => Unit}
    (reach : Config.Reachable answers (start operations w) c)
    (later : Config.Reachable answers c c') :
    (∀ record ∈ c.shared.state.db.approvalRequests, record.status ≠ .pending →
      Table.find ApprovalRequestRecord.approvalRequestId record.approvalRequestId
        c'.shared.state.db.approvalRequests = some record ∧
      (resolutionEventsOf record.approvalRequestId c'.shared.state.db).length = 1) ∧
    (∀ record ∈ c.shared.state.db.approvalRequests,
      record.status = .approved ∨ record.status = .rejected →
        ∃ i attempt, operations i = .resolve attempt ∧ record.token = attempt.token ∧
          Admissible attempt record ∧ record.status = attempt.decision.toStatus ∧
          record.resolvedAt = some attempt.resolvedAt ∧
          record.resolvedBy = some attempt.actorRef) ∧
    ∀ i attempt d, operations i = .resolve attempt → Config.StepBy answers i c d →
      (Refused attempt c.shared.state.db → d.shared.state.db = c.shared.state.db) ∧
      ∀ e, Config.Reachable answers d c' → c'.threads i = .fail e → ¬ ReadBackFailed e →
        d.shared.state.db = c.shared.state.db := by
  have confined : (start operations w).Confined fun i => storeAction (operations i) :=
    fun i => program_confined (operations i)
  have invariant : ∀ {d : Config system fun _ : ι => Unit},
      Config.Reachable answers (start operations w) d →
        StoreInvariant operations d.shared.state.db := fun hd =>
    confined.invariant (fun v => StoreInvariant operations v.state.db)
      fresh.storeInvariant (fun v i s es hinv hstep => hinv.step hstep.1) hd
  have hinv' := invariant (reach.trans later)
  refine ⟨fun record hmem hresolved => ?_, (invariant reach).provenance,
    fun i attempt d hcall step => ⟨fun hrefused => ?_, fun e hlater hfailed hconfirmed => ?_⟩⟩
  · have hmem' : record ∈ c'.shared.state.db.approvalRequests :=
      (confined.reachable reach).relation
        (fun v v' => record ∈ v.state.db.approvalRequests →
          record ∈ v'.state.db.approvalRequests)
        (fun _ h => h) (fun _ _ _ _ _ hmem hstep h => hstep.1.mem (hmem h) hresolved) later hmem
    exact ⟨Table.find_eq_some_of_mem hinv'.ids hmem', hinv'.resolved record hmem' hresolved⟩
  · rcases ((confined.reachable reach).stepBy step).2 with heq | ⟨s, es, hstep, heq⟩
    · rw [heq]
    · rw [heq]
      exact StoreStep.eq_of_refused (hcall ▸ hstep.1) hrefused
  · have huntil : ((start operations w).threads i).Until (OnDb fun db db' _ => db' = db)
        (fun _ _ _ => True) (Prog.FailsWith ReadBackFailed) := by
      change (operations i).program.Until _ _ _
      rw [hcall]
      exact resolve_until attempt
    rcases Config.quiet_of_failed huntil reach step hlater hfailed hconfirmed with
      heq | ⟨s, es, hquiet, heq⟩
    · rw [heq]
    · rw [heq]
      exact hquiet.1

/-- A request that expires at instant 100. -/
def sampleRequest : NewApprovalRequestRecord where
  approvalRequestId := 7
  traceId := 1
  executionId := none
  actionProposalId := 2
  actionFingerprint := ⟨"sha256:0"⟩
  actionKind := .runSubprocess
  riskTier := .tier2
  title := "Run the tests"
  consequenceSummary := "Runs a subprocess"
  capabilityScope :=
    { execution := { timeoutMs := 1000, maxStdoutBytes := 1024, maxStderrBytes := 1024 } }
  requestedBy := "telegram:alice"
  token := "token-1"
  requestedAt := 10
  expiresAt := 100

/-- Alice approves it from another surface, in time. -/
def sampleAttempt : ApprovalResolutionAttempt where
  token := "token-1"
  actorRef := "cli:alice"
  expectedActionFingerprint := ⟨"sha256:0"⟩
  decision := .approved
  reason := none
  resolvedAt := 50

/-- The request is created by one process and resolved by the other. -/
def sampleOperations : Bool → ApprovalOperation
  | false => .create .shipped sampleRequest
  | true => .resolve sampleAttempt

theorem approval_state_machine_sample :
    ∃ c : Config system fun _ : Bool => Unit,
      Config.Reachable (fun _ _ => True) (start sampleOperations {}) c ∧
      ∃ record ∈ c.shared.state.db.approvalRequests, record.status = .approved ∧
        (resolutionEventsOf record.approvalRequestId c.shared.state.db).length = 1 ∧
        ∃ i attempt, sampleOperations i = .resolve attempt ∧ Admissible attempt record := by
  have hcreated : Config.Reachable (fun _ _ => True) (start sampleOperations {}) _ :=
    Config.reachable_run (o := steady 20) (fun _ _ => trivial) false
      (sampleOperations false).program 0 _ rfl
  have reach := hcreated.trans (Config.reachable_run (o := steady 20) (fun _ _ => trivial) true
    (sampleOperations true).program 1 _ rfl)
  obtain ⟨hfinal, hprovenance, -⟩ := approval_state_machine sampleOperations (fun _ _ => True) {}
    ⟨rfl, fun _ => rfl⟩ reach .refl
  refine ⟨_, reach, _, List.mem_cons_self .., rfl, ?_, ?_⟩
  · exact (hfinal _ (List.mem_cons_self ..) (by decide)).2
  · obtain ⟨i, attempt, hcall, -, hadmissible, -⟩ :=
      hprovenance _ (List.mem_cons_self ..) (Or.inl rfl)
    exact ⟨i, attempt, hcall, hadmissible⟩

end BlueLagoon.Approval
