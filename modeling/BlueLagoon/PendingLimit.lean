import BlueLagoon.ApprovalStateMachine

/-!
# The limit on pending requests

Creating a request counts the pending ones first and inserts in a transaction of its
own. What happens in between, the window of the creation, decides whether the limit
holds: the log keeps the counts and the inserts, so the windows can be read from it.
-/

namespace BlueLagoon.Approval

open Interleaving Harness

variable {ι : Type}

/-! ## Windows -/

/-- A request was inserted. -/
def isRequested : Event → Bool
  | .approvalRequested _ => true
  | _ => false

/-- A request left `pending`. -/
def isResolved : Event → Bool
  | .approvalResolved _ _ _ => true
  | _ => false

/-- How many requests were inserted. -/
def requested (log : List (ι × Event)) : Nat := log.countP fun entry => isRequested entry.2

/-- How many requests left `pending`. -/
def resolved (log : List (ι × Event)) : Nat := log.countP fun entry => isResolved entry.2

/-- In the window between a count and the insert of the same process, no more requests are
inserted than leave `pending`. -/
def WindowsClear (log : List (ι × Event)) : Prop :=
  ∀ i pendingCount id before window after,
    log = before ++ (i, .pendingRequestsCounted pendingCount) ::
      (window ++ (i, .approvalRequested id) :: after) →
    requested window ≤ resolved window

theorem WindowsClear.of_prefix {log log' : List (ι × Event)}
    (h : WindowsClear log') (hlonger : log <+: log') : WindowsClear log := by
  obtain ⟨rest, rfl⟩ := hlonger
  rintro i pendingCount id before window after rfl
  exact h i pendingCount id before window (after ++ rest) (by simp)

/-! ## Bookkeeping

The log accounts for every change of the number of pending requests, and every insert has
a count of the same process behind it that was below the limit. -/

structure Bookkeeping (limit pendingAtStart : Nat) (v : Shared system ι) : Prop where
  ids : (v.state.db.approvalRequests.map ApprovalRequestRecord.approvalRequestId).Nodup
  balance : pendingAtStart + requested v.log = pendingCount v.state.db + resolved v.log
  counts : ∀ i n before after, v.log = before ++ (i, .pendingRequestsCounted n) :: after →
    pendingAtStart + requested before = n + resolved before
  inserts : ∀ i id before after, v.log = before ++ (i, .approvalRequested id) :: after →
    ∃ n < limit, (i, .pendingRequestsCounted n) ∈ before

namespace Bookkeeping

variable {limit pendingAtStart : Nat} {v : Shared system ι} {i : ι} {w : World}

/-- An action without an event keeps the books when nothing is to be booked. -/
theorem quiet (h : Bookkeeping limit pendingAtStart v)
    (ids : (w.db.approvalRequests.map ApprovalRequestRecord.approvalRequestId).Nodup)
    (balance : pendingCount v.state.db = pendingCount w.db) :
    Bookkeeping limit pendingAtStart (v.push i w []) where
  ids := ids
  balance := by
    have := h.balance
    simp only [Shared.push, List.map_nil, List.append_nil]
    omega
  counts := by simpa [Shared.push] using h.counts
  inserts := by simpa [Shared.push] using h.inserts

/-- An action with one event keeps the books when the event says what happened. -/
theorem event (h : Bookkeeping limit pendingAtStart v) {e : Event}
    (ids : (w.db.approvalRequests.map ApprovalRequestRecord.approvalRequestId).Nodup)
    (balance : pendingCount v.state.db + (if isRequested e then 1 else 0) =
      pendingCount w.db + (if isResolved e then 1 else 0))
    (counted : ∀ n, e = .pendingRequestsCounted n → n = pendingCount v.state.db)
    (inserted : ∀ id, e = .approvalRequested id →
      ∃ n < limit, (i, .pendingRequestsCounted n) ∈ v.log) :
    Bookkeeping limit pendingAtStart (v.push i w [e]) where
  ids := ids
  balance := by
    have := h.balance
    simp only [Shared.push, List.map_cons, List.map_nil, requested, resolved,
      List.countP_append, List.countP_singleton] at this ⊢
    omega
  counts := by
    intro j n before after hlog
    rcases split_concat hlog with ⟨after', hold⟩ | ⟨rfl, hlast⟩
    · exact h.counts j n before after' hold
    · obtain ⟨-, he⟩ := Prod.mk.inj hlast
      rw [counted n he.symm]
      exact h.balance
  inserts := by
    intro j id before after hlog
    rcases split_concat hlog with ⟨after', hold⟩ | ⟨rfl, hlast⟩
    · exact h.inserts j id before after' hold
    · obtain ⟨rfl, he⟩ := Prod.mk.inj hlast
      exact inserted id he.symm

/-- The books show that the limit held as long as the windows are clear. By induction on the
log: an insert finds what its count found or less, and the count was below the limit. -/
theorem within (h : Bookkeeping limit pendingAtStart v) (hstart : pendingAtStart ≤ limit)
    (hclear : WindowsClear v.log) : pendingCount v.state.db ≤ limit := by
  have hbefore : ∀ log, log <+: v.log → pendingAtStart + requested log ≤ limit + resolved log := by
    intro log
    induction log using List.reverseRecOn with
    | nil =>
      intro _
      simpa [requested, resolved] using hstart
    | append_singleton log entry ih =>
      intro hlonger
      have hlog := ih ((List.prefix_append _ _).trans hlonger)
      obtain ⟨rest, hrest⟩ := hlonger
      obtain ⟨i, e⟩ := entry
      cases he : isRequested e with
      | false =>
        simp only [requested, resolved, List.countP_append, List.countP_singleton, he,
          Bool.false_eq_true, if_false] at hlog ⊢
        omega
      | true =>
        obtain ⟨id, rfl⟩ : ∃ id, e = .approvalRequested id := by
          cases e <;> simp_all [isRequested]
        -- The insert has its count before it; what lies between them is its window.
        obtain ⟨n, hn, hmem⟩ := h.inserts i id log rest (by simpa using hrest.symm)
        obtain ⟨before, window, rfl⟩ := List.append_of_mem hmem
        have hsplit : v.log = before ++ (i, .pendingRequestsCounted n) ::
            (window ++ (i, .approvalRequested id) :: rest) := by simpa using hrest.symm
        have hcount := h.counts i n before _ hsplit
        have hwindow := hclear i n id before window rest hsplit
        simp only [requested, resolved, List.countP_append, List.countP_cons,
          List.countP_nil, isRequested, isResolved] at hcount hwindow ⊢
        simp
        omega
  have hall := hbefore v.log (List.prefix_refl _)
  have := h.balance
  omega

end Bookkeeping

/-! ## What the calls do to the books -/

/-- A transition takes one request at most out of the pending ones. -/
structure Settling (db db' : Database) (events : List Event) : Prop where
  ids : db'.approvalRequests.map ApprovalRequestRecord.approvalRequestId =
    db.approvalRequests.map ApprovalRequestRecord.approvalRequestId
  pending : (db.approvalRequests.map ApprovalRequestRecord.approvalRequestId).Nodup →
    pendingCount db = pendingCount db' + events.countP isResolved
  single : events.length ≤ 1
  others : ∀ e ∈ events, isRequested e = false ∧ ∀ n, e ≠ .pendingRequestsCounted n

/-- No status a resolution gives is `pending`. -/
theorem toStatus_ne_pending (decision : ApprovalResolutionDecision) :
    decision.toStatus ≠ .pending := by
  cases decision <;> decide

/-- Applying the transition of a resolution settles its own request at most. -/
theorem settling_applyResolutionTransition (resolutionId eventId : Uuid)
    (record : ApprovalRequestRecord) (transition : ResolutionTransition)
    (resolvedAt now : DateTime) (db : Database) :
    Settling db
      (applyResolutionTransition resolutionId eventId record transition resolvedAt now db).db
      (applyResolutionTransition resolutionId eventId record transition resolvedAt now
        db).events := by
  by_cases hany : db.approvalRequests.any (isPendingRequest record.approvalRequestId)
  · obtain ⟨row, hmem, hrow⟩ := List.any_eq_true.mp hany
    rw [applyResolutionTransition, if_pos hany]
    have hkeep : ∀ r, (resolvedRow now transition resolvedAt r).approvalRequestId =
        r.approvalRequestId := fun _ => rfl
    refine
      { ids := Table.map_key_update hkeep
        pending := fun hnodup => ?_
        single := by simp
        others := by simp [isRequested] }
    have hless : ((Table.update (isPendingRequest record.approvalRequestId)
        (resolvedRow now transition resolvedAt) db.approvalRequests).filter
          (fun row => row.status = .pending)).length + 1 =
        (db.approvalRequests.filter (fun row => row.status = .pending)).length :=
      Table.length_filter_update hnodup (k := record.approvalRequestId)
        (by simp [isPendingRequest]) (by simp [resolvedRow, toStatus_ne_pending]) hmem hrow
    simp only [pendingCount, withApprovalAuditEvent, List.countP_singleton, isResolved, if_true]
    exact hless.symm
  · rw [applyResolutionTransition, if_neg hany]
    exact { ids := rfl, pending := by simp, single := by simp, others := by simp }

theorem allowsSettling_settling : AllowsSettling Settling where
  triggers db checkpoints diagnostics events h := by
    rcases h with rfl | ⟨id, rfl⟩
    · exact { ids := rfl, pending := by simp [pendingCount], single := by simp, others := by simp }
    · exact
        { ids := rfl
          pending := by simp [pendingCount, isResolved]
          single := by simp
          others := by simp [isRequested] }
  transition := settling_applyResolutionTransition

/-- A transition keeps the books. -/
theorem Bookkeeping.settling {limit pendingAtStart : Nat} {v : Shared system ι} {i : ι} {w : World}
    {events : List Event} (h : Bookkeeping limit pendingAtStart v)
    (hstep : Settling v.state.db w.db events) :
    Bookkeeping limit pendingAtStart (v.push i w events) := by
  have hids : (w.db.approvalRequests.map ApprovalRequestRecord.approvalRequestId).Nodup := by
    rw [hstep.ids]
    exact h.ids
  have hpending := hstep.pending h.ids
  rcases events with - | ⟨e, - | ⟨e', rest⟩⟩
  · exact h.quiet hids (by simpa using hpending)
  · obtain ⟨hnot, hcount⟩ := hstep.others e (by simp)
    refine h.event hids ?_ (fun n he => absurd he (hcount n)) fun id he => ?_
    · simpa [hnot, List.countP_singleton] using hpending
    · simp [he, isRequested] at hnot
  · have := hstep.single
    simp at this

/-! ## The processes as threads of a protocol -/

section Threads

variable (answers : Answers system) (limit pendingAtStart : Nat)

/-- The books are kept; what a process has counted stays in the log. -/
def creationProtocol (ι : Type) : Protocol system ι where
  answers := answers
  Inv := Bookkeeping limit pendingAtStart
  Rely _ v w := v.log <+: w.log
  rely_refl _ _ := List.prefix_refl _
  rely_trans _ _ _ _ h h' := h.trans h'

variable {answers limit pendingAtStart} {i : ι} {v : Shared system ι}

theorem wp_settling {α : Type} {p : Harness α} (hp : p.Confined (OnDb Settling)) :
    (creationProtocol answers limit pendingAtStart ι).wp i p (fun _ w => v.log <+: w.log) v := by
  refine Protocol.wp_of_confined hp (T := fun v w => v.log <+: w.log) (fun _ => List.prefix_refl _)
    (fun _ _ _ h h' => h.trans h') (fun _ _ _ h => h) ?_ v
  intro w s es hinv hstep
  exact ⟨⟨hinv.settling hstep.1, fun _ _ => List.prefix_append _ _⟩, List.prefix_append _ _⟩

/-- The process has counted so many pending requests. -/
def HasCounted (i : ι) (n : Nat) (v : Shared system ι) : Prop :=
  (i, Event.pendingRequestsCounted n) ∈ v.log

/-- A creation keeps the books: it inserts only after a count below the limit. -/
theorem wp_createApprovalRequest {config : RuntimeConfig}
    (hlimit : config.approvals.maxPendingRequests = limit) (request : NewApprovalRequestRecord) :
    (creationProtocol answers limit pendingAtStart ι).wp i
      (createApprovalRequest config request) (fun _ _ => True) v := by
  have refl : ∀ db, Settling db db [] := allowsSettling_settling.triggers.refl
  refine Protocol.wp_seq (R := fun _ _ => True) ?_ (fun _ w _ => ?_) fun _ _ _ => trivial
  · rw [Protocol.wp_ofExcept]
    trivial
  refine Protocol.wp_seq (R := fun r w => ∀ a, r = .ok a →
    ∃ n < limit, HasCounted i n w) ?_ (fun _ w hcounted => ?_)
    fun _ _ _ => trivial
  · refine Protocol.wp_seq (R := fun r w => ∀ n, r = .ok n → HasCounted i n w) ?_ (fun n w hn => ?_) fun _ _ _ _ h => by cases h
    · refine wp_transaction (fun w now effect hinv _ hbody => ?_) fun _ _ _ _ h => by cases h
      obtain rfl := Except.ok.inj hbody
      refine ⟨⟨?_, fun _ _ => List.prefix_append _ _⟩, ?_⟩
      · exact hinv.event hinv.ids rfl (by rintro n ⟨⟩; rfl) (by rintro id ⟨⟩)
      · rintro n ⟨⟩
        exact Shared.mem_push_log.mpr (Or.inr ⟨rfl, by simp⟩)
    · split
      · rintro _ ⟨⟩
      · rename_i hroom
        rintro _ -
        exact ⟨n, by omega, hn n rfl⟩
  · refine Protocol.wp_seq (wp_settling (confined_newUuid refl)) (fun eventId w' hlater => ?_)
      fun _ _ _ => trivial
    refine Protocol.wp_seq (R := fun _ _ => True) ?_ (fun _ w'' _ => ?_) fun _ _ _ => trivial
    · refine wp_transaction (fun u now effect hinv hrely hbody => ?_) fun _ _ _ => trivial
      obtain ⟨n, hn, hmem⟩ := hcounted () rfl
      refine ⟨⟨?_, fun _ _ => List.prefix_append _ _⟩, trivial⟩
      unfold createRequest at hbody
      split at hbody
      · cases hbody
      rename_i hviolation
      obtain rfl := Except.ok.inj hbody
      have hfresh : ∀ other ∈ u.state.db.approvalRequests,
          other.approvalRequestId ≠ (requestRow now request).approvalRequestId := by
        have hall := Database.firstBroken_eq_none.mp hviolation
        simpa using hall _ (List.mem_cons_self ..)
      refine hinv.event ?_ ?_ (by rintro n ⟨⟩) ?_
      · exact Table.nodup_append_fresh hinv.ids hfresh
      · simp [pendingCount, withApprovalAuditEvent, isRequested, isResolved, requestRow]
      · rintro id -
        exact ⟨n, hn, hrely.subset (hlater.subset hmem)⟩
    · exact Protocol.wp_mono (fun _ _ _ => trivial) (wp_settling (confined_fetchOne refl))

theorem wp_program (operation : ApprovalOperation)
    (hlimit : ∀ config request, operation = .create config request →
      config.approvals.maxPendingRequests = limit) :
    (creationProtocol answers limit pendingAtStart ι).wp i operation.program
      (fun _ _ => True) v := by
  cases operation with
  | create config request =>
    exact Protocol.wp_seq (wp_createApprovalRequest (hlimit config request rfl) request)
      (fun _ _ _ => trivial) fun _ _ _ => trivial
  | resolve attempt =>
    exact Protocol.wp_seq
      (wp_settling (allowsSettling_settling.resolveApprovalRequest attempt))
      (fun _ _ _ => trivial) fun _ _ _ => trivial
  | expireDue now =>
    exact Protocol.wp_seq (wp_settling (allowsSettling_settling.expireDueApprovalRequests now))
      (fun _ _ _ => trivial) fun _ _ _ => trivial

end Threads

/-- No action of a call puts more than one event into the log. -/
theorem program_single (operation : ApprovalOperation) :
    operation.program.Confined (OnDb fun _ _ events => events.length ≤ 1) := by
  have settling : AllowsSettling fun _ _ events => events.length ≤ 1 :=
    { triggers := by rintro db checkpoints diagnostics events (rfl | ⟨id, rfl⟩) <;> simp
      transition := fun _ _ _ _ _ _ db =>
        (settling_applyResolutionTransition _ _ _ _ _ _ db).single }
  have refl := settling.triggers.refl
  cases operation with
  | resolve attempt =>
    exact (settling.resolveApprovalRequest attempt).bind fun _ => Prog.confined_ret _
  | expireDue now =>
    exact (settling.expireDueApprovalRequests now).bind fun _ => Prog.confined_ret _
  | create config request =>
    refine Prog.Confined.bind ?_ fun _ => Prog.confined_ret _
    refine Prog.Confined.bind (Prog.confined_ofExcept _) fun _ => ?_
    refine Prog.Confined.bind (Prog.Confined.bind (confined_transaction refl ?_) fun n => ?_)
      fun _ => ?_
    · intro now db effect hbody
      obtain rfl := Except.ok.inj hbody
      simp
    · split
      · exact Prog.confined_fail _
      · exact Prog.confined_ret _
    · refine Prog.Confined.bind (confined_newUuid refl) fun eventId => ?_
      refine Prog.Confined.bind (confined_transaction refl ?_) fun _ => confined_fetchOne refl
      intro now db effect hbody
      unfold createRequest at hbody
      split at hbody
      · cases hbody
      · obtain rfl := Except.ok.inj hbody
        simp

/-! ## The limit -/

/-- Every run of creations with one limit, resolutions and expiries starts with its books in
order and keeps them so. -/
theorem bookkeeping_of_reachable [DecidableEq ι] {limit : Nat}
    {operations : ι → ApprovalOperation} {answers : Answers system} {w : World}
    (hlimit : ∀ i config request, operations i = .create config request →
      config.approvals.maxPendingRequests = limit)
    (ids : (w.db.approvalRequests.map ApprovalRequestRecord.approvalRequestId).Nodup)
    {d : Config system fun _ : ι => Unit}
    (reach : Config.Reachable answers (start operations w) d) :
    Bookkeeping limit (pendingCount w.db) d.shared := by
  have hkept : (creationProtocol answers limit (pendingCount w.db) ι).Kept
      (fun _ _ _ => True) (start operations w) := by
    refine Protocol.kept_of_wp ?_ fun i => wp_program (operations i) (hlimit i)
    exact
      { ids := ids
        balance := by simp [start, requested, resolved]
        counts := by simp [start]
        inserts := by simp [start] }
  exact (hkept.reachable reach).1

/-- After its last event a run was in a state with exactly the log up to there. -/
theorem reachable_after_event [DecidableEq ι] {operations : ι → ApprovalOperation}
    {answers : Answers system} {w : World} {c : Config system fun _ : ι => Unit}
    (reach : Config.Reachable answers (start operations w) c) {log after : List (ι × Event)}
    (hlog : c.shared.log = log ++ after) :
    ∃ d, Config.Reachable answers (start operations w) d ∧ Config.Reachable answers d c ∧
      d.shared.log = log := by
  have hsingle : (start operations w).Confined fun _ => OnDb fun _ _ events =>
      events.length ≤ 1 := fun i => program_single (operations i)
  have past : (start operations w).shared.log <+: log := by
    simp [start]
  exact hsingle.reachable_cut (fun _ _ _ _ h => h.1) reach past ⟨after, hlog.symm⟩

/-- In every run of creations with one limit, resolutions and expiries, from a database with
no more pending requests than that: when in the window of each creation no more requests come
in than leave `pending`, the limit holds in every state of the run. Where more come in than
leave, a creation whose count found room for one request takes the run over the limit. -/
theorem pendingCount_le_of_windowsClear [DecidableEq ι] (limit : Nat)
    (operations : ι → ApprovalOperation) (answers : Answers system) (w : World)
    (hlimit : ∀ i config request, operations i = .create config request →
      config.approvals.maxPendingRequests = limit)
    (ids : (w.db.approvalRequests.map ApprovalRequestRecord.approvalRequestId).Nodup)
    (hstart : pendingCount w.db ≤ limit) {c : Config system fun _ : ι => Unit}
    (reach : Config.Reachable answers (start operations w) c) :
    (WindowsClear c.shared.log →
      ∀ d, Config.Reachable answers (start operations w) d → Config.Reachable answers d c →
        pendingCount d.shared.state.db ≤ limit) ∧
    (∀ i n id before window after,
      c.shared.log = before ++ (i, .pendingRequestsCounted n) ::
        (window ++ (i, .approvalRequested id) :: after) →
      n + 1 = limit → resolved window < requested window →
      ∃ d, Config.Reachable answers (start operations w) d ∧ Config.Reachable answers d c ∧
        limit < pendingCount d.shared.state.db) := by
  constructor
  · intro hclear d hbefore hafter
    apply (bookkeeping_of_reachable hlimit ids hbefore).within hstart
    exact hclear.of_prefix hafter.log_prefix
  · intro i n id before window after hlog hroom hmore
    -- The run passes through the state right after the insert.
    have hinserted : c.shared.log = (before ++ (i, .pendingRequestsCounted n) ::
        (window ++ [(i, .approvalRequested id)])) ++ after := by
      simp [hlog]
    obtain ⟨d, hbefore, hafter, hcut⟩ := reachable_after_event reach hinserted
    refine ⟨d, hbefore, hafter, ?_⟩
    have books := bookkeeping_of_reachable hlimit ids hbefore
    have hcount := books.counts i n before _ hcut
    have hbalance := books.balance
    rw [hcut] at hbalance
    simp only [requested, resolved, List.countP_append, List.countP_cons, List.countP_nil,
      isRequested, isResolved] at hbalance hcount hmore
    simp at hbalance
    omega

/-- The shipped configuration with room for so many pending requests. -/
def roomFor (limit : Nat) : RuntimeConfig :=
  { RuntimeConfig.shipped with approvals := { RuntimeConfig.shipped.approvals with
      maxPendingRequests := limit } }

/-- Two processes create a request each. -/
def twoCreations (limit : Nat) : Bool → ApprovalOperation
  | false => .create (roomFor limit) sampleRequest
  | true => .create (roomFor limit)
      { sampleRequest with
          approvalRequestId := 8
          actionFingerprint := ⟨"sha256:1"⟩
          token := "token-2" }

theorem twoCreations_limit {limit : Nat} (i : Bool) (config : RuntimeConfig)
    (request : NewApprovalRequestRecord) (h : twoCreations limit i = .create config request) :
    config.approvals.maxPendingRequests = limit := by
  cases i <;> · obtain ⟨rfl, -⟩ := ApprovalOperation.create.inj h; rfl

/-- One creation after the other. -/
def oneByOne : List Bool := List.replicate 8 false ++ List.replicate 8 true

/-- Both count, then both insert. -/
def bothCountFirst : List Bool :=
  List.replicate 2 false ++ List.replicate 2 true ++ List.replicate 6 false ++
    List.replicate 6 true

/-- Two requests that are created one by one: their windows are clear, and a limit of two
holds. -/
theorem pendingCount_le_of_windowsClear_oneByOne :
    ∃ c, Config.Reachable (fun _ _ => True) (start (twoCreations 2) {}) c ∧
      pendingCount c.shared.state.db = 2 ∧
      ∀ d, Config.Reachable (fun _ _ => True) (start (twoCreations 2) {}) d →
        Config.Reachable (fun _ _ => True) d c → pendingCount d.shared.state.db ≤ 2 := by
  have reach : Config.Reachable (fun _ _ => True) (start (twoCreations 2) {})
      (Config.schedule (steady 20) oneByOne 0 (start (twoCreations 2) {})) :=
    Config.reachable_schedule (fun _ _ => trivial) oneByOne 0 (start (twoCreations 2) {})
  have hlog : (Config.schedule (steady 20) oneByOne 0 (start (twoCreations 2) {})).shared.log =
      [(false, .pendingRequestsCounted 0), (false, .approvalRequested 7),
        (true, .pendingRequestsCounted 1), (true, .approvalRequested 8)] := by
    decide
  refine ⟨_, reach, by decide, ?_⟩
  refine (pendingCount_le_of_windowsClear 2 (twoCreations 2) _ {} twoCreations_limit (by simp)
    (by decide) reach).1 ?_
  rw [hlog]
  intro i n id before window after h
  -- Each of the two inserts follows its count at once.
  have hempty : window = [] := by
    simp [List.cons_eq_append_iff] at h
    rcases h with ⟨-, ⟨rfl, -⟩, hrest⟩ | ⟨-, ⟨rfl, -⟩, hrest⟩ <;>
      simp [List.append_eq_cons_iff, List.cons_eq_append_iff] at hrest <;> exact hrest.1
  simp [hempty, requested]

/-- With room for one request, two that are created at the same time are both pending. -/
theorem pendingCount_exceeds :
    ∃ c, Config.Reachable (fun _ _ => True) (start (twoCreations 1) {}) c ∧
      (∀ i config request, twoCreations 1 i = .create config request →
        config.approvals.maxPendingRequests = 1) ∧
      pendingCount ({} : World).db = 0 ∧ pendingCount c.shared.state.db = 2 := by
  exact ⟨_, Config.reachable_schedule (o := steady 20) (fun _ _ => trivial) bothCountFirst 0
    (start (twoCreations 1) {}), twoCreations_limit, by decide, by decide⟩

end BlueLagoon.Approval
