import BlueLagoon.Recovery.LeaseRecovery

/-!
# What becomes of expired leases

Recovering an expired lease opens one checkpoint that names it, or fails before. Since
no pass looks at a lease that is expired already, a lease whose recovery a pass does
not reach is never recovered.
-/

namespace BlueLagoon.Recovery

open Interleaving Harness

/-! ## Checkpoints of a lease -/

/-- The payload of a checkpoint names the lease, as every recovery of a lease writes it. -/
def namesLease (workerLeaseId : Uuid) (payload : Json) : Bool :=
  namesWorkerLease workerLeaseId payload ||
    (payload.get "worker_lease").any (namesWorkerLease workerLeaseId)

/-- The payloads of all checkpoints. -/
def checkpointPayloads (db : Database) : List Json :=
  db.recoveryCheckpoints.map RecoveryCheckpointRecord.checkpointPayload

/-- How many checkpoints name the lease. -/
def checkpointsOf (workerLeaseId : Uuid) (db : Database) : Nat :=
  (checkpointPayloads db).countP (namesLease workerLeaseId)

/-- Every expired lease was recovered, once. -/
def Recovered (db : Database) : Prop :=
  ∀ lease ∈ db.workerLeases, lease.status = .expired → checkpointsOf lease.workerLeaseId db = 1

/-- Leases have identifiers of their own, and none that is active has a checkpoint. -/
structure Untouched (db : Database) : Prop where
  ids : (db.workerLeases.map WorkerLeaseRecord.workerLeaseId).Nodup
  active : ∀ lease ∈ db.workerLeases, lease.status = .active →
    checkpointsOf lease.workerLeaseId db = 0

/-! ## The recovery of one lease -/

/-- Actions that leave leases and checkpoint payloads alone. -/
structure Quiet (db db' : Database) (events : List Event) : Prop where
  leases : db'.workerLeases = db.workerLeases
  payloads : checkpointPayloads db' = checkpointPayloads db
  silent : ∀ id, Event.checkpointOpened id ∉ events

/-- The action that opens the checkpoint of a lease. -/
structure Opens (workerLeaseId : Uuid) (db db' : Database) (events : List Event) : Prop where
  leases : db'.workerLeases = db.workerLeases
  payloads : ∃ payload, checkpointPayloads db' = checkpointPayloads db ++ [payload] ∧
    ∀ id, namesLease id payload = decide (id = workerLeaseId)
  opened : ∃ id, Event.checkpointOpened id ∈ events

theorem Quiet.refl (db : Database) : Quiet db db [] := ⟨rfl, rfl, by simp⟩

theorem Quiet.trans {db db' db'' : Database} {es es' : List Event} (h : Quiet db db' es)
    (h' : Quiet db' db'' es') : Quiet db db'' (es ++ es') :=
  ⟨h'.leases.trans h.leases, h'.payloads.trans h.payloads, fun id hmem => by
    rcases List.mem_append.mp hmem with hmem | hmem
    · exact h.silent id hmem
    · exact h'.silent id hmem⟩

theorem Quiet.checkpointsOf_eq {db db' : Database} {es : List Event} (h : Quiet db db' es)
    (id : Uuid) : checkpointsOf id db' = checkpointsOf id db := by
  rw [checkpointsOf, h.payloads, checkpointsOf]

theorem Opens.checkpointsOf_eq {workerLeaseId : Uuid} {db db' : Database} {es : List Event}
    (h : Opens workerLeaseId db db' es) (id : Uuid) :
    checkpointsOf id db' = checkpointsOf id db + if id = workerLeaseId then 1 else 0 := by
  obtain ⟨payload, hpayloads, hnames⟩ := h.payloads
  rw [checkpointsOf, hpayloads, List.countP_append, List.countP_singleton, hnames, checkpointsOf]
  simp

theorem resolveRecoveryCheckpoint_quiet (resolution : RecoveryCheckpointResolution) :
    (resolveRecoveryCheckpoint resolution).Confined (OnDb Quiet) := by
  unfold resolveRecoveryCheckpoint
  split
  · exact Prog.confined_fail _
  · refine Prog.Confined.bind (confined_execute Quiet.refl ?_) fun _ => confined_fetchOne Quiet.refl
    intro now db effect hbody
    obtain rfl := Except.ok.inj hbody
    exact ⟨rfl, Table.map_key_update fun _ => rfl, by simp⟩

theorem insertOperationalDiagnostic_quiet (diagnostic : NewOperationalDiagnostic) :
    (insertOperationalDiagnostic diagnostic).Confined (OnDb Quiet) := by
  refine Prog.Confined.bind (Prog.confined_ofExcept _) fun _ => ?_
  refine Prog.Confined.bind (confined_execute Quiet.refl ?_) fun _ => confined_fetchOne Quiet.refl
  intro now db effect hbody
  obtain rfl := Except.ok.inj hbody
  exact ⟨rfl, rfl, by simp⟩

theorem reconcileGovernedActionRecovery_quiet (context : GovernedActionRecoveryContext)
    (decision : RecoveryDecision) (policyState : RecoveryPolicyState) (now : DateTime)
    (summary : String) :
    (reconcileGovernedActionRecovery context decision policyState now summary).Confined
      (OnDb Quiet) := by
  refine reconcileGovernedActionRecovery_confined (fun db rows => ⟨rfl, rfl, by simp⟩) _ _ _ _ _ ?_
  intro status blockedReason completedAt _ _
  exact GovernedActions.updateGovernedActionExecution_confined Quiet.refl
    fun _ _ _ _ _ => ⟨rfl, rfl, by simp⟩

/-- Inserting a checkpoint whose payload names the lease. -/
theorem createRecoveryCheckpoint_until {workerLeaseId : Uuid} {checkpoint : NewRecoveryCheckpoint}
    (hnames : ∀ id, namesLease id checkpoint.checkpointPayload = decide (id = workerLeaseId)) :
    (createRecoveryCheckpoint checkpoint).Until (OnDb Quiet) (OnDb (Opens workerLeaseId))
      (Prog.Confined (OnDb Quiet)) := by
  unfold createRecoveryCheckpoint
  split
  · trivial
  · intro at_
    cases at_ with
    | none => trivial
    | some now =>
      refine Prog.Until.bind (T := Prog.Confined (OnDb Quiet))
        (Prog.Until.tx (OnDb.refl Quiet.refl) (fun w c hc => ?_) fun _ => trivial)
        fun p hp => hp.bind fun _ => confined_fetchOne Quiet.refl
      simp only [commit, Except.mapError, Except.ok.injEq] at hc
      subst hc
      exact ⟨⟨rfl, ⟨_, by simp [checkpointPayloads, checkpointRow], hnames⟩, by simp⟩,
        List.Subset.refl _⟩

/-- Recovering a lease opens one checkpoint for it, unless it fails before; everything else
it does is quiet. -/
theorem recoverWorkerLeaseTimeout_until (lease : WorkerLeaseRecord) (now : DateTime)
    (source diagnosticReasonCode : String) (severity : OperationalDiagnosticSeverity)
    (errorMessage : Option String) :
    (recoverWorkerLeaseTimeout lease now source diagnosticReasonCode severity
      errorMessage).Until (OnDb Quiet) (OnDb (Opens lease.workerLeaseId))
        (Prog.Confined (OnDb Quiet)) := by
  unfold recoverWorkerLeaseTimeout
  split
  · unfold recoverGovernedActionWorkerLeaseTimeout
    refine Prog.Confined.until_bind (confined_expect _) fun governedActionExecutionId => ?_
    refine Prog.Confined.until_bind (confined_fetchOne Quiet.refl) fun record => ?_
    refine Prog.Confined.until_bind
      (loadGovernedActionRecoveryContext_confined Quiet.refl _ _ _) fun context => ?_
    refine Prog.Confined.until_bind (confined_newUuid Quiet.refl) fun checkpointId => ?_
    refine Prog.Until.bind (T := Prog.Confined (OnDb Quiet))
      (createRecoveryCheckpoint_until fun id => ?_) fun p hp => hp.bind fun checkpoint => ?_
    · simp [namesLease, namesWorkerLease, governedActionRecoveryCheckpointPayload, Json.get,
        Json.ofOption, eq_comm]
    · refine Prog.Confined.bind (Prog.confined_ofExcept _) fun decision => ?_
      refine Prog.Confined.bind (resolveRecoveryCheckpoint_quiet _) fun _ => ?_
      refine Prog.Confined.bind (reconcileGovernedActionRecovery_quiet _ _ _ _ _) fun _ => ?_
      refine Prog.Confined.bind (GovernedActions.writeGovernedActionAuditEvent_confined
        (fun db rows => ⟨rfl, rfl, by simp⟩) _ _ _ _) fun _ => ?_
      refine Prog.Confined.bind (confined_newUuid Quiet.refl) fun _ => ?_
      exact Prog.Confined.bind (insertOperationalDiagnostic_quiet _) fun _ => Prog.confined_ret _
  · refine Prog.Confined.until_bind (confined_newUuid Quiet.refl) fun checkpointId => ?_
    refine Prog.Until.bind (T := Prog.Confined (OnDb Quiet))
      (createRecoveryCheckpoint_until fun id => ?_) fun p hp => hp.bind fun checkpoint => ?_
    · simp [namesLease, namesWorkerLease, Json.get, eq_comm]
    · refine Prog.Confined.bind (Prog.confined_ofExcept _) fun decision => ?_
      refine Prog.Confined.bind (resolveRecoveryCheckpoint_quiet _) fun _ => ?_
      refine Prog.Confined.bind (confined_newUuid Quiet.refl) fun _ => ?_
      exact Prog.Confined.bind (insertOperationalDiagnostic_quiet _) fun _ => Prog.confined_ret _

/-! ## The loop over the expired leases -/

/-- The recovery got as far as opening its checkpoint. -/
def OpenedCheckpoint (events : List Event) : Prop := ∃ id, Event.checkpointOpened id ∈ events

/-- The leases are what they were, those named have one checkpoint more each, and the others have
as many as before. -/
structure Covers (workerLeaseIds : List Uuid) (db db' : Database) : Prop where
  leases : db'.workerLeases = db.workerLeases
  count : ∀ id, checkpointsOf id db' =
    checkpointsOf id db + if id ∈ workerLeaseIds then 1 else 0

theorem Covers.refl (db : Database) : Covers [] db db := ⟨rfl, fun _ => by simp⟩

/-- One lease, and then others than this one. -/
theorem Covers.cons {workerLeaseId : Uuid} {rest : List Uuid} {db db' db'' : Database}
    (h : Covers [workerLeaseId] db db') (h' : Covers rest db' db'')
    (hother : workerLeaseId ∉ rest) : Covers (workerLeaseId :: rest) db db'' where
  leases := h'.leases.trans h.leases
  count := by
    intro id
    rw [h'.count, h.count, Nat.add_assoc]
    by_cases hid : id = workerLeaseId
    · subst hid
      simp [hother]
    · simp [hid]

theorem Covers.of_quiet {workerLeaseIds : List Uuid} {db db' db'' : Database} {es : List Event}
    (h : Covers workerLeaseIds db db') (h' : Quiet db' db'' es) :
    Covers workerLeaseIds db db'' where
  leases := h'.leases.trans h.leases
  count := fun id => (h'.checkpointsOf_eq id).trans (h.count id)

/-- A recovery that gets as far as its checkpoint covers its lease, however it ends; one that does
not get there ends with an error. -/
theorem recoverExpiredWorkerLease_run (o : Oracle system) (n : Nat) (w : World) (now : DateTime)
    (lease : WorkerLeaseRecord) :
    let r := (recoverExpiredWorkerLease now lease).run o n w
    (∃ e, r.result = .error e) ∧ ¬ OpenedCheckpoint r.events ∨
      Covers [lease.workerLeaseId] w.db r.state.db := by
  have huntil : (recoverExpiredWorkerLease now lease).Until (OnDb Quiet)
      (OnDb (Opens lease.workerLeaseId)) (Prog.Confined (OnDb Quiet)) :=
    recoverWorkerLeaseTimeout_until ..
  rcases Prog.Until.run (A := OnDb Quiet) o n w (OnDb.refl Quiet.refl)
    (OnDb.trans fun _ _ _ _ _ => Quiet.trans) huntil with
    ⟨e, hresult, hquiet, -⟩ | ⟨t, u, es, es', es'', ⟨hbefore, -⟩, ⟨hopens, -⟩, ⟨hafter, -⟩, -⟩
  · refine Or.inl ⟨⟨e, hresult⟩, ?_⟩
    rintro ⟨id, hmem⟩
    exact hquiet.silent id hmem
  · refine Or.inr ⟨(hafter.leases.trans hopens.leases).trans hbefore.leases, fun id => ?_⟩
    rw [hafter.checkpointsOf_eq, hopens.checkpointsOf_eq, hbefore.checkpointsOf_eq]
    simp

/-- Nothing cuts the recoveries of a batch short. Those that others come after find nothing in
their way, and all their statements are served; the last one is served as far as its
checkpoint. -/
def LoopUnbroken (o : Oracle system) (now : DateTime) :
    List WorkerLeaseRecord → Nat → World → Prop
  | [], _, _ => True
  | [lease], n, w => CheckpointReached o n lease w.db
  | lease :: next :: rest, n, w =>
    Unobstructed now lease w.db ∧ (recoverExpiredWorkerLease now lease).Answered served o n w ∧
      let r := (recoverExpiredWorkerLease now lease).run o n w
      LoopUnbroken o now (next :: rest) r.asked r.state

/-- The loop of `recover_expired_worker_leases`. -/
abbrev recoveryLoop (now : DateTime) (outcomes : List WorkerLeaseRecoveryOutcome)
    (leases : List WorkerLeaseRecord) : Harness (List WorkerLeaseRecoveryOutcome) :=
  Prog.foldlM
    (fun outcomes lease => do
      let outcome ← recoverExpiredWorkerLease now lease
      pure (outcomes ++ [outcome]))
    outcomes leases

/-- The first recovery, and the rest of the loop if it went through. -/
theorem recoveryLoop_cons_run (o : Oracle system) (now : DateTime)
    (outcomes : List WorkerLeaseRecoveryOutcome) (lease : WorkerLeaseRecord)
    (rest : List WorkerLeaseRecord) (n : Nat) (w : World) :
    (recoveryLoop now outcomes (lease :: rest)).run o n w =
      ((recoverExpiredWorkerLease now lease).run o n w).andThen fun outcome n w =>
        (recoveryLoop now (outcomes ++ [outcome]) rest).run o n w := by
  change Prog.run o (Prog.bind (Prog.bind _ _) _) n w = _
  rw [Prog.bind_assoc, Prog.run_bind]
  rfl

/-- A loop that nothing cuts short covers every lease of its batch. By induction on the batch: the
recovery of each lease but the last goes through, so that the loop goes on, and that of the last
one gets as far as its checkpoint. -/
theorem LoopUnbroken.covers {o : Oracle system} {now : DateTime} :
    ∀ {leases : List WorkerLeaseRecord} (outcomes : List WorkerLeaseRecoveryOutcome) {n : Nat}
      {w : World}, LoopUnbroken o now leases n w →
      (leases.map WorkerLeaseRecord.workerLeaseId).Nodup →
      Covers (leases.map WorkerLeaseRecord.workerLeaseId) w.db
        ((recoveryLoop now outcomes leases).run o n w).state.db
  | [], _, _, w, _, _ => Covers.refl w.db
  | [lease], outcomes, n, w, h, _ => by
    rw [recoveryLoop_cons_run]
    have hstate : (((recoverExpiredWorkerLease now lease).run o n w).andThen fun outcome n w =>
        (recoveryLoop now (outcomes ++ [outcome]) []).run o n w).state =
          ((recoverExpiredWorkerLease now lease).run o n w).state := by
      rw [Run.andThen]
      split <;> rfl
    rw [hstate]
    rcases recoverExpiredWorkerLease_run o n w now lease with ⟨-, hunopened⟩ | hcovers
    · exact absurd (recoverExpiredWorkerLease_opens h) hunopened
    · exact hcovers
  | lease :: next :: rest, outcomes, n, w, h, hnodup => by
    obtain ⟨hunobstructed, hanswered, hrest⟩ := h
    obtain ⟨hother, hnodup'⟩ := List.nodup_cons.mp hnodup
    obtain ⟨outcome, hok, -⟩ :=
      (recoverExpiredWorkerLease_delivers hunobstructed).run hanswered
    rw [recoveryLoop_cons_run, Run.andThen, hok]
    rcases recoverExpiredWorkerLease_run o n w now lease with ⟨⟨e, herror⟩, -⟩ | hcovers
    · rw [hok] at herror
      cases herror
    · exact hcovers.cons (hrest.covers _ hnodup') hother

/-! ## A pass -/

/-- What is left of a pass once the expired leases are recovered: the warnings. -/
abbrev warnings (now : DateTime) (softWarningThresholdPercent : Nat)
    (outcomes : List WorkerLeaseRecoveryOutcome) : Harness WorkerLeaseSupervisionSummary := do
  let activeLeases ← listActiveWorkerLeases 100
  let softWarningDiagnostics ←
    Prog.foldlM (warnWorkerLease now softWarningThresholdPercent) [] activeLeases
  pure
    { softWarningDiagnostics := softWarningDiagnostics
      recoveredExpiredLeases := outcomes }

/-- The warnings write diagnostics, and nothing else. -/
theorem warnings_confined {B : Database → Database → List Event → Prop}
    (refl : ∀ db, B db db [])
    (hdiagnostic : ∀ diagnostic, (insertOperationalDiagnostic diagnostic).Confined (OnDb B))
    (now : DateTime) (softWarningThresholdPercent : Nat)
    (outcomes : List WorkerLeaseRecoveryOutcome) :
    (warnings now softWarningThresholdPercent outcomes).Confined (OnDb B) := by
  refine Prog.Confined.bind (confined_fetch refl) fun activeLeases => ?_
  refine Prog.Confined.bind (Prog.Confined.foldlM (fun diagnostics lease => ?_) _ _)
    fun _ => Prog.confined_ret _
  unfold warnWorkerLease
  refine Prog.Confined.bind (Prog.confined_ofExcept _) fun decision => ?_
  split
  · exact Prog.confined_ret _
  · refine Prog.Confined.bind (confined_fetch refl) fun warned => ?_
    split
    · exact Prog.confined_ret _
    · refine Prog.Confined.bind (confined_newUuid refl) fun _ => ?_
      exact Prog.Confined.bind (hdiagnostic _) fun _ => Prog.confined_ret _

/-- The leases a pass at `now` expires. -/
def isDue (now : DateTime) (lease : WorkerLeaseRecord) : Bool :=
  lease.status = .active && decide (lease.leaseExpiresAt ≤ now)

/-- The statement of a pass that expires the leases which are due. -/
abbrev expireDue (now at_ : DateTime) (db : Database) :
    Except String (Effect (List WorkerLeaseRecord)) :=
  changeActiveLeases (fun row => row.leaseExpiresAt ≤ now) (leaseEnded at_ .expired now) db

/-- The statement that expires the leases fails and changes nothing, or it is served and expires
all that are due. -/
theorem expireDueWorkerLeases_run (o : Oracle system) (n : Nat) (w : World) (now : DateTime) :
    let r := (expireDueWorkerLeases now).run o n w
    ((∃ e, r.result = .error e) ∧ r.state = w) ∨
      ∃ at_ effect, o n .statement = some at_ ∧ expireDue now at_ w.db = .ok effect ∧
        r.result = .ok effect.value ∧ r.state = { w with db := effect.db } ∧ r.asked = n + 1 := by
  unfold expireDueWorkerLeases execute transaction
  simp only [Prog.run]
  cases hat : (o n .statement : Option DateTime) with
  | none => exact Or.inl ⟨⟨_, rfl⟩, rfl⟩
  | some at_ =>
    simp only
    cases hexpired : expireDue now at_ w.db with
    | error constraint =>
      left
      rw [Prog.run_tx_error _ _ _ (e := ["failed to expire due worker leases", constraint])
        (by simp [commit, hexpired, Except.map, Except.mapError])]
      exact ⟨⟨_, rfl⟩, rfl⟩
    | ok effect =>
      right
      refine ⟨at_, effect, rfl, hexpired, ?_⟩
      rw [Prog.run_tx_ok _ _ _ (c := ⟨effect.value, { w with db := effect.db },
        effect.value.map fun row => Event.leaseExpired row.workerLeaseId⟩)
        (by simp [commit, hexpired, Except.map, Except.mapError])]
      exact ⟨rfl, rfl, rfl⟩

/-- A pass, whether it ends well or not. -/
def supervisionPass (pass : DateTime × Nat) : Harness Unit := do
  let _ ← (superviseWorkerLeases pass.1 pass.2).attempt
  pure ()

/-- A pass that expires leases is not cut short before their recoveries are done. -/
def PassUnbroken (o : Oracle system) (pass : DateTime × Nat) (n : Nat) (w : World) : Prop :=
  1 ≤ pass.2 ∧ pass.2 ≤ 100 → ∀ at_ effect, o n .statement = some at_ →
    expireDue pass.1 at_ w.db = .ok effect →
      LoopUnbroken o pass.1 effect.value (n + 1) { w with db := effect.db }

/-- A pass at `now` expires the leases that are due and covers each of them. -/
structure Supervises (now at_ : DateTime) (db db' : Database) : Prop where
  leases : db'.workerLeases =
    Table.update (isDue now) (leaseEnded at_ .expired now) db.workerLeases
  count : ∀ id, checkpointsOf id db' = checkpointsOf id db +
    if id ∈ (db.workerLeases.filter (isDue now)).map WorkerLeaseRecord.workerLeaseId then 1 else 0

/-- The batch of the loop has the identifiers of the leases that were due. -/
theorem ids_of_expireDue {now at_ : DateTime} {db : Database}
    {effect : Effect (List WorkerLeaseRecord)} (heffect : expireDue now at_ db = .ok effect) :
    effect.value.map WorkerLeaseRecord.workerLeaseId =
      (db.workerLeases.filter (isDue now)).map WorkerLeaseRecord.workerLeaseId := by
  rw [changeActiveLeases_eq_ok heffect, List.map_map]
  rfl

/-- The leases that were expired, and then their recoveries. -/
theorem supervises_of_covers {now at_ : DateTime} {db db' : Database}
    {effect : Effect (List WorkerLeaseRecord)} (heffect : expireDue now at_ db = .ok effect)
    (h : Covers (effect.value.map WorkerLeaseRecord.workerLeaseId) effect.db db') :
    Supervises now at_ db db' := by
  rw [ids_of_expireDue heffect] at h
  obtain rfl := changeActiveLeases_eq_ok heffect
  exact ⟨h.leases, h.count⟩

/-- What a pass that is not cut short does to the database: nothing, because its threshold is not
valid or no statement expires leases, or it covers what it expires. -/
theorem PassUnbroken.supervises {o : Oracle system} {pass : DateTime × Nat} {n : Nat} {w : World}
    (h : PassUnbroken o pass n w)
    (hids : (w.db.workerLeases.map WorkerLeaseRecord.workerLeaseId).Nodup) :
    Covers [] w.db ((supervisionPass pass).run o n w).state.db ∨
      ∃ at_, Supervises pass.1 at_ w.db ((supervisionPass pass).run o n w).state.db := by
  have hstate : ((supervisionPass pass).run o n w).state =
      ((superviseWorkerLeases pass.1 pass.2).run o n w).state := by
    change (Prog.run o (Prog.bind (Prog.attempt _) _) n w).state = _
    rw [Prog.run_bind, Prog.run_attempt]
    rfl
  rw [hstate]
  by_cases hthreshold : 1 ≤ pass.2 ∧ pass.2 ≤ 100
  · -- the warnings that follow the recoveries leave leases and checkpoints alone
    obtain ⟨_, hquiet, -⟩ : ∃ es, OnDb Quiet ((recoverExpiredWorkerLeases pass.1).run o n w).state
        ((superviseWorkerLeases pass.1 pass.2).run o n w).state es := by
      rw [superviseWorkerLeases, if_neg (not_not_intro hthreshold)]
      exact Prog.run_bind_confined (A := OnDb Quiet) o n w (OnDb.refl Quiet.refl)
        (OnDb.trans fun _ _ _ _ _ => Quiet.trans) _
        (warnings_confined Quiet.refl insertOperationalDiagnostic_quiet pass.1 pass.2)
    have hrecover : (recoverExpiredWorkerLeases pass.1).run o n w =
        ((expireDueWorkerLeases pass.1).run o n w).andThen fun batch n w =>
          (recoveryLoop pass.1 [] batch).run o n w := Prog.run_bind ..
    rcases expireDueWorkerLeases_run o n w pass.1 with
      ⟨⟨e, hresult⟩, hsame⟩ | ⟨at_, effect, hat, heffect, hresult, hworld, hasked⟩
    · left
      have hstop : ((recoverExpiredWorkerLeases pass.1).run o n w).state = w := by
        rw [hrecover, Run.andThen, hresult]
        exact hsame
      rw [hstop] at hquiet
      exact (Covers.refl w.db).of_quiet hquiet
    · right
      refine ⟨at_, supervises_of_covers heffect ?_⟩
      have hnodup : (effect.value.map WorkerLeaseRecord.workerLeaseId).Nodup := by
        rw [ids_of_expireDue heffect]
        exact hids.sublist (List.Sublist.map _ List.filter_sublist)
      have hcovers := (h hthreshold at_ effect hat heffect).covers [] hnodup
      rw [hrecover, Run.andThen, hresult, hasked, hworld] at hquiet
      exact hcovers.of_quiet hquiet
  · left
    rw [superviseWorkerLeases, if_pos hthreshold]
    exact Covers.refl w.db

/-- Where a pass changed nothing, leases are untouched and recovered as before. -/
theorem Covers.keeps {db db' : Database} (h : Covers [] db db') (huntouched : Untouched db)
    (hrecovered : Recovered db) : Untouched db' ∧ Recovered db' := by
  have hcount : ∀ id, checkpointsOf id db' = checkpointsOf id db := fun id => by
    rw [h.count]
    simp
  refine ⟨⟨by rw [h.leases]; exact huntouched.ids, fun lease hmem hactive => ?_⟩,
    fun lease hmem hexpired => ?_⟩
  · rw [hcount]
    exact huntouched.active lease (h.leases ▸ hmem) hactive
  · rw [hcount]
    exact hrecovered lease (h.leases ▸ hmem) hexpired

/-- A lease has one more checkpoint after the pass exactly if the pass expired it. -/
theorem Supervises.checkpointsOf_eq {now at_ : DateTime} {db db' : Database}
    (h : Supervises now at_ db db')
    (hids : (db.workerLeases.map WorkerLeaseRecord.workerLeaseId).Nodup)
    {lease : WorkerLeaseRecord} (hmem : lease ∈ db.workerLeases) :
    checkpointsOf lease.workerLeaseId db' =
      checkpointsOf lease.workerLeaseId db + if isDue now lease then 1 else 0 := by
  have hdue : lease.workerLeaseId ∈
      (db.workerLeases.filter (isDue now)).map WorkerLeaseRecord.workerLeaseId ↔
        isDue now lease = true := by
    constructor
    · intro hfiltered
      obtain ⟨other, hother, hid⟩ := List.mem_map.mp hfiltered
      obtain ⟨hstored, hdue⟩ := List.mem_filter.mp hother
      rwa [Table.eq_of_mem_of_key hids hstored hmem hid] at hdue
    · exact fun hdue => List.mem_map_of_mem (List.mem_filter.mpr ⟨hmem, hdue⟩)
  rw [h.count]
  simp only [hdue]

/-- A pass that covers what it expires leaves active leases without checkpoints, and every expired
lease with one: those of before have the one they had, and those it expired were active. -/
theorem Supervises.keeps {now at_ : DateTime} {db db' : Database} (h : Supervises now at_ db db')
    (huntouched : Untouched db) (hrecovered : Recovered db) : Untouched db' ∧ Recovered db' := by
  have hcount := fun lease => @Supervises.checkpointsOf_eq now at_ db db' h huntouched.ids lease
  refine ⟨⟨?_, fun lease hmem hactive => ?_⟩, fun lease hmem hexpired => ?_⟩
  · rw [h.leases, Table.map_key_update]
    · exact huntouched.ids
    · exact fun _ => rfl
  · rcases Table.mem_update.mp (h.leases ▸ hmem) with ⟨hold, hdue⟩ | ⟨old, -, -, rfl⟩
    · rw [hcount lease hold, hdue]
      exact huntouched.active lease hold hactive
    · cases hactive
  · rcases Table.mem_update.mp (h.leases ▸ hmem) with ⟨hold, hdue⟩ | ⟨old, hold, hdue, rfl⟩
    · rw [hcount lease hold, hdue]
      exact hrecovered lease hold hexpired
    · have hactive : old.status = .active := by
        simp only [isDue, Bool.and_eq_true, decide_eq_true_eq] at hdue
        exact hdue.1
      show checkpointsOf old.workerLeaseId db' = 1
      rw [hcount old hold, hdue, huntouched.active old hold hactive]
      rfl

/-! ## Any number of passes -/

/-- Passes one after the other, whether they end well or not. -/
def supervisionRun (passes : List (DateTime × Nat)) : Harness Unit :=
  Prog.foldlM (fun _ pass => supervisionPass pass) () passes

/-- Every pass of the run is unbroken. -/
def PassesUnbroken (o : Oracle system) : List (DateTime × Nat) → Nat → World → Prop
  | [], _, _ => True
  | pass :: passes, n, w =>
    let r := (supervisionPass pass).run o n w
    PassUnbroken o pass n w ∧ PassesUnbroken o passes r.asked r.state

/-- The first pass, which always ends, and then the others. -/
theorem supervisionRun_cons_state (o : Oracle system) (pass : DateTime × Nat)
    (passes : List (DateTime × Nat)) (n : Nat) (w : World) :
    ((supervisionRun (pass :: passes)).run o n w).state =
      ((supervisionRun passes).run o ((supervisionPass pass).run o n w).asked
        ((supervisionPass pass).run o n w).state).state := by
  have hresult : ((supervisionPass pass).run o n w).result = .ok () := by
    change (Prog.run o (Prog.bind (Prog.attempt _) _) n w).result = _
    rw [Prog.run_bind, Prog.run_attempt]
    rfl
  change (Prog.run o (Prog.bind (supervisionPass pass) _) n w).state = _
  rw [Prog.run_bind, Run.andThen, hresult]
  rfl

/-- After any number of passes that nothing cuts short, every expired lease has exactly one
checkpoint. By induction on the passes: each keeps active leases without a checkpoint, and the
expired ones with theirs. -/
theorem supervisionRun_recovered_of_unbroken (o : Oracle system) (passes : List (DateTime × Nat))
    (n : Nat) (w : World) (huntouched : Untouched w.db) (hrecovered : Recovered w.db)
    (hunbroken : PassesUnbroken o passes n w) :
    Recovered ((supervisionRun passes).run o n w).state.db := by
  induction passes generalizing n w with
  | nil => exact hrecovered
  | cons pass passes ih =>
    obtain ⟨hpass, hrest⟩ := hunbroken
    have hkept : Untouched ((supervisionPass pass).run o n w).state.db ∧
        Recovered ((supervisionPass pass).run o n w).state.db := by
      rcases hpass.supervises huntouched.ids with hnothing | ⟨at_, hsupervises⟩
      · exact hnothing.keeps huntouched hrecovered
      · exact hsupervises.keeps huntouched hrecovered
    rw [supervisionRun_cons_state]
    exact ih _ _ hkept.1 hkept.2 hrest

/-- A foreground lease that expires at instant 10. -/
def sampleLease (workerLeaseId : Uuid) : WorkerLeaseRecord where
  workerLeaseId := workerLeaseId
  traceId := 1
  workerKind := .foreground
  status := .active
  leaseToken := 1
  leaseAcquiredAt := 0
  leaseExpiresAt := 10
  lastHeartbeatAt := 0

/-- Two leases, both due at instant 20. -/
def twoLeases : World where
  db := { workerLeases := [sampleLease 1, sampleLease 2] }

theorem twoLeases_untouched : Untouched twoLeases.db where
  ids := by decide
  active := by decide

/-- Surroundings in which the connection is lost once, at the given question. -/
def losesConnectionAt (question : Nat) : Oracle system := fun n q =>
  match q with
  | .statement => if n = question then none else some 20
  | q => steady 20 n q

/-- A fetch of a web page that was started at instant 5. -/
def startedAction : GovernedActionExecutionRecord where
  governedActionExecutionId := 50
  traceId := 1
  executionId := some 11
  actionProposalId := 51
  actionFingerprint := ⟨"fingerprint"⟩
  actionKind := .webFetch
  riskTier := .tier1
  status := .approved
  capabilityScope :=
    { execution := { timeoutMs := 1000, maxStdoutBytes := 1000, maxStderrBytes := 1000 } }
  payload := .webFetch
    { url := "https://example.org", timeoutMs := 1000, maxResponseBytes := 1000 }
  startedAt := some 5

/-- The lease of an action and that of a foreground turn, both due at instant 20. -/
def actionAndTurn : World where
  db :=
    { executionRecords :=
        [{ executionId := 11, traceId := 1, triggerKind := "telegram", status := "started" }]
      governedActionExecutions := [startedAction]
      workerLeases :=
        [{ sampleLease 1 with
             workerKind := .governedAction
             governedActionExecutionId := some 50 },
         sampleLease 2] }

/-- The connection is lost at question 17, after the checkpoint of the second lease: both leases
are recovered all the same. -/
theorem supervisionRun_recovered_of_unbroken_actionAndTurn :
    Recovered ((supervisionRun [(20, 80), (30, 80)]).run (losesConnectionAt 17) 0
      actionAndTurn).state.db := by
  refine supervisionRun_recovered_of_unbroken (losesConnectionAt 17) [(20, 80), (30, 80)] 0
    actionAndTurn ⟨by decide, by decide⟩ (by unfold Recovered; decide) ⟨?_, ?_, trivial⟩
  · intro _ at_ effect hat heffect
    obtain rfl : 20 = at_ := Option.some.inj hat
    obtain rfl := Except.ok.inj heffect
    refine ⟨⟨by decide, fun _ => ⟨startedAction, ⟨rfl, rfl, by decide⟩, by decide, by decide, rfl,
      by decide⟩⟩, by decide, ?_⟩
    exact ⟨fun i hi => absurd hi (Nat.not_lt_zero i), rfl⟩
  · intro _ at_ effect _ heffect
    obtain rfl := Except.ok.inj heffect
    trivial

/-- The connection is lost while the first lease is recovered: the second one is expired and
stays without a checkpoint, however many passes follow. -/
theorem supervisionRun_loses_lease :
    ¬ ∀ (o : Oracle system) (passes : List (DateTime × Nat)) (n : Nat) (w : World),
      Untouched w.db → Recovered w.db →
        Recovered ((supervisionRun passes).run o n w).state.db := by
  intro h
  have hall := h (losesConnectionAt 4) [(20, 80), (30, 80)] 0 twoLeases twoLeases_untouched
    (by unfold Recovered; decide)
  unfold Recovered at hall
  revert hall
  decide

end BlueLagoon.Recovery
