import BlueLagoon.Recovery.Store

/-!
# Progress refreshes of a worker lease

A refresh moves the expiry of an active lease by the distance between its expiry and
its acquisition. The acquisition never moves, so that distance is the lease's
original duration only as long as no refresh has moved the expiry.
-/

namespace BlueLagoon.Recovery

open Interleaving Harness

/-! ## One refresh -/

/-- The row of a lease after a progress refresh. -/
def progressed (now heartbeatAt : DateTime) (lease : WorkerLeaseRecord) : WorkerLeaseRecord :=
  leaseRefreshed now heartbeatAt (heartbeatAt + (lease.leaseExpiresAt - lease.leaseAcquiredAt))
    lease

section Refresh

variable {o : Oracle system} {n : Nat} {w : World} {id : Uuid} {lease : WorkerLeaseRecord}

/-- The lease with the given id, as the database has it. -/
abbrev leaseOf (id : Uuid) (w : World) : Option WorkerLeaseRecord :=
  Table.find WorkerLeaseRecord.workerLeaseId id w.db.workerLeases

theorem run_getWorkerLease_eq_ok (h : ((getWorkerLease id).run o n w).result = .ok lease) :
    leaseOf id w = some lease ∧ ((getWorkerLease id).run o n w).state = w :=
  run_fetchOne_eq_ok h

/-- A change of the active lease with an id that keeps the id and the status. -/
theorem find_changeActiveLeases {change : WorkerLeaseRecord → WorkerLeaseRecord}
    {db : Database} {effect : Effect (List WorkerLeaseRecord)}
    (h : changeActiveLeases (fun row => row.workerLeaseId = id) change db = .ok effect)
    (hid : ∀ row, (change row).workerLeaseId = row.workerLeaseId)
    (hfind : Table.find WorkerLeaseRecord.workerLeaseId id db.workerLeases = some lease)
    (hactive : lease.status = .active) :
    Table.find WorkerLeaseRecord.workerLeaseId id effect.db.workerLeases =
      some (change lease) := by
  have hkey := Table.key_of_find hfind
  simp only [changeActiveLeases] at h
  split at h
  · cases h
  · obtain rfl := Except.ok.inj h
    simp [Table.find_update hid, hfind, hactive, hkey]

/-- What a progress refresh that went through did. -/
theorem run_refreshWorkerLeaseProgress_eq_ok {heartbeatAt : DateTime}
    {refreshed : WorkerLeaseRecord}
    (h : ((refreshWorkerLeaseProgress id heartbeatAt).run o n w).result = .ok refreshed)
    (hlease : leaseOf id w = some lease) :
    lease.status = .active ∧ (∃ now, refreshed = progressed now heartbeatAt lease) ∧
      leaseOf id ((refreshWorkerLeaseProgress id heartbeatAt).run o n w).state =
        some refreshed := by
  obtain ⟨found, hget, hrest, hstate⟩ := Prog.run_bind_eq_ok o n w h
  obtain ⟨hfound, hsame⟩ := run_getWorkerLease_eq_ok hget
  obtain rfl : found = lease := Option.some.inj (hfound.symm.trans hlease)
  change ((refreshWorkerLeaseProgress id heartbeatAt).run o n w).state = _ at hstate
  rw [hsame] at hrest hstate
  by_cases hactive : found.status = .active
  · by_cases hduration : found.leaseExpiresAt - found.leaseAcquiredAt ≤ 0
    · simp [hactive, hduration, bail] at hrest
    · simp only [hactive, ne_eq, not_true_eq_false, if_false, hduration] at hrest hstate
      rw [refreshWorkerLease] at hrest hstate
      split at hrest
      · simp [bail] at hrest
      · rename_i hearly
        simp only [hearly, if_false] at hstate
        obtain ⟨_, hexec, hget', hstate'⟩ := Prog.run_bind_eq_ok _ _ _ hrest
        obtain ⟨now, effect, hbody, -, hdb⟩ := run_execute_eq_ok hexec
        obtain ⟨hafter, hsame'⟩ := run_getWorkerLease_eq_ok hget'
        rw [hdb] at hafter hsame'
        have hrow := find_changeActiveLeases hbody (fun _ => rfl) hlease hactive
        refine ⟨hactive, ⟨now, Option.some.inj (hafter.symm.trans hrow)⟩, ?_⟩
        rw [hstate, hstate', hdb, hsame']
        exact hafter
  · simp [hactive, bail] at hrest

end Refresh

/-! ## A sequence of refreshes -/

/-- Refresh at each heartbeat in turn; the leases the calls return. -/
def refreshAll (workerLeaseId : Uuid) : List DateTime → Harness (List WorkerLeaseRecord)
  | [] => .ret []
  | heartbeatAt :: later => do
    let lease ← refreshWorkerLeaseProgress workerLeaseId heartbeatAt
    let rest ← refreshAll workerLeaseId later
    pure (lease :: rest)

/-- Create a lease and refresh it at each heartbeat. -/
def leaseRun (lease : NewWorkerLease) (heartbeats : List DateTime) :
    Harness (List WorkerLeaseRecord) := do
  let _ ← createWorkerLease lease
  refreshAll lease.workerLeaseId heartbeats

/-- The refresh at `heartbeatAt` bought `duration` and no more: the lease it returned
expires that long after the heartbeat, and a worker silent since then is past its
hard expiry by that time, whatever the warning threshold. -/
def BuysDuration (duration : Int) (heartbeatAt : DateTime) (lease : WorkerLeaseRecord) : Prop :=
  lease.leaseExpiresAt - lease.lastHeartbeatAt = duration ∧
    ∀ percent, 1 ≤ percent → percent ≤ 100 →
      classifyWorkerLeaseSupervision lease (heartbeatAt + duration) percent = .ok .hardExpired

/-- Each of the leases was refreshed at its heartbeat and bought `duration`. -/
def AllBuyDuration (duration : Int) (heartbeats : List DateTime)
    (leases : List WorkerLeaseRecord) : Prop :=
  List.Forall₂ (BuysDuration duration) heartbeats leases

theorem buysDuration_progressed {now heartbeatAt : DateTime} {lease : WorkerLeaseRecord}
    (hactive : lease.status = .active) (duration : Int) :
    BuysDuration duration heartbeatAt (progressed now heartbeatAt lease) ↔
      lease.leaseExpiresAt - lease.leaseAcquiredAt = duration := by
  have hlength : (progressed now heartbeatAt lease).leaseExpiresAt -
      (progressed now heartbeatAt lease).lastHeartbeatAt =
        lease.leaseExpiresAt - lease.leaseAcquiredAt := by
    change heartbeatAt + (lease.leaseExpiresAt - lease.leaseAcquiredAt) - heartbeatAt = _
    grind
  constructor
  · intro h
    rw [← hlength]
    exact h.1
  · intro h
    refine ⟨hlength.trans h, fun percent hlow hhigh => ?_⟩
    have hstatus : (progressed now heartbeatAt lease).status = .active := hactive
    have hexpires : (progressed now heartbeatAt lease).leaseExpiresAt = heartbeatAt + duration := by
      simp [progressed, leaseRefreshed, h]
    simp [classifyWorkerLeaseSupervision, hlow, hhigh, hstatus, hexpires]

/-- From a lease with its expiry wherever it is by now: every refresh buys `duration`
exactly when the first does and no heartbeat but the last is later than the acquisition. -/
theorem run_refreshAll_allBuyDuration {o : Oracle system} {id : Uuid} {duration : Int} :
    ∀ (heartbeats : List DateTime) (n : Nat) (w : World) (lease : WorkerLeaseRecord)
      (leases : List WorkerLeaseRecord), leaseOf id w = some lease →
      ((refreshAll id heartbeats).run o n w).result = .ok leases →
      (AllBuyDuration duration heartbeats leases ↔
        (heartbeats ≠ [] → lease.leaseExpiresAt - lease.leaseAcquiredAt = duration) ∧
          ∀ h ∈ heartbeats.dropLast, h = lease.leaseAcquiredAt) := by
  intro heartbeats
  induction heartbeats with
  | nil =>
    intro n w lease leases _ hrun
    obtain rfl : [] = leases := by simpa [refreshAll] using hrun
    simp [AllBuyDuration]
  | cons heartbeatAt later ih =>
    intro n w lease leases hlease hrun
    obtain ⟨refreshed, hfirst, hrest, -⟩ := Prog.run_bind_eq_ok o n w hrun
    obtain ⟨hactive, ⟨now, rfl⟩, hafter⟩ := run_refreshWorkerLeaseProgress_eq_ok hfirst hlease
    obtain ⟨rest, hlater, hret, -⟩ := Prog.run_bind_eq_ok o _ _ hrest
    obtain rfl : progressed now heartbeatAt lease :: rest = leases := by simpa using hret
    have hih := ih _ _ _ _ hafter hlater
    have hexpires : (progressed now heartbeatAt lease).leaseExpiresAt =
        heartbeatAt + (lease.leaseExpiresAt - lease.leaseAcquiredAt) := rfl
    have hacquired : (progressed now heartbeatAt lease).leaseAcquiredAt =
        lease.leaseAcquiredAt := rfl
    rw [hexpires, hacquired] at hih
    rw [AllBuyDuration, List.forall₂_cons, buysDuration_progressed hactive]
    change _ ∧ AllBuyDuration duration later rest ↔ _
    rw [hih]
    cases later with
    | nil => simp
    | cons next later =>
      simp only [List.dropLast_cons_cons, List.forall_mem_cons]
      -- The next refresh adds the heartbeat's distance from the acquisition on top.
      constructor
      · rintro ⟨hfirst, hsecond, hothers⟩
        have hsecond := hsecond (by simp)
        exact ⟨fun _ => hfirst, by grind, hothers⟩
      · rintro ⟨hfirst, hhead, hothers⟩
        have hfirst := hfirst (by simp)
        exact ⟨hfirst, fun _ => by grind, hothers⟩

/-- A lease that was created has the dates it was created with. -/
theorem run_createWorkerLease_eq_ok {o : Oracle system} {n : Nat} {w : World}
    {new : NewWorkerLease} {lease : WorkerLeaseRecord}
    (h : ((createWorkerLease new).run o n w).result = .ok lease) :
    leaseOf new.workerLeaseId ((createWorkerLease new).run o n w).state = some lease ∧
      ∃ now, lease = leaseRow now new := by
  obtain ⟨_, hvalid, hrest, hstate⟩ := Prog.run_bind_eq_ok o n w h
  obtain ⟨_, hexec, hget, hstate'⟩ := Prog.run_bind_eq_ok o _ _ hrest
  obtain ⟨now, effect, hbody, -, hdb⟩ := run_execute_eq_ok hexec
  obtain ⟨hfind, hsame⟩ := run_getWorkerLease_eq_ok hget
  change ((createWorkerLease new).run o n w).state = _ at hstate
  rw [hdb] at hfind hsame
  refine ⟨by rw [hstate, hstate', hdb, hsame]; exact hfind, now, ?_⟩
  split at hbody
  · cases hbody
  · rename_i hvalid
    obtain rfl := Except.ok.inj hbody
    have hfresh := Database.fresh_of_workerLeaseViolation hvalid
    exact (Option.some.inj ((Table.find_append_self hfresh).symm.trans hfind)).symm

/-- Every refresh of a created lease buys exactly the lease's original duration if and
only if no refresh but the last came later than the acquisition. -/
theorem leaseRun_allBuyDuration_iff {o : Oracle system} {n : Nat} {w : World}
    {new : NewWorkerLease} {heartbeats : List DateTime} {leases : List WorkerLeaseRecord}
    (hrun : ((leaseRun new heartbeats).run o n w).result = .ok leases) :
    AllBuyDuration (new.leaseExpiresAt - new.leaseAcquiredAt) heartbeats leases ↔
      ∀ h ∈ heartbeats.dropLast, h = new.leaseAcquiredAt := by
  obtain ⟨created, hcreate, hrest, -⟩ := Prog.run_bind_eq_ok o n w hrun
  obtain ⟨hlease, now, rfl⟩ := run_createWorkerLease_eq_ok hcreate
  rw [run_refreshAll_allBuyDuration heartbeats _ _ _ _ hlease hrest]
  simp [leaseRow]

/-- A lease of ten microseconds, acquired at instant 100. -/
def shortLease : NewWorkerLease where
  workerLeaseId := 1
  traceId := 2
  executionId := none
  backgroundJobId := none
  backgroundJobRunId := none
  governedActionExecutionId := none
  workerKind := .foreground
  leaseToken := 3
  workerPid := none
  leaseAcquiredAt := 100
  leaseExpiresAt := 110
  lastHeartbeatAt := 100
  metadata := .obj []

theorem leaseRun_allBuyDuration_iff_shortLease :
    ∃ leases, AllBuyDuration 10 [100, 105] leases ∧
      ((leaseRun shortLease [100, 105]).run (steady 0) 0 {}).result = .ok leases := by
  refine ⟨_, ?_, rfl⟩
  have hrun : ((leaseRun shortLease [100, 105]).run (steady 0) 0 {}).result = .ok _ := rfl
  exact (leaseRun_allBuyDuration_iff hrun).mpr (by decide)

/-- A refresh at 105 moves the expiry of the short lease to 115; the next one, at 106,
adds the fifteen microseconds since the acquisition and not the ten of the lease. -/
theorem leaseRun_second_refresh_buys_more :
    ¬ ∀ (o : Oracle system) (n : Nat) (w : World) (new : NewWorkerLease)
      (heartbeats : List DateTime) (leases : List WorkerLeaseRecord),
      0 < new.leaseExpiresAt - new.leaseAcquiredAt → heartbeats.Pairwise (· ≤ ·) →
      ((leaseRun new heartbeats).run o n w).result = .ok leases →
      AllBuyDuration (new.leaseExpiresAt - new.leaseAcquiredAt) heartbeats leases := by
  intro h
  have hall := h (steady 0) 0 {} shortLease [105, 106] _ (by decide) (by decide) rfl
  rw [AllBuyDuration, List.forall₂_cons, List.forall₂_cons] at hall
  exact absurd hall.2.1.1 (by decide)

end BlueLagoon.Recovery
