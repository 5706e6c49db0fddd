import BlueLagoon.BackgroundRuns.Leases

/-!
# The executors keep to the discipline

An executor leases a planned job that has no active run, gives it one, and from then on moves the
two together: a run ceases to be active before its job does.
-/

namespace BlueLagoon

open Interleaving Harness BackgroundExecution

namespace BackgroundRuns

variable {ι α β : Type} {answers : Answers unconscious} {i : ι} {v w : Shared unconscious ι}
  {job : BackgroundJobRecord} {run : BackgroundJobRunRecord}

/-! ## Rules -/

/-- If the program goes through, it leaves `R` behind. -/
def Yields (answers : Answers unconscious) (i : ι) (p : Unconscious α)
    (R : α → Shared unconscious ι → Prop) (v : Shared unconscious ι) : Prop :=
  (leaseProtocol answers ι).wp i p (fun r w => ∀ a, r = .ok a → R a w) v

section Rules

variable {R : α → Shared unconscious ι → Prop} {R' : β → Shared unconscious ι → Prop}

theorem yields_ret {a : α} (h : R a v) : Yields answers i (.ret a) R v := by
  intro b hb
  obtain rfl := Except.ok.inj hb
  exact h

theorem yields_fail (e : ErrorChain) : Yields answers i (.fail e) R v := by
  intro b hb
  cases hb

theorem yields_bind {p : Unconscious α} {f : α → Unconscious β} (hp : Yields answers i p R v)
    (hf : ∀ a w, R a w → Yields answers i (f a) R' w) : Yields answers i (p.bind f) R' v := by
  apply Protocol.wp_seq hp
  · exact fun a w h => hf a w (h a rfl)
  · intro e w _ b hb
    cases hb

/-- A program that leaves the jobs and their runs alone. -/
theorem yields_spares {p : Unconscious α} (hp : Spares p)
    (h : ∀ a w, Relies i v w → R a w) : Yields answers i p R v := by
  have hadding : p.Confined Adding := Prog.Confined.mono (fun _ _ _ => Adding.of_sparing) hp
  exact Protocol.wp_mono (fun _ w hrely a _ => h a w hrely) (wp_adding hadding v)

/-- A program of the harness that does. -/
theorem yields_keepsRuns {p : Harness α} (hp : KeepsRuns p) (h : ∀ a w, Relies i v w → R a w) :
    Yields answers i p.lift R v :=
  yields_spares (spares_lift hp) h

/-- A statement of the harness. -/
theorem yields_execute {message : String} {body : DateTime → Database → Except String (Effect α)}
    (h : ∀ w now effect, Exclusive w → Relies i v w → body now w.state.1.db = .ok effect →
      (leaseProtocol answers ι).Allows i w
          (w.push i ({ w.state.1 with db := effect.db }, w.state.2) (effect.events.map Sum.inl)) ∧
        R effect.value
          (w.push i ({ w.state.1 with db := effect.db }, w.state.2)
            (effect.events.map Sum.inl))) :
    Yields answers i (execute message body).lift R v := by
  rintro (_ | now) -
  · exact yields_fail _
  · apply Protocol.wp_lift_tx
    · intro w c hinv hrely hcommit
      unfold commit at hcommit
      dsimp only at hcommit
      cases heffect : body now w.state.1.db with
      | error cause =>
        rw [heffect] at hcommit
        cases hcommit
      | ok effect =>
        rw [heffect] at hcommit
        obtain rfl := Except.ok.inj hcommit
        obtain ⟨hallows, hR⟩ := h w now effect hinv hrely heffect
        refine ⟨hallows, fun a ha => ?_⟩
        obtain rfl := Except.ok.inj ha
        exact hR
    · intro w e _ _ _ a ha
      cases ha

end Rules

/-! ## Leasing -/

section Leasing

theorem mem_dueJobs {dueBeforeOrAt : DateTime} {db : Database}
    (h : job ∈ Background.dueJobs dueBeforeOrAt db) :
    job ∈ db.backgroundJobs ∧ job.status = .planned := by
  rw [Background.dueJobs, (List.perm_insertionSort _ _).mem_iff, List.mem_filter,
    Bool.and_eq_true, decide_eq_true_eq] at h
  exact ⟨h.1, h.2.1⟩

/-- A key that no row has picks no row. -/
theorem update_of_find_eq_none {row κ : Type} [DecidableEq κ] {key : row → κ} {k : κ}
    {rows : List row} (h : Table.find key k rows = none) (change : row → row) :
    Table.update (fun r => key r = k) change rows = rows := by
  apply Table.update_eq_self
  intro r hr
  refine decide_eq_false fun hid => ?_
  have hsome : (Table.find key (key r) rows).isSome := Table.find_isSome_of_mem hr
  rw [hid, h] at hsome
  cases hsome

/-- A change of a job that is there. -/
theorem changeJob_eq_ok {id : Uuid} {change : BackgroundJobRecord → BackgroundJobRecord}
    {db : Database} {effect : Effect Unit} (h : Background.changeJob id change db = .ok effect) :
    effect.db = { db with
      backgroundJobs :=
        Table.update (fun row => row.backgroundJobId = id) change db.backgroundJobs } ∧
      effect.events = [] := by
  unfold Background.changeJob at h
  split at h
  · rename_i hnone
    obtain rfl := Except.ok.inj h
    refine ⟨?_, rfl⟩
    rw [update_of_find_eq_none hnone]
  · split at h
    · cases h
    · obtain rfl := Except.ok.inj h
      exact ⟨rfl, rfl⟩

/-- What a lease that found a job leaves behind. -/
structure Leases (db : Database) (ids : LeaseIds) (effect : LeaseEffect)
    (job : BackgroundJobRecord) (run : BackgroundJobRunRecord)
    (change : BackgroundJobRecord → BackgroundJobRecord) : Prop where
  mem : job ∈ db.backgroundJobs
  planned : job.status = .planned
  id_eq : ∀ row, (change row).backgroundJobId = row.backgroundJobId
  leased : ∀ row, (change row).status = .leased
  jobs : effect.db.backgroundJobs =
    Table.update (fun row => row.backgroundJobId = job.backgroundJobId) change db.backgroundJobs
  runs : effect.db.backgroundJobRuns = db.backgroundJobRuns ++ [run]
  run_id : run.backgroundJobRunId = ids.backgroundJobRunId
  run_of : run.backgroundJobId = job.backgroundJobId
  fresh : ∀ other ∈ db.backgroundJobRuns, other.backgroundJobRunId ≠ run.backgroundJobRunId
  events : effect.events = [.leased job.backgroundJobId run.backgroundJobRunId]
  value : ∀ leased, effect.value = some leased →
    leased.job.backgroundJobId = job.backgroundJobId ∧
      leased.backgroundJobRunId = run.backgroundJobRunId

theorem insertJobRun_eq_ok {row : BackgroundJobRunRecord} {db db' : Database}
    (h : Background.insertJobRun row db = .ok db') :
    db' = { db with backgroundJobRuns := db.backgroundJobRuns ++ [row] } ∧
      ∀ other ∈ db.backgroundJobRuns, other.backgroundJobRunId ≠ row.backgroundJobRunId := by
  unfold Background.insertJobRun at h
  split at h
  · cases h
  · rename_i hviolation
    obtain rfl := Except.ok.inj h
    refine ⟨rfl, ?_⟩
    have hall := Database.firstBroken_eq_none.mp hviolation
    have hkey := hall _ (List.mem_cons_of_mem _ List.mem_cons_self)
    simpa using hkey

/-- The leasing transaction finds no job that is due and changes nothing, or it leases one and
inserts its run. -/
theorem commitLease_eq_ok {columns : Uuid → JobColumns} {locked : List Uuid} {ids : LeaseIds}
    {now leaseExpiresAt at_ : DateTime} {db : Database} {effect : LeaseEffect}
    (h : commitLease columns locked ids now leaseExpiresAt at_ db = .ok effect) :
    (effect.value = none ∧ effect.db = db ∧ effect.events = []) ∨
      ∃ job run change, Leases db ids effect job run change ∧ run.status = .leased := by
  unfold commitLease at h
  split at h
  · cases h
  · rename_i hlease
    obtain rfl := Except.ok.inj h
    unfold Background.leaseDueJob at hlease
    split at hlease
    · obtain ⟨-, rfl, -⟩ := Effect.mk.inj (Except.ok.inj hlease)
      exact Or.inl ⟨rfl, rfl, rfl⟩
    · obtain ⟨changed, -, heq⟩ := except_map_eq_ok.mp hlease
      cases heq
  · rename_i leased leasedDb _ hlease
    unfold Background.leaseDueJob at hlease
    split at hlease
    · cases hlease
    · rename_i job rest hdue
      obtain ⟨changed, hchanged, heq⟩ := except_map_eq_ok.mp hlease
      obtain ⟨hvalue, rfl, -⟩ := Effect.mk.inj heq
      obtain rfl := Option.some.inj hvalue
      obtain ⟨hdb, -⟩ := changeJob_eq_ok hchanged
      -- the job is the first of the due ones that no other transaction has locked
      have hjob : job ∈ Background.dueJobs now db := by
        have hmem : job ∈ (Background.dueJobs now db).filter
            fun job => job.backgroundJobId ∉ locked := by
          rw [hdue]
          exact List.mem_cons_self
        exact (List.mem_filter.mp hmem).1
      obtain ⟨hmem, hplanned⟩ := mem_dueJobs hjob
      dsimp only at h
      split at h
      · cases h
      · split at h
        · cases h
        · rename_i running hinserted
          obtain rfl := Except.ok.inj h
          obtain ⟨rfl, hfresh⟩ := insertJobRun_eq_ok hinserted
          let leased : BackgroundJobRecord :=
            { job with
              status := .leased
              leaseExpiresAt := some leaseExpiresAt }
          refine Or.inr ⟨job, leasedRun leased ids now leaseExpiresAt at_,
            Background.jobLeased at_ leaseExpiresAt, ?_, rfl⟩
          exact
            { mem := hmem
              planned := hplanned
              id_eq := fun _ => rfl
              leased := fun _ => rfl
              jobs := by
                show changed.db.backgroundJobs = _
                rw [hdb]
              runs := by
                show changed.db.backgroundJobRuns ++ _ = _
                rw [hdb]
              run_id := rfl
              run_of := rfl
              fresh := by
                intro other hother
                apply hfresh other
                show other ∈ changed.db.backgroundJobRuns
                rw [hdb]
                exact hother
              events := rfl
              value := by
                intro leased hleased
                obtain rfl := Option.some.inj hleased
                exact ⟨rfl, rfl⟩ }

/-- What a thread leaves behind when it leases a job. -/
abbrev afterLease (v : Shared unconscious ι) (i : ι) (effect : LeaseEffect) :
    Shared unconscious ι :=
  v.push i ({ v.state.1 with db := effect.db }, v.state.2) (effect.events.map Sum.inr)

variable {ids : LeaseIds} {effect : LeaseEffect} {change : BackgroundJobRecord → BackgroundJobRecord}

theorem Leases.leased_iff (h : Leases v.state.1.db ids effect job run change) {j : ι}
    {jobId runId : Uuid} : Leased (afterLease v i effect) j jobId runId ↔
      Leased v j jobId runId ∨
        (j = i ∧ jobId = job.backgroundJobId ∧ runId = run.backgroundJobRunId) := by
  rw [leased_push, h.events]
  simp

/-- A job that is planned was not leased before. -/
theorem Leases.unleased (h : Leases v.state.1.db ids effect job run change) (hinv : Exclusive v)
    (j : ι) (runId : Uuid) : ¬Leased v j job.backgroundJobId runId := by
  intro hleased
  obtain ⟨other, hother, hid, hstatus⟩ := hinv.taken j _ runId hleased
  obtain rfl := hinv.consistent.job_eq hother h.mem hid
  exact hstatus h.planned

/-- A lease keeps the runs exclusive: the job it takes was only planned, so that it had no active
run. -/
theorem Leases.exclusive (h : Leases v.state.1.db ids effect job run change)
    (hrun : run.status = .leased) (hinv : Exclusive v) :
    Exclusive (afterLease v i effect) := by
  have hmem := @mem_update_key _ BackgroundJobRecord.backgroundJobId _ _ change
    hinv.consistent.jobsKeyed h.mem
  have hidle : ∀ other ∈ runsOf v, other.isActive →
      other.backgroundJobId ≠ job.backgroundJobId := by
    intro other hother hactive hid
    have hplanned : job.isActive = false := by simp [BackgroundJobRecord.isActive, h.planned]
    rw [hinv.consistent.idle h.mem hplanned hother hid] at hactive
    cases hactive
  have hactive : (change job).isActive := by simp [BackgroundJobRecord.isActive, h.leased]
  have hjobs : jobsOf (afterLease v i effect) = Table.update _ change (jobsOf v) := h.jobs
  have hruns : runsOf (afterLease v i effect) = runsOf v ++ [run] := h.runs
  constructor
  · rw [hjobs, hruns]
    apply (hinv.consistent.updateJob h.mem h.id_eq (Or.inl hactive)).appendRun h.fresh
    · exact ⟨change job, hmem.mpr (Or.inr rfl), (h.id_eq job).trans h.run_of.symm, hactive⟩
    · rw [h.run_of]
      exact hidle
  · rw [Shared.push_log, h.events, List.filterMap_append]
    refine List.nodup_append.mpr ⟨hinv.once, List.nodup_singleton _, ?_⟩
    rintro id hid id' hid' rfl
    obtain ⟨j, runId, hleased⟩ := leased_of_mem_filterMap hid
    rw [List.mem_singleton.mp hid'] at hleased
    exact h.unleased hinv j runId hleased
  · intro j j' jobId runId runId' hleased hleased'
    rcases h.leased_iff.mp hleased with hold | ⟨rfl, rfl, rfl⟩
    · rcases h.leased_iff.mp hleased' with hold' | ⟨rfl, rfl, rfl⟩
      · exact hinv.owner j j' jobId runId runId' hold hold'
      · exact absurd hold (h.unleased hinv j runId)
    · rcases h.leased_iff.mp hleased' with hold' | ⟨rfl, -, rfl⟩
      · exact absurd hold' (h.unleased hinv j' runId')
      · exact ⟨rfl, rfl⟩
  · intro j jobId runId hleased
    rw [hjobs]
    by_cases hsame : jobId = job.backgroundJobId
    · refine ⟨change job, hmem.mpr (Or.inr rfl), (h.id_eq job).trans hsame.symm, ?_⟩
      rw [h.leased]
      decide
    · rcases h.leased_iff.mp hleased with hold | ⟨-, hjob, -⟩
      · obtain ⟨other, hother, hid, hstatus⟩ := hinv.taken j jobId runId hold
        exact ⟨other, hmem.mpr (Or.inl ⟨hother, fun hid' => hsame (hid.symm.trans hid')⟩), hid,
          hstatus⟩
      · exact absurd hjob hsame
  · intro j jobId runId hleased
    rw [hruns]
    rcases h.leased_iff.mp hleased with hold | ⟨-, rfl, rfl⟩
    · obtain ⟨other, hother, hid⟩ := hinv.begun j jobId runId hold
      exact ⟨other, List.mem_append_left _ hother, hid⟩
    · exact ⟨run, List.mem_append_right _ (List.mem_singleton_self _), rfl, h.run_of⟩
  · intro j jobId runId hleased other hother hother' hid
    rw [hruns] at hother
    rcases h.leased_iff.mp hleased with hold | ⟨-, rfl, rfl⟩
    · rcases List.mem_append.mp hother with hother | hlast
      · exact hinv.sole j jobId runId hold other hother hother' hid
      · obtain rfl := List.mem_singleton.mp hlast
        rw [← hid, h.run_of] at hold
        exact absurd hold (h.unleased hinv j runId)
    · rcases List.mem_append.mp hother with hother | hlast
      · exact absurd hid (hidle other hother hother')
      · rw [List.mem_singleton.mp hlast]

theorem Leases.relies (h : Leases v.state.1.db ids effect job run change) (hinv : Exclusive v)
    (j : ι) : Relies j v (afterLease v i effect) where
  log := List.prefix_append _ _
  jobs := by
    intro jobId runId hleased other hother hid
    show other ∈ effect.db.backgroundJobs
    rw [h.jobs]
    refine (mem_update_key hinv.consistent.jobsKeyed h.mem).mpr (Or.inl ⟨hother, ?_⟩)
    intro hsame
    rw [← hid, hsame] at hleased
    exact h.unleased hinv j runId hleased
  runs := by
    intro _ _ _ other hother _
    show other ∈ effect.db.backgroundJobRuns
    rw [h.runs]
    exact List.mem_append_left _ hother

theorem Leases.holds (h : Leases v.state.1.db ids effect job run change) (hinv : Exclusive v) :
    Holds i (afterLease v i effect) (change job) run where
  leased := by
    rw [h.id_eq]
    exact h.leased_iff.mpr (Or.inr ⟨rfl, rfl, rfl⟩)
  job_mem := by
    show change job ∈ effect.db.backgroundJobs
    rw [h.jobs]
    exact (mem_update_key hinv.consistent.jobsKeyed h.mem).mpr (Or.inr rfl)
  run_mem := by
    show run ∈ effect.db.backgroundJobRuns
    rw [h.runs]
    exact List.mem_append_right _ (List.mem_singleton_self _)
  run_of := h.run_of.trans (h.id_eq job).symm

/-- What an executor holds, by the identifiers that it goes by. -/
def HoldsAs (i : ι) (v : Shared unconscious ι) (leased : LeasedBackgroundExecution)
    (jobStatus : BackgroundJobStatus) (runStatus : BackgroundJobRunStatus) : Prop :=
  ∃ job run, Holds i v job run ∧ job.backgroundJobId = leased.job.backgroundJobId ∧
    run.backgroundJobRunId = leased.backgroundJobRunId ∧ job.status = jobStatus ∧
    run.status = runStatus

theorem HoldsAs.later {leased : LeasedBackgroundExecution} {jobStatus : BackgroundJobStatus}
    {runStatus : BackgroundJobRunStatus} (h : HoldsAs i v leased jobStatus runStatus)
    (hrely : Relies i v w) : HoldsAs i w leased jobStatus runStatus := by
  obtain ⟨job, run, hholds, hids⟩ := h
  exact ⟨job, run, hholds.later hrely, hids⟩

/-- An executor that is told of a job holds its lease. -/
theorem yields_leaseNextDueJob {leaseTimeoutMs : Nat} {now : DateTime} :
    Yields answers i (leaseNextDueJob leaseTimeoutMs now)
      (fun found w => ∀ leased, found = some leased → HoldsAs i w leased .leased .leased) v := by
  unfold leaseNextDueJob
  apply yields_bind (R := fun _ _ => True)
  · exact yields_keepsRuns (confined_expect _) fun _ _ _ => trivial
  intro timeoutMs w _
  apply yields_bind (R := fun _ _ => True)
  · exact yields_spares (Prog.confined_ofExcept _) fun _ _ _ => trivial
  intro leaseExpiresAt w _
  apply yields_bind (R := fun _ _ => True)
  · exact yields_keepsRuns (confined_newUuid RunsKept.refl) fun _ _ _ => trivial
  intro executionId w _
  apply yields_bind (R := fun _ _ => True)
  · exact yields_keepsRuns (confined_newUuid RunsKept.refl) fun _ _ _ => trivial
  intro runId w _
  apply yields_bind (R := fun _ _ => True)
  · exact yields_keepsRuns (confined_newUuid RunsKept.refl) fun _ _ _ => trivial
  intro leaseToken w _ columns _ locked _
  rintro (_ | at_) -
  · exact yields_fail _
  · apply Protocol.wp_tx
    · intro w c hinv hrely hcommit
      obtain ⟨effect, heffect, rfl⟩ := except_map_eq_ok.mp hcommit
      rcases commitLease_eq_ok heffect with ⟨hvalue, hdb, hevents⟩ | ⟨job, run, change, h, hrun⟩
      · have hpush : afterLease w i effect = w := by
          rw [afterLease, hdb, hevents]
          simp [Shared.push]
        refine ⟨?_, fun found hfound => ?_⟩
        · show (leaseProtocol answers ι).Allows i w (afterLease w i effect)
          rw [hpush]
          exact ⟨hinv, fun j _ => Relies.refl j w⟩
        · obtain rfl := Except.ok.inj hfound
          intro leased hleased
          rw [hvalue] at hleased
          cases hleased
      · refine ⟨⟨h.exclusive hrun hinv, fun j _ => h.relies hinv j⟩, fun found hfound => ?_⟩
        obtain rfl := Except.ok.inj hfound
        intro leased hleased
        obtain ⟨hjobId, hrunId⟩ := h.value leased hleased
        exact ⟨change job, run, h.holds hinv, (h.id_eq job).trans hjobId.symm, hrunId.symm,
          h.leased job, hrun⟩
    · intro w e _ _ _ a ha
      cases ha

end Leasing

/-! ## Updates -/

section Updates

variable {leased : LeasedBackgroundExecution} {jobStatus : BackgroundJobStatus}
  {runStatus : BackgroundJobRunStatus}

theorem changeRun_eq_ok {id : Uuid} {change : BackgroundJobRunRecord → BackgroundJobRunRecord}
    {db : Database} {effect : Effect Unit} (h : Background.changeRun id change [] db = .ok effect) :
    effect.db = { db with
      backgroundJobRuns :=
        Table.update (fun row => row.backgroundJobRunId = id) change db.backgroundJobRuns } ∧
      effect.events = [] := by
  unfold Background.changeRun at h
  split at h
  · rename_i hnone
    obtain rfl := Except.ok.inj h
    refine ⟨?_, rfl⟩
    rw [update_of_find_eq_none hnone]
  · split at h
    · cases h
    · obtain rfl := Except.ok.inj h
      exact ⟨rfl, rfl⟩

/-- A job stays active as long as its run is. -/
theorem yields_updateJobStatus {update : UpdateBackgroundJobStatus}
    (h : HoldsAs i v leased jobStatus runStatus) (hplanned : update.status ≠ .planned)
    (hactive : update.status = .running ∨ (runStatus ≠ .leased ∧ runStatus ≠ .running)) :
    Yields answers i (Background.updateJobStatus leased.job.backgroundJobId update).lift
      (fun _ w => HoldsAs i w leased update.status runStatus) v := by
  apply yields_execute
  intro w now effect hinv hrely hbody
  obtain ⟨hdb, hevents⟩ := changeJob_eq_ok hbody
  obtain ⟨job, run, hholds, hjobId, hrunId, -, hrun⟩ := h.later hrely
  have hactive' : (Background.jobUpdated now update job).isActive ∨ run.isActive = false := by
    rcases hactive with hrunning | ⟨hleased, hrunning⟩
    · left
      simp [BackgroundJobRecord.isActive, Background.jobUpdated, hrunning]
    · right
      simp [BackgroundJobRunRecord.isActive, hrun, hleased, hrunning]
  rw [hdb, hevents, ← hjobId]
  refine ⟨⟨?_, fun j hne => ?_⟩, ?_⟩
  · exact hinv.jobChanged hholds (fun _ => rfl) hplanned hactive'
  · exact Relies.jobChanged hinv hholds _ hne
  · exact ⟨Background.jobUpdated now update job, run, hholds.jobChanged hinv fun _ => rfl, hjobId,
      hrunId, rfl, hrun⟩

/-- A run starts once its job has. -/
theorem yields_updateJobRunStatus {update : UpdateBackgroundJobRunStatus}
    (h : HoldsAs i v leased jobStatus runStatus) (hleased : update.status ≠ .leased)
    (hrunning : update.status = .running → jobStatus = .running) :
    Yields answers i (Background.updateJobRunStatus leased.backgroundJobRunId update).lift
      (fun _ w => HoldsAs i w leased jobStatus update.status) v := by
  apply yields_execute
  intro w now effect hinv hrely hbody
  obtain ⟨hdb, hevents⟩ := changeRun_eq_ok hbody
  obtain ⟨job, run, hholds, hjobId, hrunId, hjob, -⟩ := h.later hrely
  have hactive : (Background.runUpdated now update run).isActive → job.isActive := by
    intro hactive
    simp only [BackgroundJobRunRecord.isActive, Background.runUpdated, Bool.or_eq_true] at hactive
    have hstarted := hrunning (of_decide_eq_true
      (hactive.resolve_left fun h => hleased (of_decide_eq_true h)))
    simp [BackgroundJobRecord.isActive, hjob, hstarted]
  rw [hdb, hevents, ← hrunId]
  refine ⟨⟨?_, fun j hne => ?_⟩, ?_⟩
  · exact hinv.runChanged hholds (fun _ => rfl) (fun _ => rfl) hactive
  · exact Relies.runChanged hinv hholds _ hne
  · exact ⟨job, Background.runUpdated now update run,
      hholds.runChanged hinv (fun _ => rfl) fun _ => rfl, hjobId, hrunId, hjob, rfl⟩

theorem yields_held {p : Harness α} (hp : KeepsRuns p)
    (h : HoldsAs i v leased jobStatus runStatus) :
    Yields answers i p.lift (fun _ w => HoldsAs i w leased jobStatus runStatus) v :=
  yields_keepsRuns hp fun _ _ hrely => h.later hrely

end Updates

/-! ## Executing -/

section Executing

variable {leased : LeasedBackgroundExecution} {jobStatus : BackgroundJobStatus}
  {runStatus : BackgroundJobRunStatus}

theorem yields_startLeasedJob (h : HoldsAs i v leased .leased .leased) :
    Yields answers i (startLeasedJob leased).lift
      (fun _ w => HoldsAs i w leased .running .running) v := by
  unfold startLeasedJob
  rw [Prog.bind_eq, Prog.lift_bind]
  apply yields_bind (yields_held (confined_utcNow RunsKept.refl) h)
  intro startedAt w h
  rw [Prog.bind_eq, Prog.lift_bind]
  apply yields_bind (yields_updateJobStatus h (by simp) (Or.inl rfl))
  intro _ w h
  rw [Prog.bind_eq, Prog.lift_bind]
  apply yields_bind (yields_updateJobRunStatus h (by simp) fun _ => rfl)
  intro _ w h
  rw [Prog.bind_eq, Prog.lift_bind]
  apply yields_bind (yields_held (insertAudit_keepsRuns _) h)
  intro _ w h
  rw [Prog.bind_eq, Prog.lift_bind]
  apply yields_bind (yields_held (createBackgroundWorkerLease_keepsRuns _ _) h)
  exact fun _ w h => yields_ret h

/-- A failure that is persisted leaves the job failed, whatever became of its run. -/
theorem yields_persistBackgroundFailure {startedAt : DateTime} {workerPid : Option Int}
    {errorMessage : String} {timedOut : Bool} (h : HoldsAs i v leased jobStatus runStatus) :
    Yields answers i
      (persistBackgroundFailure leased startedAt workerPid errorMessage timedOut).lift
      (fun _ w => ∃ runStatus, HoldsAs i w leased .failed runStatus) v := by
  have hfinal : ∀ status : BackgroundJobRunStatus,
      status = (if timedOut then .timedOut else .failed) →
        status ≠ .leased ∧ status ≠ .running := by
    rintro status rfl
    cases timedOut <;> decide
  unfold persistBackgroundFailure
  rw [Prog.bind_eq, Prog.lift_bind]
  apply yields_bind (yields_held (confined_utcNow RunsKept.refl) h)
  intro completedAt w h
  rw [Prog.bind_eq, Prog.lift_bind]
  apply yields_bind
  · apply yields_updateJobRunStatus h
    · exact (hfinal _ rfl).1
    · exact fun hrunning => absurd hrunning (hfinal _ rfl).2
  intro _ w h
  rw [Prog.bind_eq, Prog.lift_bind]
  apply yields_bind (yields_updateJobStatus h (by simp) (Or.inr (hfinal _ rfl)))
  intro _ w h
  rw [Prog.bind_eq, Prog.lift_bind]
  apply yields_bind (yields_held (Execution.markFailed_confined (fun _ _ _ => ⟨rfl, rfl⟩) _ _) h)
  intro _ w h
  rw [Prog.bind_eq, Prog.lift_bind]
  apply yields_bind (yields_held (insertAudit_keepsRuns _) h)
  exact fun _ w h => yields_ret ⟨_, h⟩

theorem yields_failLeasedJob {startedAt : DateTime} {workerLease : WorkerLeaseRecord}
    {error : ErrorChain} (h : HoldsAs i v leased jobStatus runStatus) :
    Yields answers i (failLeasedJob leased startedAt workerLease error).lift
      (fun _ _ => True) v := by
  unfold failLeasedJob
  rw [Prog.bind_eq, Prog.lift_bind]
  apply yields_bind (yields_persistBackgroundFailure h)
  intro _ w _
  split
  · rw [Prog.bind_eq, Prog.lift_bind]
    apply yields_bind (R := fun _ _ => True)
    · exact yields_keepsRuns (confined_utcNow RunsKept.refl) fun _ _ _ => trivial
    intro now w _
    rw [Prog.bind_eq, Prog.lift_bind]
    apply yields_bind (R := fun _ _ => True)
    · refine yields_keepsRuns ?_ fun _ _ _ => trivial
      exact Prog.Confined.mapError (recoverObservedWorkerTimeout_keepsRuns _ _ _ _)
    · exact fun _ w _ => yields_ret trivial
  · exact yields_keepsRuns (releaseBackgroundWorkerLease_keepsRuns _) fun _ _ _ => trivial

/-- Where a step fails, the failure is recorded before the error goes on. -/
theorem yields_orFailure {startedAt : DateTime} {workerPid : Int} {p : Unconscious α}
    (hp : Spares p) (h : HoldsAs i v leased jobStatus runStatus) :
    Yields answers i (orFailure leased startedAt workerPid p)
      (fun _ w => HoldsAs i w leased jobStatus runStatus) v := by
  unfold orFailure
  apply yields_bind (R := fun _ w => HoldsAs i w leased jobStatus runStatus)
  · exact yields_spares hp.attempt fun _ _ hrely => h.later hrely
  rintro (e | a) w h
  · apply yields_bind (yields_persistBackgroundFailure h)
    exact fun _ _ _ => yields_fail _
  · exact yields_ret h

theorem yields_applyMaintenanceOutputs {policy : WakeSignalPolicy} {episodeIds : List Uuid}
    {startedAt : DateTime} {workerPid : Int} {result : UnconsciousWorkerResult}
    (h : HoldsAs i v leased jobStatus runStatus) :
    Yields answers i
      (applyMaintenanceOutputs policy leased episodeIds startedAt workerPid result)
      (fun _ w => HoldsAs i w leased jobStatus runStatus) v := by
  unfold applyMaintenanceOutputs
  apply yields_bind (yields_orFailure (spares_lift confined_applyCandidateProposals) h)
  intro proposals w h
  apply yields_bind (yields_orFailure (spares_lift (applyRetrievalUpdates_keepsRuns _ _)) h)
  intro retrieval w h
  apply yields_bind (yields_orFailure (spares_lift (persistDiagnosticAlerts_keepsRuns _ _)) h)
  intro diagnosticCount w h
  apply yields_bind (yields_orFailure (persistWakeSignals_spares _ _ _) h)
  exact fun _ w h => yields_ret h

/-- What an outcome says was completed. -/
def Settled (i : ι) (v : Shared unconscious ι) (outcome : BackgroundExecutionOutcome) : Prop :=
  ∃ job run, Holds i v job run ∧ job.backgroundJobId = outcome.backgroundJobId ∧
    run.backgroundJobRunId = outcome.backgroundJobRunId ∧ job.status = .completed ∧
    run.status = .completed

theorem Settled.later {outcome : BackgroundExecutionOutcome} (h : Settled i v outcome)
    (hrely : Relies i v w) : Settled i w outcome := by
  obtain ⟨job, run, hholds, hids⟩ := h
  exact ⟨job, run, hholds.later hrely, hids⟩

theorem yields_completeLeasedJob {startedAt : DateTime} {response : UnconsciousWorkerResponse}
    {summary : String} (h : HoldsAs i v leased jobStatus runStatus) :
    Yields answers i (completeLeasedJob leased startedAt response summary).lift
      (fun outcome w => Settled i w outcome) v := by
  unfold completeLeasedJob
  rw [Prog.bind_eq, Prog.lift_bind]
  apply yields_bind (yields_held (confined_utcNow RunsKept.refl) h)
  intro completedAt w h
  rw [Prog.bind_eq, Prog.lift_bind]
  apply yields_bind (yields_updateJobRunStatus h (by simp) fun hrunning => by cases hrunning)
  intro _ w h
  rw [Prog.bind_eq, Prog.lift_bind]
  apply yields_bind (yields_updateJobStatus h (by simp) (Or.inr (by simp)))
  intro _ w h
  rw [Prog.bind_eq, Prog.lift_bind]
  apply yields_bind
    (yields_held (Execution.markSucceeded_confined (fun _ _ _ => ⟨rfl, rfl⟩) _ _ _ _) h)
  intro _ w h
  rw [Prog.bind_eq, Prog.lift_bind]
  apply yields_bind (yields_held (insertAudit_keepsRuns _) h)
  exact fun _ w h => yields_ret h

/-- A leased job that is run to its end is settled by the executor that holds it. -/
theorem yields_runLeasedJob {policy : WakeSignalPolicy} {episodeIds : List Uuid}
    (h : HoldsAs i v leased .leased .leased) :
    Yields answers i (runLeasedJob policy leased episodeIds)
      (fun outcome w => Settled i w outcome) v := by
  unfold runLeasedJob
  apply yields_bind (yields_startLeasedJob h)
  rintro ⟨startedAt, workerLease⟩ w h
  dsimp only
  apply yields_bind (R := fun _ w => HoldsAs i w leased .running .running)
  · intro response _ answer hanswer
    exact h
  rintro (e | response) w h
  · apply yields_bind (yields_failLeasedJob h)
    exact fun _ _ _ => yields_fail _
  · dsimp only
    apply yields_bind (yields_held (confined_utcNow RunsKept.refl) h)
    intro now w h
    apply yields_bind
    · apply yields_held ?_ h
      exact Prog.Confined.mapError (refreshWorkerLeaseProgress_keepsRuns _ _)
    intro _ w h
    apply yields_bind (yields_held (releaseBackgroundWorkerLease_keepsRuns _) h)
    intro _ w h
    split
    · apply yields_bind (yields_persistBackgroundFailure h)
      exact fun _ _ _ => yields_fail _
    · apply yields_bind (yields_applyMaintenanceOutputs h)
      exact fun summary w h => yields_completeLeasedJob h

theorem yields_executeNextDueJob {policy : WakeSignalPolicy} {leaseTimeoutMs : Nat}
    {now : DateTime} :
    Yields answers i (executeNextDueJob policy leaseTimeoutMs now)
      (fun found w => ∀ outcome, found = some outcome → Settled i w outcome) v := by
  unfold executeNextDueJob
  apply yields_bind yields_leaseNextDueJob
  rintro (_ | leased) w h
  · apply yields_ret
    intro outcome houtcome
    cases houtcome
  · intro columns _
    apply yields_bind (yields_runLeasedJob (h leased rfl))
    intro outcome w hsettled
    apply yields_ret
    intro other hother
    obtain rfl := Option.some.inj hother
    exact hsettled

end Executing

end BackgroundRuns

end BlueLagoon
