import BlueLagoon.BackgroundRuns.Aside
import BlueLagoon.Interleaving.Semantics

/-!
# The discipline of the leases

Several processes may look for due jobs at the same time. A process that leases a job owns it from
then on, with the run of the lease: only it changes the two, and the run is the only active one of
its job. Other programs may add jobs, under identifiers that are new.
-/

namespace BlueLagoon

open Interleaving Harness

namespace BackgroundRuns

variable {ι : Type}

/-- The background jobs. -/
abbrev jobsOf (v : Shared unconscious ι) : List BackgroundJobRecord := v.state.1.db.backgroundJobs

/-- Their runs. -/
abbrev runsOf (v : Shared unconscious ι) : List BackgroundJobRunRecord :=
  v.state.1.db.backgroundJobRuns

/-- A thread leased a job, with a run. -/
def Leased (v : Shared unconscious ι) (i : ι) (backgroundJobId backgroundJobRunId : Uuid) : Prop :=
  (i, Sum.inr (.leased backgroundJobId backgroundJobRunId)) ∈ v.log

/-- The job that an entry of the log says was leased. -/
def leasedJobId : ι × (Event ⊕ UnconsciousEvent) → Option Uuid
  | (_, .inr (.leased backgroundJobId _)) => some backgroundJobId
  | _ => none

theorem leased_of_mem_filterMap {v : Shared unconscious ι} {id : Uuid}
    (h : id ∈ v.log.filterMap leasedJobId) : ∃ i runId, Leased v i id runId := by
  obtain ⟨⟨i, event⟩, hmem, hid⟩ := List.mem_filterMap.mp h
  unfold leasedJobId at hid
  split at hid
  · rename_i heq
    obtain ⟨rfl, rfl⟩ := Prod.mk.inj heq
    obtain rfl := Option.some.inj hid
    exact ⟨_, _, hmem⟩
  · cases hid

/-! ## Tables -/

/-- The jobs and the runs fit together. -/
structure Consistent (jobs : List BackgroundJobRecord) (runs : List BackgroundJobRunRecord) :
    Prop where
  jobsKeyed : (jobs.map BackgroundJobRecord.backgroundJobId).Nodup
  runsKeyed : (runs.map BackgroundJobRunRecord.backgroundJobRunId).Nodup
  busy : ∀ run ∈ runs, run.isActive → ∃ job ∈ jobs,
    job.backgroundJobId = run.backgroundJobId ∧ job.isActive
  single : ∀ run ∈ runs, ∀ other ∈ runs, run.isActive → other.isActive →
    run.backgroundJobId = other.backgroundJobId → run = other

section Tables

variable {jobs : List BackgroundJobRecord} {runs : List BackgroundJobRunRecord}

theorem Consistent.job_eq (h : Consistent jobs runs) {job other : BackgroundJobRecord}
    (hjob : job ∈ jobs) (hother : other ∈ jobs)
    (hid : job.backgroundJobId = other.backgroundJobId) : job = other :=
  Table.eq_of_mem_of_key h.jobsKeyed hjob hother hid

theorem Consistent.run_eq (h : Consistent jobs runs) {run other : BackgroundJobRunRecord}
    (hrun : run ∈ runs) (hother : other ∈ runs)
    (hid : run.backgroundJobRunId = other.backgroundJobRunId) : run = other :=
  Table.eq_of_mem_of_key h.runsKeyed hrun hother hid

/-- A job that is not active has no active run. -/
theorem Consistent.idle (h : Consistent jobs runs) {job : BackgroundJobRecord} (hjob : job ∈ jobs)
    (hidle : job.isActive = false) {run : BackgroundJobRunRecord} (hrun : run ∈ runs)
    (hid : run.backgroundJobId = job.backgroundJobId) : run.isActive = false := by
  by_contra hactive
  rw [Bool.not_eq_false] at hactive
  obtain ⟨other, hother, hsame, hbusy⟩ := h.busy run hrun hactive
  obtain rfl := h.job_eq hother hjob (hsame.trans hid)
  rw [hidle] at hbusy
  cases hbusy

theorem Consistent.append (h : Consistent jobs runs) {added : List BackgroundJobRecord}
    (hkeyed : ((jobs ++ added).map BackgroundJobRecord.backgroundJobId).Nodup) :
    Consistent (jobs ++ added) runs where
  jobsKeyed := hkeyed
  runsKeyed := h.runsKeyed
  busy := fun run hrun hactive => by
    obtain ⟨job, hjob, hid, hbusy⟩ := h.busy run hrun hactive
    exact ⟨job, List.mem_append_left _ hjob, hid, hbusy⟩
  single := h.single

/-- A row of an updated table, where the keys are unique. -/
theorem mem_update_key {α : Type} {key : α → Uuid} {rows : List α} {row : α} {change : α → α}
    (hkeyed : (rows.map key).Nodup) (hrow : row ∈ rows) {other : α} :
    other ∈ Table.update (fun r => key r = key row) change rows ↔
      (other ∈ rows ∧ key other ≠ key row) ∨ other = change row := by
  rw [Table.mem_update]
  constructor
  · rintro (⟨hmem, hkey⟩ | ⟨old, hold, hkey, rfl⟩)
    · exact Or.inl ⟨hmem, of_decide_eq_false hkey⟩
    · obtain rfl := Table.eq_of_mem_of_key hkeyed hold hrow (of_decide_eq_true hkey)
      exact Or.inr rfl
  · rintro (⟨hmem, hkey⟩ | rfl)
    · exact Or.inl ⟨hmem, decide_eq_false hkey⟩
    · exact Or.inr ⟨row, hrow, decide_eq_true rfl, rfl⟩

/-- A job may cease to be active once it has no active run. -/
theorem Consistent.updateJob (h : Consistent jobs runs) {job : BackgroundJobRecord}
    (hjob : job ∈ jobs) {change : BackgroundJobRecord → BackgroundJobRecord}
    (hid : ∀ row, (change row).backgroundJobId = row.backgroundJobId)
    (hactive : (change job).isActive ∨
      ∀ run ∈ runs, run.isActive → run.backgroundJobId ≠ job.backgroundJobId) :
    Consistent (Table.update (fun row => row.backgroundJobId = job.backgroundJobId) change jobs)
      runs where
  jobsKeyed := by
    rw [Table.map_key_update hid]
    exact h.jobsKeyed
  runsKeyed := h.runsKeyed
  busy := by
    intro run hrun hrunning
    obtain ⟨other, hother, hsame, hbusy⟩ := h.busy run hrun hrunning
    by_cases hupdated : other.backgroundJobId = job.backgroundJobId
    · rcases hactive with hactive | hidle
      · refine ⟨change job, (mem_update_key h.jobsKeyed hjob).mpr (Or.inr rfl), ?_, hactive⟩
        rw [hid, ← hupdated, hsame]
      · exact absurd (hsame.symm.trans hupdated) (hidle run hrun hrunning)
    · exact ⟨other, (mem_update_key h.jobsKeyed hjob).mpr (Or.inl ⟨hother, hupdated⟩), hsame, hbusy⟩
  single := h.single

/-- A run may be active if its job is, and no other run of the job. -/
theorem Consistent.updateRun (h : Consistent jobs runs) {run : BackgroundJobRunRecord}
    (hrun : run ∈ runs) {change : BackgroundJobRunRecord → BackgroundJobRunRecord}
    (hid : ∀ row, (change row).backgroundJobRunId = row.backgroundJobRunId)
    (hjobId : ∀ row, (change row).backgroundJobId = row.backgroundJobId)
    (hbusy : (change run).isActive → ∃ job ∈ jobs,
      job.backgroundJobId = run.backgroundJobId ∧ job.isActive)
    (hsole : ∀ other ∈ runs, other.isActive → other.backgroundJobId = run.backgroundJobId →
      other.backgroundJobRunId = run.backgroundJobRunId) :
    Consistent jobs
      (Table.update (fun row => row.backgroundJobRunId = run.backgroundJobRunId) change runs) where
  jobsKeyed := h.jobsKeyed
  runsKeyed := by
    rw [Table.map_key_update hid]
    exact h.runsKeyed
  busy := by
    intro other hother hactive
    rcases (mem_update_key h.runsKeyed hrun).mp hother with ⟨hold, -⟩ | rfl
    · exact h.busy other hold hactive
    · rw [hjobId]
      exact hbusy hactive
  single := by
    intro first hfirst second hsecond hactive hactive' hsame
    rcases (mem_update_key h.runsKeyed hrun).mp hfirst with ⟨hold, hne⟩ | rfl
    · rcases (mem_update_key h.runsKeyed hrun).mp hsecond with ⟨hold', -⟩ | rfl
      · exact h.single first hold second hold' hactive hactive' hsame
      · exact absurd (hsole first hold hactive (hsame.trans (hjobId run))) hne
    · rcases (mem_update_key h.runsKeyed hrun).mp hsecond with ⟨hold', hne⟩ | rfl
      · exact absurd (hsole second hold' hactive' (hsame.symm.trans (hjobId run))) hne
      · rfl

/-- A job that has no active run may be given one. -/
theorem Consistent.appendRun (h : Consistent jobs runs) {run : BackgroundJobRunRecord}
    (hfresh : ∀ other ∈ runs, other.backgroundJobRunId ≠ run.backgroundJobRunId)
    (hbusy : ∃ job ∈ jobs, job.backgroundJobId = run.backgroundJobId ∧ job.isActive)
    (hidle : ∀ other ∈ runs, other.isActive → other.backgroundJobId ≠ run.backgroundJobId) :
    Consistent jobs (runs ++ [run]) where
  jobsKeyed := h.jobsKeyed
  runsKeyed := Table.nodup_append_fresh h.runsKeyed hfresh
  busy := by
    intro other hother hactive
    rcases List.mem_append.mp hother with hold | hlast
    · exact h.busy other hold hactive
    · obtain rfl := List.mem_singleton.mp hlast
      exact hbusy
  single := by
    intro first hfirst second hsecond hactive hactive' hsame
    rcases List.mem_append.mp hfirst with hold | hlast
    · rcases List.mem_append.mp hsecond with hold' | hlast'
      · exact h.single first hold second hold' hactive hactive' hsame
      · obtain rfl := List.mem_singleton.mp hlast'
        exact absurd hsame (hidle first hold hactive)
    · obtain rfl := List.mem_singleton.mp hlast
      rcases List.mem_append.mp hsecond with hold' | hlast'
      · exact absurd hsame.symm (hidle second hold' hactive')
      · exact (List.mem_singleton.mp hlast').symm

end Tables

/-! ## The shared state -/

/-- What holds between any two moves. -/
structure Exclusive (v : Shared unconscious ι) : Prop where
  consistent : Consistent (jobsOf v) (runsOf v)
  once : (v.log.filterMap leasedJobId).Nodup
  owner : ∀ i j jobId runId runId', Leased v i jobId runId → Leased v j jobId runId' →
    i = j ∧ runId = runId'
  taken : ∀ i jobId runId, Leased v i jobId runId →
    ∃ job ∈ jobsOf v, job.backgroundJobId = jobId ∧ job.status ≠ .planned
  begun : ∀ i jobId runId, Leased v i jobId runId → ∃ run ∈ runsOf v,
    run.backgroundJobRunId = runId ∧ run.backgroundJobId = jobId
  sole : ∀ i jobId runId, Leased v i jobId runId → ∀ run ∈ runsOf v, run.isActive →
    run.backgroundJobId = jobId → run.backgroundJobRunId = runId

/-- What a thread relies on: the jobs that it leased are left to it, and their runs. -/
structure Relies (i : ι) (v w : Shared unconscious ι) : Prop where
  log : v.log <+: w.log
  jobs : ∀ jobId runId, Leased v i jobId runId → ∀ job ∈ jobsOf v,
    job.backgroundJobId = jobId → job ∈ jobsOf w
  runs : ∀ jobId runId, Leased v i jobId runId → ∀ run ∈ runsOf v,
    run.backgroundJobRunId = runId → run ∈ runsOf w

theorem Relies.refl (i : ι) (v : Shared unconscious ι) : Relies i v v :=
  ⟨List.prefix_rfl, fun _ _ _ _ hjob _ => hjob, fun _ _ _ _ hrun _ => hrun⟩

theorem Relies.leased {i j : ι} {v w : Shared unconscious ι} {jobId runId : Uuid}
    (h : Relies i v w) (hleased : Leased v j jobId runId) : Leased w j jobId runId :=
  h.log.subset hleased

theorem Relies.trans {i : ι} {u v w : Shared unconscious ι} (h : Relies i u v)
    (h' : Relies i v w) : Relies i u w where
  log := h.log.trans h'.log
  jobs := fun jobId runId hleased job hjob hid =>
    h'.jobs jobId runId (h.leased hleased) job (h.jobs jobId runId hleased job hjob hid) hid
  runs := fun jobId runId hleased run hrun hid =>
    h'.runs jobId runId (h.leased hleased) run (h.runs jobId runId hleased run hrun hid) hid

/-- The protocol of the threads that lease jobs. -/
def leaseProtocol (answers : Answers unconscious) (ι : Type) : Protocol unconscious ι where
  answers := answers
  Inv := Exclusive
  Rely := Relies
  rely_refl := Relies.refl
  rely_trans := fun _ _ _ _ => Relies.trans

/-! ## Moves -/

section Moves

variable {i : ι} {v w : Shared unconscious ι} {state : unconscious.State}
  {events : List unconscious.Event}

/-- An entry of a move is one of its events. -/
theorem leased_push {j : ι} {jobId runId : Uuid} :
    Leased (v.push i state events) j jobId runId ↔
      Leased v j jobId runId ∨ (j = i ∧ Sum.inr (.leased jobId runId) ∈ events) := by
  unfold Leased
  rw [Shared.push_log, List.mem_append, List.mem_map]
  constructor
  · rintro (hold | ⟨event, hmem, heq⟩)
    · exact Or.inl hold
    · obtain ⟨rfl, rfl⟩ := Prod.mk.inj heq
      exact Or.inr ⟨rfl, hmem⟩
  · rintro (hold | ⟨rfl, hmem⟩)
    · exact Or.inl hold
    · exact Or.inr ⟨_, hmem, rfl⟩

/-! ### Beside the leases -/

/-- A move that adds at most new jobs, and leases nothing. -/
structure Adding (s s' : unconscious.State) (es : List unconscious.Event) : Prop where
  jobs : ∃ added, s'.1.db.backgroundJobs = s.1.db.backgroundJobs ++ added ∧
    added.Pairwise (fun job other => job.backgroundJobId ≠ other.backgroundJobId) ∧
    ∀ job ∈ s.1.db.backgroundJobs, ∀ new ∈ added, job.backgroundJobId ≠ new.backgroundJobId
  runs : s'.1.db.backgroundJobRuns = s.1.db.backgroundJobRuns
  unleased : ∀ jobId runId, Sum.inr (.leased jobId runId) ∉ es

theorem Adding.of_sparing {s s' : unconscious.State} {es : List unconscious.Event}
    (h : BackgroundExecution.Sparing s s' es) : Adding s s' es where
  jobs := by
    refine ⟨[], ?_, List.Pairwise.nil, fun _ _ _ hnew => absurd hnew List.not_mem_nil⟩
    rw [List.append_nil]
    exact h.jobs
  runs := h.runs
  unleased := h.unleased

/-- The leases in the log are those of before. -/
theorem Adding.leased (h : Adding v.state state events) {j : ι} {jobId runId : Uuid} :
    Leased (v.push i state events) j jobId runId ↔ Leased v j jobId runId := by
  rw [leased_push]
  constructor
  · rintro (hold | ⟨-, hmem⟩)
    · exact hold
    · exact absurd hmem (h.unleased jobId runId)
  · exact Or.inl

theorem Adding.filterMap_leasedJobId (h : Adding v.state state events) :
    (v.push i state events).log.filterMap leasedJobId = v.log.filterMap leasedJobId := by
  rw [Shared.push_log, List.filterMap_append]
  have hnone : (events.map (Prod.mk i)).filterMap leasedJobId = [] := by
    rw [List.filterMap_eq_nil_iff]
    intro entry hentry
    obtain ⟨event, hevent, rfl⟩ := List.mem_map.mp hentry
    rcases event with event | event
    · rfl
    · cases event with
      | recorded id => rfl
      | reviewed id => rfl
      | leased jobId runId => exact absurd hevent (h.unleased jobId runId)
  rw [hnone, List.append_nil]

/-- New jobs have no run yet, so that they keep the leases exclusive. -/
theorem Exclusive.adding (hinv : Exclusive v) (h : Adding v.state state events) :
    Exclusive (v.push i state events) := by
  obtain ⟨added, hjobs, hnew, hfresh⟩ := h.jobs
  have hmem : ∀ job ∈ jobsOf v, job ∈ jobsOf (v.push i state events) := by
    intro job hjob
    show job ∈ state.1.db.backgroundJobs
    rw [hjobs]
    exact List.mem_append_left _ hjob
  have hruns : runsOf (v.push i state events) = runsOf v := h.runs
  constructor
  · rw [hruns]
    show Consistent state.1.db.backgroundJobs _
    rw [hjobs]
    apply hinv.consistent.append
    rw [List.map_append]
    refine List.nodup_append.mpr ⟨hinv.consistent.jobsKeyed, List.pairwise_map.mpr hnew, ?_⟩
    rintro id hid id' hid' rfl
    obtain ⟨job, hjob, hid⟩ := List.mem_map.mp hid
    obtain ⟨new, hadded, hid'⟩ := List.mem_map.mp hid'
    exact hfresh job hjob new hadded (hid.trans hid'.symm)
  · rw [h.filterMap_leasedJobId]
    exact hinv.once
  · intro j j' jobId runId runId' hleased hleased'
    exact hinv.owner j j' jobId runId runId' (h.leased.mp hleased) (h.leased.mp hleased')
  · intro j jobId runId hleased
    obtain ⟨job, hjob, hid, hstatus⟩ := hinv.taken j jobId runId (h.leased.mp hleased)
    exact ⟨job, hmem job hjob, hid, hstatus⟩
  · rw [hruns]
    exact fun j jobId runId hleased => hinv.begun j jobId runId (h.leased.mp hleased)
  · rw [hruns]
    exact fun j jobId runId hleased => hinv.sole j jobId runId (h.leased.mp hleased)

theorem Relies.adding (h : Adding v.state state events) (j : ι) :
    Relies j v (v.push i state events) where
  log := List.prefix_append _ _
  jobs := by
    obtain ⟨added, hjobs, -, -⟩ := h.jobs
    intro _ _ _ job hjob _
    show job ∈ state.1.db.backgroundJobs
    rw [hjobs]
    exact List.mem_append_left _ hjob
  runs := by
    intro _ _ _ run hrun _
    show run ∈ state.1.db.backgroundJobRuns
    rw [h.runs]
    exact hrun

/-- A program that at most adds jobs. -/
theorem wp_adding {answers : Answers unconscious} {α : Type} {p : Unconscious α}
    (hp : p.Confined Adding) (v : Shared unconscious ι) :
    (leaseProtocol answers ι).wp i p (fun _ w => Relies i v w) v := by
  refine Protocol.wp_of_confined hp (Relies.refl i) (fun _ _ _ => Relies.trans)
    (fun _ _ _ h => h) ?_ v
  intro w state events hinv hadding
  exact ⟨⟨hinv.adding hadding, fun j _ => Relies.adding hadding j⟩, Relies.adding hadding i⟩

/-! ### On a leased job -/

/-- What a thread holds: a job that it leased, and the run of the lease. -/
structure Holds (i : ι) (v : Shared unconscious ι) (job : BackgroundJobRecord)
    (run : BackgroundJobRunRecord) : Prop where
  leased : Leased v i job.backgroundJobId run.backgroundJobRunId
  job_mem : job ∈ jobsOf v
  run_mem : run ∈ runsOf v
  run_of : run.backgroundJobId = job.backgroundJobId

theorem Holds.later {job : BackgroundJobRecord} {run : BackgroundJobRunRecord}
    (h : Holds i v job run) (hrely : Relies i v w) : Holds i w job run where
  leased := hrely.leased h.leased
  job_mem := hrely.jobs _ _ h.leased job h.job_mem rfl
  run_mem := hrely.runs _ _ h.leased run h.run_mem rfl
  run_of := h.run_of

section Held

variable {job : BackgroundJobRecord} {run : BackgroundJobRunRecord}

/-- What a thread leaves behind when it updates the job that it holds. -/
abbrev jobChanged (v : Shared unconscious ι) (i : ι) (id : Uuid)
    (change : BackgroundJobRecord → BackgroundJobRecord) : Shared unconscious ι :=
  v.push i
    ({ v.state.1 with
        db := { v.state.1.db with
          backgroundJobs := Table.update (fun row => row.backgroundJobId = id) change
            (jobsOf v) } }, v.state.2) []

/-- What a thread leaves behind when it updates the run that it holds. -/
abbrev runChanged (v : Shared unconscious ι) (i : ι) (id : Uuid)
    (change : BackgroundJobRunRecord → BackgroundJobRunRecord) : Shared unconscious ι :=
  v.push i
    ({ v.state.1 with
        db := { v.state.1.db with
          backgroundJobRuns := Table.update (fun row => row.backgroundJobRunId = id) change
            (runsOf v) } }, v.state.2) []

theorem leased_push_nil {j : ι} {jobId runId : Uuid} :
    Leased (v.push i state []) j jobId runId ↔ Leased v j jobId runId := by
  rw [leased_push]
  simp

theorem filterMap_push_nil :
    (v.push i state []).log.filterMap leasedJobId = v.log.filterMap leasedJobId := by
  rw [Shared.push_log, List.map_nil, List.append_nil]

/-- The holder of a lease may change its job, but not plan it again, nor let it rest while its run
is active. -/
theorem Exclusive.jobChanged (hinv : Exclusive v) (h : Holds i v job run)
    {change : BackgroundJobRecord → BackgroundJobRecord}
    (hid : ∀ row, (change row).backgroundJobId = row.backgroundJobId)
    (hstatus : (change job).status ≠ .planned)
    (hactive : (change job).isActive ∨ run.isActive = false) :
    Exclusive (jobChanged v i job.backgroundJobId change) := by
  have hmem := @mem_update_key _ BackgroundJobRecord.backgroundJobId _ _ change
    hinv.consistent.jobsKeyed h.job_mem
  constructor
  · refine hinv.consistent.updateJob h.job_mem hid (hactive.imp_right fun hidle => ?_)
    intro other hother hother' hsame
    have hrun := hinv.sole i _ _ h.leased other hother hother' hsame
    obtain rfl := hinv.consistent.run_eq hother h.run_mem hrun
    rw [hidle] at hother'
    cases hother'
  · rw [filterMap_push_nil]
    exact hinv.once
  · intro j j' jobId runId runId' hleased hleased'
    exact hinv.owner j j' jobId runId runId' (leased_push_nil.mp hleased)
      (leased_push_nil.mp hleased')
  · intro j jobId runId hleased
    obtain ⟨other, hother, hother', hplanned⟩ :=
      hinv.taken j jobId runId (leased_push_nil.mp hleased)
    by_cases hsame : other.backgroundJobId = job.backgroundJobId
    · refine ⟨change job, hmem.mpr (Or.inr rfl), ?_, hstatus⟩
      rw [hid, ← hsame, hother']
    · exact ⟨other, hmem.mpr (Or.inl ⟨hother, hsame⟩), hother', hplanned⟩
  · exact fun j jobId runId hleased => hinv.begun j jobId runId (leased_push_nil.mp hleased)
  · exact fun j jobId runId hleased => hinv.sole j jobId runId (leased_push_nil.mp hleased)

theorem Relies.jobChanged (hinv : Exclusive v) (h : Holds i v job run)
    (change : BackgroundJobRecord → BackgroundJobRecord) {j : ι} (hne : j ≠ i) :
    Relies j v (jobChanged v i job.backgroundJobId change) where
  log := List.prefix_append _ _
  jobs := by
    intro jobId runId hleased other hother hid
    refine (mem_update_key hinv.consistent.jobsKeyed h.job_mem).mpr (Or.inl ⟨hother, ?_⟩)
    rintro hsame
    rw [← hid, hsame] at hleased
    exact hne (hinv.owner j i _ _ _ hleased h.leased).1
  runs := fun _ _ _ _ hrun _ => hrun

theorem Holds.jobChanged (hinv : Exclusive v) (h : Holds i v job run)
    {change : BackgroundJobRecord → BackgroundJobRecord}
    (hid : ∀ row, (change row).backgroundJobId = row.backgroundJobId) :
    Holds i (jobChanged v i job.backgroundJobId change) (change job) run where
  leased := by
    rw [hid]
    exact leased_push_nil.mpr h.leased
  job_mem := (mem_update_key hinv.consistent.jobsKeyed h.job_mem).mpr (Or.inr rfl)
  run_mem := h.run_mem
  run_of := h.run_of.trans (hid job).symm

/-- The holder of a lease may change its run, as long as the run is active only while the job is. -/
theorem Exclusive.runChanged (hinv : Exclusive v) (h : Holds i v job run)
    {change : BackgroundJobRunRecord → BackgroundJobRunRecord}
    (hid : ∀ row, (change row).backgroundJobRunId = row.backgroundJobRunId)
    (hjobId : ∀ row, (change row).backgroundJobId = row.backgroundJobId)
    (hactive : (change run).isActive → job.isActive) :
    Exclusive (runChanged v i run.backgroundJobRunId change) := by
  have hmem := @mem_update_key _ BackgroundJobRunRecord.backgroundJobRunId _ _ change
    hinv.consistent.runsKeyed h.run_mem
  have hsole := hinv.sole i _ _ h.leased
  constructor
  · apply hinv.consistent.updateRun h.run_mem hid hjobId
    · exact fun hrunning => ⟨job, h.job_mem, h.run_of.symm, hactive hrunning⟩
    · intro other hother hother' hsame
      exact hsole other hother hother' (hsame.trans h.run_of)
  · rw [filterMap_push_nil]
    exact hinv.once
  · intro j j' jobId runId runId' hleased hleased'
    exact hinv.owner j j' jobId runId runId' (leased_push_nil.mp hleased)
      (leased_push_nil.mp hleased')
  · exact fun j jobId runId hleased => hinv.taken j jobId runId (leased_push_nil.mp hleased)
  · intro j jobId runId hleased
    obtain ⟨other, hother, hrunId, hof⟩ := hinv.begun j jobId runId (leased_push_nil.mp hleased)
    by_cases hsame : other.backgroundJobRunId = run.backgroundJobRunId
    · obtain rfl := hinv.consistent.run_eq hother h.run_mem hsame
      exact ⟨change other, hmem.mpr (Or.inr rfl), (hid other).trans hrunId,
        (hjobId other).trans hof⟩
    · exact ⟨other, hmem.mpr (Or.inl ⟨hother, hsame⟩), hrunId, hof⟩
  · intro j jobId runId hleased other hother hother' hsame
    replace hleased := leased_push_nil.mp hleased
    rcases hmem.mp hother with ⟨hold, -⟩ | rfl
    · exact hinv.sole j jobId runId hleased other hold hother' hsame
    · rw [hjobId, h.run_of] at hsame
      subst hsame
      rw [hid]
      exact (hinv.owner j i _ _ _ hleased h.leased).2.symm

theorem Relies.runChanged (hinv : Exclusive v) (h : Holds i v job run)
    (change : BackgroundJobRunRecord → BackgroundJobRunRecord) {j : ι} (hne : j ≠ i) :
    Relies j v (runChanged v i run.backgroundJobRunId change) where
  log := List.prefix_append _ _
  jobs := fun _ _ _ _ hjob _ => hjob
  runs := by
    intro jobId runId hleased other hother hid
    refine (mem_update_key hinv.consistent.runsKeyed h.run_mem).mpr (Or.inl ⟨hother, ?_⟩)
    intro hsame
    obtain rfl := hinv.consistent.run_eq hother h.run_mem hsame
    obtain ⟨begun, hbegun, hrunId, hof⟩ := hinv.begun j jobId runId hleased
    obtain rfl := hinv.consistent.run_eq hbegun hother (hrunId.trans hid.symm)
    rw [← hof, h.run_of] at hleased
    exact hne (hinv.owner j i _ _ _ hleased h.leased).1

theorem Holds.runChanged (hinv : Exclusive v) (h : Holds i v job run)
    {change : BackgroundJobRunRecord → BackgroundJobRunRecord}
    (hid : ∀ row, (change row).backgroundJobRunId = row.backgroundJobRunId)
    (hjobId : ∀ row, (change row).backgroundJobId = row.backgroundJobId) :
    Holds i (runChanged v i run.backgroundJobRunId change) job (change run) where
  leased := by
    rw [hid]
    exact leased_push_nil.mpr h.leased
  job_mem := h.job_mem
  run_mem := (mem_update_key hinv.consistent.runsKeyed h.run_mem).mpr (Or.inr rfl)
  run_of := (hjobId run).trans h.run_of

end Held

end Moves

end BackgroundRuns

end BlueLagoon
