import BlueLagoon.BackgroundRuns.Executors

/-!
# What the executors guarantee

Any number of executors run side by side, beside programs that plan new jobs or do anything else
that leaves the jobs and runs of others alone. However their steps interleave, no job is given to
two of them.
-/

namespace BlueLagoon.BackgroundRuns

open Interleaving Harness BackgroundExecution

/-! ## What runs side by side -/

/-- An executor, or anything else that the unconscious loop does. -/
inductive Operation
  | execute (policy : WakeSignalPolicy) (leaseTimeoutMs : Nat) (now : DateTime)
  | other (p : Unconscious Unit)

/-- The program of an operation. -/
def Operation.program : Operation → Unconscious (Option BackgroundExecutionOutcome)
  | .execute policy leaseTimeoutMs now => executeNextDueJob policy leaseTimeoutMs now
  | .other p => do
    p
    pure none

/-- Operations that are about to begin. -/
def executorPool {ι : Type} (operations : ι → Operation) (world : World)
    (wakeSignals : List WakeSignalRecord) :
    Config unconscious fun _ : ι => Option BackgroundExecutionOutcome where
  threads := fun i => (operations i).program
  shared := { state := (world, wakeSignals) }

/-- The other operations change nothing of the jobs and their runs, but for new jobs. -/
def OthersAdd {ι : Type} (operations : ι → Operation) : Prop :=
  ∀ i p, operations i = .other p → p.Confined Adding

variable {ι : Type} {answers : Answers unconscious} {operations : ι → Operation} {world : World}
  {wakeSignals : List WakeSignalRecord}

/-- What a thread that reports an outcome leaves behind. -/
def Ends (i : ι) (r : Except ErrorChain (Option BackgroundExecutionOutcome))
    (v : Shared unconscious ι) : Prop :=
  ∀ outcome, r = .ok (some outcome) → Settled i v outcome

theorem Operation.program_plays (i : ι) (operation : Operation) (v : Shared unconscious ι)
    (hother : ∀ p, operation = .other p → p.Confined Adding) :
    (leaseProtocol answers ι).wp i operation.program (Ends i) v := by
  cases operation with
  | execute policy leaseTimeoutMs now =>
    apply Protocol.wp_mono ?_ yields_executeNextDueJob
    intro r w h outcome houtcome
    exact h (some outcome) houtcome outcome rfl
  | other p =>
    apply Protocol.wp_seq (wp_adding (hother p rfl) v)
    · intro _ w _ outcome houtcome
      cases houtcome
    · intro e w _ outcome houtcome
      cases houtcome

theorem exclusive_start
    (hstart : Consistent world.db.backgroundJobs world.db.backgroundJobRuns) :
    Exclusive (executorPool operations world wakeSignals).shared where
  consistent := hstart
  once := List.nodup_nil
  owner := fun _ _ _ _ _ hleased => absurd hleased List.not_mem_nil
  taken := fun _ _ _ hleased => absurd hleased List.not_mem_nil
  begun := fun _ _ _ hleased => absurd hleased List.not_mem_nil
  sole := fun _ _ _ hleased => absurd hleased List.not_mem_nil

variable [DecidableEq ι]

/-- The protocol is kept throughout every run. -/
theorem kept_reachable {c : Config unconscious fun _ : ι => Option BackgroundExecutionOutcome}
    (hothers : OthersAdd operations)
    (hstart : Consistent world.db.backgroundJobs world.db.backgroundJobRuns)
    (reach : Config.Reachable answers (executorPool operations world wakeSignals) c) :
    (leaseProtocol answers ι).Kept Ends c := by
  have hkept : (leaseProtocol answers ι).Kept Ends (executorPool operations world wakeSignals) :=
    Protocol.kept_of_wp (exclusive_start hstart) fun i =>
      (operations i).program_plays i _ fun p hp => hothers i p hp
  exact hkept.reachable reach

/-! ## Leases -/

/-- However many executors look for work at the same time: no job is leased twice, no job has two
active runs, and the only active run of a leased job is the run of its lease. -/
theorem leases_exclude (operations : ι → Operation) (answers : Answers unconscious) (world : World)
    (wakeSignals : List WakeSignalRecord) (hothers : OthersAdd operations)
    (hstart : Consistent world.db.backgroundJobs world.db.backgroundJobRuns)
    {c : Config unconscious fun _ : ι => Option BackgroundExecutionOutcome}
    (reach : Config.Reachable answers (executorPool operations world wakeSignals) c) :
    (c.shared.log.filterMap leasedJobId).Nodup ∧
    (∀ run ∈ runsOf c.shared, ∀ other ∈ runsOf c.shared, run.isActive → other.isActive →
      run.backgroundJobId = other.backgroundJobId → run = other) ∧
    ∀ i jobId runId, Leased c.shared i jobId runId → ∀ run ∈ runsOf c.shared, run.isActive →
      run.backgroundJobId = jobId → run.backgroundJobRunId = runId := by
  obtain ⟨hinv, -⟩ := kept_reachable hothers hstart reach
  exact ⟨hinv.once, hinv.consistent.single, hinv.sole⟩

/-- Two jobs that are due. -/
def plannedWorld : World where
  db :=
    { backgroundJobs :=
        [{ backgroundJobId := 1
           traceId := 2
           deduplicationKey := "reflection"
           status := .planned },
         { backgroundJobId := 3
           traceId := 4
           deduplicationKey := "drift"
           status := .planned }] }

/-- Without wake signals, there is nothing to review. -/
def quietPolicy : WakeSignalPolicy where
  config :=
    { allowForegroundConversion := false
      maxPendingSignals := 1
      cooldownSeconds := 60 }
  foregroundBinding := none

def twoExecutors : Bool → Operation := fun _ => .execute quietPolicy 1000 5

theorem othersAdd_twoExecutors : OthersAdd twoExecutors := by
  intro i p hother
  cases hother

theorem consistent_plannedWorld :
    Consistent plannedWorld.db.backgroundJobs plannedWorld.db.backgroundJobRuns where
  jobsKeyed := by decide
  runsKeyed := by decide
  busy := fun _ hrun => absurd hrun List.not_mem_nil
  single := fun _ hrun => absurd hrun List.not_mem_nil

theorem leases_exclude_two :
    ∃ c : Config unconscious fun _ : Bool => Option BackgroundExecutionOutcome,
      Config.Reachable (fun _ _ => True) (executorPool twoExecutors plannedWorld []) c ∧
        c.shared.log.filterMap leasedJobId = [1, 3] ∧
        (c.shared.log.filterMap leasedJobId).Nodup ∧
        ∀ run ∈ runsOf c.shared, ∀ other ∈ runsOf c.shared, run.isActive → other.isActive →
          run.backgroundJobId = other.backgroundJobId → run = other := by
  have hfirst : Config.Reachable (fun _ _ => True) (executorPool twoExecutors plannedWorld []) _ :=
    Config.reachable_run (S := unconscious) (o := steadyUnconscious 10) (fun _ _ => trivial) false
      (twoExecutors false).program 0 _ rfl
  have hsecond := hfirst.trans (Config.reachable_run (S := unconscious) (o := steadyUnconscious 20)
    (fun _ _ => trivial) true (twoExecutors true).program 100 _ rfl)
  obtain ⟨c, reach, hlog⟩ :
      ∃ c : Config unconscious fun _ : Bool => Option BackgroundExecutionOutcome,
        Config.Reachable (fun _ _ => True) (executorPool twoExecutors plannedWorld []) c ∧
          c.shared.log.filterMap leasedJobId = [1, 3] :=
    ⟨_, hsecond, by decide +kernel⟩
  obtain ⟨honce, hsingle, -⟩ :=
    leases_exclude _ _ _ _ othersAdd_twoExecutors consistent_plannedWorld reach
  exact ⟨c, reach, hlog, honce, hsingle⟩

/-! ## Outcomes -/

/-- What an executor reports as completed was leased by it, is completed, and has no active run;
two executors never report the same job. -/
theorem outcomes_are_settled (operations : ι → Operation) (answers : Answers unconscious)
    (world : World) (wakeSignals : List WakeSignalRecord) (hothers : OthersAdd operations)
    (hstart : Consistent world.db.backgroundJobs world.db.backgroundJobRuns)
    {c : Config unconscious fun _ : ι => Option BackgroundExecutionOutcome}
    (reach : Config.Reachable answers (executorPool operations world wakeSignals) c) :
    (∀ i outcome, c.threads i = .ret (some outcome) →
      Leased c.shared i outcome.backgroundJobId outcome.backgroundJobRunId ∧
      (∃ job ∈ jobsOf c.shared, job.backgroundJobId = outcome.backgroundJobId ∧
        job.status = .completed) ∧
      (∃ run ∈ runsOf c.shared, run.backgroundJobRunId = outcome.backgroundJobRunId ∧
        run.backgroundJobId = outcome.backgroundJobId ∧ run.status = .completed) ∧
      ∀ run ∈ runsOf c.shared, run.backgroundJobId = outcome.backgroundJobId →
        run.isActive = false) ∧
    ∀ i j outcome outcome', c.threads i = .ret (some outcome) →
      c.threads j = .ret (some outcome') → i ≠ j →
        outcome.backgroundJobId ≠ outcome'.backgroundJobId := by
  have hkept := kept_reachable hothers hstart reach
  have hsettled : ∀ i outcome, c.threads i = .ret (some outcome) →
      Settled i c.shared outcome := by
    intro i outcome hended
    obtain ⟨v, hrely, hends⟩ := hkept.finished (r := .ok (some outcome)) hended
    exact (hends outcome rfl).later hrely
  constructor
  · intro i outcome hended
    obtain ⟨job, run, hholds, hjobId, hrunId, hjob, hrun⟩ := hsettled i outcome hended
    have hleased := hholds.leased
    rw [hjobId, hrunId] at hleased
    refine ⟨hleased, ⟨job, hholds.job_mem, hjobId, hjob⟩,
      ⟨run, hholds.run_mem, hrunId, hholds.run_of.trans hjobId, hrun⟩, fun other hother hid => ?_⟩
    have hidle : job.isActive = false := by simp [BackgroundJobRecord.isActive, hjob]
    exact hkept.1.consistent.idle hholds.job_mem hidle hother (hid.trans hjobId.symm)
  · intro i j outcome outcome' hended hended' hne hsame
    obtain ⟨job, run, hholds, hjobId, -⟩ := hsettled i outcome hended
    obtain ⟨job', run', hholds', hjobId', -⟩ := hsettled j outcome' hended'
    have hleased := hholds.leased
    rw [hjobId, hsame, ← hjobId'] at hleased
    exact hne (hkept.1.owner i j _ _ _ hleased hholds'.leased).1

theorem outcomes_are_settled_two :
    ∃ c : Config unconscious fun _ : Bool => Option BackgroundExecutionOutcome,
      Config.Reachable (fun _ _ => True) (executorPool twoExecutors plannedWorld []) c ∧
        ∃ first second, c.threads false = .ret (some first) ∧
          c.threads true = .ret (some second) ∧ first.backgroundJobId = 1 ∧
          first.backgroundJobId ≠ second.backgroundJobId ∧
          ∃ job ∈ jobsOf c.shared, job.backgroundJobId = 1 ∧ job.status = .completed := by
  have hfirst : Config.Reachable (fun _ _ => True) (executorPool twoExecutors plannedWorld []) _ :=
    Config.reachable_run (S := unconscious) (o := steadyUnconscious 10) (fun _ _ => trivial) false
      (twoExecutors false).program 0 _ rfl
  have hsecond := hfirst.trans (Config.reachable_run (S := unconscious) (o := steadyUnconscious 20)
    (fun _ _ => trivial) true (twoExecutors true).program 100 _ rfl)
  obtain ⟨c, reach, hended, hended'⟩ :
      ∃ c : Config unconscious fun _ : Bool => Option BackgroundExecutionOutcome,
        Config.Reachable (fun _ _ => True) (executorPool twoExecutors plannedWorld []) c ∧
          ((c.threads false).ended.bind id).map BackgroundExecutionOutcome.backgroundJobId =
            some 1 ∧
          ((c.threads true).ended.bind id).isSome :=
    ⟨_, hsecond, by decide +kernel, by decide +kernel⟩
  obtain ⟨first, hbound, hid⟩ := Option.map_eq_some_iff.mp hended
  obtain ⟨_, hfirstEnded, rfl⟩ := Option.bind_eq_some_iff.mp hbound
  obtain ⟨second, hbound'⟩ := Option.isSome_iff_exists.mp hended'
  obtain ⟨_, hsecondEnded, rfl⟩ := Option.bind_eq_some_iff.mp hbound'
  replace hfirstEnded := Prog.ended_eq_some.mp hfirstEnded
  replace hsecondEnded := Prog.ended_eq_some.mp hsecondEnded
  obtain ⟨hsettled, hdistinct⟩ :=
    outcomes_are_settled _ _ _ _ othersAdd_twoExecutors consistent_plannedWorld reach
  obtain ⟨-, ⟨job, hjob, hjobId, hstatus⟩, -⟩ := hsettled false first hfirstEnded
  exact ⟨c, reach, first, second, hfirstEnded, hsecondEnded, hid,
    hdistinct _ _ _ _ hfirstEnded hsecondEnded Bool.false_ne_true, job, hjob, hjobId.trans hid,
    hstatus⟩

end BlueLagoon.BackgroundRuns
