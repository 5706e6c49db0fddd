import BlueLagoon.BackgroundPlanning
import BlueLagoon.Interleaving.RelyGuarantee

/-!
# Requests that are planned at the same time

A call looks for an active job with its key and inserts its own where it finds none. The unique
index on the keys of active jobs decides between calls that have both found none. The log keeps
the lookups and the inserts: an insert excludes every later one with its key, and every later
lookup finds the job.
-/

namespace BlueLagoon.BackgroundPlanning

open Interleaving Harness

variable {ι : Type}

/-! ## The calls and their log -/

/-- The request passes the validation. -/
abbrev Accepted (request : BackgroundPlanningRequest) : Prop := validate request = .ok ()

/-- The job was inserted for the request. -/
structure PlannedFor (request : BackgroundPlanningRequest) (job : BackgroundJobRecord) : Prop where
  jobKind : job.jobKind = request.jobKind
  triggerId : job.triggerId = request.trigger.triggerId
  key : job.deduplicationKey = request.key

/-- An active job with a key. -/
structure ActiveWith (key : String) (job : BackgroundJobRecord) : Prop where
  active : Database.deduplicates job = true
  key : job.deduplicationKey = key

/-- After an insert no lookup misses its key, and no other insert has it. -/
def Excludes (entry later : ι × Event) : Prop :=
  ∀ id key, entry.2 = .backgroundJobInserted id key →
    later.2 ≠ .activeJobSought key false ∧ ∀ id', later.2 ≠ .backgroundJobInserted id' key

/-- The jobs are those of the start and those of the log, and no two active ones share a key. -/
structure Planning (requests : ι → BackgroundPlanningRequest) (start : List BackgroundJobRecord)
    (v : Shared system ι) : Prop where
  origin : ∀ job ∈ v.state.db.backgroundJobs, job ∈ start ∨
    ∃ i, PlannedFor (requests i) job ∧
      (i, Event.backgroundJobInserted job.backgroundJobId job.deduplicationKey) ∈ v.log
  inserted : ∀ i id key, (i, Event.backgroundJobInserted id key) ∈ v.log →
    key = (requests i).key ∧
      ∃ job ∈ v.state.db.backgroundJobs, ActiveWith key job ∧ job.backgroundJobId = id
  unique : ∀ key, ∀ job ∈ v.state.db.backgroundJobs, ∀ other ∈ v.state.db.backgroundJobs,
    ActiveWith key job → ActiveWith key other → job.backgroundJobId = other.backgroundJobId
  order : v.log.Pairwise Excludes

/-- What a call can rely on: jobs stay, and what it did itself is all it did. -/
structure Later (i : ι) (v w : Shared system ι) : Prop where
  jobs : v.state.db.backgroundJobs ⊆ w.state.db.backgroundJobs
  own : ∀ e, (i, e) ∈ w.log ↔ (i, e) ∈ v.log

theorem Later.refl (i : ι) (v : Shared system ι) : Later i v v where
  jobs := List.Subset.refl _
  own := fun _ => Iff.rfl

theorem Later.trans {i : ι} {u v w : Shared system ι} (h : Later i u v) (h' : Later i v w) :
    Later i u w where
  jobs := List.Subset.trans h.jobs h'.jobs
  own := fun e => (h'.own e).trans (h.own e)

/-- The calls keep the jobs and the log in step. -/
def planningProtocol (answers : Answers system) (requests : ι → BackgroundPlanningRequest)
    (start : List BackgroundJobRecord) : Protocol system ι where
  answers := answers
  Inv := Planning requests start
  Rely := Later
  rely_refl := Later.refl
  rely_trans := fun _ _ _ _ h h' => h.trans h'

/-! ## What the single steps do -/

section Steps

variable {requests : ι → BackgroundPlanningRequest} {start : List BackgroundJobRecord}
  {answers : Answers system} {i : ι} {v : Shared system ι}

/-- An action that leaves the jobs alone and logs nothing. -/
abbrev Quiet (db db' : Database) (events : List Event) : Prop :=
  db'.backgroundJobs = db.backgroundJobs ∧ events = []

theorem Quiet.refl (db : Database) : Quiet db db [] := ⟨rfl, rfl⟩

theorem allows_quiet {w : World} (hinv : Planning requests start v)
    (h : w.db.backgroundJobs = v.state.db.backgroundJobs) :
    (planningProtocol answers requests start).Allows i v (v.push i w []) ∧
      Later i v (v.push i w []) := by
  have hlog : (v.push i w []).log = v.log := by simp [Shared.push]
  refine ⟨⟨?_, ?_⟩, ?_⟩
  · exact {
      origin := by rw [hlog, Shared.push_state, h]; exact hinv.origin
      inserted := by rw [hlog, Shared.push_state, h]; exact hinv.inserted
      unique := by rw [Shared.push_state, h]; exact hinv.unique
      order := by rw [hlog]; exact hinv.order }
  · intro j _
    refine ⟨?_, fun e => by rw [hlog]⟩
    rw [Shared.push_state, h]
    exact List.Subset.refl _
  · refine ⟨?_, fun e => by rw [hlog]⟩
    rw [Shared.push_state, h]
    exact List.Subset.refl _

theorem wp_quiet {α : Type} {p : Harness α} (hp : p.Confined (OnDb Quiet)) (v : Shared system ι) :
    (planningProtocol answers requests start).wp i p (fun _ w => Later i v w) v := by
  refine Protocol.wp_of_confined hp (fun v => Later.refl i v) (fun _ _ _ h h' => h.trans h')
    (fun _ _ _ h => h) ?_ v
  intro w world events hinv hquiet
  obtain ⟨⟨hjobs, rfl⟩, -⟩ := hquiet
  exact allows_quiet hinv hjobs

/-- An identifier is always there. -/
theorem wp_newUuid (v : Shared system ι) :
    (planningProtocol answers requests start).wp i newUuid
      (fun r w => Later i v w ∧ ∃ id, r = .ok id) v := by
  refine Protocol.wp_and (wp_quiet (confined_newUuid Quiet.refl) v) ?_
  intro candidate _ w hinv _
  have hissued := @allows_quiet ι requests start answers i w
    { w.state with issued := unused w.state.issued candidate :: w.state.issued } hinv rfl
  exact ⟨hissued.1, _, rfl⟩

/-- The audit event is written unless the database is not reached. -/
theorem wp_insertAudit (event : NewAuditEvent) (v : Shared system ι) :
    (planningProtocol answers requests start).wp i (Audit.insert event)
      (fun r w => Later i v w ∧
        ∀ e, r = .error e → answers Query.statement (none : Option DateTime)) v := by
  refine Protocol.wp_seq (wp_newUuid v) ?_ ?_
  · intro eventId w hlater
    refine wp_transaction_cases (fun u now effect hinv hrely hbody => ?_)
      (fun u now e _ _ hbody => ?_) (fun hlost e => ?_)
    · obtain rfl := Except.ok.inj hbody
      obtain ⟨hallows, hnext⟩ := allows_quiet (w := { u.state with db :=
        { u.state.db with auditEvents := u.state.db.auditEvents ++ [Audit.row eventId now event] } })
        hinv rfl
      refine ⟨hallows, hlater.1.trans (Later.trans hrely hnext), ?_⟩
      intro e he
      cases he
    · cases hbody
    · exact ⟨hlater.1, fun _ _ => hlost⟩
  · intro e w hfailed
    obtain ⟨-, id, hid⟩ := hfailed
    cases hid

/-- What a call has logged so far. -/
def Logged (i : ι) (events : List Event) (v : Shared system ι) : Prop :=
  ∀ e, (i, e) ∈ v.log ↔ e ∈ events

theorem Logged.later {events : List Event} {w : Shared system ι} (h : Logged i events v)
    (hlater : Later i v w) : Logged i events w := fun e => (hlater.own e).trans (h e)

theorem Logged.push {events : List Event} {w : World} {e : Event} (h : Logged i events v) :
    Logged i (events ++ [e]) (v.push i w [e]) := by
  intro e'
  rw [Shared.mem_push_log, h e', List.mem_append, List.mem_singleton]
  simp

/-- The moves of one call do not show in the log of another. -/
theorem later_push {j : ι} {w : World} {events : List Event} (hne : j ≠ i)
    (hjobs : v.state.db.backgroundJobs ⊆ w.db.backgroundJobs) :
    Later j v (v.push i w events) := by
  refine ⟨hjobs, fun e => ?_⟩
  rw [Shared.mem_push_log]
  constructor
  · intro h
    rcases h with h | ⟨heq, -⟩
    · exact h
    · exact absurd heq hne
  · exact Or.inl

theorem mem_activeJob {key : String} {db : Database} {job : BackgroundJobRecord}
    (h : activeJob key db = some job) : job ∈ db.backgroundJobs ∧ ActiveWith key job := by
  obtain ⟨hmem, hactive⟩ := List.mem_filter.mp (Table.mem_of_first h)
  rw [Bool.and_eq_true, decide_eq_true_eq] at hactive
  exact ⟨hmem, hactive.1, hactive.2⟩

/-- A lookup finds an active job where there is one. -/
theorem activeJob_isSome {key : String} {db : Database} {job : BackgroundJobRecord}
    (hmem : job ∈ db.backgroundJobs) (hactive : ActiveWith key job) :
    (activeJob key db).isSome = true := by
  apply Table.first_isSome
  apply List.ne_nil_of_mem
  refine List.mem_filter.mpr ⟨hmem, ?_⟩
  rw [Bool.and_eq_true, decide_eq_true_eq]
  exact ⟨hactive.active, hactive.key⟩

/-- A lookup changes nothing and is logged. -/
theorem planning_sought (hinv : Planning requests start v) (key : String) :
    Planning requests start (v.push i v.state
      [.activeJobSought key (activeJob key v.state.db).isSome]) := by
  refine ⟨?_, ?_, hinv.unique, ?_⟩
  · intro job hjob
    rcases hinv.origin job hjob with hstart | ⟨j, hplanned, hlog⟩
    · exact Or.inl hstart
    · exact Or.inr ⟨j, hplanned, Shared.mem_push_log.mpr (Or.inl hlog)⟩
  · intro j id key' hlog
    rcases Shared.mem_push_log.mp hlog with hold | ⟨-, hnew⟩
    · exact hinv.inserted j id key' hold
    · cases List.mem_singleton.mp hnew
  · rw [Shared.push_log, List.map_singleton, List.pairwise_append]
    refine ⟨hinv.order, List.pairwise_singleton _ _, ?_⟩
    intro entry hentry later hlater id key' hinserted
    rw [List.mem_singleton.mp hlater]
    refine ⟨?_, fun id' h => by cases h⟩
    intro hsought
    have hfound : (activeJob key v.state.db).isSome = false := (Event.activeJobSought.inj hsought).2
    have hkey : key = key' := (Event.activeJobSought.inj hsought).1
    obtain ⟨j, e⟩ := entry
    obtain rfl : e = .backgroundJobInserted id key' := hinserted
    obtain ⟨-, job, hjob, hactive, -⟩ := hinv.inserted j id key' hentry
    rw [← hkey] at hactive
    rw [activeJob_isSome hjob hactive] at hfound
    cases hfound

end Steps

/-! ## The insert -/

section Insert

variable {request : BackgroundPlanningRequest} {budget : BackgroundExecutionBudget}
  {backgroundJobId auditEventId : Uuid} {now : DateTime} {db : Database}

theorem activeWith_plannedRow : ActiveWith request.key (plannedRow request backgroundJobId now) where
  active := rfl
  key := rfl

/-- A job that breaks no constraint is the only active one with its key. -/
theorem free_of_violation_eq_none
    (h : newBackgroundJobViolation db (plannedRow request backgroundJobId now) = none) :
    ∀ other ∈ db.backgroundJobs, ¬ ActiveWith request.key other := by
  have hall := Database.firstBroken_eq_none.mp h
  have hfree := hall _ (List.mem_cons_of_mem _ (List.mem_cons_of_mem _ List.mem_cons_self))
  intro other hother hactive
  have hplanned : Database.deduplicates (plannedRow request backgroundJobId now) = true := rfl
  rw [hplanned, Bool.not_true, Bool.false_or, List.all_eq_true] at hfree
  have hone := hfree other hother
  rw [hactive.active, Bool.true_and, Bool.not_eq_true', decide_eq_false_iff_not] at hone
  exact hone hactive.key

/-- A job that breaks a constraint shares its trigger or, active, its key with another. -/
theorem taken_of_violation {constraint : String}
    (h : newBackgroundJobViolation db (plannedRow request backgroundJobId now) = some constraint) :
    (∃ other ∈ db.backgroundJobs, other.triggerId = request.trigger.triggerId) ∨
      ∃ other ∈ db.backgroundJobs, ActiveWith request.key other := by
  by_contra hnone
  rw [not_or] at hnone
  obtain ⟨htrigger, hkey⟩ := hnone
  have hfree : newBackgroundJobViolation db (plannedRow request backgroundJobId now) = none := by
    apply Database.firstBroken_eq_none.mpr
    intro check hcheck
    rcases List.mem_cons.mp hcheck with rfl | hcheck
    · rfl
    · rcases List.mem_cons.mp hcheck with rfl | hcheck
      · rw [List.all_eq_true]
        intro other hother
        rw [Bool.not_eq_true', Bool.and_eq_false_iff, decide_eq_false_iff_not]
        exact Or.inl fun heq => htrigger ⟨other, hother, heq⟩
      · rw [List.mem_singleton.mp hcheck, Bool.or_eq_true, List.all_eq_true]
        right
        intro other hother
        rw [Bool.not_eq_true', Bool.and_eq_false_iff, decide_eq_false_iff_not]
        by_cases hactive : Database.deduplicates other = true
        · exact Or.inr fun heq => hkey ⟨other, hother, hactive, heq⟩
        · exact Or.inl (eq_false_of_ne_true hactive)
  rw [hfree] at h
  cases h

/-- What the second half of the transaction leaves. -/
structure Inserts (request : BackgroundPlanningRequest) (backgroundJobId : Uuid) (now : DateTime)
    (db : Database) (effect : Effect Unit) : Prop where
  free : ∀ other ∈ db.backgroundJobs, ¬ ActiveWith request.key other
  jobs : effect.db.backgroundJobs =
    db.backgroundJobs ++ [plannedRow request backgroundJobId now]
  events : effect.events = [.backgroundJobInserted backgroundJobId request.key]

theorem commitPlanned_inserts {effect : Effect Unit}
    (h : commitPlanned request budget backgroundJobId auditEventId now db = .ok effect) :
    Inserts request backgroundJobId now db effect := by
  unfold commitPlanned insertJob at h
  split at h
  · cases h
  · rename_i inserted hinsert
    split at hinsert
    · cases hinsert
    · split at hinsert
      · cases hinsert
      · rename_i hviolation
        obtain rfl := Except.ok.inj hinsert
        obtain rfl := Except.ok.inj h
        exact
          { free := free_of_violation_eq_none hviolation
            jobs := rfl
            events := rfl }

theorem taken_of_commitPlanned_error {e : ErrorChain} (hfits : budgetFits budget = .ok ())
    (h : commitPlanned request budget backgroundJobId auditEventId now db = .error e) :
    (∃ other ∈ db.backgroundJobs, other.triggerId = request.trigger.triggerId) ∨
      ∃ other ∈ db.backgroundJobs, ActiveWith request.key other := by
  unfold commitPlanned insertJob at h
  rw [hfits] at h
  dsimp only at h
  split at h
  · rename_i hinsert
    split at hinsert
    · rename_i hviolation
      exact taken_of_violation hviolation
    · cases hinsert
  · cases h

end Insert

section Calls

variable {requests : ι → BackgroundPlanningRequest} {start : List BackgroundJobRecord}
  {answers : Answers system} {config : RuntimeConfig} {i : ι} {v : Shared system ι}

/-- A job that was inserted is logged. -/
theorem planning_inserted {id : Uuid} {now : DateTime} {effect : Effect Unit}
    (hinv : Planning requests start v)
    (h : Inserts (requests i) id now v.state.db effect) :
    Planning requests start (committed v i effect) := by
  have hjobs : (committed v i effect).state.db.backgroundJobs =
      v.state.db.backgroundJobs ++ [plannedRow (requests i) id now] := h.jobs
  have hlog : (committed v i effect).log =
      v.log ++ [(i, Event.backgroundJobInserted id (requests i).key)] := by
    rw [committed, Shared.push_log, h.events, List.map_singleton]
  refine ⟨?_, ?_, ?_, ?_⟩
  · intro job hjob
    rw [hjobs, List.mem_append, List.mem_singleton] at hjob
    rw [hlog]
    rcases hjob with hold | rfl
    · rcases hinv.origin job hold with hstart | ⟨j, hplanned, hentry⟩
      · exact Or.inl hstart
      · exact Or.inr ⟨j, hplanned, List.mem_append_left _ hentry⟩
    · exact Or.inr ⟨i, ⟨rfl, rfl, rfl⟩, List.mem_append_right _ List.mem_cons_self⟩
  · intro j id' key hentry
    rw [hlog, List.mem_append, List.mem_singleton] at hentry
    rw [hjobs]
    rcases hentry with hold | hnew
    · obtain ⟨hkey, job, hjob, hactive⟩ := hinv.inserted j id' key hold
      exact ⟨hkey, job, List.mem_append_left _ hjob, hactive⟩
    · obtain ⟨hthread, hevent⟩ := Prod.mk.inj hnew
      obtain ⟨hid, hkey⟩ := Event.backgroundJobInserted.inj hevent
      rw [hthread, hid, hkey]
      exact ⟨rfl, _, List.mem_append_right _ List.mem_cons_self, activeWith_plannedRow, rfl⟩
  · intro key job hjob other hother hactive hactive'
    rw [hjobs, List.mem_append, List.mem_singleton] at hjob hother
    rcases hjob with hjob | rfl
    · rcases hother with hother | rfl
      · exact hinv.unique key job hjob other hother hactive hactive'
      · obtain rfl : (requests i).key = key := hactive'.key
        exact absurd hactive (h.free job hjob)
    · rcases hother with hother | rfl
      · obtain rfl : (requests i).key = key := hactive.key
        exact absurd hactive' (h.free other hother)
      · rfl
  · rw [hlog, List.pairwise_append]
    refine ⟨hinv.order, List.pairwise_singleton _ _, ?_⟩
    intro entry hentry later hlater id' key hinserted
    rw [List.mem_singleton.mp hlater]
    refine ⟨Event.noConfusion, fun id'' hnew => ?_⟩
    obtain ⟨j, e⟩ := entry
    obtain rfl : e = .backgroundJobInserted id' key := hinserted
    obtain ⟨-, job, hjob, hactive, -⟩ := hinv.inserted j id' key hentry
    rw [← (Event.backgroundJobInserted.inj hnew).2] at hactive
    exact h.free job hjob hactive

/-- Nothing but the key of an active job stands in the way of a call: the statements get
through, the scope is assembled, the configured budget can be stored, and the triggers are new. -/
structure Unhindered (answers : Answers system) (config : RuntimeConfig)
    (requests : ι → BackgroundPlanningRequest) (start : List BackgroundJobRecord) : Prop where
  statements : ¬ answers Query.statement (none : Option DateTime)
  scopes : ∀ e : ErrorChain,
    ¬ answers (Query.elsewhere "assemble_scope") (.error e : Except ErrorChain Unit)
  budgetValid : Policy.validateBackgroundBudget (Policy.defaultBackgroundBudget config) = .ok ()
  budgetFits : budgetFits (Policy.defaultBackgroundBudget config) = .ok ()
  triggersNew : ∀ i, ∀ job ∈ start, job.triggerId ≠ (requests i).trigger.triggerId
  triggersDiffer : ∀ i j,
    (requests i).trigger.triggerId = (requests j).trigger.triggerId → i = j

/-- What a call has logged and what it can point to when it ends. -/
def Ends (answers : Answers system) (config : RuntimeConfig)
    (requests : ι → BackgroundPlanningRequest) (start : List BackgroundJobRecord) (i : ι) :
    Protocol.Post system ι BackgroundPlanningDecision
  | .ok (.planned job), w =>
    Logged i [.activeJobSought (requests i).key false,
      .backgroundJobInserted job.backgroundJobId (requests i).key] w
  | .ok (.suppressedDuplicate existingJobId deduplicationKey _), w =>
    deduplicationKey = (requests i).key ∧
      Logged i [.activeJobSought (requests i).key true] w ∧
        ∃ job ∈ w.state.db.backgroundJobs,
          ActiveWith (requests i).key job ∧ job.backgroundJobId = existingJobId
  | .ok (.rejected _), _ => False
  | .error _, w =>
    (∀ id key, (i, Event.backgroundJobInserted id key) ∉ w.log) ∧
      (Unhindered answers config requests start →
        Logged i [.activeJobSought (requests i).key false] w ∧
          ∃ job ∈ w.state.db.backgroundJobs, ActiveWith (requests i).key job)

theorem Ends.later {r : Except ErrorChain BackgroundPlanningDecision} {w : Shared system ι}
    (h : Ends answers config requests start i r v) (hlater : Later i v w) :
    Ends answers config requests start i r w := by
  cases r with
  | ok decision =>
    cases decision with
    | planned job => exact Logged.later h hlater
    | suppressedDuplicate id key reason =>
      obtain ⟨hkey, hlogged, job, hjob, hactive⟩ := h
      exact ⟨hkey, hlogged.later hlater, job, hlater.jobs hjob, hactive⟩
    | rejected reason => exact h
  | error e =>
    obtain ⟨hnone, hunhindered⟩ := h
    refine ⟨fun id key hlog => hnone id key ((hlater.own _).mp hlog), fun hu => ?_⟩
    obtain ⟨hlogged, job, hjob, hactive⟩ := hunhindered hu
    exact ⟨hlogged.later hlater, job, hlater.jobs hjob, hactive⟩

/-- The insert of a call that has found no active job. -/
theorem wp_commitPlanned (backgroundJobId auditEventId : Uuid)
    (hlogged : Logged i [.activeJobSought (requests i).key false] v) :
    (planningProtocol answers requests start).wp i
      (transaction "failed to insert background job" (commitPlanned (requests i)
        (Policy.defaultBackgroundBudget config) backgroundJobId auditEventId))
      (fun r w => (∀ e, r = .error e →
          Ends answers config requests start i (.error e) w) ∧
        (r = .ok () → Logged i [.activeJobSought (requests i).key false,
          .backgroundJobInserted backgroundJobId (requests i).key] w)) v := by
  have hnone : ∀ {w : Shared system ι}, Later i v w → ∀ id key,
      (i, Event.backgroundJobInserted id key) ∉ w.log := by
    intro w hlater id key hlog
    cases List.mem_singleton.mp (((hlogged.later hlater) _).mp hlog)
  refine wp_transaction_cases (fun w now effect hinv hrely hbody => ?_)
    (fun w now e hinv hrely hbody => ?_) (fun hlost e => ?_)
  · have hinserts := commitPlanned_inserts hbody
    refine ⟨⟨planning_inserted hinv hinserts, fun j hne => ?_⟩, ?_, fun _ => ?_⟩
    · refine later_push hne ?_
      rw [hinserts.jobs]
      exact List.subset_append_left _ _
    · intro e he
      cases he
    · rw [committed, hinserts.events]
      exact (hlogged.later hrely).push
  · refine ⟨fun e' _ => ⟨hnone hrely, fun hu => ⟨hlogged.later hrely, ?_⟩⟩, fun he => by cases he⟩
    rcases taken_of_commitPlanned_error hu.budgetFits hbody with ⟨other, hother, htrigger⟩ | hactive
    · -- The trigger is new, so that a job that has it would be the call's own.
      rcases hinv.origin other hother with hstart | ⟨j, hplanned, hlog⟩
      · exact absurd htrigger (hu.triggersNew i other hstart)
      · obtain rfl := hu.triggersDiffer j i (hplanned.triggerId.symm.trans htrigger)
        exact absurd hlog (hnone hrely _ _)
    · exact hactive
  · exact ⟨fun e' _ => ⟨hnone (Later.refl i v), fun hu => absurd hlost hu.statements⟩,
      fun he => by cases he⟩

/-- A call for an accepted request keeps the protocol. -/
theorem wp_planAccepted (hlogged : Logged i [] v) :
    (planningProtocol answers requests start).wp i (planAccepted config (requests i))
      (Ends answers config requests start i) v := by
  have hnone : ∀ id key, (i, Event.backgroundJobInserted id key) ∉ v.log := by
    intro id key hlog
    cases (hlogged _).mp hlog
  refine Protocol.wp_seq (R := fun r w => w = v ∧
    r = Policy.validateBackgroundBudget (Policy.defaultBackgroundBudget config))
    (Protocol.wp_ofExcept.mpr ⟨rfl, rfl⟩) ?_ ?_
  · rintro _ w ⟨rfl, -⟩
    refine Protocol.wp_seq (R := fun r u => u = w ∧ ∀ e, r = .error e →
      answers (Query.elsewhere "assemble_scope") (.error e : Except ErrorChain Unit)) ?_ ?_ ?_
    · intro answer hanswer
      cases answer with
      | ok done => exact ⟨rfl, fun e he => by cases he⟩
      | error e =>
        refine ⟨rfl, fun e' he => ?_⟩
        obtain rfl := Except.error.inj he
        exact hanswer
    · rintro _ u ⟨rfl, -⟩
      refine Protocol.wp_seq (R := fun r w =>
        (∀ e, r = .error e → w = u ∧ answers Query.statement (none : Option DateTime)) ∧
          ∀ found, r = .ok found →
            Logged i [.activeJobSought (requests i).key (Option.isSome found)] w ∧
              ∀ job, found = some job →
                job ∈ w.state.db.backgroundJobs ∧ ActiveWith (requests i).key job) ?_ ?_ ?_
      · refine wp_transaction_cases (fun w now effect hinv hrely hbody => ?_)
          (fun w now e _ _ hbody => by cases hbody) (fun hlost e => ?_)
        · obtain rfl := Except.ok.inj hbody
          refine ⟨⟨planning_sought hinv _, fun j hne => later_push hne (List.Subset.refl _)⟩,
            ?_, ?_⟩
          · intro e he
            cases he
          · intro found hfound
            obtain rfl := Except.ok.inj hfound
            refine ⟨(hlogged.later hrely).push, fun job hjob => ?_⟩
            exact mem_activeJob hjob
        · exact ⟨fun e' _ => ⟨rfl, hlost⟩, fun found hfound => by cases hfound⟩
      · rintro found w ⟨-, hfound⟩
        obtain ⟨hsought, hjob⟩ := hfound found rfl
        cases found with
        | some existing =>
          obtain ⟨hmem, hactive⟩ := hjob existing rfl
          have hnoInsert : ∀ id key, (i, Event.backgroundJobInserted id key) ∉ w.log := by
            intro id key hlog
            cases List.mem_singleton.mp ((hsought _).mp hlog)
          refine Protocol.wp_seq (wp_insertAudit _ w) ?_ ?_
          · rintro eventId u' ⟨hlater, -⟩
            exact ⟨rfl, hsought.later hlater, existing, hlater.jobs hmem, hactive, rfl⟩
          · rintro e u' ⟨hlater, hlost⟩
            refine ⟨fun id key hlog => hnoInsert id key ((hlater.own _).mp hlog), fun hu => ?_⟩
            exact absurd (hlost e rfl) hu.statements
        | none =>
          refine Protocol.wp_seq (wp_newUuid w) ?_ ?_
          · rintro backgroundJobId u₁ ⟨hlater₁, -⟩
            refine Protocol.wp_seq (wp_newUuid u₁) ?_ ?_
            · rintro auditEventId u₂ ⟨hlater₂, -⟩
              refine Protocol.wp_seq (wp_commitPlanned _ _ (hsought.later (hlater₁.trans hlater₂)))
                ?_ ?_
              · rintro _ u₃ ⟨-, hdone⟩
                exact hdone rfl
              · rintro e u₃ ⟨hfailed, -⟩
                exact hfailed e rfl
            · rintro e u₂ ⟨-, id, hid⟩
              cases hid
          · rintro e u₁ ⟨-, id, hid⟩
            cases hid
      · rintro e w ⟨hfailed, -⟩
        obtain ⟨rfl, hlost⟩ := hfailed e rfl
        exact ⟨hnone, fun hu => absurd hlost hu.statements⟩
    · rintro e u ⟨rfl, hfailed⟩
      exact ⟨hnone, fun hu => absurd (hfailed e rfl) (hu.scopes e)⟩
  · rintro e w ⟨rfl, hinvalid⟩
    refine ⟨hnone, fun hu => ?_⟩
    rw [hu.budgetValid] at hinvalid
    cases hinvalid

end Calls

/-! ## Runs of calls -/

/-- The calls, before the first of them has started. -/
def pool (config : RuntimeConfig) (requests : ι → BackgroundPlanningRequest) (world : World) :
    Config system fun _ : ι => BackgroundPlanningDecision where
  threads := fun i => planBackgroundJob config (requests i)
  shared := { state := world, log := [] }

/-- The unique index on the keys of active jobs. -/
def KeysUnique (db : Database) : Prop :=
  ∀ key, ∀ job ∈ db.backgroundJobs, ∀ other ∈ db.backgroundJobs,
    ActiveWith key job → ActiveWith key other → job.backgroundJobId = other.backgroundJobId

/-- A request is suppressed in favour of an active job for the same target only, and no two calls
plan a job for one target. Where nothing else stands in the way, one of them does once all have
ended, and a call that looks for the job after the insert is suppressed in its favour. -/
structure Deduplicated (answers : Answers system) (config : RuntimeConfig)
    (requests : ι → BackgroundPlanningRequest) (world : World)
    (c : Config system fun _ : ι => BackgroundPlanningDecision) : Prop where
  suppressed : ∀ i existingJobId key reason,
    c.threads i = .ret (.suppressedDuplicate existingJobId key reason) →
      ∃ job ∈ c.shared.state.db.backgroundJobs, job.backgroundJobId = existingJobId ∧
        ActiveWith (requests i).key job ∧
          ∀ request, PlannedFor request job → SameTarget (requests i) request
  once : ∀ i j job job', c.threads i = .ret (.planned job) → c.threads j = .ret (.planned job') →
    SameTarget (requests i) (requests j) → i = j
  planned : Unhindered answers config requests world.db.backgroundJobs → ∀ i,
    (∀ job ∈ world.db.backgroundJobs, ¬ ActiveWith (requests i).key job) →
    (∀ j, SameTarget (requests i) (requests j) → (c.threads j).outcome.isSome) →
      ∃ j job, SameTarget (requests i) (requests j) ∧ c.threads j = .ret (.planned job)
  found : Unhindered answers config requests world.db.backgroundJobs →
    ∀ i j backgroundJobId found before after,
      c.shared.log = before ++ (i, .activeJobSought (requests i).key found) :: after →
      (j, Event.backgroundJobInserted backgroundJobId (requests i).key) ∈ before →
      (c.threads i).outcome.isSome →
        ∃ reason, c.threads i =
          .ret (.suppressedDuplicate backgroundJobId (requests i).key reason)

section Runs

variable {answers : Answers system} {config : RuntimeConfig}
  {requests : ι → BackgroundPlanningRequest} {start : List BackgroundJobRecord}
  {c : Config system fun _ : ι => BackgroundPlanningDecision} {i j : ι}

/-- The pool keeps the protocol, and the calls end as they should. -/
abbrev KeepsPlanning (answers : Answers system) (config : RuntimeConfig)
    (requests : ι → BackgroundPlanningRequest) (start : List BackgroundJobRecord)
    (c : Config system fun _ : ι => BackgroundPlanningDecision) : Prop :=
  (planningProtocol answers requests start).Kept (Ends answers config requests start) c

theorem KeepsPlanning.ends (h : KeepsPlanning answers config requests start c)
    {r : Except ErrorChain BackgroundPlanningDecision} (hr : c.threads i = .ofExcept r) :
    Ends answers config requests start i r c.shared := by
  obtain ⟨v, hlater, hends⟩ := h.finished hr
  exact hends.later hlater

/-- A job is inserted for a key once. -/
theorem inserted_once (hinv : Planning requests start c.shared) {id id' : Uuid} {key : String}
    (h : (i, Event.backgroundJobInserted id key) ∈ c.shared.log)
    (h' : (j, Event.backgroundJobInserted id' key) ∈ c.shared.log) : i = j := by
  obtain ⟨before, after, hlog⟩ := List.append_of_mem h
  have horder := hinv.order
  rw [hlog, List.pairwise_append, List.pairwise_cons] at horder
  rw [hlog, List.mem_append, List.mem_cons] at h'
  rcases h' with hbefore | heq | hafter
  · have hexcludes := horder.2.2 _ hbefore _ List.mem_cons_self id' key rfl
    exact absurd rfl (hexcludes.2 id)
  · exact (Prod.mk.inj heq).1.symm
  · have hexcludes := horder.2.1.1 _ hafter id key rfl
    exact absurd rfl (hexcludes.2 id')

/-- An active job that was not there at the start was planned by a call that has ended so, or has
not ended. -/
theorem planned_of_active (h : KeepsPlanning answers config requests start c)
    {job : BackgroundJobRecord} {key : String}
    (hjob : job ∈ c.shared.state.db.backgroundJobs) (hactive : ActiveWith key job)
    (hnew : ∀ job ∈ start, ¬ ActiveWith key job)
    (hended : ∀ j, (requests j).key = key → (c.threads j).outcome.isSome) :
    ∃ j planned, (requests j).key = key ∧ c.threads j = .ret (.planned planned) := by
  rcases h.1.origin job hjob with hstart | ⟨j, hplanned, hlog⟩
  · exact absurd hactive (hnew job hstart)
  · have hkey : (requests j).key = key := hplanned.key.symm.trans hactive.key
    obtain ⟨r, hr⟩ := Option.isSome_iff_exists.mp (hended j hkey)
    rw [Prog.outcome_eq_some] at hr
    have hends := h.ends hr
    cases r with
    | ok decision =>
      cases decision with
      | planned planned => exact ⟨j, planned, hkey, hr⟩
      | suppressedDuplicate id key' reason =>
        cases List.mem_singleton.mp ((hends.2.1 _).mp hlog)
      | rejected reason => exact hends.elim
    | error e => exact absurd hlog (hends.1 _ _)

/-- The calls begin with nothing logged, over a table that has every key once. -/
theorem keepsPlanning_pool [DecidableEq ι] {world : World} (haccepted : ∀ i, Accepted (requests i))
    (hunique : KeysUnique world.db) :
    KeepsPlanning answers config requests world.db.backgroundJobs (pool config requests world) := by
  refine Protocol.kept_of_wp ?_ fun i => ?_
  · exact {
      origin := fun job hjob => Or.inl hjob
      inserted := fun i id key hlog => by cases hlog
      unique := hunique
      order := List.Pairwise.nil }
  · have hprogram : (pool config requests world).threads i = planAccepted config (requests i) := by
      have haccept := haccepted i
      rw [Accepted] at haccept
      show planBackgroundJob config (requests i) = _
      rw [planBackgroundJob, haccept]
    rw [hprogram]
    apply wp_planAccepted
    intro e
    constructor
    · intro h
      cases h
    · intro h
      cases h

/-- A suppressed request is for the target of the active job it gives way to. -/
theorem KeepsPlanning.sameTarget_of_suppressed (h : KeepsPlanning answers config requests start c)
    {existingJobId : Uuid} {key reason : String}
    (hret : c.threads i = .ret (.suppressedDuplicate existingJobId key reason)) :
    ∃ job ∈ c.shared.state.db.backgroundJobs, job.backgroundJobId = existingJobId ∧
      ActiveWith (requests i).key job ∧
        ∀ request, PlannedFor request job → SameTarget (requests i) request := by
  obtain ⟨-, -, job, hjob, hactive, hid⟩ := h.ends (r := .ok _) hret
  refine ⟨job, hjob, hid, hactive, fun request hplanned => ?_⟩
  exact key_eq_iff.mp (hactive.key.symm.trans hplanned.key)

/-- Two calls that plan a job have different targets: each has logged its insert. -/
theorem KeepsPlanning.eq_of_planned (h : KeepsPlanning answers config requests start c)
    {job job' : PlannedBackgroundJob} (hi : c.threads i = .ret (.planned job))
    (hj : c.threads j = .ret (.planned job')) (htarget : SameTarget (requests i) (requests j)) :
    i = j := by
  have hfirst := (h.ends (r := .ok _) hi _).mpr (List.mem_cons_of_mem _ List.mem_cons_self)
  have hsecond := (h.ends (r := .ok _) hj _).mpr (List.mem_cons_of_mem _ List.mem_cons_self)
  rw [← key_eq_iff.mpr htarget] at hsecond
  exact inserted_once h.1 hfirst hsecond

/-- A call that nothing hinders ends because it planned a job, or because there is an active one;
where no job had the key before, a call with the same key planned that one. -/
theorem KeepsPlanning.exists_planned (h : KeepsPlanning answers config requests start c)
    (hu : Unhindered answers config requests start)
    (hnew : ∀ job ∈ start, ¬ ActiveWith (requests i).key job)
    (hended : ∀ j, (requests j).key = (requests i).key → (c.threads j).outcome.isSome) :
    ∃ j planned, (requests j).key = (requests i).key ∧ c.threads j = .ret (.planned planned) := by
  obtain ⟨r, hr⟩ := Option.isSome_iff_exists.mp (hended i rfl)
  rw [Prog.outcome_eq_some] at hr
  have hends := h.ends hr
  cases r with
  | ok decision =>
    cases decision with
    | planned job => exact ⟨i, job, rfl, hr⟩
    | suppressedDuplicate id key reason =>
      obtain ⟨-, -, job, hjob, hactive, -⟩ := hends
      exact planned_of_active h hjob hactive hnew hended
    | rejected reason => exact hends.elim
  | error e =>
    obtain ⟨-, job, hjob, hactive⟩ := hends.2 hu
    exact planned_of_active h hjob hactive hnew hended

/-- A lookup after the insert of an active job finds it. -/
theorem found_of_inserted (hinv : Planning requests start c.shared) {id : Uuid} {key : String}
    {found : Bool} {before after : List (ι × Event)}
    (hlog : c.shared.log = before ++ (i, .activeJobSought key found) :: after)
    (hinserted : (j, Event.backgroundJobInserted id key) ∈ before) : found = true := by
  have horder := hinv.order
  rw [hlog, List.pairwise_append] at horder
  have hexcludes := horder.2.2 _ hinserted _ List.mem_cons_self id key rfl
  cases found with
  | true => rfl
  | false => exact absurd rfl hexcludes.1

/-- A call that nothing hinders and that looks for the job after its insert ends with the
suppression in its favour: a call that planned a job, or failed, has found none. -/
theorem KeepsPlanning.suppressed_of_inserted (h : KeepsPlanning answers config requests start c)
    (hu : Unhindered answers config requests start) {id : Uuid} {found : Bool}
    {before after : List (ι × Event)}
    (hlog : c.shared.log = before ++ (i, .activeJobSought (requests i).key found) :: after)
    (hinserted : (j, Event.backgroundJobInserted id (requests i).key) ∈ before)
    (hended : (c.threads i).outcome.isSome) :
    ∃ reason, c.threads i = .ret (.suppressedDuplicate id (requests i).key reason) := by
  have hsought : (i, Event.activeJobSought (requests i).key true) ∈ c.shared.log := by
    rw [hlog, found_of_inserted h.1 hlog hinserted]
    exact List.mem_append_right _ List.mem_cons_self
  have hnotMissed : ∀ {events : List Event}, Logged i events c.shared →
      .activeJobSought (requests i).key true ∈ events := by
    intro events hlogged
    rw [← hlogged]
    exact hsought
  obtain ⟨r, hr⟩ := Option.isSome_iff_exists.mp hended
  rw [Prog.outcome_eq_some] at hr
  have hends := h.ends hr
  cases r with
  | ok decision =>
    cases decision with
    | planned job =>
      have hmem := hnotMissed hends
      simp at hmem
    | suppressedDuplicate existingJobId key reason =>
      -- the active job it found and the inserted one have one key, and keys are unique
      have hentry : (j, Event.backgroundJobInserted id (requests i).key) ∈ c.shared.log := by
        rw [hlog]
        exact List.mem_append_left _ hinserted
      obtain ⟨hkey, -, job, hjob, hactive, hid⟩ := hends
      obtain ⟨-, other, hother, hactive', hid'⟩ := h.1.inserted j id _ hentry
      have hsame : existingJobId = id := by
        rw [← hid, ← hid']
        exact h.1.unique _ job hjob other hother hactive hactive'
      rw [hkey, hsame] at hr
      exact ⟨reason, hr⟩
    | rejected reason => exact hends.elim
  | error e =>
    have hmem := hnotMissed (hends.2 hu).1
    simp at hmem

end Runs

/-- In every run of concurrent calls for accepted requests: the key of a request is that of
another exactly when the kinds of the jobs and of the triggers and the words of the targets are
the same, and the calls deduplicate. -/
theorem concurrent_requests_deduplicate [DecidableEq ι] (answers : Answers system)
    (config : RuntimeConfig) (requests : ι → BackgroundPlanningRequest) (world : World)
    (haccepted : ∀ i, Accepted (requests i)) (hunique : KeysUnique world.db)
    {c : Config system fun _ : ι => BackgroundPlanningDecision}
    (reach : Config.Reachable answers (pool config requests world) c) :
    (∀ request other : BackgroundPlanningRequest,
      request.key = other.key ↔ SameTarget request other) ∧
      Deduplicated answers config requests world c := by
  have hkept : KeepsPlanning answers config requests world.db.backgroundJobs c :=
    (keepsPlanning_pool haccepted hunique).reachable reach
  refine ⟨fun request other => key_eq_iff, ?_, ?_, ?_, ?_⟩
  · intro i existingJobId key reason hret
    exact hkept.sameTarget_of_suppressed hret
  · intro i j job job' hi hj htarget
    exact hkept.eq_of_planned hi hj htarget
  · intro hu i hnew hended
    obtain ⟨j, planned, hkey, hret⟩ := hkept.exists_planned hu hnew fun j hkey =>
      hended j (key_eq_iff.mp hkey.symm)
    exact ⟨j, planned, key_eq_iff.mp hkey.symm, hret⟩
  · intro hu i j id found before after hlog hinserted hended
    exact hkept.suppressed_of_inserted hu hlog hinserted hended

/-! ## Two requests -/

/-- Every statement gets through, and every scope is assembled. -/
def served : Answers system
  | .statement, (at_ : Option DateTime) => at_.isSome = true
  | .elsewhere _, (done : Except ErrorChain Unit) => done = .ok ()
  | _, _ => True

theorem served_steady (now : DateTime) (n : Nat) (q : Query) : served q (steady now n q) := by
  cases q with
  | statement => rfl
  | elsewhere step => rfl
  | _ => trivial

/-- A request of the schedule for a conversation. -/
def scheduled (triggerId : Uuid) (conversation : Option String) : BackgroundPlanningRequest where
  traceId := 1
  jobKind := .memoryConsolidation
  trigger :=
    { triggerId := triggerId
      triggerKind := .timeSchedule
      requestedAt := 5
      reasonSummary := "nightly"
      payloadRef := none }
  internalConversationRef := conversation
  availableAt := 5

/-- Two conversations whose names have the same words. -/
def twoRequests : Bool → BackgroundPlanningRequest
  | false => scheduled 2 (some "team a")
  | true => scheduled 3 (some "Team-A")

theorem unhindered_twoRequests :
    Unhindered served RuntimeConfig.shipped twoRequests ({} : World).db.backgroundJobs where
  statements := fun h => by cases h
  scopes := fun e h => by cases h
  budgetValid := by decide
  budgetFits := by decide
  triggersNew := fun i job hjob => by cases hjob
  triggersDiffer := by decide

/-- Conversations whose names differ in more than the case of letters share a key, and of two
calls that both look before either inserts, one fails. -/
theorem not_exact :
    ¬ (∀ request other : BackgroundPlanningRequest, Accepted request → Accepted other →
      request.key = other.key →
        Text.toAsciiLowercase (discriminator request.trigger request.internalConversationRef) =
          Text.toAsciiLowercase (discriminator other.trigger other.internalConversationRef)) ∧
    ¬ ∀ c, Config.Reachable served (pool RuntimeConfig.shipped twoRequests {}) c →
      (∀ i, (c.threads i).outcome.isSome) → ∀ i e, c.threads i ≠ .fail e := by
  constructor
  · intro h
    have hsame := h (twoRequests false) (twoRequests true) (by decide) (by decide)
      (by decide +kernel)
    exact absurd hsame (by decide)
  · intro h
    have reach : Config.Reachable served (pool RuntimeConfig.shipped twoRequests {})
        (Config.schedule (steady 20) (List.replicate 3 false ++ List.replicate 3 true ++
          List.replicate 6 false ++ List.replicate 6 true) 0
          (pool RuntimeConfig.shipped twoRequests {})) :=
      Config.reachable_schedule (served_steady 20) _ 0 _
    refine h _ reach (by decide +kernel) true
      ["failed to insert background job", "background_jobs_dedup_active_uidx"] ?_
    exact (Prog.outcome_eq_some (r := .error _)).mp (by decide +kernel)

/-- The second call looks for the job after the first has inserted it. -/
theorem concurrent_requests_deduplicate_second :
    ∃ c, Config.Reachable served (pool RuntimeConfig.shipped twoRequests {}) c ∧
      (∃ i job, SameTarget (twoRequests true) (twoRequests i) ∧ c.threads i = .ret (.planned job)) ∧
        ∃ id key reason, c.threads true = .ret (.suppressedDuplicate id key reason) := by
  have reach : Config.Reachable served (pool RuntimeConfig.shipped twoRequests {})
      (Config.schedule (steady 20) (List.replicate 9 false ++ List.replicate 9 true) 0
        (pool RuntimeConfig.shipped twoRequests {})) :=
    Config.reachable_schedule (served_steady 20) _ 0 _
  have haccepted : ∀ i, Accepted (twoRequests i) := by decide
  have hunique : KeysUnique ({} : World).db := fun key job hjob => by cases hjob
  have hdeduplicated := (concurrent_requests_deduplicate served RuntimeConfig.shipped twoRequests
    {} haccepted hunique reach).2
  refine ⟨_, reach, ?_, ?_⟩
  · refine hdeduplicated.planned unhindered_twoRequests true (fun job hjob => by cases hjob) ?_
    have hended : ∀ j, ((Config.schedule (steady 20) (List.replicate 9 false ++
        List.replicate 9 true) 0 (pool RuntimeConfig.shipped twoRequests {})).threads
          j).outcome.isSome := by
      decide +kernel
    exact fun j _ => hended j
  · have hfound := hdeduplicated.found unhindered_twoRequests true false 3 true
      [(false, .activeJobSought (twoRequests true).key false),
        (false, .backgroundJobInserted 3 (twoRequests true).key)] [] (by decide +kernel)
      (List.mem_cons_of_mem _ List.mem_cons_self) (by decide +kernel)
    obtain ⟨reason, hret⟩ := hfound
    exact ⟨_, _, reason, hret⟩

end BlueLagoon.BackgroundPlanning
