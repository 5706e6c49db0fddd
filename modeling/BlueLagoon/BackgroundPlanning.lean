import BlueLagoon.Config
import BlueLagoon.Execution

/-!
# Planning background jobs

A request for a background job is validated against its trigger, given a budget and a scope,
and planned unless an active job has the same deduplication key. The key is made of the kinds
of the job and of the trigger and of what the trigger is about, reduced to its words.

The scope is assembled from tables of other subsystems and is left out, with the columns of a
job that hold it.
-/

namespace BlueLagoon

open Interleaving Harness

/-! ## Triggers and budgets -/

inductive BackgroundTriggerKind
  | timeSchedule
  | volumeThreshold
  | driftOrAnomalySignal
  | foregroundDelegation
  | externalPassiveEvent
  | maintenanceTrigger
  deriving DecidableEq, Repr

/-- `trigger_kind_as_str`. -/
def BackgroundTriggerKind.asStr : BackgroundTriggerKind → String
  | timeSchedule => "time_schedule"
  | volumeThreshold => "volume_threshold"
  | driftOrAnomalySignal => "drift_or_anomaly_signal"
  | foregroundDelegation => "foreground_delegation"
  | externalPassiveEvent => "external_passive_event"
  | maintenanceTrigger => "maintenance_trigger"

structure BackgroundTrigger where
  triggerId : Uuid
  triggerKind : BackgroundTriggerKind
  requestedAt : DateTime
  reasonSummary : String
  payloadRef : Option String
  deriving DecidableEq, Repr

structure BackgroundExecutionBudget where
  iterationBudget : Nat
  wallClockBudgetMs : Nat
  tokenBudget : Nat
  deriving DecidableEq, Repr

namespace Policy

/-- `default_background_budget`. -/
def defaultBackgroundBudget (config : RuntimeConfig) : BackgroundExecutionBudget where
  iterationBudget := config.background.execution.defaultIterationBudget
  wallClockBudgetMs := config.background.execution.defaultWallClockBudgetMs
  tokenBudget := config.background.execution.defaultTokenBudget

/-- `validate_background_budget`. -/
def validateBackgroundBudget (budget : BackgroundExecutionBudget) : Except ErrorChain Unit :=
  if budget.iterationBudget = 0 then
    .error ["background iteration budget must be greater than zero"]
  else if budget.wallClockBudgetMs = 0 then
    .error ["background wall-clock budget must be greater than zero"]
  else if budget.tokenBudget = 0 then
    .error ["background token budget must be greater than zero"]
  else .ok ()

end Policy

namespace BackgroundPlanning

structure BackgroundPlanningRequest where
  traceId : Uuid
  jobKind : UnconsciousJobKind
  trigger : BackgroundTrigger
  internalConversationRef : Option String
  availableAt : DateTime
  deriving DecidableEq, Repr

structure PlannedBackgroundJob where
  backgroundJobId : Uuid
  deduplicationKey : String
  budget : BackgroundExecutionBudget
  deriving DecidableEq, Repr

inductive BackgroundPlanningDecision
  | planned (job : PlannedBackgroundJob)
  | suppressedDuplicate (existingJobId : Uuid) (deduplicationKey reason : String)
  | rejected (reason : String)
  deriving DecidableEq, Repr

/-- `validate_background_trigger`: every kind is recognized. -/
def validateBackgroundTrigger (trigger : BackgroundTrigger) : Except String Unit :=
  match trigger.triggerKind with
  | .timeSchedule | .volumeThreshold | .driftOrAnomalySignal | .foregroundDelegation
  | .externalPassiveEvent | .maintenanceTrigger => .ok ()

/-- `validate_job_trigger_compatibility`. -/
def validateJobTriggerCompatibility (jobKind : UnconsciousJobKind) (trigger : BackgroundTrigger) :
    Except String Unit :=
  match jobKind, trigger.triggerKind with
  | .contradictionAndDriftScan, .driftOrAnomalySignal =>
    .error s!"trigger kind '{trigger.triggerKind.asStr}' is recognized but not supported for job kind '{
      jobKind.asStr}'"
  | _, _ => .ok ()

/-- The validation of `plan_background_job`. -/
def validate (request : BackgroundPlanningRequest) : Except String Unit :=
  match validateBackgroundTrigger request.trigger with
  | .error reason => .error reason
  | .ok () => validateJobTriggerCompatibility request.jobKind request.trigger

/-! ## Deduplication keys -/

/-- The letters and digits of ASCII stay, in lower case; all others become a dash. -/
def dedupChar (c : Char) : Char := if c.isAlphanum then Text.asciiLower c else '-'

/-- The words of a text: what stands between the dashes. -/
def dedupWords (value : String) : List (List Char) :=
  ((value.toList.map dedupChar).splitOn '-').filter fun segment => !segment.isEmpty

/-- `normalize_dedup_component`. -/
def normalizeDedupComponent (value : String) : String :=
  let collapsed := String.ofList (['-'].intercalate (dedupWords value))
  if collapsed = "" then "unspecified" else collapsed

/-- What the key of a request tells apart, before it is normalized. -/
def discriminator (trigger : BackgroundTrigger) (internalConversationRef : Option String) :
    String :=
  match trigger.triggerKind with
  | .timeSchedule | .volumeThreshold => internalConversationRef.getD "global"
  | .foregroundDelegation | .maintenanceTrigger | .driftOrAnomalySignal
  | .externalPassiveEvent =>
    (trigger.payloadRef.or internalConversationRef).getD trigger.reasonSummary

/-- `build_deduplication_key`. -/
def buildDeduplicationKey (jobKind : UnconsciousJobKind) (trigger : BackgroundTrigger)
    (internalConversationRef : Option String) : String :=
  "background:" ++ jobKind.asStr ++ ":" ++ trigger.triggerKind.asStr ++ ":" ++
    normalizeDedupComponent (discriminator trigger internalConversationRef)

/-- The key of a request. -/
def BackgroundPlanningRequest.key (request : BackgroundPlanningRequest) : String :=
  buildDeduplicationKey request.jobKind request.trigger request.internalConversationRef

/-! ## Planning -/

/-- `ORDER BY created_at DESC, background_job_id DESC`. -/
def newerJob (a b : BackgroundJobRecord) : Bool :=
  b.createdAt < a.createdAt ||
    (a.createdAt = b.createdAt && decide (b.backgroundJobId < a.backgroundJobId))

/-- The newest active job with a key. -/
def activeJob (deduplicationKey : String) (db : Database) : Option BackgroundJobRecord :=
  Table.first newerJob (db.backgroundJobs.filter fun job =>
    Database.deduplicates job && job.deduplicationKey = deduplicationKey)

/-- `find_active_job_by_deduplication_key`. -/
def findActiveJobByDeduplicationKey (deduplicationKey : String) :
    Harness (Option BackgroundJobRecord) :=
  transaction "failed to fetch active background job by deduplication key" fun _ db =>
    .ok { value := activeJob deduplicationKey db
          db := db
          events := [.activeJobSought deduplicationKey (activeJob deduplicationKey db).isSome] }

/-- Constraints on a `background_jobs` row that is inserted. Its primary key is a new
identifier. -/
def newBackgroundJobViolation (db : Database) (row : BackgroundJobRecord) : Option String :=
  Database.firstBroken
    [(row.status ≠ .leased || row.leaseExpiresAt.isSome, "background_jobs_check"),
     (db.backgroundJobs.all fun other =>
        !(other.triggerId = row.triggerId && other.jobKind = row.jobKind),
      "background_jobs_trigger_job_kind_uidx"),
     (!Database.deduplicates row || db.backgroundJobs.all fun other =>
        !(Database.deduplicates other && other.deduplicationKey = row.deduplicationKey),
      "background_jobs_dedup_active_uidx")]

/-- `TryFrom` for the integers of the columns. -/
def fits (bound : Nat) (message : String) (value : Nat) : Except ErrorChain Unit :=
  if value ≤ bound then .ok ()
  else .error [message, "out of range integral type conversion attempted"]

/-- The conversions of `insert_job`. -/
def budgetFits (budget : BackgroundExecutionBudget) : Except ErrorChain Unit :=
  match fits 2147483647 "iteration budget exceeds i32" budget.iterationBudget with
  | .error e => .error e
  | .ok () =>
    match fits 9223372036854775807 "wall-clock budget exceeds i64" budget.wallClockBudgetMs with
    | .error e => .error e
    | .ok () => fits 2147483647 "token budget exceeds i32" budget.tokenBudget

/-- The row of a planned job. -/
def plannedRow (request : BackgroundPlanningRequest) (backgroundJobId : Uuid) (now : DateTime) :
    BackgroundJobRecord where
  backgroundJobId := backgroundJobId
  traceId := request.traceId
  jobKind := request.jobKind
  triggerId := request.trigger.triggerId
  deduplicationKey := request.key
  status := .planned
  availableAt := request.availableAt
  leaseExpiresAt := none
  lastStartedAt := none
  lastCompletedAt := none
  createdAt := now
  updatedAt := now

/-- `insert_job`. -/
def insertJob (budget : BackgroundExecutionBudget) (row : BackgroundJobRecord) (db : Database) :
    Except ErrorChain Database :=
  match budgetFits budget with
  | .error e => .error e
  | .ok () =>
    match newBackgroundJobViolation db row with
    | some constraint => .error ["failed to insert background job", constraint]
    | none => .ok { db with backgroundJobs := db.backgroundJobs ++ [row] }

/-- An audit event of the planning. -/
def planningEvent (request : BackgroundPlanningRequest) (eventKind : String)
    (fields : List (String × Json)) : NewAuditEvent where
  loopKind := "unconscious"
  subsystem := "background_planning"
  eventKind := eventKind
  severity := "info"
  traceId := request.traceId
  executionId := none
  payload := .obj
    (("job_kind", .str request.jobKind.asStr) ::
      ("trigger_kind", .str request.trigger.triggerKind.asStr) :: fields)

/-- The second half of the transaction: the job and its audit event. -/
def commitPlanned (request : BackgroundPlanningRequest) (budget : BackgroundExecutionBudget)
    (backgroundJobId auditEventId : Uuid) (now : DateTime) (db : Database) :
    Except ErrorChain (Effect Unit) :=
  match insertJob budget (plannedRow request backgroundJobId now) db with
  | .error e => .error e
  | .ok inserted =>
    .ok
      { value := ()
        db :=
          { inserted with
            auditEvents := inserted.auditEvents ++
              [Audit.row auditEventId now (planningEvent request "background_job_planned"
                [("background_job_id", .uuid backgroundJobId),
                 ("deduplication_key", .str request.key),
                 ("internal_conversation_ref", .ofOption .str request.internalConversationRef),
                 ("iteration_budget", .int budget.iterationBudget),
                 ("wall_clock_budget_ms", .int budget.wallClockBudgetMs),
                 ("token_budget", .int budget.tokenBudget)])] }
        events := [.backgroundJobInserted backgroundJobId request.key] }

/-- The reason a duplicate is suppressed for. -/
def duplicateReason : String :=
  "active background job with matching deduplication key already exists"

/-- `plan_background_job` for a request that was accepted. The lookup is the first statement of
its transaction; another process can commit between it and the insert. -/
def planAccepted (config : RuntimeConfig) (request : BackgroundPlanningRequest) :
    Harness BackgroundPlanningDecision := do
  let budget := Policy.defaultBackgroundBudget config
  Prog.ofExcept (Policy.validateBackgroundBudget budget)
  elsewhere "assemble_scope"
  let existing ← findActiveJobByDeduplicationKey request.key
  match existing with
  | some existing => do
    let _ ← Audit.insert (planningEvent request "background_job_suppressed"
      [("deduplication_key", .str request.key),
       ("existing_job_id", .uuid existing.backgroundJobId),
       ("reason", .str duplicateReason)])
    pure (.suppressedDuplicate existing.backgroundJobId request.key duplicateReason)
  | none => do
    let backgroundJobId ← newUuid
    let auditEventId ← newUuid
    transaction "failed to insert background job"
      (commitPlanned request budget backgroundJobId auditEventId)
    pure (.planned
      { backgroundJobId := backgroundJobId
        deduplicationKey := request.key
        budget := budget })

/-- `plan_background_job`. -/
def planBackgroundJob (config : RuntimeConfig) (request : BackgroundPlanningRequest) :
    Harness BackgroundPlanningDecision :=
  match validate request with
  | .error reason => do
    let _ ← Audit.insert (planningEvent request "background_job_rejected"
      [("reason", .str reason),
       ("internal_conversation_ref", .ofOption .str request.internalConversationRef)])
    pure (.rejected reason)
  | .ok () => planAccepted config request

/-! ## What a key tells apart -/

/-- The words of a text, or `unspecified` where there are none. -/
def dedupTarget (value : String) : List (List Char) :=
  if dedupWords value = [] then ["unspecified".toList] else dedupWords value

/-- What a request is about, as its key has it. -/
def BackgroundPlanningRequest.target (request : BackgroundPlanningRequest) : List (List Char) :=
  dedupTarget (discriminator request.trigger request.internalConversationRef)

/-- Requests for jobs of one kind from triggers of one kind, about the same words. -/
structure SameTarget (request other : BackgroundPlanningRequest) : Prop where
  jobKind : request.jobKind = other.jobKind
  triggerKind : request.trigger.triggerKind = other.trigger.triggerKind
  target : request.target = other.target

/-- The words have no dash in them, and at least one character each. -/
theorem mem_dedupWords {value : String} {word : List Char} (h : word ∈ dedupWords value) :
    '-' ∉ word ∧ word ≠ [] := by
  obtain ⟨hpiece, hnonempty⟩ := List.mem_filter.mp h
  rw [List.splitOn_eq_splitOnP] at hpiece
  constructor
  · intro hdash
    have hseparates := Text.free_of_mem_splitOnP hpiece '-' hdash
    cases hseparates
  · intro hempty
    rw [hempty] at hnonempty
    cases hnonempty

theorem mem_dedupTarget {value : String} {word : List Char} (h : word ∈ dedupTarget value) :
    '-' ∉ word := by
  unfold dedupTarget at h
  split at h
  · rw [List.mem_singleton.mp h]
    decide
  · exact (mem_dedupWords h).1

theorem dedupTarget_ne_nil (value : String) : dedupTarget value ≠ [] := by
  unfold dedupTarget
  split
  · exact List.cons_ne_nil _ _
  · assumption

/-- A normalized text is its words with dashes between them. -/
theorem normalizeDedupComponent_eq (value : String) :
    normalizeDedupComponent value = String.ofList (['-'].intercalate (dedupTarget value)) := by
  unfold normalizeDedupComponent dedupTarget
  cases hwords : dedupWords value with
  | nil => rfl
  | cons word rest =>
    have hword : word ∈ dedupWords value := by
      rw [hwords]
      exact List.mem_cons_self
    have hjoined : String.ofList (['-'].intercalate (word :: rest)) ≠ "" := by
      intro hempty
      have hnil : ['-'].intercalate (word :: rest) = [] := String.ofList_eq_empty_iff.mp hempty
      cases rest with
      | nil =>
        rw [List.intercalate_singleton] at hnil
        exact (mem_dedupWords hword).2 hnil
      | cons next rest =>
        rw [List.intercalate_cons_cons] at hnil
        simp at hnil
    rw [if_neg (List.cons_ne_nil _ _)]
    exact if_neg hjoined

/-- Two texts are normalized to the same exactly when they have the same words. -/
theorem normalizeDedupComponent_inj {value other : String} :
    normalizeDedupComponent value = normalizeDedupComponent other ↔
      dedupTarget value = dedupTarget other := by
  rw [normalizeDedupComponent_eq, normalizeDedupComponent_eq]
  constructor
  · intro h
    have hwords : ∀ text : String,
        (['-'].intercalate (dedupTarget text)).splitOn '-' = dedupTarget text := by
      intro text
      exact List.splitOn_intercalate '-' (fun _ hword => mem_dedupTarget hword)
        (dedupTarget_ne_nil text)
    rw [← hwords value, ← hwords other, String.ofList_inj.mp h]
  · intro h
    rw [h]

/-- The kinds have no colon in them and are told apart by their names. -/
theorem jobKind_asStr_inj {kind kind' : UnconsciousJobKind} (h : kind.asStr = kind'.asStr) :
    kind = kind' := by
  cases kind <;> cases kind' <;> first | rfl | exact absurd h (by decide)

theorem triggerKind_asStr_inj {kind kind' : BackgroundTriggerKind} (h : kind.asStr = kind'.asStr) :
    kind = kind' := by
  cases kind <;> cases kind' <;> first | rfl | exact absurd h (by decide)

/-- What comes before the first colon, and what comes after it. -/
theorem colon_inj {before before' after after' : List Char} (hfree : ':' ∉ before)
    (hfree' : ':' ∉ before') (h : before ++ ':' :: after = before' ++ ':' :: after') :
    before = before' ∧ after = after' := by
  have htake : ∀ {text rest : List Char}, ':' ∉ text →
      (text ++ ':' :: rest).takeWhile (· ≠ ':') = text := by
    intro text rest htext
    have hall : ∀ c ∈ text, decide (c ≠ ':') = true := by
      intro c hc
      exact decide_eq_true fun heq => htext (heq ▸ hc)
    rw [List.takeWhile_append_of_pos hall, List.takeWhile_cons_of_neg (by simp), List.append_nil]
  have hbefore : before = before' := (htake hfree).symm.trans ((congrArg _ h).trans (htake hfree'))
  subst hbefore
  exact ⟨rfl, (List.cons.inj (List.append_cancel_left h)).2⟩

/-- The parts of a key stand between its colons. -/
theorem key_parts {request other : BackgroundPlanningRequest} (h : request.key = other.key) :
    request.jobKind.asStr = other.jobKind.asStr ∧
      request.trigger.triggerKind.asStr = other.trigger.triggerKind.asStr ∧
        normalizeDedupComponent (discriminator request.trigger request.internalConversationRef) =
          normalizeDedupComponent (discriminator other.trigger other.internalConversationRef) := by
  have hjob : ∀ kind : UnconsciousJobKind, ':' ∉ kind.asStr.toList := by
    intro kind
    cases kind <;> decide
  have htrigger : ∀ kind : BackgroundTriggerKind, ':' ∉ kind.asStr.toList := by
    intro kind
    cases kind <;> decide
  have hkey : ∀ r : BackgroundPlanningRequest, r.key.toList =
      "background:".toList ++ (r.jobKind.asStr.toList ++ ':' ::
        (r.trigger.triggerKind.asStr.toList ++ ':' ::
          (normalizeDedupComponent (discriminator r.trigger r.internalConversationRef)).toList)) := by
    intro r
    simp [BackgroundPlanningRequest.key, buildDeduplicationKey, String.toList_append]
  have htexts := congrArg String.toList h
  rw [hkey, hkey] at htexts
  obtain ⟨hjobs, hrest⟩ := colon_inj (hjob _) (hjob _) (List.append_cancel_left htexts)
  obtain ⟨htriggers, hcomponents⟩ := colon_inj (htrigger _) (htrigger _) hrest
  exact ⟨String.ext hjobs, String.ext htriggers, String.ext hcomponents⟩

/-- Two requests have the same key exactly when they have the same target. -/
theorem key_eq_iff {request other : BackgroundPlanningRequest} :
    request.key = other.key ↔ SameTarget request other := by
  constructor
  · intro h
    obtain ⟨hjob, htrigger, hcomponent⟩ := key_parts h
    exact
      { jobKind := jobKind_asStr_inj hjob
        triggerKind := triggerKind_asStr_inj htrigger
        target := normalizeDedupComponent_inj.mp hcomponent }
  · intro h
    have hcomponent := normalizeDedupComponent_inj.mpr h.target
    rw [BackgroundPlanningRequest.key, BackgroundPlanningRequest.key, buildDeduplicationKey,
      buildDeduplicationKey, h.jobKind, h.triggerKind, hcomponent]

end BackgroundPlanning

end BlueLagoon
