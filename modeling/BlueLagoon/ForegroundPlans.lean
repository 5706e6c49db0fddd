import BlueLagoon.Foreground

/-!
# Plans of foreground executions

What a planning transaction reads, what it decides and what it leaves in the store.
-/

namespace BlueLagoon

open Interleaving Harness

namespace Foreground

/-! ## What is selected -/

/-- The events that a planning of the conversation finds at an instant. -/
def pendingIngress (config : BacklogRecoveryConfig) (internalConversationRef : String)
    (now_ : DateTime) (db : Database) : List IngressEventRecord :=
  recoverableIngress internalConversationRef
    (now_ - seconds config.stalePendingIngressAgeSecondsThreshold) config.maxRecoveryBatchSize db

/-- What it decides, when recovery is not forced. -/
def pendingDecision (config : BacklogRecoveryConfig) (internalConversationRef : String)
    (now_ : DateTime) (db : Database) : PendingForegroundExecutionDecision :=
  evaluatePendingForegroundExecution config
    (pendingIngress config internalConversationRef now_ db) now_ false

/-- The events it selects. -/
def plannedIngress (config : BacklogRecoveryConfig) (internalConversationRef : String)
    (now_ : DateTime) (db : Database) : List IngressEventRecord :=
  selectedIngress (pendingDecision config internalConversationRef now_ db).mode
    (pendingIngress config internalConversationRef now_ db)

/-- The executions that were processing events. -/
def interruptedExecutions (selected : List IngressEventRecord) : List Uuid :=
  (selected.filter fun ingress => ingress.foregroundStatus = "processing").filterMap
    (·.executionId)

theorem mem_interruptedExecutions {selected : List IngressEventRecord} {executionId : Uuid} :
    executionId ∈ interruptedExecutions selected ↔ ∃ ingress ∈ selected,
      ingress.foregroundStatus = "processing" ∧ ingress.executionId = some executionId := by
  unfold interruptedExecutions
  rw [List.mem_filterMap]
  constructor
  · rintro ⟨ingress, hmem, hid⟩
    obtain ⟨hselected, hstatus⟩ := List.mem_filter.mp hmem
    exact ⟨ingress, hselected, of_decide_eq_true hstatus, hid⟩
  · rintro ⟨ingress, hselected, hstatus, hid⟩
    exact ⟨ingress, List.mem_filter.mpr ⟨hselected, decide_eq_true hstatus⟩, hid⟩

theorem selectedIngress_subset {mode : ForegroundExecutionMode}
    {pending : List IngressEventRecord} {ingress : IngressEventRecord}
    (h : ingress ∈ selectedIngress mode pending) : ingress ∈ pending := by
  cases mode with
  | singleIngress => exact (List.take_sublist 1 pending).subset h
  | backlogRecovery => exact h

theorem mem_pendingIngress {config : BacklogRecoveryConfig} {internalConversationRef : String}
    {now_ : DateTime} {db : Database} {ingress : IngressEventRecord}
    (h : ingress ∈ pendingIngress config internalConversationRef now_ db) :
    ingress ∈ db.ingressEvents := by
  have hsorted := (List.take_sublist _ _).subset h
  rw [List.mem_insertionSort] at hsorted
  exact (List.mem_filter.mp hsorted).1

theorem mem_plannedIngress {config : BacklogRecoveryConfig} {internalConversationRef : String}
    {now_ : DateTime} {db : Database} {ingress : IngressEventRecord}
    (h : ingress ∈ plannedIngress config internalConversationRef now_ db) :
    ingress ∈ db.ingressEvents :=
  mem_pendingIngress (selectedIngress_subset h)

/-- A selection with events of two executions resumes stale processing. -/
theorem pendingDecision_stale {config : BacklogRecoveryConfig} {internalConversationRef : String}
    {now_ : DateTime} {db : Database} {first second : Uuid}
    (hfirst : first ∈ interruptedExecutions
      (plannedIngress config internalConversationRef now_ db))
    (hsecond : second ∈ interruptedExecutions
      (plannedIngress config internalConversationRef now_ db)) (hne : first ≠ second) :
    (pendingDecision config internalConversationRef now_ db).reason = .staleProcessingResume := by
  obtain ⟨one, hone, hprocessing, honeId⟩ := mem_interruptedExecutions.mp hfirst
  obtain ⟨other, hother, -, hotherId⟩ := mem_interruptedExecutions.mp hsecond
  have hdifferent : one ≠ other := by
    intro heq
    rw [heq, hotherId] at honeId
    exact hne (Option.some.inj honeId).symm
  replace hone := selectedIngress_subset hone
  replace hother := selectedIngress_subset hother
  unfold pendingDecision
  generalize pendingIngress config internalConversationRef now_ db = pending at hone hother
  cases pending with
  | nil => cases hone
  | cons oldest rest =>
    cases rest with
    | nil =>
      rw [List.mem_singleton] at hone hother
      exact absurd (hone.trans hother.symm) hdifferent
    | cons next rest =>
      have hresumed : ((oldest :: next :: rest).any fun ingress =>
          ingress.foregroundStatus = "processing") = true :=
        List.any_eq_true.mpr ⟨one, hone, decide_eq_true hprocessing⟩
      unfold evaluatePendingForegroundExecution
      dsimp only
      rw [if_neg (by decide), if_pos hresumed]

/-! ## What is left in the store -/

/-- The rows of the events, once they were planned for the execution. -/
def markedProcessing (ids : List Uuid) (executionId : Uuid) (now : DateTime)
    (rows : List IngressEventRecord) : List IngressEventRecord :=
  Table.update (fun row => ids.contains row.ingressId)
    (foregroundStateSet (some executionId) "processing" now) rows

theorem markedProcessing_nil {executionId : Uuid} {now : DateTime}
    {rows : List IngressEventRecord} : markedProcessing [] executionId now rows = rows :=
  Table.update_eq_self fun _ _ => rfl

/-- Marking one event and then others is marking them all. -/
theorem markedProcessing_cons {id : Uuid} {ids : List Uuid} {executionId : Uuid}
    {now : DateTime} {rows : List IngressEventRecord} :
    markedProcessing ids executionId now (markedProcessing [id] executionId now rows) =
      markedProcessing (id :: ids) executionId now rows := by
  unfold markedProcessing Table.update
  rw [List.map_map]
  refine List.map_congr_left fun row _ => ?_
  have hid : (foregroundStateSet (some executionId) "processing" now row).ingressId =
      row.ingressId := rfl
  have hmark : foregroundStateSet (some executionId) "processing" now
      (foregroundStateSet (some executionId) "processing" now row) =
        foregroundStateSet (some executionId) "processing" now row := rfl
  by_cases hfirst : row.ingressId = id
  · simpa [hfirst, hid] using fun _ => hmark
  · simp [hfirst]

section Marked

variable {traceId executionId : Uuid} {mode : ForegroundExecutionMode}
  {primary : IngressEventRecord} {linkIds causalLinkIds : List Uuid} {now : DateTime}
  {db db' : Database}

/-- One turn of the loop marks its event, and adds links. -/
theorem planIngress_eq_ok {entry : IngressEventRecord × Nat}
    (h : planIngress traceId executionId mode primary linkIds causalLinkIds now db entry =
      .ok db') :
    ∃ links causalLinks, db' =
      { db with
        ingressEvents := markedProcessing [entry.1.ingressId] executionId now db.ingressEvents
        executionIngressLinks := links
        causalLinks := causalLinks } := by
  have hset : setForegroundState entry.1.ingressId (some executionId) "processing" now db =
      { db with
        ingressEvents :=
          markedProcessing [entry.1.ingressId] executionId now db.ingressEvents } := by
    unfold setForegroundState markedProcessing Table.update
    congr 1
    refine List.map_congr_left fun row _ => ?_
    simp
  unfold planIngress at h
  dsimp only at h
  rw [hset] at h
  split at h
  · cases h
  · obtain rfl := Except.ok.inj h
    unfold CausalLinks.add
    split
    · exact ⟨_, _, rfl⟩
    · exact ⟨_, _, rfl⟩

/-- A plan takes each of its ingresses, and links it to the execution; other rows are left alone. -/
theorem planIngresses_eq_ok {entries : List (IngressEventRecord × Nat)}
    (h : entries.foldlM
      (planIngress traceId executionId mode primary linkIds causalLinkIds now) db = .ok db') :
    ∃ links causalLinks, db' =
      { db with
        ingressEvents :=
          markedProcessing (entries.map fun entry => entry.1.ingressId) executionId now
            db.ingressEvents
        executionIngressLinks := links
        causalLinks := causalLinks } := by
  induction entries generalizing db with
  | nil =>
    obtain rfl := Except.ok.inj h
    refine ⟨db.executionIngressLinks, db.causalLinks, ?_⟩
    rw [List.map_nil, markedProcessing_nil]
  | cons entry entries ih =>
    rw [List.foldlM_cons] at h
    cases hfirst : planIngress traceId executionId mode primary linkIds causalLinkIds now db
        entry with
    | error e =>
      rw [hfirst] at h
      cases h
    | ok marked =>
      rw [hfirst] at h
      obtain ⟨links, causalLinks, rfl⟩ := ih h
      obtain ⟨firstLinks, firstCausalLinks, rfl⟩ := planIngress_eq_ok hfirst
      refine ⟨links, causalLinks, ?_⟩
      dsimp only
      rw [List.map_cons, markedProcessing_cons]

end Marked

/-- What a plan says, and what its transaction leaves behind. -/
structure PlanCommitted (config : BacklogRecoveryConfig) (executionId : Uuid)
    (internalConversationRef : String) (now_ now : DateTime) (db : Database)
    (plan : PendingForegroundExecutionPlan)
    (effect : Effect (Option PendingForegroundExecutionPlan)) : Prop where
  mode : plan.mode = (pendingDecision config internalConversationRef now_ db).mode
  reason : plan.decisionReason = (pendingDecision config internalConversationRef now_ db).reason
  interrupted : plan.interruptedExecutionId =
    interruptedExecutionId (plannedIngress config internalConversationRef now_ db)
  ordered : plan.orderedIngress.map OrderedIngressReference.ingressId =
    (plannedIngress config internalConversationRef now_ db).map IngressEventRecord.ingressId
  selected : plannedIngress config internalConversationRef now_ db ≠ []
  store : ∃ links causalLinks auditEvents, effect.db =
    { db with
      ingressEvents :=
        markedProcessing ((plannedIngress config internalConversationRef now_ db).map
          IngressEventRecord.ingressId) executionId now db.ingressEvents
      executionIngressLinks := links
      causalLinks := causalLinks
      auditEvents := auditEvents }
  events : ∃ recoverable statuses, effect.events =
    .foregroundPlanned executionId recoverable statuses ::
      (plannedIngress config internalConversationRef now_ db).flatMap fun ingress =>
        takenOver ingress.ingressId db

/-- Without a primary event nothing was pending. -/
theorem primaryIngress_eq_none {mode : ForegroundExecutionMode}
    {pending : List IngressEventRecord}
    (h : primaryIngress mode (selectedIngress mode pending) = none) : pending = [] := by
  cases mode with
  | singleIngress =>
    have hempty := List.head?_eq_none_iff.mp h
    exact (List.take_eq_nil_iff.mp hempty).resolve_left (by decide)
  | backlogRecovery => exact List.getLast?_eq_none_iff.mp h

theorem selectedIngress_nil (mode : ForegroundExecutionMode) : selectedIngress mode [] = [] := by
  cases mode <;> rfl

/-- A planning that goes through found nothing and did nothing, or its plan is committed. -/
theorem planPending_eq_ok {config : BacklogRecoveryConfig} {ids : PlanningIds}
    {traceId executionId : Uuid} {internalConversationRef : String} {now_ now : DateTime}
    {db : Database} {effect : Effect (Option PendingForegroundExecutionPlan)}
    (h : planPending config ids traceId executionId internalConversationRef false now_ now db =
      .ok effect) :
    (effect.value = none ∧ effect.db = db ∧
      effect.events = [.foregroundPlanned executionId [] []] ∧
        pendingIngress config internalConversationRef now_ db = []) ∨
      ∃ plan, effect.value = some plan ∧
        PlanCommitted config executionId internalConversationRef now_ now db plan effect := by
  unfold planPending at h
  dsimp only at h
  split at h
  -- without a primary ingress nothing is pending, and the plan is none
  · next hnone =>
    obtain rfl := Except.ok.inj h
    have hpending : pendingIngress config internalConversationRef now_ db = [] :=
      primaryIngress_eq_none hnone
    have hplanned : plannedIngress config internalConversationRef now_ db = [] := by
      unfold plannedIngress
      rw [hpending]
      exact selectedIngress_nil _
    refine Or.inl ⟨rfl, rfl, ?_, hpending⟩
    show [Event.foregroundPlanned executionId
      ((pendingIngress config internalConversationRef now_ db).map (·.foregroundStatus))
      ((plannedIngress config internalConversationRef now_ db).map (·.foregroundStatus))] = _
    rw [hpending, hplanned]
    rfl
  · next primary hsome =>
    change primaryIngress (pendingDecision config internalConversationRef now_ db).mode
      (plannedIngress config internalConversationRef now_ db) = some primary at hsome
    split at h
    · cases h
    · next marked hmarked =>
      obtain rfl := Except.ok.inj h
      obtain ⟨links, causalLinks, hstore⟩ := planIngresses_eq_ok hmarked
      refine Or.inr ⟨_, rfl, rfl, rfl, rfl, ?_, ?_, ?_, ⟨_, _, rfl⟩⟩
      · dsimp only
        rw [List.map_map]
        rfl
      -- a plan has a primary ingress, so that it is not empty
      · intro hnil
        rw [hnil] at hsome
        cases hmode : (pendingDecision config internalConversationRef now_ db).mode with
        | singleIngress =>
          rw [hmode] at hsome
          cases hsome
        | backlogRecovery =>
          rw [hmode] at hsome
          cases hsome
      · have hids : ((plannedIngress config internalConversationRef now_ db).zipIdx.map
            fun entry => entry.1.ingressId) =
              (plannedIngress config internalConversationRef now_ db).map
                IngressEventRecord.ingressId := by
          have hmap := List.map_map (g := IngressEventRecord.ingressId) (f := Prod.fst)
            (l := (plannedIngress config internalConversationRef now_ db).zipIdx)
          rw [List.zipIdx_map_fst] at hmap
          exact hmap.symm
        have hsame : selectedIngress (evaluatePendingForegroundExecution config
            (recoverableIngress internalConversationRef
              (now_ - seconds config.stalePendingIngressAgeSecondsThreshold)
              config.maxRecoveryBatchSize db) now_ false).mode
            (recoverableIngress internalConversationRef
              (now_ - seconds config.stalePendingIngressAgeSecondsThreshold)
              config.maxRecoveryBatchSize db) =
            plannedIngress config internalConversationRef now_ db := rfl
        rw [hsame, hids] at hstore
        rw [hstore]
        exact ⟨links, causalLinks, _, rfl⟩

end Foreground

end BlueLagoon
