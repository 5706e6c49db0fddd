import BlueLagoon.ScheduledForeground

/-!
# The range of a schedule

An upsert bounds the seconds between two runs from below, and from above only by what its
columns hold. The outcome of a run adds them to an instant. Where the sum leaves the calendar,
the outcome is not written: the process panics.
-/

namespace BlueLagoon

open Interleaving Harness

namespace ScheduledForeground

/-! ## What an upsert stores -/

/-- The cooldown a task gets: that of the request, of the row it updates, of the configuration. -/
def storedCooldownSeconds (config : RuntimeConfig)
    (existing : Option ScheduledForegroundTaskRecord) (request : UpsertScheduledForegroundTask) :
    Nat :=
  request.cooldownSeconds.getD
    ((existing.map ScheduledForegroundTaskRecord.cooldownSeconds).getD
      config.scheduledForeground.defaultCooldownSeconds)

/-- The record of a task has the intervals of a request that was accepted. -/
structure StoresIntervals (config : RuntimeConfig)
    (existing : Option ScheduledForegroundTaskRecord) (request : UpsertScheduledForegroundTask)
    (record : ScheduledForegroundTaskRecord) : Prop where
  cadence : record.cadenceSeconds = storedCadenceSeconds config request
  cooldown : record.cooldownSeconds = storedCooldownSeconds config existing request
  cadenceFits : record.cadenceSeconds ≤ i64Max
  cooldownFits : record.cooldownSeconds ≤ i64Max

theorem tryI64_eq_ok {message : String} {value : Nat} {converted : Int} :
    tryI64 message value = .ok converted ↔ value ≤ i64Max ∧ converted = value := by
  unfold tryI64 toI64
  by_cases hvalue : value ≤ i64Max
  · rw [if_pos hvalue]
    constructor
    · intro h
      exact ⟨hvalue, (Except.ok.inj h).symm⟩
    · rintro ⟨-, rfl⟩
      rfl
  · rw [if_neg hvalue]
    constructor
    · intro h
      cases h
    · intro h
      exact absurd h.1 hvalue

section Upserts

variable {config : RuntimeConfig} {request : UpsertScheduledForegroundTask}
  {answers : Answers system} {w : World} {es : List Event}

/-- A value that is converted goes on only when it fits. -/
theorem alone_tryI64_bind {α : Type} {message : String} {value : Nat} {next : Int → Harness α}
    {Q : Except ErrorChain α → World → List Event → Prop}
    (fits : value ≤ i64Max → (next value).Alone answers Q w es)
    (exceeds : ∀ e, Q (.error e) w es) :
    ((Prog.ofExcept (tryI64 message value)).bind next).Alone answers Q w es := by
  refine Prog.alone_bind.mpr (Prog.alone_ofExcept.mpr ?_)
  cases hconverted : tryI64 message value with
  | error e => exact exceeds e
  | ok converted =>
    obtain ⟨hfits, rfl⟩ := tryI64_eq_ok.mp hconverted
    exact fits hfits

/-- A task that is inserted has the intervals of the request. -/
theorem insertTask_stores :
    (insertTask config request).Alone answers (fun r _ _ => ∀ record, r = .ok record →
      StoresIntervals config none request record) w es := by
  unfold insertTask
  refine Prog.Alone.bind (R := fun _ _ _ => True) (Prog.Alone.of_forall fun _ _ _ => trivial) ?_ ?_
  · intro nextDueAt w es _
    refine Prog.Alone.bind (R := fun _ _ _ => True) (Prog.Alone.of_forall fun _ _ _ => trivial) ?_ ?_
    · intro taskId w es _
      refine alone_tryI64_bind (fun hcadence => ?_) fun e record h => by cases h
      refine alone_tryI64_bind (fun hcooldown => ?_) fun e record h => by cases h
      refine alone_execute (fun now effect hbody record hrecord => ?_)
        (fun now cause hbody record h => by cases h) fun e _ record h => by cases h
      obtain rfl := Except.ok.inj hrecord
      dsimp only at hbody
      split at hbody
      · cases hbody
      · obtain rfl := Except.ok.inj hbody
        exact ⟨rfl, rfl, hcadence, hcooldown⟩
    · intro e w es _ record h
      cases h
  · intro e w es _ record h
    cases h

/-- A task that is updated has the intervals of the request, and of its row where the request
leaves the cooldown open. -/
theorem updateTask_stores (existing : ScheduledForegroundTaskRecord) :
    (updateTask config existing request).Alone answers (fun r _ _ => ∀ record, r = .ok record →
      StoresIntervals config (some existing) request record) w es := by
  unfold updateTask
  refine alone_tryI64_bind (fun hcadence => ?_) fun e record h => by cases h
  refine alone_tryI64_bind (fun hcooldown => ?_) fun e record h => by cases h
  refine Prog.Alone.bind (R := fun r _ _ => ∀ record, r = .ok (some record) →
    StoresIntervals config (some existing) request record) ?_ ?_ ?_
  · refine alone_execute (fun now effect hbody record hrecord => ?_)
      (fun now cause hbody record h => by cases h) fun e _ record h => by cases h
    unfold changeTask at hbody
    split at hbody
    · obtain rfl := Except.ok.inj hbody
      cases hrecord
    · next row hfind =>
      split at hbody
      · cases hbody
      · obtain rfl := Except.ok.inj hbody
        obtain rfl := Option.some.inj (Except.ok.inj hrecord)
        exact ⟨rfl, rfl, hcadence, hcooldown⟩
  · intro updated w es hstores
    cases updated with
    | none =>
      intro record h
      cases h
    | some found =>
      intro record h
      obtain rfl := Except.ok.inj h
      exact hstores found rfl
  · intro e w es _ record h
    cases h

/-- An upsert that succeeds stores the intervals it accepted. -/
theorem upsertTask_stores :
    (upsertTask config request).Alone answers (fun r _ _ => ∀ written, r = .ok written →
      StoresIntervals config
        (Table.find ScheduledForegroundTaskRecord.taskKey request.taskKey
          w.db.scheduledForegroundTasks) request written.record) w es := by
  unfold upsertTask
  refine Prog.alone_bind.mpr (Prog.alone_ofExcept.mpr ?_)
  cases validateUpsertRequest config request with
  | error e =>
    intro written h
    cases h
  | ok _ =>
    refine Prog.alone_bind.mpr (alone_fetch ?_ fun e _ written h => by cases h)
    cases Table.find ScheduledForegroundTaskRecord.taskKey request.taskKey
      w.db.scheduledForegroundTasks with
    | some existing =>
      refine Prog.Alone.bind (updateTask_stores existing) ?_ fun e w es _ written h => by cases h
      intro record w es hstores written h
      obtain rfl := Except.ok.inj h
      exact hstores record rfl
    | none =>
      refine Prog.Alone.bind insertTask_stores ?_ fun e w es _ written h => by cases h
      intro record w es hstores written h
      obtain rfl := Except.ok.inj h
      exact hstores record rfl

end Upserts

/-! ## What the outcome of a run computes -/

/-- A panic is all there is. -/
def Panics {α : Type} (program : Harness α) : Prop := ∃ e, Chrono.IsPanic e ∧ program = .fail e

/-- The outcome of a run panics exactly when the next run is beyond the calendar. -/
theorem recordTaskRun_panics_iff {task : ScheduledForegroundTaskRecord} {executionId : Uuid}
    {completedAt : DateTime} {data : TaskRunOutcomeData}
    (hfits : intervalSeconds task.schedule data.outcome ≤ i64Max)
    (hnow : Chrono.Representable completedAt) :
    Panics (recordTaskRun task executionId completedAt data) ↔
      Chrono.maxUtc < completedAt + seconds (intervalSeconds task.schedule data.outcome) := by
  have hinterval : tryI64 "scheduled foreground cadence exceeded i64"
      (intervalSeconds task.schedule data.outcome) =
        .ok (intervalSeconds task.schedule data.outcome : Int) := tryI64_eq_ok.mpr ⟨hfits, rfl⟩
  have hunfold : recordTaskRun task executionId completedAt data =
      (Prog.ofExcept (Chrono.addSeconds completedAt
        (intervalSeconds task.schedule data.outcome))).bind
          (updateTaskRunOutcome task executionId completedAt data) := by
    unfold recordTaskRun
    rw [hinterval]
    rfl
  rw [hunfold]
  constructor
  · rintro ⟨e, -, hfail⟩
    by_contra hsum
    rw [Chrono.addSeconds_eq_ok hnow (Int.natCast_nonneg _) (Int.not_lt.mp hsum)] at hfail
    cases hfail
  · intro hsum
    obtain ⟨e, hpanic, hadd⟩ := Chrono.addSeconds_eq_panic hsum
    rw [hadd]
    exact ⟨e, hpanic, rfl⟩

/-- The outcomes of a task that an upsert stored are written without a panic exactly when both
its intervals stay within the calendar. -/
theorem finalised_iff (config : RuntimeConfig) (request : UpsertScheduledForegroundTask)
    {o : Oracle system} {n : Nat} {w : World} {written : ScheduledForegroundTaskWriteResult}
    (hupsert : ((upsertTask config request).run o n w).result = .ok written)
    {task : ScheduledForegroundTaskRecord}
    (hcadence : task.cadenceSeconds = written.record.cadenceSeconds)
    (hcooldown : task.cooldownSeconds = written.record.cooldownSeconds)
    {completedAt : DateTime} (hnow : Chrono.Representable completedAt)
    (executionId : Uuid) (reason summary : String) :
    (¬ Panics (markTaskCompleted task executionId completedAt summary) ∧
        ¬ Panics (markTaskSuppressed task executionId completedAt reason summary) ∧
        ¬ Panics (markTaskFailed task executionId completedAt reason summary)) ↔
      completedAt + seconds (storedCadenceSeconds config request) ≤ Chrono.maxUtc ∧
        completedAt + seconds (storedCooldownSeconds config
          (Table.find ScheduledForegroundTaskRecord.taskKey request.taskKey
            w.db.scheduledForegroundTasks) request) ≤ Chrono.maxUtc := by
  have hupserted : (upsertTask config request).Alone (fun _ _ => True) (fun r _ _ =>
      ∀ written, r = .ok written → StoresIntervals config
        (Table.find ScheduledForegroundTaskRecord.taskKey request.taskKey
          w.db.scheduledForegroundTasks) request written.record) w [] :=
    upsertTask_stores
  have hstores := hupserted.run (fun _ _ => trivial) n written hupsert
  have hfits : ∀ outcome, intervalSeconds task.schedule outcome ≤ i64Max := by
    intro outcome
    cases outcome with
    | completed => exact hcadence.trans_le hstores.cadenceFits
    | suppressed => exact hcooldown.trans_le hstores.cooldownFits
    | failed => exact hcooldown.trans_le hstores.cooldownFits
  rw [← hstores.cadence, ← hstores.cooldown, ← hcadence, ← hcooldown]
  have hcompleted : Panics (markTaskCompleted task executionId completedAt summary) ↔
      Chrono.maxUtc < completedAt + seconds task.cadenceSeconds :=
    recordTaskRun_panics_iff (hfits .completed) hnow
  have hsuppressed : Panics (markTaskSuppressed task executionId completedAt reason summary) ↔
      Chrono.maxUtc < completedAt + seconds task.cooldownSeconds :=
    recordTaskRun_panics_iff (hfits .suppressed) hnow
  have hfailed : Panics (markTaskFailed task executionId completedAt reason summary) ↔
      Chrono.maxUtc < completedAt + seconds task.cooldownSeconds :=
    recordTaskRun_panics_iff (hfits .failed) hnow
  rw [hcompleted, hsuppressed, hfailed, Int.not_lt, Int.not_lt, and_self]

/-! ## Once in a very long while -/

/-- A task that runs every so many seconds. -/
def everySeconds (cadenceSeconds : Nat) : UpsertScheduledForegroundTask where
  taskKey := "digest"
  internalPrincipalRef := "principal"
  internalConversationRef := "conversation"
  messageText := "Send the digest."
  cadenceSeconds := cadenceSeconds
  cooldownSeconds := none
  nextDueAt := some 0
  status := .active
  actorRef := "owner"

/-- What becomes of the request in an empty store. -/
def upsertEvery (cadenceSeconds : Nat) : Run system ScheduledForegroundTaskWriteResult :=
  (upsertTask RuntimeConfig.shipped (everySeconds cadenceSeconds)).run (steady 0) 0 { db := {} }

/-- A cadence may be as long as its column allows, and the first completed run panics. -/
theorem longest_cadence_panics :
    ∃ written, (upsertEvery i64Max).result = .ok written ∧ Chrono.Representable 0 ∧
      Panics (markTaskCompleted written.record 1 0 "done") ∧
      ¬ Panics (markTaskFailed written.record 1 0 "provider_error" "failed") := by
  have haccepted : (upsertEvery i64Max).result.isOk = true := by decide +kernel
  cases hresult : (upsertEvery i64Max).result with
  | error e =>
    rw [hresult] at haccepted
    cases haccepted
  | ok written =>
    have hcadence : (upsertEvery i64Max).result.map (fun written => written.record.cadenceSeconds) =
        .ok i64Max := by decide +kernel
    have hcooldown : (upsertEvery i64Max).result.map (fun written => written.record.cooldownSeconds) =
        .ok 300 := by decide +kernel
    rw [hresult] at hcadence hcooldown
    have hcadence : written.record.cadenceSeconds = i64Max := Except.ok.inj hcadence
    have hcooldown : written.record.cooldownSeconds = 300 := Except.ok.inj hcooldown
    refine ⟨written, rfl, by decide, ?_, fun hpanics => ?_⟩
    · refine (recordTaskRun_panics_iff ?_ (by decide)).mpr ?_
      · exact hcadence.le
      · show Chrono.maxUtc < 0 + seconds written.record.cadenceSeconds
        rw [hcadence]
        decide
    · have hsum : Chrono.maxUtc < 0 + seconds written.record.cooldownSeconds :=
        (recordTaskRun_panics_iff (hcooldown.trans_le (by decide)) (by decide)).mp hpanics
      rw [hcooldown] at hsum
      exact absurd hsum (by decide)

/-- The outcome of a daily task can be written in 1970. -/
theorem finalised_iff_daily :
    ∃ written, (upsertEvery 86400).result = .ok written ∧
      ¬ Panics (markTaskCompleted written.record 1 0 "done") := by
  cases hresult : (upsertEvery 86400).result with
  | error e =>
    have haccepted : (upsertEvery 86400).result.isOk = true := by decide +kernel
    rw [hresult] at haccepted
    cases haccepted
  | ok written =>
    refine ⟨written, rfl, ?_⟩
    refine ((finalised_iff RuntimeConfig.shipped (everySeconds 86400) hresult rfl rfl
      (show Chrono.Representable 0 by decide) 1 "provider_error" "done").mpr ?_).1
    decide +kernel

end ScheduledForeground

end BlueLagoon
