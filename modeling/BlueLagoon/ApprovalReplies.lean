import BlueLagoon.TelegramForeground

/-!
# Replies to approval prompts

A reply to an approval prompt is a callback or a command. Which ones can be read is a small
grammar; what becomes of the others is decided by what follows the parser, which is nothing:
its error ends the execution before any failure is recorded.
-/

namespace BlueLagoon

open Interleaving Harness

namespace Orchestration

/-! ## What can be read -/

/-- A decision that is known, whatever blanks surround it. -/
def IsDecision (decision : String) : Prop :=
  Text.trim decision ∈ ["approve", "approved", "reject", "rejected"]

/-- Callback data that can be read: a decision, a token and a fingerprint between bars, or,
with fewer than two bars, a decision and a token around a colon. -/
inductive ReadableCallback : String → Prop
  | fingerprinted {callbackData decision token fingerprint : String}
      (shape : callbackData.toList =
        decision.toList ++ '|' :: (token.toList ++ '|' :: fingerprint.toList))
      (first : '|' ∉ decision.toList) (second : '|' ∉ token.toList)
      (known : IsDecision decision) : ReadableCallback callbackData
  | plain {callbackData decision token : String}
      (shape : callbackData.toList = decision.toList ++ ':' :: token.toList)
      (first : ':' ∉ decision.toList) (bars : callbackData.toList.count '|' < 2)
      (known : IsDecision decision) : ReadableCallback callbackData

/-- A reply to an approval prompt that can be read, or an ingress that is no such reply. -/
def Readable (ingress : NormalizedIngress) : Prop :=
  if ingress.eventKind = .approvalCallback then
    ∃ payload callbackData, ingress.approvalPayload = some payload ∧
      payload.callbackData = some callbackData ∧ ReadableCallback callbackData
  else
    ∀ hint, ingress.commandHint = some hint → hint.command = "approve" ∨ hint.command = "reject" →
      ∃ arg, hint.args = [arg] ∧ Text.isBlank arg = false

theorem parseApprovalCallbackDecision_ok {decision : String} :
    (∃ parsed, parseApprovalCallbackDecision decision = .ok parsed) ↔ IsDecision decision := by
  unfold parseApprovalCallbackDecision IsDecision
  dsimp only
  split
  · next h => exact iff_of_true ⟨_, rfl⟩ (by rcases h with h | h <;> simp [h])
  · next hnot =>
    split
    · next h => exact iff_of_true ⟨_, rfl⟩ (by rcases h with h | h <;> simp [h])
    · next hnot' =>
      refine iff_of_false (by rintro ⟨parsed, h⟩; cases h) fun hmem => ?_
      simp only [List.mem_cons, List.not_mem_nil, or_false] at hmem
      rcases hmem with h | h | h | h
      · exact hnot (Or.inl h)
      · exact hnot (Or.inr h)
      · exact hnot' (Or.inl h)
      · exact hnot' (Or.inr h)

/-- Mapping over a result does not change whether there is one. -/
theorem map_ok_iff {ε α β : Type} {r : Except ε α} {f : α → β} :
    (∃ b, r.map f = .ok b) ↔ ∃ a, r = .ok a := by
  cases r with
  | ok a => exact iff_of_true ⟨f a, rfl⟩ ⟨a, rfl⟩
  | error e => exact iff_of_false (by rintro ⟨b, h⟩; cases h) (by rintro ⟨a, h⟩; cases h)

/-! ## Callback data -/

theorem splitCallbackData_eq_some {callbackData decision token fingerprint : String} :
    splitCallbackData callbackData = some (decision, token, fingerprint) ↔
      callbackData.toList =
        decision.toList ++ '|' :: (token.toList ++ '|' :: fingerprint.toList) ∧
      '|' ∉ decision.toList ∧ '|' ∉ token.toList := by
  unfold splitCallbackData
  rw [Option.bind_eq_some_iff]
  constructor
  · rintro ⟨⟨decision', remainder⟩, hfirst, hrest⟩
    obtain ⟨⟨token', fingerprint'⟩, hsecond, heq⟩ := Option.map_eq_some_iff.mp hrest
    obtain ⟨rfl, rfl, rfl⟩ : decision' = decision ∧ token' = token ∧ fingerprint' = fingerprint := by
      simpa using heq
    obtain ⟨hdata, hdecision⟩ := Text.splitOnce_eq_some.mp hfirst
    obtain ⟨hremainder, htoken⟩ := Text.splitOnce_eq_some.mp hsecond
    exact ⟨by rw [hdata, hremainder], hdecision, htoken⟩
  · rintro ⟨hdata, hdecision, htoken⟩
    refine ⟨(decision, String.ofList (token.toList ++ '|' :: fingerprint.toList)),
      Text.splitOnce_eq_some.mpr ⟨by rw [String.toList_ofList]; exact hdata, hdecision⟩, ?_⟩
    refine Option.map_eq_some_iff.mpr ⟨(token, fingerprint), ?_, rfl⟩
    exact Text.splitOnce_eq_some.mpr ⟨by rw [String.toList_ofList], htoken⟩

/-- Data without two bars has no fingerprint. -/
theorem splitCallbackData_eq_none {callbackData : String} :
    splitCallbackData callbackData = none ↔ callbackData.toList.count '|' < 2 := by
  unfold splitCallbackData
  cases hfirst : Text.splitOnce '|' callbackData with
  | none =>
    have hnone : callbackData.toList.count '|' = 0 :=
      List.count_eq_zero.mpr (Text.splitOnce_eq_none.mp hfirst)
    exact iff_of_true rfl (by omega)
  | some pieces =>
    obtain ⟨decision, remainder⟩ := pieces
    obtain ⟨hdata, hdecision⟩ := Text.splitOnce_eq_some.mp hfirst
    have hcount : callbackData.toList.count '|' = remainder.toList.count '|' + 1 := by
      rw [hdata, List.count_append, List.count_eq_zero.mpr hdecision, List.count_cons_self]
      omega
    show (Text.splitOnce '|' remainder).map _ = none ↔ _
    rw [Option.map_eq_none_iff, Text.splitOnce_eq_none, ← List.count_eq_zero, hcount]
    omega

/-- A callback is parsed exactly if its payload has callback data that can be read. -/
theorem parseApprovalCallbackIngress_ok {ingress : NormalizedIngress} :
    (∃ parsed, parseApprovalCallbackIngress ingress = .ok parsed) ↔
      ∃ payload callbackData, ingress.approvalPayload = some payload ∧
        payload.callbackData = some callbackData ∧ ReadableCallback callbackData := by
  unfold parseApprovalCallbackIngress
  cases hpayload : ingress.approvalPayload with
  | none => exact iff_of_false (by rintro ⟨_, h⟩; cases h) (by rintro ⟨_, _, h, _⟩; cases h)
  | some payload =>
    cases hcallback : payload.callbackData with
    | none =>
      refine iff_of_false (by rintro ⟨_, h⟩; simp [hcallback] at h) ?_
      rintro ⟨_, _, hsome, h, _⟩
      obtain rfl := Option.some.inj hsome
      rw [hcallback] at h
      cases h
    | some callbackData =>
      have hexists : (∃ payload' callbackData', some payload = some payload' ∧
          payload'.callbackData = some callbackData' ∧ ReadableCallback callbackData') ↔
          ReadableCallback callbackData := by
        constructor
        · rintro ⟨_, _, hsome, h, hreadable⟩
          obtain rfl := Option.some.inj hsome
          obtain rfl := Option.some.inj (hcallback.symm.trans h)
          exact hreadable
        · exact fun hreadable => ⟨payload, callbackData, rfl, hcallback, hreadable⟩
      rw [hexists]
      simp only [hcallback]
      cases hsplit : splitCallbackData callbackData with
      | some pieces =>
        obtain ⟨decision, token, fingerprint⟩ := pieces
        obtain ⟨hdata, hdecision, htoken⟩ := splitCallbackData_eq_some.mp hsplit
        simp only
        rw [map_ok_iff, parseApprovalCallbackDecision_ok]
        constructor
        · exact fun known => .fingerprinted hdata hdecision htoken known
        · rintro (⟨hdata', hdecision', htoken', known⟩ | ⟨_, _, hbars, _⟩)
          · have hsame := splitCallbackData_eq_some.mpr ⟨hdata', hdecision', htoken'⟩
            rw [hsplit, Option.some.injEq, Prod.mk.injEq] at hsame
            rw [hsame.1]
            exact known
          · rw [splitCallbackData_eq_none.mpr hbars] at hsplit
            cases hsplit
      | none =>
        have hbars := splitCallbackData_eq_none.mp hsplit
        simp only
        cases hcolon : Text.splitOnce ':' callbackData with
        | some pieces =>
          obtain ⟨decision, token⟩ := pieces
          obtain ⟨hdata, hdecision⟩ := Text.splitOnce_eq_some.mp hcolon
          simp only
          rw [map_ok_iff, parseApprovalCallbackDecision_ok]
          constructor
          · exact fun known => .plain hdata hdecision hbars known
          · rintro (⟨hdata', hdecision', htoken', _⟩ | ⟨hdata', hdecision', _, known⟩)
            · rw [splitCallbackData_eq_some.mpr ⟨hdata', hdecision', htoken'⟩] at hsplit
              cases hsplit
            · have hsame := Text.splitOnce_eq_some.mpr ⟨hdata', hdecision'⟩
              rw [hcolon, Option.some.injEq, Prod.mk.injEq] at hsame
              rw [hsame.1]
              exact known
        | none =>
          have hnot := Text.splitOnce_eq_none.mp hcolon
          refine iff_of_false (by rintro ⟨_, h⟩; cases h) ?_
          rintro (⟨hdata', hdecision', htoken', _⟩ | ⟨hdata', _, _, _⟩)
          · rw [splitCallbackData_eq_some.mpr ⟨hdata', hdecision', htoken'⟩] at hsplit
            cases hsplit
          · exact hnot (by rw [hdata']; simp)

/-! ## Commands -/

theorem parseApprovalCommand_ok {hint : CommandHint}
    (hcommand : hint.command = "approve" ∨ hint.command = "reject") :
    (∃ parsed, parseApprovalCommand hint = .ok parsed) ↔
      ∃ arg, hint.args = [arg] ∧ Text.isBlank arg = false := by
  have hdecision : IsDecision hint.command := by
    rcases hcommand with h | h <;> rw [h, IsDecision] <;> decide
  unfold parseApprovalCommand
  cases hargs : hint.args with
  | nil => exact iff_of_false (by rintro ⟨_, h⟩; cases h) (by rintro ⟨_, h, _⟩; cases h)
  | cons arg rest =>
    cases rest with
    | cons other rest =>
      exact iff_of_false (by rintro ⟨_, h⟩; cases h) (by rintro ⟨_, h, _⟩; cases h)
    | nil =>
      have hexists : (∃ arg', [arg] = [arg'] ∧ Text.isBlank arg' = false) ↔
          Text.isBlank arg = false := by simp
      simp only
      rw [hexists, Text.trim_isEmpty]
      cases hblank : Text.isBlank arg with
      | true => exact iff_of_false (by rintro ⟨_, h⟩; cases h) (by simp)
      | false =>
        simp only [Bool.false_eq_true, if_false]
        rw [map_ok_iff, parseApprovalCallbackDecision_ok]
        exact iff_of_true hdecision trivial

/-- The parser reads exactly what the grammar says. -/
theorem parseApprovalResolutionIngress_ok {ingress : NormalizedIngress} :
    (∃ parsed, parseApprovalResolutionIngress ingress = .ok parsed) ↔ Readable ingress := by
  unfold parseApprovalResolutionIngress Readable
  split
  · rw [map_ok_iff, parseApprovalCallbackIngress_ok]
  · cases hhint : ingress.commandHint with
    | none => exact iff_of_true ⟨none, rfl⟩ (by simp)
    | some hint =>
      have hforall : (∀ hint', some hint = some hint' → hint'.command = "approve" ∨
          hint'.command = "reject" → ∃ arg, hint'.args = [arg] ∧ Text.isBlank arg = false) ↔
          (hint.command = "approve" ∨ hint.command = "reject" →
            ∃ arg, hint.args = [arg] ∧ Text.isBlank arg = false) := by
        constructor
        · exact fun h => h hint rfl
        · intro h hint' hsome
          obtain rfl := Option.some.inj hsome
          exact h
      rw [hforall]
      simp only
      split
      · next hcommand =>
        rw [map_ok_iff, parseApprovalCommand_ok hcommand]
        exact ⟨fun h _ => h, fun h => h hcommand⟩
      · next hcommand => exact iff_of_true ⟨none, rfl⟩ fun h => absurd h hcommand

/-! ## What becomes of the others -/

/-- The execution is failed, and its ingress is done with. -/
structure FailureRecorded (executionId ingressId : Uuid) (db : Database) : Prop where
  execution : ∃ row, Table.find ExecutionRecord.executionId executionId db.executionRecords =
    some row ∧ row.status = "failed"
  ingress : ∃ row, Table.find IngressEventRecord.ingressId ingressId db.ingressEvents =
    some row ∧ row.foregroundStatus = "processed"

/-- When the reply cannot be read, the error is returned only after the failure is recorded. -/
def RecordsParseFailure {α : Type} (trigger : ForegroundTrigger) (run : Run system α) :
    Prop :=
  ∀ error, parseApprovalResolutionIngress trigger.ingress = .error error →
    ∀ returned, run.result = .error returned →
      FailureRecorded trigger.executionId trigger.ingress.ingressId run.state.db

/-- An ingress that is being processed is not done with. -/
theorem not_failureRecorded_of_inProgress {trigger : ForegroundTrigger} {db : Database}
    (h : Foreground.InProgress trigger db) :
    ¬ FailureRecorded trigger.executionId trigger.ingress.ingressId db := by
  intro hrecorded
  obtain ⟨row, hrow, hprocessing⟩ := h.ingress
  obtain ⟨row', hrow', hprocessed⟩ := hrecorded.ingress
  rw [hrow] at hrow'
  obtain rfl := Option.some.inj hrow'
  rw [hprocessing] at hprocessed
  exact absurd hprocessed (by decide)

section Runs

variable [GovernedActionServices] {config : RuntimeConfig} {o : Oracle system} {n : Nat}
  {w : World}

/-- A reply that cannot be read ends the execution where it stands. -/
theorem orchestrateTrigger_run_unreadable {trigger : ForegroundTrigger}
    {recoveryContext : ForegroundRecoveryContext} {messages : List UserEpisodeMessage}
    {error : ErrorChain} (h : parseApprovalResolutionIngress trigger.ingress = .error error) :
    (orchestrateTrigger config trigger recoveryContext messages).run o n w =
      { result := .error error, state := w, events := [], asked := n } := by
  unfold orchestrateTrigger
  rw [h]
  rfl

/-- Whatever an entry point does before: the failure is recorded exactly when there is none,
unless it had been recorded before. -/
theorem recordsParseFailure_of_entry {α : Type} {entry : Harness α}
    {next : α → Harness TelegramForegroundOrchestrationOutcome} {outcome : α}
    {trigger : ForegroundTrigger} (hentry : (entry.run o n w).result = .ok outcome)
    (hnext : ∃ recoveryContext messages,
      next outcome = orchestrateTrigger config trigger recoveryContext messages)
    (hfresh : ¬ FailureRecorded trigger.executionId trigger.ingress.ingressId
      (entry.run o n w).state.db) :
    RecordsParseFailure trigger ((entry >>= next).run o n w) ↔ Readable trigger.ingress := by
  obtain ⟨recoveryContext, messages, hnext⟩ := hnext
  rw [← parseApprovalResolutionIngress_ok]
  cases hparse : parseApprovalResolutionIngress trigger.ingress with
  | ok parsed =>
    refine iff_of_true (fun error herror => ?_) ⟨parsed, rfl⟩
    rw [hparse] at herror
    cases herror
  | error error =>
    refine iff_of_false (fun hrecords => hfresh ?_) (by rintro ⟨parsed, h⟩; cases h)
    have hrun : (entry >>= next).run o n w =
        { entry.run o n w with result := .error error } := by
      rw [Prog.bind_eq, Prog.run_bind, Run.andThen, hentry]
      simp only [hnext, orchestrateTrigger_run_unreadable hparse, List.append_nil]
    have hrecorded := hrecords error hparse error (by rw [hrun])
    rwa [hrun] at hrecorded

omit [GovernedActionServices] in
/-- The trigger of a plan is built from the row of its ingress, and nothing is written. -/
theorem planTrigger_alone {answers : Answers system} {es : List Event}
    {execution : TelegramForegroundPlanExecution} :
    (planTrigger config execution).Alone answers (fun r w' _ => w'.db = w.db ∧
      ∀ trigger, r = .ok trigger → trigger.executionId = execution.executionId ∧
        trigger.ingress.ingressId = execution.plan.primaryIngress.ingressId) w es := by
  unfold planTrigger
  refine Prog.Alone.bind Foreground.loadNormalizedIngress_alone (fun ingress w₁ es₁ hloaded => ?_)
    (fun e w' es' h => ⟨congrArg World.db h.1, fun _ h => by cases h⟩)
  obtain ⟨rfl, hloaded⟩ := hloaded
  obtain ⟨row, hrow, hingress⟩ := hloaded ingress rfl
  have hid : ingress.ingressId = execution.plan.primaryIngress.ingressId := by
    rw [Foreground.normalizedIngress_ingressId hingress]
    exact Table.key_of_find hrow
  have built : ∀ triggerKind, (Foreground.buildForegroundTriggerWithKind config
      execution.traceId execution.executionId triggerKind ingress).Alone answers
        (fun r w' _ => w'.db = w₁.db ∧ ∀ trigger, r = .ok trigger →
          trigger.executionId = execution.executionId ∧
            trigger.ingress.ingressId = execution.plan.primaryIngress.ingressId) w₁ es₁ := by
    intro triggerKind
    refine Foreground.buildForegroundTriggerWithKind_alone.mono fun r w' es' hbuilt => ?_
    refine ⟨hbuilt.1, fun trigger htrigger => ?_⟩
    obtain ⟨hingress', -, -, hexecution⟩ := hbuilt.2 trigger htrigger
    exact ⟨hexecution, by rw [hingress', hid]⟩
  cases execution.triggerKindOverride with
  | some triggerKind => exact built triggerKind
  | none => exact built _

/-- At both entry points the failure of the parser is recorded exactly when there is none: when
the reply can be read. -/
theorem recordsParseFailure_iff (config : RuntimeConfig) (telegramConfig : ResolvedTelegramConfig)
    (ingress : NormalizedIngress) (execution : TelegramForegroundPlanExecution)
    (o : Oracle system) (n : Nat) (w : World) :
    (∀ trigger, ((Foreground.intakeTelegramForegroundTrigger config telegramConfig ingress).run
        o n w).result = .ok (.accepted trigger) →
      (RecordsParseFailure trigger
        ((orchestrateTelegramForegroundIngress config telegramConfig ingress).run o n w) ↔
          Readable ingress)) ∧
    (∀ trigger, ((planTrigger config execution).run o n w).result = .ok trigger →
      ¬ FailureRecorded execution.executionId execution.plan.primaryIngress.ingressId w.db →
      (RecordsParseFailure trigger
        ((orchestrateTelegramForegroundPlan config execution).run o n w) ↔
          Readable trigger.ingress)) := by
  constructor
  · intro trigger hintake
    have haccepted : (Foreground.intakeTelegramForegroundTrigger config telegramConfig
        ingress).Alone (fun _ _ => True) (fun r w' _ => ∀ trigger, r = .ok (.accepted trigger) →
          Foreground.InProgress trigger w'.db ∧ trigger.ingress = ingress) w [] :=
      Foreground.intakeTelegramForegroundTrigger_accepted
    have hran := haccepted.run (o := o) (fun _ _ => trivial) n
    obtain ⟨hprogress, hingress⟩ := hran trigger hintake
    unfold orchestrateTelegramForegroundIngress
    rw [← show Readable trigger.ingress ↔ Readable ingress by rw [hingress]]
    exact recordsParseFailure_of_entry hintake ⟨_, _, rfl⟩
      (not_failureRecorded_of_inProgress hprogress)
  · intro trigger hplanned hfresh
    have hbuilt : (planTrigger config execution).Alone (fun _ _ => True) (fun r w' _ =>
        w'.db = w.db ∧ ∀ trigger, r = .ok trigger → trigger.executionId = execution.executionId ∧
          trigger.ingress.ingressId = execution.plan.primaryIngress.ingressId) w [] :=
      planTrigger_alone
    obtain ⟨hdb, hran⟩ := hbuilt.run (o := o) (fun _ _ => trivial) n
    obtain ⟨hexecution, hingress⟩ := hran trigger hplanned
    unfold orchestrateTelegramForegroundPlan
    refine recordsParseFailure_of_entry hplanned ⟨_, _, rfl⟩ ?_
    rw [hdb, hexecution, hingress]
    exact hfresh

end Runs

/-! ## A callback that cannot be read -/

/-- The user and the conversation that are served. -/
def servedTelegram : ResolvedTelegramConfig where
  allowedUserId := 42
  allowedChatId := 42
  internalPrincipalRef := "primary"
  internalConversationRef := "telegram-primary"

/-- A callback of that user, with the given data. -/
def callbackIngress (callbackData : String) : NormalizedIngress where
  ingressId := 7
  channelKind := .telegram
  externalUserId := "42"
  externalConversationId := "42"
  externalEventId := "event"
  externalMessageId := none
  internalPrincipalRef := "primary"
  internalConversationRef := "telegram-primary"
  eventKind := .approvalCallback
  occurredAt := 10
  textBody := none
  commandHint := none
  approvalPayload := some { token := "token", callbackData := some callbackData }
  rawPayloadRef := none

/-- Its row, after it was planned. -/
def callbackRow (callbackData : String) : IngressEventRecord :=
  { Foreground.ingressRow 10
      { ingress := callbackIngress callbackData
        conversationBindingId := none
        traceId := 1
        executionId := some 1000
        status := "accepted"
        rejectionReason := none } with
    foregroundStatus := "processing" }

/-- The plan that executes it. -/
def callbackPlan (callbackData : String) : TelegramForegroundPlanExecution where
  traceId := 1
  executionId := 1000
  triggerKindOverride := none
  plan :=
    { mode := .singleIngress
      primaryIngress := callbackRow callbackData
      interruptedExecutionId := none
      orderedIngress := []
      decisionReason := .singleIngress }

/-- The database in which it is executed. -/
def callbackDatabase (callbackData : String) : Database :=
  { executionRecords :=
      [{ executionId := 1000, traceId := 1, triggerKind := "telegram", status := "started" }]
    ingressEvents := [callbackRow callbackData] }

/-- The trigger that is built from the callback. -/
def callbackTrigger (callbackData : String) (triggerId traceId executionId : Uuid) :
    ForegroundTrigger where
  triggerId := triggerId
  traceId := traceId
  executionId := executionId
  triggerKind := .approvalResolutionEvent
  ingress := callbackIngress callbackData
  receivedAt := 20
  deduplicationKey := "telegram:event"

/-- The run of the plan. -/
def callbackRun (callbackData : String) : Run system TelegramForegroundOrchestrationOutcome :=
  letI := GovernedActions.plainServices
  (orchestrateTelegramForegroundPlan RuntimeConfig.shipped (callbackPlan callbackData)).run
    (steady 20) 100 { db := callbackDatabase callbackData }

/-- A callback with an unknown decision ends the execution: nothing is recorded, and the ingress
is selected again once it is stale. -/
theorem unreadable_callback_not_recorded :
    (callbackRun "maybe:token").result =
        .error ["approval callback decision 'maybe' is unsupported"] ∧
      (callbackRun "maybe:token").state.db.executionRecords.map ExecutionRecord.status =
        ["started"] ∧
      ¬ RecordsParseFailure (callbackTrigger "maybe:token" 101 1 1000)
        (callbackRun "maybe:token") ∧
      (Foreground.recoverableIngress "telegram-primary" 1000 8
        (callbackRun "maybe:token").state.db).map IngressEventRecord.ingressId = [7] := by
  refine ⟨by rfl, by rfl, fun hrecords => ?_, by rfl⟩
  have hrecorded := hrecords ["approval callback decision 'maybe' is unsupported"] (by rfl)
    ["approval callback decision 'maybe' is unsupported"] (by rfl)
  obtain ⟨row, hrow, hstatus⟩ := hrecorded.execution
  obtain rfl : { executionId := 1000, traceId := 1, triggerKind := "telegram",
                 status := "started" } = row := Option.some.inj hrow
  exact absurd hstatus (by decide)

/-- The equivalence, for that callback at both entry points. -/
theorem recordsParseFailure_iff_callback :
    letI := GovernedActions.plainServices
    ¬ RecordsParseFailure (callbackTrigger "maybe:token" 103 101 102)
        ((orchestrateTelegramForegroundIngress RuntimeConfig.shipped servedTelegram
          (callbackIngress "maybe:token")).run (steady 20) 100 {}) ∧
      ¬ RecordsParseFailure (callbackTrigger "maybe:token" 101 1 1000)
        (callbackRun "maybe:token") := by
  let _services := GovernedActions.plainServices
  have hunreadable : ¬ Readable (callbackIngress "maybe:token") := by
    rw [← parseApprovalResolutionIngress_ok]
    rintro ⟨parsed, hparsed⟩
    have herror : parseApprovalResolutionIngress (callbackIngress "maybe:token") =
        .error ["approval callback decision 'maybe' is unsupported"] := by rfl
    rw [herror] at hparsed
    cases hparsed
  constructor
  · have hiff := (recordsParseFailure_iff RuntimeConfig.shipped servedTelegram
      (callbackIngress "maybe:token") (callbackPlan "maybe:token") (steady 20) 100 {}).1
      (callbackTrigger "maybe:token" 103 101 102) (by rfl)
    exact fun hrecords => hunreadable (hiff.mp hrecords)
  · have hfresh : ¬ FailureRecorded 1000 7 (callbackDatabase "maybe:token") := by
      intro hrecorded
      obtain ⟨row, hrow, hstatus⟩ := hrecorded.ingress
      obtain rfl : callbackRow "maybe:token" = row := Option.some.inj hrow
      exact absurd hstatus (by decide)
    have hiff := (recordsParseFailure_iff RuntimeConfig.shipped servedTelegram
      (callbackIngress "maybe:token") (callbackPlan "maybe:token") (steady 20) 100
      { db := callbackDatabase "maybe:token" }).2
      (callbackTrigger "maybe:token" 101 1 1000) (by rfl) hfresh
    exact fun hrecords => hunreadable (hiff.mp hrecords)

end Orchestration

end BlueLagoon
