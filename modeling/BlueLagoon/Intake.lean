import BlueLagoon.ConversationBindings
import BlueLagoon.Foreground
import BlueLagoon.Policy

/-!
# Foreground intake

A Telegram event is delivered any number of times. A delivery that finds the event stored is
a duplicate; another one is rejected by policy, or accepted: at once with an execution of its
own, or staged for a later one.

The two lookups of a reconciliation lock the rows they find. A row that was found is as if
read when the transaction commits; that none was found may be history by then.
-/

namespace BlueLagoon

open Interleaving Harness

structure NewIngressEvent where
  ingress : NormalizedIngress
  conversationBindingId : Option Uuid
  traceId : Uuid
  executionId : Option Uuid
  status : String
  rejectionReason : Option String

structure StagedForegroundIngress where
  ingressId : Uuid
  traceId : Uuid
  internalConversationRef : String

structure DuplicateForegroundTrigger where
  ingressId : Uuid
  traceId : Uuid
  executionId : Option Uuid
  status : String

structure RejectedForegroundTrigger where
  ingressId : Uuid
  traceId : Uuid
  reason : String

inductive ForegroundTriggerIntakeOutcome
  | accepted (trigger : ForegroundTrigger)
  | duplicate (duplicate : DuplicateForegroundTrigger)
  | rejected (rejected : RejectedForegroundTrigger)

inductive StagedForegroundIngressOutcome
  | accepted (staged : StagedForegroundIngress)
  | duplicate (duplicate : DuplicateForegroundTrigger)
  | rejected (rejected : RejectedForegroundTrigger)

/-- Does the error come from a broken unique constraint? Those are named after what is
unique, a foreign key is named after what it references. -/
def isUniqueViolation (error : ErrorChain) : Bool :=
  error.any fun cause => ["_pkey", "_key", "_uidx"].any fun suffix =>
    suffix.toList.isSuffixOf cause.toList

namespace Foreground

/-! ## Triggers -/

/-- `foreground_deduplication_key`. -/
def foregroundDeduplicationKey (ingress : NormalizedIngress) : String :=
  s!"{ingress.channelKind.asStr}:{ingress.externalEventId}"

/-- `is_approval_resolution_ingress`. -/
def isApprovalResolutionIngress (ingress : NormalizedIngress) : Bool :=
  (ingress.approvalPayload.any fun payload => !Text.isBlank payload.token) ||
    ingress.commandHint.any fun hint =>
      Text.trim hint.command ∈ ["approve", "approved", "reject", "rejected"]

/-- `infer_foreground_trigger_kind`. -/
def inferForegroundTriggerKind (ingress : NormalizedIngress) : ForegroundTriggerKind :=
  if isApprovalResolutionIngress ingress then .approvalResolutionEvent
  else if Text.startsWith ingress.externalEventId "wake-signal:" ||
      ingress.rawPayloadRef.any fun value => Text.startsWith value "wake_signal:" then
    .approvedWakeSignal
  else .userIngress

/-- `build_foreground_trigger_with_kind`. -/
def buildForegroundTriggerWithKind (config : RuntimeConfig) (traceId executionId : Uuid)
    (triggerKind : ForegroundTriggerKind) (ingress : NormalizedIngress) :
    Harness ForegroundTrigger := do
  Prog.ofExcept (Policy.validateForegroundBudget (Policy.defaultForegroundBudget config))
  let triggerId ← newUuid
  let receivedAt ← utcNow
  pure
    { triggerId := triggerId
      traceId := traceId
      executionId := executionId
      triggerKind := triggerKind
      ingress := ingress
      receivedAt := receivedAt
      deduplicationKey := foregroundDeduplicationKey ingress }

/-- `build_foreground_trigger`. -/
def buildForegroundTrigger (config : RuntimeConfig) (traceId executionId : Uuid)
    (ingress : NormalizedIngress) : Harness ForegroundTrigger :=
  buildForegroundTriggerWithKind config traceId executionId (inferForegroundTriggerKind ingress)
    ingress

/-! ## The store -/

/-- The row of a new ingress event. -/
def ingressRow (now : DateTime) (event : NewIngressEvent) : IngressEventRecord where
  ingressId := event.ingress.ingressId
  conversationBindingId := event.conversationBindingId
  traceId := event.traceId
  executionId := event.executionId
  occurredAt := event.ingress.occurredAt
  receivedAt := now
  channelKind := event.ingress.channelKind
  externalUserId := event.ingress.externalUserId
  externalConversationId := event.ingress.externalConversationId
  internalPrincipalRef := some event.ingress.internalPrincipalRef
  internalConversationRef := some event.ingress.internalConversationRef
  eventKind := event.ingress.eventKind
  externalEventId := event.ingress.externalEventId
  externalMessageId := event.ingress.externalMessageId
  status := event.status
  foregroundStatus := "pending"
  lastProcessedAt := none
  rejectionReason := event.rejectionReason
  textBody := event.ingress.textBody
  commandName := event.ingress.commandHint.map CommandHint.command
  commandArgs := (event.ingress.commandHint.map CommandHint.args).getD []
  approvalToken := event.ingress.approvalPayload.map ApprovalPayload.token
  approvalCallbackData := event.ingress.approvalPayload.bind ApprovalPayload.callbackData
  rawPayloadRef := event.ingress.rawPayloadRef

/-- `insert_ingress_event`. -/
def insertIngressEvent (event : NewIngressEvent) (now : DateTime) (db : Database) :
    Except ErrorChain Database :=
  match db.ingressEventViolation (ingressRow now event) with
  | some constraint => .error ["failed to insert ingress event", constraint]
  | none => .ok { db with ingressEvents := db.ingressEvents ++ [ingressRow now event] }

/-- The ingress that was stored in a row. -/
def normalizedIngress (row : IngressEventRecord) : Except ErrorChain NormalizedIngress :=
  match row.internalPrincipalRef, row.internalConversationRef with
  | none, _ => .error ["persisted ingress is missing internal_principal_ref"]
  | some _, none => .error ["persisted ingress is missing internal_conversation_ref"]
  | some principalRef, some conversationRef =>
    .ok
      { ingressId := row.ingressId
        channelKind := row.channelKind
        externalUserId := row.externalUserId
        externalConversationId := row.externalConversationId
        externalEventId := row.externalEventId
        externalMessageId := row.externalMessageId
        internalPrincipalRef := principalRef
        internalConversationRef := conversationRef
        eventKind := row.eventKind
        occurredAt := row.occurredAt
        textBody := row.textBody
        commandHint := row.commandName.map fun command =>
          { command := command, args := row.commandArgs }
        approvalPayload := row.approvalToken.map fun token =>
          { token := token, callbackData := row.approvalCallbackData }
        rawPayloadRef := row.rawPayloadRef }

/-- `load_normalized_ingress`. -/
def loadNormalizedIngress (ingressId : Uuid) : Harness NormalizedIngress := do
  let row ← fetchOne "failed to load normalized ingress from persistence" fun db =>
    Table.find IngressEventRecord.ingressId ingressId db.ingressEvents
  Prog.ofExcept (normalizedIngress row)

/-- `find_ingress_event_by_channel_event`. -/
def findIngressEventByChannelEvent (channelKind : ChannelKind) (externalEventId : String) :
    Harness (Option IngressEventRecord) :=
  transaction "failed to look up ingress event by external event id" fun _ db =>
    let found := db.ingressEvents.find? fun row =>
      row.channelKind = channelKind && row.externalEventId = externalEventId
    .ok { value := found, db := db, events := [.ingressSought found.isSome] }

/-! ## Bindings -/

/-- `matching_conversation_binding`. -/
def matchingConversationBinding (config : ResolvedTelegramConfig) (ingress : NormalizedIngress) :
    Harness (Option NewConversationBinding) :=
  if ingress.externalUserId ≠ toString config.allowedUserId then pure none
  else if ingress.externalConversationId ≠ toString config.allowedChatId then pure none
  else if ingress.internalPrincipalRef ≠ config.internalPrincipalRef then pure none
  else if ingress.internalConversationRef ≠ config.internalConversationRef then pure none
  else do
    let conversationBindingId ← newUuid
    pure (some
      { conversationBindingId := conversationBindingId
        channelKind := .telegram
        externalUserId := ingress.externalUserId
        externalConversationId := ingress.externalConversationId
        internalPrincipalRef := ingress.internalPrincipalRef
        internalConversationRef := ingress.internalConversationRef })

/-- Which lookups of a reconciliation found a row. -/
structure BindingLookups where
  external : Bool
  internal : Bool

/-- The two lookups of `reconcile_conversation_binding_in_tx`. -/
def lookUpBindings (binding : NewConversationBinding) : Harness BindingLookups := do
  let external ← fetch "failed to look up conversation binding by external tuple" fun db =>
    (findLockedConversationBindingByExternalTuple binding db).isSome
  transaction "failed to look up conversation binding by internal conversation ref" fun _ db =>
    let internal := (findLockedConversationBindingByInternalRef binding db).isSome
    .ok { value := { external := external, internal := internal }
          db := db
          events := [.bindingsSought (external || internal)] }

/-- The rest of `reconcile_conversation_binding_in_tx`, when the transaction commits. -/
def reconcileLookedUp (lookups : BindingLookups) (binding : NewConversationBinding)
    (db : Database) : Except ErrorChain (ConversationBindingWriteResult × Database) :=
  reconcileFound
    (if lookups.external then findLockedConversationBindingByExternalTuple binding db else none)
    (if lookups.internal then findLockedConversationBindingByInternalRef binding db else none)
    binding db

/-- `reconcile_conversation_binding`, in a transaction of its own. -/
def reconcileConversationBinding (binding : NewConversationBinding) :
    Harness ConversationBindingWriteResult := do
  let lookups ← lookUpBindings binding
  transaction "failed to start conversation binding transaction" fun _ db =>
    match reconcileLookedUp lookups binding db with
    | .error e => .error e
    | .ok (written, db) =>
      .ok { value := written
            db := db
            events := [.bindingReconciled written.record.conversationBindingId] }

/-- `maybe_upsert_matching_conversation_binding`. -/
def maybeUpsertMatchingConversationBinding (config : ResolvedTelegramConfig)
    (ingress : NormalizedIngress) : Harness (Option ConversationBindingWriteResult) := do
  let binding ← matchingConversationBinding config ingress
  match binding with
  | none => pure none
  | some binding => do
    let written ← reconcileConversationBinding binding
    pure (some written)

/-! ## Duplicates and rejections -/

/-- `duplicate_foreground_trigger_outcome`. -/
def duplicateForegroundTriggerOutcome (ingress : NormalizedIngress)
    (existing : IngressEventRecord) : Harness DuplicateForegroundTrigger := do
  let _ ← Audit.insert
    { loopKind := "conscious"
      subsystem := "foreground_trigger"
      eventKind := "foreground_trigger_duplicate"
      severity := "info"
      traceId := existing.traceId
      executionId := existing.executionId
      payload := .obj
        [("ingress_id", .uuid existing.ingressId),
         ("channel_kind", .str ingress.channelKind.asStr),
         ("external_event_id", .str ingress.externalEventId),
         ("deduplication_key", .str (foregroundDeduplicationKey ingress)),
         ("existing_status", .str existing.status)] }
  pure
    { ingressId := existing.ingressId
      traceId := existing.traceId
      executionId := existing.executionId
      status := existing.status }

/-- What both entry points do with an ingress that policy denies. -/
def rejectForegroundTrigger (config : ResolvedTelegramConfig) (ingress : NormalizedIngress)
    (reason : String) : Harness RejectedForegroundTrigger := do
  let traceId ← newUuid
  let conversationBinding ← maybeUpsertMatchingConversationBinding config ingress
  transaction "failed to insert ingress event" fun now db =>
    match insertIngressEvent
        { ingress := ingress
          conversationBindingId := conversationBinding.map fun binding =>
            binding.record.conversationBindingId
          traceId := traceId
          executionId := none
          status := "rejected"
          rejectionReason := some reason } now db with
    | .error e => .error e
    | .ok db => .ok { value := (), db := db, events := [.ingressStored ingress.ingressId] }
  execute "failed to update ingress foreground state" fun now db =>
    .ok
      { value := ()
        db := setForegroundState ingress.ingressId none "rejected" now db
        events := takenOver ingress.ingressId db }
  let _ ← Audit.insert
    { loopKind := "conscious"
      subsystem := "foreground_trigger"
      eventKind := "foreground_trigger_rejected"
      severity := "warn"
      traceId := traceId
      executionId := none
      payload := .obj
        [("ingress_id", .uuid ingress.ingressId),
         ("channel_kind", .str ingress.channelKind.asStr),
         ("external_event_id", .str ingress.externalEventId),
         ("event_kind", .str ingress.eventKind.asStr),
         ("deduplication_key", .str (foregroundDeduplicationKey ingress)),
         ("reason", .str reason),
         ("conversation_binding_action", .ofOption
           (fun binding : ConversationBindingWriteResult => .str binding.action.asStr)
           conversationBinding)] }
  pure { ingressId := ingress.ingressId, traceId := traceId, reason := reason }

/-! ## Intake -/

/-- A serialized ingress. -/
def ingressPayload (ingress : NormalizedIngress) : Json :=
  .obj
    [("ingress_id", .uuid ingress.ingressId),
     ("channel_kind", .str ingress.channelKind.asStr),
     ("external_user_id", .str ingress.externalUserId),
     ("external_conversation_id", .str ingress.externalConversationId),
     ("external_event_id", .str ingress.externalEventId),
     ("external_message_id", .ofOption .str ingress.externalMessageId),
     ("internal_principal_ref", .str ingress.internalPrincipalRef),
     ("internal_conversation_ref", .str ingress.internalConversationRef),
     ("event_kind", .str ingress.eventKind.asStr),
     ("occurred_at", .time ingress.occurredAt),
     ("text_body", .ofOption .str ingress.textBody),
     ("command_hint", .ofOption (fun hint : CommandHint => .obj
       [("command", .str hint.command), ("args", .arr (hint.args.map .str))])
       ingress.commandHint),
     ("approval_payload", .ofOption (fun payload : ApprovalPayload => .obj
       [("token", .str payload.token), ("callback_data", .ofOption .str payload.callbackData)])
       ingress.approvalPayload),
     ("raw_payload_ref", .ofOption .str ingress.rawPayloadRef)]

/-- A serialized budget. -/
def budgetPayload (budget : ForegroundBudget) : Json :=
  .obj
    [("iteration_budget", .int budget.iterationBudget),
     ("wall_clock_budget_ms", .int budget.wallClockBudgetMs),
     ("token_budget", .int budget.tokenBudget)]

/-- A serialized trigger. -/
def triggerPayload (config : RuntimeConfig) (trigger : ForegroundTrigger) : Json :=
  .obj
    [("trigger_id", .uuid trigger.triggerId),
     ("trace_id", .uuid trigger.traceId),
     ("execution_id", .uuid trigger.executionId),
     ("trigger_kind", .str trigger.triggerKind.asStr),
     ("ingress", ingressPayload trigger.ingress),
     ("received_at", .time trigger.receivedAt),
     ("deduplication_key", .str trigger.deduplicationKey),
     ("budget", budgetPayload (Policy.defaultForegroundBudget config))]

/-- The execution an accepted trigger starts. -/
def acceptedExecution (config : RuntimeConfig) (trigger : ForegroundTrigger) :
    NewExecutionRecord where
  executionId := trigger.executionId
  traceId := trigger.traceId
  triggerKind := "telegram_user_ingress"
  syntheticTrigger := none
  status := "started"
  requestPayload := triggerPayload config trigger

/-- The audit event of an ingress that was let in. -/
def acceptanceEvent (eventKind : String) (traceId : Uuid) (executionId : Option Uuid)
    (ingress : NormalizedIngress) (budget : List (String × Json))
    (action : ConversationBindingAction) : NewAuditEvent where
  loopKind := "conscious"
  subsystem := "foreground_trigger"
  eventKind := eventKind
  severity := "info"
  traceId := traceId
  executionId := executionId
  payload := .obj
    ([("ingress_id", .uuid ingress.ingressId),
      ("channel_kind", .str ingress.channelKind.asStr),
      ("external_event_id", .str ingress.externalEventId),
      ("event_kind", .str ingress.eventKind.asStr),
      ("deduplication_key", .str (foregroundDeduplicationKey ingress))] ++ budget ++
      [("conversation_binding_action", .str action.asStr)])

/-- The transaction of `intake_telegram_foreground_trigger`. When the ingress event breaks a
constraint the transaction is dropped, and its error handed on. -/
def commitAccepted (config : RuntimeConfig) (trigger : ForegroundTrigger)
    (binding : NewConversationBinding) (lookups : BindingLookups) (auditEventId : Uuid)
    (now : DateTime) (db : Database) :
    Except ErrorChain (Effect (Except ErrorChain Unit)) :=
  let execution := Execution.row now (acceptedExecution config trigger)
  match db.executionRecordViolation execution with
  | some constraint => .error ["failed to insert execution record", constraint]
  | none =>
    let started := { db with executionRecords := db.executionRecords ++ [execution] }
    match reconcileLookedUp lookups binding started with
    | .error e => .error e
    | .ok (written, bound) =>
      match insertIngressEvent
          { ingress := trigger.ingress
            conversationBindingId := some written.record.conversationBindingId
            traceId := trigger.traceId
            executionId := some trigger.executionId
            status := "accepted"
            rejectionReason := none } now bound with
      | .error e => .ok { value := .error e, db := db }
      | .ok stored =>
        let processing := setForegroundState trigger.ingress.ingressId (some trigger.executionId)
          "processing" now stored
        .ok
          { value := .ok ()
            db :=
              { processing with
                auditEvents := processing.auditEvents ++
                  [Audit.row auditEventId now (acceptanceEvent "foreground_trigger_accepted"
                    trigger.traceId (some trigger.executionId) trigger.ingress
                    [("budget", budgetPayload (Policy.defaultForegroundBudget config))]
                    written.action)] }
            events := [.executionStarted trigger.executionId,
              .bindingReconciled written.record.conversationBindingId,
              .ingressStored trigger.ingress.ingressId] }

/-- The accepting branch of `intake_telegram_foreground_trigger`. -/
def acceptForegroundTrigger (config : RuntimeConfig) (telegramConfig : ResolvedTelegramConfig)
    (ingress : NormalizedIngress) : Harness ForegroundTriggerIntakeOutcome := do
  let traceId ← newUuid
  let executionId ← newUuid
  let trigger ← buildForegroundTrigger config traceId executionId ingress
  let matching ← matchingConversationBinding telegramConfig ingress
  let binding ← expect "accepted Telegram ingress must match the configured conversation binding"
    matching
  let lookups ← lookUpBindings binding
  let auditEventId ← newUuid
  let committed ← transaction "failed to start accepted foreground trigger transaction"
    (commitAccepted config trigger binding lookups auditEventId)
  match committed with
  | .ok _ => pure (.accepted trigger)
  | .error error =>
    if isUniqueViolation error then do
      let existing ← findIngressEventByChannelEvent ingress.channelKind ingress.externalEventId
      match existing with
      | some existing => do
        let duplicate ← duplicateForegroundTriggerOutcome ingress existing
        pure (.duplicate duplicate)
      | none => .fail error
    else .fail error

/-- `intake_telegram_foreground_trigger`. -/
def intakeTelegramForegroundTrigger (config : RuntimeConfig)
    (telegramConfig : ResolvedTelegramConfig) (ingress : NormalizedIngress) :
    Harness ForegroundTriggerIntakeOutcome := do
  let existing ← findIngressEventByChannelEvent ingress.channelKind ingress.externalEventId
  match existing with
  | some existing => do
    let duplicate ← duplicateForegroundTriggerOutcome ingress existing
    pure (.duplicate duplicate)
  | none =>
    match Policy.evaluateTelegramForegroundTrigger telegramConfig ingress with
    | .denied reason => do
      let rejected ← rejectForegroundTrigger telegramConfig ingress reason
      pure (.rejected rejected)
    | .allowed => acceptForegroundTrigger config telegramConfig ingress

/-! ### What an accepted trigger leaves behind -/

/-- The execution of a trigger has started, and its ingress is being processed. -/
structure InProgress (trigger : ForegroundTrigger) (db : Database) : Prop where
  execution : ∃ row, Table.find ExecutionRecord.executionId trigger.executionId
    db.executionRecords = some row ∧ row.status = "started"
  ingress : ∃ row, Table.find IngressEventRecord.ingressId trigger.ingress.ingressId
    db.ingressEvents = some row ∧ row.foregroundStatus = "processing"

/-- An ingress that was inserted is found. -/
theorem find_insertIngressEvent {event : NewIngressEvent} {now : DateTime} {db db' : Database}
    (h : insertIngressEvent event now db = .ok db') :
    db' = { db with ingressEvents := db.ingressEvents ++ [ingressRow now event] } ∧
      Table.find IngressEventRecord.ingressId event.ingress.ingressId db'.ingressEvents =
        some (ingressRow now event) := by
  unfold insertIngressEvent at h
  split at h
  · cases h
  · next hvalid =>
    obtain rfl := Except.ok.inj h
    rw [Database.ingressEventViolation, Database.firstBroken_eq_none] at hvalid
    have hfresh := hvalid _ List.mem_cons_self
    rw [List.all_eq_true] at hfresh
    exact ⟨rfl, Table.find_append_self fun other hother => of_decide_eq_true (hfresh other hother)⟩

/-- An accepted trigger is stored with its execution in progress. -/
theorem commitAccepted_inProgress {config : RuntimeConfig} {trigger : ForegroundTrigger}
    {binding : NewConversationBinding} {lookups : BindingLookups} {auditEventId : Uuid}
    {now : DateTime} {db : Database} {effect : Effect (Except ErrorChain Unit)}
    (h : commitAccepted config trigger binding lookups auditEventId now db = .ok effect)
    (hok : effect.value = .ok ()) : InProgress trigger effect.db := by
  unfold commitAccepted at h
  dsimp only at h
  split at h
  · cases h
  · next hvalid =>
    have hfound : Table.find ExecutionRecord.executionId trigger.executionId
        (db.executionRecords ++ [Execution.row now (acceptedExecution config trigger)]) =
          some (Execution.row now (acceptedExecution config trigger)) := by
      rw [Database.executionRecordViolation, Database.firstBroken_eq_none] at hvalid
      have hfresh := hvalid _ List.mem_cons_self
      rw [List.all_eq_true] at hfresh
      have hnew : ∀ other ∈ db.executionRecords, ExecutionRecord.executionId other ≠
          ExecutionRecord.executionId (Execution.row now (acceptedExecution config trigger)) :=
        fun other hother => of_decide_eq_true (hfresh other hother)
      exact Table.find_append_self hnew
    split at h
    · cases h
    · next written bound hreconciled =>
      obtain ⟨bindings, events, rfl⟩ := reconcileFound_frame hreconciled
      split at h
      · obtain rfl := Except.ok.inj h
        cases hok
      · next stored hstored =>
        obtain rfl := Except.ok.inj h
        obtain ⟨rfl, hingress⟩ := find_insertIngressEvent hstored
        refine ⟨⟨_, hfound, rfl⟩, ?_⟩
        have hkey : ∀ row, (foregroundStateSet (some trigger.executionId) "processing" now
            row).ingressId = row.ingressId := fun _ => rfl
        refine ⟨_, (Table.find_update hkey _).trans (congrArg _ hingress), ?_⟩
        simp [ingressRow, foregroundStateSet]

section Accepted

variable {answers : Answers system} {w : World} {es : List Event}

/-- A trigger that is built carries what it was built from. -/
theorem buildForegroundTriggerWithKind_alone {config : RuntimeConfig} {traceId executionId : Uuid}
    {triggerKind : ForegroundTriggerKind} {ingress : NormalizedIngress} :
    (buildForegroundTriggerWithKind config traceId executionId triggerKind ingress).Alone answers
      (fun r w' _ => w'.db = w.db ∧ ∀ trigger, r = .ok trigger →
        trigger.ingress = ingress ∧ trigger.triggerKind = triggerKind ∧
          trigger.traceId = traceId ∧ trigger.executionId = executionId) w es := by
  unfold buildForegroundTriggerWithKind
  refine Prog.Alone.bind (R := fun _ w' _ => w'.db = w.db) (Prog.alone_ofExcept.mpr rfl) ?_
    (fun e w' es' h => ⟨h, fun _ h => by cases h⟩)
  intro _ w₁ es₁ hdb
  refine Prog.Alone.bind (R := fun _ w' _ => w'.db = w.db) (alone_newUuid fun _ _ => hdb) ?_
    (fun e w' es' h => ⟨h, fun _ h => by cases h⟩)
  intro triggerId w₂ es₂ hdb
  refine Prog.Alone.bind (R := fun _ w' _ => w'.db = w.db) (alone_utcNow fun _ _ => hdb) ?_
    (fun e w' es' h => ⟨h, fun _ h => by cases h⟩)
  intro receivedAt w₃ es₃ hdb
  refine ⟨hdb, fun trigger htrigger => ?_⟩
  obtain rfl := Except.ok.inj htrigger
  exact ⟨rfl, rfl, rfl, rfl⟩

/-- An ingress that is loaded is the one its row keeps. -/
theorem loadNormalizedIngress_alone {ingressId : Uuid} :
    (loadNormalizedIngress ingressId).Alone answers
      (fun r w' _ => w' = w ∧ ∀ ingress, r = .ok ingress →
        ∃ row, Table.find IngressEventRecord.ingressId ingressId w.db.ingressEvents = some row ∧
          normalizedIngress row = .ok ingress) w es := by
  unfold loadNormalizedIngress
  refine Prog.Alone.bind (R := fun r w' _ => w' = w ∧ ∀ row, r = .ok row →
      Table.find IngressEventRecord.ingressId ingressId w.db.ingressEvents = some row) ?_
    (fun row w' es' hrow => ?_) (fun e w' es' h => ⟨h.1, fun _ h => by cases h⟩)
  · refine alone_transaction (fun now effect hbody => ?_)
      (fun now e hbody => ⟨rfl, fun _ h => by cases h⟩) (fun e _ => ⟨rfl, fun _ h => by cases h⟩)
    split at hbody
    · next found hfound =>
      obtain rfl := Except.ok.inj hbody
      refine ⟨rfl, fun row hrow => ?_⟩
      obtain rfl := Except.ok.inj hrow
      exact hfound
    · cases hbody
  · obtain ⟨rfl, hfound⟩ := hrow
    exact Prog.alone_ofExcept.mpr ⟨rfl, fun ingress h => ⟨row, hfound row rfl, h⟩⟩

theorem normalizedIngress_ingressId {row : IngressEventRecord} {ingress : NormalizedIngress}
    (h : normalizedIngress row = .ok ingress) : ingress.ingressId = row.ingressId := by
  unfold normalizedIngress at h
  split at h
  · cases h
  · cases h
  · obtain rfl := Except.ok.inj h
    rfl

/-- An accepted trigger is in progress. -/
theorem intakeTelegramForegroundTrigger_accepted {config : RuntimeConfig}
    {telegramConfig : ResolvedTelegramConfig} {ingress : NormalizedIngress} :
    (intakeTelegramForegroundTrigger config telegramConfig ingress).Alone answers
      (fun r w' _ => ∀ trigger, r = .ok (.accepted trigger) →
        InProgress trigger w'.db ∧ trigger.ingress = ingress) w es := by
  have anything : ∀ {α : Type} (p : Harness α) (w : World) (es : List Event),
      p.Alone answers (fun _ _ _ => True) w es :=
    fun p w es => Prog.Alone.of_forall fun _ _ _ => trivial
  have duplicate : ∀ (existing : IngressEventRecord) (w : World) (es : List Event),
      ((duplicateForegroundTriggerOutcome ingress existing).bind fun duplicate =>
        Prog.ret (ForegroundTriggerIntakeOutcome.duplicate duplicate)).Alone answers
          (fun r w' _ => ∀ trigger, r = .ok (.accepted trigger) →
            InProgress trigger w'.db ∧ trigger.ingress = ingress) w es := by
    intro existing w es
    refine (anything _ w es).bind (fun duplicate w' es' _ trigger h => ?_)
      (fun e w' es' _ trigger h => by cases h)
    cases h
  unfold intakeTelegramForegroundTrigger
  refine (anything _ w es).bind (fun existing w₁ es₁ _ => ?_)
    (fun e w' es' _ trigger h => by cases h)
  cases existing with
  | some existing => exact duplicate existing w₁ es₁
  | none =>
    dsimp only
    split
    · refine (anything _ w₁ es₁).bind (fun rejected w' es' _ trigger h => ?_)
        (fun e w' es' _ trigger h => by cases h)
      cases h
    · unfold acceptForegroundTrigger
      refine (anything _ w₁ es₁).bind (fun traceId w₂ es₂ _ => ?_)
        (fun e w' es' _ trigger h => by cases h)
      refine (anything _ w₂ es₂).bind (fun executionId w₃ es₃ _ => ?_)
        (fun e w' es' _ trigger h => by cases h)
      refine Prog.Alone.bind buildForegroundTriggerWithKind_alone
        (fun trigger w₄ es₄ hbuilt => ?_) (fun e w' es' _ trigger h => by cases h)
      obtain ⟨hingress, -⟩ := hbuilt.2 trigger rfl
      refine (anything _ w₄ es₄).bind (fun matching w₅ es₅ _ => ?_)
        (fun e w' es' _ trigger h => by cases h)
      refine (anything _ w₅ es₅).bind (fun binding w₆ es₆ _ => ?_)
        (fun e w' es' _ trigger h => by cases h)
      refine (anything _ w₆ es₆).bind (fun lookups w₇ es₇ _ => ?_)
        (fun e w' es' _ trigger h => by cases h)
      refine (anything _ w₇ es₇).bind (fun auditEventId w₈ es₈ _ => ?_)
        (fun e w' es' _ trigger h => by cases h)
      refine Prog.Alone.bind (R := fun r w' _ => r = .ok (.ok ()) → InProgress trigger w'.db) ?_
        (fun committed w₉ es₉ hcommitted => ?_) (fun e w' es' _ trigger h => by cases h)
      · refine alone_transaction (fun now effect hbody hvalue => ?_)
          (fun now e hbody h => by cases h) (fun e _ h => by cases h)
        exact commitAccepted_inProgress hbody (Except.ok.inj hvalue)
      · cases committed with
        | ok _ =>
          intro accepted haccepted
          obtain rfl : trigger = accepted := by simpa using haccepted
          exact ⟨hcommitted rfl, hingress⟩
        | error error =>
          dsimp only
          split
          · refine (anything _ w₉ es₉).bind (fun existing w' es' _ => ?_)
              (fun e w' es' _ trigger h => by cases h)
            cases existing with
            | some existing => exact duplicate existing w' es'
            | none =>
              intro trigger h
              cases h
          · intro trigger h
            cases h

end Accepted

/-! ## Staging -/

/-- The transaction of `stage_telegram_foreground_ingress`. -/
def commitStaged (ingress : NormalizedIngress) (traceId : Uuid) (binding : NewConversationBinding)
    (lookups : BindingLookups) (auditEventId : Uuid) (now : DateTime) (db : Database) :
    Except ErrorChain (Effect Unit) :=
  match reconcileLookedUp lookups binding db with
  | .error e => .error e
  | .ok (written, bound) =>
    match insertIngressEvent
        { ingress := ingress
          conversationBindingId := some written.record.conversationBindingId
          traceId := traceId
          executionId := none
          status := "accepted"
          rejectionReason := none } now bound with
    | .error e => .error e
    | .ok stored =>
      .ok
        { value := ()
          db :=
            { stored with
              auditEvents := stored.auditEvents ++
                [Audit.row auditEventId now (acceptanceEvent "foreground_trigger_staged"
                  traceId none ingress [] written.action)] }
          events := [.bindingReconciled written.record.conversationBindingId,
            .ingressStored ingress.ingressId] }

/-- The accepting branch of `stage_telegram_foreground_ingress`. -/
def stageAccepted (telegramConfig : ResolvedTelegramConfig) (ingress : NormalizedIngress) :
    Harness StagedForegroundIngressOutcome := do
  let traceId ← newUuid
  let matching ← matchingConversationBinding telegramConfig ingress
  let binding ← expect "accepted Telegram ingress must match the configured conversation binding"
    matching
  let lookups ← lookUpBindings binding
  let auditEventId ← newUuid
  transaction "failed to start staged foreground ingress transaction"
    (commitStaged ingress traceId binding lookups auditEventId)
  pure (.accepted
    { ingressId := ingress.ingressId
      traceId := traceId
      internalConversationRef := ingress.internalConversationRef })

/-- `stage_telegram_foreground_ingress`. -/
def stageTelegramForegroundIngress (telegramConfig : ResolvedTelegramConfig)
    (ingress : NormalizedIngress) : Harness StagedForegroundIngressOutcome := do
  let existing ← findIngressEventByChannelEvent ingress.channelKind ingress.externalEventId
  match existing with
  | some existing => do
    let duplicate ← duplicateForegroundTriggerOutcome ingress existing
    pure (.duplicate duplicate)
  | none =>
    match Policy.evaluateTelegramForegroundTrigger telegramConfig ingress with
    | .denied reason => do
      let rejected ← rejectForegroundTrigger telegramConfig ingress reason
      pure (.rejected rejected)
    | .allowed => stageAccepted telegramConfig ingress

end Foreground

end BlueLagoon
