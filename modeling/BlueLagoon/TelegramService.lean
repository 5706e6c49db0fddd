import BlueLagoon.Interleaving.OffsetLog
import BlueLagoon.StrandedExecutions

/-!
# The Telegram service

The service fetches updates and processes them, one batch after the other. It asks for the next
batch with an offset past the last one, which confirms that batch; after an error it ends, and
the next one starts without an offset. Telegram keeps what is not confirmed.
-/

namespace BlueLagoon

open Interleaving Harness Foreground

/-- Where the service stands: `ReqwestTelegramSource` keeps the offset of the next request. -/
inductive TelegramService
  | stopped
  | polling (nextOffset : Option Int)
  | processing (nextOffset : Option Int) (rest : Harness TelegramProcessingSummary)

/-- Telegram, the world of the harness, and the service between them. -/
structure TelegramSystem where
  server : OffsetLog.Log TelegramUpdate := {}
  world : World
  service : TelegramService := .stopped

namespace Runtime

/-- The update normalises to `Accepted`. -/
def Accepts (context : TelegramProcessingContext) (update : TelegramUpdate) : Prop :=
  ∃ ingressId ingress, Ingress.normalizedAs context.telegramConfig update context.rawPayloadRef
    ingressId = .accepted ingress

/-- The update is stored as an ingress event. -/
def UpdateStored (update : TelegramUpdate) (db : Database) : Prop :=
  Stored .telegram (toString update.updateId) db

/-- Every stored event stays stored. -/
def KeepsStored (db db' : Database) : Prop :=
  ∀ channelKind externalEventId, Stored channelKind externalEventId db →
    Stored channelKind externalEventId db'

variable [GovernedActionServices]

/-- A step of the system. New updates have larger identifiers than those before them. A request
for updates confirms those below its offset; its answer holds the first of the others, up to the
limit, and may get lost. While the service processes a batch it takes one step after the other;
any other process may change the world, but none deletes an ingress event. The service may stop
at any time. -/
inductive TelegramStep (context : TelegramProcessingContext) (answers : Answers system) :
    TelegramSystem → TelegramSystem → Prop
  | arrive (s : TelegramSystem) (update : TelegramUpdate)
      (h : ∀ earlier ∈ s.server.arrived, earlier.updateId < update.updateId) :
      TelegramStep context answers s
        { s with server := { s.server with arrived := s.server.arrived ++ [update] } }
  | start (s : TelegramSystem) (h : s.service = .stopped) :
      TelegramStep context answers s { s with service := .polling none }
  | fetch (s : TelegramSystem) (nextOffset : Option Int) (updates : List TelegramUpdate)
      (h : s.service = .polling nextOffset)
      (hupdates : updates <+: (s.server.confirm nextOffset).pending TelegramUpdate.updateId) :
      TelegramStep context answers s
        { s with
          server := s.server.confirm nextOffset
          service := .processing
            (OffsetLog.nextOffset TelegramUpdate.updateId updates nextOffset)
            (processTelegramUpdates context updates) }
  | fetchFailed (s : TelegramSystem) (nextOffset : Option Int) (h : s.service = .polling nextOffset) :
      TelegramStep context answers s
        { s with server := s.server.confirm nextOffset, service := .stopped }
  | action (s : TelegramSystem) (nextOffset : Option Int) (act : World → World × List Event)
      (next : World → Harness TelegramProcessingSummary)
      (h : s.service = .processing nextOffset (.atomic act next)) :
      TelegramStep context answers s
        { s with
          world := (act s.world).1
          service := .processing nextOffset (next s.world) }
  | answer (s : TelegramSystem) (nextOffset : Option Int) (q : Query)
      (next : Query.Answer q → Harness TelegramProcessingSummary) (r : Query.Answer q)
      (given : answers q r) (h : s.service = .processing nextOffset (.ask q next)) :
      TelegramStep context answers s { s with service := .processing nextOffset (next r) }
  | finish (s : TelegramSystem) (nextOffset : Option Int) (summary : TelegramProcessingSummary)
      (h : s.service = .processing nextOffset (.ret summary)) :
      TelegramStep context answers s { s with service := .polling nextOffset }
  | fail (s : TelegramSystem) (nextOffset : Option Int) (error : ErrorChain)
      (h : s.service = .processing nextOffset (.fail error)) :
      TelegramStep context answers s { s with service := .stopped }
  | stop (s : TelegramSystem) : TelegramStep context answers s { s with service := .stopped }
  | others (s : TelegramSystem) (world : World) (h : KeepsStored s.world.db world.db) :
      TelegramStep context answers s { s with world := world }

/-! ## What a batch leaves in the store -/

section Stores

variable {answers : Answers system} {v w : Shared system Unit} {J : Database → Prop}

omit [GovernedActionServices]

/-- Nobody deletes an ingress event. -/
def storeProtocol (answers : Answers system) : Protocol system Unit where
  answers := answers
  Inv := fun _ => True
  Rely := fun _ v w => KeepsStored v.state.db w.state.db
  rely_refl := fun _ _ _ _ h => h
  rely_trans := fun _ _ _ _ huv hvw channelKind externalEventId h =>
    hvw channelKind externalEventId (huv channelKind externalEventId h)

/-- Where a program ends with a value, `R` holds of it. -/
def Then {α : Type} (R : α → Database → Prop) : Protocol.Post system Unit α :=
  fun r w => ∀ a, r = .ok a → R a w.state.db

theorem then_bind {α β : Type} {R : α → Database → Prop} {Q : β → Database → Prop}
    {p : Harness α} {f : α → Harness β} (hp : (storeProtocol answers).wp () p (Then R) v)
    (hf : ∀ a w, R a w.state.db → (storeProtocol answers).wp () (f a) (Then Q) w) :
    (storeProtocol answers).wp () (p.bind f) (Then Q) v := by
  refine Protocol.wp_seq hp (fun a w hR => hf a w (hR a rfl)) fun e w _ a ha => ?_
  cases ha

/-- What no deletion can break, no foreground step breaks. -/
theorem then_any {α : Type} {p : Harness α} (hp : p.Confined (OnDb AnyStep))
    (hJ : ∀ db db', KeepsStored db db' → J db → J db') (hv : J v.state.db) :
    (storeProtocol answers).wp () p (Then fun _ => J) v := by
  have hkept : (storeProtocol answers).wp () p
      (fun _ w => KeepsStored v.state.db w.state.db) v := by
    refine Protocol.wp_of_confined hp (T := fun v w : Shared system Unit => KeepsStored v.state.db w.state.db)
      (fun _ _ _ h => h)
      (fun _ _ _ huv hvw channelKind externalEventId h =>
        hvw channelKind externalEventId (huv channelKind externalEventId h))
      (fun _ _ _ hrely => hrely) ?_ v
    exact fun w s es _ hstep => ⟨⟨trivial, fun j hj => absurd rfl hj⟩, hstep.1.stored⟩
  exact Protocol.wp_mono (fun r w hw a _ => hJ _ _ hw hv) hkept

/-- What is stored stays stored. -/
theorem then_stored {α : Type} {p : Harness α} {channelKind : ChannelKind}
    {externalEventId : String} (hp : p.Confined (OnDb AnyStep))
    (hv : Stored channelKind externalEventId v.state.db) :
    (storeProtocol answers).wp () p (Then fun _ => Stored channelKind externalEventId) v :=
  then_any hp (fun _ _ h hstored => h _ _ hstored) hv

/-- Nothing is asked of the store. -/
theorem then_true {α : Type} {p : Harness α} (hp : p.Confined (OnDb AnyStep)) :
    (storeProtocol answers).wp () p (Then fun _ _ => True) v :=
  then_any hp (fun _ _ _ h => h) trivial

/-- A transaction that commits leaves what `R` says. -/
theorem then_transaction {α : Type} {R : α → Database → Prop} {message : String}
    {body : DateTime → Database → Except ErrorChain (Effect α)}
    (h : ∀ now db effect, body now db = .ok effect → R effect.value effect.db) :
    (storeProtocol answers).wp () (transaction message body) (Then R) v := by
  refine wp_transaction (fun w now effect _ _ hbody => ?_) fun w e _ a ha => by cases ha
  refine ⟨⟨trivial, fun j hj => absurd rfl hj⟩, fun a ha => ?_⟩
  obtain rfl := Except.ok.inj ha
  exact h now _ effect hbody

theorem findIngressEventByChannelEvent_then (channelKind : ChannelKind)
    (externalEventId : String) :
    (storeProtocol answers).wp () (findIngressEventByChannelEvent channelKind externalEventId)
      (Then fun found db => found.isSome → Stored channelKind externalEventId db) v := by
  refine then_transaction fun now db effect hbody hsome => ?_
  obtain rfl := Except.ok.inj hbody
  obtain ⟨row, hrow⟩ := Option.isSome_iff_exists.mp hsome
  have hkey := List.find?_some hrow
  rw [Bool.and_eq_true] at hkey
  exact ⟨row, List.mem_of_find?_eq_some hrow, of_decide_eq_true hkey.1, of_decide_eq_true hkey.2⟩

/-- A delivery that policy denies is stored. -/
theorem rejectForegroundTrigger_then (config : ResolvedTelegramConfig)
    (ingress : NormalizedIngress) (reason : String) :
    (storeProtocol answers).wp () (rejectForegroundTrigger config ingress reason)
      (Then fun _ => Stored ingress.channelKind ingress.externalEventId) v := by
  refine then_bind (then_true (confined_newUuid .refl)) fun traceId w _ => ?_
  refine then_bind (then_true
    (confined_quiet_any (maybeUpsertMatchingConversationBinding_quiet _ _))) fun binding w _ => ?_
  refine then_bind (R := fun _ => Stored ingress.channelKind ingress.externalEventId) ?_
    fun _ w hw => ?_
  · refine then_transaction fun now db effect hbody => ?_
    split at hbody
    · cases hbody
    · next stored hstored =>
      obtain rfl := Except.ok.inj hbody
      obtain ⟨rfl, -⟩ := insertIngressEvent_eq_ok hstored
      exact ⟨_, List.mem_append_right _ (List.mem_singleton.mpr rfl), rfl, rfl⟩
  · refine then_stored ?_ hw
    refine Prog.Confined.bind (confined_execute .refl ?_) fun _ => ?_
    · intro now db effect hbody
      obtain rfl := Except.ok.inj hbody
      exact (setForegroundState_later _ _ _ _ _).mono fun _ _ => trivial
    · exact Prog.Confined.bind (Audit.insert_confined ForegroundStep.of_audit _) fun _ =>
        Prog.confined_ret _

/-- A duplicate is stored already. -/
theorem duplicate_then {α : Type} {ingress : NormalizedIngress} {existing : IngressEventRecord}
    {f : DuplicateForegroundTrigger → α}
    (hv : Stored ingress.channelKind ingress.externalEventId v.state.db) :
    (storeProtocol answers).wp ()
      ((duplicateForegroundTriggerOutcome ingress existing).bind fun duplicate =>
        .ret (f duplicate))
      (Then fun _ => Stored ingress.channelKind ingress.externalEventId) v :=
  then_stored (Prog.Confined.bind (confined_quiet_any
    (duplicateForegroundTriggerOutcome_quiet _ _)) fun _ => Prog.confined_ret _) hv

/-- A delivery that is staged, in whichever way, is stored. -/
theorem stageTelegramForegroundIngress_then (telegramConfig : ResolvedTelegramConfig)
    (ingress : NormalizedIngress) :
    (storeProtocol answers).wp () (stageTelegramForegroundIngress telegramConfig ingress)
      (Then fun _ => Stored ingress.channelKind ingress.externalEventId) v := by
  refine then_bind (findIngressEventByChannelEvent_then _ _) fun existing w hw => ?_
  cases existing with
  | some existing => exact duplicate_then (hw rfl)
  | none =>
    dsimp only
    split
    · refine then_bind (rejectForegroundTrigger_then _ _ _) fun rejected w hw a ha => ?_
      exact hw
    · refine then_bind (then_true (confined_newUuid .refl)) fun traceId w _ => ?_
      refine then_bind (then_true (confined_quiet_any (matchingConversationBinding_quiet _ _)))
        fun matching w _ => ?_
      refine then_bind (then_true (confined_expect _)) fun binding w _ => ?_
      refine then_bind (then_true (confined_quiet_any (lookUpBindings_quiet _)))
        fun lookups w _ => ?_
      refine then_bind (then_true (confined_newUuid .refl)) fun auditEventId w _ => ?_
      refine then_bind (R := fun _ => Stored ingress.channelKind ingress.externalEventId)
        (then_transaction fun now db effect hbody => ?_) fun _ w hw a ha => ?_
      · exact (commitStaged_eq_ok hbody).2
      · exact hw

/-- An ingress whose trigger was accepted is stored, by this call or before. -/
theorem acceptForegroundTrigger_then (config : RuntimeConfig)
    (telegramConfig : ResolvedTelegramConfig) (ingress : NormalizedIngress) :
    (storeProtocol answers).wp () (acceptForegroundTrigger config telegramConfig ingress)
      (Then fun _ => Stored ingress.channelKind ingress.externalEventId) v := by
  refine then_bind (then_true (confined_newUuid .refl)) fun traceId w _ => ?_
  refine then_bind (then_true (confined_newUuid .refl)) fun executionId w _ => ?_
  refine then_bind (R := fun trigger _ => trigger.ingress = ingress) ?_ fun trigger w htrigger => ?_
  · refine Protocol.wp_mono (fun r w hw a ha => (hw.1 a ha).2) (Protocol.wp_returns
      (buildForegroundTriggerWithKind_returns _ _ _ _ _)
      (then_true (confined_quiet_any
        (Orchestration.buildForegroundTriggerWithKind_quiet _ _ _ _ _))))
  refine then_bind (then_true (confined_quiet_any (matchingConversationBinding_quiet _ _)))
    fun matching w _ => ?_
  refine then_bind (then_true (confined_expect _)) fun binding w _ => ?_
  refine then_bind (then_true (confined_quiet_any (lookUpBindings_quiet _))) fun lookups w _ => ?_
  refine then_bind (then_true (confined_newUuid .refl)) fun auditEventId w _ => ?_
  refine then_bind (R := fun committed db => committed = .ok () →
    Stored ingress.channelKind ingress.externalEventId db) ?_ fun committed w hw => ?_
  · refine then_transaction fun now db effect hbody hok => ?_
    rcases commitAccepted_eq_ok hbody with ⟨error, hvalue, -⟩ | ⟨-, haccepted⟩
    · rw [hvalue] at hok
      cases hok
    · rw [← htrigger]
      exact haccepted.stored
  · cases committed with
    | ok _ => exact fun a _ => hw rfl
    | error error =>
      dsimp only
      split
      · refine then_bind (findIngressEventByChannelEvent_then _ _) fun existing w hw => ?_
        cases existing with
        | some existing => exact duplicate_then (hw rfl)
        | none =>
          intro a ha
          cases ha
      · intro a ha
        cases ha

theorem intakeTelegramForegroundTrigger_then (config : RuntimeConfig)
    (telegramConfig : ResolvedTelegramConfig) (ingress : NormalizedIngress) :
    (storeProtocol answers).wp ()
      (intakeTelegramForegroundTrigger config telegramConfig ingress)
      (Then fun _ => Stored ingress.channelKind ingress.externalEventId) v := by
  refine then_bind (findIngressEventByChannelEvent_then _ _) fun existing w hw => ?_
  cases existing with
  | some existing => exact duplicate_then (hw rfl)
  | none =>
    dsimp only
    split
    · refine then_bind (rejectForegroundTrigger_then _ _ _) fun rejected w hw a ha => ?_
      exact hw
    · exact acceptForegroundTrigger_then _ _ _

end Stores

/-! ## Batches -/

section Batches

variable {answers : Answers system} {v : Shared system Unit}

omit [GovernedActionServices] in
/-- Whether an update is accepted does not depend on the identifier that it gets. -/
theorem normalizedAs_accepted {config : ResolvedTelegramConfig} {update : TelegramUpdate}
    {rawPayloadRef : Option String} {ingressId : Uuid} {ingress : NormalizedIngress}
    (h : Ingress.normalizedAs config update rawPayloadRef ingressId = .accepted ingress)
    (other : Uuid) :
    ∃ ingress', Ingress.normalizedAs config update rawPayloadRef other = .accepted ingress' := by
  refine ⟨{ ingress with ingressId := other }, ?_⟩
  unfold Ingress.normalizedAs at h ⊢
  -- every check of a message or a callback is passed again, as none of them looks at the identifier
  cases hmessage : update.message with
  | some message =>
    rw [hmessage] at h
    unfold Ingress.normalizeMessageUpdate Ingress.reject at h
    unfold Ingress.normalizeMessageUpdate
    dsimp only at h ⊢
    split at h
    · cases h
    · next hprivate =>
      rw [if_neg hprivate]
      cases hsender : message.sender with
      | none =>
        rw [hsender] at h
        cases h
      | some actor =>
        rw [hsender] at h
        dsimp only at h ⊢
        split at h
        · cases h
        · split at h
          · cases h
          · split at h
            · cases h
            · next hbot huser hchat =>
              rw [if_neg hbot, if_neg huser, if_neg hchat]
              cases hdate : Chrono.timestampOpt message.date with
              | none =>
                rw [hdate] at h
                cases h
              | some occurredAt =>
                rw [hdate] at h
                obtain rfl := TelegramNormalizationOutcome.accepted.inj h
                rfl
  | none =>
    rw [hmessage] at h
    cases hcallback : update.callbackQuery with
    | none =>
      rw [hcallback] at h
      cases h
    | some callback =>
      rw [hcallback] at h
      unfold Ingress.normalizeCallbackUpdate Ingress.reject at h
      unfold Ingress.normalizeCallbackUpdate
      dsimp only at h ⊢
      cases hsent : callback.message with
      | none =>
        rw [hsent] at h
        cases h
      | some message =>
        rw [hsent] at h
        dsimp only at h ⊢
        split at h
        · cases h
        · split at h
          · cases h
          · split at h
            · cases h
            · split at h
              · cases h
              · next hprivate hbot huser hchat =>
                rw [if_neg hprivate, if_neg hbot, if_neg huser, if_neg hchat]
                cases hdate : Chrono.timestampOpt message.date with
                | none =>
                  rw [hdate] at h
                  cases h
                | some occurredAt =>
                  rw [hdate] at h
                  obtain rfl := TelegramNormalizationOutcome.accepted.inj h
                  rfl

/-- An accepted update that was taken in is stored. -/
theorem takeUpdate_then {context : TelegramProcessingContext} (progress : TelegramIntakeProgress)
    {update : TelegramUpdate} (haccepts : Accepts context update) :
    (storeProtocol answers).wp () (takeUpdate context progress update)
      (Then fun _ => UpdateStored update) v := by
  refine then_bind (R := fun normalization _ => ∃ ingress, normalization = .accepted ingress ∧
    ingress.channelKind = .telegram ∧ ingress.externalEventId = toString update.updateId) ?_
    fun normalization w hw => ?_
  · refine then_bind (then_true (confined_newUuid .refl)) fun ingressId w _ a ha => ?_
    obtain rfl := Except.ok.inj ha
    obtain ⟨other, ingress, hnormalized⟩ := haccepts
    obtain ⟨ingress', hnormalized'⟩ := normalizedAs_accepted hnormalized ingressId
    obtain ⟨hconfigured, -⟩ := Ingress.normalizedAs_eq_accepted hnormalized'
    exact ⟨ingress', hnormalized', hconfigured.channel, hconfigured.event⟩
  · obtain ⟨ingress, rfl, hchannel, hevent⟩ := hw
    have hstored : ∀ db, Stored ingress.channelKind ingress.externalEventId db →
        UpdateStored update db := by
      intro db hdb
      rw [hchannel, hevent] at hdb
      exact hdb
    dsimp only
    split
    · refine then_bind (R := fun _ => UpdateStored update) ?_ fun outcome w hw a _ => hw
      refine then_bind (intakeTelegramForegroundTrigger_then _ _ _) fun intake w hw => ?_
      cases intake with
      | duplicate duplicate => exact fun a _ => hstored _ hw
      | rejected rejected => exact fun a _ => hstored _ hw
      | accepted trigger =>
        exact then_stored (confined_any (Orchestration.orchestrateTrigger_later _ _ _ _))
          (hstored _ hw)
    · refine then_bind (stageTelegramForegroundIngress_then _ _) fun staged w hw => ?_
      cases staged with
      | accepted staged => exact fun a _ => hstored _ hw
      | duplicate duplicate => exact fun a _ => hstored _ hw
      | rejected rejected => exact fun a _ => hstored _ hw

/-- The accepted updates among the given ones are stored. -/
def BatchStored (context : TelegramProcessingContext) (updates : List TelegramUpdate)
    (db : Database) : Prop :=
  ∀ update ∈ updates, Accepts context update → UpdateStored update db

omit [GovernedActionServices] in
theorem BatchStored.kept {context : TelegramProcessingContext} {updates : List TelegramUpdate}
    {db db' : Database} (hkept : KeepsStored db db') (h : BatchStored context updates db) :
    BatchStored context updates db' :=
  fun update hupdate haccepts => hkept _ _ (h update hupdate haccepts)

/-- By induction on the batch: what was taken is stored, and stays so. -/
theorem takeUpdates_then {context : TelegramProcessingContext} (taken updates : List TelegramUpdate)
    (progress : TelegramIntakeProgress) (hv : BatchStored context taken v.state.db) :
    (storeProtocol answers).wp () (.foldlM (takeUpdate context) progress updates)
      (Then fun _ => BatchStored context (taken ++ updates)) v := by
  induction updates generalizing taken progress v with
  | nil =>
    rw [List.append_nil]
    exact fun a _ => hv
  | cons update updates ih =>
    refine then_bind (R := fun _ => BatchStored context (taken ++ [update])) ?_
      fun progress w hw => ?_
    · have hothers : (storeProtocol answers).wp () (takeUpdate context progress update)
          (Then fun _ => BatchStored context taken) v :=
        then_any (takeUpdate_any _ _ _) (fun _ _ => BatchStored.kept) hv
      by_cases haccepts : Accepts context update
      · refine Protocol.wp_mono (fun r w hw a ha other hother hwanted => ?_)
          (Protocol.wp_and hothers (takeUpdate_then progress haccepts))
        rcases List.mem_append.mp hother with hold | hnew
        · exact hw.1 a ha other hold hwanted
        · obtain rfl := List.mem_singleton.mp hnew
          exact hw.2 a ha
      · refine Protocol.wp_mono (fun r w hw a ha other hother hwanted => ?_) hothers
        rcases List.mem_append.mp hother with hold | hnew
        · exact hw a ha other hold hwanted
        · obtain rfl := List.mem_singleton.mp hnew
          exact absurd hwanted haccepts
    · have hrest := ih (v := w) (taken ++ [update]) progress hw
      rw [List.append_assoc] at hrest
      exact hrest

/-- A batch that was processed without an error is stored. -/
theorem processTelegramUpdates_then (context : TelegramProcessingContext)
    (updates : List TelegramUpdate) :
    (storeProtocol answers).wp () (processTelegramUpdates context updates)
      (Then fun _ => BatchStored context updates) v := by
  have hnone : BatchStored context [] v.state.db := fun update hupdate => by cases hupdate
  refine then_bind (takeUpdates_then [] updates _ hnone) fun progress w hw => ?_
  refine then_any ?_ (fun _ _ => BatchStored.kept) hw
  refine Prog.Confined.bind (Prog.Confined.bind (confined_utcNow .refl) fun _ =>
    confined_fetch .refl) fun recoverable => ?_
  exact Prog.Confined.foldlM (fun _ _ => processConversation_any _ _ _ _ _) _ _

end Batches

/-! ## The service reads a log -/

section Service

variable {context : TelegramProcessingContext} {answers : Answers system} {s s' : TelegramSystem}
  {a : OffsetLog.State TelegramUpdate}

omit [GovernedActionServices] in
/-- What is left of the processing of a batch: where it ends well, the batch is stored. -/
structure Serves (context : TelegramProcessingContext) (answers : Answers system)
    (batch : List TelegramUpdate) (rest : Harness TelegramProcessingSummary) (db : Database) :
    Prop where
  steps : rest.Confined (OnDb AnyStep)
  stores : ∃ v : Shared system Unit, KeepsStored v.state.db db ∧
    (storeProtocol answers).wp () rest (Then fun _ => BatchStored context batch) v

/-- The service stands where the reader of a log stands. -/
def RepresentsPhase (context : TelegramProcessingContext) (answers : Answers system)
    (db : Database) : TelegramService → OffsetLog.Phase TelegramUpdate → Prop
  | .stopped, .down => True
  | .polling nextOffset, .polling offset => nextOffset = offset
  | .processing nextOffset rest, .handling offset batch =>
    nextOffset = offset ∧ Serves context answers batch rest db
  | _, _ => False

/-- The service is the reader of a log whose entries are handled once they are stored. -/
structure Represents (context : TelegramProcessingContext) (answers : Answers system)
    (s : TelegramSystem) (a : OffsetLog.State TelegramUpdate) : Prop where
  log : a.log = s.server
  handled : a.handled = { update | UpdateStored update s.world.db }
  phase : RepresentsPhase context answers s.world.db s.service a.phase

/-- A step of the log and its reader, or none. -/
abbrev ReaderStep (context : TelegramProcessingContext) :
    OffsetLog.State TelegramUpdate → OffsetLog.State TelegramUpdate → Prop :=
  Relation.ReflTransGen (OffsetLog.Step TelegramUpdate.updateId (Accepts context))

omit [GovernedActionServices] in
theorem RepresentsPhase.polling {nextOffset : Option Int} {db : Database}
    {phase : OffsetLog.Phase TelegramUpdate}
    (h : RepresentsPhase context answers db (.polling nextOffset) phase) :
    phase = .polling nextOffset := by
  cases phase with
  | down => exact h.elim
  | polling offset => exact congrArg OffsetLog.Phase.polling (Eq.symm h)
  | handling offset batch => exact h.elim

omit [GovernedActionServices] in
theorem RepresentsPhase.processing {nextOffset : Option Int} {db : Database}
    {rest : Harness TelegramProcessingSummary} {phase : OffsetLog.Phase TelegramUpdate}
    (h : RepresentsPhase context answers db (.processing nextOffset rest) phase) :
    ∃ batch, phase = .handling nextOffset batch ∧ Serves context answers batch rest db := by
  cases phase with
  | down => exact h.elim
  | polling offset => exact h.elim
  | handling offset batch =>
    obtain ⟨rfl, hserves⟩ := h
    exact ⟨batch, rfl, hserves⟩

omit [GovernedActionServices] in
/-- What others change does not disturb the service. -/
theorem RepresentsPhase.kept {db db' : Database} {service : TelegramService}
    {phase : OffsetLog.Phase TelegramUpdate} (hkept : KeepsStored db db')
    (h : RepresentsPhase context answers db service phase) :
    RepresentsPhase context answers db' service phase := by
  cases service with
  | stopped => cases phase <;> exact h
  | polling nextOffset => cases phase <;> exact h
  | processing nextOffset rest =>
    obtain ⟨batch, rfl, hsteps, v, hv, hwp⟩ := h.processing
    exact ⟨rfl, hsteps, v, fun k e hstored => hkept k e (hv k e hstored), hwp⟩

/-- Every step of the service is one of the reader, or one that the reader does not notice. -/
theorem Represents.step (h : Represents context answers s a)
    (step : TelegramStep context answers s s') :
    ∃ a', ReaderStep context a a' ∧ Represents context answers s' a' := by
  obtain ⟨log, phase, handled⟩ := a
  obtain ⟨rfl, rfl, hphase⟩ := h
  dsimp only at hphase
  cases step with
  | arrive update hnew =>
    exact ⟨_, .single (.arrive _ update hnew), rfl, rfl, hphase⟩
  | start hstopped =>
    rw [hstopped] at hphase
    cases phase with
    | down => exact ⟨_, .single (.start _ rfl), rfl, rfl, rfl⟩
    | polling offset => exact hphase.elim
    | handling offset batch => exact hphase.elim
  | fetch nextOffset updates hpolling hupdates =>
    rw [hpolling] at hphase
    obtain rfl := hphase.polling
    refine ⟨_, .single (.poll _ nextOffset updates rfl hupdates), rfl, rfl, rfl, ?_, ?_⟩
    · exact processTelegramUpdates_any context updates
    · exact ⟨{ state := s.world }, fun _ _ h => h, processTelegramUpdates_then context updates⟩
  | fetchFailed nextOffset hpolling =>
    rw [hpolling] at hphase
    obtain rfl := hphase.polling
    exact ⟨_, .single (.lose _ nextOffset rfl), rfl, rfl, trivial⟩
  | action nextOffset act next hprocessing =>
    rw [hprocessing] at hphase
    obtain ⟨batch, rfl, hsteps, v, hv, hwp⟩ := hphase.processing
    obtain ⟨hact, hnext⟩ := hsteps s.world
    have hwp' := (hwp { v with state := s.world } trivial hv).2
    refine ⟨_, .single (.handle _ { update | UpdateStored update (act s.world).1.db } ?_), rfl,
      rfl, rfl, hnext, _, fun _ _ h => h, hwp'⟩
    exact fun update hstored => hact.1.stored _ _ hstored
  | answer nextOffset q next r given hprocessing =>
    rw [hprocessing] at hphase
    obtain ⟨batch, rfl, hsteps, v, hv, hwp⟩ := hphase.processing
    exact ⟨_, .refl, rfl, rfl, rfl, hsteps r, v, hv, hwp r given⟩
  | finish nextOffset summary hprocessing =>
    rw [hprocessing] at hphase
    obtain ⟨batch, rfl, -, v, hv, hwp⟩ := hphase.processing
    have hstored : BatchStored context batch s.world.db :=
      BatchStored.kept hv (hwp summary rfl)
    exact ⟨_, .single (.finish _ nextOffset batch rfl hstored), rfl, rfl, rfl⟩
  | fail nextOffset error hprocessing =>
    exact ⟨_, .single (.stop _), rfl, rfl, trivial⟩
  | stop => exact ⟨_, .single (.stop _), rfl, rfl, trivial⟩
  | others world hkept =>
    refine ⟨_, .single (.handle _ { update | UpdateStored update world.db } ?_), rfl, rfl,
      RepresentsPhase.kept hkept hphase⟩
    exact fun update hstored => hkept _ _ hstored

/-- Whatever happens, an accepted update that is confirmed is stored: one that is not is handed
out again. -/
theorem confirmed_updates_stored (context : TelegramProcessingContext) (answers : Answers system)
    (start : World) (s : TelegramSystem)
    (reach : Relation.ReflTransGen (TelegramStep context answers) { world := start } s) :
    ∀ update ∈ s.server.arrived, Accepts context update →
      update ∈ s.server.pending TelegramUpdate.updateId ∨ UpdateStored update s.world.db := by
  have hrun : ∃ a, OffsetLog.Reachable TelegramUpdate.updateId (Accepts context) a ∧
      Represents context answers s a := by
    induction reach with
    | refl =>
      exact ⟨_, ⟨{ update | UpdateStored update start.db }, .refl⟩, rfl, rfl, trivial⟩
    | tail _ step ih =>
      obtain ⟨a, ⟨handled, hreader⟩, hrepresents⟩ := ih
      obtain ⟨a', hsteps, hrepresents'⟩ := hrepresents.step step
      exact ⟨a', ⟨handled, hreader.trans hsteps⟩, hrepresents'⟩
  obtain ⟨a, hreachable, hrepresents⟩ := hrun
  intro update hupdate haccepts
  by_cases hconfirmed : OffsetLog.Below s.server.confirmed update.updateId
  · right
    have hsafe := hreachable.handled
    unfold OffsetLog.SafeBelow at hsafe
    rw [hrepresents.log, hrepresents.handled] at hsafe
    exact hsafe update hupdate haccepts hconfirmed
  · left
    exact List.mem_filter.mpr ⟨hupdate, decide_eq_true hconfirmed⟩

/-! ### An update that is confirmed -/

/-- The service processes its batch to the end. -/
theorem processing_run {o : Oracle system} (ho : ∀ n q, answers q (o n q))
    {nextOffset : Option Int} (rest : Harness TelegramProcessingSummary) (n : Nat)
    (s : TelegramSystem) (h : s.service = .processing nextOffset rest) :
    Relation.ReflTransGen (TelegramStep context answers) s
      { s with
        world := (rest.run o n s.world).state
        service := .processing nextOffset (.ofExcept (rest.run o n s.world).result) } := by
  induction rest generalizing n s with
  | ret summary =>
    obtain ⟨server, world, service⟩ := s
    obtain rfl := h
    exact .refl
  | fail error =>
    obtain ⟨server, world, service⟩ := s
    obtain rfl := h
    exact .refl
  | atomic act next ih =>
    exact .head (.action s nextOffset act next h) (ih s.world n _ rfl)
  | ask q next ih =>
    exact .head (.answer s nextOffset q next (o n q) (ho n q) h) (ih (o n q) (n + 1) _ rfl)

def hundredth : TelegramUpdate where
  updateId := 100
  message := some
    { messageId := 5
      date := 1700000000
      chat := { id := 42, kind := .privateChat }
      sender := some { id := 42, isBot := false }
      text := some "hello" }
  callbackQuery := none

omit [GovernedActionServices] in
/-- The service stages the hundredth update and processes it, and confirms it with its next
request. -/
theorem confirmed_updates_stored_hundredth :
    letI := GovernedActions.plainServices
    ∃ s, Relation.ReflTransGen (TelegramStep crashedContext fun _ _ => True) { world := {} } s ∧
      s.server.pending TelegramUpdate.updateId = [] ∧ UpdateStored hundredth s.world.db := by
  let _services := GovernedActions.plainServices
  let arrived : TelegramSystem := { server := { arrived := [hundredth] }, world := {} }
  let polling : TelegramSystem := { arrived with service := .polling none }
  let processing : TelegramSystem :=
    { polling with
      service := .processing (some 101) (processTelegramUpdates crashedContext [hundredth]) }
  -- The batch is processed by the time of the next request.
  let world := ((processTelegramUpdates crashedContext [hundredth]).run (steady crashedNow) 0
    {}).state
  let processed : TelegramSystem :=
    { processing with
      world := world
      service := .processing (some 101) (.ret { fetchedUpdates := 1, completedCount := 1 }) }
  let pollingAgain : TelegramSystem := { processed with service := .polling (some 101) }
  let confirmed : TelegramSystem :=
    { pollingAgain with
      server := { arrived := [hundredth], confirmed := some 101 }
      service := .processing (some 101) (processTelegramUpdates crashedContext []) }
  have harrived : TelegramStep crashedContext (fun _ _ => True) { world := {} } arrived :=
    .arrive _ hundredth fun earlier hearlier => by cases hearlier
  have hstarted : TelegramStep crashedContext (fun _ _ => True) arrived polling :=
    .start arrived rfl
  have hfetched : TelegramStep crashedContext (fun _ _ => True) polling processing :=
    .fetch polling none [hundredth] rfl (by decide)
  have hrun : Relation.ReflTransGen (TelegramStep crashedContext fun _ _ => True) processing
      processed := by
    have hresult : ((processTelegramUpdates crashedContext [hundredth]).run (steady crashedNow) 0
        {}).result = .ok { fetchedUpdates := 1, completedCount := 1 } := by
      decide +kernel
    have hsteps := @processing_run _ crashedContext (fun _ _ => True) (steady crashedNow)
      (fun _ _ => trivial) _ (processTelegramUpdates crashedContext [hundredth]) 0 processing rfl
    rw [hresult] at hsteps
    exact hsteps
  have hfinished : TelegramStep crashedContext (fun _ _ => True) processed pollingAgain :=
    .finish processed (some 101) _ rfl
  have hconfirmed : TelegramStep crashedContext (fun _ _ => True) pollingAgain confirmed :=
    .fetch pollingAgain (some 101) [] rfl List.nil_prefix
  have hreach : Relation.ReflTransGen (TelegramStep crashedContext fun _ _ => True)
      { world := {} } confirmed := by
    refine .head harrived (.head hstarted (.head hfetched (hrun.trans ?_)))
    exact .head hfinished (.single hconfirmed)
  have haccepts : Accepts crashedContext hundredth := ⟨5, _, rfl⟩
  refine ⟨confirmed, hreach, by decide, ?_⟩
  rcases confirmed_updates_stored crashedContext _ {} confirmed hreach hundredth
    (List.mem_singleton_self _) haccepts with hpending | hstored
  · exact absurd hpending (by decide)
  · exact hstored

end Service

end Runtime

end BlueLagoon
