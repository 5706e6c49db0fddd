import BlueLagoon.Chrono
import BlueLagoon.Config
import BlueLagoon.Harness

/-!
# Updates from Telegram

An update is a message or the press of a button. The ones that the configured user sends in the
configured private chat become an ingress; the others are rejected or ignored.
-/

namespace BlueLagoon

open Interleaving Harness

/-! ## Updates -/

inductive TelegramChatKind
  | privateChat
  | group
  | supergroup
  | channel
  deriving DecidableEq, Repr

structure TelegramChat where
  id : Int
  kind : TelegramChatKind
  deriving DecidableEq, Repr

structure TelegramUser where
  id : Int
  isBot : Bool
  deriving DecidableEq, Repr

structure TelegramMessage where
  messageId : Int
  date : Int
  chat : TelegramChat
  sender : Option TelegramUser
  text : Option String
  deriving DecidableEq, Repr

structure TelegramCallbackQuery where
  id : String
  sender : TelegramUser
  data : Option String
  message : Option TelegramMessage
  deriving DecidableEq, Repr

structure TelegramUpdate where
  updateId : Int
  message : Option TelegramMessage
  callbackQuery : Option TelegramCallbackQuery
  deriving DecidableEq, Repr

/-! ## What becomes of them -/

inductive TelegramRejectionReason
  | unsupportedConversationMode
  | missingActor
  | unsupportedActor
  | unauthorizedActor
  | unauthorizedConversation
  | invalidOccurredAt
  deriving DecidableEq, Repr

structure TelegramRejectedIngress where
  externalEventId : String
  reason : TelegramRejectionReason
  detail : String
  deriving DecidableEq, Repr

inductive TelegramNormalizationOutcome
  | accepted (ingress : NormalizedIngress)
  | rejected (rejected : TelegramRejectedIngress)
  | ignored (externalEventId : String)
  deriving DecidableEq, Repr

namespace Ingress

/-- `reject`. -/
def reject (updateId : Int) (reason : TelegramRejectionReason) (detail : String) :
    TelegramNormalizationOutcome :=
  .rejected { externalEventId := toString updateId, reason := reason, detail := detail }

/-- `message_event_kind`. -/
def messageEventKind (message : TelegramMessage) : IngressEventKind :=
  if message.text.any fun text =>
      (text.toList.dropWhile Text.isWhitespace).head? = some '/' then .commandIssued
  else .messageCreated

/-- `command_hint`: the first word without its slashes, and the other words. -/
def commandHint (message : TelegramMessage) : Option CommandHint :=
  message.text.bind fun text =>
    if Text.startsWith (Text.trim text) "/" then
      match Text.splitWhitespace text with
      | [] => none
      | command :: args =>
        some { command := String.ofList (command.toList.dropWhile (· = '/')), args := args }
    else none

/-- `normalize_message_update`, with the identifier that an accepted message gets. -/
def normalizeMessageUpdate (config : ResolvedTelegramConfig) (update : TelegramUpdate)
    (message : TelegramMessage) (rawPayloadRef : Option String) (ingressId : Uuid) :
    TelegramNormalizationOutcome :=
  if message.chat.kind ≠ .privateChat then
    reject update.updateId .unsupportedConversationMode
      "Telegram message came from a non-private chat"
  else
    match message.sender with
    | none => reject update.updateId .missingActor "Telegram message is missing a sender"
    | some actor =>
      if actor.isBot then
        reject update.updateId .unsupportedActor "Telegram message came from a bot account"
      else if actor.id ≠ config.allowedUserId then
        reject update.updateId .unauthorizedActor
          "Telegram message actor does not match configured single-user identity"
      else if message.chat.id ≠ config.allowedChatId then
        reject update.updateId .unauthorizedConversation
          "Telegram message chat does not match configured conversation binding"
      else
        match Chrono.timestampOpt message.date with
        | none =>
          reject update.updateId .invalidOccurredAt
            "Telegram message used an invalid occurred-at timestamp"
        | some occurredAt =>
          .accepted
            { ingressId := ingressId
              channelKind := .telegram
              externalUserId := toString actor.id
              externalConversationId := toString message.chat.id
              externalEventId := toString update.updateId
              externalMessageId := some (toString message.messageId)
              internalPrincipalRef := config.internalPrincipalRef
              internalConversationRef := config.internalConversationRef
              eventKind := messageEventKind message
              occurredAt := occurredAt
              textBody := message.text
              commandHint := commandHint message
              approvalPayload := none
              rawPayloadRef := rawPayloadRef }

/-- The callback branch of `normalize_telegram_update`. -/
def normalizeCallbackUpdate (config : ResolvedTelegramConfig) (update : TelegramUpdate)
    (callback : TelegramCallbackQuery) (rawPayloadRef : Option String) (ingressId : Uuid) :
    TelegramNormalizationOutcome :=
  match callback.message with
  | none => .ignored (toString update.updateId)
  | some message =>
    if message.chat.kind ≠ .privateChat then
      reject update.updateId .unsupportedConversationMode
        "Telegram callback came from a non-private chat"
    else if callback.sender.isBot then
      reject update.updateId .unsupportedActor "Telegram callback came from a bot account"
    else if callback.sender.id ≠ config.allowedUserId then
      reject update.updateId .unauthorizedActor
        "Telegram callback actor does not match configured single-user identity"
    else if message.chat.id ≠ config.allowedChatId then
      reject update.updateId .unauthorizedConversation
        "Telegram callback chat does not match configured conversation binding"
    else
      match Chrono.timestampOpt message.date with
      | none =>
        reject update.updateId .invalidOccurredAt
          "Telegram callback used an invalid occurred-at timestamp"
      | some occurredAt =>
        .accepted
          { ingressId := ingressId
            channelKind := .telegram
            externalUserId := toString callback.sender.id
            externalConversationId := toString message.chat.id
            externalEventId := toString update.updateId
            externalMessageId := some (toString message.messageId)
            internalPrincipalRef := config.internalPrincipalRef
            internalConversationRef := config.internalConversationRef
            eventKind := .approvalCallback
            occurredAt := occurredAt
            textBody := none
            commandHint := none
            approvalPayload := some { token := callback.id, callbackData := callback.data }
            rawPayloadRef := rawPayloadRef }

/-- The outcome of an update, with the identifier that an accepted ingress gets. -/
def normalizedAs (config : ResolvedTelegramConfig) (update : TelegramUpdate)
    (rawPayloadRef : Option String) (ingressId : Uuid) : TelegramNormalizationOutcome :=
  match update.message, update.callbackQuery with
  | some message, _ => normalizeMessageUpdate config update message rawPayloadRef ingressId
  | none, some callback => normalizeCallbackUpdate config update callback rawPayloadRef ingressId
  | none, none => .ignored (toString update.updateId)

/-- `normalize_telegram_update`. -/
def normalizeTelegramUpdate (config : ResolvedTelegramConfig) (update : TelegramUpdate)
    (rawPayloadRef : Option String) : Harness TelegramNormalizationOutcome := do
  let ingressId ← newUuid
  pure (normalizedAs config update rawPayloadRef ingressId)

/-- An accepted update is one of the configured user, and becomes an ingress of the configured
conversation under the identifier of the update. -/
structure FromConfiguredUser (config : ResolvedTelegramConfig) (update : TelegramUpdate)
    (ingress : NormalizedIngress) : Prop where
  channel : ingress.channelKind = .telegram
  user : ingress.externalUserId = toString config.allowedUserId
  chat : ingress.externalConversationId = toString config.allowedChatId
  event : ingress.externalEventId = toString update.updateId
  principal : ingress.internalPrincipalRef = config.internalPrincipalRef
  conversation : ingress.internalConversationRef = config.internalConversationRef

/-- The two shapes of an accepted update. -/
theorem normalizedAs_eq_accepted {config : ResolvedTelegramConfig} {update : TelegramUpdate}
    {rawPayloadRef : Option String} {ingressId : Uuid} {ingress : NormalizedIngress}
    (h : normalizedAs config update rawPayloadRef ingressId = .accepted ingress) :
    FromConfiguredUser config update ingress ∧ ingress.ingressId = ingressId ∧
      ((∃ message, update.message = some message ∧ ingress.eventKind = messageEventKind message ∧
          ingress.textBody = message.text ∧ ingress.commandHint = commandHint message ∧
          ingress.approvalPayload = none) ∨
        ∃ callback, update.callbackQuery = some callback ∧
          ingress.eventKind = .approvalCallback ∧ ingress.textBody = none ∧
          ingress.commandHint = none ∧
          ingress.approvalPayload = some { token := callback.id, callbackData := callback.data }) := by
  unfold normalizedAs at h
  split at h
  · next message hmessage =>
    unfold normalizeMessageUpdate reject at h
    split at h
    · cases h
    split at h
    · cases h
    · next actor hsender =>
      split at h
      · cases h
      split at h
      · cases h
      split at h
      · cases h
      split at h
      · cases h
      · next hactor hchat _ occurredAt _ =>
        obtain rfl := TelegramNormalizationOutcome.accepted.inj h
        have hactor := not_not.mp hactor
        have hchat := not_not.mp hchat
        exact ⟨⟨rfl, congrArg toString hactor, congrArg toString hchat, rfl, rfl, rfl⟩, rfl,
          Or.inl ⟨message, hmessage, rfl, rfl, rfl, rfl⟩⟩
  · next callback _ hcallback =>
    unfold normalizeCallbackUpdate reject at h
    split at h
    · cases h
    · next message hmessage =>
      split at h
      · cases h
      split at h
      · cases h
      split at h
      · cases h
      split at h
      · cases h
      split at h
      · cases h
      · next hactor hchat _ occurredAt _ =>
        obtain rfl := TelegramNormalizationOutcome.accepted.inj h
        have hactor := not_not.mp hactor
        have hchat := not_not.mp hchat
        exact ⟨⟨rfl, congrArg toString hactor, congrArg toString hchat, rfl, rfl, rfl⟩, rfl,
          Or.inr ⟨callback, hcallback, rfl, rfl, rfl, rfl⟩⟩
  · cases h

/-- The words of a command have no blanks around them. -/
theorem commandHint_trim {message : TelegramMessage} {hint : CommandHint}
    (h : commandHint message = some hint) : Text.trim hint.command = hint.command := by
  unfold commandHint at h
  obtain ⟨text, -, h⟩ := Option.bind_eq_some_iff.mp h
  split at h
  · split at h
    · cases h
    · next command args hwords =>
      obtain rfl := Option.some.inj h
      have hcommand : command ∈ Text.splitWhitespace text := by
        rw [hwords]
        exact List.mem_cons_self
      refine Text.trim_eq_self fun c hc => ?_
      rw [String.toList_ofList] at hc
      exact Text.mem_splitWhitespace hcommand c ((List.dropWhile_sublist _).subset hc)
  · cases h

end Ingress

end BlueLagoon
