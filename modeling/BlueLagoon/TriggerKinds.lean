import BlueLagoon.ApprovalReplies
import BlueLagoon.TelegramIngress

/-!
# Kinds of triggers

Whether an ingress is a reply to an approval prompt is asked twice. Its trigger kind says so for
a token or for a command that spells a decision; the parser that decides how it is executed
knows callbacks and the two exact commands. Where the kind says yes and the parser no, an
ordinary turn is run without the words of the user.
-/

namespace BlueLagoon

open Interleaving Harness

namespace Orchestration

/-! ## What the two look at -/

/-- There is an approval payload, and its token is not blank. -/
def NamesToken (ingress : NormalizedIngress) : Prop :=
  ∃ payload, ingress.approvalPayload = some payload ∧ Text.isBlank payload.token = false

/-- There is a command, and it spells a decision. -/
def SpellsDecision (ingress : NormalizedIngress) : Prop :=
  ∃ hint, ingress.commandHint = some hint ∧ IsDecision hint.command

/-- There is a command, and it is one of the two that resolve an approval. -/
def IsResolutionCommand (ingress : NormalizedIngress) : Prop :=
  ∃ hint, ingress.commandHint = some hint ∧ (hint.command = "approve" ∨ hint.command = "reject")

/-- The trigger kind of a reply. -/
theorem inferForegroundTriggerKind_eq_approval {ingress : NormalizedIngress} :
    Foreground.inferForegroundTriggerKind ingress = .approvalResolutionEvent ↔
      NamesToken ingress ∨ SpellsDecision ingress := by
  have hclassified : Foreground.isApprovalResolutionIngress ingress = true ↔
      NamesToken ingress ∨ SpellsDecision ingress := by
    unfold Foreground.isApprovalResolutionIngress
    rw [Bool.or_eq_true, Option.any_eq_true, Option.any_eq_true]
    refine or_congr ?_ ?_
    · simp only [NamesToken, Bool.not_eq_true']
    · simp only [SpellsDecision, IsDecision, decide_eq_true_eq]
  rw [← hclassified]
  unfold Foreground.inferForegroundTriggerKind
  constructor
  · intro h
    by_contra hnot
    rw [if_neg hnot] at h
    split at h <;> cases h
  · intro h
    rw [if_pos h]

/-- What the parser leaves to an ordinary turn. -/
theorem parseApprovalResolutionIngress_eq_none {ingress : NormalizedIngress} :
    parseApprovalResolutionIngress ingress = .ok none ↔
      ingress.eventKind ≠ .approvalCallback ∧ ¬ IsResolutionCommand ingress := by
  have hsome : ∀ parsed : Except ErrorChain ParsedApprovalResolutionIngress,
      parsed.map some ≠ .ok none := by
    intro parsed h
    obtain ⟨_, -, hparsed⟩ := except_map_eq_ok.mp h
    cases hparsed
  unfold parseApprovalResolutionIngress
  by_cases hcallback : ingress.eventKind = .approvalCallback
  · rw [if_pos hcallback]
    exact iff_of_false (hsome _) fun h => h.1 hcallback
  · rw [if_neg hcallback]
    unfold IsResolutionCommand
    cases hhint : ingress.commandHint with
    | none =>
      refine iff_of_true rfl ⟨hcallback, ?_⟩
      rintro ⟨hint, hnone, -⟩
      cases hnone
    | some hint =>
      dsimp only
      by_cases hcommand : hint.command = "approve" ∨ hint.command = "reject"
      · rw [if_pos hcommand]
        exact iff_of_false (hsome _) fun h => h.2 ⟨hint, rfl, hcommand⟩
      · rw [if_neg hcommand]
        refine iff_of_true rfl ⟨hcallback, ?_⟩
        rintro ⟨hint', hsame, hcommand'⟩
        obtain rfl := Option.some.inj hsame
        exact hcommand hcommand'

/-- A command that resolves an approval spells a decision. -/
theorem IsResolutionCommand.spells {ingress : NormalizedIngress} (h : IsResolutionCommand ingress) :
    SpellsDecision ingress := by
  obtain ⟨hint, hhint, hcommand⟩ := h
  refine ⟨hint, hhint, ?_⟩
  unfold IsDecision
  rcases hcommand with hcommand | hcommand <;> rw [hcommand] <;> decide +kernel

/-! ## Where they agree -/

/-- The trigger kind and the parser say the same of an ingress. -/
def ClassifiersAgree (ingress : NormalizedIngress) : Prop :=
  Foreground.inferForegroundTriggerKind ingress = .approvalResolutionEvent ↔
    parseApprovalResolutionIngress ingress ≠ .ok none

/-- An ordinary turn is run for an ingress whose kind is that of a reply. -/
def TurnWithoutText (ingress : NormalizedIngress) : Prop :=
  Foreground.inferForegroundTriggerKind ingress = .approvalResolutionEvent ∧
    parseApprovalResolutionIngress ingress = .ok none

/-- Such a turn knows nothing of what the user wrote. -/
theorem TurnWithoutText.orchestrateTrigger [GovernedActionServices] {trigger : ForegroundTrigger}
    (h : TurnWithoutText trigger.ingress)
    (hkind : trigger.triggerKind = Foreground.inferForegroundTriggerKind trigger.ingress)
    (config : RuntimeConfig) (recoveryContext : ForegroundRecoveryContext)
    (candidateMessages : List UserEpisodeMessage) :
    Orchestration.orchestrateTrigger config trigger recoveryContext candidateMessages =
      (orchestrateTelegramForegroundTrigger config trigger recoveryContext []).bind fun completion =>
        pure (.completed completion) := by
  unfold Orchestration.orchestrateTrigger
  rw [h.2, hkind, h.1]
  rfl

/-- Where a callback is taken for a reply by both, and where any other ingress is. -/
theorem agree_iff (ingress : NormalizedIngress) :
    ClassifiersAgree ingress ↔
      if ingress.eventKind = .approvalCallback then NamesToken ingress ∨ SpellsDecision ingress
      else NamesToken ingress ∨ SpellsDecision ingress → IsResolutionCommand ingress := by
  unfold ClassifiersAgree
  rw [inferForegroundTriggerKind_eq_approval, Ne, parseApprovalResolutionIngress_eq_none]
  by_cases hcallback : ingress.eventKind = .approvalCallback
  · rw [if_pos hcallback]
    constructor
    · exact fun h => h.mpr fun hnot => hnot.1 hcallback
    · exact fun h => ⟨fun _ hnot => hnot.1 hcallback, fun _ => h⟩
  · rw [if_neg hcallback]
    constructor
    · intro h hclassified
      by_contra hcommand
      exact h.mp hclassified ⟨hcallback, hcommand⟩
    · intro h
      constructor
      · exact fun hclassified hnot => hnot.2 (h hclassified)
      · intro hnot
        by_contra hclassified
        exact hnot ⟨hcallback, fun hcommand => hclassified (Or.inr hcommand.spells)⟩

/-- A callback is always parsed, so that the text of any other ingress only can get lost. -/
theorem not_turnWithoutText_iff (ingress : NormalizedIngress) :
    ¬ TurnWithoutText ingress ↔
      (ingress.eventKind ≠ .approvalCallback → NamesToken ingress ∨ SpellsDecision ingress →
        IsResolutionCommand ingress) := by
  unfold TurnWithoutText
  rw [inferForegroundTriggerKind_eq_approval, parseApprovalResolutionIngress_eq_none]
  constructor
  · intro h hother hclassified
    by_contra hcommand
    exact h ⟨hclassified, hother, hcommand⟩
  · rintro h ⟨hclassified, hother, hcommand⟩
    exact hcommand (h hother hclassified)

/-- A callback is taken for a reply by both unless its token is blank and no command comes with
it; any other ingress is, unless it carries a token or spells a decision in other words than the
two commands. -/
theorem classifiersAgree_iff (ingress : NormalizedIngress) :
    (ClassifiersAgree ingress ↔
      if ingress.eventKind = .approvalCallback then NamesToken ingress ∨ SpellsDecision ingress
      else NamesToken ingress ∨ SpellsDecision ingress → IsResolutionCommand ingress) ∧
    (¬ TurnWithoutText ingress ↔
      (ingress.eventKind ≠ .approvalCallback → NamesToken ingress ∨ SpellsDecision ingress →
        IsResolutionCommand ingress)) :=
  ⟨agree_iff ingress, not_turnWithoutText_iff ingress⟩

/-! ## Updates from Telegram -/

/-- Of what Telegram delivers, the classifiers disagree on a callback without an identifier, and
on the commands `/approved` and `/rejected`. -/
theorem classifiersAgree_normalized_iff {config : ResolvedTelegramConfig} {update : TelegramUpdate}
    {rawPayloadRef : Option String} {ingressId : Uuid} {ingress : NormalizedIngress}
    (h : Ingress.normalizedAs config update rawPayloadRef ingressId = .accepted ingress) :
    ClassifiersAgree ingress ↔
      (∀ payload, ingress.approvalPayload = some payload → Text.isBlank payload.token = false) ∧
        ∀ hint, ingress.commandHint = some hint →
          hint.command ≠ "approved" ∧ hint.command ≠ "rejected" := by
  rw [agree_iff]
  obtain ⟨-, -, hmessage | hcallback⟩ := Ingress.normalizedAs_eq_accepted h
  · obtain ⟨message, -, hkind, -, hhint, hpayload⟩ := hmessage
    have hplain : ingress.eventKind ≠ .approvalCallback := by
      rw [hkind]
      unfold Ingress.messageEventKind
      split <;> decide
    have hnoToken : ¬ NamesToken ingress := by
      rintro ⟨payload, hsome, -⟩
      rw [hpayload] at hsome
      cases hsome
    rw [if_neg hplain]
    constructor
    · intro hagree
      refine ⟨fun payload hsome => ?_, fun hint hsome => ?_⟩
      · rw [hpayload] at hsome
        cases hsome
      by_contra hother
      have hspells : SpellsDecision ingress := by
        refine ⟨hint, hsome, ?_⟩
        unfold IsDecision
        rw [Ingress.commandHint_trim (hhint.symm.trans hsome)]
        grind
      obtain ⟨hint', hsome', hcommand⟩ := hagree (Or.inr hspells)
      rw [hsome] at hsome'
      obtain rfl := Option.some.inj hsome'
      rcases hcommand with hcommand | hcommand <;> rw [hcommand] at hother <;>
        exact hother (by decide)
    · rintro ⟨-, hcommands⟩ (htoken | ⟨hint, hsome, hdecision⟩)
      · exact absurd htoken hnoToken
      · refine ⟨hint, hsome, ?_⟩
        unfold IsDecision at hdecision
        rw [Ingress.commandHint_trim (hhint.symm.trans hsome)] at hdecision
        have hother := hcommands hint hsome
        simp only [List.mem_cons, List.not_mem_nil, or_false] at hdecision
        grind
  · obtain ⟨callback, -, hkind, -, hhint, hpayload⟩ := hcallback
    have hnoCommand : ¬ SpellsDecision ingress := by
      rintro ⟨hint, hsome, -⟩
      rw [hhint] at hsome
      cases hsome
    rw [if_pos hkind]
    constructor
    · rintro (⟨payload, hsome, htoken⟩ | hspells)
      · refine ⟨fun payload' hsome' => ?_, fun hint hsome' => ?_⟩
        · rw [hsome] at hsome'
          obtain rfl := Option.some.inj hsome'
          exact htoken
        · rw [hhint] at hsome'
          cases hsome'
      · exact absurd hspells hnoCommand
    · rintro ⟨htokens, -⟩
      exact Or.inl ⟨_, hpayload, htokens _ hpayload⟩

/-- A private message of the configured user. -/
def messageUpdate (text : String) : TelegramUpdate where
  updateId := 100
  message := some
    { messageId := 5
      date := 1700000000
      chat := { id := 42, kind := .privateChat }
      sender := some { id := 42, isBot := false }
      text := some text }
  callbackQuery := none

/-- `/approved token` is allowed, has the kind of a reply, and is executed as an ordinary turn. -/
theorem approved_command_loses_text :
    ∃ ingress, Ingress.normalizedAs servedTelegram (messageUpdate "/approved token") none 7 =
        .accepted ingress ∧
      Policy.evaluateTelegramForegroundTrigger servedTelegram ingress = .allowed ∧
      TurnWithoutText ingress ∧ ¬ ClassifiersAgree ingress := by
  refine ⟨_, rfl, by decide +kernel, ⟨by decide +kernel, rfl⟩, ?_⟩
  intro hagree
  exact hagree.mp (by decide +kernel) rfl

end Orchestration

end BlueLagoon
