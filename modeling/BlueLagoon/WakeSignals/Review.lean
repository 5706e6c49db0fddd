import BlueLagoon.IntakeEffects
import BlueLagoon.WakeSignals.Protocol

/-!
# A review keeps to the discipline

Step by step, what a review knows of its signal when it writes the decision: how many signals of
before were open, which of them cool down, and whether the ingress of the signal is stored.
-/

namespace BlueLagoon.WakeSignals

open Interleaving Harness BackgroundExecution

variable {ι α β : Type} {policy : WakeSignalPolicy} {left : Prop} {answers : Answers unconscious}
  {i : ι} {v w : Shared unconscious ι} {row : WakeSignalRecord}

/-! ## Rules -/

/-- If the program goes through, it leaves `R` behind. -/
def Yields (policy : WakeSignalPolicy) (left : Prop) (answers : Answers unconscious) (i : ι)
    (p : Unconscious α) (R : α → Shared unconscious ι → Prop) (v : Shared unconscious ι) : Prop :=
  (reviewProtocol policy left answers ι).wp i p (fun r w => ∀ a, r = .ok a → R a w) v

section Rules

variable {R : α → Shared unconscious ι → Prop} {R' : β → Shared unconscious ι → Prop}

theorem yields_ret {a : α} (h : R a v) : Yields policy left answers i (.ret a) R v := by
  intro b hb
  obtain rfl := Except.ok.inj hb
  exact h

theorem yields_fail (e : ErrorChain) : Yields policy left answers i (.fail e) R v := by
  intro b hb
  cases hb

theorem yields_bind {p : Unconscious α} {f : α → Unconscious β}
    (hp : Yields policy left answers i p R v)
    (hf : ∀ a w, R a w → Yields policy left answers i (f a) R' w) :
    Yields policy left answers i (p.bind f) R' v := by
  apply Protocol.wp_seq hp
  · exact fun a w h => hf a w (h a rfl)
  · intro e w _ b hb
    cases hb

theorem yields_ofExcept {r : Except ErrorChain α} (h : ∀ a, r = .ok a → R a v) :
    Yields policy left answers i (.ofExcept r) R v := by
  cases r with
  | ok a => exact yields_ret (h a rfl)
  | error e => exact yields_fail e

theorem Yields.mono {R' : α → Shared unconscious ι → Prop} {p : Unconscious α}
    (hp : Yields policy left answers i p R v) (h : ∀ a w, R a w → R' a w) :
    Yields policy left answers i p R' v :=
  Protocol.wp_mono (fun _ w hr a ha => h a w (hr a ha)) hp

/-- A program of the harness that leaves the stored ingresses as they are. -/
theorem yields_beside {p : Harness α}
    (hp : p.Confined (OnDb fun db db' _ => db'.ingressEvents = db.ingressEvents))
    (h : ∀ a w, Relies left i v w → R a w) : Yields policy left answers i p.lift R v := by
  have hconfined : p.Confined LeavesStaged := by
    apply hp.mono
    intro w w' events hsame id internalConversationRef
    unfold Staged
    rw [hsame.1]
  exact Protocol.wp_mono (fun _ w hrely a _ => h a w hrely) (wp_beside (fun _ => hconfined) v)

/-- A transaction of the harness. -/
theorem yields_transaction {message : String}
    {body : DateTime → Database → Except ErrorChain (Effect α)}
    (h : ∀ w now effect, Orderly policy left w → Relies left i v w →
      body now (dbOf w) = .ok effect →
        (reviewProtocol policy left answers ι).Allows i w
            (w.push i ({ w.state.1 with db := effect.db }, rowsOf w)
              (effect.events.map Sum.inl)) ∧
          R effect.value (w.push i ({ w.state.1 with db := effect.db }, rowsOf w)
            (effect.events.map Sum.inl))) :
    Yields policy left answers i (transaction message body).lift R v := by
  rintro (_ | now) -
  · exact yields_fail _
  · apply Protocol.wp_lift_tx
    · intro w c hinv hrely hbody
      unfold commit at hbody
      cases heffect : body now (dbOf w) with
      | error e =>
        rw [heffect] at hbody
        cases hbody
      | ok effect =>
        rw [heffect] at hbody
        obtain rfl := Except.ok.inj hbody
        obtain ⟨hallows, hR⟩ := h w now effect hinv hrely heffect
        refine ⟨hallows, fun a ha => ?_⟩
        obtain rfl := Except.ok.inj ha
        exact hR
    · intro w e _ _ _ a ha
      cases ha

/-- A statement on the wake signals. -/
theorem yields_onWakeSignals {message : String} {body : DateTime → Database →
      List WakeSignalRecord → Except ErrorChain (Background.SignalEffect α)}
    (h : ∀ w now effect, Orderly policy left w → Relies left i v w →
      body now (dbOf w) (rowsOf w) = .ok effect →
        (reviewProtocol policy left answers ι).Allows i w
            (w.push i (w.state.1, effect.rows) (effect.events.map Sum.inr)) ∧
          R effect.value (w.push i (w.state.1, effect.rows) (effect.events.map Sum.inr))) :
    Yields policy left answers i (Background.onWakeSignals message body) R v := by
  rintro (_ | now) -
  · exact yields_fail _
  · apply Protocol.wp_tx
    · intro w c hinv hrely hbody
      cases heffect : body now (dbOf w) (rowsOf w) with
      | error e =>
        rw [heffect] at hbody
        cases hbody
      | ok effect =>
        rw [heffect] at hbody
        obtain rfl := Except.ok.inj hbody
        obtain ⟨hallows, hR⟩ := h w now effect hinv hrely heffect
        refine ⟨hallows, fun a ha => ?_⟩
        obtain rfl := Except.ok.inj ha
        exact hR
    · intro w e _ _ _ a ha
      cases ha

/-- A query on the wake signals sees the tables as they are. -/
theorem yields_fetchWakeSignals {message : String}
    {read : DateTime → Database → List WakeSignalRecord → α}
    (h : ∀ w now, Orderly policy left w → Relies left i v w →
      R (read now (dbOf w) (rowsOf w)) w) :
    Yields policy left answers i (Background.fetchWakeSignals message read) R v := by
  apply yields_onWakeSignals
  intro w now effect hinv hrely hbody
  obtain rfl := Except.ok.inj hbody
  have hpush : w.push i (w.state.1, rowsOf w) [] = w := by simp [Shared.push]
  show (reviewProtocol policy left answers ι).Allows i w (w.push i (w.state.1, rowsOf w) []) ∧
    R _ (w.push i (w.state.1, rowsOf w) [])
  rw [hpush]
  exact ⟨⟨hinv, fun j _ => Relies.refl left j w⟩, h w now hinv hrely⟩

end Rules

/-! ## What is known of a signal -/

/-- No ingress is stored for the signal. -/
def Unstaged (left : Prop) (v : Shared unconscious ι) (row : WakeSignalRecord) : Prop :=
  left → ∀ internalConversationRef, ¬Staged (dbOf v) row.wakeSignalId internalConversationRef

/-- Few of the signals before are open, and none of the reason code cools down. -/
structure Vetted (policy : WakeSignalPolicy) (row : WakeSignalRecord) (now : DateTime)
    (v : Shared unconscious ι) : Prop where
  few : FewBefore (policy.config.maxPendingSignals - 1) (rowsOf v) row now
  clear : ClearBefore (rowsOf v) v.log row now

theorem Relies.weaken (h : Relies left i v w) : Relies False i v w :=
  ⟨h.log, h.grows, h.own, fun hfalse => hfalse.elim⟩

theorem InReview.later (h : InReview i v row) (hrely : Relies left i v w) : InReview i w row where
  mine := hrely.log.subset h.mine
  mem := hrely.own row h.mem h.mine
  pending := h.pending
  warm := h.warm

theorem InReview.isOpen (h : InReview i v row) (now : DateTime) :
    Background.isOpen now row = true := by
  simp [Background.isOpen, h.pending, h.warm]

theorem Unstaged.later (h : Unstaged left v row) (hrow : InReview i v row)
    (hrely : Relies left i v w) : Unstaged left w row := by
  intro hleft internalConversationRef hstaged
  exact h hleft _ ((hrely.ingress hleft _ hrow.mine _).mp hstaged)

theorem Staged.later {internalConversationRef : Option String}
    (h : left → Staged (dbOf v) row.wakeSignalId internalConversationRef)
    (hrow : InReview i v row) (hrely : Relies left i v w) :
    left → Staged (dbOf w) row.wakeSignalId internalConversationRef :=
  fun hleft => (hrely.ingress hleft _ hrow.mine _).mpr (h hleft)

theorem Vetted.later {now : DateTime} (h : Vetted policy row now v) (hrow : InReview i v row)
    (hrely : Relies False i v w) (hinv : Orderly policy left w) : Vetted policy row now w where
  few := h.few.later hrely.grows hinv.keyed hrow.mem rfl
  clear := by
    obtain ⟨new, hlog⟩ := hrely.log
    rw [← hlog]
    refine h.clear.later hrely.grows ?_ rfl rfl
    exact hinv.not_recorded_again hlog.symm (mem_filterMap_recordedId.mpr ⟨i, hrow.mine⟩)

/-! ## Recording -/

section Recording

variable {leased : LeasedBackgroundExecution} {signal : WakeSignal} {requestedAt : DateTime}

theorem yields_writeWakeSignalAuditEvent {R : Unit → Shared unconscious ι → Prop}
    {eventKind severity : String} {payload : Json} (h : ∀ w, Relies left i v w → R () w) :
    Yields policy left answers i (writeWakeSignalAuditEvent leased eventKind severity payload) R
      v := by
  unfold writeWakeSignalAuditEvent
  apply yields_bind (R := fun _ w => Relies left i v w)
  · exact yields_beside (Audit.insert_confined (fun _ _ => rfl) _) fun _ _ hrely => hrely
  · exact fun _ w hrely => yields_ret (h w hrely)

/-- A new signal is one that nobody has recorded before, and that is not staged. -/
theorem yields_insertWakeSignal {new : NewWakeSignalRecord}
    (hpending : new.status = .pendingReview) (hwarm : new.cooldownUntil = none) :
    Yields policy left answers i (Background.insertWakeSignal new) (fun _ w => ∃ row,
      row.wakeSignalId = new.signal.signalId ∧ InReview i w row ∧ Unstaged left w row) v := by
  apply yields_onWakeSignals
  intro w now effect hinv hrely hbody
  dsimp only at hbody
  split at hbody
  · cases hbody
  · rename_i hvalid
    obtain rfl := Except.ok.inj hbody
    rw [Background.wakeSignalViolation, Database.firstBroken_eq_none] at hvalid
    have hfresh : ∀ other ∈ rowsOf w,
        other.wakeSignalId ≠ (Background.wakeSignalRow now new).wakeSignalId := by
      intro other hother
      have hall := hvalid _ List.mem_cons_self
      rw [List.all_eq_true] at hall
      exact of_decide_eq_true (hall other hother)
    have hrecorded : Orderly policy left (recorded w i (Background.wakeSignalRow now new)) :=
      hinv.recorded hfresh hpending
    refine ⟨⟨hrecorded, fun j _ => Relies.recorded j⟩, Background.wakeSignalRow now new, rfl,
      ⟨?_, ?_, hpending, hwarm⟩, ?_⟩
    · exact List.mem_append_right _ (List.mem_singleton_self _)
    · exact List.mem_append_right _ (List.mem_singleton_self _)
    · intro hleft internalConversationRef hstaged
      obtain ⟨-, other, hother, hid, -⟩ := hinv.staged hleft _ _ hstaged
      exact hfresh other hother hid

/-- What is read back is the row that was inserted. -/
theorem yields_getWakeSignal {id : Uuid} (hrow : InReview i v row) (hid : row.wakeSignalId = id) :
    Yields policy left answers i (Background.getWakeSignal id)
      (fun found w => found = row ∧ Relies left i v w) v := by
  apply yields_onWakeSignals
  intro w now effect hinv hrely hbody
  split at hbody
  · rename_i found hfound
    obtain rfl := Except.ok.inj hbody
    have hpush : w.push i (w.state.1, rowsOf w) [] = w := by simp [Shared.push]
    show (reviewProtocol policy left answers ι).Allows i w (w.push i (w.state.1, rowsOf w) []) ∧
      found = row ∧ Relies left i v (w.push i (w.state.1, rowsOf w) [])
    rw [hpush]
    have hmem := Table.mem_of_find hfound
    have hkey : found.wakeSignalId = row.wakeSignalId := (Table.key_of_find hfound).trans hid.symm
    exact ⟨⟨hinv, fun j _ => Relies.refl left j w⟩,
      hinv.keyed.eq hmem (hrow.later hrely).mem hkey, hrely⟩
  · cases hbody

theorem yields_recordWakeSignal :
    Yields policy left answers i (recordWakeSignal leased signal requestedAt)
      (fun row w => InReview i w row ∧ Unstaged left w row) v := by
  unfold recordWakeSignal
  apply yields_bind (yields_insertWakeSignal rfl rfl)
  rintro - w ⟨row, hid, hrow, hunstaged⟩
  apply yields_bind (yields_getWakeSignal hrow hid)
  rintro found w' ⟨rfl, hrely⟩
  apply yields_bind (R := fun _ w' => Relies left i w w')
  · exact yields_beside (CausalLinks.insert_confined (fun _ _ => rfl) _) fun _ _ hlater =>
      hrely.trans hlater
  · intro _ w' hrely
    apply yields_bind (R := fun _ w' => Relies left i w w')
    · exact yields_writeWakeSignalAuditEvent fun _ hlater => hrely.trans hlater
    · exact fun _ w' hrely => yields_ret ⟨hrow.later hrely, hunstaged.later hrow hrely⟩

end Recording

/-! ## Unconscious -/

/-- A signal of no high priority is accepted only below the limit and after the cooldown. -/
theorem evaluateWakeSignal_accepted {config : WakeSignalPolicyConfig} {signal : WakeSignal}
    {context : WakeSignalEvaluationContext}
    (h : (Policy.evaluateWakeSignal config signal context).decision = .accepted)
    (hpriority : signal.priority ≠ .high) :
    context.cooldownActive = false ∧ context.pendingSignalCount < config.maxPendingSignals := by
  unfold Policy.evaluateWakeSignal at h
  split at h
  · cases h
  split at h
  · cases h
  split at h
  · cases h
  split at h
  · cases h
  split at h
  · cases h
  split at h
  · cases h
  rename_i hcooldown
  split at h
  · dsimp only at h
    cases hsignal : signal.priority <;> simp_all
  · rename_i hlimit
    refine ⟨?_, Nat.lt_of_not_le hlimit⟩
    cases hactive : context.cooldownActive with
    | false => rfl
    | true => exact absurd ⟨hactive, hpriority⟩ hcooldown

/-- Of the signals of before, those that the query on cooldowns does not find have cooled down. -/
theorem clearBefore_of_any {now : DateTime} (hinv : Orderly policy left v)
    (hrow : InReview i v row) (hnone : (rowsOf v).any
      (Background.coolsDown row.signal.reasonCode now row.wakeSignalId) = false) :
    ClearBefore (rowsOf v) v.log row now := by
  rintro first ⟨before, j, after, hlog, k, hreviewed⟩
  have hmem : (k, Sum.inr (.reviewed first)) ∈ v.log := by
    rw [hlog]
    exact List.mem_append_left _ hreviewed
  obtain ⟨other, hother, hid, hdecided⟩ := hinv.reviewed k first hmem
  refine ⟨other, hother, hid, hdecided, ?_⟩
  intro hcode cooldownUntil hcooldown
  have hne : other.wakeSignalId ≠ row.wakeSignalId := by
    intro hsame
    obtain rfl := hinv.keyed.eq hother hrow.mem hsame
    exact hdecided hrow.pending
  have hcold := List.any_eq_false.mp hnone other hother
  simpa [Background.coolsDown, hcode, hne, hcooldown] using hcold

/-- A signal that policy accepts without high priority was vetted: few enough were open, and its
reason code had cooled down. -/
theorem yields_reviewWakeSignal {identitySnapshot : CompactIdentitySnapshot}
    {requestedAt : DateTime} (hrow : InReview i v row) :
    Yields policy left answers i (reviewWakeSignal policy identitySnapshot row requestedAt)
      (fun decision w => Relies left i v w ∧ (decision.decision = .accepted →
        row.signal.priority ≠ .high → Vetted policy row requestedAt w)) v := by
  unfold reviewWakeSignal
  apply yields_bind (R := fun _ w => Relies left i v w)
  · apply yields_bind (R := fun _ w => Relies left i v w)
    · exact yields_fetchWakeSignals fun _ _ _ hrely => hrely
    · exact fun _ _ hrely => yields_ret hrely
  intro _ w hrely
  apply yields_bind (R := fun n w => Relies left i v w ∧ FewBefore n (rowsOf w) row requestedAt)
  · exact yields_fetchWakeSignals fun w' _ _ hlater =>
      ⟨hrely.trans hlater, fewBefore_of_countP (hrow.isOpen requestedAt)⟩
  rintro n w ⟨hrely, hfew⟩
  apply yields_bind (R := fun active w => Relies left i v w ∧
    FewBefore n (rowsOf w) row requestedAt ∧
      (active = false → ClearBefore (rowsOf w) w.log row requestedAt))
  · refine yields_fetchWakeSignals fun w' _ hinv hlater => ?_
    have hrow' := hrow.later (hrely.trans hlater)
    exact ⟨hrely.trans hlater, hfew.later hlater.grows hinv.keyed (hrow.later hrely).mem rfl,
      clearBefore_of_any hinv hrow'⟩
  rintro active w ⟨hrely, hfew, hclear⟩
  refine yields_ret ⟨hrely, fun haccepted hpriority => ?_⟩
  obtain ⟨hactive, hlimit⟩ := evaluateWakeSignal_accepted haccepted hpriority
  refine ⟨fun k hk => (hfew k hk).trans_le ?_, hclear hactive⟩
  exact Nat.le_sub_one_of_lt hlimit

/-! ## Staging -/

section Staging

theorem uuid_repr_injective {id id' : Uuid} (h : Nat.repr id = Nat.repr id') : id = id' := by
  have hdigits := congrArg (fun digits => Nat.ofDigitChars 10 digits.toList 0) h
  simpa only [Nat.toList_repr, Nat.ofDigitChars_ten_toDigits] using hdigits

theorem wakeSignalExternalEventId_injective {id id' : Uuid}
    (h : Foreground.wakeSignalExternalEventId id = Foreground.wakeSignalExternalEventId id') :
    id = id' := by
  have hname : ∀ id : Uuid, (Foreground.wakeSignalExternalEventId id).toList =
      "wake-signal:".toList ++ (Nat.repr id).toList := by
    intro id
    show ("wake-signal:" ++ Nat.repr id).toList = _
    exact String.toList_append
  have hlists := congrArg String.toList h
  rw [hname, hname] at hlists
  exact uuid_repr_injective (String.toList_inj.mp (List.append_cancel_left hlists))

variable {binding : TelegramForegroundBindingConfig} {ingressId : Uuid}

theorem add_ingressEvents (causalLinkId : Uuid) (link : NewCausalLink) (db : Database) :
    (CausalLinks.add causalLinkId link db).ingressEvents = db.ingressEvents := by
  unfold CausalLinks.add
  split
  · rfl
  · rfl

theorem commitStagedWakeSignal_ingressEvents {ingress : NormalizedIngress}
    {new : NewConversationBinding} {lookups : Foreground.BindingLookups}
    {causalLinkId auditEventId : Uuid} {now : DateTime} {db : Database} {effect : Effect Unit}
    (h : Foreground.commitStagedWakeSignal ingress row new lookups causalLinkId auditEventId now
      db = .ok effect) :
    ∃ bindingOf event, event.ingress = ingress ∧ effect.db.ingressEvents =
      Foreground.rebound bindingOf db.ingressEvents ++ [Foreground.ingressRow now event] := by
  unfold Foreground.commitStagedWakeSignal at h
  split at h
  · cases h
  rename_i written bound hreconciled
  split at h
  · cases h
  rename_i stored hinserted
  obtain rfl := Except.ok.inj h
  obtain ⟨bindings, bindingOf, rfl⟩ := Foreground.reconcileLookedUp_eq_ok hreconciled
  obtain ⟨rfl, -⟩ := Foreground.insertIngressEvent_eq_ok hinserted
  exact ⟨bindingOf,
    { ingress := ingress
      conversationBindingId := some written.record.conversationBindingId
      traceId := row.traceId
      executionId := none
      status := "accepted"
      rejectionReason := none }, rfl, add_ingressEvents _ _ _⟩

/-- What staging stores is the ingress of the signal, in the configured conversation. -/
theorem staged_commit {new : NewConversationBinding} {lookups : Foreground.BindingLookups}
    {causalLinkId auditEventId : Uuid} {now : DateTime} {db : Database} {effect : Effect Unit}
    (h : Foreground.commitStagedWakeSignal
      (Foreground.buildApprovedWakeSignalIngress binding row ingressId) row new lookups
      causalLinkId auditEventId now db = .ok effect)
    (id : Uuid) (internalConversationRef : Option String) :
    Staged effect.db id internalConversationRef ↔ Staged db id internalConversationRef ∨
      (id = row.wakeSignalId ∧
        internalConversationRef = some binding.internalConversationRef) := by
  obtain ⟨bindingOf, event, hevent, hevents⟩ := commitStagedWakeSignal_ingressEvents h
  have hchannel : (Foreground.ingressRow now event).channelKind = .telegram := by
    show event.ingress.channelKind = _
    rw [hevent]
  have hexternal : (Foreground.ingressRow now event).externalEventId =
      Foreground.wakeSignalExternalEventId row.wakeSignalId := by
    show event.ingress.externalEventId = _
    rw [hevent]
    rfl
  have hconversation : (Foreground.ingressRow now event).internalConversationRef =
      some binding.internalConversationRef := by
    show some event.ingress.internalConversationRef = _
    rw [hevent]
    rfl
  unfold Staged
  rw [hevents]
  constructor
  · rintro ⟨ingress, hmem, htelegram, hid, rfl⟩
    rcases List.mem_append.mp hmem with hold | hlast
    · obtain ⟨old, hstored, rfl⟩ := List.mem_map.mp hold
      exact Or.inl ⟨old, hstored, htelegram, hid, rfl⟩
    · obtain rfl := List.mem_singleton.mp hlast
      rw [hexternal] at hid
      exact Or.inr ⟨(wakeSignalExternalEventId_injective hid).symm, hconversation⟩
  · rintro (⟨ingress, hmem, htelegram, hid, rfl⟩ | ⟨rfl, rfl⟩)
    · exact ⟨{ ingress with conversationBindingId := bindingOf ingress },
        List.mem_append_left _ (List.mem_map_of_mem hmem), htelegram, hid, rfl⟩
    · exact ⟨_, List.mem_append_right _ (List.mem_singleton_self _), hchannel, hexternal,
        hconversation⟩

/-- The transaction that stages a signal in review. -/
theorem yields_commitStagedWakeSignal {message : String} {new : NewConversationBinding}
    {lookups : Foreground.BindingLookups} {causalLinkId auditEventId : Uuid}
    (hrow : InReview i v row) (hbinding : policy.foregroundBinding = some binding) :
    Yields policy left answers i (transaction message (Foreground.commitStagedWakeSignal
        (Foreground.buildApprovedWakeSignalIngress binding row ingressId) row new lookups
        causalLinkId auditEventId)).lift
      (fun _ w => Relies False i v w ∧
        (left → Staged (dbOf w) row.wakeSignalId (boundConversation policy))) v := by
  have hconversation : boundConversation policy = some binding.internalConversationRef := by
    rw [boundConversation, hbinding]
    rfl
  apply yields_transaction
  intro w now effect hinv hrely hbody
  have hstaged := staged_commit hbody
  have hrow' := hrow.later hrely
  refine ⟨⟨?_, ?_⟩, ?_, fun _ => ?_⟩
  · apply hinv.beside
    · exact fun _ id conversation hold => (hstaged id conversation).mpr (Or.inl hold)
    · intro _ id conversation hnew
      rcases (hstaged id conversation).mp hnew with hold | ⟨rfl, rfl⟩
      · exact Or.inl hold
      · exact Or.inr ⟨hconversation.symm, row, hrow'.mem, rfl, hrow'.pending⟩
  · -- Nobody else recorded this signal.
    intro j hne
    apply Relies.beside
    intro _ id hmine conversation
    rw [hstaged id conversation]
    refine ⟨fun h => h.resolve_right ?_, Or.inl⟩
    rintro ⟨rfl, -⟩
    exact hne (hinv.owner hmine hrow'.mine)
  · exact hrely.weaken.trans (Relies.beside fun hfalse => hfalse.elim)
  · rw [hconversation]
    exact (hstaged _ _).mpr (Or.inr ⟨rfl, rfl⟩)

/-- A lookup that finds the ingress of a signal finds it staged. -/
theorem yields_findIngressEventByChannelEvent :
    Yields policy left answers i (Foreground.findIngressEventByChannelEvent .telegram
        (Foreground.wakeSignalExternalEventId row.wakeSignalId)).lift
      (fun existing w => Relies left i v w ∧ (existing.isSome →
        left → Staged (dbOf w) row.wakeSignalId (boundConversation policy))) v := by
  apply yields_transaction
  intro w now effect hinv hrely hbody
  obtain rfl := Except.ok.inj hbody
  refine ⟨allows_beside hinv fun _ _ _ => Iff.rfl,
    hrely.trans (Relies.beside fun _ _ _ _ => Iff.rfl), ?_⟩
  intro hsome hleft
  obtain ⟨existing, hfound⟩ := Option.isSome_iff_exists.mp hsome
  have hmem := List.mem_of_find?_eq_some hfound
  have hmatch := List.find?_some hfound
  rw [Bool.and_eq_true, decide_eq_true_eq, decide_eq_true_eq] at hmatch
  have hstaged : Staged (dbOf w) row.wakeSignalId existing.internalConversationRef :=
    ⟨existing, hmem, hmatch.1, hmatch.2, rfl⟩
  rw [(hinv.staged hleft _ _ hstaged).1] at hstaged
  exact hstaged

/-- Staging an approved signal gives it its ingress in the configured conversation, and touches no
signal. -/
theorem yields_stageApprovedWakeSignal (hrow : InReview i v row)
    (hbinding : policy.foregroundBinding = some binding) :
    Yields policy left answers i
      (Foreground.stageApprovedWakeSignalForegroundIngress binding row).lift
      (fun _ w => Relies False i v w ∧
        (left → Staged (dbOf w) row.wakeSignalId (boundConversation policy))) v := by
  unfold Foreground.stageApprovedWakeSignalForegroundIngress
  rw [Prog.bind_eq, Prog.lift_bind]
  apply yields_bind (R := fun _ w => Relies left i v w)
  · exact yields_beside (confined_newUuid fun _ => rfl) fun _ _ hrely => hrely
  intro ingressId w hrely
  dsimp only
  rw [Prog.bind_eq, Prog.lift_bind]
  apply yields_bind yields_findIngressEventByChannelEvent
  rintro existing w' ⟨hlater, hstaged⟩
  replace hrely := hrely.trans hlater
  -- an ingress that was staged before is kept, and only the duplicate is noted
  cases existing with
  | some existing =>
    dsimp only
    rw [Prog.bind_eq, Prog.lift_bind]
    apply yields_bind (R := fun _ w => Relies left i w' w)
    · refine yields_beside ?_ fun _ _ hlater => hlater
      exact Prog.Confined.bind (Audit.insert_confined (fun _ _ => rfl) _) fun _ =>
        Prog.confined_ret _
    · intro duplicate w'' hlater
      exact yields_ret ⟨(hrely.trans hlater).weaken,
        Staged.later (hstaged rfl) (hrow.later hrely) hlater⟩
  | none =>
    dsimp only
    rw [Prog.bind_eq, Prog.lift_bind]
    apply yields_bind (R := fun _ w => Relies left i v w)
    · refine yields_beside ?_ fun _ _ hlater => hrely.trans hlater
      unfold Foreground.matchingConversationBindingForBindingConfig
      unfold Foreground.matchingConversationBinding
      repeat' split
      all_goals first
        | exact Prog.confined_ret _
        | exact Prog.Confined.bind (confined_newUuid fun _ => rfl) fun _ => Prog.confined_ret _
    intro matching w hrely
    rw [Prog.bind_eq, Prog.lift_bind]
    apply yields_bind (R := fun _ w => Relies left i v w)
    · exact yields_beside (confined_expect _) fun _ _ hlater => hrely.trans hlater
    intro new w hrely
    rw [Prog.bind_eq, Prog.lift_bind]
    apply yields_bind (R := fun _ w => Relies left i v w)
    · refine yields_beside ?_ fun _ _ hlater => hrely.trans hlater
      refine Prog.Confined.bind (confined_fetch fun _ => rfl) fun external => ?_
      refine confined_transaction (fun _ => rfl) fun now db effect hbody => ?_
      obtain rfl := Except.ok.inj hbody
      rfl
    intro lookups w hrely
    rw [Prog.bind_eq, Prog.lift_bind]
    apply yields_bind (R := fun _ w => Relies left i v w)
    · exact yields_beside (confined_newUuid fun _ => rfl) fun _ _ hlater => hrely.trans hlater
    intro causalLinkId w hrely
    rw [Prog.bind_eq, Prog.lift_bind]
    apply yields_bind (R := fun _ w => Relies left i v w)
    · exact yields_beside (confined_newUuid fun _ => rfl) fun _ _ hlater => hrely.trans hlater
    intro auditEventId w hrely
    rw [Prog.bind_eq, Prog.lift_bind]
    apply yields_bind (yields_commitStagedWakeSignal (hrow.later hrely) hbinding)
    rintro - w' ⟨hlater, hstaged⟩
    exact yields_ret ⟨hrely.weaken.trans hlater, hstaged⟩

end Staging

/-! ## Deciding -/

section Deciding

variable {u : Shared unconscious ι} {decision : WakeSignalDecision} {requestedAt : DateTime}
  {cools : Option DateTime} {leased : LeasedBackgroundExecution}

theorem cooldownUntil_eq_ok {kind : WakeSignalDecisionKind}
    (h : cooldownUntil policy.config kind requestedAt = .ok cools) (hkind : kind ≠ .rejected) :
    cools = some (requestedAt + cooldown policy) := by
  have hadd : (Chrono.addSeconds requestedAt (asI64 policy.config.cooldownSeconds)).map some =
      .ok cools := by
    cases kind with
    | rejected => exact absurd rfl hkind
    | accepted => exact h
    | suppressed => exact h
    | deferred => exact h
  cases hsum : Chrono.addSeconds requestedAt (asI64 policy.config.cooldownSeconds) with
  | error e =>
    rw [hsum] at hadd
    cases hadd
  | ok next =>
    rw [hsum] at hadd
    obtain rfl := Except.ok.inj hadd
    rw [Chrono.of_addSeconds_eq_ok hsum]

theorem wakeSignalStatusForDecision_eq_accepted {kind : WakeSignalDecisionKind}
    (h : Background.wakeSignalStatusForDecision kind = .accepted) : kind = .accepted := by
  cases kind <;> first | rfl | cases h

/-- The decision is written on what was known of the signal at an earlier moment `u`. -/
theorem yields_recordWakeSignalDecision (hrow : InReview i u row) (hrely : Relies False i u v)
    (hcools : cooldownUntil policy.config decision.decision requestedAt = .ok cools)
    (hvetted : decision.decision = .accepted → row.signal.priority ≠ .high →
      Vetted policy row requestedAt u)
    (hstaged : decision.decision = .accepted → left →
      Staged (dbOf v) row.wakeSignalId (boundConversation policy))
    (hunstaged : decision.decision ≠ .accepted → Unstaged left v row) :
    Yields policy left answers i
      (Background.recordWakeSignalDecision row.wakeSignalId decision requestedAt cools)
      (fun _ _ => True) v := by
  apply yields_onWakeSignals
  intro w now effect hinv hlater hbody
  obtain rfl := Except.ok.inj hbody
  have hrow' : InReview i w row := (hrow.later hrely).later hlater
  have hchange : WellDecided policy left w row
      (Background.reviewed now decision requestedAt cools row) := by
    constructor
    · rfl
    · rfl
    · show Background.wakeSignalStatusForDecision decision.decision ≠ _
      cases decision.decision <;> rintro ⟨⟩
    · refine fun _ => ⟨requestedAt, rfl, fun hstatus => ?_⟩
      apply cooldownUntil_eq_ok hcools
      intro hrejected
      apply hstatus
      show Background.wakeSignalStatusForDecision decision.decision = _
      rw [hrejected]
      rfl
    · rintro ⟨hstatus, hpriority⟩ reviewedAt hat
      obtain rfl := Option.some.inj hat
      exact ((hvetted (wakeSignalStatusForDecision_eq_accepted hstatus) hpriority).later hrow
        (hrely.trans hlater.weaken) hinv).few
    · rintro ⟨hstatus, hpriority⟩ reviewedAt hat
      obtain rfl := Option.some.inj hat
      exact ((hvetted (wakeSignalStatusForDecision_eq_accepted hstatus) hpriority).later hrow
        (hrely.trans hlater.weaken) hinv).clear
    · intro hleft hstatus
      exact Staged.later (hstaged (wakeSignalStatusForDecision_eq_accepted hstatus))
        (hrow.later hrely) hlater hleft
    · intro hleft hstatus
      refine (hunstaged ?_).later (hrow.later hrely) hlater hleft
      intro haccepted
      apply hstatus
      show Background.wakeSignalStatusForDecision decision.decision = _
      rw [haccepted]
      rfl
  exact ⟨⟨hinv.decided hrow' hchange, fun j hne => Relies.decided hinv hrow' rfl hne⟩, trivial⟩

/-- What is known once the staging is done. -/
structure Placed (policy : WakeSignalPolicy) (left : Prop) (i : ι) (v : Shared unconscious ι)
    (row : WakeSignalRecord) (kind : WakeSignalDecisionKind) (w : Shared unconscious ι) : Prop where
  rely : Relies False i v w
  staged : kind = .accepted → left →
    Staged (dbOf w) row.wakeSignalId (boundConversation policy)
  unstaged : kind ≠ .accepted → Unstaged left w row

/-- After the staging an accepted signal has its ingress, and any other has none. -/
theorem yields_stageAcceptedSignal (hrow : InReview i v row) (hunstaged : Unstaged left v row) :
    Yields policy left answers i (stageAcceptedSignal policy leased row decision)
      (fun result w => result.1.decision = decision.decision ∧
        Placed policy left i v row decision.decision w) v := by
  unfold stageAcceptedSignal
  split
  · rename_i haccepted
    cases hbinding : policy.foregroundBinding with
    | none => exact yields_fail _
    | some binding =>
      show Yields policy left answers i
        ((Foreground.stageApprovedWakeSignalForegroundIngress binding row).lift.bind _) _ v
      apply yields_bind (yields_stageApprovedWakeSignal hrow hbinding)
      rintro outcome w ⟨hrely, hstaged⟩
      have hplaced : ∀ w', Relies left i w w' →
          Placed policy left i v row decision.decision w' := by
        intro w' hlater
        refine ⟨hrely.trans hlater.weaken, fun _ => ?_, fun hother => absurd haccepted hother⟩
        exact Staged.later hstaged (hrow.later hrely) hlater
      cases outcome with
      | accepted staged =>
        apply yields_bind (R := fun _ w' => Relies left i w w')
        · exact yields_writeWakeSignalAuditEvent fun _ hlater => hlater
        · exact fun _ w' hlater => yields_ret ⟨rfl, hplaced w' hlater⟩
      | duplicate duplicate =>
        apply yields_bind (R := fun _ w' => Relies left i w w')
        · exact yields_writeWakeSignalAuditEvent fun _ hlater => hlater
        · exact fun _ w' hlater => yields_ret ⟨haccepted.symm, hplaced w' hlater⟩
      | rejected rejected => exact yields_fail _
  · rename_i haccepted
    exact yields_ret ⟨rfl, Relies.refl _ _ _, fun h => absurd h haccepted, fun _ => hunstaged⟩

theorem yields_recoverRejected {R : Unit → Shared unconscious ι → Prop}
    (h : ∀ w, Relies left i v w → R () w) :
    Yields policy left answers i (recoverRejected row decision requestedAt).lift R v := by
  apply yields_beside
  · unfold recoverRejected
    split
    · refine Prog.Confined.bind (Prog.Confined.mapError ?_) fun _ => Prog.confined_ret _
      unfold Recovery.recoverWakeSignalPolicyBlock
      refine Prog.Confined.bind (confined_newUuid fun _ => rfl) fun _ => ?_
      refine Prog.Confined.bind (confined_newUuid fun _ => rfl) fun _ => ?_
      exact Recovery.issueRecoveryTrigger_confined (fun _ _ _ _ _ => rfl) _ _ _ _
    · exact Prog.confined_ret _
  · exact fun _ w hrely => h w hrely

end Deciding

/-! ## The whole review -/

theorem yields_persistWakeSignal {leased : LeasedBackgroundExecution}
    {identitySnapshot : CompactIdentitySnapshot} {summary : WakeSignalPersistenceSummary}
    {signal : WakeSignal} :
    Yields policy left answers i
      (persistWakeSignal policy leased identitySnapshot summary signal) (fun _ _ => True) v := by
  unfold persistWakeSignal
  apply yields_bind (R := fun _ _ => True)
  · exact yields_ofExcept fun _ _ => trivial
  intro _ w _
  apply yields_bind (R := fun _ _ => True)
  · exact yields_beside (confined_utcNow fun _ => rfl) fun _ _ _ => trivial
  intro requestedAt w _
  apply yields_bind yields_recordWakeSignal
  rintro row u ⟨hrow, hunstaged⟩
  apply yields_bind (yields_reviewWakeSignal hrow)
  rintro decision u' ⟨hrely, hvetted⟩
  replace hunstaged := hunstaged.later hrow hrely
  replace hrow := hrow.later hrely
  apply yields_bind (R := fun cools w => u' = w ∧
    cooldownUntil policy.config decision.decision requestedAt = .ok cools)
  · exact yields_ofExcept fun _ hcools => ⟨rfl, hcools⟩
  rintro cools _ ⟨rfl, hcools⟩
  apply yields_bind (R := fun _ w => Relies left i u' w)
  · exact yields_recoverRejected fun _ hlater => hlater
  intro _ w hlater
  apply yields_bind (yields_stageAcceptedSignal (hrow.later hlater)
    (hunstaged.later hrow hlater))
  rintro ⟨persisted, stagedCount⟩ w' ⟨hkind, hplaced⟩
  dsimp only at hkind ⊢
  apply yields_bind (R := fun _ _ => True)
  · refine yields_recordWakeSignalDecision hrow (hlater.weaken.trans hplaced.rely) ?_ ?_ ?_ ?_
    · rw [hkind]
      exact hcools
    · rw [hkind]
      exact hvetted
    · rw [hkind]
      exact hplaced.staged
    · rw [hkind]
      exact hplaced.unstaged
  intro _ w _
  apply yields_bind (R := fun _ _ => True)
  · exact yields_writeWakeSignalAuditEvent fun _ _ => trivial
  · exact fun _ w _ => yields_ret trivial

theorem yields_persistWakeSignals {leased : LeasedBackgroundExecution}
    {wakeSignals : List WakeSignal} :
    Yields policy left answers i (persistWakeSignals policy leased wakeSignals)
      (fun _ _ => True) v := by
  unfold persistWakeSignals
  apply yields_bind (R := fun _ _ => True)
  · exact yields_beside (Identity.reconstructCompactIdentitySnapshot_confined (fun _ => rfl) _)
      fun _ _ _ => trivial
  intro identitySnapshot w _
  refine Protocol.wp_mono (fun _ _ _ _ _ => trivial) (Protocol.wp_foldlM
    (P := reviewProtocol policy left answers ι) (i := i)
    (f := persistWakeSignal policy leased identitySnapshot) (I := fun _ _ => True)
    (E := fun _ _ => True) wakeSignals ?_ {} w trivial)
  intro summary signal w _ _
  apply Protocol.wp_mono ?_ yields_persistWakeSignal
  intro r _ _
  cases r <;> trivial

end BlueLagoon.WakeSignals
