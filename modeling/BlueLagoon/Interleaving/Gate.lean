import BlueLagoon.Interleaving.Semantics
import Mathlib.Logic.Function.Basic

/-!
# Gates

Threads plan actions and send them. Some actions may be sent at once; the others wait for a
permission, which is asked for by the fingerprint of the action and granted or refused once. The
thread whose step grants a permission may send one action that waits for it. An action may be
held back after it was planned, and waits for a permission from then on.

`Step` is what a thread may do, with what it has to know beforehand; `Rely` is what a thread
knows that no step of another thread takes away. Whatever the threads do, no action is sent
twice, and one that has to wait is sent only after its permission was granted.
-/

namespace Interleaving.Gate

/-- What the log tells of the gate. -/
inductive Event (A F Q : Type)
  /-- An action was planned; whether it may be sent at once. -/
  | planned (a : A) (f : F) (free : Bool)
  /-- An action is held back. -/
  | escalated (a : A)
  /-- A permission was granted or refused. -/
  | resolved (q : Q) (f : F) (granted : Bool)
  /-- An action was sent. -/
  | sent (a : A)

/-- The actions with their fingerprints and the permissions they wait for, the permissions with
what they are for and whether they are open, and the log. -/
structure State (ι A F Q : Type) where
  ties : A → Option (F × Option Q)
  asks : Q → Option (F × Bool)
  log : List (ι × Event A F Q)

variable {ι A F Q : Type}

/-- The action was not sent, and waits for no permission. -/
structure Unsent (a : A) (s : State ι A F Q) : Prop where
  quiet : ∀ j, (j, .sent a) ∉ s.log
  unlinked : ∀ f q, s.ties a ≠ some (f, some q)

/-- The action was not held back. -/
def Unescalated (a : A) (s : State ι A F Q) : Prop := ∀ j, (j, .escalated a) ∉ s.log

/-- No action that waits for the permission was sent. -/
def Unspent (q : Q) (s : State ι A F Q) : Prop :=
  ∀ a f, s.ties a = some (f, some q) → ∀ j, (j, .sent a) ∉ s.log

/-- The thread planned the action, and it may be sent at once. -/
structure Free (i : ι) (a : A) (s : State ι A F Q) : Prop where
  planned : ∃ f, (i, .planned a f true) ∈ s.log
  unescalated : Unescalated a s
  unlinked : ∀ f q, s.ties a ≠ some (f, some q)

/-- What allows the thread to send the action. -/
inductive Permit (i : ι) (a : A) (s : State ι A F Q) : Prop
  | free (free : Free i a s) (unsent : Unsent a s)
  | granted (q : Q) (f : F) (tied : s.ties a = some (f, some q)) (unspent : Unspent q s)
      (grant : ∃ f', (i, .resolved q f' true) ∈ s.log)

section Steps

variable [DecidableEq A] [DecidableEq Q]

/-- What a thread may do. -/
inductive Step (i : ι) (s : State ι A F Q) : State ι A F Q → Prop
  | idle : Step i s s
  | planned (a : A) (f : F) (free : Bool) (fresh : s.ties a = none) :
      Step i s { s with
        ties := Function.update s.ties a (some (f, none))
        log := s.log ++ [(i, .planned a f free)] }
  | asked (q : Q) (f : F) (fresh : s.asks q = none) :
      Step i s { s with asks := Function.update s.asks q (some (f, true)) }
  | attached (a : A) (f : F) (free : Bool) (q : Q) (pending : Bool)
      (mine : (i, .planned a f free) ∈ s.log) (unsent : Unsent a s)
      (asked : s.asks q = some (f, pending)) :
      Step i s { s with ties := Function.update s.ties a (some (f, some q)) }
  | resolved (q : Q) (f f' : F) (granted : Bool) (pending : s.asks q = some (f, true))
      (same : granted = true → f' = f) :
      Step i s { s with
        asks := Function.update s.asks q (some (f, false))
        log := s.log ++ [(i, .resolved q f' granted)] }
  | escalated (a : A) (f : F) (free : Bool) (mine : (i, .planned a f free) ∈ s.log)
      (unsent : Unsent a s) : Step i s { s with log := s.log ++ [(i, .escalated a)] }
  | sent (a : A) (known : s.ties a ≠ none) (permit : Permit i a s) :
      Step i s { s with log := s.log ++ [(i, .sent a)] }

end Steps

/-! ## What a thread can rely on -/

/-- What the steps of others leave to thread `i`. -/
structure Rely (i : ι) (s t : State ι A F Q) : Prop where
  log : s.log ⊆ t.log
  ties : ∀ a f link, s.ties a = some (f, link) →
    ∃ link', t.ties a = some (f, link') ∧ ∀ q, link = some q → link' = some q
  asks : ∀ q f pending, s.asks q = some (f, pending) → ∃ pending', t.asks q = some (f, pending')
  unsent : ∀ a f free, (i, .planned a f free) ∈ s.log → Unsent a s → Unsent a t
  unescalated : ∀ a f free, (i, .planned a f free) ∈ s.log → Unescalated a s → Unescalated a t
  unspent : ∀ q f granted, (i, .resolved q f granted) ∈ s.log → Unspent q s → Unspent q t

namespace Rely

variable {i : ι} {s t u : State ι A F Q}

theorem refl (i : ι) (s : State ι A F Q) : Rely i s s where
  log := List.Subset.refl _
  ties := fun _ _ link h => ⟨link, h, fun _ hq => hq⟩
  asks := fun _ _ pending h => ⟨pending, h⟩
  unsent := fun _ _ _ _ h => h
  unescalated := fun _ _ _ _ h => h
  unspent := fun _ _ _ _ h => h

theorem trans (h : Rely i s t) (h' : Rely i t u) : Rely i s u where
  log := List.Subset.trans h.log h'.log
  ties := by
    intro a f link htie
    obtain ⟨link', htie', hlink⟩ := h.ties a f link htie
    obtain ⟨link'', htie'', hlink'⟩ := h'.ties a f link' htie'
    exact ⟨link'', htie'', fun q hq => hlink' q (hlink q hq)⟩
  asks := by
    intro q f pending hask
    obtain ⟨pending', hask'⟩ := h.asks q f pending hask
    exact h'.asks q f pending' hask'
  unsent := fun a f free hmine hunsent =>
    h'.unsent a f free (h.log hmine) (h.unsent a f free hmine hunsent)
  unescalated := fun a f free hmine hunescalated =>
    h'.unescalated a f free (h.log hmine) (h.unescalated a f free hmine hunescalated)
  unspent := fun q f granted hmine hunspent =>
    h'.unspent q f granted (h.log hmine) (h.unspent q f granted hmine hunspent)

/-- What allows a thread to send an action is not taken away. -/
theorem permit (h : Rely i s t) {a : A} (hpermit : Permit i a s) : Permit i a t := by
  cases hpermit with
  | free hfree hunsent =>
    obtain ⟨f, hplanned⟩ := hfree.planned
    have hunsent' := h.unsent a f true hplanned hunsent
    exact .free ⟨⟨f, h.log hplanned⟩, h.unescalated a f true hplanned hfree.unescalated,
      hunsent'.unlinked⟩ hunsent'
  | granted q f htied hunspent hgrant =>
    obtain ⟨f', hresolved⟩ := hgrant
    obtain ⟨link', htied', hlink⟩ := h.ties a f _ htied
    obtain rfl := hlink q rfl
    exact .granted q f htied' (h.unspent q f' true hresolved hunspent) ⟨f', h.log hresolved⟩

end Rely

/-! ## The invariant -/

/-- Thread `i` granted the permission the action waits for. -/
def Approved (before : List (ι × Event A F Q)) (i : ι) (a : A) (s : State ι A F Q) : Prop :=
  ∃ q f, s.ties a = some (f, some q) ∧ (i, .resolved q f true) ∈ before

/-- What holds after every step. -/
structure Sound (s : State ι A F Q) : Prop where
  linked : ∀ a f q, s.ties a = some (f, some q) → ∃ pending, s.asks q = some (f, pending)
  recorded : ∀ i a f free, (i, .planned a f free) ∈ s.log → ∃ link, s.ties a = some (f, link)
  plannedOnce : ∀ i j a f f' free free', (i, .planned a f free) ∈ s.log →
    (j, .planned a f' free') ∈ s.log → i = j ∧ f = f' ∧ free = free'
  known : ∀ j a, (j, .sent a) ∈ s.log ∨ (j, .escalated a) ∈ s.log → s.ties a ≠ none
  settled : ∀ i q f granted, (i, .resolved q f granted) ∈ s.log →
    ∃ f', s.asks q = some (f', false) ∧ (granted = true → f = f')
  settledBy : ∀ i j q f f' granted granted', (i, .resolved q f granted) ∈ s.log →
    (j, .resolved q f' granted') ∈ s.log → i = j
  passed : ∀ before after i a, s.log = before ++ (i, .sent a) :: after →
    (∀ j, (j, .sent a) ∉ before) ∧ (Free i a s ∨ Approved before i a s)
  spentOnce : ∀ i j a b f g q, (i, .sent a) ∈ s.log → (j, .sent b) ∈ s.log →
    s.ties a = some (f, some q) → s.ties b = some (g, some q) → a = b

/-- Before anything happened, it is enough that the permissions fit the actions. -/
theorem Sound.start {s : State ι A F Q} (hlog : s.log = [])
    (hlinked : ∀ a f q, s.ties a = some (f, some q) → ∃ pending, s.asks q = some (f, pending)) :
    Sound s where
  linked := hlinked
  recorded := by simp [hlog]
  plannedOnce := by simp [hlog]
  known := by simp [hlog]
  settled := by simp [hlog]
  settledBy := by simp [hlog]
  passed := by simp [hlog]
  spentOnce := by simp [hlog]

/-- **Soundness of the gate.** An action is sent once: by the thread that planned it, if it may be
sent at once and was not held back, or else by the thread that granted its permission, after that.
Nothing else is sent on that permission. -/
theorem Sound.sent {s : State ι A F Q} (h : Sound s) {before after : List (ι × Event A F Q)}
    {i : ι} {a : A} (hlog : s.log = before ++ (i, .sent a) :: after) :
    (∀ j, (j, .sent a) ∉ before ∧ (j, .sent a) ∉ after) ∧
      (Free i a s ∨ ∃ q f, s.ties a = some (f, some q) ∧ (i, .resolved q f true) ∈ before ∧
        ∀ b g, b ≠ a → s.ties b = some (g, some q) → ∀ j, (j, .sent b) ∉ s.log) := by
  obtain ⟨hbefore, hpassed⟩ := h.passed before after i a hlog
  refine ⟨fun j => ⟨hbefore j, fun hafter => ?_⟩, ?_⟩
  · obtain ⟨mid, rest, rfl⟩ := List.append_of_mem hafter
    have hlog' : s.log = (before ++ (i, .sent a) :: mid) ++ (j, .sent a) :: rest := by
      rw [hlog, List.append_assoc, List.cons_append]
    exact (h.passed _ _ j a hlog').1 i (List.mem_append_right _ List.mem_cons_self)
  · refine hpassed.imp id fun ⟨q, f, htied, hgrant⟩ => ⟨q, f, htied, hgrant, ?_⟩
    intro b g hne htied' j hsent
    have hsent' : (i, .sent a) ∈ s.log := by
      rw [hlog]
      exact List.mem_append_right _ List.mem_cons_self
    exact hne (h.spentOnce j i b a g f q hsent hsent' htied' htied)

/-- Nothing was sent on a permission that is still open. -/
theorem Sound.unspent_of_open {s : State ι A F Q} (h : Sound s) {q : Q} {f : F}
    (hopen : s.asks q = some (f, true)) : Unspent q s := by
  intro a f' htie j hsent
  obtain ⟨before, after, hlog⟩ := List.append_of_mem hsent
  rcases (h.passed before after j a hlog).2 with hfree | ⟨q', g, htie', hgrant⟩
  · exact hfree.unlinked f' q htie
  · obtain ⟨-, hlink⟩ := Prod.mk.inj (Option.some.inj (htie'.symm.trans htie))
    obtain rfl := Option.some.inj hlink
    have hresolved : (j, .resolved q' g true) ∈ s.log := by
      rw [hlog]
      exact List.mem_append_left _ hgrant
    obtain ⟨f'', hclosed, -⟩ := h.settled j q' g true hresolved
    cases (Prod.mk.inj (Option.some.inj (hopen.symm.trans hclosed))).2

/-! ## Every step keeps it -/

section Steps

variable {i j : ι} {s t : State ι A F Q} {a : A}

/-- What may be sent was not sent before. -/
theorem Permit.quiet (h : Permit i a s) (k : ι) : (k, .sent a) ∉ s.log := by
  cases h with
  | free free unsent => exact unsent.quiet k
  | granted q f tied unspent grant => exact unspent a f tied k

/-- What is added to a log besides `sent` entries leaves what was sent before it. -/
theorem sent_of_append {log : List (ι × Event A F Q)} {e : Event A F Q}
    (hother : e ≠ .sent a) {before after : List (ι × Event A F Q)}
    (h : log ++ [(i, e)] = before ++ (j, .sent a) :: after) :
    ∃ after', log = before ++ (j, .sent a) :: after' := by
  rcases split_concat h with hold | ⟨-, hlast⟩
  · exact hold
  · exact absurd (Prod.mk.inj hlast).2.symm hother

theorem mem_concat {log : List (ι × Event A F Q)} {e e' : Event A F Q} :
    (j, e') ∈ log ++ [(i, e)] ↔ (j, e') ∈ log ∨ j = i ∧ e' = e := by
  rw [List.mem_append, List.mem_singleton, Prod.mk.injEq]

theorem concat_inj {log : List (ι × Event A F Q)} {e e' : Event A F Q}
    (h : log ++ [(i, e)] = log ++ [(i, e')]) : e = e' :=
  (Prod.mk.inj (List.cons.inj (List.append_cancel_left h)).1).2

theorem sent_of_concat {log : List (ι × Event A F Q)} {e : Event A F Q}
    (hother : e ≠ .sent a) (h : (j, .sent a) ∈ log ++ [(i, e)]) : (j, .sent a) ∈ log := by
  rcases mem_concat.mp h with hold | ⟨-, heq⟩
  · exact hold
  · exact absurd heq.symm hother

/-- What was not sent is not sent by an entry of another kind. -/
theorem quiet_concat {log : List (ι × Event A F Q)} {e : Event A F Q}
    (h : ∀ k, (k, .sent a) ∉ log) (hother : e ≠ .sent a) (k : ι) :
    (k, .sent a) ∉ log ++ [(i, e)] := by
  exact fun hmem => h k (sent_of_concat hother hmem)

theorem Unsent.concat {e : Event A F Q} {asks : Q → Option (F × Bool)} (h : Unsent a s)
    (hother : e ≠ .sent a) :
    Unsent a { ties := s.ties, asks := asks, log := s.log ++ [(i, e)] } :=
  ⟨quiet_concat h.quiet hother, h.unlinked⟩

theorem Unescalated.concat {e : Event A F Q} {ties : A → Option (F × Option Q)}
    {asks : Q → Option (F × Bool)} (h : Unescalated a s) (hother : e ≠ .escalated a) :
    Unescalated a { ties := ties, asks := asks, log := s.log ++ [(i, e)] } := by
  intro k hmem
  rcases mem_concat.mp hmem with hold | ⟨-, heq⟩
  · exact h k hold
  · exact hother heq.symm

variable [DecidableEq A]

/-- The tie of an action after another one has changed, or after its own has. -/
theorem ties_update_eq {ties : A → Option (F × Option Q)} {b : A} {tie tie' : F × Option Q}
    (h : Function.update ties b (some tie) a = some tie') :
    (a = b ∧ tie = tie') ∨ (a ≠ b ∧ ties a = some tie') := by
  rcases eq_or_ne a b with rfl | hne
  · rw [Function.update_self] at h
    exact Or.inl ⟨rfl, Option.some.inj h⟩
  · rw [Function.update_of_ne hne] at h
    exact Or.inr ⟨hne, h⟩

variable [DecidableEq Q]

theorem Step.log_subset (step : Step i s t) : s.log ⊆ t.log := by
  cases step with
  | idle | asked | attached => exact List.Subset.refl _
  | planned | resolved | escalated | sent => exact List.subset_append_left _ _

/-- An action keeps its fingerprint, and the permission it waits for. -/
theorem Step.ties (step : Step i s t) {f : F} {link : Option Q} (h : s.ties a = some (f, link))
    (hsound : Sound s) :
    ∃ link', t.ties a = some (f, link') ∧ ∀ q, link = some q → link' = some q := by
  cases step with
  | idle | asked | resolved | escalated | sent => exact ⟨link, h, fun _ hq => hq⟩
  | planned b g free fresh =>
    have hne : a ≠ b := fun heq => by
      rw [heq, fresh] at h
      cases h
    exact ⟨link, (Function.update_of_ne hne _ _).trans h, fun _ hq => hq⟩
  | attached b g free q pending mine unsent asked =>
    rcases eq_or_ne a b with rfl | hne
    · obtain ⟨link', hrecorded⟩ := hsound.recorded i a g free mine
      obtain ⟨rfl, rfl⟩ := Prod.mk.inj (Option.some.inj (hrecorded.symm.trans h))
      refine ⟨some q, Function.update_self .., fun q' hq' => ?_⟩
      rw [hq'] at h
      exact absurd h (unsent.unlinked _ _)
    · exact ⟨link, (Function.update_of_ne hne _ _).trans h, fun _ hq => hq⟩

/-- A permission stays what it is for. -/
theorem Step.asks (step : Step i s t) {q : Q} {f : F} {pending : Bool}
    (h : s.asks q = some (f, pending)) :
    ∃ pending', t.asks q = some (f, pending') ∧ (pending = false → pending' = false) := by
  cases step with
  | idle | planned | attached | escalated | sent => exact ⟨pending, h, id⟩
  | asked r g fresh =>
    have hne : q ≠ r := fun heq => by
      rw [heq, fresh] at h
      cases h
    exact ⟨pending, (Function.update_of_ne hne _ _).trans h, id⟩
  | resolved r g g' granted open_ same =>
    rcases eq_or_ne q r with rfl | hne
    · obtain ⟨rfl, -⟩ := Prod.mk.inj (Option.some.inj (open_.symm.trans h))
      exact ⟨false, Function.update_self .., fun _ => rfl⟩
    · exact ⟨pending, (Function.update_of_ne hne _ _).trans h, id⟩

/-- The thread that planned an action is the only one that works on it before it waits for a
permission. -/
theorem Step.unsent (step : Step i s t) (hsound : Sound s) (hne : j ≠ i) {f : F} {free : Bool}
    (mine : (j, .planned a f free) ∈ s.log) (h : Unsent a s) : Unsent a t := by
  have hother : ∀ b g free', (i, .planned b g free') ∈ s.log → a ≠ b := by
    rintro b g free' hplanned rfl
    exact hne (hsound.plannedOnce j i a f g free free' mine hplanned).1
  cases step with
  | idle | asked => exact ⟨h.quiet, h.unlinked⟩
  | resolved q g g' granted pending same => exact h.concat (by simp)
  | escalated b g free' mine' unsent => exact h.concat (by simp)
  | planned b g free' fresh =>
    have hab : a ≠ b := fun heq => by
      obtain ⟨link, hrecorded⟩ := hsound.recorded j a f free mine
      rw [heq, fresh] at hrecorded
      cases hrecorded
    refine ⟨quiet_concat h.quiet (by simp), fun f' q htie => ?_⟩
    rcases ties_update_eq htie with ⟨heq, -⟩ | ⟨-, hold⟩
    · exact hab heq
    · exact h.unlinked f' q hold
  | attached b g free' q pending mine' unsent asked =>
    refine ⟨h.quiet, fun f' q' htie => ?_⟩
    rcases ties_update_eq htie with ⟨heq, -⟩ | ⟨-, hold⟩
    · exact hother b g free' mine' heq
    · exact h.unlinked f' q' hold
  | sent b known permit =>
    refine h.concat fun heq => ?_
    obtain rfl := Event.sent.inj heq
    cases permit with
    | free free unsent =>
      obtain ⟨g, hplanned⟩ := free.planned
      exact hother b g true hplanned rfl
    | granted q g tied unspent grant => exact h.unlinked g q tied

/-- Only the thread that resolved a permission spends it. -/
theorem Step.unspent (step : Step i s t) (hsound : Sound s) (hne : j ≠ i) {q : Q} {f : F}
    {granted : Bool} (mine : (j, .resolved q f granted) ∈ s.log) (h : Unspent q s) :
    Unspent q t := by
  have hlog : ∀ {e : Event A F Q}, (∀ b, e ≠ .sent b) → ∀ b g, s.ties b = some (g, some q) →
      ∀ k, (k, .sent b) ∉ s.log ++ [(i, e)] := by
    intro e hothers b g htie k hmem
    rcases mem_concat.mp hmem with hold | ⟨-, heq⟩
    · exact h b g htie k hold
    · exact hothers b heq.symm
  cases step with
  | idle | asked => exact h
  | resolved r g g' granted' pending same => exact hlog (by simp)
  | escalated b g free' mine' unsent => exact hlog (by simp)
  | planned b g free' fresh =>
    intro c g' htie
    rcases ties_update_eq htie with ⟨-, heq⟩ | ⟨-, hold⟩
    · exact absurd (Prod.mk.inj heq).2 (by simp)
    · exact hlog (by simp) c g' hold
  | attached b g free' r pending mine' unsent asked =>
    intro c g' htie
    rcases ties_update_eq htie with ⟨rfl, -⟩ | ⟨-, hold⟩
    · exact unsent.quiet
    · exact h c g' hold
  | sent b known permit =>
    intro c g htie k hmem
    rcases mem_concat.mp hmem with hold | ⟨-, heq⟩
    · exact h c g htie k hold
    · obtain rfl := Event.sent.inj heq
      cases permit with
      | free free unsent => exact unsent.unlinked g q htie
      | granted r g' tied unspent grant =>
        obtain ⟨f', hresolved⟩ := grant
        obtain ⟨-, hlink⟩ := Prod.mk.inj (Option.some.inj (tied.symm.trans htie))
        obtain rfl := Option.some.inj hlink
        exact hne (hsound.settledBy j i r f f' granted true mine hresolved)

/-- No step takes away what another thread relies on. -/
theorem Step.rely (step : Step i s t) (hsound : Sound s) (hne : j ≠ i) : Rely j s t where
  log := step.log_subset
  ties := fun _ _ _ h => step.ties h hsound
  asks := fun q f pending h => by
    obtain ⟨pending', hask, -⟩ := step.asks h
    exact ⟨pending', hask⟩
  unsent := fun _ _ _ mine h => step.unsent hsound hne mine h
  unescalated := by
    intro a f free mine h
    cases step with
    | idle | asked | attached => exact h
    | planned | resolved | sent => exact h.concat (by simp)
    | escalated b g free' mine' unsent =>
      refine h.concat fun heq => ?_
      obtain rfl := Event.escalated.inj heq
      exact hne (hsound.plannedOnce j i b f g free free' mine mine').1
  unspent := fun _ _ _ mine h => step.unspent hsound hne mine h

omit [DecidableEq A] in
/-- Asking for a permission takes nothing away from the thread that asks. -/
theorem rely_asked {q : Q} {f : F} (hfresh : s.asks q = none) :
    Rely i s { s with asks := Function.update s.asks q (some (f, true)) } where
  log := List.Subset.refl _
  ties := fun _ _ link h => ⟨link, h, fun _ hq => hq⟩
  asks := fun r g pending h => by
    have hne : r ≠ q := fun heq => by
      rw [heq, hfresh] at h
      cases h
    exact ⟨pending, (Function.update_of_ne hne _ _).trans h⟩
  unsent := fun _ _ _ _ h => ⟨h.quiet, h.unlinked⟩
  unescalated := fun _ _ _ _ h => h
  unspent := fun _ _ _ _ h => h

/-! ### One case of the invariant after the other -/

theorem Step.linked (step : Step i s t) (h : Sound s) {f : F} {q : Q}
    (htie : t.ties a = some (f, some q)) : ∃ pending, t.asks q = some (f, pending) := by
  have hold : s.ties a = some (f, some q) → ∃ pending, t.asks q = some (f, pending) := by
    intro htie
    obtain ⟨pending, hask⟩ := h.linked a f q htie
    obtain ⟨pending', hask', -⟩ := step.asks hask
    exact ⟨pending', hask'⟩
  cases step with
  | idle | asked | resolved | escalated | sent => exact hold htie
  | planned b g free fresh =>
    rcases ties_update_eq htie with ⟨-, heq⟩ | ⟨-, htie⟩
    · exact absurd (Prod.mk.inj heq).2 (by simp)
    · exact hold htie
  | attached b g free r pending mine unsent asked =>
    rcases ties_update_eq htie with ⟨-, heq⟩ | ⟨-, htie⟩
    · obtain ⟨rfl, hlink⟩ := Prod.mk.inj heq
      obtain rfl := Option.some.inj hlink
      exact ⟨pending, asked⟩
    · exact hold htie

/-- The entries of a step, one by one: it adds at most its own. -/
theorem Step.mem_log (step : Step i s t) {k : ι} {e : Event A F Q} (h : (k, e) ∈ t.log) :
    (k, e) ∈ s.log ∨ k = i ∧ t.log = s.log ++ [(i, e)] := by
  cases step with
  | idle | asked | attached => exact Or.inl h
  | planned | resolved | escalated | sent =>
    rcases mem_concat.mp h with hold | ⟨hk, rfl⟩
    · exact Or.inl hold
    · exact Or.inr ⟨hk, rfl⟩

/-- An action that is planned was unknown, and is recorded with its fingerprint. -/
theorem Step.planned_fresh (step : Step i s t) {f : F} {free : Bool}
    (h : t.log = s.log ++ [(i, .planned a f free)]) :
    s.ties a = none ∧ t.ties a = some (f, none) := by
  cases step with
  | idle | asked | attached => simp at h
  | planned b g free' fresh =>
    obtain ⟨rfl, rfl, rfl⟩ := Event.planned.inj (concat_inj h)
    exact ⟨fresh, Function.update_self ..⟩
  | resolved | escalated | sent => simp at h

/-- A permission that is resolved was open, and is closed from then on. -/
theorem Step.resolved_open (step : Step i s t) {q : Q} {f : F} {granted : Bool}
    (h : t.log = s.log ++ [(i, .resolved q f granted)]) :
    ∃ f', s.asks q = some (f', true) ∧ t.asks q = some (f', false) ∧
      (granted = true → f = f') := by
  cases step with
  | idle | asked | attached => simp at h
  | resolved r g g' granted' pending same =>
    obtain ⟨rfl, rfl, rfl⟩ := Event.resolved.inj (concat_inj h)
    exact ⟨g, pending, Function.update_self .., same⟩
  | planned | escalated | sent => simp at h

theorem Step.recorded (step : Step i s t) (h : Sound s) {k : ι} {f : F} {free : Bool}
    (hmem : (k, .planned a f free) ∈ t.log) : ∃ link, t.ties a = some (f, link) := by
  rcases step.mem_log hmem with hold | ⟨-, hnew⟩
  · obtain ⟨link, htie⟩ := h.recorded k a f free hold
    obtain ⟨link', htie', -⟩ := step.ties htie h
    exact ⟨link', htie'⟩
  · exact ⟨none, (step.planned_fresh hnew).2⟩

theorem Step.plannedOnce (step : Step i s t) (h : Sound s) {k l : ι} {f f' : F}
    {free free' : Bool} (hk : (k, .planned a f free) ∈ t.log)
    (hl : (l, .planned a f' free') ∈ t.log) : k = l ∧ f = f' ∧ free = free' := by
  -- A new entry is for an action that was not planned before.
  have hnone : ∀ {k : ι} {f g : F} {free free' : Bool}, (k, .planned a f free) ∈ s.log →
      t.log = s.log ++ [(i, .planned a g free')] → False := by
    intro k f g free free' hold hnew
    obtain ⟨link, htie⟩ := h.recorded k a f free hold
    rw [(step.planned_fresh hnew).1] at htie
    cases htie
  rcases step.mem_log hk with hk | ⟨rfl, hk⟩ <;> rcases step.mem_log hl with hl | ⟨rfl, hl⟩
  · exact h.plannedOnce k l a f f' free free' hk hl
  · exact (hnone hk hl).elim
  · exact (hnone hl hk).elim
  · obtain ⟨-, rfl, rfl⟩ := Event.planned.inj (concat_inj (hk.symm.trans hl))
    exact ⟨rfl, rfl, rfl⟩

/-- Only an action that was planned is sent or escalated. -/
theorem Step.known (step : Step i s t) (h : Sound s) {k : ι}
    (hmem : (k, .sent a) ∈ t.log ∨ (k, .escalated a) ∈ t.log) : t.ties a ≠ none := by
  have hold : s.ties a ≠ none → t.ties a ≠ none := by
    intro hne
    obtain ⟨⟨f, link⟩, htie⟩ := Option.ne_none_iff_exists'.mp hne
    obtain ⟨link', htie', -⟩ := step.ties htie h
    rw [htie']
    exact Option.some_ne_none _
  have hprior : (k, .sent a) ∈ s.log ∨ (k, .escalated a) ∈ s.log → t.ties a ≠ none :=
    fun hmem => hold (h.known k a hmem)
  cases step with
  | idle | asked | attached => exact hprior hmem
  | planned | resolved =>
    rcases hmem with hmem | hmem <;> rcases mem_concat.mp hmem with hmem | ⟨-, heq⟩
    · exact hprior (Or.inl hmem)
    · cases heq
    · exact hprior (Or.inr hmem)
    · cases heq
  | escalated b g free mine unsent =>
    rcases hmem with hmem | hmem <;> rcases mem_concat.mp hmem with hmem | ⟨-, heq⟩
    · exact hprior (Or.inl hmem)
    · cases heq
    · exact hprior (Or.inr hmem)
    · obtain rfl := Event.escalated.inj heq
      obtain ⟨link, htie⟩ := h.recorded i a g free mine
      exact hold (htie ▸ Option.some_ne_none _)
  | sent b known permit =>
    rcases hmem with hmem | hmem <;> rcases mem_concat.mp hmem with hmem | ⟨-, heq⟩
    · exact hprior (Or.inl hmem)
    · obtain rfl := Event.sent.inj heq
      exact known
    · exact hprior (Or.inr hmem)
    · cases heq

theorem Step.settled (step : Step i s t) (h : Sound s) {k : ι} {q : Q} {f : F}
    {granted : Bool} (hmem : (k, .resolved q f granted) ∈ t.log) :
    ∃ f', t.asks q = some (f', false) ∧ (granted = true → f = f') := by
  rcases step.mem_log hmem with hold | ⟨-, hnew⟩
  · obtain ⟨f', hask, hsame⟩ := h.settled k q f granted hold
    obtain ⟨pending', hask', hclosed⟩ := step.asks hask
    obtain rfl := hclosed rfl
    exact ⟨f', hask', hsame⟩
  · obtain ⟨f', -, hask, hsame⟩ := step.resolved_open hnew
    exact ⟨f', hask, hsame⟩

theorem Step.settledBy (step : Step i s t) (h : Sound s) {k l : ι} {q : Q} {f f' : F}
    {granted granted' : Bool} (hk : (k, .resolved q f granted) ∈ t.log)
    (hl : (l, .resolved q f' granted') ∈ t.log) : k = l := by
  -- A new entry is for a permission that was open, and so not resolved before.
  have hnone : ∀ {k : ι} {f g : F} {granted granted' : Bool},
      (k, .resolved q f granted) ∈ s.log →
      t.log = s.log ++ [(i, .resolved q g granted')] → False := by
    intro k f g granted granted' hold hnew
    obtain ⟨f', hask, -⟩ := h.settled k q f granted hold
    obtain ⟨f'', hopen, -⟩ := step.resolved_open hnew
    have heq := (Prod.mk.inj (Option.some.inj (hask.symm.trans hopen))).2
    cases heq
  rcases step.mem_log hk with hk | ⟨rfl, hk⟩ <;> rcases step.mem_log hl with hl | ⟨rfl, hl⟩
  · exact h.settledBy k l q f f' granted granted' hk hl
  · exact (hnone hk hl).elim
  · exact (hnone hl hk).elim
  · rfl

/-- What was sent at once is neither held back nor tied to a permission afterwards. -/
theorem Step.free (step : Step i s t) (h : Sound s) {k : ι} (hsent : (j, .sent a) ∈ s.log)
    (hfree : Free k a s) : Free k a t := by
  obtain ⟨f, hplanned⟩ := hfree.planned
  have hknown := h.known j a (Or.inl hsent)
  refine ⟨⟨f, step.log_subset hplanned⟩, ?_, fun f' q htie => ?_⟩
  · cases step with
    | idle | asked | attached => exact hfree.unescalated
    | planned | resolved | sent => exact hfree.unescalated.concat (by simp)
    | escalated b g free' mine unsent =>
      refine hfree.unescalated.concat fun heq => ?_
      obtain rfl := Event.escalated.inj heq
      exact unsent.quiet j hsent
  · cases step with
    | idle | asked | resolved | escalated | sent => exact hfree.unlinked f' q htie
    | planned b g free' fresh =>
      rcases ties_update_eq htie with ⟨rfl, -⟩ | ⟨-, hold⟩
      · exact hknown fresh
      · exact hfree.unlinked f' q hold
    | attached b g free' r pending mine unsent asked =>
      rcases ties_update_eq htie with ⟨rfl, -⟩ | ⟨-, hold⟩
      · exact unsent.quiet j hsent
      · exact hfree.unlinked f' q hold

theorem Step.approved (step : Step i s t) (h : Sound s) {k : ι}
    {before : List (ι × Event A F Q)} (happroved : Approved before k a s) :
    Approved before k a t := by
  obtain ⟨q, f, htie, hgrant⟩ := happroved
  obtain ⟨link', htie', hlink⟩ := step.ties htie h
  obtain rfl := hlink q rfl
  exact ⟨q, f, htie', hgrant⟩

/-- What is sent was not sent before, and it is free or was approved for the process that sends it.
-/
theorem Step.passed (step : Step i s t) (h : Sound s) {k : ι}
    {before after : List (ι × Event A F Q)} (hlog : t.log = before ++ (k, .sent a) :: after) :
    (∀ j, (j, .sent a) ∉ before) ∧ (Free k a t ∨ Approved before k a t) := by
  have hold : ∀ after', s.log = before ++ (k, .sent a) :: after' →
      (∀ j, (j, .sent a) ∉ before) ∧ (Free k a t ∨ Approved before k a t) := by
    intro after' hlog'
    obtain ⟨hquiet, hpassed⟩ := h.passed before after' k a hlog'
    have hsent : (k, .sent a) ∈ s.log := by
      rw [hlog']
      exact List.mem_append_right _ List.mem_cons_self
    exact ⟨hquiet, hpassed.imp (step.free h hsent) (step.approved h)⟩
  cases step with
  | idle | asked | attached => exact hold after hlog
  | planned | resolved | escalated =>
    obtain ⟨after', hlog'⟩ := sent_of_append (by simp) hlog
    exact hold after' hlog'
  | sent b known permit =>
    rcases split_concat hlog with ⟨after', hlog'⟩ | ⟨rfl, hlast⟩
    · exact hold after' hlog'
    · obtain ⟨rfl, heq⟩ := Prod.mk.inj hlast
      obtain rfl := Event.sent.inj heq
      refine ⟨permit.quiet, ?_⟩
      cases permit with
      | free free unsent =>
        obtain ⟨f, hplanned⟩ := free.planned
        exact Or.inl ⟨⟨f, List.mem_append_left _ hplanned⟩, free.unescalated.concat (by simp),
          free.unlinked⟩
      | granted q f tied unspent grant =>
        obtain ⟨f', hresolved⟩ := grant
        obtain ⟨pending, hask⟩ := h.linked a f q tied
        obtain ⟨f'', hask', hsame⟩ := h.settled k q f' true hresolved
        obtain rfl := (Prod.mk.inj (Option.some.inj (hask.symm.trans hask'))).1
        obtain rfl := hsame rfl
        exact Or.inr ⟨q, f', tied, hresolved⟩

/-- A grant is spent once: of the actions that are tied to one request, no two are sent. -/
theorem Step.spentOnce (step : Step i s t) (h : Sound s) {k l : ι} {b : A} {f g : F} {q : Q}
    (hsent : (k, .sent a) ∈ t.log) (hsent' : (l, .sent b) ∈ t.log)
    (htie : t.ties a = some (f, some q)) (htie' : t.ties b = some (g, some q)) : a = b := by
  cases step with
  | idle | asked => exact h.spentOnce k l a b f g q hsent hsent' htie htie'
  | resolved | escalated =>
    exact h.spentOnce k l a b f g q (sent_of_concat (by simp) hsent)
      (sent_of_concat (by simp) hsent') htie htie'
  | planned c g' free fresh =>
    rcases ties_update_eq htie with ⟨-, heq⟩ | ⟨-, htie⟩
    · cases (Prod.mk.inj heq).2
    · rcases ties_update_eq htie' with ⟨-, heq⟩ | ⟨-, htie'⟩
      · cases (Prod.mk.inj heq).2
      · exact h.spentOnce k l a b f g q (sent_of_concat (by simp) hsent)
          (sent_of_concat (by simp) hsent') htie htie'
  | attached c g' free r pending mine unsent asked =>
    -- What was sent is not attached to anything.
    rcases ties_update_eq htie with ⟨rfl, -⟩ | ⟨-, htie⟩
    · exact absurd hsent (unsent.quiet k)
    · rcases ties_update_eq htie' with ⟨rfl, -⟩ | ⟨-, htie'⟩
      · exact absurd hsent' (unsent.quiet l)
      · exact h.spentOnce k l a b f g q hsent hsent' htie htie'
  | sent c known permit =>
    -- The permission of what is sent now was not spent before.
    have hunspent : ∀ {c' : A} {f' g' : F} {m : ι}, s.ties c = some (f', some q) →
        (m, .sent c') ∈ s.log → s.ties c' ≠ some (g', some q) := by
      intro c' f' g' m hnow hold htied
      cases permit with
      | free free unsent => exact unsent.unlinked f' q hnow
      | granted r g'' tied unspent grant =>
        obtain ⟨-, hlink⟩ := Prod.mk.inj (Option.some.inj (tied.symm.trans hnow))
        obtain rfl := Option.some.inj hlink
        exact unspent c' g' htied m hold
    rcases mem_concat.mp hsent with hold | ⟨-, heq⟩ <;>
      rcases mem_concat.mp hsent' with hold' | ⟨-, heq'⟩
    · exact h.spentOnce k l a b f g q hold hold' htie htie'
    · obtain rfl := Event.sent.inj heq'
      exact absurd htie (hunspent htie' hold)
    · obtain rfl := Event.sent.inj heq
      exact absurd htie' (hunspent htie hold')
    · rw [Event.sent.inj heq, Event.sent.inj heq']

/-- Every step keeps the invariant. -/
theorem Step.sound (step : Step i s t) (h : Sound s) : Sound t where
  linked := fun _ _ _ htie => step.linked h htie
  recorded := fun _ _ _ _ hmem => step.recorded h hmem
  plannedOnce := fun _ _ _ _ _ _ _ hk hl => step.plannedOnce h hk hl
  known := fun _ _ hmem => step.known h hmem
  settled := fun _ _ _ _ hmem => step.settled h hmem
  settledBy := fun _ _ _ _ _ _ _ hk hl => step.settledBy h hk hl
  passed := fun _ _ _ _ hlog => step.passed h hlog
  spentOnce := fun _ _ _ _ _ _ _ hsent hsent' htie htie' =>
    step.spentOnce h hsent hsent' htie htie'

end Steps

end Interleaving.Gate
