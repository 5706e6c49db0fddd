import BlueLagoon.Interleaving.Semantics

/-!
# Rely and guarantee

Reasoning about one thread of a pool at a time. A `Protocol` fixes an invariant of
the shared state and, for each thread, what it may rely on while it is not
running. The weakest precondition `wp` of a thread asks of each of its own actions
that it keeps the invariant and stays within what every other thread relies on
(the thread's guarantee), and hands the thread the invariant and its own rely
condition in return. A pool whose threads all satisfy their preconditions at the
start keeps the invariant, and a thread that has finished has its postcondition.
-/

namespace Interleaving

/-- The discipline a pool of threads keeps. -/
structure Protocol (S : Sig) (ι : Type) where
  /-- What the outside world may answer. -/
  answers : Answers S
  /-- What holds between any two actions. -/
  Inv : Shared S ι → Prop
  /-- What a thread may assume about the moves of the others. -/
  Rely : ι → Shared S ι → Shared S ι → Prop
  rely_refl : ∀ i v, Rely i v v
  rely_trans : ∀ i u v w, Rely i u v → Rely i v w → Rely i u w

namespace Protocol

variable {S : Sig} {ι : Type} (P : Protocol S ι) {α β : Type}

/-- The move of thread `i` from `v` to `w` keeps the invariant, and no other thread
notices more than it is prepared for. -/
def Allows (i : ι) (v w : Shared S ι) : Prop :=
  P.Inv w ∧ ∀ j, j ≠ i → P.Rely j v w

/-- What a thread establishes about its outcome. -/
abbrev Post (S : Sig) (ι : Type) (α : Type) := Except S.Error α → Shared S ι → Prop

/-- From the moment `v` on, thread `i` running the program plays by the protocol and
ends in `Q`. -/
def wp (i : ι) : Prog S α → Post S ι α → Shared S ι → Prop
  | .ret a, Q, v => Q (.ok a) v
  | .fail e, Q, v => Q (.error e) v
  | .atomic act next, Q, v => ∀ w, P.Inv w → P.Rely i v w →
      P.Allows i w (w.push i (act w.state).1 (act w.state).2) ∧
        wp i (next w.state) Q (w.push i (act w.state).1 (act w.state).2)
  | .ask q next, Q, v => ∀ r, P.answers q r → wp i (next r) Q v

variable {P} {i : ι} {Q Q' : Post S ι α} {v w : Shared S ι}

@[simp] theorem wp_ret (a : α) : P.wp i (.ret a) Q v ↔ Q (.ok a) v := Iff.rfl

@[simp] theorem wp_fail (e : S.Error) : P.wp i (.fail e) Q v ↔ Q (.error e) v := Iff.rfl

theorem wp_mono {p : Prog S α} (h : ∀ r w, Q r w → Q' r w) (hp : P.wp i p Q v) :
    P.wp i p Q' v := by
  induction p generalizing v with
  | ret a => exact h _ _ hp
  | fail e => exact h _ _ hp
  | atomic act next ih =>
    intro w hinv hrely
    exact ⟨(hp w hinv hrely).1, ih _ (hp w hinv hrely).2⟩
  | ask q next ih => exact fun r hr => ih r (hp r hr)

/-- What is shown in two ways holds together. -/
theorem wp_and {p : Prog S α} (h : P.wp i p Q v) (h' : P.wp i p Q' v) :
    P.wp i p (fun r w => Q r w ∧ Q' r w) v := by
  induction p generalizing v with
  | ret a => exact ⟨h, h'⟩
  | fail e => exact ⟨h, h'⟩
  | atomic act next ih =>
    intro w hinv hrely
    exact ⟨(h w hinv hrely).1, ih _ (h w hinv hrely).2 (h' w hinv hrely).2⟩
  | ask q next ih => exact fun r hr => ih r (h r hr) (h' r hr)

/-- The postcondition a program needs when `f` comes after it. -/
def afterwards (P : Protocol S ι) (i : ι) (f : α → Prog S β) (Q : Post S ι β) : Post S ι α
  | .ok a, w => P.wp i (f a) Q w
  | .error e, w => Q (.error e) w

@[simp] theorem afterwards_ok (f : α → Prog S β) (Q : Post S ι β) (a : α) :
    afterwards P i f Q (.ok a) w ↔ P.wp i (f a) Q w := Iff.rfl

@[simp] theorem afterwards_error (f : α → Prog S β) (Q : Post S ι β) (e : S.Error) :
    afterwards P i f Q (.error e) w ↔ Q (.error e) w := Iff.rfl

theorem wp_bind {p : Prog S α} {f : α → Prog S β} {Q : Post S ι β} :
    P.wp i (p.bind f) Q v ↔ P.wp i p (afterwards P i f Q) v := by
  induction p generalizing v with
  | ret a => exact Iff.rfl
  | fail e => exact Iff.rfl
  | atomic act next ih =>
    simp only [Prog.bind, wp, ih]
  | ask q next ih =>
    simp only [Prog.bind, wp, ih]

/-- The rule of sequencing. -/
theorem wp_seq {p : Prog S α} {f : α → Prog S β} {R : Post S ι α} {Q : Post S ι β}
    (hp : P.wp i p R v) (hok : ∀ a w, R (.ok a) w → P.wp i (f a) Q w)
    (herr : ∀ e w, R (.error e) w → Q (.error e) w) : P.wp i (p.bind f) Q v := by
  rw [wp_bind]
  refine wp_mono (fun r w hr => ?_) hp
  cases r with
  | ok a => exact hok a w hr
  | error e => exact herr e w hr

theorem wp_attempt {p : Prog S α} {Q : Post S ι (Except S.Error α)} :
    P.wp i p.attempt Q v ↔ P.wp i p (fun r w => Q (.ok r) w) v := by
  induction p generalizing v with
  | ret a => exact Iff.rfl
  | fail e => exact Iff.rfl
  | atomic act next ih => simp only [Prog.attempt, wp, ih]
  | ask q next ih => simp only [Prog.attempt, wp, ih]

theorem wp_mapError {g : S.Error → S.Error} {p : Prog S α} :
    P.wp i (p.mapError g) Q v ↔ P.wp i p (fun r w => Q (r.mapError g) w) v := by
  induction p generalizing v with
  | ret a => exact Iff.rfl
  | fail e => exact Iff.rfl
  | atomic act next ih => simp only [Prog.mapError, wp, ih]
  | ask q next ih => simp only [Prog.mapError, wp, ih]

theorem wp_ofExcept {r : Except S.Error α} : P.wp i (.ofExcept r) Q v ↔ Q r v := by
  cases r <;> exact Iff.rfl

/-- A transaction: either it commits, or it changes nothing. -/
theorem wp_tx {body : S.State → Except S.Error (Commit S α)}
    (commit : ∀ w c, P.Inv w → P.Rely i v w → body w.state = .ok c →
      P.Allows i w (w.push i c.state c.events) ∧ Q (.ok c.value) (w.push i c.state c.events))
    (idle : ∀ w e, P.Inv w → P.Rely i v w → body w.state = .error e → Q (.error e) w) :
    P.wp i (.tx body) Q v := by
  intro w hinv hrely
  cases h : body w.state with
  | ok c =>
    have hact : Prog.txAct body w.state = (c.state, c.events) := by simp [Prog.txAct, h]
    simp only [hact, h, wp_ret]
    exact commit w c hinv hrely h
  | error e =>
    have hact : Prog.txAct body w.state = (w.state, []) := by simp [Prog.txAct, h]
    have hpush : w.push i w.state [] = w := by simp [Shared.push]
    simp only [hact, hpush, h, wp_fail]
    exact ⟨⟨hinv, fun j _ => P.rely_refl j w⟩, idle w e hinv hrely h⟩

theorem wp_emit {e : S.Event} {Q : Post S ι Unit}
    (h : ∀ w, P.Inv w → P.Rely i v w →
      P.Allows i w (w.push i w.state [e]) ∧ Q (.ok ()) (w.push i w.state [e])) :
    P.wp i (.emit e) Q v := h

/-- What a program returns whatever it meets, it returns here. -/
theorem wp_returns {R : α → Prop} {p : Prog S α} (hp : p.Returns R) (h : P.wp i p Q v) :
    P.wp i p (fun r w => (∀ a, r = .ok a → R a) ∧ Q r w) v := by
  induction p generalizing v with
  | ret a =>
    refine ⟨fun b hb => ?_, h⟩
    obtain rfl := Except.ok.inj hb
    exact hp
  | fail e => exact ⟨fun b hb => (by cases hb), h⟩
  | atomic act next ih =>
    intro w hinv hrely
    exact ⟨(h w hinv hrely).1, ih _ (hp w.state) (h w hinv hrely).2⟩
  | ask q next ih => exact fun r hr => ih r (hp r) (h r hr)

/-- What a loop keeps from one turn to the next, it keeps to its end. -/
theorem wp_foldlM {f : β → α → Prog S β} {I : β → Shared S ι → Prop}
    {E : S.Error → Shared S ι → Prop} (xs : List α)
    (turn : ∀ b x w, x ∈ xs → I b w → P.wp i (f b x) (fun r w => match r with
      | .ok b' => I b' w
      | .error e => E e w) w) (b : β) (v : Shared S ι) (hb : I b v) :
    P.wp i (.foldlM f b xs) (fun r w => match r with
      | .ok b' => I b' w
      | .error e => E e w) v := by
  induction xs generalizing b v with
  | nil => exact hb
  | cons x xs ih =>
    refine wp_seq (turn b x v (by simp) hb) (fun b' w hw => ?_) (fun e w hw => hw)
    exact ih (fun b x w hx => turn b x w (by simp [hx])) b' w hw

/-- A confined program whose actions are all allowed plays by the protocol, and any
preorder that both the others' moves and its own actions respect spans the whole run. -/
theorem wp_of_confined {A : S.State → S.State → List S.Event → Prop}
    {T : Shared S ι → Shared S ι → Prop} {p : Prog S α} (hp : p.Confined A)
    (refl : ∀ v, T v v) (trans : ∀ u v w, T u v → T v w → T u w)
    (rely : ∀ v w, P.Inv w → P.Rely i v w → T v w)
    (allowed : ∀ w s es, P.Inv w → A w.state s es →
      P.Allows i w (w.push i s es) ∧ T w (w.push i s es)) (v : Shared S ι) :
    P.wp i p (fun _ w => T v w) v := by
  suffices h : ∀ u, T v u → P.wp i p (fun _ w => T v w) u from h v (refl v)
  intro u hu
  induction p generalizing u with
  | ret a => exact hu
  | fail e => exact hu
  | atomic act next ih =>
    intro w hinv hrely
    have hstep := allowed w _ _ hinv (hp w.state).1
    exact ⟨hstep.1, ih _ (hp w.state).2 _
      (trans _ _ _ hu (trans _ _ _ (rely _ _ hinv hrely) hstep.2))⟩
  | ask q next ih => exact fun r _ => ih r (hp r) u hu

/-! ## Pools that keep a protocol -/

variable {ρ : ι → Type}

/-- Each thread, from some earlier moment that it can still rely on, plays by the
protocol to its postcondition. -/
def Kept (P : Protocol S ι) (Q : (i : ι) → Post S ι (ρ i)) (c : Config S ρ) : Prop :=
  P.Inv c.shared ∧ ∀ i, ∃ v, P.Rely i v c.shared ∧ P.wp i (c.threads i) (Q i) v

variable {Q : (i : ι) → Post S ι (ρ i)}

/-- A pool whose threads satisfy their preconditions at the start keeps the protocol. -/
theorem kept_of_wp {c : Config S ρ} (hinv : P.Inv c.shared)
    (hwp : ∀ i, P.wp i (c.threads i) (Q i) c.shared) : P.Kept Q c :=
  ⟨hinv, fun i => ⟨c.shared, P.rely_refl _ _, hwp i⟩⟩

/-- A finished thread had its postcondition at a moment it can still rely on. -/
theorem Kept.finished {c : Config S ρ} (h : P.Kept Q c) {i : ι} {r : Except S.Error (ρ i)}
    (hr : c.threads i = .ofExcept r) : ∃ v, P.Rely i v c.shared ∧ Q i r v := by
  obtain ⟨v, hrely, hwp⟩ := h.2 i
  rw [hr, wp_ofExcept] at hwp
  exact ⟨v, hrely, hwp⟩

variable [DecidableEq ι]

theorem Kept.step {c c' : Config S ρ} (h : P.Kept Q c) (step : Config.Step P.answers c c') :
    P.Kept Q c' := by
  obtain ⟨hinv, hthreads⟩ := h
  obtain ⟨i, step⟩ := step
  cases step with
  | atomic act next node =>
    obtain ⟨v, hrely, hwp⟩ := hthreads i
    rw [node] at hwp
    obtain ⟨⟨hinv', hothers⟩, hnext⟩ := hwp _ hinv hrely
    refine ⟨hinv', fun j => ?_⟩
    rcases eq_or_ne j i with rfl | hne
    · exact ⟨_, P.rely_refl _ _, by simpa using hnext⟩
    · obtain ⟨u, hu, hwpu⟩ := hthreads j
      refine ⟨u, P.rely_trans _ _ _ _ hu (hothers j hne), ?_⟩
      rwa [Config.advance_threads_of_ne hne]
  | ask q next node r given =>
    refine ⟨hinv, fun j => ?_⟩
    obtain ⟨u, hu, hwpu⟩ := hthreads j
    refine ⟨u, hu, ?_⟩
    rcases eq_or_ne j i with rfl | hne
    · rw [node] at hwpu
      simpa using hwpu r given
    · rwa [Config.advance_threads_of_ne hne]

/-- Soundness: the protocol is kept throughout the run. -/
theorem Kept.reachable {c c' : Config S ρ} (h : P.Kept Q c)
    (reach : Config.Reachable P.answers c c') : P.Kept Q c' := by
  induction reach with
  | refl => exact h
  | tail _ step ih => exact ih.step step

end Protocol

/-! ## A program on its own -/

/-- A sequential run from a state in which the program plays by the protocol, with
nobody else there, ends in the postcondition. -/
theorem Protocol.run_of_wp {S : Sig} {ι α : Type} {P : Protocol S ι} {i : ι}
    {Q : Protocol.Post S ι α} {o : Oracle S} (ho : ∀ n q, P.answers q (o n q)) {p : Prog S α}
    (n : Nat) (v : Shared S ι) (hinv : P.Inv v) (hwp : P.wp i p Q v) :
    P.Inv (v.push i (p.run o n v.state).state (p.run o n v.state).events) ∧
      Q (p.run o n v.state).result
        (v.push i (p.run o n v.state).state (p.run o n v.state).events) := by
  induction p generalizing n v with
  | ret a => simpa [Shared.push] using And.intro hinv hwp
  | fail e => simpa [Shared.push] using And.intro hinv hwp
  | atomic act next ih =>
    obtain ⟨⟨hinv', -⟩, hnext⟩ := hwp v hinv (P.rely_refl i v)
    simpa [Shared.push_push, Prog.run] using ih v.state n _ hinv' hnext
  | ask q next ih => exact ih (o n q) (n + 1) v hinv (hwp _ (ho n q))

end Interleaving
