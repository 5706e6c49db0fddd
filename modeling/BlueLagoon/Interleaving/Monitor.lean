import BlueLagoon.Interleaving.Semantics

/-!
# Watching a thread

What one thread does can be watched without knowing anything of the others: a
monitor reads the events the thread emits, one after the other, and keeps a state
of its own. `Prog.Watched` follows a program along its own events only, for every
shared state it may meet on its way, so what it establishes holds in every pool
the program is a thread of.
-/

namespace Interleaving

variable {S : Sig} {M α β : Type}

/-- What a monitor has seen after the events. -/
def watch (observe : M → S.Event → M) (events : List S.Event) (m : M) : M :=
  events.foldl observe m

section

variable {observe : M → S.Event → M}

@[simp] theorem watch_nil (m : M) : watch observe [] m = m := rfl

@[simp] theorem watch_cons (e : S.Event) (es : List S.Event) (m : M) :
    watch observe (e :: es) m = watch observe es (observe m e) := rfl

theorem watch_append (es es' : List S.Event) (m : M) :
    watch observe (es ++ es') m = watch observe es' (watch observe es m) :=
  List.foldl_append

/-- Events the monitor does not react to leave it as it is. -/
theorem watch_of_ignored {es : List S.Event} (h : ∀ e ∈ es, ∀ m, observe m e = m) (m : M) :
    watch observe es m = m := by
  induction es generalizing m with
  | nil => rfl
  | cons e es ih =>
    rw [watch_cons, h e (by simp)]
    exact ih (fun e he => h e (by simp [he])) m

end

namespace Prog

variable (observe : M → S.Event → M) (I : M → Prop)

/-- A monitor that stands at `m` when the program starts satisfies `I` after each of its
actions, whatever the shared state is by then, and `Q` at its end. -/
def Watched : Prog S α → (Except S.Error α → M → Prop) → M → Prop
  | .ret a, Q, m => Q (.ok a) m
  | .fail e, Q, m => Q (.error e) m
  | .atomic act next, Q, m => ∀ s,
      I (watch observe (act s).2 m) ∧ (next s).Watched Q (watch observe (act s).2 m)
  | .ask _ next, Q, m => ∀ r, (next r).Watched Q m

variable {observe I} {Q Q' : Except S.Error α → M → Prop} {m : M}

@[simp] theorem watched_ret (a : α) : (Prog.ret a).Watched observe I Q m ↔ Q (.ok a) m := Iff.rfl

@[simp] theorem watched_fail (e : S.Error) :
    (Prog.fail e).Watched observe I Q m ↔ Q (.error e) m := Iff.rfl

theorem Watched.mono {p : Prog S α} (hp : p.Watched observe I Q m)
    (h : ∀ r m, Q r m → Q' r m) : p.Watched observe I Q' m := by
  induction p generalizing m with
  | ret a => exact h _ _ hp
  | fail e => exact h _ _ hp
  | atomic act next ih =>
    intro s
    obtain ⟨hI, hnext⟩ := hp s
    exact ⟨hI, ih s hnext⟩
  | ask q next ih => exact fun r => ih r (hp r)

/-- The rule of sequencing. -/
theorem Watched.bind {p : Prog S α} {f : α → Prog S β} {Q : Except S.Error β → M → Prop}
    {R : Except S.Error α → M → Prop} (hp : p.Watched observe I R m)
    (hok : ∀ a m, R (.ok a) m → (f a).Watched observe I Q m)
    (herr : ∀ e m, R (.error e) m → Q (.error e) m) : (p.bind f).Watched observe I Q m := by
  induction p generalizing m with
  | ret a => exact hok a m hp
  | fail e => exact herr e m hp
  | atomic act next ih =>
    intro s
    obtain ⟨hI, hnext⟩ := hp s
    exact ⟨hI, ih s hnext⟩
  | ask q next ih => exact fun r => ih r (hp r)

theorem Watched.attempt {p : Prog S α} {Q : Except S.Error (Except S.Error α) → M → Prop}
    (hp : p.Watched observe I (fun r m => Q (.ok r) m) m) :
    p.attempt.Watched observe I Q m := by
  induction p generalizing m with
  | ret a => exact hp
  | fail e => exact hp
  | atomic act next ih =>
    intro s
    obtain ⟨hI, hnext⟩ := hp s
    exact ⟨hI, ih s hnext⟩
  | ask q next ih => exact fun r => ih r (hp r)

/-- A program the monitor does not react to leaves it as it is, and returns what it may. -/
theorem Confined.watched_returns {A : S.State → S.State → List S.Event → Prop} {P : α → Prop}
    {p : Prog S α} (hp : p.Confined A) (hreturns : p.Returns P)
    (ignored : ∀ s s' es, A s s' es → ∀ e ∈ es, ∀ m, observe m e = m) (hI : I m) :
    p.Watched observe I (fun r m' => m' = m ∧ ∀ a, r = .ok a → P a) m := by
  induction p with
  | ret a => exact ⟨rfl, fun _ ha => Except.ok.inj ha ▸ hreturns⟩
  | fail e => exact ⟨rfl, fun _ ha => by cases ha⟩
  | atomic act next ih =>
    intro s
    obtain ⟨hA, hnext⟩ := hp s
    have hsame : watch observe (act s).2 m = m := watch_of_ignored (ignored _ _ _ hA) m
    rw [hsame]
    exact ⟨hI, ih s hnext (hreturns s)⟩
  | ask q next ih => exact fun r => ih r (hp r) (hreturns r)

/-- A program the monitor does not react to leaves it as it is. -/
theorem Confined.watched {A : S.State → S.State → List S.Event → Prop} {p : Prog S α}
    (hp : p.Confined A) (ignored : ∀ s s' es, A s s' es → ∀ e ∈ es, ∀ m, observe m e = m)
    (hI : I m) : p.Watched observe I (fun _ m' => m' = m) m :=
  (hp.watched_returns (Returns.any p) ignored hI).mono fun _ _ h => h.1

theorem watched_ofExcept {r : Except S.Error α} :
    (Prog.ofExcept r : Prog S α).Watched observe I Q m ↔ Q r m := by
  cases r <;> exact Iff.rfl

theorem watched_emit {e : S.Event} {Q : Except S.Error Unit → M → Prop} (hI : I (observe m e))
    (hQ : Q (.ok ()) (observe m e)) : (Prog.emit e : Prog S Unit).Watched observe I Q m :=
  fun _ => ⟨hI, hQ⟩

/-- What a loop keeps from one turn to the next, it keeps to its end. -/
theorem watched_foldlM {f : β → α → Prog S β} {J : β → List α → M → Prop}
    {E : S.Error → M → Prop}
    (turn : ∀ b x xs m, J b (x :: xs) m → (f b x).Watched observe I (fun r m => match r with
      | .ok b' => J b' xs m
      | .error e => E e m) m) (xs : List α) (b : β) (m : M) (hb : J b xs m) :
    (foldlM f b xs).Watched observe I (fun r m => match r with
      | .ok b' => J b' [] m
      | .error e => E e m) m := by
  induction xs generalizing b m with
  | nil => exact hb
  | cons x xs ih =>
    refine (turn b x xs m hb).bind (fun b' m' hb' => ?_) fun e m' he => he
    exact ih b' m' hb'

end Prog

/-! ## A watched thread in a pool -/

/-- The results of a thread with an `α`, besides those of others. -/
abbrev Beside {κ : Type} (α : Type) (ρ : κ → Type) : Option κ → Type
  | none => α
  | some k => ρ k

namespace Config

variable {ι : Type} {ρ : ι → Type} [DecidableEq ι] {answers : Answers S}
  {observe : M → S.Event → M} {I : M → Prop} {m : M}

/-- What a monitor has seen of thread `i`. -/
def seen (observe : M → S.Event → M) (m : M) (i : ι) (c : Config S ρ) : M :=
  watch observe (c.shared.eventsOf i) m

/-- The thread keeps what it establishes on its own, whatever the others do. -/
theorem Reachable.watched {c c' : Config S ρ} {i : ι} {Q : Except S.Error (ρ i) → M → Prop}
    (reach : Reachable answers c c') (hI : I (c.seen observe m i))
    (hthread : (c.threads i).Watched observe I Q (c.seen observe m i)) :
    I (c'.seen observe m i) ∧ (c'.threads i).Watched observe I Q (c'.seen observe m i) := by
  induction reach with
  | refl => exact ⟨hI, hthread⟩
  | @tail c c' _ step ih =>
    obtain ⟨hI, hthread⟩ := ih
    obtain ⟨j, step⟩ := step
    by_cases hj : j = i
    · subst hj
      cases step with
      | atomic act next node =>
        rw [node] at hthread
        obtain ⟨hI', hnext⟩ := hthread c.shared.state
        simpa [seen, watch_append] using And.intro hI' hnext
      | ask q next node r given =>
        rw [node] at hthread
        simpa [seen] using And.intro hI (hthread r)
    · cases step with
      | atomic act next node =>
        have hsame : (c.shared.push j (act c.shared.state).1 (act c.shared.state).2).eventsOf i =
            c.shared.eventsOf i := Shared.eventsOf_push_of_ne (Ne.symm hj) _ _
        simp only [seen, advance_shared, hsame]
        rw [advance_threads_of_ne (Ne.symm hj)]
        exact ⟨hI, hthread⟩
      | ask q next node r given =>
        simp only [seen, advance_shared]
        rw [advance_threads_of_ne (Ne.symm hj)]
        exact ⟨hI, hthread⟩

end Config

end Interleaving
