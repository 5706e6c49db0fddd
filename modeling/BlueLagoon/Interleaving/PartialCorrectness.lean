import BlueLagoon.Interleaving.Sequential

/-!
# Runs that end well

Partial correctness of a program that runs on its own: what holds of its value, and of
the state it leaves behind, whenever a run of it does not fail.
-/

namespace Interleaving

variable {S : Sig} {α β : Type}

namespace Prog

/-- A run from `s` that ends well ends in `Q`. -/
def Ensures (p : Prog S α) (s : S.State) (Q : α → S.State → Prop) : Prop :=
  ∀ (o : Oracle S) (n : Nat) (a : α), (p.run o n s).result = .ok a → Q a (p.run o n s).state

variable {s : S.State} {Q Q' : α → S.State → Prop}

theorem ensures_ret {a : α} (h : Q a s) : (Prog.ret a : Prog S α).Ensures s Q := by
  intro o n b hrun
  obtain rfl : a = b := Except.ok.inj hrun
  exact h

theorem ensures_fail {e : S.Error} : (Prog.fail e : Prog S α).Ensures s Q := by
  intro o n a hrun
  cases hrun

theorem ensures_ofExcept {r : Except S.Error α} (h : ∀ a, r = .ok a → Q a s) :
    (Prog.ofExcept r : Prog S α).Ensures s Q := by
  cases r with
  | ok a => exact ensures_ret (h a rfl)
  | error e => exact ensures_fail

theorem Ensures.mono {p : Prog S α} (hp : p.Ensures s Q) (h : ∀ a t, Q a t → Q' a t) :
    p.Ensures s Q' := by
  intro o n a hrun
  exact h a _ (hp o n a hrun)

theorem Ensures.and {p : Prog S α} (hp : p.Ensures s Q) (hp' : p.Ensures s Q') :
    p.Ensures s fun a t => Q a t ∧ Q' a t := by
  intro o n a hrun
  exact ⟨hp o n a hrun, hp' o n a hrun⟩

/-- The rule of sequencing. -/
theorem Ensures.bind {p : Prog S α} {f : α → Prog S β} {R : β → S.State → Prop}
    (hp : p.Ensures s Q) (hf : ∀ a t, Q a t → (f a).Ensures t R) : (p.bind f).Ensures s R := by
  intro o n b hrun
  obtain ⟨a, hfirst, hrest, hstate⟩ := run_bind_eq_ok o n s hrun
  have hend := hf a _ (hp o n a hfirst) o _ b hrest
  rw [← hstate] at hend
  exact hend

/-- What holds of the state is not lost with the value. -/
theorem Ensures.discard {p : Prog S α} {T : S.State → Prop} (hp : p.Ensures s fun _ t => T t) :
    (p.bind fun _ => Prog.ret ()).Ensures s fun _ t => T t :=
  hp.bind fun _ _ h => ensures_ret h

theorem run_mapError (g : S.Error → S.Error) (p : Prog S α) (o : Oracle S) (n : Nat)
    (s : S.State) :
    (p.mapError g).run o n s =
      { p.run o n s with result := (p.run o n s).result.mapError g } := by
  induction p generalizing n s with
  | ret a => rfl
  | fail e => rfl
  | atomic act next ih => simp only [mapError, run, ih]
  | ask q next ih => simp only [mapError, run, ih]

/-- A rewritten error is an error. -/
theorem Ensures.mapError {p : Prog S α} {g : S.Error → S.Error} (hp : p.Ensures s Q) :
    (p.mapError g).Ensures s Q := by
  intro o n a hrun
  rw [run_mapError] at hrun ⊢
  cases hresult : (p.run o n s).result with
  | error e =>
    rw [hresult] at hrun
    cases hrun
  | ok b =>
    rw [hresult] at hrun
    obtain rfl : b = a := Except.ok.inj hrun
    exact hp o n b hresult

/-- What every action of a confined program keeps, the program keeps. -/
theorem Confined.ensures {A : S.State → S.State → List S.Event → Prop} {T : S.State → Prop}
    {p : Prog S α} (hp : p.Confined A) (keep : ∀ t t' es, T t → A t t' es → T t') (h : T s) :
    p.Ensures s fun _ t => T t := by
  intro o n a _
  have halone : p.Alone (fun _ _ => True) (fun _ t _ => T t) s [] :=
    hp.alone (T := fun t _ => T t) (fun t t' _ es hold hact => keep t t' es hold hact) h
  exact halone.run (fun _ _ => trivial) n

/-- What a program returns whatever it meets, it ensures. -/
theorem Returns.ensures {P : α → Prop} {p : Prog S α} (hp : p.Returns P) :
    p.Ensures s fun a _ => P a := by
  intro o n a hrun
  exact hp.run o n s hrun

/-- What a loop keeps from one turn to the next, it keeps to its end. -/
theorem ensures_foldlM {f : β → α → Prog S β} {J : β → List α → S.State → Prop}
    (turn : ∀ b x xs t, J b (x :: xs) t → (f b x).Ensures t fun b' t' => J b' xs t')
    (xs : List α) (b : β) (s : S.State) (h : J b xs s) :
    (foldlM f b xs).Ensures s fun b' t => J b' [] t := by
  induction xs generalizing b s with
  | nil => exact ensures_ret h
  | cons x xs ih =>
    refine (turn b x xs s h).bind ?_
    intro b' t hkept
    exact ih b' t hkept

end Prog

end Interleaving
