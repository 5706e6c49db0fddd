import BlueLagoon.Interleaving.Semantics

/-!
# A program on its own

The weakest precondition of a program that nobody interrupts: it knows the state it
starts in, and only the answers of the outside world are open. What it establishes
holds of every sequential run.
-/

namespace Interleaving

variable {S : Sig} {α β : Type}

namespace Prog

/-- Run alone from `s`, with `es` emitted before and answers the outside world may give, the
program ends in `Q`. -/
def Alone (answers : Answers S) :
    Prog S α → (Except S.Error α → S.State → List S.Event → Prop) → S.State →
      List S.Event → Prop
  | .ret a, Q, s, es => Q (.ok a) s es
  | .fail e, Q, s, es => Q (.error e) s es
  | .atomic act next, Q, s, es => (next s).Alone answers Q (act s).1 (es ++ (act s).2)
  | .ask q next, Q, s, es => ∀ r, answers q r → (next r).Alone answers Q s es

variable {answers : Answers S} {Q Q' : Except S.Error α → S.State → List S.Event → Prop}
  {s : S.State} {es : List S.Event}

@[simp] theorem alone_ret (a : α) : (Prog.ret a).Alone answers Q s es ↔ Q (.ok a) s es :=
  Iff.rfl

@[simp] theorem alone_fail (e : S.Error) :
    (Prog.fail e).Alone answers Q s es ↔ Q (.error e) s es :=
  Iff.rfl

theorem Alone.mono {p : Prog S α} (hp : p.Alone answers Q s es)
    (h : ∀ r s es, Q r s es → Q' r s es) : p.Alone answers Q' s es := by
  induction p generalizing s es with
  | ret a => exact h _ _ _ hp
  | fail e => exact h _ _ _ hp
  | atomic act next ih => exact ih s hp
  | ask q next ih => exact fun r hr => ih r (hp r hr)

/-- What holds of every end holds of a program. -/
theorem Alone.of_forall {p : Prog S α} (h : ∀ r s es, Q r s es) : p.Alone answers Q s es := by
  induction p generalizing s es with
  | ret a => exact h _ _ _
  | fail e => exact h _ _ _
  | atomic act next ih => exact ih s
  | ask q next ih => exact fun r _ => ih r

theorem Alone.and {p : Prog S α} (hp : p.Alone answers Q s es) (hp' : p.Alone answers Q' s es) :
    p.Alone answers (fun r s es => Q r s es ∧ Q' r s es) s es := by
  induction p generalizing s es with
  | ret a => exact ⟨hp, hp'⟩
  | fail e => exact ⟨hp, hp'⟩
  | atomic act next ih => exact ih s hp hp'
  | ask q next ih => exact fun r hr => ih r (hp r hr) (hp' r hr)

/-- The rule of sequencing. -/
theorem Alone.bind {p : Prog S α} {f : α → Prog S β}
    {Q : Except S.Error β → S.State → List S.Event → Prop}
    {R : Except S.Error α → S.State → List S.Event → Prop} (hp : p.Alone answers R s es)
    (hok : ∀ a s es, R (.ok a) s es → (f a).Alone answers Q s es)
    (herr : ∀ e s es, R (.error e) s es → Q (.error e) s es) :
    (p.bind f).Alone answers Q s es := by
  induction p generalizing s es with
  | ret a => exact hok a s es hp
  | fail e => exact herr e s es hp
  | atomic act next ih => exact ih s hp
  | ask q next ih => exact fun r hr => ih r (hp r hr)

theorem Alone.attempt {p : Prog S α}
    {Q : Except S.Error (Except S.Error α) → S.State → List S.Event → Prop}
    (hp : p.Alone answers (fun r s es => Q (.ok r) s es) s es) :
    p.attempt.Alone answers Q s es := by
  induction p generalizing s es with
  | ret a => exact hp
  | fail e => exact hp
  | atomic act next ih => exact ih s hp
  | ask q next ih => exact fun r hr => ih r (hp r hr)

/-- What an attempted program hands on is its own end. -/
theorem alone_attempt {p : Prog S α}
    {Q : Except S.Error (Except S.Error α) → S.State → List S.Event → Prop} :
    p.attempt.Alone answers Q s es ↔ p.Alone answers (fun r s es => Q (.ok r) s es) s es := by
  induction p generalizing s es with
  | ret a => exact Iff.rfl
  | fail e => exact Iff.rfl
  | atomic act next ih => exact ih s
  | ask q next ih => exact forall_congr' fun r => imp_congr_right fun _ => ih r

theorem Alone.mapError {p : Prog S α} {g : S.Error → S.Error}
    (hp : p.Alone answers (fun r s es => Q (r.mapError g) s es) s es) :
    (p.mapError g).Alone answers Q s es := by
  induction p generalizing s es with
  | ret a => exact hp
  | fail e => exact hp
  | atomic act next ih => exact ih s hp
  | ask q next ih => exact fun r hr => ih r (hp r hr)

/-- What a program returns whatever it meets, it returns on its own. -/
theorem Returns.alone {P : α → Prop} {p : Prog S α} (hp : p.Returns P) :
    p.Alone answers (fun r _ _ => ∀ a, r = .ok a → P a) s es := by
  induction p generalizing s es with
  | ret a =>
    intro b hb
    obtain rfl := Except.ok.inj hb
    exact hp
  | fail e =>
    intro b hb
    cases hb
  | atomic act next ih => exact ih s (hp s)
  | ask q next ih => exact fun r _ => ih r (hp r)

theorem alone_ofExcept {r : Except S.Error α} :
    (Prog.ofExcept r : Prog S α).Alone answers Q s es ↔ Q r s es := by
  cases r <;> exact Iff.rfl

theorem alone_tx_ok {body : S.State → Except S.Error (Commit S α)} {c : Commit S α}
    (h : body s = .ok c) :
    (Prog.tx body).Alone answers Q s es ↔ Q (.ok c.value) c.state (es ++ c.events) := by
  simp [tx, Alone, txAct, h]

theorem alone_tx_error {body : S.State → Except S.Error (Commit S α)} {e : S.Error}
    (h : body s = .error e) :
    (Prog.tx body).Alone answers Q s es ↔ Q (.error e) s es := by
  simp [tx, Alone, txAct, h]

/-- A preorder that every action of a confined program extends spans its run. -/
theorem Confined.alone {A : S.State → S.State → List S.Event → Prop}
    {T : S.State → List S.Event → Prop} {p : Prog S α} (hp : p.Confined A)
    (keep : ∀ s s' es es', T s es → A s s' es' → T s' (es ++ es')) (h : T s es) :
    p.Alone answers (fun _ s es => T s es) s es := by
  induction p generalizing s es with
  | ret a => exact h
  | fail e => exact h
  | atomic act next ih => exact ih s (hp s).2 (keep _ _ _ _ h (hp s).1)
  | ask q next ih => exact fun r _ => ih r (hp r) h

/-- What has been emitted stays emitted. -/
theorem alone_mem {e : S.Event} (p : Prog S α) (h : e ∈ es) :
    p.Alone answers (fun _ _ es => e ∈ es) s es := by
  have hany : p.Confined fun _ _ _ => True := confined_of_forall (fun _ _ _ => trivial) p
  exact hany.alone (T := fun _ es => e ∈ es)
    (fun _ _ _ _ hmem _ => List.mem_append_left _ hmem) h

/-- What a loop keeps from one turn to the next, it keeps to its end. -/
theorem alone_foldlM {f : β → α → Prog S β} {J : β → List α → S.State → List S.Event → Prop}
    {E : S.Error → S.State → List S.Event → Prop}
    (turn : ∀ b x xs s es, J b (x :: xs) s es →
      (f b x).Alone answers (fun r s es => match r with
        | .ok b' => J b' xs s es
        | .error e => E e s es) s es)
    (xs : List α) (b : β) (s : S.State) (es : List S.Event) (hb : J b xs s es) :
    (foldlM f b xs).Alone answers (fun r s es => match r with
      | .ok b' => J b' [] s es
      | .error e => E e s es) s es := by
  induction xs generalizing b s es with
  | nil => exact hb
  | cons x xs ih =>
    refine (turn b x xs s es hb).bind (fun b' s' es' hb' => ?_) fun e s' es' he => he
    exact ih b' s' es' hb'

/-- Soundness: a sequential run ends in the postcondition. -/
theorem Alone.run {o : Oracle S} (ho : ∀ n q, answers q (o n q)) {p : Prog S α}
    (hp : p.Alone answers Q s es) (n : Nat) :
    Q (p.run o n s).result (p.run o n s).state (es ++ (p.run o n s).events) := by
  induction p generalizing s es n with
  | ret a => simpa using hp
  | fail e => simpa using hp
  | atomic act next ih => simpa [Prog.run] using ih s hp n
  | ask q next ih => exact ih (o n q) (hp _ (ho n q)) (n + 1)

/-! ## The rule of sequencing, both ways -/

/-- What the first part has to establish for the second to establish `Q`. -/
def Following (answers : Answers S) (f : α → Prog S β)
    (Q : Except S.Error β → S.State → List S.Event → Prop) :
    Except S.Error α → S.State → List S.Event → Prop
  | .ok a, s, es => (f a).Alone answers Q s es
  | .error e, s, es => Q (.error e) s es

theorem alone_bind {p : Prog S α} {f : α → Prog S β}
    {Q : Except S.Error β → S.State → List S.Event → Prop} :
    (p.bind f).Alone answers Q s es ↔ p.Alone answers (Following answers f Q) s es := by
  induction p generalizing s es with
  | ret a => exact Iff.rfl
  | fail e => exact Iff.rfl
  | atomic act next ih => exact ih s
  | ask q next ih => exact forall_congr' fun r => imp_congr_right fun _ => ih r

/-! ## Completeness -/

/-- The same answers lead to the same end, from whatever question on they are given. -/
theorem run_shift {o o' : Oracle S} {m n : Nat} (h : ∀ k q, o (m + k) q = o' (n + k) q)
    (p : Prog S α) (s : S.State) :
    (p.run o m s).result = (p.run o' n s).result ∧ (p.run o m s).state = (p.run o' n s).state ∧
      (p.run o m s).events = (p.run o' n s).events := by
  induction p generalizing m n s with
  | ret a => exact ⟨rfl, rfl, rfl⟩
  | fail e => exact ⟨rfl, rfl, rfl⟩
  | atomic act next ih =>
    obtain ⟨hresult, hstate, hevents⟩ := ih s h (act s).1
    refine ⟨hresult, hstate, ?_⟩
    show (act s).2 ++ _ = (act s).2 ++ _
    rw [hevents]
  | ask q next ih =>
    have hfirst : o m q = o' n q := h 0 q
    have hask : (Prog.ask q next).run o m s = (next (o' n q)).run o (m + 1) s := by
      show (next (o m q)).run o (m + 1) s = _
      rw [hfirst]
    have hask' : (Prog.ask q next).run o' n s = (next (o' n q)).run o' (n + 1) s := rfl
    rw [hask, hask']
    refine ih (o' n q) (fun k r => ?_) s
    have hnext := h (1 + k) r
    rwa [← Nat.add_assoc, ← Nat.add_assoc] at hnext

open Classical in
/-- The oracle that answers `r` to the first question, and goes on as `o` from its `n`-th. -/
noncomputable def answering (q : S.Query) (r : S.Answer q) (o : Oracle S) (n : Nat) : Oracle S :=
  fun m q' => if h : m = 0 ∧ q = q' then h.2 ▸ r else o (m - 1 + n) q'

/-- Completeness: what every sequential run ends in, the program establishes on its own. -/
theorem Alone.of_runs {o₀ : Oracle S} (ho₀ : ∀ n q, answers q (o₀ n q)) {p : Prog S α}
    (h : ∀ o : Oracle S, (∀ n q, answers q (o n q)) → ∀ n,
      Q (p.run o n s).result (p.run o n s).state (es ++ (p.run o n s).events)) :
    p.Alone answers Q s es := by
  induction p generalizing s es with
  | ret a => simpa using h o₀ ho₀ 0
  | fail e => simpa using h o₀ ho₀ 0
  | atomic act next ih =>
    refine ih s fun o ho n => ?_
    have hrun := h o ho n
    simpa [Prog.run] using hrun
  | ask q next ih =>
    intro r hr
    refine ih r fun o ho n => ?_
    have hanswering : ∀ m q', answers q' (answering q r o n m q') := by
      intro m q'
      unfold answering
      split
      · rename_i hfirst
        obtain ⟨-, rfl⟩ := hfirst
        exact hr
      · exact ho _ _
    have hrun := h (answering q r o n) hanswering 0
    have hask : (Prog.ask q next).run (answering q r o n) 0 s =
        (next r).run (answering q r o n) 1 s := by
      show (next (answering q r o n 0 q)).run (answering q r o n) 1 s = _
      rw [answering, dif_pos ⟨rfl, rfl⟩]
    have hlater : ∀ k q', answering q r o n (1 + k) q' = o (n + k) q' := by
      intro k q'
      rw [answering, dif_neg (fun hzero => by omega)]
      congr 1
      omega
    obtain ⟨hresult, hstate, hevents⟩ := run_shift hlater (next r) s
    rwa [hask, hresult, hstate, hevents] at hrun

/-- What a program establishes on its own is what all its runs end in. -/
theorem alone_iff_answered_runs (o₀ : Oracle S) (ho₀ : ∀ n q, answers q (o₀ n q))
    {p : Prog S α} :
    p.Alone answers Q s [] ↔ ∀ o : Oracle S, (∀ n q, answers q (o n q)) →
      Q (p.run o 0 s).result (p.run o 0 s).state (p.run o 0 s).events := by
  constructor
  · intro h o ho
    have hrun := h.run ho 0
    rwa [List.nil_append] at hrun
  · intro h
    refine Alone.of_runs ho₀ fun o ho n => ?_
    -- A run that starts at the `n`-th answer is the run of the answers from there on.
    obtain ⟨hresult, hstate, hevents⟩ :=
      @run_shift S α o (fun k q => o (n + k) q) n 0 (fun k q => by rw [Nat.zero_add]) p s
    rw [hresult, hstate, hevents, List.nil_append]
    exact h (fun k q => o (n + k) q) fun k q => ho (n + k) q

/-- The same where any answer may come. -/
theorem alone_iff_runs (o₀ : Oracle S) {p : Prog S α} :
    p.Alone (fun _ _ => True) Q s [] ↔
      ∀ o : Oracle S, Q (p.run o 0 s).result (p.run o 0 s).state (p.run o 0 s).events := by
  rw [alone_iff_answered_runs o₀ fun _ _ => trivial]
  exact forall_congr' fun o => ⟨fun h => h fun _ _ => trivial, fun h _ => h⟩

/-! ## Runs whose questions are all answered

Answers that are given as a rule may fail now and then. Where none of those a run asks for
fails, the run ends as the rule says. -/

/-- Every question that this run asks gets an answer it may expect. What the surroundings would
say to questions that are not asked does not matter. -/
def Answered (answers : Answers S) (o : Oracle S) : Prog S α → Nat → S.State → Prop
  | .ret _, _, _ => True
  | .fail _, _, _ => True
  | .atomic act next, n, s => (next s).Answered answers o n (act s).1
  | .ask q next, n, s => answers q (o n q) ∧ (next (o n q)).Answered answers o (n + 1) s

instance Answered.decidable (answers : Answers S) [∀ q r, Decidable (answers q r)]
    (o : Oracle S) : ∀ (p : Prog S α) (n : Nat) (s : S.State), Decidable (p.Answered answers o n s)
  | .ret _, _, _ => inferInstanceAs (Decidable True)
  | .fail _, _, _ => inferInstanceAs (Decidable True)
  | .atomic act next, n, s => Answered.decidable answers o (next s) n (act s).1
  | .ask q next, n, s =>
    have := Answered.decidable answers o (next (o n q)) (n + 1) s
    inferInstanceAs (Decidable (_ ∧ _))

/-- Soundness for one run: it suffices that its own questions are answered. -/
theorem Alone.run_answered {o : Oracle S} {p : Prog S α} (hp : p.Alone answers Q s es) {n : Nat}
    (ho : p.Answered answers o n s) :
    Q (p.run o n s).result (p.run o n s).state (es ++ (p.run o n s).events) := by
  induction p generalizing s es n with
  | ret a => simpa using hp
  | fail e => simpa using hp
  | atomic act next ih => simpa [Prog.run] using ih s hp ho
  | ask q next ih =>
    obtain ⟨hfirst, hlater⟩ := ho
    exact ih (o n q) (hp _ hfirst) hlater

/-- Run alone from `s`, the program does not fail, and ends in `R`. -/
def Delivers (answers : Answers S) (p : Prog S α) (R : α → S.State → Prop) (s : S.State) : Prop :=
  ∀ es, p.Alone answers (fun r s' _ => ∃ a, r = .ok a ∧ R a s') s es

section Delivers

variable {R : α → S.State → Prop} {R' : β → S.State → Prop}

theorem delivers_ret {a : α} (h : R a s) : (Prog.ret a).Delivers answers R s :=
  fun _ => ⟨a, rfl, h⟩

theorem delivers_ofExcept {r : Except S.Error α} {a : α} (hr : r = .ok a) (h : R a s) :
    (Prog.ofExcept r).Delivers answers R s := by
  subst hr
  exact delivers_ret h

/-- The rule of sequencing. -/
theorem Delivers.bind {p : Prog S α} {f : α → Prog S β} (hp : p.Delivers answers R s)
    (hf : ∀ a s', R a s' → (f a).Delivers answers R' s') :
    (p.bind f).Delivers answers R' s := by
  intro es
  refine (hp es).bind (fun a s' es' h => ?_) fun e s' es' h => ?_
  · obtain ⟨_, ha, hR⟩ := h
    obtain rfl := Except.ok.inj ha
    exact hf a s' hR es'
  · obtain ⟨_, he, -⟩ := h
    cases he

theorem Delivers.mono {p : Prog S α} {R₁ : α → S.State → Prop} (hp : p.Delivers answers R s)
    (h : ∀ a s', R a s' → R₁ a s') : p.Delivers answers R₁ s := fun es =>
  (hp es).mono fun _ _ _ ⟨a, ha, hR⟩ => ⟨a, ha, h a _ hR⟩

/-- A run whose questions are answered delivers. -/
theorem Delivers.run {o : Oracle S} {p : Prog S α} (hp : p.Delivers answers R s) {n : Nat}
    (ho : p.Answered answers o n s) :
    ∃ a, (p.run o n s).result = .ok a ∧ R a (p.run o n s).state :=
  (hp []).run_answered ho

end Delivers

end Prog

end Interleaving
