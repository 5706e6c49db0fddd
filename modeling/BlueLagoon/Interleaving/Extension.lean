import BlueLagoon.Interleaving.RelyGuarantee

/-!
# Systems that are extended

A system may be given a further table beside its state, further events for its log, and further
questions. The programs of the system itself leave that table alone, log none of its events and
ask none of its questions.
-/

namespace Interleaving

/-- The system with a further table, further events, and further questions with their answers. -/
abbrev Sig.extend (S : Sig) (X E : Type) {Q : Type} (A : Q → Type) : Sig where
  State := S.State × X
  Query := S.Query ⊕ Q
  Answer := Sum.elim S.Answer A
  Event := S.Event ⊕ E
  Error := S.Error

variable {S : Sig} {X E K ι α β : Type} {A : K → Type}

namespace Prog

/-- The program, in the extended system. -/
def lift : Prog S α → Prog (S.extend X E A) α
  | .ret a => .ret a
  | .fail e => .fail e
  | .atomic act next => .atomic (fun s => (((act s.1).1, s.2), (act s.1).2.map Sum.inl))
      fun s => (next s.1).lift
  | .ask q next => .ask (Sum.inl q) fun r => (next r).lift

theorem lift_bind (p : Prog S α) (f : α → Prog S β) :
    (p.bind f).lift (X := X) (E := E) (A := A) = p.lift.bind fun a => (f a).lift := by
  induction p with
  | ret a => rfl
  | fail e => rfl
  | atomic act next ih => simp only [bind, lift, ih]
  | ask q next ih => exact congrArg (Prog.ask (Sum.inl q)) (funext fun r => ih r)

/-- An action of the system, with the further table beside it. -/
structure Beside (R : S.State → S.State → List S.Event → Prop) (s s' : (S.extend X E A).State)
    (es : List (S.extend X E A).Event) : Prop where
  table : s'.2 = s.2
  action : ∃ events, es = events.map Sum.inl ∧ R s.1 s'.1 events

/-- What a program of the system is confined to, it is confined to beside the table. -/
theorem Confined.lift {R : S.State → S.State → List S.Event → Prop} {p : Prog S α}
    (hp : p.Confined R) : Confined (S := S.extend X E A) (Beside R) p.lift := by
  induction p with
  | ret a => trivial
  | fail e => trivial
  | atomic act next ih =>
    intro s
    exact ⟨⟨rfl, (act s.1).2, rfl, (hp s.1).1⟩, ih s.1 (hp s.1).2⟩
  | ask q next ih => exact fun r => ih r (hp r)

end Prog

namespace Protocol

variable {P : Protocol (S.extend X E A) ι} {i : ι} {v : Shared (S.extend X E A) ι}

/-- A transaction of the system, with the table beside it. -/
theorem wp_lift_tx {body : S.State → Except S.Error (Commit S α)}
    {Q : Post (S.extend X E A) ι α}
    (commit : ∀ w c, P.Inv w → P.Rely i v w → body w.state.1 = .ok c →
      P.Allows i w (w.push i (c.state, w.state.2) (c.events.map Sum.inl)) ∧
        Q (.ok c.value) (w.push i (c.state, w.state.2) (c.events.map Sum.inl)))
    (idle : ∀ w e, P.Inv w → P.Rely i v w → body w.state.1 = .error e → Q (.error e) w) :
    P.wp i (Prog.tx body).lift Q v := by
  intro w hinv hrely
  cases h : body w.state.1 with
  | ok c =>
    have hact : Prog.txAct body w.state.1 = (c.state, c.events) := by simp [Prog.txAct, h]
    simp only [hact, h, Prog.lift, wp_ret]
    exact commit w c hinv hrely h
  | error e =>
    have hact : Prog.txAct body w.state.1 = (w.state.1, []) := by simp [Prog.txAct, h]
    have hpush : w.push i w.state [] = w := by simp [Shared.push]
    simp only [hact, h, Prog.lift, wp_fail, List.map_nil, Prod.eta, hpush]
    exact ⟨⟨hinv, fun j _ => P.rely_refl j w⟩, idle w e hinv hrely h⟩

end Protocol

end Interleaving
