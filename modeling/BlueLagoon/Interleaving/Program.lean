import Mathlib.Logic.Function.Basic

/-!
# Programs over a shared state

A process of a concurrent system, cut at the points where another process may
run in between. A `Prog` is a tree of two kinds of nodes:

* `atomic` — one indivisible action on the shared state, which may also emit
  events into the global log (a transaction, a single statement);
* `ask` — a question to the world outside the shared state, whose answer the
  program cannot control (a clock, a network call, whether a statement went
  through).

The tree is finite in depth, so a program always ends, either with a value or
with an error. `bind` grafts a continuation on every value leaf and lets errors
through, which is exactly early return with `?`.
-/

namespace Interleaving

/-- The vocabulary of a system: its shared state, the questions its programs ask
the outside world with the type of each answer, the events it logs and the errors
its programs end with. -/
structure Sig where
  State : Type
  Query : Type
  Answer : Query → Type
  Event : Type
  Error : Type

/-- A program that ends with a value of type `α` or an error. -/
inductive Prog (S : Sig) (α : Type) : Type
  | ret (a : α)
  | fail (e : S.Error)
  | atomic (act : S.State → S.State × List S.Event) (next : S.State → Prog S α)
  | ask (q : S.Query) (next : S.Answer q → Prog S α)

/-- What a transaction that goes through leaves behind. -/
structure Commit (S : Sig) (α : Type) where
  value : α
  state : S.State
  events : List S.Event := []

namespace Prog

variable {S : Sig} {α β γ : Type}

/-- Sequencing: errors skip the continuation. -/
def bind : Prog S α → (α → Prog S β) → Prog S β
  | .ret a, f => f a
  | .fail e, _ => .fail e
  | .atomic act next, f => .atomic act fun s => (next s).bind f
  | .ask q next, f => .ask q fun r => (next r).bind f

instance : Monad (Prog S) where
  pure := Prog.ret
  bind := Prog.bind

/-- Run `p` and hand its outcome, value or error, to the continuation: the
`match p.await { Ok(..) => .., Err(..) => .. }` of the source. -/
def attempt : Prog S α → Prog S (Except S.Error α)
  | .ret a => .ret (.ok a)
  | .fail e => .ret (.error e)
  | .atomic act next => .atomic act fun s => (next s).attempt
  | .ask q next => .ask q fun r => (next r).attempt

/-- Rewrite the error of a failing program. -/
def mapError (g : S.Error → S.Error) : Prog S α → Prog S α
  | .ret a => .ret a
  | .fail e => .fail (g e)
  | .atomic act next => .atomic act fun s => (next s).mapError g
  | .ask q next => .ask q fun r => (next r).mapError g

/-- The state and events a transaction body leaves: nothing at all when it fails. -/
def txAct (body : S.State → Except S.Error (Commit S α)) (s : S.State) :
    S.State × List S.Event :=
  match body s with
  | .ok c => (c.state, c.events)
  | .error _ => (s, [])

/-- One transaction: all of `body`'s effect or, when it fails, none of it. -/
def tx (body : S.State → Except S.Error (Commit S α)) : Prog S α :=
  .atomic (txAct body) fun s =>
    match body s with
    | .ok c => .ret c.value
    | .error e => .fail e

/-- Put an event into the log. -/
def emit (e : S.Event) : Prog S Unit :=
  .atomic (fun s => (s, [e])) fun _ => .ret ()

/-- Ask the outside world. -/
def query (q : S.Query) : Prog S (S.Answer q) := .ask q .ret

/-- A pure check or computation that may fail. -/
def ofExcept : Except S.Error α → Prog S α
  | .ok a => .ret a
  | .error e => .fail e

/-- `for x in xs { .. }` with an accumulator; an error leaves the loop. -/
def foldlM (f : β → α → Prog S β) : β → List α → Prog S β
  | b, [] => .ret b
  | b, x :: xs => (f b x).bind fun b' => foldlM f b' xs

/-- The value a program has ended with. -/
def ended : Prog S α → Option α
  | .ret a => some a
  | .fail _ | .atomic _ _ | .ask _ _ => none

theorem ended_eq_some {p : Prog S α} {a : α} : p.ended = some a ↔ p = .ret a := by
  cases p <;> simp [ended]

/-- What a program has ended with, be it a value or an error. -/
def outcome : Prog S α → Option (Except S.Error α)
  | .ret a => some (.ok a)
  | .fail e => some (.error e)
  | .atomic _ _ | .ask _ _ => none

theorem outcome_eq_some {p : Prog S α} {r : Except S.Error α} :
    p.outcome = some r ↔ p = .ofExcept r := by
  cases p <;> cases r <;> simp [outcome, ofExcept]

/-! ## Sequencing, case by case -/

@[simp] theorem pure_eq_ret (a : α) : (pure a : Prog S α) = .ret a := rfl

@[simp] theorem bind_eq (p : Prog S α) (f : α → Prog S β) : (p >>= f) = p.bind f := rfl

@[simp] theorem ret_bind (a : α) (f : α → Prog S β) : (Prog.ret a).bind f = f a := rfl

@[simp] theorem fail_bind (e : S.Error) (f : α → Prog S β) :
    (Prog.fail e : Prog S α).bind f = .fail e := rfl

@[simp] theorem ofExcept_ok (a : α) : (ofExcept (.ok a) : Prog S α) = .ret a := rfl

@[simp] theorem ofExcept_error (e : S.Error) : (ofExcept (.error e) : Prog S α) = .fail e := rfl

theorem bind_assoc (p : Prog S α) (f : α → Prog S β) (g : β → Prog S γ) :
    (p.bind f).bind g = p.bind fun a => (f a).bind g := by
  induction p with
  | ret a => rfl
  | fail e => rfl
  | atomic act next ih => simp only [bind, ih]
  | ask q next ih => simp only [bind, ih]

/-! ## What a program may do

`Confined A p` says that every atomic action in `p`, wherever it is reached and
whatever the state is by then, is an `A`-action. It forgets the order of the
actions, which is all an invariant needs when each action preserves it. -/

/-- Every atomic action of the program satisfies `A`, at every state. -/
def Confined (A : S.State → S.State → List S.Event → Prop) : Prog S α → Prop
  | .ret _ => True
  | .fail _ => True
  | .atomic act next => ∀ s, A s (act s).1 (act s).2 ∧ (next s).Confined A
  | .ask _ next => ∀ r, (next r).Confined A

variable {A B : S.State → S.State → List S.Event → Prop}

@[simp] theorem confined_ret (a : α) : (Prog.ret a : Prog S α).Confined A := trivial

@[simp] theorem confined_fail (e : S.Error) : (Prog.fail e : Prog S α).Confined A := trivial

theorem Confined.mono (h : ∀ s s' es, A s s' es → B s s' es) {p : Prog S α}
    (hp : p.Confined A) : p.Confined B := by
  induction p with
  | ret a => trivial
  | fail e => trivial
  | atomic act next ih => exact fun s => ⟨h _ _ _ (hp s).1, ih s (hp s).2⟩
  | ask q next ih => exact fun r => ih r (hp r)

theorem confined_of_forall (h : ∀ s s' es, A s s' es) (p : Prog S α) : p.Confined A := by
  induction p with
  | ret a => trivial
  | fail e => trivial
  | atomic act next ih => exact fun s => ⟨h _ _ _, ih s⟩
  | ask q next ih => exact fun r => ih r

theorem Confined.bind {p : Prog S α} {f : α → Prog S β} (hp : p.Confined A)
    (hf : ∀ a, (f a).Confined A) : (p.bind f).Confined A := by
  induction p with
  | ret a => exact hf a
  | fail e => trivial
  | atomic act next ih => exact fun s => ⟨(hp s).1, ih s (hp s).2⟩
  | ask q next ih => exact fun r => ih r (hp r)

theorem Confined.attempt {p : Prog S α} (hp : p.Confined A) : p.attempt.Confined A := by
  induction p with
  | ret a => trivial
  | fail e => trivial
  | atomic act next ih => exact fun s => ⟨(hp s).1, ih s (hp s).2⟩
  | ask q next ih => exact fun r => ih r (hp r)

theorem Confined.mapError {g : S.Error → S.Error} {p : Prog S α} (hp : p.Confined A) :
    (p.mapError g).Confined A := by
  induction p with
  | ret a => trivial
  | fail e => trivial
  | atomic act next ih => exact fun s => ⟨(hp s).1, ih s (hp s).2⟩
  | ask q next ih => exact fun r => ih r (hp r)

/-- A transaction is confined when its committed effect is, and when doing nothing is. -/
theorem Confined.tx {body : S.State → Except S.Error (Commit S α)}
    (idle : ∀ s, A s s []) (commit : ∀ s c, body s = .ok c → A s c.state c.events) :
    (Prog.tx body).Confined A := by
  intro s
  cases h : body s with
  | ok c =>
    refine ⟨by simpa [txAct, h] using commit s c h, ?_⟩
    simp only [h, confined_ret]
  | error e =>
    refine ⟨by simpa [txAct, h] using idle s, ?_⟩
    simp only [h, confined_fail]

theorem Confined.emit {e : S.Event} (h : ∀ s, A s s [e]) :
    (Prog.emit e : Prog S Unit).Confined A :=
  fun s => ⟨h s, trivial⟩

@[simp] theorem confined_query (q : S.Query) : (Prog.query q).Confined A := fun _ => trivial

@[simp] theorem confined_ofExcept (r : Except S.Error α) : (ofExcept r : Prog S α).Confined A := by
  cases r <;> trivial

/-- After a check that may fail, the rest may rely on the check. -/
theorem confined_ofExcept_bind {r : Except S.Error α} {f : α → Prog S β}
    (h : ∀ a, r = .ok a → (f a).Confined A) : ((ofExcept r).bind f).Confined A := by
  cases r with
  | ok a => exact h a rfl
  | error e => trivial

theorem Confined.foldlM {f : β → α → Prog S β} (hf : ∀ b x, (f b x).Confined A) :
    ∀ (b : β) (xs : List α), (foldlM f b xs).Confined A
  | _, [] => trivial
  | b, x :: xs => (hf b x).bind fun b' => Confined.foldlM hf b' xs

/-! ## What a program may return -/

/-- Every value the program can end with satisfies `P`, whatever it meets on its way. -/
def Returns (P : α → Prop) : Prog S α → Prop
  | .ret a => P a
  | .fail _ => True
  | .atomic _ next => ∀ s, (next s).Returns P
  | .ask _ next => ∀ r, (next r).Returns P

theorem Returns.any (p : Prog S α) : p.Returns fun _ => True := by
  induction p with
  | ret a => trivial
  | fail e => trivial
  | atomic act next ih => exact ih
  | ask q next ih => exact ih

theorem Returns.bind {P : β → Prop} {R : α → Prop} {p : Prog S α} {f : α → Prog S β}
    (hp : p.Returns R) (hf : ∀ a, R a → (f a).Returns P) : (p.bind f).Returns P := by
  induction p with
  | ret a => exact hf a hp
  | fail e => trivial
  | atomic act next ih => exact fun s => ih s (hp s)
  | ask q next ih => exact fun r => ih r (hp r)

theorem Returns.mono {P R : α → Prop} {p : Prog S α} (hp : p.Returns P) (h : ∀ a, P a → R a) :
    p.Returns R := by
  induction p with
  | ret a => exact h a hp
  | fail e => trivial
  | atomic act next ih => exact fun s => ih s (hp s)
  | ask q next ih => exact fun r => ih r (hp r)

/-- A check that goes through returns what it found. -/
theorem returns_ofExcept (r : Except S.Error α) :
    (ofExcept r : Prog S α).Returns fun a => r = .ok a := by
  cases r with
  | ok a => exact rfl
  | error e => trivial

/-! ## What a program may ask -/

/-- Every question the program can ask satisfies `P`, whatever it meets on its way. -/
def Asks (P : S.Query → Prop) : Prog S α → Prop
  | .ret _ => True
  | .fail _ => True
  | .atomic _ next => ∀ s, (next s).Asks P
  | .ask q next => P q ∧ ∀ r, (next r).Asks P

section Asks

variable {P : S.Query → Prop}

@[simp] theorem asks_ret (a : α) : (Prog.ret a : Prog S α).Asks P := trivial

@[simp] theorem asks_fail (e : S.Error) : (Prog.fail e : Prog S α).Asks P := trivial

@[simp] theorem asks_ofExcept (r : Except S.Error α) : (ofExcept r : Prog S α).Asks P := by
  cases r <;> trivial

@[simp] theorem asks_emit (e : S.Event) : (Prog.emit e : Prog S Unit).Asks P := fun _ => trivial

@[simp] theorem asks_tx (body : S.State → Except S.Error (Commit S α)) :
    (Prog.tx body).Asks P := by
  intro s
  cases h : body s <;> simp only [h] <;> trivial

theorem Asks.bind {p : Prog S α} {f : α → Prog S β} (hp : p.Asks P) (hf : ∀ a, (f a).Asks P) :
    (p.bind f).Asks P := by
  induction p with
  | ret a => exact hf a
  | fail e => trivial
  | atomic act next ih => exact fun s => ih s (hp s)
  | ask q next ih => exact ⟨hp.1, fun r => ih r (hp.2 r)⟩

theorem Asks.attempt {p : Prog S α} (hp : p.Asks P) : p.attempt.Asks P := by
  induction p with
  | ret a => trivial
  | fail e => trivial
  | atomic act next ih => exact fun s => ih s (hp s)
  | ask q next ih => exact ⟨hp.1, fun r => ih r (hp.2 r)⟩

end Asks

/-! ## Programs with one decisive action

`Until quiet mark After p` says that `p` performs `quiet` actions up to the one that is a
`mark`, that it does not end with a value before it, and that what is left after it
satisfies `After`. -/

/-- Quiet actions, then a decisive one, then what `After` allows. -/
def Until (quiet mark : S.State → S.State → List S.Event → Prop) (After : Prog S α → Prop) :
    Prog S α → Prop
  | .ret _ => False
  | .fail _ => True
  | .atomic act next => ∀ s,
      (quiet s (act s).1 (act s).2 ∧ (next s).Until quiet mark After) ∨
        (mark s (act s).1 (act s).2 ∧ After (next s))
  | .ask _ next => ∀ r, (next r).Until quiet mark After

/-- Every error the program can still end with satisfies `E`. -/
def FailsWith (E : S.Error → Prop) : Prog S α → Prop
  | .ret _ => True
  | .fail e => E e
  | .atomic _ next => ∀ s, (next s).FailsWith E
  | .ask _ next => ∀ r, (next r).FailsWith E

variable {E : S.Error → Prop} {mark : S.State → S.State → List S.Event → Prop}
  {After : Prog S β → Prop}

theorem FailsWith.bind {p : Prog S α} {f : α → Prog S β} (hp : p.FailsWith E)
    (hf : ∀ a, (f a).FailsWith E) : (p.bind f).FailsWith E := by
  induction p with
  | ret a => exact hf a
  | fail e => exact hp
  | atomic act next ih => exact fun s => ih s (hp s)
  | ask q next ih => exact fun r => ih r (hp r)

/-- Quiet programs may come before the decisive action. -/
theorem Confined.until_bind {p : Prog S α} {f : α → Prog S β} (hp : p.Confined A)
    (hf : ∀ a, (f a).Until A mark After) : (p.bind f).Until A mark After := by
  induction p with
  | ret a => exact hf a
  | fail e => trivial
  | atomic act next ih => exact fun s => Or.inl ⟨(hp s).1, ih s (hp s).2⟩
  | ask q next ih => exact fun r => ih r (hp r)

/-- What comes after the decisive action may be extended. -/
theorem Until.bind {T : Prog S α → Prop} {p : Prog S α} {f : α → Prog S β}
    (hp : p.Until A mark T) (hf : ∀ p, T p → After (p.bind f)) :
    (p.bind f).Until A mark After := by
  induction p with
  | ret a => exact hp.elim
  | fail e => trivial
  | atomic act next ih =>
    intro s
    rcases hp s with ⟨hquiet, hnext⟩ | ⟨hmark, hnext⟩
    · exact Or.inl ⟨hquiet, ih s hnext⟩
    · exact Or.inr ⟨hmark, hf _ hnext⟩
  | ask q next ih => exact fun r => ih r (hp r)

/-- The decisive action itself, as a transaction. -/
theorem Until.tx {After : Prog S α → Prop} {body : S.State → Except S.Error (Commit S α)}
    (idle : ∀ s, A s s []) (commit : ∀ s c, body s = .ok c → mark s c.state c.events)
    (after : ∀ a, After (.ret a)) : (Prog.tx body).Until A mark After := by
  intro s
  cases h : body s with
  | ok c =>
    refine Or.inr ⟨by simpa [txAct, h] using commit s c h, ?_⟩
    simp only [h, after]
  | error e =>
    refine Or.inl ⟨by simpa [txAct, h] using idle s, ?_⟩
    simp only [h]
    trivial

end Prog

end Interleaving
