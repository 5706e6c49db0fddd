import BlueLagoon.Interleaving.Program
import Mathlib.Logic.Relation

/-!
# Running programs

Two ways to run a `Prog`:

* `Config.Step` — a pool of threads over one shared state, one node of one thread
  at a time, in any order: the interleaving semantics;
* `Prog.run` — one program from start to end with nobody in between, as a function
  of an oracle for the outside world: the sequential semantics, which evaluates.

The second is a special case of the first (`Config.reachable_run`).
-/

namespace Interleaving

/-- What the threads share: the state, and the log of everything they emitted,
oldest first, each entry with the thread it came from. -/
structure Shared (S : Sig) (ι : Type) where
  state : S.State
  log : List (ι × S.Event) := []

namespace Shared

variable {S : Sig} {ι : Type}

/-- The shared state after thread `i` left `state` behind and emitted `events`. -/
def push (v : Shared S ι) (i : ι) (state : S.State) (events : List S.Event) : Shared S ι :=
  { state := state, log := v.log ++ events.map (Prod.mk i) }

/-- The events thread `i` has emitted so far. -/
def eventsOf [DecidableEq ι] (v : Shared S ι) (i : ι) : List S.Event :=
  (v.log.filter fun entry => entry.1 = i).map Prod.snd

@[simp] theorem push_state (v : Shared S ι) (i : ι) (s : S.State) (es : List S.Event) :
    (v.push i s es).state = s := rfl

@[simp] theorem push_log (v : Shared S ι) (i : ι) (s : S.State) (es : List S.Event) :
    (v.push i s es).log = v.log ++ es.map (Prod.mk i) := rfl

theorem push_push (v : Shared S ι) (i : ι) (s t : S.State) (es es' : List S.Event) :
    (v.push i s es).push i t es' = v.push i t (es ++ es') := by
  simp [push]

theorem mem_push_log {v : Shared S ι} {i j : ι} {s : S.State} {es : List S.Event} {e : S.Event} :
    (j, e) ∈ (v.push i s es).log ↔ (j, e) ∈ v.log ∨ j = i ∧ e ∈ es := by
  rw [push_log, List.mem_append, List.mem_map]
  constructor
  · rintro (h | ⟨a, ha, heq⟩)
    · exact Or.inl h
    · obtain ⟨rfl, rfl⟩ := Prod.mk.inj heq
      exact Or.inr ⟨rfl, ha⟩
  · rintro (h | ⟨rfl, he⟩)
    · exact Or.inl h
    · exact Or.inr ⟨e, he, rfl⟩

variable [DecidableEq ι]

@[simp] theorem eventsOf_push_self (v : Shared S ι) (i : ι) (s : S.State) (es : List S.Event) :
    (v.push i s es).eventsOf i = v.eventsOf i ++ es := by
  simp only [eventsOf, push_log, List.filter_append, List.map_append]
  congr 1
  induction es with
  | nil => rfl
  | cons e es ih => simpa using ih

theorem eventsOf_push_of_ne {v : Shared S ι} {i j : ι} (h : j ≠ i) (s : S.State)
    (es : List S.Event) : (v.push i s es).eventsOf j = v.eventsOf j := by
  have hnil : (es.map (Prod.mk i)).filter (fun entry => entry.1 = j) = [] := by
    induction es with
    | nil => rfl
    | cons e es ih => simp [ih, h.symm]
  simp [eventsOf, push_log, List.filter_append, hnil]

theorem mem_eventsOf {v : Shared S ι} {i : ι} {e : S.Event} :
    e ∈ v.eventsOf i ↔ (i, e) ∈ v.log := by
  simp [eventsOf]

end Shared

/-- Where an entry of a longer log stands: among the old ones, or last. -/
theorem split_concat {α : Type} {log before after : List α} {entry last : α}
    (h : log ++ [last] = before ++ entry :: after) :
    (∃ after', log = before ++ entry :: after') ∨ (before = log ∧ entry = last) := by
  rcases List.eq_nil_or_concat after with rfl | ⟨after', last', rfl⟩
  · obtain ⟨hbefore, hentry⟩ := List.append_inj' h rfl
    exact Or.inr ⟨hbefore.symm, (List.cons.inj hentry).1.symm⟩
  · left
    refine ⟨after', ?_⟩
    have hassoc : before ++ entry :: (after' ++ [last']) =
        (before ++ entry :: after') ++ [last'] := by simp
    rw [List.concat_eq_append, hassoc] at h
    exact (List.append_inj' h rfl).1

/-! ## Pools of threads -/

/-- Which answers the outside world may give. -/
abbrev Answers (S : Sig) := (q : S.Query) → S.Answer q → Prop

/-- A pool: what is left of each thread, and what they share. -/
structure Config (S : Sig) {ι : Type} (ρ : ι → Type) where
  threads : (i : ι) → Prog S (ρ i)
  shared : Shared S ι

namespace Config

variable {S : Sig} {ι : Type} {ρ : ι → Type} [DecidableEq ι]

/-- The pool once thread `i` has become `p` and the shared part `v`. -/
def advance (c : Config S ρ) (i : ι) (p : Prog S (ρ i)) (v : Shared S ι) : Config S ρ :=
  { threads := Function.update c.threads i p, shared := v }

@[simp] theorem advance_shared (c : Config S ρ) (i : ι) (p : Prog S (ρ i)) (v : Shared S ι) :
    (c.advance i p v).shared = v := rfl

@[simp] theorem advance_threads_self (c : Config S ρ) (i : ι) (p : Prog S (ρ i))
    (v : Shared S ι) : (c.advance i p v).threads i = p :=
  Function.update_self ..

theorem advance_threads_of_ne {c : Config S ρ} {i j : ι} (h : j ≠ i) (p : Prog S (ρ i))
    (v : Shared S ι) : (c.advance i p v).threads j = c.threads j :=
  Function.update_of_ne h ..

theorem advance_advance (c : Config S ρ) (i : ι) (p p' : Prog S (ρ i)) (v v' : Shared S ι) :
    (c.advance i p v).advance i p' v' = c.advance i p' v' := by
  simp [advance]

/-- Thread `i` executes one node. -/
inductive StepBy (answers : Answers S) (i : ι) : Config S ρ → Config S ρ → Prop
  | atomic (c : Config S ρ) (act : S.State → S.State × List S.Event)
      (next : S.State → Prog S (ρ i)) (node : c.threads i = .atomic act next) :
      StepBy answers i c (c.advance i (next c.shared.state)
        (c.shared.push i (act c.shared.state).1 (act c.shared.state).2))
  | ask (c : Config S ρ) (q : S.Query) (next : S.Answer q → Prog S (ρ i))
      (node : c.threads i = .ask q next) (r : S.Answer q) (given : answers q r) :
      StepBy answers i c (c.advance i (next r) c.shared)

/-- Some thread executes one node. -/
def Step (answers : Answers S) (c c' : Config S ρ) : Prop := ∃ i, StepBy answers i c c'

/-- `c'` comes after `c` in some interleaving. -/
abbrev Reachable (answers : Answers S) : Config S ρ → Config S ρ → Prop :=
  Relation.ReflTransGen (Step answers)

/-- The log only grows. -/
theorem Reachable.log_prefix {answers : Answers S} {c c' : Config S ρ}
    (h : Reachable answers c c') : c.shared.log <+: c'.shared.log := by
  induction h with
  | refl => exact List.prefix_refl _
  | tail _ step ih =>
    obtain ⟨i, step⟩ := step
    cases step with
    | atomic act next node => exact ih.trans (List.prefix_append _ _)
    | ask q next node r given => exact ih

/-! ### Invariants of confined pools -/

/-- Every thread only has `A`-actions left. -/
def Confined (A : ι → S.State → S.State → List S.Event → Prop) (c : Config S ρ) : Prop :=
  ∀ i, (c.threads i).Confined (A i)

variable {A : ι → S.State → S.State → List S.Event → Prop} {answers : Answers S}

theorem Confined.advance {c : Config S ρ} (hc : c.Confined A) {i : ι} {p : Prog S (ρ i)}
    (hp : p.Confined (A i)) (v : Shared S ι) : (c.advance i p v).Confined A := by
  intro j
  rcases eq_or_ne j i with rfl | hne
  · simpa using hp
  · rw [advance_threads_of_ne hne]
    exact hc j

/-- A step of a thread of a confined pool asks a question or performs an `A`-action. -/
theorem Confined.stepBy {c c' : Config S ρ} {i : ι} (hc : c.Confined A)
    (step : StepBy answers i c c') :
    c'.Confined A ∧ (c'.shared = c.shared ∨
      ∃ s es, A i c.shared.state s es ∧ c'.shared = c.shared.push i s es) := by
  have hact := hc i
  cases step with
  | atomic act next node =>
    rw [node] at hact
    exact ⟨hc.advance (hact c.shared.state).2 _, Or.inr ⟨_, _, (hact c.shared.state).1, rfl⟩⟩
  | ask q next node r given =>
    rw [node] at hact
    exact ⟨hc.advance (hact r) _, Or.inl rfl⟩

theorem Confined.reachable {c c' : Config S ρ} (hc : c.Confined A)
    (h : Reachable answers c c') : c'.Confined A := by
  induction h with
  | refl => exact hc
  | tail _ step ih =>
    obtain ⟨i, step⟩ := step
    exact (ih.stepBy step).1

/-- A relation between the shared state then and now that every `A`-action extends
holds between any two moments of the run of a confined pool. -/
theorem Confined.relation {c c' : Config S ρ} (hc : c.Confined A)
    (R : Shared S ι → Shared S ι → Prop) (refl : ∀ v, R v v)
    (extend : ∀ v w i s es, R v w → A i w.state s es → R v (w.push i s es))
    (h : Reachable answers c c') : R c.shared c'.shared := by
  induction h with
  | refl => exact refl _
  | tail reach step ih =>
    obtain ⟨i, step⟩ := step
    rcases ((hc.reachable reach).stepBy step).2 with heq | ⟨s, es, hA, heq⟩
    · rw [heq]
      exact ih
    · rw [heq]
      exact extend _ _ i s es ih hA

/-- An invariant that every `A`-action keeps holds throughout the run of a confined pool. -/
theorem Confined.invariant {c c' : Config S ρ} (hc : c.Confined A)
    (Inv : Shared S ι → Prop) (init : Inv c.shared)
    (keep : ∀ v i s es, Inv v → A i v.state s es → Inv (v.push i s es))
    (h : Reachable answers c c') : Inv c'.shared := by
  refine hc.relation (fun v w => Inv v → Inv w) (fun _ h => h) ?_ h init
  intro v w i s es hvw hA hv
  exact keep w i s es (hvw hv) hA

/-- When no action emits more than one event, a run passes through every prefix of its log. -/
theorem Confined.reachable_cut {c c' : Config S ρ} (hc : c.Confined A)
    (single : ∀ i s s' es, A i s s' es → es.length ≤ 1) (h : Reachable answers c c')
    {log : List (ι × S.Event)} (past : c.shared.log <+: log) (future : log <+: c'.shared.log) :
    ∃ d, Reachable answers c d ∧ Reachable answers d c' ∧ d.shared.log = log := by
  induction h with
  | refl =>
    exact ⟨c, .refl, .refl, past.eq_of_length_le future.length_le⟩
  | @tail d c' reach step ih =>
    by_cases hd : log <+: d.shared.log
    · obtain ⟨d', hbefore, hafter, hlog⟩ := ih hd
      exact ⟨d', hbefore, hafter.tail step, hlog⟩
    -- The log reaches beyond the last step, which adds one entry at most.
    have hlast : log = c'.shared.log := by
      obtain ⟨i, hstep⟩ := step
      rcases ((hc.reachable reach).stepBy hstep).2 with heq | ⟨s, es, hA, heq⟩
      · rw [heq] at future
        exact absurd future hd
      · rw [heq] at future ⊢
        refine future.eq_of_length_le ?_
        have hes := single i _ _ _ hA
        have hlonger : d.shared.log <+: (d.shared.push i s es).log := List.prefix_append _ _
        have hlt : d.shared.log.length < log.length := by
          by_contra hle
          exact hd (List.prefix_of_prefix_length_le future hlonger (by omega))
        simp only [Shared.push_log, List.length_append, List.length_map]
        omega
    exact ⟨c', reach.tail step, .refl, hlast.symm⟩

/-! ### Threads with one decisive action -/

section Until

variable {quiet mark : S.State → S.State → List S.Event → Prop} {E : S.Error → Prop}

/-- What is left of a thread is what a step of another thread leaves of it. -/
theorem StepBy.threads_of_ne {c c' : Config S ρ} {i j : ι} (step : StepBy answers i c c')
    (h : j ≠ i) : c'.threads j = c.threads j := by
  cases step with
  | atomic act next node => exact advance_threads_of_ne h ..
  | ask q next node r given => exact advance_threads_of_ne h ..

theorem StepBy.failsWith {c c' : Config S ρ} {i : ι} (step : StepBy answers i c c')
    (h : (c.threads i).FailsWith E) : (c'.threads i).FailsWith E := by
  cases step with
  | atomic act next node =>
    rw [node] at h
    simpa using h c.shared.state
  | ask q next node r given =>
    rw [node] at h
    simpa using h r

theorem Reachable.failsWith {c c' : Config S ρ} {i : ι} (reach : Reachable answers c c')
    (h : (c.threads i).FailsWith E) : (c'.threads i).FailsWith E := by
  induction reach with
  | refl => exact h
  | tail _ step ih =>
    obtain ⟨j, step⟩ := step
    rcases eq_or_ne i j with rfl | hne
    · exact step.failsWith ih
    · rwa [step.threads_of_ne hne]

/-- A step before the decisive action is quiet, or it is the decisive action. -/
theorem StepBy.before {c c' : Config S ρ} {i : ι} (step : StepBy answers i c c')
    (h : (c.threads i).Until quiet mark (Prog.FailsWith E)) :
    ((c'.threads i).Until quiet mark (Prog.FailsWith E) ∧ (c'.shared = c.shared ∨
      ∃ s es, quiet c.shared.state s es ∧ c'.shared = c.shared.push i s es)) ∨
      (c'.threads i).FailsWith E := by
  cases step with
  | atomic act next node =>
    rw [node] at h
    rcases h c.shared.state with ⟨hquiet, hnext⟩ | ⟨-, hfails⟩
    · exact Or.inl ⟨by simpa using hnext, Or.inr ⟨_, _, hquiet, rfl⟩⟩
    · exact Or.inr (by simpa using hfails)
  | ask q next node r given =>
    rw [node] at h
    exact Or.inl ⟨by simpa using h r, Or.inl rfl⟩

theorem Reachable.before_or_failsWith {c c' : Config S ρ} {i : ι}
    (reach : Reachable answers c c')
    (h : (c.threads i).Until quiet mark (Prog.FailsWith E)) :
    (c'.threads i).Until quiet mark (Prog.FailsWith E) ∨ (c'.threads i).FailsWith E := by
  induction reach with
  | refl => exact Or.inl h
  | tail _ step ih =>
    obtain ⟨j, step⟩ := step
    rcases eq_or_ne i j with rfl | hne
    · rcases ih with hbefore | hfails
      · exact (step.before hbefore).imp_left And.left
      · exact Or.inr (step.failsWith hfails)
    · rwa [step.threads_of_ne hne]

/-- A thread that can only fail with `E` once its decisive action is done, and that has
failed otherwise, was quiet all along. -/
theorem quiet_of_failed {c₀ c d c' : Config S ρ} {i : ι}
    (h : (c₀.threads i).Until quiet mark (Prog.FailsWith E)) (before : Reachable answers c₀ c)
    (step : StepBy answers i c d) (after : Reachable answers d c') {e : S.Error}
    (failed : c'.threads i = .fail e) (he : ¬ E e) :
    d.shared = c.shared ∨
      ∃ s es, quiet c.shared.state s es ∧ d.shared = c.shared.push i s es := by
  have hnot : ¬ (d.threads i).FailsWith E := fun hfails => by
    have hend := after.failsWith hfails
    rw [failed] at hend
    exact he hend
  rcases before.before_or_failsWith h with hbefore | hfails
  · rcases step.before hbefore with ⟨-, hquiet⟩ | hfails
    · exact hquiet
    · exact absurd hfails hnot
  · exact absurd (step.failsWith hfails) hnot

end Until

end Config

/-! ## Sequential runs -/

/-- The outside world of a sequential run: an answer for the `n`-th question. -/
abbrev Oracle (S : Sig) := Nat → (q : S.Query) → S.Answer q

/-- What a sequential run ends with. -/
structure Run (S : Sig) (α : Type) where
  result : Except S.Error α
  state : S.State
  events : List S.Event
  asked : Nat

/-- The run that goes on from `r` with `f` on its value. -/
def Run.andThen {S : Sig} {α β : Type} (r : Run S α) (f : α → Nat → S.State → Run S β) :
    Run S β :=
  match r.result with
  | .ok a =>
    let rest := f a r.asked r.state
    { rest with events := r.events ++ rest.events }
  | .error e => { r with result := .error e }

namespace Prog

variable {S : Sig} {α β : Type}

/-- Run the program alone, from state `s`, with `n` questions already asked. -/
def run (o : Oracle S) : Prog S α → Nat → S.State → Run S α
  | .ret a, n, s => { result := .ok a, state := s, events := [], asked := n }
  | .fail e, n, s => { result := .error e, state := s, events := [], asked := n }
  | .atomic act next, n, s =>
    let rest := (next s).run o n (act s).1
    { rest with events := (act s).2 ++ rest.events }
  | .ask q next, n, s => (next (o n q)).run o (n + 1) s

variable (o : Oracle S) (n : Nat) (s : S.State)

@[simp] theorem run_ret (a : α) :
    (Prog.ret a).run o n s = { result := .ok a, state := s, events := [], asked := n } := rfl

@[simp] theorem run_fail (e : S.Error) : (Prog.fail e : Prog S α).run o n s =
    { result := .error e, state := s, events := [], asked := n } := rfl

theorem run_bind (p : Prog S α) (f : α → Prog S β) : (p.bind f).run o n s =
    (p.run o n s).andThen fun a n s => (f a).run o n s := by
  induction p generalizing n s with
  | ret a => simp [Run.andThen]
  | fail e => simp [Run.andThen]
  | atomic act next ih =>
    simp only [bind, run, ih]
    cases h : (run o (next s) n (act s).1).result <;> simp [Run.andThen, h]
  | ask q next ih => simp only [bind, run, ih]

/-- A run of a sequence that ends with a value went through both parts. -/
theorem run_bind_eq_ok {p : Prog S α} {f : α → Prog S β} {b : β}
    (h : ((p >>= f).run o n s).result = .ok b) :
    ∃ a, (p.run o n s).result = .ok a ∧
      ((f a).run o (p.run o n s).asked (p.run o n s).state).result = .ok b ∧
      ((p >>= f).run o n s).state =
        ((f a).run o (p.run o n s).asked (p.run o n s).state).state := by
  rw [bind_eq, run_bind] at h ⊢
  cases hr : (p.run o n s).result with
  | ok a =>
    simp only [Run.andThen, hr] at h ⊢
    exact ⟨a, rfl, h, rfl⟩
  | error e =>
    simp [Run.andThen, hr] at h

/-- A sequence whose first part ends with a value ends as its second part. -/
theorem run_bind_result {p : Prog S α} {f : α → Prog S β} {a : α}
    (h : (p.run o n s).result = .ok a) :
    ((p >>= f).run o n s).result =
      ((f a).run o (p.run o n s).asked (p.run o n s).state).result := by
  rw [bind_eq, run_bind, Run.andThen, h]

/-- A first part that emits nothing hands its value and its state on. -/
theorem run_bind_of_silent {p : Prog S α} {f : α → Prog S β} {a : α} {s' : S.State} {m : Nat}
    (h : p.run o n s = { result := .ok a, state := s', events := [], asked := m }) :
    (p.bind f).run o n s = (f a).run o m s' := by
  rw [run_bind, h]
  rfl

/-- What the first part emits, the whole emits. -/
theorem mem_events_run_bind_left {p : Prog S α} {f : α → Prog S β} {e : S.Event}
    (h : e ∈ (p.run o n s).events) : e ∈ ((p.bind f).run o n s).events := by
  rw [run_bind, Run.andThen]
  split
  · exact List.mem_append_left _ h
  · exact h

/-- What a program returns whatever it meets, a run of it returns. -/
theorem Returns.run {P : α → Prop} {p : Prog S α} (hp : p.Returns P) {a : α}
    (h : (p.run o n s).result = .ok a) : P a := by
  induction p generalizing n s with
  | ret b =>
    obtain rfl := Except.ok.inj h
    exact hp
  | fail e => cases h
  | atomic act next ih => exact ih s n _ (hp s) h
  | ask q next ih => exact ih (o n q) (n + 1) s (hp _) h

/-- An event of a sequence comes from its first part or, when that ended with a value,
from its second. -/
theorem mem_events_run_bind {p : Prog S α} {f : α → Prog S β} {e : S.Event}
    (h : e ∈ ((p.bind f).run o n s).events) : e ∈ (p.run o n s).events ∨
      ∃ a, (p.run o n s).result = .ok a ∧
        e ∈ ((f a).run o (p.run o n s).asked (p.run o n s).state).events := by
  rw [run_bind] at h
  unfold Run.andThen at h
  split at h
  · rename_i a hresult
    exact (List.mem_append.mp h).imp_right fun he => ⟨a, hresult, he⟩
  · exact Or.inl h

theorem run_attempt (p : Prog S α) : p.attempt.run o n s =
    { p.run o n s with result := .ok (p.run o n s).result } := by
  induction p generalizing n s with
  | ret a => rfl
  | fail e => rfl
  | atomic act next ih => simp only [attempt, run, ih]
  | ask q next ih => simp only [attempt, run, ih]

theorem run_tx_ok {body : S.State → Except S.Error (Commit S α)} {c : Commit S α}
    (h : body s = .ok c) : (tx body).run o n s =
      { result := .ok c.value, state := c.state, events := c.events, asked := n } := by
  simp [tx, run, txAct, h]

theorem run_tx_error {body : S.State → Except S.Error (Commit S α)} {e : S.Error}
    (h : body s = .error e) : (tx body).run o n s =
      { result := .error e, state := s, events := [], asked := n } := by
  simp [tx, run, txAct, h]

variable {A mark : S.State → S.State → List S.Event → Prop}

/-- A run of a confined program is an `A`-action as a whole, when `A` composes. -/
theorem Confined.run (refl : ∀ s, A s s [])
    (trans : ∀ s t u es es', A s t es → A t u es' → A s u (es ++ es')) {p : Prog S α}
    (hp : p.Confined A) : A s (p.run o n s).state (p.run o n s).events := by
  induction p generalizing n s with
  | ret a => exact refl s
  | fail e => exact refl s
  | atomic act next ih => exact trans _ _ _ _ _ (hp s).1 (ih s n _ (hp s).2)
  | ask q next ih => exact ih _ _ s (hp _)

/-- What comes after `p` does no more than an `A`-action to the state `p` leaves. -/
theorem run_bind_confined (refl : ∀ s, A s s [])
    (trans : ∀ s t u es es', A s t es → A t u es' → A s u (es ++ es')) (p : Prog S α)
    {f : α → Prog S β} (hf : ∀ a, (f a).Confined A) :
    ∃ es, A (p.run o n s).state ((p.bind f).run o n s).state es := by
  rw [run_bind, Run.andThen]
  split
  · exact ⟨_, (hf _).run o _ _ refl trans⟩
  · exact ⟨[], refl _⟩

/-- A run of a program with one decisive action fails without it, or performs it once
between two quiet stretches. -/
theorem Until.run (refl : ∀ s, A s s [])
    (trans : ∀ s t u es es', A s t es → A t u es' → A s u (es ++ es')) {p : Prog S α}
    (hp : p.Until A mark (Confined A)) :
    (∃ e, (p.run o n s).result = .error e ∧ A s (p.run o n s).state (p.run o n s).events) ∨
      ∃ t u es es' es'', A s t es ∧ mark t u es' ∧ A u (p.run o n s).state es'' ∧
        (p.run o n s).events = es ++ es' ++ es'' := by
  induction p generalizing n s with
  | ret a => exact hp.elim
  | fail e => exact Or.inl ⟨e, rfl, refl s⟩
  | atomic act next ih =>
    rcases hp s with ⟨hquiet, hnext⟩ | ⟨hmark, hnext⟩
    · rcases ih s n (act s).1 hnext with ⟨e, hresult, hA⟩ | ⟨t, u, es, es', es'', ht, hm, hu, hes⟩
      · exact Or.inl ⟨e, hresult, trans _ _ _ _ _ hquiet hA⟩
      · refine Or.inr ⟨t, u, (act s).2 ++ es, es', es'', trans _ _ _ _ _ hquiet ht, hm, hu, ?_⟩
        simp [Prog.run, hes]
    · exact Or.inr ⟨s, _, [], _, _, refl s, hmark, hnext.run o n _ refl trans, rfl⟩
  | ask q next ih => exact ih _ _ s (hp _)

end Prog

/-- A sequential run is an interleaving in which nobody else moves. -/
theorem Config.reachable_run {S : Sig} {ι : Type} {ρ : ι → Type} [DecidableEq ι]
    {answers : Answers S} {o : Oracle S} (ho : ∀ n q, answers q (o n q)) (i : ι)
    (p : Prog S (ρ i)) (n : Nat) (c : Config S ρ) (hp : c.threads i = p) :
    Reachable answers c (c.advance i (.ofExcept (p.run o n c.shared.state).result)
      (c.shared.push i (p.run o n c.shared.state).state (p.run o n c.shared.state).events)) := by
  induction p generalizing n c with
  | ret a =>
    have hsame : c.advance i (.ret a) (c.shared.push i c.shared.state []) = c := by
      simp [Config.advance, Shared.push, ← hp]
    simp only [Prog.run_ret, Prog.ofExcept_ok, hsame]
    exact Relation.ReflTransGen.refl
  | fail e =>
    have hsame : c.advance i (.fail e) (c.shared.push i c.shared.state []) = c := by
      simp [Config.advance, Shared.push, ← hp]
    simp only [Prog.run_fail, Prog.ofExcept_error, hsame]
    exact Relation.ReflTransGen.refl
  | atomic act next ih =>
    refine Relation.ReflTransGen.head ⟨i, .atomic c act next hp⟩ ?_
    have := ih c.shared.state n _ (advance_threads_self c i (next c.shared.state)
      (c.shared.push i (act c.shared.state).1 (act c.shared.state).2))
    simpa [advance_advance, Shared.push_push, Prog.run] using this
  | ask q next ih =>
    refine Relation.ReflTransGen.head ⟨i, .ask c q next hp (o n q) (ho n q)⟩ ?_
    have := ih (o n q) (n + 1) _ (advance_threads_self c i (next (o n q)) c.shared)
    simpa [advance_advance, Prog.run] using this

/-! ## Schedules

A schedule says which thread executes the next node; with an oracle for the outside world it
determines the run, so that an interleaving can be evaluated. -/

namespace Config

variable {S : Sig} {ι : Type} {ρ : ι → Type} [DecidableEq ι]

/-- The next node of thread `i`, as the `n`-th turn; nothing when the thread has ended. -/
def turn (o : Oracle S) (n : Nat) (i : ι) (c : Config S ρ) : Config S ρ :=
  match c.threads i with
  | .ret _ | .fail _ => c
  | .atomic act next =>
    c.advance i (next c.shared.state)
      (c.shared.push i (act c.shared.state).1 (act c.shared.state).2)
  | .ask q next => c.advance i (next (o n q)) c.shared

/-- The turns of a schedule, one after the other. -/
def schedule (o : Oracle S) : List ι → Nat → Config S ρ → Config S ρ
  | [], _, c => c
  | i :: turns, n, c => schedule o turns (n + 1) (c.turn o n i)

theorem reachable_turn {answers : Answers S} {o : Oracle S} (ho : ∀ n q, answers q (o n q))
    (n : Nat) (i : ι) (c : Config S ρ) : Reachable answers c (c.turn o n i) := by
  unfold turn
  split
  · exact Relation.ReflTransGen.refl
  · exact Relation.ReflTransGen.refl
  · rename_i act next node
    exact Relation.ReflTransGen.single ⟨i, .atomic c act next node⟩
  · rename_i q next node
    exact Relation.ReflTransGen.single ⟨i, .ask c q next node (o n q) (ho n q)⟩

/-- A schedule is a run. -/
theorem reachable_schedule {answers : Answers S} {o : Oracle S} (ho : ∀ n q, answers q (o n q))
    (turns : List ι) (n : Nat) (c : Config S ρ) :
    Reachable answers c (c.schedule o turns n) := by
  induction turns generalizing n c with
  | nil => exact Relation.ReflTransGen.refl
  | cons i turns ih => exact (reachable_turn ho n i c).trans (ih (n + 1) _)

end Config

end Interleaving
