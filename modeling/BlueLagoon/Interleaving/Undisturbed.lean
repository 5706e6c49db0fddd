import BlueLagoon.Interleaving.RelyGuarantee

/-!
# Writes that nobody disturbed

A thread reads a part of the state, decides, and writes. Nothing keeps the others from
writing the same part in between. A log is undisturbed when that never happened: since
the last time the writer observed the part, nobody else wrote it. What a writer decided
on is then still the case when it writes, which is what the invariant needs. Some
observations may be no good on their own; a log is orderly when it is undisturbed and has
none of these.
-/

namespace Interleaving

/-- Which log entries observe a part of the state, which write it, and which are good
enough to act on. -/
structure Footprint (S : Sig) where
  Part : Type
  Observes : S.Event → Part → Prop
  Writes : S.Event → Part → Prop
  Fine : S.Event → Prop := fun _ => True

namespace Footprint

variable {S : Sig} {ι : Type} (F : Footprint S)

/-- Before each write of a part its thread observed the part, and nobody wrote it since. -/
def Undisturbed (log : List (ι × S.Event)) : Prop :=
  ∀ before i e after r, log = before ++ (i, e) :: after → F.Writes e r →
    ∃ earlier e' since, before = earlier ++ (i, e') :: since ∧ F.Observes e' r ∧
      ∀ entry ∈ since, ¬ F.Writes entry.2 r

/-- Nobody was disturbed, and every entry is good enough to act on. -/
structure Orderly (log : List (ι × S.Event)) : Prop where
  undisturbed : F.Undisturbed log
  fine : ∀ entry ∈ log, F.Fine entry.2

variable {F} {log new : List (ι × S.Event)} {i : ι} {e : S.Event} {r : F.Part}

theorem undisturbed_nil : F.Undisturbed ([] : List (ι × S.Event)) := by
  intro before i e after r h _
  exact absurd h.symm (List.append_ne_nil_of_right_ne_nil _ (List.cons_ne_nil _ _))

/-- An entry that writes only what its thread observed last. -/
theorem Undisturbed.append (h : F.Undisturbed log)
    (hlast : ∀ r, F.Writes e r → ∃ earlier e' since, log = earlier ++ (i, e') :: since ∧
      F.Observes e' r ∧ ∀ entry ∈ since, ¬ F.Writes entry.2 r) :
    F.Undisturbed (log ++ [(i, e)]) := by
  intro before j e₀ after r hsplit hwrites
  rcases split_concat hsplit with ⟨after', hlog⟩ | ⟨rfl, hentry⟩
  · exact h before j e₀ after' r hlog hwrites
  · obtain ⟨rfl, rfl⟩ := Prod.mk.inj hentry
    exact hlast r hwrites

theorem Undisturbed.of_append (h : F.Undisturbed (log ++ new)) : F.Undisturbed log := by
  intro before i e after r hlog hwrites
  refine h before i e (after ++ new) r ?_ hwrites
  rw [hlog, List.append_assoc, List.cons_append]

theorem Orderly.of_append (h : F.Orderly (log ++ new)) : F.Orderly log :=
  ⟨h.undisturbed.of_append, fun entry hentry => h.fine entry (List.mem_append_left _ hentry)⟩

/-- When a thread that has been silent writes, nobody else has written meanwhile. -/
theorem Undisturbed.not_written (h : F.Undisturbed (log ++ new ++ [(i, e)]))
    (hwrites : F.Writes e r) (silent : ∀ entry ∈ new, entry.1 ≠ i) :
    ∀ entry ∈ new, ¬ F.Writes entry.2 r := by
  obtain ⟨earlier, e', since, hsplit, -, hsince⟩ := h (log ++ new) i e [] r rfl hwrites
  rcases List.append_eq_append_iff.mp hsplit with ⟨c, -, hnew⟩ | ⟨c, -, hrest⟩
  · have hmem : (i, e') ∈ new := by rw [hnew]; simp
    exact absurd rfl (silent _ hmem)
  · cases c with
    | nil =>
      have hmem : (i, e') ∈ new := by
        rw [List.nil_append] at hrest
        rw [← hrest]
        exact List.mem_cons_self
      exact absurd rfl (silent _ hmem)
    | cons first c =>
      obtain ⟨-, rfl⟩ := List.cons.inj (by simpa using hrest)
      exact fun entry hentry => hsince entry (List.mem_append_right _ hentry)

/-! ## The protocol -/

/-- How a thread sees the others: they are appending to the log, and as long as it is
orderly, what they have not written according to it is as it was. -/
def Unseen (F : Footprint S) {π : Type} (view : F.Part → S.State → π) (i : ι)
    (v w : Shared S ι) : Prop :=
  ∃ new, w.log = v.log ++ new ∧ (∀ entry ∈ new, entry.1 ≠ i) ∧
    (F.Orderly w.log → ∀ r, (∀ entry ∈ new, ¬ F.Writes entry.2 r) →
      view r w.state = view r v.state)

variable {π : Type} {view : F.Part → S.State → π} {v w : Shared S ι}

theorem Unseen.refl : F.Unseen view i v v :=
  ⟨[], by simp, by simp, fun _ _ _ => rfl⟩

theorem Unseen.trans {u : Shared S ι} (huv : F.Unseen view i u v) (hvw : F.Unseen view i v w) :
    F.Unseen view i u w := by
  obtain ⟨new, hlog, hsilent, hview⟩ := huv
  obtain ⟨new', hlog', hsilent', hview'⟩ := hvw
  refine ⟨new ++ new', by rw [hlog', hlog, List.append_assoc], ?_, ?_⟩
  · intro entry hentry
    rcases List.mem_append.mp hentry with h | h
    · exact hsilent entry h
    · exact hsilent' entry h
  · intro horderly r hr
    have hearlier : F.Orderly v.log := by
      rw [hlog'] at horderly
      exact horderly.of_append
    rw [hview' horderly r fun entry h => hr entry (List.mem_append_right _ h)]
    exact hview hearlier r fun entry h => hr entry (List.mem_append_left _ h)

/-- The others add nothing to what a thread has emitted. -/
theorem Unseen.eventsOf [DecidableEq ι] (h : F.Unseen view i v w) :
    w.eventsOf i = v.eventsOf i := by
  obtain ⟨new, hlog, hsilent, -⟩ := h
  have hnone : new.filter (fun entry => entry.1 = i) = [] := by
    rw [List.filter_eq_nil_iff]
    intro entry hentry
    simpa using hsilent entry hentry
  rw [Shared.eventsOf, Shared.eventsOf, hlog, List.filter_append, hnone, List.append_nil]

theorem Unseen.log_prefix (h : F.Unseen view i v w) : v.log <+: w.log := by
  obtain ⟨new, hlog, -, -⟩ := h
  exact ⟨new, hlog.symm⟩

/-- What a thread observed is still the case when it writes into an orderly log. -/
theorem Unseen.current (h : F.Unseen view i v w) (hlog : F.Orderly (w.log ++ [(i, e)]))
    (hwrites : F.Writes e r) : view r w.state = view r v.state := by
  obtain ⟨new, heq, hsilent, hview⟩ := h
  have hwritten := hlog.undisturbed
  rw [heq] at hwritten
  exact hview hlog.of_append r (hwritten.not_written hwrites hsilent)

/-- The protocol of threads whose invariant holds as long as the log is orderly. -/
def protocol (F : Footprint S) (view : F.Part → S.State → π) (answers : Answers S)
    (J : Shared S ι → Prop) : Protocol S ι where
  answers := answers
  Inv v := F.Orderly v.log → J v
  Rely i v w := F.Unseen view i v w
  rely_refl _ _ := Unseen.refl
  rely_trans _ _ _ _ := Unseen.trans

variable {answers : Answers S} {J : Shared S ι → Prop}

/-- An action is allowed when, in an orderly log, it keeps the invariant and writes no part
that its events do not name. -/
theorem allows {s : S.State} {events : List S.Event}
    (keep : F.Orderly (w.push i s events).log → J (w.push i s events) ∧
      ∀ r, (∀ e ∈ events, ¬ F.Writes e r) → view r s = view r w.state) :
    (F.protocol view answers J).Allows i w (w.push i s events) := by
  refine ⟨fun horderly => (keep horderly).1, fun j hne => ⟨events.map (Prod.mk i), rfl, ?_, ?_⟩⟩
  · intro entry hentry
    obtain ⟨e, -, rfl⟩ := List.mem_map.mp hentry
    exact hne.symm
  · intro horderly r hr
    exact (keep horderly).2 r fun e he => hr (i, e) (List.mem_map_of_mem he)

/-- A program that writes no part, emits nothing and keeps the invariant is allowed at any
time, and changes nothing that its thread knows. -/
theorem wp_of_quiet {α : Type} {A : S.State → S.State → List S.Event → Prop} {p : Prog S α}
    (hp : p.Confined A)
    (quiet : ∀ s s' events, A s s' events → events = [] ∧ ∀ r, view r s' = view r s)
    (keep : ∀ (w : Shared S ι) (s : S.State), J w → A w.state s [] → J (w.push i s []))
    (v : Shared S ι) :
    (F.protocol view answers J).wp i p (fun _ w => F.Unseen view i v w) v := by
  refine Protocol.wp_of_confined hp (fun _ => Unseen.refl) (fun _ _ _ => Unseen.trans)
    (fun _ _ _ h => h) (fun w s events hinv hA => ?_) v
  obtain ⟨rfl, hview⟩ := quiet w.state s events hA
  have hpush : (w.push i s []).log = w.log := by simp
  refine ⟨allows fun horderly => ⟨?_, fun r _ => hview r⟩, ?_⟩
  · rw [hpush] at horderly
    exact keep w s (hinv horderly) hA
  · exact ⟨[], by simp, by simp, fun _ r _ => hview r⟩

end Footprint

end Interleaving
