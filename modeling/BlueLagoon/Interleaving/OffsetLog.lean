import Mathlib.Data.List.MinMax
import Mathlib.Data.Set.Basic
import Mathlib.Logic.Relation
import Mathlib.Order.Defs.LinearOrder

/-!
# Reading a log by offsets

A log keeps numbered entries for one reader. A poll with an offset confirms everything below it,
and hands out the first entries that are not confirmed. The reader handles what it is handed
before it polls with the next offset; when it stops it forgets its offset, and starts again
without one.

Nothing is lost that way: what is confirmed has been handled, however often the reader stops and
wherever in a batch it does.
-/

namespace OffsetLog

variable {α : Type} {key : α → Int}

/-- The log: its entries, oldest first, and the offset below which they are confirmed. -/
structure Log (α : Type) where
  arrived : List α := []
  confirmed : Option Int := none

/-- The key lies below the offset. -/
def Below (offset : Option Int) (k : Int) : Prop := ∃ m, offset = some m ∧ k < m

instance (offset : Option Int) (k : Int) : Decidable (Below offset k) :=
  match offset with
  | none => isFalse fun h => by obtain ⟨m, hm, -⟩ := h; cases hm
  | some m => decidable_of_iff (k < m) ⟨fun h => ⟨m, rfl, h⟩, fun h => by
      obtain ⟨m', hm, hlt⟩ := h
      obtain rfl := Option.some.inj hm
      exact hlt⟩

/-- The larger of two offsets. -/
def laterOffset : Option Int → Option Int → Option Int
  | none, other => other
  | offset, none => offset
  | some m, some k => some (max m k)

/-- A poll confirms what lies below its offset. -/
def Log.confirm (offset : Option Int) (log : Log α) : Log α :=
  { log with confirmed := laterOffset offset log.confirmed }

/-- What is not confirmed. -/
def Log.pending (key : α → Int) (log : Log α) : List α :=
  log.arrived.filter fun a => ¬ Below log.confirmed (key a)

/-- The offset after a batch: past its largest key, or as before when it is empty. -/
def nextOffset (key : α → Int) (batch : List α) (offset : Option Int) : Option Int :=
  match (batch.map key).max? with
  | some m => some (m + 1)
  | none => offset

/-! ## The reader -/

/-- Where the reader stands. -/
inductive Phase (α : Type)
  | down
  | polling (offset : Option Int)
  | handling (offset : Option Int) (batch : List α)

structure State (α : Type) where
  log : Log α := {}
  phase : Phase α := .down
  handled : Set α := ∅

/-- The moves of the log, of the reader, and of those who handle entries. A batch ends well when
the entries of it that are wanted have been handled. -/
inductive Step (key : α → Int) (wanted : α → Prop) : State α → State α → Prop
  | arrive (s : State α) (a : α) (h : ∀ b ∈ s.log.arrived, key b < key a) :
      Step key wanted s { s with log := { s.log with arrived := s.log.arrived ++ [a] } }
  | start (s : State α) (h : s.phase = .down) :
      Step key wanted s { s with phase := .polling none }
  | poll (s : State α) (offset : Option Int) (batch : List α) (h : s.phase = .polling offset)
      (hbatch : batch <+: (s.log.confirm offset).pending key) :
      Step key wanted s
        { s with
          log := s.log.confirm offset
          phase := .handling (nextOffset key batch offset) batch }
  | lose (s : State α) (offset : Option Int) (h : s.phase = .polling offset) :
      Step key wanted s { s with log := s.log.confirm offset, phase := .down }
  | handle (s : State α) (handled : Set α) (h : s.handled ⊆ handled) :
      Step key wanted s { s with handled := handled }
  | finish (s : State α) (offset : Option Int) (batch : List α)
      (h : s.phase = .handling offset batch)
      (hbatch : ∀ a ∈ batch, wanted a → a ∈ s.handled) :
      Step key wanted s { s with phase := .polling offset }
  | stop (s : State α) : Step key wanted s { s with phase := .down }

/-- The states that are reached from a log without entries. -/
def Reachable (key : α → Int) (wanted : α → Prop) (s : State α) : Prop :=
  ∃ handled, Relation.ReflTransGen (Step key wanted) { handled := handled } s

/-! ## What is confirmed has been handled -/

/-- The wanted entries below the offset have been handled. -/
def SafeBelow (key : α → Int) (wanted : α → Prop) (s : State α) (offset : Option Int) : Prop :=
  ∀ a ∈ s.log.arrived, wanted a → Below offset (key a) → a ∈ s.handled

/-- The offset is not past the entries that have arrived. -/
def Reached (key : α → Int) (s : State α) (offset : Option Int) : Prop :=
  ∀ m, offset = some m → ∃ a ∈ s.log.arrived, m ≤ key a + 1

/-- What holds of the reader's own offset. -/
def PhaseSafe (key : α → Int) (wanted : α → Prop) (s : State α) : Prop :=
  match s.phase with
  | .down => True
  | .polling offset => Reached key s offset ∧ SafeBelow key wanted s offset
  | .handling offset batch => Reached key s offset ∧
      ∀ a ∈ s.log.arrived, wanted a → Below offset (key a) → a ∈ s.handled ∨ a ∈ batch

structure Safe (key : α → Int) (wanted : α → Prop) (s : State α) : Prop where
  sorted : s.log.arrived.Pairwise fun a b => key a < key b
  reached : Reached key s s.log.confirmed
  confirmed : SafeBelow key wanted s s.log.confirmed
  phase : PhaseSafe key wanted s

theorem below_laterOffset {offset other : Option Int} {k : Int} :
    Below (laterOffset offset other) k ↔ Below offset k ∨ Below other k := by
  cases offset with
  | none => simp [laterOffset, Below]
  | some m =>
    cases other with
    | none => simp [laterOffset, Below]
    | some n => simp [laterOffset, Below]

theorem laterOffset_cases (offset other : Option Int) :
    laterOffset offset other = offset ∨ laterOffset offset other = other := by
  cases offset with
  | none => exact Or.inr rfl
  | some m =>
    cases other with
    | none => exact Or.inl rfl
    | some n =>
      rcases max_choice m n with h | h
      · exact Or.inl (congrArg some h)
      · exact Or.inr (congrArg some h)

/-- The entries that are not past the largest of a batch are in the batch. -/
theorem mem_batch (log : Log α) {batch : List α}
    (hsorted : log.arrived.Pairwise fun a b => key a < key b)
    (hbatch : batch <+: log.pending key) {a b : α} (ha : a ∈ log.pending key) (hb : b ∈ batch)
    (hle : key a ≤ key b) : a ∈ batch := by
  obtain ⟨rest, hrest⟩ := hbatch
  have hpending : (log.pending key).Pairwise fun a b => key a < key b :=
    hsorted.sublist List.filter_sublist
  rw [← hrest] at ha hpending
  rcases List.mem_append.mp ha with hmem | hmem
  · exact hmem
  · have hlt : key b < key a := (List.pairwise_append.mp hpending).2.2 b hb a hmem
    exact absurd hlt (not_lt.mpr hle)

theorem nextOffset_cases (key : α → Int) (batch : List α) (offset : Option Int) :
    (batch = [] ∧ nextOffset key batch offset = offset) ∨
      ∃ b ∈ batch, nextOffset key batch offset = some (key b + 1) := by
  unfold nextOffset
  cases hmax : (batch.map key).max? with
  | none =>
    left
    exact ⟨List.map_eq_nil_iff.mp (List.max?_eq_none_iff.mp hmax), rfl⟩
  | some m =>
    right
    obtain ⟨b, hb, rfl⟩ := List.mem_map.mp (List.max?_mem hmax)
    exact ⟨b, hb, rfl⟩

section Steps

variable {wanted : α → Prop} {s s' : State α} {offset : Option Int}

/-- An offset that the entries reach does not confirm one that arrives later. -/
theorem Reached.not_below (h : Reached key s offset) {a : α}
    (ha : ∀ b ∈ s.log.arrived, key b < key a) : ¬ Below offset (key a) := by
  intro hbelow
  obtain ⟨m, hm, hlt⟩ := hbelow
  obtain ⟨b, hb, hle⟩ := h m hm
  have hb := ha b hb
  omega

theorem Reached.later {other : Option Int} (h : Reached key s offset) (h' : Reached key s other) :
    Reached key s (laterOffset offset other) := by
  rcases laterOffset_cases offset other with heq | heq
  · rw [heq]
    exact h
  · rw [heq]
    exact h'

theorem SafeBelow.later {other : Option Int} (h : SafeBelow key wanted s offset)
    (h' : SafeBelow key wanted s other) : SafeBelow key wanted s (laterOffset offset other) := by
  intro a ha hwanted hbelow
  rcases below_laterOffset.mp hbelow with hbelow | hbelow
  · exact h a ha hwanted hbelow
  · exact h' a ha hwanted hbelow

/-- A poll hands out everything that its next offset goes past, and that is not handled. -/
theorem poll_covers (hsorted : s.log.arrived.Pairwise fun a b => key a < key b)
    (hconfirmed : SafeBelow key wanted s s.log.confirmed)
    (hoffset : SafeBelow key wanted s offset) {batch : List α}
    (hbatch : batch <+: (s.log.confirm offset).pending key) {a : α} (ha : a ∈ s.log.arrived)
    (hwanted : wanted a) (hbelow : Below (nextOffset key batch offset) (key a)) :
    a ∈ s.handled ∨ a ∈ batch := by
  rcases nextOffset_cases key batch offset with ⟨-, heq⟩ | ⟨b, hb, heq⟩
  · rw [heq] at hbelow
    exact Or.inl (hoffset a ha hwanted hbelow)
  · obtain ⟨m, hm, hlt⟩ := hbelow
    rw [heq] at hm
    obtain rfl := Option.some.inj hm
    by_cases hdone : Below (laterOffset offset s.log.confirmed) (key a)
    · exact Or.inl (hoffset.later hconfirmed a ha hwanted hdone)
    · right
      have hpending : a ∈ (s.log.confirm offset).pending key :=
        List.mem_filter.mpr ⟨ha, decide_eq_true hdone⟩
      refine mem_batch (s.log.confirm offset) hsorted hbatch hpending hb ?_
      omega

/-- Every move keeps the log safe: what arrives is past every offset, and an offset moves on only
with a batch whose wanted entries are handled. -/
theorem Safe.step (h : Safe key wanted s) (step : Step key wanted s s') : Safe key wanted s' := by
  obtain ⟨hsorted, hreached, hconfirmed, hphase⟩ := h
  cases step with
  | arrive a ha =>
    have grown : ∀ offset, Reached key s offset →
        Reached key { s with log := { s.log with arrived := s.log.arrived ++ [a] } } offset := by
      intro offset hoffset m hm
      obtain ⟨b, hb, hle⟩ := hoffset m hm
      exact ⟨b, List.mem_append_left _ hb, hle⟩
    -- What arrives is past every offset.
    have old : ∀ offset, Reached key s offset → ∀ b ∈ s.log.arrived ++ [a],
        Below offset (key b) → b ∈ s.log.arrived := by
      intro offset hoffset b hb hbelow
      rcases List.mem_append.mp hb with hold | hnew
      · exact hold
      · obtain rfl := List.mem_singleton.mp hnew
        exact absurd hbelow (hoffset.not_below ha)
    refine ⟨?_, grown _ hreached, ?_, ?_⟩
    · refine List.pairwise_append.mpr ⟨hsorted, List.pairwise_singleton _ _, fun b hb c hc => ?_⟩
      obtain rfl := List.mem_singleton.mp hc
      exact ha b hb
    · intro b hb hwanted hbelow
      exact hconfirmed b (old _ hreached b hb hbelow) hwanted hbelow
    · unfold PhaseSafe at hphase ⊢
      dsimp only
      cases hs : s.phase with
      | down => trivial
      | polling offset =>
        rw [hs] at hphase
        refine ⟨grown _ hphase.1, fun b hb hwanted hbelow => ?_⟩
        exact hphase.2 b (old _ hphase.1 b hb hbelow) hwanted hbelow
      | handling offset batch =>
        rw [hs] at hphase
        refine ⟨grown _ hphase.1, fun b hb hwanted hbelow => ?_⟩
        exact hphase.2 b (old _ hphase.1 b hb hbelow) hwanted hbelow
  | start hdown =>
    refine ⟨hsorted, hreached, hconfirmed, ?_, ?_⟩
    · intro m hm
      cases hm
    · intro a ha hwanted hbelow
      obtain ⟨m, hm, -⟩ := hbelow
      cases hm
  | poll offset batch hpolling hbatch =>
    unfold PhaseSafe at hphase
    rw [hpolling] at hphase
    obtain ⟨hoffset, hsafe⟩ := hphase
    refine ⟨hsorted, hoffset.later hreached, hsafe.later hconfirmed, ?_, ?_⟩
    · intro m hm
      rcases nextOffset_cases key batch offset with ⟨-, heq⟩ | ⟨b, hb, heq⟩
      · rw [heq] at hm
        exact hoffset m hm
      · rw [heq] at hm
        obtain rfl := Option.some.inj hm
        have hmem : b ∈ (s.log.confirm offset).pending key := hbatch.subset hb
        exact ⟨b, (List.mem_filter.mp hmem).1, le_refl _⟩
    · intro a ha hwanted hbelow
      exact poll_covers hsorted hconfirmed hsafe hbatch ha hwanted hbelow
  | lose offset hpolling =>
    unfold PhaseSafe at hphase
    rw [hpolling] at hphase
    exact ⟨hsorted, hphase.1.later hreached, hphase.2.later hconfirmed, trivial⟩
  | handle handled hmore =>
    refine ⟨hsorted, hreached, ?_, ?_⟩
    · intro a ha hwanted hbelow
      exact hmore (hconfirmed a ha hwanted hbelow)
    · unfold PhaseSafe at hphase ⊢
      dsimp only
      cases hs : s.phase with
      | down => trivial
      | polling offset =>
        rw [hs] at hphase
        exact ⟨hphase.1, fun a ha hwanted hbelow => hmore (hphase.2 a ha hwanted hbelow)⟩
      | handling offset batch =>
        rw [hs] at hphase
        refine ⟨hphase.1, fun a ha hwanted hbelow => ?_⟩
        exact (hphase.2 a ha hwanted hbelow).imp_left fun hdone => hmore hdone
  | finish offset batch hhandling hbatch =>
    unfold PhaseSafe at hphase
    rw [hhandling] at hphase
    refine ⟨hsorted, hreached, hconfirmed, hphase.1, fun a ha hwanted hbelow => ?_⟩
    rcases hphase.2 a ha hwanted hbelow with hdone | hmem
    · exact hdone
    · exact hbatch a hmem hwanted
  | stop => exact ⟨hsorted, hreached, hconfirmed, trivial⟩

theorem Reachable.safe (h : Reachable key wanted s) : Safe key wanted s := by
  obtain ⟨handled, hrun⟩ := h
  induction hrun with
  | refl =>
    refine ⟨List.Pairwise.nil, ?_, ?_, trivial⟩
    · intro m hm
      cases hm
    · intro a ha
      cases ha
  | tail _ step ih => exact ih.step step

/-- Whatever is confirmed and wanted has been handled. -/
theorem Reachable.handled (h : Reachable key wanted s) :
    SafeBelow key wanted s s.log.confirmed :=
  h.safe.confirmed

theorem Reachable.tail (h : Reachable key wanted s) (step : Step key wanted s s') :
    Reachable key wanted s' := by
  obtain ⟨handled, hrun⟩ := h
  exact ⟨handled, hrun.tail step⟩

end Steps

end OffsetLog
