import Mathlib.Data.List.Infix

/-!
# Finding a pattern in a list

`splitFirst` and `splitLast` cut a list at the first or the last place where a pattern
stands. Each is characterized by the equation of the cut and by which cuts there are
besides it.
-/

namespace Search

variable {α : Type} [DecidableEq α] {pattern list before after before' after' : List α}

/-- What stands before and after the first occurrence of a pattern. -/
def splitFirst (pattern : List α) : List α → Option (List α × List α)
  | [] => if pattern = [] then some ([], []) else none
  | a :: rest =>
    if pattern.isPrefixOf (a :: rest) then some ([], (a :: rest).drop pattern.length)
    else (splitFirst pattern rest).map fun parts => (a :: parts.1, parts.2)

/-- What stands before and after the last occurrence of a pattern. -/
def splitLast (pattern : List α) : List α → Option (List α × List α)
  | [] => if pattern = [] then some ([], []) else none
  | a :: rest =>
    match splitLast pattern rest with
    | some parts => some (a :: parts.1, parts.2)
    | none =>
      if pattern.isPrefixOf (a :: rest) then some ([], (a :: rest).drop pattern.length) else none

theorem append_drop_of_isPrefixOf (h : pattern.isPrefixOf list) :
    pattern ++ list.drop pattern.length = list :=
  List.prefix_iff_eq_append.mp (List.isPrefixOf_iff_prefix.mp h)

theorem isPrefixOf_append (pattern after : List α) : pattern.isPrefixOf (pattern ++ after) :=
  List.isPrefixOf_iff_prefix.mpr (List.prefix_append _ _)

/-! ## The equation of a cut -/

theorem eq_of_splitFirst (h : splitFirst pattern list = some (before, after)) :
    list = before ++ (pattern ++ after) := by
  induction list generalizing before with
  | nil =>
    rw [splitFirst] at h
    split at h
    · rename_i hnil
      obtain ⟨rfl, rfl⟩ := Prod.mk.inj (Option.some.inj h)
      rw [hnil]
      rfl
    · cases h
  | cons a rest ih =>
    rw [splitFirst] at h
    split at h
    · rename_i hstart
      obtain ⟨rfl, rfl⟩ := Prod.mk.inj (Option.some.inj h)
      exact (append_drop_of_isPrefixOf hstart).symm
    · obtain ⟨⟨before', after'⟩, hrest, heq⟩ := Option.map_eq_some_iff.mp h
      obtain ⟨rfl, rfl⟩ := Prod.mk.inj heq
      rw [List.cons_append, ← ih hrest]

theorem eq_of_splitLast (h : splitLast pattern list = some (before, after)) :
    list = before ++ (pattern ++ after) := by
  induction list generalizing before with
  | nil =>
    rw [splitLast] at h
    split at h
    · rename_i hnil
      obtain ⟨rfl, rfl⟩ := Prod.mk.inj (Option.some.inj h)
      rw [hnil]
      rfl
    · cases h
  | cons a rest ih =>
    rw [splitLast] at h
    split at h
    · rename_i parts hrest
      obtain ⟨rfl, rfl⟩ := Prod.mk.inj (Option.some.inj h)
      rw [List.cons_append, ← ih hrest]
    · split at h
      · rename_i hstart
        obtain ⟨rfl, rfl⟩ := Prod.mk.inj (Option.some.inj h)
        exact (append_drop_of_isPrefixOf hstart).symm
      · cases h

/-! ## The other cuts -/

/-- The first cut is the earliest one. -/
theorem splitFirst_of_eq (h : list = before' ++ (pattern ++ after')) :
    ∃ before after, splitFirst pattern list = some (before, after) ∧
      before.length ≤ before'.length := by
  induction list generalizing before' with
  | nil =>
    have hparts := List.append_eq_nil_iff.mp h.symm
    have hnil : pattern = [] := (List.append_eq_nil_iff.mp hparts.2).1
    exact ⟨[], [], by rw [splitFirst, if_pos hnil], Nat.zero_le _⟩
  | cons a rest ih =>
    rw [splitFirst]
    split
    · exact ⟨[], _, rfl, Nat.zero_le _⟩
    · rename_i hstart
      cases before' with
      | nil =>
        rw [List.nil_append] at h
        exact absurd (h ▸ isPrefixOf_append pattern after') hstart
      | cons b before' =>
        obtain ⟨before, after, hrest, hle⟩ := ih (List.cons.inj h).2
        exact ⟨a :: before, after, by rw [hrest]; rfl, Nat.succ_le_succ hle⟩

/-- The last cut is the latest one. -/
theorem splitLast_of_eq (h : list = before' ++ (pattern ++ after')) :
    ∃ before after, splitLast pattern list = some (before, after) ∧
      before'.length ≤ before.length := by
  induction list generalizing before' with
  | nil =>
    have hparts := List.append_eq_nil_iff.mp h.symm
    have hnil : pattern = [] := (List.append_eq_nil_iff.mp hparts.2).1
    exact ⟨[], [], by rw [splitLast, if_pos hnil], by rw [hparts.1]⟩
  | cons a rest ih =>
    cases before' with
    | nil =>
      rw [splitLast]
      split
      · rename_i parts hrest
        exact ⟨_, _, rfl, Nat.zero_le _⟩
      · have hstart : pattern.isPrefixOf (a :: rest) := h ▸ isPrefixOf_append pattern after'
        rw [if_pos hstart]
        exact ⟨[], _, rfl, Nat.zero_le _⟩
    | cons b before' =>
      obtain ⟨before, after, hrest, hle⟩ := ih (List.cons.inj h).2
      rw [splitLast, hrest]
      exact ⟨a :: before, after, rfl, Nat.succ_le_succ hle⟩

/-- A cut is there exactly when the pattern occurs. -/
theorem splitFirst_eq_none : splitFirst pattern list = none ↔ ¬ pattern <:+: list := by
  constructor
  · rintro hnone ⟨before, after, h⟩
    obtain ⟨_, _, hsome, -⟩ := splitFirst_of_eq (h.symm.trans (List.append_assoc _ _ _))
    rw [hnone] at hsome
    cases hsome
  · intro hnot
    cases hsplit : splitFirst pattern list with
    | none => rfl
    | some parts =>
      refine absurd ⟨parts.1, parts.2, ?_⟩ hnot
      rw [List.append_assoc, ← eq_of_splitFirst hsplit]

theorem splitLast_eq_none : splitLast pattern list = none ↔ ¬ pattern <:+: list := by
  constructor
  · rintro hnone ⟨before, after, h⟩
    obtain ⟨_, _, hsome, -⟩ := splitLast_of_eq (h.symm.trans (List.append_assoc _ _ _))
    rw [hnone] at hsome
    cases hsome
  · intro hnot
    cases hsplit : splitLast pattern list with
    | none => rfl
    | some parts =>
      refine absurd ⟨parts.1, parts.2, ?_⟩ hnot
      rw [List.append_assoc, ← eq_of_splitLast hsplit]

end Search
