import BlueLagoon.Table
import Mathlib.Data.List.Nodup
import Mathlib.Logic.Relation

/-!
# Rows that replace rows

A table whose rows name the row they replace (`prev`) and the row that replaced them
(`next`). In a `Succession` the two kinds of links are inverse to each other, every link
leads to a row of the table, and a row only replaces rows inserted before it. It follows
that a row is replaced at most once and that the links have no cycle.
-/

namespace Table

variable {α κ : Type}

/-- The links of the rows, oldest row first. -/
structure Succession (key : α → κ) (prev next : α → Option κ) (rows : List α) : Prop where
  keys : (rows.map key).Nodup
  inverse : ∀ a ∈ rows, ∀ b ∈ rows, prev a = some (key b) ↔ next b = some (key a)
  prevStored : ∀ a ∈ rows, ∀ k, prev a = some k → ∃ b ∈ rows, key b = k
  nextStored : ∀ b ∈ rows, ∀ k, next b = some k → ∃ a ∈ rows, key a = k
  ordered : rows.Pairwise fun earlier later => prev earlier ≠ some (key later)
  other : ∀ a ∈ rows, prev a ≠ some (key a)

/-- One row of the table replaces another. -/
def Replaces (key : α → κ) (prev : α → Option κ) (rows : List α) (a b : α) : Prop :=
  a ∈ rows ∧ b ∈ rows ∧ prev a = some (key b)

namespace Succession

variable {key : α → κ} {prev next : α → Option κ} {rows : List α}

/-! ## What a succession excludes -/

/-- A row is replaced at most once. -/
theorem eq_of_prev_eq (h : Succession key prev next rows) {a b : α} {k : κ} (ha : a ∈ rows)
    (hb : b ∈ rows) (hak : prev a = some k) (hbk : prev b = some k) : a = b := by
  obtain ⟨c, hc, rfl⟩ := h.prevStored a ha k hak
  have hca : next c = some (key a) := (h.inverse a ha c hc).mp hak
  have hcb : next c = some (key b) := (h.inverse b hb c hc).mp hbk
  have hkey : key a = key b := by
    rw [hca] at hcb
    exact Option.some.inj hcb
  exact eq_of_mem_of_key h.keys ha hb hkey

/-- Where a row stands in the table. -/
private def place [DecidableEq κ] (key : α → κ) (rows : List α) (a : α) : Nat :=
  (rows.map key).idxOf (key a)

/-- Every row stands at its place. -/
private theorem getElem_place [DecidableEq κ] (h : Succession key prev next rows) {a : α}
    (ha : a ∈ rows) : ∃ hlt : place key rows a < rows.length, rows[place key rows a] = a := by
  have hla : place key rows a < (rows.map key).length :=
    List.idxOf_lt_length_iff.mpr (List.mem_map_of_mem ha)
  have hlt : place key rows a < rows.length := by simpa using hla
  have hget : (rows.map key)[place key rows a] = key a := List.getElem_idxOf hla
  rw [List.getElem_map] at hget
  exact ⟨hlt, eq_of_mem_of_key h.keys (List.getElem_mem _) ha hget⟩

/-- A row stands after the row that it replaces. -/
private theorem place_lt [DecidableEq κ] (h : Succession key prev next rows) {a b : α}
    (hab : Replaces key prev rows a b) : place key rows b < place key rows a := by
  obtain ⟨ha, hb, hprev⟩ := hab
  obtain ⟨hla, hra⟩ := getElem_place h ha
  obtain ⟨hlb, hrb⟩ := getElem_place h hb
  by_contra hle
  rcases Nat.lt_or_eq_of_le (Nat.le_of_not_lt hle) with hlt | heq
  · have hne := List.pairwise_iff_getElem.mp h.ordered _ _ hla hlb hlt
    rw [hra, hrb] at hne
    exact hne hprev
  · have hsame : a = b := by
      rw [← hra, ← hrb]
      congr 1
    subst hsame
    exact h.other a ha hprev

/-- No row replaces itself, through any number of others. -/
theorem acyclic (h : Succession key prev next rows) (a : α) :
    ¬ Relation.TransGen (Replaces key prev rows) a a := by
  classical
  intro hcycle
  have hdescends : ∀ b, Relation.TransGen (Replaces key prev rows) a b →
      place key rows b < place key rows a := by
    intro b hb
    induction hb with
    | single hab => exact h.place_lt hab
    | tail _ hbc ih => exact (h.place_lt hbc).trans ih
  exact Nat.lt_irrefl _ (hdescends a hcycle)

/-! ## How a succession grows -/

theorem nil : Succession key prev next ([] : List α) where
  keys := List.nodup_nil
  inverse := by simp
  prevStored := by simp
  nextStored := by simp
  ordered := List.Pairwise.nil
  other := by simp

variable {new : α}

private theorem fresh_of_prev (h : Succession key prev next rows)
    (fresh : ∀ a ∈ rows, key a ≠ key new) {a : α} (ha : a ∈ rows) :
    prev a ≠ some (key new) := by
  intro hprev
  obtain ⟨b, hb, hkey⟩ := h.prevStored a ha _ hprev
  exact fresh b hb hkey

private theorem fresh_of_next (h : Succession key prev next rows)
    (fresh : ∀ a ∈ rows, key a ≠ key new) {a : α} (ha : a ∈ rows) :
    next a ≠ some (key new) := by
  intro hnext
  obtain ⟨b, hb, hkey⟩ := h.nextStored a ha _ hnext
  exact fresh b hb hkey

private theorem ordered_append (h : Succession key prev next rows)
    (fresh : ∀ a ∈ rows, key a ≠ key new) :
    (rows ++ [new]).Pairwise fun earlier later => prev earlier ≠ some (key later) := by
  rw [List.pairwise_append]
  refine ⟨h.ordered, List.pairwise_singleton _ _, ?_⟩
  intro a ha b hb
  rw [List.mem_singleton.mp hb]
  exact h.fresh_of_prev fresh ha

/-- A row of its own. -/
theorem append (h : Succession key prev next rows) (fresh : ∀ a ∈ rows, key a ≠ key new)
    (hprev : prev new = none) (hnext : next new = none) :
    Succession key prev next (rows ++ [new]) where
  keys := nodup_append_fresh h.keys fresh
  inverse := by
    intro a ha b hb
    rcases List.mem_append.mp ha with hold | hlast <;>
      rcases List.mem_append.mp hb with hold' | hlast'
    · exact h.inverse a hold b hold'
    · rw [List.mem_singleton.mp hlast', hnext]
      exact iff_of_false (h.fresh_of_prev fresh hold) (by simp)
    · rw [List.mem_singleton.mp hlast, hprev]
      exact iff_of_false (by simp) (h.fresh_of_next fresh hold')
    · rw [List.mem_singleton.mp hlast, List.mem_singleton.mp hlast', hprev, hnext]
  prevStored := by
    intro a ha k hk
    rcases List.mem_append.mp ha with ha | ha
    · obtain ⟨b, hb, hkey⟩ := h.prevStored a ha k hk
      exact ⟨b, List.mem_append_left _ hb, hkey⟩
    · obtain rfl := List.mem_singleton.mp ha
      rw [hprev] at hk
      cases hk
  nextStored := by
    intro a ha k hk
    rcases List.mem_append.mp ha with ha | ha
    · obtain ⟨b, hb, hkey⟩ := h.nextStored a ha k hk
      exact ⟨b, List.mem_append_left _ hb, hkey⟩
    · obtain rfl := List.mem_singleton.mp ha
      rw [hnext] at hk
      cases hk
  ordered := h.ordered_append fresh
  other := by
    intro a ha
    rcases List.mem_append.mp ha with ha | ha
    · exact h.other a ha
    · obtain rfl := List.mem_singleton.mp ha
      rw [hprev]
      simp

/-- The table with a row that replaces one that was not replaced before, under links `next'` that
lead from the replaced row to the new one and are those of before elsewhere. -/
private theorem append_replacing (h : Succession key prev next rows)
    (fresh : ∀ a ∈ rows, key a ≠ key new) {old : α} (hold : old ∈ rows)
    (hlast : next old = none) (hprev : prev new = some (key old)) (hnext : next new = none)
    {next' : α → Option κ} (hreplaced : next' old = some (key new))
    (hothers : ∀ a, key a ≠ key old → next' a = next a) :
    Succession key prev next' (rows ++ [new]) := by
  have hnext' : next' new = none := by
    rw [hothers new (fresh old hold).symm, hnext]
  have hkept : ∀ a ∈ rows, a ≠ old → next' a = next a := by
    intro a ha hne
    exact hothers a fun hkey => hne (eq_of_mem_of_key h.keys ha hold hkey)
  refine ⟨nodup_append_fresh h.keys fresh, ?_, ?_, ?_, ?_, ?_⟩
  · intro a ha b hb
    rcases List.mem_append.mp ha with hra | hla <;> rcases List.mem_append.mp hb with hrb | hlb
    · by_cases hbold : b = old
      · -- what replaces `old` now is not one of the rows of before
        subst hbold
        rw [h.inverse a hra b hrb, hlast, hreplaced]
        exact iff_of_false (by simp) fun heq => fresh a hra (Option.some.inj heq).symm
      · rw [hkept b hrb hbold]
        exact h.inverse a hra b hrb
    · rw [List.mem_singleton.mp hlb, hnext']
      exact iff_of_false (h.fresh_of_prev fresh hra) (by simp)
    · rw [List.mem_singleton.mp hla, hprev]
      by_cases hbold : b = old
      · rw [hbold]
        exact iff_of_true rfl hreplaced
      · rw [hkept b hrb hbold]
        refine iff_of_false (fun heq => hbold ?_) (h.fresh_of_next fresh hrb)
        exact (eq_of_mem_of_key h.keys hold hrb (Option.some.inj heq)).symm
    · rw [List.mem_singleton.mp hla, List.mem_singleton.mp hlb, hprev, hnext']
      exact iff_of_false (fun heq => fresh old hold (Option.some.inj heq)) (by simp)
  · intro a ha k hk
    rcases List.mem_append.mp ha with ha | ha
    · obtain ⟨b, hb, hkey⟩ := h.prevStored a ha k hk
      exact ⟨b, List.mem_append_left _ hb, hkey⟩
    · rw [List.mem_singleton.mp ha, hprev] at hk
      exact ⟨old, List.mem_append_left _ hold, Option.some.inj hk⟩
  · intro b hb k hk
    rcases List.mem_append.mp hb with hb | hb
    · by_cases hbold : b = old
      · rw [hbold, hreplaced] at hk
        exact ⟨new, List.mem_append_right _ List.mem_cons_self, Option.some.inj hk⟩
      · rw [hkept b hb hbold] at hk
        obtain ⟨a, ha, hkey⟩ := h.nextStored b hb k hk
        exact ⟨a, List.mem_append_left _ ha, hkey⟩
    · rw [List.mem_singleton.mp hb, hnext'] at hk
      cases hk
  · exact h.ordered_append fresh
  · intro a ha
    rcases List.mem_append.mp ha with ha | ha
    · exact h.other a ha
    · rw [List.mem_singleton.mp ha, hprev]
      exact fun heq => fresh old hold (Option.some.inj heq)

/-- The table after a change of its rows that keeps the keys and what the rows replace: `next'` are
the links that the changed rows have. -/
private theorem map {next' : α → Option κ} {change : α → α} (h : Succession key prev next' rows)
    (changeKey : ∀ a, key (change a) = key a) (changePrev : ∀ a, prev (change a) = prev a)
    (changeNext : ∀ a, next (change a) = next' a) :
    Succession key prev next (rows.map change) where
  keys := by
    have hkeys : (rows.map change).map key = rows.map key := by
      simp [changeKey]
    rw [hkeys]
    exact h.keys
  inverse := by
    intro a' ha' b' hb'
    obtain ⟨a, ha, rfl⟩ := List.mem_map.mp ha'
    obtain ⟨b, hb, rfl⟩ := List.mem_map.mp hb'
    rw [changePrev, changeNext, changeKey, changeKey]
    exact h.inverse a ha b hb
  prevStored := by
    intro a' ha' k hk
    obtain ⟨a, ha, rfl⟩ := List.mem_map.mp ha'
    rw [changePrev] at hk
    obtain ⟨b, hb, rfl⟩ := h.prevStored a ha k hk
    exact ⟨change b, List.mem_map_of_mem hb, changeKey b⟩
  nextStored := by
    intro b' hb' k hk
    obtain ⟨b, hb, rfl⟩ := List.mem_map.mp hb'
    rw [changeNext] at hk
    obtain ⟨a, ha, rfl⟩ := h.nextStored b hb k hk
    exact ⟨change a, List.mem_map_of_mem ha, changeKey a⟩
  ordered := by
    rw [List.pairwise_map]
    refine h.ordered.imp fun {a b} hne => ?_
    rw [changePrev, changeKey]
    exact hne
  other := by
    intro a' ha'
    obtain ⟨a, ha, rfl⟩ := List.mem_map.mp ha'
    rw [changePrev, changeKey]
    exact h.other a ha

/-- A row that replaces a row that was not replaced before: it is appended, and the replaced row is
updated to lead to it. -/
theorem replace [DecidableEq κ] (h : Succession key prev next rows)
    (fresh : ∀ a ∈ rows, key a ≠ key new) {old : α} (hold : old ∈ rows)
    (hlast : next old = none) (hprev : prev new = some (key old)) (hnext : next new = none)
    {change : α → α} (changeKey : ∀ a, key (change a) = key a)
    (changePrev : ∀ a, prev (change a) = prev a)
    (changeNext : ∀ a, next (change a) = some (key new)) :
    Succession key prev next
      (Table.update (fun row => key row = key old) change (rows ++ [new])) := by
  have hlinked : Succession key prev
      (fun row => if key row = key old then some (key new) else next row) (rows ++ [new]) := by
    apply h.append_replacing fresh hold hlast hprev hnext
    · exact if_pos rfl
    · intro a hne
      exact if_neg hne
  apply hlinked.map
  · intro a
    split
    · exact changeKey a
    · rfl
  · intro a
    split
    · exact changePrev a
    · rfl
  · intro a
    by_cases hkey : key a = key old
    · simp [hkey, changeNext]
    · simp [hkey]

end Succession

end Table
