import BlueLagoon.Text
import Mathlib.Algebra.Order.BigOperators.Group.List

/-!
# Ordered sets of texts

A `BTreeSet<String>` is the list of its members in order, each once. Two sets with the same
members are the same list. Where every member of a set is rewritten and the rewriting shrinks
what it changes, the rewritten set cannot make up for a member it lost.
-/

namespace Text

/-- The members of a set in order, each once. -/
def IsSet (set : List String) : Prop := set.Pairwise fun s t => s.toList < t.toList

/-- `collect::<BTreeSet<_>>()`. -/
def collect (values : List String) : List String :=
  values.foldl (fun set value => insertIntoSet value set) []

theorem IsSet.nodup {set : List String} (h : IsSet set) : set.Nodup :=
  List.Pairwise.imp (fun {s t} hlt (heq : s = t) => lt_irrefl t.toList (heq ▸ hlt)) h

theorem isSet_insertIntoSet {set : List String} (h : IsSet set) (s : String) :
    IsSet (insertIntoSet s set) := by
  induction set with
  | nil => exact List.pairwise_singleton _ _
  | cons t set ih =>
    have hcons := List.pairwise_cons.mp h
    unfold insertIntoSet
    split
    · exact h
    · next hne =>
      split
      · next hlt =>
        refine List.pairwise_cons.mpr ⟨?_, h⟩
        intro u hu
        rcases List.mem_cons.mp hu with rfl | hlater
        · exact hlt
        · exact lt_trans hlt (hcons.1 u hlater)
      · next hnlt =>
        refine List.pairwise_cons.mpr ⟨?_, ih hcons.2⟩
        intro u hu
        rcases mem_insertIntoSet.mp hu with rfl | hlater
        · have hchars : t.toList ≠ u.toList := fun heq => hne (String.toList_injective heq.symm)
          exact lt_of_le_of_ne (not_lt.mp hnlt) hchars
        · exact hcons.1 u hlater

theorem foldl_insertIntoSet (values : List String) {set : List String} (h : IsSet set) :
    IsSet (values.foldl (fun set value => insertIntoSet value set) set) ∧
      ∀ t, t ∈ values.foldl (fun set value => insertIntoSet value set) set ↔
        t ∈ values ∨ t ∈ set := by
  induction values generalizing set with
  | nil => exact ⟨h, fun t => by simp⟩
  | cons value values ih =>
    obtain ⟨hset, hmem⟩ := ih (isSet_insertIntoSet h value)
    refine ⟨hset, fun t => ?_⟩
    rw [List.foldl_cons, hmem, mem_insertIntoSet, List.mem_cons, or_left_comm, or_assoc]

theorem isSet_collect (values : List String) : IsSet (collect values) :=
  (foldl_insertIntoSet values List.Pairwise.nil).1

theorem mem_collect {values : List String} {t : String} : t ∈ collect values ↔ t ∈ values := by
  have hmem := (foldl_insertIntoSet values List.Pairwise.nil).2 t
  rw [collect, hmem]
  simp

/-- Sets with the same members are equal. -/
theorem IsSet.ext {set set' : List String} (h : IsSet set) (h' : IsSet set')
    (hmem : ∀ t, t ∈ set ↔ t ∈ set') : set = set' := by
  apply List.Perm.eq_of_pairwise _ h h'
  · exact (List.perm_ext_iff_of_nodup h.nodup h'.nodup).mpr hmem
  · intro s t _ _ hlt hgt
    exact absurd hgt (lt_asymm hlt)

theorem IsSet.collect_eq {set : List String} (h : IsSet set) : collect set = set :=
  (isSet_collect set).ext h fun _ => mem_collect

/-! ## Rewritten members -/

/-- When a rewriting shrinks what it changes, and every member is what becomes of a member or is
left alone by it, it changes none: what becomes of the largest changed one would be missed. -/
theorem stable_of_covered {α : Type} {set : List α} {rewrite : α → α} {size : α → Nat}
    (hshrink : ∀ a ∈ set, rewrite a ≠ a → size (rewrite a) < size a)
    (hcover : ∀ a ∈ set, rewrite a = a ∨ ∃ b ∈ set, rewrite b = a) :
    ∀ a ∈ set, rewrite a = a := by
  obtain ⟨bound, hbound⟩ : ∃ bound, ∀ a ∈ set, size a ≤ bound :=
    ⟨(set.map size).sum, fun a ha => List.le_sum_of_mem (List.mem_map_of_mem ha)⟩
  -- from a changed member to a larger one, as long as there is room below the bound
  have hlarger : ∀ room, ∀ a ∈ set, bound < size a + room → rewrite a = a := by
    intro room
    induction room with
    | zero =>
      intro a ha hroom
      have hle := hbound a ha
      omega
    | succ room ih =>
      intro a ha hroom
      rcases hcover a ha with hstable | ⟨b, hb, hba⟩
      · exact hstable
      · by_cases hchanged : rewrite b = b
        · rw [← hba, hchanged, hchanged]
        · have hlt := hshrink b hb hchanged
          rw [hba] at hlt
          exact absurd (ih b hb (by omega)) hchanged
  exact fun a ha => hlarger (bound + 1) a ha (by omega)

end Text
