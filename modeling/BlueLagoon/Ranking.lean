import Mathlib.Data.List.Sort
import Mathlib.Order.Basic

/-!
# Ranked rows with a limit

What `ORDER BY .. LIMIT` leaves of a list of rows. The rows carry a rank, the listing is in
the order of the rank, and only its first rows are kept. Of the rows of one rank the listing
keeps as many as the rows of lower rank leave room for.
-/

namespace BlueLagoon.Ranking

variable {α K : Type} [LinearOrder K] {rank : α → K} {rows : List α}

/-- How many rows come before the rows of a rank. -/
def ahead (rank : α → K) (k : K) (rows : List α) : Nat :=
  rows.countP fun row => decide (rank row < k)

/-- The rows of a rank. -/
def ofRank (rank : α → K) (k : K) (rows : List α) : List α :=
  rows.filter fun row => decide (rank row = k)

theorem ahead_perm {rows' : List α} (h : rows.Perm rows') (k : K) :
    ahead rank k rows = ahead rank k rows' :=
  h.countP_eq _

theorem ofRank_perm {rows' : List α} (h : rows.Perm rows') (k : K) :
    (ofRank rank k rows).Perm (ofRank rank k rows') :=
  h.filter _

theorem ahead_append (k : K) (added : List α) :
    ahead rank k (rows ++ added) = ahead rank k rows + ahead rank k added :=
  List.countP_append

/-- Behind a row of a rank, no row of a sorted listing is of a lower one. -/
theorem ahead_eq_zero {k : K} (h : ∀ row ∈ rows, k ≤ rank row) : ahead rank k rows = 0 := by
  unfold ahead
  rw [List.countP_eq_zero]
  intro row hrow
  have hle := h row hrow
  simpa using hle

theorem ofRank_eq_nil {k : K} (h : ∀ row ∈ rows, k < rank row) : ofRank rank k rows = [] := by
  unfold ofRank
  rw [List.filter_eq_nil_iff]
  intro row hrow
  have hlt := h row hrow
  simpa using hlt.ne'

/-- The rows of a rank that a limit leaves of a sorted listing. -/
theorem ofRank_take (h : rows.Pairwise fun a b => rank a ≤ rank b) (k : K) (limit : Nat) :
    ofRank rank k (rows.take limit) = (ofRank rank k rows).take (limit - ahead rank k rows) := by
  induction rows generalizing limit with
  | nil => simp [ofRank]
  | cons row rows ih =>
    rw [List.pairwise_cons] at h
    obtain ⟨hhead, htail⟩ := h
    cases limit with
    | zero => simp [ofRank]
    | succ limit =>
      rw [List.take_succ_cons]
      rcases lt_trichotomy (rank row) k with hlt | heq | hgt
      · -- the row takes one of the places before the rank
        have hahead : ahead rank k (row :: rows) = ahead rank k rows + 1 := by
          simp [ahead, hlt]
        have hsame : ∀ rest, ofRank rank k (row :: rest) = ofRank rank k rest := by
          intro rest
          simp [ofRank, hlt.ne]
        rw [hsame, hsame, ih htail, hahead, Nat.add_sub_add_right]
      · have hzero : ahead rank k rows = 0 := by
          apply ahead_eq_zero
          intro other hother
          rw [← heq]
          exact hhead other hother
        have hahead : ahead rank k (row :: rows) = 0 := by
          unfold ahead at hzero ⊢
          simp [heq, hzero]
        have hcons : ∀ rest, ofRank rank k (row :: rest) = row :: ofRank rank k rest := by
          intro rest
          simp [ofRank, heq]
        rw [hcons, hcons, ih htail, hzero, hahead, Nat.sub_zero, Nat.sub_zero, List.take_succ_cons]
      · -- nothing of the rank follows, within the limit or behind it
        have hnone : ofRank rank k (row :: rows) = [] := by
          apply ofRank_eq_nil
          intro other hother
          rcases List.mem_cons.mp hother with rfl | hrest
          · exact hgt
          · exact lt_of_lt_of_le hgt (hhead other hrest)
        have hnone' : ofRank rank k (row :: rows.take limit) = [] := by
          apply ofRank_eq_nil
          intro other hother
          rcases List.mem_cons.mp hother with rfl | hrest
          · exact hgt
          · exact lt_of_lt_of_le hgt (hhead other (List.mem_of_mem_take hrest))
        rw [hnone, hnone', List.take_nil]

/-- A limit keeps every row of a rank exactly when the rows of lower rank leave room for all
of them. -/
theorem length_ofRank_take (h : rows.Pairwise fun a b => rank a ≤ rank b) (k : K) (limit : Nat) :
    (ofRank rank k rows).length ≤ (ofRank rank k (rows.take limit)).length ↔
      ofRank rank k rows = [] ∨ ahead rank k rows + (ofRank rank k rows).length ≤ limit := by
  rw [ofRank_take h, List.length_take]
  constructor
  · intro hle
    by_cases hempty : ofRank rank k rows = []
    · exact Or.inl hempty
    · right
      have hpos := List.length_pos_iff.mpr hempty
      omega
  · rintro (hempty | hfits)
    · simp [hempty]
    · omega

/-! ## One row more -/

section Insertion

variable {order : α → α → Prop} [DecidableRel order]

theorem orderedInsert_eq_cons {a : α} (h : ∀ other ∈ rows, order a other) :
    rows.orderedInsert order a = a :: rows := by
  cases rows with
  | nil => rfl
  | cons first rows => rw [List.orderedInsert_cons, if_pos (h first List.mem_cons_self)]

/-- A row is inserted in a listing where it is inserted in the listing without another row. -/
theorem orderedInsert_append [IsTrans α order] (a : α) {before after : List α} {new : α}
    (h : (before ++ new :: after).Pairwise order) :
    ∃ before' after', (before ++ after).orderedInsert order a = before' ++ after' ∧
      (before ++ new :: after).orderedInsert order a = before' ++ new :: after' := by
  induction before with
  | nil =>
    rw [List.nil_append, List.pairwise_cons] at h
    by_cases hnew : order a new
    · refine ⟨[a], after, ?_, ?_⟩
      · apply orderedInsert_eq_cons
        intro other hother
        exact IsTrans.trans _ _ _ hnew (h.1 other hother)
      · rw [List.nil_append, List.orderedInsert_cons, if_pos hnew]
        rfl
    · exact ⟨[], after.orderedInsert order a, rfl, List.orderedInsert_of_not_le _ _ hnew⟩
  | cons first before ih =>
    rw [List.cons_append] at h
    by_cases hfirst : order a first
    · refine ⟨a :: first :: before, after, ?_, ?_⟩
      · rw [List.cons_append, List.orderedInsert_cons, if_pos hfirst]
        rfl
      · rw [List.cons_append, List.orderedInsert_cons, if_pos hfirst]
        rfl
    · obtain ⟨before', after', hwithout, hwith⟩ := ih (List.pairwise_cons.mp h).2
      refine ⟨first :: before', after', ?_, ?_⟩
      · rw [List.cons_append, List.orderedInsert_of_not_le _ _ hfirst, hwithout]
        rfl
      · rw [List.cons_append, List.orderedInsert_of_not_le _ _ hfirst, hwith]
        rfl

/-- The listing with one row more is the listing without it, with the row put in somewhere. -/
theorem insertionSort_append_singleton [Std.Total order] [IsTrans α order] (new : α) :
    ∃ before after, rows.insertionSort order = before ++ after ∧
      (rows ++ [new]).insertionSort order = before ++ new :: after := by
  induction rows with
  | nil => exact ⟨[], [], rfl, rfl⟩
  | cons row rows ih =>
    obtain ⟨before, after, hwithout, hwith⟩ := ih
    have hsorted : (before ++ new :: after).Pairwise order := by
      rw [← hwith]
      exact List.pairwise_insertionSort _ _
    rw [List.cons_append, List.insertionSort_cons, List.insertionSort_cons, hwithout, hwith]
    exact orderedInsert_append row hsorted

/-- The first rows of the listing with one row more were among the first ones without it. -/
theorem mem_take_insertionSort [Std.Total order] [IsTrans α order] {new row : α} {limit : Nat}
    (h : row ∈ ((rows ++ [new]).insertionSort order).take limit) :
    row = new ∨ row ∈ (rows.insertionSort order).take limit := by
  obtain ⟨before, after, hwithout, hwith⟩ := @insertionSort_append_singleton _ rows order _ _ _ new
  rw [hwith] at h
  rw [hwithout]
  rw [List.take_append, List.mem_append] at h ⊢
  rcases h with hbefore | hafter
  · exact Or.inr (Or.inl hbefore)
  · cases hroom : limit - before.length with
    | zero =>
      rw [hroom] at hafter
      cases hafter
    | succ room =>
      rw [hroom, List.take_succ_cons] at hafter
      rcases List.mem_cons.mp hafter with rfl | hlater
      · exact Or.inl rfl
      · right; right
        exact (List.take_sublist_take_left (Nat.le_succ room)).subset hlater

end Insertion

/-! ## The rows of highest key -/

/-- `ORDER BY key DESC, id DESC`. -/
def Descending {I : Type} [LinearOrder I] (key : α → K) (id : α → I) (a b : α) : Prop :=
  key b < key a ∨ key a = key b ∧ id b ≤ id a

section Descending

variable {I : Type} [LinearOrder I] {key : α → K} {id : α → I}

instance : DecidableRel (Descending key id) := fun a b =>
  inferInstanceAs (Decidable (key b < key a ∨ key a = key b ∧ id b ≤ id a))

theorem Descending.le {a b : α} (h : Descending key id a b) : key b ≤ key a := by
  rcases h with hlt | ⟨heq, -⟩
  · exact hlt.le
  · exact heq.ge

instance : Std.Total (Descending key id) where
  total a b := by
    rcases lt_trichotomy (key a) (key b) with hlt | heq | hgt
    · exact Or.inr (Or.inl hlt)
    · rcases le_total (id a) (id b) with hle | hle
      · exact Or.inr (Or.inr ⟨heq.symm, hle⟩)
      · exact Or.inl (Or.inr ⟨heq, hle⟩)
    · exact Or.inl (Or.inl hgt)

instance : IsTrans α (Descending key id) where
  trans a b c hab hbc := by
    rcases hab with hab | ⟨hab, hid⟩
    · exact Or.inl (hbc.le.trans_lt hab)
    · rcases hbc with hbc | ⟨hbc, hid'⟩
      · exact Or.inl (hab ▸ hbc)
      · exact Or.inr ⟨hab.trans hbc, hid'.trans hid⟩

end Descending

/-- Of some rows, the ones of highest key, as many as a limit allows. -/
structure Highest (key : α → K) (limit : Nat) (rows chosen : List α) : Prop where
  length : chosen.length = min limit rows.length
  subperm : chosen.Subperm rows
  above : ∀ row ∈ rows, row ∉ chosen → ∀ kept ∈ chosen, key row ≤ key kept

theorem Highest.of_perm {key : α → K} {limit : Nat} {rows' chosen : List α}
    (hperm : rows.Perm rows') (h : Highest key limit rows chosen) :
    Highest key limit rows' chosen where
  length := by rw [h.length, hperm.length_eq]
  subperm := h.subperm.trans hperm.subperm
  above := fun row hrow => h.above row (hperm.mem_iff.mpr hrow)

/-- The first rows have the highest keys when no later row has a higher one. -/
theorem highest_take {key : α → K} {limit : Nat}
    (h : ∀ kept ∈ rows.take limit, ∀ row ∈ rows.drop limit, key row ≤ key kept) :
    Highest key limit rows (rows.take limit) where
  length := List.length_take
  subperm := (List.take_sublist limit rows).subperm
  above := by
    intro row hrow hout kept hkept
    rw [← List.take_append_drop limit rows, List.mem_append] at hrow
    rcases hrow with hin | hlater
    · exact absurd hin hout
    · exact h kept hkept row hlater

theorem highest_take_iff {key : α → K} {limit : Nat} (hnodup : rows.Nodup) :
    Highest key limit rows (rows.take limit) ↔
      ∀ kept ∈ rows.take limit, ∀ row ∈ rows.drop limit, key row ≤ key kept := by
  constructor
  · intro h kept hkept row hrow
    have hout : row ∉ rows.take limit := by
      intro hin
      rw [← List.take_append_drop limit rows, List.nodup_append] at hnodup
      exact hnodup.2.2 row hin row hrow rfl
    exact h.above row (List.mem_of_mem_drop hrow) hout kept hkept
  · exact highest_take

/-! ## A cut before a filter -/

section Cut

variable {wanted : α → Bool} {scanned limit : Nat}

/-- The rows that are scanned hold as many wanted rows as the limit asks for, or every wanted
row is among them. -/
def Uncrowded (wanted : α → Bool) (scanned limit : Nat) (rows : List α) : Prop :=
  limit ≤ (rows.take scanned).countP wanted ∨ ∀ row ∈ rows.drop scanned, wanted row = false

instance : Decidable (Uncrowded wanted scanned limit rows) :=
  inferInstanceAs (Decidable (_ ∨ _))

/-- The wanted rows are the scanned ones and then the others. -/
theorem filter_eq_append : rows.filter wanted =
    (rows.take scanned).filter wanted ++ (rows.drop scanned).filter wanted := by
  rw [← List.filter_append, List.take_append_drop]

/-- Filtering the scanned rows gives as many rows as filtering all of them exactly when the
wanted rows are not crowded out. -/
theorem length_filter_take :
    (((rows.take scanned).filter wanted).take limit).length =
      min limit (rows.filter wanted).length ↔ Uncrowded wanted scanned limit rows := by
  have hlater : (∀ row ∈ rows.drop scanned, wanted row = false) ↔
      ((rows.drop scanned).filter wanted).length = 0 := by
    rw [List.length_eq_zero_iff, List.filter_eq_nil_iff]
    simp only [Bool.not_eq_true]
  rw [Uncrowded, hlater, @filter_eq_append _ rows wanted scanned, List.length_append,
    List.length_take, List.countP_eq_length_filter]
  omega

theorem filter_take_eq (h : Uncrowded wanted scanned limit rows) :
    ((rows.take scanned).filter wanted).take limit = (rows.filter wanted).take limit := by
  rw [@filter_eq_append _ rows wanted scanned, List.take_append]
  rcases h with henough | hnone
  · rw [List.countP_eq_length_filter] at henough
    rw [Nat.sub_eq_zero_of_le henough, List.take_zero, List.append_nil]
  · have hnil : (rows.drop scanned).filter wanted = [] := by
      rw [List.filter_eq_nil_iff]
      simpa using hnone
    rw [hnil, List.take_nil, List.append_nil]

end Cut

end BlueLagoon.Ranking
