import Mathlib.Data.List.Nodup
import Mathlib.Data.List.Sort

/-!
# Tables as lists

A table is the list of its rows, oldest first. Rows are found by a key, changed by
`UPDATE .. SET .. WHERE ..`, and ordered by `ORDER BY .. LIMIT ..`.
-/

namespace Table

variable {α κ : Type}

/-- The first row with the given key. -/
def find [DecidableEq κ] (key : α → κ) (k : κ) (rows : List α) : Option α :=
  rows.find? fun row => key row = k

/-- `UPDATE .. SET change WHERE which`. -/
def update (which : α → Bool) (change : α → α) (rows : List α) : List α :=
  rows.map fun row => if which row then change row else row

/-- The row that `ORDER BY .. LIMIT 1` returns, where `before` is the order: the first
row that no later row comes before. -/
def first (before : α → α → Bool) : List α → Option α
  | [] => none
  | row :: rows =>
    match first before rows with
    | none => some row
    | some best => if before best row then some best else some row

/-! ## Finding rows -/

section Find

variable [DecidableEq κ] {key : α → κ} {k : κ} {rows : List α} {row : α}

theorem mem_of_find (h : find key k rows = some row) : row ∈ rows :=
  List.mem_of_find?_eq_some h

theorem key_of_find (h : find key k rows = some row) : key row = k := by
  simpa using List.find?_some h

theorem find_isSome_of_mem (h : row ∈ rows) : (find key (key row) rows).isSome := by
  rw [find, List.find?_isSome]
  exact ⟨row, h, by simp⟩

omit [DecidableEq κ] in
/-- Keys that are unique determine their rows. -/
theorem eq_of_mem_of_key (hnodup : (rows.map key).Nodup) {row' : α} (h : row ∈ rows)
    (h' : row' ∈ rows) (hkey : key row = key row') : row = row' :=
  List.inj_on_of_nodup_map hnodup h h' hkey

omit [DecidableEq κ] in
/-- A row that is appended under a key of its own keeps the keys unique. -/
theorem nodup_append_fresh (hnodup : (rows.map key).Nodup)
    (hfresh : ∀ other ∈ rows, key other ≠ key row) : ((rows ++ [row]).map key).Nodup := by
  rw [List.map_append, List.map_singleton]
  refine List.nodup_append.mpr ⟨hnodup, List.nodup_singleton _, ?_⟩
  intro k hk k' hk' heq
  obtain ⟨other, hother, rfl⟩ := List.mem_map.mp hk
  rw [List.mem_singleton.mp hk'] at heq
  exact hfresh other hother heq

theorem find_eq_some_of_mem (hnodup : (rows.map key).Nodup) (h : row ∈ rows) :
    find key (key row) rows = some row := by
  have hsome : (find key (key row) rows).isSome := find_isSome_of_mem h
  obtain ⟨found, hfound⟩ := Option.isSome_iff_exists.mp hsome
  rw [hfound, eq_of_mem_of_key hnodup (mem_of_find hfound) h (key_of_find hfound)]

/-- Rows that are added at the end do not hide a row. -/
theorem find_append_of_some (h : find key k rows = some row) (added : List α) :
    find key k (rows ++ added) = some row := by
  rw [find] at h ⊢
  rw [List.find?_append, h]
  rfl

/-- A row whose key is new is found where it was appended. -/
theorem find_append_self (hfresh : ∀ other ∈ rows, key other ≠ key row) :
    find key (key row) (rows ++ [row]) = some row := by
  have hnone : rows.find? (fun other => key other = key row) = none := by
    simpa using hfresh
  simp [find, List.find?_append, hnone]

/-- Appending a row does not hide another one. -/
theorem find_append_of_ne (hne : key row ≠ k) : find key k (rows ++ [row]) = find key k rows := by
  simp [find, List.find?_append, hne]

end Find

/-! ## The first row of an order -/

/-- A row that comes before all others is first, wherever it stands. -/
theorem first_append_self {before : α → α → Bool} {rows : List α} {row : α}
    (h : ∀ other ∈ rows, before row other = true) : first before (rows ++ [row]) = some row := by
  induction rows with
  | nil => rfl
  | cons other rows ih =>
    have htail := ih fun r hr => h r (List.mem_cons_of_mem _ hr)
    simp [first, htail, h other List.mem_cons_self]

theorem mem_of_first {before : α → α → Bool} {rows : List α} {row : α}
    (h : first before rows = some row) : row ∈ rows := by
  induction rows generalizing row with
  | nil => cases h
  | cons other rows ih =>
    rw [first] at h
    split at h
    · obtain rfl := Option.some.inj h
      exact List.mem_cons_self
    · rename_i best hbest
      split at h
      · obtain rfl := Option.some.inj h
        exact List.mem_cons_of_mem _ (ih hbest)
      · obtain rfl := Option.some.inj h
        exact List.mem_cons_self

/-- A table with rows has a first one. -/
theorem first_isSome {before : α → α → Bool} {rows : List α} (h : rows ≠ []) :
    (first before rows).isSome := by
  cases rows with
  | nil => exact absurd rfl h
  | cons row rows =>
    rw [first]
    split
    · rfl
    · split <;> rfl

/-- No row comes before the first one, where the order compares a key. -/
theorem first_le {K : Type} [LinearOrder K] {before : α → α → Bool} {key : α → K}
    (hkey : ∀ a b, before a b = true ↔ key a < key b) {rows : List α} {best other : α}
    (h : first before rows = some best) (hother : other ∈ rows) : key best ≤ key other := by
  induction rows generalizing best with
  | nil => cases hother
  | cons row rows ih =>
    rw [first] at h
    split at h
    · rename_i hnone
      obtain rfl := Option.some.inj h
      have hrows : rows = [] := by
        by_contra hne
        have hsome : (first before rows).isSome := first_isSome hne
        rw [hnone] at hsome
        cases hsome
      subst hrows
      rw [List.mem_singleton.mp hother]
    · rename_i found hfound
      split at h
      · rename_i hbefore
        obtain rfl := Option.some.inj h
        rcases List.mem_cons.mp hother with rfl | hrest
        · exact le_of_lt ((hkey _ _).mp hbefore)
        · exact ih hfound hrest
      · rename_i hbefore
        obtain rfl := Option.some.inj h
        rcases List.mem_cons.mp hother with rfl | hrest
        · exact le_refl _
        · exact (not_lt.mp fun hlt => hbefore ((hkey _ _).mpr hlt)).trans (ih hfound hrest)

/-! ## Changing rows -/

section Update

variable {which : α → Bool} {change : α → α} {rows : List α} {row : α} {key : α → κ}

theorem mem_update : row ∈ update which change rows ↔
    (row ∈ rows ∧ which row = false) ∨ ∃ old ∈ rows, which old = true ∧ row = change old := by
  rw [update, List.mem_map]
  constructor
  · rintro ⟨old, hold, rfl⟩
    cases hw : which old
    · exact Or.inl (by simp [hw, hold])
    · exact Or.inr ⟨old, hold, hw, by simp⟩
  · rintro (⟨hmem, hw⟩ | ⟨old, hold, hw, rfl⟩)
    · exact ⟨row, hmem, by simp [hw]⟩
    · exact ⟨old, hold, by simp [hw]⟩

/-- An update that keeps the key of every row keeps the keys. -/
theorem map_key_update (h : ∀ r, key (change r) = key r) :
    (update which change rows).map key = rows.map key := by
  rw [update, List.map_map]
  refine List.map_congr_left fun r _ => ?_
  simp only [Function.comp_apply]
  split
  · exact h r
  · rfl

theorem find_update [DecidableEq κ] (h : ∀ r, key (change r) = key r) (k : κ) :
    find key k (update which change rows) =
      (find key k rows).map fun r => if which r then change r else r := by
  induction rows with
  | nil => rfl
  | cons r rows ih =>
    have hkey : key (if which r then change r else r) = key r := by split <;> simp [h]
    by_cases hk : key r = k
    · simp [find, update, hkey, hk]
    · have hk' : ¬ key (if which r then change r else r) = k := by rwa [hkey]
      simpa [find, update, hk, hk'] using ih

/-- What an update writes into the rows with one key. -/
theorem map_find_update [DecidableEq κ] {β : Type} {f : α → β} {b : β}
    (h : ∀ r, key (change r) = key r) (hf : ∀ r, f (change r) = b) (k k' : κ) :
    (find key k (update (fun row => key row = k') change rows)).map f =
      if k = k' then (find key k rows).map (fun _ => b) else (find key k rows).map f := by
  rw [find_update h]
  cases hfind : find key k rows with
  | none => simp
  | some row =>
    have hkey : key row = k := key_of_find hfind
    by_cases hk : k = k'
    · rw [Option.map_some, Option.map_some, hkey, if_pos (decide_eq_true hk), if_pos hk,
        Option.map_some, hf]
    · rw [Option.map_some, Option.map_some, hkey, if_neg (by simpa using hk), if_neg hk,
        Option.map_some]

/-- When one row alone is selected, and the change takes a property away from it, one row
less has the property. -/
theorem length_filter_update {p : α → Bool} {k : κ} (hnodup : (rows.map key).Nodup)
    (hwhich : ∀ r, which r = true → key r = k ∧ p r = true)
    (hchange : ∀ r, which r = true → p (change r) = false) (hmem : row ∈ rows)
    (hrow : which row = true) :
    ((update which change rows).filter p).length + 1 = (rows.filter p).length := by
  induction rows with
  | nil => simp at hmem
  | cons r rows ih =>
    obtain ⟨hnot, hnodup⟩ := List.nodup_cons.mp (by simpa using hnodup :
      (key r :: rows.map key).Nodup)
    by_cases hr : which r = true
    · have hrest : update which change rows = rows := by
        rw [update]
        conv_rhs => rw [← List.map_id rows]
        refine List.map_congr_left fun other hother => ?_
        have hfalse : which other ≠ true := fun hw =>
          hnot (by rw [(hwhich r hr).1, ← (hwhich other hw).1]; exact List.mem_map_of_mem hother)
        simp [hfalse]
      simp only [update, List.map_cons] at hrest ⊢
      simp [hrest, hr, hchange r hr, (hwhich r hr).2]
    · have htail : row ∈ rows := by
        rcases List.mem_cons.mp hmem with rfl | h
        · exact absurd hrow hr
        · exact h
      have := ih hnodup htail
      by_cases hp : p r = true
      · simp only [update, List.map_cons] at this ⊢
        simp [hr, hp, this]
      · simp only [update, List.map_cons] at this ⊢
        simpa [hr, hp] using this

/-- An update that does not touch a property keeps the number of rows that have it. -/
theorem countP_update {p : α → Bool} (h : ∀ r, p (change r) = p r) :
    (update which change rows).countP p = rows.countP p := by
  rw [update, List.countP_map]
  refine List.countP_congr fun r _ => ?_
  simp only [Function.comp_apply]
  split
  · rw [h r]
  · rfl

/-- The keys of the rows that have a property stay when an update touches neither. -/
theorem map_filter_update {p : α → Bool} {f : α → κ} (hp : ∀ r ∈ rows, which r → p (change r) = p r)
    (hf : ∀ r, f (change r) = f r) :
    ((update which change rows).filter p).map f = (rows.filter p).map f := by
  induction rows with
  | nil => rfl
  | cons r rows ih =>
    have htail := ih fun r hr => hp r (List.mem_cons_of_mem _ hr)
    have hkey : f (if which r then change r else r) = f r := by split <;> simp [hf]
    have hsame : p (if which r then change r else r) = p r := by
      by_cases hr : which r = true
      · rw [if_pos hr]
        exact hp r List.mem_cons_self hr
      · rw [if_neg hr]
    simp only [update, List.map_cons] at htail ⊢
    by_cases hpr : p r = true
    · simp [hsame, hpr, hkey, htail]
    · simp [hsame, hpr, htail]

/-- An update of rows without a property, which do not get it, leaves those that have it. -/
theorem filter_update_of_false {p : α → Bool} (h : ∀ r ∈ rows, which r = true → p r = false)
    (hchange : ∀ r, p (change r) = p r) :
    (update which change rows).filter p = rows.filter p := by
  induction rows with
  | nil => rfl
  | cons r rows ih =>
    have htail := ih fun other hother => h other (List.mem_cons_of_mem _ hother)
    simp only [update, List.map_cons] at htail ⊢
    by_cases hr : which r = true
    · have hp : p r = false := h r List.mem_cons_self hr
      simp [hr, hchange, hp, htail]
    · simp only [hr, if_false, List.filter_cons, htail, Bool.false_eq_true]

theorem update_eq_self (h : ∀ r ∈ rows, which r = false) : update which change rows = rows := by
  rw [update]
  conv_rhs => rw [← List.map_id rows]
  exact List.map_congr_left fun r hr => by simp [h r hr]

end Update

end Table
