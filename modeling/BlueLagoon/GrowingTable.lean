import BlueLagoon.Table

/-!
# Tables that grow

Rows come in at the end of a table and stay where they are; what is in them may change, within
what a preorder on rows allows.
-/

namespace GrowingTable

variable {α κ : Type} {R : α → α → Prop} {rows rows' rows'' : List α} {row row' : α}

/-- Every row is still at its place, and has become what it may become. -/
def Grows (R : α → α → Prop) (rows rows' : List α) : Prop :=
  ∀ (k : Nat) row, rows[k]? = some row → ∃ row', rows'[k]? = some row' ∧ R row row'

theorem Grows.refl (refl : ∀ row, R row row) (rows : List α) : Grows R rows rows :=
  fun _ row hrow => ⟨row, hrow, refl row⟩

theorem Grows.trans (trans : ∀ a b c, R a b → R b c → R a c) (h : Grows R rows rows')
    (h' : Grows R rows' rows'') : Grows R rows rows'' := by
  intro k row hrow
  obtain ⟨row', hrow', hto⟩ := h k row hrow
  obtain ⟨row'', hrow'', hto'⟩ := h' k row' hrow'
  exact ⟨row'', hrow'', trans _ _ _ hto hto'⟩

/-- Rows may come in at the end. -/
theorem Grows.append (refl : ∀ row, R row row) (rows added : List α) :
    Grows R rows (rows ++ added) := by
  intro k row hrow
  have hk : k < rows.length := (List.getElem?_eq_some_iff.mp hrow).1
  refine ⟨row, ?_, refl row⟩
  rw [List.getElem?_append_left hk]
  exact hrow

/-- Rows may change as the preorder allows. -/
theorem Grows.update {which : α → Bool} {change : α → α} (refl : ∀ row, R row row)
    (h : ∀ row ∈ rows, which row = true → R row (change row)) :
    Grows R rows (Table.update which change rows) := by
  intro k row hrow
  unfold Table.update
  rw [List.getElem?_map, hrow]
  refine ⟨_, rfl, ?_⟩
  dsimp only
  split
  · exact h row (List.mem_of_getElem? hrow) (by assumption)
  · exact refl row

/-- What a row was once, it has become something of. -/
theorem Grows.mem (h : Grows R rows rows') (hrow : row ∈ rows) :
    ∃ row' ∈ rows', R row row' := by
  obtain ⟨k, hk⟩ := List.mem_iff_getElem?.mp hrow
  obtain ⟨row', hrow', hto⟩ := h k row hk
  exact ⟨row', List.mem_of_getElem? hrow', hto⟩

/-- Rows that can only cease to satisfy a predicate do not come to satisfy it more often. -/
theorem Grows.countP_take_le {p : α → Bool} (h : Grows R rows rows')
    (ceases : ∀ row row', R row row' → p row' = true → p row = true) (k : Nat)
    (hk : k ≤ rows.length) : (rows'.take k).countP p ≤ (rows.take k).countP p := by
  induction k with
  | zero => simp
  | succ k ih =>
    have hrow : rows[k]? = some rows[k] := List.getElem?_eq_getElem (by omega)
    obtain ⟨row', hrow', hto⟩ := h k _ hrow
    rw [List.take_add_one, List.take_add_one, hrow, hrow']
    simp only [List.countP_append, Option.toList_some, List.countP_singleton]
    have hearlier := ih (by omega)
    have hceases := ceases _ _ hto
    grind

/-- A key is at one place only. -/
theorem place_unique {key : α → κ} (hkeyed : (rows.map key).Nodup) {k k' : Nat}
    (hrow : rows[k]? = some row) (hrow' : rows[k']? = some row') (hkey : key row = key row') :
    k = k' := by
  have hk : k < (rows.map key).length := by
    rw [List.length_map]
    exact (List.getElem?_eq_some_iff.mp hrow).1
  apply (List.getElem?_inj hk hkeyed).mp
  rw [List.getElem?_map, List.getElem?_map, hrow, hrow', Option.map_some, Option.map_some, hkey]

/-- A row is at the place where it was, whatever has become of it. -/
theorem Grows.place {key : α → κ} (h : Grows R rows rows')
    (keeps : ∀ row row', R row row' → key row' = key row) (hkeyed : (rows'.map key).Nodup)
    {k : Nat} (hrow : row ∈ rows) (hplace : rows'[k]? = some row') (hkey : key row' = key row) :
    rows[k]? = some row := by
  obtain ⟨m, hm⟩ := List.mem_iff_getElem?.mp hrow
  obtain ⟨later, hlater, hto⟩ := h m row hm
  have hsame : m = k := place_unique hkeyed hlater hplace ((keeps _ _ hto).trans hkey.symm)
  rwa [hsame] at hm

end GrowingTable
