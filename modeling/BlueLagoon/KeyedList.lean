import BlueLagoon.Table

/-!
# Lists with one item for each key

Items arrive one after another. The first item of a key is appended; a later one is
dropped, unless it overrides, in which case it takes the place of the item that is
there. What is kept of a key depends on the items of that key alone: the last one that
overrides, or the first where none does.
-/

namespace KeyedList

variable {α κ : Type} [DecidableEq κ] {key : α → κ} {overrides : α → Bool}

/-- The first item with the key of `item` becomes `item`. -/
def replace (key : α → κ) (item : α) : List α → List α
  | [] => []
  | first :: rest =>
    if key first = key item then item :: rest else first :: replace key item rest

/-- One more item. -/
def insert (key : α → κ) (overrides : α → Bool) (items : List α) (item : α) : List α :=
  if key item ∈ items.map key then
    if overrides item then replace key item items else items
  else items ++ [item]

/-- What is kept of a key once one more of its items has come. -/
def keep (overrides : α → Bool) : Option α → α → Option α
  | none, item => some item
  | some kept, item => if overrides item then some item else some kept

/-- What is kept of the items of one key. -/
def chosen (overrides : α → Bool) (items : List α) : Option α :=
  items.foldl (keep overrides) none

/-! ## One item -/

theorem map_replace (item : α) (items : List α) :
    (replace key item items).map key = items.map key := by
  induction items with
  | nil => rfl
  | cons first rest ih =>
    rw [replace]
    split
    · rename_i hfirst
      rw [List.map_cons, List.map_cons, hfirst]
    · rw [List.map_cons, List.map_cons, ih]

theorem find_replace_self {item : α} {items : List α} (h : key item ∈ items.map key) :
    Table.find key (key item) (replace key item items) = some item := by
  induction items with
  | nil => cases h
  | cons first rest ih =>
    rw [replace]
    by_cases hfirst : key first = key item
    · rw [if_pos hfirst, Table.find, List.find?_cons_of_pos (by simp)]
    · rw [if_neg hfirst, Table.find, List.find?_cons_of_neg (by simpa using hfirst)]
      rw [List.map_cons, List.mem_cons] at h
      exact ih (h.resolve_left fun heq => hfirst heq.symm)

/-- The items of other keys are still found. -/
theorem find_replace_of_ne {item : α} {k : κ} (hne : key item ≠ k) (items : List α) :
    Table.find key k (replace key item items) = Table.find key k items := by
  induction items with
  | nil => rfl
  | cons first rest ih =>
    rw [replace]
    split
    · rename_i hfirst
      have hfirstNe : key first ≠ k := by rw [hfirst]; exact hne
      rw [Table.find, Table.find, List.find?_cons_of_neg (by simpa using hne),
        List.find?_cons_of_neg (by simpa using hfirstNe)]
    · rw [Table.find, Table.find, List.find?_cons, List.find?_cons]
      split
      · rfl
      · exact ih

theorem find_eq_none {k : κ} {items : List α} (h : k ∉ items.map key) :
    Table.find key k items = none := by
  rw [Table.find, List.find?_eq_none]
  intro item hitem hkey
  exact h (List.mem_map.mpr ⟨item, hitem, of_decide_eq_true hkey⟩)

theorem find_isSome {k : κ} {items : List α} (h : k ∈ items.map key) :
    ∃ item, Table.find key k items = some item := by
  obtain ⟨item, hitem, hkey⟩ := List.mem_map.mp h
  have hsome : (Table.find key (key item) items).isSome := Table.find_isSome_of_mem hitem
  rw [hkey] at hsome
  exact Option.isSome_iff_exists.mp hsome

theorem nodup_insert {items : List α} (h : (items.map key).Nodup) (item : α) :
    ((insert key overrides items item).map key).Nodup := by
  rw [insert]
  split
  · split
    · rw [map_replace]; exact h
    · exact h
  · rename_i hfresh
    rw [List.map_append, List.map_singleton]
    exact List.nodup_append_comm.mp (List.nodup_cons.mpr ⟨hfresh, h⟩)

/-- The item with a given key after one more: what is kept of that key. -/
theorem find_insert (items : List α) (item : α) (k : κ) :
    Table.find key k (insert key overrides items item) =
      if key item = k then keep overrides (Table.find key k items) item
      else Table.find key k items := by
  by_cases hk : key item = k
  · subst hk
    rw [if_pos rfl, insert]
    by_cases hmem : key item ∈ items.map key
    · obtain ⟨kept, hkept⟩ := find_isSome hmem
      rw [if_pos hmem, hkept]
      by_cases hover : overrides item = true
      · rw [if_pos hover, find_replace_self hmem, keep, if_pos hover]
      · rw [if_neg hover, hkept, keep, if_neg hover]
    · rw [if_neg hmem, find_eq_none hmem, keep]
      apply Table.find_append_self
      intro other hother heq
      exact hmem (List.mem_map.mpr ⟨other, hother, heq⟩)
  · rw [if_neg hk, insert]
    split
    · split
      · exact find_replace_of_ne hk items
      · rfl
    · exact Table.find_append_of_ne hk

/-! ## Many items -/

theorem nodup_foldl {items : List α} (h : (items.map key).Nodup) (added : List α) :
    ((added.foldl (insert key overrides) items).map key).Nodup := by
  induction added generalizing items with
  | nil => exact h
  | cons item rest ih => exact ih (nodup_insert h item)

/-- What is found of a key depends on the added items of that key alone. -/
theorem find_foldl (items added : List α) (k : κ) :
    Table.find key k (added.foldl (insert key overrides) items) =
      (added.filter fun item => key item = k).foldl (keep overrides) (Table.find key k items) := by
  induction added generalizing items with
  | nil => rfl
  | cons item rest ih =>
    rw [List.foldl_cons, ih, find_insert]
    by_cases hk : key item = k
    · rw [if_pos hk, List.filter_cons_of_pos (by simpa using hk), List.foldl_cons]
    · rw [if_neg hk, List.filter_cons_of_neg (by simpa using hk)]

theorem find_build (added : List α) (k : κ) :
    Table.find key k (added.foldl (insert key overrides) []) =
      chosen overrides (added.filter fun item => key item = k) :=
  find_foldl [] added k

theorem nodup_build (added : List α) :
    ((added.foldl (insert key overrides) []).map key).Nodup := by
  apply nodup_foldl
  exact List.nodup_nil

/-- The items there in the end are those chosen for their keys. -/
theorem mem_build {added : List α} {item : α} :
    item ∈ added.foldl (insert key overrides) [] ↔
      chosen overrides (added.filter fun other => key other = key item) = some item := by
  rw [← find_build]
  constructor
  · intro h
    exact Table.find_eq_some_of_mem (nodup_build added) h
  · exact Table.mem_of_find

/-- Two sequences from which the same is chosen for every key leave the same items. -/
theorem build_perm {added added' : List α}
    (h : ∀ k, chosen overrides (added.filter fun item => key item = k) =
      chosen overrides (added'.filter fun item => key item = k)) :
    (added.foldl (insert key overrides) []).Perm (added'.foldl (insert key overrides) []) := by
  have hnodup : ∀ items : List α, (items.foldl (insert key overrides) []).Nodup := by
    intro items
    apply List.Nodup.of_map key
    exact nodup_build items
  rw [List.perm_ext_iff_of_nodup (hnodup added) (hnodup added')]
  intro item
  rw [mem_build, mem_build, h]

/-! ## What is chosen -/

omit [DecidableEq κ] in
/-- From an item that is kept, the last one that overrides follows. -/
theorem foldl_keep_some (kept : α) (items : List α) :
    items.foldl (keep overrides) (some kept) =
      some ((items.filter overrides).getLast?.getD kept) := by
  induction items generalizing kept with
  | nil => rfl
  | cons item rest ih =>
    rw [List.foldl_cons, keep]
    by_cases hover : overrides item = true
    · rw [if_pos hover, ih, List.filter_cons_of_pos hover, List.getLast?_cons]
      rfl
    · rw [if_neg hover, ih, List.filter_cons_of_neg hover]

omit [DecidableEq κ] in
/-- The last item that overrides, or the first item where none does. -/
theorem chosen_eq (items : List α) :
    chosen overrides items = (items.filter overrides).getLast?.or items.head? := by
  cases items with
  | nil => rfl
  | cons item rest =>
    have hfold : chosen overrides (item :: rest) =
        some ((rest.filter overrides).getLast?.getD item) := foldl_keep_some item rest
    rw [hfold, List.head?_cons]
    by_cases hover : overrides item = true
    · rw [List.filter_cons_of_pos hover, List.getLast?_cons]
      rfl
    · rw [List.filter_cons_of_neg hover]
      cases (rest.filter overrides).getLast? <;> rfl

omit [DecidableEq κ] in
theorem mem_of_chosen {items : List α} {item : α} (h : chosen overrides items = some item) :
    item ∈ items := by
  rw [chosen_eq, Option.or_eq_some_iff] at h
  rcases h with h | ⟨-, h⟩
  · exact List.mem_of_mem_filter (List.mem_of_getLast? h)
  · exact List.mem_of_head? h

omit [DecidableEq κ] in
/-- Something is chosen where there is an item. -/
theorem chosen_isSome {items : List α} {item : α} (h : item ∈ items) :
    ∃ kept, chosen overrides items = some kept := by
  cases items with
  | nil => cases h
  | cons first rest => exact ⟨_, foldl_keep_some first rest⟩

omit [DecidableEq κ] in
/-- The chosen item overrides exactly when one of them does. -/
theorem overrides_chosen {items : List α} {kept : α} (h : chosen overrides items = some kept) :
    overrides kept = true ↔ ∃ item ∈ items, overrides item = true := by
  constructor
  · intro hkept
    exact ⟨kept, mem_of_chosen h, hkept⟩
  · rintro ⟨item, hitem, hover⟩
    have hmem : item ∈ items.filter overrides := List.mem_filter.mpr ⟨hitem, hover⟩
    rw [chosen_eq, List.getLast?_eq_some_getLast (List.ne_nil_of_mem hmem), Option.some_or,
      Option.some.injEq] at h
    have hlast := List.getLast_mem (List.ne_nil_of_mem hmem)
    rw [h] at hlast
    exact (List.mem_filter.mp hlast).2

omit [DecidableEq κ] in
/-- Whatever was kept before, an item that overrides leaves one that does. -/
theorem foldl_keep_overrides {kept : Option α} {items : List α}
    (h : ∃ item ∈ items, overrides item = true) :
    ∃ last ∈ items, items.foldl (keep overrides) kept = some last ∧ overrides last = true := by
  obtain ⟨item, hitem, hover⟩ := h
  cases kept with
  | none =>
    obtain ⟨last, hlast⟩ := @chosen_isSome α overrides items item hitem
    exact ⟨last, mem_of_chosen hlast, hlast, (overrides_chosen hlast).mpr ⟨item, hitem, hover⟩⟩
  | some kept =>
    have hmem : item ∈ items.filter overrides := List.mem_filter.mpr ⟨hitem, hover⟩
    have hlast := List.getLast_mem (List.ne_nil_of_mem hmem)
    refine ⟨_, (List.mem_filter.mp hlast).1, ?_, (List.mem_filter.mp hlast).2⟩
    rw [foldl_keep_some, List.getLast?_eq_some_getLast (List.ne_nil_of_mem hmem), Option.getD_some]

omit [DecidableEq κ] in
/-- Sequences with the same overriding items choose the same, where something overrides. -/
theorem chosen_congr {items items' : List α}
    (hover : items.filter overrides = items'.filter overrides)
    (hhead : items.filter overrides = [] → items.head? = items'.head?) :
    chosen overrides items = chosen overrides items' := by
  rw [chosen_eq, chosen_eq, ← hover]
  by_cases hnone : items.filter overrides = []
  · rw [hhead hnone]
  · rw [List.getLast?_eq_some_getLast hnone, Option.some_or, Option.some_or]

/-- An item that overrides leaves one with its key that does, whatever was there. -/
theorem overrides_foldl {items added : List α} {item : α} (hitem : item ∈ added)
    (hover : overrides item = true) :
    ∃ last ∈ added.foldl (insert key overrides) items,
      key last = key item ∧ overrides last = true := by
  have hmem : item ∈ added.filter fun other => key other = key item :=
    List.mem_filter.mpr ⟨hitem, decide_eq_true rfl⟩
  obtain ⟨last, hlast, hfold, hlastOver⟩ :=
    @foldl_keep_overrides _ overrides (Table.find key (key item) items) _ ⟨item, hmem, hover⟩
  rw [← find_foldl] at hfold
  exact ⟨last, Table.mem_of_find hfold, of_decide_eq_true (List.mem_filter.mp hlast).2, hlastOver⟩

/-! ## The items in order

`before` compares the items by `place`, and items at one place have one key. -/

section Sorted

variable {σ : Type} [LinearOrder σ] {place : α → σ} {before : α → α → Prop} [DecidableRel before]
  {items items' : List α}

omit [DecidableEq κ] [DecidableRel before] in
theorem before_total (hbefore : ∀ a b, before a b ↔ place a ≤ place b) : Std.Total before := by
  constructor
  intro a b
  rw [hbefore, hbefore]
  exact le_total (place a) (place b)

omit [DecidableEq κ] [DecidableRel before] in
theorem before_trans (hbefore : ∀ a b, before a b ↔ place a ≤ place b) : IsTrans α before := by
  constructor
  intro a b c hab hbc
  rw [hbefore] at hab hbc ⊢
  exact le_trans hab hbc

omit [DecidableEq κ] in
theorem pairwise_place (hbefore : ∀ a b, before a b ↔ place a ≤ place b) (items : List α) :
    (items.insertionSort before).Pairwise fun a b => place a ≤ place b := by
  have htotal : Std.Total before := before_total hbefore
  have htrans : IsTrans α before := before_trans hbefore
  apply (List.pairwise_insertionSort before items).imp
  intro a b hab
  exact (hbefore a b).mp hab

omit [DecidableEq κ] in
/-- Items with different keys stand one after the other. -/
theorem pairwise_lt (hbefore : ∀ a b, before a b ↔ place a ≤ place b)
    (hplace : ∀ a b, place a = place b → key a = key b) (hnodup : (items.map key).Nodup) :
    (items.insertionSort before).Pairwise fun a b => place a < place b := by
  have hperm : (items.insertionSort before).Perm items := List.perm_insertionSort before items
  have hkeys : ((items.insertionSort before).map key).Nodup :=
    (hperm.map key).nodup_iff.mpr hnodup
  have hne : (items.insertionSort before).Pairwise fun a b => key a ≠ key b :=
    List.pairwise_map.mp hkeys
  apply ((pairwise_place hbefore items).and hne).imp
  intro a b hab
  exact lt_of_le_of_ne hab.1 fun heq => hab.2 (hplace a b heq)

omit [DecidableEq κ] in
/-- The order in which the items came does not show. -/
theorem insertionSort_eq (hbefore : ∀ a b, before a b ↔ place a ≤ place b)
    (hplace : ∀ a b, place a = place b → key a = key b) (hnodup : (items.map key).Nodup)
    (hperm : items.Perm items') : items.insertionSort before = items'.insertionSort before := by
  have hsame : (items.insertionSort before).Perm (items'.insertionSort before) :=
    (List.perm_insertionSort before items).trans
      (hperm.trans (List.perm_insertionSort before items').symm)
  apply List.Perm.eq_of_pairwise ?_ (pairwise_place hbefore items) (pairwise_place hbefore items')
    hsame
  intro a b ha hb hab hba
  have hmemA : a ∈ items := (List.mem_insertionSort before).mp ha
  have hmemB : b ∈ items := hperm.mem_iff.mpr ((List.mem_insertionSort before).mp hb)
  exact Table.eq_of_mem_of_key hnodup hmemA hmemB (hplace a b (le_antisymm hab hba))

end Sorted

end KeyedList
