import BlueLagoon.Migrations.Apply

/-!
# Prefixes of the migrations

What the rows of `schema_migrations` say while they are those of the first migrations: the
normalization leaves them so, the validation accepts them, and a migration has taken effect
where its row is there.
-/

namespace BlueLagoon.Migrations

/-! ## Prefixes -/

/-- A prefix that reaches to an element stops there or contains it. -/
theorem prefix_cases {α : Type} {done before rest : List α} {next : α}
    (h : done <+: before ++ next :: rest) (hlength : before.length ≤ done.length) :
    done = before ∨ next ∈ done := by
  have hbefore : before <+: done :=
    List.prefix_of_prefix_length_le (List.prefix_append _ _) h hlength
  obtain ⟨tail, rfl⟩ := hbefore
  cases tail with
  | nil => exact Or.inl (List.append_nil before)
  | cons first tail =>
    have htail := (List.prefix_append_right_inj before).mp h
    obtain rfl := (List.cons_prefix_cons.mp htail).1
    exact Or.inr (List.mem_append_right _ List.mem_cons_self)

/-- Which migrations a call skips: those that were applied when it looked. -/
theorem mem_applied {before rest : List Migration} {migration : Migration} {k : Nat}
    (hsorted : (before ++ migration :: rest).Pairwise fun a b => a.version < b.version) :
    migration.version ∈ ((before ++ migration :: rest).take k).map Migration.version ↔
      before.length < k := by
  have hearlier := (List.pairwise_append.mp hsorted).2.2
  constructor
  · intro hmem
    by_contra hle
    rw [List.take_append_of_le_length (by omega)] at hmem
    obtain ⟨earlier, hmem, hversion⟩ := List.mem_map.mp hmem
    have hlt := hearlier earlier (List.mem_of_mem_take hmem) migration List.mem_cons_self
    omega
  · intro hlt
    apply List.mem_map_of_mem
    rw [List.take_append, List.mem_append]
    right
    obtain ⟨n, hn⟩ : ∃ n, k - before.length = n + 1 := ⟨k - before.length - 1, by omega⟩
    rw [hn, List.take_succ_cons]
    exact List.mem_cons_self

section Prefixes

variable [Sha256Hex]

/-- The row of a migration. -/
def Records (migration : Migration) (row : AppliedMigration) : Prop :=
  row.version = migration.version ∧ checksumMatchesMigration migration row.checksum

/-- The SQL of the first migrations has taken effect, and the rows are theirs. -/
structure Prefixed (migrations : List Migration) (db : MigrationDatabase) : Prop where
  executed : db.executed <+: migrations
  absent : db.schemaMigrations = none → db.executed = []
  recorded : ∀ table, db.schemaMigrations = some table →
    List.Forall₂ Records db.executed table.rows

section Records

variable {migrations done : List Migration} {rows : List AppliedMigration}

theorem versions_of_recorded (h : List.Forall₂ Records done rows) :
    rows.map AppliedMigration.version = done.map Migration.version := by
  induction h with
  | nil => rfl
  | cons hrow _ ih => rw [List.map_cons, List.map_cons, hrow.1, ih]

/-- Every version of the rows is one of the migrations that are done. -/
theorem exists_of_recorded (h : List.Forall₂ Records done rows) {row : AppliedMigration}
    (hrow : row ∈ rows) : ∃ migration ∈ done, migration.version = row.version := by
  have hversion : row.version ∈ rows.map AppliedMigration.version := List.mem_map_of_mem hrow
  rw [versions_of_recorded h] at hversion
  exact List.mem_map.mp hversion

/-- Renaming a row does not change whose it is. -/
theorem recorded_rename (h : List.Forall₂ Records done rows)
    (rename : AppliedMigration → String) :
    List.Forall₂ Records done (rows.map fun row => { row with name := rename row }) := by
  rw [List.forall₂_map_right_iff]
  apply h.imp
  intro migration row hrow
  exact hrow

theorem normalizedRow_records (hversions : (migrations.map Migration.version).Nodup)
    {migration migration' : Migration} (hmem : migration ∈ migrations)
    (hmem' : migration' ∈ migrations) {row : AppliedMigration} (hrow : Records migration row) :
    Records migration (normalizedRow migration' row) := by
  unfold normalizedRow
  split
  · rename_i hchange
    obtain rfl : migration = migration' :=
      List.inj_on_of_nodup_map hversions hmem hmem' (hrow.1.symm.trans hchange.1)
    exact ⟨hrow.1, checksumMatchesMigration_self migration⟩
  · exact hrow

theorem map_normalizedRow_records (hversions : (migrations.map Migration.version).Nodup)
    {migration : Migration} (hmem : migration ∈ migrations)
    (hdone : ∀ migration ∈ done, migration ∈ migrations) (h : List.Forall₂ Records done rows) :
    List.Forall₂ Records done (rows.map (normalizedRow migration)) := by
  rw [List.forall₂_map_right_iff]
  induction h with
  | nil => exact List.Forall₂.nil
  | @cons recorded row done rows hrow _ ih =>
    have hhead : recorded ∈ migrations := hdone recorded List.mem_cons_self
    refine List.Forall₂.cons ?_ ?_
    · exact normalizedRow_records hversions hhead hmem hrow
    · apply ih
      intro other hother
      exact hdone other (List.mem_cons_of_mem _ hother)

/-- The normalization leaves every row the row of its migration. -/
theorem normalizedTable_records (hversions : (migrations.map Migration.version).Nodup)
    {discovered : List Migration} (hsub : ∀ migration ∈ discovered, migration ∈ migrations)
    (hdone : ∀ migration ∈ done, migration ∈ migrations) {table : SchemaMigrations}
    (h : List.Forall₂ Records done table.rows) :
    List.Forall₂ Records done (normalizedTable discovered table).rows := by
  unfold normalizedTable
  induction discovered generalizing table with
  | nil => exact h
  | cons migration discovered ih =>
    rw [List.foldl_cons]
    apply ih
    · intro other hother
      exact hsub other (List.mem_cons_of_mem _ hother)
    · exact map_normalizedRow_records hversions (hsub migration List.mem_cons_self) hdone h

/-- The history of a prefix is accepted. -/
theorem validateFrom_ok {total : Nat} (h : List.Forall₂ Records done rows) :
    ∀ (index : Nat) (rest : List Migration),
      validateFrom total index (done ++ rest) rows = .ok () := by
  induction h with
  | nil =>
    intro index rest
    rw [validateFrom.eq_def]
  | @cons migration row done rows hrow _ ih =>
    intro index rest
    rw [List.cons_append, validateFrom, if_neg (not_not_intro hrow.1), hrow.2]
    exact ih (index + 1) rest

theorem validateAppliedHistory_ok (h : List.Forall₂ Records done rows)
    (hstart : done <+: migrations) : validateAppliedHistory migrations rows = .ok () := by
  obtain ⟨rest, rfl⟩ := hstart
  exact validateFrom_ok h 0 rest

/-- The row of a version is there. -/
def rowPresent (db : MigrationDatabase) (version : Int) : Bool :=
  db.schemaMigrations.any fun table => table.rows.any fun row => row.version = version

/-- A migration has taken effect once where its row is there, and not at all elsewhere. -/
theorem count_executed {db : MigrationDatabase} (h : Prefixed migrations db)
    (hversions : (migrations.map Migration.version).Nodup) {migration : Migration}
    (hmem : migration ∈ migrations) :
    db.executed.count migration = if rowPresent db migration.version then 1 else 0 := by
  have hnodup : db.executed.Nodup := (h.executed.sublist).nodup (List.Nodup.of_map _ hversions)
  have hpresent : rowPresent db migration.version = true ↔ migration ∈ db.executed := by
    unfold rowPresent
    cases hstored : db.schemaMigrations with
    | none =>
      rw [h.absent hstored]
      simp
    | some table =>
      have hrecorded := h.recorded table hstored
      show (table.rows.any fun row => row.version = migration.version) = true ↔ _
      rw [List.any_eq_true]
      constructor
      · rintro ⟨row, hrow, hsame⟩
        obtain ⟨other, hother, hversion⟩ := exists_of_recorded hrecorded hrow
        have hsame' : other.version = migration.version :=
          hversion.trans (of_decide_eq_true hsame)
        rwa [← List.inj_on_of_nodup_map hversions (h.executed.subset hother) hmem hsame']
      · intro hdone
        have hversion : migration.version ∈ db.executed.map Migration.version :=
          List.mem_map_of_mem hdone
        rw [← versions_of_recorded hrecorded] at hversion
        obtain ⟨row, hrow, hsame⟩ := List.mem_map.mp hversion
        exact ⟨row, hrow, decide_eq_true hsame⟩
  by_cases hdone : migration ∈ db.executed
  · rw [if_pos (hpresent.mpr hdone), List.count_eq_one_of_mem hnodup hdone]
  · rw [if_neg (fun hrow => hdone (hpresent.mp hrow)), List.count_eq_zero_of_not_mem hdone]

end Records

end Prefixes

end BlueLagoon.Migrations
