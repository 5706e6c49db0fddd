import BlueLagoon.Interleaving.RelyGuarantee
import BlueLagoon.Migrations.Prefixes

/-!
# Calls among calls

What `apply_pending_migrations` and `assess_upgrade_path` establish while other calls run on
the same database: a call can rely on the migrations before it staying, and adds one only
where all the earlier ones are.
-/

namespace BlueLagoon.Migrations

open Interleaving

/-! ## The protocol of the calls -/

/-- The surroundings of a call: whether there are other calls, and whether statements and
reads can fail. -/
structure Surroundings where
  others : Bool
  faults : Bool

/-- The errors the surroundings can cause. -/
def Surroundings.Fault (env : Surroundings) (f : MigrationFailure) : Prop :=
  env.faults = true ∧ f.fault = true

/-- What the surroundings may answer: any statement may fail, where faults are possible, and
the directory has the entries it has, in whatever order. -/
def answers (directory : List DirectoryEntry) (faults : Bool) : Answers system
  | .statement, answer => faults = true ∨ answer = Except.ok ()
  | .readDirectory, answer =>
    (faults = true ∨ ∃ entries : List DirectoryEntry, answer = Except.ok entries) ∧
      ∀ entries : List DirectoryEntry, answer = Except.ok entries → entries.Perm directory

/-- What a call sees of the moves of all calls: migrations are only added. With no other call
around, it is the only one to add them. -/
structure Later (env : Surroundings) (v w : MigrationDatabase) : Prop where
  executed : v.executed.length ≤ w.executed.length
  present : v.schemaMigrations.isSome → w.schemaMigrations.isSome
  alone : env.others = false → w.executed = v.executed

namespace Later

variable {env : Surroundings} {u v w : MigrationDatabase}

theorem refl (v : MigrationDatabase) : Later env v v :=
  ⟨le_refl _, fun h => h, fun _ => rfl⟩

theorem trans (huv : Later env u v) (hvw : Later env v w) : Later env u w :=
  ⟨huv.executed.trans hvw.executed, fun h => hvw.present (huv.present h),
    fun h => (hvw.alone h).trans (huv.alone h)⟩

/-- An action that adds no migration. -/
theorem of_executed_eq (h : w.executed = v.executed)
    (hpresent : v.schemaMigrations.isSome → w.schemaMigrations.isSome) : Later env v w :=
  ⟨le_of_eq (by rw [h]), hpresent, fun _ => h⟩

end Later

section Calls

variable [Sha256Hex]

/-- The discipline of the calls. -/
def protocol (ι : Type) (directory : List DirectoryEntry) (migrations : List Migration)
    (env : Surroundings) : Protocol system ι where
  answers := answers directory env.faults
  Inv v := Prefixed migrations v.state
  Rely _ v w := Later env v.state w.state
  rely_refl _ v := Later.refl v.state
  rely_trans _ _ _ _ huv hvw := huv.trans hvw

variable {ι : Type} {directory : List DirectoryEntry} {migrations : List Migration}
  {env : Surroundings} {i : ι} {v w : Shared system ι} {α : Type} {Q : Protocol.Post system ι α}

/-- An action that adds no migration and keeps the rows those of a prefix is allowed. -/
theorem allows_of_executed_eq {s : MigrationDatabase} {es : List Empty}
    (hinv : Prefixed migrations s) (hexecuted : s.executed = w.state.executed)
    (hpresent : w.state.schemaMigrations.isSome → s.schemaMigrations.isSome) :
    (protocol ι directory migrations env).Allows i w (w.push i s es) :=
  ⟨hinv, fun _ _ => Later.of_executed_eq hexecuted hpresent⟩

theorem wp_reach {Q : Protocol.Post system ι Unit} {context : String} (hok : Q (.ok ()) v)
    (hfault : ∀ f, env.Fault f → Q (.error f) v) :
    (protocol ι directory migrations env).wp i (reach context) Q v := by
  intro answer hanswer
  match answer with
  | .ok () => exact hok
  | .error cause =>
    rcases hanswer with hfaults | hanswer
    · exact hfault _ ⟨hfaults, rfl⟩
    · cases hanswer

theorem wp_ensureSchemaMigrationsTable {Q : Protocol.Post system ι Unit}
    (hfault : ∀ f w, env.Fault f → Q (.error f) w)
    (hok : ∀ w, Later env v.state w.state → w.state.schemaMigrations.isSome → Q (.ok ()) w) :
    (protocol ι directory migrations env).wp i ensureSchemaMigrationsTable Q v := by
  rw [ensureSchemaMigrationsTable, Prog.bind_eq, Protocol.wp_bind]
  refine wp_reach ?_ fun f hf => hfault f v hf
  apply Protocol.wp_tx
  · intro w c hinv hrely hbody
    obtain rfl := Except.ok.inj hbody
    have hlater : Later env w.state
        { w.state with
          schemaMigrations := some (w.state.schemaMigrations.getD SchemaMigrations.empty) } :=
      Later.of_executed_eq rfl fun _ => rfl
    refine ⟨allows_of_executed_eq ?_ rfl fun _ => rfl, hok _ (hrely.trans hlater) rfl⟩
    refine ⟨hinv.executed, fun h => absurd h (Option.some_ne_none _), ?_⟩
    intro table htable
    obtain rfl := Option.some.inj htable
    cases hstored : w.state.schemaMigrations with
    | none =>
      have hnil : w.state.executed = [] := hinv.absent hstored
      show List.Forall₂ Records w.state.executed SchemaMigrations.empty.rows
      rw [hnil]
      exact List.Forall₂.nil
    | some stored => exact hinv.recorded stored hstored
  · intro w e _ _ hbody
    cases hbody

/-- A read of the table: the rows are those of a prefix, and the prefix only grows. -/
theorem wp_selectApplied {Q : Protocol.Post system ι (List AppliedMigration)} {context : String}
    (hpresent : v.state.schemaMigrations.isSome) (hfault : ∀ f w, env.Fault f → Q (.error f) w)
    (hok : ∀ rows w, Later env v.state w.state → w.state.executed <+: migrations →
      List.Forall₂ Records w.state.executed rows → Q (.ok rows) w) :
    (protocol ι directory migrations env).wp i (selectApplied context) Q v := by
  rw [selectApplied, Prog.bind_eq, Protocol.wp_bind]
  refine wp_reach ?_ fun f hf => hfault f v hf
  apply Protocol.wp_tx
  · intro w c hinv hrely hbody
    cases hstored : w.state.schemaMigrations with
    | none =>
      rw [hstored] at hbody
      cases hbody
    | some table =>
      rw [hstored] at hbody
      obtain rfl := Except.ok.inj hbody
      refine ⟨allows_of_executed_eq hinv rfl fun h => h, ?_⟩
      exact hok _ _ hrely hinv.executed (hinv.recorded table hstored)
  · intro w e _ hrely hbody
    have hsome := hrely.present hpresent
    cases hstored : w.state.schemaMigrations with
    | none =>
      rw [hstored] at hsome
      cases hsome
    | some table =>
      rw [hstored] at hbody
      cases hbody

theorem wp_appliedVersions {Q : Protocol.Post system ι (List Int)}
    (hfault : ∀ f w, env.Fault f → Q (.error f) w)
    (hok : ∀ w, Later env v.state w.state → w.state.schemaMigrations.isSome →
      w.state.executed <+: migrations →
      Q (.ok (w.state.executed.map Migration.version)) w) :
    (protocol ι directory migrations env).wp i appliedVersions Q v := by
  rw [appliedVersions, Prog.bind_eq, Protocol.wp_bind]
  apply wp_ensureSchemaMigrationsTable hfault
  intro w hw hpresent
  rw [Protocol.afterwards_ok, Prog.bind_eq, Protocol.wp_bind]
  apply wp_selectApplied hpresent hfault
  intro rows w' hw' hstart hrows
  show Q (.ok (rows.map AppliedMigration.version)) w'
  rw [versions_of_recorded hrows]
  exact hok w' (hw.trans hw') (hw'.present hpresent) hstart

theorem wp_loadAppliedMigrations {Q : Protocol.Post system ι (List AppliedMigration)}
    (hfault : ∀ f w, env.Fault f → Q (.error f) w)
    (hok : ∀ rows w, Later env v.state w.state → w.state.schemaMigrations.isSome →
      w.state.executed <+: migrations →
      List.Forall₂ Records w.state.executed rows → Q (.ok rows) w) :
    (protocol ι directory migrations env).wp i loadAppliedMigrations Q v := by
  rw [loadAppliedMigrations, Prog.bind_eq, Protocol.wp_bind]
  apply wp_ensureSchemaMigrationsTable hfault
  intro w hw hpresent
  rw [Protocol.afterwards_ok]
  apply wp_selectApplied hpresent hfault
  intro rows w' hw' hstart hrows
  exact hok rows w' (hw.trans hw') (hw'.present hpresent) hstart hrows

/-- Whatever the order of the directory, the same migrations are read. -/
theorem wp_readMigrations {Q : Protocol.Post system ι (List Migration)}
    (hload : loadMigrations directory = .ok migrations)
    (hversions : (migrations.map Migration.version).Nodup)
    (hfault : ∀ f w, env.Fault f → Q (.error f) w) (hok : Q (.ok migrations) v) :
    (protocol ι directory migrations env).wp i readMigrations Q v := by
  intro answer hanswer
  rcases answer with cause | entries
  · rcases hanswer.1 with hfaults | ⟨entries, hanswer⟩
    · exact hfault _ _ ⟨hfaults, rfl⟩
    · cases hanswer
  · have hperm : entries.Perm directory := hanswer.2 entries rfl
    dsimp only
    rw [loadMigrations_perm hperm hload hversions]
    exact hok

/-- The loop of the statements of the normalization. -/
theorem wp_reaches {Q : Protocol.Post system ι Unit} {context : Migration → String}
    {discovered : List Migration} (hok : Q (.ok ()) v) (hfault : ∀ f, env.Fault f → Q (.error f) v) :
    (protocol ι directory migrations env).wp i
      (Prog.foldlM (fun () migration => reach (context migration)) () discovered) Q v := by
  induction discovered with
  | nil => exact hok
  | cons migration discovered ih =>
    rw [Prog.foldlM, Protocol.wp_bind]
    exact wp_reach ih hfault

/-- Normalizing the metadata executes no migration, and fails only where the surroundings do. -/
theorem wp_normalizeAppliedMigrationMetadata {Q : Protocol.Post system ι Unit}
    (hversions : (migrations.map Migration.version).Nodup)
    (hfault : ∀ f w, env.Fault f → Q (.error f) w)
    (hok : ∀ w, Later env v.state w.state → w.state.schemaMigrations.isSome → Q (.ok ()) w) :
    (protocol ι directory migrations env).wp i
      (normalizeAppliedMigrationMetadata migrations) Q v := by
  rw [normalizeAppliedMigrationMetadata, Prog.bind_eq, Protocol.wp_bind]
  refine wp_ensureSchemaMigrationsTable (fun f w hf => hfault f w hf) ?_
  intro w hw hpresent
  rw [Protocol.afterwards_ok, Prog.bind_eq, Protocol.wp_bind]
  refine wp_reach ?_ fun f hf => hfault f w hf
  rw [Protocol.afterwards_ok, Prog.bind_eq, Protocol.wp_bind]
  refine wp_reaches ?_ fun f hf => hfault f w hf
  rw [Protocol.afterwards_ok, Prog.bind_eq, Protocol.wp_bind]
  apply Protocol.wp_tx
  · intro u c hinv hrely hbody
    cases hstored : u.state.schemaMigrations with
    | none =>
      rw [hstored] at hbody
      cases hbody
    | some table =>
      rw [hstored] at hbody
      obtain rfl := Except.ok.inj hbody
      have hnormal : Prefixed migrations
          { u.state with schemaMigrations := some (normalizedTable migrations table) } := by
        refine ⟨hinv.executed, fun h => absurd h (Option.some_ne_none _), ?_⟩
        intro table' htable'
        obtain rfl := Option.some.inj htable'
        apply normalizedTable_records hversions (fun _ h => h)
        · intro migration hmigration
          exact hinv.executed.subset hmigration
        · exact hinv.recorded table hstored
      refine ⟨allows_of_executed_eq hnormal rfl fun _ => rfl, ?_⟩
      rw [Protocol.afterwards_ok]
      refine wp_reach ?_ fun f hf => hfault f _ hf
      have hlater : Later env u.state
          { u.state with schemaMigrations := some (normalizedTable migrations table) } :=
        Later.of_executed_eq rfl fun _ => rfl
      exact hok _ (hw.trans (hrely.trans hlater)) rfl
  · intro u e _ hrely hbody
    have hsome := hrely.present hpresent
    cases hstored : u.state.schemaMigrations with
    | none =>
      rw [hstored] at hsome
      cases hsome
    | some table =>
      rw [hstored] at hbody
      cases hbody

/-! ### Applying -/

variable [MigrationSql]

/-- Every migration's SQL goes through on the schema its predecessors leave. -/
def SqlSucceeds (migrations : List Migration) : Prop :=
  ∀ before migration rest, migrations = before ++ migration :: rest →
    MigrationSql.failure (before.map Migration.sql) migration.sql = none

section Record

variable {before rest : List Migration} {migration : Migration} {db : MigrationDatabase}

/-- Where a migration is recorded, exactly those before it were. -/
theorem recordMigration_ok (hsorted : (before ++ migration :: rest).Pairwise
      fun a b => a.version < b.version)
    (hinv : Prefixed (before ++ migration :: rest) db)
    (hlength : before.length ≤ db.executed.length) {c : Commit system Unit}
    (h : recordMigration migration db = .ok c) :
    Prefixed (before ++ migration :: rest) c.state ∧ db.executed = before ∧
      c.state.executed = before ++ [migration] ∧ c.state.schemaMigrations.isSome := by
  unfold recordMigration at h
  split at h
  · cases h
  · split at h
    · cases h
    · rename_i table hstored
      have hrecorded := hinv.recorded table hstored
      dsimp only at h
      split at h
      · cases h
      · rename_i table' hinsert
        obtain rfl := Except.ok.inj h
        have hrenamed := recorded_rename hrecorded (MigrationSql.rename migration.sql)
        rcases prefix_cases hinv.executed hlength with hbefore | hmem
        · -- every row is of an earlier version, so the new row comes last
          rw [hbefore] at hrenamed
          have hearlier := (List.pairwise_append.mp hsorted).2.2
          have hrows := SchemaMigrations.rows_of_insert (fun other hother => by
            obtain ⟨earlier, hearlier', hversion⟩ := exists_of_recorded hrenamed hother
            rw [← hversion]
            exact hearlier earlier hearlier' migration List.mem_cons_self) hinsert
          refine ⟨⟨?_, fun hnone => absurd hnone (Option.some_ne_none _), ?_⟩, hbefore, ?_, rfl⟩
          · show db.executed ++ [migration] <+: before ++ migration :: rest
            rw [hbefore]
            exact ⟨rest, by rw [List.append_assoc, List.singleton_append]⟩
          · intro last hlast
            obtain rfl := Option.some.inj hlast
            show List.Forall₂ Records (db.executed ++ [migration]) table'.rows
            rw [hrows, hbefore]
            apply List.rel_append hrenamed
            exact List.Forall₂.cons ⟨rfl, checksumMatchesMigration_self migration⟩
              List.Forall₂.nil
          · show db.executed ++ [migration] = before ++ [migration]
            rw [hbefore]
        · -- a migration that was recorded has a row, which the primary key protects
          have hversion : migration.version ∈ db.executed.map Migration.version :=
            List.mem_map_of_mem hmem
          rw [← versions_of_recorded hrenamed] at hversion
          obtain ⟨row, hrow, hsame⟩ := List.mem_map.mp hversion
          rw [SchemaMigrations.insert_eq_none hrow hsame] at hinsert
          cases hinsert

/-- Recording the next migration can only fail in its SQL. -/
theorem recordMigration_error (hsorted : (before ++ migration :: rest).Pairwise
      fun a b => a.version < b.version)
    (hinv : Prefixed (before ++ migration :: rest) db) (hbefore : db.executed = before)
    (hpresent : db.schemaMigrations.isSome) {f : MigrationFailure}
    (h : recordMigration migration db = .error f) :
    MigrationSql.failure (before.map Migration.sql) migration.sql ≠ none := by
  intro hsucceeds
  unfold recordMigration at h
  rw [hbefore, hsucceeds] at h
  dsimp only at h
  split at h
  · rename_i hnone
    rw [hnone] at hpresent
    cases hpresent
  · rename_i table hstored
    have hrenamed := recorded_rename (hinv.recorded table hstored)
      (MigrationSql.rename migration.sql)
    rw [hbefore] at hrenamed
    have hearlier := (List.pairwise_append.mp hsorted).2.2
    have hnew : ∀ other ∈ table.rows.map
        (fun row => { row with name := MigrationSql.rename migration.sql row }),
        other.version ≠ migration.version := by
      intro other hother
      obtain ⟨earlier, hearlier', hversion⟩ := exists_of_recorded hrenamed hother
      rw [← hversion]
      exact (hearlier earlier hearlier' migration List.mem_cons_self).ne
    obtain ⟨table', hinsert⟩ : ∃ table', SchemaMigrations.insert
        (table.update (fun row => { row with name := MigrationSql.rename migration.sql row })
          fun _ => rfl)
        { version := migration.version, name := migration.name
          checksum := migration.checksum } = some table' :=
      SchemaMigrations.insert_isSome hnew
    rw [hinsert] at h
    cases h

end Record

/-- The statements for one migration: when they succeed, exactly the migrations up to it are
applied, and they fail only where another call was faster or the SQL fails. -/
theorem wp_applyMigration {before rest : List Migration} {migration : Migration}
    {Q : Protocol.Post system ι Unit} (hothers : env.others = true ∨ Subsingleton ι)
    (hsorted : (before ++ migration :: rest).Pairwise fun a b => a.version < b.version)
    (hpresent : v.state.schemaMigrations.isSome)
    (hlength : before.length ≤ v.state.executed.length)
    (halone : env.others = false → v.state.executed.length = before.length)
    (hfault : ∀ f w, env.Fault f → Q (.error f) w)
    (herror : env.others = true ∨ ¬ SqlSucceeds (before ++ migration :: rest) →
      ∀ f w, Q (.error f) w)
    (hok : ∀ w, w.state.executed = before ++ [migration] →
      w.state.schemaMigrations.isSome → Q (.ok ()) w) :
    (protocol ι directory (before ++ migration :: rest) env).wp i
      (applyMigration migration) Q v := by
  rw [applyMigration, Prog.bind_eq, Protocol.wp_bind]
  refine wp_reach ?_ fun f hf => hfault f v hf
  rw [Protocol.afterwards_ok, Prog.bind_eq, Protocol.wp_bind]
  refine wp_reach ?_ fun f hf => hfault f v hf
  rw [Protocol.afterwards_ok, Prog.bind_eq, Protocol.wp_bind]
  refine wp_reach ?_ fun f hf => hfault f v hf
  rw [Protocol.afterwards_ok, Prog.bind_eq, Protocol.wp_bind]
  apply Protocol.wp_tx
  · intro w c hinv hrely hbody
    obtain ⟨hkept, hbefore, hexecuted, hsome⟩ :=
      recordMigration_ok hsorted hinv (hlength.trans hrely.executed) hbody
    refine ⟨⟨hkept, fun j hne => ?_⟩, ?_⟩
    · -- the others see one migration more
      rcases hothers with hcrowd | hsingle
      · refine ⟨?_, fun _ => hsome, fun hquiet => ?_⟩
        on_goal 2 => exact absurd (hcrowd.symm.trans hquiet) Bool.noConfusion
        show w.state.executed.length ≤ c.state.executed.length
        rw [hbefore, hexecuted, List.length_append]
        omega
      · exact absurd (hsingle.elim j i) hne
    · rw [Protocol.afterwards_ok]
      exact wp_reach (hok _ hexecuted hsome) fun f hf => hfault f _ hf
  · intro w f hinv hrely hbody
    apply herror
    by_cases hcrowd : env.others = true
    · exact Or.inl hcrowd
    · right
      have hquiet : env.others = false := by simpa using hcrowd
      have hsame := hrely.alone hquiet
      have hbefore : w.state.executed = before := by
        have hstart : before <+: w.state.executed :=
          List.prefix_of_prefix_length_le (List.prefix_append _ _) hinv.executed
            (hlength.trans hrely.executed)
        apply (hstart.eq_of_length _).symm
        rw [hsame, halone hquiet]
      intro hsucceeds
      have hfails := recordMigration_error hsorted hinv hbefore (hrely.present hpresent) hbody
      exact hfails (hsucceeds before migration rest rfl)

/-- The loop from a migration on: those before it are applied, and nobody else applies any
when nobody else is there. -/
theorem wp_applyPending {Q : Protocol.Post system ι (List Int)} {k : Nat}
    (hothers : env.others = true ∨ Subsingleton ι)
    (hsorted : migrations.Pairwise fun a b => a.version < b.version)
    (hfault : ∀ f w, env.Fault f → Q (.error f) w)
    (herror : k < migrations.length → (env.others = true ∨ ¬ SqlSucceeds migrations) →
      ∀ f w, Q (.error f) w)
    (hok : ∀ w, migrations.length ≤ w.state.executed.length →
      Q (.ok ((migrations.drop k).map Migration.version)) w)
    (rest before : List Migration) (hsplit : migrations = before ++ rest) (v : Shared system ι)
    (hpresent : v.state.schemaMigrations.isSome) (hlooked : k ≤ v.state.executed.length)
    (hlength : before.length ≤ v.state.executed.length)
    (halone : env.others = false → v.state.executed.length = max k before.length) :
    (protocol ι directory migrations env).wp i
      (Prog.foldlM (applyIfPending ((migrations.take k).map Migration.version))
        ((before.drop k).map Migration.version) rest) Q v := by
  induction rest generalizing before v with
  | nil =>
    rw [List.append_nil] at hsplit
    subst hsplit
    exact hok v hlength
  | cons migration rest ih =>
    have hnext : migrations = (before ++ [migration]) ++ rest := by
      rw [hsplit, List.append_assoc, List.singleton_append]
    have hstep := ih (before ++ [migration]) hnext
    rw [Prog.foldlM, applyIfPending]
    -- the first `k` files were recorded when the call looked, and are skipped
    by_cases hskip : before.length < k
    · have hmem : migration.version ∈ (migrations.take k).map Migration.version := by
        subst hsplit
        exact (mem_applied hsorted).mpr hskip
      have hsame : before.drop k = (before ++ [migration]).drop k := by
        rw [List.drop_eq_nil_of_le hskip.le, List.drop_eq_nil_of_le]
        rw [List.length_append]
        exact hskip
      rw [if_pos hmem, Prog.pure_eq_ret, Prog.ret_bind, hsame]
      apply hstep v hpresent hlooked
      · rw [List.length_append]
        exact le_trans hskip hlooked
      · intro hquiet
        rw [halone hquiet, List.length_append, List.length_singleton]
        omega
    · have hnot : migration.version ∉ (migrations.take k).map Migration.version := by
        subst hsplit
        exact fun hmem => hskip ((mem_applied hsorted).mp hmem)
      rw [if_neg hnot, Prog.bind_eq, Prog.bind_assoc, Protocol.wp_bind]
      have hpending : k < migrations.length := by
        rw [hsplit, List.length_append, List.length_cons]
        omega
      -- with no other call around, exactly the files before this one have been executed
      have hnow : env.others = false → v.state.executed.length = before.length := by
        intro hquiet
        rw [halone hquiet]
        omega
      subst hsplit
      apply wp_applyMigration hothers hsorted hpresent hlength hnow
      · intro f w hf
        exact hfault f w hf
      · intro hcause f w
        exact herror hpending hcause f w
      · intro w hexecuted hsome
        have hcount : w.state.executed.length = before.length + 1 := by
          rw [hexecuted, List.length_append, List.length_singleton]
        have hnewly : (before.drop k).map Migration.version ++ [migration.version] =
            ((before ++ [migration]).drop k).map Migration.version := by
          rw [List.drop_append_of_le_length (by omega), List.map_append, List.map_singleton]
        rw [Protocol.afterwards_ok, Prog.pure_eq_ret, Prog.ret_bind, hnewly]
        apply hstep w hsome
        · omega
        · rw [hcount, List.length_append, List.length_singleton]
        · intro _
          rw [hcount, List.length_append, List.length_singleton]
          omega

/-- What a call of `apply_pending_migrations` establishes, from the moment it starts. -/
def Applied (migrations : List Migration) (env : Surroundings) (v : Shared system ι) :
    Protocol.Post system ι MigrationSummary
  | .ok summary, w =>
    migrations.length ≤ w.state.executed.length ∧
      summary.discoveredVersions = migrations.map Migration.version ∧
      ∃ k, v.state.executed.length ≤ k ∧
        summary.appliedVersions = (migrations.drop k).map Migration.version
  | .error f, _ =>
    env.Fault f ∨ (v.state.executed.length < migrations.length ∧
      (env.others = true ∨ ¬ SqlSucceeds migrations))

/-- A call that ends well has applied every file; it fails only where a fault, another call or the
SQL of a file made it. -/
theorem wp_applyPendingMigrations (hothers : env.others = true ∨ Subsingleton ι)
    (hload : loadMigrations directory = .ok migrations)
    (hversions : (migrations.map Migration.version).Nodup) (v : Shared system ι) :
    (protocol ι directory migrations env).wp i applyPendingMigrations
      (Applied migrations env v) v := by
  have hsorted := loadMigrations_sorted hload hversions
  have hfault : ∀ f w, env.Fault f → Applied migrations env v (.error f) w :=
    fun f w hf => Or.inl hf
  rw [applyPendingMigrations, Prog.bind_eq, Protocol.wp_bind]
  refine wp_ensureSchemaMigrationsTable (fun f w hf => hfault f w hf) ?_
  intro v₁ hv₁ _
  rw [Protocol.afterwards_ok, Prog.bind_eq, Protocol.wp_bind]
  refine wp_readMigrations hload hversions (fun f w hf => hfault f w hf) ?_
  rw [Protocol.afterwards_ok, Prog.bind_eq, Protocol.wp_bind]
  refine wp_normalizeAppliedMigrationMetadata hversions (fun f w hf => hfault f w hf) ?_
  intro v₂ hv₂ _
  rw [Protocol.afterwards_ok, Prog.bind_eq, Protocol.wp_bind]
  refine wp_appliedVersions (fun f w hf => hfault f w hf) ?_
  intro v₃ hv₃ hpresent hstart
  rw [Protocol.afterwards_ok, Prog.bind_eq, Protocol.wp_bind]
  refine wp_loadAppliedMigrations (fun f w hf => hfault f w hf) ?_
  intro history v₄ hv₄ hpresent' hstart' hhistory
  rw [Protocol.afterwards_ok, validateAppliedHistory_ok hhistory hstart', Prog.bind_eq,
    Protocol.wp_bind]
  apply Protocol.wp_ofExcept.mpr
  refine (Protocol.afterwards_ok _ _ _).mpr ?_
  rw [Prog.bind_eq, Protocol.wp_bind]
  -- the versions that were seen are those of a prefix, which has only grown since the start
  have hseen : v₃.state.executed = migrations.take v₃.state.executed.length :=
    List.prefix_iff_eq_take.mp hstart
  have hgrown : v.state.executed.length ≤ v₃.state.executed.length :=
    (hv₁.trans (hv₂.trans hv₃)).executed
  have hnone : (([] : List Migration).drop v₃.state.executed.length).map Migration.version = [] := by
    rw [List.drop_nil, List.map_nil]
  rw [hseen, ← hnone]
  apply wp_applyPending hothers hsorted
  · intro f w hf
    exact hfault f w hf
  · intro hpending hcause f w
    exact Or.inr ⟨lt_of_le_of_lt hgrown hpending, hcause⟩
  · intro w hall
    exact ⟨hall, rfl, _, hgrown, rfl⟩
  · rfl
  · exact hpresent'
  · exact hv₄.executed
  · exact Nat.zero_le _
  · intro hquiet
    rw [hv₄.alone hquiet, List.length_nil, Nat.max_zero]

/-! ### Assessing -/

omit [MigrationSql] in
/-- The history of all the files is a supported one. -/
theorem supported_of_recorded {policy : SchemaPolicy} {history : List AppliedMigration}
    (hne : migrations ≠ []) (hexpected : policy.expectedVersion = latestVersion migrations)
    (hminimum : policy.minimumSupportedVersion ≤ latestVersion migrations)
    (h : List.Forall₂ Records migrations history) :
    (assessment policy migrations history).compatibility =
      .supported (latestVersion migrations) := by
  have hcurrent : history.getLast?.map AppliedMigration.version =
      some (latestVersion migrations) := by
    rw [← List.getLast?_map, versions_of_recorded h, List.getLast?_map,
      List.getLast?_eq_some_getLast hne]
    unfold latestVersion
    rw [List.getLast?_eq_some_getLast hne]
    rfl
  unfold assessment
  dsimp only
  rw [validateAppliedHistory_ok h (List.prefix_refl _), hcurrent]
  show evaluate (some (latestVersion migrations)) policy = _
  rw [evaluate, if_neg (not_lt.mpr hminimum), if_neg (by rw [hexpected]; exact lt_irrefl _),
    if_neg (by rw [hexpected]; exact lt_irrefl _)]

/-- What a call of `assess_upgrade_path` establishes: it assesses a history that has grown
since the start of the call. -/
def Assessed (migrations : List Migration) (env : Surroundings) (policy : SchemaPolicy)
    (v : Shared system ι) : Protocol.Post system ι SchemaUpgradeAssessment
  | .ok answer, _ => ∃ done history, done <+: migrations ∧
      v.state.executed.length ≤ done.length ∧ List.Forall₂ Records done history ∧
      answer = assessment policy migrations history
  | .error f, _ => env.Fault f

omit [MigrationSql] in
theorem wp_assessUpgradePath (hload : loadMigrations directory = .ok migrations)
    (hversions : (migrations.map Migration.version).Nodup) (policy : SchemaPolicy)
    (v : Shared system ι) :
    (protocol ι directory migrations env).wp i (assessUpgradePath policy)
      (Assessed migrations env policy v) v := by
  have hfault : ∀ f w, env.Fault f → Assessed migrations env policy v (.error f) w :=
    fun f w hf => hf
  rw [assessUpgradePath, Prog.bind_eq, Protocol.wp_bind]
  refine wp_readMigrations hload hversions (fun f w hf => hfault f w hf) ?_
  rw [Protocol.afterwards_ok, Prog.bind_eq, Protocol.wp_bind]
  refine wp_normalizeAppliedMigrationMetadata hversions (fun f w hf => hfault f w hf) ?_
  intro v₁ hv₁ _
  rw [Protocol.afterwards_ok, Prog.bind_eq, Protocol.wp_bind]
  refine wp_loadAppliedMigrations (fun f w hf => hfault f w hf) ?_
  intro history v₂ hv₂ _ hstart hhistory
  exact ⟨_, history, hstart, (hv₁.trans hv₂).executed, hhistory, rfl⟩

end Calls

end BlueLagoon.Migrations
