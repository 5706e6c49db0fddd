import BlueLagoon.Interleaving.Semantics
import BlueLagoon.Migrations.Files

/-!
# Applying migrations

`schema_migrations`, the calls of `apply_pending_migrations` and `assess_upgrade_path`, and
the policy of supported versions. A call asks its surroundings whether each statement goes
through, and the directory for its entries; what PostgreSQL does with the text of a
migration is a parameter. A transaction is one action on the database.
-/

namespace BlueLagoon

open Interleaving

structure AppliedMigration where
  version : Int
  name : String
  checksum : String
  deriving DecidableEq, Repr

/-- The rows of `schema_migrations`, in the order of the primary key. -/
structure SchemaMigrations where
  rows : List AppliedMigration
  sorted : rows.Pairwise fun a b => a.version < b.version

/-- The database: the table, once it is there, and the migrations whose SQL has taken effect,
oldest first. -/
structure MigrationDatabase where
  schemaMigrations : Option SchemaMigrations
  executed : List Migration

/-- What PostgreSQL does with the text of a migration, on the schema that the texts before it
have left: the error it ends with, and the name it leaves in a row of `schema_migrations`. -/
class MigrationSql where
  failure : List String → String → Option String
  rename : String → AppliedMigration → String

/-- An error; a fault is one of the surroundings. -/
structure MigrationFailure where
  fault : Bool
  chain : ErrorChain
  deriving DecidableEq, Repr

namespace SchemaMigrations

def empty : SchemaMigrations where
  rows := []
  sorted := List.Pairwise.nil

/-- The order of the primary key. -/
def keyOrder (a b : AppliedMigration) : Prop := a.version ≤ b.version

instance : DecidableRel keyOrder := fun a b => inferInstanceAs (Decidable (a.version ≤ b.version))

theorem sorted_orderedInsert {rows : List AppliedMigration} {row : AppliedMigration}
    (hsorted : rows.Pairwise fun a b => a.version < b.version)
    (hnew : ∀ other ∈ rows, other.version ≠ row.version) :
    (rows.orderedInsert keyOrder row).Pairwise fun a b => a.version < b.version := by
  have htotal : Std.Total keyOrder := ⟨fun a b => le_total a.version b.version⟩
  have htrans : IsTrans AppliedMigration keyOrder := ⟨fun _ _ _ hab hbc => le_trans hab hbc⟩
  have hle : (rows.orderedInsert keyOrder row).Pairwise keyOrder :=
    List.Pairwise.orderedInsert row rows (hsorted.imp le_of_lt)
  -- the versions are different, so what is in order is strictly in order
  have hne : (row :: rows).Pairwise fun a b => a.version ≠ b.version := by
    rw [List.pairwise_cons]
    exact ⟨fun other hother => (hnew other hother).symm, hsorted.imp ne_of_lt⟩
  have hne' : (rows.orderedInsert keyOrder row).Pairwise fun a b => a.version ≠ b.version :=
    (List.perm_orderedInsert keyOrder row rows).symm.pairwise hne fun h => h.symm
  exact (hle.and hne').imp fun h => lt_of_le_of_ne h.1 h.2

/-- A row for a version that is not there yet. -/
def insert (table : SchemaMigrations) (row : AppliedMigration) : Option SchemaMigrations :=
  if h : ∀ other ∈ table.rows, other.version ≠ row.version then
    some
      { rows := table.rows.orderedInsert keyOrder row
        sorted := sorted_orderedInsert table.sorted h }
  else none

/-- A row whose version is behind all others is inserted at the end. -/
theorem rows_of_insert {table table' : SchemaMigrations} {row : AppliedMigration}
    (hlast : ∀ other ∈ table.rows, other.version < row.version)
    (h : table.insert row = some table') : table'.rows = table.rows ++ [row] := by
  unfold insert at h
  split at h
  · obtain rfl := Option.some.inj h
    show table.rows.orderedInsert keyOrder row = table.rows ++ [row]
    clear h
    revert hlast
    induction table.rows with
    | nil =>
      intro _
      rfl
    | cons other rows ih =>
      intro hlast
      have hnot : ¬ keyOrder row other :=
        not_le.mpr (hlast other List.mem_cons_self)
      rw [List.orderedInsert_of_not_le _ _ hnot, ih, List.cons_append]
      intro later hlater
      exact hlast later (List.mem_cons_of_mem _ hlater)
  · cases h

theorem insert_isSome {table : SchemaMigrations} {row : AppliedMigration}
    (hnew : ∀ other ∈ table.rows, other.version ≠ row.version) :
    ∃ table', table.insert row = some table' := by
  unfold insert
  rw [dif_pos hnew]
  exact ⟨_, rfl⟩

theorem insert_eq_none {table : SchemaMigrations} {row other : AppliedMigration}
    (hother : other ∈ table.rows) (hversion : other.version = row.version) :
    table.insert row = none := by
  unfold insert
  rw [dif_neg]
  intro hnew
  exact hnew other hother hversion

/-- A change of the other columns. -/
def update (table : SchemaMigrations) (change : AppliedMigration → AppliedMigration)
    (keeps : ∀ row, (change row).version = row.version) : SchemaMigrations where
  rows := table.rows.map change
  sorted := by
    rw [List.pairwise_map]
    apply table.sorted.imp
    intro a b hlt
    rw [keeps, keeps]
    exact hlt

end SchemaMigrations

namespace Migrations

/-! ## Programs -/

/-- The questions of a call: does the next statement go through, and what is in the
directory. -/
inductive MigrationQuery
  | statement
  | readDirectory

def MigrationQuery.Answer : MigrationQuery → Type
  | .statement => Except ErrorChain Unit
  | .readDirectory => Except ErrorChain (List DirectoryEntry)

def system : Sig where
  State := MigrationDatabase
  Query := MigrationQuery
  Answer := MigrationQuery.Answer
  Event := Empty
  Error := MigrationFailure

/-- An error of the code itself. -/
def refused (chain : ErrorChain) : MigrationFailure := { fault := false, chain := chain }

/-- The connection carries a statement, or the call ends. -/
def reach (context : String) : Prog system Unit :=
  .ask MigrationQuery.statement fun answer : Except ErrorChain Unit =>
    match answer with
    | .ok () => .ret ()
    | .error cause => .fail { fault := true, chain := context :: cause }

/-- The database without the table. -/
def missingTable (context : String) : MigrationFailure :=
  refused [context, "relation \"schema_migrations\" does not exist"]

/-- `ensure_schema_migrations_table`. -/
def ensureSchemaMigrationsTable : Prog system Unit := do
  reach "failed to ensure schema_migrations table exists"
  Prog.tx fun (db : MigrationDatabase) =>
    .ok { value := ()
          state := { db with
            schemaMigrations := some (db.schemaMigrations.getD SchemaMigrations.empty) } }

/-- `SELECT .. FROM schema_migrations ORDER BY version`. -/
def selectApplied (context : String) : Prog system (List AppliedMigration) := do
  reach context
  Prog.tx fun (db : MigrationDatabase) =>
    match db.schemaMigrations with
    | none => .error (missingTable context)
    | some table => .ok { value := table.rows, state := db }

/-- `applied_versions`. -/
def appliedVersions : Prog system (List Int) := do
  ensureSchemaMigrationsTable
  let rows ← selectApplied "failed to fetch applied schema versions"
  pure (rows.map AppliedMigration.version)

/-- `load_applied_migrations`. -/
def loadAppliedMigrations : Prog system (List AppliedMigration) := do
  ensureSchemaMigrationsTable
  selectApplied "failed to fetch applied migration metadata"

section Checksums

variable [Sha256Hex]

/-- `load_migrations`, on the directory as it is found. -/
def readMigrations : Prog system (List Migration) :=
  .ask MigrationQuery.readDirectory fun answer : Except ErrorChain (List DirectoryEntry) =>
    match answer with
    | .error cause => .fail { fault := true, chain := cause }
    | .ok entries =>
      match loadMigrations entries with
      | .error e => .fail (refused e)
      | .ok migrations => .ret migrations

/-- The `UPDATE` for one migration, on a row. -/
def normalizedRow (migration : Migration) (row : AppliedMigration) : AppliedMigration :=
  if row.version = migration.version ∧ row.checksum ∈ compatibleMigrationChecksums migration ∧
      (row.name ≠ migration.name ∨ row.checksum ≠ migration.checksum) then
    { row with name := migration.name, checksum := migration.checksum }
  else row

theorem normalizedRow_version (migration : Migration) (row : AppliedMigration) :
    (normalizedRow migration row).version = row.version := by
  unfold normalizedRow
  split <;> rfl

/-- The updates of the normalization, one after the other. -/
def normalizedTable (discovered : List Migration) (table : SchemaMigrations) :
    SchemaMigrations :=
  discovered.foldl
    (fun table migration =>
      table.update (normalizedRow migration) (normalizedRow_version migration)) table

/-- `normalize_applied_migration_metadata`. -/
def normalizeAppliedMigrationMetadata (discovered : List Migration) : Prog system Unit := do
  ensureSchemaMigrationsTable
  reach "failed to begin migration metadata normalization transaction"
  Prog.foldlM (fun () (migration : Migration) =>
    reach s!"failed to normalize applied migration metadata for version {migration.version}")
    () discovered
  Prog.tx fun (db : MigrationDatabase) =>
    match db.schemaMigrations with
    | none => .error (missingTable "failed to normalize applied migration metadata")
    | some table =>
      .ok { value := ()
            state := { db with schemaMigrations := some (normalizedTable discovered table) } }
  reach "failed to commit migration metadata normalization transaction"

/-- The loop of `validate_applied_history` from a position on. -/
def validateFrom (total : Nat) :
    Nat → List Migration → List AppliedMigration → Except MigrationFailure Unit
  | _, _, [] => .ok ()
  | _, [], applied :: _ =>
    .error (refused [s!"applied migration history contains unexpected version {
      applied.version}; runtime expected at most {total} reviewed migrations"])
  | index, expected :: discovered, applied :: rest =>
    if applied.version ≠ expected.version then
      .error (refused [s!"applied migration history is incomplete or out of order at position {
        index + 1}: expected version {expected.version}, found {applied.version}"])
    else if !checksumMatchesMigration expected applied.checksum then
      .error (refused [s!"applied migration {
        applied.version} checksum does not match the reviewed migration file"])
    else validateFrom total (index + 1) discovered rest

/-- `validate_applied_history`. -/
def validateAppliedHistory (discovered : List Migration) (applied : List AppliedMigration) :
    Except MigrationFailure Unit :=
  validateFrom discovered.length 0 discovered applied

/-! ## Applying -/

section Sql

variable [MigrationSql]

/-- The transaction of a migration: its SQL, and its row. -/
def recordMigration (migration : Migration) (db : MigrationDatabase) :
    Except MigrationFailure (Commit system Unit) :=
  match MigrationSql.failure (db.executed.map Migration.sql) migration.sql with
  | some cause => .error (refused [s!"failed to execute migration {migration.version}", cause])
  | none =>
    match db.schemaMigrations with
    | none => .error (missingTable s!"failed to record migration {migration.version}")
    | some table =>
      let renamed := table.update
        (fun row => { row with name := MigrationSql.rename migration.sql row }) fun _ => rfl
      match renamed.insert
          { version := migration.version, name := migration.name
            checksum := migration.checksum } with
      | none =>
        .error (refused [s!"failed to record migration {migration.version}",
          "duplicate key value violates unique constraint \"schema_migrations_pkey\""])
      | some table =>
        .ok { value := ()
              state :=
                { schemaMigrations := some table, executed := db.executed ++ [migration] } }

/-- The statements for a migration that is pending. The commit can go through and its
acknowledgement be lost. -/
def applyMigration (migration : Migration) : Prog system Unit := do
  reach "failed to begin migration transaction"
  reach s!"failed to execute migration {migration.version}"
  reach s!"failed to record migration {migration.version}"
  Prog.tx (recordMigration migration)
  reach s!"failed to commit migration {migration.version}"

structure MigrationSummary where
  discoveredVersions : List Int
  appliedVersions : List Int
  deriving DecidableEq, Repr

/-- A turn of the loop of `apply_pending_migrations`. -/
def applyIfPending (applied : List Int) (newlyApplied : List Int) (migration : Migration) :
    Prog system (List Int) :=
  if migration.version ∈ applied then pure newlyApplied
  else do
    applyMigration migration
    pure (newlyApplied ++ [migration.version])

/-- `apply_pending_migrations`. -/
def applyPendingMigrations : Prog system MigrationSummary := do
  ensureSchemaMigrationsTable
  let migrations ← readMigrations
  normalizeAppliedMigrationMetadata migrations
  let applied ← appliedVersions
  let history ← loadAppliedMigrations
  Prog.ofExcept (validateAppliedHistory migrations history)
  let newlyApplied ← Prog.foldlM (applyIfPending applied) [] migrations
  pure { discoveredVersions := migrations.map Migration.version
         appliedVersions := newlyApplied }

end Sql

/-! ## Assessing -/

structure SchemaPolicy where
  minimumSupportedVersion : Int
  expectedVersion : Int
  deriving DecidableEq, Repr

inductive SchemaCompatibility
  | supported (current : Int)
  | missing
  | tooOld (current minimumSupported : Int)
  | pendingMigrations (current expected : Int)
  | tooNew (current expected : Int)
  | incompatibleHistory (details : String)
  deriving DecidableEq, Repr

structure SchemaUpgradeAssessment where
  policy : SchemaPolicy
  currentVersion : Option Int
  expectedVersion : Int
  discoveredVersions : List Int
  appliedVersions : List Int
  pendingVersions : List Int
  compatibility : SchemaCompatibility
  deriving DecidableEq, Repr

/-- `schema::evaluate`. -/
def evaluate (current : Option Int) (policy : SchemaPolicy) : SchemaCompatibility :=
  match current with
  | none => .missing
  | some current =>
    if current < policy.minimumSupportedVersion then
      .tooOld current policy.minimumSupportedVersion
    else if current < policy.expectedVersion then
      .pendingMigrations current policy.expectedVersion
    else if current > policy.expectedVersion then .tooNew current policy.expectedVersion
    else .supported current

/-- The assessment of a history against the files. -/
def assessment (policy : SchemaPolicy) (discovered : List Migration)
    (applied : List AppliedMigration) : SchemaUpgradeAssessment :=
  let currentVersion := applied.getLast?.map AppliedMigration.version
  { policy := policy
    currentVersion := currentVersion
    expectedVersion := policy.expectedVersion
    discoveredVersions := discovered.map Migration.version
    appliedVersions := applied.map AppliedMigration.version
    pendingVersions :=
      (discovered.map Migration.version).filter fun version =>
        currentVersion.all fun current => version > current
    compatibility :=
      match validateAppliedHistory discovered applied with
      | .ok () => evaluate currentVersion policy
      | .error e => .incompatibleHistory (errorText e.chain) }

/-- `assess_upgrade_path`. -/
def assessUpgradePath (policy : SchemaPolicy) : Prog system SchemaUpgradeAssessment := do
  let discovered ← readMigrations
  normalizeAppliedMigrationMetadata discovered
  let applied ← loadAppliedMigrations
  pure (assessment policy discovered applied)

end Checksums

end Migrations

end BlueLagoon
