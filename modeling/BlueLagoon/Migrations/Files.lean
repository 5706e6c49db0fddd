import BlueLagoon.Search
import BlueLagoon.Text
import BlueLagoon.Contracts
import Mathlib.Data.List.Perm.Basic
import Mathlib.Data.List.Sort

/-!
# Migration files

What `load_migrations` makes of the entries of the migrations directory. The entries come in
the order in which the directory is read, which the operating system is free to choose; the
SHA-256 digest is a parameter.
-/

namespace BlueLagoon

/-- `hex::encode(Sha256::digest(..))`. -/
class Sha256Hex where
  digest : String → String

/-- An entry of a directory, with what reading it as text gives. -/
structure DirectoryEntry where
  fileName : String
  contents : Except ErrorChain String

structure Migration where
  version : Int
  name : String
  checksum : String
  sql : String
  deriving DecidableEq, Repr

namespace Migrations

/-! ## Names -/

/-- `Path::extension`: what follows the last dot, unless nothing precedes it. -/
def extension (fileName : String) : Option String :=
  match Search.splitLast ['.'] fileName.toList with
  | some ([], _) => none
  | some (_, after) => some (String.ofList after)
  | none => none

/-- `str::strip_suffix`. -/
def stripSuffix (suffix : String) (text : String) : Option (List Char) :=
  if suffix.toList.isSuffixOf text.toList then
    some (text.toList.take (text.toList.length - suffix.toList.length))
  else none

/-- `parse_migration_name`. -/
def parseMigrationName (fileName : String) : Except ErrorChain (Int × String) :=
  match stripSuffix ".sql" fileName with
  | none => .error ["migration filename must end with .sql"]
  | some stem =>
    match Search.splitFirst "__".toList stem with
    | none => .error ["migration filename must follow NNNN__short_snake_case.sql"]
    | some (version, name) =>
      if version.length ≠ 4 ∨ !version.all Char.isDigit then
        .error ["migration version must be four digits"]
      else if !name.all fun c => c.isLower || c.isDigit || c = '_' then
        .error ["migration name must be snake_case"]
      else
        match Text.parseI64 (String.ofList version) with
        | none => .error ["invalid digit found in string"]
        | some number => .ok (number, String.ofList name)

/-- `canonical_migration_name`. -/
def canonicalMigrationName (version : Int) (parsedName : String) : String :=
  if version = 1 then "runtime_foundation"
  else if version = 2 then "foreground_loop"
  else parsedName

/-! ## The order of versions -/

/-- `migrations.sort_by_key(|migration| migration.version)`, which is stable. -/
def sortByVersion (migrations : List Migration) : List Migration :=
  migrations.insertionSort fun a b => a.version ≤ b.version

/-- `latest_version`. -/
def latestVersion (migrations : List Migration) : Int :=
  match migrations.getLast? with
  | some migration => migration.version
  | none => 0

theorem sortByVersion_sorted (migrations : List Migration) :
    (sortByVersion migrations).Pairwise fun a b => a.version ≤ b.version := by
  have htotal : Std.Total fun a b : Migration => a.version ≤ b.version :=
    ⟨fun a b => le_total a.version b.version⟩
  have htrans : IsTrans Migration fun a b => a.version ≤ b.version :=
    ⟨fun _ _ _ hab hbc => le_trans hab hbc⟩
  exact List.pairwise_insertionSort _ _

theorem sortByVersion_perm (migrations : List Migration) :
    (sortByVersion migrations).Perm migrations :=
  List.perm_insertionSort _ _

/-- Migrations with different versions are sorted in one way only. -/
theorem sortByVersion_eq_of_perm {migrations migrations' : List Migration}
    (h : migrations.Perm migrations') (hversions : (migrations.map Migration.version).Nodup) :
    sortByVersion migrations = sortByVersion migrations' := by
  have hperm : (sortByVersion migrations).Perm (sortByVersion migrations') :=
    (sortByVersion_perm migrations).trans (h.trans (sortByVersion_perm migrations').symm)
  apply hperm.eq_of_pairwise _ (sortByVersion_sorted migrations) (sortByVersion_sorted migrations')
  intro a b ha hb hab hba
  have ha' : a ∈ migrations := (sortByVersion_perm migrations).mem_iff.mp ha
  have hb' : b ∈ migrations :=
    h.mem_iff.mpr ((sortByVersion_perm migrations').mem_iff.mp hb)
  exact List.inj_on_of_nodup_map hversions ha' hb' (le_antisymm hab hba)

/-! ## Checksums -/

/-- `.replace("\r\n", "\n")`. -/
def replaceCrlf : List Char → List Char
  | '\r' :: '\n' :: rest => '\n' :: replaceCrlf rest
  | c :: rest => c :: replaceCrlf rest
  | [] => []

/-- `normalize_sql_for_checksum`. -/
def normalizeSqlForChecksum (sql : String) : String :=
  String.ofList ((replaceCrlf sql.toList).map fun c => if c = '\r' then '\n' else c)

/-- `.replace('\n', "\r\n")`. -/
def withCrlf (sql : String) : String :=
  String.ofList (sql.toList.flatMap fun c => if c = '\n' then ['\r', '\n'] else [c])

section Checksums

variable [Sha256Hex]

/-- `migration_checksum`. -/
def migrationChecksum (sql : String) : String := Sha256Hex.digest (normalizeSqlForChecksum sql)

/-- `compatible_migration_checksums`. -/
def compatibleMigrationChecksums (migration : Migration) : List String :=
  [migration.checksum, Sha256Hex.digest migration.sql,
   Sha256Hex.digest (withCrlf (normalizeSqlForChecksum migration.sql))]

/-- `checksum_matches_migration`. -/
def checksumMatchesMigration (migration : Migration) (checksum : String) : Bool :=
  checksum ∈ compatibleMigrationChecksums migration

@[simp] theorem checksumMatchesMigration_self (migration : Migration) :
    checksumMatchesMigration migration migration.checksum = true := by
  simp [checksumMatchesMigration, compatibleMigrationChecksums]

/-! ## Loading -/

/-- The migration in a file. -/
def migrationOf (entry : DirectoryEntry) : Except ErrorChain Migration :=
  match parseMigrationName entry.fileName with
  | .error e => .error e
  | .ok (version, parsedName) =>
    match entry.contents with
    | .error e => .error (s!"failed to read migration {entry.fileName}" :: e)
    | .ok sql =>
      .ok { version := version
            name := canonicalMigrationName version parsedName
            checksum := migrationChecksum sql
            sql := sql }

/-- `load_migrations`, on the entries of the directory as they are read. -/
def loadMigrations (entries : List DirectoryEntry) : Except ErrorChain (List Migration) :=
  ((entries.filter fun entry => extension entry.fileName = some "sql").mapM migrationOf).map
    sortByVersion

/-! ## The order of the directory -/

/-- In whatever order the directory is read, migrations with different versions are loaded
as the same list. -/
theorem loadMigrations_perm {entries entries' : List DirectoryEntry} (h : entries'.Perm entries)
    {migrations : List Migration} (hload : loadMigrations entries = .ok migrations)
    (hversions : (migrations.map Migration.version).Nodup) :
    loadMigrations entries' = .ok migrations := by
  unfold loadMigrations at hload ⊢
  rw [except_map_eq_ok] at hload ⊢
  obtain ⟨read, hread, rfl⟩ := hload
  obtain ⟨read', hread', hperm⟩ :=
    List.perm_comp_forall₂ (h.filter _) (except_mapM_eq_ok.mp hread)
  refine ⟨read', except_mapM_eq_ok.mpr hread', ?_⟩
  have hnodup : (read'.map Migration.version).Nodup :=
    ((hperm.trans (sortByVersion_perm read).symm).map _).nodup_iff.mpr hversions
  exact sortByVersion_eq_of_perm hperm hnodup

theorem loadMigrations_sorted {entries : List DirectoryEntry} {migrations : List Migration}
    (hload : loadMigrations entries = .ok migrations)
    (hversions : (migrations.map Migration.version).Nodup) :
    migrations.Pairwise fun a b => a.version < b.version := by
  unfold loadMigrations at hload
  obtain ⟨read, -, rfl⟩ := except_map_eq_ok.mp hload
  have hne : (sortByVersion read).Pairwise fun a b => a.version ≠ b.version :=
    List.pairwise_map.mp hversions
  exact ((sortByVersion_sorted read).and hne).imp fun h => lt_of_le_of_ne h.1 h.2

end Checksums

end Migrations

end BlueLagoon
