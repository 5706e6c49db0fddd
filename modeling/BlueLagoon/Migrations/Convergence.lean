import BlueLagoon.Migrations.Calls

/-!
# Migrations converge

Any number of calls of `apply_pending_migrations` and `assess_upgrade_path` over one database
and one directory. As long as the versions of the files are different, the rows of
`schema_migrations` stay those of a prefix of the files, whose SQL has taken effect once; a
call that reports success leaves every file applied, and the calls after it have nothing to
do. Where two files share a version, the rows cannot tell them apart, and one of them is
never applied.
-/

namespace BlueLagoon.Migrations

open Interleaving

section Calls

variable [Sha256Hex] [MigrationSql] {ι : Type} {directory : List DirectoryEntry}
  {migrations : List Migration} {env : Surroundings}

/-! ## Pools of calls -/

inductive Call
  | apply
  | assess (policy : SchemaPolicy)

inductive Report
  | applied (summary : MigrationSummary)
  | assessed (answer : SchemaUpgradeAssessment)
  deriving DecidableEq, Repr

def Call.program : Call → Prog system Report
  | .apply => do
    let summary ← applyPendingMigrations
    pure (.applied summary)
  | .assess policy => do
    let answer ← assessUpgradePath policy
    pure (.assessed answer)

/-- The calls before any of them has started. -/
def start (calls : ι → Call) (db : MigrationDatabase) :
    Config system fun _ : ι => Report where
  threads i := (calls i).program
  shared := { state := db }

/-- What a call establishes, from the moment it starts. -/
def Outcome (migrations : List Migration) (env : Surroundings) :
    Call → Shared system ι → Protocol.Post system ι Report
  | .apply, v, .ok (.applied summary), w => Applied migrations env v (.ok summary) w
  | .apply, _, .ok (.assessed _), _ => False
  | .apply, v, .error f, w => Applied migrations env v (.error f) w
  | .assess policy, v, .ok (.assessed answer), w => Assessed migrations env policy v (.ok answer) w
  | .assess _, _, .ok (.applied _), _ => False
  | .assess policy, v, .error f, w => Assessed migrations env policy v (.error f) w

theorem wp_program (hothers : env.others = true ∨ Subsingleton ι)
    (hload : loadMigrations directory = .ok migrations)
    (hversions : (migrations.map Migration.version).Nodup) (call : Call) (v : Shared system ι) :
    (protocol ι directory migrations env).wp i call.program (Outcome migrations env call v) v := by
  cases call with
  | apply =>
    rw [Call.program, Prog.bind_eq, Protocol.wp_bind]
    apply Protocol.wp_mono _ (wp_applyPendingMigrations hothers hload hversions v)
    intro result w h
    cases result with
    | ok summary => exact h
    | error f => exact h
  | assess policy =>
    rw [Call.program, Prog.bind_eq, Protocol.wp_bind]
    apply Protocol.wp_mono _ (wp_assessUpgradePath hload hversions policy v)
    intro result w h
    cases result with
    | ok answer => exact h
    | error f => exact h

/-- What a call reports that has started when everything was applied. -/
def Settled (migrations : List Migration) : Report → Prop
  | .applied summary => summary.appliedVersions = []
  | .assessed answer => answer.compatibility = .supported (latestVersion migrations)

/-- What holds at every moment: the rows are those of a prefix of the files, whose SQL has
taken effect once; a call that has returned has left every file applied; and a call that
starts after that has nothing to do, finds the schema supported, and fails only where the
surroundings do. -/
structure Converged [DecidableEq ι] (directory : List DirectoryEntry)
    (migrations : List Migration) (calls : ι → Call) (c : Config system fun _ : ι => Report) :
    Prop where
  prefixed : Prefixed migrations c.shared.state
  once : ∀ migration ∈ migrations, c.shared.state.executed.count migration =
    if rowPresent c.shared.state migration.version then 1 else 0
  complete : ∀ i summary, c.threads i = .ret (.applied summary) →
    c.shared.state.executed = migrations
  settled : ∀ i summary, c.threads i = .ret (.applied summary) →
    ∀ j c', c.threads j = (calls j).program →
      Config.Reachable (answers directory true) c c' →
      (∀ report, c'.threads j = .ret report → Settled migrations report) ∧
        ∀ f, c'.threads j = .fail f → f.fault = true

/-- Calls among other calls, where anything can fail. -/
def crowd : Surroundings where
  others := true
  faults := true

section Reachable

variable [DecidableEq ι] {calls : ι → Call} {db : MigrationDatabase}
  {c : Config system fun _ : ι => Report}

theorem kept_reachable (hload : loadMigrations directory = .ok migrations)
    (hversions : (migrations.map Migration.version).Nodup) (hdb : Prefixed migrations db)
    (hreach : Config.Reachable (answers directory true) (start calls db) c) :
    (protocol ι directory migrations crowd).Kept
      (fun i => Outcome migrations crowd (calls i) { state := db }) c := by
  apply Protocol.Kept.reachable _ hreach
  apply Protocol.kept_of_wp
  · exact hdb
  · intro i
    exact wp_program (Or.inl rfl) hload hversions (calls i) _

theorem executed_of_applied (hload : loadMigrations directory = .ok migrations)
    (hversions : (migrations.map Migration.version).Nodup) (hdb : Prefixed migrations db)
    (hreach : Config.Reachable (answers directory true) (start calls db) c) {i : ι}
    {summary : MigrationSummary} (hi : c.threads i = .ret (.applied summary)) :
    c.shared.state.executed = migrations := by
  have hkept := kept_reachable hload hversions hdb hreach
  have hended : c.threads i = Prog.ofExcept (.ok (.applied summary)) := hi
  obtain ⟨v, hrely, houtcome⟩ := hkept.finished hended
  have hlength : migrations.length ≤ v.state.executed.length := by
    revert houtcome
    cases calls i with
    | apply => exact fun h => h.1
    | assess policy => exact False.elim
  exact hkept.1.executed.eq_of_length_le (hlength.trans hrely.executed)

/-- A call that starts when everything is applied. -/
theorem settled_of_executed (hload : loadMigrations directory = .ok migrations)
    (hversions : (migrations.map Migration.version).Nodup) (hne : migrations ≠ [])
    (hpolicies : ∀ i policy, calls i = .assess policy →
      policy.expectedVersion = latestVersion migrations ∧
        policy.minimumSupportedVersion ≤ latestVersion migrations)
    (hdb : Prefixed migrations db)
    (hreach : Config.Reachable (answers directory true) (start calls db) c)
    (hall : c.shared.state.executed = migrations) {j : ι}
    (hj : c.threads j = (calls j).program) {c' : Config system fun _ : ι => Report}
    (hreach' : Config.Reachable (answers directory true) c c') {result : Except MigrationFailure Report}
    (hresult : c'.threads j = .ofExcept result) :
    match result with
    | .ok report => Settled migrations report
    | .error f => f.fault = true := by
  have hkept := kept_reachable hload hversions hdb hreach
  -- from here on the call is one that starts now, and the others are as they were
  have hnow : (protocol ι directory migrations crowd).Kept
      (fun k r w => k = j → Outcome migrations crowd (calls j) c.shared r w) c := by
    refine ⟨hkept.1, fun k => ?_⟩
    by_cases hk : k = j
    · subst hk
      refine ⟨c.shared, Later.refl _, ?_⟩
      rw [hj]
      exact Protocol.wp_mono (fun _ _ h _ => h)
        (wp_program (Or.inl rfl) hload hversions (calls k) c.shared)
    · obtain ⟨v, hrely, hwp⟩ := hkept.2 k
      exact ⟨v, hrely, Protocol.wp_mono (fun _ _ _ hsame => absurd hsame hk) hwp⟩
  obtain ⟨w, -, houtcome⟩ := (hnow.reachable hreach').finished hresult
  have hend := houtcome rfl
  revert hend
  cases hcall : calls j with
  | apply =>
    cases result with
    | error f =>
      rintro (hfault | ⟨hlt, -⟩)
      · exact hfault.2
      · rw [hall] at hlt
        exact absurd hlt (lt_irrefl _)
    | ok report =>
      cases report with
      | assessed answer => exact False.elim
      | applied summary =>
        rintro ⟨-, -, k, hk, heq⟩
        show summary.appliedVersions = []
        rw [hall] at hk
        rw [heq, List.drop_eq_nil_of_le hk, List.map_nil]
  | assess policy =>
    obtain ⟨hexpected, hminimum⟩ := hpolicies j policy hcall
    cases result with
    | error f => exact fun hfault => hfault.2
    | ok report =>
      cases report with
      | applied summary => exact False.elim
      | assessed answer =>
        rintro ⟨done, history, hstart, hlength, hhistory, rfl⟩
        rw [hall] at hlength
        obtain rfl := hstart.eq_of_length_le hlength
        exact supported_of_recorded hne hexpected hminimum hhistory

/-- Files with different versions are applied once each, in order, whatever the calls and
wherever they stop. -/
theorem migrations_converge (hload : loadMigrations directory = .ok migrations)
    (hversions : (migrations.map Migration.version).Nodup) (hne : migrations ≠ [])
    (hpolicies : ∀ i policy, calls i = .assess policy →
      policy.expectedVersion = latestVersion migrations ∧
        policy.minimumSupportedVersion ≤ latestVersion migrations)
    (hdb : Prefixed migrations db)
    (hreach : Config.Reachable (answers directory true) (start calls db) c) :
    Converged directory migrations calls c where
  prefixed := (kept_reachable hload hversions hdb hreach).1
  once _ hmem := count_executed (kept_reachable hload hversions hdb hreach).1 hversions hmem
  complete _ _ hi := executed_of_applied hload hversions hdb hreach hi
  settled _ _ hi _ _ hj hreach' := by
    have hall := executed_of_applied hload hversions hdb hreach hi
    constructor
    · intro report hreport
      have hended : _ = Prog.ofExcept (.ok report) := hreport
      exact settled_of_executed hload hversions hne hpolicies hdb hreach hall hj hreach' hended
    · intro f hf
      have hended : _ = Prog.ofExcept (.error f) := hf
      exact settled_of_executed hload hversions hne hpolicies hdb hreach hall hj hreach' hended

end Reachable

/-- A call on its own, where nothing fails. -/
def lone : Surroundings where
  others := false
  faults := false

/-- A call on its own, where nothing fails, applies every file. -/
theorem applyPendingMigrations_succeeds (hload : loadMigrations directory = .ok migrations)
    (hversions : (migrations.map Migration.version).Nodup) (hsql : SqlSucceeds migrations)
    {db : MigrationDatabase} (hdb : Prefixed migrations db) {o : Oracle system}
    (ho : ∀ n q, answers directory false q (o n q)) (n : Nat) :
    ∃ summary, (applyPendingMigrations.run o n db).result = .ok summary ∧
      (applyPendingMigrations.run o n db).state.executed = migrations := by
  have hwp : (protocol Unit directory migrations lone).wp () applyPendingMigrations
      (Applied migrations lone { state := db }) { state := db } :=
    wp_applyPendingMigrations (Or.inr inferInstance) hload hversions { state := db }
  obtain ⟨hinv, hend⟩ := Protocol.run_of_wp (P := protocol Unit directory migrations lone) ho n
    { state := db } hdb hwp
  revert hend
  cases hresult : (applyPendingMigrations.run o n db).result with
  | ok summary =>
    intro hend
    refine ⟨summary, rfl, ?_⟩
    exact hinv.executed.eq_of_length_le hend.1
  | error f =>
    intro hend
    rcases hend with hfault | ⟨-, hcrowd | hfails⟩
    · cases hfault.1
    · cases hcrowd
    · exact absurd hsql hfails

end Calls

/-! ## Two files of one version -/

/-- SHA-256 on the two texts below. -/
@[reducible] def sampleSha256 : Sha256Hex where
  digest text :=
    if text = "CREATE TABLE accounts ();" then
      "1e450ebebb73cd3390922b660c0dd7e79fd58e6608eda0dac12568ebe29d92cc"
    else if text = "CREATE TABLE ledger ();" then
      "5f6475198393d7e0591e9c7f85510bbbc4d4043e1bb0cd0081ee6b501b4834d7"
    else text

/-- A table can be created once. -/
@[reducible] def sampleSql : MigrationSql where
  failure before text := if text ∈ before then some "relation already exists" else none
  rename _ row := row.name

def accountsFile : DirectoryEntry where
  fileName := "0001__accounts.sql"
  contents := .ok "CREATE TABLE accounts ();"

def ledgerFile : DirectoryEntry where
  fileName := "0001__ledger.sql"
  contents := .ok "CREATE TABLE ledger ();"

def nextLedgerFile : DirectoryEntry := { ledgerFile with fileName := "0002__ledger.sql" }

def freshDatabase : MigrationDatabase where
  schemaMigrations := none
  executed := []

theorem prefixed_freshDatabase [Sha256Hex] (migrations : List Migration) :
    Prefixed migrations freshDatabase where
  executed := List.nil_prefix
  absent _ := rfl
  recorded _ h := absurd h (Option.some_ne_none _).symm

/-- Surroundings in which nothing fails. -/
def reading (directory : List DirectoryEntry) : Oracle system := fun _ q =>
  match q with
  | .statement => Except.ok ()
  | .readDirectory => Except.ok directory

theorem answers_reading (directory : List DirectoryEntry) (n : Nat) (q : system.Query) :
    answers directory true q (reading directory n q) := by
  cases q with
  | statement => exact Or.inl rfl
  | readDirectory =>
    refine ⟨Or.inl rfl, fun entries h => ?_⟩
    rw [← Except.ok.inj h]

/-- The migration of a file. -/
def accounts : Migration where
  version := 1
  name := "runtime_foundation"
  checksum := "1e450ebebb73cd3390922b660c0dd7e79fd58e6608eda0dac12568ebe29d92cc"
  sql := "CREATE TABLE accounts ();"

def ledger (version : Int) (name : String) : Migration where
  version := version
  name := name
  checksum := "5f6475198393d7e0591e9c7f85510bbbc4d4043e1bb0cd0081ee6b501b4834d7"
  sql := "CREATE TABLE ledger ();"

/-- One call and another one. -/
def twoCalls : Bool → Call := fun _ => .apply

/-- A call of the pool runs from start to end, with nobody in between. -/
def runCall (directory : List DirectoryEntry) (i : Bool)
    (c : Config system fun _ : Bool => Report) : Config system fun _ : Bool => Report :=
  c.advance i
    (Prog.ofExcept ((c.threads i).run (reading directory) 0 c.shared.state).result)
    (c.shared.push i ((c.threads i).run (reading directory) 0 c.shared.state).state
      ((c.threads i).run (reading directory) 0 c.shared.state).events)

/-- The two calls, one after the other. -/
def bothCalls [Sha256Hex] [MigrationSql] (directory : List DirectoryEntry) :
    Config system fun _ : Bool => Report :=
  runCall directory true (runCall directory false (start twoCalls freshDatabase))

theorem reachable_bothCalls [Sha256Hex] [MigrationSql] (directory : List DirectoryEntry) :
    Config.Reachable (answers directory true) (start twoCalls freshDatabase)
      (bothCalls directory) :=
  (Config.reachable_run (answers_reading directory) false _ 0 _ rfl).trans
    (Config.reachable_run (answers_reading directory) true _ 0 _ rfl)

/-- With a file for each version, both are applied. -/
theorem migrations_converge_bothCalls :
    letI := sampleSha256
    letI := sampleSql
    Converged [accountsFile, nextLedgerFile] [accounts, ledger 2 "foreground_loop"] twoCalls
      (bothCalls [accountsFile, nextLedgerFile]) := by
  let sha256 := sampleSha256
  let sql := sampleSql
  exact migrations_converge (by decide +kernel) (by decide +kernel) (by decide)
    (fun i policy h => Call.noConfusion h) (prefixed_freshDatabase _) (reachable_bothCalls _)

/-- Two files of one version: the first call applies one of them and fails, and the next one
reports success without the other. -/
theorem sharedVersion_not_converged :
    letI := sampleSha256
    letI := sampleSql
    loadMigrations [accountsFile, ledgerFile] =
        .ok [accounts, ledger 1 "runtime_foundation"] ∧
      Prefixed [accounts, ledger 1 "runtime_foundation"] freshDatabase ∧
      Config.Reachable (answers [accountsFile, ledgerFile] true) (start twoCalls freshDatabase)
        (bothCalls [accountsFile, ledgerFile]) ∧
      ¬ Converged [accountsFile, ledgerFile] [accounts, ledger 1 "runtime_foundation"] twoCalls
        (bothCalls [accountsFile, ledgerFile]) := by
  let sha256 := sampleSha256
  let sql := sampleSql
  refine ⟨by decide +kernel, prefixed_freshDatabase _, reachable_bothCalls _, fun h => ?_⟩
  have hreport : (bothCalls [accountsFile, ledgerFile]).threads true =
      .ret (.applied { discoveredVersions := [1, 1], appliedVersions := [] }) :=
    Prog.ended_eq_some.mp (by decide +kernel)
  have hall := h.complete true _ hreport
  revert hall
  decide +kernel

end BlueLagoon.Migrations
