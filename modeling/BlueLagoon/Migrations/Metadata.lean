import BlueLagoon.Migrations.Prefixes

/-!
# Normalized metadata

The normalization rewrites the rows of `schema_migrations` before they are validated. A text
has three recorded forms: as it is, and with all its line endings the one or the other. What
the normalization does to a row is decided by the first migration of its version one of whose
recorded forms the row was recorded for.
-/

namespace BlueLagoon.Migrations

/-! ## Line endings -/

/-- The lines of a text, where `\n`, `\r` and `\r\n` end a line. -/
def textLines : List Char → List (List Char)
  | [] => [[]]
  | '\r' :: '\n' :: rest => [] :: textLines rest
  | c :: rest =>
    if c = '\n' ∨ c = '\r' then [] :: textLines rest
    else (textLines rest).modifyHead (c :: ·)

/-- The texts differ in line endings only. -/
def SameLines (sql sql' : String) : Prop := textLines sql.toList = textLines sql'.toList

/-- What the checksum of a text is taken of, on the characters. -/
def normalizedChars (cs : List Char) : List Char :=
  (replaceCrlf cs).map fun c => if c = '\r' then '\n' else c

theorem normalizedChars_not_return (cs : List Char) : '\r' ∉ normalizedChars cs := by
  unfold normalizedChars
  intro hmem
  obtain ⟨c, -, hc⟩ := List.mem_map.mp hmem
  split at hc
  · cases hc
  · contradiction

/-- The lines of a text are what its normalized form has between its line feeds. -/
theorem textLines_eq_splitOn (cs : List Char) :
    textLines cs = (normalizedChars cs).splitOn '\n' := by
  induction cs using textLines.induct with
  | case1 => rfl
  | case2 rest ih =>
    have hcons : normalizedChars ('\r' :: '\n' :: rest) = '\n' :: normalizedChars rest := by
      simp [normalizedChars, replaceCrlf]
    rw [textLines, hcons, ih, List.splitOn_cons_eq_if_modifyHead, if_pos (by decide)]
  | case3 c rest hnot hends ih =>
    have hcons : normalizedChars (c :: rest) = '\n' :: normalizedChars rest := by
      unfold normalizedChars
      rw [replaceCrlf, List.map_cons]
      · rcases hends with rfl | rfl <;> rfl
      · exact hnot
    rw [textLines, if_pos hends, hcons, ih, List.splitOn_cons_eq_if_modifyHead,
      if_pos (by decide)]
    exact hnot
  | case4 c rest hnot hends ih =>
    obtain ⟨hfeed, hreturn⟩ := not_or.mp hends
    have hcons : normalizedChars (c :: rest) = c :: normalizedChars rest := by
      unfold normalizedChars
      rw [replaceCrlf, List.map_cons, if_neg hreturn]
      exact hnot
    rw [textLines, if_neg hends, hcons, ih, List.splitOn_cons_eq_if_modifyHead, if_neg]
    · simpa using hfeed
    · exact hnot

/-- Texts that differ in line endings only are those with the same normalized form. -/
theorem sameLines_iff {sql sql' : String} :
    SameLines sql sql' ↔ normalizeSqlForChecksum sql = normalizeSqlForChecksum sql' := by
  unfold SameLines
  rw [textLines_eq_splitOn, textLines_eq_splitOn]
  constructor
  · intro h
    have hchars := congrArg (List.intercalate ['\n']) h
    rw [List.intercalate_splitOn, List.intercalate_splitOn] at hchars
    exact congrArg String.ofList hchars
  · intro h
    have hchars := congrArg String.toList h
    unfold normalizeSqlForChecksum at hchars
    rw [String.toList_ofList, String.toList_ofList] at hchars
    exact congrArg _ hchars

/-! ### The forms of a text -/

theorem replaceCrlf_eq_self {cs : List Char} (h : '\r' ∉ cs) : replaceCrlf cs = cs := by
  induction cs using replaceCrlf.induct with
  | case1 rest ih => exact absurd List.mem_cons_self h
  | case2 c rest hnot ih =>
    rw [replaceCrlf, ih (fun hmem => h (List.mem_cons_of_mem _ hmem))]
    exact hnot
  | case3 => rfl

theorem normalizedChars_eq_self {cs : List Char} (h : '\r' ∉ cs) : normalizedChars cs = cs := by
  unfold normalizedChars
  rw [replaceCrlf_eq_self h]
  conv_rhs => rw [← List.map_id cs]
  apply List.map_congr_left
  intro c hc
  rw [if_neg]
  · rfl
  · rintro rfl
    exact h hc

/-- Line feeds that were written as `\r\n` are read back. -/
theorem replaceCrlf_flatMap {cs : List Char} (h : '\r' ∉ cs) :
    replaceCrlf (cs.flatMap fun c => if c = '\n' then ['\r', '\n'] else [c]) = cs := by
  induction cs with
  | nil => rfl
  | cons c cs ih =>
    have hrest : '\r' ∉ cs := fun hmem => h (List.mem_cons_of_mem _ hmem)
    rw [List.flatMap_cons]
    by_cases hc : c = '\n'
    · rw [hc, if_pos rfl, List.cons_append, List.cons_append, List.nil_append, replaceCrlf,
        ih hrest]
    · have hne : c ≠ '\r' := by
        rintro rfl
        exact h List.mem_cons_self
      rw [if_neg hc, List.cons_append, List.nil_append, replaceCrlf, ih hrest]
      intro rest hreturn
      exact absurd hreturn hne

theorem toList_normalizeSqlForChecksum (sql : String) :
    (normalizeSqlForChecksum sql).toList = normalizedChars sql.toList := by
  unfold normalizeSqlForChecksum
  rw [String.toList_ofList]
  rfl

/-- A text without `\r` is its own normalized form. -/
theorem normalizeSqlForChecksum_eq_self {sql : String} (h : '\r' ∉ sql.toList) :
    normalizeSqlForChecksum sql = sql := by
  apply String.toList_injective
  rw [toList_normalizeSqlForChecksum, normalizedChars_eq_self h]

theorem normalizeSqlForChecksum_idem (sql : String) :
    normalizeSqlForChecksum (normalizeSqlForChecksum sql) = normalizeSqlForChecksum sql := by
  apply normalizeSqlForChecksum_eq_self
  rw [toList_normalizeSqlForChecksum]
  exact normalizedChars_not_return _

theorem normalizeSqlForChecksum_withCrlf (sql : String) :
    normalizeSqlForChecksum (withCrlf (normalizeSqlForChecksum sql)) =
      normalizeSqlForChecksum sql := by
  have hno : '\r' ∉ (normalizeSqlForChecksum sql).toList := by
    rw [toList_normalizeSqlForChecksum]
    exact normalizedChars_not_return _
  have hread : replaceCrlf (withCrlf (normalizeSqlForChecksum sql)).toList =
      (normalizeSqlForChecksum sql).toList := by
    unfold withCrlf
    rw [String.toList_ofList, replaceCrlf_flatMap hno]
  apply String.toList_injective
  rw [toList_normalizeSqlForChecksum]
  calc normalizedChars (withCrlf (normalizeSqlForChecksum sql)).toList
      = (normalizeSqlForChecksum sql).toList.map fun c => if c = '\r' then '\n' else c := by
        unfold normalizedChars
        rw [hread]
    _ = normalizedChars (normalizeSqlForChecksum sql).toList := by
        unfold normalizedChars
        rw [replaceCrlf_eq_self hno]
    _ = (normalizeSqlForChecksum sql).toList := normalizedChars_eq_self hno

/-- The texts whose digests are accepted for a text: with line feeds, as it is, and with
`\r\n`. -/
def recordedForms (sql : String) : List String :=
  [normalizeSqlForChecksum sql, sql, withCrlf (normalizeSqlForChecksum sql)]

theorem sameLines_of_mem_recordedForms {sql form : String} (h : form ∈ recordedForms sql) :
    SameLines form sql := by
  rw [sameLines_iff]
  unfold recordedForms at h
  rcases List.mem_cons.mp h with rfl | h
  · exact normalizeSqlForChecksum_idem sql
  rcases List.mem_cons.mp h with rfl | h
  · rfl
  · obtain rfl := List.mem_singleton.mp h
    exact normalizeSqlForChecksum_withCrlf sql

/-- A form of a text that differs in line endings only is a form of the text, when the other
text is. -/
theorem recordedForms_subset {sql sql' form : String} (hsame : SameLines sql' sql)
    (hform : sql' ∈ recordedForms sql) (h : form ∈ recordedForms sql') :
    form ∈ recordedForms sql := by
  rw [sameLines_iff] at hsame
  unfold recordedForms at h ⊢
  rw [hsame] at h
  rcases List.mem_cons.mp h with rfl | h
  · exact List.mem_cons_self
  rcases List.mem_cons.mp h with rfl | h
  · exact hform
  · exact List.mem_cons_of_mem _ (List.mem_cons_of_mem _ h)

/-! ## Rows -/

section Rows

variable [Sha256Hex] {discovered : List Migration} {migration other : Migration}
  {row : AppliedMigration}

/-- The `UPDATE` for the migration finds the row. -/
def Concerns (migration : Migration) (row : AppliedMigration) : Prop :=
  row.version = migration.version ∧ row.checksum ∈ compatibleMigrationChecksums migration

instance (migration : Migration) (row : AppliedMigration) : Decidable (Concerns migration row) :=
  inferInstanceAs (Decidable (_ ∧ _))

/-- The migrations have the checksums of their texts. -/
def Checksummed (discovered : List Migration) : Prop :=
  ∀ migration ∈ discovered, migration.checksum = migrationChecksum migration.sql

theorem checksummed_of_load {entries : List DirectoryEntry}
    (hload : loadMigrations entries = .ok discovered) : Checksummed discovered := by
  unfold loadMigrations at hload
  obtain ⟨read, hread, rfl⟩ := except_map_eq_ok.mp hload
  intro migration hmem
  have hmem' := (sortByVersion_perm read).mem_iff.mp hmem
  obtain ⟨i, hi, rfl⟩ := List.getElem_of_mem hmem'
  have hforall := except_mapM_eq_ok.mp hread
  have hentry := List.Forall₂.get hforall (hforall.length_eq ▸ hi) hi
  unfold migrationOf at hentry
  split at hentry
  · cases hentry
  · split at hentry
    · cases hentry
    · have heq := Except.ok.inj hentry
      rw [List.get_eq_getElem] at heq
      rw [← heq]

theorem mem_compatible (h : migration.checksum = migrationChecksum migration.sql)
    {checksum : String} : checksum ∈ compatibleMigrationChecksums migration ↔
      ∃ form ∈ recordedForms migration.sql, Sha256Hex.digest form = checksum := by
  have hforms : compatibleMigrationChecksums migration =
      (recordedForms migration.sql).map Sha256Hex.digest := by
    unfold compatibleMigrationChecksums
    rw [h]
    rfl
  rw [hforms, List.mem_map]

theorem checksum_mem_compatible (migration : Migration) :
    migration.checksum ∈ compatibleMigrationChecksums migration := List.mem_cons_self

theorem checksum_eq_iff (hinjective : Function.Injective Sha256Hex.digest)
    (h : migration.checksum = migrationChecksum migration.sql)
    (h' : other.checksum = migrationChecksum other.sql) :
    other.checksum = migration.checksum ↔ SameLines other.sql migration.sql := by
  rw [h, h', sameLines_iff]
  exact hinjective.eq_iff

/-- A checksum of two migrations was taken of texts that differ in line endings only. -/
theorem sameLines_of_compatible (hinjective : Function.Injective Sha256Hex.digest)
    (h : migration.checksum = migrationChecksum migration.sql)
    (h' : other.checksum = migrationChecksum other.sql) {checksum : String}
    (hmem : checksum ∈ compatibleMigrationChecksums migration)
    (hmem' : checksum ∈ compatibleMigrationChecksums other) :
    SameLines other.sql migration.sql := by
  obtain ⟨form, hform, rfl⟩ := (mem_compatible h).mp hmem
  obtain ⟨form', hform', hdigest⟩ := (mem_compatible h').mp hmem'
  obtain rfl := hinjective hdigest
  exact (sameLines_of_mem_recordedForms hform').symm.trans (sameLines_of_mem_recordedForms hform)

/-! ### One update -/

theorem normalizedRow_of_concerns (h : Concerns migration row) : normalizedRow migration row =
    { row with name := migration.name, checksum := migration.checksum } := by
  unfold normalizedRow
  split
  · rfl
  · rename_i hnot
    have hsame : row.name = migration.name ∧ row.checksum = migration.checksum := by
      by_contra hdiffers
      exact hnot ⟨h.1, h.2, not_and_or.mp hdiffers⟩
    rw [← hsame.1, ← hsame.2]

theorem normalizedRow_of_not_concerns (h : ¬ Concerns migration row) :
    normalizedRow migration row = row := by
  unfold normalizedRow
  exact if_neg fun hchange => h ⟨hchange.1, hchange.2.1⟩

/-! ### All updates -/

/-- The updates of the normalization, on a row. -/
def normalized (discovered : List Migration) (row : AppliedMigration) : AppliedMigration :=
  discovered.foldl (fun row migration => normalizedRow migration row) row

theorem rows_normalizedTable (discovered : List Migration) (table : SchemaMigrations) :
    (normalizedTable discovered table).rows = table.rows.map (normalized discovered) := by
  induction discovered generalizing table with
  | nil => exact (List.map_id _).symm
  | cons migration discovered ih =>
    show (normalizedTable discovered (table.update _ _)).rows = _
    rw [ih]
    show (table.rows.map (normalizedRow migration)).map _ = _
    rw [List.map_map]
    rfl

theorem normalized_of_not_concerns (h : ∀ migration ∈ discovered, ¬ Concerns migration row) :
    normalized discovered row = row := by
  induction discovered with
  | nil => rfl
  | cons migration discovered ih =>
    show normalized discovered (normalizedRow migration row) = row
    rw [normalizedRow_of_not_concerns (h migration List.mem_cons_self)]
    exact ih fun other hother => h other (List.mem_cons_of_mem _ hother)

/-- The name of the last migration of the version with the checksum. -/
def lastName (discovered : List Migration) (version : Int) (checksum name : String) : String :=
  discovered.foldl (fun name migration =>
    if migration.version = version ∧ migration.checksum = checksum then migration.name
    else name) name

omit [Sha256Hex] in
/-- When there is such a migration, the name before does not matter. -/
theorem lastName_eq {version : Int} {checksum : String} (name name' : String)
    (hmem : migration ∈ discovered) (hversion : migration.version = version)
    (hchecksum : migration.checksum = checksum) :
    lastName discovered version checksum name = lastName discovered version checksum name' := by
  obtain ⟨before, after, rfl⟩ := List.append_of_mem hmem
  unfold lastName
  rw [List.foldl_append, List.foldl_append, List.foldl_cons, List.foldl_cons,
    if_pos ⟨hversion, hchecksum⟩, if_pos ⟨hversion, hchecksum⟩]

/-- A row with the checksum of all the migrations that find it gets another name only. -/
theorem normalized_of_settled
    (h : ∀ migration ∈ discovered, Concerns migration row → migration.checksum = row.checksum) :
    normalized discovered row =
      { row with name := lastName discovered row.version row.checksum row.name } := by
  induction discovered generalizing row with
  | nil => rfl
  | cons migration discovered ih =>
    have hrest : ∀ other ∈ discovered, Concerns other row → other.checksum = row.checksum :=
      fun other hother => h other (List.mem_cons_of_mem _ hother)
    show normalized discovered (normalizedRow migration row) = _
    by_cases hconcerns : Concerns migration row
    · have hchecksum := h migration List.mem_cons_self hconcerns
      have hrenamed := @ih { row with name := migration.name } hrest
      rw [normalizedRow_of_concerns hconcerns, hchecksum, hrenamed]
      unfold lastName
      rw [List.foldl_cons, if_pos ⟨hconcerns.1.symm, hchecksum⟩]
    · have hnot : ¬ (migration.version = row.version ∧ migration.checksum = row.checksum) := by
        rintro ⟨hversion, hchecksum⟩
        exact hconcerns ⟨hversion.symm, hchecksum ▸ checksum_mem_compatible migration⟩
      rw [normalizedRow_of_not_concerns hconcerns, ih hrest]
      unfold lastName
      rw [List.foldl_cons, if_neg hnot]

theorem normalized_version (discovered : List Migration) (row : AppliedMigration) :
    (normalized discovered row).version = row.version := by
  induction discovered generalizing row with
  | nil => rfl
  | cons migration discovered ih =>
    show (normalized discovered (normalizedRow migration row)).version = row.version
    rw [ih, normalizedRow_version]

/-- No migration finds the row, or it ends with the checksum of one that does. -/
theorem normalized_cases (hinjective : Function.Injective Sha256Hex.digest)
    (hchecksums : Checksummed discovered) (row : AppliedMigration) :
    (∀ migration ∈ discovered, ¬ Concerns migration row) ∧ normalized discovered row = row ∨
      ∃ migration ∈ discovered, Concerns migration row ∧ normalized discovered row =
        { row with
            name := lastName discovered row.version migration.checksum migration.name
            checksum := migration.checksum } := by
  cases hfind : discovered.find? fun migration => Concerns migration row with
  | none =>
    have hnone : ∀ migration ∈ discovered, ¬ Concerns migration row := by
      intro migration hmem
      have hnot := List.find?_eq_none.mp hfind migration hmem
      simpa using hnot
    exact Or.inl ⟨hnone, normalized_of_not_concerns hnone⟩
  | some migration =>
    obtain ⟨hfound, before, after, rfl, hbefore⟩ := List.find?_eq_some_iff_append.mp hfind
    have hconcerns : Concerns migration row := of_decide_eq_true hfound
    have hmem : migration ∈ before ++ migration :: after := by simp
    refine Or.inr ⟨migration, hmem, hconcerns, ?_⟩
    have hskipped : normalized before row = row := by
      apply normalized_of_not_concerns
      intro earlier hearlier
      simpa using hbefore earlier hearlier
    -- from the first migration that finds the row on, the checksum stays
    have hsettled : ∀ later ∈ after, Concerns later
        { row with name := migration.name, checksum := migration.checksum } →
          later.checksum = migration.checksum := by
      intro later hlater hfinds
      have hmem' : later ∈ before ++ migration :: after := by simp [hlater]
      rw [checksum_eq_iff hinjective (hchecksums _ hmem) (hchecksums _ hmem')]
      exact sameLines_of_compatible hinjective (hchecksums _ hmem) (hchecksums _ hmem')
        (checksum_mem_compatible migration) hfinds.2
    have hlast : lastName (before ++ migration :: after) row.version migration.checksum
        migration.name = lastName after row.version migration.checksum migration.name := by
      unfold lastName
      rw [List.foldl_append, List.foldl_cons, if_pos ⟨hconcerns.1.symm, rfl⟩]
    unfold normalized
    rw [List.foldl_append]
    show normalized (migration :: after) (normalized before row) = _
    rw [hskipped]
    show normalized after (normalizedRow migration row) = _
    rw [normalizedRow_of_concerns hconcerns, normalized_of_settled hsettled, hlast]

theorem normalized_idem (hinjective : Function.Injective Sha256Hex.digest)
    (hchecksums : Checksummed discovered) (row : AppliedMigration) :
    normalized discovered (normalized discovered row) = normalized discovered row := by
  rcases normalized_cases hinjective hchecksums row with ⟨-, hsame⟩ |
    ⟨migration, hmem, hconcerns, hnormalized⟩
  · rw [hsame, hsame]
  · rw [hnormalized]
    rcases normalized_cases hinjective hchecksums
        { row with
            name := lastName discovered row.version migration.checksum migration.name
            checksum := migration.checksum } with ⟨-, hsame⟩ | ⟨again, hmem', hconcerns', hagain⟩
    · exact hsame
    · have hchecksum : again.checksum = migration.checksum := by
        rw [checksum_eq_iff hinjective (hchecksums _ hmem) (hchecksums _ hmem')]
        exact sameLines_of_compatible hinjective (hchecksums _ hmem) (hchecksums _ hmem')
          (checksum_mem_compatible migration) hconcerns'.2
      rw [hagain]
      dsimp only
      rw [hchecksum, lastName_eq again.name migration.name hmem hconcerns.1.symm rfl]

/-! ## The verdict -/

/-- A history is accepted exactly when its rows are those of the first migrations. -/
theorem validateFrom_eq_ok {total index : Nat} {rows : List AppliedMigration} :
    validateFrom total index discovered rows = .ok () ↔
      ∃ done, done <+: discovered ∧ List.Forall₂ Records done rows := by
  constructor
  · intro h
    induction rows generalizing discovered index with
    | nil => exact ⟨[], List.nil_prefix, List.Forall₂.nil⟩
    | cons row rows ih =>
      cases discovered with
      | nil => cases h
      | cons expected discovered =>
        unfold validateFrom at h
        split at h
        · cases h
        rename_i hversion
        split at h
        · cases h
        rename_i hchecksum
        obtain ⟨done, hdone, hrecords⟩ := ih h
        refine ⟨expected :: done, List.cons_prefix_cons.mpr ⟨rfl, hdone⟩, ?_⟩
        exact List.Forall₂.cons ⟨not_not.mp hversion, by simpa using hchecksum⟩ hrecords
  · rintro ⟨done, ⟨rest, rfl⟩, hrecords⟩
    exact validateFrom_ok hrecords index rest

theorem validateAppliedHistory_eq_ok {rows : List AppliedMigration} :
    validateAppliedHistory discovered rows = .ok () ↔
      ∃ done, done <+: discovered ∧ List.Forall₂ Records done rows :=
  validateFrom_eq_ok

/-- Behind the first migration of a version that is reached with different versions, each
migration of this version whose text differs in line endings only has one of the recorded forms
of the first. -/
def Unrivalled (discovered : List Migration) : Prop :=
  ∀ before migration after, discovered = before ++ migration :: after →
    ((before ++ [migration]).map Migration.version).Nodup →
      ∀ other ∈ after, other.version = migration.version → SameLines other.sql migration.sql →
        other.sql ∈ recordedForms migration.sql

/-- The normalization does not decide whether a row is the row of its migration. -/
theorem records_normalized (hinjective : Function.Injective Sha256Hex.digest)
    (hchecksums : Checksummed discovered) (hunrivalled : Unrivalled discovered)
    {done : List Migration} (hdone : done <+: discovered)
    (hversions : (done.map Migration.version).Nodup) (hmem : migration ∈ done)
    (row : AppliedMigration) :
    Records migration (normalized discovered row) ↔ Records migration row := by
  obtain ⟨rest, rfl⟩ := hdone
  obtain ⟨before, after, rfl⟩ := List.append_of_mem hmem
  have hmem' : migration ∈ (before ++ migration :: after) ++ rest := by simp
  rcases normalized_cases hinjective hchecksums row with ⟨-, hsame⟩ |
    ⟨found, hfound, hconcerns, hnormalized⟩
  · rw [hsame]
  have hversion : (normalized ((before ++ migration :: after) ++ rest) row).version =
      row.version := by rw [hnormalized]
  have hchecksum : (normalized ((before ++ migration :: after) ++ rest) row).checksum =
      found.checksum := by rw [hnormalized]
  unfold Records checksumMatchesMigration
  rw [hversion, hchecksum, decide_eq_true_iff, decide_eq_true_iff]
  constructor
  · rintro ⟨hrow, haccepted⟩
    refine ⟨hrow, ?_⟩
    have hsame : SameLines found.sql migration.sql :=
      sameLines_of_compatible hinjective (hchecksums _ hmem') (hchecksums _ hfound) haccepted
        (checksum_mem_compatible found)
    -- the migration that found the row is this one, or one behind it
    have hform : found.sql ∈ recordedForms migration.sql := by
      have hsublist : (before ++ [migration]).Sublist (before ++ migration :: after) :=
        (List.append_sublist_append_left before).mpr
          (List.singleton_sublist.mpr List.mem_cons_self)
      have hprefix : ((before ++ [migration]).map Migration.version).Nodup :=
        List.Nodup.sublist (hsublist.map _) hversions
      have hsplit : before ++ migration :: after ++ rest =
          before ++ migration :: (after ++ rest) := by simp
      rw [hsplit] at hfound
      rcases List.mem_append.mp hfound with hearlier | hlater
      · rw [List.map_append, List.nodup_append] at hprefix
        refine absurd (hconcerns.1.symm.trans hrow) ?_
        exact hprefix.2.2 _ (List.mem_map_of_mem hearlier) _ (by simp)
      · rcases List.mem_cons.mp hlater with rfl | hlater
        · exact List.mem_cons_of_mem _ List.mem_cons_self
        · exact hunrivalled before migration _ hsplit hprefix found hlater
            (hconcerns.1.symm.trans hrow) hsame
    obtain ⟨form, hmemform, hdigest⟩ := (mem_compatible (hchecksums _ hfound)).mp hconcerns.2
    rw [mem_compatible (hchecksums _ hmem')]
    exact ⟨form, recordedForms_subset hsame hform hmemform, hdigest⟩
  · rintro ⟨hrow, haccepted⟩
    refine ⟨hrow, ?_⟩
    have hsame : found.checksum = migration.checksum := by
      rw [checksum_eq_iff hinjective (hchecksums _ hmem') (hchecksums _ hfound)]
      exact sameLines_of_compatible hinjective (hchecksums _ hmem') (hchecksums _ hfound)
        haccepted hconcerns.2
    rw [hsame]
    exact checksum_mem_compatible migration

/-- The normalization keeps the verdict on a table. -/
theorem validateAppliedHistory_normalized (hinjective : Function.Injective Sha256Hex.digest)
    (hchecksums : Checksummed discovered) (hunrivalled : Unrivalled discovered)
    (table : SchemaMigrations) :
    validateAppliedHistory discovered (normalizedTable discovered table).rows = .ok () ↔
      validateAppliedHistory discovered table.rows = .ok () := by
  rw [validateAppliedHistory_eq_ok, validateAppliedHistory_eq_ok, rows_normalizedTable]
  apply exists_congr
  intro done
  refine and_congr_right fun hdone => ?_
  rw [List.forall₂_map_right_iff, List.forall₂_iff_zip, List.forall₂_iff_zip]
  refine and_congr_right fun hlength => ?_
  -- the versions of the rows are different, and so are those of their migrations
  have hnodup : done.map Migration.version = table.rows.map AppliedMigration.version →
      (done.map Migration.version).Nodup := by
    intro heq
    rw [heq]
    exact List.pairwise_map.mpr (table.sorted.imp ne_of_lt)
  have hversions : (∀ {a b}, (a, b) ∈ List.zip done table.rows → b.version = a.version) →
      (done.map Migration.version).Nodup := by
    intro hsame
    apply hnodup
    apply List.ext_getElem
    · rw [List.length_map, List.length_map, hlength]
    · intro i hi hi'
      rw [List.length_map] at hi hi'
      rw [List.getElem_map, List.getElem_map]
      have hpair : (done[i], table.rows[i]) ∈ List.zip done table.rows := by
        rw [List.mem_iff_getElem]
        exact ⟨i, by rw [List.length_zip]; omega, List.getElem_zip⟩
      exact (hsame hpair).symm
  constructor
  · intro h a b hzip
    have hdifferent := hversions fun hpair => (normalized_version _ _).symm.trans (h hpair).1
    exact (records_normalized hinjective hchecksums hunrivalled hdone hdifferent
      (List.of_mem_zip hzip).1 b).mp (h hzip)
  · intro h a b hzip
    have hdifferent := hversions fun hpair => (h hpair).1
    exact (records_normalized hinjective hchecksums hunrivalled hdone hdifferent
      (List.of_mem_zip hzip).1 b).mpr (h hzip)

/-- All the migrations that find a row have the checksum it ends with. -/
theorem normalized_checksum (hinjective : Function.Injective Sha256Hex.digest)
    (hchecksums : Checksummed discovered) (hmem : migration ∈ discovered)
    (hconcerns : Concerns migration row) :
    (normalized discovered row).checksum = migration.checksum := by
  rcases normalized_cases hinjective hchecksums row with ⟨hnone, -⟩ |
    ⟨found, hfound, hfinds, hnormalized⟩
  · exact absurd hconcerns (hnone migration hmem)
  · rw [hnormalized]
    dsimp only
    rw [checksum_eq_iff hinjective (hchecksums _ hmem) (hchecksums _ hfound)]
    exact sameLines_of_compatible hinjective (hchecksums _ hmem) (hchecksums _ hfound)
      hconcerns.2 hfinds.2

/-- The row that was recorded for a migration, with a checksum. -/
def recordedRow (migration : Migration) (checksum : String) : AppliedMigration where
  version := migration.version
  name := migration.name
  checksum := checksum

/-- A table with the rows of the first migrations, the last of them with a checksum of its
own. -/
def recordedTable (before : List Migration) (migration : Migration) (checksum : String)
    (hsorted : (before ++ [migration]).Pairwise fun a b => a.version < b.version) :
    SchemaMigrations where
  rows := (before.map fun other => recordedRow other other.checksum) ++
    [recordedRow migration checksum]
  sorted := by
    have hrows : ((before.map fun other => recordedRow other other.checksum) ++
        [recordedRow migration checksum]).map AppliedMigration.version =
          (before ++ [migration]).map Migration.version := by
      rw [List.map_append, List.map_append, List.map_map]
      rfl
    rw [← List.pairwise_map (f := AppliedMigration.version), hrows]
    exact List.pairwise_map.mpr hsorted

/-- A rival of a migration turns a history that is rejected into one that is accepted. -/
theorem not_verdict_of_rival (hinjective : Function.Injective Sha256Hex.digest)
    (hchecksums : Checksummed discovered)
    (hordered : discovered.Pairwise fun a b => a.version ≤ b.version)
    {before after : List Migration} (hsplit : discovered = before ++ migration :: after)
    (hversions : ((before ++ [migration]).map Migration.version).Nodup) (hother : other ∈ after)
    (hversion : other.version = migration.version)
    (hsame : SameLines other.sql migration.sql)
    (hform : other.sql ∉ recordedForms migration.sql) :
    ∃ table, validateAppliedHistory discovered (normalizedTable discovered table).rows = .ok () ∧
      validateAppliedHistory discovered table.rows ≠ .ok () := by
  have hprefix : before ++ [migration] <+: discovered := ⟨after, by rw [hsplit]; simp⟩
  have hsorted : (before ++ [migration]).Pairwise fun a b => a.version < b.version := by
    have hle := hordered.sublist hprefix.sublist
    exact (hle.and (List.pairwise_map.mp hversions)).imp fun h => lt_of_le_of_ne h.1 h.2
  have hmem : migration ∈ discovered := hprefix.subset (by simp)
  have hmem' : other ∈ discovered := by
    rw [hsplit]
    simp [hother]
  refine ⟨recordedTable before migration (Sha256Hex.digest other.sql) hsorted, ?_, ?_⟩
  · rw [validateAppliedHistory_eq_ok, rows_normalizedTable]
    refine ⟨before ++ [migration], hprefix, ?_⟩
    show List.Forall₂ Records _ (List.map _ (_ ++ _))
    rw [List.map_append, List.map_map, List.map_singleton]
    refine List.rel_append ?_ (List.Forall₂.cons ?_ List.Forall₂.nil)
    · rw [List.forall₂_map_right_iff, List.forall₂_same]
      intro earlier hearlier
      have hdiscovered : earlier ∈ discovered := hprefix.subset (by simp [hearlier])
      have hconcerns : Concerns earlier (recordedRow earlier earlier.checksum) :=
        ⟨rfl, checksum_mem_compatible earlier⟩
      refine ⟨normalized_version _ _, decide_eq_true ?_⟩
      rw [Function.comp_apply,
        normalized_checksum hinjective hchecksums hdiscovered hconcerns]
      exact checksum_mem_compatible earlier
    · have hconcerns : Concerns other
          (recordedRow migration (Sha256Hex.digest other.sql)) := by
        refine ⟨hversion.symm, ?_⟩
        rw [mem_compatible (hchecksums _ hmem')]
        exact ⟨other.sql, List.mem_cons_of_mem _ List.mem_cons_self, rfl⟩
      refine ⟨normalized_version _ _, decide_eq_true ?_⟩
      rw [normalized_checksum hinjective hchecksums hmem' hconcerns,
        (checksum_eq_iff hinjective (hchecksums _ hmem) (hchecksums _ hmem')).mpr hsame]
      exact checksum_mem_compatible migration
  · intro haccepted
    obtain ⟨done, hdone, hrecords⟩ := validateAppliedHistory_eq_ok.mp haccepted
    have hlength : done.length = (before ++ [migration]).length := by
      rw [hrecords.length_eq]
      simp [recordedTable]
    obtain rfl : done = before ++ [migration] :=
      (List.prefix_of_prefix_length_le hdone hprefix hlength.le).eq_of_length hlength
    have hlast := List.forall₂_drop_append _ _ _ hrecords
    rw [List.length_map, List.drop_left] at hlast
    have hrow : Records migration (recordedRow migration (Sha256Hex.digest other.sql)) :=
      (List.forall₂_cons.mp hlast).1
    obtain ⟨form, hmemform, hdigest⟩ :=
      (mem_compatible (hchecksums _ hmem)).mp (of_decide_eq_true hrow.2)
    obtain rfl := hinjective hdigest
    exact hform hmemform

/-! ## What the normalization promises -/

/-- The row has a checksum that was recorded for the text. -/
def RecordedFor (sql : String) (row : AppliedMigration) : Prop :=
  row.checksum = migrationChecksum sql ∨
    ∃ form ∈ recordedForms sql, row.checksum = Sha256Hex.digest form

/-- The normalization for the migrations keeps the verdict, changes nothing when it is done
again, and changes rows of the migrations with a compatible checksum only. What was recorded for
a text in any of its forms is accepted, and what was recorded for another text is not. -/
structure NormalizationKeepsVerdict (discovered : List Migration) : Prop where
  verdict : ∀ table,
    validateAppliedHistory discovered (normalizedTable discovered table).rows = .ok () ↔
      validateAppliedHistory discovered table.rows = .ok ()
  idempotent : ∀ table, normalizedTable discovered (normalizedTable discovered table) =
    normalizedTable discovered table
  changes : ∀ table, List.Forall₂ (fun row row' => row' = row ∨
      row'.version = row.version ∧ ∃ migration ∈ discovered, migration.version = row.version ∧
        row.checksum ∈ compatibleMigrationChecksums migration)
    table.rows (normalizedTable discovered table).rows
  accepted : ∀ (migration : Migration) (row : AppliedMigration),
    migration.checksum = migrationChecksum migration.sql → row.version = migration.version →
      RecordedFor migration.sql row → validateAppliedHistory [migration] [row] = .ok ()
  rejected : ∀ (migration : Migration) (row : AppliedMigration) (sql : String),
    migration.checksum = migrationChecksum migration.sql → ¬ SameLines sql migration.sql →
      RecordedFor sql row → validateAppliedHistory [migration] [row] ≠ .ok ()

theorem recordedFor_iff {sql : String} :
    RecordedFor sql row ↔ ∃ form ∈ recordedForms sql, Sha256Hex.digest form = row.checksum := by
  constructor
  · rintro (hchecksum | ⟨form, hform, hchecksum⟩)
    · exact ⟨_, List.mem_cons_self, hchecksum.symm⟩
    · exact ⟨form, hform, hchecksum.symm⟩
  · rintro ⟨form, hform, hchecksum⟩
    exact Or.inr ⟨form, hform, hchecksum.symm⟩

theorem validate_single : validateAppliedHistory [migration] [row] = .ok () ↔
    Records migration row := by
  rw [validateAppliedHistory_eq_ok]
  constructor
  · rintro ⟨done, hdone, hrecords⟩
    cases hrecords with
    | cons hrow hrest =>
      obtain rfl := (List.cons_prefix_cons.mp hdone).1
      exact hrow
  · intro hrow
    exact ⟨[migration], List.prefix_rfl, List.Forall₂.cons hrow List.Forall₂.nil⟩

theorem normalizedTable_idem (hinjective : Function.Injective Sha256Hex.digest)
    (hchecksums : Checksummed discovered) (table : SchemaMigrations) :
    normalizedTable discovered (normalizedTable discovered table) =
      normalizedTable discovered table := by
  have hrows : (normalizedTable discovered (normalizedTable discovered table)).rows =
      (normalizedTable discovered table).rows := by
    rw [rows_normalizedTable, rows_normalizedTable, List.map_map]
    apply List.map_congr_left
    intro row _
    exact normalized_idem hinjective hchecksums row
  generalize normalizedTable discovered (normalizedTable discovered table) = again at hrows
  generalize normalizedTable discovered table = once at hrows
  obtain ⟨rows, hsorted⟩ := again
  obtain ⟨rows', hsorted'⟩ := once
  obtain rfl : rows = rows' := hrows
  rfl

/-- The normalization for the migrations that were loaded keeps its promises exactly when the
files with the version that several of them share are unrivalled. -/
theorem normalizationKeepsVerdict_iff (hinjective : Function.Injective Sha256Hex.digest)
    (entries : List DirectoryEntry) (discovered : List Migration)
    (hload : loadMigrations entries = .ok discovered) :
    NormalizationKeepsVerdict discovered ↔ Unrivalled discovered := by
  have hchecksums := checksummed_of_load hload
  have hordered : discovered.Pairwise fun a b => a.version ≤ b.version := by
    unfold loadMigrations at hload
    obtain ⟨read, -, rfl⟩ := except_map_eq_ok.mp hload
    exact sortByVersion_sorted read
  constructor
  · intro h before migration after hsplit hversions other hother hversion hsame
    by_contra hform
    obtain ⟨table, haccepted, hrejected⟩ := not_verdict_of_rival hinjective hchecksums hordered
      hsplit hversions hother hversion hsame hform
    exact hrejected ((h.verdict table).mp haccepted)
  · intro hunrivalled
    refine ⟨?_, ?_, ?_, ?_, ?_⟩
    · exact validateAppliedHistory_normalized hinjective hchecksums hunrivalled
    · exact normalizedTable_idem hinjective hchecksums
    · intro table
      rw [rows_normalizedTable, List.forall₂_map_right_iff, List.forall₂_same]
      intro row _
      rcases normalized_cases hinjective hchecksums row with ⟨-, hsame⟩ |
        ⟨migration, hmem, hconcerns, -⟩
      · exact Or.inl hsame
      · exact Or.inr ⟨normalized_version _ _, migration, hmem, hconcerns.1.symm, hconcerns.2⟩
    · intro migration row hchecksum hversion hrecorded
      refine validate_single.mpr ⟨hversion, decide_eq_true ?_⟩
      exact (mem_compatible hchecksum).mpr (recordedFor_iff.mp hrecorded)
    · intro migration row sql hchecksum hdiffers hrecorded haccepted
      obtain ⟨-, hmatches⟩ := validate_single.mp haccepted
      obtain ⟨form, hform, hdigest⟩ :=
        (mem_compatible hchecksum).mp (of_decide_eq_true hmatches)
      obtain ⟨form', hform', hdigest'⟩ := recordedFor_iff.mp hrecorded
      obtain rfl := hinjective (hdigest'.trans hdigest.symm)
      exact hdiffers ((sameLines_of_mem_recordedForms hform').symm.trans
        (sameLines_of_mem_recordedForms hform))

end Rows

/-! ### Files of one version with different line endings -/

/-- SHA-256 on the forms of the text below; what it says of other texts does not matter, as long
as it is different for each of them. -/
@[reducible] def lineSha256 : Sha256Hex where
  digest text :=
    if text = "SELECT 1;\nSELECT 2;\n" then
      "82efb67f3010c6eb7ead02e4f6d9550633dbc1407f99aa487468e7b2567aebbc"
    else if text = "SELECT 1;\nSELECT 2;\r\n" then
      "1ac836bf8c9c5e55ffaa77e5e95f8fa86f7c095b66d6339ad3207201b6066318"
    else if text = "SELECT 1;\r\nSELECT 2;\r\n" then
      "b5c23e54161ef79971fbb59224f4ebdb906e2a200ef2d888aadc2a5d22ece3a2"
    else "sha256 of " ++ text

/-- The text that was digested. -/
def lineText (digest : String) : String :=
  if digest = "82efb67f3010c6eb7ead02e4f6d9550633dbc1407f99aa487468e7b2567aebbc" then
    "SELECT 1;\nSELECT 2;\n"
  else if digest = "1ac836bf8c9c5e55ffaa77e5e95f8fa86f7c095b66d6339ad3207201b6066318" then
    "SELECT 1;\nSELECT 2;\r\n"
  else if digest = "b5c23e54161ef79971fbb59224f4ebdb906e2a200ef2d888aadc2a5d22ece3a2" then
    "SELECT 1;\r\nSELECT 2;\r\n"
  else String.ofList (digest.toList.drop 10)

/-- The sample digest tells texts apart. -/
theorem lineSha256_injective : Function.Injective lineSha256.digest := by
  apply Function.LeftInverse.injective (g := lineText)
  intro text
  change lineText (if text = _ then _ else if text = _ then _ else if text = _ then _ else _) =
    text
  split
  · rename_i h
    rw [h]
    decide
  split
  · rename_i h
    rw [h]
    decide
  split
  · rename_i h
    rw [h]
    decide
  · -- no digest of a listed text starts like the others
    have hother : ∀ (c : Char) (cs : List Char), c ≠ 's' →
        "sha256 of " ++ text ≠ String.ofList (c :: cs) := by
      intro c cs hc heq
      have hchars := congrArg String.toList heq
      rw [String.toList_ofList, String.toList_append] at hchars
      exact hc (List.cons.inj hchars).1.symm
    unfold lineText
    rw [if_neg (hother '8' _ (by decide)), if_neg (hother '1' _ (by decide)),
      if_neg (hother 'b' _ (by decide)), String.toList_append]
    exact String.ofList_toList

/-- The file with line feeds. -/
def feedsFile : DirectoryEntry where
  fileName := "0001__selects.sql"
  contents := .ok "SELECT 1;\nSELECT 2;\n"

/-- The file with a line ending of each kind. -/
def mixedFile (fileName : String) : DirectoryEntry where
  fileName := fileName
  contents := .ok "SELECT 1;\nSELECT 2;\r\n"

/-- The migration of the first file. -/
def feedsMigration : Migration where
  version := 1
  name := "runtime_foundation"
  checksum := "82efb67f3010c6eb7ead02e4f6d9550633dbc1407f99aa487468e7b2567aebbc"
  sql := "SELECT 1;\nSELECT 2;\n"

def mixedMigration (version : Int) (name : String) : Migration where
  version := version
  name := name
  checksum := "82efb67f3010c6eb7ead02e4f6d9550633dbc1407f99aa487468e7b2567aebbc"
  sql := "SELECT 1;\nSELECT 2;\r\n"

/-- With a file for each version the promises are kept. -/
theorem normalizationKeepsVerdict_iff_twoVersions :
    letI := lineSha256
    NormalizationKeepsVerdict [feedsMigration, mixedMigration 2 "foreground_loop"] := by
  let sha256 := lineSha256
  refine (normalizationKeepsVerdict_iff lineSha256_injective
    [feedsFile, mixedFile "0002__selects.sql"] _ (by decide +kernel)).mpr ?_
  intro before migration after hsplit _ other hother hversion
  -- no version comes twice
  have hnodup : ((before ++ migration :: after).map Migration.version).Nodup := by
    rw [← hsplit]
    decide
  rw [List.map_append, List.map_cons] at hnodup
  have hlater := (List.nodup_cons.mp (List.nodup_append.mp hnodup).2.1).1
  exact absurd (hversion ▸ List.mem_map_of_mem hother) hlater

/-- The row of the migration with mixed line endings, recorded with the raw checksum. -/
def mixedTable : SchemaMigrations where
  rows :=
    [{ version := 1, name := "selects"
       checksum := "1ac836bf8c9c5e55ffaa77e5e95f8fa86f7c095b66d6339ad3207201b6066318" }]
  sorted := List.pairwise_singleton _ _

/-- Two files of version 1: the row is rejected, unless it is normalized first. -/
theorem normalization_changes_verdict :
    letI := lineSha256
    loadMigrations [feedsFile, mixedFile "0001__selects_again.sql"] =
        .ok [feedsMigration, mixedMigration 1 "runtime_foundation"] ∧
      ¬ NormalizationKeepsVerdict [feedsMigration, mixedMigration 1 "runtime_foundation"] := by
  let sha256 := lineSha256
  refine ⟨by decide +kernel, fun h => ?_⟩
  have hrejected := (h.verdict mixedTable).mp (by decide +kernel)
  revert hrejected
  decide +kernel

end BlueLagoon.Migrations
