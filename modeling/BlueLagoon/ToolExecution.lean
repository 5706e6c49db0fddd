import BlueLagoon.Config
import BlueLagoon.TextSet
import BlueLagoon.UnixPath

/-!
# Subprocesses

A subprocess runs in a directory of the workspace, with the roots its scope names, no network
and the variables it may see. All of this is resolved and checked before the process is spawned.
-/

namespace BlueLagoon.ToolExecution

/-- What the harness process runs on: the canonical path of an absolute path (`realpath`) and
the values of its own environment variables (`env::var`), or the message of the failure. -/
structure Host where
  canonical : UnixPath → Except String UnixPath
  var : String → Except String String
  /-- A canonical path is absolute. -/
  isAbsolute_of_canonical : ∀ {path real}, canonical path = .ok real → real.isAbsolute

/-- `tokio::process::Command`, with a cleared environment. -/
structure Command where
  program : String
  args : List String
  currentDir : UnixPath
  environment : List (String × String) := []
  deriving DecidableEq, Repr

/-- `Command::env`. -/
def Command.env (name value : String) (command : Command) : Command :=
  { command with
    environment := command.environment.filter (fun entry => entry.1 ≠ name) ++ [(name, value)] }

/-! ## The code -/

/-- `with_context`. -/
def withContext {α : Type} (message : String) (result : Except ErrorChain α) :
    Except ErrorChain α :=
  result.mapError (message :: ·)

/-- `ensure_within_workspace`. -/
def ensureWithinWorkspace (workspaceRoot candidate : UnixPath) : Except ErrorChain Unit :=
  if candidate.startsWith workspaceRoot then .ok ()
  else
    .error [s!"resolved path '{candidate}' escapes the configured workspace root '{workspaceRoot}'"]

/-- `ensure_within_allowed_roots`. -/
def ensureWithinAllowedRoots (candidate : UnixPath) (allowedRoots : List UnixPath) :
    Except ErrorChain Unit :=
  if allowedRoots.any fun root => candidate.startsWith root then .ok ()
  else .error [s!"resolved path '{candidate}' falls outside the governed-action filesystem scope"]

/-- The roots a scope asks for: trimmed, in order and each once, without the blank ones. -/
def requestedRoots (scope : CapabilityScope) : List String :=
  Text.collect (((scope.filesystem.readRoots ++ scope.filesystem.writeRoots).map Text.trim).filter
    (· ≠ ""))

/-- `bootstrap_environment_variables`, on Unix. -/
def bootstrapEnvironmentVariables : List String := ["PATH", "HOME", "TMPDIR", "TMP"]

section Code

variable (host : Host) (currentDir : UnixPath)

/-- `Path::canonicalize`, in a process with a current directory. -/
def canonicalize (path : UnixPath) : Except ErrorChain UnixPath :=
  (host.canonical (currentDir.join path)).mapError ([·])

/-- `canonical_workspace_root`. -/
def canonicalWorkspaceRoot (config : RuntimeConfig) : Except ErrorChain UnixPath :=
  withContext "failed to resolve configured workspace.root_dir"
    (canonicalize host currentDir config.workspace.rootDir)

/-- `canonicalize_scoped_path`. -/
def canonicalizeScopedPath (workspaceRoot : UnixPath) (value : String) :
    Except ErrorChain UnixPath :=
  let candidate : UnixPath := value
  let absolute := if candidate.isAbsolute then candidate else workspaceRoot.join candidate
  withContext s!"path '{absolute}' must exist before execution"
    (canonicalize host currentDir absolute)

/-- The loop of `resolve_allowed_roots`, for one root. -/
def resolveRoot (workspaceRoot : UnixPath) (root : String) : Except ErrorChain UnixPath := do
  let candidate ← withContext s!"failed to resolve governed-action filesystem root '{root}'"
    (canonicalizeScopedPath host currentDir workspaceRoot root)
  ensureWithinWorkspace workspaceRoot candidate
  pure candidate

/-- `resolve_allowed_roots`. -/
def resolveAllowedRoots (config : RuntimeConfig) (scope : CapabilityScope) :
    Except ErrorChain (List UnixPath) := do
  let workspaceRoot ← canonicalWorkspaceRoot host currentDir config
  (requestedRoots scope).mapM (resolveRoot host currentDir workspaceRoot)

/-- The directory an action asks for, or else the workspace root. -/
def requestedDirectory (workspaceRoot : UnixPath) (action : SubprocessAction) :
    Except ErrorChain UnixPath :=
  match action.workingDirectory with
  | some path =>
    withContext s!"failed to resolve governed-action working directory '{path}'"
      (canonicalizeScopedPath host currentDir workspaceRoot path)
  | none => .ok workspaceRoot

/-- `resolve_working_directory`. -/
def resolveWorkingDirectory (config : RuntimeConfig) (action : SubprocessAction)
    (allowedRoots : List UnixPath) : Except ErrorChain UnixPath := do
  let workspaceRoot ← canonicalWorkspaceRoot host currentDir config
  let workingDirectory ← requestedDirectory host currentDir workspaceRoot action
  ensureWithinWorkspace workspaceRoot workingDirectory
  ensureWithinAllowedRoots workingDirectory allowedRoots
  pure workingDirectory

/-- `resolve_executable_path`. A command of one component is left to the search path. -/
def resolveExecutablePath (action : SubprocessAction) (allowedRoots : List UnixPath) :
    Except ErrorChain (Option UnixPath) :=
  let commandPath : UnixPath := action.command
  if commandPath.components.drop 1 = [] ∧ ¬ commandPath.isAbsolute then .ok none
  else do
    let resolved ← withContext
      s!"failed to resolve governed-action command path '{action.command}'"
      (canonicalize host currentDir commandPath)
    ensureWithinAllowedRoots resolved allowedRoots
    pure (some resolved)

/-- `apply_bootstrap_environment`. -/
def applyBootstrapEnvironment (command : Command) : Command :=
  bootstrapEnvironmentVariables.foldl
    (fun command name =>
      match host.var name with
      | .ok value => command.env name value
      | .error _ => command) command

/-- The loop of `apply_scoped_environment`. -/
def applyVariables : List String → Command → Except ErrorChain Command
  | [], command => .ok command
  | name :: names, command => do
    let value ← withContext
      s!"governed action requested environment variable '{name}', but it is not set"
      ((host.var name).mapError ([·]))
    applyVariables names (command.env name value)

/-- `apply_scoped_environment`. -/
def applyScopedEnvironment (command : Command) (scope : CapabilityScope) :
    Except ErrorChain Command :=
  applyVariables host scope.environment.allowVariables command

/-- The first checks of `execute_bounded_subprocess`: the allowed roots and the working
directory. -/
def resolveScope (config : RuntimeConfig) (scope : CapabilityScope) (action : SubprocessAction) :
    Except ErrorChain (List UnixPath × UnixPath) := do
  if scope.network ≠ .disabled then
    throw ["the first governed-action backend does not support network-enabled execution"]
  let allowedRoots ← resolveAllowedRoots host currentDir config scope
  if allowedRoots = [] then
    throw ["bounded subprocess execution requires at least one resolved filesystem root"]
  let workingDirectory ← resolveWorkingDirectory host currentDir config action allowedRoots
  pure (allowedRoots, workingDirectory)

/-- The command for a program, with its arguments, its directory and its environment. -/
def commandFor (scope : CapabilityScope) (action : SubprocessAction)
    (workingDirectory : UnixPath) (program : String) : Except ErrorChain Command :=
  let command : Command :=
    { program := program
      args := action.args
      currentDir := workingDirectory }
  applyScopedEnvironment host (applyBootstrapEnvironment host command) scope

/-- The rest of `execute_bounded_subprocess` up to `spawn`: the command that is spawned. -/
def scopedCommand (scope : CapabilityScope) (action : SubprocessAction)
    (allowedRoots : List UnixPath) (workingDirectory : UnixPath) : Except ErrorChain Command := do
  let executablePath ← resolveExecutablePath host currentDir action allowedRoots
  commandFor host scope action workingDirectory (executablePath.getD action.command)

/-- `execute_bounded_subprocess`, up to `spawn`: the command that is spawned. -/
def executeBoundedSubprocess (config : RuntimeConfig) (scope : CapabilityScope)
    (action : SubprocessAction) : Except ErrorChain Command := do
  let (allowedRoots, workingDirectory) ← resolveScope host currentDir config scope action
  scopedCommand host currentDir scope action allowedRoots workingDirectory

end Code

/-! ## What a scope allows -/

section Scope

variable (host : Host) (root : UnixPath) (scope : CapabilityScope) (action : SubprocessAction)

/-- A root the scope asks for, trimmed and not blank, and its canonical path in the workspace. -/
def AllowedRoot (real : UnixPath) : Prop :=
  ∃ given ∈ scope.filesystem.readRoots ++ scope.filesystem.writeRoots, Text.trim given ≠ "" ∧
    host.canonical (root.join (Text.trim given)) = .ok real ∧ real.startsWith root

/-- Inside of one of the allowed roots. -/
def InScope (path : UnixPath) : Prop :=
  ∃ real, AllowedRoot host root scope real ∧ path.startsWith real

/-- The directory the action asks for. -/
def IsWorkingDirectory (dir : UnixPath) : Prop :=
  match action.workingDirectory with
  | some path => host.canonical (root.join path) = .ok dir
  | none => dir = root

/-- A command that is no bare name: it is absolute or has more than one component. -/
def NamesPath (command : UnixPath) : Prop :=
  command.isAbsolute ∨ 1 < command.components.length

/-- The scope and the directory of a request are in order. -/
structure Admitted : Prop where
  network : scope.network = .disabled
  some_root : ∃ given ∈ scope.filesystem.readRoots ++ scope.filesystem.writeRoots,
    Text.trim given ≠ ""
  roots : ∀ given ∈ scope.filesystem.readRoots ++ scope.filesystem.writeRoots,
    Text.trim given ≠ "" →
      ∃ real, host.canonical (root.join (Text.trim given)) = .ok real ∧ real.startsWith root
  directory : ∃ dir, IsWorkingDirectory host root action dir ∧ dir.startsWith root ∧
    InScope host root scope dir

/-- A command that is confined to a workspace and a scope. -/
structure Confined (command : Command) : Prop where
  network : scope.network = .disabled
  directory_canonical : ∃ path, host.canonical path = .ok command.currentDir
  directory_workspace : command.currentDir.startsWith root
  directory_scope : InScope host root scope command.currentDir
  program : NamesPath action.command →
    (∃ base : UnixPath, host.canonical (base.join action.command) = .ok command.program) ∧
      InScope host root scope command.program
  environment : ∀ entry ∈ command.environment,
    entry.1 ∈ bootstrapEnvironmentVariables ∨ entry.1 ∈ scope.environment.allowVariables

end Scope

/-! ## The checks -/

theorem withContext_eq_ok {α : Type} {message : String} {result : Except ErrorChain α} {a : α} :
    withContext message result = .ok a ↔ result = .ok a := by
  cases result with
  | ok a' => rfl
  | error e => exact iff_of_false (fun h => by cases h) (fun h => by cases h)

theorem ensureWithinWorkspace_eq_ok {workspaceRoot candidate : UnixPath} {u : Unit} :
    ensureWithinWorkspace workspaceRoot candidate = .ok u ↔
      candidate.startsWith workspaceRoot := by
  unfold ensureWithinWorkspace
  split
  · next hin => exact iff_of_true rfl hin
  · next hout => exact iff_of_false (fun h => by cases h) hout

theorem ensureWithinAllowedRoots_eq_ok {candidate : UnixPath} {allowedRoots : List UnixPath}
    {u : Unit} : ensureWithinAllowedRoots candidate allowedRoots = .ok u ↔
      ∃ root ∈ allowedRoots, candidate.startsWith root := by
  unfold ensureWithinAllowedRoots
  rw [← List.any_eq_true]
  split
  · next hin => exact iff_of_true rfl hin
  · next hout => exact iff_of_false (fun h => by cases h) hout

theorem mem_requestedRoots {scope : CapabilityScope} {value : String} :
    value ∈ requestedRoots scope ↔
      ∃ given ∈ scope.filesystem.readRoots ++ scope.filesystem.writeRoots,
        Text.trim given ≠ "" ∧ Text.trim given = value := by
  rw [requestedRoots, Text.mem_collect, List.mem_filter, List.mem_map]
  constructor
  · rintro ⟨⟨given, hgiven, rfl⟩, hne⟩
    exact ⟨given, hgiven, of_decide_eq_true hne, rfl⟩
  · rintro ⟨given, hgiven, hne, rfl⟩
    exact ⟨⟨given, hgiven, rfl⟩, decide_eq_true hne⟩

section Checks

variable {host : Host} {currentDir root real dir : UnixPath} {config : RuntimeConfig}
  {scope : CapabilityScope} {action : SubprocessAction} {allowedRoots : List UnixPath}

theorem canonicalize_eq_ok {path : UnixPath} :
    canonicalize host currentDir path = .ok real ↔
      host.canonical (currentDir.join path) = .ok real := by
  unfold canonicalize
  cases host.canonical (currentDir.join path) with
  | ok other => exact ⟨fun h => congrArg Except.ok (Except.ok.inj h),
      fun h => congrArg Except.ok (Except.ok.inj h)⟩
  | error e => exact iff_of_false (fun h => by cases h) (fun h => by cases h)

theorem canonicalWorkspaceRoot_eq_ok : canonicalWorkspaceRoot host currentDir config = .ok root ↔
    host.canonical (currentDir.join config.workspace.rootDir) = .ok root := by
  rw [canonicalWorkspaceRoot, withContext_eq_ok, canonicalize_eq_ok]

theorem isAbsolute_workspaceRoot
    (hroot : canonicalWorkspaceRoot host currentDir config = .ok root) : root.isAbsolute :=
  host.isAbsolute_of_canonical (canonicalWorkspaceRoot_eq_ok.mp hroot)

/-- From an absolute workspace root on, the current directory is not looked at. -/
theorem canonicalizeScopedPath_eq (hroot : root.isAbsolute) (value : String) :
    canonicalizeScopedPath host currentDir root value =
      withContext s!"path '{root.join value}' must exist before execution"
        ((host.canonical (root.join value)).mapError ([·])) := by
  have habsolute : (if UnixPath.isAbsolute value then value else root.join value) =
      root.join value := by
    split
    · next hvalue => exact (UnixPath.join_of_isAbsolute hvalue root).symm
    · rfl
  unfold canonicalizeScopedPath
  dsimp only
  rw [habsolute, canonicalize,
    UnixPath.join_of_isAbsolute (UnixPath.isAbsolute_join hroot value)]

theorem canonicalizeScopedPath_eq_ok (hroot : root.isAbsolute) {value : String} :
    canonicalizeScopedPath host currentDir root value = .ok real ↔
      host.canonical (root.join value) = .ok real := by
  rw [canonicalizeScopedPath_eq hroot, withContext_eq_ok]
  have hself : UnixPath.join root (root.join value) = root.join value :=
    UnixPath.join_of_isAbsolute (UnixPath.isAbsolute_join hroot value) root
  rw [← hself]
  exact canonicalize_eq_ok

theorem resolveRoot_eq_ok (hroot : root.isAbsolute) {value : String} :
    resolveRoot host currentDir root value = .ok real ↔
      host.canonical (root.join value) = .ok real ∧ real.startsWith root := by
  unfold resolveRoot
  rw [except_bind_eq_ok]
  constructor
  · rintro ⟨candidate, hcandidate, hrest⟩
    obtain ⟨_, hwithin, hreal⟩ := except_bind_eq_ok.mp hrest
    obtain rfl := Except.ok.inj hreal
    rw [withContext_eq_ok, canonicalizeScopedPath_eq_ok hroot] at hcandidate
    exact ⟨hcandidate, ensureWithinWorkspace_eq_ok.mp hwithin⟩
  · rintro ⟨hcanonical, hwithin⟩
    refine ⟨real, ?_, ?_⟩
    · rw [withContext_eq_ok, canonicalizeScopedPath_eq_ok hroot]
      exact hcanonical
    · rw [except_bind_eq_ok]
      exact ⟨(), ensureWithinWorkspace_eq_ok.mpr hwithin, rfl⟩

theorem resolveAllowedRoots_eq (hroot : canonicalWorkspaceRoot host currentDir config = .ok root) :
    resolveAllowedRoots host currentDir config scope =
      (requestedRoots scope).mapM (resolveRoot host currentDir root) := by
  unfold resolveAllowedRoots
  rw [hroot]
  rfl

/-- The resolved roots are the ones the scope allows. -/
theorem mem_allowedRoots (hroot : canonicalWorkspaceRoot host currentDir config = .ok root)
    (h : resolveAllowedRoots host currentDir config scope = .ok allowedRoots) :
    real ∈ allowedRoots ↔ AllowedRoot host root scope real := by
  have habsolute := isAbsolute_workspaceRoot hroot
  rw [resolveAllowedRoots_eq hroot] at h
  rw [mem_of_except_mapM h]
  constructor
  · rintro ⟨value, hvalue, hresolve⟩
    obtain ⟨given, hgiven, hne, rfl⟩ := mem_requestedRoots.mp hvalue
    exact ⟨given, hgiven, hne, (resolveRoot_eq_ok habsolute).mp hresolve⟩
  · rintro ⟨given, hgiven, hne, hreal⟩
    exact ⟨Text.trim given, mem_requestedRoots.mpr ⟨given, hgiven, hne, rfl⟩,
      (resolveRoot_eq_ok habsolute).mpr hreal⟩

theorem exists_allowedRoots (hroot : canonicalWorkspaceRoot host currentDir config = .ok root) :
    (∃ allowedRoots, resolveAllowedRoots host currentDir config scope = .ok allowedRoots) ↔
      ∀ given ∈ scope.filesystem.readRoots ++ scope.filesystem.writeRoots,
        Text.trim given ≠ "" →
          ∃ real, host.canonical (root.join (Text.trim given)) = .ok real ∧
            real.startsWith root := by
  have habsolute := isAbsolute_workspaceRoot hroot
  rw [resolveAllowedRoots_eq hroot, exists_except_mapM]
  simp only [resolveRoot_eq_ok habsolute]
  constructor
  · intro h given hgiven hne
    exact h _ (mem_requestedRoots.mpr ⟨given, hgiven, hne, rfl⟩)
  · intro h value hvalue
    obtain ⟨given, hgiven, hne, rfl⟩ := mem_requestedRoots.mp hvalue
    exact h given hgiven hne

theorem requestedDirectory_eq_ok (hroot : root.isAbsolute) :
    requestedDirectory host currentDir root action = .ok dir ↔
      IsWorkingDirectory host root action dir := by
  unfold requestedDirectory IsWorkingDirectory
  cases action.workingDirectory with
  | some path => exact withContext_eq_ok.trans (canonicalizeScopedPath_eq_ok hroot)
  | none => exact ⟨fun h => (Except.ok.inj h).symm, fun h => congrArg Except.ok h.symm⟩

theorem resolveWorkingDirectory_eq
    (hroot : canonicalWorkspaceRoot host currentDir config = .ok root) :
    resolveWorkingDirectory host currentDir config action allowedRoots = (do
      let workingDirectory ← requestedDirectory host currentDir root action
      ensureWithinWorkspace root workingDirectory
      ensureWithinAllowedRoots workingDirectory allowedRoots
      pure workingDirectory) := by
  unfold resolveWorkingDirectory
  rw [hroot]
  rfl

theorem resolveWorkingDirectory_eq_ok
    (hroot : canonicalWorkspaceRoot host currentDir config = .ok root) :
    resolveWorkingDirectory host currentDir config action allowedRoots = .ok dir ↔
      IsWorkingDirectory host root action dir ∧ dir.startsWith root ∧
        ∃ allowed ∈ allowedRoots, dir.startsWith allowed := by
  have habsolute := isAbsolute_workspaceRoot hroot
  rw [resolveWorkingDirectory_eq hroot, except_bind_eq_ok]
  constructor
  · rintro ⟨asked, hasked, hrest⟩
    obtain ⟨_, hworkspace, hrest⟩ := except_bind_eq_ok.mp hrest
    obtain ⟨_, hallowed, hreal⟩ := except_bind_eq_ok.mp hrest
    obtain rfl := Except.ok.inj hreal
    exact ⟨(requestedDirectory_eq_ok habsolute).mp hasked,
      ensureWithinWorkspace_eq_ok.mp hworkspace, ensureWithinAllowedRoots_eq_ok.mp hallowed⟩
  · rintro ⟨hasked, hworkspace, hallowed⟩
    refine ⟨dir, (requestedDirectory_eq_ok habsolute).mpr hasked, ?_⟩
    rw [except_bind_eq_ok]
    refine ⟨(), ensureWithinWorkspace_eq_ok.mpr hworkspace, ?_⟩
    rw [except_bind_eq_ok]
    exact ⟨(), ensureWithinAllowedRoots_eq_ok.mpr hallowed, rfl⟩

theorem isCanonical_workingDirectory
    (hroot : canonicalWorkspaceRoot host currentDir config = .ok root)
    (h : IsWorkingDirectory host root action dir) : ∃ path, host.canonical path = .ok dir := by
  unfold IsWorkingDirectory at h
  split at h
  · exact ⟨_, h⟩
  · rw [h]
    exact ⟨_, canonicalWorkspaceRoot_eq_ok.mp hroot⟩

/-- What the first checks let through. -/
theorem resolveScope_eq_ok
    (hroot : canonicalWorkspaceRoot host currentDir config = .ok root) :
    resolveScope host currentDir config scope action = .ok (allowedRoots, dir) ↔
      scope.network = .disabled ∧
      resolveAllowedRoots host currentDir config scope = .ok allowedRoots ∧
      allowedRoots ≠ [] ∧ IsWorkingDirectory host root action dir ∧ dir.startsWith root ∧
      ∃ allowed ∈ allowedRoots, dir.startsWith allowed := by
  unfold resolveScope
  by_cases hnetwork : scope.network = .disabled
  · rw [if_neg (not_not.mpr hnetwork)]
    refine except_bind_eq_ok.trans ?_
    constructor
    · rintro ⟨roots, hroots, hrest⟩
      by_cases hnil : roots = []
      · rw [if_pos hnil] at hrest
        cases hrest
      · rw [if_neg hnil] at hrest
        obtain ⟨wd, hwd, hpair⟩ := except_bind_eq_ok.mp hrest
        obtain ⟨rfl, rfl⟩ := Prod.mk.inj (Except.ok.inj hpair)
        exact ⟨hnetwork, hroots, hnil, (resolveWorkingDirectory_eq_ok hroot).mp hwd⟩
    · rintro ⟨-, hroots, hne, hwd⟩
      refine ⟨allowedRoots, hroots, ?_⟩
      rw [if_neg hne]
      exact except_bind_eq_ok.mpr ⟨dir, (resolveWorkingDirectory_eq_ok hroot).mpr hwd, rfl⟩
  · rw [if_pos hnetwork]
    exact iff_of_false (fun h => by cases h) fun h => hnetwork h.1

/-- Without a workspace root nothing is let through. -/
theorem exists_workspaceRoot {places : List UnixPath × UnixPath}
    (h : resolveScope host currentDir config scope action = .ok places) :
    ∃ root, canonicalWorkspaceRoot host currentDir config = .ok root := by
  unfold resolveScope at h
  split at h
  · cases h
  · obtain ⟨_, hroots, -⟩ := except_bind_eq_ok.mp h
    obtain ⟨root, hroot, -⟩ := except_bind_eq_ok.mp hroots
    exact ⟨root, hroot⟩

theorem inScope_iff (hroot : canonicalWorkspaceRoot host currentDir config = .ok root)
    (h : resolveAllowedRoots host currentDir config scope = .ok allowedRoots) {path : UnixPath} :
    (∃ allowed ∈ allowedRoots, path.startsWith allowed) ↔ InScope host root scope path := by
  simp only [mem_allowedRoots hroot h, InScope]

/-- The first checks let exactly the admitted requests through. -/
theorem exists_resolveScope
    (hroot : canonicalWorkspaceRoot host currentDir config = .ok root) :
    (∃ places, resolveScope host currentDir config scope action = .ok places) ↔
      Admitted host root scope action := by
  constructor
  · rintro ⟨⟨allowedRoots, dir⟩, h⟩
    obtain ⟨hnetwork, hroots, hne, hasked, hworkspace, hallowed⟩ := (resolveScope_eq_ok hroot).mp h
    have hall := (exists_allowedRoots hroot).mp ⟨allowedRoots, hroots⟩
    obtain ⟨real, hreal⟩ := List.exists_mem_of_ne_nil allowedRoots hne
    obtain ⟨given, hgiven, hgivenNe, -⟩ := (mem_allowedRoots hroot hroots).mp hreal
    exact ⟨hnetwork, ⟨given, hgiven, hgivenNe⟩, hall,
      ⟨dir, hasked, hworkspace, (inScope_iff hroot hroots).mp hallowed⟩⟩
  · rintro ⟨hnetwork, ⟨given, hgiven, hgivenNe⟩, hall, ⟨dir, hasked, hworkspace, hscope⟩⟩
    obtain ⟨allowedRoots, hroots⟩ := (exists_allowedRoots hroot).mpr hall
    obtain ⟨real, hreal⟩ := hall given hgiven hgivenNe
    have hmem := (mem_allowedRoots hroot hroots).mpr ⟨given, hgiven, hgivenNe, hreal⟩
    exact ⟨(allowedRoots, dir), (resolveScope_eq_ok hroot).mpr ⟨hnetwork, hroots,
      List.ne_nil_of_mem hmem, hasked, hworkspace, (inScope_iff hroot hroots).mpr hscope⟩⟩

end Checks

/-! ## The environment -/

section Environment

variable {host : Host} {command command' : Command} {entry : String × String}

theorem mem_env {name value : String} (h : entry ∈ (command.env name value).environment) :
    entry ∈ command.environment ∨ entry.1 = name := by
  rcases List.mem_append.mp h with hold | hnew
  · exact Or.inl (List.mem_filter.mp hold).1
  · rw [List.mem_singleton.mp hnew]
    exact Or.inr rfl

theorem mem_env_or {name value : String} {names : List String}
    (h : entry ∈ (command.env name value).environment ∨ entry.1 ∈ names) :
    entry ∈ command.environment ∨ entry.1 ∈ name :: names := by
  rcases h with hearlier | hlater
  · rcases mem_env hearlier with hold | hnew
    · exact Or.inl hold
    · rw [hnew]
      exact Or.inr List.mem_cons_self
  · exact Or.inr (List.mem_cons_of_mem name hlater)

theorem applyVariables_eq_ok {names : List String}
    (h : applyVariables host names command = .ok command') :
    command'.program = command.program ∧ command'.currentDir = command.currentDir ∧
      ∀ entry ∈ command'.environment, entry ∈ command.environment ∨ entry.1 ∈ names := by
  induction names generalizing command with
  | nil =>
    obtain rfl := Except.ok.inj h
    exact ⟨rfl, rfl, fun entry hentry => Or.inl hentry⟩
  | cons name names ih =>
    obtain ⟨value, -, hrest⟩ := except_bind_eq_ok.mp h
    obtain ⟨hprogram, hdir, hmem⟩ := ih hrest
    exact ⟨hprogram, hdir, fun entry hentry => mem_env_or (hmem entry hentry)⟩

/-- Whether the variables are set does not depend on the command. -/
theorem applyVariables_total {names : List String}
    (hset : ∀ name ∈ names, ∃ value, host.var name = .ok value) (command : Command) :
    ∃ command', applyVariables host names command = .ok command' := by
  induction names generalizing command with
  | nil => exact ⟨command, rfl⟩
  | cons name names ih =>
    obtain ⟨⟨value, hvalue⟩, hrest⟩ := List.forall_mem_cons.mp hset
    obtain ⟨command', h⟩ := ih hrest (command.env name value)
    refine ⟨command', except_bind_eq_ok.mpr ⟨value, ?_, h⟩⟩
    rw [hvalue]
    rfl

/-- A variable that is not set is what a request is refused for, whatever the command. -/
theorem applyVariables_unset {names : List String}
    (hunset : ¬ ∀ name ∈ names, ∃ value, host.var name = .ok value) :
    ∃ name cause : String, ∀ command, applyVariables host names command = .error
      [s!"governed action requested environment variable '{name}', but it is not set", cause] := by
  induction names with
  | nil => exact absurd (fun name hname => absurd hname List.not_mem_nil) hunset
  | cons name names ih =>
    cases hvar : host.var name with
    | error cause =>
      refine ⟨name, cause, fun command => ?_⟩
      rw [applyVariables, hvar]
      rfl
    | ok value =>
      have hrest : ¬ ∀ name ∈ names, ∃ value, host.var name = .ok value := fun hset =>
        hunset (List.forall_mem_cons.mpr ⟨⟨value, hvar⟩, hset⟩)
      obtain ⟨unset, cause, h⟩ := ih hrest
      refine ⟨unset, cause, fun command => ?_⟩
      rw [applyVariables, hvar]
      exact h (command.env name value)

variable (host) in
theorem applyBootstrapEnvironment_eq (command : Command) :
    (applyBootstrapEnvironment host command).program = command.program ∧
    (applyBootstrapEnvironment host command).currentDir = command.currentDir ∧
      ∀ entry ∈ (applyBootstrapEnvironment host command).environment,
        entry ∈ command.environment ∨ entry.1 ∈ bootstrapEnvironmentVariables := by
  unfold applyBootstrapEnvironment
  generalize bootstrapEnvironmentVariables = names
  induction names generalizing command with
  | nil => exact ⟨rfl, rfl, fun entry hentry => Or.inl hentry⟩
  | cons name names ih =>
    rw [List.foldl_cons]
    split
    · next value _ =>
      obtain ⟨hprogram, hdir, hmem⟩ := ih (command.env name value)
      exact ⟨hprogram, hdir, fun entry hentry => mem_env_or (hmem entry hentry)⟩
    · obtain ⟨hprogram, hdir, hmem⟩ := ih command
      exact ⟨hprogram, hdir, fun entry hentry =>
        (hmem entry hentry).imp_right (List.mem_cons_of_mem name)⟩

variable (host) in
/-- The variables the scope asks for are set. -/
def VariablesSet (scope : CapabilityScope) : Prop :=
  ∀ name ∈ scope.environment.allowVariables, ∃ value, host.var name = .ok value

variable {scope : CapabilityScope} {action : SubprocessAction} {dir : UnixPath}
  {program : String}

theorem commandFor_eq_ok (h : commandFor host scope action dir program = .ok command) :
    command.program = program ∧ command.currentDir = dir ∧ ∀ entry ∈ command.environment,
      entry.1 ∈ bootstrapEnvironmentVariables ∨ entry.1 ∈ scope.environment.allowVariables := by
  obtain ⟨hprogram, hdir, hmem⟩ := applyVariables_eq_ok h
  obtain ⟨hprogram', hdir', hmem'⟩ := applyBootstrapEnvironment_eq host
    { program := program, args := action.args, currentDir := dir }
  refine ⟨hprogram.trans hprogram', hdir.trans hdir', fun entry hentry => ?_⟩
  rcases hmem entry hentry with hearlier | hallowed
  · rcases hmem' entry hearlier with hnone | hbootstrap
    · cases hnone
    · exact Or.inl hbootstrap
  · exact Or.inr hallowed

variable (action dir) in
theorem commandFor_total (hset : VariablesSet host scope) (program : String) :
    ∃ command, commandFor host scope action dir program = .ok command :=
  applyVariables_total hset _

variable (action dir) in
theorem commandFor_unset (hunset : ¬ VariablesSet host scope) :
    ∃ name cause : String, ∀ program, commandFor host scope action dir program = .error
      [s!"governed action requested environment variable '{name}', but it is not set",
        cause] := by
  obtain ⟨name, cause, h⟩ := applyVariables_unset hunset
  exact ⟨name, cause, fun program => h _⟩

end Environment

/-! ## The command -/

section Spawn

variable {host : Host} {currentDir root base dir : UnixPath} {config : RuntimeConfig}
  {scope : CapabilityScope} {action : SubprocessAction} {allowedRoots : List UnixPath}
  {command : Command}

theorem resolveExecutablePath_bare (h : ¬ NamesPath action.command) :
    resolveExecutablePath host base action allowedRoots = .ok none := by
  obtain ⟨hrelative, hshort⟩ := not_or.mp h
  unfold resolveExecutablePath
  exact if_pos ⟨List.drop_eq_nil_iff.mpr (Nat.le_of_not_lt hshort), hrelative⟩

variable (base dir) in
/-- What becomes of a command that names a path, by what the path is resolved to. -/
theorem scopedCommand_cases (h : NamesPath action.command)
    (hroots : ∀ path : UnixPath, (∃ allowed ∈ allowedRoots, path.startsWith allowed) ↔
      InScope host root scope path) :
    (∃ cause, host.canonical (base.join action.command) = .error cause ∧
      scopedCommand host base scope action allowedRoots dir = .error
        [s!"failed to resolve governed-action command path '{action.command}'", cause]) ∨
    (∃ real, host.canonical (base.join action.command) = .ok real ∧
      InScope host root scope real ∧
      scopedCommand host base scope action allowedRoots dir =
        commandFor host scope action dir real) ∨
    (∃ real, host.canonical (base.join action.command) = .ok real ∧
      ¬ InScope host root scope real ∧
      scopedCommand host base scope action allowedRoots dir = .error
        [s!"resolved path '{real}' falls outside the governed-action filesystem scope"]) := by
  have hpath : ¬ ((UnixPath.components action.command).drop 1 = [] ∧
      ¬ UnixPath.isAbsolute action.command) := by
    rintro ⟨hshort, hrelative⟩
    rcases h with habsolute | hlong
    · exact hrelative habsolute
    · exact absurd (List.drop_eq_nil_iff.mp hshort) (Nat.not_le_of_lt hlong)
  unfold scopedCommand resolveExecutablePath
  rw [if_neg hpath, canonicalize]
  cases hcanonical : host.canonical (base.join action.command) with
  | error cause => exact Or.inl ⟨cause, rfl, rfl⟩
  | ok real =>
    refine Or.inr ?_
    by_cases hin : ∃ allowed ∈ allowedRoots, real.startsWith allowed
    · refine Or.inl ⟨real, rfl, (hroots real).mp hin, ?_⟩
      have hensure := (ensureWithinAllowedRoots_eq_ok (u := ())).mpr hin
      simp only [withContext, Except.mapError, bind, Except.bind, hensure]
      rfl
    · refine Or.inr ⟨real, rfl, fun hscope => hin ((hroots real).mpr hscope), ?_⟩
      have hany : ¬ (allowedRoots.any fun root => real.startsWith root) = true := fun h =>
        hin (List.any_eq_true.mp h)
      simp only [withContext, Except.mapError, bind, Except.bind, ensureWithinAllowedRoots]
      rw [if_neg hany]

theorem scopedCommand_inScope (h : NamesPath action.command)
    (hroots : ∀ path : UnixPath, (∃ allowed ∈ allowedRoots, path.startsWith allowed) ↔
      InScope host root scope path) {real : UnixPath}
    (hreal : host.canonical (base.join action.command) = .ok real)
    (hin : InScope host root scope real) :
    scopedCommand host base scope action allowedRoots dir =
      commandFor host scope action dir real := by
  rcases scopedCommand_cases base dir h hroots with
    ⟨cause, herror, -⟩ | ⟨other, hother, -, hresult⟩ | ⟨other, hother, hout, -⟩
  · rw [hreal] at herror
    cases herror
  · obtain rfl := Except.ok.inj (hreal.symm.trans hother)
    exact hresult
  · obtain rfl := Except.ok.inj (hreal.symm.trans hother)
    exact absurd hin hout

theorem unresolved_ne_unset (command name : String) :
    s!"failed to resolve governed-action command path '{command}'" ≠
      s!"governed action requested environment variable '{name}', but it is not set" := by
  intro h
  have hhead := congrArg (fun message => message.toList.head?) h
  simp [String.toList_append, toString] at hhead

theorem outside_injective {real other : String}
    (h : s!"resolved path '{real}' falls outside the governed-action filesystem scope" =
      s!"resolved path '{other}' falls outside the governed-action filesystem scope") :
    real = other := by
  apply String.toList_injective
  have hchars := congrArg String.toList h
  simpa [String.toList_append, toString] using hchars

/-- A program, a command that cannot be resolved and one outside of the roots are told apart. -/
theorem commandFor_ne_error {program : String} {messages : List String}
    (h : commandFor host scope action dir program = .error messages) :
    ¬ VariablesSet host scope ∧ ∃ name cause : String, messages =
      [s!"governed action requested environment variable '{name}', but it is not set",
        cause] := by
  have hunset : ¬ VariablesSet host scope := by
    intro hset
    obtain ⟨command, hcommand⟩ := commandFor_total action dir hset program
    rw [hcommand] at h
    cases h
  obtain ⟨name, cause, hunsetError⟩ := commandFor_unset action dir hunset
  exact ⟨hunset, name, cause, Except.error.inj (h.symm.trans (hunsetError program))⟩

/-- From two directories, the command comes to the same only when it is the same file from both,
or when it is refused for its variables in any case. -/
theorem scopedCommand_eq_iff (h : NamesPath action.command)
    (hroots : ∀ path : UnixPath, (∃ allowed ∈ allowedRoots, path.startsWith allowed) ↔
      InScope host root scope path) (base base' : UnixPath) :
    scopedCommand host base scope action allowedRoots dir =
        scopedCommand host base' scope action allowedRoots dir ↔
      host.canonical (base.join action.command) = host.canonical (base'.join action.command) ∨
      ¬ VariablesSet host scope ∧ ∃ real real',
        host.canonical (base.join action.command) = .ok real ∧ InScope host root scope real ∧
        host.canonical (base'.join action.command) = .ok real' ∧
        InScope host root scope real' := by
  have hunresolved : ∀ {program : String} {cause : String},
      commandFor host scope action dir program ≠ .error
        [s!"failed to resolve governed-action command path '{action.command}'", cause] := by
    intro program cause herror
    obtain ⟨-, name, cause', hmessages⟩ := commandFor_ne_error herror
    exact unresolved_ne_unset _ _ (List.cons.inj hmessages).1
  have houtside : ∀ {program message : String},
      commandFor host scope action dir program ≠ .error [message] := by
    intro program message herror
    obtain ⟨-, name, cause', hmessages⟩ := commandFor_ne_error herror
    cases (List.cons.inj hmessages).2
  constructor
  · intro hsame
    rcases scopedCommand_cases base dir h hroots with
      ⟨cause, hreal, hresult⟩ | ⟨real, hreal, hin, hresult⟩ | ⟨real, hreal, -, hresult⟩ <;>
    rcases scopedCommand_cases base' dir h hroots with
      ⟨cause', hreal', hresult'⟩ | ⟨real', hreal', hin', hresult'⟩ | ⟨real', hreal', -, hresult'⟩ <;>
    rw [hresult, hresult'] at hsame <;> rw [hreal, hreal']
    · left
      obtain ⟨-, hcauses⟩ := List.cons.inj (Except.error.inj hsame)
      rw [(List.cons.inj hcauses).1]
    · exact absurd hsame.symm hunresolved
    · cases (List.cons.inj (Except.error.inj hsame)).2
    · exact absurd hsame hunresolved
    · by_cases hset : VariablesSet host scope
      · left
        obtain ⟨command, hcommand⟩ := commandFor_total action dir hset real
        have hprogram := (commandFor_eq_ok hcommand).1
        rw [← hprogram, (commandFor_eq_ok (hsame ▸ hcommand)).1]
      · exact Or.inr ⟨hset, real, real', rfl, hin, rfl, hin'⟩
    · exact absurd hsame houtside
    · cases (List.cons.inj (Except.error.inj hsame)).2
    · exact absurd hsame.symm houtside
    · left
      rw [outside_injective (List.cons.inj (Except.error.inj hsame)).1]
  · rintro (hsame | ⟨hunset, real, real', hreal, hin, hreal', hin'⟩)
    · unfold scopedCommand resolveExecutablePath canonicalize
      dsimp only
      rw [hsame]
    · obtain ⟨name, cause, hrefused⟩ := commandFor_unset action dir hunset
      rw [scopedCommand_inScope h hroots hreal hin, scopedCommand_inScope h hroots hreal' hin',
        hrefused, hrefused]

/-- Of a process that is spawned, the program is inside of the roots if the command names a
path. -/
theorem scopedCommand_eq_ok
    (hroots : ∀ path : UnixPath, (∃ allowed ∈ allowedRoots, path.startsWith allowed) ↔
      InScope host root scope path)
    (hspawn : scopedCommand host base scope action allowedRoots dir = .ok command) :
    (NamesPath action.command → host.canonical (base.join action.command) = .ok command.program ∧
      InScope host root scope command.program) ∧
    command.currentDir = dir ∧ ∀ entry ∈ command.environment,
      entry.1 ∈ bootstrapEnvironmentVariables ∨ entry.1 ∈ scope.environment.allowVariables := by
  refine ⟨fun h => ?_, ?_⟩
  · rcases scopedCommand_cases base dir h hroots with
      ⟨cause, -, hresult⟩ | ⟨real, hreal, hin, hresult⟩ | ⟨real, -, -, hresult⟩
    · rw [hspawn] at hresult
      cases hresult
    · obtain ⟨rfl, -⟩ := commandFor_eq_ok (hresult.symm.trans hspawn)
      exact ⟨hreal, hin⟩
    · rw [hspawn] at hresult
      cases hresult
  · obtain ⟨executablePath, -, hcommand⟩ := except_bind_eq_ok.mp hspawn
    exact (commandFor_eq_ok hcommand).2

/-- Whatever is spawned is confined. -/
theorem execute_confined
    (hspawn : executeBoundedSubprocess host currentDir config scope action = .ok command) :
    ∃ root, canonicalWorkspaceRoot host currentDir config = .ok root ∧
      Confined host root scope action command := by
  obtain ⟨⟨allowedRoots, dir⟩, hscope, hspawn⟩ := except_bind_eq_ok.mp hspawn
  obtain ⟨root, hroot⟩ := exists_workspaceRoot hscope
  obtain ⟨hnetwork, hroots, -, hasked, hworkspace, hallowed⟩ := (resolveScope_eq_ok hroot).mp hscope
  obtain ⟨hprogram, rfl, henvironment⟩ :=
    scopedCommand_eq_ok (fun path => inScope_iff hroot hroots) hspawn
  refine ⟨root, hroot, ?_⟩
  exact
    { network := hnetwork
      directory_canonical := isCanonical_workingDirectory hroot hasked
      directory_workspace := hworkspace
      directory_scope := (inScope_iff hroot hroots).mp hallowed
      program := fun h => ⟨⟨currentDir, (hprogram h).1⟩, (hprogram h).2⟩
      environment := henvironment }

/-- The first checks do not look at the current directory, once the workspace root is known. -/
theorem resolveScope_congr {currentDir' : UnixPath}
    (hroot : canonicalWorkspaceRoot host currentDir config = .ok root)
    (hroot' : canonicalWorkspaceRoot host currentDir' config = .ok root) :
    resolveScope host currentDir config scope action =
      resolveScope host currentDir' config scope action := by
  have hscoped : canonicalizeScopedPath host currentDir root =
      canonicalizeScopedPath host currentDir' root := by
    funext value
    rw [canonicalizeScopedPath_eq (isAbsolute_workspaceRoot hroot),
      canonicalizeScopedPath_eq (isAbsolute_workspaceRoot hroot)]
  have hresolve : resolveRoot host currentDir root = resolveRoot host currentDir' root := by
    funext value
    rw [resolveRoot, resolveRoot, hscoped]
  have hrequested : requestedDirectory host currentDir root action =
      requestedDirectory host currentDir' root action := by
    unfold requestedDirectory
    rw [hscoped]
  have hdirectory : resolveWorkingDirectory host currentDir config action =
      resolveWorkingDirectory host currentDir' config action := by
    funext allowedRoots
    rw [resolveWorkingDirectory_eq hroot, resolveWorkingDirectory_eq hroot', hrequested]
  rw [resolveScope, resolveScope, resolveAllowedRoots_eq hroot, resolveAllowedRoots_eq hroot',
    hresolve, hdirectory]

end Spawn

/-! ## The same base for every path -/

section Base

variable (host : Host) (currentDir root : UnixPath) (config : RuntimeConfig)
  (scope : CapabilityScope) (action : SubprocessAction)

/-- The same request with the command resolved, like every other path of the action, from the
workspace root. -/
def executeAgainstRoot : Except ErrorChain Command := do
  let (allowedRoots, workingDirectory) ← resolveScope host currentDir config scope action
  scopedCommand host root scope action allowedRoots workingDirectory

/-- What is spawned is confined, every relative path of the action is resolved against the
workspace root, and with the same workspace root the current directory makes no difference. -/
structure Bounded : Prop where
  confined : ∀ currentDir command,
    executeBoundedSubprocess host currentDir config scope action = .ok command →
      ∃ root, canonicalWorkspaceRoot host currentDir config = .ok root ∧
        Confined host root scope action command
  same_base : ∀ currentDir root, canonicalWorkspaceRoot host currentDir config = .ok root →
    executeBoundedSubprocess host currentDir config scope action =
      executeAgainstRoot host currentDir root config scope action
  independent : ∀ currentDir currentDir' root,
    canonicalWorkspaceRoot host currentDir config = .ok root →
    canonicalWorkspaceRoot host currentDir' config = .ok root →
    executeBoundedSubprocess host currentDir config scope action =
      executeBoundedSubprocess host currentDir' config scope action

/-- A relative command of more than one component, in a request that is otherwise in order, is
resolved from the current directory as from the workspace root; or a variable is not set, and it
is inside of the roots from both. -/
def CommandFixed : Prop :=
  ¬ UnixPath.isAbsolute action.command → 1 < (UnixPath.components action.command).length →
    Admitted host root scope action →
      host.canonical (currentDir.join action.command) =
        host.canonical (root.join action.command) ∨
      ¬ VariablesSet host scope ∧ ∃ real real',
        host.canonical (currentDir.join action.command) = .ok real ∧
        InScope host root scope real ∧
        host.canonical (root.join action.command) = .ok real' ∧ InScope host root scope real'

variable {host currentDir root config scope action}

/-- Whether a command is resolved from the current directory or from the workspace root makes no
difference exactly if it is fixed. -/
theorem execute_eq_executeAgainstRoot_iff
    (hroot : canonicalWorkspaceRoot host currentDir config = .ok root) :
    executeBoundedSubprocess host currentDir config scope action =
        executeAgainstRoot host currentDir root config scope action ↔
      CommandFixed host currentDir root scope action := by
  unfold executeBoundedSubprocess executeAgainstRoot CommandFixed
  cases hscope : resolveScope host currentDir config scope action with
  | error messages =>
    refine iff_of_true rfl fun _ _ hadmitted => ?_
    obtain ⟨places, hplaces⟩ := (exists_resolveScope hroot).mpr hadmitted
    rw [hscope] at hplaces
    cases hplaces
  | ok places =>
    obtain ⟨allowedRoots, dir⟩ := places
    have hadmitted := (exists_resolveScope hroot).mp ⟨_, hscope⟩
    have hroots := (resolveScope_eq_ok hroot).mp hscope
    by_cases hnames : NamesPath action.command
    · refine (scopedCommand_eq_iff hnames (fun path => inScope_iff hroot hroots.2.1) _ _).trans ?_
      by_cases habsolute : UnixPath.isAbsolute action.command
      · refine iff_of_true (Or.inl ?_) fun hrelative => absurd habsolute hrelative
        rw [UnixPath.join_of_isAbsolute habsolute, UnixPath.join_of_isAbsolute habsolute]
      · have hlong := hnames.resolve_left habsolute
        exact ⟨fun h _ _ _ => h, fun h => h habsolute hlong hadmitted⟩
    · obtain ⟨-, hshort⟩ := not_or.mp hnames
      refine iff_of_true ?_ fun _ hlong => absurd hlong hshort
      show scopedCommand host currentDir scope action allowedRoots dir =
        scopedCommand host root scope action allowedRoots dir
      rw [scopedCommand, scopedCommand, resolveExecutablePath_bare hnames,
        resolveExecutablePath_bare hnames]

/-- A request is bounded exactly when its command is fixed from every directory. -/
theorem bounded_iff : Bounded host config scope action ↔
    ∀ currentDir root, canonicalWorkspaceRoot host currentDir config = .ok root →
      CommandFixed host currentDir root scope action := by
  constructor
  · intro h currentDir root hroot
    exact (execute_eq_executeAgainstRoot_iff hroot).mp (h.same_base currentDir root hroot)
  · intro h
    have hbase : ∀ currentDir root, canonicalWorkspaceRoot host currentDir config = .ok root →
        executeBoundedSubprocess host currentDir config scope action =
          executeAgainstRoot host currentDir root config scope action :=
      fun currentDir root hroot =>
        (execute_eq_executeAgainstRoot_iff hroot).mpr (h currentDir root hroot)
    refine ⟨fun currentDir command => execute_confined, hbase, ?_⟩
    intro currentDir currentDir' root hroot hroot'
    rw [hbase currentDir root hroot, hbase currentDir' root hroot', executeAgainstRoot,
      executeAgainstRoot, resolveScope_congr hroot hroot']

/-- A host with a workspace and a script in it. -/
def scriptHost : Host where
  canonical path :=
    if path = "/srv/workspace" ∨ path = "/srv/workspace/." then .ok "/srv/workspace"
    else if path = "/srv/workspace/scripts/run.sh" then .ok "/srv/workspace/scripts/run.sh"
    else .error "No such file or directory (os error 2)"
  var _ := .error "environment variable not found"
  isAbsolute_of_canonical := by
    intro path real h
    split at h
    · rw [← Except.ok.inj h]
      decide +kernel
    · split at h
      · rw [← Except.ok.inj h]
        decide +kernel
      · cases h

def workspaceConfig : RuntimeConfig :=
  { RuntimeConfig.shipped with
    workspace := { RuntimeConfig.shipped.workspace with rootDir := "/srv/workspace" } }

def workspaceScope : CapabilityScope where
  filesystem := { readRoots := ["."] }
  execution := { timeoutMs := 30000, maxStdoutBytes := 4096, maxStderrBytes := 4096 }

def scriptAction : SubprocessAction where
  command := "scripts/run.sh"
  args := []
  workingDirectory := none

/-- A script of the workspace, named from the workspace root, is not found from another
directory. -/
theorem not_bounded_script : ¬ Bounded scriptHost workspaceConfig workspaceScope scriptAction := by
  intro h
  have hsame := h.same_base "/srv" "/srv/workspace" (by decide +kernel)
  have hspawned : (executeAgainstRoot scriptHost "/srv" "/srv/workspace" workspaceConfig
      workspaceScope scriptAction).isOk = true := by decide +kernel
  rw [← hsame] at hspawned
  exact absurd hspawned (by decide +kernel)

end Base

end BlueLagoon.ToolExecution
