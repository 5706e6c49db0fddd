import Mathlib.Data.List.Infix

/-!
# Paths

The paths of Unix, as texts. Whether one is inside of another is decided on their components.
-/

abbrev UnixPath := String

namespace UnixPath

/-- `std::path::Component`. -/
inductive Component
  | rootDir
  | curDir
  | parentDir
  | normal (name : List Char)
  deriving DecidableEq, Repr

/-- `Path::is_absolute`. -/
def isAbsolute (path : UnixPath) : Bool := path.toList.head? = some '/'

/-- A part between separators. Empty parts and dots say nothing. -/
def part : List Char → Option Component
  | [] => none
  | ['.'] => none
  | ['.', '.'] => some .parentDir
  | name => some (.normal name)

/-- `Path::components`. A dot counts only at the beginning of a relative path. -/
def components (path : UnixPath) : List Component :=
  let parts := path.toList.splitOn '/'
  (if isAbsolute path then [.rootDir]
    else if parts.head? = some ['.'] then [.curDir]
    else []) ++ parts.filterMap part

/-- `Path::join`. An absolute path replaces what it is joined to. -/
def join (base path : UnixPath) : UnixPath :=
  if isAbsolute path then path
  else if base.toList.getLast?.all (· = '/') then base ++ path
  else base ++ "/" ++ path

/-- `Path::starts_with`. -/
def startsWith (path base : UnixPath) : Bool := (components base).isPrefixOf (components path)

theorem join_of_isAbsolute {path : UnixPath} (h : isAbsolute path) (base : UnixPath) :
    join base path = path := if_pos h

theorem isAbsolute_append {base : UnixPath} (h : isAbsolute base) (path : UnixPath) :
    isAbsolute (base ++ path) := by
  simp only [isAbsolute, decide_eq_true_eq] at h ⊢
  rw [String.toList_append, List.head?_append, h]
  rfl

theorem isAbsolute_join {base : UnixPath} (h : isAbsolute base) (path : UnixPath) :
    isAbsolute (join base path) := by
  unfold join
  split
  · assumption
  · split
    · exact isAbsolute_append h path
    · exact isAbsolute_append (isAbsolute_append h "/") path

example : components "./scripts//run.sh/." = [.curDir, .normal "scripts".toList,
    .normal "run.sh".toList] := by decide +kernel

example : startsWith "/srv/workspaces" "/srv/work" = false := by decide +kernel

end UnixPath
