import Mathlib.Data.List.TakeDrop
import Mathlib.Data.List.TakeWhile
import Mathlib.Data.String.Basic

/-!
# Text

The string operations of the source's standard library, on code points.
-/

namespace Text

/-- The Unicode `White_Space` property. -/
def isWhitespace (c : Char) : Bool :=
  let n := c.toNat
  (9 ≤ n && n ≤ 13) || n = 0x20 || n = 0x85 || n = 0xA0 || n = 0x1680 ||
    (0x2000 ≤ n && n ≤ 0x200A) || n = 0x2028 || n = 0x2029 || n = 0x202F || n = 0x205F ||
    n = 0x3000

/-- `str::trim`, on the characters. -/
def trimChars (cs : List Char) : List Char :=
  ((cs.dropWhile isWhitespace).reverse.dropWhile isWhitespace).reverse

/-- `str::trim`. -/
def trim (s : String) : String := String.ofList (trimChars s.toList)

/-- `s.trim().is_empty()`. -/
def isBlank (s : String) : Bool := s.toList.all isWhitespace

/-- `str::split_once`, for a separator of one character. -/
def splitOnce (sep : Char) (s : String) : Option (String × String) :=
  match s.toList.span (· ≠ sep) with
  | (before, _ :: after) => some (String.ofList before, String.ofList after)
  | (_, []) => none

/-- `char::to_ascii_lowercase`. -/
def asciiLower (c : Char) : Char :=
  if 'A'.toNat ≤ c.toNat ∧ c.toNat ≤ 'Z'.toNat then Char.ofNat (c.toNat + 32) else c

/-- `str::to_ascii_lowercase`. -/
def toAsciiLowercase (s : String) : String := String.ofList (s.toList.map asciiLower)

/-- `str::eq_ignore_ascii_case`. -/
def eqIgnoreAsciiCase (s t : String) : Bool := toAsciiLowercase s = toAsciiLowercase t

/-- `str::contains`, for a pattern string. -/
def contains (s pattern : String) : Bool :=
  s.toList.tails.any fun suffix => pattern.toList.isPrefixOf suffix

/-- `str::starts_with`. -/
def startsWith (s pattern : String) : Bool := pattern.toList.isPrefixOf s.toList

/-- The value of a non-empty run of ASCII digits. -/
def digits (cs : List Char) : Option Nat :=
  if cs = [] then none
  else cs.foldl
    (fun value c => value.bind fun n => if c.isDigit then some (10 * n + (c.toNat - 48)) else none)
    (some 0)

/-- `str::parse::<i64>`. -/
def parseI64 (s : String) : Option Int :=
  match s.toList with
  | '-' :: cs => (digits cs).bind fun n => if n ≤ 9223372036854775808 then some (-(n : Int)) else none
  | '+' :: cs => (digits cs).bind fun n => if n ≤ 9223372036854775807 then some (n : Int) else none
  | cs => (digits cs).bind fun n => if n ≤ 9223372036854775807 then some (n : Int) else none

/-- `str::split_whitespace`. -/
def splitWhitespace (s : String) : List String :=
  ((s.toList.splitOnP isWhitespace).filter fun word => !word.isEmpty).map String.ofList

/-- The two Unicode tables that the source consults. -/
structure Tables where
  /-- `str::to_lowercase` -/
  toLowercase : String → String
  /-- `char::is_alphanumeric` -/
  isAlphanumeric : Char → Bool

/-- The tables, on texts of ASCII characters. -/
def Tables.ascii : Tables where
  toLowercase := toAsciiLowercase
  isAlphanumeric := Char.isAlphanum

/-- `BTreeSet::insert`, in the order of code points, which is the order of UTF-8 bytes. -/
def insertIntoSet (s : String) : List String → List String
  | [] => [s]
  | t :: ts =>
    if s = t then t :: ts
    else if s.toList < t.toList then s :: t :: ts
    else t :: insertIntoSet s ts

/-- `iter().map(trim).collect::<BTreeSet<_>>()`: the trimmed values in order, each once. -/
def trimmedSet (values : List String) : List String :=
  (values.map trim).foldl (fun set value => insertIntoSet value set) []

/-! ## Splitting and trimming -/

theorem splitOnce_eq_none {sep : Char} {s : String} : splitOnce sep s = none ↔ sep ∉ s.toList := by
  unfold splitOnce
  rw [List.span_eq_takeWhile_dropWhile]
  cases hrest : s.toList.dropWhile (· ≠ sep) with
  | nil =>
    have hall := List.dropWhile_eq_nil_iff.mp hrest
    refine iff_of_true rfl fun hmem => ?_
    simpa using hall sep hmem
  | cons c after =>
    refine iff_of_false (by simp) fun hnot => ?_
    have hnil : s.toList.dropWhile (· ≠ sep) = [] :=
      List.dropWhile_eq_nil_iff.mpr fun x hx => decide_eq_true fun heq => hnot (heq ▸ hx)
    rw [hnil] at hrest
    cases hrest

/-- The first separator splits. -/
theorem splitOnce_eq_some {sep : Char} {s before after : String} :
    splitOnce sep s = some (before, after) ↔
      s.toList = before.toList ++ sep :: after.toList ∧ sep ∉ before.toList := by
  have hpieces : s.toList.takeWhile (· ≠ sep) ++ s.toList.dropWhile (· ≠ sep) = s.toList :=
    List.takeWhile_append_dropWhile
  constructor
  · intro h
    unfold splitOnce at h
    rw [List.span_eq_takeWhile_dropWhile] at h
    cases hrest : s.toList.dropWhile (· ≠ sep) with
    | nil =>
      rw [hrest] at h
      cases h
    | cons c rest =>
      rw [hrest] at h hpieces
      simp only [Option.some.injEq, Prod.mk.injEq] at h
      obtain ⟨rfl, rfl⟩ := h
      have hhead : c = sep := by
        have hne : s.toList.dropWhile (· ≠ sep) ≠ [] := by
          rw [hrest]
          exact List.cons_ne_nil c rest
        have hnot := List.head_dropWhile_not (· ≠ sep) hne
        simp only [hrest, List.head_cons] at hnot
        simpa using hnot
      subst hhead
      refine ⟨by simpa using hpieces.symm, fun hmem => ?_⟩
      rw [String.toList_ofList] at hmem
      simpa using List.mem_takeWhile_imp hmem
  · rintro ⟨hs, hnot⟩
    have hbefore : ∀ x ∈ before.toList, decide (x ≠ sep) = true := by
      intro x hx
      exact decide_eq_true fun heq => hnot (heq ▸ hx)
    have htake : s.toList.takeWhile (· ≠ sep) = before.toList := by
      rw [hs, List.takeWhile_append_of_pos hbefore]
      simp
    have hdrop : s.toList.dropWhile (· ≠ sep) = sep :: after.toList := by
      rw [hs, List.dropWhile_append_of_pos hbefore]
      simp
    unfold splitOnce
    rw [List.span_eq_takeWhile_dropWhile, htake, hdrop]
    simp

/-- A text that starts with something is not blank. -/
theorem isBlank_append {s t : String} (h : isBlank s = false) : isBlank (s ++ t) = false := by
  unfold isBlank at h ⊢
  rw [String.toList_append, List.all_append, h, Bool.false_and]

/-- Nothing is left of a text exactly when it is blank. -/
theorem trim_isEmpty (s : String) : (trim s).isEmpty = isBlank s := by
  rw [Bool.eq_iff_iff, String.isEmpty_iff, isBlank, List.all_eq_true, trim, ← String.toList_eq_nil_iff,
    String.toList_ofList, trimChars, List.reverse_eq_nil_iff, List.dropWhile_eq_nil_iff]
  constructor
  · intro h
    have hnil : s.toList.dropWhile isWhitespace = [] := by
      by_contra hne
      have hhead := List.head_dropWhile_not isWhitespace hne
      rw [h _ (List.mem_reverse.mpr (List.head_mem hne))] at hhead
      cases hhead
    exact List.dropWhile_eq_nil_iff.mp hnil
  · intro h x hx
    exact h x ((List.dropWhile_sublist _).subset (List.mem_reverse.mp hx))

/-- A text without blanks is its own trimmed form. -/
theorem trim_eq_self {s : String} (h : ∀ c ∈ s.toList, isWhitespace c = false) : trim s = s := by
  have hdrop : ∀ cs : List Char, (∀ c ∈ cs, isWhitespace c = false) →
      cs.dropWhile isWhitespace = cs := by
    intro cs hcs
    cases cs with
    | nil => rfl
    | cons c cs => simp [hcs c List.mem_cons_self]
  rw [trim, trimChars, hdrop _ h, hdrop _ (by simpa using h), List.reverse_reverse]
  exact String.ofList_toList

/-- The pieces between separators have none in them. -/
theorem free_of_mem_splitOnP {separates : Char → Bool} {cs piece : List Char}
    (h : piece ∈ cs.splitOnP separates) : ∀ c ∈ piece, separates c = false := by
  induction cs generalizing piece with
  | nil =>
    rw [List.splitOnP_nil, List.mem_singleton] at h
    intro c hc
    rw [h] at hc
    cases hc
  | cons first cs ih =>
    rw [List.splitOnP_cons_eq_if_modifyHead] at h
    split at h
    · rcases List.mem_cons.mp h with rfl | htail
      · intro c hc
        cases hc
      · exact ih htail
    · next hfirst =>
      obtain ⟨head, tail, hsplit⟩ :=
        List.exists_cons_of_ne_nil (List.splitOnP_ne_nil separates cs)
      rw [hsplit] at h ih
      rcases List.mem_cons.mp h with rfl | htail
      · intro c hc
        rcases List.mem_cons.mp hc with rfl | hhead
        · simpa using hfirst
        · exact ih List.mem_cons_self c hhead
      · exact ih (List.mem_cons_of_mem _ htail)

/-- The words of a text have no blanks in them. -/
theorem mem_splitWhitespace {s word : String} (h : word ∈ splitWhitespace s) :
    ∀ c ∈ word.toList, isWhitespace c = false := by
  obtain ⟨piece, hpiece, rfl⟩ := List.mem_map.mp h
  rw [String.toList_ofList]
  exact free_of_mem_splitOnP (List.mem_filter.mp hpiece).1

/-! ## Sets of texts -/

theorem mem_insertIntoSet {s t : String} {set : List String} :
    t ∈ insertIntoSet s set ↔ t = s ∨ t ∈ set := by
  induction set with
  | nil => simp [insertIntoSet]
  | cons u set ih =>
    unfold insertIntoSet
    split
    · next heq =>
      subst heq
      simp
    · split
      · simp
      · simp only [List.mem_cons, ih]
        tauto

theorem mem_trimmedSet {t : String} {values : List String} :
    t ∈ trimmedSet values ↔ ∃ value ∈ values, trim value = t := by
  have hfold : ∀ set, t ∈ (values.map trim).foldl (fun set value => insertIntoSet value set) set ↔
      (∃ value ∈ values, trim value = t) ∨ t ∈ set := by
    induction values with
    | nil => simp
    | cons value values ih =>
      intro set
      rw [List.map_cons, List.foldl_cons, ih, mem_insertIntoSet, @eq_comm _ t (trim value)]
      simp only [List.mem_cons, exists_eq_or_imp]
      exact or_left_comm.trans or_assoc.symm
  rw [trimmedSet, hfold]
  simp

end Text
