import BlueLagoon.Text
import Mathlib.Algebra.GroupWithZero.Nat
import Mathlib.Data.List.Chain
import Mathlib.Data.List.Infix
import Mathlib.Data.List.Nodup
import Mathlib.Data.List.Perm.Subperm

/-!
# Scanning texts

Texts as lists of characters, for the code that walks over them: the first place of a pattern,
the lines and the words.
-/

namespace List

variable {α : Type} {before rest front tail : List α}

/-- Of two ways to cut a list, one cuts earlier. -/
theorem append_eq_append_cases (h : front ++ tail = before ++ rest) :
    (∃ middle, middle ≠ [] ∧ before = front ++ middle ∧ tail = middle ++ rest) ∨
      ∃ middle, front = before ++ middle ∧ rest = middle ++ tail := by
  rcases append_eq_append_iff.mp h with ⟨middle, hbefore, htail⟩ | ⟨middle, hfront, hrest⟩
  · by_cases hnil : middle = []
    · subst hnil
      refine Or.inr ⟨[], ?_, ?_⟩
      · simpa using hbefore.symm
      · simpa using htail.symm
    · exact Or.inl ⟨middle, hnil, hbefore, htail⟩
  · exact Or.inr ⟨middle, hfront, hrest⟩

/-- What stands together in a list without repetitions stands together in every part of the list
that has all of it. -/
theorem Nodup.infix_of_sublist {window part whole : List α} (hnodup : whole.Nodup)
    (hpart : part <+ whole) (hwindow : window <:+: whole) (hsub : window ⊆ part) :
    window <:+: part := by
  obtain ⟨front, tail, rfl⟩ := hwindow
  obtain ⟨frontWindow, tail', rfl, hfrontWindow, htail⟩ := sublist_append_iff.mp hpart
  obtain ⟨front', window', rfl, hfront, hwindow⟩ := sublist_append_iff.mp hfrontWindow
  have happart := nodup_append.mp hnodup
  have hfrontApart := nodup_append.mp happart.1
  have hinWindow : window ⊆ window' := by
    intro a ha
    rcases mem_append.mp (hsub ha) with hfirst | hlast
    · rcases mem_append.mp hfirst with hold | hin
      · exact absurd rfl (hfrontApart.2.2 a (hfront.subset hold) a ha)
      · exact hin
    · exact absurd rfl (happart.2.2 a (mem_append_right _ ha) a (htail.subset hlast))
  have hsame : window' = window :=
    hwindow.eq_of_length_le (subperm_of_subset hfrontApart.2.1 hinWindow).length_le
  rw [hsame]
  exact ⟨front', tail', rfl⟩

/-- What comes behind a piece in a part of a list without repetitions comes behind it in the
list. -/
theorem Nodup.sublist_behind {window : List α} (hnodup : (before ++ (window ++ rest)).Nodup)
    (hne : window ≠ []) (hsub : front ++ (window ++ tail) <+ before ++ (window ++ rest)) :
    tail <+ rest := by
  obtain ⟨first, second, hsplit, hfirst, hsecond⟩ := sublist_append_iff.mp hsub
  rcases append_eq_append_cases hsplit with ⟨middle, hmiddle, rfl, hwindow⟩ | ⟨middle, rfl, rfl⟩
  · exfalso
    obtain ⟨a, window, rfl⟩ := exists_cons_of_ne_nil hne
    obtain ⟨b, middle, rfl⟩ := exists_cons_of_ne_nil hmiddle
    obtain ⟨rfl, -⟩ := cons.inj hwindow
    have hbefore : a ∈ before := hfirst.subset (mem_append_right _ mem_cons_self)
    exact (nodup_append.mp hnodup).2.2 a hbefore a (mem_append_left _ mem_cons_self) rfl
  · have hbehind := (sublist_append_right middle (window ++ tail)).trans hsecond
    exact (append_sublist_append_left window).mp hbehind

/-- What stands in a piece between separators stands in the list and is no separator. -/
theorem mem_of_mem_splitOnP {isSep : α → Bool} {list piece : List α} {a : α}
    (hpiece : piece ∈ list.splitOnP isSep) (ha : a ∈ piece) : a ∈ list ∧ isSep a = false := by
  induction list generalizing piece with
  | nil =>
    rw [splitOnP_nil, mem_singleton] at hpiece
    rw [hpiece] at ha
    cases ha
  | cons first list ih =>
    have hrest : ∀ {piece : List α}, piece ∈ list.splitOnP isSep → a ∈ piece →
        a ∈ first :: list ∧ isSep a = false := fun hpiece ha =>
      ⟨mem_cons_of_mem _ (ih hpiece ha).1, (ih hpiece ha).2⟩
    rw [splitOnP_cons_eq_if_modifyHead] at hpiece
    split at hpiece
    · rcases mem_cons.mp hpiece with rfl | htail
      · cases ha
      · exact hrest htail ha
    · next hfirst =>
      obtain ⟨head, tail, hsplit⟩ := exists_cons_of_ne_nil (splitOnP_ne_nil isSep list)
      rw [hsplit] at hpiece hrest
      rcases mem_cons.mp hpiece with rfl | htail
      · rcases mem_cons.mp ha with rfl | hhead
        · exact ⟨mem_cons_self, by simpa using hfirst⟩
        · exact hrest mem_cons_self hhead
      · exact hrest (mem_cons_of_mem _ htail) ha

/-- What stands in pieces that are put together stands in a piece or in what joins them. -/
theorem mem_intercalate {sep : List α} {pieces : List (List α)} {a : α}
    (h : a ∈ sep.intercalate pieces) : a ∈ sep ∨ ∃ piece ∈ pieces, a ∈ piece := by
  induction pieces with
  | nil => cases h
  | cons piece pieces ih =>
    cases pieces with
    | nil =>
      rw [intercalate_singleton] at h
      exact Or.inr ⟨piece, mem_cons_self, h⟩
    | cons next pieces =>
      rw [intercalate_cons_cons] at h
      rcases mem_append.mp h with hfirst | hrest
      · rcases mem_append.mp hfirst with hpiece | hsep
        · exact Or.inr ⟨piece, mem_cons_self, hpiece⟩
        · exact Or.inl hsep
      · rcases ih hrest with hsep | ⟨other, hother, hmem⟩
        · exact Or.inl hsep
        · exact Or.inr ⟨other, mem_cons_of_mem _ hother, hmem⟩

end List

namespace Text

/-! ## Patterns -/

/-- The first place from which on the text is as asked for. -/
def firstWhere (holds : List Char → Bool) : List Char → Option Nat
  | [] => if holds [] then some 0 else none
  | c :: cs => if holds (c :: cs) then some 0 else (firstWhere holds cs).map (· + 1)

section FirstWhere

variable {holds : List Char → Bool} {cs : List Char} {n m : Nat}

/-- The place found is the first one from which `holds`. -/
theorem firstWhere_eq_some : firstWhere holds cs = some n ↔
    n ≤ cs.length ∧ holds (cs.drop n) ∧ ∀ m, m < n → holds (cs.drop m) = false := by
  induction cs generalizing n with
  | nil =>
    unfold firstWhere
    by_cases hhere : holds []
    · rw [if_pos hhere]
      constructor
      · intro h
        obtain rfl := Option.some.inj h
        exact ⟨Nat.le_refl 0, hhere, fun m hm => absurd hm (Nat.not_lt_zero m)⟩
      · rintro ⟨hle, -, -⟩
        rw [Nat.le_zero.mp hle]
    · rw [if_neg hhere]
      refine iff_of_false (by simp) ?_
      rintro ⟨-, hthere, -⟩
      rw [List.drop_nil] at hthere
      exact hhere hthere
  | cons c cs ih =>
    unfold firstWhere
    by_cases hhere : holds (c :: cs)
    · rw [if_pos hhere]
      constructor
      · intro h
        obtain rfl := Option.some.inj h
        exact ⟨Nat.zero_le _, hhere, fun m hm => absurd hm (Nat.not_lt_zero m)⟩
      · rintro ⟨-, -, hbefore⟩
        cases n with
        | zero => rfl
        | succ n =>
          have hnot := hbefore 0 (Nat.succ_pos n)
          rw [List.drop_zero, hhere] at hnot
          cases hnot
    · rw [if_neg hhere, Option.map_eq_some_iff]
      constructor
      · rintro ⟨m, hm, rfl⟩
        obtain ⟨hle, hthere, hbefore⟩ := ih.mp hm
        refine ⟨Nat.succ_le_succ hle, hthere, fun k hk => ?_⟩
        cases k with
        | zero => exact Bool.eq_false_iff.mpr hhere
        | succ k => exact hbefore k (Nat.lt_of_succ_lt_succ hk)
      · rintro ⟨hle, hthere, hbefore⟩
        cases n with
        | zero => exact absurd hthere hhere
        | succ n =>
          refine ⟨n, ih.mpr ⟨Nat.le_of_succ_le_succ hle, hthere, fun k hk => ?_⟩, rfl⟩
          exact hbefore (k + 1) (Nat.succ_lt_succ hk)

theorem firstWhere_eq_none : firstWhere holds cs = none ↔ ∀ m, holds (cs.drop m) = false := by
  induction cs with
  | nil =>
    unfold firstWhere
    simp
  | cons c cs ih =>
    unfold firstWhere
    by_cases hhere : holds (c :: cs)
    · rw [if_pos hhere]
      refine iff_of_false (by simp) fun hnowhere => ?_
      have hnot := hnowhere 0
      rw [List.drop_zero, hhere] at hnot
      cases hnot
    · rw [if_neg hhere, Option.map_eq_none_iff, ih]
      constructor
      · intro h m
        cases m with
        | zero => exact Bool.eq_false_iff.mpr hhere
        | succ m => exact h m
      · intro h m
        exact h (m + 1)

end FirstWhere

/-- `str::find`, for a pattern string: where the pattern occurs first. -/
def find (pattern : List Char) : List Char → Option Nat := firstWhere pattern.isPrefixOf

variable {pattern cs : List Char} {n m : Nat}

/-- The pattern is found where it occurs and at no place before. -/
theorem find_eq_some : find pattern cs = some n ↔
    n ≤ cs.length ∧ pattern <+: cs.drop n ∧ ∀ m, m < n → ¬ pattern <+: cs.drop m := by
  unfold find
  rw [firstWhere_eq_some, List.isPrefixOf_iff_prefix]
  simp only [Bool.eq_false_iff, ne_eq, List.isPrefixOf_iff_prefix]

/-- Nothing is found exactly when the pattern occurs nowhere. -/
theorem find_eq_none : find pattern cs = none ↔ ¬ pattern <:+: cs := by
  unfold find
  rw [firstWhere_eq_none]
  simp only [Bool.eq_false_iff, ne_eq, List.isPrefixOf_iff_prefix]
  constructor
  · rintro h ⟨front, tail, rfl⟩
    apply h front.length
    rw [List.append_assoc, List.drop_left]
    exact List.prefix_append _ _
  · intro h m hstart
    exact h (List.IsInfix.trans hstart.isInfix (List.drop_suffix m cs).isInfix)

theorem find_length_le (h : find pattern cs = some n) : n + pattern.length ≤ cs.length := by
  obtain ⟨hle, hstart, -⟩ := find_eq_some.mp h
  have hlength := hstart.length_le
  rw [List.length_drop] at hlength
  omega

/-! ## Lines and words -/

/-- `str::lines`. The `\n` of a line is not part of it, nor is a `\r` before it. -/
def lines (cs : List Char) : List (List Char) :=
  let pieces := cs.splitOn '\n'
  let withoutReturn := fun line : List Char =>
    if line.getLast? = some '\r' then line.dropLast else line
  let last := pieces.getLastD []
  pieces.dropLast.map withoutReturn ++ if last = [] then [] else [last]

/-- `str::split_whitespace`, on the characters. -/
def words (cs : List Char) : List (List Char) :=
  (cs.splitOnP isWhitespace).filter fun word => !word.isEmpty

/-- A word: something, without blanks in it. -/
structure IsWord (word : List Char) : Prop where
  ne_nil : word ≠ []
  no_blank : ∀ c ∈ word, isWhitespace c = false

theorem isWord_of_mem {word : List Char} (h : word ∈ words cs) : IsWord word := by
  obtain ⟨hpiece, hne⟩ := List.mem_filter.mp h
  refine ⟨?_, ?_⟩
  · intro hnil
    rw [hnil] at hne
    cases hne
  · intro c hc
    exact (List.mem_of_mem_splitOnP hpiece hc).2

theorem mem_of_mem_words {word : List Char} (h : word ∈ words cs) {c : Char} (hc : c ∈ word) :
    c ∈ cs := (List.mem_of_mem_splitOnP (List.mem_filter.mp h).1 hc).1

/-- Words put together with blanks are found again between the separators, where the blank is
one and no word holds one. -/
theorem filter_splitOnP_intercalate {isSep : Char → Bool} (hsep : isSep ' ' = true)
    {ws : List (List Char)} (h : ∀ word ∈ ws, word ≠ [] ∧ ∀ c ∈ word, isSep c = false) :
    (([' '].intercalate ws).splitOnP isSep).filter (fun word => !word.isEmpty) = ws := by
  have hkept : ∀ {word : List Char} {pieces : List (List Char)}, word ≠ [] →
      (word :: pieces).filter (fun word => !word.isEmpty) =
        word :: pieces.filter fun word => !word.isEmpty := by
    intro word pieces hword
    cases word with
    | nil => exact absurd rfl hword
    | cons c word => rfl
  induction ws with
  | nil => rfl
  | cons word ws ih =>
    have hword := h word List.mem_cons_self
    have hrest := ih fun other hother => h other (List.mem_cons_of_mem _ hother)
    cases ws with
    | nil =>
      rw [List.intercalate_singleton, List.splitOnP_eq_singleton hword.2, hkept hword.1]
      rfl
    | cons next ws =>
      rw [List.intercalate_cons_cons, List.append_assoc, List.singleton_append,
        List.splitOnP_append_cons_of_forall_mem hword.2 ' ' hsep, hkept hword.1, hrest]

/-- The words of words put together with blanks are these words. -/
theorem words_intercalate {ws : List (List Char)} (h : ∀ word ∈ ws, IsWord word) :
    words ([' '].intercalate ws) = ws :=
  filter_splitOnP_intercalate rfl fun word hword => ⟨(h word hword).ne_nil, (h word hword).no_blank⟩

/-! ## Byte offsets -/

/-- `str::len`: the bytes of a text in UTF-8. -/
def byteLen (cs : List Char) : Nat := (cs.map Char.utf8Size).sum

/-- `str::split_at`: the text before a byte offset, and the text from it on. An offset inside a
character or behind the end panics. -/
def splitAtByte : Nat → List Char → Option (List Char × List Char)
  | 0, cs => some ([], cs)
  | _ + 1, [] => none
  | n + 1, c :: cs =>
    if c.utf8Size ≤ n + 1 then
      (splitAtByte (n + 1 - c.utf8Size) cs).map fun (before, after) => (c :: before, after)
    else none

theorem byteLen_append (cs cs' : List Char) : byteLen (cs ++ cs') = byteLen cs + byteLen cs' := by
  rw [byteLen, List.map_append, List.sum_append]
  rfl

theorem byteLen_cons (c : Char) (cs : List Char) : byteLen (c :: cs) = c.utf8Size + byteLen cs := by
  rw [byteLen, List.map_cons, List.sum_cons]
  rfl

theorem byteLen_pos {cs : List Char} (h : cs ≠ []) : 0 < byteLen cs := by
  cases cs with
  | nil => exact absurd rfl h
  | cons c cs =>
    rw [byteLen_cons]
    exact Nat.add_pos_left (Char.utf8Size_pos c) _

/-- The bytes of a beginning of a text are where the rest of it begins. -/
theorem splitAtByte_append (cs cs' : List Char) :
    splitAtByte (byteLen cs) (cs ++ cs') = some (cs, cs') := by
  induction cs with
  | nil => rw [List.nil_append, byteLen, List.map_nil, List.sum_nil, splitAtByte]
  | cons c cs ih =>
    obtain ⟨size, hsize⟩ := Nat.exists_eq_succ_of_ne_zero
      (byteLen_pos (List.cons_ne_nil c cs)).ne'
    have hrest : size + 1 - c.utf8Size = byteLen cs := by
      rw [← Nat.succ_eq_add_one, ← hsize, byteLen_cons, Nat.add_sub_cancel_left]
    have hle : c.utf8Size ≤ size + 1 := by
      rw [← Nat.succ_eq_add_one, ← hsize, byteLen_cons]
      exact Nat.le_add_right _ _
    rw [hsize, List.cons_append, Nat.succ_eq_add_one, splitAtByte, if_pos hle, hrest, ih]
    rfl

/-! ## Ends without blanks -/

/-- The text begins with something that is no blank. -/
def Starts (cs : List Char) : Prop := ∃ c rest, cs = c :: rest ∧ isWhitespace c = false

/-- The text ends with something that is no blank. -/
def Ends (cs : List Char) : Prop := ∃ front c, cs = front ++ [c] ∧ isWhitespace c = false

theorem Starts.append {front : List Char} (h : Starts front) (tail : List Char) :
    Starts (front ++ tail) := by
  obtain ⟨c, rest, rfl, hc⟩ := h
  exact ⟨c, rest ++ tail, rfl, hc⟩

theorem Ends.append {tail : List Char} (h : Ends tail) (front : List Char) :
    Ends (front ++ tail) := by
  obtain ⟨before, c, rfl, hc⟩ := h
  exact ⟨front ++ before, c, (List.append_assoc _ _ _).symm, hc⟩

theorem Starts.dropWhile {cs : List Char} (h : Starts cs) : cs.dropWhile isWhitespace = cs := by
  obtain ⟨c, rest, rfl, hc⟩ := h
  exact List.dropWhile_cons_of_neg (by simp [hc])

theorem Ends.reverse {cs : List Char} (h : Ends cs) : Starts cs.reverse := by
  obtain ⟨front, c, rfl, hc⟩ := h
  exact ⟨c, front.reverse, List.reverse_append, hc⟩

/-- Blanks behind a text are trimmed away, the rest stays. -/
theorem trimChars_append {cs blanks : List Char} (hstarts : Starts cs) (hends : Ends cs)
    (hblanks : ∀ c ∈ blanks, isWhitespace c) : trimChars (cs ++ blanks) = cs := by
  unfold trimChars
  rw [(hstarts.append blanks).dropWhile, List.reverse_append,
    List.dropWhile_append_of_pos fun c hc => hblanks c (List.mem_reverse.mp hc),
    hends.reverse.dropWhile, List.reverse_reverse]

theorem trimChars_eq_self {cs : List Char} (hstarts : Starts cs) (hends : Ends cs) :
    trimChars cs = cs := by
  have htrim : trimChars (cs ++ []) = cs :=
    trimChars_append hstarts hends fun c hc => by cases hc
  rwa [List.append_nil] at htrim

theorem mem_of_mem_trimChars {cs : List Char} {c : Char} (h : c ∈ trimChars cs) : c ∈ cs := by
  unfold trimChars at h
  have hback := (List.dropWhile_sublist _).subset (List.mem_reverse.mp h)
  exact (List.dropWhile_sublist _).subset (List.mem_reverse.mp hback)

variable {sep : List Char} {pieces : List (List Char)}

theorem Starts.intercalate {piece : List Char} (h : Starts piece) :
    Starts (sep.intercalate (piece :: pieces)) := by
  cases pieces with
  | nil =>
    rw [List.intercalate_singleton]
    exact h
  | cons next pieces =>
    rw [List.intercalate_cons_cons, List.append_assoc]
    exact h.append _

theorem Ends.intercalate {piece : List Char} (h : Ends piece) :
    Ends (sep.intercalate (pieces ++ [piece])) := by
  induction pieces with
  | nil =>
    rw [List.nil_append, List.intercalate_singleton]
    exact h
  | cons first pieces ih =>
    rw [List.cons_append, List.intercalate_cons_of_ne_nil (by simp)]
    exact ih.append _

/-! ## Lines -/

/-- What stands in a line stands in the text. -/
theorem mem_of_mem_lines {line : List Char} (h : line ∈ lines cs) {c : Char} (hc : c ∈ line) :
    c ∈ cs := by
  have hpieces : ∀ {piece : List Char}, piece ∈ cs.splitOn '\n' → c ∈ piece → c ∈ cs := by
    intro piece hpiece hc
    rw [List.splitOn_eq_splitOnP] at hpiece
    exact (List.mem_of_mem_splitOnP hpiece hc).1
  unfold lines at h
  dsimp only at h
  rcases List.mem_append.mp h with hterminated | hlast
  · obtain ⟨piece, hpiece, rfl⟩ := List.mem_map.mp hterminated
    refine hpieces (List.mem_of_mem_dropLast hpiece) ?_
    split at hc
    · exact List.mem_of_mem_dropLast hc
    · exact hc
  · split at hlast
    · cases hlast
    · rw [List.mem_singleton] at hlast
      rw [hlast, List.getLastD_eq_getLast?] at hc
      cases hgot : (cs.splitOn '\n').getLast? with
      | none =>
        rw [hgot] at hc
        cases hc
      | some piece =>
        rw [hgot] at hc
        exact hpieces (List.mem_of_getLast? hgot) hc

/-- The lines of lines put together are these lines, when none of them ends with a return and
the last one is not empty. -/
theorem lines_intercalate (hsep : ∀ line ∈ pieces, '\n' ∉ line)
    (hreturn : ∀ line ∈ pieces, line.getLast? ≠ some '\r') {last : List Char}
    (hlast : pieces.getLast? = some last) (hne : last ≠ []) :
    lines (['\n'].intercalate pieces) = pieces := by
  have hsome : pieces ≠ [] := by
    intro hnil
    rw [hnil] at hlast
    cases hlast
  unfold lines
  dsimp only
  rw [List.splitOn_intercalate '\n' hsep hsome, List.getLastD_eq_getLast?, hlast]
  show List.map _ pieces.dropLast ++ (if last = [] then [] else [last]) = pieces
  have hsame : pieces.dropLast.map (fun line : List Char =>
      if line.getLast? = some '\r' then line.dropLast else line) = pieces.dropLast := by
    refine (List.map_congr_left fun line hline => ?_).trans (List.map_id _)
    exact if_neg (hreturn line (List.mem_of_mem_dropLast hline))
  rw [hsame, if_neg hne]
  exact List.dropLast_append_getLast? last hlast

end Text
