import BlueLagoon.FetchedContent

/-!
# What the passes keep

A pass over a page deletes blocks, from an opening tag to the closing tag that comes next. To
say which characters are kept, every character carries its place in the page. An opening tag that
stands in the page does not survive its pass; one that remains has been put together from parts
that stood apart.
-/

namespace BlueLagoon

namespace FetchedContent

open Text

/-! ## Characters in their places -/

/-- A character and its place in the page. -/
abbrev Placed := Char × Nat

/-- The text of characters in their places. -/
def text (placed : List Placed) : List Char := placed.map Prod.fst

@[simp] theorem text_append (front tail : List Placed) :
    text (front ++ tail) = text front ++ text tail := List.map_append

@[simp] theorem length_text (placed : List Placed) : (text placed).length = placed.length :=
  List.length_map _

@[simp] theorem text_zipIdx (body : List Char) : text body.zipIdx = body := by
  unfold text
  exact List.zipIdx_map_fst 0 body

theorem nodup_zipIdx (body : List Char) : body.zipIdx.Nodup := by
  refine List.Nodup.of_map Prod.snd ?_
  rw [List.zipIdx_map_snd]
  exact List.nodup_range'

@[simp] theorem lower_append (front tail : List Char) :
    lower (front ++ tail) = lower front ++ lower tail := List.map_append

/-- The pattern stands at the front, in letters of any case. -/
def Opens (pattern : List Char) (placed : List Placed) : Prop := pattern <+: lower (text placed)

variable {pattern : List Char} {before rest : List Placed}

theorem drop_lower_text (front tail : List Placed) :
    (lower (text (front ++ tail))).drop front.length = lower (text tail) := by
  have hlength : front.length = (lower (text front)).length := by
    unfold lower
    rw [List.length_map, length_text]
  rw [text_append, lower_append, hlength, List.drop_left]

/-- The pattern is found between the two parts. -/
theorem find_between : find pattern (lower (text (before ++ rest))) = some before.length ↔
    Opens pattern rest ∧
      ∀ front middle, before = front ++ middle → middle ≠ [] →
        ¬ Opens pattern (middle ++ rest) := by
  rw [find_eq_some, drop_lower_text]
  constructor
  · rintro ⟨-, hopens, hbefore⟩
    refine ⟨hopens, ?_⟩
    intro front middle hsplit hne hearlier
    have hlength : front.length < before.length := by
      rw [hsplit, List.length_append]
      exact Nat.lt_add_of_pos_right (List.length_pos_iff.mpr hne)
    apply hbefore front.length hlength
    rw [hsplit, List.append_assoc, drop_lower_text]
    exact hearlier
  · rintro ⟨hopens, hbefore⟩
    refine ⟨?_, hopens, ?_⟩
    · unfold lower
      rw [List.length_map, length_text, List.length_append]
      exact Nat.le_add_right _ _
    · intro m hm hearlier
      have hsplit : before = before.take m ++ before.drop m := (List.take_append_drop m before).symm
      have hdrop : (lower (text (before ++ rest))).drop m =
          lower (text (before.drop m ++ rest)) := by
        have htake : (before.take m).length = m := List.length_take_of_le (Nat.le_of_lt hm)
        calc (lower (text (before ++ rest))).drop m
            = (lower (text (before.take m ++ (before.drop m ++ rest)))).drop
                (before.take m).length := by
              rw [← List.append_assoc, List.take_append_drop, htake]
          _ = lower (text (before.drop m ++ rest)) := drop_lower_text _ _
      rw [hdrop] at hearlier
      refine hbefore _ _ hsplit ?_ hearlier
      intro hnil
      have hall := List.drop_eq_nil_iff.mp hnil
      omega

/-- The pattern is not found at all. -/
theorem find_nowhere {placed : List Placed} (h : find pattern (lower (text placed)) = none)
    {front tail : List Placed} (hsplit : placed = front ++ tail) : ¬ Opens pattern tail := by
  intro hopens
  apply find_eq_none.mp h
  rw [hsplit, text_append, lower_append]
  exact hopens.isInfix.trans (List.suffix_append _ _).isInfix

/-! ## One pass -/

/-- What a pass keeps of a text: everything up to the first opening tag, and, when a closing tag
comes after it, what it keeps of the text behind the closing tag. -/
inductive Cuts (tagName : String) : List Placed → List Placed → Prop
  | whole {placed : List Placed}
    (hopen : find (openPattern tagName) (lower (text placed)) = none) : Cuts tagName placed placed
  | unclosed {before rest : List Placed}
    (hopen : find (openPattern tagName) (lower (text (before ++ rest))) = some before.length)
    (hclose : find (closePattern tagName) (lower (text rest)) = none) :
    Cuts tagName (before ++ rest) before
  | block {before block rest kept : List Placed} {n : Nat}
    (hopen : find (openPattern tagName) (lower (text (before ++ (block ++ rest)))) =
      some before.length)
    (hclose : find (closePattern tagName) (lower (text (block ++ rest))) = some n)
    (hlength : block.length = n + (closePattern tagName).length)
    (hrest : Cuts tagName rest kept) : Cuts tagName (before ++ (block ++ rest)) (before ++ kept)

variable {tagName : String} {placed kept : List Placed}

theorem Cuts.sublist (h : Cuts tagName placed kept) : List.Sublist kept placed := by
  induction h with
  | whole _ => exact List.Sublist.refl _
  | unclosed _ _ => exact List.sublist_append_left _ _
  | block _ _ _ _ ih =>
    exact List.Sublist.append_left (ih.trans (List.sublist_append_right _ _)) _

theorem text_between (before rest : List Placed) :
    (text (before ++ rest)).take before.length = text before ∧
      (text (before ++ rest)).drop before.length = text rest := by
  rw [text_append, ← length_text before, List.take_left, List.drop_left]
  exact ⟨rfl, rfl⟩

/-- The code keeps the text of what the pass keeps. -/
theorem Cuts.removeHtmlTagBlocks_eq (h : Cuts tagName placed kept) :
    removeHtmlTagBlocks tagName (text placed) = text kept := by
  induction h with
  | whole hopen =>
    rw [removeHtmlTagBlocks, hopen]
  | @unclosed before rest hopen hclose =>
    obtain ⟨htake, hdrop⟩ := text_between before rest
    rw [removeHtmlTagBlocks_unclosed hopen (by rw [hdrop]; exact hclose), htake]
  | @block before block rest kept n hopen hclose hlength hrest ih =>
    obtain ⟨htake, hdrop⟩ := text_between before (block ++ rest)
    have hafter : (text (before ++ (block ++ rest))).drop
        (before.length + n + (closePattern tagName).length) = text rest := by
      rw [Nat.add_assoc, ← List.drop_drop, hdrop, ← hlength]
      exact (text_between block rest).2
    rw [removeHtmlTagBlocks_block hopen (by rw [hdrop]; exact hclose), htake, hafter, ih,
      text_append]

/-- A list can be cut at every place in it. -/
theorem exists_append {α : Type} {list : List α} {n : Nat} (h : n ≤ list.length) :
    ∃ front tail, list = front ++ tail ∧ front.length = n :=
  ⟨list.take n, list.drop n, (List.take_append_drop n list).symm, List.length_take_of_le h⟩

theorem length_lower_text (placed : List Placed) : (lower (text placed)).length = placed.length := by
  unfold lower
  rw [List.length_map, length_text]

/-- A pass keeps something of every text. -/
theorem exists_cuts (tagName : String) (placed : List Placed) :
    ∃ kept, Cuts tagName placed kept := by
  induction hn : placed.length using Nat.strong_induction_on generalizing placed with
  | _ n ih =>
    cases hopen : find (openPattern tagName) (lower (text placed)) with
    | none => exact ⟨placed, .whole hopen⟩
    | some start =>
      have hstart : start ≤ placed.length := by
        rw [← length_lower_text]
        exact (find_eq_some.mp hopen).1
      obtain ⟨before, rest, rfl, rfl⟩ := exists_append hstart
      cases hclose : find (closePattern tagName) (lower (text rest)) with
      | none => exact ⟨before, .unclosed hopen hclose⟩
      | some m =>
        have hend : m + (closePattern tagName).length ≤ rest.length := by
          rw [← length_lower_text]
          exact find_length_le hclose
        obtain ⟨block, rest, rfl, hlength⟩ := exists_append hend
        have hshorter : rest.length < n := by
          rw [← hn, List.length_append, List.length_append, hlength]
          simp only [closePattern, List.length_cons]
          omega
        obtain ⟨kept, hkept⟩ := ih rest.length hshorter rest rfl
        exact ⟨before ++ kept, .block hopen hclose hlength hkept⟩

/-! ## Opening tags do not survive -/

/-- Nothing that opens stands before the first opening tag. -/
theorem opens_behind (hopen : find pattern (lower (text (before ++ rest))) = some before.length)
    {front tail : List Placed} (hsplit : before ++ rest = front ++ tail) (hopens : Opens pattern tail) :
    ∃ middle, front = before ++ middle ∧ rest = middle ++ tail := by
  rcases List.append_eq_append_cases hsplit.symm with ⟨middle, hne, hbefore, htail⟩ | hbehind
  · exfalso
    apply (find_between.mp hopen).2 front middle hbefore hne
    rw [← htail]
    exact hopens
  · exact hbehind

/-- A pass does not keep the first character of an opening tag. -/
theorem Cuts.head_not_mem (h : Cuts tagName placed kept) (hnodup : placed.Nodup)
    {front tail : List Placed} {a : Placed} (hsplit : placed = front ++ a :: tail)
    (hopens : Opens (openPattern tagName) (a :: tail)) : a ∉ kept := by
  induction h generalizing front with
  | whole hopen => exact absurd hopens (find_nowhere hopen hsplit)
  | @unclosed before rest hopen hclose =>
    obtain ⟨middle, -, hrest⟩ := opens_behind hopen hsplit hopens
    intro hmem
    apply (List.nodup_append.mp hnodup).2.2 a hmem a _ rfl
    rw [hrest]
    exact List.mem_append_right _ List.mem_cons_self
  | @block before block rest kept n hopen hclose hlength hrest ih =>
    obtain ⟨middle, -, htail⟩ := opens_behind hopen hsplit hopens
    have hbehind : a ∈ block ++ rest := by
      rw [htail]
      exact List.mem_append_right _ List.mem_cons_self
    have happart := List.nodup_append.mp hnodup
    have happart' := List.nodup_append.mp happart.2.1
    intro hmem
    rcases List.mem_append.mp hmem with hbefore | hkept
    · exact happart.2.2 a hbefore a hbehind rfl
    · rcases List.append_eq_append_cases htail.symm with ⟨inner, hne, hblock, htail⟩ | hbehind
      · have hin : a ∈ block := by
          obtain ⟨c, inner, rfl⟩ := List.exists_cons_of_ne_nil hne
          obtain ⟨rfl, -⟩ := List.cons.inj htail
          rw [hblock]
          exact List.mem_append_right _ List.mem_cons_self
        exact happart'.2.2 a hin a (hrest.sublist.subset hkept) rfl
      · obtain ⟨inner, -, hrest'⟩ := hbehind
        exact ih happart'.2.1 hrest' hkept

/-! ## All passes -/

/-- What one pass after the other keeps. -/
def CutsAll : List String → List Placed → List Placed → Prop
  | [], placed, kept => kept = placed
  | tagName :: tagNames, placed, kept =>
    ∃ middle, Cuts tagName placed middle ∧ CutsAll tagNames middle kept

variable {tagNames : List String}

theorem exists_cutsAll (tagNames : List String) (placed : List Placed) :
    ∃ kept, CutsAll tagNames placed kept := by
  induction tagNames generalizing placed with
  | nil => exact ⟨placed, rfl⟩
  | cons tagName tagNames ih =>
    obtain ⟨middle, hmiddle⟩ := exists_cuts tagName placed
    obtain ⟨kept, hkept⟩ := ih middle
    exact ⟨kept, middle, hmiddle, hkept⟩

theorem CutsAll.sublist (h : CutsAll tagNames placed kept) : List.Sublist kept placed := by
  induction tagNames generalizing placed with
  | nil => exact (show kept = placed from h) ▸ List.Sublist.refl _
  | cons tagName tagNames ih =>
    obtain ⟨middle, hmiddle, hrest⟩ := h
    exact (ih hrest).trans hmiddle.sublist

theorem CutsAll.removed_eq (h : CutsAll tagNames placed kept) :
    tagNames.foldl (fun output tagName => removeHtmlTagBlocks tagName output) (text placed) =
      text kept := by
  induction tagNames generalizing placed with
  | nil => exact congrArg text (show kept = placed from h).symm
  | cons tagName tagNames ih =>
    obtain ⟨middle, hmiddle, hrest⟩ := h
    rw [List.foldl_cons, hmiddle.removeHtmlTagBlocks_eq]
    exact ih hrest

/-- An opening tag that stands in the page is not kept as a whole. -/
theorem CutsAll.not_kept (h : CutsAll tagNames placed kept) (hnodup : placed.Nodup)
    (htag : tagName ∈ tagNames) {window : List Placed} (hwindow : window <:+: placed)
    (hspells : lower (text window) = openPattern tagName) : ¬ window ⊆ kept := by
  intro hsub
  induction tagNames generalizing placed with
  | nil => cases htag
  | cons first tagNames ih =>
    obtain ⟨middle, hmiddle, hrest⟩ := h
    have hsubMiddle : window ⊆ middle := fun a ha => hrest.sublist.subset (hsub ha)
    rcases List.mem_cons.mp htag with rfl | hlater
    · obtain ⟨front, tail, hplaced⟩ := hwindow
      cases window with
      | nil => cases hspells
      | cons a window =>
        have hsplit : placed = front ++ a :: (window ++ tail) := by
          rw [← hplaced, List.append_assoc, List.cons_append]
        have hopens : Opens (openPattern tagName) (a :: (window ++ tail)) := by
          unfold Opens
          rw [← List.cons_append, text_append, lower_append, hspells]
          exact List.prefix_append _ _
        exact hmiddle.head_not_mem hnodup hsplit hopens (hsubMiddle List.mem_cons_self)
    · have hstands := hnodup.infix_of_sublist hmiddle.sublist hwindow hsubMiddle
      exact ih hrest (hmiddle.sublist.nodup hnodup) hlater hstands

/-! ## Pages without opening tags -/

/-- No opening tag of the elements that are no content is left. -/
def WithoutOpeningTags (page : List Char) : Prop :=
  ∀ tagName ∈ nonContentTags, ¬ openPattern tagName <:+: lower page

/-- What is left of the body has no opening tag, and nothing more is removed from it. -/
def Sanitized (body : List Char) : Prop :=
  WithoutOpeningTags (removeNonContentHtmlBlocks body) ∧
    removeNonContentHtmlBlocks (removeNonContentHtmlBlocks body) = removeNonContentHtmlBlocks body

/-- Nothing is removed from a page without opening tags. -/
theorem WithoutOpeningTags.removed_eq_self {page : List Char} (h : WithoutOpeningTags page) :
    removeNonContentHtmlBlocks page = page := by
  have hpass : ∀ tagName ∈ nonContentTags, removeHtmlTagBlocks tagName page = page := by
    intro tagName htag
    rw [removeHtmlTagBlocks, find_eq_none.mpr (h tagName htag)]
  have hall : ∀ tagNames ⊆ nonContentTags,
      tagNames.foldl (fun output tagName => removeHtmlTagBlocks tagName output) page = page := by
    intro tagNames hsub
    induction tagNames with
    | nil => rfl
    | cons tagName tagNames ih =>
      rw [List.foldl_cons, hpass tagName (hsub List.mem_cons_self)]
      exact ih fun name hname => hsub (List.mem_cons_of_mem _ hname)
  exact hall nonContentTags fun _ h => h

/-- A piece of the text is the text of a piece. -/
theorem exists_window {placed : List Placed} {piece : List Char}
    (h : piece <:+: lower (text placed)) :
    ∃ window, window <:+: placed ∧ lower (text window) = piece := by
  unfold lower text at h
  rw [List.map_map] at h
  obtain ⟨front, tail, hsplit⟩ := h
  obtain ⟨frontWindow, tail', hplaced, hfrontWindow, -⟩ := List.map_eq_append_iff.mp hsplit.symm
  obtain ⟨front', window, hsplit', -, hwindow⟩ := List.map_eq_append_iff.mp hfrontWindow
  refine ⟨window, ⟨front', tail', ?_⟩, ?_⟩
  · rw [hplaced, hsplit']
  · unfold lower text
    rw [List.map_map]
    exact hwindow

/-! ## Parts of an opening tag -/

/-- A part of an opening tag stands at the front, directly before the opening tag of a block. The
closing tag of the block, and after it what the part lacks, come further on in this order, though
perhaps not in one piece. -/
def PartHere (value : List Char) : Prop :=
  ∃ tagName ∈ nonContentTags, ∃ blockName ∈ nonContentTags, ∃ n < (openPattern tagName).length,
    0 < n ∧ (openPattern tagName).take n <+: lower value ∧
      openPattern blockName <+: lower (value.drop n) ∧
        List.Sublist (closePattern blockName ++ (openPattern tagName).drop n)
          (lower (value.drop n))

instance (value : List Char) : Decidable (PartHere value) := by
  unfold PartHere
  infer_instance

/-- Somewhere in the body stands a part of an opening tag directly before a block. -/
def HasPart (body : List Char) : Prop := ∃ value ∈ body.tails, PartHere value

instance (body : List Char) : Decidable (HasPart body) := by
  unfold HasPart
  infer_instance

/-- The part of an opening tag among characters in their places: it stands behind `front` and
before `tail`, and lacks some characters. -/
structure PartBetween (placed front part tail : List Placed) (missing : List Char) : Prop where
  split : placed = front ++ (part ++ tail)
  nonempty : part ≠ []
  proper : missing ≠ []
  spells : ∃ tagName ∈ nonContentTags, lower (text part) ++ missing = openPattern tagName
  block : ∃ blockName ∈ nonContentTags, Opens (openPattern blockName) tail ∧
    List.Sublist (closePattern blockName ++ missing) (lower (text tail))

theorem PartBetween.hasPart {placed front part tail : List Placed} {missing : List Char}
    (h : PartBetween placed front part tail missing) : HasPart (text placed) := by
  obtain ⟨tagName, htag, hspells⟩ := h.spells
  obtain ⟨blockName, hblock, hopens, hbehind⟩ := h.block
  have htake : (openPattern tagName).take part.length = lower (text part) := by
    rw [← hspells, ← length_lower_text, List.take_left]
  have hdrop : (openPattern tagName).drop part.length = missing := by
    rw [← hspells, ← length_lower_text, List.drop_left]
  refine ⟨text (part ++ tail), ?_, tagName, htag, blockName, hblock, part.length, ?_, ?_, ?_, ?_, ?_⟩
  · rw [List.mem_tails, h.split, text_append front]
    exact List.suffix_append _ _
  · rw [← hspells, List.length_append, length_lower_text]
    exact Nat.lt_add_of_pos_right (List.length_pos_iff.mpr h.proper)
  · exact List.length_pos_iff.mpr h.nonempty
  · rw [htake, text_append, lower_append]
    exact List.prefix_append _ _
  · rw [(text_between part tail).2]
    exact hopens
  · rw [(text_between part tail).2, hdrop]
    exact hbehind

/-! ## What a pass joins -/

theorem closePattern_suffix {block rest : List Placed} {n : Nat}
    (hclose : find (closePattern tagName) (lower (text (block ++ rest))) = some n)
    (hlength : block.length = n + (closePattern tagName).length) :
    closePattern tagName <:+ lower (text block) := by
  have hthere := (find_eq_some.mp hclose).2.1
  rw [text_append, lower_append,
    List.drop_append_of_le_length (by rw [length_lower_text]; omega)] at hthere
  have hsame : (lower (text block)).drop n = closePattern tagName := by
    refine (List.prefix_of_prefix_length_le (List.prefix_append _ _) hthere ?_).eq_of_length ?_
    · rw [List.length_drop, length_lower_text]
      omega
    · rw [List.length_drop, length_lower_text]
      omega
  rw [← hsame]
  exact List.drop_suffix n _

/-- When a pass brings characters together that stood apart, the first of them stood directly
before a block. Of the text behind it the pass keeps only what comes behind the closing tag of
the block. -/
theorem Cuts.joined (h : Cuts tagName placed kept) {front window tail : List Placed}
    (hkept : kept = front ++ (window ++ tail)) (happart : ¬ window <:+: placed) :
    ∃ before part rest behind, window = part ++ rest ∧ part ≠ [] ∧ rest ≠ [] ∧
      placed = before ++ (part ++ behind) ∧ Opens (openPattern tagName) behind ∧
        List.Sublist (closePattern tagName ++ lower (text (rest ++ tail))) (lower (text behind)) := by
  induction h generalizing front with
  | whole hopen => exact absurd ⟨front, tail, by rw [hkept, List.append_assoc]⟩ happart
  | @unclosed before rest hopen hclose =>
    refine absurd ⟨front, tail ++ rest, ?_⟩ happart
    rw [hkept]
    simp only [List.append_assoc]
  | @block before block rest kept n hopen hclose hlength hrest ih =>
    rcases List.append_eq_append_cases hkept.symm with
      ⟨middle, hne, hbefore, hwindow⟩ | ⟨middle, hfront, hbehind⟩
    · -- The window begins before the block, so it has to end behind it.
      rcases List.append_eq_append_cases hwindow with
        ⟨inner, -, hmiddle, htail⟩ | ⟨inner, hsplit, hkept'⟩
      · refine absurd ⟨front, inner ++ (block ++ rest), ?_⟩ happart
        rw [hbefore, hmiddle]
        simp only [List.append_assoc]
      · have hinner : inner ≠ [] := by
          rintro rfl
          refine happart ⟨front, block ++ rest, ?_⟩
          rw [hsplit, hbefore]
          simp only [List.append_assoc, List.append_nil]
        refine ⟨front, middle, inner, block ++ rest, hsplit, hne, hinner, ?_, ?_, ?_⟩
        · rw [hbefore, List.append_assoc]
        · exact (find_between.mp hopen).1
        · rw [← hkept', text_append, lower_append]
          exact (closePattern_suffix hclose hlength).sublist.append
            ((hrest.sublist.map Prod.fst).map asciiLower)
    · -- The window lies behind the block.
      have happart' : ¬ window <:+: rest := by
        intro hrest'
        apply happart
        exact hrest'.trans ((List.suffix_append _ _).trans (List.suffix_append _ _)).isInfix
      obtain ⟨before', part, rest', behind, hsplit, hpart, hrest', hplaced, hopens, hsub⟩ :=
        ih hbehind happart'
      refine ⟨before ++ (block ++ before'), part, rest', behind, hsplit, hpart, hrest', ?_,
        hopens, hsub⟩
      rw [hplaced]
      simp only [List.append_assoc]

/-- The characters of a pattern that stands at the front. -/
theorem Opens.exists_opening (h : Opens pattern placed) :
    ∃ opening rest, placed = opening ++ rest ∧ lower (text opening) = pattern := by
  obtain ⟨after, hafter⟩ := h
  unfold lower text at hafter ⊢
  simp only [List.map_map] at hafter ⊢
  obtain ⟨opening, rest, hsplit, hopening, -⟩ := List.map_eq_append_iff.mp hafter.symm
  exact ⟨opening, rest, hsplit, hopening⟩

theorem opens_append {opening : List Placed} (hopening : lower (text opening) = pattern)
    (rest : List Placed) : Opens pattern (opening ++ rest) := by
  unfold Opens
  rw [text_append, lower_append, hopening]
  exact List.prefix_append _ _

theorem lower_text_sublist {front tail : List Placed} (h : List.Sublist front tail) :
    List.Sublist (lower (text front)) (lower (text tail)) := (h.map Prod.fst).map asciiLower

/-- A part before a block in what a pass keeps was a part before a block already; or one was
where the pass has joined the text. -/
theorem Cuts.partBetween (h : Cuts tagName placed kept) (htag : tagName ∈ nonContentTags)
    (hnodup : placed.Nodup) {front part tail : List Placed} {missing : List Char}
    (hpart : PartBetween kept front part tail missing) :
    ∃ front' part' tail' missing', PartBetween placed front' part' tail' missing' := by
  obtain ⟨blockName, hblock, hopens, hbehind⟩ := hpart.block
  obtain ⟨opening, tail, rfl, hopening⟩ := hopens.exists_opening
  have hsplit : kept = front ++ ((part ++ opening) ++ tail) := by
    rw [hpart.split, List.append_assoc]
  by_cases hstands : part ++ opening <:+: placed
  · -- The part and the opening tag of the block stand together in the text before the pass.
    obtain ⟨front', tail', hplaced⟩ := hstands
    rw [List.append_assoc] at hplaced
    have hsub : List.Sublist (front ++ ((part ++ opening) ++ tail))
        (front' ++ ((part ++ opening) ++ tail')) := by
      rw [← hsplit, hplaced]
      exact h.sublist
    have hlater : List.Sublist tail tail' := by
      refine List.Nodup.sublist_behind (by rw [hplaced]; exact hnodup) ?_ hsub
      exact List.append_ne_nil_of_left_ne_nil hpart.nonempty _
    refine ⟨front', part, opening ++ tail', missing,
      { split := ?_, nonempty := hpart.nonempty, proper := hpart.proper, spells := hpart.spells
        block := ⟨blockName, hblock, opens_append hopening _, ?_⟩ }⟩
    · rw [← hplaced, List.append_assoc]
    · exact hbehind.trans (lower_text_sublist (hlater.append_left _))
  · obtain ⟨before, first, second, behind, hwindow, hfirst, hsecond, hplaced, hopens', hsub⟩ :=
      h.joined hsplit hstands
    rcases List.append_eq_append_cases hwindow with
      ⟨middle, hmiddle, hfirstEq, hopeningEq⟩ | ⟨middle, hpartEq, hsecondEq⟩
    · -- The pass has joined the opening tag of the block: a part of that one stood before.
      refine ⟨before ++ part, middle, behind, lower (text second),
        { split := ?_, nonempty := hmiddle, proper := ?_, spells := ⟨blockName, hblock, ?_⟩
          block := ⟨tagName, htag, hopens', ?_⟩ }⟩
      · rw [hplaced, hfirstEq]
        simp only [List.append_assoc]
      · intro hnil
        apply hsecond
        rw [← List.length_eq_zero_iff, ← length_lower_text, hnil, List.length_nil]
      · rw [← hopening, hopeningEq, text_append, lower_append]
      · refine List.Sublist.trans ?_ hsub
        rw [text_append, lower_append]
        exact (List.sublist_append_left _ _).append_left _
    · -- The pass has joined the part, or the part with the opening tag behind it.
      have hmissing : lower (text middle) ++ missing ≠ [] :=
        List.append_ne_nil_of_right_ne_nil _ hpart.proper
      refine ⟨before, first, behind, lower (text middle) ++ missing,
        { split := hplaced, nonempty := hfirst, proper := hmissing, spells := ?_
          block := ⟨tagName, htag, hopens', ?_⟩ }⟩
      · obtain ⟨partName, hname, hspells⟩ := hpart.spells
        refine ⟨partName, hname, ?_⟩
        rw [← hspells, hpartEq, text_append, lower_append, List.append_assoc]
      · refine List.Sublist.trans ?_ hsub
        rw [hsecondEq, List.append_assoc, text_append, lower_append]
        refine List.Sublist.append_left ?_ _
        refine List.Sublist.append_left ?_ _
        exact (List.sublist_append_right _ _).trans hbehind

/-- An opening tag that the passes have put together has left a part before a block. -/
theorem CutsAll.exists_part (h : CutsAll tagNames placed kept) (htags : tagNames ⊆ nonContentTags)
    (hnodup : placed.Nodup) {window : List Placed} (hwindow : window <:+: kept)
    (hspells : ∃ tagName ∈ nonContentTags, lower (text window) = openPattern tagName)
    (happart : ¬ window <:+: placed) :
    ∃ front part tail missing, PartBetween placed front part tail missing := by
  induction tagNames generalizing placed with
  | nil =>
    obtain rfl : kept = placed := h
    exact absurd hwindow happart
  | cons tagName tagNames ih =>
    obtain ⟨middle, hmiddle, hrest⟩ := h
    have htag := htags List.mem_cons_self
    by_cases hstands : window <:+: middle
    · obtain ⟨front, tail, hsplit⟩ := hstands
      obtain ⟨before, part, rest, behind, rfl, hpart, hrest', hplaced, hopens, hsub⟩ :=
        hmiddle.joined (by rw [← hsplit, List.append_assoc]) happart
      obtain ⟨windowName, hname, hspells⟩ := hspells
      refine ⟨before, part, behind, lower (text rest),
        { split := hplaced, nonempty := hpart, proper := ?_, spells := ⟨windowName, hname, ?_⟩
          block := ⟨tagName, htag, hopens, ?_⟩ }⟩
      · intro hnil
        apply hrest'
        rw [← List.length_eq_zero_iff, ← length_lower_text, hnil, List.length_nil]
      · rw [← hspells, text_append, lower_append]
      · refine List.Sublist.trans ?_ hsub
        rw [text_append, lower_append]
        exact (List.sublist_append_left _ _).append_left _
    · have hlater : tagNames ⊆ nonContentTags := fun name hname =>
        htags (List.mem_cons_of_mem _ hname)
      obtain ⟨front, part, tail, missing, hpart⟩ :=
        ih hrest hlater (hmiddle.sublist.nodup hnodup) hstands
      exact hmiddle.partBetween htag hnodup hpart

/-- A body is sanitized when no part of an opening tag stands directly before a block in it. -/
theorem sanitized_of_not_hasPart {body : List Char} (h : ¬ HasPart body) : Sanitized body := by
  obtain ⟨kept, hkept⟩ := exists_cutsAll nonContentTags body.zipIdx
  have houtput : removeNonContentHtmlBlocks body = text kept := by
    have hremoved := hkept.removed_eq
    rw [text_zipIdx] at hremoved
    exact hremoved
  have hclean : WithoutOpeningTags (removeNonContentHtmlBlocks body) := by
    intro tagName htag hoccurs
    rw [houtput] at hoccurs
    obtain ⟨window, hwindow, hspells⟩ := exists_window hoccurs
    by_cases hstands : window <:+: body.zipIdx
    · exact hkept.not_kept (nodup_zipIdx body) htag hstands hspells hwindow.subset
    · obtain ⟨front, part, tail, missing, hpart⟩ := hkept.exists_part (List.Subset.refl _)
        (nodup_zipIdx body) hwindow ⟨tagName, htag, hspells⟩ hstands
      apply h
      have hhas := hpart.hasPart
      rwa [text_zipIdx] at hhas
  exact ⟨hclean, hclean.removed_eq_self⟩

/-- Blocks one behind the other and in one another do no harm as such. -/
theorem sanitized_of_not_hasPart_nested :
    Sanitized "a<style>b<svg></style>c</svg><SCRIPT>d</SCRIPT> < s <svg/>e".toList :=
  sanitized_of_not_hasPart (by decide +kernel)

/-- The style block inside the tag is removed after the pass for scripts. -/
theorem not_sanitized : ¬ Sanitized "<scr<style></style>ipt>alert(1)".toList := by
  rintro ⟨hclean, -⟩
  apply hclean "script" (by decide)
  decide +kernel

end FetchedContent

end BlueLagoon
