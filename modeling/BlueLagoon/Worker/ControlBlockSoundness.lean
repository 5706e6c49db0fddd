import BlueLagoon.Worker.Response
import Mathlib.Algebra.GroupWithZero.Nat
import Mathlib.Algebra.Order.BigOperators.Group.List

/-!
# What the user sees and what is proposed

The worker strips a control block by cutting the text at a marker, so the user's text is
right exactly when the cut is made at the first marker and only blank text stands outside
the blocks after it. Extraction looks at the last marker of each kind, so the proposals
are right exactly when no other block of that kind makes any.
-/

namespace BlueLagoon.Worker

/-! ## Markers -/

/-- Nothing but the first three characters of a marker is a backquote. -/
theorem marker_no_overlap {tag tag' : ControlTag} {k : Nat} (hpos : 0 < k)
    (hlt : k < tag.marker.length) {after after' : List Char} :
    tag.marker.drop k ++ after ≠ tag'.marker ++ after' := by
  intro h
  have hcomparable := List.prefix_or_prefix_of_prefix (List.prefix_append (tag.marker.drop k) after)
    (h ▸ List.prefix_append tag'.marker after')
  have hall : ∀ tag tag' : ControlTag, ∀ k < tag.marker.length, 0 < k →
      ¬ (tag.marker.drop k).isPrefixOf tag'.marker ∧
        ¬ tag'.marker.isPrefixOf (tag.marker.drop k) := by
    intro tag tag'
    cases tag <;> cases tag' <;> decide
  obtain ⟨hleft, hright⟩ := hall tag tag' k hlt hpos
  rcases hcomparable with hstart | hstart
  · exact hleft (List.isPrefixOf_iff_prefix.mpr hstart)
  · exact hright (List.isPrefixOf_iff_prefix.mpr hstart)

/-- At one place stands one marker. -/
theorem marker_inj {tag tag' : ControlTag} {after after' : List Char}
    (h : tag.marker ++ after = tag'.marker ++ after') : tag = tag' ∧ after = after' := by
  have htag : tag = tag' := by
    have hcomparable := List.prefix_or_prefix_of_prefix (List.prefix_append tag.marker after)
      (h ▸ List.prefix_append tag'.marker after')
    have hall : ∀ tag tag' : ControlTag, tag.marker.isPrefixOf tag'.marker → tag = tag' := by
      intro tag tag'
      cases tag <;> cases tag' <;> decide
    rcases hcomparable with hstart | hstart
    · exact hall _ _ (List.isPrefixOf_iff_prefix.mpr hstart)
    · exact (hall _ _ (List.isPrefixOf_iff_prefix.mpr hstart)).symm
  subst htag
  exact ⟨rfl, List.append_cancel_left h⟩

/-- Of two markers in a text, the one that begins first ends before the other begins. -/
theorem marker_order {tag tag' : ControlTag} {before after before' after' : List Char}
    (h : before ++ (tag.marker ++ after) = before' ++ (tag'.marker ++ after'))
    (hle : before.length ≤ before'.length) :
    (before = before' ∧ tag = tag' ∧ after = after') ∨
      ∃ between, before' = before ++ (tag.marker ++ between) ∧
        after = between ++ (tag'.marker ++ after') := by
  -- the second marker begins `skip` characters after the first
  obtain ⟨skip, rfl⟩ : ∃ skip, before' = before ++ skip := by
    have hstart := List.prefix_of_prefix_length_le (List.prefix_append before (tag.marker ++ after))
      (h ▸ List.prefix_append before' (tag'.marker ++ after')) hle
    obtain ⟨skip, hskip⟩ := hstart
    exact ⟨skip, hskip.symm⟩
  rw [List.append_assoc] at h
  have hrest : tag.marker ++ after = skip ++ (tag'.marker ++ after') := List.append_cancel_left h
  rcases List.append_eq_append_iff.mp hrest with ⟨between, hskip, hafter⟩ | ⟨inner, hmarker, hafter⟩
  · exact Or.inr ⟨between, by rw [hskip], hafter⟩
  · -- the second marker begins within the first, so at its beginning
    cases skip with
    | nil =>
      obtain ⟨htag, hafter⟩ := marker_inj hrest
      exact Or.inl ⟨(List.append_nil _).symm, htag, hafter⟩
    | cons c skip =>
      by_cases hinner : inner = []
      · subst hinner
        refine Or.inr ⟨[], ?_, ?_⟩
        · rw [List.append_nil] at hmarker ⊢
          rw [hmarker]
        · exact hafter.symm
      · have hdrop : tag.marker.drop (c :: skip).length = inner := by
          rw [hmarker, List.drop_left]
        have hlt : (c :: skip).length < tag.marker.length := by
          rw [hmarker, List.length_append]
          have hpos := List.length_pos_iff.mpr hinner
          omega
        have hpos : 0 < (c :: skip).length := Nat.succ_pos _
        have hsame : tag.marker.drop (c :: skip).length ++ after = tag'.marker ++ after' := by
          rw [hdrop]
          exact hafter.symm
        exact absurd hsame (marker_no_overlap hpos hlt)

/-- No marker is found exactly in a text without one. -/
theorem firstMarker_eq_none {text : List Char} : firstMarker text = none ↔ MarkerFree text := by
  induction text with
  | nil =>
    refine iff_of_true rfl fun tag hinfix => ?_
    have hnil := List.infix_nil.mp hinfix
    cases tag <;> exact absurd hnil (by decide)
  | cons c rest ih =>
    rw [firstMarker]
    split
    · rename_i hstart
      refine iff_of_false nofun fun hfree => hfree .governedActions ?_
      exact (List.isPrefixOf_iff_prefix.mp hstart).isInfix
    · rename_i hactions
      split
      · rename_i hstart
        refine iff_of_false nofun fun hfree => hfree .identityKickstart ?_
        exact (List.isPrefixOf_iff_prefix.mp hstart).isInfix
      · rename_i hkickstart
        rw [Option.map_eq_none_iff, ih]
        constructor
        · intro hfree tag hinfix
          rcases List.infix_cons_iff.mp hinfix with hstart | hrest
          · have hisPrefix := List.isPrefixOf_iff_prefix.mpr hstart
            cases tag
            · exact hactions hisPrefix
            · exact hkickstart hisPrefix
          · exact hfree tag hrest
        · intro hfree tag hinfix
          exact hfree tag (List.infix_cons_iff.mpr (Or.inr hinfix))

/-- No marker begins before the first one. -/
theorem firstMarker_eq_some {text before after : List Char} {tag : ControlTag}
    (h : firstMarker text = some (before, tag, after)) :
    text = before ++ (tag.marker ++ after) ∧
      ∀ (tag' : ControlTag) (before' after' : List Char),
        text = before' ++ (tag'.marker ++ after') → before.length ≤ before'.length := by
  induction text generalizing before with
  | nil => cases h
  | cons c rest ih =>
    rw [firstMarker] at h
    split at h
    · rename_i hstart
      obtain ⟨rfl, rfl, rfl⟩ := h
      exact ⟨(Search.append_drop_of_isPrefixOf hstart).symm, fun _ _ _ _ => Nat.zero_le _⟩
    · rename_i hactions
      split at h
      · rename_i hstart
        obtain ⟨rfl, rfl, rfl⟩ := h
        exact ⟨(Search.append_drop_of_isPrefixOf hstart).symm, fun _ _ _ _ => Nat.zero_le _⟩
      · rename_i hkickstart
        obtain ⟨⟨before₁, tag₁, after₁⟩, hrest, heq⟩ := Option.map_eq_some_iff.mp h
        obtain ⟨rfl, rfl, rfl⟩ := heq
        obtain ⟨htext, hleast⟩ := ih hrest
        refine ⟨by rw [List.cons_append, ← htext], fun tag' before' after' heq => ?_⟩
        cases before' with
        | nil =>
          have hstart : tag'.marker.isPrefixOf (c :: rest) := by
            rw [heq]
            exact Search.isPrefixOf_append _ _
          cases tag'
          · exact absurd hstart hactions
          · exact absurd hstart hkickstart
        | cons b before' => exact Nat.succ_le_succ (hleast tag' before' after' (List.cons.inj heq).2)

/-- The text before the first marker holds none. -/
theorem markerFree_before {text before after : List Char} {tag : ControlTag}
    (h : firstMarker text = some (before, tag, after)) : MarkerFree before := by
  rintro tag' ⟨left, right, hbefore⟩
  obtain ⟨htext, hleast⟩ := firstMarker_eq_some h
  have hcut : text = left ++ (tag'.marker ++ (right ++ (tag.marker ++ after))) := by
    rw [htext, ← hbefore]
    simp only [List.append_assoc]
  have hle := hleast tag' left _ hcut
  have hlength : before.length = left.length + tag'.marker.length + right.length := by
    rw [← hbefore, List.length_append, List.length_append]
  have hpos : 0 < tag'.marker.length := by cases tag' <;> decide
  omega

/-! ## Blank text -/

/-- The characters of a text that are not white space. -/
def visible (text : List Char) : List Char := text.filter fun c => !Text.isWhitespace c

theorem visible_append (left right : List Char) :
    visible (left ++ right) = visible left ++ visible right :=
  List.filter_append _ _

theorem visible_dropWhile (text : List Char) :
    visible (text.dropWhile Text.isWhitespace) = visible text := by
  induction text with
  | nil => rfl
  | cons c rest ih =>
    by_cases hblank : Text.isWhitespace c
    · rw [List.dropWhile_cons_of_pos hblank, ih, visible, visible, List.filter_cons_of_neg]
      simp [hblank]
    · rw [List.dropWhile_cons_of_neg hblank]

theorem visible_reverse (text : List Char) : visible text.reverse = (visible text).reverse :=
  List.filter_reverse

theorem visible_trimEnd (text : List Char) : visible (trimEnd text) = visible text := by
  rw [trimEnd, visible_reverse, visible_dropWhile, visible_reverse, List.reverse_reverse]

theorem visible_trimChars (text : List Char) : visible (Text.trimChars text) = visible text := by
  rw [Text.trimChars, visible_reverse, visible_dropWhile, visible_reverse, List.reverse_reverse,
    visible_dropWhile]

theorem visible_eq_nil {text : List Char} :
    visible text = [] ↔ ∀ c ∈ text, Text.isWhitespace c := by
  rw [visible, List.filter_eq_nil_iff]
  simp

theorem trimEnd_isPrefix (text : List Char) : trimEnd text <+: text := by
  have hsuffix := List.dropWhile_suffix Text.isWhitespace (l := text.reverse)
  rw [trimEnd, ← List.reverse_suffix, List.reverse_reverse]
  exact hsuffix

/-- What stands before a visible character is not trimmed away. -/
theorem trimEnd_visible (before after : List Char) {c : Char} (h : Text.isWhitespace c = false) :
    trimEnd (before ++ c :: after) = before ++ c :: trimEnd after := by
  have hkept : ([c] ++ before.reverse).dropWhile Text.isWhitespace = [c] ++ before.reverse := by
    rw [List.singleton_append, List.dropWhile_cons_of_neg (by rw [h]; decide)]
  unfold trimEnd
  rw [List.reverse_append, List.reverse_cons, List.append_assoc, List.dropWhile_append]
  split
  · rename_i hblank
    rw [hkept, List.isEmpty_iff.mp hblank]
    simp
  · simp

/-- A marker is not trimmed away. -/
theorem trimEnd_marker (before after : List Char) (tag : ControlTag) :
    trimEnd (before ++ (tag.marker ++ after)) = before ++ (tag.marker ++ trimEnd after) := by
  obtain ⟨init, last, hmarker, hvisible⟩ :
      ∃ init last, tag.marker = init ++ [last] ∧ Text.isWhitespace last = false := by
    cases tag
    · exact ⟨ControlTag.governedActions.marker.dropLast, 's', by decide, by decide⟩
    · exact ⟨ControlTag.identityKickstart.marker.dropLast, 't', by decide, by decide⟩
  have hend := trimEnd_visible (before ++ init) after hvisible
  simp only [List.append_assoc] at hend
  simpa only [hmarker, List.append_assoc, List.singleton_append] using hend

/-- Trimming leaves white space at the front only. -/
theorem trimEnd_eq (text : List Char) : ∃ gap, trimEnd text = gap ++ Text.trimChars text := by
  have hparts : text.takeWhile Text.isWhitespace ++ text.dropWhile Text.isWhitespace = text :=
    List.takeWhile_append_dropWhile
  have htrim : Text.trimChars text = trimEnd (text.dropWhile Text.isWhitespace) := rfl
  cases hrest : text.dropWhile Text.isWhitespace with
  | nil =>
    refine ⟨trimEnd text, ?_⟩
    rw [htrim, hrest]
    exact (List.append_nil _).symm
  | cons c rest =>
    have hvisible : Text.isWhitespace c = false := by
      have hne : text.dropWhile Text.isWhitespace ≠ [] := by
        rw [hrest]
        exact List.cons_ne_nil c rest
      have hnot := List.head_dropWhile_not Text.isWhitespace hne
      simpa only [hrest, List.head_cons] using hnot
    refine ⟨text.takeWhile Text.isWhitespace, ?_⟩
    have hend := trimEnd_visible (text.takeWhile Text.isWhitespace) rest hvisible
    rw [← hrest, hparts] at hend
    have hstart := trimEnd_visible [] rest hvisible
    rw [htrim, hrest]
    rw [List.nil_append, List.nil_append] at hstart
    rw [hend, hstart]

theorem not_markerFree_append (before after : List Char) (tag : ControlTag) :
    ¬ MarkerFree (before ++ (tag.marker ++ after)) :=
  fun hfree => hfree tag ⟨before, after, List.append_assoc _ _ _⟩

theorem not_markerFree_trimEnd (before after : List Char) (tag : ControlTag) :
    ¬ MarkerFree (trimEnd (before ++ (tag.marker ++ after))) := by
  rw [trimEnd_marker]
  exact not_markerFree_append _ _ tag

theorem MarkerFree.trimEnd {text : List Char} (h : MarkerFree text) :
    MarkerFree (trimEnd text) :=
  fun tag hinfix => h tag (List.IsInfix.trans hinfix (trimEnd_isPrefix text).isInfix)

/-- Pieces of text, each without the white space around it, stand in a text in their order. -/
def ContainsInOrder : List (List Char) → List Char → Prop
  | [], _ => True
  | piece :: pieces, text =>
    ∃ gap rest, text = gap ++ (Text.trimChars piece ++ rest) ∧ ContainsInOrder pieces rest

theorem ContainsInOrder.visible_length {pieces : List (List Char)} {text : List Char}
    (h : ContainsInOrder pieces text) :
    (pieces.map fun piece => (visible piece).length).sum ≤ (visible text).length := by
  induction pieces generalizing text with
  | nil => exact Nat.zero_le _
  | cons piece pieces ih =>
    obtain ⟨gap, rest, rfl, hrest⟩ := h
    rw [List.map_cons, List.sum_cons, visible_append, visible_append, visible_trimChars,
      List.length_append, List.length_append]
    have hle := ih hrest
    omega

theorem containsInOrder_of_blank {pieces : List (List Char)}
    (h : ∀ piece ∈ pieces, visible piece = []) (text : List Char) :
    ContainsInOrder pieces text := by
  induction pieces generalizing text with
  | nil => trivial
  | cons piece pieces ih =>
    have htrim : Text.trimChars piece = [] := by
      have hblank := visible_eq_nil.mp (h piece List.mem_cons_self)
      have hleft : piece.dropWhile Text.isWhitespace = [] := List.dropWhile_eq_nil_iff.mpr hblank
      rw [Text.trimChars, hleft]
      rfl
    refine ⟨[], text, by rw [htrim]; rfl, ih (fun other hother => ?_) text⟩
    exact h other (List.mem_cons_of_mem _ hother)

/-- A text cut before its first block contains the texts outside the blocks exactly when
those after the first block are blank. -/
theorem containsInOrder_trimEnd {leading : List Char} {later : List (List Char)} :
    ContainsInOrder (leading :: later) (trimEnd leading) ↔ ∀ piece ∈ later, visible piece = [] := by
  constructor
  · intro h piece hpiece
    have hle := h.visible_length
    rw [List.map_cons, List.sum_cons, visible_trimEnd] at hle
    have hmem : (visible piece).length ∈ later.map fun piece => (visible piece).length :=
      List.mem_map_of_mem hpiece
    have hsum := List.le_sum_of_mem hmem
    exact List.length_eq_zero_iff.mp (by omega)
  · intro h
    obtain ⟨gap, hgap⟩ := trimEnd_eq leading
    exact ⟨gap, [], by rw [List.append_nil, hgap], containsInOrder_of_blank h []⟩

/-! ## Blocks -/

theorem blockBody_isSome {after : List Char} : (blockBody after).isSome ↔ Closed after := by
  constructor
  · intro h
    obtain ⟨body, hbody⟩ := Option.isSome_iff_exists.mp h
    obtain ⟨line, hline, hclosing⟩ := Option.bind_eq_some_iff.mp hbody
    refine ⟨line.1, body.1, body.2, ?_⟩
    rw [← Search.eq_of_splitFirst hclosing]
    exact Search.eq_of_splitFirst hline
  · rintro ⟨line, content, rest, hafter⟩
    -- the first line break is at the one of the cut or before it, so the fence follows it
    have hbreak : after = line ++ (['\n'] ++ (content ++ (closing ++ rest))) := hafter
    obtain ⟨line', rest', hline, hle⟩ := Search.splitFirst_of_eq hbreak
    have heq := Search.eq_of_splitFirst hline
    have hinfix : closing <:+: rest' := by
      have hsame : (line ++ ['\n']) ++ (content ++ (closing ++ rest)) = (line' ++ ['\n']) ++ rest' := by
        rw [List.append_assoc, List.append_assoc]
        exact hafter.symm.trans heq
      have hstart : line' ++ ['\n'] <+: line ++ ['\n'] := by
        have hstart := hsame ▸ List.prefix_append (line ++ ['\n']) (content ++ (closing ++ rest))
        refine List.prefix_of_prefix_length_le (List.prefix_append _ rest') hstart ?_
        rw [List.length_append, List.length_append]
        exact Nat.add_le_add_right hle _
      obtain ⟨skipped, hskipped⟩ := hstart
      rw [← hskipped, List.append_assoc] at hsame
      refine ⟨skipped ++ content, rest, ?_⟩
      rw [← List.append_cancel_left hsame]
      simp only [List.append_assoc]
    rw [blockBody, hline, Option.bind_some]
    cases hclosing : Search.splitFirst closing rest' with
    | none => exact absurd hinfix (Search.splitFirst_eq_none.mp hclosing)
    | some parts => rfl

/-- A fence that closes a later block closes an earlier one too. -/
theorem Closed.of_suffix {before after : List Char} (h : Closed after) : Closed (before ++ after) := by
  obtain ⟨line, content, rest, rfl⟩ := h
  exact ⟨before ++ line, content, rest, by rw [List.append_assoc]⟩

section Reading

variable {text before after : List Char} {tag : ControlTag}

theorem outside_of_markerFree (h : firstMarker text = none) :
    leadingText text = text ∧ laterTexts text = [] := by
  unfold leadingText laterTexts
  cases hlength : text.length with
  | zero => exact ⟨rfl, rfl⟩
  | succ fuel =>
    rw [outsideTexts, h]
    exact ⟨rfl, rfl⟩

theorem outside_of_open (h : firstMarker text = some (before, tag, after)) (hopen : ¬ Closed after) :
    leadingText text = text ∧ laterTexts text = [] := by
  unfold leadingText laterTexts
  cases hlength : text.length with
  | zero => exact ⟨rfl, rfl⟩
  | succ fuel =>
    have hbody : blockBody after = none := by
      rw [← Option.not_isSome_iff_eq_none, blockBody_isSome]
      exact hopen
    rw [outsideTexts, h]
    dsimp only
    rw [hbody]
    exact ⟨rfl, rfl⟩

theorem outside_of_closed (h : firstMarker text = some (before, tag, after)) (hclosed : Closed after) :
    leadingText text = before ∧ laterTexts text ≠ [] := by
  unfold leadingText laterTexts
  cases hlength : text.length with
  | zero =>
    rw [List.length_eq_zero_iff.mp hlength] at h
    cases h
  | succ fuel =>
    obtain ⟨body, hbody⟩ := Option.isSome_iff_exists.mp (blockBody_isSome.mpr hclosed)
    rw [outsideTexts, h]
    dsimp only
    rw [hbody]
    exact ⟨rfl, List.cons_ne_nil _ _⟩

/-! ## Stripping -/

theorem stripTaggedBlock_of_closed (h : Search.splitLast tag.marker text = some (before, after))
    (hclosed : Closed after) : stripTaggedBlock text tag = trimEnd before := by
  obtain ⟨body, hbody⟩ := Option.isSome_iff_exists.mp (blockBody_isSome.mpr hclosed)
  rw [stripTaggedBlock, taggedBlockBounds, h, Option.bind_some, hbody, Option.map_some]

theorem stripTaggedBlock_of_open
    (h : ∀ before after, Search.splitLast tag.marker text = some (before, after) → ¬ Closed after) :
    stripTaggedBlock text tag = text := by
  rw [stripTaggedBlock, taggedBlockBounds]
  cases hlast : Search.splitLast tag.marker text with
  | none => rfl
  | some parts =>
    have hbody : blockBody parts.2 = none := by
      rw [← Option.not_isSome_iff_eq_none, blockBody_isSome]
      exact h parts.1 parts.2 hlast
    rw [Option.bind_some, hbody]
    rfl

theorem stripTaggedBlock_of_markerFree (h : MarkerFree text) : stripTaggedBlock text tag = text := by
  refine stripTaggedBlock_of_open fun before after hlast => ?_
  rw [Search.splitLast_eq_none.mpr (h tag)] at hlast
  cases hlast

/-- The cut is made where the first marker stands: the last identity marker, when its
block is complete, is the first marker, or the last governed-action marker before it is and
has a complete block; otherwise the last governed-action marker of the text is the first
marker. -/
inductive CutAtFirst (text before : List Char) : Prop
  | kickstart {after : List Char}
      (h : Search.splitLast ControlTag.identityKickstart.marker text = some (before, after))
      (hclosed : Closed after)
  | earlierActions {kept after after' : List Char}
      (h : Search.splitLast ControlTag.identityKickstart.marker text = some (kept, after))
      (hclosed : Closed after)
      (hactions : Search.splitLast ControlTag.governedActions.marker (trimEnd kept) =
        some (before, after'))
      (hclosed' : Closed after')
  | actions {after : List Char}
      (hopen : ∀ kept after,
        Search.splitLast ControlTag.identityKickstart.marker text = some (kept, after) →
          ¬ Closed after)
      (hactions : Search.splitLast ControlTag.governedActions.marker text = some (before, after))
      (hclosed : Closed after)

/-- Where the cut is at the first marker, the user gets the text before it. -/
theorem strip_of_cutAtFirst (hfree : MarkerFree before) (h : CutAtFirst text before) :
    stripWorkerControlBlocks text = trimEnd before := by
  unfold stripWorkerControlBlocks
  cases h with
  | kickstart h hclosed =>
    rw [stripTaggedBlock_of_closed h hclosed, stripTaggedBlock_of_markerFree hfree.trimEnd]
  | earlierActions h hclosed hactions hclosed' =>
    rw [stripTaggedBlock_of_closed h hclosed, stripTaggedBlock_of_closed hactions hclosed']
  | actions hopen hactions hclosed =>
    rw [stripTaggedBlock_of_open hopen, stripTaggedBlock_of_closed hactions hclosed]

/-- A cut after the first marker leaves that marker in the text. -/
theorem eq_of_markerFree_trimEnd (hfirst : firstMarker text = some (before, tag, after))
    {tag' : ControlTag} {before' after' : List Char} (hcut : text = before' ++ (tag'.marker ++ after'))
    (hfree : MarkerFree (trimEnd before')) : before' = before := by
  obtain ⟨htext, hleast⟩ := firstMarker_eq_some hfirst
  rcases marker_order (htext.symm.trans hcut) (hleast _ _ _ hcut) with ⟨hsame, -⟩ | ⟨between, hlater, -⟩
  · exact hsame.symm
  · rw [hlater] at hfree
    exact absurd hfree (not_markerFree_trimEnd _ _ _)

/-- The user's text is free of markers exactly when the cut is at the first one. -/
theorem cutAtFirst_of_markerFree (hfirst : firstMarker text = some (before, tag, after))
    (h : MarkerFree (stripWorkerControlBlocks text)) : CutAtFirst text before := by
  unfold stripWorkerControlBlocks at h
  have hmarked : ¬ MarkerFree text := by
    rw [(firstMarker_eq_some hfirst).1]
    exact not_markerFree_append _ _ _
  by_cases hkickstart : ∃ kept after,
      Search.splitLast ControlTag.identityKickstart.marker text = some (kept, after) ∧ Closed after
  · obtain ⟨kept, after₁, hlast, hclosed⟩ := hkickstart
    have hcut := Search.eq_of_splitLast hlast
    rw [stripTaggedBlock_of_closed hlast hclosed] at h
    by_cases hactions : ∃ before' after', Search.splitLast ControlTag.governedActions.marker
        (trimEnd kept) = some (before', after') ∧ Closed after'
    · obtain ⟨before', after₂, hlast', hclosed'⟩ := hactions
      rw [stripTaggedBlock_of_closed hlast' hclosed'] at h
      obtain ⟨blank, hblank⟩ := trimEnd_isPrefix kept
      have hcut' : text = before' ++ (ControlTag.governedActions.marker ++
          (after₂ ++ (blank ++ (ControlTag.identityKickstart.marker ++ after₁)))) := by
        rw [hcut, ← hblank, Search.eq_of_splitLast hlast']
        simp only [List.append_assoc]
      rw [eq_of_markerFree_trimEnd hfirst hcut' h] at hlast'
      exact .earlierActions hlast hclosed hlast' hclosed'
    · rw [stripTaggedBlock_of_open fun before' after' hlast' hclosed' =>
        hactions ⟨before', after', hlast', hclosed'⟩] at h
      rw [eq_of_markerFree_trimEnd hfirst hcut h] at hlast
      exact .kickstart hlast hclosed
  · have hopen : ∀ kept after,
        Search.splitLast ControlTag.identityKickstart.marker text = some (kept, after) →
          ¬ Closed after :=
      fun kept after hlast hclosed => hkickstart ⟨kept, after, hlast, hclosed⟩
    rw [stripTaggedBlock_of_open hopen] at h
    by_cases hactions : ∃ before' after', Search.splitLast ControlTag.governedActions.marker text =
        some (before', after') ∧ Closed after'
    · obtain ⟨before', after', hlast', hclosed'⟩ := hactions
      rw [stripTaggedBlock_of_closed hlast' hclosed'] at h
      rw [eq_of_markerFree_trimEnd hfirst (Search.eq_of_splitLast hlast') h] at hlast'
      exact .actions hopen hlast' hclosed'
    · rw [stripTaggedBlock_of_open fun before' after' hlast' hclosed' =>
        hactions ⟨before', after', hlast', hclosed'⟩] at h
      exact absurd h hmarked

/-- Where the first marker opens no complete block, no marker does, and nothing is cut. -/
theorem strip_of_open (hfirst : firstMarker text = some (before, tag, after))
    (hopen : ¬ Closed after) : stripWorkerControlBlocks text = text := by
  have hall : ∀ tag' : ControlTag, ∀ before' after',
      Search.splitLast tag'.marker text = some (before', after') → ¬ Closed after' := by
    intro tag' before' after' hlast hclosed
    have hcut := Search.eq_of_splitLast hlast
    obtain ⟨htext, hleast⟩ := firstMarker_eq_some hfirst
    rcases marker_order (htext.symm.trans hcut) (hleast _ _ _ hcut) with
      ⟨-, -, hsame⟩ | ⟨between, -, hlater⟩
    · exact hopen (hsame ▸ hclosed)
    · refine hopen ?_
      rw [hlater, ← List.append_assoc]
      exact hclosed.of_suffix
  rw [stripWorkerControlBlocks, stripTaggedBlock_of_open (hall .identityKickstart),
    stripTaggedBlock_of_open (hall .governedActions)]

theorem strip_of_markerFree (h : MarkerFree text) : stripWorkerControlBlocks text = text := by
  rw [stripWorkerControlBlocks, stripTaggedBlock_of_markerFree h, stripTaggedBlock_of_markerFree h]

end Reading

/-! ## Proposals -/

/-- What is extracted is the block of the last marker. -/
theorem extractTaggedBlock_eq (tag : ControlTag) (text : List Char) :
    extractTaggedBlock text tag = (blockContents tag text).getLast?.join := by
  have hlast : ((Search.splitLast tag.marker text).map fun parts =>
      (blockBody parts.2).map fun body => String.ofList (Text.trimChars body.1)) =
        (blockContents tag text).getLast? := by
    induction text with
    | nil =>
      rw [Search.splitLast, if_neg (by cases tag <;> decide)]
      rfl
    | cons c rest ih =>
      rw [Search.splitLast, blockContents]
      cases hrest : Search.splitLast tag.marker rest with
      | some parts =>
        rw [hrest, Option.map_some] at ih
        dsimp only
        split
        · rw [List.getLast?_cons, ← ih]
          rfl
        · exact ih
      | none =>
        rw [hrest, Option.map_none] at ih
        have hnil : blockContents tag rest = [] := List.getLast?_eq_none_iff.mp ih.symm
        rw [hnil]
        dsimp only
        split <;> rfl
  rw [← hlast, extractTaggedBlock, taggedBlockBounds]
  cases Search.splitLast tag.marker text with
  | none => rfl
  | some parts =>
    rw [Option.bind_some, Option.map_some, Option.join_some, Option.map_map]
    rfl

/-- What the blocks of a text propose, one after the other. -/
def proposedBy {α : Type} (read : String → List α) (blocks : List (Option String)) : List α :=
  blocks.flatMap fun block => block.elim [] read

/-- Reading the last block only misses nothing exactly when the earlier ones propose
nothing. -/
theorem proposedBy_last {α : Type} {read : String → List α} {blocks : List (Option String)} :
    blocks.getLast?.join.elim [] read = proposedBy read blocks ↔
      proposedBy read blocks.dropLast = [] := by
  rcases List.eq_nil_or_concat blocks with rfl | ⟨earlier, last, rfl⟩
  · exact iff_of_true rfl rfl
  · rw [List.concat_eq_append, List.getLast?_concat, Option.join_some, List.dropLast_concat,
      proposedBy, List.flatMap_append, List.flatMap_singleton]
    exact List.self_eq_append_left

/-- What a governed-action block proposes. -/
def namedActions (readers : WorkerReaders) (blockJson : String) : List GovernedActionProposal :=
  match readers.actions blockJson with
  | .ok actions => actions
  | .error _ => []

section Response

variable {readers : WorkerReaders} {context : ConsciousContext} {ids : ProposalIds}
  {modelText : String} {response : ConsciousWorkerResponse}

theorem buildIdentityKickstartProposals_eq {text : List Char} {proposalId : Uuid} :
    buildIdentityKickstartProposals readers context proposalId text =
      (blockContents .identityKickstart text).getLast?.join.elim []
        (kickstartBlockProposals readers context proposalId) := by
  rw [buildIdentityKickstartProposals, extractTaggedBlock_eq]
  cases (blockContents .identityKickstart text).getLast?.join <;> rfl

theorem buildGovernedActionProposals_eq {text : List Char} {proposals : List GovernedActionProposal}
    (h : buildGovernedActionProposals readers text = .ok proposals) :
    proposals = (blockContents .governedActions text).getLast?.join.elim []
      (namedActions readers) := by
  rw [buildGovernedActionProposals, extractTaggedBlock_eq] at h
  cases hlast : (blockContents .governedActions text).getLast?.join with
  | none =>
    rw [hlast] at h
    exact (Except.ok.inj h).symm
  | some blockJson =>
    rw [hlast] at h
    dsimp only at h
    cases hread : readers.actions blockJson with
    | ok actions =>
      rw [hread] at h
      rw [Option.elim_some, namedActions, hread]
      exact (Except.ok.inj h).symm
    | error error =>
      rw [hread] at h
      cases h

/-- The parts of a response that was built. -/
theorem buildConsciousWorkerResponse_eq_ok
    (h : buildConsciousWorkerResponse readers context ids modelText = .ok response) :
    response.assistantText = String.ofList (stripWorkerControlBlocks modelText.toList) ∧
      response.governedActionProposals =
        (blockContents .governedActions modelText.toList).getLast?.join.elim []
          (namedActions readers) ∧
      ∃ fromMessage, buildCandidateProposals context ids.memory ids.style = .ok fromMessage ∧
        response.candidateProposals = fromMessage ++
          (blockContents .identityKickstart modelText.toList).getLast?.join.elim []
            (kickstartBlockProposals readers context ids.kickstart) := by
  obtain ⟨fromMessage, hmessage, h⟩ := except_bind_eq_ok.mp h
  obtain ⟨actions, hactions, h⟩ := except_bind_eq_ok.mp h
  obtain ⟨-, -, h⟩ := except_bind_eq_ok.mp h
  obtain rfl := Except.ok.inj h
  refine ⟨rfl, buildGovernedActionProposals_eq hactions, fromMessage, hmessage, ?_⟩
  rw [← buildIdentityKickstartProposals_eq]

/-- What the user and the harness rely on: the text for the user holds no marker and all
text outside the blocks, and what is proposed is what the blocks propose. -/
structure BlocksHandled (readers : WorkerReaders) (context : ConsciousContext) (ids : ProposalIds)
    (modelText : String) (response : ConsciousWorkerResponse) : Prop where
  markerFree : MarkerFree response.assistantText.toList
  contained : ContainsInOrder (leadingText modelText.toList :: laterTexts modelText.toList)
    response.assistantText.toList
  actions : response.governedActionProposals =
    proposedBy (namedActions readers) (blockContents .governedActions modelText.toList)
  kickstart : ∃ fromMessage, buildCandidateProposals context ids.memory ids.style = .ok fromMessage ∧
    response.candidateProposals = fromMessage ++
      proposedBy (kickstartBlockProposals readers context ids.kickstart)
        (blockContents .identityKickstart modelText.toList)

/-- A text that the worker takes apart well: it holds no marker, or its first marker opens
a complete block, the cut is made there, and only blank text stands outside the blocks
after it; and no block but the one at the last marker of its kind proposes anything. -/
structure Separable (readers : WorkerReaders) (context : ConsciousContext) (ids : ProposalIds)
    (text : List Char) : Prop where
  unmarked : laterTexts text = [] → MarkerFree text
  cut : laterTexts text ≠ [] → CutAtFirst text (leadingText text)
  blank : ∀ piece ∈ laterTexts text, visible piece = []
  actions : proposedBy (namedActions readers) (blockContents .governedActions text).dropLast = []
  kickstart : proposedBy (kickstartBlockProposals readers context ids.kickstart)
    (blockContents .identityKickstart text).dropLast = []

/-- The user's text is right exactly when the text is cut at its first marker and the rest
outside the blocks is blank. -/
theorem strip_iff (text : List Char) :
    (MarkerFree (stripWorkerControlBlocks text) ∧
      ContainsInOrder (leadingText text :: laterTexts text) (stripWorkerControlBlocks text)) ↔
    ((laterTexts text = [] → MarkerFree text) ∧
      (laterTexts text ≠ [] → CutAtFirst text (leadingText text)) ∧
      ∀ piece ∈ laterTexts text, visible piece = []) := by
  have hwhole : ContainsInOrder [text] text := by
    obtain ⟨gap, hgap⟩ := trimEnd_eq text
    obtain ⟨blank, hblank⟩ := trimEnd_isPrefix text
    refine ⟨gap, blank, ?_, trivial⟩
    rw [← List.append_assoc, ← hgap, hblank]
  cases hfirst : firstMarker text with
  | none =>
    obtain ⟨hleading, hlater⟩ := outside_of_markerFree hfirst
    have hfree := firstMarker_eq_none.mp hfirst
    rw [hleading, hlater, strip_of_markerFree hfree]
    refine iff_of_true ⟨hfree, hwhole⟩ ⟨fun _ => hfree, fun h => absurd rfl h, ?_⟩
    rintro piece ⟨⟩
  | some parts =>
    obtain ⟨before, tag, after⟩ := parts
    by_cases hclosed : Closed after
    · obtain ⟨hleading, hlater⟩ := outside_of_closed hfirst hclosed
      rw [hleading]
      constructor
      · rintro ⟨hfree, hcontained⟩
        have hcut := cutAtFirst_of_markerFree hfirst hfree
        rw [strip_of_cutAtFirst (markerFree_before hfirst) hcut] at hcontained
        exact ⟨fun h => absurd h hlater, fun _ => hcut, containsInOrder_trimEnd.mp hcontained⟩
      · rintro ⟨-, hcut, hblank⟩
        rw [strip_of_cutAtFirst (markerFree_before hfirst) (hcut hlater)]
        exact ⟨(markerFree_before hfirst).trimEnd, containsInOrder_trimEnd.mpr hblank⟩
    · obtain ⟨hleading, hlater⟩ := outside_of_open hfirst hclosed
      rw [hleading, hlater, strip_of_open hfirst hclosed]
      constructor
      · rintro ⟨hfree, -⟩
        refine ⟨fun _ => hfree, fun h => absurd rfl h, ?_⟩
        rintro piece ⟨⟩
      · rintro ⟨hfree, -, -⟩
        exact ⟨hfree rfl, hwhole⟩

/-- A response is right exactly for a separable text. -/
theorem blocksHandled_iff
    (h : buildConsciousWorkerResponse readers context ids modelText = .ok response) :
    BlocksHandled readers context ids modelText response ↔
      Separable readers context ids modelText.toList := by
  obtain ⟨htext, hactions, fromMessage, hmessage, hcandidates⟩ := buildConsciousWorkerResponse_eq_ok h
  have hstrip := strip_iff modelText.toList
  constructor
  · intro hhandled
    have hfree := hhandled.markerFree
    have hcontained := hhandled.contained
    rw [htext, String.toList_ofList] at hfree hcontained
    obtain ⟨hunmarked, hcut, hblank⟩ := hstrip.mp ⟨hfree, hcontained⟩
    refine ⟨hunmarked, hcut, hblank, ?_, ?_⟩
    · exact proposedBy_last.mp (hactions.symm.trans hhandled.actions)
    · obtain ⟨fromMessage', hmessage', hcandidates'⟩ := hhandled.kickstart
      obtain rfl := Except.ok.inj (hmessage.symm.trans hmessage')
      exact proposedBy_last.mp (List.append_cancel_left (hcandidates.symm.trans hcandidates'))
  · intro hseparable
    obtain ⟨hfree, hcontained⟩ :=
      hstrip.mpr ⟨hseparable.unmarked, hseparable.cut, hseparable.blank⟩
    refine ⟨?_, ?_, ?_, fromMessage, hmessage, ?_⟩
    · rw [htext, String.toList_ofList]
      exact hfree
    · rw [htext, String.toList_ofList]
      exact hcontained
    · rw [hactions]
      exact proposedBy_last.mpr hseparable.actions
    · rw [hcandidates, proposedBy_last.mpr hseparable.kickstart]

end Response

/-! ## Texts that are taken apart well, and badly -/

/-- A message of the user, while no identity is being formed. -/
def greeting : ConsciousContext where
  ingress :=
    { ingressId := 1
      channelKind := .telegram
      externalUserId := "42"
      externalConversationId := "42"
      externalEventId := "7"
      externalMessageId := none
      internalPrincipalRef := "primary-user"
      internalConversationRef := "telegram-primary"
      eventKind := .messageCreated
      occurredAt := 0
      textBody := some "Hello"
      commandHint := none
      approvalPayload := none
      rawPayloadRef := none }

/-- Readers that know no block. -/
def noReaders : WorkerReaders where
  actions _ := .error "expected value at line 1 column 1"
  kickstart _ := none
  predefinedIdentityDelta _ _ := none

def proposalIds : ProposalIds where
  memory := 2
  style := 3
  kickstart := 4

/-- A reply with an identity block at its end. -/
def closedBlockReply : String := "Hello.\n```blue-lagoon-identity-kickstart\nnot json\n```"

/-- The same reply, where the closing fence is missing. -/
def openBlockReply : String := "Hello.\n```blue-lagoon-identity-kickstart\nnot json"

theorem closedBlockReply_separable :
    Separable noReaders greeting proposalIds closedBlockReply.toList where
  unmarked h := absurd h (by decide +kernel)
  cut _ := by
    have hclosed : Closed "\nnot json\n```".toList := blockBody_isSome.mp (by decide +kernel)
    exact .kickstart (by decide +kernel) hclosed
  blank := by decide +kernel
  actions := by
    have hnone : (blockContents .governedActions closedBlockReply.toList).dropLast = [] := by
      decide +kernel
    rw [hnone]
    rfl
  kickstart := by
    have hnone : (blockContents .identityKickstart closedBlockReply.toList).dropLast = [] := by
      decide +kernel
    rw [hnone]
    rfl

theorem blocksHandled_iff_closedBlockReply :
    ∃ response, buildConsciousWorkerResponse noReaders greeting proposalIds closedBlockReply =
        .ok response ∧ BlocksHandled noReaders greeting proposalIds closedBlockReply response := by
  have hok : (buildConsciousWorkerResponse noReaders greeting proposalIds closedBlockReply).isOk := by
    decide +kernel
  cases h : buildConsciousWorkerResponse noReaders greeting proposalIds closedBlockReply with
  | ok response => exact ⟨response, rfl, (blocksHandled_iff h).mpr closedBlockReply_separable⟩
  | error error =>
    rw [h] at hok
    cases hok

/-- A block that is not closed reaches the user with its marker. -/
theorem openBlockReply_reaches_user :
    ∃ response, buildConsciousWorkerResponse noReaders greeting proposalIds openBlockReply =
        .ok response ∧ ¬ BlocksHandled noReaders greeting proposalIds openBlockReply response := by
  have htext : ((buildConsciousWorkerResponse noReaders greeting proposalIds openBlockReply).map
      ConsciousWorkerResponse.assistantText).toOption = some openBlockReply := by
    decide +kernel
  cases h : buildConsciousWorkerResponse noReaders greeting proposalIds openBlockReply with
  | ok response =>
    rw [h] at htext
    have hsame : response.assistantText = openBlockReply := Option.some.inj htext
    refine ⟨response, rfl, fun hhandled => hhandled.markerFree .identityKickstart ?_⟩
    rw [hsame]
    decide +kernel
  | error error =>
    rw [h] at htext
    cases htext

end BlueLagoon.Worker
