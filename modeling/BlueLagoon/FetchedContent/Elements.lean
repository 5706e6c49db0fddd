import BlueLagoon.FetchedContent.Blocks
import BlueLagoon.Html

/-!
# Elements by name

A pass looks for an opening bracket and the name of its tag; what follows the name does not
count, and the block it cuts ends with the first closing tag that is written without blanks. So
it also takes elements whose names only begin with the name of the tag, does not see that a tag
closes itself, and misses closing tags. Here what the passes cut is compared with the elements of
the page, as HTML has them.
-/

namespace BlueLagoon

namespace FetchedContent

open Text

variable {tagName : String} {body before block rest placed kept : List Placed} {a : Placed}

/-! ## What a pass cuts -/

/-- Only the first character of a closing tag is an opening bracket. -/
theorem not_bracket_in_close (hname : '<' ∉ tagName.toList) {cs : List Char} {m : Nat}
    (hclose : closePattern tagName <+: cs) (hm : 0 < m)
    (hwithin : m < (closePattern tagName).length) : ¬ ['<'] <+: cs.drop m := by
  intro hbracket
  obtain ⟨after, rfl⟩ := hclose
  have htail : '<' ∉ (closePattern tagName).tail := by
    simp [closePattern, hname]
  obtain ⟨m, rfl⟩ := Nat.exists_eq_succ_of_ne_zero (Nat.ne_of_gt hm)
  rw [List.drop_append_of_le_length (Nat.le_of_lt hwithin)] at hbracket
  have hne : (closePattern tagName).drop (m + 1) ≠ [] := by
    intro hnil
    have hall := List.drop_eq_nil_iff.mp hnil
    omega
  obtain ⟨c, cs, hcs⟩ := List.exists_cons_of_ne_nil hne
  rw [hcs, List.cons_append] at hbracket
  obtain ⟨rfl, -⟩ := List.cons_prefix_cons.mp hbracket
  apply htail
  rw [← List.drop_one]
  have hmem : '<' ∈ (closePattern tagName).drop (m + 1) := by
    rw [hcs]
    exact List.mem_cons_self
  rw [Nat.add_comm, ← List.drop_drop] at hmem
  exact List.mem_of_mem_drop hmem

/-- What a pass cuts comes behind an opening tag, or in it, and no closing tag stands between. -/
theorem Cuts.behind_opening (h : Cuts tagName placed kept) (hmem : a ∈ placed) (hcut : a ∉ kept) :
    ∃ front behind after, placed = front ++ (behind ++ a :: after) ∧
      Opens (openPattern tagName) (behind ++ a :: after) ∧
        ¬ closePattern tagName <:+: lower (text behind) := by
  induction h with
  | whole hopen => exact absurd hmem hcut
  | @unclosed before rest hopen hclose =>
    have hrest : a ∈ rest := (List.mem_append.mp hmem).resolve_left hcut
    obtain ⟨behind, after, rfl⟩ := List.append_of_mem hrest
    refine ⟨before, behind, after, rfl, (find_between.mp hopen).1, fun hinfix => ?_⟩
    apply find_eq_none.mp hclose
    rw [text_append, lower_append]
    exact hinfix.trans (List.prefix_append _ _).isInfix
  | @block before block rest kept n hopen hclose hlength hrest ih =>
    have hbehind : a ∈ block ++ rest := by
      refine (List.mem_append.mp hmem).resolve_left fun hbefore => ?_
      exact hcut (List.mem_append_left _ hbefore)
    rcases List.mem_append.mp hbehind with hblock | hafter
    · obtain ⟨behind, after, rfl⟩ := List.append_of_mem hblock
      have hopens := (find_between.mp hopen).1
      rw [List.append_assoc, List.cons_append] at hopens hclose
      refine ⟨before, behind, after ++ rest, ?_, hopens, ?_⟩
      · rw [List.append_assoc, List.cons_append]
      · -- A closing tag before this character would be an earlier end of the block.
        rintro ⟨front, tail, hsplit⟩
        have hplace : front.length < n := by
          have hall := congrArg List.length hsplit
          rw [length_lower_text] at hall
          simp only [List.length_append, List.length_cons] at hall hlength
          omega
        apply (find_eq_some.mp hclose).2.2 front.length hplace
        rw [text_append, lower_append, ← hsplit]
        simp only [List.append_assoc, List.drop_left]
        exact List.prefix_append _ _
    · have hcut' : a ∉ kept := fun hkept => hcut (List.mem_append_right _ hkept)
      obtain ⟨front, behind, after, rfl, hopens, hnone⟩ := ih hafter hcut'
      refine ⟨before ++ (block ++ front), behind, after, ?_, hopens, hnone⟩
      simp only [List.append_assoc]

/-! ## Elements with exactly the name -/

/-- The character stands in an element with exactly this name. -/
def Inside (tagName : String) (body : List Char) (a : Placed) : Prop :=
  ∃ found ∈ Html.elements tagName body,
    found.1 ≤ a.2 ∧ a.2 < found.1 + found.2.chars.length

/-- The pass deletes only what stands in elements with exactly the name: all other characters
remain, in order. -/
def KeepsOthers (tagName : String) (body : List Char) : Prop :=
  ∃ kept, List.Sublist kept body.zipIdx ∧ removeHtmlTagBlocks tagName body = text kept ∧
    ∀ a ∈ body.zipIdx, ¬ Inside tagName body a → a ∈ kept

/-- The content of the first element with exactly this name. -/
def firstContent (tagName : String) (body : List Char) : Option (List Char) :=
  (Html.elements tagName body).head?.map fun found => found.2.content

/-- The passes over a body delete nothing but what stands in elements that are no content, and
the preformatted part is the content of the first element named `pre`. -/
def KeepsUnnamed (body : List Char) : Prop :=
  (∀ tagName ∈ nonContentTags, KeepsOthers tagName body) ∧
    extractFirstTagContent body "pre" = firstContent "pre" body

/-! ## Plain elements -/

/-- The bracket and the name stand at the place, whatever comes after the name. -/
def OpensAt (tagName : String) (body : List Char) (place : Nat) : Prop :=
  openPattern tagName <+: lower (body.drop place)

instance (tagName : String) (body : List Char) (place : Nat) :
    Decidable (OpensAt tagName body place) := by
  unfold OpensAt
  infer_instance

/-- Whatever looks like an opening tag stands in an element with exactly the name, and this
element has a closing tag without blanks or goes to the end of the body. -/
def BlocksPlain (tagName : String) (body : List Char) : Prop :=
  ∀ place < body.length, OpensAt tagName body place →
    ∃ found ∈ Html.elements tagName body,
      found.1 ≤ place ∧ place < found.1 + found.2.chars.length ∧
        (lower found.2.closing = closePattern tagName ∨
          found.1 + found.2.chars.length = body.length)

/-- There is no element with exactly the name, and no closing tag behind what looks like an
opening one. Or nothing looks like an opening tag before the first element, whose own opening
tag has no bracket in a value, whose closing tag has no blanks, and in which there is no other
one. -/
def FirstPlain (tagName : String) (body : List Char) : Prop :=
  (Html.elements tagName body = [] ∧ ∀ place < body.length, OpensAt tagName body place →
    ¬ closePattern tagName <:+: lower (body.drop place)) ∨
  ∃ found ∈ (Html.elements tagName body).head?,
    (∀ place < found.1, ¬ OpensAt tagName body place) ∧ '>' ∉ found.2.opening.dropLast ∧
      lower found.2.closing = closePattern tagName ∧
        ¬ closePattern tagName <:+: lower found.2.content

/-- All elements of the body that the code deals with are plain. -/
def PlainElements (body : List Char) : Prop :=
  (∀ tagName ∈ nonContentTags, BlocksPlain tagName body) ∧ FirstPlain "pre" body

instance (tagName : String) (body : List Char) : Decidable (BlocksPlain tagName body) := by
  unfold BlocksPlain
  infer_instance

instance (tagName : String) (body : List Char) : Decidable (FirstPlain tagName body) := by
  unfold FirstPlain
  infer_instance

instance (body : List Char) : Decidable (PlainElements body) := by
  unfold PlainElements
  infer_instance

/-! ## What a pass leaves alone -/

theorem lower_drop (value : List Char) (n : Nat) : lower (value.drop n) = (lower value).drop n :=
  List.map_drop

theorem length_lower (value : List Char) : (lower value).length = value.length :=
  List.length_map _

/-- A character's place says how many come before it. -/
theorem place_of_zipIdx {page : List Char} {front rest : List Placed}
    (h : page.zipIdx = front ++ a :: rest) : a.2 = front.length := by
  have hthere := congrArg (fun placed => placed[front.length]?) h
  simp only [List.getElem?_zipIdx, List.getElem?_append_right (Nat.le_refl _), Nat.sub_self,
    List.getElem?_cons_zero, Nat.zero_add] at hthere
  obtain ⟨c, -, rfl⟩ := Option.map_eq_some_iff.mp hthere
  rfl

theorem drop_of_zipIdx {page : List Char} {front rest : List Placed}
    (h : page.zipIdx = front ++ rest) : page.drop front.length = text rest := by
  rw [← text_zipIdx page, h]
  exact (text_between front rest).2

/-- What begins in the body before a closing tag ends does not begin in it. -/
theorem opens_before_close (hname : '<' ∉ tagName.toList) {page : List Char} {start place : Nat}
    (hclose : closePattern tagName <+: lower (page.drop start))
    (hopens : OpensAt tagName page place) (hlt : place < start + (closePattern tagName).length) :
    place ≤ start := by
  by_contra hlater
  apply not_bracket_in_close hname hclose (m := place - start) (by omega) (by omega)
  rw [← lower_drop, List.drop_drop, Nat.add_sub_cancel' (by omega)]
  exact List.IsPrefix.trans (List.cons_prefix_cons.mpr ⟨rfl, List.nil_prefix⟩) hopens

/-- A pattern that ends before a text does stands in this text. -/
theorem infix_of_drop {pattern front tail : List Char} {n : Nat}
    (h : pattern <+: (front ++ tail).drop n) (hn : n + pattern.length ≤ front.length) :
    pattern <:+: front := by
  rw [List.drop_append_of_le_length (by omega)] at h
  have hlength : pattern.length ≤ (front.drop n).length := by
    rw [List.length_drop]
    omega
  have hprefix := List.prefix_of_prefix_length_le h (List.prefix_append _ _) hlength
  exact hprefix.isInfix.trans (List.drop_suffix n front).isInfix

/-- A pass over plain elements leaves all other characters alone. -/
theorem keepsOthers_of_plain (hname : '<' ∉ tagName.toList) {page : List Char}
    (h : BlocksPlain tagName page) : KeepsOthers tagName page := by
  obtain ⟨kept, hkept⟩ := exists_cuts tagName page.zipIdx
  refine ⟨kept, hkept.sublist, ?_, fun a hmem houtside => ?_⟩
  · rw [← hkept.removeHtmlTagBlocks_eq, text_zipIdx]
  by_contra hcut
  apply houtside
  obtain ⟨front, behind, after, hsplit, hopens, hnone⟩ := hkept.behind_opening hmem hcut
  have hplace : a.2 = front.length + behind.length := by
    rw [← List.append_assoc] at hsplit
    rw [place_of_zipIdx hsplit, List.length_append]
  have hdrop := drop_of_zipIdx hsplit
  have hlength : front.length + behind.length < page.length := by
    have hall := congrArg List.length hsplit
    simp only [List.length_zipIdx, List.length_append, List.length_cons] at hall
    omega
  have hopensAt : OpensAt tagName page front.length := by
    unfold OpensAt
    rw [hdrop]
    exact hopens
  obtain ⟨found, hfound, hle, hlt, hends⟩ := h front.length (by omega) hopensAt
  refine ⟨found, hfound, by omega, ?_⟩
  rcases hends with hclosing | hend
  · -- Behind the closing tag of the element the block would be over.
    by_contra hbeyond
    apply hnone
    have hchars := (Html.elements_prefix hfound).2
    unfold Html.Element.chars at hchars hlt hbeyond
    rw [← List.append_assoc] at hchars hlt hbeyond
    generalize hstart : found.2.opening ++ found.2.content = start at hchars hlt hbeyond
    have hclose : closePattern tagName <+: lower (page.drop (found.1 + start.length)) := by
      obtain ⟨tail, htail⟩ := hchars
      rw [← List.drop_drop, ← htail, List.append_assoc, List.drop_left, lower_append, hclosing]
      exact List.prefix_append _ _
    have hclosingLength : found.2.closing.length = (closePattern tagName).length := by
      rw [← hclosing, length_lower]
    rw [List.length_append, hclosingLength] at hlt hbeyond
    have hbefore : front.length ≤ found.1 + start.length :=
      opens_before_close hname hclose hopensAt (by omega)
    have hthere : closePattern tagName <+: (lower (text behind) ++ lower (text (a :: after))).drop
        (found.1 + start.length - front.length) := by
      rw [← lower_append, ← text_append, ← hdrop, ← lower_drop, List.drop_drop,
        Nat.add_sub_cancel' hbefore]
      exact hclose
    exact infix_of_drop hthere (by rw [length_lower_text]; omega)
  · omega

/-! ## The preformatted part -/

/-- No letter is a bracket. -/
theorem asciiLower_eq_bracket {c : Char} (h : asciiLower c = '>') : c = '>' := by
  have hascii : ∀ n < 128, asciiLower (Char.ofNat n) = '>' → Char.ofNat n = '>' := by decide
  by_cases hc : c.toNat < 128
  · have hthis := hascii c.toNat hc
    rw [Char.ofNat_toNat] at hthis
    exact hthis h
  · have hbound : 'Z'.toNat = 90 := rfl
    unfold asciiLower at h
    rwa [if_neg (by omega)] at h

/-- The bracket of a tag is found at its end when there is none before. -/
theorem find_bracket {inner : List Char} (hinner : '>' ∉ inner) (tail : List Char) :
    find ['>'] (lower (inner ++ '>' :: tail)) = some inner.length := by
  rw [lower_append]
  refine find_eq_some.mpr ⟨?_, ?_, ?_⟩
  · rw [List.length_append, length_lower]
    exact Nat.le_add_right _ _
  · rw [← length_lower inner, List.drop_left]
    exact List.cons_prefix_cons.mpr ⟨by decide, List.nil_prefix⟩
  · intro m hm hearlier
    have hwithin := infix_of_drop hearlier (by rw [length_lower]; exact hm)
    obtain ⟨c, hc, hlower⟩ := List.mem_map.mp (hwithin.subset List.mem_cons_self)
    exact hinner (asciiLower_eq_bracket hlower ▸ hc)

/-- A closing tag is found behind the content when there is none in it. -/
theorem find_closing (hname : '<' ∉ tagName.toList) {content closing : List Char}
    (hclosing : lower closing = closePattern tagName)
    (hcontent : ¬ closePattern tagName <:+: lower content) (tail : List Char) :
    find (closePattern tagName) (lower (content ++ (closing ++ tail))) = some content.length := by
  rw [lower_append, lower_append, hclosing]
  refine find_eq_some.mpr ⟨?_, ?_, ?_⟩
  · rw [List.length_append, length_lower]
    exact Nat.le_add_right _ _
  · rw [← length_lower content, List.drop_left]
    exact List.prefix_append _ _
  · intro m hm hearlier
    by_cases hin : m + (closePattern tagName).length ≤ (lower content).length
    · exact hcontent (infix_of_drop hearlier hin)
    · -- It would go into the closing tag, whose bracket then stood within it.
      rw [length_lower] at hin
      apply not_bracket_in_close hname hearlier (m := content.length - m) (by omega) (by omega)
      rw [List.drop_drop, Nat.add_sub_cancel' (Nat.le_of_lt hm), ← length_lower content,
        List.drop_left]
      exact List.cons_prefix_cons.mpr ⟨rfl, List.nil_prefix⟩

/-- Without a closing tag there is no content. -/
theorem extractFirstTagContent_eq_none {page : List Char}
    (h : ∀ place < page.length, OpensAt tagName page place →
      ¬ closePattern tagName <:+: lower (page.drop place)) :
    extractFirstTagContent page tagName = none := by
  unfold extractFirstTagContent
  cases hopen : find (openPattern tagName) (lower page) with
  | none => rfl
  | some place =>
    cases hend : find ['>'] (lower (page.drop place)) with
    | none => simp [hend]
    | some openEnd =>
      have hlt : place < page.length := by
        have hlength := find_length_le hopen
        rw [length_lower] at hlength
        simp only [openPattern, List.length_cons] at hlength
        omega
      have hopens : OpensAt tagName page place := by
        unfold OpensAt
        rw [lower_drop]
        exact (find_eq_some.mp hopen).2.1
      have hnone : find (closePattern tagName)
          (lower (page.drop (place + openEnd + 1))) = none := by
        refine find_eq_none.mpr fun hinfix => h place hlt hopens ?_
        rw [Nat.add_assoc, ← List.drop_drop, lower_drop] at hinfix
        exact hinfix.trans (List.drop_suffix _ _).isInfix
      simp [hend, hnone]

/-- The content of a plain first element is what the code takes for it. -/
theorem extractFirstTagContent_of_plain (hname : '<' ∉ tagName.toList) {page : List Char}
    (h : FirstPlain tagName page) :
    extractFirstTagContent page tagName = firstContent tagName page := by
  rcases h with ⟨hnone, hclose⟩ | ⟨⟨place, element⟩, hfirst, hbefore, hvalue, hclosing, hcontent⟩
  · rw [extractFirstTagContent_eq_none hclose, firstContent, hnone]
    rfl
  · have hmem : (place, element) ∈ Html.elements tagName page := List.mem_of_mem_head? hfirst
    obtain ⟨hle, after, hchars⟩ := Html.elements_prefix hmem
    obtain ⟨hopens, inner, hinner⟩ := Html.isOpening_of_elements hmem
    rw [hinner, List.dropLast_concat] at hvalue
    have hdrop : page.drop place =
        inner ++ '>' :: (element.content ++ (element.closing ++ after)) := by
      rw [← hchars, Html.Element.chars, hinner]
      simp only [List.append_assoc, List.cons_append, List.nil_append]
    have hopen : find (openPattern tagName) (lower page) = some place := by
      refine find_eq_some.mpr ⟨by rw [length_lower]; exact hle, ?_, fun m hm hearlier => ?_⟩
      · rw [← lower_drop, ← hchars, Html.Element.chars, List.append_assoc, lower_append]
        exact hopens.trans (List.prefix_append _ _)
      · apply hbefore m hm
        unfold OpensAt
        rw [lower_drop]
        exact hearlier
    have hend : find ['>'] (lower (page.drop place)) = some inner.length := by
      rw [hdrop]
      exact find_bracket hvalue _
    have hbehind : page.drop (place + inner.length + 1) =
        element.content ++ (element.closing ++ after) := by
      rw [Nat.add_assoc, ← List.drop_drop, hdrop, ← List.drop_drop, List.drop_left]
      rfl
    have hclose : find (closePattern tagName) (lower (page.drop (place + inner.length + 1))) =
        some element.content.length := by
      rw [hbehind]
      exact find_closing hname hclosing hcontent after
    have hcontentEq : firstContent tagName page = some element.content := by
      unfold firstContent
      rw [Option.mem_def.mp hfirst]
      rfl
    rw [hcontentEq]
    unfold extractFirstTagContent
    simp only [hopen, hend, hclose, Option.bind_eq_bind, Option.bind_some]
    rw [hbehind, List.take_left]

/-! ## All passes and the preformatted part -/

/-- From a body whose elements are plain the passes delete nothing else, and the preformatted
part is that of its first element named `pre`. -/
theorem keepsUnnamed_of_plainElements {body : List Char} (h : PlainElements body) :
    KeepsUnnamed body := by
  have hnames : ∀ tagName ∈ nonContentTags, '<' ∉ tagName.toList := by decide
  refine ⟨fun tagName htag => ?_, ?_⟩
  · exact keepsOthers_of_plain (hnames tagName htag) (h.1 tagName htag)
  · exact extractFirstTagContent_of_plain (by decide) h.2

/-- A plain page: a style sheet that speaks of other tags, a nested drawing, an attribute, a
preformatted part. -/
theorem keepsUnnamed_of_plainElements_page :
    KeepsUnnamed ("<STYLE type=css>/* <styles> */</style><a t=\"x>y\">b</a>" ++
      "<svg><svg>c</svg></svg><pre id=1>d < e</PRE>").toList :=
  keepsUnnamed_of_plainElements (by decide +kernel)

/-- Closing tags with blanks, tags that close themselves and brackets in values are not
plain. -/
example : ¬ PlainElements "<style>a</style >b".toList ∧ ¬ PlainElements "<svg/>b".toList ∧
    ¬ PlainElements "<pre title=\"a>b\">x</pre>".toList := by
  decide +kernel

/-- With an element named `styles` goes all that comes after it. -/
theorem not_keepsUnnamed : ¬ KeepsUnnamed "<styles>a</styles>b".toList := by
  rintro ⟨hothers, -⟩
  obtain ⟨kept, -, hkept, hall⟩ := hothers "style" (by decide)
  have hnothing : removeHtmlTagBlocks "style" "<styles>a</styles>b".toList = [] := by
    decide +kernel
  have hnone : Html.elements "style" "<styles>a</styles>b".toList = [] := by
    decide +kernel
  have houtside : ¬ Inside "style" "<styles>a</styles>b".toList ('b', 18) := by
    unfold Inside
    rw [hnone]
    rintro ⟨found, hfound, -⟩
    cases hfound
  have hmem := hall ('b', 18) (by decide) houtside
  have hnil : kept = [] := by
    apply List.map_eq_nil_iff.mp
    rw [hnothing] at hkept
    exact hkept.symm
  rw [hnil] at hmem
  cases hmem

end FetchedContent

end BlueLagoon
