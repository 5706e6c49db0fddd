import BlueLagoon.FetchedContent

/-!
# Text of a fragment

`html_fragment_to_text` reads a fragment turn by turn: a tag, an entity, or a character that it
copies. The characters outside tags and well-formed entities should all be copied. They are, when
no ampersand stands among them and every tag is closed.
-/

namespace BlueLagoon

namespace FetchedContent

open Text

/-! ## Tags and entities -/

/-- The place is in a tag, from its `<` to the next `>`. -/
def InTag (value : List Char) (place : Nat) : Prop :=
  ∃ before tag after, value = before ++ '<' :: (tag ++ '>' :: after) ∧ '>' ∉ tag ∧
    before.length ≤ place ∧ place ≤ before.length + 1 + tag.length

/-- The text between `&` and `;` is a name or a number. -/
def isEntity : List Char → Bool
  | '#' :: 'x' :: digits => !digits.isEmpty && digits.all fun c => (toDigit 16 c).isSome
  | '#' :: 'X' :: digits => !digits.isEmpty && digits.all fun c => (toDigit 16 c).isSome
  | '#' :: digits => !digits.isEmpty && digits.all Char.isDigit
  | name => !name.isEmpty && name.all Char.isAlphanum

/-- A well-formed entity begins here. -/
def BeginsEntity (value : List Char) : Prop :=
  ∃ entity after, value = '&' :: (entity ++ ';' :: after) ∧ isEntity entity

/-- The place is in a well-formed entity, from its `&` to its `;`. -/
def InEntity (value : List Char) (place : Nat) : Prop :=
  ∃ before entity after, value = before ++ '&' :: (entity ++ ';' :: after) ∧ isEntity entity ∧
    before.length ≤ place ∧ place ≤ before.length + 1 + entity.length

theorem isEntity_all {entity : List Char} (h : isEntity entity) {c : Char} (hc : c ∈ entity) :
    c = '#' ∨ (toDigit 16 c).isSome ∨ c.isDigit ∨ c.isAlphanum := by
  unfold isEntity at h
  split at h
  · rw [Bool.and_eq_true, List.all_eq_true] at h
    rcases List.mem_cons.mp hc with rfl | hc
    · exact Or.inl rfl
    · rcases List.mem_cons.mp hc with rfl | hc
      · exact Or.inr (Or.inr (Or.inr (by decide)))
      · exact Or.inr (Or.inl (h.2 c hc))
  · rw [Bool.and_eq_true, List.all_eq_true] at h
    rcases List.mem_cons.mp hc with rfl | hc
    · exact Or.inl rfl
    · rcases List.mem_cons.mp hc with rfl | hc
      · exact Or.inr (Or.inr (Or.inr (by decide)))
      · exact Or.inr (Or.inl (h.2 c hc))
  · rw [Bool.and_eq_true, List.all_eq_true] at h
    rcases List.mem_cons.mp hc with rfl | hc
    · exact Or.inl rfl
    · exact Or.inr (Or.inr (Or.inl (h.2 c hc)))
  · rw [Bool.and_eq_true, List.all_eq_true] at h
    exact Or.inr (Or.inr (Or.inr (h.2 c hc)))

/-- Neither brackets, ampersands nor semicolons are in the text of an entity. -/
theorem isEntity_not_mem {entity : List Char} (h : isEntity entity) :
    '<' ∉ entity ∧ '&' ∉ entity ∧ ';' ∉ entity := by
  refine ⟨?_, ?_, ?_⟩
  · intro hc
    exact absurd (isEntity_all h hc) (by decide)
  · intro hc
    exact absurd (isEntity_all h hc) (by decide)
  · intro hc
    exact absurd (isEntity_all h hc) (by decide)

/-! ## Turns -/

/-- Turn by turn, the loop has pushed this and is left with that. -/
inductive Reads (value : List Char) : List Char → List Char → Prop
  | start : Reads value [] value
  | turn {pushed rest out rest' : List Char} (h : Reads value pushed rest)
    (hturn : readFragment rest = some (out, rest')) : Reads value (pushed ++ out) rest'

variable {value pushed rest : List Char}

/-- The output is what has been pushed and what the rest will add to it. -/
theorem Reads.output_eq (h : Reads value pushed rest) :
    htmlFragmentToText value = pushed ++ htmlFragmentToText rest := by
  induction h with
  | start => rfl
  | @turn pushed rest out rest' _ hturn ih =>
    have hrest : htmlFragmentToText rest = out ++ htmlFragmentToText rest' := by
      rw [htmlFragmentToText]
      split
      · next hnone =>
        rw [hturn] at hnone
        cases hnone
      · next hsome =>
        rw [hturn] at hsome
        obtain ⟨rfl, rfl⟩ := Prod.mk.inj (Option.some.inj hsome)
        rfl
    rw [ih, hrest, List.append_assoc]

/-- A turn of the loop copies the character at the place. -/
def Copies (value : List Char) (place : Nat) : Prop :=
  ∃ pushed before c after, Reads value pushed (c :: after) ∧ value = before ++ c :: after ∧
    before.length = place ∧ readFragment (c :: after) = some ([c], after)

/-- Every character outside tags and well-formed entities is copied. -/
def CopiesText (value : List Char) : Prop :=
  ∀ place, place < value.length → ¬ InTag value place → ¬ InEntity value place →
    Copies value place

theorem readFragment_character {c : Char} (hopen : c ≠ '<') (hamp : c ≠ '&') (after : List Char) :
    readFragment (c :: after) = some ([c], after) := by
  unfold readFragment
  split
  · next h => cases h
  · next h => exact absurd (List.cons.inj h).1 hopen
  · next h => exact absurd (List.cons.inj h).1 hamp
  · next h =>
    obtain ⟨rfl, rfl⟩ := List.cons.inj h
    rfl

/-- Neither a bracket nor an ampersand is ever copied. -/
theorem not_copied {c : Char} {after : List Char} (hc : c = '<' ∨ c = '&') :
    readFragment (c :: after) ≠ some ([c], after) := by
  rcases hc with rfl | rfl
  · show some (if breaksLine (readTag after).1 then ['\n'] else [], (readTag after).2) ≠ _
    split <;> simp
  · show some (decodeHtmlEntity (readEntity 0 after).1, (readEntity 0 after).2) ≠ _
    intro h
    obtain ⟨hdecoded, hrest⟩ := Prod.mk.inj (Option.some.inj h)
    cases after with
    | nil => cases hdecoded
    | cons next after =>
      have hlength := congrArg List.length hrest
      unfold readEntity at hlength
      split at hlength
      · exact absurd hlength (Nat.ne_of_lt (Nat.lt_succ_self _))
      · split at hlength
        · exact absurd hlength (Nat.ne_of_lt (Nat.lt_succ_self _))
        · have hle := readEntity_length_le (0 + next.utf8Size) after
          simp only [List.length_cons] at hlength
          omega

/-! ## What is read as a tag or an entity -/

theorem readTag_append {tag after : List Char} (h : '>' ∉ tag) :
    readTag (tag ++ '>' :: after) = (tag, after) := by
  induction tag with
  | nil => rfl
  | cons c tag ih =>
    rw [List.mem_cons, not_or] at h
    rw [List.cons_append, readTag, if_neg (Ne.symm h.1), ih h.2]

/-- Of an entity, no more is read than its end. -/
theorem readEntity_append {entity : List Char} (h : ';' ∉ entity) (after : List Char)
    (length : Nat) :
    ∃ read left, entity ++ [';'] = read ++ left ∧ read ≠ [] ∧
      (readEntity length (entity ++ ';' :: after)).2 = left ++ after := by
  induction entity generalizing length with
  | nil => exact ⟨[';'], [], rfl, List.cons_ne_nil _ _, rfl⟩
  | cons c entity ih =>
    rw [List.mem_cons, not_or] at h
    show ∃ read left, _ ∧ _ ∧ (if c = ';' then ([], entity ++ ';' :: after)
      else if length + c.utf8Size > 16 then ([c], entity ++ ';' :: after)
      else (c :: (readEntity (length + c.utf8Size) (entity ++ ';' :: after)).1,
        (readEntity (length + c.utf8Size) (entity ++ ';' :: after)).2)).2 = _
    rw [if_neg (Ne.symm h.1)]
    split
    · refine ⟨[c], entity ++ [';'], rfl, List.cons_ne_nil _ _, ?_⟩
      rw [List.append_assoc]
      rfl
    · obtain ⟨read, left, hsplit, -, hleft⟩ := ih h.2 (length + c.utf8Size)
      refine ⟨c :: read, left, ?_, List.cons_ne_nil _ _, hleft⟩
      rw [List.cons_append, hsplit]
      rfl

/-! ## The exact condition -/

/-- Every `<` is closed by a `>`. -/
def TagsClosed (value : List Char) : Prop :=
  ∀ before after, value = before ++ '<' :: after → '>' ∈ after

/-- Every `&` that is not in a tag begins a well-formed entity. -/
def AmpersandsBegin (value : List Char) : Prop :=
  ∀ before after, value = before ++ '&' :: after → ¬ InTag value before.length →
    BeginsEntity ('&' :: after)

/-- Whether a tag is open after the text. -/
def leftOpen (isOpen : Bool) (value : List Char) : Bool :=
  value.foldl (fun isOpen c => if c = '<' then true else if c = '>' then false else isOpen) isOpen

theorem leftOpen_append (isOpen : Bool) (front tail : List Char) :
    leftOpen isOpen (front ++ tail) = leftOpen (leftOpen isOpen front) tail := List.foldl_append

theorem leftOpen_of_not_opens {value : List Char} (h : '<' ∉ value) :
    leftOpen false value = false := by
  induction value with
  | nil => rfl
  | cons c value ih =>
    rw [List.mem_cons, not_or] at h
    show leftOpen (if c = '<' then true else if c = '>' then false else false) value = false
    rw [if_neg (Ne.symm h.1), ite_self]
    exact ih h.2

theorem leftOpen_of_not_closes {value : List Char} (h : '>' ∉ value) :
    leftOpen true value = true := by
  induction value with
  | nil => rfl
  | cons c value ih =>
    rw [List.mem_cons, not_or] at h
    show leftOpen (if c = '<' then true else if c = '>' then false else true) value = true
    rw [if_neg (Ne.symm h.1), ite_self]
    exact ih h.2

/-- Behind a text that leaves no tag open, no ampersand is in a tag. -/
theorem not_inTag_of_not_leftOpen {before after : List Char} (h : leftOpen false before = false) :
    ¬ InTag (before ++ '&' :: after) before.length := by
  rintro ⟨front, tag, tail, hsplit, htag, hle, hwithin⟩
  rcases List.append_eq_append_cases hsplit with ⟨middle, hne, hfront, -⟩ | ⟨middle, hbefore, hrest⟩
  · rw [hfront, List.length_append] at hle
    have hpos := List.length_pos_iff.mpr hne
    omega
  · cases middle with
    | nil => cases hrest
    | cons c middle =>
      obtain ⟨rfl, htail⟩ := List.cons.inj hrest
      rw [hbefore, List.length_append, List.length_cons] at hwithin
      -- What has been read of the tag has no bracket that closes it.
      have hread : '>' ∉ middle := by
        have hprefix : middle <+: tag ++ '>' :: tail := ⟨'&' :: after, htail.symm⟩
        have hinTag : middle <+: tag :=
          List.prefix_of_prefix_length_le hprefix (List.prefix_append _ _) (by omega)
        exact fun hmem => htag (hinTag.subset hmem)
      rw [hbefore, leftOpen_append] at h
      have hopen : leftOpen true middle = false := h
      rw [leftOpen_of_not_closes hread] at hopen
      cases hopen

/-- From a turn that begins outside tags on, everything outside tags and entities is copied. -/
theorem copies_from (htags : TagsClosed value) (hamps : AmpersandsBegin value)
    {before : List Char} (hsplit : value = before ++ rest) (hreads : Reads value pushed rest)
    (hclosed : leftOpen false before = false) {place : Nat} (hfrom : before.length ≤ place)
    (hplace : place < value.length) (houtTag : ¬ InTag value place)
    (houtEntity : ¬ InEntity value place) : Copies value place := by
  -- on what is left to read: a turn reads a tag, an entity or one character
  induction hn : rest.length using Nat.strong_induction_on generalizing before rest pushed with
  | _ n ih =>
    cases rest with
    | nil =>
      rw [hsplit, List.append_nil] at hplace
      omega
    | cons c after =>
      have hturn : ∀ {read out left : List Char}, c :: after = read ++ left → read ≠ [] →
          readFragment (c :: after) = some (out, left) → leftOpen false (before ++ read) = false →
          (before ++ read).length ≤ place → Copies value place := by
        intro read out left hread hne hfragment hclosed' hfrom'
        have hshorter : left.length < n := by
          rw [← hn, hread, List.length_append]
          exact Nat.lt_add_of_pos_left (List.length_pos_iff.mpr hne)
        refine ih left.length hshorter ?_ (.turn hreads hfragment) hclosed' hfrom' rfl
        rw [hsplit, hread, List.append_assoc]
      by_cases hopen : c = '<'
      · subst hopen
        obtain ⟨tag, after', hafter, htag⟩ :=
          List.eq_append_cons_of_mem (htags before after hsplit)
        have hsource : '<' :: after = ('<' :: (tag ++ ['>'])) ++ after' := by
          rw [hafter, List.cons_append, List.append_assoc]
          rfl
        have hfragment : readFragment ('<' :: after) =
            some (if breaksLine (readTag after).1 then ['\n'] else [], after') := by
          show some (_, (readTag after).2) = _
          rw [hafter, readTag_append htag]
        refine hturn hsource (List.cons_ne_nil _ _) hfragment ?_ ?_
        · rw [leftOpen_append, ← List.cons_append, leftOpen_append]
          rfl
        · -- The places that were read are in the tag.
          rw [List.length_append, List.length_cons, List.length_append, List.length_singleton]
          by_contra hwithin
          refine houtTag ⟨before, tag, after', ?_, htag, hfrom, by omega⟩
          rw [hsplit, hafter]
      · by_cases hamp : c = '&'
        · subst hamp
          obtain ⟨entity, after', hbegins, hentity⟩ :=
            hamps before after hsplit (hsplit ▸ not_inTag_of_not_leftOpen hclosed)
          obtain ⟨-, hafter⟩ := List.cons.inj hbegins
          obtain ⟨hnoOpen, -, hnoSemicolon⟩ := isEntity_not_mem hentity
          obtain ⟨read, left, hreadEq, hne, hleft⟩ := readEntity_append hnoSemicolon after' 0
          rw [← hafter] at hleft
          have hsource : '&' :: after = ('&' :: read) ++ (left ++ after') := by
            rw [hafter, List.cons_append, ← List.append_assoc, ← hreadEq, List.append_assoc]
            rfl
          have hreadLength : read.length ≤ entity.length + 1 := by
            have hlength := congrArg List.length hreadEq
            rw [List.length_append, List.length_append, List.length_singleton] at hlength
            omega
          have hfragment : readFragment ('&' :: after) =
              some (decodeHtmlEntity (readEntity 0 after).1, left ++ after') := by
            show some (_, (readEntity 0 after).2) = _
            rw [hleft]
          refine hturn hsource (List.cons_ne_nil _ _) hfragment ?_ ?_
          · rw [leftOpen_append, hclosed]
            apply leftOpen_of_not_opens
            intro hmem
            rcases List.mem_cons.mp hmem with heq | hmem
            · cases heq
            · have hin : '<' ∈ entity ++ [';'] := by
                rw [hreadEq]
                exact List.mem_append_left _ hmem
              rcases List.mem_append.mp hin with hin | hin
              · exact hnoOpen hin
              · cases List.mem_singleton.mp hin
          · -- The places that were read are in the entity.
            rw [List.length_append, List.length_cons]
            by_contra hwithin
            refine houtEntity ⟨before, entity, after', ?_, hentity, hfrom, by omega⟩
            rw [hsplit, hafter]
        · have hcopied := readFragment_character hopen hamp after
          by_cases hhere : before.length = place
          · exact ⟨pushed, before, c, after, hreads, hsplit, hhere, hcopied⟩
          · have hsource : c :: after = [c] ++ after := rfl
            refine hturn hsource (List.cons_ne_nil _ _) hcopied ?_ ?_
            · rw [leftOpen_append, hclosed]
              apply leftOpen_of_not_opens
              rw [List.mem_singleton]
              exact Ne.symm hopen
            · rw [List.length_append, List.length_singleton]
              omega

/-- What stands outside tags and entities and is not copied is a bracket or an ampersand. -/
theorem not_copies {before after : List Char} {c : Char} (hc : c = '<' ∨ c = '&')
    (hsplit : value = before ++ c :: after) : ¬ Copies value before.length := by
  rintro ⟨pushed, before', c', after', -, hsplit', hlength, hfragment⟩
  obtain ⟨-, hsame⟩ := List.append_inj (hsplit.symm.trans hsplit') hlength.symm
  obtain ⟨rfl, -⟩ := List.cons.inj hsame
  exact not_copied hc hfragment

/-- A bracket that no tag closes is in no tag. -/
theorem not_inTag_of_unclosed {before after : List Char} (hsplit : value = before ++ '<' :: after)
    (hnever : '>' ∉ after) : ¬ InTag value before.length := by
  rintro ⟨front, tag, tail, hsplit', htag, hle, hwithin⟩
  have hdrop : after = (value.drop before.length).drop 1 := by
    rw [hsplit, List.drop_left]
    rfl
  have hwhole : front ++ '<' :: (tag ++ '>' :: tail) = (front ++ '<' :: tag) ++ '>' :: tail := by
    rw [List.append_assoc, List.cons_append]
  apply hnever
  rw [hdrop, List.drop_drop, hsplit', hwhole]
  by_cases hlast : before.length = front.length + 1 + tag.length
  · -- The place would be the one of the closing bracket.
    exfalso
    have hfront : before.length = (front ++ '<' :: tag).length := by
      rw [hlast, List.length_append, List.length_cons]
      omega
    have hboth : before ++ '<' :: after = (front ++ '<' :: tag) ++ '>' :: tail := by
      rw [← hsplit, hsplit', hwhole]
    obtain ⟨-, hsame⟩ := List.append_inj hboth hfront
    cases hsame
  · have hbefore : before.length + 1 ≤ (front ++ '<' :: tag).length := by
      rw [List.length_append, List.length_cons]
      omega
    rw [List.drop_append_of_le_length hbefore]
    exact List.mem_append_right _ List.mem_cons_self

/-- A bracket or an ampersand in an entity is the ampersand it begins with. -/
theorem beginsEntity_of_inEntity {before after : List Char} {c : Char} (hc : c = '<' ∨ c = '&')
    (hsplit : value = before ++ c :: after) (h : InEntity value before.length) :
    BeginsEntity (c :: after) := by
  obtain ⟨front, entity, tail, hsplit', hentity, hle, hwithin⟩ := h
  obtain ⟨hnoOpen, hnoAmp, -⟩ := isEntity_not_mem hentity
  have hdrop : c :: after = value.drop before.length := by rw [hsplit, List.drop_left]
  rcases Nat.eq_or_lt_of_le hle with hsame | hlater
  · refine ⟨entity, tail, ?_, hentity⟩
    rw [hdrop, ← hsame, hsplit', List.drop_left]
  · exfalso
    obtain ⟨k, hk⟩ := Nat.exists_eq_add_of_lt hlater
    have hwhole : front ++ '&' :: (entity ++ ';' :: tail) =
        (front ++ ['&']) ++ ((entity ++ [';']) ++ tail) := by
      simp only [List.append_assoc, List.cons_append, List.nil_append]
    have hplace : before.length = (front ++ ['&']).length + k := by
      rw [List.length_append, List.length_singleton]
      omega
    rw [hsplit', hwhole, hplace, ← List.drop_drop, List.drop_left,
      List.drop_append_of_le_length (by rw [List.length_append, List.length_singleton]; omega)] at hdrop
    have hne : (entity ++ [';']).drop k ≠ [] := by
      intro hnil
      have hall := List.drop_eq_nil_iff.mp hnil
      rw [List.length_append, List.length_singleton] at hall
      omega
    obtain ⟨d, rest, hrest⟩ := List.exists_cons_of_ne_nil hne
    rw [hrest, List.cons_append] at hdrop
    obtain ⟨rfl, -⟩ := List.cons.inj hdrop
    have hmem : c ∈ entity ++ [';'] := by
      apply List.mem_of_mem_drop (i := k)
      rw [hrest]
      exact List.mem_cons_self
    rcases hc with rfl | rfl
    · rcases List.mem_append.mp hmem with hmem | hmem
      · exact hnoOpen hmem
      · cases List.mem_singleton.mp hmem
    · rcases List.mem_append.mp hmem with hmem | hmem
      · exact hnoAmp hmem
      · cases List.mem_singleton.mp hmem

/-- Everything outside tags and entities is copied exactly when every `<` is closed and every `&`
outside tags begins a well-formed entity. -/
theorem copiesText_iff (value : List Char) :
    CopiesText value ↔ TagsClosed value ∧ AmpersandsBegin value := by
  constructor
  · intro hall
    constructor
    · intro before after hsplit
      by_contra hnever
      have hplace : before.length < value.length := by
        rw [hsplit, List.length_append, List.length_cons]
        omega
      have hbracket : ('<' : Char) = '<' ∨ ('<' : Char) = '&' := Or.inl rfl
      refine not_copies hbracket hsplit
        (hall _ hplace (not_inTag_of_unclosed hsplit hnever) fun hentity => ?_)
      obtain ⟨entity, tail, hbegins, -⟩ := beginsEntity_of_inEntity hbracket hsplit hentity
      cases hbegins
    · intro before after hsplit houtTag
      by_contra hnone
      have hplace : before.length < value.length := by
        rw [hsplit, List.length_append, List.length_cons]
        omega
      have hamp : ('&' : Char) = '<' ∨ ('&' : Char) = '&' := Or.inr rfl
      refine not_copies hamp hsplit (hall _ hplace houtTag fun hentity => ?_)
      exact hnone (beginsEntity_of_inEntity hamp hsplit hentity)
  · rintro ⟨htags, hamps⟩ place hplace houtTag houtEntity
    have hstart : value = [] ++ value := rfl
    exact copies_from htags hamps hstart .start rfl (Nat.zero_le _) hplace houtTag houtEntity

/-! ## Fragments without markup -/

theorem htmlFragmentToText_eq_self (hopen : '<' ∉ value) (hamp : '&' ∉ value) :
    htmlFragmentToText value = value := by
  induction value with
  | nil => rw [htmlFragmentToText]; rfl
  | cons c value ih =>
    rw [List.mem_cons, not_or] at hopen hamp
    have hturn := readFragment_character (Ne.symm hopen.1) (Ne.symm hamp.1) value
    have houtput := (Reads.turn .start hturn).output_eq
    rw [houtput, ih hopen.2 hamp.2]
    rfl

/-- The text of a fragment loses nothing: what stands outside tags and entities is copied, and a
fragment without `<` and `;` is its own text. -/
def LosesNothing (value : List Char) : Prop :=
  CopiesText value ∧ ('<' ∉ value → ';' ∉ value → htmlFragmentToText value = value)

/-- Nothing is lost exactly when every `<` is closed and every `&` outside tags begins a
well-formed entity. -/
theorem losesNothing_iff (value : List Char) :
    LosesNothing value ↔ TagsClosed value ∧ AmpersandsBegin value := by
  unfold LosesNothing
  rw [copiesText_iff]
  refine and_iff_left_of_imp ?_
  rintro ⟨-, hamps⟩ hopen hsemicolon
  apply htmlFragmentToText_eq_self hopen
  intro hamp
  obtain ⟨before, after, hsplit⟩ := List.append_of_mem hamp
  have houtTag : ¬ InTag value before.length := by
    rintro ⟨front, tag, tail, hsplit', -⟩
    apply hopen
    rw [hsplit']
    exact List.mem_append_right _ List.mem_cons_self
  obtain ⟨entity, tail, hbegins, -⟩ := hamps before after hsplit houtTag
  apply hsemicolon
  rw [hsplit, hbegins]
  simp

/-- An ampersand on its own takes what comes after it along. -/
theorem not_losesNothing : ¬ LosesNothing "salt & pepper".toList := by
  rintro ⟨-, hself⟩
  have hlost : htmlFragmentToText "salt & pepper".toList = "salt ".toList := by decide +kernel
  rw [hself (by decide) (by decide)] at hlost
  exact absurd hlost (by decide)

end FetchedContent

end BlueLagoon
