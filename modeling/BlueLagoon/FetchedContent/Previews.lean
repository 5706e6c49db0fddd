import BlueLagoon.FetchedContent

/-!
# Previews

What a formatter shows is a cut of a normalised text. The normalised text is a page: its lines
are words with single blanks between them, blank lines stand alone and only between others. A
page is left as it is when it is normalised again.
-/

namespace BlueLagoon

namespace FetchedContent

open Text

/-! ## Lines of words -/

/-- A line with words, and a single blank between any two. -/
def IsLine (line : List Char) : Prop :=
  ∃ ws, ws ≠ [] ∧ (∀ word ∈ ws, IsWord word) ∧ line = [' '].intercalate ws

/-- The normal form of a line, which has no words when the line is blank. -/
def wordsOnly (line : List Char) : List Char := [' '].intercalate (words line)

theorem IsWord.starts {word : List Char} (h : IsWord word) : Starts word := by
  obtain ⟨c, rest, rfl⟩ := List.exists_cons_of_ne_nil h.ne_nil
  exact ⟨c, rest, rfl, h.no_blank c List.mem_cons_self⟩

theorem IsWord.ends {word : List Char} (h : IsWord word) : Ends word := by
  refine ⟨word.dropLast, word.getLast h.ne_nil, (List.dropLast_append_getLast h.ne_nil).symm, ?_⟩
  exact h.no_blank _ (List.getLast_mem h.ne_nil)

variable {line : List Char}

theorem IsLine.starts (h : IsLine line) : Starts line := by
  obtain ⟨ws, hne, hwords, rfl⟩ := h
  obtain ⟨word, ws, rfl⟩ := List.exists_cons_of_ne_nil hne
  exact (IsWord.starts (hwords word List.mem_cons_self)).intercalate

theorem IsLine.ends (h : IsLine line) : Ends line := by
  obtain ⟨ws, hne, hwords, rfl⟩ := h
  obtain ⟨front, word, rfl⟩ := List.eq_nil_or_concat ws |>.resolve_left hne
  rw [List.concat_eq_append] at hwords ⊢
  exact (IsWord.ends (hwords word (List.mem_append_right _ List.mem_cons_self))).intercalate

theorem IsLine.ne_nil (h : IsLine line) : line ≠ [] := by
  obtain ⟨c, rest, rfl, -⟩ := h.starts
  exact List.cons_ne_nil c rest

/-- The only blank in a line is the space. -/
theorem IsLine.eq_space (h : IsLine line) {c : Char} (hc : c ∈ line) (hblank : isWhitespace c) :
    c = ' ' := by
  obtain ⟨ws, -, hwords, rfl⟩ := h
  rcases List.mem_intercalate hc with hspace | ⟨word, hword, hmem⟩
  · exact List.mem_singleton.mp hspace
  · rw [(hwords word hword).no_blank c hmem] at hblank
    cases hblank

/-- A line is its own normal form. -/
theorem IsLine.wordsOnly_eq (h : IsLine line) : wordsOnly line = line := by
  obtain ⟨ws, -, hwords, rfl⟩ := h
  unfold wordsOnly
  rw [words_intercalate hwords]

/-- The normal form of a line that is not blank is a line. -/
theorem isLine_wordsOnly (h : wordsOnly line ≠ []) : IsLine (wordsOnly line) := by
  refine ⟨words line, ?_, fun word hword => isWord_of_mem hword, rfl⟩
  intro hnil
  apply h
  unfold wordsOnly
  rw [hnil]
  rfl

/-- No two blanks stand next to each other. -/
def SingleBlanks (line : List Char) : Prop :=
  line.IsChain fun a b => isWhitespace a = false ∨ isWhitespace b = false

theorem IsWord.singleBlanks {word : List Char} (h : IsWord word) : SingleBlanks word := by
  obtain ⟨-, hno⟩ := h
  induction word with
  | nil => exact List.isChain_nil
  | cons c word ih =>
    refine List.isChain_cons.mpr ⟨fun d _ => Or.inl (hno c List.mem_cons_self), ?_⟩
    exact ih fun d hd => hno d (List.mem_cons_of_mem _ hd)

theorem IsLine.singleBlanks (h : IsLine line) : SingleBlanks line := by
  obtain ⟨ws, -, hwords, rfl⟩ := h
  induction ws with
  | nil => exact List.isChain_nil
  | cons word ws ih =>
    have hword := hwords word List.mem_cons_self
    have hrest := ih fun other hother => hwords other (List.mem_cons_of_mem _ hother)
    cases ws with
    | nil =>
      rw [List.intercalate_singleton]
      exact IsWord.singleBlanks hword
    | cons next ws =>
      have hnext : IsWord next := hwords next (List.mem_cons_of_mem _ List.mem_cons_self)
      have hstarts : Starts ([' '].intercalate (next :: ws)) := (IsWord.starts hnext).intercalate
      obtain ⟨c, rest, hstart, hc⟩ := hstarts
      rw [List.intercalate_cons_cons, List.append_assoc, List.singleton_append]
      refine List.isChain_append.mpr ⟨IsWord.singleBlanks hword, ?_, ?_⟩
      · refine List.isChain_cons.mpr ⟨?_, hrest⟩
        intro d hd
        rw [hstart] at hd
        obtain rfl := Option.some.inj hd
        exact Or.inr hc
      · intro d hd e _
        exact Or.inl (hword.no_blank d (List.mem_of_getLast? hd))

/-! ## Pages -/

/-- The lines of a normalised text. Blank lines stand alone, and only where they are kept. -/
structure Draft (preserve : Bool) (page : List (List Char)) : Prop where
  lines : ∀ line ∈ page, line = [] ∨ IsLine line
  plain : preserve = false → [] ∉ page
  head : page.head? ≠ some []
  apart : page.IsChain fun a b => a ≠ [] ∨ b ≠ []

/-- A draft that does not end with a blank line. -/
structure Page (preserve : Bool) (page : List (List Char)) : Prop extends Draft preserve page where
  last : page.getLast? ≠ some []

variable {preserve : Bool} {page : List (List Char)}

theorem Draft.concat (h : Draft preserve page) (hline : line = [] ∨ IsLine line)
    (hplain : preserve = false → line ≠ []) (hhead : page = [] → line ≠ [])
    (hlast : page.getLast? = some [] → line ≠ []) : Draft preserve (page ++ [line]) where
  lines := by
    intro other hother
    rcases List.mem_append.mp hother with hold | hnew
    · exact h.lines other hold
    · rw [List.mem_singleton.mp hnew]
      exact hline
  plain := by
    intro hpreserve hmem
    rcases List.mem_append.mp hmem with hold | hnew
    · exact h.plain hpreserve hold
    · exact hplain hpreserve (List.mem_singleton.mp hnew).symm
  head := by
    cases page with
    | nil => exact fun heq => hhead rfl (Option.some.inj heq)
    | cons first page => exact h.head
  apart := by
    refine List.isChain_append.mpr ⟨h.apart, List.isChain_singleton line, ?_⟩
    intro a ha b hb
    obtain rfl := Option.some.inj hb
    by_cases hnil : a = []
    · exact Or.inr (hlast (hnil ▸ ha))
    · exact Or.inl hnil

/-- What the loop does with a line. -/
theorem normalizeLine_eq (preserve : Bool) (state : List (List Char) × Bool) (line : List Char) :
    normalizeLine preserve state line =
      if wordsOnly line = [] then
        (if preserve && !state.2 && !state.1.isEmpty then state.1 ++ [[]] else state.1, true)
      else (state.1 ++ [wordsOnly line], false) := by
  have htrim : trimChars (wordsOnly line) = wordsOnly line := by
    by_cases hnil : wordsOnly line = []
    · rw [hnil]
      rfl
    · have hline := isLine_wordsOnly hnil
      exact trimChars_eq_self hline.starts hline.ends
  show (if trimChars (wordsOnly line) = [] then _ else (state.1 ++ [trimChars (wordsOnly line)], _)) = _
  rw [htrim]

/-- The lines so far are a draft; after a blank line, another one is not added. -/
theorem Draft.normalizeLine {state : List (List Char) × Bool} (h : Draft preserve state.1)
    (hblank : state.1.getLast? = some [] → state.2 = true) (line : List Char) :
    Draft preserve (normalizeLine preserve state line).1 ∧
      ((normalizeLine preserve state line).1.getLast? = some [] →
        (normalizeLine preserve state line).2 = true) := by
  rw [normalizeLine_eq]
  by_cases hnil : wordsOnly line = []
  · rw [if_pos hnil]
    refine ⟨?_, fun _ => rfl⟩
    dsimp only
    split
    · next hadd =>
      simp only [Bool.and_eq_true, Bool.not_eq_true', List.isEmpty_eq_false_iff] at hadd
      obtain ⟨⟨hpreserve, hprevious⟩, hsome⟩ := hadd
      refine h.concat (Or.inl rfl) ?_ (fun hempty => absurd hempty hsome) ?_
      · intro hplain
        rw [hpreserve] at hplain
        cases hplain
      · intro hlast
        rw [hblank hlast] at hprevious
        cases hprevious
    · exact h
  · rw [if_neg hnil]
    refine ⟨h.concat (Or.inr (isLine_wordsOnly hnil)) (fun _ => hnil) (fun _ => hnil)
      fun _ => hnil, ?_⟩
    intro hlast
    rw [List.getLast?_append, List.getLast?_singleton, Option.some_or] at hlast
    exact absurd (Option.some.inj hlast) hnil

/-- What the loop makes of lines is a draft. -/
theorem draft_foldl (preserve : Bool) (given : List (List Char)) :
    Draft preserve (given.foldl (FetchedContent.normalizeLine preserve) ([], false)).1 := by
  have hfold : ∀ (given : List (List Char)) (state : List (List Char) × Bool),
      Draft preserve state.1 → (state.1.getLast? = some [] → state.2 = true) →
      Draft preserve (given.foldl (FetchedContent.normalizeLine preserve) state).1 := by
    intro given
    induction given with
    | nil => exact fun _ h _ => h
    | cons line given ih =>
      intro state h hblank
      obtain ⟨h', hblank'⟩ := h.normalizeLine hblank line
      exact ih _ h' hblank'
  refine hfold given _ ?_ fun hlast => by cases hlast
  exact
    { lines := fun line hline => by cases hline
      plain := fun _ hmem => by cases hmem
      head := fun heq => by cases heq
      apart := List.isChain_nil }

/-- Put together, the lines of a page neither begin nor end with a blank. -/
theorem Page.edges (h : Page preserve page) (hne : page ≠ []) :
    Starts (['\n'].intercalate page) ∧ Ends (['\n'].intercalate page) := by
  constructor
  · obtain ⟨first, rest, rfl⟩ := List.exists_cons_of_ne_nil hne
    rcases h.lines first List.mem_cons_self with hnil | hline
    · exact absurd (congrArg some hnil) h.head
    · exact hline.starts.intercalate
  · obtain ⟨front, last, rfl⟩ := (List.eq_nil_or_concat page).resolve_left hne
    rw [List.concat_eq_append] at h ⊢
    rcases h.lines last (List.mem_append_right _ List.mem_cons_self) with hnil | hline
    · exact absurd (by rw [List.getLast?_concat, hnil]) h.last
    · exact hline.ends.intercalate

/-- A blank line at the end is a line break at the end. -/
theorem intercalate_concat_nil (hne : page ≠ []) :
    ['\n'].intercalate (page ++ [[]]) = ['\n'].intercalate page ++ ['\n'] := by
  induction page with
  | nil => exact absurd rfl hne
  | cons line page ih =>
    cases page with
    | nil =>
      rw [List.cons_append, List.nil_append, List.intercalate_cons_cons,
        List.intercalate_singleton, List.intercalate_singleton, List.append_nil]
    | cons next page =>
      rw [List.cons_append, List.cons_append, List.intercalate_cons_cons, ← List.cons_append,
        ih (List.cons_ne_nil _ _), List.intercalate_cons_cons]
      simp only [List.append_assoc]

/-- A draft is a page, or a page with a blank line behind it. -/
theorem Draft.exists_page (h : Draft preserve page) :
    ∃ front, Page preserve front ∧
      trimChars (['\n'].intercalate page) = ['\n'].intercalate front := by
  by_cases hlast : page.getLast? = some []
  · obtain ⟨front, rfl⟩ := List.getLast?_eq_some_iff.mp hlast
    obtain ⟨hfront, -, hends⟩ := List.isChain_append.mp h.apart
    have hne : front ≠ [] := by
      intro hnil
      rw [hnil] at h
      exact h.head rfl
    have hpage : Page preserve front :=
      { lines := fun line hline => h.lines line (List.mem_append_left _ hline)
        plain := fun hpreserve hmem => h.plain hpreserve (List.mem_append_left _ hmem)
        head := by
          obtain ⟨first, rest, rfl⟩ := List.exists_cons_of_ne_nil hne
          exact h.head
        apart := hfront
        last := by
          intro hnil
          rcases hends [] hnil [] rfl with hne' | hne'
          · exact hne' rfl
          · exact hne' rfl }
    refine ⟨front, hpage, ?_⟩
    obtain ⟨hstarts, hends⟩ := hpage.edges hne
    rw [intercalate_concat_nil hne]
    refine trimChars_append hstarts hends ?_
    intro c hc
    obtain rfl := List.mem_singleton.mp hc
    rfl
  · have hpage : Page preserve page := { h with last := hlast }
    refine ⟨page, hpage, ?_⟩
    by_cases hne : page = []
    · rw [hne]
      rfl
    · obtain ⟨hstarts, hends⟩ := hpage.edges hne
      exact trimChars_eq_self hstarts hends

/-- A normalised text is a page. -/
theorem normalizeLines_page (value : List Char) (preserve : Bool) :
    ∃ page, Page preserve page ∧ normalizeLines value preserve = ['\n'].intercalate page :=
  (draft_foldl preserve (lines value)).exists_page

/-! ## Normalised again -/

theorem IsLine.no_return (h : IsLine line) : line.getLast? ≠ some '\r' := by
  obtain ⟨front, c, rfl, hc⟩ := h.ends
  rw [List.getLast?_concat]
  intro heq
  obtain rfl := Option.some.inj heq
  exact absurd hc (by decide)

theorem IsLine.no_break (h : IsLine line) : '\n' ∉ line := by
  intro hmem
  exact absurd (h.eq_space hmem (by decide)) (by decide)

/-- The lines of a page are those it was put together from. -/
theorem Page.lines_eq (h : Page preserve page) : lines (['\n'].intercalate page) = page := by
  cases hlast : page.getLast? with
  | none =>
    rw [List.getLast?_eq_none_iff] at hlast
    rw [hlast]
    rfl
  | some last =>
    have hne : last ≠ [] := by
      intro hnil
      apply h.last
      rw [hlast, hnil]
    refine lines_intercalate ?_ ?_ hlast hne
    · intro line hline
      rcases h.lines line hline with rfl | hwords
      · exact List.not_mem_nil
      · exact hwords.no_break
    · intro line hline
      rcases h.lines line hline with rfl | hwords
      · exact fun heq => by cases heq
      · exact hwords.no_return

/-- The loop leaves the lines of a draft as they are. -/
theorem foldl_draft (given front : List (List Char)) (previousBlank : Bool)
    (h : Draft preserve (front ++ given))
    (hprevious : previousBlank = true → front.getLast? = some []) :
    (given.foldl (FetchedContent.normalizeLine preserve) (front, previousBlank)).1 =
      front ++ given := by
  induction given generalizing front previousBlank with
  | nil => exact (List.append_nil front).symm
  | cons line given ih =>
    have hconcat : front ++ line :: given = (front ++ [line]) ++ given := by
      rw [List.append_assoc, List.singleton_append]
    rw [hconcat] at h ⊢
    rw [List.foldl_cons, normalizeLine_eq]
    rcases h.lines line (by simp) with rfl | hline
    · -- A blank line of the draft is kept, so it stands behind a line that is not blank.
      have hpreserve : preserve = true := by
        by_contra hplain
        exact h.plain (Bool.eq_false_iff.mpr hplain) (by simp)
      have hsome : front.isEmpty = false := by
        cases front with
        | nil => exact absurd rfl h.head
        | cons first front => rfl
      have hfresh : previousBlank = false := by
        by_contra hblank
        have hends := hprevious (Bool.not_eq_false _ ▸ hblank)
        obtain ⟨hfront, -, -⟩ := List.isChain_append.mp h.apart
        obtain ⟨-, -, hapart⟩ := List.isChain_append.mp hfront
        rcases hapart [] hends [] rfl with hne | hne
        · exact hne rfl
        · exact hne rfl
      have hblank : wordsOnly [] = [] := rfl
      rw [if_pos hblank]
      simp only [hpreserve, hsome, hfresh, Bool.not_false, Bool.and_self, if_true]
      rw [hpreserve] at ih h
      exact ih _ true h fun _ => List.getLast?_concat
    · rw [hline.wordsOnly_eq, if_neg hline.ne_nil]
      exact ih _ false h fun hblank => by cases hblank

/-- A page is left as it is. -/
theorem Page.normalizeLines_eq (h : Page preserve page) :
    normalizeLines (['\n'].intercalate page) preserve = ['\n'].intercalate page := by
  have hfold := foldl_draft page [] false (by simpa using h.toDraft) fun hblank => by cases hblank
  unfold normalizeLines
  rw [h.lines_eq, hfold, List.nil_append]
  by_cases hne : page = []
  · rw [hne]
    rfl
  · obtain ⟨hstarts, hends⟩ := h.edges hne
    exact trimChars_eq_self hstarts hends

/-- A normalised text is left as it is. -/
theorem normalizeLines_idem (value : List Char) (preserve : Bool) :
    normalizeLines (normalizeLines value preserve) preserve = normalizeLines value preserve := by
  obtain ⟨page, hpage, hvalue⟩ := normalizeLines_page value preserve
  rw [hvalue]
  exact hpage.normalizeLines_eq

/-! ## Characters that do not come through -/

theorem escape_not_mem_strip (value : List Char) : '\x1b' ∉ stripAnsiEscapeSequences value := by
  induction hn : value.length using Nat.strong_induction_on generalizing value with
  | _ n ih =>
    rw [stripAnsiEscapeSequences]
    split
    · exact List.not_mem_nil
    · next pushed rest hturn =>
      have hrest := ih rest.length (hn ▸ readEscape_length_lt hturn) rest rfl
      have hpushed : '\x1b' ∉ pushed := by
        unfold readEscape at hturn
        split at hturn
        · cases hturn
        · next character tail =>
          split at hturn
          · next hne =>
            obtain ⟨rfl, -⟩ := Prod.mk.inj (Option.some.inj hturn)
            exact fun hmem => hne (List.mem_singleton.mp hmem).symm
          · split at hturn <;> (obtain ⟨rfl, -⟩ := Prod.mk.inj (Option.some.inj hturn)
                                exact List.not_mem_nil)
      intro hmem
      rcases List.mem_append.mp hmem with hnow | hlater
      · exact hpushed hnow
      · exact hrest hlater

/-- A character that neither an escape sequence nor a border is made of. -/
def Shown (c : Char) : Prop := c ≠ '\x1b' ∧ c ∉ terminalRuleChars

theorem shown_replace {value : List Char} (h : '\x1b' ∉ value) {c : Char}
    (hc : c ∈ replaceTerminalRuleChars value) : Shown c := by
  obtain ⟨character, hcharacter, rfl⟩ := List.mem_map.mp hc
  by_cases hrule : character ∈ terminalRuleChars
  · rw [if_pos hrule]
    exact ⟨by decide, by decide⟩
  · rw [if_neg hrule]
    exact ⟨fun heq => h (heq ▸ hcharacter), hrule⟩

/-- Normalising adds only spaces and line breaks. -/
theorem mem_normalizeLines {value : List Char} {c : Char}
    (hc : c ∈ normalizeLines value preserve) : c = ' ' ∨ c = '\n' ∨ c ∈ value := by
  have hwords : ∀ line ∈ lines value, c ∈ wordsOnly line → c = ' ' ∨ c ∈ value := by
    intro line hline hmem
    rcases List.mem_intercalate hmem with hspace | ⟨word, hword, hmem⟩
    · exact Or.inl (List.mem_singleton.mp hspace)
    · exact Or.inr (mem_of_mem_lines hline (mem_of_mem_words hword hmem))
  have hfold : ∀ (given : List (List Char)) (state : List (List Char) × Bool),
      given ⊆ lines value → (∀ line ∈ state.1, c ∈ line → c = ' ' ∨ c ∈ value) →
      ∀ line ∈ (given.foldl (FetchedContent.normalizeLine preserve) state).1, c ∈ line →
        c = ' ' ∨ c ∈ value := by
    intro given
    induction given with
    | nil => exact fun _ _ h => h
    | cons line given ih =>
      intro state hsub h
      refine ih _ (fun other hother => hsub (List.mem_cons_of_mem _ hother)) ?_
      intro other hother hmem
      rw [normalizeLine_eq] at hother
      split at hother
      · dsimp only at hother
        split at hother
        · rcases List.mem_append.mp hother with hold | hnew
          · exact h other hold hmem
          · rw [List.mem_singleton.mp hnew] at hmem
            cases hmem
        · exact h other hother hmem
      · rcases List.mem_append.mp hother with hold | hnew
        · exact h other hold hmem
        · rw [List.mem_singleton.mp hnew] at hmem
          exact hwords line (hsub List.mem_cons_self) hmem
  rcases List.mem_intercalate (mem_of_mem_trimChars hc) with hbreak | ⟨line, hline, hmem⟩
  · exact Or.inr (Or.inl (List.mem_singleton.mp hbreak))
  · have hstart : ∀ line ∈ (([], false) : List (List Char) × Bool).1, c ∈ line →
        c = ' ' ∨ c ∈ value := fun line hnone => by cases hnone
    rcases hfold (lines value) ([], false) (List.Subset.refl _) hstart line hline hmem with
      hspace | hvalue
    · exact Or.inl hspace
    · exact Or.inr (Or.inr hvalue)

theorem shown_sanitizedText {source : List Char} {c : Char} (hc : c ∈ sanitizedText source) :
    Shown c := by
  rcases mem_normalizeLines hc with rfl | rfl | hmem
  · exact ⟨by decide, by decide⟩
  · exact ⟨by decide, by decide⟩
  · exact shown_replace (escape_not_mem_strip source) hmem

/-! ## What is shown -/

/-- A line without blanks at its ends or next to each other, and not empty. -/
structure Tidy (line : List Char) : Prop where
  ne_nil : line ≠ []
  leading : ∀ c, line.head? = some c → isWhitespace c = false
  trailing : ∀ c, line.getLast? = some c → isWhitespace c = false
  single : SingleBlanks line

theorem IsLine.tidy (h : IsLine line) : Tidy line where
  ne_nil := h.ne_nil
  leading := by
    intro c hc
    obtain ⟨first, rest, rfl, hfirst⟩ := h.starts
    obtain rfl := Option.some.inj hc
    exact hfirst
  trailing := by
    intro c hc
    obtain ⟨front, last, rfl, hlast⟩ := h.ends
    rw [List.getLast?_concat] at hc
    obtain rfl := Option.some.inj hc
    exact hlast
  single := h.singleBlanks

theorem tidy_sanitizedText {source : List Char} (hline : line ∈ lines (sanitizedText source)) :
    Tidy line := by
  obtain ⟨page, hpage, hvalue⟩ :=
    normalizeLines_page (replaceTerminalRuleChars (stripAnsiEscapeSequences source)) false
  unfold sanitizedText normalizePlainText at hline
  rw [hvalue, hpage.lines_eq] at hline
  rcases hpage.lines line hline with hnil | hwords
  · exact absurd (hnil ▸ hline) (hpage.plain rfl)
  · exact hwords.tidy

variable [HtmlLibrary] {input : FetchedContentInput}

/-- The text that a preview of plain or of preformatted text is made from. -/
def previewSource (input : FetchedContentInput) : Option (List Char) :=
  if isHtml input then
    (extractFirstTagContent (removeNonContentHtmlBlocks input.body.toList) "pre").map
      htmlFragmentToText
  else some input.body.toList

theorem format_eq {source : List Char} (h : previewSource input = some source) :
    ∃ formatterKind, format input =
      boundedPreview formatterKind (sanitizedText source) input.maxPreviewChars := by
  unfold previewSource at h
  unfold format
  split at h
  · next hhtml =>
    rw [if_pos hhtml]
    obtain ⟨preContent, hpre, rfl⟩ := Option.map_eq_some_iff.mp h
    refine ⟨"html_pre_text_sanitized", ?_⟩
    unfold formatHtmlMarkdown
    dsimp only
    rw [hpre]
  · next hplain =>
    rw [if_neg hplain]
    obtain rfl := Option.some.inj h
    exact ⟨"plain_text_sanitized", rfl⟩

omit [HtmlLibrary] in
/-- The preview of a plain or preformatted text shows no escape and no border, is the beginning
of a text of tidy lines, with all the characters that are allowed, and says whether it was cut. A
text that is normalised already stays as it is. -/
theorem previews_sanitized :
    (∀ [HtmlLibrary] (input : FetchedContentInput) (source : List Char),
      previewSource input = some source →
      '\x1b' ∉ (format input).preview.toList ∧
      (∀ c ∈ terminalRuleChars, c ∉ (format input).preview.toList) ∧
      (∀ line ∈ lines (sanitizedText source), Tidy line) ∧
      (format input).preview.toList.length ≤ input.maxPreviewChars ∧
      (format input).preview.toList <+: sanitizedText source ∧
      (format input).preview.toList = (sanitizedText source).take input.maxPreviewChars ∧
      ((format input).previewTruncated = true ↔
        input.maxPreviewChars < (sanitizedText source).length)) ∧
    ∀ value, normalizePlainText (normalizePlainText value) = normalizePlainText value ∧
      normalizeMarkdown (normalizeMarkdown value) = normalizeMarkdown value := by
  constructor
  · intro _ input source hsource
    obtain ⟨formatterKind, hformat⟩ := format_eq hsource
    have hpreview : (format input).preview.toList =
        (sanitizedText source).take input.maxPreviewChars := by
      rw [hformat]
      exact String.toList_ofList
    have hshown : ∀ c ∈ (format input).preview.toList, Shown c := by
      intro c hc
      rw [hpreview] at hc
      exact shown_sanitizedText (List.mem_of_mem_take hc)
    refine ⟨?_, ?_, ?_, ?_, ?_, hpreview, ?_⟩
    · exact fun hmem => (hshown _ hmem).1 rfl
    · exact fun c hc hmem => (hshown c hmem).2 hc
    · exact fun line hline => tidy_sanitizedText hline
    · rw [hpreview]
      exact List.length_take_le _ _
    · rw [hpreview]
      exact List.take_prefix _ _
    · rw [hformat]
      exact decide_eq_true_iff
  · intro value
    exact ⟨normalizeLines_idem value false, normalizeLines_idem value true⟩

/-- A library that leaves a page as it is. -/
@[reducible] def verbatimLibrary : HtmlLibrary where
  parseHtml := id

/-- A page with a preformatted part that decodes to an escape sequence and a border. -/
def borderedPage : FetchedContentInput where
  contentType := some "text/html"
  body := "<pre>&#27;[1mRank  &#x2502; Coin</pre>"
  maxPreviewChars := 8

omit [HtmlLibrary] in
theorem previews_sanitized_bordered :
    letI := verbatimLibrary
    (format borderedPage).preview = "Rank Coi" ∧ (format borderedPage).previewTruncated = true ∧
      '\x1b' ∉ (format borderedPage).preview.toList := by
  let _library := verbatimLibrary
  have hsource : previewSource borderedPage = some "\x1b[1mRank  │ Coin".toList := by
    decide +kernel
  obtain ⟨hescape, -⟩ := previews_sanitized.1 borderedPage _ hsource
  exact ⟨by decide +kernel, by decide +kernel, hescape⟩

end FetchedContent

end BlueLagoon
