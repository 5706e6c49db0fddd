import BlueLagoon.TextScan

/-!
# Pages of HTML

A page is read into tags, comments and the text between them, the way a browser reads it: a tag
ends with the first closing bracket outside of quoted values, and what stands in comments, in
values and in scripts is no tag. An element goes from its opening tag to the closing tag that
belongs to it, or to the end of the page.
-/

namespace Html

open Text

/-! ## Tags -/

/-- A character that separates attributes. -/
def isBlank (c : Char) : Bool := c ∈ [' ', '\t', '\n', '\r', Char.ofNat 12]

/-- A character that ends the name of a tag. -/
def endsName (c : Char) : Bool := isBlank c || c = '/' || c = '>'

def isQuote (c : Char) : Bool := c = '"' || c = Char.ofNat 39

/-- Where in a tag the next character stands. -/
inductive TagState
  | name
  | beforeAttribute
  | attribute
  | afterAttribute
  | beforeValue
  | unquoted
  | quoted (quote : Char)
  | slash
  deriving DecidableEq, Repr

def TagState.next : TagState → Char → TagState
  | .name, c => if isBlank c then .beforeAttribute else if c = '/' then .slash else .name
  | .beforeAttribute, c | .slash, c =>
    if isBlank c then .beforeAttribute else if c = '/' then .slash else .attribute
  | .attribute, c | .afterAttribute, c =>
    if isBlank c then .afterAttribute
    else if c = '/' then .slash
    else if c = '=' then .beforeValue
    else .attribute
  | .beforeValue, c =>
    if isBlank c then .beforeValue else if isQuote c then .quoted c else .unquoted
  | .unquoted, c => if isBlank c then .beforeAttribute else .unquoted
  | .quoted quote, c => if c = quote then .beforeAttribute else .quoted quote

/-- The character is the closing bracket of the tag. -/
def TagState.ends : TagState → Char → Bool
  | .quoted _, _ => false
  | _, c => c = '>'

/-- How many characters are left of a tag, its closing bracket included, and whether the tag
closes itself. -/
def tagRest : TagState → List Char → Option (Nat × Bool)
  | _, [] => none
  | state, c :: cs =>
    if state.ends c then some (1, state = .slash)
    else (tagRest (state.next c) cs).map fun (n, closesItself) => (n + 1, closesItself)

/-! ## Tokens -/

inductive Token
  | text (chars : List Char)
  | comment (chars : List Char)
  | opening (name : List Char) (closesItself : Bool) (chars : List Char)
  | closing (name : List Char) (chars : List Char)
  deriving DecidableEq, Repr

def Token.chars : Token → List Char
  | .text chars => chars
  | .comment chars => chars
  | .opening _ _ chars => chars
  | .closing _ chars => chars

/-- How many characters there are up to the end of the pattern, or of the page. -/
def through (pattern page : List Char) : Nat :=
  match find pattern page with
  | some n => n + pattern.length
  | none => page.length

/-- The name of a tag, in small letters. -/
def nameOf (page : List Char) : List Char :=
  (page.takeWhile fun c => !endsName c).map asciiLower

def beginsName (page : List Char) : Bool := page.head?.any fun c => c.isAlpha

/-- The token at the front of a page. A tag that the page cuts off is text. -/
def firstToken : List Char → Token
  | '<' :: '!' :: page =>
    let bracket := if ['-', '-'].isPrefixOf page then ['-', '-', '>'] else ['>']
    .comment ('<' :: '!' :: page.take (through bracket page))
  | '<' :: '?' :: page => .comment ('<' :: '?' :: page.take (through ['>'] page))
  | '<' :: '/' :: page =>
    if beginsName page then
      match tagRest .name page with
      | some (n, _) => .closing (nameOf page) ('<' :: '/' :: page.take n)
      | none => .text ('<' :: '/' :: page)
    else .comment ('<' :: '/' :: page.take (through ['>'] page))
  | '<' :: page =>
    if beginsName page then
      match tagRest .name page with
      | some (n, closesItself) => .opening (nameOf page) closesItself ('<' :: page.take n)
      | none => .text ('<' :: page)
    else .text ['<']
  | c :: _ => .text [c]
  | [] => .text []

/-- The elements in which there are no tags but their closing one. -/
def rawTextNames : List (List Char) :=
  ["script", "style", "textarea", "title", "xmp", "iframe", "noembed", "noframes"].map
    String.toList

/-- A closing tag with the name stands at the front. -/
def closesHere (name page : List Char) : Bool :=
  ('<' :: '/' :: name).isPrefixOf (page.map asciiLower) &&
    (page.drop (name.length + 2)).head?.any endsName

/-- What is not read for tags behind a token: it ends with the closing tag of the element. -/
def rawText (token : Token) (rest : List Char) : List Char :=
  match token with
  | .opening name closesItself _ =>
    if name ∈ rawTextNames ∧ closesItself = false then
      rest.take ((firstWhere (closesHere name) rest).getD rest.length)
    else []
  | _ => []

/-- The tokens of a page, each with the raw text behind it. -/
def tokensFrom : Nat → List Char → List Token
  | 0, _ => []
  | _ + 1, [] => []
  | fuel + 1, c :: page =>
    let token := firstToken (c :: page)
    let rest := (c :: page).drop token.chars.length
    let raw := rawText token rest
    token :: .text raw :: tokensFrom fuel (rest.drop raw.length)

def tokens (page : List Char) : List Token := tokensFrom page.length page

section Tokens

variable {page : List Char}

/-- The first token is a beginning of the page. -/
theorem firstToken_begins (page : List Char) : (firstToken page).chars <+: page := by
  unfold firstToken
  split
  · simp [Token.chars, List.take_prefix]
  · simp [Token.chars, List.take_prefix]
  · split
    · split <;> simp [Token.chars, List.take_prefix]
    · simp [Token.chars, List.take_prefix]
  · split
    · split <;> simp [Token.chars, List.take_prefix]
    · simp [Token.chars]
  · simp [Token.chars]
  · simp [Token.chars]

theorem firstToken_ne_nil (c : Char) (page : List Char) : (firstToken (c :: page)).chars ≠ [] := by
  unfold firstToken
  repeat' split
  all_goals simp_all [Token.chars]

theorem rawText_begins (token : Token) (rest : List Char) : rawText token rest <+: rest := by
  unfold rawText
  split
  · split
    · exact List.take_prefix _ _
    · exact List.nil_prefix
  · exact List.nil_prefix

/-- A tag has its whole name, and ends with its bracket. -/
theorem tagRest_eq_some {n : Nat} {closesItself : Bool}
    (h : tagRest .name page = some (n, closesItself)) :
    (page.takeWhile fun c => !endsName c).length ≤ n := by
  induction page generalizing n closesItself with
  | nil => cases h
  | cons c page ih =>
    by_cases hends : endsName c
    · rw [List.takeWhile_cons_of_neg (by simp [hends])]
      exact Nat.zero_le _
    · rw [List.takeWhile_cons_of_pos (by simp [hends])]
      unfold endsName at hends
      simp only [Bool.or_eq_true, decide_eq_true_eq, not_or] at hends
      obtain ⟨⟨hblank, hslash⟩, hbracket⟩ := hends
      have hnext : TagState.next .name c = .name := by
        simp [TagState.next, hblank, hslash]
      have hgoes : TagState.ends .name c = false := by
        simp [TagState.ends, hbracket]
      unfold tagRest at h
      rw [hnext, hgoes] at h
      obtain ⟨⟨m, _⟩, hrest, heq⟩ := Option.map_eq_some_iff.mp h
      obtain ⟨rfl, -⟩ := Prod.mk.inj heq
      exact Nat.succ_le_succ (ih hrest)

theorem tagRest_getLast {state : TagState} {n : Nat} {closesItself : Bool}
    (h : tagRest state page = some (n, closesItself)) :
    ∃ inner, page.take n = inner ++ ['>'] := by
  induction page generalizing state n closesItself with
  | nil => cases h
  | cons c page ih =>
    unfold tagRest at h
    split at h
    · next hends =>
      obtain ⟨rfl, -⟩ := Prod.mk.inj (Option.some.inj h)
      refine ⟨[], ?_⟩
      unfold TagState.ends at hends
      split at hends
      · cases hends
      · rw [of_decide_eq_true hends]
        rfl
    · obtain ⟨⟨m, _⟩, hrest, heq⟩ := Option.map_eq_some_iff.mp h
      obtain ⟨rfl, -⟩ := Prod.mk.inj heq
      obtain ⟨inner, hinner⟩ := ih hrest
      exact ⟨c :: inner, by rw [List.take_succ_cons, hinner, List.cons_append]⟩

/-- The characters of an opening tag: the bracket and the name first, the bracket last. -/
structure IsOpening (name chars : List Char) : Prop where
  name : '<' :: name <+: chars.map asciiLower
  bracket : ∃ inner, chars = inner ++ ['>']

theorem firstToken_isOpening {name chars : List Char} {closesItself : Bool}
    (h : firstToken page = .opening name closesItself chars) : IsOpening name chars := by
  unfold firstToken at h
  repeat' split at h
  all_goals cases h
  next hrest =>
    obtain ⟨inner, hinner⟩ := tagRest_getLast hrest
    refine { name := ?_, bracket := ⟨'<' :: inner, by rw [hinner, List.cons_append]⟩ }
    rw [List.map_cons]
    refine List.cons_prefix_cons.mpr ⟨by decide, ?_⟩
    refine List.IsPrefix.map asciiLower ?_
    exact List.prefix_take_iff.mpr ⟨List.takeWhile_prefix _, tagRest_eq_some hrest⟩

theorem append_drop_of_prefix {front : List Char} (h : front <+: page) :
    front ++ page.drop front.length = page := by
  obtain ⟨rest, rfl⟩ := h
  rw [List.drop_left]

/-- The tokens make up the page. By induction on the fuel, which is enough since every token has
a character. -/
theorem tokensFrom_chars {fuel : Nat} (h : page.length ≤ fuel) :
    (tokensFrom fuel page).flatMap Token.chars = page := by
  induction fuel generalizing page with
  | zero => exact (List.length_eq_zero_iff.mp (Nat.le_zero.mp h)).symm
  | succ fuel ih =>
    cases page with
    | nil => rfl
    | cons c page =>
      have htoken := append_drop_of_prefix (firstToken_begins (c :: page))
      have hpos := List.length_pos_iff.mpr (firstToken_ne_nil c page)
      unfold tokensFrom
      generalize firstToken (c :: page) = token at htoken hpos ⊢
      dsimp only
      have hraw := append_drop_of_prefix (rawText_begins token ((c :: page).drop token.chars.length))
      have hshorter : (((c :: page).drop token.chars.length).drop
          (rawText token ((c :: page).drop token.chars.length)).length).length ≤ fuel := by
        simp only [List.length_drop, List.length_cons] at h ⊢
        omega
      rw [List.flatMap_cons, List.flatMap_cons, ih hshorter]
      show token.chars ++ (rawText token _ ++ _) = c :: page
      rw [hraw, htoken]

theorem tokens_chars (page : List Char) : (tokens page).flatMap Token.chars = page :=
  tokensFrom_chars (Nat.le_refl _)

theorem isOpening_of_mem {fuel : Nat} {name chars : List Char} {closesItself : Bool}
    (h : Token.opening name closesItself chars ∈ tokensFrom fuel page) : IsOpening name chars := by
  induction fuel generalizing page with
  | zero => cases h
  | succ fuel ih =>
    cases page with
    | nil => cases h
    | cons c page =>
      unfold tokensFrom at h
      rcases List.mem_cons.mp h with hfirst | hlater
      · exact firstToken_isOpening hfirst.symm
      · exact ih ((List.mem_cons.mp hlater).resolve_left (by rintro ⟨⟩))

end Tokens

/-! ## Elements -/

/-- An element: its opening tag, its content and its closing tag, which is missing when the
element closes itself or ends with the page. -/
structure Element where
  opening : List Char
  content : List Char
  closing : List Char
  deriving DecidableEq, Repr

def Element.chars (element : Element) : List Char :=
  element.opening ++ (element.content ++ element.closing)

def Token.opens (name : List Char) : Token → Bool
  | .opening tagName closesItself _ => tagName = name && !closesItself
  | _ => false

def Token.closes (name : List Char) : Token → Bool
  | .closing tagName _ => tagName = name
  | _ => false

/-- The content of an element, and the closing tag that belongs to it. Inner elements with the
same name have closing tags of their own. -/
def untilClosing (name : List Char) : Nat → List Token → List Char × List Char
  | _, [] => ([], [])
  | depth, token :: tokens =>
    if token.closes name && depth = 0 then ([], token.chars)
    else
      let depth :=
        if token.opens name then depth + 1 else if token.closes name then depth - 1 else depth
      ((token.chars ++ (untilClosing name depth tokens).1), (untilClosing name depth tokens).2)

/-- The element with the name that begins with the first token. -/
def elementAt (name : List Char) : List Token → Option Element
  | .opening tagName closesItself chars :: tokens =>
    if tagName = name then
      if closesItself then some ⟨chars, [], []⟩
      else some ⟨chars, (untilClosing name 0 tokens).1, (untilClosing name 0 tokens).2⟩
    else none
  | _ => none

/-- The elements with the name, each with the place where it begins. -/
def elementsFrom (name : List Char) : Nat → List Token → List (Nat × Element)
  | _, [] => []
  | place, token :: tokens =>
    ((elementAt name (token :: tokens)).map (place, ·)).toList ++
      elementsFrom name (place + token.chars.length) tokens

def elements (name : String) (page : List Char) : List (Nat × Element) :=
  elementsFrom name.toList 0 (tokens page)

section Elements

variable {name : List Char} {page : List Char} {place start : Nat} {element : Element}
  {tokens : List Token}

theorem untilClosing_begins (name : List Char) (depth : Nat) (tokens : List Token) :
    (untilClosing name depth tokens).1 ++ (untilClosing name depth tokens).2 <+:
      tokens.flatMap Token.chars := by
  induction tokens generalizing depth with
  | nil => exact List.prefix_refl _
  | cons token tokens ih =>
    unfold untilClosing
    rw [List.flatMap_cons]
    split
    · exact List.prefix_append _ _
    · dsimp only
      rw [List.append_assoc]
      exact (List.prefix_append_right_inj _).mpr (ih _)

theorem elementAt_prefix (h : elementAt name tokens = some element) :
    element.chars <+: tokens.flatMap Token.chars := by
  unfold elementAt at h
  split at h
  · next tagName closesItself chars tokens =>
    rw [List.flatMap_cons]
    split at h
    · split at h
      · obtain rfl := Option.some.inj h
        exact (List.prefix_append_right_inj _).mpr List.nil_prefix
      · obtain rfl := Option.some.inj h
        exact (List.prefix_append_right_inj _).mpr (untilClosing_begins name 0 tokens)
    · cases h
  · cases h

/-- An element stands in the page from its place on. -/
theorem elementsFrom_prefix (h : (place, element) ∈ elementsFrom name start tokens) :
    ∃ n, place = start + n ∧ n ≤ (tokens.flatMap Token.chars).length ∧
      element.chars <+: (tokens.flatMap Token.chars).drop n := by
  induction tokens generalizing start with
  | nil => cases h
  | cons token tokens ih =>
    unfold elementsFrom at h
    rcases List.mem_append.mp h with hhere | hlater
    · rw [Option.mem_toList] at hhere
      obtain ⟨found, hfound, heq⟩ := Option.map_eq_some_iff.mp hhere
      obtain ⟨rfl, rfl⟩ := Prod.mk.inj heq
      exact ⟨0, rfl, Nat.zero_le _, elementAt_prefix hfound⟩
    · obtain ⟨n, rfl, hle, hprefix⟩ := ih hlater
      refine ⟨token.chars.length + n, Nat.add_assoc _ _ _, ?_, ?_⟩
      · rw [List.flatMap_cons, List.length_append]
        exact Nat.add_le_add_left hle _
      · rw [List.flatMap_cons, ← List.drop_drop, List.drop_left]
        exact hprefix

/-- An element begins with an opening tag that has its name. -/
theorem mem_elementsFrom (h : (place, element) ∈ elementsFrom name start tokens) :
    ∃ closesItself, Token.opening name closesItself element.opening ∈ tokens := by
  induction tokens generalizing start with
  | nil => cases h
  | cons token tokens ih =>
    unfold elementsFrom at h
    rcases List.mem_append.mp h with hhere | hlater
    · rw [Option.mem_toList] at hhere
      obtain ⟨found, hfound, heq⟩ := Option.map_eq_some_iff.mp hhere
      obtain ⟨-, rfl⟩ := Prod.mk.inj heq
      unfold elementAt at hfound
      split at hfound
      · next tagName closesItself chars tokens' htokens =>
        obtain ⟨rfl, -⟩ := List.cons.inj htokens
        refine ⟨closesItself, ?_⟩
        split at hfound
        · next hname =>
          rw [← hname]
          split at hfound <;>
            · obtain rfl := Option.some.inj hfound
              exact List.mem_cons_self
        · cases hfound
      · cases hfound
    · obtain ⟨closesItself, hmem⟩ := ih hlater
      exact ⟨closesItself, List.mem_cons_of_mem _ hmem⟩

theorem isOpening_of_elements {name : String} (h : (place, element) ∈ elements name page) :
    IsOpening name.toList element.opening := by
  obtain ⟨closesItself, hmem⟩ := mem_elementsFrom h
  exact isOpening_of_mem hmem

theorem elements_prefix {name : String} (h : (place, element) ∈ elements name page) :
    place ≤ page.length ∧ element.chars <+: page.drop place := by
  obtain ⟨n, rfl, hle, hprefix⟩ := elementsFrom_prefix h
  rw [tokens_chars] at hle hprefix
  rw [Nat.zero_add]
  exact ⟨hle, hprefix⟩

end Elements

/-- Quoted brackets, blanks in closing tags, comments, scripts and tags that close themselves. -/
example : (elements "style" "<!--<style>--><style a=\"1>2\">b</style ><script><style></script>".toList,
    elements "svg" "<svg/>a<svg>b<svg>c</svg>d</svg>".toList) =
    ([(14, ⟨"<style a=\"1>2\">".toList, ['b'], "</style >".toList⟩)],
      [(0, ⟨"<svg/>".toList, [], []⟩),
        (7, ⟨"<svg>".toList, "b<svg>c</svg>d".toList, "</svg>".toList⟩),
        (13, ⟨"<svg>".toList, ['c'], "</svg>".toList⟩)]) := by
  decide +kernel

end Html
