import BlueLagoon.Markup
import BlueLagoon.TextScan

/-!
# Rendering a message

A message is sent as HTML: bold and code spans become elements, and everything else is escaped.
The code walks over the text with a cursor in bytes.
-/

namespace BlueLagoon.Telegram

/-! ## The code -/

/-- `push_escaped_telegram_html_char`: what is pushed. -/
def pushEscapedTelegramHtmlChar : Char → List Char
  | '&' => "&amp;".toList
  | '<' => "&lt;".toList
  | '>' => "&gt;".toList
  | '"' => "&quot;".toList
  | c => [c]

/-- `escape_telegram_html`. -/
def escapeTelegramHtml (text : List Char) : List Char := text.flatMap pushEscapedTelegramHtmlChar

/-- `str::strip_prefix`. -/
def stripStart (start text : List Char) : Option (List Char) :=
  if start.isPrefixOf text then some (text.drop start.length) else none

/-- `str::find`: the byte offset of the first place of a pattern. -/
def findByte (pattern text : List Char) : Option Nat :=
  (Text.find pattern text).map fun n => Text.byteLen (text.take n)

/-- One of the two branches of the loop: a span between two delimiters at the cursor. What is
pushed and how far the cursor moves, `some none` if there is no span; `none` is a panic. -/
def delimited (delimiter opening closing remainder : List Char) :
    Option (Option (List Char × Nat)) :=
  match stripStart delimiter remainder with
  | none => some none
  | some innerStart =>
    match findByte delimiter innerStart with
    | none => some none
    | some endOffset =>
      (Text.splitAtByte endOffset innerStart).map fun (inner, _) =>
        some (opening ++ escapeTelegramHtml inner ++ closing,
          Text.byteLen delimiter + endOffset + Text.byteLen delimiter)

/-- One round of the loop of `render_inline_markdownish_html`. -/
def renderRound (remainder : List Char) : Option (List Char × Nat) := do
  match ← delimited "**".toList "<b>".toList "</b>".toList remainder with
  | some round => some round
  | none =>
    match ← delimited "`".toList "<code>".toList "</code>".toList remainder with
    | some round => some round
    | none =>
      match remainder with
      | [] => none
      | ch :: _ => some (pushEscapedTelegramHtmlChar ch, ch.utf8Size)

theorem delimited_advance {delimiter opening closing remainder pushed : List Char} {advance : Nat}
    (hdelimiter : delimiter ≠ [])
    (h : delimited delimiter opening closing remainder = some (some (pushed, advance))) :
    0 < advance := by
  unfold delimited at h
  split at h
  · cases h
  · split at h
    · cases h
    · obtain ⟨span, -, hround⟩ := Option.map_eq_some_iff.mp h
      obtain ⟨-, rfl⟩ := Prod.mk.inj (Option.some.inj hround)
      have hpos := Text.byteLen_pos hdelimiter
      omega

/-- The cursor moves in every round. -/
theorem renderRound_advance {remainder pushed : List Char} {advance : Nat}
    (h : renderRound remainder = some (pushed, advance)) : 0 < advance := by
  obtain ⟨bold, hbold, h⟩ := Option.bind_eq_some_iff.mp h
  cases bold with
  | some round =>
    obtain rfl := Option.some.inj h
    exact delimited_advance (by decide) hbold
  | none =>
    obtain ⟨code, hcode, h⟩ := Option.bind_eq_some_iff.mp h
    cases code with
    | some round =>
      obtain rfl := Option.some.inj h
      exact delimited_advance (by decide) hcode
    | none =>
      cases remainder with
      | nil => cases h
      | cons ch rest =>
        obtain ⟨-, rfl⟩ := Prod.mk.inj (Option.some.inj h)
        exact Char.utf8Size_pos ch

/-- The loop of `render_inline_markdownish_html`, from a cursor on and with the output so far.
`none` is a panic. -/
def renderLoop (text : List Char) (cursor : Nat) (output : List Char) : Option (List Char) :=
  if cursor < Text.byteLen text then
    match Text.splitAtByte cursor text with
    | none => none
    | some (_, remainder) =>
      match _hround : renderRound remainder with
      | none => none
      | some (pushed, advance) => renderLoop text (cursor + advance) (output ++ pushed)
  else some output
termination_by Text.byteLen text - cursor
decreasing_by
  have hadvance := renderRound_advance _hround
  omega

/-- `render_inline_markdownish_html`. -/
def renderInlineMarkdownishHtml (text : String) : Option String :=
  (renderLoop text.toList 0 []).map String.ofList

example : renderInlineMarkdownishHtml "**a < b** and `x` ** `" =
    some "<b>a &lt; b</b> and <code>x</code> ** `" := by decide +kernel

/-! ## What a text says -/

open Markup

def delimiter : Tag → List Char
  | .bold => "**".toList
  | .code => "`".toList

/-- The text that a node is rendered from. -/
def source : Node → List Char
  | .text c => [c]
  | .element tag content => delimiter tag ++ content ++ delimiter tag

/-- An element ends at the first delimiter behind the one that opens it, and a character stands
for itself only where no element begins. -/
def Leftmost : List Node → Prop
  | [] => True
  | .text c :: document =>
    (∀ tag inner rest, c :: document.flatMap source ≠ source (.element tag inner) ++ rest) ∧
      Leftmost document
  | .element tag content :: document =>
    Text.find (delimiter tag) (content ++ delimiter tag) = some content.length ∧
      Leftmost document

/-! ## One round -/

theorem pushEscapedTelegramHtmlChar_eq (c : Char) :
    pushEscapedTelegramHtmlChar c = (Token.char c).print := by
  by_cases hspecial : c ∈ special
  · simp only [special, List.mem_cons, List.not_mem_nil, or_false] at hspecial
    rcases hspecial with rfl | rfl | rfl | rfl <;> rfl
  · rw [print_plain hspecial]
    simp only [special, List.mem_cons, List.not_mem_nil, or_false, not_or] at hspecial
    obtain ⟨hamp, hlt, hgt, hquot⟩ := hspecial
    unfold pushEscapedTelegramHtmlChar
    split
    · exact absurd rfl hamp
    · exact absurd rfl hlt
    · exact absurd rfl hgt
    · exact absurd rfl hquot
    · rfl

theorem escapeTelegramHtml_eq (text : List Char) :
    escapeTelegramHtml text = (text.map Token.char).flatMap Token.print := by
  rw [escapeTelegramHtml, List.flatMap_map]
  exact List.flatMap_congr fun c _ => pushEscapedTelegramHtmlChar_eq c

theorem delimiter_ne_nil (tag : Tag) : delimiter tag ≠ [] := by cases tag <;> decide

theorem source_ne_nil (node : Node) : source node ≠ [] := by
  cases node with
  | text c => exact List.cons_ne_nil c []
  | element tag content => exact List.append_ne_nil_of_right_ne_nil _ (delimiter_ne_nil tag)

theorem stripStart_append (start rest : List Char) :
    stripStart start (start ++ rest) = some rest := by
  rw [stripStart, if_pos (List.isPrefixOf_iff_prefix.mpr (List.prefix_append start rest)),
    List.drop_left]

theorem eq_of_stripStart {start text rest : List Char} (h : stripStart start text = some rest) :
    text = start ++ rest := by
  unfold stripStart at h
  split at h
  · next hstart =>
    obtain ⟨tail, rfl⟩ := List.isPrefixOf_iff_prefix.mp hstart
    rw [List.drop_left] at h
    rw [Option.some.inj h]
  · cases h

/-- What is found first in a text is found first in every beginning of it that has it. -/
theorem find_of_append {pattern inner rest : List Char}
    (h : Text.find pattern (inner ++ pattern ++ rest) = some inner.length) :
    Text.find pattern (inner ++ pattern) = some inner.length := by
  obtain ⟨-, -, hfirst⟩ := Text.find_eq_some.mp h
  refine Text.find_eq_some.mpr ⟨?_, ?_, ?_⟩
  · rw [List.length_append]
    exact Nat.le_add_right _ _
  · rw [List.drop_left]
  · intro m hm hstart
    exact hfirst m hm (hstart.trans ((List.prefix_append (inner ++ pattern) rest).drop m))

section Delimited

variable (tag : Tag) (text : List Char)

/-- One branch of the loop, for a tag. -/
def delimitedBy : Option (Option (List Char × Nat)) :=
  delimited (delimiter tag) (Token.opens tag).print (Token.closes tag).print text

variable {tag text}

/-- A span that the text begins with is rendered as an element. -/
theorem delimitedBy_of_find {inner rest : List Char}
    (hfind : Text.find (delimiter tag) (inner ++ delimiter tag ++ rest) = some inner.length) :
    delimitedBy tag (source (.element tag inner) ++ rest) =
      some (some ((Node.element tag inner).print,
        Text.byteLen (source (.element tag inner)))) := by
  have hstrip : stripStart (delimiter tag) (source (.element tag inner) ++ rest) =
      some (inner ++ delimiter tag ++ rest) := by
    rw [source, List.append_assoc, List.append_assoc, stripStart_append, List.append_assoc]
  have hbyte : findByte (delimiter tag) (inner ++ delimiter tag ++ rest) =
      some (Text.byteLen inner) := by
    rw [findByte, hfind, Option.map_some, List.append_assoc, List.take_left]
  have hsplit : Text.splitAtByte (Text.byteLen inner) (inner ++ delimiter tag ++ rest) =
      some (inner, delimiter tag ++ rest) := by
    rw [List.append_assoc, Text.splitAtByte_append]
  have hprint : (Token.opens tag).print ++ escapeTelegramHtml inner ++ (Token.closes tag).print =
      (Node.element tag inner).print := by
    rw [escapeTelegramHtml_eq, Node.print, Node.tokens, List.flatMap_append, List.flatMap_cons,
      List.flatMap_singleton]
  have hlen : Text.byteLen (delimiter tag) + Text.byteLen inner + Text.byteLen (delimiter tag) =
      Text.byteLen (source (.element tag inner)) := by
    rw [source, Text.byteLen_append, Text.byteLen_append]
  rw [delimitedBy, delimited, hstrip]
  dsimp only
  rw [hbyte]
  dsimp only
  rw [hsplit, Option.map_some, hprint, hlen]

variable (tag text) in
/-- Without a span at the beginning nothing happens. -/
theorem delimitedBy_or :
    (∃ inner rest, text = source (.element tag inner) ++ rest ∧
      Text.find (delimiter tag) (inner ++ delimiter tag ++ rest) = some inner.length) ∨
    delimitedBy tag text = some none ∧
      ∀ inner rest, text ≠ source (.element tag inner) ++ rest := by
  cases hstrip : stripStart (delimiter tag) text with
  | none =>
    refine Or.inr ⟨?_, ?_⟩
    · rw [delimitedBy, delimited, hstrip]
    · rintro inner rest rfl
      rw [source, List.append_assoc, List.append_assoc, stripStart_append] at hstrip
      cases hstrip
  | some innerStart =>
    obtain rfl := eq_of_stripStart hstrip
    cases hfind : Text.find (delimiter tag) innerStart with
    | none =>
      refine Or.inr ⟨?_, ?_⟩
      · rw [delimitedBy, delimited, hstrip]
        dsimp only
        rw [findByte, hfind]
        rfl
      · intro inner rest htext
        rw [source, List.append_assoc, List.append_assoc] at htext
        obtain rfl := List.append_cancel_left htext
        exact Text.find_eq_none.mp hfind ⟨inner, rest, List.append_assoc _ _ _⟩
    | some n =>
      obtain ⟨hle, ⟨rest, hrest⟩, -⟩ := Text.find_eq_some.mp hfind
      have hinner : innerStart = innerStart.take n ++ delimiter tag ++ rest := by
        rw [List.append_assoc, hrest, List.take_append_drop]
      refine Or.inl ⟨innerStart.take n, rest, ?_, ?_⟩
      · rw [source, List.append_assoc, List.append_assoc, ← List.append_assoc (innerStart.take n),
          ← hinner]
      · rw [← hinner, hfind, List.length_take_of_le hle]

end Delimited

theorem renderRound_of_bold {text : List Char} {round : List Char × Nat}
    (h : delimitedBy .bold text = some (some round)) : renderRound text = some round :=
  Option.bind_eq_some_iff.mpr ⟨some round, h, rfl⟩

theorem renderRound_of_code {text : List Char} {round : List Char × Nat}
    (hbold : delimitedBy .bold text = some none) (h : delimitedBy .code text = some (some round)) :
    renderRound text = some round :=
  Option.bind_eq_some_iff.mpr
    ⟨none, hbold, Option.bind_eq_some_iff.mpr ⟨some round, h, rfl⟩⟩

theorem renderRound_of_char {ch : Char} {rest : List Char}
    (hbold : delimitedBy .bold (ch :: rest) = some none)
    (hcode : delimitedBy .code (ch :: rest) = some none) :
    renderRound (ch :: rest) = some (pushEscapedTelegramHtmlChar ch, ch.utf8Size) :=
  Option.bind_eq_some_iff.mpr
    ⟨none, hbold, Option.bind_eq_some_iff.mpr ⟨none, hcode, rfl⟩⟩

/-- One round renders one node of the text, and the cursor moves behind what it is rendered
from. -/
theorem renderRound_spec {text : List Char} (h : text ≠ []) :
    ∃ node rest, text = source node ++ rest ∧
      renderRound text = some (node.print, Text.byteLen (source node)) ∧
      ∀ document, document.flatMap source = rest → Leftmost document →
        Leftmost (node :: document) := by
  rcases delimitedBy_or .bold text with
    ⟨inner, rest, rfl, hfind⟩ | ⟨hbold, hnoBold⟩
  · exact ⟨.element .bold inner, rest, rfl, renderRound_of_bold (delimitedBy_of_find hfind),
      fun _ _ hdocument => ⟨find_of_append hfind, hdocument⟩⟩
  rcases delimitedBy_or .code text with
    ⟨inner, rest, rfl, hfind⟩ | ⟨hcode, hnoCode⟩
  · exact ⟨.element .code inner, rest, rfl,
      renderRound_of_code hbold (delimitedBy_of_find hfind),
      fun _ _ hdocument => ⟨find_of_append hfind, hdocument⟩⟩
  obtain ⟨ch, rest, rfl⟩ := List.exists_cons_of_ne_nil h
  refine ⟨.text ch, rest, rfl, ?_, ?_⟩
  · rw [renderRound_of_char hbold hcode, pushEscapedTelegramHtmlChar_eq, Node.print, Node.tokens,
      List.flatMap_singleton, source, Text.byteLen_cons]
    rfl
  · rintro document rfl hdocument
    refine ⟨fun tag => ?_, hdocument⟩
    cases tag with
    | bold => exact hnoBold
    | code => exact hnoCode

/-! ## Every text is rendered -/

/-- From a cursor on that stands before a rest of the text, the loop renders the rest. -/
theorem renderLoop_eq (before rest output : List Char) :
    ∃ document, document.flatMap source = rest ∧ Leftmost document ∧
      renderLoop (before ++ rest) (Text.byteLen before) output =
        some (output ++ document.flatMap Node.print) := by
  induction hlen : rest.length using Nat.strong_induction_on generalizing before rest output with
  | h n ih =>
    by_cases hnil : rest = []
    · subst hnil
      refine ⟨[], rfl, trivial, ?_⟩
      rw [renderLoop, List.append_nil, if_neg (Nat.lt_irrefl _), List.flatMap_nil,
        List.append_nil]
    · obtain ⟨node, rest, rfl, hround, hleftmost⟩ := renderRound_spec hnil
      have hshorter : rest.length < n := by
        rw [← hlen, List.length_append]
        exact Nat.lt_add_of_pos_left (List.length_pos_iff.mpr (source_ne_nil node))
      obtain ⟨document, hsource, hdocument, hloop⟩ :=
        ih rest.length hshorter (before ++ source node) rest (output ++ node.print) rfl
      have hcursor : Text.byteLen before < Text.byteLen (before ++ (source node ++ rest)) := by
        rw [Text.byteLen_append]
        exact Nat.lt_add_of_pos_right (Text.byteLen_pos hnil)
      refine ⟨node :: document, ?_, hleftmost document hsource hdocument, ?_⟩
      · rw [List.flatMap_cons, hsource]
      · rw [renderLoop, if_pos hcursor, Text.splitAtByte_append]
        dsimp only
        split
        · next hnone =>
          rw [hround] at hnone
          cases hnone
        · next pushed advance hpushed =>
          rw [hround] at hpushed
          obtain ⟨rfl, rfl⟩ := Prod.mk.inj (Option.some.inj hpushed)
          rw [← Text.byteLen_append, ← List.append_assoc before, hloop, List.flatMap_cons,
            List.append_assoc output]

/-- Without delimiters there are only characters. -/
theorem print_of_plain {document : List Node}
    (hplain : ∀ tag, ¬ delimiter tag <:+: document.flatMap source) :
    document.flatMap Node.print = escapeTelegramHtml (document.flatMap source) := by
  induction document with
  | nil => rfl
  | cons node document ih =>
    have hrest : ∀ tag, ¬ delimiter tag <:+: document.flatMap source := fun tag hin =>
      hplain tag (hin.trans (List.suffix_append (source node) _).isInfix)
    cases node with
    | element tag content =>
      refine absurd ?_ (hplain tag)
      exact ⟨[], content ++ delimiter tag ++ document.flatMap source, by
        simp only [List.flatMap_cons, source, List.nil_append, List.append_assoc]⟩
    | text c =>
      rw [List.flatMap_cons, ih hrest, List.flatMap_cons, escapeTelegramHtml, escapeTelegramHtml,
        source, List.flatMap_append, List.flatMap_singleton, pushEscapedTelegramHtmlChar_eq]
      rw [Node.print, Node.tokens, List.flatMap_singleton]

/-- Every text is rendered, without a panic. What is sent reads as the characters and elements
that the text says: the text is theirs with the delimiters of the elements around their
contents, and without tags and escapes only the delimiters are missing. A text without
delimiters is only escaped. -/
theorem render_lossless (text : String) :
    ∃ html, renderInlineMarkdownishHtml text = some html ∧
      (∃ document, parse html.toList = some document ∧ Leftmost document ∧
        document.flatMap source = text.toList ∧
        unmarked html.toList = some (document.flatMap Node.content)) ∧
      ((∀ tag, ¬ delimiter tag <:+: text.toList) →
        html.toList = escapeTelegramHtml text.toList) := by
  obtain ⟨document, hsource, hleftmost, hloop⟩ := renderLoop_eq [] text.toList []
  refine ⟨String.ofList (document.flatMap Node.print), ?_, ⟨document, ?_, hleftmost, hsource, ?_⟩,
    ?_⟩
  · rw [renderInlineMarkdownishHtml]
    exact congrArg (Option.map String.ofList) hloop
  · rw [String.toList_ofList, parse_print]
  · rw [String.toList_ofList, unmarked_print]
  · intro hplain
    rw [← hsource] at hplain ⊢
    rw [String.toList_ofList, print_of_plain hplain]

theorem render_lossless_plain : ∃ html, renderInlineMarkdownishHtml "a < b" = some html ∧
    html.toList = "a &lt; b".toList := by
  obtain ⟨html, hrender, -, hplain⟩ := render_lossless "a < b"
  have hnone : ∀ tag, ¬ delimiter tag <:+: "a < b".toList := by
    intro tag
    cases tag <;> decide
  exact ⟨html, hrender, hplain hnone⟩

end BlueLagoon.Telegram
