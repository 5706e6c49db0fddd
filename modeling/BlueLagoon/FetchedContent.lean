import BlueLagoon.Harness
import BlueLagoon.TextScan

/-!
# Fetched content

What of a fetched page is shown to the model. A page of HTML loses the elements that are no
content; if it has a preformatted part, that part is shown, otherwise the page as Markdown. Any
other body is shown as plain text. Escape sequences and drawn borders go, blanks are normalised,
and the preview is cut to a number of characters.
-/

namespace BlueLagoon

structure FetchedContentInput where
  contentType : Option String
  body : String
  maxPreviewChars : Nat

/-- What the library for HTML does. -/
class HtmlLibrary where
  /-- `html2md::parse_html` -/
  parseHtml : List Char → List Char

namespace FetchedContent

open Text

/-! ## Elements -/

/-- `str::to_ascii_lowercase`, which keeps the place of every character. -/
def lower (value : List Char) : List Char := value.map asciiLower

/-- `format!("<{tag_name}")`. -/
def openPattern (tagName : String) : List Char := '<' :: tagName.toList

/-- `format!("</{tag_name}>")`. -/
def closePattern (tagName : String) : List Char := '<' :: '/' :: (tagName.toList ++ ['>'])

/-- `remove_html_tag_blocks`, from the cursor on. -/
def removeHtmlTagBlocks (tagName : String) (value : List Char) : List Char :=
  match find (openPattern tagName) (lower value) with
  | none => value
  | some start =>
    value.take start ++
      match _hend : find (closePattern tagName) (lower (value.drop start)) with
      | none => []
      | some relativeEnd =>
        removeHtmlTagBlocks tagName
          (value.drop (start + relativeEnd + (closePattern tagName).length))
termination_by value.length
decreasing_by
  have hlength := find_length_le _hend
  simp only [lower, List.length_map, List.length_drop, closePattern, List.length_cons] at hlength ⊢
  omega

section RemoveHtmlTagBlocks

variable {tagName : String} {value : List Char} {start relativeEnd : Nat}

theorem removeHtmlTagBlocks_unclosed
    (hopen : find (openPattern tagName) (lower value) = some start)
    (hclose : find (closePattern tagName) (lower (value.drop start)) = none) :
    removeHtmlTagBlocks tagName value = value.take start := by
  rw [removeHtmlTagBlocks]
  simp only [hopen]
  split
  · exact List.append_nil _
  · next hend =>
    rw [hclose] at hend
    cases hend

theorem removeHtmlTagBlocks_block
    (hopen : find (openPattern tagName) (lower value) = some start)
    (hclose : find (closePattern tagName) (lower (value.drop start)) = some relativeEnd) :
    removeHtmlTagBlocks tagName value =
      value.take start ++ removeHtmlTagBlocks tagName
        (value.drop (start + relativeEnd + (closePattern tagName).length)) := by
  rw [removeHtmlTagBlocks]
  simp only [hopen]
  split
  · next hend =>
    rw [hclose] at hend
    cases hend
  · next hend =>
    rw [hclose] at hend
    obtain rfl := Option.some.inj hend
    rfl

end RemoveHtmlTagBlocks

/-- The elements that are no content. -/
def nonContentTags : List String := ["script", "style", "noscript", "svg"]

/-- `remove_non_content_html_blocks`. -/
def removeNonContentHtmlBlocks (value : List Char) : List Char :=
  nonContentTags.foldl (fun output tagName => removeHtmlTagBlocks tagName output) value

/-- `extract_first_tag_content`. -/
def extractFirstTagContent (value : List Char) (tagName : String) : Option (List Char) := do
  let openStart ← find (openPattern tagName) (lower value)
  let openEnd ← find ['>'] (lower (value.drop openStart))
  let content := value.drop (openStart + openEnd + 1)
  let contentEnd ← find (closePattern tagName) (lower content)
  some (content.take contentEnd)

/-! ## Fragments -/

/-- The value of a digit, `char::to_digit`. -/
def toDigit (radix : Nat) (c : Char) : Option Nat :=
  let value :=
    if '0' ≤ c ∧ c ≤ '9' then some (c.toNat - '0'.toNat)
    else if 'a' ≤ c ∧ c ≤ 'z' then some (c.toNat - 'a'.toNat + 10)
    else if 'A' ≤ c ∧ c ≤ 'Z' then some (c.toNat - 'A'.toNat + 10)
    else none
  value.filter fun digit => decide (digit < radix)

/-- The digits of a number that fits in 32 bits. -/
def digitsU32 (radix : Nat) (cs : List Char) : Option Nat :=
  let value := cs.foldl
    (fun value c => value.bind fun n => (toDigit radix c).map fun digit => radix * n + digit)
    (some 0)
  if cs = [] then none else value.filter fun n => decide (n < 2 ^ 32)

/-- `u32::from_str_radix`; a number may have a plus sign. -/
def fromStrRadix (radix : Nat) : List Char → Option Nat
  | '+' :: cs => digitsU32 radix cs
  | cs => digitsU32 radix cs

/-- `char::from_u32`. -/
def fromU32 (n : Nat) : Option Char := if n.isValidChar then some (Char.ofNat n) else none

/-- `decode_html_entity`. -/
def decodeHtmlEntity (entity : List Char) : List Char :=
  if entity = "amp".toList then ['&']
  else if entity = "gt".toList then ['>']
  else if entity = "lt".toList then ['<']
  else if entity = "nbsp".toList then [' ']
  else if entity = "quot".toList then ['"']
  else if entity = "apos".toList then ['\'']
  else
    match entity with
    | '#' :: 'x' :: value => (((fromStrRadix 16 value).bind fromU32).map fun c => [c]).getD []
    | '#' :: value => (((fromStrRadix 10 value).bind fromU32).map fun c => [c]).getD []
    | _ => []

/-- The text of a tag, up to its `>` or the end, and what comes after. -/
def readTag : List Char → List Char × List Char
  | [] => ([], [])
  | next :: rest =>
    if next = '>' then ([], rest) else (next :: (readTag rest).1, (readTag rest).2)

/-- The text of an entity, up to its `;`, its seventeenth byte or the end, and what comes after;
`length` bytes of it have been read. -/
def readEntity (length : Nat) : List Char → List Char × List Char
  | [] => ([], [])
  | next :: rest =>
    if next = ';' then ([], rest)
    else if length + next.utf8Size > 16 then ([next], rest)
    else
      (next :: (readEntity (length + next.utf8Size) rest).1,
        (readEntity (length + next.utf8Size) rest).2)

/-- The name of a tag: its first word, without slashes before it. -/
def tagNameOf (tag : List Char) : List Char := lower ((words (tag.dropWhile (· = '/'))).headD [])

/-- The tags that end a line. -/
def breaksLine (tag : List Char) : Bool :=
  ["br", "p", "div", "tr", "li"].any fun name => name.toList = tagNameOf tag

/-- One turn of the loop of `html_fragment_to_text`: what it pushes, and the characters that are
left. -/
def readFragment : List Char → Option (List Char × List Char)
  | [] => none
  | '<' :: rest => some (if breaksLine (readTag rest).1 then ['\n'] else [], (readTag rest).2)
  | '&' :: rest => some (decodeHtmlEntity (readEntity 0 rest).1, (readEntity 0 rest).2)
  | character :: rest => some ([character], rest)

theorem readTag_length_le (value : List Char) : (readTag value).2.length ≤ value.length := by
  induction value with
  | nil => exact Nat.le_refl _
  | cons next rest ih =>
    unfold readTag
    split
    · exact Nat.le_succ _
    · exact Nat.le_succ_of_le ih

theorem readEntity_length_le (length : Nat) (value : List Char) :
    (readEntity length value).2.length ≤ value.length := by
  induction value generalizing length with
  | nil => exact Nat.le_refl _
  | cons next rest ih =>
    unfold readEntity
    split
    · exact Nat.le_succ _
    · split
      · exact Nat.le_succ _
      · exact Nat.le_succ_of_le (ih _)

theorem readFragment_length_lt {value pushed rest : List Char}
    (h : readFragment value = some (pushed, rest)) : rest.length < value.length := by
  unfold readFragment at h
  split at h
  · cases h
  · next tail =>
    cases h
    exact Nat.lt_succ_of_le (readTag_length_le tail)
  · next tail =>
    cases h
    exact Nat.lt_succ_of_le (readEntity_length_le 0 tail)
  · cases h
    exact Nat.lt_succ_self _

/-- `html_fragment_to_text`. -/
def htmlFragmentToText (value : List Char) : List Char :=
  match _hturn : readFragment value with
  | none => []
  | some (pushed, rest) => pushed ++ htmlFragmentToText rest
termination_by value.length
decreasing_by exact readFragment_length_lt _hturn

/-! ## Terminal output -/

/-- The characters that borders are drawn with. -/
def terminalRuleChars : List Char :=
  ['┌', '┐', '└', '┘', '├', '┤', '┬', '┴', '┼', '─', '│', '═', '║', '╔', '╗', '╚', '╝', '╠', '╣',
    '╦', '╩', '╬']

/-- `replace_terminal_rule_chars`. -/
def replaceTerminalRuleChars (value : List Char) : List Char :=
  value.map fun character => if character ∈ terminalRuleChars then ' ' else character

/-- What comes after a control sequence: it ends with its first character from `@` to `~`. -/
def afterControlSequence : List Char → List Char
  | [] => []
  | next :: rest => if '@' ≤ next ∧ next ≤ '~' then rest else afterControlSequence rest

/-- What comes after a command of the operating system: it ends with a bell, or with an escape
and a backslash. -/
def afterCommand (previousWasEscape : Bool) : List Char → List Char
  | [] => []
  | next :: rest =>
    if previousWasEscape && next = '\\' then rest
    else if next = '\x07' then rest
    else afterCommand (next = '\x1b') rest

/-- One turn of the loop of `strip_ansi_escape_sequences`: what it pushes, and the characters
that are left. -/
def readEscape : List Char → Option (List Char × List Char)
  | [] => none
  | character :: rest =>
    if character ≠ '\x1b' then some ([character], rest)
    else
      match rest with
      | '[' :: rest => some ([], afterControlSequence rest)
      | ']' :: rest => some ([], afterCommand false rest)
      | rest => some ([], rest)

theorem afterControlSequence_length_le (value : List Char) :
    (afterControlSequence value).length ≤ value.length := by
  induction value with
  | nil => exact Nat.le_refl _
  | cons next rest ih =>
    unfold afterControlSequence
    split
    · exact Nat.le_succ _
    · exact Nat.le_succ_of_le ih

theorem afterCommand_length_le (previousWasEscape : Bool) (value : List Char) :
    (afterCommand previousWasEscape value).length ≤ value.length := by
  induction value generalizing previousWasEscape with
  | nil => exact Nat.le_refl _
  | cons next rest ih =>
    unfold afterCommand
    split
    · exact Nat.le_succ _
    · split
      · exact Nat.le_succ _
      · exact Nat.le_succ_of_le (ih _)

theorem readEscape_length_lt {value pushed rest : List Char}
    (h : readEscape value = some (pushed, rest)) : rest.length < value.length := by
  unfold readEscape at h
  split at h
  · cases h
  · next character tail =>
    split at h
    · cases h
      exact Nat.lt_succ_self _
    · split at h
      · next tail =>
        cases h
        exact Nat.lt_succ_of_le (Nat.le_succ_of_le (afterControlSequence_length_le tail))
      · next tail =>
        cases h
        exact Nat.lt_succ_of_le (Nat.le_succ_of_le (afterCommand_length_le false tail))
      · cases h
        exact Nat.lt_succ_self _

/-- `strip_ansi_escape_sequences`. -/
def stripAnsiEscapeSequences (value : List Char) : List Char :=
  match _hturn : readEscape value with
  | none => []
  | some (pushed, rest) => pushed ++ stripAnsiEscapeSequences rest
termination_by value.length
decreasing_by exact readEscape_length_lt _hturn

/-! ## Blanks -/

/-- One turn of the loop of `normalize_lines`, over the lines so far and whether the previous
line was blank. -/
def normalizeLine (preserveMarkdownBlankLines : Bool) (state : List (List Char) × Bool)
    (line : List Char) : List (List Char) × Bool :=
  let line := trimChars (List.intercalate [' '] (words line))
  if line = [] then
    (if preserveMarkdownBlankLines && !state.2 && !state.1.isEmpty then state.1 ++ [[]]
      else state.1, true)
  else (state.1 ++ [line], false)

/-- `normalize_lines`. -/
def normalizeLines (value : List Char) (preserveMarkdownBlankLines : Bool) : List Char :=
  trimChars (List.intercalate ['\n']
    ((lines value).foldl (normalizeLine preserveMarkdownBlankLines) ([], false)).1)

/-- `normalize_markdown`. -/
def normalizeMarkdown (value : List Char) : List Char := normalizeLines value true

/-- `normalize_plain_text`. -/
def normalizePlainText (value : List Char) : List Char := normalizeLines value false

/-! ## Previews -/

/-- `bounded_preview`. -/
def boundedPreview (formatterKind : String) (value : List Char) (maxChars : Nat) :
    FetchedContentForModel where
  formatterKind := formatterKind
  preview := String.ofList (value.take maxChars)
  previewTruncated := decide (value.length > maxChars)

/-- What the formatters of plain and of preformatted text do with a text. -/
def sanitizedText (text : List Char) : List Char :=
  normalizePlainText (replaceTerminalRuleChars (stripAnsiEscapeSequences text))

/-- `PlainTextFormatter::format`. -/
def formatPlainText (input : FetchedContentInput) : FetchedContentForModel :=
  boundedPreview "plain_text_sanitized" (sanitizedText input.body.toList) input.maxPreviewChars

/-- `HtmlMarkdownFormatter::format`. -/
def formatHtmlMarkdown [HtmlLibrary] (input : FetchedContentInput) : FetchedContentForModel :=
  let htmlWithoutNonContent := removeNonContentHtmlBlocks input.body.toList
  match extractFirstTagContent htmlWithoutNonContent "pre" with
  | some preContent =>
    boundedPreview "html_pre_text_sanitized" (sanitizedText (htmlFragmentToText preContent))
      input.maxPreviewChars
  | none =>
    boundedPreview "html_markdown"
      (normalizeMarkdown (HtmlLibrary.parseHtml htmlWithoutNonContent)) input.maxPreviewChars

/-- `is_html`. -/
def isHtml (input : FetchedContentInput) : Bool :=
  match input.contentType with
  | some value => Text.contains (toAsciiLowercase value) "html"
  | none =>
    let trimmed := String.ofList (lower (input.body.toList.dropWhile isWhitespace))
    startsWith trimmed "<!doctype html" || startsWith trimmed "<html" ||
      Text.contains trimmed "<body"

/-- `DefaultFetchedContentFormatter::format`. -/
def format [HtmlLibrary] (input : FetchedContentInput) : FetchedContentForModel :=
  if isHtml input then formatHtmlMarkdown input else formatPlainText input

end FetchedContent

end BlueLagoon
