import BlueLagoon.Search
import BlueLagoon.Text

/-!
# Control blocks

The conscious worker's model may append fenced blocks to its reply: one with governed
actions, one for the formation of an identity. A block is found by the last occurrence of
its marker; what is stripped is everything from there on.

The second half says what a text consists of, read from the left: text, blocks, and the
text after each. It is the yardstick for the functions of the source.
-/

namespace BlueLagoon.Worker

inductive ControlTag
  | governedActions
  | identityKickstart
  deriving DecidableEq, Repr

/-- `GOVERNED_ACTIONS_BLOCK_TAG` and `IDENTITY_KICKSTART_BLOCK_TAG`. -/
def ControlTag.text : ControlTag → String
  | governedActions => "blue-lagoon-governed-actions"
  | identityKickstart => "blue-lagoon-identity-kickstart"

/-- The fence that opens a block, and its tag. -/
def ControlTag.marker (tag : ControlTag) : List Char := "```".toList ++ tag.text.toList

/-- The line break and the fence that close a block. -/
def closing : List Char := "\n```".toList

/-- `str::trim_end`, on the characters. -/
def trimEnd (cs : List Char) : List Char := (cs.reverse.dropWhile Text.isWhitespace).reverse

/-! ## Finding, extracting and stripping -/

/-- The content of a block and what follows it, from the text after its marker: the rest
of the marker's line is passed over. -/
def blockBody (after : List Char) : Option (List Char × List Char) :=
  (Search.splitFirst ['\n'] after).bind fun line => Search.splitFirst closing line.2

/-- `tagged_block_bounds`: the text before the last marker, and the block's content. -/
def taggedBlockBounds (modelText : List Char) (tag : ControlTag) :
    Option (List Char × List Char) :=
  (Search.splitLast tag.marker modelText).bind fun parts =>
    (blockBody parts.2).map fun body => (parts.1, body.1)

/-- `strip_tagged_block`. -/
def stripTaggedBlock (modelText : List Char) (tag : ControlTag) : List Char :=
  match taggedBlockBounds modelText tag with
  | some (before, _) => trimEnd before
  | none => modelText

/-- `extract_tagged_block`. -/
def extractTaggedBlock (modelText : List Char) (tag : ControlTag) : Option String :=
  (taggedBlockBounds modelText tag).map fun parts => String.ofList (Text.trimChars parts.2)

/-- `strip_worker_control_blocks`. -/
def stripWorkerControlBlocks (modelText : List Char) : List Char :=
  stripTaggedBlock (stripTaggedBlock modelText .identityKickstart) .governedActions

/-! ## What a text consists of -/

/-- A block that opens after a marker is closed by a fence on a later line. -/
def Closed (after : List Char) : Prop :=
  ∃ line content rest, after = line ++ '\n' :: (content ++ (closing ++ rest))

/-- A text that holds no marker. -/
def MarkerFree (text : List Char) : Prop := ∀ tag : ControlTag, ¬ tag.marker <:+: text

/-- The text before the first marker of any kind, the marker's tag and the text after it. -/
def firstMarker : List Char → Option (List Char × ControlTag × List Char)
  | [] => none
  | c :: rest =>
    if ControlTag.governedActions.marker.isPrefixOf (c :: rest) then
      some ([], .governedActions, (c :: rest).drop ControlTag.governedActions.marker.length)
    else if ControlTag.identityKickstart.marker.isPrefixOf (c :: rest) then
      some ([], .identityKickstart, (c :: rest).drop ControlTag.identityKickstart.marker.length)
    else (firstMarker rest).map fun parts => (c :: parts.1, parts.2)

/-- The texts outside the blocks: the one before the first block, and the one after each
block. A marker without a closing fence after it opens no block: it is text, as is all the
rest. Every block takes characters, so a text of that many characters is read to its end. -/
def outsideTexts : Nat → List Char → List Char × List (List Char)
  | 0, text => (text, [])
  | fuel + 1, text =>
    match firstMarker text with
    | none => (text, [])
    | some (before, _, after) =>
      match blockBody after with
      | none => (text, [])
      | some (_, rest) =>
        let (next, later) := outsideTexts fuel rest
        (before, next :: later)

/-- The text before the first block of a model's output. -/
def leadingText (modelText : List Char) : List Char :=
  (outsideTexts modelText.length modelText).1

/-- The texts after the blocks of a model's output. -/
def laterTexts (modelText : List Char) : List (List Char) :=
  (outsideTexts modelText.length modelText).2

/-- The blocks of one kind: for each of its markers, the content as the worker reads it,
unless no closing fence follows. -/
def blockContents (tag : ControlTag) : List Char → List (Option String)
  | [] => []
  | c :: rest =>
    if tag.marker.isPrefixOf (c :: rest) then
      ((blockBody ((c :: rest).drop tag.marker.length)).map fun body =>
        String.ofList (Text.trimChars body.1)) :: blockContents tag rest
    else blockContents tag rest

end BlueLagoon.Worker
