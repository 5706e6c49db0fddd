import Mathlib.Data.List.Basic

/-!
# Marked-up text

A text with tags that do not nest: characters, and elements of characters. It is written with
the four special characters escaped, and read back by splitting it into tokens and matching the
tags. What is read is what was written.
-/

namespace Markup

inductive Tag
  | bold
  | code
  deriving DecidableEq, Repr

inductive Token
  | opens (tag : Tag)
  | closes (tag : Tag)
  | char (c : Char)
  deriving DecidableEq, Repr

/-- A character of its own, or an element. -/
inductive Node
  | text (c : Char)
  | element (tag : Tag) (content : List Char)
  deriving DecidableEq, Repr

/-! ## Writing -/

/-- The characters that do not stand for themselves. -/
def special : List Char := ['&', '<', '>', '"']

/-- The sequences that stand for something else, in the order in which they are tried. -/
def symbols : List (List Char × Token) :=
  [(['<', 'b', '>'], .opens .bold),
   (['<', '/', 'b', '>'], .closes .bold),
   (['<', 'c', 'o', 'd', 'e', '>'], .opens .code),
   (['<', '/', 'c', 'o', 'd', 'e', '>'], .closes .code),
   (['&', 'a', 'm', 'p', ';'], .char '&'),
   (['&', 'l', 't', ';'], .char '<'),
   (['&', 'g', 't', ';'], .char '>'),
   (['&', 'q', 'u', 'o', 't', ';'], .char '"')]

def Token.print (token : Token) : List Char :=
  match symbols.find? fun symbol => symbol.2 = token with
  | some symbol => symbol.1
  | none =>
    match token with
    | .char c => [c]
    | _ => []

def Node.tokens : Node → List Token
  | .text c => [.char c]
  | .element tag content => .opens tag :: content.map Token.char ++ [.closes tag]

def Node.print (node : Node) : List Char := node.tokens.flatMap Token.print

/-- The text of a node, without its tags. -/
def Node.content : Node → List Char
  | .text c => [c]
  | .element _ content => content

/-! ## Reading -/

/-- The first token of a text, and the rest. A special character that begins no symbol cannot
be read. -/
def readToken (cs : List Char) : Option (Token × List Char) :=
  match symbols.find? fun symbol => symbol.1.isPrefixOf cs with
  | some symbol => some (symbol.2, cs.drop symbol.1.length)
  | none =>
    match cs with
    | [] => none
    | c :: rest => if c ∈ special then none else some (.char c, rest)

theorem symbols_ne_nil : ∀ symbol ∈ symbols, symbol.1 ≠ [] := by decide

theorem readToken_length {cs rest : List Char} {token : Token}
    (h : readToken cs = some (token, rest)) : rest.length < cs.length := by
  unfold readToken at h
  split at h
  · next symbol hfind =>
    obtain ⟨-, rfl⟩ := Prod.mk.inj (Option.some.inj h)
    have hstart := List.find?_some hfind
    rw [List.isPrefixOf_iff_prefix] at hstart
    have hpos := List.length_pos_iff.mpr (symbols_ne_nil symbol (List.mem_of_find?_eq_some hfind))
    have hle := hstart.length_le
    rw [List.length_drop]
    omega
  · split at h
    · cases h
    · split at h
      · cases h
      · obtain ⟨-, rfl⟩ := Prod.mk.inj (Option.some.inj h)
        exact Nat.lt_succ_self _

/-- The tokens of a text. -/
def lex (cs : List Char) : Option (List Token) :=
  if cs = [] then some []
  else
    match _hread : readToken cs with
    | none => none
    | some (token, rest) => (lex rest).map (token :: ·)
termination_by cs.length
decreasing_by exact readToken_length _hread

/-- The nodes of some tokens, outside of an element or inside of one with the content read so
far. Tags match, and do not nest. -/
def nodes : Option (Tag × List Char) → List Token → Option (List Node)
  | none, [] => some []
  | none, .char c :: tokens => (nodes none tokens).map (.text c :: ·)
  | none, .opens tag :: tokens => nodes (some (tag, [])) tokens
  | none, .closes _ :: _ => none
  | some _, [] => none
  | some (tag, content), .char c :: tokens => nodes (some (tag, content ++ [c])) tokens
  | some _, .opens _ :: _ => none
  | some (tag, content), .closes tag' :: tokens =>
    if tag = tag' then (nodes none tokens).map (.element tag content :: ·) else none

/-- A text as a sequence of nodes. -/
def parse (cs : List Char) : Option (List Node) := (lex cs).bind (nodes none)

/-- The character a token shows; a tag shows none. -/
def Token.shown : Token → Option Char
  | .char c => some c
  | _ => none

/-- A text without its tags, and with its special characters put back. -/
def unmarked (cs : List Char) : Option (List Char) :=
  (lex cs).map fun tokens => tokens.filterMap Token.shown

/-! ## What is written is read -/

theorem readToken_symbol : ∀ symbol ∈ symbols, ∀ rest,
    readToken (symbol.1 ++ rest) = some (symbol.2, rest) := by
  intro symbol hsymbol rest
  simp only [symbols, List.mem_cons, List.not_mem_nil, or_false] at hsymbol
  rcases hsymbol with rfl | rfl | rfl | rfl | rfl | rfl | rfl | rfl <;> rfl

theorem symbols_head : ∀ symbol ∈ symbols, symbol.1.head?.any (· ∈ special) = true := by decide

theorem special_symbol : ∀ c ∈ special, ∃ symbol ∈ symbols, symbol.2 = .char c := by
  intro c hspecial
  simp only [special, List.mem_cons, List.not_mem_nil, or_false] at hspecial
  rcases hspecial with rfl | rfl | rfl | rfl <;> decide

theorem tag_symbol : ∀ tag : Tag, (∃ symbol ∈ symbols, symbol.2 = .opens tag) ∧
    ∃ symbol ∈ symbols, symbol.2 = .closes tag := by
  intro tag
  cases tag <;> decide

theorem readToken_plain {c : Char} (hplain : c ∉ special) (rest : List Char) :
    readToken (c :: rest) = some (.char c, rest) := by
  have hnone : (symbols.find? fun symbol => symbol.1.isPrefixOf (c :: rest)) = none := by
    rw [List.find?_eq_none]
    intro symbol hsymbol hstart
    have hhead := symbols_head symbol hsymbol
    rw [List.isPrefixOf_iff_prefix] at hstart
    obtain ⟨tail, htail⟩ := hstart
    cases hchars : symbol.1 with
    | nil =>
      rw [hchars] at hhead
      cases hhead
    | cons d chars =>
      rw [hchars] at hhead htail
      obtain ⟨rfl, -⟩ := List.cons.inj htail
      exact hplain (by simpa using hhead)
  unfold readToken
  rw [hnone]
  exact if_neg hplain

theorem symbols_char : ∀ symbol ∈ symbols, match symbol.2 with
    | .char c => c ∈ special
    | _ => True := by
  intro symbol hsymbol
  simp only [symbols, List.mem_cons, List.not_mem_nil, or_false] at hsymbol
  rcases hsymbol with rfl | rfl | rfl | rfl | rfl | rfl | rfl | rfl <;> trivial

/-- A character that is not special is written as it is. -/
theorem print_plain {c : Char} (hplain : c ∉ special) : (Token.char c).print = [c] := by
  unfold Token.print
  split
  · next symbol hfind =>
    have htoken : symbol.2 = .char c := by simpa using List.find?_some hfind
    have hspecial := symbols_char symbol (List.mem_of_find?_eq_some hfind)
    rw [htoken] at hspecial
    exact absurd hspecial hplain
  · rfl

theorem readToken_print (token : Token) (rest : List Char) :
    readToken (token.print ++ rest) = some (token, rest) := by
  by_cases hsymbol : ∃ symbol ∈ symbols, symbol.2 = token
  · obtain ⟨symbol, hmem, htoken⟩ := hsymbol
    unfold Token.print
    split
    · next found hfind =>
      have hfound : found.2 = token := by simpa using List.find?_some hfind
      rw [readToken_symbol found (List.mem_of_find?_eq_some hfind), hfound]
    · next hnone =>
      rw [List.find?_eq_none] at hnone
      exact absurd (by simpa using htoken) (hnone symbol hmem)
  · cases token with
    | opens tag => exact absurd (tag_symbol tag).1 hsymbol
    | closes tag => exact absurd (tag_symbol tag).2 hsymbol
    | char c =>
      have hplain : c ∉ special := fun hspecial => hsymbol (special_symbol c hspecial)
      rw [print_plain hplain]
      exact readToken_plain hplain rest

theorem print_ne_nil (token : Token) : token.print ≠ [] := by
  intro hnil
  have hread := readToken_print token []
  rw [hnil] at hread
  cases hread

theorem lex_print (tokens : List Token) : lex (tokens.flatMap Token.print) = some tokens := by
  induction tokens with
  | nil => rw [List.flatMap_nil, lex, if_pos rfl]
  | cons token tokens ih =>
    have hne : (token :: tokens).flatMap Token.print ≠ [] := by
      rw [List.flatMap_cons]
      exact List.append_ne_nil_of_left_ne_nil (print_ne_nil token) _
    have hread : readToken ((token :: tokens).flatMap Token.print) =
        some (token, tokens.flatMap Token.print) := by
      rw [List.flatMap_cons]
      exact readToken_print token _
    rw [lex, if_neg hne]
    split
    · next hnone =>
      rw [hread] at hnone
      cases hnone
    · next other rest hother =>
      rw [hread] at hother
      obtain ⟨rfl, rfl⟩ := Prod.mk.inj (Option.some.inj hother)
      rw [ih]
      rfl

theorem nodes_content (tag : Tag) (read content : List Char) (tokens : List Token) :
    nodes (some (tag, read)) (content.map Token.char ++ .closes tag :: tokens) =
      (nodes none tokens).map (.element tag (read ++ content) :: ·) := by
  induction content generalizing read with
  | nil => rw [List.map_nil, List.nil_append, nodes, if_pos rfl, List.append_nil]
  | cons c content ih =>
    rw [List.map_cons, List.cons_append, nodes, ih, List.append_assoc]
    rfl

theorem nodes_tokens (document : List Node) :
    nodes none (document.flatMap Node.tokens) = some document := by
  induction document with
  | nil => rfl
  | cons node document ih =>
    rw [List.flatMap_cons]
    cases node with
    | text c =>
      rw [Node.tokens, List.singleton_append, nodes, ih]
      rfl
    | element tag content =>
      rw [Node.tokens, List.append_assoc, List.cons_append, nodes, List.singleton_append,
        nodes_content, ih, List.nil_append]
      rfl

theorem print_eq (document : List Node) :
    document.flatMap Node.print = (document.flatMap Node.tokens).flatMap Token.print := by
  rw [List.flatMap_assoc]
  rfl

/-- A written document is read back. -/
theorem parse_print (document : List Node) :
    parse (document.flatMap Node.print) = some document := by
  rw [print_eq, parse, lex_print]
  exact nodes_tokens document

/-- Without its tags and its escapes, a written document is the text of its nodes. -/
theorem unmarked_print (document : List Node) :
    unmarked (document.flatMap Node.print) = some (document.flatMap Node.content) := by
  rw [print_eq, unmarked, lex_print, Option.map_some, List.filterMap_flatMap]
  congr 1
  apply List.flatMap_congr
  intro node _
  cases node with
  | text c => rfl
  | element tag content =>
    have hcontent : (content.map Token.char).filterMap Token.shown = content := by
      rw [List.filterMap_map]
      exact List.filterMap_some
    rw [Node.tokens, List.filterMap_append, List.filterMap_cons_none rfl, hcontent]
    exact List.append_nil content

end Markup
