import BlueLagoon.Retrieval
import BlueLagoon.TextScan
import BlueLagoon.TextSet
import Mathlib.Data.List.Sort

/-!
# Semantic documents

Retrieval compares texts by their semantic tokens: their words without endings, and what the
words stand for. A stored document is the semantic tokens of a text, and is read as a text
when it is scored, so the endings are cut and the words expanded a second time.
-/

namespace BlueLagoon.Retrieval

/-! ## Tokens -/

/-- `tokenize`. -/
def tokenize (tables : Text.Tables) (value : String) : List String :=
  let pieces := (value.toList.splitOnP fun c => !tables.isAlphanumeric c).map String.ofList
  Text.collect ((pieces.filter fun token => !Text.isBlank token).map Text.toAsciiLowercase)

/-- `str::ends_with`. -/
def endsWith (s suffix : String) : Bool := suffix.toList.isSuffixOf s.toList

/-- `token[..token.len() - n]`, where the last `n` bytes are ASCII characters. -/
def cut (n : Nat) (token : String) : String :=
  String.ofList (token.toList.take (token.toList.length - n))

/-- `normalize_semantic_token`; lengths count bytes. -/
def normalizeSemanticToken (token : String) : String :=
  let token := Text.toAsciiLowercase (Text.trim token)
  if token.utf8ByteSize > 4 && endsWith token "ies" then cut 3 token ++ "y"
  else if token.utf8ByteSize > 5 && endsWith token "ing" then cut 3 token
  else if token.utf8ByteSize > 4 && endsWith token "ed" then cut 2 token
  else if token.utf8ByteSize > 3 && endsWith token "s" && !endsWith token "ss" then cut 1 token
  else token

/-- `semantic_expansions`. -/
def semanticExpansions : String → List String
  | "brief" => ["concise", "succinct", "short", "direct"]
  | "concise" => ["brief", "succinct", "short", "direct"]
  | "succinct" => ["brief", "concise", "short"]
  | "short" => ["brief", "concise", "succinct"]
  | "direct" => ["concise", "brief", "straightforward"]
  | "straightforward" => ["direct", "concise"]
  | "reply" | "response" | "answer" => ["reply", "response", "answer"]
  | "preference" | "prefer" | "like" => ["preference", "prefer", "like"]
  | "travel" => ["trip", "journey"]
  | "trip" => ["travel", "journey"]
  | "journey" => ["travel", "trip"]
  | _ => []

/-- What a token contributes to the semantic tokens. -/
def variants (token : String) : List String :=
  let normalized := normalizeSemanticToken token
  normalized :: semanticExpansions normalized

/-- `semantic_tokens`. -/
def semanticTokens (tables : Text.Tables) (value : String) : List String :=
  Text.collect (((tokenize tables value).flatMap variants).filter fun token => token ≠ "")

/-- `build_semantic_document`. -/
def buildSemanticDocument (tables : Text.Tables) (values : List String) : String :=
  let tokens := values.foldl (fun tokens value =>
    (semanticTokens tables value).foldl (fun set token => Text.insertIntoSet token set) tokens) []
  " ".intercalate tokens

/-! ## Scores -/

inductive RetrievalSourceKind
  | episode
  | memoryArtifact
  deriving DecidableEq, Repr

structure RetrievalCandidate where
  retrievalArtifactId : Uuid
  sourceKind : RetrievalSourceKind
  sourceEpisodeId : Option Uuid
  sourceMemoryArtifactId : Option Uuid
  lexicalDocument : String
  semanticDocument : String
  relevanceTimestamp : DateTime
  internalConversationRef : Option String
  deriving DecidableEq, Repr

structure ScoredCandidate where
  retrievalArtifactId : Uuid
  sourceKind : RetrievalSourceKind
  sourceEpisodeId : Option Uuid
  sourceMemoryArtifactId : Option Uuid
  score : Int
  lexicalMatchCount : Nat
  relevanceReason : String
  deriving DecidableEq, Repr

/-- The candidate of a fetched row. A semantic document that was not stored is rebuilt from
the lexical one. -/
def candidateOfRow (tables : Text.Tables) (row : RetrievalArtifactRecord) :
    RetrievalCandidate where
  retrievalArtifactId := row.retrievalArtifactId
  sourceKind := if row.sourceKind = "episode" then .episode else .memoryArtifact
  sourceEpisodeId := row.sourceEpisodeId
  sourceMemoryArtifactId := row.sourceMemoryArtifactId
  lexicalDocument := row.lexicalDocument
  semanticDocument :=
    row.semanticDocument.getD (buildSemanticDocument tables [row.lexicalDocument])
  relevanceTimestamp := row.relevanceTimestamp
  internalConversationRef := row.internalConversationRef

/-- `recency_bonus`, at the time the clock is read. -/
def recencyBonus (now relevanceTimestamp : DateTime) : Int :=
  let ageMinutes := max ((now - relevanceTimestamp).tdiv (seconds 60)) 0
  20 - min ageMinutes 20

/-- `left.intersection(&right).count()`. -/
def matchCount (left right : List String) : Nat := left.countP fun token => right.contains token

/-- The semantic tokens a trigger shares with a candidate. -/
def semanticMatchCount (tables : Text.Tables) (triggerText : String)
    (candidate : RetrievalCandidate) : Nat :=
  matchCount (semanticTokens tables triggerText) (semanticTokens tables candidate.semanticDocument)

/-- The score of one candidate. -/
def scoreCandidate (tables : Text.Tables) (triggerText internalConversationRef : String)
    (now : DateTime) (candidate : RetrievalCandidate) : ScoredCandidate :=
  let lexicalMatchCount :=
    matchCount (tokenize tables triggerText) (tokenize tables candidate.lexicalDocument)
  let semanticMatchCount := semanticMatchCount tables triggerText candidate
  let sameConversation := candidate.internalConversationRef = some internalConversationRef
  { retrievalArtifactId := candidate.retrievalArtifactId
    sourceKind := candidate.sourceKind
    sourceEpisodeId := candidate.sourceEpisodeId
    sourceMemoryArtifactId := candidate.sourceMemoryArtifactId
    score := lexicalMatchCount * 100 + semanticMatchCount * 40 +
      (if sameConversation then 50 else 0) + recencyBonus now candidate.relevanceTimestamp
    lexicalMatchCount := lexicalMatchCount
    relevanceReason :=
      if lexicalMatchCount > 0 then s!"lexical_match:{lexicalMatchCount}"
      else if semanticMatchCount > 0 then s!"semantic_match:{semanticMatchCount}"
      else if sameConversation then "same_conversation_recent"
      else "recency_only" }

/-- The order of `scored.sort_by`. -/
def scoredBefore (left right : ScoredCandidate) : Prop :=
  right.score < left.score ∨ right.score = left.score ∧
    (right.lexicalMatchCount < left.lexicalMatchCount ∨
      right.lexicalMatchCount = left.lexicalMatchCount ∧
        left.retrievalArtifactId ≤ right.retrievalArtifactId)

instance : DecidableRel scoredBefore := fun left right =>
  inferInstanceAs (Decidable (right.score < left.score ∨ right.score = left.score ∧
    (right.lexicalMatchCount < left.lexicalMatchCount ∨
      right.lexicalMatchCount = left.lexicalMatchCount ∧
        left.retrievalArtifactId ≤ right.retrievalArtifactId)))

/-- `score_candidates`; the clock is read once for each candidate. -/
def scoreCandidates (tables : Text.Tables) (clock : Nat → DateTime)
    (candidates : List RetrievalCandidate) (triggerText internalConversationRef : String) :
    List ScoredCandidate :=
  (candidates.mapIdx fun i candidate =>
    scoreCandidate tables triggerText internalConversationRef (clock i) candidate).insertionSort
      scoredBefore

/-! ## The words of a set -/

/-- What is used of `char::is_alphanumeric`. -/
structure Alphanumeric (tables : Text.Tables) : Prop where
  ascii : ∀ c : Char, c.toNat < 128 → tables.isAlphanumeric c = c.isAlphanum
  blank : ∀ c, Text.isWhitespace c = true → tables.isAlphanumeric c = false

variable {tables : Text.Tables} {token word : String}

/-- A token: letters and digits, none of them an ASCII capital. -/
structure IsToken (tables : Text.Tables) (token : String) : Prop where
  nonempty : token.toList ≠ []
  alphanumeric : ∀ c ∈ token.toList, tables.isAlphanumeric c = true
  lower : ∀ c ∈ token.toList, Text.asciiLower c = c

/-- What `to_ascii_lowercase` does to an ASCII character. -/
theorem asciiLower_ascii : ∀ n < 128,
    Text.asciiLower (Text.asciiLower (Char.ofNat n)) = Text.asciiLower (Char.ofNat n) ∧
      (Text.asciiLower (Char.ofNat n)).toNat < 128 ∧
      (Text.asciiLower (Char.ofNat n)).isAlphanum = (Char.ofNat n).isAlphanum := by
  decide

theorem asciiLower_alphanumeric (h : Alphanumeric tables) (c : Char) :
    Text.asciiLower (Text.asciiLower c) = Text.asciiLower c ∧
      tables.isAlphanumeric (Text.asciiLower c) = tables.isAlphanumeric c := by
  by_cases hascii : c.toNat < 128
  · have hlower := asciiLower_ascii c.toNat hascii
    rw [Char.ofNat_toNat] at hlower
    obtain ⟨hidem, hsmall, hsame⟩ := hlower
    exact ⟨hidem, by rw [h.ascii _ hsmall, hsame, h.ascii c hascii]⟩
  · have hself : Text.asciiLower c = c := by
      unfold Text.asciiLower
      rw [if_neg]
      rintro ⟨-, hle⟩
      exact hascii (lt_of_le_of_lt hle (by decide))
    rw [hself]
    exact ⟨hself, rfl⟩

theorem mem_tokenize_isToken (h : Alphanumeric tables) {value : String}
    (hmem : word ∈ tokenize tables value) : IsToken tables word := by
  unfold tokenize at hmem
  rw [Text.mem_collect] at hmem
  obtain ⟨piece, hpiece, rfl⟩ := List.mem_map.mp hmem
  obtain ⟨hpiece, hblank⟩ := List.mem_filter.mp hpiece
  obtain ⟨chars, hchars, rfl⟩ := List.mem_map.mp hpiece
  have hfree := Text.free_of_mem_splitOnP hchars
  have hlower : (Text.toAsciiLowercase (String.ofList chars)).toList =
      chars.map Text.asciiLower := by
    rw [Text.toAsciiLowercase, String.toList_ofList, String.toList_ofList]
  refine ⟨?_, ?_, ?_⟩
  · rw [hlower]
    intro hnil
    rw [List.map_eq_nil_iff] at hnil
    rw [hnil] at hblank
    cases hblank
  · rw [hlower]
    intro c hc
    obtain ⟨d, hd, rfl⟩ := List.mem_map.mp hc
    rw [(asciiLower_alphanumeric h d).2]
    simpa using hfree d hd
  · rw [hlower]
    intro c hc
    obtain ⟨d, hd, rfl⟩ := List.mem_map.mp hc
    exact (asciiLower_alphanumeric h d).1

theorem IsToken.toAsciiLowercase (htoken : IsToken tables token) :
    Text.toAsciiLowercase token = token := by
  rw [Text.toAsciiLowercase, List.map_congr_left (f := Text.asciiLower) (g := id) htoken.lower,
    List.map_id, String.ofList_toList]

/-- A set of tokens is read back from their text. -/
theorem tokenize_intercalate (h : Alphanumeric tables) {set : List String} (hset : Text.IsSet set)
    (htokens : ∀ token ∈ set, IsToken tables token) :
    tokenize tables (" ".intercalate set) = set := by
  have hwords : ∀ chars ∈ set.map String.toList,
      chars ≠ [] ∧ ∀ c ∈ chars, (!tables.isAlphanumeric c) = false := by
    intro chars hchars
    obtain ⟨token, htoken, rfl⟩ := List.mem_map.mp hchars
    refine ⟨(htokens token htoken).nonempty, ?_⟩
    intro c hc
    rw [(htokens token htoken).alphanumeric c hc]
    rfl
  have hseparates : (!tables.isAlphanumeric ' ') = true := by
    rw [h.ascii ' ' (by decide)]
    rfl
  have hpieces := @Text.filter_splitOnP_intercalate (fun c => !tables.isAlphanumeric c)
    hseparates _ hwords
  have hkept : ∀ chars ∈ (" ".intercalate set).toList.splitOnP fun c => !tables.isAlphanumeric c,
      ((fun token => !Text.isBlank token) ∘ String.ofList) chars = !chars.isEmpty := by
    intro chars hchars
    have hfree := Text.free_of_mem_splitOnP hchars
    cases chars with
    | nil => rfl
    | cons c rest =>
      have hc : tables.isAlphanumeric c = true := by simpa using hfree c List.mem_cons_self
      have hnot : Text.isWhitespace c = false := by
        by_contra hspace
        rw [h.blank c (by simpa using hspace)] at hc
        cases hc
      simp [Text.isBlank, hnot]
  have hlower : ∀ chars ∈ set.map String.toList,
      (Text.toAsciiLowercase ∘ String.ofList) chars = String.ofList chars := by
    intro chars hchars
    obtain ⟨token, htoken, rfl⟩ := List.mem_map.mp hchars
    rw [Function.comp_apply, String.ofList_toList, (htokens token htoken).toAsciiLowercase]
  unfold tokenize
  dsimp only
  rw [List.filter_map, List.map_map, List.filter_congr hkept, String.toList_intercalate]
  change Text.collect (List.map _ (List.filter _ (List.splitOnP _ ([' '].intercalate _)))) = set
  rw [hpieces, List.map_congr_left hlower, List.map_map]
  have hid : String.ofList ∘ String.toList = id := funext fun _ => String.ofList_toList
  rw [hid, List.map_id, hset.collect_eq]

/-! ## Endings -/

/-- The token has an ending that is cut. -/
def IsInflected (token : String) : Bool :=
  (token.utf8ByteSize > 4 && endsWith token "ies") ||
    (token.utf8ByteSize > 5 && endsWith token "ing") ||
    (token.utf8ByteSize > 4 && endsWith token "ed") ||
    (token.utf8ByteSize > 3 && endsWith token "s" && !endsWith token "ss")

/-- A token is in lower case and has no blanks around it. -/
theorem IsToken.plain (h : Alphanumeric tables) (htoken : IsToken tables token) :
    Text.toAsciiLowercase (Text.trim token) = token := by
  have hblank : ∀ c ∈ token.toList, Text.isWhitespace c = false := by
    intro c hc
    by_contra hblank
    rw [Bool.not_eq_false] at hblank
    have hnot := h.blank c hblank
    rw [htoken.alphanumeric c hc] at hnot
    cases hnot
  rw [Text.trim_eq_self hblank, htoken.toAsciiLowercase]

theorem endsWith_iff {s suffix : String} :
    endsWith s suffix = true ↔ suffix.toList <:+ s.toList := by
  rw [endsWith, List.isSuffixOf_iff_suffix]

theorem toList_cut (n : Nat) (token : String) :
    (cut n token).toList = token.toList.take (token.toList.length - n) := by
  rw [cut, String.toList_ofList]

/-- Cutting an ending leaves the letters before it. -/
theorem IsToken.of_cut (htoken : IsToken tables token) {n : Nat}
    (hlength : n < token.toList.length) : IsToken tables (cut n token) where
  nonempty := by
    rw [toList_cut]
    intro hnil
    have hzero := congrArg List.length hnil
    rw [List.length_take, List.length_nil] at hzero
    omega
  alphanumeric := by
    intro c hc
    rw [toList_cut] at hc
    exact htoken.alphanumeric c (List.mem_of_mem_take hc)
  lower := by
    intro c hc
    rw [toList_cut] at hc
    exact htoken.lower c (List.mem_of_mem_take hc)

/-- A token of more bytes than an ASCII ending has more letters than it. -/
theorem length_lt_of_endsWith {suffix : String} (hend : endsWith token suffix = true)
    (hsize : suffix.utf8ByteSize < token.utf8ByteSize) :
    suffix.toList.length < token.toList.length := by
  rw [endsWith_iff] at hend
  apply lt_of_le_of_ne hend.length_le
  intro heq
  have hsame := String.toList_injective (hend.eq_of_length heq)
  rw [hsame] at hsize
  exact lt_irrefl _ hsize

/-- The text before an ending of a token is a shorter token. -/
theorem IsToken.cut_ending (htoken : IsToken tables token) {suffix : String}
    (hend : endsWith token suffix = true) (hsize : suffix.utf8ByteSize < token.utf8ByteSize) :
    IsToken tables (cut suffix.toList.length token) ∧
      (cut suffix.toList.length token).toList.length + suffix.toList.length =
        token.toList.length := by
  have hlength := length_lt_of_endsWith hend hsize
  refine ⟨htoken.of_cut hlength, ?_⟩
  rw [toList_cut, List.length_take]
  omega

theorem IsToken.append_y (h : Alphanumeric tables) (htoken : IsToken tables token) :
    IsToken tables (token ++ "y") where
  nonempty := by
    rw [String.toList_append]
    exact List.append_ne_nil_of_left_ne_nil htoken.nonempty _
  alphanumeric := by
    intro c hc
    rw [String.toList_append, List.mem_append] at hc
    rcases hc with hc | hc
    · exact htoken.alphanumeric c hc
    · have hy : c = 'y' := List.mem_singleton.mp hc
      rw [hy, h.ascii 'y' (by decide)]
      rfl
  lower := by
    intro c hc
    rw [String.toList_append, List.mem_append] at hc
    rcases hc with hc | hc
    · exact htoken.lower c hc
    · have hy : c = 'y' := List.mem_singleton.mp hc
      rw [hy]
      rfl

/-- What is left of a token is a token, and shorter if the token had an ending. -/
theorem normalizeSemanticToken_spec (h : Alphanumeric tables) (htoken : IsToken tables token) :
    IsToken tables (normalizeSemanticToken token) ∧
      if IsInflected token then
        (normalizeSemanticToken token).toList.length < token.toList.length
      else normalizeSemanticToken token = token := by
  unfold normalizeSemanticToken IsInflected
  dsimp only
  rw [htoken.plain h]
  by_cases hies : (decide (token.utf8ByteSize > 4) && endsWith token "ies") = true
  · simp only [hies, Bool.true_or, if_true]
    rw [Bool.and_eq_true, decide_eq_true_eq] at hies
    obtain ⟨hcut, hlength⟩ := htoken.cut_ending hies.2 (lt_trans (by decide) hies.1)
    change IsToken tables (cut 3 token) at hcut
    change (cut 3 token).toList.length + 3 = _ at hlength
    refine ⟨hcut.append_y h, ?_⟩
    rw [String.toList_append, List.length_append]
    change (cut 3 token).toList.length + 1 < _
    omega
  by_cases hing : (decide (token.utf8ByteSize > 5) && endsWith token "ing") = true
  · simp only [hies, hing, Bool.true_or, Bool.or_true, if_true, Bool.false_eq_true, if_false]
    rw [Bool.and_eq_true, decide_eq_true_eq] at hing
    obtain ⟨hcut, hlength⟩ := htoken.cut_ending hing.2 (lt_trans (by decide) hing.1)
    change (cut 3 token).toList.length + 3 = _ at hlength
    exact ⟨hcut, by omega⟩
  by_cases hed : (decide (token.utf8ByteSize > 4) && endsWith token "ed") = true
  · simp only [hies, hing, hed, Bool.true_or, Bool.or_true, if_true, Bool.false_eq_true, if_false]
    rw [Bool.and_eq_true, decide_eq_true_eq] at hed
    obtain ⟨hcut, hlength⟩ := htoken.cut_ending hed.2 (lt_trans (by decide) hed.1)
    change (cut 2 token).toList.length + 2 = _ at hlength
    exact ⟨hcut, by omega⟩
  by_cases hs : (decide (token.utf8ByteSize > 3) && endsWith token "s" && !endsWith token "ss") =
      true
  · simp only [hies, hing, hed, hs, Bool.or_true, if_true, Bool.false_eq_true, if_false]
    rw [Bool.and_eq_true, Bool.and_eq_true, decide_eq_true_eq] at hs
    obtain ⟨hcut, hlength⟩ := htoken.cut_ending hs.1.2 (lt_trans (by decide) hs.1.1)
    change (cut 1 token).toList.length + 1 = _ at hlength
    exact ⟨hcut, by omega⟩
  rw [Bool.not_eq_true] at hies hing hed hs
  simp only [hies, hing, hed, hs, Bool.or_false, Bool.false_eq_true, if_false]
  exact ⟨htoken, trivial⟩

/-- Only an ending changes a token. -/
theorem normalizeSemanticToken_eq_iff (h : Alphanumeric tables) (htoken : IsToken tables token) :
    normalizeSemanticToken token = token ↔ IsInflected token = false := by
  obtain ⟨-, hlength⟩ := normalizeSemanticToken_spec h htoken
  cases hinflected : IsInflected token with
  | false =>
    rw [hinflected, if_neg Bool.false_ne_true] at hlength
    exact iff_of_true hlength rfl
  | true =>
    rw [hinflected, if_pos rfl] at hlength
    refine iff_of_false (fun heq => ?_) Bool.noConfusion
    rw [heq] at hlength
    exact lt_irrefl _ hlength

/-! ## What words stand for -/

/-- The words with an entry in the table. -/
def synonyms : List String :=
  ["brief", "concise", "succinct", "short", "direct", "straightforward", "reply", "response",
    "answer", "preference", "prefer", "like", "travel", "trip", "journey"]

/-- A group of words that stand for each other. -/
def terseWords : List String := ["brief", "concise", "succinct", "short"]

/-- A group of words that stand for each other, and for some of the terse words only. -/
def plainWords : List String := ["direct", "straightforward"]

theorem semanticExpansions_eq_nil (h : word ∉ synonyms) : semanticExpansions word = [] := by
  unfold semanticExpansions
  split
  all_goals first
    | rfl
    | exact absurd (by decide) h

theorem expansions_in_synonyms : ∀ word ∈ synonyms, ∀ token ∈ semanticExpansions word,
    token ∈ synonyms := by
  decide

theorem mem_synonyms (h : token ∈ semanticExpansions word) :
    word ∈ synonyms ∧ token ∈ synonyms := by
  have hword : word ∈ synonyms := by
    by_contra hnot
    rw [semanticExpansions_eq_nil hnot] at h
    cases h
  exact ⟨hword, expansions_in_synonyms word hword token h⟩

theorem synonyms_plain : ∀ token ∈ synonyms, token.toList ≠ [] ∧
    (∀ c ∈ token.toList, c.toNat < 128 ∧ c.isAlphanum = true ∧ Text.asciiLower c = c) ∧
      IsInflected token = false := by
  have hcheck : ∀ token ∈ synonyms, token.toList ≠ [] ∧
      token.toList.all (fun c => c.toNat < 128 ∧ c.isAlphanum = true ∧ Text.asciiLower c = c) ∧
        IsInflected token = false := by decide
  intro token htoken
  obtain ⟨hne, hchars, hplain⟩ := hcheck token htoken
  exact ⟨hne, fun c hc => of_decide_eq_true (List.all_eq_true.mp hchars c hc), hplain⟩

theorem isToken_of_mem_synonyms (h : Alphanumeric tables) (hmem : token ∈ synonyms) :
    IsToken tables token := by
  obtain ⟨hne, hchars, -⟩ := synonyms_plain token hmem
  refine ⟨hne, ?_, ?_⟩
  · intro c hc
    obtain ⟨hascii, halphanumeric, -⟩ := hchars c hc
    rw [h.ascii c hascii, halphanumeric]
  · intro c hc
    exact (hchars c hc).2.2

/-- Expanding twice adds a word only from one group to the other. -/
theorem expansions_twice : ∀ word ∈ synonyms, ∀ mid ∈ semanticExpansions word,
    ∀ token ∈ semanticExpansions mid, token = word ∨ token ∈ semanticExpansions word ∨
      (word ∈ terseWords ∧ token ∈ plainWords) ∨ (word ∈ plainWords ∧ token ∈ terseWords) := by
  decide

theorem terseWords_closed : ∀ word ∈ terseWords, ∀ token ∈ terseWords,
    token = word ∨ token ∈ semanticExpansions word := by
  decide

theorem plainWords_closed : ∀ word ∈ plainWords, ∀ token ∈ plainWords,
    token = word ∨ token ∈ semanticExpansions word := by
  decide

/-- From each group, expanding leads to a word that only the other group stands for. -/
theorem terseWords_lead : ∀ word ∈ terseWords, ∃ mid ∈ word :: semanticExpansions word,
    ∃ last ∈ mid :: semanticExpansions mid, "straightforward" ∈ semanticExpansions last := by
  decide

theorem plainWords_lead : ∀ word ∈ plainWords, ∃ mid ∈ word :: semanticExpansions word,
    ∃ last ∈ mid :: semanticExpansions mid, "succinct" ∈ semanticExpansions last := by
  decide

theorem only_plainWords : ∀ word ∈ synonyms, "straightforward" ∈ semanticExpansions word →
    word ∈ plainWords := by
  decide

theorem only_terseWords : ∀ word ∈ synonyms, "succinct" ∈ semanticExpansions word →
    word ∈ terseWords := by
  decide

/-! ## A text and its document -/

variable {texts : List String}

/-- The words of some texts without their endings. -/
def stems (tables : Text.Tables) (texts : List String) : List String :=
  texts.flatMap fun text => (tokenize tables text).map normalizeSemanticToken

/-- The semantic tokens of some texts. -/
def semanticTokensOf (tables : Text.Tables) (texts : List String) : List String :=
  Text.collect (texts.flatMap (semanticTokens tables))

theorem buildSemanticDocument_eq :
    buildSemanticDocument tables texts = " ".intercalate (semanticTokensOf tables texts) := by
  unfold buildSemanticDocument semanticTokensOf Text.collect
  rw [List.foldl_flatMap]

/-- What a set of words contributes to the semantic tokens. -/
def Meant (words : List String) (token : String) : Prop :=
  (∃ word ∈ words, normalizeSemanticToken word = token) ∨
    ∃ word ∈ words, token ∈ semanticExpansions (normalizeSemanticToken word)

theorem mem_flatMap_variants {words : List String} :
    token ∈ words.flatMap variants ↔ Meant words token := by
  unfold variants Meant
  simp only [List.mem_flatMap, List.mem_cons]
  constructor
  · rintro ⟨word, hword, hstem | hexpansion⟩
    · exact Or.inl ⟨word, hword, hstem.symm⟩
    · exact Or.inr ⟨word, hword, hexpansion⟩
  · rintro (⟨word, hword, hstem⟩ | ⟨word, hword, hexpansion⟩)
    · exact ⟨word, hword, Or.inl hstem.symm⟩
    · exact ⟨word, hword, Or.inr hexpansion⟩

theorem Meant.isToken (h : Alphanumeric tables) {words : List String}
    (hwords : ∀ word ∈ words, IsToken tables word) (hmeant : Meant words token) :
    IsToken tables token := by
  rcases hmeant with ⟨word, hword, hstem⟩ | ⟨word, -, hexpansion⟩
  · rw [← hstem]
    exact (normalizeSemanticToken_spec h (hwords word hword)).1
  · exact isToken_of_mem_synonyms h (mem_synonyms hexpansion).2

theorem mem_semanticTokens (h : Alphanumeric tables) {value : String} :
    token ∈ semanticTokens tables value ↔ Meant (tokenize tables value) token := by
  unfold semanticTokens
  rw [Text.mem_collect, List.mem_filter, mem_flatMap_variants]
  refine and_iff_left_of_imp fun hmeant => ?_
  have htoken := hmeant.isToken h fun word hword => mem_tokenize_isToken h hword
  rw [decide_eq_true_eq]
  intro hempty
  exact htoken.nonempty (String.toList_eq_nil_iff.mpr hempty)

theorem mem_semanticTokensOf (h : Alphanumeric tables) : token ∈ semanticTokensOf tables texts ↔
    token ∈ stems tables texts ∨ ∃ stem ∈ stems tables texts, token ∈ semanticExpansions stem := by
  unfold semanticTokensOf stems
  rw [Text.mem_collect]
  simp only [List.mem_flatMap, List.mem_map, mem_semanticTokens h, Meant]
  constructor
  · rintro ⟨text, htext, ⟨word, hword, hstem⟩ | ⟨word, hword, hexpansion⟩⟩
    · exact Or.inl ⟨text, htext, word, hword, hstem⟩
    · exact Or.inr ⟨_, ⟨text, htext, word, hword, rfl⟩, hexpansion⟩
  · rintro (⟨text, htext, word, hword, hstem⟩ |
      ⟨stem, ⟨text, htext, word, hword, hstem⟩, hexpansion⟩)
    · exact ⟨text, htext, Or.inl ⟨word, hword, hstem⟩⟩
    · rw [← hstem] at hexpansion
      exact ⟨text, htext, Or.inr ⟨word, hword, hexpansion⟩⟩

theorem isToken_of_mem_stems (h : Alphanumeric tables) (hmem : token ∈ stems tables texts) :
    IsToken tables token := by
  obtain ⟨text, -, hword⟩ := List.mem_flatMap.mp hmem
  obtain ⟨word, hword, hstem⟩ := List.mem_map.mp hword
  rw [← hstem]
  exact (normalizeSemanticToken_spec h (mem_tokenize_isToken h hword)).1

theorem isToken_of_mem_semanticTokensOf (h : Alphanumeric tables)
    (hmem : token ∈ semanticTokensOf tables texts) : IsToken tables token := by
  rcases (mem_semanticTokensOf h).mp hmem with hstem | ⟨stem, -, hexpansion⟩
  · exact isToken_of_mem_stems h hstem
  · exact isToken_of_mem_synonyms h (mem_synonyms hexpansion).2

/-- The document of some texts is read as their semantic tokens. -/
theorem mem_semanticTokens_document (h : Alphanumeric tables) :
    token ∈ semanticTokens tables (buildSemanticDocument tables texts) ↔
      Meant (semanticTokensOf tables texts) token := by
  have hset : Text.IsSet (semanticTokensOf tables texts) := Text.isSet_collect _
  rw [mem_semanticTokens h, buildSemanticDocument_eq,
    tokenize_intercalate h hset fun _ => isToken_of_mem_semanticTokensOf h]

/-- No word of the texts has a second ending under its ending, and they name terse words
exactly when they name plain ones. -/
structure Settled (tables : Text.Tables) (texts : List String) : Prop where
  endings : ∀ stem ∈ stems tables texts, IsInflected stem = false
  groups : (∃ stem ∈ stems tables texts, stem ∈ terseWords) ↔
    ∃ stem ∈ stems tables texts, stem ∈ plainWords

/-- When the document of some texts keeps all their semantic tokens, none of them has an ending
that is cut: what the longest of those stands for would be missing. -/
theorem not_inflected_of_kept (h : Alphanumeric tables)
    (hkept : ∀ token ∈ semanticTokensOf tables texts, Meant (semanticTokensOf tables texts) token) :
    ∀ token ∈ semanticTokensOf tables texts, IsInflected token = false := by
  have hstable := @Text.stable_of_covered String (semanticTokensOf tables texts)
    normalizeSemanticToken (fun token => token.toList.length) ?_ ?_
  · intro token hmem
    rw [← normalizeSemanticToken_eq_iff h (isToken_of_mem_semanticTokensOf h hmem)]
    exact hstable token hmem
  · intro token hmem hchanged
    have htoken := isToken_of_mem_semanticTokensOf h hmem
    rw [Ne, normalizeSemanticToken_eq_iff h htoken, Bool.not_eq_false] at hchanged
    have hlength := (normalizeSemanticToken_spec h htoken).2
    rw [if_pos hchanged] at hlength
    exact hlength
  · intro token hmem
    rcases hkept token hmem with hstem | ⟨word, -, hexpansion⟩
    · exact Or.inr hstem
    · left
      have hsynonym := (mem_synonyms hexpansion).2
      rw [normalizeSemanticToken_eq_iff h (isToken_of_mem_synonyms h hsynonym)]
      exact (synonyms_plain token hsynonym).2.2

/-- Tokens without endings mean themselves and what they stand for. -/
theorem meant_iff_of_not_inflected (h : Alphanumeric tables) {words : List String}
    (hwords : ∀ word ∈ words, IsToken tables word)
    (hendings : ∀ word ∈ words, IsInflected word = false) :
    Meant words token ↔ token ∈ words ∨ ∃ word ∈ words, token ∈ semanticExpansions word := by
  have hself : ∀ word ∈ words, normalizeSemanticToken word = word := fun word hword =>
    (normalizeSemanticToken_eq_iff h (hwords word hword)).mpr (hendings word hword)
  constructor
  · rintro (⟨word, hword, hstem⟩ | ⟨word, hword, hexpansion⟩)
    · rw [hself word hword] at hstem
      exact Or.inl (hstem ▸ hword)
    · rw [hself word hword] at hexpansion
      exact Or.inr ⟨word, hword, hexpansion⟩
  · rintro (hmem | ⟨word, hword, hexpansion⟩)
    · exact Or.inl ⟨token, hmem, hself token hmem⟩
    · rw [← hself word hword] at hexpansion
      exact Or.inr ⟨word, hword, hexpansion⟩

/-- Where a document has the tokens of its texts, no word had an ending left to cut, and the
synonyms were closed. -/
theorem settled_of_tokens_eq (h : Alphanumeric tables)
    (heq : semanticTokens tables (buildSemanticDocument tables texts) =
      semanticTokensOf tables texts) : Settled tables texts := by
  have hmeant : ∀ token, Meant (semanticTokensOf tables texts) token ↔
      token ∈ semanticTokensOf tables texts := by
    intro token
    rw [← mem_semanticTokens_document h, heq]
  have hendings := not_inflected_of_kept h fun token => (hmeant token).mpr
  have hstem : ∀ stem ∈ stems tables texts, stem ∈ semanticTokensOf tables texts := by
    intro stem hmem
    exact (mem_semanticTokensOf h).mpr (Or.inl hmem)
  -- the tokens are closed under what they stand for
  have hclosed : ∀ word ∈ semanticTokensOf tables texts, ∀ token ∈ semanticExpansions word,
      token ∈ semanticTokensOf tables texts := by
    intro word hword token hexpansion
    rw [← hmeant, meant_iff_of_not_inflected h (fun _ => isToken_of_mem_semanticTokensOf h)
      hendings]
    exact Or.inr ⟨word, hword, hexpansion⟩
  have hlead : ∀ word ∈ semanticTokensOf tables texts, ∀ token,
      (∃ mid ∈ word :: semanticExpansions word, ∃ last ∈ mid :: semanticExpansions mid,
        token ∈ semanticExpansions last) → token ∈ semanticTokensOf tables texts := by
    rintro word hword token ⟨mid, hmid, last, hlast, htoken⟩
    have hmid' : mid ∈ semanticTokensOf tables texts := by
      rcases List.mem_cons.mp hmid with rfl | hexpansion
      · exact hword
      · exact hclosed word hword mid hexpansion
    have hlast' : last ∈ semanticTokensOf tables texts := by
      rcases List.mem_cons.mp hlast with rfl | hexpansion
      · exact hmid'
      · exact hclosed mid hmid' last hexpansion
    exact hclosed last hlast' token htoken
  refine ⟨fun stem hmem => hendings stem (hstem stem hmem), ?_, ?_⟩
  · rintro ⟨stem, hmem, hterse⟩
    have hreached := hlead stem (hstem stem hmem) _ (terseWords_lead stem hterse)
    rcases (mem_semanticTokensOf h).mp hreached with hself | ⟨other, hother, hexpansion⟩
    · exact ⟨_, hself, by decide⟩
    · exact ⟨other, hother, only_plainWords other (mem_synonyms hexpansion).1 hexpansion⟩
  · rintro ⟨stem, hmem, hplain⟩
    have hreached := hlead stem (hstem stem hmem) _ (plainWords_lead stem hplain)
    rcases (mem_semanticTokensOf h).mp hreached with hself | ⟨other, hother, hexpansion⟩
    · exact ⟨_, hself, by decide⟩
    · exact ⟨other, hother, only_terseWords other (mem_synonyms hexpansion).1 hexpansion⟩

/-- Where no word has an ending left to cut and the synonyms are closed, a document has the tokens
of its texts. -/
theorem tokens_eq_of_settled (h : Alphanumeric tables) (hsettled : Settled tables texts) :
    semanticTokens tables (buildSemanticDocument tables texts) = semanticTokensOf tables texts := by
  have hendings : ∀ token ∈ semanticTokensOf tables texts, IsInflected token = false := by
    intro token hmem
    rcases (mem_semanticTokensOf h).mp hmem with hstem | ⟨stem, -, hexpansion⟩
    · exact hsettled.endings token hstem
    · exact (synonyms_plain token (mem_synonyms hexpansion).2).2.2
  -- a word of a group that is named brings in all of it
  have hgroup : ∀ group : List String,
      (∀ word ∈ group, ∀ token ∈ group, token = word ∨ token ∈ semanticExpansions word) →
      (∃ stem ∈ stems tables texts, stem ∈ group) → ∀ token ∈ group,
        token ∈ semanticTokensOf tables texts := by
    rintro group hgroup ⟨stem, hstem, hin⟩ token htoken
    rw [mem_semanticTokensOf h]
    rcases hgroup stem hin token htoken with heq | hexpansion
    · exact Or.inl (heq ▸ hstem)
    · exact Or.inr ⟨stem, hstem, hexpansion⟩
  have hclosed : ∀ word ∈ semanticTokensOf tables texts, ∀ token ∈ semanticExpansions word,
      token ∈ semanticTokensOf tables texts := by
    intro word hword token hexpansion
    rcases (mem_semanticTokensOf h).mp hword with hstem | ⟨stem, hstem, hword⟩
    · exact (mem_semanticTokensOf h).mpr (Or.inr ⟨word, hstem, hexpansion⟩)
    rcases expansions_twice stem (mem_synonyms hword).1 word hword token hexpansion with
      heq | honce | ⟨hterse, hplain⟩ | ⟨hplain, hterse⟩
    · exact (mem_semanticTokensOf h).mpr (Or.inl (heq ▸ hstem))
    · exact (mem_semanticTokensOf h).mpr (Or.inr ⟨stem, hstem, honce⟩)
    · exact hgroup plainWords plainWords_closed (hsettled.groups.mp ⟨stem, hstem, hterse⟩) token
        hplain
    · exact hgroup terseWords terseWords_closed (hsettled.groups.mpr ⟨stem, hstem, hplain⟩) token
        hterse
  have hdocument : Text.IsSet (semanticTokens tables (buildSemanticDocument tables texts)) :=
    Text.isSet_collect _
  have hset : Text.IsSet (semanticTokensOf tables texts) := Text.isSet_collect _
  apply hdocument.ext hset
  intro token
  rw [mem_semanticTokens_document h,
    meant_iff_of_not_inflected h (fun _ => isToken_of_mem_semanticTokensOf h) hendings]
  constructor
  · rintro (hmem | ⟨word, hword, hexpansion⟩)
    · exact hmem
    · exact hclosed word hword token hexpansion
  · exact Or.inl

/-! ## Texts that match their documents -/

/-- A text, or some texts, and the semantic document of them: reading the document gives the
semantic tokens of the texts, a trigger with these tokens shares all of them with a candidate
that has the document, and the scores of candidates do not depend on whether the document of a
lexical one was stored. -/
structure MatchesOwnDocument (tables : Text.Tables) (texts : List String) : Prop where
  tokens : semanticTokens tables (buildSemanticDocument tables texts) =
    semanticTokensOf tables texts
  count : ∀ candidate trigger,
    candidate.semanticDocument = buildSemanticDocument tables texts →
    semanticTokens tables trigger = semanticTokensOf tables texts →
    semanticMatchCount tables trigger candidate = (semanticTokensOf tables texts).length
  scores : ∀ before after clock trigger conversation (row : RetrievalArtifactRecord),
    texts = [row.lexicalDocument] →
    scoreCandidates tables clock (before ++ candidateOfRow tables { row with
      semanticDocument := some (buildSemanticDocument tables texts) } :: after) trigger
        conversation =
    scoreCandidates tables clock (before ++ candidateOfRow tables { row with
      semanticDocument := none } :: after) trigger conversation

theorem matchesOwnDocument_of_tokens_eq
    (heq : semanticTokens tables (buildSemanticDocument tables texts) =
      semanticTokensOf tables texts) : MatchesOwnDocument tables texts where
  tokens := heq
  count := by
    intro candidate trigger hcandidate htrigger
    rw [semanticMatchCount, matchCount, hcandidate, htrigger, heq, List.countP_eq_length]
    intro token hmem
    rw [List.contains_iff_mem]
    exact hmem
  scores := by
    intro before after clock trigger conversation row htexts
    rw [htexts]
    rfl

/-- Texts match their own document exactly when none of their words has one ending under another
and they name both groups of words or neither. -/
theorem matchesOwnDocument_iff (h : Alphanumeric tables) (texts : List String) :
    MatchesOwnDocument tables texts ↔ Settled tables texts := by
  constructor
  · intro hmatches
    exact settled_of_tokens_eq h hmatches.tokens
  · intro hsettled
    exact matchesOwnDocument_of_tokens_eq (tokens_eq_of_settled h hsettled)

theorem isAlphanum_toNat {c : Char} (h : c.isAlphanum = true) :
    (48 ≤ c.toNat ∧ c.toNat ≤ 57) ∨ (65 ≤ c.toNat ∧ c.toNat ≤ 90) ∨
      (97 ≤ c.toNat ∧ c.toNat ≤ 122) := by
  delta Char.isAlphanum Char.isAlpha Char.isUpper Char.isLower Char.isDigit at h
  simp only [Bool.or_eq_true, Bool.and_eq_true, decide_eq_true_eq, ge_iff_le,
    UInt32.le_iff_toNat_le] at h
  change ((65 ≤ c.toNat ∧ c.toNat ≤ 90) ∨ (97 ≤ c.toNat ∧ c.toNat ≤ 122)) ∨
    (48 ≤ c.toNat ∧ c.toNat ≤ 57) at h
  tauto

theorem alphanumeric_ascii : Alphanumeric Text.Tables.ascii where
  ascii := fun _ _ => rfl
  blank := by
    intro c hblank
    change c.isAlphanum = false
    by_contra halphanumeric
    rw [Bool.not_eq_false] at halphanumeric
    have hrange := isAlphanum_toNat halphanumeric
    simp only [Text.isWhitespace, Bool.or_eq_true, Bool.and_eq_true, decide_eq_true_eq] at hblank
    omega

theorem matchesOwnDocument_reply :
    Settled Text.Tables.ascii ["brief, direct replies"] ∧
      MatchesOwnDocument Text.Tables.ascii ["brief, direct replies"] := by
  have hsettled : Settled Text.Tables.ascii ["brief, direct replies"] :=
    ⟨by decide +kernel, by decide +kernel⟩
  exact ⟨hsettled, (matchesOwnDocument_iff alphanumeric_ascii _).mpr hsettled⟩

/-- One ending under another, and a word that stands for others only in part. -/
theorem not_matchesOwnDocument : ¬ MatchesOwnDocument Text.Tables.ascii ["wordings"] ∧
    ¬ MatchesOwnDocument Text.Tables.ascii ["brief"] :=
  ⟨fun h => absurd h.tokens (by decide +kernel), fun h => absurd h.tokens (by decide +kernel)⟩

end BlueLagoon.Retrieval
