import BlueLagoon.Episodes
import BlueLagoon.SemanticDocuments

/-!
# The context that is retrieved for a turn

Before a conscious turn the episodes and memories of its conversation get a document each, the
documents of the conversation are ranked against the text of the trigger, and what the best of
them were made from is loaded.
-/

namespace BlueLagoon.Retrieval

open Interleaving Harness

structure RetrievalConfig where
  maxRecentEpisodeCandidates : Nat
  maxMemoryArtifactCandidates : Nat
  maxContextItems : Nat
  deriving DecidableEq, Repr

structure RetrievedEpisodeContext where
  episodeId : Uuid
  internalConversationRef : String
  startedAt : DateTime
  summary : String
  latestUserMessage : Option String
  latestAssistantMessage : Option String
  outcome : String
  relevanceReason : String
  deriving DecidableEq, Repr

structure RetrievedMemoryArtifactContext where
  memoryArtifactId : Uuid
  artifactKind : String
  subjectRef : String
  contentText : String
  validityStatus : ArtifactStatus
  relevanceReason : String
  deriving DecidableEq, Repr

inductive RetrievedContextItem
  | episode (context : RetrievedEpisodeContext)
  | memoryArtifact (context : RetrievedMemoryArtifactContext)
  deriving DecidableEq, Repr

structure RetrievedContext where
  items : List RetrievedContextItem
  deriving DecidableEq, Repr

/-! ## Documents for what has none -/

/-- The subquery for the text of the latest message of a role. -/
def latestText (episodeId : Uuid) (messageRole : String) (db : Database) : Option String :=
  (Table.first (fun left right => right.messageOrder < left.messageOrder)
    (db.episodeMessages.filter fun row =>
      row.episodeId = episodeId && row.messageRole = messageRole)).bind
    EpisodeMessageRecord.textBody

/-- A row of the scan for episodes. -/
structure ScannedEpisode where
  episodeId : Uuid
  internalConversationRef : String
  startedAt : DateTime
  summary : String
  userMessage : String
  assistantMessage : String
  deriving DecidableEq, Repr

/-- `Utc::now()`, so many times. -/
def readClock : Nat → Harness (List DateTime)
  | 0 => pure []
  | n + 1 => do
    let now ← utcNow
    let later ← readClock n
    pure (now :: later)

/-- What the scan returns of an episode. -/
def scannedRow (db : Database) (row : EpisodeRecord) : ScannedEpisode where
  episodeId := row.episodeId
  internalConversationRef := row.internalConversationRef
  startedAt := row.startedAt
  summary := row.summary.getD ""
  userMessage := (latestText row.episodeId "user" db).getD ""
  assistantMessage := (latestText row.episodeId "assistant" db).getD ""

/-- The rows of the scan for episodes. -/
def scannedEpisodes (internalConversationRef : String) (before : DateTime) (limit : Nat)
    (db : Database) : List ScannedEpisode :=
  (((db.episodes.filter fun row =>
    row.internalConversationRef = internalConversationRef && row.startedAt < before).insertionSort
      fun left right => right.startedAt ≤ left.startedAt).take limit).map (scannedRow db)

/-- `retrieval_artifact_exists_for_episode`. -/
def retrievalArtifactExistsForEpisode (episodeId : Uuid) : Harness Bool :=
  fetch "failed to check retrieval artifact existence for episode" fun db =>
    db.retrievalArtifacts.any fun row => row.sourceEpisodeId = some episodeId

/-- The lexical document of an episode. -/
def episodeDocument (row : ScannedEpisode) : String :=
  " ".intercalate ([row.summary, row.userMessage, row.assistantMessage].filter fun value =>
    !Text.isBlank value)

/-- The artifact that is made of an episode. -/
def episodeArtifact (tables : Text.Tables) (retrievalArtifactId : Uuid) (row : ScannedEpisode) :
    RetrievalArtifactRecord where
  retrievalArtifactId := retrievalArtifactId
  sourceKind := "episode"
  sourceEpisodeId := some row.episodeId
  sourceMemoryArtifactId := none
  internalConversationRef := some row.internalConversationRef
  lexicalDocument := episodeDocument row
  relevanceTimestamp := row.startedAt
  status := .active
  semanticDocument := some (buildSemanticDocument tables [episodeDocument row])

/-- One turn of the loop of `ensure_episode_retrieval_artifacts`. -/
def ensureEpisodeArtifact (tables : Text.Tables) (row : ScannedEpisode) : Harness Unit := do
  let present ← retrievalArtifactExistsForEpisode row.episodeId
  if present then pure ()
  else if Text.isBlank (episodeDocument row) then pure ()
  else
    let retrievalArtifactId ← newUuid
    Continuity.insertRetrievalArtifact (episodeArtifact tables retrievalArtifactId row)

/-- `ensure_episode_retrieval_artifacts`. -/
def ensureEpisodeRetrievalArtifacts (tables : Text.Tables) (internalConversationRef : String)
    (before : DateTime) (limit : Nat) : Harness Unit := do
  let rows ← fetch "failed to scan episodes for retrieval refresh"
    (scannedEpisodes internalConversationRef before limit)
  Prog.foldlM (fun _ row => ensureEpisodeArtifact tables row) () rows

/-- `ie.internal_conversation_ref`, where `ie` is joined by the ingress of the artifact. -/
def memoryConversation (db : Database) (row : MemoryArtifactRecord) : Option String :=
  row.sourceIngressId.bind fun ingressId =>
    (Table.find IngressEventRecord.ingressId ingressId db.ingressEvents).bind
      IngressEventRecord.internalConversationRef

/-- The rows of the scan for memories. -/
def scannedMemories (internalConversationRef : String) (limit : Nat) (db : Database) :
    List MemoryArtifactRecord :=
  ((db.memoryArtifacts.filter fun row =>
    row.status = .active && memoryConversation db row = some internalConversationRef).insertionSort
      fun left right => right.createdAt ≤ left.createdAt).take limit

/-- `retrieval_artifact_exists_for_memory`. -/
def retrievalArtifactExistsForMemory (memoryArtifactId : Uuid) : Harness Bool :=
  fetch "failed to check retrieval artifact existence for memory artifact" fun db =>
    db.retrievalArtifacts.any fun row => row.sourceMemoryArtifactId = some memoryArtifactId

/-- The artifact that is made of a memory. -/
def memoryArtifact (tables : Text.Tables) (internalConversationRef : String)
    (retrievalArtifactId : Uuid) (row : MemoryArtifactRecord) : RetrievalArtifactRecord where
  retrievalArtifactId := retrievalArtifactId
  sourceKind := "memory_artifact"
  sourceEpisodeId := none
  sourceMemoryArtifactId := some row.memoryArtifactId
  internalConversationRef := some internalConversationRef
  lexicalDocument := row.contentText
  relevanceTimestamp := row.validFrom.getD row.createdAt
  status := .active
  semanticDocument :=
    some (buildSemanticDocument tables [row.artifactKind, row.subjectRef, row.contentText])

/-- One turn of the loop of `ensure_memory_retrieval_artifacts`. -/
def ensureMemoryArtifact (tables : Text.Tables) (internalConversationRef : String)
    (row : MemoryArtifactRecord) : Harness Unit := do
  let present ← retrievalArtifactExistsForMemory row.memoryArtifactId
  if present then pure ()
  else
    let retrievalArtifactId ← newUuid
    Continuity.insertRetrievalArtifact
      (memoryArtifact tables internalConversationRef retrievalArtifactId row)

/-- `ensure_memory_retrieval_artifacts`. -/
def ensureMemoryRetrievalArtifacts (tables : Text.Tables) (internalConversationRef : String)
    (limit : Nat) : Harness Unit := do
  let rows ← fetch "failed to scan memory artifacts for retrieval refresh"
    (scannedMemories internalConversationRef limit)
  Prog.foldlM (fun _ row => ensureMemoryArtifact tables internalConversationRef row) () rows

/-! ## Candidates -/

/-- `ma.status = 'active'`, where `ma` is joined by the memory of the artifact. -/
def ofActiveMemory (db : Database) (row : RetrievalArtifactRecord) : Bool :=
  (row.sourceMemoryArtifactId.bind fun memoryArtifactId =>
    Table.find MemoryArtifactRecord.memoryArtifactId memoryArtifactId db.memoryArtifacts).any
      fun memory => memory.status = .active

/-- The condition of the query for candidates. -/
def isCandidate (internalConversationRef : String) (before : DateTime) (db : Database)
    (row : RetrievalArtifactRecord) : Bool :=
  row.status = .active && row.internalConversationRef = some internalConversationRef &&
    row.relevanceTimestamp < before &&
    ((row.sourceKind = "episode" && row.sourceEpisodeId.isSome) ||
      (row.sourceKind = "memory_artifact" && ofActiveMemory db row))

/-- `ORDER BY ra.relevance_timestamp DESC, ra.retrieval_artifact_id DESC`. -/
def fetchedBefore (left right : RetrievalArtifactRecord) : Prop :=
  right.relevanceTimestamp < left.relevanceTimestamp ∨
    right.relevanceTimestamp = left.relevanceTimestamp ∧
      right.retrievalArtifactId ≤ left.retrievalArtifactId

instance : DecidableRel fetchedBefore := fun left right =>
  inferInstanceAs (Decidable (right.relevanceTimestamp < left.relevanceTimestamp ∨
    right.relevanceTimestamp = left.relevanceTimestamp ∧
      right.retrievalArtifactId ≤ left.retrievalArtifactId))

/-- `fetch_retrieval_candidates`. -/
def fetchRetrievalCandidates (tables : Text.Tables) (internalConversationRef : String)
    (before : DateTime) : Harness (List RetrievalCandidate) :=
  fetch "failed to fetch retrieval candidates" fun db =>
    ((db.retrievalArtifacts.filter (isCandidate internalConversationRef before db)).insertionSort
      fetchedBefore).map (candidateOfRow tables)

/-! ## Selection -/

/-- What the loop of `select_candidates` has at hand. -/
structure Selection where
  selected : List ScoredCandidate := []
  episodeCount : Nat := 0
  memoryCount : Nat := 0

/-- The candidate, where the quota of its kind is not used up. -/
def Selection.push (config : RetrievalConfig) (selection : Selection)
    (candidate : ScoredCandidate) : Selection :=
  match candidate.sourceKind with
  | .episode =>
    if selection.episodeCount ≥ config.maxRecentEpisodeCandidates then selection
    else
      { selection with
        selected := selection.selected ++ [candidate]
        episodeCount := selection.episodeCount + 1 }
  | .memoryArtifact =>
    if selection.memoryCount ≥ config.maxMemoryArtifactCandidates then selection
    else
      { selection with
        selected := selection.selected ++ [candidate]
        memoryCount := selection.memoryCount + 1 }

/-- The loop of `select_candidates`. -/
def selectFrom (config : RetrievalConfig) : Selection → List ScoredCandidate → Selection
  | selection, [] => selection
  | selection, candidate :: candidates =>
    if selection.selected.length ≥ config.maxContextItems then selection
    else selectFrom config (selection.push config candidate) candidates

/-- `select_candidates`. -/
def selectCandidates (config : RetrievalConfig) (scored : List ScoredCandidate) :
    List ScoredCandidate :=
  (selectFrom config {} scored).selected

/-! ### The best of each kind -/

/-- How many candidates of a kind may be selected. -/
def RetrievalConfig.quota (config : RetrievalConfig) : RetrievalSourceKind → Nat
  | .episode => config.maxRecentEpisodeCandidates
  | .memoryArtifact => config.maxMemoryArtifactCandidates

/-- The candidates of a kind. -/
def ofKind (kind : RetrievalSourceKind) (candidates : List ScoredCandidate) :
    List ScoredCandidate :=
  candidates.filter fun candidate => candidate.sourceKind = kind

/-- The counter of a kind. -/
def Selection.count (selection : Selection) : RetrievalSourceKind → Nat
  | .episode => selection.episodeCount
  | .memoryArtifact => selection.memoryCount

section Selection

variable {config : RetrievalConfig} {selection : Selection} {candidate : ScoredCandidate}

theorem push_full (h : config.quota candidate.sourceKind ≤ selection.count candidate.sourceKind) :
    selection.push config candidate = selection := by
  unfold Selection.push
  cases hkind : candidate.sourceKind with
  | episode =>
    rw [hkind] at h
    exact if_pos h
  | memoryArtifact =>
    rw [hkind] at h
    exact if_pos h

/-- A candidate that is taken is counted with its kind. -/
theorem push_taken (h : selection.count candidate.sourceKind < config.quota candidate.sourceKind) :
    (selection.push config candidate).selected = selection.selected ++ [candidate] ∧
      ∀ kind, (selection.push config candidate).count kind =
        selection.count kind + if candidate.sourceKind = kind then 1 else 0 := by
  unfold Selection.push
  cases hkind : candidate.sourceKind with
  | episode =>
    rw [hkind] at h
    have hroom : ¬selection.episodeCount ≥ config.maxRecentEpisodeCandidates := Nat.not_le.mpr h
    rw [if_neg hroom]
    exact ⟨rfl, fun kind => by cases kind <;> rfl⟩
  | memoryArtifact =>
    rw [hkind] at h
    have hroom : ¬selection.memoryCount ≥ config.maxMemoryArtifactCandidates := Nat.not_le.mpr h
    rw [if_neg hroom]
    exact ⟨rfl, fun kind => by cases kind <;> rfl⟩

/-- The best candidates of each kind, in their order, where so many of a kind are left. -/
def bestOfKinds (left : RetrievalSourceKind → Nat) : List ScoredCandidate → List ScoredCandidate
  | [] => []
  | candidate :: candidates =>
    if 0 < left candidate.sourceKind then
      candidate :: bestOfKinds
        (fun kind => left kind - if candidate.sourceKind = kind then 1 else 0) candidates
    else bestOfKinds left candidates

theorem bestOfKinds_sublist (left : RetrievalSourceKind → Nat)
    (candidates : List ScoredCandidate) : (bestOfKinds left candidates).Sublist candidates := by
  induction candidates generalizing left with
  | nil => exact List.Sublist.refl _
  | cons candidate candidates ih =>
    unfold bestOfKinds
    split
    · exact (ih _).cons_cons candidate
    · exact (ih left).cons candidate

/-- Of each kind the first candidates are taken, up to the quota of the kind. -/
theorem ofKind_bestOfKinds (left : RetrievalSourceKind → Nat) (candidates : List ScoredCandidate)
    (kind : RetrievalSourceKind) :
    ofKind kind (bestOfKinds left candidates) = (ofKind kind candidates).take (left kind) := by
  induction candidates generalizing left with
  | nil => exact List.take_nil.symm
  | cons candidate candidates ih =>
    unfold bestOfKinds
    by_cases hkind : candidate.sourceKind = kind
    · have hcons : ∀ tail, ofKind kind (candidate :: tail) = candidate :: ofKind kind tail :=
        fun tail => List.filter_cons_of_pos (by simpa using hkind)
      rw [hcons]
      split
      · rename_i hleft
        rw [hkind] at hleft
        obtain ⟨n, hn⟩ := Nat.exists_eq_succ_of_ne_zero (Nat.pos_iff_ne_zero.mp hleft)
        rw [hcons, ih, if_pos hkind, hn]
        rfl
      · rename_i hleft
        rw [hkind] at hleft
        rw [ih, Nat.eq_zero_of_not_pos hleft]
        rfl
    · have hcons : ∀ tail, ofKind kind (candidate :: tail) = ofKind kind tail :=
        fun tail => List.filter_cons_of_neg (by simpa using hkind)
      rw [hcons]
      split
      · rw [hcons, ih, if_neg hkind]
        rfl
      · exact ih left

/-- The loop takes the best that the quotas leave, until the context is full: by induction on the
candidates, with what is left of the quotas. -/
theorem selectFrom_eq (scored : List ScoredCandidate) (selection : Selection) :
    (selectFrom config selection scored).selected = selection.selected ++
      (bestOfKinds (fun kind => config.quota kind - selection.count kind) scored).take
        (config.maxContextItems - selection.selected.length) := by
  induction scored generalizing selection with
  | nil => rw [selectFrom, bestOfKinds, List.take_nil, List.append_nil]
  | cons candidate scored ih =>
    unfold selectFrom bestOfKinds
    by_cases hfull : selection.selected.length ≥ config.maxContextItems
    · rw [if_pos hfull]
      rw [Nat.sub_eq_zero_of_le hfull]
      rw [List.take_zero, List.append_nil]
    · rw [if_neg hfull]
      rw [ih]
      by_cases hquota :
          selection.count candidate.sourceKind < config.quota candidate.sourceKind
      · obtain ⟨hselected, hcount⟩ := push_taken hquota
        rw [if_pos (Nat.sub_pos_of_lt hquota)]
        obtain ⟨n, hn⟩ := Nat.exists_eq_add_of_lt (Nat.not_le.mp hfull)
        have hroom : config.maxContextItems - selection.selected.length = n + 1 := by omega
        have hleft : config.maxContextItems - (selection.selected ++ [candidate]).length = n := by
          rw [List.length_append, List.length_singleton]
          omega
        rw [hselected, hroom, hleft]
        rw [List.take_succ_cons]
        rw [List.append_assoc, List.singleton_append]
        have hkinds : (fun kind => config.quota kind - (selection.push config candidate).count kind) =
            fun kind => config.quota kind - selection.count kind -
              if candidate.sourceKind = kind then 1 else 0 := by
          funext kind
          rw [hcount]
          rw [Nat.sub_add_eq]
        rw [hkinds]
      · rw [push_full (Nat.not_lt.mp hquota)]
        rw [if_neg (by omega)]

theorem selectCandidates_eq (config : RetrievalConfig) (scored : List ScoredCandidate) :
    selectCandidates config scored =
      (bestOfKinds config.quota scored).take config.maxContextItems := by
  have hloop : (selectFrom config {} scored).selected = _ := selectFrom_eq scored {}
  have hquota : (fun kind => config.quota kind - ({} : Selection).count kind) = config.quota := by
    funext kind
    cases kind <;> rfl
  rw [hquota] at hloop
  exact hloop

/-- What is selected: of each kind the best up to its quota, and of these together the best up to
the size of a context. -/
theorem selectCandidates_best (config : RetrievalConfig) (scored : List ScoredCandidate) :
    ∃ ranked : List ScoredCandidate, ranked.Sublist scored ∧
      (∀ kind, ofKind kind ranked = (ofKind kind scored).take (config.quota kind)) ∧
      selectCandidates config scored = ranked.take config.maxContextItems :=
  ⟨bestOfKinds config.quota scored, bestOfKinds_sublist _ _, ofKind_bestOfKinds _ _,
    selectCandidates_eq config scored⟩

end Selection

/-! ## Items -/

/-- `NULLIF(.., '')`. -/
def nullIfEmpty (value : Option String) : Option String := value.filter fun text => text ≠ ""

/-- What is loaded of an episode. -/
def episodeContext (relevanceReason : String) (db : Database) (row : EpisodeRecord) :
    RetrievedEpisodeContext where
  episodeId := row.episodeId
  internalConversationRef := row.internalConversationRef
  startedAt := row.startedAt
  summary := row.summary.getD ""
  latestUserMessage := nullIfEmpty (latestText row.episodeId "user" db)
  latestAssistantMessage := nullIfEmpty (latestText row.episodeId "assistant" db)
  outcome := row.outcome.getD row.status
  relevanceReason := relevanceReason

/-- `load_episode_context`. -/
def loadEpisodeContext (episodeId : Uuid) (relevanceReason : String) :
    Harness RetrievedEpisodeContext :=
  fetchOne "failed to load retrieved episode context" fun db =>
    (Table.find EpisodeRecord.episodeId episodeId db.episodes).map
      (episodeContext relevanceReason db)

/-- What is loaded of a memory. -/
def memoryContext (relevanceReason : String) (row : MemoryArtifactRecord) :
    RetrievedMemoryArtifactContext where
  memoryArtifactId := row.memoryArtifactId
  artifactKind := row.artifactKind
  subjectRef := row.subjectRef
  contentText := row.contentText
  validityStatus := row.status
  relevanceReason := relevanceReason

/-- `load_memory_context`. -/
def loadMemoryContext (memoryArtifactId : Uuid) (relevanceReason : String) :
    Harness RetrievedMemoryArtifactContext :=
  fetchOne "failed to load retrieved memory context" fun db =>
    (Table.find MemoryArtifactRecord.memoryArtifactId memoryArtifactId db.memoryArtifacts).map
      (memoryContext relevanceReason)

/-- One turn of the loop over the selected candidates. -/
def loadItem (items : List RetrievedContextItem) (candidate : ScoredCandidate) :
    Harness (List RetrievedContextItem) :=
  match candidate.sourceKind with
  | .episode =>
    match candidate.sourceEpisodeId with
    | none => pure items
    | some episodeId => do
      let context ← loadEpisodeContext episodeId candidate.relevanceReason
      pure (items ++ [.episode context])
  | .memoryArtifact =>
    match candidate.sourceMemoryArtifactId with
    | none => pure items
    | some memoryArtifactId => do
      let context ← loadMemoryContext memoryArtifactId candidate.relevanceReason
      pure (items ++ [.memoryArtifact context])

/-- `RETRIEVAL_REFRESH_SCAN_MULTIPLIER`. -/
def retrievalRefreshScanMultiplier : Nat := 4

/-- `assemble_retrieved_context`. -/
def assembleRetrievedContext (tables : Text.Tables) (config : RetrievalConfig)
    (trigger : ForegroundTrigger) : Harness RetrievedContext := do
  let internalConversationRef := trigger.ingress.internalConversationRef
  let scanLimit := config.maxContextItems * retrievalRefreshScanMultiplier
  ensureEpisodeRetrievalArtifacts tables internalConversationRef trigger.receivedAt
    (max scanLimit 1)
  ensureMemoryRetrievalArtifacts tables internalConversationRef (max scanLimit 1)
  let candidates ← fetchRetrievalCandidates tables internalConversationRef trigger.receivedAt
  let readings ← readClock candidates.length
  let scored := scoreCandidates tables (fun i => readings.getD i 0) candidates
    (trigger.ingress.textBody.getD "") internalConversationRef
  let items ← Prog.foldlM loadItem [] (selectCandidates config scored)
  pure { items := items }

end BlueLagoon.Retrieval
