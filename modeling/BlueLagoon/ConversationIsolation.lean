import BlueLagoon.RetrievalUpdates
import BlueLagoon.RetrievedContext
import Mathlib.Logic.Relation

/-!
# Conversations are kept apart

A document is found by its own conversation, but what is loaded is the episode it was made
from. The two stay in agreement, and no episode has two documents, as long as every upsert names
the conversation of the episode it is anchored in and replaces the document of that episode.
-/

namespace BlueLagoon.Retrieval

open Interleaving Harness

/-! ## The invariant -/

/-- The episode that a document brings into a context, if any. -/
def servedEpisode (row : RetrievalArtifactRecord) : Option Uuid :=
  if row.status = .active ∧ row.sourceKind = "episode" then row.sourceEpisodeId else none

/-- The episode is one of the conversation. -/
def EpisodeOf (internalConversationRef : Option String) (episodes : List EpisodeRecord)
    (episodeId : Uuid) : Prop :=
  ∃ episode ∈ episodes, episode.episodeId = episodeId ∧
    internalConversationRef = some episode.internalConversationRef

/-- Every document that is served stands in the conversation of its episode, and no two stand for
one episode. -/
structure Isolated (episodes : List EpisodeRecord) (rows : List RetrievalArtifactRecord) :
    Prop where
  keyed : (episodes.map EpisodeRecord.episodeId).Nodup
  anchored : ∀ row ∈ rows, ∀ episodeId, servedEpisode row = some episodeId →
    EpisodeOf row.internalConversationRef episodes episodeId
  distinct : (rows.filterMap servedEpisode).Nodup

section Rows

variable {episodes : List EpisodeRecord} {rows : List RetrievalArtifactRecord}
  {row : RetrievalArtifactRecord} {update : RetrievalUpdateProposal}

theorem servedEpisode_eq_some {episodeId : Uuid} : servedEpisode row = some episodeId ↔
    row.status = .active ∧ row.sourceKind = "episode" ∧ row.sourceEpisodeId = some episodeId := by
  unfold servedEpisode
  split
  · rename_i hserved
    exact ⟨fun h => ⟨hserved.1, hserved.2, h⟩, fun h => h.2.2⟩
  · rename_i hserved
    exact ⟨fun h => (nomatch h), fun h => absurd ⟨h.1, h.2.1⟩ hserved⟩

/-- An archived document serves nothing. -/
theorem servedEpisode_archived :
    servedEpisode { row with status := .archived } = none := if_neg (by simp)

/-- Archiving takes episodes away, and moves none. -/
theorem served_archived_sublist (update : RetrievalUpdateProposal)
    (rows : List RetrievalArtifactRecord) :
    ((archived update rows).filterMap servedEpisode).Sublist (rows.filterMap servedEpisode) := by
  induction rows with
  | nil => exact List.Sublist.refl _
  | cons row rows ih =>
    unfold archived Continuity.archivedBySourceRef Table.update at ih ⊢
    rw [List.map_cons]
    split
    · rw [List.filterMap_cons_none servedEpisode_archived]
      cases hserved : servedEpisode row with
      | none => rwa [List.filterMap_cons_none hserved]
      | some episodeId =>
        rw [List.filterMap_cons_some hserved]
        exact ih.cons episodeId
    · cases hserved : servedEpisode row with
      | none =>
        rw [List.filterMap_cons_none hserved]
        rwa [List.filterMap_cons_none hserved]
      | some episodeId =>
        rw [List.filterMap_cons_some hserved]
        rw [List.filterMap_cons_some hserved]
        exact ih.cons_cons episodeId

/-- A document that still serves its episode was not archived. -/
theorem mem_of_served_archived {episodeId : Uuid} (hmem : row ∈ archived update rows)
    (hserved : servedEpisode row = some episodeId) : row ∈ rows := by
  unfold archived Continuity.archivedBySourceRef at hmem
  rcases Table.mem_update.mp hmem with ⟨kept, -⟩ | ⟨row', -, -, rfl⟩
  · exact kept
  · rw [servedEpisode_archived] at hserved
    cases hserved

theorem Isolated.archived (h : Isolated episodes rows) (update : RetrievalUpdateProposal) :
    Isolated episodes (archived update rows) where
  keyed := h.keyed
  anchored := fun row hrow episodeId hserved =>
    h.anchored row (mem_of_served_archived hrow hserved) episodeId hserved
  distinct := h.distinct.sublist (served_archived_sublist update rows)

/-- A new document serves an episode of its conversation that was not served, or none. -/
theorem Isolated.insert (h : Isolated episodes rows)
    (hanchored : ∀ episodeId, servedEpisode row = some episodeId →
      EpisodeOf row.internalConversationRef episodes episodeId)
    (hfresh : ∀ episodeId, servedEpisode row = some episodeId →
      ∀ other ∈ rows, servedEpisode other ≠ some episodeId) :
    Isolated episodes (rows ++ [row]) where
  keyed := h.keyed
  anchored := by
    intro other hother
    rcases List.mem_append.mp hother with hmem | hmem
    · exact h.anchored other hmem
    · obtain rfl := List.mem_singleton.mp hmem
      exact hanchored
  distinct := by
    rw [List.filterMap_append]
    cases hserved : servedEpisode row with
    | none =>
      rw [List.filterMap_cons_none hserved]
      rw [List.filterMap_nil, List.append_nil]
      exact h.distinct
    | some episodeId =>
      rw [List.filterMap_cons_some hserved]
      rw [List.filterMap_nil]
      refine List.nodup_append.mpr ⟨h.distinct, List.nodup_singleton _, ?_⟩
      intro served hmem other hother heq
      obtain ⟨earlier, hearlier, hof⟩ := List.mem_filterMap.mp hmem
      rw [heq, List.mem_singleton.mp hother] at hof
      exact hfresh episodeId hserved earlier hearlier hof

end Rows

/-! ## Updates -/

/-- What an upsert has to name: the conversation of the episode it is anchored in, and the
source of the documents that stand for the episode. -/
def Anchored (context : RetrievalUpdateApplicationContext) (db : Database)
    (update : RetrievalUpdateProposal) (rows : List RetrievalArtifactRecord) : Prop :=
  update.operation = .upsert → ∀ sourceEpisodeId,
    context.episodeIds.head? = some sourceEpisodeId →
      EpisodeOf update.internalConversationRef db.episodes sourceEpisodeId ∧
        ∀ row ∈ archived update rows, servedEpisode row ≠ some sourceEpisodeId

/-- Every update of the list does, as far as the list gets. -/
def AnchoredFrom (context : RetrievalUpdateApplicationContext) (db : Database) :
    List RetrievalUpdateProposal → List RetrievalArtifactRecord → Prop
  | [], _ => True
  | update :: updates, rows =>
    validateRetrievalUpdate update = .ok () → Completes context db update rows →
      Anchored context db update rows ∧
        AnchoredFrom context db updates (applied context update rows)

section Updates

variable {answers : Answers system} {context : RetrievalUpdateApplicationContext}
  {update : RetrievalUpdateProposal} {w : World} {es : List Event} {db : Database}
  {rows : List RetrievalArtifactRecord}

/-- The invariant of the stored tables. -/
abbrev Serving (w : World) : Prop := Isolated w.db.episodes w.db.retrievalArtifacts

/-- A document goes in, or nothing changes. -/
theorem insertRetrievalArtifact_alone {artifact : RetrievalArtifactRecord}
    {Q : Except ErrorChain Unit → World → List Event → Prop}
    (ok : w.db.retrievalArtifactViolation artifact = none → ∀ es, Q (.ok ()) { w with
      db := { w.db with retrievalArtifacts := w.db.retrievalArtifacts ++ [artifact] } } es)
    (failed : ∀ e, Q (.error e) w es) :
    (Continuity.insertRetrievalArtifact artifact).Alone answers Q w es := by
  refine alone_execute (fun now effect hbody => ?_) (fun _ _ _ => failed _) fun e _ => failed e
  cases hviolation : w.db.retrievalArtifactViolation artifact with
  | some constraint =>
    rw [hviolation] at hbody
    cases hbody
  | none =>
    rw [hviolation] at hbody
    obtain rfl := Except.ok.inj hbody
    exact ok hviolation _

theorem archiveBySourceRef_keeps {Q : Except ErrorChain Nat → World → List Event → Prop}
    (ok : ∀ n es, Q (.ok n) { w with
      db := { w.db with retrievalArtifacts := archived update w.db.retrievalArtifacts } } es)
    (failed : ∀ e, Q (.error e) w es) :
    (Continuity.archiveRetrievalArtifactsBySourceRef update.sourceRef
      update.internalConversationRef).Alone answers Q w es := by
  refine alone_execute (fun now effect hbody => ?_) (fun _ _ _ => failed _) fun e _ => failed e
  obtain rfl := Except.ok.inj hbody
  exact ok _ _

/-- An update that goes through leaves the documents as they are to be, and any update leaves
the conversations apart. -/
structure UpdateEnds (context : RetrievalUpdateApplicationContext) (db : Database)
    (update : RetrievalUpdateProposal) (rows : List RetrievalArtifactRecord)
    (r : Except ErrorChain RetrievalUpdateApplicationSummary) (w : World) : Prop where
  serving : Serving w
  done : ∀ summary, r = .ok summary →
    Completes context db update rows ∧ Reached db (applied context update rows) w

/-- The audit event leaves the documents as they are. -/
theorem audited_ends {event : NewAuditEvent} {summary : RetrievalUpdateApplicationSummary}
    (hw : Reached db (applied context update rows) w)
    (hcompletes : Completes context db update rows) (hserving : Serving w) :
    ((Audit.insert event).bind fun _ => .ret summary).Alone answers
      (fun r w _ => UpdateEnds context db update rows r w) w es := by
  obtain ⟨auditEvents, hdb⟩ := hw
  refine Prog.Alone.bind (R := fun _ w' _ => ∃ auditEvents, w'.db = { w.db with
    auditEvents := auditEvents }) (Audit.insert_alone (fun _ _ events => ⟨events, rfl⟩)
    fun _ _ _ => ⟨w.db.auditEvents, rfl⟩) ?_ ?_
  · rintro _ w' es' ⟨events, hw'⟩
    refine ⟨?_, fun _ _ => ⟨hcompletes, events, ?_⟩⟩
    · unfold Serving
      rw [hw']
      exact hserving
    · rw [hw']
      rw [hdb]
  · rintro e w' es' ⟨events, hw'⟩
    refine ⟨?_, fun _ hr => nomatch hr⟩
    unfold Serving
    rw [hw']
    exact hserving

theorem Reached.archiving (hw : Reached db rows w) : Reached db (archived update rows) { w with
    db := { w.db with retrievalArtifacts := archived update w.db.retrievalArtifacts } } := by
  obtain ⟨auditEvents, hdb⟩ := hw
  refine ⟨auditEvents, ?_⟩
  show { w.db with retrievalArtifacts := archived update w.db.retrievalArtifacts } = _
  rw [hdb]

theorem Reached.inserting (hw : Reached db rows w) (row : RetrievalArtifactRecord) :
    Reached db (rows ++ [row]) { w with
      db := { w.db with retrievalArtifacts := w.db.retrievalArtifacts ++ [row] } } := by
  obtain ⟨auditEvents, hdb⟩ := hw
  refine ⟨auditEvents, ?_⟩
  show { w.db with retrievalArtifacts := w.db.retrievalArtifacts ++ [row] } = _
  rw [hdb]

theorem Reached.violation (hw : Reached db rows w) (row : RetrievalArtifactRecord) :
    w.db.retrievalArtifactViolation row =
      { db with retrievalArtifacts := rows }.retrievalArtifactViolation row := by
  obtain ⟨auditEvents, hdb⟩ := hw
  rw [hdb]
  rfl

theorem applyArchive_ends (hop : update.operation = .archive)
    {summary : RetrievalUpdateApplicationSummary} (hw : Reached db rows w) (hserving : Serving w) :
    (applyArchive context update summary).Alone answers
      (fun r w _ => UpdateEnds context db update rows r w) w es := by
  have happlied : applied context update rows = archived update rows := by
    unfold applied
    rw [hop]
  have hcompletes : Completes context db update rows := by
    intro hupsert
    rw [hop] at hupsert
    cases hupsert
  unfold applyArchive
  refine Prog.Alone.bind (R := fun r w' _ => Serving w' ∧
    ∀ n, r = .ok n → Reached db (archived update rows) w') (archiveBySourceRef_keeps
    (fun n _ => ⟨hserving.archived update, fun _ _ => hw.archiving⟩)
    fun _ => ⟨hserving, fun _ hr => nomatch hr⟩) ?_ ?_
  · rintro n w' es' ⟨hserving', hreached⟩
    refine audited_ends ?_ hcompletes hserving'
    rw [happlied]
    exact hreached n rfl
  · rintro e w' es' ⟨hserving', -⟩
    exact ⟨hserving', fun _ hr => nomatch hr⟩

/-- An upsert whose anchor is of its conversation keeps the conversations apart, wherever it fails.
-/
theorem applyUpsert_ends (hop : update.operation = .upsert)
    {summary : RetrievalUpdateApplicationSummary} (hw : Reached db rows w) (hserving : Serving w)
    (hanchored : Completes context db update rows → Anchored context db update rows) :
    (applyUpsert context update summary).Alone answers
      (fun r w _ => UpdateEnds context db update rows r w) w es := by
  unfold applyUpsert
  refine Prog.Alone.bind (R := fun r w' _ => Serving w' ∧ w'.db.episodes = w.db.episodes ∧
    ∀ n, r = .ok n → Reached db (archived update rows) w') (archiveBySourceRef_keeps
    (fun n _ => ⟨hserving.archived update, rfl, fun _ _ => hw.archiving⟩)
    fun _ => ⟨hserving, rfl, fun _ hr => nomatch hr⟩) ?_ ?_
  · rintro n w' es' ⟨hserving', -, hreached⟩
    cases hanchor : context.episodeIds.head? with
    | none => exact ⟨hserving', fun _ hr => nomatch hr⟩
    | some sourceEpisodeId =>
      have happlied : applied context update rows =
          archived update rows ++ [upsertedArtifact update sourceEpisodeId] := by
        unfold applied
        rw [hop]
        rw [hanchor]
        rfl
      have hw' := hreached n rfl
      show ((Continuity.insertRetrievalArtifact (upsertedArtifact update sourceEpisodeId)).bind
        _).Alone _ _ w' es'
      refine Prog.Alone.bind (R := fun r w'' _ => Serving w'' ∧
        (r = .ok () → Completes context db update rows ∧
          Reached db (applied context update rows) w''))
        (insertRetrievalArtifact_alone (fun hvalid _ => ⟨?_, fun _ => ⟨?_, ?_⟩⟩)
          fun _ => ⟨hserving', fun hr => nomatch hr⟩) ?_ ?_
      · rw [hw'.violation] at hvalid
        have hepisodes : w'.db.episodes = db.episodes := by
          obtain ⟨auditEvents, hdb⟩ := hw'
          rw [hdb]
        have hrows : w'.db.retrievalArtifacts = archived update rows := by
          obtain ⟨auditEvents, hdb⟩ := hw'
          rw [hdb]
        obtain ⟨hof, hfresh⟩ :=
          hanchored (fun _ => ⟨sourceEpisodeId, hanchor, hvalid⟩) hop sourceEpisodeId hanchor
        refine Isolated.insert hserving' ?_ ?_
        · intro episodeId hserved
          obtain ⟨-, -, hsource⟩ := servedEpisode_eq_some.mp hserved
          obtain rfl := Option.some.inj hsource
          show EpisodeOf update.internalConversationRef w'.db.episodes _
          rw [hepisodes]
          exact hof
        · intro episodeId hserved other hother
          obtain ⟨-, -, hsource⟩ := servedEpisode_eq_some.mp hserved
          obtain rfl := Option.some.inj hsource
          rw [hrows] at hother
          exact hfresh other hother
      · rw [hw'.violation] at hvalid
        exact fun _ => ⟨sourceEpisodeId, hanchor, hvalid⟩
      · rw [happlied]
        exact hw'.inserting _
      · rintro ⟨⟩ w'' es'' ⟨hserving'', hreached''⟩
        exact audited_ends (hreached'' rfl).2 (hreached'' rfl).1 hserving''
      · rintro e w'' es'' ⟨hserving'', -⟩
        exact ⟨hserving'', fun _ hr => nomatch hr⟩
  · rintro e w' es' ⟨hserving', -, -⟩
    exact ⟨hserving', fun _ hr => nomatch hr⟩

/-- One turn of the loop. -/
theorem applyRetrievalUpdate_ends {summary : RetrievalUpdateApplicationSummary}
    (hvalid : validateRetrievalUpdate update = .ok ()) (hw : Reached db rows w)
    (hserving : Serving w)
    (hanchored : Completes context db update rows → Anchored context db update rows) :
    (applyRetrievalUpdate context summary update).Alone answers
      (fun r w _ => UpdateEnds context db update rows r w) w es := by
  unfold applyRetrievalUpdate
  rw [hvalid]
  rw [Prog.ofExcept_ok]
  rw [Prog.bind_eq]
  rw [Prog.ret_bind]
  cases hop : update.operation with
  | archive =>
    refine (applyArchive_ends hop hw hserving).bind ?_ ?_
    · exact fun applied w' es' h => ⟨h.serving, fun _ _ => h.done applied rfl⟩
    · exact fun e w' es' h => ⟨h.serving, fun _ hr => (nomatch hr)⟩
  | upsert =>
    refine (applyUpsert_ends hop hw hserving hanchored).bind ?_ ?_
    · exact fun applied w' es' h => ⟨h.serving, fun _ _ => h.done applied rfl⟩
    · exact fun e w' es' h => ⟨h.serving, fun _ hr => (nomatch hr)⟩

/-- A call keeps the conversations apart, by induction on its updates. -/
theorem foldlM_serving (updates : List RetrievalUpdateProposal)
    (rows : List RetrievalArtifactRecord) (w : World) (es : List Event)
    (summary : RetrievalUpdateApplicationSummary) (hw : Reached db rows w) (hserving : Serving w)
    (hanchored : AnchoredFrom context db updates rows) :
    (Prog.foldlM (applyRetrievalUpdate context) summary updates).Alone answers
      (fun _ w _ => Serving w) w es := by
  induction updates generalizing rows w es summary with
  | nil => exact hserving
  | cons update updates ih =>
    show ((applyRetrievalUpdate context summary update).bind _).Alone _ _ w es
    cases hvalid : validateRetrievalUpdate update with
    | error e =>
      have hfails : applyRetrievalUpdate context summary update = .fail e := by
        unfold applyRetrievalUpdate
        rw [hvalid]
        rfl
      rw [hfails]
      exact hserving
    | ok checked =>
      refine (applyRetrievalUpdate_ends hvalid hw hserving fun h => (hanchored hvalid h).1).bind
        ?_ ?_
      · rintro summary' w' es' ⟨hserving', hdone⟩
        obtain ⟨hcompletes, hreached⟩ := hdone summary' rfl
        exact ih _ _ _ _ hreached hserving' (hanchored hvalid hcompletes).2
      · rintro e w' es' ⟨hserving', -⟩
        exact hserving'

end Updates

/-! ## Retrieval -/

section Assembly

variable {answers : Answers system} {tables : Text.Tables} {config : RetrievalConfig}
  {episodes : List EpisodeRecord} {w : World} {es : List Event} {internalConversationRef : String}

/-- The invariant, while the episodes stay as they are. -/
structure Kept (episodes : List EpisodeRecord) (w : World) : Prop where
  same : w.db.episodes = episodes
  isolated : Isolated episodes w.db.retrievalArtifacts

theorem Kept.serving (h : Kept episodes w) : Serving w := by
  unfold Serving
  rw [h.same]
  exact h.isolated

theorem mem_scannedEpisodes {before : DateTime} {limit : Nat} {db : Database}
    {row : ScannedEpisode} (h : row ∈ scannedEpisodes internalConversationRef before limit db) :
    EpisodeOf (some row.internalConversationRef) db.episodes row.episodeId := by
  obtain ⟨episode, hmem, rfl⟩ := List.mem_map.mp h
  have hscanned := (List.mem_insertionSort _).mp (List.mem_of_mem_take hmem)
  exact ⟨episode, (List.mem_filter.mp hscanned).1, rfl, rfl⟩

/-- A document goes in that serves an episode of its conversation for the first time, or none. -/
theorem insertRetrievalArtifact_kept {artifact : RetrievalArtifactRecord} (h : Kept episodes w)
    (hanchored : ∀ episodeId, servedEpisode artifact = some episodeId →
      EpisodeOf artifact.internalConversationRef episodes episodeId)
    (hfresh : ∀ episodeId, servedEpisode artifact = some episodeId →
      ∀ other ∈ w.db.retrievalArtifacts, servedEpisode other ≠ some episodeId) :
    (Continuity.insertRetrievalArtifact artifact).Alone answers (fun _ w _ => Kept episodes w)
      w es :=
  insertRetrievalArtifact_alone (fun _ _ => ⟨h.same, h.isolated.insert hanchored hfresh⟩) fun _ => h

/-- A document is only added for an episode that none serves yet, in the episode's own conversation.
-/
theorem ensureEpisodeArtifact_kept {row : ScannedEpisode} (h : Kept episodes w)
    (hrow : EpisodeOf (some row.internalConversationRef) episodes row.episodeId) :
    (ensureEpisodeArtifact tables row).Alone answers (fun _ w _ => Kept episodes w) w es := by
  unfold ensureEpisodeArtifact
  refine Prog.Alone.bind (R := fun r w' _ => w' = w ∧ ∀ present, r = .ok present →
    present = w.db.retrievalArtifacts.any fun other => other.sourceEpisodeId = some row.episodeId)
    (alone_fetch ⟨rfl, fun _ hr => (Except.ok.inj hr).symm⟩
      fun _ _ => ⟨rfl, fun _ hr => (nomatch hr)⟩) ?_ ?_
  · rintro present w' es' ⟨rfl, hpresent⟩
    split
    · exact h
    · rename_i habsent
      split
      · exact h
      · refine Prog.Alone.bind (R := fun _ w'' _ => w''.db = w'.db)
          (alone_newUuid fun _ _ => rfl) ?_ ?_
        · intro retrievalArtifactId w'' es'' hdb
          have hkept : Kept episodes w'' := by
            refine ⟨?_, ?_⟩
            · rw [hdb]
              exact h.same
            · rw [hdb]
              exact h.isolated
          refine insertRetrievalArtifact_kept hkept ?_ ?_
          · intro episodeId hserved
            obtain ⟨-, -, hsource⟩ := servedEpisode_eq_some.mp hserved
            obtain rfl := Option.some.inj hsource
            exact hrow
          · intro episodeId hserved other hother hclash
            obtain ⟨-, -, hsource⟩ := servedEpisode_eq_some.mp hserved
            obtain rfl := Option.some.inj hsource
            rw [hdb] at hother
            refine habsent ?_
            rw [hpresent present rfl]
            refine List.any_eq_true.mpr ⟨other, hother, decide_eq_true ?_⟩
            exact (servedEpisode_eq_some.mp hclash).2.2
        · intro e w'' es'' hdb
          refine ⟨?_, ?_⟩
          · rw [hdb]
            exact h.same
          · rw [hdb]
            exact h.isolated
  · rintro e w' es' ⟨rfl, -⟩
    exact h

theorem ensureEpisodeRetrievalArtifacts_kept {before : DateTime} {limit : Nat}
    (h : Kept episodes w) :
    (ensureEpisodeRetrievalArtifacts tables internalConversationRef before limit).Alone answers
      (fun _ w _ => Kept episodes w) w es := by
  unfold ensureEpisodeRetrievalArtifacts
  refine Prog.Alone.bind (R := fun r w' _ => Kept episodes w' ∧ ∀ rows, r = .ok rows →
    ∀ row ∈ rows, EpisodeOf (some row.internalConversationRef) episodes row.episodeId)
    (alone_fetch ⟨h, ?_⟩ fun _ _ => ⟨h, fun _ hr => (nomatch hr)⟩) ?_ fun e w' es' hkept => hkept.1
  · intro rows hrows row hrow
    obtain rfl := Except.ok.inj hrows
    have hscanned := mem_scannedEpisodes hrow
    rwa [h.same] at hscanned
  · rintro rows w' es' ⟨hkept, hrows⟩
    refine Prog.Alone.mono (Prog.alone_foldlM (J := fun _ rest w _ => Kept episodes w ∧
      ∀ row ∈ rest, EpisodeOf (some row.internalConversationRef) episodes row.episodeId)
      (E := fun _ w _ => Kept episodes w) ?_ rows () w' es' ⟨hkept, hrows rows rfl⟩) ?_
    · rintro _ row rest w'' es'' ⟨hkept'', hrest⟩
      refine (ensureEpisodeArtifact_kept hkept'' (hrest row List.mem_cons_self)).mono ?_
      rintro (e | _) w₁ es₁ h₁
      · exact h₁
      · exact ⟨h₁, fun other hother => hrest other (List.mem_cons_of_mem _ hother)⟩
    · rintro (e | _) w'' es'' hend
      · exact hend
      · exact hend.1

/-- The document of a memory serves no episode. -/
theorem servedEpisode_memoryArtifact (retrievalArtifactId : Uuid) (row : MemoryArtifactRecord) :
    servedEpisode (memoryArtifact tables internalConversationRef retrievalArtifactId row) = none :=
  if_neg fun h => absurd h.2 (by decide : ¬"memory_artifact" = "episode")

theorem ensureMemoryArtifact_kept {row : MemoryArtifactRecord} (h : Kept episodes w) :
    (ensureMemoryArtifact tables internalConversationRef row).Alone answers
      (fun _ w _ => Kept episodes w) w es := by
  unfold ensureMemoryArtifact
  refine Prog.Alone.bind (R := fun _ w' _ => Kept episodes w')
    (alone_fetch h fun _ _ => h) ?_ fun e w' es' hkept => hkept
  intro present w' es' hkept
  split
  · exact hkept
  · refine Prog.Alone.bind (R := fun _ w'' _ => Kept episodes w'')
      (alone_newUuid fun _ _ => ⟨hkept.same, hkept.isolated⟩) ?_ fun e w'' es'' hkept'' => hkept''
    intro retrievalArtifactId w'' es'' hkept''
    refine insertRetrievalArtifact_kept hkept'' ?_ ?_
    · intro episodeId hserved
      rw [servedEpisode_memoryArtifact] at hserved
      cases hserved
    · intro episodeId hserved
      rw [servedEpisode_memoryArtifact] at hserved
      cases hserved

theorem ensureMemoryRetrievalArtifacts_kept {limit : Nat} (h : Kept episodes w) :
    (ensureMemoryRetrievalArtifacts tables internalConversationRef limit).Alone answers
      (fun _ w _ => Kept episodes w) w es := by
  unfold ensureMemoryRetrievalArtifacts
  refine Prog.Alone.bind (R := fun _ w' _ => Kept episodes w')
    (alone_fetch h fun _ _ => h) ?_ fun e w' es' hkept => hkept
  intro rows w' es' hkept
  refine Prog.Alone.mono (Prog.alone_foldlM (J := fun _ _ w _ => Kept episodes w)
    (E := fun _ w _ => Kept episodes w) ?_ rows () w' es' hkept) ?_
  · intro _ row rest w'' es'' hkept''
    refine (ensureMemoryArtifact_kept hkept'').mono ?_
    rintro (e | _) w₁ es₁ h₁
    · exact h₁
    · exact h₁
  · rintro (e | _) w'' es'' hend
    · exact hend
    · exact hend

/-- The episode that a candidate stands for. -/
def scoredEpisode (candidate : ScoredCandidate) : Option Uuid :=
  match candidate.sourceKind with
  | .episode => candidate.sourceEpisodeId
  | .memoryArtifact => none

/-- The candidates stand for different episodes, all of the conversation. -/
structure Apart (internalConversationRef : String) (episodes : List EpisodeRecord)
    (candidates : List ScoredCandidate) : Prop where
  own : ∀ candidate ∈ candidates, ∀ episodeId, scoredEpisode candidate = some episodeId →
    EpisodeOf (some internalConversationRef) episodes episodeId
  distinct : (candidates.filterMap scoredEpisode).Nodup

theorem Apart.sublist {candidates chosen : List ScoredCandidate}
    (h : Apart internalConversationRef episodes candidates) (hchosen : chosen.Sublist candidates) :
    Apart internalConversationRef episodes chosen where
  own := fun candidate hmem => h.own candidate (hchosen.subset hmem)
  distinct := h.distinct.sublist (hchosen.filterMap scoredEpisode)

theorem Apart.perm {candidates others : List ScoredCandidate}
    (h : Apart internalConversationRef episodes candidates) (hperm : others.Perm candidates) :
    Apart internalConversationRef episodes others where
  own := fun candidate hmem => h.own candidate (hperm.subset hmem)
  distinct := (hperm.filterMap scoredEpisode).nodup_iff.mpr h.distinct

/-- Scoring does not change what a candidate stands for. -/
theorem scoredEpisode_scoreCandidate {triggerText : String} {now : DateTime}
    {row : RetrievalArtifactRecord} (hactive : row.status = .active) :
    scoredEpisode (scoreCandidate tables triggerText internalConversationRef now
      (candidateOfRow tables row)) = servedEpisode row := by
  unfold scoredEpisode servedEpisode scoreCandidate candidateOfRow
  by_cases hkind : row.sourceKind = "episode"
  · simp [hkind, hactive]
  · simp [hkind]

/-- The clock does not matter for what the scored candidates stand for. -/
theorem filterMap_scored {rows : List RetrievalArtifactRecord} {triggerText : String}
    {clock : Nat → DateTime} (hactive : ∀ row ∈ rows, row.status = .active) :
    (((rows.map (candidateOfRow tables)).mapIdx fun i candidate => scoreCandidate tables
      triggerText internalConversationRef (clock i) candidate).filterMap scoredEpisode) =
      rows.filterMap servedEpisode := by
  induction rows generalizing clock with
  | nil => rfl
  | cons row rows ih =>
    rw [List.map_cons, List.mapIdx_cons]
    rw [List.filterMap_cons, List.filterMap_cons]
    rw [scoredEpisode_scoreCandidate (hactive row List.mem_cons_self)]
    rw [ih fun other hother => hactive other (List.mem_cons_of_mem _ hother)]

/-- What is fetched for a conversation and scored is apart. -/
theorem apart_scoreCandidates {before : DateTime} {db : Database} {clock : Nat → DateTime}
    {triggerText : String} (h : Isolated db.episodes db.retrievalArtifacts) :
    Apart internalConversationRef db.episodes (scoreCandidates tables clock
      (((db.retrievalArtifacts.filter (isCandidate internalConversationRef before db)).insertionSort
        fetchedBefore).map (candidateOfRow tables)) triggerText internalConversationRef) := by
  have hactive : ∀ row ∈ (db.retrievalArtifacts.filter (isCandidate internalConversationRef before
      db)).insertionSort fetchedBefore, row ∈ db.retrievalArtifacts ∧ row.status = .active ∧
        row.internalConversationRef = some internalConversationRef := by
    intro row hrow
    obtain ⟨hmem, hcandidate⟩ := List.mem_filter.mp ((List.mem_insertionSort _).mp hrow)
    simp only [isCandidate, Bool.and_eq_true, decide_eq_true_eq] at hcandidate
    exact ⟨hmem, hcandidate.1.1.1, hcandidate.1.1.2⟩
  unfold scoreCandidates
  refine Apart.perm ?_ (List.perm_insertionSort _ _)
  constructor
  · intro candidate hcandidate episodeId hscored
    obtain ⟨i, hi, rfl⟩ := List.mem_mapIdx.mp hcandidate
    rw [List.length_map] at hi
    obtain ⟨hmem, hstatus, hown⟩ := hactive _ (List.getElem_mem hi)
    rw [List.getElem_map, scoredEpisode_scoreCandidate hstatus] at hscored
    have hof := h.anchored _ hmem episodeId hscored
    rwa [hown] at hof
  · rw [filterMap_scored fun row hrow => (hactive row hrow).2.1]
    refine ((List.perm_insertionSort _ _).filterMap _).nodup_iff.mpr ?_
    exact h.distinct.sublist (List.filter_sublist.filterMap _)

/-- The episodes among the items of a context. -/
def episodesOf (items : List RetrievedContextItem) : List RetrievedEpisodeContext :=
  items.filterMap fun item =>
    match item with
    | .episode context => some context
    | .memoryArtifact _ => none

/-- A context for the conversation: every episode of it is one of the conversation, and none comes
twice. -/
structure KeptApart (internalConversationRef : String) (items : List RetrievedContextItem) :
    Prop where
  own : ∀ episode ∈ episodesOf items, episode.internalConversationRef = internalConversationRef
  distinct : ((episodesOf items).map RetrievedEpisodeContext.episodeId).Nodup

/-- The loop that loads the items: what is loaded and what is still to be loaded is apart. -/
structure Loading (internalConversationRef : String) (episodes : List EpisodeRecord)
    (items : List RetrievedContextItem) (rest : List ScoredCandidate) (w : World) : Prop where
  kept : Kept episodes w
  own : ∀ episode ∈ episodesOf items, episode.internalConversationRef = internalConversationRef
  later : ∀ candidate ∈ rest, ∀ episodeId, scoredEpisode candidate = some episodeId →
    EpisodeOf (some internalConversationRef) episodes episodeId
  distinct : ((episodesOf items).map RetrievedEpisodeContext.episodeId ++
    rest.filterMap scoredEpisode).Nodup

/-- Where the loop stands after an item, or where it fails. -/
def LoadedItem (internalConversationRef : String) (episodes : List EpisodeRecord)
    (rest : List ScoredCandidate) :
    Except ErrorChain (List RetrievedContextItem) → World → List Event → Prop
  | .ok items, w, _ => Loading internalConversationRef episodes items rest w
  | .error _, w, _ => Kept episodes w

theorem Loading.skip {items : List RetrievedContextItem} {candidate : ScoredCandidate}
    {rest : List ScoredCandidate}
    (h : Loading internalConversationRef episodes items (candidate :: rest) w)
    (hscored : scoredEpisode candidate = none) :
    Loading internalConversationRef episodes items rest w where
  kept := h.kept
  own := h.own
  later := fun other hother => h.later other (List.mem_cons_of_mem _ hother)
  distinct := by
    have hdistinct := h.distinct
    rwa [List.filterMap_cons_none hscored] at hdistinct

theorem Loading.memory {items : List RetrievedContextItem} {rest : List ScoredCandidate}
    (h : Loading internalConversationRef episodes items rest w)
    (context : RetrievedMemoryArtifactContext) :
    Loading internalConversationRef episodes (items ++ [.memoryArtifact context]) rest w := by
  have hsame : episodesOf (items ++ [.memoryArtifact context]) = episodesOf items := by
    unfold episodesOf
    rw [List.filterMap_append]
    exact List.append_nil _
  refine ⟨h.kept, ?_, h.later, ?_⟩
  · rw [hsame]
    exact h.own
  · rw [hsame]
    exact h.distinct

theorem Loading.episode {items : List RetrievedContextItem} {candidate : ScoredCandidate}
    {rest : List ScoredCandidate}
    (h : Loading internalConversationRef episodes items (candidate :: rest) w)
    {context : RetrievedEpisodeContext} (hscored : scoredEpisode candidate = some context.episodeId)
    (hown : context.internalConversationRef = internalConversationRef) :
    Loading internalConversationRef episodes (items ++ [.episode context]) rest w := by
  have hmore : episodesOf (items ++ [.episode context]) = episodesOf items ++ [context] := by
    unfold episodesOf
    rw [List.filterMap_append]
    rfl
  refine ⟨h.kept, ?_, fun other hother => h.later other (List.mem_cons_of_mem _ hother), ?_⟩
  · rw [hmore]
    intro episode hepisode
    rcases List.mem_append.mp hepisode with hmem | hmem
    · exact h.own episode hmem
    · rw [List.mem_singleton.mp hmem]
      exact hown
  · have hdistinct := h.distinct
    rw [List.filterMap_cons_some hscored] at hdistinct
    rw [hmore, List.map_append, List.append_assoc]
    exact hdistinct

/-- Loading a candidate adds an item of the conversation, or nothing; no episode comes twice. -/
theorem loadItem_loading {items : List RetrievedContextItem} {candidate : ScoredCandidate}
    {rest : List ScoredCandidate}
    (h : Loading internalConversationRef episodes items (candidate :: rest) w) :
    (loadItem items candidate).Alone answers (LoadedItem internalConversationRef episodes rest)
      w es := by
  unfold loadItem
  cases hkind : candidate.sourceKind with
  | memoryArtifact =>
    have hscored : scoredEpisode candidate = none := by
      unfold scoredEpisode
      rw [hkind]
    cases hsource : candidate.sourceMemoryArtifactId with
    | none => exact h.skip hscored
    | some memoryArtifactId =>
      refine Prog.Alone.bind (R := fun _ w' _ => w' = w) ?_ ?_ ?_
      · refine alone_transaction (fun now effect hbody => ?_) (fun _ _ _ => rfl) fun _ _ => rfl
        dsimp only at hbody
        split at hbody
        · obtain rfl := Except.ok.inj hbody
          rfl
        · cases hbody
      · rintro context w' es' rfl
        exact (h.skip hscored).memory context
      · rintro e w' es' rfl
        exact h.kept
  | episode =>
    cases hsource : candidate.sourceEpisodeId with
    | none =>
      refine h.skip ?_
      unfold scoredEpisode
      rw [hkind]
      exact hsource
    | some episodeId =>
      have hscored : scoredEpisode candidate = some episodeId := by
        unfold scoredEpisode
        rw [hkind]
        exact hsource
      obtain ⟨episode, hmem, hid, hown⟩ :=
        h.later candidate List.mem_cons_self episodeId hscored
      have hfound : Table.find EpisodeRecord.episodeId episodeId w.db.episodes = some episode := by
        rw [h.kept.same]
        rw [← hid]
        exact Table.find_eq_some_of_mem h.kept.isolated.keyed hmem
      refine Prog.Alone.bind (R := fun r w' _ => w' = w ∧ ∀ context, r = .ok context →
        context = episodeContext candidate.relevanceReason w.db episode)
        (alone_fetchOne (a := episodeContext candidate.relevanceReason w.db episode)
          (by rw [hfound]; rfl) ⟨rfl, fun _ hr => (Except.ok.inj hr).symm⟩
          fun _ _ => ⟨rfl, fun _ hr => (nomatch hr)⟩) ?_ ?_
      · rintro context w' es' ⟨rfl, hcontext⟩
        obtain rfl := hcontext context rfl
        refine h.episode ?_ (Option.some.inj hown).symm
        rw [hscored]
        exact congrArg some hid.symm
      · rintro e w' es' ⟨rfl, -⟩
        exact h.kept

theorem readClock_kept (n : Nat) (h : Kept episodes w) :
    (readClock n).Alone answers (fun _ w _ => Kept episodes w) w es := by
  induction n generalizing w es with
  | zero => exact h
  | succ n ih =>
    refine Prog.Alone.bind (R := fun _ w' _ => Kept episodes w')
      (alone_utcNow fun _ _ => ⟨h.same, h.isolated⟩) ?_ fun e w' es' hkept => hkept
    intro now w' es' hkept
    exact (ih hkept).bind (fun _ w'' es'' hkept'' => hkept'') fun e w'' es'' hkept'' => hkept''

/-- A context that is assembled from tables that are apart is of one conversation, and leaves
them apart. -/
theorem assembleRetrievedContext_apart (trigger : ForegroundTrigger) (hserving : Serving w) :
    (assembleRetrievedContext tables config trigger).Alone answers (fun r w _ => Serving w ∧
      ∀ context, r = .ok context →
        KeptApart trigger.ingress.internalConversationRef context.items) w es := by
  have hstart : Kept w.db.episodes w := ⟨rfl, hserving⟩
  have hfails : ∀ {e : ErrorChain} {w'}, Kept w.db.episodes w' → Serving w' ∧
      ∀ context, (Except.error e : Except ErrorChain RetrievedContext) = .ok context →
        KeptApart trigger.ingress.internalConversationRef context.items :=
    fun hkept => ⟨hkept.serving, fun _ hr => (nomatch hr)⟩
  unfold assembleRetrievedContext
  refine (ensureEpisodeRetrievalArtifacts_kept hstart).bind ?_ fun _ _ _ => hfails
  intro _ w₁ es₁ h₁
  refine (ensureMemoryRetrievalArtifacts_kept h₁).bind ?_ fun _ _ _ => hfails
  intro _ w₂ es₂ h₂
  refine Prog.Alone.bind (R := fun r w' _ => w' = w₂ ∧ ∀ candidates, r = .ok candidates →
    candidates = ((w₂.db.retrievalArtifacts.filter (isCandidate
      trigger.ingress.internalConversationRef trigger.receivedAt w₂.db)).insertionSort
        fetchedBefore).map (candidateOfRow tables))
    (alone_fetch ⟨rfl, fun _ hr => (Except.ok.inj hr).symm⟩
      fun _ _ => ⟨rfl, fun _ hr => (nomatch hr)⟩) ?_ ?_
  · rintro candidates w₃ es₃ ⟨rfl, hcandidates⟩
    obtain rfl := hcandidates candidates rfl
    refine (readClock_kept _ h₂).bind ?_ fun _ _ _ => hfails
    intro readings w₄ es₄ h₄
    have hapart : Apart trigger.ingress.internalConversationRef w₃.db.episodes
        (scoreCandidates tables (fun i => readings.getD i 0)
          (((w₃.db.retrievalArtifacts.filter (isCandidate trigger.ingress.internalConversationRef
            trigger.receivedAt w₃.db)).insertionSort fetchedBefore).map (candidateOfRow tables))
          (trigger.ingress.textBody.getD "") trigger.ingress.internalConversationRef) :=
      apart_scoreCandidates h₂.serving
    rw [h₂.same] at hapart
    have hselected : Apart _ _ (selectCandidates config _) := hapart.sublist (by
      rw [selectCandidates_eq]
      exact (List.take_sublist _ _).trans (bestOfKinds_sublist _ _))
    refine Prog.Alone.bind (Prog.alone_foldlM
      (J := fun items rest w' _ =>
        Loading trigger.ingress.internalConversationRef w.db.episodes items rest w')
      (E := fun _ w' _ => Kept w.db.episodes w') ?_ _ [] w₄ es₄
      ⟨h₄, fun _ hmem => (nomatch hmem), hselected.own, hselected.distinct⟩) ?_
      fun _ _ _ => hfails
    · intro items candidate rest w' es' hloading
      refine (loadItem_loading hloading).mono ?_
      rintro (e | items') w'' es'' hloaded
      · exact hloaded
      · exact hloaded
    intro items w₅ es₅ hloaded
    refine ⟨hloaded.kept.serving, fun context hr => ?_⟩
    obtain rfl := Except.ok.inj hr
    refine ⟨hloaded.own, ?_⟩
    have hdistinct := hloaded.distinct
    rwa [List.filterMap_nil, List.append_nil] at hdistinct
  · rintro e w₃ es₃ ⟨rfl, -⟩
    exact hfails h₂

end Assembly

/-! ## Whole runs -/

/-- What the rest of the harness does to the tables: documents stay as they are, and an episode
keeps its conversation. -/
structure KeepsEpisodes (db db' : Database) : Prop where
  artifacts : db'.retrievalArtifacts = db.retrievalArtifacts
  keyed : (db.episodes.map EpisodeRecord.episodeId).Nodup →
    (db'.episodes.map EpisodeRecord.episodeId).Nodup
  kept : ∀ episode ∈ db.episodes, ∃ episode' ∈ db'.episodes,
    episode'.episodeId = episode.episodeId ∧
      episode'.internalConversationRef = episode.internalConversationRef

namespace KeepsEpisodes

variable {db db' db'' : Database}

/-- A step that leaves both tables as they are. -/
theorem of_eq (hepisodes : db'.episodes = db.episodes)
    (hartifacts : db'.retrievalArtifacts = db.retrievalArtifacts) : KeepsEpisodes db db' where
  artifacts := hartifacts
  keyed := by
    rw [hepisodes]
    exact id
  kept := by
    rw [hepisodes]
    exact fun episode hmem => ⟨episode, hmem, rfl, rfl⟩

theorem refl (db : Database) : KeepsEpisodes db db := of_eq rfl rfl

theorem trans (h : KeepsEpisodes db db') (h' : KeepsEpisodes db' db'') :
    KeepsEpisodes db db'' where
  artifacts := h'.artifacts.trans h.artifacts
  keyed := fun hkeyed => h'.keyed (h.keyed hkeyed)
  kept := by
    intro episode hmem
    obtain ⟨episode', hmem', hid, hsame⟩ := h.kept episode hmem
    obtain ⟨episode'', hmem'', hid', hsame'⟩ := h'.kept episode' hmem'
    exact ⟨episode'', hmem'', hid'.trans hid, hsame'.trans hsame⟩

/-- What a program does is a step of the harness, where its statements are confined to this. -/
theorem run {α : Type} {p : Harness α} {w : World} {o : Oracle system} {n : Nat}
    (hp : p.Confined (OnDb fun db db' _ => KeepsEpisodes db db')) :
    KeepsEpisodes w.db (p.run o n w).state.db :=
  (Prog.Confined.run o n w (OnDb.refl (B := fun db db' _ => KeepsEpisodes db db') refl)
    (OnDb.trans fun _ _ _ _ _ h h' => trans h h') hp).1

theorem insertEpisode (episode : NewEpisode) :
    (Foreground.insertEpisode episode).Confined (OnDb fun db db' _ => KeepsEpisodes db db') := by
  refine confined_execute refl fun now db effect hbody => ?_
  split at hbody
  · cases hbody
  · rename_i hviolation
    obtain rfl := Except.ok.inj hbody
    have hkey := Database.firstBroken_eq_none.mp hviolation _ List.mem_cons_self
    refine ⟨rfl, fun hkeyed => ?_, fun other hmem =>
      ⟨other, List.mem_append_left _ hmem, rfl, rfl⟩⟩
    exact Table.nodup_append_fresh hkeyed fun earlier hearlier =>
      of_decide_eq_true (List.all_eq_true.mp hkey earlier hearlier)

theorem finishEpisode (status : String) (episodeId : Uuid) (outcome summary : String)
    (now : DateTime) (db : Database) :
    KeepsEpisodes db (Foreground.finishEpisode status episodeId outcome summary now db) where
  artifacts := rfl
  keyed := by
    intro hkeyed
    unfold Foreground.finishEpisode
    rwa [Table.map_key_update]
    exact fun _ => rfl
  kept := by
    intro episode hmem
    by_cases hfinished : episode.episodeId = episodeId
    · exact ⟨_, Table.mem_update.mpr (Or.inr ⟨episode, hmem, decide_eq_true hfinished, rfl⟩),
        rfl, rfl⟩
    · exact ⟨episode, Table.mem_update.mpr (Or.inl ⟨hmem, decide_eq_false hfinished⟩), rfl, rfl⟩

theorem markEpisodeCompleted (episodeId : Uuid) (outcome summary : String) :
    (Foreground.markEpisodeCompleted episodeId outcome summary).Confined
      (OnDb fun db db' _ => KeepsEpisodes db db') := by
  refine confined_execute refl fun now db effect hbody => ?_
  obtain rfl := Except.ok.inj hbody
  exact finishEpisode _ _ _ _ now db

theorem markEpisodeFailed (episodeId : Uuid) (outcome summary : String) :
    (Foreground.markEpisodeFailed episodeId outcome summary).Confined
      (OnDb fun db db' _ => KeepsEpisodes db db') := by
  refine confined_execute refl fun now db effect hbody => ?_
  obtain rfl := Except.ok.inj hbody
  exact finishEpisode _ _ _ _ now db

theorem insertEpisodeMessage (message : NewEpisodeMessage) :
    (Foreground.insertEpisodeMessage message).Confined
      (OnDb fun db db' _ => KeepsEpisodes db db') := by
  refine Foreground.insertEpisodeMessage_confined (fun db row => ?_) refl message
  exact of_eq (Eq.refl db.episodes) (Eq.refl db.retrievalArtifacts)

end KeepsEpisodes

/-- A step of the harness: a call for the updates of a job, a retrieval for a turn, or anything
that leaves the documents alone. -/
inductive Step (tables : Text.Tables) (config : RetrievalConfig) : World → World → Prop
  | updates {w : World} (context : RetrievalUpdateApplicationContext)
      (updates : List RetrievalUpdateProposal) (o : Oracle system)
      (hanchored : AnchoredFrom context w.db updates w.db.retrievalArtifacts) :
      Step tables config w ((applyRetrievalUpdates context updates).run o 0 w).state
  | retrieval {w : World} (trigger : ForegroundTrigger) (o : Oracle system) :
      Step tables config w ((assembleRetrievedContext tables config trigger).run o 0 w).state
  | elsewhere {w w' : World} (hkeeps : KeepsEpisodes w.db w'.db) : Step tables config w w'

section Runs

variable {tables : Text.Tables} {config : RetrievalConfig} {w w' : World}

/-- Where an episode keeps its conversation, what is apart stays apart. -/
theorem KeepsEpisodes.serving (h : KeepsEpisodes w.db w'.db) (hserving : Serving w) :
    Serving w' where
  keyed := h.keyed hserving.keyed
  anchored := by
    rw [h.artifacts]
    intro row hrow episodeId hserved
    obtain ⟨episode, hmem, rfl, hown⟩ := hserving.anchored row hrow episodeId hserved
    obtain ⟨episode', hmem', hid, hsame⟩ := h.kept episode hmem
    exact ⟨episode', hmem', hid, by rw [hown, hsame]⟩
  distinct := by
    rw [h.artifacts]
    exact hserving.distinct

theorem Step.serving (h : Step tables config w w') (hserving : Serving w) : Serving w' := by
  cases h with
  | updates context updates o hanchored =>
    have halone : (Prog.foldlM (applyRetrievalUpdate context) {} updates).Alone
        (fun _ _ => True) (fun _ w _ => Serving w) w [] :=
      foldlM_serving updates w.db.retrievalArtifacts w [] {} ⟨w.db.auditEvents, rfl⟩ hserving
        hanchored
    exact halone.run (o := o) (fun _ _ => trivial) 0
  | retrieval trigger o =>
    have halone : (assembleRetrievedContext tables config trigger).Alone (fun _ _ => True) _ w
      [] := assembleRetrievedContext_apart trigger hserving
    exact (halone.run (o := o) (fun _ _ => trivial) 0).1
  | elsewhere hkeeps => exact hkeeps.serving hserving

theorem run_serving (h : Relation.ReflTransGen (Step tables config) w w') (hserving : Serving w) :
    Serving w' := by
  induction h with
  | refl => exact hserving
  | tail _ hstep ih => exact hstep.serving ih

/-- After any run of retrievals, of updates that name the conversation of the episode they are
anchored in and replace its documents, and of whatever leaves the documents alone, every context
that is assembled is of the conversation of its trigger, and has no episode twice. -/
theorem conversations_isolated (hserving : Serving w)
    (hrun : Relation.ReflTransGen (Step tables config) w w') (trigger : ForegroundTrigger)
    (o : Oracle system) {context : RetrievedContext}
    (hassembled : ((assembleRetrievedContext tables config trigger).run o 0 w').result =
      .ok context) :
    KeptApart trigger.ingress.internalConversationRef context.items := by
  have halone : (assembleRetrievedContext tables config trigger).Alone (fun _ _ => True) _ w'
    [] := assembleRetrievedContext_apart trigger (run_serving hrun hserving)
  exact (halone.run (o := o) (fun _ _ => trivial) 0).2 context hassembled

/-! ### Two conversations -/

/-- An episode about the garden in the one conversation, and one about the taxes in the other. -/
def twoConversations : World where
  db := {
    executionRecords := [
      { executionId := 1, traceId := 1, triggerKind := "user_ingress", status := "succeeded" },
      { executionId := 2, traceId := 2, triggerKind := "user_ingress", status := "succeeded" }]
    episodes := [
      { episodeId := 10, traceId := 1, executionId := 1, ingressId := none
        internalPrincipalRef := "primary-user", internalConversationRef := "garden"
        triggerKind := "user_ingress", triggerSource := "telegram", status := "completed"
        startedAt := 0, summary := some "tomatoes" },
      { episodeId := 20, traceId := 2, executionId := 2, ingressId := none
        internalPrincipalRef := "primary-user", internalConversationRef := "taxes"
        triggerKind := "user_ingress", triggerSource := "telegram", status := "completed"
        startedAt := 0, summary := some "receipts" }] }

/-- A job on the episode about the garden. -/
def gardenContext : RetrievalUpdateApplicationContext where
  traceId := 3
  executionId := 3
  sourceLoopKind := "unconscious"
  subsystem := "background_execution"
  episodeIds := [10]

/-- Its update. -/
def gardenUpdate : RetrievalUpdateProposal where
  updateId := 11
  operation := .upsert
  sourceRef := "background_job:3"
  lexicalDocument := "tomatoes need water"
  relevanceTimestamp := 0
  internalConversationRef := some "garden"
  rationale := none

/-- A message in a conversation. -/
def messageIn (internalConversationRef : String) : ForegroundTrigger where
  triggerId := 4
  traceId := 4
  executionId := 4
  triggerKind := .userIngress
  ingress := {
    ingressId := 5, channelKind := .telegram, externalUserId := "42"
    externalConversationId := "42", externalEventId := "update-5", externalMessageId := none
    internalPrincipalRef := "primary-user", internalConversationRef := internalConversationRef
    eventKind := .messageCreated, occurredAt := 100, textBody := some "what about tomatoes?"
    commandHint := none, approvalPayload := none, rawPayloadRef := none }
  receivedAt := 100
  deduplicationKey := "telegram:update-5"

/-- The world after the update. -/
def tendedGarden : World :=
  ((applyRetrievalUpdates gardenContext [gardenUpdate]).run (steady 0) 0 twoConversations).state

/-- What is retrieved for a message about the garden. -/
def gardenItems : List RetrievedContextItem :=
  [.episode {
    episodeId := 10, internalConversationRef := "garden", startedAt := 0, summary := "tomatoes"
    latestUserMessage := none, latestAssistantMessage := none, outcome := "completed"
    relevanceReason := "lexical_match:1" }]

theorem conversations_isolated_garden : KeptApart "garden" gardenItems :=
  @conversations_isolated Text.Tables.ascii ⟨3, 5, 6⟩ twoConversations tendedGarden
    ⟨by decide, fun _ hrow => (nomatch hrow), by decide⟩
    (.single (.updates gardenContext [gardenUpdate] (steady 0) fun _ _ =>
      ⟨fun _ sourceEpisodeId hanchor => by
        obtain rfl := Option.some.inj hanchor
        exact ⟨⟨_, List.mem_cons_self, rfl, rfl⟩, fun _ hrow => (nomatch hrow)⟩, trivial⟩))
    (messageIn "garden") (steady 0) { items := gardenItems } (by decide +kernel)

end Runs

end BlueLagoon.Retrieval
