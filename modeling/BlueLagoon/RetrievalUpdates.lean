import BlueLagoon.Retrieval

/-!
# Retrieval updates that stop half way

An update archives the artifacts of its source before anything else and is not in a
transaction. Whether a failure leaves it half applied is a matter of what it found to
archive: the law is stated for worlds where statements may fail and for worlds where they
always go through, and in either it comes down to a condition on the table and the updates.
-/

namespace BlueLagoon.Retrieval

open Interleaving Harness

/-! ## The law -/

/-- The artifacts archived so far by the update that is being applied. -/
def openArchives (events : List Event) : List Uuid :=
  events.foldl
    (fun archived event =>
      match event with
      | .retrievalArchived retrievalArtifactIds => archived ++ retrievalArtifactIds
      | .retrievalUpdateApplied _ => []
      | _ => archived) []

theorem openArchives_append (events : List Event) (event : Event) :
    openArchives (events ++ [event]) =
      match event with
      | .retrievalArchived retrievalArtifactIds => openArchives events ++ retrievalArtifactIds
      | .retrievalUpdateApplied _ => []
      | _ => openArchives events := by
  unfold openArchives
  rw [List.foldl_append]
  rfl

/-- A call that fails has archived nothing with the update at which it failed. -/
def AllOrNothing (result : Except ErrorChain RetrievalUpdateApplicationSummary)
    (events : List Event) : Prop :=
  ∀ e, result = .error e → openArchives events = []

/-! ## The condition -/

/-- The artifacts an update archives. -/
def selected (update : RetrievalUpdateProposal) (rows : List RetrievalArtifactRecord) :
    List RetrievalArtifactRecord :=
  rows.filter
    (Continuity.isActiveBySourceRef update.sourceRef update.internalConversationRef)

/-- The table once an update has archived them. -/
def archived (update : RetrievalUpdateProposal) (rows : List RetrievalArtifactRecord) :
    List RetrievalArtifactRecord :=
  Continuity.archivedBySourceRef update.sourceRef update.internalConversationRef rows

/-- What stands in the way of an upsert after its archiving: no episode to anchor the new
artifact in, or a constraint. -/
def Completes (context : RetrievalUpdateApplicationContext) (db : Database)
    (update : RetrievalUpdateProposal) (rows : List RetrievalArtifactRecord) : Prop :=
  update.operation = .upsert →
    ∃ sourceEpisodeId, context.episodeIds.head? = some sourceEpisodeId ∧
      { db with retrievalArtifacts := archived update rows }.retrievalArtifactViolation
        (upsertedArtifact update sourceEpisodeId) = none

/-- The table after an update that completes. -/
def applied (context : RetrievalUpdateApplicationContext) (update : RetrievalUpdateProposal)
    (rows : List RetrievalArtifactRecord) : List RetrievalArtifactRecord :=
  match update.operation with
  | .archive => archived update rows
  | .upsert => archived update rows ++
      (context.episodeIds.head?.map (upsertedArtifact update)).toList

/-- No update of the list, as far as the list gets, can be left half applied: it finds
nothing to archive, or it completes and no statement can fail. -/
def Harmless (mayFail : Bool) (context : RetrievalUpdateApplicationContext) (db : Database) :
    List RetrievalUpdateProposal → List RetrievalArtifactRecord → Prop
  | [], _ => True
  | update :: updates, rows =>
    validateRetrievalUpdate update = .ok () →
      (selected update rows = [] ∨ mayFail = false ∧ Completes context db update rows) ∧
        (Completes context db update rows →
          Harmless mayFail context db updates (applied context update rows))

/-! ## Worlds -/

/-- What the world may answer: a statement need not get through where `mayFail` is set. -/
def worldAnswers (mayFail : Bool) : Answers system
  | .statement, (at_ : Option DateTime) => mayFail = true ∨ at_.isSome = true
  | _, _ => True

section Nodes

variable {α β : Type} {mayFail : Bool} {w : World} {es : List Event} {message : String}
  {Q : Except ErrorChain β → World → List Event → Prop}

/-- A statement is lost, where that may happen, or it is carried out at some instant and the rest
goes on from there. -/
theorem alone_execute_bind {body : DateTime → Database → Except String (Effect α)}
    {f : α → Harness β} :
    ((execute message body).bind f).Alone (worldAnswers mayFail) Q w es ↔
      (mayFail = true → Q (.error [message, "error communicating with database"]) w es) ∧
        ∀ now : DateTime, match body now w.db with
          | .ok effect => (f effect.value).Alone (worldAnswers mayFail) Q
              { w with db := effect.db } (es ++ effect.events)
          | .error cause => Q (.error [message, cause]) w es := by
  have hanswered : ∀ now : DateTime, ((Prog.tx (commit fun db =>
        (body now db).mapError fun cause => [message, cause])).bind f).Alone
          (worldAnswers mayFail) Q w es ↔
      match body now w.db with
      | .ok effect => (f effect.value).Alone (worldAnswers mayFail) Q
          { w with db := effect.db } (es ++ effect.events)
      | .error cause => Q (.error [message, cause]) w es := by
    intro now
    rw [Prog.alone_bind]
    cases hbody : body now w.db with
    | ok effect =>
      have hcommit : commit (fun db => (body now db).mapError fun cause => [message, cause]) w =
          .ok { value := effect.value, state := { w with db := effect.db }
                events := effect.events } := by
        simp only [commit, hbody, Except.mapError]
      rw [Prog.alone_tx_ok hcommit]
      exact Iff.rfl
    | error cause =>
      have hcommit : commit (fun db => (body now db).mapError fun cause => [message, cause]) w =
          .error [message, cause] := by
        simp only [commit, hbody, Except.mapError]
      rw [Prog.alone_tx_error hcommit]
      exact Iff.rfl
  constructor
  · intro h
    refine ⟨fun hmay => h none (Or.inl hmay), fun now => ?_⟩
    exact (hanswered now).mp (h (some now) (Or.inr rfl))
  · rintro ⟨hfault, h⟩ (_ | now) hanswer
    · rcases hanswer with hmay | hsome
      · exact hfault hmay
      · cases hsome
    · exact (hanswered now).mpr (h now)

theorem alone_newUuid_bind {f : Uuid → Harness β} :
    (newUuid.bind f).Alone (worldAnswers mayFail) Q w es ↔
      ∀ candidate : Uuid, (f (unused w.issued candidate)).Alone (worldAnswers mayFail) Q
        { w with issued := unused w.issued candidate :: w.issued } es := by
  have hnode : ∀ candidate : Uuid,
      (f (unused w.issued candidate)).Alone (worldAnswers mayFail) Q
        { w with issued := unused w.issued candidate :: w.issued } (es ++ []) ↔
      (f (unused w.issued candidate)).Alone (worldAnswers mayFail) Q
        { w with issued := unused w.issued candidate :: w.issued } es := by
    intro candidate
    rw [List.append_nil]
  constructor
  · intro h candidate
    exact (hnode candidate).mp (h candidate trivial)
  · intro h candidate _
    exact (hnode candidate).mpr (h candidate)

end Nodes

/-! ## One update -/

section Update

variable {mayFail : Bool} {context : RetrievalUpdateApplicationContext} {db : Database}
  {update : RetrievalUpdateProposal} {rows : List RetrievalArtifactRecord} {w : World}
  {es : List Event} {rest : RetrievalUpdateApplicationSummary →
    Harness RetrievalUpdateApplicationSummary} {H : Prop}

/-- What a call is to end in, as a postcondition. -/
abbrev EndsAllOrNothing : Except ErrorChain RetrievalUpdateApplicationSummary → World →
    List Event → Prop :=
  fun r _ es => AllOrNothing r es

theorem allOrNothing_error {e : ErrorChain} {events : List Event} :
    AllOrNothing (.error e) events ↔ openArchives events = [] :=
  ⟨fun h => h e rfl, fun h _ _ => h⟩

/-- Only the artifacts and the audit log have changed since the call began. -/
def Reached (db : Database) (rows : List RetrievalArtifactRecord) (w : World) : Prop :=
  ∃ auditEvents, w.db = { db with retrievalArtifacts := rows, auditEvents := auditEvents }

/-- The rest of the call establishes the law exactly when `H` holds, wherever it goes on from
with nothing open. -/
def Establishes (mayFail : Bool) (db : Database) (rows : List RetrievalArtifactRecord)
    (rest : RetrievalUpdateApplicationSummary → Harness RetrievalUpdateApplicationSummary)
    (H : Prop) : Prop :=
  ∀ summary w es, Reached db rows w → openArchives es = [] →
    ((rest summary).Alone (worldAnswers mayFail) EndsAllOrNothing w es ↔ H)

/-- The end of a turn: the audit event, and nothing is open any more. -/
theorem audited_alone {event : NewAuditEvent} {summary : RetrievalUpdateApplicationSummary}
    (hw : Reached db rows w) (hrest : Establishes mayFail db rows rest H) :
    (((Audit.insert event).bind fun _ => .ret summary).bind fun applied =>
        (Prog.emit (S := system) (.retrievalUpdateApplied update.updateId)).bind fun _ =>
          rest applied).Alone (worldAnswers mayFail) EndsAllOrNothing w es ↔
      (mayFail = true → openArchives es = []) ∧ H := by
  obtain ⟨auditEvents, hdb⟩ := hw
  rw [Prog.bind_assoc]
  unfold Audit.insert
  rw [Prog.bind_eq]
  rw [Prog.bind_assoc]
  rw [alone_newUuid_bind]
  have hclosed : ∀ events, openArchives (events ++ [.retrievalUpdateApplied update.updateId]) =
      [] := fun events => openArchives_append events _
  have hreached : ∀ (rows' : List AuditEvent) (issued : List Uuid), Reached db rows
      { w with db := { w.db with auditEvents := rows' }, issued := issued } := by
    intro rows' issued
    refine ⟨rows', ?_⟩
    show { w.db with auditEvents := rows' } = _
    rw [hdb]
  constructor
  · intro h
    obtain ⟨hfault, hok⟩ := alone_execute_bind.mp (h 0)
    refine ⟨fun hmay => allOrNothing_error.mp (hfault hmay), ?_⟩
    exact (hrest summary _ _ (hreached _ _) (hclosed _)).mp (hok 0)
  · rintro ⟨hopen, hH⟩ candidate
    refine alone_execute_bind.mpr ⟨fun hmay => allOrNothing_error.mpr (hopen hmay), fun now => ?_⟩
    exact (hrest summary _ _ (hreached _ _) (hclosed _)).mpr hH

/-- The archiving: what it selects is open from then on. -/
theorem archiveBySourceRef_alone {f : Nat → Harness RetrievalUpdateApplicationSummary}
    (hw : Reached db rows w) (hes : openArchives es = []) {H : Prop}
    (hf : ∀ n w' es', Reached db (archived update rows) w' →
      openArchives es' = (selected update rows).map RetrievalArtifactRecord.retrievalArtifactId →
      ((f n).Alone (worldAnswers mayFail) EndsAllOrNothing w' es' ↔ H)) :
    ((Continuity.archiveRetrievalArtifactsBySourceRef update.sourceRef
        update.internalConversationRef).bind f).Alone (worldAnswers mayFail) EndsAllOrNothing
          w es ↔ H := by
  obtain ⟨auditEvents, hdb⟩ := hw
  have hrows : w.db.retrievalArtifacts = rows := by rw [hdb]
  have hreached : Reached db (archived update rows)
      { w with db := { w.db with retrievalArtifacts := archived update w.db.retrievalArtifacts } } := by
    refine ⟨auditEvents, ?_⟩
    show { w.db with retrievalArtifacts := archived update w.db.retrievalArtifacts } = _
    rw [hrows]
    rw [hdb]
  have hopen : openArchives (es ++ [.retrievalArchived ((w.db.retrievalArtifacts.filter
      (Continuity.isActiveBySourceRef update.sourceRef update.internalConversationRef)).map
        RetrievalArtifactRecord.retrievalArtifactId)]) =
      (selected update rows).map RetrievalArtifactRecord.retrievalArtifactId := by
    rw [openArchives_append]
    show openArchives es ++ _ = _
    rw [hes]
    rw [hrows]
    rfl
  unfold Continuity.archiveRetrievalArtifactsBySourceRef
  rw [alone_execute_bind]
  constructor
  · rintro ⟨-, hok⟩
    exact (hf _ _ _ hreached hopen).mp (hok 0)
  · intro hH
    refine ⟨fun _ => allOrNothing_error.mpr hes, fun now => ?_⟩
    exact (hf _ _ _ hreached hopen).mpr hH

/-- What is open once an update has archived is what it selected. -/
theorem open_eq_nil {rows : List RetrievalArtifactRecord}
    (hes : openArchives es =
      (selected update rows).map RetrievalArtifactRecord.retrievalArtifactId) :
    openArchives es = [] ↔ selected update rows = [] := by
  rw [hes]
  exact List.map_eq_nil_iff

theorem applyArchive_alone (hop : update.operation = .archive)
    {summary : RetrievalUpdateApplicationSummary} (hw : Reached db rows w)
    (hes : openArchives es = [])
    (hrest : Establishes mayFail db (applied context update rows) rest H) :
    ((applyArchive context update summary).bind fun applied =>
        (Prog.emit (S := system) (.retrievalUpdateApplied update.updateId)).bind fun _ =>
          rest applied).Alone (worldAnswers mayFail) EndsAllOrNothing w es ↔
      (selected update rows = [] ∨ mayFail = false) ∧ H := by
  have happlied : applied context update rows = archived update rows := by
    unfold applied
    rw [hop]
  rw [happlied] at hrest
  unfold applyArchive
  rw [Prog.bind_eq]
  rw [Prog.bind_assoc]
  refine archiveBySourceRef_alone hw hes fun n w' es' hw' hes' => ?_
  refine (audited_alone hw' hrest).trans (and_congr_left fun _ => ?_)
  rw [open_eq_nil hes']
  cases mayFail with
  | true => simp
  | false => simp

/-! ### The upsert -/

/-- Without an anchor an upsert does not complete. -/
theorem not_completes_of_no_anchor (hop : update.operation = .upsert)
    (hanchor : context.episodeIds.head? = none) : ¬Completes context db update rows := by
  intro hcompletes
  obtain ⟨sourceEpisodeId, hsome, -⟩ := hcompletes hop
  rw [hanchor] at hsome
  cases hsome

/-- With an anchor it completes when the new row meets the constraints. -/
theorem completes_iff_of_anchor (hop : update.operation = .upsert) {sourceEpisodeId : Uuid}
    (hanchor : context.episodeIds.head? = some sourceEpisodeId) :
    Completes context db update rows ↔
      { db with retrievalArtifacts := archived update rows }.retrievalArtifactViolation
        (upsertedArtifact update sourceEpisodeId) = none := by
  constructor
  · intro h
    obtain ⟨anchor, hsome, hvalid⟩ := h hop
    rw [hanchor] at hsome
    obtain rfl := Option.some.inj hsome
    exact hvalid
  · intro hvalid _
    exact ⟨sourceEpisodeId, hanchor, hvalid⟩

/-- An upsert that does not complete ends with an error: that is fine if nothing was archived. -/
theorem allOrNothing_iff_of_stuck {e : ErrorChain}
    (hes : openArchives es =
      (selected update rows).map RetrievalArtifactRecord.retrievalArtifactId)
    (hstuck : ¬Completes context db update rows) :
    AllOrNothing (.error e) es ↔
      (selected update rows = [] ∨ mayFail = false ∧ Completes context db update rows) ∧
        (Completes context db update rows → H) := by
  rw [allOrNothing_error]
  rw [open_eq_nil hes]
  constructor
  · intro hnone
    exact ⟨Or.inl hnone, fun hcompletes => absurd hcompletes hstuck⟩
  · rintro ⟨hnone | ⟨-, hcompletes⟩, -⟩
    · exact hnone
    · exact absurd hcompletes hstuck

/-- The insert of an upsert: what it archived stays open until the audit event is written. -/
theorem insertArtifact_alone (hop : update.operation = .upsert) {sourceEpisodeId : Uuid}
    (hanchor : context.episodeIds.head? = some sourceEpisodeId)
    {f : Unit → Harness RetrievalUpdateApplicationSummary}
    (hw : Reached db (archived update rows) w)
    (hes : openArchives es =
      (selected update rows).map RetrievalArtifactRecord.retrievalArtifactId)
    (hf : ∀ w' es', Reached db (applied context update rows) w' →
      ((f ()).Alone (worldAnswers mayFail) EndsAllOrNothing w' es' ↔
        (mayFail = true → openArchives es' = []) ∧ H)) :
    ((Continuity.insertRetrievalArtifact (upsertedArtifact update sourceEpisodeId)).bind f).Alone
        (worldAnswers mayFail) EndsAllOrNothing w es ↔
      (selected update rows = [] ∨ mayFail = false ∧ Completes context db update rows) ∧
        (Completes context db update rows → H) := by
  have hcompletes : Completes context db update rows ↔ _ := completes_iff_of_anchor hop hanchor
  obtain ⟨auditEvents, hdb⟩ := hw
  have hviolation : w.db.retrievalArtifactViolation (upsertedArtifact update sourceEpisodeId) =
      { db with retrievalArtifacts := archived update rows }.retrievalArtifactViolation
        (upsertedArtifact update sourceEpisodeId) := by
    rw [hdb]
    rfl
  unfold Continuity.insertRetrievalArtifact
  rw [alone_execute_bind]
  rw [hviolation]
  cases hvalid : { db with retrievalArtifacts := archived update rows }.retrievalArtifactViolation
      (upsertedArtifact update sourceEpisodeId) with
  | some constraint =>
    have hstuck : ¬Completes context db update rows := by
      rw [hcompletes]
      rw [hvalid]
      exact Option.some_ne_none constraint
    refine Iff.trans ?_ (allOrNothing_iff_of_stuck
      (e := ["failed to insert retrieval artifact", constraint]) hes hstuck)
    constructor
    · rintro ⟨-, h⟩
      exact h 0
    · intro h
      exact ⟨fun _ => allOrNothing_error.mpr (allOrNothing_error.mp h), fun _ => h⟩
  | none =>
    have hdone : Completes context db update rows := hcompletes.mpr hvalid
    have happlied : applied context update rows =
        archived update rows ++ [upsertedArtifact update sourceEpisodeId] := by
      unfold applied
      rw [hop]
      rw [hanchor]
      rfl
    have hw' : Reached db (applied context update rows) { w with
        db := { w.db with retrievalArtifacts :=
          w.db.retrievalArtifacts ++ [upsertedArtifact update sourceEpisodeId] } } := by
      refine ⟨auditEvents, ?_⟩
      show { w.db with retrievalArtifacts :=
        w.db.retrievalArtifacts ++ [upsertedArtifact update sourceEpisodeId] } = _
      rw [happlied]
      rw [hdb]
    have hopen : openArchives (es ++ [.retrievalInserted update.updateId]) = [] ↔
        selected update rows = [] := by
      rw [openArchives_append]
      exact open_eq_nil hes
    have hend : (mayFail = true → openArchives (es ++ [.retrievalInserted update.updateId]) =
          []) ∧ H ↔
        (selected update rows = [] ∨ mayFail = false ∧ Completes context db update rows) ∧
          (Completes context db update rows → H) := by
      rw [hopen]
      cases mayFail with
      | true => simp [hdone]
      | false => simp [hdone]
    rw [← hend]
    constructor
    · rintro ⟨-, h⟩
      exact (hf _ _ hw').mp (h 0)
    · intro h
      refine ⟨fun hmay => allOrNothing_error.mpr ?_, fun now => (hf _ _ hw').mpr h⟩
      exact (open_eq_nil hes).mpr (hopen.mp (h.1 hmay))

theorem applyUpsert_alone (hop : update.operation = .upsert)
    {summary : RetrievalUpdateApplicationSummary} (hw : Reached db rows w)
    (hes : openArchives es = [])
    (hrest : Establishes mayFail db (applied context update rows) rest H) :
    ((applyUpsert context update summary).bind fun applied =>
        (Prog.emit (S := system) (.retrievalUpdateApplied update.updateId)).bind fun _ =>
          rest applied).Alone (worldAnswers mayFail) EndsAllOrNothing w es ↔
      (selected update rows = [] ∨ mayFail = false ∧ Completes context db update rows) ∧
        (Completes context db update rows → H) := by
  unfold applyUpsert
  rw [Prog.bind_eq]
  rw [Prog.bind_assoc]
  refine archiveBySourceRef_alone hw hes fun n w' es' hw' hes' => ?_
  rw [Prog.bind_eq]
  rw [Prog.bind_assoc]
  cases hanchor : context.episodeIds.head? with
  | none =>
    exact allOrNothing_iff_of_stuck
      (e := ["retrieval maintenance upsert requires a scoped episode anchor"]) hes'
      (not_completes_of_no_anchor hop hanchor)
  | some sourceEpisodeId =>
    show ((Continuity.insertRetrievalArtifact (upsertedArtifact update sourceEpisodeId)).bind
      _ |>.bind _).Alone _ _ w' es' ↔ _
    rw [Prog.bind_assoc]
    refine insertArtifact_alone hop hanchor hw' hes' fun w'' es'' hw'' => ?_
    exact audited_alone hw'' hrest

/-! ## The loop -/

/-- One turn of the loop: what it needs, and what the rest needs if it completes. -/
theorem applyRetrievalUpdate_alone {summary : RetrievalUpdateApplicationSummary}
    (hvalid : validateRetrievalUpdate update = .ok ()) (hw : Reached db rows w)
    (hes : openArchives es = [])
    (hrest : Establishes mayFail db (applied context update rows) rest H) :
    ((applyRetrievalUpdate context summary update).bind rest).Alone (worldAnswers mayFail)
        EndsAllOrNothing w es ↔
      (selected update rows = [] ∨ mayFail = false ∧ Completes context db update rows) ∧
        (Completes context db update rows → H) := by
  unfold applyRetrievalUpdate
  rw [hvalid]
  rw [Prog.ofExcept_ok]
  rw [Prog.bind_eq]
  rw [Prog.ret_bind]
  cases hop : update.operation with
  | archive =>
    have hcompletes : Completes context db update rows := by
      intro hupsert
      rw [hop] at hupsert
      cases hupsert
    show (((applyArchive context update _).bind _).bind rest).Alone _ _ w es ↔ _
    rw [Prog.bind_assoc]
    refine (applyArchive_alone hop hw hes hrest).trans ?_
    simp [hcompletes]
  | upsert =>
    show (((applyUpsert context update _).bind _).bind rest).Alone _ _ w es ↔ _
    rw [Prog.bind_assoc]
    exact applyUpsert_alone hop hw hes hrest

/-- What the rest of the list needs, by induction on it: an update that is refused ends the
call before it has archived anything. -/
theorem foldlM_establishes (updates : List RetrievalUpdateProposal)
    (rows : List RetrievalArtifactRecord) :
    Establishes mayFail db rows
      (fun summary => Prog.foldlM (applyRetrievalUpdate context) summary updates)
      (Harmless mayFail context db updates rows) := by
  induction updates generalizing rows with
  | nil =>
    intro summary w es _ _
    exact iff_of_true (fun e he => nomatch he) trivial
  | cons update updates ih =>
    intro summary w es hw hes
    show ((applyRetrievalUpdate context summary update).bind fun summary =>
      Prog.foldlM (applyRetrievalUpdate context) summary updates).Alone _ _ w es ↔ _
    unfold Harmless
    cases hvalid : validateRetrievalUpdate update with
    | error e =>
      have hfails : (applyRetrievalUpdate context summary update).bind (fun summary =>
          Prog.foldlM (applyRetrievalUpdate context) summary updates) = .fail e := by
        unfold applyRetrievalUpdate
        rw [hvalid]
        rfl
      rw [hfails]
      refine iff_of_true (allOrNothing_error.mpr hes) ?_
      intro hok
      cases hok
    | ok checked =>
      rw [applyRetrievalUpdate_alone hvalid hw hes (ih _)]
      exact ⟨fun h _ => h, fun h => h rfl⟩

end Update

/-! ## Every call -/

/-- A call of `apply_retrieval_updates`, on its own. -/
def call (context : RetrievalUpdateApplicationContext) (updates : List RetrievalUpdateProposal)
    (w : World) (o : Oracle system) : Run system RetrievalUpdateApplicationSummary :=
  (applyRetrievalUpdates context updates).run o 0 w

/-- Whatever the world answers, a call that fails has archived nothing with the update at
which it failed, exactly when no update of the list can be left half applied. -/
theorem call_allOrNothing_iff (mayFail : Bool) (context : RetrievalUpdateApplicationContext)
    (updates : List RetrievalUpdateProposal) (w : World) :
    (∀ o : Oracle system, (∀ n q, worldAnswers mayFail q (o n q)) →
        AllOrNothing (call context updates w o).result (call context updates w o).events) ↔
      Harmless mayFail context w.db updates w.db.retrievalArtifacts := by
  have hsteady : ∀ n q, worldAnswers mayFail q (steady 0 n q) := by
    intro n q
    cases q with
    | statement => exact Or.inr rfl
    | _ => trivial
  have hloop : Establishes mayFail w.db w.db.retrievalArtifacts
      (fun summary => Prog.foldlM (applyRetrievalUpdate context) summary updates)
      (Harmless mayFail context w.db updates w.db.retrievalArtifacts) := foldlM_establishes updates _
  rw [← hloop {} w [] ⟨w.db.auditEvents, rfl⟩ rfl]
  exact (Prog.alone_iff_answered_runs _ (p := applyRetrievalUpdates context updates)
    (Q := EndsAllOrNothing) (s := w) hsteady).symm

/-! ### An upsert without an episode -/

/-- A maintained document of a conversation. -/
def maintainedArtifact : RetrievalArtifactRecord where
  retrievalArtifactId := 10
  sourceKind := "episode"
  sourceEpisodeId := some 20
  sourceMemoryArtifactId := none
  internalConversationRef := some "telegram-primary"
  lexicalDocument := "prefers direct answers"
  relevanceTimestamp := 0
  status := .active
  sourceRef := some "background_job:1"

/-- The update that is to replace it. -/
def refreshingUpdate : RetrievalUpdateProposal where
  updateId := 11
  operation := .upsert
  sourceRef := "background_job:1"
  lexicalDocument := "prefers short answers"
  relevanceTimestamp := 0
  internalConversationRef := some "telegram-primary"
  rationale := none

/-- A job whose scope has no episode. -/
def unscopedContext : RetrievalUpdateApplicationContext where
  traceId := 1
  executionId := 2
  sourceLoopKind := "unconscious"
  subsystem := "background_execution"
  episodeIds := []

/-- The world of the call below. -/
def maintainedWorld : World where
  db := {
    executionRecords := [{
      executionId := 2, traceId := 1, triggerKind := "background_job"
      syntheticTrigger := none, status := "started", requestPayload := .null }]
    episodes := [{
      episodeId := 20, traceId := 1, executionId := 2, ingressId := none
      internalPrincipalRef := "primary-user", internalConversationRef := "telegram-primary"
      triggerKind := "user_ingress", triggerSource := "telegram", status := "completed"
      startedAt := 0 }]
    retrievalArtifacts := [maintainedArtifact] }

/-- The document is archived, and then the call finds that it has no episode for the new
one. -/
theorem unscoped_upsert_archives :
    ¬AllOrNothing (call unscopedContext [refreshingUpdate] maintainedWorld (steady 0)).result
      (call unscopedContext [refreshingUpdate] maintainedWorld (steady 0)).events := by
  intro hlaw
  have hfailed : (call unscopedContext [refreshingUpdate] maintainedWorld (steady 0)).result =
      .error ["retrieval maintenance upsert requires a scoped episode anchor"] := by
    decide +kernel
  have hopen : openArchives
      (call unscopedContext [refreshingUpdate] maintainedWorld (steady 0)).events = [10] := by
    decide +kernel
  have hnone := hlaw _ hfailed
  rw [hopen] at hnone
  cases hnone

end BlueLagoon.Retrieval
