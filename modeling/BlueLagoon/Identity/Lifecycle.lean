import BlueLagoon.Identity.UniqueKeys
import BlueLagoon.Interleaving.Undisturbed

/-!
# The lifecycle and the interviews under concurrent merges

The actions of the kickstart read the lifecycle and the interview in statements of their
own and write them later, and plain deltas write the lifecycle too. The two tables stay
consistent in every interleaving in which nobody writes an interview between the read and
the write of an answer, and in which every write finds the tables ready for it: an
interview is started when there is none and the identity is not complete, none is
cancelled, answers are not blank, and the lifecycle is recorded neither as a kickstart
in progress nor as anything else when the identity is complete.
-/

namespace BlueLagoon

open Interleaving Harness

namespace Identity

/-! ## Consistency -/

/-- The answers that were written into an interview, in order. -/
def answersOf {ι : Type} (log : List (ι × Event)) (interviewId : Uuid) :
    List (String × String) :=
  log.filterMap fun entry =>
    match entry.2 with
    | .interviewAnswered id answer => if id = interviewId then some answer else none
    | _ => none

/-- The lifecycle points to an interview in progress. -/
def PointsToInterview (lifecycle : IdentityLifecycleRecord) (db : Database) : Prop :=
  ∃ interview ∈ db.identityKickstartInterviews, interview.status = .inProgress ∧
    lifecycle.activeInterviewId = some interview.identityInterviewId

/-- The interview holds one answer that is not blank for each of the first steps, and every
answer that was written into it. -/
structure AnsweredInOrder {ι : Type} (log : List (ι × Event))
    (interview : IdentityInterviewRecord) : Prop where
  complete : interview.answeredFields = answersOf log interview.identityInterviewId
  steps : ∃ n, interview.answeredFields.map Prod.fst = customIdentitySteps.take n
  given : ∀ field ∈ interview.answeredFields, Text.isBlank field.2 = false

/-- The interviews and the lifecycle fit together. -/
structure InterviewsConsistent {ι : Type} (v : Shared system ι) : Prop where
  single : ∀ a ∈ v.state.db.identityKickstartInterviews,
    ∀ b ∈ v.state.db.identityKickstartInterviews, a.status = .inProgress →
      b.status = .inProgress → a = b
  pointed : ∀ lifecycle, currentLifecycle v.state.db = some lifecycle →
    (lifecycle.lifecycleState = .identityKickstartInProgress ↔
      PointsToInterview lifecycle v.state.db)
  answers : ∀ interview ∈ v.state.db.identityKickstartInterviews,
    AnsweredInOrder v.log interview

/-! ## The discipline -/

/-- Interviews are the parts that are read and written. A write is good when it finds the
tables ready for it. -/
def footprint : Footprint system where
  Part := Uuid
  Observes event interviewId := event = .interviewRead interviewId
  Writes event interviewId :=
    match event with
    | .interviewStarted id _ _ | .interviewAnswered id _ | .interviewCancelled id
    | .interviewReset id => id = interviewId
    | _ => False
  Fine event :=
    match event with
    | .interviewStarted _ before inProgress =>
      inProgress = [] ∧ before ≠ some .completeIdentityActive
    | .interviewAnswered _ answer => Text.isBlank answer.2 = false
    | .interviewCancelled _ => False
    | .lifecycleRecorded before state => state ≠ .identityKickstartInProgress ∧
        (before = some .completeIdentityActive → state = .completeIdentityActive)
    | _ => True

/-- An interview. -/
def view (interviewId : Uuid) (w : World) : Option IdentityInterviewRecord :=
  Table.find IdentityInterviewRecord.identityInterviewId interviewId
    w.db.identityKickstartInterviews

/-- The next step of an interview in progress. -/
def AtNextStep (interview : IdentityInterviewRecord) : Prop :=
  interview.status = .inProgress →
    customIdentitySteps[interview.answeredFields.length]? = some interview.currentStep

/-- What the merges keep. -/
structure Invariant {ι : Type} (v : Shared system ι) : Prop where
  consistent : InterviewsConsistent v
  ids : (v.state.db.identityKickstartInterviews.map
    IdentityInterviewRecord.identityInterviewId).Nodup
  next : ∀ interview ∈ v.state.db.identityKickstartInterviews, AtNextStep interview
  stored : ∀ interviewId, answersOf v.log interviewId ≠ [] →
    ∃ interview ∈ v.state.db.identityKickstartInterviews,
      interview.identityInterviewId = interviewId

/-! ## The answers in the log -/

section Log

variable {ι : Type} {log new : List (ι × Event)} {interviewId : Uuid}

theorem answersOf_append : answersOf (log ++ new) interviewId =
    answersOf log interviewId ++ answersOf new interviewId :=
  List.filterMap_append ..

/-- No answer is among the events. -/
def NoAnswers (events : List Event) : Prop :=
  ∀ id answer, Event.interviewAnswered id answer ∉ events

theorem answersOf_eq_nil {i : ι} {events : List Event} (h : NoAnswers events) :
    answersOf (events.map (Prod.mk i)) interviewId = [] := by
  rw [answersOf, List.filterMap_eq_nil_iff]
  intro entry hentry
  obtain ⟨event, hevent, rfl⟩ := List.mem_map.mp hentry
  cases event with
  | interviewAnswered id answer => exact absurd hevent (h id answer)
  | _ => rfl

theorem answersOf_answered {i : ι} {id : Uuid} {answer : String × String} :
    answersOf [(i, Event.interviewAnswered id answer)] interviewId =
      if id = interviewId then [answer] else [] := by
  rw [answersOf, List.filterMap_cons]
  by_cases hid : id = interviewId
  · simp [hid]
  · simp [hid]

end Log

/-! ## The steps of an interview -/

section Steps

variable {answeredFields : List (String × String)}

private theorem find_missing : ∀ n ≤ customIdentitySteps.length,
    (customIdentitySteps.find? fun step => !(customIdentitySteps.take n).contains step) =
      customIdentitySteps[n]? := by
  decide +kernel

theorem customIdentitySteps_nodup : customIdentitySteps.Nodup := by decide

/-- The steps that are answered are the first ones. -/
theorem keys_eq_take (h : ∃ n, answeredFields.map Prod.fst = customIdentitySteps.take n) :
    answeredFields.map Prod.fst = customIdentitySteps.take answeredFields.length ∧
      answeredFields.length ≤ customIdentitySteps.length := by
  obtain ⟨n, hkeys⟩ := h
  have hlength : answeredFields.length = min n customIdentitySteps.length := by
    rw [← List.length_map (f := Prod.fst), hkeys, List.length_take]
  refine ⟨?_, by omega⟩
  rw [hkeys, hlength, List.take_eq_take_iff]
  omega

/-- The next missing step comes after the answered ones. -/
theorem nextMissingStep_eq (h : ∃ n, answeredFields.map Prod.fst = customIdentitySteps.take n) :
    nextMissingStep answeredFields = customIdentitySteps[answeredFields.length]? := by
  obtain ⟨hkeys, hlength⟩ := keys_eq_take h
  rw [nextMissingStep, hkeys]
  exact find_missing _ hlength

/-- The answer to the next step comes last. -/
theorem insertField_next (h : ∃ n, answeredFields.map Prod.fst = customIdentitySteps.take n)
    {step : String} (hstep : customIdentitySteps[answeredFields.length]? = some step)
    (text : String) :
    insertField answeredFields step text = answeredFields ++ [(step, text)] ∧
      (answeredFields ++ [(step, text)]).map Prod.fst =
        customIdentitySteps.take (answeredFields.length + 1) := by
  obtain ⟨hkeys, -⟩ := keys_eq_take h
  have hnew : step ∉ answeredFields.map Prod.fst := by
    rw [hkeys]
    intro hmem
    obtain ⟨hlt, hget⟩ := List.getElem?_eq_some_iff.mp hstep
    obtain ⟨m, hm, hgetm⟩ := List.mem_take_iff_getElem.mp hmem
    have hsame := (List.Nodup.getElem_inj_iff customIdentitySteps_nodup).mp (hgetm.trans hget.symm)
    omega
  refine ⟨?_, ?_⟩
  · rw [insertField, if_neg]
    rw [List.contains_iff_mem]
    exact hnew
  · rw [List.map_append, hkeys, List.take_add_one, hstep]
    rfl

end Steps

/-! ## What each write keeps -/

section Writes

variable {ι : Type} {i : ι} {v : Shared system ι} {w : World} {events : List Event}

/-- Neither an interview nor the lifecycle changes. -/
theorem Invariant.same (h : Invariant v)
    (hrows : w.db.identityKickstartInterviews = v.state.db.identityKickstartInterviews)
    (hlifecycle : currentLifecycle w.db = currentLifecycle v.state.db) (hevents : NoAnswers events) :
    Invariant (v.push i w events) := by
  have hanswers : ∀ id, answersOf (v.push i w events).log id = answersOf v.log id := by
    intro id
    rw [Shared.push_log, answersOf_append, answersOf_eq_nil hevents, List.append_nil]
  refine ⟨⟨?_, ?_, ?_⟩, ?_, ?_, ?_⟩
  · rw [Shared.push_state, hrows]
    exact h.consistent.single
  · intro lifecycle hcurrent
    rw [Shared.push_state] at hcurrent ⊢
    rw [hlifecycle] at hcurrent
    rw [PointsToInterview, hrows]
    exact h.consistent.pointed lifecycle hcurrent
  · intro interview hmem
    rw [Shared.push_state, hrows] at hmem
    obtain ⟨hcomplete, hsteps, hgiven⟩ := h.consistent.answers interview hmem
    exact ⟨by rw [hanswers]; exact hcomplete, hsteps, hgiven⟩
  · rw [Shared.push_state, hrows]
    exact h.ids
  · rw [Shared.push_state, hrows]
    exact h.next
  · intro id hid
    rw [hanswers] at hid
    rw [Shared.push_state, hrows]
    exact h.stored id hid

/-- A lifecycle row that points to no interview is recorded. -/
theorem Invariant.recorded (h : Invariant v)
    (hrows : w.db.identityKickstartInterviews = v.state.db.identityKickstartInterviews)
    {lifecycle : IdentityLifecycleRecord} (hcurrent : currentLifecycle w.db = some lifecycle)
    (hstate : lifecycle.lifecycleState ≠ .identityKickstartInProgress)
    (hnone : lifecycle.activeInterviewId = none) (hevents : NoAnswers events) :
    Invariant (v.push i w events) := by
  -- All but the lifecycle is as it was.
  have hsame : Invariant (v.push i { w with db := { w.db with
      identityLifecycle := v.state.db.identityLifecycle } } events) :=
    h.same hrows rfl hevents
  refine ⟨⟨hsame.consistent.single, ?_, hsame.consistent.answers⟩, hsame.ids, hsame.next,
    hsame.stored⟩
  intro lifecycle' hcurrent'
  have heq : lifecycle' = lifecycle := Option.some.inj (hcurrent'.symm.trans hcurrent)
  rw [heq]
  refine iff_of_false hstate ?_
  rintro ⟨interview, -, -, hactive⟩
  rw [hnone] at hactive
  cases hactive

/-- The lifecycle after a row was recorded. -/
theorem currentLifecycle_recorded {row : IdentityLifecycleRecord} {now : DateTime}
    {db db' : Database} (h : recordLifecycleTransition row now db = .ok db')
    (hcurrent : row.status = .current) :
    currentLifecycle db' = some { row with createdAt := now, updatedAt := now } := by
  have hnone : (supersedeLifecycle now db).identityLifecycle.filter
      (fun row => decide (row.status = .current)) = [] := by
    rw [List.filter_eq_nil_iff]
    intro row hrow
    rcases Table.mem_update.mp hrow with ⟨-, hw⟩ | ⟨old, -, -, rfl⟩
    · simpa using hw
    · simp
  rw [recordLifecycleTransition_eq_ok h, currentLifecycle]
  dsimp only
  rw [List.filter_append, hnone, List.nil_append, List.filter_cons, if_pos (by simpa using hcurrent)]
  rfl

/-- A new interview, and the lifecycle that points to it. -/
theorem Invariant.started (h : Invariant v) {interview : IdentityInterviewRecord}
    (hrows : w.db.identityKickstartInterviews =
      v.state.db.identityKickstartInterviews ++ [interview])
    (hfresh : ∀ other ∈ v.state.db.identityKickstartInterviews,
      other.identityInterviewId ≠ interview.identityInterviewId)
    (hempty : interviewsInProgress v.state.db = []) (hstatus : interview.status = .inProgress)
    (hstep : interview.currentStep = "name") (hfields : interview.answeredFields = [])
    {lifecycle : IdentityLifecycleRecord} (hcurrent : currentLifecycle w.db = some lifecycle)
    (hstate : lifecycle.lifecycleState = .identityKickstartInProgress)
    (hactive : lifecycle.activeInterviewId = some interview.identityInterviewId)
    (hevents : NoAnswers events) : Invariant (v.push i w events) := by
  have hanswers : ∀ id, answersOf (v.push i w events).log id = answersOf v.log id := by
    intro id
    rw [Shared.push_log, answersOf_append, answersOf_eq_nil hevents, List.append_nil]
  have hidle : ∀ other ∈ v.state.db.identityKickstartInterviews, other.status ≠ .inProgress := by
    intro other hother hprogress
    have hmem : other.identityInterviewId ∈ interviewsInProgress v.state.db :=
      List.mem_map_of_mem (List.mem_filter.mpr ⟨hother, by simpa using hprogress⟩)
    rw [hempty] at hmem
    exact List.not_mem_nil hmem
  refine ⟨⟨?_, ?_, ?_⟩, ?_, ?_, ?_⟩
  -- only the new interview is in progress
  · intro a ha b hb haProgress hbProgress
    rw [Shared.push_state, hrows] at ha hb
    rcases List.mem_append.mp ha with hold | hlast
    · exact absurd haProgress (hidle a hold)
    rcases List.mem_append.mp hb with hold' | hlast'
    · exact absurd hbProgress (hidle b hold')
    rw [List.mem_singleton.mp hlast, List.mem_singleton.mp hlast']
  · intro lifecycle' hcurrent'
    have heq : lifecycle' = lifecycle := Option.some.inj (hcurrent'.symm.trans hcurrent)
    rw [heq]
    refine iff_of_true hstate ⟨interview, ?_, hstatus, hactive⟩
    rw [Shared.push_state, hrows]
    exact List.mem_append_right _ List.mem_cons_self
  · intro other hmem
    rw [Shared.push_state, hrows] at hmem
    rcases List.mem_append.mp hmem with hold | hlast
    · obtain ⟨hcomplete, hsteps, hgiven⟩ := h.consistent.answers other hold
      exact ⟨by rw [hanswers]; exact hcomplete, hsteps, hgiven⟩
    · rw [List.mem_singleton.mp hlast]
      -- an identifier that is new has no answers in the log yet
      have hnone : answersOf v.log interview.identityInterviewId = [] := by
        by_contra hsome
        obtain ⟨old, hold, hid⟩ := h.stored _ hsome
        exact hfresh old hold hid
      refine ⟨?_, ⟨0, ?_⟩, ?_⟩
      · rw [hanswers, hnone, hfields]
      · rw [hfields]
        rfl
      · rw [hfields]
        simp
  · rw [Shared.push_state, hrows, List.map_append, List.nodup_append]
    refine ⟨h.ids, List.nodup_singleton _, ?_⟩
    intro id hid id' hid'
    obtain ⟨other, hother, rfl⟩ := List.mem_map.mp hid
    obtain rfl : id' = interview.identityInterviewId := by simpa using hid'
    exact hfresh other hother
  · intro other hmem
    rw [Shared.push_state, hrows] at hmem
    rcases List.mem_append.mp hmem with hold | hlast
    · exact h.next other hold
    · rw [List.mem_singleton.mp hlast]
      intro _
      rw [hfields, hstep]
      rfl
  · intro id hid
    rw [hanswers] at hid
    obtain ⟨old, hold, hkey⟩ := h.stored id hid
    refine ⟨old, ?_, hkey⟩
    rw [Shared.push_state, hrows]
    exact List.mem_append_left _ hold

/-! ### Answers -/

/-- The row of an interview after an answer. -/
def answeredRow (interview : IdentityInterviewRecord) (answer : String × String)
    (status : IdentityInterviewStatus) (currentStep : String) (now : DateTime) :
    IdentityInterviewRecord :=
  { interview with
      status := status
      currentStep := currentStep
      answeredFields := insertField interview.answeredFields answer.1 answer.2
      updatedAt := now }

section Answer

variable {interview : IdentityInterviewRecord} {answer : String × String}
  {status : IdentityInterviewStatus} {currentStep : String} {now : DateTime}

/-- What an update of an interview leaves: the other interviews, and its new row. -/
theorem mem_updated (h : Invariant v)
    (hview : view interview.identityInterviewId v.state = some interview)
    {other : IdentityInterviewRecord} :
    other ∈ (updateIdentityInterviewState interview.identityInterviewId status currentStep
        (insertField interview.answeredFields answer.1 answer.2) now
        v.state.db).identityKickstartInterviews ↔
      (other ∈ v.state.db.identityKickstartInterviews ∧
        other.identityInterviewId ≠ interview.identityInterviewId) ∨
      other = answeredRow interview answer status currentStep now := by
  have hmem : interview ∈ v.state.db.identityKickstartInterviews := Table.mem_of_find hview
  rw [updateIdentityInterviewState, Table.mem_update]
  constructor
  · rintro (⟨hold, hw⟩ | ⟨old, hold, hw, rfl⟩)
    · exact Or.inl ⟨hold, by simpa using hw⟩
    · have hid : old.identityInterviewId = interview.identityInterviewId := by simpa using hw
      rw [Table.eq_of_mem_of_key h.ids hold hmem hid]
      exact Or.inr rfl
  · rintro (⟨hold, hne⟩ | rfl)
    · exact Or.inl ⟨hold, by simpa using hne⟩
    · exact Or.inr ⟨interview, hmem, by simp, rfl⟩

/-- An answer that is taken to the current step of an interview in progress. -/
theorem Invariant.answered (h : Invariant v)
    (hview : view interview.identityInterviewId v.state = some interview)
    (hprogress : interview.status = .inProgress) (hstep : answer.1 = interview.currentStep)
    (hgiven : Text.isBlank answer.2 = false)
    (hrows : w.db.identityKickstartInterviews =
      (updateIdentityInterviewState interview.identityInterviewId status currentStep
        (insertField interview.answeredFields answer.1 answer.2) now
        v.state.db).identityKickstartInterviews)
    (hnext : status = .inProgress →
      nextMissingStep (insertField interview.answeredFields answer.1 answer.2) = some currentStep)
    (hpointed : ∀ lifecycle, currentLifecycle w.db = some lifecycle →
      (lifecycle.lifecycleState = .identityKickstartInProgress ↔
        PointsToInterview lifecycle w.db)) :
    Invariant (v.push i w [.interviewAnswered interview.identityInterviewId answer]) := by
  have hmem : interview ∈ v.state.db.identityKickstartInterviews := Table.mem_of_find hview
  have hupdated : ∀ other, other ∈ w.db.identityKickstartInterviews ↔
      (other ∈ v.state.db.identityKickstartInterviews ∧
        other.identityInterviewId ≠ interview.identityInterviewId) ∨
      other = answeredRow interview answer status currentStep now := by
    intro other
    rw [hrows]
    exact mem_updated h hview
  obtain ⟨hcomplete, hsteps, hfields⟩ := h.consistent.answers interview hmem
  -- The answer is to the first step that is not answered.
  have hcurrent : customIdentitySteps[interview.answeredFields.length]? = some answer.1 := by
    rw [hstep]
    exact h.next interview hmem hprogress
  obtain ⟨hinsert, hkeys⟩ := insertField_next hsteps hcurrent answer.2
  have hlog : ∀ id, answersOf (v.push i w
      [.interviewAnswered interview.identityInterviewId answer]).log id = answersOf v.log id ++
        if interview.identityInterviewId = id then [answer] else [] := by
    intro id
    rw [Shared.push_log, answersOf_append]
    congr 1
    exact answersOf_answered
  refine ⟨⟨?_, hpointed, ?_⟩, ?_, ?_, ?_⟩
  · intro a ha b hb haProgress hbProgress
    rw [Shared.push_state, hupdated] at ha hb
    rcases ha with ⟨haOld, haNe⟩ | rfl <;> rcases hb with ⟨hbOld, hbNe⟩ | rfl
    · exact h.consistent.single a haOld b hbOld haProgress hbProgress
    · rw [h.consistent.single a haOld interview hmem haProgress hprogress] at haNe
      exact absurd rfl haNe
    · rw [h.consistent.single b hbOld interview hmem hbProgress hprogress] at hbNe
      exact absurd rfl hbNe
    · rfl
  · intro other hother
    rw [Shared.push_state, hupdated] at hother
    rcases hother with ⟨hold, hne⟩ | rfl
    · obtain ⟨hcomplete', hsteps', hgiven'⟩ := h.consistent.answers other hold
      refine ⟨?_, hsteps', hgiven'⟩
      rw [hlog, if_neg (Ne.symm hne), List.append_nil]
      exact hcomplete'
    · refine ⟨?_, ⟨interview.answeredFields.length + 1, ?_⟩, ?_⟩
      · show insertField interview.answeredFields answer.1 answer.2 =
          answersOf _ interview.identityInterviewId
        rw [hlog, if_pos rfl, ← hcomplete]
        exact hinsert
      · show (insertField interview.answeredFields answer.1 answer.2).map Prod.fst = _
        rw [hinsert]
        exact hkeys
      · intro field hfield
        have hmem' : field ∈ interview.answeredFields ++ [(answer.1, answer.2)] := by
          rw [← hinsert]
          exact hfield
        rcases List.mem_append.mp hmem' with hold | hlast
        · exact hfields field hold
        · rw [List.mem_singleton.mp hlast]
          exact hgiven
  · rw [Shared.push_state, hrows]
    have hkeys : (updateIdentityInterviewState interview.identityInterviewId status currentStep
        (insertField interview.answeredFields answer.1 answer.2) now
        v.state.db).identityKickstartInterviews.map IdentityInterviewRecord.identityInterviewId =
        v.state.db.identityKickstartInterviews.map IdentityInterviewRecord.identityInterviewId :=
      Table.map_key_update fun _ => rfl
    rw [hkeys]
    exact h.ids
  · intro other hother
    rw [Shared.push_state, hupdated] at hother
    rcases hother with ⟨hold, -⟩ | rfl
    · exact h.next other hold
    · intro hstill
      show customIdentitySteps[(insertField interview.answeredFields answer.1 answer.2).length]? =
        some currentStep
      rw [← hnext hstill, hinsert, nextMissingStep_eq ⟨_, hkeys⟩]
  · intro id hid
    rw [hlog] at hid
    rw [Shared.push_state]
    by_cases hsame : interview.identityInterviewId = id
    · exact ⟨_, (hupdated _).mpr (Or.inr rfl), hsame⟩
    · rw [if_neg hsame, List.append_nil] at hid
      obtain ⟨old, hold, hkey⟩ := h.stored id hid
      refine ⟨old, (hupdated old).mpr (Or.inl ⟨hold, ?_⟩), hkey⟩
      rw [hkey]
      exact Ne.symm hsame

/-- An interview that stays in progress is pointed to as before. -/
theorem pointed_of_advanced (h : Invariant v)
    (hview : view interview.identityInterviewId v.state = some interview)
    (hprogress : interview.status = .inProgress)
    (hrows : w.db.identityKickstartInterviews =
      (updateIdentityInterviewState interview.identityInterviewId .inProgress currentStep
        (insertField interview.answeredFields answer.1 answer.2) now
        v.state.db).identityKickstartInterviews) (lifecycle : IdentityLifecycleRecord) :
    PointsToInterview lifecycle w.db ↔ PointsToInterview lifecycle v.state.db := by
  have hmem : interview ∈ v.state.db.identityKickstartInterviews := Table.mem_of_find hview
  rw [PointsToInterview, hrows]
  constructor
  · rintro ⟨other, hother, hstatus, hactive⟩
    rcases (mem_updated h hview).mp hother with ⟨hold, -⟩ | rfl
    · exact ⟨other, hold, hstatus, hactive⟩
    · exact ⟨interview, hmem, hprogress, hactive⟩
  · rintro ⟨other, hother, hstatus, hactive⟩
    by_cases hid : other.identityInterviewId = interview.identityInterviewId
    · refine ⟨_, (mem_updated h hview).mpr (Or.inr rfl), rfl, ?_⟩
      rw [hactive, hid]
      rfl
    · exact ⟨other, (mem_updated h hview).mpr (Or.inl ⟨hother, hid⟩), hstatus, hactive⟩

end Answer

/-! ### Resets -/

/-- The row of an interview that a reset cancels. -/
def cancelledRow (now : DateTime) (row : IdentityInterviewRecord) : IdentityInterviewRecord :=
  { row with status := .cancelled, currentStep := "cancelled", updatedAt := now }

/-- A reset cancels the interviews in progress and points to none. -/
theorem Invariant.reset (h : Invariant v) {now : DateTime}
    (hrows : w.db.identityKickstartInterviews =
      Table.update (fun row => row.status = .inProgress) (cancelledRow now)
        v.state.db.identityKickstartInterviews)
    {lifecycle : IdentityLifecycleRecord} (hcurrent : currentLifecycle w.db = some lifecycle)
    (hstate : lifecycle.lifecycleState ≠ .identityKickstartInProgress)
    (hnone : lifecycle.activeInterviewId = none) (hevents : NoAnswers events) :
    Invariant (v.push i w events) := by
  have hanswers : ∀ id, answersOf (v.push i w events).log id = answersOf v.log id := by
    intro id
    rw [Shared.push_log, answersOf_append, answersOf_eq_nil hevents, List.append_nil]
  have hidle : ∀ other ∈ w.db.identityKickstartInterviews, other.status ≠ .inProgress := by
    intro other hother
    rw [hrows] at hother
    rcases Table.mem_update.mp hother with ⟨-, hw⟩ | ⟨old, -, -, rfl⟩
    · simpa using hw
    · rintro ⟨⟩
  refine ⟨⟨?_, ?_, ?_⟩, ?_, ?_, ?_⟩
  · intro a ha b hb haProgress
    exact absurd haProgress (hidle a ha)
  · intro lifecycle' hcurrent'
    have heq : lifecycle' = lifecycle := Option.some.inj (hcurrent'.symm.trans hcurrent)
    rw [heq]
    refine iff_of_false hstate ?_
    rintro ⟨interview, -, -, hactive⟩
    rw [hnone] at hactive
    cases hactive
  · intro other hother
    rw [Shared.push_state, hrows] at hother
    rcases Table.mem_update.mp hother with ⟨hold, -⟩ | ⟨old, hold, -, rfl⟩
    · obtain ⟨hcomplete, hsteps, hgiven⟩ := h.consistent.answers other hold
      exact ⟨by rw [hanswers]; exact hcomplete, hsteps, hgiven⟩
    · obtain ⟨hcomplete, hsteps, hgiven⟩ := h.consistent.answers old hold
      exact ⟨by rw [hanswers]; exact hcomplete, hsteps, hgiven⟩
  · have hkeys : (Table.update (fun row => decide (row.status = .inProgress)) (cancelledRow now)
        v.state.db.identityKickstartInterviews).map IdentityInterviewRecord.identityInterviewId =
        v.state.db.identityKickstartInterviews.map IdentityInterviewRecord.identityInterviewId :=
      Table.map_key_update fun _ => rfl
    rw [Shared.push_state, hrows, hkeys]
    exact h.ids
  · intro other hother hprogress
    exact absurd hprogress (hidle other hother)
  · intro id hid
    rw [hanswers] at hid
    obtain ⟨old, hold, hkey⟩ := h.stored id hid
    rw [Shared.push_state, hrows]
    by_cases hprogress : old.status = .inProgress
    · exact ⟨cancelledRow now old, Table.mem_update.mpr (Or.inr ⟨old, hold, by simpa using hprogress, rfl⟩),
        hkey⟩
    · exact ⟨old, Table.mem_update.mpr (Or.inl ⟨hold, by simpa using hprogress⟩), hkey⟩

end Writes

/-! ## Writes of items leave the interviews alone -/

section Items

variable {now : DateTime} {db db' : Database}

theorem insertItems_interviews {rows : List IdentityItemRecord}
    (h : insertItems rows now db = .ok db') :
    db'.identityKickstartInterviews = db.identityKickstartInterviews := by
  induction rows generalizing db with
  | nil =>
    obtain rfl := Except.ok.inj h
    rfl
  | cons row rows ih =>
    rw [insertItems] at h
    cases hinsert : insertIdentityItem row now db with
    | error e =>
      rw [hinsert] at h
      cases h
    | ok inserted =>
      rw [hinsert] at h
      rw [ih h, (insertIdentityItem_eq_ok hinsert).1]

/-- The interviews and the lifecycle of a database are those of another. -/
def SameKickstart (db db' : Database) : Prop :=
  db'.identityKickstartInterviews = db.identityKickstartInterviews ∧
    db'.identityLifecycle = db.identityLifecycle

theorem SameKickstart.write {write : ItemWrite} (h : write.run now db = .ok db') :
    SameKickstart db db' := by
  rw [(ItemWrite.run_eq_ok h).1]
  exact ⟨rfl, rfl⟩

theorem SameKickstart.trans {db'' : Database} (h : SameKickstart db db')
    (h' : SameKickstart db' db'') : SameKickstart db db'' :=
  ⟨h'.1.trans h.1, h'.2.trans h.2⟩

theorem SameKickstart.deltas {tables : Text.Tables} {context : ProposalProcessingContext}
    {proposal : CanonicalProposal} {payload : IdentityDeltaProposal} {itemIds outcome : List Uuid}
    {selfDescriptionId : Uuid}
    (h : applyDeltas tables context proposal payload itemIds selfDescriptionId now db =
      .ok (.ok outcome, db')) : SameKickstart db db' := by
  obtain ⟨itemsLeft, between, hitems, hself⟩ := applyDeltas_eq_ok h
  have hbetween : SameKickstart db between := by
    refine applyItemDeltas_keep (J := SameKickstart db) ?_ ⟨rfl, rfl⟩ hitems
    intro delta identityItemId itemId db₁ db₂ hdb hdelta
    obtain ⟨-, write, -, hrun⟩ := applyIdentityItemDelta_accepted hdelta
    exact hdb.trans (SameKickstart.write hrun)
  rcases hself with ⟨-, rfl⟩ | ⟨delta, itemId, -, happly⟩
  · exact hbetween
  · obtain ⟨write, -, hrun⟩ := applySelfDescriptionDelta_accepted happly
    exact hbetween.trans (SameKickstart.write hrun)

end Items

/-! ## The programs keep the protocol -/

section Protocol

variable {ι : Type} {answers : Answers system} {i : ι} {v w : Shared system ι}

/-- The protocol of calls on the identity. -/
abbrev callers (answers : Answers system) : Protocol system ι :=
  footprint.protocol view answers Invariant

/-- An action that touches neither the interviews nor the lifecycle. -/
abbrev Quiet : World → World → List Event → Prop :=
  OnDb fun db db' events =>
    db'.identityKickstartInterviews = db.identityKickstartInterviews ∧
      db'.identityLifecycle = db.identityLifecycle ∧ events = []

theorem quiet_refl (db : Database) :
    db.identityKickstartInterviews = db.identityKickstartInterviews ∧
      db.identityLifecycle = db.identityLifecycle ∧ ([] : List Event) = [] :=
  ⟨rfl, rfl, rfl⟩

theorem noAnswers_nil : NoAnswers [] := fun _ _ => List.not_mem_nil

theorem currentLifecycle_congr {db db' : Database}
    (h : db'.identityLifecycle = db.identityLifecycle) : currentLifecycle db' = currentLifecycle db := by
  rw [currentLifecycle, currentLifecycle, h]

theorem wp_quiet {α : Type} {p : Harness α} (hp : p.Confined Quiet) (v : Shared system ι) :
    (callers answers).wp i p (fun _ w => footprint.Unseen view i v w) v := by
  refine Footprint.wp_of_quiet hp ?_ ?_ v
  · rintro s s' events ⟨⟨hrows, -, rfl⟩, -⟩
    refine ⟨rfl, fun interviewId => ?_⟩
    simp only [view, hrows]
  · rintro w s hinvariant ⟨⟨hrows, hlifecycle, -⟩, -⟩
    exact hinvariant.same hrows (currentLifecycle_congr hlifecycle) noAnswers_nil

theorem wp_quiet' {α : Type} {p : Harness α} (hp : p.Confined Quiet) (v : Shared system ι) :
    (callers answers).wp i p (fun _ _ => True) v :=
  Protocol.wp_mono (fun _ _ _ => trivial) (wp_quiet hp v)

theorem rejectMerge_quiet (proposalId : Uuid) (reason : String) :
    (Continuity.rejectMerge proposalId reason).Confined Quiet := by
  refine Prog.Confined.bind (confined_execute quiet_refl ?_) fun _ => Prog.confined_ret _
  intro now db effect hbody
  obtain rfl := Except.ok.inj hbody
  exact ⟨rfl, rfl, rfl⟩

theorem getCurrentLifecycle_quiet : getCurrentLifecycle.Confined Quiet := by
  refine confined_inTransaction quiet_refl fun now db effect hbody => ?_
  obtain rfl := Except.ok.inj hbody
  exact quiet_refl db

/-- A transaction that leaves the interviews as they are, keeps the invariant in an orderly
log, and whose events answer nothing. -/
theorem wp_keeping {α : Type} {body : DateTime → Database → Except ErrorChain (Effect α)}
    (h : ∀ w now effect, Invariant w → body now w.state.db = .ok effect →
      footprint.Orderly (committed w i effect).log → Invariant (committed w i effect) ∧
        ∀ r, (∀ e ∈ effect.events, ¬ footprint.Writes e r) →
          view r { w.state with db := effect.db } = view r w.state) :
    (callers answers).wp i (inTransaction body) (fun _ _ => True) v := by
  refine wp_inTransaction (fun w now effect hinv _ hbody => ?_) fun _ _ _ => trivial
  refine ⟨Footprint.allows fun horderly => ?_, trivial⟩
  exact h w now effect (hinv horderly.of_append) hbody horderly

/-- An entry of the last action into an orderly log is good. -/
theorem fine_of_committed {α : Type} {effect : Effect α}
    (horderly : footprint.Orderly (committed w i effect).log) {event : Event}
    (hevent : event ∈ effect.events) : footprint.Fine event :=
  horderly.fine (i, event) (List.mem_append_right _ (List.mem_map_of_mem hevent))

/-- Starting an interview keeps the invariant, also where another call starts one meanwhile. -/
theorem wp_startCustomInterview {proposal : CanonicalProposal} {payload : IdentityDeltaProposal} :
    (callers answers).wp i (startCustomInterview proposal payload) (fun _ _ => True) v := by
  refine Protocol.wp_seq (wp_quiet' (confined_newUuid quiet_refl) v) (fun interviewId w₁ _ => ?_)
    fun _ _ _ => trivial
  refine Protocol.wp_seq (wp_quiet' (confined_newUuid quiet_refl) w₁) (fun lifecycleId w₂ _ => ?_)
    fun _ _ _ => trivial
  refine Protocol.wp_seq (wp_quiet' (confined_utcNow quiet_refl) w₂) (fun startedAt w₃ _ => ?_)
    fun _ _ _ => trivial
  refine Protocol.wp_seq (wp_keeping ?_) (fun _ _ _ => trivial) fun _ _ _ => trivial
  intro w now effect hinvariant hbody horderly
  cases hstart : startInterview payload interviewId lifecycleId startedAt now w.state.db with
  | error e =>
    rw [hstart] at hbody
    cases hbody
  | ok started =>
    rw [hstart] at hbody
    obtain rfl := Except.ok.inj hbody
    have hfine : footprint.Fine (.interviewStarted interviewId (lifecycleState w.state.db)
        (interviewsInProgress w.state.db)) :=
      fine_of_committed horderly (List.mem_cons_of_mem _ List.mem_cons_self)
    unfold startInterview at hstart
    cases hinsert : insertIdentityInterview _ now w.state.db with
    | error e =>
      rw [hinsert] at hstart
      cases hstart
    | ok inserted =>
      rw [hinsert] at hstart
      obtain ⟨hviolation, rfl⟩ := checked_eq_ok.mp hinsert
      have hfresh : ∀ other ∈ w.state.db.identityKickstartInterviews,
          other.identityInterviewId ≠ interviewId := by
        rw [Database.identityInterviewViolation, Database.firstBroken_eq_none] at hviolation
        simpa using hviolation _ List.mem_cons_self
      have hcurrent := currentLifecycle_recorded hstart rfl
      have hrows : started.identityKickstartInterviews = w.state.db.identityKickstartInterviews ++
          [{ identityInterviewId := interviewId, status := .inProgress, currentStep := "name"
             answeredFields := [], createdAt := now, updatedAt := now }] := by
        rw [recordLifecycleTransition_eq_ok hstart]
        rfl
      refine ⟨hinvariant.started hrows hfresh hfine.1 rfl rfl rfl hcurrent rfl rfl ?_, ?_⟩
      · rintro id answer hmem
        simp at hmem
      · intro r hr
        have hne : interviewId ≠ r := hr _ (List.mem_cons_of_mem _ List.mem_cons_self)
        show Table.find IdentityInterviewRecord.identityInterviewId r
          started.identityKickstartInterviews = view r w.state
        rw [hrows]
        exact Table.find_append_of_ne hne

/-- A merge that records a lifecycle state, or leaves the lifecycle alone. -/
theorem wp_recordLifecycle {lifecycle : IdentityLifecycleRecord}
    (hstatus : lifecycle.status = .current) (hnone : lifecycle.activeInterviewId = none) :
    (callers answers).wp i (inTransaction fun now db =>
      (recordLifecycleTransition lifecycle now db).map fun recorded =>
        { value := (), db := recorded
          events := [.lifecycleRecorded (lifecycleState db) lifecycle.lifecycleState] })
      (fun _ _ => True) v := by
  refine wp_keeping fun w now effect hinvariant hbody horderly => ?_
  cases hrecord : recordLifecycleTransition lifecycle now w.state.db with
  | error e =>
    rw [hrecord] at hbody
    cases hbody
  | ok recorded =>
    rw [hrecord] at hbody
    obtain rfl := Except.ok.inj hbody
    have hfine : footprint.Fine
        (.lifecycleRecorded (lifecycleState w.state.db) lifecycle.lifecycleState) :=
      fine_of_committed horderly List.mem_cons_self
    have hrows : recorded.identityKickstartInterviews =
        w.state.db.identityKickstartInterviews := by
      rw [recordLifecycleTransition_eq_ok hrecord]
      rfl
    have hcurrent := currentLifecycle_recorded hrecord hstatus
    refine ⟨hinvariant.recorded hrows hcurrent hfine.1 hnone ?_, fun r _ => ?_⟩
    · rintro id answer hmem
      simp at hmem
    · simp only [view, hrows]

theorem wp_cancelCustomInterview {proposal : CanonicalProposal} {reason : Option String} :
    (callers answers).wp i (cancelCustomInterview proposal reason) (fun _ _ => True) v := by
  refine Protocol.wp_seq (wp_quiet' getCurrentLifecycle_quiet v) (fun lifecycle w₁ _ => ?_)
    fun _ _ _ => trivial
  cases lifecycle with
  | none => trivial
  | some lifecycle =>
    have hcancel : (callers answers).wp i (cancelActiveInterview lifecycle.activeInterviewId)
        (fun _ _ => True) w₁ := by
      cases lifecycle.activeInterviewId with
      | none => trivial
      | some interviewId =>
        refine wp_keeping fun w now effect _ hbody horderly => ?_
        obtain rfl := Except.ok.inj hbody
        have hfine : footprint.Fine (.interviewCancelled interviewId) :=
          fine_of_committed horderly List.mem_cons_self
        exact hfine.elim
    refine Protocol.wp_seq hcancel (fun _ w₂ _ => ?_) fun _ _ _ => trivial
    refine Protocol.wp_seq (wp_quiet' (confined_newUuid quiet_refl) w₂) (fun lifecycleId w₃ _ => ?_)
      fun _ _ _ => trivial
    exact Protocol.wp_seq (wp_recordLifecycle rfl rfl) (fun _ _ _ => trivial) fun _ _ _ => trivial

/-! ### Answering -/

/-- The interview as the thread read it. -/
def Read (i : ι) (interview : IdentityInterviewRecord) (v : Shared system ι) : Prop :=
  ∃ u, view interview.identityInterviewId u.state = some interview ∧
    footprint.Unseen view i u v

theorem Read.later {interview : IdentityInterviewRecord} (h : Read i interview v)
    (hseen : footprint.Unseen view i v w) : Read i interview w := by
  obtain ⟨u, hview, hu⟩ := h
  exact ⟨u, hview, hu.trans hseen⟩

/-- What was read is still the case when the answer is written. -/
theorem Read.current {interview : IdentityInterviewRecord} (h : Read i interview v)
    (hseen : footprint.Unseen view i v w) {answer : String × String}
    (horderly : footprint.Orderly (w.log ++
      [(i, Event.interviewAnswered interview.identityInterviewId answer)])) :
    view interview.identityInterviewId w.state = some interview := by
  obtain ⟨u, hview, hu⟩ := h
  rw [← hview]
  exact (hu.trans hseen).current horderly rfl

theorem wp_getIdentityInterview {interviewId : Uuid} :
    (callers answers).wp i (getIdentityInterview interviewId)
      (fun r w => ∀ interview, r = .ok (some interview) → Read i interview w) v := by
  refine wp_inTransaction (fun w now effect hinv _ hbody => ?_)
    (fun w e _ => by rintro interview ⟨⟩)
  obtain rfl := Except.ok.inj hbody
  refine ⟨Footprint.allows fun horderly => ⟨?_, fun r _ => rfl⟩, ?_⟩
  · refine (hinv horderly.of_append).same rfl rfl ?_
    rintro id answer hmem
    simp at hmem
  · intro interview hok
    have hfound : Table.find IdentityInterviewRecord.identityInterviewId interviewId
        w.state.db.identityKickstartInterviews = some interview := Except.ok.inj hok
    refine ⟨_, ?_, Footprint.Unseen.refl⟩
    rw [Table.key_of_find hfound]
    exact hfound

section Answer

variable {context : ProposalProcessingContext} {proposal : CanonicalProposal}
  {interview : IdentityInterviewRecord} {answer : String × String}

/-- The row that an update of an interview writes. -/
def writtenRow (status : IdentityInterviewStatus) (currentStep : String)
    (answeredFields : List (String × String)) (now : DateTime) (row : IdentityInterviewRecord) :
    IdentityInterviewRecord :=
  { row with
      status := status
      currentStep := currentStep
      answeredFields := answeredFields
      updatedAt := now }

/-- The other interviews are out of sight of an answer. -/
theorem view_updated {status : IdentityInterviewStatus} {currentStep : String} {now : DateTime}
    {answeredFields : List (String × String)} {db : Database} {w : World} {r : Uuid}
    (hrows : db.identityKickstartInterviews =
      (updateIdentityInterviewState interview.identityInterviewId status currentStep answeredFields
        now w.db).identityKickstartInterviews)
    (hne : interview.identityInterviewId ≠ r) : view r { w with db := db } = view r w := by
  have hkey : ∀ row, (writtenRow status currentStep answeredFields now row).identityInterviewId =
      row.identityInterviewId := fun _ => rfl
  have hupdate : Table.find IdentityInterviewRecord.identityInterviewId r
      (Table.update (fun row => decide (row.identityInterviewId = interview.identityInterviewId))
        (writtenRow status currentStep answeredFields now) w.db.identityKickstartInterviews) =
      (view r w).map fun row =>
        if decide (row.identityInterviewId = interview.identityInterviewId) then
          writtenRow status currentStep answeredFields now row
        else row :=
    Table.find_update hkey r
  show Table.find IdentityInterviewRecord.identityInterviewId r db.identityKickstartInterviews =
    view r w
  rw [hrows]
  refine hupdate.trans ?_
  cases hfind : view r w with
  | none => rfl
  | some other =>
    have hother : ¬ other.identityInterviewId = interview.identityInterviewId := by
      rw [Table.key_of_find hfind]
      exact Ne.symm hne
    rw [Option.map_some, decide_eq_false hother, if_neg Bool.false_ne_true]

/-- The answer to a step that is not the last. -/
theorem wp_advance {nextStep : String} (hread : Read i interview v)
    (hprogress : interview.status = .inProgress) (hstep : answer.1 = interview.currentStep)
    (hnext : nextMissingStep (insertField interview.answeredFields answer.1 answer.2) =
      some nextStep) :
    (callers answers).wp i (inTransaction fun now db =>
      .ok { value := ()
            db := updateIdentityInterviewState interview.identityInterviewId .inProgress nextStep
              (insertField interview.answeredFields answer.1 answer.2) now db
            events := [.interviewAnswered interview.identityInterviewId answer] })
      (fun _ _ => True) v := by
  refine wp_inTransaction (fun w now effect hinv hseen hbody => ?_) fun _ _ _ => trivial
  obtain rfl := Except.ok.inj hbody
  refine ⟨Footprint.allows fun horderly => ?_, trivial⟩
  have hinvariant := hinv horderly.of_append
  have hview := hread.current hseen horderly
  have hfine : footprint.Fine (.interviewAnswered interview.identityInterviewId answer) :=
    horderly.fine _ (List.mem_append_right _ List.mem_cons_self)
  refine ⟨hinvariant.answered hview hprogress hstep hfine rfl (fun _ => hnext) ?_, ?_⟩
  · intro lifecycle hcurrent
    rw [pointed_of_advanced hinvariant hview hprogress rfl]
    exact hinvariant.consistent.pointed lifecycle hcurrent
  · intro r hr
    exact view_updated rfl (hr _ List.mem_cons_self)

/-- The answer to the last step. -/
theorem wp_complete {items : List IdentityItemRecord} {lifecycleId : Uuid}
    {completedAt : DateTime} (hread : Read i interview v)
    (hprogress : interview.status = .inProgress) (hstep : answer.1 = interview.currentStep) :
    (callers answers).wp i (inTransaction fun now db =>
      (completeInterview interview (insertField interview.answeredFields answer.1 answer.2) items
        lifecycleId completedAt now db).map fun db =>
          { value := (), db := db
            events := [.interviewAnswered interview.identityInterviewId answer] })
      (fun _ _ => True) v := by
  refine wp_inTransaction (fun w now effect hinv hseen hbody => ?_) fun _ _ _ => trivial
  cases hwrite : completeInterview interview
      (insertField interview.answeredFields answer.1 answer.2) items lifecycleId completedAt now
      w.state.db with
  | error e =>
    rw [hwrite] at hbody
    cases hbody
  | ok db' =>
    rw [hwrite] at hbody
    obtain rfl := Except.ok.inj hbody
    refine ⟨Footprint.allows fun horderly => ?_, trivial⟩
    have hinvariant := hinv horderly.of_append
    have hview := hread.current hseen horderly
    have hfine : footprint.Fine (.interviewAnswered interview.identityInterviewId answer) :=
      horderly.fine _ (List.mem_append_right _ List.mem_cons_self)
    unfold completeInterview at hwrite
    cases hinsert : insertItems items now (updateIdentityInterviewState
        interview.identityInterviewId .completed "completed"
        (insertField interview.answeredFields answer.1 answer.2) now w.state.db) with
    | error e =>
      rw [hinsert] at hwrite
      cases hwrite
    | ok inserted =>
      rw [hinsert] at hwrite
      have hcurrent := currentLifecycle_recorded hwrite rfl
      have hrows : db'.identityKickstartInterviews =
          (updateIdentityInterviewState interview.identityInterviewId .completed "completed"
            (insertField interview.answeredFields answer.1 answer.2) now
            w.state.db).identityKickstartInterviews := by
        rw [recordLifecycleTransition_eq_ok hwrite]
        show inserted.identityKickstartInterviews = _
        exact insertItems_interviews hinsert
      refine ⟨hinvariant.answered hview hprogress hstep hfine hrows (by rintro ⟨⟩) ?_, ?_⟩
      · intro lifecycle hlifecycle
        obtain rfl := Option.some.inj (hlifecycle.symm.trans hcurrent)
        refine iff_of_false (by simp) ?_
        rintro ⟨other, -, -, hactive⟩
        cases hactive
      · intro r hr
        exact view_updated hrows (hr _ List.mem_cons_self)

theorem wp_takeAnswer (hread : Read i interview v) (hprogress : interview.status = .inProgress)
    (hstep : answer.1 = interview.currentStep) :
    (callers answers).wp i (takeAnswer context proposal interview answer) (fun _ _ => True) v := by
  unfold takeAnswer
  dsimp only
  split
  · rename_i nextStep hnext
    exact Protocol.wp_seq (wp_advance hread hprogress hstep hnext) (fun _ _ _ => trivial)
      fun _ _ _ => trivial
  · generalize customIdentityFields.length = count
    refine Protocol.wp_seq (wp_quiet (confined_newUuids quiet_refl _) v)
      (fun itemIds w₁ h₁ => ?_) fun _ _ _ => trivial
    refine Protocol.wp_seq (wp_quiet (confined_newUuid quiet_refl) w₁)
      (fun selfDescriptionItemId w₂ h₂ => ?_) fun _ _ _ => trivial
    refine Protocol.wp_seq (wp_quiet (confined_newUuid quiet_refl) w₂)
      (fun lifecycleId w₃ h₃ => ?_) fun _ _ _ => trivial
    refine Protocol.wp_seq (wp_quiet (confined_utcNow quiet_refl) w₃)
      (fun completedAt w₄ h₄ => ?_) fun _ _ _ => trivial
    have hlater : Read i interview w₄ := (((hread.later h₁).later h₂).later h₃).later h₄
    exact Protocol.wp_seq (wp_complete hlater hprogress hstep) (fun _ _ _ => trivial)
      fun _ _ _ => trivial

/-- An answer keeps the invariant, also where the interview it was read from has ended meanwhile. -/
theorem wp_answerCustomInterview {answer : IdentityInterviewAnswer} :
    (callers answers).wp i (answerCustomInterview context proposal answer) (fun _ _ => True) v := by
  refine Protocol.wp_seq (wp_quiet' getCurrentLifecycle_quiet v) (fun lifecycle w₁ _ => ?_)
    fun _ _ _ => trivial
  cases lifecycle with
  | none => exact wp_quiet' (rejectMerge_quiet _ _) w₁
  | some lifecycle =>
    cases hid : lifecycle.activeInterviewId with
    | none =>
      simp only [hid]
      exact wp_quiet' (rejectMerge_quiet _ _) w₁
    | some interviewId =>
      simp only [hid]
      refine Protocol.wp_seq wp_getIdentityInterview (fun found w₂ hread => ?_)
        fun _ _ _ => trivial
      cases found with
      | none => trivial
      | some interview =>
        show (callers answers).wp i (answerInterview context proposal interview answer) _ w₂
        unfold answerInterview
        dsimp only
        split
        · exact wp_quiet' (rejectMerge_quiet _ _) w₂
        · rename_i hprogress
          split
          · exact wp_quiet' (rejectMerge_quiet _ _) w₂
          · rename_i hstep
            exact wp_takeAnswer (hread interview rfl) (not_not.mp hprogress) (not_not.mp hstep)

end Answer

/-! ### Merging deltas -/

section Merge

variable {tables : Text.Tables} {context : ProposalProcessingContext} {proposal : CanonicalProposal}
  {payload : IdentityDeltaProposal}

/-- What the transaction of a merge leaves of the interviews and the lifecycle. -/
theorem mergeDeltas_kickstart {current : Option IdentityLifecycleRecord} {itemIds : List Uuid}
    {selfDescriptionId lifecycleId : Uuid} {completedAt now : DateTime} {db : Database}
    {effect : Effect DeltasOutcome}
    (h : mergeDeltas tables context proposal payload current itemIds selfDescriptionId lifecycleId
      completedAt now db = .ok effect) :
    effect.db.identityKickstartInterviews = db.identityKickstartInterviews ∧
      (effect.db.identityLifecycle = db.identityLifecycle ∧ effect.events = [] ∨
        currentLifecycle effect.db = some
          { mergedLifecycle proposal payload lifecycleId completedAt with
            createdAt := now, updatedAt := now } ∧
        effect.events = [.lifecycleRecorded (lifecycleState db) payload.lifecycleState]) := by
  unfold mergeDeltas at h
  split at h
  · cases h
  · obtain rfl := Except.ok.inj h
    exact ⟨rfl, Or.inl ⟨rfl, rfl⟩⟩
  · rename_i itemsLeft applied happlied
    obtain ⟨hinterviews, hlifecycle⟩ := SameKickstart.deltas happlied
    cases hrecord : recordMergedLifecycle proposal payload current lifecycleId completedAt now
        applied with
    | error e =>
      rw [hrecord] at h
      cases h
    | ok recorded =>
      rw [hrecord] at h
      obtain rfl := Except.ok.inj h
      unfold recordMergedLifecycle at hrecord
      by_cases hrecords : recordsLifecycle payload current
      · rw [if_pos hrecords] at hrecord
        refine ⟨?_, Or.inr ⟨?_, if_pos hrecords⟩⟩
        · show recorded.identityKickstartInterviews = _
          rw [recordLifecycleTransition_eq_ok hrecord]
          exact hinterviews
        · show currentLifecycle recorded = _
          exact currentLifecycle_recorded hrecord rfl
      · rw [if_neg hrecords] at hrecord
        obtain rfl := Except.ok.inj hrecord
        exact ⟨hinterviews, Or.inl ⟨hlifecycle, if_neg hrecords⟩⟩

theorem settleDeltas_quiet (outcome : DeltasOutcome) :
    (settleDeltas context proposal outcome).Confined Quiet := by
  cases outcome with
  | ok itemIds => exact Prog.confined_ret _
  | error reason =>
    refine Prog.Confined.bind ?_ fun _ => rejectMerge_quiet _ _
    refine Prog.Confined.bind (confined_newUuid quiet_refl) fun identityDiagnosticId => ?_
    refine confined_inTransaction quiet_refl fun now db effect hbody => ?_
    cases hinsert : checked _ _ with
    | error e =>
      rw [hinsert] at hbody
      cases hbody
    | ok inserted =>
      rw [hinsert] at hbody
      obtain rfl := Except.ok.inj hbody
      obtain ⟨-, rfl⟩ := checked_eq_ok.mp hinsert
      exact ⟨rfl, rfl, rfl⟩

/-- Whatever a delta asks for, merging it keeps the invariant. -/
theorem wp_mergeIntoStore :
    (callers answers).wp i (mergeIntoStore tables context proposal payload) (fun _ _ => True) v := by
  unfold mergeIntoStore
  refine Protocol.wp_seq (wp_quiet' getCurrentLifecycle_quiet v) (fun current w₁ _ => ?_)
    fun _ _ _ => trivial
  generalize payload.itemDeltas.length = count
  refine Protocol.wp_seq (wp_quiet' (confined_newUuids quiet_refl _) w₁) (fun itemIds w₂ _ => ?_)
    fun _ _ _ => trivial
  refine Protocol.wp_seq (wp_quiet' (confined_newUuid quiet_refl) w₂)
    (fun selfDescriptionId w₃ _ => ?_) fun _ _ _ => trivial
  refine Protocol.wp_seq (wp_quiet' (confined_newUuid quiet_refl) w₃) (fun lifecycleId w₄ _ => ?_)
    fun _ _ _ => trivial
  refine Protocol.wp_seq (wp_quiet' (confined_utcNow quiet_refl) w₄) (fun completedAt w₅ _ => ?_)
    fun _ _ _ => trivial
  refine Protocol.wp_seq (wp_keeping ?_)
    (fun outcome w₆ _ => wp_quiet' (settleDeltas_quiet outcome) w₆) fun _ _ _ => trivial
  intro w now effect hinvariant hbody horderly
  obtain ⟨hinterviews, hlifecycle⟩ := mergeDeltas_kickstart hbody
  refine ⟨?_, fun r _ => by simp only [view, hinterviews]⟩
  rcases hlifecycle with ⟨hsame, hevents⟩ | ⟨hcurrent, hevents⟩
  · refine hinvariant.same hinterviews (currentLifecycle_congr hsame) ?_
    rw [hevents]
    exact noAnswers_nil
  · have hfine : footprint.Fine
        (.lifecycleRecorded (lifecycleState w.state.db) payload.lifecycleState) := by
      refine fine_of_committed horderly ?_
      rw [hevents]
      exact List.mem_cons_self
    refine hinvariant.recorded hinterviews hcurrent hfine.1 rfl ?_
    rw [hevents]
    rintro id answer hmem
    simp at hmem

theorem wp_applyIdentityDeltaProposalMerge :
    (callers answers).wp i (applyIdentityDeltaProposalMerge tables context proposal)
      (fun _ _ => True) v := by
  unfold applyIdentityDeltaProposalMerge
  dsimp only
  split
  · exact wp_quiet' (rejectMerge_quiet _ _) v
  split
  · split
    · rename_i action _
      cases action with
      | startCustomInterview => exact wp_startCustomInterview
      | answerCustomInterview answer => exact wp_answerCustomInterview
      | cancel reason => exact wp_cancelCustomInterview
      | selectPredefinedTemplate templateKey => trivial
    · exact wp_mergeIntoStore
  · exact wp_quiet' (rejectMerge_quiet _ _) v

end Merge

/-! ### Resetting -/

theorem wp_resetToBootstrap {actorRef : String} {reason : Option String} :
    (callers answers).wp i (resetToBootstrap actorRef reason) (fun _ _ => True) v := by
  refine Protocol.wp_seq (wp_quiet' (confined_utcNow quiet_refl) v) (fun resetAt w₁ _ => ?_)
    fun _ _ _ => trivial
  refine Protocol.wp_seq (wp_quiet' (confined_newUuid quiet_refl) w₁) (fun lifecycleId w₂ _ => ?_)
    fun _ _ _ => trivial
  refine wp_keeping fun w now effect hinvariant hbody _ => ?_
  cases hreset : resetIdentity actorRef reason lifecycleId resetAt now w.state.db with
  | error e =>
    rw [hreset] at hbody
    cases hbody
  | ok reset =>
    rw [hreset] at hbody
    obtain rfl := Except.ok.inj hbody
    have hrows : reset.identityKickstartInterviews =
        Table.update (fun row => row.status = .inProgress) (cancelledRow now)
          w.state.db.identityKickstartInterviews := by
      rw [recordLifecycleTransition_eq_ok hreset]
      rfl
    have hcurrent := currentLifecycle_recorded hreset rfl
    refine ⟨hinvariant.reset hrows hcurrent (by simp) rfl ?_, fun r hr => ?_⟩
    · intro id answer hmem
      obtain ⟨interviewId, -, hevent⟩ := List.mem_flatMap.mp hmem
      simp at hevent
    · have hkey : ∀ row, (cancelledRow now row).identityInterviewId = row.identityInterviewId :=
        fun _ => rfl
      have hupdate : Table.find IdentityInterviewRecord.identityInterviewId r
          (Table.update (fun row => decide (row.status = .inProgress)) (cancelledRow now)
            w.state.db.identityKickstartInterviews) =
          (view r w.state).map fun row =>
            if decide (row.status = .inProgress) then cancelledRow now row else row :=
        Table.find_update hkey r
      show Table.find IdentityInterviewRecord.identityInterviewId r
        reset.identityKickstartInterviews = view r w.state
      rw [hrows, hupdate]
      cases hfind : view r w.state with
      | none => rfl
      | some interview =>
        have hidle : ¬ interview.status = .inProgress := by
          intro hprogress
          have hmem : interview.identityInterviewId ∈ interviewsInProgress w.state.db :=
            List.mem_map_of_mem (List.mem_filter.mpr
              ⟨Table.mem_of_find hfind, by simpa using hprogress⟩)
          rw [Table.key_of_find hfind] at hmem
          exact hr _ (List.mem_flatMap.mpr
            ⟨r, hmem, List.mem_cons_of_mem _ List.mem_cons_self⟩) rfl
        rw [Option.map_some, decide_eq_false hidle, if_neg Bool.false_ne_true]

theorem wp_call {tables : Text.Tables} (call : IdentityCall) :
    (callers answers).wp i (call.program tables) (fun _ _ => True) v := by
  cases call with
  | merge context proposal =>
    exact Protocol.wp_seq wp_applyIdentityDeltaProposalMerge (fun _ _ _ => trivial)
      fun _ _ _ => trivial
  | reset actorRef reason =>
    exact Protocol.wp_seq wp_resetToBootstrap (fun _ _ _ => trivial) fun _ _ _ => trivial

end Protocol

/-! ## A complete identity stays complete -/

/-- An action whose events are good leaves a complete identity complete. -/
abbrev KeepsComplete : World → World → List Event → Prop :=
  OnDb fun db db' events => (∀ e ∈ events, footprint.Fine e) →
    lifecycleState db = some .completeIdentityActive →
      lifecycleState db' = some .completeIdentityActive

section Complete

variable {tables : Text.Tables} {context : ProposalProcessingContext} {proposal : CanonicalProposal}

theorem keepsComplete_refl (db : Database) : (∀ e ∈ ([] : List Event), footprint.Fine e) →
    lifecycleState db = some .completeIdentityActive →
      lifecycleState db = some .completeIdentityActive :=
  fun _ h => h

theorem keepsComplete_of_same {db db' : Database}
    (h : db'.identityLifecycle = db.identityLifecycle)
    (hcomplete : lifecycleState db = some .completeIdentityActive) :
    lifecycleState db' = some .completeIdentityActive := by
  rw [lifecycleState, currentLifecycle_congr h]
  exact hcomplete

theorem keepsComplete_of_quiet {α : Type} {p : Harness α} (hp : p.Confined Quiet) :
    p.Confined KeepsComplete := by
  refine Prog.Confined.mono ?_ hp
  rintro s s' events ⟨⟨-, hlifecycle, -⟩, hclock⟩
  exact ⟨fun _ hcomplete => keepsComplete_of_same hlifecycle hcomplete, hclock⟩

/-- A state that is recorded over a complete identity is the complete one. -/
theorem recorded_complete {lifecycle : IdentityLifecycleRecord}
    (hstatus : lifecycle.status = .current) :
    (inTransaction fun now db => (recordLifecycleTransition lifecycle now db).map fun recorded =>
      { value := (), db := recorded
        events := [.lifecycleRecorded (lifecycleState db) lifecycle.lifecycleState] }).Confined
      KeepsComplete := by
  refine confined_inTransaction keepsComplete_refl fun now db effect hbody => ?_
  cases hrecord : recordLifecycleTransition lifecycle now db with
  | error e =>
    rw [hrecord] at hbody
    cases hbody
  | ok recorded =>
    rw [hrecord] at hbody
    obtain rfl := Except.ok.inj hbody
    intro hfine hcomplete
    have hstate := (hfine _ List.mem_cons_self).2 hcomplete
    rw [lifecycleState, currentLifecycle_recorded hrecord hstatus]
    exact congrArg some hstate

theorem startCustomInterview_complete (payload : IdentityDeltaProposal) :
    (startCustomInterview proposal payload).Confined KeepsComplete := by
  refine Prog.Confined.bind (confined_newUuid keepsComplete_refl) fun interviewId => ?_
  refine Prog.Confined.bind (confined_newUuid keepsComplete_refl) fun lifecycleId => ?_
  refine Prog.Confined.bind (confined_utcNow keepsComplete_refl) fun startedAt => ?_
  refine Prog.Confined.bind (confined_inTransaction keepsComplete_refl ?_)
    fun _ => Prog.confined_ret _
  intro now db effect hbody hfine hcomplete
  cases hstart : startInterview payload interviewId lifecycleId startedAt now db with
  | error e =>
    rw [hstart] at hbody
    cases hbody
  | ok started =>
    rw [hstart] at hbody
    obtain rfl := Except.ok.inj hbody
    have hstarted : footprint.Fine (.interviewStarted interviewId (lifecycleState db)
        (interviewsInProgress db)) :=
      hfine _ (List.mem_cons_of_mem _ List.mem_cons_self)
    exact absurd hcomplete hstarted.2

/-- Taking an answer leaves a complete identity complete. -/
theorem takeAnswer_complete (interview : IdentityInterviewRecord) (answer : String × String) :
    (takeAnswer context proposal interview answer).Confined KeepsComplete := by
  unfold takeAnswer
  dsimp only
  split
  · refine Prog.Confined.bind (confined_inTransaction keepsComplete_refl ?_)
      fun _ => Prog.confined_ret _
    intro now db effect hbody _ hcomplete
    obtain rfl := Except.ok.inj hbody
    exact keepsComplete_of_same rfl hcomplete
  · generalize customIdentityFields.length = count
    refine Prog.Confined.bind (confined_newUuids keepsComplete_refl _) fun itemIds => ?_
    refine Prog.Confined.bind (confined_newUuid keepsComplete_refl)
      fun selfDescriptionItemId => ?_
    refine Prog.Confined.bind (confined_newUuid keepsComplete_refl) fun lifecycleId => ?_
    refine Prog.Confined.bind (confined_utcNow keepsComplete_refl) fun completedAt => ?_
    refine Prog.Confined.bind (confined_inTransaction keepsComplete_refl ?_)
      fun _ => Prog.confined_ret _
    intro now db effect hbody _ _
    cases hwrite : completeInterview interview
        (insertField interview.answeredFields answer.1 answer.2)
        (interviewItems context proposal interview.identityInterviewId
          (insertField interview.answeredFields answer.1 answer.2) itemIds selfDescriptionItemId)
        lifecycleId completedAt now db with
    | error e =>
      rw [hwrite] at hbody
      cases hbody
    | ok db' =>
      rw [hwrite] at hbody
      obtain rfl := Except.ok.inj hbody
      unfold completeInterview at hwrite
      cases hinsert : insertItems (interviewItems context proposal interview.identityInterviewId
          (insertField interview.answeredFields answer.1 answer.2) itemIds selfDescriptionItemId)
          now (updateIdentityInterviewState interview.identityInterviewId .completed "completed"
            (insertField interview.answeredFields answer.1 answer.2) now db) with
      | error e =>
        rw [hinsert] at hwrite
        cases hwrite
      | ok inserted =>
        rw [hinsert] at hwrite
        rw [lifecycleState, currentLifecycle_recorded hwrite rfl]
        rfl

theorem answerCustomInterview_complete (answer : IdentityInterviewAnswer) :
    (answerCustomInterview context proposal answer).Confined KeepsComplete := by
  refine Prog.Confined.bind (keepsComplete_of_quiet getCurrentLifecycle_quiet) fun lifecycle => ?_
  cases lifecycle with
  | none => exact keepsComplete_of_quiet (rejectMerge_quiet _ _)
  | some lifecycle =>
    cases hid : lifecycle.activeInterviewId with
    | none =>
      simp only [hid]
      exact keepsComplete_of_quiet (rejectMerge_quiet _ _)
    | some interviewId =>
      simp only [hid]
      refine Prog.Confined.bind (confined_inTransaction keepsComplete_refl ?_) fun found =>
        confined_expect_bind fun interview _ => ?_
      · intro now db effect hbody _ hcomplete
        obtain rfl := Except.ok.inj hbody
        exact hcomplete
      · unfold answerInterview
        dsimp only
        split
        · exact keepsComplete_of_quiet (rejectMerge_quiet _ _)
        split
        · exact keepsComplete_of_quiet (rejectMerge_quiet _ _)
        · exact takeAnswer_complete _ _

theorem cancelCustomInterview_complete (reason : Option String) :
    (cancelCustomInterview proposal reason).Confined KeepsComplete := by
  refine Prog.Confined.bind (keepsComplete_of_quiet getCurrentLifecycle_quiet) fun lifecycle => ?_
  cases lifecycle with
  | none => exact Prog.confined_ret _
  | some lifecycle =>
    have hcancel : (cancelActiveInterview lifecycle.activeInterviewId).Confined KeepsComplete := by
      cases lifecycle.activeInterviewId with
      | none => exact Prog.confined_ret _
      | some interviewId =>
        refine confined_inTransaction keepsComplete_refl fun now db effect hbody _ hcomplete => ?_
        obtain rfl := Except.ok.inj hbody
        exact keepsComplete_of_same rfl hcomplete
    refine Prog.Confined.bind hcancel fun _ => ?_
    refine Prog.Confined.bind (confined_newUuid keepsComplete_refl) fun lifecycleId => ?_
    exact Prog.Confined.bind (recorded_complete rfl) fun _ => Prog.confined_ret _

theorem mergeIntoStore_complete (payload : IdentityDeltaProposal) :
    (mergeIntoStore tables context proposal payload).Confined KeepsComplete := by
  unfold mergeIntoStore
  refine Prog.Confined.bind (keepsComplete_of_quiet getCurrentLifecycle_quiet) fun current => ?_
  generalize payload.itemDeltas.length = count
  refine Prog.Confined.bind (confined_newUuids keepsComplete_refl _) fun itemIds => ?_
  refine Prog.Confined.bind (confined_newUuid keepsComplete_refl) fun selfDescriptionId => ?_
  refine Prog.Confined.bind (confined_newUuid keepsComplete_refl) fun lifecycleId => ?_
  refine Prog.Confined.bind (confined_utcNow keepsComplete_refl) fun completedAt => ?_
  refine Prog.Confined.bind (confined_inTransaction keepsComplete_refl ?_)
    fun outcome => keepsComplete_of_quiet (settleDeltas_quiet outcome)
  intro now db effect hbody hfine hcomplete
  obtain ⟨-, ⟨hsame, -⟩ | ⟨hcurrent, hevents⟩⟩ := mergeDeltas_kickstart hbody
  · exact keepsComplete_of_same hsame hcomplete
  · rw [hevents] at hfine
    have hstate := (hfine _ List.mem_cons_self).2 hcomplete
    rw [lifecycleState, hcurrent]
    exact congrArg some hstate

theorem applyIdentityDeltaProposalMerge_complete :
    (applyIdentityDeltaProposalMerge tables context proposal).Confined KeepsComplete := by
  unfold applyIdentityDeltaProposalMerge
  dsimp only
  split
  · exact keepsComplete_of_quiet (rejectMerge_quiet _ _)
  split
  · split
    · rename_i action _
      cases action with
      | startCustomInterview => exact startCustomInterview_complete _
      | answerCustomInterview answer => exact answerCustomInterview_complete answer
      | cancel reason => exact cancelCustomInterview_complete reason
      | selectPredefinedTemplate templateKey => exact Prog.confined_ret _
    · exact mergeIntoStore_complete _
  · exact keepsComplete_of_quiet (rejectMerge_quiet _ _)

end Complete

/-! ## Runs -/

section Runs

variable {ι : Type} {tables : Text.Tables} {calls : ι → IdentityCall}
  {answers : Answers system} {w : World} {c : Config system fun _ : ι => Unit}

/-- One process for each call, all of them at their start. -/
def start (tables : Text.Tables) (calls : ι → IdentityCall) (w : World) :
    Config system (fun _ : ι => Unit) where
  threads i := (calls i).program tables
  shared := { state := w }

/-- A store without a lifecycle and without interviews. -/
structure Pristine (db : Database) : Prop where
  lifecycle : db.identityLifecycle = []
  interviews : db.identityKickstartInterviews = []

theorem Pristine.invariant (h : Pristine w.db) :
    Invariant (start tables calls w).shared := by
  have hrows : (start tables calls w).shared.state.db.identityKickstartInterviews = [] :=
    h.interviews
  refine ⟨⟨?_, ?_, ?_⟩, ?_, ?_, ?_⟩
  · rw [hrows]
    rintro a ⟨⟩
  · intro lifecycle hcurrent
    have hnone : currentLifecycle w.db = none := by
      rw [currentLifecycle, h.lifecycle]
      rfl
    rw [show (start tables calls w).shared.state = w from rfl, hnone] at hcurrent
    cases hcurrent
  · rw [hrows]
    rintro interview ⟨⟩
  · rw [hrows]
    exact List.nodup_nil
  · rw [hrows]
    rintro interview ⟨⟩
  · intro interviewId hne
    exact absurd rfl hne

/-- From a store without a lifecycle and without interviews, in every interleaving of merges and
resets whose log is orderly: the interviews and the lifecycle fit together, and no step of a
merge takes a complete identity back. -/
theorem interview_lifecycle_consistent [DecidableEq ι] (pristine : Pristine w.db)
    (reach : Config.Reachable answers (start tables calls w) c)
    (orderly : footprint.Orderly c.shared.log) :
    InterviewsConsistent c.shared ∧
      ∀ i context proposal c', calls i = .merge context proposal → Config.StepBy answers i c c' →
        footprint.Orderly c'.shared.log →
          lifecycleState c.shared.state.db = some .completeIdentityActive →
            lifecycleState c'.shared.state.db = some .completeIdentityActive := by
  refine ⟨?_, ?_⟩
  · have hkept : (callers answers).Kept (fun _ _ _ => True) (start tables calls w) :=
      Protocol.kept_of_wp (fun _ => pristine.invariant) fun i => wp_call (calls i)
    exact ((hkept.reachable reach).1 orderly).consistent
  · intro i context proposal c' hcall step horderly hcomplete
    have hconfined : (start tables calls w).Confined fun i s s' events =>
        (∃ context proposal, calls i = .merge context proposal) → KeepsComplete s s' events := by
      intro j
      show ((calls j).program tables).Confined _
      cases hj : calls j with
      | merge context proposal =>
        refine Prog.Confined.mono (fun _ _ _ h _ => h) ?_
        exact Prog.Confined.bind applyIdentityDeltaProposalMerge_complete
          fun _ => Prog.confined_ret _
      | reset actorRef reason =>
        refine Prog.confined_of_forall ?_ _
        rintro s s' events ⟨context', proposal', hmerge⟩
        rw [hj] at hmerge
        cases hmerge
    rcases ((hconfined.reachable reach).stepBy step).2 with heq | ⟨s, events, hkeeps, heq⟩
    · rw [heq]
      exact hcomplete
    · rw [heq] at horderly ⊢
      refine (hkeeps ⟨context, proposal, hcall⟩).1 (fun e he => ?_) hcomplete
      exact horderly.fine (i, e) (List.mem_append_right _ (List.mem_map_of_mem he))

end Runs

/-- The user starts the interview. -/
def startsInterview (proposalId : Uuid) : CanonicalProposal :=
  identityProposal proposalId
    { lifecycleState := .identityKickstartInProgress
      interviewAction := some .startCustomInterview
      rationale := "Chosen by the user." }

/-- The user answers the first question. -/
def givesName : CanonicalProposal :=
  identityProposal 21
    { lifecycleState := .identityKickstartInProgress
      interviewAction := some (.answerCustomInterview { stepKey := "name", answerText := "Ada" })
      rationale := "Answered by the user." }

/-- The two, one after the other. -/
def startedAndAnswered : Config system fun _ : Bool => Unit :=
  (start Text.Tables.ascii (fun first => .merge sampleContext
    (if first then startsInterview 20 else givesName)) noIdentity).schedule (steady 5)
    (List.replicate 12 true ++ List.replicate 12 false) 0

theorem interview_lifecycle_consistent_answered :
    startedAndAnswered.shared.state.db.identityKickstartInterviews.map
        IdentityInterviewRecord.answeredFields = [[("name", "Ada")]] ∧
      InterviewsConsistent startedAndAnswered.shared := by
  have hlog : startedAndAnswered.shared.log =
      [(true, .interviewRead 0), (true, .interviewStarted 0 none []), (false, .interviewRead 0),
       (false, .interviewAnswered 0 ("name", "Ada"))] := by
    decide +kernel
  have horderly : footprint.Orderly startedAndAnswered.shared.log := by
    rw [hlog]
    refine ⟨?_, ?_⟩
    · have hread : footprint.Undisturbed [(true, Event.interviewRead 0)] :=
        Footprint.undisturbed_nil.append fun r hr => hr.elim
      have hstarted : footprint.Undisturbed
          [(true, .interviewRead 0), (true, .interviewStarted 0 none [])] := by
        refine hread.append fun r hr => ⟨[], .interviewRead 0, [], rfl,
          congrArg Event.interviewRead hr, ?_⟩
        rintro entry ⟨⟩
      have hreadAgain : footprint.Undisturbed
          [(true, .interviewRead 0), (true, .interviewStarted 0 none []),
           (false, .interviewRead 0)] :=
        hstarted.append fun r hr => hr.elim
      refine hreadAgain.append fun r hr =>
        ⟨[(true, .interviewRead 0), (true, .interviewStarted 0 none [])], .interviewRead 0, [],
          rfl, congrArg Event.interviewRead hr, ?_⟩
      rintro entry ⟨⟩
    · intro entry hentry
      simp only [List.mem_cons, List.not_mem_nil, or_false] at hentry
      rcases hentry with rfl | rfl | rfl | rfl
      · trivial
      · exact ⟨rfl, by simp⟩
      · trivial
      · show Text.isBlank "Ada" = false
        decide +kernel
  have pristine : Pristine noIdentity.db := ⟨rfl, rfl⟩
  have reach : Config.Reachable (fun _ _ => True) (start Text.Tables.ascii (fun first =>
      .merge sampleContext (if first then startsInterview 20 else givesName)) noIdentity)
      startedAndAnswered :=
    Config.reachable_schedule (o := steady 5) (fun _ _ => trivial) _ 0 _
  exact ⟨by decide +kernel, (interview_lifecycle_consistent pristine reach horderly).1⟩

/-- Two interviews that are started one after the other are both in progress. -/
theorem two_interviews_started :
    ∃ c : Config system fun _ : Bool => Unit, Pristine noIdentity.db ∧
      Config.Reachable (fun _ _ => True) (start Text.Tables.ascii (fun first =>
        .merge sampleContext (startsInterview (if first then 20 else 21))) noIdentity) c ∧
      ¬ InterviewsConsistent c.shared := by
  refine ⟨_, ⟨rfl, rfl⟩, Config.reachable_schedule (o := steady 5) (fun _ _ => trivial)
    (List.replicate 12 true ++ List.replicate 12 false) 0 _, fun hconsistent => ?_⟩
  have hrows : ((start Text.Tables.ascii (fun first : Bool =>
      .merge sampleContext (startsInterview (if first then 20 else 21))) noIdentity).schedule
      (steady 5) (List.replicate 12 true ++ List.replicate 12 false)
      0).shared.state.db.identityKickstartInterviews.map
        (fun row => (row.identityInterviewId, row.status)) =
      [(0, .inProgress), (12, .inProgress)] := by
    decide +kernel
  obtain ⟨a, ha, hka⟩ := List.mem_map.mp (hrows ▸ List.mem_cons_self)
  obtain ⟨b, hb, hkb⟩ := List.mem_map.mp (hrows ▸ List.mem_cons_of_mem _ List.mem_cons_self)
  simp only [Prod.mk.injEq] at hka hkb
  have hab : a = b := hconsistent.single a ha b hb hka.2 hkb.2
  rw [hab, hkb.1] at hka
  simp at hka

end Identity

end BlueLagoon
