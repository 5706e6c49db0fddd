import BlueLagoon.IntakeEffects
import BlueLagoon.Interleaving.RelyGuarantee
import BlueLagoon.InterruptedReplay

/-!
# Stranded foreground executions

A call that processes a batch inserts the records of its executions before it knows what they
will work on. An execution is in hand once it has ended, or while an ingress event is being
processed for it. One that another process takes the events of, or that nothing is planned for,
is left behind with nothing that points to it.
-/

namespace BlueLagoon

open Interleaving Harness Foreground

namespace Runtime

/-- The execution has ended, or an ingress event is being processed for it. -/
def InHand (executionId : Uuid) (db : Database) : Prop :=
  Execution.Ended executionId db ∨ Processing executionId db

/-- What a call must meet for its executions to stay in hand: each planning that it asks for
goes through and finds events to plan, and no other call takes the events of an execution that
has not ended. -/
structure PlanningSucceeds {ι : Type} (i : ι) (log : List (ι × Event)) : Prop where
  committed : ∀ executionId, (i, .planningRequested executionId) ∈ log →
    ∃ recoverable selected, (i, .foregroundPlanned executionId recoverable selected) ∈ log
  found : ∀ executionId selected, (i, .foregroundPlanned executionId [] selected) ∉ log
  untaken : ∀ executionId, (i, .executionStarted executionId) ∈ log → ∀ j, j ≠ i →
    (j, .ingressTakenOver executionId) ∉ log

/-! ## What a call keeps to -/

section Protocol

variable {ι : Type} {answers : Answers system} {i : ι} {e : Uuid} {u v w : Shared system ι}

/-- The execution is recorded. -/
def Recorded (executionId : Uuid) (db : Database) : Prop :=
  ∃ row, Table.find ExecutionRecord.executionId executionId db.executionRecords = some row

/-- The execution of a call has ended, or goes on with an event, or lost its events to another
call. -/
def Held (i : ι) (executionId : Uuid) (w : Shared system ι) : Prop :=
  Execution.Ended executionId w.state.db ∨
    (Execution.Started executionId w.state.db ∧ Processing executionId w.state.db) ∨
      ∃ j, j ≠ i ∧ (j, .ingressTakenOver executionId) ∈ w.log

/-- What follows when a call takes steps by which no execution starts. -/
structure Follows (i : ι) (v w : Shared system ι) : Prop where
  log : ∀ entry ∈ v.log, entry ∈ w.log
  unstarted : ∀ event, (i, event) ∈ w.log → (i, event) ∈ v.log ∨ event.Unstarted
  executions : Execution.Advances v.state.db.executionRecords w.state.db.executionRecords

/-- What follows when a call takes quiet steps, or other calls take any. -/
structure Holds (i : ι) (v w : Shared system ι) : Prop extends Follows i v w where
  held : ∀ executionId, Held i executionId v → Held i executionId w

theorem Follows.refl (i : ι) (v : Shared system ι) : Follows i v v :=
  ⟨fun _ h => h, fun _ h => Or.inl h, .refl _⟩

theorem Follows.trans (huv : Follows i u v) (hvw : Follows i v w) : Follows i u w where
  log := fun entry hentry => hvw.log entry (huv.log entry hentry)
  unstarted := by
    intro event hevent
    rcases hvw.unstarted event hevent with hold | hnew
    · exact huv.unstarted event hold
    · exact Or.inr hnew
  executions := huv.executions.trans hvw.executions

theorem Holds.refl (i : ι) (v : Shared system ι) : Holds i v v :=
  ⟨.refl i v, fun _ h => h⟩

theorem Holds.trans (huv : Holds i u v) (hvw : Holds i v w) : Holds i u w :=
  ⟨huv.toFollows.trans hvw.toFollows, fun e h => hvw.held e (huv.held e h)⟩

/-- The calls of a pool: none may disturb what the others hold, unless the log says so. -/
def handProtocol (ι : Type) (answers : Answers system) : Protocol system ι where
  answers := answers
  Inv := fun _ => True
  Rely := fun i v w => Holds i v w ∧ ∀ event, (i, event) ∈ w.log → (i, event) ∈ v.log
  rely_refl := fun i v => ⟨.refl i v, fun _ h => h⟩
  rely_trans := fun _ _ _ _ huv hvw =>
    ⟨huv.1.trans hvw.1, fun event h => huv.2 event (hvw.2 event h)⟩

/-- An execution that a foreground step does not take the events of stays in hand. -/
theorem held_of_foregroundStep {E : Event → Prop} {db : Database} {events : List Event}
    (h : ForegroundStep E w.state.db db events)
    (huntaken : (.ingressTakenOver e ∈ events) → ∃ j, j ≠ i ∧ (j, .ingressTakenOver e) ∈ u.log)
    (hlog : ∀ entry ∈ w.log, entry ∈ u.log) (hdb : u.state.db = db) (hheld : Held i e w) :
    Held i e u := by
  rcases hheld with hended | ⟨hstarted, hprocessing⟩ | ⟨j, hj, htaken⟩
  · left
    rw [hdb]
    exact h.executions.ended hended
  · by_cases htaken : .ingressTakenOver e ∈ events
    · exact Or.inr (Or.inr (huntaken htaken))
    · have hprocessing' := h.processing e hprocessing hstarted htaken
      rcases h.executions.started hstarted with hstarted' | hended'
      · right; left
        rw [hdb]
        exact ⟨hstarted', hprocessing'⟩
      · left
        rw [hdb]
        exact hended'
  · exact Or.inr (Or.inr ⟨j, hj, hlog _ htaken⟩)

/-- Whatever a foreground step does, the other calls are prepared for it. -/
theorem allows_of_foregroundStep {E : Event → Prop} {world : World} {events : List Event}
    (h : ForegroundStep E w.state.db world.db events) :
    (handProtocol ι answers).Allows i w (w.push i world events) := by
  refine ⟨trivial, fun j hj => ?_⟩
  have hlog : ∀ entry ∈ w.log, entry ∈ (w.push i world events).log := by
    intro entry hentry
    rw [Shared.push_log]
    exact List.mem_append_left _ hentry
  have hown : ∀ event, (j, event) ∈ (w.push i world events).log → (j, event) ∈ w.log := by
    intro event hevent
    rcases Shared.mem_push_log.mp hevent with hold | ⟨heq, -⟩
    · exact hold
    · exact absurd heq hj
  refine ⟨⟨⟨hlog, fun event hevent => Or.inl (hown event hevent), h.executions⟩, ?_⟩, hown⟩
  intro executionId hheld
  refine held_of_foregroundStep h (fun htaken => ?_) hlog rfl hheld
  exact ⟨i, hj.symm, Shared.mem_push_log.mpr (Or.inr ⟨rfl, htaken⟩)⟩

/-- What a step by which no execution starts leaves to its own call. -/
theorem follows_of_laterStep {world : World} {events : List Event}
    (h : LaterStep w.state.db world.db events) : Follows i w (w.push i world events) where
  log := by
    intro entry hentry
    rw [Shared.push_log]
    exact List.mem_append_left _ hentry
  unstarted := by
    intro event hevent
    rcases Shared.mem_push_log.mp hevent with hold | ⟨-, hnew⟩
    · exact Or.inl hold
    · exact Or.inr (h.events event hnew)
  executions := h.executions

/-- What a quiet step leaves to its own call. -/
theorem holds_of_quietStep {world : World} {events : List Event}
    (h : QuietStep w.state.db world.db events) : Holds i w (w.push i world events) := by
  have hfollows : Follows i w (w.push i world events) :=
    follows_of_laterStep (h.mono fun _ => Event.Quiet.unstarted)
  refine ⟨hfollows, fun executionId hheld => ?_⟩
  refine held_of_foregroundStep h (fun htaken => ?_) hfollows.log rfl hheld
  exact (h.events _ htaken).elim

theorem wp_quiet {α : Type} {p : Harness α} (hp : p.Confined (OnDb QuietStep))
    (v : Shared system ι) : (handProtocol ι answers).wp i p (fun _ w => Holds i v w) v := by
  refine Protocol.wp_of_confined hp (Holds.refl i) (fun _ _ _ => Holds.trans) ?_ ?_ v
  · exact fun _ _ _ hrely => hrely.1
  · exact fun w s es _ hstep =>
      ⟨allows_of_foregroundStep hstep.1, holds_of_quietStep hstep.1⟩

theorem wp_later {α : Type} {p : Harness α} (hp : p.Confined (OnDb LaterStep))
    (v : Shared system ι) : (handProtocol ι answers).wp i p (fun _ w => Follows i v w) v := by
  refine Protocol.wp_of_confined hp (Follows.refl i) (fun _ _ _ => Follows.trans) ?_ ?_ v
  · exact fun _ _ _ hrely => hrely.1.toFollows
  · exact fun w s es _ hstep =>
      ⟨allows_of_foregroundStep hstep.1, follows_of_laterStep hstep.1⟩

/-- What has been logged stays in the log. -/
theorem wp_any {α : Type} {p : Harness α} (hp : p.Confined (OnDb AnyStep))
    (v : Shared system ι) :
    (handProtocol ι answers).wp i p (fun _ w => ∀ entry ∈ v.log, entry ∈ w.log) v := by
  refine Protocol.wp_of_confined hp (T := fun v w => ∀ entry ∈ v.log, entry ∈ w.log)
    (fun _ _ h => h) (fun _ _ _ huv hvw entry h => hvw entry (huv entry h)) ?_ ?_ v
  · exact fun _ _ _ hrely => hrely.1.log
  · intro w s es _ hstep
    refine ⟨allows_of_foregroundStep hstep.1, fun entry hentry => ?_⟩
    rw [Shared.push_log]
    exact List.mem_append_left _ hentry

/-! ## Where a call stands -/

/-- What was planned for is recorded. -/
def PlannedRecorded (i : ι) (w : Shared system ι) : Prop :=
  ∀ executionId recoverable selected,
    (i, .foregroundPlanned executionId recoverable selected) ∈ w.log →
      Recorded executionId w.state.db

/-- Every execution of the call has ended. -/
structure Free (i : ι) (w : Shared system ι) : Prop where
  ended : ∀ executionId, (i, .executionStarted executionId) ∈ w.log →
    Execution.Ended executionId w.state.db
  planned : PlannedRecorded i w

/-- The call works on an execution that it holds; all others have ended. -/
structure Busy (i : ι) (e : Uuid) (w : Shared system ι) : Prop where
  ended : ∀ executionId, (i, .executionStarted executionId) ∈ w.log →
    executionId = e ∨ Execution.Ended executionId w.state.db
  planned : PlannedRecorded i w
  recorded : Recorded e w.state.db
  held : Held i e w

/-- The call holds all its executions. -/
def Calm (i : ι) (w : Shared system ι) : Prop :=
  ∀ executionId, (i, .executionStarted executionId) ∈ w.log → Held i executionId w

/-- The call has an execution that it has not planned anything for; all others have ended. -/
structure Waiting (i : ι) (e : Uuid) (w : Shared system ι) : Prop where
  ended : ∀ executionId, (i, .executionStarted executionId) ∈ w.log →
    executionId = e ∨ Execution.Ended executionId w.state.db
  planned : PlannedRecorded i w
  recorded : Recorded e w.state.db
  requested : (i, .planningRequested e) ∈ w.log
  unplanned : ∀ recoverable selected, (i, .foregroundPlanned e recoverable selected) ∉ w.log

/-- A planning of the call found nothing. -/
def Doomed (i : ι) (w : Shared system ι) : Prop :=
  ∃ executionId selected, (i, .foregroundPlanned executionId [] selected) ∈ w.log

theorem recorded_advances {db db' : Database}
    (h : Execution.Advances db.executionRecords db'.executionRecords)
    (hrecorded : Recorded e db) : Recorded e db' := by
  obtain ⟨row, hrow⟩ := hrecorded
  obtain ⟨row', hrow', -⟩ := h e row hrow
  exact ⟨row', hrow'⟩

namespace Follows

variable (h : Follows i v w)

include h

theorem started (hevent : (i, .executionStarted e) ∈ w.log) : (i, .executionStarted e) ∈ v.log := by
  rcases h.unstarted _ hevent with hold | hnew
  · exact hold
  · exact hnew.elim

theorem foregroundPlanned {recoverable selected : List String}
    (hevent : (i, .foregroundPlanned e recoverable selected) ∈ w.log) :
    (i, .foregroundPlanned e recoverable selected) ∈ v.log := by
  rcases h.unstarted _ hevent with hold | hnew
  · exact hold
  · exact hnew.elim

theorem planned (hv : PlannedRecorded i v) : PlannedRecorded i w :=
  fun _ _ _ hevent => recorded_advances h.executions (hv _ _ _ (h.foregroundPlanned hevent))

theorem free (hv : Free i v) : Free i w where
  ended := fun _ hevent => h.executions.ended (hv.ended _ (h.started hevent))
  planned := h.planned hv.planned

theorem waiting (hv : Waiting i e v) : Waiting i e w where
  ended := fun executionId hevent =>
    (hv.ended executionId (h.started hevent)).imp_right h.executions.ended
  planned := h.planned hv.planned
  recorded := recorded_advances h.executions hv.recorded
  requested := h.log _ hv.requested
  unplanned := fun _ _ hevent => hv.unplanned _ _ (h.foregroundPlanned hevent)

theorem doomed (hv : Doomed i v) : Doomed i w := by
  obtain ⟨executionId, selected, hevent⟩ := hv
  exact ⟨executionId, selected, h.log _ hevent⟩

end Follows

namespace Holds

theorem busy (h : Holds i v w) (hv : Busy i e v) : Busy i e w where
  ended := fun executionId hevent =>
    (hv.ended executionId (h.started hevent)).imp_right h.executions.ended
  planned := h.planned hv.planned
  recorded := recorded_advances h.executions hv.recorded
  held := h.held e hv.held

theorem calm (h : Holds i v w) (hv : Calm i v) : Calm i w :=
  fun executionId hevent => h.held executionId (hv executionId (h.started hevent))

end Holds

theorem Free.calm (h : Free i w) : Calm i w :=
  fun executionId hevent => Or.inl (h.ended executionId hevent)

theorem Busy.calm (h : Busy i e w) : Calm i w := by
  intro executionId hevent
  rcases h.ended executionId hevent with rfl | hended
  · exact h.held
  · exact Or.inl hended

/-! ## How its steps end -/

/-- A step that succeeds ends in `R`, and one that fails in `E`. -/
def Outcome {α : Type} (R : α → Shared system ι → Prop) (E : Shared system ι → Prop) :
    Protocol.Post system ι α
  | .ok a, w => R a w
  | .error _, w => E w

/-- A step that succeeds ends in `R`; one that fails leaves the call with its executions in
hand. -/
abbrev Ends {α : Type} (i : ι) (R : α → Shared system ι → Prop) : Protocol.Post system ι α :=
  Outcome R (Calm i)

/-- A step that succeeds ends in `R`; after one that fails the call works on. -/
abbrev Tries {α : Type} (i : ι) (e : Uuid) (R : α → Shared system ι → Prop) :
    Protocol.Post system ι α :=
  Outcome R (Busy i e)

theorem ends_bind {α β : Type} {R : α → Shared system ι → Prop} {Q : β → Shared system ι → Prop}
    {p : Harness α} {f : α → Harness β} (hp : (handProtocol ι answers).wp i p (Ends i R) v)
    (hf : ∀ a w, R a w → (handProtocol ι answers).wp i (f a) (Ends i Q) w) :
    (handProtocol ι answers).wp i (p.bind f) (Ends i Q) v :=
  Protocol.wp_seq hp (fun a w hR => hf a w hR) (fun _ _ h => h)

theorem ends_quiet {α : Type} {p : Harness α} (hp : p.Confined (OnDb QuietStep))
    (hv : Busy i e v) : (handProtocol ι answers).wp i p (Ends i fun _ => Busy i e) v := by
  refine Protocol.wp_mono (fun r w hw => ?_) (wp_quiet hp v)
  cases r with
  | ok a => exact hw.busy hv
  | error error => exact (hw.busy hv).calm

theorem ends_later {α : Type} {p : Harness α} (hp : p.Confined (OnDb LaterStep))
    (hv : Free i v) : (handProtocol ι answers).wp i p (Ends i fun _ => Free i) v := by
  refine Protocol.wp_mono (fun r w hw => ?_) (wp_later hp v)
  cases r with
  | ok a => exact hw.free hv
  | error error => exact (hw.free hv).calm

/-- A quiet step from where everything is in hand. -/
theorem ends_calm {α : Type} {p : Harness α} (hp : p.Confined (OnDb QuietStep))
    (hv : Calm i v) : (handProtocol ι answers).wp i p (Ends i fun _ => Calm i) v := by
  refine Protocol.wp_mono (fun r w hw => ?_) (wp_quiet hp v)
  cases r with
  | ok a => exact hw.calm hv
  | error error => exact hw.calm hv

/-! ## Ending an execution -/

theorem tries_quiet {α : Type} {p : Harness α} (hp : p.Confined (OnDb QuietStep))
    (hv : Busy i e v) : (handProtocol ι answers).wp i p (Tries i e fun _ => Busy i e) v := by
  refine Protocol.wp_mono (fun r w hw => ?_) (wp_quiet hp v)
  cases r with
  | ok a => exact hw.busy hv
  | error error => exact hw.busy hv

theorem ends_of_tries {α : Type} {p : Harness α} {R : α → Shared system ι → Prop}
    (hp : (handProtocol ι answers).wp i p (Tries i e R) v) :
    (handProtocol ι answers).wp i p (Ends i R) v := by
  refine Protocol.wp_mono (fun r w hw => ?_) hp
  cases r with
  | ok a => exact hw
  | error error => exact Busy.calm hw

/-- A statement that ends the execution leaves the call free, or does nothing. -/
theorem tries_change {message : String} {f : DateTime → ExecutionRecord → ExecutionRecord}
    (hkey : ∀ now row, (f now row).executionId = row.executionId)
    (hended : ∀ now row, (f now row).status ≠ "started") (hv : Busy i e v) :
    (handProtocol ι answers).wp i
      (execute message fun now db =>
        .ok { value := (), db := Execution.change db e (f now) })
      (Tries i e fun _ => Free i) v := by
  refine wp_execute (fun w now effect _ hrely hbody => ?_) fun w _ hrely => hrely.1.busy hv
  obtain rfl := Except.ok.inj hbody
  have hstep : LaterStep w.state.db (Execution.change w.state.db e (f now)) [] :=
    .of_executions _ _ (.update (hkey now) (hended now) _)
  refine ⟨allows_of_foregroundStep hstep, ?_⟩
  have hfollows : Follows i w (committed w i
      { value := (), db := Execution.change w.state.db e (f now) }) :=
    follows_of_laterStep hstep
  have hbusy := hrely.1.busy hv
  refine ⟨fun executionId hevent => ?_, hfollows.planned hbusy.planned⟩
  rcases hbusy.ended executionId (hfollows.started hevent) with rfl | hother
  · obtain ⟨row, hrow⟩ := hbusy.recorded
    refine ⟨f now row, ?_, hended now row⟩
    show Table.find _ _ (Table.update _ _ _) = _
    rw [Table.find_update (hkey now), hrow]
    have hid : row.executionId = executionId := Table.key_of_find hrow
    simp [hid]
  · exact hfollows.executions.ended hother

theorem markFailed_tries (payload : Json) (hv : Busy i e v) :
    (handProtocol ι answers).wp i (Execution.markFailed e payload)
      (Tries i e fun _ => Free i) v :=
  tries_change (fun _ _ => rfl) (fun _ _ => by simp) hv

theorem markSucceeded_tries (workerKind : String) (workerPid : Int) (payload : Json)
    (hv : Busy i e v) :
    (handProtocol ι answers).wp i (Execution.markSucceeded e workerKind workerPid payload)
      (Tries i e fun _ => Free i) v :=
  tries_change (fun _ _ => rfl) (fun _ _ => by simp) hv

theorem recordForegroundFailure_ends {trigger : ForegroundTrigger} (episodeId : Option Uuid)
    (failureKind : ForegroundFailureKind) (errorMessage : String)
    (hv : Busy i trigger.executionId v) :
    (handProtocol ι answers).wp i
      (Orchestration.recordForegroundFailure trigger episodeId failureKind errorMessage)
      (Ends i fun _ => Free i) v := by
  refine ends_bind (ends_of_tries (markFailed_tries _ hv)) fun _ w hw => ?_
  refine ends_later ?_ hw
  refine Prog.Confined.bind (confined_later (Orchestration.failEpisode_quiet _ _)) fun _ => ?_
  exact Prog.Confined.bind (Audit.insert_confined ForegroundStep.of_audit _) fun _ =>
    Prog.confined_ret _

/-- What comes after an attempt, whether the attempt went through or not. -/
theorem ends_attempt {α β : Type} {R : α → Shared system ι → Prop} {E : Shared system ι → Prop}
    {Q : β → Shared system ι → Prop} {p : Harness α} {f : Except ErrorChain α → Harness β}
    (hp : (handProtocol ι answers).wp i p (Outcome R E) v)
    (ok : ∀ a w, R a w → (handProtocol ι answers).wp i (f (.ok a)) (Ends i Q) w)
    (failed : ∀ error w, E w → (handProtocol ι answers).wp i (f (.error error)) (Ends i Q) w) :
    (handProtocol ι answers).wp i (p.attempt.bind f) (Ends i Q) v := by
  rw [Protocol.wp_bind, Protocol.wp_attempt]
  refine Protocol.wp_mono (fun r w hw => ?_) hp
  cases r with
  | ok a => exact ok a w hw
  | error error => exact failed error w hw

/-! ## Failures that are recorded -/

section Failures

variable {α : Type} {R : α → Shared system ι → Prop} {trigger : ForegroundTrigger}

theorem recordAndReturnApprovalResolutionFailure_ends (failureKind : ForegroundFailureKind)
    (error : ErrorChain) (hv : Busy i trigger.executionId v) :
    (handProtocol ι answers).wp i
      (Orchestration.recordAndReturnApprovalResolutionFailure trigger failureKind error)
      (Ends i R) v := by
  refine ends_attempt (recordForegroundFailure_ends _ _ _ hv) (fun _ w hw => ?_)
    fun _ w hw => hw
  refine ends_attempt (ends_later (Foreground.markIngressEventProcessed_later _ _) hw)
    (fun _ w hw => ?_) fun _ w hw => hw
  exact hw.calm

variable {context : ForegroundFailureContext} {target : ForegroundFailureDeliveryTarget}

theorem recordAndDeliverForegroundFailure_ends (failureKind : ForegroundFailureKind)
    (errorMessage : String) (hv : Busy i context.trigger.executionId v) :
    (handProtocol ι answers).wp i
      (Orchestration.recordAndDeliverForegroundFailure context failureKind errorMessage target)
      (Ends i fun _ => Free i) v := by
  refine ends_attempt (recordForegroundFailure_ends _ _ _ hv) (fun _ w hw => ?_)
    fun recordError w hw => ?_
  · refine ends_later ?_ hw
    refine Prog.Confined.bind (confined_later (Prog.Confined.attempt
      (Orchestration.persistForegroundFailureNotice_quiet _ _))) fun persisted => ?_
    refine Prog.Confined.bind (confined_later
      (Orchestration.deliverForegroundFailureNotice_quiet _ _)) fun receipt => ?_
    refine Prog.Confined.bind (Prog.Confined.attempt (Prog.Confined.mapError
      (Foreground.markIngressEventsProcessed_later _ _))) fun closed => ?_
    refine Prog.Confined.bind (Prog.confined_ofExcept _) fun persistedMessageId => ?_
    refine Prog.Confined.bind (confined_later (Orchestration.attachDeliveredNotice_quiet _ _))
      fun _ => ?_
    exact Prog.confined_ofExcept _
  · refine ends_bind (ends_calm (Orchestration.deliverForegroundFailureNotice_quiet _ _) hw)
      fun _ w hw => ?_
    exact hw

theorem recordDeliverAndReturnFailure_ends (failureKind : ForegroundFailureKind)
    (error : ErrorChain) (hv : Busy i context.trigger.executionId v) :
    (handProtocol ι answers).wp i
      (Orchestration.recordDeliverAndReturnFailure context failureKind target error)
      (Ends i R) v := by
  refine ends_attempt (recordAndDeliverForegroundFailure_ends _ _ hv) (fun _ w hw => ?_)
    fun _ w hw => hw
  exact hw.calm

theorem orFail_ends {failureKind : ForegroundFailureKind} {step : Harness α}
    (hstep : (handProtocol ι answers).wp i step (Tries i trigger.executionId R) v) :
    (handProtocol ι answers).wp i (Orchestration.orFail trigger failureKind step)
      (Ends i R) v :=
  ends_attempt hstep (fun _ _ hw => hw) fun error _ hw =>
    recordAndReturnApprovalResolutionFailure_ends failureKind error hw

theorem orDeliverFailure_ends {failureKind : ForegroundFailureKind} {step : Harness α}
    (hstep : (handProtocol ι answers).wp i step (Tries i context.trigger.executionId R) v) :
    (handProtocol ι answers).wp i
      (Orchestration.orDeliverFailure context failureKind target step) (Ends i R) v :=
  ends_attempt hstep (fun _ _ hw => hw) fun error _ hw =>
    recordDeliverAndReturnFailure_ends failureKind error hw

end Failures

/-! ## Executions -/

section Executions

variable {trigger : ForegroundTrigger}

/-- A quiet step whose failure is recorded. -/
theorem orFail_quiet {α : Type} {failureKind : ForegroundFailureKind} {step : Harness α}
    (hstep : step.Confined (OnDb QuietStep)) (hv : Busy i trigger.executionId v) :
    (handProtocol ι answers).wp i (Orchestration.orFail trigger failureKind step)
      (Ends i fun _ => Busy i trigger.executionId) v :=
  orFail_ends (tries_quiet hstep hv)

theorem orDeliverFailure_quiet {α : Type} {context : ForegroundFailureContext}
    {target : ForegroundFailureDeliveryTarget} {failureKind : ForegroundFailureKind}
    {step : Harness α} (hstep : step.Confined (OnDb QuietStep))
    (hv : Busy i context.trigger.executionId v) :
    (handProtocol ι answers).wp i
      (Orchestration.orDeliverFailure context failureKind target step)
      (Ends i fun _ => Busy i context.trigger.executionId) v :=
  orDeliverFailure_ends (tries_quiet hstep hv)

theorem openEpisode_ends {episodeId : Uuid} {userMessages : List UserEpisodeMessage}
    (hv : Busy i trigger.executionId v) :
    (handProtocol ι answers).wp i (Orchestration.openEpisode trigger episodeId userMessages)
      (Ends i fun _ => Busy i trigger.executionId) v :=
  ends_quiet (Orchestration.openEpisode_quiet _ _ _) hv

theorem deliverAnswer_ends {failure : ForegroundFailureContext}
    {target : ForegroundFailureDeliveryTarget} {episodeId : Uuid} {messageOrder : Nat}
    {assistantText : String} (hfailure : failure.trigger = trigger)
    (hv : Busy i trigger.executionId v) :
    (handProtocol ι answers).wp i
      (Orchestration.deliverAnswer trigger failure target episodeId messageOrder assistantText)
      (Ends i fun _ => Busy i trigger.executionId) v := by
  subst hfailure
  refine ends_bind (ends_quiet (confined_newUuid .refl) hv) fun _ w hw => ?_
  refine ends_bind (orDeliverFailure_quiet (Foreground.insertEpisodeMessage_confined
    (fun db _ => .of_episodeMessages db _) .refl _) hw) fun _ w hw => ?_
  refine ends_attempt (tries_quiet (confined_sendMessage _ _ _) hw) (fun _ w hw => ?_)
    fun error w hw => ?_
  · refine ends_bind (orDeliverFailure_quiet
      (Orchestration.updateEpisodeMessageExternalMessageId_quiet _ _) hw) fun _ w hw => ?_
    exact hw
  · refine ends_bind (recordForegroundFailure_ends _ _ _ hw) fun _ w hw => ?_
    exact hw.calm

theorem completeExecution_ends {recoveryContext : ForegroundRecoveryContext}
    {failure : ForegroundFailureContext} {target : ForegroundFailureDeliveryTarget}
    {episodeId : Uuid} {turn : Orchestration.ConsciousTurnLoopOutcome} {proposals : ProposalProcessingSummary}
    {outboundMessageId : Int} (hfailure : failure.trigger = trigger)
    (hv : Busy i trigger.executionId v) :
    (handProtocol ι answers).wp i
      (Orchestration.completeExecution trigger recoveryContext failure target episodeId turn
        proposals outboundMessageId) (Ends i fun _ => Free i) v := by
  subst hfailure
  refine ends_bind (orDeliverFailure_ends (markSucceeded_tries _ _ _ hv)) fun _ w hw => ?_
  refine ends_later ?_ hw
  refine Prog.Confined.bind (Orchestration.orDeliverFailure_later _ _ _
    (Foreground.markEpisodeCompleted_confined ForegroundStep.of_episodes _ _ _)) fun _ => ?_
  refine Prog.Confined.bind (Orchestration.orDeliverFailure_later _ _ _
    (Foreground.markIngressEventsProcessed_later _ _)) fun _ => ?_
  refine Prog.Confined.bind (Orchestration.orDeliverFailure_later _ _ _
    (Audit.insert_confined ForegroundStep.of_audit _)) fun _ => ?_
  exact Prog.confined_ret _

theorem completeResolution_ends {parsed : ParsedApprovalResolutionIngress}
    {resolution : ApprovalResolutionResult} {executed : Option GovernedActionExecutionResult}
    {outboundMessageId : Int} (hv : Busy i trigger.executionId v) :
    (handProtocol ι answers).wp i
      (Orchestration.completeResolution trigger parsed resolution executed outboundMessageId)
      (Ends i fun _ => Free i) v := by
  refine ends_bind (orFail_ends (markSucceeded_tries _ _ _ hv)) fun _ w hw => ?_
  refine ends_later ?_ hw
  refine Prog.Confined.bind (Orchestration.orFail_later _ _
    (Foreground.markIngressEventProcessed_later _ _)) fun _ => ?_
  refine Prog.Confined.bind (Orchestration.orFail_later _ _
    (Audit.insert_confined ForegroundStep.of_audit _)) fun _ => ?_
  exact Prog.confined_ret _

theorem approvalRequestOfToken_ends {parsed : ParsedApprovalResolutionIngress}
    (hv : Busy i trigger.executionId v) :
    (handProtocol ι answers).wp i (Orchestration.approvalRequestOfToken trigger parsed)
      (Ends i fun _ => Busy i trigger.executionId) v := by
  refine ends_bind (orFail_quiet (confined_fetch .refl) hv) fun found w hw => ?_
  cases found with
  | some request => exact hw
  | none => exact recordAndReturnApprovalResolutionFailure_ends _ _ hw

variable [GovernedActionServices]

theorem answerInContext_ends {config : RuntimeConfig} {failure : ForegroundFailureContext}
    {target : ForegroundFailureDeliveryTarget} {episodeId : Uuid}
    (hfailure : failure.trigger = trigger) (hv : Busy i trigger.executionId v) :
    (handProtocol ι answers).wp i
      (Orchestration.answerInContext config trigger failure target episodeId)
      (Ends i fun _ => Busy i trigger.executionId) v := by
  subst hfailure
  refine ends_bind (orDeliverFailure_quiet (confined_assembleForegroundContext _) hv)
    fun metadata w hw => ?_
  refine ends_bind (orDeliverFailure_quiet (Audit.insert_confined ForegroundStep.of_audit _) hw)
    fun _ w hw => ?_
  refine ends_attempt (tries_quiet (Orchestration.executeConsciousTurn_quiet _ _ _ _) hw)
    (fun turn w hw => hw) fun error w hw => ?_
  refine ends_bind (recordAndDeliverForegroundFailure_ends _ _ hw) fun _ w hw => ?_
  exact hw.calm

/-- An execution that is orchestrated to its end has ended. -/
theorem orchestrateTelegramForegroundTrigger_ends {config : RuntimeConfig}
    {recoveryContext : ForegroundRecoveryContext} {userMessages : List UserEpisodeMessage}
    (hv : Busy i trigger.executionId v) :
    (handProtocol ι answers).wp i
      (Orchestration.orchestrateTelegramForegroundTrigger config trigger recoveryContext
        userMessages) (Ends i fun _ => Free i) v := by
  refine ends_bind (ends_quiet (confined_newUuid .refl) hv) fun episodeId w hw => ?_
  refine ends_bind (openEpisode_ends hw) fun _ w hw => ?_
  refine ends_bind (ends_quiet (Orchestration.orRecordFailure_quiet _ _ _
    (Prog.confined_ofExcept _)) hw) fun chatId w hw => ?_
  refine ends_bind (ends_quiet (Orchestration.orRecordFailure_quiet _ _ _
    (Prog.confined_ofExcept _)) hw) fun replyToMessageId w hw => ?_
  have hfailure : (Orchestration.foregroundFailureContext trigger recoveryContext
      episodeId).trigger = trigger := rfl
  refine ends_bind (answerInContext_ends hfailure hw) fun turn w hw => ?_
  refine ends_bind (ends_quiet (Prog.confined_query _) hw) fun fallback w hw => ?_
  refine ends_bind (deliverAnswer_ends hfailure hw) fun outboundMessageId w hw => ?_
  refine ends_bind (orDeliverFailure_quiet confined_applyCandidateProposals hw)
    fun proposals w hw => ?_
  refine ends_bind (completeExecution_ends hfailure hw) fun _ w hw => ?_
  exact hw

theorem settleLinkedAction_ends {config : RuntimeConfig} {resolution : ApprovalResolutionResult}
    (hv : Busy i trigger.executionId v) :
    (handProtocol ι answers).wp i
      (Orchestration.settleLinkedAction config trigger resolution)
      (Ends i fun _ => Busy i trigger.executionId) v := by
  refine ends_bind (orFail_quiet (confined_fetch .refl) hv) fun linked w hw => ?_
  cases linked with
  | none => exact hw
  | some record =>
    refine ends_bind (orFail_quiet
      (Orchestration.syncStatusFromApprovalResolution_quiet _ _ _ _) hw) fun synced w hw => ?_
    exact orFail_quiet (Orchestration.executeIfApproved_quiet _ _ _) hw

/-- So has one that resolves an approval. -/
theorem orchestrateTelegramApprovalResolutionTrigger_ends {config : RuntimeConfig}
    {parsed : ParsedApprovalResolutionIngress} (hv : Busy i trigger.executionId v) :
    (handProtocol ι answers).wp i
      (Orchestration.orchestrateTelegramApprovalResolutionTrigger config trigger parsed)
      (Ends i fun _ => Free i) v := by
  refine ends_bind (approvalRequestOfToken_ends hv) fun request w hw => ?_
  refine ends_bind (orFail_quiet (quietStep_settling.resolveApprovalRequest _) hw)
    fun resolution w hw => ?_
  refine ends_bind (orFail_quiet (Prog.confined_ofExcept _) hw) fun chatId w hw => ?_
  refine ends_bind (orFail_quiet (Prog.confined_ofExcept _) hw) fun replyToMessageId w hw => ?_
  refine ends_bind (settleLinkedAction_ends hw) fun executed w hw => ?_
  refine ends_bind (orFail_quiet (confined_sendMessage _ _ _) hw) fun outboundMessageId w hw => ?_
  refine ends_bind (ends_quiet (Orchestration.followUpIfExecuted_quiet _ _ _ _ _) hw)
    fun _ w hw => ?_
  refine ends_bind (completeResolution_ends hw) fun _ w hw => ?_
  exact hw

theorem orchestrateTrigger_ends {config : RuntimeConfig}
    {recoveryContext : ForegroundRecoveryContext} {candidateMessages : List UserEpisodeMessage}
    (hv : Busy i trigger.executionId v) :
    (handProtocol ι answers).wp i
      (Orchestration.orchestrateTrigger config trigger recoveryContext candidateMessages)
      (Ends i fun _ => Free i) v := by
  refine ends_bind (ends_quiet (Prog.confined_ofExcept _) hv) fun parsed w hw => ?_
  cases parsed with
  | some parsed =>
    refine ends_bind (orchestrateTelegramApprovalResolutionTrigger_ends hw) fun _ w hw => ?_
    exact hw
  | none =>
    refine ends_bind (orchestrateTelegramForegroundTrigger_ends hw) fun _ w hw => ?_
    exact hw

end Executions

/-! ## Plans -/

theorem buildForegroundTriggerWithKind_returns (config : RuntimeConfig)
    (traceId executionId : Uuid) (triggerKind : ForegroundTriggerKind)
    (ingress : NormalizedIngress) :
    (Foreground.buildForegroundTriggerWithKind config traceId executionId triggerKind
      ingress).Returns fun trigger =>
        trigger.executionId = executionId ∧ trigger.ingress = ingress := by
  refine Prog.Returns.bind (Prog.Returns.any _) fun _ _ => ?_
  refine Prog.Returns.bind (Prog.Returns.any _) fun _ _ => ?_
  exact Prog.Returns.bind (Prog.Returns.any _) fun _ _ => ⟨rfl, rfl⟩

/-- The trigger of a plan is one of its execution. -/
theorem planTrigger_returns (config : RuntimeConfig)
    (execution : TelegramForegroundPlanExecution) :
    (Orchestration.planTrigger config execution).Returns fun trigger =>
      trigger.executionId = execution.executionId := by
  refine Prog.Returns.bind (Prog.Returns.any _) fun ingress _ => ?_
  split
  · exact (buildForegroundTriggerWithKind_returns _ _ _ _ _).mono fun _ h => h.1
  · exact (buildForegroundTriggerWithKind_returns _ _ _ _ _).mono fun _ h => h.1

theorem handleBlocked_ends {blocked : BlockedTelegramForegroundRecovery}
    (hv : Busy i blocked.executionId v) :
    (handProtocol ι answers).wp i (handleBlockedTelegramForegroundRecovery blocked)
      (Ends i fun _ => Free i) v := by
  refine ends_bind (ends_of_tries (markFailed_tries _ hv)) fun _ w hw => ?_
  refine ends_later ?_ hw
  refine Prog.Confined.bind (Foreground.markIngressEventsProcessed_later _ _) fun _ => ?_
  refine Prog.Confined.bind (Prog.confined_ofExcept _) fun replyToMessageId => ?_
  refine Prog.Confined.bind (Prog.Confined.attempt (confined_sendMessage _ _ _)) fun _ => ?_
  exact Prog.confined_ret _

variable [GovernedActionServices]

theorem startPlan_ends {context : TelegramProcessingContext} {traceId : Uuid}
    {plan : PendingForegroundExecutionPlan} {recovery : Option RestartRecovery}
    {summary : TelegramProcessingSummary} (hv : Busy i e v) :
    (handProtocol ι answers).wp i (startPlan context traceId e plan recovery summary)
      (Ends i fun _ => Free i) v := by
  have hemit : (Prog.emit (.planOrchestrated e) : Harness Unit).Confined (OnDb QuietStep) :=
    Prog.Confined.emit fun w => OnDb.emit (quietStep_emitting w.db trivial)
  refine ends_bind (ends_quiet hemit hv) fun _ w hw => ?_
  refine ends_bind (R := fun _ => Free i) ?_ fun outcome w hw => ?_
  · refine ends_bind (R := fun trigger w => trigger.executionId = e ∧ Busy i e w) ?_
      fun trigger w hw => ?_
    · refine Protocol.wp_mono (fun r w hw => ?_) (Protocol.wp_returns (planTrigger_returns _ _)
        (ends_quiet (Orchestration.planTrigger_quiet _ _) hw))
      cases r with
      | ok trigger => exact ⟨hw.1 trigger rfl, hw.2⟩
      | error error => exact hw.2
    · obtain ⟨rfl, hbusy⟩ := hw
      exact orchestrateTrigger_ends hbusy
  · cases outcome <;> exact hw

/-- A plan that is served to its end leaves no execution behind. -/
theorem servePlan_ends {context : TelegramProcessingContext} {traceId : Uuid}
    {internalConversationRef : String} {recoveredOnlyFromScan : Bool}
    {plan : PendingForegroundExecutionPlan} {summary : TelegramProcessingSummary}
    (hv : Busy i e v) :
    (handProtocol ι answers).wp i
      (servePlan context traceId e internalConversationRef recoveredOnlyFromScan plan summary)
      (Ends i fun _ => Free i) v := by
  unfold servePlan
  split
  · exact startPlan_ends hv
  · refine ends_bind (ends_quiet (recoverRestart_quiet _ _ _ _ _) hv) fun outcome w hw => ?_
    split
    · exact startPlan_ends hw
    · refine ends_bind (handleBlocked_ends hw) fun _ w hw => ?_
      exact hw

/-! ## Conversations -/

omit [GovernedActionServices] in
/-- Where a planning of the call found nothing, that is so for good. -/
theorem doomed_any {α : Type} {p : Harness α} (hp : p.Confined (OnDb AnyStep))
    (hv : Doomed i v) :
    (handProtocol ι answers).wp i p (Outcome (fun _ => Doomed i) (Doomed i)) v := by
  obtain ⟨executionId, selected, hevent⟩ := hv
  refine Protocol.wp_mono (fun r w hw => ?_) (wp_any hp v)
  cases r with
  | ok a => exact ⟨executionId, selected, hw _ hevent⟩
  | error error => exact ⟨executionId, selected, hw _ hevent⟩

omit [GovernedActionServices] in
/-- The record of an execution is inserted, and its planning comes next. -/
theorem insert_waiting {record : NewExecutionRecord} (hv : Free i v) :
    (handProtocol ι answers).wp i
      (Execution.insertLogging
        [.executionStarted record.executionId, .planningRequested record.executionId] record)
      (Ends i fun _ => Waiting i record.executionId) v := by
  refine wp_execute (fun w now effect _ hrely hbody => ?_) fun w _ hrely =>
    (hrely.1.free hv).calm
  split at hbody
  · cases hbody
  · next hvalid =>
    obtain rfl := Except.ok.inj hbody
    have hfree := hrely.1.free hv
    have hfresh : ∀ other ∈ w.state.db.executionRecords,
        ExecutionRecord.executionId other ≠
          ExecutionRecord.executionId (Execution.row now record) := by
      rw [Database.executionRecordViolation, Database.firstBroken_eq_none] at hvalid
      have hunique := hvalid _ List.mem_cons_self
      rw [List.all_eq_true] at hunique
      exact fun other hother => of_decide_eq_true (hunique other hother)
    have hadvances : Execution.Advances w.state.db.executionRecords
        (w.state.db.executionRecords ++ [Execution.row now record]) := .append _ _
    have hstep : AnyStep w.state.db
        { w.state.db with
          executionRecords := w.state.db.executionRecords ++ [Execution.row now record] }
        [.executionStarted record.executionId, .planningRequested record.executionId] :=
      .of_ingress hadvances rfl fun _ _ => trivial
    refine ⟨allows_of_foregroundStep hstep, ?_, ?_, ?_, ?_, ?_⟩
    · intro executionId hevent
      rcases Shared.mem_push_log.mp hevent with hold | ⟨-, hnew⟩
      · exact Or.inr (hadvances.ended (hfree.ended _ hold))
      · left
        simpa using hnew
    · intro executionId recoverable selected hevent
      rcases Shared.mem_push_log.mp hevent with hold | ⟨-, hnew⟩
      · exact recorded_advances hadvances (hfree.planned _ _ _ hold)
      · simp at hnew
    · exact ⟨_, Table.find_append_self hfresh⟩
    · exact Shared.mem_push_log.mpr (Or.inr ⟨rfl, by simp⟩)
    · intro recoverable selected hevent
      rcases Shared.mem_push_log.mp hevent with hold | ⟨-, hnew⟩
      · -- What was planned for before has a record, and this one is new.
        obtain ⟨row, hrow⟩ := hfree.planned _ _ _ hold
        exact hfresh row (Table.mem_of_find hrow) (Table.key_of_find hrow)
      · simp at hnew

omit [GovernedActionServices] in
/-- A planning that goes through finds nothing, or gives the execution its events. -/
theorem planPendingForegroundExecution_ends {config : RuntimeConfig} {traceId : Uuid}
    {internalConversationRef : String} (hv : Waiting i e v) :
    (handProtocol ι answers).wp i
      (planPendingForegroundExecution config traceId e internalConversationRef false)
      (Outcome (fun plan w => if plan.isSome then Busy i e w else Doomed i w)
        (Waiting i e)) v := by
  have waits : ∀ {α : Type} {p : Harness α} {v : Shared system ι},
      p.Confined (OnDb QuietStep) → Waiting i e v →
        (handProtocol ι answers).wp i p (Outcome (fun _ => Waiting i e) (Waiting i e)) v := by
    intro α p v hp hv
    refine Protocol.wp_mono (fun r w hw => ?_) (wp_quiet hp v)
    cases r with
    | ok a => exact hw.waiting hv
    | error error => exact hw.waiting hv
  refine Protocol.wp_seq (waits (confined_utcNow .refl) hv) (fun now w hw => ?_)
    fun _ _ h => h
  refine Protocol.wp_seq (waits (confined_newUuids .refl _) hw) (fun links w hw => ?_)
    fun _ _ h => h
  refine Protocol.wp_seq (waits (confined_newUuids .refl _) hw) (fun causalLinks w hw => ?_)
    fun _ _ h => h
  refine Protocol.wp_seq (waits (confined_newUuid .refl) hw) (fun auditEvent v hv => ?_)
    fun _ _ h => h
  refine wp_transaction (fun w at_ effect _ hrely hbody => ?_) fun w _ hrely =>
    hrely.1.waiting hv
  have hwaiting := hrely.1.waiting hv
  rcases planPending_eq_ok hbody with ⟨hnone, hdb, hevents, -⟩ | ⟨plan, hsome, hcommitted⟩
  · have hstep : AnyStep w.state.db effect.db effect.events := by
      rw [hdb]
      exact .of_ingress (.refl _) rfl fun _ _ => trivial
    refine ⟨allows_of_foregroundStep hstep, ?_⟩
    show if effect.value.isSome then _ else _
    rw [hnone]
    refine ⟨e, [], Shared.mem_push_log.mpr (Or.inr ⟨rfl, ?_⟩)⟩
    rw [hevents]
    exact List.mem_singleton.mpr rfl
  · have hstep := planCommitted_step hcommitted
    refine ⟨allows_of_foregroundStep hstep, ?_⟩
    show if effect.value.isSome then _ else _
    rw [hsome]
    obtain ⟨recoverable, statuses, hevents⟩ := hcommitted.events
    have hrecorded := recorded_advances hstep.executions hwaiting.recorded
    have htakes : ∀ event ∈ effect.events, event = .foregroundPlanned e recoverable statuses ∨
        ∃ executionId, event = .ingressTakenOver executionId := by
      intro event hevent
      rw [hevents] at hevent
      rcases List.mem_cons.mp hevent with rfl | htaken
      · exact Or.inl rfl
      · obtain ⟨ingress, -, htaken⟩ := List.mem_flatMap.mp htaken
        obtain ⟨executionId, -, rfl⟩ := List.mem_map.mp htaken
        exact Or.inr ⟨executionId, rfl⟩
    refine ⟨?_, ?_, hrecorded, ?_⟩
    · intro executionId hevent
      rcases Shared.mem_push_log.mp hevent with hold | ⟨-, hnew⟩
      · exact (hwaiting.ended _ hold).imp_right hstep.executions.ended
      · rcases htakes _ hnew with heq | ⟨_, heq⟩ <;> cases heq
    · intro executionId recoverable' selected hevent
      rcases Shared.mem_push_log.mp hevent with hold | ⟨-, hnew⟩
      · exact recorded_advances hstep.executions (hwaiting.planned _ _ _ hold)
      · rcases htakes _ hnew with heq | ⟨_, heq⟩
        · obtain rfl := (Event.foregroundPlanned.inj heq).1
          exact hrecorded
        · cases heq
    · obtain ⟨row, hrow⟩ := hrecorded
      by_cases hstatus : row.status = "started"
      · exact Or.inr (Or.inl ⟨⟨row, hrow, hstatus⟩, planCommitted_processing hcommitted⟩)
      · exact Or.inl ⟨row, hrow, hstatus⟩

/-- Where a call may stand when it goes on. -/
def Settled (i : ι) (w : Shared system ι) : Prop := Free i w ∨ Doomed i w

/-- Where a call may stand when it has failed. -/
def Failed (i : ι) (w : Shared system ι) : Prop :=
  Calm i w ∨ Doomed i w ∨ ∃ executionId, Waiting i executionId w

omit [GovernedActionServices] in
/-- A program that keeps the call free, or the books of a doomed one. -/
theorem settled_of_ends {α : Type} {p : Harness α} (hp : p.Confined (OnDb AnyStep))
    (hfree : Free i v → (handProtocol ι answers).wp i p
      (Outcome (fun _ => Settled i) (Failed i)) v) (hv : Settled i v) :
    (handProtocol ι answers).wp i p (Outcome (fun _ => Settled i) (Failed i)) v := by
  rcases hv with hv | hv
  · exact hfree hv
  · refine Protocol.wp_mono (fun r w hw => ?_) (doomed_any hp hv)
    cases r with
    | ok a => exact Or.inr hw
    | error error => exact Or.inr (Or.inl hw)

theorem processConversation_settles {context : TelegramProcessingContext}
    {recoveryScanConversations newlyStagedConversations : List String}
    {summary : TelegramProcessingSummary} {internalConversationRef : String}
    (hv : Settled i v) :
    (handProtocol ι answers).wp i
      (processConversation context recoveryScanConversations newlyStagedConversations summary
        internalConversationRef)
      (Outcome (fun _ => Settled i) (Failed i)) v := by
  refine settled_of_ends (processConversation_any _ _ _ _ _) (fun hv => ?_) hv
  have calms : ∀ (error : ErrorChain) (w : Shared system ι), Calm i w → Failed i w :=
    fun _ _ h => Or.inl h
  refine Protocol.wp_seq (ends_later (confined_newUuid .refl) hv) (fun traceId w hw => ?_) calms
  refine Protocol.wp_seq (ends_later (confined_newUuid .refl) hw) (fun e w hw => ?_) calms
  refine Protocol.wp_seq (insert_waiting hw) (fun _ w hw => ?_) calms
  refine Protocol.wp_seq (planPendingForegroundExecution_ends hw) (fun plan w hw => ?_)
    fun _ w hw => Or.inr (Or.inr ⟨_, hw⟩)
  cases plan with
  | none => exact Or.inr hw
  | some plan =>
    refine Protocol.wp_mono (fun r w hw => ?_) (servePlan_ends hw)
    cases r with
    | ok summary => exact Or.inl hw
    | error error => exact Or.inl hw

/-! ## Updates -/

/-- After the commit of a trigger, its execution is worked on; without one the call is free. -/
def AfterCommit (i : ι) (executionId : Uuid) {ε α : Type} (committed : Except ε α)
    (w : Shared system ι) : Prop :=
  match committed with
  | .ok _ => Busy i executionId w
  | .error _ => Free i w

omit [GovernedActionServices] in
/-- A trigger that is accepted is worked on; otherwise the call stays free. -/
theorem acceptForegroundTrigger_ends {config : RuntimeConfig}
    {telegramConfig : ResolvedTelegramConfig} {ingress : NormalizedIngress} (hv : Free i v) :
    (handProtocol ι answers).wp i (acceptForegroundTrigger config telegramConfig ingress)
      (Ends i fun outcome w => match outcome with
        | .accepted trigger => Busy i trigger.executionId w
        | .duplicate _ | .rejected _ => Free i w) v := by
  refine ends_bind (ends_later (confined_newUuid .refl) hv) fun traceId w hw => ?_
  refine ends_bind (ends_later (confined_newUuid .refl) hw) fun executionId w hw => ?_
  refine ends_bind (ends_later (confined_later
    (Orchestration.buildForegroundTriggerWithKind_quiet _ _ _ _ _)) hw) fun trigger w hw => ?_
  refine ends_bind (ends_later (confined_later (matchingConversationBinding_quiet _ _)) hw)
    fun matching w hw => ?_
  refine ends_bind (ends_later (confined_expect _) hw) fun binding w hw => ?_
  refine ends_bind (ends_later (confined_later (lookUpBindings_quiet _)) hw)
    fun lookups w hw => ?_
  refine ends_bind (ends_later (confined_newUuid .refl) hw) fun auditEventId v hv => ?_
  refine ends_bind (R := AfterCommit i trigger.executionId) ?_ fun committed w hw => ?_
  · refine wp_transaction (fun w now effect _ hrely hbody => ?_) fun w _ hrely =>
      (hrely.1.free hv).calm
    have hfree := hrely.1.free hv
    rcases commitAccepted_eq_ok hbody with ⟨error, hvalue, hdb, hevents⟩ | ⟨hvalue, haccepted⟩
    · have hstep : LaterStep w.state.db effect.db effect.events := by
        rw [hdb, hevents]
        exact .refl _
      refine ⟨allows_of_foregroundStep hstep, ?_⟩
      dsimp only
      rw [hvalue]
      have hfollows : Follows i w (committed w i effect) := follows_of_laterStep hstep
      exact hfollows.free hfree
    · refine ⟨allows_of_foregroundStep haccepted.step, ?_⟩
      dsimp only
      rw [hvalue]
      obtain ⟨row, hrow, hstatus⟩ := haccepted.execution
      refine ⟨?_, ?_, ⟨row, hrow⟩, Or.inr (Or.inl ⟨⟨row, hrow, hstatus⟩, haccepted.processing⟩)⟩
      · intro executionId hevent
        rcases Shared.mem_push_log.mp hevent with hold | ⟨-, hnew⟩
        · exact Or.inr (haccepted.step.executions.ended (hfree.ended _ hold))
        · exact Or.inl (haccepted.started _ hnew)
      · intro executionId recoverable selected hevent
        rcases Shared.mem_push_log.mp hevent with hold | ⟨-, hnew⟩
        · exact recorded_advances haccepted.step.executions (hfree.planned _ _ _ hold)
        · exact (haccepted.unplanned _ _ _ hnew).elim
  · cases committed with
    | ok _ => exact hw
    | error error =>
      dsimp only
      split
      · refine ends_bind (ends_later (confined_later
          (findIngressEventByChannelEvent_quiet _ _)) hw) fun existing w hw => ?_
        cases existing with
        | some existing =>
          refine ends_bind (ends_later (confined_later
            (duplicateForegroundTriggerOutcome_quiet _ _)) hw) fun _ w hw => ?_
          exact hw
        | none => exact hw.calm
      · exact Free.calm hw

omit [GovernedActionServices] in
theorem intakeTelegramForegroundTrigger_ends {config : RuntimeConfig}
    {telegramConfig : ResolvedTelegramConfig} {ingress : NormalizedIngress} (hv : Free i v) :
    (handProtocol ι answers).wp i
      (intakeTelegramForegroundTrigger config telegramConfig ingress)
      (Ends i fun outcome w => match outcome with
        | .accepted trigger => Busy i trigger.executionId w
        | .duplicate _ | .rejected _ => Free i w) v := by
  refine ends_bind (ends_later (confined_later (findIngressEventByChannelEvent_quiet _ _)) hv)
    fun existing w hw => ?_
  cases existing with
  | some existing =>
    refine ends_bind (ends_later (confined_later
      (duplicateForegroundTriggerOutcome_quiet _ _)) hw) fun _ w hw => ?_
    exact hw
  | none =>
    dsimp only
    split
    · refine ends_bind (ends_later (rejectForegroundTrigger_later _ _ _) hw) fun _ w hw => ?_
      exact hw
    · exact acceptForegroundTrigger_ends hw

theorem answerCallback_ends {context : TelegramProcessingContext}
    {progress : TelegramIntakeProgress} {ingress : NormalizedIngress} (hv : Free i v) :
    (handProtocol ι answers).wp i (answerCallback context progress ingress)
      (Ends i fun _ => Free i) v := by
  refine ends_bind (R := fun _ => Free i) ?_ fun outcome w hw => hw
  refine ends_bind (intakeTelegramForegroundTrigger_ends hv) fun intake w hw => ?_
  cases intake with
  | duplicate duplicate => exact hw
  | rejected rejected => exact hw
  | accepted trigger => exact orchestrateTrigger_ends hw

/-- An update that was taken leaves the call where it may go on, and one that failed where it may
stop. -/
theorem takeUpdate_settles {context : TelegramProcessingContext}
    {progress : TelegramIntakeProgress} {update : TelegramUpdate} (hv : Settled i v) :
    (handProtocol ι answers).wp i (takeUpdate context progress update)
      (Outcome (fun _ => Settled i) (Failed i)) v := by
  refine settled_of_ends (takeUpdate_any _ _ _) (fun hv => ?_) hv
  suffices hends : (handProtocol ι answers).wp i (takeUpdate context progress update)
      (Ends i fun _ => Free i) v by
    refine Protocol.wp_mono (fun r w hw => ?_) hends
    cases r with
    | ok progress => exact Or.inl hw
    | error error => exact Or.inl hw
  have hnormalize : (Ingress.normalizeTelegramUpdate context.telegramConfig update
      context.rawPayloadRef).Confined (OnDb LaterStep) :=
    Prog.Confined.bind (confined_newUuid .refl) fun _ => Prog.confined_ret _
  refine ends_bind (ends_later hnormalize hv) fun normalization w hw => ?_
  cases normalization with
  | accepted ingress =>
    dsimp only
    split
    · exact answerCallback_ends hw
    · refine ends_bind (ends_later (stageTelegramForegroundIngress_later _ _) hw)
        fun staged w hw => ?_
      cases staged <;> exact hw
  | rejected rejected =>
    refine ends_bind (ends_later (confined_later (recordNormalizationRejected_quiet _ _ _)) hw)
      fun _ w hw => ?_
    exact hw
  | ignored externalEventId =>
    refine ends_bind (ends_later (confined_later (recordUpdateIgnored_quiet _ _)) hw)
      fun _ w hw => ?_
    exact hw

/-- Where a call stands at its end. -/
theorem processTelegramUpdates_settles {context : TelegramProcessingContext}
    {updates : List TelegramUpdate} (hv : Free i v) :
    (handProtocol ι answers).wp i (processTelegramUpdates context updates)
      (Outcome (fun _ => Settled i) (Failed i)) v := by
  have loop : ∀ {α β : Type} {f : β → α → Harness β} (xs : List α) (b : β)
      (v : Shared system ι),
      (∀ b x w, Settled i w → (handProtocol ι answers).wp i (f b x)
        (Outcome (fun _ => Settled i) (Failed i)) w) → Settled i v →
      (handProtocol ι answers).wp i (.foldlM f b xs)
        (Outcome (fun _ => Settled i) (Failed i)) v := by
    intro α β f xs b v turn hv
    induction xs generalizing b v with
    | nil => exact hv
    | cons x xs ih =>
      refine Protocol.wp_seq (turn b x v hv) (fun b' w hw => ?_) fun _ _ h => h
      exact ih b' w hw
  refine Protocol.wp_seq (loop updates _ v (fun _ _ _ => takeUpdate_settles) (Or.inl hv))
    (fun progress w hw => ?_) fun _ _ h => h
  have hlist : (listRecoverableForegroundConversations context.config).Confined
      (OnDb QuietStep) :=
    Prog.Confined.bind (confined_utcNow .refl) fun _ => confined_fetch .refl
  have hlisted : (handProtocol ι answers).wp i
      (listRecoverableForegroundConversations context.config)
      (Outcome (fun _ => Settled i) (Failed i)) w := by
    refine settled_of_ends (confined_quiet_any hlist) (fun hw => ?_) hw
    refine Protocol.wp_mono (fun r w hw => ?_) (ends_later (confined_later hlist) hw)
    cases r with
    | ok recoverable => exact Or.inl hw
    | error error => exact Or.inl hw
  refine Protocol.wp_seq hlisted (fun recoverable w hw => ?_) fun _ _ h => h
  exact loop _ _ w (fun _ _ _ => processConversation_settles) hw

end Protocol

/-! ## Calls that end -/

section Pool

variable {ι : Type} [DecidableEq ι] [GovernedActionServices]

/-- Any number of calls on one database. -/
def processingPool (calls : ι → TelegramProcessingContext × List TelegramUpdate) (start : World) :
    Config system fun _ : ι => TelegramProcessingSummary where
  threads := fun i => processTelegramUpdates (calls i).1 (calls i).2
  shared := { state := start }

/-- A call that has ended leaves each execution that it started in hand, where its plannings
succeed and no other call takes the events of what it has not ended. -/
theorem executions_in_hand (calls : ι → TelegramProcessingContext × List TelegramUpdate)
    (start : World) (answers : Answers system)
    (c : Config system fun _ : ι => TelegramProcessingSummary)
    (reach : Config.Reachable answers (processingPool calls start) c) (i : ι)
    (r : Except ErrorChain TelegramProcessingSummary) (hr : c.threads i = .ofExcept r)
    (hplanning : PlanningSucceeds i c.shared.log) :
    ∀ executionId, (i, .executionStarted executionId) ∈ c.shared.log →
      InHand executionId c.shared.state.db := by
  have hkept : (handProtocol ι answers).Kept
      (fun i => Outcome (fun _ => Settled i) (Failed i)) c := by
    refine Protocol.Kept.reachable (Protocol.kept_of_wp trivial fun i => ?_) reach
    refine processTelegramUpdates_settles ⟨?_, ?_⟩
    · intro executionId hevent
      cases hevent
    · intro executionId recoverable selected hevent
      cases hevent
  obtain ⟨v, hrely, hended⟩ := hkept.finished hr
  have hfollows := hrely.1.toFollows
  have doomed : ¬ Doomed i v := by
    intro hdoomed
    obtain ⟨executionId, selected, hevent⟩ := hfollows.doomed hdoomed
    exact hplanning.found executionId selected hevent
  have waiting : ∀ executionId, ¬ Waiting i executionId v := by
    intro executionId hwaiting
    have hstill := hfollows.waiting hwaiting
    obtain ⟨recoverable, selected, hevent⟩ := hplanning.committed executionId hstill.requested
    exact hstill.unplanned recoverable selected hevent
  have hcalm : Calm i v := by
    cases r with
    | ok summary => exact (hended.resolve_right doomed).calm
    | error error =>
      rcases hended with hcalm | hdoomed | ⟨executionId, hwaiting⟩
      · exact hcalm
      · exact absurd hdoomed doomed
      · exact absurd hwaiting (waiting executionId)
  intro executionId hstarted
  rcases hrely.1.calm hcalm executionId hstarted with hterminal | ⟨-, hprocessing⟩ | htaken
  · exact Or.inl hterminal
  · exact Or.inr hprocessing
  · obtain ⟨j, hj, htaken⟩ := htaken
    exact absurd htaken (hplanning.untaken executionId hstarted j hj)

end Pool

/-! ### One message and two calls -/

instance (executionId : Uuid) (db : Database) : Decidable (InHand executionId db) :=
  decidable_of_iff
    ((Table.find ExecutionRecord.executionId executionId db.executionRecords).any
        (fun row => row.status ≠ "started") ∨
      db.ingressEvents.any fun row =>
        row.executionId = some executionId && row.foregroundStatus = "processing")
    (by
      unfold InHand Execution.Ended Processing
      rw [Option.any_eq_true, List.any_eq_true]
      simp)

/-- A message is staged, and nothing has been planned for it. -/
def oneStaged : World where
  db :=
    { ingressEvents :=
        [{ crashedIngress 21 11 100 with
            executionId := none
            foregroundStatus := "pending"
            lastProcessedAt := none }] }

/-- Surroundings in which no statement goes through from the given turn on. -/
def steadyUntil (turn : Nat) : Oracle system := fun n q =>
  match q with
  | .statement => if n < turn then some crashedNow else none
  | q => steady crashedNow n q

/-- A call finds the message and plans it; what comes next fails. -/
def failsAfterPlanning : List Unit := List.replicate 60 ()

/-- The execution of a call that fails after its planning is found by the recovery. -/
theorem executions_in_hand_failsAfterPlanning :
    letI := GovernedActions.plainServices
    ∃ c, Config.Reachable (fun _ _ => True)
        (processingPool (fun _ : Unit => (crashedContext, [])) oneStaged) c ∧
      ((), .executionStarted 6) ∈ c.shared.log ∧ InHand 6 c.shared.state.db := by
  let _services := GovernedActions.plainServices
  have reach : Config.Reachable (fun _ _ => True)
      (processingPool (fun _ : Unit => (crashedContext, [])) oneStaged)
      (Config.schedule (steadyUntil 48) failsAfterPlanning 0
        (processingPool (fun _ : Unit => (crashedContext, [])) oneStaged)) :=
    Config.reachable_schedule (fun _ _ => trivial) failsAfterPlanning 0 _
  have hlog : (Config.schedule (steadyUntil 48) failsAfterPlanning 0
      (processingPool (fun _ : Unit => (crashedContext, [])) oneStaged)).shared.log =
        [((), .executionStarted 6), ((), .planningRequested 6),
          ((), .foregroundPlanned 6 ["pending"] ["pending"]), ((), .planOrchestrated 6)] := by
    decide +kernel
  have hended : (Config.schedule (steadyUntil 48) failsAfterPlanning 0
      (processingPool (fun _ : Unit => (crashedContext, [])) oneStaged)).threads () =
        .ofExcept (.error ["failed to load normalized ingress from persistence",
          "error communicating with database"]) := by
    refine Prog.outcome_eq_some.mp ?_
    decide +kernel
  refine ⟨_, reach, ?_, ?_⟩
  · rw [hlog]
    decide
  · refine executions_in_hand _ _ _ _ reach () _ hended ⟨?_, ?_, ?_⟩ 6 ?_
    · intro executionId hevent
      rw [hlog] at hevent ⊢
      simp only [List.mem_cons, Prod.mk.injEq, true_and, List.not_mem_nil, or_false,
        Event.planningRequested.injEq, reduceCtorEq, false_or] at hevent
      subst hevent
      exact ⟨["pending"], ["pending"], by simp⟩
    · intro executionId selected hevent
      rw [hlog] at hevent
      simp at hevent
    · intro executionId _ j hj
      exact absurd rfl hj
    · rw [hlog]
      decide

/-- Two calls find the message, and insert the records of their executions. The second one
plans it first. -/
def bothFindMessage : List Bool :=
  List.replicate 10 false ++ List.replicate 50 true ++ List.replicate 50 false

/-- The first call then finds nothing to plan, and returns. Its execution stays started, and
nothing points to it. -/
theorem unplanned_execution_stranded :
    letI := GovernedActions.plainServices
    ∃ c, Config.Reachable (fun _ _ => True)
        (processingPool (fun _ : Bool => (crashedContext, [])) oneStaged) c ∧
      (c.threads false).ended.isSome ∧ (false, .executionStarted 6) ∈ c.shared.log ∧
        Execution.Started 6 c.shared.state.db ∧ ¬ InHand 6 c.shared.state.db := by
  let _services := GovernedActions.plainServices
  have reach : Config.Reachable (fun _ _ => True)
      (processingPool (fun _ : Bool => (crashedContext, [])) oneStaged)
      (Config.schedule (steadyUntil 200) bothFindMessage 0
        (processingPool (fun _ : Bool => (crashedContext, [])) oneStaged)) :=
    Config.reachable_schedule (fun _ _ => trivial) bothFindMessage 0 _
  exact ⟨_, reach, by decide +kernel, by decide +kernel, by decide +kernel, by decide +kernel⟩

end Runtime

end BlueLagoon
