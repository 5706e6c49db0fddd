import BlueLagoon.Interleaving.Monitor
import BlueLagoon.TurnEffects

/-!
# The action cap

How many worker passes a conscious turn takes, and how many actions it executes
without an approval. The bounds are those of the thread that runs the turn; they hold
at every moment of every interleaving with other threads.
-/

namespace BlueLagoon

open Interleaving Harness

/-- What a turn has done so far: its worker passes, and the actions it handed to an
executor, but for those that came back blocked. -/
structure TurnWatch where
  passes : Nat := 0
  executed : List Uuid := []
  deriving DecidableEq, Repr

/-- The effect of an event of the turn. -/
def TurnWatch.observe (turn : TurnWatch) : Event → TurnWatch
  | .workerPassStarted => { turn with passes := turn.passes + 1 }
  | .payloadDispatched id => { turn with executed := turn.executed ++ [id] }
  | .actionReturned id .blocked => { turn with executed := turn.executed.erase id }
  | _ => turn

/-- The counters of a summary account for every proposal. -/
def GovernedActionProcessingSummary.Balanced (summary : GovernedActionProcessingSummary) : Prop :=
  summary.proposedCount =
    summary.executedCount + summary.blockedCount + summary.pendingApprovalCount

/-- The turn may not go beyond the cap without an approval. -/
def RuntimeConfig.Capped (config : RuntimeConfig) : Prop :=
  config.governedActions.capExceededBehavior = .alwaysDeny ∨
    config.governedActions.capExceededBehavior = .escalate

namespace Orchestration

/-- What holds of a turn at every moment. -/
def WithinBounds (config : RuntimeConfig) (initialExecutedActionCount : Nat) (turn : TurnWatch) :
    Prop :=
  turn.passes ≤ maxWorkerPasses config ∧
    (config.Capped → initialExecutedActionCount + turn.executed.length ≤
      max initialExecutedActionCount config.governedActions.maxActionsPerForegroundTurn)

/-! ## Programs that leave the turn as it is -/

section Watched

variable {I : TurnWatch → Prop} {α : Type} {p : Harness α} {turn : TurnWatch}

theorem observe_routine {e : Event} (h : e.Routine) (turn : TurnWatch) :
    turn.observe e = turn := by
  cases e <;> first | rfl | exact h.elim

theorem watched_routine (hp : p.Confined (OnDb RoutineStep)) (hI : I turn) :
    p.Watched TurnWatch.observe I (fun _ turn' => turn' = turn) turn :=
  hp.watched (fun _ _ _ hstep e he => observe_routine (hstep.1.events e he)) hI

end Watched

end Orchestration

/-! ## Executing an action -/

namespace GovernedActions

theorem updateGovernedActionExecution_returns (update : GovernedActionExecutionUpdate)
    (events : List Event) : (updateGovernedActionExecution update events).Returns fun record =>
      record.governedActionExecutionId = update.governedActionExecutionId := by
  refine Prog.Returns.bind (Prog.Returns.any _) fun _ _ => ?_
  exact returns_fetchOne fun db record hrecord => Table.key_of_find hrecord

theorem startExecution_returns (record : GovernedActionExecutionRecord) :
    (startExecution record).Returns fun started =>
      started.1.governedActionExecutionId = record.governedActionExecutionId := by
  refine Prog.Returns.bind (Prog.Returns.any _) fun executionId _ => ?_
  refine Prog.Returns.bind (Prog.Returns.any _) fun _ _ => ?_
  refine Prog.Returns.bind (Prog.Returns.any _) fun startedAt _ => ?_
  refine Prog.Returns.bind (updateGovernedActionExecution_returns _ _) fun record hid => ?_
  exact Prog.Returns.bind (Prog.Returns.any _) fun _ _ => hid

variable [GovernedActionServices] {I : TurnWatch → Prop} {turn : TurnWatch}

/-- Executing an action hands it to an executor once, at most. -/
theorem executeGovernedAction_watched (config : RuntimeConfig)
    (record : GovernedActionExecutionRecord) (hI : I turn)
    (hdispatched : I (turn.observe (.payloadDispatched record.governedActionExecutionId))) :
    (executeGovernedAction config record).Watched TurnWatch.observe I (fun _ turn' =>
      turn' = turn ∨
        turn' = turn.observe (.payloadDispatched record.governedActionExecutionId)) turn := by
  have routine : ∀ {β : Type} {p : Harness β} {turn : TurnWatch},
      p.Confined (OnDb RoutineStep) → I turn →
        p.Watched TurnWatch.observe I (fun _ turn' => turn' = turn) turn :=
    fun hp hI => Orchestration.watched_routine hp hI
  unfold executeGovernedAction
  refine (routine (Prog.Confined.attempt (validateGovernedActionPolicy_routine _ _)) hI).bind
    (fun validation turn' hturn => ?_) (fun _ _ h => Or.inl h)
  subst hturn
  cases validation with
  | error error =>
    exact (routine (blockOnPolicyRecheck_routine _ _) hI).mono fun _ _ h => Or.inl h
  | ok _ =>
    refine ((startExecution_routine record).watched_returns (startExecution_returns record)
      (fun _ _ _ hstep e he => Orchestration.observe_routine (hstep.1.events e he)) hI).bind
        (fun started turn' hstarted => ?_) (fun _ _ h => Or.inl h.1)
    obtain ⟨rfl, hid⟩ := hstarted
    replace hid := hid started rfl
    obtain ⟨startedRecord, startedAt⟩ := started
    refine (routine (createGovernedActionWorkerLease_routine _ _ _) hI).bind
      (fun workerLease turn'' hturn => ?_) (fun _ _ h => Or.inl h)
    subst hturn
    dsimp only at hid
    rw [← hid] at hdispatched ⊢
    refine (Prog.watched_emit (Q := fun _ turn' => turn' = turn''.observe _) hdispatched rfl).bind
      (fun _ turn' hturn => ?_) (fun _ _ h => Or.inr h)
    subst hturn
    refine (routine (Prog.Confined.attempt
      ((TurnStep.executor startedRecord).executePayload config)) hdispatched).bind
        (fun result turn' hturn => ?_) (fun _ _ h => Or.inr h)
    subst hturn
    refine (routine (completeLease_routine _ _) hdispatched).bind
      (fun leaseCompletion turn' hturn => ?_) (fun _ _ h => Or.inr h)
    rw [Prog.watched_ofExcept]
    exact Or.inr hturn

end GovernedActions

namespace Orchestration

/-! ## One round of proposals -/

/-- How the books of a round stand, with the proposals that are left: `passes` worker passes
were started, and `before` actions were executed in earlier rounds. -/
structure RoundBooks (config : RuntimeConfig) (initialExecutedActionCount passes before : Nat)
    (state : ProcessingState) (left : List GovernedActionProposal) (turn : TurnWatch) : Prop where
  started : turn.passes = passes
  balance : state.summary.proposedCount = state.summary.executedCount +
    state.summary.blockedCount + state.summary.pendingApprovalCount + left.length
  executed : turn.executed.length ≤ before + state.summary.executedCount
  tracked : config.Capped → state.tracker.executedActionCount =
    initialExecutedActionCount + before + state.summary.executedCount
  capped : config.Capped → state.tracker.executedActionCount ≤
    max initialExecutedActionCount config.governedActions.maxActionsPerForegroundTurn

variable {config : RuntimeConfig} {initial passes before : Nat} {state : ProcessingState}
  {proposal : GovernedActionProposal} {left : List GovernedActionProposal} {turn : TurnWatch}

namespace RoundBooks

theorem withinBounds (h : RoundBooks config initial passes before state left turn)
    (hpasses : passes ≤ maxWorkerPasses config) : WithinBounds config initial turn := by
  refine ⟨by rw [h.started]; exact hpasses, fun hcapped => ?_⟩
  have hexecuted := h.executed
  have htracked := h.tracked hcapped
  have hcap := h.capped hcapped
  omega

theorem blocked (h : RoundBooks config initial passes before state (proposal :: left) turn)
    (observation : GovernedActionObservation) :
    RoundBooks config initial passes before (state.blocked observation) left turn where
  started := h.started
  balance := by
    have hbalance := h.balance
    simp only [List.length_cons] at hbalance
    simp only [ProcessingState.blocked]
    omega
  executed := h.executed
  tracked := h.tracked
  capped := h.capped

theorem denied (h : RoundBooks config initial passes before state (proposal :: left) turn)
    (observation : GovernedActionObservation) :
    RoundBooks config initial passes before (state.denied observation) left turn :=
  { h.blocked observation with }

theorem routed (h : RoundBooks config initial passes before state (proposal :: left) turn) :
    RoundBooks config initial passes before state.routed left turn where
  started := h.started
  balance := by
    have hbalance := h.balance
    simp only [List.length_cons] at hbalance
    simp only [ProcessingState.routed]
    omega
  executed := h.executed
  tracked := h.tracked
  capped := h.capped

/-- With fewer actions on the list the books still stand. -/
theorem of_executed_le (h : RoundBooks config initial passes before state left turn)
    {turn' : TurnWatch} (hpasses : turn'.passes = turn.passes)
    (hle : turn'.executed.length ≤ turn.executed.length) :
    RoundBooks config initial passes before state left turn' :=
  { h with
    started := by rw [hpasses]; exact h.started
    executed := le_trans hle h.executed }

/-- A tracker that is not at the cap counts on. -/
theorem recordExecutedAction_of_room {tracker : ForegroundActionLoopTracker}
    (hmax : config.governedActions.maxActionsPerForegroundTurn ≤
      ForegroundActionLoopTracker.u32Max) (room : tracker.isAtCap config = false) :
    tracker.recordExecutedAction.executedActionCount = tracker.executedActionCount + 1 ∧
      tracker.executedActionCount + 1 ≤ config.governedActions.maxActionsPerForegroundTurn := by
  have hroom : tracker.remainingActionsBeforeCap config ≠ 0 := of_decide_eq_false room
  have hlt : tracker.executedActionCount <
      config.governedActions.maxActionsPerForegroundTurn := Nat.lt_of_sub_ne_zero hroom
  exact ⟨Nat.min_eq_left (le_trans hlt hmax), hlt⟩

/-- An action that was executed while there was room for it. -/
theorem counted (h : RoundBooks config initial passes before state (proposal :: left) turn)
    (hmax : config.governedActions.maxActionsPerForegroundTurn ≤
      ForegroundActionLoopTracker.u32Max)
    (room : config.Capped → state.tracker.isAtCap config = false)
    {result : GovernedActionExecutionResult} (hstatus : result.outcome.status ≠ .blocked)
    {turn' : TurnWatch} (hpasses : turn'.passes = turn.passes)
    (hle : turn'.executed.length ≤ turn.executed.length + 1) :
    RoundBooks config initial passes before (state.executed result) left turn' := by
  have hbalance := h.balance
  have hexecuted := h.executed
  simp only [List.length_cons] at hbalance
  rw [ProcessingState.executed, if_neg hstatus]
  refine ⟨by rw [hpasses]; exact h.started, ?_, ?_, fun hcapped => ?_, fun hcapped => ?_⟩
  · dsimp only
    omega
  · dsimp only
    omega
  · have htracked := h.tracked hcapped
    obtain ⟨hcount, -⟩ := recordExecutedAction_of_room hmax (room hcapped)
    dsimp only
    omega
  · obtain ⟨hcount, hlt⟩ := recordExecutedAction_of_room hmax (room hcapped)
    dsimp only
    omega

end RoundBooks

/-- What a turn has done once the outcome of an action is known. -/
theorem observe_returned_le (turn : TurnWatch) (id : Uuid) (status : GovernedActionStatus) :
    (turn.observe (.actionReturned id status)).passes = turn.passes ∧
      (turn.observe (.actionReturned id status)).executed.length ≤ turn.executed.length := by
  cases status <;> first | exact ⟨rfl, le_rfl⟩ | exact ⟨rfl, List.length_erase_le⟩

/-- An action that was executed and came back blocked does not count. -/
theorem observe_dispatched_blocked (turn : TurnWatch) (id : Uuid) :
    ((turn.observe (.payloadDispatched id)).observe
      (.actionReturned id .blocked)).executed.length = turn.executed.length := by
  simp [TurnWatch.observe, List.length_erase_of_mem]

section Round

variable [GovernedActionServices] {trigger : ForegroundTrigger}

/-- What a step of the loop over the proposals leads to: the books stand, or the turn is over. -/
def Booked (config : RuntimeConfig) (initial passes before : Nat)
    (left : List GovernedActionProposal) :
    Except ErrorChain ProcessingState → TurnWatch → Prop
  | .ok state, turn => RoundBooks config initial passes before state left turn
  | .error _, _ => True

/-- A planned action is booked as routed for approval or as executed; executing it needs room below
the cap. -/
theorem routeOrExecute_watched {record : GovernedActionExecutionRecord} {requiresApproval : Bool}
    {title consequenceSummary : String}
    (hmax : config.governedActions.maxActionsPerForegroundTurn ≤
      ForegroundActionLoopTracker.u32Max) (hpasses : passes ≤ maxWorkerPasses config)
    (h : RoundBooks config initial passes before state (proposal :: left) turn)
    (room : config.Capped → requiresApproval = false → state.tracker.isAtCap config = false) :
    (routeOrExecute config trigger proposal record requiresApproval title consequenceSummary
      state).Watched TurnWatch.observe (WithinBounds config initial)
        (Booked config initial passes before left) turn := by
  have hwithin := h.withinBounds hpasses
  cases requiresApproval with
  | true =>
    refine (watched_routine (routeGovernedActionForApproval_routine _ _ _ _ _ _) hwithin).bind
      (fun _ turn' hturn => ?_) (fun _ _ _ => trivial)
    subst hturn
    exact h.routed
  | false =>
    have hdispatched : WithinBounds config initial
        (turn.observe (.payloadDispatched record.governedActionExecutionId)) := by
      refine ⟨hwithin.1, fun hcapped => ?_⟩
      obtain ⟨-, hlt⟩ := RoundBooks.recordExecutedAction_of_room hmax (room hcapped rfl)
      have hexecuted := h.executed
      have htracked := h.tracked hcapped
      simp only [TurnWatch.observe, List.length_append, List.length_singleton]
      omega
    refine (GovernedActions.executeGovernedAction_watched config record hwithin
      hdispatched).bind (fun result turn' hturn => ?_) (fun _ _ _ => trivial)
    have hturn' : WithinBounds config initial turn' := by
      rcases hturn with rfl | rfl
      · exact hwithin
      · exact hdispatched
    obtain ⟨hsame, hle⟩ := observe_returned_le turn' record.governedActionExecutionId
      result.outcome.status
    refine (Prog.watched_emit (Q := fun _ turn'' => turn'' = turn'.observe
      (.actionReturned record.governedActionExecutionId result.outcome.status)) ?_ rfl).bind
        (fun _ turn'' hreturned => ?_) (fun _ _ _ => trivial)
    · refine ⟨by rw [hsame]; exact hturn'.1, fun hcapped => ?_⟩
      have := hturn'.2 hcapped
      omega
    · subst hreturned
      have hpasses' : turn'.passes = turn.passes := by
        rcases hturn with rfl | rfl <;> rfl
      by_cases hblocked : result.outcome.status = .blocked
      · -- It came back blocked: the executions are what they were.
        show RoundBooks _ _ _ _ (state.executed result) _ _
        rw [ProcessingState.executed, if_pos hblocked]
        refine (h.blocked result.observation).of_executed_le (hsame.trans hpasses') ?_
        rw [hblocked]
        rcases hturn with rfl | rfl
        · exact List.length_erase_le
        · exact le_of_eq (observe_dispatched_blocked turn _)
      · refine h.counted hmax (fun hcapped => room hcapped rfl) hblocked
          (hsame.trans hpasses') (le_trans hle ?_)
        rcases hturn with rfl | rfl
        · exact Nat.le_succ _
        · simp [TurnWatch.observe]

/-- Whichever branch a planned proposal takes, the books stand afterwards, or the turn is over. -/
theorem processPlanned_watched {planned : PlannedGovernedAction}
    (hmax : config.governedActions.maxActionsPerForegroundTurn ≤
      ForegroundActionLoopTracker.u32Max) (hpasses : passes ≤ maxWorkerPasses config)
    (h : RoundBooks config initial passes before state (proposal :: left) turn) :
    (processPlanned config trigger proposal planned state).Watched TurnWatch.observe
      (WithinBounds config initial) (Booked config initial passes before left) turn := by
  have hwithin := h.withinBounds hpasses
  unfold processPlanned
  dsimp only
  split
  · -- At the cap, what happens depends on the configured behaviour.
    split
    · rename_i hatCap hbehavior
      refine (watched_routine (GovernedActions.writeGovernedActionAuditEvent_routine _ _ _ _)
        hwithin).bind (fun _ turn' hturn => ?_) (fun _ _ _ => trivial)
      subst hturn
      refine routeOrExecute_watched hmax hpasses h fun hcapped _ => ?_
      simp [RuntimeConfig.Capped, hbehavior] at hcapped
    · refine (watched_routine (denyAtCap_routine _ _ _) hwithin).bind
        (fun observation turn' hturn => ?_) (fun _ _ _ => trivial)
      subst hturn
      exact h.denied observation
    · refine (watched_routine (escalateAtCap_routine _ _ _ _) hwithin).bind
        (fun _ turn' hturn => ?_) (fun _ _ _ => trivial)
      subst hturn
      exact routeOrExecute_watched hmax hpasses h fun _ h => by cases h
  · rename_i hroom
    exact routeOrExecute_watched hmax hpasses h fun _ _ => by simpa using hroom

theorem processProposal_watched
    (hmax : config.governedActions.maxActionsPerForegroundTurn ≤
      ForegroundActionLoopTracker.u32Max) (hpasses : passes ≤ maxWorkerPasses config)
    (h : RoundBooks config initial passes before state (proposal :: left) turn) :
    (processProposal config trigger state proposal).Watched TurnWatch.observe
      (WithinBounds config initial) (Booked config initial passes before left) turn := by
  have hwithin := h.withinBounds hpasses
  refine (watched_routine (Harness.confined_newUuid TurnStep.refl) hwithin).bind
    (fun id turn' hturn => ?_) (fun _ _ _ => trivial)
  subst hturn
  refine (watched_routine (GovernedActions.planGovernedAction_routine _ _) hwithin).bind
    (fun planning turn' hturn => ?_) (fun _ _ _ => trivial)
  subst hturn
  cases planning with
  | blocked blocked =>
    refine (watched_routine (Harness.confined_newUuid TurnStep.refl) hwithin).bind
      (fun observationId turn' hturn => ?_) (fun _ _ _ => trivial)
    subst hturn
    exact h.blocked _
  | planned planned => exact processPlanned_watched hmax hpasses h

/-- A round keeps the books for all its proposals. -/
theorem processGovernedActionProposals_watched {tracker : ForegroundActionLoopTracker}
    {proposals : List GovernedActionProposal}
    (hmax : config.governedActions.maxActionsPerForegroundTurn ≤
      ForegroundActionLoopTracker.u32Max) (hpasses : passes ≤ maxWorkerPasses config)
    (h : RoundBooks config initial passes before
      { tracker := tracker, summary := { proposedCount := proposals.length } } proposals turn) :
    (processGovernedActionProposals config trigger tracker proposals).Watched TurnWatch.observe
      (WithinBounds config initial) (Booked config initial passes before []) turn := by
  refine (Prog.watched_foldlM (J := RoundBooks config initial passes before)
    (E := fun _ _ => True) (fun state proposal left turn h => ?_) proposals _ turn h).mono ?_
  · refine (processProposal_watched hmax hpasses h).mono fun r turn' hr => ?_
    cases r <;> exact hr
  · intro r turn' hr
    cases r <;> exact hr

end Round

/-! ## The worker passes of a turn -/

/-- How the books of a turn stand between two passes. -/
structure TurnBooks (config : RuntimeConfig) (initialExecutedActionCount workerPassCount : Nat)
    (tracker : ForegroundActionLoopTracker) (summary : GovernedActionProcessingSummary)
    (turn : TurnWatch) : Prop where
  started : turn.passes = workerPassCount
  balanced : summary.Balanced
  executed : turn.executed.length ≤ summary.executedCount
  tracked : config.Capped → tracker.executedActionCount =
    initialExecutedActionCount + summary.executedCount
  capped : config.Capped → tracker.executedActionCount ≤
    max initialExecutedActionCount config.governedActions.maxActionsPerForegroundTurn

section Loop

variable [GovernedActionServices] {trigger : ForegroundTrigger}
  {tracker : ForegroundActionLoopTracker} {summary : GovernedActionProcessingSummary}
  {workerPassCount fuel : Nat} {consumed : Bool}
  {observations : List GovernedActionObservation}

/-- What a turn establishes about its outcome. -/
def TurnEnded (config : RuntimeConfig) (initial : Nat) :
    Except ErrorChain ConsciousTurnLoopOutcome → TurnWatch → Prop
  | .ok outcome, turn =>
    outcome.summary.Balanced ∧ turn.executed.length ≤ outcome.summary.executedCount ∧
      (config.Capped → initial + outcome.summary.executedCount ≤
        max initial config.governedActions.maxActionsPerForegroundTurn)
  | .error _, _ => True

/-- One pass keeps the books: those of the round are added to those of the turn. -/
theorem consciousPass_watched
    (hmax : config.governedActions.maxActionsPerForegroundTurn ≤
      ForegroundActionLoopTracker.u32Max) (hpass : workerPassCount < maxWorkerPasses config)
    (h : TurnBooks config initial workerPassCount tracker summary turn) :
    (consciousPass config trigger tracker observations).Watched TurnWatch.observe
      (WithinBounds config initial) (fun r turn => ∀ result round, r = .ok (result, round) →
        TurnBooks config initial (workerPassCount + 1) round.tracker
          (summary.merge round.summary) turn) turn := by
  have hstarted := h.started
  have hbooks : ∀ proposals : List GovernedActionProposal,
      RoundBooks config initial (workerPassCount + 1) summary.executedCount
        { tracker := tracker, summary := { proposedCount := proposals.length } } proposals
        (turn.observe .workerPassStarted) := by
    intro proposals
    refine ⟨?_, by simp, by simpa [TurnWatch.observe] using h.executed, fun hcapped => ?_,
      h.capped⟩
    · simp [TurnWatch.observe, hstarted]
    · simpa using h.tracked hcapped
  have hwithin := (hbooks []).withinBounds hpass
  refine (Prog.watched_emit (Q := fun _ turn' => turn' = turn.observe .workerPassStarted)
    hwithin rfl).bind (fun _ turn' hturn => ?_) (fun _ _ _ _ _ h => by cases h)
  subst hturn
  refine (Prog.watched_emit (Q := fun _ turn' => turn' = turn.observe .workerPassStarted)
    hwithin rfl).bind (fun _ turn' hturn => ?_) (fun _ _ _ _ _ h => by cases h)
  subst hturn
  refine (watched_routine (launchLeasedConsciousWorker_routine _ _ _) hwithin).bind
    (fun response turn' hturn => ?_) (fun _ _ _ _ _ h => by cases h)
  subst hturn
  refine (watched_routine (Harness.confined_expect _) hwithin).bind
    (fun result turn' hturn => ?_) (fun _ _ _ _ _ h => by cases h)
  subst hturn
  refine (processGovernedActionProposals_watched hmax hpass (hbooks _)).bind
    (fun round turn' hround => ?_) (fun _ _ _ _ _ h => by cases h)
  refine (Prog.watched_emit (Q := fun _ turn'' => turn'' = turn')
    (hround.withinBounds hpass) rfl).bind (fun _ turn'' hturn => ?_)
    (fun _ _ _ _ _ h => by cases h)
  subst hturn
  rintro result' round' hok
  obtain ⟨-, rfl⟩ := Prod.mk.inj (Except.ok.inj hok)
  have hbalanced : summary.proposedCount = summary.executedCount + summary.blockedCount +
    summary.pendingApprovalCount := h.balanced
  have hbalance : round.summary.proposedCount = round.summary.executedCount +
    round.summary.blockedCount + round.summary.pendingApprovalCount + 0 := hround.balance
  refine ⟨hround.started, ?_, hround.executed, fun hcapped => ?_, hround.capped⟩
  · show summary.proposedCount + round.summary.proposedCount = _
    simp only [GovernedActionProcessingSummary.merge]
    omega
  · have htracked := hround.tracked hcapped
    simp only [GovernedActionProcessingSummary.merge]
    omega

omit [GovernedActionServices] in
theorem maxWorkerPasses_le_u32Max (config : RuntimeConfig) :
    maxWorkerPasses config ≤ ForegroundActionLoopTracker.u32Max := Nat.min_le_right _ _

/-- By induction on the fuel: every pass keeps the books, so that the turn ends within its bounds.
-/
theorem consciousTurnLoop_watched
    (hmax : config.governedActions.maxActionsPerForegroundTurn ≤
      ForegroundActionLoopTracker.u32Max) (hpass : workerPassCount < maxWorkerPasses config)
    (hwithin : WithinBounds config initial turn)
    (h : TurnBooks config initial workerPassCount tracker summary turn) :
    (consciousTurnLoop config trigger fuel workerPassCount tracker summary consumed
      observations).Watched TurnWatch.observe (WithinBounds config initial)
        (TurnEnded config initial) turn := by
  induction fuel generalizing workerPassCount tracker summary consumed observations turn with
  | zero => trivial
  | succ fuel ih =>
    have hcount : min (workerPassCount + 1) ForegroundActionLoopTracker.u32Max =
        workerPassCount + 1 :=
      Nat.min_eq_left (le_trans hpass (maxWorkerPasses_le_u32Max config))
    unfold consciousTurnLoop
    rw [hcount]
    refine (consciousPass_watched hmax hpass h).bind (fun passed turn' hpassed => ?_)
      (fun _ _ _ => trivial)
    obtain ⟨result, round⟩ := passed
    have hbooks := hpassed result round rfl
    dsimp only
    split
    · rename_i hcontinue
      refine ih hcontinue.2.2.1 ⟨?_, fun hcapped => ?_⟩ hbooks
      · rw [hbooks.started]
        exact hpass
      · have := hbooks.executed
        have := hbooks.tracked hcapped
        have := hbooks.capped hcapped
        omega
    · refine ⟨hbooks.balanced, hbooks.executed, fun hcapped => ?_⟩
      rw [← hbooks.tracked hcapped]
      exact hbooks.capped hcapped

/-- Fuel for the passes that are left is enough: more of it changes nothing. -/
theorem consciousTurnLoop_fuel {fuel fuel' : Nat} (hpass : workerPassCount < maxWorkerPasses config)
    (hfuel : maxWorkerPasses config ≤ fuel + workerPassCount)
    (hfuel' : maxWorkerPasses config ≤ fuel' + workerPassCount) :
    consciousTurnLoop config trigger fuel workerPassCount tracker summary consumed observations =
      consciousTurnLoop config trigger fuel' workerPassCount tracker summary consumed
        observations := by
  induction fuel generalizing fuel' workerPassCount tracker summary consumed observations with
  | zero => omega
  | succ fuel ih =>
    cases fuel' with
    | zero => omega
    | succ fuel' =>
      have hcount : min (workerPassCount + 1) ForegroundActionLoopTracker.u32Max =
          workerPassCount + 1 :=
        Nat.min_eq_left (le_trans hpass (maxWorkerPasses_le_u32Max config))
      unfold consciousTurnLoop
      rw [hcount]
      refine congrArg (Prog.bind _) (funext fun passed => ?_)
      obtain ⟨result, round⟩ := passed
      dsimp only
      split
      · rename_i hcontinue
        exact ih hcontinue.2.2.1 (by omega) (by omega)
      · rfl

variable {κ : Type} [DecidableEq κ] {ρ : κ → Type} {answers : Answers system}

/-- What the watched thread of a pool has done of its turn. -/
def turnSeen (c : Config system (Beside ConsciousTurnLoopOutcome ρ)) : TurnWatch :=
  c.seen TurnWatch.observe {} none

/-- A conscious turn that starts with `initial` executed actions, besides any other threads:
at every moment it has started at most `max_actions_per_foreground_turn + 2` worker passes
(saturating) and, unless the cap is configured to approve, the actions it executed without an
approval stay, with the initial ones, within the larger of the cap and the initial count. Its
counters account for every proposal at its end, and it ends: more fuel changes nothing. -/
theorem executeConsciousTurn_capped (config : RuntimeConfig) (trigger : ForegroundTrigger)
    (initial : Nat) (observations : List GovernedActionObservation)
    (hmax : config.governedActions.maxActionsPerForegroundTurn ≤
      ForegroundActionLoopTracker.u32Max)
    {c c' : Config system (Beside ConsciousTurnLoopOutcome ρ)}
    (turn : c.threads none = executeConsciousTurn config trigger initial observations)
    (unstarted : c.shared.eventsOf none = []) (reach : Config.Reachable answers c c') :
    (turnSeen c').passes ≤ maxWorkerPasses config ∧
    (config.Capped →
      initial + (turnSeen c').executed.length ≤
        max initial config.governedActions.maxActionsPerForegroundTurn) ∧
    (∀ outcome, c'.threads none = .ret outcome →
      outcome.summary.Balanced ∧
      (turnSeen c').executed.length ≤ outcome.summary.executedCount ∧
      (config.Capped → initial + outcome.summary.executedCount ≤
        max initial config.governedActions.maxActionsPerForegroundTurn)) ∧
    ∀ fuel, maxWorkerPasses config ≤ fuel →
      consciousTurnLoop config trigger fuel 0 { executedActionCount := initial } {} false
        observations = executeConsciousTurn config trigger initial observations := by
  have hpass : 0 < maxWorkerPasses config := by
    refine Nat.lt_min.mpr ⟨Nat.succ_pos _, ?_⟩
    exact Nat.succ_pos 4294967294
  have hseen : turnSeen c = ({} : TurnWatch) := by
    rw [turnSeen, Config.seen, unstarted]
    rfl
  have hwithin : WithinBounds config initial ({} : TurnWatch) :=
    ⟨Nat.zero_le _, fun _ => Nat.le_max_left _ _⟩
  have hbooks : TurnBooks config initial 0 { executedActionCount := initial } {}
      ({} : TurnWatch) :=
    ⟨rfl, rfl, le_rfl, fun _ => rfl, fun _ => Nat.le_max_left _ _⟩
  have hthread : (c.threads none).Watched TurnWatch.observe (WithinBounds config initial)
      (TurnEnded config initial) (turnSeen c) := by
    rw [hseen, turn]
    exact consciousTurnLoop_watched hmax hpass hwithin hbooks
  have hstart : WithinBounds config initial (turnSeen c) := by
    rw [hseen]
    exact hwithin
  obtain ⟨⟨hpasses, hcap⟩, hend⟩ := reach.watched hstart hthread
  refine ⟨hpasses, hcap, fun outcome hret => ?_, fun fuel hfuel => ?_⟩
  · rw [hret] at hend
    exact hend
  · exact consciousTurnLoop_fuel hpass hfuel le_rfl

end Loop

/-- A proposal to query the status of the runtime. -/
def statusQuery (proposalId : Uuid) : GovernedActionProposal where
  proposalId := proposalId
  title := "runtime status"
  rationale := none
  actionKind := .runDiagnostic
  requestedRiskTier := none
  capabilityScope := { execution := { timeoutMs := 1, maxStdoutBytes := 1, maxStderrBytes := 1 } }
  payload := .runDiagnostic { query := .runtimeStatus }

/-- Surroundings in which the worker asks for two queries until it has observed something. -/
def askingTwice : Oracle system := fun n q =>
  match q with
  | .consciousWorker _ [] _ =>
    .ok (some { governedActionProposals := [statusQuery 1, statusQuery 2], assistantText := "" })
  | q => steady 20 n q

/-- One action in a turn, and no more. -/
def denyingConfig : RuntimeConfig :=
  { RuntimeConfig.shipped with
    governedActions :=
      { RuntimeConfig.shipped.governedActions with
        maxActionsPerForegroundTurn := 1
        capExceededBehavior := .alwaysDeny } }

/-- A message from a user. -/
def sampleTrigger : ForegroundTrigger where
  triggerId := 1
  traceId := 1
  executionId := 1000
  triggerKind := .userIngress
  ingress :=
    { ingressId := 1
      channelKind := .telegram
      externalUserId := "42"
      externalConversationId := "42"
      externalEventId := "event"
      externalMessageId := none
      internalPrincipalRef := "primary"
      internalConversationRef := "telegram-primary"
      eventKind := .messageCreated
      occurredAt := 10
      textBody := some "hello"
      commandHint := none
      approvalPayload := none
      rawPayloadRef := none }
  receivedAt := 10
  deduplicationKey := "event"

/-- A turn for that message, besides a thread that does nothing. -/
def sampleTurn : Config system (Beside ConsciousTurnLoopOutcome fun _ : Unit => Unit) where
  threads := fun
    | none => letI := GovernedActions.plainServices; executeConsciousTurn denyingConfig sampleTrigger 0 []
    | some _ => pure ()
  shared :=
    { state :=
        { db :=
            { executionRecords :=
                [{ executionId := 1000, traceId := 1, triggerKind := "telegram"
                   status := "started" }] } } }

theorem executeConsciousTurn_capped_twoQueries :
    ∃ c', Config.Reachable (fun _ _ => True) sampleTurn c' ∧
      turnSeen c' = { passes := 2, executed := [13] } ∧
      0 + (turnSeen c').executed.length ≤ max 0 1 := by
  have reach : Config.Reachable (fun _ _ => True) sampleTurn _ :=
    Config.reachable_run (o := askingTwice) (fun _ _ => trivial) none (sampleTurn.threads none) 0
      sampleTurn rfl
  let _services := GovernedActions.plainServices
  exact ⟨_, reach, by decide,
    (executeConsciousTurn_capped denyingConfig sampleTrigger 0 [] (by decide) rfl rfl reach).2.1
      (Or.inl rfl)⟩

end Orchestration

end BlueLagoon
