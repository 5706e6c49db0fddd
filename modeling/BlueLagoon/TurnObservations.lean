import BlueLagoon.ActionCap

/-!
# What the workers of a turn are told

Each pass of a conscious turn sends its worker a list of observations. The first pass sends the
ones the turn started with; every later one sends the ones of the turn's own summary, which
starts empty. What a turn started with is therefore shown to its first worker only.
-/

namespace BlueLagoon

open Interleaving Harness

/-- What a turn has told its workers, and what its finished passes have observed. -/
structure PassWatch where
  requests : List (List GovernedActionObservation) := []
  observed : List (List GovernedActionObservation) := []

/-- The effect of an event of the turn. -/
def PassWatch.observe (turn : PassWatch) : Event → PassWatch
  | .workerRequested observations => { turn with requests := turn.requests ++ [observations] }
  | .passObserved observations => { turn with observed := turn.observed ++ [observations] }
  | _ => turn

/-- What was observed before the pass with that number. -/
def PassWatch.observedBefore (turn : PassWatch) (pass : Nat) : List GovernedActionObservation :=
  (turn.observed.take pass).flatten

/-- Every worker is told what the turn started with and then what the earlier passes observed,
in that order; nothing that one worker was told is missing later. -/
structure PassWatch.Accumulates (initial : List GovernedActionObservation) (turn : PassWatch) :
    Prop where
  carried : ∀ pass request, turn.requests[pass]? = some request →
    request = initial ++ turn.observedBefore pass
  kept : ∀ (earlier later : Nat) (before after : List GovernedActionObservation), earlier ≤ later →
    turn.requests[earlier]? = some before → turn.requests[later]? = some after → before <+: after

namespace Orchestration

/-! ## The requests of the loop -/

/-- What the loop does send: the first request is what the turn started with, the later ones
are what the earlier passes observed. -/
structure PassBooks (initial : List GovernedActionObservation) (turn : PassWatch) : Prop where
  first : ∀ request, turn.requests[0]? = some request → request = initial
  later : ∀ pass request, turn.requests[pass + 1]? = some request →
    request = turn.observedBefore (pass + 1)
  counted : turn.requests.length ≤ turn.observed.length + 1

theorem PassWatch.observedBefore_mono (turn : PassWatch) {earlier later : Nat}
    (h : earlier ≤ later) : turn.observedBefore earlier <+: turn.observedBefore later := by
  obtain ⟨rest, hrest⟩ := (List.take_prefix_take_left h : turn.observed.take earlier <+: _)
  unfold PassWatch.observedBefore
  rw [← hrest, List.flatten_append]
  exact List.prefix_append _ _

/-- The loop accumulates exactly what it has: nothing is lost when there was nothing to start
with, or no second worker to tell. -/
theorem PassBooks.accumulates_iff {initial : List GovernedActionObservation} {turn : PassWatch}
    (h : PassBooks initial turn) :
    turn.Accumulates initial ↔ initial = [] ∨ turn.requests.length ≤ 1 := by
  constructor
  · intro haccumulates
    by_contra hnot
    rw [not_or, not_le] at hnot
    obtain ⟨hinitial, hlength⟩ := hnot
    have hsecond : turn.requests[1]? = some turn.requests[1] := List.getElem?_eq_getElem hlength
    have hcarried := haccumulates.carried 1 _ hsecond
    have hlater : turn.requests[1] = turn.observedBefore 1 := h.later 0 _ hsecond
    rw [hlater] at hcarried
    have hsame := congrArg List.length hcarried
    rw [List.length_append] at hsame
    have hpositive : 0 < initial.length := List.length_pos_iff.mpr hinitial
    omega
  · intro hcases
    have hcarried : ∀ pass request, turn.requests[pass]? = some request →
        request = initial ++ turn.observedBefore pass := by
      intro pass request hrequest
      cases pass with
      | zero =>
        rw [h.first request hrequest, PassWatch.observedBefore, List.take_zero, List.flatten_nil,
          List.append_nil]
      | succ pass =>
        rcases hcases with hinitial | hlength
        · rw [h.later pass request hrequest, hinitial, List.nil_append]
        · have hbound := (List.getElem?_eq_some_iff.mp hrequest).1
          omega
    refine ⟨hcarried, fun earlier later before after hle hbefore hafter => ?_⟩
    rw [hcarried earlier before hbefore, hcarried later after hafter]
    exact (List.prefix_append_right_inj initial).mpr (PassWatch.observedBefore_mono turn hle)

/-- The books between two passes: the next request is known, and the summary has everything
that was observed. -/
structure BetweenPasses (initial : List GovernedActionObservation)
    (summary : GovernedActionProcessingSummary) (next : List GovernedActionObservation)
    (turn : PassWatch) : Prop where
  books : PassBooks initial turn
  level : turn.requests.length = turn.observed.length
  summed : summary.observations = turn.observed.flatten
  next : next = if turn.observed = [] then initial else turn.observed.flatten

namespace BetweenPasses

variable {initial next : List GovernedActionObservation}
  {summary : GovernedActionProcessingSummary} {turn : PassWatch}

/-- The worker of the next pass is asked. -/
theorem requested (h : BetweenPasses initial summary next turn) :
    PassBooks initial (turn.observe (.workerRequested next)) := by
  have hlevel := h.level
  refine ⟨fun request hrequest => ?_, fun pass request hrequest => ?_, ?_⟩
  · simp only [PassWatch.observe] at hrequest
    by_cases hnone : turn.requests = []
    · have hobserved : turn.observed = [] := by
        rw [hnone] at hlevel
        exact List.length_eq_zero_iff.mp hlevel.symm
      rw [hnone] at hrequest
      rw [← Option.some.inj hrequest, h.next, if_pos hobserved]
    · rw [List.getElem?_append_left (List.length_pos_iff.mpr hnone)] at hrequest
      exact h.books.first request hrequest
  · simp only [PassWatch.observe] at hrequest
    show request = turn.observedBefore (pass + 1)
    by_cases hearlier : pass + 1 < turn.requests.length
    · rw [List.getElem?_append_left hearlier] at hrequest
      exact h.books.later pass request hrequest
    · rw [List.getElem?_append_right (Nat.le_of_not_lt hearlier)] at hrequest
      have hbound := (List.getElem?_eq_some_iff.mp hrequest).1
      rw [List.length_singleton] at hbound
      have hlast : pass + 1 = turn.observed.length := by omega
      rw [show pass + 1 - turn.requests.length = 0 by omega] at hrequest
      have hsome : turn.observed ≠ [] := by
        intro hnone
        rw [hnone] at hlast
        cases hlast
      rw [← Option.some.inj hrequest, h.next, if_neg hsome, PassWatch.observedBefore, hlast,
        List.take_length]
  · simp only [PassWatch.observe, List.length_append, List.length_singleton]
    omega

/-- The pass is over, and its observations are added to the summary. -/
theorem passed (h : BetweenPasses initial summary next turn)
    (round : GovernedActionProcessingSummary) :
    BetweenPasses initial (summary.merge round) (summary.merge round).observations
      ((turn.observe (.workerRequested next)).observe (.passObserved round.observations)) := by
  have hlevel := h.level
  have hrequested := h.requested
  have hsummed : (summary.merge round).observations =
      (turn.observed ++ [round.observations]).flatten := by
    rw [List.flatten_append, List.flatten_singleton, ← h.summed]
    rfl
  refine ⟨⟨hrequested.first, fun pass request hrequest => ?_, ?_⟩, ?_, hsummed, ?_⟩
  · -- only passes that are over are looked back on
    have hbound := (List.getElem?_eq_some_iff.mp hrequest).1
    simp only [PassWatch.observe, List.length_append, List.length_singleton] at hbound
    rw [hrequested.later pass request hrequest]
    simp only [PassWatch.observedBefore, PassWatch.observe]
    rw [List.take_append_of_le_length (by omega)]
  · simp only [PassWatch.observe, List.length_append, List.length_singleton]
    omega
  · simp only [PassWatch.observe, List.length_append, List.length_singleton]
    omega
  · rw [hsummed, if_neg (by simp [PassWatch.observe])]
    rfl

end BetweenPasses

/-! ## Following the turn -/

/-- Nothing else that a turn does concerns its requests. -/
theorem PassWatch.observe_ofRound {e : Event} (h : e.OfRound) (turn : PassWatch) :
    turn.observe e = turn := by
  cases e <;> first | rfl | exact h.elim

section Loop

variable [GovernedActionServices] {config : RuntimeConfig} {trigger : ForegroundTrigger}
  {tracker : ForegroundActionLoopTracker} {summary : GovernedActionProcessingSummary}
  {workerPassCount fuel : Nat} {consumed : Bool}
  {initial observations : List GovernedActionObservation} {turn : PassWatch}

omit [GovernedActionServices] in
theorem watched_ofRound {α : Type} {p : Harness α} {I : PassWatch → Prop}
    (hp : p.Confined (OnDb (TurnStep Event.OfRound))) (hI : I turn) :
    p.Watched PassWatch.observe I (fun _ turn' => turn' = turn) turn :=
  hp.watched (fun _ _ _ hstep e he => PassWatch.observe_ofRound (hstep.1.events e he)) hI

/-- One pass asks its worker, and observes. -/
theorem consciousPass_told (h : BetweenPasses initial summary observations turn) :
    (consciousPass config trigger tracker observations).Watched PassWatch.observe
      (PassBooks initial) (fun r turn' => ∀ result round, r = .ok (result, round) →
        BetweenPasses initial (summary.merge round.summary)
          (summary.merge round.summary).observations turn') turn := by
  refine (Prog.watched_emit (Q := fun _ turn' => turn' = turn) h.books rfl).bind
    (fun _ turn' hturn => ?_) (fun _ _ _ _ _ h => by cases h)
  rw [hturn]
  refine (Prog.watched_emit
    (Q := fun _ turn' => turn' = turn.observe (.workerRequested observations))
    h.requested rfl).bind (fun _ turn' hturn => ?_) (fun _ _ _ _ _ h => by cases h)
  subst hturn
  refine (watched_ofRound (confined_ofRound (launchLeasedConsciousWorker_routine _ _ _))
    h.requested).bind (fun response turn' hturn => ?_) (fun _ _ _ _ _ h => by cases h)
  subst hturn
  refine (watched_ofRound (confined_expect _) h.requested).bind (fun result turn' hturn => ?_)
    (fun _ _ _ _ _ h => by cases h)
  subst hturn
  refine (watched_ofRound (processGovernedActionProposals_ofRound _ _ _ _) h.requested).bind
    (fun round turn' hturn => ?_) (fun _ _ _ _ _ h => by cases h)
  subst hturn
  have hpassed := h.passed round.summary
  refine (Prog.watched_emit (Q := fun _ turn' => turn' = _) hpassed.books rfl).bind
    (fun _ turn' hturn => ?_) (fun _ _ _ _ _ h => by cases h)
  subst hturn
  rintro result' round' hok
  obtain ⟨-, rfl⟩ := Prod.mk.inj (Except.ok.inj hok)
  exact hpassed

/-- The whole loop: the books are kept by every pass. -/
theorem consciousTurnLoop_told (h : BetweenPasses initial summary observations turn) :
    (consciousTurnLoop config trigger fuel workerPassCount tracker summary consumed
      observations).Watched PassWatch.observe (PassBooks initial) (fun _ _ => True) turn := by
  induction fuel generalizing workerPassCount tracker summary consumed observations turn with
  | zero => trivial
  | succ fuel ih =>
    unfold consciousTurnLoop
    refine (consciousPass_told h).bind (fun passed turn' hpassed => ?_) (fun _ _ _ => trivial)
    obtain ⟨result, round⟩ := passed
    have hbetween := hpassed result round rfl
    dsimp only
    split
    · exact ih hbetween
    · trivial

variable {κ : Type} [DecidableEq κ] {ρ : κ → Type} {answers : Answers system}

/-- What the watched thread of a pool has told its workers. -/
def toldSeen (c : Config system (Beside ConsciousTurnLoopOutcome ρ)) : PassWatch :=
  c.seen PassWatch.observe {} none

/-- A conscious turn besides any other threads: at every moment its requests have accumulated
what it started with and what it observed exactly when it started with nothing or has asked no
second worker yet. -/
theorem executeConsciousTurn_accumulates_iff (config : RuntimeConfig) (trigger : ForegroundTrigger)
    (initialExecutedActionCount : Nat) (initial : List GovernedActionObservation)
    {c c' : Config system (Beside ConsciousTurnLoopOutcome ρ)}
    (turn : c.threads none =
      executeConsciousTurn config trigger initialExecutedActionCount initial)
    (unstarted : c.shared.eventsOf none = []) (reach : Config.Reachable answers c c') :
    (toldSeen c').Accumulates initial ↔ initial = [] ∨ (toldSeen c').requests.length ≤ 1 := by
  have hseen : toldSeen c = ({} : PassWatch) := by
    rw [toldSeen, Config.seen, unstarted]
    rfl
  have hbetween : BetweenPasses initial {} initial ({} : PassWatch) :=
    ⟨⟨fun _ h => (by cases h), fun _ _ h => (by cases h), Nat.zero_le _⟩, rfl, rfl, rfl⟩
  have hthread : (c.threads none).Watched PassWatch.observe (PassBooks initial)
      (fun _ _ => True) (toldSeen c) := by
    rw [hseen, turn]
    exact consciousTurnLoop_told hbetween
  have hstart : PassBooks initial (toldSeen c) := by
    rw [hseen]
    exact hbetween.books
  exact (reach.watched hstart hthread).1.accumulates_iff

end Loop

/-! ## A follow-up of two passes -/

/-- What the action of an approval has led to. -/
def approvedObservation : GovernedActionObservation where
  observationId := 7
  actionKind := .runDiagnostic
  outcome :=
    { status := .executed, summary := "the approved action is done", fingerprint := none
      outputRef := none }

/-- Surroundings in which the worker wants to know more about the approved action. -/
def askingForMore : Oracle system := fun n q =>
  match q with
  | .consciousWorker _ observations _ =>
    .ok (some
      { governedActionProposals :=
          if observations = [approvedObservation] then [statusQuery 1] else []
        assistantText := "" })
  | q => steady 20 n q

/-- The turn that follows the approved action, besides a thread that does nothing. -/
def followUp : Config system (Beside ConsciousTurnLoopOutcome fun _ : Unit => Unit) :=
  { sampleTurn with
    threads := fun
      | none =>
        letI := GovernedActions.plainServices
        executeConsciousTurn RuntimeConfig.shipped sampleTrigger 1 [approvedObservation]
      | some _ => pure () }

/-- What its run leaves. -/
def followUpRun : Run system ConsciousTurnLoopOutcome :=
  (followUp.threads none).run askingForMore 0 followUp.shared.state

def followedUp : Config system (Beside ConsciousTurnLoopOutcome fun _ : Unit => Unit) :=
  followUp.advance none (.ofExcept followUpRun.result)
    (followUp.shared.push none followUpRun.state followUpRun.events)

theorem reachable_followUp : Config.Reachable (fun _ _ => True) followUp followedUp :=
  Config.reachable_run (fun _ _ => trivial) none (followUp.threads none) 0 followUp rfl

/-- The second worker is not told of the approved action. -/
theorem approved_observation_forgotten :
    ∃ c', Config.Reachable (fun _ _ => True) followUp c' ∧
      (toldSeen c').requests[0]? = some [approvedObservation] ∧
      ((toldSeen c').requests[1]?.map fun request => decide (approvedObservation ∈ request)) =
        some false ∧
      ¬ (toldSeen c').Accumulates [approvedObservation] := by
  have hsecond : ((toldSeen followedUp).requests[1]?.map fun request =>
      decide (approvedObservation ∈ request)) = some false := by
    decide +kernel
  refine ⟨_, reachable_followUp, by decide +kernel, hsecond, fun haccumulates => ?_⟩
  obtain ⟨request, hrequest, hmissing⟩ := Option.map_eq_some_iff.mp hsecond
  have hcarried := haccumulates.carried 1 request hrequest
  refine of_decide_eq_false hmissing ?_
  rw [hcarried]
  exact List.mem_append_left _ (List.mem_singleton_self _)

theorem executeConsciousTurn_accumulates_iff_followUp :
    ∃ c', Config.Reachable (fun _ _ => True) followUp c' ∧
      ((toldSeen c').Accumulates [approvedObservation] ↔
        [approvedObservation] = [] ∨ (toldSeen c').requests.length ≤ 1) := by
  let _services := GovernedActions.plainServices
  exact ⟨_, reachable_followUp,
    executeConsciousTurn_accumulates_iff RuntimeConfig.shipped sampleTrigger 1
      [approvedObservation] rfl rfl reachable_followUp⟩

end Orchestration

end BlueLagoon
