import BlueLagoon.SlidingWindow
import BlueLagoon.WakeSignals.Review
import Mathlib.Algebra.Order.Group.Int

/-!
# What the reviews of wake signals guarantee

Any number of reviews run side by side, beside whatever else the harness does. The limit of
pending signals bounds how many are accepted within a cooldown, the reason codes are spaced, and
the foreground is asked for attention by the accepted signals and by no others.
-/

namespace BlueLagoon.WakeSignals

open Interleaving Harness BackgroundExecution

/-! ## What runs side by side -/

/-- A review of the signals of a job, or anything else that the harness does. -/
inductive Operation
  | review (leased : LeasedBackgroundExecution) (wakeSignals : List WakeSignal)
  | other (p : Harness Unit)

/-- The program of an operation, without its result. -/
def Operation.program (policy : WakeSignalPolicy) : Operation → Unconscious Unit
  | .review leased wakeSignals => do
    let _ ← persistWakeSignals policy leased wakeSignals
    pure ()
  | .other p => p.lift

/-- Operations that are about to begin; no signal was recorded yet. -/
def reviewPool {ι : Type} (policy : WakeSignalPolicy) (operations : ι → Operation)
    (world : World) : Config unconscious fun _ : ι => Unit where
  threads := fun i => (operations i).program policy
  shared := { state := (world, []) }

/-- The other operations leave the ingresses of the wake signals as they are. -/
def OthersLeave {ι : Type} (operations : ι → Operation) : Prop :=
  ∀ i p, operations i = .other p → p.Confined LeavesStaged

/-- No ingress of a wake signal is stored. -/
def NoneStaged (db : Database) : Prop :=
  ∀ id internalConversationRef, ¬Staged db id internalConversationRef

variable {ι : Type} {policy : WakeSignalPolicy} {left : Prop} {answers : Answers unconscious}
  {operations : ι → Operation} {world : World}

theorem Operation.program_plays (i : ι) (operation : Operation) (v : Shared unconscious ι)
    (hleft : left → ∀ p, operation = .other p → p.Confined LeavesStaged) :
    (reviewProtocol policy left answers ι).wp i (operation.program policy) (fun _ _ => True) v := by
  cases operation with
  | review leased wakeSignals =>
    have hyields : Yields policy left answers i
        (Operation.program policy (.review leased wakeSignals)) (fun _ _ => True) v :=
      yields_bind yields_persistWakeSignals fun _ _ _ => yields_ret trivial
    exact Protocol.wp_mono (fun _ _ _ => trivial) hyields
  | other p =>
    exact Protocol.wp_mono (fun _ _ _ => trivial) (wp_beside (fun h => hleft h p rfl) v)

theorem orderly_start (hstart : left → NoneStaged world.db) :
    Orderly policy left (reviewPool policy operations world).shared where
  keyed := List.nodup_nil
  once := List.nodup_nil
  logged := fun _ hrow => absurd hrow List.not_mem_nil
  stored := fun _ hid => absurd hid List.not_mem_nil
  reviewed := fun _ _ hentry => absurd hentry List.not_mem_nil
  sound := fun _ hrow => absurd hrow List.not_mem_nil
  converted := fun _ _ hrow => absurd hrow List.not_mem_nil
  staged := fun hleft id conversation hstaged => absurd hstaged (hstart hleft id conversation)

variable [DecidableEq ι]

/-- The invariant holds throughout every run. -/
theorem orderly_reachable {c : Config unconscious fun _ : ι => Unit}
    (hleft : left → OthersLeave operations) (hstart : left → NoneStaged world.db)
    (reach : Config.Reachable answers (reviewPool policy operations world) c) :
    Orderly policy left c.shared := by
  have hkept : (reviewProtocol policy left answers ι).Kept (fun _ _ _ => True)
      (reviewPool policy operations world) :=
    Protocol.kept_of_wp (orderly_start hstart) fun i =>
      (operations i).program_plays i _ fun h p hp => hleft h i p hp
  exact (hkept.reachable reach).1

/-! ## The limit -/

/-- When a signal was reviewed. -/
def reviewInstant (row : WakeSignalRecord) : DateTime := row.reviewedAt.getD 0

/-- The signal was accepted, and not for its high priority. -/
def limited (row : WakeSignalRecord) : Bool := decide (Limited row)

/-- An accepted signal is open until it has cooled down. -/
theorem isOpen_of_limited {row : WakeSignalRecord} {now : DateTime} (hsettled : Settled policy row)
    (hopen : SlidingWindow.isOpen limited reviewInstant (cooldown policy) now row = true) :
    Background.isOpen now row = true := by
  simp only [SlidingWindow.isOpen, limited, Bool.and_eq_true, decide_eq_true_eq] at hopen
  obtain ⟨⟨haccepted, -⟩, hbefore⟩ := hopen
  have hdecided : row.status ≠ .pendingReview := by simp [haccepted]
  obtain ⟨reviewedAt, hat, hcools⟩ := hsettled hdecided
  have hcooldown := hcools (by simp [haccepted])
  rw [reviewInstant, hat, Option.getD_some] at hbefore
  simp [Background.isOpen, haccepted, hcooldown, hbefore]

omit [DecidableEq ι] in
theorem Orderly.paced {v : Shared unconscious ι} (h : Orderly policy left v) :
    SlidingWindow.Paced limited reviewInstant (cooldown policy)
      (policy.config.maxPendingSignals - 1) (rowsOf v) := by
  intro before row after hrows hlimited
  have hrow : row ∈ rowsOf v := by
    rw [hrows]
    exact List.mem_append_right _ List.mem_cons_self
  have hsound := h.sound row hrow
  replace hlimited : Limited row := of_decide_eq_true hlimited
  have hdecided : row.status ≠ .pendingReview := by simp [hlimited.1]
  obtain ⟨reviewedAt, hat, -⟩ := hsound.settled hdecided
  have hfew := hsound.few hlimited reviewedAt hat before.length (by simp [hrows])
  rw [hrows, List.take_left] at hfew
  rw [reviewInstant, hat, Option.getD_some]
  refine lt_of_le_of_lt (List.countP_mono_left fun other hother hopen => ?_) hfew
  have hmem : other ∈ rowsOf v := by
    rw [hrows]
    exact List.mem_append_left _ hother
  exact isOpen_of_limited (h.sound other hmem).settled hopen

/-- However many processes review at the same time: within no cooldown are more signals accepted
without high priority than one below the limit of pending signals. -/
theorem accepted_within_limit (policy : WakeSignalPolicy) (operations : ι → Operation)
    (answers : Answers unconscious) (world : World) {c : Config unconscious fun _ : ι => Unit}
    (reach : Config.Reachable answers (reviewPool policy operations world) c)
    (start : DateTime) :
    (rowsOf c.shared).countP
        (SlidingWindow.inWindow limited reviewInstant (cooldown policy) start) ≤
      policy.config.maxPendingSignals - 1 := by
  have horderly : Orderly policy False c.shared :=
    orderly_reachable (fun h => h.elim) (fun h => h.elim) reach
  exact horderly.paced.countP_window start

/-- At most two signals of low or normal priority are accepted within a minute. -/
def samplePolicy : WakeSignalPolicy where
  config :=
    { allowForegroundConversion := true
      maxPendingSignals := 3
      cooldownSeconds := 60 }
  foregroundBinding := some
    { allowedUserId := 42
      allowedChatId := 42
      internalPrincipalRef := "primary"
      internalConversationRef := "telegram-primary" }

/-- A job, its run and its execution. -/
def sampleLease : LeasedBackgroundExecution where
  job :=
    { backgroundJobId := 1
      traceId := 2
      deduplicationKey := "reflection"
      status := .running }
  triggerKind := .timeSchedule
  backgroundJobRunId := 3
  executionId := 4
  leaseToken := 5
  leaseExpiresAt := 1000

def leasedWorld : World where
  db :=
    { executionRecords :=
        [{ executionId := 4
           traceId := 2
           triggerKind := "background"
           status := "started" }]
      backgroundJobs := [sampleLease.job]
      backgroundJobRuns :=
        [{ backgroundJobRunId := 3
           backgroundJobId := 1
           traceId := 2
           leaseToken := 5
           status := .running
           leaseAcquiredAt := 0
           leaseExpiresAt := 1000 }] }

def sampleSignal (signalId : Uuid) (reasonCode : String) : WakeSignal where
  signalId := signalId
  reason := .maintenanceInsightReady
  priority := .normal
  reasonCode := reasonCode
  summary := "The garden plan is ready."
  payloadRef := none

/-- One process reviews two signals of two reason codes, the other one of the first code. -/
def sampleReviews : Bool → Operation
  | false => .review sampleLease [sampleSignal 10 "plan", sampleSignal 11 "digest"]
  | true => .review sampleLease [sampleSignal 12 "plan"]

theorem accepted_within_limit_two : ∃ c : Config unconscious fun _ : Bool => Unit,
    Config.Reachable (fun _ _ => True) (reviewPool samplePolicy sampleReviews leasedWorld) c ∧
      (rowsOf c.shared).map WakeSignalRecord.status = [.accepted, .accepted, .deferred] ∧
      (rowsOf c.shared).countP
        (SlidingWindow.inWindow limited reviewInstant (cooldown samplePolicy) 0) ≤ 2 := by
  have hfirst : Config.Reachable (fun _ _ => True)
      (reviewPool samplePolicy sampleReviews leasedWorld) _ :=
    Config.reachable_run (S := unconscious) (o := steadyUnconscious 10) (fun _ _ => trivial) false
      ((sampleReviews false).program samplePolicy) 0 _ rfl
  have hsecond := hfirst.trans (Config.reachable_run (S := unconscious) (o := steadyUnconscious 20) (fun _ _ => trivial) true
    ((sampleReviews true).program samplePolicy) 100 _ rfl)
  obtain ⟨c, reach, hstatus⟩ : ∃ c : Config unconscious fun _ : Bool => Unit,
      Config.Reachable (fun _ _ => True) (reviewPool samplePolicy sampleReviews leasedWorld) c ∧
        (rowsOf c.shared).map WakeSignalRecord.status = [.accepted, .accepted, .deferred] :=
    ⟨_, hsecond, by decide +kernel⟩
  exact ⟨c, reach, hstatus, accepted_within_limit _ _ _ _ reach 0⟩

/-! ## The cooldown -/

/-- However many processes review at the same time: a signal that is accepted without high priority
was reviewed no earlier than a cooldown after each of its reason code that was decided, and not
rejected, before it was recorded. -/
theorem reason_codes_cool_down (policy : WakeSignalPolicy) (operations : ι → Operation)
    (answers : Answers unconscious) (world : World) {c : Config unconscious fun _ : ι => Unit}
    (reach : Config.Reachable answers (reviewPool policy operations world) c)
    {first second : WakeSignalRecord} (hfirst : first ∈ rowsOf c.shared)
    (hsecond : second ∈ rowsOf c.shared)
    (hprecedes : Precedes c.shared.log first.wakeSignalId second.wakeSignalId)
    (hcode : first.signal.reasonCode = second.signal.reasonCode)
    (hkept : first.status ≠ .rejected) (haccepted : second.status = .accepted)
    (hpriority : second.signal.priority ≠ .high) :
    ∃ firstAt secondAt, first.reviewedAt = some firstAt ∧ second.reviewedAt = some secondAt ∧
      firstAt + cooldown policy ≤ secondAt := by
  have horderly : Orderly policy False c.shared :=
    orderly_reachable (fun h => h.elim) (fun h => h.elim) reach
  have hsound := horderly.sound second hsecond
  obtain ⟨secondAt, hsecondAt, -⟩ := hsound.settled (by simp [haccepted])
  obtain ⟨other, hother, hid, hdecided, hclear⟩ :=
    hsound.clear ⟨haccepted, hpriority⟩ secondAt hsecondAt first.wakeSignalId hprecedes
  obtain rfl := horderly.keyed.eq hother hfirst hid
  obtain ⟨firstAt, hfirstAt, hcools⟩ := (horderly.sound _ hfirst).settled hdecided
  exact ⟨firstAt, secondAt, hfirstAt, hsecondAt, hclear hcode _ (hcools hkept)⟩

/-- The parts of a row that the spacing of reason codes is about. -/
def spacingOf (row : WakeSignalRecord) :
    Uuid × String × WakeSignalStatus × WakeSignalPriority :=
  (row.wakeSignalId, row.signal.reasonCode, row.status, row.signal.priority)

theorem reason_codes_cool_down_plan : ∃ c : Config unconscious fun _ : Bool => Unit,
    Config.Reachable (fun _ _ => True) (reviewPool samplePolicy sampleReviews leasedWorld) c ∧
      ∃ first ∈ rowsOf c.shared, ∃ second ∈ rowsOf c.shared,
        first.wakeSignalId = 10 ∧ second.wakeSignalId = 12 ∧
          ∃ firstAt secondAt, first.reviewedAt = some firstAt ∧
            second.reviewedAt = some secondAt ∧ firstAt + cooldown samplePolicy ≤ secondAt := by
  have hfirst : Config.Reachable (fun _ _ => True)
      (reviewPool samplePolicy sampleReviews leasedWorld) _ :=
    Config.reachable_run (S := unconscious) (o := steadyUnconscious 10) (fun _ _ => trivial) false
      ((sampleReviews false).program samplePolicy) 0 _ rfl
  have hsecond := hfirst.trans (Config.reachable_run (S := unconscious) (o := steadyUnconscious 70000000)
    (fun _ _ => trivial) true ((sampleReviews true).program samplePolicy) 100 _ rfl)
  obtain ⟨c, reach, hrecorded, hreviewed, hold, hnew⟩ :
      ∃ c : Config unconscious fun _ : Bool => Unit,
        Config.Reachable (fun _ _ => True) (reviewPool samplePolicy sampleReviews leasedWorld) c ∧
          c.shared.log = c.shared.log.take 12 ++ (true, Sum.inr (.recorded 12)) ::
            c.shared.log.drop 13 ∧
          (c.shared.log.take 12)[5]? = some (false, Sum.inr (.reviewed 10)) ∧
          (rowsOf c.shared)[0]?.map spacingOf = some (10, "plan", .accepted, .normal) ∧
          (rowsOf c.shared)[2]?.map spacingOf = some (12, "plan", .accepted, .normal) :=
    ⟨_, hsecond, by decide +kernel, by decide +kernel, by decide +kernel, by decide +kernel⟩
  obtain ⟨first, hplace, hspacing⟩ := Option.map_eq_some_iff.mp hold
  obtain ⟨second, hplace', hspacing'⟩ := Option.map_eq_some_iff.mp hnew
  simp only [spacingOf, Prod.mk.injEq] at hspacing hspacing'
  obtain ⟨hid, hcode, haccepted, -⟩ := hspacing
  obtain ⟨hid', hcode', haccepted', hpriority⟩ := hspacing'
  have hprecedes : Precedes c.shared.log first.wakeSignalId second.wakeSignalId := by
    rw [hid, hid']
    exact ⟨_, _, _, hrecorded, _, List.mem_of_getElem? hreviewed⟩
  refine ⟨c, reach, first, List.mem_of_getElem? hplace, second, List.mem_of_getElem? hplace',
    hid, hid', ?_⟩
  exact reason_codes_cool_down _ _ _ _ reach (List.mem_of_getElem? hplace)
    (List.mem_of_getElem? hplace') hprecedes (hcode.trans hcode'.symm) (by simp [haccepted])
    haccepted' (by simp [hpriority])

/-! ## Conversions -/

/-- However many processes review at the same time: each accepted signal has its ingress in the
configured conversation, and no signal that policy held back or turned down has one. -/
theorem conversions_are_accepted (policy : WakeSignalPolicy) (operations : ι → Operation)
    (answers : Answers unconscious) (world : World) (hothers : OthersLeave operations)
    (hstart : NoneStaged world.db) {c : Config unconscious fun _ : ι => Unit}
    (reach : Config.Reachable answers (reviewPool policy operations world) c) :
    (∀ row ∈ rowsOf c.shared, row.status = .accepted →
      Staged (dbOf c.shared) row.wakeSignalId (boundConversation policy)) ∧
    ∀ id internalConversationRef, Staged (dbOf c.shared) id internalConversationRef →
      internalConversationRef = boundConversation policy ∧ ∃ row ∈ rowsOf c.shared,
        row.wakeSignalId = id ∧ (row.status = .accepted ∨ row.status = .pendingReview) := by
  have horderly : Orderly policy True c.shared :=
    orderly_reachable (fun _ => hothers) (fun _ => hstart) reach
  exact ⟨horderly.converted trivial, horderly.staged trivial⟩

theorem conversions_are_accepted_two : ∃ c : Config unconscious fun _ : Bool => Unit,
    Config.Reachable (fun _ _ => True) (reviewPool samplePolicy sampleReviews leasedWorld) c ∧
      (rowsOf c.shared).map WakeSignalRecord.status = [.accepted, .accepted, .deferred] ∧
      (∀ row ∈ rowsOf c.shared, row.status = .accepted →
        Staged (dbOf c.shared) row.wakeSignalId (some "telegram-primary")) ∧
      ∀ id internalConversationRef, Staged (dbOf c.shared) id internalConversationRef →
        internalConversationRef = some "telegram-primary" ∧ ∃ row ∈ rowsOf c.shared,
          row.wakeSignalId = id ∧ (row.status = .accepted ∨ row.status = .pendingReview) := by
  have hfirst : Config.Reachable (fun _ _ => True)
      (reviewPool samplePolicy sampleReviews leasedWorld) _ :=
    Config.reachable_run (S := unconscious) (o := steadyUnconscious 10) (fun _ _ => trivial) false
      ((sampleReviews false).program samplePolicy) 0 _ rfl
  have hsecond := hfirst.trans (Config.reachable_run (S := unconscious) (o := steadyUnconscious 20)
    (fun _ _ => trivial) true ((sampleReviews true).program samplePolicy) 100 _ rfl)
  obtain ⟨c, reach, hstatus⟩ : ∃ c : Config unconscious fun _ : Bool => Unit,
      Config.Reachable (fun _ _ => True) (reviewPool samplePolicy sampleReviews leasedWorld) c ∧
        (rowsOf c.shared).map WakeSignalRecord.status = [.accepted, .accepted, .deferred] :=
    ⟨_, hsecond, by decide +kernel⟩
  have hothers : OthersLeave sampleReviews := by
    intro i p hother
    cases i <;> cases hother
  have hstart : NoneStaged leasedWorld.db := by
    rintro id conversation ⟨ingress, hmem, -⟩
    cases hmem
  exact ⟨c, reach, hstatus,
    conversions_are_accepted samplePolicy sampleReviews _ leasedWorld hothers hstart reach⟩

end BlueLagoon.WakeSignals
