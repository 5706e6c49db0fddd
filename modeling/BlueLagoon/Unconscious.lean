import BlueLagoon.BackgroundPlanning
import BlueLagoon.Interleaving.Extension
import BlueLagoon.Retrieval

/-!
# The unconscious loop

Background jobs are run by an unconscious worker. What it hands back are updates of the retrieval
documents, diagnostic alerts, and wake signals, which have a table of their own.
-/

namespace BlueLagoon

open Interleaving Harness

/-! ## Wake signals -/

inductive WakeSignalReason
  | criticalConflict
  | proactiveBriefingReady
  | selfStateAnomaly
  | maintenanceInsightReady
  deriving DecidableEq, Repr

/-- The serialized name. -/
def WakeSignalReason.asStr : WakeSignalReason → String
  | criticalConflict => "critical_conflict"
  | proactiveBriefingReady => "proactive_briefing_ready"
  | selfStateAnomaly => "self_state_anomaly"
  | maintenanceInsightReady => "maintenance_insight_ready"

inductive WakeSignalPriority
  | low
  | normal
  | high
  deriving DecidableEq, Repr

/-- The serialized name. -/
def WakeSignalPriority.asStr : WakeSignalPriority → String
  | low => "low"
  | normal => "normal"
  | high => "high"

structure WakeSignal where
  signalId : Uuid
  reason : WakeSignalReason
  priority : WakeSignalPriority
  reasonCode : String
  summary : String
  payloadRef : Option String
  deriving DecidableEq, Repr

inductive WakeSignalDecisionKind
  | accepted
  | rejected
  | suppressed
  | deferred
  deriving DecidableEq, Repr

/-- The serialized name. -/
def WakeSignalDecisionKind.asStr : WakeSignalDecisionKind → String
  | accepted => "accepted"
  | rejected => "rejected"
  | suppressed => "suppressed"
  | deferred => "deferred"

structure WakeSignalDecision where
  signalId : Uuid
  decision : WakeSignalDecisionKind
  reason : String
  deriving DecidableEq, Repr

inductive WakeSignalStatus
  | pendingReview
  | accepted
  | rejected
  | suppressed
  | deferred
  deriving DecidableEq, Repr

/-- The derived `Debug` name, in lower case. -/
def WakeSignalStatus.debug : WakeSignalStatus → String
  | pendingReview => "pendingreview"
  | accepted => "accepted"
  | rejected => "rejected"
  | suppressed => "suppressed"
  | deferred => "deferred"

structure NewWakeSignalRecord where
  backgroundJobId : Uuid
  backgroundJobRunId : Option Uuid
  traceId : Uuid
  executionId : Option Uuid
  signal : WakeSignal
  status : WakeSignalStatus
  requestedAt : DateTime
  cooldownUntil : Option DateTime

structure WakeSignalRecord where
  wakeSignalId : Uuid
  backgroundJobId : Uuid
  backgroundJobRunId : Option Uuid
  traceId : Uuid
  executionId : Option Uuid
  signal : WakeSignal
  status : WakeSignalStatus
  decision : Option WakeSignalDecision
  requestedAt : DateTime
  reviewedAt : Option DateTime
  cooldownUntil : Option DateTime
  createdAt : DateTime
  updatedAt : DateTime
  deriving DecidableEq, Repr

/-! ## The worker -/

inductive DiagnosticSeverity
  | info
  | warning
  | critical
  deriving DecidableEq, Repr

/-- The serialized name. -/
def DiagnosticSeverity.asStr : DiagnosticSeverity → String
  | info => "info"
  | warning => "warning"
  | critical => "critical"

structure DiagnosticAlert where
  alertId : Uuid
  code : String
  severity : DiagnosticSeverity
  summary : String
  details : Option String

/-- What a worker hands back, besides its canonical proposals. -/
structure UnconsciousMaintenanceOutputs where
  retrievalUpdates : List RetrievalUpdateProposal := []
  diagnostics : List DiagnosticAlert := []
  wakeSignals : List WakeSignal := []

structure UnconsciousWorkerResult where
  summary : String
  maintenanceOutputs : UnconsciousMaintenanceOutputs

/-- The response of an unconscious worker; its result may be of another shape. -/
structure UnconsciousWorkerResponse where
  workerPid : Int
  result : Option UnconsciousWorkerResult
  payload : Json

/-- What the row of a background job holds, besides what the table of jobs keeps here. -/
structure JobColumns where
  triggerKind : BackgroundTriggerKind
  /-- The episodes of the scope. -/
  episodeIds : List Uuid

/-- The questions of the unconscious loop. -/
inductive UnconsciousQuery
  /-- Which jobs does another transaction hold locked? -/
  | lockedJobs
  /-- The other columns of the jobs. -/
  | jobColumns
  /-- Run an unconscious worker. -/
  | unconsciousWorker (executionId : Uuid)

/-- The type of the answer to each question. -/
def UnconsciousQuery.Answer : UnconsciousQuery → Type
  | .lockedJobs => List Uuid
  | .jobColumns => Uuid → JobColumns
  | .unconsciousWorker _ => Except ErrorChain UnconsciousWorkerResponse

/-- What the log records of the unconscious loop. -/
inductive UnconsciousEvent
  /-- A wake signal was recorded. -/
  | recorded (wakeSignalId : Uuid)
  /-- The decision on a wake signal was written. -/
  | reviewed (wakeSignalId : Uuid)
  /-- A background job was leased, with the run of the lease. -/
  | leased (backgroundJobId backgroundJobRunId : Uuid)
  deriving DecidableEq, Repr

/-- The harness with what the unconscious loop adds: the table of wake signals, and its worker. -/
abbrev unconscious : Sig :=
  system.extend (List WakeSignalRecord) UnconsciousEvent UnconsciousQuery.Answer

/-- A program of the unconscious loop. -/
abbrev Unconscious (α : Type) := Prog unconscious α

/-- Answers that are as steady, from a worker that has nothing to say. -/
def steadyUnconscious (now : DateTime) : Oracle unconscious := fun n q =>
  match q with
  | .inl q => steady now n q
  | .inr .lockedJobs => ([] : List Uuid)
  | .inr .jobColumns =>
    (fun _ => { triggerKind := .timeSchedule, episodeIds := [] } : Uuid → JobColumns)
  | .inr (.unconsciousWorker _) =>
    (.ok
      { workerPid := 7
        result := some { summary := "nothing to do", maintenanceOutputs := {} }
        payload := .null } : Except ErrorChain UnconsciousWorkerResponse)

end BlueLagoon
