import BlueLagoon.Interleaving.PartialCorrectness
import BlueLagoon.Interleaving.RelyGuarantee
import BlueLagoon.Interleaving.Sequential
import BlueLagoon.Schema
import Mathlib.Data.List.MinMax

/-!
# The harness and its surroundings

The processes of the harness share one database. Between two of their statements
another process may run; a statement, or a transaction, is one atomic action. What
the database does not decide is asked: whether a statement goes through and at what
`NOW()`, the wall clock, identifiers, subprocesses, the network.

The wall clock does not run backwards and identifiers are never issued twice; both
are kept in the `World` next to the database.
-/

namespace BlueLagoon

open Interleaving

structure SubprocessOutcome where
  timedOut : Bool
  exitCode : Option Int
  stdout : String
  stderr : String
  deriving DecidableEq, Repr

structure WebFetchOutcome where
  contentType : Option String
  body : String
  truncated : Bool
  deriving DecidableEq, Repr

structure FetchedContentForModel where
  preview : String
  formatterKind : String
  previewTruncated : Bool
  deriving DecidableEq, Repr

/-- What a harness-native operation reports when it went through. -/
structure NativeReport where
  summary : String
  payload : Json

/-- The parts of a conscious worker's response that the harness acts on or keeps. -/
structure ConsciousWorkerResult where
  governedActionProposals : List GovernedActionProposal
  assistantText : String
  episodeOutcome : String := ""
  episodeSummary : String := ""
  workerPid : Int := 0
  responsePayload : Json := .null

/-- What became of the candidate proposals of a worker. -/
structure ProposalProcessingSummary where
  evaluatedCount : Nat := 0
  acceptedCount : Nat := 0
  rejectedCount : Nat := 0
  canonicalWriteCount : Nat := 0

/-- The questions the harness asks its surroundings. -/
inductive Query
  /-- Does the next statement reach the database, and at what `NOW()`? -/
  | statement
  /-- `Utc::now()`. -/
  | utcNow
  /-- `Uuid::now_v7()`. -/
  | newUuid
  /-- Run a subprocess within its bounds. -/
  | boundedSubprocess (scope : CapabilityScope) (action : SubprocessAction)
  /-- Fetch a URL. -/
  | webFetch (action : WebFetchAction)
  /-- Render what was fetched for the model. -/
  | formatFetched (action : WebFetchAction) (outcome : WebFetchOutcome)
  /-- Carry out a harness-native action on the tables of its own subsystem. -/
  | harnessNative (payload : GovernedActionPayload)
  /-- Run a conscious worker; its result may be of another kind. -/
  | consciousWorker (executionId : Uuid) (observations : List GovernedActionObservation)
      (timeoutMs : Nat)
  /-- Send a Telegram message. -/
  | sendMessage (chatId : Int) (text : String) (replyToMessageId : Option Int)
  /-- Build and send the prompt for an approval request. -/
  | approvalPrompt (chatId : Int) (replyToMessageId : Option Int)
      (request : ApprovalRequestRecord)
  /-- Assemble the context of a conscious turn; the answer is its metadata. -/
  | foregroundContext (episodeId : Uuid)
  /-- Apply the candidate proposals of a conscious worker. -/
  | candidateProposals
  /-- What the identity kickstart says for a worker that said nothing. -/
  | identityFallback
  /-- Find the seed of the self-model by the configuration; the answer is its path. -/
  | selfModelSeedPath
  /-- Read and parse the seed of the self-model. -/
  | selfModelSeed (seedPath : String)
  /-- A step on tables that are left out here. -/
  | elsewhere (step : String)

/-- The type of the answer to each question. -/
def Query.Answer : Query → Type
  | .statement => Option DateTime
  | .utcNow => DateTime
  | .newUuid => Uuid
  | .boundedSubprocess _ _ => Except ErrorChain SubprocessOutcome
  | .webFetch _ => Except ErrorChain WebFetchOutcome
  | .formatFetched _ _ => Except ErrorChain FetchedContentForModel
  | .harnessNative _ => Except ErrorChain NativeReport
  | .consciousWorker _ _ _ => Except ErrorChain (Option ConsciousWorkerResult)
  | .sendMessage _ _ _ => Except ErrorChain Int
  | .approvalPrompt _ _ _ => Except ErrorChain Int
  | .foregroundContext _ => Except ErrorChain Json
  | .candidateProposals => Except ErrorChain ProposalProcessingSummary
  | .identityFallback => Option String
  | .selfModelSeedPath => Except ErrorChain String
  | .selfModelSeed _ => Except ErrorChain SelfModelSnapshot
  | .elsewhere _ => Except ErrorChain Unit

/-- The outcome of a run of a scheduled task: the schedule and the kind of the task that the
caller had at hand, and the schedule of the task from then on. -/
structure RecordedTaskRun where
  taskId : Uuid
  executionId : Uuid
  captured : TaskSchedule
  oneShot : Bool
  outcome : ScheduledForegroundLastOutcome
  completedAt : DateTime
  written : TaskSchedule
  deriving DecidableEq, Repr

/-- What the log records of a run, beyond what the tables keep. -/
inductive Event
  /-- The pending approval requests were counted. -/
  | pendingRequestsCounted (pendingCount : Nat)
  /-- An approval request was inserted. -/
  | approvalRequested (approvalRequestId : Uuid)
  /-- An approval request left `pending`. -/
  | approvalResolved (approvalRequestId : Uuid) (fingerprint : GovernedActionFingerprint)
      (decision : ApprovalResolutionDecision)
  /-- A governed action was recorded, with its classified tier. -/
  | actionPlanned (id : Uuid) (fingerprint : GovernedActionFingerprint)
      (tier : GovernedActionRiskTier)
  /-- An approval request was attached to a governed action. -/
  | approvalAttached (id approvalRequestId : Uuid)
  /-- A governed action was escalated at the action cap. -/
  | actionEscalated (id : Uuid)
  /-- A pass of a conscious turn started. -/
  | workerPassStarted
  /-- The worker of a pass is asked, with what the turn has observed. -/
  | workerRequested (observations : List GovernedActionObservation)
  /-- The proposals of a pass were processed, with what was observed. -/
  | passObserved (observations : List GovernedActionObservation)
  /-- A conscious turn got the outcome of an action that it executed without an approval. -/
  | actionReturned (id : Uuid) (status : GovernedActionStatus)
  /-- The payload of a governed action was handed to its executor. -/
  | payloadDispatched (id : Uuid)
  /-- The executor wrote the terminal status of a governed action. -/
  | actionSettled (id : Uuid) (status : GovernedActionStatus)
  /-- A command was handed to the bounded subprocess runner. -/
  | subprocessStarted (action : SubprocessAction)
  /-- An active lease past its expiry was marked expired. -/
  | leaseExpired (workerLeaseId : Uuid)
  /-- A recovery checkpoint was inserted. -/
  | checkpointOpened (recoveryCheckpointId : Uuid)
  /-- Recovery failed a stranded background run. -/
  | backgroundRunFailed (backgroundJobRunId : Uuid)
  /-- Pending ingress events were planned into an execution; the foreground statuses of the
  recoverable ones and of those selected, before the plan. -/
  | foregroundPlanned (executionId : Uuid) (recoverable selected : List String)
  /-- The record of a foreground execution was inserted. -/
  | executionStarted (executionId : Uuid)
  /-- The events of a started execution are to be planned next. -/
  | planningRequested (executionId : Uuid)
  /-- An ingress event that was being processed was taken from an execution that has not ended. -/
  | ingressTakenOver (executionId : Uuid)
  /-- The recovery of a restarted foreground execution was asked for a decision. -/
  | restartRecoveryRequested (executionId : Uuid)
  /-- A planned foreground execution was handed to the orchestration. -/
  | planOrchestrated (executionId : Uuid)
  /-- A delivery looked for the ingress event of its channel event. -/
  | ingressSought (found : Bool)
  /-- A delivery inserted its ingress event. -/
  | ingressStored (ingressId : Uuid)
  /-- A transaction looked for the bindings of its conversations. -/
  | bindingsSought (found : Bool)
  /-- A conversation binding was reconciled. -/
  | bindingReconciled (conversationBindingId : Uuid)
  /-- An execution claimed a scheduled task. -/
  | taskClaimed (taskId executionId : Uuid)
  /-- A scheduled task was inserted or updated; its schedule from then on. -/
  | taskUpserted (taskId : Uuid) (schedule : TaskSchedule)
  /-- The outcome of a run was written into its task. -/
  | taskRunRecorded (run : RecordedTaskRun)
  /-- Recovery reconciled the record of a governed action with its decision. -/
  | actionReconciled (id : Uuid) (decision : RecoveryDecision)
  /-- A merge listed the newest of the active memory artifacts of a subject. -/
  | memoryScanned (subjectRef : String) (active : List Uuid)
  /-- A merge inserted a memory artifact of a subject. -/
  | memoryMerged (subjectRef : String) (memoryArtifactId : Uuid)
  /-- The active self-model artifacts were listed. -/
  | selfModelScanned
  /-- A self-model artifact was inserted, with the observation that it adds. -/
  | selfModelWritten (selfModelArtifactId : Uuid) (observation : Option String)
  /-- An identity interview was read, or looked up by the statement that writes it. -/
  | interviewRead (identityInterviewId : Uuid)
  /-- An identity interview was started; the state of the lifecycle and the interviews in
  progress before. -/
  | interviewStarted (identityInterviewId : Uuid) (before : Option IdentityLifecycleState)
      (inProgress : List Uuid)
  /-- An answer was written into an identity interview. -/
  | interviewAnswered (identityInterviewId : Uuid) (answer : String × String)
  /-- An identity interview was cancelled by its user. -/
  | interviewCancelled (identityInterviewId : Uuid)
  /-- A reset of the identity cancelled an interview. -/
  | interviewReset (identityInterviewId : Uuid)
  /-- A merge recorded a state of the lifecycle; the state before. -/
  | lifecycleRecorded (before : Option IdentityLifecycleState) (state : IdentityLifecycleState)
  /-- Active retrieval artifacts were archived. -/
  | retrievalArchived (retrievalArtifactIds : List Uuid)
  /-- An active retrieval artifact was inserted. -/
  | retrievalInserted (retrievalArtifactId : Uuid)
  /-- A retrieval update was applied to its end. -/
  | retrievalUpdateApplied (updateId : Uuid)
  /-- The active background job with a deduplication key was looked for. -/
  | activeJobSought (deduplicationKey : String) (found : Bool)
  /-- A background job was inserted. -/
  | backgroundJobInserted (backgroundJobId : Uuid) (deduplicationKey : String)
  deriving DecidableEq, Repr

/-- What the processes share. -/
structure World where
  db : Database := {}
  /-- The latest instant read from the wall clock. -/
  clock : DateTime := 0
  /-- The identifiers issued so far. -/
  issued : List Uuid := []

/-- The vocabulary of the harness. -/
abbrev system : Sig where
  State := World
  Query := Query
  Answer := Query.Answer
  Event := Event
  Error := ErrorChain

/-- A program of the harness. -/
abbrev Harness (α : Type) := Prog system α

namespace Harness

variable {α β : Type}

/-- `anyhow::bail!`. -/
def bail (message : String) : Harness α := .fail [message]

/-- `.context(..)` on a fallible step. -/
def context (message : String) (p : Harness α) : Harness α := p.mapError (message :: ·)

/-- `.context(..)` on an `Option`. -/
def expect (message : String) : Option α → Harness α
  | some a => .ret a
  | none => bail message

/-- A step on tables that are left out here. -/
def elsewhere (step : String) : Harness Unit :=
  Prog.ask (Query.elsewhere step) fun (answer : Except ErrorChain Unit) => .ofExcept answer

/-- `context::assemble_foreground_context`, as far as its metadata goes. -/
def assembleForegroundContext (episodeId : Uuid) : Harness Json :=
  Prog.ask (Query.foregroundContext episodeId) fun (answer : Except ErrorChain Json) =>
    .ofExcept answer

/-- `proposal::apply_candidate_proposals`. -/
def applyCandidateProposals : Harness ProposalProcessingSummary :=
  Prog.ask Query.candidateProposals fun (answer : Except ErrorChain ProposalProcessingSummary) =>
    .ofExcept answer

/-- `identity_kickstart_delivery_fallback`. -/
def identityFallback : Harness (Option String) :=
  Prog.ask Query.identityFallback fun (answer : Option String) => .ret answer

/-- `TelegramDelivery::send_message`. -/
def sendMessage (chatId : Int) (text : String) (replyToMessageId : Option Int) : Harness Int :=
  Prog.ask (Query.sendMessage chatId text replyToMessageId)
    fun (answer : Except ErrorChain Int) => .ofExcept answer

/-! ## The clock and identifiers -/

/-- `Utc::now()`. -/
def utcNow : Harness DateTime :=
  Prog.ask Query.utcNow fun (reading : DateTime) =>
    .atomic (fun w => ({ w with clock := max w.clock reading }, []))
      fun w => .ret (max w.clock reading)

/-- The candidate, unless it was issued before. -/
def unused (issued : List Uuid) (candidate : Uuid) : Uuid :=
  if candidate ∈ issued then issued.foldr max 0 + 1 else candidate

/-- `Uuid::now_v7()`. -/
def newUuid : Harness Uuid :=
  Prog.ask Query.newUuid fun (candidate : Uuid) =>
    .atomic (fun w => ({ w with issued := unused w.issued candidate :: w.issued }, []))
      fun w => .ret (unused w.issued candidate)

/-- So many calls of `Uuid::now_v7()`. -/
def newUuids : Nat → Harness (List Uuid)
  | 0 => pure []
  | n + 1 => do
    let id ← newUuid
    let ids ← newUuids n
    pure (id :: ids)

theorem unused_not_mem (issued : List Uuid) (candidate : Uuid) :
    unused issued candidate ∉ issued := by
  unfold unused
  split
  · intro hmem
    have hle : issued.foldr max 0 + 1 ≤ issued.foldr max 0 := List.le_max_of_le' 0 hmem le_rfl
    exact Nat.not_succ_le_self _ hle
  · assumption

/-! ## Statements and transactions -/

/-- What a statement or transaction that goes through leaves behind. -/
structure Effect (α : Type) where
  value : α
  db : Database
  events : List Event := []

/-- The effect of a transaction body on the whole world. -/
def commit (body : Database → Except ErrorChain (Effect α)) (w : World) :
    Except ErrorChain (Commit system α) :=
  match body w.db with
  | .ok effect =>
    .ok { value := effect.value, state := { w with db := effect.db }, events := effect.events }
  | .error e => .error e

/-- One transaction at some `NOW()`, all or nothing. `message` is the context of the
error when the database cannot be reached. -/
def transaction (message : String)
    (body : DateTime → Database → Except ErrorChain (Effect α)) : Harness α :=
  Prog.ask Query.statement fun (at_ : Option DateTime) =>
    match at_ with
    | none => .fail [message, "error communicating with database"]
    | some now => .tx (commit (body now))

/-- A statement or transaction whose caller adds no context to its errors. -/
def inTransaction (body : DateTime → Database → Except ErrorChain (Effect α)) : Harness α :=
  Prog.ask Query.statement fun (at_ : Option DateTime) =>
    match at_ with
    | none => .fail ["error communicating with database"]
    | some now => .tx (commit (body now))

/-- A single statement that changes the tables, or breaks a constraint. -/
def execute (message : String)
    (body : DateTime → Database → Except String (Effect α)) : Harness α :=
  transaction message fun now db => (body now db).mapError fun cause => [message, cause]

/-- A query that reads. -/
def fetch (message : String) (read : Database → α) : Harness α :=
  transaction message fun _ db => .ok { value := read db, db := db }

/-- A query for exactly one row. -/
def fetchOne (message : String) (read : Database → Option α) : Harness α :=
  transaction message fun _ db =>
    match read db with
    | some a => .ok { value := a, db := db }
    | none => .error [message,
        "no rows returned by a query that expected to return at least one row"]

/-! ## What the primitives may do -/

/-- A relation on databases, as one on worlds. What the clock does does not matter, and
identifiers that were issued stay issued. -/
def OnDb (B : Database → Database → List Event → Prop) :
    World → World → List Event → Prop :=
  fun w w' events => B w.db w'.db events ∧ w.issued ⊆ w'.issued

theorem OnDb.refl {B : Database → Database → List Event → Prop} (h : ∀ db, B db db [])
    (w : World) : OnDb B w w [] :=
  ⟨h w.db, List.Subset.refl _⟩

theorem OnDb.trans {B : Database → Database → List Event → Prop}
    (h : ∀ db db' db'' events events', B db db' events → B db' db'' events' →
      B db db'' (events ++ events'))
    (u v w : World) (events events' : List Event) (huv : OnDb B u v events)
    (hvw : OnDb B v w events') : OnDb B u w (events ++ events') :=
  ⟨h _ _ _ _ _ huv.1 hvw.1, List.Subset.trans huv.2 hvw.2⟩

/-- The log entry itself. -/
theorem OnDb.emit {B : Database → Database → List Event → Prop} {w : World} {event : Event}
    (h : B w.db w.db [event]) : OnDb B w w [event] :=
  ⟨h, List.Subset.refl _⟩

section Confined

variable {B : Database → Database → List Event → Prop} {message : String}

theorem confined_utcNow (refl : ∀ db, B db db []) : utcNow.Confined (OnDb B) :=
  fun _ w => ⟨⟨refl w.db, List.Subset.refl _⟩, trivial⟩

theorem confined_newUuid (refl : ∀ db, B db db []) : newUuid.Confined (OnDb B) :=
  fun _ w => ⟨⟨refl w.db, List.subset_cons_self _ _⟩, trivial⟩

theorem confined_newUuids (refl : ∀ db, B db db []) : ∀ n, (newUuids n).Confined (OnDb B)
  | 0 => trivial
  | n + 1 => Prog.Confined.bind (confined_newUuid refl) fun _ =>
      Prog.Confined.bind (confined_newUuids refl n) fun _ => Prog.confined_ret _

theorem confined_transaction (refl : ∀ db, B db db [])
    {body : DateTime → Database → Except ErrorChain (Effect α)}
    (h : ∀ now db effect, body now db = .ok effect → B db effect.db effect.events) :
    (transaction message body).Confined (OnDb B) := by
  intro at_
  cases at_ with
  | none => exact Prog.confined_fail _
  | some now =>
    refine Prog.Confined.tx (OnDb.refl refl) fun w c hc => ?_
    cases hbody : body now w.db with
    | error e => simp [commit, hbody] at hc
    | ok effect =>
      simp only [commit, hbody, Except.ok.injEq] at hc
      subst hc
      exact ⟨h now w.db effect hbody, List.Subset.refl _⟩

theorem confined_inTransaction (refl : ∀ db, B db db [])
    {body : DateTime → Database → Except ErrorChain (Effect α)}
    (h : ∀ now db effect, body now db = .ok effect → B db effect.db effect.events) :
    (inTransaction body).Confined (OnDb B) := by
  intro at_
  have hconfined : (transaction "" body).Confined (OnDb B) := confined_transaction refl h
  cases at_ with
  | none => exact Prog.confined_fail _
  | some now => exact hconfined (some now)

theorem confined_execute (refl : ∀ db, B db db [])
    {body : DateTime → Database → Except String (Effect α)}
    (h : ∀ now db effect, body now db = .ok effect → B db effect.db effect.events) :
    (execute message body).Confined (OnDb B) := by
  refine confined_transaction refl fun now db effect hbody => h now db effect ?_
  cases hb : body now db with
  | ok effect' => rw [hb] at hbody; simpa [Except.mapError] using hbody
  | error cause => rw [hb] at hbody; cases hbody

theorem confined_elsewhere (step : String) : (elsewhere step).Confined (OnDb B) :=
  fun answer => Prog.confined_ofExcept (S := system) answer

theorem confined_assembleForegroundContext (episodeId : Uuid) :
    (assembleForegroundContext episodeId).Confined (OnDb B) :=
  fun answer => Prog.confined_ofExcept (S := system) answer

theorem confined_applyCandidateProposals : applyCandidateProposals.Confined (OnDb B) :=
  fun answer => Prog.confined_ofExcept (S := system) answer

theorem confined_sendMessage (chatId : Int) (text : String) (replyToMessageId : Option Int) :
    (sendMessage chatId text replyToMessageId).Confined (OnDb B) :=
  fun answer => Prog.confined_ofExcept (S := system) answer

theorem confined_expect (value : Option α) : (expect message value).Confined (OnDb B) := by
  cases value <;> trivial

theorem confined_expect_bind {value : Option α} {f : α → Harness β}
    (h : ∀ a, value = some a → (f a).Confined (OnDb B)) :
    ((expect message value).bind f).Confined (OnDb B) := by
  cases value with
  | none => trivial
  | some a => exact h a rfl

theorem confined_fetch (refl : ∀ db, B db db []) {read : Database → α} :
    (fetch message read).Confined (OnDb B) := by
  refine confined_transaction refl fun now db effect hbody => ?_
  obtain rfl := Except.ok.inj hbody
  exact refl db

theorem confined_fetchOne (refl : ∀ db, B db db []) {read : Database → Option α} :
    (fetchOne message read).Confined (OnDb B) := by
  refine confined_transaction refl fun now db effect hbody => ?_
  cases hread : read db with
  | none => simp [hread] at hbody
  | some a =>
    simp only [hread, Except.ok.injEq] at hbody
    subst hbody
    exact refl db

/-- A query for one row returns what it reads. -/
theorem returns_fetchOne {read : Database → Option α} {P : α → Prop}
    (h : ∀ db a, read db = some a → P a) : (fetchOne message read).Returns P := by
  intro at_
  cases at_ with
  | none => trivial
  | some now =>
    intro w
    cases hread : read w.db with
    | none => simp [commit, hread, Prog.Returns]
    | some a => simpa [commit, hread, Prog.Returns] using h w.db a hread

end Confined

/-! ## Sequential runs of statements -/

section Run

variable {o : Oracle system} {n : Nat} {w : World} {message : String} {a : α}

theorem run_expect_eq_ok {value : Option α}
    (h : ((expect message value).run o n w).result = .ok a) :
    value = some a ∧ ((expect message value).run o n w).state = w := by
  cases value with
  | none => simp [expect, bail] at h
  | some a' => exact ⟨by simpa [expect] using h, rfl⟩

/-- The body of a transaction that went through. -/
theorem run_tx_commit_eq_ok {body : Database → Except ErrorChain (Effect α)}
    (h : ((Prog.tx (commit body) : Harness α).run o n w).result = .ok a) :
    ∃ effect, body w.db = .ok effect ∧ effect.value = a ∧
      ((Prog.tx (commit body) : Harness α).run o n w).state = { w with db := effect.db } := by
  cases hbody : body w.db with
  | error e =>
    rw [Prog.run_tx_error _ _ _ (e := e) (by simp [commit, hbody])] at h
    cases h
  | ok effect =>
    rw [Prog.run_tx_ok _ _ _ (c := ⟨effect.value, { w with db := effect.db }, effect.events⟩)
      (by simp [commit, hbody])] at h ⊢
    exact ⟨effect, rfl, by simpa using h, rfl⟩

/-- A transaction that went through. -/
theorem run_transaction_eq_ok {body : DateTime → Database → Except ErrorChain (Effect α)}
    (h : ((transaction message body).run o n w).result = .ok a) :
    ∃ now effect, body now w.db = .ok effect ∧ effect.value = a ∧
      ((transaction message body).run o n w).state = { w with db := effect.db } := by
  unfold transaction at h ⊢
  simp only [Prog.run] at h ⊢
  cases hnow : (o n Query.statement : Option DateTime) with
  | none => simp [hnow] at h
  | some now =>
    simp only [hnow] at h ⊢
    obtain ⟨effect, hbody, hvalue, hstate⟩ := run_tx_commit_eq_ok h
    exact ⟨now, effect, hbody, hvalue, hstate⟩

/-- The same without a context, and with the instant of the transaction. -/
theorem run_inTransaction_eq_ok {body : DateTime → Database → Except ErrorChain (Effect α)}
    (h : ((inTransaction body).run o n w).result = .ok a) :
    ∃ now effect, o n Query.statement = some now ∧ body now w.db = .ok effect ∧ effect.value = a ∧
      ((inTransaction body).run o n w).state = { w with db := effect.db } := by
  unfold inTransaction at h ⊢
  simp only [Prog.run] at h ⊢
  cases hnow : (o n Query.statement : Option DateTime) with
  | none => simp [hnow] at h
  | some now =>
    simp only [hnow] at h ⊢
    obtain ⟨effect, hbody, hvalue, hstate⟩ := run_tx_commit_eq_ok h
    exact ⟨now, effect, rfl, hbody, hvalue, hstate⟩

/-- A transaction that reaches the database and goes through. -/
theorem run_inTransaction_result {body : DateTime → Database → Except ErrorChain (Effect α)}
    {now : DateTime} {effect : Effect α} (hnow : o n Query.statement = some now)
    (hbody : body now w.db = .ok effect) (hvalue : effect.value = a) :
    ((inTransaction body).run o n w).result = .ok a := by
  unfold inTransaction
  simp only [Prog.run, hnow]
  rw [Prog.run_tx_ok _ _ _ (c := ⟨effect.value, { w with db := effect.db }, effect.events⟩)
    (by simp [commit, hbody]), hvalue]

/-- A statement that went through. -/
theorem run_execute_eq_ok {body : DateTime → Database → Except String (Effect α)}
    (h : ((execute message body).run o n w).result = .ok a) :
    ∃ now effect, body now w.db = .ok effect ∧ effect.value = a ∧
      ((execute message body).run o n w).state = { w with db := effect.db } := by
  obtain ⟨now, effect, hbody, hvalue, hstate⟩ := run_transaction_eq_ok h
  refine ⟨now, effect, ?_, hvalue, hstate⟩
  cases hb : body now w.db with
  | ok effect' => rw [hb] at hbody; simpa [Except.mapError] using hbody
  | error cause => rw [hb] at hbody; cases hbody

/-- A query that went through. -/
theorem run_fetch_eq_ok {read : Database → α}
    (h : ((fetch message read).run o n w).result = .ok a) :
    read w.db = a ∧ ((fetch message read).run o n w).state = w := by
  obtain ⟨now, effect, hbody, hvalue, hstate⟩ := run_transaction_eq_ok h
  obtain rfl := Except.ok.inj hbody
  exact ⟨hvalue, by rw [fetch, hstate]⟩

/-- A query for one row that went through. -/
theorem run_fetchOne_eq_ok {read : Database → Option α}
    (h : ((fetchOne message read).run o n w).result = .ok a) :
    read w.db = some a ∧ ((fetchOne message read).run o n w).state = w := by
  obtain ⟨now, effect, hbody, hvalue, hstate⟩ := run_transaction_eq_ok h
  cases hread : read w.db with
  | none => simp [hread] at hbody
  | some a' =>
    simp only [hread, Except.ok.injEq] at hbody
    subst hbody
    refine ⟨by simpa using hvalue, ?_⟩
    rw [fetchOne, hstate]

/-- A query that reaches the database reads the tables and changes nothing. -/
theorem run_fetch_of_isSome {read : Database → α}
    (h : (o n Query.statement : Option DateTime).isSome = true) :
    (fetch message read).run o n w =
      { result := .ok (read w.db), state := w, events := [], asked := n + 1 } := by
  obtain ⟨now, hnow⟩ := Option.isSome_iff_exists.mp h
  unfold fetch transaction
  simp only [Prog.run, hnow]
  rw [Prog.run_tx_ok _ _ _ (c := ⟨read w.db, w, []⟩) (by simp [commit])]

/-- A query for one row that reaches the database and finds it. -/
theorem run_fetchOne_of_isSome {read : Database → Option α}
    (h : (o n Query.statement : Option DateTime).isSome = true) (hread : read w.db = some a) :
    (fetchOne message read).run o n w =
      { result := .ok a, state := w, events := [], asked := n + 1 } := by
  obtain ⟨now, hnow⟩ := Option.isSome_iff_exists.mp h
  unfold fetchOne transaction
  simp only [Prog.run, hnow]
  rw [Prog.run_tx_ok _ _ _ (c := ⟨a, w, []⟩) (by simp [commit, hread])]

end Run

/-! ### The same, as partial correctness -/

section Ensures

variable {w : World} {message : String} {Q : α → World → Prop}

theorem ensures_newUuid {Q : Uuid → World → Prop}
    (h : ∀ id, id ∉ w.issued → Q id { w with issued := id :: w.issued }) :
    newUuid.Ensures w Q := by
  intro o n id hrun
  obtain rfl : unused w.issued (o n Query.newUuid) = id := Except.ok.inj hrun
  exact h _ (unused_not_mem w.issued _)

theorem ensures_utcNow {Q : DateTime → World → Prop}
    (h : ∀ now, w.clock ≤ now → Q now { w with clock := now }) : utcNow.Ensures w Q := by
  intro o n now hrun
  obtain rfl : max w.clock (o n Query.utcNow) = now := Except.ok.inj hrun
  exact h _ (le_max_left _ _)

theorem ensures_execute {body : DateTime → Database → Except String (Effect α)}
    (h : ∀ now effect, body now w.db = .ok effect →
      Q effect.value { w with db := effect.db }) : (execute message body).Ensures w Q := by
  intro o n a hrun
  obtain ⟨now, effect, hbody, rfl, hstate⟩ := run_execute_eq_ok hrun
  rw [hstate]
  exact h now effect hbody

theorem ensures_fetch {read : Database → α} (h : Q (read w.db) w) :
    (fetch message read).Ensures w Q := by
  intro o n a hrun
  obtain ⟨rfl, hstate⟩ := run_fetch_eq_ok hrun
  rw [hstate]
  exact h

theorem ensures_fetchOne {read : Database → Option α} (h : ∀ a, read w.db = some a → Q a w) :
    (fetchOne message read).Ensures w Q := by
  intro o n a hrun
  obtain ⟨hread, hstate⟩ := run_fetchOne_eq_ok hrun
  rw [hstate]
  exact h a hread

end Ensures

/-! ## Statements of a thread that plays by a protocol -/

section Protocol

variable {ι : Type} {P : Protocol system ι} {i : ι} {message : String} {v : Shared system ι}

/-- The log and the tables once a transaction has committed. -/
abbrev committed (w : Shared system ι) (i : ι) (effect : Effect α) : Shared system ι :=
  w.push i { w.state with db := effect.db } effect.events

/-- A transaction commits, fails and changes nothing, or does not reach the database. -/
theorem wp_transaction_cases {Q : Protocol.Post system ι α}
    {body : DateTime → Database → Except ErrorChain (Effect α)}
    (ok : ∀ w now effect, P.Inv w → P.Rely i v w → body now w.state.db = .ok effect →
      P.Allows i w (committed w i effect) ∧ Q (.ok effect.value) (committed w i effect))
    (failed : ∀ w now e, P.Inv w → P.Rely i v w → body now w.state.db = .error e →
      Q (.error e) w)
    (lost : P.answers Query.statement (none : Option DateTime) → ∀ e, Q (.error e) v) :
    P.wp i (transaction message body) Q v := by
  intro at_ hat
  cases at_ with
  | none => exact lost hat _
  | some now =>
    refine Protocol.wp_tx (fun w c hinv hrely hc => ?_) fun w e hinv hrely he => ?_
    · cases hbody : body now w.state.db with
      | error e => simp [commit, hbody] at hc
      | ok effect =>
        simp only [commit, hbody, Except.ok.injEq] at hc
        subst hc
        exact ok w now effect hinv hrely hbody
    · cases hbody : body now w.state.db with
      | error e' =>
        simp only [commit, hbody, Except.error.injEq] at he
        subst he
        exact failed w now e' hinv hrely hbody
      | ok effect => simp [commit, hbody] at he

/-- A transaction fails and changes nothing, or commits. -/
theorem wp_transaction {Q : Protocol.Post system ι α}
    {body : DateTime → Database → Except ErrorChain (Effect α)}
    (ok : ∀ w now effect, P.Inv w → P.Rely i v w → body now w.state.db = .ok effect →
      P.Allows i w (committed w i effect) ∧ Q (.ok effect.value) (committed w i effect))
    (failed : ∀ w e, P.Rely i v w → Q (.error e) w) :
    P.wp i (transaction message body) Q v :=
  wp_transaction_cases ok (fun w _ e _ hrely _ => failed w e hrely)
    fun _ e => failed v e (P.rely_refl i v)

theorem wp_inTransaction {Q : Protocol.Post system ι α}
    {body : DateTime → Database → Except ErrorChain (Effect α)}
    (ok : ∀ w now effect, P.Inv w → P.Rely i v w → body now w.state.db = .ok effect →
      P.Allows i w (committed w i effect) ∧ Q (.ok effect.value) (committed w i effect))
    (failed : ∀ w e, P.Rely i v w → Q (.error e) w) :
    P.wp i (inTransaction body) Q v := by
  intro at_ hat
  have hwp : P.wp i (transaction "" body) Q v := wp_transaction ok failed
  cases at_ with
  | none => exact failed v _ (P.rely_refl i v)
  | some now => exact hwp (some now) hat

/-- A statement fails and changes nothing, or commits. -/
theorem wp_execute {Q : Protocol.Post system ι α}
    {body : DateTime → Database → Except String (Effect α)}
    (ok : ∀ w now effect, P.Inv w → P.Rely i v w → body now w.state.db = .ok effect →
      P.Allows i w (committed w i effect) ∧ Q (.ok effect.value) (committed w i effect))
    (failed : ∀ w e, P.Rely i v w → Q (.error e) w) :
    P.wp i (execute message body) Q v := by
  refine wp_transaction (fun w now effect hinv hrely hbody => ok w now effect hinv hrely ?_) failed
  cases hb : body now w.state.db with
  | ok effect' => rw [hb] at hbody; simpa [Except.mapError] using hbody
  | error cause => rw [hb] at hbody; cases hbody

end Protocol

/-! ## Statements of a program on its own -/

/-- The error of a statement that did not reach the database. -/
def IsFault (e : ErrorChain) : Prop := e.getLast? = some "error communicating with database"

section Alone

variable {answers : Answers system} {message : String} {w : World} {es : List Event}
  {Q : Except ErrorChain α → World → List Event → Prop}

/-- A transaction commits, fails, or does not reach the database. -/
theorem alone_transaction {body : DateTime → Database → Except ErrorChain (Effect α)}
    (ok : ∀ now effect, body now w.db = .ok effect →
      Q (.ok effect.value) { w with db := effect.db } (es ++ effect.events))
    (failed : ∀ now e, body now w.db = .error e → Q (.error e) w es)
    (fault : ∀ e, IsFault e → Q (.error e) w es) :
    (transaction message body).Alone answers Q w es := by
  intro at_ _
  cases at_ with
  | none => exact fault _ rfl
  | some now =>
    cases hbody : body now w.db with
    | error e =>
      refine (Prog.alone_tx_error (e := e) (by simp [commit, hbody])).mpr ?_
      exact failed now e hbody
    | ok effect =>
      refine (Prog.alone_tx_ok
        (c := ⟨effect.value, { w with db := effect.db }, effect.events⟩)
        (by simp [commit, hbody])).mpr ?_
      exact ok now effect hbody

theorem alone_inTransaction {body : DateTime → Database → Except ErrorChain (Effect α)}
    (ok : ∀ now effect, body now w.db = .ok effect →
      Q (.ok effect.value) { w with db := effect.db } (es ++ effect.events))
    (failed : ∀ now e, body now w.db = .error e → Q (.error e) w es)
    (fault : ∀ e, IsFault e → Q (.error e) w es) :
    (inTransaction body).Alone answers Q w es := by
  intro at_ hat
  have halone : (transaction "" body).Alone answers Q w es := alone_transaction ok failed fault
  cases at_ with
  | none => exact fault _ rfl
  | some now => exact halone (some now) hat

/-- A statement goes through, breaks a constraint, or does not reach the database. -/
theorem alone_execute {body : DateTime → Database → Except String (Effect α)}
    (ok : ∀ now effect, body now w.db = .ok effect →
      Q (.ok effect.value) { w with db := effect.db } (es ++ effect.events))
    (failed : ∀ now cause, body now w.db = .error cause → Q (.error [message, cause]) w es)
    (fault : ∀ e, IsFault e → Q (.error e) w es) :
    (execute message body).Alone answers Q w es := by
  refine alone_transaction (fun now effect hbody => ok now effect ?_)
    (fun now e hbody => ?_) fault
  · cases hb : body now w.db with
    | ok effect' => rw [hb] at hbody; simpa [Except.mapError] using hbody
    | error cause => rw [hb] at hbody; cases hbody
  · cases hb : body now w.db with
    | ok effect' => rw [hb] at hbody; cases hbody
    | error cause =>
      rw [hb] at hbody
      obtain rfl := Except.error.inj hbody
      exact failed now cause hb

theorem alone_fetch {read : Database → α} (ok : Q (.ok (read w.db)) w es)
    (fault : ∀ e, IsFault e → Q (.error e) w es) :
    (fetch message read).Alone answers Q w es := by
  refine alone_transaction (fun now effect hbody => ?_) (fun now e hbody => by cases hbody) fault
  obtain rfl := Except.ok.inj hbody
  simpa using ok

theorem alone_fetchOne {read : Database → Option α} {a : α} (hread : read w.db = some a)
    (ok : Q (.ok a) w es) (fault : ∀ e, IsFault e → Q (.error e) w es) :
    (fetchOne message read).Alone answers Q w es := by
  refine alone_transaction (fun now effect hbody => ?_) (fun now e hbody => ?_) fault
  · simp only [hread, Except.ok.injEq] at hbody
    subst hbody
    simpa using ok
  · simp [hread] at hbody

theorem alone_newUuid {Q : Except ErrorChain Uuid → World → List Event → Prop}
    (h : ∀ id, id ∉ w.issued → Q (.ok id) { w with issued := id :: w.issued } es) :
    newUuid.Alone answers Q w es := by
  intro candidate _
  show Q _ _ (es ++ [])
  rw [List.append_nil]
  exact h _ (unused_not_mem w.issued candidate)

theorem alone_newUuids {Q : Except ErrorChain (List Uuid) → World → List Event → Prop} (n : Nat)
    {w : World} (h : ∀ ids issued, ids.length = n → ids.Nodup → (∀ id ∈ ids, id ∉ w.issued) →
      (∀ id, id ∈ issued ↔ id ∈ ids ∨ id ∈ w.issued) → Q (.ok ids) { w with issued := issued } es) :
    (newUuids n).Alone answers Q w es := by
  induction n generalizing w Q with
  | zero => exact h [] w.issued rfl List.nodup_nil (by simp) (by simp)
  | succ n ih =>
    refine Prog.Alone.bind (R := fun r w' es' => ∃ id, r = .ok id ∧ id ∉ w.issued ∧
      w' = { w with issued := id :: w.issued } ∧ es' = es)
      (alone_newUuid fun id hid => ⟨id, rfl, hid, rfl, rfl⟩) ?_ (by rintro e w' es' ⟨id, ⟨⟩, -⟩)
    rintro _ _ _ ⟨id, hok, hid, rfl, rfl⟩
    obtain rfl := Except.ok.inj hok
    refine Prog.Alone.bind (R := fun r w' es' => match r with
      | .ok ids => Q (.ok (_ :: ids)) w' es'
      | .error e => Q (.error e) w' es') (ih fun ids issued hlength hnodup hfresh hissued => ?_)
      (fun ids w' es' hq => hq) fun e w' es' hq => hq
    refine h (_ :: ids) issued (by rw [List.length_cons, hlength]) ?_ ?_ ?_
    · exact List.nodup_cons.mpr ⟨fun hmem => hfresh _ hmem List.mem_cons_self, hnodup⟩
    · intro other hother
      rcases List.mem_cons.mp hother with rfl | hmem
      · exact hid
      · exact fun hold => hfresh other hmem (List.mem_cons_of_mem _ hold)
    · intro other
      rw [hissued, List.mem_cons, List.mem_cons]
      exact or_left_comm.trans or_assoc.symm

theorem alone_utcNow {Q : Except ErrorChain DateTime → World → List Event → Prop}
    (h : ∀ now, w.clock ≤ now → Q (.ok now) { w with clock := now } es) :
    utcNow.Alone answers Q w es := by
  intro reading _
  show Q _ _ (es ++ [])
  rw [List.append_nil]
  exact h _ (le_max_left _ _)

/-! ### What a postcondition says of the answers one by one -/

theorem of_alone_newUuid {Q : Except ErrorChain Uuid → World → List Event → Prop}
    (h : newUuid.Alone answers Q w es) (id : Uuid) (hanswer : answers Query.newUuid id)
    (hfresh : id ∉ w.issued) : Q (.ok id) { w with issued := id :: w.issued } es := by
  have hid : Q (.ok (unused w.issued id)) { w with issued := unused w.issued id :: w.issued }
    (es ++ []) := h id hanswer
  rwa [unused, if_neg hfresh, List.append_nil] at hid

theorem of_alone_newUuids {Q : Except ErrorChain (List Uuid) → World → List Event → Prop}
    {ids : List Uuid} {w : World} (h : (newUuids ids.length).Alone answers Q w es)
    (hanswer : ∀ id : Uuid, answers Query.newUuid id) (hnodup : ids.Nodup)
    (hfresh : ∀ id ∈ ids, id ∉ w.issued) :
    ∃ issued, (∀ id, id ∈ issued ↔ id ∈ ids ∨ id ∈ w.issued) ∧
      Q (.ok ids) { w with issued := issued } es := by
  induction ids generalizing w Q with
  | nil => exact ⟨w.issued, by simp, h⟩
  | cons id ids ih =>
    rw [List.nodup_cons] at hnodup
    have hfirst := of_alone_newUuid (Prog.alone_bind.mp h) id (hanswer id)
      (hfresh id List.mem_cons_self)
    obtain ⟨issued, hissued, hrest⟩ :=
      ih (Prog.alone_bind.mp hfirst) hnodup.2 fun other hother hmem => by
        rcases List.mem_cons.mp hmem with rfl | hold
        · exact hnodup.1 hother
        · exact hfresh other (List.mem_cons_of_mem _ hother) hold
    refine ⟨issued, fun other => ?_, hrest⟩
    rw [hissued, List.mem_cons, List.mem_cons]
    exact or_left_comm.trans or_assoc.symm

theorem of_alone_utcNow {Q : Except ErrorChain DateTime → World → List Event → Prop}
    (h : utcNow.Alone answers Q w es) (reading : DateTime)
    (hanswer : answers Query.utcNow reading) :
    Q (.ok (max w.clock reading)) { w with clock := max w.clock reading } es := by
  have hnow : Q (.ok (max w.clock reading)) { w with clock := max w.clock reading } (es ++ []) :=
    h reading hanswer
  rwa [List.append_nil] at hnow

theorem of_alone_inTransaction {body : DateTime → Database → Except ErrorChain (Effect α)}
    (h : (inTransaction body).Alone answers Q w es) {now : DateTime}
    (hanswer : answers Query.statement (some now)) :
    match body now w.db with
    | .ok effect => Q (.ok effect.value) { w with db := effect.db } (es ++ effect.events)
    | .error e => Q (.error e) w es := by
  have hat : (Prog.tx (commit (body now))).Alone answers Q w es := h (some now) hanswer
  cases hbody : body now w.db with
  | ok effect =>
    exact (Prog.alone_tx_ok (c := ⟨effect.value, { w with db := effect.db }, effect.events⟩)
      (by simp [commit, hbody])).mp hat
  | error e => exact (Prog.alone_tx_error (e := e) (by simp [commit, hbody])).mp hat

end Alone

/-! ### When every statement gets through -/

/-- Every statement gets through; all other answers are open. -/
def served : Answers system
  | .statement, (at_ : Option DateTime) => at_.isSome = true
  | _, _ => True

instance : ∀ (q : Query) (r : Query.Answer q), Decidable (served q r) := fun q r =>
  match q, r with
  | .statement, (at_ : Option DateTime) => inferInstanceAs (Decidable (at_.isSome = true))
  | .utcNow, _ | .newUuid, _ | .boundedSubprocess .., _ | .webFetch .., _
  | .formatFetched .., _ | .harnessNative .., _ | .consciousWorker .., _ | .sendMessage .., _
  | .approvalPrompt .., _ | .foregroundContext .., _ | .candidateProposals, _
  | .identityFallback, _ | .selfModelSeedPath, _ | .selfModelSeed .., _ | .elsewhere .., _ =>
    inferInstanceAs (Decidable True)

section Served

variable {answers : Answers system} {message : String} {w : World} {es : List Event}
  {Q : Except ErrorChain α → World → List Event → Prop}

theorem alone_transaction_served {body : DateTime → Database → Except ErrorChain (Effect α)}
    (ok : ∀ now effect, body now w.db = .ok effect →
      Q (.ok effect.value) { w with db := effect.db } (es ++ effect.events))
    (failed : ∀ now e, body now w.db = .error e → Q (.error e) w es) :
    (transaction message body).Alone served Q w es := by
  intro at_ hserved
  cases at_ with
  | none => cases hserved
  | some now =>
    cases hbody : body now w.db with
    | error e =>
      refine (Prog.alone_tx_error (e := e) (by simp [commit, hbody])).mpr ?_
      exact failed now e hbody
    | ok effect =>
      refine (Prog.alone_tx_ok
        (c := ⟨effect.value, { w with db := effect.db }, effect.events⟩)
        (by simp [commit, hbody])).mpr ?_
      exact ok now effect hbody

theorem alone_execute_served {body : DateTime → Database → Except String (Effect α)}
    (ok : ∀ now effect, body now w.db = .ok effect →
      Q (.ok effect.value) { w with db := effect.db } (es ++ effect.events))
    (failed : ∀ now cause, body now w.db = .error cause → Q (.error [message, cause]) w es) :
    (execute message body).Alone served Q w es := by
  refine alone_transaction_served (fun now effect hbody => ok now effect ?_)
    fun now e hbody => ?_
  · cases hb : body now w.db with
    | ok effect' =>
      rw [hb] at hbody
      simpa [Except.mapError] using hbody
    | error cause =>
      rw [hb] at hbody
      cases hbody
  · cases hb : body now w.db with
    | ok effect' =>
      rw [hb] at hbody
      cases hbody
    | error cause =>
      rw [hb] at hbody
      obtain rfl := Except.error.inj hbody
      exact failed now cause hb

theorem alone_fetch_served {read : Database → α} (ok : Q (.ok (read w.db)) w es) :
    (fetch message read).Alone served Q w es := by
  refine alone_transaction_served (fun now effect hbody => ?_) fun now e hbody => by cases hbody
  obtain rfl := Except.ok.inj hbody
  simpa using ok

theorem alone_fetchOne_served {read : Database → Option α} {a : α} (hread : read w.db = some a)
    (ok : Q (.ok a) w es) : (fetchOne message read).Alone served Q w es := by
  refine alone_transaction_served (fun now effect hbody => ?_) fun now e hbody => ?_
  · simp only [hread, Except.ok.injEq] at hbody
    subst hbody
    simpa using ok
  · simp [hread] at hbody

/-! #### What delivers

With every statement served, a program that meets no broken constraint and no missing row goes
through. -/

section Delivers

variable {R : α → World → Prop}

theorem delivers_newUuid {R : Uuid → World → Prop}
    (h : ∀ id issued, R id { w with issued := issued }) : newUuid.Delivers answers R w :=
  fun _ => alone_newUuid fun id _ => ⟨id, rfl, h id _⟩

theorem delivers_execute {body : DateTime → Database → Except String (Effect α)}
    (h : ∀ now, ∃ effect, body now w.db = .ok effect ∧
      R effect.value { w with db := effect.db }) :
    (execute message body).Delivers served R w := by
  intro es
  refine alone_execute_served (fun now effect hbody => ?_) fun now cause hbody => ?_
  · obtain ⟨_, heffect, hR⟩ := h now
    rw [hbody] at heffect
    obtain rfl := Except.ok.inj heffect
    exact ⟨_, rfl, hR⟩
  · obtain ⟨_, heffect, -⟩ := h now
    rw [hbody] at heffect
    cases heffect

theorem delivers_fetch {read : Database → α} (h : R (read w.db) w) :
    (fetch message read).Delivers served R w :=
  fun _ => alone_fetch_served ⟨_, rfl, h⟩

theorem delivers_fetchOne {read : Database → Option α} {a : α} (hread : read w.db = some a)
    (h : R a w) : (fetchOne message read).Delivers served R w :=
  fun _ => alone_fetchOne_served hread ⟨a, rfl, h⟩

end Delivers

end Served

/-- Surroundings in which every statement goes through at the given `NOW()`, the clock
stands still, identifiers are the numbers of the questions and nothing fails. -/
def steady (now : DateTime) : Oracle system := fun n q =>
  match q with
  | .statement => some now
  | .utcNow => now
  | .newUuid => n
  | .boundedSubprocess _ _ => .ok { timedOut := false, exitCode := some 0, stdout := "", stderr := "" }
  | .webFetch _ => .ok { contentType := none, body := "", truncated := false }
  | .formatFetched _ _ => .ok { preview := "", formatterKind := "plain_text", previewTruncated := false }
  | .harnessNative _ => .ok { summary := "done", payload := .null }
  | .consciousWorker _ _ _ => .ok (some { governedActionProposals := [], assistantText := "" })
  | .sendMessage _ _ _ => .ok (Int.ofNat n)
  | .approvalPrompt _ _ _ => .ok (Int.ofNat n)
  | .foregroundContext _ => .ok .null
  | .candidateProposals => .ok {}
  | .identityFallback => none
  | .selfModelSeedPath => .ok "config/self_model_seed.toml"
  | .selfModelSeed _ => .ok
      { stableIdentity := "blue-lagoon", role := "personal_assistant"
        communicationStyle := "direct", capabilities := ["conversation"]
        constraints := [], preferences := ["concise"], currentGoals := ["support_the_user"]
        currentSubgoals := [] }
  | .elsewhere _ => .ok ()

theorem served_steady (now : DateTime) (n : Nat) (q : Query) : served q (steady now n q) := by
  cases q with
  | statement => rfl
  | _ => trivial

/-! ### Programs that only read -/

/-- A program that asks for `k` statements and nothing else. Where these are served, it returns
a value as `R` says, and the world is what it was. -/
def Reads (k : Nat) (p : Harness α) (R : α → Prop) (w : World) : Prop :=
  ∀ (o : Oracle system) (n : Nat), (∀ i < k, served .statement (o (n + i) .statement)) →
    ∃ a, R a ∧ p.run o n w = { result := .ok a, state := w, events := [], asked := n + k }

section Reads

variable {k l : Nat} {message : String} {w : World} {R : α → Prop} {R' : β → Prop}

theorem reads_ret {a : α} (h : R a) : Reads 0 (.ret a) R w :=
  fun _ _ _ => ⟨a, h, rfl⟩

theorem reads_fetch {read : Database → α} (h : R (read w.db)) :
    Reads 1 (fetch message read) R w :=
  fun _ _ hserved => ⟨_, h, run_fetch_of_isSome (hserved 0 Nat.zero_lt_one)⟩

theorem reads_fetchOne {read : Database → Option α} {a : α} (hread : read w.db = some a)
    (h : R a) : Reads 1 (fetchOne message read) R w :=
  fun _ _ hserved => ⟨a, h, run_fetchOne_of_isSome (hserved 0 Nat.zero_lt_one) hread⟩

/-- The rule of sequencing. -/
theorem Reads.bind {p : Harness α} {f : α → Harness β} (hp : Reads k p R w)
    (hf : ∀ a, R a → Reads l (f a) R' w) : Reads (k + l) (p.bind f) R' w := by
  intro o n hserved
  obtain ⟨a, ha, hrun⟩ := hp o n fun i hi => hserved i (by omega)
  obtain ⟨b, hb, hrest⟩ := hf a ha o (n + k) fun i hi => by
    rw [Nat.add_assoc]
    exact hserved (k + i) (by omega)
  refine ⟨b, hb, ?_⟩
  rw [Prog.run_bind_of_silent o n w hrun, hrest, Nat.add_assoc]

/-- What is read where every statement is served. -/
theorem Reads.delivers {p : Harness α} (h : Reads k p R w) :
    p.Delivers served (fun a w' => R a ∧ w' = w) w := by
  intro es
  refine Prog.Alone.of_runs (served_steady 0) fun o ho n => ?_
  obtain ⟨a, ha, hrun⟩ := h o n fun i _ => ho (n + i) .statement
  rw [hrun]
  exact ⟨a, rfl, ha, rfl⟩

end Reads

end Harness

end BlueLagoon
