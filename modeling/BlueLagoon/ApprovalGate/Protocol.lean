import BlueLagoon.ApprovalGate.Aside
import BlueLagoon.Interleaving.Gate

/-!
# The approval gate as a gate

The records of governed actions, the approval requests and the log are those of a gate: an action
may be sent at once where its tier requires no approval, a permission is an approval request, and
sending is handing the payload to its executor.
-/

namespace BlueLagoon.ApprovalGate

open Interleaving Harness

/-! ## What the gate sees -/

/-- The fingerprint of an action, and the request that is attached to it. -/
def tieOf (db : Database) (id : Uuid) : Option (GovernedActionFingerprint × Option Uuid) :=
  (GovernedActions.recordOf id db).map fun row => (row.actionFingerprint, row.approvalRequestId)

/-- What a request is for, and whether it is pending. -/
def askOf (db : Database) (approvalRequestId : Uuid) :
    Option (GovernedActionFingerprint × Bool) :=
  (Table.find ApprovalRequestRecord.approvalRequestId approvalRequestId db.approvalRequests).map
    fun row => (row.actionFingerprint, decide (row.status = .pending))

section Tables

variable {α β : Type} {key : α → Uuid} {g : α → β} {rows : List α} {row : α}

/-- A row that is appended under a new key. -/
theorem map_find_append (hfresh : ∀ other ∈ rows, key other ≠ key row) :
    (fun k => (Table.find key k (rows ++ [row])).map g) =
      Function.update (fun k => (Table.find key k rows).map g) (key row) (some (g row)) := by
  funext k
  by_cases hk : k = key row
  · rw [hk, Function.update_self, Table.find_append_self hfresh]
    rfl
  · rw [Function.update_of_ne hk, Table.find_append_of_ne (Ne.symm hk)]

theorem map_find_fresh (hfresh : ∀ other ∈ rows, key other ≠ key row) :
    (Table.find key (key row) rows).map g = none := by
  refine Option.map_eq_none_iff.mpr (List.find?_eq_none.mpr fun other hmem => ?_)
  simpa using hfresh other hmem

/-- The row of a key that is changed, and no other. -/
theorem map_find_change {which : α → Bool} {change : α → α} {k₀ : Uuid}
    (hkey : ∀ r, key (change r) = key r) (hfound : Table.find key k₀ rows = some row)
    (hwhich : which row = true) (hothers : ∀ r, which r = true → key r = k₀) :
    (fun k => (Table.find key k (Table.update which change rows)).map g) =
      Function.update (fun k => (Table.find key k rows).map g) k₀ (some (g (change row))) := by
  funext k
  rw [Table.find_update hkey]
  by_cases hk : k = k₀
  · rw [hk, Function.update_self, hfound, Option.map_some, if_pos hwhich]
    rfl
  · rw [Function.update_of_ne hk]
    cases hother : Table.find key k rows with
    | none => rfl
    | some r =>
      have hne : ¬which r = true := fun hr =>
        hk ((Table.key_of_find hother).symm.trans (hothers r hr))
      rw [Option.map_some, if_neg hne]

end Tables

/-- What an event tells of the gate. -/
def gateEvent (config : RuntimeConfig) :
    Event → Option (Gate.Event Uuid GovernedActionFingerprint Uuid)
  | .actionPlanned id fingerprint tier =>
    some (.planned id fingerprint (!Policy.governedActionRequiresApproval config tier))
  | .actionEscalated id => some (.escalated id)
  | .approvalResolved approvalRequestId fingerprint decision =>
    some (.resolved approvalRequestId fingerprint (decide (decision = .approved)))
  | .payloadDispatched id => some (.sent id)
  | _ => none

variable {ι : Type}

/-- The entry of a log, as the gate sees it. -/
def gateEntry (config : RuntimeConfig) (entry : ι × Event) :
    Option (ι × Gate.Event Uuid GovernedActionFingerprint Uuid) :=
  (gateEvent config entry.2).map (Prod.mk entry.1)

/-- The shared state, as the gate sees it. -/
def view (config : RuntimeConfig) (v : Shared system ι) :
    Gate.State ι Uuid GovernedActionFingerprint Uuid where
  ties := tieOf v.state.db
  asks := askOf v.state.db
  log := v.log.filterMap (gateEntry config)

theorem gateEvent_of_not_gate {config : RuntimeConfig} {e : Event} (h : ¬e.OfGate) :
    gateEvent config e = none := by
  cases e <;> first | rfl | exact (h trivial).elim

/-- An entry of the log that tells of the gate is one of the gate's log. -/
theorem mem_gateEntry {config : RuntimeConfig} {log : List (ι × Event)} {i : ι} {e : Event}
    {entry : Gate.Event Uuid GovernedActionFingerprint Uuid} (h : (i, e) ∈ log)
    (hentry : gateEvent config e = some entry) :
    (i, entry) ∈ log.filterMap (gateEntry config) :=
  List.mem_filterMap.mpr ⟨(i, e), h, by rw [gateEntry, hentry]; rfl⟩

/-- What the gate sees of a move. -/
theorem view_push (config : RuntimeConfig) (v : Shared system ι) (i : ι) (world : World)
    (events : List Event) :
    view config (v.push i world events) =
      { ties := tieOf world.db
        asks := askOf world.db
        log := (view config v).log ++ (events.filterMap (gateEvent config)).map (Prod.mk i) } := by
  unfold view
  rw [Shared.push_log, List.filterMap_append, List.filterMap_map, List.map_filterMap]
  rfl

/-! ### Steps aside -/

theorem tieOf_eq_find (db : Database) (id : Uuid) :
    tieOf db id =
      ((db.governedActionExecutions.map tie).find? fun row => decide (row.1 = id)).map Prod.snd := by
  rw [List.find?_map, Option.map_map]
  rfl

/-- A step aside is none that the gate sees. -/
theorem view_aside {config : RuntimeConfig} {v : Shared system ι} {i : ι} {world : World}
    {events : List Event} (h : AsideStep v.state.db world.db events) :
    view config (v.push i world events) = view config v := by
  have hties : tieOf world.db = tieOf v.state.db := by
    funext id
    rw [tieOf_eq_find, tieOf_eq_find, h.ties]
  have hasks : askOf world.db = askOf v.state.db := by
    funext id
    rw [askOf, h.requests]
    rfl
  have hevents : events.filterMap (gateEvent config) = [] :=
    List.filterMap_eq_nil_iff.mpr fun e he => gateEvent_of_not_gate (h.events e he)
  rw [view_push, hties, hasks, hevents, List.map_nil, List.append_nil]
  rfl

/-! ## The protocol -/

/-- The gate is sound, and the keys of its tables are unique. -/
structure Gated (config : RuntimeConfig) (v : Shared system ι) : Prop where
  sound : Gate.Sound (view config v)
  recordKeys : (v.state.db.governedActionExecutions.map
    GovernedActionExecutionRecord.governedActionExecutionId).Nodup
  requestKeys : (v.state.db.approvalRequests.map
    ApprovalRequestRecord.approvalRequestId).Nodup

/-- What thread `i` relies on: what the gate does not take away. -/
abbrev Relies (config : RuntimeConfig) (i : ι) (v w : Shared system ι) : Prop :=
  Gate.Rely i (view config v) (view config w)

/-- The protocol of the threads that use the gate. -/
def gateProtocol (config : RuntimeConfig) (answers : Answers system) (ι : Type) :
    Protocol system ι where
  answers := answers
  Inv := Gated config
  Rely := Relies config
  rely_refl := fun _ _ => .refl _ _
  rely_trans := fun _ _ _ _ => .trans

section Steps

variable {config : RuntimeConfig} {answers : Answers system} {i : ι} {v w : Shared system ι}
  {world : World} {events : List Event}

/-- A step of the gate that keeps the keys is one that the others expect. -/
theorem allows_step (hinv : Gated config w)
    (step : Gate.Step i (view config w) (view config (w.push i world events)))
    (hrecords : (world.db.governedActionExecutions.map
      GovernedActionExecutionRecord.governedActionExecutionId).Nodup)
    (hrequests : (world.db.approvalRequests.map
      ApprovalRequestRecord.approvalRequestId).Nodup) :
    (gateProtocol config answers ι).Allows i w (w.push i world events) :=
  ⟨⟨step.sound hinv.sound, hrecords, hrequests⟩, fun _ hne => step.rely hinv.sound hne⟩

/-- A step aside is expected by everyone. -/
theorem allows_aside (hinv : Gated config w) (h : AsideStep w.state.db world.db events) :
    (gateProtocol config answers ι).Allows i w (w.push i world events) := by
  have hview : view config (w.push i world events) = view config w := view_aside h
  refine allows_step hinv (hview ▸ .idle) ?_ ?_
  · have hkeys : world.db.governedActionExecutions.map
        GovernedActionExecutionRecord.governedActionExecutionId =
          w.state.db.governedActionExecutions.map
            GovernedActionExecutionRecord.governedActionExecutionId := by
      have hties := congrArg (List.map Prod.fst) h.ties
      rw [List.map_map, List.map_map] at hties
      exact hties
    rw [hkeys]
    exact hinv.recordKeys
  · rw [h.requests]
    exact hinv.requestKeys

/-- Nothing is taken away by a step aside. -/
theorem relies_aside (h : AsideStep w.state.db world.db events) :
    Relies config i w (w.push i world events) := by
  have hview : view config (w.push i world events) = view config w := view_aside h
  show Gate.Rely i (view config w) (view config (w.push i world events))
  rw [hview]
  exact .refl i _

/-- A statement that commits aside of the gate. -/
theorem commits_aside {α : Type} {effect : Effect α} (hinv : Gated config w)
    (h : AsideStep w.state.db effect.db effect.events) :
    (gateProtocol config answers ι).Allows i w (committed w i effect) ∧
      Relies config i w (committed w i effect) :=
  ⟨allows_aside hinv h, relies_aside h⟩

/-- A query sees the tables as they are. -/
theorem wp_fetch {α : Type} {message : String} {read : Database → α}
    {Q : Protocol.Post system ι α}
    (ok : ∀ w, Gated config w → Relies config i v w → Q (.ok (read w.state.db)) w)
    (failed : ∀ w e, Relies config i v w → Q (.error e) w) :
    (gateProtocol config answers ι).wp i (fetch message read) Q v := by
  refine wp_transaction (fun w now effect hinv hrely hbody => ?_) failed
  obtain rfl := Except.ok.inj hbody
  have hsame : committed w i { value := read w.state.db, db := w.state.db } = w := by
    simp [committed, Shared.push]
  refine ⟨(commits_aside hinv (AsideStep.refl _)).1, ?_⟩
  rw [hsame]
  exact ok w hinv hrely

/-- A program that stays aside takes nothing away from its own thread either. -/
theorem wp_aside {α : Type} {p : Harness α} (hp : Aside p) (v : Shared system ι) :
    (gateProtocol config answers ι).wp i p (fun _ w => Relies config i v w) v :=
  Protocol.wp_of_confined hp (fun _ => .refl _ _) (fun _ _ _ => .trans) (fun _ _ _ h => h)
    (fun _ _ _ hinv h => ⟨allows_aside hinv h.1, relies_aside h.1⟩) v

end Steps

end BlueLagoon.ApprovalGate
