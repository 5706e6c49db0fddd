import BlueLagoon.Management.Diagnosis
import Mathlib.Data.Prod.Lex

/-!
# The parts of a diagnosis agree

The verdict, the failure class and the two nodes a diagnosis points at are found by
separate searches. They agree when the *primary* failing node, the one the diagnosis
reports as the first failing, has a class and stands right with the nodes around it:

* an audit event of severity `error` whose text and payload name no class is reported as
  the first failing node of a trace without a failure class;
* when nothing good comes before the primary node, the search for the last successful
  node falls back to the whole trace and returns a node that comes after it.
-/

namespace BlueLagoon.Management

variable {display : Display} {report : TraceReport} {node : TraceNode}

/-! ## The primary failing node -/

/-- The node that a diagnosis reports as the first failing one, with the nodes before it:
the first pending approval; without one, the first blocked node; without either, the
failing node that comes first by priority, time and identifier. -/
inductive Primary (nodes before : List TraceNode) (node : TraceNode) : Prop
  | pending (h : isPendingApproval node) (hbefore : ∀ other ∈ before, ¬ isPendingApproval other)
  | blocked (hpending : ∀ other ∈ nodes, ¬ isPendingApproval other) (h : isBlocked node)
      (hbefore : ∀ other ∈ before, ¬ isBlocked other)
  | failing (hpending : ∀ other ∈ nodes, ¬ isPendingApproval other)
      (hblocked : ∀ other ∈ nodes, ¬ isBlocked other) (h : nodeIsFailure node)
      (hfirst : ∀ other ∈ nodes, nodeIsFailure other → ¬ failsBefore other node)

/-- The node that `diagnose_trace_report` refers to as the first failing one. -/
def primaryFailure (report : TraceReport) : Option TraceNode :=
  ((findPendingApprovalNode report).or (findBlockedNode report)).or (findFirstFailingNode report)

/-- What `find_first_failing_node` compares. -/
def failureKey (node : TraceNode) : ℕ ×ₗ DateTime ×ₗ List Char :=
  toLex (traceFailurePriority node, toLex (node.occurredAt, node.nodeId.toList))

theorem failsBefore_iff (left right : TraceNode) :
    failsBefore left right = true ↔ failureKey left < failureKey right := by
  simp only [failsBefore, failureKey, Prod.Lex.toLex_lt_toLex, Bool.or_eq_true, Bool.and_eq_true,
    decide_eq_true_eq]

theorem eq_of_nodeId {other : TraceNode} (hnode : node ∈ report.nodes)
    (hother : other ∈ report.nodes) (hid : node.nodeId = other.nodeId) : node = other :=
  Table.eq_of_mem_of_key report.distinct hnode hother hid

theorem findPendingApprovalNode_eq_none :
    findPendingApprovalNode report = none ↔ ∀ other ∈ report.nodes, ¬ isPendingApproval other :=
  List.find?_eq_none

theorem findBlockedNode_eq_none :
    findBlockedNode report = none ↔ ∀ other ∈ report.nodes, ¬ isBlocked other :=
  List.find?_eq_none

theorem findFirstFailingNode_eq_none :
    findFirstFailingNode report = none ↔ ∀ other ∈ report.nodes, ¬ nodeIsFailure other := by
  rw [← List.filter_eq_nil_iff]
  constructor
  · intro h
    by_contra hne
    have hsome : (Table.first failsBefore (report.nodes.filter nodeIsFailure)).isSome :=
      Table.first_isSome hne
    rw [findFirstFailingNode] at h
    rw [h] at hsome
    cases hsome
  · intro h
    rw [findFirstFailingNode, h, Table.first]

theorem findFirstFailingNode_eq_some :
    findFirstFailingNode report = some node ↔ node ∈ report.nodes ∧ nodeIsFailure node ∧
      ∀ other ∈ report.nodes, nodeIsFailure other → ¬ failsBefore other node := by
  constructor
  · intro h
    obtain ⟨hmem, hfails⟩ := List.mem_filter.mp (Table.mem_of_first h)
    refine ⟨hmem, hfails, fun other hother hfails' hbefore => ?_⟩
    have hle := Table.first_le failsBefore_iff h (List.mem_filter.mpr ⟨hother, hfails'⟩)
    exact absurd ((failsBefore_iff _ _).mp hbefore) (not_lt.mpr hle)
  · rintro ⟨hmem, hfails, hfirst⟩
    cases hfound : findFirstFailingNode report with
    | none => exact absurd hfails (findFirstFailingNode_eq_none.mp hfound node hmem)
    | some found =>
      -- two nodes that no failing one comes before have the same key, so the same identifier
      obtain ⟨hmem', hfails'⟩ := List.mem_filter.mp (Table.mem_of_first hfound)
      have hle : failureKey found ≤ failureKey node :=
        Table.first_le failsBefore_iff hfound (List.mem_filter.mpr ⟨hmem, hfails⟩)
      have hge : failureKey node ≤ failureKey found :=
        not_lt.mp fun hlt => hfirst found hmem' hfails' ((failsBefore_iff _ _).mpr hlt)
      have hkey : failureKey found = failureKey node := le_antisymm hle hge
      have hid : found.nodeId.toList = node.nodeId.toList := by
        have hpair := Prod.mk.inj (toLex_inj.mp hkey)
        exact (Prod.mk.inj (toLex_inj.mp hpair.2)).2
      rw [eq_of_nodeId hmem' hmem (String.ext hid)]

/-- Where the primary node stands. -/
theorem primaryFailure_eq_some : primaryFailure report = some node ↔
    ∃ before after, report.nodes = before ++ node :: after ∧ Primary report.nodes before node := by
  unfold primaryFailure
  cases hpending : findPendingApprovalNode report with
  | some pending =>
    obtain ⟨hp, before, after, hnodes, hbefore⟩ := List.find?_eq_some_iff_append.mp hpending
    have hnone : ∀ other ∈ before, ¬ isPendingApproval other := by simpa using hbefore
    constructor
    · rintro ⟨⟩
      exact ⟨before, after, hnodes, .pending hp hnone⟩
    · rintro ⟨before', after', hnodes', hprimary⟩
      have hmem : pending ∈ report.nodes := List.mem_of_find?_eq_some hpending
      cases hprimary with
      | pending h hbefore' =>
        have hfound : findPendingApprovalNode report = some node :=
          List.find?_eq_some_iff_append.mpr
            ⟨h, before', after', hnodes', by simpa using hbefore'⟩
        rw [hpending] at hfound
        obtain rfl := Option.some.inj hfound
        rfl
      | blocked hnot => exact absurd hp (hnot pending hmem)
      | failing hnot => exact absurd hp (hnot pending hmem)
  | none =>
    have hnot := findPendingApprovalNode_eq_none.mp hpending
    cases hblocked : findBlockedNode report with
    | some blocked =>
      obtain ⟨hb, before, after, hnodes, hbefore⟩ := List.find?_eq_some_iff_append.mp hblocked
      have hnone : ∀ other ∈ before, ¬ isBlocked other := by simpa using hbefore
      constructor
      · rintro ⟨⟩
        exact ⟨before, after, hnodes, .blocked hnot hb hnone⟩
      · rintro ⟨before', after', hnodes', hprimary⟩
        have hmem' : node ∈ report.nodes := by rw [hnodes']; simp
        cases hprimary with
        | pending h => exact absurd h (hnot node hmem')
        | blocked _ h hbefore' =>
          have hfound : findBlockedNode report = some node :=
            List.find?_eq_some_iff_append.mpr
              ⟨h, before', after', hnodes', by simpa using hbefore'⟩
          rw [hblocked] at hfound
          obtain rfl := Option.some.inj hfound
          rfl
        | failing _ hnotBlocked =>
          exact absurd hb (hnotBlocked blocked (List.mem_of_find?_eq_some hblocked))
    | none =>
      have hnotBlocked := findBlockedNode_eq_none.mp hblocked
      rw [Option.none_or, Option.none_or, findFirstFailingNode_eq_some]
      constructor
      · rintro ⟨hmem, hfails, hfirst⟩
        obtain ⟨before, after, hnodes⟩ := List.append_of_mem hmem
        exact ⟨before, after, hnodes, .failing hnot hnotBlocked hfails hfirst⟩
      · rintro ⟨before, after, hnodes, hprimary⟩
        have hmem : node ∈ report.nodes := by rw [hnodes]; simp
        cases hprimary with
        | pending h => exact absurd h (hnot node hmem)
        | blocked _ h => exact absurd h (hnotBlocked node hmem)
        | failing _ _ hfails hfirst => exact ⟨hmem, hfails, hfirst⟩

/-! ## The class of the failure -/

/-- The phrases that `classify_failure_text` looks for. -/
def failurePhrases : List String := persistencePhrases ++ validationPhrases ++ protocolPhrases

/-- An audit event that names a class of failures: its text holds one of the phrases, or
its payload gives a failure kind or a reason code. -/
def NamesClass (display : Display) (node : TraceNode) : Prop :=
  ∃ payload, node.payload.get "payload" = some payload ∧
    ((∃ phrase ∈ failurePhrases,
        Text.contains (Text.toAsciiLowercase (node.summary ++ " " ++ display.json payload)) phrase) ∨
      (stringAt "failure_kind" payload).isSome ∨ (stringAt "reason_code" payload).isSome)

theorem classifyFailureText_isSome {text : String} : (classifyFailureText text).isSome ↔
    ∃ phrase ∈ failurePhrases, Text.contains (Text.toAsciiLowercase text) phrase := by
  rw [← List.any_eq_true, failurePhrases, List.any_append, List.any_append, Bool.or_eq_true,
    Bool.or_eq_true]
  unfold classifyFailureText
  dsimp only
  split
  · rename_i hpersistence
    exact iff_of_true rfl (Or.inl (Or.inl hpersistence))
  · rename_i hpersistence
    split
    · rename_i hvalidation
      exact iff_of_true rfl (Or.inl (Or.inr hvalidation))
    · rename_i hvalidation
      split
      · rename_i hprotocol
        exact iff_of_true rfl (Or.inr hprotocol)
      · rename_i hprotocol
        exact iff_of_false Bool.false_ne_true
          (not_or.mpr ⟨not_or.mpr ⟨hpersistence, hvalidation⟩, hprotocol⟩)

theorem classifyAuditFailure_isSome :
    (classifyAuditFailure display node).isSome ↔ NamesClass display node := by
  unfold classifyAuditFailure NamesClass
  cases node.payload.get "payload" with
  | none => simp
  | some payload =>
    simp only [Option.bind_some, Option.isSome_or, Option.isSome_map, Bool.or_eq_true,
      classifyFailureText_isSome, Option.some.injEq, exists_eq_left']

theorem nodeKind_of_isPendingApproval (h : isPendingApproval node) :
    node.nodeKind = "approval_request" := by
  simp only [isPendingApproval, Bool.and_eq_true, decide_eq_true_eq] at h
  exact h.1

theorem nodeKind_of_isBlocked (h : isBlocked node) :
    node.nodeKind = "governed_action_execution" ∨ node.nodeKind = "approval_request" := by
  simp only [isBlocked, Bool.or_eq_true, Bool.and_eq_true, decide_eq_true_eq] at h
  exact h.imp And.left And.left

/-- The failure class that `diagnose_trace_report` derives. -/
def failureClass (display : Display) (report : TraceReport) : Option TraceFailureClass :=
  classifyTraceFailure display report (findPendingApprovalNode report) (findBlockedNode report)
    (findFirstFailingNode report)

/-- A trace has a failure class when it has a primary node that, if it is an audit event,
names one. -/
theorem failureClass_isSome : (failureClass display report).isSome ↔
    ∃ node, primaryFailure report = some node ∧
      (node.nodeKind = "audit_event" → NamesClass display node) := by
  unfold failureClass classifyTraceFailure primaryFailure
  cases hpending : findPendingApprovalNode report with
  | some pending =>
    have hkind := nodeKind_of_isPendingApproval (List.find?_some hpending)
    refine iff_of_true rfl ⟨pending, rfl, fun haudit => ?_⟩
    exact absurd (hkind.symm.trans haudit) (by decide)
  | none =>
    cases hblocked : findBlockedNode report with
    | some blocked =>
      refine iff_of_true ?_ ⟨blocked, rfl, fun haudit => ?_⟩
      · rw [Option.isSome_none, if_neg Bool.false_ne_true]
        dsimp only
        split
        · rfl
        · split <;> rfl
      · rcases nodeKind_of_isBlocked (List.find?_some hblocked) with hkind | hkind
        · exact absurd (hkind.symm.trans haudit) (by decide)
        · exact absurd (hkind.symm.trans haudit) (by decide)
    | none =>
      rw [Option.isSome_none, if_neg Bool.false_ne_true, Option.none_or, Option.none_or]
      cases findFirstFailingNode report with
      | none => simp
      | some failing =>
        simp only [Option.bind_some, Option.some.injEq, exists_eq_left']
        by_cases hcall : failing.nodeKind = "model_call"
        · rw [if_pos hcall]
          exact iff_of_true (by simp) fun haudit => absurd (hcall.symm.trans haudit) (by decide)
        · rw [if_neg hcall]
          by_cases haudit : failing.nodeKind = "audit_event"
          · rw [if_pos haudit, classifyAuditFailure_isSome]
            exact ⟨fun h _ => h, fun h => h haudit⟩
          · rw [if_neg haudit]
            refine iff_of_true ?_ fun h => absurd h haudit
            split
            · simp
            · split <;> rfl

/-! ## The last successful node -/

section Order

variable {before after : List TraceNode}

theorem nodup_split (hnodes : report.nodes = before ++ node :: after) :
    (∀ other ∈ before, other.nodeId ≠ node.nodeId) ∧
      ∀ other ∈ after, other.nodeId ≠ node.nodeId := by
  have hdistinct := report.distinct
  rw [hnodes, List.map_append, List.map_cons, List.nodup_append] at hdistinct
  obtain ⟨-, hrest, hdisjoint⟩ := hdistinct
  refine ⟨fun other hother => ?_, fun other hother hid => ?_⟩
  · exact hdisjoint _ (List.mem_map_of_mem hother) _ List.mem_cons_self
  · exact (List.nodup_cons.mp hrest).1 (hid ▸ List.mem_map_of_mem hother)

/-- The search before a node looks at the nodes before it. -/
theorem findLastNonfailingBefore_eq (hnodes : report.nodes = before ++ node :: after) :
    findLastNonfailingBefore report node.nodeId =
      (before.reverse.find? nodeIsNonfailing).map traceNodeReference := by
  have hindex : report.nodes.findIdx? (fun other => other.nodeId = node.nodeId) =
      some before.length := by
    have hnone : before.findIdx? (fun other => other.nodeId = node.nodeId) = none := by
      rw [List.findIdx?_eq_none_iff]
      intro other hother
      exact decide_eq_false ((nodup_split hnodes).1 other hother)
    rw [hnodes, List.findIdx?_append, hnone, List.findIdx?_cons]
    simp
  rw [findLastNonfailingBefore, hindex, Option.bind_some, hnodes, List.take_left]

/-- The position of a node in a report. -/
def position (report : TraceReport) (nodeId : String) : Nat :=
  (report.nodes.map TraceNode.nodeId).idxOf nodeId

theorem position_primary (hnodes : report.nodes = before ++ node :: after) :
    position report node.nodeId = before.length := by
  have hnot : node.nodeId ∉ before.map TraceNode.nodeId := by
    rw [List.mem_map]
    rintro ⟨other, hother, hid⟩
    exact (nodup_split hnodes).1 other hother hid
  rw [position, hnodes, List.map_append, List.idxOf_append_of_notMem hnot, List.map_cons,
    List.idxOf_cons_self, List.length_map, Nat.add_zero]

theorem position_before (hnodes : report.nodes = before ++ node :: after) {other : TraceNode}
    (hother : other ∈ before) : position report other.nodeId < before.length := by
  have hmem : other.nodeId ∈ before.map TraceNode.nodeId := List.mem_map_of_mem hother
  rw [position, hnodes, List.map_append, List.idxOf_append_of_mem hmem]
  exact (List.idxOf_lt_length_iff.mpr hmem).trans_eq (List.length_map _)

theorem position_after (hnodes : report.nodes = before ++ node :: after) {other : TraceNode}
    (hother : other ∈ after) : before.length ≤ position report other.nodeId := by
  have hnot : other.nodeId ∉ before.map TraceNode.nodeId := by
    have hdistinct := report.distinct
    rw [hnodes, List.map_append, List.nodup_append] at hdistinct
    intro hmem
    exact hdistinct.2.2 _ hmem _
      (List.mem_map_of_mem (List.mem_cons_of_mem _ hother)) rfl
  rw [position, hnodes, List.map_append, List.idxOf_append_of_notMem hnot, List.length_map]
  exact Nat.le_add_right _ _

end Order

/-! ## Agreement -/

/-- What a reader of a diagnosis relies on: a failing node shows in the verdict and has a
class, a first failing node has a class and a class has a node, and the last successful
node comes before the first failing one. -/
structure Consistent (report : TraceReport) (diagnosis : TraceDiagnosisSummary) : Prop where
  noticed : (∃ node ∈ report.nodes, nodeIsFailure node) →
    (diagnosis.verdict = .awaitingApproval ∨ diagnosis.verdict = .blocked ∨
      diagnosis.verdict = .failed) ∧ diagnosis.failureClass.isSome
  classified : diagnosis.firstFailingNode.isSome ↔ diagnosis.failureClass.isSome
  ordered : ∀ failing good, diagnosis.firstFailingNode = some failing →
    diagnosis.lastSuccessfulNode = some good →
      position report good.nodeId < position report failing.nodeId

/-- The primary node names a class, if it is an audit event, and has a good node before
it, if one comes after it. -/
def PrimaryInPlace (display : Display) (report : TraceReport) : Prop :=
  ∀ before node after, report.nodes = before ++ node :: after →
    Primary report.nodes before node →
      (node.nodeKind = "audit_event" → NamesClass display node) ∧
        ((∃ good ∈ after, nodeIsNonfailing good) → ∃ good ∈ before, nodeIsNonfailing good)

theorem firstFailingNode_eq : (diagnoseTraceReport display report).firstFailingNode =
    (primaryFailure report).map traceNodeReference := rfl

theorem failureClass_eq :
    (diagnoseTraceReport display report).failureClass = failureClass display report := rfl

/-- The primary failure is never a node that did not fail. -/
theorem not_nonfailing_of_primary {before : List TraceNode}
    (h : Primary report.nodes before node) : ¬ nodeIsNonfailing node := by
  unfold nodeIsNonfailing
  rw [Bool.and_eq_true, Bool.not_eq_true', Bool.not_eq_true']
  rintro ⟨hfails, hpending⟩
  cases h with
  | pending h =>
    rw [isPendingApproval, hpending, Bool.and_false] at h
    cases h
  | blocked _ h =>
    -- a blocked node has a failing status and is not an audit event
    have hkind : node.nodeKind ≠ "audit_event" := by
      intro haudit
      rcases nodeKind_of_isBlocked h with hkind | hkind
      · exact absurd (hkind.symm.trans haudit) (by decide)
      · exact absurd (hkind.symm.trans haudit) (by decide)
    rw [nodeIsFailure, if_neg hkind] at hfails
    cases hstatus : node.status with
    | none => simp [isBlocked, TraceNode.statusIn, hstatus] at h
    | some status =>
      simp only [TraceNode.statusIn, hstatus, Option.any_some, List.contains_eq_mem,
        List.mem_cons, List.not_mem_nil, or_false, decide_eq_false_iff_not, not_or] at hfails
      simp only [isBlocked, TraceNode.statusIn, hstatus, Option.any_some, List.contains_eq_mem,
        List.mem_cons, List.not_mem_nil, or_false, Bool.or_eq_true, Bool.and_eq_true,
        decide_eq_true_eq] at h
      rcases h with ⟨-, h⟩ | ⟨-, h | h⟩
      · exact hfails.2.1 h
      · exact hfails.2.2.1 h
      · exact hfails.2.2.2.1 h
  | failing _ _ h =>
    rw [hfails] at h
    cases h

section Placed

variable {before after : List TraceNode}

/-- The last successful node of a diagnosis: the last good node before the primary one,
and without one the last good node of the trace. -/
theorem lastSuccessfulNode_eq (hnodes : report.nodes = before ++ node :: after)
    (hprimary : Primary report.nodes before node) :
    (diagnoseTraceReport display report).lastSuccessfulNode =
      ((before.reverse.find? nodeIsNonfailing).or (after.reverse.find? nodeIsNonfailing)).map
        traceNodeReference := by
  have hfound : primaryFailure report = some node :=
    primaryFailure_eq_some.mpr ⟨before, after, hnodes, hprimary⟩
  have hnode : List.find? nodeIsNonfailing [node] = none := by
    simpa using not_nonfailing_of_primary hprimary
  have hall : report.nodes.reverse.find? nodeIsNonfailing =
      (after.reverse.find? nodeIsNonfailing).or (before.reverse.find? nodeIsNonfailing) := by
    rw [hnodes, List.reverse_append, List.reverse_cons, List.append_assoc, List.find?_append,
      List.find?_append, hnode, Option.none_or]
  show ((((primaryFailure report).map traceNodeReference).bind fun failure =>
      findLastNonfailingBefore report failure.nodeId).or
    ((report.nodes.reverse.find? nodeIsNonfailing).map traceNodeReference)) = _
  have hlast : findLastNonfailingBefore report (traceNodeReference node).nodeId =
      (before.reverse.find? nodeIsNonfailing).map traceNodeReference :=
    findLastNonfailingBefore_eq hnodes
  rw [hfound, Option.map_some, Option.bind_some, hlast, hall]
  cases before.reverse.find? nodeIsNonfailing with
  | none => simp
  | some good => rfl

/-- The last successful node comes first exactly when a good node after the primary one
has a good node before it as well. -/
theorem ordered_iff (hnodes : report.nodes = before ++ node :: after)
    (hprimary : Primary report.nodes before node) :
    (∀ failing good, (diagnoseTraceReport display report).firstFailingNode = some failing →
      (diagnoseTraceReport display report).lastSuccessfulNode = some good →
        position report good.nodeId < position report failing.nodeId) ↔
      ((∃ good ∈ after, nodeIsNonfailing good) → ∃ good ∈ before, nodeIsNonfailing good) := by
  have hfirst : (diagnoseTraceReport display report).firstFailingNode =
      some (traceNodeReference node) := by
    rw [firstFailingNode_eq, primaryFailure_eq_some.mpr ⟨before, after, hnodes, hprimary⟩]
    rfl
  have hplace : position report (traceNodeReference node).nodeId = before.length :=
    position_primary hnodes
  rw [lastSuccessfulNode_eq hnodes hprimary, hfirst]
  cases hbefore : before.reverse.find? nodeIsNonfailing with
  | some good =>
    have hmem : good ∈ before := List.mem_reverse.mp (List.mem_of_find?_eq_some hbefore)
    refine iff_of_true ?_ fun _ => ⟨good, hmem, List.find?_some hbefore⟩
    rintro failing found ⟨⟩ ⟨⟩
    rw [hplace]
    exact position_before hnodes hmem
  | none =>
    have hnone : ∀ good ∈ before, ¬ nodeIsNonfailing good := fun good hgood =>
      List.find?_eq_none.mp hbefore good (List.mem_reverse.mpr hgood)
    cases hafter : after.reverse.find? nodeIsNonfailing with
    | some good =>
      have hmem : good ∈ after := List.mem_reverse.mp (List.mem_of_find?_eq_some hafter)
      refine iff_of_false ?_ ?_
      · intro h
        have hlt := h _ _ rfl rfl
        rw [hplace] at hlt
        exact absurd (position_after hnodes hmem) (not_le.mpr hlt)
      · intro h
        obtain ⟨other, hother, hgood⟩ := h ⟨good, hmem, List.find?_some hafter⟩
        exact hnone other hother hgood
    | none =>
      refine iff_of_true ?_ ?_
      · rintro failing good - ⟨⟩
      · rintro ⟨good, hgood, hnonfailing⟩
        exact absurd hnonfailing
          (List.find?_eq_none.mp hafter good (List.mem_reverse.mpr hgood))

end Placed

/-- Without a primary node nothing fails. -/
theorem no_failure_of_no_primary (h : primaryFailure report = none) :
    ∀ other ∈ report.nodes, ¬ nodeIsFailure other := by
  unfold primaryFailure at h
  rw [Option.or_eq_none_iff] at h
  exact findFirstFailingNode_eq_none.mp h.2

/-- A class makes the verdict one of a failure. -/
theorem verdict_of_class {pendingApproval blockedNode : Option TraceNode}
    {failureClass : Option TraceFailureClass} {verdict : TraceDiagnosisVerdict}
    (hverdict : deriveTraceVerdict report pendingApproval blockedNode failureClass = verdict)
    (h : failureClass.isSome) :
    verdict = .awaitingApproval ∨ verdict = .blocked ∨ verdict = .failed := by
  unfold deriveTraceVerdict at hverdict
  split at hverdict
  · exact Or.inl hverdict.symm
  · split at hverdict
    · exact Or.inr (Or.inl hverdict.symm)
    · exact Or.inr (Or.inr hverdict.symm)

/-- A diagnosis is consistent exactly when the primary node is in place. -/
theorem diagnosis_consistent_iff :
    Consistent report (diagnoseTraceReport display report) ↔ PrimaryInPlace display report := by
  constructor
  · intro h before node after hnodes hprimary
    have hfound : primaryFailure report = some node :=
      primaryFailure_eq_some.mpr ⟨before, after, hnodes, hprimary⟩
    refine ⟨?_, (ordered_iff hnodes hprimary).mp h.ordered⟩
    have hsome : (diagnoseTraceReport display report).firstFailingNode.isSome := by
      rw [firstFailingNode_eq, hfound]
      rfl
    obtain ⟨other, hother, hclass⟩ := failureClass_isSome.mp (h.classified.mp hsome)
    rw [hfound] at hother
    exact Option.some.inj hother ▸ hclass
  · intro h
    cases hfound : primaryFailure report with
    | none =>
      have hclass : ¬ (failureClass display report).isSome := by
        rw [failureClass_isSome, hfound]
        rintro ⟨node, ⟨⟩, -⟩
      have hfirst : (diagnoseTraceReport display report).firstFailingNode = none := by
        rw [firstFailingNode_eq, hfound]
        rfl
      refine ⟨?_, ?_, ?_⟩
      · rintro ⟨node, hnode, hfails⟩
        exact absurd hfails (no_failure_of_no_primary hfound node hnode)
      · rw [hfirst, failureClass_eq]
        exact iff_of_false Bool.false_ne_true hclass
      · rw [hfirst]
        rintro failing good ⟨⟩
    | some node =>
      obtain ⟨before, after, hnodes, hprimary⟩ := primaryFailure_eq_some.mp hfound
      obtain ⟨hnames, hplaced⟩ := h before node after hnodes hprimary
      have hclass : (failureClass display report).isSome :=
        failureClass_isSome.mpr ⟨node, hfound, hnames⟩
      refine ⟨fun _ => ⟨verdict_of_class rfl hclass, hclass⟩, ?_,
        (ordered_iff hnodes hprimary).mpr hplaced⟩
      rw [firstFailingNode_eq, hfound, failureClass_eq]
      exact iff_of_true rfl hclass

/-! ## A failure without a class -/

/-- How payloads with one string under `error` are written. -/
def errorDisplay : Display where
  json
    | .obj [("error", .str text)] => "\x7b\"error\":\"" ++ text ++ "\"\x7d"
    | _ => "null"
  time _ := ""
  parseUuid _ := none

/-- The trace of a background job that failed after its model call, with a text that
names no class. -/
def failedJobReport : TraceReport :=
  ((TraceReportBuilder.new 1 none).addNodes
    [{ nodeId := "execution:2", nodeKind := "execution", sourceId := 2, occurredAt := 10
       status := some "failed", title := "Execution scheduled_maintenance"
       summary := "status=failed worker=unconscious completed_at=none", payload := .obj [] },
     { nodeId := "model_call:3", nodeKind := "model_call", sourceId := 3, occurredAt := 20
       status := some "succeeded", title := "Model call background"
       summary := "provider=local", payload := .obj [] },
     { nodeId := "audit_event:4", nodeKind := "audit_event", sourceId := 4, occurredAt := 30
       status := some "error", title := "background_execution.background_job_failed"
       summary := "error"
       payload := .obj [("payload", .obj [("error", .str "worker timed out")])] }]).finish

/-- The diagnosis calls it a success and still points at the failing node. -/
theorem failedJobReport_inconsistent :
    (diagnoseTraceReport errorDisplay failedJobReport).verdict = .succeeded ∧
      (diagnoseTraceReport errorDisplay failedJobReport).firstFailingNode.isSome ∧
      ¬ Consistent failedJobReport (diagnoseTraceReport errorDisplay failedJobReport) := by
  have hverdict : (diagnoseTraceReport errorDisplay failedJobReport).verdict = .succeeded := by
    decide +kernel
  have hfirst : (diagnoseTraceReport errorDisplay failedJobReport).firstFailingNode.isSome := by
    decide +kernel
  have hclass : (diagnoseTraceReport errorDisplay failedJobReport).failureClass.isSome = false := by
    decide +kernel
  refine ⟨hverdict, hfirst, fun h => ?_⟩
  have hsome := h.classified.mp hfirst
  rw [hclass] at hsome
  cases hsome

end BlueLagoon.Management
