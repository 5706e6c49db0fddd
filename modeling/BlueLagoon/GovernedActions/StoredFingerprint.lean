import BlueLagoon.GovernedActions.RowEncoding
import BlueLagoon.Interleaving.RelyGuarantee
import Mathlib.Logic.Relation

/-!
# The fingerprint of a stored action

An action is fingerprinted when it is planned, and again, from its record, when it is approved or
executed. Both times the fingerprint is the same: a record keeps what the fingerprint is computed
from, and asking for the tier that was classified leads to that tier again. The order, the
repetition and the blanks of the names in a scope do not count.
-/

namespace Text

/-! ## Sets in order -/

/-- The set is in order, each value once. -/
abbrev InOrder (set : List String) : Prop := set.Pairwise fun s t => s.toList < t.toList

theorem inOrder_insertIntoSet {s : String} {set : List String} (h : InOrder set) :
    InOrder (insertIntoSet s set) := by
  induction set with
  | nil => exact List.pairwise_singleton _ _
  | cons t set ih =>
    obtain ⟨hhead, htail⟩ := List.pairwise_cons.mp h
    unfold insertIntoSet
    split
    · exact h
    · next hne =>
      split
      · next hlt =>
        refine List.pairwise_cons.mpr ⟨fun u hu => ?_, h⟩
        rcases List.mem_cons.mp hu with rfl | hu
        · exact hlt
        · exact lt_trans hlt (hhead u hu)
      · next hnot =>
        have hgt : t.toList < s.toList := by
          rcases lt_trichotomy s.toList t.toList with hlt | heq | hgt
          · exact absurd hlt hnot
          · exact absurd (String.toList_injective heq) hne
          · exact hgt
        refine List.pairwise_cons.mpr ⟨fun u hu => ?_, ih htail⟩
        rcases mem_insertIntoSet.mp hu with rfl | hu
        · exact hgt
        · exact hhead u hu

theorem inOrder_trimmedSet (values : List String) : InOrder (trimmedSet values) := by
  have hfold : ∀ (values set : List String), InOrder set →
      InOrder (values.foldl (fun set value => insertIntoSet value set) set) := by
    intro values
    induction values with
    | nil => exact fun set h => h
    | cons value values ih => exact fun set h => ih _ (inOrder_insertIntoSet h)
  exact hfold _ _ List.Pairwise.nil

theorem InOrder.nodup {set : List String} (h : InOrder set) : set.Nodup := by
  refine List.Pairwise.imp ?_ h
  intro s t hlt heq
  rw [heq] at hlt
  exact lt_irrefl _ hlt

/-- A set in order is determined by its members. -/
theorem InOrder.eq_of_mem_iff {set set' : List String} (h : InOrder set) (h' : InOrder set')
    (hmem : ∀ t, t ∈ set ↔ t ∈ set') : set = set' := by
  have hperm : set.Perm set' := (List.perm_ext_iff_of_nodup h.nodup h'.nodup).mpr hmem
  exact hperm.eq_of_pairwise (fun s t _ _ hst hts => absurd (lt_trans hst hts) (lt_irrefl _)) h h'

/-- Blanks around a text are trimmed away. -/
theorem trim_append_blanks {before value after : String} (hbefore : isBlank before)
    (hafter : isBlank after) : trim (before ++ value ++ after) = trim value := by
  have hfront : ∀ c ∈ before.toList, isWhitespace c := List.all_eq_true.mp hbefore
  have hback : ∀ c ∈ after.toList, isWhitespace c := List.all_eq_true.mp hafter
  have hreversed : ∀ c ∈ after.toList.reverse, isWhitespace c := fun c hc =>
    hback c (List.mem_reverse.mp hc)
  unfold trim trimChars
  rw [String.toList_append, String.toList_append, List.append_assoc,
    List.dropWhile_append_of_pos hfront, List.dropWhile_append]
  by_cases hvalue : value.toList.dropWhile isWhitespace = []
  · rw [hvalue, List.isEmpty_nil, if_pos rfl, List.dropWhile_eq_nil_iff.mpr hback]
  · rw [if_neg (by simpa using hvalue), List.reverse_append,
      List.dropWhile_append_of_pos hreversed]

/-! ## Rearranged lists -/

/-- One list is the other one in another order, with a value repeated, or with blanks around a
value. -/
inductive Rearranged : List String → List String → Prop
  | reordered {values values' : List String} (h : values.Perm values') : Rearranged values values'
  | repeated {value : String} {values : List String} (h : value ∈ values) :
    Rearranged values (value :: values)
  | padded {before value after : String} {values : List String} (hbefore : isBlank before)
      (hafter : isBlank after) : Rearranged (value :: values) ((before ++ value ++ after) :: values)

/-- The two lists can be rearranged into each other. -/
abbrev SameNames : List String → List String → Prop := Relation.EqvGen Rearranged

theorem Rearranged.trimmed {values values' : List String} (h : Rearranged values values')
    (t : String) : (∃ value ∈ values, trim value = t) ↔ ∃ value ∈ values', trim value = t := by
  cases h with
  | reordered h => exact exists_congr fun value => and_congr_left' h.mem_iff
  | repeated h =>
    simp only [List.mem_cons, exists_eq_or_imp]
    refine ⟨Or.inr, fun hor => ?_⟩
    rcases hor with heq | hrest
    · exact ⟨_, h, heq⟩
    · exact hrest
  | padded hbefore hafter =>
    simp only [List.mem_cons, exists_eq_or_imp, trim_append_blanks hbefore hafter]

theorem Rearranged.isEmpty {values values' : List String} (h : Rearranged values values') :
    values.isEmpty = values'.isEmpty := by
  cases h with
  | reordered h => exact h.isEmpty_eq
  | repeated h =>
    cases values with
    | nil => cases h
    | cons other values => rfl
  | padded hbefore hafter => rfl

theorem SameNames.trimmedSet {values values' : List String} (h : SameNames values values') :
    trimmedSet values = trimmedSet values' := by
  refine InOrder.eq_of_mem_iff (inOrder_trimmedSet _) (inOrder_trimmedSet _) fun t => ?_
  rw [mem_trimmedSet, mem_trimmedSet]
  induction h with
  | rel _ _ h => exact h.trimmed t
  | refl _ => exact Iff.rfl
  | symm _ _ _ ih => exact ih.symm
  | trans _ _ _ _ _ ih ih' => exact ih.trans ih'

theorem SameNames.isEmpty {values values' : List String} (h : SameNames values values') :
    values.isEmpty = values'.isEmpty := by
  induction h with
  | rel _ _ h => exact h.isEmpty
  | refl _ => rfl
  | symm _ _ _ ih => exact ih.symm
  | trans _ _ _ _ _ ih ih' => exact ih.trans ih'

end Text

namespace BlueLagoon

open Interleaving Harness

namespace Policy

/-! ## Classified once, classified again -/

/-- The tier depends on the kind, the scope and the requested tier. -/
theorem intrinsicRiskTier_congr {proposal other : GovernedActionProposal}
    (hkind : proposal.actionKind = other.actionKind)
    (hnetwork : proposal.capabilityScope.network = other.capabilityScope.network)
    (hwrites : proposal.capabilityScope.filesystem.writeRoots.isEmpty =
      other.capabilityScope.filesystem.writeRoots.isEmpty)
    (hvariables : proposal.capabilityScope.environment.allowVariables.isEmpty =
      other.capabilityScope.environment.allowVariables.isEmpty) :
    intrinsicRiskTier proposal = intrinsicRiskTier other := by
  unfold intrinsicRiskTier
  rw [hkind, hnetwork, hwrites, hvariables]

theorem classify_congr {proposal other : GovernedActionProposal}
    (hintrinsic : intrinsicRiskTier proposal = intrinsicRiskTier other)
    (hrequested : proposal.requestedRiskTier = other.requestedRiskTier) :
    classifyGovernedActionRisk proposal = classifyGovernedActionRisk other := by
  unfold classifyGovernedActionRisk
  rw [hintrinsic, hrequested]

/-- Asking for the classified tier leads to it again. -/
theorem classify_requesting_classified {proposal other : GovernedActionProposal}
    (hintrinsic : intrinsicRiskTier other = intrinsicRiskTier proposal)
    (hrequested : other.requestedRiskTier = some (classifyGovernedActionRisk proposal)) :
    classifyGovernedActionRisk other = classifyGovernedActionRisk proposal := by
  have hle : intrinsicRiskTier proposal ≤ classifyGovernedActionRisk proposal := by
    unfold classifyGovernedActionRisk
    dsimp only
    split
    · next requested _ =>
      split
      · next hgt => exact le_of_lt hgt
      · exact le_refl _
    · exact le_refl _
  generalize classifyGovernedActionRisk proposal = classified at hle hrequested ⊢
  unfold classifyGovernedActionRisk
  rw [hrequested, hintrinsic]
  show (if classified > intrinsicRiskTier proposal then classified
    else intrinsicRiskTier proposal) = classified
  by_cases hgt : classified > intrinsicRiskTier proposal
  · rw [if_pos hgt]
  · rw [if_neg hgt]
    exact le_antisymm hle (not_lt.mp hgt)

end Policy

namespace GovernedActions

variable [GovernedActionServices]

/-- The fingerprint depends on the kind, the canonical scope, the payload and the classified
tier. -/
theorem fingerprint_congr {proposal other : GovernedActionProposal}
    (hkind : proposal.actionKind = other.actionKind)
    (htier : Policy.classifyGovernedActionRisk proposal = Policy.classifyGovernedActionRisk other)
    (hscope : canonicalCapabilityScope proposal.capabilityScope =
      canonicalCapabilityScope other.capabilityScope)
    (hpayload : proposal.payload = other.payload) :
    fingerprintGovernedAction proposal = fingerprintGovernedAction other := by
  unfold fingerprintGovernedAction canonicalInput
  rw [hkind, htier, hscope, hpayload]

/-! ## What is stored -/

/-- The record is read back as it is, and the proposal made from it has its fingerprint and its
tier, which are those of the proposal it was planned from. -/
structure KeepsFingerprint (proposal : GovernedActionProposal)
    (record : GovernedActionExecutionRecord) : Prop where
  shaped : validateProposalShape proposal = .ok ()
  planned : record.actionFingerprint = fingerprintGovernedAction proposal
  readBack : decodeGovernedActionExecutionRow (encodeRow record) = .ok record
  fingerprint : fingerprintGovernedAction (proposalFromRecord record) = record.actionFingerprint
  riskTier : Policy.classifyGovernedActionRisk (proposalFromRecord record) = record.riskTier

theorem plannedRow_keepsFingerprint {request : GovernedActionPlanningRequest}
    (hshape : validateProposalShape request.proposal = .ok ()) (now : DateTime)
    (status : GovernedActionStatus) (blockedReason : Option String) :
    KeepsFingerprint request.proposal
      (plannedRow now request (fingerprintGovernedAction request.proposal)
        (Policy.classifyGovernedActionRisk request.proposal) status blockedReason) := by
  have htier : Policy.classifyGovernedActionRisk (proposalFromRecord
      (plannedRow now request (fingerprintGovernedAction request.proposal)
        (Policy.classifyGovernedActionRisk request.proposal) status blockedReason)) =
      Policy.classifyGovernedActionRisk request.proposal :=
    Policy.classify_requesting_classified
      (Policy.intrinsicRiskTier_congr rfl rfl rfl rfl) rfl
  exact
    { shaped := hshape
      planned := rfl
      readBack := decodeRow_encodeRow _
      fingerprint := fingerprint_congr rfl htier rfl rfl
      riskTier := htier }

/-- The fingerprint does not see how the names of the three lists are written down. -/
theorem fingerprint_rearranged (proposal : GovernedActionProposal)
    {readRoots writeRoots allowVariables : List String}
    (hread : Text.SameNames proposal.capabilityScope.filesystem.readRoots readRoots)
    (hwrite : Text.SameNames proposal.capabilityScope.filesystem.writeRoots writeRoots)
    (hallow : Text.SameNames proposal.capabilityScope.environment.allowVariables
      allowVariables) :
    fingerprintGovernedAction
        { proposal with
            capabilityScope :=
              { proposal.capabilityScope with
                  filesystem := { readRoots := readRoots, writeRoots := writeRoots }
                  environment := { allowVariables := allowVariables } } } =
      fingerprintGovernedAction proposal := by
  have hintrinsic : Policy.intrinsicRiskTier
      { proposal with
          capabilityScope :=
            { proposal.capabilityScope with
                filesystem := { readRoots := readRoots, writeRoots := writeRoots }
                environment := { allowVariables := allowVariables } } } =
      Policy.intrinsicRiskTier proposal :=
    Policy.intrinsicRiskTier_congr rfl rfl hwrite.isEmpty.symm hallow.isEmpty.symm
  refine fingerprint_congr rfl (Policy.classify_congr hintrinsic rfl) ?_ rfl
  unfold canonicalCapabilityScope
  rw [hread.trimmedSet, hwrite.trimmedSet, hallow.trimmedSet]

/-! ## Later changes -/

/-- Everything that the fingerprint and the tier are computed from is the same. -/
structure SameAction (record record' : GovernedActionExecutionRecord) : Prop where
  id : record'.governedActionExecutionId = record.governedActionExecutionId
  actionFingerprint : record'.actionFingerprint = record.actionFingerprint
  actionKind : record'.actionKind = record.actionKind
  riskTier : record'.riskTier = record.riskTier
  capabilityScope : record'.capabilityScope = record.capabilityScope
  payload : record'.payload = record.payload

omit [GovernedActionServices] in
theorem SameAction.refl (record : GovernedActionExecutionRecord) : SameAction record record :=
  ⟨rfl, rfl, rfl, rfl, rfl, rfl⟩

omit [GovernedActionServices] in
theorem SameAction.trans {a b c : GovernedActionExecutionRecord} (hab : SameAction a b)
    (hbc : SameAction b c) : SameAction a c where
  id := hbc.id.trans hab.id
  actionFingerprint := hbc.actionFingerprint.trans hab.actionFingerprint
  actionKind := hbc.actionKind.trans hab.actionKind
  riskTier := hbc.riskTier.trans hab.riskTier
  capabilityScope := hbc.capabilityScope.trans hab.capabilityScope
  payload := hbc.payload.trans hab.payload

theorem KeepsFingerprint.of_sameAction {proposal : GovernedActionProposal}
    {record record' : GovernedActionExecutionRecord} (h : KeepsFingerprint proposal record)
    (hsame : SameAction record record') : KeepsFingerprint proposal record' := by
  have htier : Policy.classifyGovernedActionRisk (proposalFromRecord record') =
      Policy.classifyGovernedActionRisk (proposalFromRecord record) := by
    refine Policy.classify_congr (Policy.intrinsicRiskTier_congr hsame.actionKind ?_ ?_ ?_)
      (congrArg some hsame.riskTier)
    · exact congrArg CapabilityScope.network hsame.capabilityScope
    · exact congrArg (fun scope => scope.filesystem.writeRoots.isEmpty) hsame.capabilityScope
    · exact congrArg (fun scope => scope.environment.allowVariables.isEmpty)
        hsame.capabilityScope
  have hfingerprint : fingerprintGovernedAction (proposalFromRecord record') =
      fingerprintGovernedAction (proposalFromRecord record) :=
    fingerprint_congr hsame.actionKind htier
      (congrArg canonicalCapabilityScope hsame.capabilityScope) hsame.payload
  exact
    { shaped := h.shaped
      planned := hsame.actionFingerprint.trans h.planned
      readBack := decodeRow_encodeRow _
      fingerprint := by rw [hfingerprint, h.fingerprint, hsame.actionFingerprint]
      riskTier := by rw [htier, h.riskTier, hsame.riskTier] }

/-- What a database has of a stored action in a later one. -/
def Stays (db db' : Database) : Prop :=
  ∀ record ∈ db.governedActionExecutions, ∃ record' ∈ db'.governedActionExecutions,
    SameAction record record'

/-- Every record stays the same action, and no other record comes into being. -/
structure Rewrites (db db' : Database) (_ : List Event) : Prop where
  stays : Stays db db'
  known : ∀ record' ∈ db'.governedActionExecutions, ∃ record ∈ db.governedActionExecutions,
    SameAction record record'

section Rewrites

omit [GovernedActionServices]

theorem Stays.refl (db : Database) : Stays db db :=
  fun record hmem => ⟨record, hmem, .refl record⟩

theorem Stays.trans {db db' db'' : Database} (h : Stays db db') (h' : Stays db' db'') :
    Stays db db'' := by
  intro record hmem
  obtain ⟨record', hmem', hsame⟩ := h record hmem
  obtain ⟨record'', hmem'', hsame'⟩ := h' record' hmem'
  exact ⟨record'', hmem'', hsame.trans hsame'⟩

/-- A step that leaves the table alone. -/
theorem Rewrites.of_eq {db db' : Database} {events : List Event}
    (h : db'.governedActionExecutions = db.governedActionExecutions) :
    Rewrites db db' events := by
  refine ⟨?_, ?_⟩
  · intro record hmem
    exact ⟨record, h ▸ hmem, .refl record⟩
  · intro record hmem
    exact ⟨record, h ▸ hmem, .refl record⟩

theorem Rewrites.refl (db : Database) : Rewrites db db [] := .of_eq rfl

/-- The update of a record leaves the action as it is. -/
theorem Rewrites.changeRecord {id : Uuid}
    {change : GovernedActionExecutionRecord → GovernedActionExecutionRecord}
    (hchange : ∀ record, SameAction record (change record)) {events : List Event}
    {db : Database} {effect : Effect Unit}
    (h : GovernedActions.changeRecord id change events db = .ok effect) :
    Rewrites db effect.db effect.events := by
  rcases changeRecord_eq_ok h with ⟨hdb, -⟩ | ⟨row, -, -, hdb, -⟩
  · exact .of_eq (by rw [hdb])
  · rw [hdb]
    refine ⟨?_, ?_⟩
    · intro record hmem
      by_cases hid : record.governedActionExecutionId = id
      · refine ⟨change record, Table.mem_update.mpr (Or.inr ?_), hchange record⟩
        exact ⟨record, hmem, by simpa using hid, rfl⟩
      · refine ⟨record, Table.mem_update.mpr (Or.inl ?_), .refl record⟩
        exact ⟨hmem, by simpa using hid⟩
    · intro record' hmem'
      rcases Table.mem_update.mp hmem' with ⟨hmem, -⟩ | ⟨record, hmem, -, heq⟩
      · exact ⟨record', hmem, .refl record'⟩
      · rw [heq]
        exact ⟨record, hmem, hchange record⟩

theorem attachApprovalRequest_rewrites (governedActionExecutionId approvalRequestId : Uuid) :
    (attachApprovalRequest governedActionExecutionId approvalRequestId).Confined
      (OnDb Rewrites) := by
  refine Prog.Confined.bind (confined_execute Rewrites.refl ?_) fun _ => ?_
  · intro now db effect hbody
    have hsame : ∀ record, SameAction record (attached now approvalRequestId record) :=
      fun record => ⟨rfl, rfl, rfl, rfl, rfl, rfl⟩
    exact Rewrites.changeRecord hsame hbody
  · refine Prog.Confined.bind (confined_fetchOne Rewrites.refl) fun record => ?_
    exact Prog.Confined.bind (CausalLinks.insert_confined (fun _ _ => .of_eq rfl) _)
      fun _ => Prog.confined_ret _

theorem updateGovernedActionExecution_rewrites (update : GovernedActionExecutionUpdate)
    (events : List Event) :
    (updateGovernedActionExecution update events).Confined (OnDb Rewrites) := by
  refine Prog.Confined.bind (confined_execute Rewrites.refl ?_) fun _ =>
    confined_fetchOne Rewrites.refl
  intro now db effect hbody
  have hsame : ∀ record, SameAction record (updated now update record) :=
    fun record => ⟨rfl, rfl, rfl, rfl, rfl, rfl⟩
  exact Rewrites.changeRecord hsame hbody

end Rewrites

theorem validateGovernedActionPolicy_rewrites (config : RuntimeConfig)
    (proposal : GovernedActionProposal) :
    (validateGovernedActionPolicy config proposal).Confined (OnDb Rewrites) := by
  refine Prog.Confined.bind (Prog.confined_ofExcept _) fun _ => ?_
  refine Prog.Confined.bind
    (Identity.reconstructCompactIdentitySnapshot_confined Rewrites.refl _) fun identity => ?_
  split
  · exact Prog.confined_ret _
  · exact Prog.confined_fail _

/-! ## Calls that write records -/

/-- A call that writes a record: one that plans an action, links an approval request to one, or
updates one. -/
inductive RecordCall
  | plan (config : RuntimeConfig) (request : GovernedActionPlanningRequest)
  | attach (governedActionExecutionId approvalRequestId : Uuid)
  | update (change : GovernedActionExecutionUpdate) (events : List Event)

namespace RecordCall

abbrev Result : RecordCall → Type
  | .plan _ _ => GovernedActionPlanningOutcome
  | .attach _ _ => GovernedActionExecutionRecord
  | .update _ _ => GovernedActionExecutionRecord

def run : (call : RecordCall) → Harness call.Result
  | .plan config request => planGovernedAction config request
  | .attach governedActionExecutionId approvalRequestId =>
    attachApprovalRequest governedActionExecutionId approvalRequestId
  | .update change events => updateGovernedActionExecution change events

/-- The record is what planning the action of this call has stored. -/
def Plans (call : RecordCall) (record : GovernedActionExecutionRecord) : Prop :=
  ∃ config request, call = .plan config request ∧
    record.governedActionExecutionId = request.governedActionExecutionId ∧
    KeepsFingerprint request.proposal record

theorem Plans.of_sameAction {call : RecordCall} {record record' : GovernedActionExecutionRecord}
    (h : call.Plans record) (hsame : SameAction record record') : call.Plans record' := by
  obtain ⟨config, request, hcall, hid, hkeeps⟩ := h
  exact ⟨config, request, hcall, hsame.id.trans hid, hkeeps.of_sameAction hsame⟩

variable {ι : Type} {answers : Answers system} {calls : ι → RecordCall} {start : Database}

/-- The record was there before, as the same action, or one of the calls has planned it. -/
def Accounted (calls : ι → RecordCall) (start : Database)
    (record : GovernedActionExecutionRecord) : Prop :=
  (∃ first ∈ start.governedActionExecutions, SameAction first record) ∨
    ∃ i, (calls i).Plans record

theorem Accounted.of_sameAction {record record' : GovernedActionExecutionRecord}
    (h : Accounted calls start record) (hsame : SameAction record record') :
    Accounted calls start record' := by
  rcases h with ⟨first, hmem, hfirst⟩ | ⟨i, hplans⟩
  · exact Or.inl ⟨first, hmem, hfirst.trans hsame⟩
  · exact Or.inr ⟨i, hplans.of_sameAction hsame⟩

/-- Every record is accounted for, and a call can rely on its records to stay the actions they
are. -/
def recordProtocol (answers : Answers system) (calls : ι → RecordCall) (start : Database) :
    Protocol system ι where
  answers := answers
  Inv := fun w => ∀ record ∈ w.state.db.governedActionExecutions, Accounted calls start record
  Rely := fun _ v w => Stays v.state.db w.state.db
  rely_refl := fun _ v => .refl v.state.db
  rely_trans := fun _ _ _ _ h h' => h.trans h'

theorem allows_of_rewrites {i : ι} {w : Shared system ι} {world : World} {events : List Event}
    (hinv : (recordProtocol answers calls start).Inv w)
    (h : Rewrites w.state.db world.db events) :
    (recordProtocol answers calls start).Allows i w (w.push i world events) := by
  refine ⟨?_, fun _ _ => h.stays⟩
  intro record' hmem'
  obtain ⟨record, hmem, hsame⟩ := h.known record' hmem'
  exact (hinv record hmem).of_sameAction hsame

theorem wp_of_rewrites {α : Type} {i : ι} {p : Harness α} (hp : p.Confined (OnDb Rewrites))
    (v : Shared system ι) :
    (recordProtocol answers calls start).wp i p (fun _ w => Stays v.state.db w.state.db) v := by
  refine Protocol.wp_of_confined hp (fun v => .refl v.state.db) (fun _ _ _ h h' => h.trans h')
    (fun _ _ _ h => h) (fun w s es hinv hA => ⟨allows_of_rewrites hinv hA.1, hA.1.stays⟩) v

/-- The planned record is in the store. -/
def Stored (call : RecordCall) (db : Database) : Prop :=
  ∃ record ∈ db.governedActionExecutions, call.Plans record

theorem Stored.of_stays {call : RecordCall} {db db' : Database} (h : call.Stored db)
    (hstays : Stays db db') : call.Stored db' := by
  obtain ⟨record, hmem, hplans⟩ := h
  obtain ⟨record', hmem', hsame⟩ := hstays record hmem
  exact ⟨record', hmem', hplans.of_sameAction hsame⟩

/-- An outcome without an error leaves the database like this. -/
def Ends {α : Type} (R : Database → Prop) : Protocol.Post system ι α
  | .ok _, w => R w.state.db
  | .error _, _ => True

theorem wp_persist {i : ι} {config : RuntimeConfig} {request : GovernedActionPlanningRequest}
    (hcall : calls i = .plan config request)
    (hshape : validateProposalShape request.proposal = .ok ()) (status : GovernedActionStatus)
    (blockedReason : Option String) (v : Shared system ι) :
    (recordProtocol answers calls start).wp i
      (persistGovernedActionExecution request (fingerprintGovernedAction request.proposal)
        (Policy.classifyGovernedActionRisk request.proposal) status blockedReason)
      (Ends (calls i).Stored) v := by
  refine wp_execute (fun w now effect hinv _ hbody => ?_) fun _ _ _ => trivial
  unfold insertRecord at hbody
  split at hbody
  · cases hbody
  · split at hbody
    · cases hbody
    · obtain rfl := Except.ok.inj hbody
      have hplans : (calls i).Plans _ :=
        ⟨config, request, hcall, rfl, plannedRow_keepsFingerprint hshape now status blockedReason⟩
      refine ⟨⟨?_, ?_⟩, ⟨_, List.mem_append_right _ (List.mem_singleton_self _), hplans⟩⟩
      · intro record hmem
        rcases List.mem_append.mp hmem with hold | hnew
        · exact hinv record hold
        · rw [List.mem_singleton.mp hnew]
          exact Or.inr ⟨i, hplans⟩
      · intro j _ record hmem
        exact ⟨record, List.mem_append_left _ hmem, .refl record⟩

theorem wp_plan {i : ι} {config : RuntimeConfig} {request : GovernedActionPlanningRequest}
    (hcall : calls i = .plan config request) (v : Shared system ι) :
    (recordProtocol answers calls start).wp i (planGovernedAction config request)
      (Ends (calls i).Stored) v := by
  unfold planGovernedAction
  refine Protocol.wp_seq (R := fun r _ => validateProposalShape request.proposal = r)
    (Protocol.wp_ofExcept.mpr rfl) (fun _ _ hshape => ?_) fun _ _ _ => trivial
  refine Protocol.wp_seq
    (wp_of_rewrites (Prog.Confined.attempt (validateGovernedActionPolicy_rewrites _ _)) _)
    (fun validation u _ => ?_) fun _ _ _ => trivial
  refine Protocol.wp_seq (wp_persist hcall hshape _ _ u) (fun _ u hstored => ?_)
    fun _ _ _ => trivial
  -- What comes after the insert reads the record back and writes other tables.
  refine Protocol.wp_mono (fun r w hstays => ?_) (wp_of_rewrites ?_ u)
  · cases r with
    | ok _ => exact hstored.of_stays hstays
    | error _ => exact trivial
  · refine Prog.Confined.bind (confined_fetchOne Rewrites.refl) fun record => ?_
    refine Prog.Confined.bind ?_ fun _ => ?_
    · unfold linkPlanningExecution
      split
      · exact Prog.confined_ret _
      · exact Prog.Confined.bind (CausalLinks.insert_confined (fun _ _ => .of_eq rfl) _)
          fun _ => Prog.confined_ret _
    · refine Prog.Confined.bind (Audit.insert_confined (fun _ _ => .of_eq rfl) _) fun _ => ?_
      split <;> exact Prog.confined_ret _

/-- What a call has done when it has ended without an error. -/
def Done (call : RecordCall) (db : Database) : Prop :=
  ∀ config request, call = .plan config request → call.Stored db

theorem wp_run {i : ι} {call : RecordCall} (hcall : calls i = call) (v : Shared system ι) :
    (recordProtocol answers calls start).wp i call.run
      (Ends call.Done) v := by
  cases call with
  | plan config request =>
    refine Protocol.wp_mono (fun r w hstored => ?_) (wp_plan hcall v)
    cases r with
    | ok _ =>
      intro _ _ _
      exact hcall ▸ hstored
    | error _ => exact trivial
  | attach id approvalRequestId =>
    refine Protocol.wp_mono (fun r w _ => ?_)
      (wp_of_rewrites (attachApprovalRequest_rewrites id approvalRequestId) v)
    cases r with
    | ok _ => exact fun _ _ h => RecordCall.noConfusion h
    | error _ => exact trivial
  | update change events =>
    refine Protocol.wp_mono (fun r w _ => ?_)
      (wp_of_rewrites (updateGovernedActionExecution_rewrites change events) v)
    cases r with
    | ok _ => exact fun _ _ h => RecordCall.noConfusion h
    | error _ => exact trivial

/-- The calls, before the first of them has started. -/
def pool (calls : ι → RecordCall) (world : World) : Config system fun i => (calls i).Result where
  threads := fun i => (calls i).run
  shared := { state := world, log := [] }

end RecordCall

open RecordCall in
/-- In every run of calls that write records, each record in the store that was not there at the
start has been planned from a well-shaped proposal by one of the calls and has kept its
fingerprint and its tier, and the record of each action that was planned is there. A proposal
whose names are written down in another way has the same fingerprint. -/
theorem stored_actions_keep_fingerprints {ι : Type} [DecidableEq ι] (answers : Answers system)
    (calls : ι → RecordCall) (world : World) {c : Config system fun i => (calls i).Result}
    (reach : Config.Reachable answers (pool calls world) c) :
    (∀ record ∈ c.shared.state.db.governedActionExecutions,
      Accounted calls world.db record) ∧
    (∀ i outcome, c.threads i = .ret outcome → (calls i).Done c.shared.state.db) ∧
    ∀ (proposal : GovernedActionProposal) (readRoots writeRoots allowVariables : List String),
      Text.SameNames proposal.capabilityScope.filesystem.readRoots readRoots →
      Text.SameNames proposal.capabilityScope.filesystem.writeRoots writeRoots →
      Text.SameNames proposal.capabilityScope.environment.allowVariables allowVariables →
      fingerprintGovernedAction
          { proposal with
              capabilityScope :=
                { proposal.capabilityScope with
                    filesystem := { readRoots := readRoots, writeRoots := writeRoots }
                    environment := { allowVariables := allowVariables } } } =
        fingerprintGovernedAction proposal := by
  have hstart : (recordProtocol answers calls world.db).Kept
      (fun i => Ends (calls i).Done)
      (pool calls world) := by
    refine Protocol.kept_of_wp ?_ fun i => ?_
    · exact fun record hmem => Or.inl ⟨record, hmem, .refl record⟩
    · have hcall : calls i = calls i := rfl
      exact wp_run hcall _
  have hkept := hstart.reachable reach
  refine ⟨hkept.1, ?_, ?_⟩
  · intro i outcome hret config request hcall
    obtain ⟨v, hstays, hdone⟩ := hkept.finished (r := .ok outcome) hret
    exact (hdone config request hcall).of_stays hstays
  · intro proposal readRoots writeRoots allowVariables hread hwrite hallow
    exact fingerprint_rearranged proposal hread hwrite hallow

/-- A fetch that asks for less than its tier, with its roots written down twice. -/
def rootsTwice : GovernedActionProposal where
  proposalId := 2
  title := "Fetch"
  rationale := none
  actionKind := .webFetch
  requestedRiskTier := some .tier0
  capabilityScope :=
    { filesystem := { readRoots := [" b", "a", "b"] }
      network := .enabled
      execution := { timeoutMs := 1000, maxStdoutBytes := 100, maxStderrBytes := 100 } }
  payload := .webFetch { url := "https://a", timeoutMs := 1000, maxResponseBytes := 100 }

/-- The fetch is planned while the record it makes is being updated. -/
def planAndUpdate : Bool → RecordCall
  | false => .plan RuntimeConfig.shipped
      { governedActionExecutionId := 1, traceId := 3, executionId := none, proposal := rootsTwice }
  | true => .update
      { governedActionExecutionId := 1
        status := .blocked
        executionId := none
        outputRef := none
        blockedReason := some "stopped"
        approvalRequestId := none
        startedAt := none
        completedAt := none } []

omit [GovernedActionServices] in
theorem stored_actions_keep_fingerprints_updated :
    letI := plainServices
    ∃ c, Config.Reachable (fun _ _ => True) (RecordCall.pool planAndUpdate {}) c ∧
      c.shared.state.db.governedActionExecutions.length = 1 ∧
      (∀ record ∈ c.shared.state.db.governedActionExecutions,
        RecordCall.Accounted planAndUpdate {} record) ∧
      fingerprintGovernedAction
          { rootsTwice with
              capabilityScope :=
                { rootsTwice.capabilityScope with
                    filesystem := { readRoots := ["a", " b", "b"] } } } =
        fingerprintGovernedAction rootsTwice := by
  let _services := plainServices
  have reach : Config.Reachable (fun _ _ => True) (RecordCall.pool planAndUpdate {})
      (Config.schedule (steady 20) (List.replicate 20 false ++ List.replicate 20 true) 0
        (RecordCall.pool planAndUpdate {})) :=
    Config.reachable_schedule (fun _ _ => trivial) _ 0 (RecordCall.pool planAndUpdate {})
  obtain ⟨haccounted, -, hsame⟩ :=
    stored_actions_keep_fingerprints (fun _ _ => True) planAndUpdate {} reach
  refine ⟨_, reach, by decide +kernel, haccounted, ?_⟩
  refine hsame rootsTwice ["a", " b", "b"] [] [] (.rel _ _ (.reordered ?_)) (.refl _) (.refl _)
  exact List.Perm.swap _ _ _

end GovernedActions

end BlueLagoon
