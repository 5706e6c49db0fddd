import BlueLagoon.Interleaving.Undisturbed
import BlueLagoon.Memory
import BlueLagoon.Succession

/-!
# The memory store under merges

A merge looks for duplicates and for its target in the newest artifacts it listed, before
its transaction. As long as every list was complete, and nobody else merged into the
subject in between, the store keeps its invariant: no two active artifacts of a subject
say the same, and the supersession links form a succession.
-/

namespace BlueLagoon

open Interleaving Harness

namespace Memory

/-- Two artifacts say the same about the same subject. -/
structure SaysSame (a b : MemoryArtifactRecord) : Prop where
  subjectRef : a.subjectRef = b.subjectRef
  artifactKind : a.artifactKind = b.artifactKind
  contentText : a.contentText = b.contentText

/-- The links of the memory artifacts. -/
abbrev Linked (rows : List MemoryArtifactRecord) : Prop :=
  Table.Succession MemoryArtifactRecord.memoryArtifactId
    MemoryArtifactRecord.supersedesArtifactId MemoryArtifactRecord.supersededByArtifactId rows

/-- What the memory store keeps. -/
structure StoreInvariant (rows : List MemoryArtifactRecord) : Prop where
  links : Linked rows
  distinct : ∀ a ∈ rows, ∀ b ∈ rows, a.status = .active → b.status = .active →
    SaysSame a b → a = b
  unreplaced : ∀ a ∈ rows, a.status = .active → a.supersededByArtifactId = none

/-! ## What a merge does to the rows -/

section Rows

variable {rows : List MemoryArtifactRecord} {new : MemoryArtifactRecord}

theorem StoreInvariant.nil : StoreInvariant [] where
  links := Table.Succession.nil
  distinct := by simp
  unreplaced := by simp

/-- No active row says what the new one says. -/
def Novel (rows : List MemoryArtifactRecord) (new : MemoryArtifactRecord) : Prop :=
  ∀ a ∈ rows, a.status = .active → ¬ SaysSame a new

theorem SaysSame.symm {a b : MemoryArtifactRecord} (h : SaysSame a b) : SaysSame b a :=
  ⟨h.subjectRef.symm, h.artifactKind.symm, h.contentText.symm⟩

private theorem distinct_append (h : StoreInvariant rows) (novel : Novel rows new) :
    ∀ a ∈ rows ++ [new], ∀ b ∈ rows ++ [new], a.status = .active → b.status = .active →
      SaysSame a b → a = b := by
  intro a ha b hb hactive hactive' hsame
  rcases List.mem_append.mp ha with hold | hlast <;>
    rcases List.mem_append.mp hb with hold' | hlast'
  · exact h.distinct a hold b hold' hactive hactive' hsame
  · rw [List.mem_singleton.mp hlast'] at hsame
    exact absurd hsame (novel a hold hactive)
  · rw [List.mem_singleton.mp hlast] at hsame
    exact absurd hsame.symm (novel b hold' hactive')
  · rw [List.mem_singleton.mp hlast, List.mem_singleton.mp hlast']

/-- A new artifact of its own. -/
theorem StoreInvariant.insert (h : StoreInvariant rows) (novel : Novel rows new)
    (fresh : ∀ a ∈ rows, a.memoryArtifactId ≠ new.memoryArtifactId)
    (hprev : new.supersedesArtifactId = none) (hnext : new.supersededByArtifactId = none) :
    StoreInvariant (rows ++ [new]) where
  links := h.links.append fresh hprev hnext
  distinct := distinct_append h novel
  unreplaced := by
    intro a ha hactive
    rcases List.mem_append.mp ha with hold | hlast
    · exact h.unreplaced a hold hactive
    · rw [List.mem_singleton.mp hlast]
      exact hnext

/-- A new artifact that replaces an active one. -/
theorem StoreInvariant.supersede (h : StoreInvariant rows) (novel : Novel rows new)
    (fresh : ∀ a ∈ rows, a.memoryArtifactId ≠ new.memoryArtifactId)
    {old : MemoryArtifactRecord} (hold : old ∈ rows) (hactive : old.status = .active)
    (hprev : new.supersedesArtifactId = some old.memoryArtifactId)
    (hnext : new.supersededByArtifactId = none) (supersededAt now : DateTime) :
    StoreInvariant (Table.update (fun row => row.memoryArtifactId = old.memoryArtifactId)
      (Continuity.memoryArtifactSuperseded new.memoryArtifactId supersededAt now)
      (rows ++ [new])) := by
  -- An active row of the new table is a row of the old one, or the new row.
  have hkept : ∀ a ∈ Table.update (fun row => row.memoryArtifactId = old.memoryArtifactId)
      (Continuity.memoryArtifactSuperseded new.memoryArtifactId supersededAt now)
      (rows ++ [new]), a.status = .active → a ∈ rows ++ [new] := by
    intro a ha hstatus
    rcases Table.mem_update.mp ha with ⟨hmem, -⟩ | ⟨a, -, -, rfl⟩
    · exact hmem
    · cases hstatus
  refine ⟨?_, ?_, ?_⟩
  · refine h.links.replace fresh hold (h.unreplaced old hold hactive) hprev hnext ?_ ?_ ?_
    · exact fun _ => rfl
    · exact fun _ => rfl
    · exact fun _ => rfl
  · intro a ha b hb ha' hb' hsame
    exact distinct_append h novel a (hkept a ha ha') b (hkept b hb hb') ha' hb' hsame
  · intro a ha ha'
    rcases List.mem_append.mp (hkept a ha ha') with hrow | hlast
    · exact h.unreplaced a hrow ha'
    · rw [List.mem_singleton.mp hlast]
      exact hnext

end Rows

/-! ## What a plan has made sure of -/

section Plan

variable {proposal : CanonicalProposal} {activeArtifacts : List MemoryArtifactRecord}

/-- The listed artifacts do not say what the payload says. -/
def NovelAmong (activeArtifacts : List MemoryArtifactRecord) (proposal : CanonicalProposal)
    (payload : MemoryArtifactProposal) : Prop :=
  activeArtifacts.any (isDuplicate proposal payload) = false

theorem planMemoryMerge_writes (h : ∀ reason,
    planMemoryMerge proposal activeArtifacts ≠ .reject reason) :
    ∃ payload, proposal.payload = .memoryArtifact payload ∧
      NovelAmong activeArtifacts proposal payload ∧
      planMemoryMerge proposal activeArtifacts = planPosture proposal activeArtifacts := by
  unfold planMemoryMerge at h ⊢
  split
  · rename_i hkind
    rw [if_pos hkind] at h
    exact absurd rfl (h _)
  rename_i hkind
  rw [if_neg hkind] at h
  split at h
  · rename_i payload hpayload
    rw [hpayload]
    split
    · rename_i hduplicate
      rw [if_pos hduplicate] at h
      exact absurd rfl (h _)
    · rename_i hnovel
      exact ⟨payload, rfl, by simpa [NovelAmong] using hnovel, rfl⟩
  · exact absurd rfl (h _)

theorem planPosture_insertNew (h : planPosture proposal activeArtifacts = .insertNew) :
    proposal.conflictPosture = .independent := by
  unfold planPosture at h
  split at h
  · assumption
  · cases h
  all_goals
    split at h
    · cases h
    · split at h
      · cases h
      · split at h <;> cases h

theorem planPosture_supersede {target : Uuid}
    (h : planPosture proposal activeArtifacts = .supersede target) :
    proposal.supersedesArtifactId = some target ∧
      ∃ old ∈ activeArtifacts, old.memoryArtifactId = target ∧
        old.subjectRef = proposal.subjectRef := by
  unfold planPosture at h
  split at h
  · cases h
  · cases h
  all_goals
    split at h
    · cases h
    · rename_i found hfound
      split at h
      · cases h
      · rename_i old hold
        split at h
        · cases h
        · rename_i hsubject
          obtain rfl := MemoryMergePlan.supersede.inj h
          exact ⟨hfound, old, Table.mem_of_find hold, Table.key_of_find hold, by
            simpa using hsubject⟩

/-- A rejection for want of the target says that no listed artifact is the target. -/
theorem planMemoryMerge_targetMissing
    (h : planMemoryMerge proposal activeArtifacts = .reject targetMissing) {target : Uuid}
    (htarget : proposal.supersedesArtifactId = some target) :
    ∀ a ∈ activeArtifacts, a.memoryArtifactId ≠ target := by
  have hposture : planPosture proposal activeArtifacts = .reject targetMissing := by
    unfold planMemoryMerge at h
    split at h
    · simp [targetMissing] at h
    split at h
    · split at h
      · simp [targetMissing] at h
      · exact h
    · simp [targetMissing] at h
  have hfind : Table.find MemoryArtifactRecord.memoryArtifactId target activeArtifacts = none := by
    unfold planPosture at hposture
    split at hposture
    · cases hposture
    · simp [targetMissing] at hposture
    all_goals
      rw [htarget] at hposture
      dsimp only at hposture
      split at hposture
      · assumption
      · split at hposture
        · simp [targetMissing] at hposture
        · cases hposture
  intro a ha hid
  have hsome : (Table.find MemoryArtifactRecord.memoryArtifactId a.memoryArtifactId
      activeArtifacts).isSome := Table.find_isSome_of_mem ha
  rw [hid, hfind] at hsome
  cases hsome

/-- A validated proposal of its own names nothing to replace. -/
theorem supersedes_none_of_independent
    (hvalid : (Proposal.validateProposal proposal).outcome = .accepted)
    (hposture : proposal.conflictPosture = .independent) :
    proposal.supersedesArtifactId = none := by
  have hcheck : Proposal.validateConflictPosture proposal = none := by
    unfold Proposal.validateProposal at hvalid
    repeat' split at hvalid
    all_goals first | assumption | cases hvalid
  unfold Proposal.validateConflictPosture at hcheck
  rw [hposture] at hcheck
  simpa using hcheck

end Plan

/-! ## The discipline of merges -/

/-- A scan observes the artifacts of its subject, and a merge writes them. A scan is good
when it met no more active artifacts than it lists. -/
def footprint : Footprint system where
  Part := String
  Observes event subjectRef := ∃ active, event = .memoryScanned subjectRef active
  Writes event subjectRef := ∃ memoryArtifactId, event = .memoryMerged subjectRef memoryArtifactId
  Fine event := ∀ subjectRef active, event = .memoryScanned subjectRef active →
    active.length ≤ activeMemoryScanLimit

/-- The artifacts of a subject. -/
def view (subjectRef : String) (w : World) : List MemoryArtifactRecord :=
  w.db.memoryArtifacts.filter fun row => row.subjectRef = subjectRef

section Discipline

variable {ι : Type}

/-- The protocol of merges. -/
abbrev merges (answers : Answers system) : Protocol system ι :=
  footprint.protocol view answers fun v => StoreInvariant v.state.db.memoryArtifacts

/-- An action that does not touch the memory artifacts. -/
abbrev Elsewhere : World → World → List Event → Prop :=
  OnDb fun db db' events => db'.memoryArtifacts = db.memoryArtifacts ∧ events = []

theorem elsewhere_refl (db : Database) :
    db.memoryArtifacts = db.memoryArtifacts ∧ ([] : List Event) = [] :=
  ⟨rfl, rfl⟩

theorem rejectMerge_elsewhere (proposalId : Uuid) (reason : String) :
    (Continuity.rejectMerge proposalId reason).Confined Elsewhere := by
  refine Prog.Confined.bind (confined_execute elsewhere_refl ?_) fun _ => Prog.confined_ret _
  intro now db effect hbody
  obtain rfl := Except.ok.inj hbody
  exact ⟨rfl, rfl⟩

variable {answers : Answers system} {i : ι} {v w : Shared system ι}

theorem wp_elsewhere {α : Type} {p : Harness α} (hp : p.Confined Elsewhere)
    (v : Shared system ι) :
    (merges answers).wp i p (fun _ w => footprint.Unseen view i v w) v := by
  refine Footprint.wp_of_quiet hp ?_ ?_ v
  · rintro s s' events ⟨⟨hrows, rfl⟩, -⟩
    refine ⟨rfl, fun subjectRef => ?_⟩
    simp only [view, hrows]
  · rintro w s hinvariant ⟨⟨hrows, -⟩, -⟩
    rw [Shared.push_state, hrows]
    exact hinvariant

/-- The scan of a subject, and everything it left out. -/
structure Scanned (i : ι) (proposal : CanonicalProposal)
    (activeArtifacts : List MemoryArtifactRecord) (v : Shared system ι) : Prop where
  listed : activeArtifacts =
    Continuity.newestMemory proposal.subjectRef activeMemoryScanLimit v.state.db
  logged : (i, Event.memoryScanned proposal.subjectRef
    ((Continuity.activeMemory proposal.subjectRef v.state.db).map
      MemoryArtifactRecord.memoryArtifactId)) ∈ v.log

/-- A good scan lists all active artifacts of the subject. -/
theorem Scanned.mem_iff {proposal : CanonicalProposal}
    {activeArtifacts : List MemoryArtifactRecord} (h : Scanned i proposal activeArtifacts v)
    (hfine : ∀ entry ∈ v.log, footprint.Fine entry.2) {a : MemoryArtifactRecord} :
    a ∈ activeArtifacts ↔ a ∈ view proposal.subjectRef v.state ∧ a.status = .active := by
  have hlength : ((Continuity.activeMemory proposal.subjectRef v.state.db).insertionSort
      Continuity.newerMemory).length ≤ activeMemoryScanLimit := by
    rw [List.length_insertionSort]
    simpa using hfine _ h.logged _ _ rfl
  rw [h.listed, Continuity.newestMemory, List.take_of_length_le hlength, List.mem_insertionSort]
  simp only [Continuity.activeMemory, view, List.mem_filter, Bool.and_eq_true, decide_eq_true_eq]
  constructor
  · rintro ⟨hmem, hactive, hsubject⟩
    exact ⟨⟨hmem, hsubject⟩, hactive⟩
  · rintro ⟨⟨hmem, hsubject⟩, hactive⟩
    exact ⟨hmem, hactive, hsubject⟩

/-- The row as the transaction stores it. -/
def stamped (now : DateTime) (row : MemoryArtifactRecord) : MemoryArtifactRecord :=
  { row with createdAt := now, updatedAt := now }

/-- What the transaction of a merge leaves of the memory artifacts. -/
theorem writeArtifact_eq_ok {row : MemoryArtifactRecord} {target : Option Uuid}
    {supersededAt now : DateTime} {db db' : Database}
    (h : writeArtifact row target supersededAt now db = .ok db') :
    (∀ a ∈ db.memoryArtifacts, a.memoryArtifactId ≠ row.memoryArtifactId) ∧
      (target = none ∧ db'.memoryArtifacts = db.memoryArtifacts ++ [stamped now row] ∨
        ∃ t, target = some t ∧ db'.memoryArtifacts =
          Table.update (fun a => a.memoryArtifactId = t)
            (Continuity.memoryArtifactSuperseded row.memoryArtifactId supersededAt now)
            (db.memoryArtifacts ++ [stamped now row])) := by
  unfold writeArtifact at h
  simp only [Continuity.insertMemoryArtifact, bind, Except.bind] at h
  split at h
  · cases h
  rename_i inserted hinserted
  rw [Continuity.guarded_eq_ok] at hinserted
  obtain ⟨hviolation, rfl⟩ := hinserted
  refine ⟨?_, ?_⟩
  · rw [Database.memoryArtifactViolation, Database.firstBroken_eq_none] at hviolation
    simpa using hviolation (db.memoryArtifacts.all fun other =>
      other.memoryArtifactId ≠ row.memoryArtifactId, "memory_artifacts_pkey") (by simp)
  cases target with
  | none =>
    obtain rfl := Except.ok.inj h
    exact Or.inl ⟨rfl, rfl⟩
  | some t =>
    simp only [Continuity.markMemoryArtifactSuperseded] at h
    split at h
    · cases h
    rename_i replaced hreplaced
    rw [Continuity.guarded_eq_ok] at hreplaced
    obtain ⟨-, rfl⟩ := hreplaced
    obtain rfl := Except.ok.inj h
    exact Or.inr ⟨t, rfl, rfl⟩

/-- What a merge knows when its transaction commits: the plan is still up to date. -/
structure UpToDate (db : Database) (proposal : CanonicalProposal)
    (payload : MemoryArtifactProposal) (target : Option Uuid) : Prop where
  novel : ∀ a ∈ db.memoryArtifacts, a.status = .active → a.subjectRef = proposal.subjectRef →
    a.artifactKind = payload.artifactKind → a.contentText ≠ payload.contentText
  named : target = proposal.supersedesArtifactId
  old : ∀ t, target = some t → ∃ old ∈ db.memoryArtifacts, old.memoryArtifactId = t ∧
    old.subjectRef = proposal.subjectRef ∧ old.status = .active

section Write

variable {context : ProposalProcessingContext} {proposal : CanonicalProposal}
  {payload : MemoryArtifactProposal} {id : Uuid} {supersededAt now : DateTime}
  {db db' : Database} {target : Option Uuid}

/-- The transaction of a merge keeps the invariant when the plan is up to date. -/
theorem writeArtifact_invariant (hinvariant : StoreInvariant db.memoryArtifacts)
    (hplan : UpToDate db proposal payload target)
    (hwrite : writeArtifact (artifactRow context proposal payload id) target supersededAt now db =
      .ok db') : StoreInvariant db'.memoryArtifacts := by
  obtain ⟨hfresh, hrows⟩ := writeArtifact_eq_ok hwrite
  have hnovel : Novel db.memoryArtifacts
      (stamped now (artifactRow context proposal payload id)) := by
    rintro a ha hactive ⟨hsubject, hkind, hcontent⟩
    exact hplan.novel a ha hactive hsubject hkind hcontent
  have hprev : (stamped now (artifactRow context proposal payload id)).supersedesArtifactId =
      target := hplan.named.symm
  rcases hrows with ⟨rfl, hrows⟩ | ⟨t, rfl, hrows⟩
  · rw [hrows]
    exact hinvariant.insert hnovel hfresh hprev rfl
  · obtain ⟨old, hold, rfl, -, hactive⟩ := hplan.old t rfl
    rw [hrows]
    exact hinvariant.supersede hnovel hfresh hold hactive hprev rfl supersededAt now

/-- The transaction of a merge writes no other subject. -/
theorem writeArtifact_frame (hkeys : (db.memoryArtifacts.map
      MemoryArtifactRecord.memoryArtifactId).Nodup)
    (hplan : UpToDate db proposal payload target)
    (hwrite : writeArtifact (artifactRow context proposal payload id) target supersededAt now db =
      .ok db') {subjectRef : String} (hne : subjectRef ≠ proposal.subjectRef) :
    (db'.memoryArtifacts.filter fun row => row.subjectRef = subjectRef) =
      db.memoryArtifacts.filter fun row => row.subjectRef = subjectRef := by
  obtain ⟨-, hrows⟩ := writeArtifact_eq_ok hwrite
  have hnew : (stamped now (artifactRow context proposal payload id)).subjectRef ≠ subjectRef :=
    fun heq => hne heq.symm
  have happend : ((db.memoryArtifacts ++ [stamped now (artifactRow context proposal payload id)]).filter
      fun row => row.subjectRef = subjectRef) =
      db.memoryArtifacts.filter fun row => row.subjectRef = subjectRef := by
    rw [List.filter_append]
    simp [hnew]
  rcases hrows with ⟨-, hrows⟩ | ⟨t, rfl, hrows⟩
  · rw [hrows, happend]
  · obtain ⟨old, hold, rfl, hsubject, -⟩ := hplan.old t rfl
    have hkept : ∀ (successor : Uuid) (a : MemoryArtifactRecord),
        decide ((Continuity.memoryArtifactSuperseded successor supersededAt now a).subjectRef =
          subjectRef) = decide (a.subjectRef = subjectRef) := fun _ _ => rfl
    rw [hrows, Table.filter_update_of_false ?_ (hkept _), happend]
    intro a ha hid
    have hid : a.memoryArtifactId = old.memoryArtifactId := by simpa using hid
    rcases List.mem_append.mp ha with hstored | hlast
    · rw [Table.eq_of_mem_of_key hkeys hstored hold hid, hsubject]
      simpa using hne.symm
    · rw [List.mem_singleton.mp hlast]
      simpa using hnew

end Write

/-! ## A merge keeps the discipline -/

section Merge

variable {context : ProposalProcessingContext} {proposal : CanonicalProposal}

/-- The branch that writes, on what the scan has shown. -/
theorem wp_mergeIntoStore {activeArtifacts : List MemoryArtifactRecord}
    {payload : MemoryArtifactProposal} {target : Option Uuid}
    (hscanned : Scanned i proposal activeArtifacts v)
    (hpayload : proposal.payload = .memoryArtifact payload)
    (hnovel : NovelAmong activeArtifacts proposal payload)
    (htarget : target = proposal.supersedesArtifactId)
    (hold : ∀ t, target = some t → ∃ old ∈ activeArtifacts, old.memoryArtifactId = t) :
    (merges answers).wp i (mergeIntoStore context proposal target)
      (fun r _ => ∀ evaluation, r = .ok evaluation → evaluation.reason ≠ targetMissing) v := by
  have hunseen : footprint.Unseen view i v v := Footprint.Unseen.refl
  refine Protocol.wp_seq (wp_elsewhere (confined_newUuid elsewhere_refl) v)
    (fun memoryArtifactId w₁ h₁ => ?_) (fun e w h => by rintro evaluation ⟨⟩)
  have hstored : memoryPayload proposal = .ret payload := by
    rw [memoryPayload, hpayload]
    rfl
  simp only [hstored, Prog.bind_eq, Prog.ret_bind]
  refine Protocol.wp_seq (wp_elsewhere (confined_utcNow elsewhere_refl) w₁)
    (fun supersededAt w₂ h₂ => ?_) (fun e w h => by rintro evaluation ⟨⟩)
  refine Protocol.wp_seq (R := fun r w => True) (wp_inTransaction ?_ fun _ _ _ => trivial)
    (fun _ w _ => ?_) (fun e w h => by rintro evaluation ⟨⟩)
  · intro w now effect hinv h₃ hbody
    refine ⟨?_, trivial⟩
    have hseen : footprint.Unseen view i v w := (h₁.trans h₂).trans h₃
    obtain ⟨db', hwrite, rfl⟩ : ∃ db', writeArtifact
        (artifactRow context proposal payload memoryArtifactId) target supersededAt now w.state.db =
          .ok db' ∧ effect = { value := (), db := db', events :=
            [.memoryMerged proposal.subjectRef memoryArtifactId] } := by
      cases hresult : writeArtifact (artifactRow context proposal payload memoryArtifactId) target
          supersededAt now w.state.db with
      | error e =>
        simp only [hresult] at hbody
        cases hbody
      | ok db' =>
        simp only [hresult] at hbody
        exact ⟨db', rfl, (Except.ok.inj hbody).symm⟩
    refine Footprint.allows fun horderly => ?_
    have hwrites : footprint.Writes (.memoryMerged proposal.subjectRef memoryArtifactId)
        proposal.subjectRef := ⟨memoryArtifactId, rfl⟩
    have horderly' : footprint.Orderly (w.log ++
        [(i, .memoryMerged proposal.subjectRef memoryArtifactId)]) := horderly
    -- What was listed is what is there.
    have hview := hseen.current horderly' hwrites
    have hfine : ∀ entry ∈ v.log, footprint.Fine entry.2 := fun entry hentry =>
      horderly'.fine entry (List.mem_append_left _ (hseen.log_prefix.subset hentry))
    have hmem : ∀ a, a ∈ activeArtifacts ↔ (a ∈ w.state.db.memoryArtifacts ∧
        a.subjectRef = proposal.subjectRef) ∧ a.status = .active := by
      intro a
      rw [hscanned.mem_iff hfine, ← hview]
      simp [view]
    have hplan : UpToDate w.state.db proposal payload target := by
      refine ⟨?_, htarget, ?_⟩
      · intro a ha hactive hsubject hkind hcontent
        have hdup := List.any_eq_false.mp hnovel a ((hmem a).mpr ⟨⟨ha, hsubject⟩, hactive⟩)
        simp only [isDuplicate, Bool.and_eq_true, decide_eq_true_eq, not_and] at hdup
        exact hdup ⟨hkind, hsubject⟩ hcontent
      · intro t ht
        obtain ⟨old, hlisted, hid⟩ := hold t ht
        obtain ⟨⟨hstored, hsubject⟩, hactive⟩ := (hmem old).mp hlisted
        exact ⟨old, hstored, hid, hsubject, hactive⟩
    have hinvariant := hinv horderly'.of_append
    refine ⟨writeArtifact_invariant hinvariant hplan hwrite, fun subjectRef hquiet => ?_⟩
    refine writeArtifact_frame hinvariant.links.keys hplan hwrite fun heq => ?_
    exact hquiet _ (List.mem_singleton.mpr rfl) (heq ▸ hwrites)
  · rintro evaluation hevaluation
    obtain rfl := Except.ok.inj hevaluation
    show "memory proposal merged into canonical store" ≠ targetMissing
    decide

/-- A proposal that is turned down for want of its target: the target was not among the
active artifacts of the subject when the merge listed them. -/
def JustifiedTargetMissing [DecidableEq ι] (i : ι) (proposal : CanonicalProposal) :
    Protocol.Post system ι ProposalEvaluation := fun r w =>
  ∀ evaluation, r = .ok evaluation → evaluation.reason = targetMissing →
    footprint.Orderly w.log → ∀ subjectRef active,
      .memoryScanned subjectRef active ∈ w.eventsOf i → ∀ target,
        proposal.supersedesArtifactId = some target → target ∉ active

theorem returns_rejectMerge (proposalId : Uuid) (reason : String) :
    (Continuity.rejectMerge proposalId reason).Returns fun evaluation =>
      evaluation.reason = reason := by
  refine Prog.Returns.bind (Prog.Returns.any _) fun _ _ => ?_
  exact rfl

variable [DecidableEq ι]

/-- Nothing was listed, so nothing was missed. -/
theorem justified_of_silent {r : Except ErrorChain ProposalEvaluation}
    (hsilent : w.eventsOf i = []) : JustifiedTargetMissing i proposal r w := by
  intro evaluation _ _ _ subjectRef active hmem
  rw [hsilent] at hmem
  cases hmem

/-- A merge says that its target is missing only where the target was not among the active artifacts
it had listed. -/
theorem wp_applyMemoryProposalMerge (hsilent : v.eventsOf i = []) :
    (merges answers).wp i (applyMemoryProposalMerge context proposal)
      (JustifiedTargetMissing i proposal) v := by
  unfold applyMemoryProposalMerge
  dsimp only
  split
  · refine Protocol.wp_mono (fun r w h => justified_of_silent ?_)
      (wp_elsewhere (rejectMerge_elsewhere _ _) v)
    rw [h.eventsOf, hsilent]
  rename_i hvalidation
  have hvalid : (Proposal.validateProposal proposal).outcome = .accepted := by
    cases h : (Proposal.validateProposal proposal).outcome with
    | accepted => rfl
    | rejected => exact absurd h hvalidation
  -- What the scan leaves: its result, and the thread's only event.
  refine Protocol.wp_seq (R := fun r w => match r with
    | .ok activeArtifacts => Scanned i proposal activeArtifacts w ∧ w.eventsOf i =
        [.memoryScanned proposal.subjectRef
          ((Continuity.activeMemory proposal.subjectRef w.state.db).map
            MemoryArtifactRecord.memoryArtifactId)]
    | .error _ => w.eventsOf i = []) (wp_transaction ?_ ?_) ?_ ?_
  · intro w now effect hinv hseen hbody
    obtain rfl := Except.ok.inj hbody
    have hevents : w.eventsOf i = [] := by rw [hseen.eventsOf, hsilent]
    refine ⟨Footprint.allows fun horderly => ⟨?_, fun _ _ => rfl⟩, ⟨rfl, ?_⟩, ?_⟩
    · exact hinv horderly.of_append
    · exact List.mem_append_right _ (List.mem_singleton.mpr rfl)
    · rw [Shared.eventsOf_push_self, hevents]
      rfl
  · intro w e hseen
    show w.eventsOf i = []
    rw [hseen.eventsOf, hsilent]
  · rintro activeArtifacts w ⟨hscanned, hevents⟩
    by_cases hplan : ∀ reason, planMemoryMerge proposal activeArtifacts ≠ .reject reason
    · obtain ⟨payload, hpayload, hnovel, hposture⟩ := planMemoryMerge_writes hplan
      have hwritten : ∀ target, target = proposal.supersedesArtifactId →
          (∀ t, target = some t → ∃ old ∈ activeArtifacts, old.memoryArtifactId = t) →
          (merges answers).wp i (mergeIntoStore context proposal target)
            (JustifiedTargetMissing i proposal) w := by
        intro target hnamed hold
        refine Protocol.wp_mono (fun r w h evaluation hr hreason => ?_)
          (wp_mergeIntoStore hscanned hpayload hnovel hnamed hold)
        exact absurd hreason (h evaluation hr)
      split
      · rename_i reason hreject
        exact absurd hreject (hplan reason)
      · rename_i hinsert
        have hnone := supersedes_none_of_independent hvalid
          (planPosture_insertNew (hposture.symm.trans hinsert))
        exact hwritten none hnone.symm (by rintro t ⟨⟩)
      · rename_i target hsupersede
        obtain ⟨hnamed, old, hlisted, hid, -⟩ :=
          planPosture_supersede (hposture.symm.trans hsupersede)
        refine hwritten (some target) hnamed.symm ?_
        rintro t ⟨⟩
        exact ⟨old, hlisted, hid⟩
    · -- The plan turns the proposal down, on the list that was logged.
      obtain ⟨reason, hreject⟩ := not_forall_not.mp hplan
      rw [hreject]
      refine Protocol.wp_mono ?_ (Protocol.wp_returns (returns_rejectMerge _ _)
        (wp_elsewhere (rejectMerge_elsewhere _ _) w))
      rintro r w' ⟨hreturned, hseen⟩ evaluation hr hreason horderly subjectRef active hmem target
        htarget
      rw [hseen.eventsOf, hevents, List.mem_singleton] at hmem
      obtain ⟨rfl, rfl⟩ := Event.memoryScanned.inj hmem
      have hmissing : reason = targetMissing := by rw [← hreturned evaluation hr, hreason]
      rw [hmissing] at hreject
      intro hlisted
      obtain ⟨a, ha, hid⟩ := List.mem_map.mp hlisted
      have hfine : ∀ entry ∈ w.log, footprint.Fine entry.2 := fun entry hentry =>
        horderly.fine entry (hseen.log_prefix.subset hentry)
      have hactive : a ∈ activeArtifacts := by
        rw [hscanned.mem_iff hfine]
        have hfiltered := List.mem_filter.mp ha
        simp only [Bool.and_eq_true, decide_eq_true_eq] at hfiltered
        exact ⟨by simpa [view] using ⟨hfiltered.1, hfiltered.2.2⟩, hfiltered.2.1⟩
      exact planMemoryMerge_targetMissing hreject htarget a hactive hid
  · intro e w hevents
    exact justified_of_silent hevents

end Merge

/-! ## Pools of merges -/

/-- Merges that are about to start; one after the other or all at once. -/
def start (context : ι → ProposalProcessingContext) (proposal : ι → CanonicalProposal)
    (w : World) : Config system fun _ : ι => ProposalEvaluation where
  threads i := applyMemoryProposalMerge (context i) (proposal i)
  shared := { state := w }

/-- The memory store as its readers expect it. -/
structure MemoryStoreSound (rows : List MemoryArtifactRecord) : Prop where
  ids : (rows.map MemoryArtifactRecord.memoryArtifactId).Nodup
  distinct : ∀ a ∈ rows, ∀ b ∈ rows, a.status = .active → b.status = .active →
    SaysSame a b → a = b
  inverse : ∀ a ∈ rows, ∀ b ∈ rows, a.supersedesArtifactId = some b.memoryArtifactId ↔
    b.supersededByArtifactId = some a.memoryArtifactId
  acyclic : ∀ a, ¬ Relation.TransGen
    (Table.Replaces MemoryArtifactRecord.memoryArtifactId
      MemoryArtifactRecord.supersedesArtifactId rows) a a
  oneSuccessor : ∀ a ∈ rows, ∀ b ∈ rows, ∀ id, a.supersedesArtifactId = some id →
    b.supersedesArtifactId = some id → a = b

theorem StoreInvariant.sound {rows : List MemoryArtifactRecord} (h : StoreInvariant rows) :
    MemoryStoreSound rows where
  ids := h.links.keys
  distinct := h.distinct
  inverse := h.links.inverse
  acyclic := h.links.acyclic
  oneSuccessor _ ha _ hb _ hak hbk := h.links.eq_of_prev_eq ha hb hak hbk

/-- As long as every scan is complete and no other merge writes a subject between the scan and
the transaction of a merge, the memory store is sound, and no proposal is turned down for want
of a target that was active when it was looked for. -/
theorem memory_store_sound_of_orderly [DecidableEq ι]
    (context : ι → ProposalProcessingContext) (proposal : ι → CanonicalProposal)
    (answers : Answers system) (w : World) (empty : w.db.memoryArtifacts = [])
    {c : Config system fun _ : ι => ProposalEvaluation}
    (reach : Config.Reachable answers (start context proposal w) c)
    (orderly : footprint.Orderly c.shared.log) :
    MemoryStoreSound c.shared.state.db.memoryArtifacts ∧
      ∀ i evaluation, c.threads i = .ret evaluation → evaluation.reason = targetMissing →
        ∀ subjectRef active, (i, .memoryScanned subjectRef active) ∈ c.shared.log →
          ∀ target, (proposal i).supersedesArtifactId = some target → target ∉ active := by
  have hkept : (merges answers).Kept (fun i => JustifiedTargetMissing i (proposal i)) c := by
    refine Protocol.Kept.reachable (Protocol.kept_of_wp (fun _ => ?_) fun i => ?_) reach
    · show StoreInvariant w.db.memoryArtifacts
      rw [empty]
      exact StoreInvariant.nil
    · exact wp_applyMemoryProposalMerge rfl
  refine ⟨(hkept.1 orderly).sound, ?_⟩
  intro i evaluation hended hreason subjectRef active hmem
  obtain ⟨v, hseen, hjustified⟩ := hkept.finished (r := .ok evaluation) hended
  have horderly : footprint.Orderly v.log := by
    obtain ⟨new, hlog, -⟩ := hseen
    rw [hlog] at orderly
    exact orderly.of_append
  refine hjustified evaluation rfl hreason horderly subjectRef active ?_
  rw [← Footprint.Unseen.eventsOf hseen]
  exact Shared.mem_eventsOf.mpr hmem

end Discipline

/-! ## Two merges of the same observation -/

def observation (proposalId : Uuid) : CanonicalProposal where
  proposalId := proposalId
  proposalKind := .memoryArtifact
  canonicalTarget := .memoryArtifacts
  confidencePct := 88
  conflictPosture := .independent
  subjectRef := "user:primary"
  rationale := none
  validFrom := none
  validTo := none
  supersedesArtifactId := none
  provenance := { provenanceKind := .episodeObservation, sourceIngressIds := [4], sourceEpisodeId := none }
  payload := .memoryArtifact { artifactKind := "preference", contentText := "Prefers concise replies." }

/-- The proposals as they are recorded. -/
def recordedProposal (proposalId : Uuid) : ProposalRecord where
  proposalId := proposalId
  traceId := 2
  executionId := 3
  episodeId := none
  sourceIngressId := none
  sourceLoopKind := "conscious"
  proposalKind := .memoryArtifact
  canonicalTarget := .memoryArtifacts
  status := "accepted"
  confidence := 88
  conflictPosture := .independent
  subjectRef := "user:primary"
  contentText := "Prefers concise replies."
  rationale := none
  validFrom := none
  validTo := none
  supersedesArtifactId := none
  supersedesArtifactKind := none

def sampleContext : ProposalProcessingContext where
  traceId := 2
  executionId := 3
  episodeId := none
  sourceIngressId := none
  sourceLoopKind := "conscious"

/-- Two proposals of the same content are recorded, and no artifact is stored. -/
def bothRecorded : World where
  db :=
    { executionRecords := [{ executionId := 3, traceId := 2, triggerKind := "t", status := "started" }]
      proposals := [recordedProposal 20, recordedProposal 21] }

def bothMerges : Config system fun _ : Bool => ProposalEvaluation :=
  start (fun _ => sampleContext) (fun second => observation (if second then 21 else 20)) bothRecorded

/-- Both scans, then both transactions. -/
def scansFirst : List Bool :=
  List.replicate 2 false ++ List.replicate 2 true ++ List.replicate 6 false ++ List.replicate 6 true

/-- Merges of one subject: of an observation, of the same observation again, of what supersedes
it, and of what would supersede it too. -/
inductive Merger
  | first
  | duplicate
  | superseding
  | late
  deriving DecidableEq, Repr

/-- A proposal to put another content in the place of the artifact 2. -/
def replacement (proposalId : Uuid) (contentText : String) : CanonicalProposal :=
  { observation proposalId with
    conflictPosture := .supersedes
    supersedesArtifactId := some 2
    payload := .memoryArtifact { artifactKind := "preference", contentText := contentText } }

def Merger.proposal : Merger → CanonicalProposal
  | .first => observation 20
  | .duplicate => observation 21
  | .superseding => replacement 22 "Prefers long replies."
  | .late => replacement 23 "Prefers short replies."

/-- Four proposals are recorded, and no artifact is stored. -/
def allRecorded : World where
  db :=
    { executionRecords := [{ executionId := 3, traceId := 2, triggerKind := "t", status := "started" }]
      proposals := [recordedProposal 20, recordedProposal 21, recordedProposal 22,
        recordedProposal 23] }

def allMerges : Config system fun _ : Merger => ProposalEvaluation :=
  start (fun _ => sampleContext) Merger.proposal allRecorded

/-- The merges one after the other. -/
def oneByOne : List Merger :=
  List.replicate 8 .first ++ List.replicate 6 .duplicate ++ List.replicate 9 .superseding ++
    List.replicate 6 .late

/-- The duplicate is turned down, the first artifact is superseded once, and the last proposal
finds that its target is no longer active. -/
theorem memory_store_sound_of_orderly_oneByOne :
    ∃ c, Config.Reachable (fun _ _ => True) allMerges c ∧
      c.shared.state.db.memoryArtifacts.map (fun row =>
        (row.memoryArtifactId, row.supersedesArtifactId)) = [(2, none), (16, some 2)] ∧
      MemoryStoreSound c.shared.state.db.memoryArtifacts ∧
      ∀ subjectRef active, (Merger.late, .memoryScanned subjectRef active) ∈ c.shared.log →
        2 ∉ active := by
  have reach : Config.Reachable (fun _ _ => True) allMerges
      (Config.schedule (steady 5) oneByOne 0 allMerges) :=
    Config.reachable_schedule (fun _ _ => trivial) oneByOne 0 allMerges
  have hlog : (Config.schedule (steady 5) oneByOne 0 allMerges).shared.log =
      [] ++ [(.first, .memoryScanned "user:primary" [])] ++
        [(.first, .memoryMerged "user:primary" 2)] ++
        [(.duplicate, .memoryScanned "user:primary" [2])] ++
        [(.superseding, .memoryScanned "user:primary" [2])] ++
        [(.superseding, .memoryMerged "user:primary" 16)] ++
        [(.late, .memoryScanned "user:primary" [16])] := by
    decide +kernel
  have horderly : footprint.Orderly
      (Config.schedule (steady 5) oneByOne 0 allMerges).shared.log := by
    rw [hlog]
    refine ⟨?_, ?_⟩
    · refine (((((Footprint.undisturbed_nil.append ?_).append ?_).append ?_).append ?_).append
        ?_).append ?_
      · rintro subjectRef ⟨id, ⟨⟩⟩
      · rintro subjectRef ⟨id, hid⟩
        obtain ⟨rfl, -⟩ := Event.memoryMerged.inj hid
        exact ⟨[], _, [], rfl, ⟨[], rfl⟩, by simp⟩
      · rintro subjectRef ⟨id, ⟨⟩⟩
      · rintro subjectRef ⟨id, ⟨⟩⟩
      · rintro subjectRef ⟨id, hid⟩
        obtain ⟨rfl, -⟩ := Event.memoryMerged.inj hid
        exact ⟨_, _, [], rfl, ⟨[2], rfl⟩, by simp⟩
      · rintro subjectRef ⟨id, ⟨⟩⟩
    · intro entry hentry subjectRef active hscan
      simp only [List.nil_append, List.cons_append, List.mem_cons, List.not_mem_nil, or_false]
        at hentry
      rcases hentry with rfl | rfl | rfl | rfl | rfl | rfl
      all_goals cases hscan
      all_goals exact Nat.le_of_ble_eq_true rfl
  obtain ⟨hsound, hmissing⟩ := memory_store_sound_of_orderly _ _ (fun _ _ => True) allRecorded rfl
    reach horderly
  have hended : ∃ evaluation, (Config.schedule (steady 5) oneByOne 0 allMerges).threads .late =
      .ret evaluation ∧ evaluation.reason = targetMissing := ⟨_, rfl, rfl⟩
  obtain ⟨evaluation, hended, hreason⟩ := hended
  exact ⟨_, reach, by decide +kernel, hsound, fun subjectRef active hscan =>
    hmissing .late evaluation hended hreason subjectRef active hscan 2 rfl⟩

/-- Two merges that plan before either commits leave two active artifacts that say the same. -/
theorem duplicate_after_interleaved_merges :
    ∃ c, Config.Reachable (fun _ _ => True) bothMerges c ∧
      bothRecorded.db.memoryArtifacts = [] ∧
      ¬ MemoryStoreSound c.shared.state.db.memoryArtifacts := by
  refine ⟨_, Config.reachable_schedule (o := steady 5) (fun _ _ => trivial) scansFirst 0 bothMerges,
    rfl, fun hsound => ?_⟩
  have hrows : (Config.schedule (steady 5) scansFirst 0
      bothMerges).shared.state.db.memoryArtifacts =
      [stamped 5 (artifactRow sampleContext (observation 20)
          { artifactKind := "preference", contentText := "Prefers concise replies." } 4),
        stamped 5 (artifactRow sampleContext (observation 21)
          { artifactKind := "preference", contentText := "Prefers concise replies." } 10)] := by
    decide +kernel
  rw [hrows] at hsound
  have hsame := hsound.distinct _ List.mem_cons_self _
    (List.mem_cons_of_mem _ List.mem_cons_self) rfl rfl ⟨rfl, rfl, rfl⟩
  have hid := congrArg MemoryArtifactRecord.memoryArtifactId hsame
  cases hid

end Memory

end BlueLagoon
