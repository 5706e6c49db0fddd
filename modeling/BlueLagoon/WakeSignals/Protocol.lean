import BlueLagoon.GrowingTable
import BlueLagoon.WakeSignals

/-!
# The discipline of the reviews

Several processes may review wake signals at the same time. Each of them decides the signals that
it recorded, and no others; a signal is recorded before anything is counted for its review, so
that of two reviews the one that recorded its signal last sees the other.
-/

namespace BlueLagoon

open Interleaving Harness

namespace WakeSignals

variable {ι : Type}

/-- An entry of the log. -/
abbrev Entry (ι : Type) := ι × (Event ⊕ UnconsciousEvent)

/-- The tables of the harness. -/
abbrev dbOf (v : Shared unconscious ι) : Database := v.state.1.db

/-- The table of the wake signals. -/
abbrev rowsOf (v : Shared unconscious ι) : List WakeSignalRecord := v.state.2

/-! ## Rows -/

/-- What a row may become: what was pending may be decided. -/
def Settles (row row' : WakeSignalRecord) : Prop :=
  row' = row ∨ (row.status = .pendingReview ∧ row.cooldownUntil = none ∧
    row'.wakeSignalId = row.wakeSignalId)

/-- The rows of one state have become those of a later one. -/
abbrev Grows : List WakeSignalRecord → List WakeSignalRecord → Prop := GrowingTable.Grows Settles

section Rows

variable {row row' : WakeSignalRecord} {rows rows' : List WakeSignalRecord}

theorem Settles.refl (row : WakeSignalRecord) : Settles row row := Or.inl rfl

theorem Settles.trans (a b c : WakeSignalRecord) (hab : Settles a b) (hbc : Settles b c) :
    Settles a c := by
  rcases hab with rfl | ⟨hpending, hcooldown, hid⟩
  · exact hbc
  · right
    rcases hbc with rfl | ⟨-, -, hid'⟩
    · exact ⟨hpending, hcooldown, hid⟩
    · exact ⟨hpending, hcooldown, hid'.trans hid⟩

theorem Settles.id_eq (h : Settles row row') : row'.wakeSignalId = row.wakeSignalId := by
  rcases h with rfl | ⟨-, -, hid⟩
  · rfl
  · exact hid

/-- What was decided stays as it is. -/
theorem Settles.eq_of_decided (h : Settles row row') (hdecided : row.status ≠ .pendingReview) :
    row' = row := by
  rcases h with rfl | ⟨hpending, -, -⟩
  · rfl
  · exact absurd hpending hdecided

/-- A signal is open while it is pending, whatever the time is: it can only cease to be open. -/
theorem isOpen_of_settles (now : DateTime) (row row' : WakeSignalRecord) (h : Settles row row')
    (hopen : Background.isOpen now row' = true) : Background.isOpen now row = true := by
  rcases h with rfl | ⟨hpending, hcooldown, -⟩
  · exact hopen
  · simp [Background.isOpen, hpending, hcooldown]

theorem Grows.refl (rows : List WakeSignalRecord) : Grows rows rows :=
  GrowingTable.Grows.refl Settles.refl rows

theorem Grows.trans {rows'' : List WakeSignalRecord} (h : Grows rows rows')
    (h' : Grows rows' rows'') : Grows rows rows'' :=
  GrowingTable.Grows.trans Settles.trans h h'

/-- The identifiers of a table are unique. -/
abbrev Keyed (rows : List WakeSignalRecord) : Prop :=
  (rows.map WakeSignalRecord.wakeSignalId).Nodup

theorem Keyed.eq (h : Keyed rows) (hrow : row ∈ rows) (hrow' : row' ∈ rows)
    (hid : row.wakeSignalId = row'.wakeSignalId) : row = row' :=
  Table.eq_of_mem_of_key h hrow hrow' hid

/-! ## What a review goes by -/

/-- Fewer than `n` of the signals before this one are open. -/
def FewBefore (n : Nat) (rows : List WakeSignalRecord) (row : WakeSignalRecord) (now : DateTime) :
    Prop :=
  ∀ k, rows[k]? = some row → (rows.take k).countP (Background.isOpen now) < n

theorem FewBefore.later {n : Nat} {now : DateTime} (h : FewBefore n rows row now)
    (hgrows : Grows rows rows') (hkeyed : Keyed rows') (hrow : row ∈ rows)
    (hid : row'.wakeSignalId = row.wakeSignalId) : FewBefore n rows' row' now := by
  intro k hk
  have hplace : rows[k]? = some row :=
    GrowingTable.Grows.place hgrows (fun _ _ h => h.id_eq) hkeyed hrow hk hid
  have hlength : k ≤ rows.length := le_of_lt (List.getElem?_eq_some_iff.mp hplace).1
  have hfewer := GrowingTable.Grows.countP_take_le hgrows (isOpen_of_settles now) k hlength
  exact hfewer.trans_lt (h k hplace)

/-- The row itself is open when it is counted: it is pending. -/
theorem fewBefore_of_countP {now : DateTime} (hopen : Background.isOpen now row = true) :
    FewBefore (rows.countP (Background.isOpen now)) rows row now := by
  intro k hk
  have hsplit : rows = rows.take k ++ row :: rows.drop (k + 1) := by
    obtain ⟨hlength, rfl⟩ := List.getElem?_eq_some_iff.mp hk
    rw [List.getElem_cons_drop, List.take_append_drop]
  conv_rhs => rw [hsplit]
  rw [List.countP_append, List.countP_cons_of_pos hopen]
  omega

/-- The decision on `first` was written before `second` was recorded. -/
def Precedes (log : List (Entry ι)) (first second : Uuid) : Prop :=
  ∃ before i after, log = before ++ (i, Sum.inr (.recorded second)) :: after ∧
    ∃ j, (j, Sum.inr (.reviewed first)) ∈ before

/-- A signal that is in the log already does not come to be preceded by more of them. -/
theorem Precedes.of_append {log new : List (Entry ι)} {first second : Uuid}
    (h : Precedes (log ++ new) first second)
    (hnew : ∀ i, (i, Sum.inr (.recorded second)) ∉ new) : Precedes log first second := by
  obtain ⟨before, i, after, hlog, hreviewed⟩ := h
  rcases List.append_eq_append_iff.mp hlog with ⟨middle, rfl, htail⟩ | ⟨middle, rfl, htail⟩
  · exact absurd (htail ▸ List.mem_append_right middle List.mem_cons_self) (hnew i)
  · cases middle with
    | nil =>
      rw [List.nil_append] at htail
      exact absurd (htail ▸ List.mem_cons_self) (hnew i)
    | cons entry middle =>
      obtain ⟨rfl, -⟩ := List.cons.inj htail
      exact ⟨before, i, middle, rfl, hreviewed⟩

/-- Of the signals that were reviewed before this one was recorded, those of its reason code have
cooled down. -/
def ClearBefore (rows : List WakeSignalRecord) (log : List (Entry ι)) (row : WakeSignalRecord)
    (now : DateTime) : Prop :=
  ∀ first, Precedes log first row.wakeSignalId →
    ∃ other ∈ rows, other.wakeSignalId = first ∧ other.status ≠ .pendingReview ∧
      (other.signal.reasonCode = row.signal.reasonCode →
        ∀ cooldownUntil, other.cooldownUntil = some cooldownUntil → cooldownUntil ≤ now)

theorem ClearBefore.later {log new : List (Entry ι)} {now : DateTime}
    (h : ClearBefore rows log row now) (hgrows : Grows rows rows')
    (hnew : ∀ i, (i, Sum.inr (.recorded row.wakeSignalId)) ∉ new)
    (hid : row'.wakeSignalId = row.wakeSignalId) (hsignal : row'.signal = row.signal) :
    ClearBefore rows' (log ++ new) row' now := by
  intro first hprecedes
  rw [hid] at hprecedes
  obtain ⟨other, hother, hfirst, hdecided, hclear⟩ := h first (hprecedes.of_append hnew)
  obtain ⟨other', hother', hsettles⟩ := GrowingTable.Grows.mem hgrows hother
  obtain rfl := hsettles.eq_of_decided hdecided
  refine ⟨other', hother', hfirst, hdecided, ?_⟩
  rw [hsignal]
  exact hclear

end Rows

/-! ## The shared state -/

/-- The ingress of a wake signal is stored, for a conversation. -/
def Staged (db : Database) (wakeSignalId : Uuid) (internalConversationRef : Option String) :
    Prop :=
  ∃ ingress ∈ db.ingressEvents, ingress.channelKind = .telegram ∧
    ingress.externalEventId = Foreground.wakeSignalExternalEventId wakeSignalId ∧
    ingress.internalConversationRef = internalConversationRef

/-- No ingress of a wake signal comes or goes. -/
def LeavesStaged (w w' : World) (_ : List Event) : Prop :=
  ∀ id internalConversationRef,
    Staged w'.db id internalConversationRef ↔ Staged w.db id internalConversationRef

/-- The identifier of a signal that an entry says was recorded. -/
def recordedId : Entry ι → Option Uuid
  | (_, .inr (.recorded wakeSignalId)) => some wakeSignalId
  | _ => none

theorem mem_filterMap_recordedId {log : List (Entry ι)} {id : Uuid} :
    id ∈ log.filterMap recordedId ↔ ∃ i, (i, Sum.inr (.recorded id)) ∈ log := by
  rw [List.mem_filterMap]
  constructor
  · rintro ⟨⟨i, event⟩, hmem, hid⟩
    unfold recordedId at hid
    split at hid
    · rename_i heq
      obtain ⟨rfl, rfl⟩ := Prod.mk.inj heq
      obtain rfl := Option.some.inj hid
      exact ⟨_, hmem⟩
    · cases hid
  · rintro ⟨i, hmem⟩
    exact ⟨_, hmem, rfl⟩

/-- How long a reviewed signal cools down. -/
abbrev cooldown (policy : BackgroundExecution.WakeSignalPolicy) : Int :=
  seconds (BackgroundExecution.asI64 policy.config.cooldownSeconds)

/-- The signals that the limit is for. -/
def Limited (row : WakeSignalRecord) : Prop :=
  row.status = .accepted ∧ row.signal.priority ≠ .high

instance (row : WakeSignalRecord) : Decidable (Limited row) :=
  inferInstanceAs (Decidable (_ ∧ _))

/-- A row is as it was recorded, or as it was reviewed. -/
def Settled (policy : BackgroundExecution.WakeSignalPolicy) (row : WakeSignalRecord) : Prop :=
  row.status ≠ .pendingReview → ∃ reviewedAt, row.reviewedAt = some reviewedAt ∧
    (row.status ≠ .rejected → row.cooldownUntil = some (reviewedAt + cooldown policy))

/-- What is so of every row. -/
structure RowSound (policy : BackgroundExecution.WakeSignalPolicy) (rows : List WakeSignalRecord)
    (log : List (Entry ι)) (row : WakeSignalRecord) : Prop where
  settled : Settled policy row
  few : Limited row → ∀ reviewedAt, row.reviewedAt = some reviewedAt →
    FewBefore (policy.config.maxPendingSignals - 1) rows row reviewedAt
  clear : Limited row → ∀ reviewedAt, row.reviewedAt = some reviewedAt →
    ClearBefore rows log row reviewedAt

/-- The conversation that accepted signals are brought to. -/
abbrev boundConversation (policy : BackgroundExecution.WakeSignalPolicy) : Option String :=
  policy.foregroundBinding.map TelegramForegroundBindingConfig.internalConversationRef

/-- The invariant of the reviews. What it says of the ingresses holds if the other programs leave
those of the wake signals as they are. -/
structure Orderly (policy : BackgroundExecution.WakeSignalPolicy) (left : Prop)
    (v : Shared unconscious ι) : Prop where
  keyed : Keyed (rowsOf v)
  once : (v.log.filterMap recordedId).Nodup
  logged : ∀ row ∈ rowsOf v, row.wakeSignalId ∈ v.log.filterMap recordedId
  stored : ∀ id ∈ v.log.filterMap recordedId, ∃ row ∈ rowsOf v, row.wakeSignalId = id
  reviewed : ∀ i id, (i, Sum.inr (.reviewed id)) ∈ v.log →
    ∃ row ∈ rowsOf v, row.wakeSignalId = id ∧ row.status ≠ .pendingReview
  sound : ∀ row ∈ rowsOf v, RowSound policy (rowsOf v) v.log row
  converted : left → ∀ row ∈ rowsOf v, row.status = .accepted →
    Staged (dbOf v) row.wakeSignalId (boundConversation policy)
  staged : left → ∀ id internalConversationRef, Staged (dbOf v) id internalConversationRef →
    internalConversationRef = boundConversation policy ∧ ∃ row ∈ rowsOf v,
      row.wakeSignalId = id ∧ (row.status = .accepted ∨ row.status = .pendingReview)

/-- What a thread relies on: the signals that it recorded are left to it. -/
structure Relies (left : Prop) (i : ι) (v w : Shared unconscious ι) : Prop where
  log : v.log <+: w.log
  grows : Grows (rowsOf v) (rowsOf w)
  own : ∀ row ∈ rowsOf v, (i, Sum.inr (.recorded row.wakeSignalId)) ∈ v.log → row ∈ rowsOf w
  ingress : left → ∀ id, (i, Sum.inr (.recorded id)) ∈ v.log → ∀ internalConversationRef,
    (Staged (dbOf w) id internalConversationRef ↔ Staged (dbOf v) id internalConversationRef)

theorem Relies.refl (left : Prop) (i : ι) (v : Shared unconscious ι) : Relies left i v v :=
  ⟨List.prefix_rfl, Grows.refl _, fun _ hrow _ => hrow, fun _ _ _ _ => Iff.rfl⟩

theorem Relies.trans {left : Prop} {i : ι} {u v w : Shared unconscious ι} (h : Relies left i u v)
    (h' : Relies left i v w) : Relies left i u w where
  log := h.log.trans h'.log
  grows := Grows.trans h.grows h'.grows
  own := fun row hrow hmine => h'.own row (h.own row hrow hmine) (h.log.subset hmine)
  ingress := fun hleft id hmine internalConversationRef =>
    (h'.ingress hleft id (h.log.subset hmine) internalConversationRef).trans
      (h.ingress hleft id hmine internalConversationRef)

/-- The protocol of the threads that review wake signals. -/
def reviewProtocol (policy : BackgroundExecution.WakeSignalPolicy) (left : Prop)
    (answers : Answers unconscious) (ι : Type) : Protocol unconscious ι where
  answers := answers
  Inv := Orderly policy left
  Rely := Relies left
  rely_refl := Relies.refl left
  rely_trans := fun _ _ _ _ => Relies.trans

/-! ## Moves -/

section Moves

variable {policy : BackgroundExecution.WakeSignalPolicy} {left : Prop} {i : ι}
  {v w : Shared unconscious ι} {row : WakeSignalRecord}

/-- A signal has one owner. -/
theorem Orderly.owner (h : Orderly policy left v) {j : ι} {id : Uuid}
    (hi : (i, Sum.inr (.recorded id)) ∈ v.log) (hj : (j, Sum.inr (.recorded id)) ∈ v.log) :
    i = j := by
  obtain ⟨before, after, hlog⟩ := List.append_of_mem hi
  have honce := h.once
  rw [hlog, List.filterMap_append, List.filterMap_cons_some (f := recordedId) rfl] at honce
  rw [hlog] at hj
  obtain ⟨-, hafter, hdisjoint⟩ := List.nodup_append.mp honce
  rcases List.mem_append.mp hj with hbefore | htail
  · have hmem := mem_filterMap_recordedId.mpr ⟨j, hbefore⟩
    exact absurd rfl (hdisjoint id hmem id List.mem_cons_self)
  · rcases List.mem_cons.mp htail with heq | hlater
    · exact (Prod.mk.inj heq).1.symm
    · have hmem := mem_filterMap_recordedId.mpr ⟨j, hlater⟩
      exact absurd hmem (List.nodup_cons.mp hafter).1

/-- What is new in a log does not record a signal that it had already. -/
theorem Orderly.not_recorded_again (h : Orderly policy left w) {new : List (Entry ι)}
    {log : List (Entry ι)} (hlog : w.log = log ++ new) {id : Uuid}
    (hid : id ∈ log.filterMap recordedId) (j : ι) : (j, Sum.inr (.recorded id)) ∉ new := by
  intro hmem
  have honce := h.once
  rw [hlog, List.filterMap_append] at honce
  obtain ⟨-, -, hdisjoint⟩ := List.nodup_append.mp honce
  exact absurd rfl (hdisjoint id hid id (mem_filterMap_recordedId.mpr ⟨j, hmem⟩))

/-- What is so of a row that is not touched stays so. -/
theorem RowSound.later {rows rows' : List WakeSignalRecord} {log new : List (Entry ι)}
    (h : RowSound policy rows log row) (hgrows : Grows rows rows') (hkeyed : Keyed rows')
    (hrow : row ∈ rows) (hnew : ∀ j, (j, Sum.inr (.recorded row.wakeSignalId)) ∉ new) :
    RowSound policy rows' (log ++ new) row where
  settled := h.settled
  few := fun hlimited reviewedAt hat =>
    (h.few hlimited reviewedAt hat).later hgrows hkeyed hrow rfl
  clear := fun hlimited reviewedAt hat =>
    (h.clear hlimited reviewedAt hat).later hgrows hnew rfl rfl

/-- A pending row is sound: nothing is said of it yet. -/
theorem RowSound.pending {rows : List WakeSignalRecord} {log : List (Entry ι)}
    (hpending : row.status = .pendingReview) : RowSound policy rows log row where
  settled := fun hdecided => absurd hpending hdecided
  few := fun hlimited => by simp [Limited, hpending] at hlimited
  clear := fun hlimited => by simp [Limited, hpending] at hlimited

/-- The harness logs nothing of the wake signals. -/
theorem inr_not_mem_inl {events : List Event} {j : ι} {event : UnconsciousEvent} :
    (j, Sum.inr event) ∉ (events.map Sum.inl).map (Prod.mk i) := by
  intro hmem
  obtain ⟨entry, hentry, heq⟩ := List.mem_map.mp hmem
  obtain ⟨event', -, rfl⟩ := List.mem_map.mp hentry
  cases (Prod.mk.inj heq).2

theorem filterMap_recordedId_inl (events : List Event) :
    ((events.map Sum.inl).map (Prod.mk i)).filterMap recordedId = [] := by
  rw [List.filterMap_eq_nil_iff]
  intro entry hentry
  obtain ⟨event, hevent, rfl⟩ := List.mem_map.mp hentry
  obtain ⟨event', -, rfl⟩ := List.mem_map.mp hevent
  rfl

/-! ### Moves of the harness -/

section Beside

variable {world : World} {events : List Event}

/-- A move beside the table, after which the ingresses of before are there, and at most those of
signals in review have come in besides. -/
theorem Orderly.beside (h : Orderly policy left v)
    (hkept : left → ∀ id internalConversationRef, Staged (dbOf v) id internalConversationRef →
      Staged world.db id internalConversationRef)
    (hcame : left → ∀ id internalConversationRef, Staged world.db id internalConversationRef →
      Staged (dbOf v) id internalConversationRef ∨
        (internalConversationRef = boundConversation policy ∧ ∃ row ∈ rowsOf v,
          row.wakeSignalId = id ∧ row.status = .pendingReview)) :
    Orderly policy left (v.push i (world, rowsOf v) (events.map Sum.inl)) := by
  have hids : (v.push i (world, rowsOf v) (events.map Sum.inl)).log.filterMap recordedId =
      v.log.filterMap recordedId := by
    rw [Shared.push_log, List.filterMap_append, filterMap_recordedId_inl, List.append_nil]
  constructor
  · exact h.keyed
  · rw [hids]
    exact h.once
  · rw [hids]
    exact h.logged
  · rw [hids]
    exact h.stored
  · intro j id hmem
    rcases List.mem_append.mp hmem with hold | hnew
    · exact h.reviewed j id hold
    · exact absurd hnew inr_not_mem_inl
  · intro row hrow
    exact (h.sound row hrow).later (Grows.refl _) h.keyed hrow fun _ => inr_not_mem_inl
  · intro hleft row hrow haccepted
    exact hkept hleft _ _ (h.converted hleft row hrow haccepted)
  · intro hleft id internalConversationRef hstaged
    rcases hcame hleft id internalConversationRef hstaged with hold | ⟨hconversation, hpending⟩
    · exact h.staged hleft id internalConversationRef hold
    · obtain ⟨row, hrow, hid, hpending⟩ := hpending
      exact ⟨hconversation, row, hrow, hid, Or.inr hpending⟩

/-- A thread may rely on the signals that it recorded. -/
theorem Relies.beside {j : ι} (hsame : left → ∀ id, (j, Sum.inr (.recorded id)) ∈ v.log →
    ∀ internalConversationRef, (Staged world.db id internalConversationRef ↔
      Staged (dbOf v) id internalConversationRef)) :
    Relies left j v (v.push i (world, rowsOf v) (events.map Sum.inl)) where
  log := List.prefix_append _ _
  grows := Grows.refl _
  own := fun _ hrow _ => hrow
  ingress := hsame

/-- A move that leaves the ingresses of the wake signals alone is expected by everyone. -/
theorem allows_beside {answers : Answers unconscious} (h : Orderly policy left v)
    (hsame : left → LeavesStaged v.state.1 world events) :
    (reviewProtocol policy left answers ι).Allows i v
      (v.push i (world, rowsOf v) (events.map Sum.inl)) :=
  ⟨h.beside (fun hleft id conversation => (hsame hleft id conversation).mpr)
    fun hleft id conversation hstaged => Or.inl ((hsame hleft id conversation).mp hstaged),
    fun _ _ => Relies.beside fun hleft id _ => hsame hleft id⟩

/-- A program of the harness that leaves the ingresses of the wake signals alone. -/
theorem wp_beside {answers : Answers unconscious} {α : Type} {p : Harness α}
    (hp : left → p.Confined LeavesStaged) (v : Shared unconscious ι) :
    (reviewProtocol policy left answers ι).wp i p.lift (fun _ w => Relies left i v w) v := by
  have hconfined : p.Confined fun w w' events => left → LeavesStaged w w' events := by
    by_cases hleft : left
    · exact (hp hleft).mono fun _ _ _ h _ => h
    · exact Prog.confined_of_forall (fun _ _ _ h => absurd h hleft) p
  refine Protocol.wp_of_confined (Prog.Confined.lift hconfined) (Relies.refl left i)
    (fun _ _ _ => Relies.trans) (fun _ _ _ h => h) ?_ v
  rintro w ⟨world, rows⟩ events hinv ⟨hrows, events', rfl, hsame⟩
  obtain rfl : rows = rowsOf w := hrows
  exact ⟨allows_beside hinv hsame, Relies.beside fun hleft id _ => hsame hleft id⟩

end Beside

/-! ### Moves of a review -/

/-- What a thread leaves behind when it records a signal. -/
abbrev recorded (v : Shared unconscious ι) (i : ι) (row : WakeSignalRecord) : Shared unconscious ι :=
  v.push i (v.state.1, rowsOf v ++ [row]) [Sum.inr (.recorded row.wakeSignalId)]

theorem filterMap_recorded (v : Shared unconscious ι) (i : ι) (row : WakeSignalRecord) :
    (recorded v i row).log.filterMap recordedId =
      v.log.filterMap recordedId ++ [row.wakeSignalId] := by
  rw [Shared.push_log, List.filterMap_append]
  rfl

theorem Relies.recorded (j : ι) : Relies left j v (recorded v i row) where
  log := List.prefix_append _ _
  grows := GrowingTable.Grows.append Settles.refl _ _
  own := fun _ hrow _ => List.mem_append_left _ hrow
  ingress := fun _ _ _ _ => Iff.rfl

/-- Recording a signal under a new identifier keeps the order: it is pending, so that nothing is
claimed of it yet. -/
theorem Orderly.recorded (h : Orderly policy left v)
    (hfresh : ∀ other ∈ rowsOf v, other.wakeSignalId ≠ row.wakeSignalId)
    (hpending : row.status = .pendingReview) : Orderly policy left (recorded v i row) := by
  have hnew : row.wakeSignalId ∉ v.log.filterMap recordedId := by
    intro hmem
    obtain ⟨other, hother, hid⟩ := h.stored _ hmem
    exact hfresh other hother hid
  have hkeyed : Keyed (rowsOf v ++ [row]) := Table.nodup_append_fresh h.keyed hfresh
  have hentry : ∀ {j : ι} {id : Uuid}, (j, Sum.inr (.recorded id)) ∈
      ([(i, Sum.inr (.recorded row.wakeSignalId))] : List (Entry ι)) →
        id = row.wakeSignalId := by
    intro j id hmem
    have heq := List.mem_singleton.mp hmem
    simp only [Prod.mk.injEq, Sum.inr.injEq, UnconsciousEvent.recorded.injEq] at heq
    exact heq.2
  constructor
  · exact hkeyed
  · rw [filterMap_recorded]
    refine List.nodup_append.mpr ⟨h.once, List.nodup_singleton _, ?_⟩
    rintro id hid id' hid' rfl
    exact hnew (List.mem_singleton.mp hid' ▸ hid)
  · rw [filterMap_recorded]
    intro other hother
    rcases List.mem_append.mp hother with hold | hlast
    · exact List.mem_append_left _ (h.logged other hold)
    · obtain rfl := List.mem_singleton.mp hlast
      exact List.mem_append_right _ (List.mem_singleton_self _)
  · rw [filterMap_recorded]
    intro id hid
    rcases List.mem_append.mp hid with hold | hlast
    · obtain ⟨other, hother, hid⟩ := h.stored id hold
      exact ⟨other, List.mem_append_left _ hother, hid⟩
    · exact ⟨row, List.mem_append_right _ (List.mem_singleton_self _),
        (List.mem_singleton.mp hlast).symm⟩
  · intro j id hmem
    rcases List.mem_append.mp hmem with hold | hlast
    · obtain ⟨other, hother, hid⟩ := h.reviewed j id hold
      exact ⟨other, List.mem_append_left _ hother, hid⟩
    · have heq := List.mem_singleton.mp hlast
      simp at heq
  · intro other hother
    rcases List.mem_append.mp hother with hold | hlast
    · apply (h.sound other hold).later (GrowingTable.Grows.append Settles.refl _ _) hkeyed hold
      intro j hmem
      exact hfresh other hold (hentry hmem)
    · obtain rfl := List.mem_singleton.mp hlast
      exact RowSound.pending hpending
  · intro hleft other hother haccepted
    rcases List.mem_append.mp hother with hold | hlast
    · exact h.converted hleft other hold haccepted
    · obtain rfl := List.mem_singleton.mp hlast
      rw [hpending] at haccepted
      cases haccepted
  · intro hleft id internalConversationRef hstaged
    obtain ⟨hconversation, other, hother, hid⟩ :=
      h.staged hleft id internalConversationRef hstaged
    exact ⟨hconversation, other, List.mem_append_left _ hother, hid⟩

/-- What a thread leaves behind when it writes the decision on a signal. -/
abbrev decided (v : Shared unconscious ι) (i : ι) (id : Uuid)
    (change : WakeSignalRecord → WakeSignalRecord) : Shared unconscious ι :=
  v.push i (v.state.1, Table.update (fun row => row.wakeSignalId = id) change (rowsOf v))
    [Sum.inr (.reviewed id)]

/-- The signal is one that the thread recorded, and is still in review. -/
structure InReview (i : ι) (v : Shared unconscious ι) (row : WakeSignalRecord) : Prop where
  mine : (i, Sum.inr (.recorded row.wakeSignalId)) ∈ v.log
  mem : row ∈ rowsOf v
  pending : row.status = .pendingReview
  warm : row.cooldownUntil = none

/-- What a decision has to be based on. -/
structure WellDecided (policy : BackgroundExecution.WakeSignalPolicy) (left : Prop)
    (v : Shared unconscious ι) (row row' : WakeSignalRecord) : Prop where
  id_eq : row'.wakeSignalId = row.wakeSignalId
  signal : row'.signal = row.signal
  decided : row'.status ≠ .pendingReview
  settled : Settled policy row'
  few : Limited row' → ∀ reviewedAt, row'.reviewedAt = some reviewedAt →
    FewBefore (policy.config.maxPendingSignals - 1) (rowsOf v) row reviewedAt
  clear : Limited row' → ∀ reviewedAt, row'.reviewedAt = some reviewedAt →
    ClearBefore (rowsOf v) v.log row reviewedAt
  converted : left → row'.status = .accepted →
    Staged (dbOf v) row.wakeSignalId (boundConversation policy)
  unstaged : left → row'.status ≠ .accepted → ∀ internalConversationRef,
    ¬Staged (dbOf v) row.wakeSignalId internalConversationRef

section Decisions

variable {change : WakeSignalRecord → WakeSignalRecord}

/-- The signals of a thread are those that it recorded. -/
theorem mem_decided (hkeyed : Keyed (rowsOf v)) (hrow : row ∈ rowsOf v)
    {other : WakeSignalRecord} : other ∈ rowsOf (decided v i row.wakeSignalId change) ↔
      (other ∈ rowsOf v ∧ other.wakeSignalId ≠ row.wakeSignalId) ∨ other = change row := by
  show other ∈ Table.update _ change (rowsOf v) ↔ _
  rw [Table.mem_update]
  constructor
  · rintro (⟨hmem, hid⟩ | ⟨old, hold, hid, rfl⟩)
    · exact Or.inl ⟨hmem, of_decide_eq_false hid⟩
    · obtain rfl := hkeyed.eq hold hrow (of_decide_eq_true hid)
      exact Or.inr rfl
  · rintro (⟨hmem, hid⟩ | rfl)
    · exact Or.inl ⟨hmem, decide_eq_false hid⟩
    · exact Or.inr ⟨row, hrow, decide_eq_true rfl, rfl⟩

theorem grows_decided (hkeyed : Keyed (rowsOf v)) (h : InReview i v row)
    (hid : (change row).wakeSignalId = row.wakeSignalId) :
    Grows (rowsOf v) (rowsOf (decided v i row.wakeSignalId change)) := by
  apply GrowingTable.Grows.update Settles.refl
  intro other hother hsame
  obtain rfl := hkeyed.eq hother h.mem (of_decide_eq_true hsame)
  exact Or.inr ⟨h.pending, h.warm, hid⟩

theorem Relies.decided (hinv : Orderly policy left v) (h : InReview i v row)
    (hid : (change row).wakeSignalId = row.wakeSignalId) {j : ι} (hne : j ≠ i) :
    Relies left j v (decided v i row.wakeSignalId change) where
  log := List.prefix_append _ _
  grows := grows_decided hinv.keyed h hid
  own := by
    intro other hother hmine
    refine (mem_decided hinv.keyed h.mem).mpr (Or.inl ⟨hother, fun heq => hne ?_⟩)
    exact hinv.owner (heq ▸ hmine) h.mine
  ingress := fun _ _ _ _ => Iff.rfl

/-- Writing the decision of one's own signal keeps the order: the row that changes is the only one
with its identifier, and what the log says of other signals stays true. -/
theorem Orderly.decided (hinv : Orderly policy left v) (h : InReview i v row)
    (hchange : WellDecided policy left v row (change row)) :
    Orderly policy left (decided v i row.wakeSignalId change) := by
  have hgrows := grows_decided hinv.keyed h hchange.id_eq
  have hmem := @mem_decided ι i v row change hinv.keyed h.mem
  have hids : (WakeSignals.decided v i row.wakeSignalId change).log.filterMap recordedId =
      v.log.filterMap recordedId := by
    rw [Shared.push_log, List.filterMap_append]
    exact List.append_nil _
  have hkeyed : Keyed (rowsOf (WakeSignals.decided v i row.wakeSignalId change)) := by
    have hsame : (rowsOf (WakeSignals.decided v i row.wakeSignalId change)).map
        WakeSignalRecord.wakeSignalId = (rowsOf v).map WakeSignalRecord.wakeSignalId := by
      show (Table.update _ _ _).map _ = _
      unfold Table.update
      rw [List.map_map]
      apply List.map_congr_left
      intro other hother
      rw [Function.comp_apply]
      split
      · rename_i hsame
        obtain rfl := hinv.keyed.eq hother h.mem (of_decide_eq_true hsame)
        exact hchange.id_eq
      · rfl
    rw [Keyed, hsame]
    exact hinv.keyed
  have hnew : ∀ {j : ι} {id : Uuid}, (j, Sum.inr (.recorded id)) ∉
      ([(i, Sum.inr (.reviewed row.wakeSignalId))] : List (Entry ι)) := by
    intro j id hentry
    have heq := List.mem_singleton.mp hentry
    simp at heq
  have hdone : change row ∈ rowsOf (WakeSignals.decided v i row.wakeSignalId change) :=
    hmem.mpr (Or.inr rfl)
  constructor
  · exact hkeyed
  · rw [hids]
    exact hinv.once
  · rw [hids]
    intro other hother
    rcases hmem.mp hother with ⟨hold, -⟩ | rfl
    · exact hinv.logged other hold
    · rw [hchange.id_eq]
      exact hinv.logged row h.mem
  · rw [hids]
    intro id hid
    obtain ⟨other, hother, rfl⟩ := hinv.stored id hid
    obtain ⟨other', hother', hsettles⟩ := GrowingTable.Grows.mem hgrows hother
    exact ⟨other', hother', hsettles.id_eq⟩
  -- a review that is in the log is that of a row which has been decided, or it is this one
  · intro j id hentry
    rcases List.mem_append.mp hentry with hold | hlast
    · obtain ⟨other, hother, hid, hother'⟩ := hinv.reviewed j id hold
      obtain ⟨later, hlater, hsettles⟩ := GrowingTable.Grows.mem hgrows hother
      obtain rfl := hsettles.eq_of_decided hother'
      exact ⟨later, hlater, hid, hother'⟩
    · have heq := List.mem_singleton.mp hlast
      simp only [Prod.mk.injEq, Sum.inr.injEq, UnconsciousEvent.reviewed.injEq] at heq
      exact ⟨change row, hdone, hchange.id_eq.trans heq.2.symm, hchange.decided⟩
  · intro other hother
    rcases hmem.mp hother with ⟨hold, -⟩ | rfl
    · exact (hinv.sound other hold).later hgrows hkeyed hold fun _ => hnew
    · exact
        { settled := hchange.settled
          few := fun hlimited reviewedAt hat => (hchange.few hlimited reviewedAt hat).later hgrows
            hkeyed h.mem hchange.id_eq
          clear := fun hlimited reviewedAt hat => (hchange.clear hlimited reviewedAt hat).later
            hgrows (fun _ => hnew) hchange.id_eq hchange.signal }
  · intro hleft other hother haccepted
    rcases hmem.mp hother with ⟨hold, -⟩ | rfl
    · exact hinv.converted hleft other hold haccepted
    · rw [hchange.id_eq]
      exact hchange.converted hleft haccepted
  -- an ingress of the signal itself is there only where the decision is to accept
  · intro hleft id internalConversationRef hstaged
    obtain ⟨hconversation, other, hother, hid, hstatus⟩ :=
      hinv.staged hleft id internalConversationRef hstaged
    refine ⟨hconversation, ?_⟩
    by_cases hsame : other.wakeSignalId = row.wakeSignalId
    · refine ⟨change row, hdone, by rw [hchange.id_eq, ← hsame, hid], Or.inl ?_⟩
      by_contra hother'
      rw [← hid, hsame] at hstaged
      exact hchange.unstaged hleft hother' internalConversationRef hstaged
    · exact ⟨other, hmem.mpr (Or.inl ⟨hother, hsame⟩), hid, hstatus⟩

end Decisions

end Moves

end WakeSignals

end BlueLagoon
