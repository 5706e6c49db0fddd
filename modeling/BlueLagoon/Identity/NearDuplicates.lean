import BlueLagoon.Identity.ProtectedCore
import BlueLagoon.Ranking

/-!
# Near-duplicates of identity items

Whether two texts are near-duplicates is decided by the words of one of them that occur in the
other, against the length of the shorter text. The count takes repeated words of one side only,
and additions are compared with the listed items only, so the order of two additions matters.
-/

namespace BlueLagoon.Identity

/-! ## Shared words -/

/-- How many words of a text occur in another one, repeated words with their repetitions. -/
def sharedWords (left right : String) : Nat :=
  (Text.splitWhitespace left).countP fun token => (Text.splitWhitespace right).contains token

/-- The words of the shorter text. -/
def shorterLength (left right : String) : Nat :=
  min (Text.splitWhitespace left).length (Text.splitWhitespace right).length

theorem shorterLength_comm (left right : String) :
    shorterLength left right = shorterLength right left := Nat.min_comm _ _

/-- One of the texts has fewer than four words, or the words that either text shares with the
other reach four fifths of the shorter text when the words that the other shares do. -/
def SameSide (left right : String) : Prop :=
  shorterLength left right < 4 ∨
    (shorterLength left right * 4 ≤ sharedWords left right * 5 ↔
      shorterLength left right * 4 ≤ sharedWords right left * 5)

/-- Two texts are near duplicates if the shorter has at least four words, and four fifths as many
are shared. -/
theorem nearDuplicates_eq_true {left right : String} :
    identityTextsAreNearDuplicates left right = true ↔
      4 ≤ shorterLength left right ∧
        shorterLength left right * 4 ≤ sharedWords left right * 5 := by
  have hempty : ∀ text : String, text.isEmpty = true → (Text.splitWhitespace text).length < 4 := by
    intro text htext
    obtain rfl := String.isEmpty_iff.mp htext
    decide
  unfold identityTextsAreNearDuplicates shorterLength sharedWords
  dsimp only
  split
  · rename_i hnothing
    rcases Bool.or_eq_true_iff.mp hnothing with hleft | hright
    · have hshort := hempty left hleft
      simp
      omega
    · have hshort := hempty right hright
      simp
      omega
  · split
    · rename_i hshort
      rcases Bool.or_eq_true_iff.mp hshort with hleft | hright
      · have hlt := of_decide_eq_true hleft
        simp
        omega
      · have hlt := of_decide_eq_true hright
        simp
        omega
    · rename_i hlong
      have hleft : ¬ (Text.splitWhitespace left).length < 4 := by simp_all
      have hright : ¬ (Text.splitWhitespace right).length < 4 := by simp_all
      rw [decide_eq_true_iff]
      omega

/-- The comparison does not depend on the side exactly when the counts of both sides are on the
same side of the bound. -/
theorem nearDuplicates_comm_iff {left right : String} :
    identityTextsAreNearDuplicates left right = identityTextsAreNearDuplicates right left ↔
      SameSide left right := by
  unfold SameSide
  rw [Bool.eq_iff_iff, nearDuplicates_eq_true, nearDuplicates_eq_true,
    shorterLength_comm right left]
  by_cases hshort : shorterLength left right < 4
  · have hnot : ¬ 4 ≤ shorterLength left right := by omega
    simp [hshort, hnot]
  · have hlong : 4 ≤ shorterLength left right := by omega
    simp [hshort, hlong]

/-! ## Additions -/

/-- A delta that adds an item, with what it is applied with. -/
structure Addition where
  context : ProposalProcessingContext
  proposal : CanonicalProposal
  delta : IdentityItemDelta
  identityItemId : Uuid
  adds : delta.operation = .add

namespace Addition

/-- The item that is stored. -/
def stored (addition : Addition) (now : DateTime) : IdentityItemRecord :=
  { identityItemFromDelta addition.context addition.proposal addition.delta
      addition.identityItemId with
    createdAt := now
    updatedAt := now }

/-- The store with the item. -/
def after (addition : Addition) (now : DateTime) (db : Database) : Database :=
  { db with identityItems := db.identityItems ++ [addition.stored now] }

/-- The addition goes through. -/
def Accepted (tables : Text.Tables) (addition : Addition) (now : DateTime) (db db' : Database) :
    Prop :=
  applyIdentityItemDelta tables addition.context addition.proposal addition.delta
    addition.identityItemId now db = .ok (.accepted addition.identityItemId, db')

end Addition

/-- The items that an addition to the category is compared with. -/
def listed (category : IdentityItemCategory) (db : Database) : List IdentityItemRecord :=
  listActiveIdentityItemsByCategory category db

/-- The two additions go through, one after the other. -/
def AcceptedInOrder (tables : Text.Tables) (first second : Addition) (now later : DateTime)
    (db : Database) : Prop :=
  ∃ db₁ db₂, first.Accepted tables now db db₁ ∧ second.Accepted tables later db₁ db₂

section Additions

variable {tables : Text.Tables} {first second addition : Addition} {now later : DateTime}
  {db db' : Database}

/-- An addition goes through when it has no fault beside a listed item and breaks no constraint. -/
theorem accepted_iff : addition.Accepted tables now db db' ↔
    (∀ item ∈ listed addition.delta.category db,
      additionFault tables addition.delta item = none) ∧
    db.identityItemViolation (identityItemFromDelta addition.context addition.proposal
      addition.delta addition.identityItemId) = none ∧ db' = addition.after now db := by
  have hrejection : identityDeltaControlRejection tables addition.delta db =
      (listed addition.delta.category db).findSome? (additionFault tables addition.delta) := by
    unfold identityDeltaControlRejection
    rw [addition.adds]
    rfl
  unfold Addition.Accepted applyIdentityItemDelta
  rw [hrejection]
  cases hfaults : (listed addition.delta.category db).findSome?
      (additionFault tables addition.delta) with
  | some reason =>
    obtain ⟨item, hitem, hfault⟩ := List.exists_of_findSome?_eq_some hfaults
    constructor
    · intro h
      have hrejected := (Prod.mk.inj (Except.ok.inj h)).1
      cases hrejected
    · rintro ⟨hnone, -, -⟩
      rw [hnone item hitem] at hfault
      cases hfault
  | none =>
    rw [List.findSome?_eq_none_iff] at hfaults
    unfold writeIdentityItemDelta
    dsimp only
    rw [addition.adds]
    dsimp only
    rw [except_map_eq_ok]
    unfold insertIdentityItem
    constructor
    · rintro ⟨inserted, hinserted, heq⟩
      obtain ⟨hvalid, rfl⟩ := checked_eq_ok.mp hinserted
      exact ⟨hfaults, hvalid, (Prod.mk.inj heq).2.symm⟩
    · rintro ⟨-, hvalid, rfl⟩
      exact ⟨_, checked_eq_ok.mpr ⟨hvalid, rfl⟩, rfl⟩

/-- The items that an addition is compared with after another one of the category. -/
theorem mem_listed_after {item : IdentityItemRecord}
    (h : item ∈ listed addition.delta.category (addition.after now db)) :
    item = addition.stored now ∨ item ∈ listed addition.delta.category db := by
  have hactive : activeOfCategory addition.delta.category (addition.after now db) =
      activeOfCategory addition.delta.category db ++ [addition.stored now] := by
    unfold activeOfCategory Addition.after
    rw [List.filter_append]
    congr 1
    apply List.filter_eq_self.mpr
    intro row hrow
    obtain rfl := List.mem_singleton.mp hrow
    simp [Addition.stored, identityItemFromDelta]
  have htotal : Std.Total newerItem := ⟨fun a b => le_total b.updatedAt a.updatedAt⟩
  have htrans : IsTrans IdentityItemRecord newerItem :=
    ⟨fun _ _ _ hab hbc => le_trans hbc hab⟩
  unfold listed listActiveIdentityItemsByCategory at h ⊢
  rw [hactive] at h
  exact Ranking.mem_take_insertionSort h

/-- The constraints of a new item. -/
theorem violation_eq_none_iff {row : IdentityItemRecord} : db.identityItemViolation row = none ↔
    (∀ check ∈ Database.identityItemChecks row, check.1 = true) ∧
      (∀ other ∈ db.identityItems, other.identityItemId ≠ row.identityItemId) ∧
        db.hasProposal row.proposalId = true ∧ db.hasIdentityItem row.supersedesItemId = true ∧
          db.hasIdentityItem row.supersededByItemId = true := by
  unfold Database.identityItemViolation
  rw [Database.firstBroken_eq_none]
  simp [or_imp, forall_and, List.mem_append]

/-- An item of another key is no duplicate when the texts differ and are no near-duplicates. -/
theorem additionFault_eq_none {delta : IdentityItemDelta} {item : IdentityItemRecord}
    (hkey : item.itemKey ≠ delta.itemKey) : additionFault tables delta item = none ↔
      normalizeIdentityText tables item.valueText ≠ normalizeIdentityText tables delta.value ∧
        identityTextsAreNearDuplicates (normalizeIdentityText tables item.valueText)
          (normalizeIdentityText tables delta.value) = false := by
  unfold additionFault
  dsimp only
  rw [if_neg (by simp [hkey]), if_neg hkey]
  split
  · rename_i hfault
    rcases Bool.or_eq_true_iff.mp hfault with hsame | hnear
    · simp [of_decide_eq_true hsame]
    · simp [hnear]
  · rename_i hnofault
    simpa using hnofault

/-- What an addition is compared with when the other one came first. -/
theorem additionFault_stored (hkeys : first.delta.itemKey ≠ second.delta.itemKey) :
    additionFault tables first.delta (second.stored now) = none ↔
      normalizeIdentityText tables second.delta.value ≠
          normalizeIdentityText tables first.delta.value ∧
        identityTextsAreNearDuplicates (normalizeIdentityText tables second.delta.value)
          (normalizeIdentityText tables first.delta.value) = false := by
  have hvalue : (second.stored now).valueText = second.delta.value := rfl
  have hkey : (second.stored now).itemKey ≠ first.delta.itemKey := hkeys.symm
  have hfault := @additionFault_eq_none tables first.delta (second.stored now) hkey
  rw [hvalue] at hfault
  exact hfault

/-- What an addition after another one leaves to be decided when it comes first. -/
structure Exchangeable (tables : Text.Tables) (first second : Addition) (now later : DateTime)
    (db : Database) : Prop where
  /-- An item that the first one pushes out of the listing does not conflict with the second. -/
  harmless : ∀ item ∈ listed second.delta.category db,
    item ∉ listed second.delta.category (first.after now db) →
      additionFault tables second.delta item = none
  /-- The texts are no duplicates when the second one is compared with the first. -/
  unrivalled : second.stored now ∈ listed first.delta.category (second.after now db) →
    normalizeIdentityText tables second.delta.value ≠
        normalizeIdentityText tables first.delta.value ∧
      identityTextsAreNearDuplicates (normalizeIdentityText tables second.delta.value)
        (normalizeIdentityText tables first.delta.value) = false
  /-- The second one does not name the item of the first as its target. -/
  target : second.delta.targetIdentityItemId ≠ some first.identityItemId

theorem hasIdentityItem_after {id : Option Uuid} (h : db.hasIdentityItem id = true) :
    (addition.after now db).hasIdentityItem id = true := by
  cases id with
  | none => rfl
  | some id =>
    unfold Database.hasIdentityItem at h ⊢
    rw [Option.all_some, List.any_eq_true] at h ⊢
    obtain ⟨row, hrow, hid⟩ := h
    exact ⟨row, List.mem_append_left _ hrow, hid⟩

/-- An item that is there, but is not the new one, was there before. -/
theorem hasIdentityItem_of_after {id : Option Uuid} (hid : id ≠ some addition.identityItemId)
    (h : (addition.after now db).hasIdentityItem id = true) : db.hasIdentityItem id = true := by
  cases id with
  | none => rfl
  | some id =>
    unfold Database.hasIdentityItem at h ⊢
    rw [Option.all_some, List.any_eq_true] at h ⊢
    obtain ⟨row, hrow, hrowId⟩ := h
    rcases List.mem_append.mp hrow with hold | hnew
    · exact ⟨row, hold, hrowId⟩
    · obtain rfl := List.mem_singleton.mp hnew
      exact absurd (congrArg some (of_decide_eq_true hrowId).symm) hid

/-- Two additions of one category that go through in one order go through in the other one
exactly when they are exchangeable. -/
theorem acceptedInOrder_swap_iff (hcategory : first.delta.category = second.delta.category)
    (hkeys : first.delta.itemKey ≠ second.delta.itemKey)
    (haccepted : AcceptedInOrder tables first second now later db) :
    AcceptedInOrder tables second first now later db ↔
      Exchangeable tables first second now later db := by
  obtain ⟨db₁, db₂, hfirst, hsecond⟩ := haccepted
  obtain ⟨hfirstFaults, hfirstValid, rfl⟩ := accepted_iff.mp hfirst
  obtain ⟨hsecondFaults, hsecondValid, rfl⟩ := accepted_iff.mp hsecond
  obtain ⟨hfirstChecks, hfirstFresh, hfirstProposal, hfirstTarget, -⟩ :=
    violation_eq_none_iff.mp hfirstValid
  obtain ⟨hsecondChecks, hsecondFresh, hsecondProposal, hsecondTarget, -⟩ :=
    violation_eq_none_iff.mp hsecondValid
  constructor
  · rintro ⟨db₃, db₄, hswapped, hlast⟩
    obtain ⟨hswappedFaults, hswappedValid, rfl⟩ := accepted_iff.mp hswapped
    obtain ⟨hlastFaults, -, -⟩ := accepted_iff.mp hlast
    refine ⟨fun item hitem _ => hswappedFaults item hitem, fun hlisted => ?_, ?_⟩
    · exact (additionFault_stored hkeys).mp (hlastFaults _ hlisted)
    · -- the item of the first addition is not there yet when the second one comes first
      intro htarget
      obtain ⟨-, -, -, hthere, -⟩ := violation_eq_none_iff.mp hswappedValid
      change db.hasIdentityItem second.delta.targetIdentityItemId = true at hthere
      rw [htarget] at hthere
      unfold Database.hasIdentityItem at hthere
      rw [Option.all_some, List.any_eq_true] at hthere
      obtain ⟨row, hrow, hid⟩ := hthere
      exact hfirstFresh row hrow (of_decide_eq_true hid)
  · intro h
    refine ⟨second.after now db, first.after later (second.after now db), ?_, ?_⟩
    · refine accepted_iff.mpr ⟨fun item hitem => ?_, ?_, rfl⟩
      · by_cases hstill : item ∈ listed second.delta.category (first.after now db)
        · exact hsecondFaults item hstill
        · exact h.harmless item hitem hstill
      · refine violation_eq_none_iff.mpr ⟨hsecondChecks, fun other hother => ?_,
          hsecondProposal, ?_, rfl⟩
        · exact hsecondFresh other (List.mem_append_left _ hother)
        · exact hasIdentityItem_of_after h.target hsecondTarget
    · refine accepted_iff.mpr ⟨fun item hitem => ?_, ?_, rfl⟩
      · have hitem' : item ∈ listed second.delta.category (second.after now db) := by
          rw [← hcategory]
          exact hitem
        rcases mem_listed_after hitem' with rfl | hold
        · exact (additionFault_stored hkeys).mpr (h.unrivalled hitem)
        · rw [← hcategory] at hold
          exact hfirstFaults item hold
      · refine violation_eq_none_iff.mpr ⟨hfirstChecks, fun other hother => ?_,
          hfirstProposal, hasIdentityItem_after hfirstTarget, rfl⟩
        rcases List.mem_append.mp hother with hold | hnew
        · exact hfirstFresh other hold
        · obtain rfl := List.mem_singleton.mp hnew
          have hdifferent := hsecondFresh (first.stored now)
            (List.mem_append_right _ List.mem_cons_self)
          exact fun heq => hdifferent heq.symm

/-- A text is a duplicate of itself. -/
theorem additionFault_self {item : IdentityItemRecord}
    (hvalue : item.valueText = addition.delta.value) :
    additionFault tables addition.delta item ≠ none := by
  unfold additionFault
  rw [hvalue]
  by_cases hkey : item.itemKey = addition.delta.itemKey
  · simp [hkey]
  · simp [hkey]

end Additions

/-- Near-duplicates are recognized from both sides, and additions go through in both orders,
exactly as far as this says; an addition of a text that is listed is always turned down. -/
theorem duplicate_detection_order (tables : Text.Tables) (left right : String)
    (first second : Addition) (now later : DateTime) (db : Database)
    (hcategory : first.delta.category = second.delta.category)
    (hkeys : first.delta.itemKey ≠ second.delta.itemKey)
    (haccepted : AcceptedInOrder tables first second now later db) :
    (identityTextsAreNearDuplicates left right = identityTextsAreNearDuplicates right left ↔
        SameSide left right) ∧
      (AcceptedInOrder tables second first now later db ↔
        Exchangeable tables first second now later db) ∧
      ∀ (addition : Addition) (item : IdentityItemRecord),
        item ∈ listed addition.delta.category db → item.valueText = addition.delta.value →
          ∃ reason, identityDeltaControlRejection tables addition.delta db = some reason := by
  refine ⟨nearDuplicates_comm_iff, acceptedInOrder_swap_iff hcategory hkeys haccepted, ?_⟩
  intro addition item hitem hvalue
  apply Option.ne_none_iff_exists'.mp
  unfold identityDeltaControlRejection
  rw [addition.adds]
  intro hnone
  exact additionFault_self hvalue (List.findSome?_eq_none_iff.mp hnone item hitem)

/-! ### A text with a repeated word -/

/-- The user adds a trait. -/
def traitAddition (itemKey value : String) (identityItemId : Uuid) : Addition where
  context := sampleContext
  proposal := coreDescription
  delta :=
    { operation := .add, stabilityClass := .evolving, category := .foundationalTrait
      itemKey := itemKey, value := value, confidencePct := 90, source := .userAuthored
      mergePolicy := .revisable }
  identityItemId := identityItemId
  adds := rfl

/-- Four traits. -/
def severalTraits : Addition := traitAddition "traits" "calm warm kind direct" 5

/-- Two traits that share no word. -/
def otherTraits : Addition := traitAddition "manner" "patient and very precise" 6

/-- One trait, four times. -/
def oneTrait : Addition := traitAddition "temper" "calm calm calm calm" 6

theorem acceptedInOrder_of_accepted {tables : Text.Tables} {first second : Addition}
    {now later : DateTime} {db : Database}
    (hfirst : first.Accepted tables now db (first.after now db))
    (hsecond : second.Accepted tables later (first.after now db)
      (second.after later (first.after now db))) :
    AcceptedInOrder tables first second now later db :=
  ⟨_, _, hfirst, hsecond⟩

theorem duplicate_detection_order_traits :
    (identityTextsAreNearDuplicates "calm warm kind direct" "patient and very precise" =
          identityTextsAreNearDuplicates "patient and very precise" "calm warm kind direct" ↔
        SameSide "calm warm kind direct" "patient and very precise") ∧
      (AcceptedInOrder Text.Tables.ascii otherTraits severalTraits 7 8 noIdentity.db ↔
        Exchangeable Text.Tables.ascii severalTraits otherTraits 7 8 noIdentity.db) ∧
      ∀ (addition : Addition) (item : IdentityItemRecord),
        item ∈ listed addition.delta.category noIdentity.db →
          item.valueText = addition.delta.value →
            ∃ reason, identityDeltaControlRejection Text.Tables.ascii addition.delta
              noIdentity.db = some reason :=
  duplicate_detection_order Text.Tables.ascii _ _ severalTraits otherTraits 7 8 noIdentity.db rfl
    (by decide) (acceptedInOrder_of_accepted
      (accepted_iff.mpr ⟨by decide +kernel, by decide +kernel, rfl⟩)
      (accepted_iff.mpr ⟨by decide +kernel, by decide +kernel, rfl⟩))

/-- All the words of the one text occur in the other, but only one of the words of the other in
it: the additions go through in one order and not in the other. -/
theorem repeated_word_not_symmetric :
    identityTextsAreNearDuplicates oneTrait.delta.value severalTraits.delta.value ≠
        identityTextsAreNearDuplicates severalTraits.delta.value oneTrait.delta.value ∧
      AcceptedInOrder Text.Tables.ascii severalTraits oneTrait 7 8 noIdentity.db ∧
      ¬ AcceptedInOrder Text.Tables.ascii oneTrait severalTraits 7 8 noIdentity.db := by
  refine ⟨by decide +kernel, ?_, ?_⟩
  · exact acceptedInOrder_of_accepted
      (accepted_iff.mpr ⟨by decide +kernel, by decide +kernel, rfl⟩)
      (accepted_iff.mpr ⟨by decide +kernel, by decide +kernel, rfl⟩)
  · rintro ⟨db₁, db₂, hfirst, hsecond⟩
    obtain ⟨-, -, rfl⟩ := accepted_iff.mp hfirst
    obtain ⟨hfaults, -, -⟩ := accepted_iff.mp hsecond
    have hlisted : oneTrait.stored 7 ∈ listed .foundationalTrait
        (oneTrait.after 7 noIdentity.db) := by decide +kernel
    have hfault := hfaults _ hlisted
    revert hfault
    decide +kernel

end BlueLagoon.Identity
