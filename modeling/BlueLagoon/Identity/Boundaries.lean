import BlueLagoon.Identity.Snapshot
import BlueLagoon.Ranking

/-!
# The boundaries a limit leaves

The policy of governed actions and the review of wake signals both read the boundaries of
the identity off the snapshot of the first 32 active items. The listing is in the order of
its text columns, and "evolving" comes before "stable", so it is the other items that decide
which boundaries are read: all the boundaries are, exactly when the items that sort before
them leave room.
-/

namespace BlueLagoon.Identity

/-! ## Listings -/

/-- The active items in an order the statement allows: rows that agree in all three columns
can come in any order. -/
structure Listing (items rows : List IdentityItemRecord) : Prop where
  perm : rows.Perm (activeItems items)
  sorted : rows.Pairwise listedBefore

theorem listedBefore_total (a b : IdentityItemRecord) : listedBefore a b ∨ listedBefore b a := by
  unfold listedBefore
  rcases lt_trichotomy (listingKey a) (listingKey b) with hlt | heq | hgt
  · exact Or.inl (Or.inl hlt)
  · rcases le_total b.updatedAt a.updatedAt with hle | hle
    · exact Or.inl (Or.inr ⟨heq, hle⟩)
    · exact Or.inr (Or.inr ⟨heq.symm, hle⟩)
  · exact Or.inr (Or.inl hgt)

theorem listedBefore_trans {a b c : IdentityItemRecord} (hab : listedBefore a b)
    (hbc : listedBefore b c) : listedBefore a c := by
  rcases hab with hab | ⟨hab, hnewer⟩
  · rcases hbc with hbc | ⟨hbc, -⟩
    · exact Or.inl (hab.trans hbc)
    · exact Or.inl (hbc ▸ hab)
  · rcases hbc with hbc | ⟨hbc, holder⟩
    · exact Or.inl (hab ▸ hbc)
    · exact Or.inr ⟨hab.trans hbc, holder.trans hnewer⟩

theorem key_le_of_listedBefore {a b : IdentityItemRecord} (h : listedBefore a b) :
    listingKey a ≤ listingKey b := by
  rcases h with hlt | ⟨heq, -⟩
  · exact hlt.le
  · exact heq.le

/-- The listing of the model is one of them. -/
theorem listing_insertionSort (items : List IdentityItemRecord) :
    Listing items ((activeItems items).insertionSort listedBefore) where
  perm := List.perm_insertionSort _ _
  sorted := by
    have htotal : Std.Total listedBefore := ⟨listedBefore_total⟩
    have htrans : IsTrans IdentityItemRecord listedBefore := ⟨fun _ _ _ => listedBefore_trans⟩
    exact List.pairwise_insertionSort _ _

/-! ## Boundaries -/

/-- An active stable item of category `enduring_boundary`. -/
def isBoundary (row : IdentityItemRecord) : Prop :=
  row.status = .active ∧ row.stabilityClass = .stable ∧ row.category = .enduringBoundary

instance : DecidablePred isBoundary := fun _ => inferInstanceAs (Decidable (_ ∧ _))

/-- The texts of the boundaries among the items. -/
def boundaryTexts (items : List IdentityItemRecord) : List String :=
  (items.filter fun row => isBoundary row).map IdentityItemRecord.valueText

/-- The columns of a boundary. -/
def boundaryKey : String ×ₗ String := toLex ("stable", "enduring_boundary")

/-- How many active items come before the boundaries. -/
def aheadOfBoundaries (items : List IdentityItemRecord) : Nat :=
  Ranking.ahead listingKey boundaryKey (activeItems items)

theorem listingKey_eq_boundaryKey {row : IdentityItemRecord} :
    listingKey row = boundaryKey ↔
      row.stabilityClass = .stable ∧ row.category = .enduringBoundary := by
  rw [listingKey, boundaryKey, EmbeddingLike.apply_eq_iff_eq, Prod.mk.injEq]
  apply and_congr
  · cases row.stabilityClass <;> decide
  · cases row.category <;> decide

/-- The boundaries of a snapshot are the rows with the columns of a boundary. -/
theorem boundaries_compactIdentitySnapshot (rows : List IdentityItemRecord) :
    (compactIdentitySnapshot rows).boundaries =
      (Ranking.ofRank listingKey boundaryKey rows).map IdentityItemRecord.valueText := by
  show valuesOf .enduringBoundary
    ((rows.filter fun row => row.stabilityClass = .stable).map compactItem) = _
  unfold valuesOf Ranking.ofRank
  rw [List.filter_map, List.map_map, List.filter_filter]
  have hsame : (fun row : IdentityItemRecord => decide (listingKey row = boundaryKey)) =
      fun row => decide (row.category = .enduringBoundary) &&
        decide (row.stabilityClass = .stable) := by
    funext row
    rw [Bool.eq_iff_iff]
    simp only [decide_eq_true_eq, Bool.and_eq_true, listingKey_eq_boundaryKey]
    exact and_comm
  rw [hsame]
  rfl

theorem boundaryTexts_eq (items : List IdentityItemRecord) :
    boundaryTexts items =
      (Ranking.ofRank listingKey boundaryKey (activeItems items)).map
        IdentityItemRecord.valueText := by
  unfold boundaryTexts Ranking.ofRank activeItems
  rw [List.filter_filter]
  congr 2
  funext row
  rw [Bool.eq_iff_iff, Bool.and_eq_true, decide_eq_true_iff, decide_eq_true_iff,
    decide_eq_true_iff, listingKey_eq_boundaryKey]
  exact and_comm

theorem boundaryTexts_append {items added : List IdentityItemRecord}
    (hadded : ∀ row ∈ added, ¬ isBoundary row) :
    boundaryTexts (items ++ added) = boundaryTexts items := by
  have hnone : added.filter (fun row => isBoundary row) = [] := by
    rw [List.filter_eq_nil_iff]
    intro row hrow
    simpa using hadded row hrow
  rw [boundaryTexts, List.filter_append, hnone, List.append_nil, boundaryTexts]

theorem aheadOfBoundaries_append (items added : List IdentityItemRecord) :
    aheadOfBoundaries (items ++ added) = aheadOfBoundaries items + aheadOfBoundaries added := by
  unfold aheadOfBoundaries activeItems
  rw [List.filter_append, Ranking.ahead_append]

/-! ## What is read -/

section Listings

variable {items rows : List IdentityItemRecord}

/-- The boundaries that are read are boundaries of the items, each as often as it is there. -/
theorem Listing.boundaries_subperm (h : Listing items rows) (limit : Nat) :
    (compactIdentitySnapshot (rows.take limit)).boundaries.Subperm (boundaryTexts items) := by
  rw [boundaries_compactIdentitySnapshot, boundaryTexts_eq]
  have hsub : (Ranking.ofRank listingKey boundaryKey (rows.take limit)).Sublist
      (Ranking.ofRank listingKey boundaryKey rows) := (List.take_sublist limit rows).filter _
  have hperm : (Ranking.ofRank listingKey boundaryKey rows).Perm
      (Ranking.ofRank listingKey boundaryKey (activeItems items)) :=
    Ranking.ofRank_perm h.perm boundaryKey
  exact (hsub.map _).subperm.trans (hperm.map _).subperm

/-- All the boundaries are read exactly when the items before them leave room. -/
theorem Listing.boundaryTexts_subperm (h : Listing items rows) (limit : Nat) :
    (boundaryTexts items).Subperm (compactIdentitySnapshot (rows.take limit)).boundaries ↔
      boundaryTexts items = [] ∨
        aheadOfBoundaries items + (boundaryTexts items).length ≤ limit := by
  have hperm : (Ranking.ofRank listingKey boundaryKey rows).Perm
      (Ranking.ofRank listingKey boundaryKey (activeItems items)) :=
    Ranking.ofRank_perm h.perm boundaryKey
  have hsorted : rows.Pairwise fun a b => listingKey a ≤ listingKey b :=
    h.sorted.imp key_le_of_listedBefore
  have hroom := Ranking.length_ofRank_take hsorted boundaryKey limit
  have hlength : (boundaryTexts items).length =
      (Ranking.ofRank listingKey boundaryKey rows).length := by
    rw [boundaryTexts_eq, List.length_map, hperm.length_eq]
  have hread : (compactIdentitySnapshot (rows.take limit)).boundaries.length =
      (Ranking.ofRank listingKey boundaryKey (rows.take limit)).length := by
    rw [boundaries_compactIdentitySnapshot, List.length_map]
  have hahead : aheadOfBoundaries items = Ranking.ahead listingKey boundaryKey rows :=
    (Ranking.ahead_perm h.perm boundaryKey).symm
  have hempty : boundaryTexts items = [] ↔ Ranking.ofRank listingKey boundaryKey rows = [] := by
    rw [← List.length_eq_zero_iff, ← List.length_eq_zero_iff, hlength]
  rw [hempty, hahead, hlength, ← hroom, ← hread, ← hlength]
  constructor
  · intro hsub
    exact hsub.length_le
  · intro hle
    -- one of the two contains the other, so they agree once their lengths do
    exact ((h.boundaries_subperm limit).perm_of_length_le hle).symm.subperm

end Listings

/-! ## Boundaries that stay -/

/-- Every boundary among the items is read, within the limit and in whatever order the
statement lists them, and it still is when more items are there. -/
structure BoundariesKept (limit : Nat) (items added : List IdentityItemRecord) : Prop where
  read : ∀ rows, Listing items rows →
    (boundaryTexts items).Subperm (compactIdentitySnapshot (rows.take limit)).boundaries
  kept : ∀ rows rows', Listing items rows → Listing (items ++ added) rows' →
    (compactIdentitySnapshot (rows.take limit)).boundaries.Subperm
      (compactIdentitySnapshot (rows'.take limit)).boundaries

/-- Both callers read with the limit 32. -/
theorem boundariesKept_iff (limit : Nat) (items added : List IdentityItemRecord)
    (hadded : ∀ row ∈ added, ¬ isBoundary row) :
    BoundariesKept limit items added ↔ boundaryTexts items = [] ∨
      aheadOfBoundaries (items ++ added) + (boundaryTexts items).length ≤ limit := by
  have htexts : boundaryTexts (items ++ added) = boundaryTexts items :=
    boundaryTexts_append hadded
  constructor
  · intro h
    have hfirst := listing_insertionSort items
    have hlast := listing_insertionSort (items ++ added)
    have hread := (h.read _ hfirst).trans (h.kept _ _ hfirst hlast)
    rw [← htexts] at hread
    have hroom := (hlast.boundaryTexts_subperm limit).mp hread
    rwa [htexts] at hroom
  · intro hroom
    have hbefore : boundaryTexts items = [] ∨
        aheadOfBoundaries items + (boundaryTexts items).length ≤ limit := by
      rw [aheadOfBoundaries_append] at hroom
      rcases hroom with hempty | hroom
      · exact Or.inl hempty
      · right
        omega
    constructor
    · intro rows hrows
      exact (hrows.boundaryTexts_subperm limit).mpr hbefore
    · intro rows rows' hrows hrows'
      rw [← htexts] at hroom
      have hread := (hrows'.boundaryTexts_subperm limit).mpr hroom
      rw [htexts] at hread
      exact (hrows.boundaries_subperm limit).trans hread

/-! ## A boundary that is dropped -/

/-- An active item of the identity. -/
def activeItem (identityItemId : Uuid) (stabilityClass : IdentityStabilityClass)
    (category : IdentityItemCategory) (valueText : String) : IdentityItemRecord where
  identityItemId := identityItemId
  proposalId := none
  traceId := none
  stabilityClass := stabilityClass
  category := category
  itemKey := valueText
  valueText := valueText
  confidence := 80
  weight := none
  provenanceKind := .selfModelReflection
  sourceKind := "model_inferred"
  mergePolicy := .reinforceable
  status := .active
  evidenceRefs := []
  validFrom := none
  validTo := none

/-- The one boundary of an identity. -/
def noNetwork : IdentityItemRecord := activeItem 1 .stable .enduringBoundary "no network"

/-- Preferences that were learned. -/
def learnedPreferences : List IdentityItemRecord :=
  (List.range 32).map fun n => activeItem (n + 2) .evolving .preference "short answers"

theorem boundariesKept_iff_noNetwork :
    (∀ row ∈ learnedPreferences.take 31, ¬ isBoundary row) ∧
      (BoundariesKept 32 [noNetwork] (learnedPreferences.take 31) ↔
        boundaryTexts [noNetwork] = [] ∨
          aheadOfBoundaries ([noNetwork] ++ learnedPreferences.take 31) +
            (boundaryTexts [noNetwork]).length ≤ 32) :=
  ⟨by decide +kernel, boundariesKept_iff 32 [noNetwork] (learnedPreferences.take 31)
    (by decide +kernel)⟩

/-- With 32 preferences learned, the boundary is not read any more. -/
theorem noNetwork_dropped :
    (∀ row ∈ learnedPreferences, ¬ isBoundary row) ∧
      ¬ BoundariesKept 32 [noNetwork] learnedPreferences := by
  refine ⟨by decide +kernel, fun h => ?_⟩
  have hfirst := listing_insertionSort [noNetwork]
  have hlast := listing_insertionSort ([noNetwork] ++ learnedPreferences)
  have hread := (h.read _ hfirst).trans (h.kept _ _ hfirst hlast)
  rw [← boundaryTexts_append (by decide +kernel : ∀ row ∈ learnedPreferences, ¬ isBoundary row),
    hlast.boundaryTexts_subperm] at hread
  revert hread
  decide +kernel

end BlueLagoon.Identity
