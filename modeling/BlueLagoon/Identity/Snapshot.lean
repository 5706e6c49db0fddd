import BlueLagoon.Harness
import Mathlib.Data.Prod.Lex
import Mathlib.Data.String.Basic

/-!
# The compact snapshot of the identity

The active items as `list_active_identity_items` orders and cuts them, and the snapshot that
is read off them. The confidence and weight of a compact item are in hundredths, as in the
rows.
-/

namespace BlueLagoon

open Interleaving Harness

/-- The text of `stability_class`. -/
def IdentityStabilityClass.asStr : IdentityStabilityClass → String
  | stable => "stable"
  | evolving => "evolving"
  | transientProjection => "transient_projection"

structure CompactIdentityItem where
  category : IdentityItemCategory
  value : String
  confidencePct : Nat
  weightPct : Option Nat
  deriving DecidableEq, Repr

structure CompactIdentitySnapshot where
  identitySummary : String := ""
  stableItems : List CompactIdentityItem := []
  evolvingItems : List CompactIdentityItem := []
  values : List String := []
  boundaries : List String := []
  selfDescription : Option String := none
  deriving DecidableEq, Repr

namespace Identity

/-! ## The listing -/

/-- `WHERE status = 'active'`. -/
def activeItems (items : List IdentityItemRecord) : List IdentityItemRecord :=
  items.filter fun row => row.status = .active

/-- What the first two columns of the order compare: their texts, not the order in which the
code declares the classes and categories. -/
def listingKey (row : IdentityItemRecord) : String ×ₗ String :=
  toLex (row.stabilityClass.asStr, row.category.asStr)

/-- `ORDER BY stability_class ASC, category ASC, updated_at DESC`. -/
def listedBefore (a b : IdentityItemRecord) : Prop :=
  listingKey a < listingKey b ∨ (listingKey a = listingKey b ∧ b.updatedAt ≤ a.updatedAt)

instance : DecidableRel listedBefore := fun _ _ => inferInstanceAs (Decidable (_ ∨ _))

/-- `list_active_identity_items`. -/
def listActiveIdentityItems (limit : Nat) (db : Database) : List IdentityItemRecord :=
  ((activeItems db.identityItems).insertionSort listedBefore).take limit

/-! ## The snapshot -/

/-- A row as an item of the snapshot. -/
def compactItem (row : IdentityItemRecord) : CompactIdentityItem where
  category := row.category
  value := row.valueText
  confidencePct := row.confidence
  weightPct := row.weight

/-- The values of the items of a category. -/
def valuesOf (category : IdentityItemCategory) (items : List CompactIdentityItem) : List String :=
  (items.filter fun item => item.category = category).map CompactIdentityItem.value

/-- What `reconstruct_compact_identity_snapshot` makes of the rows. -/
def compactIdentitySnapshot (rows : List IdentityItemRecord) : CompactIdentitySnapshot :=
  let stableItems := (rows.filter fun row => row.stabilityClass = .stable).map compactItem
  let evolvingItems := (rows.filter fun row => row.stabilityClass ≠ .stable).map compactItem
  { identitySummary := (valuesOf .name stableItems).headD "Identity snapshot"
    stableItems := stableItems
    evolvingItems := evolvingItems
    values := valuesOf .foundationalValue stableItems
    boundaries := valuesOf .enduringBoundary stableItems
    selfDescription := (valuesOf .recurringSelfDescription evolvingItems).head? }

/-- `reconstruct_compact_identity_snapshot`. -/
def reconstructCompactIdentitySnapshot (limit : Nat) : Harness CompactIdentitySnapshot :=
  inTransaction fun _ db =>
    .ok { value := compactIdentitySnapshot (listActiveIdentityItems limit db), db := db }

/-- The snapshot is a read. -/
theorem reconstructCompactIdentitySnapshot_confined {B : Database → Database → List Event → Prop}
    (refl : ∀ db, B db db []) (limit : Nat) :
    (reconstructCompactIdentitySnapshot limit).Confined (OnDb B) := by
  apply confined_inTransaction refl
  intro now db effect hbody
  obtain rfl := Except.ok.inj hbody
  exact refl db

end Identity

end BlueLagoon
