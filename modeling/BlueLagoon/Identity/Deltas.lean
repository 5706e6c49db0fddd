import BlueLagoon.Identity.Store

/-!
# Deltas of identity items

What a merge does with one item delta, and with the delta of the self-description. Both
run inside the transaction of the merge: a delta goes through and names the item it left,
is turned down with a reason, or breaks a constraint. The id that the source draws for a
new item is a parameter.
-/

namespace BlueLagoon

namespace Identity

/-! ## Texts -/

/-- `normalize_identity_text`. -/
def normalizeIdentityText (tables : Text.Tables) (value : String) : String :=
  String.intercalate " " (Text.splitWhitespace (String.ofList
    ((tables.toLowercase (Text.trim value)).toList.map fun c =>
      if tables.isAlphanumeric c then c else ' ')))

/-- `identity_texts_are_near_duplicates`. -/
def identityTextsAreNearDuplicates (left right : String) : Bool :=
  let leftTokens := Text.splitWhitespace left
  let rightTokens := Text.splitWhitespace right
  if left.isEmpty || right.isEmpty then false
  else if leftTokens.length < 4 || rightTokens.length < 4 then false
  else
    let shared := leftTokens.countP fun token => rightTokens.contains token
    decide (shared * 5 ≥ min leftTokens.length rightTokens.length * 4)

/-! ## Targets -/

/-- `resolve_identity_delta_target_in_tx`. -/
def resolveIdentityDeltaTarget (delta : IdentityItemDelta) (db : Database) : Option Uuid :=
  match delta.targetIdentityItemId with
  | some targetItemId =>
    if (getActiveIdentityItem targetItemId db).isSome then some targetItemId else none
  | none => findActiveIdentityItemByKey delta.category delta.itemKey db

/-- An item that no delta may weaken, replace or expire. -/
def isProtected (item : IdentityItemRecord) : Bool :=
  item.mergePolicy = .protectedCore || item.stabilityClass = .stable

/-- The fault of an added item beside an active one, in the loop of
`identity_delta_control_rejection_in_tx`. -/
def additionFault (tables : Text.Tables) (delta : IdentityItemDelta) (item : IdentityItemRecord) :
    Option String :=
  let normalizedDelta := normalizeIdentityText tables delta.value
  let normalizedExisting := normalizeIdentityText tables item.valueText
  let id := item.identityItemId
  let category := item.category.asStr
  if item.itemKey = delta.itemKey && normalizedExisting = normalizedDelta then
    some s!"identity_delta duplicate active identity item {id} in category {category}"
  else if item.itemKey = delta.itemKey then
    some s!"identity_delta contradicts active identity item {id} in category {category}"
  else if normalizedExisting = normalizedDelta ||
      identityTextsAreNearDuplicates normalizedExisting normalizedDelta then
    some s!"identity_delta near-duplicate active identity item {id} in category {category}"
  else none

/-- The active item a delta is about. -/
def targetItem (delta : IdentityItemDelta) (db : Database) : Option IdentityItemRecord :=
  (resolveIdentityDeltaTarget delta db).bind fun id => getActiveIdentityItem id db

/-- `identity_delta_control_rejection_in_tx`. -/
def identityDeltaControlRejection (tables : Text.Tables) (delta : IdentityItemDelta)
    (db : Database) : Option String :=
  match delta.operation with
  | .add =>
    (listActiveIdentityItemsByCategory delta.category db).findSome? (additionFault tables delta)
  | .reinforce =>
    (targetItem delta db).bind fun target =>
      let itemKey := target.itemKey
      if normalizeIdentityText tables target.valueText ≠ normalizeIdentityText tables delta.value then
        some s!"identity_delta reinforce value contradicts active identity item {itemKey}"
      else none
  | .weaken | .revise | .supersede | .expire =>
    (targetItem delta db).bind fun target =>
      let operation := delta.operation.asStr
      let itemKey := target.itemKey
      if isProtected target then
        some s!"identity_delta {operation} would drift protected stable identity item {itemKey}"
      else none

/-! ## Rows -/

/-- `identity_item_from_delta`. -/
def identityItemFromDelta (context : ProposalProcessingContext) (proposal : CanonicalProposal)
    (delta : IdentityItemDelta) (identityItemId : Uuid) : IdentityItemRecord where
  identityItemId := identityItemId
  proposalId := some proposal.proposalId
  traceId := some context.traceId
  stabilityClass := delta.stabilityClass
  category := delta.category
  itemKey := delta.itemKey
  valueText := delta.value
  confidence := delta.confidencePct.toNat
  weight := delta.weightPct.map UInt8.toNat
  provenanceKind := proposal.provenance.provenanceKind
  sourceKind := delta.source.asStr
  mergePolicy := delta.mergePolicy
  status := .active
  evidenceRefs := delta.evidenceRefs
  validFrom := delta.validFrom.or proposal.validFrom
  validTo := delta.validTo.or proposal.validTo
  supersedesItemId := delta.targetIdentityItemId

/-- `self_description_item_from_delta`. -/
def selfDescriptionItemFromDelta (context : ProposalProcessingContext)
    (proposal : CanonicalProposal) (delta : SelfDescriptionDelta) (identityItemId : Uuid)
    (supersedesItemId : Option Uuid) : IdentityItemRecord where
  identityItemId := identityItemId
  proposalId := some proposal.proposalId
  traceId := some context.traceId
  stabilityClass := .evolving
  category := .recurringSelfDescription
  itemKey := "self_description"
  valueText := delta.description
  confidence := proposal.confidencePct.toNat
  weight := some 80
  provenanceKind := proposal.provenance.provenanceKind
  sourceKind := "identity_delta"
  mergePolicy := .revisable
  status := .active
  evidenceRefs := delta.evidenceRefs
  validFrom := proposal.validFrom
  validTo := proposal.validTo
  supersedesItemId := supersedesItemId

/-! ## Applying a delta -/

inductive IdentityDeltaMergeOutcome
  | accepted (identityItemId : Uuid)
  | rejected (reason : String)
  deriving DecidableEq, Repr

/-- A delta that went through. -/
def acceptedWith (identityItemId : Uuid) (db : Database) : IdentityDeltaMergeOutcome × Database :=
  (.accepted identityItemId, db)

/-- A new item that takes the place of an active one. -/
def replaceItem (row : IdentityItemRecord) (targetItemId : Uuid) (now : DateTime) (db : Database) :
    Except ErrorChain Database := do
  let inserted ← insertIdentityItem { row with supersedesItemId := some targetItemId } now db
  updateActiveItem targetItemId (superseded row.identityItemId now) inserted

/-- The branches of `apply_identity_item_delta_in_tx`, for a delta that is not turned down. -/
def writeIdentityItemDelta (context : ProposalProcessingContext) (proposal : CanonicalProposal)
    (delta : IdentityItemDelta) (identityItemId : Uuid) (now : DateTime) (db : Database) :
    Except ErrorChain (IdentityDeltaMergeOutcome × Database) :=
  let row := identityItemFromDelta context proposal delta identityItemId
  let operation := delta.operation.asStr
  let itemKey := delta.itemKey
  match delta.operation, resolveIdentityDeltaTarget delta db with
  | .add, _ => (insertIdentityItem row now db).map (acceptedWith identityItemId)
  | _, none => .ok (.rejected s!"identity_delta {operation} target not found for {itemKey}", db)
  | .reinforce, some targetItemId =>
    (updateActiveItem targetItemId
      (reinforced delta.confidencePct.toNat (delta.weightPct.map UInt8.toNat) now) db).map
      (acceptedWith targetItemId)
  | .weaken, some targetItemId =>
    (updateActiveItem targetItemId
      (weakened delta.confidencePct.toNat (delta.weightPct.map UInt8.toNat) now) db).map
      (acceptedWith targetItemId)
  | .revise, some targetItemId | .supersede, some targetItemId =>
    (replaceItem row targetItemId now db).map (acceptedWith identityItemId)
  | .expire, some targetItemId =>
    (updateActiveItem targetItemId (expired now) db).map (acceptedWith targetItemId)

/-- `apply_identity_item_delta_in_tx`. -/
def applyIdentityItemDelta (tables : Text.Tables) (context : ProposalProcessingContext)
    (proposal : CanonicalProposal) (delta : IdentityItemDelta) (identityItemId : Uuid)
    (now : DateTime) (db : Database) : Except ErrorChain (IdentityDeltaMergeOutcome × Database) :=
  match identityDeltaControlRejection tables delta db with
  | some reason => .ok (.rejected reason, db)
  | none => writeIdentityItemDelta context proposal delta identityItemId now db

/-- The item a delta of the self-description is about. -/
def selfDescriptionTarget (db : Database) : Option Uuid :=
  findActiveIdentityItemByKey .recurringSelfDescription "self_description" db

/-- `apply_self_description_delta_in_tx`. -/
def applySelfDescriptionDelta (context : ProposalProcessingContext) (proposal : CanonicalProposal)
    (delta : SelfDescriptionDelta) (identityItemId : Uuid) (now : DateTime) (db : Database) :
    Except ErrorChain (IdentityDeltaMergeOutcome × Database) :=
  match delta.operation, selfDescriptionTarget db with
  | .add, _ =>
    (insertIdentityItem (selfDescriptionItemFromDelta context proposal delta identityItemId none)
      now db).map (acceptedWith identityItemId)
  | _, none => .ok (.rejected "self_description_delta target not found", db)
  | .revise, some targetItemId | .supersede, some targetItemId =>
    (replaceItem (selfDescriptionItemFromDelta context proposal delta identityItemId
      (some targetItemId)) targetItemId now db).map (acceptedWith identityItemId)
  | .reinforce, some targetItemId =>
    (updateActiveItem targetItemId (reinforced proposal.confidencePct.toNat (some 80) now) db).map
      (acceptedWith targetItemId)
  | .weaken, some targetItemId =>
    (updateActiveItem targetItemId (weakened proposal.confidencePct.toNat (some 20) now) db).map
      (acceptedWith targetItemId)
  | .expire, some targetItemId =>
    (updateActiveItem targetItemId (expired now) db).map (acceptedWith targetItemId)

end Identity

end BlueLagoon
