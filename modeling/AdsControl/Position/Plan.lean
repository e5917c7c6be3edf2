import AdsControl.Calendar
import AdsControl.Text
import AdsControl.Lib.SortByKey
import AdsControl.Lib.Tally

/-!
# Position targets and their queries

Monitors of the same phrase, region and depth share one public query. A batch is planned for a half-hour slot:
its targets are grouped into queries, which are few overall and few per region, and every query asks for the
products of its targets.

* `MonitorTarget`, `SearchHit`: validated values;
* `BatchPlan.new`: the plan of a list of targets;
* `QueryScan.intoObservations`: one scan read as an observation for every target of its query.
-/

namespace AdsControl.Position

open Fallible OrderedMap SortByKey Std Tally

/-- The most targets of a batch. -/
def maxTargetsPerBatch : ℕ := 4096

/-- The most queries of a batch. -/
def maxQueriesPerBatch : ℕ := 64

/-- The most queries of a region. -/
def maxQueriesPerRegionPerBatch : ℕ := 16

/-- The deepest position of a public result. -/
def maxPublicResults : ℕ := 100

/-- Why a value is refused. -/
inductive ValidationError
  | nonPositiveId (field : String)
  | invalidText (field : String) (maxBytes : ℕ)
  | invalidProductId
  | invalidMaxPosition
  | invalidSlot
  | invalidTargetCount
  | tooManyQueries
  | tooManyRegionQueries
  | duplicateMonitorId (id : ℤ)
  | inconsistentRegionName
  | regionMismatch
  | regionUnconfirmed
  | incompleteScan
  | invalidHitPosition
  | tooManyHits
  | observationOutsideSlot
  deriving DecidableEq

/-! ## Texts -/

/-- Bounded text without control characters. -/
def IsText (maxBytes : ℕ) (s : String) : Prop :=
  s ≠ "" ∧ s.utf8ByteSize ≤ maxBytes ∧ ¬ s.toList.any isControl

instance (maxBytes : ℕ) (s : String) : Decidable (IsText maxBytes s) :=
  inferInstanceAs (Decidable (_ ∧ _ ∧ _))

/-- A trimmed text within its length. -/
abbrev BoundedText (maxBytes : ℕ) : Type := { s : String // IsText maxBytes s }

/-- A text of digits. -/
abbrev ProductId : Type := { s : BoundedText 128 // s.val.toList.all Char.isDigit }

/-- Trim a text and check it. -/
def validateText (field value : String) (maxBytes : ℕ) : Except ValidationError (BoundedText maxBytes) :=
  let trimmed := String.ofList (trim value)
  if h : IsText maxBytes trimmed then .ok ⟨trimmed, h⟩ else .error (.invalidText field maxBytes)

/-- Trim a product's id and check it. -/
def validateProductId (value : String) : Except ValidationError ProductId := do
  let text ← validateText "product_id" value 128
  if h : text.val.toList.all Char.isDigit then .ok ⟨text, h⟩ else .error .invalidProductId

/-- The words of a text. -/
def splitWhitespace (value : String) : List String :=
  ((value.toList.splitOnP isWhitespace).filter (· ≠ [])).map String.ofList

/-- Lower case is the one of Unicode. -/
def normalizePhrase (lowercase : String → String) (value : String) : String :=
  String.intercalate " " ((splitWhitespace value).map lowercase)

/-! ## Targets -/

/-- A product whose position for a phrase is monitored. -/
structure MonitorTarget where
  monitorId : ℤ
  storeId : BoundedText 128
  productId : ProductId
  searchPhrase : BoundedText 256
  regionCode : BoundedText 64
  regionName : BoundedText 128
  maxPosition : ℕ
  monitorId_pos : 0 < monitorId
  maxPosition_mem : 1 ≤ maxPosition ∧ maxPosition ≤ maxPublicResults
  deriving DecidableEq

/-- A target of valid parts. -/
def MonitorTarget.new (monitorId : ℤ) (storeId productId searchPhrase regionCode regionName : String)
    (maxPosition : ℕ) : Except ValidationError MonitorTarget :=
  if hid : 0 < monitorId then do
    let storeId ← validateText "store_id" storeId 128
    let productId ← validateProductId productId
    let searchPhrase ← validateText "search_phrase" searchPhrase 256
    let regionCode ← validateText "region_code" regionCode 64
    let regionName ← validateText "region_name" regionName 128
    if hmax : 1 ≤ maxPosition ∧ maxPosition ≤ maxPublicResults then
      .ok ⟨monitorId, storeId, productId, searchPhrase, regionCode, regionName, maxPosition, hid, hmax⟩
    else .error .invalidMaxPosition
  else .error (.nonPositiveId "monitor_id")

/-- Region, normalized phrase and depth of a query. -/
abbrev QueryKey : Type := String ×ₗ String ×ₗ ℕ

instance QueryKey.transOrd : TransOrd QueryKey := inferInstance

/-- What targets of one query share. -/
def MonitorTarget.queryKey (lowercase : String → String) (target : MonitorTarget) : QueryKey :=
  toLex (target.regionCode.val,
    toLex (normalizePhrase lowercase target.searchPhrase.val, target.maxPosition))

/-! ## Plans -/

/-- A query of a region. -/
structure QueryRequest where
  slot : ℤ
  regionCode : String
  regionName : String
  searchPhrase : String
  maxPosition : ℕ
  productIds : List String
  deriving DecidableEq

/-- A query with the targets it serves. -/
structure QueryPlan where
  request : QueryRequest
  targets : List MonitorTarget
  deriving DecidableEq

/-- The queries of a slot. -/
structure BatchPlan where
  slot : ℤ
  queries : List QueryPlan
  targetCount : ℕ
  deriving DecidableEq

/-- The start of a half hour. -/
def isAlignedSlot (slot : ℤ) : Bool :=
  slot / seconds 60 % 60 % 30 = 0 ∧ slot / seconds 1 % 60 = 0 ∧ slot % seconds 1 = 0

/-- What the loop over the targets has seen. -/
structure Planning where
  monitorIds : ExtTreeSet ℤ := ∅
  regionNames : ExtTreeMap String String := ∅
  grouped : ExtTreeMap QueryKey (List MonitorTarget) := ∅

variable (lowercase : String → String)

/-- Add a target to its query. -/
def addTarget (planning : Planning) (target : MonitorTarget) : Except ValidationError Planning := do
  ensure (target.monitorId ∉ planning.monitorIds) (.duplicateMonitorId target.monitorId)
  ensure (planning.regionNames[target.regionCode.val]?.all (· = target.regionName.val)) .inconsistentRegionName
  return {
    monitorIds := planning.monitorIds.insert target.monitorId
    regionNames := planning.regionNames.insert target.regionCode.val target.regionName.val
    grouped := gather (MonitorTarget.queryKey lowercase) [] (fun group target => group ++ [target])
      planning.grouped target }

/-- Count a query of a region. -/
def countRegionQuery (count : ℕ) (_ : QueryKey) : Except ValidationError ℕ := do
  ensure (count + 1 ≤ maxQueriesPerRegionPerBatch) .tooManyRegionQueries
  return count + 1

/-- The query of a group; its name and phrase are those of the first monitor. -/
def queryPlan (slot : ℤ) (key : QueryKey) (group : List MonitorTarget) : QueryPlan :=
  let targets := sortByKey MonitorTarget.monitorId group
  let first := targets.head?
  { request := {
      slot
      regionCode := (ofLex key).1
      regionName := (first.map fun target => target.regionName.val).getD ""
      searchPhrase := (first.map fun target => target.searchPhrase.val).getD ""
      maxPosition := (ofLex (ofLex key).2).2
      productIds := (ExtTreeSet.ofList (targets.map fun target => target.productId.val.val)).toList }
    targets }

/-- **The plan of a batch.** -/
def BatchPlan.new (slot : ℤ) (targets : List MonitorTarget) : Except ValidationError BatchPlan := do
  ensure (isAlignedSlot slot) .invalidSlot
  ensure (targets ≠ [] ∧ targets.length ≤ maxTargetsPerBatch) .invalidTargetCount
  let planning ← targets.foldlM (addTarget lowercase) {}
  ensure (planning.grouped.size ≤ maxQueriesPerBatch) .tooManyQueries
  let _ ← planning.grouped.keys.foldlM (gatherM (fun key => (ofLex key).1) 0 countRegionQuery) ∅
  return {
    slot
    queries := (planning.grouped.map (queryPlan slot)).toList.map Prod.snd
    targetCount := planning.monitorIds.size }

/-! ## Scans -/

/-- How a product came to be shown. -/
inductive PlacementKind
  | organic
  | sponsored
  | unknown
  deriving DecidableEq

/-- A product in a result. -/
structure SearchHit where
  productId : ProductId
  overallPosition : ℕ
  placement : PlacementKind
  overallPosition_pos : 0 < overallPosition
  deriving DecidableEq

/-- A hit of valid parts. -/
def SearchHit.new (productId : String) (overallPosition : ℕ) (placement : PlacementKind) :
    Except ValidationError SearchHit := do
  let productId ← validateProductId productId
  if h : 0 < overallPosition then .ok ⟨productId, overallPosition, placement, h⟩
  else .error .invalidHitPosition

/-- The result of a query. -/
structure QueryScan where
  observedAt : ℤ
  regionCode : String
  regionConfirmed : Bool
  completeTopN : Bool
  hits : List SearchHit
  deriving DecidableEq

/-- The best positions of a product; an overall position of zero is none yet. -/
structure HitPositions where
  overallPosition : ℕ := 0
  overallPlacement : PlacementKind := .unknown
  organicPosition : Option ℕ := none
  sponsoredPosition : Option ℕ := none
  deriving DecidableEq

/-- The smaller position. -/
def updateBest (current : Option ℕ) (position : ℕ) : Option ℕ :=
  if current.all (position < ·) then some position else current

/-- Add a position of the product. -/
def HitPositions.record (self : HitPositions) (position : ℕ) (placement : PlacementKind) : HitPositions where
  overallPosition :=
    if self.overallPosition = 0 ∨ position < self.overallPosition then position else self.overallPosition
  overallPlacement :=
    if self.overallPosition = 0 ∨ position < self.overallPosition then placement else self.overallPlacement
  organicPosition :=
    if placement = .organic then updateBest self.organicPosition position else self.organicPosition
  sponsoredPosition :=
    if placement = .sponsored then updateBest self.sponsoredPosition position else self.sponsoredPosition

/-- Whether a product was found, and where. -/
inductive ObservationOutcome
  | found (overallPosition : ℕ) (organicPosition sponsoredPosition : Option ℕ) (placement : PlacementKind)
  | notFound
  deriving DecidableEq

/-- What a scan says about a target. -/
structure Observation where
  monitorId : ℤ
  observedAt : ℤ
  outcome : ObservationOutcome
  deriving DecidableEq

/-- The positions of a found product. -/
def HitPositions.outcome (hit : HitPositions) : ObservationOutcome :=
  .found hit.overallPosition hit.organicPosition hit.sponsoredPosition hit.overallPlacement

/-- Add a hit within the depth of the scan. -/
def recordHit (maxPosition : ℕ) (hits : ExtTreeMap String HitPositions) (hit : SearchHit) :
    Except ValidationError (ExtTreeMap String HitPositions) := do
  ensure (hit.overallPosition ≤ maxPosition) .invalidHitPosition
  return gather (fun hit : SearchHit => hit.productId.val.val) {}
    (fun positions hit => positions.record hit.overallPosition hit.placement) hits hit

/-- **A scan as observations.** -/
def QueryScan.intoObservations (scan : QueryScan) (plan : QueryPlan) :
    Except ValidationError (List Observation) := do
  ensure (scan.regionCode = plan.request.regionCode) .regionMismatch
  ensure scan.regionConfirmed .regionUnconfirmed
  ensure scan.completeTopN .incompleteScan
  let slotEnd ← context (checkedAddSigned plan.request.slot (seconds 1800)) .observationOutsideSlot
  ensure (plan.request.slot ≤ scan.observedAt ∧ scan.observedAt < slotEnd) .observationOutsideSlot
  ensure (scan.hits.length ≤ plan.request.maxPosition) .tooManyHits
  let hits ← scan.hits.foldlM (recordHit plan.request.maxPosition) ∅
  return plan.targets.map fun target => {
    monitorId := target.monitorId
    observedAt := scan.observedAt
    outcome := (hits[target.productId.val.val]?.map HitPositions.outcome).getD .notFound }

end AdsControl.Position
