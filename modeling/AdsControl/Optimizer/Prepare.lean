import AdsControl.Optimizer.Model

/-!
# Preparation from published snapshot pages

A preparation bundle carries the unmodified pages of published snapshots. `prepare` groups the pages
by snapshot, reassembles every snapshot, checks the provenance of every fact and builds the evidence
of the optimizer. The documents of the pages stay abstract: `Codec` is what decoding and encoding
make of them.

* `completeSnapshots`, `assembleSnapshot`: pages to snapshots;
* `advertisingEvidence`, `aggregateCpcDays`: rows to daily totals;
* `prepare`: the whole preparation, with the digest of the bundle among the references.
-/

namespace AdsControl.Optimizer

open Fallible Machine Std

/-- An ordered map; iteration is in key order. -/
abbrev BTreeMap (κ ν : Type) [Ord κ] : Type := ExtTreeMap κ ν

/-- The largest bundle in bytes. -/
def maxPreparationBytes : ℕ := 32 * 1024 * 1024

/-- The largest prepared input in bytes. -/
def maxInputBytes : ℕ := 4 * 1024 * 1024

/-- The most pages of a source. -/
def maxPages : ℕ := 512

/-- The most rows of a source. -/
def maxRows : ℕ := 25000

/-- Why a bundle is refused. -/
inductive PrepareError
  | limitExceeded
  | invalidBundle
  | invalidSnapshot
  | incompleteSnapshot
  | overlappingSnapshots
  | invalidCampaignScope
  | optimizer (error : OptimizerError)
  deriving DecidableEq

/-! ## Bundle -/

/-- One page of a snapshot with the offset of its request. -/
structure SnapshotPage (Value : Type) where
  offset : ℕ
  response : Value

/-- The campaigns a person confirmed for a product. -/
structure CpcScopeConfirmation where
  campaignIds : List ℕ
  sourceRef : String
  observedAt : ℤ
  allCampaignsConfirmed : Bool

/-- A product with its budgets and confirmations. -/
structure PreparationProduct where
  sku : ℕ
  currentDailyBudgetMinor : ℕ
  maxDailyBudgetMinor : ℕ
  budgetConstraint : Option BudgetConstraintEvidence
  economics : Option OrderEconomics
  cpcScope : CpcScopeConfirmation

/-- The snapshots and products of a window. -/
structure PreparationBundle (Value : Type) where
  version : ℕ
  accountId : String
  asOf : ℤ
  windowStart : ℤ
  windowEnd : ℤ
  objective : OptimizationObjective
  policy : OptimizerPolicy
  products : List PreparationProduct
  advertisingPages : List (SnapshotPage Value)
  stockPages : List (SnapshotPage Value)

/-! ## Documents -/

/-- A page of a snapshot with its provenance. -/
structure SnapshotEnvelope (Value : Type) where
  accountId : String
  marketplace : String
  source : String
  storage : String
  state : String
  dataState : String
  quality : Option String
  paginationComplete : Option Bool
  snapshotId : String
  cutoffAt : ℤ
  sourceAsOf : ℤ
  observedFrom : ℤ
  periodStart : ℤ
  periodEnd : ℤ
  totalRows : ℕ
  rows : List Value
  nextOffset : Option ℕ
  deriving DecidableEq

/-- Where a row of a snapshot comes from. -/
structure FactProvenance where
  accountId : String
  marketplace : String
  source : String
  snapshotId : ℤ
  cutoffAt : ℤ
  sourceAsOf : ℤ
  snapshotStatus : String
  paginationComplete : Bool

/-- A row of an advertising snapshot. -/
structure AdvertisingRow where
  provenance : FactProvenance
  businessDate : ℤ
  campaignId : ℕ
  sku : ℕ
  currency : String
  impressions : ℕ
  clicks : ℕ
  spendMinor : ℕ
  attributedOrders : ℕ
  attributedRevenueMinor : ℕ

/-- A row of a stock snapshot. -/
structure StockRow where
  provenance : FactProvenance
  sku : ℕ
  warehouseId : String
  sellableUnits : ℕ

/-- Two bundles that differ at most in the order of their pages. -/
def PreparationBundle.SamePages {Value : Type} (b b' : PreparationBundle Value) : Prop :=
  ∃ advertising stocks, b.advertisingPages.Perm advertising ∧ b.stockPages.Perm stocks ∧
    b' = { b with advertisingPages := advertising, stockPages := stocks }

/-- Decoding of documents, and the length and digest of encoded bundles. The encoded length of a
bundle does not depend on the order of its pages. -/
structure Codec (Value : Type) where
  envelope : Value → Option (SnapshotEnvelope Value)
  advertisingRow : Value → Option AdvertisingRow
  stockRow : Value → Option StockRow
  bundleBytes : PreparationBundle Value → ℕ
  digest : PreparationBundle Value → String
  inputBytes : ShadowInput → ℕ
  bundleBytes_perm : ∀ {b b'}, b.SamePages b' → bundleBytes b = bundleBytes b'

/-- The two sources of a bundle. -/
inductive SnapshotSource
  | advertising
  | stocks
  deriving DecidableEq

/-- A source as its snapshots name it. -/
def SnapshotSource.name : SnapshotSource → String
  | advertising => "advertising"
  | stocks => "stocks"

/-- Decimal digits, most significant first. -/
def digitsValue (digits : List Char) : Option ℕ :=
  if digits ≠ [] ∧ digits.all Char.isDigit then
    some (digits.foldl (fun value digit => value * 10 + (digit.toNat - 48)) 0)
  else none

/-- A signed decimal number in the range of `i64`. -/
def parseI64 (text : String) : Option ℤ :=
  match text.toList with
  | '-' :: digits => (digitsValue digits).bind fun n => if n ≤ 2 ^ 63 then some (-(n : ℤ)) else none
  | '+' :: digits => (digitsValue digits).bind fun n => if n < 2 ^ 63 then some (n : ℤ) else none
  | digits => (digitsValue digits).bind fun n => if n < 2 ^ 63 then some (n : ℤ) else none

/-- The business date of an instant on the clock of the reports. -/
def businessDate (instant : ℤ) : ℤ := dateIn yekaterinburg instant

/-- Midnight on the clock of the reports. -/
def isMidnight (instant : ℤ) : Bool := (instant + seconds yekaterinburg) % seconds 86400 == 0

/-- An id that a column of 64 bits holds. -/
def positiveId (value : ℕ) : Bool := decide (0 < value ∧ value < 2 ^ 63)

variable {Value : Type} [DecidableEq Value]

/-! ## Pages to snapshots -/

/-- The time rules of a published snapshot descriptor. -/
def validDescriptor (source : SnapshotSource) (envelope : SnapshotEnvelope Value) : Bool :=
  isAccountId envelope.accountId &&
    decide (envelope.sourceAsOf ≤ envelope.cutoffAt + seconds (24 * 3600)) &&
    decide (envelope.periodStart ≤ envelope.periodEnd) &&
    match source with
    | .advertising => decide (envelope.periodStart ≠ envelope.periodEnd) &&
        decide (envelope.periodEnd ≤ envelope.cutoffAt)
    | .stocks => envelope.periodStart == envelope.sourceAsOf &&
        envelope.periodEnd == envelope.sourceAsOf

/-- Validate one untrusted page. -/
def decodeSnapshotPage (codec : Codec Value) (bundle : PreparationBundle Value)
    (source : SnapshotSource) (page : SnapshotPage Value) :
    Except PrepareError (ℤ × SnapshotEnvelope Value) := do
  let envelope ← context (codec.envelope page.response) .invalidSnapshot
  let id ← context (parseI64 envelope.snapshotId) .invalidSnapshot
  ensure (0 < id ∧ envelope.accountId = bundle.accountId ∧ envelope.marketplace = "ozon" ∧
    envelope.source = source.name ∧ envelope.storage = "published_postgresql_snapshots" ∧
    (envelope.state = "available" ∨ envelope.state = "stale") ∧
    (envelope.quality = some "complete" ∨ envelope.quality = some "stale") ∧
    envelope.paginationComplete = some true ∧
    envelope.dataState = (if envelope.totalRows = 0 then "no_data" else "available") ∧
    envelope.sourceAsOf ≤ bundle.asOf ∧ envelope.observedFrom ≤ envelope.sourceAsOf ∧
    envelope.cutoffAt ≤ bundle.asOf ∧ envelope.rows.length ≤ 1000) .invalidSnapshot
  ensure (envelope.totalRows ≤ maxRows) .limitExceeded
  ensure (validDescriptor source envelope) .invalidSnapshot
  return (id, envelope)

/-- The pages of each snapshot by offset. -/
abbrev PageGroups (Value : Type) : Type := BTreeMap ℤ (BTreeMap ℕ (SnapshotEnvelope Value))

/-- Insert one page into the group of its snapshot; an offset may occur once. -/
def addPage (codec : Codec Value) (bundle : PreparationBundle Value) (source : SnapshotSource)
    (groups : PageGroups Value) (page : SnapshotPage Value) :
    Except PrepareError (PageGroups Value) := do
  let decoded ← decodeSnapshotPage codec bundle source page
  let group := groups[decoded.1]?.getD ∅
  ensure (group[page.offset]? = none) .incompleteSnapshot
  return groups.insert decoded.1 (group.insert page.offset decoded.2)

/-- A reassembled snapshot; its envelope carries no rows. -/
structure CompleteSnapshot (Value : Type) where
  snapshotId : ℤ
  envelope : SnapshotEnvelope Value
  rows : List Value

/-- Append the pages in the order of their offsets. Freshness can change while the pages of one
snapshot are fetched, so state and quality are not compared. -/
def assembleLoop (base : SnapshotEnvelope Value) :
    List (ℕ × SnapshotEnvelope Value) → ℕ → List Value → Except PrepareError (List Value)
  | [], _, rows => .ok rows
  | (offset, page) :: rest, expectedOffset, rows => do
    ensure (offset = expectedOffset) .incompleteSnapshot
    let count ← context (tryFrom 32 page.rows.length) .limitExceeded
    let expectedOffset ← context (checkedAdd 32 offset count) .limitExceeded
    ensure (page.nextOffset = (if expectedOffset < page.totalRows then some expectedOffset
      else none) ∧ ¬(count = 0 ∧ page.totalRows ≠ 0)) .incompleteSnapshot
    ensure ({ page with
      rows := [], nextOffset := none, state := base.state, quality := base.quality } = base)
      .invalidSnapshot
    assembleLoop base rest expectedOffset (rows ++ page.rows)

/-- Put the pages of a snapshot together. -/
def assembleSnapshot (id : ℤ) (pages : BTreeMap ℕ (SnapshotEnvelope Value)) :
    Except PrepareError (CompleteSnapshot Value) := do
  let first ← context (pages[0]?) .incompleteSnapshot
  let base := { first with rows := [], nextOffset := none }
  let rows ← assembleLoop base pages.toList 0 []
  ensure (rows.length = base.totalRows) .incompleteSnapshot
  return ⟨id, base, rows⟩

/-- Assemble every group, counting all rows against the limit. -/
def completeLoop :
    List (ℤ × BTreeMap ℕ (SnapshotEnvelope Value)) → ℕ → BTreeMap ℤ (CompleteSnapshot Value) →
      Except PrepareError (BTreeMap ℤ (CompleteSnapshot Value))
  | [], _, complete => .ok complete
  | (id, pages) :: rest, totalRows, complete => do
    let snapshot ← assembleSnapshot id pages
    ensure (totalRows + snapshot.rows.length ≤ maxRows) .limitExceeded
    completeLoop rest (totalRows + snapshot.rows.length) (complete.insert id snapshot)

/-- The snapshots of a source, each from all of its pages. -/
def completeSnapshots (codec : Codec Value) (bundle : PreparationBundle Value)
    (source : SnapshotSource) (pages : List (SnapshotPage Value)) :
    Except PrepareError (BTreeMap ℤ (CompleteSnapshot Value)) := do
  ensure (pages.length ≤ maxPages) .limitExceeded
  let groups ← pages.foldlM (addPage codec bundle source) ∅
  completeLoop groups.toList 0 ∅

namespace CompleteSnapshot

omit [DecidableEq Value] in
/-- The first and last business date of the snapshot. -/
def periodDates (snapshot : CompleteSnapshot Value) : Except PrepareError (ℤ × ℤ) := do
  let envelope := snapshot.envelope
  ensure (envelope.periodStart < envelope.periodEnd ∧ isMidnight envelope.periodStart ∧
    isMidnight envelope.periodEnd ∧ envelope.periodEnd ≤ envelope.observedFrom) .invalidSnapshot
  return (businessDate envelope.periodStart, businessDate (envelope.periodEnd - 1))

/-- How evidence refers to a snapshot. -/
def reference (snapshot : CompleteSnapshot Value) : String :=
  "ofk:" ++ snapshot.envelope.source ++ ":snapshot:" ++ toString snapshot.snapshotId

/-- A fact must carry the provenance of its snapshot. -/
def validateFact (snapshot : CompleteSnapshot Value) (row : FactProvenance) :
    Except PrepareError Unit :=
  let envelope := snapshot.envelope
  ensure (row.snapshotId = snapshot.snapshotId ∧ row.accountId = envelope.accountId ∧
    row.marketplace = envelope.marketplace ∧ row.source = envelope.source ∧
    row.cutoffAt = envelope.cutoffAt ∧ row.sourceAsOf = envelope.sourceAsOf ∧
    row.snapshotStatus = "succeeded" ∧ row.paginationComplete) .invalidSnapshot

end CompleteSnapshot

/-! ## Advertising evidence -/

/-- A fact as the reports publish it. -/
structure PublishedAdvertisingFact where
  accountId : String
  businessDate : ℤ
  campaignId : ℕ
  sku : ℕ
  clicks : ℕ
  spendMinor : ℕ
  attributedOrders : ℕ
  attributedRevenueMinor : ℕ
  deriving DecidableEq

/-- The fact of a row. -/
def AdvertisingRow.intoFact (row : AdvertisingRow) : PublishedAdvertisingFact where
  accountId := row.provenance.accountId
  businessDate := row.businessDate
  campaignId := row.campaignId
  sku := row.sku
  clicks := row.clicks
  spendMinor := row.spendMinor
  attributedOrders := row.attributedOrders
  attributedRevenueMinor := row.attributedRevenueMinor

/-- Record `count` dates from `date` on as observed at `observed`; a date may occur once. -/
def insertDates (observed : ℤ) :
    ℕ → ℤ → BTreeMap ℤ ℤ → Except PrepareError (BTreeMap ℤ ℤ)
  | 0, _, dates => .ok dates
  | count + 1, date, dates => do
    ensure (dates[date]? = none) .overlappingSnapshots
    insertDates observed count (date + 1) (dates.insert date observed)

/-- The dates of a snapshot's period, with the latest observation of each. -/
def addSnapshotDates (bundle : PreparationBundle Value) (snapshot : CompleteSnapshot Value)
    (dates : BTreeMap ℤ ℤ) : Except PrepareError (BTreeMap ℤ ℤ) := do
  let period ← snapshot.periodDates
  ensure (bundle.windowStart ≤ period.1 ∧ period.2 ≤ bundle.windowEnd) .invalidSnapshot
  -- the loop of the source stops at the last date, which is never before the first
  insertDates snapshot.envelope.observedFrom ((period.2 - period.1).toNat + 1) period.1 dates

/-- The facts of the selected SKUs. -/
abbrev AdFacts : Type := BTreeMap ℕ (List PublishedAdvertisingFact)

/-- Check one row and keep it when its SKU is selected; `keys` are the rows seen in the snapshot. -/
def addAdvertisingRow (selected : List ℕ) (snapshot : CompleteSnapshot Value) (period : ℤ × ℤ)
    (row : AdvertisingRow) (keys : List (ℤ × ℕ × ℕ)) (facts : AdFacts) :
    Except PrepareError AdFacts := do
  snapshot.validateFact row.provenance
  ensure (row.currency = "RUB" ∧ row.clicks ≤ row.impressions ∧ positiveId row.campaignId ∧
    row.sku < 2 ^ 63 ∧ period.1 ≤ row.businessDate ∧ row.businessDate ≤ period.2 ∧
    (row.businessDate, row.campaignId, row.sku) ∉ keys) .invalidSnapshot
  ensure (row.sku ≠ 0) .invalidSnapshot
  return if row.sku ∈ selected then
    facts.insert row.sku (facts[row.sku]?.getD [] ++ [row.intoFact]) else facts

/-- Add the rows of the selected products within the period. -/
def addAdvertisingRows (codec : Codec Value) (selected : List ℕ)
    (snapshot : CompleteSnapshot Value) (period : ℤ × ℤ) :
    List Value → List (ℤ × ℕ × ℕ) → AdFacts → Except PrepareError AdFacts
  | [], _, facts => .ok facts
  | value :: rest, keys, facts => do
    let row ← context (codec.advertisingRow value) .invalidSnapshot
    let facts ← addAdvertisingRow selected snapshot period row keys facts
    addAdvertisingRows codec selected snapshot period rest
      ((row.businessDate, row.campaignId, row.sku) :: keys) facts

/-- What the advertising snapshots say. -/
structure AdvertisingEvidence where
  observedDates : BTreeMap ℤ ℤ
  adFacts : AdFacts
  globalObservedAt : Option ℤ
  refs : BTreeMap String Unit

/-- Add one snapshot to the evidence. -/
def addAdvertisingSnapshot (codec : Codec Value) (bundle : PreparationBundle Value)
    (selected : List ℕ) (evidence : AdvertisingEvidence) (snapshot : CompleteSnapshot Value) :
    Except PrepareError AdvertisingEvidence := do
  let observed := snapshot.envelope.observedFrom
  let dates ← addSnapshotDates bundle snapshot evidence.observedDates
  let period ← snapshot.periodDates
  let facts ← addAdvertisingRows codec selected snapshot period snapshot.rows [] evidence.adFacts
  return {
    observedDates := dates
    adFacts := facts
    globalObservedAt := some (evidence.globalObservedAt.elim observed fun time => max time observed)
    refs := evidence.refs.insert snapshot.reference () }

/-- The evidence of all advertising snapshots. -/
def advertisingEvidence (codec : Codec Value) (bundle : PreparationBundle Value)
    (selected : List ℕ) (advertising : BTreeMap ℤ (CompleteSnapshot Value))
    (refs : BTreeMap String Unit) : Except PrepareError AdvertisingEvidence :=
  (advertising.toList.map Prod.snd).foldlM (addAdvertisingSnapshot codec bundle selected)
    ⟨∅, ∅, none, refs⟩

/-! ## Daily totals -/

/-- The confirmed CPC campaigns of one SKU. -/
structure CpcCampaignScope where
  accountId : String
  sku : ℕ
  campaignIds : List ℕ
  confirmationSourceRef : String

/-- A scope of valid ids. -/
def CpcCampaignScope.new (accountId : String) (sku : ℕ) (campaignIds : List ℕ)
    (confirmationSourceRef : String) : Except OptimizerError CpcCampaignScope := do
  ensure (isAccountId accountId ∧ positiveId sku ∧ campaignIds ≠ [] ∧
    campaignIds.length ≤ maxRows ∧ campaignIds.all positiveId ∧
    trim confirmationSourceRef ≠ [] ∧ confirmationSourceRef.utf8ByteSize ≤ 512 ∧
    ¬confirmationSourceRef.toList.any isControl) .invalidInput
  return ⟨accountId, sku, campaignIds, confirmationSourceRef⟩

/-- The scope that a product's confirmation names. -/
def confirmedScope (bundle : PreparationBundle Value) (product : PreparationProduct) :
    Except PrepareError CpcCampaignScope := do
  let confirmation := product.cpcScope
  ensure (confirmation.campaignIds.Nodup ∧ trim confirmation.sourceRef ≠ [] ∧
    confirmation.sourceRef.utf8ByteSize ≤ 256 ∧ confirmation.observedAt ≤ bundle.asOf ∧
    bundle.asOf - confirmation.observedAt ≤ seconds (bundle.policy.maxDataAgeHours * 3600))
    .invalidCampaignScope
  (CpcCampaignScope.new bundle.accountId product.sku confirmation.campaignIds
    confirmation.sourceRef).mapError fun _ => .invalidCampaignScope

/-- A sum of 64 bits. -/
def addTotal (left right : ℕ) : Except OptimizerError ℕ := context (checkedAdd 64 left right) .overflow

/-- Add one fact to the total of its date. -/
def addFact (days : BTreeMap ℤ AdvertisingDay) (fact : PublishedAdvertisingFact) :
    Except OptimizerError (BTreeMap ℤ AdvertisingDay) := do
  let day := days[fact.businessDate]?.getD ⟨fact.businessDate, none, 0, 0, 0, 0⟩
  let clicks ← addTotal day.clicks fact.clicks
  let spend ← addTotal day.spendMinor fact.spendMinor
  let orders ← addTotal day.directOrders fact.attributedOrders
  let revenue ← addTotal day.directRevenueMinor fact.attributedRevenueMinor
  return days.insert fact.businessDate { day with
    clicks := clicks, spendMinor := spend, directOrders := orders, directRevenueMinor := revenue }

/-- Foreign rows are rejected, not discarded; `keys` are the facts seen. -/
def aggregateLoop (scope : CpcCampaignScope) (windowStart windowEnd : ℤ) :
    List PublishedAdvertisingFact → List (ℕ × ℕ × ℤ) → BTreeMap ℤ AdvertisingDay →
      Except OptimizerError (BTreeMap ℤ AdvertisingDay)
  | [], _, days => .ok days
  | fact :: rest, keys, days => do
    ensure (fact.accountId = scope.accountId ∧ fact.sku = scope.sku ∧
      fact.campaignId ∈ scope.campaignIds ∧ windowStart ≤ fact.businessDate ∧
      fact.businessDate ≤ windowEnd) .invalidInput
    ensure ((fact.campaignId, fact.sku, fact.businessDate) ∉ keys) .duplicateEvidence
    let days ← addFact days fact
    aggregateLoop scope windowStart windowEnd rest
      ((fact.campaignId, fact.sku, fact.businessDate) :: keys) days

/-- Sum direct attribution per date across the confirmed campaigns. -/
def aggregateCpcDays (facts : List PublishedAdvertisingFact) (scope : CpcCampaignScope)
    (windowStart windowEnd : ℤ) : Except OptimizerError (List AdvertisingDay) := do
  ensure (windowStart ≤ windowEnd ∧ windowEnd - windowStart < maxWindowDays) .invalidInput
  ensure (facts.length ≤ maxRows) .limitExceeded
  let days ← aggregateLoop scope windowStart windowEnd facts [] ∅
  return days.toList.map Prod.snd

/-! ## Stock evidence -/

/-- What the warehouse of a stock row stands for. -/
inductive StockDimension
  | legacy
  | fulfillment
  | warehouse
  deriving DecidableEq

/-- The dimensions of the second version. -/
def isSkuFulfillmentDimension (value : String) : Bool :=
  ["sku-fulfillment-v2:fbo", "sku-fulfillment-v2:fbs", "sku-fulfillment-v2:rfbs"].contains value

/-- What follows a literal start of a text. -/
def stripStart (start text : String) : Option String :=
  if start.toList.isPrefixOf text.toList then
    some (String.ofList (text.toList.drop start.toList.length)) else none

/-- The dimension that a warehouse names. -/
def stockDimension (warehouse : String) : Except PrepareError StockDimension :=
  if ["FBO", "FBS", "RFBS"].contains warehouse then .ok .legacy
  else if isSkuFulfillmentDimension warehouse then .ok .fulfillment
  else
    let id := ((stripStart "fbo:" warehouse).or (stripStart "fbs:" warehouse)).bind parseI64
    if id.any (· ≠ 0) then .ok .warehouse else .error .invalidSnapshot

/-- The text after the last colon. -/
def afterLastColon (text : String) : List Char :=
  (text.toList.reverse.takeWhile (· ≠ ':')).reverse

/-- The text before the first colon. -/
def beforeFirstColon (text : String) : List Char :=
  text.toList.takeWhile (· ≠ ':')

/-- The rows of a stock snapshot with what has been seen of them. -/
structure StockRows where
  keys : List (ℕ × String)
  rows : List StockRow
  fulfillment : List (ℕ × List Char)
  warehouse : List (ℕ × List Char)
  legacy : Bool

/-- Add a row, unless its product and warehouse were seen. -/
def addStockRow (codec : Codec Value) (snapshot : CompleteSnapshot Value) (seen : StockRows)
    (value : Value) : Except PrepareError StockRows := do
  let row ← context (codec.stockRow value) .invalidSnapshot
  snapshot.validateFact row.provenance
  ensure (positiveId row.sku ∧ (row.sku, row.warehouseId) ∉ seen.keys) .invalidSnapshot
  let dimension ← stockDimension row.warehouseId
  let seen := { seen with keys := (row.sku, row.warehouseId) :: seen.keys }
  return match dimension with
    | .legacy => { seen with legacy := true }
    | .fulfillment => { seen with
        fulfillment := (row.sku, afterLastColon row.warehouseId) :: seen.fulfillment
        rows := seen.rows ++ [row] }
    | .warehouse => { seen with
        warehouse := (row.sku, beforeFirstColon row.warehouseId) :: seen.warehouse
        rows := seen.rows ++ [row] }

/-- The rows of a stock snapshot, `none` for legacy identities. The two collection modes of one SKU
and scheme may not be combined. -/
def verifiedStockRows (codec : Codec Value) (snapshot : CompleteSnapshot Value)
    (refs : BTreeMap String Unit) :
    Except PrepareError (Option (List StockRow) × BTreeMap String Unit) := do
  ensure (snapshot.envelope.periodStart = snapshot.envelope.sourceAsOf ∧
    snapshot.envelope.periodEnd = snapshot.envelope.sourceAsOf) .invalidSnapshot
  let seen ← snapshot.rows.foldlM (addStockRow codec snapshot) ⟨[], [], [], [], false⟩
  if seen.legacy then
    return (none, refs.insert
      ("unsupported-legacy-stock-identity:" ++ toString snapshot.snapshotId) ())
  else
    ensure (∀ scheme ∈ seen.fulfillment, scheme ∉ seen.warehouse) .invalidSnapshot
    return (some seen.rows, refs)

/-- Add one row to the stock of its SKU. -/
def addSellable (selected : List ℕ) (observed : ℤ) (stocks : BTreeMap ℕ StockEvidence)
    (row : StockRow) : Except PrepareError (BTreeMap ℕ StockEvidence) :=
  if row.sku ∈ selected then do
    let stock := stocks[row.sku]?.getD ⟨0, observed⟩
    let units ← context (checkedAdd 64 stock.sellableUnits row.sellableUnits) (.optimizer .overflow)
    return stocks.insert row.sku { stock with sellableUnits := units }
  else .ok stocks

/-- Add the stock of the selected products. -/
def addStockSnapshot (codec : Codec Value) (selected : List ℕ)
    (evidence : BTreeMap ℕ StockEvidence × BTreeMap String Unit)
    (snapshot : CompleteSnapshot Value) :
    Except PrepareError (BTreeMap ℕ StockEvidence × BTreeMap String Unit) := do
  let verified ← verifiedStockRows codec snapshot evidence.2
  let stocks ← (verified.1.getD []).foldlM
    (addSellable selected snapshot.envelope.observedFrom) evidence.1
  return (stocks, verified.2)

/-- The evidence of all stock snapshots. -/
def stockEvidence (codec : Codec Value) (selected : List ℕ)
    (snapshots : BTreeMap ℤ (CompleteSnapshot Value)) (refs : BTreeMap String Unit) :
    Except PrepareError (BTreeMap ℕ StockEvidence × BTreeMap String Unit) :=
  (snapshots.toList.map Prod.snd).foldlM (addStockSnapshot codec selected) (∅, refs)

/-! ## Preparation -/

/-- The products prepared so far. -/
structure PreparedProducts where
  refs : BTreeMap String Unit
  adFacts : AdFacts
  coverageComplete : Bool
  products : List ProductEvidence

/-- The day with the observation of its date. -/
def observeDay (observedDates : BTreeMap ℤ ℤ) (day : AdvertisingDay) :
    Except PrepareError AdvertisingDay := do
  let observed ← context (observedDates[day.date]?) .invalidSnapshot
  return { day with observedAt := some observed }

/-- Prepare one product. A missing campaign and date pair is unknown activity, so complete coverage
needs a row for every pair. -/
def prepareProduct (bundle : PreparationBundle Value) (days : ℤ) (observedDates : BTreeMap ℤ ℤ)
    (stockBySku : BTreeMap ℕ StockEvidence) (prepared : PreparedProducts)
    (product : PreparationProduct) : Except PrepareError PreparedProducts := do
  let scope ← confirmedScope bundle product
  let facts := prepared.adFacts[product.sku]?.getD []
  let daily ← (aggregateCpcDays facts scope bundle.windowStart bundle.windowEnd).mapError .optimizer
  let expectedPairs ← context
    (checkedMul 64 product.cpcScope.campaignIds.length days.toNat) .limitExceeded
  let daily ← daily.mapM (observeDay observedDates)
  return {
    refs := prepared.refs.insert product.cpcScope.sourceRef ()
    adFacts := prepared.adFacts.erase product.sku
    coverageComplete := prepared.coverageComplete && product.cpcScope.allCampaignsConfirmed &&
      facts.length == expectedPairs
    products := prepared.products ++ [{
      sku := product.sku
      currentDailyBudgetMinor := product.currentDailyBudgetMinor
      maxDailyBudgetMinor := product.maxDailyBudgetMinor
      budgetConstraint := product.budgetConstraint
      economics := product.economics
      daily := daily
      stock := stockBySku[product.sku]? }] }

/-- Prepare the evidence of a bundle whose digest is `digest`. -/
def prepareWith (codec : Codec Value) (digest : String) (bundle : PreparationBundle Value) :
    Except PrepareError ShadowInput := do
  let days := bundle.windowEnd - bundle.windowStart + 1
  ensure (bundle.version = 1 ∧ 0 < days) .invalidBundle
  ensure (days ≤ maxWindowDays ∧ bundle.products ≠ [] ∧ bundle.products.length ≤ maxProducts)
    .limitExceeded
  ensure (codec.bundleBytes bundle ≤ maxPreparationBytes) .limitExceeded
  let refs : BTreeMap String Unit := (∅ : BTreeMap String Unit).insert
    ("prepare-bundle-sha256:" ++ digest) ()
  let advertising ← completeSnapshots codec bundle .advertising bundle.advertisingPages
  ensure (advertising.toList ≠ []) .incompleteSnapshot
  let stocks ← completeSnapshots codec bundle .stocks bundle.stockPages
  ensure (stocks.size ≤ 1 ∧ ∀ id ∈ stocks.keys, advertising[id]?.isNone) .invalidSnapshot
  let selected : List ℕ := bundle.products.map fun product => product.sku
  ensure selected.Nodup .invalidBundle
  let evidence ← advertisingEvidence codec bundle selected advertising refs
  let stock ← stockEvidence codec selected stocks evidence.refs
  let refs := stocks.toList.foldl (fun refs entry => refs.insert entry.2.reference ()) stock.2
  let prepared ← bundle.products.foldlM
    (prepareProduct bundle days evidence.observedDates stock.1)
    ⟨refs, evidence.adFacts, evidence.observedDates.size == days.toNat, []⟩
  let observedAt ← context evidence.globalObservedAt .incompleteSnapshot
  let input : ShadowInput := {
    version := 1
    sourceRefs := prepared.refs.keys
    accountId := bundle.accountId
    asOf := bundle.asOf
    observedAt := observedAt
    windowStart := bundle.windowStart
    windowEnd := bundle.windowEnd
    coverageComplete := prepared.coverageComplete
    objective := bundle.objective
    policy := bundle.policy
    products := prepared.products }
  (validate input).mapError .optimizer
  ensure (codec.inputBytes input ≤ maxInputBytes) .limitExceeded
  return input

/-- **Preparation of a bundle.** -/
def prepare (codec : Codec Value) (bundle : PreparationBundle Value) :
    Except PrepareError ShadowInput :=
  prepareWith codec (codec.digest bundle) bundle

end AdsControl.Optimizer
