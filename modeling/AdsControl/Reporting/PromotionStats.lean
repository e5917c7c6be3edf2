import AdsControl.Lib.Rearrangement
import AdsControl.Lib.Tally
import AdsControl.Reporting.Facts
import AdsControl.Reporting.Money

/-!
# Promotion statistics

Statistics of campaigns arrive nested by campaign, day, app and product. The counters of a product on a day
are added up. A day whose products have more clicks than impressions is published as one row of its
campaign, product 0, when all counters agree with the row of the day.

* `AdvertisingTotals`: the five counters;
* `campaignDayProductRows`, `parseCampaignDay`, `parsePromotionStats`: the reading of a response.
-/

namespace AdsControl.Reporting

open DigitText Fallible Machine OrderedMap Std

/-! ## Fields -/

namespace WbAdapter

/-- The fields of an object. -/
def object (value : Document) : Except WbReportParseError (List (String × Document)) :=
  context value.asObject .shape

/-- The entries of an array. -/
def array (value : Document) : Except WbReportParseError (List Document) := context value.asArray .shape

/-- A field that has to be there. -/
def field (object : List (String × Document)) (name : String) : Except WbReportParseError Document :=
  context (object.lookup name) .shape

/-- A natural number, or the text of one. -/
def unsigned : Document → Except WbReportParseError ℕ
  | .number text => context (parseUnsigned 64 text.toList) .value
  | .string text => context (parseUnsigned 64 text.toList) .value
  | _ => .error .value

/-- A natural number, where there is one. -/
def optionalUnsigned (value : Option Document) : Except WbReportParseError (Option ℕ) :=
  value.mapM unsigned

/-- An id that a column of 64 bits holds. -/
def ensurePositive (value : ℕ) : Except WbReportParseError Unit := ensure (0 < value ∧ value < 2 ^ 63) .value

/-- The text of a calendar date is its first ten bytes. -/
def date (parseDate : String → Option ℤ) (value : Document) : Except WbReportParseError ℤ := do
  let raw ← context value.asString .value
  let start ← context (bytePrefix raw.toList 10) .value
  context (parseDate (String.ofList start)) .value

/-- A number or a text, as the reader of amounts tells them apart. -/
def amount : Document → Value
  | .number text => .number text
  | .string text => .string text
  | _ => .other

end WbAdapter

open WbAdapter

/-! ## Counters -/

/-- The counters of advertising. -/
@[ext] structure AdvertisingTotals where
  impressions : ℕ := 0
  clicks : ℕ := 0
  spendMinor : ℕ := 0
  orders : ℕ := 0
  revenueMinor : ℕ := 0
  deriving DecidableEq

/-- Day, campaign and product. -/
abbrev AdvertisingKey : Type := ℤ ×ₗ ℕ ×ₗ ℕ

/-- Counters by date, campaign and product. -/
abbrev AdvertisingMap : Type := ExtTreeMap AdvertisingKey AdvertisingTotals

/-- The totals in the order of their keys. -/
abbrev AdvertisingMap.entries (totals : AdvertisingMap) : List (AdvertisingKey × AdvertisingTotals) :=
  ExtTreeMap.toList totals

/-- A sum of 64 bits. -/
def checkedCounter (left right : ℕ) : Except WbReportParseError ℕ := context (checkedAdd 64 left right) .value

/-- The sum of every counter. -/
def AdvertisingTotals.merge (self value : AdvertisingTotals) :
    Except WbReportParseError AdvertisingTotals := do
  let impressions ← checkedCounter self.impressions value.impressions
  let clicks ← checkedCounter self.clicks value.clicks
  let spendMinor ← checkedCounter self.spendMinor value.spendMinor
  let orders ← checkedCounter self.orders value.orders
  let revenueMinor ← checkedCounter self.revenueMinor value.revenueMinor
  return { impressions, clicks, spendMinor, orders, revenueMinor }

/-! ## Reading a response -/

section Reading

variable (parseDate : String → Option ℤ)

/-- The revenue of a row has two names. -/
def revenueField (row : List (String × Document)) : Except WbReportParseError Document :=
  match row.lookup "sum_price" with
  | some value => .ok value
  | none => field row "sumPrice"

/-- Add a row on a date. -/
def addAdvertisingRowWithDate (row : List (String × Document)) (dateValue : Document) (campaignId sku : ℕ)
    (totals : AdvertisingMap) : Except WbReportParseError AdvertisingMap := do
  let businessDate ← date parseDate dateValue
  let key : AdvertisingKey := toLex (businessDate, toLex (campaignId, sku))
  let value := totals[key]?.getD {}
  let impressions ← checkedCounter value.impressions (← unsigned (← field row "views"))
  let clicks ← checkedCounter value.clicks (← unsigned (← field row "clicks"))
  let spendMinor ← checkedCounter value.spendMinor (← minor (amount (← field row "sum")))
  let orders ← checkedCounter value.orders (← unsigned (← field row "orders"))
  let revenueMinor ← checkedCounter value.revenueMinor (← minor (amount (← revenueField row)))
  return totals.insert key { impressions, clicks, spendMinor, orders, revenueMinor }

/-- Add a row on its own date. -/
def addAdvertisingRow (row : List (String × Document)) (campaignId sku : ℕ) (totals : AdvertisingMap) :
    Except WbReportParseError AdvertisingMap := do
  addAdvertisingRowWithDate parseDate row (← field row "date") campaignId sku totals

/-- The rows of one app; both names at once are ambiguous. -/
def appProductRows (app : Document) : Except WbReportParseError (List (List (String × Document))) := do
  let app ← object app
  ensure (¬ ((app.lookup "nm").isSome ∧ (app.lookup "nms").isSome)) .shape
  match (app.lookup "nms").or (app.lookup "nm") with
  | none => return []
  | some products => do (← array products).mapM object

/-- Per-SKU rows of one campaign day, collected across its apps. -/
def campaignDayProductRows (day : List (String × Document)) :
    Except WbReportParseError (List (List (String × Document))) :=
  match day.lookup "apps" with
  | none => .ok []
  | some apps => do return (← (← array apps).mapM appProductRows).flatten

/-- One product of a day. -/
def addProductRow (day : List (String × Document)) (campaignId : ℕ) (products : AdvertisingMap)
    (row : List (String × Document)) : Except WbReportParseError AdvertisingMap := do
  let sku ← unsigned (← field row "nmId")
  ensurePositive sku
  addAdvertisingRowWithDate parseDate row (← field day "date") campaignId sku products

/-- The products of a day, or its campaign row when their counters do not make sense and the row of the day
agrees with all of them together. -/
def reconcileProducts (day : List (String × Document)) (campaignId : ℕ) (products : AdvertisingMap) :
    Except WbReportParseError AdvertisingMap :=
  if products.toList.any fun entry => entry.2.impressions < entry.2.clicks then do
    let campaign ← (addAdvertisingRow parseDate day campaignId 0 ∅).mapError fun _ =>
      .inconsistentAdvertisingCounts
    let authoritative ← context campaign.toList.head? .shape
    let sum ← products.toList.foldlM (fun sum entry => sum.merge entry.2) {}
    ensure (¬ (authoritative.2.impressions < authoritative.2.clicks ∨ sum ≠ authoritative.2))
      .inconsistentAdvertisingCounts
    return campaign
  else return products

/-- The counters of a day into those of the response. -/
def mergeEntry (totals : AdvertisingMap) (entry : AdvertisingKey × AdvertisingTotals) :
    Except WbReportParseError AdvertisingMap := do
  let value ← (totals[entry.1]?.getD {}).merge entry.2
  return totals.insert entry.1 value

/-- Add a day, by products where they agree with it. -/
def parseCampaignDay (day : List (String × Document)) (campaignId : ℕ) (totals : AdvertisingMap) :
    Except WbReportParseError AdvertisingMap := do
  let productRows ← campaignDayProductRows day
  if productRows.isEmpty then addAdvertisingRow parseDate day campaignId 0 totals
  else do
    let products ← productRows.foldlM (addProductRow parseDate day campaignId) ∅
    let products ← reconcileProducts parseDate day campaignId products
    products.toList.foldlM mergeEntry totals

/-- A row of the legacy shape. -/
def addStatsRow (campaignId : ℕ) (totals : AdvertisingMap) (row : Document) :
    Except WbReportParseError AdvertisingMap := do
  let row ← object row
  let sku ← optionalUnsigned (row.lookup "nm_id")
  addAdvertisingRow parseDate row campaignId (sku.getD 0) totals

/-- A day of the current shape. -/
def addDay (campaignId : ℕ) (totals : AdvertisingMap) (day : Document) :
    Except WbReportParseError AdvertisingMap := do
  parseCampaignDay parseDate (← object day) campaignId totals

/-- The days of a campaign, or the rows of the legacy shape. -/
def parseCampaignRows (campaign : List (String × Document)) (campaignId : ℕ) (totals : AdvertisingMap) :
    Except WbReportParseError AdvertisingMap :=
  match campaign.lookup "days", campaign.lookup "stats" with
  | some days, _ => do (← array days).foldlM (addDay parseDate campaignId) totals
  | none, some stats => do (← array stats).foldlM (addStatsRow parseDate campaignId) totals
  | none, none => .error .shape

/-- The id of a campaign under either name. -/
def campaignIdOf (campaign : List (String × Document)) : Except WbReportParseError ℕ := do
  let id ← unsigned (← context ((campaign.lookup "advertId").or (campaign.lookup "advert_id")) .shape)
  ensurePositive id
  return id

/-- Add a campaign. -/
def parseCampaign (totals : AdvertisingMap) (campaign : Document) :
    Except WbReportParseError AdvertisingMap := do
  let campaign ← object campaign
  parseCampaignRows parseDate campaign (← campaignIdOf campaign) totals

/-- Counters as a fact, with no more clicks than impressions. -/
def advertisingFact (entry : AdvertisingKey × AdvertisingTotals) :
    Except WbReportParseError CollectedAdvertisingFact := do
  ensure (entry.2.clicks ≤ entry.2.impressions) .inconsistentAdvertisingCounts
  return {
    businessDate := (ofLex entry.1).1
    campaignId := (ofLex (ofLex entry.1).2).1
    sku := (ofLex (ofLex entry.1).2).2
    impressions := entry.2.impressions
    clicks := entry.2.clicks
    spendMinor := entry.2.spendMinor
    attributedOrders := entry.2.orders
    attributedRevenueMinor := entry.2.revenueMinor
    basketAdditions := 0
    modelAttributedOrders := 0
    modelAttributedRevenueMinor := 0
    productPriceMinor := 0
    averageCpcMinor := none
    cpmMinor := none
    cplMinor := none }

/-- The facts of a response. -/
def parsePromotionStats (response : Document) : Except WbReportParseError (List CollectedAdvertisingFact) :=
  -- no campaign has statistics in the period
  if response.isNull then .ok []
  else do
    let totals ← (← array response).foldlM (parseCampaign parseDate) ∅
    ensure (totals.size ≤ maxRows) .tooManyRows
    totals.toList.mapM advertisingFact

end Reading

end AdsControl.Reporting
