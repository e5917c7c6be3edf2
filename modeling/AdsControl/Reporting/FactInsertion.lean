import AdsControl.Lib.Conversion
import AdsControl.Reporting.Facts
import AdsControl.Reporting.PostingMovement
import AdsControl.Text

/-!
# Insertion of collected facts

Facts are checked when a snapshot is built and narrowed to the columns of the database when it is
published, in the middle of a transaction.

* `validateFacts`: the check of each kind of facts;
* `insertFacts`: the columns of the insertions, with `Storable` for the bounds that only they have;
* **`validated_facts_insertable`**: checked facts are inserted exactly when they are storable.
-/

namespace AdsControl.Reporting

open Fallible Ozon Std

/-- The most rows of a statement. -/
def maxFactRows : ℕ := 25000

/-! ## Sales -/

/-- What is known about checked sales. -/
structure Fingerprint where
  checkedRows : ℕ := 0
  distinctIdentities : ℕ := 0
  duplicateRows : ℕ := 0
  invalidSkuRows : ℕ := 0
  invalidCountRows : ℕ := 0
  invalidMoneyRows : ℕ := 0
  truncated : Bool := false

namespace Fingerprint

/-- The product does not fit its column. -/
def invalidSku (fact : CollectedSalesFact) : Bool := fact.sku == 0 || !fitsI64 fact.sku

/-- A number of units does not fit its column. -/
def invalidCount (fact : CollectedSalesFact) : Bool :=
  !fitsI32 fact.orderedUnits || fact.cancelledUnits.any (fun value => !fitsI32 value) ||
    fact.returnedUnits.any (fun value => !fitsI32 value)

/-- The amount does not fit its column. -/
def invalidMoney (fact : CollectedSalesFact) : Bool := !fitsI64 fact.operationalGmvMinor

/-- One more row, with the identities seen so far. -/
def inspectRow (progress : Fingerprint × Finset SalesKey) (fact : CollectedSalesFact) :
    Fingerprint × Finset SalesKey :=
  ({ progress.1 with
      checkedRows := progress.1.checkedRows + 1
      duplicateRows := progress.1.duplicateRows + (decide (fact.key ∈ progress.2)).toNat
      invalidSkuRows := progress.1.invalidSkuRows + (invalidSku fact).toNat
      invalidCountRows := progress.1.invalidCountRows + (invalidCount fact).toNat
      invalidMoneyRows := progress.1.invalidMoneyRows + (invalidMoney fact).toNat },
    insert fact.key progress.2)

/-- The fingerprint of sales. -/
def inspect (facts : List CollectedSalesFact) : Fingerprint :=
  let progress := (facts.take maxFactRows).foldl inspectRow ({ truncated := maxFactRows < facts.length }, ∅)
  { progress.1 with distinctIdentities := progress.2.card }

/-- Why sales are refused. -/
def reason (fingerprint : Fingerprint) : Option String :=
  if fingerprint.truncated then some "row_limit"
  else if fingerprint.invalidSkuRows + fingerprint.invalidCountRows + fingerprint.invalidMoneyRows > 0 then
    some "invalid_numeric_range"
  else if fingerprint.duplicateRows > 0 then some "duplicate_identity"
  else none

end Fingerprint

/-- Sales whose fingerprint gives no reason. -/
def validateSales (facts : List CollectedSalesFact) : Except PostgresCollectorError Unit :=
  ensure (Fingerprint.inspect facts).reason.isNone .invalidInput

/-! ## Advertising, finance, stocks and prices -/

/-- The check of an advertising row. -/
def validAdvertising (fact : CollectedAdvertisingFact) : Bool :=
  0 < fact.campaignId && fitsI64 fact.campaignId && fitsI64 fact.sku && fitsI64 fact.impressions &&
    fitsI64 fact.clicks && fact.clicks ≤ fact.impressions && fitsI64 fact.spendMinor &&
    fitsI32 fact.attributedOrders && fitsI64 fact.attributedRevenueMinor && fitsI64 fact.basketAdditions &&
    fitsI32 fact.modelAttributedOrders && fitsI64 fact.modelAttributedRevenueMinor &&
    fitsI64 fact.productPriceMinor && fact.averageCpcMinor.all fitsI64 && fact.cpmMinor.all fitsI64 &&
    fact.cplMinor.all fitsI64

/-- The check of an accrual. -/
def validFinance (fact : CollectedFinanceFact) : Bool :=
  fact.sku.all (fun sku => 0 < sku) && 0 < fact.lineCount && fact.unknownTypeCount ≤ fact.lineCount

/-- The check of a stock row. -/
def validStock (fact : CollectedStockFact) : Bool :=
  0 < fact.sku && fitsI64 fact.sku && fitsI32 fact.sellableUnits && fact.presentUnits.all fitsI32 &&
    fact.reservedUnits.all fitsI32 &&
    fact.reservedUnits.all (fun reserved => fact.presentUnits.any fun present => reserved ≤ present) &&
    asciiWord ['.', '_', ':', '-'] fact.warehouseId

/-- The check of a price. -/
def validPrice (fact : CollectedPriceFact) : Bool :=
  0 < fact.sku && fitsI64 fact.sku && fitsI64 fact.priceMinor &&
    fact.oldPriceMinor.all fun old => fact.priceMinor ≤ old && fitsI64 old

/-! ## Stocks of the seller -/

/-- The check of the seller's stock. -/
def validSellerStock (fact : CollectedSellerStockFact) : Bool :=
  [fact.sku, fact.chrtId, fact.warehouseId].all (fun id => 0 < id && fitsI64 id) && 0 < fact.deliveryType &&
    fitsI32 fact.deliveryType && fact.sellableUnits.all fitsI32

/-- The most rows of the seller's stock. -/
def SellerStocks.maxSizePairs : ℕ := 2500000

/-- The seller's stock, without a repeated size in a warehouse. -/
def validateSellerStocks (facts : List CollectedSellerStockFact) : Except PostgresCollectorError Unit := do
  ensure (facts.length ≤ SellerStocks.maxSizePairs) .invalidInput
  ensureUnique facts (fun fact => (fact.chrtId, fact.warehouseId)) validSellerStock

/-! ## Stocks of clusters -/

/-- The fields that count units. -/
def countFields : List String :=
  ["available_stock_count", "transit_stock_count", "requested_stock_count", "inbound_replenishment",
    "valid_stock_count", "outbound_pending_delivery", "return_from_customer_stock_count",
    "stock_not_being_sold", "other_stock_count", "stock_defect_stock_count", "transit_defect_stock_count",
    "days_without_sales", "days_without_sales_cluster", "excess_stock_count", "expiring_stock_count"]

/-- The fields that are rates. -/
def rateFields : List String := ["ads", "ads_cluster", "idc", "idc_cluster"]

/-- The fields that are text. -/
def textFields : List String :=
  ["offer_id", "cluster_name", "warehouse_name", "turnover_grade", "turnover_grade_cluster"]

section Clusters

/- The numbers that are finite and not negative, and the length of a value as text. -/
variable (isRate : Document → Bool) (encodedSize : Document → Option ℕ)

/-- The check of a field by its kind. -/
def validClusterField (field : String × Document) : Bool :=
  if field.1 = "source_row" ∨ field.1 = "data_classification" then true
  else if field.1 ∈ countFields then field.2.isNull || field.2.asU64.any fitsI32
  else if field.1 ∈ rateFields then field.2.isNull || isRate field.2
  else if field.1 ∈ textFields then
    field.2.isNull || field.2.asString.any fun s => s.utf8ByteSize ≤ 512 && !s.toList.any isControl
  else false

/-- The check of the stock of a cluster. -/
def validCluster (row : CollectedClusterStockFact) : Bool :=
  0 < row.sku && fitsI64 row.sku && row.warehouseId.all (fun n => n != 0) &&
    [row.clusterId, row.macrolocalClusterId].all (fun value => value.all fun n => 0 < n && fitsI64 n) &&
    row.warehouseId.isSome == row.clusterId.isSome &&
    row.warehouseId.isSome == row.macrolocalClusterId.isSome &&
    (row.data.index "source_row").asBool == some row.warehouseId.isSome &&
    (row.data.index "data_classification").asString == some "untrusted_external_marketplace_data" &&
    row.data.asObject.any (fun fields => fields.all (validClusterField isRate)) &&
    (encodedSize row.data).any (fun size => size ≤ 8192)

/-- The stock of clusters, without a repeated row. -/
def validateClusters (rows : List CollectedClusterStockFact) : Except PostgresCollectorError Unit :=
  ensureUnique rows (fun row => (row.sku, row.warehouseId, row.clusterId, row.macrolocalClusterId))
    (validCluster isRate encodedSize)

/-- The check of collected facts by their kind. -/
def validateFacts : CollectedFacts → Except PostgresCollectorError Unit
  | .sales facts => validateSales facts
  | .advertising facts =>
    ensureUnique facts (fun fact => (fact.businessDate, fact.campaignId, fact.sku)) validAdvertising
  | .finance facts =>
    ensureUnique facts (fun fact => (fact.businessDate, fact.sku, fact.category)) validFinance
  | .sellerStocks facts => validateSellerStocks facts
  | .clusterStocks rows => validateClusters isRate encodedSize rows
  | .postingMovement rows => validatePostings rows
  | .stocks facts => ensureUnique facts (fun fact => (fact.sku, fact.warehouseId)) validStock
  | .prices facts => ensureUnique facts CollectedPriceFact.sku validPrice

end Clusters

/-! ## Columns -/

/-- Sales as columns. -/
structure SalesColumns where
  businessDates : List ℤ
  skus : List ℤ
  orderedUnits : List ℤ
  operationalGmv : List ℤ
  cancelledUnits : List (Option ℤ)
  returnedUnits : List (Option ℤ)

/-- Advertising as columns. -/
structure AdvertisingColumns where
  businessDates : List ℤ
  campaignIds : List ℤ
  skus : List ℤ
  impressions : List ℤ
  clicks : List ℤ
  spend : List ℤ
  attributedOrders : List ℤ
  attributedRevenue : List ℤ
  basketAdditions : List ℤ
  modelOrders : List ℤ
  modelRevenue : List ℤ
  productPrices : List ℤ
  averageCpc : List (Option ℤ)
  cpm : List (Option ℤ)
  cpl : List (Option ℤ)

/-- Accruals as columns. -/
structure FinanceColumns where
  businessDates : List ℤ
  skus : List (Option ℤ)
  categories : List String
  amounts : List ℤ
  lineCounts : List ℤ
  unknownCounts : List ℤ

/-- Stock as columns. -/
structure StockColumns where
  skus : List ℤ
  warehouseIds : List String
  sellableUnits : List ℤ
  presentUnits : List (Option ℤ)
  reservedUnits : List (Option ℤ)

/-- The seller's stock as columns. -/
structure SellerStockColumns where
  skus : List ℤ
  sizes : List ℤ
  warehouses : List ℤ
  deliveryTypes : List ℤ
  units : List (Option ℤ)

/-- The stock of clusters as columns. -/
structure ClusterColumns where
  skus : List ℤ
  warehouses : List (Option ℤ)
  clusters : List (Option ℤ)
  macroclusters : List (Option ℤ)
  data : List Document

/-- The rows stand for their texts. -/
structure PostingColumns where
  skus : List ℤ
  data : List PostingSalesRow

/-- Prices as columns. -/
structure PriceColumns where
  skus : List ℤ
  prices : List ℤ
  oldPrices : List (Option ℤ)

/-- A statement with the columns it inserts. -/
inductive FactStatement
  | sales (columns : SalesColumns)
  | advertising (columns : AdvertisingColumns)
  | finance (columns : FinanceColumns)
  | stocks (columns : StockColumns)
  | sellerStocks (columns : SellerStockColumns)
  | clusterStocks (columns : ClusterColumns)
  | postingMovement (columns : PostingColumns)
  | prices (columns : PriceColumns)

/-! ## Insertions -/

/-- A column of 32 bits. -/
def collectI32 (values : List ℕ) : Except PostgresCollectorError (List ℤ) := values.mapM asI32

/-- A column of 64 bits. -/
def collectI64 (values : List ℕ) : Except PostgresCollectorError (List ℤ) := values.mapM asI64

/-- A column of 32 bits with gaps. -/
def collectOptionalI32 (values : List (Option ℕ)) : Except PostgresCollectorError (List (Option ℤ)) :=
  values.mapM fun value => value.mapM asI32

/-- A column of 64 bits with gaps. -/
def collectOptionalI64 (values : List (Option ℕ)) : Except PostgresCollectorError (List (Option ℤ)) :=
  values.mapM fun value => value.mapM asI64

/-- The statements of an insertion, none when there are no facts. -/
def unlessEmpty {α : Type} (facts : List α) (insert : Except PostgresCollectorError FactStatement) :
    Except PostgresCollectorError (List FactStatement) :=
  if facts.isEmpty then .ok [] else insert.map fun statement => [statement]

/-- The statement that inserts sales. -/
def insertSalesFacts (facts : List CollectedSalesFact) : Except PostgresCollectorError (List FactStatement) :=
  unlessEmpty facts do
    let skus ← collectI64 (facts.map (·.sku))
    let orderedUnits ← collectI32 (facts.map (·.orderedUnits))
    let operationalGmv ← collectI64 (facts.map (·.operationalGmvMinor))
    let cancelledUnits ← collectOptionalI32 (facts.map (·.cancelledUnits))
    let returnedUnits ← collectOptionalI32 (facts.map (·.returnedUnits))
    return .sales ⟨facts.map (·.businessDate), skus, orderedUnits, operationalGmv, cancelledUnits,
      returnedUnits⟩

/-- The statement that inserts advertising. -/
def insertAdvertisingFacts (facts : List CollectedAdvertisingFact) :
    Except PostgresCollectorError (List FactStatement) :=
  unlessEmpty facts do
    let campaignIds ← collectI64 (facts.map (·.campaignId))
    let skus ← collectI64 (facts.map (·.sku))
    let impressions ← collectI64 (facts.map (·.impressions))
    let clicks ← collectI64 (facts.map (·.clicks))
    let spend ← collectI64 (facts.map (·.spendMinor))
    let attributedOrders ← collectI32 (facts.map (·.attributedOrders))
    let attributedRevenue ← collectI64 (facts.map (·.attributedRevenueMinor))
    let basketAdditions ← collectI32 (facts.map (·.basketAdditions))
    let modelOrders ← collectI32 (facts.map (·.modelAttributedOrders))
    let modelRevenue ← collectI64 (facts.map (·.modelAttributedRevenueMinor))
    let productPrices ← collectI64 (facts.map (·.productPriceMinor))
    let averageCpc ← collectOptionalI64 (facts.map (·.averageCpcMinor))
    let cpm ← collectOptionalI64 (facts.map (·.cpmMinor))
    let cpl ← collectOptionalI64 (facts.map (·.cplMinor))
    return .advertising ⟨facts.map (·.businessDate), campaignIds, skus, impressions, clicks, spend,
      attributedOrders, attributedRevenue, basketAdditions, modelOrders, modelRevenue, productPrices,
      averageCpc, cpm, cpl⟩

/-- The statement that inserts accruals. -/
def insertFinanceFacts (facts : List CollectedFinanceFact) :
    Except PostgresCollectorError (List FactStatement) :=
  unlessEmpty facts do
    let skus ← collectOptionalI64 (facts.map (·.sku))
    let lineCounts ← collectI32 (facts.map (·.lineCount))
    let unknownCounts ← collectI32 (facts.map (·.unknownTypeCount))
    return .finance ⟨facts.map (·.businessDate), skus, facts.map (·.category.asStr),
      facts.map (·.amountMinor), lineCounts, unknownCounts⟩

/-- The statement that inserts stock. -/
def insertFbw (facts : List CollectedStockFact) : Except PostgresCollectorError (List FactStatement) :=
  unlessEmpty facts do
    let skus ← collectI64 (facts.map (·.sku))
    let sellableUnits ← collectI32 (facts.map (·.sellableUnits))
    let presentUnits ← collectOptionalI32 (facts.map (·.presentUnits))
    let reservedUnits ← collectOptionalI32 (facts.map (·.reservedUnits))
    return .stocks ⟨skus, facts.map (·.warehouseId), sellableUnits, presentUnits, reservedUnits⟩

/-- The statement of one batch. -/
def insertSellerBatch (facts : List CollectedSellerStockFact) :
    Except PostgresCollectorError FactStatement := do
  let skus ← collectI64 (facts.map (·.sku))
  let sizes ← collectI64 (facts.map (·.chrtId))
  let warehouses ← collectI64 (facts.map (·.warehouseId))
  let deliveryTypes ← collectI32 (facts.map (·.deliveryType))
  let units ← collectOptionalI32 (facts.map (·.sellableUnits))
  return .sellerStocks ⟨skus, sizes, warehouses, deliveryTypes, units⟩

/-- The statements that insert the seller's stock. -/
def insertSellerStocks (facts : List CollectedSellerStockFact) :
    Except PostgresCollectorError (List FactStatement) := (chunks maxFactRows facts).mapM insertSellerBatch

/-- The statement that inserts the stock of clusters. -/
def insertClusters (rows : List CollectedClusterStockFact) :
    Except PostgresCollectorError (List FactStatement) := do
  let skus ← collectI64 (rows.map (·.sku))
  let clusters ← collectOptionalI64 (rows.map (·.clusterId))
  let macroclusters ← collectOptionalI64 (rows.map (·.macrolocalClusterId))
  return [.clusterStocks ⟨skus, rows.map (·.warehouseId), clusters, macroclusters, rows.map (·.data)⟩]

/-- The statement that inserts posting sales. -/
def insertPostings (rows : List PostingSalesRow) : Except PostgresCollectorError (List FactStatement) := do
  let skus ← collectI64 (rows.map (·.sku))
  return [.postingMovement ⟨skus, rows⟩]

/-- The statement that inserts prices. -/
def insertPriceFacts (facts : List CollectedPriceFact) : Except PostgresCollectorError (List FactStatement) :=
  unlessEmpty facts do
    let skus ← collectI64 (facts.map (·.sku))
    let prices ← collectI64 (facts.map (·.priceMinor))
    let oldPrices ← collectOptionalI64 (facts.map (·.oldPriceMinor))
    return .prices ⟨skus, prices, oldPrices⟩

/-- The statements of a snapshot, against a database that executes all of them. -/
def insertFacts : CollectedFacts → Except PostgresCollectorError (List FactStatement)
  | .sales facts => insertSalesFacts facts
  | .advertising facts => insertAdvertisingFacts facts
  | .finance facts => insertFinanceFacts facts
  | .stocks facts => insertFbw facts
  | .sellerStocks facts => insertSellerStocks facts
  | .clusterStocks rows => insertClusters rows
  | .postingMovement rows => insertPostings rows
  | .prices facts => insertPriceFacts facts

/-! ## Checked sales -/

/-- Facts with a product and counters that fit their columns. -/
def validSale (fact : CollectedSalesFact) : Bool :=
  !Fingerprint.invalidSku fact && !Fingerprint.invalidCount fact && !Fingerprint.invalidMoney fact

namespace Fingerprint

theorem foldl_inspectRow (facts : List CollectedSalesFact) (progress : Fingerprint × Finset SalesKey) :
    let result := facts.foldl inspectRow progress
    result.1.truncated = progress.1.truncated ∧
      result.1.invalidSkuRows = progress.1.invalidSkuRows + facts.countP invalidSku ∧
      result.1.invalidCountRows = progress.1.invalidCountRows + facts.countP invalidCount ∧
      result.1.invalidMoneyRows = progress.1.invalidMoneyRows + facts.countP invalidMoney := by
  induction facts generalizing progress with
  | nil => exact ⟨rfl, rfl, rfl, rfl⟩
  | cons fact facts ih =>
    obtain ⟨htruncated, hsku, hcount, hmoney⟩ := ih (inspectRow progress fact)
    have hrow : ∀ (p : CollectedSalesFact → Bool) n, n + (p fact).toNat + facts.countP p =
        n + (fact :: facts).countP p := fun p n => by
      rw [List.countP_cons]
      cases p fact <;> simp [Nat.add_comm, Nat.add_left_comm]
    exact ⟨htruncated, hsku.trans (hrow _ _), hcount.trans (hrow _ _), hmoney.trans (hrow _ _)⟩

end Fingerprint

theorem valid_of_validateSales {facts : List CollectedSalesFact} (h : validateSales facts = .ok ()) :
    ∀ fact ∈ facts, validSale fact := by
  rw [validateSales, ensure_eq_ok, Option.isNone_iff_eq_none] at h
  have hlimit : (Fingerprint.inspect facts).truncated = false ∧ (Fingerprint.inspect facts).invalidSkuRows +
      (Fingerprint.inspect facts).invalidCountRows + (Fingerprint.inspect facts).invalidMoneyRows = 0 := by
    unfold Fingerprint.reason at h
    split_ifs at h with htruncated hinvalid
    exact ⟨by simpa using htruncated, by omega⟩
  obtain ⟨htruncated, hinvalid⟩ := hlimit
  obtain ⟨hkept, hsku, hcount, hmoney⟩ := Fingerprint.foldl_inspectRow (facts.take maxFactRows)
    ({ truncated := maxFactRows < facts.length }, ∅)
  have hshort : facts.length ≤ maxFactRows := by
    have hflag := hkept.symm.trans htruncated
    simpa using hflag
  rw [List.take_of_length_le hshort] at hsku hcount hmoney
  have hzero : facts.countP Fingerprint.invalidSku = 0 ∧ facts.countP Fingerprint.invalidCount = 0 ∧
      facts.countP Fingerprint.invalidMoney = 0 := by
    have hsum : _ + _ + _ = 0 := hinvalid
    rw [Fingerprint.inspect, List.take_of_length_le hshort] at hsum
    simp only at hsum
    omega
  simp only [List.countP_eq_zero] at hzero
  intro fact hfact
  simp [validSale, hzero.1 fact hfact, hzero.2.1 fact hfact, hzero.2.2 fact hfact]

/-! ## Narrowed columns -/

theorem asI32_converts : Converts asI32 (fun value => fitsI32 value = true) Nat.cast := by
  intro value r
  simp only [asI32, ok_of_bind, ok_of_pure, ensure_eq_ok, exists_const, eq_comm (a := r)]

theorem asI64_converts : Converts asI64 (fun value => fitsI64 value = true) Nat.cast := by
  intro value r
  simp only [asI64, ok_of_bind, ok_of_pure, ensure_eq_ok, exists_const, eq_comm (a := r)]

section Columns

variable {α : Type} {facts : List α} {f : α → ℕ} {g : α → Option ℕ}

theorem collectI32_map {r : List ℤ} : collectI32 (facts.map f) = .ok r ↔
    (∀ fact ∈ facts, fitsI32 (f fact)) ∧ r = (facts.map f).map Nat.cast :=
  (asI32_converts.mapM _ _).trans (and_congr_left' List.forall_mem_map)

theorem collectI64_map {r : List ℤ} : collectI64 (facts.map f) = .ok r ↔
    (∀ fact ∈ facts, fitsI64 (f fact)) ∧ r = (facts.map f).map Nat.cast :=
  (asI64_converts.mapM _ _).trans (and_congr_left' List.forall_mem_map)

theorem collectOptionalI32_map {r : List (Option ℤ)} : collectOptionalI32 (facts.map g) = .ok r ↔
    (∀ fact ∈ facts, (g fact).all fitsI32) ∧ r = (facts.map g).map (Option.map Nat.cast) := by
  refine (asI32_converts.option.mapM _ _).trans (and_congr_left' ?_)
  simp only [List.forall_mem_map, Option.all_eq_true, Option.mem_def]

theorem collectOptionalI64_map {r : List (Option ℤ)} : collectOptionalI64 (facts.map g) = .ok r ↔
    (∀ fact ∈ facts, (g fact).all fitsI64) ∧ r = (facts.map g).map (Option.map Nat.cast) := by
  refine (asI64_converts.option.mapM _ _).trans (and_congr_left' ?_)
  simp only [List.forall_mem_map, Option.all_eq_true, Option.mem_def]

theorem exists_unlessEmpty {insert : Except PostgresCollectorError FactStatement} {P : α → Prop}
    (h : (∃ statement, insert = .ok statement) ↔ ∀ fact ∈ facts, P fact) :
    (∃ statements, unlessEmpty facts insert = .ok statements) ↔ ∀ fact ∈ facts, P fact := by
  rw [unlessEmpty]
  cases facts with
  | nil => simp
  | cons fact facts =>
    rw [← h]
    simp

end Columns

/-! ## Insertions of checked facts -/

theorem insertSalesFacts_ok {facts : List CollectedSalesFact} (h : ∀ fact ∈ facts, validSale fact) :
    ∃ statements, insertSalesFacts facts = .ok statements := by
  refine (exists_unlessEmpty (P := fun fact => validSale fact = true) ?_).mpr h
  simp only [ok_of_bind, ok_of_pure, collectI32_map, collectI64_map, collectOptionalI32_map, and_assoc,
    exists_and_left, exists_eq_left, exists_eq']
  have hnone : ∀ value : Option ℕ, value.any (fun n => !fitsI32 n) = false → value.all fitsI32 := by
    rintro (_ | n) hvalue
    · rfl
    · simpa using hvalue
  simp only [validSale, Fingerprint.invalidSku, Fingerprint.invalidCount, Fingerprint.invalidMoney] at h ⊢
  grind

/-- Checked statistics fit their columns except for the additions to baskets. -/
theorem insertAdvertisingFacts_ok {facts : List CollectedAdvertisingFact}
    (h : ∀ fact ∈ facts, validAdvertising fact) :
    (∃ statements, insertAdvertisingFacts facts = .ok statements) ↔
      ∀ fact ∈ facts, fitsI32 fact.basketAdditions := by
  refine exists_unlessEmpty ?_
  simp only [ok_of_bind, ok_of_pure, collectI32_map, collectI64_map, collectOptionalI64_map, and_assoc,
    exists_and_left, exists_eq_left, exists_eq']
  simp only [validAdvertising, Bool.and_eq_true] at h
  grind

/-- Checked accruals have neither a bounded product nor a bounded number of lines. -/
theorem insertFinanceFacts_ok {facts : List CollectedFinanceFact} (h : ∀ fact ∈ facts, validFinance fact) :
    (∃ statements, insertFinanceFacts facts = .ok statements) ↔
      ∀ fact ∈ facts, fact.sku.all fitsI64 ∧ fitsI32 fact.lineCount := by
  refine exists_unlessEmpty ?_
  simp only [ok_of_bind, ok_of_pure, collectI32_map, collectOptionalI64_map, and_assoc, exists_and_left,
    exists_eq_left, exists_eq', and_true]
  constructor
  · rintro ⟨hsku, hlines, -⟩ fact hfact
    exact ⟨hsku fact hfact, hlines fact hfact⟩
  · intro hfits
    have hunknown : ∀ fact ∈ facts, fitsI32 fact.unknownTypeCount := by
      intro fact hfact
      have hvalid := h fact hfact
      have hlines := (hfits fact hfact).2
      simp only [validFinance, Bool.and_eq_true, decide_eq_true_eq, fitsI32] at hvalid hlines ⊢
      omega
    exact ⟨fun fact hfact => (hfits fact hfact).1, fun fact hfact => (hfits fact hfact).2, hunknown⟩

theorem insertFbw_ok {facts : List CollectedStockFact} (h : ∀ fact ∈ facts, validStock fact) :
    ∃ statements, insertFbw facts = .ok statements := by
  refine (exists_unlessEmpty (P := fun fact => validStock fact = true) ?_).mpr h
  simp only [ok_of_bind, ok_of_pure, collectI32_map, collectI64_map, collectOptionalI32_map, and_assoc,
    exists_and_left, exists_eq_left, exists_eq']
  simp only [validStock, Bool.and_eq_true] at h ⊢
  grind

theorem insertSellerStocks_ok {facts : List CollectedSellerStockFact}
    (h : ∀ fact ∈ facts, validSellerStock fact) :
    ∃ statements, insertSellerStocks facts = .ok statements := by
  refine exists_mapM_ok fun batch hbatch => ?_
  have hvalid : ∀ fact ∈ batch, validSellerStock fact := fun fact hfact =>
    h fact ((sublist_of_mem_chunks hbatch).subset hfact)
  simp only [insertSellerBatch, ok_of_bind, ok_of_pure, collectI32_map, collectI64_map,
    collectOptionalI32_map, and_assoc, exists_and_left, exists_eq_left, exists_eq']
  simp only [validSellerStock, List.all_cons, List.all_nil, Bool.and_eq_true] at hvalid
  grind

theorem insertClusters_ok {isRate : Document → Bool} {encodedSize : Document → Option ℕ}
    {rows : List CollectedClusterStockFact} (h : ∀ row ∈ rows, validCluster isRate encodedSize row) :
    ∃ statements, insertClusters rows = .ok statements := by
  have hfits : ∀ value : Option ℕ, (value.all fun n => 0 < n && fitsI64 n) → value.all fitsI64 := by
    rintro (_ | n) hvalue
    · rfl
    · exact (Bool.and_eq_true_iff.mp hvalue).2
  simp only [insertClusters, ok_of_bind, ok_of_pure, collectI64_map, collectOptionalI64_map, and_assoc,
    exists_and_left, exists_eq_left, exists_eq']
  simp only [validCluster, List.all_cons, List.all_nil, Bool.and_eq_true] at h
  grind

theorem insertPostings_ok {rows : List PostingSalesRow} (h : ∀ row ∈ rows, validPosting row) :
    ∃ statements, insertPostings rows = .ok statements := by
  simp only [insertPostings, ok_of_bind, ok_of_pure, collectI64_map, and_assoc, exists_and_left,
    exists_eq_left, exists_eq']
  simp only [validPosting, Bool.and_eq_true] at h
  grind

theorem insertPriceFacts_ok {facts : List CollectedPriceFact} (h : ∀ fact ∈ facts, validPrice fact) :
    ∃ statements, insertPriceFacts facts = .ok statements := by
  have hold : ∀ fact : CollectedPriceFact, (fact.oldPriceMinor.all fun old =>
      fact.priceMinor ≤ old && fitsI64 old) → fact.oldPriceMinor.all fitsI64 := by
    intro fact hvalid
    cases hvalue : fact.oldPriceMinor with
    | none => rfl
    | some old =>
      rw [hvalue] at hvalid
      exact (Bool.and_eq_true_iff.mp hvalid).2
  refine (exists_unlessEmpty (P := fun fact => validPrice fact = true) ?_).mpr h
  simp only [ok_of_bind, ok_of_pure, collectI64_map, collectOptionalI64_map, and_assoc, exists_and_left,
    exists_eq_left, exists_eq']
  simp only [validPrice, Bool.and_eq_true] at h ⊢
  grind

/-! ## The result -/

/-- The bounds that only the columns have: additions to baskets, products of accruals and their lines. -/
def Storable : CollectedFacts → Prop
  | .advertising facts => ∀ fact ∈ facts, fitsI32 fact.basketAdditions
  | .finance facts => ∀ fact ∈ facts, fact.sku.all fitsI64 ∧ fitsI32 fact.lineCount
  | _ => True

/-- **Checked facts are inserted exactly when they are storable.** -/
theorem validated_facts_insertable {isRate : Document → Bool} {encodedSize : Document → Option ℕ}
    {facts : CollectedFacts} (h : validateFacts isRate encodedSize facts = .ok ()) :
    (∃ statements, insertFacts facts = .ok statements) ↔ Storable facts := by
  cases facts with
  | sales facts => exact iff_of_true (insertSalesFacts_ok (valid_of_validateSales h)) trivial
  | advertising facts => exact insertAdvertisingFacts_ok (ensureUnique_eq_ok.mp h).1
  | finance facts => exact insertFinanceFacts_ok (ensureUnique_eq_ok.mp h).1
  | stocks facts => exact iff_of_true (insertFbw_ok (ensureUnique_eq_ok.mp h).1) trivial
  | sellerStocks facts =>
    obtain ⟨-, -, hunique⟩ := ok_of_bind.mp h
    exact iff_of_true (insertSellerStocks_ok (ensureUnique_eq_ok.mp hunique).1) trivial
  | clusterStocks rows => exact iff_of_true (insertClusters_ok (ensureUnique_eq_ok.mp h).1) trivial
  | postingMovement rows => exact iff_of_true (insertPostings_ok (ensureUnique_eq_ok.mp h).1) trivial
  | prices facts => exact iff_of_true (insertPriceFacts_ok (ensureUnique_eq_ok.mp h).1) trivial

/-- A product of a campaign on one day, with its additions to baskets. -/
def basketDay (businessDate : ℤ) (sku basketAdditions : ℕ) : CollectedAdvertisingFact :=
  ⟨businessDate, 7, sku, 1000, 10, 500, 2, 9000, basketAdditions, 0, 0, 4500, none, some 12, none⟩

/-- Two products over two days; the last row has the given additions. -/
def basketDays (basketAdditions : ℕ) : CollectedFacts :=
  .advertising [basketDay 0 42 3, basketDay 0 43 0, basketDay 1 42 (2 ^ 31 - 1), basketDay 1 43 basketAdditions]

theorem validated_facts_insertable_basket :
    ∃ statements, insertFacts (basketDays 5) = .ok statements := by
  have hvalid : validateFacts (fun _ => false) (fun _ => none) (basketDays 5) = .ok () := by rfl
  have hstorable : Storable (basketDays 5) := by
    intro fact hfact
    simp only [List.mem_cons, List.not_mem_nil, or_false] at hfact
    obtain rfl | rfl | rfl | rfl := hfact <;> rfl
  exact (validated_facts_insertable hvalid).mpr hstorable

theorem large_basket_rejected : ¬ ∀ isRate encodedSize facts,
    validateFacts isRate encodedSize facts = .ok () → ∃ statements, insertFacts facts = .ok statements := by
  intro hall
  obtain ⟨_, ⟨⟩⟩ := hall (fun _ => false) (fun _ => none) (basketDays (2 ^ 31)) rfl

end AdsControl.Reporting
