import AdsControl.Reporting.WbSales
import AdsControl.Text

/-!
# Collection of stocks

The stocks of the marketplace are walked by offset; sizes that were seen before are refused. The stocks
of the seller need the warehouses, then the catalogue of sizes, then the amounts of every batch of sizes
in every warehouse.

* `stockPage`, `parseWarehouses`, `parseCards`, `parseAmounts`: the responses;
* `collectStockPages`, `collectSellerStockPages`, `collectCompleteStockPages`: the walks;
* **`StockRequest.identity_injective`**: the identity determines the request.
-/

namespace AdsControl.Reporting

open Fallible Interaction Machine OrderedMap Serde Std

/-! ## Facts -/

/-- The stock of a product in a warehouse. -/
structure CollectedStockFact where
  sku : ℕ
  warehouseId : String
  sellableUnits : ℕ
  presentUnits : Option ℕ
  reservedUnits : Option ℕ
  deriving DecidableEq

/-- How a page names a warehouse that has no id. -/
structure WarehouseLabels where
  regionName : String
  warehouseName : String
  deriving DecidableEq, Ord

/-- What a page may state once. -/
structure SizeIdentity where
  sku : ℕ
  chrtId : ℕ
  warehouseId : ℤ
  warehouseLabels : Option WarehouseLabels
  deriving DecidableEq, Ord

/-- A page of the stock report. -/
structure StockPage where
  facts : List CollectedStockFact
  sourceRows : ℕ
  sizes : List SizeIdentity

/-- A warehouse of the seller. -/
structure Warehouse where
  id : ℕ
  deliveryType : ℕ
  deriving DecidableEq

/-- Products with their sizes, and where the next page begins. -/
structure CardPage (Cursor : Type) where
  products : List (ℕ × List ℕ)
  next : Option Cursor

/-- The rows of a full page. -/
def stockPageSize : ℕ := 1000

/-- The most pages of a walk. -/
def maxStockPages : ℕ := 25

/-- The cards of a full page. -/
def cardLimit : ℕ := 100

/-- The sizes asked for at once. -/
def stockBatch : ℕ := 1000

/-- The most products or sizes. -/
def maxIdentities : ℕ := 25000

/-- The most warehouses. -/
def maxWarehouses : ℕ := 100

/-- The longest label in bytes. -/
def maxWarehouseLabelBytes : ℕ := 512

/-- The id of stock without a warehouse. -/
def wbUnspecifiedWarehouseId : ℤ := -999999

/-! ## Responses -/

/-- How a response is read; the digest of region and warehouse names and the check of a time are those of
their libraries. -/
structure WbStockAdapter (V : Type) extends Reader V where
  labelDigest : String → String → String
  validTime : String → Bool

/-- A decimal number of 64 bits; a leading plus is accepted. -/
def parseU64 (text : String) : Option ℕ :=
  let digits := if text.toList.head? = some '+' then text.toList.tail else text.toList
  if digits ≠ [] ∧ digits.all Char.isDigit then
    tryFrom 64 (digits.foldl (fun n c => 10 * n + (c.toNat - '0'.toNat)) 0)
  else none

namespace WbStockAdapter

variable {V : Type} (adapter : WbStockAdapter V)

/-- A field of an object. -/
def field (row : V) (name : String) : Except WbReportParseError V := do
  ensure (adapter.isObject row) .shape
  context (adapter.get row name) .shape

/-- A natural number, or the text of one. -/
def unsigned (value : V) : Except WbReportParseError ℕ :=
  context (adapter.asU64 value <|> (adapter.asStr value).bind parseU64) .value

/-- A whole number. -/
def signed (value : V) : Except WbReportParseError ℤ := context (adapter.asI64 value) .value

/-- A label that is not empty, not too long and printable. -/
def boundedWarehouseLabel (value : V) : Except WbReportParseError String := do
  let text ← context (adapter.asStr value) .shape
  ensure (text ≠ "" ∧ text.utf8ByteSize ≤ maxWarehouseLabelBytes ∧ text.toList.any isControl = false) .value
  return text

/-- The warehouse of a row: by its id, or by its labels. -/
def warehouseIdentity (row : V) : Except WbReportParseError String := do
  let warehouseId ← adapter.signed (← adapter.field row "warehouseId")
  if 0 < warehouseId then return "wb:" ++ warehouseId.repr
  else
    ensure (warehouseId = wbUnspecifiedWarehouseId) .value
    let region ← adapter.boundedWarehouseLabel (← adapter.field row "regionName")
    let warehouse ← adapter.boundedWarehouseLabel (← adapter.field row "warehouseName")
    return "wb:sha256:" ++ adapter.labelDigest region warehouse

end WbStockAdapter

/-- Units of each product in each warehouse. -/
abbrev StockTotals : Type := ExtTreeMap (ℕ ×ₗ String) ℕ

/-- Add units to a product in a warehouse. -/
def addStock (totals : StockTotals) (sku : ℕ) (warehouseId : String) (units : ℕ) : Option StockTotals :=
  let key := toLex (sku, warehouseId)
  (checkedAdd 64 (totals[key]?.getD 0) units).map fun total => totals.insert key total

/-- The facts of the totals, in order. -/
def stockFacts (totals : StockTotals) : List CollectedStockFact :=
  totals.toList.map fun entry => {
    sku := (ofLex entry.1).1
    warehouseId := (ofLex entry.1).2
    sellableUnits := entry.2
    presentUnits := none
    reservedUnits := none }

namespace WbStockAdapter

variable {V : Type} (adapter : WbStockAdapter V)

/-- Add the stock of a row. -/
def parseStockRow (totals : StockTotals) (row : V) : Except WbReportParseError StockTotals := do
  let sku ← adapter.unsigned (← adapter.field row "nmId")
  ensure (0 < sku ∧ sku < 2 ^ 63) .value
  let warehouse ← adapter.warehouseIdentity row
  let quantity ← adapter.unsigned (← adapter.field row "quantity")
  context (addStock totals sku warehouse quantity) .value

/-- The facts of a page, with the number of its rows. -/
def parseStockPage (response : V) : Except WbReportParseError (List CollectedStockFact × ℕ) := do
  let data ← adapter.field response "data"
  let rows ← context (adapter.asArray (← adapter.field data "items")) .shape
  ensure (rows.length ≤ maxRows) .tooManyRows
  let totals ← rows.foldlM adapter.parseStockRow ∅
  return (stockFacts totals, rows.length)

/-- Read a member of a row. -/
def read {α : Type} (row : V) (name : String) (as : V → Option α) : Except WbReportSourceError α :=
  context ((adapter.get row name).bind as) .invalidStockResponse

/-- The size of a row; older rows have none. -/
def sizeIdentity (row : V) : Except WbReportSourceError (Option SizeIdentity) :=
  match adapter.get row "chrtId" with
  | none => return none
  | some chrtId => do
    let chrtId ← context ((adapter.asU64 chrtId).filter (0 < ·)) .invalidStockResponse
    let warehouseId ← adapter.read row "warehouseId" adapter.asI64
    let warehouseLabels ←
      if warehouseId < 0 then do
        let regionName ← adapter.read row "regionName" adapter.asStr
        let warehouseName ← adapter.read row "warehouseName" adapter.asStr
        pure (some (WarehouseLabels.mk regionName warehouseName))
      else pure none
    let sku ← adapter.read row "nmId" adapter.asU64
    return some ⟨sku, chrtId, warehouseId, warehouseLabels⟩

/-- Add the identity of a row; it may occur once. -/
def addSize (sizes : List SizeIdentity) (row : V) : Except WbReportSourceError (List SizeIdentity) := do
  match ← adapter.sizeIdentity row with
  | none => return sizes
  | some size =>
    ensure (size ∉ sizes) .invalidStockResponse
    return sizes ++ [size]

/-- A page of stocks with the sizes it holds, in order. -/
def stockPage (response : V) : Except WbReportSourceError StockPage := do
  let (facts, sourceRows) ← (adapter.parseStockPage response).mapError fun _ => .invalidStockResponse
  ensure (sourceRows ≤ stockPageSize) .invalidStockResponse
  let data ← context (adapter.get response "data") .invalidStockResponse
  let rows ← adapter.read data "items" adapter.asArray
  let sizes ← rows.foldlM adapter.addSize []
  return ⟨facts, sourceRows, sizes.mergeSort fun a b => (compare a b).isLE⟩

/-- A positive identifier of 63 bits. -/
def id {E : Type} (e : E) (value : Option V) : Except E ℕ :=
  context ((value.bind adapter.asU64).filter fun id => 0 < id ∧ id < 2 ^ 63) e

/-- Warehouses with distinct identifiers. -/
def addWarehouse {E : Type} (e : E) (warehouses : List Warehouse) (warehouse : Warehouse) :
    Except E (List Warehouse) := do
  ensure (warehouse.id ∉ warehouses.map Warehouse.id) e
  return warehouses ++ [warehouse]

/-- The warehouses of a reply. -/
def parseWarehouses (response : V) : Except WbReportSourceError (List Warehouse) := do
  let rows ← context (adapter.asArray response) .invalidStockResponse
  ensure (rows.length ≤ maxWarehouses) .paginationLimit
  rows.foldlM (fun warehouses row => do
    let id ← adapter.id .invalidStockResponse (adapter.get row "id")
    let deliveryType ← adapter.id .invalidStockResponse (adapter.get row "deliveryType")
    addWarehouse .invalidStockResponse warehouses ⟨id, deliveryType⟩) []

/-- A product with its sizes. -/
def parseProduct {E : Type} (e : E) (row : V) : Except E (ℕ × List ℕ) := do
  let sku ← adapter.id e (adapter.get row "nmID")
  let sizes ← context ((adapter.get row "sizes").bind adapter.asArray) e
  ensure (sizes ≠ [] ∧ sizes.length ≤ maxIdentities) e
  let ids ← sizes.mapM fun size => adapter.id e (adapter.get size "chrtID")
  return (sku, ids)

/-- The time of a cursor. -/
def updatedAt {E : Type} (e : E) (cursor : V) : Except E String := do
  let updated ← context ((adapter.get cursor "updatedAt").bind adapter.asStr) e
  ensure (updated.utf8ByteSize ≤ 64 ∧ adapter.validTime updated) e
  return updated

/-- The sizes of a page of cards, with the cursor of the next one. -/
def parseCards (response : V) : Except WbReportSourceError (CardPage (String × ℕ)) := do
  let rows ← adapter.read response "cards" adapter.asArray
  ensure (rows.length ≤ cardLimit) .paginationLimit
  let cursor ← context (adapter.get response "cursor") .invalidStockResponse
  ensure ((adapter.get cursor "total").bind adapter.asU64 = some rows.length) .invalidStockResponse
  let products ← rows.mapM (adapter.parseProduct .invalidStockResponse)
  if rows.length = cardLimit then
    let updated ← adapter.updatedAt .invalidStockResponse cursor
    let nmId ← adapter.id .invalidStockResponse (adapter.get cursor "nmID")
    return ⟨products, some (updated, nmId)⟩
  else return ⟨products, none⟩

/-- Add an amount that was asked for. -/
def addAmount (requested : List ℕ) (amounts : List (ℕ × ℕ)) (row : V) :
    Except WbReportSourceError (List (ℕ × ℕ)) := do
  let chrtId ← adapter.id .invalidStockResponse (adapter.get row "chrtId")
  let amount ← adapter.read row "amount" adapter.asU64
  ensure (chrtId ∈ requested ∧ chrtId ∉ amounts.map Prod.fst) .invalidStockResponse
  return amounts ++ [(chrtId, amount)]

/-- The amount of every requested size. -/
def parseAmounts (response : V) (requested : List ℕ) : Except WbReportSourceError (List (ℕ × ℕ)) := do
  let rows ← adapter.read response "stocks" adapter.asArray
  let amounts ← rows.foldlM (adapter.addAmount requested) []
  ensure (amounts.length = requested.length) .sellerStockCoverageIncomplete
  return amounts

end WbStockAdapter

/-! ## Stored pages -/

/-- A fact as it is stored. -/
def stockFactCodec : Codec CollectedStockFact where
  encode fact := .obj [("sku", Codec.nat.encode fact.sku),
    ("warehouse_id", Codec.string.encode fact.warehouseId),
    ("sellable_units", Codec.nat.encode fact.sellableUnits),
    ("present_units", (Codec.nat.option nat_ne_null).encode fact.presentUnits),
    ("reserved_units", (Codec.nat.option nat_ne_null).encode fact.reservedUnits)]
  decode value := do
    let fields ← value.fields
    return {
      sku := ← Json.field Codec.nat fields "sku"
      warehouseId := ← Json.field Codec.string fields "warehouse_id"
      sellableUnits := ← Json.field Codec.nat fields "sellable_units"
      presentUnits := ← Json.optional (Codec.nat.option nat_ne_null) fields "present_units"
      reservedUnits := ← Json.optional (Codec.nat.option nat_ne_null) fields "reserved_units" }
  decode_encode fact := by simp [Json.field_other, Json.optional_other]

theorem pair_ne_null {α β : Type} (c : Codec α) (d : Codec β) (p : α × β) : (c.pair d).encode p ≠ .null :=
  fun h => (nomatch h)

/-- Labels as they are stored. -/
def warehouseLabelsCodec : Codec WarehouseLabels where
  encode labels := (Codec.string.pair Codec.string).encode (labels.regionName, labels.warehouseName)
  decode value := ((Codec.string.pair Codec.string).decode value).map fun labels => ⟨labels.1, labels.2⟩
  decode_encode labels := by simp

theorem warehouseLabels_ne_null (labels : WarehouseLabels) : warehouseLabelsCodec.encode labels ≠ .null :=
  pair_ne_null Codec.string Codec.string _

/-- An identity as it is stored. -/
def sizeIdentityCodec : Codec SizeIdentity where
  encode size := .obj [("sku", Codec.nat.encode size.sku), ("chrt_id", Codec.nat.encode size.chrtId),
    ("warehouse_id", Codec.int.encode size.warehouseId),
    ("warehouse_labels", (warehouseLabelsCodec.option warehouseLabels_ne_null).encode size.warehouseLabels)]
  decode value := do
    let fields ← value.fields
    return {
      sku := ← Json.field Codec.nat fields "sku"
      chrtId := ← Json.field Codec.nat fields "chrt_id"
      warehouseId := ← Json.field Codec.int fields "warehouse_id"
      warehouseLabels := ← Json.optional (warehouseLabelsCodec.option warehouseLabels_ne_null) fields
        "warehouse_labels" }
  decode_encode size := by simp [Json.field_other, Json.optional_other]

/-- A page as it is stored. -/
def stockPageCodec : Codec StockPage where
  encode page := .obj [("facts", stockFactCodec.list.encode page.facts),
    ("source_rows", Codec.nat.encode page.sourceRows), ("sizes", sizeIdentityCodec.list.encode page.sizes)]
  decode value := do
    let fields ← value.fields
    return {
      facts := ← Json.field stockFactCodec.list fields "facts"
      sourceRows := ← Json.field Codec.nat fields "source_rows"
      sizes := ← Json.field sizeIdentityCodec.list fields "sizes" }
  decode_encode page := by simp [Json.field_other]

/-- A warehouse as it is stored. -/
def warehouseCodec : Codec Warehouse where
  encode warehouse := .obj [("id", Codec.nat.encode warehouse.id),
    ("delivery_type", Codec.nat.encode warehouse.deliveryType)]
  decode value := do
    let fields ← value.fields
    return {
      id := ← Json.field Codec.nat fields "id"
      deliveryType := ← Json.field Codec.nat fields "delivery_type" }
  decode_encode warehouse := by simp [Json.field_other]

/-- A page of cards; its products are stored under the given name. -/
def cardPageCodec {Cursor : Type} (products : String) (hname : "next" ≠ products)
    (cursor : Codec (Option Cursor)) : Codec (CardPage Cursor) where
  encode page := .obj [(products, (Codec.nat.pair Codec.nat.list).list.encode page.products),
    ("next", cursor.encode page.next)]
  decode value := do
    let fields ← value.fields
    return {
      products := ← Json.field (Codec.nat.pair Codec.nat.list).list fields products
      next := ← Json.optional cursor fields "next" }
  decode_encode page := by simp [Json.optional_other hname]

/-- A cursor as it is stored. -/
def cardCursorCodec : Codec (Option (String × ℕ)) :=
  (Codec.string.pair Codec.nat).option (pair_ne_null _ _)

/-! ## Requests -/

/-- The requests of a collection of stock. -/
inductive StockRequest
  | stockPage (offset : ℕ)
  | warehouses
  | cards (cursor : Option (String × ℕ))
  | stocks (warehouseId : ℕ) (chrtIds : List ℕ)

namespace StockRequest

/-- What each request returns. -/
def Page : StockRequest → Type
  | stockPage _ => Reporting.StockPage
  | warehouses => List Warehouse
  | cards _ => CardPage (String × ℕ)
  | stocks _ _ => List (ℕ × ℕ)

/-- What a stored page is found by. -/
def identity : StockRequest → Json
  | stockPage offset => .arr [.str "wb_stock_v2", .num stockPageSize, Codec.nat.encode offset]
  | warehouses => .arr [.str "wb_seller_warehouses_v1"]
  | cards cursor => .arr [.str "wb_stock_cards_v1", cardCursorCodec.encode cursor]
  | stocks warehouseId chrtIds => .arr [.str "wb_seller_stock_v1", Codec.nat.encode warehouseId,
      Codec.nat.list.encode chrtIds]

/-- The quota of each request. -/
def quota : StockRequest → PageQuota
  | stockPage _ => .default
  | warehouses => .wbSellerInventory
  | cards _ => .wbStockContent
  | stocks _ _ => .wbSellerInventory

/-- How each page is stored. -/
def codec : (r : StockRequest) → Codec r.Page
  | stockPage _ => stockPageCodec
  | warehouses => warehouseCodec.list
  | cards _ => cardPageCodec "products" (by decide) cardCursorCodec
  | stocks _ _ => (Codec.nat.pair Codec.nat).list

/-- How each reply is read. -/
def normalize {V : Type} (adapter : WbStockAdapter V) :
    (r : StockRequest) → Except WbReportSourceError V → Except WbReportSourceError r.Page
  | stockPage _, answer => do adapter.stockPage (← answer)
  | warehouses, answer => do adapter.parseWarehouses (← answer)
  | cards _, answer => do adapter.parseCards (← answer)
  | stocks _ chrtIds, answer => do adapter.parseAmounts (← answer) chrtIds

/-- **The identity determines the request.** -/
theorem identity_injective : Function.Injective identity := by
  intro r r' h
  have hnat := Codec.nat.encode_injective
  have hlist := Codec.nat.list.encode_injective
  have hcursor := cardCursorCodec.encode_injective
  cases r <;> cases r' <;> simp [identity, hnat.eq_iff, hlist.eq_iff, hcursor.eq_iff] at h <;> simp [h]

end StockRequest

/-- The pages of a collection of stock. -/
def stockPages {V : Type} (adapter : WbStockAdapter V) :
    Pages StockRequest V WbReportSourceError StockRequest.Page where
  identity := StockRequest.identity
  legacy _ := none
  quota := StockRequest.quota
  normalize := StockRequest.normalize adapter
  codec := StockRequest.codec
  failed := .checkpoint

/-- A collection of stock. -/
abbrev StockProg (α : Type) : Type := Prog StockRequest StockRequest.Page WbReportSourceError α

/-- Ask for one page. -/
def StockRequest.ask (r : StockRequest) : StockProg r.Page := .perform r

/-! ## The stocks of the marketplace -/

/-- Sizes that were not seen before. -/
def insertSizes (seenSizes : List SizeIdentity) (sizes : List SizeIdentity) :
    Except WbReportSourceError (List SizeIdentity) :=
  sizes.foldlM (fun seenSizes size => do
    ensure (size ∉ seenSizes) .invalidStockResponse
    return size :: seenSizes) seenSizes

/-- Add the facts of a page. -/
def addFacts (totals : StockTotals) (facts : List CollectedStockFact) :
    Except WbReportSourceError StockTotals :=
  facts.foldlM (fun totals fact =>
    context (addStock totals fact.sku fact.warehouseId fact.sellableUnits) .invalidStockResponse) totals

/-- The walk over the pages of the report. -/
def stockLoop (totals : StockTotals) (seenSizes : List SizeIdentity) (page : ℕ) :
    ℕ → StockProg (List CollectedStockFact)
  | 0 => .fail .paginationLimit
  | remaining + 1 => do
    let offset ← .ofExcept (pageOffset page stockPageSize)
    let stocks : StockPage ← StockRequest.ask (.stockPage offset)
    .ofExcept (ensure (stocks.sourceRows ≤ stockPageSize) .invalidStockResponse)
    let seenSizes ← .ofExcept (insertSizes seenSizes stocks.sizes)
    let totals ← .ofExcept (addFacts totals stocks.facts)
    if stocks.sourceRows < stockPageSize then return stockFacts totals
    else stockLoop totals seenSizes (page + 1) remaining

/-- The stock of the marketplace's warehouses. -/
def collectStockPagesWithLimit (maxPages : ℕ) : StockProg (List CollectedStockFact) :=
  stockLoop ∅ [] 0 maxPages

/-- **The stocks of the marketplace.** -/
def collectStockPages : StockProg (List CollectedStockFact) := collectStockPagesWithLimit maxStockPages

/-! ## The stocks of the seller -/

/-- Products seen so far and the product of each size. -/
structure SizeCatalog where
  products : Finset ℕ
  sizes : ExtTreeMap ℕ ℕ

/-- Add one page of cards. A product or a size is seen once. -/
def indexCardSizes (catalog : SizeCatalog) (pageProducts : List (ℕ × List ℕ)) :
    Except WbReportSourceError SizeCatalog :=
  pageProducts.foldlM (fun catalog product => do
    ensure (product.1 ∉ catalog.products) .invalidStockResponse
    let sizes ← product.2.foldlM (fun sizes id => do
      ensure (sizes[id]? = none) .invalidStockResponse
      ensure ((sizes.insert id product.1).size ≤ maxIdentities) .paginationLimit
      return sizes.insert id product.1) catalog.sizes
    return ⟨insert product.1 catalog.products, sizes⟩) catalog

/-- The walk over the cards. -/
def sizeCatalogLoop (cursor : Option (String × ℕ)) (cursors : List (String × ℕ)) (catalog : SizeCatalog) :
    ℕ → StockProg (ExtTreeMap ℕ ℕ)
  | 0 => .fail .paginationLimit
  | remaining + 1 => do
    let page : CardPage (String × ℕ) ← StockRequest.ask (.cards cursor)
    let catalog ← .ofExcept (indexCardSizes catalog page.products)
    match page.next with
    | none => return catalog.sizes
    | some next => do
      .ofExcept (ensure (next ∉ cursors) .invalidStockResponse)
      sizeCatalogLoop (some next) (next :: cursors) catalog remaining

/-- The product of each size; an empty last page is allowed at the bound. -/
def sellerSizeCatalog : StockProg (ExtTreeMap ℕ ℕ) :=
  sizeCatalogLoop none [] ⟨∅, ∅⟩ (maxIdentities / cardLimit + 1)

/-- Add amounts to the products of their sizes. -/
def addAmounts (sizes totals : ExtTreeMap ℕ ℕ) (amounts : List (ℕ × ℕ)) :
    Except WbReportSourceError (ExtTreeMap ℕ ℕ) :=
  amounts.foldlM (fun totals amount => do
    let sku ← context sizes[amount.1]? .invalidStockResponse
    let total ← context (checkedAdd 64 (totals[sku]?.getD 0) amount.2) .invalidStockResponse
    return totals.insert sku total) totals

/-- The units of each product in one warehouse, batch by batch. -/
def warehouseTotals (sizes : ExtTreeMap ℕ ℕ) (warehouseId : ℕ) (totals : ExtTreeMap ℕ ℕ) :
    List (List ℕ) → StockProg (ExtTreeMap ℕ ℕ)
  | [] => return totals
  | chunk :: rest => do
    let amounts : List (ℕ × ℕ) ← StockRequest.ask (.stocks warehouseId chunk)
    let totals ← .ofExcept (addAmounts sizes totals amounts)
    warehouseTotals sizes warehouseId totals rest

/-- The totals of a warehouse as facts. -/
def pushTotals (warehouse : Warehouse) (facts : List CollectedStockFact) (totals : List (ℕ × ℕ)) :
    Except WbReportSourceError (List CollectedStockFact) :=
  totals.foldlM (fun facts total => do
    ensure (facts.length < maxIdentities) .paginationLimit
    return facts ++ [{
      sku := total.1
      warehouseId := "wb:seller:" ++ warehouse.deliveryType.repr ++ ":" ++ warehouse.id.repr
      sellableUnits := total.2
      presentUnits := none
      reservedUnits := none }]) facts

/-- The stock of the seller's warehouses, one by one. -/
def warehouseLoop (sizes : ExtTreeMap ℕ ℕ) (facts : List CollectedStockFact) :
    List Warehouse → StockProg (List CollectedStockFact)
  | [] => return facts
  | warehouse :: rest => do
    let totals ← warehouseTotals sizes warehouse.id ∅ (chunks stockBatch sizes.keys)
    let facts ← .ofExcept (pushTotals warehouse facts totals.toList)
    warehouseLoop sizes facts rest

/-- **The stocks of the seller.** -/
def collectSellerStockPages : StockProg (List CollectedStockFact) := do
  let warehouses : List Warehouse ← StockRequest.ask .warehouses
  if warehouses = [] then return []
  else
    let sizes ← sellerSizeCatalog
    warehouseLoop sizes [] warehouses

/-- **All stocks**, of the marketplace and of the seller. -/
def collectCompleteStockPages : StockProg (List CollectedStockFact) := do
  let facts ← collectStockPages
  let seller ← collectSellerStockPages
  .ofExcept (ensure ((facts ++ seller).length ≤ maxIdentities) .paginationLimit)
  return facts ++ seller

/-- A walk over stocks as a collection. -/
def stockCollection {V α : Type} (adapter : WbStockAdapter V) (collector : StockProg α) : Collection V where
  Request := StockRequest
  Error := WbReportSourceError
  Result := α
  Page := StockRequest.Page
  pages := stockPages adapter
  collector := collector
  determined _ := ⟨fun _ _ _ _ h => StockRequest.identity_injective h, fun _ _ _ _ h => nomatch h⟩

end AdsControl.Reporting
