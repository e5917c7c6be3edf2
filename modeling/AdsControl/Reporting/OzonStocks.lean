import AdsControl.Lib.Machine
import AdsControl.Ozon.PostingSales
import AdsControl.Reporting.Money
import AdsControl.Reporting.OzonSource
import AdsControl.Reporting.WbStocks

/-!
# Stocks by warehouse

The catalog has one total for each product and scheme. The warehouses of a scheme are asked for chunks of its
products; a scheme whose source is not supported, and a product whose warehouses are not complete, keep their
totals.

* `parseStockPage`, `parseWarehouseStockPage`: the pages of the catalog and of the warehouses;
* `collectProductPages`, `collectFilteredWarehousePages`: the walks over them;
* `schemeFacts`: totals and warehouses of one scheme;
* `collectDetailedStockPages`: the whole collection.
-/

namespace AdsControl.Reporting

open Fallible Interaction Machine Ozon Std

/-- The most pages of a walk. -/
def maxProductPages : ℕ := 100

/-- The rows of a page. -/
def productPageRows : ℕ := 100

/-- The most rows of a collection. -/
def maxStockRows : ℕ := 25000

/-! ## Fields -/

namespace OzonAdapter

/-- A field of an object. -/
def field (object : List (String × Document)) (name : String) : Except OzonReportParseError Document :=
  context (object.lookup name) .shape

/-- The entries of an array. -/
def arrayFieldValue (value : Option Document) : Except OzonReportParseError (List Document) :=
  context (value.bind Document.asArray) .shape

/-- The entries of a field that is an array. -/
def arrayField (value : Document) (name : String) : Except OzonReportParseError (List Document) :=
  arrayFieldValue (value.get name)

/-- The difference, `none` below zero. -/
def checkedSub (a b : ℕ) : Option ℕ := if b ≤ a then some (a - b) else none

/-- A natural number, or the text of one. -/
def parseU64 : Document → Except OzonReportParseError ℕ
  | .number text => context (DigitText.parseUnsigned 64 text.toList) .value
  | .string text => context (DigitText.parseUnsigned 64 text.toList) .value
  | _ => .error .value

/-- An id that a column of 64 bits holds. -/
def positiveId (value : Document) : Except OzonReportParseError ℕ := do
  let id ← OzonAdapter.parseU64 value
  ensure (id ≠ 0 ∧ id < 2 ^ 63) .value
  return id

/-- A cursor that is empty, too long or has control characters. -/
def invalidCursor (cursor : String) : Bool :=
  cursor == "" || maxCursorBytes < cursor.utf8ByteSize || cursor.toList.any isAsciiControl

end OzonAdapter

open OzonAdapter

/-! ## Pages -/

/-- Who keeps the stock. -/
inductive StockScheme
  | fbo
  | fbs
  | rfbs
  deriving DecidableEq

namespace StockScheme

/-- A scheme as requests name it. -/
def asStr : StockScheme → String
  | fbo => "fbo"
  | fbs => "fbs"
  | rfbs => "rfbs"

/-- The warehouse identifier of a total. -/
def dimension (scheme : StockScheme) : String := "sku-fulfillment-v2:" ++ scheme.asStr

/-- The identifier of a warehouse. -/
def warehouseId (scheme : StockScheme) (id : ℤ) : String := scheme.asStr ++ ":" ++ toString id

end StockScheme

/-- The dimension of a scheme's stock. -/
def stockDimension (value : Document) : Except OzonReportParseError String :=
  match value.asString with
  | some "fbo" | some "FBO" => .ok StockScheme.fbo.dimension
  | some "fbs" | some "FBS" => .ok StockScheme.fbs.dimension
  | some "rfbs" | some "RFBS" => .ok StockScheme.rfbs.dimension
  | _ => .error .value

/-- Sellable, present and reserved units of each product in each dimension. -/
abbrev CatalogUnits : Type := ExtTreeMap (ℕ ×ₗ String) (ℕ × ℕ × ℕ)

/-- Add the units of one scheme. -/
def addCatalogStock (facts : CatalogUnits) (stock : Document) : Except OzonReportParseError CatalogUnits := do
  let stock ← context stock.asObject .shape
  let warehouseId ← stockDimension (← field stock "type")
  let sku ← positiveId (← field stock "sku")
  let present ← OzonAdapter.parseU64 (← field stock "present")
  let reserved ← OzonAdapter.parseU64 (← field stock "reserved")
  ensure (present < 2 ^ 31) .value
  let sellableUnits ← context ((checkedSub present reserved).filter (· < 2 ^ 31)) .value
  ensure (facts[toLex (sku, warehouseId)]? = none) .value
  return facts.insert (toLex (sku, warehouseId)) (sellableUnits, present, reserved)

/-- Add the units of one product; it may occur once. -/
def addCatalogItem (progress : CatalogUnits × Finset ℕ) (item : Document) :
    Except OzonReportParseError (CatalogUnits × Finset ℕ) := do
  let item ← context item.asObject .shape
  let productId ← positiveId (← field item "product_id")
  ensure (productId ∉ progress.2) .value
  let stocks ← arrayFieldValue (item.lookup "stocks")
  ensure (stocks.length ≤ productPageRows) .tooManyRows
  let facts ← stocks.foldlM addCatalogStock progress.1
  return (facts, insert productId progress.2)

/-- The units of a product and scheme as a fact. -/
def catalogFact (entry : (ℕ ×ₗ String) × ℕ × ℕ × ℕ) : CollectedStockFact where
  sku := (ofLex entry.1).1
  warehouseId := (ofLex entry.1).2
  sellableUnits := entry.2.1
  presentUnits := some entry.2.2.1
  reservedUnits := some entry.2.2.2

/-- The facts of a page of the catalog. -/
def parseOzonStockPage (response : Document) : Except OzonReportParseError (List CollectedStockFact) := do
  let items ← arrayField response "items"
  ensure (items.length ≤ productPageRows) .tooManyRows
  let progress ← items.foldlM addCatalogItem (∅, ∅)
  return progress.1.toList.map catalogFact

/-- The units that can be sold: as they are reported, or what is not reserved. -/
def warehouseUnits (scheme : StockScheme) (product : List (String × Document)) (present : ℕ)
    (reserved : Option ℕ) : Except OzonReportParseError ℕ :=
  if scheme = .fbs then do
    let freeStock ← field product "free_stock"
    OzonAdapter.parseU64 freeStock
  else do
    let reserved ← context reserved .shape
    context (checkedSub present reserved) .value

/-- The fact of a row of a warehouse. -/
def readWarehouseProduct (scheme : StockScheme) (product : Document) :
    Except OzonReportParseError CollectedStockFact := do
  let product ← context product.asObject .shape
  let presentUnits ← OzonAdapter.parseU64 (← field product "present")
  let reserved := (product.lookup "reserved").filter fun value => !value.isNull
  let reservedUnits ← reserved.mapM OzonAdapter.parseU64
  ensure (presentUnits < 2 ^ 31 ∧ reservedUnits.all (· ≤ presentUnits)) .value
  let sellableUnits ← warehouseUnits scheme product presentUnits reservedUnits
  let warehouse ← field product "warehouse_id"
  let id ← context (warehouse.asI64 <|> warehouse.asString.bind fun text =>
    DigitText.parseSigned 64 text.toList) .value
  ensure (id ≠ 0) .value
  let sku ← OzonAdapter.parseU64 (← field product "sku")
  return ⟨sku, scheme.warehouseId id, sellableUnits, some presentUnits, reservedUnits⟩

/-- The facts of a page of warehouses; none is repeated. -/
def parseWarehouseStockPage (response : Document) (scheme : StockScheme) :
    Except OzonReportParseError (List CollectedStockFact) := do
  ensure (scheme ≠ .rfbs) .value
  let products ← arrayField response "products"
  ensure (products.length ≤ productPageRows) .tooManyRows
  products.mapM (readWarehouseProduct scheme)

/-- The cursor of the next page, if there is one. -/
def nextWarehouseStockCursor (response : Document) : Except OzonReportParseError (Option String) := do
  let object ← context response.asObject .shape
  let hasNext ← context (← field object "has_next").asBool .shape
  let cursor ← context (← field object "cursor").asString .shape
  if hasNext then
    ensure (!invalidCursor cursor) .value
    return some cursor
  else
    ensure (cursor.utf8ByteSize ≤ maxCursorBytes ∧ !cursor.toList.any isAsciiControl) .value
    return none

/-! ## Walks -/

/-- The requests of a collection of stock. -/
inductive OzonStockRequest
  | catalog (cursor : Option String)
  | warehouse (scheme : StockScheme) (ids : List ℕ) (cursor : Option String)
  deriving DecidableEq

/-- The cursor of the next page; an empty one ends the walk. -/
def nextProductCursor (response : Document) (invalid : OzonReportSourceError) :
    Except OzonReportSourceError (Option String) := do
  let cursor ← context ((response.get "cursor").bind Document.asString) invalid
  if cursor = "" then return none
  else
    ensure (!invalidCursor cursor) .invalidResponse
    return some cursor

section Products

variable {R Fact : Type} (request : Option String → R)
  (parse : Document → Except OzonReportParseError (List Fact)) (invalid : OzonReportSourceError)

/-- One page of the catalog. -/
def collectProductPage (facts : List Fact) (cursor : Option String) :
    OzonProg R (List Fact × Option String) := do
  .ofExcept (ensure (cursor.all fun cursor => !invalidCursor cursor) .invalidResponse)
  let response ← post (request cursor)
  let rows ← .ofExcept ((parse response).mapError fun _ => invalid)
  let next ← .ofExcept (nextProductCursor response invalid)
  return (facts ++ rows, next)

/-- All pages of a list of products. -/
def collectProductPages : OzonProg R (List Fact) :=
  Interaction.walk (collectProductPage request parse invalid) invalid .paginationLimit maxProductPages [] []
    none

end Products

/-- The errors of a source that is not offered. -/
def OzonReportSourceError.isUnsupported : OzonReportSourceError → Bool
  | .upstream .http | .upstream .notFound => true
  | _ => false

/-- A page of warehouses, or none from a source that is not offered. -/
def fetchWarehousePage (scheme : StockScheme) (ids : List ℕ) (cursor : Option String) :
    OzonProg OzonStockRequest (Option (List CollectedStockFact × Option String)) := do
  let answer : OzonAnswer ← Prog.perform (.warehouse scheme ids cursor)
  match answer with
  | .error e => if e.isUnsupported then return none else .fail e
  | .ok response => do
    let rows ← .ofExcept ((parseWarehouseStockPage response scheme).mapError fun _ =>
      OzonReportSourceError.invalidStocksResponse)
    .ofExcept (ensure (∀ row ∈ rows, row.sku ∈ ids) .invalidStocksResponse)
    let next ← .ofExcept ((nextWarehouseStockCursor response).mapError fun _ =>
      OzonReportSourceError.invalidStocksResponse)
    return some (rows, next)

/-- One page of the warehouses of a scheme. -/
def collectFilteredWarehousePage (scheme : StockScheme) (ids : List ℕ) (facts : List CollectedStockFact)
    (cursor : Option String) :
    OzonProg OzonStockRequest (List CollectedStockFact × Option String) := do
  .ofExcept (ensure (cursor.all fun cursor => !invalidCursor cursor) .invalidResponse)
  let page ← fetchWarehousePage scheme ids cursor
  let (rows, next) ← .ofExcept (context page (.upstream .notFound))
  .ofExcept (ensure ((facts ++ rows).length ≤ maxStockRows) .paginationLimit)
  return (facts ++ rows, next)

/-- All warehouses of a chunk of products. -/
def collectFilteredWarehousePages (scheme : StockScheme) (ids : List ℕ) :
    OzonProg OzonStockRequest (List CollectedStockFact) :=
  Interaction.walk (collectFilteredWarehousePage scheme ids) .invalidStocksResponse .paginationLimit
    maxProductPages [] [] none

/-- The warehouses of all chunks, none if the source is not offered for one of them. -/
def collectWarehouses (scheme : StockScheme) :
    List (List ℕ) → List CollectedStockFact → OzonProg OzonStockRequest (Option (List CollectedStockFact))
  | [], warehouse => return some warehouse
  | ids :: chunks, warehouse => do
    let result : Except OzonReportSourceError (List CollectedStockFact) ←
      (collectFilteredWarehousePages scheme ids).attempt
    match result with
    | .ok rows => collectWarehouses scheme chunks (warehouse ++ rows)
    | .error e => if e.isUnsupported then return none else .fail e

/-! ## The collection -/

/-- The products whose total has a reserve that one of their warehouses lacks. -/
def preserveTotals (selected warehouse : List CollectedStockFact) : List ℕ :=
  ((selected.filter fun row => row.reservedUnits.isSome).filter fun row =>
    warehouse.any fun w => w.sku == row.sku && w.reservedUnits.isNone).map CollectedStockFact.sku

/-- The warehouses that take the place of totals. -/
def retainedWarehouses (selected warehouse : List CollectedStockFact) : List CollectedStockFact :=
  warehouse.filter fun row => row.sku ∉ preserveTotals selected warehouse

/-- The facts of a scheme. -/
def schemeFacts (selected : List CollectedStockFact) :
    Option (List CollectedStockFact) → List CollectedStockFact
  | none => selected
  | some warehouse =>
    let retained := retainedWarehouses selected warehouse
    selected.filter (fun row => row.sku ∉ retained.map CollectedStockFact.sku) ++ retained

/-- The rows of the catalog in one scheme. -/
def selectScheme (catalog : List CollectedStockFact) (scheme : StockScheme) : List CollectedStockFact :=
  catalog.filter fun row => row.warehouseId = scheme.dimension

/-- The stock of a scheme by warehouse, checked against the catalog. -/
def collectStockScheme (catalog : List CollectedStockFact) (scheme : StockScheme) :
    OzonProg OzonStockRequest (List CollectedStockFact) := do
  let selected := selectScheme catalog scheme
  let warehouse ← collectWarehouses scheme (chunks 100 (selected.map CollectedStockFact.sku)) []
  return schemeFacts selected warehouse

/-- What a row is identified by. -/
def CollectedStockFact.key (row : CollectedStockFact) : ℕ × String := (row.sku, row.warehouseId)

/-- Not too many rows and no key twice. -/
def checkStockRows (rows : List CollectedStockFact) : Except OzonReportSourceError Unit :=
  ensure (rows.length ≤ maxStockRows ∧ (rows.map CollectedStockFact.key).Nodup) .invalidStocksResponse

/-- The stock of all products by warehouse where it is known. -/
def collectDetailedStockPages : OzonProg OzonStockRequest (List CollectedStockFact) := do
  let catalog ← collectProductPages OzonStockRequest.catalog parseOzonStockPage .invalidStocksResponse
  .ofExcept (checkStockRows catalog)
  let fbo ← collectStockScheme catalog .fbo
  let fbs ← collectStockScheme catalog .fbs
  let facts := fbo ++ fbs ++ selectScheme catalog .rfbs
  .ofExcept (checkStockRows facts)
  return facts

end AdsControl.Reporting
