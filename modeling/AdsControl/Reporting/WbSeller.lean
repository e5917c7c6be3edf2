import AdsControl.Reporting.WbStocks

/-!
# Collection of the seller's stocks by size

The amounts of every size in every warehouse of the seller. A page of cards that is too large is asked for
again with half its limit, and this decision is stored as a page; a full page of an older collection is
still accepted.

* `SellerRequest`, `sellerPages`: the requests and their pages;
* `WbSellerSource.collect`: the walk;
* `sellerCollection`: the walk as a collection.
-/

namespace AdsControl.Reporting

open Fallible Interaction Machine OrderedMap Serde Std

/-! ## Failures -/

/-- A failure by its code. -/
structure SourceFailure where
  code : String
  retryAfter : Option ℕ
  deriving DecidableEq

/-- A failure without a delay. -/
def SourceFailure.of (code : String) : SourceFailure := ⟨code, none⟩

/-- The code of a failed journal. -/
def CheckpointError.code : CheckpointError → String
  | deferred => "checkpoint_deferred"
  | unavailable => "checkpoint_unavailable"
  | invalid => "checkpoint_invalid"

/-! ## Responses -/

/-- The stock of a size in a warehouse of the seller; nothing where it was not reported. -/
structure CollectedSellerStockFact where
  sku : ℕ
  chrtId : ℕ
  warehouseId : ℕ
  deliveryType : ℕ
  sellableUnits : Option ℕ
  deriving DecidableEq

/-- Where a page of cards begins and how many it may hold. -/
structure CardCursor where
  limit : ℕ
  after : Option (ℕ × String)
  deriving DecidableEq

/-- The sizes asked for at once. -/
def batchSize : ℕ := 1000

/-- The most facts of a collection. -/
def maxAggregateFacts : ℕ := 25000

/-- The most pairs of a size and a warehouse. -/
def maxSizePairs : ℕ := maxIdentities * maxWarehouses

/-- At most one card a page, six halvings of the limit, and an empty last page. -/
def maxCardPages : ℕ := maxIdentities + 8

/-- The order of warehouses. -/
def Warehouse.le (a b : Warehouse) : Bool :=
  decide (a.id < b.id) || decide (a.id = b.id ∧ a.deliveryType ≤ b.deliveryType)

namespace WbStockAdapter

variable {V : Type} (adapter : WbStockAdapter V)

/-- The failure of a reply that cannot be read. -/
def sellerInvalidResponse : SourceFailure := .of "seller_invalid_response"

/-- The warehouses of a reply. -/
def parseSellerWarehouses (response : V) : Except SourceFailure (List Warehouse) := do
  let rows ← context (adapter.asArray response) sellerInvalidResponse
  ensure (rows.length ≤ maxWarehouses) (.of "seller_warehouse_limit")
  let warehouses ← rows.foldlM (fun warehouses row => do
    let id ← adapter.id sellerInvalidResponse (adapter.get row "id")
    let deliveryType ← adapter.id sellerInvalidResponse (adapter.get row "deliveryType")
    ensure (deliveryType < 2 ^ 31) sellerInvalidResponse
    addWarehouse sellerInvalidResponse warehouses ⟨id, deliveryType⟩) []
  return warehouses.mergeSort Warehouse.le

/-- The sizes of a page of cards; the total tells whether it is the last one. -/
def parseSellerCards (response : V) (limit : ℕ) : Except SourceFailure (CardPage CardCursor) := do
  let cards ← context ((adapter.get response "cards").bind adapter.asArray) sellerInvalidResponse
  let cursor := adapter.get response "cursor"
  let total ← context ((cursor.bind (adapter.get · "total")).bind adapter.asU64) sellerInvalidResponse
  ensure (cards.length ≤ limit ∧ total = cards.length) sellerInvalidResponse
  let products ← cards.mapM (adapter.parseProduct sellerInvalidResponse)
  if cards.length = limit then
    let nm ← adapter.id sellerInvalidResponse (cursor.bind (adapter.get · "nmID"))
    let cursor ← context cursor sellerInvalidResponse
    let updated ← adapter.updatedAt sellerInvalidResponse cursor
    return ⟨products, some ⟨limit, some (nm, updated)⟩⟩
  else return ⟨products, none⟩

/-- Add an amount that was asked for. -/
def addReturned (batch : List (ℕ × ℕ)) (returned : ExtTreeMap ℕ ℕ) (row : V) :
    Except SourceFailure (ExtTreeMap ℕ ℕ) := do
  let size ← adapter.id sellerInvalidResponse (adapter.get row "chrtId")
  let amount ← context (((adapter.get row "amount").bind adapter.asU64).filter (· < 2 ^ 31))
    sellerInvalidResponse
  ensure (size ∈ batch.map Prod.fst ∧ returned[size]? = none) sellerInvalidResponse
  return returned.insert size amount

/-- The amounts in the order of the batch; a size without an answer has none. -/
def parseStocks (response : V) (batch : List (ℕ × ℕ)) : Except SourceFailure (List (Option ℕ)) := do
  let rows ← context ((adapter.get response "stocks").bind adapter.asArray) sellerInvalidResponse
  let returned ← rows.foldlM (adapter.addReturned batch) ∅
  return batch.map fun entry => returned[entry.1]?

end WbStockAdapter

/-! ## Requests -/

/-- A cursor as it is sent and stored. -/
def cursorCodec : Codec CardCursor where
  encode cursor := .obj (("limit", Codec.nat.encode cursor.limit) :: match cursor.after with
    | none => []
    | some (nm, updated) => [("nmID", Codec.nat.encode nm), ("updatedAt", Codec.string.encode updated)])
  decode value := do
    let fields ← value.fields
    let limit ← Json.field Codec.nat fields "limit"
    match fields.lookup "nmID" with
    | none => return ⟨limit, none⟩
    | some nm => do
      let nm ← Codec.nat.decode nm
      let updated ← Json.field Codec.string fields "updatedAt"
      return ⟨limit, some (nm, updated)⟩
  decode_encode cursor := by
    obtain ⟨limit, _ | ⟨nm, updated⟩⟩ := cursor <;> simp [Json.field_other, List.lookup]

theorem cursor_ne_null (cursor : CardCursor) : cursorCodec.encode cursor ≠ .null := fun h => (nomatch h)

/-- The requests of a collection of the seller's stock. -/
inductive SellerRequest
  | warehouses
  | cards (cursor : CardCursor)
  | stocks (warehouse : Warehouse) (batch : List (ℕ × ℕ))

namespace SellerRequest

/-- What each request returns. -/
def Page : SellerRequest → Type
  | warehouses => List Warehouse
  | cards _ => CardPage CardCursor
  | stocks _ _ => List (Option ℕ)

/-- A batch as it is stored. -/
def batchCodec : Codec (List (ℕ × ℕ)) := (Codec.nat.pair Codec.nat).list

/-- What a stored page is found by. -/
def identity : SellerRequest → Json
  | warehouses => .arr [.str "wb_seller_warehouses_v2"]
  | cards cursor => .arr [.str "wb_seller_cards_v2", cursorCodec.encode cursor]
  | stocks warehouse batch => .arr [.str "wb_seller_stock_amounts_v2", warehouseCodec.encode warehouse,
      batchCodec.encode batch]

/-- Full pages of the older collection are compatible; smaller ones were never written there. -/
def legacy : SellerRequest → Option Json
  | cards cursor =>
    if cursor.limit = cardLimit then some (.arr [.str "wb_seller_cards_v1", cursorCodec.encode cursor]) else none
  | _ => none

/-- The quota of each request. -/
def quota : SellerRequest → PageQuota
  | warehouses => .wbSellerInventory
  | cards _ => .wbStockContent
  | stocks _ _ => .wbSellerInventory

/-- How each page is stored. -/
def codec : (r : SellerRequest) → Codec r.Page
  | warehouses => warehouseCodec.list
  | cards _ => cardPageCodec "items" (by decide) (cursorCodec.option cursor_ne_null)
  | stocks _ _ => (Codec.nat.option nat_ne_null).list

/-- A response as a page. A response that was too large is a page without cards, and the next one has
half the limit. -/
def normalize {V : Type} (adapter : WbStockAdapter V) :
    (r : SellerRequest) → Except SourceFailure V → Except SourceFailure r.Page
  | warehouses, answer => do adapter.parseSellerWarehouses (← answer)
  | cards cursor, .ok response => adapter.parseSellerCards response cursor.limit
  | cards cursor, .error error =>
    if error.code = "response_too_large" ∧ 1 < cursor.limit then
      .ok ⟨[], some { cursor with limit := cursor.limit / 2 }⟩
    else .error error
  | stocks _ batch, answer => do adapter.parseStocks (← answer) batch

theorem identity_eq_iff {r r' : SellerRequest} : identity r = identity r' ↔ r = r' := by
  have hcursor := cursorCodec.encode_injective
  have hwarehouse := warehouseCodec.encode_injective
  have hbatch := batchCodec.encode_injective
  cases r <;> cases r' <;> simp [identity, hcursor.eq_iff, hwarehouse.eq_iff, hbatch.eq_iff]

theorem legacy_ne (r r' : SellerRequest) : legacy r ≠ some (identity r') := by
  cases r <;> cases r' <;> simp [legacy, identity]

end SellerRequest

/-- The pages of a collection of the seller's stock. -/
def sellerPages {V : Type} (adapter : WbStockAdapter V) :
    Pages SellerRequest V SourceFailure SellerRequest.Page where
  identity := SellerRequest.identity
  legacy := SellerRequest.legacy
  quota := SellerRequest.quota
  normalize := SellerRequest.normalize adapter
  codec := SellerRequest.codec
  failed error := .of error.code

/-- A collection of the seller's stock. -/
abbrev SellerProg (α : Type) : Type := Prog SellerRequest SellerRequest.Page SourceFailure α

/-- Ask for one page. -/
def SellerRequest.ask (r : SellerRequest) : SellerProg r.Page := .perform r

/-! ## The walk -/

namespace WbSellerSource

open WbStockAdapter

/-- One page of cards. -/
def cardPage (cursor : CardCursor) : SellerProg (CardPage CardCursor) := do
  .ofExcept (ensure (1 ≤ cursor.limit ∧ cursor.limit ≤ cardLimit) sellerInvalidResponse)
  SellerRequest.ask (.cards cursor)

/-- Add one page of cards. A card or a size is seen once. -/
def extendCatalogue (catalog : SizeCatalog) (page : List (ℕ × List ℕ)) : Except SourceFailure SizeCatalog := do
  let catalog ← page.foldlM (fun catalog product => do
    ensure (product.1 ∉ catalog.products) (.of "seller_catalogue_duplicate")
    let sizes ← product.2.foldlM (fun sizes id => do
      ensure (sizes[id]? = none) (.of "seller_catalogue_duplicate")
      return sizes.insert id product.1) catalog.sizes
    return ⟨insert product.1 catalog.products, sizes⟩) catalog
  ensure (catalog.sizes.size ≤ maxIdentities) (.of "seller_pair_limit")
  return catalog

/-- The walk over the cards. -/
def catalogueLoop (cursor : CardCursor) (cursors : List CardCursor) (catalog : SizeCatalog) :
    ℕ → SellerProg (ExtTreeMap ℕ ℕ)
  | 0 => .fail (.of "seller_catalogue_page_limit")
  | remaining + 1 => do
    let page ← cardPage cursor
    let catalog ← .ofExcept (extendCatalogue catalog page.products)
    match page.next with
    | none => return catalog.sizes
    | some next => do
      .ofExcept (ensure (next ∉ cursors) (.of "seller_cursor_repeated"))
      catalogueLoop next (next :: cursors) catalog remaining

/-- The products by their sizes. -/
def catalogue : SellerProg (ExtTreeMap ℕ ℕ) := catalogueLoop ⟨cardLimit, none⟩ [] ⟨∅, ∅⟩ maxCardPages

/-- The facts of one batch in one warehouse. -/
def batchFacts (warehouse : Warehouse) (batch : List (ℕ × ℕ)) (amounts : List (Option ℕ)) :
    List CollectedSellerStockFact :=
  (batch.zip amounts).map fun entry => {
    sku := entry.1.2
    chrtId := entry.1.1
    warehouseId := warehouse.id
    deliveryType := warehouse.deliveryType
    sellableUnits := entry.2 }

/-- The batches of one warehouse. -/
def batchLoop (warehouse : Warehouse) (facts : List CollectedSellerStockFact) :
    List (List (ℕ × ℕ)) → SellerProg (List CollectedSellerStockFact)
  | [] => return facts
  | batch :: rest => do
    let amounts : List (Option ℕ) ← SellerRequest.ask (.stocks warehouse batch)
    .ofExcept (ensure (amounts.length = batch.length) sellerInvalidResponse)
    batchLoop warehouse (facts ++ batchFacts warehouse batch amounts) rest

/-- The batches of every warehouse. -/
def sellerLoop (batches : List (List (ℕ × ℕ))) (facts : List CollectedSellerStockFact) :
    List Warehouse → SellerProg (List CollectedSellerStockFact)
  | [] => return facts
  | warehouse :: rest => do
    let facts ← batchLoop warehouse facts batches
    sellerLoop batches facts rest

/-- **The amounts of every size in every warehouse.** -/
def collect : SellerProg (List CollectedSellerStockFact) := do
  let warehouses : List Warehouse ← SellerRequest.ask .warehouses
  if warehouses = [] then return []
  else
    let catalog ← catalogue
    let products := catalog.values.toFinset.card
    .ofExcept (ensure (catalog.size * warehouses.length ≤ maxSizePairs ∧
      products * warehouses.length ≤ maxAggregateFacts) (.of "seller_pair_limit"))
    sellerLoop (chunks batchSize catalog.toList) [] warehouses

end WbSellerSource

/-- A walk over the seller's sizes as a collection. -/
def sellerCollection {V α : Type} (adapter : WbStockAdapter V) (collector : SellerProg α) : Collection V where
  Request := SellerRequest
  Error := SourceFailure
  Result := α
  Page := SellerRequest.Page
  pages := sellerPages adapter
  collector := collector
  determined _ := ⟨fun _ _ _ _ h => SellerRequest.identity_eq_iff.mp h, fun r _ r' _ => SellerRequest.legacy_ne r r'⟩

end AdsControl.Reporting
