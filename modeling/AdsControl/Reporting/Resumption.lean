import AdsControl.Reporting.WbFinance
import AdsControl.Reporting.WbSeller

/-!
# Resumed collections

Every walk over pages, tried again and again with one journal, ends as one run without a journal does.

* `WbCollector`: the walks;
* **`resumed_collection`**: attempts that stop anywhere, against a source with fixed answers.
-/

namespace AdsControl.Reporting

open Fallible Interaction Serde Std

/-- The walks over pages: sales, finance details, the stocks of the marketplace, the content and the stocks
of the seller in both versions. -/
inductive WbCollector
  | sales (date : ℤ)
  | finance (dateFrom dateTo : ℤ)
  | stocks
  | sizeCatalog
  | sellerStocks
  | completeStocks
  | catalogue
  | sellerAmounts

/-- How the responses are read. -/
structure WbAdapters (V : Type) where
  sales : WbSalesAdapter V
  finance : WbFinanceAdapter V
  stocks : WbStockAdapter V
  dates : DateText

/-- The collection of a collector. -/
def WbCollector.collection {V : Type} (adapters : WbAdapters V) : WbCollector → Collection V
  | sales date => salesCollection adapters.sales adapters.dates date
  | finance dateFrom dateTo => financeCollection adapters.finance adapters.dates dateFrom dateTo
  | stocks => stockCollection adapters.stocks collectStockPages
  | sizeCatalog => stockCollection adapters.stocks sellerSizeCatalog
  | sellerStocks => stockCollection adapters.stocks collectSellerStockPages
  | completeStocks => stockCollection adapters.stocks collectCompleteStockPages
  | catalogue => sellerCollection adapters.stocks WbSellerSource.catalogue
  | sellerAmounts => sellerCollection adapters.stocks WbSellerSource.collect

/-- **A resumed collection is an uninterrupted one**, wherever its attempts stopped. -/
theorem resumed_collection {V : Type} (adapters : WbAdapters V) (collector : WbCollector) (digest : Digest)
    (source : Json → Except (collector.collection adapters).Error V)
    (hfree : CollisionFree (collector.collection adapters).pages digest
      ((collector.collection adapters).requests source))
    (s : JournalWorld (collector.collection adapters).Request)
    (h : (collector.collection adapters).Attempted digest source s) :
    (collector.collection adapters).Resumable digest source s := Collection.resumed hfree h

/-! ## One day of finance details -/

/-- Replies that are lists of finance rows; other replies are not read. -/
def rowAdapters : WbAdapters (List WbFinanceDetailRow) where
  sales := ⟨fun _ => .error .shape, fun _ => .error .shape, fun _ _ => .error .shape⟩
  finance := ⟨fun reply => if reply.isEmpty then none else some (.ok (reply.map .ok))⟩
  stocks := ⟨⟨fun _ => false, fun _ _ => none, fun _ => none, fun _ => none, fun _ => none, fun _ => none⟩,
    fun _ _ => "", fun _ => false⟩
  dates := .naming firstSupportedDate "2024-01-29" (by decide)

/-- A row with one amount. -/
def penaltyRow : WbFinanceDetailRow where
  rrdId := 7
  reportId := 1
  businessDate := firstSupportedDate
  sku := none
  currency := "RUB"
  documentType := none
  operationType := none
  quantity := none
  amounts := (∅ : ExtTreeMap String WbFinanceDecimal).insert "penalty" ⟨⟨100, by decide⟩, 2⟩

/-- The cursor of a request for finance details. -/
def cursorDigest : Digest
  | .arr [_, .arr [_, _, _, _, _, .num cursor, _]] => cursor.repr
  | _ => ""

/-- A source with one row; the reply after it has no content. -/
def oneRowSource (identity : Json) : Except WbReportSourceError (List WbFinanceDetailRow) :=
  .ok (if cursorDigest (.arr [.num 1, identity]) = "0" then [penaltyRow] else [])

/-- The details of one day. -/
abbrev oneDay : Collection (List WbFinanceDetailRow) :=
  (WbCollector.finance 19751 19751).collection rowAdapters

theorem oneDay_requests :
    oneDay.requests oneRowSource = ([⟨19751, 19751, 0⟩, ⟨19751, 19751, 7⟩] : List FinanceRequest) := rfl

theorem oneDay_collisionFree : CollisionFree oneDay.pages cursorDigest (oneDay.requests oneRowSource) := by
  have hkeys : ∀ r ∈ ([⟨19751, 19751, 0⟩, ⟨19751, 19751, 7⟩] : List FinanceRequest),
      ∀ r' ∈ ([⟨19751, 19751, 0⟩, ⟨19751, 19751, 7⟩] : List FinanceRequest),
      checkpointKey cursorDigest (oneDay.pages.identity r) =
        checkpointKey cursorDigest (oneDay.pages.identity r') → r = r' := by decide +kernel
  intro r hr i hi r' hr' hkey
  rw [oneDay_requests] at hr hr'
  obtain rfl : i = oneDay.pages.identity r := List.mem_singleton.mp hi
  rw [hkeys r hr r' hr' hkey]

/-- The state after an attempt that stopped when its first page was stored. -/
def firstPageStored : JournalWorld FinanceRequest :=
  ((JournalWorld.empty.begin.record (.fetched ⟨19751, 19751, 0⟩)).put "0"
    ((oneDay.pages.codec (⟨19751, 19751, 0⟩ : FinanceRequest)).encode
      (some [penaltyRow] : FinancePage ⟨19751, 19751, 0⟩))).record (.saved "0")

theorem attempted_firstPageStored : oneDay.Attempted cursorDigest oneRowSource firstPageStored := by
  refine .single ⟨none, ?_⟩
  exact .call (.inl ⟨rfl, rfl⟩) (.call (.inl ⟨rfl, rfl⟩) (.call (.inl ⟨rfl, rfl⟩)
    (.call (.inl ⟨rfl, rfl⟩) .stop)))

theorem resumed_collection_one_day : oneDay.Attempted cursorDigest oneRowSource firstPageStored ∧
    oneDay.Resumable cursorDigest oneRowSource firstPageStored :=
  ⟨attempted_firstPageStored, resumed_collection rowAdapters (.finance 19751 19751) cursorDigest oneRowSource
    oneDay_collisionFree firstPageStored attempted_firstPageStored⟩

end AdsControl.Reporting
