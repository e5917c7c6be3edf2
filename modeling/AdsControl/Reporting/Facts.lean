import AdsControl.Lib.Document
import AdsControl.Ozon.PostingSales
import AdsControl.Reporting.SalesPages
import AdsControl.Reporting.WbSeller

/-!
# Collected facts

What the sources are collected into, one type for each kind of fact.

* `CollectedFacts`: the facts of a snapshot, all of one kind.
-/

namespace AdsControl.Reporting

open Ozon

/-- `sku = 0` is what a campaign does not attribute to a product. -/
structure CollectedAdvertisingFact where
  businessDate : ℤ
  campaignId : ℕ
  sku : ℕ
  impressions : ℕ
  clicks : ℕ
  spendMinor : ℕ
  attributedOrders : ℕ
  attributedRevenueMinor : ℕ
  basketAdditions : ℕ
  modelAttributedOrders : ℕ
  modelAttributedRevenueMinor : ℕ
  productPriceMinor : ℕ
  averageCpcMinor : Option ℕ
  cpmMinor : Option ℕ
  cplMinor : Option ℕ
  deriving DecidableEq

/-- The categories of accruals. -/
inductive FinanceCategory
  | sale
  | commission
  | acquiring
  | logistics
  | storage
  | paidAcceptance
  | compensation
  | marketplaceDiscount
  | advertising
  | other
  deriving DecidableEq

/-- A category as its column has it. -/
def FinanceCategory.asStr : FinanceCategory → String
  | sale => "sale"
  | commission => "commission"
  | acquiring => "acquiring"
  | logistics => "logistics"
  | storage => "storage"
  | paidAcceptance => "paid_acceptance"
  | compensation => "compensation"
  | marketplaceDiscount => "marketplace_discount"
  | advertising => "advertising"
  | other => "other"

/-- Credits are positive, deductions are negative; `sku` is `none` for the account as a whole. -/
structure CollectedFinanceFact where
  businessDate : ℤ
  sku : Option ℕ
  category : FinanceCategory
  amountMinor : ℤ
  lineCount : ℕ
  unknownTypeCount : ℕ
  deriving DecidableEq

/-- The price of a product. -/
structure CollectedPriceFact where
  sku : ℕ
  priceMinor : ℕ
  oldPriceMinor : Option ℕ
  deriving DecidableEq

/-- The stock of a product in a cluster. -/
structure CollectedClusterStockFact where
  sku : ℕ
  warehouseId : Option ℤ
  clusterId : Option ℕ
  macrolocalClusterId : Option ℕ
  data : Document

/-- Facts of one kind. -/
inductive CollectedFacts
  | sales (facts : List CollectedSalesFact)
  | advertising (facts : List CollectedAdvertisingFact)
  | finance (facts : List CollectedFinanceFact)
  | stocks (facts : List CollectedStockFact)
  | sellerStocks (facts : List CollectedSellerStockFact)
  | clusterStocks (facts : List CollectedClusterStockFact)
  | postingMovement (rows : List PostingSalesRow)
  | prices (facts : List CollectedPriceFact)

end AdsControl.Reporting
