import AdsControl.Calendar
import AdsControl.Text
import AdsControl.Lib.Fallible
import AdsControl.Lib.Machine

/-!
# Evidence and policy of the shadow optimizer

The offline optimizer reads one bundle of advertising evidence and recommends daily budgets; nothing
here writes to a marketplace. Amounts are `u64` kopecks, instants and dates as in `Calendar`.

* `ShadowInput`, `OptimizerPolicy`, `ProductEvidence` and the recommendation types;
* `validate`: the contract every evaluated input meets.
-/

namespace AdsControl.Optimizer

open Fallible

/-- Why an input is refused. -/
inductive OptimizerError
  | limitExceeded
  | invalidInput
  | duplicateEvidence
  | overflow
  deriving DecidableEq

/-- The most products of an input. -/
def maxProducts : ℕ := 1000

/-- The longest window in days. -/
def maxWindowDays : ℤ := 90

/-! ## Evidence -/

/-- What is optimized. -/
inductive OptimizationObjective
  | expectedEconomics
  | targetAdvertisingDrr (maxDrrBps : ℕ)
  deriving DecidableEq

/-- The bounds of a recommendation. -/
structure OptimizerPolicy where
  totalDailyBudgetMinor : ℕ
  attributionLagDays : ℕ
  minMatureDays : ℕ
  minClicks : ℕ
  minOrders : ℕ
  maxDataAgeHours : ℕ
  maxWindowEndAgeDays : ℕ
  maxStockAgeHours : ℕ
  safetyDiscountBps : ℕ
  maxBudgetIncreaseBps : ℕ
  budgetDecreaseBps : ℕ
  zeroOrderSpendAllowances : ℕ
  deriving DecidableEq

/-- Whether the budget held the product back. -/
structure BudgetConstraintEvidence where
  limited : Bool
  observedAt : ℤ
  deriving DecidableEq

/-- One date, summed across all CPC campaigns of a SKU. -/
structure AdvertisingDay where
  date : ℤ
  observedAt : Option ℤ
  clicks : ℕ
  spendMinor : ℕ
  directOrders : ℕ
  directRevenueMinor : ℕ
  deriving DecidableEq

/-- The stock of a product. -/
structure StockEvidence where
  sellableUnits : ℕ
  observedAt : ℤ
  deriving DecidableEq

/-- What an order brings and costs. -/
structure OrderEconomics where
  sourceRef : String
  validFrom : ℤ
  validTo : ℤ
  reviewedAt : ℤ
  expectedRevenueMinor : ℕ
  expectedCostOfGoodsMinor : ℕ
  expectedOtherCostsMinor : ℕ
  returnReserveMinor : ℕ
  targetProfitMinor : ℕ
  deriving DecidableEq

/-- What is known of a product. -/
structure ProductEvidence where
  sku : ℕ
  currentDailyBudgetMinor : ℕ
  maxDailyBudgetMinor : ℕ
  budgetConstraint : Option BudgetConstraintEvidence
  daily : List AdvertisingDay
  stock : Option StockEvidence
  economics : Option OrderEconomics
  deriving DecidableEq

/-- The products of a window. -/
structure ShadowInput where
  version : ℕ
  sourceRefs : List String
  accountId : String
  asOf : ℤ
  observedAt : ℤ
  windowStart : ℤ
  windowEnd : ℤ
  coverageComplete : Bool
  objective : OptimizationObjective
  policy : OptimizerPolicy
  products : List ProductEvidence
  deriving DecidableEq

/-! ## Recommendations -/

/-- What is recommended. -/
inductive RecommendationAction
  | hold
  | reviewReduction
  | reviewPause
  | testBudgetIncrease
  deriving DecidableEq

/-- Why it is recommended. -/
inductive RecommendationReason
  | incompleteCoverage
  | inconsistentAdvertisingEvidence
  | missingBudgetConstraintEvidence
  | staleBudgetConstraintEvidence
  | budgetNotLimited
  | missingDates
  | staleAdvertising
  | stalePerformanceWindow
  | missingEconomics
  | economicsOutsidePeriod
  | missingStock
  | staleStock
  | outOfStock
  | noAdvertisingAllowance
  | insufficientMatureDays
  | insufficientClicks
  | insufficientOrders
  | matureSpendWithoutOrders
  | cpcAboveEconomicCeiling
  | withinEconomicCeiling
  | noMatureOrdersForDrrAllowance
  | cpcAboveAdvertisingDrrCeiling
  | withinAdvertisingDrrCeiling
  | noCurrentBudget
  | productBudgetCap
  | portfolioBudgetCap
  deriving DecidableEq

/-- What the ceiling of a click rests on. -/
inductive CpcCeilingBasis
  | expectedEconomics
  | targetAdvertisingDrr
  deriving DecidableEq

/-- The sums of a window. -/
structure EvidenceMetrics where
  allPeriodSpendMinor : ℕ := 0
  matureDays : ℕ := 0
  matureClicks : ℕ := 0
  matureOrders : ℕ := 0
  matureSpendMinor : ℕ := 0
  matureDirectRevenueMinor : ℕ := 0
  excludedRecentDays : ℕ := 0
  advertisingAllowancePerOrderMinor : Option ℕ := none
  averageCpcCeilingMinor : Option ℕ := none
  cpcCeilingBasis : Option CpcCeilingBasis := none
  economicAverageCpcCeilingMinor : Option ℕ := none
  deriving DecidableEq

/-- The recommendation for a product. -/
structure ProductRecommendation where
  sku : ℕ
  action : RecommendationAction
  reasons : List RecommendationReason
  currentDailyBudgetMinor : ℕ
  suggestedDailyBudgetMinor : ℕ
  metrics : EvidenceMetrics
  deriving DecidableEq

/-! ## Validation -/

/-- The UTC date of an instant. -/
def dateNaive (instant : ℤ) : ℤ := dateIn 0 instant

/-- The years 2000 to 2200 as day numbers. -/
def yearInRange (date : ℤ) : Bool := decide (10957 ≤ date ∧ date < 84371)

/-- A reference within its length and without control characters. -/
def validRef (value : String) : Bool :=
  !value.isEmpty && decide (value.utf8ByteSize ≤ 256) && !value.toList.any isControl

/-- The window and the sources; the days of the window. -/
def validateScope (input : ShadowInput) : Except OptimizerError ℤ := do
  let days := input.windowEnd - input.windowStart + 1
  ensure (input.version = 1 ∧ isAccountId input.accountId ∧ yearInRange (dateNaive input.asOf) ∧
    yearInRange input.windowStart ∧ 0 < days ∧ input.windowEnd < dateNaive input.observedAt ∧
    input.observedAt ≤ input.asOf ∧ input.sourceRefs ≠ [] ∧ input.sourceRefs.length ≤ 256 ∧
    input.sourceRefs.all validRef) .invalidInput
  return days

/-- The bounds of a policy. -/
def validatePolicy (policy : OptimizerPolicy) : Except OptimizerError Unit :=
  ensure (policy.totalDailyBudgetMinor ≠ 0 ∧
    (1 ≤ policy.attributionLagDays ∧ policy.attributionLagDays ≤ 60) ∧
    (1 ≤ policy.minMatureDays ∧ policy.minMatureDays ≤ 90) ∧
    policy.minClicks ≠ 0 ∧ policy.minOrders ≠ 0 ∧
    (1 ≤ policy.maxDataAgeHours ∧ policy.maxDataAgeHours ≤ 168) ∧
    (1 ≤ policy.maxWindowEndAgeDays ∧ policy.maxWindowEndAgeDays ≤ 90) ∧
    (1 ≤ policy.maxStockAgeHours ∧ policy.maxStockAgeHours ≤ 168) ∧
    policy.safetyDiscountBps < 10000 ∧ policy.maxBudgetIncreaseBps ≤ 10000 ∧
    (1 ≤ policy.budgetDecreaseBps ∧ policy.budgetDecreaseBps ≤ 10000) ∧
    (1 ≤ policy.zeroOrderSpendAllowances ∧ policy.zeroOrderSpendAllowances ≤ 100)) .invalidInput

/-- Dates inside the window, observed afterwards and not after the input, without repetition. -/
def validateDates (input : ShadowInput) : List AdvertisingDay → List ℤ → Except OptimizerError Unit
  | [], _ => .ok ()
  | day :: rest, dates => do
    let observedAt := day.observedAt.getD input.observedAt
    ensure (input.windowStart ≤ day.date ∧ day.date ≤ input.windowEnd ∧
      day.date < dateNaive observedAt ∧ observedAt ≤ input.observedAt) .invalidInput
    ensure (day.date ∉ dates) .duplicateEvidence
    validateDates input rest (day.date :: dates)

/-- The evidence of a product. -/
def validateProduct (input : ShadowInput) (product : ProductEvidence) :
    Except OptimizerError Unit := do
  ensure ((product.daily.length : ℤ) ≤ maxWindowDays) .limitExceeded
  validateDates input product.daily []
  ensure (product.budgetConstraint.all fun evidence => evidence.observedAt ≤ input.asOf)
    .invalidInput
  ensure (product.stock.all fun stock => stock.observedAt ≤ input.asOf) .invalidInput
  ensure (product.economics.all fun economics => validRef economics.sourceRef ∧
    economics.validFrom ≤ economics.validTo ∧ economics.reviewedAt ≤ input.asOf ∧
    economics.expectedRevenueMinor ≠ 0) .invalidInput

/-- The evidence of all products; none is repeated. -/
def validateProducts (input : ShadowInput) :
    List ProductEvidence → List ℕ → Except OptimizerError Unit
  | [], _ => .ok ()
  | product :: rest, skus => do
    ensure (0 < product.sku ∧ product.sku < 2 ^ 63) .invalidInput
    ensure (product.sku ∉ skus) .duplicateEvidence
    validateProduct input product
    validateProducts input rest (product.sku :: skus)

/-- A share that can be aimed at. -/
def validObjective : OptimizationObjective → Bool
  | .expectedEconomics => true
  | .targetAdvertisingDrr maxDrrBps => decide (1 ≤ maxDrrBps ∧ maxDrrBps ≤ 100000)

/-- Everything an input has to satisfy. -/
def validate (input : ShadowInput) : Except OptimizerError Unit := do
  ensure (validObjective input.objective) .invalidInput
  let days ← validateScope input
  validatePolicy input.policy
  ensure (input.products ≠ [] ∧ input.products.length ≤ maxProducts ∧ days ≤ maxWindowDays)
    .limitExceeded
  ensure input.sourceRefs.Nodup .duplicateEvidence
  validateProducts input input.products []

end AdsControl.Optimizer
