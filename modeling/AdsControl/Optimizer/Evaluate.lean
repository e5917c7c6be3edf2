import AdsControl.Optimizer.Model

/-!
# The recommendation for one product

`evaluate` gathers the reasons that block a performance judgement, judges mature performance against
the ceiling of the objective when nothing blocks it, and caps the suggested budget by the limit of
the product.

* `evidenceMetrics`: totals over the mature days;
* `economicAllowance`, `performanceCeiling`, `performance`: the judgement;
* `evaluate`, with **`suggests_of_evaluate`**: a suggested budget is a `u64` amount.
-/

namespace AdsControl.Optimizer

open Fallible Machine RecommendationReason

/-- Hours as a duration. -/
def hours (n : ℕ) : ℤ := seconds (n * 3600)

/-! ## Metrics -/

/-- A sum of 64 bits. -/
def addMinor (total value : ℕ) : Except OptimizerError ℕ := context (checkedAdd 64 total value) .overflow

/-- Add one day to the metrics. Days younger than the attribution lag count towards spend only. -/
def addDay (input : ShadowInput) (metrics : EvidenceMetrics) (day : AdvertisingDay) :
    Except OptimizerError EvidenceMetrics := do
  let matureThrough :=
    dateNaive (day.observedAt.getD input.observedAt) - (input.policy.attributionLagDays + 1)
  let allPeriodSpend ← addMinor metrics.allPeriodSpendMinor day.spendMinor
  if matureThrough < day.date then
    return { metrics with
      allPeriodSpendMinor := allPeriodSpend
      excludedRecentDays := metrics.excludedRecentDays + 1 }
  else
    let clicks ← addMinor metrics.matureClicks day.clicks
    let orders ← addMinor metrics.matureOrders day.directOrders
    let spend ← addMinor metrics.matureSpendMinor day.spendMinor
    let revenue ← addMinor metrics.matureDirectRevenueMinor day.directRevenueMinor
    return { metrics with
      allPeriodSpendMinor := allPeriodSpend
      matureDays := metrics.matureDays + 1
      matureClicks := clicks
      matureOrders := orders
      matureSpendMinor := spend
      matureDirectRevenueMinor := revenue }

/-- The metrics of all days. -/
def evidenceMetrics (input : ShadowInput) (product : ProductEvidence) :
    Except OptimizerError EvidenceMetrics :=
  product.daily.foldlM (addDay input) {}

/-! ## Building the recommendation -/

namespace ProductRecommendation

/-- Add a reason. -/
def push (row : ProductRecommendation) (reason : RecommendationReason) : ProductRecommendation :=
  { row with reasons := row.reasons ++ [reason] }

/-- Add a reason if it applies. -/
def pushIf (row : ProductRecommendation) (p : Prop) [Decidable p] (reason : RecommendationReason) :
    ProductRecommendation :=
  if p then row.push reason else row

/-- Recommend a pause for `reason`. -/
def pause (row : ProductRecommendation) (reason : RecommendationReason) : ProductRecommendation :=
  { row.push reason with action := .reviewPause, suggestedDailyBudgetMinor := 0 }

end ProductRecommendation

/-- `value * numerator / denominator` as a `u64`. -/
def scaled (value numerator denominator : ℕ) : Except OptimizerError ℕ := do
  ensure (denominator ≠ 0) .invalidInput
  context (tryFrom 64 (value * numerator / denominator)) .overflow

/-- Suggest a smaller budget. -/
def reduce (input : ShadowInput) (row : ProductRecommendation) :
    Except OptimizerError ProductRecommendation := do
  let suggested ← scaled row.currentDailyBudgetMinor (10000 - input.policy.budgetDecreaseBps) 10000
  return { row with suggestedDailyBudgetMinor := suggested, action := .reviewReduction }

/-! ## The judgement -/

/-- All costs of an order but its advertising. -/
def economicCosts (economics : OrderEconomics) : Except OptimizerError ℕ :=
  [economics.expectedCostOfGoodsMinor, economics.expectedOtherCostsMinor,
    economics.returnReserveMinor, economics.targetProfitMinor].foldlM addMinor 0

/-- What an order leaves for its advertising. -/
def economicAllowance (input : ShadowInput) (product : ProductEvidence)
    (row : ProductRecommendation) :
    Except OptimizerError (ProductRecommendation × Option ℕ) :=
  match product.economics with
  | none => .ok (row.push missingEconomics, none)
  | some economics =>
    if input.windowStart < economics.validFrom ∨ economics.validTo < dateNaive input.asOf then
      .ok (row.push economicsOutsidePeriod, none)
    else do
      let costs ← economicCosts economics
      let allowance := economics.expectedRevenueMinor - costs
      let row := { row with
        metrics := { row.metrics with advertisingAllowancePerOrderMinor := some allowance } }
      return (if allowance = 0 then row.pause noAdvertisingAllowance else row, some allowance)

/-- The allowance of the objective; target DRR derives its own from mature revenue. -/
def objectiveAllowance (input : ShadowInput) (product : ProductEvidence)
    (row : ProductRecommendation) :
    Except OptimizerError (ProductRecommendation × Option ℕ) :=
  match input.objective with
  | .expectedEconomics => economicAllowance input product row
  | .targetAdvertisingDrr _ => .ok (row, none)

/-- Whether spend is above the ceiling, with the reasons for either answer. -/
def performanceCeiling (input : ShadowInput) (row : ProductRecommendation)
    (allowance : Option ℕ) :
    Except OptimizerError
      (ProductRecommendation × Bool × RecommendationReason × RecommendationReason) :=
  let policy := input.policy
  match input.objective with
  | .expectedEconomics => do
    let allowance ← context allowance .invalidInput
    let total ← context (checkedMul 128 allowance row.metrics.matureOrders) .overflow
    let numerator ← context (checkedMul 128 total (10000 - policy.safetyDiscountBps)) .overflow
    let denominator := row.metrics.matureClicks * 10000
    let ceiling ← context (tryFrom 64 (numerator / denominator)) .overflow
    let metrics := { row.metrics with
      averageCpcCeilingMinor := some ceiling
      economicAverageCpcCeilingMinor := some ceiling
      cpcCeilingBasis := some .expectedEconomics }
    return ({ row with metrics := metrics },
      decide (ceiling * row.metrics.matureClicks < row.metrics.matureSpendMinor),
      cpcAboveEconomicCeiling, withinEconomicCeiling)
  | .targetAdvertisingDrr maxDrrBps => do
    let targetSpend ← context (checkedMul 128 row.metrics.matureDirectRevenueMinor maxDrrBps)
      .overflow
    let allowance ← context (tryFrom 64 (targetSpend / (row.metrics.matureOrders * 10000)))
      .overflow
    let numerator ← context (checkedMul 128 targetSpend (10000 - policy.safetyDiscountBps)) .overflow
    let denominator := row.metrics.matureClicks * 100000000
    let ceiling ← context (tryFrom 64 (numerator / denominator)) .overflow
    let metrics := { row.metrics with
      advertisingAllowancePerOrderMinor := some allowance
      averageCpcCeilingMinor := some ceiling
      cpcCeilingBasis := some .targetAdvertisingDrr }
    return ({ row with metrics := metrics },
      decide (numerator < row.metrics.matureSpendMinor * 100000000),
      cpcAboveAdvertisingDrrCeiling, withinAdvertisingDrrCeiling)

/-- Why the budget may not be raised, if so. -/
def budgetBlocker (input : ShadowInput) (product : ProductEvidence) : Option RecommendationReason :=
  match product.budgetConstraint with
  | none => some missingBudgetConstraintEvidence
  | some evidence =>
    if hours input.policy.maxDataAgeHours < input.asOf - evidence.observedAt then
      some staleBudgetConstraintEvidence
    else if evidence.limited = false then some budgetNotLimited
    else none

/-- Suggest a larger budget. -/
def increase (input : ShadowInput) (row : ProductRecommendation) :
    Except OptimizerError ProductRecommendation := do
  let increment ← scaled row.currentDailyBudgetMinor input.policy.maxBudgetIncreaseBps 10000
  let suggested ← context (checkedAdd 64 row.currentDailyBudgetMinor increment) .overflow
  let row := { row with suggestedDailyBudgetMinor := suggested }
  return if 0 < increment then { row with action := .testBudgetIncrease } else row

/-- Reduce above the ceiling, and raise within it where the budget allows. -/
def applyPerformanceAction (input : ShadowInput) (product : ProductEvidence)
    (row : ProductRecommendation) (aboveCeiling : Bool)
    (aboveReason withinReason : RecommendationReason) :
    Except OptimizerError ProductRecommendation :=
  if aboveCeiling then reduce input (row.push aboveReason)
  else if row.currentDailyBudgetMinor = 0 then .ok (row.push noCurrentBudget)
  else
    match budgetBlocker input product with
    | some reason => .ok ((row.push withinReason).push reason)
    | none => increase input (row.push withinReason)

/-- The suggestion by the advertising of the window. -/
def performance (input : ShadowInput) (product : ProductEvidence) (row : ProductRecommendation)
    (allowance : Option ℕ) : Except OptimizerError ProductRecommendation :=
  let m := row.metrics
  if (0 < m.matureClicks ∧ m.matureSpendMinor = 0) ∨
      (0 < m.matureOrders ∧ m.matureDirectRevenueMinor = 0) then
    .ok (row.push inconsistentAdvertisingEvidence)
  else if m.matureOrders = 0 ∧ input.objective ≠ .expectedEconomics then
    .ok (row.push noMatureOrdersForDrrAllowance)
  else if m.matureOrders = 0 ∧ (allowance.any fun value =>
      value * input.policy.zeroOrderSpendAllowances ≤ m.matureSpendMinor) then
    reduce input (row.push matureSpendWithoutOrders)
  else if m.matureOrders < input.policy.minOrders then .ok (row.push insufficientOrders)
  else do
    let (row, aboveCeiling, aboveReason, withinReason) ← performanceCeiling input row allowance
    applyPerformanceAction input product row aboveCeiling aboveReason withinReason

/-! ## Evaluation -/

/-- The suggestion by the stock. -/
def addStock (input : ShadowInput) (product : ProductEvidence) (row : ProductRecommendation) :
    ProductRecommendation :=
  match product.stock with
  | none => row.push missingStock
  | some stock =>
    if hours input.policy.maxStockAgeHours < input.asOf - stock.observedAt then row.push staleStock
    else if stock.sellableUnits = 0 then row.pause outOfStock
    else row

/-- The suggestion within the product's own cap. -/
def applyProductBudgetCap (product : ProductEvidence) (row : ProductRecommendation) :
    ProductRecommendation :=
  if product.maxDailyBudgetMinor < row.suggestedDailyBudgetMinor then
    { row with
      suggestedDailyBudgetMinor := product.maxDailyBudgetMinor
      reasons := row.reasons ++ [productBudgetCap]
      action :=
        if product.maxDailyBudgetMinor = 0 then .reviewPause
        else if product.maxDailyBudgetMinor < product.currentDailyBudgetMinor then .reviewReduction
        else if product.maxDailyBudgetMinor = product.currentDailyBudgetMinor then .hold
        else .testBudgetIncrease }
  else row

/-- Judge performance only when nothing blocks it. -/
def judge (input : ShadowInput) (product : ProductEvidence) (row : ProductRecommendation)
    (allowance : Option ℕ) : Except OptimizerError ProductRecommendation :=
  if row.reasons = [] then performance input product row allowance else .ok row

/-- The row of a product before its judgement. -/
def screened (input : ShadowInput) (product : ProductEvidence) (metrics : EvidenceMetrics) :
    ProductRecommendation :=
  let policy := input.policy
  let stale := fun observedAt : ℤ => hours policy.maxDataAgeHours < input.asOf - observedAt
  let row : ProductRecommendation :=
    ⟨product.sku, .hold, [], product.currentDailyBudgetMinor, product.currentDailyBudgetMinor,
      metrics⟩
  let row := row.pushIf (input.coverageComplete = false) incompleteCoverage
  let row := row.pushIf ((product.daily.length : ℤ) ≠ input.windowEnd - input.windowStart + 1)
    missingDates
  let row := row.pushIf (stale input.observedAt ∨
    ∃ day ∈ product.daily, stale (day.observedAt.getD input.observedAt)) staleAdvertising
  let row := row.pushIf (policy.maxWindowEndAgeDays < dateNaive input.asOf - input.windowEnd)
    stalePerformanceWindow
  addStock input product row

/-- The recommendation for a product. -/
def evaluate (input : ShadowInput) (product : ProductEvidence) :
    Except OptimizerError ProductRecommendation := do
  let metrics ← evidenceMetrics input product
  let (row, allowance) ← objectiveAllowance input product (screened input product metrics)
  let row := row.pushIf (row.metrics.matureDays < input.policy.minMatureDays) insufficientMatureDays
  let row := row.pushIf (row.metrics.matureClicks < input.policy.minClicks) insufficientClicks
  let row ← judge input product row allowance
  return applyProductBudgetCap product row

/-! ## The suggested amount -/

/-- The row is for a product with current budget `c` and suggests a `u64` amount. -/
structure Suggests (c : ℕ) (row : ProductRecommendation) : Prop where
  current : row.currentDailyBudgetMinor = c
  lt : row.suggestedDailyBudgetMinor < 2 ^ 64

section Suggests

variable {input : ShadowInput} {product : ProductEvidence} {c : ℕ} {row row' : ProductRecommendation}

theorem Suggests.push (h : Suggests c row) (reason : RecommendationReason) :
    Suggests c (row.push reason) :=
  ⟨h.current, h.lt⟩

theorem Suggests.pushIf (h : Suggests c row) (p : Prop) [Decidable p]
    (reason : RecommendationReason) : Suggests c (row.pushIf p reason) := by
  unfold ProductRecommendation.pushIf
  split_ifs
  · exact h.push reason
  · exact h

theorem Suggests.pause (h : Suggests c row) (reason : RecommendationReason) :
    Suggests c (row.pause reason) :=
  ⟨h.current, by norm_num [ProductRecommendation.pause]⟩

theorem Suggests.reduce (h : Suggests c row) (hr : reduce input row = .ok row') :
    Suggests c row' := by
  simp only [Optimizer.reduce, scaled, ok_of_bind, ensure_eq_ok, context_eq_ok, ok_of_pure,
    tryFrom_eq_some] at hr
  obtain ⟨suggested, ⟨-, -, rfl, hlt⟩, rfl⟩ := hr
  exact ⟨h.current, hlt⟩

theorem Suggests.increase (h : Suggests c row) (hr : increase input row = .ok row') :
    Suggests c row' := by
  simp only [Optimizer.increase, ok_of_bind, context_eq_ok, ok_of_pure, checkedAdd_eq_some] at hr
  obtain ⟨increment, -, suggested, ⟨-, hlt⟩, rfl⟩ := hr
  split_ifs
  · exact ⟨h.current, hlt⟩
  · exact ⟨h.current, hlt⟩

theorem Suggests.objectiveAllowance {allowance : Option ℕ} (h : Suggests c row)
    (hr : objectiveAllowance input product row = .ok (row', allowance)) : Suggests c row' := by
  unfold Optimizer.objectiveAllowance economicAllowance at hr
  split at hr
  · split at hr
    · cases hr
      exact h.push _
    · split at hr
      · cases hr
        exact h.push _
      · simp only [ok_of_bind, ok_of_pure, Prod.mk.injEq] at hr
        obtain ⟨costs, -, rfl, -⟩ := hr
        split_ifs
        · exact ⟨h.current, by norm_num [ProductRecommendation.pause]⟩
        · exact ⟨h.current, h.lt⟩
  · cases hr
    exact h

theorem performanceCeiling_row {allowance : Option ℕ} {above : Bool}
    {aboveReason withinReason : RecommendationReason} (h : Suggests c row)
    (hr : performanceCeiling input row allowance = .ok (row', above, aboveReason, withinReason)) :
    Suggests c row' := by
  unfold performanceCeiling at hr
  dsimp only at hr
  split at hr
  all_goals
    simp only [ok_of_bind, ok_of_pure, Prod.mk.injEq] at hr
  · obtain ⟨_, -, _, -, _, -, _, -, rfl, -⟩ := hr
    exact ⟨h.current, h.lt⟩
  · obtain ⟨_, -, _, -, _, -, _, -, rfl, -⟩ := hr
    exact ⟨h.current, h.lt⟩

theorem Suggests.performance {allowance : Option ℕ} (h : Suggests c row)
    (hr : performance input product row allowance = .ok row') : Suggests c row' := by
  unfold Optimizer.performance at hr
  dsimp only at hr
  split at hr
  · cases hr
    exact h.push _
  split at hr
  · cases hr
    exact h.push _
  split at hr
  · exact (h.push _).reduce hr
  split at hr
  · cases hr
    exact h.push _
  rw [ok_of_bind] at hr
  obtain ⟨⟨judged, above, aboveReason, withinReason⟩, hceil, hr⟩ := hr
  have hj := performanceCeiling_row h hceil
  dsimp only at hr
  unfold applyPerformanceAction at hr
  split at hr
  · exact (hj.push _).reduce hr
  split at hr
  · cases hr
    exact hj.push _
  split at hr
  · cases hr
    exact (hj.push _).push _
  · exact (hj.push _).increase hr

theorem Suggests.screened (metrics : EvidenceMetrics)
    (h : product.currentDailyBudgetMinor < 2 ^ 64) :
    Suggests product.currentDailyBudgetMinor (screened input product metrics) := by
  have hbase : Suggests product.currentDailyBudgetMinor ⟨product.sku, .hold, [],
      product.currentDailyBudgetMinor, product.currentDailyBudgetMinor, metrics⟩ := ⟨rfl, h⟩
  have hrow := (((hbase.pushIf (input.coverageComplete = false) incompleteCoverage).pushIf
    ((product.daily.length : ℤ) ≠ input.windowEnd - input.windowStart + 1) missingDates).pushIf
    (hours input.policy.maxDataAgeHours < input.asOf - input.observedAt ∨ ∃ day ∈ product.daily,
      hours input.policy.maxDataAgeHours < input.asOf - day.observedAt.getD input.observedAt)
    staleAdvertising).pushIf
    (input.policy.maxWindowEndAgeDays < dateNaive input.asOf - input.windowEnd)
    stalePerformanceWindow
  unfold Optimizer.screened addStock
  dsimp only
  split
  · exact hrow.push _
  split_ifs
  · exact hrow.push _
  · exact hrow.pause _
  · exact hrow

/-- **A suggested budget is a `u64` amount**, and the row keeps the current budget. -/
theorem suggests_of_evaluate (h : product.currentDailyBudgetMinor < 2 ^ 64)
    (hr : evaluate input product = .ok row) : Suggests product.currentDailyBudgetMinor row := by
  simp only [evaluate, ok_of_bind, ok_of_pure] at hr
  obtain ⟨metrics, -, ⟨screened', allowance⟩, hallow, judged, hjudge, rfl⟩ := hr
  have hrow := (((Suggests.screened metrics h).objectiveAllowance hallow).pushIf
    (screened'.metrics.matureDays < input.policy.minMatureDays) insufficientMatureDays).pushIf
    ((screened'.pushIf (screened'.metrics.matureDays < input.policy.minMatureDays)
      insufficientMatureDays).metrics.matureClicks < input.policy.minClicks) insufficientClicks
  have hjudged : Suggests product.currentDailyBudgetMinor judged := by
    unfold judge at hjudge
    split at hjudge
    · exact hrow.performance hjudge
    · cases hjudge
      exact hrow
  unfold applyProductBudgetCap
  split
  · rename_i hcap
    exact ⟨hjudged.current, hcap.trans hjudged.lt⟩
  · exact hjudged

end Suggests

end AdsControl.Optimizer
