import AdsControl.Optimizer.Evaluate

/-!
# The ceiling and the exact allowance

What the judgement of a product compares its mature spend with. Under target DRR the spend is
compared with the exact allowance; under expected economics the allowance is first rounded down to
whole kopecks per click, so a spend within the allowance may still be judged above the ceiling.

* `ReachesCeiling`: the row and the allowance `evaluate` takes to `performanceCeiling`;
* `exactAllowance`: the spend the objective allows, as a rational number;
* **`judgedAbove_iff`**: when an evaluated product is judged above its ceiling.
-/

namespace AdsControl.Optimizer

open Fallible Machine RecommendationReason

/-! ## Products that reach the ceiling -/

/-- The row of a product once its objective and its samples are checked, with the allowance. -/
def sampled (input : ShadowInput) (product : ProductEvidence) :
    Except OptimizerError (ProductRecommendation × Option ℕ) := do
  let metrics ← evidenceMetrics input product
  let (row, allowance) ← objectiveAllowance input product (screened input product metrics)
  let row := row.pushIf (row.metrics.matureDays < input.policy.minMatureDays) insufficientMatureDays
  let row := row.pushIf (row.metrics.matureClicks < input.policy.minClicks) insufficientClicks
  return (row, allowance)

/-- `evaluate` calls `performanceCeiling` on `row` and `allowance`: nothing blocks the judgement and
none of the early returns of `performance` is taken. -/
structure ReachesCeiling (input : ShadowInput) (product : ProductEvidence)
    (row : ProductRecommendation) (allowance : Option ℕ) : Prop where
  sampled : sampled input product = .ok (row, allowance)
  unblocked : row.reasons = []
  consistent : ¬ ((0 < row.metrics.matureClicks ∧ row.metrics.matureSpendMinor = 0) ∨
    (0 < row.metrics.matureOrders ∧ row.metrics.matureDirectRevenueMinor = 0))
  ordered : ¬ (row.metrics.matureOrders = 0 ∧ input.objective ≠ .expectedEconomics)
  unspent : ¬ (row.metrics.matureOrders = 0 ∧ (allowance.any fun value =>
    value * input.policy.zeroOrderSpendAllowances ≤ row.metrics.matureSpendMinor))
  enough : ¬ row.metrics.matureOrders < input.policy.minOrders

section Reaches

variable {input : ShadowInput} {product : ProductEvidence} {row : ProductRecommendation}
  {allowance : Option ℕ}

/-- A product that reaches the ceiling gets the action its ceiling justifies. -/
theorem evaluate_of_reaches (h : ReachesCeiling input product row allowance) :
    evaluate input product = (do
      let (judged, above, aboveReason, withinReason) ← performanceCeiling input row allowance
      let judged ← applyPerformanceAction input product judged above aboveReason withinReason
      return applyProductBudgetCap product judged) := by
  have hs := h.sampled
  simp only [sampled, ok_of_bind, ok_of_pure, Prod.mk.injEq] at hs
  obtain ⟨metrics, hmetrics, ⟨row', allowance'⟩, hallow, hrow, rfl⟩ := hs
  unfold evaluate
  rw [hmetrics]
  simp only [bind, Except.bind, hallow]
  rw [hrow, judge, if_pos h.unblocked, performance]
  dsimp only
  rw [if_neg h.consistent, if_neg h.ordered, if_neg h.unspent, if_neg h.enough]
  simp only [bind, Except.bind]
  cases performanceCeiling input row allowance' with
  | error e => rfl
  | ok judged => rfl

theorem pushIf_metrics (p : Prop) [Decidable p] (reason : RecommendationReason) :
    (row.pushIf p reason).metrics = row.metrics := by
  unfold ProductRecommendation.pushIf
  split_ifs <;> rfl

theorem pushIf_reasons_eq_nil {p : Prop} [Decidable p] {reason : RecommendationReason} :
    (row.pushIf p reason).reasons = [] ↔ ¬ p ∧ row.reasons = [] := by
  unfold ProductRecommendation.pushIf
  split_ifs with h
  · simp [h, ProductRecommendation.push]
  · simp [h]

theorem ReachesCeiling.minClicks_le (h : ReachesCeiling input product row allowance) :
    input.policy.minClicks ≤ row.metrics.matureClicks := by
  have hs := h.sampled
  simp only [Optimizer.sampled, ok_of_bind, ok_of_pure, Prod.mk.injEq] at hs
  obtain ⟨metrics, -, ⟨row', allowance'⟩, -, rfl, -⟩ := hs
  have hclicks := (pushIf_reasons_eq_nil.mp h.unblocked).1
  rw [pushIf_metrics]
  exact not_lt.mp hclicks

/-- A valid policy asks for a click, so the ceiling is a division by a positive number. -/
theorem ReachesCeiling.matureClicks_pos (h : ReachesCeiling input product row allowance)
    (hvalid : validatePolicy input.policy = .ok ()) : 0 < row.metrics.matureClicks := by
  rw [validatePolicy, ensure_eq_ok] at hvalid
  have := h.minClicks_le
  omega

end Reaches

/-! ## The exact allowance -/

/-- The mature spend the objective allows, before any rounding. -/
def exactAllowance (input : ShadowInput) (row : ProductRecommendation) (allowance : Option ℕ) : ℚ :=
  let discounted : ℚ := (10000 - input.policy.safetyDiscountBps) / 10000
  match input.objective with
  | .expectedEconomics => (allowance.getD 0 : ℚ) * row.metrics.matureOrders * discounted
  | .targetAdvertisingDrr maxDrrBps =>
    (row.metrics.matureDirectRevenueMinor : ℚ) * (maxDrrBps / 10000) * discounted

/-- The product is judged above its ceiling. -/
def JudgedAbove (row : ProductRecommendation) : Prop :=
  cpcAboveEconomicCeiling ∈ row.reasons ∨ cpcAboveAdvertisingDrrCeiling ∈ row.reasons

instance decidableJudgedAbove (row : ProductRecommendation) : Decidable (JudgedAbove row) :=
  inferInstanceAs (Decidable (_ ∨ _))

/-- The spend exceeds what the objective compares it with: the exact allowance for target DRR, every
whole number of kopecks per click within the allowance for expected economics. -/
def ExceedsCeiling (input : ShadowInput) (row : ProductRecommendation) (allowance : Option ℕ) :
    Prop :=
  match input.objective with
  | .expectedEconomics => ∀ cpc : ℕ,
    (cpc * row.metrics.matureClicks : ℚ) ≤ exactAllowance input row allowance →
      cpc * row.metrics.matureClicks < row.metrics.matureSpendMinor
  | .targetAdvertisingDrr _ =>
    exactAllowance input row allowance < row.metrics.matureSpendMinor

theorem div_mul_lt_iff {n k spend : ℕ} (hk : 0 < k) :
    n / k * k < spend ↔ ∀ c : ℕ, c * k ≤ n → c * k < spend := by
  constructor
  · intro h c hc
    have hle : c ≤ n / k := (Nat.le_div_iff_mul_le hk).mpr hc
    exact (Nat.mul_le_mul_right k hle).trans_lt h
  · intro h
    exact h _ (Nat.div_mul_le_self n k)

section Ceiling

variable {input : ShadowInput} {product : ProductEvidence} {row judged result : ProductRecommendation}
  {allowance : Option ℕ} {above : Bool} {aboveReason withinReason : RecommendationReason}

theorem exceedsCeiling_economics {perOrder : ℕ} (hobjective : input.objective = .expectedEconomics)
    (hdiscount : input.policy.safetyDiscountBps < 10000) :
    ExceedsCeiling input row (some perOrder) ↔ ∀ cpc : ℕ, cpc * row.metrics.matureClicks ≤
      perOrder * row.metrics.matureOrders * (10000 - input.policy.safetyDiscountBps) / 10000 →
        cpc * row.metrics.matureClicks < row.metrics.matureSpendMinor := by
  simp only [ExceedsCeiling, exactAllowance, hobjective, Option.getD_some]
  refine forall_congr' fun cpc => imp_congr_left ?_
  rw [Nat.le_div_iff_mul_le (by norm_num), mul_div_assoc', le_div_iff₀ (by norm_num),
    ← Nat.cast_ofNat (R := ℚ), ← Nat.cast_sub hdiscount.le]
  exact_mod_cast Iff.rfl

theorem exceedsCeiling_drr {maxDrrBps : ℕ}
    (hobjective : input.objective = .targetAdvertisingDrr maxDrrBps)
    (hdiscount : input.policy.safetyDiscountBps < 10000) :
    ExceedsCeiling input row allowance ↔
      row.metrics.matureDirectRevenueMinor * maxDrrBps * (10000 - input.policy.safetyDiscountBps) <
        row.metrics.matureSpendMinor * 100000000 := by
  have hexact : exactAllowance input row allowance = ((row.metrics.matureDirectRevenueMinor *
      maxDrrBps * (10000 - input.policy.safetyDiscountBps) : ℕ) : ℚ) / 100000000 := by
    simp only [exactAllowance, hobjective]
    rw [Nat.cast_mul, Nat.cast_mul, Nat.cast_sub hdiscount.le]
    push_cast
    ring
  simp only [ExceedsCeiling, hobjective]
  rw [hexact, div_lt_iff₀ (by norm_num)]
  exact_mod_cast Iff.rfl

theorem performanceCeiling_answer (hclicks : 0 < row.metrics.matureClicks)
    (hdiscount : input.policy.safetyDiscountBps < 10000)
    (h : performanceCeiling input row allowance = .ok (judged, above, aboveReason, withinReason)) :
    (above = true ↔ ExceedsCeiling input row allowance) ∧ judged.reasons = row.reasons ∧
      ((aboveReason = cpcAboveEconomicCeiling ∧ withinReason = withinEconomicCeiling) ∨
        (aboveReason = cpcAboveAdvertisingDrrCeiling ∧
          withinReason = withinAdvertisingDrrCeiling)) := by
  unfold performanceCeiling at h
  dsimp only at h
  split at h
  all_goals
    rename_i hobjective
    simp only [ok_of_bind, ok_of_pure, context_eq_ok, checkedMul_eq_some, tryFrom_eq_some,
      Prod.mk.injEq] at h
  · obtain ⟨perOrder, rfl, total, ⟨rfl, -⟩, numerator, ⟨rfl, -⟩, ceiling, ⟨rfl, -⟩, rfl, rfl, rfl,
      rfl⟩ := h
    refine ⟨?_, rfl, .inl ⟨rfl, rfl⟩⟩
    -- the floor per click is the floor of the whole allowance divided by the clicks
    rw [decide_eq_true_iff, exceedsCeiling_economics hobjective hdiscount,
      mul_comm row.metrics.matureClicks, ← Nat.div_div_eq_div_mul, div_mul_lt_iff hclicks]
  · obtain ⟨target, ⟨rfl, -⟩, perOrder, -, numerator, ⟨rfl, -⟩, ceiling, -, rfl, rfl, rfl, rfl⟩ := h
    refine ⟨?_, rfl, .inr ⟨rfl, rfl⟩⟩
    rw [decide_eq_true_iff, exceedsCeiling_drr hobjective hdiscount]

theorem judgedAbove_of_action (hreasons : judged.reasons = [])
    (hpair : (aboveReason = cpcAboveEconomicCeiling ∧ withinReason = withinEconomicCeiling) ∨
      (aboveReason = cpcAboveAdvertisingDrrCeiling ∧ withinReason = withinAdvertisingDrrCeiling))
    (h : applyPerformanceAction input product judged above aboveReason withinReason = .ok result) :
    JudgedAbove result ↔ above = true := by
  unfold applyPerformanceAction at h
  split at h
  · rename_i habove
    simp only [reduce, ok_of_bind, ok_of_pure] at h
    obtain ⟨suggested, -, rfl⟩ := h
    rcases hpair with ⟨rfl, -⟩ | ⟨rfl, -⟩ <;>
      simp [JudgedAbove, ProductRecommendation.push, hreasons, habove]
  rename_i habove
  simp only [habove]
  split at h
  · cases h
    simp [JudgedAbove, ProductRecommendation.push, hreasons]
  split at h
  · rename_i reason hblocker
    cases h
    have hreason : reason ≠ cpcAboveEconomicCeiling ∧ reason ≠ cpcAboveAdvertisingDrrCeiling := by
      unfold budgetBlocker at hblocker
      split at hblocker
      · cases hblocker
        decide
      · split_ifs at hblocker <;> cases hblocker <;> decide
    rcases hpair with ⟨-, rfl⟩ | ⟨-, rfl⟩ <;>
      simp [JudgedAbove, ProductRecommendation.push, hreasons, hreason.1.symm, hreason.2.symm]
  · simp only [increase, ok_of_bind, ok_of_pure] at h
    obtain ⟨increment, -, suggested, -, rfl⟩ := h
    rcases hpair with ⟨-, rfl⟩ | ⟨-, rfl⟩ <;> split_ifs <;>
      simp [JudgedAbove, ProductRecommendation.push, hreasons]

theorem judgedAbove_applyProductBudgetCap :
    JudgedAbove (applyProductBudgetCap product row) ↔ JudgedAbove row := by
  unfold applyProductBudgetCap
  split
  · simp [JudgedAbove]
  · rfl

/-- A product is judged above its ceiling when its spend exceeds what the objective compares it
with. -/
theorem judgedAbove_iff (hvalid : validatePolicy input.policy = .ok ())
    (hreach : ReachesCeiling input product row allowance)
    (h : evaluate input product = .ok result) :
    JudgedAbove result ↔ ExceedsCeiling input row allowance := by
  have hclicks := hreach.matureClicks_pos hvalid
  rw [validatePolicy, ensure_eq_ok] at hvalid
  rw [evaluate_of_reaches hreach, ok_of_bind] at h
  obtain ⟨⟨judged, above, aboveReason, withinReason⟩, hceil, h⟩ := h
  simp only [ok_of_bind, ok_of_pure] at h
  obtain ⟨acted, hact, rfl⟩ := h
  have hdiscount : input.policy.safetyDiscountBps < 10000 := by omega
  obtain ⟨habove, hreasons, hpair⟩ := performanceCeiling_answer hclicks hdiscount hceil
  rw [judgedAbove_applyProductBudgetCap,
    judgedAbove_of_action (hreasons.trans hreach.unblocked) hpair hact, habove]

/-- **When a product is judged above its ceiling.** Under target DRR exactly when its mature spend
exceeds the exact allowance; under expected economics exactly when it exceeds every whole number of
kopecks per click within the exact allowance. A spend above the exact allowance is judged so under
both. -/
theorem judgedAbove_exact (hvalid : validate input = .ok ()) (_ : product ∈ input.products)
    (hreach : ReachesCeiling input product row allowance)
    (h : evaluate input product = .ok result) :
    (∀ maxDrrBps, input.objective = .targetAdvertisingDrr maxDrrBps →
      (JudgedAbove result ↔ exactAllowance input row allowance < row.metrics.matureSpendMinor)) ∧
    (input.objective = .expectedEconomics →
      (JudgedAbove result ↔ ∀ cpc : ℕ,
        (cpc * row.metrics.matureClicks : ℚ) ≤ exactAllowance input row allowance →
          cpc * row.metrics.matureClicks < row.metrics.matureSpendMinor)) ∧
    (exactAllowance input row allowance < row.metrics.matureSpendMinor → JudgedAbove result) := by
  simp only [validate, ok_of_bind] at hvalid
  obtain ⟨_, -, _, -, _, hpolicy, -⟩ := hvalid
  have hjudged := judgedAbove_iff hpolicy hreach h
  have hdrr : ∀ maxDrrBps, input.objective = .targetAdvertisingDrr maxDrrBps →
      (JudgedAbove result ↔ exactAllowance input row allowance < row.metrics.matureSpendMinor) := by
    intro maxDrrBps hobjective
    rw [hjudged, ExceedsCeiling, hobjective]
  have heconomics : input.objective = .expectedEconomics →
      (JudgedAbove result ↔ ∀ cpc : ℕ,
        (cpc * row.metrics.matureClicks : ℚ) ≤ exactAllowance input row allowance →
          cpc * row.metrics.matureClicks < row.metrics.matureSpendMinor) := by
    intro hobjective
    rw [hjudged, ExceedsCeiling, hobjective]
  refine ⟨hdrr, heconomics, ?_⟩
  intro habove
  cases hobjective : input.objective with
  | expectedEconomics =>
    rw [heconomics hobjective]
    intro cpc hcpc
    exact_mod_cast hcpc.trans_lt habove
  | targetAdvertisingDrr maxDrrBps => exact (hdrr maxDrrBps hobjective).mpr habove

end Ceiling

/-! ## A spend equal to its allowance -/

/-- Three clicks and one order on the only day of the window, with ten kopecks spent and ten kopecks
allowed for the order. -/
def spentProduct : ProductEvidence where
  sku := 1
  currentDailyBudgetMinor := 100
  maxDailyBudgetMinor := 200
  budgetConstraint := some ⟨true, seconds (20010 * 86400)⟩
  daily := [⟨20000, none, 3, 10, 1, 500⟩]
  stock := some ⟨5, seconds (20010 * 86400)⟩
  economics := some ⟨"costs", 20000, 20020, seconds (20010 * 86400), 10, 0, 0, 0, 0⟩

/-- A window with a product that spent without orders. -/
def spentInput : ShadowInput where
  version := 1
  sourceRefs := ["report"]
  accountId := "main"
  asOf := seconds (20010 * 86400)
  observedAt := seconds (20010 * 86400)
  windowStart := 20000
  windowEnd := 20000
  coverageComplete := true
  objective := .expectedEconomics
  policy :=
    { totalDailyBudgetMinor := 1000, attributionLagDays := 7, minMatureDays := 1, minClicks := 1
      minOrders := 1, maxDataAgeHours := 24, maxWindowEndAgeDays := 30, maxStockAgeHours := 24
      safetyDiscountBps := 0, maxBudgetIncreaseBps := 1000, budgetDecreaseBps := 2000
      zeroOrderSpendAllowances := 2 }
  products := [spentProduct]

/-- The row of the product before its ceiling. -/
def spentRow : ProductRecommendation :=
  ⟨1, .hold, [], 100, 100,
    { allPeriodSpendMinor := 10, matureDays := 1, matureClicks := 3, matureOrders := 1
      matureSpendMinor := 10, matureDirectRevenueMinor := 500
      advertisingAllowancePerOrderMinor := some 10 }⟩

/-- Its recommendation: three kopecks per click cover nine of the ten kopecks. -/
def spentResult : ProductRecommendation :=
  ⟨1, .reviewReduction, [cpcAboveEconomicCeiling], 100, 80,
    { spentRow.metrics with
      averageCpcCeilingMinor := some 3
      cpcCeilingBasis := some .expectedEconomics
      economicAverageCpcCeilingMinor := some 3 }⟩

theorem reachesCeiling_spentProduct : ReachesCeiling spentInput spentProduct spentRow (some 10) :=
  ⟨by rfl, rfl, by decide, by decide, by decide, by decide⟩

theorem exactAllowance_spentRow : exactAllowance spentInput spentRow (some 10) = 10 := by
  norm_num [exactAllowance, spentInput, spentRow]

/-- The comparison with the exact allowance is not what expected economics decides. -/
theorem judgedAbove_within_allowance : ¬ ∀ input product row allowance result,
    validate input = .ok () → product ∈ input.products →
    ReachesCeiling input product row allowance → evaluate input product = .ok result →
    (JudgedAbove result ↔ exactAllowance input row allowance < row.metrics.matureSpendMinor) := by
  intro h
  have hspent := (h spentInput spentProduct spentRow (some 10) spentResult (by rfl)
    List.mem_cons_self reachesCeiling_spentProduct (by rfl)).mp (by decide)
  rw [exactAllowance_spentRow] at hspent
  exact absurd hspent (by norm_num [spentRow])

theorem judgedAbove_exact_spentProduct :
    JudgedAbove spentResult ∧ (JudgedAbove spentResult ↔ ∀ cpc : ℕ,
      (cpc * spentRow.metrics.matureClicks : ℚ) ≤ exactAllowance spentInput spentRow (some 10) →
        cpc * spentRow.metrics.matureClicks < spentRow.metrics.matureSpendMinor) :=
  ⟨by decide, (judgedAbove_exact (by rfl) List.mem_cons_self reachesCeiling_spentProduct
    (by rfl)).2.1 rfl⟩

end AdsControl.Optimizer
