import AdsControl.Optimizer.Allocation

/-!
# Labels and amounts

The label of a recommendation is set in five places: stock, economics, performance, the limit of the
product and the portfolio budget. Each of them changes the amount as well.

* `Agrees`: a label says what its amount does, and poor evidence never raises a budget;
* `CallsForReduction`: the mature performance of a product with sound evidence asks for a reduction;
* `evaluate_cases`: labels agree, except for a reduction of a budget that is zero already;
* **`labels_agree_iff`**: this is the only way in which a report goes wrong.
-/

namespace AdsControl.Optimizer

open Fallible Machine RecommendationReason

/-- Reasons about the quality of the evidence. -/
def EvidenceQuality (reason : RecommendationReason) : Prop :=
  reason ∈ [incompleteCoverage, missingDates, staleAdvertising, stalePerformanceWindow, missingStock,
    staleStock, missingEconomics, economicsOutsidePeriod, staleBudgetConstraintEvidence,
    insufficientMatureDays, insufficientClicks]

/-- The label says what the amount does, and poor evidence never raises a budget. -/
structure Agrees (row : ProductRecommendation) : Prop where
  reduction : row.action = .reviewReduction →
    row.suggestedDailyBudgetMinor < row.currentDailyBudgetMinor
  increase : row.action = .testBudgetIncrease →
    row.currentDailyBudgetMinor < row.suggestedDailyBudgetMinor
  hold : row.action = .hold → row.suggestedDailyBudgetMinor = row.currentDailyBudgetMinor
  pause : row.action = .reviewPause → row.suggestedDailyBudgetMinor = 0
  evidence : (∃ reason ∈ row.reasons, EvidenceQuality reason) →
    row.suggestedDailyBudgetMinor ≤ row.currentDailyBudgetMinor

namespace Agrees

variable {row : ProductRecommendation}

theorem of_hold (haction : row.action = .hold)
    (h : row.suggestedDailyBudgetMinor = row.currentDailyBudgetMinor) : Agrees row := by
  constructor <;> simp [haction, h]

theorem of_pause (haction : row.action = .reviewPause) (h : row.suggestedDailyBudgetMinor = 0) :
    Agrees row := by
  constructor <;> simp [haction, h]

theorem of_reduction (haction : row.action = .reviewReduction)
    (h : row.suggestedDailyBudgetMinor < row.currentDailyBudgetMinor) : Agrees row := by
  constructor <;> simp [haction, h, h.le]

theorem of_increase (haction : row.action = .testBudgetIncrease)
    (h : row.currentDailyBudgetMinor < row.suggestedDailyBudgetMinor)
    (hevidence : ∀ reason ∈ row.reasons, ¬ EvidenceQuality reason) : Agrees row := by
  constructor <;> simp [haction, h]
  exact fun reason hmem hquality => absurd hquality (hevidence reason hmem)

end Agrees

section Evaluate

variable {input : ShadowInput} {product : ProductEvidence} {c : ℕ} {row row' : ProductRecommendation}
  {allowance : Option ℕ}

/-! ## Before the judgement -/

/-- A row keeps its budget, or pauses for a reason. -/
structure Screened (c : ℕ) (row : ProductRecommendation) : Prop where
  current : row.currentDailyBudgetMinor = c
  kept : row.action = .hold ∧ row.suggestedDailyBudgetMinor = c ∨
    row.action = .reviewPause ∧ row.suggestedDailyBudgetMinor = 0 ∧ row.reasons ≠ []

theorem Screened.push (h : Screened c row) (reason : RecommendationReason) :
    Screened c (row.push reason) := by
  refine ⟨h.current, h.kept.imp id fun hpause => ⟨hpause.1, hpause.2.1, ?_⟩⟩
  simp [ProductRecommendation.push]

theorem Screened.pushIf (h : Screened c row) (p : Prop) [Decidable p] (reason : RecommendationReason) :
    Screened c (row.pushIf p reason) := by
  unfold ProductRecommendation.pushIf
  split_ifs
  · exact h.push reason
  · exact h

theorem Screened.pause (h : Screened c row) (reason : RecommendationReason) :
    Screened c (row.pause reason) :=
  ⟨h.current, .inr ⟨rfl, rfl, by simp [ProductRecommendation.pause, ProductRecommendation.push]⟩⟩

theorem Screened.screened (metrics : EvidenceMetrics) :
    Screened product.currentDailyBudgetMinor (screened input product metrics) := by
  have hbase : Screened product.currentDailyBudgetMinor ⟨product.sku, .hold, [],
      product.currentDailyBudgetMinor, product.currentDailyBudgetMinor, metrics⟩ := ⟨rfl, .inl ⟨rfl, rfl⟩⟩
  have hrow := (((hbase.pushIf (input.coverageComplete = false) incompleteCoverage).pushIf
    ((product.daily.length : ℤ) ≠ input.windowEnd - input.windowStart + 1) missingDates).pushIf
    (hours input.policy.maxDataAgeHours < input.asOf - input.observedAt ∨ ∃ day ∈ product.daily,
      hours input.policy.maxDataAgeHours < input.asOf - day.observedAt.getD input.observedAt)
    staleAdvertising).pushIf
    (input.policy.maxWindowEndAgeDays < dateNaive input.asOf - input.windowEnd)
    stalePerformanceWindow
  unfold Optimizer.screened addStock
  dsimp only
  split
  · exact hrow.push _
  split_ifs
  · exact hrow.push _
  · exact hrow.pause _
  · exact hrow

theorem Screened.objectiveAllowance (h : Screened c row)
    (hr : objectiveAllowance input product row = .ok (row', allowance)) : Screened c row' := by
  unfold Optimizer.objectiveAllowance economicAllowance at hr
  split at hr
  · split at hr
    · cases hr
      exact h.push _
    · split at hr
      · cases hr
        exact h.push _
      · simp only [ok_of_bind, ok_of_pure, Prod.mk.injEq] at hr
        obtain ⟨costs, _, rfl, _⟩ := hr
        have hmetrics : ∀ metrics, Screened c { row with metrics := metrics } :=
          fun metrics => ⟨h.current, h.kept⟩
        split_ifs
        · exact (hmetrics _).pause _
        · exact hmetrics _
  · cases hr
    exact h

theorem Screened.hold (h : Screened c row) (hnone : row.reasons = []) :
    row.action = .hold ∧ row.suggestedDailyBudgetMinor = c :=
  h.kept.resolve_right fun hpause => hpause.2.2 hnone

/-- A row that only keeps or pauses agrees with its label. -/
theorem Screened.agrees (h : Screened c row) : Agrees row := by
  obtain ⟨haction, hsuggested⟩ | ⟨haction, hsuggested, _⟩ := h.kept
  · exact .of_hold haction (hsuggested.trans h.current.symm)
  · exact .of_pause haction hsuggested

/-! ## The judgement -/

/-- Mature spend has reached the allowances of the orders it did not bring. -/
def SpendWithoutOrders (input : ShadowInput) (row : ProductRecommendation) (allowance : Option ℕ) : Prop :=
  row.metrics.matureOrders = 0 ∧ (allowance.any fun value =>
    value * input.policy.zeroOrderSpendAllowances ≤ row.metrics.matureSpendMinor) = true

/-- Consistent mature performance is too expensive: without orders at all, or above the ceiling. -/
def TooExpensive (input : ShadowInput) (row : ProductRecommendation) (allowance : Option ℕ) : Prop :=
  ¬ ((0 < row.metrics.matureClicks ∧ row.metrics.matureSpendMinor = 0) ∨
      (0 < row.metrics.matureOrders ∧ row.metrics.matureDirectRevenueMinor = 0)) ∧
    ¬ (row.metrics.matureOrders = 0 ∧ input.objective ≠ .expectedEconomics) ∧
    (SpendWithoutOrders input row allowance ∨
      input.policy.minOrders ≤ row.metrics.matureOrders ∧
        ∃ judged aboveReason withinReason,
          performanceCeiling input row allowance = .ok (judged, true, aboveReason, withinReason))

/-- What a judgement leaves behind. -/
inductive Judged (input : ShadowInput) (row row' : ProductRecommendation) : Prop
  | kept (hsuggested : row'.suggestedDailyBudgetMinor = row.suggestedDailyBudgetMinor)
      (haction : row'.action = row.action)
  | increased (increment : ℕ)
      (hsuggested : row'.suggestedDailyBudgetMinor = row.currentDailyBudgetMinor + increment)
      (haction : row'.action = if 0 < increment then .testBudgetIncrease else row.action)
      (hreasons : ∀ reason ∈ row'.reasons, reason ∈ row.reasons ∨ ¬ EvidenceQuality reason)

/-- A reduced row. -/
def Reduced (input : ShadowInput) (row row' : ProductRecommendation) : Prop :=
  row'.action = .reviewReduction ∧ row'.suggestedDailyBudgetMinor =
    row.currentDailyBudgetMinor * (10000 - input.policy.budgetDecreaseBps) / 10000

theorem reduce_cases (h : reduce input row = .ok row') :
    row'.currentDailyBudgetMinor = row.currentDailyBudgetMinor ∧ Reduced input row row' := by
  simp only [reduce, scaled, ok_of_bind, ensure_eq_ok, context_eq_ok, ok_of_pure,
    tryFrom_eq_some] at h
  obtain ⟨suggested, ⟨_, _, rfl, _⟩, rfl⟩ := h
  exact ⟨rfl, rfl, rfl⟩

theorem increase_cases {reason : RecommendationReason} (hreason : ¬ EvidenceQuality reason)
    (h : increase input (row.push reason) = .ok row') :
    row'.currentDailyBudgetMinor = row.currentDailyBudgetMinor ∧ Judged input row row' := by
  simp only [increase, ok_of_bind, context_eq_ok, ok_of_pure, checkedAdd_eq_some] at h
  obtain ⟨increment, _, _, ⟨rfl, _⟩, rfl⟩ := h
  have hreasons : ∀ r ∈ row.reasons ++ [reason], r ∈ row.reasons ∨ ¬ EvidenceQuality r := by
    intro r hr
    rcases List.mem_append.mp hr with hr | hr
    · exact .inl hr
    · rw [List.mem_singleton.mp hr]
      exact .inr hreason
  split_ifs with hpos
  · exact ⟨rfl, .increased increment rfl (by rw [if_pos hpos]) hreasons⟩
  · exact ⟨rfl, .increased increment rfl (by rw [if_neg hpos]; rfl) hreasons⟩

theorem performanceCeiling_cases {above : Bool} {aboveReason withinReason : RecommendationReason}
    (h : performanceCeiling input row allowance = .ok (row', above, aboveReason, withinReason)) :
    (∃ metrics, row' = { row with metrics := metrics }) ∧ ¬ EvidenceQuality withinReason := by
  unfold performanceCeiling at h
  dsimp only at h
  split at h
  all_goals
    simp only [ok_of_bind, ok_of_pure, Prod.mk.injEq] at h
  · obtain ⟨_, _, _, _, _, _, _, _, rfl, _, _, rfl⟩ := h
    exact ⟨⟨_, rfl⟩, by simp [EvidenceQuality]⟩
  · obtain ⟨_, _, _, _, _, _, _, _, rfl, _, _, rfl⟩ := h
    exact ⟨⟨_, rfl⟩, by simp [EvidenceQuality]⟩

/-- **The judgement.** Too expensive a performance reduces the budget, any other keeps or raises it. -/
theorem performance_cases (h : performance input product row allowance = .ok row') :
    row'.currentDailyBudgetMinor = row.currentDailyBudgetMinor ∧
      (TooExpensive input row allowance ∧ Reduced input row row' ∨
        ¬ TooExpensive input row allowance ∧ Judged input row row') := by
  unfold performance at h
  dsimp only at h
  split at h
  case isTrue hinconsistent =>
    cases h
    exact ⟨rfl, .inr ⟨fun he => he.1 hinconsistent, .kept rfl rfl⟩⟩
  case isFalse hconsistent =>
  split at h
  case isTrue hdrr =>
    cases h
    exact ⟨rfl, .inr ⟨fun he => he.2.1 hdrr, .kept rfl rfl⟩⟩
  case isFalse hdrr =>
  split at h
  case isTrue hspend =>
    obtain ⟨hcurrent, hreduced⟩ := reduce_cases h
    exact ⟨hcurrent, .inl ⟨⟨hconsistent, hdrr, .inl hspend⟩, hreduced⟩⟩
  case isFalse hspend =>
  split at h
  case isTrue hfew =>
    cases h
    refine ⟨rfl, .inr ⟨fun he => ?_, .kept rfl rfl⟩⟩
    rcases he.2.2 with he | he
    · exact hspend he
    · omega
  case isFalse henough =>
  rw [ok_of_bind] at h
  obtain ⟨⟨judged, above, aboveReason, withinReason⟩, hceiling, h⟩ := h
  obtain ⟨⟨metrics, rfl⟩, hwithin⟩ := performanceCeiling_cases hceiling
  dsimp only [applyPerformanceAction] at h
  cases above with
  | true =>
    obtain ⟨hcurrent, hreduced⟩ := reduce_cases h
    exact ⟨hcurrent, .inl ⟨⟨hconsistent, hdrr, .inr ⟨by omega, _, _, _, hceiling⟩⟩, hreduced⟩⟩
  | false =>
    have hcheap : ¬ TooExpensive input row allowance := by
      rintro ⟨_, _, he | ⟨_, _, _, _, he⟩⟩
      · exact hspend he
      · rw [hceiling] at he
        cases he
    rw [if_neg Bool.false_ne_true] at h
    split at h
    · cases h
      exact ⟨rfl, .inr ⟨hcheap, .kept rfl rfl⟩⟩
    split at h
    · cases h
      exact ⟨rfl, .inr ⟨hcheap, .kept rfl rfl⟩⟩
    · obtain ⟨hcurrent, hjudged⟩ := increase_cases hwithin h
      refine ⟨hcurrent, .inr ⟨hcheap, ?_⟩⟩
      cases hjudged with
      | kept hsuggested haction => exact .kept hsuggested haction
      | increased increment hsuggested haction hreasons =>
        exact .increased increment hsuggested haction hreasons

/-- Sound evidence of a product calls for a reduction of its budget. -/
def CallsForReduction (input : ShadowInput) (product : ProductEvidence) : Prop :=
  ∃ metrics row allowance, evidenceMetrics input product = .ok metrics ∧
    objectiveAllowance input product (screened input product metrics) = .ok (row, allowance) ∧
    row.reasons = [] ∧ input.policy.minMatureDays ≤ row.metrics.matureDays ∧
    input.policy.minClicks ≤ row.metrics.matureClicks ∧ TooExpensive input row allowance

/-- A zero budget that the judgement reduces further. -/
def Mislabelled (input : ShadowInput) (product : ProductEvidence) : Prop :=
  product.currentDailyBudgetMinor = 0 ∧ CallsForReduction input product

theorem reasons_pushIf_eq_nil {p : Prop} [Decidable p] {reason : RecommendationReason} :
    (row.pushIf p reason).reasons = [] ↔ row.reasons = [] ∧ ¬ p := by
  unfold ProductRecommendation.pushIf
  split_ifs with h <;> simp [h, ProductRecommendation.push]

theorem reduced_lt (hpolicy : validatePolicy input.policy = .ok ()) {n : ℕ} (h : n ≠ 0) :
    n * (10000 - input.policy.budgetDecreaseBps) / 10000 < n := by
  rw [validatePolicy, ensure_eq_ok] at hpolicy
  have hlt : n * (10000 - input.policy.budgetDecreaseBps) < n * 10000 :=
    Nat.mul_lt_mul_of_pos_left (by omega) (Nat.pos_of_ne_zero h)
  omega

/-- The row of a product before the limit of the product. -/
theorem judge_cases (hpolicy : validatePolicy input.policy = .ok ()) {metrics : EvidenceMetrics}
    (hmetrics : evidenceMetrics input product = .ok metrics)
    (hallow : objectiveAllowance input product (screened input product metrics) = .ok (row, allowance))
    (hjudge : judge input product ((row.pushIf (row.metrics.matureDays < input.policy.minMatureDays)
      insufficientMatureDays).pushIf (row.metrics.matureClicks < input.policy.minClicks)
      insufficientClicks) allowance = .ok row') :
    row'.currentDailyBudgetMinor = product.currentDailyBudgetMinor ∧
      (Mislabelled input product ∧ row'.action = .reviewReduction ∧ row'.suggestedDailyBudgetMinor = 0 ∨
        ¬ Mislabelled input product ∧ Agrees row') := by
  set ready := (row.pushIf (row.metrics.matureDays < input.policy.minMatureDays)
    insufficientMatureDays).pushIf (row.metrics.matureClicks < input.policy.minClicks)
    insufficientClicks with hready
  have hscreened : Screened product.currentDailyBudgetMinor ready :=
    (((Screened.screened metrics).objectiveAllowance hallow).pushIf _ _).pushIf _ _
  have hmis : Mislabelled input product → ready.reasons = [] ∧ TooExpensive input row allowance := by
    rintro ⟨_, metrics', row₁, allowance', hmetrics', hallow', hreasons, hdays, hclicks, hexpensive⟩
    rw [hmetrics, Except.ok.injEq] at hmetrics'
    subst hmetrics'
    rw [hallow, Except.ok.injEq, Prod.mk.injEq] at hallow'
    obtain ⟨rfl, rfl⟩ := hallow'
    rw [hready, reasons_pushIf_eq_nil, reasons_pushIf_eq_nil]
    exact ⟨⟨⟨hreasons, by omega⟩, by omega⟩, hexpensive⟩
  unfold judge at hjudge
  split_ifs at hjudge with hnone
  · obtain ⟨haction, hsuggested⟩ := hscreened.hold hnone
    -- nothing was pushed, so the judged row is the one that the allowance left
    have hnone' := hnone
    rw [hready, reasons_pushIf_eq_nil, reasons_pushIf_eq_nil] at hnone'
    obtain ⟨⟨hreasons, hdays⟩, hclicks⟩ := hnone'
    have heq : ready = row := by
      rw [hready, ProductRecommendation.pushIf, if_neg hclicks, ProductRecommendation.pushIf, if_neg hdays]
    obtain ⟨hcurrent, hcases⟩ := performance_cases hjudge
    rw [heq] at hcases hcurrent haction hsuggested hscreened
    have hc := hscreened.current
    refine ⟨hcurrent.trans hc, ?_⟩
    obtain ⟨hexpensive, hlabel, hamount⟩ | ⟨hcheap, hjudged⟩ := hcases
    · by_cases hzero : product.currentDailyBudgetMinor = 0
      · refine .inl ⟨⟨hzero, metrics, row, allowance, hmetrics, hallow, hreasons, by omega, by omega,
          hexpensive⟩, hlabel, ?_⟩
        rw [hamount, hc, hzero, Nat.zero_mul, Nat.zero_div]
      · refine .inr ⟨fun hbad => hzero hbad.1, .of_reduction hlabel ?_⟩
        rw [hamount, hcurrent, hc]
        exact reduced_lt hpolicy hzero
    · refine .inr ⟨fun hbad => hcheap (hmis hbad).2, ?_⟩
      cases hjudged with
      | kept hsuggested' haction' =>
        exact .of_hold (haction'.trans haction) (by omega)
      | increased increment hsuggested' haction' hreasons' =>
        split_ifs at haction' with hpos
        · refine .of_increase haction' (by omega) fun reason hmem => ?_
          rcases hreasons' reason hmem with hold | hnot
          · rw [hreasons] at hold
            cases hold
          · exact hnot
        · exact .of_hold (haction'.trans haction) (by omega)
  · rw [Except.ok.injEq] at hjudge
    rw [← hjudge]
    exact ⟨hscreened.current, .inr ⟨fun hbad => hnone (hmis hbad).1, hscreened.agrees⟩⟩

theorem Agrees.lowered (h : Agrees row) {amount : ℕ} {reason : RecommendationReason}
    (hreason : ¬ EvidenceQuality reason) (hlower : amount < row.suggestedDailyBudgetMinor)
    {action : RecommendationAction}
    (haction : action = .reviewPause ∧ amount = 0 ∨
      action = if amount < row.currentDailyBudgetMinor then .reviewReduction
        else if amount = row.currentDailyBudgetMinor then .hold else .testBudgetIncrease) :
    Agrees { row with
      suggestedDailyBudgetMinor := amount
      reasons := row.reasons ++ [reason]
      action := action } := by
  obtain ⟨rfl, hzero⟩ | rfl := haction
  · exact .of_pause rfl hzero
  split_ifs with hless hequal
  · exact .of_reduction rfl hless
  · exact .of_hold rfl hequal
  · have hgreater : row.currentDailyBudgetMinor < amount := by omega
    refine .of_increase rfl hgreater fun r hr hquality => ?_
    rcases List.mem_append.mp hr with hr | hr
    · have := h.evidence ⟨r, hr, hquality⟩
      omega
    · rw [List.mem_singleton.mp hr] at hquality
      exact hreason hquality

/-- **One product.** Its label agrees with its amount unless a zero budget is reduced. -/
theorem evaluate_cases (hpolicy : validatePolicy input.policy = .ok ())
    (h : evaluate input product = .ok row) :
    Mislabelled input product ∧ row.action = .reviewReduction ∧
        row.suggestedDailyBudgetMinor = 0 ∧ row.currentDailyBudgetMinor = 0 ∨
      ¬ Mislabelled input product ∧ Agrees row := by
  simp only [evaluate, ok_of_bind, ok_of_pure] at h
  obtain ⟨metrics, hmetrics, ⟨allowed, allowance⟩, hallow, judged, hjudge, rfl⟩ := h
  have hclicks : ∀ (p : Prop) [Decidable p] reason, (allowed.pushIf p reason).metrics = allowed.metrics := by
    intro p _ reason
    unfold ProductRecommendation.pushIf
    split_ifs <;> rfl
  rw [hclicks] at hjudge
  obtain ⟨hcurrent, ⟨hbad, haction, hsuggested⟩ | ⟨hgood, hagrees⟩⟩ :=
    judge_cases hpolicy hmetrics hallow hjudge
  · left
    rw [applyProductBudgetCap, if_neg (by omega)]
    exact ⟨hbad, haction, hsuggested, hcurrent.trans hbad.1⟩
  · refine .inr ⟨hgood, ?_⟩
    unfold applyProductBudgetCap
    split
    case isFalse => exact hagrees
    case isTrue hcap =>
      refine hagrees.lowered (by simp [EvidenceQuality]) hcap ?_
      by_cases hzero : product.maxDailyBudgetMinor = 0
      · exact .inl ⟨if_pos hzero, hzero⟩
      · rw [if_neg hzero, hcurrent]
        exact .inr rfl

end Evaluate

/-! ## The portfolio -/

theorem length_assignFloors {total budget : ℕ} {weights : List ℕ} {assigned : ℕ} {result : List ℕ × ℕ}
    (h : assignFloors total budget weights assigned = .ok result) :
    result.1.length = weights.length := by
  induction weights generalizing assigned result with
  | nil =>
    cases h
    rfl
  | cons weight rest ih =>
    simp only [assignFloors, ok_of_bind, ok_of_pure] at h
    obtain ⟨amount, _, assigned', _, result', hrest, rfl⟩ := h
    rw [List.length_cons, List.length_cons, ih hrest]

theorem length_addUnits {amounts indices result : List ℕ} (h : addUnits amounts indices = .ok result) :
    result.length = amounts.length := by
  induction indices generalizing amounts with
  | nil =>
    cases h
    rfl
  | cons index rest ih =>
    simp only [addUnits, ok_of_bind] at h
    obtain ⟨value, _, hrest⟩ := h
    rw [ih hrest, List.length_set]

theorem length_proportional {weights : List ℕ} {budget : ℕ} {result : List ℕ}
    (h : proportional weights budget = .ok result) : result.length = weights.length := by
  unfold proportional at h
  dsimp only at h
  split_ifs at h
  · cases h
    rw [List.length_replicate]
  · simp only [ok_of_bind] at h
    obtain ⟨floors, hfloors, _, _, hunits⟩ := h
    rw [length_addUnits hunits, length_assignFloors hfloors]

theorem length_addAmounts {bases extras result : List ℕ} (hlen : extras.length = bases.length)
    (h : addAmounts bases extras = .ok result) : result.length = bases.length := by
  induction bases generalizing extras result with
  | nil =>
    cases h
    rfl
  | cons base bases ih =>
    cases extras with
    | nil => cases hlen
    | cons extra extras =>
      simp only [addAmounts, ok_of_bind, ok_of_pure] at h
      obtain ⟨amount, _, amounts, hrest, rfl⟩ := h
      rw [List.length_cons, List.length_cons, ih (Nat.succ.inj hlen) hrest]

theorem length_assign {policy : OptimizerPolicy} {rows : List ProductRecommendation} {amounts : List ℕ}
    (h : assign policy rows = .ok amounts) : amounts.length = rows.length := by
  unfold assign at h
  dsimp only at h
  split_ifs at h
  · rw [length_proportional h, List.length_map]
  · simp only [ok_of_bind] at h
    obtain ⟨_, _, extras, hextras, hadd⟩ := h
    have hlen : extras.length = rows.length := by
      unfold additions at hextras
      split_ifs at hextras
      · rw [length_proportional hextras, List.length_map]
      · rw [Except.ok.injEq] at hextras
        rw [← hextras, List.length_map]
    rw [length_addAmounts (by rw [hlen, List.length_map]) hadd, List.length_map]

theorem agrees_capRow {row : ProductRecommendation} (h : Agrees row) (amount : ℕ) :
    Agrees (capRow row amount) := by
  unfold capRow
  split
  case isTrue hcap => exact h.lowered (by simp [EvidenceQuality]) hcap (.inr rfl)
  case isFalse => exact h

/-- **Labels agree with amounts exactly when no zero budget is reduced.** -/
theorem labels_agree_iff (sha256 : ShadowInput → String) (input : ShadowInput) (report : ShadowReport)
    (h : recommend sha256 input = .ok report) :
    (∀ row ∈ report.recommendations, Agrees row) ↔
      ∀ product ∈ (sortInput input).products, product.currentDailyBudgetMinor = 0 →
        ¬ CallsForReduction (sortInput input) product := by
  simp only [recommend, allocate, validate, ok_of_bind, ensure_eq_ok, ok_of_pure] at h
  obtain ⟨_, ⟨_, _, _, _, _, hpolicy, _⟩, rows, hrows, _, ⟨amounts, hassign, rfl⟩, _, _, rfl⟩ := h
  have hpolicy' : validatePolicy (sortInput input).policy = .ok () := hpolicy
  constructor
  · intro hagrees product hproduct hzero hcalls
    -- the row of a mislabelled product reaches the report unchanged
    obtain ⟨i, hget⟩ := List.getElem?_of_mem hproduct
    obtain ⟨row, hrow, heval⟩ := exists_getElem?_of_mapM hrows hget
    obtain ⟨_, haction, hsuggested, hcurrent⟩ | ⟨hgood, _⟩ := evaluate_cases hpolicy' heval
    · obtain ⟨amount, hamount⟩ : ∃ amount, amounts[i]? = some amount := by
        have hlt := (List.getElem?_eq_some_iff.mp hrow).1
        rw [← length_assign hassign] at hlt
        exact ⟨_, List.getElem?_eq_getElem hlt⟩
      have hfinal : capRow row amount ∈ List.zipWith capRow rows amounts :=
        List.mem_of_getElem? (List.getElem?_zipWith_eq_some.mpr ⟨_, _, hrow, hamount, rfl⟩)
      have hlaw := hagrees _ hfinal
      rw [capRow, if_neg (by omega)] at hlaw
      have := hlaw.reduction haction
      omega
    · exact hgood ⟨hzero, hcalls⟩
  · intro hnone final hfinal
    obtain ⟨i, hget⟩ := List.getElem?_of_mem hfinal
    obtain ⟨row, amount, hrow, _, rfl⟩ := List.getElem?_zipWith_eq_some.mp hget
    obtain ⟨product, hproduct, heval⟩ := exists_of_mem_mapM hrows row (List.mem_of_getElem? hrow)
    obtain ⟨hbad, _⟩ | ⟨_, hagrees⟩ := evaluate_cases hpolicy' heval
    · exact absurd hbad.2 (hnone product hproduct hbad.1)
    · exact agrees_capRow hagrees amount

/-- One product with a day of ten clicks for ten rubles, two orders and an allowance of one kopeck each. -/
def expensiveInput (currentDailyBudgetMinor : ℕ) : ShadowInput where
  version := 1
  sourceRefs := ["ofk:advertising:snapshot:1"]
  accountId := "ozon_account"
  asOf := seconds (20000 * 86400)
  observedAt := seconds (20000 * 86400)
  windowStart := 19990
  windowEnd := 19990
  coverageComplete := true
  objective := .expectedEconomics
  policy := ⟨100000, 1, 1, 1, 1, 24, 90, 24, 0, 1000, 2000, 1⟩
  products := [⟨1, currentDailyBudgetMinor, 100000, none, [⟨19990, none, 10, 1000, 2, 5000⟩],
    some ⟨5, seconds (20000 * 86400)⟩,
    some ⟨"cost:1", 19990, 20000, seconds (20000 * 86400), 101, 100, 0, 0, 0⟩⟩]

/-- A budget of ten rubles is reduced and labelled so. -/
theorem labels_agree_ten_rubles : ∃ report, recommend (fun _ => "digest") (expensiveInput 1000) =
    .ok report ∧ ∀ row ∈ report.recommendations, Agrees row := by
  obtain ⟨report, hreport⟩ : ∃ report, recommend (fun _ => "digest") (expensiveInput 1000) =
    .ok report := ⟨_, rfl⟩
  refine ⟨report, hreport, (labels_agree_iff _ _ report hreport).mpr fun product hmem hzero => ?_⟩
  obtain rfl := List.mem_singleton.mp hmem
  cases hzero

/-- A budget of zero is labelled as a reduction. -/
theorem labels_disagree_zero_budget : ∃ report, recommend (fun _ => "digest") (expensiveInput 0) =
    .ok report ∧ ∃ row ∈ report.recommendations, row.action = .reviewReduction ∧
      row.suggestedDailyBudgetMinor = 0 ∧ row.currentDailyBudgetMinor = 0 :=
  ⟨_, rfl, _, List.mem_singleton.mpr rfl, rfl, rfl, rfl⟩

end AdsControl.Optimizer
