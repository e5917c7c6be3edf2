import AdsControl.Wb.Corridor
import AdsControl.Wb.RoundedRatio

/-!
# Raising a bid at the traffic frontier

A frontier raise has to be paid for: it stays below the ceiling, below what is left until the protective
pause, and below the price of a click that the orders of the feedback have earned.

* `FrontierPolicy`: what an accepted policy with frontier pacing provides;
* `ZeroCost`, `Earned`: the evidence that marginal feedback has to show before a raise;
* `FundedRaise`: a change within all three caps;
* `pacing_error`: the failures that pacing has left under an accepted policy;
* **`frontier_raise_law`**: every raise is funded, and the price of a click is always defined.
-/

namespace AdsControl.Wb

open WbAutomationAction KeySelect Machine Fallible

/-- Delivery that cost nothing and earned nothing. -/
def ZeroCost (metrics : WbAutomationCampaignMetrics) : Prop :=
  metrics.clicks = 0 ∧ metrics.spendMinor = 0 ∧ metrics.attributedOrders = 0 ∧
    metrics.attributedRevenueMinor = 0

/-- Orders with clicks and revenue, at a rounded DRR within the target. -/
def Earned (policy : WbAutomationPolicy) (metrics : WbAutomationCampaignMetrics) : Prop :=
  0 < metrics.attributedOrders ∧ 0 < metrics.clicks ∧ 0 < metrics.attributedRevenueMinor ∧
    metrics.spendMinor * 10000 / metrics.attributedRevenueMinor ≤ policy.targetDrrBasisPoints

/-- A raise of an observed bid that the feedback pays for. -/
structure FundedRaise (policy : WbAutomationPolicy) (snapshot : WbAutomationSnapshot)
    (feedback : WbAutomationCampaignMetrics) (change : WbAutomationBidChange) : Prop where
  raises : ∃ sku ∈ snapshot.observation.skus, sku.nmId = change.nmId ∧
    sku.currentBidKopecks = change.fromBidKopecks ∧ sku.currentBidKopecks < change.toBidKopecks
  le_caps : change.toBidKopecks ≤
    min policy.maxBidKopecks (policy.dailyPauseThresholdMinor - snapshot.observation.dailySpendMinor)
  paid : 0 < feedback.attributedOrders → change.toBidKopecks * feedback.clicks * 10000 ≤
    feedback.attributedRevenueMinor * policy.targetDrrBasisPoints

/-- What frontier pacing takes from an accepted policy. -/
structure FrontierPolicy (policy : WbAutomationPolicy) : Prop where
  frontier : ∃ bid, policy.trafficFrontierBidKopecks = some bid
  timeout : ∃ seconds, policy.trafficFrontierFeedbackTimeoutSeconds = some seconds
  marginal : policy.autonomousPacing.usesMarginalFeedback = true →
    (∃ n, policy.trafficFrontierMinFeedbackImpressions = some n) ∧
      ∃ n, policy.trafficFrontierMinFeedbackClicks = some n
  target_le : policy.targetDrrBasisPoints ≤ 10000
  reduceClicks_pos : 0 < policy.noOrderReduceClicks

/-- Both amounts are 64-bit values. -/
def AmountsInRange (metrics : WbAutomationCampaignMetrics) : Prop :=
  metrics.spendMinor < 2 ^ 64 ∧ metrics.attributedRevenueMinor < 2 ^ 64

section Policy

variable {policy : WbAutomationPolicy}

theorem frontier_of_valid (h : validTrafficFrontierPolicy policy = true) :
    (∃ bid, policy.trafficFrontierBidKopecks = some bid) ∧
      ∃ seconds, policy.trafficFrontierFeedbackTimeoutSeconds = some seconds := by
  unfold validTrafficFrontierPolicy at h
  split at h
  · exact ⟨⟨_, ‹_›⟩, _, ‹_›⟩
  · cases h

theorem marginal_of_valid (h : validMarginalFeedbackPolicy policy = true) :
    (∃ n, policy.trafficFrontierMinFeedbackImpressions = some n) ∧
      ∃ n, policy.trafficFrontierMinFeedbackClicks = some n := by
  unfold validMarginalFeedbackPolicy at h
  split at h
  · exact ⟨⟨_, ‹_›⟩, _, ‹_›⟩
  · cases h

theorem frontierPolicy_of_validatePolicy (h : validatePolicy policy = .ok ())
    (hmode : policy.autonomousPacing.usesTrafficFrontier = true) : FrontierPolicy policy := by
  have hbounds := bounds_of_validatePolicy h
  unfold validatePolicy at h
  dsimp only at h
  split_ifs at h with hvalid
  simp only [Bool.not_eq_true', Bool.not_eq_false, Bool.and_eq_true] at hvalid
  obtain ⟨⟨_, hpacing⟩, _⟩ := hvalid
  simp only [validPolicyPacing, hmode, if_true, Bool.and_eq_true, decide_eq_true_eq] at hpacing
  obtain ⟨⟨⟨⟨⟨⟨⟨_, hhard⟩, _⟩, hten⟩, _⟩, hfrontier⟩, hmarginal⟩, _⟩ := hpacing
  obtain ⟨hbid, htimeout⟩ := frontier_of_valid hfrontier
  refine ⟨hbid, htimeout, fun hmarginalMode => ?_, hhard.trans hten, hbounds.reduceClicks_pos⟩
  rw [if_pos hmarginalMode] at hmarginal
  exact marginal_of_valid hmarginal

end Policy

/-! ## Feedback -/

section Feedback

variable {policy : WbAutomationPolicy} {snapshot : WbAutomationSnapshot}
  {baseline : Option WbAutomationSnapshot} {metrics : WbAutomationCampaignMetrics}
  {feedback : TrafficFrontierFeedback}

theorem trafficFeedbackDelta_le {delta : WbAutomationCampaignMetrics}
    (h : trafficFeedbackDelta snapshot metrics baseline = some delta) :
    delta.spendMinor ≤ metrics.spendMinor ∧
      delta.attributedRevenueMinor ≤ metrics.attributedRevenueMinor := by
  unfold trafficFeedbackDelta at h
  split at h
  · cases h
    exact ⟨le_rfl, le_rfl⟩
  split at h
  · cases h
    exact ⟨le_rfl, le_rfl⟩
  split at h
  · cases h
  split at h
  · cases h
  · cases h
    exact ⟨Nat.sub_le _ _, Nat.sub_le _ _⟩

theorem zeroCost_of_zeroCostProbeFor (h : zeroCostProbeFor policy snapshot metrics = .ok true) :
    ZeroCost metrics := by
  unfold zeroCostProbeFor at h
  split at h
  · unfold trafficFrontierZeroCostProbeIsActionable at h
    split at h
    · cases h
    · rename_i hzero
      simp only [not_or, not_not] at hzero
      exact hzero
  · cases h

/-- What the feedback is: the day as a whole, or the delivery since the last change. -/
theorem feedback_cases (h : trafficFrontierFeedback policy snapshot metrics baseline = .ok (some feedback)) :
    (policy.autonomousPacing.usesMarginalFeedback = false ∧ feedback.metrics = metrics) ∨
    (policy.autonomousPacing.usesMarginalFeedback = true ∧
      trafficFeedbackDelta snapshot metrics baseline = some feedback.metrics ∧
      (feedback.zeroCostProbe = true → ZeroCost feedback.metrics)) := by
  unfold trafficFrontierFeedback at h
  split at h
  · rename_i hmode
    simp only [ok_of_bind, ok_of_pure] at h
    obtain ⟨actionable, _, h⟩ := h
    split at h
    · cases h
      exact .inl ⟨hmode, rfl⟩
    · cases h
  · rename_i hmode
    split at h
    · cases h
    · rename_i delta hdelta
      simp only [ok_of_bind, ok_of_pure] at h
      obtain ⟨_, _, _, _, probe, hprobe, h⟩ := h
      split at h
      · cases h
      · cases h
        refine .inr ⟨by simpa using hmode, hdelta, fun hzero => ?_⟩
        have hprobe' : probe = true := hzero
        exact zeroCost_of_zeroCostProbeFor (hprobe' ▸ hprobe)

theorem amountsInRange_of_feedback (hrange : AmountsInRange metrics)
    (h : trafficFrontierFeedback policy snapshot metrics baseline = .ok (some feedback)) :
    AmountsInRange feedback.metrics := by
  obtain ⟨_, hsame⟩ | ⟨_, hdelta, _⟩ := feedback_cases h
  · rw [hsame]
    exact hrange
  · obtain ⟨hspend, hrevenue⟩ := trafficFeedbackDelta_le hdelta
    exact ⟨hspend.trans_lt hrange.1, hrevenue.trans_lt hrange.2⟩

theorem drr_eq_of_revenue {drr : Option ℕ} (h : campaignDrrBasisPoints metrics = .ok drr)
    (hrevenue : metrics.attributedRevenueMinor ≠ 0) :
    drr = some (metrics.spendMinor * 10000 / metrics.attributedRevenueMinor) := by
  rw [campaignDrrBasisPoints, if_neg hrevenue] at h
  simp only [ok_of_bind, context_eq_ok, ok_of_pure] at h
  obtain ⟨scaled, hscaled, value, hvalue, rfl⟩ := h
  obtain ⟨rfl, _⟩ := checkedMul_eq_some.mp hscaled
  obtain ⟨rfl, _⟩ := tryFrom_eq_some.mp hvalue
  rfl

/-- **Marginal feedback funds a raise** only by a probe at no cost or by orders within the target. -/
theorem evidence_of_increaseCalledFor (h : IncreaseCalledFor policy snapshot baseline feedback)
    (hmode : policy.autonomousPacing.usesMarginalFeedback = true) :
    ZeroCost feedback.metrics ∨ Earned policy feedback.metrics := by
  obtain ⟨metrics, drr, _, _, hfeedback, hdrr, _, _, _, hevidence⟩ := h
  obtain ⟨hfalse, _⟩ | ⟨_, _, hprobe⟩ := feedback_cases hfeedback
  · rw [hmode] at hfalse
    cases hfalse
  by_cases hzero : feedback.zeroCostProbe = true
  · exact .inl (hprobe hzero)
  · simp only [hmode, Bool.not_eq_true _ ▸ hzero, true_and, not_or] at hevidence
    obtain ⟨horders, hclicks, hrevenue, htarget⟩ := hevidence
    rw [drr_eq_of_revenue hdrr hrevenue] at htarget
    refine .inr ⟨Nat.pos_of_ne_zero horders, Nat.pos_of_ne_zero hclicks, Nat.pos_of_ne_zero hrevenue, ?_⟩
    simpa using htarget

/-- A raise never rests on orders without clicks: late orders are sorted out by the evidence. -/
theorem clicks_of_increaseCalledFor (h : IncreaseCalledFor policy snapshot baseline feedback)
    (horders : 0 < feedback.metrics.attributedOrders) : 0 < feedback.metrics.clicks := by
  by_cases hmode : policy.autonomousPacing.usesMarginalFeedback = true
  · obtain ⟨_, _, hnone, _⟩ | ⟨_, hclicks, _⟩ := evidence_of_increaseCalledFor h hmode
    · omega
    · exact hclicks
  · obtain ⟨metrics, _, _, hconsistent, hfeedback, _⟩ := h
    obtain ⟨_, hsame⟩ | ⟨htrue, _⟩ := feedback_cases hfeedback
    · have hle := hconsistent.2.1
      rw [hsame] at horders ⊢
      omega
    · exact absurd htrue hmode

end Feedback

/-! ## The price of a click -/

section Price

variable {policy : WbAutomationPolicy} {snapshot : WbAutomationSnapshot}
  {metrics : WbAutomationCampaignMetrics}

theorem economicCap_paid {cap : ℕ} (h : economicCap policy metrics = .ok cap)
    (horders : 0 < metrics.attributedOrders) :
    cap * metrics.clicks * 10000 ≤ metrics.attributedRevenueMinor * policy.targetDrrBasisPoints := by
  rw [economicCap, if_neg (by omega)] at h
  simp only [ok_of_bind, context_eq_ok] at h
  obtain ⟨scaled, hscaled, perClick, hperClick, hcap⟩ := h
  obtain ⟨rfl, _⟩ := checkedMul_eq_some.mp hscaled
  obtain ⟨rfl, _⟩ := tryFrom_eq_some.mp hcap
  unfold checkedDiv at hperClick
  split_ifs at hperClick
  rw [Option.some.injEq] at hperClick
  subst hperClick
  have hclicks := Nat.div_mul_le_self
    (metrics.attributedRevenueMinor * policy.targetDrrBasisPoints / basisPoints) metrics.clicks
  exact (Nat.mul_le_mul_right 10000 hclicks).trans (Nat.div_mul_le_self _ 10000)

theorem economicCap_isOk (hp : FrontierPolicy policy) (hrange : AmountsInRange metrics)
    (hclicks : 0 < metrics.attributedOrders → 0 < metrics.clicks) :
    ∃ cap, economicCap policy metrics = .ok cap := by
  unfold economicCap
  split
  · have hbudget := hp.reduceClicks_pos
    exact ⟨_, by rw [checkedDiv, if_neg (by omega)]; rfl⟩
  · rename_i horders
    have hpos := hclicks (Nat.pos_of_ne_zero horders)
    have hrevenue := hrange.2
    -- the target is at most the whole revenue, so neither product nor quotient grows out of range
    have hscaled : metrics.attributedRevenueMinor * policy.targetDrrBasisPoints ≤
        metrics.attributedRevenueMinor * 10000 := Nat.mul_le_mul_left _ hp.target_le
    have hallowed : metrics.attributedRevenueMinor * policy.targetDrrBasisPoints / basisPoints ≤
        metrics.attributedRevenueMinor := by
      rw [basisPoints]
      omega
    have hperClick := (Nat.div_le_self _ metrics.clicks).trans hallowed
    have hmul : checkedMul 128 metrics.attributedRevenueMinor policy.targetDrrBasisPoints =
        some (metrics.attributedRevenueMinor * policy.targetDrrBasisPoints) :=
      checkedMul_eq_some.mpr ⟨rfl, by omega⟩
    refine ⟨metrics.attributedRevenueMinor * policy.targetDrrBasisPoints / basisPoints / metrics.clicks, ?_⟩
    simp only [ok_of_bind, context_eq_ok]
    refine ⟨_, hmul, _, by rw [checkedDiv, if_neg (by omega)], tryFrom_eq_some.mpr ⟨rfl, ?_⟩⟩
    exact hperClick.trans_lt hrevenue

theorem trafficFrontierDynamicCap_spec {cap : ℕ}
    (h : trafficFrontierDynamicCap policy snapshot metrics = .ok cap) :
    cap ≤ min policy.maxBidKopecks (policy.dailyPauseThresholdMinor - snapshot.observation.dailySpendMinor) ∧
      (0 < metrics.attributedOrders → cap * metrics.clicks * 10000 ≤
        metrics.attributedRevenueMinor * policy.targetDrrBasisPoints) := by
  simp only [trafficFrontierDynamicCap, ok_of_map] at h
  obtain ⟨economic, heconomic, rfl⟩ := h
  refine ⟨min_le_left _ _, fun horders => ?_⟩
  refine le_trans ?_ (economicCap_paid heconomic horders)
  gcongr
  exact min_le_right _ _

/-- **A frontier raise is funded** by the feedback it is computed from. -/
theorem frontierIncrease_funded {decision : WbAutomationDecision}
    (h : trafficFrontierIncreaseDecision policy snapshot metrics = .ok (some decision)) :
    ∃ change, decision.action = changeBids [change] ∧ FundedRaise policy snapshot metrics change := by
  simp only [trafficFrontierIncreaseDecision, ok_of_bind, context_eq_ok] at h
  obtain ⟨frontier, _, cap, hcap, h⟩ := h
  obtain ⟨hcaps, hpaid⟩ := trafficFrontierDynamicCap_spec hcap
  -- whatever the step, it ends at most at the cap and above the present bid
  have hfunded : ∀ sku ∈ snapshot.observation.skus, ∀ value reason, sku.currentBidKopecks < min value cap →
      FundedRaise policy snapshot metrics ⟨sku.nmId, sku.currentBidKopecks, min value cap, reason⟩ := by
    intro sku hs value reason hlt
    refine ⟨⟨sku, hs, rfl, rfl, hlt⟩, (min_le_right _ _).trans hcaps, fun horders => ?_⟩
    refine le_trans ?_ (hpaid horders)
    gcongr
    exact min_le_right _ _
  split at h
  · cases h
  split at h
  · cases h
  rename_i sku hselected
  have hmem := List.mem_filter.mp (minByKey_mem hselected)
  simp only [decide_eq_true_eq] at hmem
  obtain ⟨hs, _, hcurrent, hfloor⟩ := hmem
  have hmax := hcaps.trans (min_le_left _ _)
  split at h
  · cases h
    exact ⟨_, rfl, hfunded sku hs _ _ (by omega)⟩
  · simp only [ok_of_bind, ok_of_mapError] at h
    obtain ⟨raised, hraised, h⟩ := h
    cases h
    have hspec := (increaseBid_spec hraised (hfloor.trans hmax)).2.2 (by omega)
    exact ⟨_, rfl, hfunded sku hs _ _ (lt_min hspec hcurrent)⟩

end Price

/-! ## Failures -/

section Failures

variable {policy : WbAutomationPolicy} {snapshot : WbAutomationSnapshot}
  {baseline : Option WbAutomationSnapshot} {metrics : WbAutomationCampaignMetrics}

/-- The messages that frontier pacing can still fail with under an accepted policy. -/
def pacingFailures : List String :=
  ["WB traffic-frontier current campaign metrics are inconsistent",
    "WB traffic-frontier DRR is out of range", WbAutomationDecisionError.overflow.message]

theorem trafficFrontierFeedback_isOk (hp : FrontierPolicy policy) :
    ∃ feedback, trafficFrontierFeedback policy snapshot metrics baseline = .ok feedback := by
  obtain ⟨timeout, htimeout⟩ := hp.timeout
  unfold trafficFrontierFeedback
  split
  · have hactionable : ∃ actionable, trafficFrontierV2FeedbackIsActionable policy snapshot metrics
        baseline = .ok actionable := by
      unfold trafficFrontierV2FeedbackIsActionable
      rw [htimeout]
      split
      · exact ⟨_, rfl⟩
      · dsimp only [context, bind, Except.bind]
        split
        · exact ⟨_, rfl⟩
        · repeat' split
          all_goals exact ⟨_, rfl⟩
    obtain ⟨actionable, hactionable⟩ := hactionable
    rw [hactionable]
    exact ⟨_, rfl⟩
  · rename_i hmode
    obtain ⟨⟨impressions, himpressions⟩, clicks, hclicks⟩ := hp.marginal (by simpa using hmode)
    split
    · exact ⟨_, rfl⟩
    · rename_i delta _
      have hprobe : ∃ probe, zeroCostProbeFor policy snapshot delta = .ok probe := by
        unfold zeroCostProbeFor trafficFrontierZeroCostProbeIsActionable
        rw [htimeout]
        repeat' split
        all_goals exact ⟨_, rfl⟩
      obtain ⟨probe, hprobe⟩ := hprobe
      rw [himpressions, hclicks, hprobe]
      exact ⟨_, rfl⟩

theorem trafficFrontierDecreaseReason_isOk (hp : FrontierPolicy policy) (drr : Option ℕ) (overPace : Bool) :
    ∃ reason, trafficFrontierDecreaseReason policy metrics drr overPace = .ok reason := by
  have hclicks : ∃ clicks, noOrderClicks policy = .ok clicks := by
    unfold noOrderClicks
    split
    · rename_i hmode
      obtain ⟨_, clicks, hclicks⟩ := hp.marginal hmode
      exact ⟨clicks, by rw [hclicks]; rfl⟩
    · exact ⟨_, rfl⟩
  obtain ⟨clicks, hclicks⟩ := hclicks
  unfold trafficFrontierDecreaseReason
  rw [hclicks]
  dsimp only [bind, Except.bind]
  repeat' split
  all_goals exact ⟨_, rfl⟩

theorem campaignDrr_error {message : String} (hrange : AmountsInRange metrics)
    (h : campaignDrrBasisPoints metrics = .error message) :
    message = "WB traffic-frontier DRR is out of range" := by
  by_cases hrevenue : metrics.attributedRevenueMinor = 0
  · rw [campaignDrrBasisPoints, if_pos hrevenue] at h
    cases h
  · rw [campaignDrrBasisPoints_eq (Nat.pos_of_ne_zero hrevenue) hrange.1] at h
    cases hratio : roundedRatio metrics.spendMinor metrics.attributedRevenueMinor with
    | none =>
      rw [hratio] at h
      cases h
      rfl
    | some value =>
      rw [hratio] at h
      cases h

theorem increaseBid_error {current minimum : ℕ} {e : WbAutomationDecisionError}
    (h : increaseBid policy current minimum = .error e) : e = .overflow := by
  unfold increaseBid at h
  split at h
  · cases h
    rfl
  · split at h <;> cases h
    rfl

theorem frontierIncrease_error {message : String} (hp : FrontierPolicy policy) (hrange : AmountsInRange metrics)
    (hclicks : 0 < metrics.attributedOrders → 0 < metrics.clicks)
    (h : trafficFrontierIncreaseDecision policy snapshot metrics = .error message) :
    message = WbAutomationDecisionError.overflow.message := by
  obtain ⟨frontier, hfrontier⟩ := hp.frontier
  obtain ⟨cap, hcap⟩ := economicCap_isOk hp hrange hclicks
  simp only [trafficFrontierIncreaseDecision, hfrontier, context, trafficFrontierDynamicCap, hcap, Except.map,
    bind, Except.bind] at h
  split at h
  · cases h
  split at h
  · cases h
  split at h
  · cases h
  rename_i sku _ _
  cases hraised : increaseBid policy sku.currentBidKopecks (effectiveMinimumBid policy sku) with
  | ok raised =>
    rw [hraised] at h
    cases h
  | error e =>
    rw [hraised] at h
    cases h
    rw [increaseBid_error hraised]

/-- **What is left to fail** under an accepted policy. -/
theorem pacing_error {message : String} (hp : FrontierPolicy policy)
    (hrange : ∀ metrics ∈ snapshot.observation.currentCampaignMetrics, AmountsInRange metrics)
    (h : trafficFrontierPacingDecision policy snapshot baseline = .error message) :
    message ∈ pacingFailures := by
  unfold trafficFrontierPacingDecision at h
  split at h
  · cases h
  split at h
  · cases h
  rename_i metrics hmetrics
  obtain ⟨hensure, rfl⟩ | ⟨_, hensure, h⟩ := (bind_eq_error.mp h).imp_left ensure_eq_error.mp
  · simp [pacingFailures]
  rw [ensure_eq_ok] at hensure
  obtain hfailed | ⟨feedback, hfeedback, h⟩ := bind_eq_error.mp h
  · obtain ⟨feedback, hfeedback⟩ := @trafficFrontierFeedback_isOk policy snapshot baseline metrics hp
    rw [hfeedback] at hfailed
    cases hfailed
  cases feedback with
  | none => cases h
  | some feedback =>
    have hfeedbackRange := amountsInRange_of_feedback (hrange metrics hmetrics) hfeedback
    obtain hdrr | ⟨drr, hdrr, h⟩ := bind_eq_error.mp h
    · rw [campaignDrr_error hfeedbackRange hdrr]
      simp [pacingFailures]
    obtain hfailed | ⟨reason, hreason, h⟩ := bind_eq_error.mp h
    · obtain ⟨reason, hreason⟩ := @trafficFrontierDecreaseReason_isOk policy feedback.metrics hp drr
        (spendOverPace policy snapshot.observation.observedAt metrics)
      rw [hreason] at hfailed
      cases hfailed
    cases reason with
    | some reason => cases h
    | none =>
      dsimp only at h
      split at h
      · cases h
      rename_i horders
      split at h
      · cases h
      rename_i hpace
      split at h
      · cases h
      rename_i hevidence
      have hcalled : IncreaseCalledFor policy snapshot baseline feedback :=
        ⟨metrics, drr, hmetrics, hensure, hfeedback, hdrr, hreason, horders, hpace, hevidence⟩
      rw [frontierIncrease_error hp hfeedbackRange (clicks_of_increaseCalledFor hcalled) h]
      simp [pacingFailures]

end Failures

/-! ## The law -/

section Law

variable {policy : WbAutomationPolicy} {snapshot : WbAutomationSnapshot}

theorem decreaseReason_not_raise {metrics : WbAutomationCampaignMetrics} {drr : Option ℕ} {overPace : Bool}
    {reason : WbAutomationBidReason}
    (h : trafficFrontierDecreaseReason policy metrics drr overPace = .ok (some reason)) :
    reason ≠ .trafficFrontierBootstrap ∧ reason ≠ .trafficFrontierIncrease := by
  simp only [trafficFrontierDecreaseReason, ok_of_bind] at h
  obtain ⟨clicks, _, h⟩ := h
  split at h
  · cases h
    simp
  split at h
  · split at h <;> cases h <;> simp
  · split at h <;> cases h
    simp

/-- **Every frontier raise is funded by its feedback**, and neither the price of a click nor the clicks it is
divided by can be missing. -/
theorem frontier_raise_law (hpolicy : validatePolicy policy = .ok ())
    (hmode : policy.autonomousPacing.usesTrafficFrontier = true)
    (hrange : ∀ metrics ∈ snapshot.observation.currentCampaignMetrics,
      metrics.spendMinor < 2 ^ 64 ∧ metrics.attributedRevenueMinor < 2 ^ 64)
    (baseline : Option WbAutomationSnapshot) :
    (∀ decision changes, trafficFrontierPacingDecision policy snapshot baseline = .ok (some decision) →
      decision.action = changeBids changes → ∀ change ∈ changes,
      change.reason = .trafficFrontierBootstrap ∨ change.reason = .trafficFrontierIncrease →
      ∃ metrics feedback, snapshot.observation.currentCampaignMetrics = some metrics ∧
        trafficFrontierFeedback policy snapshot metrics baseline = .ok (some feedback) ∧
        FundedRaise policy snapshot feedback.metrics change ∧
        (policy.autonomousPacing.usesMarginalFeedback = true →
          ZeroCost feedback.metrics ∨ Earned policy feedback.metrics)) ∧
    trafficFrontierPacingDecision policy snapshot baseline ≠
      .error "WB traffic-frontier feedback has attributed orders without clicks" ∧
    trafficFrontierPacingDecision policy snapshot baseline ≠
      .error "WB traffic-frontier economic cap is out of range" := by
  have hp := frontierPolicy_of_validatePolicy hpolicy hmode
  refine ⟨fun decision changes hpacing hchanges change hmem hreason => ?_, fun h => ?_, fun h => ?_⟩
  · obtain ⟨_, hhold⟩ | ⟨reason, hcalled, hcut⟩ | ⟨feedback, hcalled, hraise⟩ := pacing_cases hpacing
    · rw [hhold] at hchanges
      cases hchanges
    · obtain ⟨sku, _, _, haction⟩ := frontierDecrease_spec hcut
      rw [haction] at hchanges
      cases hchanges
      rw [List.mem_singleton.mp hmem] at hreason
      obtain ⟨_, _, _, _, _, _, _, hcalled⟩ := hcalled
      exact absurd hreason (not_or.mpr (decreaseReason_not_raise hcalled))
    · obtain ⟨raised, haction, hfunded⟩ := frontierIncrease_funded hraise
      rw [haction] at hchanges
      cases hchanges
      rw [List.mem_singleton.mp hmem]
      have hevidence := evidence_of_increaseCalledFor hcalled
      obtain ⟨metrics, _, hmetrics, _, hfeedback, _⟩ := hcalled
      exact ⟨metrics, feedback, hmetrics, hfeedback, hfunded, hevidence⟩
  · exact absurd (pacing_error hp hrange h) (by decide)
  · exact absurd (pacing_error hp hrange h) (by decide)

end Law

/-- Noon with three orders in the feedback and both bids below the entry bid of 700 kopecks. -/
def cheapSnapshot : WbAutomationSnapshot where
  observation :=
    { observedAt := seconds 43200
      campaignStatus := 9
      pausedByAutomation := false
      budgetRemainingMinor := 100000
      dailySpendMinor := 5000
      dailySpendComplete := true
      actionsToday := 0
      lastActionAt := none
      attributionComplete := false
      campaignLevelMetrics := none
      currentCampaignMetrics := some ⟨300, 20, 5000, 2, 200000⟩
      skus := [⟨449627598, 102, 300, 10, 0, 0, 0, 0, 0⟩, ⟨449627015, 102, 200, 10, 0, 0, 0, 0, 0⟩] }
  decision := ⟨"wb_account", 39682633, seconds 43200, hold .attributionIncomplete, []⟩

/-- The lower bid is brought to the entry bid, which twenty clicks can pay for. -/
theorem frontier_raise_law_bootstrap : ∃ feedback : WbAutomationCampaignMetrics,
    FundedRaise robotPolicy cheapSnapshot feedback ⟨449627015, 200, 700, .trafficFrontierBootstrap⟩ ∧
      Earned robotPolicy feedback := by
  have hvalid : validatePolicy robotPolicy = .ok () := rfl
  have hlaw := @frontier_raise_law robotPolicy cheapSnapshot hvalid rfl
    (by rintro metrics ⟨⟩; decide) none
  have hpacing : trafficFrontierPacingDecision robotPolicy cheapSnapshot none =
      .ok (some (trafficFrontierChange robotPolicy cheapSnapshot 449627015 200 700 .trafficFrontierBootstrap)) := by
    decide +kernel
  obtain ⟨metrics, feedback, hmetrics, hfeedback, hfunded, hevidence⟩ := hlaw.1 _ _ hpacing rfl
    ⟨449627015, 200, 700, .trafficFrontierBootstrap⟩ List.mem_cons_self (.inl rfl)
  cases hmetrics
  cases hfeedback
  refine ⟨_, hfunded, ?_⟩
  exact (hevidence rfl).resolve_left fun hzero => absurd hzero.1 (by decide)

end AdsControl.Wb
