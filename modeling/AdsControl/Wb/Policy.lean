import AdsControl.Calendar
import AdsControl.Text
import AdsControl.Lib.Machine

/-!
# The WB advertising policy and its validation

* `WbAutomationPolicy`, `WbAutomationObservation` and the decision types, field for field;
* `validatePolicy`, `validateObservation`: the two checks that precede every decision;
* `PolicyBounds`, `ObservedBy`: what an accepted policy and an accepted observation satisfy
  (**`bounds_of_validatePolicy`**, **`observedBy_of_validateObservation`**).
-/

namespace AdsControl.Wb

/-! ## Data model -/

/-- Automatic pacing. -/
inductive WbAutomationPacingMode
  | disabled
  | enabled
  | trafficFrontierV2
  | trafficFrontierV3
  | trafficFrontierV4
  deriving DecidableEq

namespace WbAutomationPacingMode

/-- Bids are paced. -/
def isEnabled : WbAutomationPacingMode → Bool
  | disabled => false
  | _ => true

/-- Bids are paced up to a frontier. -/
def usesTrafficFrontier : WbAutomationPacingMode → Bool
  | trafficFrontierV2 | trafficFrontierV3 | trafficFrontierV4 => true
  | _ => false

/-- The traffic since the last change decides. -/
def usesMarginalFeedback : WbAutomationPacingMode → Bool
  | trafficFrontierV3 | trafficFrontierV4 => true
  | _ => false

/-- A change without traffic may count as a probe. -/
def allowsZeroCostProbe : WbAutomationPacingMode → Bool
  | trafficFrontierV4 => true
  | _ => false

end WbAutomationPacingMode

/-- The reviewed policy of one campaign. Amounts are kopecks, ratios basis points. -/
structure WbAutomationPolicy where
  policyVersion : String
  writeEnabled : Bool
  bidWritesEnabled : Bool
  accountId : String
  campaignId : ℕ
  campaignName : String
  paymentType : String
  placement : String
  expectedRecommendationBidKopecks : Option ℕ
  timezone : String
  authorizedByActorId : String
  authorizationReference : String
  authorizedAt : ℤ
  authorizationExpiresAt : ℤ
  nmIds : List ℕ
  targetDrrBasisPoints : ℕ
  hardDrrBasisPoints : ℕ
  targetImpressionsPerDay : ℕ
  targetOrdersPerDay : ℕ
  autonomousPacing : WbAutomationPacingMode
  trafficFrontierBidKopecks : Option ℕ
  trafficFrontierFeedbackTimeoutSeconds : Option ℕ
  trafficFrontierMinFeedbackImpressions : Option ℕ
  trafficFrontierMinFeedbackClicks : Option ℕ
  minBidKopecks : ℕ
  maxBidKopecks : ℕ
  bidStepPercent : ℕ
  dailySpendCapMinor : ℕ
  dailyPauseThresholdMinor : ℕ
  maxActionsPerDay : ℕ
  cooldownSeconds : ℕ
  minSellableStock : ℕ
  noOrderReduceClicks : ℕ
  noOrderDisableClicks : ℕ
  noOrderDisableSpendMinor : ℕ
  efficientMinOrders : ℕ
  efficientMinConversionBasisPoints : ℕ
  lowExposureMaxImpressions : ℕ
  lowExposureMaxClicks : ℕ
  observeUntil : ℤ
  allowBudgetTopUp : Bool

/-- Campaign totals of one business day. -/
structure WbAutomationCampaignMetrics where
  impressions : ℕ
  clicks : ℕ
  spendMinor : ℕ
  attributedOrders : ℕ
  attributedRevenueMinor : ℕ
  deriving DecidableEq

/-- One SKU as observed; `minimumBidKopecks` is the floor the vendor enforces. -/
structure WbAutomationSkuObservation where
  nmId : ℕ
  minimumBidKopecks : ℕ
  currentBidKopecks : ℕ
  sellableStock : ℕ
  impressions : ℕ
  clicks : ℕ
  spendMinor : ℕ
  attributedOrders : ℕ
  attributedRevenueMinor : ℕ
  deriving DecidableEq

/-- What a cycle observes of a campaign. -/
structure WbAutomationObservation where
  observedAt : ℤ
  campaignStatus : ℤ
  pausedByAutomation : Bool
  budgetRemainingMinor : ℕ
  dailySpendMinor : ℕ
  dailySpendComplete : Bool
  actionsToday : ℕ
  lastActionAt : Option ℤ
  attributionComplete : Bool
  campaignLevelMetrics : Option WbAutomationCampaignMetrics
  currentCampaignMetrics : Option WbAutomationCampaignMetrics
  skus : List WbAutomationSkuObservation
  deriving DecidableEq

/-- Why nothing is done. -/
inductive WbAutomationHoldReason
  | authorizationNotActive
  | authorizationExpired
  | policyShadowOnly
  | bidWritesDisabled
  | observeOnly
  | attributionIncomplete
  | campaignNotActive
  | protectivePauseRequiresApproval
  | spendDataIncomplete
  | budgetExhausted
  | actionQuotaExhausted
  | cooldownActive
  | trafficFeedbackPending
  | noMaterialChange
  deriving DecidableEq

/-- Why a bid changes. -/
inductive WbAutomationBidReason
  | policyMaximumExceeded
  | policyMinimumNotMet
  | targetDrrExceeded
  | noOrdersAfterClicks
  | efficientSales
  | lowExposureExploration
  | explicitExposureTarget
  | autonomousExposurePacing
  | trafficFrontierBootstrap
  | trafficFrontierIncrease
  | trafficFrontierRetentionDecrease
  | lowStockGuard
  | noOrdersHardStop
  | hardDrrExceeded
  deriving DecidableEq

/-- A bid and the one that replaces it. -/
structure WbAutomationBidChange where
  nmId : ℕ
  fromBidKopecks : ℕ
  toBidKopecks : ℕ
  reason : WbAutomationBidReason
  deriving DecidableEq

/-- Why a product is stopped. -/
inductive WbAutomationDisableReason
  | lowStock
  | noOrdersHardStop
  | hardDrrExceeded
  deriving DecidableEq

/-- A SKU under a hard stop whose bid already sits at its floor. -/
structure WbAutomationSkuStop where
  nmId : ℕ
  reason : WbAutomationDisableReason
  deriving DecidableEq

/-- What a cycle decides. -/
inductive WbAutomationAction
  | hold (reason : WbAutomationHoldReason)
  | changeBids (changes : List WbAutomationBidChange)
  | disableSku (nmId : ℕ) (reason : WbAutomationDisableReason)
  | pauseCampaignForDailyCap
  | resumeCampaignAfterDailyCap
  deriving DecidableEq

/-- A decision for one campaign. -/
structure WbAutomationDecision where
  accountId : String
  campaignId : ℕ
  observedAt : ℤ
  action : WbAutomationAction
  unresolvedStops : List WbAutomationSkuStop
  deriving DecidableEq

/-- Why no decision is made. -/
inductive WbAutomationDecisionError
  | invalidPolicy
  | invalidObservation
  | overflow
  deriving DecidableEq

/-- Validated observations keyed by SKU. -/
abbrev SkuMap := Std.TreeMap ℕ WbAutomationSkuObservation

/-- The floor a bid of this SKU may not go below. -/
def effectiveMinimumBid (policy : WbAutomationPolicy) (sku : WbAutomationSkuObservation) : ℕ :=
  max policy.minBidKopecks sku.minimumBidKopecks

/-! ## Policy validation -/

/-- The characters of an identifier. -/
def validIdentifier (s : String) : Bool := asciiWord ['_', '-'] s

/-- The campaign of a policy. -/
def validPolicyIdentity (policy : WbAutomationPolicy) : Bool :=
  let campaignNameValid := !policy.campaignName.isEmpty &&
    decide (policy.campaignName.utf8ByteSize ≤ 128) &&
    trim policy.campaignName == policy.campaignName.toList &&
    !policy.campaignName.toList.any isControl
  policy.policyVersion == "wb_ads_robot.v1" &&
    policy.paymentType == "cpc" &&
    policy.placement == "search" &&
    policy.expectedRecommendationBidKopecks.all (fun bid => 0 < bid && bid < 2 ^ 63) &&
    policy.timezone == "Europe/Moscow" &&
    validIdentifier policy.accountId &&
    campaignNameValid &&
    policy.campaignId != 0

/-- Who authorized a policy. -/
def validPolicyAuthorization (policy : WbAutomationPolicy) : Bool :=
  validIdentifier policy.authorizedByActorId &&
    asciiWord ['_', '-', '/', '.'] policy.authorizationReference &&
    decide (policy.authorizedAt < policy.observeUntil) &&
    decide (policy.observeUntil < policy.authorizationExpiresAt)

/-- The products of a policy. -/
def validPolicyTargets (policy : WbAutomationPolicy) (nmIds : Finset ℕ) : Bool :=
  !policy.nmIds.isEmpty && decide (policy.nmIds.length ≤ 50) &&
    nmIds.card == policy.nmIds.length && !decide (0 ∈ nmIds)

/-- The frontier of a policy. -/
def validTrafficFrontierPolicy (policy : WbAutomationPolicy) : Bool :=
  match policy.trafficFrontierBidKopecks, policy.trafficFrontierFeedbackTimeoutSeconds with
  | some frontier, some feedbackTimeout =>
    let headroom := policy.dailySpendCapMinor - policy.dailyPauseThresholdMinor
    let floor := policy.minBidKopecks
    (decide (floor < frontier) ||
        (frontier == floor && policy.autonomousPacing.allowsZeroCostProbe)) &&
      decide (frontier ≤ policy.maxBidKopecks) &&
      decide (policy.maxBidKopecks ≤ headroom) &&
      decide (policy.cooldownSeconds ≤ feedbackTimeout) &&
      decide (feedbackTimeout ≤ 86400)
  | _, _ => false

/-- The bounds of its feedback. -/
def validMarginalFeedbackPolicy (policy : WbAutomationPolicy) : Bool :=
  match policy.trafficFrontierMinFeedbackImpressions, policy.trafficFrontierMinFeedbackClicks with
  | some minImpressions, some minClicks =>
    decide (100 ≤ minImpressions ∧ minImpressions ≤ 10000) &&
      decide (5 ≤ minClicks ∧ minClicks ≤ 100) &&
      decide (minClicks ≤ minImpressions) &&
      decide (1300 ≤ policy.targetImpressionsPerDay ∧ policy.targetImpressionsPerDay ≤ 1600) &&
      decide (3 ≤ policy.targetOrdersPerDay ∧ policy.targetOrdersPerDay ≤ 4) &&
      decide (9 ≤ policy.maxActionsPerDay ∧ policy.maxActionsPerDay ≤ 48) &&
      decide (1800 ≤ policy.cooldownSeconds ∧ policy.cooldownSeconds ≤ 3600)
  | _, _ => false

/-- The shares and the pacing of a policy. -/
def validPolicyPacing (policy : WbAutomationPolicy) : Bool :=
  let drrValid := decide (0 < policy.targetDrrBasisPoints) &&
    decide (policy.targetDrrBasisPoints ≤ policy.hardDrrBasisPoints) &&
    (policy.hardDrrBasisPoints != policy.targetDrrBasisPoints ||
      policy.autonomousPacing.allowsZeroCostProbe) &&
    decide (policy.hardDrrBasisPoints ≤ 10000)
  let frontierFieldsAbsent := policy.trafficFrontierBidKopecks.isNone &&
    policy.trafficFrontierFeedbackTimeoutSeconds.isNone &&
    policy.trafficFrontierMinFeedbackImpressions.isNone &&
    policy.trafficFrontierMinFeedbackClicks.isNone
  let frontierValid := if policy.autonomousPacing.usesTrafficFrontier then
    validTrafficFrontierPolicy policy else frontierFieldsAbsent
  let marginalValid := if policy.autonomousPacing.usesMarginalFeedback then
    validMarginalFeedbackPolicy policy else policy.targetOrdersPerDay == 0
  let v2Valid := policy.autonomousPacing != .trafficFrontierV2 ||
    (policy.trafficFrontierMinFeedbackImpressions.isNone &&
      policy.trafficFrontierMinFeedbackClicks.isNone)
  drrValid && decide (0 < policy.targetImpressionsPerDay) && frontierValid && marginalValid &&
    v2Valid

/-- The bids and limits of a policy. -/
def validPolicyActionLimits (policy : WbAutomationPolicy) : Bool :=
  decide (0 < policy.minBidKopecks) &&
    decide (policy.minBidKopecks ≤ policy.maxBidKopecks) &&
    decide (1 ≤ policy.bidStepPercent ∧ policy.bidStepPercent ≤ 25) &&
    decide (0 < policy.dailySpendCapMinor) &&
    decide (0 < policy.dailyPauseThresholdMinor) &&
    decide (policy.dailyPauseThresholdMinor ≤ policy.dailySpendCapMinor) &&
    decide (1 ≤ policy.maxActionsPerDay ∧ policy.maxActionsPerDay ≤ 50) &&
    decide (300 ≤ policy.cooldownSeconds ∧ policy.cooldownSeconds ≤ 86400) &&
    decide (0 < policy.noOrderReduceClicks) &&
    decide (policy.noOrderReduceClicks < policy.noOrderDisableClicks) &&
    decide (0 < policy.noOrderDisableSpendMinor) &&
    decide (0 < policy.efficientMinOrders) &&
    decide (1 ≤ policy.efficientMinConversionBasisPoints ∧
      policy.efficientMinConversionBasisPoints ≤ 10000) &&
    decide (0 < policy.lowExposureMaxImpressions) &&
    decide (0 < policy.lowExposureMaxClicks) &&
    !policy.allowBudgetTopUp &&
    (!policy.bidWritesEnabled || policy.writeEnabled)

/-- Everything a policy has to satisfy. -/
def validatePolicy (policy : WbAutomationPolicy) : Except WbAutomationDecisionError Unit :=
  let nmIds := policy.nmIds.toFinset
  if !(validPolicyIdentity policy && validPolicyAuthorization policy &&
      validPolicyTargets policy nmIds && validPolicyPacing policy &&
      validPolicyActionLimits policy) then .error .invalidPolicy
  else .ok ()

/-! ## Observation validation -/

/-- Index the observed SKUs, rejecting a malformed or repeated row. -/
def insertSkus (policy : WbAutomationPolicy) :
    List WbAutomationSkuObservation → SkuMap → Except WbAutomationDecisionError SkuMap
  | [], observations => .ok observations
  | sku :: rest, observations =>
    let vendorMinimumValid :=
      decide (1 ≤ sku.minimumBidKopecks ∧ sku.minimumBidKopecks ≤ policy.maxBidKopecks)
    if sku.nmId = 0 ∨ vendorMinimumValid = false ∨ sku.currentBidKopecks = 0 ∨
        sku.impressions < sku.clicks ∨ observations.contains sku.nmId then
      .error .invalidObservation
    else insertSkus policy rest (observations.insert sku.nmId sku)

/-- The observed products by their ids, when the observation is sound. -/
def validateObservation (policy : WbAutomationPolicy) (observation : WbAutomationObservation) :
    Except WbAutomationDecisionError SkuMap :=
  if observation.lastActionAt.any (fun lastAction => observation.observedAt < lastAction) ||
      (observation.attributionComplete && observation.campaignLevelMetrics.isSome) ||
      [observation.campaignLevelMetrics, observation.currentCampaignMetrics].any
        (fun metrics => metrics.any fun m => m.impressions < m.clicks) then
    .error .invalidObservation
  else
    match insertSkus policy observation.skus ∅ with
    | .error e => .error e
    | .ok observations =>
      if policy.nmIds.toFinset ≠ observations.keys.toFinset then .error .invalidObservation
      else .ok observations

/-! ## What validation guarantees -/

/-- The bounds an accepted policy satisfies. -/
structure PolicyBounds (policy : WbAutomationPolicy) : Prop where
  min_le_max : policy.minBidKopecks ≤ policy.maxBidKopecks
  step_le : policy.bidStepPercent ≤ 25
  threshold_le_cap : policy.dailyPauseThresholdMinor ≤ policy.dailySpendCapMinor
  maxActions_pos : 1 ≤ policy.maxActionsPerDay
  maxActions_le : policy.maxActionsPerDay ≤ 50
  reduceClicks_pos : 0 < policy.noOrderReduceClicks
  observe_lt_expires : policy.observeUntil < policy.authorizationExpiresAt
  authorized_lt_observe : policy.authorizedAt < policy.observeUntil
  writes_of_bidWrites : policy.bidWritesEnabled = true → policy.writeEnabled = true

/-- **An accepted policy has consistent bounds.** -/
theorem bounds_of_validatePolicy {policy : WbAutomationPolicy} (h : validatePolicy policy = .ok ()) :
    PolicyBounds policy := by
  unfold validatePolicy at h
  dsimp only at h
  split_ifs at h with hv
  simp only [Bool.not_eq_true', Bool.not_eq_false, Bool.and_eq_true] at hv
  obtain ⟨⟨⟨⟨-, hauth⟩, -⟩, -⟩, hlim⟩ := hv
  simp only [validPolicyAuthorization, Bool.and_eq_true, decide_eq_true_eq] at hauth
  simp only [validPolicyActionLimits, Bool.and_eq_true, decide_eq_true_eq] at hlim
  obtain ⟨⟨⟨⟨⟨⟨⟨⟨⟨⟨⟨⟨⟨⟨⟨⟨-, hmm⟩, hstep⟩, -⟩, -⟩, hcap⟩, hact⟩, -⟩, hclk⟩, -⟩, -⟩, -⟩, -⟩, -⟩,
    -⟩, -⟩, hw⟩ := hlim
  refine ⟨hmm, hstep.2, hcap, hact.1, hact.2, hclk, hauth.2, hauth.1.2, fun hb => ?_⟩
  simpa [hb] using hw

/-- `observations` indexes exactly the SKUs of an accepted observation. -/
structure ObservedBy (policy : WbAutomationPolicy) (observation : WbAutomationObservation)
    (observations : SkuMap) : Prop where
  get_iff : ∀ id sku, observations[id]? = some sku ↔ sku ∈ observation.skus ∧ sku.nmId = id
  vendor_le_max : ∀ sku ∈ observation.skus, sku.minimumBidKopecks ≤ policy.maxBidKopecks
  mem_nmIds_iff : ∀ id, id ∈ policy.nmIds ↔ id ∈ observations
  lastAction_le : ∀ t, observation.lastActionAt = some t → t ≤ observation.observedAt

theorem insertSkus_spec {policy : WbAutomationPolicy} {l : List WbAutomationSkuObservation}
    {m m' : SkuMap} (h : insertSkus policy l m = .ok m') :
    (∀ id sku, m'[id]? = some sku ↔ m[id]? = some sku ∨ (sku ∈ l ∧ sku.nmId = id)) ∧
      ∀ sku ∈ l, sku.minimumBidKopecks ≤ policy.maxBidKopecks := by
  induction l generalizing m with
  | nil =>
    simp only [insertSkus, Except.ok.injEq] at h
    simp [h]
  | cons x l ih =>
    simp only [insertSkus] at h
    split_ifs at h with hx
    simp only [not_or, Bool.not_eq_false, decide_eq_true_eq, Bool.not_eq_true] at hx
    obtain ⟨-, hmin, -, -, hfresh⟩ := hx
    obtain ⟨hget, hle⟩ := ih h
    refine ⟨fun id sku => ?_, ?_⟩
    · rw [hget, Std.TreeMap.getElem?_insert]
      split_ifs with hid
      · have hid := Std.LawfulEqCmp.eq_of_compare hid
        subst hid
        have hnone : m[x.nmId]? = none := Std.TreeMap.getElem?_eq_none_of_contains_eq_false hfresh
        simp only [hnone, Option.some.injEq, reduceCtorEq, false_or, List.mem_cons]
        constructor
        · rintro (rfl | ⟨h1, h2⟩)
          · exact ⟨.inl rfl, rfl⟩
          · exact ⟨.inr h1, h2⟩
        · rintro ⟨rfl | h1, h2⟩
          · exact .inl rfl
          · exact .inr ⟨h1, h2⟩
      · simp only [List.mem_cons]
        constructor
        · rintro (h1 | ⟨h1, h2⟩)
          · exact .inl h1
          · exact .inr ⟨.inr h1, h2⟩
        · rintro (h1 | ⟨rfl | h1, h2⟩)
          · exact .inl h1
          · exact absurd (h2 ▸ Std.ReflCmp.compare_self) hid
          · exact .inr ⟨h1, h2⟩
    · rintro sku (_ | ⟨_, hs⟩)
      · exact hmin.2
      · exact hle sku hs

/-- **An accepted observation covers exactly the SKUs of the policy.** -/
theorem observedBy_of_validateObservation {policy : WbAutomationPolicy}
    {observation : WbAutomationObservation} {observations : SkuMap}
    (h : validateObservation policy observation = .ok observations) :
    ObservedBy policy observation observations := by
  unfold validateObservation at h
  split_ifs at h with hg
  simp only [Bool.or_eq_true, not_or, Bool.not_eq_true] at hg
  cases hm : insertSkus policy observation.skus ∅ with
  | error e => rw [hm] at h; cases h
  | ok m =>
    rw [hm] at h
    dsimp only at h
    split_ifs at h with hk
    rw [Except.ok.injEq] at h
    subst h
    obtain ⟨hget, hle⟩ := insertSkus_spec hm
    refine ⟨fun id sku => by simp [hget], hle, fun id => ?_, fun t ht => ?_⟩
    · rw [ne_eq, not_not, Finset.ext_iff] at hk
      simpa using hk id
    · have := hg.1.1
      simpa [ht] using this

/-! ## A policy in use -/

/-- A version 3 policy with bids between 102 and 1200 kopecks. -/
def robotPolicy : WbAutomationPolicy where
  policyVersion := "wb_ads_robot.v1"
  writeEnabled := true
  bidWritesEnabled := true
  accountId := "wb_account"
  campaignId := 39682633
  campaignName := "Робот"
  paymentType := "cpc"
  placement := "search"
  expectedRecommendationBidKopecks := none
  timezone := "Europe/Moscow"
  authorizedByActorId := "operator"
  authorizationReference := "chat/traffic-frontier-v3"
  authorizedAt := seconds 0
  authorizationExpiresAt := seconds 2505600
  nmIds := [449627598, 449627015]
  targetDrrBasisPoints := 1500
  hardDrrBasisPoints := 2500
  targetImpressionsPerDay := 1500
  targetOrdersPerDay := 3
  autonomousPacing := .trafficFrontierV3
  trafficFrontierBidKopecks := some 700
  trafficFrontierFeedbackTimeoutSeconds := some 3600
  trafficFrontierMinFeedbackImpressions := some 200
  trafficFrontierMinFeedbackClicks := some 10
  minBidKopecks := 102
  maxBidKopecks := 1200
  bidStepPercent := 5
  dailySpendCapMinor := 50000
  dailyPauseThresholdMinor := 45000
  maxActionsPerDay := 12
  cooldownSeconds := 1800
  minSellableStock := 3
  noOrderReduceClicks := 30
  noOrderDisableClicks := 50
  noOrderDisableSpendMinor := 25000
  efficientMinOrders := 2
  efficientMinConversionBasisPoints := 200
  lowExposureMaxImpressions := 200
  lowExposureMaxClicks := 10
  observeUntil := seconds 1
  allowBudgetTopUp := false

end AdsControl.Wb
