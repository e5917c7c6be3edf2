import AdsControl.Wb.Policy
import AdsControl.Lib.KeySelect

/-!
# The deterministic decision of one cycle

`evaluateWbAutomation` validates its inputs, applies the campaign-wide gates in their fixed order
and then judges the campaign SKU by SKU, choosing at most one action.

* `campaignGate`: the guards, with the protective pause ahead of quota and cooldown;
* `bidChange`, `increaseBid`, `decreaseBid`: one bounded step of one bid;
* `recoverMinimum`, `campaignLevelAction`, `skuStops`: repairs and hard stops;
* `skuAction`: everything behind the gates.
-/

namespace AdsControl.Wb

open WbAutomationAction KeySelect Machine

/-- The status of an active campaign. -/
def activeCampaignStatus : ℤ := 9

/-- The status of a paused campaign. -/
def pausedCampaignStatus : ℤ := 11

/-- One whole in basis points. -/
def basisPoints : ℕ := 10000

/-! ## Campaign gates -/

/-- Campaign-wide guards in priority order; `none` clears the campaign for per-SKU reasoning. -/
def campaignGate (policy : WbAutomationPolicy) (observation : WbAutomationObservation) :
    Option WbAutomationAction :=
  if observation.observedAt < policy.authorizedAt then some (hold .authorizationNotActive)
  else if policy.authorizationExpiresAt ≤ observation.observedAt then
    some (hold .authorizationExpired)
  else if policy.writeEnabled = false then some (hold .policyShadowOnly)
  else if observation.observedAt < policy.observeUntil then some (hold .observeOnly)
  else if observation.budgetRemainingMinor = 0 then some (hold .budgetExhausted)
  else if observation.dailySpendComplete = false then some (hold .spendDataIncomplete)
  else if observation.campaignStatus = activeCampaignStatus ∧
      policy.dailyPauseThresholdMinor ≤ observation.dailySpendMinor then
    some pauseCampaignForDailyCap
  else if observation.campaignStatus = pausedCampaignStatus ∧ observation.pausedByAutomation then
    some (hold .protectivePauseRequiresApproval)
  else if observation.campaignStatus ≠ activeCampaignStatus then some (hold .campaignNotActive)
  else if policy.maxActionsPerDay ≤ observation.actionsToday then
    some (hold .actionQuotaExhausted)
  else if observation.lastActionAt.any fun lastAction =>
      observation.observedAt < lastAction + seconds policy.cooldownSeconds then
    some (hold .cooldownActive)
  else none

/-! ## One step of one bid -/

/-- A ratio in basis points, rounded down. -/
def ratioBasisPoints (numerator denominator : ℕ) : Except WbAutomationDecisionError ℕ :=
  match checkedMul 128 numerator basisPoints with
  | none => .error .overflow
  | some scaled =>
    match tryFrom 32 (scaled / denominator) with
    | none => .error .overflow
    | some value => .ok value

/-- The share of advertising in a product's revenue. -/
def drrBasisPoints (sku : WbAutomationSkuObservation) :
    Except WbAutomationDecisionError (Option ℕ) :=
  if sku.attributedRevenueMinor = 0 then .ok none
  else (ratioBasisPoints sku.spendMinor sku.attributedRevenueMinor).map some

/-- The share of clicks that became orders. -/
def conversionBasisPoints (sku : WbAutomationSkuObservation) : Except WbAutomationDecisionError ℕ :=
  if sku.clicks = 0 then .ok 0 else ratioBasisPoints sku.attributedOrders sku.clicks

/-- One step up, within the minimum and the maximum. -/
def increaseBid (policy : WbAutomationPolicy) (current minimum : ℕ) :
    Except WbAutomationDecisionError ℕ :=
  match checkedMul 64 current policy.bidStepPercent with
  | none => .error .overflow
  | some scaled =>
    match checkedAdd 64 current (max (scaled / 100) 1) with
    | none => .error .overflow
    | some value => .ok (min (max value minimum) policy.maxBidKopecks)

/-- One step down, not below the minimum. -/
def decreaseBid (policy : WbAutomationPolicy) (current minimum : ℕ) : ℕ :=
  max (current - max (saturatingMul 64 current policy.bidStepPercent / 100) 1) minimum

/-- The reason and direction (`true` raises) of an ordinary change. -/
def reasonAndDirection (policy : WbAutomationPolicy) (sku : WbAutomationSkuObservation)
    (drr : Option ℕ) : Except WbAutomationDecisionError (Option (WbAutomationBidReason × Bool)) :=
  if sku.attributedOrders = 0 ∧ policy.noOrderReduceClicks ≤ sku.clicks then
    .ok (some (.noOrdersAfterClicks, false))
  else if drr.any fun value => policy.targetDrrBasisPoints < value then
    .ok (some (.targetDrrExceeded, false))
  else
    let lowExposure := if sku.impressions < policy.lowExposureMaxImpressions ∧
        sku.clicks < policy.lowExposureMaxClicks then
      some (WbAutomationBidReason.lowExposureExploration, true) else none
    if policy.efficientMinOrders ≤ sku.attributedOrders then
      (conversionBasisPoints sku).map fun conversion =>
        if policy.efficientMinConversionBasisPoints ≤ conversion ∧
            drr.any (fun value => value ≤ policy.targetDrrBasisPoints) then
          some (.efficientSales, true)
        else lowExposure
    else .ok lowExposure

/-- One step in the given direction. -/
def stepBid (policy : WbAutomationPolicy) (increase : Bool) (current minimum : ℕ) :
    Except WbAutomationDecisionError ℕ :=
  if increase then increaseBid policy current minimum
  else .ok (decreaseBid policy current minimum)

/-- The change of one product's bid, if there is a reason. -/
def bidChange (policy : WbAutomationPolicy) (sku : WbAutomationSkuObservation) :
    Except WbAutomationDecisionError (Option WbAutomationBidChange) := do
  let drr ← drrBasisPoints sku
  match ← reasonAndDirection policy sku drr with
  | none => return none
  | some (reason, increase) =>
    let toBid ← stepBid policy increase sku.currentBidKopecks (effectiveMinimumBid policy sku)
    -- a change must move in the direction of its reason
    if toBid ≠ sku.currentBidKopecks ∧ decide (sku.currentBidKopecks < toBid) = increase then
      return some ⟨sku.nmId, sku.currentBidKopecks, toBid, reason⟩
    else return none

/-! ## Repairs and hard stops -/

/-- Restore the least bid below its floor among SKUs in stock. -/
def recoverMinimum (policy : WbAutomationPolicy) (skus : List WbAutomationSkuObservation) :
    Option WbAutomationAction :=
  (minByKey (fun sku => toLex (sku.currentBidKopecks, sku.nmId)) (skus.filter fun sku =>
    policy.minSellableStock < sku.sellableStock ∧
      sku.currentBidKopecks < effectiveMinimumBid policy sku)).map fun sku =>
    changeBids [⟨sku.nmId, sku.currentBidKopecks, effectiveMinimumBid policy sku,
      .policyMinimumNotMet⟩]

/-- The indexed SKUs in the order of the policy. -/
def policySkus (policy : WbAutomationPolicy) (observations : SkuMap) :
    List WbAutomationSkuObservation :=
  policy.nmIds.filterMap (observations[·]?)

/-- The indexed SKUs in the order of their identifiers. -/
def valuesOf (observations : SkuMap) : List WbAutomationSkuObservation :=
  observations.toList.map Prod.snd

/-- With campaign totals only, stock is the one signal attributable to a SKU. -/
def campaignLevelAction (policy : WbAutomationPolicy) (observation : WbAutomationObservation)
    (observations : SkuMap) : WbAutomationAction × List WbAutomationSkuStop :=
  if observation.campaignLevelMetrics.isNone then (hold .attributionIncomplete, [])
  else
    let lowStock := fun sku : WbAutomationSkuObservation =>
      decide (sku.sellableStock ≤ policy.minSellableStock)
    let unresolvedStops := (policySkus policy observations).filterMap fun sku =>
      if lowStock sku ∧ sku.currentBidKopecks ≤ effectiveMinimumBid policy sku then
        some ⟨sku.nmId, .lowStock⟩ else none
    match (policySkus policy observations).find? fun sku =>
        lowStock sku && decide (effectiveMinimumBid policy sku < sku.currentBidKopecks) with
    | some sku => (disableSku sku.nmId .lowStock, unresolvedStops)
    | none =>
      match recoverMinimum policy (valuesOf observations) with
      | some action => (action, unresolvedStops)
      | none =>
        if unresolvedStops ≠ [] then (hold .noMaterialChange, unresolvedStops)
        else (hold .attributionIncomplete, [])

/-- The hard stop a SKU currently qualifies for. -/
def skuStop (policy : WbAutomationPolicy) (sku : WbAutomationSkuObservation) :
    Except WbAutomationDecisionError (Option WbAutomationDisableReason) :=
  if sku.sellableStock ≤ policy.minSellableStock then .ok (some .lowStock)
  else if sku.attributedOrders = 0 ∧ (policy.noOrderDisableClicks ≤ sku.clicks ∨
      policy.noOrderDisableSpendMinor ≤ sku.spendMinor) then .ok (some .noOrdersHardStop)
  else (drrBasisPoints sku).map fun drr =>
    if drr.any (fun value => policy.hardDrrBasisPoints < value) then some .hardDrrExceeded else none

/-- The stops of every SKU of the policy, in its order. -/
def skuStops (policy : WbAutomationPolicy) :
    List WbAutomationSkuObservation →
      Except WbAutomationDecisionError (List (WbAutomationSkuObservation × WbAutomationDisableReason))
  | [] => .ok []
  | sku :: rest => do
    let stop ← skuStop policy sku
    let stops ← skuStops policy rest
    return match stop with
      | some reason => (sku, reason) :: stops
      | none => stops

/-- The ordinary changes of the healthy SKUs, in the order of the policy. -/
def bidChanges (policy : WbAutomationPolicy) :
    List WbAutomationSkuObservation →
      Except WbAutomationDecisionError (List WbAutomationBidChange)
  | [] => .ok []
  | sku :: rest => do
    let change ← bidChange policy sku
    let changes ← bidChanges policy rest
    return change.toList ++ changes

/-! ## The decision -/

/-- Per-SKU reasoning with complete attribution. -/
def attributedAction (policy : WbAutomationPolicy) (observations : SkuMap) :
    Except WbAutomationDecisionError (WbAutomationAction × List WbAutomationSkuStop) := do
  let stops ← skuStops policy (policySkus policy observations)
  let stopped := fun sku : WbAutomationSkuObservation => stops.any fun p => p.1.nmId == sku.nmId
  -- a stopped SKU already at its floor must not freeze the healthy ones
  let unresolved := stops.filterMap fun p =>
    if p.1.currentBidKopecks ≤ effectiveMinimumBid policy p.1 then
      some ⟨p.1.nmId, p.2⟩ else none
  match stops.find? fun p => decide (effectiveMinimumBid policy p.1 < p.1.currentBidKopecks) with
  | some (sku, reason) => return (disableSku sku.nmId reason, unresolved)
  | none =>
    match recoverMinimum policy ((valuesOf observations).filter fun sku => !stopped sku) with
    | some action => return (action, unresolved)
    | none =>
      let changes ← bidChanges policy
        ((policySkus policy observations).filter fun sku => !stopped sku)
      match changes.take 1 with
      | [] => return (hold .noMaterialChange, unresolved)
      | changes => return (changeBids changes, unresolved)

/-- Everything behind the campaign gates. -/
def skuAction (policy : WbAutomationPolicy) (observation : WbAutomationObservation)
    (observations : SkuMap) :
    Except WbAutomationDecisionError (WbAutomationAction × List WbAutomationSkuStop) :=
  if policy.bidWritesEnabled = false then .ok (hold .bidWritesDisabled, [])
  else
    match (policySkus policy observations).find? fun sku =>
        decide (policy.maxBidKopecks < sku.currentBidKopecks) with
    | some sku => .ok (changeBids [⟨sku.nmId, sku.currentBidKopecks, policy.maxBidKopecks,
        .policyMaximumExceeded⟩], [])
    | none =>
      if observation.attributionComplete = false then
        .ok (campaignLevelAction policy observation observations)
      else attributedAction policy observations

/-- The action of a firing gate, else the per-SKU one. -/
def gatedAction (policy : WbAutomationPolicy) (observation : WbAutomationObservation)
    (observations : SkuMap) :
    Except WbAutomationDecisionError (WbAutomationAction × List WbAutomationSkuStop) :=
  match campaignGate policy observation with
  | some action => .ok (action, [])
  | none => skuAction policy observation observations

/-- The decision about an observation. -/
def evaluateWbAutomation (policy : WbAutomationPolicy) (observation : WbAutomationObservation) :
    Except WbAutomationDecisionError WbAutomationDecision := do
  validatePolicy policy
  let observations ← validateObservation policy observation
  let result ← gatedAction policy observation observations
  return ⟨policy.accountId, policy.campaignId, observation.observedAt, result.1, result.2⟩

end AdsControl.Wb
