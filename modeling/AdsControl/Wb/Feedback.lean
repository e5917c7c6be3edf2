import AdsControl.Wb.Evaluate
import AdsControl.Lib.Fallible

/-!
# Campaign feedback and exposure pacing

Aggregate delivery never identifies the economics of a SKU. The pacing rules turn a hold for
incomplete attribution into one bounded step, and only when the feedback on the last applied
change is conclusive.

* `trafficFrontierPacingDecision`: traffic-frontier pacing, versions 2 to 4;
* `autonomousExposurePacingDecision`: the older exposure pacing.

Failures carry the message of the executor.
-/

namespace AdsControl.Wb

open WbAutomationAction KeySelect Machine Fallible

/-- What one cycle observed and decided. -/
structure WbAutomationSnapshot where
  observation : WbAutomationObservation
  decision : WbAutomationDecision
  deriving DecidableEq

/-- The message of a decision error. -/
def WbAutomationDecisionError.message : WbAutomationDecisionError → String
  | invalidPolicy => "WB automation policy имеет недопустимые границы"
  | invalidObservation => "WB automation observation не соответствует policy"
  | overflow => "WB automation arithmetic overflow"

/-- Below this share of the pace the spend is slow. -/
def pacingLowerBasisPoints : ℕ := 8000

/-- Above this share of the pace the spend is fast. -/
def pacingUpperBasisPoints : ℕ := 12000

/-- The seconds of a day. -/
def secondsPerDay : ℕ := 86400

/-- The traffic since the last change. -/
structure TrafficFrontierFeedback where
  metrics : WbAutomationCampaignMetrics
  zeroCostProbe : Bool

/-- A decision that only replaces the action of the cycle. -/
def replaceAction (policy : WbAutomationPolicy) (snapshot : WbAutomationSnapshot)
    (action : WbAutomationAction) : WbAutomationDecision :=
  ⟨policy.accountId, policy.campaignId, snapshot.observation.observedAt, action, []⟩

/-- The decision to wait. -/
def trafficFrontierHold (policy : WbAutomationPolicy) (snapshot : WbAutomationSnapshot)
    (reason : WbAutomationHoldReason) : WbAutomationDecision :=
  replaceAction policy snapshot (hold reason)

/-- The decision to change one bid. -/
def trafficFrontierChange (policy : WbAutomationPolicy) (snapshot : WbAutomationSnapshot)
    (nmId fromBid toBid : ℕ) (reason : WbAutomationBidReason) : WbAutomationDecision :=
  replaceAction policy snapshot (changeBids [⟨nmId, fromBid, toBid, reason⟩])

/-! ## Feedback on the last applied change -/

/-- Every counter of `current` has reached that of `baseline`. -/
def reaches (current baseline : WbAutomationCampaignMetrics) : Bool :=
  decide (baseline.impressions ≤ current.impressions) &&
    decide (baseline.clicks ≤ current.clicks) &&
    decide (baseline.spendMinor ≤ current.spendMinor) &&
    decide (baseline.attributedOrders ≤ current.attributedOrders) &&
    decide (baseline.attributedRevenueMinor ≤ current.attributedRevenueMinor)

/-- Both were observed on one business date. -/
def sameBusinessDate (a b : WbAutomationSnapshot) : Bool :=
  wbAutomationBusinessDate a.observation.observedAt ==
    wbAutomationBusinessDate b.observation.observedAt

/-- The delivery since the last applied change, `none` when a counter ran backwards. -/
def trafficFeedbackDelta (snapshot : WbAutomationSnapshot) (current : WbAutomationCampaignMetrics)
    (lastAppliedSnapshot : Option WbAutomationSnapshot) : Option WbAutomationCampaignMetrics :=
  match lastAppliedSnapshot with
  | none => some current
  | some previous =>
    if sameBusinessDate previous snapshot = false then some current
    else
      match previous.observation.currentCampaignMetrics with
      | none => none
      | some baseline =>
        if reaches current baseline = false then none
        else some ⟨current.impressions - baseline.impressions, current.clicks - baseline.clicks,
          current.spendMinor - baseline.spendMinor,
          current.attributedOrders - baseline.attributedOrders,
          current.attributedRevenueMinor - baseline.attributedRevenueMinor⟩

/-- No traffic at all for long enough. -/
def trafficFrontierZeroCostProbeIsActionable (policy : WbAutomationPolicy)
    (snapshot : WbAutomationSnapshot) (delta : WbAutomationCampaignMetrics) : Except String Bool :=
  if delta.clicks ≠ 0 ∨ delta.spendMinor ≠ 0 ∨ delta.attributedOrders ≠ 0 ∨
      delta.attributedRevenueMinor ≠ 0 then .ok false
  else
    match snapshot.observation.lastActionAt with
    | none => .ok true
    | some lastActionAt => do
      let timeout ← context policy.trafficFrontierFeedbackTimeoutSeconds
        "WB traffic-frontier v4 probe timeout is unavailable"
      return decide (lastActionAt + seconds timeout ≤ snapshot.observation.observedAt)

/-- Only version 4 probes at no cost. -/
def zeroCostProbeFor (policy : WbAutomationPolicy) (snapshot : WbAutomationSnapshot)
    (delta : WbAutomationCampaignMetrics) : Except String Bool :=
  if policy.autonomousPacing.allowsZeroCostProbe then
    trafficFrontierZeroCostProbeIsActionable policy snapshot delta
  else .ok false

/-- Enough traffic or enough time since the last change. -/
def trafficFrontierV2FeedbackIsActionable (policy : WbAutomationPolicy)
    (snapshot : WbAutomationSnapshot) (current : WbAutomationCampaignMetrics)
    (lastAppliedSnapshot : Option WbAutomationSnapshot) : Except String Bool :=
  match snapshot.observation.lastActionAt with
  | none => .ok true
  | some lastActionAt => do
    let feedbackTimeout ← context policy.trafficFrontierFeedbackTimeoutSeconds
      "WB traffic-frontier feedback timeout is unavailable"
    if lastActionAt + seconds feedbackTimeout ≤ snapshot.observation.observedAt then return true
    else
      match lastAppliedSnapshot with
      | none => return false
      | some previous =>
        if sameBusinessDate previous snapshot = false then return true
        else
          match previous.observation.currentCampaignMetrics with
          | none => return false
          | some baseline => return reaches current baseline && decide (current ≠ baseline)

/-- The traffic to decide by, once there is enough of it. -/
def trafficFrontierFeedback (policy : WbAutomationPolicy) (snapshot : WbAutomationSnapshot)
    (metrics : WbAutomationCampaignMetrics) (lastAppliedSnapshot : Option WbAutomationSnapshot) :
    Except String (Option TrafficFrontierFeedback) :=
  if policy.autonomousPacing.usesMarginalFeedback = false then do
    let actionable ← trafficFrontierV2FeedbackIsActionable policy snapshot metrics
      lastAppliedSnapshot
    return if actionable then some ⟨metrics, false⟩ else none
  else
    match trafficFeedbackDelta snapshot metrics lastAppliedSnapshot with
    | none => .ok none
    | some delta => do
      let minImpressions ← context policy.trafficFrontierMinFeedbackImpressions
        "WB traffic-frontier v3 minimum feedback impressions are unavailable"
      let minClicks ← context policy.trafficFrontierMinFeedbackClicks
        "WB traffic-frontier v3 minimum feedback clicks are unavailable"
      let zeroCostProbe ← zeroCostProbeFor policy snapshot delta
      return if delta.impressions < minImpressions ∧ delta.clicks < minClicks ∧
          zeroCostProbe = false then none else some ⟨delta, zeroCostProbe⟩

/-! ## Pace and caps -/

/-- The share of advertising in the revenue of the campaign. -/
def campaignDrrBasisPoints (metrics : WbAutomationCampaignMetrics) :
    Except String (Option ℕ) :=
  if metrics.attributedRevenueMinor = 0 then .ok none
  else do
    let scaled ← context (checkedMul 128 metrics.spendMinor basisPoints)
      "WB traffic-frontier DRR overflow"
    let value ← context (tryFrom 32 (scaled / metrics.attributedRevenueMinor))
      "WB traffic-frontier DRR is out of range"
    return some value

/-- The share of a daily total due by now, at least one unit. -/
def pacedValue (total : ℕ) (observedAt : ℤ) : ℕ :=
  max (total * max (secondsSinceMidnight moscow observedAt) 300 / secondsPerDay) 1

/-- The clicks without an order that call for a cut. -/
def noOrderClicks (policy : WbAutomationPolicy) : Except String ℕ :=
  if policy.autonomousPacing.usesMarginalFeedback then
    context policy.trafficFrontierMinFeedbackClicks
      "WB traffic-frontier v3 minimum feedback clicks are unavailable"
  else .ok policy.noOrderReduceClicks

/-- Why the bid comes down, if it does. -/
def trafficFrontierDecreaseReason (policy : WbAutomationPolicy)
    (feedback : WbAutomationCampaignMetrics) (drr : Option ℕ) (spendOverPace : Bool) :
    Except String (Option WbAutomationBidReason) := do
  let noOrderReduceClicks ← noOrderClicks policy
  if feedback.attributedOrders = 0 ∧ noOrderReduceClicks ≤ feedback.clicks then
    return some .noOrdersAfterClicks
  else
    match drr.filter fun value => policy.targetDrrBasisPoints < value with
    | some value =>
      if policy.hardDrrBasisPoints < value then return some .hardDrrExceeded
      else return some .targetDrrExceeded
    | none => return if spendOverPace then some .trafficFrontierRetentionDecrease else none

/-- The price of a click the feedback can pay for. -/
def economicCap (policy : WbAutomationPolicy) (metrics : WbAutomationCampaignMetrics) :
    Except String ℕ :=
  if metrics.attributedOrders = 0 then
    context (checkedDiv policy.dailySpendCapMinor policy.noOrderReduceClicks)
      "WB traffic-frontier exploration click budget is invalid"
  else do
    let scaled ← context
      (checkedMul 128 metrics.attributedRevenueMinor policy.targetDrrBasisPoints)
      "WB traffic-frontier economic cap overflow"
    let perClick ← context (checkedDiv (scaled / basisPoints) metrics.clicks)
      "WB traffic-frontier feedback has attributed orders without clicks"
    context (tryFrom 64 perClick) "WB traffic-frontier economic cap is out of range"

/-- The least of the maximum bid, the rest of the day's budget and the economic cap. -/
def trafficFrontierDynamicCap (policy : WbAutomationPolicy) (snapshot : WbAutomationSnapshot)
    (metrics : WbAutomationCampaignMetrics) : Except String ℕ :=
  let remainingToPause := policy.dailyPauseThresholdMinor - snapshot.observation.dailySpendMinor
  (economicCap policy metrics).map fun cap =>
    min (min policy.maxBidKopecks remainingToPause) cap

/-! ## Steps -/

/-- One step down, not below the minimum. -/
def decreaseFrontierBid (policy : WbAutomationPolicy) (current minimum : ℕ) : ℕ :=
  max (current - max (saturatingMul 64 current policy.bidStepPercent / 100) 1) minimum

/-- Step down the highest bid above its floor, the least identifier on a tie. -/
def trafficFrontierDecrease (policy : WbAutomationPolicy) (snapshot : WbAutomationSnapshot)
    (reason : WbAutomationBidReason) : Option WbAutomationDecision :=
  match maxByKey (fun sku => toLex (sku.currentBidKopecks, OrderDual.toDual sku.nmId))
      (snapshot.observation.skus.filter fun sku =>
        effectiveMinimumBid policy sku < sku.currentBidKopecks) with
  | none => none
  | some sku =>
    let toBid := decreaseFrontierBid policy sku.currentBidKopecks (effectiveMinimumBid policy sku)
    if toBid < sku.currentBidKopecks then
      some (trafficFrontierChange policy snapshot sku.nmId sku.currentBidKopecks toBid reason)
    else none

/-- One step up to the frontier, when the traffic earned it. -/
def trafficFrontierIncreaseDecision (policy : WbAutomationPolicy) (snapshot : WbAutomationSnapshot)
    (feedback : WbAutomationCampaignMetrics) : Except String (Option WbAutomationDecision) := do
  let frontier ← context policy.trafficFrontierBidKopecks
    "WB traffic-frontier entry bid is unavailable"
  let dynamicCap ← trafficFrontierDynamicCap policy snapshot feedback
  if dynamicCap < frontier then return none
  else
    match minByKey (fun sku => toLex (sku.currentBidKopecks, sku.nmId))
        (snapshot.observation.skus.filter fun sku =>
          policy.minSellableStock < sku.sellableStock ∧ sku.currentBidKopecks < dynamicCap ∧
            effectiveMinimumBid policy sku ≤ dynamicCap) with
    | none => return none
    | some sku =>
      let minimum := effectiveMinimumBid policy sku
      if sku.currentBidKopecks < frontier then
        return some (trafficFrontierChange policy snapshot sku.nmId sku.currentBidKopecks
          (min (max frontier minimum) dynamicCap) .trafficFrontierBootstrap)
      else
        let raised ← (increaseBid policy sku.currentBidKopecks minimum).mapError
          WbAutomationDecisionError.message
        return some (trafficFrontierChange policy snapshot sku.nmId sku.currentBidKopecks
          (min raised dynamicCap) .trafficFrontierIncrease)

/-! ## Pacing decisions -/

/-- The spend is faster than the day. -/
def spendOverPace (policy : WbAutomationPolicy) (observedAt : ℤ)
    (metrics : WbAutomationCampaignMetrics) : Bool :=
  decide (pacedValue policy.dailyPauseThresholdMinor observedAt * pacingUpperBasisPoints <
    metrics.spendMinor * basisPoints)

/-- The spend is slower than the day. -/
def spendUnderPace (policy : WbAutomationPolicy) (observedAt : ℤ)
    (metrics : WbAutomationCampaignMetrics) : Bool :=
  decide (metrics.spendMinor * basisPoints <
    pacedValue policy.dailyPauseThresholdMinor observedAt * pacingLowerBasisPoints)

/-- The consistency demanded of current campaign metrics. -/
def consistentMetrics (metrics : WbAutomationCampaignMetrics) : Prop :=
  metrics.clicks ≤ metrics.impressions ∧ metrics.attributedOrders ≤ metrics.clicks ∧
    (0 < metrics.attributedOrders ∨ metrics.attributedRevenueMinor = 0)

instance (metrics : WbAutomationCampaignMetrics) : Decidable (consistentMetrics metrics) := by
  unfold consistentMetrics; infer_instance

/-- The decision of the pacing up to a frontier. -/
def trafficFrontierPacingDecision (policy : WbAutomationPolicy) (snapshot : WbAutomationSnapshot)
    (lastAppliedSnapshot : Option WbAutomationSnapshot) :
    Except String (Option WbAutomationDecision) :=
  if snapshot.decision.action ≠ hold .attributionIncomplete then .ok none
  else
    match snapshot.observation.currentCampaignMetrics with
    | none => .ok (some (trafficFrontierHold policy snapshot .trafficFeedbackPending))
    | some metrics => do
      ensure (consistentMetrics metrics)
        "WB traffic-frontier current campaign metrics are inconsistent"
      match ← trafficFrontierFeedback policy snapshot metrics lastAppliedSnapshot with
      | none => return some (trafficFrontierHold policy snapshot .trafficFeedbackPending)
      | some feedback =>
        let drr ← campaignDrrBasisPoints feedback.metrics
        let observedAt := snapshot.observation.observedAt
        match ← trafficFrontierDecreaseReason policy feedback.metrics drr
            (spendOverPace policy observedAt metrics) with
        | some reason => return trafficFrontierDecrease policy snapshot reason
        | none =>
          if policy.autonomousPacing.usesMarginalFeedback ∧
              policy.targetOrdersPerDay ≤ metrics.attributedOrders then return none
          else if spendUnderPace policy observedAt metrics = false ∨
              pacedValue policy.targetImpressionsPerDay observedAt ≤ metrics.impressions then
            return none
          -- a regular raise needs an incremental order at or below the target DRR
          else if policy.autonomousPacing.usesMarginalFeedback ∧ feedback.zeroCostProbe = false ∧
              (feedback.metrics.attributedOrders = 0 ∨ feedback.metrics.clicks = 0 ∨
                feedback.metrics.attributedRevenueMinor = 0 ∨
                drr.all (fun value => policy.targetDrrBasisPoints < value)) then
            return some (trafficFrontierHold policy snapshot .trafficFeedbackPending)
          else trafficFrontierIncreaseDecision policy snapshot feedback.metrics

/-- The observed rows of the policy's SKUs, in its order. -/
def listedSkus (policy : WbAutomationPolicy) (observation : WbAutomationObservation) :
    List WbAutomationSkuObservation :=
  policy.nmIds.filterMap fun nmId => observation.skus.find? fun sku => sku.nmId == nmId

/-- The least bid with room to rise among SKUs in stock. -/
def exposureCandidate (policy : WbAutomationPolicy) (observation : WbAutomationObservation) :
    Option WbAutomationSkuObservation :=
  minByKey (fun sku => sku.currentBidKopecks) ((listedSkus policy observation).filter fun sku =>
    policy.minSellableStock < sku.sellableStock ∧ sku.currentBidKopecks < policy.maxBidKopecks)

/-- `.context(message)` on a decision error hides it behind `message`. -/
def raisedBid (policy : WbAutomationPolicy) (sku : WbAutomationSkuObservation) (message : String) :
    Except String ℕ :=
  (increaseBid policy sku.currentBidKopecks (effectiveMinimumBid policy sku)).mapError
    fun _ => message

/-- The campaign has orders, or its spend without orders is small. -/
def noOrderSignalIsSafe (policy : WbAutomationPolicy) (metrics : WbAutomationCampaignMetrics) :
    Bool :=
  if metrics.attributedOrders = 0 then
    decide (metrics.attributedRevenueMinor = 0 ∧ metrics.clicks < policy.noOrderReduceClicks)
  else decide (0 < metrics.attributedRevenueMinor ∧ metrics.spendMinor * 10000 ≤
    metrics.attributedRevenueMinor * policy.targetDrrBasisPoints)

/-- The decision of the pacing by exposure. -/
def autonomousExposurePacingDecision (policy : WbAutomationPolicy)
    (snapshot : WbAutomationSnapshot) : Except String (Option WbAutomationDecision) :=
  if snapshot.decision.action ≠ hold .attributionIncomplete then .ok none
  else
    match snapshot.observation.campaignLevelMetrics with
    | none => .ok none
    | some metrics =>
      if policy.targetImpressionsPerDay ≤ metrics.impressions ∨
          noOrderSignalIsSafe policy metrics = false then .ok none
      else
        match exposureCandidate policy snapshot.observation with
        | none => .ok none
        | some sku => do
          let toBid ← raisedBid policy sku
            "WB autonomous exposure pacing bid increase is invalid"
          ensure (sku.currentBidKopecks < toBid)
            "WB autonomous exposure pacing bid cannot increase"
          return some (replaceAction policy snapshot
            (changeBids [⟨sku.nmId, sku.currentBidKopecks, toBid, .autonomousExposurePacing⟩]))

end AdsControl.Wb
