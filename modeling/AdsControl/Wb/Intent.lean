import AdsControl.Wb.Feedback

/-!
# Execution intents and the pending action

An automatic cycle applies the pacing of its policy; a maintenance command carries one explicit
intent. Either way the decision of the cycle becomes at most one pending action.

* `explicitBidCapRepairDecision`, `explicitQuotaOverrideDecision`,
  `explicitResumeAfterDailyCapDecision`, `explicitExposureIncreaseDecision`;
* `applyPostgresExecutionIntent`, `pendingFromDecision`;
* `pendingForIntent`: the chain from the inputs of a cycle to its pending action.
-/

namespace AdsControl.Wb

open WbAutomationAction KeySelect Fallible

/-! ## Explicit decisions -/

/-- Bring bids above the maximum down. -/
def explicitBidCapRepairDecision (policy : WbAutomationPolicy) (snapshot : WbAutomationSnapshot) :
    Except String WbAutomationDecision := do
  let observation := snapshot.observation
  let observedAt := observation.observedAt
  let authorizationActive := policy.authorizedAt ≤ observedAt ∧ policy.observeUntil ≤ observedAt ∧
    observedAt < policy.authorizationExpiresAt
  ensure (policy.writeEnabled ∧ policy.bidWritesEnabled ∧ authorizationActive)
    "WB bid cap repair requires active explicit write authorization"
  ensure (observation.campaignStatus = 9 ∨ observation.campaignStatus = 11)
    "WB bid cap repair requires an active or paused campaign"
  ensure observation.dailySpendComplete "WB bid cap repair requires complete daily spend"
  ensure (observation.campaignStatus = 11 ∨
      observation.dailySpendMinor < policy.dailyPauseThresholdMinor)
    "WB bid cap repair requires protective pause before repairing an overspent active campaign"
  ensure (observation.actionsToday < policy.maxActionsPerDay)
    "WB bid cap repair preserves the daily action quota"
  match (listedSkus policy observation).find? fun sku =>
      decide (policy.maxBidKopecks < sku.currentBidKopecks) with
  | none => return replaceAction policy snapshot (hold .noMaterialChange)
  | some sku => return replaceAction policy snapshot (changeBids [⟨sku.nmId,
      sku.currentBidKopecks, policy.maxBidKopecks, .policyMaximumExceeded⟩])

/-- The pacing decision when only the daily quota is exhausted. -/
def explicitQuotaOverrideDecision (policy : WbAutomationPolicy) (snapshot : WbAutomationSnapshot)
    (lastAppliedSnapshot : Option WbAutomationSnapshot) :
    Except String (Option WbAutomationDecision) := do
  ensure policy.autonomousPacing.usesMarginalFeedback
    "WB explicit quota override requires traffic frontier v3"
  ensure (snapshot.decision.action = hold .actionQuotaExhausted ∧
      policy.maxActionsPerDay ≤ snapshot.observation.actionsToday)
    "WB explicit quota override requires an exhausted daily action quota"
  ensure (snapshot.observation.lastActionAt.all fun lastAction =>
      lastAction + seconds policy.cooldownSeconds ≤ snapshot.observation.observedAt)
    "WB explicit quota override preserves the cooldown guard"
  let eligible : WbAutomationSnapshot :=
    { snapshot with decision := { snapshot.decision with action := hold .attributionIncomplete } }
  trafficFrontierPacingDecision policy eligible lastAppliedSnapshot

/-- Resume a campaign that the automation paused. -/
def explicitResumeAfterDailyCapDecision (policy : WbAutomationPolicy)
    (snapshot : WbAutomationSnapshot) : Except String WbAutomationDecision := do
  let observation := snapshot.observation
  ensure (policy.writeEnabled ∧ policy.bidWritesEnabled)
    "WB explicit resume requires active write and bid-write policy"
  ensure (snapshot.decision.action = hold .protectivePauseRequiresApproval ∨
      snapshot.decision.action = hold .spendDataIncomplete)
    "WB explicit resume is blocked by a stronger decision guard"
  ensure (observation.campaignStatus = 11 ∧ observation.pausedByAutomation)
    "WB explicit resume requires the automation-owned protective pause"
  ensure (0 < observation.budgetRemainingMinor)
    "WB explicit resume requires a positive campaign budget"
  ensure (observation.dailySpendMinor < policy.dailyPauseThresholdMinor ∧
      observation.dailySpendMinor < policy.dailySpendCapMinor)
    "WB explicit resume is blocked by the current daily spend guard"
  ensure (observation.skus.any fun sku => policy.minSellableStock < sku.sellableStock)
    "WB explicit resume requires at least one sellable SKU"
  ensure (observation.skus.all fun sku => effectiveMinimumBid policy sku ≤ sku.currentBidKopecks ∧
      sku.currentBidKopecks ≤ policy.maxBidKopecks)
    "WB explicit resume requires every current bid inside the reviewed corridor"
  return replaceAction policy snapshot resumeCampaignAfterDailyCap

/-- Raise bids by one step towards a number of views. -/
def explicitExposureIncreaseDecision (policy : WbAutomationPolicy)
    (snapshot : WbAutomationSnapshot) (targetImpressions : ℕ) :
    Except String WbAutomationDecision := do
  ensure (targetImpressions = policy.targetImpressionsPerDay)
    "WB explicit exposure target does not match policy"
  ensure (snapshot.decision.action = hold .attributionIncomplete)
    "WB explicit exposure increase is blocked by a stronger decision guard"
  let metrics ← context snapshot.observation.campaignLevelMetrics
    "WB explicit exposure increase requires campaign delivery metrics"
  ensure (metrics.impressions < targetImpressions ∧
      metrics.impressions < policy.lowExposureMaxImpressions ∧
      metrics.clicks < policy.lowExposureMaxClicks)
    "WB explicit exposure increase requires verified low exposure"
  let sku ← context (exposureCandidate policy snapshot.observation)
    "WB explicit exposure increase has no safe SKU candidate"
  let toBid ← raisedBid policy sku "WB explicit exposure bid increase is invalid"
  ensure (sku.currentBidKopecks < toBid) "WB explicit exposure bid cannot increase"
  return replaceAction policy snapshot
    (changeBids [⟨sku.nmId, sku.currentBidKopecks, toBid, .explicitExposureTarget⟩])

/-! ## Applying the intent -/

/-- What a cycle is started for. -/
inductive PostgresExecutionIntent
  | automatic
  | explicitExposureTarget (targetImpressions : ℕ)
  | explicitQuotaOverride
  | explicitResumeAfterDailyCap
  | explicitBidCapRepair
  deriving DecidableEq

/-- The decision that replaces the one of the cycle, if any. -/
def replacementDecision (policy : WbAutomationPolicy) (snapshot : WbAutomationSnapshot)
    (lastAppliedSnapshot : Option WbAutomationSnapshot) :
    PostgresExecutionIntent → Except String (Option WbAutomationDecision)
  | .explicitExposureTarget targetImpressions =>
    (explicitExposureIncreaseDecision policy snapshot targetImpressions).map some
  | .explicitQuotaOverride => explicitQuotaOverrideDecision policy snapshot lastAppliedSnapshot
  | .explicitResumeAfterDailyCap => (explicitResumeAfterDailyCapDecision policy snapshot).map some
  | .explicitBidCapRepair => (explicitBidCapRepairDecision policy snapshot).map some
  | .automatic =>
    if policy.autonomousPacing.usesTrafficFrontier then
      trafficFrontierPacingDecision policy snapshot lastAppliedSnapshot
    else if policy.autonomousPacing.isEnabled then autonomousExposurePacingDecision policy snapshot
    else .ok none

/-- The decision for what the cycle was started for. -/
def applyPostgresExecutionIntent (policy : WbAutomationPolicy) (snapshot : WbAutomationSnapshot)
    (intent : PostgresExecutionIntent) (lastAppliedSnapshot : Option WbAutomationSnapshot) :
    Except String WbAutomationSnapshot := do
  match ← replacementDecision policy snapshot lastAppliedSnapshot intent with
  | some decision => return { snapshot with decision := decision }
  | none => return snapshot

/-! ## The pending action -/

/-- The write of an action. -/
inductive PendingActionKind
  | changeBids (changes : List WbAutomationBidChange)
  | pauseCampaignForDailyCap
  | resumeCampaignAfterDailyCap
  deriving DecidableEq

/-- An action that is reserved. -/
structure PendingAction where
  reservedAt : ℤ
  kind : PendingActionKind
  deriving DecidableEq

/-- The bid reason recorded for a hard stop. -/
def WbAutomationDisableReason.bidReason : WbAutomationDisableReason → WbAutomationBidReason
  | lowStock => .lowStockGuard
  | noOrdersHardStop => .noOrdersHardStop
  | hardDrrExceeded => .hardDrrExceeded

/-- The write of a decision, if it has one. -/
def pendingKind (action : WbAutomationAction) (observation : WbAutomationObservation)
    (policyMinBidKopecks : ℕ) : Option PendingActionKind :=
  match action with
  | hold _ => none
  | changeBids changes => if changes.length ≠ 1 then none else some (.changeBids changes)
  | disableSku nmId reason => do
    let sku ← observation.skus.find? fun sku => sku.nmId == nmId
    let effectiveMinimum := max policyMinBidKopecks sku.minimumBidKopecks
    if sku.currentBidKopecks ≤ effectiveMinimum then none
    else some (.changeBids [⟨nmId, sku.currentBidKopecks, effectiveMinimum, reason.bidReason⟩])
  | WbAutomationAction.pauseCampaignForDailyCap => some .pauseCampaignForDailyCap
  | WbAutomationAction.resumeCampaignAfterDailyCap => some .resumeCampaignAfterDailyCap

/-- The action of a decision, if it has one. -/
def pendingFromDecision (action : WbAutomationAction) (observation : WbAutomationObservation)
    (policyMinBidKopecks : ℕ) (reservedAt : ℤ) : Option PendingAction :=
  (pendingKind action observation policyMinBidKopecks).map fun kind => ⟨reservedAt, kind⟩

/-- **The pending action of one cycle**: evaluate, apply the intent, derive the pending action. -/
def pendingForIntent (policy : WbAutomationPolicy) (observation : WbAutomationObservation)
    (lastAppliedSnapshot : Option WbAutomationSnapshot) (intent : PostgresExecutionIntent)
    (reservedAt : ℤ) : Except String (Option PendingAction) := do
  let decision ← (evaluateWbAutomation policy observation).mapError
    WbAutomationDecisionError.message
  let snapshot ← applyPostgresExecutionIntent policy ⟨observation, decision⟩ intent
    lastAppliedSnapshot
  return pendingFromDecision snapshot.decision.action snapshot.observation policy.minBidKopecks
    reservedAt

end AdsControl.Wb
