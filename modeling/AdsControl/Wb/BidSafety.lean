import AdsControl.Wb.Corridor

/-!
# Bid safety of a whole cycle

The chain evaluate, apply the intent, derive the pending action, for every policy, observation,
baseline and intent. The quota override is the one intent that rewrites the hold of a gate, so it
skips two guards the other intents rely on: the repair of bids above the ceiling and the bid-write
switch.

* `OverrideOpen`, `quotaEligible`: when the override reaches pacing, and the snapshot it judges;
* **`pendingForIntent_inCorridor_iff`**: a pending change is in the corridor, unless the override
  cuts a bid more than one step above the ceiling;
* `FrontierStep`, **`only_pause_without_bidWrites_iff`**: with bid writes disabled only the
  protective pause becomes pending, unless the override reaches a frontier step.
-/

namespace AdsControl.Wb

open WbAutomationAction KeySelect Machine Fallible

variable {policy : WbAutomationPolicy} {observation : WbAutomationObservation}
  {observations : SkuMap} {lastAppliedSnapshot : Option WbAutomationSnapshot}

/-! ## The chain -/

theorem pendingForIntent_eq_ok {intent : PostgresExecutionIntent} {reservedAt : ℤ}
    {pending : PendingAction} :
    pendingForIntent policy observation lastAppliedSnapshot intent reservedAt =
        .ok (some pending) ↔
      ∃ decision, evaluateWbAutomation policy observation = .ok decision ∧
        ∃ replacement, replacementDecision policy ⟨observation, decision⟩ lastAppliedSnapshot
            intent = .ok replacement ∧
          pendingKind (replacement.getD decision).action observation policy.minBidKopecks =
            some pending.kind ∧ pending.reservedAt = reservedAt := by
  simp only [pendingForIntent, applyPostgresExecutionIntent, ok_of_bind, ok_of_mapError, ok_of_pure]
  constructor
  · rintro ⟨decision, hd, snapshot, ⟨replacement, hr, hs⟩, hp⟩
    refine ⟨decision, hd, replacement, hr, ?_⟩
    cases replacement <;> simp only [ok_of_pure] at hs <;> subst hs <;>
      (simp only [pendingFromDecision, Option.map_eq_some_iff] at hp
       obtain ⟨kind, hk, rfl⟩ := hp
       exact ⟨hk, rfl⟩)
  · rintro ⟨decision, hd, replacement, hr, hk, rfl⟩
    refine ⟨decision, hd, ⟨observation, replacement.getD decision⟩, ⟨replacement, hr, ?_⟩, ?_⟩
    · cases replacement <;> rfl
    · simp only [pendingFromDecision, hk]
      rfl

theorem skuAction_hold {result : WbAutomationAction × List WbAutomationSkuStop}
    (h : skuAction policy observation observations = .ok result) :
    result.1 ≠ hold .actionQuotaExhausted := by
  have hrec : ∀ skus action, recoverMinimum policy skus = some action →
      action ≠ hold .actionQuotaExhausted := by
    intro skus action hr
    obtain ⟨sku, -, rfl⟩ := Option.map_eq_some_iff.mp hr
    simp
  unfold skuAction at h
  split at h
  · cases h; simp
  split at h
  · cases h; simp
  split at h
  · cases h
    unfold campaignLevelAction
    split
    · simp
    dsimp only
    split
    · simp
    split
    · exact hrec _ _ ‹_›
    split <;> simp
  · simp only [attributedAction, ok_of_bind] at h
    obtain ⟨stops, -, h⟩ := h
    split at h
    · cases h; simp
    split at h
    · cases h
      exact hrec _ _ ‹_›
    simp only [ok_of_bind] at h
    obtain ⟨changes, -, h⟩ := h
    cases changes <;> cases h <;> simp

/-! ## The quota override -/

/-- The override reaches pacing: marginal feedback, an exhausted quota, an elapsed cooldown. -/
def OverrideOpen (policy : WbAutomationPolicy) (observation : WbAutomationObservation) : Prop :=
  policy.autonomousPacing.usesMarginalFeedback = true ∧
    campaignGate policy observation = some (hold .actionQuotaExhausted) ∧
    observation.lastActionAt.all (fun lastAction =>
      decide (lastAction + seconds policy.cooldownSeconds ≤ observation.observedAt)) = true

/-- The snapshot the override hands to pacing. -/
def quotaEligible (policy : WbAutomationPolicy) (observation : WbAutomationObservation) :
    WbAutomationSnapshot :=
  ⟨observation, ⟨policy.accountId, policy.campaignId, observation.observedAt,
    hold .attributionIncomplete, []⟩⟩

theorem maxActions_le_of_gate
    (h : campaignGate policy observation = some (hold .actionQuotaExhausted)) :
    policy.maxActionsPerDay ≤ observation.actionsToday := by
  revert h
  fun_cases campaignGate policy observation
  case case10 => exact fun _ => ‹_›
  all_goals simp

theorem evaluate_of_gate (hp : validatePolicy policy = .ok ())
    (ho : validateObservation policy observation = .ok observations)
    {action : WbAutomationAction} (hg : campaignGate policy observation = some action) :
    evaluateWbAutomation policy observation =
      .ok ⟨policy.accountId, policy.campaignId, observation.observedAt, action, []⟩ := by
  simp only [evaluateWbAutomation, ok_of_bind, ok_of_pure]
  exact ⟨(), hp, observations, ho, (action, []), by simp [gatedAction, hg], rfl⟩

theorem override_iff {decision : WbAutomationDecision}
    (hd : evaluateWbAutomation policy observation = .ok decision)
    {replacement : Option WbAutomationDecision} :
    explicitQuotaOverrideDecision policy ⟨observation, decision⟩ lastAppliedSnapshot =
        .ok replacement ↔
      OverrideOpen policy observation ∧
        trafficFrontierPacingDecision policy (quotaEligible policy observation)
          lastAppliedSnapshot = .ok replacement := by
  have hshape : decision.accountId = policy.accountId ∧ decision.campaignId = policy.campaignId ∧
      decision.observedAt = observation.observedAt := by
    simp only [evaluateWbAutomation, ok_of_bind, ok_of_pure] at hd
    obtain ⟨_, _, _, _, _, _, rfl⟩ := hd
    exact ⟨rfl, rfl, rfl⟩
  obtain ⟨hp, m, ho, hcase⟩ := evaluate_cases hd
  have hgate : decision.action = hold .actionQuotaExhausted ↔
      campaignGate policy observation = some (hold .actionQuotaExhausted) := by
    rcases hcase with ⟨hg, -⟩ | ⟨hg, hact⟩
    · rw [hg, Option.some.injEq]
    · have := skuAction_hold hact
      simp [this, hg]
  have heligible : campaignGate policy observation = some (hold .actionQuotaExhausted) →
      (⟨observation, { decision with action := hold .attributionIncomplete }⟩ :
        WbAutomationSnapshot) = quotaEligible policy observation := by
    intro hg
    rcases hcase with ⟨-, hstops⟩ | ⟨hnone, -⟩
    · rw [quotaEligible, hshape.1, hshape.2.1, hshape.2.2, hstops]
    · rw [hg] at hnone
      cases hnone
  simp only [explicitQuotaOverrideDecision, ok_of_bind, ensure_eq_ok, hgate]
  constructor
  · rintro ⟨_, hm, _, ⟨hg, -⟩, _, hcool, hpace⟩
    exact ⟨⟨hm, hg, hcool⟩, heligible hg ▸ hpace⟩
  · rintro ⟨⟨hm, hg, hcool⟩, hpace⟩
    exact ⟨(), hm, (), ⟨hg, maxActions_le_of_gate hg⟩, (), hcool, (heligible hg).symm ▸ hpace⟩

/-! ## The other intents -/

theorem bidCapRepair_inCorridor (hp : PolicyBounds policy)
    (ho : ObservedBy policy observation observations) {decision replacement : WbAutomationDecision}
    (h : explicitBidCapRepairDecision policy ⟨observation, decision⟩ = .ok replacement) :
    ActionInCorridor policy observation replacement.action := by
  simp only [explicitBidCapRepairDecision, ok_of_bind, ensure_eq_ok] at h
  obtain ⟨-, -, -, -, -, -, -, -, -, -, h⟩ := h
  split at h
  · cases h
    exact actionInCorridor_hold _
  · rename_i sku hfind
    cases h
    have hs := of_mem_listedSkus (List.mem_of_find?_eq_some hfind)
    have hgt : policy.maxBidKopecks < sku.currentBidKopecks := by simpa using List.find?_some hfind
    exact actionInCorridor_change ho hs (ho.floor_le_max hp hs) hgt.ne le_rfl

theorem exposureIncrease_inCorridor (hp : PolicyBounds policy)
    (ho : ObservedBy policy observation observations) {decision replacement : WbAutomationDecision}
    {target : ℕ}
    (h : explicitExposureIncreaseDecision policy ⟨observation, decision⟩ target =
      .ok replacement) :
    ActionInCorridor policy observation replacement.action := by
  simp only [explicitExposureIncreaseDecision, ok_of_bind, ensure_eq_ok, context_eq_ok,
    ok_of_pure] at h
  obtain ⟨-, -, -, -, metrics, -, -, -, sku, hsel, toBid, hr, -, -, rfl⟩ := h
  exact exposureRaise_inCorridor hp ho hsel hr _

theorem resume_action {decision replacement : WbAutomationDecision}
    (h : explicitResumeAfterDailyCapDecision policy ⟨observation, decision⟩ = .ok replacement) :
    policy.bidWritesEnabled = true ∧ replacement.action = resumeCampaignAfterDailyCap := by
  simp only [explicitResumeAfterDailyCapDecision, ok_of_bind, ensure_eq_ok, ok_of_pure] at h
  obtain ⟨-, hw, -, -, -, -, -, -, -, -, -, -, -, -, rfl⟩ := h
  exact ⟨hw.2, rfl⟩

theorem pacing_hold {snapshot : WbAutomationSnapshot} {replacement : WbAutomationDecision}
    (h : trafficFrontierPacingDecision policy snapshot lastAppliedSnapshot = .ok (some replacement)) :
    snapshot.decision.action = hold .attributionIncomplete := by
  by_contra hne
  rw [trafficFrontierPacingDecision, if_pos hne] at h
  cases h

/-- **Every intent but the override keeps its replacement in the corridor.** -/
theorem replacement_inCorridor {decision replacement : WbAutomationDecision}
    (hd : evaluateWbAutomation policy observation = .ok decision) {intent : PostgresExecutionIntent}
    (hintent : intent ≠ .explicitQuotaOverride)
    (h : replacementDecision policy ⟨observation, decision⟩ lastAppliedSnapshot intent =
      .ok (some replacement)) :
    ActionInCorridor policy observation replacement.action := by
  obtain ⟨hp, m, ho, -⟩ := evaluate_cases hd
  cases intent with
  | explicitQuotaOverride => exact absurd rfl hintent
  | explicitExposureTarget target =>
    simp only [replacementDecision, ok_of_map, Option.some.injEq, exists_eq_right] at h
    exact exposureIncrease_inCorridor hp ho h
  | explicitResumeAfterDailyCap =>
    simp only [replacementDecision, ok_of_map, Option.some.injEq, exists_eq_right] at h
    rw [(resume_action h).2]
    exact actionInCorridor_resume
  | explicitBidCapRepair =>
    simp only [replacementDecision, ok_of_map, Option.some.injEq, exists_eq_right] at h
    exact bidCapRepair_inCorridor hp ho h
  | automatic =>
    simp only [replacementDecision] at h
    split at h
    · -- the hold was produced behind the ceiling repair, so every bid is at most the ceiling
      have hle := ((evaluate_inCorridor hd).2 (pacing_hold h)).2
      refine pacing_inCorridor hp ho (fun _ sku hs => ?_) h
      exact (Nat.sub_le _ _).trans (hle sku hs)
    · split at h
      · exact exposurePacing_inCorridor hp ho h
      · cases h

/-! ## The corridor of a pending change -/

/-- **A pending bid change is in the corridor**, unless the quota override cuts a bid that stays
above the ceiling after one step. -/
theorem pendingForIntent_inCorridor_iff (hp : validatePolicy policy = .ok ())
    (ho : ∃ observations, validateObservation policy observation = .ok observations)
    (lastAppliedSnapshot : Option WbAutomationSnapshot) (intent : PostgresExecutionIntent) :
    (∀ reservedAt pending changes, pendingForIntent policy observation lastAppliedSnapshot intent
        reservedAt = .ok (some pending) → pending.kind = .changeBids changes →
      ∃ change, changes = [change] ∧ InCorridor policy observation change) ↔
    (intent = .explicitQuotaOverride → OverrideOpen policy observation →
      (∃ reason, DecreaseCalledFor policy (quotaEligible policy observation) lastAppliedSnapshot
        reason) →
      ∀ sku ∈ observation.skus,
        steppedDown policy sku.currentBidKopecks ≤ policy.maxBidKopecks) := by
  obtain ⟨observations, ho⟩ := ho
  have hb := bounds_of_validatePolicy hp
  have hob := observedBy_of_validateObservation ho
  constructor
  · rintro hsafe rfl hopen ⟨reason, hcalled⟩ sku hs
    by_contra hgt
    have hbid : policy.maxBidKopecks < sku.currentBidKopecks :=
      (not_le.mp hgt).trans_le (Nat.sub_le _ _)
    obtain ⟨decision, highest, hdec, hstep, hact⟩ := frontierDecrease_of_mem
      (quotaEligible policy observation) reason hb hs ((hob.floor_le_max hb hs).trans_lt hbid)
    have heval := evaluate_of_gate hp ho hopen.2.1
    have hpend : pendingForIntent policy observation lastAppliedSnapshot .explicitQuotaOverride 0 =
        .ok (some ⟨0, .changeBids [⟨highest.nmId, highest.currentBidKopecks,
          max (steppedDown policy highest.currentBidKopecks) (effectiveMinimumBid policy highest),
          reason⟩]⟩) :=
      pendingForIntent_eq_ok.mpr ⟨_, heval, some decision, (override_iff heval).mpr ⟨hopen,
        (pacing_of_decreaseCalledFor rfl hcalled).trans (congrArg _ hdec)⟩, by
          simp [pendingKind, hact], rfl⟩
    obtain ⟨change, hch, hin⟩ := hsafe 0 _ _ hpend rfl
    rw [List.cons.injEq] at hch
    have hmax := hin.le_max
    rw [← hch.1] at hmax
    exact hgt (hstep.trans ((le_max_left _ _).trans hmax))
  · intro hcond reservedAt pending changes hpend hkind
    obtain ⟨decision, hd, replacement, hr, hk, -⟩ := pendingForIntent_eq_ok.mp hpend
    rw [hkind] at hk
    cases replacement with
    | none => exact (evaluate_inCorridor hd).1 changes hk
    | some replacement =>
      by_cases hintent : intent = .explicitQuotaOverride
      · subst hintent
        obtain ⟨hopen, hpace⟩ := (override_iff hd).mp hr
        exact pacing_inCorridor hb hob
          (hcond rfl hopen) hpace changes hk
      · exact replacement_inCorridor hd hintent hr changes hk

/-- A live bid far above the ceiling, an exhausted quota and clicks without an order. -/
def overpricedObservation : WbAutomationObservation where
  observedAt := seconds 43200
  campaignStatus := 9
  pausedByAutomation := false
  budgetRemainingMinor := 100000
  dailySpendMinor := 5000
  dailySpendComplete := true
  actionsToday := 12
  lastActionAt := none
  attributionComplete := false
  campaignLevelMetrics := none
  currentCampaignMetrics := some ⟨300, 20, 5000, 0, 0⟩
  skus := [⟨449627598, 102, 2000, 10, 0, 0, 0, 0, 0⟩, ⟨449627015, 102, 200, 10, 0, 0, 0, 0, 0⟩]

/-- With quota left the automatic cycle brings the same bid back into the corridor. -/
theorem pendingForIntent_inCorridor_robot : ∃ pending change,
    pendingForIntent robotPolicy { overpricedObservation with actionsToday := 0 } none .automatic 0 =
        .ok (some pending) ∧ pending.kind = .changeBids [change] ∧
      InCorridor robotPolicy { overpricedObservation with actionsToday := 0 } change := by
  have hp : validatePolicy robotPolicy = .ok () := rfl
  have ho : ∃ observations, validateObservation robotPolicy
      { overpricedObservation with actionsToday := 0 } = .ok observations := ⟨_, rfl⟩
  obtain ⟨change, hch, hin⟩ := (pendingForIntent_inCorridor_iff hp ho none .automatic).mpr
    (fun h => by cases h) 0
    ⟨0, .changeBids [⟨449627598, 2000, 1200, .policyMaximumExceeded⟩]⟩ _ rfl rfl
  exact ⟨⟨0, _⟩, change, rfl, congrArg PendingActionKind.changeBids hch, hin⟩

/-- The override cuts the live bid of 2000 kopecks to 1900, still above the ceiling of 1200. -/
theorem pendingForIntent_above_ceiling :
    ¬ ∀ (policy : WbAutomationPolicy) (observation : WbAutomationObservation)
      (lastAppliedSnapshot : Option WbAutomationSnapshot) (intent : PostgresExecutionIntent),
      validatePolicy policy = .ok () →
      (∃ observations, validateObservation policy observation = .ok observations) →
      ∀ reservedAt pending changes, pendingForIntent policy observation lastAppliedSnapshot intent
          reservedAt = .ok (some pending) → pending.kind = .changeBids changes →
        ∃ change, changes = [change] ∧ InCorridor policy observation change := by
  intro h
  obtain ⟨change, hch, hin⟩ := h robotPolicy overpricedObservation none .explicitQuotaOverride rfl
    ⟨_, rfl⟩ 0 ⟨0, .changeBids [⟨449627598, 2000, 1900, .noOrdersAfterClicks⟩]⟩ _ rfl rfl
  rw [List.cons.injEq] at hch
  have hmax := hin.le_max
  rw [← hch.1] at hmax
  exact absurd hmax (by decide)

/-! ## Disabled bid writes -/

theorem increaseBid_of_le {current higher minimum minimum' value : ℕ} (hle : current ≤ higher)
    (h : increaseBid policy higher minimum = .ok value) :
    ∃ raised, increaseBid policy current minimum' = .ok raised := by
  unfold increaseBid at h
  split at h
  · cases h
  rename_i scaled hscaled
  split at h
  · cases h
  rename_i sum hsum
  obtain ⟨rfl, hs⟩ := checkedMul_eq_some.mp hscaled
  obtain ⟨rfl, ha⟩ := checkedAdd_eq_some.mp hsum
  have hmul : current * policy.bidStepPercent ≤ higher * policy.bidStepPercent :=
    Nat.mul_le_mul_right _ hle
  have hdiv : current * policy.bidStepPercent / 100 ≤ higher * policy.bidStepPercent / 100 :=
    Nat.div_le_div_right hmul
  unfold increaseBid
  rw [checkedMul_eq_some.mpr ⟨rfl, hmul.trans_lt hs⟩]
  dsimp only
  rw [checkedAdd_eq_some.mpr ⟨rfl, by omega⟩]
  exact ⟨_, rfl⟩

/-- Some SKU in stock has room below the dynamic cap and its raise does not overflow. -/
def RaisePossible (policy : WbAutomationPolicy) (snapshot : WbAutomationSnapshot)
    (feedback : WbAutomationCampaignMetrics) : Prop :=
  ∃ frontier cap, policy.trafficFrontierBidKopecks = some frontier ∧
    trafficFrontierDynamicCap policy snapshot feedback = .ok cap ∧ frontier ≤ cap ∧
    ∃ sku ∈ snapshot.observation.skus, policy.minSellableStock < sku.sellableStock ∧
      sku.currentBidKopecks < cap ∧ effectiveMinimumBid policy sku ≤ cap ∧
      (sku.currentBidKopecks < frontier ∨ ∃ raised, increaseBid policy sku.currentBidKopecks
        (effectiveMinimumBid policy sku) = .ok raised)

theorem frontierIncrease_iff {snapshot : WbAutomationSnapshot}
    {feedback : WbAutomationCampaignMetrics} :
    (∃ decision, trafficFrontierIncreaseDecision policy snapshot feedback = .ok (some decision)) ↔
      RaisePossible policy snapshot feedback := by
  simp only [trafficFrontierIncreaseDecision, ok_of_bind, context_eq_ok]
  constructor
  · rintro ⟨decision, frontier, hf, cap, hcap, h⟩
    split at h
    · cases h
    rename_i hle
    split at h
    · cases h
    rename_i sku hsel
    have hm := List.mem_filter.mp (minByKey_mem hsel)
    simp only [decide_eq_true_eq] at hm
    refine ⟨frontier, cap, hf, hcap, not_lt.mp hle, sku, hm.1, hm.2.1, hm.2.2.1, hm.2.2.2, ?_⟩
    split at h
    · exact .inl ‹_›
    · simp only [ok_of_bind, ok_of_mapError] at h
      obtain ⟨raised, hr, -⟩ := h
      exact .inr ⟨raised, hr⟩
  · rintro ⟨frontier, cap, hf, hcap, hle, sku, hs, hstock, hcur, hfloor, hraise⟩
    have hmem : sku ∈ snapshot.observation.skus.filter fun sku =>
        decide (policy.minSellableStock < sku.sellableStock ∧ sku.currentBidKopecks < cap ∧
          effectiveMinimumBid policy sku ≤ cap) :=
      List.mem_filter.mpr ⟨hs, by simpa using ⟨hstock, hcur, hfloor⟩⟩
    cases hsel : minByKey (fun sku => toLex (sku.currentBidKopecks, sku.nmId))
        (snapshot.observation.skus.filter fun sku =>
          decide (policy.minSellableStock < sku.sellableStock ∧ sku.currentBidKopecks < cap ∧
            effectiveMinimumBid policy sku ≤ cap)) with
    | none =>
      rw [minByKey_eq_none hsel] at hmem
      cases hmem
    | some least =>
      have hleast : least.currentBidKopecks ≤ sku.currentBidKopecks := by
        rcases Prod.Lex.le_iff.mp (minByKey_le hsel sku hmem) with h | h
        · exact le_of_lt h
        · exact le_of_eq h.1
      by_cases hboot : least.currentBidKopecks < frontier
      · exact ⟨_, frontier, hf, cap, hcap, by rw [if_neg (not_lt.mpr hle), hsel]; simp [hboot]; rfl⟩
      · obtain ⟨raised, hr⟩ : ∃ raised, increaseBid policy least.currentBidKopecks
            (effectiveMinimumBid policy least) = .ok raised := by
          rcases hraise with h | ⟨value, h⟩
          · omega
          · exact increaseBid_of_le hleast h
        exact ⟨_, frontier, hf, cap, hcap, by
          rw [if_neg (not_lt.mpr hle), hsel]
          simp only [hboot, if_false, ok_of_bind, ok_of_mapError]
          exact ⟨raised, hr, rfl⟩⟩

/-- Pacing reaches a cut with some bid above its floor, or a raise that is possible. -/
def FrontierStep (policy : WbAutomationPolicy) (snapshot : WbAutomationSnapshot)
    (lastAppliedSnapshot : Option WbAutomationSnapshot) : Prop :=
  ((∃ reason, DecreaseCalledFor policy snapshot lastAppliedSnapshot reason) ∧
      ∃ sku ∈ snapshot.observation.skus,
        effectiveMinimumBid policy sku < sku.currentBidKopecks) ∨
    ∃ feedback, IncreaseCalledFor policy snapshot lastAppliedSnapshot feedback ∧
      RaisePossible policy snapshot feedback.metrics

/-- Pacing decides a change exactly at a frontier step. -/
theorem pacing_change_iff (hp : PolicyBounds policy) {snapshot : WbAutomationSnapshot}
    (hhold : snapshot.decision.action = hold .attributionIncomplete) :
    (∃ decision change, trafficFrontierPacingDecision policy snapshot lastAppliedSnapshot =
        .ok (some decision) ∧ decision.action = changeBids [change]) ↔
      FrontierStep policy snapshot lastAppliedSnapshot := by
  constructor
  · rintro ⟨decision, change, h, hact⟩
    obtain ⟨reason, hr⟩ | ⟨reason, hcalled, hd⟩ | ⟨feedback, hcalled, hi⟩ := pacing_cases h
    · rw [hact] at hr
      cases hr
    · obtain ⟨sku, hs, hfloor, -⟩ := frontierDecrease_spec hd
      exact .inl ⟨⟨reason, hcalled⟩, sku, hs, hfloor⟩
    · exact .inr ⟨feedback, hcalled, frontierIncrease_iff.mp ⟨decision, hi⟩⟩
  · rintro (⟨⟨reason, hcalled⟩, sku, hs, hfloor⟩ | ⟨feedback, hcalled, hraise⟩)
    · obtain ⟨decision, highest, hd, -, hact⟩ := frontierDecrease_of_mem snapshot reason hp hs hfloor
      exact ⟨decision, _, (pacing_of_decreaseCalledFor hhold hcalled).trans (congrArg _ hd), hact⟩
    · obtain ⟨decision, hi⟩ := frontierIncrease_iff.mpr hraise
      obtain ⟨change, hact, -⟩ := frontierIncrease_reason hi
      exact ⟨decision, change, pacing_of_increaseCalledFor hhold hcalled hi, hact⟩

theorem evaluate_without_bidWrites (hw : policy.bidWritesEnabled = false)
    {decision : WbAutomationDecision}
    (hd : evaluateWbAutomation policy observation = .ok decision) :
    decision.action = pauseCampaignForDailyCap ∨
      ∃ reason, decision.action = hold reason ∧ reason ≠ .attributionIncomplete := by
  obtain ⟨-, m, -, ⟨hg, -⟩ | ⟨-, hact⟩⟩ := evaluate_cases hd
  · exact campaignGate_kind hg
  · rw [skuAction, if_pos hw, Except.ok.injEq, Prod.mk.injEq] at hact
    exact .inr ⟨_, hact.1.symm, by decide⟩

/-- With bid writes disabled no intent but the override replaces the decision. -/
theorem replacement_without_bidWrites (hw : policy.bidWritesEnabled = false)
    {decision replacement : WbAutomationDecision}
    (hd : evaluateWbAutomation policy observation = .ok decision) {intent : PostgresExecutionIntent}
    (hintent : intent ≠ .explicitQuotaOverride) :
    replacementDecision policy ⟨observation, decision⟩ lastAppliedSnapshot intent ≠
      .ok (some replacement) := by
  have hne : decision.action ≠ hold .attributionIncomplete := by
    obtain h | ⟨reason, h, hr⟩ := evaluate_without_bidWrites hw hd <;> rw [h] <;> simp_all
  intro h
  cases intent with
  | explicitQuotaOverride => exact hintent rfl
  | explicitExposureTarget target =>
    simp only [replacementDecision, ok_of_map, explicitExposureIncreaseDecision, ok_of_bind,
      ensure_eq_ok] at h
    obtain ⟨_, ⟨-, -, -, hact, -⟩, -⟩ := h
    exact hne hact
  | explicitResumeAfterDailyCap =>
    simp only [replacementDecision, ok_of_map, Option.some.injEq, exists_eq_right] at h
    rw [(resume_action h).1] at hw
    cases hw
  | explicitBidCapRepair =>
    simp only [replacementDecision, ok_of_map, explicitBidCapRepairDecision, ok_of_bind,
      ensure_eq_ok] at h
    obtain ⟨_, ⟨-, ⟨-, hbid, -⟩, -⟩, -⟩ := h
    rw [hbid] at hw
    cases hw
  | automatic =>
    simp only [replacementDecision] at h
    split at h
    · exact hne (pacing_hold h)
    · split at h
      · rw [autonomousExposurePacingDecision, if_pos hne] at h
        cases h
      · cases h

/-- **With bid writes disabled only the protective pause becomes pending**, unless the quota
override reaches a frontier step. -/
theorem only_pause_without_bidWrites_iff (hp : validatePolicy policy = .ok ())
    (ho : ∃ observations, validateObservation policy observation = .ok observations)
    (hw : policy.bidWritesEnabled = false) (lastAppliedSnapshot : Option WbAutomationSnapshot)
    (intent : PostgresExecutionIntent) :
    (∀ reservedAt pending, pendingForIntent policy observation lastAppliedSnapshot intent
        reservedAt = .ok (some pending) → pending.kind = .pauseCampaignForDailyCap) ↔
    ¬(intent = .explicitQuotaOverride ∧ OverrideOpen policy observation ∧
      FrontierStep policy (quotaEligible policy observation) lastAppliedSnapshot) := by
  obtain ⟨observations, ho⟩ := ho
  have hb := bounds_of_validatePolicy hp
  constructor
  · rintro hsafe ⟨rfl, hopen, hstep⟩
    obtain ⟨decision, change, hpace, hact⟩ := (pacing_change_iff hb rfl).mpr hstep
    have heval := evaluate_of_gate hp ho hopen.2.1
    have hpend : pendingForIntent policy observation lastAppliedSnapshot .explicitQuotaOverride 0 =
        .ok (some ⟨0, .changeBids [change]⟩) :=
      pendingForIntent_eq_ok.mpr ⟨_, heval, some decision, (override_iff heval).mpr ⟨hopen, hpace⟩,
        by simp [pendingKind, hact], rfl⟩
    have := hsafe 0 _ hpend
    cases this
  · intro hcond reservedAt pending hpend
    obtain ⟨decision, hd, replacement, hr, hk, -⟩ := pendingForIntent_eq_ok.mp hpend
    cases replacement with
    | none =>
      obtain h | ⟨reason, h, -⟩ := evaluate_without_bidWrites hw hd <;>
        rw [Option.getD_none, h] at hk
      · simp only [pendingKind, Option.some.injEq] at hk
        exact hk.symm
      · cases hk
    | some replacement =>
      by_cases hintent : intent = .explicitQuotaOverride
      · subst hintent
        obtain ⟨hopen, hpace⟩ := (override_iff hd).mp hr
        rw [Option.getD_some] at hk
        obtain ⟨reason, h⟩ | ⟨reason, -, h⟩ | ⟨feedback, -, h⟩ := pacing_cases hpace
        · rw [h] at hk
          cases hk
        · obtain ⟨sku, -, -, hact⟩ := frontierDecrease_spec h
          exact absurd ⟨rfl, hopen, (pacing_change_iff hb rfl).mp ⟨_, _, hpace, hact⟩⟩ hcond
        · obtain ⟨change, hact, -⟩ := frontierIncrease_reason h
          exact absurd ⟨rfl, hopen, (pacing_change_iff hb rfl).mp ⟨_, _, hpace, hact⟩⟩ hcond
      · exact absurd hr (replacement_without_bidWrites hw hd hintent)

/-- The policy of the protective rollout: writes enabled, bid writes not. -/
def protectivePolicy : WbAutomationPolicy := { robotPolicy with bidWritesEnabled := false }

/-- Live bids inside the corridor, an exhausted quota and clicks without an order. -/
def exhaustedObservation : WbAutomationObservation :=
  { overpricedObservation with
    skus := [⟨449627598, 102, 900, 10, 0, 0, 0, 0, 0⟩, ⟨449627015, 102, 200, 10, 0, 0, 0, 0, 0⟩] }

/-- The automatic cycle of the protective rollout pauses an overspent campaign. -/
theorem only_pause_without_bidWrites_protective : ∃ pending,
    pendingForIntent protectivePolicy { exhaustedObservation with dailySpendMinor := 46000 } none
        .automatic 0 = .ok (some pending) ∧ pending.kind = .pauseCampaignForDailyCap := by
  have hp : validatePolicy protectivePolicy = .ok () := rfl
  have ho : ∃ observations, validateObservation protectivePolicy
      { exhaustedObservation with dailySpendMinor := 46000 } = .ok observations := ⟨_, rfl⟩
  have honly := (only_pause_without_bidWrites_iff hp ho rfl none .automatic).mpr
    fun h => by cases h.1
  exact ⟨⟨0, .pauseCampaignForDailyCap⟩, rfl, honly 0 _ rfl⟩

/-- The override cuts a bid although bid writes are disabled. -/
theorem changeBids_without_bidWrites :
    ¬ ∀ (policy : WbAutomationPolicy) (observation : WbAutomationObservation)
      (lastAppliedSnapshot : Option WbAutomationSnapshot) (intent : PostgresExecutionIntent),
      validatePolicy policy = .ok () →
      (∃ observations, validateObservation policy observation = .ok observations) →
      policy.bidWritesEnabled = false →
      ∀ reservedAt pending, pendingForIntent policy observation lastAppliedSnapshot intent
        reservedAt = .ok (some pending) → pending.kind = .pauseCampaignForDailyCap := by
  intro h
  have := h protectivePolicy exhaustedObservation none .explicitQuotaOverride rfl ⟨_, rfl⟩ rfl 0
    ⟨0, .changeBids [⟨449627598, 900, 855, .noOrdersAfterClicks⟩]⟩ rfl
  cases this

end AdsControl.Wb
