import AdsControl.Wb.Direction
import AdsControl.Wb.Frontier

/-!
# The advertising cost guards

Five guards compare spend with a share of the revenue: the hard stop and the target reduction of a row, the
cut and the raise at the traffic frontier, and the exposure raise. Four of them round the ratio; the last one
multiplies out.

* `Alone`: the evaluation comes to the rules for single rows, and only one row asks for anything;
* `Paced`, `RaiseOpen`: frontier pacing comes to its rules, and nothing but the ratio is left to decide;
* `ExactAt`: the evaluation and the pacing decide as the exact comparison does;
* **`exactAt_iff`**: the guards are exact outside of one basis point above the limit and below `2 ^ 32`.
-/

namespace AdsControl.Wb

open WbAutomationAction Machine Fallible

/-! ## Where a guard decides -/

/-- The row comes to the DRR test of the hard stops. -/
def ReachesHardDrr (policy : WbAutomationPolicy) (sku : WbAutomationSkuObservation) : Prop :=
  policy.minSellableStock < sku.sellableStock ∧ ¬ (sku.attributedOrders = 0 ∧
    (policy.noOrderDisableClicks ≤ sku.clicks ∨ policy.noOrderDisableSpendMinor ≤ sku.spendMinor))

/-- The row comes to the target test of the ordinary changes, with a bid that can be lowered. -/
def ReachesTargetDrr (policy : WbAutomationPolicy) (sku : WbAutomationSkuObservation) : Prop :=
  ¬ (sku.attributedOrders = 0 ∧ policy.noOrderReduceClicks ≤ sku.clicks) ∧
    effectiveMinimumBid policy sku < sku.currentBidKopecks

/-- The evaluation comes to the rules for single rows, and no row but `sku` asks for anything. -/
structure Alone (policy : WbAutomationPolicy) (observation : WbAutomationObservation)
    (sku : WbAutomationSkuObservation) : Prop where
  valid : validatePolicy policy = .ok ()
  observed : ∃ observations, validateObservation policy observation = .ok observations
  gate : campaignGate policy observation = none
  writes : policy.bidWritesEnabled = true
  complete : observation.attributionComplete = true
  ceiling : ∀ row ∈ observation.skus, row.currentBidKopecks ≤ policy.maxBidKopecks
  listed : sku ∈ observation.skus
  others : ∀ other ∈ observation.skus, other ≠ sku → skuStop policy other = .ok none ∧
    bidChange policy other = .ok none ∧ effectiveMinimumBid policy other ≤ other.currentBidKopecks

/-- The row is under the hard stop for its DRR: disabled, or reported because it has no room left. -/
def HardStopped (decision : WbAutomationDecision) (sku : WbAutomationSkuObservation) : Prop :=
  decision.action = disableSku sku.nmId .hardDrrExceeded ∨
    (⟨sku.nmId, .hardDrrExceeded⟩ : WbAutomationSkuStop) ∈ decision.unresolvedStops

/-- The one change of the decision has one of the reasons. -/
def ChangesFor (decision : WbAutomationDecision) (reasons : List WbAutomationBidReason) : Prop :=
  ∃ change, decision.action = changeBids [change] ∧ change.reason ∈ reasons

/-- Frontier pacing comes to its rules with this feedback, and the feedback has no clicks without an order. -/
structure Paced (policy : WbAutomationPolicy) (snapshot : WbAutomationSnapshot)
    (baseline : Option WbAutomationSnapshot) (metrics : WbAutomationCampaignMetrics)
    (feedback : TrafficFrontierFeedback) : Prop where
  waiting : snapshot.decision.action = hold .attributionIncomplete
  current : snapshot.observation.currentCampaignMetrics = some metrics
  consistent : consistentMetrics metrics
  measured : trafficFrontierFeedback policy snapshot metrics baseline = .ok (some feedback)
  orders : ∃ clicks, noOrderClicks policy = .ok clicks ∧
    ¬ (feedback.metrics.attributedOrders = 0 ∧ clicks ≤ feedback.metrics.clicks)

/-- Everything but the ratio allows `raised`. -/
structure RaiseOpen (policy : WbAutomationPolicy) (snapshot : WbAutomationSnapshot)
    (metrics : WbAutomationCampaignMetrics) (feedback : TrafficFrontierFeedback)
    (raised : WbAutomationDecision) : Prop where
  target : ¬ (policy.autonomousPacing.usesMarginalFeedback ∧
    policy.targetOrdersPerDay ≤ metrics.attributedOrders)
  pace : spendUnderPace policy snapshot.observation.observedAt metrics = true
  impressions : metrics.impressions < pacedValue policy.targetImpressionsPerDay snapshot.observation.observedAt
  orders : feedback.metrics.attributedOrders ≠ 0
  clicks : feedback.metrics.clicks ≠ 0
  raise : trafficFrontierIncreaseDecision policy snapshot feedback.metrics = .ok (some raised)

/-- **Every guard takes `spend` of `revenue` to be above `limit` exactly when it is**: the rules of a row, the
decision of the evaluation, and the decisions of the two kinds of pacing. -/
structure ExactAt (limit spend revenue : ℕ) : Prop where
  rowStop : ∀ policy sku, policy.hardDrrBasisPoints = limit → sku.spendMinor = spend →
    sku.attributedRevenueMinor = revenue → ReachesHardDrr policy sku →
    (skuStop policy sku = .ok (some .hardDrrExceeded) ↔ Exceeds limit spend revenue)
  hardStop : ∀ policy observation sku, policy.hardDrrBasisPoints = limit → sku.spendMinor = spend →
    sku.attributedRevenueMinor = revenue → Alone policy observation sku → ReachesHardDrr policy sku →
    ((∃ decision, evaluateWbAutomation policy observation = .ok decision ∧ HardStopped decision sku) ↔
      Exceeds limit spend revenue)
  rowReduction : ∀ policy sku, policy.targetDrrBasisPoints = limit → sku.spendMinor = spend →
    sku.attributedRevenueMinor = revenue → ReachesTargetDrr policy sku →
    ((∃ change, bidChange policy sku = .ok (some change) ∧ change.reason = .targetDrrExceeded) ↔
      Exceeds limit spend revenue)
  targetReduction : ∀ policy observation sku, policy.targetDrrBasisPoints = limit → sku.spendMinor = spend →
    sku.attributedRevenueMinor = revenue → Alone policy observation sku → skuStop policy sku = .ok none →
    ReachesTargetDrr policy sku →
    ((∃ decision, evaluateWbAutomation policy observation = .ok decision ∧
      ChangesFor decision [.targetDrrExceeded]) ↔ Exceeds limit spend revenue)
  frontierDecrease : ∀ policy snapshot baseline metrics feedback, policy.targetDrrBasisPoints = limit →
    feedback.metrics.spendMinor = spend → feedback.metrics.attributedRevenueMinor = revenue →
    Paced policy snapshot baseline metrics feedback →
    (∃ row ∈ snapshot.observation.skus, effectiveMinimumBid policy row < row.currentBidKopecks) →
    ((∃ decision, trafficFrontierPacingDecision policy snapshot baseline = .ok (some decision) ∧
      ChangesFor decision [.hardDrrExceeded, .targetDrrExceeded]) ↔ Exceeds limit spend revenue)
  marginalRaise : ∀ policy snapshot baseline metrics feedback raised, policy.targetDrrBasisPoints = limit →
    feedback.metrics.spendMinor = spend → feedback.metrics.attributedRevenueMinor = revenue →
    Paced policy snapshot baseline metrics feedback → RaiseOpen policy snapshot metrics feedback raised →
    (trafficFrontierPacingDecision policy snapshot baseline ≠ .ok (some raised) ↔ Exceeds limit spend revenue)
  exposure : ∀ policy snapshot metrics sku, policy.targetDrrBasisPoints = limit → metrics.spendMinor = spend →
    metrics.attributedRevenueMinor = revenue → snapshot.decision.action = hold .attributionIncomplete →
    snapshot.observation.campaignLevelMetrics = some metrics →
    metrics.impressions < policy.targetImpressionsPerDay → metrics.attributedOrders ≠ 0 →
    exposureCandidate policy snapshot.observation = some sku →
    (autonomousExposurePacingDecision policy snapshot = .ok none ↔ Exceeds limit spend revenue)

/-! ## The rules of a row -/

section Row

variable {policy : WbAutomationPolicy} {sku : WbAutomationSkuObservation}

theorem rowStop_of_rounds (hspend : sku.spendMinor < 2 ^ 64) (hrevenue : 0 < sku.attributedRevenueMinor)
    (hreaches : ReachesHardDrr policy sku)
    (h : Rounds policy.hardDrrBasisPoints sku.spendMinor sku.attributedRevenueMinor) :
    skuStop policy sku = .ok (if Exceeds policy.hardDrrBasisPoints sku.spendMinor sku.attributedRevenueMinor
      then some .hardDrrExceeded else none) := by
  obtain ⟨value, hvalue, hiff⟩ := h
  rw [skuStop, if_neg (not_le.mpr hreaches.1), if_neg hreaches.2, drrBasisPoints_eq hrevenue hspend, hvalue]
  simp [context, Except.map, hiff]

theorem reasonAndDirection_target {value : ℕ} {increase : Bool}
    (hreaches : ¬ (sku.attributedOrders = 0 ∧ policy.noOrderReduceClicks ≤ sku.clicks)) :
    reasonAndDirection policy sku (some value) = .ok (some (.targetDrrExceeded, increase)) ↔
      policy.targetDrrBasisPoints < value ∧ increase = false := by
  rw [reasonAndDirection, if_neg hreaches]
  by_cases hlt : policy.targetDrrBasisPoints < value
  · simp [hlt, eq_comm]
  · -- below the target no branch names the reason
    have hexplore : ∀ p : Prop, ∀ _ : Decidable p, (if p then
        some (WbAutomationBidReason.lowExposureExploration, true) else none) ≠
        some (.targetDrrExceeded, increase) := by
      intro p _
      split_ifs <;> simp
    refine ⟨fun hreason => ?_, fun h => absurd h.1 hlt⟩
    simp only [Option.any_some, hlt, decide_false, Bool.false_eq_true, if_false] at hreason
    split at hreason
    · simp only [ok_of_map] at hreason
      obtain ⟨conversion, _, hreason⟩ := hreason
      split at hreason
      · cases hreason
      · exact absurd hreason (hexplore _ _)
    · exact absurd (Except.ok.inj hreason) (hexplore _ _)

theorem rowReduction_of_rounds (hspend : sku.spendMinor < 2 ^ 64) (hrevenue : 0 < sku.attributedRevenueMinor)
    (hreaches : ReachesTargetDrr policy sku)
    (h : Rounds policy.targetDrrBasisPoints sku.spendMinor sku.attributedRevenueMinor) :
    (∃ change, bidChange policy sku = .ok (some change) ∧ change.reason = .targetDrrExceeded) ↔
      Exceeds policy.targetDrrBasisPoints sku.spendMinor sku.attributedRevenueMinor := by
  obtain ⟨value, hvalue, hiff⟩ := h
  have hdrr : drrBasisPoints sku = .ok (some value) := by
    rw [drrBasisPoints_eq hrevenue hspend, hvalue]
    rfl
  rw [← hiff]
  constructor
  · rintro ⟨change, hchange, hreason⟩
    obtain ⟨drr, reason, increase, toBid, hdrr', hdirection, rfl, -⟩ := of_bidChange hchange
    rw [hdrr, Except.ok.injEq] at hdrr'
    subst hdrr'
    obtain rfl : reason = .targetDrrExceeded := hreason
    exact ((reasonAndDirection_target hreaches.1).mp hdirection).1
  · intro hlt
    have hlower : decreaseBid policy sku.currentBidKopecks (effectiveMinimumBid policy sku) <
        sku.currentBidKopecks := decreaseFrontierBid_lt hreaches.2
    refine ⟨⟨sku.nmId, sku.currentBidKopecks,
      decreaseBid policy sku.currentBidKopecks (effectiveMinimumBid policy sku), .targetDrrExceeded⟩, ?_, rfl⟩
    simp only [bidChange, ok_of_bind]
    refine ⟨_, hdrr, _, (reasonAndDirection_target hreaches.1).mpr ⟨hlt, rfl⟩, ?_⟩
    simp only [ok_of_bind]
    refine ⟨_, rfl, ?_⟩
    rw [if_pos ⟨hlower.ne, by simpa using hlower.le⟩]
    rfl

end Row

/-! ## The evaluation -/

section Evaluation

variable {policy : WbAutomationPolicy} {observation : WbAutomationObservation} {observations : SkuMap}
  {sku : WbAutomationSkuObservation} {rows : List WbAutomationSkuObservation}

theorem skuStops_quiet (h : ∀ row ∈ rows, skuStop policy row = .ok none) : skuStops policy rows = .ok [] := by
  induction rows with
  | nil => rfl
  | cons row rows ih =>
    rw [skuStops, h row List.mem_cons_self, ih fun row hrow => h row (List.mem_cons_of_mem _ hrow)]
    rfl

theorem skuStops_alone {stop : Option WbAutomationDisableReason} (hnodup : rows.Nodup) (hmem : sku ∈ rows)
    (hothers : ∀ row ∈ rows, row ≠ sku → skuStop policy row = .ok none) (hstop : skuStop policy sku = .ok stop) :
    skuStops policy rows = .ok (stop.map fun reason => (sku, reason)).toList := by
  induction rows with
  | nil => cases hmem
  | cons row rows ih =>
    obtain ⟨hfresh, hnodup⟩ := List.nodup_cons.mp hnodup
    have hrest : ∀ row ∈ rows, row ≠ sku → skuStop policy row = .ok none := fun row hrow =>
      hothers row (List.mem_cons_of_mem _ hrow)
    by_cases heq : row = sku
    · subst heq
      rw [skuStops, hstop, skuStops_quiet fun row' hrow => hrest row' hrow (ne_of_mem_of_not_mem hrow hfresh)]
      cases stop <;> rfl
    · rw [skuStops, hothers row List.mem_cons_self heq,
        ih hnodup ((List.mem_cons.mp hmem).resolve_left (Ne.symm heq)) hrest]
      rfl

theorem bidChanges_quiet (h : ∀ row ∈ rows, bidChange policy row = .ok none) :
    bidChanges policy rows = .ok [] := by
  induction rows with
  | nil => rfl
  | cons row rows ih =>
    rw [bidChanges, h row List.mem_cons_self, ih fun row hrow => h row (List.mem_cons_of_mem _ hrow)]
    rfl

theorem bidChanges_alone (hnodup : rows.Nodup) (hmem : sku ∈ rows)
    (hothers : ∀ row ∈ rows, row ≠ sku → bidChange policy row = .ok none) :
    bidChanges policy rows = (bidChange policy sku).map Option.toList := by
  induction rows with
  | nil => cases hmem
  | cons row rows ih =>
    obtain ⟨hfresh, hnodup⟩ := List.nodup_cons.mp hnodup
    have hrest : ∀ row ∈ rows, row ≠ sku → bidChange policy row = .ok none := fun row hrow =>
      hothers row (List.mem_cons_of_mem _ hrow)
    by_cases heq : row = sku
    · subst heq
      rw [bidChanges, bidChanges_quiet fun row' hrow => hrest row' hrow (ne_of_mem_of_not_mem hrow hfresh)]
      cases bidChange policy row with
      | error e => rfl
      | ok change => cases change <;> rfl
    · rw [bidChanges, hothers row List.mem_cons_self heq,
        ih hnodup ((List.mem_cons.mp hmem).resolve_left (Ne.symm heq)) hrest]
      cases bidChange policy sku <;> rfl

theorem nodup_policySkus (hvalid : validatePolicy policy = .ok ())
    (ho : ObservedBy policy observation observations) : (policySkus policy observations).Nodup := by
  have hnodup : policy.nmIds.Nodup := by
    unfold validatePolicy at hvalid
    dsimp only at hvalid
    split_ifs at hvalid with hv
    simp only [Bool.not_eq_true', Bool.not_eq_false, Bool.and_eq_true] at hv
    have htargets := hv.1.1.2
    simp only [validPolicyTargets, Bool.and_eq_true, beq_iff_eq] at htargets
    exact Multiset.toFinset_card_eq_card_iff_nodup.mp htargets.1.2
  refine hnodup.filterMap fun id id' row hrow hrow' => ?_
  rw [← ((ho.get_iff id row).mp hrow).2, ((ho.get_iff id' row).mp hrow').2]

theorem Alone.evaluate (h : Alone policy observation sku) : ∃ observations,
    ObservedBy policy observation observations ∧ ∀ decision,
      evaluateWbAutomation policy observation = .ok decision ↔ ∃ result,
        attributedAction policy observations = .ok result ∧
          decision = ⟨policy.accountId, policy.campaignId, observation.observedAt, result.1, result.2⟩ := by
  obtain ⟨observations, hobserved⟩ := h.observed
  have ho := observedBy_of_validateObservation hobserved
  have hceiling : ((policySkus policy observations).find? fun row =>
      decide (policy.maxBidKopecks < row.currentBidKopecks)) = none := by
    refine List.find?_eq_none.mpr fun row hrow => ?_
    simpa using h.ceiling row (ho.of_mem_policySkus hrow)
  have hgated : gatedAction policy observation observations = attributedAction policy observations := by
    rw [gatedAction, h.gate]
    dsimp only
    rw [skuAction, if_neg (by simp [h.writes]), hceiling]
    dsimp only
    rw [if_neg (by simp [h.complete])]
  refine ⟨observations, ho, fun decision => ?_⟩
  simp only [evaluateWbAutomation, h.valid, hobserved, hgated, ok_of_bind, ok_of_pure, Except.ok.injEq,
    exists_const, exists_eq_left', true_and, eq_comm (a := decision)]

theorem attributedAction_unstopped {result : WbAutomationAction × List WbAutomationSkuStop}
    (hstops : skuStops policy (policySkus policy observations) = .ok [])
    (h : attributedAction policy observations = .ok result) :
    result.2 = [] ∧ ∀ nmId reason, result.1 ≠ disableSku nmId reason := by
  simp only [attributedAction, hstops, ok_of_bind, Except.ok.injEq, exists_eq_left', List.find?_nil,
    List.filterMap_nil] at h
  split at h
  · rename_i action hrecover
    cases h
    obtain ⟨_, _, change, haction, _⟩ := recoverMinimum_directed hrecover
    exact ⟨rfl, fun nmId reason hdisable => by rw [haction] at hdisable; cases hdisable⟩
  · simp only [ok_of_bind] at h
    obtain ⟨changes, _, h⟩ := h
    split at h <;> cases h <;> exact ⟨rfl, fun _ _ => by simp⟩

theorem attributedAction_stopped {reason : WbAutomationDisableReason}
    (hstops : skuStops policy (policySkus policy observations) = .ok [(sku, reason)])
    (hothers : ∀ row ∈ policySkus policy observations, row.nmId ≠ sku.nmId → bidChange policy row = .ok none) :
    ∃ result, attributedAction policy observations = .ok result ∧
      (result.1 = disableSku sku.nmId reason ∨ (⟨sku.nmId, reason⟩ : WbAutomationSkuStop) ∈ result.2) := by
  have hchanges : bidChanges policy ((policySkus policy observations).filter fun row =>
      !([(sku, reason)].any fun p => p.1.nmId == row.nmId)) = .ok [] := by
    refine bidChanges_quiet fun row hrow => ?_
    obtain ⟨hrow, hdifferent⟩ := List.mem_filter.mp hrow
    exact hothers row hrow fun heq => by simp [heq] at hdifferent
  simp only [attributedAction, hstops, ok_of_bind, Except.ok.injEq, exists_eq_left', hchanges]
  by_cases hroom : effectiveMinimumBid policy sku < sku.currentBidKopecks
  · simp only [List.find?_cons_of_pos (p := fun p : WbAutomationSkuObservation × WbAutomationDisableReason =>
      decide (effectiveMinimumBid policy p.1 < p.1.currentBidKopecks)) (a := (sku, reason))
      (by simpa using hroom)]
    exact ⟨_, rfl, .inl rfl⟩
  · simp only [List.find?_cons_of_neg (p := fun p : WbAutomationSkuObservation × WbAutomationDisableReason =>
      decide (effectiveMinimumBid policy p.1 < p.1.currentBidKopecks)) (a := (sku, reason))
      (by simpa using hroom), List.find?_nil]
    have hreported : (⟨sku.nmId, reason⟩ : WbAutomationSkuStop) ∈ [(sku, reason)].filterMap fun p =>
        if p.1.currentBidKopecks ≤ effectiveMinimumBid policy p.1 then some ⟨p.1.nmId, p.2⟩ else none := by
      simp [not_lt.mp hroom]
    split
    · exact ⟨_, rfl, .inr hreported⟩
    · exact ⟨_, rfl, .inr hreported⟩

/-- Without a stop and with every bid at its floor or above, the first ordinary change is the action. -/
theorem attributedAction_changes (hstops : skuStops policy (policySkus policy observations) = .ok [])
    (hfloors : ∀ row ∈ valuesOf observations, effectiveMinimumBid policy row ≤ row.currentBidKopecks) :
    attributedAction policy observations = (bidChanges policy (policySkus policy observations)).map fun changes =>
      match changes.take 1 with
      | [] => (hold .noMaterialChange, [])
      | changes => (changeBids changes, []) := by
  have hrecover : recoverMinimum policy (valuesOf observations) = none := by
    have hnone : (valuesOf observations).filter (fun row => decide (policy.minSellableStock < row.sellableStock ∧
        row.currentBidKopecks < effectiveMinimumBid policy row)) = [] := by
      refine List.filter_eq_nil_iff.mpr fun row hrow => ?_
      simp [hfloors row hrow]
    rw [recoverMinimum, hnone]
    rfl
  have hkept : ∀ rows : List WbAutomationSkuObservation,
      rows.filter (fun row => !(([] : List (WbAutomationSkuObservation × WbAutomationDisableReason)).any
        fun p => p.1.nmId == row.nmId)) = rows := fun rows => by simp
  rw [attributedAction, hstops]
  dsimp only [bind, Except.bind]
  simp only [hkept, hrecover, List.find?_nil, List.filterMap_nil]
  cases bidChanges policy (policySkus policy observations) with
  | error e => rfl
  | ok changes => cases changes <;> rfl

theorem Alone.changes_iff (h : Alone policy observation sku) (hstop : skuStop policy sku = .ok none)
    (hfloor : effectiveMinimumBid policy sku ≤ sku.currentBidKopecks) (change : WbAutomationBidChange) :
    (∃ decision, evaluateWbAutomation policy observation = .ok decision ∧
      decision.action = changeBids [change]) ↔ bidChange policy sku = .ok (some change) := by
  obtain ⟨observations, ho, hevaluate⟩ := h.evaluate
  have hnodup := nodup_policySkus h.valid ho
  have hmem := ho.mem_policySkus h.listed
  have hstops := skuStops_alone hnodup hmem
    (fun row hrow hne => (h.others row (ho.of_mem_policySkus hrow) hne).1) hstop
  have hfloors : ∀ row ∈ valuesOf observations, effectiveMinimumBid policy row ≤ row.currentBidKopecks := by
    intro row hrow
    by_cases heq : row = sku
    · rw [heq]
      exact hfloor
    · exact (h.others row (ho.of_mem_valuesOf hrow) heq).2.2
  have haction := attributedAction_changes hstops hfloors
  rw [bidChanges_alone hnodup hmem fun row hrow hne => (h.others row (ho.of_mem_policySkus hrow) hne).2.1]
    at haction
  simp only [hevaluate, haction]
  cases bidChange policy sku with
  | error e => simp [Except.map]
  | ok result => cases result <;> simp [Except.map]

/-- Alone, the row is hard-stopped exactly when its stop says so. -/
theorem Alone.hardStopped_iff (h : Alone policy observation sku) {stop : Option WbAutomationDisableReason}
    (hstop : skuStop policy sku = .ok stop) (hkind : stop = none ∨ stop = some .hardDrrExceeded) :
    (∃ decision, evaluateWbAutomation policy observation = .ok decision ∧ HardStopped decision sku) ↔
      stop = some .hardDrrExceeded := by
  obtain ⟨observations, ho, hevaluate⟩ := h.evaluate
  have hstops := skuStops_alone (nodup_policySkus h.valid ho) (ho.mem_policySkus h.listed)
    (fun row hrow hne => (h.others row (ho.of_mem_policySkus hrow) hne).1) hstop
  simp only [hevaluate]
  rcases hkind with rfl | rfl
  · refine iff_of_false ?_ (by simp)
    rintro ⟨_, ⟨result, hresult, rfl⟩, hstopped⟩
    obtain ⟨hreported, haction⟩ := attributedAction_unstopped hstops hresult
    rcases hstopped with hdisabled | hlisted
    · exact haction _ _ hdisabled
    · rw [hreported] at hlisted
      cases hlisted
  · refine iff_of_true ?_ rfl
    obtain ⟨result, hresult, hstopped⟩ := attributedAction_stopped hstops fun row hrow hne =>
      (h.others row (ho.of_mem_policySkus hrow) fun heq => hne (by rw [heq])).2.1
    exact ⟨_, ⟨result, hresult, rfl⟩, hstopped⟩

end Evaluation

/-! ## The pacing -/

section Pacing

variable {policy : WbAutomationPolicy} {snapshot : WbAutomationSnapshot} {baseline : Option WbAutomationSnapshot}
  {metrics : WbAutomationCampaignMetrics} {feedback : TrafficFrontierFeedback} {value : ℕ}

/-- The reason for a cut, by the ratio. -/
def cutReason (policy : WbAutomationPolicy) (overPace : Bool) (value : ℕ) : Option WbAutomationBidReason :=
  if policy.targetDrrBasisPoints < value then
    if policy.hardDrrBasisPoints < value then some .hardDrrExceeded else some .targetDrrExceeded
  else if overPace then some .trafficFrontierRetentionDecrease else none

theorem Paced.decreaseReason (h : Paced policy snapshot baseline metrics feedback) (value : ℕ)
    (overPace : Bool) :
    trafficFrontierDecreaseReason policy feedback.metrics (some value) overPace =
      .ok (cutReason policy overPace value) := by
  obtain ⟨clicks, hclicks, hreaches⟩ := h.orders
  simp only [trafficFrontierDecreaseReason, ok_of_bind, hclicks, Except.ok.injEq, exists_eq_left',
    if_neg hreaches]
  by_cases hlt : policy.targetDrrBasisPoints < value
  · rw [cutReason, if_pos hlt, Option.filter_some_pos (by simpa using hlt)]
    by_cases hhard : policy.hardDrrBasisPoints < value <;> simp [hhard]
  · rw [cutReason, if_neg hlt, Option.filter_some_neg (by simpa using hlt)]
    rfl

theorem Paced.cut (h : Paced policy snapshot baseline metrics feedback)
    (hdrr : campaignDrrBasisPoints feedback.metrics = .ok (some value))
    (hlt : policy.targetDrrBasisPoints < value) :
    ∃ reason ∈ [WbAutomationBidReason.hardDrrExceeded, .targetDrrExceeded],
      trafficFrontierPacingDecision policy snapshot baseline =
        .ok (trafficFrontierDecrease policy snapshot reason) := by
  have hreason := h.decreaseReason value
    (spendOverPace policy snapshot.observation.observedAt metrics)
  rw [cutReason, if_pos hlt] at hreason
  by_cases hhard : policy.hardDrrBasisPoints < value
  · rw [if_pos hhard] at hreason
    exact ⟨.hardDrrExceeded, by simp, pacing_of_decreaseCalledFor h.waiting
      ⟨metrics, feedback, _, h.current, h.consistent, h.measured, hdrr, hreason⟩⟩
  · rw [if_neg hhard] at hreason
    exact ⟨.targetDrrExceeded, by simp, pacing_of_decreaseCalledFor h.waiting
      ⟨metrics, feedback, _, h.current, h.consistent, h.measured, hdrr, hreason⟩⟩

theorem frontierDecrease_of_rounds (hspend : feedback.metrics.spendMinor < 2 ^ 64)
    (hrevenue : 0 < feedback.metrics.attributedRevenueMinor)
    (hpaced : Paced policy snapshot baseline metrics feedback)
    (hroom : ∃ row ∈ snapshot.observation.skus, effectiveMinimumBid policy row < row.currentBidKopecks)
    (h : Rounds policy.targetDrrBasisPoints feedback.metrics.spendMinor feedback.metrics.attributedRevenueMinor) :
    (∃ decision, trafficFrontierPacingDecision policy snapshot baseline = .ok (some decision) ∧
      ChangesFor decision [.hardDrrExceeded, .targetDrrExceeded]) ↔
      Exceeds policy.targetDrrBasisPoints feedback.metrics.spendMinor feedback.metrics.attributedRevenueMinor := by
  obtain ⟨value, hvalue, hiff⟩ := h
  have hdrr : campaignDrrBasisPoints feedback.metrics = .ok (some value) := by
    rw [campaignDrrBasisPoints_eq hrevenue hspend, hvalue]
    rfl
  rw [← hiff]
  constructor
  · rintro ⟨decision, hdecision, change, haction, hreason⟩
    obtain ⟨reason, hhold⟩ | ⟨reason, hcalled, hcut⟩ | ⟨feedback', -, hraise⟩ := pacing_cases hdecision
    · rw [hhold] at haction
      cases haction
    · obtain ⟨metrics', feedback', drr, hmetrics, -, hmeasured, hdrr', hcalled⟩ := hcalled
      rw [hpaced.current, Option.some.injEq] at hmetrics
      subst hmetrics
      rw [hpaced.measured, Except.ok.injEq, Option.some.injEq] at hmeasured
      subst hmeasured
      rw [hdrr, Except.ok.injEq] at hdrr'
      subst hdrr'
      rw [hpaced.decreaseReason, Except.ok.injEq] at hcalled
      obtain ⟨row, -, -, hrow⟩ := frontierDecrease_spec hcut
      rw [hrow] at haction
      cases haction
      by_contra hnot
      rw [cutReason, if_neg hnot] at hcalled
      split_ifs at hcalled
      cases hcalled
      simp at hreason
    · obtain ⟨change', haction', hraised⟩ := frontierIncrease_reason hraise
      rw [haction'] at haction
      cases haction
      rcases hraised with hraised | hraised <;> simp [hraised] at hreason
  · intro hlt
    obtain ⟨reason, hreason, hpacing⟩ := hpaced.cut hdrr hlt
    obtain ⟨row, hrow, hfloor⟩ := hroom
    obtain ⟨decision, highest, hdecision, -, haction⟩ := frontierDecrease_highest snapshot reason hrow hfloor
    exact ⟨decision, by rw [hpacing, hdecision], _, haction, hreason⟩

theorem not_overPace {observedAt : ℤ} (h : spendUnderPace policy observedAt metrics = true) :
    spendOverPace policy observedAt metrics = false := by
  rw [spendUnderPace, decide_eq_true_eq, pacingLowerBasisPoints] at h
  rw [spendOverPace, decide_eq_false_iff_not, pacingUpperBasisPoints]
  omega

theorem marginalRaise_of_rounds {raised : WbAutomationDecision} (hspend : feedback.metrics.spendMinor < 2 ^ 64)
    (hrevenue : 0 < feedback.metrics.attributedRevenueMinor)
    (hpaced : Paced policy snapshot baseline metrics feedback)
    (hopen : RaiseOpen policy snapshot metrics feedback raised)
    (h : Rounds policy.targetDrrBasisPoints feedback.metrics.spendMinor feedback.metrics.attributedRevenueMinor) :
    trafficFrontierPacingDecision policy snapshot baseline ≠ .ok (some raised) ↔
      Exceeds policy.targetDrrBasisPoints feedback.metrics.spendMinor feedback.metrics.attributedRevenueMinor := by
  obtain ⟨value, hvalue, hiff⟩ := h
  have hdrr : campaignDrrBasisPoints feedback.metrics = .ok (some value) := by
    rw [campaignDrrBasisPoints_eq hrevenue hspend, hvalue]
    rfl
  rw [← hiff, ← not_iff_not, not_not]
  constructor
  · intro hraised hlt
    -- a cut has another reason than a raise
    obtain ⟨reason, hreason, hpacing⟩ := hpaced.cut hdrr hlt
    rw [hpacing, Except.ok.injEq] at hraised
    obtain ⟨row, -, -, haction⟩ := frontierDecrease_spec hraised
    obtain ⟨change, haction', hkind⟩ := frontierIncrease_reason hopen.raise
    rw [haction] at haction'
    cases haction'
    rcases hkind with hkind | hkind <;> simp [show reason = _ from hkind] at hreason
  · intro hnot
    have hcalled := hpaced.decreaseReason value
      (spendOverPace policy snapshot.observation.observedAt metrics)
    rw [cutReason, if_neg hnot, not_overPace hopen.pace, if_neg Bool.false_ne_true] at hcalled
    have hincrease : IncreaseCalledFor policy snapshot baseline feedback := by
      refine ⟨metrics, some value, hpaced.current, hpaced.consistent, hpaced.measured, hdrr, ?_, hopen.target,
        ?_, ?_⟩
      · rwa [not_overPace hopen.pace]
      · simp [hopen.pace, hopen.impressions]
      · simp [hopen.orders, hopen.clicks, hrevenue.ne', not_lt.mp hnot]
    exact pacing_of_increaseCalledFor hpaced.waiting hincrease hopen.raise

theorem noOrderSignalIsSafe_iff (hrevenue : 0 < metrics.attributedRevenueMinor)
    (horders : metrics.attributedOrders ≠ 0) : noOrderSignalIsSafe policy metrics = false ↔
      Exceeds policy.targetDrrBasisPoints metrics.spendMinor metrics.attributedRevenueMinor := by
  rw [noOrderSignalIsSafe, if_neg horders, decide_eq_false_iff_not, Exceeds]
  omega

theorem exposure_iff {sku : WbAutomationSkuObservation} (hrevenue : 0 < metrics.attributedRevenueMinor)
    (hwaiting : snapshot.decision.action = hold .attributionIncomplete)
    (hmetrics : snapshot.observation.campaignLevelMetrics = some metrics)
    (himpressions : metrics.impressions < policy.targetImpressionsPerDay)
    (horders : metrics.attributedOrders ≠ 0)
    (hcandidate : exposureCandidate policy snapshot.observation = some sku) :
    autonomousExposurePacingDecision policy snapshot = .ok none ↔
      Exceeds policy.targetDrrBasisPoints metrics.spendMinor metrics.attributedRevenueMinor := by
  rw [← noOrderSignalIsSafe_iff hrevenue horders, autonomousExposurePacingDecision, if_neg (by simp [hwaiting]),
    hmetrics]
  by_cases hsafe : noOrderSignalIsSafe policy metrics = false
  · simp [hsafe]
  · simp only [hsafe, not_le.mpr himpressions, or_self, if_false, hcandidate, ok_of_bind, ok_of_pure, reduceCtorEq,
      and_false, exists_false]

end Pacing

/-! ## The guards together -/

section Guards

variable {limit spend revenue : ℕ}

/-- The ratio of a row whose bid is lowered for its target. -/
theorem roundedRatio_of_bidChange {policy : WbAutomationPolicy} {sku : WbAutomationSkuObservation}
    {change : WbAutomationBidChange} (hspend : sku.spendMinor < 2 ^ 64)
    (hrevenue : 0 < sku.attributedRevenueMinor)
    (hreaches : ReachesTargetDrr policy sku) (h : bidChange policy sku = .ok (some change))
    (hreason : change.reason = .targetDrrExceeded) :
    ∃ value, roundedRatio sku.spendMinor sku.attributedRevenueMinor = some value ∧
      policy.targetDrrBasisPoints < value := by
  obtain ⟨drr, reason, increase, toBid, hdrr, hdirection, rfl, -⟩ := of_bidChange h
  obtain rfl : reason = .targetDrrExceeded := hreason
  rw [drrBasisPoints_eq hrevenue hspend, ok_of_map] at hdrr
  obtain ⟨value, hvalue, rfl⟩ := hdrr
  exact ⟨value, context_eq_ok.mp hvalue, ((reasonAndDirection_target hreaches.1).mp hdirection).1⟩

/-- **The cost guards are exact exactly outside of the rounding band and of the 32-bit range.** -/
theorem exactAt_iff (hlimit : limit < 2 ^ 32) (hspend : spend < 2 ^ 64) (hrevenue : 0 < revenue) :
    ExactAt limit spend revenue ↔ (Exceeds limit spend revenue →
      revenue * (limit + 1) ≤ spend * 10000 ∧ spend * 10000 < revenue * 2 ^ 32) := by
  rw [← rounds_iff hlimit hrevenue]
  constructor
  · intro hexact
    by_cases hexceeds : Exceeds limit spend revenue
    · -- the target reduction of a row alone tells the two ratios apart
      have hreaches : ReachesTargetDrr { robotPolicy with targetDrrBasisPoints := limit }
          ⟨449627598, 102, 200, 10, 100, 9, spend, 1, revenue⟩ := ⟨by simp, (by decide : max 102 102 < 200)⟩
      obtain ⟨change, hchange, hreason⟩ := (hexact.rowReduction _ _ rfl rfl rfl hreaches).mpr hexceeds
      obtain ⟨value, hvalue, hlt⟩ := roundedRatio_of_bidChange hspend hrevenue hreaches hchange hreason
      exact ⟨value, hvalue, fun _ => hexceeds, fun _ => hlt⟩
    · exact (rounds_iff hlimit hrevenue).mpr fun h => absurd h hexceeds
  · intro hrounds
    refine ⟨?_, ?_, ?_, ?_, ?_, ?_, ?_⟩
    · rintro policy sku rfl rfl rfl hreaches
      simp [rowStop_of_rounds hspend hrevenue hreaches hrounds]
    · rintro policy observation sku rfl rfl rfl halone hreaches
      rw [halone.hardStopped_iff (rowStop_of_rounds hspend hrevenue hreaches hrounds) (by split_ifs <;> simp)]
      simp
    · rintro policy sku rfl rfl rfl hreaches
      exact rowReduction_of_rounds hspend hrevenue hreaches hrounds
    · rintro policy observation sku rfl rfl rfl halone hstop hreaches
      rw [← rowReduction_of_rounds hspend hrevenue hreaches hrounds]
      simp only [ChangesFor, List.mem_singleton, ← halone.changes_iff hstop hreaches.2.le]
      constructor
      · rintro ⟨decision, hdecision, change, haction, hreason⟩
        exact ⟨change, ⟨decision, hdecision, haction⟩, hreason⟩
      · rintro ⟨change, ⟨decision, hdecision, haction⟩, hreason⟩
        exact ⟨decision, hdecision, change, haction, hreason⟩
    · rintro policy snapshot baseline metrics feedback rfl rfl rfl hpaced hroom
      exact frontierDecrease_of_rounds hspend hrevenue hpaced hroom hrounds
    · rintro policy snapshot baseline metrics feedback raised rfl rfl rfl hpaced hopen
      exact marginalRaise_of_rounds hspend hrevenue hpaced hopen hrounds
    · rintro policy snapshot metrics sku rfl rfl rfl hwaiting hmetrics himpressions horders hcandidate
      exact exposure_iff hrevenue hwaiting hmetrics himpressions horders hcandidate

end Guards

/-- A row with one order. -/
def soldRow (nmId spendMinor revenue : ℕ) : WbAutomationSkuObservation :=
  ⟨nmId, 102, 200, 10, 500, 20, spendMinor, 1, revenue⟩

/-- One row of the reviewed campaign costs something, the other nothing. -/
def soldObservation (spendMinor revenue : ℕ) : WbAutomationObservation :=
  attributedObservation [soldRow 449627598 spendMinor revenue, soldRow 449627015 0 revenue]

/-- The day of the reviewed campaign with two orders. -/
def soldSnapshot (spendMinor revenue : ℕ) : WbAutomationSnapshot where
  observation := { cheapSnapshot.observation with
    campaignLevelMetrics := some ⟨300, 20, spendMinor, 2, revenue⟩
    currentCampaignMetrics := some ⟨300, 20, spendMinor, 2, revenue⟩ }
  decision := cheapSnapshot.decision

theorem alone_soldObservation :
    Alone robotPolicy (soldObservation 2000 10000) (soldRow 449627598 2000 10000) where
  valid := rfl
  observed := ⟨_, rfl⟩
  gate := rfl
  writes := rfl
  complete := rfl
  ceiling := by decide
  listed := List.mem_cons_self
  others := by
    intro other hother hne
    obtain rfl : other = soldRow 449627015 0 10000 :=
      List.mem_singleton.mp ((List.mem_cons.mp hother).resolve_left hne)
    exact ⟨by decide +kernel, by decide +kernel, by decide⟩

theorem paced_soldSnapshot (spendMinor revenue : ℕ) : Paced robotPolicy (soldSnapshot spendMinor revenue) none
    ⟨300, 20, spendMinor, 2, revenue⟩ ⟨⟨300, 20, spendMinor, 2, revenue⟩, false⟩ where
  waiting := rfl
  current := rfl
  consistent := ⟨(by decide : 20 ≤ 300), (by decide : 2 ≤ 20), .inl (by decide : 0 < 2)⟩
  measured := rfl
  orders := ⟨10, rfl, by simp⟩

/-- Spend of 20 rubles of 100 against a target of 15 percent: the row is reduced, the frontier steps down, and
the exposure stays as it is. -/
theorem exactAt_twenty_percent :
    (∃ decision, evaluateWbAutomation robotPolicy (soldObservation 2000 10000) = .ok decision ∧
      ChangesFor decision [.targetDrrExceeded]) ∧
    (∃ decision, trafficFrontierPacingDecision robotPolicy (soldSnapshot 2000 10000) none = .ok (some decision) ∧
      ChangesFor decision [.hardDrrExceeded, .targetDrrExceeded]) ∧
    autonomousExposurePacingDecision robotPolicy (soldSnapshot 2000 10000) = .ok none := by
  have hexact : ExactAt 1500 2000 10000 :=
    (exactAt_iff (by decide) (by decide) (by decide)).mpr fun _ => ⟨by decide, by decide⟩
  have hexceeds : Exceeds 1500 2000 10000 := by decide
  refine ⟨?_, ?_, ?_⟩
  · exact (hexact.targetReduction robotPolicy _ (soldRow 449627598 2000 10000) rfl rfl rfl alone_soldObservation
      (by decide +kernel) ⟨by decide, by decide⟩).mpr hexceeds
  · exact (hexact.frontierDecrease robotPolicy _ _ _ _ rfl rfl rfl (paced_soldSnapshot 2000 10000)
      ⟨_, List.mem_cons_self, by decide⟩).mpr hexceeds
  · exact (hexact.exposure robotPolicy _ ⟨300, 20, 2000, 2, 10000⟩ _ rfl rfl rfl rfl rfl (by decide) (by decide)
      rfl).mpr hexceeds

/-- At 15.001 percent the frontier raises a bid that the exposure guard would not raise, and a ratio of
`10 ^ 16` basis points is an error instead of a hard stop. -/
theorem exactAt_fails_near_limit :
    (Exceeds 1500 15001 100000 ∧
      trafficFrontierPacingDecision robotPolicy (soldSnapshot 15001 100000) none = .ok (some
        (trafficFrontierChange robotPolicy (soldSnapshot 15001 100000) 449627015 200 700
          .trafficFrontierBootstrap)) ∧
      autonomousExposurePacingDecision robotPolicy (soldSnapshot 15001 100000) = .ok none ∧
      ¬ ExactAt 1500 15001 100000) ∧
    Exceeds 2500 1000000000000 1 ∧
      evaluateWbAutomation robotPolicy (soldObservation 1000000000000 1) = .error .overflow ∧
      ¬ ExactAt 2500 1000000000000 1 := by
  have hraise : trafficFrontierPacingDecision robotPolicy (soldSnapshot 15001 100000) none = .ok (some
      (trafficFrontierChange robotPolicy (soldSnapshot 15001 100000) 449627015 200 700
        .trafficFrontierBootstrap)) := by decide +kernel
  have hoverflow : skuStop robotPolicy (soldRow 449627598 1000000000000 1) = .error .overflow := rfl
  refine ⟨⟨by decide, hraise, rfl, fun hexact => ?_⟩, by decide, rfl, fun hexact => ?_⟩
  · obtain ⟨decision, hdecision, change, haction, hreason⟩ := (hexact.frontierDecrease robotPolicy _ _ _ _ rfl rfl
      rfl (paced_soldSnapshot 15001 100000) ⟨_, List.mem_cons_self, by decide⟩).mpr (by decide)
    rw [hraise] at hdecision
    cases hdecision
    cases haction
    exact absurd hreason (by decide)
  · have hstop := (hexact.rowStop robotPolicy (soldRow 449627598 1000000000000 1) rfl rfl rfl
      ⟨by decide, by decide⟩).mpr (by decide)
    rw [hoverflow] at hstop
    cases hstop

end AdsControl.Wb
