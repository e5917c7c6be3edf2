import AdsControl.Wb.Intent

/-!
# Bid changes and the reviewed corridor

Several producers can put a bid change into the pending action of a cycle. Each of them keeps the
change inside `[max(min_bid, vendor minimum), max_bid]`, provided a frontier cut starts from bids
the ceiling repair has already seen.

* `InCorridor`: a change of one policy SKU, from its observed bid, to another bid of the corridor;
* **`evaluate_inCorridor`**: the repairs, hard stops and ordinary steps of the evaluator;
* **`pacing_inCorridor`**, `exposurePacing_inCorridor`: the pacing steps. A frontier cut needs the
  live bids to be at most one step above the ceiling;
* `DecreaseCalledFor`, `IncreaseCalledFor`, `pacing_cases`: when pacing cuts or raises.
-/

namespace AdsControl.Wb

open WbAutomationAction KeySelect Machine Fallible

/-- A change of one policy SKU from its observed bid to a different bid of the corridor. -/
structure InCorridor (policy : WbAutomationPolicy) (observation : WbAutomationObservation)
    (change : WbAutomationBidChange) : Prop where
  mem_nmIds : change.nmId ∈ policy.nmIds
  observed : ∃ sku ∈ observation.skus, sku.nmId = change.nmId ∧
    sku.currentBidKopecks = change.fromBidKopecks ∧
    max policy.minBidKopecks sku.minimumBidKopecks ≤ change.toBidKopecks
  moves : change.toBidKopecks ≠ change.fromBidKopecks
  le_max : change.toBidKopecks ≤ policy.maxBidKopecks

/-- Whatever bids the action leaves pending stay in the corridor. -/
def ActionInCorridor (policy : WbAutomationPolicy) (observation : WbAutomationObservation)
    (action : WbAutomationAction) : Prop :=
  ∀ changes, pendingKind action observation policy.minBidKopecks = some (.changeBids changes) →
    ∃ change, changes = [change] ∧ InCorridor policy observation change

/-! ## Bids and their bounds -/

theorem increaseBid_spec {policy : WbAutomationPolicy} {current minimum value : ℕ}
    (h : increaseBid policy current minimum = .ok value) (hmin : minimum ≤ policy.maxBidKopecks) :
    minimum ≤ value ∧ value ≤ policy.maxBidKopecks ∧
      (current < policy.maxBidKopecks → current < value) := by
  unfold increaseBid at h
  split at h
  · cases h
  · split at h
    · cases h
    · rename_i raised hr
      obtain ⟨rfl, -⟩ := checkedAdd_eq_some.mp hr
      rw [Except.ok.injEq] at h
      subst h
      omega

/-- Stepping down once, before the floor is applied. -/
def steppedDown (policy : WbAutomationPolicy) (bid : ℕ) : ℕ :=
  bid - max (saturatingMul 64 bid policy.bidStepPercent / 100) 1

theorem decreaseFrontierBid_lt {policy : WbAutomationPolicy} {current minimum : ℕ}
    (h : minimum < current) : decreaseFrontierBid policy current minimum < current := by
  unfold decreaseFrontierBid
  omega

/-- A higher bid stays at least as high after one step down. -/
theorem steppedDown_mono {policy : WbAutomationPolicy} (hp : PolicyBounds policy) {a b : ℕ}
    (h : a ≤ b) : steppedDown policy a ≤ steppedDown policy b := by
  unfold steppedDown
  have hsat := saturatingMul_le_add (w := 64) (s := policy.bidStepPercent) h
  have hstep : (b - a) * policy.bidStepPercent ≤ (b - a) * 25 := Nat.mul_le_mul_left _ hp.step_le
  omega

/-! ## Membership -/

section Members

variable {policy : WbAutomationPolicy} {observation : WbAutomationObservation}
  {observations : SkuMap} {sku : WbAutomationSkuObservation}

theorem ObservedBy.of_mem_policySkus (ho : ObservedBy policy observation observations)
    (h : sku ∈ policySkus policy observations) : sku ∈ observation.skus := by
  obtain ⟨id, -, hid⟩ := List.mem_filterMap.mp h
  exact ((ho.get_iff id sku).mp hid).1

theorem ObservedBy.of_mem_valuesOf (ho : ObservedBy policy observation observations)
    (h : sku ∈ valuesOf observations) : sku ∈ observation.skus := by
  obtain ⟨⟨id, x⟩, hx, rfl⟩ := List.mem_map.mp h
  exact ((ho.get_iff id x).mp (Std.TreeMap.mem_toList_iff_getElem?_eq_some.mp hx)).1

theorem ObservedBy.mem_observations (ho : ObservedBy policy observation observations)
    (h : sku ∈ observation.skus) : observations[sku.nmId]? = some sku :=
  (ho.get_iff _ _).mpr ⟨h, rfl⟩

theorem ObservedBy.nmId_mem (ho : ObservedBy policy observation observations)
    (h : sku ∈ observation.skus) : sku.nmId ∈ policy.nmIds := by
  rw [ho.mem_nmIds_iff, ← Std.TreeMap.isSome_getElem?_iff_mem, ho.mem_observations h]
  rfl

theorem ObservedBy.mem_policySkus (ho : ObservedBy policy observation observations)
    (h : sku ∈ observation.skus) : sku ∈ policySkus policy observations :=
  List.mem_filterMap.mpr ⟨sku.nmId, ho.nmId_mem h, ho.mem_observations h⟩

theorem of_mem_listedSkus (h : sku ∈ listedSkus policy observation) : sku ∈ observation.skus := by
  obtain ⟨id, -, hid⟩ := List.mem_filterMap.mp h
  exact List.mem_of_find?_eq_some hid

theorem of_exposureCandidate (h : exposureCandidate policy observation = some sku) :
    sku ∈ observation.skus ∧ sku.currentBidKopecks < policy.maxBidKopecks := by
  have hm := List.mem_filter.mp (minByKey_mem h)
  simp only [decide_eq_true_eq] at hm
  exact ⟨of_mem_listedSkus hm.1, hm.2.2⟩

theorem ObservedBy.floor_le_max (hp : PolicyBounds policy)
    (ho : ObservedBy policy observation observations) (h : sku ∈ observation.skus) :
    effectiveMinimumBid policy sku ≤ policy.maxBidKopecks :=
  max_le hp.min_le_max (ho.vendor_le_max sku h)

end Members

/-! ## Actions in the corridor -/

section Actions

variable {policy : WbAutomationPolicy} {observation : WbAutomationObservation}
  {observations : SkuMap}

theorem actionInCorridor_hold (reason : WbAutomationHoldReason) :
    ActionInCorridor policy observation (hold reason) := by
  intro changes h
  cases h

theorem actionInCorridor_pause : ActionInCorridor policy observation pauseCampaignForDailyCap := by
  intro changes h
  cases h

theorem actionInCorridor_resume :
    ActionInCorridor policy observation resumeCampaignAfterDailyCap := by
  intro changes h
  cases h

theorem actionInCorridor_single {change : WbAutomationBidChange}
    (h : InCorridor policy observation change) :
    ActionInCorridor policy observation (changeBids [change]) := by
  intro changes hc
  simp only [pendingKind, List.length_singleton, ne_eq, not_true_eq_false, if_false,
    Option.some.injEq, PendingActionKind.changeBids.injEq] at hc
  exact ⟨change, hc.symm, h⟩

theorem actionInCorridor_change (ho : ObservedBy policy observation observations)
    {sku : WbAutomationSkuObservation} (hs : sku ∈ observation.skus) {toBid : ℕ}
    {reason : WbAutomationBidReason} (hmin : effectiveMinimumBid policy sku ≤ toBid)
    (hne : toBid ≠ sku.currentBidKopecks) (hmax : toBid ≤ policy.maxBidKopecks) :
    ActionInCorridor policy observation
      (changeBids [⟨sku.nmId, sku.currentBidKopecks, toBid, reason⟩]) :=
  actionInCorridor_single ⟨ho.nmId_mem hs, ⟨sku, hs, rfl, rfl, hmin⟩, hne, hmax⟩

theorem actionInCorridor_disable (hp : PolicyBounds policy)
    (ho : ObservedBy policy observation observations) (nmId : ℕ)
    (reason : WbAutomationDisableReason) :
    ActionInCorridor policy observation (disableSku nmId reason) := by
  intro changes hc
  simp only [pendingKind, Option.bind_eq_bind, Option.bind_eq_some_iff] at hc
  obtain ⟨sku, hfind, hc⟩ := hc
  have hs := List.mem_of_find?_eq_some hfind
  have hid : sku.nmId = nmId := by simpa using List.find?_some hfind
  split_ifs at hc with hle
  simp only [Option.some.injEq, PendingActionKind.changeBids.injEq] at hc
  subst hid
  refine ⟨_, hc.symm, ho.nmId_mem hs, ⟨sku, hs, rfl, rfl, le_rfl⟩, ?_, ho.floor_le_max hp hs⟩
  dsimp only
  omega

end Actions

/-! ## The evaluator -/

section Evaluate

variable {policy : WbAutomationPolicy} {observation : WbAutomationObservation}
  {observations : SkuMap}

theorem recoverMinimum_inCorridor (hp : PolicyBounds policy)
    (ho : ObservedBy policy observation observations) {skus : List WbAutomationSkuObservation}
    (hsub : ∀ sku ∈ skus, sku ∈ observation.skus) {action : WbAutomationAction}
    (h : recoverMinimum policy skus = some action) : ActionInCorridor policy observation action := by
  unfold recoverMinimum at h
  rw [Option.map_eq_some_iff] at h
  obtain ⟨sku, hmin, rfl⟩ := h
  have hm := List.mem_filter.mp (minByKey_mem hmin)
  simp only [decide_eq_true_eq] at hm
  have hs := hsub sku hm.1
  exact actionInCorridor_change ho hs le_rfl (by omega) (ho.floor_le_max hp hs)

theorem campaignLevelAction_inCorridor (hp : PolicyBounds policy)
    (ho : ObservedBy policy observation observations) :
    ActionInCorridor policy observation (campaignLevelAction policy observation observations).1 := by
  unfold campaignLevelAction
  split_ifs
  · exact actionInCorridor_hold _
  · dsimp only
    split
    · exact actionInCorridor_disable hp ho _ _
    · split
      · rename_i action hr
        exact recoverMinimum_inCorridor hp ho (fun _ => ho.of_mem_valuesOf) hr
      · split_ifs <;> exact actionInCorridor_hold _

theorem bidChange_inCorridor (hp : PolicyBounds policy)
    (ho : ObservedBy policy observation observations) {sku : WbAutomationSkuObservation}
    (hs : sku ∈ observation.skus) (hle : sku.currentBidKopecks ≤ policy.maxBidKopecks)
    {change : WbAutomationBidChange} (h : bidChange policy sku = .ok (some change)) :
    InCorridor policy observation change := by
  simp only [bidChange, ok_of_bind] at h
  obtain ⟨drr, -, direction, -, h⟩ := h
  have hfloor := ho.floor_le_max hp hs
  cases direction with
  | none => simp at h
  | some rd =>
    obtain ⟨reason, increase⟩ := rd
    simp only [ok_of_bind] at h
    obtain ⟨toBid, hto, h⟩ := h
    split_ifs at h with hmove
    · simp only [ok_of_pure, Option.some.injEq] at h
      subst h
      -- a raise is clamped into the corridor, a cut lies between the floor and the current bid
      have hbid : effectiveMinimumBid policy sku ≤ toBid ∧ toBid ≤ policy.maxBidKopecks := by
        cases increase with
        | true =>
          have := increaseBid_spec hto hfloor
          exact ⟨this.1, this.2.1⟩
        | false =>
          simp only [stepBid, Bool.false_eq_true, if_false, Except.ok.injEq] at hto
          simp only [decide_eq_false_iff_not, not_lt] at hmove
          refine ⟨?_, hmove.2.trans hle⟩
          rw [← hto, decreaseBid]
          exact le_max_right _ _
      exact ⟨ho.nmId_mem hs, ⟨sku, hs, rfl, rfl, hbid.1⟩, hmove.1, hbid.2⟩
    · simp at h

theorem bidChanges_inCorridor (hp : PolicyBounds policy)
    (ho : ObservedBy policy observation observations) {skus : List WbAutomationSkuObservation}
    (hsub : ∀ sku ∈ skus, sku ∈ observation.skus ∧ sku.currentBidKopecks ≤ policy.maxBidKopecks)
    {changes : List WbAutomationBidChange} (h : bidChanges policy skus = .ok changes) :
    ∀ change ∈ changes, InCorridor policy observation change := by
  induction skus generalizing changes with
  | nil => simp_all [bidChanges]
  | cons sku rest ih =>
    simp only [bidChanges, ok_of_bind, ok_of_pure] at h
    obtain ⟨first, hfirst, others, hothers, rfl⟩ := h
    intro change hmem
    rcases List.mem_append.mp hmem with hc | hc
    · have hsku := hsub sku List.mem_cons_self
      rw [Option.mem_toList] at hc
      exact bidChange_inCorridor hp ho hsku.1 hsku.2 (hc ▸ hfirst)
    · exact ih (fun s hs => hsub s (List.mem_cons_of_mem _ hs)) hothers change hc

theorem attributedAction_inCorridor (hp : PolicyBounds policy)
    (ho : ObservedBy policy observation observations)
    (hle : ∀ sku ∈ observation.skus, sku.currentBidKopecks ≤ policy.maxBidKopecks)
    {result : WbAutomationAction × List WbAutomationSkuStop}
    (h : attributedAction policy observations = .ok result) :
    ActionInCorridor policy observation result.1 := by
  simp only [attributedAction, ok_of_bind] at h
  obtain ⟨stops, -, h⟩ := h
  split at h
  · cases h
    exact actionInCorridor_disable hp ho _ _
  · split at h
    · rename_i action hr
      cases h
      refine recoverMinimum_inCorridor hp ho (fun sku hs => ?_) hr
      exact ho.of_mem_valuesOf (List.mem_filter.mp hs).1
    · simp only [ok_of_bind] at h
      obtain ⟨changes, hch, h⟩ := h
      have hin := bidChanges_inCorridor hp ho (fun sku hs => by
        have hs := ho.of_mem_policySkus (List.mem_filter.mp hs).1
        exact ⟨hs, hle sku hs⟩) hch
      cases changes with
      | nil => cases h; exact actionInCorridor_hold _
      | cons change rest =>
        cases h
        exact actionInCorridor_single (hin change List.mem_cons_self)

theorem skuAction_spec (hp : PolicyBounds policy) (ho : ObservedBy policy observation observations)
    {result : WbAutomationAction × List WbAutomationSkuStop}
    (h : skuAction policy observation observations = .ok result) :
    ActionInCorridor policy observation result.1 ∧
      (result.1 = hold .attributionIncomplete → policy.bidWritesEnabled = true ∧
        ∀ sku ∈ observation.skus, sku.currentBidKopecks ≤ policy.maxBidKopecks) := by
  unfold skuAction at h
  split at h
  · cases h
    exact ⟨actionInCorridor_hold _, fun hc => by cases hc⟩
  · rename_i hw
    split at h
    · rename_i sku hfind
      cases h
      have hs := ho.of_mem_policySkus (List.mem_of_find?_eq_some hfind)
      have hgt : policy.maxBidKopecks < sku.currentBidKopecks := by
        simpa using List.find?_some hfind
      exact ⟨actionInCorridor_change ho hs (ho.floor_le_max hp hs) (by omega) le_rfl,
        fun hc => by cases hc⟩
    · rename_i hnone
      have hle : ∀ sku ∈ observation.skus, sku.currentBidKopecks ≤ policy.maxBidKopecks := by
        intro sku hs
        simpa using List.find?_eq_none.mp hnone sku (ho.mem_policySkus hs)
      refine ⟨?_, fun _ => ⟨by simpa using hw, hle⟩⟩
      split_ifs at h
      · cases h
        exact campaignLevelAction_inCorridor hp ho
      · exact attributedAction_inCorridor hp ho hle h

/-- The successful evaluations: a gate fired, or the campaign was judged SKU by SKU. -/
theorem evaluate_cases {decision : WbAutomationDecision}
    (h : evaluateWbAutomation policy observation = .ok decision) :
    PolicyBounds policy ∧ ∃ observations, ObservedBy policy observation observations ∧
      ((campaignGate policy observation = some decision.action ∧ decision.unresolvedStops = []) ∨
        (campaignGate policy observation = none ∧
          skuAction policy observation observations =
            .ok (decision.action, decision.unresolvedStops))) := by
  simp only [evaluateWbAutomation, ok_of_bind, ok_of_pure] at h
  obtain ⟨_, hpol, m, hobs, ⟨action, stops⟩, hact, rfl⟩ := h
  refine ⟨bounds_of_validatePolicy hpol, m, observedBy_of_validateObservation hobs, ?_⟩
  unfold gatedAction at hact
  split at hact
  · rename_i a hg
    cases hact
    exact .inl ⟨hg, rfl⟩
  · rename_i hg
    exact .inr ⟨hg, hact⟩

theorem campaignGate_kind {action : WbAutomationAction}
    (h : campaignGate policy observation = some action) :
    action = pauseCampaignForDailyCap ∨
      ∃ reason, action = hold reason ∧ reason ≠ .attributionIncomplete := by
  revert h
  fun_cases campaignGate policy observation
  all_goals intro h; cases h
  all_goals first | exact .inl rfl | exact .inr ⟨_, rfl, by decide⟩

/-- **The evaluator stays in the corridor**, and holds for incomplete attribution only when bid
writes are enabled and no bid exceeds the ceiling. -/
theorem evaluate_inCorridor {decision : WbAutomationDecision}
    (h : evaluateWbAutomation policy observation = .ok decision) :
    ActionInCorridor policy observation decision.action ∧
      (decision.action = hold .attributionIncomplete → policy.bidWritesEnabled = true ∧
        ∀ sku ∈ observation.skus, sku.currentBidKopecks ≤ policy.maxBidKopecks) := by
  obtain ⟨hp, m, ho, ⟨hg, -⟩ | ⟨-, hact⟩⟩ := evaluate_cases h
  · obtain hpause | ⟨reason, hhold, hr⟩ := campaignGate_kind hg
    · rw [hpause]
      exact ⟨actionInCorridor_pause, by simp⟩
    · rw [hhold]
      exact ⟨actionInCorridor_hold reason, by simp [hr]⟩
  · exact skuAction_spec hp ho hact

end Evaluate

/-! ## Pacing -/

section Pacing

variable {policy : WbAutomationPolicy} {observations : SkuMap} {snapshot : WbAutomationSnapshot}

theorem trafficFrontierDynamicCap_le {metrics : WbAutomationCampaignMetrics} {cap : ℕ}
    (h : trafficFrontierDynamicCap policy snapshot metrics = .ok cap) :
    cap ≤ policy.maxBidKopecks := by
  simp only [trafficFrontierDynamicCap, ok_of_map] at h
  obtain ⟨economic, -, rfl⟩ := h
  omega

/-- A frontier raise never leaves the corridor, wherever the live bids are. -/
theorem frontierIncrease_inCorridor
    (ho : ObservedBy policy snapshot.observation observations)
    {feedback : WbAutomationCampaignMetrics} {decision : WbAutomationDecision}
    (h : trafficFrontierIncreaseDecision policy snapshot feedback = .ok (some decision)) :
    ActionInCorridor policy snapshot.observation decision.action := by
  simp only [trafficFrontierIncreaseDecision, ok_of_bind, context_eq_ok] at h
  obtain ⟨frontier, -, cap, hcap, h⟩ := h
  have hcapmax := trafficFrontierDynamicCap_le hcap
  split at h
  · cases h
  · split at h
    · cases h
    · rename_i sku hsel
      have hm := List.mem_filter.mp (minByKey_mem hsel)
      simp only [decide_eq_true_eq] at hm
      obtain ⟨hs, -, hcur, hfloor⟩ := hm
      split at h
      · cases h
        exact actionInCorridor_change ho hs (by omega) (by omega) (by omega)
      · simp only [ok_of_bind, ok_of_mapError] at h
        obtain ⟨raised, hr, h⟩ := h
        cases h
        have hspec := increaseBid_spec hr (hfloor.trans hcapmax)
        exact actionInCorridor_change ho hs (by omega) (by omega) (by omega)

theorem frontierIncrease_reason {feedback : WbAutomationCampaignMetrics} {decision : WbAutomationDecision}
    (h : trafficFrontierIncreaseDecision policy snapshot feedback = .ok (some decision)) :
    ∃ change, decision.action = changeBids [change] ∧
      (change.reason = .trafficFrontierBootstrap ∨ change.reason = .trafficFrontierIncrease) := by
  simp only [trafficFrontierIncreaseDecision, ok_of_bind, context_eq_ok] at h
  obtain ⟨frontier, -, cap, -, h⟩ := h
  split at h
  · cases h
  split at h
  · cases h
  split at h
  · cases h
    exact ⟨_, rfl, .inl rfl⟩
  · simp only [ok_of_bind, ok_of_mapError] at h
    obtain ⟨raised, -, h⟩ := h
    cases h
    exact ⟨_, rfl, .inr rfl⟩

theorem frontierDecrease_spec {reason : WbAutomationBidReason} {decision : WbAutomationDecision}
    (h : trafficFrontierDecrease policy snapshot reason = some decision) :
    ∃ sku ∈ snapshot.observation.skus, effectiveMinimumBid policy sku < sku.currentBidKopecks ∧
      decision.action = changeBids [⟨sku.nmId, sku.currentBidKopecks,
        max (steppedDown policy sku.currentBidKopecks) (effectiveMinimumBid policy sku), reason⟩] := by
  unfold trafficFrontierDecrease at h
  split at h
  · cases h
  · rename_i sku hsel
    have hm := List.mem_filter.mp (maxByKey_mem hsel)
    simp only [decide_eq_true_eq] at hm
    dsimp only at h
    split_ifs at h
    cases h
    exact ⟨sku, hm.1, hm.2, rfl⟩

/-- With some bid above its floor, the highest such bid is stepped down. -/
theorem frontierDecrease_highest (snapshot : WbAutomationSnapshot) (reason : WbAutomationBidReason)
    {sku : WbAutomationSkuObservation} (hs : sku ∈ snapshot.observation.skus)
    (hfloor : effectiveMinimumBid policy sku < sku.currentBidKopecks) :
    ∃ decision highest, trafficFrontierDecrease policy snapshot reason = some decision ∧
      sku.currentBidKopecks ≤ highest.currentBidKopecks ∧
      decision.action = changeBids [⟨highest.nmId, highest.currentBidKopecks,
        max (steppedDown policy highest.currentBidKopecks)
          (effectiveMinimumBid policy highest), reason⟩] := by
  have hmem : sku ∈ snapshot.observation.skus.filter fun sku =>
      decide (effectiveMinimumBid policy sku < sku.currentBidKopecks) :=
    List.mem_filter.mpr ⟨hs, by simpa using hfloor⟩
  unfold trafficFrontierDecrease
  split
  · rename_i hnone
    rw [maxByKey_eq_none hnone] at hmem
    cases hmem
  · rename_i highest hsel
    have hhigh := List.mem_filter.mp (maxByKey_mem hsel)
    simp only [decide_eq_true_eq] at hhigh
    have hle : sku.currentBidKopecks ≤ highest.currentBidKopecks := by
      rcases Prod.Lex.le_iff.mp (le_maxByKey hsel sku hmem) with h | h
      · exact le_of_lt h
      · exact le_of_eq h.1
    dsimp only
    rw [if_pos (decreaseFrontierBid_lt hhigh.2)]
    exact ⟨_, highest, rfl, hle, rfl⟩

theorem frontierDecrease_of_mem (snapshot : WbAutomationSnapshot)
    (reason : WbAutomationBidReason) (hp : PolicyBounds policy) {sku : WbAutomationSkuObservation} (hs : sku ∈ snapshot.observation.skus)
    (hfloor : effectiveMinimumBid policy sku < sku.currentBidKopecks) :
    ∃ decision highest, trafficFrontierDecrease policy snapshot reason = some decision ∧
      steppedDown policy sku.currentBidKopecks ≤ steppedDown policy highest.currentBidKopecks ∧
      decision.action = changeBids [⟨highest.nmId, highest.currentBidKopecks,
        max (steppedDown policy highest.currentBidKopecks)
          (effectiveMinimumBid policy highest), reason⟩] := by
  obtain ⟨decision, highest, hdecision, hle, haction⟩ := frontierDecrease_highest snapshot reason hs hfloor
  exact ⟨decision, highest, hdecision, steppedDown_mono hp hle, haction⟩

theorem frontierDecrease_inCorridor (hp : PolicyBounds policy)
    (ho : ObservedBy policy snapshot.observation observations)
    (hle : ∀ sku ∈ snapshot.observation.skus,
      steppedDown policy sku.currentBidKopecks ≤ policy.maxBidKopecks)
    {reason : WbAutomationBidReason} {decision : WbAutomationDecision}
    (h : trafficFrontierDecrease policy snapshot reason = some decision) :
    ActionInCorridor policy snapshot.observation decision.action := by
  obtain ⟨sku, hs, hfloor, hact⟩ := frontierDecrease_spec h
  rw [hact]
  refine actionInCorridor_change ho hs (le_max_right _ _) ?_
    (max_le (hle sku hs) (ho.floor_le_max hp hs))
  exact (decreaseFrontierBid_lt hfloor).ne

/-- The reason for which traffic-frontier pacing steps a bid down, if it does. -/
def DecreaseCalledFor (policy : WbAutomationPolicy) (snapshot : WbAutomationSnapshot)
    (lastAppliedSnapshot : Option WbAutomationSnapshot) (reason : WbAutomationBidReason) : Prop :=
  ∃ metrics feedback drr, snapshot.observation.currentCampaignMetrics = some metrics ∧
    consistentMetrics metrics ∧
    trafficFrontierFeedback policy snapshot metrics lastAppliedSnapshot = .ok (some feedback) ∧
    campaignDrrBasisPoints feedback.metrics = .ok drr ∧
    trafficFrontierDecreaseReason policy feedback.metrics drr
      (spendOverPace policy snapshot.observation.observedAt metrics) = .ok (some reason)

/-- The feedback on which traffic-frontier pacing tries to raise a bid, if it does. -/
def IncreaseCalledFor (policy : WbAutomationPolicy) (snapshot : WbAutomationSnapshot)
    (lastAppliedSnapshot : Option WbAutomationSnapshot) (feedback : TrafficFrontierFeedback) :
    Prop :=
  ∃ metrics drr, snapshot.observation.currentCampaignMetrics = some metrics ∧
    consistentMetrics metrics ∧
    trafficFrontierFeedback policy snapshot metrics lastAppliedSnapshot = .ok (some feedback) ∧
    campaignDrrBasisPoints feedback.metrics = .ok drr ∧
    trafficFrontierDecreaseReason policy feedback.metrics drr
      (spendOverPace policy snapshot.observation.observedAt metrics) = .ok none ∧
    ¬(policy.autonomousPacing.usesMarginalFeedback ∧
      policy.targetOrdersPerDay ≤ metrics.attributedOrders) ∧
    ¬(spendUnderPace policy snapshot.observation.observedAt metrics = false ∨
      pacedValue policy.targetImpressionsPerDay snapshot.observation.observedAt ≤
        metrics.impressions) ∧
    ¬(policy.autonomousPacing.usesMarginalFeedback ∧ feedback.zeroCostProbe = false ∧
      (feedback.metrics.attributedOrders = 0 ∨ feedback.metrics.clicks = 0 ∨
        feedback.metrics.attributedRevenueMinor = 0 ∨
        drr.all (fun value => policy.targetDrrBasisPoints < value)))

/-- What traffic-frontier pacing can decide on a hold for incomplete attribution. -/
theorem pacing_cases {lastAppliedSnapshot : Option WbAutomationSnapshot}
    {decision : WbAutomationDecision}
    (h : trafficFrontierPacingDecision policy snapshot lastAppliedSnapshot = .ok (some decision)) :
    (∃ reason, decision.action = hold reason) ∨
      (∃ reason, DecreaseCalledFor policy snapshot lastAppliedSnapshot reason ∧
        trafficFrontierDecrease policy snapshot reason = some decision) ∨
      ∃ feedback, IncreaseCalledFor policy snapshot lastAppliedSnapshot feedback ∧
        trafficFrontierIncreaseDecision policy snapshot feedback.metrics = .ok (some decision) := by
  unfold trafficFrontierPacingDecision at h
  split at h
  · cases h
  split at h
  · cases h
    exact .inl ⟨_, rfl⟩
  rename_i metrics hmetrics
  simp only [ok_of_bind, ensure_eq_ok] at h
  obtain ⟨_, hcons, feedback, hfb, h⟩ := h
  cases feedback with
  | none => cases h; exact .inl ⟨_, rfl⟩
  | some feedback =>
    simp only [ok_of_bind] at h
    obtain ⟨drr, hdrr, reason, hreason, h⟩ := h
    cases reason with
    | some reason =>
      simp only [ok_of_pure] at h
      exact .inr (.inl ⟨reason, ⟨metrics, feedback, drr, hmetrics, hcons, hfb, hdrr, hreason⟩, h⟩)
    | none =>
      dsimp only at h
      split at h
      · cases h
      rename_i horders
      split at h
      · cases h
      rename_i hpace
      split at h
      · cases h
        exact .inl ⟨_, rfl⟩
      rename_i hevidence
      exact .inr (.inr ⟨feedback, ⟨metrics, drr, hmetrics, hcons, hfb, hdrr, hreason, horders, hpace,
        hevidence⟩, h⟩)

theorem pacing_of_decreaseCalledFor {lastAppliedSnapshot : Option WbAutomationSnapshot}
    {reason : WbAutomationBidReason}
    (hhold : snapshot.decision.action = hold .attributionIncomplete)
    (h : DecreaseCalledFor policy snapshot lastAppliedSnapshot reason) :
    trafficFrontierPacingDecision policy snapshot lastAppliedSnapshot =
      .ok (trafficFrontierDecrease policy snapshot reason) := by
  obtain ⟨metrics, feedback, drr, hm, hcons, hfb, hdrr, hreason⟩ := h
  unfold trafficFrontierPacingDecision
  rw [if_neg (by simp [hhold]), hm]
  dsimp only
  simp only [ok_of_bind, ensure_eq_ok]
  exact ⟨(), hcons, some feedback, hfb, by
    simp only [ok_of_bind]
    exact ⟨drr, hdrr, some reason, hreason, rfl⟩⟩

theorem pacing_of_increaseCalledFor {lastAppliedSnapshot : Option WbAutomationSnapshot}
    {feedback : TrafficFrontierFeedback}
    (hhold : snapshot.decision.action = hold .attributionIncomplete)
    (h : IncreaseCalledFor policy snapshot lastAppliedSnapshot feedback)
    {result : Option WbAutomationDecision}
    (hr : trafficFrontierIncreaseDecision policy snapshot feedback.metrics = .ok result) :
    trafficFrontierPacingDecision policy snapshot lastAppliedSnapshot = .ok result := by
  obtain ⟨metrics, drr, hm, hcons, hfb, hdrr, hreason, horders, hpace, hevidence⟩ := h
  unfold trafficFrontierPacingDecision
  rw [if_neg (by simp [hhold]), hm]
  dsimp only
  simp only [ok_of_bind, ensure_eq_ok]
  refine ⟨(), hcons, some feedback, hfb, ?_⟩
  simp only [ok_of_bind]
  refine ⟨drr, hdrr, none, hreason, ?_⟩
  dsimp only
  rw [if_neg horders, if_neg hpace, if_neg hevidence]
  exact hr

/-- **Pacing stays in the corridor** when every bid steps down to the ceiling or below. -/
theorem pacing_inCorridor (hp : PolicyBounds policy)
    (ho : ObservedBy policy snapshot.observation observations)
    {lastAppliedSnapshot : Option WbAutomationSnapshot}
    (hle : (∃ reason, DecreaseCalledFor policy snapshot lastAppliedSnapshot reason) →
      ∀ sku ∈ snapshot.observation.skus,
        steppedDown policy sku.currentBidKopecks ≤ policy.maxBidKopecks)
    {decision : WbAutomationDecision}
    (h : trafficFrontierPacingDecision policy snapshot lastAppliedSnapshot = .ok (some decision)) :
    ActionInCorridor policy snapshot.observation decision.action := by
  obtain ⟨reason, hr⟩ | ⟨reason, hcalled, hd⟩ | ⟨feedback, -, hi⟩ := pacing_cases h
  · rw [hr]
    exact actionInCorridor_hold _
  · exact frontierDecrease_inCorridor hp ho (hle ⟨reason, hcalled⟩) hd
  · exact frontierIncrease_inCorridor ho hi

theorem exposureRaise_inCorridor {observation : WbAutomationObservation}
    (hp : PolicyBounds policy) (ho : ObservedBy policy observation observations)
    {sku : WbAutomationSkuObservation}
    (hsel : exposureCandidate policy observation = some sku) {toBid : ℕ} {message : String}
    (hr : raisedBid policy sku message = .ok toBid) (reason : WbAutomationBidReason) :
    ActionInCorridor policy observation
      (changeBids [⟨sku.nmId, sku.currentBidKopecks, toBid, reason⟩]) := by
  obtain ⟨hs, hcur⟩ := of_exposureCandidate hsel
  simp only [raisedBid, ok_of_mapError] at hr
  obtain ⟨h1, h2, h3⟩ := increaseBid_spec hr (ho.floor_le_max hp hs)
  exact actionInCorridor_change ho hs h1 (h3 hcur).ne' h2

theorem exposurePacing_inCorridor (hp : PolicyBounds policy)
    (ho : ObservedBy policy snapshot.observation observations) {decision : WbAutomationDecision}
    (h : autonomousExposurePacingDecision policy snapshot = .ok (some decision)) :
    ActionInCorridor policy snapshot.observation decision.action := by
  unfold autonomousExposurePacingDecision at h
  split at h
  · cases h
  split at h
  · cases h
  split at h
  · cases h
  split at h
  · cases h
  rename_i sku hsel
  simp only [ok_of_bind, ensure_eq_ok, ok_of_pure, Option.some.injEq] at h
  obtain ⟨toBid, hr, -, -, rfl⟩ := h
  exact exposureRaise_inCorridor hp ho hsel hr _

end Pacing

end AdsControl.Wb
