import AdsControl.Wb.Corridor

/-!
# The direction of a decision

With attribution per SKU every change of the evaluator moves the bid the way its reason says, a SKU
under a hard stop is never raised, and stops above their floor come before everything but the
ceiling repair.

* `stopReason`: the hard stop of a row;
* `DirectedChange`: reasons that lower and reasons that raise;
* `attributedAction_cases`: what the per-SKU rules can decide;
* **`direction_law`**: the law over every decision behind the gates.
-/

namespace AdsControl.Wb

open WbAutomationAction KeySelect Fallible

/-! ## Hard stops -/

/-- The hard stop of a row, if it has one. -/
def stopReason (policy : WbAutomationPolicy) (sku : WbAutomationSkuObservation) :
    Option WbAutomationDisableReason :=
  match skuStop policy sku with
  | .ok reason => reason
  | .error _ => none

/-- Reasons that lower a bid. -/
def loweringReasons : List WbAutomationBidReason :=
  [.policyMaximumExceeded, .noOrdersAfterClicks, .targetDrrExceeded]

/-- Reasons that raise a bid. -/
def raisingReasons : List WbAutomationBidReason :=
  [.policyMinimumNotMet, .efficientSales, .lowExposureExploration]

/-- A change in the direction of its reason. -/
def DirectedChange (change : WbAutomationBidChange) : Prop :=
  change.reason ∈ loweringReasons ∧ change.toBidKopecks < change.fromBidKopecks ∨
    change.reason ∈ raisingReasons ∧ change.fromBidKopecks < change.toBidKopecks

section Rows

variable {policy : WbAutomationPolicy} {sku : WbAutomationSkuObservation}

/-- A row above its floor under a hard stop. -/
def stoppedAboveFloor (policy : WbAutomationPolicy) (sku : WbAutomationSkuObservation) : Bool :=
  (stopReason policy sku).isSome && decide (effectiveMinimumBid policy sku < sku.currentBidKopecks)

/-- The stop of a row that has no lever left. -/
def unresolvedStop (policy : WbAutomationPolicy) (sku : WbAutomationSkuObservation) :
    Option WbAutomationSkuStop :=
  if sku.currentBidKopecks ≤ effectiveMinimumBid policy sku then
    (stopReason policy sku).map fun reason => ⟨sku.nmId, reason⟩ else none

theorem skuStops_eq {skus : List WbAutomationSkuObservation}
    {stops : List (WbAutomationSkuObservation × WbAutomationDisableReason)}
    (h : skuStops policy skus = .ok stops) :
    stops = skus.filterMap fun sku => (stopReason policy sku).map fun reason => (sku, reason) := by
  induction skus generalizing stops with
  | nil =>
    cases h
    rfl
  | cons sku rest ih =>
    simp only [skuStops, ok_of_bind, ok_of_pure] at h
    obtain ⟨stop, hstop, others, hothers, rfl⟩ := h
    have hreason : stopReason policy sku = stop := by rw [stopReason, hstop]
    rw [ih hothers]
    cases stop with
    | none => rw [List.filterMap_cons_none (by rw [hreason]; rfl)]
    | some reason => rw [List.filterMap_cons_some (by rw [hreason]; rfl)]

theorem find?_stops (skus : List WbAutomationSkuObservation) :
    (skus.filterMap fun sku => (stopReason policy sku).map fun reason => (sku, reason)).find?
        (fun p => decide (effectiveMinimumBid policy p.1 < p.1.currentBidKopecks)) =
      (skus.find? (stoppedAboveFloor policy)).bind fun sku =>
        (stopReason policy sku).map fun reason => (sku, reason) := by
  induction skus with
  | nil => rfl
  | cons sku rest ih =>
    cases hreason : stopReason policy sku with
    | none =>
      rw [List.filterMap_cons_none (by rw [hreason]; rfl), ih, List.find?_cons_of_neg]
      simp [stoppedAboveFloor, hreason]
    | some reason =>
      rw [List.filterMap_cons_some (by rw [hreason]; rfl)]
      by_cases hfloor : effectiveMinimumBid policy sku < sku.currentBidKopecks
      · rw [List.find?_cons_of_pos (by simpa using hfloor),
          List.find?_cons_of_pos (by simp [stoppedAboveFloor, hreason, hfloor])]
        simp [hreason]
      · rw [List.find?_cons_of_neg (by simpa using hfloor), ih,
          List.find?_cons_of_neg (by simp [stoppedAboveFloor, hreason, hfloor])]

theorem filterMap_stops (skus : List WbAutomationSkuObservation) :
    ((skus.filterMap fun sku => (stopReason policy sku).map fun reason => (sku, reason)).filterMap
      fun p => if p.1.currentBidKopecks ≤ effectiveMinimumBid policy p.1 then
        some (⟨p.1.nmId, p.2⟩ : WbAutomationSkuStop) else none) = skus.filterMap (unresolvedStop policy) := by
  rw [List.filterMap_filterMap]
  refine List.filterMap_congr fun sku _ => ?_
  unfold unresolvedStop
  cases stopReason policy sku with
  | none => split_ifs <;> rfl
  | some reason => rfl

theorem stopReason_eq_none_of_not_any {skus : List WbAutomationSkuObservation} (hmem : sku ∈ skus)
    (h : ((skus.filterMap fun sku => (stopReason policy sku).map fun reason => (sku, reason)).any
      fun p => p.1.nmId == sku.nmId) = false) : stopReason policy sku = none := by
  by_contra hstop
  obtain ⟨reason, hreason⟩ := Option.ne_none_iff_exists'.mp hstop
  rw [List.any_eq_false] at h
  refine h (sku, reason) (List.mem_filterMap.mpr ⟨sku, hmem, ?_⟩) (by simp)
  rw [hreason, Option.map_some]

/-! ## Ordinary changes -/

theorem reasonAndDirection_directed {drr : Option ℕ} {reason : WbAutomationBidReason} {increase : Bool}
    (h : reasonAndDirection policy sku drr = .ok (some (reason, increase))) :
    if increase then reason ∈ raisingReasons else reason ∈ loweringReasons := by
  have hexplore : (if sku.impressions < policy.lowExposureMaxImpressions ∧
      sku.clicks < policy.lowExposureMaxClicks then
      some (WbAutomationBidReason.lowExposureExploration, true) else none) = some (reason, increase) →
      if increase then reason ∈ raisingReasons else reason ∈ loweringReasons := by
    intro h
    split_ifs at h
    cases h
    decide
  unfold reasonAndDirection at h
  split at h
  · cases h
    decide
  split at h
  · cases h
    decide
  dsimp only at h
  split at h
  · simp only [ok_of_map] at h
    obtain ⟨conversion, _, h⟩ := h
    split at h
    · cases h
      decide
    · exact hexplore h
  · exact hexplore (Except.ok.inj h)

theorem of_bidChange {change : WbAutomationBidChange} (h : bidChange policy sku = .ok (some change)) :
    ∃ drr reason increase toBid, drrBasisPoints sku = .ok drr ∧
      reasonAndDirection policy sku drr = .ok (some (reason, increase)) ∧
      change = ⟨sku.nmId, sku.currentBidKopecks, toBid, reason⟩ ∧
      toBid ≠ sku.currentBidKopecks ∧ decide (sku.currentBidKopecks < toBid) = increase := by
  simp only [bidChange, ok_of_bind] at h
  obtain ⟨drr, hdrr, direction, hdirection, h⟩ := h
  cases direction with
  | none => simp at h
  | some rd =>
    obtain ⟨reason, increase⟩ := rd
    simp only [ok_of_bind] at h
    obtain ⟨toBid, _, h⟩ := h
    split_ifs at h with hmove
    · simp only [ok_of_pure, Option.some.injEq] at h
      exact ⟨drr, reason, increase, toBid, hdrr, hdirection, h.symm, hmove⟩
    · simp at h

/-- An ordinary change moves the observed bid in the direction of its reason. -/
theorem bidChange_directed {change : WbAutomationBidChange} (h : bidChange policy sku = .ok (some change)) :
    change.nmId = sku.nmId ∧ DirectedChange change := by
  obtain ⟨drr, reason, increase, toBid, _, hdirection, rfl, hne, hmove⟩ := of_bidChange h
  refine ⟨rfl, ?_⟩
  have hreason := reasonAndDirection_directed hdirection
  cases increase with
  | true => exact .inr ⟨hreason, by simpa using hmove⟩
  | false =>
    have hle : toBid ≤ sku.currentBidKopecks := by simpa using hmove
    exact .inl ⟨hreason, lt_of_le_of_ne hle hne⟩

theorem exists_of_mem_bidChanges {skus : List WbAutomationSkuObservation}
    {changes : List WbAutomationBidChange} (h : bidChanges policy skus = .ok changes) :
    ∀ change ∈ changes, ∃ sku ∈ skus, bidChange policy sku = .ok (some change) := by
  induction skus generalizing changes with
  | nil =>
    cases h
    simp
  | cons sku rest ih =>
    simp only [bidChanges, ok_of_bind, ok_of_pure] at h
    obtain ⟨first, hfirst, others, hothers, rfl⟩ := h
    intro change hmem
    rcases List.mem_append.mp hmem with hmem | hmem
    · rw [Option.mem_toList] at hmem
      exact ⟨sku, List.mem_cons_self, hmem ▸ hfirst⟩
    · obtain ⟨s, hs, hchange⟩ := ih hothers change hmem
      exact ⟨s, List.mem_cons_of_mem _ hs, hchange⟩

theorem recoverMinimum_directed {skus : List WbAutomationSkuObservation} {action : WbAutomationAction}
    (h : recoverMinimum policy skus = some action) :
    ∃ sku ∈ skus, ∃ change, action = changeBids [change] ∧ change.nmId = sku.nmId ∧ DirectedChange change := by
  unfold recoverMinimum at h
  rw [Option.map_eq_some_iff] at h
  obtain ⟨sku, hmin, rfl⟩ := h
  have hmem := List.mem_filter.mp (minByKey_mem hmin)
  simp only [decide_eq_true_eq] at hmem
  exact ⟨sku, hmem.1, _, rfl, rfl, .inr ⟨by simp [raisingReasons], hmem.2.2⟩⟩

end Rows

/-! ## The law -/

section Law

variable {policy : WbAutomationPolicy} {observation : WbAutomationObservation} {observations : SkuMap}

theorem ObservedBy.listedSkus_eq (ho : ObservedBy policy observation observations) :
    listedSkus policy observation = policySkus policy observations := by
  unfold listedSkus policySkus
  refine List.filterMap_congr fun id _ => ?_
  cases hfind : observation.skus.find? fun sku => sku.nmId == id with
  | some sku =>
    have hid : sku.nmId = id := by simpa using List.find?_some hfind
    rw [(ho.get_iff id sku).mpr ⟨List.mem_of_find?_eq_some hfind, hid⟩]
  | none =>
    cases hget : observations[id]? with
    | none => rfl
    | some sku =>
      obtain ⟨hmem, hid⟩ := (ho.get_iff id sku).mp hget
      have := List.find?_eq_none.mp hfind sku hmem
      simp [hid] at this

/-- Every change of an action is directed and leaves the stopped rows alone. -/
def Lawful (policy : WbAutomationPolicy) (observation : WbAutomationObservation)
    (action : WbAutomationAction) : Prop :=
  ∀ changes, action = changeBids changes → ∀ change ∈ changes, DirectedChange change ∧
    ∀ sku ∈ observation.skus, sku.nmId = change.nmId → stopReason policy sku ≠ none →
      change.toBidKopecks ≤ change.fromBidKopecks

theorem lawful_of_unstopped (ho : ObservedBy policy observation observations)
    {sku : WbAutomationSkuObservation} (hs : sku ∈ observation.skus) (hstop : stopReason policy sku = none)
    {changes : List WbAutomationBidChange}
    (h : ∀ change ∈ changes, change.nmId = sku.nmId ∧ DirectedChange change) :
    Lawful policy observation (changeBids changes) := by
  intro changes' heq change hmem
  cases heq
  obtain ⟨hid, hdirected⟩ := h change hmem
  refine ⟨hdirected, fun sku' hs' hid' hstop' => ?_⟩
  -- a row of an accepted observation is determined by its identifier
  have hsame : sku' = sku := by
    have hget := ho.mem_observations hs'
    rw [hid', hid, ho.mem_observations hs, Option.some.injEq] at hget
    exact hget.symm
  rw [hsame] at hstop'
  exact absurd hstop hstop'

/-- **Attributed decisions.** Stops above their floor come first, then changes of unstopped rows. -/
theorem attributedAction_cases (ho : ObservedBy policy observation observations)
    {result : WbAutomationAction × List WbAutomationSkuStop}
    (h : attributedAction policy observations = .ok result) :
    Lawful policy observation result.1 ∧
      result.2 = (listedSkus policy observation).filterMap (unresolvedStop policy) ∧
      ∀ sku, (listedSkus policy observation).find? (stoppedAboveFloor policy) = some sku →
        ∃ reason, stopReason policy sku = some reason ∧ result.1 = disableSku sku.nmId reason := by
  rw [ho.listedSkus_eq]
  simp only [attributedAction, ok_of_bind] at h
  obtain ⟨stops, hstops, h⟩ := h
  have hstops := skuStops_eq hstops
  have hunstopped : ∀ sku ∈ observation.skus, (stops.any fun p => p.1.nmId == sku.nmId) = false →
      stopReason policy sku = none := by
    intro sku hs hany
    rw [hstops] at hany
    exact stopReason_eq_none_of_not_any (ho.mem_policySkus hs) hany
  rw [hstops, filterMap_stops, find?_stops, ← hstops] at h
  cases hfind : (policySkus policy observations).find? (stoppedAboveFloor policy) with
  | some sku =>
    have hstopped := List.find?_some hfind
    simp only [stoppedAboveFloor, Bool.and_eq_true, Option.isSome_iff_exists] at hstopped
    obtain ⟨⟨reason, hreason⟩, _⟩ := hstopped
    simp only [hfind, Option.bind_some, hreason, Option.map_some, ok_of_pure] at h
    subst h
    refine ⟨fun changes hchanges => (by cases hchanges), rfl, fun sku' hsku' => ?_⟩
    rw [Option.some.injEq] at hsku'
    subst hsku'
    exact ⟨reason, hreason, rfl⟩
  | none =>
    simp only [hfind, Option.bind_none] at h
    have hlaw : Lawful policy observation result.1 ∧
        result.2 = (policySkus policy observations).filterMap (unresolvedStop policy) := by
      split at h
      · rename_i action hrecover
        rw [ok_of_pure] at h
        subst h
        obtain ⟨sku, hmem, change, haction, hid, hdirected⟩ := recoverMinimum_directed hrecover
        obtain ⟨hvalue, hnot⟩ := List.mem_filter.mp hmem
        have hs := ho.of_mem_valuesOf hvalue
        refine ⟨?_, rfl⟩
        dsimp only
        rw [haction]
        refine lawful_of_unstopped ho hs (hunstopped sku hs (by simpa using hnot)) fun c hc => ?_
        rw [List.mem_singleton.mp hc]
        exact ⟨hid, hdirected⟩
      · simp only [ok_of_bind] at h
        obtain ⟨changes, hchanges, h⟩ := h
        cases changes with
        | nil =>
          cases h
          exact ⟨fun changes hchanges => (by cases hchanges), rfl⟩
        | cons change rest =>
          cases h
          obtain ⟨sku, hmem, hchange⟩ := exists_of_mem_bidChanges hchanges change List.mem_cons_self
          obtain ⟨hlisted, hnot⟩ := List.mem_filter.mp hmem
          have hs := ho.of_mem_policySkus hlisted
          refine ⟨lawful_of_unstopped ho hs (hunstopped sku hs (by simpa using hnot)) fun c hc => ?_, rfl⟩
          rw [List.mem_singleton.mp hc]
          exact bidChange_directed hchange
    exact ⟨hlaw.1, hlaw.2, fun sku hsku => by cases hsku⟩

/-- A hard stop that becomes a change lowers the bid. -/
theorem pendingKind_disableSku_lowers {nmId minBid : ℕ} {reason : WbAutomationDisableReason}
    {changes : List WbAutomationBidChange}
    (h : pendingKind (disableSku nmId reason) observation minBid = some (.changeBids changes)) :
    ∀ change ∈ changes, change.toBidKopecks < change.fromBidKopecks := by
  simp only [pendingKind, Option.bind_eq_bind, Option.bind_eq_some_iff] at h
  obtain ⟨sku, _, h⟩ := h
  split_ifs at h with hle
  simp only [Option.some.injEq, PendingActionKind.changeBids.injEq] at h
  intro change hmem
  rw [← h, List.mem_singleton] at hmem
  rw [hmem]
  exact not_le.mp hle

/-- **The direction law.** Behind the gates and with attribution per SKU, every change moves the bid the way
its reason says, a hard stop that becomes a change lowers it, and a row under a hard stop is never raised.
While bid writes are enabled and no bid exceeds the ceiling, the first stopped row above its floor, in the
order of the policy, is disabled, and the unresolved stops are the stopped rows at their floor. -/
theorem direction_law {decision : WbAutomationDecision}
    (h : evaluateWbAutomation policy observation = .ok decision)
    (hcomplete : observation.attributionComplete = true) (hgate : campaignGate policy observation = none) :
    (∀ changes, decision.action = changeBids changes → ∀ change ∈ changes,
      (change.reason ∈ loweringReasons ∧ change.toBidKopecks < change.fromBidKopecks ∨
        change.reason ∈ raisingReasons ∧ change.fromBidKopecks < change.toBidKopecks) ∧
      ∀ sku ∈ observation.skus, sku.nmId = change.nmId → stopReason policy sku ≠ none →
        change.toBidKopecks ≤ change.fromBidKopecks) ∧
    (∀ nmId reason changes, decision.action = disableSku nmId reason →
      pendingKind decision.action observation policy.minBidKopecks = some (.changeBids changes) →
      ∀ change ∈ changes, change.toBidKopecks < change.fromBidKopecks) ∧
    (policy.bidWritesEnabled = true →
      (∀ sku ∈ observation.skus, sku.currentBidKopecks ≤ policy.maxBidKopecks) →
      decision.unresolvedStops = (listedSkus policy observation).filterMap (unresolvedStop policy) ∧
      ∀ sku, (listedSkus policy observation).find? (stoppedAboveFloor policy) = some sku →
        ∃ reason, stopReason policy sku = some reason ∧ decision.action = disableSku sku.nmId reason) := by
  obtain ⟨hp, observations, ho, ⟨hg, _⟩ | ⟨_, hact⟩⟩ := evaluate_cases h
  · rw [hgate] at hg
    cases hg
  have hdisable : ∀ nmId reason changes, decision.action = disableSku nmId reason →
      pendingKind decision.action observation policy.minBidKopecks = some (.changeBids changes) →
      ∀ change ∈ changes, change.toBidKopecks < change.fromBidKopecks := by
    intro nmId reason changes haction hpending
    rw [haction] at hpending
    exact pendingKind_disableSku_lowers hpending
  unfold skuAction at hact
  split at hact
  · rename_i hwrites
    simp only [Except.ok.injEq, Prod.mk.injEq] at hact
    refine ⟨fun changes hchanges => ?_, hdisable, fun henabled => ?_⟩
    · rw [← hact.1] at hchanges
      cases hchanges
    · rw [henabled] at hwrites
      cases hwrites
  split at hact
  · rename_i sku hfind
    have hs := ho.of_mem_policySkus (List.mem_of_find?_eq_some hfind)
    have hexceeds : policy.maxBidKopecks < sku.currentBidKopecks := by
      simpa using List.find?_some hfind
    simp only [Except.ok.injEq, Prod.mk.injEq] at hact
    refine ⟨fun changes hchanges change hmem => ?_, hdisable, fun _ hbelow => ?_⟩
    · rw [← hact.1] at hchanges
      cases hchanges
      rw [List.mem_singleton.mp hmem]
      exact ⟨.inl ⟨by simp [loweringReasons], hexceeds⟩, fun _ _ _ _ => hexceeds.le⟩
    · have := hbelow sku hs
      omega
  rw [if_neg (by simp [hcomplete])] at hact
  obtain ⟨hlawful, hunresolved, hfirst⟩ := attributedAction_cases ho hact
  exact ⟨hlawful, hdisable, fun _ _ => ⟨hunresolved, hfirst⟩⟩

end Law

/-- Complete attribution of two rows of the reviewed campaign. -/
def attributedObservation (skus : List WbAutomationSkuObservation) : WbAutomationObservation where
  observedAt := seconds 43200
  campaignStatus := 9
  pausedByAutomation := false
  budgetRemainingMinor := 100000
  dailySpendMinor := 5000
  dailySpendComplete := true
  actionsToday := 0
  lastActionAt := none
  attributionComplete := true
  campaignLevelMetrics := none
  currentCampaignMetrics := none
  skus := skus

/-- A row out of stock above its floor and one at its floor: the first is disabled, the second reported. -/
theorem direction_law_two_stops : ∃ decision, evaluateWbAutomation robotPolicy
      (attributedObservation [⟨449627598, 102, 200, 0, 0, 0, 0, 0, 0⟩, ⟨449627015, 102, 102, 0, 0, 0, 0, 0, 0⟩]) =
      .ok decision ∧ decision.action = disableSku 449627598 .lowStock ∧
    decision.unresolvedStops = [⟨449627015, .lowStock⟩] := by
  obtain ⟨decision, hdecision⟩ : ∃ decision, evaluateWbAutomation robotPolicy (attributedObservation
      [⟨449627598, 102, 200, 0, 0, 0, 0, 0, 0⟩, ⟨449627015, 102, 102, 0, 0, 0, 0, 0, 0⟩]) = .ok decision :=
    ⟨_, rfl⟩
  obtain ⟨hstops, hfirst⟩ := (direction_law hdecision rfl rfl).2.2 rfl (by decide)
  refine ⟨decision, hdecision, ?_, hstops⟩
  obtain ⟨reason, hreason, haction⟩ := hfirst ⟨449627598, 102, 200, 0, 0, 0, 0, 0, 0⟩ (by decide)
  cases hreason
  exact haction

/-- With bid writes disabled a stopped row above its floor is left alone; under the ceiling repair a stop at
its floor is not reported. -/
theorem direction_law_fails_without_writes :
    (∃ decision, evaluateWbAutomation { robotPolicy with bidWritesEnabled := false }
        (attributedObservation [⟨449627598, 102, 200, 0, 0, 0, 0, 0, 0⟩, ⟨449627015, 102, 102, 9, 0, 0, 0, 0, 0⟩]) =
        .ok decision ∧ decision.action = hold .bidWritesDisabled) ∧
    ∃ decision, evaluateWbAutomation robotPolicy (attributedObservation
        [⟨449627598, 102, 2000, 9, 0, 0, 0, 0, 0⟩, ⟨449627015, 102, 102, 0, 0, 0, 0, 0, 0⟩]) = .ok decision ∧
      stopReason robotPolicy ⟨449627015, 102, 102, 0, 0, 0, 0, 0, 0⟩ = some .lowStock ∧
      decision.unresolvedStops = [] :=
  ⟨⟨_, rfl, rfl⟩, _, rfl, rfl, rfl⟩

end AdsControl.Wb
