import AdsControl.Wb.Corridor

/-!
# What a decision depends on

Campaign totals never decide about a single SKU. Without attribution per SKU two observations that
differ in counters, in the values of campaign metrics and in the order of their rows give the same
decision; with it, the order of the rows does not matter.

* `withoutCounters`: what the stock and corridor rules read of a row;
* `SameOutsideMetrics`: two observations with the same rows up to counters, and the same frame;
* `skuAction_congr`: the rules behind the gates read nothing else;
* **`decision_independent`**: the two statements above.
-/

namespace AdsControl.Wb

open WbAutomationAction KeySelect Fallible

/-! ## Rows that differ in what a rule does not read -/

section Congruence

variable {α β : Type} {w : α → α} {l l' : List α}

theorem filterMap_congr_map (hl : l.map w = l'.map w) {f : α → Option β} (hf : ∀ a, f (w a) = f a) :
    l.filterMap f = l'.filterMap f := by
  have hmap : ∀ k : List α, (k.map w).filterMap f = k.filterMap f := by
    intro k
    rw [List.filterMap_map]
    exact List.filterMap_congr fun a _ => hf a
  rw [← hmap l, hl, hmap]

theorem filter_map_congr (hl : l.map w = l'.map w) {p : α → Bool} (hp : ∀ a, p (w a) = p a) :
    (l.filter p).map w = (l'.filter p).map w := by
  have hmap : ∀ k : List α, (k.filter p).map w = (k.map w).filter p := by
    intro k
    rw [List.filter_map]
    congr 1
    exact List.filter_congr fun a _ => (hp a).symm
  rw [hmap, hl, hmap]

theorem find?_congr_map (hl : l.map w = l'.map w) {p : α → Bool} (hp : ∀ a, p (w a) = p a) :
    (l.find? p).map w = (l'.find? p).map w := by
  have hmap : ∀ k : List α, (k.find? p).map w = (k.map w).find? p := by
    intro k
    rw [List.find?_map]
    have hcomp : p ∘ w = p := funext hp
    rw [hcomp]
  rw [hmap, hl, hmap]

theorem minByKey_congr_map {κ : Type} [LinearOrder κ] (hl : l.map w = l'.map w) {key : α → κ}
    (hkey : ∀ a, key (w a) = key a) : (minByKey key l).map w = (minByKey key l').map w := by
  have hmap : ∀ k : List α, (minByKey key k).map w = minByKey key (k.map w) := by
    intro k
    rw [minByKey_map]
    have hcomp : key ∘ w = key := funext hkey
    rw [hcomp]
  rw [hmap, hl, hmap]

end Congruence

/-! ## Indexed rows -/

section Indexed

variable {m m' : SkuMap} {γ : Type}

theorem toList_eq_of_getElem? {t t' : Std.TreeMap ℕ γ} (h : ∀ id : ℕ, t[id]? = t'[id]?) :
    t.toList = t'.toList := by
  have hnodup : ∀ s : Std.TreeMap ℕ γ, s.toList.Nodup := by
    intro s
    have hkeys : s.keys.Nodup := Std.TreeMap.nodup_keys
    rw [← Std.TreeMap.map_fst_toList_eq_keys] at hkeys
    exact hkeys.of_map
  have hperm : t.toList.Perm t'.toList := by
    refine (List.perm_ext_iff_of_nodup (hnodup t) (hnodup t')).mpr fun p => ?_
    obtain ⟨id, value⟩ := p
    rw [Std.TreeMap.mem_toList_iff_getElem?_eq_some, Std.TreeMap.mem_toList_iff_getElem?_eq_some, h]
  exact (Std.TreeMap.Equiv.of_toList_perm hperm).toList_eq

variable {f : WbAutomationSkuObservation → γ}

theorem map_valuesOf_eq (h : ∀ id : ℕ, m[id]?.map f = m'[id]?.map f) :
    (valuesOf m).map f = (valuesOf m').map f := by
  have hmap : ∀ t : SkuMap, (valuesOf t).map f = (t.map fun _ sku => f sku).toList.map Prod.snd := by
    intro t
    simp [valuesOf]
  rw [hmap, hmap, toList_eq_of_getElem?]
  intro id
  rw [Std.TreeMap.getElem?_map, Std.TreeMap.getElem?_map, h]

theorem map_policySkus_eq (policy : WbAutomationPolicy) (h : ∀ id : ℕ, m[id]?.map f = m'[id]?.map f) :
    (policySkus policy m).map f = (policySkus policy m').map f := by
  unfold policySkus
  rw [List.map_filterMap, List.map_filterMap]
  exact List.filterMap_congr fun id _ => h id

end Indexed

/-! ## Rules that read no counters -/

/-- A row without its performance counters. -/
def withoutCounters (sku : WbAutomationSkuObservation) : WbAutomationSkuObservation :=
  { sku with impressions := 0, clicks := 0, spendMinor := 0, attributedOrders := 0, attributedRevenueMinor := 0 }

section Rules

variable {policy : WbAutomationPolicy} {a b : WbAutomationObservation} {m m' : SkuMap}

theorem recoverMinimum_congr {l l' : List WbAutomationSkuObservation}
    (hl : l.map withoutCounters = l'.map withoutCounters) :
    recoverMinimum policy l = recoverMinimum policy l' := by
  unfold recoverMinimum
  set key := fun sku : WbAutomationSkuObservation => toLex (sku.currentBidKopecks, sku.nmId)
  set below := fun sku : WbAutomationSkuObservation => decide (policy.minSellableStock < sku.sellableStock ∧
    sku.currentBidKopecks < effectiveMinimumBid policy sku)
  have hkey : ∀ sku, key (withoutCounters sku) = key sku := fun _ => rfl
  have hbelow : ∀ sku, below (withoutCounters sku) = below sku := fun _ => rfl
  have hmin := minByKey_congr_map (filter_map_congr hl hbelow) hkey
  set change := fun sku : WbAutomationSkuObservation => changeBids [⟨sku.nmId, sku.currentBidKopecks,
    effectiveMinimumBid policy sku, .policyMinimumNotMet⟩]
  -- the emitted change reads the chosen row up to its counters
  have hchange : change = change ∘ withoutCounters := rfl
  rw [hchange, ← Option.map_map, ← Option.map_map, hmin]

theorem nmId_eq_of_withoutCounters {s t : WbAutomationSkuObservation}
    (h : withoutCounters s = withoutCounters t) :
    s.nmId = t.nmId ∧ s.currentBidKopecks = t.currentBidKopecks := by
  simp only [withoutCounters, WbAutomationSkuObservation.mk.injEq] at h
  exact ⟨h.1, h.2.2.1⟩

theorem campaignLevelAction_congr (hpresent : a.campaignLevelMetrics.isSome = b.campaignLevelMetrics.isSome)
    (hlisted : (policySkus policy m).map withoutCounters = (policySkus policy m').map withoutCounters)
    (hvalues : (valuesOf m).map withoutCounters = (valuesOf m').map withoutCounters) :
    campaignLevelAction policy a m = campaignLevelAction policy b m' := by
  have hnone : a.campaignLevelMetrics.isNone = b.campaignLevelMetrics.isNone := by
    rw [← Option.not_isSome, ← Option.not_isSome, hpresent]
  have hfind := find?_congr_map hlisted (p := fun sku =>
    decide (sku.sellableStock ≤ policy.minSellableStock) &&
      decide (effectiveMinimumBid policy sku < sku.currentBidKopecks)) fun _ => rfl
  have hstops := filterMap_congr_map hlisted (f := fun sku : WbAutomationSkuObservation =>
    if decide (sku.sellableStock ≤ policy.minSellableStock) = true ∧
      sku.currentBidKopecks ≤ effectiveMinimumBid policy sku
    then some (⟨sku.nmId, .lowStock⟩ : WbAutomationSkuStop) else none) fun _ => rfl
  unfold campaignLevelAction
  rw [hnone]
  dsimp only
  rw [hstops, recoverMinimum_congr hvalues]
  generalize (policySkus policy m).find? _ = chosen at hfind ⊢
  generalize (policySkus policy m').find? _ = chosen' at hfind ⊢
  cases chosen with
  | none =>
    cases chosen' with
    | none => rfl
    | some t => cases hfind
  | some s =>
    cases chosen' with
    | none => cases hfind
    | some t =>
      rw [Option.map_some, Option.map_some, Option.some.injEq] at hfind
      dsimp only
      rw [(nmId_eq_of_withoutCounters hfind).1]

/-- **Behind the gates.** Without attribution per SKU the rules read no counters. -/
theorem skuAction_congr (ha : a.attributionComplete = false) (hb : b.attributionComplete = false)
    (hpresent : a.campaignLevelMetrics.isSome = b.campaignLevelMetrics.isSome)
    (h : ∀ id : ℕ, m[id]?.map withoutCounters = m'[id]?.map withoutCounters) :
    skuAction policy a m = skuAction policy b m' := by
  have hlisted := map_policySkus_eq policy h
  have hfind := find?_congr_map hlisted
    (p := fun sku => decide (policy.maxBidKopecks < sku.currentBidKopecks)) fun _ => rfl
  unfold skuAction
  rw [if_pos ha, if_pos hb, campaignLevelAction_congr hpresent hlisted (map_valuesOf_eq h)]
  generalize (policySkus policy m).find? _ = chosen at hfind ⊢
  generalize (policySkus policy m').find? _ = chosen' at hfind ⊢
  cases chosen with
  | none =>
    cases chosen' with
    | none => rfl
    | some t => cases hfind
  | some s =>
    cases chosen' with
    | none => cases hfind
    | some t =>
      rw [Option.map_some, Option.map_some, Option.some.injEq] at hfind
      obtain ⟨hid, hbid⟩ := nmId_eq_of_withoutCounters hfind
      dsimp only
      rw [hid, hbid]

end Rules

/-! ## Two observations -/

/-- Everything of an observation but its rows and its metrics. -/
def WbAutomationObservation.frame (observation : WbAutomationObservation) : WbAutomationObservation :=
  { observation with campaignLevelMetrics := none, currentCampaignMetrics := none, skus := [] }

/-- The same observation up to counters, values of campaign metrics and the order of rows. -/
structure SameOutsideMetrics (a b : WbAutomationObservation) : Prop where
  frame : a.frame = b.frame
  campaignLevel : a.campaignLevelMetrics.isSome = b.campaignLevelMetrics.isSome
  current : a.currentCampaignMetrics.isSome = b.currentCampaignMetrics.isSome
  skus : (a.skus.map withoutCounters).Perm (b.skus.map withoutCounters)

section Observations

variable {policy : WbAutomationPolicy} {a b : WbAutomationObservation} {m m' : SkuMap}

theorem campaignGate_congr (h : a.frame = b.frame) : campaignGate policy a = campaignGate policy b := by
  have hframe : ∀ o : WbAutomationObservation, campaignGate policy o = campaignGate policy o.frame :=
    fun _ => rfl
  rw [hframe a, h, ← hframe b]

theorem getElem?_map_eq {γ : Type} {f : WbAutomationSkuObservation → γ}
    (hf : ∀ s t, f s = f t → s.nmId = t.nmId) (ho : ObservedBy policy a m) (ho' : ObservedBy policy b m')
    (hperm : (a.skus.map f).Perm (b.skus.map f)) (id : ℕ) : m[id]?.map f = m'[id]?.map f := by
  have transfer : ∀ {a b : WbAutomationObservation} {m m' : SkuMap}, ObservedBy policy a m →
      ObservedBy policy b m' → (a.skus.map f).Perm (b.skus.map f) → ∀ s, m[id]? = some s →
      ∃ t, m'[id]? = some t ∧ f t = f s := by
    intro a b m m' ho ho' hperm s hs
    obtain ⟨hmem, rfl⟩ := (ho.get_iff id s).mp hs
    obtain ⟨t, ht, heq⟩ := List.mem_map.mp (hperm.mem_iff.mp (List.mem_map_of_mem hmem))
    exact ⟨t, (ho'.get_iff _ t).mpr ⟨ht, hf t s heq⟩, heq⟩
  cases hs : m[id]? with
  | some s =>
    obtain ⟨t, ht, heq⟩ := transfer ho ho' hperm s hs
    rw [ht, Option.map_some, Option.map_some, heq]
  | none =>
    cases ht : m'[id]? with
    | none => rfl
    | some t =>
      obtain ⟨s, hs', _⟩ := transfer ho' ho hperm.symm t ht
      rw [hs] at hs'
      cases hs'

/-! ## Permuted rows -/

/-- A row that the index accepts. -/
def acceptedRow (policy : WbAutomationPolicy) (sku : WbAutomationSkuObservation) : Prop :=
  sku.nmId ≠ 0 ∧ (1 ≤ sku.minimumBidKopecks ∧ sku.minimumBidKopecks ≤ policy.maxBidKopecks) ∧
    sku.currentBidKopecks ≠ 0 ∧ sku.clicks ≤ sku.impressions

instance (policy : WbAutomationPolicy) (sku : WbAutomationSkuObservation) :
    Decidable (acceptedRow policy sku) :=
  inferInstanceAs (Decidable (_ ∧ _ ∧ _ ∧ _))

theorem insertSkus_cons {sku : WbAutomationSkuObservation} {rest : List WbAutomationSkuObservation} :
    insertSkus policy (sku :: rest) m =
      if m.contains sku.nmId = false ∧ acceptedRow policy sku then
        insertSkus policy rest (m.insert sku.nmId sku)
      else .error .invalidObservation := by
  rw [insertSkus]
  by_cases hbad : sku.nmId = 0 ∨
      decide (1 ≤ sku.minimumBidKopecks ∧ sku.minimumBidKopecks ≤ policy.maxBidKopecks) = false ∨
      sku.currentBidKopecks = 0 ∨ sku.impressions < sku.clicks ∨ m.contains sku.nmId = true
  · rw [if_pos hbad, if_neg]
    rintro ⟨hfresh, hid, hvendor, hbid, hclicks⟩
    rcases hbad with h | h | h | h | h
    · exact hid h
    · exact of_decide_eq_false h hvendor
    · exact hbid h
    · omega
    · rw [hfresh] at h
      cases h
  · rw [if_neg hbad, if_pos]
    simp only [not_or, Bool.not_eq_false, decide_eq_true_eq, not_lt, Bool.not_eq_true] at hbad
    exact ⟨hbad.2.2.2.2, hbad.1, hbad.2.1, hbad.2.2.1, hbad.2.2.2.1⟩

theorem insertSkus_ok_iff {l : List WbAutomationSkuObservation} :
    (∃ t, insertSkus policy l m = .ok t) ↔ (∀ sku ∈ l, acceptedRow policy sku) ∧
      (l.map (·.nmId)).Nodup ∧ ∀ sku ∈ l, m.contains sku.nmId = false := by
  induction l generalizing m with
  | nil => simp [insertSkus]
  | cons sku rest ih =>
    rw [insertSkus_cons]
    by_cases hsku : m.contains sku.nmId = false ∧ acceptedRow policy sku
    · rw [if_pos hsku, ih]
      simp only [List.map_cons, List.nodup_cons, List.forall_mem_cons]
      constructor
      · rintro ⟨hrows, hnodup, hfresh⟩
        refine ⟨⟨hsku.2, hrows⟩, ⟨fun hmem => ?_, hnodup⟩, hsku.1, fun s hs => ?_⟩
        · obtain ⟨s, hs, hid⟩ := List.mem_map.mp hmem
          have := hfresh s hs
          simp [hid] at this
        · have := hfresh s hs
          rw [Std.TreeMap.contains_insert, Bool.or_eq_false_iff] at this
          exact this.2
      · rintro ⟨⟨_, hrows⟩, ⟨hnew, hnodup⟩, _, hfresh⟩
        refine ⟨hrows, hnodup, fun s hs => ?_⟩
        rw [Std.TreeMap.contains_insert, Bool.or_eq_false_iff, beq_eq_false_iff_ne]
        refine ⟨fun heq => hnew (List.mem_map.mpr ⟨s, hs, ?_⟩), hfresh s hs⟩
        exact (Std.LawfulEqCmp.eq_of_compare heq).symm
    · rw [if_neg hsku]
      constructor
      · rintro ⟨t, ht⟩
        cases ht
      · rintro ⟨hrows, _, hfresh⟩
        exact absurd ⟨hfresh sku List.mem_cons_self, hrows sku List.mem_cons_self⟩ hsku

theorem insertSkus_error {l : List WbAutomationSkuObservation} {e : WbAutomationDecisionError}
    (h : insertSkus policy l m = .error e) : e = .invalidObservation := by
  induction l generalizing m with
  | nil => cases h
  | cons sku rest ih =>
    rw [insertSkus_cons] at h
    split_ifs at h
    · exact ih h
    · cases h
      rfl

theorem keys_insertSkus {l : List WbAutomationSkuObservation} (h : insertSkus policy l ∅ = .ok m) :
    m.keys.toFinset = (l.map (·.nmId)).toFinset := by
  have hget := (insertSkus_spec h).1
  ext id
  rw [List.mem_toFinset, List.mem_toFinset, Std.TreeMap.mem_keys, ← Std.TreeMap.isSome_getElem?_iff_mem,
    Option.isSome_iff_exists, List.mem_map]
  simp only [hget, Std.TreeMap.getElem?_emptyc, reduceCtorEq, false_or]

/-- Permuted rows are accepted or rejected together. -/
theorem validateObservation_perm {skus : List WbAutomationSkuObservation} (hperm : a.skus.Perm skus) :
    (∃ m m', validateObservation policy a = .ok m ∧
      validateObservation policy { a with skus := skus } = .ok m') ∨
    validateObservation policy a = .error .invalidObservation ∧
      validateObservation policy { a with skus := skus } = .error .invalidObservation := by
  unfold validateObservation
  dsimp only
  split_ifs with hguard
  · exact .inr ⟨rfl, rfl⟩
  have hok : (∃ t, insertSkus policy a.skus ∅ = .ok t) ↔ ∃ t, insertSkus policy skus ∅ = .ok t := by
    rw [insertSkus_ok_iff, insertSkus_ok_iff, (hperm.map _).nodup_iff]
    simp only [hperm.mem_iff]
  cases ha : insertSkus policy a.skus ∅ with
  | error e =>
    right
    cases hb : insertSkus policy skus ∅ with
    | error e' => exact ⟨by rw [insertSkus_error ha], by rw [insertSkus_error hb]⟩
    | ok t =>
      obtain ⟨t', ht'⟩ := hok.mpr ⟨t, hb⟩
      rw [ha] at ht'
      cases ht'
  | ok t =>
    obtain ⟨t', hb⟩ := hok.mp ⟨t, ha⟩
    have hkeys : t.keys.toFinset = t'.keys.toFinset := by
      rw [keys_insertSkus ha, keys_insertSkus hb]
      exact List.toFinset_eq_of_perm _ _ (hperm.map _)
    rw [hb]
    dsimp only
    rw [hkeys]
    split_ifs
    · exact .inr ⟨rfl, rfl⟩
    · exact .inl ⟨t, t', rfl, rfl⟩

theorem evaluate_eq_of_gatedAction (hobserved : a.observedAt = b.observedAt)
    (ha : validateObservation policy a = .ok m) (hb : validateObservation policy b = .ok m')
    (h : gatedAction policy a m = gatedAction policy b m') :
    evaluateWbAutomation policy a = evaluateWbAutomation policy b := by
  unfold evaluateWbAutomation
  rw [ha, hb]
  simp only [bind, Except.bind, pure, Except.pure, h, hobserved]

/-- **Campaign totals and the order of rows decide about no SKU.** -/
theorem decision_independent (policy : WbAutomationPolicy) :
    (∀ a b : WbAutomationObservation, a.attributionComplete = false → SameOutsideMetrics a b →
      (∃ m, validateObservation policy a = .ok m) → (∃ m, validateObservation policy b = .ok m) →
      evaluateWbAutomation policy a = evaluateWbAutomation policy b) ∧
    ∀ (a : WbAutomationObservation) (skus : List WbAutomationSkuObservation),
      a.attributionComplete = true → a.skus.Perm skus →
      evaluateWbAutomation policy a = evaluateWbAutomation policy { a with skus := skus } := by
  refine ⟨?_, fun a skus hcomplete hperm => ?_⟩
  · rintro a b hincomplete hsame ⟨m, ha⟩ ⟨m', hb⟩
    have hobserved : a.frame.observedAt = b.frame.observedAt := by rw [hsame.frame]
    have hcomplete : b.frame.attributionComplete = a.frame.attributionComplete := by rw [hsame.frame]
    have hincomplete' : b.attributionComplete = false := hcomplete.trans hincomplete
    refine evaluate_eq_of_gatedAction hobserved ha hb ?_
    have hrows : ∀ id : ℕ, m[id]?.map withoutCounters = m'[id]?.map withoutCounters :=
      getElem?_map_eq (fun s t hst => (nmId_eq_of_withoutCounters hst).1)
        (observedBy_of_validateObservation ha) (observedBy_of_validateObservation hb) hsame.skus
    unfold gatedAction
    rw [campaignGate_congr hsame.frame, skuAction_congr hincomplete hincomplete' hsame.campaignLevel hrows]
  · obtain ⟨m, m', ha, hb⟩ | ⟨ha, hb⟩ := @validateObservation_perm policy _ _ hperm
    · refine evaluate_eq_of_gatedAction rfl ha hb ?_
      have hrows : ∀ id : ℕ, m[id]?.map (fun sku => sku) = m'[id]?.map fun sku => sku :=
        getElem?_map_eq (fun s t hst => congrArg _ hst) (observedBy_of_validateObservation ha)
          (observedBy_of_validateObservation hb) (hperm.map _)
      have hlisted : policySkus policy m = policySkus policy m' := by
        simpa using map_policySkus_eq policy hrows
      have hvalues : valuesOf m = valuesOf m' := by simpa using map_valuesOf_eq hrows
      have hgate : campaignGate policy a = campaignGate policy { a with skus := skus } :=
        campaignGate_congr rfl
      unfold gatedAction skuAction attributedAction
      dsimp only
      rw [← hgate, hlisted, hvalues]
      simp only [hcomplete, Bool.true_eq_false, if_false]
    · unfold evaluateWbAutomation
      rw [ha, hb]
      cases validatePolicy policy <;> rfl

end Observations

/-- A stocked and an exhausted row, with counters of their own. -/
def pairObservation (clicks : ℕ) (skus : List WbAutomationSkuObservation) : WbAutomationObservation where
  observedAt := seconds 43200
  campaignStatus := 9
  pausedByAutomation := false
  budgetRemainingMinor := 100000
  dailySpendMinor := 5000
  dailySpendComplete := true
  actionsToday := 0
  lastActionAt := none
  attributionComplete := false
  campaignLevelMetrics := some ⟨1000, clicks, 5000, 0, 0⟩
  currentCampaignMetrics := none
  skus := skus

/-- Other counters and another order of rows lower the bid of the exhausted SKU all the same. -/
theorem decision_independent_pair :
    evaluateWbAutomation robotPolicy (pairObservation 20
      [⟨449627598, 102, 200, 10, 0, 0, 0, 0, 0⟩, ⟨449627015, 102, 200, 0, 0, 0, 0, 0, 0⟩]) =
    evaluateWbAutomation robotPolicy (pairObservation 999
      [⟨449627015, 102, 200, 0, 70, 60, 5000, 0, 0⟩, ⟨449627598, 102, 200, 10, 500, 9, 10, 2, 1⟩]) := by
  refine (decision_independent robotPolicy).1 _ _ rfl ⟨rfl, rfl, rfl, ?_⟩ ⟨_, rfl⟩ ⟨_, rfl⟩
  exact List.Perm.swap _ _ _

end AdsControl.Wb
