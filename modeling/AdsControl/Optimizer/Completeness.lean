import AdsControl.Optimizer.Pages

/-!
# Preparation is complete

* `publishedRows`: the advertising rows of all snapshots;
* `AdvertisingOk`, `Represents`: the invariants of the two loops over snapshots and facts;
* `DailyTotals`: the totals of a product are the sums of exactly its published rows;
* `Covered`: what complete coverage means;
* **`prepare_complete`**: covered pages, independence of the page order, exact totals and honest
  coverage for every bundle that prepares.
-/

namespace AdsControl.Optimizer

open Fallible Machine Std OrderedMap

variable {Value : Type} {codec : Codec Value} {bundle : PreparationBundle Value}

/-! ## Dates -/

/-- The snapshot covers a business date. -/
def Covers (snapshot : CompleteSnapshot Value) (date : ℤ) : Prop :=
  ∃ period, snapshot.periodDates = .ok period ∧ period.1 ≤ date ∧ date ≤ period.2

theorem insertDates_ok {observed : ℤ} {count : ℕ} {date : ℤ} {dates dates' : BTreeMap ℤ ℤ}
    (h : insertDates observed count date dates = .ok dates') :
    (∀ x : ℤ, dates'[x]? = if date ≤ x ∧ x < date + count then some observed else dates[x]?) ∧
      ∀ x : ℤ, date ≤ x → x < date + count → dates[x]? = none := by
  induction count generalizing date dates with
  | zero =>
    rw [insertDates, Except.ok.injEq] at h
    subst h
    refine ⟨fun x => ?_, fun x hx hx' => ?_⟩
    · rw [if_neg (by omega)]
    · omega
  | succ count ih =>
    simp only [insertDates, ok_of_bind, ensure_eq_ok, exists_const] at h
    obtain ⟨hnew, h⟩ := h
    obtain ⟨hget, hnone⟩ := ih h
    refine ⟨fun x => ?_, fun x hx hx' => ?_⟩
    · rw [hget x, getElem?_put]
      push_cast
      split_ifs <;> first | rfl | omega
    · by_cases hdate : date = x
      · rw [← hdate, hnew]
      · have := hnone x (by omega) (by push_cast at hx'; omega)
        rwa [getElem?_put, if_neg hdate] at this

theorem periodDates_le {snapshot : CompleteSnapshot Value} {period : ℤ × ℤ}
    (h : snapshot.periodDates = .ok period) : period.1 ≤ period.2 := by
  simp only [CompleteSnapshot.periodDates, ok_of_bind, ensure_eq_ok, ok_of_pure, exists_const] at h
  obtain ⟨⟨hlt, -⟩, rfl⟩ := h
  exact dateIn_mono _ (by omega)

theorem addSnapshotDates_ok {snapshot : CompleteSnapshot Value} {dates dates' : BTreeMap ℤ ℤ}
    (h : addSnapshotDates bundle snapshot dates = .ok dates') :
    (∀ x, Covers snapshot x → bundle.windowStart ≤ x ∧ x ≤ bundle.windowEnd) ∧
      (∀ x : ℤ, dates'[x]?.isSome = true ↔ Covers snapshot x ∨ dates[x]?.isSome = true) ∧
      ∀ x : ℤ, Covers snapshot x → dates[x]? = none := by
  simp only [addSnapshotDates, ok_of_bind, ensure_eq_ok, exists_const] at h
  obtain ⟨period, hperiod, ⟨hstart, hend⟩, h⟩ := h
  have hle := periodDates_le hperiod
  have hcovers : ∀ x, Covers snapshot x ↔
      period.1 ≤ x ∧ x < period.1 + ((period.2 - period.1).toNat + 1 : ℕ) := by
    intro x
    constructor
    · rintro ⟨period', hperiod', hx⟩
      rw [hperiod, Except.ok.injEq] at hperiod'
      subst hperiod'
      omega
    · intro hx
      exact ⟨period, hperiod, by omega, by omega⟩
  obtain ⟨hget, hnone⟩ := insertDates_ok h
  refine ⟨fun x hx => ?_, fun x => ?_, fun x hx => ?_⟩
  · have := (hcovers x).mp hx
    omega
  · rw [hget x, hcovers x]
    split_ifs with hx
    · exact iff_of_true rfl (.inl hx)
    · exact (or_iff_right hx).symm
  · have := (hcovers x).mp hx
    exact hnone x this.1 this.2

/-! ## Rows -/

/-- The advertising rows of a snapshot. -/
def rowsOf (codec : Codec Value) (snapshot : CompleteSnapshot Value) : List AdvertisingRow :=
  snapshot.rows.filterMap codec.advertisingRow

/-- The advertising rows of all snapshots. -/
def publishedRows (codec : Codec Value) (snapshots : List (CompleteSnapshot Value)) :
    List AdvertisingRow :=
  snapshots.flatMap (rowsOf codec)

/-- The facts of one SKU. -/
def factsOf (rows : List AdvertisingRow) (sku : ℕ) : List PublishedAdvertisingFact :=
  (rows.filter fun row => row.sku = sku).map AdvertisingRow.intoFact

theorem factsOf_append (rows rows' : List AdvertisingRow) (sku : ℕ) :
    factsOf (rows ++ rows') sku = factsOf rows sku ++ factsOf rows' sku := by
  rw [factsOf, List.filter_append, List.map_append]
  rfl

theorem factsOf_cons (row : AdvertisingRow) (rows : List AdvertisingRow) (sku : ℕ) :
    factsOf (row :: rows) sku =
      if row.sku = sku then row.intoFact :: factsOf rows sku else factsOf rows sku := by
  unfold factsOf
  split_ifs with h <;> simp [h]

/-- Every document of the list is a row of the snapshot, dated inside the period. -/
def RowsIn (codec : Codec Value) (snapshot : CompleteSnapshot Value) (values : List Value) : Prop :=
  ∀ value ∈ values, ∃ row, codec.advertisingRow value = some row ∧
    row.provenance.snapshotId = snapshot.snapshotId ∧ Covers snapshot row.businessDate

theorem addAdvertisingRows_ok {selected : List ℕ} {snapshot : CompleteSnapshot Value}
    {period : ℤ × ℤ} (hperiod : snapshot.periodDates = .ok period) {values : List Value}
    {keys : List (ℤ × ℕ × ℕ)} {facts facts' : AdFacts}
    (h : addAdvertisingRows codec selected snapshot period values keys facts = .ok facts') :
    RowsIn codec snapshot values ∧ ∀ sku ∈ selected, facts'[sku]?.getD [] =
      facts[sku]?.getD [] ++ factsOf (values.filterMap codec.advertisingRow) sku := by
  induction values generalizing keys facts with
  | nil =>
    rw [addAdvertisingRows, Except.ok.injEq] at h
    subst h
    refine ⟨by simp [RowsIn], fun sku _ => ?_⟩
    rw [List.filterMap_nil]
    exact (List.append_nil _).symm
  | cons value values ih =>
    simp only [addAdvertisingRows, addAdvertisingRow, CompleteSnapshot.validateFact, ok_of_bind,
      ensure_eq_ok, context_eq_ok, ok_of_pure, exists_const] at h
    obtain ⟨row, hrow, added, ⟨⟨hid, -⟩, ⟨-, -, -, -, hstart, hend, -⟩, -, hadded⟩, h⟩ := h
    obtain ⟨hin, hfacts⟩ := ih h
    refine ⟨fun value' hmem => ?_, fun sku hsku => ?_⟩
    · rcases List.mem_cons.mp hmem with rfl | hmem
      · exact ⟨row, hrow, hid, period, hperiod, hstart, hend⟩
      · exact hin value' hmem
    · rw [hfacts sku hsku, List.filterMap_cons_some hrow, factsOf_cons, ← hadded]
      by_cases heq : row.sku = sku
      · subst heq
        rw [if_pos hsku, getElem?_put, if_pos rfl, if_pos rfl, Option.getD_some, List.append_assoc,
          List.singleton_append]
      · rw [if_neg heq]
        split_ifs
        · rw [getElem?_put, if_neg heq]
        · rfl

/-- What the evidence says about the snapshots processed so far. -/
structure AdvertisingOk (codec : Codec Value) (bundle : PreparationBundle Value)
    (selected : List ℕ) (snapshots : List (CompleteSnapshot Value))
    (evidence : AdvertisingEvidence) : Prop where
  window : ∀ snapshot ∈ snapshots, ∀ x, Covers snapshot x →
    bundle.windowStart ≤ x ∧ x ≤ bundle.windowEnd
  dates : ∀ x : ℤ, evidence.observedDates[x]?.isSome = true ↔
    ∃ snapshot ∈ snapshots, Covers snapshot x
  disjoint : snapshots.Pairwise fun s t => ∀ x, Covers s x → ¬ Covers t x
  rows : ∀ snapshot ∈ snapshots, RowsIn codec snapshot snapshot.rows
  facts : ∀ sku ∈ selected, evidence.adFacts[sku]?.getD [] =
    factsOf (publishedRows codec snapshots) sku

theorem advertisingEvidence_ok {selected : List ℕ}
    {advertising : BTreeMap ℤ (CompleteSnapshot Value)} {refs : BTreeMap String Unit}
    {evidence : AdvertisingEvidence}
    (h : advertisingEvidence codec bundle selected advertising refs = .ok evidence) :
    AdvertisingOk codec bundle selected (advertising.toList.map Prod.snd) evidence := by
  refine foldlM_invariant (P := AdvertisingOk codec bundle selected) ?_ ?_ h
  · refine ⟨by simp, fun x => ?_, .nil, by simp, fun sku _ => ?_⟩
    · rw [ExtTreeMap.getElem?_empty]
      simp
    · rw [ExtTreeMap.getElem?_empty]
      rfl
  · intro done before snapshot after hinv hstep
    simp only [addAdvertisingSnapshot, ok_of_bind, ok_of_pure] at hstep
    obtain ⟨dates, hdates, period, hperiod, facts, hfacts, rfl⟩ := hstep
    obtain ⟨hwindow, hget, hnone⟩ := addSnapshotDates_ok hdates
    obtain ⟨hrows, hadd⟩ := addAdvertisingRows_ok hperiod hfacts
    refine ⟨fun s hs x hx => ?_, fun x => ?_, ?_, fun s hs => ?_, fun sku hsku => ?_⟩
    · rcases List.mem_append.mp hs with hs | hs
      · exact hinv.window s hs x hx
      · rw [List.mem_singleton] at hs
        exact hwindow x (hs ▸ hx)
    · rw [hget x, hinv.dates x]
      constructor
      · rintro (hx | ⟨s, hs, hx⟩)
        · exact ⟨snapshot, by simp, hx⟩
        · exact ⟨s, List.mem_append_left _ hs, hx⟩
      · rintro ⟨s, hs, hx⟩
        rcases List.mem_append.mp hs with hs | hs
        · exact .inr ⟨s, hs, hx⟩
        · rw [List.mem_singleton] at hs
          exact .inl (hs ▸ hx)
    · refine List.pairwise_append.mpr ⟨hinv.disjoint, List.pairwise_singleton _ _, ?_⟩
      intro s hs t ht x hx hx'
      rw [List.mem_singleton] at ht
      have hsome := (hinv.dates x).mpr ⟨s, hs, hx⟩
      rw [hnone x (ht ▸ hx')] at hsome
      cases hsome
    · rcases List.mem_append.mp hs with hs | hs
      · exact hinv.rows s hs
      · rw [List.mem_singleton] at hs
        exact hs ▸ hrows
    · rw [hadd sku hsku, hinv.facts sku hsku, publishedRows, publishedRows, List.flatMap_append,
        factsOf_append, List.flatMap_singleton]
      rfl

/-! ## Totals -/

/-- The facts of one date. -/
def onDate (facts : List PublishedAdvertisingFact) (date : ℤ) : List PublishedAdvertisingFact :=
  facts.filter fun fact => fact.businessDate = date

/-- The total of the facts of one date. -/
def dayTotal (facts : List PublishedAdvertisingFact) (date : ℤ) : AdvertisingDay where
  date := date
  observedAt := none
  clicks := ((onDate facts date).map fun fact => fact.clicks).sum
  spendMinor := ((onDate facts date).map fun fact => fact.spendMinor).sum
  directOrders := ((onDate facts date).map fun fact => fact.attributedOrders).sum
  directRevenueMinor := ((onDate facts date).map fun fact => fact.attributedRevenueMinor).sum

/-- The days hold the totals of exactly the dates of the facts. -/
def Represents (facts : List PublishedAdvertisingFact) (days : BTreeMap ℤ AdvertisingDay) : Prop :=
  ∀ date : ℤ, days[date]? =
    if onDate facts date = [] then none else some (dayTotal facts date)

theorem onDate_append (facts : List PublishedAdvertisingFact) (fact : PublishedAdvertisingFact)
    (date : ℤ) : onDate (facts ++ [fact]) date =
      onDate facts date ++ if fact.businessDate = date then [fact] else [] := by
  rw [onDate, List.filter_append]
  congr 1
  split_ifs with h <;> simp [h]

theorem addFact_represents {facts : List PublishedAdvertisingFact}
    {fact : PublishedAdvertisingFact} {days days' : BTreeMap ℤ AdvertisingDay}
    (h : Represents facts days) (hadd : addFact days fact = .ok days') :
    Represents (facts ++ [fact]) days' := by
  simp only [addFact, addTotal, ok_of_bind, context_eq_ok, ok_of_pure, checkedAdd_eq_some] at hadd
  obtain ⟨clicks, ⟨rfl, -⟩, spend, ⟨rfl, -⟩, orders, ⟨rfl, -⟩, revenue, ⟨rfl, -⟩, rfl⟩ := hadd
  have hday : days[fact.businessDate]?.getD ⟨fact.businessDate, none, 0, 0, 0, 0⟩ =
      dayTotal facts fact.businessDate := by
    rw [h fact.businessDate]
    split_ifs with hnil
    · simp [dayTotal, hnil]
    · rfl
  intro date
  rw [hday, getElem?_put, onDate_append]
  by_cases hdate : fact.businessDate = date
  · subst hdate
    rw [if_pos rfl, if_pos rfl, if_neg (by simp)]
    simp [dayTotal, onDate_append]
  · rw [if_neg hdate, if_neg hdate, List.append_nil, h date]
    simp [dayTotal, onDate_append, hdate]

/-- The key under which a fact may occur once. -/
def factKey (fact : PublishedAdvertisingFact) : ℕ × ℕ × ℤ :=
  (fact.campaignId, fact.sku, fact.businessDate)

theorem aggregateLoop_ok {scope : CpcCampaignScope} {windowStart windowEnd : ℤ}
    {facts done : List PublishedAdvertisingFact} {keys : List (ℕ × ℕ × ℤ)}
    {days days' : BTreeMap ℤ AdvertisingDay} (hdays : Represents done days)
    (h : aggregateLoop scope windowStart windowEnd facts keys days = .ok days') :
    Represents (done ++ facts) days' ∧ (facts.map factKey).Nodup ∧
      (∀ fact ∈ facts, factKey fact ∉ keys) ∧
      ∀ fact ∈ facts, fact.campaignId ∈ scope.campaignIds ∧ windowStart ≤ fact.businessDate ∧
        fact.businessDate ≤ windowEnd := by
  induction facts generalizing done keys days with
  | nil =>
    rw [aggregateLoop, Except.ok.injEq] at h
    subst h
    refine ⟨by rwa [List.append_nil], by simp, by simp, by simp⟩
  | cons fact facts ih =>
    simp only [aggregateLoop, ok_of_bind, ensure_eq_ok, exists_const] at h
    obtain ⟨⟨-, -, hcampaign, hstart, hend⟩, hnew, added, hadded, h⟩ := h
    obtain ⟨hrep, hnodup, hkeys, hscope⟩ := ih (addFact_represents hdays hadded) h
    rw [List.append_assoc, List.singleton_append] at hrep
    refine ⟨hrep, ?_, fun fact' hmem => ?_, fun fact' hmem => ?_⟩
    · rw [List.map_cons, List.nodup_cons]
      refine ⟨fun hmem => ?_, hnodup⟩
      obtain ⟨fact', hmem, heq⟩ := List.mem_map.mp hmem
      exact hkeys fact' hmem (heq ▸ List.mem_cons_self)
    · rcases List.mem_cons.mp hmem with rfl | hmem
      · exact hnew
      · exact fun hin => hkeys fact' hmem (List.mem_cons_of_mem _ hin)
    · rcases List.mem_cons.mp hmem with rfl | hmem
      · exact ⟨hcampaign, hstart, hend⟩
      · exact hscope fact' hmem

theorem aggregateCpcDays_ok {scope : CpcCampaignScope} {windowStart windowEnd : ℤ}
    {facts : List PublishedAdvertisingFact} {days : List AdvertisingDay}
    (h : aggregateCpcDays facts scope windowStart windowEnd = .ok days) :
    (∀ day, day ∈ days ↔ onDate facts day.date ≠ [] ∧ day = dayTotal facts day.date) ∧
      (days.map fun day => day.date).Nodup ∧ (facts.map factKey).Nodup ∧
      ∀ fact ∈ facts, fact.campaignId ∈ scope.campaignIds ∧ windowStart ≤ fact.businessDate ∧
        fact.businessDate ≤ windowEnd := by
  simp only [aggregateCpcDays, ok_of_bind, ensure_eq_ok, ok_of_pure, exists_const] at h
  obtain ⟨-, -, totals, htotals, rfl⟩ := h
  have hempty : Represents [] ∅ := fun date => by
    rw [ExtTreeMap.getElem?_empty]
    rfl
  obtain ⟨hrep, hnodup, -, hscope⟩ := aggregateLoop_ok hempty htotals
  rw [List.nil_append] at hrep
  have hget : ∀ (date : ℤ) (day : AdvertisingDay), totals[date]? = some day ↔
      onDate facts date ≠ [] ∧ day = dayTotal facts date := by
    intro date day
    rw [hrep date]
    split_ifs with hnil
    · simp [hnil]
    · simp [hnil, eq_comm]
  refine ⟨fun day => ?_, ?_, hnodup, hscope⟩
  · constructor
    · intro hmem
      obtain ⟨⟨date, day'⟩, hentry, rfl⟩ := List.mem_map.mp hmem
      rw [ExtTreeMap.mem_toList_iff_getElem?_eq_some] at hentry
      obtain ⟨hne, rfl⟩ := (hget date day').mp hentry
      exact ⟨hne, rfl⟩
    · intro hday
      refine List.mem_map.mpr ⟨(day.date, day), ?_, rfl⟩
      exact ExtTreeMap.mem_toList_iff_getElem?_eq_some.mpr ((hget _ _).mpr hday)
  · have hkeys : (totals.toList.map Prod.snd).map (fun day => day.date) = totals.keys := by
      rw [List.map_map, ← ExtTreeMap.map_fst_toList_eq_keys]
      refine List.map_congr_left fun entry hentry => ?_
      have := ExtTreeMap.mem_toList_iff_getElem?_eq_some.mp hentry
      exact congrArg AdvertisingDay.date ((hget _ _).mp this).2
    rw [hkeys]
    exact ExtTreeMap.nodup_keys

/-! ## Products -/

/-- The published rows of a product on a date, of its confirmed campaigns. -/
def matchingRows (rows : List AdvertisingRow) (product : PreparationProduct) (date : ℤ) :
    List AdvertisingRow :=
  rows.filter fun row => row.sku = product.sku ∧ row.businessDate = date ∧
    row.campaignId ∈ product.cpcScope.campaignIds

/-- **The daily totals of a product are the sums of exactly its published rows.** -/
structure DailyTotals (rows : List AdvertisingRow) (product : PreparationProduct)
    (evidence : ProductEvidence) : Prop where
  sku : evidence.sku = product.sku
  once : (evidence.daily.map fun day => day.date).Nodup
  dates : ∀ date, date ∈ evidence.daily.map (fun day => day.date) ↔
    matchingRows rows product date ≠ []
  clicks : ∀ day ∈ evidence.daily, day.clicks =
    ((matchingRows rows product day.date).map fun row => row.clicks).sum
  spend : ∀ day ∈ evidence.daily, day.spendMinor =
    ((matchingRows rows product day.date).map fun row => row.spendMinor).sum
  orders : ∀ day ∈ evidence.daily, day.directOrders =
    ((matchingRows rows product day.date).map fun row => row.attributedOrders).sum
  revenue : ∀ day ∈ evidence.daily, day.directRevenueMinor =
    ((matchingRows rows product day.date).map fun row => row.attributedRevenueMinor).sum

/-- A published row for every campaign of the product and every date of the window. -/
def EveryPair (bundle : PreparationBundle Value) (rows : List AdvertisingRow)
    (product : PreparationProduct) : Prop :=
  ∀ campaign ∈ product.cpcScope.campaignIds, ∀ date, bundle.windowStart ≤ date →
    date ≤ bundle.windowEnd → ∃ row ∈ rows, row.sku = product.sku ∧ row.campaignId = campaign ∧
      row.businessDate = date

/-- The facts of a product on a date are its matching rows when no row is foreign. -/
theorem onDate_factsOf {rows : List AdvertisingRow} {product : PreparationProduct}
    (hscope : ∀ fact ∈ factsOf rows product.sku, fact.campaignId ∈ product.cpcScope.campaignIds)
    (date : ℤ) : onDate (factsOf rows product.sku) date =
      (matchingRows rows product date).map AdvertisingRow.intoFact := by
  rw [onDate, factsOf, List.filter_map, List.filter_filter, matchingRows]
  refine congrArg _ (List.filter_congr fun row hrow => ?_)
  have hcampaign : row.sku = product.sku → row.campaignId ∈ product.cpcScope.campaignIds :=
    fun hsku => hscope row.intoFact
      (List.mem_map.mpr ⟨row, List.mem_filter.mpr ⟨hrow, decide_eq_true hsku⟩, rfl⟩)
  show (decide (row.businessDate = date) && decide (row.sku = product.sku)) = _
  rw [← Bool.decide_and]
  refine decide_eq_decide.mpr ⟨fun h => ?_, fun h => ?_⟩
  · exact ⟨h.2, h.1, hcampaign h.2⟩
  · exact ⟨h.2.1, h.1⟩

/-- Counting decides coverage: the keys of the facts are distinct pairs of a campaign and a date. -/
theorem length_eq_pairs_iff {rows : List AdvertisingRow} {product : PreparationProduct}
    {bundle : PreparationBundle Value} (hids : product.cpcScope.campaignIds.Nodup)
    (hkeys : ((factsOf rows product.sku).map factKey).Nodup)
    (hscope : ∀ fact ∈ factsOf rows product.sku,
      fact.campaignId ∈ product.cpcScope.campaignIds ∧ bundle.windowStart ≤ fact.businessDate ∧
        fact.businessDate ≤ bundle.windowEnd) :
    (factsOf rows product.sku).length = product.cpcScope.campaignIds.length *
        (bundle.windowEnd - bundle.windowStart + 1).toNat ↔ EveryPair bundle rows product := by
  have hsku : ∀ fact ∈ factsOf rows product.sku, fact.sku = product.sku := by
    intro fact hfact
    obtain ⟨row, hrow, rfl⟩ := List.mem_map.mp hfact
    exact of_decide_eq_true (List.mem_filter.mp hrow).2
  have hpairs : ((factsOf rows product.sku).map
      fun fact => (fact.campaignId, fact.businessDate)).Nodup := by
    refine List.Nodup.of_map (fun pair : ℕ × ℤ => (pair.1, product.sku, pair.2)) ?_
    rw [List.map_map]
    refine (List.map_congr_left fun fact hfact => ?_) ▸ hkeys
    rw [factKey, hsku fact hfact]
    rfl
  have hcard : (product.cpcScope.campaignIds.toFinset ×ˢ
      Finset.Icc bundle.windowStart bundle.windowEnd).card = product.cpcScope.campaignIds.length *
        (bundle.windowEnd - bundle.windowStart + 1).toNat := by
    rw [Finset.card_product, List.toFinset_card_of_nodup hids, Int.card_Icc]
    congr 2
    omega
  have hsub : ∀ pair ∈ (factsOf rows product.sku).map
      (fun fact => (fact.campaignId, fact.businessDate)),
      pair ∈ product.cpcScope.campaignIds.toFinset ×ˢ
        Finset.Icc bundle.windowStart bundle.windowEnd := by
    intro pair hpair
    obtain ⟨fact, hfact, rfl⟩ := List.mem_map.mp hpair
    obtain ⟨hcampaign, hdate⟩ := hscope fact hfact
    exact Finset.mem_product.mpr ⟨List.mem_toFinset.mpr hcampaign, Finset.mem_Icc.mpr hdate⟩
  have hcount := length_eq_card_iff hpairs hsub
  rw [List.length_map, hcard] at hcount
  rw [hcount]
  constructor
  · intro hall campaign hcampaign date hstart hend
    have hpair := hall (campaign, date) (Finset.mem_product.mpr
      ⟨List.mem_toFinset.mpr hcampaign, Finset.mem_Icc.mpr ⟨hstart, hend⟩⟩)
    obtain ⟨fact, hfact, heq⟩ := List.mem_map.mp hpair
    obtain ⟨row, hrow, rfl⟩ := List.mem_map.mp hfact
    obtain ⟨hmem, hrowsku⟩ := List.mem_filter.mp hrow
    obtain ⟨hid, hdate⟩ := Prod.mk.inj heq
    exact ⟨row, hmem, of_decide_eq_true hrowsku, hid, hdate⟩
  · rintro hall ⟨campaign, date⟩ hpair
    obtain ⟨hcampaign, hdate⟩ := Finset.mem_product.mp hpair
    obtain ⟨hstart, hend⟩ := Finset.mem_Icc.mp hdate
    obtain ⟨row, hmem, hrowsku, hid, hrowdate⟩ :=
      hall campaign (List.mem_toFinset.mp hcampaign) date hstart hend
    refine List.mem_map.mpr ⟨row.intoFact, List.mem_map.mpr ⟨row, ?_, rfl⟩, ?_⟩
    · exact List.mem_filter.mpr ⟨hmem, decide_eq_true hrowsku⟩
    · exact Prod.ext hid hrowdate

/-- Observing the days changes nothing but the time of their observation. -/
theorem observeDays_clear {observedDates : BTreeMap ℤ ℤ} {totals daily : List AdvertisingDay}
    (htotals : ∀ day ∈ totals, day.observedAt = none)
    (h : totals.mapM (observeDay observedDates) = .ok daily) :
    daily.map (fun day => { day with observedAt := none }) = totals := by
  have hnone : totals.map (fun day => { day with observedAt := none }) = totals := by
    conv_rhs => rw [← List.map_id totals]
    refine List.map_congr_left fun day hday => ?_
    rw [← htotals day hday]
    rfl
  rw [← hnone]
  refine map_of_mapM (fun a b hab => ?_) h
  simp only [observeDay, ok_of_bind, context_eq_ok, ok_of_pure] at hab
  obtain ⟨observed, -, rfl⟩ := hab
  rfl

theorem prepareProduct_ok {observedDates : BTreeMap ℤ ℤ} {stockBySku : BTreeMap ℕ StockEvidence}
    {prepared prepared' : PreparedProducts} {product : PreparationProduct}
    {rows : List AdvertisingRow}
    (hfacts : prepared.adFacts[product.sku]?.getD [] = factsOf rows product.sku)
    (h : prepareProduct bundle (bundle.windowEnd - bundle.windowStart + 1) observedDates stockBySku
      prepared product = .ok prepared') :
    prepared'.adFacts = prepared.adFacts.erase product.sku ∧
      (∃ evidence, DailyTotals rows product evidence ∧
        prepared'.products = prepared.products ++ [evidence]) ∧
      (prepared'.coverageComplete = true ↔ prepared.coverageComplete = true ∧
        product.cpcScope.allCampaignsConfirmed = true ∧ EveryPair bundle rows product) := by
  simp only [prepareProduct, confirmedScope, CpcCampaignScope.new, ok_of_bind, ensure_eq_ok,
    context_eq_ok, ok_of_mapError, ok_of_pure, exists_const, checkedMul_eq_some, hfacts] at h
  obtain ⟨scope, ⟨⟨hids, -⟩, -, rfl⟩, totals, htotals, pairs, ⟨rfl, -⟩, daily, hdaily, rfl⟩ := h
  obtain ⟨hmem, hnodup, hkeys, hscope⟩ := aggregateCpcDays_ok htotals
  have honDate := onDate_factsOf fun fact hfact => (hscope fact hfact).1
  have hclear := observeDays_clear
    (fun day hday => congrArg AdvertisingDay.observedAt ((hmem day).mp hday).2) hdaily
  have hdates : daily.map (fun day => day.date) = totals.map fun day => day.date := by
    rw [← hclear, List.map_map]
    rfl
  have htotal : ∀ day ∈ daily, { day with observedAt := none } =
      dayTotal (factsOf rows product.sku) day.date := by
    intro day hday
    refine ((hmem { day with observedAt := none }).mp ?_).2
    rw [← hclear]
    exact List.mem_map_of_mem hday
  have hsum : ∀ (date : ℤ) (f : PublishedAdvertisingFact → ℕ),
      ((onDate (factsOf rows product.sku) date).map f).sum =
        ((matchingRows rows product date).map fun row => f row.intoFact).sum := by
    intro date f
    rw [honDate date, List.map_map]
    rfl
  refine ⟨rfl, ⟨_, ⟨rfl, hdates ▸ hnodup, fun date => ?_, fun day hday => ?_, fun day hday => ?_,
    fun day hday => ?_, fun day hday => ?_⟩, rfl⟩, ?_⟩
  · show date ∈ daily.map (fun day => day.date) ↔ _
    rw [hdates]
    constructor
    · intro hdate
      obtain ⟨day, hday, rfl⟩ := List.mem_map.mp hdate
      have hne := ((hmem day).mp hday).1
      rw [honDate] at hne
      exact fun hnil => hne (by rw [hnil, List.map_nil])
    · intro hne
      refine List.mem_map.mpr ⟨dayTotal (factsOf rows product.sku) date, (hmem _).mpr ⟨?_, rfl⟩, rfl⟩
      show onDate (factsOf rows product.sku) date ≠ []
      rw [honDate]
      exact fun hnil => hne (List.map_eq_nil_iff.mp hnil)
  · exact (congrArg AdvertisingDay.clicks (htotal day hday)).trans (hsum _ _)
  · exact (congrArg AdvertisingDay.spendMinor (htotal day hday)).trans (hsum _ _)
  · exact (congrArg AdvertisingDay.directOrders (htotal day hday)).trans (hsum _ _)
  · exact (congrArg AdvertisingDay.directRevenueMinor (htotal day hday)).trans (hsum _ _)
  · rw [Bool.and_eq_true, Bool.and_eq_true, beq_iff_eq, length_eq_pairs_iff hids hkeys hscope,
      and_assoc]

theorem prepareProducts_ok {observedDates : BTreeMap ℤ ℤ} {stockBySku : BTreeMap ℕ StockEvidence}
    {init prepared : PreparedProducts} {rows : List AdvertisingRow}
    {products : List PreparationProduct} (hnodup : (products.map fun p => p.sku).Nodup)
    (hfacts : ∀ product ∈ products,
      init.adFacts[product.sku]?.getD [] = factsOf rows product.sku)
    (hinit : init.products = [])
    (h : products.foldlM (prepareProduct bundle (bundle.windowEnd - bundle.windowStart + 1)
      observedDates stockBySku) init = .ok prepared) :
    List.Forall₂ (DailyTotals rows) products prepared.products ∧
      (prepared.coverageComplete = true ↔ init.coverageComplete = true ∧
        ∀ product ∈ products, product.cpcScope.allCampaignsConfirmed = true ∧
          EveryPair bundle rows product) := by
  have hrun := foldlM_invariant (P := fun done prepared =>
    (done.map fun p : PreparationProduct => p.sku).Nodup → (∀ product ∈ done,
      init.adFacts[product.sku]?.getD [] = factsOf rows product.sku) →
    (∀ sku : ℕ, sku ∉ done.map (fun p => p.sku) → prepared.adFacts[sku]? = init.adFacts[sku]?) ∧
      List.Forall₂ (DailyTotals rows) done prepared.products ∧
      (prepared.coverageComplete = true ↔ init.coverageComplete = true ∧
        ∀ product ∈ done, product.cpcScope.allCampaignsConfirmed = true ∧
          EveryPair bundle rows product)) ?_ ?_ h
  · exact (hrun hnodup hfacts).2
  · intro _ _
    refine ⟨fun _ _ => rfl, hinit ▸ .nil, by simp⟩
  · intro done before product after hinv hstep hdone hrows
    rw [List.map_append, List.map_singleton] at hdone
    obtain ⟨hdone', -, hdisj⟩ := List.nodup_append.mp hdone
    have hnew : product.sku ∉ done.map fun p => p.sku :=
      fun hmem => hdisj _ hmem _ (List.mem_singleton_self _) rfl
    obtain ⟨hkeep, htotals, hcover⟩ :=
      hinv hdone' fun p hp => hrows p (List.mem_append_left _ hp)
    have hown : before.adFacts[product.sku]?.getD [] = factsOf rows product.sku := by
      rw [hkeep _ hnew]
      exact hrows product (by simp)
    obtain ⟨hadFacts, ⟨evidence, hevidence, hproducts⟩, hcoverage⟩ := prepareProduct_ok hown hstep
    refine ⟨fun sku hsku => ?_, ?_, ?_⟩
    · rw [List.map_append, List.map_singleton, List.mem_append, not_or, List.mem_singleton] at hsku
      rw [hadFacts, getElem?_remove, if_neg (Ne.symm hsku.2), hkeep sku hsku.1]
    · rw [hproducts]
      exact List.rel_append htotals (.cons hevidence .nil)
    · rw [hcoverage, hcover, List.forall_mem_append, List.forall_mem_singleton, and_assoc]

/-! ## Stock rows -/

/-- Every document of a stock snapshot is a row of this snapshot. -/
def StockRowsIn (codec : Codec Value) (snapshot : CompleteSnapshot Value) : Prop :=
  ∀ value ∈ snapshot.rows, ∃ row, codec.stockRow value = some row ∧
    row.provenance.snapshotId = snapshot.snapshotId

theorem verifiedStockRows_ok {snapshot : CompleteSnapshot Value} {refs : BTreeMap String Unit}
    {verified : Option (List StockRow) × BTreeMap String Unit}
    (h : verifiedStockRows codec snapshot refs = .ok verified) : StockRowsIn codec snapshot := by
  simp only [verifiedStockRows, ok_of_bind, ensure_eq_ok, exists_const] at h
  obtain ⟨-, seen, hseen, -⟩ := h
  refine foldlM_invariant (P := fun done _ => ∀ value ∈ done, ∃ row,
    codec.stockRow value = some row ∧ row.provenance.snapshotId = snapshot.snapshotId)
    (by simp) ?_ hseen
  intro done before value after hinv hstep
  simp only [addStockRow, CompleteSnapshot.validateFact, ok_of_bind, ensure_eq_ok, context_eq_ok,
    exists_const] at hstep
  obtain ⟨row, hrow, ⟨hid, -⟩, -⟩ := hstep
  rw [List.forall_mem_append, List.forall_mem_singleton]
  exact ⟨hinv, row, hrow, hid⟩

theorem stockEvidence_ok {selected : List ℕ} {stocks : BTreeMap ℤ (CompleteSnapshot Value)}
    {refs : BTreeMap String Unit} {evidence : BTreeMap ℕ StockEvidence × BTreeMap String Unit}
    (h : stockEvidence codec selected stocks refs = .ok evidence) :
    ∀ snapshot ∈ stocks.toList.map Prod.snd, StockRowsIn codec snapshot := by
  refine foldlM_invariant (P := fun done _ => ∀ snapshot ∈ done, StockRowsIn codec snapshot)
    (by simp) ?_ h
  intro done before snapshot after hinv hstep
  simp only [addStockSnapshot, ok_of_bind] at hstep
  obtain ⟨verified, hverified, -⟩ := hstep
  rw [List.forall_mem_append, List.forall_mem_singleton]
  exact ⟨hinv, verifiedStockRows_ok hverified⟩

/-! ## Preparation -/

/-- The coverage of a bundle: every date of the window by exactly one snapshot, every campaign scope
confirmed, and a published row for every product, campaign and date. -/
structure Covered (codec : Codec Value) (bundle : PreparationBundle Value)
    (advertising : BTreeMap ℤ (CompleteSnapshot Value)) : Prop where
  dates : ∀ date, bundle.windowStart ≤ date → date ≤ bundle.windowEnd →
    ∃! id : ℤ, ∃ snapshot, advertising[id]? = some snapshot ∧ Covers snapshot date
  scopes : ∀ product ∈ bundle.products, product.cpcScope.allCampaignsConfirmed = true
  pairs : ∀ product ∈ bundle.products,
    EveryPair bundle (publishedRows codec (advertising.toList.map Prod.snd)) product

/-- The snapshots are covered by their pages, and no page is left over. -/
def PagesCovered [DecidableEq Value] (codec : Codec Value) (bundle : PreparationBundle Value)
    (source : SnapshotSource) (pages : List (SnapshotPage Value))
    (complete : BTreeMap ℤ (CompleteSnapshot Value)) : Prop :=
  (∀ (id : ℤ) (snapshot : CompleteSnapshot Value), complete[id]? = some snapshot →
    PageCover codec bundle source pages id snapshot) ∧
  ∀ page ∈ pages, ∃ (id : ℤ) (snapshot : CompleteSnapshot Value), complete[id]? = some snapshot ∧
    (pageOf codec bundle source id page).isSome = true

theorem mem_snapshots {complete : BTreeMap ℤ (CompleteSnapshot Value)}
    {snapshot : CompleteSnapshot Value} :
    snapshot ∈ complete.toList.map Prod.snd ↔ ∃ id : ℤ, complete[id]? = some snapshot := by
  rw [List.mem_map]
  constructor
  · rintro ⟨⟨id, snapshot'⟩, hmem, rfl⟩
    exact ⟨id, ExtTreeMap.mem_toList_iff_getElem?_eq_some.mp hmem⟩
  · rintro ⟨id, hget⟩
    exact ⟨(id, snapshot), ExtTreeMap.mem_toList_iff_getElem?_eq_some.mpr hget, rfl⟩

theorem size_eq_days_iff {selected : List ℕ} {advertising : BTreeMap ℤ (CompleteSnapshot Value)}
    {evidence : AdvertisingEvidence}
    (hid : ∀ (id : ℤ) snapshot, advertising[id]? = some snapshot → snapshot.snapshotId = id)
    (hev : AdvertisingOk codec bundle selected (advertising.toList.map Prod.snd) evidence) :
    evidence.observedDates.size = (bundle.windowEnd - bundle.windowStart + 1).toNat ↔
      ∀ date, bundle.windowStart ≤ date → date ≤ bundle.windowEnd →
        ∃! id : ℤ, ∃ snapshot, advertising[id]? = some snapshot ∧ Covers snapshot date := by
  have hcard : (Finset.Icc bundle.windowStart bundle.windowEnd).card =
      (bundle.windowEnd - bundle.windowStart + 1).toNat := by
    rw [Int.card_Icc]
    congr 1
    omega
  have hsub : ∀ date : ℤ, evidence.observedDates[date]?.isSome = true →
      date ∈ Finset.Icc bundle.windowStart bundle.windowEnd := by
    intro date hdate
    obtain ⟨snapshot, hmem, hcovers⟩ := (hev.dates date).mp hdate
    exact Finset.mem_Icc.mpr (hev.window snapshot hmem date hcovers)
  rw [← hcard, size_eq_card_iff hsub]
  constructor
  · intro hall date hstart hend
    obtain ⟨snapshot, hmem, hcovers⟩ :=
      (hev.dates date).mp (hall date (Finset.mem_Icc.mpr ⟨hstart, hend⟩))
    obtain ⟨id, hget⟩ := mem_snapshots.mp hmem
    refine ⟨id, ⟨snapshot, hget, hcovers⟩, ?_⟩
    rintro id' ⟨snapshot', hget', hcovers'⟩
    by_cases heq : snapshot = snapshot'
    · rw [← hid id snapshot hget, ← hid id' snapshot' hget', heq]
    · have hsymm : Std.Symm fun s t : CompleteSnapshot Value => ∀ x, Covers s x → ¬ Covers t x :=
        ⟨fun s t hst x hx hx' => hst x hx' hx⟩
      have hdisjoint := hev.disjoint.forall hmem (mem_snapshots.mpr ⟨id', hget'⟩) heq
      exact absurd hcovers' (hdisjoint date hcovers)
  · intro hall date hdate
    obtain ⟨hstart, hend⟩ := Finset.mem_Icc.mp hdate
    obtain ⟨id, ⟨snapshot, hget, hcovers⟩, -⟩ := hall date hstart hend
    exact (hev.dates date).mpr ⟨snapshot, mem_snapshots.mpr ⟨id, hget⟩, hcovers⟩

theorem PreparationBundle.SamePages.symm {b b' : PreparationBundle Value} (h : b.SamePages b') :
    b'.SamePages b := by
  obtain ⟨advertising, stocks, hadvertising, hstocks, rfl⟩ := h
  exact ⟨b.advertisingPages, b.stockPages, hadvertising.symm, hstocks.symm, rfl⟩

variable [DecidableEq Value]

theorem pagesCovered_of_ok {source : SnapshotSource} {pages : List (SnapshotPage Value)}
    {complete : BTreeMap ℤ (CompleteSnapshot Value)}
    (h : completeSnapshots codec bundle source pages = .ok complete) :
    PagesCovered codec bundle source pages complete :=
  ⟨fun _ _ hget => pageCover_of_completeSnapshots h hget, fun _ hpage => snapshot_of_page h hpage⟩

/-- The order of the pages enters the preparation only through the digest. -/
theorem prepareWith_of_samePages {bundle' : PreparationBundle Value} {digest : String}
    {input : ShadowInput} (hsame : bundle.SamePages bundle')
    (h : prepareWith codec digest bundle = .ok input) :
    prepareWith codec digest bundle' = .ok input := by
  have hbytes := codec.bundleBytes_perm hsame
  obtain ⟨advertisingPages, stockPages, hadPerm, hstockPerm, rfl⟩ := hsame
  simp only [prepareWith, ok_of_bind, ensure_eq_ok, exists_const] at h ⊢
  obtain ⟨hversion, hlimits, hsize, advertising, had, hne, stocks, hstocks, hrest⟩ := h
  refine ⟨hversion, hlimits, hbytes ▸ hsize, advertising, ?_, hne, stocks, ?_, hrest⟩
  · exact completeSnapshots_perm hadPerm had
  · exact completeSnapshots_perm hstockPerm hstocks

/-- **Preparation is complete.** The pages of every snapshot cover its rows exactly, every row
carries the identity of its snapshot, the daily totals are the sums of the published rows, coverage
is reported exactly when it holds, and the order of the pages matters only for the digest. -/
theorem prepare_complete {input : ShadowInput} (h : prepare codec bundle = .ok input) :
    ∃ advertising stocks : BTreeMap ℤ (CompleteSnapshot Value),
      completeSnapshots codec bundle .advertising bundle.advertisingPages = .ok advertising ∧
      completeSnapshots codec bundle .stocks bundle.stockPages = .ok stocks ∧
      PagesCovered codec bundle .advertising bundle.advertisingPages advertising ∧
      PagesCovered codec bundle .stocks bundle.stockPages stocks ∧
      (∀ (id : ℤ) snapshot, advertising[id]? = some snapshot →
        RowsIn codec snapshot snapshot.rows) ∧
      (∀ (id : ℤ) snapshot, stocks[id]? = some snapshot → StockRowsIn codec snapshot) ∧
      List.Forall₂ (DailyTotals (publishedRows codec (advertising.toList.map Prod.snd)))
        bundle.products input.products ∧
      (input.coverageComplete = true ↔ Covered codec bundle advertising) ∧
      ∀ bundle' digest input', bundle.SamePages bundle' →
        (prepareWith codec digest bundle' = .ok input' ↔
          prepareWith codec digest bundle = .ok input') := by
  simp only [prepare, prepareWith, ok_of_bind, ensure_eq_ok, context_eq_ok, ok_of_mapError,
    ok_of_pure, exists_const] at h
  obtain ⟨-, -, -, advertising, had, -, stocks, hstocks, -, hnodup, evidence, hevidence, stock,
    hstock, prepared, hprepared, observedAt, -, -, -, -, rfl⟩ := h
  have hcovered := pagesCovered_of_ok had
  have hev := advertisingEvidence_ok hevidence
  obtain ⟨htotals, hcoverage⟩ := prepareProducts_ok hnodup
    (fun product hproduct => hev.facts _ (List.mem_map_of_mem hproduct)) rfl hprepared
  refine ⟨advertising, stocks, had, hstocks, hcovered, pagesCovered_of_ok hstocks,
    fun id snapshot hget => ?_, fun id snapshot hget => ?_, htotals, ?_,
    fun bundle' digest input' hsame => ?_⟩
  · exact hev.rows snapshot (mem_snapshots.mpr ⟨id, hget⟩)
  · exact stockEvidence_ok hstock snapshot (mem_snapshots.mpr ⟨id, hget⟩)
  · rw [hcoverage, beq_iff_eq,
      size_eq_days_iff (fun id snapshot hget => (hcovered.1 id snapshot hget).id_eq) hev]
    constructor
    · rintro ⟨hdates, hproducts⟩
      exact ⟨hdates, fun p hp => (hproducts p hp).1, fun p hp => (hproducts p hp).2⟩
    · intro hcov
      exact ⟨hcov.dates, fun p hp => ⟨hcov.scopes p hp, hcov.pairs p hp⟩⟩
  · exact ⟨prepareWith_of_samePages hsame.symm, prepareWith_of_samePages hsame⟩

/-- A page of one row of a snapshot that covers the dates 19989 and 19990. -/
def twoDayPage (row : ℕ) (nextOffset : Option ℕ) : SnapshotEnvelope ℕ where
  accountId := "ozon_account"
  marketplace := "ozon"
  source := "advertising"
  storage := "published_postgresql_snapshots"
  state := "available"
  dataState := "available"
  quality := some "complete"
  paginationComplete := some true
  snapshotId := "7"
  cutoffAt := seconds (19999 * 86400)
  sourceAsOf := seconds (19999 * 86400)
  observedFrom := seconds (19999 * 86400)
  periodStart := seconds (19989 * 86400 - yekaterinburg)
  periodEnd := seconds (19991 * 86400 - yekaterinburg)
  totalRows := 2
  rows := [row]
  nextOffset := nextOffset

theorem length_advertisingPages {Value : Type} {b b' : PreparationBundle Value} (h : b.SamePages b') :
    b.advertisingPages.length = b'.advertisingPages.length := by
  obtain ⟨advertising, stocks, hadvertising, -, rfl⟩ := h
  exact hadvertising.length_eq

/-- Documents 0 and 1 are the two pages, documents 2 and 3 their rows. -/
def twoDayCodec : Codec ℕ where
  envelope value := if value = 0 then some (twoDayPage 2 (some 1)) else
    if value = 1 then some (twoDayPage 3 none) else none
  advertisingRow value := if value = 2 ∨ value = 3 then
    some ⟨⟨"ozon_account", "ozon", "advertising", 7, seconds (19999 * 86400),
      seconds (19999 * 86400), "succeeded", true⟩, 19987 + value, 11, 5, "RUB", 100, 10, 200, 1, 900⟩
    else none
  stockRow _ := none
  bundleBytes bundle := bundle.advertisingPages.length
  digest _ := "digest"
  inputBytes _ := 0
  bundleBytes_perm := @length_advertisingPages ℕ

/-- The two pages in the wrong order, for one product with one campaign. -/
def twoDayBundle : PreparationBundle ℕ where
  version := 1
  accountId := "ozon_account"
  asOf := seconds (20000 * 86400)
  windowStart := 19989
  windowEnd := 19990
  objective := .expectedEconomics
  policy := ⟨100, 1, 1, 1, 1, 24, 90, 24, 0, 1000, 1000, 1⟩
  products := [⟨5, 100, 500, none, none,
    ⟨[11], "operator:scope", seconds (20000 * 86400), true⟩⟩]
  advertisingPages := [⟨1, 1⟩, ⟨0, 0⟩]
  stockPages := []

/-- The bundle prepares, and the snapshot put together from its two pages covers the window. -/
theorem prepare_complete_two_days : ∃ input advertising,
    prepare twoDayCodec twoDayBundle = .ok input ∧
      completeSnapshots twoDayCodec twoDayBundle .advertising twoDayBundle.advertisingPages =
        .ok advertising ∧
      input.coverageComplete = true ∧ Covered twoDayCodec twoDayBundle advertising := by
  have hprepare : ∃ input, prepare twoDayCodec twoDayBundle = .ok input ∧
      input.coverageComplete = true := ⟨_, rfl, rfl⟩
  obtain ⟨input, hinput, hcomplete⟩ := hprepare
  obtain ⟨advertising, -, had, -, -, -, -, -, -, hcoverage, -⟩ := prepare_complete hinput
  exact ⟨input, advertising, hinput, had, hcomplete, hcoverage.mp hcomplete⟩

end AdsControl.Optimizer
