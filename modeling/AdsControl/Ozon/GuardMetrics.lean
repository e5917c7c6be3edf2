import AdsControl.Lib.OrderedMap
import AdsControl.Ozon.GuardWorkflow

/-!
# Complete guard telemetry

The guard acts on totals only when every requested campaign has one row for every day of its window.
The aggregation decides this by counting: rows outside of the request and repeated rows fail at once,
and what is left is complete when there are as many rows as campaigns times days.

* `aggregateCompleteGuardMetrics`: the aggregation;
* `Accepted`: what the loop over the rows demands, `loop_eq_ok_iff`: it is all it demands;
* **`aggregate_ok_iff`**: success is completeness, the result is the totals, in any order of the rows.
-/

namespace AdsControl.Ozon

open Fallible OrderedMap Std

/-! ## Aggregation -/

/-- A row of the telemetry. -/
structure OzonGuardMetricRow where
  businessDate : ℤ
  campaignId : ℕ
  spendMinor : ℕ
  attributedRevenueMinor : ℕ

/-- Why telemetry is not used. -/
inductive OzonGuardTelemetryError
  | unexpectedCampaign
  | missingCampaign
  | missingCurrentDay
  | missingCampaignDay
  | overflow
  | invalidDateWindow
  | rowOutsideDateWindow
  | duplicateMetricRow
  deriving DecidableEq

/-- The accumulators of the loop. -/
structure GuardMetricsLoop where
  metrics : ExtTreeMap ℕ OzonGuardMetrics
  observedDays : Finset (ℕ × ℤ)
  currentDayCampaigns : Finset ℕ

variable (expectedCampaignIds : Finset ℕ) (dateFrom dateTo : NaiveDate)

/-- One row of the loop. -/
def addMetricRow (loop : GuardMetricsLoop) (row : OzonGuardMetricRow) :
    Except OzonGuardTelemetryError GuardMetricsLoop := do
  ensure (dateFrom ≤ row.businessDate ∧ row.businessDate ≤ dateTo) .rowOutsideDateWindow
  ensure (row.campaignId ∈ expectedCampaignIds) .unexpectedCampaign
  ensure ((row.campaignId, row.businessDate) ∉ loop.observedDays) .duplicateMetricRow
  let entry := loop.metrics.getD row.campaignId ⟨0, 0⟩
  let spendMinor ← context (Machine.checkedAdd 64 entry.spendMinor row.spendMinor) .overflow
  let attributedRevenueMinor ← context
    (Machine.checkedAdd 64 entry.attributedRevenueMinor row.attributedRevenueMinor) .overflow
  return {
    metrics := loop.metrics.insert row.campaignId ⟨spendMinor, attributedRevenueMinor⟩
    observedDays := insert (row.campaignId, row.businessDate) loop.observedDays
    currentDayCampaigns := if row.businessDate = dateTo
      then insert row.campaignId loop.currentDayCampaigns else loop.currentDayCampaigns }

/-- The totals of every requested campaign, when every one of its days is represented. -/
def aggregateCompleteGuardMetrics (rows : List OzonGuardMetricRow) :
    Except OzonGuardTelemetryError (ExtTreeMap ℕ OzonGuardMetrics) := do
  ensure (dateFrom.val ≤ dateTo.val) .invalidDateWindow
  let inclusiveDays ← context (Machine.tryFrom 64 (dateTo.val - dateFrom.val + 1).toNat) .invalidDateWindow
  let expectedCampaignDays ← context (Machine.checkedMul 64 inclusiveDays expectedCampaignIds.card)
    .overflow
  let loop ← rows.foldlM (addMetricRow expectedCampaignIds dateFrom dateTo) ⟨∅, ∅, ∅⟩
  ensure (loop.metrics.keys.toFinset = expectedCampaignIds) .missingCampaign
  ensure (loop.currentDayCampaigns = expectedCampaignIds) .missingCurrentDay
  ensure (loop.observedDays.card = expectedCampaignDays) .missingCampaignDay
  return loop.metrics

/-! ## What the loop demands -/

/-- What a row is identified by. -/
def OzonGuardMetricRow.campaignDay (row : OzonGuardMetricRow) : ℕ × ℤ := (row.campaignId, row.businessDate)

/-- The totals of one campaign. -/
def totals (rows : List OzonGuardMetricRow) (campaign : ℕ) : OzonGuardMetrics where
  spendMinor := ((rows.filter (·.campaignId = campaign)).map (·.spendMinor)).sum
  attributedRevenueMinor := ((rows.filter (·.campaignId = campaign)).map (·.attributedRevenueMinor)).sum

/-- Totals of 64-bit values. -/
def OzonGuardMetrics.Fits (metrics : OzonGuardMetrics) : Prop :=
  metrics.spendMinor < 2 ^ 64 ∧ metrics.attributedRevenueMinor < 2 ^ 64

/-- The requested campaign-days. -/
noncomputable def campaignDays : Finset (ℕ × ℤ) := expectedCampaignIds ×ˢ Finset.Icc dateFrom.val dateTo.val

/-- Requested rows only, none of them twice, with totals that fit. -/
structure Accepted (rows : List OzonGuardMetricRow) : Prop where
  requested : ∀ row ∈ rows, row.campaignDay ∈ campaignDays expectedCampaignIds dateFrom dateTo
  nodup : (rows.map OzonGuardMetricRow.campaignDay).Nodup
  fits : ∀ campaign, (totals rows campaign).Fits

/-- The accumulators hold what the rows so far say. -/
structure Accumulated (rows : List OzonGuardMetricRow) (loop : GuardMetricsLoop) : Prop where
  observedDays : loop.observedDays = (rows.map OzonGuardMetricRow.campaignDay).toFinset
  currentDay : ∀ campaign, campaign ∈ loop.currentDayCampaigns ↔
    (campaign, dateTo.val) ∈ rows.map OzonGuardMetricRow.campaignDay
  metrics : ∀ campaign, loop.metrics[campaign]? =
    if campaign ∈ rows.map (·.campaignId) then some (totals rows campaign) else none

variable {expectedCampaignIds dateFrom dateTo}

theorem mem_campaignDays {campaign : ℕ} {day : ℤ} :
    (campaign, day) ∈ campaignDays expectedCampaignIds dateFrom dateTo ↔
      campaign ∈ expectedCampaignIds ∧ dateFrom ≤ day ∧ day ≤ dateTo := by
  simp [campaignDays]

theorem card_campaignDays :
    (campaignDays expectedCampaignIds dateFrom dateTo).card =
      (dateTo.val - dateFrom.val + 1).toNat * expectedCampaignIds.card := by
  rw [campaignDays, Finset.card_product, Int.card_Icc, Nat.mul_comm]
  congr 2
  omega

theorem totals_append (rows : List OzonGuardMetricRow) (row : OzonGuardMetricRow) (campaign : ℕ) :
    totals (rows ++ [row]) campaign = if row.campaignId = campaign then
      ⟨(totals rows campaign).spendMinor + row.spendMinor,
        (totals rows campaign).attributedRevenueMinor + row.attributedRevenueMinor⟩
      else totals rows campaign := by
  by_cases h : row.campaignId = campaign <;> simp [totals, h]

theorem Accepted.of_append {rows : List OzonGuardMetricRow} {row : OzonGuardMetricRow}
    (h : Accepted expectedCampaignIds dateFrom dateTo (rows ++ [row])) :
    Accepted expectedCampaignIds dateFrom dateTo rows where
  requested r hr := h.requested r (List.mem_append_left _ hr)
  nodup := by
    have hnodup := h.nodup
    rw [List.map_append] at hnodup
    exact hnodup.of_append_left
  fits campaign := by
    have hfits := h.fits campaign
    rw [totals_append] at hfits
    split_ifs at hfits with hsame
    · exact ⟨by have := hfits.1; simp only at this; omega, by have := hfits.2; simp only at this; omega⟩
    · exact hfits

theorem Accumulated.getD {rows : List OzonGuardMetricRow} {loop : GuardMetricsLoop}
    (h : Accumulated dateTo rows loop) (campaign : ℕ) :
    loop.metrics.getD campaign ⟨0, 0⟩ = totals rows campaign := by
  rw [ExtTreeMap.getD_eq_getD_getElem?, h.metrics]
  split_ifs with hmem
  · rfl
  · have hnone : rows.filter (·.campaignId = campaign) = [] := by
      rw [List.filter_eq_nil_iff]
      intro row hrow hcampaign
      exact hmem (List.mem_map.mpr ⟨row, hrow, by simpa using hcampaign⟩)
    simp [totals, hnone]

theorem accepted_append_iff {rows : List OzonGuardMetricRow} {row : OzonGuardMetricRow}
    (hrows : Accepted expectedCampaignIds dateFrom dateTo rows) :
    Accepted expectedCampaignIds dateFrom dateTo (rows ++ [row]) ↔
      row.campaignDay ∈ campaignDays expectedCampaignIds dateFrom dateTo ∧
      row.campaignDay ∉ rows.map OzonGuardMetricRow.campaignDay ∧
      (totals rows row.campaignId).spendMinor + row.spendMinor < 2 ^ 64 ∧
      (totals rows row.campaignId).attributedRevenueMinor + row.attributedRevenueMinor < 2 ^ 64 := by
  constructor
  · intro h
    have hfits := h.fits row.campaignId
    rw [totals_append, if_pos rfl] at hfits
    have hnodup := h.nodup
    rw [List.map_append, List.map_singleton, List.nodup_append] at hnodup
    refine ⟨h.requested row (by simp), fun hmem => ?_, hfits.1, hfits.2⟩
    exact hnodup.2.2 _ hmem _ List.mem_cons_self rfl
  · rintro ⟨hrequested, hnew, hspend, hrevenue⟩
    refine ⟨fun r hr => ?_, ?_, fun campaign => ?_⟩
    · rcases List.mem_append.mp hr with hr | hr
      · exact hrows.requested r hr
      · rw [List.mem_singleton.mp hr]
        exact hrequested
    · rw [List.map_append, List.map_singleton, List.nodup_append]
      refine ⟨hrows.nodup, List.nodup_singleton _, fun a ha b hb hab => ?_⟩
      rw [hab, List.mem_singleton.mp hb] at ha
      exact hnew ha
    · rw [totals_append]
      split_ifs with hsame
      · subst hsame
        exact ⟨hspend, hrevenue⟩
      · exact hrows.fits campaign

/-- **One row.** The loop takes a row exactly when the rows stay accepted. -/
theorem addMetricRow_ok_iff {rows : List OzonGuardMetricRow} {loop : GuardMetricsLoop}
    {row : OzonGuardMetricRow} (hrows : Accepted expectedCampaignIds dateFrom dateTo rows)
    (h : Accumulated dateTo rows loop) :
    (∃ loop', addMetricRow expectedCampaignIds dateFrom dateTo loop row = .ok loop') ↔
      Accepted expectedCampaignIds dateFrom dateTo (rows ++ [row]) := by
  have hday : row.campaignDay = (row.campaignId, row.businessDate) := rfl
  rw [accepted_append_iff hrows, hday, mem_campaignDays]
  simp only [addMetricRow, h.getD, h.observedDays, ok_of_bind, ensure_eq_ok, context_eq_ok,
    Machine.checkedAdd_eq_some, ok_of_pure, List.mem_toFinset]
  constructor
  · rintro ⟨_, _, hwindow, _, hcampaign, _, hnew, _, ⟨rfl, hspend⟩, _, ⟨rfl, hrevenue⟩, _⟩
    exact ⟨⟨hcampaign, hwindow⟩, hnew, hspend, hrevenue⟩
  · rintro ⟨⟨hcampaign, hwindow⟩, hnew, hspend, hrevenue⟩
    exact ⟨_, (), hwindow, (), hcampaign, (), hnew, _, ⟨rfl, hspend⟩, _, ⟨rfl, hrevenue⟩, rfl⟩

theorem Accumulated.append {rows : List OzonGuardMetricRow} {loop loop' : GuardMetricsLoop}
    {row : OzonGuardMetricRow} (h : Accumulated dateTo rows loop)
    (hadd : addMetricRow expectedCampaignIds dateFrom dateTo loop row = .ok loop') :
    Accumulated dateTo (rows ++ [row]) loop' := by
  simp only [addMetricRow, h.getD, ok_of_bind, ensure_eq_ok, context_eq_ok,
    Machine.checkedAdd_eq_some, ok_of_pure] at hadd
  obtain ⟨_, _, _, _, _, _, _, ⟨rfl, _⟩, _, ⟨rfl, _⟩, rfl⟩ := hadd
  refine ⟨?_, fun campaign => ?_, fun campaign => ?_⟩
  · simp only [h.observedDays, List.map_append, List.map_singleton, List.toFinset_append]
    ext p
    simp [OzonGuardMetricRow.campaignDay]
  · rw [List.map_append, List.map_singleton, List.mem_append, List.mem_singleton, ← h.currentDay]
    dsimp only
    split_ifs with hcurrent
    · simp [OzonGuardMetricRow.campaignDay, hcurrent, or_comm]
    · simp [OzonGuardMetricRow.campaignDay, Ne.symm hcurrent]
  · rw [getElem?_put, totals_append, h.metrics]
    by_cases hsame : row.campaignId = campaign
    · subst hsame
      simp
    · simp [hsame, Ne.symm hsame]

/-- **The loop.** It succeeds exactly on accepted rows and holds what they say. -/
theorem loop_ok_iff (rows : List OzonGuardMetricRow) :
    ((∃ loop, rows.foldlM (addMetricRow expectedCampaignIds dateFrom dateTo) ⟨∅, ∅, ∅⟩ = .ok loop) ↔
      Accepted expectedCampaignIds dateFrom dateTo rows) ∧
    ∀ loop, rows.foldlM (addMetricRow expectedCampaignIds dateFrom dateTo) ⟨∅, ∅, ∅⟩ = .ok loop →
      Accumulated dateTo rows loop := by
  induction rows using List.reverseRecOn with
  | nil =>
    refine ⟨⟨fun _ => ⟨by simp, by simp, fun _ => by simp [totals, OzonGuardMetrics.Fits]⟩,
      fun _ => ⟨_, rfl⟩⟩, fun loop hloop => ?_⟩
    rw [List.foldlM_nil, ok_of_pure] at hloop
    subst hloop
    exact ⟨by simp, by simp, by simp⟩
  | append_singleton rows row ih =>
    obtain ⟨hok, hacc⟩ := ih
    simp only [List.foldlM_append, List.foldlM_cons, List.foldlM_nil, ok_of_bind, ok_of_pure]
    refine ⟨⟨?_, fun h => ?_⟩, ?_⟩
    · rintro ⟨_, loop, hloop, loop', hadd, _⟩
      exact (addMetricRow_ok_iff (hok.mp ⟨loop, hloop⟩) (hacc loop hloop)).mp ⟨loop', hadd⟩
    · obtain ⟨loop, hloop⟩ := hok.mpr h.of_append
      obtain ⟨loop', hadd⟩ := (addMetricRow_ok_iff h.of_append (hacc loop hloop)).mpr h
      exact ⟨loop', loop, hloop, loop', hadd, rfl⟩
    · rintro _ ⟨loop, hloop, loop', hadd, rfl⟩
      exact (hacc loop hloop).append hadd

/-! ## Completeness -/

/-- One row for every requested campaign-day and no other row. -/
def CompleteRows (expectedCampaignIds : Finset ℕ) (dateFrom dateTo : NaiveDate)
    (rows : List OzonGuardMetricRow) : Prop :=
  (∀ campaign ∈ expectedCampaignIds, ∀ day : ℤ, dateFrom ≤ day → day ≤ dateTo →
    (rows.map OzonGuardMetricRow.campaignDay).count (campaign, day) = 1) ∧
  ∀ row ∈ rows, row.campaignId ∈ expectedCampaignIds ∧ dateFrom ≤ row.businessDate ∧
    row.businessDate ≤ dateTo

theorem completeRows_iff {rows : List OzonGuardMetricRow} :
    CompleteRows expectedCampaignIds dateFrom dateTo rows ↔
      (∀ row ∈ rows, row.campaignDay ∈ campaignDays expectedCampaignIds dateFrom dateTo) ∧
      (rows.map OzonGuardMetricRow.campaignDay).Nodup ∧
      ∀ p ∈ campaignDays expectedCampaignIds dateFrom dateTo,
        p ∈ rows.map OzonGuardMetricRow.campaignDay := by
  constructor
  · rintro ⟨hone, hrequested⟩
    have hmem : ∀ row ∈ rows, row.campaignDay ∈ campaignDays expectedCampaignIds dateFrom dateTo :=
      fun row hrow => mem_campaignDays.mpr (hrequested row hrow)
    have hcount : ∀ p ∈ campaignDays expectedCampaignIds dateFrom dateTo,
        (rows.map OzonGuardMetricRow.campaignDay).count p = 1 := by
      rintro ⟨campaign, day⟩ hp
      obtain ⟨hcampaign, hfrom, hto⟩ := mem_campaignDays.mp hp
      exact hone campaign hcampaign day hfrom hto
    refine ⟨hmem, List.nodup_iff_count_le_one.mpr fun p => ?_, fun p hp => ?_⟩
    · by_cases hp : p ∈ rows.map OzonGuardMetricRow.campaignDay
      · obtain ⟨row, hrow, rfl⟩ := List.mem_map.mp hp
        exact (hcount _ (hmem row hrow)).le
      · rw [List.count_eq_zero_of_not_mem hp]
        exact Nat.zero_le 1
    · exact List.count_pos_iff.mp (by rw [hcount p hp]; exact Nat.one_pos)
  · rintro ⟨hmem, hnodup, hall⟩
    refine ⟨fun campaign hcampaign day hfrom hto => ?_, fun row hrow => mem_campaignDays.mp (hmem row hrow)⟩
    exact List.count_eq_one_of_mem hnodup (hall _ (mem_campaignDays.mpr ⟨hcampaign, hfrom, hto⟩))

variable {rows : List OzonGuardMetricRow}

/-- As many rows as campaign-days are all of them. -/
theorem card_observedDays_iff (h : Accepted expectedCampaignIds dateFrom dateTo rows)
    {loop : GuardMetricsLoop} (hloop : Accumulated dateTo rows loop) :
    loop.observedDays.card = (dateTo.val - dateFrom.val + 1).toNat * expectedCampaignIds.card ↔
      ∀ p ∈ campaignDays expectedCampaignIds dateFrom dateTo,
        p ∈ rows.map OzonGuardMetricRow.campaignDay := by
  rw [hloop.observedDays, List.toFinset_card_of_nodup h.nodup, ← card_campaignDays]
  refine length_eq_card_iff h.nodup fun p hp => ?_
  obtain ⟨row, hrow, rfl⟩ := List.mem_map.mp hp
  exact h.requested row hrow

theorem complete_of_ok {metrics : ExtTreeMap ℕ OzonGuardMetrics}
    (h : aggregateCompleteGuardMetrics expectedCampaignIds dateFrom dateTo rows = .ok metrics) :
    dateFrom.val ≤ dateTo.val ∧ CompleteRows expectedCampaignIds dateFrom dateTo rows ∧
      (∀ campaign, (totals rows campaign).Fits) ∧
      ∀ campaign, metrics[campaign]? =
        if campaign ∈ expectedCampaignIds then some (totals rows campaign) else none := by
  simp only [aggregateCompleteGuardMetrics, ok_of_bind, ensure_eq_ok, context_eq_ok,
    Machine.tryFrom_eq_some, Machine.checkedMul_eq_some, ok_of_pure] at h
  obtain ⟨_, hwindow, _, ⟨rfl, _⟩, _, ⟨rfl, _⟩, loop, hloop, _, hkeys, _, _, _, hcard, rfl⟩ := h
  have haccepted := (loop_ok_iff rows).1.mp ⟨loop, hloop⟩
  have hloop := (loop_ok_iff rows).2 loop hloop
  have hall := (card_observedDays_iff haccepted hloop).mp hcard
  refine ⟨hwindow, completeRows_iff.mpr ⟨haccepted.requested, haccepted.nodup, hall⟩, haccepted.fits,
    fun campaign => ?_⟩
  have hmem : campaign ∈ expectedCampaignIds ↔ campaign ∈ rows.map (·.campaignId) := by
    rw [← hkeys, List.mem_toFinset, mem_keys_iff, hloop.metrics]
    split_ifs with h <;> simp [h]
  rw [hloop.metrics]
  exact if_congr hmem.symm rfl rfl

theorem ok_of_complete (hrows : rows.length < 2 ^ 64) (hwindow : dateFrom.val ≤ dateTo.val)
    (hcomplete : CompleteRows expectedCampaignIds dateFrom dateTo rows)
    (hfits : ∀ campaign, (totals rows campaign).Fits) :
    ∃ metrics, aggregateCompleteGuardMetrics expectedCampaignIds dateFrom dateTo rows = .ok metrics := by
  obtain ⟨hrequested, hnodup, hall⟩ := completeRows_iff.mp hcomplete
  have haccepted : Accepted expectedCampaignIds dateFrom dateTo rows := ⟨hrequested, hnodup, hfits⟩
  obtain ⟨loop, hloop⟩ := (loop_ok_iff rows).1.mpr haccepted
  have hacc := (loop_ok_iff rows).2 loop hloop
  have hcard := (card_observedDays_iff haccepted hacc).mpr hall
  have hmul : (dateTo.val - dateFrom.val + 1).toNat * expectedCampaignIds.card < 2 ^ 64 := by
    rw [← hcard, hacc.observedDays, List.toFinset_card_of_nodup hnodup, List.length_map]
    exact hrows
  -- every expected campaign has a row on the last day of the window
  have hlast : ∀ campaign ∈ expectedCampaignIds,
      (campaign, dateTo.val) ∈ rows.map OzonGuardMetricRow.campaignDay :=
    fun campaign hcampaign => hall _ (mem_campaignDays.mpr ⟨hcampaign, hwindow, Int.le_refl _⟩)
  have hexpected : ∀ row ∈ rows, row.campaignId ∈ expectedCampaignIds :=
    fun row hrow => (mem_campaignDays.mp (hrequested row hrow)).1
  have hkeys : loop.metrics.keys.toFinset = expectedCampaignIds := by
    ext campaign
    rw [List.mem_toFinset, mem_keys_iff, hacc.metrics]
    constructor
    · intro hsome
      split_ifs at hsome with hmem
      · obtain ⟨row, hrow, rfl⟩ := List.mem_map.mp hmem
        exact hexpected row hrow
      · simp at hsome
    · intro hcampaign
      obtain ⟨row, hrow, hday⟩ := List.mem_map.mp (hlast campaign hcampaign)
      rw [if_pos (List.mem_map.mpr ⟨row, hrow, congrArg Prod.fst hday⟩)]
      rfl
  have hcurrent : loop.currentDayCampaigns = expectedCampaignIds := by
    ext campaign
    rw [hacc.currentDay]
    refine ⟨fun hmem => ?_, hlast campaign⟩
    obtain ⟨row, hrow, hday⟩ := List.mem_map.mp hmem
    have hcampaign : row.campaignId = campaign := congrArg Prod.fst hday
    exact hcampaign ▸ hexpected row hrow
  have hdays : (dateTo.val - dateFrom.val + 1).toNat < 2 ^ 64 := by
    obtain ⟨hfrom, _⟩ := dateFrom.2
    obtain ⟨_, hto⟩ := dateTo.2
    simp only [dateIn, minUtc, maxUtc, seconds] at hfrom hto
    omega
  refine ⟨loop.metrics, ?_⟩
  simp only [aggregateCompleteGuardMetrics, ok_of_bind, ensure_eq_ok, context_eq_ok,
    Machine.tryFrom_eq_some, Machine.checkedMul_eq_some, ok_of_pure]
  exact ⟨(), hwindow, _, ⟨rfl, hdays⟩, _, ⟨rfl, hmul⟩, loop, hloop, (), hkeys, (), hcurrent, (), hcard, rfl⟩

theorem totals_perm {rows' : List OzonGuardMetricRow} (h : rows.Perm rows') (campaign : ℕ) :
    totals rows' campaign = totals rows campaign := by
  have hfilter := h.filter fun row => decide (row.campaignId = campaign)
  simp only [totals, (hfilter.map _).sum_eq]

theorem completeRows_perm {rows' : List OzonGuardMetricRow} (h : rows.Perm rows') :
    CompleteRows expectedCampaignIds dateFrom dateTo rows' ↔
      CompleteRows expectedCampaignIds dateFrom dateTo rows := by
  have hmem : ∀ row, row ∈ rows' ↔ row ∈ rows := fun row => h.mem_iff.symm
  simp only [CompleteRows, (h.map OzonGuardMetricRow.campaignDay).count_eq, hmem]

/-- **Complete telemetry.** For any number of rows that fits memory, the aggregation succeeds exactly on an
ordered window with one row per requested campaign-day, no other row and totals of 64 bits; it returns the
totals of the requested campaigns, in whatever order the rows come. -/
theorem aggregate_ok_iff (expectedCampaignIds : Finset ℕ) (dateFrom dateTo : NaiveDate)
    (rows : List OzonGuardMetricRow) (hrows : rows.length < 2 ^ 64) :
    ((∃ metrics, aggregateCompleteGuardMetrics expectedCampaignIds dateFrom dateTo rows = .ok metrics) ↔
      dateFrom.val ≤ dateTo.val ∧ CompleteRows expectedCampaignIds dateFrom dateTo rows ∧
        ∀ campaign, (totals rows campaign).Fits) ∧
    (∀ metrics, aggregateCompleteGuardMetrics expectedCampaignIds dateFrom dateTo rows = .ok metrics →
      ∀ campaign, metrics[campaign]? =
        if campaign ∈ expectedCampaignIds then some (totals rows campaign) else none) ∧
    ∀ rows', rows.Perm rows' →
      (aggregateCompleteGuardMetrics expectedCampaignIds dateFrom dateTo rows').toOption =
        (aggregateCompleteGuardMetrics expectedCampaignIds dateFrom dateTo rows).toOption := by
  refine ⟨⟨?_, ?_⟩, fun metrics h => (complete_of_ok h).2.2.2, fun rows' hperm => ?_⟩
  · rintro ⟨metrics, h⟩
    obtain ⟨hwindow, hcomplete, hfits, _⟩ := complete_of_ok h
    exact ⟨hwindow, hcomplete, hfits⟩
  · rintro ⟨hwindow, hcomplete, hfits⟩
    exact ok_of_complete hrows hwindow hcomplete hfits
  · have transfer : ∀ l l' : List OzonGuardMetricRow, l.Perm l' → l.length < 2 ^ 64 → ∀ metrics,
        aggregateCompleteGuardMetrics expectedCampaignIds dateFrom dateTo l = .ok metrics →
        aggregateCompleteGuardMetrics expectedCampaignIds dateFrom dateTo l' = .ok metrics := by
      intro l l' hperm hlength metrics h
      obtain ⟨hwindow, hcomplete, hfits, hget⟩ := complete_of_ok h
      obtain ⟨metrics', h'⟩ := ok_of_complete (hperm.length_eq ▸ hlength) hwindow
        ((completeRows_perm hperm).mpr hcomplete) fun campaign => totals_perm hperm campaign ▸ hfits campaign
      rw [h']
      refine congrArg Except.ok (ExtTreeMap.ext_getElem? fun campaign => ?_)
      rw [(complete_of_ok h').2.2.2, hget, totals_perm hperm]
    cases h : aggregateCompleteGuardMetrics expectedCampaignIds dateFrom dateTo rows with
    | ok metrics => rw [transfer rows rows' hperm hrows metrics h]
    | error e =>
      cases h' : aggregateCompleteGuardMetrics expectedCampaignIds dateFrom dateTo rows' with
      | error e' => rfl
      | ok metrics' =>
        have hlength : rows'.length < 2 ^ 64 := hperm.length_eq ▸ hrows
        rw [transfer rows' rows hperm.symm hlength metrics' h'] at h
        cases h

/-- One campaign over two days. -/
theorem aggregate_ok_two_days :
    let day (n : ℤ) (h : dateIn 0 minUtc ≤ n ∧ n ≤ dateIn 0 maxUtc) : NaiveDate := ⟨n, h⟩
    ∃ metrics, aggregateCompleteGuardMetrics {21} (day 100 (by decide)) (day 101 (by decide))
      [⟨101, 21, 5, 0⟩, ⟨100, 21, 7, 90⟩] = .ok metrics ∧ metrics[21]? = some ⟨12, 90⟩ := by
  intro day
  have hspec := aggregate_ok_iff {21} (day 100 (by decide)) (day 101 (by decide))
    [⟨101, 21, 5, 0⟩, ⟨100, 21, 7, 90⟩] (by decide)
  have hone : ∀ campaign ∈ ({21} : Finset ℕ), ∀ d : ℤ, (100 : ℤ) ≤ d → d ≤ (101 : ℤ) →
      [(21, 101), (21, 100)].count (campaign, d) = 1 := by
    intro campaign hcampaign d hfrom hto
    have hd : d = 100 ∨ d = 101 := by omega
    rw [Finset.mem_singleton.mp hcampaign]
    rcases hd with rfl | rfl <;> decide
  have hfits : ∀ campaign, (totals [⟨101, 21, 5, 0⟩, ⟨100, 21, 7, 90⟩] campaign).Fits := by
    intro campaign
    by_cases h : campaign = 21
    · subst h
      exact ⟨by decide, by decide⟩
    · simp [totals, OzonGuardMetrics.Fits, Ne.symm h]
  obtain ⟨metrics, hok⟩ := hspec.1.mpr ⟨by decide, ⟨hone, by decide⟩, hfits⟩
  exact ⟨metrics, hok, hspec.2.1 metrics hok 21⟩

end AdsControl.Ozon
