import AdsControl.Optimizer.Completeness

/-!
# Closed days on two calendars

Preparation accepts a day once it has ended on the clock of the reports, five hours ahead of UTC; the
optimizer accepts it once it has ended in UTC. Between the two a day that is closed for the snapshot
is open for the optimizer, and the bundle is rejected.

* `draft`: the input a preparation hands to the optimizer;
* `DatesValid`: the date rules of the optimizer on an input;
* `Observed`: what the observation of each date and of the whole input is;
* **`datesValid_draft_iff`**: a drafted input meets the date rules exactly when its observations are
  made five hours or more after the days they close.
-/

namespace AdsControl.Optimizer

open Fallible Machine Std OrderedMap

variable {Value : Type} {codec : Codec Value} {bundle : PreparationBundle Value}

/-! ## The two calendars -/

/-- The instant at which a business date ends. -/
def endOfDay (date : ℤ) : ℤ := seconds ((date + 1) * 86400 - yekaterinburg)

/-- A date has ended in UTC five hours after its end on the clock of the reports. -/
theorem lt_dateNaive_iff {date instant : ℤ} :
    date < dateNaive instant ↔ endOfDay date + seconds (5 * 3600) ≤ instant := by
  simp only [dateNaive, dateIn, endOfDay, seconds, yekaterinburg]
  omega

theorem endOfDay_businessDate {instant : ℤ} (h : isMidnight instant = true) :
    endOfDay (businessDate (instant - 1)) = instant := by
  simp only [isMidnight, beq_iff_eq, seconds, yekaterinburg] at h
  simp only [endOfDay, businessDate, dateIn, seconds, yekaterinburg]
  omega

theorem endOfDay_lt {date date' : ℤ} (h : date < date') :
    endOfDay date + seconds (5 * 3600) ≤ endOfDay date' := by
  simp only [endOfDay, seconds, yekaterinburg]
  omega

/-! ## Date rules -/

/-- The date rules `validateScope` and `validateDates` check on an input. -/
structure DatesValid (input : ShadowInput) : Prop where
  window : input.windowEnd < dateNaive input.observedAt
  observed : input.observedAt ≤ input.asOf
  daily : ∀ product ∈ input.products, validateDates input product.daily [] = .ok ()

theorem validateDates_eq_ok {input : ShadowInput} {daily : List AdvertisingDay} {dates : List ℤ} :
    validateDates input daily dates = .ok () ↔
      (∀ day ∈ daily, input.windowStart ≤ day.date ∧ day.date ≤ input.windowEnd ∧
        day.date < dateNaive (day.observedAt.getD input.observedAt) ∧
        day.observedAt.getD input.observedAt ≤ input.observedAt) ∧
      (∀ day ∈ daily, day.date ∉ dates) ∧ (daily.map fun day => day.date).Nodup := by
  induction daily generalizing dates with
  | nil => simp [validateDates]
  | cons day daily ih =>
    rw [List.forall_mem_cons, List.forall_mem_cons]
    simp only [validateDates, ok_of_bind, ensure_eq_ok, exists_const, ih, List.map_cons,
      List.nodup_cons, List.mem_map, not_exists, not_and, List.mem_cons, not_or]
    constructor
    · rintro ⟨hday, hnew, hrest, hdates, hnodup⟩
      exact ⟨⟨hday, hrest⟩, ⟨hnew, fun d hd => (hdates d hd).2⟩, fun d hd => (hdates d hd).1, hnodup⟩
    · rintro ⟨⟨hday, hrest⟩, ⟨hnew, hdates⟩, hhead, hnodup⟩
      exact ⟨hday, hnew, hrest, fun d hd => ⟨hhead d hd, hdates d hd⟩, hnodup⟩

theorem validateProducts_eq_ok {input : ShadowInput} {products : List ProductEvidence}
    {skus : List ℕ} (h : validateProducts input products skus = .ok ()) :
    ∀ product ∈ products, validateDates input product.daily [] = .ok () := by
  induction products generalizing skus with
  | nil => simp
  | cons product products ih =>
    simp only [validateProducts, validateProduct, ok_of_bind, ensure_eq_ok, exists_const] at h
    obtain ⟨-, -, ⟨-, _, hdates, -⟩, hrest⟩ := h
    rw [List.forall_mem_cons]
    exact ⟨hdates, ih hrest⟩

theorem datesValid_of_validate {input : ShadowInput} (h : validate input = .ok ()) :
    DatesValid input := by
  simp only [validate, validateScope, ok_of_bind, ok_of_pure, ensure_eq_ok, exists_const] at h
  obtain ⟨-, days, ⟨⟨-, -, -, -, -, hwindow, hobserved, -⟩, -⟩, _, -, -, -, hproducts⟩ := h
  exact ⟨hwindow, hobserved, validateProducts_eq_ok hproducts⟩

/-! ## Observations -/

theorem addSnapshotDates_get {snapshot : CompleteSnapshot Value} {dates dates' : BTreeMap ℤ ℤ}
    (h : addSnapshotDates bundle snapshot dates = .ok dates') (x : ℤ) :
    (Covers snapshot x → dates'[x]? = some snapshot.envelope.observedFrom) ∧
      (¬ Covers snapshot x → dates'[x]? = dates[x]?) := by
  simp only [addSnapshotDates, ok_of_bind, ensure_eq_ok, exists_const] at h
  obtain ⟨period, hperiod, -, h⟩ := h
  have hle := periodDates_le hperiod
  rw [(insertDates_ok h).1 x]
  refine ⟨fun hx => ?_, fun hx => ?_⟩
  · obtain ⟨period', hperiod', hx⟩ := hx
    rw [hperiod, Except.ok.injEq] at hperiod'
    subst hperiod'
    exact if_pos (by omega)
  · refine if_neg fun hin => hx ⟨period, hperiod, by omega, by omega⟩

/-- What has been observed when: a covered date with its snapshot, the whole input with the latest
one. -/
structure Observed (snapshots : List (CompleteSnapshot Value)) (evidence : AdvertisingEvidence) :
    Prop where
  date : ∀ snapshot ∈ snapshots, ∀ x, Covers snapshot x →
    evidence.observedDates[x]? = some snapshot.envelope.observedFrom
  latest : ∀ observedAt, evidence.globalObservedAt = some observedAt →
    (∃ snapshot ∈ snapshots, snapshot.envelope.observedFrom = observedAt) ∧
      ∀ snapshot ∈ snapshots, snapshot.envelope.observedFrom ≤ observedAt
  none : evidence.globalObservedAt = none → snapshots = []

theorem observed_of_advertisingEvidence {selected : List ℕ}
    {advertising : BTreeMap ℤ (CompleteSnapshot Value)} {refs : BTreeMap String Unit}
    {evidence : AdvertisingEvidence}
    (h : advertisingEvidence codec bundle selected advertising refs = .ok evidence) :
    Observed (advertising.toList.map Prod.snd) evidence := by
  have hok := advertisingEvidence_ok h
  refine foldlM_invariant (P := fun snapshots evidence => snapshots.Pairwise
    (fun s t => ∀ x, Covers s x → ¬ Covers t x) → Observed snapshots evidence) ?_ ?_ h hok.disjoint
  · exact fun _ => ⟨by simp, by simp, fun _ => rfl⟩
  · intro done before snapshot after hinv hstep hdisjoint
    simp only [addAdvertisingSnapshot, ok_of_bind, ok_of_pure] at hstep
    obtain ⟨dates, hdates, period, -, facts, -, rfl⟩ := hstep
    obtain ⟨hdone, -, hnew⟩ := List.pairwise_append.mp hdisjoint
    have hbefore := hinv hdone
    refine ⟨fun s hs x hx => ?_, fun observedAt hobserved => ?_, fun hnone => ?_⟩
    · obtain ⟨hin, hout⟩ := addSnapshotDates_get hdates x
      rcases List.mem_append.mp hs with hs | hs
      · have hnot := hnew s hs snapshot (List.mem_singleton_self _) x hx
        exact (hout hnot).trans (hbefore.date s hs x hx)
      · rw [List.mem_singleton] at hs
        exact hs ▸ hin (hs ▸ hx)
    · rw [Option.some.injEq] at hobserved
      cases hglobal : before.globalObservedAt with
      | none =>
        rw [hglobal, Option.elim_none] at hobserved
        rw [hbefore.none hglobal, List.nil_append]
        simp [hobserved]
      | some time =>
        rw [hglobal, Option.elim_some] at hobserved
        obtain ⟨⟨latest, hmem, hlatest⟩, hbound⟩ := hbefore.latest time hglobal
        subst hobserved
        refine ⟨?_, ?_⟩
        · rcases max_choice time snapshot.envelope.observedFrom with hmax | hmax
          · exact ⟨latest, List.mem_append_left _ hmem, hlatest.trans hmax.symm⟩
          · exact ⟨snapshot, List.mem_append_right _ (List.mem_singleton_self _), hmax.symm⟩
        · rw [List.forall_mem_append, List.forall_mem_singleton]
          exact ⟨fun s hs => (hbound s hs).trans (le_max_left _ _), le_max_right _ _⟩
    · cases hnone

theorem observedAt_of_prepareProducts {days : ℤ} {observedDates : BTreeMap ℤ ℤ}
    {stockBySku : BTreeMap ℕ StockEvidence} {init prepared : PreparedProducts}
    {products : List PreparationProduct} (hinit : init.products = [])
    (h : products.foldlM (prepareProduct bundle days observedDates stockBySku) init =
      .ok prepared) :
    ∀ evidence ∈ prepared.products, ∀ day ∈ evidence.daily,
      day.observedAt = observedDates[day.date]? := by
  refine foldlM_invariant (P := fun _ prepared => ∀ evidence ∈ prepared.products,
    ∀ day ∈ evidence.daily, day.observedAt = observedDates[day.date]?) (by simp [hinit]) ?_ h
  intro done before product after hinv hstep
  simp only [prepareProduct, ok_of_bind, ok_of_pure] at hstep
  obtain ⟨scope, -, totals, -, pairs, -, daily, hdaily, rfl⟩ := hstep
  rw [List.forall_mem_append, List.forall_mem_singleton]
  refine ⟨hinv, fun day hday => ?_⟩
  obtain ⟨total, -, htotal⟩ := exists_of_mem_mapM hdaily day hday
  simp only [observeDay, ok_of_bind, context_eq_ok, ok_of_pure] at htotal
  obtain ⟨observed, hobserved, rfl⟩ := htotal
  exact hobserved.symm

variable [DecidableEq Value]

theorem observedFrom_le_asOf {source : SnapshotSource} {pages : List (SnapshotPage Value)}
    {complete : BTreeMap ℤ (CompleteSnapshot Value)}
    (h : completeSnapshots codec bundle source pages = .ok complete) {id : ℤ}
    {snapshot : CompleteSnapshot Value} (hget : complete[id]? = some snapshot) :
    snapshot.envelope.observedFrom ≤ bundle.asOf := by
  obtain ⟨groups, hgroups, hin, hout⟩ := completeSnapshots_ok h
  cases hgroup : groups[id]? with
  | none =>
    rw [hout id hgroup] at hget
    cases hget
  | some group =>
    obtain ⟨snapshot', hsnap, hget'⟩ := hin id group hgroup
    rw [hget, Option.some.injEq] at hget'
    subst hget'
    simp only [assembleSnapshot, ok_of_bind, context_eq_ok, ok_of_pure] at hsnap
    obtain ⟨first, hfirst, rows, -, -, -, rfl⟩ := hsnap
    have hmem : (0, first) ∈ (groups[id]?.getD ∅).toList := by
      rw [hgroup]
      exact ExtTreeMap.mem_toList_iff_getElem?_eq_some.mpr hfirst
    rw [(group_perm hgroups id).mem_iff, List.mem_filterMap] at hmem
    obtain ⟨page, -, hpage⟩ := hmem
    unfold pageOf at hpage
    split at hpage
    · rename_i decoded hdecoded
      simp only [Option.ite_none_right_eq_some, Option.some.injEq, Prod.mk.injEq] at hpage
      simp only [decodeSnapshotPage, ok_of_bind, ensure_eq_ok, context_eq_ok, ok_of_pure] at hdecoded
      obtain ⟨envelope, -, _, -, -, ⟨-, -, -, -, -, -, -, -, -, hsource, hobserved, -⟩, -, -, -, -,
        rfl⟩ := hdecoded
      rw [← hpage.2.2]
      exact hobserved.trans hsource
    · cases hpage

/-! ## Drafts -/

/-- The input of a preparation before the optimizer validates it. -/
def draft (codec : Codec Value) (digest : String) (bundle : PreparationBundle Value) :
    Except PrepareError ShadowInput := do
  let days := bundle.windowEnd - bundle.windowStart + 1
  ensure (bundle.version = 1 ∧ 0 < days) .invalidBundle
  ensure (days ≤ maxWindowDays ∧ bundle.products ≠ [] ∧ bundle.products.length ≤ maxProducts)
    .limitExceeded
  ensure (codec.bundleBytes bundle ≤ maxPreparationBytes) .limitExceeded
  let refs : BTreeMap String Unit := (∅ : BTreeMap String Unit).insert
    ("prepare-bundle-sha256:" ++ digest) ()
  let advertising ← completeSnapshots codec bundle .advertising bundle.advertisingPages
  ensure (advertising.toList ≠ []) .incompleteSnapshot
  let stocks ← completeSnapshots codec bundle .stocks bundle.stockPages
  ensure (stocks.size ≤ 1 ∧ ∀ id ∈ stocks.keys, advertising[id]?.isNone) .invalidSnapshot
  let selected : List ℕ := bundle.products.map fun product => product.sku
  ensure selected.Nodup .invalidBundle
  let evidence ← advertisingEvidence codec bundle selected advertising refs
  let stock ← stockEvidence codec selected stocks evidence.refs
  let refs := stocks.toList.foldl (fun refs entry => refs.insert entry.2.reference ()) stock.2
  let prepared ← bundle.products.foldlM
    (prepareProduct bundle days evidence.observedDates stock.1)
    ⟨refs, evidence.adFacts, evidence.observedDates.size == days.toNat, []⟩
  let observedAt ← context evidence.globalObservedAt .incompleteSnapshot
  return {
    version := 1
    sourceRefs := prepared.refs.keys
    accountId := bundle.accountId
    asOf := bundle.asOf
    observedAt := observedAt
    windowStart := bundle.windowStart
    windowEnd := bundle.windowEnd
    coverageComplete := prepared.coverageComplete
    objective := bundle.objective
    policy := bundle.policy
    products := prepared.products }

/-- A preparation is a validated draft. -/
theorem prepareWith_eq_draft (digest : String) : prepareWith codec digest bundle = (do
    let input ← draft codec digest bundle
    (validate input).mapError .optimizer
    ensure (codec.inputBytes input ≤ maxInputBytes) .limitExceeded
    return input) := by
  simp only [prepareWith, draft, bind_assoc, pure_bind]

theorem datesValid_of_prepareWith {digest : String} {input : ShadowInput}
    (h : prepareWith codec digest bundle = .ok input) :
    draft codec digest bundle = .ok input ∧ DatesValid input := by
  simp only [prepareWith_eq_draft, ok_of_bind, ok_of_mapError, ok_of_pure] at h
  obtain ⟨drafted, hdraft, _, hvalid, _, -, rfl⟩ := h
  exact ⟨hdraft, datesValid_of_validate hvalid⟩

/-- A row of one of the prepared products and its confirmed campaigns on the last day of a
snapshot. -/
def RowOnLastDay (codec : Codec Value) (bundle : PreparationBundle Value)
    (snapshot : CompleteSnapshot Value) : Prop :=
  ∃ product ∈ bundle.products, ∃ row ∈ rowsOf codec snapshot, row.sku = product.sku ∧
    row.campaignId ∈ product.cpcScope.campaignIds ∧
    row.businessDate = businessDate (snapshot.envelope.periodEnd - 1)

/-- The observations are late enough for both calendars: some snapshot is observed five hours or
more after the window has ended, and so is every snapshot with a row on its last day after its own
period. -/
structure ObservedInTime (codec : Codec Value) (bundle : PreparationBundle Value)
    (advertising : BTreeMap ℤ (CompleteSnapshot Value)) : Prop where
  window : ∃ (id : ℤ) (snapshot : CompleteSnapshot Value), advertising[id]? = some snapshot ∧
    endOfDay bundle.windowEnd + seconds (5 * 3600) ≤ snapshot.envelope.observedFrom
  rows : ∀ (id : ℤ) (snapshot : CompleteSnapshot Value), advertising[id]? = some snapshot →
    RowOnLastDay codec bundle snapshot →
      snapshot.envelope.periodEnd + seconds (5 * 3600) ≤ snapshot.envelope.observedFrom

omit [DecidableEq Value] in
/-- A covered day has ended in UTC unless it is the last one and just observed. -/
theorem lt_dateNaive_observedFrom_iff {snapshot : CompleteSnapshot Value} {date : ℤ}
    (h : Covers snapshot date) : date < dateNaive snapshot.envelope.observedFrom ↔
      (date = businessDate (snapshot.envelope.periodEnd - 1) →
        snapshot.envelope.periodEnd + seconds (5 * 3600) ≤ snapshot.envelope.observedFrom) := by
  obtain ⟨period, hperiod, -, hle⟩ := h
  simp only [CompleteSnapshot.periodDates, ok_of_bind, ensure_eq_ok, ok_of_pure, exists_const]
    at hperiod
  obtain ⟨⟨-, -, hmidnight, hobserved⟩, rfl⟩ := hperiod
  have hend := endOfDay_businessDate hmidnight
  replace hle : date ≤ businessDate (snapshot.envelope.periodEnd - 1) := hle
  rw [lt_dateNaive_iff]
  rcases lt_or_eq_of_le hle with hlt | heq
  · have := endOfDay_lt hlt
    exact iff_of_true (by omega) fun heq => absurd heq hlt.ne
  · rw [heq, hend]
    exact ⟨fun h _ => h, fun h => h rfl⟩

omit [DecidableEq Value] in
theorem mem_matchingRows {snapshots : List (CompleteSnapshot Value)} {product : PreparationProduct}
    {date : ℤ} : matchingRows (publishedRows codec snapshots) product date ≠ [] ↔
      ∃ snapshot ∈ snapshots, ∃ row ∈ rowsOf codec snapshot, row.sku = product.sku ∧
        row.businessDate = date ∧ row.campaignId ∈ product.cpcScope.campaignIds := by
  constructor
  · intro hne
    obtain ⟨row, hrow⟩ := List.exists_mem_of_ne_nil _ hne
    simp only [matchingRows, publishedRows, List.mem_filter, List.mem_flatMap,
      decide_eq_true_eq] at hrow
    obtain ⟨⟨snapshot, hmem, hrow⟩, hprops⟩ := hrow
    exact ⟨snapshot, hmem, row, hrow, hprops⟩
  · rintro ⟨snapshot, hmem, row, hrow, hprops⟩
    refine List.ne_nil_of_mem (a := row) (List.mem_filter.mpr ⟨?_, decide_eq_true hprops⟩)
    exact List.mem_flatMap.mpr ⟨snapshot, hmem, hrow⟩

omit [DecidableEq Value] in
theorem covers_of_mem_rowsOf {snapshot : CompleteSnapshot Value} {row : AdvertisingRow}
    (hin : RowsIn codec snapshot snapshot.rows) (hrow : row ∈ rowsOf codec snapshot) :
    Covers snapshot row.businessDate := by
  obtain ⟨value, hvalue, hdecode⟩ := List.mem_filterMap.mp hrow
  obtain ⟨row', hrow', -, hcovers⟩ := hin value hvalue
  rw [hdecode, Option.some.injEq] at hrow'
  exact hrow' ▸ hcovers

omit [DecidableEq Value] in
theorem exists_of_forall₂ {α β : Type} {R : α → β → Prop} {l : List α} {l' : List β}
    (h : List.Forall₂ R l l') {a : α} (ha : a ∈ l) : ∃ b ∈ l', R a b := by
  induction h with
  | nil => cases ha
  | @cons a' b' l l' hab _ ih =>
    rcases List.mem_cons.mp ha with rfl | ha
    · exact ⟨b', List.mem_cons_self, hab⟩
    · obtain ⟨b, hb, hR⟩ := ih ha
      exact ⟨b, List.mem_cons_of_mem _ hb, hR⟩

/-- **When a drafted input meets the date rules of the optimizer.** -/
theorem datesValid_draft_iff {digest : String} {input : ShadowInput}
    {advertising : BTreeMap ℤ (CompleteSnapshot Value)}
    (hadvertising : completeSnapshots codec bundle .advertising bundle.advertisingPages =
      .ok advertising)
    (hdraft : draft codec digest bundle = .ok input) :
    DatesValid input ↔ ObservedInTime codec bundle advertising := by
  simp only [draft, ok_of_bind, ensure_eq_ok, context_eq_ok, ok_of_pure, exists_const,
    hadvertising, Except.ok.injEq] at hdraft
  obtain ⟨-, -, -, advertising', rfl, -, stocks, hstocks, -, hnodup, evidence, hevidence, stock,
    hstock, prepared, hprepared, observedAt, hobservedAt, rfl⟩ := hdraft
  have hev := advertisingEvidence_ok hevidence
  have hobs := observed_of_advertisingEvidence hevidence
  obtain ⟨htotals, -⟩ := prepareProducts_ok hnodup
    (fun product hproduct => hev.facts _ (List.mem_map_of_mem hproduct)) rfl hprepared
  have hdays := observedAt_of_prepareProducts rfl hprepared
  obtain ⟨⟨last, hlast, hlastAt⟩, hbound⟩ := hobs.latest observedAt hobservedAt
  -- the observation of a day with a row is the one of the snapshot of the row
  have hday : ∀ evidence ∈ prepared.products, ∀ day ∈ evidence.daily,
      ∀ snapshot ∈ advertising.toList.map Prod.snd, Covers snapshot day.date →
        day.observedAt.getD observedAt = snapshot.envelope.observedFrom := by
    intro evidence hevidence day hday snapshot hsnapshot hcovers
    rw [hdays evidence hevidence day hday, hobs.date snapshot hsnapshot _ hcovers]
    rfl
  constructor
  · intro hvalid
    refine ⟨?_, fun id snapshot hget hlastDay => ?_⟩
    · obtain ⟨id, hget⟩ := mem_snapshots.mp hlast
      refine ⟨id, last, hget, ?_⟩
      rw [hlastAt]
      exact lt_dateNaive_iff.mp hvalid.window
    · obtain ⟨product, hproduct, row, hrow, hsku, hcampaign, hdate⟩ := hlastDay
      have hsnapshot := mem_snapshots.mpr ⟨id, hget⟩
      have hcovers := covers_of_mem_rowsOf (hev.rows snapshot hsnapshot) hrow
      obtain ⟨evidence', hmem, hdaily⟩ := exists_of_forall₂ htotals hproduct
      have hin := (hdaily.dates row.businessDate).mpr
        (mem_matchingRows.mpr ⟨snapshot, hsnapshot, row, hrow, hsku, rfl, hcampaign⟩)
      obtain ⟨day, hdayMem, hdayDate⟩ := List.mem_map.mp hin
      have hrule := ((validateDates_eq_ok.mp (hvalid.daily evidence' hmem)).1 day hdayMem).2.2.1
      rw [hday evidence' hmem day hdayMem snapshot hsnapshot (hdayDate ▸ hcovers), hdayDate] at hrule
      exact (lt_dateNaive_observedFrom_iff hcovers).mp hrule hdate
  · intro htime
    obtain ⟨id, snapshot, hget, hwindow⟩ := htime.window
    refine ⟨?_, ?_, fun evidence' hmem => ?_⟩
    · exact lt_dateNaive_iff.mpr (hwindow.trans (hbound snapshot (mem_snapshots.mpr ⟨id, hget⟩)))
    · obtain ⟨id', hget'⟩ := mem_snapshots.mp hlast
      exact hlastAt ▸ observedFrom_le_asOf hadvertising hget'
    · obtain ⟨product, hproduct, hdaily⟩ := exists_of_forall₂ htotals.flip hmem
      refine validateDates_eq_ok.mpr ⟨fun day hdayMem => ?_, by simp, hdaily.once⟩
      have hmatching := (hdaily.dates day.date).mp (List.mem_map_of_mem hdayMem)
      obtain ⟨snapshot', hsnapshot, row, hrow, hsku, hdate, hcampaign⟩ :=
        mem_matchingRows.mp hmatching
      have hcovers := covers_of_mem_rowsOf (hev.rows snapshot' hsnapshot) hrow
      rw [hdate] at hcovers
      have hin := hev.window snapshot' hsnapshot day.date hcovers
      have hobserved := hday evidence' hmem day hdayMem snapshot' hsnapshot hcovers
      refine ⟨hin.1, hin.2, ?_, ?_⟩
      · show day.date < dateNaive (day.observedAt.getD observedAt)
        rw [hobserved, lt_dateNaive_observedFrom_iff hcovers]
        intro hlastDay
        obtain ⟨id', hget'⟩ := mem_snapshots.mp hsnapshot
        exact htime.rows id' snapshot' hget'
          ⟨product, hproduct, row, hrow, hsku, hcampaign, hdate.trans hlastDay⟩
      · show day.observedAt.getD observedAt ≤ observedAt
        rw [hobserved]
        exact hbound snapshot' hsnapshot

/-! ## A day observed after local midnight -/

/-- A snapshot of the date 19990 with one row, first observed at `observed`. -/
def oneDayPage (observed : ℤ) : SnapshotEnvelope ℕ where
  accountId := "ozon_account"
  marketplace := "ozon"
  source := "advertising"
  storage := "published_postgresql_snapshots"
  state := "available"
  dataState := "available"
  quality := some "complete"
  paginationComplete := some true
  snapshotId := "7"
  cutoffAt := observed
  sourceAsOf := observed
  observedFrom := observed
  periodStart := seconds (19990 * 86400 - yekaterinburg)
  periodEnd := seconds (19991 * 86400 - yekaterinburg)
  totalRows := 1
  rows := [1]
  nextOffset := none

/-- Document 0 is the page, document 1 its row. -/
def oneDayCodec (observed : ℤ) : Codec ℕ where
  envelope value := if value = 0 then some (oneDayPage observed) else none
  advertisingRow value := if value = 1 then
    some ⟨⟨"ozon_account", "ozon", "advertising", 7, observed, observed, "succeeded", true⟩,
      19990, 11, 5, "RUB", 100, 10, 200, 1, 900⟩
    else none
  stockRow _ := none
  bundleBytes bundle := bundle.advertisingPages.length
  digest _ := "digest"
  inputBytes _ := 0
  bundleBytes_perm := @length_advertisingPages ℕ

/-- The bundle of this snapshot, prepared as soon as it is observed. -/
def oneDayBundle (observed : ℤ) : PreparationBundle ℕ where
  version := 1
  accountId := "ozon_account"
  asOf := observed
  windowStart := 19990
  windowEnd := 19990
  objective := .expectedEconomics
  policy := ⟨100, 1, 1, 1, 1, 24, 90, 24, 0, 1000, 1000, 1⟩
  products := [⟨5, 100, 500, none, none, ⟨[11], "operator:scope", observed, true⟩⟩]
  advertisingPages := [⟨0, 0⟩]
  stockPages := []

/-- One hour after local midnight the day is closed for its snapshot and open for the optimizer. -/
theorem draft_after_midnight :
    ∃ input, draft (oneDayCodec (endOfDay 19990 + seconds 3600)) "digest"
        (oneDayBundle (endOfDay 19990 + seconds 3600)) = .ok input ∧
      ¬ input.windowEnd < dateNaive input.observedAt ∧ ¬ DatesValid input ∧
      prepare (oneDayCodec (endOfDay 19990 + seconds 3600))
        (oneDayBundle (endOfDay 19990 + seconds 3600)) = .error (.optimizer .invalidInput) := by
  refine ⟨_, rfl, ?_, ?_, rfl⟩
  · decide
  · intro hvalid
    exact absurd hvalid.window (by decide)

/-- Four hours later the same day is closed on both calendars. -/
theorem observedInTime_five_hours_after_midnight :
    ∃ input advertising,
      prepare (oneDayCodec (endOfDay 19990 + seconds (5 * 3600)))
        (oneDayBundle (endOfDay 19990 + seconds (5 * 3600))) = .ok input ∧
      DatesValid input ∧ ObservedInTime (oneDayCodec (endOfDay 19990 + seconds (5 * 3600)))
        (oneDayBundle (endOfDay 19990 + seconds (5 * 3600))) advertising := by
  have hprepare : ∃ input, prepare (oneDayCodec (endOfDay 19990 + seconds (5 * 3600)))
      (oneDayBundle (endOfDay 19990 + seconds (5 * 3600))) = .ok input := ⟨_, rfl⟩
  have hcomplete : ∃ advertising, completeSnapshots
      (oneDayCodec (endOfDay 19990 + seconds (5 * 3600)))
      (oneDayBundle (endOfDay 19990 + seconds (5 * 3600))) .advertising
      (oneDayBundle (endOfDay 19990 + seconds (5 * 3600))).advertisingPages = .ok advertising :=
    ⟨_, rfl⟩
  obtain ⟨input, hinput⟩ := hprepare
  obtain ⟨advertising, hadvertising⟩ := hcomplete
  obtain ⟨hdraft, hvalid⟩ := datesValid_of_prepareWith hinput
  exact ⟨input, advertising, hinput, hvalid, (datesValid_draft_iff hadvertising hdraft).mp hvalid⟩

end AdsControl.Optimizer
