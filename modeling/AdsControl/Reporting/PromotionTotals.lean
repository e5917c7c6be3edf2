import AdsControl.Reporting.PromotionStats

/-!
# Promotion statistics are conserved

A response is a list of rows, and each row is added to its product. The result therefore depends only on
which rows there are, and every counter of a campaign on a day is the sum over its rows.

* `readRow`, `sourceRows`: the rows of a response;
* `publishedRows`: the rows that are added up, **`parsePromotionStats_eq_ok`**;
* `SameSums`, **`sourceRows_of_publishedRows`**: a day published as one row counts like its products;
* `Agree`, **`publishedRows_rearranged`**: the order of campaigns, days, apps and products;
* **`promotion_stats_conserved`**: the result.
-/

namespace AdsControl.Reporting

open Document Fallible Machine OrderedMap Std Tally WbAdapter

/-! ## Counters -/

namespace AdvertisingTotals

instance : Zero AdvertisingTotals := ⟨{}⟩

instance : Add AdvertisingTotals where
  add a b := {
    impressions := a.impressions + b.impressions
    clicks := a.clicks + b.clicks
    spendMinor := a.spendMinor + b.spendMinor
    orders := a.orders + b.orders
    revenueMinor := a.revenueMinor + b.revenueMinor }

@[simp] theorem impressions_add (a b : AdvertisingTotals) :
    (a + b).impressions = a.impressions + b.impressions := rfl
@[simp] theorem clicks_add (a b : AdvertisingTotals) : (a + b).clicks = a.clicks + b.clicks := rfl
@[simp] theorem spendMinor_add (a b : AdvertisingTotals) :
    (a + b).spendMinor = a.spendMinor + b.spendMinor := rfl
@[simp] theorem orders_add (a b : AdvertisingTotals) : (a + b).orders = a.orders + b.orders := rfl
@[simp] theorem revenueMinor_add (a b : AdvertisingTotals) :
    (a + b).revenueMinor = a.revenueMinor + b.revenueMinor := rfl

instance : AddCommMonoid AdvertisingTotals where
  add_assoc a b c := AdvertisingTotals.ext (add_assoc ..) (add_assoc ..) (add_assoc ..) (add_assoc ..)
    (add_assoc ..)
  zero_add a := AdvertisingTotals.ext (zero_add _) (zero_add _) (zero_add _) (zero_add _) (zero_add _)
  add_zero a := rfl
  add_comm a b := AdvertisingTotals.ext (add_comm ..) (add_comm ..) (add_comm ..) (add_comm ..) (add_comm ..)
  nsmul := nsmulRec

instance : IsRightCancelAdd AdvertisingTotals where
  add_right_cancel a b c h := by
    obtain ⟨himpressions, hclicks, hspend, horders, hrevenue⟩ := AdvertisingTotals.ext_iff.mp h
    exact AdvertisingTotals.ext (Nat.add_right_cancel himpressions) (Nat.add_right_cancel hclicks)
      (Nat.add_right_cancel hspend) (Nat.add_right_cancel horders) (Nat.add_right_cancel hrevenue)

/-- Every counter fits 64 bits. -/
def Fits (a : AdvertisingTotals) : Prop :=
  a.impressions < 2 ^ 64 ∧ a.clicks < 2 ^ 64 ∧ a.spendMinor < 2 ^ 64 ∧ a.orders < 2 ^ 64 ∧
    a.revenueMinor < 2 ^ 64

theorem Fits.of_add {a b : AdvertisingTotals} (h : (a + b).Fits) : a.Fits := by
  obtain ⟨himpressions, hclicks, hspend, horders, hrevenue⟩ := h
  exact ⟨(Nat.le_add_right ..).trans_lt himpressions, (Nat.le_add_right ..).trans_lt hclicks,
    (Nat.le_add_right ..).trans_lt hspend, (Nat.le_add_right ..).trans_lt horders,
    (Nat.le_add_right ..).trans_lt hrevenue⟩

theorem checkedCounter_eq_ok {a b c : ℕ} : checkedCounter a b = .ok c ↔ c = a + b ∧ a + b < 2 ^ 64 := by
  rw [checkedCounter, context_eq_ok, checkedAdd_eq_some]
  exact and_congr_right fun h => by rw [h]

theorem merge_eq_ok {a b c : AdvertisingTotals} : a.merge b = .ok c ↔ c = a + b ∧ (a + b).Fits := by
  simp only [merge, ok_of_bind, ok_of_pure, checkedCounter_eq_ok]
  constructor
  · rintro ⟨_, ⟨rfl, h1⟩, _, ⟨rfl, h2⟩, _, ⟨rfl, h3⟩, _, ⟨rfl, h4⟩, _, ⟨rfl, h5⟩, rfl⟩
    exact ⟨rfl, h1, h2, h3, h4, h5⟩
  · rintro ⟨rfl, h1, h2, h3, h4, h5⟩
    exact ⟨_, ⟨rfl, h1⟩, _, ⟨rfl, h2⟩, _, ⟨rfl, h3⟩, _, ⟨rfl, h4⟩, _, ⟨rfl, h5⟩, rfl⟩

end AdvertisingTotals

open AdvertisingTotals

/-- Counters of a product of a campaign on a day. -/
abbrev AdvertisingEntry : Type := AdvertisingKey × AdvertisingTotals

theorem mergeEntry_eq : mergeEntry = gatherM Prod.fst (0 : AdvertisingTotals) fun b e => b.merge e.2 := rfl

section Entries

variable {entries entries' : List AdvertisingEntry} {totals : AdvertisingMap}

theorem foldlM_mergeEntry (h : entries.foldlM mergeEntry ∅ = .ok totals) :
    totals = entries.foldl (gather Prod.fst 0 fun b e => b + e.2) ∅ :=
  foldl_of_foldlM_gatherM (fun _ _ _ => merge_eq_ok) h

theorem foldlM_mergeEntry_perm (h : entries.Perm entries') :
    entries.foldlM mergeEntry ∅ = .ok totals ↔ entries'.foldlM mergeEntry ∅ = .ok totals := by
  have hempty : ∀ k : AdvertisingKey, ((∅ : AdvertisingMap)[k]?.getD 0).Fits := fun k => by
    rw [ExtTreeMap.getElem?_empty]
    exact ⟨by decide, by decide, by decide, by decide, by decide⟩
  rw [mergeEntry_eq]
  exact foldlM_gatherM_perm (fun _ _ _ => merge_eq_ok) (fun _ _ => Fits.of_add)
    (fun b a a' => add_right_comm b a.2 a'.2) hempty h

end Entries
/-! ## Rows -/

section Reading

variable (parseDate : String → Option ℤ)

/-- The counters of a row. -/
def readRow (row : List (String × Document)) (dateValue : Document) (campaignId sku : ℕ) :
    Except WbReportParseError AdvertisingEntry := do
  let businessDate ← date parseDate dateValue
  let impressions ← unsigned (← field row "views")
  let clicks ← unsigned (← field row "clicks")
  let spendMinor ← minor (amount (← field row "sum"))
  let orders ← unsigned (← field row "orders")
  let revenueMinor ← minor (amount (← revenueField row))
  return (toLex (businessDate, toLex (campaignId, sku)),
    { impressions, clicks, spendMinor, orders, revenueMinor })

/-- The row of a day. -/
def dayRow (day : List (String × Document)) (campaignId : ℕ) :
    Except WbReportParseError AdvertisingEntry := do
  readRow parseDate day (← field day "date") campaignId 0

/-- The row of a product on a day. -/
def productRow (day : List (String × Document)) (campaignId : ℕ) (row : List (String × Document)) :
    Except WbReportParseError AdvertisingEntry := do
  let sku ← unsigned (← field row "nmId")
  ensurePositive sku
  readRow parseDate row (← field day "date") campaignId sku

/-- The row of a product in the legacy shape. -/
def statsRow (campaignId : ℕ) (row : Document) : Except WbReportParseError AdvertisingEntry := do
  let row ← object row
  let sku ← optionalUnsigned (row.lookup "nm_id")
  readRow parseDate row (← field row "date") campaignId (sku.getD 0)

/-- **The rows of a day**: its products if there are any, the day itself otherwise. -/
def dayRows (day : List (String × Document)) (campaignId : ℕ) :
    Except WbReportParseError (List AdvertisingEntry) := do
  let productRows ← campaignDayProductRows day
  if productRows.isEmpty then (dayRow parseDate day campaignId).map fun row => [row]
  else productRows.mapM (productRow parseDate day campaignId)

/-- The products of a day as they are published. -/
def publishedProducts (day : List (String × Document)) (campaignId : ℕ)
    (productRows : List (List (String × Document))) : Except WbReportParseError AdvertisingMap := do
  let products ← productRows.foldlM (addProductRow parseDate day campaignId) ∅
  reconcileProducts parseDate day campaignId products

/-- What is published of a day. -/
def publishedDay (day : List (String × Document)) (campaignId : ℕ) :
    Except WbReportParseError (List AdvertisingEntry) := do
  let productRows ← campaignDayProductRows day
  if productRows.isEmpty then (dayRow parseDate day campaignId).map fun row => [row]
  else (publishedProducts parseDate day campaignId productRows).map AdvertisingMap.entries

section Response

variable (rowsOf : List (String × Document) → ℕ → Except WbReportParseError (List AdvertisingEntry))

/-- The rows of a campaign, given those of a day. -/
def rowsOfCampaign (campaign : List (String × Document)) (campaignId : ℕ) :
    Except WbReportParseError (List AdvertisingEntry) :=
  match campaign.lookup "days", campaign.lookup "stats" with
  | some days, _ => do
    let rows ← (← array days).mapM fun day => do rowsOf (← object day) campaignId
    return rows.flatten
  | none, some stats => do (← array stats).mapM (statsRow parseDate campaignId)
  | none, none => .error .shape

/-- The rows of a campaign. -/
def campaignRows (campaign : Document) : Except WbReportParseError (List AdvertisingEntry) := do
  let campaign ← object campaign
  rowsOfCampaign parseDate rowsOf campaign (← campaignIdOf campaign)

/-- The rows of all campaigns, given those of a day. -/
def responseRows (response : Document) : Except WbReportParseError (List AdvertisingEntry) :=
  if response.isNull then .ok []
  else do
    let rows ← (← array response).mapM (campaignRows parseDate rowsOf)
    return rows.flatten

end Response

/-- **The rows of a response.** -/
def sourceRows : Document → Except WbReportParseError (List AdvertisingEntry) :=
  responseRows parseDate (dayRows parseDate)

/-- What is published of a response. -/
def publishedRows : Document → Except WbReportParseError (List AdvertisingEntry) :=
  responseRows parseDate (publishedDay parseDate)

/-! ## Rows are added -/

variable {row day : List (String × Document)} {dateValue : Document} {campaignId sku : ℕ}
  {totals totals' : AdvertisingMap}

theorem addAdvertisingRowWithDate_eq_ok :
    addAdvertisingRowWithDate parseDate row dateValue campaignId sku totals = .ok totals' ↔
      ∃ entry, readRow parseDate row dateValue campaignId sku = .ok entry ∧
        mergeEntry totals entry = .ok totals' := by
  simp only [addAdvertisingRowWithDate, readRow, mergeEntry, merge, ok_of_bind, ok_of_pure]
  constructor
  · rintro ⟨d, hd, f1, hf1, x1, hx1, v, hv, f2, hf2, x2, hx2, c, hc, f3, hf3, x3, hx3, s, hs,
      f4, hf4, x4, hx4, o, ho, f5, hf5, x5, hx5, r, hr, rfl⟩
    exact ⟨_, ⟨d, hd, f1, hf1, x1, hx1, f2, hf2, x2, hx2, f3, hf3, x3, hx3, f4, hf4, x4, hx4,
      f5, hf5, x5, hx5, rfl⟩, _, ⟨v, hv, c, hc, s, hs, o, ho, r, hr, rfl⟩, rfl⟩
  · rintro ⟨_, ⟨d, hd, f1, hf1, x1, hx1, f2, hf2, x2, hx2, f3, hf3, x3, hx3, f4, hf4, x4, hx4,
      f5, hf5, x5, hx5, rfl⟩, _, ⟨v, hv, c, hc, s, hs, o, ho, r, hr, rfl⟩, rfl⟩
    exact ⟨d, hd, f1, hf1, x1, hx1, v, hv, f2, hf2, x2, hx2, c, hc, f3, hf3, x3, hx3, s, hs,
      f4, hf4, x4, hx4, o, ho, f5, hf5, x5, hx5, r, hr, rfl⟩

theorem addAdvertisingRow_eq_ok :
    addAdvertisingRow parseDate day campaignId 0 totals = .ok totals' ↔
      ∃ entry, dayRow parseDate day campaignId = .ok entry ∧ mergeEntry totals entry = .ok totals' := by
  simp only [addAdvertisingRow, dayRow, ok_of_bind, addAdvertisingRowWithDate_eq_ok]
  constructor
  · rintro ⟨d, hd, entry, hentry, h⟩
    exact ⟨entry, ⟨d, hd, hentry⟩, h⟩
  · rintro ⟨entry, ⟨d, hd, hentry⟩, h⟩
    exact ⟨d, hd, entry, hentry, h⟩

theorem addProductRow_eq_ok :
    addProductRow parseDate day campaignId totals row = .ok totals' ↔
      ∃ entry, productRow parseDate day campaignId row = .ok entry ∧
        mergeEntry totals entry = .ok totals' := by
  simp only [addProductRow, productRow, ok_of_bind, addAdvertisingRowWithDate_eq_ok]
  constructor
  · rintro ⟨id, hid, sku, hsku, u, hu, d, hd, entry, hentry, h⟩
    exact ⟨entry, ⟨id, hid, sku, hsku, u, hu, d, hd, hentry⟩, h⟩
  · rintro ⟨entry, ⟨id, hid, sku, hsku, u, hu, d, hd, hentry⟩, h⟩
    exact ⟨id, hid, sku, hsku, u, hu, d, hd, entry, hentry, h⟩

theorem addStatsRow_eq_ok {row : Document} :
    addStatsRow parseDate campaignId totals row = .ok totals' ↔
      ∃ entry, statsRow parseDate campaignId row = .ok entry ∧ mergeEntry totals entry = .ok totals' := by
  simp only [addStatsRow, addAdvertisingRow, statsRow, ok_of_bind, addAdvertisingRowWithDate_eq_ok]
  constructor
  · rintro ⟨fields, hfields, sku, hsku, d, hd, entry, hentry, h⟩
    exact ⟨entry, ⟨fields, hfields, sku, hsku, d, hd, hentry⟩, h⟩
  · rintro ⟨entry, ⟨fields, hfields, sku, hsku, d, hd, hentry⟩, h⟩
    exact ⟨fields, hfields, sku, hsku, d, hd, entry, hentry, h⟩

theorem foldlM_addProductRow {rows : List (List (String × Document))} :
    rows.foldlM (addProductRow parseDate day campaignId) totals = .ok totals' ↔
      ∃ entries, rows.mapM (productRow parseDate day campaignId) = .ok entries ∧
        entries.foldlM mergeEntry totals = .ok totals' :=
  foldlM_reads fun _ _ _ => addProductRow_eq_ok parseDate

theorem parseCampaignDay_eq_ok :
    parseCampaignDay parseDate day campaignId totals = .ok totals' ↔
      ∃ entries, publishedDay parseDate day campaignId = .ok entries ∧
        entries.foldlM mergeEntry totals = .ok totals' := by
  simp only [parseCampaignDay, publishedDay, ok_of_bind]
  constructor
  · rintro ⟨rows, hrows, h⟩
    split_ifs at h with hempty
    · obtain ⟨entry, hentry, hmerge⟩ := (addAdvertisingRow_eq_ok parseDate).mp h
      exact ⟨[entry], ⟨rows, hrows, by rw [if_pos hempty, hentry]; rfl⟩,
        by rw [List.foldlM_cons, hmerge]; rfl⟩
    · obtain ⟨products, hproducts, published, hpublished, hmerge⟩ := by simpa only [ok_of_bind] using h
      refine ⟨published.toList, ⟨rows, hrows, ?_⟩, hmerge⟩
      rw [if_neg hempty, publishedProducts, hproducts]
      exact ok_of_map.mpr ⟨published, hpublished, rfl⟩
  · rintro ⟨entries, ⟨rows, hrows, hentries⟩, h⟩
    refine ⟨rows, hrows, ?_⟩
    split_ifs at hentries ⊢ with hempty
    · obtain ⟨entry, hentry, rfl⟩ := ok_of_map.mp hentries
      rw [List.foldlM_cons, ok_of_bind] at h
      obtain ⟨t, hmerge, hrest⟩ := h
      rw [List.foldlM_nil, ok_of_pure] at hrest
      exact (addAdvertisingRow_eq_ok parseDate).mpr ⟨entry, hentry, hrest ▸ hmerge⟩
    · obtain ⟨published, hpublished, rfl⟩ := ok_of_map.mp hentries
      rw [publishedProducts, ok_of_bind] at hpublished
      obtain ⟨products, hproducts, hreconciled⟩ := hpublished
      exact ok_of_bind.mpr ⟨products, hproducts, ok_of_bind.mpr ⟨published, hreconciled, h⟩⟩

theorem addDay_eq_ok {day : Document} :
    addDay parseDate campaignId totals day = .ok totals' ↔
      ∃ entries, (do publishedDay parseDate (← object day) campaignId) = .ok entries ∧
        entries.foldlM mergeEntry totals = .ok totals' := by
  simp only [addDay, ok_of_bind, parseCampaignDay_eq_ok]
  constructor
  · rintro ⟨fields, hfields, entries, hentries, h⟩
    exact ⟨entries, ⟨fields, hfields, hentries⟩, h⟩
  · rintro ⟨entries, ⟨fields, hfields, hentries⟩, h⟩
    exact ⟨fields, hfields, entries, hentries, h⟩

theorem parseCampaignRows_eq_ok {campaign : List (String × Document)} :
    parseCampaignRows parseDate campaign campaignId totals = .ok totals' ↔
      ∃ entries, rowsOfCampaign parseDate (publishedDay parseDate) campaign campaignId = .ok entries ∧
        entries.foldlM mergeEntry totals = .ok totals' := by
  have hdays : ∀ days : List Document,
      days.foldlM (addDay parseDate campaignId) totals = .ok totals' ↔ ∃ rows,
        (days.mapM fun day => do publishedDay parseDate (← object day) campaignId) = .ok rows ∧
          rows.flatten.foldlM mergeEntry totals = .ok totals' := fun days =>
    foldlM_batches fun _ _ _ => addDay_eq_ok parseDate
  have hstats : ∀ stats : List Document,
      stats.foldlM (addStatsRow parseDate campaignId) totals = .ok totals' ↔
        ∃ rows, stats.mapM (statsRow parseDate campaignId) = .ok rows ∧
          rows.foldlM mergeEntry totals = .ok totals' := fun stats =>
    foldlM_reads fun _ _ _ => addStatsRow_eq_ok parseDate
  cases hshape : campaign.lookup "days" with
  | some days =>
    simp only [parseCampaignRows, rowsOfCampaign, hshape, ok_of_bind, ok_of_pure, hdays]
    constructor
    · rintro ⟨days, hdays, rows, hrows, h⟩
      exact ⟨_, ⟨days, hdays, rows, hrows, rfl⟩, h⟩
    · rintro ⟨_, ⟨days, hdays, rows, hrows, rfl⟩, h⟩
      exact ⟨days, hdays, rows, hrows, h⟩
  | none =>
    cases hlegacy : campaign.lookup "stats" with
    | some stats =>
      simp only [parseCampaignRows, rowsOfCampaign, hshape, hlegacy, ok_of_bind, hstats]
      constructor
      · rintro ⟨stats, hstats, rows, hrows, h⟩
        exact ⟨rows, ⟨stats, hstats, hrows⟩, h⟩
      · rintro ⟨rows, ⟨stats, hstats, hrows⟩, h⟩
        exact ⟨stats, hstats, rows, hrows, h⟩
    | none => simp [parseCampaignRows, rowsOfCampaign, hshape, hlegacy]

theorem parseCampaign_eq_ok {campaign : Document} :
    parseCampaign parseDate totals campaign = .ok totals' ↔
      ∃ entries, campaignRows parseDate (publishedDay parseDate) campaign = .ok entries ∧
        entries.foldlM mergeEntry totals = .ok totals' := by
  simp only [parseCampaign, campaignRows, ok_of_bind, parseCampaignRows_eq_ok]
  constructor
  · rintro ⟨fields, hfields, id, hid, entries, hentries, h⟩
    exact ⟨entries, ⟨fields, hfields, id, hid, hentries⟩, h⟩
  · rintro ⟨entries, ⟨fields, hfields, id, hid, hentries⟩, h⟩
    exact ⟨fields, hfields, id, hid, entries, hentries, h⟩

/-- **A response is its rows, added up.** -/
theorem parsePromotionStats_eq_ok {response : Document} {facts : List CollectedAdvertisingFact} :
    parsePromotionStats parseDate response = .ok facts ↔
      ∃ entries, publishedRows parseDate response = .ok entries ∧ ∃ totals,
        entries.foldlM mergeEntry ∅ = .ok totals ∧ totals.size ≤ maxRows ∧
          totals.toList.mapM advertisingFact = .ok facts := by
  have hcampaigns : ∀ (campaigns : List Document) (totals : AdvertisingMap),
      campaigns.foldlM (parseCampaign parseDate) ∅ = .ok totals ↔ ∃ rows,
        campaigns.mapM (campaignRows parseDate (publishedDay parseDate)) = .ok rows ∧
          rows.flatten.foldlM mergeEntry ∅ = .ok totals := fun campaigns totals =>
    foldlM_batches fun _ _ _ => parseCampaign_eq_ok parseDate
  unfold parsePromotionStats publishedRows responseRows
  split
  · constructor
    · intro h
      exact ⟨[], rfl, ∅, rfl, Nat.zero_le _, by rw [ExtTreeMap.toList_eq_nil_iff.mpr rfl, ← h]; rfl⟩
    · rintro ⟨_, ⟨⟩, _, ⟨⟩, -, h⟩
      rw [ExtTreeMap.toList_eq_nil_iff.mpr rfl] at h
      rw [← h]
      rfl
  · simp only [ok_of_bind, ok_of_pure, hcampaigns, ensure_eq_ok]
    constructor
    · rintro ⟨campaigns, hcampaigns, totals, ⟨rows, hrows, hmerge⟩, _, hsize, h⟩
      exact ⟨_, ⟨campaigns, hcampaigns, rows, hrows, rfl⟩, totals, hmerge, hsize, h⟩
    · rintro ⟨_, ⟨campaigns, hcampaigns, rows, hrows, rfl⟩, totals, hmerge, hsize, h⟩
      exact ⟨campaigns, hcampaigns, totals, ⟨rows, hrows, hmerge⟩, (), hsize, h⟩

end Reading

/-! ## Sums of rows -/

/-- The date of a key. -/
def dayOf (key : AdvertisingKey) : ℤ := (ofLex key).1

/-- The campaign of a key. -/
def campaignOf (key : AdvertisingKey) : ℕ := (ofLex (ofLex key).2).1

/-- The counters of a campaign on a day. -/
def sumOf (date : ℤ) (campaign : ℕ) (entries : List AdvertisingEntry) : AdvertisingTotals :=
  ((entries.filter fun e => dayOf e.1 = date ∧ campaignOf e.1 = campaign).map Prod.snd).sum

/-- Every campaign has the same counters on every day. -/
def SameSums (l l' : List AdvertisingEntry) : Prop :=
  ∀ date campaign, sumOf date campaign l = sumOf date campaign l'

section Sums

variable {date : ℤ} {campaign : ℕ} {entries : List AdvertisingEntry} {totals : AdvertisingMap}

theorem sumOf_append (l l' : List AdvertisingEntry) :
    sumOf date campaign (l ++ l') = sumOf date campaign l + sumOf date campaign l' := by
  rw [sumOf, List.filter_append, List.map_append, List.sum_append, sumOf, sumOf]

theorem SameSums.flatten {ls ls' : List (List AdvertisingEntry)} (h : List.Forall₂ SameSums ls ls') :
    SameSums ls.flatten ls'.flatten := by
  intro date campaign
  induction h with
  | nil => rfl
  | cons h _ ih => rw [List.flatten_cons, List.flatten_cons, sumOf_append, sumOf_append, h, ih]

/-- Added up or not, the sums are the same. -/
theorem sumOf_toList (h : entries.foldlM mergeEntry ∅ = .ok totals) : SameSums totals.toList entries := by
  intro date campaign
  rw [foldlM_mergeEntry h]
  exact sum_filter_foldl_gather (fun key => dayOf key = date ∧ campaignOf key = campaign) entries

theorem sum_toList (h : entries.foldlM mergeEntry ∅ = .ok totals) :
    (totals.toList.map Prod.snd).sum = (entries.map Prod.snd).sum := by
  have htotal : total id (entries.foldl (gather Prod.fst 0 fun b e => b + e.2) (∅ : AdvertisingMap)) =
      total id (∅ : AdvertisingMap) + (entries.map Prod.snd).sum :=
    total_foldl_gather id rfl (fun _ _ => rfl) entries ∅
  rw [← foldlM_mergeEntry h, total_empty, zero_add] at htotal
  exact htotal

theorem sumOf_of_forall {date' : ℤ} {campaign' : ℕ}
    (h : ∀ e ∈ entries, dayOf e.1 = date' ∧ campaignOf e.1 = campaign') :
    sumOf date campaign entries =
      if date' = date ∧ campaign' = campaign then (entries.map Prod.snd).sum else 0 := by
  rw [sumOf]
  split_ifs with hsame
  · rw [List.filter_eq_self.mpr]
    intro e he
    obtain ⟨rfl, rfl⟩ := h e he
    simpa using hsame
  · rw [List.filter_eq_nil_iff.mpr, List.map_nil, List.sum_nil]
    intro e he
    obtain ⟨rfl, rfl⟩ := h e he
    simpa using hsame

theorem foldlM_merge {l : List AdvertisingEntry} {s t : AdvertisingTotals}
    (h : l.foldlM (fun sum entry => sum.merge entry.2) s = .ok t) : t = s + (l.map Prod.snd).sum := by
  induction l generalizing s with
  | nil =>
    rw [List.foldlM_nil, ok_of_pure] at h
    rw [← h, List.map_nil, List.sum_nil, add_zero]
  | cons e l ih =>
    rw [List.foldlM_cons, ok_of_bind] at h
    obtain ⟨s', hs, hrest⟩ := h
    rw [ih hrest, (merge_eq_ok.mp hs).1, List.map_cons, List.sum_cons, add_assoc]

end Sums

/-! ## Nothing is lost -/

section Conservation

variable (parseDate : String → Option ℤ) {row day : List (String × Document)} {dateValue : Document}
  {campaignId sku : ℕ} {entry : AdvertisingEntry}

theorem readRow_key (h : readRow parseDate row dateValue campaignId sku = .ok entry) :
    date parseDate dateValue = .ok (dayOf entry.1) ∧ campaignOf entry.1 = campaignId := by
  simp only [readRow, ok_of_bind, ok_of_pure] at h
  obtain ⟨businessDate, hdate, _, _, _, _, _, _, _, _, _, _, _, _, _, _, _, _, _, _, _, _, rfl⟩ := h
  exact ⟨hdate, rfl⟩

/-- Every row of a day is about this day and campaign. -/
def OfDay (day : List (String × Document)) (campaignId : ℕ) (entry : AdvertisingEntry) : Prop :=
  (∃ value, field day "date" = .ok value ∧ date parseDate value = .ok (dayOf entry.1)) ∧
    campaignOf entry.1 = campaignId

theorem ofDay_dayRow (h : dayRow parseDate day campaignId = .ok entry) :
    OfDay parseDate day campaignId entry := by
  obtain ⟨value, hvalue, hread⟩ := ok_of_bind.mp h
  obtain ⟨hdate, hcampaign⟩ := readRow_key parseDate hread
  exact ⟨⟨value, hvalue, hdate⟩, hcampaign⟩

theorem ofDay_productRow (h : productRow parseDate day campaignId row = .ok entry) :
    OfDay parseDate day campaignId entry := by
  simp only [productRow, ok_of_bind] at h
  obtain ⟨_, _, _, _, _, _, value, hvalue, hread⟩ := h
  obtain ⟨hdate, hcampaign⟩ := readRow_key parseDate hread
  exact ⟨⟨value, hvalue, hdate⟩, hcampaign⟩

theorem OfDay.unique {entry' : AdvertisingEntry} (h : OfDay parseDate day campaignId entry)
    (h' : OfDay parseDate day campaignId entry') :
    dayOf entry.1 = dayOf entry'.1 ∧ campaignOf entry.1 = campaignOf entry'.1 := by
  obtain ⟨⟨value, hvalue, hdate⟩, hcampaign⟩ := h
  obtain ⟨⟨value', hvalue', hdate'⟩, hcampaign'⟩ := h'
  rw [hvalue] at hvalue'
  cases hvalue'
  rw [hdate] at hdate'
  exact ⟨Except.ok.inj hdate', hcampaign.trans hcampaign'.symm⟩

theorem head_mergeEntry {totals : AdvertisingMap} {first : AdvertisingEntry}
    (h : mergeEntry ∅ entry = .ok totals) (hfirst : totals.toList.head? = some first) :
    first.2 = entry.2 := by
  simp only [mergeEntry, ok_of_bind, ok_of_pure, ExtTreeMap.getElem?_empty, Option.getD_none] at h
  obtain ⟨value, hvalue, rfl⟩ := h
  have hperm : ((∅ : AdvertisingMap).insert entry.1 value).toList.Perm [(entry.1, value)] := by
    have hfresh := toList_insert_perm (m := (∅ : AdvertisingMap)) (v := value)
      (ExtTreeMap.getElem?_empty (a := entry.1))
    rwa [ExtTreeMap.toList_eq_nil_iff.mpr rfl] at hfresh
  rw [List.perm_singleton.mp hperm, List.head?_cons, Option.some.injEq] at hfirst
  rw [← hfirst, (merge_eq_ok.mp hvalue).1]
  exact zero_add _

/-- **A day published as one row counts like its products.** -/
theorem rows_of_publishedProducts {rows : List (List (String × Document))} {products : AdvertisingMap}
    (h : publishedProducts parseDate day campaignId rows = .ok products) :
    ∃ entries, rows.mapM (productRow parseDate day campaignId) = .ok entries ∧
      SameSums products.toList entries := by
  simp only [publishedProducts, ok_of_bind, foldlM_addProductRow] at h
  obtain ⟨read, ⟨entries, hentries, hmerge⟩, hreconciled⟩ := h
  refine ⟨entries, hentries, ?_⟩
  unfold reconcileProducts at hreconciled
  split_ifs at hreconciled with hinconsistent
  · simp only [ok_of_bind, ok_of_mapError, addAdvertisingRow_eq_ok, context_eq_ok, ensure_eq_ok,
      ok_of_pure] at hreconciled
    obtain ⟨published, ⟨entry, hentry, hpublished⟩, first, hfirst, sum, hsum, _, hagree, rfl⟩ := hreconciled
    have hofDay := ofDay_dayRow parseDate hentry
    have hall : ∀ e ∈ entries, dayOf e.1 = dayOf entry.1 ∧ campaignOf e.1 = campaignOf entry.1 := by
      intro e he
      obtain ⟨row, -, hrow⟩ := exists_of_mem_mapM hentries e he
      exact (ofDay_productRow parseDate hrow).unique parseDate hofDay
    have hcounters : (entries.map Prod.snd).sum = entry.2 := by
      rw [← sum_toList hmerge, ← head_mergeEntry hpublished hfirst]
      have hread : sum = 0 + (read.toList.map Prod.snd).sum := foldlM_merge hsum
      rw [zero_add] at hread
      rw [← hread]
      by_contra hne
      exact hagree (.inr hne)
    intro date campaign
    have hday : sumOf date campaign published.toList = sumOf date campaign [entry] :=
      sumOf_toList (by rw [List.foldlM_cons, hpublished]; rfl) date campaign
    have hone : ∀ e ∈ [entry], dayOf e.1 = dayOf entry.1 ∧ campaignOf e.1 = campaignOf entry.1 := by
      intro e he
      rw [List.mem_singleton.mp he]
      exact ⟨rfl, rfl⟩
    rw [hday, sumOf_of_forall hall, sumOf_of_forall hone, hcounters, List.map_singleton,
      List.sum_singleton]
  · cases ok_of_pure.mp hreconciled
    exact sumOf_toList hmerge

/-- The rows of a day and what is published of it. -/
theorem dayRows_of_publishedDay {published : List AdvertisingEntry}
    (h : publishedDay parseDate day campaignId = .ok published) :
    ∃ entries, dayRows parseDate day campaignId = .ok entries ∧ SameSums published entries := by
  obtain ⟨rows, hrows, h⟩ := ok_of_bind.mp h
  simp only [dayRows, hrows]
  split_ifs at h with hempty
  · exact ⟨published, by rw [← h]; exact if_pos hempty, fun _ _ => rfl⟩
  · obtain ⟨products, hproducts, rfl⟩ := ok_of_map.mp h
    obtain ⟨entries, hentries, hsums⟩ := rows_of_publishedProducts parseDate hproducts
    exact ⟨entries, (if_neg hempty).trans hentries, hsums⟩

theorem sameSums_mapM {f f' : Document → Except WbReportParseError (List AdvertisingEntry)}
    (hf : ∀ item l, f item = .ok l → ∃ l', f' item = .ok l' ∧ SameSums l l') {items : List Document}
    {ls : List (List AdvertisingEntry)} (h : items.mapM f = .ok ls) :
    ∃ ls', items.mapM f' = .ok ls' ∧ SameSums ls.flatten ls'.flatten := by
  have hsame : List.Forall₂ (fun item item' : Document => item = item') items items :=
    List.forall₂_same.mpr fun _ _ => rfl
  have hstep : ∀ item item' l, item = item' → f item = .ok l → ∃ l', f' item' = .ok l' ∧ SameSums l l' := by
    rintro item _ l rfl hl
    exact hf item l hl
  obtain ⟨ls', hls', hsums⟩ := exists_forall₂_of_mapM hstep hsame h
  exact ⟨ls', hls', SameSums.flatten hsums⟩

theorem rowsOfCampaign_of_published {campaign : List (String × Document)} {published : List AdvertisingEntry}
    (h : rowsOfCampaign parseDate (publishedDay parseDate) campaign campaignId = .ok published) :
    ∃ entries, rowsOfCampaign parseDate (dayRows parseDate) campaign campaignId = .ok entries ∧
      SameSums published entries := by
  cases hshape : campaign.lookup "days" with
  | some days =>
    simp only [rowsOfCampaign, hshape, ok_of_bind, ok_of_pure] at h ⊢
    obtain ⟨days, hdays, published, hpublished, rfl⟩ := h
    have hday : ∀ (day : Document) l, (do publishedDay parseDate (← object day) campaignId) = .ok l →
        ∃ l', (do dayRows parseDate (← object day) campaignId) = .ok l' ∧ SameSums l l' := by
      intro day l hl
      obtain ⟨fields, hfields, hl⟩ := ok_of_bind.mp hl
      obtain ⟨rows, hrows, hsums⟩ := dayRows_of_publishedDay parseDate hl
      exact ⟨rows, ok_of_bind.mpr ⟨fields, hfields, hrows⟩, hsums⟩
    obtain ⟨rows, hrows, hsums⟩ := sameSums_mapM hday hpublished
    exact ⟨_, ⟨days, hdays, rows, hrows, rfl⟩, hsums⟩
  | none =>
    -- the legacy shape has no days
    refine ⟨published, ?_, fun _ _ => rfl⟩
    rw [← h]
    cases hlegacy : campaign.lookup "stats" <;> simp only [rowsOfCampaign, hshape, hlegacy]

/-- **The rows of a response and what is published of it.** -/
theorem sourceRows_of_publishedRows {response : Document} {published : List AdvertisingEntry}
    (h : publishedRows parseDate response = .ok published) :
    ∃ entries, sourceRows parseDate response = .ok entries ∧ SameSums published entries := by
  unfold publishedRows responseRows at h
  unfold sourceRows responseRows
  split_ifs at h ⊢ with hnull
  · exact ⟨published, h, fun _ _ => rfl⟩
  · simp only [ok_of_bind, ok_of_pure] at h ⊢
    obtain ⟨campaigns, hcampaigns, published, hpublished, rfl⟩ := h
    have hcampaign : ∀ campaign l, campaignRows parseDate (publishedDay parseDate) campaign = .ok l →
        ∃ l', campaignRows parseDate (dayRows parseDate) campaign = .ok l' ∧ SameSums l l' := by
      intro campaign l hl
      simp only [campaignRows, ok_of_bind] at hl ⊢
      obtain ⟨fields, hfields, id, hid, hl⟩ := hl
      obtain ⟨rows, hrows, hsums⟩ := rowsOfCampaign_of_published parseDate hl
      exact ⟨rows, ⟨fields, hfields, id, hid, hrows⟩, hsums⟩
    obtain ⟨rows, hrows, hsums⟩ := sameSums_mapM hcampaign hpublished
    exact ⟨_, ⟨campaigns, hcampaigns, rows, hrows, rfl⟩, hsums⟩

end Conservation

/-! ## The order of the rows -/

section Order

variable {value value' : Document} {fields fields' row row' day day' : List (String × Document)}
  {rows rows' : List (List (String × Document))} {campaignId : ℕ}

theorem agree_object (h : Rearranged value value') : Agree RearrangedFields (object value) (object value') :=
  .context h.asObject

theorem agree_array (h : Rearranged value value') :
    Agree (PermUpTo Rearranged) (array value) (array value') := .context h.asArray

theorem agree_field (h : RearrangedFields fields fields') (name : String) :
    Agree Rearranged (field fields name) (field fields' name) := .context (h.lookup name)

theorem unsigned_rearranged (h : Rearranged value value') : unsigned value = unsigned value' :=
  h.congr (fun _ _ => rfl) fun _ _ => rfl

theorem amount_rearranged (h : Rearranged value value') : amount value = amount value' :=
  h.congr (fun _ _ => rfl) fun _ _ => rfl

theorem agree_revenueField (h : RearrangedFields row row') :
    Agree Rearranged (revenueField row) (revenueField row') := by
  have hfield := h.lookup "sum_price"
  unfold revenueField
  revert hfield
  cases row.lookup "sum_price" <;> cases row'.lookup "sum_price"
  · exact fun _ => agree_field h "sumPrice"
  · exact nofun
  · exact nofun
  · rintro ⟨hvalue⟩
    exact hvalue

theorem agree_optionalUnsigned (h : RearrangedFields row row') (name : String) :
    optionalUnsigned (row.lookup name) = optionalUnsigned (row'.lookup name) := by
  have hfield := h.lookup name
  revert hfield
  cases row.lookup name <;> cases row'.lookup name
  · exact fun _ => rfl
  · exact nofun
  · exact nofun
  · rintro ⟨hvalue⟩
    simp only [optionalUnsigned, Option.mapM_some, unsigned_rearranged hvalue]

variable (parseDate : String → Option ℤ)

theorem date_rearranged (h : Rearranged value value') : date parseDate value = date parseDate value' :=
  h.congr (fun _ _ => rfl) fun _ _ => rfl

theorem agree_readRow (hrow : RearrangedFields row row') (hdate : Rearranged value value') (sku : ℕ) :
    Agree (· = ·) (readRow parseDate row value campaignId sku)
      (readRow parseDate row' value' campaignId sku) := by
  unfold readRow
  refine .bind (.of_eq (date_rearranged parseDate hdate)) ?_
  rintro businessDate _ rfl
  refine .bind (agree_field hrow "views") fun _ _ hviews => .bind (.of_eq (unsigned_rearranged hviews)) ?_
  rintro impressions _ rfl
  refine .bind (agree_field hrow "clicks") fun _ _ hclicks => .bind (.of_eq (unsigned_rearranged hclicks)) ?_
  rintro clicks _ rfl
  refine .bind (agree_field hrow "sum") fun _ _ hsum =>
    .bind (.of_eq (congrArg minor (amount_rearranged hsum))) ?_
  rintro spendMinor _ rfl
  refine .bind (agree_field hrow "orders") fun _ _ horders => .bind (.of_eq (unsigned_rearranged horders)) ?_
  rintro orders _ rfl
  refine .bind (agree_revenueField hrow) fun _ _ hrevenue =>
    .bind (.of_eq (congrArg minor (amount_rearranged hrevenue))) ?_
  rintro revenueMinor _ rfl
  exact .of_eq rfl

theorem agree_dayRow (h : RearrangedFields day day') :
    Agree (· = ·) (dayRow parseDate day campaignId) (dayRow parseDate day' campaignId) :=
  .bind (agree_field h "date") fun _ _ hdate => agree_readRow parseDate h hdate 0

theorem agree_productRow (hday : RearrangedFields day day') (h : RearrangedFields row row') :
    Agree (· = ·) (productRow parseDate day campaignId row) (productRow parseDate day' campaignId row') := by
  unfold productRow
  refine .bind (agree_field h "nmId") fun _ _ hid => .bind (.of_eq (unsigned_rearranged hid)) ?_
  rintro sku _ rfl
  refine .bind (.of_eq rfl) fun _ _ _ => .bind (agree_field hday "date") fun _ _ hdate => ?_
  exact agree_readRow parseDate h hdate sku

theorem agree_statsRow (h : Rearranged value value') :
    Agree (· = ·) (statsRow parseDate campaignId value) (statsRow parseDate campaignId value') := by
  unfold statsRow
  refine .bind (agree_object h) fun row row' hrow => .bind (.of_eq (agree_optionalUnsigned hrow "nm_id")) ?_
  rintro sku _ rfl
  exact .bind (agree_field hrow "date") fun _ _ hdate => agree_readRow parseDate hrow hdate _

theorem agree_appProductRows (h : Rearranged value value') :
    Agree (PermUpTo RearrangedFields) (appProductRows value) (appProductRows value') := by
  unfold appProductRows
  refine .bind (agree_object h) fun app app' happ => .bind (.ensure ?_) fun _ _ _ => ?_
  · rw [isSome_of_rel (happ.lookup "nm"), isSome_of_rel (happ.lookup "nms")]
  · have hproducts := rel_or (happ.lookup "nms") (happ.lookup "nm")
    revert hproducts
    cases (app.lookup "nms").or (app.lookup "nm") <;> cases (app'.lookup "nms").or (app'.lookup "nm")
    · exact fun _ => .refl .refl []
    · exact nofun
    · exact nofun
    · rintro ⟨hproducts⟩
      exact .bind (agree_array hproducts) fun _ _ hitems => .mapM hitems fun _ _ => agree_object

theorem agree_campaignDayProductRows (h : RearrangedFields day day') :
    Agree (PermUpTo RearrangedFields) (campaignDayProductRows day) (campaignDayProductRows day') := by
  have happs := h.lookup "apps"
  unfold campaignDayProductRows
  revert happs
  cases day.lookup "apps" <;> cases day'.lookup "apps"
  · exact fun _ => .refl .refl []
  · exact nofun
  · exact nofun
  · rintro ⟨happs⟩
    refine .bind (agree_array happs) fun _ _ hitems => .bind (.mapM hitems fun _ _ => agree_appProductRows) ?_
    exact fun _ _ hrows => hrows.flatten

theorem agree_addAdvertisingRow (h : RearrangedFields day day') :
    Agree (· = ·) (addAdvertisingRow parseDate day campaignId 0 ∅)
      (addAdvertisingRow parseDate day' campaignId 0 ∅) := by
  refine .of_ok_iff fun totals => ?_
  rw [addAdvertisingRow_eq_ok, addAdvertisingRow_eq_ok]
  refine (agree_dayRow parseDate h).exists_congr ?_
  rintro entry _ rfl
  rfl

theorem agree_publishedProducts (hday : RearrangedFields day day')
    (hrows : PermUpTo RearrangedFields rows rows') :
    Agree (· = ·) (publishedProducts parseDate day campaignId rows)
      (publishedProducts parseDate day' campaignId rows') := by
  have hproducts : Agree (· = ·) (rows.foldlM (addProductRow parseDate day campaignId) ∅)
      (rows'.foldlM (addProductRow parseDate day' campaignId) ∅) := by
    refine .of_ok_iff fun products => ?_
    rw [foldlM_addProductRow, foldlM_addProductRow]
    refine (Agree.mapM hrows fun _ _ hrow => agree_productRow parseDate hday hrow).exists_congr ?_
    exact fun _ _ hentries => foldlM_mergeEntry_perm (permUpTo_eq.mp hentries)
  refine .bind hproducts ?_
  rintro products _ rfl
  unfold reconcileProducts
  split_ifs
  · refine .bind (.mapError (agree_addAdvertisingRow parseDate hday)) ?_
    rintro published _ rfl
    exact .of_eq rfl
  · exact .of_eq rfl

theorem agree_publishedDay (h : RearrangedFields day day') :
    Agree (· = ·) (publishedDay parseDate day campaignId) (publishedDay parseDate day' campaignId) := by
  unfold publishedDay
  refine .bind (agree_campaignDayProductRows h) fun rows rows' hrows => ?_
  have hempty : rows.isEmpty = rows'.isEmpty := by
    rw [Bool.eq_iff_iff, List.isEmpty_iff_length_eq_zero, List.isEmpty_iff_length_eq_zero, hrows.length_eq]
  rw [hempty]
  split_ifs
  · exact .map (agree_dayRow parseDate h)
  · exact .map (agree_publishedProducts parseDate h hrows)

theorem agree_rowsOfCampaign (h : RearrangedFields fields fields') :
    Agree List.Perm (rowsOfCampaign parseDate (publishedDay parseDate) fields campaignId)
      (rowsOfCampaign parseDate (publishedDay parseDate) fields' campaignId) := by
  have hdays := h.lookup "days"
  have hstats := h.lookup "stats"
  unfold rowsOfCampaign
  revert hdays hstats
  cases fields.lookup "days" <;> cases fields'.lookup "days"
  · cases fields.lookup "stats" <;> cases fields'.lookup "stats"
    · exact fun _ _ => trivial
    · exact fun _ => nofun
    · exact fun _ => nofun
    · rintro - ⟨hstats⟩
      refine .bind (agree_array hstats) fun _ _ hitems => ?_
      exact (Agree.mapM hitems fun _ _ => agree_statsRow parseDate).mono fun _ _ => permUpTo_eq.mp
  · exact nofun
  · exact nofun
  · rintro ⟨hdays⟩ -
    refine .bind (agree_array hdays) fun _ _ hitems => .bind (.mapM hitems (S := Eq) fun _ _ hday => ?_) ?_
    · exact .bind (agree_object hday) fun _ _ => agree_publishedDay parseDate
    · exact fun _ _ hrows => (permUpTo_eq.mp hrows).flatten

theorem agree_campaignIdOf (h : RearrangedFields fields fields') :
    Agree (· = ·) (campaignIdOf fields) (campaignIdOf fields') := by
  unfold campaignIdOf
  refine .bind (.context (rel_or (h.lookup "advertId") (h.lookup "advert_id"))) fun _ _ hid =>
    .bind (.of_eq (unsigned_rearranged hid)) ?_
  rintro id _ rfl
  exact .of_eq rfl

/-- **Campaigns, days, apps and products in another order**: the same is published. -/
theorem publishedRows_rearranged (h : Rearranged value value') :
    Agree List.Perm (publishedRows parseDate value) (publishedRows parseDate value') := by
  have hnull : value.isNull = value'.isNull := h.congr (fun _ _ => rfl) fun _ _ => rfl
  unfold publishedRows responseRows
  rw [hnull]
  split_ifs
  · exact .refl []
  · refine .bind (agree_array h) fun _ _ hitems =>
      .bind (.mapM hitems (S := List.Perm) fun _ _ hitem => ?_) ?_
    · refine .bind (agree_object hitem) fun _ _ hfields => .bind (agree_campaignIdOf hfields) ?_
      rintro id _ rfl
      exact agree_rowsOfCampaign parseDate hfields
    · exact fun _ _ hrows => hrows.flatten_perm

end Order

/-! ## The result -/

/-- The key of a fact. -/
def CollectedAdvertisingFact.key (fact : CollectedAdvertisingFact) : AdvertisingKey :=
  toLex (fact.businessDate, toLex (fact.campaignId, fact.sku))

/-- The counters of a fact. -/
def CollectedAdvertisingFact.totals (fact : CollectedAdvertisingFact) : AdvertisingTotals where
  impressions := fact.impressions
  clicks := fact.clicks
  spendMinor := fact.spendMinor
  orders := fact.attributedOrders
  revenueMinor := fact.attributedRevenueMinor

theorem advertisingFact_eq_ok {entry : AdvertisingEntry} {fact : CollectedAdvertisingFact}
    (h : advertisingFact entry = .ok fact) : fact.key = entry.1 ∧ fact.totals = entry.2 ∧
      fact.clicks ≤ fact.impressions := by
  simp only [advertisingFact, ok_of_bind, ensure_eq_ok, ok_of_pure] at h
  obtain ⟨_, hle, rfl⟩ := h
  exact ⟨rfl, rfl, hle⟩

/-- **Promotion statistics are conserved**: a response that is accepted gives each product of a campaign one
fact a day, with no more clicks than impressions, and the facts of a campaign on a day sum up to its rows in
every counter. The order of campaigns, days, apps and products decides neither whether a response is accepted
nor what it gives. -/
theorem promotion_stats_conserved (parseDate : String → Option ℤ) (response : Document) :
    (∀ facts, parsePromotionStats parseDate response = .ok facts →
      (facts.map CollectedAdvertisingFact.key).Nodup ∧ (∀ fact ∈ facts, fact.clicks ≤ fact.impressions) ∧
      ∃ rows, sourceRows parseDate response = .ok rows ∧ ∀ date campaign,
        sumOf date campaign (facts.map fun fact => (fact.key, fact.totals)) = sumOf date campaign rows) ∧
    ∀ response', Rearranged response response' → ∀ facts,
      parsePromotionStats parseDate response = .ok facts ↔
        parsePromotionStats parseDate response' = .ok facts := by
  refine ⟨fun facts h => ?_, fun response' hresponse facts => ?_⟩
  · obtain ⟨published, hpublished, totals, hmerge, -, hfacts⟩ := (parsePromotionStats_eq_ok parseDate).mp h
    obtain ⟨rows, hrows, hsums⟩ := sourceRows_of_publishedRows parseDate hpublished
    have hentries : (facts.map fun fact => (fact.key, fact.totals)) = totals.toList := by
      have hsame : ∀ entry fact, advertisingFact entry = .ok fact → (fact.key, fact.totals) = id entry := by
        intro entry fact hfact
        obtain ⟨hkey, htotals, -⟩ := advertisingFact_eq_ok hfact
        exact Prod.ext hkey htotals
      rw [map_of_mapM hsame hfacts, List.map_id]
    have hkeys : facts.map CollectedAdvertisingFact.key = totals.keys := by
      rw [← ExtTreeMap.map_fst_toList_eq_keys, ← hentries, List.map_map]
      rfl
    refine ⟨hkeys ▸ ExtTreeMap.nodup_keys, fun fact hfact => ?_, rows, hrows, fun date campaign => ?_⟩
    · obtain ⟨entry, -, hentry⟩ := exists_of_mem_mapM hfacts fact hfact
      exact (advertisingFact_eq_ok hentry).2.2
    · rw [hentries, sumOf_toList hmerge, hsums]
  · rw [parsePromotionStats_eq_ok, parsePromotionStats_eq_ok]
    refine (publishedRows_rearranged parseDate hresponse).exists_congr fun _ _ hperm => ?_
    exact exists_congr fun totals => and_congr_left' (foldlM_mergeEntry_perm hperm)

/-! ## Two days of a campaign -/

/-- The counters of a row. -/
def counterFields (views clicks sum orders price : String) : List (String × Document) :=
  [("views", .number views), ("clicks", .number clicks), ("sum", .number sum), ("orders", .number orders),
    ("sum_price", .number price)]

/-- A day with two products, the first with more clicks than impressions. -/
def inconsistentDay : Document :=
  .object (("date", .string "2026-07-01T00:00:00Z") :: ("apps", .array [
    .object [("nms", .array [.object (("nmId", .number "1") :: counterFields "1" "3" "1.5" "0" "0")])],
    .object [("nm", .array [.object (("nmId", .number "2") :: counterFields "9" "2" "2" "1" "20")])]]) ::
    counterFields "10" "5" "3.5" "1" "20")

/-- A day that two apps report, with a product in both. -/
def consistentDay : Document :=
  .object (("date", .string "2026-07-02T00:00:00Z") :: ("apps", .array [
    .object [("nms", .array [.object (("nmId", .number "1") :: counterFields "6" "1" "1.5" "0" "0")])],
    .object [("nms", .array [.object (("nmId", .number "1") :: counterFields "4" "1" "0.5" "1" "15"),
      .object (("nmId", .number "2") :: counterFields "9" "2" "2" "1" "20")])]]) ::
    counterFields "19" "4" "4" "2" "35")

/-- A response about one campaign. -/
def campaignDays (days : List Document) : Document :=
  .array [.object [("advertId", .number "7"), ("days", .array days)]]

/-- A calendar of two days. -/
def twoDates (date : String) : Option ℤ :=
  if date = "2026-07-01" then some 20635 else if date = "2026-07-02" then some 20636 else none

/-- The inconsistent day is published as one row, and the order of the days is without effect. -/
theorem promotion_stats_conserved_two_days : ∃ facts rows,
    parsePromotionStats twoDates (campaignDays [inconsistentDay, consistentDay]) = .ok facts ∧
    parsePromotionStats twoDates (campaignDays [consistentDay, inconsistentDay]) = .ok facts ∧
    facts.map (fun fact => (fact.key, fact.totals)) =
      [(toLex (20635, toLex (7, 0)), ⟨10, 5, 350, 1, 2000⟩),
        (toLex (20636, toLex (7, 1)), ⟨10, 2, 200, 1, 1500⟩),
        (toLex (20636, toLex (7, 2)), ⟨9, 2, 200, 1, 2000⟩)] ∧
    sourceRows twoDates (campaignDays [inconsistentDay, consistentDay]) = .ok rows ∧ rows.length = 5 ∧
    ∀ date campaign,
      sumOf date campaign (facts.map fun fact => (fact.key, fact.totals)) = sumOf date campaign rows := by
  have hfacts : ((parsePromotionStats twoDates (campaignDays [inconsistentDay, consistentDay])).toOption.getD
      []).map (fun fact => (fact.key, fact.totals)) =
        [(toLex (20635, toLex (7, 0)), ⟨10, 5, 350, 1, 2000⟩),
          (toLex (20636, toLex (7, 1)), ⟨10, 2, 200, 1, 1500⟩),
          (toLex (20636, toLex (7, 2)), ⟨9, 2, 200, 1, 2000⟩)] := by decide +kernel
  have hcount : (sourceRows twoDates (campaignDays [inconsistentDay, consistentDay])).toOption.map List.length =
      some 5 := by decide +kernel
  obtain ⟨hconserved, hreordered⟩ :=
    promotion_stats_conserved twoDates (campaignDays [inconsistentDay, consistentDay])
  have hswapped : Rearranged (campaignDays [inconsistentDay, consistentDay])
      (campaignDays [consistentDay, inconsistentDay]) := by
    have hdays : Rearranged (.array [inconsistentDay, consistentDay])
        (.array [consistentDay, inconsistentDay]) :=
      .array (List.forall₂_same.mpr fun day _ => .refl day) (.swap ..)
    have hcampaign : Rearranged
        (.object [("advertId", .number "7"), ("days", .array [inconsistentDay, consistentDay])])
        (.object [("advertId", .number "7"), ("days", .array [consistentDay, inconsistentDay])]) :=
      .object rfl (.cons (.refl _) (.cons hdays .nil))
    exact .array (.cons hcampaign .nil) (.refl _)
  cases hparse : parsePromotionStats twoDates (campaignDays [inconsistentDay, consistentDay]) with
  | error e =>
    rw [hparse] at hfacts
    cases hfacts
  | ok facts =>
    obtain ⟨-, -, rows, hrows, hsums⟩ := hconserved facts hparse
    rw [hparse] at hfacts
    rw [hrows] at hcount
    exact ⟨facts, rows, rfl, (hreordered _ hswapped facts).mp hparse, hfacts, hrows,
      Option.some.inj hcount, hsums⟩

end AdsControl.Reporting
