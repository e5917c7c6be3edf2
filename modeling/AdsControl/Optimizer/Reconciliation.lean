import AdsControl.Optimizer.Prepare
import AdsControl.Lib.Grouping
import AdsControl.Lib.SortByKey

/-!
# Reconciliation of two advertising exports

`reconcile` compares the SKU rows of one export with the campaign rows of another, campaign day by
campaign day. Nothing is filled in: a campaign day that only one export has stays without a
difference. The bytes of the canonical input and their digest are parameters.

* `validate`, `aggregateSkuRows`, `compareRow`, `reconcile`: the comparison;
* `RowExact`: what a row says about the rows of its campaign day;
* **`reconcile_exact`**: one exact row for every campaign day, whatever the order of the inputs.
-/

namespace AdsControl.Optimizer.Reconciliation

open Fallible Machine Std OrderedMap Grouping SortByKey

/-- The most rows of both exports. -/
def maxReconciliationRows : ℕ := 25000

/-! ## Inputs -/

/-- A product's row of a campaign day. -/
structure ReconciliationSkuRow where
  date : ℤ
  campaignId : ℕ
  sku : ℕ
  clicks : ℕ
  spendMinor : ℕ
  directOrders : ℕ
  directRevenueMinor : ℕ
  modelOrders : ℕ
  modelRevenueMinor : ℕ

/-- A campaign's row of a day. -/
structure ReconciliationCampaignRow where
  date : ℤ
  campaignId : ℕ
  clicks : ℕ
  spendMinor : ℕ
  orders : ℕ
  revenueMinor : ℕ

/-- One export with its provenance. -/
structure Source (Row : Type) where
  accountId : String
  sourceRef : String
  observedAt : ℤ
  coverageComplete : Bool
  rows : List Row

/-- Two exports of one window. -/
structure ReconciliationInput where
  version : ℕ
  accountId : String
  asOf : ℤ
  windowStart : ℤ
  windowEnd : ℤ
  skuSource : Source ReconciliationSkuRow
  campaignSource : Source ReconciliationCampaignRow

/-- A campaign day; dates come first. -/
abbrev CampaignDay : Type := ℤ ×ₗ ℕ

/-- The campaign day of a row. -/
def ReconciliationSkuRow.day (row : ReconciliationSkuRow) : CampaignDay :=
  toLex (row.date, row.campaignId)

/-- What a row is identified by. -/
def ReconciliationSkuRow.key (row : ReconciliationSkuRow) : ℤ ×ₗ ℕ ×ₗ ℕ :=
  toLex (row.date, toLex (row.campaignId, row.sku))

/-- The campaign day of a row. -/
def ReconciliationCampaignRow.day (row : ReconciliationCampaignRow) : CampaignDay :=
  toLex (row.date, row.campaignId)

/-! ## Reports -/

/-- What stands out on a campaign day. -/
inductive ReconciliationReason
  | skuCoverageIncomplete
  | campaignCoverageIncomplete
  | sourceObservationsDiffer
  | skuObservationBeforeWindowEnd
  | campaignObservationBeforeWindowEnd
  | missingSkuRow
  | missingCampaignRow
  | noComparableRows
  | clicksDiffer
  | spendDiffers
  | directOrdersDiffer
  | directRevenueDiffers
  | directPlusModelOrdersDiffer
  | directPlusModelRevenueDiffers
  deriving DecidableEq

/-- The sums of a campaign day's products. -/
structure SkuReconciliationTotals where
  skuCount : ℕ := 0
  clicks : ℕ := 0
  spendMinor : ℕ := 0
  directOrders : ℕ := 0
  directRevenueMinor : ℕ := 0
  modelOrders : ℕ := 0
  modelRevenueMinor : ℕ := 0
  deriving DecidableEq

/-- The counters of a campaign day. -/
structure CampaignReconciliationTotals where
  clicks : ℕ
  spendMinor : ℕ
  orders : ℕ
  revenueMinor : ℕ
  deriving DecidableEq

/-- Campaign value minus the sum of the direct attribution. -/
structure DirectReconciliationDelta where
  clicks : ℤ
  spendMinor : ℤ
  orders : ℤ
  revenueMinor : ℤ
  deriving DecidableEq

/-- An arithmetic comparison only: model attribution may overlap with direct attribution. -/
structure DirectPlusModelArithmetic where
  arithmeticOnly : Bool
  combinedOrders : ℕ
  combinedRevenueMinor : ℕ
  dailyMinusCombinedOrders : ℤ
  dailyMinusCombinedRevenueMinor : ℤ
  ordersMatch : Bool
  revenueMatch : Bool
  deriving DecidableEq

/-- The comparison of a campaign day. -/
structure ReconciliationRow where
  date : ℤ
  campaignId : ℕ
  skuTotals : Option SkuReconciliationTotals
  campaignTotals : Option CampaignReconciliationTotals
  dailyMinusDirect : Option DirectReconciliationDelta
  directPlusModelArithmetic : Option DirectPlusModelArithmetic
  reasons : List ReconciliationReason
  deriving DecidableEq

/-- The campaign day of a comparison. -/
def ReconciliationRow.day (row : ReconciliationRow) : CampaignDay :=
  toLex (row.date, row.campaignId)

/-- The provenance of an export. -/
structure ReconciliationSource where
  accountId : String
  sourceRef : String
  observedAt : ℤ
  coverageComplete : Bool
  rowCount : ℕ
  deriving DecidableEq

/-- The comparison of two exports. -/
structure ReconciliationReport where
  version : ℕ
  currency : String
  accountId : String
  asOf : ℤ
  windowStart : ℤ
  windowEnd : ℤ
  inputSha256 : String
  skuSource : ReconciliationSource
  campaignSource : ReconciliationSource
  semanticEquivalenceVerified : Bool
  reasons : List ReconciliationReason
  rows : List ReconciliationRow
  deriving DecidableEq

/-! ## Validation -/

/-- An id that a column of 64 bits holds. -/
def validId (value : ℕ) : Bool := decide (0 < value ∧ value < 2 ^ 63)

/-- The provenance of one source. -/
def validateSource {Row : Type} (input : ReconciliationInput) (source : Source Row) :
    Except OptimizerError Unit :=
  ensure (source.accountId = input.accountId ∧ trim source.sourceRef ≠ [] ∧
    source.sourceRef.utf8ByteSize ≤ 256 ∧ ¬ source.sourceRef.toList.any isControl ∧
    source.observedAt ≤ input.asOf ∧ yearInRange (dateNaive source.observedAt)) .invalidInput

/-- A campaign day of the window. -/
def ReconciliationInput.validScope (input : ReconciliationInput) (date : ℤ) (campaignId : ℕ) :
    Bool :=
  decide (input.windowStart ≤ date ∧ date ≤ input.windowEnd) && validId campaignId

/-- Rows inside the window with valid ids; a key may occur once. -/
def validateKeys {Row κ : Type} [DecidableEq κ] (valid : Row → Bool) (key : Row → κ) :
    List Row → List κ → Except OptimizerError Unit
  | [], _ => .ok ()
  | row :: rest, keys => do
    ensure (valid row) .invalidInput
    ensure (key row ∉ keys) .duplicateEvidence
    validateKeys valid key rest (key row :: keys)

/-- The keys of both exports. -/
def validateRows (input : ReconciliationInput) : Except OptimizerError Unit := do
  validateKeys (fun row => input.validScope row.date row.campaignId && validId row.sku)
    ReconciliationSkuRow.key input.skuSource.rows []
  validateKeys (fun row => input.validScope row.date row.campaignId)
    ReconciliationCampaignRow.day input.campaignSource.rows []

/-- Everything an input has to satisfy. -/
def validate (input : ReconciliationInput) : Except OptimizerError Unit := do
  let days := input.windowEnd - input.windowStart + 1
  ensure (input.version = 1 ∧ isAccountId input.accountId ∧ yearInRange (dateNaive input.asOf) ∧
    yearInRange input.windowStart ∧ yearInRange input.windowEnd ∧ 0 < days ∧
    input.windowEnd ≤ dateNaive input.asOf) .invalidInput
  ensure (days ≤ maxWindowDays ∧ input.skuSource.rows.length + input.campaignSource.rows.length ≤
    maxReconciliationRows) .limitExceeded
  validateSource input input.skuSource
  validateSource input input.campaignSource
  validateRows input

/-! ## Comparison -/

/-- The reasons whose condition holds. -/
def reasonsOf (conditions : List (Bool × ReconciliationReason)) : List ReconciliationReason :=
  (conditions.filter Prod.fst).map Prod.snd

/-- What stands out about the exports. -/
def sourceReasons (input : ReconciliationInput) : List ReconciliationReason :=
  reasonsOf [
    (!input.skuSource.coverageComplete, .skuCoverageIncomplete),
    (!input.campaignSource.coverageComplete, .campaignCoverageIncomplete),
    (input.skuSource.observedAt != input.campaignSource.observedAt, .sourceObservationsDiffer),
    (decide (dateNaive input.skuSource.observedAt < input.windowEnd),
      .skuObservationBeforeWindowEnd),
    (decide (dateNaive input.campaignSource.observedAt < input.windowEnd),
      .campaignObservationBeforeWindowEnd)]

/-- Add a product's row. -/
def addSkuRow (group : SkuReconciliationTotals) (row : ReconciliationSkuRow) :
    Except OptimizerError SkuReconciliationTotals := do
  let skuCount ← context (checkedAdd 32 group.skuCount 1) .overflow
  let clicks ← addTotal group.clicks row.clicks
  let spendMinor ← addTotal group.spendMinor row.spendMinor
  let directOrders ← addTotal group.directOrders row.directOrders
  let directRevenueMinor ← addTotal group.directRevenueMinor row.directRevenueMinor
  let modelOrders ← addTotal group.modelOrders row.modelOrders
  let modelRevenueMinor ← addTotal group.modelRevenueMinor row.modelRevenueMinor
  return ⟨skuCount, clicks, spendMinor, directOrders, directRevenueMinor, modelOrders,
    modelRevenueMinor⟩

/-- The totals of every campaign day with SKU rows. -/
def aggregateSkuRows (rows : List ReconciliationSkuRow) :
    Except OptimizerError (ExtTreeMap CampaignDay SkuReconciliationTotals) :=
  groupRows ReconciliationSkuRow.day (fun _ => {}) addSkuRow rows

/-- The counters of a row. -/
def ReconciliationCampaignRow.totals (row : ReconciliationCampaignRow) :
    CampaignReconciliationTotals :=
  ⟨row.clicks, row.spendMinor, row.orders, row.revenueMinor⟩

/-- The difference of two counters. -/
def difference (campaign sku : ℕ) : ℤ := (campaign : ℤ) - sku

/-- The differences of a campaign day. -/
def directDelta (sku : SkuReconciliationTotals) (campaign : CampaignReconciliationTotals) :
    DirectReconciliationDelta where
  clicks := difference campaign.clicks sku.clicks
  spendMinor := difference campaign.spendMinor sku.spendMinor
  orders := difference campaign.orders sku.directOrders
  revenueMinor := difference campaign.revenueMinor sku.directRevenueMinor

/-- The differences with the model attribution added. -/
def combinedArithmetic (sku : SkuReconciliationTotals) (campaign : CampaignReconciliationTotals) :
    Except OptimizerError DirectPlusModelArithmetic := do
  let combinedOrders ← addTotal sku.directOrders sku.modelOrders
  let combinedRevenueMinor ← addTotal sku.directRevenueMinor sku.modelRevenueMinor
  return {
    arithmeticOnly := true
    combinedOrders := combinedOrders
    combinedRevenueMinor := combinedRevenueMinor
    dailyMinusCombinedOrders := difference campaign.orders combinedOrders
    dailyMinusCombinedRevenueMinor := difference campaign.revenueMinor combinedRevenueMinor
    ordersMatch := campaign.orders == combinedOrders
    revenueMatch := campaign.revenueMinor == combinedRevenueMinor }

/-- The reasons of the nonzero differences. -/
def differenceReasons (delta : DirectReconciliationDelta) (arithmetic : DirectPlusModelArithmetic) :
    List ReconciliationReason :=
  reasonsOf [
    (delta.clicks != 0, .clicksDiffer),
    (delta.spendMinor != 0, .spendDiffers),
    (delta.orders != 0, .directOrdersDiffer),
    (delta.revenueMinor != 0, .directRevenueDiffers),
    (arithmetic.dailyMinusCombinedOrders != 0, .directPlusModelOrdersDiffer),
    (arithmetic.dailyMinusCombinedRevenueMinor != 0, .directPlusModelRevenueDiffers)]

/-- Compare one campaign day. -/
def compareRow (day : CampaignDay) (skuTotals : Option SkuReconciliationTotals)
    (campaignTotals : Option CampaignReconciliationTotals)
    (sourceReasons : List ReconciliationReason) : Except OptimizerError ReconciliationRow :=
  let row : ReconciliationRow :=
    ⟨(ofLex day).1, (ofLex day).2, skuTotals, campaignTotals, none, none, sourceReasons⟩
  match skuTotals, campaignTotals with
  | some sku, some campaign => do
    let delta := directDelta sku campaign
    let arithmetic ← combinedArithmetic sku campaign
    return { row with
      dailyMinusDirect := some delta
      directPlusModelArithmetic := some arithmetic
      reasons := sourceReasons ++ differenceReasons delta arithmetic }
  | _, _ => .ok { row with
      reasons := sourceReasons ++ reasonsOf [(skuTotals.isNone, .missingSkuRow),
        (campaignTotals.isNone, .missingCampaignRow)] }

/-- One step of the first pass: a campaign day with SKU rows takes its campaign totals with it. -/
def compareSkuEntry (reasons : List ReconciliationReason)
    (state : List ReconciliationRow × ExtTreeMap CampaignDay CampaignReconciliationTotals)
    (entry : CampaignDay × SkuReconciliationTotals) :
    Except OptimizerError
      (List ReconciliationRow × ExtTreeMap CampaignDay CampaignReconciliationTotals) := do
  let row ← compareRow entry.1 (some entry.2) state.2[entry.1]? reasons
  return (state.1 ++ [row], state.2.erase entry.1)

/-- All rows: the campaign days with SKU rows first, then the campaign days that are left. -/
def compareRows (skuTotals : ExtTreeMap CampaignDay SkuReconciliationTotals)
    (campaignTotals : ExtTreeMap CampaignDay CampaignReconciliationTotals)
    (reasons : List ReconciliationReason) : Except OptimizerError (List ReconciliationRow) := do
  let state ← skuTotals.toList.foldlM (compareSkuEntry reasons) ([], campaignTotals)
  let rest ← state.2.toList.mapM fun entry => compareRow entry.1 none (some entry.2) reasons
  return state.1 ++ rest

/-- The provenance with the number of rows. -/
def Source.summary {Row : Type} (source : Source Row) : ReconciliationSource :=
  ⟨source.accountId, source.sourceRef, source.observedAt, source.coverageComplete,
    source.rows.length⟩

/-- The input with its rows in canonical order. -/
def ReconciliationInput.sorted (input : ReconciliationInput) : ReconciliationInput :=
  { input with
    skuSource := { input.skuSource with
      rows := sortByKey ReconciliationSkuRow.key input.skuSource.rows }
    campaignSource := { input.campaignSource with
      rows := sortByKey ReconciliationCampaignRow.day input.campaignSource.rows } }

/-- **The comparison of two exports.** -/
def reconcile (toVec : ReconciliationInput → List UInt8) (sha256 : List UInt8 → String)
    (input : ReconciliationInput) : Except OptimizerError ReconciliationReport := do
  validate input
  let input := input.sorted
  let canonical := toVec input
  ensure (canonical.length ≤ maxInputBytes) .limitExceeded
  let reasons := sourceReasons input
  let skuTotals ← aggregateSkuRows input.skuSource.rows
  let campaignTotals := ExtTreeMap.ofList
    (input.campaignSource.rows.map fun row => (row.day, row.totals))
  let rows ← compareRows skuTotals campaignTotals reasons
  let rows := sortByKey ReconciliationRow.day rows
  return {
    version := 1
    currency := "RUB"
    accountId := input.accountId
    asOf := input.asOf
    windowStart := input.windowStart
    windowEnd := input.windowEnd
    inputSha256 := sha256 canonical
    skuSource := input.skuSource.summary
    campaignSource := input.campaignSource.summary
    semanticEquivalenceVerified := false
    reasons := reasons ++ reasonsOf
      [(rows.all fun row => row.dailyMinusDirect.isNone, .noComparableRows)]
    rows := rows }

/-! ## What a row says -/

/-- The sums over SKU rows. -/
def totalsOf (rows : List ReconciliationSkuRow) : SkuReconciliationTotals where
  skuCount := rows.length
  clicks := (rows.map fun row => row.clicks).sum
  spendMinor := (rows.map fun row => row.spendMinor).sum
  directOrders := (rows.map fun row => row.directOrders).sum
  directRevenueMinor := (rows.map fun row => row.directRevenueMinor).sum
  modelOrders := (rows.map fun row => row.modelOrders).sum
  modelRevenueMinor := (rows.map fun row => row.modelRevenueMinor).sum

/-- The SKU totals of a campaign day, absent without a SKU row. -/
def totalsOn (rows : List ReconciliationSkuRow) (day : CampaignDay) :
    Option SkuReconciliationTotals :=
  if day ∈ rows.map ReconciliationSkuRow.day then
    some (totalsOf (rows.filter fun row => row.day = day))
  else none

/-- The totals of the campaign row of a campaign day, absent without one. -/
def campaignOn (rows : List ReconciliationCampaignRow) (day : CampaignDay) :
    Option CampaignReconciliationTotals :=
  (rows.find? fun row => row.day = day).map ReconciliationCampaignRow.totals

/-- **A row is exact.** Its totals are those of its campaign day; the differences are campaign minus
SKU over the integers and exist exactly when both sides do; a difference has its reason exactly when
it is not zero. -/
structure RowExact (input : ReconciliationInput) (row : ReconciliationRow) : Prop where
  sku : row.skuTotals = totalsOn input.skuSource.rows row.day
  campaign : row.campaignTotals = campaignOn input.campaignSource.rows row.day
  delta : ∀ delta, row.dailyMinusDirect = some delta ↔ ∃ sku campaign,
    row.skuTotals = some sku ∧ row.campaignTotals = some campaign ∧
    delta.clicks = (campaign.clicks : ℤ) - sku.clicks ∧
    delta.spendMinor = (campaign.spendMinor : ℤ) - sku.spendMinor ∧
    delta.orders = (campaign.orders : ℤ) - sku.directOrders ∧
    delta.revenueMinor = (campaign.revenueMinor : ℤ) - sku.directRevenueMinor
  arithmetic : row.directPlusModelArithmetic.isSome = row.dailyMinusDirect.isSome ∧
    ∀ arithmetic, row.directPlusModelArithmetic = some arithmetic → ∃ sku campaign,
      row.skuTotals = some sku ∧ row.campaignTotals = some campaign ∧
      arithmetic.combinedOrders = sku.directOrders + sku.modelOrders ∧
      arithmetic.combinedRevenueMinor = sku.directRevenueMinor + sku.modelRevenueMinor ∧
      arithmetic.dailyMinusCombinedOrders =
        (campaign.orders : ℤ) - (sku.directOrders + sku.modelOrders) ∧
      arithmetic.dailyMinusCombinedRevenueMinor =
        (campaign.revenueMinor : ℤ) - (sku.directRevenueMinor + sku.modelRevenueMinor)
  clicks : .clicksDiffer ∈ row.reasons ↔
    ∃ delta, row.dailyMinusDirect = some delta ∧ delta.clicks ≠ 0
  spend : .spendDiffers ∈ row.reasons ↔
    ∃ delta, row.dailyMinusDirect = some delta ∧ delta.spendMinor ≠ 0
  orders : .directOrdersDiffer ∈ row.reasons ↔
    ∃ delta, row.dailyMinusDirect = some delta ∧ delta.orders ≠ 0
  revenue : .directRevenueDiffers ∈ row.reasons ↔
    ∃ delta, row.dailyMinusDirect = some delta ∧ delta.revenueMinor ≠ 0
  combinedOrders : .directPlusModelOrdersDiffer ∈ row.reasons ↔
    ∃ arithmetic, row.directPlusModelArithmetic = some arithmetic ∧
      arithmetic.dailyMinusCombinedOrders ≠ 0
  combinedRevenue : .directPlusModelRevenueDiffers ∈ row.reasons ↔
    ∃ arithmetic, row.directPlusModelArithmetic = some arithmetic ∧
      arithmetic.dailyMinusCombinedRevenueMinor ≠ 0

/-! ## Totals -/

theorem totalsOf_perm {rows rows' : List ReconciliationSkuRow} (h : rows.Perm rows') :
    totalsOf rows = totalsOf rows' := by
  have hsum : ∀ f : ReconciliationSkuRow → ℕ, (rows.map f).sum = (rows'.map f).sum :=
    fun f => (h.map f).sum_eq
  simp only [totalsOf, hsum, h.length_eq]

theorem foldlM_addSkuRow {rows : List ReconciliationSkuRow} {totals : SkuReconciliationTotals}
    (h : rows.foldlM addSkuRow {} = .ok totals) : totals = totalsOf rows := by
  refine foldlM_invariant (P := fun done totals => totals = totalsOf done) rfl ?_ h
  intro done before row after hbefore hstep
  simp only [addSkuRow, addTotal, ok_of_bind, context_eq_ok, checkedAdd_eq_some, ok_of_pure] at hstep
  obtain ⟨_, ⟨rfl, -⟩, _, ⟨rfl, -⟩, _, ⟨rfl, -⟩, _, ⟨rfl, -⟩, _, ⟨rfl, -⟩, _, ⟨rfl, -⟩, _,
    ⟨rfl, -⟩, rfl⟩ := hstep
  subst hbefore
  simp [totalsOf]

theorem getElem?_aggregateSkuRows {rows : List ReconciliationSkuRow}
    {groups : ExtTreeMap CampaignDay SkuReconciliationTotals}
    (h : aggregateSkuRows rows = .ok groups) (day : CampaignDay) :
    groups[day]? = totalsOn rows day := by
  have hgroup := foldlM_addSkuRow (group_of_groupRows h day)
  have hsome := isSome_groupRows h day
  unfold totalsOn
  cases hget : groups[day]? with
  | none =>
    rw [hget] at hsome
    rw [if_neg (by simpa using hsome)]
  | some totals =>
    rw [hget] at hsome hgroup
    rw [if_pos (hsome.mp rfl), ← hgroup]
    rfl

theorem totalsOn_perm {rows rows' : List ReconciliationSkuRow} (h : rows.Perm rows')
    (day : CampaignDay) : totalsOn rows day = totalsOn rows' day := by
  unfold totalsOn
  rw [totalsOf_perm (h.filter _)]
  exact if_congr (h.map ReconciliationSkuRow.day).mem_iff rfl rfl

theorem isSome_totalsOn {rows : List ReconciliationSkuRow} {day : CampaignDay} :
    (totalsOn rows day).isSome = true ↔ day ∈ rows.map ReconciliationSkuRow.day := by
  unfold totalsOn
  split_ifs with hday
  · exact iff_of_true rfl hday
  · exact iff_of_false Bool.false_ne_true hday

theorem campaignOn_of_mem {rows : List ReconciliationCampaignRow}
    (hdays : (rows.map ReconciliationCampaignRow.day).Nodup) {row : ReconciliationCampaignRow}
    (hrow : row ∈ rows) : campaignOn rows row.day = some row.totals := by
  unfold campaignOn
  cases hfind : rows.find? (fun r => r.day = row.day) with
  | none =>
    rw [List.find?_eq_none] at hfind
    exact absurd (decide_eq_true rfl) (hfind row hrow)
  | some found =>
    have hday : found.day = row.day := by simpa using List.find?_some hfind
    rw [List.inj_on_of_nodup_map hdays (List.mem_of_find?_eq_some hfind) hrow hday]
    rfl

theorem campaignOn_eq_none {rows : List ReconciliationCampaignRow} {day : CampaignDay} :
    campaignOn rows day = none ↔ day ∉ rows.map ReconciliationCampaignRow.day := by
  unfold campaignOn
  rw [Option.map_eq_none_iff, List.find?_eq_none]
  simp

theorem isSome_campaignOn {rows : List ReconciliationCampaignRow} {day : CampaignDay} :
    (campaignOn rows day).isSome = true ↔ day ∈ rows.map ReconciliationCampaignRow.day := by
  rw [← not_iff_not, Bool.not_eq_true, Option.isSome_eq_false_iff, Option.isNone_iff_eq_none,
    campaignOn_eq_none]

theorem campaignOn_perm {rows rows' : List ReconciliationCampaignRow}
    (hdays : (rows.map ReconciliationCampaignRow.day).Nodup) (h : rows.Perm rows')
    (day : CampaignDay) : campaignOn rows day = campaignOn rows' day := by
  by_cases hday : day ∈ rows.map ReconciliationCampaignRow.day
  · obtain ⟨row, hrow, rfl⟩ := List.mem_map.mp hday
    have hdays' := (h.map ReconciliationCampaignRow.day).nodup_iff.mp hdays
    rw [campaignOn_of_mem hdays hrow, campaignOn_of_mem hdays' (h.mem_iff.mp hrow)]
  · rw [campaignOn_eq_none.mpr hday]
    rw [(h.map ReconciliationCampaignRow.day).mem_iff] at hday
    rw [campaignOn_eq_none.mpr hday]

theorem getElem?_campaignTotals {rows : List ReconciliationCampaignRow}
    (hdays : (rows.map ReconciliationCampaignRow.day).Nodup) (day : CampaignDay) :
    (ExtTreeMap.ofList (rows.map fun row => (row.day, row.totals)))[day]? = campaignOn rows day := by
  have hfst : (rows.map fun row => (row.day, row.totals)).map Prod.fst =
      rows.map ReconciliationCampaignRow.day := by
    rw [List.map_map]
    rfl
  by_cases hday : day ∈ rows.map ReconciliationCampaignRow.day
  · obtain ⟨row, hrow, rfl⟩ := List.mem_map.mp hday
    rw [campaignOn_of_mem hdays hrow]
    refine ExtTreeMap.getElem?_ofList_of_mem (LawfulEqCmp.compare_eq_iff_eq.mpr rfl) ?_
      (List.mem_map_of_mem hrow)
    rw [← List.pairwise_map (f := Prod.fst) (R := fun a b : CampaignDay => ¬ compare a b = .eq), hfst]
    exact hdays.imp fun hne heq => hne (LawfulEqCmp.eq_of_compare heq)
  · rw [campaignOn_eq_none.mpr hday]
    refine ExtTreeMap.getElem?_ofList_of_contains_eq_false ?_
    rw [hfst, List.contains_eq_mem, decide_eq_false_iff_not]
    exact hday

/-! ## One row for every campaign day -/

theorem mem_reasonsOf {conditions : List (Bool × ReconciliationReason)}
    {reason : ReconciliationReason} :
    reason ∈ reasonsOf conditions ↔ (true, reason) ∈ conditions := by
  simp [reasonsOf]

theorem compareRow_day {day : CampaignDay} {sku : Option SkuReconciliationTotals}
    {campaign : Option CampaignReconciliationTotals} {reasons : List ReconciliationReason}
    {row : ReconciliationRow} (h : compareRow day sku campaign reasons = .ok row) :
    row.day = day ∧ row.skuTotals = sku ∧ row.campaignTotals = campaign := by
  unfold compareRow at h
  dsimp only at h
  split at h
  · simp only [ok_of_bind, ok_of_pure] at h
    obtain ⟨arithmetic, -, rfl⟩ := h
    exact ⟨rfl, rfl, rfl⟩
  · cases h
    exact ⟨rfl, rfl, rfl⟩

/-- The rows of a merge: each compares the two sides of its campaign day, and the campaign days are
those of either side, each once. -/
structure Merged (skuTotals : ExtTreeMap CampaignDay SkuReconciliationTotals)
    (campaignTotals : ExtTreeMap CampaignDay CampaignReconciliationTotals)
    (reasons : List ReconciliationReason) (rows : List ReconciliationRow) : Prop where
  compared : ∀ row ∈ rows,
    compareRow row.day skuTotals[row.day]? campaignTotals[row.day]? reasons = .ok row
  once : (rows.map ReconciliationRow.day).Nodup
  days : ∀ day : CampaignDay, day ∈ rows.map ReconciliationRow.day ↔
    skuTotals[day]?.isSome = true ∨ campaignTotals[day]?.isSome = true

section Merge

variable {skuTotals : ExtTreeMap CampaignDay SkuReconciliationTotals}
  {campaignTotals : ExtTreeMap CampaignDay CampaignReconciliationTotals}
  {reasons : List ReconciliationReason}

theorem foldlM_compareSkuEntry {entries : List (CampaignDay × SkuReconciliationTotals)}
    {state : List ReconciliationRow × ExtTreeMap CampaignDay CampaignReconciliationTotals}
    (hnodup : (entries.map Prod.fst).Nodup)
    (h : entries.foldlM (compareSkuEntry reasons) ([], campaignTotals) = .ok state) :
    state.1.map ReconciliationRow.day = entries.map Prod.fst ∧
      (∀ row ∈ state.1, ∃ entry ∈ entries,
        compareRow entry.1 (some entry.2) campaignTotals[entry.1]? reasons = .ok row) ∧
      ∀ day : CampaignDay, state.2[day]? =
        if day ∈ entries.map Prod.fst then none else campaignTotals[day]? := by
  refine foldlM_invariant (P := fun done state => (done.map Prod.fst).Nodup →
    state.1.map ReconciliationRow.day = done.map Prod.fst ∧
      (∀ row ∈ state.1, ∃ entry ∈ done,
        compareRow entry.1 (some entry.2) campaignTotals[entry.1]? reasons = .ok row) ∧
      ∀ day : CampaignDay, state.2[day]? =
        if day ∈ done.map Prod.fst then none else campaignTotals[day]?) ?_ ?_ h hnodup
  · intro _
    simp
  · intro done before entry after hinv hstep hdone
    simp only [compareSkuEntry, ok_of_bind, ok_of_pure] at hstep
    obtain ⟨row, hrow, rfl⟩ := hstep
    rw [List.map_append, List.map_singleton, List.nodup_append] at hdone
    obtain ⟨hdone, -, hnew⟩ := hdone
    have hfresh : entry.1 ∉ done.map Prod.fst :=
      fun hmem => hnew _ hmem _ (List.mem_singleton_self _) rfl
    obtain ⟨hdays, hrows, hleft⟩ := hinv hdone
    rw [hleft, if_neg hfresh] at hrow
    refine ⟨?_, fun row' hrow' => ?_, fun day => ?_⟩
    · rw [List.map_append, List.map_append, hdays, List.map_singleton, List.map_singleton,
        (compareRow_day hrow).1]
    · rcases List.mem_append.mp hrow' with hrow' | hrow'
      · obtain ⟨entry', hentry', hcompare⟩ := hrows row' hrow'
        exact ⟨entry', List.mem_append_left _ hentry', hcompare⟩
      · rw [List.mem_singleton] at hrow'
        exact ⟨entry, List.mem_append_right _ (List.mem_singleton_self _), hrow' ▸ hrow⟩
    · rw [getElem?_remove, hleft day, List.map_append, List.map_singleton]
      by_cases heq : entry.1 = day
      · rw [if_pos heq, if_pos (by simp [heq])]
      · rw [if_neg heq]
        refine if_congr ?_ rfl rfl
        simp [Ne.symm heq]

/-- **Neither pass drops or duplicates a campaign day.** -/
theorem merged_compareRows {rows : List ReconciliationRow}
    (h : compareRows skuTotals campaignTotals reasons = .ok rows) :
    Merged skuTotals campaignTotals reasons rows := by
  simp only [compareRows, ok_of_bind, ok_of_pure] at h
  obtain ⟨state, hstate, rest, hrest, rfl⟩ := h
  have hnodup : (skuTotals.toList.map Prod.fst).Nodup := by
    rw [ExtTreeMap.map_fst_toList_eq_keys]
    exact ExtTreeMap.nodup_keys
  obtain ⟨hdays, hrows, hleft⟩ := foldlM_compareSkuEntry hnodup hstate
  have hrestDays : rest.map ReconciliationRow.day = state.2.keys := by
    rw [← ExtTreeMap.map_fst_toList_eq_keys]
    exact map_of_mapM (fun entry row hrow => (compareRow_day hrow).1) hrest
  have hsku : ∀ day : CampaignDay, day ∈ skuTotals.toList.map Prod.fst ↔
      skuTotals[day]?.isSome = true := by
    intro day
    rw [ExtTreeMap.map_fst_toList_eq_keys, mem_keys_iff]
  have hkeys : ∀ day : CampaignDay, day ∈ state.2.keys ↔
      skuTotals[day]?.isSome = false ∧ campaignTotals[day]?.isSome = true := by
    intro day
    rw [mem_keys_iff, hleft day]
    by_cases hday : day ∈ skuTotals.toList.map Prod.fst
    · rw [if_pos hday]
      simp [(hsku day).mp hday]
    · rw [if_neg hday]
      rw [hsku day, Bool.not_eq_true] at hday
      simp [hday]
  refine ⟨fun row hrow => ?_, ?_, fun day => ?_⟩
  · rcases List.mem_append.mp hrow with hrow | hrow
    · obtain ⟨entry, hentry, hcompare⟩ := hrows row hrow
      rw [(compareRow_day hcompare).1, ExtTreeMap.mem_toList_iff_getElem?_eq_some.mp hentry]
      exact hcompare
    · obtain ⟨entry, hentry, hcompare⟩ := exists_of_mem_mapM hrest row hrow
      have hget := ExtTreeMap.mem_toList_iff_getElem?_eq_some.mp hentry
      have hkey := (hkeys entry.1).mp (mem_keys_iff.mpr (by rw [hget]; rfl))
      have hnone : skuTotals[entry.1]? = none :=
        Option.not_isSome_iff_eq_none.mp (hkey.1 ▸ Bool.false_ne_true)
      rw [hleft, if_neg (by rw [hsku, hnone]; simp)] at hget
      rw [(compareRow_day hcompare).1, hnone, hget]
      exact hcompare
  · rw [List.map_append, hdays, hrestDays]
    refine List.nodup_append.mpr ⟨hnodup, ExtTreeMap.nodup_keys, ?_⟩
    rintro a ha b hb rfl
    rw [hsku] at ha
    have := ((hkeys a).mp hb).1
    rw [ha] at this
    cases this
  · rw [List.map_append, List.mem_append, hdays, hsku, hrestDays, hkeys]
    cases skuTotals[day]?.isSome <;> simp

end Merge

/-! ## Exact rows -/

theorem mem_sourceReasons {input : ReconciliationInput} {reason : ReconciliationReason}
    (h : reason ∈ sourceReasons input) : reason = .skuCoverageIncomplete ∨
      reason = .campaignCoverageIncomplete ∨ reason = .sourceObservationsDiffer ∨
      reason = .skuObservationBeforeWindowEnd ∨ reason = .campaignObservationBeforeWindowEnd := by
  simp only [sourceReasons, mem_reasonsOf, List.mem_cons, Prod.mk.injEq, List.not_mem_nil] at h
  tauto

theorem compareRow_both {day : CampaignDay} {sku : SkuReconciliationTotals}
    {campaign : CampaignReconciliationTotals} {reasons : List ReconciliationReason}
    {row : ReconciliationRow} (h : compareRow day (some sku) (some campaign) reasons = .ok row) :
    ∃ arithmetic, combinedArithmetic sku campaign = .ok arithmetic ∧
      row.dailyMinusDirect = some (directDelta sku campaign) ∧
      row.directPlusModelArithmetic = some arithmetic ∧
      row.reasons = reasons ++ differenceReasons (directDelta sku campaign) arithmetic := by
  simp only [compareRow, ok_of_bind, ok_of_pure] at h
  obtain ⟨arithmetic, harithmetic, rfl⟩ := h
  exact ⟨arithmetic, harithmetic, rfl, rfl, rfl⟩

theorem combinedArithmetic_ok {sku : SkuReconciliationTotals}
    {campaign : CampaignReconciliationTotals} {arithmetic : DirectPlusModelArithmetic}
    (h : combinedArithmetic sku campaign = .ok arithmetic) :
    arithmetic.combinedOrders = sku.directOrders + sku.modelOrders ∧
      arithmetic.combinedRevenueMinor = sku.directRevenueMinor + sku.modelRevenueMinor ∧
      arithmetic.dailyMinusCombinedOrders =
        (campaign.orders : ℤ) - (sku.directOrders + sku.modelOrders) ∧
      arithmetic.dailyMinusCombinedRevenueMinor =
        (campaign.revenueMinor : ℤ) - (sku.directRevenueMinor + sku.modelRevenueMinor) := by
  simp only [combinedArithmetic, addTotal, ok_of_bind, context_eq_ok, checkedAdd_eq_some,
    ok_of_pure] at h
  obtain ⟨_, ⟨rfl, -⟩, _, ⟨rfl, -⟩, rfl⟩ := h
  simp [difference]

theorem compareRow_one {day : CampaignDay} {sku : Option SkuReconciliationTotals}
    {campaign : Option CampaignReconciliationTotals} {reasons : List ReconciliationReason}
    {row : ReconciliationRow} (hone : sku = none ∨ campaign = none)
    (h : compareRow day sku campaign reasons = .ok row) :
    row.dailyMinusDirect = none ∧ row.directPlusModelArithmetic = none ∧
      row.reasons = reasons ++ reasonsOf [(sku.isNone, .missingSkuRow),
        (campaign.isNone, .missingCampaignRow)] := by
  rcases hone with rfl | rfl
  · cases h
    exact ⟨rfl, rfl, rfl⟩
  · cases sku <;> cases h <;> exact ⟨rfl, rfl, rfl⟩

/-- No difference of a row is reported for a whole source. -/
theorem sourceReasons_ne {input : ReconciliationInput} {reason : ReconciliationReason}
    (h : reason ∈ sourceReasons input) : reason ≠ .clicksDiffer ∧
      reason ≠ .spendDiffers ∧ reason ≠ .directOrdersDiffer ∧ reason ≠ .directRevenueDiffers ∧
      reason ≠ .directPlusModelOrdersDiffer ∧ reason ≠ .directPlusModelRevenueDiffers := by
  rcases mem_sourceReasons h with rfl | rfl | rfl | rfl | rfl <;> decide

/-- A row with both sides is exact. -/
theorem rowExact_of_both {input : ReconciliationInput} {row : ReconciliationRow}
    {sku : SkuReconciliationTotals} {campaign : CampaignReconciliationTotals}
    (hsku : row.skuTotals = totalsOn input.skuSource.rows row.day)
    (hcampaign : row.campaignTotals = campaignOn input.campaignSource.rows row.day)
    (hskuSome : row.skuTotals = some sku) (hcampaignSome : row.campaignTotals = some campaign)
    (h : compareRow row.day (some sku) (some campaign) (sourceReasons input) = .ok row) :
    RowExact input row := by
  obtain ⟨arithmetic, harithmetic, hdelta, hcombined, hreasons⟩ := compareRow_both h
  have hreason : ∀ reason, (∀ r, r ∈ sourceReasons input → r ≠ reason) → (reason ∈ row.reasons ↔
      reason ∈ differenceReasons (directDelta sku campaign) arithmetic) := by
    intro reason hne
    rw [hreasons, List.mem_append, or_iff_right fun hmem => hne _ hmem rfl]
  refine ⟨hsku, hcampaign, fun delta => ?_, ⟨by rw [hdelta, hcombined]; rfl, ?_⟩, ?_, ?_, ?_, ?_,
    ?_, ?_⟩
  · rw [hdelta, hskuSome, hcampaignSome, Option.some.injEq]
    constructor
    · rintro rfl
      exact ⟨sku, campaign, rfl, rfl, rfl, rfl, rfl, rfl⟩
    · rintro ⟨_, _, ⟨⟩, ⟨⟩, hclicks, hspend, horders, hrevenue⟩
      cases delta
      simp_all [directDelta, difference]
  · intro a ha
    rw [hcombined, Option.some.injEq] at ha
    exact ⟨sku, campaign, hskuSome, hcampaignSome, ha ▸ combinedArithmetic_ok harithmetic⟩
  all_goals
    rw [hreason _ fun r hr => by have := sourceReasons_ne hr; tauto]
    simp [differenceReasons, mem_reasonsOf, hdelta, hcombined]

/-- A row with one side reports no difference. -/
theorem rowExact_of_one {input : ReconciliationInput} {row : ReconciliationRow}
    (hsku : row.skuTotals = totalsOn input.skuSource.rows row.day)
    (hcampaign : row.campaignTotals = campaignOn input.campaignSource.rows row.day)
    (hone : row.skuTotals = none ∨ row.campaignTotals = none)
    (h : compareRow row.day row.skuTotals row.campaignTotals (sourceReasons input) = .ok row) :
    RowExact input row := by
  obtain ⟨hdelta, hcombined, hreasons⟩ := compareRow_one hone h
  have hnot : ∀ reason, reason ≠ .missingSkuRow → reason ≠ .missingCampaignRow →
      (∀ r, r ∈ sourceReasons input → r ≠ reason) → reason ∉ row.reasons := by
    intro reason hmissingSku hmissingCampaign hne hmem
    rw [hreasons, List.mem_append, mem_reasonsOf] at hmem
    rcases hmem with hmem | hmem
    · exact hne _ hmem rfl
    · simp [hmissingSku, hmissingCampaign] at hmem
  refine ⟨hsku, hcampaign, fun delta => ?_, ⟨by rw [hdelta, hcombined]; rfl, ?_⟩, ?_, ?_, ?_, ?_,
    ?_, ?_⟩
  · rw [hdelta]
    refine iff_of_false (by simp) ?_
    rintro ⟨sku, campaign, hs, hc, -⟩
    rcases hone with hnone | hnone
    · rw [hnone] at hs
      cases hs
    · rw [hnone] at hc
      cases hc
  · intro a ha
    rw [hcombined] at ha
    cases ha
  all_goals
    refine iff_of_false (hnot _ (by decide) (by decide) fun r hr => by
      have := sourceReasons_ne hr; tauto) ?_
    simp [hdelta, hcombined]

/-- A compared row is exact for the totals it is given. -/
theorem rowExact_of_compareRow {input : ReconciliationInput} {row : ReconciliationRow}
    (h : compareRow row.day (totalsOn input.skuSource.rows row.day)
      (campaignOn input.campaignSource.rows row.day) (sourceReasons input) = .ok row) :
    RowExact input row := by
  obtain ⟨-, hsku, hcampaign⟩ := compareRow_day h
  rw [← hsku, ← hcampaign] at h
  cases hskuSome : row.skuTotals with
  | none => exact rowExact_of_one hsku hcampaign (.inl hskuSome) h
  | some sku =>
    cases hcampaignSome : row.campaignTotals with
    | none => exact rowExact_of_one hsku hcampaign (.inr hcampaignSome) h
    | some campaign =>
      rw [hskuSome, hcampaignSome] at h
      exact rowExact_of_both hsku hcampaign hskuSome hcampaignSome h

/-! ## Permuted inputs -/

theorem validateKeys_eq_ok {Row κ : Type} [DecidableEq κ] {valid : Row → Bool} {key : Row → κ}
    {rows : List Row} {keys : List κ} : validateKeys valid key rows keys = .ok () ↔
      (∀ row ∈ rows, valid row = true) ∧ (∀ row ∈ rows, key row ∉ keys) ∧ (rows.map key).Nodup := by
  induction rows generalizing keys with
  | nil => simp [validateKeys]
  | cons row rows ih =>
    rw [List.forall_mem_cons, List.forall_mem_cons]
    simp only [validateKeys, ok_of_bind, ensure_eq_ok, exists_const, ih, List.map_cons,
      List.nodup_cons, List.mem_map, not_exists, not_and, List.mem_cons, not_or]
    constructor
    · rintro ⟨hrow, hnew, hrest, hkeys, hnodup⟩
      exact ⟨⟨hrow, hrest⟩, ⟨hnew, fun r hr => (hkeys r hr).2⟩, fun r hr => (hkeys r hr).1, hnodup⟩
    · rintro ⟨⟨hrow, hrest⟩, ⟨hnew, hkeys⟩, hhead, hnodup⟩
      exact ⟨hrow, hnew, hrest, fun r hr => ⟨hhead r hr, hkeys r hr⟩, hnodup⟩

theorem validateKeys_perm {Row κ : Type} [DecidableEq κ] {valid : Row → Bool} {key : Row → κ}
    {rows rows' : List Row} (hperm : rows.Perm rows') (h : validateKeys valid key rows [] = .ok ()) :
    validateKeys valid key rows' [] = .ok () := by
  rw [validateKeys_eq_ok] at h ⊢
  refine ⟨fun row hrow => h.1 row (hperm.mem_iff.mpr hrow), by simp, ?_⟩
  exact (hperm.map key).nodup_iff.mp h.2.2

/-- The input with other rows. -/
def ReconciliationInput.withRows (input : ReconciliationInput)
    (skuRows : List ReconciliationSkuRow) (campaignRows : List ReconciliationCampaignRow) :
    ReconciliationInput :=
  { input with
    skuSource := { input.skuSource with rows := skuRows }
    campaignSource := { input.campaignSource with rows := campaignRows } }

section Permuted

variable {input : ReconciliationInput} {skuRows : List ReconciliationSkuRow}
  {campaignRows : List ReconciliationCampaignRow}

theorem validate_withRows (hsku : input.skuSource.rows.Perm skuRows)
    (hcampaign : input.campaignSource.rows.Perm campaignRows) (h : validate input = .ok ()) :
    validate (input.withRows skuRows campaignRows) = .ok () := by
  simp only [validate, validateRows, validateSource, ok_of_bind, ensure_eq_ok, exists_const] at h ⊢
  obtain ⟨hscope, ⟨hdays, hrows⟩, hskuSource, hcampaignSource, _, hskuKeys, hcampaignKeys⟩ := h
  refine ⟨hscope, ⟨hdays, ?_⟩, hskuSource, hcampaignSource, (), ?_, ?_⟩
  · show skuRows.length + campaignRows.length ≤ maxReconciliationRows
    rwa [← hsku.length_eq, ← hcampaign.length_eq]
  · exact validateKeys_perm hsku hskuKeys
  · exact validateKeys_perm hcampaign hcampaignKeys

theorem nodup_of_validate (h : validate input = .ok ()) :
    (input.skuSource.rows.map ReconciliationSkuRow.key).Nodup ∧
      (input.campaignSource.rows.map ReconciliationCampaignRow.day).Nodup := by
  simp only [validate, validateRows, ok_of_bind, ensure_eq_ok, exists_const] at h
  obtain ⟨-, -, _, -, _, -, _, hskuKeys, hcampaignKeys⟩ := h
  exact ⟨(validateKeys_eq_ok.mp hskuKeys).2.2, (validateKeys_eq_ok.mp hcampaignKeys).2.2⟩

/-- Accepted rows have one canonical order. -/
theorem sorted_withRows (hsku : input.skuSource.rows.Perm skuRows)
    (hcampaign : input.campaignSource.rows.Perm campaignRows) (h : validate input = .ok ()) :
    (input.withRows skuRows campaignRows).sorted = input.sorted := by
  obtain ⟨hskuKeys, hcampaignKeys⟩ := nodup_of_validate h
  unfold ReconciliationInput.sorted ReconciliationInput.withRows
  rw [sortByKey_eq_of_perm hsku hskuKeys, sortByKey_eq_of_perm hcampaign hcampaignKeys]

end Permuted

/-- **Reconciliation is exact and free of order.** The report has one row for every campaign day of
either source, in ascending order, every row is exact, and any order of the same rows gives the same
report with the same digest. -/
theorem reconcile_exact {toVec : ReconciliationInput → List UInt8} {sha256 : List UInt8 → String}
    {input : ReconciliationInput} {report : ReconciliationReport}
    (h : reconcile toVec sha256 input = .ok report) :
    (∀ day : CampaignDay, day ∈ report.rows.map ReconciliationRow.day ↔
      day ∈ input.skuSource.rows.map ReconciliationSkuRow.day ∨
        day ∈ input.campaignSource.rows.map ReconciliationCampaignRow.day) ∧
    (report.rows.map ReconciliationRow.day).Pairwise (· < ·) ∧
    (∀ row ∈ report.rows, RowExact input row) ∧
    ∀ skuRows campaignRows, input.skuSource.rows.Perm skuRows →
      input.campaignSource.rows.Perm campaignRows →
      reconcile toVec sha256 (input.withRows skuRows campaignRows) = .ok report := by
  have hperm : ∀ skuRows campaignRows, input.skuSource.rows.Perm skuRows →
      input.campaignSource.rows.Perm campaignRows →
      reconcile toVec sha256 (input.withRows skuRows campaignRows) = .ok report := by
    intro skuRows campaignRows hsku hcampaign
    have hvalid := (ok_of_bind.mp h).choose_spec.1
    rw [← h, reconcile, reconcile, validate_withRows hsku hcampaign hvalid, hvalid,
      sorted_withRows hsku hcampaign hvalid]
  simp only [reconcile, ok_of_bind, ensure_eq_ok, exists_const, ok_of_pure] at h
  obtain ⟨_, hvalid, -, skuTotals, hskuTotals, rows, hrows, rfl⟩ := h
  obtain ⟨-, hcampaignKeys⟩ := nodup_of_validate hvalid
  have hmerged := merged_compareRows hrows
  have hskuPerm := sortByKey_perm ReconciliationSkuRow.key input.skuSource.rows
  have hcampaignPerm := sortByKey_perm ReconciliationCampaignRow.day input.campaignSource.rows
  have hskuGet : ∀ day : CampaignDay, skuTotals[day]? = totalsOn input.skuSource.rows day :=
    fun day => (getElem?_aggregateSkuRows hskuTotals day).trans (totalsOn_perm hskuPerm day)
  have hcampaignGet : ∀ day : CampaignDay, (ExtTreeMap.ofList
      (input.sorted.campaignSource.rows.map fun row => (row.day, row.totals)))[day]? =
        campaignOn input.campaignSource.rows day :=
    fun day => (getElem?_campaignTotals
      ((hcampaignPerm.map ReconciliationCampaignRow.day).nodup_iff.mpr hcampaignKeys) day).trans
      (campaignOn_perm hcampaignKeys hcampaignPerm.symm day).symm
  refine ⟨fun day => ?_, ?_, fun row hrow => ?_, hperm⟩
  · show day ∈ (sortByKey ReconciliationRow.day rows).map ReconciliationRow.day ↔ _
    rw [((sortByKey_perm ReconciliationRow.day rows).map _).mem_iff, hmerged.days day, hskuGet,
      isSome_totalsOn]
    refine or_congr_right ?_
    rw [hcampaignGet, isSome_campaignOn]
  · exact pairwise_lt_sortByKey hmerged.once
  · have hcompared := hmerged.compared row (mem_sortByKey.mp hrow)
    rw [hskuGet, hcampaignGet] at hcompared
    exact rowExact_of_compareRow hcompared

/-- Two days of two campaigns: campaign 7 on both sides, with two kopecks more on its own side on the first
day, and campaign 9 on one side a day. -/
def twoCampaigns : ReconciliationInput where
  version := 1
  accountId := "main"
  asOf := seconds (20010 * 86400)
  windowStart := 20000
  windowEnd := 20001
  skuSource := ⟨"main", "sku", seconds (20010 * 86400), true,
    [⟨20001, 7, 1, 1, 3, 0, 0, 0, 0⟩, ⟨20000, 9, 5, 4, 8, 0, 0, 0, 0⟩, ⟨20000, 7, 2, 2, 5, 0, 0, 1, 300⟩,
      ⟨20000, 7, 1, 3, 10, 1, 500, 0, 0⟩]⟩
  campaignSource := ⟨"main", "campaign", seconds (20010 * 86400), true,
    [⟨20001, 9, 2, 6, 0, 0⟩, ⟨20001, 7, 1, 3, 0, 0⟩, ⟨20000, 7, 5, 17, 2, 800⟩]⟩

/-- Its canonical text. -/
def twoCampaignsJson : String :=
  "\x7b\"version\":1,\"account_id\":\"main\",\"as_of\":\"2024-10-14T00:00:00Z\"," ++
  "\"window_start\":\"2024-10-04\",\"window_end\":\"2024-10-05\"," ++
  "\"sku_source\":\x7b\"account_id\":\"main\",\"source_ref\":\"sku\"," ++
  "\"observed_at\":\"2024-10-14T00:00:00Z\",\"coverage_complete\":true," ++
  "\"rows\":[\x7b\"date\":\"2024-10-04\",\"campaign_id\":7,\"sku\":1,\"clicks\":3," ++
  "\"spend_minor\":10,\"direct_orders\":1,\"direct_revenue_minor\":500,\"model_orders\":0," ++
  "\"model_revenue_minor\":0\x7d,\x7b\"date\":\"2024-10-04\",\"campaign_id\":7,\"sku\":2," ++
  "\"clicks\":2,\"spend_minor\":5,\"direct_orders\":0,\"direct_revenue_minor\":0," ++
  "\"model_orders\":1,\"model_revenue_minor\":300\x7d,\x7b\"date\":\"2024-10-04\"," ++
  "\"campaign_id\":9,\"sku\":5,\"clicks\":4,\"spend_minor\":8,\"direct_orders\":0," ++
  "\"direct_revenue_minor\":0,\"model_orders\":0,\"model_revenue_minor\":0\x7d," ++
  "\x7b\"date\":\"2024-10-05\",\"campaign_id\":7,\"sku\":1,\"clicks\":1,\"spend_minor\":3," ++
  "\"direct_orders\":0,\"direct_revenue_minor\":0,\"model_orders\":0," ++
  "\"model_revenue_minor\":0\x7d]\x7d,\"campaign_source\":\x7b\"account_id\":\"main\"," ++
  "\"source_ref\":\"campaign\",\"observed_at\":\"2024-10-14T00:00:00Z\"," ++
  "\"coverage_complete\":true,\"rows\":[\x7b\"date\":\"2024-10-04\",\"campaign_id\":7," ++
  "\"clicks\":5,\"spend_minor\":17,\"orders\":2,\"revenue_minor\":800\x7d," ++
  "\x7b\"date\":\"2024-10-05\",\"campaign_id\":7,\"clicks\":1,\"spend_minor\":3,\"orders\":0," ++
  "\"revenue_minor\":0\x7d,\x7b\"date\":\"2024-10-05\",\"campaign_id\":9,\"clicks\":2," ++
  "\"spend_minor\":6,\"orders\":0,\"revenue_minor\":0\x7d]\x7d\x7d"

/-- The report on them. -/
def twoCampaignsReport : ReconciliationReport where
  version := 1
  currency := "RUB"
  accountId := "main"
  asOf := seconds (20010 * 86400)
  windowStart := 20000
  windowEnd := 20001
  inputSha256 := "c5b1c67f6344b8e890688cd03e82524c8a255b3c5bfc8832102e05e3db241ad6"
  skuSource := ⟨"main", "sku", seconds (20010 * 86400), true, 4⟩
  campaignSource := ⟨"main", "campaign", seconds (20010 * 86400), true, 3⟩
  semanticEquivalenceVerified := false
  reasons := []
  rows := [
    ⟨20000, 7, some ⟨2, 5, 15, 1, 500, 1, 300⟩, some ⟨5, 17, 2, 800⟩, some ⟨0, 2, 1, 300⟩,
      some ⟨true, 2, 800, 0, 0, true, true⟩, [.spendDiffers, .directOrdersDiffer, .directRevenueDiffers]⟩,
    ⟨20000, 9, some ⟨1, 4, 8, 0, 0, 0, 0⟩, none, none, none, [.missingCampaignRow]⟩,
    ⟨20001, 7, some ⟨1, 1, 3, 0, 0, 0, 0⟩, some ⟨1, 3, 0, 0⟩, some ⟨0, 0, 0, 0⟩,
      some ⟨true, 0, 0, 0, 0, true, true⟩, []⟩,
    ⟨20001, 9, none, some ⟨2, 6, 0, 0⟩, none, none, [.missingSkuRow]⟩]

theorem reconcile_exact_two_campaigns :
    reconcile (fun _ => twoCampaignsJson.toUTF8.toList) (fun _ => twoCampaignsReport.inputSha256) twoCampaigns =
        .ok twoCampaignsReport ∧
      reconcile (fun _ => twoCampaignsJson.toUTF8.toList) (fun _ => twoCampaignsReport.inputSha256)
        (twoCampaigns.withRows twoCampaigns.skuSource.rows.reverse twoCampaigns.campaignSource.rows.reverse) =
          .ok twoCampaignsReport ∧
      ∀ row ∈ twoCampaignsReport.rows, RowExact twoCampaigns row := by
  have hreport : reconcile (fun _ => twoCampaignsJson.toUTF8.toList)
      (fun _ => twoCampaignsReport.inputSha256) twoCampaigns = .ok twoCampaignsReport := by
    decide +kernel
  obtain ⟨-, -, hrows, hperm⟩ := reconcile_exact hreport
  exact ⟨hreport, hperm _ _ (List.reverse_perm _).symm (List.reverse_perm _).symm, hrows⟩

end AdsControl.Optimizer.Reconciliation
