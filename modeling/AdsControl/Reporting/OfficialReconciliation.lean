import AdsControl.Reporting.FinanceComparison

/-!
# Official summaries

Two totals of a weekly report are compared with its official summary: values of sales minus values of
returns, with the sign of the document and not of the amount. A column is unavailable when a row lacks the
amount or has one that is neither of a sale nor of a return.

* `signedColumnTotal`: the loop over the rows, **`signedColumnTotal_spec`**: what it computes;
* `reconcileWbOfficialReport`: the comparison;
* `OfficialComparable`: what has to hold before totals are compared;
* **`official_reconciliation_exact`**: the verdict.
-/

namespace AdsControl.Reporting

open Distinct Fallible OrderedMap Std

/-- How a comparison ends. -/
inductive WbOfficialComparisonStatus
  | primaryTotalsMatch
  | mismatch
  | unavailable
  deriving DecidableEq

/-- Why there is nothing to compare. -/
inductive WbOfficialUnavailable
  | missingBaseline
  | incompleteDetails
  | incompleteBaseline
  | scopeMismatch
  | nonIndependentBaseline
  | unsupportedPeriod
  | notOfficialSummary
  | emptyDetails
  | missingSummaryAmount
  | missingDetailAmount
  | unsupportedDocumentType
  deriving DecidableEq

/-- A column on both sides. -/
structure WbOfficialColumnComparison where
  detailColumn : String
  summaryColumn : String
  detailTotal : Option ExactFinanceTotal
  summaryTotal : Option ExactFinanceTotal
  /-- Details minus summary. -/
  difference : Option ExactFinanceTotal
  status : WbOfficialComparisonStatus
  unavailableReason : Option WbOfficialUnavailable
  deriving DecidableEq

/-- The comparison of a report. -/
structure WbOfficialComparison where
  mappingVersion : String
  status : WbOfficialComparisonStatus
  unavailableReason : Option WbOfficialUnavailable
  columns : List WbOfficialColumnComparison
  deriving DecidableEq

/-- The version of the pairs of columns. -/
def wbOfficialMappingVersion : String := "wb_weekly_primary_totals_v1"

/-- Columns of the details with their columns of the summary. -/
def officialColumns : List (String × String) := [("retailAmount", "retailAmountSum"), ("forPay", "forPaySum")]

/-! ## Signed totals -/

theorem zero_fits : -2 ^ 127 ≤ (0 : ℤ) ∧ (0 : ℤ) < 2 ^ 127 := by norm_num

/-- Add an amount or its opposite. -/
def addSigned (total : ExactFinanceTotal) (amount : WbFinanceDecimal) (sign : ℤ) :
    Except FinanceReconciliationError ExactFinanceTotal := do
  let units ← checkedCoefficient (amount.units.val * sign)
  total.checkedAdd ⟨units, amount.scale⟩

/-- The exact difference. -/
def subtract (actual expected : ExactFinanceTotal) : Except FinanceReconciliationError ExactFinanceTotal := do
  let scale := max actual.scale expected.scale
  let left ← actual.rescaledUnits scale
  let right ← expected.rescaledUnits scale
  let units ← checkedCoefficient (left.val - right.val)
  return ⟨units, scale⟩

/-- The sign of a document, none for what is neither a sale nor a return. -/
def documentSign (row : WbFinanceDetailRow) : Option ℤ :=
  match wbFinanceDocumentKind row.documentType with
  | .sale => some 1
  | .return => some (-1)
  | .unspecified | .unknown => none

/-- The rows from a total on, or why they have none. -/
def signedTotalFrom (column : String) (total : ExactFinanceTotal) : List WbFinanceDetailRow →
    Except FinanceReconciliationError (Except WbOfficialUnavailable ExactFinanceTotal)
  | [] => .ok (.ok total)
  | row :: rows =>
    match row.amounts[column]?, documentSign row with
    | none, _ => .ok (.error .missingDetailAmount)
    | some amount, some sign => do signedTotalFrom column (← addSigned total amount sign) rows
    -- a zero is harmless whatever the document is
    | some amount, none =>
      if amount.units.val = 0 then signedTotalFrom column total rows
      else .ok (.error .unsupportedDocumentType)

/-- The total of a column, with returns subtracted. -/
def signedColumnTotal (rows : List WbFinanceDetailRow) (column : String) :
    Except FinanceReconciliationError (Except WbOfficialUnavailable ExactFinanceTotal) :=
  signedTotalFrom column ⟨⟨0, zero_fits⟩, 0⟩ rows

/-! ## The comparison -/

/-- A difference of zero is a match. -/
def officialStatus : Option ExactFinanceTotal → WbOfficialComparisonStatus
  | none => .unavailable
  | some amount => if amount.units.val = 0 then .primaryTotalsMatch else .mismatch

/-- The difference of two totals, if there are both. -/
def officialDifference : Option ExactFinanceTotal → Option ExactFinanceTotal →
    Except FinanceReconciliationError (Option ExactFinanceTotal)
  | some actual, some expected => (subtract actual expected).map some
  | _, _ => .ok none

/-- Compare one pair of columns. -/
def compareColumn (rows : List WbFinanceDetailRow) (baseline : WbFinanceBaseline) (names : String × String) :
    Except FinanceReconciliationError WbOfficialColumnComparison := do
  let summaryTotal := baseline.totals[names.2]?
  ensure (summaryTotal.all fun amount => amount.scale ≤ maxScale) .invalidAmount
  let actual ← signedColumnTotal rows names.1
  let reason := (match actual with | .ok _ => none | .error reason => some reason).or
    (if summaryTotal.isNone then some .missingSummaryAmount else none)
  let difference ← officialDifference actual.toOption summaryTotal
  return {
    detailColumn := names.1
    summaryColumn := names.2
    detailTotal := actual.toOption
    summaryTotal
    difference
    status := officialStatus difference
    unavailableReason := reason }

/-- A comparison that cannot be made. -/
def officialUnavailable (reason : WbOfficialUnavailable) : WbOfficialComparison :=
  ⟨wbOfficialMappingVersion, .unavailable, some reason, []⟩

/-- The verdict over the columns. -/
def officialVerdict (columns : List WbOfficialColumnComparison) : WbOfficialComparison :=
  let reason := columns.findSome? WbOfficialColumnComparison.unavailableReason
  let status := if reason.isSome then .unavailable
    else if columns.any fun column => column.status = .mismatch then .mismatch
    else .primaryTotalsMatch
  ⟨wbOfficialMappingVersion, status, reason, columns⟩

/-- Rows of the report alone, ascending and complete. -/
def validateOfficialRows (rows : List WbFinanceDetailRow) (evidence : WbFinanceComparisonEvidence) :
    Except FinanceReconciliationError Unit := do
  ensure (rows.length ≤ wbFinanceMaxRows) .invalidRows
  visit (fun row => do
    row.validate.mapError fun _ => .invalidRows
    ensure (row.reportId = evidence.scope.reportId ∧ row.currency = evidence.scope.currency) .invalidEvidence)
    WbFinanceDetailRow.rrdId .duplicateRow (fun _ => .ok ()) [] rows

/-- Details against a baseline that was validated. -/
def compareOfficialBaseline (rows : List WbFinanceDetailRow) (evidence : WbFinanceComparisonEvidence)
    (baseline : WbFinanceBaseline) : Except FinanceReconciliationError WbOfficialComparison :=
  if evidence.scope ≠ baseline.evidence.scope then .ok (officialUnavailable .scopeMismatch)
  else if ¬ baseline.evidence.complete then .ok (officialUnavailable .incompleteBaseline)
  else if evidence.sameSource baseline.evidence then .ok (officialUnavailable .nonIndependentBaseline)
  else if baseline.kind ≠ .officialReportSummary then .ok (officialUnavailable .notOfficialSummary)
  else if evidence.scope.period ≠ .weekly then .ok (officialUnavailable .unsupportedPeriod)
  else if rows.isEmpty then .ok (officialUnavailable .emptyDetails)
  else (officialColumns.mapM (compareColumn rows baseline)).map officialVerdict

/-- **The comparison of a weekly report with its official summary.** -/
def reconcileWbOfficialReport (rows : List WbFinanceDetailRow) (evidence : WbFinanceComparisonEvidence)
    (baseline : Option WbFinanceBaseline) : Except FinanceReconciliationError WbOfficialComparison := do
  validateEvidence evidence
  validateOfficialRows rows evidence
  if ¬ evidence.complete then return officialUnavailable .incompleteDetails
  else match baseline with
    | none => return officialUnavailable .missingBaseline
    | some baseline => do
      validateEvidence baseline.evidence
      compareOfficialBaseline rows evidence baseline

/-! ## What the loop computes -/

/-- A row that a column can be compared with: it has the amount, which is zero if the document has no
sign. -/
def Supported (column : String) (row : WbFinanceDetailRow) : Prop :=
  ∃ amount, row.amounts[column]? = some amount ∧ (documentSign row = none → amount.units.val = 0)

/-- The value of a column of a row. -/
def amountValue (column : String) (row : WbFinanceDetailRow) : ℚ :=
  row.amounts[column]?.elim 0 fun amount => amount.decimal.value

/-- **The rational sum over sales minus the sum over returns.** -/
def salesMinusReturns (column : String) (rows : List WbFinanceDetailRow) : ℚ :=
  ((rows.filter fun row => wbFinanceDocumentKind row.documentType = .sale).map (amountValue column)).sum -
    ((rows.filter fun row => wbFinanceDocumentKind row.documentType = .return).map (amountValue column)).sum

section Loop

variable {column : String} {rows : List WbFinanceDetailRow} {row : WbFinanceDetailRow}

theorem salesMinusReturns_cons : salesMinusReturns column (row :: rows) =
    amountValue column row * (documentSign row).elim 0 Int.cast + salesMinusReturns column rows := by
  unfold salesMinusReturns documentSign
  cases hkind : wbFinanceDocumentKind row.documentType <;> simp [hkind] <;> ring

theorem value_addSigned {total sum : ExactFinanceTotal} {amount : WbFinanceDecimal} {sign : ℤ}
    (h : addSigned total amount sign = .ok sum) :
    sum.decimal.value = total.decimal.value + amount.decimal.value * sign := by
  obtain ⟨units, hunits, hadd⟩ := ok_of_bind.mp h
  rw [ExactFinanceTotal.decimal_checkedAdd hadd, Decimal.value_add]
  have hsigned : (WbFinanceDecimal.mk units amount.scale).decimal.value = amount.decimal.value * sign := by
    show ((units.val : ℤ) : ℚ) / 10 ^ amount.scale = (amount.units.val : ℚ) / 10 ^ amount.scale * sign
    rw [checkedCoefficient_eq_ok.mp hunits, Int.cast_mul, mul_div_right_comm]
  rw [hsigned]

/-- **The loop**: a total where every row is supported, and then the exact one. -/
theorem signedTotalFrom_spec {total : ExactFinanceTotal}
    {result : Except WbOfficialUnavailable ExactFinanceTotal}
    (h : signedTotalFrom column total rows = .ok result) :
    (∀ reason, result = .error reason → ¬ ∀ row ∈ rows, Supported column row) ∧
      ∀ sum, result = .ok sum → (∀ row ∈ rows, Supported column row) ∧
        sum.decimal.value = total.decimal.value + salesMinusReturns column rows := by
  induction rows generalizing total with
  | nil =>
    cases h
    refine ⟨nofun, ?_⟩
    rintro _ ⟨⟩
    exact ⟨List.forall_mem_nil _, by simp [salesMinusReturns]⟩
  | cons row rows ih =>
    rw [List.forall_mem_cons, salesMinusReturns_cons]
    cases hamount : row.amounts[column]? with
    | none =>
      have hmissing : ¬ Supported column row := by
        rintro ⟨amount, hsome, -⟩
        rw [hamount] at hsome
        cases hsome
      simp only [signedTotalFrom, hamount] at h
      cases h
      exact ⟨fun _ _ hall => hmissing hall.1, fun _ hsum => absurd hsum (by simp)⟩
    | some amount =>
      have hvalue : amountValue column row = amount.decimal.value := by
        rw [amountValue, hamount, Option.elim_some]
      cases hsign : documentSign row with
      | some sign =>
        have hsupported : Supported column row := ⟨amount, hamount, by rw [hsign]; nofun⟩
        simp only [signedTotalFrom, hamount, hsign, ok_of_bind] at h
        obtain ⟨next, hadd, hrest⟩ := h
        obtain ⟨herror, hok⟩ := ih hrest
        refine ⟨fun reason hreason hall => herror reason hreason hall.2, fun sum hsum => ?_⟩
        obtain ⟨hall, heq⟩ := hok sum hsum
        refine ⟨⟨hsupported, hall⟩, ?_⟩
        rw [heq, value_addSigned hadd, hvalue, Option.elim_some, add_assoc]
      | none =>
        simp only [signedTotalFrom, hamount, hsign] at h
        split_ifs at h with hzero
        · have hsupported : Supported column row := ⟨amount, hamount, fun _ => hzero⟩
          obtain ⟨herror, hok⟩ := ih h
          refine ⟨fun reason hreason hall => herror reason hreason hall.2, fun sum hsum => ?_⟩
          obtain ⟨hall, heq⟩ := hok sum hsum
          refine ⟨⟨hsupported, hall⟩, ?_⟩
          rw [heq, Option.elim_none, mul_zero, zero_add]
        · have hunsupported : ¬ Supported column row := by
            rintro ⟨amount', hsome, hunits⟩
            rw [hamount, Option.some.injEq] at hsome
            exact hzero (hsome ▸ hunits hsign)
          cases h
          exact ⟨fun _ _ hall => hunsupported hall.1, fun _ hsum => absurd hsum (by simp)⟩

theorem units_subtract {actual expected difference : ExactFinanceTotal}
    (h : subtract actual expected = .ok difference) :
    difference.units.val = 0 ↔ actual.decimal.value = expected.decimal.value := by
  simp only [subtract, ok_of_bind, ok_of_pure, ExactFinanceTotal.rescaledUnits_eq_ok,
    checkedCoefficient_eq_ok] at h
  obtain ⟨left, ⟨⟨hleftscale, -⟩, hleft⟩, right, ⟨⟨hrightscale, -⟩, hright⟩, units, hunits, rfl⟩ := h
  have hpow : (10 : ℚ) ^ max actual.scale expected.scale ≠ 0 := by positivity
  rw [← Decimal.value_rescaled actual.decimal hleftscale,
    ← Decimal.value_rescaled expected.decimal hrightscale, div_left_inj' hpow, Int.cast_inj, ← hleft,
    ← hright]
  show units.val = 0 ↔ _
  rw [hunits, sub_eq_zero]

end Loop

/-! ## Columns -/

/-- Every row is supported, and the summary has its column. -/
def ColumnComparable (rows : List WbFinanceDetailRow) (baseline : WbFinanceBaseline)
    (names : String × String) : Prop :=
  (∀ row ∈ rows, Supported names.1 row) ∧ baseline.totals[names.2]?.isSome = true

/-- Sales minus returns are the amount of the summary. -/
def ColumnAgrees (rows : List WbFinanceDetailRow) (baseline : WbFinanceBaseline)
    (names : String × String) : Prop :=
  ∃ total, baseline.totals[names.2]? = some total ∧ salesMinusReturns names.1 rows = total.decimal.value

section Columns

variable {rows rows' : List WbFinanceDetailRow} {baseline : WbFinanceBaseline} {names : String × String}
  {column : WbOfficialColumnComparison}

/-- **One column**: it has a verdict if it is comparable, and the verdict is that of the sums. -/
theorem compareColumn_spec (h : compareColumn rows baseline names = .ok column) :
    (column.unavailableReason = none ↔ ColumnComparable rows baseline names) ∧
      (ColumnComparable rows baseline names →
        (column.status = .mismatch ↔ ¬ ColumnAgrees rows baseline names)) := by
  simp only [compareColumn, ok_of_bind, ok_of_pure] at h
  obtain ⟨_, -, actual, hactual, difference, hdifference, rfl⟩ := h
  obtain ⟨herror, hok⟩ := signedTotalFrom_spec hactual
  unfold ColumnComparable ColumnAgrees
  cases actual with
  | error reason =>
    have hnone := herror reason rfl
    exact ⟨iff_of_false (by simp) fun hall => hnone hall.1, fun hall => absurd hall.1 hnone⟩
  | ok total =>
    obtain ⟨hall, hvalue⟩ := hok total rfl
    have hzero : (ExactFinanceTotal.mk ⟨0, zero_fits⟩ 0).decimal.value = 0 := by
      simp [ExactFinanceTotal.decimal, Decimal.value]
    rw [hzero, zero_add] at hvalue
    cases hsummary : baseline.totals[names.2]? with
    | none =>
      exact ⟨iff_of_false (by simp) fun hcomparable => by simpa using hcomparable.2,
        fun hcomparable => by simpa using hcomparable.2⟩
    | some expected =>
      refine ⟨iff_of_true (by simp) ⟨hall, rfl⟩, fun _ => ?_⟩
      rw [hsummary] at hdifference
      obtain ⟨amount, hsubtract, rfl⟩ := ok_of_map.mp hdifference
      have hunits := units_subtract hsubtract
      rw [hvalue] at hunits
      simp only [officialStatus, Option.some.injEq, exists_eq_left', ← hunits]
      split_ifs with hamount <;> simp [hamount]

theorem salesMinusReturns_perm (h : rows.Perm rows') (name : String) :
    salesMinusReturns name rows = salesMinusReturns name rows' := by
  rw [salesMinusReturns, ((h.filter _).map _).sum_eq, ((h.filter _).map _).sum_eq, salesMinusReturns]

theorem columnComparable_perm (h : rows.Perm rows') :
    ColumnComparable rows baseline names ↔ ColumnComparable rows' baseline names := by
  unfold ColumnComparable
  simp only [h.mem_iff]

theorem columnAgrees_perm (h : rows.Perm rows') :
    ColumnAgrees rows baseline names ↔ ColumnAgrees rows' baseline names := by
  unfold ColumnAgrees
  rw [salesMinusReturns_perm h]

end Columns

/-! ## The verdict -/

/-- **What has to hold before totals are compared**: complete and independent sources of one scope, a weekly
report with rows, an official summary, and comparable columns. -/
structure OfficialComparable (rows : List WbFinanceDetailRow) (evidence : WbFinanceComparisonEvidence)
    (baseline : WbFinanceBaseline) : Prop where
  detailsComplete : evidence.terminalObserved ∧ evidence.coversEntireReport
  baselineComplete : baseline.evidence.terminalObserved ∧ baseline.evidence.coversEntireReport
  sameScope : evidence.scope = baseline.evidence.scope
  independent : evidence.observationId ≠ baseline.evidence.observationId ∧
    evidence.sourceSha256 ≠ baseline.evidence.sourceSha256
  official : baseline.kind = .officialReportSummary
  weekly : evidence.scope.period = .weekly
  nonempty : rows ≠ []
  columns : ∀ names ∈ officialColumns, ColumnComparable rows baseline names

section Verdict

variable {rows rows' : List WbFinanceDetailRow} {evidence : WbFinanceComparisonEvidence}
  {baseline : WbFinanceBaseline} {comparison comparison' : WbOfficialComparison}

theorem OfficialComparable.perm (h : rows.Perm rows')
    (hcomparable : OfficialComparable rows evidence baseline) :
    OfficialComparable rows' evidence baseline where
  detailsComplete := hcomparable.detailsComplete
  baselineComplete := hcomparable.baselineComplete
  sameScope := hcomparable.sameScope
  independent := hcomparable.independent
  official := hcomparable.official
  weekly := hcomparable.weekly
  nonempty hrows := hcomparable.nonempty (List.Perm.nil_eq (hrows ▸ h.symm)).symm
  columns names hnames := (columnComparable_perm h).mp (hcomparable.columns names hnames)

theorem officialVerdict_status (columns : List WbOfficialColumnComparison) :
    ((officialVerdict columns).status = .primaryTotalsMatch ↔
      (∀ column ∈ columns, column.unavailableReason = none) ∧
        ∀ column ∈ columns, column.status ≠ .mismatch) ∧
    ((officialVerdict columns).status = .mismatch ↔
      (∀ column ∈ columns, column.unavailableReason = none) ∧
        ∃ column ∈ columns, column.status = .mismatch) := by
  have hreason : (columns.findSome? WbOfficialColumnComparison.unavailableReason).isSome = false ↔
      ∀ column ∈ columns, column.unavailableReason = none := by
    rw [Option.isSome_eq_false_iff, Option.isNone_iff_eq_none, List.findSome?_eq_none_iff]
  have hany : (columns.any fun column => column.status = .mismatch) = true ↔
      ∃ column ∈ columns, column.status = .mismatch := by simp
  have hnone : (columns.any fun column => column.status = .mismatch) = false ↔
      ∀ column ∈ columns, column.status ≠ .mismatch := by simp
  rw [← hreason, ← hany, ← hnone]
  simp only [officialVerdict]
  cases (columns.findSome? WbOfficialColumnComparison.unavailableReason).isSome <;>
    cases (columns.any fun column => column.status = .mismatch) <;> simp

theorem mapM_compareColumn {columns : List WbOfficialColumnComparison}
    (h : officialColumns.mapM (compareColumn rows baseline) = .ok columns) :
    ((∀ column ∈ columns, column.unavailableReason = none) ↔
      ∀ names ∈ officialColumns, ColumnComparable rows baseline names) ∧
    ((∀ names ∈ officialColumns, ColumnComparable rows baseline names) →
      ((∃ column ∈ columns, column.status = .mismatch) ↔
        ∃ names ∈ officialColumns, ¬ ColumnAgrees rows baseline names)) := by
  have hto := exists_ok_of_mapM h
  have hof := exists_of_mem_mapM h
  refine ⟨⟨fun hall names hnames => ?_, fun hall column hcolumn => ?_⟩, fun hcomparable => ⟨?_, ?_⟩⟩
  · obtain ⟨column, hcolumn, hcompare⟩ := hto names hnames
    exact (compareColumn_spec hcompare).1.mp (hall column hcolumn)
  · obtain ⟨names, hnames, hcompare⟩ := hof column hcolumn
    exact (compareColumn_spec hcompare).1.mpr (hall names hnames)
  · rintro ⟨column, hcolumn, hstatus⟩
    obtain ⟨names, hnames, hcompare⟩ := hof column hcolumn
    exact ⟨names, hnames, ((compareColumn_spec hcompare).2 (hcomparable names hnames)).mp hstatus⟩
  · rintro ⟨names, hnames, hdiffer⟩
    obtain ⟨column, hcolumn, hcompare⟩ := hto names hnames
    exact ⟨column, hcolumn, ((compareColumn_spec hcompare).2 (hcomparable names hnames)).mpr hdiffer⟩

/-- A verdict is given exactly where sources and columns are comparable. -/
theorem compareOfficialBaseline_status (hdetails : evidence.complete = true)
    (h : compareOfficialBaseline rows evidence baseline = .ok comparison) :
    (comparison.status = .primaryTotalsMatch ↔ OfficialComparable rows evidence baseline ∧
      ∀ names ∈ officialColumns, ColumnAgrees rows baseline names) ∧
    (comparison.status = .mismatch ↔ OfficialComparable rows evidence baseline ∧
      ∃ names ∈ officialColumns, ¬ ColumnAgrees rows baseline names) := by
  have hunavailable : ∀ reason, ¬ OfficialComparable rows evidence baseline →
      .ok (officialUnavailable reason) = (.ok comparison : Except FinanceReconciliationError _) →
      (comparison.status = .primaryTotalsMatch ↔ OfficialComparable rows evidence baseline ∧
        ∀ names ∈ officialColumns, ColumnAgrees rows baseline names) ∧
      (comparison.status = .mismatch ↔ OfficialComparable rows evidence baseline ∧
        ∃ names ∈ officialColumns, ¬ ColumnAgrees rows baseline names) := by
    rintro reason hno ⟨⟩
    exact ⟨iff_of_false nofun fun hall => hno hall.1, iff_of_false nofun fun hall => hno hall.1⟩
  unfold compareOfficialBaseline at h
  by_cases hscope : evidence.scope ≠ baseline.evidence.scope
  · rw [if_pos hscope] at h
    exact hunavailable _ (fun hall => hscope hall.sameScope) h
  by_cases hcomplete : ¬ baseline.evidence.complete
  · rw [if_neg hscope, if_pos hcomplete] at h
    refine hunavailable _ (fun hall => hcomplete ?_) h
    rw [WbFinanceComparisonEvidence.complete, hall.baselineComplete.1, hall.baselineComplete.2, Bool.and_self]
  by_cases hsource : evidence.sameSource baseline.evidence
  · rw [if_neg hscope, if_neg hcomplete, if_pos hsource] at h
    refine hunavailable _ (fun hall => ?_) h
    obtain ⟨hobservation, hsha⟩ := hall.independent
    simp [WbFinanceComparisonEvidence.sameSource, hobservation, hsha] at hsource
  rw [if_neg hscope, if_neg hcomplete, if_neg hsource] at h
  by_cases hkind : baseline.kind ≠ .officialReportSummary
  · rw [if_pos hkind] at h
    exact hunavailable _ (fun hall => hkind hall.official) h
  by_cases hperiod : evidence.scope.period ≠ .weekly
  · rw [if_neg hkind, if_pos hperiod] at h
    exact hunavailable _ (fun hall => hperiod hall.weekly) h
  by_cases hrows : rows.isEmpty
  · rw [if_neg hkind, if_neg hperiod, if_pos hrows] at h
    exact hunavailable _ (fun hall => hall.nonempty (List.isEmpty_iff.mp hrows)) h
  · rw [if_neg hkind, if_neg hperiod, if_neg hrows] at h
    obtain ⟨columns, hcolumns, rfl⟩ := ok_of_map.mp h
    obtain ⟨hreasons, hmismatch⟩ := mapM_compareColumn hcolumns
    have hcomparable : OfficialComparable rows evidence baseline ↔
        ∀ names ∈ officialColumns, ColumnComparable rows baseline names := by
      refine ⟨OfficialComparable.columns, fun hall => ⟨?_, ?_, not_not.mp hscope, ?_, not_not.mp hkind,
        not_not.mp hperiod, fun hnil => hrows (hnil ▸ rfl), hall⟩⟩
      · simpa [WbFinanceComparisonEvidence.complete] using hdetails
      · simpa [WbFinanceComparisonEvidence.complete] using hcomplete
      · simpa [WbFinanceComparisonEvidence.sameSource] using hsource
    obtain ⟨hmatch, hdiffer⟩ := officialVerdict_status columns
    rw [hmatch, hdiffer, hreasons, hcomparable]
    refine ⟨and_congr_right fun hall => ?_, and_congr_right hmismatch⟩
    rw [← not_iff_not]
    simpa using hmismatch hall

end Verdict

theorem reconcileWbOfficialReport_status {rows : List WbFinanceDetailRow}
    {evidence : WbFinanceComparisonEvidence} {baseline : Option WbFinanceBaseline}
    {comparison : WbOfficialComparison}
    (h : reconcileWbOfficialReport rows evidence baseline = .ok comparison) :
    (comparison.status = .primaryTotalsMatch ↔ ∃ b, baseline = some b ∧ OfficialComparable rows evidence b ∧
      ∀ names ∈ officialColumns, ColumnAgrees rows b names) ∧
    (comparison.status = .mismatch ↔ ∃ b, baseline = some b ∧ OfficialComparable rows evidence b ∧
      ∃ names ∈ officialColumns, ¬ ColumnAgrees rows b names) := by
  unfold reconcileWbOfficialReport at h
  obtain ⟨_, -, h⟩ := ok_of_bind.mp h
  obtain ⟨_, -, h⟩ := ok_of_bind.mp h
  by_cases hdetails : ¬ evidence.complete
  · rw [if_pos hdetails] at h
    cases ok_of_pure.mp h
    have hno : ∀ b, ¬ OfficialComparable rows evidence b := by
      refine fun b hall => hdetails ?_
      rw [WbFinanceComparisonEvidence.complete, hall.detailsComplete.1, hall.detailsComplete.2, Bool.and_self]
    exact ⟨iff_of_false nofun fun ⟨b, _, hall, _⟩ => hno b hall,
      iff_of_false nofun fun ⟨b, _, hall, _⟩ => hno b hall⟩
  · rw [if_neg hdetails] at h
    cases baseline with
    | none =>
      cases ok_of_pure.mp h
      exact ⟨iff_of_false nofun nofun, iff_of_false nofun nofun⟩
    | some b =>
      obtain ⟨_, -, h⟩ := ok_of_bind.mp h
      simpa using compareOfficialBaseline_status (not_not.mp hdetails) h

/-- **The official reconciliation is exact**: totals match exactly when the sources are comparable and every
mapped column has sales minus returns as its summary, and they differ exactly when the sources are
comparable and one column has not; the order of the rows does not change the verdict. -/
theorem official_reconciliation_exact {rows : List WbFinanceDetailRow}
    {evidence : WbFinanceComparisonEvidence} {baseline : Option WbFinanceBaseline}
    {comparison : WbOfficialComparison}
    (h : reconcileWbOfficialReport rows evidence baseline = .ok comparison) :
    (comparison.status = .primaryTotalsMatch ↔ ∃ b, baseline = some b ∧ OfficialComparable rows evidence b ∧
      ∀ names ∈ officialColumns, ColumnAgrees rows b names) ∧
    (comparison.status = .mismatch ↔ ∃ b, baseline = some b ∧ OfficialComparable rows evidence b ∧
      ∃ names ∈ officialColumns, ¬ ColumnAgrees rows b names) ∧
    ∀ rows' comparison', rows.Perm rows' →
      reconcileWbOfficialReport rows' evidence baseline = .ok comparison' →
        comparison'.status = comparison.status := by
  obtain ⟨hmatch, hdiffer⟩ := reconcileWbOfficialReport_status h
  refine ⟨hmatch, hdiffer, fun rows' comparison' hperm h' => ?_⟩
  obtain ⟨hmatch', hdiffer'⟩ := reconcileWbOfficialReport_status h'
  have hsame : ∀ b, OfficialComparable rows evidence b ↔ OfficialComparable rows' evidence b :=
    fun b => ⟨.perm hperm, .perm hperm.symm⟩
  simp only [← hsame, ← columnAgrees_perm hperm] at hmatch' hdiffer'
  rw [← hmatch] at hmatch'
  rw [← hdiffer] at hdiffer'
  revert hmatch' hdiffer'
  cases comparison'.status <;> cases comparison.status <;> simp

/-! ## A report that matches its summary -/

/-- The report of one week. -/
def weeklyScope : WbFinanceReportScope where
  accountId := "seller"
  reportId := 7
  currency := "RUB"
  period := .weekly
  dateFrom := 20000
  dateTo := 20006

/-- A complete collection, known by its observation and a digit of its digest. -/
def completeEvidence (observationId : String) (digit : Char) : WbFinanceComparisonEvidence where
  scope := weeklyScope
  observationId
  sourceSha256 := String.ofList (List.replicate 64 digit)
  terminalObserved := true
  coversEntireReport := true

/-- A row with two amounts. -/
def detailRow (rrdId : ℕ) (documentType : Option String) (retailAmount forPay : WbFinanceDecimal) :
    WbFinanceDetailRow where
  rrdId
  reportId := 7
  businessDate := 20001
  sku := some 55
  currency := "RUB"
  documentType
  operationType := none
  quantity := some 1
  amounts := (∅ : ExtTreeMap String WbFinanceDecimal).insert "retailAmount" retailAmount
    |>.insert "forPay" forPay

/-- A sale, a return, and a document of another kind that has no amounts. -/
def weeklyRows : List WbFinanceDetailRow :=
  [detailRow 1 (some "Продажа") ⟨⟨1000, by norm_num⟩, 2⟩ ⟨⟨9, by norm_num⟩, 0⟩,
    detailRow 2 (some "Возврат") ⟨⟨25, by norm_num⟩, 1⟩ ⟨⟨225, by norm_num⟩, 2⟩,
    detailRow 3 none ⟨⟨0, zero_fits⟩, 0⟩ ⟨⟨0, zero_fits⟩, 2⟩]

/-- The summary of the week. -/
def weeklySummary : WbFinanceBaseline where
  kind := .officialReportSummary
  evidence := completeEvidence "summary" 'b'
  totals := (∅ : ExtTreeMap String ExactFinanceTotal).insert "retailAmountSum" ⟨⟨75, by norm_num⟩, 1⟩
    |>.insert "forPaySum" ⟨⟨6750, by norm_num⟩, 3⟩

theorem official_reconciliation_exact_weekly : ∃ comparison,
    reconcileWbOfficialReport weeklyRows (completeEvidence "details" 'a') (some weeklySummary) =
      .ok comparison ∧ comparison.status = .primaryTotalsMatch ∧
        OfficialComparable weeklyRows (completeEvidence "details" 'a') weeklySummary := by
  have hok : (reconcileWbOfficialReport weeklyRows (completeEvidence "details" 'a')
      (some weeklySummary)).toOption.any fun comparison => comparison.status = .primaryTotalsMatch := by
    decide +kernel
  cases h : reconcileWbOfficialReport weeklyRows (completeEvidence "details" 'a') (some weeklySummary) with
  | error e =>
    rw [h] at hok
    cases hok
  | ok comparison =>
    rw [h] at hok
    have hstatus : comparison.status = .primaryTotalsMatch := by simpa [Except.toOption] using hok
    obtain ⟨_, hbaseline, hcomparable, -⟩ := (official_reconciliation_exact h).1.mp hstatus
    cases hbaseline
    exact ⟨comparison, rfl, hstatus, hcomparable⟩

end AdsControl.Reporting
