import AdsControl.Lib.Tally
import AdsControl.Reporting.FinanceReconciliation

/-!
# Reports against a baseline

The raw columns of a report are compared with totals that were collected independently, for the same
account, report, currency and period. Columns the baseline does not have are not compared.

* `WbFinanceComparisonEvidence`, `WbFinanceBaseline`: where details and baseline come from;
* `reconcileWbFinanceReport`: the comparison;
* `RawComparable`: what has to hold before columns are compared;
* **`compareColumns_spec`**: the loop over the columns of a baseline;
* **`raw_columns_compared`**: the columns of aggregated rows match exactly when their sums do.
-/

namespace AdsControl.Reporting

open Fallible OrderedMap Std Tally

/-! ## Evidence -/

/-- The period of a report. -/
inductive WbFinanceReportPeriod
  | daily
  | weekly
  deriving DecidableEq

/-- The report that is compared. -/
structure WbFinanceReportScope where
  accountId : String
  reportId : ℕ
  currency : String
  period : WbFinanceReportPeriod
  dateFrom : ℤ
  dateTo : ℤ
  deriving DecidableEq

/-- Receipt of a collection. A terminal response for some of the days does not cover the report. -/
structure WbFinanceComparisonEvidence where
  scope : WbFinanceReportScope
  observationId : String
  sourceSha256 : String
  terminalObserved : Bool
  coversEntireReport : Bool

/-- Where a baseline comes from. -/
inductive WbFinanceBaselineKind
  | independentRawColumns
  | officialReportSummary
  deriving DecidableEq

/-- The totals that details are compared with. -/
structure WbFinanceBaseline where
  kind : WbFinanceBaselineKind
  evidence : WbFinanceComparisonEvidence
  totals : ExtTreeMap String ExactFinanceTotal

/-- The ids and digests of the evidence. -/
def validateEvidence (evidence : WbFinanceComparisonEvidence) : Except FinanceReconciliationError Unit :=
  ensure (isAccountId evidence.scope.accountId ∧ isAccountId evidence.observationId ∧
    evidence.scope.reportId ≠ 0 ∧ evidence.scope.reportId ≤ maxSignedId ∧
    validCurrency evidence.scope.currency ∧ evidence.scope.dateFrom ≤ evidence.scope.dateTo ∧
    evidence.sourceSha256.utf8ByteSize = 64 ∧
    evidence.sourceSha256.toList.all fun c => c.isDigit || ('a' ≤ c && c ≤ 'f')) .invalidEvidence

/-- Nothing was left out of a report. -/
def WbFinanceComparisonEvidence.complete (evidence : WbFinanceComparisonEvidence) : Bool :=
  evidence.terminalObserved && evidence.coversEntireReport

/-- Two receipts of one collection. -/
def WbFinanceComparisonEvidence.sameSource (evidence other : WbFinanceComparisonEvidence) : Bool :=
  evidence.observationId == other.observationId || evidence.sourceSha256 == other.sourceSha256

/-! ## Raw columns -/

/-- How a comparison ends. -/
inductive FinanceComparisonStatus
  | rawColumnsMatch
  | mismatch
  | unavailable
  deriving DecidableEq

/-- Why there is nothing to compare. -/
inductive FinanceComparisonUnavailable
  | missingBaseline
  | incompleteDetails
  | incompleteBaseline
  | scopeMismatch
  | nonIndependentBaseline
  | unverifiedOfficialSummaryMapping
  | missingColumnAmount
  | emptyBaseline
  deriving DecidableEq

/-- A column on both sides. -/
structure FinanceColumnComparison where
  column : String
  detailTotal : Option ExactFinanceTotal
  baselineTotal : ExactFinanceTotal
  status : FinanceComparisonStatus

/-- The comparison of a report. -/
structure WbFinanceComparison where
  status : FinanceComparisonStatus
  unavailableReason : Option FinanceComparisonUnavailable
  columns : List FinanceColumnComparison

/-- Both denote one number. -/
def ExactFinanceTotal.numericEq (total other : ExactFinanceTotal) :
    Except FinanceReconciliationError Bool := do
  let scale := max total.scale other.scale
  return (← total.rescaledUnits scale) = (← other.rescaledUnits scale)

/-- The counts of a column fit its rows. -/
def FinanceColumnTotal.valid (rowCount : ℕ) (entry : String × FinanceColumnTotal) : Bool :=
  wbRawAmountColumns.contains entry.1 && entry.2.presentRows + entry.2.missingRows == rowCount &&
    entry.2.total.isSome == (entry.2.missingRows == 0) &&
      entry.2.total.all fun total => total.scale ≤ maxScale

/-- The totals of a report fit together. -/
def validateTotals (details : WbFinanceReportTotals) : Except FinanceReconciliationError Unit := do
  ensure (details.rowCount ≠ 0 ∧ details.rowCount ≤ wbFinanceMaxRows ∧ details.reportId ≠ 0 ∧
    details.reportId ≤ maxSignedId ∧ validCurrency details.currency ∧
    details.columns.length = wbRawAmountColumns.length ∧
    (details.documentTypeCounts.toList.map Prod.snd).sum = details.rowCount) .invalidRows
  ensure (details.columns.all (FinanceColumnTotal.valid details.rowCount)) .invalidRows

/-- The total of a column of a report. -/
def WbFinanceReportTotals.total (details : WbFinanceReportTotals) (name : String) :
    Option ExactFinanceTotal :=
  (details.columns.lookup name).bind FinanceColumnTotal.total

/-- How one column compares. -/
def columnStatus (actual : Option ExactFinanceTotal) (expected : ExactFinanceTotal) :
    Except FinanceReconciliationError FinanceComparisonStatus :=
  match actual with
  | none => .ok .unavailable
  | some value => do return if ← value.numericEq expected then .rawColumnsMatch else .mismatch

/-- One column; a missing amount outweighs a difference. -/
def compareRawColumn (details : WbFinanceReportTotals) (result : WbFinanceComparison)
    (entry : String × ExactFinanceTotal) : Except FinanceReconciliationError WbFinanceComparison := do
  ensure (entry.1 ∈ wbRawAmountColumns ∧ entry.2.scale ≤ maxScale) .invalidAmount
  let actual := details.total entry.1
  let status ← columnStatus actual entry.2
  let columns := result.columns ++ [⟨entry.1, actual, entry.2, status⟩]
  return if status = .unavailable then ⟨.unavailable, some .missingColumnAmount, columns⟩
    else if status = .mismatch ∧ result.status ≠ .unavailable then
      { result with status := .mismatch, columns }
    else { result with columns }

/-- Compare every column of the baseline. -/
def compareColumns (details : WbFinanceReportTotals) (baseline : ExtTreeMap String ExactFinanceTotal) :
    Except FinanceReconciliationError WbFinanceComparison :=
  baseline.toList.foldlM (compareRawColumn details) ⟨.rawColumnsMatch, none, []⟩

/-- A comparison that cannot be made. -/
def rawUnavailable (reason : FinanceComparisonUnavailable) : WbFinanceComparison :=
  ⟨.unavailable, some reason, []⟩

/-- A report against a baseline that was validated. -/
def compareRawBaseline (details : WbFinanceReportTotals) (evidence : WbFinanceComparisonEvidence)
    (baseline : WbFinanceBaseline) : Except FinanceReconciliationError WbFinanceComparison :=
  if baseline.evidence.scope ≠ evidence.scope then .ok (rawUnavailable .scopeMismatch)
  else if ¬ baseline.evidence.complete then .ok (rawUnavailable .incompleteBaseline)
  else if baseline.evidence.sameSource evidence then .ok (rawUnavailable .nonIndependentBaseline)
  else if baseline.kind = .officialReportSummary then .ok (rawUnavailable .unverifiedOfficialSummaryMapping)
  else if baseline.totals.isEmpty then .ok (rawUnavailable .emptyBaseline)
  else compareColumns details baseline.totals

/-- **The comparison of a report with its baseline.** -/
def reconcileWbFinanceReport (details : WbFinanceReportTotals) (evidence : WbFinanceComparisonEvidence)
    (baseline : Option WbFinanceBaseline) : Except FinanceReconciliationError WbFinanceComparison := do
  validateEvidence evidence
  validateTotals details
  ensure (details.reportId = evidence.scope.reportId ∧ details.currency = evidence.scope.currency)
    .invalidEvidence
  if ¬ evidence.complete then return rawUnavailable .incompleteDetails
  else match baseline with
    | none => return rawUnavailable .missingBaseline
    | some baseline => do
      validateEvidence baseline.evidence
      compareRawBaseline details evidence baseline

/-! ## Aggregated reports -/

/-- Every row has the column. -/
def Covered (name : String) (rows : List WbFinanceDetailRow) : Prop :=
  ∀ row ∈ rows, row.amounts[name]?.isSome = true

/-- The rational sum of a column. -/
def columnSum (name : String) (rows : List WbFinanceDetailRow) : ℚ :=
  ((amountsOf name rows).map Decimal.value).sum

section Aggregated

variable {rows : List WbFinanceDetailRow} {report : WbFinanceReportTotals} {key : FinanceReportKey}

theorem lookup_of_mem {β : Type} {l : List (String × β)} {name : String} (h : name ∈ l.map Prod.fst) :
    ∃ b, l.lookup name = some b ∧ (name, b) ∈ l := by
  induction l with
  | nil => cases h
  | cons e l ih =>
    obtain ⟨name', b⟩ := e
    rw [List.lookup_cons]
    by_cases hname : name = name'
    · subst hname
      exact ⟨b, by simp, List.mem_cons_self ..⟩
    · have hrest : name ∈ l.map Prod.fst := by simpa [hname] using h
      obtain ⟨b', hb', hmem⟩ := ih hrest
      exact ⟨b', by simpa [beq_false_of_ne hname] using hb', List.mem_cons_of_mem _ hmem⟩

theorem IsReport.total (h : IsReport key rows report) {name : String} (hname : name ∈ wbRawAmountColumns) :
    (report.total name = none ↔ ¬ Covered name rows) ∧
      ∀ total, report.total name = some total → total.decimal.value = columnSum name rows := by
  obtain ⟨column, hlookup, hmem⟩ := lookup_of_mem (h.names ▸ hname)
  have hcolumn := h.columns _ hmem
  rw [WbFinanceReportTotals.total, hlookup, Option.bind_some]
  constructor
  · rw [hcolumn.missing]
    simp [Covered]
  · intro total htotal
    rw [hcolumn.total total htotal, Decimal.value_sum, columnSum]

theorem sum_documents (rows : List WbFinanceDetailRow) :
    ((rows.foldl countDocument ∅).toList.map Prod.snd).sum = rows.length := by
  have htotal : total id (rows.foldl (gather (fun row => wbFinanceDocumentKind row.documentType) 0
      fun n _ => n + 1) ∅) = total id (∅ : ExtTreeMap WbFinanceDocumentKind ℕ) + (rows.map fun _ => 1).sum :=
    total_foldl_gather id rfl (fun _ _ => rfl) rows ∅
  rw [total_empty, zero_add, List.map_const', List.sum_replicate, smul_eq_mul, mul_one] at htotal
  exact htotal

theorem IsColumn.scale_le {name : String} {column : FinanceColumnTotal} (h : IsColumn name rows column)
    (hvalid : ∀ row ∈ rows, row.validate = .ok ()) {total : ExactFinanceTotal}
    (htotal : column.total = some total) : total.scale ≤ maxScale := by
  show total.decimal.scale ≤ _
  rw [h.total total htotal]
  refine Decimal.scale_sum_le fun term hterm => ?_
  obtain ⟨row, hrow, amount, hamount, rfl⟩ := mem_amountsOf.mp hterm
  exact scale_le_of_validate (hvalid row hrow) hamount

/-- A column has a total exactly where no row lacks it. -/
theorem IsColumn.isSome_total {name : String} {column : FinanceColumnTotal} (h : IsColumn name rows column) :
    column.total.isSome = true ↔ column.missingRows = 0 := by
  have hpresent : column.presentRows = rows.length ↔ Covered name rows := by
    rw [h.presentRows, amountsOf, List.filterMap_length_eq_length]
    simp [Covered]
  have htotal : column.total.isSome = true ↔ Covered name rows := by
    rw [Option.isSome_iff_ne_none, ne_eq, h.missing]
    simp [Covered]
  have hsum := h.missingRows
  rw [htotal, ← hpresent]
  omega

/-- **Aggregated totals are valid.** -/
theorem IsReport.validateTotals (h : IsReport key rows report) (hrows : RowsAccepted rows) (hne : rows ≠ [])
    (hkey : ∀ row ∈ rows, row.reportKey = key) : validateTotals report = .ok () := by
  obtain ⟨row, hrow⟩ := List.exists_mem_of_ne_nil rows hne
  have hreport : report.key = row.reportKey := h.key_eq.trans (hkey row hrow).symm
  obtain ⟨hid, hcurrency⟩ := Prod.mk.inj (toLex.injective hreport)
  have hvalid := hrows.valid row hrow
  rw [WbFinanceDetailRow.validate, ensure_eq_ok] at hvalid
  obtain ⟨-, -, hpos, hmax, -, hcode, -⟩ := hvalid
  unfold AdsControl.Reporting.validateTotals
  refine ok_of_bind.mpr ⟨(), ensure_eq_ok.mpr ⟨?_, ?_, ?_, ?_, ?_, ?_, ?_⟩, ensure_eq_ok.mpr ?_⟩
  · rw [h.rowCount]
    exact fun hnil => hne (List.length_eq_zero_iff.mp hnil)
  · rw [h.rowCount]
    exact hrows.length
  · rw [hid]
    exact Nat.pos_iff_ne_zero.mp hpos
  · rw [hid]
    exact hmax
  · rw [hcurrency]
    exact hcode
  · rw [← List.length_map Prod.fst, h.names]
  · rw [h.documents, h.rowCount, sum_documents]
  · refine List.all_eq_true.mpr fun entry hentry => ?_
    have hcolumn := h.columns entry hentry
    have hname : entry.1 ∈ wbRawAmountColumns := h.names ▸ List.mem_map_of_mem hentry
    have hcount := hcolumn.missingRows
    rw [← h.rowCount] at hcount
    have hmissing : entry.2.total.isSome = (entry.2.missingRows == 0) := by
      rw [Bool.eq_iff_iff, hcolumn.isSome_total, beq_iff_eq]
    have hscale : (entry.2.total.all fun total => total.scale ≤ maxScale) = true := by
      rw [Option.all_eq_true]
      exact fun total htotal => by simpa using hcolumn.scale_le hrows.valid htotal
    simp [FinanceColumnTotal.valid, hname, hcount, hmissing, hscale]

end Aggregated

/-! ## Columns -/

theorem value_numericEq {total other : ExactFinanceTotal} {same : Bool} (h : total.numericEq other = .ok same) :
    same = true ↔ total.decimal.value = other.decimal.value := by
  simp only [ExactFinanceTotal.numericEq, ok_of_bind, ok_of_pure, ExactFinanceTotal.rescaledUnits_eq_ok] at h
  obtain ⟨left, ⟨⟨hleftscale, -⟩, hleft⟩, right, ⟨⟨hrightscale, -⟩, hright⟩, rfl⟩ := h
  have hpow : (10 : ℚ) ^ max total.scale other.scale ≠ 0 := by positivity
  rw [decide_eq_true_eq, Subtype.ext_iff, hleft, hright, ← Decimal.value_rescaled total.decimal hleftscale,
    ← Decimal.value_rescaled other.decimal hrightscale, div_left_inj' hpow, Int.cast_inj]

/-- The report has a total of the column, and it is the one of the baseline. -/
def RawColumnAgrees (details : WbFinanceReportTotals) (entry : String × ExactFinanceTotal) : Prop :=
  ∃ total, details.total entry.1 = some total ∧ total.decimal.value = entry.2.decimal.value

/-- What a comparison says about the columns it saw. -/
structure ColumnsCompared (details : WbFinanceReportTotals) (entries : List (String × ExactFinanceTotal))
    (result : WbFinanceComparison) : Prop where
  unavailable : result.status = .unavailable ↔ ∃ entry ∈ entries, details.total entry.1 = none
  agree : result.status = .rawColumnsMatch ↔ ∀ entry ∈ entries, RawColumnAgrees details entry
  known : ∀ entry ∈ entries, entry.1 ∈ wbRawAmountColumns

section Columns

variable {details : WbFinanceReportTotals} {entries : List (String × ExactFinanceTotal)}
  {entry : String × ExactFinanceTotal} {result result' : WbFinanceComparison}

theorem columnStatus_spec {status : FinanceComparisonStatus}
    (h : columnStatus (details.total entry.1) entry.2 = .ok status) :
    (status = .unavailable ↔ details.total entry.1 = none) ∧
      (status = .rawColumnsMatch ↔ RawColumnAgrees details entry) := by
  unfold RawColumnAgrees
  cases htotal : details.total entry.1 with
  | none =>
    rw [htotal] at h
    cases h
    simp
  | some total =>
    rw [htotal] at h
    simp only [columnStatus, ok_of_bind, ok_of_pure] at h
    obtain ⟨same, hsame, rfl⟩ := h
    have hvalue := value_numericEq hsame
    cases same <;> simpa using hvalue

theorem ColumnsCompared.step (hresult : ColumnsCompared details entries result)
    (h : compareRawColumn details result entry = .ok result') :
    ColumnsCompared details (entries ++ [entry]) result' := by
  simp only [compareRawColumn, ok_of_bind, ok_of_pure, ensure_eq_ok] at h
  obtain ⟨-, ⟨hname, -⟩, status, hstatus, rfl⟩ := h
  obtain ⟨hnone, hagrees⟩ := columnStatus_spec hstatus
  have hunavailable := hresult.unavailable
  have hmatch := hresult.agree
  have hexists : (∃ entry' ∈ entries ++ [entry], details.total entry'.1 = none) ↔
      result.status = .unavailable ∨ status = .unavailable := by
    rw [hunavailable, hnone]
    simp [or_and_right, exists_or]
  have hall : (∀ entry' ∈ entries ++ [entry], RawColumnAgrees details entry') ↔
      result.status = .rawColumnsMatch ∧ status = .rawColumnsMatch := by
    rw [hmatch, hagrees]
    simp [or_imp, forall_and]
  refine ⟨?_, ?_, ?_⟩
  · rw [hexists]
    cases status <;> cases result.status <;> simp
  · rw [hall]
    cases status <;> cases result.status <;> simp
  · intro entry' hentry'
    obtain hentry' | hentry' := List.mem_append.mp hentry'
    · exact hresult.known entry' hentry'
    · rw [List.mem_singleton.mp hentry']
      exact hname

/-- **The columns**: they match where each of them agrees, and one without a total leaves no verdict. -/
theorem compareColumns_spec {baseline : ExtTreeMap String ExactFinanceTotal}
    (h : compareColumns details baseline = .ok result) : ColumnsCompared details baseline.toList result := by
  refine foldlM_invariant (P := ColumnsCompared details) ?_ (fun _ _ _ _ hresult hstep => hresult.step hstep) h
  exact ⟨by simp, by simp, List.forall_mem_nil _⟩

end Columns

/-! ## The verdict -/

/-- **What has to hold before raw columns are compared**: complete and independent sources of one scope, and
a baseline with columns. -/
structure RawComparable (evidence : WbFinanceComparisonEvidence) (baseline : WbFinanceBaseline) : Prop where
  detailsComplete : evidence.terminalObserved ∧ evidence.coversEntireReport
  baselineComplete : baseline.evidence.terminalObserved ∧ baseline.evidence.coversEntireReport
  sameScope : evidence.scope = baseline.evidence.scope
  independent : evidence.observationId ≠ baseline.evidence.observationId ∧
    evidence.sourceSha256 ≠ baseline.evidence.sourceSha256
  raw : baseline.kind = .independentRawColumns
  nonempty : baseline.totals ≠ ∅

section Verdict

variable {details : WbFinanceReportTotals} {evidence : WbFinanceComparisonEvidence}
  {baseline : WbFinanceBaseline} {result : WbFinanceComparison}

theorem compareRawBaseline_spec (hcomplete : evidence.complete = true)
    (h : compareRawBaseline details evidence baseline = .ok result) :
    (RawComparable evidence baseline ∧ compareColumns details baseline.totals = .ok result) ∨
      ¬ RawComparable evidence baseline ∧ result.status = .unavailable := by
  unfold compareRawBaseline at h
  by_cases hscope : baseline.evidence.scope = evidence.scope
  case neg =>
    rw [if_pos hscope] at h
    cases h
    exact .inr ⟨fun hcomparable => hscope hcomparable.sameScope.symm, rfl⟩
  rw [if_neg (not_not_intro hscope)] at h
  by_cases hbaseline : baseline.evidence.complete = true
  case neg =>
    rw [if_pos hbaseline] at h
    cases h
    refine .inr ⟨fun hcomparable => hbaseline ?_, rfl⟩
    exact (Bool.and_eq_true _ _).mpr hcomparable.baselineComplete
  rw [if_neg (not_not_intro hbaseline)] at h
  by_cases hsource : baseline.evidence.sameSource evidence = true
  case pos =>
    rw [if_pos hsource] at h
    cases h
    refine .inr ⟨fun hcomparable => ?_, rfl⟩
    obtain hsame | hsame := (Bool.or_eq_true _ _).mp hsource
    · exact hcomparable.independent.1 (beq_iff_eq.mp hsame).symm
    · exact hcomparable.independent.2 (beq_iff_eq.mp hsame).symm
  rw [if_neg hsource] at h
  by_cases hkind : baseline.kind = .officialReportSummary
  case pos =>
    rw [if_pos hkind] at h
    cases h
    refine .inr ⟨fun hcomparable => ?_, rfl⟩
    cases hkind.symm.trans hcomparable.raw
  rw [if_neg hkind] at h
  by_cases hempty : baseline.totals.isEmpty = true
  case pos =>
    rw [if_pos hempty] at h
    cases h
    exact .inr ⟨fun hcomparable => hcomparable.nonempty (ExtTreeMap.isEmpty_iff.mp hempty), rfl⟩
  rw [if_neg hempty] at h
  have hsources : baseline.evidence.observationId ≠ evidence.observationId ∧
      baseline.evidence.sourceSha256 ≠ evidence.sourceSha256 := by
    simpa [WbFinanceComparisonEvidence.sameSource] using hsource
  refine .inl ⟨⟨(Bool.and_eq_true _ _).mp hcomplete, (Bool.and_eq_true _ _).mp hbaseline, hscope.symm,
    ⟨hsources.1.symm, hsources.2.symm⟩, ?_, fun hnil => hempty (ExtTreeMap.isEmpty_iff.mpr hnil)⟩, h⟩
  cases hraw : baseline.kind with
  | independentRawColumns => rfl
  | officialReportSummary => exact absurd hraw hkind

theorem reconcile_spec {baseline : Option WbFinanceBaseline}
    (h : reconcileWbFinanceReport details evidence baseline = .ok result) :
    (∃ b, baseline = some b ∧ RawComparable evidence b ∧ ColumnsCompared details b.totals.toList result) ∨
      (∀ b, baseline = some b → ¬ RawComparable evidence b) ∧ result.status = .unavailable := by
  simp only [reconcileWbFinanceReport, ok_of_bind] at h
  obtain ⟨-, -, -, -, -, -, h⟩ := h
  by_cases hcomplete : evidence.complete = true
  case neg =>
    rw [if_pos hcomplete] at h
    cases h
    refine .inr ⟨fun b _ hcomparable => hcomplete ?_, rfl⟩
    exact (Bool.and_eq_true _ _).mpr hcomparable.detailsComplete
  rw [if_neg (not_not_intro hcomplete)] at h
  cases baseline with
  | none =>
    cases h
    exact .inr ⟨nofun, rfl⟩
  | some b =>
    obtain ⟨_, -, h⟩ := ok_of_bind.mp h
    obtain ⟨hcomparable, hcolumns⟩ | ⟨hother, hstatus⟩ := compareRawBaseline_spec hcomplete h
    · exact .inl ⟨b, rfl, hcomparable, compareColumns_spec hcolumns⟩
    · refine .inr ⟨?_, hstatus⟩
      rintro _ ⟨⟩
      exact hother

/-- **Aggregated rows against a baseline.** The report of a group is valid; its columns match exactly when the
baseline is comparable and every column it has is in all rows and sums up to it, and they differ exactly when
all columns are there and some sum is another one. -/
theorem raw_columns_compared {rows : List WbFinanceDetailRow} {reports : List WbFinanceReportTotals}
    {report : WbFinanceReportTotals} (h : aggregateWbFinanceRows rows = .ok reports) (hreport : report ∈ reports) :
    validateTotals report = .ok () ∧ ∀ evidence baseline comparison,
      reconcileWbFinanceReport report evidence baseline = .ok comparison →
      (comparison.status = .rawColumnsMatch ↔ ∃ b, baseline = some b ∧ RawComparable evidence b ∧
        ∀ name total, b.totals[name]? = some total → Covered name (groupOf report.key rows) ∧
          columnSum name (groupOf report.key rows) = total.decimal.value) ∧
      (comparison.status = .mismatch ↔ ∃ b, baseline = some b ∧ RawComparable evidence b ∧
        (∀ name total, b.totals[name]? = some total → Covered name (groupOf report.key rows)) ∧
        ∃ name total, b.totals[name]? = some total ∧
          columnSum name (groupOf report.key rows) ≠ total.decimal.value) := by
  obtain ⟨haccepted, groups, hgroups, rfl⟩ := aggregate_eq_ok.mp h
  have hmem := (mem_reports hgroups).mp hreport
  have hgroup := isReport_of_groups hgroups hmem
  refine ⟨?_, fun evidence baseline comparison hcompared => ?_⟩
  · obtain ⟨row, hrow, hkey⟩ := List.mem_map.mp
      ((isSome_groups hgroups report.key).mp (Option.isSome_of_eq_some hmem))
    have hrows : row ∈ groupOf report.key rows := List.mem_filter.mpr ⟨hrow, decide_eq_true hkey⟩
    refine hgroup.validateTotals ?_ (List.ne_nil_of_mem hrows) fun row' hrow' => ?_
    · exact ⟨(List.length_filter_le _ _).trans haccepted.length,
        fun row' hrow' => haccepted.valid row' (List.mem_of_mem_filter hrow'),
        (List.filter_sublist.map _).nodup haccepted.distinct⟩
    · simpa using (List.mem_filter.mp hrow').2
  -- the totals of a column the baseline has
  have hagrees : ∀ entry, entry.1 ∈ wbRawAmountColumns → (RawColumnAgrees report entry ↔
      Covered entry.1 (groupOf report.key rows) ∧
        columnSum entry.1 (groupOf report.key rows) = entry.2.decimal.value) := by
    intro entry hname
    obtain ⟨hnone, hvalue⟩ := hgroup.total hname
    unfold RawColumnAgrees
    cases htotal : report.total entry.1 with
    | none => exact iff_of_false (by simp) fun hall => hnone.mp htotal hall.1
    | some total =>
      have hcovered : Covered entry.1 (groupOf report.key rows) := by
        by_contra hmissing
        rw [hnone.mpr hmissing] at htotal
        cases htotal
      rw [← hvalue total htotal]
      simp [hcovered]
  obtain ⟨b, rfl, hcomparable, hcolumns⟩ | ⟨hother, hstatus⟩ := reconcile_spec hcompared
  · have hknown : ∀ name total, b.totals[name]? = some total → name ∈ wbRawAmountColumns :=
      fun name total htotal => hcolumns.known (name, total) (ExtTreeMap.mem_toList_iff_getElem?_eq_some.mpr htotal)
    have hmatch : comparison.status = .rawColumnsMatch ↔ ∀ name total, b.totals[name]? = some total →
        Covered name (groupOf report.key rows) ∧
          columnSum name (groupOf report.key rows) = total.decimal.value := by
      rw [hcolumns.agree, Prod.forall]
      refine forall₂_congr fun name total => ?_
      rw [ExtTreeMap.mem_toList_iff_getElem?_eq_some]
      exact forall_congr' fun htotal => hagrees (name, total) (hknown name total htotal)
    have hcovered : comparison.status ≠ .unavailable ↔ ∀ name total, b.totals[name]? = some total →
        Covered name (groupOf report.key rows) := by
      rw [ne_eq, hcolumns.unavailable]
      push Not
      rw [Prod.forall]
      refine forall₂_congr fun name total => ?_
      rw [ExtTreeMap.mem_toList_iff_getElem?_eq_some]
      refine forall_congr' fun htotal => ?_
      rw [ne_eq, (hgroup.total (hknown name total htotal)).1, not_not]
    have hdiffers : comparison.status = .mismatch ↔
        comparison.status ≠ .unavailable ∧ comparison.status ≠ .rawColumnsMatch := by
      cases comparison.status <;> simp
    constructor
    · refine hmatch.trans ⟨fun hall => ⟨b, rfl, hcomparable, hall⟩, ?_⟩
      rintro ⟨_, ⟨⟩, -, hall⟩
      exact hall
    · rw [hdiffers, hcovered, ne_eq, hmatch]
      constructor
      · rintro ⟨hall, hne⟩
        push Not at hne
        obtain ⟨name, total, htotal, hne⟩ := hne
        exact ⟨b, rfl, hcomparable, hall, name, total, htotal, hne (hall name total htotal)⟩
      · rintro ⟨_, ⟨⟩, -, hall, name, total, htotal, hne⟩
        exact ⟨hall, fun hagree => hne (hagree name total htotal).2⟩
  · rw [hstatus]
    refine ⟨iff_of_false (by simp) ?_, iff_of_false (by simp) ?_⟩
    · rintro ⟨b, hb, hcomparable, -⟩
      exact hother b hb hcomparable
    · rintro ⟨b, hb, hcomparable, -⟩
      exact hother b hb hcomparable

end Verdict

/-! ## Rows that match a baseline of another scale -/

/-- The report of one day. -/
def comparedScope : WbFinanceReportScope where
  accountId := "seller"
  reportId := 7
  currency := "RUB"
  period := .daily
  dateFrom := 20000
  dateTo := 20000

/-- A receipt of a whole report, known by its observation and a digit of its digest. -/
def wholeReport (observationId : String) (digit : Char) : WbFinanceComparisonEvidence where
  scope := comparedScope
  observationId
  sourceSha256 := String.ofList (List.replicate 64 digit)
  terminalObserved := true
  coversEntireReport := true

/-- A baseline from the ledger. -/
def payBaseline : WbFinanceBaseline where
  kind := .independentRawColumns
  evidence := wholeReport "ledger" 'b'
  totals := (∅ : ExtTreeMap String ExactFinanceTotal).insert "forPay" ⟨⟨11, by norm_num⟩, 0⟩

theorem raw_columns_compared_mixed_scales : ∃ report comparison,
    aggregateWbFinanceRows mixedScaleRows = .ok [report] ∧
    reconcileWbFinanceReport report (wholeReport "details" 'a') (some payBaseline) = .ok comparison ∧
    comparison.status = .rawColumnsMatch ∧ Covered "forPay" (groupOf report.key mixedScaleRows) ∧
    columnSum "forPay" (groupOf report.key mixedScaleRows) = 11 := by
  obtain ⟨report, h⟩ : ∃ report, aggregateWbFinanceRows mixedScaleRows = .ok [report] := ⟨_, rfl⟩
  have hok : (aggregateWbFinanceRows mixedScaleRows >>= fun reports => reports.mapM fun report =>
      (reconcileWbFinanceReport report (wholeReport "details" 'a') (some payBaseline)).map
        WbFinanceComparison.status).toOption = some [.rawColumnsMatch] := by
    decide +kernel
  rw [h] at hok
  cases hcompared : reconcileWbFinanceReport report (wholeReport "details" 'a') (some payBaseline) with
  | error e =>
    simp [hcompared, Except.toOption, Except.map, bind, Except.bind] at hok
  | ok comparison =>
    have hstatus : comparison.status = .rawColumnsMatch := by
      simpa [hcompared, Except.toOption, Except.map, bind, Except.bind, pure, Except.pure] using hok
    obtain ⟨_, ⟨⟩, -, hall⟩ := (((raw_columns_compared h (List.mem_singleton_self report)).2 _ _ _
      hcompared).1.mp hstatus)
    obtain ⟨hcovered, hsum⟩ := hall "forPay" ⟨⟨11, by norm_num⟩, 0⟩ (by simp [payBaseline])
    refine ⟨report, comparison, h, hcompared, hstatus, hcovered, ?_⟩
    rw [hsum]
    norm_num [ExactFinanceTotal.decimal, Decimal.value]

end AdsControl.Reporting
