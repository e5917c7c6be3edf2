import AdsControl.Lib.Decimal
import AdsControl.Lib.Distinct
import AdsControl.Lib.Grouping
import AdsControl.Reporting.WbFinance

/-!
# Exact totals of finance rows

The raw columns of finance rows are added up per report and currency, with decimals of mixed scales and
checked arithmetic of 128 bits.

* `aggregateWbFinanceRows`: the loop over the rows;
* `reportOf`: what a group of rows adds up to, in any order;
* **`aggregate_exact`**: the totals are the rational sums, and every order gives them or overflows.
-/

namespace AdsControl.Reporting

open Distinct Fallible Grouping OrderedMap Std

/-! ## Exact amounts -/

/-- Raw measures are separate columns. -/
def wbRawAmountColumns : List String :=
  ["retailPrice", "retailAmount", "retailPriceWithDisc", "ppvzSalesCommission", "forPay", "ppvzReward",
    "acquiringFee", "vw", "vwNds", "deliveryService", "penalty", "additionalPayment", "rebillLogisticCost",
    "paidStorage", "deduction", "paidAcceptance", "installmentCofinancingAmount", "cashbackAmount",
    "cashbackDiscount", "cashbackCommissionChange", "paymentSchedule"]

/-- The most digits after the point. -/
def maxScale : ℕ := 18

/-- Why rows are refused. -/
inductive FinanceReconciliationError
  | invalidRows
  | duplicateRow
  | invalidEvidence
  | invalidAmount
  deriving DecidableEq

/-- The result of an operation on coefficients, if it has 128 bits. -/
def checkedCoefficient (n : ℤ) : Except FinanceReconciliationError Coefficient :=
  if h : -2 ^ 127 ≤ n ∧ n < 2 ^ 127 then .ok ⟨n, h⟩ else .error .invalidAmount

/-- An exact sum. -/
structure ExactFinanceTotal where
  units : Coefficient
  scale : ℕ
  deriving DecidableEq

namespace ExactFinanceTotal

/-- The units at a larger scale. -/
def rescaledUnits (total : ExactFinanceTotal) (scale : ℕ) : Except FinanceReconciliationError Coefficient := do
  ensure (total.scale ≤ scale ∧ scale ≤ maxScale) .invalidAmount
  checkedCoefficient (total.units.val * 10 ^ (scale - total.scale))

/-- The exact sum with an amount. -/
def checkedAdd (total : ExactFinanceTotal) (value : WbFinanceDecimal) :
    Except FinanceReconciliationError ExactFinanceTotal := do
  let scale := max total.scale value.scale
  let left ← total.rescaledUnits scale
  let right ← (ExactFinanceTotal.mk value.units value.scale).rescaledUnits scale
  let units ← checkedCoefficient (left.val + right.val)
  return ⟨units, scale⟩

/-- The number a total stands for. -/
def decimal (total : ExactFinanceTotal) : Decimal := ⟨total.units.val, total.scale⟩

end ExactFinanceTotal

/-- The number an amount stands for. -/
def WbFinanceDecimal.decimal (amount : WbFinanceDecimal) : Decimal := ⟨amount.units.val, amount.scale⟩

/-! ## Reports -/

/-- The label of a document; it never changes the sign of an amount. -/
inductive WbFinanceDocumentKind
  | sale
  | return
  | unspecified
  | unknown
  deriving DecidableEq, Ord

instance WbFinanceDocumentKind.transOrd : TransOrd WbFinanceDocumentKind where
  eq_swap := by
    intro a b
    cases a <;> cases b <;> rfl
  isLE_trans := by
    intro a b c
    cases a <;> cases b <;> cases c <;> decide

instance WbFinanceDocumentKind.lawfulEqOrd : LawfulEqOrd WbFinanceDocumentKind where
  compare_self := by
    intro a
    cases a <;> rfl
  eq_of_compare := by
    intro a b
    cases a <;> cases b <;> decide

/-- The kind that a document names. -/
def wbFinanceDocumentKind : Option String → WbFinanceDocumentKind
  | some "Продажа" => .sale
  | some "Возврат" => .return
  | none | some "" => .unspecified
  | some _ => .unknown

/-- The total of a column. -/
structure FinanceColumnTotal where
  /-- Nothing if even one row lacks this column. -/
  total : Option ExactFinanceTotal
  presentRows : ℕ
  missingRows : ℕ
  deriving DecidableEq

/-- The totals of a report in one currency. -/
structure WbFinanceReportTotals where
  reportId : ℕ
  currency : String
  rowCount : ℕ
  documentTypeCounts : ExtTreeMap WbFinanceDocumentKind ℕ
  columns : List (String × FinanceColumnTotal)

/-- A report and a currency, in the order of the reports. -/
abbrev FinanceReportKey : Type := ℕ ×ₗ String

/-- The report and currency of a row. -/
def WbFinanceDetailRow.reportKey (row : WbFinanceDetailRow) : FinanceReportKey := toLex (row.reportId, row.currency)

/-- The report and currency of totals. -/
def WbFinanceReportTotals.key (report : WbFinanceReportTotals) : FinanceReportKey :=
  toLex (report.reportId, report.currency)

/-- Totals of no rows. -/
def emptyReport (key : FinanceReportKey) : WbFinanceReportTotals where
  reportId := (ofLex key).1
  currency := (ofLex key).2
  rowCount := 0
  documentTypeCounts := ∅
  columns := wbRawAmountColumns.map fun name =>
    (name, { total := some ⟨⟨0, by norm_num⟩, 0⟩, presentRows := 0, missingRows := 0 })

/-! ## The loop -/

/-- Add an amount; a missing one leaves no total. -/
def FinanceColumnTotal.addAmount (column : FinanceColumnTotal) :
    Option WbFinanceDecimal → Except FinanceReconciliationError FinanceColumnTotal
  | some amount => do
    let total ← column.total.mapM fun total => total.checkedAdd amount
    return { column with presentRows := column.presentRows + 1, total }
  | none => return { column with missingRows := column.missingRows + 1, total := none }

/-- Count a document by its kind. -/
def countDocument (counts : ExtTreeMap WbFinanceDocumentKind ℕ) (row : WbFinanceDetailRow) :
    ExtTreeMap WbFinanceDocumentKind ℕ :=
  let kind := wbFinanceDocumentKind row.documentType
  counts.insert kind (counts[kind]?.getD 0 + 1)

namespace WbFinanceReportTotals

/-- Add a row. -/
def addRow (report : WbFinanceReportTotals) (row : WbFinanceDetailRow) :
    Except FinanceReconciliationError WbFinanceReportTotals := do
  let columns ← report.columns.mapM fun entry => do
    let column ← entry.2.addAmount row.amounts[entry.1]?
    return (entry.1, column)
  return { report with
    rowCount := report.rowCount + 1
    documentTypeCounts := countDocument report.documentTypeCounts row
    columns }

end WbFinanceReportTotals

/-- **Every raw column by report and currency.** -/
def aggregateWbFinanceRows (rows : List WbFinanceDetailRow) :
    Except FinanceReconciliationError (List WbFinanceReportTotals) := do
  ensure (rows.length ≤ wbFinanceMaxRows) .invalidRows
  let reports ← scan (fun row => row.validate.mapError fun _ => .invalidRows) WbFinanceDetailRow.rrdId
    .duplicateRow (groupStep WbFinanceDetailRow.reportKey emptyReport WbFinanceReportTotals.addRow) ∅ rows
  return reports.toList.map Prod.snd

/-! ## What a group adds up to -/

/-- The amounts of a column. -/
def amountsOf (name : String) (rows : List WbFinanceDetailRow) : List Decimal :=
  rows.filterMap fun row => row.amounts[name]?.map WbFinanceDecimal.decimal

theorem ExactFinanceTotal.decimal_injective : Function.Injective ExactFinanceTotal.decimal := by
  rintro ⟨⟨units, h⟩, scale⟩ ⟨⟨units', h'⟩, scale'⟩ heq
  simp only [ExactFinanceTotal.decimal, Decimal.mk.injEq] at heq
  obtain ⟨rfl, rfl⟩ := heq
  rfl

theorem checkedCoefficient_eq_ok {n : ℤ} {units : Coefficient} :
    checkedCoefficient n = .ok units ↔ units.val = n := by
  unfold checkedCoefficient
  split_ifs with h
  · rw [Except.ok.injEq, Subtype.ext_iff, eq_comm]
  · refine iff_of_false (by simp) fun heq => h ?_
    rw [← heq]
    exact units.2

theorem ExactFinanceTotal.rescaledUnits_eq_ok {total : ExactFinanceTotal} {scale : ℕ} {units : Coefficient} :
    total.rescaledUnits scale = .ok units ↔
      (total.scale ≤ scale ∧ scale ≤ maxScale) ∧ units.val = total.decimal.rescaled scale := by
  simp only [ExactFinanceTotal.rescaledUnits, ok_of_bind, ensure_eq_ok, checkedCoefficient_eq_ok, exists_const]
  rfl

theorem ExactFinanceTotal.decimal_checkedAdd {total sum : ExactFinanceTotal} {value : WbFinanceDecimal}
    (h : total.checkedAdd value = .ok sum) : sum.decimal = total.decimal.add value.decimal := by
  simp only [ExactFinanceTotal.checkedAdd, ok_of_bind, ok_of_pure, rescaledUnits_eq_ok,
    checkedCoefficient_eq_ok] at h
  obtain ⟨left, ⟨-, hleft⟩, right, ⟨-, hright⟩, units, hunits, rfl⟩ := h
  show Decimal.mk units.val _ = _
  rw [hunits, hleft, hright]
  rfl

/-- A column over rows: a total only where every row has the column. -/
structure IsColumn (name : String) (rows : List WbFinanceDetailRow) (column : FinanceColumnTotal) : Prop where
  total : ∀ total, column.total = some total → total.decimal = Decimal.sum (amountsOf name rows)
  missing : column.total = none ↔ ∃ row ∈ rows, row.amounts[name]? = none
  presentRows : column.presentRows = (amountsOf name rows).length
  missingRows : column.presentRows + column.missingRows = rows.length

theorem amountsOf_append (name : String) (rows : List WbFinanceDetailRow) (row : WbFinanceDetailRow) :
    amountsOf name (rows ++ [row]) =
      amountsOf name rows ++ (row.amounts[name]?.map WbFinanceDecimal.decimal).toList := by
  rw [amountsOf, List.filterMap_append, amountsOf]
  rfl

theorem IsColumn.addAmount {name : String} {rows : List WbFinanceDetailRow} {row : WbFinanceDetailRow}
    {column column' : FinanceColumnTotal} (hcolumn : IsColumn name rows column)
    (h : column.addAmount row.amounts[name]? = .ok column') : IsColumn name (rows ++ [row]) column' := by
  obtain ⟨htotal, hmissing, hpresent, hrows⟩ := hcolumn
  cases hamount : row.amounts[name]? with
  | none =>
    rw [hamount] at h
    simp only [FinanceColumnTotal.addAmount, ok_of_pure] at h
    subst h
    refine ⟨?_, iff_of_true rfl ⟨row, by simp, hamount⟩, ?_, ?_⟩
    · rintro total ⟨⟩
    · rw [amountsOf_append, hamount, Option.map_none, Option.toList_none, List.append_nil]
      exact hpresent
    · rw [List.length_append, List.length_singleton, ← hrows]
      exact (Nat.add_assoc _ _ _).symm
  | some amount =>
    rw [hamount] at h
    simp only [FinanceColumnTotal.addAmount, ok_of_bind, ok_of_pure] at h
    obtain ⟨total', hadd, rfl⟩ := h
    have hlast : (∃ row' ∈ rows ++ [row], row'.amounts[name]? = none) ↔
        ∃ row' ∈ rows, row'.amounts[name]? = none := by
      simp only [List.mem_append, List.mem_singleton, or_and_right, exists_or, exists_eq_left, hamount,
        reduceCtorEq, or_false]
    have hcases := ok_of_optionMapM.mp hadd
    refine ⟨?_, ?_, ?_, ?_⟩
    · rintro total rfl
      obtain ⟨-, ⟨⟩⟩ | ⟨old, sum, hold, hsum, ⟨⟩⟩ := hcases
      rw [amountsOf_append, hamount, Option.map_some, Option.toList_some, Decimal.sum_append,
        ← htotal old hold]
      exact ExactFinanceTotal.decimal_checkedAdd hsum
    · rw [hlast, ← hmissing]
      obtain ⟨hnone, rfl⟩ | ⟨old, sum, hold, -, rfl⟩ := hcases
      · exact iff_of_true rfl hnone
      · rw [hold]
        exact iff_of_false (by simp) (by simp)
    · rw [amountsOf_append, hamount, Option.map_some, Option.toList_some, List.length_append,
        List.length_singleton, ← hpresent]
    · rw [List.length_append, List.length_singleton, ← hrows]
      exact Nat.add_right_comm _ _ _

theorem IsColumn.unique {name : String} {rows rows' : List WbFinanceDetailRow}
    {column column' : FinanceColumnTotal} (hperm : rows.Perm rows') (h : IsColumn name rows column)
    (h' : IsColumn name rows' column') : column = column' := by
  obtain ⟨total, present, missing⟩ := column
  obtain ⟨total', present', missing'⟩ := column'
  have hamounts : (amountsOf name rows).Perm (amountsOf name rows') := hperm.filterMap _
  have hpresent : present = present' :=
    h.presentRows.trans (hamounts.length_eq.trans h'.presentRows.symm)
  have hrows : present + missing = present' + missing' :=
    h.missingRows.trans (hperm.length_eq.trans h'.missingRows.symm)
  have hnone : total = none ↔ total' = none := by
    refine h.missing.trans (Iff.trans ?_ h'.missing.symm)
    simp only [hperm.mem_iff]
  have htotal : total = total' := by
    cases total with
    | none => exact (hnone.mp rfl).symm
    | some value =>
      cases total' with
      | none => cases hnone.mpr rfl
      | some value' =>
        congr 1
        refine ExactFinanceTotal.decimal_injective ?_
        rw [h.total value rfl, h'.total value' rfl, Decimal.sum_perm hamounts]
  subst hpresent htotal
  congr 1
  omega

/-! ## Reports of a group -/

/-- The totals are those of the rows. -/
structure IsReport (key : FinanceReportKey) (rows : List WbFinanceDetailRow) (report : WbFinanceReportTotals) :
    Prop where
  key_eq : report.key = key
  rowCount : report.rowCount = rows.length
  documents : report.documentTypeCounts = rows.foldl countDocument ∅
  names : report.columns.map Prod.fst = wbRawAmountColumns
  columns : ∀ entry ∈ report.columns, IsColumn entry.1 rows entry.2

theorem isReport_emptyReport (key : FinanceReportKey) : IsReport key [] (emptyReport key) := by
  refine ⟨rfl, rfl, rfl, ?_, fun entry hentry => ?_⟩
  · rw [emptyReport, List.map_map]
    exact List.map_id _
  · obtain ⟨name, -, rfl⟩ := List.mem_map.mp hentry
    refine ⟨?_, by simp, rfl, rfl⟩
    rintro total ⟨⟩
    rfl

theorem IsReport.addRow {key : FinanceReportKey} {rows : List WbFinanceDetailRow} {row : WbFinanceDetailRow}
    {report report' : WbFinanceReportTotals} (hreport : IsReport key rows report)
    (h : report.addRow row = .ok report') : IsReport key (rows ++ [row]) report' := by
  simp only [WbFinanceReportTotals.addRow, ok_of_bind, ok_of_pure] at h
  obtain ⟨columns, hcolumns, rfl⟩ := h
  refine ⟨hreport.key_eq, ?_, ?_, ?_, fun entry hentry => ?_⟩
  · simp [hreport.rowCount]
  · rw [List.foldl_append, ← hreport.documents]
    rfl
  · rw [← hreport.names]
    refine map_of_mapM (fun entry entry' h => ?_) hcolumns
    simp only [ok_of_bind, ok_of_pure] at h
    obtain ⟨column, -, rfl⟩ := h
    rfl
  · obtain ⟨old, hold, h⟩ := exists_of_mem_mapM hcolumns entry hentry
    simp only [ok_of_bind, ok_of_pure] at h
    obtain ⟨column, hadd, rfl⟩ := h
    exact (hreport.columns old hold).addAmount hadd

theorem isReport_foldlM {key : FinanceReportKey} {rows : List WbFinanceDetailRow} {report : WbFinanceReportTotals}
    (h : rows.foldlM WbFinanceReportTotals.addRow (emptyReport key) = .ok report) : IsReport key rows report :=
  foldlM_invariant (P := IsReport key) (isReport_emptyReport key)
    (fun _ _ _ _ hreport hstep => hreport.addRow hstep) h

theorem countDocument_comm (counts : ExtTreeMap WbFinanceDocumentKind ℕ) (row row' : WbFinanceDetailRow) :
    countDocument (countDocument counts row) row' = countDocument (countDocument counts row') row := by
  refine ExtTreeMap.ext_getElem? fun kind => ?_
  simp only [countDocument, getElem?_put]
  by_cases hkinds : wbFinanceDocumentKind row.documentType = wbFinanceDocumentKind row'.documentType
  · rw [hkinds]
  · simp only [if_neg hkinds, if_neg (Ne.symm hkinds)]
    split_ifs with h h'
    · exact absurd (h'.trans h.symm) hkinds
    · rfl
    · rfl
    · rfl

/-- A report is determined by its rows, whatever their order. -/
theorem IsReport.unique {key : FinanceReportKey} {rows rows' : List WbFinanceDetailRow}
    {report report' : WbFinanceReportTotals} (hperm : rows.Perm rows') (h : IsReport key rows report)
    (h' : IsReport key rows' report') : report = report' := by
  have hcolumns : report.columns = report'.columns := by
    have hnames := h.names.trans h'.names.symm
    have hlength : report.columns.length = report'.columns.length := by
      rw [← List.length_map Prod.fst, hnames, List.length_map]
    refine List.ext_getElem hlength fun i hi hi' => ?_
    have hname : report.columns[i].1 = report'.columns[i].1 := by
      have := congrArg (fun l : List String => l[i]?) hnames
      simpa [hi, hi'] using this
    refine Prod.ext hname ?_
    have hcolumn := h.columns _ (List.getElem_mem hi)
    rw [hname] at hcolumn
    exact hcolumn.unique hperm (h'.columns _ (List.getElem_mem hi'))
  have hdocuments : report.documentTypeCounts = report'.documentTypeCounts := by
    rw [h.documents, h'.documents]
    exact hperm.foldl_eq' (fun row _ row' _ counts => countDocument_comm counts row row') _
  have hkey : report.key = report'.key := h.key_eq.trans h'.key_eq.symm
  have hcount : report.rowCount = report'.rowCount := by
    rw [h.rowCount, h'.rowCount, hperm.length_eq]
  cases report
  cases report'
  simp_all [WbFinanceReportTotals.key]

/-! ## Groups -/

/-- The rows of a report. -/
def groupOf (key : FinanceReportKey) (rows : List WbFinanceDetailRow) : List WbFinanceDetailRow :=
  rows.filter fun row => row.reportKey = key

/-- The totals of every report in the rows. -/
abbrev groupReports (rows : List WbFinanceDetailRow) :
    Except FinanceReconciliationError (ExtTreeMap FinanceReportKey WbFinanceReportTotals) :=
  groupRows WbFinanceDetailRow.reportKey emptyReport WbFinanceReportTotals.addRow rows

/-- Rows that are accepted one by one. -/
structure RowsAccepted (rows : List WbFinanceDetailRow) : Prop where
  length : rows.length ≤ wbFinanceMaxRows
  valid : ∀ row ∈ rows, row.validate = .ok ()
  distinct : (rows.map WbFinanceDetailRow.rrdId).Nodup

theorem RowsAccepted.perm {rows rows' : List WbFinanceDetailRow} (h : RowsAccepted rows)
    (hperm : rows.Perm rows') : RowsAccepted rows' :=
  ⟨hperm.length_eq ▸ h.length, fun row hrow => h.valid row (hperm.mem_iff.mpr hrow),
    (hperm.map _).nodup_iff.mp h.distinct⟩

theorem aggregate_of_accepted {rows : List WbFinanceDetailRow} (h : RowsAccepted rows) :
    aggregateWbFinanceRows rows = (groupReports rows).map fun groups => groups.toList.map Prod.snd := by
  have hcheck : ∀ row ∈ rows, (row.validate.mapError fun _ => FinanceReconciliationError.invalidRows) = .ok () := by
    intro row hrow
    rw [h.valid row hrow]
    rfl
  rw [aggregateWbFinanceRows, ensure, if_pos h.length, scan_of_distinct hcheck h.distinct]
  show (groupReports rows >>= _) = _
  cases groupReports rows <;> rfl

/-- **Rows are aggregated where they are accepted and no group overflows.** -/
theorem aggregate_eq_ok {rows : List WbFinanceDetailRow} {reports : List WbFinanceReportTotals} :
    aggregateWbFinanceRows rows = .ok reports ↔
      RowsAccepted rows ∧ ∃ groups, groupReports rows = .ok groups ∧ groups.toList.map Prod.snd = reports := by
  constructor
  · intro h
    simp only [aggregateWbFinanceRows, ok_of_bind, ok_of_pure, ensure_eq_ok, exists_const, scan_eq_ok,
      ok_of_mapError] at h
    obtain ⟨hlength, groups, ⟨hvalid, hdistinct, hgroups⟩, rfl⟩ := h
    exact ⟨⟨hlength, hvalid, hdistinct⟩, groups, hgroups, rfl⟩
  · rintro ⟨haccepted, groups, hgroups, rfl⟩
    rw [aggregate_of_accepted haccepted, hgroups]
    rfl

/-! ## Failures -/

theorem checkedCoefficient_eq_error {n : ℤ} {e : FinanceReconciliationError}
    (h : checkedCoefficient n = .error e) : e = .invalidAmount := by
  unfold checkedCoefficient at h
  split_ifs at h
  exact (Except.error.inj h).symm

theorem rescaledUnits_eq_error {total : ExactFinanceTotal} {scale : ℕ} {e : FinanceReconciliationError}
    (h : total.rescaledUnits scale = .error e) : e = .invalidAmount := by
  obtain h | ⟨-, -, h⟩ := bind_eq_error.mp h
  · exact (ensure_eq_error.mp h).2.symm
  · exact checkedCoefficient_eq_error h

theorem checkedAdd_eq_error {total : ExactFinanceTotal} {value : WbFinanceDecimal}
    {e : FinanceReconciliationError} (h : total.checkedAdd value = .error e) : e = .invalidAmount := by
  obtain h | ⟨left, -, h⟩ := bind_eq_error.mp h
  · exact rescaledUnits_eq_error h
  obtain h | ⟨right, -, h⟩ := bind_eq_error.mp h
  · exact rescaledUnits_eq_error h
  obtain h | ⟨units, -, ⟨⟩⟩ := bind_eq_error.mp h
  exact checkedCoefficient_eq_error h

theorem addAmount_eq_error {column : FinanceColumnTotal} {amount : Option WbFinanceDecimal}
    {e : FinanceReconciliationError} (h : column.addAmount amount = .error e) :
    ∃ total value, column.total = some total ∧ amount = some value ∧ total.checkedAdd value = .error e := by
  cases amount with
  | none => cases h
  | some value =>
    obtain h | ⟨total, -, ⟨⟩⟩ := bind_eq_error.mp h
    cases htotal : column.total with
    | none =>
      rw [htotal] at h
      cases h
    | some total =>
      refine ⟨total, value, rfl, rfl, ?_⟩
      rw [htotal, Option.mapM_some] at h
      cases hadd : total.checkedAdd value with
      | ok sum =>
        rw [hadd] at h
        cases h
      | error e' =>
        rw [hadd] at h
        cases h
        rfl

theorem addRow_eq_error {report : WbFinanceReportTotals} {row : WbFinanceDetailRow}
    {e : FinanceReconciliationError} (h : report.addRow row = .error e) :
    ∃ entry ∈ report.columns, entry.2.addAmount row.amounts[entry.1]? = .error e := by
  obtain h | ⟨columns, -, ⟨⟩⟩ := bind_eq_error.mp h
  obtain ⟨entry, hentry, h⟩ := error_of_mapM h
  obtain h | ⟨column, -, ⟨⟩⟩ := bind_eq_error.mp h
  exact ⟨entry, hentry, h⟩

/-- **The groups fail only by overflow.** -/
theorem groupReports_eq_error {rows : List WbFinanceDetailRow} {e : FinanceReconciliationError}
    (h : groupReports rows = .error e) : e = .invalidAmount := by
  obtain ⟨groups, row, -, h⟩ := error_of_foldlM h
  obtain h | ⟨report, -, ⟨⟩⟩ := bind_eq_error.mp h
  obtain ⟨entry, -, h⟩ := addRow_eq_error h
  obtain ⟨total, value, -, -, h⟩ := addAmount_eq_error h
  exact checkedAdd_eq_error h

theorem aggregate_error_of_accepted {rows : List WbFinanceDetailRow} (h : RowsAccepted rows)
    (hfail : ∀ reports, aggregateWbFinanceRows rows ≠ .ok reports) :
    aggregateWbFinanceRows rows = .error .invalidAmount := by
  rw [aggregate_of_accepted h] at hfail ⊢
  cases hgroups : groupReports rows with
  | ok groups =>
    rw [hgroups] at hfail
    exact absurd rfl (hfail _)
  | error e =>
    rw [groupReports_eq_error hgroups]
    rfl

/-! ## Sums without overflow -/

/-- The absolute amounts of a column in units of the finest scale. -/
def columnMagnitude (name : String) (rows : List WbFinanceDetailRow) : ℤ :=
  ((amountsOf name rows).map (Decimal.magnitude maxScale)).sum

/-- No order of the rows can overflow. -/
def FitsInAnyOrder (rows : List WbFinanceDetailRow) : Prop :=
  ∀ key, ∀ name ∈ wbRawAmountColumns, columnMagnitude name (groupOf key rows) < 2 ^ 127

theorem scale_le_of_validate {row : WbFinanceDetailRow} (h : row.validate = .ok ()) {name : String}
    {amount : WbFinanceDecimal} (hamount : row.amounts[name]? = some amount) : amount.scale ≤ maxScale := by
  rw [WbFinanceDetailRow.validate, ensure_eq_ok] at h
  obtain ⟨-, -, -, -, -, -, -, hamounts, -⟩ := h
  have hentry := List.all_eq_true.mp hamounts (name, amount)
    (ExtTreeMap.mem_toList_iff_getElem?_eq_some.mpr hamount)
  rw [Bool.and_eq_true, decide_eq_true_eq] at hentry
  exact hentry.2

theorem mem_amountsOf {name : String} {rows : List WbFinanceDetailRow} {term : Decimal} :
    term ∈ amountsOf name rows ↔ ∃ row ∈ rows, ∃ amount, row.amounts[name]? = some amount ∧
      amount.decimal = term := by
  simp [amountsOf]

theorem exists_checkedCoefficient {n : ℤ} (h : |n| < 2 ^ 127) : ∃ units, checkedCoefficient n = .ok units := by
  have hrange : -2 ^ 127 ≤ n ∧ n < 2 ^ 127 := by
    obtain ⟨hlow, hhigh⟩ := abs_lt.mp h
    exact ⟨hlow.le, hhigh⟩
  exact ⟨⟨n, hrange⟩, dif_pos hrange⟩

theorem exists_rescaledUnits {total : ExactFinanceTotal} {scale : ℕ} (hscale : total.scale ≤ scale)
    (hmax : scale ≤ maxScale) (h : total.decimal.magnitude maxScale < 2 ^ 127) :
    ∃ units, total.rescaledUnits scale = .ok units := by
  have hfit : |total.decimal.rescaled scale| < 2 ^ 127 :=
    (Decimal.abs_rescaled_le_magnitude hscale hmax).trans_lt h
  obtain ⟨units, hunits⟩ := exists_checkedCoefficient hfit
  exact ⟨units, ExactFinanceTotal.rescaledUnits_eq_ok.mpr ⟨⟨hscale, hmax⟩, checkedCoefficient_eq_ok.mp hunits⟩⟩

theorem exists_checkedAdd {total : ExactFinanceTotal} {value : WbFinanceDecimal}
    (htotal : total.scale ≤ maxScale) (hvalue : value.scale ≤ maxScale)
    (h : total.decimal.magnitude maxScale + value.decimal.magnitude maxScale < 2 ^ 127) :
    ∃ sum, total.checkedAdd value = .ok sum := by
  have hmax : max total.scale value.scale ≤ maxScale := max_le htotal hvalue
  have hleftPos := total.decimal.magnitude_nonneg maxScale
  have hrightPos := value.decimal.magnitude_nonneg maxScale
  obtain ⟨left, hleft⟩ := exists_rescaledUnits (le_max_left total.scale value.scale) hmax (by omega)
  have hvalueFits : (ExactFinanceTotal.mk value.units value.scale).decimal.magnitude maxScale < 2 ^ 127 := by
    show value.decimal.magnitude maxScale < _
    omega
  obtain ⟨right, hright⟩ := exists_rescaledUnits (le_max_right total.scale value.scale) hmax hvalueFits
  have hsum : |left.val + right.val| < 2 ^ 127 := by
    rw [(ExactFinanceTotal.rescaledUnits_eq_ok.mp hleft).2, (ExactFinanceTotal.rescaledUnits_eq_ok.mp hright).2]
    have hl : |total.decimal.rescaled (max total.scale value.scale)| ≤ total.decimal.magnitude maxScale :=
      Decimal.abs_rescaled_le_magnitude (le_max_left total.scale value.scale) hmax
    have hr : |value.decimal.rescaled (max total.scale value.scale)| ≤ value.decimal.magnitude maxScale :=
      Decimal.abs_rescaled_le_magnitude (le_max_right total.scale value.scale) hmax
    calc |_ + value.decimal.rescaled _|
        ≤ |total.decimal.rescaled (max total.scale value.scale)| +
          |value.decimal.rescaled (max total.scale value.scale)| := abs_add_le _ _
      _ < 2 ^ 127 := by omega
  obtain ⟨units, hunits⟩ := exists_checkedCoefficient hsum
  refine ⟨⟨units, max total.scale value.scale⟩, ?_⟩
  simp only [ExactFinanceTotal.checkedAdd, ok_of_bind, ok_of_pure]
  exact ⟨left, hleft, right, hright, units, hunits, rfl⟩

theorem columnMagnitude_append (name : String) (rows : List WbFinanceDetailRow) (row : WbFinanceDetailRow) :
    columnMagnitude name (rows ++ [row]) = columnMagnitude name rows +
      (row.amounts[name]?.map fun amount => amount.decimal.magnitude maxScale).getD 0 := by
  rw [columnMagnitude, amountsOf_append, List.map_append, List.sum_append]
  cases row.amounts[name]? <;> simp [columnMagnitude]

theorem columnMagnitude_prefix_le (name : String) (rows : List WbFinanceDetailRow) (row : WbFinanceDetailRow) :
    columnMagnitude name rows ≤ columnMagnitude name (rows ++ [row]) := by
  rw [columnMagnitude_append]
  cases row.amounts[name]? with
  | none => simp
  | some amount => simpa using amount.decimal.magnitude_nonneg maxScale

theorem exists_foldlM_addRow {rows : List WbFinanceDetailRow} (key : FinanceReportKey)
    (hvalid : ∀ row ∈ rows, row.validate = .ok ())
    (hfits : ∀ name ∈ wbRawAmountColumns, columnMagnitude name rows < 2 ^ 127) :
    ∃ report, rows.foldlM WbFinanceReportTotals.addRow (emptyReport key) = .ok report := by
  induction rows using List.reverseRecOn with
  | nil => exact ⟨_, rfl⟩
  | append_singleton rows row ih =>
    have hrows : ∀ row' ∈ rows, row'.validate = .ok () := fun row' hrow' =>
      hvalid row' (List.mem_append_left _ hrow')
    obtain ⟨report, hreport⟩ := ih hrows fun name hname =>
      (columnMagnitude_prefix_le name rows row).trans_lt (hfits name hname)
    cases hadd : report.addRow row with
    | ok report' =>
      refine ⟨report', ?_⟩
      rw [List.foldlM_append, hreport]
      show (report.addRow row >>= pure) = _
      rw [hadd]
      rfl
    | error e =>
      -- a failing column would exceed the bound of its magnitudes
      obtain ⟨entry, hentry, hcolumn⟩ := addRow_eq_error hadd
      obtain ⟨total, value, htotal, hamount, hfail⟩ := addAmount_eq_error hcolumn
      have hreport := isReport_foldlM hreport
      have hname : entry.1 ∈ wbRawAmountColumns := by
        rw [← hreport.names]
        exact List.mem_map_of_mem hentry
      have hdecimal := (hreport.columns entry hentry).total total htotal
      have hscales : ∀ term ∈ amountsOf entry.1 rows, term.scale ≤ maxScale := by
        intro term hterm
        obtain ⟨row', hrow', amount, hamount', rfl⟩ := mem_amountsOf.mp hterm
        exact scale_le_of_validate (hrows row' hrow') hamount'
      have hscale : total.scale ≤ maxScale := by
        show total.decimal.scale ≤ _
        rw [hdecimal]
        exact Decimal.scale_sum_le hscales
      have hvalue := scale_le_of_validate (hvalid row (by simp)) hamount
      have hmagnitude : total.decimal.magnitude maxScale ≤ columnMagnitude entry.1 rows := by
        rw [hdecimal]
        exact Decimal.magnitude_sum_le hscales
      have hfit := hfits entry.1 hname
      rw [columnMagnitude_append, hamount, Option.map_some, Option.getD_some] at hfit
      obtain ⟨sum, hsum⟩ := exists_checkedAdd hscale hvalue (by omega)
      rw [hsum] at hfail
      cases hfail

theorem exists_groupReports {rows : List WbFinanceDetailRow} (h : RowsAccepted rows)
    (hfits : FitsInAnyOrder rows) : ∃ groups, groupReports rows = .ok groups :=
  exists_groupRows fun key => exists_foldlM_addRow key
    (fun row hrow => h.valid row (List.mem_of_mem_filter hrow)) (hfits key)

/-! ## The reports -/

section Reports

variable {rows rows' : List WbFinanceDetailRow} {groups groups' : ExtTreeMap FinanceReportKey WbFinanceReportTotals}

theorem isReport_of_groups (h : groupReports rows = .ok groups) {key : FinanceReportKey} {report : WbFinanceReportTotals}
    (hreport : groups[key]? = some report) : IsReport key (groupOf key rows) report := by
  have hgroup := group_of_groupRows h key
  rw [hreport, Option.getD_some] at hgroup
  exact isReport_foldlM hgroup

theorem isSome_groups (h : groupReports rows = .ok groups) (key : FinanceReportKey) :
    groups[key]?.isSome = true ↔ key ∈ rows.map WbFinanceDetailRow.reportKey :=
  isSome_groupRows h key

/-- **Any order of the rows that adds up gives the same reports.** -/
theorem groupReports_perm (hperm : rows.Perm rows') (h : groupReports rows = .ok groups)
    (h' : groupReports rows' = .ok groups') : groups = groups' := by
  refine ExtTreeMap.ext_getElem? fun key => ?_
  have hsome : groups[key]?.isSome = true ↔ groups'[key]?.isSome = true := by
    rw [isSome_groups h, isSome_groups h', (hperm.map _).mem_iff]
  cases hreport : groups[key]? with
  | none =>
    cases hreport' : groups'[key]? with
    | none => rfl
    | some report' => simp [hreport, hreport'] at hsome
  | some report =>
    cases hreport' : groups'[key]? with
    | none => simp [hreport, hreport'] at hsome
    | some report' =>
      congr 1
      exact (isReport_of_groups h hreport).unique (hperm.filter _) (isReport_of_groups h' hreport')

theorem mem_reports {report : WbFinanceReportTotals} (h : groupReports rows = .ok groups) :
    report ∈ groups.toList.map Prod.snd ↔ groups[report.key]? = some report := by
  rw [List.mem_map]
  constructor
  · rintro ⟨⟨key, report⟩, hentry, rfl⟩
    have hreport := ExtTreeMap.mem_toList_iff_getElem?_eq_some.mp hentry
    rw [(isReport_of_groups h hreport).key_eq]
    exact hreport
  · intro hreport
    exact ⟨(report.key, report), ExtTreeMap.mem_toList_iff_getElem?_eq_some.mpr hreport, rfl⟩

theorem nodup_reports (h : groupReports rows = .ok groups) :
    ((groups.toList.map Prod.snd).map WbFinanceReportTotals.key).Nodup := by
  have hkeys : (groups.toList.map Prod.snd).map WbFinanceReportTotals.key = groups.keys := by
    rw [← ExtTreeMap.map_fst_toList_eq_keys, List.map_map]
    refine List.map_congr_left fun entry hentry => ?_
    exact (isReport_of_groups h (ExtTreeMap.mem_toList_iff_getElem?_eq_some.mp hentry)).key_eq
  rw [hkeys]
  exact ExtTreeMap.nodup_keys

/-- Every row belongs to one report. -/
theorem exists_unique_report (h : groupReports rows = .ok groups) {row : WbFinanceDetailRow}
    (hrow : row ∈ rows) :
    ∃! report, report ∈ groups.toList.map Prod.snd ∧ row ∈ groupOf report.key rows := by
  have hsome := (isSome_groups h row.reportKey).mpr (List.mem_map_of_mem hrow)
  obtain ⟨report, hreport⟩ := Option.isSome_iff_exists.mp hsome
  have hkey := (isReport_of_groups h hreport).key_eq
  refine ⟨report, ⟨?_, ?_⟩, ?_⟩
  · rw [mem_reports h, hkey]
    exact hreport
  · exact List.mem_filter.mpr ⟨hrow, by simp [hkey]⟩
  · rintro other ⟨hother, hmem⟩
    have hotherKey : row.reportKey = other.key := by simpa using (List.mem_filter.mp hmem).2
    rw [mem_reports h, ← hotherKey, hreport] at hother
    exact (Option.some.inj hother).symm

end Reports

/-- **Exact aggregation.** Every report has the rational sums of its rows, a total is missing exactly where
a row lacks the column, every row counts in one report, and any order of the rows gives the same reports
or overflows; where the absolute amounts fit, no order overflows. -/
theorem aggregate_exact {rows : List WbFinanceDetailRow} {reports : List WbFinanceReportTotals}
    (h : aggregateWbFinanceRows rows = .ok reports) :
    (∀ report ∈ reports,
      report.rowCount = (groupOf report.key rows).length ∧
      report.columns.map Prod.fst = wbRawAmountColumns ∧
      ∀ entry ∈ report.columns,
        (∀ total, entry.2.total = some total →
          total.decimal.value = ((amountsOf entry.1 (groupOf report.key rows)).map Decimal.value).sum) ∧
        (entry.2.total = none ↔ ∃ row ∈ groupOf report.key rows, row.amounts[entry.1]? = none) ∧
        entry.2.presentRows + entry.2.missingRows = report.rowCount) ∧
    (reports.map WbFinanceReportTotals.key).Nodup ∧
    (∀ row ∈ rows, ∃! report, report ∈ reports ∧ row ∈ groupOf report.key rows) ∧
    ∀ rows', rows.Perm rows' →
      (aggregateWbFinanceRows rows' = .ok reports ∨ aggregateWbFinanceRows rows' = .error .invalidAmount) ∧
      (FitsInAnyOrder rows → aggregateWbFinanceRows rows' = .ok reports) := by
  obtain ⟨haccepted, groups, hgroups, rfl⟩ := aggregate_eq_ok.mp h
  refine ⟨fun report hmem => ?_, nodup_reports hgroups, fun row hrow => exists_unique_report hgroups hrow,
    fun rows' hperm => ?_⟩
  · have hreport := isReport_of_groups hgroups ((mem_reports hgroups).mp hmem)
    refine ⟨hreport.rowCount, hreport.names, fun entry hentry => ?_⟩
    have hcolumn := hreport.columns entry hentry
    refine ⟨fun total htotal => ?_, hcolumn.missing, ?_⟩
    · rw [hcolumn.total total htotal, Decimal.value_sum]
    · rw [hcolumn.missingRows, hreport.rowCount]
  · have haccepted' := haccepted.perm hperm
    have hsame : ∀ reports', aggregateWbFinanceRows rows' = .ok reports' →
        reports' = groups.toList.map Prod.snd := by
      intro reports' h'
      obtain ⟨-, groups', hgroups', rfl⟩ := aggregate_eq_ok.mp h'
      rw [groupReports_perm hperm hgroups hgroups']
    refine ⟨?_, fun hfits => ?_⟩
    · by_cases hok : ∃ reports', aggregateWbFinanceRows rows' = .ok reports'
      · obtain ⟨reports', h'⟩ := hok
        exact .inl (hsame reports' h' ▸ h')
      · exact .inr (aggregate_error_of_accepted haccepted' (not_exists.mp hok))
    · have hfits' : FitsInAnyOrder rows' := by
        intro key name hname
        have hsum : columnMagnitude name (groupOf key rows') = columnMagnitude name (groupOf key rows) :=
          (((hperm.filter _).filterMap _).map _).symm.sum_eq
        rw [hsum]
        exact hfits key name hname
      obtain ⟨groups', hgroups'⟩ := exists_groupReports haccepted' hfits'
      exact hsame _ (aggregate_eq_ok.mpr ⟨haccepted', groups', hgroups', rfl⟩) ▸
        aggregate_eq_ok.mpr ⟨haccepted', groups', hgroups', rfl⟩

/-- A row of one report with one amount. -/
def payRow (rrdId : ℕ) (units : Coefficient) (scale : ℕ) : WbFinanceDetailRow where
  rrdId := rrdId
  reportId := 7
  businessDate := 20000
  sku := none
  currency := "RUB"
  documentType := some "Продажа"
  operationType := none
  quantity := some 1
  amounts := ExtTreeMap.ofList [("forPay", WbFinanceDecimal.mk units scale)]

/-- Two amounts with different numbers of digits. -/
def mixedScaleRows : List WbFinanceDetailRow :=
  [payRow 1 ⟨1050, by norm_num⟩ 2, payRow 2 ⟨5, by norm_num⟩ 1]

theorem aggregate_exact_mixed_scales :
    ∃ report, aggregateWbFinanceRows mixedScaleRows = .ok [report] ∧ report.rowCount = 2 ∧
      ∃ entry ∈ report.columns, entry.1 = "forPay" ∧
        ∃ total, entry.2.total = some total ∧ total.decimal.value = 11 := by
  obtain ⟨report, h, hkey, entry, hentry, hname, total, htotal⟩ : ∃ report,
      aggregateWbFinanceRows mixedScaleRows = .ok [report] ∧ report.key = toLex (7, "RUB") ∧
      ∃ entry ∈ report.columns, entry.1 = "forPay" ∧ ∃ total, entry.2.total = some total :=
    ⟨_, rfl, rfl, ("forPay", _), .tail _ (.tail _ (.tail _ (.tail _ (.head _)))), rfl, _, rfl⟩
  obtain ⟨hcount, -, hcolumns⟩ := (aggregate_exact h).1 report (List.mem_singleton_self report)
  have hgroup : groupOf report.key mixedScaleRows = mixedScaleRows := by
    rw [hkey]
    rfl
  have hamounts : amountsOf "forPay" mixedScaleRows = [⟨1050, 2⟩, ⟨5, 1⟩] := rfl
  have hvalue := (hcolumns entry hentry).1 total htotal
  rw [hname, hgroup, hamounts] at hvalue
  refine ⟨report, h, ?_, entry, hentry, hname, total, htotal, ?_⟩
  · rw [hcount, hgroup]
    rfl
  · rw [hvalue]
    norm_num [Decimal.value]

/-- The first order passes below the largest coefficient, the second one exceeds it. -/
theorem aggregate_order_matters :
    ¬ ∀ rows rows', rows.Perm rows' → aggregateWbFinanceRows rows' = aggregateWbFinanceRows rows := by
  intro h
  have hperm := h [payRow 1 ⟨2 ^ 127 - 1, by norm_num⟩ 0, payRow 2 ⟨-2, by norm_num⟩ 0, payRow 3 ⟨1, by norm_num⟩ 0]
    [payRow 1 ⟨2 ^ 127 - 1, by norm_num⟩ 0, payRow 3 ⟨1, by norm_num⟩ 0, payRow 2 ⟨-2, by norm_num⟩ 0]
    (.cons _ (.swap _ _ _))
  have hisOk := congrArg Except.isOk hperm
  revert hisOk
  decide +kernel

end AdsControl.Reporting
