import AdsControl.Reporting.WbSales
import AdsControl.Text

/-!
# Collection of finance details

The details of sales reports are walked by the identifier of the last row. Only a reply without content
ends the walk; every page is validated again when it comes from the journal.

* `WbFinanceDetailRow`, `validatePageCursor`: the rows, their bounds and their order;
* `financeRowCodec`: rows as they are stored, with exact coefficients as text;
* `collectFinanceDetailsCheckpointed`: the walk;
* `financeCollection`: the walk as a collection.
-/

namespace AdsControl.Reporting

open Fallible Interaction OrderedMap Serde Std

/-! ## Rows -/

/-- The most rows of a page. -/
def wbFinancePageSize : ℕ := 1000

/-- The most rows of a collection. -/
def wbFinanceMaxRows : ℕ := 25000

/-- The most requests of a walk. -/
def maxFinancePages : ℕ := 1000

/-- The longest interval in days. -/
def maxFinanceDays : ℤ := 31

/-- The longest text of a type in bytes. -/
def maxTypeBytes : ℕ := 512

/-- The most digits after the point. -/
def maxDecimalScale : ℕ := 18

/-- The largest id of 64 bits. -/
def maxSignedId : ℕ := 2 ^ 63 - 1

/-- 2024-01-29. -/
def firstSupportedDate : ℤ := 19751

/-- The amounts of a row by their fields. -/
def amountFields : List String :=
  ["retailPrice", "retailAmount", "retailPriceWithDisc", "ppvzSalesCommission", "forPay", "ppvzReward",
    "acquiringFee", "vw", "vwNds", "deliveryService", "penalty", "additionalPayment", "rebillLogisticCost",
    "paidStorage", "deduction", "paidAcceptance", "installmentCofinancingAmount", "cashbackAmount",
    "cashbackDiscount", "cashbackCommissionChange", "paymentSchedule"]

/-- The requested fields. -/
def wbFinanceFields : List String :=
  ["reportId", "rrdId", "rrDate", "nmId", "currency", "docTypeName", "sellerOperName", "quantity"] ++
    amountFields

/-- A signed coefficient of 128 bits. -/
abbrev Coefficient : Type := { n : ℤ // -2 ^ 127 ≤ n ∧ n < 2 ^ 127 }

/-- An exact decimal: the units divided by ten to the power of the scale. -/
structure WbFinanceDecimal where
  units : Coefficient
  scale : ℕ

/-- A row of a report with its exact amounts. -/
structure WbFinanceDetailRow where
  rrdId : ℕ
  reportId : ℕ
  businessDate : ℤ
  sku : Option ℕ
  currency : String
  documentType : Option String
  operationType : Option String
  quantity : Option ℤ
  amounts : ExtTreeMap String WbFinanceDecimal

/-- A code of three capital letters. -/
def validCurrency (value : String) : Bool :=
  value.utf8ByteSize == 3 && value.toList.all fun c => 'A' ≤ c && c ≤ 'Z'

/-- A text within its length and without control characters. -/
def validTypeText (value : String) : Bool :=
  decide (value.utf8ByteSize ≤ maxTypeBytes) && !value.toList.any isControl

namespace WbFinanceDetailRow

/-- The bounds of a row. -/
def validate (row : WbFinanceDetailRow) : Except WbReportSourceError Unit :=
  ensure (0 < row.rrdId ∧ row.rrdId ≤ maxSignedId ∧ 0 < row.reportId ∧ row.reportId ≤ maxSignedId ∧
    (row.sku.all fun sku => 0 < sku && sku ≤ maxSignedId) ∧ validCurrency row.currency ∧
    row.amounts.isEmpty = false ∧
    (row.amounts.toList.all fun entry => amountFields.contains entry.1 && entry.2.scale ≤ maxDecimalScale) ∧
    [row.documentType, row.operationType].all fun text => text.all validTypeText) .invalidResponse

end WbFinanceDetailRow

/-- Rows in ascending order from a cursor; the last one is the next cursor. -/
def validateRows : ℕ → List WbFinanceDetailRow → Except WbReportSourceError ℕ
  | cursor, [] => .ok cursor
  | cursor, row :: rows => do
    row.validate
    ensure (cursor < row.rrdId) .invalidResponse
    validateRows row.rrdId rows

/-- A page that is neither empty nor too long, in ascending order; the next cursor. -/
def validatePageCursor (page : List WbFinanceDetailRow) (cursor : ℕ) : Except WbReportSourceError ℕ := do
  ensure (page ≠ [] ∧ page.length ≤ wbFinancePageSize) .invalidResponse
  validateRows cursor page

/-! ## Stored rows -/

theorem Coefficient.length_repr (n : Coefficient) : n.val.repr.length ≤ 40 := by
  obtain ⟨n, hlow, hhigh⟩ := n
  have habs : n.natAbs.repr.length ≤ 39 := by
    rw [Nat.length_repr_le_iff (by decide)]
    have hbound : (2 : ℤ) ^ 127 < 10 ^ 39 := by norm_num
    omega
  rw [Int.repr_eq_if]
  dsimp only
  split
  · have htoNat : n.toNat = n.natAbs := by omega
    rw [htoNat]
    omega
  · have htoNat : (-n).toNat = n.natAbs := by omega
    rw [htoNat, String.length_append]
    have hminus : "-".length = 1 := rfl
    omega

/-- Canonical text, or a number of 64 bits as it was stored before. -/
def coefficientCodec : Codec Coefficient where
  encode n := .str n.val.repr
  decode
    | .str raw =>
      if raw.length ≤ 40 then
        raw.toInt?.bind fun n =>
          if h : n.repr = raw ∧ -2 ^ 127 ≤ n ∧ n < 2 ^ 127 then some ⟨n, h.2⟩ else none
      else none
    | .num n =>
      if h : -2 ^ 63 ≤ n ∧ n < 2 ^ 63 then some ⟨n, by omega⟩ else none
    | _ => none
  decode_encode n := by
    have hlength := n.length_repr
    simpa [hlength] using n.2

/-- A decimal as it is stored. -/
def financeDecimalCodec : Codec WbFinanceDecimal where
  encode value := .obj [("units", coefficientCodec.encode value.units), ("scale", Codec.nat.encode value.scale)]
  decode value := do
    let fields ← value.known ["units", "scale"]
    return {
      units := ← Json.field coefficientCodec fields "units"
      scale := ← Json.field Codec.nat fields "scale" }
  decode_encode value := by simp [Json.known, Json.field_other]

theorem string_ne_null (text : String) : Codec.string.encode text ≠ .null := fun h => (nomatch h)

theorem int_ne_null (n : ℤ) : Codec.int.encode n ≠ .null := fun h => (nomatch h)

/-- Amounts as they are stored. -/
def financeAmountsCodec : Codec (ExtTreeMap String WbFinanceDecimal) where
  encode amounts := (Codec.entries id some (fun _ => rfl) financeDecimalCodec).encode amounts.toList
  decode value := ((Codec.entries id some (fun _ => rfl) financeDecimalCodec).decode value).map fun entries =>
    ExtTreeMap.ofList entries
  decode_encode amounts := by simp [ofList_toList]

/-- A row as it is stored. -/
def financeRowCodec (dates : DateText) : Codec WbFinanceDetailRow where
  encode row := .obj [("rrd_id", Codec.nat.encode row.rrdId), ("report_id", Codec.nat.encode row.reportId),
    ("business_date", dates.codec.encode row.businessDate),
    ("sku", (Codec.nat.option nat_ne_null).encode row.sku), ("currency", Codec.string.encode row.currency),
    ("document_type", (Codec.string.option string_ne_null).encode row.documentType),
    ("operation_type", (Codec.string.option string_ne_null).encode row.operationType),
    ("quantity", (Codec.int.option int_ne_null).encode row.quantity),
    ("amounts", financeAmountsCodec.encode row.amounts)]
  decode value := do
    let fields ← value.known ["rrd_id", "report_id", "business_date", "sku", "currency", "document_type",
      "operation_type", "quantity", "amounts"]
    return {
      rrdId := ← Json.field Codec.nat fields "rrd_id"
      reportId := ← Json.field Codec.nat fields "report_id"
      businessDate := ← Json.field dates.codec fields "business_date"
      sku := ← Json.optional (Codec.nat.option nat_ne_null) fields "sku"
      currency := ← Json.field Codec.string fields "currency"
      documentType := ← Json.optional (Codec.string.option string_ne_null) fields "document_type"
      operationType := ← Json.optional (Codec.string.option string_ne_null) fields "operation_type"
      quantity := ← Json.optional (Codec.int.option int_ne_null) fields "quantity"
      amounts := ← Json.field financeAmountsCodec fields "amounts" }
  decode_encode row := by simp [Json.known, Json.field_other, Json.optional_other]

/-! ## Requests -/

/-- How a reply is read: nothing for a reply without content, else its rows one by one. -/
structure WbFinanceAdapter (V : Type) where
  rows : V → Option (Except WbReportSourceError (List (Except WbReportSourceError WbFinanceDetailRow)))

/-- Read and validate the rows of a reply. -/
def WbFinanceAdapter.parsePage {V : Type} (adapter : WbFinanceAdapter V) (reply : V) :
    Except WbReportSourceError (Option (List WbFinanceDetailRow)) :=
  match adapter.rows reply with
  | none => .ok none
  | some rows => do
    let rows ← rows
    ensure (rows ≠ [] ∧ rows.length ≤ wbFinancePageSize) .invalidResponse
    let page ← rows.mapM id
    return some page

/-- The request for the rows after a cursor. -/
structure FinanceRequest where
  dateFrom : ℤ
  dateTo : ℤ
  cursor : ℕ
  deriving DecidableEq

/-- The rows after the cursor; nothing at the end. -/
abbrev FinancePage : FinanceRequest → Type := fun _ => Option (List WbFinanceDetailRow)

theorem list_ne_null {α : Type} (c : Codec α) (l : List α) : c.list.encode l ≠ .null := fun h => (nomatch h)

/-- The pages of a collection of details. -/
def financePages {V : Type} (adapter : WbFinanceAdapter V) (dates : DateText) :
    Pages FinanceRequest V WbReportSourceError FinancePage where
  identity r := .arr [.str "wb_finance_details_v1", dates.codec.encode r.dateFrom, dates.codec.encode r.dateTo,
    .str "daily", .num wbFinancePageSize, Codec.nat.encode r.cursor, Codec.string.list.encode wbFinanceFields]
  legacy _ := none
  quota _ := .default
  normalize r answer := do
    let page ← adapter.parsePage (← answer)
    match page with
    | none => return none
    | some page => do
      let _next ← validatePageCursor page r.cursor
      return some page
  codec _ := (financeRowCodec dates).list.option (list_ne_null _)
  failed := .checkpoint

/-! ## The walk -/

/-- A collection of details. -/
abbrev FinanceProg (α : Type) : Type := Prog FinanceRequest FinancePage WbReportSourceError α

/-- The walk, page by page, up to a reply without content. -/
def financeLoop (dateFrom dateTo : ℤ) (result : List WbFinanceDetailRow) (cursor : ℕ) :
    ℕ → FinanceProg (List WbFinanceDetailRow)
  | 0 => .fail .paginationLimit
  | remaining + 1 => do
    let page : Option (List WbFinanceDetailRow) ← .perform ⟨dateFrom, dateTo, cursor⟩
    match page with
    | none => return result
    | some page => do
      let nextCursor ← .ofExcept (validatePageCursor page cursor)
      .ofExcept (ensure (result.length + page.length ≤ wbFinanceMaxRows) .paginationLimit)
      financeLoop dateFrom dateTo (result ++ page) nextCursor remaining

/-- **The finance details of an interval.** -/
def collectFinanceDetailsCheckpointed (dateFrom dateTo : ℤ) : FinanceProg (List WbFinanceDetailRow) := do
  .ofExcept (ensure (firstSupportedDate ≤ dateFrom ∧ 0 ≤ dateTo - dateFrom ∧ dateTo - dateFrom < maxFinanceDays)
    .invalidSnapshotInput)
  financeLoop dateFrom dateTo [] 0 maxFinancePages

/-- The finance details as a collection. -/
def financeCollection {V : Type} (adapter : WbFinanceAdapter V) (dates : DateText) (dateFrom dateTo : ℤ) :
    Collection V where
  Request := FinanceRequest
  Error := WbReportSourceError
  Result := List WbFinanceDetailRow
  Page := FinancePage
  pages := financePages adapter dates
  collector := collectFinanceDetailsCheckpointed dateFrom dateTo
  determined source := by
    refine ⟨fun r _ r' _ h => ?_, fun _ _ _ _ h => nomatch h⟩
    simp only [financePages, Json.arr.injEq, List.cons.injEq, dates.encode_injective.eq_iff,
      Codec.nat.encode_injective.eq_iff, true_and, and_true] at h
    obtain ⟨hfrom, hto, hcursor⟩ := h
    cases r
    cases r'
    simp_all

end AdsControl.Reporting
