import AdsControl.Reporting.Checkpoint
import AdsControl.Reporting.SalesPages

/-!
# Collection of the sales of a day

The collector walks the catalogue in pages. Without repeated rows the walk is the result. With repeated
rows without sales the walk must match the totals of the account; otherwise, and after any other
repetition, a closing pass in descending order of sales replaces it, and must match new totals, or miss
them by one ruble that every product confirms.

* `SalesRequest`, `salesPages`: the requests and their pages;
* `collectSalesPagesWithLimit`, `closeSales`, `collectClosingSalesPages`: the walks;
* `verifyWholeRubleDifference`: the difference of one ruble.
-/

namespace AdsControl.Reporting

open Fallible Interaction Machine OrderedMap Serde Std

/-- Why a collection fails. -/
inductive WbReportSourceError
  | retryAfter (seconds : ℕ)
  | checkpoint (error : CheckpointError)
  | upstream (kind : String)
  | invalidResponse
  | invalidSalesResponse
  | salesPageOverlap
  | invalidStockResponse
  | sellerStockCoverageIncomplete
  | paginationLimit
  | invalidSnapshotInput
  deriving DecidableEq

/-- Why a response is not read. -/
inductive WbReportParseError
  | shape
  | value
  | inconsistentAdvertisingCounts
  | tooManyRows
  deriving DecidableEq

/-- A calendar date as text. -/
structure DateText where
  format : ℤ → String
  parse : String → Option ℤ
  parse_format : ∀ date, parse (format date) = some date

/-- One day by its text, all others by their number. -/
def DateText.naming (day : ℤ) (text : String) (h : text.toList.head? ≠ some 'd') : DateText where
  format date := if date = day then text else String.ofList ('d' :: date.repr.toList)
  parse value := match value.toList with
    | 'd' :: number => (String.ofList number).toInt?
    | _ => some day
  parse_format date := by
    by_cases hdate : date = day
    · rw [if_pos hdate, hdate]
      split
      · rename_i heq
        rw [heq] at h
        exact absurd rfl h
      · rfl
    · simp [hdate]

/-- A date as it is stored. -/
def DateText.codec (dates : DateText) : Codec ℤ where
  encode date := .str (dates.format date)
  decode
    | .str text => dates.parse text
    | _ => none
  decode_encode := dates.parse_format

/-! ## Responses -/

/-- The most rows of a response. -/
def maxRows : ℕ := 25000

/-- How the fields of a response are read: the products of a page in order, the rows of a history, and
units and amount of the account on one day. -/
structure WbSalesAdapter (V : Type) where
  products : V → Except WbReportParseError (List CollectedSalesFact)
  historyRows : V → Except WbReportParseError (List CollectedSalesFact)
  controlDay : V → ℤ → Except WbReportParseError (ℕ × ℕ)

namespace WbSalesAdapter

variable {V : Type} (adapter : WbSalesAdapter V)

/-- No product is repeated on a date. -/
def ensureUnique (facts : List CollectedSalesFact) : Except WbReportParseError Unit :=
  ensure (facts.map CollectedSalesFact.key).Nodup .value

/-- The rows of a history. -/
def parseSalesHistory (response : V) : Except WbReportParseError (List CollectedSalesFact) := do
  let facts ← adapter.historyRows response
  ensure (facts.length ≤ maxRows) .tooManyRows
  ensureUnique facts
  return facts

/-- The rows of a page, with their number. -/
def parseSalesPage (response : V) : Except WbReportParseError (List CollectedSalesFact × ℕ) := do
  let facts ← adapter.products response
  ensure (facts.length ≤ maxRows) .tooManyRows
  ensureUnique facts
  return (facts, facts.length)

/-- The totals of the account on the expected date. -/
def parseSalesControlTotals (response : V) (expectedDate : ℤ) :
    Except WbReportParseError SalesTotals := do
  let total ← adapter.controlDay response expectedDate
  return (∅ : SalesTotals).insert expectedDate total

end WbSalesAdapter

/-! ## Requests -/

/-- The rows of a full page. -/
def salesPageSize : ℕ := 250

/-- The most pages of a walk. -/
def maxSalesPages : ℕ := 25 * 1000 / 250

/-- What a stable control certifies. -/
structure RubleCertificate where
  control : SalesTotals
  units : ℕ
  amount : ℕ
  verifiedSkus : ℕ

/-- The requests of a collection of sales. -/
inductive SalesRequest
  | page (date : ℤ) (offset : ℕ)
  | closingPage (date : ℤ) (offset : ℕ)
  | control (date : ℤ) (closing : Bool)
  | history (date : ℤ) (ids : List ℕ)
  | stableControl (date : ℤ) (certificate : RubleCertificate)

/-- What each request returns. -/
def SalesRequest.Page : SalesRequest → Type
  | page _ _ => List CollectedSalesFact × ℕ
  | closingPage _ _ => List CollectedSalesFact × ℕ
  | control _ _ => SalesTotals
  | history _ _ => List CollectedSalesFact
  | stableControl _ _ => Json

/-- The audited certificate of a difference of one ruble. -/
def RubleCertificate.evidence (dates : DateText) (date : ℤ) (certificate : RubleCertificate) : Json :=
  .obj [("kind", .str "wb_sales_whole_ruble_v1"), ("business_date", dates.codec.encode date),
    ("ordered_units", .num certificate.units), ("sku_gmv_minor", .num certificate.amount),
    ("group_gmv_minor", .num (certificate.control[date]?.getD (0, 0)).2),
    ("verified_skus", .num certificate.verifiedSkus), ("history_matches", .bool true),
    ("group_stable", .bool true)]

theorem nat_ne_null (n : ℕ) : Codec.nat.encode n ≠ .null := fun h => (nomatch h)

/-- A row as it is stored. -/
def salesFactCodec (dates : DateText) : Codec CollectedSalesFact where
  encode row := .obj [("business_date", dates.codec.encode row.businessDate),
    ("sku", Codec.nat.encode row.sku), ("ordered_units", Codec.nat.encode row.orderedUnits),
    ("operational_gmv_minor", Codec.nat.encode row.operationalGmvMinor),
    ("cancelled_units", (Codec.nat.option nat_ne_null).encode row.cancelledUnits),
    ("returned_units", (Codec.nat.option nat_ne_null).encode row.returnedUnits)]
  decode value := do
    let fields ← value.fields
    return {
      businessDate := ← Json.field dates.codec fields "business_date"
      sku := ← Json.field Codec.nat fields "sku"
      orderedUnits := ← Json.field Codec.nat fields "ordered_units"
      operationalGmvMinor := ← Json.field Codec.nat fields "operational_gmv_minor"
      cancelledUnits := ← Json.optional (Codec.nat.option nat_ne_null) fields "cancelled_units"
      returnedUnits := ← Json.optional (Codec.nat.option nat_ne_null) fields "returned_units" }
  decode_encode row := by
    simp [Json.field_other, Json.optional_other]

/-- Totals as they are stored. -/
def salesTotalsCodec (dates : DateText) : Codec SalesTotals where
  encode totals := (Codec.entries dates.format dates.parse dates.parse_format
    (Codec.nat.pair Codec.nat)).encode totals.toList
  decode value := ((Codec.entries dates.format dates.parse dates.parse_format
    (Codec.nat.pair Codec.nat)).decode value).map fun entries => ExtTreeMap.ofList entries
  decode_encode totals := by simp [ofList_toList]

namespace SalesRequest

/-- What a stored page is found by. -/
def identity (dates : DateText) : SalesRequest → Json
  | page date offset => .arr [.str "wb_sales_v2", dates.codec.encode date, .num salesPageSize, .num offset]
  | closingPage date offset => .arr [.str "wb-sales-overlap-closing-v1", dates.codec.encode date,
      .num salesPageSize, .num offset]
  | control date false => .arr [.str "wb-sales-overlap-control-v1", dates.codec.encode date]
  | control date true => .arr [.str "wb-sales-overlap-closing-control-v1", dates.codec.encode date]
  | history date ids => .arr [.str "wb-sales-reconcile-history-v1", dates.codec.encode date,
      Codec.nat.list.encode ids]
  | stableControl date _ => .arr [.str "wb-sales-reconcile-stable-control-v1", dates.codec.encode date]

/-- How each page is stored. -/
def codec (dates : DateText) : (r : SalesRequest) → Codec r.Page
  | page _ _ => (salesFactCodec dates).list.pair Codec.nat
  | closingPage _ _ => (salesFactCodec dates).list.pair Codec.nat
  | control _ _ => salesTotalsCodec dates
  | history _ _ => (salesFactCodec dates).list
  | stableControl _ _ => Codec.json

/-- A response as a page; a certificate only when the totals stayed as they were. -/
def normalize {V : Type} (adapter : WbSalesAdapter V) (dates : DateText) :
    (r : SalesRequest) → Except WbReportSourceError V → Except WbReportSourceError r.Page
  | page _ _, answer => do
    (adapter.parseSalesPage (← answer)).mapError fun _ => .invalidSalesResponse
  | closingPage _ _, answer => do
    (adapter.parseSalesPage (← answer)).mapError fun _ => .invalidSalesResponse
  | control date _, answer => do
    (adapter.parseSalesControlTotals (← answer) date).mapError fun _ => .salesPageOverlap
  | history _ _, answer => do
    (adapter.parseSalesHistory (← answer)).mapError fun _ => .salesPageOverlap
  | stableControl date certificate, answer => do
    let finalControl ← (adapter.parseSalesControlTotals (← answer) date).mapError fun _ =>
      .salesPageOverlap
    ensure (finalControl = certificate.control) .salesPageOverlap
    return certificate.evidence dates date

end SalesRequest

/-- The pages of a collection of sales. -/
def salesPages {V : Type} (adapter : WbSalesAdapter V) (dates : DateText) :
    Pages SalesRequest V WbReportSourceError SalesRequest.Page where
  identity := SalesRequest.identity dates
  legacy _ := none
  quota _ := .default
  normalize := SalesRequest.normalize adapter dates
  codec := SalesRequest.codec dates
  failed := .checkpoint

/-- A collection of sales. -/
abbrev SalesProg (α : Type) : Type := Prog SalesRequest SalesRequest.Page WbReportSourceError α

/-- Ask for one page. -/
def SalesRequest.ask (r : SalesRequest) : SalesProg r.Page := .perform r

/-! ## The difference of one ruble -/

/-- Add a row whose amount is in whole rubles. -/
def addCandidate (date : ℤ) (total : ℕ × ℕ) (row : CollectedSalesFact) : Option (ℕ × ℕ) :=
  if row.businessDate ≠ date ∨ row.operationalGmvMinor % 100 ≠ 0 ∨
      row.orderedUnits = 0 ∧ row.operationalGmvMinor ≠ 0 then none
  else do
    let units ← checkedAdd 64 total.1 row.orderedUnits
    let gmv ← checkedAdd 64 total.2 row.operationalGmvMinor
    return (units, gmv)

/-- Units and amount of the facts when they miss the control by one ruble. -/
def candidate (date : ℤ) (facts : List CollectedSalesFact) (control : SalesTotals) : Option (ℕ × ℕ) :=
  if control.size ≠ 1 then none
  else do
    let expected ← control[date]?
    let total ← facts.foldlM (addCandidate date) (0, 0)
    if 0 < total.1 ∧ total.1 = expected.1 ∧ expected.2 % 100 = 0 ∧
        Nat.dist total.2 expected.2 = 100 then
      return total
    else none

/-- The sales that a history must confirm. -/
def expectedSales (chunk : List CollectedSalesFact) : ExtTreeMap ℕ (ℕ × ℕ) :=
  chunk.foldl (fun expected row => expected.insert row.sku row.total) ∅

/-- Whether a history confirms every product of a batch. -/
def confirms (date : ℤ) (chunk history : List CollectedSalesFact) : Prop :=
  history.length = (expectedSales chunk).size ∧ ∀ row ∈ history,
    row.businessDate = date ∧ (expectedSales chunk)[row.sku]? = some row.total

instance (date : ℤ) (chunk history : List CollectedSalesFact) : Decidable (confirms date chunk history) :=
  inferInstanceAs (Decidable (_ ∧ _))

/-- Confirm every batch by its history. -/
def confirmHistories (date : ℤ) : List (List CollectedSalesFact) → SalesProg Unit
  | [] => return ()
  | chunk :: rest => do
    let history : List CollectedSalesFact ← SalesRequest.ask (.history date (chunk.map CollectedSalesFact.sku))
    .ofExcept (ensure (confirms date chunk history) .salesPageOverlap)
    confirmHistories date rest

/-- Have the histories and the account confirm a difference of one ruble. -/
def verifyWholeRubleDifference (date : ℤ) (facts : List CollectedSalesFact) (control : SalesTotals) :
    SalesProg Unit := do
  let total ← .ofExcept (context (candidate date facts control) .salesPageOverlap)
  let positive := facts.filter fun row => decide (0 < row.orderedUnits)
  confirmHistories date (chunks 20 positive)
  let _evidence ← SalesRequest.ask (.stableControl date ⟨control, total.1, total.2, positive.length⟩)
  return ()

/-! ## The walks -/

/-- The offset of a page. -/
def pageOffset (page pageSize : ℕ) : Except WbReportSourceError ℕ :=
  context (tryFrom 32 page >>= fun page => checkedMul 32 page pageSize) .paginationLimit

/-- A page of the requested size and date. -/
def validSalesPage (date : ℤ) (rows : List CollectedSalesFact) (sourceRows : ℕ) : Prop :=
  sourceRows ≤ salesPageSize ∧ ∀ row ∈ rows, row.businessDate = date

instance (date : ℤ) (rows : List CollectedSalesFact) (sourceRows : ℕ) :
    Decidable (validSalesPage date rows sourceRows) := inferInstanceAs (Decidable (_ ∧ _))

/-- Rows in descending order of units, from the last one seen. -/
def descending : ℕ → List CollectedSalesFact → Except WbReportSourceError ℕ
  | previousUnits, [] => .ok previousUnits
  | previousUnits, row :: rows => do
    ensure (row.orderedUnits ≤ previousUnits) .invalidSalesResponse
    descending row.orderedUnits rows

/-- The closing pass, page by page, up to the products without sales. -/
def closingLoop (date : ℤ) (pages : SalesPages) (previousUnits page : ℕ) :
    ℕ → SalesProg (List CollectedSalesFact)
  | 0 => .fail .paginationLimit
  | remaining + 1 => do
    let offset ← .ofExcept (pageOffset page salesPageSize)
    let (rows, sourceRows) ← SalesRequest.ask (.closingPage date offset)
    .ofExcept (ensure (validSalesPage date rows sourceRows) .invalidSalesResponse)
    let previousUnits ← .ofExcept (descending previousUnits rows)
    let complete := sourceRows < salesPageSize ∨ ∃ row ∈ rows, row.orderedUnits = 0
    let pages ← .ofExcept (context (pages.add rows) .salesPageOverlap)
    if complete then return pages.intoFacts
    else closingLoop date pages previousUnits (page + 1) remaining

/-- A closing pass, in descending order of sales. -/
def collectClosingSalesPages (date : ℤ) (maxPages : ℕ) : SalesProg (List CollectedSalesFact) :=
  closingLoop date .empty (2 ^ 64 - 1) 0 maxPages

/-- Read the sales again, and have the account confirm them. -/
def closeSales (date : ℤ) (pages : SalesPages) : SalesProg (List CollectedSalesFact) := do
  let fresh ← collectClosingSalesPages date maxSalesPages
  let pages ← .ofExcept (context (pages.refreshSales fresh) .salesPageOverlap)
  let totals ← SalesRequest.ask (.control date true)
  if pages.matchesExpected totals then return pages.intoFacts
  else
    verifyWholeRubleDifference date pages.intoFacts totals
    return pages.intoFacts

/-- The end of a complete walk. -/
def finishWalk (date : ℤ) (pages : SalesPages) : SalesProg (List CollectedSalesFact) :=
  if pages.zeroOverlap then do
    let totals ← SalesRequest.ask (.control date false)
    if pages.matchesExpected totals then return pages.intoFacts else closeSales date pages
  else return pages.intoFacts

/-- The walk, page by page; a repeated sale makes the closing pass necessary. -/
def walkLoop (date : ℤ) (pages : SalesPages) (page : ℕ) : ℕ → SalesProg (List CollectedSalesFact)
  | 0 => .fail .paginationLimit
  | remaining + 1 => do
    let offset ← .ofExcept (pageOffset page salesPageSize)
    let (rows, sourceRows) ← SalesRequest.ask (.page date offset)
    .ofExcept (ensure (validSalesPage date rows sourceRows) .invalidSalesResponse)
    match pages.add rows with
    | none => closeSales date { SalesPages.empty with zeroOverlap := true }
    | some pages =>
      if sourceRows < salesPageSize then finishWalk date pages
      else walkLoop date pages (page + 1) remaining

/-- The sales of a day within a number of pages. -/
def collectSalesPagesWithLimit (date : ℤ) (maxPages : ℕ) : SalesProg (List CollectedSalesFact) :=
  walkLoop date .empty 0 maxPages

/-- **The sales of a day.** -/
def collectSalesPages (date : ℤ) : SalesProg (List CollectedSalesFact) :=
  collectSalesPagesWithLimit date maxSalesPages

/-! ## Identities -/

/-- The request whose page depends on more than its identity. -/
def SalesRequest.isStableControl : SalesRequest → Prop
  | stableControl _ _ => True
  | _ => False

theorem DateText.encode_injective (dates : DateText) : Function.Injective dates.codec.encode :=
  dates.codec.encode_injective

/-- Apart from the certificate the identity determines the request. -/
theorem SalesRequest.eq_of_identity (dates : DateText) {r r' : SalesRequest}
    (h : r.identity dates = r'.identity dates) : r = r' ∨ r.isStableControl ∧ r'.isStableControl := by
  have hdate := dates.encode_injective
  have hids := Codec.nat.list.encode_injective
  rcases r with ⟨d, o⟩ | ⟨d, o⟩ | ⟨d, _ | _⟩ | ⟨d, ids⟩ | ⟨d, certificate⟩ <;>
    rcases r' with ⟨d', o'⟩ | ⟨d', o'⟩ | ⟨d', _ | _⟩ | ⟨d', ids'⟩ | ⟨d', certificate'⟩ <;>
    simp [SalesRequest.identity, hdate.eq_iff, hids.eq_iff] at h <;>
    simp [h, SalesRequest.isStableControl]

theorem confirmHistories_asks (date : ℤ) (batches : List (List CollectedSalesFact)) :
    (confirmHistories date batches).Asks fun r => ¬ r.isStableControl := by
  induction batches with
  | nil => trivial
  | cons chunk rest ih => exact .perform_bind id fun _ => .ofExcept_bind fun _ => ih

theorem closingLoop_asks (date : ℤ) (pages : SalesPages) (previousUnits page remaining : ℕ) :
    (closingLoop date pages previousUnits page remaining).Asks fun r => ¬ r.isStableControl := by
  induction remaining generalizing pages previousUnits page with
  | zero => trivial
  | succ remaining ih =>
    refine .ofExcept_bind fun offset => .perform_bind id fun answer => ?_
    refine .ofExcept_bind fun _ => .ofExcept_bind fun _ => .ofExcept_bind fun pages => ?_
    split
    · trivial
    · exact ih _ _ _

theorem closeSales_asksOnce (date : ℤ) (pages : SalesPages) :
    (closeSales date pages).AsksOnce SalesRequest.isStableControl := by
  refine .bind (closingLoop_asks date _ _ _ _) fun fresh => .ofExcept_bind fun pages => ?_
  refine .perform_bind id fun totals => ?_
  split
  · trivial
  · refine .bind_asks (.ofExcept_bind fun total => .bind (confirmHistories_asks date _) fun _ => ?_) fun _ => trivial
    exact ⟨fun _ _ => trivial, fun _ => trivial⟩

/-- **The certificate is asked for once.** -/
theorem walkLoop_asksOnce (date : ℤ) (pages : SalesPages) (page remaining : ℕ) :
    (walkLoop date pages page remaining).AsksOnce SalesRequest.isStableControl := by
  induction remaining generalizing pages page with
  | zero => trivial
  | succ remaining ih =>
    refine .ofExcept_bind fun offset => .perform_bind id fun answer => .ofExcept_bind fun _ => ?_
    split
    · exact closeSales_asksOnce date _
    · split
      · unfold finishWalk
        split
        · refine .perform_bind id fun totals => ?_
          split
          · trivial
          · exact closeSales_asksOnce date _
        · trivial
      · exact ih _ _

/-- The sales of a day as a collection. -/
def salesCollection {V : Type} (adapter : WbSalesAdapter V) (dates : DateText) (date : ℤ) : Collection V where
  Request := SalesRequest
  Error := WbReportSourceError
  Result := List CollectedSalesFact
  Page := SalesRequest.Page
  pages := salesPages adapter dates
  collector := collectSalesPages date
  determined source := by
    refine ⟨fun r hr r' hr' h => ?_, fun _ _ _ _ h => nomatch h⟩
    obtain heq | ⟨hstable, hstable'⟩ := SalesRequest.eq_of_identity dates h
    · exact heq
    · exact (walkLoop_asksOnce date _ _ _).visited r hr r' hr' hstable hstable'

end AdsControl.Reporting
