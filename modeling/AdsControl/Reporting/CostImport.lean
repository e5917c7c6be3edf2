import AdsControl.Calendar
import AdsControl.Lib.Distinct
import AdsControl.Lib.Intervals
import AdsControl.Text

/-!
# Import of unit costs

A batch of costs is accepted in one canonical order of its rows. Overlapping periods of a product are
found by comparing neighbours of that order. Reading the bytes, writing the canonical bytes and their
digest are parameters.

* `parseJson`: validation of a batch against the configured scope;
* `CanonicalRows`: the batch holds the rows that were read, in the canonical order;
* **`parseJson_unambiguous`**: at most one cost a day, separate periods are no conflict, and the order of
  the rows does not change the digest.
-/

namespace AdsControl.Reporting

open Distinct Fallible Intervals SortByKey

/-! ## Batches -/

/-- The largest import in bytes. -/
def maxCostImportBytes : ℕ := 4 * 1024 * 1024

/-- The most rows of an import. -/
def maxCostImportRows : ℕ := 10000

/-- Why an import is refused. -/
inductive CostImportError
  | limitExceeded
  | invalidInput
  | scopeDenied
  | conflict
  | unavailable
  deriving DecidableEq

/-- The two marketplaces. -/
inductive Marketplace
  | ozon
  | wildberries
  deriving DecidableEq

/-- An account of a marketplace. -/
structure AccountScope where
  accountId : String
  marketplace : Marketplace
  valid : isAccountId accountId

/-- Trusted server configuration, never derived from the batch itself. -/
structure CostImportScope where
  account : AccountScope
  sourceId : String
  allowedSkus : Finset ℕ
  importedBy : String
  valid : isAccountId sourceId ∧ isAccountId importedBy ∧ allowedSkus.Nonempty ∧
    allowedSkus.card ≤ maxCostImportRows ∧ ∀ sku ∈ allowedSkus, 0 < sku ∧ sku < 2 ^ 63

/-- The currency of costs. -/
inductive CostCurrency
  | rub
  deriving DecidableEq

/-- What a cost is for. -/
inductive CostAllocation
  | perUnit
  deriving DecidableEq

/-- How value added tax is treated. -/
inductive CostVatTreatment
  | included
  | excluded
  | notApplicable
  deriving DecidableEq

/-- The amount is in kopecks; zero is an explicit cost. Both ends of the period belong to it. -/
structure CostImportRow where
  sourceRowId : String
  sku : ℕ
  amountMinor : ℤ
  currency : CostCurrency
  allocation : CostAllocation
  vatTreatment : CostVatTreatment
  vatRateBps : Option ℕ
  effectiveFrom : ℤ
  effectiveTo : ℤ
  deriving DecidableEq

/-- The content of an import. -/
structure CostImportEnvelope where
  version : ℕ
  accountId : String
  marketplace : Marketplace
  sourceId : String
  exportId : String
  exportedAt : ℤ
  rows : List CostImportRow
  deriving DecidableEq

/-- An accepted import with its digest. -/
structure ValidatedCostBatch where
  envelope : CostImportEnvelope
  sha256 : String
  importedBy : String
  deriving DecidableEq

/-! ## Validation -/

/-- From 2000-01-01 to 2200-12-31. -/
def validDate (date : ℤ) : Bool := decide (10957 ≤ date ∧ date ≤ 84370)

namespace CostImportRow

/-- A rate where tax applies, and none where it does not. -/
def validVat (row : CostImportRow) : Bool :=
  match row.vatTreatment, row.vatRateBps with
  | .notApplicable, none => true
  | .included, some bps => bps ≤ 10000
  | .excluded, some bps => bps ≤ 10000
  | _, _ => false

/-- The bounds of a row. -/
def validate (row : CostImportRow) : Except CostImportError Unit :=
  ensure (isAccountId row.sourceRowId ∧ 0 ≤ row.amountMinor ∧ validDate row.effectiveFrom ∧
    validDate row.effectiveTo ∧ row.effectiveFrom ≤ row.effectiveTo ∧ row.validVat) .invalidInput

/-- By product, then by the ends of the period. -/
def sortKey : CostImportRow → ℕ ×ₗ ℤ ×ₗ ℤ := key sku effectiveFrom effectiveTo

/-- The cost of a product on a day. -/
def Effective (row : CostImportRow) (product : ℕ) (date : ℤ) : Prop :=
  row.sku = product ∧ row.effectiveFrom ≤ date ∧ date ≤ row.effectiveTo

instance decidableEffective (row : CostImportRow) (product : ℕ) (date : ℤ) :
    Decidable (row.Effective product date) := by
  unfold Effective
  infer_instance

end CostImportRow

/-- **Validation of a batch.** -/
def parseJson (fromSlice : List UInt8 → Option CostImportEnvelope)
    (toVec : CostImportEnvelope → List UInt8) (digest : List UInt8 → String) (bytes : List UInt8)
    (scope : CostImportScope) : Except CostImportError ValidatedCostBatch := do
  ensure (bytes.length ≤ maxCostImportBytes) .limitExceeded
  let envelope ← context (fromSlice bytes) .invalidInput
  ensure (envelope.rows ≠ [] ∧ envelope.rows.length ≤ maxCostImportRows) .limitExceeded
  ensure (envelope.version = 1 ∧ isAccountId envelope.exportId ∧ validDate (dateIn 0 envelope.exportedAt))
    .invalidInput
  ensure (envelope.accountId = scope.account.accountId ∧ envelope.marketplace = scope.account.marketplace ∧
    envelope.sourceId = scope.sourceId ∧ ∀ row ∈ envelope.rows, row.sku ∈ scope.allowedSkus) .scopeDenied
  let rows := sortByKey CostImportRow.sortKey envelope.rows
  scan CostImportRow.validate CostImportRow.sourceRowId .invalidInput (fun _ _ => .ok ()) () rows
  ensure (∀ pair ∈ neighbours rows, ¬ (pair.1.sku = pair.2.sku ∧ pair.2.effectiveFrom ≤ pair.1.effectiveTo))
    .conflict
  let sorted := { envelope with rows }
  return { envelope := sorted, sha256 := digest (toVec sorted), importedBy := scope.importedBy }

/-! ## Accepted batches -/

/-- Two rows of one product whose periods do not meet. -/
abbrev SeparatePeriods : CostImportRow → CostImportRow → Prop :=
  Separate CostImportRow.sku CostImportRow.effectiveFrom CostImportRow.effectiveTo

/-- What is checked of a batch, whatever the order of its rows. -/
structure Acceptable (scope : CostImportScope) (envelope : CostImportEnvelope) : Prop where
  size : envelope.rows ≠ [] ∧ envelope.rows.length ≤ maxCostImportRows
  header : envelope.version = 1 ∧ isAccountId envelope.exportId ∧ validDate (dateIn 0 envelope.exportedAt)
  inScope : envelope.accountId = scope.account.accountId ∧ envelope.marketplace = scope.account.marketplace ∧
    envelope.sourceId = scope.sourceId ∧ ∀ row ∈ envelope.rows, row.sku ∈ scope.allowedSkus
  valid : ∀ row ∈ envelope.rows, row.validate = .ok ()
  distinct : (envelope.rows.map CostImportRow.sourceRowId).Nodup
  separate : envelope.rows.Pairwise SeparatePeriods

theorem CostImportRow.proper_of_validate {row : CostImportRow} (h : row.validate = .ok ()) :
    row.effectiveFrom ≤ row.effectiveTo := by
  rw [CostImportRow.validate, ensure_eq_ok] at h
  exact h.2.2.2.2.1

/-- The neighbour check finds every overlap of valid rows. -/
theorem neighbours_separate {rows : List CostImportRow} (hvalid : ∀ row ∈ rows, row.validate = .ok ()) :
    (∀ pair ∈ neighbours (sortByKey CostImportRow.sortKey rows),
      ¬ (pair.1.sku = pair.2.sku ∧ pair.2.effectiveFrom ≤ pair.1.effectiveTo)) ↔
      rows.Pairwise SeparatePeriods := by
  rw [← neighbours_iff_pairwise fun row hrow => CostImportRow.proper_of_validate (hvalid row hrow)]
  simp only [not_and, not_le]
  rfl

/-- The batch holds exactly the rows of the envelope, in the canonical order, and the digest of these. -/
structure CanonicalRows (toVec : CostImportEnvelope → List UInt8) (digest : List UInt8 → String)
    (scope : CostImportScope) (envelope : CostImportEnvelope) (batch : ValidatedCostBatch) : Prop where
  header : { batch.envelope with rows := envelope.rows } = envelope
  rows : batch.envelope.rows.Perm envelope.rows
  sorted : (batch.envelope.rows.map CostImportRow.sortKey).Pairwise (· < ·)
  sha256 : batch.sha256 = digest (toVec batch.envelope)
  importedBy : batch.importedBy = scope.importedBy

section Parse

variable {fromSlice : List UInt8 → Option CostImportEnvelope} {toVec : CostImportEnvelope → List UInt8}
  {digest : List UInt8 → String} {bytes : List UInt8} {scope : CostImportScope} {batch : ValidatedCostBatch}

/-- The batch of an accepted envelope. -/
def canonicalBatch (toVec : CostImportEnvelope → List UInt8) (digest : List UInt8 → String)
    (scope : CostImportScope) (envelope : CostImportEnvelope) : ValidatedCostBatch :=
  let sorted := { envelope with rows := sortByKey CostImportRow.sortKey envelope.rows }
  { envelope := sorted, sha256 := digest (toVec sorted), importedBy := scope.importedBy }

theorem parseJson_eq_ok : parseJson fromSlice toVec digest bytes scope = .ok batch ↔
    bytes.length ≤ maxCostImportBytes ∧ ∃ envelope, fromSlice bytes = some envelope ∧
      Acceptable scope envelope ∧ canonicalBatch toVec digest scope envelope = batch := by
  have hrows : ∀ rows : List CostImportRow,
      (∀ row ∈ sortByKey CostImportRow.sortKey rows, row.validate = .ok ()) ↔
        ∀ row ∈ rows, row.validate = .ok () := by simp
  have hids : ∀ rows : List CostImportRow,
      ((sortByKey CostImportRow.sortKey rows).map CostImportRow.sourceRowId).Nodup ↔
        (rows.map CostImportRow.sourceRowId).Nodup := fun rows =>
    ((sortByKey_perm CostImportRow.sortKey rows).map _).nodup_iff
  simp only [parseJson, ok_of_bind, ok_of_pure, context_eq_ok, ensure_eq_ok, scan_eq_ok, exists_const, hrows, hids]
  refine and_congr_right fun _ => exists_congr fun envelope => and_congr_right fun _ => ?_
  constructor
  · rintro ⟨hsize, hheader, hscope, ⟨⟩, ⟨hvalid, hdistinct, -⟩, hneighbours, hbatch⟩
    exact ⟨⟨hsize, hheader, hscope, hvalid, hdistinct, (neighbours_separate hvalid).mp hneighbours⟩, hbatch⟩
  · rintro ⟨h, hbatch⟩
    refine ⟨h.size, h.header, h.inScope, (), ⟨h.valid, h.distinct, ?_⟩,
      (neighbours_separate h.valid).mpr h.separate, hbatch⟩
    induction sortByKey CostImportRow.sortKey envelope.rows with
    | nil => rfl
    | cons row rows ih => exact ih

theorem overlap_of_conflict (h : parseJson fromSlice toVec digest bytes scope = .error .conflict) :
    ∃ envelope, fromSlice bytes = some envelope ∧ ¬ envelope.rows.Pairwise SeparatePeriods := by
  obtain h | ⟨-, -, h⟩ := bind_eq_error.mp h
  · cases (ensure_eq_error.mp h).2
  obtain h | ⟨envelope, henvelope, h⟩ := bind_eq_error.mp h
  · cases (context_eq_error.mp h).2
  refine ⟨envelope, context_eq_ok.mp henvelope, ?_⟩
  obtain h | ⟨-, -, h⟩ := bind_eq_error.mp h
  · cases (ensure_eq_error.mp h).2
  obtain h | ⟨-, -, h⟩ := bind_eq_error.mp h
  · cases (ensure_eq_error.mp h).2
  obtain h | ⟨-, -, h⟩ := bind_eq_error.mp h
  · cases (ensure_eq_error.mp h).2
  obtain h | ⟨_, hscan, h⟩ := bind_eq_error.mp h
  · obtain ⟨row, -, h⟩ | ⟨⟨⟩⟩ | ⟨_, _, -, ⟨⟩⟩ := error_of_scan h
    cases (ensure_eq_error.mp h).2
  obtain h | ⟨-, -, ⟨⟩⟩ := bind_eq_error.mp h
  have hvalid : ∀ row ∈ envelope.rows, row.validate = .ok () := fun row hrow =>
    (scan_eq_ok.mp hscan).1 row (mem_sortByKey.mpr hrow)
  exact fun hseparate => (ensure_eq_error.mp h).1 ((neighbours_separate hvalid).mpr hseparate)

theorem Acceptable.nodup_sortKey {envelope : CostImportEnvelope} (h : Acceptable scope envelope) :
    (envelope.rows.map CostImportRow.sortKey).Nodup :=
  nodup_key_of_separate (fun row hrow => CostImportRow.proper_of_validate (h.valid row hrow)) h.separate

variable (toVec digest) in
theorem canonicalRows_canonicalBatch {envelope : CostImportEnvelope} (h : Acceptable scope envelope) :
    CanonicalRows toVec digest scope envelope (canonicalBatch toVec digest scope envelope) where
  header := rfl
  rows := sortByKey_perm _ _
  sorted := pairwise_lt_sortByKey h.nodup_sortKey
  sha256 := rfl
  importedBy := rfl

variable (toVec digest) in
/-- The order of the rows does not change an accepted batch. -/
theorem canonicalBatch_perm {envelope : CostImportEnvelope} {rows : List CostImportRow}
    (h : Acceptable scope envelope) (hperm : envelope.rows.Perm rows) :
    Acceptable scope { envelope with rows } ∧
      canonicalBatch toVec digest scope { envelope with rows } = canonicalBatch toVec digest scope envelope := by
  constructor
  · obtain ⟨hempty, hlength⟩ := h.size
    obtain ⟨haccount, hmarketplace, hsource, hskus⟩ := h.inScope
    refine ⟨⟨?_, hperm.length_eq ▸ hlength⟩, h.header, ⟨haccount, hmarketplace, hsource, ?_⟩, ?_, ?_, ?_⟩
    · rintro rfl
      exact hempty hperm.eq_nil
    · exact fun row hrow => hskus row (hperm.mem_iff.mpr hrow)
    · exact fun row hrow => h.valid row (hperm.mem_iff.mpr hrow)
    · exact (hperm.map _).nodup_iff.mp h.distinct
    · exact (hperm.pairwise_iff Separate.symm).mp h.separate
  · rw [canonicalBatch, canonicalBatch, sortByKey_eq_of_perm hperm h.nodup_sortKey]

end Parse

/-- **Costs are unambiguous.** An accepted batch holds the rows that were read, in the canonical order, and
at most one of them is effective for a product on a day; rows with separate periods are no conflict, and a
batch that is valid row by row, in scope and without overlaps is accepted; and every order of the rows of
an accepted batch is accepted with the same digest. -/
theorem parseJson_unambiguous (fromSlice : List UInt8 → Option CostImportEnvelope)
    (toVec : CostImportEnvelope → List UInt8) (digest : List UInt8 → String) (scope : CostImportScope) :
    (∀ bytes batch, parseJson fromSlice toVec digest bytes scope = .ok batch →
      ∃ envelope, fromSlice bytes = some envelope ∧ Acceptable scope envelope ∧
        CanonicalRows toVec digest scope envelope batch ∧
        ∀ product date, (batch.envelope.rows.filter fun row => row.Effective product date).length ≤ 1) ∧
    (∀ bytes envelope, fromSlice bytes = some envelope →
      (envelope.rows.Pairwise SeparatePeriods →
        parseJson fromSlice toVec digest bytes scope ≠ .error .conflict) ∧
      (bytes.length ≤ maxCostImportBytes → Acceptable scope envelope →
        ∃ batch, parseJson fromSlice toVec digest bytes scope = .ok batch)) ∧
    ∀ bytes batch envelope, parseJson fromSlice toVec digest bytes scope = .ok batch →
      fromSlice bytes = some envelope → ∀ rows, envelope.rows.Perm rows →
      ∀ bytes', bytes'.length ≤ maxCostImportBytes → fromSlice bytes' = some { envelope with rows } →
      ∃ batch', parseJson fromSlice toVec digest bytes' scope = .ok batch' ∧ batch'.sha256 = batch.sha256 := by
  refine ⟨?_, ?_, ?_⟩
  · intro bytes batch h
    obtain ⟨-, envelope, henvelope, haccepted, rfl⟩ := parseJson_eq_ok.mp h
    refine ⟨envelope, henvelope, haccepted, canonicalRows_canonicalBatch toVec digest haccepted, ?_⟩
    intro product date
    refine length_filter_le_one ?_ product date
    exact ((sortByKey_perm _ _).pairwise_iff Separate.symm).mpr haccepted.separate
  · intro bytes envelope henvelope
    refine ⟨fun hseparate hconflict => ?_, fun hlength haccepted => ?_⟩
    · obtain ⟨envelope', henvelope', hoverlap⟩ := overlap_of_conflict hconflict
      rw [henvelope, Option.some.injEq] at henvelope'
      exact hoverlap (henvelope' ▸ hseparate)
    · exact ⟨_, parseJson_eq_ok.mpr ⟨hlength, envelope, henvelope, haccepted, rfl⟩⟩
  · intro bytes batch envelope h henvelope rows hperm bytes' hlength henvelope'
    obtain ⟨-, parsed, hparsed, haccepted, rfl⟩ := parseJson_eq_ok.mp h
    rw [henvelope, Option.some.injEq] at hparsed
    subst hparsed
    obtain ⟨haccepted', hsame⟩ := canonicalBatch_perm toVec digest haccepted hperm
    exact ⟨_, parseJson_eq_ok.mpr ⟨hlength, _, henvelope', haccepted', rfl⟩, congrArg _ hsame⟩

/-- The text of a row: a cost of one product, with the tax included. -/
def costRowJson (id dates : String) : String :=
  "\x7b\"source_row_id\":\"" ++ id ++ "\",\"sku\":101,\"amount_minor\":12345,\"currency\":\"RUB\"," ++
  "\"allocation\":\"per_unit\",\"vat_treatment\":\"included\",\"vat_rate_bps\":2000," ++ dates ++ "\x7d"

/-- The text of a batch of two rows. -/
def costBatchJson (first second : String) : String :=
  "\x7b\"version\":1,\"account_id\":\"shop\",\"marketplace\":\"ozon\",\"source_id\":\"one_c\"," ++
  "\"export_id\":\"batch_1\",\"exported_at\":\"2026-09-13T10:00:00Z\",\"rows\":[" ++ first ++ "," ++ second ++
  "]\x7d"

/-- A row for September as text. -/
def septemberJson : String :=
  costRowJson "row_1" "\"effective_from\":\"2026-09-01\",\"effective_to\":\"2026-09-30\""

/-- A row for October as text. -/
def octoberJson : String :=
  costRowJson "row_2" "\"effective_from\":\"2026-10-01\",\"effective_to\":\"2026-10-31\""

/-- The row for September. -/
def septemberRow : CostImportRow := ⟨"row_1", 101, 12345, .rub, .perUnit, .included, some 2000, 20697, 20726⟩

/-- The row for October. -/
def octoberRow : CostImportRow := ⟨"row_2", 101, 12345, .rub, .perUnit, .included, some 2000, 20727, 20757⟩

/-- Two adjacent months. -/
def twoMonths : CostImportEnvelope where
  version := 1
  accountId := "shop"
  marketplace := .ozon
  sourceId := "one_c"
  exportId := "batch_1"
  exportedAt := seconds (20709 * 86400 + 36000)
  rows := [septemberRow, octoberRow]

/-- The scope that both rows are imported for. -/
def shopScope : CostImportScope where
  account := ⟨"shop", .ozon, by decide +kernel⟩
  sourceId := "one_c"
  allowedSkus := {101, 102}
  importedBy := "finance_original"
  valid := by decide +kernel

/-- September first. -/
def ascendingBytes : List UInt8 := (costBatchJson septemberJson octoberJson).toUTF8.toList

/-- October first. -/
def descendingBytes : List UInt8 := (costBatchJson octoberJson septemberJson).toUTF8.toList

/-- The reader on the two orders of the months. -/
def readMonths (bytes : List UInt8) : Option CostImportEnvelope :=
  if bytes = ascendingBytes then some twoMonths
  else if bytes = descendingBytes then some { twoMonths with rows := [octoberRow, septemberRow] }
  else none

/-- The digest of the canonical text. -/
def twoMonthsSha256 : String := "22a79a79c86a82d381af77ee09019c555ecb38f615ae071c4794a0011a7b58ae"

theorem parseJson_unambiguous_two_months :
    ∃ batch batch',
      parseJson readMonths (fun _ => ascendingBytes) (fun _ => twoMonthsSha256) ascendingBytes shopScope =
        .ok batch ∧
      (∃ envelope, readMonths ascendingBytes = some envelope ∧ Acceptable shopScope envelope ∧
        CanonicalRows (fun _ => ascendingBytes) (fun _ => twoMonthsSha256) shopScope envelope batch ∧
        ∀ product date, (batch.envelope.rows.filter fun row => row.Effective product date).length ≤ 1) ∧
      parseJson readMonths (fun _ => ascendingBytes) (fun _ => twoMonthsSha256) descendingBytes shopScope =
        .ok batch' ∧
      batch'.sha256 = batch.sha256 := by
  have hread : readMonths ascendingBytes = some twoMonths := if_pos rfl
  have hlength : ascendingBytes.length ≤ maxCostImportBytes := by decide +kernel
  have hread' : readMonths descendingBytes = some { twoMonths with rows := [octoberRow, septemberRow] } := by
    have hne : descendingBytes ≠ ascendingBytes := by decide +kernel
    rw [readMonths, if_neg hne, if_pos rfl]
  have hlength' : descendingBytes.length ≤ maxCostImportBytes := by decide +kernel
  have hperm : twoMonths.rows.Perm [octoberRow, septemberRow] := List.Perm.swap _ _ _
  have haccepted : Acceptable shopScope twoMonths := by
    constructor <;> decide +kernel
  obtain ⟨hrows, haccept, horder⟩ := parseJson_unambiguous readMonths (fun _ => ascendingBytes)
    (fun _ => twoMonthsSha256) shopScope
  obtain ⟨batch, hparse⟩ := (haccept ascendingBytes twoMonths hread).2 hlength haccepted
  obtain ⟨batch', hbatch', hsame⟩ := horder ascendingBytes batch twoMonths hparse hread _ hperm descendingBytes
    hlength' hread'
  exact ⟨batch, batch', hparse, hrows ascendingBytes batch hparse, hbatch', hsame⟩

end AdsControl.Reporting
