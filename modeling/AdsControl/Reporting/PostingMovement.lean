import AdsControl.Calendar
import AdsControl.Ozon.PostingConservation
import AdsControl.Reporting.FactValidation
import AdsControl.Reporting.OzonSource

/-!
# Posting movement

The units of a period are collected from the postings of both schemes. Pages are stored without the fields
that are not counted; the rows are published if a validator accepts them.

* `sanitizePostingPage`: a page as it is stored, **`absorbPage_sanitized`**: nothing that counts is lost;
* `collectPostingMovement`: the walk over both schemes;
* `validatePostings`: the check before the publication;
* `Publishable`: sales whose rows the validator accepts;
* **`collected_movement_publishable`**: collected rows are accepted exactly when the sales are publishable.
-/

namespace AdsControl.Reporting

open Fallible Interaction Machine OrderedMap Ozon Ozon.PostingSalesAccumulator Receiver Std Tally

/-! ## Stored pages -/

/-- The fields of a product that are kept. -/
def safeProduct (product : Document) : Document :=
  .object [("sku", product.index "sku"), ("quantity", product.index "quantity")]

/-- The fields of a posting that are kept. -/
def safePostingFields (posting : Document) (products : List Document) : List (String × Document) :=
  [("posting_number", posting.index "posting_number"), ("status", posting.index "status"),
    ("products", .array (products.map safeProduct))]

/-- The fields of a posting that are kept. -/
def safePosting (posting : Document) : Except OzonReportSourceError Document := do
  let products ← context (posting.index "products").asArray .invalidResponse
  return .object (safePostingFields posting products)

/-- The fields of a page that are kept. -/
def safePageFields (response : Document) (postings : List Document) : List (String × Document) :=
  [("postings", .array postings), ("has_next", response.index "has_next"),
    ("cursor", response.index "cursor")]

/-- A page with the identifiers and quantities only, after the entire page was counted alone. -/
def sanitizePostingPage (scheme : PostingScheme) (response : Document) :
    Except OzonReportSourceError Document := do
  let _ ← ((absorbPage scheme response {}).1.mapError fun _ => OzonReportSourceError.invalidResponse)
  let postings ← context (response.index "postings").asArray .invalidResponse
  let safe ← postings.mapM safePosting
  return .object (safePageFields response safe)

/-! ## The collection -/

/-- The requests of a collection of postings. -/
structure PostingRequest where
  scheme : PostingScheme
  since : ℤ
  upTo : ℤ
  cursor : Option String
  deriving DecidableEq

/-- Count the next page. -/
def collectPostingPage (scheme : PostingScheme) (since upTo : ℤ) (aggregate : PostingSalesAccumulator)
    (cursor : Option String) : OzonProg PostingRequest (PostingSalesAccumulator × Option String) := do
  let response ← post ⟨scheme, since, upTo, cursor⟩
  let page ← .ofExcept (sanitizePostingPage scheme response)
  match absorbPage scheme page aggregate with
  | (.ok next, aggregate) => return (aggregate, next)
  | (.error _, _) => .fail .invalidResponse

/-- The postings of one scheme. -/
def collectScheme (since upTo : ℤ) (aggregate : PostingSalesAccumulator) (scheme : PostingScheme) :
    OzonProg PostingRequest PostingSalesAccumulator :=
  Interaction.walk (collectPostingPage scheme since upTo) .invalidResponse .paginationLimit
    maxPostingSalesPages [] aggregate none

/-- A millisecond. -/
def millisecond : ℤ := 1000000

/-- The postings of both schemes. -/
def collectPostingMovement (start stop : ℤ) : OzonProg PostingRequest (List PostingSalesRow) := do
  .ofExcept (ensure (start < stop ∧ stop - start ≤ hours (31 * 24)) .invalidResponse)
  let aggregate ← collectScheme start (stop - millisecond) {} .fbo
  let aggregate ← collectScheme start (stop - millisecond) aggregate .fbs
  let (_, rows) ← .ofExcept (aggregate.finish.mapError fun _ => OzonReportSourceError.invalidResponse)
  return rows

/-! ## Nothing that counts is lost -/

/-- A product with both of its fields. -/
def Readable (product : Document) : Prop :=
  ∃ fields, product = .object fields ∧ (∃ sku, fields.lookup "sku" = some sku) ∧
    ∃ quantity, fields.lookup "quantity" = some quantity

theorem readable_of_readProduct {scheme : PostingScheme} {status : String} {product : Document}
    {sale : PostingSale} (h : readProduct scheme status product = .ok sale) : Readable product := by
  simp only [readProduct, positiveU64Field, ok_of_bind, context_eq_ok] at h
  obtain ⟨fields, hfields, sku, ⟨_, hsku, -⟩, quantity, ⟨_, hquantity, -⟩, -⟩ := h
  exact ⟨fields, Document.asObject_eq_some.mp hfields, ⟨_, hsku⟩, _, hquantity⟩

theorem absorbProduct_safe {product : Document} (h : Readable product) (scheme : PostingScheme)
    (status : String) :
    absorbProduct scheme status (safeProduct product) = absorbProduct scheme status product := by
  obtain ⟨fields, rfl, ⟨sku, hsku⟩, quantity, hquantity⟩ := h
  have hsafe : safeProduct (.object fields) = .object [("sku", sku), ("quantity", quantity)] := by
    simp only [safeProduct, Document.index, Document.get_object, hsku, hquantity, Option.getD_some]
  have hfirst : positiveU64Field [("sku", sku), ("quantity", quantity)] "sku" =
      positiveU64Field fields "sku" := by
    rw [positiveU64Field, positiveU64Field, hsku]
    rfl
  have hsecond : positiveU64Field [("sku", sku), ("quantity", quantity)] "quantity" =
      positiveU64Field fields "quantity" := by
    rw [positiveU64Field, positiveU64Field, hquantity]
    rfl
  rw [hsafe]
  simp only [absorbProduct, Document.asObject, context, lift_ok_bind, hfirst, hsecond]

theorem forM_safe {products : List Document} (h : ∀ product ∈ products, Readable product)
    (scheme : PostingScheme) (status : String) :
    (products.map safeProduct).forM (absorbProduct scheme status) =
      products.forM (absorbProduct scheme status) := by
  induction products with
  | nil => rfl
  | cons product products ih =>
    rw [List.forall_mem_cons] at h
    simp only [List.map_cons, List.forM_eq_forM, List.forM_cons, absorbProduct_safe h.1] at ih ⊢
    rw [ih h.2]

/-- A posting as it is stored counts as the posting itself. -/
theorem absorbPosting_safe {scheme : PostingScheme} {posting safe : Document} {read : Posting}
    (hread : readPosting scheme posting = .ok read) (hsafe : safePosting posting = .ok safe) (n : ℕ) :
    absorbPosting scheme n safe = absorbPosting scheme n posting := by
  simp only [readPosting, arrayField, ok_of_bind, ok_of_pure, context_eq_ok] at hread
  obtain ⟨fields, hfields, number, hnumber, status, hstatus, products, hproducts, sales, hsales, -⟩ := hread
  obtain rfl := Document.asObject_eq_some.mp hfields
  have hreadable : ∀ product ∈ products, Readable product := fun product hproduct => by
    obtain ⟨sale, -, hsale⟩ := exists_ok_of_mapM hsales product hproduct
    exact readable_of_readProduct hsale
  simp only [safePosting, Document.asArray_index, Document.get_object, hproducts, context, ok_of_bind,
    ok_of_pure, Except.ok.injEq, exists_eq_left'] at hsafe
  subst hsafe
  have hstring : ∀ name, (fields.lookup name).bind Document.asString =
      ((Document.object fields).index name).asString := fun name =>
    (Document.asString_index (.object fields) name).symm
  have hkept : ∀ name maxBytes validate, name = "posting_number" ∨ name = "status" →
      boundedStringField (safePostingFields (.object fields) products) name maxBytes validate =
        boundedStringField fields name maxBytes validate := by
    rintro _ maxBytes validate (rfl | rfl)
    all_goals
      rw [boundedStringField, boundedStringField, hstring]
      rfl
  have harray : arrayField fields "products" = .ok products := context_eq_ok.mpr hproducts
  have hsafe : arrayField (safePostingFields (.object fields) products) "products" =
      .ok (products.map safeProduct) := rfl
  have hobject : ∀ fields : List (String × Document),
      context (Document.object fields).asObject PostingSalesError.shape = .ok fields := fun _ => rfl
  simp only [absorbPosting, hobject, lift_ok_bind, hkept _ _ _ (.inl rfl), hkept _ _ _ (.inr rfl), harray,
    hsafe, List.length_map, forM_safe hreadable]

theorem foldlM_safe {scheme : PostingScheme} {documents safe : List Document}
    (h : List.Forall₂ (fun document document' => ∀ n,
      absorbPosting scheme n document' = absorbPosting scheme n document) documents safe) (n : ℕ) :
    safe.foldlM (absorbPosting scheme) n = documents.foldlM (absorbPosting scheme) n := by
  induction h generalizing n with
  | nil => rfl
  | cons hstep _ ih => simp only [List.foldlM_cons, hstep, ih]

/-- **Nothing that counts is lost**: a page as it is stored has the outcome of the page itself, on every
accumulator and with every effect on it. -/
theorem absorbPage_sanitized {scheme : PostingScheme} {response page : Document}
    (h : sanitizePostingPage scheme response = .ok page) :
    absorbPage scheme page = absorbPage scheme response := by
  simp only [sanitizePostingPage, ok_of_bind, ok_of_pure, ok_of_mapError, context_eq_ok] at h
  obtain ⟨cursor, hcount, documents, hdocuments, safe, hsafe, rfl⟩ := h
  let page : PostingPage := (scheme, response)
  have habsorb : absorbPage page.1 page.2 {} = (.ok cursor, (absorbPage scheme response {}).2) :=
    Prod.ext hcount rfl
  obtain ⟨postings, hread, -⟩ := (absorbPage_eq_ok balanced_empty bounded_empty).mp habsorb
  simp only [readPage, ok_of_bind, ok_of_pure, context_eq_ok, arrayField] at hread
  obtain ⟨root, hroot, documents', hdocuments', -, -, ps, hps, -, -, _, -, -⟩ := hread
  obtain rfl := Document.asObject_eq_some.mp hroot
  rw [Document.asArray_index, Document.get_object, hdocuments', Option.some.injEq] at hdocuments
  subst hdocuments
  have hsame : List.Forall₂ (fun document document' => ∀ n,
      absorbPosting scheme n document' = absorbPosting scheme n document) documents' safe := by
    have hboth := (List.forall₂_and_left _ _).mpr ⟨exists_ok_of_mapM hps, forall₂_of_mapM hsafe⟩
    refine hboth.imp fun document document' hpair n => ?_
    obtain ⟨⟨read, -, hread⟩, hstored⟩ := hpair
    exact absorbPosting_safe hread hstored n
  have hcursor : nextCursor (safePageFields (.object root) safe) = nextCursor root := by
    have hnext : (root.lookup "has_next").bind Document.asBool =
        ((Document.object root).index "has_next").asBool := (Document.asBool_index (.object root) _).symm
    have hcursor : (root.lookup "cursor").bind Document.asString =
        ((Document.object root).index "cursor").asString := (Document.asString_index (.object root) _).symm
    rw [nextCursor, nextCursor, hnext, hcursor]
    rfl
  have harray : arrayField root "postings" = .ok documents' := context_eq_ok.mpr hdocuments'
  have hkept : arrayField (safePageFields (.object root) safe) "postings" = .ok safe := rfl
  have hobject : ∀ fields : List (String × Document),
      context (Document.object fields).asObject PostingSalesError.shape = .ok fields := fun _ => rfl
  simp only [absorbPage, hobject, lift_ok_bind, harray, hkept, hcursor, length_of_mapM hsafe,
    foldlM_safe hsame]

/-! ## The check before publication -/

/-- The characters of a published status. -/
def publishableStatus (c : Char) : Bool := c.isLower || c.isDigit || c == '_'

/-- A counter whose status and units can be published. -/
def validStatusUnits (entry : String × ℕ) : Bool :=
  entry.1 ≠ "" && entry.1.utf8ByteSize ≤ 128 && entry.1.toList.all publishableStatus && fitsI64 entry.2

/-- Add the units of a status. -/
def addStatusUnits (n : ℕ) (entry : String × ℕ) : Option ℕ :=
  if validStatusUnits entry then checkedAdd 64 n entry.2 else none

/-- The units of all statuses, if their names and counters can be published. -/
def statusUnits (values : ExtTreeMap String ℕ) : Option ℕ := values.toList.foldlM addStatusUnits 0

/-- The check of a row. -/
def validPosting (r : PostingSalesRow) : Bool :=
  0 < r.sku && fitsI64 r.sku && r.fboStatusUnits.size ≤ 32 && r.fbsStatusUnits.size ≤ 32 &&
    checkedAdd 64 r.fboNonCancelledUnits r.fbsNonCancelledUnits == some r.totalNonCancelledUnits &&
    checkedAdd 64 r.fboCancelledUnits r.fbsCancelledUnits == some r.totalCancelledUnits &&
    statusUnits r.fboStatusUnits == checkedAdd 64 r.fboNonCancelledUnits r.fboCancelledUnits &&
    statusUnits r.fbsStatusUnits == checkedAdd 64 r.fbsNonCancelledUnits r.fbsCancelledUnits &&
    r.fboStatusUnits["cancelled"]?.getD 0 == r.fboCancelledUnits &&
    r.fbsStatusUnits["cancelled"]?.getD 0 == r.fbsCancelledUnits &&
    [r.totalNonCancelledUnits, r.totalCancelledUnits].all fitsI64

/-- Rows without a repeated product. -/
def validatePostings (rows : List PostingSalesRow) : Except PostgresCollectorError Unit :=
  ensureUnique rows PostingSalesRow.sku validPosting

theorem foldlM_addStatusUnits {entries : List (String × ℕ)} {start n : ℕ} (hstart : start < 2 ^ 64) :
    entries.foldlM addStatusUnits start = some n ↔
      (∀ e ∈ entries, validStatusUnits e) ∧ n = start + (entries.map Prod.snd).sum ∧ n < 2 ^ 64 := by
  induction entries generalizing start with
  | nil =>
    show some start = some n ↔ _
    rw [Option.some.injEq]
    constructor
    · rintro rfl
      exact ⟨by simp, rfl, hstart⟩
    · rintro ⟨-, rfl, -⟩
      rfl
  | cons e entries ih =>
    rw [List.foldlM_cons, List.forall_mem_cons, List.map_cons, List.sum_cons, ← Nat.add_assoc, addStatusUnits]
    split_ifs with hvalid
    · show ((checkedAdd 64 start e.2).bind fun m => entries.foldlM addStatusUnits m) = some n ↔ _
      simp only [Option.bind_eq_some_iff, checkedAdd_eq_some]
      constructor
      · rintro ⟨_, ⟨rfl, hfits⟩, hrest⟩
        obtain ⟨hall, hn, hlt⟩ := (ih hfits).mp hrest
        exact ⟨⟨hvalid, hall⟩, hn, hlt⟩
      · rintro ⟨⟨-, hall⟩, hn, hlt⟩
        have hfits : start + e.2 < 2 ^ 64 := (hn ▸ Nat.le_add_right _ _).trans_lt hlt
        exact ⟨_, ⟨rfl, hfits⟩, (ih hfits).mpr ⟨hall, hn, hlt⟩⟩
    · exact iff_of_false nofun fun h => hvalid h.1.1

theorem statusUnits_eq_some {values : ExtTreeMap String ℕ} {n : ℕ} : statusUnits values = some n ↔
    (∀ (status : String) units, values[status]? = some units → validStatusUnits (status, units)) ∧
      n = statusTotal values ∧ n < 2 ^ 64 := by
  rw [statusUnits, foldlM_addStatusUnits (by decide), Nat.zero_add]
  refine and_congr_left fun _ => ?_
  simp only [Prod.forall, ExtTreeMap.mem_toList_iff_getElem?_eq_some]

/-! ## Publishable rows -/

/-- What the validator asks for beyond the counting: few statuses of lower case letters, and a product and
units that fit a column. -/
structure PublishableRow (sku : ℕ) (row : MutablePostingSalesRow) : Prop where
  sku : sku < 2 ^ 63
  statuses : ∀ scheme, (row.byStatus scheme).size ≤ 32
  status : ∀ scheme (status : String), (row.byStatus scheme)[status]?.isSome = true →
    status.toList.all publishableStatus
  units : ∀ cancelled, row.units .fbo cancelled + row.units .fbs cancelled < 2 ^ 63

section Row

variable {row : MutablePostingSalesRow} {sku : ℕ}

theorem statusUnits_eq (hb : row.Balanced) (scheme : PostingScheme)
    (hkeys : ∀ status : String, (row.byStatus scheme)[status]?.isSome = true →
      status ≠ "" ∧ status.utf8ByteSize ≤ 128)
    (hunits : ∀ cancelled, row.units scheme cancelled < 2 ^ 63) :
    statusUnits (row.byStatus scheme) = checkedAdd 64 (row.units scheme false) (row.units scheme true) ↔
      ∀ status : String, (row.byStatus scheme)[status]?.isSome = true →
        status.toList.all publishableStatus := by
  have hfalse := hunits false
  have htrue := hunits true
  have hsum : checkedAdd 64 (row.units scheme false) (row.units scheme true) =
      some (statusTotal (row.byStatus scheme)) :=
    checkedAdd_eq_some.mpr ⟨hb.statuses scheme, by rw [hb.statuses scheme]; omega⟩
  rw [hsum, statusUnits_eq_some]
  constructor
  · rintro ⟨hvalid, -⟩ status hsome
    obtain ⟨units, hget⟩ := Option.isSome_iff_exists.mp hsome
    have := hvalid status units hget
    simp only [validStatusUnits, Bool.and_eq_true] at this
    exact this.1.2
  · intro hall
    refine ⟨fun status units hget => ?_, rfl, by rw [hb.statuses scheme]; omega⟩
    have hsome : (row.byStatus scheme)[status]?.isSome = true := by rw [hget]; rfl
    have hle := hb.status_le scheme status
    rw [hget, Option.getD_some] at hle
    obtain ⟨hne, hlen⟩ := hkeys status hsome
    have hfits : units < 2 ^ 63 := hle.trans_lt (hunits _)
    simpa [validStatusUnits, fitsI64, hne, hlen, hall status hsome] using hfits

/-- **The validator on a counted row.** -/
theorem validPosting_iff (hb : row.Balanced) {r : PostingSalesRow} (hr : row.finish sku = .ok r)
    (hsku : 0 < sku) (hkeys : ∀ scheme (status : String), (row.byStatus scheme)[status]?.isSome = true →
      status ≠ "" ∧ status.utf8ByteSize ≤ 128) : validPosting r = true ↔ PublishableRow sku row := by
  obtain ⟨hnon, hcancelled, rfl⟩ := MutablePostingSalesRow.finish_eq_ok.mp hr
  have hnon' : checkedAdd 64 row.fboNonCancelled row.fbsNonCancelled =
      some (row.fboNonCancelled + row.fbsNonCancelled) := checkedAdd_eq_some.mpr ⟨rfl, hnon⟩
  have hcancelled' : checkedAdd 64 row.fboCancelled row.fbsCancelled =
      some (row.fboCancelled + row.fbsCancelled) := checkedAdd_eq_some.mpr ⟨rfl, hcancelled⟩
  have hfbo : row.fboByStatus["cancelled"]?.getD 0 = row.fboCancelled := hb.cancelled .fbo
  have hfbs : row.fbsByStatus["cancelled"]?.getD 0 = row.fbsCancelled := hb.cancelled .fbs
  have hvalid : validPosting ⟨sku, row.fboNonCancelled, row.fbsNonCancelled,
      row.fboNonCancelled + row.fbsNonCancelled, row.fboCancelled, row.fbsCancelled,
      row.fboCancelled + row.fbsCancelled, row.fboByStatus, row.fbsByStatus⟩ = true ↔
      sku < 2 ^ 63 ∧ (∀ scheme, (row.byStatus scheme).size ≤ 32) ∧
        (∀ scheme, statusUnits (row.byStatus scheme) =
          checkedAdd 64 (row.units scheme false) (row.units scheme true)) ∧
        ∀ cancelled, row.units .fbo cancelled + row.units .fbs cancelled < 2 ^ 63 := by
    simp only [validPosting, hnon', hcancelled', hfbo, hfbs, hsku, fitsI64, Bool.and_eq_true,
      decide_eq_true_eq, beq_iff_eq, List.all_cons, List.all_nil, decide_true, and_true, true_and]
    constructor
    · rintro ⟨⟨⟨⟨⟨hlt, hsize⟩, hsize'⟩, hstatus⟩, hstatus'⟩, hlow, hhigh⟩
      refine ⟨hlt, ?_, ?_, ?_⟩
      · rintro (_ | _)
        · exact hsize
        · exact hsize'
      · rintro (_ | _)
        · exact hstatus
        · exact hstatus'
      · rintro (_ | _)
        · exact hlow
        · exact hhigh
    · rintro ⟨hlt, hsize, hstatus, hunits⟩
      exact ⟨⟨⟨⟨⟨hlt, hsize .fbo⟩, hsize .fbs⟩, hstatus .fbo⟩, hstatus .fbs⟩, hunits false, hunits true⟩
  have hclass : ∀ scheme cancelled, row.units scheme cancelled ≤
      row.units .fbo cancelled + row.units .fbs cancelled := by
    rintro (_ | _) cancelled
    · exact Nat.le_add_right _ _
    · exact Nat.le_add_left _ _
  rw [hvalid]
  constructor
  · rintro ⟨hlt, hsize, hstatus, hunits⟩
    refine ⟨hlt, hsize, fun scheme => ?_, hunits⟩
    exact (statusUnits_eq hb scheme (hkeys scheme) fun c => (hclass scheme c).trans_lt (hunits c)).mp
      (hstatus scheme)
  · intro h
    refine ⟨h.sku, h.statuses, fun scheme => ?_, h.units⟩
    exact (statusUnits_eq hb scheme (hkeys scheme) fun c => (hclass scheme c).trans_lt (h.units c)).mpr
      (h.status scheme)

end Row

/-! ## Publishable sales -/

/-- **Sales that can be published**: lower case statuses, few of them for each product and scheme, and
products and units that fit a column. -/
structure Publishable (sales : List PostingSale) : Prop where
  sku : ∀ sale ∈ sales, sale.sku < 2 ^ 63
  statuses : ∀ sku scheme, ((sales.filter fun sale => sale.sku = sku ∧ sale.scheme = scheme).map
    PostingSale.status).toFinset.card ≤ 32
  status : ∀ sale ∈ sales, sale.status.toList.all publishableStatus
  units : ∀ sku cancelled,
    unitsOf (sales.filter fun sale => sale.sku = sku ∧ sale.cancelled = cancelled) < 2 ^ 63

/-- The row of a product. -/
def rowOf (sales : List PostingSale) (sku : ℕ) : MutablePostingSalesRow :=
  (sales.filter fun sale => sale.sku = sku).foldl MutablePostingSalesRow.record {}

section Sales

variable (sales : List PostingSale) (sku : ℕ)

theorem unitsOf_schemes (cancelled : Bool) :
    unitsOf (sales.filter fun sale => sale.scheme = .fbo ∧ sale.cancelled = cancelled) +
        unitsOf (sales.filter fun sale => sale.scheme = .fbs ∧ sale.cancelled = cancelled) =
      unitsOf (sales.filter fun sale => sale.cancelled = cancelled) := by
  induction sales with
  | nil => rfl
  | cons sale sales ih =>
    simp only [unitsOf, Bool.decide_and] at ih ⊢
    by_cases h : sale.cancelled = cancelled
    · cases hscheme : sale.scheme <;> simp [h, hscheme] <;> omega
    · simp [h, ih]

theorem units_rowOf (cancelled : Bool) :
    (rowOf sales sku).units .fbo cancelled + (rowOf sales sku).units .fbs cancelled =
      unitsOf (sales.filter fun sale => sale.sku = sku ∧ sale.cancelled = cancelled) := by
  have hempty : ∀ scheme, ({} : MutablePostingSalesRow).units scheme cancelled = 0 := by
    rintro (_ | _) <;> cases cancelled <;> rfl
  rw [rowOf, MutablePostingSalesRow.units_foldl_record, MutablePostingSalesRow.units_foldl_record, hempty,
    hempty, Nat.zero_add, Nat.zero_add, unitsOf_schemes, List.filter_filter]
  simp only [Bool.decide_and, Bool.and_comm]

theorem isSome_byStatus_rowOf (scheme : PostingScheme) (status : String) :
    ((rowOf sales sku).byStatus scheme)[status]?.isSome = true ↔
      ∃ sale ∈ sales, sale.sku = sku ∧ sale.scheme = scheme ∧ sale.status = status := by
  have hempty : (({} : MutablePostingSalesRow).byStatus scheme)[status]?.isSome = false := by
    cases scheme <;> simp [MutablePostingSalesRow.byStatus]
  rw [rowOf, MutablePostingSalesRow.isSome_byStatus_foldl_record, hempty]
  simp [and_assoc]

theorem size_byStatus_rowOf (scheme : PostingScheme) : ((rowOf sales sku).byStatus scheme).size =
    ((sales.filter fun sale => sale.sku = sku ∧ sale.scheme = scheme).map
      PostingSale.status).toFinset.card := by
  rw [← ExtTreeMap.length_keys, ← List.toFinset_card_of_nodup ExtTreeMap.nodup_keys]
  congr 1
  ext status
  rw [List.mem_toFinset, List.mem_toFinset, mem_keys_iff, isSome_byStatus_rowOf]
  simp [and_assoc]

/-- Sales are publishable when their rows are. -/
theorem publishable_iff : Publishable sales ↔
    ∀ sku ∈ sales.map PostingSale.sku, PublishableRow sku (rowOf sales sku) := by
  constructor
  · intro h sku hsku
    obtain ⟨sale, hsale, rfl⟩ := List.mem_map.mp hsku
    refine ⟨h.sku sale hsale, fun scheme => ?_, fun scheme status hsome => ?_, fun cancelled => ?_⟩
    · rw [size_byStatus_rowOf]
      exact h.statuses _ scheme
    · obtain ⟨sale', hsale', -, -, rfl⟩ := (isSome_byStatus_rowOf _ _ _ _).mp hsome
      exact h.status sale' hsale'
    · rw [units_rowOf]
      exact h.units _ cancelled
  · intro h
    have hrow : ∀ sale ∈ sales, PublishableRow sale.sku (rowOf sales sale.sku) := fun sale hsale =>
      h _ (List.mem_map_of_mem hsale)
    -- a product without sales has no statuses and no units
    have hnone : ∀ sku, sku ∉ sales.map PostingSale.sku → ∀ p : PostingSale → Bool,
        (sales.filter fun sale => sale.sku = sku ∧ p sale) = [] := fun sku hsku p => by
      refine List.filter_eq_nil_iff.mpr fun sale hsale hp => hsku ?_
      exact (of_decide_eq_true hp).1 ▸ List.mem_map_of_mem hsale
    refine ⟨fun sale hsale => (hrow sale hsale).sku, fun sku scheme => ?_, fun sale hsale => ?_,
      fun sku cancelled => ?_⟩
    · by_cases hsku : sku ∈ sales.map PostingSale.sku
      · rw [← size_byStatus_rowOf]
        exact (h sku hsku).statuses scheme
      · have := hnone sku hsku fun sale => sale.scheme = scheme
        simp only [decide_eq_true_eq] at this
        rw [this]
        simp
    · exact (hrow sale hsale).status sale.scheme sale.status
        ((isSome_byStatus_rowOf _ _ _ _).mpr ⟨sale, hsale, rfl, rfl, rfl⟩)
    · by_cases hsku : sku ∈ sales.map PostingSale.sku
      · rw [← units_rowOf]
        exact (h sku hsku).units cancelled
      · have := hnone sku hsku fun sale => sale.cancelled = cancelled
        simp only [decide_eq_true_eq] at this
        rw [this]
        decide

end Sales

/-! ## The collected rows -/

/-- The pages of the answers so far. -/
def answeredPages (trace : List (OzonExchange PostingRequest)) : List PostingPage :=
  trace.filterMap fun exchange => exchange.2.toOption.map fun response => (exchange.1.scheme, response)

/-- The sales that a page reports. -/
def pageSales (page : PostingPage) : List PostingSale :=
  match readPage page with
  | .ok read => read.1.flatMap Posting.sales
  | .error _ => []

/-- The sales of all pages. -/
def reportedSales (pages : List PostingPage) : List PostingSale := pages.flatMap pageSales

theorem absorbPages_snoc {pages : List PostingPage} {page : PostingPage} {s t u : PostingSalesAccumulator}
    {cursor : Option String} (h : absorbPages pages s = (.ok (), t))
    (hpage : absorbPage page.1 page.2 t = (.ok cursor, u)) :
    absorbPages (pages ++ [page]) s = (.ok (), u) := by
  unfold absorbPages at h ⊢
  induction pages generalizing s with
  | nil =>
    simp only [List.forM_eq_forM, List.forM_nil, call_pure, true_and] at h
    subst h
    simp only [List.nil_append, List.forM_eq_forM, List.forM_cons, List.forM_nil, call_bind, call_pure]
    exact ⟨(), u, ⟨cursor, u, hpage, trivial, rfl⟩, trivial, rfl⟩
  | cons p pages ih =>
    simp only [List.cons_append, List.forM_eq_forM, List.forM_cons, call_bind] at h ih ⊢
    obtain ⟨a, v, hp, hrest⟩ := h
    exact ⟨a, v, hp, ih hrest⟩

theorem runs_collectPostingPage {scheme : PostingScheme} {since upTo : ℤ} {s s' : PostingSalesAccumulator}
    {cursor next : Option String} {trace : List (OzonExchange PostingRequest)}
    (h : (collectPostingPage scheme since upTo s cursor).Runs trace (.ok (s', next))) :
    ∃ response, trace = [⟨⟨scheme, since, upTo, cursor⟩, .ok response⟩] ∧
      absorbPage scheme response s = (.ok next, s') := by
  obtain ⟨response, first, rest, rfl, hpost, hrest⟩ := Prog.runs_bind_ok.mp h
  obtain rfl := runs_post.mp hpost
  obtain ⟨page, hpage, hrest⟩ := Prog.runs_ofExcept_bind.mp hrest
  rw [absorbPage_sanitized hpage] at hrest
  rcases hcount : absorbPage scheme response s with ⟨e | cursor', t⟩
  · rw [hcount] at hrest
    obtain ⟨-, ⟨⟩⟩ := hrest
  · rw [hcount] at hrest
    obtain ⟨rfl, heq⟩ := Prog.runs_pure.mp hrest
    obtain ⟨rfl, rfl⟩ := Prod.mk.inj heq
    exact ⟨response, List.append_nil _, hcount⟩

theorem runs_collectScheme {scheme : PostingScheme} {since upTo : ℤ} {s t : PostingSalesAccumulator}
    {before trace : List (OzonExchange PostingRequest)}
    (h : (collectScheme since upTo s scheme).Runs trace (.ok t))
    (hs : absorbPages (answeredPages before) {} = (.ok (), s)) :
    absorbPages (answeredPages (before ++ trace)) {} = (.ok (), t) := by
  refine (runs_walk.mp h).invariant (P := fun trace s => absorbPages (answeredPages trace) {} = (.ok (), s))
    (fun before s cursor trace s' next hs hpage => ?_) hs
  obtain ⟨response, rfl, hcount⟩ := runs_collectPostingPage hpage
  have hpages : answeredPages (before ++ [⟨⟨scheme, since, upTo, cursor⟩, .ok response⟩]) =
      answeredPages before ++ [(scheme, response)] := List.filterMap_append
  rw [hpages]
  exact absorbPages_snoc hs hcount

/-- **The collected rows** are the rows of the answered pages. -/
theorem runs_collectPostingMovement {start stop : ℤ} {trace : List (OzonExchange PostingRequest)}
    {rows : List PostingSalesRow} (h : (collectPostingMovement start stop).Runs trace (.ok rows)) :
    ∃ t totals, absorbPages (answeredPages trace) {} = (.ok (), t) ∧ t.finish = .ok (totals, rows) := by
  obtain ⟨_, -, h⟩ := Prog.runs_ofExcept_bind.mp h
  obtain ⟨s, first, rest, rfl, hfbo, h⟩ := Prog.runs_bind_ok.mp h
  obtain ⟨t, second, last, rfl, hfbs, h⟩ := Prog.runs_bind_ok.mp h
  obtain ⟨⟨totals, rows'⟩, hfinish, h⟩ := Prog.runs_ofExcept_bind.mp h
  obtain ⟨rfl, rfl⟩ := Prog.runs_pure.mp h
  have hs : absorbPages (answeredPages ([] ++ first)) {} = (.ok (), s) := runs_collectScheme hfbo rfl
  have ht := runs_collectScheme hfbs hs
  rw [List.append_nil]
  exact ⟨t, totals, ht, ok_of_mapError.mp hfinish⟩

theorem reportedSales_eq {pages : List PostingPage} {reads : List (List Posting × Option String)}
    (h : pages.mapM readPage = .ok reads) :
    reportedSales pages = (reads.flatMap pageEntries).filterMap PostingEntry.sale? := by
  have hposting : ∀ posting : Posting, posting.entries.filterMap PostingEntry.sale? = posting.sales := by
    intro posting
    rw [Posting.entries, List.filterMap_cons_none (f := PostingEntry.sale?) rfl, List.filterMap_map]
    exact List.filterMap_some
  have hpage : ∀ read : List Posting × Option String,
      (pageEntries read).filterMap PostingEntry.sale? = read.1.flatMap Posting.sales := by
    intro read
    rw [pageEntries, List.filterMap_flatMap]
    simp only [hposting]
  have hmap : (reads.map fun read => read.1.flatMap Posting.sales) = pages.map pageSales :=
    map_of_mapM (fun page read hread => by rw [pageSales, hread]) h
  rw [reportedSales, List.flatMap_def, ← hmap, List.filterMap_flatMap, List.flatMap_def]
  simp only [hpage]

theorem valid_of_reportedSales {pages : List PostingPage} {sale : PostingSale}
    (h : sale ∈ reportedSales pages) :
    0 < sale.sku ∧ sale.status ≠ "" ∧ sale.status.utf8ByteSize ≤ 128 := by
  obtain ⟨page, -, hsale⟩ := List.mem_flatMap.mp h
  unfold pageSales at hsale
  split at hsale
  · rename_i read hread
    obtain ⟨posting, hposting, hsale⟩ := List.mem_flatMap.mp hsale
    simp only [readPage, ok_of_bind, ok_of_pure] at hread
    obtain ⟨_, -, _, -, -, -, ps, hps, -, -, _, -, rfl⟩ := hread
    obtain ⟨document, -, hread⟩ := exists_of_mem_mapM hps posting hposting
    simp only [readPosting, boundedStringField, ok_of_bind, ok_of_pure, context_eq_ok] at hread
    obtain ⟨_, -, _, -, status, hstatus, _, -, sales, hsales, rfl⟩ := hread
    obtain ⟨product, -, hproduct⟩ := exists_of_mem_mapM hsales sale hsale
    simp only [readProduct, positiveU64Field, ok_of_bind, ok_of_pure, context_eq_ok] at hproduct
    obtain ⟨_, -, sku, ⟨_, -, hsku⟩, _, -, rfl⟩ := hproduct
    have hpositive := (Option.filter_eq_some_iff.mp hsku).2
    have hvalid := (Option.filter_eq_some_iff.mp hstatus).2
    simp only [decide_eq_true_eq] at hpositive hvalid
    exact ⟨hpositive, hvalid.1, hvalid.2.1⟩
  · cases hsale

theorem rows_of_absorbPages {pages : List PostingPage} {t : PostingSalesAccumulator}
    (h : absorbPages pages {} = (.ok (), t)) {sku : ℕ} {row : MutablePostingSalesRow} :
    t.rows[sku]? = some row ↔
      sku ∈ (reportedSales pages).map PostingSale.sku ∧ row = rowOf (reportedSales pages) sku := by
  obtain ⟨reads, hreads, rfl, -⟩ := absorbPages_eq_ok.mp h
  have hrows := rows_foldl_book (reads.flatMap pageEntries) {}
  rw [← reportedSales_eq hreads] at hrows
  have hsome : ((reportedSales pages).foldl (gather PostingSale.sku {} MutablePostingSalesRow.record)
      ({} : PostingSalesAccumulator).rows)[sku]?.isSome = true ↔ _ := isSome_foldl_gather _ _ _
  have hgroup : ((reportedSales pages).foldl (gather PostingSale.sku {} MutablePostingSalesRow.record)
      ({} : PostingSalesAccumulator).rows)[sku]?.getD {} = _ := getD_foldl_gather _ _ _
  rw [← hrows] at hsome hgroup
  have hnone : ({} : PostingSalesAccumulator).rows[sku]? = none := ExtTreeMap.getElem?_empty
  rw [hnone] at hsome hgroup
  constructor
  · intro hrow
    rw [hrow] at hsome hgroup
    exact ⟨(hsome.mp rfl).resolve_right nofun, hgroup⟩
  · rintro ⟨hmem, rfl⟩
    obtain ⟨row, hrow⟩ := Option.isSome_iff_exists.mp (hsome.mpr (.inl hmem))
    rw [hrow] at hgroup ⊢
    exact congrArg some hgroup

theorem validatePostings_eq_ok {pages : List PostingPage} {t : PostingSalesAccumulator}
    {totals : PostingSalesTotals} {rows : List PostingSalesRow} (habsorb : absorbPages pages {} = (.ok (), t))
    (hfinish : t.finish = .ok (totals, rows)) :
    validatePostings rows = .ok () ↔ Publishable (reportedSales pages) := by
  have hbalanced : t.Balanced := by
    obtain ⟨reads, -, rfl, -⟩ := absorbPages_eq_ok.mp habsorb
    exact balanced_empty.foldl _
  have hrows := (finish_eq_ok.mp hfinish).2.2.1
  have hdistinct : (rows.map PostingSalesRow.sku).Nodup := by
    have hmap : rows.map PostingSalesRow.sku = t.rows.toList.map Prod.fst :=
      map_of_mapM (fun e r he => by rw [(MutablePostingSalesRow.finish_eq_ok.mp he).2.2]) hrows
    rw [hmap, ExtTreeMap.map_fst_toList_eq_keys]
    exact ExtTreeMap.nodup_keys
  have hvalid : ∀ {r : PostingSalesRow} {sku : ℕ} {row : MutablePostingSalesRow}, t.rows[sku]? = some row →
      row.finish sku = .ok r → (validPosting r = true ↔ PublishableRow sku row) := by
    intro r sku row hrow hr
    obtain ⟨hsku, rfl⟩ := (rows_of_absorbPages habsorb).mp hrow
    obtain ⟨sale, hsale, rfl⟩ := List.mem_map.mp hsku
    have hrowBalanced := hbalanced.row sale.sku
    rw [PostingSalesAccumulator.row, hrow, Option.getD_some] at hrowBalanced
    refine validPosting_iff hrowBalanced hr (valid_of_reportedSales hsale).1 fun scheme status hsome => ?_
    obtain ⟨sale', hsale', -, -, rfl⟩ := (isSome_byStatus_rowOf _ _ _ _).mp hsome
    exact (valid_of_reportedSales hsale').2
  rw [validatePostings, ensureUnique_eq_ok, and_iff_left hdistinct, publishable_iff]
  constructor
  · intro hall sku hsku
    have hrow := (rows_of_absorbPages habsorb).mpr ⟨hsku, rfl⟩
    obtain ⟨r, hr, hfinish⟩ := exists_ok_of_mapM hrows _ (ExtTreeMap.mem_toList_iff_getElem?_eq_some.mpr hrow)
    exact (hvalid hrow hfinish).mp (hall r hr)
  · intro hall r hr
    obtain ⟨row, -, hrow, hfinish⟩ := exists_row_of_finish hbalanced hfinish hr
    obtain ⟨hsku, rfl⟩ := (rows_of_absorbPages habsorb).mp hrow
    exact (hvalid hrow hfinish).mpr (hall _ hsku)

/-- **Collected movement**: the rows of a complete collection are published exactly when the reported sales can
be, and what a stored page counts is what the provider sent. -/
theorem collected_movement_publishable {start stop : ℤ} {trace : List (OzonExchange PostingRequest)}
    {rows : List PostingSalesRow} (h : (collectPostingMovement start stop).Runs trace (.ok rows)) :
    (validatePostings rows = .ok () ↔ Publishable (reportedSales (answeredPages trace))) ∧
      ∀ scheme response page, sanitizePostingPage scheme response = .ok page →
        ∀ aggregate, absorbPage scheme page aggregate = absorbPage scheme response aggregate := by
  refine ⟨?_, fun scheme response page hpage aggregate => ?_⟩
  · obtain ⟨t, totals, habsorb, hfinish⟩ := runs_collectPostingMovement h
    exact validatePostings_eq_ok habsorb hfinish
  · rw [absorbPage_sanitized hpage]

/-- A day with one delivered posting. -/
def deliveredDay (status : String) : PostingRequest → OzonAnswer := fun request =>
  match request.scheme with
  | .fbo => .ok (lastPageOf [postingOf "p-1" status [productOf "7" "2"]])
  | .fbs => .ok (lastPageOf [])

theorem collected_movement_publishable_delivered : ∃ trace rows,
    (collectPostingMovement 0 (hours 24)).Runs trace (.ok rows) ∧
      validatePostings rows = .ok () ∧ Publishable (reportedSales (answeredPages trace)) := by
  have hok : ((collectPostingMovement 0 (hours 24)).eval
      fun request => .ok (deliveredDay "delivered" request)).toOption.any
        fun rows => (validatePostings rows).toOption.isSome := by decide +kernel
  have hrun := Prog.runs_eval (deliveredDay "delivered") (collectPostingMovement 0 (hours 24))
  cases h : (collectPostingMovement 0 (hours 24)).eval
      fun request => .ok (deliveredDay "delivered" request) with
  | error e =>
    rw [h] at hok
    cases hok
  | ok rows =>
    rw [h] at hok hrun
    cases hvalid : validatePostings rows with
    | error e =>
      rw [Except.toOption, Option.any_some, hvalid] at hok
      cases hok
    | ok _ => exact ⟨_, rows, hrun, hvalid, (collected_movement_publishable hrun).1.mp hvalid⟩

theorem capital_status_collected : ¬ ∀ start stop trace rows,
    (collectPostingMovement start stop).Runs trace (.ok rows) → validatePostings rows = .ok () := by
  intro hall
  have hbad : ((collectPostingMovement 0 (hours 24)).eval
      fun request => .ok (deliveredDay "Delivered" request)).toOption.any
        fun rows => (validatePostings rows).toOption.isNone := by decide +kernel
  have hrun := Prog.runs_eval (deliveredDay "Delivered") (collectPostingMovement 0 (hours 24))
  cases h : (collectPostingMovement 0 (hours 24)).eval
      fun request => .ok (deliveredDay "Delivered" request) with
  | error e =>
    rw [h] at hbad
    cases hbad
  | ok rows =>
    rw [h] at hbad hrun
    rw [Except.toOption, Option.any_some, hall _ _ _ _ hrun] at hbad
    cases hbad

end AdsControl.Reporting
