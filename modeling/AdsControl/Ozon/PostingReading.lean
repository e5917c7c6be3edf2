import AdsControl.Ozon.PostingBooks

/-!
# Reading posting pages

Absorbing a page is reading it, which needs no accumulator, and booking what it says.

* `readPage`: what a page says;
* `PostingSalesAccumulator.bounded_book_sale`, `bounded_book_posting`: the checks are bounds on the books;
* **`absorbPages_eq_ok`**: absorbing pages is reading them and booking their entries.
-/

namespace AdsControl.Ozon

open Fallible Machine OrderedMap Receiver Std Tally

/-! ## What a page says -/

/-- A posting with the units of its products. -/
structure Posting where
  scheme : PostingScheme
  number : String
  sales : List PostingSale

/-- What a posting adds. -/
def Posting.entries (posting : Posting) : List PostingEntry :=
  .posting posting.scheme posting.number :: posting.sales.map .sale

/-- The sale of a product. -/
def readProduct (scheme : PostingScheme) (status : String) (product : Document) :
    Except PostingSalesError PostingSale := do
  let product ← context product.asObject .shape
  let sku ← positiveU64Field product "sku"
  let quantity ← positiveU64Field product "quantity"
  return ⟨scheme, status, sku, quantity⟩

/-- The posting of a document. -/
def readPosting (scheme : PostingScheme) (posting : Document) : Except PostingSalesError Posting := do
  let posting ← context posting.asObject .shape
  let number ← boundedStringField posting "posting_number" maxPostingNumberBytes validIdentifier
  let status ← boundedStringField posting "status" maxStatusBytes validStatus
  let products ← arrayField posting "products"
  let sales ← products.mapM (readProduct scheme status)
  return ⟨scheme, number, sales⟩

/-- The products of a list of postings. -/
def productCount (postings : List Posting) : ℕ := (postings.map fun posting => posting.sales.length).sum

/-- The postings of a page, with the cursor of the next one. -/
def readPage (page : PostingPage) : Except PostingSalesError (List Posting × Option String) := do
  let root ← context page.2.asObject .shape
  let documents ← arrayField root "postings"
  ensure (documents.length ≤ maxPostingsPerPage) .tooManyRows
  let postings ← documents.mapM (readPosting page.1)
  ensure (productCount postings ≤ maxProductsPerPage) .tooManyRows
  let cursor ← nextCursor root
  return (postings, cursor)

/-! ## Absorbing is reading and booking -/

namespace PostingSalesAccumulator

variable {s t : PostingSalesAccumulator} {scheme : PostingScheme} {status : String}

@[simp] theorem row_setRow (s : PostingSalesAccumulator) (sku : ℕ) (row : MutablePostingSalesRow) :
    (s.setRow sku row).row sku = row := by
  rw [PostingSalesAccumulator.row, setRow, getElem?_put, if_pos rfl, Option.getD_some]

@[simp] theorem setRow_setRow (s : PostingSalesAccumulator) (sku : ℕ) (row row' : MutablePostingSalesRow) :
    (s.setRow sku row).setRow sku row' = s.setRow sku row' := by
  simp only [setRow, mk.injEq, and_true]
  refine ExtTreeMap.ext_getElem? fun k => ?_
  simp only [getElem?_put]
  split_ifs <;> rfl

@[simp] theorem totals_setRow (s : PostingSalesAccumulator) (sku : ℕ) (row : MutablePostingSalesRow) :
    (s.setRow sku row).totals = s.totals := rfl

@[simp] theorem setTotals_setRow (s : PostingSalesAccumulator) (totals : PostingSalesTotals) (sku : ℕ)
    (row : MutablePostingSalesRow) :
    (s.setRow sku row).setTotals totals = (s.setTotals totals).setRow sku row := rfl

theorem raise_eq_ok {get : PostingSalesAccumulator → ℕ}
    {put : PostingSalesAccumulator → ℕ → PostingSalesAccumulator} {value : ℕ} {u : Unit} :
    raise get put value s = (.ok u, t) ↔ get s + value < 2 ^ 64 ∧ t = put s (get s + value) := by
  simp only [raise, call_bind, call_query, call_modify, context_eq_ok, checkedAdd_eq_some]
  constructor
  · rintro ⟨_, _, ⟨⟨rfl, hlt⟩, rfl⟩, rfl⟩
    exact ⟨hlt, rfl⟩
  · rintro ⟨hlt, rfl⟩
    exact ⟨_, _, ⟨⟨rfl, hlt⟩, rfl⟩, rfl⟩

theorem size_gather_le {sale : PostingSale} :
    (s.book (.sale sale)).rows.size ≤ maxAggregatedSkus ↔
      s.rows.size ≤ maxAggregatedSkus ∧
        (s.rows[sale.sku]?.isSome = true ∨ s.rows.size < maxAggregatedSkus) := by
  have hsize : (s.book (.sale sale)).rows.size =
      if sale.sku ∈ s.rows then s.rows.size else s.rows.size + 1 := ExtTreeMap.size_insert
  rw [hsize, ← ExtTreeMap.mem_iff_isSome_getElem?]
  split_ifs with h
  · simp [h]
  · simp only [h, false_or]
    omega

/-- **The checks of a sale** are those of the accumulator after it: the counter of a row or of a status is
never above the total of its class. -/
theorem bounded_book_sale (hs : s.Balanced) (hb : s.Bounded) (sale : PostingSale) :
    (s.book (.sale sale)).Bounded ↔
      (s.rows[sale.sku]?.isSome = true ∨ s.rows.size < maxAggregatedSkus) ∧
        (s.row sale.sku).units sale.scheme sale.cancelled + sale.quantity < 2 ^ 64 ∧
        s.totals.units sale.scheme sale.cancelled + sale.quantity < 2 ^ 64 ∧
        ((s.row sale.sku).byStatus sale.scheme)[sale.status]?.getD 0 + sale.quantity < 2 ^ 64 := by
  constructor
  · intro h
    have hstatus := (hs.row sale.sku).status_le sale.scheme sale.status
    have hrow := hs.units_row_le sale.sku sale.scheme sale.cancelled
    have hunits := h.units sale.scheme sale.cancelled
    simp only [book, PostingSalesTotals.units_addUnits, and_self, if_true] at hunits
    unfold PostingSale.cancelled at *
    exact ⟨(size_gather_le.mp h.size).2, by omega, hunits, by omega⟩
  · rintro ⟨hsize, -, hunits, -⟩
    refine ⟨size_gather_le.mpr ⟨hb.size, hsize⟩, fun scheme cancelled => ?_, fun scheme => ?_, ?_⟩
    · have hold := hb.units scheme cancelled
      simp only [book, PostingSalesTotals.units_addUnits]
      split_ifs with h
      · rwa [← h.1, ← h.2]
      · exact hold
    · exact (PostingSalesTotals.postings_addUnits _ _ _ _ _).trans_lt (hb.postings scheme)
    · simpa only [book, PostingSalesTotals.postings_addUnits] using hb.seen

theorem absorbProduct_eq_ok (hs : s.Balanced) (hb : s.Bounded) {product : Document} {u : Unit} :
    absorbProduct scheme status product s = (.ok u, t) ↔
      ∃ sale, readProduct scheme status product = .ok sale ∧ t = s.book (.sale sale) ∧ t.Bounded := by
  simp only [absorbProduct, readProduct, call_bind, call_lift, call_query, call_modify, raise_eq_ok,
    ensure_eq_ok, ok_of_bind, ok_of_pure]
  constructor
  · rintro ⟨fields, _, ⟨hfields, rfl⟩, sku, _, ⟨hsku, rfl⟩, quantity, _, ⟨hquantity, rfl⟩, -, _, ⟨hsize, rfl⟩,
      -, _, rfl, -, _, ⟨hrow, rfl⟩, -, _, ⟨htotals, rfl⟩, hstatus, rfl⟩
    simp only [row_setRow, setRow_setRow, totals_setRow, setTotals_setRow,
      MutablePostingSalesRow.byStatus_setUnits] at hrow htotals hstatus ⊢
    refine ⟨⟨scheme, status, sku, quantity⟩, ⟨fields, hfields, sku, hsku, quantity, hquantity, rfl⟩, rfl, ?_⟩
    exact (bounded_book_sale hs hb ⟨scheme, status, sku, quantity⟩).mpr ⟨hsize, hrow, htotals, hstatus⟩
  · rintro ⟨_, ⟨fields, hfields, sku, hsku, quantity, hquantity, rfl⟩, rfl, hbounded⟩
    obtain ⟨hsize, hrow, htotals, hstatus⟩ := (bounded_book_sale hs hb _).mp hbounded
    refine ⟨fields, _, ⟨hfields, rfl⟩, sku, _, ⟨hsku, rfl⟩, quantity, _, ⟨hquantity, rfl⟩, (), _,
      ⟨hsize, rfl⟩, (), _, rfl, (), _, ⟨?_, rfl⟩, (), _, ⟨?_, rfl⟩, ?_, ?_⟩
    all_goals simp only [row_setRow, setRow_setRow, totals_setRow, setTotals_setRow,
      MutablePostingSalesRow.byStatus_setUnits]
    · exact hrow
    · exact htotals
    · exact hstatus
    · rfl

/-- **A loop that books what it reads**, when each of its steps does. -/
theorem forM_eq_ok {A B : Type} {m : A → Method PostingSalesAccumulator PostingSalesError Unit}
    {read : A → Except PostingSalesError B} {entries : B → List PostingEntry}
    (hm : ∀ a (s t : PostingSalesAccumulator) (u : Unit), s.Balanced → s.Bounded → (m a s = (.ok u, t) ↔
      ∃ b, read a = .ok b ∧ t = (entries b).foldl book s ∧ t.Bounded))
    (l : List A) (hs : s.Balanced) (hb : s.Bounded) {u : Unit} : l.forM m s = (.ok u, t) ↔
      ∃ bs, l.mapM read = .ok bs ∧ t = (bs.flatMap entries).foldl book s ∧ t.Bounded := by
  induction l generalizing s t with
  | nil =>
    simp only [List.forM_eq_forM, List.forM_nil, call_pure, List.mapM_nil, ok_of_pure, exists_eq_left',
      List.flatMap_nil, List.foldl_nil]
    constructor
    · rintro ⟨-, rfl⟩
      exact ⟨rfl, hb⟩
    · rintro ⟨rfl, -⟩
      exact ⟨trivial, rfl⟩
  | cons a l ih =>
    simp only [List.forM_eq_forM, List.forM_cons, List.mapM_cons, call_bind, ok_of_bind, ok_of_pure,
      hm a s _ _ hs hb]
    constructor
    · rintro ⟨-, _, ⟨b, hread, rfl, hbounded⟩, hrest⟩
      obtain ⟨bs, hbs, rfl, ht⟩ := (ih (hs.foldl _) hbounded).mp hrest
      exact ⟨b :: bs, ⟨b, hread, bs, hbs, rfl⟩, by rw [List.flatMap_cons, List.foldl_append], ht⟩
    · rintro ⟨_, ⟨b, hread, bs, hbs, rfl⟩, rfl, ht⟩
      rw [List.flatMap_cons, List.foldl_append] at ht ⊢
      exact ⟨(), _, ⟨b, hread, rfl, ht.of_foldl⟩, (ih (hs.foldl _) ht.of_foldl).mpr ⟨bs, hbs, rfl, ht⟩⟩

theorem absorbProducts_eq_ok (hs : s.Balanced) (hb : s.Bounded) {products : List Document} {u : Unit} :
    products.forM (absorbProduct scheme status) s = (.ok u, t) ↔
      ∃ sales, products.mapM (readProduct scheme status) = .ok sales ∧
        t = (sales.map .sale).foldl book s ∧ t.Bounded := by
  have hstep : ∀ product (s t : PostingSalesAccumulator) (u : Unit), s.Balanced → s.Bounded →
      (absorbProduct scheme status product s = (.ok u, t) ↔
        ∃ sale, readProduct scheme status product = .ok sale ∧
          t = [PostingEntry.sale sale].foldl book s ∧ t.Bounded) :=
    fun _ _ _ _ hs hb => absorbProduct_eq_ok hs hb
  have hentries : ∀ sales : List PostingSale,
      (sales.flatMap fun sale => [PostingEntry.sale sale]) = sales.map .sale := fun sales => by
    rw [← List.flatMap_singleton' (sales.map _), List.flatMap_map]
  rw [forM_eq_ok hstep products hs hb]
  simp only [hentries]

theorem bounded_book_posting (hs : s.Balanced) (hb : s.Bounded) (number : String) :
    (s.book (.posting scheme number)).Bounded ↔
      (scheme, number) ∉ s.seenPostings ∧ s.totals.postings scheme + 1 < 2 ^ 64 := by
  have hseen := hs.seen
  constructor
  · intro h
    have hcard := h.seen
    have hpostings := h.postings scheme
    simp only [book, PostingSalesTotals.postings_addPosting, if_true] at hcard hpostings
    refine ⟨fun hmem => ?_, hpostings⟩
    rw [Finset.insert_eq_of_mem hmem] at hcard
    cases scheme <;> simp at hcard <;> omega
  · rintro ⟨hnew, hpostings⟩
    have hcard := hb.seen
    refine ⟨hb.size, fun scheme' cancelled => ?_, fun scheme' => ?_, ?_⟩
    · exact (PostingSalesTotals.units_addPosting _ _ _ _).trans_lt (hb.units scheme' cancelled)
    · have hold := hb.postings scheme'
      simp only [book, PostingSalesTotals.postings_addPosting]
      split_ifs with h
      · rwa [← h]
      · exact hold
    · simp only [book, PostingSalesTotals.postings_addPosting, Finset.card_insert_of_notMem hnew]
      cases scheme <;> simp <;> omega

theorem absorbPosting_eq_ok (hs : s.Balanced) (hb : s.Bounded) {posting : Document} {n n' : ℕ} :
    absorbPosting scheme n posting s = (.ok n', t) ↔ ∃ p, readPosting scheme posting = .ok p ∧
      n' = n + p.sales.length ∧ n' ≤ maxProductsPerPage ∧ t = p.entries.foldl book s ∧ t.Bounded := by
  simp only [absorbPosting, readPosting, call_bind, call_lift, call_query, call_modify, call_pure,
    raise_eq_ok, ensure_eq_ok, context_eq_ok, checkedAdd_eq_some, ok_of_bind, ok_of_pure]
  constructor
  · rintro ⟨fields, _, ⟨hfields, rfl⟩, number, _, ⟨hnumber, rfl⟩, -, _, ⟨hnew, rfl⟩, -, _, rfl, status, _,
      ⟨hstatus, rfl⟩, products, _, ⟨hproducts, rfl⟩, _, _, ⟨⟨rfl, -⟩, rfl⟩, -, _, ⟨hle, rfl⟩, -, _,
      ⟨hfits, rfl⟩, _, _, hloop, rfl, rfl⟩
    have hposting := (bounded_book_posting hs hb number).mpr ⟨hnew, hfits⟩
    obtain ⟨sales, hsales, rfl, ht⟩ := (absorbProducts_eq_ok (hs.book _) hposting).mp hloop
    refine ⟨⟨scheme, number, sales⟩, ⟨fields, hfields, number, hnumber, status, hstatus, products, hproducts,
      sales, hsales, rfl⟩, ?_, hle, rfl, ht⟩
    rw [length_of_mapM hsales]
  · rintro ⟨_, ⟨fields, hfields, number, hnumber, status, hstatus, products, hproducts, sales, hsales, rfl⟩,
      rfl, hle, rfl, ht⟩
    have hposting : (s.book (.posting scheme number)).Bounded := Bounded.of_foldl ht
    obtain ⟨hnew, hfits⟩ := (bounded_book_posting hs hb number).mp hposting
    have hlength := length_of_mapM hsales
    have hloop := (absorbProducts_eq_ok (u := ()) (hs.book _) hposting).mpr ⟨sales, hsales, rfl, ht⟩
    rw [hlength] at hle
    have hwidth : n + products.length < 2 ^ 64 := hle.trans_lt (by decide)
    refine ⟨fields, _, ⟨hfields, rfl⟩, number, _, ⟨hnumber, rfl⟩, (), _, ⟨hnew, rfl⟩, (), _, rfl, status, _,
      ⟨hstatus, rfl⟩, products, _, ⟨hproducts, rfl⟩, _, _, ⟨⟨rfl, hwidth⟩, rfl⟩, (), _, ⟨hle, rfl⟩, (), _,
      ⟨hfits, rfl⟩, (), _, hloop, ?_, rfl⟩
    rw [hlength]

theorem absorbPostings_eq_ok (hs : s.Balanced) (hb : s.Bounded) {documents : List Document} {n n' : ℕ}
    (hn : n ≤ maxProductsPerPage) : documents.foldlM (absorbPosting scheme) n s = (.ok n', t) ↔
      ∃ ps, documents.mapM (readPosting scheme) = .ok ps ∧ n' = n + productCount ps ∧
        n' ≤ maxProductsPerPage ∧ t = (ps.flatMap Posting.entries).foldl book s ∧ t.Bounded := by
  induction documents generalizing s t n n' with
  | nil =>
    simp only [List.foldlM_nil, call_pure, List.mapM_nil, ok_of_pure, exists_eq_left', List.flatMap_nil,
      List.foldl_nil]
    constructor
    · rintro ⟨rfl, rfl⟩
      exact ⟨rfl, hn, rfl, hb⟩
    · rintro ⟨rfl, -, rfl, -⟩
      exact ⟨rfl, rfl⟩
  | cons document documents ih =>
    simp only [List.foldlM_cons, List.mapM_cons, call_bind, ok_of_bind, ok_of_pure, absorbPosting_eq_ok hs hb]
    constructor
    · rintro ⟨_, _, ⟨p, hread, rfl, hle, rfl, hbounded⟩, hrest⟩
      obtain ⟨ps, hps, rfl, hle', rfl, ht⟩ := (ih (hs.foldl _) hbounded hle).mp hrest
      exact ⟨p :: ps, ⟨p, hread, ps, hps, rfl⟩, Nat.add_assoc _ _ _, hle',
        by rw [List.flatMap_cons, List.foldl_append], ht⟩
    · rintro ⟨_, ⟨p, hread, ps, hps, rfl⟩, rfl, hle, rfl, ht⟩
      rw [List.flatMap_cons, List.foldl_append] at ht ⊢
      have hcount : n + productCount (p :: ps) = n + p.sales.length + productCount ps :=
        (Nat.add_assoc _ _ _).symm
      rw [hcount] at hle ⊢
      have hle' : n + p.sales.length ≤ maxProductsPerPage := (Nat.le_add_right _ _).trans hle
      refine ⟨_, _, ⟨p, hread, rfl, hle', rfl, ht.of_foldl⟩, (ih (hs.foldl _) ht.of_foldl hle').mpr ?_⟩
      exact ⟨ps, hps, rfl, hle, rfl, ht⟩

theorem absorbPage_eq_ok (hs : s.Balanced) (hb : s.Bounded) {page : PostingPage} {cursor : Option String} :
    absorbPage page.1 page.2 s = (.ok cursor, t) ↔ ∃ ps, readPage page = .ok (ps, cursor) ∧
      t = (ps.flatMap Posting.entries).foldl book s ∧ t.Bounded := by
  simp only [absorbPage, readPage, call_bind, call_lift, ok_of_bind, ok_of_pure, Prod.mk.injEq, ensure_eq_ok]
  constructor
  · rintro ⟨root, _, ⟨hroot, rfl⟩, documents, _, ⟨hdocuments, rfl⟩, -, _, ⟨hlen, rfl⟩, _, _, hloop, hcursor,
      rfl⟩
    obtain ⟨ps, hps, rfl, hcount, rfl, ht⟩ := (absorbPostings_eq_ok hs hb (Nat.zero_le _)).mp hloop
    rw [Nat.zero_add] at hcount
    exact ⟨ps, ⟨root, hroot, documents, hdocuments, (), hlen, ps, hps, (), hcount, cursor, hcursor, rfl, rfl⟩,
      rfl, ht⟩
  · rintro ⟨_, ⟨root, hroot, documents, hdocuments, -, hlen, ps, hps, -, hcount, _, hcursor, rfl, rfl⟩, rfl,
      ht⟩
    have hloop := (absorbPostings_eq_ok hs hb (Nat.zero_le _)).mpr
      ⟨ps, hps, rfl, (Nat.zero_add _).trans_le hcount, rfl, ht⟩
    exact ⟨root, _, ⟨hroot, rfl⟩, documents, _, ⟨hdocuments, rfl⟩, (), _, ⟨hlen, rfl⟩, _, _, hloop, hcursor,
      rfl⟩

end PostingSalesAccumulator

open PostingSalesAccumulator

/-- The entries of a page. -/
def pageEntries (read : List Posting × Option String) : List PostingEntry := read.1.flatMap Posting.entries

/-- **Absorbing pages is reading them and booking their entries**, within the bounds. -/
theorem absorbPages_eq_ok {pages : List PostingPage} {t : PostingSalesAccumulator} {u : Unit} :
    absorbPages pages {} = (.ok u, t) ↔ ∃ read, pages.mapM readPage = .ok read ∧
      t = (read.flatMap pageEntries).foldl book {} ∧ t.Bounded := by
  refine forM_eq_ok (fun page s t u hs hb => ?_) pages balanced_empty bounded_empty
  simp only [call_bind, call_pure]
  constructor
  · rintro ⟨cursor, _, hpage, -, rfl⟩
    obtain ⟨ps, hread, ht⟩ := (absorbPage_eq_ok hs hb).mp hpage
    exact ⟨(ps, cursor), hread, ht⟩
  · rintro ⟨⟨ps, cursor⟩, hread, ht⟩
    exact ⟨cursor, t, (absorbPage_eq_ok hs hb).mpr ⟨ps, hread, ht⟩, trivial, rfl⟩

end AdsControl.Ozon
