import AdsControl.Ozon.PostingReading

/-!
# Posting sales are conserved

* `Reordered`: other orders of the same pages and of the postings on them;
* `postingKeys`: the postings of the pages, **`postings_counted`**: each is counted once;
* **`posting_units_conserved`**: every posting is counted once, the counters agree with each other, and the
  order of pages and postings does not matter.
-/

namespace AdsControl.Ozon

open Fallible OrderedMap Machine Receiver Std Tally PostingSalesAccumulator

/-! ## Other orders -/

/-- Two pages that differ in the order of their postings only. -/
structure SamePostings (page page' : PostingPage) : Prop where
  scheme : page.1 = page'.1
  postings : ∃ items items', page.2.get "postings" = some (.array items) ∧
    page'.2.get "postings" = some (.array items') ∧ items.Perm items'
  others : ∀ name ≠ "postings", page.2.get name = page'.2.get name

/-- The same pages in another order, with their postings in another order. -/
def Reordered (pages pages' : List PostingPage) : Prop :=
  ∃ moved, pages.Perm moved ∧ List.Forall₂ SamePostings moved pages'

theorem exists_object_of_get {value item : Document} {name : String} (h : value.get name = some item) :
    ∃ fields, value = .object fields ∧ fields.lookup name = some item := by
  obtain ⟨fields, hfields, hitem⟩ := Option.bind_eq_some_iff.mp h
  exact ⟨fields, Document.asObject_eq_some.mp hfields, hitem⟩

theorem SamePostings.read {page page' : PostingPage} (h : SamePostings page page')
    {read : List Posting × Option String} (hread : readPage page = .ok read) :
    ∃ read', readPage page' = .ok read' ∧ read.1.Perm read'.1 := by
  obtain ⟨items, items', hitems, hitems', hperm⟩ := h.postings
  obtain ⟨scheme, document⟩ := page
  obtain ⟨scheme', document'⟩ := page'
  obtain rfl : scheme = scheme' := h.scheme
  obtain ⟨fields, rfl, hfields⟩ := exists_object_of_get hitems
  obtain ⟨fields', rfl, hfields'⟩ := exists_object_of_get hitems'
  have hcursor : nextCursor fields' = nextCursor fields := by
    have hnext : fields.lookup "has_next" = fields'.lookup "has_next" := h.others "has_next" (by decide)
    have hcursor : fields.lookup "cursor" = fields'.lookup "cursor" := h.others "cursor" (by decide)
    rw [nextCursor, nextCursor, hnext, hcursor]
  simp only [readPage, ok_of_bind, ok_of_pure, context_eq_ok, ensure_eq_ok, arrayField] at hread ⊢
  obtain ⟨root, hroot, documents, hdocuments, -, hlen, ps, hps, -, hcount, cursor, hnext, rfl⟩ := hread
  obtain rfl : fields = root := Option.some.inj hroot
  rw [hfields] at hdocuments
  obtain rfl : items = documents := Option.some.inj hdocuments
  obtain ⟨ps', hps', hperm'⟩ := exists_perm_of_mapM hperm hps
  have hcount' : productCount ps' = productCount ps := ((hperm'.map _).sum_eq).symm
  have hdocuments' : (fields'.lookup "postings").bind Document.asArray = some items' := by
    rw [hfields']
    rfl
  refine ⟨(ps', cursor), ⟨fields', rfl, items', hdocuments', (), ?_, ps', hps', (), ?_, cursor, ?_, rfl⟩,
    hperm'⟩
  · rwa [← hperm.length_eq]
  · rwa [hcount']
  · rwa [hcursor]

instance : RightCommutative book := ⟨book_comm⟩

theorem flatMap_pageEntries_perm {reads reads' : List (List Posting × Option String)}
    (h : List.Forall₂ (fun read read' => read.1.Perm read'.1) reads reads') :
    (reads.flatMap pageEntries).Perm (reads'.flatMap pageEntries) := by
  induction h with
  | nil => exact .nil
  | cons hperm _ ih =>
    rw [List.flatMap_cons, List.flatMap_cons]
    exact (hperm.flatMap_right _).append ih

/-- **The order of pages and postings does not matter.** -/
theorem absorbPages_reordered {pages pages' : List PostingPage} (h : Reordered pages pages')
    {t : PostingSalesAccumulator} (habsorb : absorbPages pages {} = (.ok (), t)) :
    absorbPages pages' {} = (.ok (), t) := by
  obtain ⟨moved, hperm, hsame⟩ := h
  obtain ⟨reads, hreads, rfl, ht⟩ := absorbPages_eq_ok.mp habsorb
  obtain ⟨reads', hreads', hperm'⟩ := exists_perm_of_mapM hperm hreads
  have hstep : ∀ page page' read, SamePostings page page' → readPage page = .ok read →
      ∃ read', readPage page' = .ok read' ∧ read.1.Perm read'.1 := fun _ _ _ hpage => hpage.read
  obtain ⟨reads'', hreads'', hpages⟩ := exists_forall₂_of_mapM hstep hsame hreads'
  have hentries : (reads.flatMap pageEntries).Perm (reads''.flatMap pageEntries) :=
    (hperm'.flatMap_right _).trans (flatMap_pageEntries_perm hpages)
  exact absorbPages_eq_ok.mpr ⟨reads'', hreads'', hentries.foldl_eq _, ht⟩

/-! ## Postings -/

/-- The scheme and the number of every posting. -/
def postingKeys (pages : List PostingPage) : List (PostingScheme × Option String) :=
  pages.flatMap fun page => ((page.2.index "postings").asArray.getD []).map fun posting =>
    (page.1, (posting.index "posting_number").asString)

/-- The key of a posting that was read. -/
def Posting.key (posting : Posting) : PostingScheme × String := (posting.scheme, posting.number)

theorem key_of_readPosting {scheme : PostingScheme} {document : Document} {posting : Posting}
    (h : readPosting scheme document = .ok posting) :
    (posting.scheme, some posting.number) = (scheme, (document.index "posting_number").asString) := by
  simp only [readPosting, boundedStringField, ok_of_bind, ok_of_pure, context_eq_ok] at h
  obtain ⟨fields, hfields, number, hnumber, _, -, _, -, _, -, rfl⟩ := h
  rw [Document.asString_index, Document.asObject_eq_some.mp hfields, Document.get_object,
    (Option.filter_eq_some_iff.mp hnumber).1]

theorem keys_of_readPage {page : PostingPage} {read : List Posting × Option String}
    (h : readPage page = .ok read) : (read.1.map fun posting => (posting.scheme, some posting.number)) =
      ((page.2.index "postings").asArray.getD []).map fun posting =>
        (page.1, (posting.index "posting_number").asString) := by
  simp only [readPage, arrayField, ok_of_bind, ok_of_pure, context_eq_ok] at h
  obtain ⟨root, hroot, documents, hdocuments, -, -, ps, hps, -, -, cursor, -, rfl⟩ := h
  rw [Document.asArray_index, Document.asObject_eq_some.mp hroot, Document.get_object, hdocuments]
  exact map_of_mapM (fun _ _ => key_of_readPosting) hps

theorem postingKeys_eq {pages : List PostingPage} {reads : List (List Posting × Option String)}
    (h : pages.mapM readPage = .ok reads) :
    postingKeys pages = ((reads.flatMap Prod.fst).map Posting.key).map fun key => (key.1, some key.2) := by
  have hkeys := map_of_mapM (fun _ _ => keys_of_readPage) h
  rw [postingKeys, List.flatMap_def, ← hkeys, List.map_map, List.map_flatMap, List.flatMap_def]
  rfl

/-- The key of a posting among the entries. -/
def PostingEntry.key? : PostingEntry → Option (PostingScheme × String)
  | .posting scheme number => some (scheme, number)
  | .sale _ => none

theorem keys_pageEntries (reads : List (List Posting × Option String)) :
    (reads.flatMap pageEntries).filterMap PostingEntry.key? = (reads.flatMap Prod.fst).map Posting.key := by
  have hposting : ∀ posting : Posting, posting.entries.filterMap PostingEntry.key? = [posting.key] := by
    intro posting
    have hsales : (posting.sales.map PostingEntry.sale).filterMap PostingEntry.key? = [] := by
      rw [List.filterMap_map]
      exact List.filterMap_eq_nil_iff.mpr fun _ _ => rfl
    rw [Posting.entries, List.filterMap_cons_some (f := PostingEntry.key?) rfl, hsales]
    rfl
  have hpage : ∀ read : List Posting × Option String,
      (pageEntries read).filterMap PostingEntry.key? = read.1.map Posting.key := by
    intro read
    rw [pageEntries, List.filterMap_flatMap]
    simp only [hposting]
    rw [← List.flatMap_singleton' (read.1.map _), List.flatMap_map]
  rw [List.filterMap_flatMap, List.map_flatMap]
  simp only [hpage]

theorem postings_foldl (entries : List PostingEntry) (s : PostingSalesAccumulator) :
    (entries.foldl book s).seenPostings =
        s.seenPostings ∪ (entries.filterMap PostingEntry.key?).toFinset ∧
      ∀ scheme, (entries.foldl book s).totals.postings scheme = s.totals.postings scheme +
        (entries.filterMap PostingEntry.key?).countP fun key => key.1 = scheme := by
  induction entries generalizing s with
  | nil => simp
  | cons e entries ih =>
    obtain ⟨hseen, hcount⟩ := ih (s.book e)
    rw [List.foldl_cons, hseen]
    cases e with
    | posting scheme number =>
      rw [List.filterMap_cons_some (f := PostingEntry.key?) rfl, List.toFinset_cons, Finset.union_insert]
      refine ⟨Finset.insert_union _ _ _, fun scheme' => ?_⟩
      rw [hcount, List.countP_cons]
      simp only [book, PostingSalesTotals.postings_addPosting, decide_eq_true_eq]
      omega
    | sale sale =>
      rw [List.filterMap_cons_none rfl]
      refine ⟨rfl, fun scheme => ?_⟩
      rw [hcount]
      simp only [book, PostingSalesTotals.postings_addUnits]

theorem nodup_of_length_le {α : Type} [DecidableEq α] {l : List α} (h : l.length ≤ l.toFinset.card) :
    l.Nodup := by
  rw [List.card_toFinset] at h
  rw [← (List.dedup_sublist l).eq_of_length_le h]
  exact List.nodup_dedup l

/-- **Every posting is seen once and counted once.** -/
theorem postings_counted {pages : List PostingPage} {t : PostingSalesAccumulator}
    (h : absorbPages pages {} = (.ok (), t)) : (postingKeys pages).Nodup ∧
      ∀ scheme, t.totals.postings scheme = (postingKeys pages).countP fun key => key.1 = scheme := by
  obtain ⟨reads, hreads, rfl, ht⟩ := absorbPages_eq_ok.mp h
  obtain ⟨hseen, hcount⟩ := postings_foldl (reads.flatMap pageEntries) {}
  rw [keys_pageEntries] at hseen hcount
  rw [postingKeys_eq hreads]
  have hempty : ∀ scheme, ({} : PostingSalesAccumulator).totals.postings scheme = 0 := by
    rintro (_ | _) <;> rfl
  simp only [hempty, Nat.zero_add] at hcount
  refine ⟨?_, fun scheme => ?_⟩
  · refine (nodup_of_length_le ?_).map fun key key' heq => ?_
    · have hbound := ht.seen
      rw [hseen, hcount, hcount, Finset.empty_union] at hbound
      refine Nat.le_trans (Nat.le_of_eq ?_) hbound
      rw [List.length_eq_countP_add_countP (fun key : PostingScheme × String => decide (key.1 = .fbo))]
      congr 1
      refine List.countP_congr fun key _ => ?_
      cases key.1 <;> simp
    · simpa [Prod.ext_iff] using heq
  · simp only [hcount, List.countP_map]
    rfl

/-! ## Rows and totals -/

/-- The statuses of a row account for its units of each scheme. -/
structure PostingSalesRow.Consistent (row : PostingSalesRow) : Prop where
  fbo : (row.fboStatusUnits.toList.map Prod.snd).sum = row.fboCancelledUnits + row.fboNonCancelledUnits
  fbs : (row.fbsStatusUnits.toList.map Prod.snd).sum = row.fbsCancelledUnits + row.fbsNonCancelledUnits

/-- The totals are the sums of the rows in every class. -/
structure PostingSalesTotals.SumOf (totals : PostingSalesTotals) (rows : List PostingSalesRow) : Prop where
  fboNonCancelled : totals.fboNonCancelledUnits = (rows.map (·.fboNonCancelledUnits)).sum
  fbsNonCancelled : totals.fbsNonCancelledUnits = (rows.map (·.fbsNonCancelledUnits)).sum
  totalNonCancelled : totals.totalNonCancelledUnits = (rows.map (·.totalNonCancelledUnits)).sum
  fboCancelled : totals.fboCancelledUnits = (rows.map (·.fboCancelledUnits)).sum
  fbsCancelled : totals.fbsCancelledUnits = (rows.map (·.fbsCancelledUnits)).sum
  totalCancelled : totals.totalCancelledUnits = (rows.map (·.totalCancelledUnits)).sum

theorem MutablePostingSalesRow.finish_eq_ok {row : MutablePostingSalesRow} {sku : ℕ} {r : PostingSalesRow} :
    row.finish sku = .ok r ↔ row.fboNonCancelled + row.fbsNonCancelled < 2 ^ 64 ∧
      row.fboCancelled + row.fbsCancelled < 2 ^ 64 ∧
      r = ⟨sku, row.fboNonCancelled, row.fbsNonCancelled, row.fboNonCancelled + row.fbsNonCancelled,
        row.fboCancelled, row.fbsCancelled, row.fboCancelled + row.fbsCancelled, row.fboByStatus,
        row.fbsByStatus⟩ := by
  simp only [finish, ok_of_bind, ok_of_pure, context_eq_ok, checkedAdd_eq_some]
  constructor
  · rintro ⟨_, ⟨rfl, hnon⟩, _, ⟨rfl, hcancelled⟩, rfl⟩
    exact ⟨hnon, hcancelled, rfl⟩
  · rintro ⟨hnon, hcancelled, rfl⟩
    exact ⟨_, ⟨rfl, hnon⟩, _, ⟨rfl, hcancelled⟩, rfl⟩

theorem finish_eq_ok {t : PostingSalesAccumulator} {totals : PostingSalesTotals}
    {rows : List PostingSalesRow} : t.finish = .ok (totals, rows) ↔
      t.totals.fboNonCancelledUnits + t.totals.fbsNonCancelledUnits < 2 ^ 64 ∧
      t.totals.fboCancelledUnits + t.totals.fbsCancelledUnits < 2 ^ 64 ∧
      t.rows.toList.mapM (fun e => e.2.finish e.1) = .ok rows ∧
      totals = { t.totals with
        totalNonCancelledUnits := t.totals.fboNonCancelledUnits + t.totals.fbsNonCancelledUnits
        totalCancelledUnits := t.totals.fboCancelledUnits + t.totals.fbsCancelledUnits } := by
  simp only [finish, ok_of_bind, ok_of_pure, context_eq_ok, checkedAdd_eq_some, Prod.mk.injEq]
  constructor
  · rintro ⟨_, ⟨rfl, hnon⟩, _, ⟨rfl, hcancelled⟩, _, hrows, rfl, rfl⟩
    exact ⟨hnon, hcancelled, hrows, rfl⟩
  · rintro ⟨hnon, hcancelled, hrows, rfl⟩
    exact ⟨_, ⟨rfl, hnon⟩, _, ⟨rfl, hcancelled⟩, rows, hrows, rfl, rfl⟩

section Finish

variable {t : PostingSalesAccumulator} {totals : PostingSalesTotals} {rows : List PostingSalesRow}

theorem exists_row_of_finish (ht : t.Balanced) (h : t.finish = .ok (totals, rows)) {r : PostingSalesRow}
    (hr : r ∈ rows) : ∃ row : MutablePostingSalesRow, row.Balanced ∧ t.rows[r.sku]? = some row ∧
      row.finish r.sku = .ok r := by
  obtain ⟨-, -, hrows, -⟩ := finish_eq_ok.mp h
  obtain ⟨⟨sku, row⟩, hmem, hfinish⟩ := exists_of_mem_mapM hrows r hr
  have hsku : r.sku = sku := by rw [(MutablePostingSalesRow.finish_eq_ok.mp hfinish).2.2]
  have hrow : t.rows[sku]? = some row := ExtTreeMap.mem_toList_iff_getElem?_eq_some.mp hmem
  have hbalanced := ht.row sku
  rw [PostingSalesAccumulator.row, hrow, Option.getD_some] at hbalanced
  rw [hsku]
  exact ⟨row, hbalanced, hrow, hfinish⟩

theorem consistent_of_finish (ht : t.Balanced) (h : t.finish = .ok (totals, rows)) :
    ∀ r ∈ rows, r.Consistent := by
  intro r hr
  obtain ⟨row, hbalanced, -, hfinish⟩ := exists_row_of_finish ht h hr
  rw [(MutablePostingSalesRow.finish_eq_ok.mp hfinish).2.2]
  exact ⟨(hbalanced.statuses .fbo).trans (Nat.add_comm _ _),
    (hbalanced.statuses .fbs).trans (Nat.add_comm _ _)⟩

/-- A class of the rows adds up to its total. -/
theorem sum_class_of_finish (scheme : PostingScheme) (cancelled : Bool) (ht : t.Balanced)
    (h : t.finish = .ok (totals, rows)) {f : PostingSalesRow → ℕ}
    (hf : ∀ (row : MutablePostingSalesRow) sku r, row.finish sku = .ok r → f r = row.units scheme cancelled) :
    t.totals.units scheme cancelled = (rows.map f).sum := by
  obtain ⟨-, -, hrows, -⟩ := finish_eq_ok.mp h
  have hmap : rows.map f = t.rows.toList.map fun e => e.2.units scheme cancelled :=
    map_of_mapM (fun e r he => hf e.2 e.1 r he) hrows
  rw [ht.units, hmap]
  rfl

theorem sum_both_of_finish (cancelled : Bool) (ht : t.Balanced) (h : t.finish = .ok (totals, rows))
    {f : PostingSalesRow → ℕ} (hf : ∀ (row : MutablePostingSalesRow) sku r, row.finish sku = .ok r →
      f r = row.units .fbo cancelled + row.units .fbs cancelled) :
    t.totals.units .fbo cancelled + t.totals.units .fbs cancelled = (rows.map f).sum := by
  obtain ⟨-, -, hrows, -⟩ := finish_eq_ok.mp h
  have hmap : rows.map f = t.rows.toList.map fun e => e.2.units .fbo cancelled + e.2.units .fbs cancelled :=
    map_of_mapM (fun e r he => hf e.2 e.1 r he) hrows
  rw [ht.units, ht.units, hmap, List.sum_map_add]
  rfl

theorem sumOf_of_finish (ht : t.Balanced) (h : t.finish = .ok (totals, rows)) : totals.SumOf rows := by
  have hrow := fun (row : MutablePostingSalesRow) sku r (hr : row.finish sku = .ok r) =>
    (MutablePostingSalesRow.finish_eq_ok.mp hr).2.2
  have htotals := (finish_eq_ok.mp h).2.2.2
  subst htotals
  exact {
    fboNonCancelled := sum_class_of_finish .fbo false ht h fun _ _ _ hr => by rw [hrow _ _ _ hr]; rfl
    fbsNonCancelled := sum_class_of_finish .fbs false ht h fun _ _ _ hr => by rw [hrow _ _ _ hr]; rfl
    totalNonCancelled := sum_both_of_finish false ht h fun _ _ _ hr => by rw [hrow _ _ _ hr]; rfl
    fboCancelled := sum_class_of_finish .fbo true ht h fun _ _ _ hr => by rw [hrow _ _ _ hr]; rfl
    fbsCancelled := sum_class_of_finish .fbs true ht h fun _ _ _ hr => by rw [hrow _ _ _ hr]; rfl
    totalCancelled := sum_both_of_finish true ht h fun _ _ _ hr => by rw [hrow _ _ _ hr]; rfl }

end Finish

theorem summarize_eq_ok {pages : List PostingPage} {result : PostingSalesTotals × List PostingSalesRow} :
    summarize pages = .ok result ↔ ∃ t, absorbPages pages {} = (.ok (), t) ∧ t.finish = .ok result := by
  unfold summarize
  rcases absorbPages pages {} with ⟨e | u, t⟩
  · simp
  · simp

/-- **Units are conserved**: over pages of both schemes no posting is counted twice, the statuses of every row
account for its units, the totals are the sums of the rows and the numbers of postings, and any other order of
the pages and of the postings on them gives the same totals and rows. -/
theorem posting_units_conserved {pages : List PostingPage} {totals : PostingSalesTotals}
    {rows : List PostingSalesRow} (h : summarize pages = .ok (totals, rows)) :
    (postingKeys pages).Nodup ∧ (∀ row ∈ rows, row.Consistent) ∧ totals.SumOf rows ∧
      (∀ scheme, totals.postings scheme = (postingKeys pages).countP fun key => key.1 = scheme) ∧
      ∀ pages', Reordered pages pages' → summarize pages' = .ok (totals, rows) := by
  obtain ⟨t, habsorb, hfinish⟩ := summarize_eq_ok.mp h
  obtain ⟨reads, -, ht, -⟩ := absorbPages_eq_ok.mp habsorb
  have hbalanced : t.Balanced := by
    rw [ht]
    exact balanced_empty.foldl _
  obtain ⟨hnodup, hcount⟩ := postings_counted habsorb
  refine ⟨hnodup, consistent_of_finish hbalanced hfinish, sumOf_of_finish hbalanced hfinish, fun scheme => ?_,
    fun pages' hreordered => ?_⟩
  · rw [← hcount, (finish_eq_ok.mp hfinish).2.2.2]
    cases scheme <;> rfl
  · exact summarize_eq_ok.mpr ⟨t, absorbPages_reordered hreordered habsorb, hfinish⟩

/-- A product of a posting. -/
def productOf (sku quantity : String) : Document :=
  .object [("sku", .number sku), ("quantity", .string quantity)]

/-- A posting as a document. -/
def postingOf (number status : String) (products : List Document) : Document :=
  .object [("posting_number", .string number), ("status", .string status), ("products", .array products)]

/-- The last page of a scheme. -/
def lastPageOf (postings : List Document) : Document :=
  .object [("postings", .array postings), ("has_next", .bool false), ("cursor", .string "")]

/-- Two pages, one of each scheme, with the same posting number. -/
def twoPages : List PostingPage :=
  [(.fbo, lastPageOf [postingOf "p-1" "delivered" [productOf "7" "2", productOf "8" "3"],
    postingOf "p-2" "cancelled" [productOf "7" "1"]]),
    (.fbs, lastPageOf [postingOf "p-1" "awaiting_deliver" [productOf "7" "4"]])]

/-- The same pages from the last to the first. -/
def twoPagesReversed : List PostingPage :=
  [(.fbs, lastPageOf [postingOf "p-1" "awaiting_deliver" [productOf "7" "4"]]),
    (.fbo, lastPageOf [postingOf "p-2" "cancelled" [productOf "7" "1"],
      postingOf "p-1" "delivered" [productOf "7" "2", productOf "8" "3"]])]

theorem posting_units_conserved_two_pages : ∃ totals rows, summarize twoPages = .ok (totals, rows) ∧
    totals.SumOf rows ∧ (∀ row ∈ rows, row.Consistent) ∧ totals.postings .fbo = 2 ∧
    summarize twoPagesReversed = .ok (totals, rows) := by
  have hok : (summarize twoPages).toOption.isSome = true := by decide +kernel
  have hreordered : Reordered twoPages twoPagesReversed := by
    refine ⟨_, .swap _ _ _, .cons ⟨rfl, ⟨_, _, rfl, rfl, .refl _⟩, fun _ _ => rfl⟩
      (.cons ⟨rfl, ⟨_, _, rfl, rfl, .swap _ _ _⟩, fun name hname => ?_⟩ .nil)⟩
    have hother : (name == "postings") = false := beq_false_of_ne hname
    simp [Document.get, Document.asObject, lastPageOf, List.lookup_cons, hother]
  cases h : summarize twoPages with
  | error e =>
    rw [h] at hok
    cases hok
  | ok result =>
    obtain ⟨totals, rows⟩ := result
    obtain ⟨-, hrows, htotals, hpostings, hothers⟩ := posting_units_conserved h
    exact ⟨totals, rows, rfl, htotals, hrows, (hpostings .fbo).trans (by decide +kernel),
      hothers _ hreordered⟩

end AdsControl.Ozon
