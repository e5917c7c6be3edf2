import AdsControl.Ozon.PostingSales

/-!
# The books of posting sales

What a sequence of pages says is a list of entries: a posting seen, or units of a product sold under a
status. The accumulator of pages that were all absorbed is the one that books these entries, and entries may
be booked in any order.

* `PostingEntry`, `PostingSalesAccumulator.book`: an entry and its effect on every counter;
* **`PostingSalesAccumulator.book_comm`**: the order of two entries does not matter;
* `PostingSalesAccumulator.Balanced`: what every booked accumulator satisfies;
* `PostingSalesAccumulator.Bounded`: what the checks keep; `Bounded.of_book`: what is not too much after an
  entry was not too much before.
-/

namespace AdsControl.Ozon

open Fallible Machine OrderedMap Receiver Std Tally

/-! ## Rows and totals -/

/-- The units of one product on a posting. -/
structure PostingSale where
  scheme : PostingScheme
  status : String
  sku : ℕ
  quantity : ℕ

/-- The sale was cancelled. -/
def PostingSale.cancelled (sale : PostingSale) : Bool := sale.status == "cancelled"

/-- Units of a status. -/
def addStatus (units : ℕ) (entry : String × ℕ) : ℕ := units + entry.2

/-- The counters of the statuses. -/
def recordStatus (units : ExtTreeMap String ℕ) (status : String) (quantity : ℕ) : ExtTreeMap String ℕ :=
  gather Prod.fst 0 addStatus units (status, quantity)

/-- All units of a map of statuses. -/
def statusTotal (units : ExtTreeMap String ℕ) : ℕ := total id units

@[simp] theorem statusTotal_empty : statusTotal ∅ = 0 := total_empty id

theorem statusTotal_recordStatus (units : ExtTreeMap String ℕ) (status : String) (quantity : ℕ) :
    statusTotal (recordStatus units status quantity) = statusTotal units + quantity := by
  have hadd : ∀ (n : ℕ) (entry : String × ℕ), id (addStatus n entry) = id n + entry.2 := fun _ _ => rfl
  exact total_gather id (id_eq 0) hadd (status, quantity)

theorem getD_recordStatus (units : ExtTreeMap String ℕ) (status status' : String) (quantity : ℕ) :
    (recordStatus units status quantity)[status']?.getD 0 =
      units[status']?.getD 0 + if status = status' then quantity else 0 := by
  rw [recordStatus, getD_gather]
  split_ifs <;> rfl

theorem recordStatus_comm (units : ExtTreeMap String ℕ) (status status' : String) (quantity quantity' : ℕ) :
    recordStatus (recordStatus units status quantity) status' quantity' =
      recordStatus (recordStatus units status' quantity') status quantity :=
  have hadd : ∀ n e e', addStatus (addStatus n e) e' = addStatus (addStatus n e') e :=
    fun n e e' => Nat.add_right_comm n e.2 e'.2
  gather_comm hadd units (status, quantity) (status', quantity')

namespace MutablePostingSalesRow

variable (row : MutablePostingSalesRow) (scheme scheme' : PostingScheme) (cancelled cancelled' : Bool)

@[ext] theorem ext_units {row row' : MutablePostingSalesRow}
    (hunits : ∀ scheme cancelled, row.units scheme cancelled = row'.units scheme cancelled)
    (hstatus : ∀ scheme, row.byStatus scheme = row'.byStatus scheme) : row = row' := by
  obtain ⟨a, b, c, d, m, m'⟩ := row
  obtain ⟨a', b', c', d', n, n'⟩ := row'
  obtain rfl : a = a' := hunits .fbo false
  obtain rfl : b = b' := hunits .fbs false
  obtain rfl : c = c' := hunits .fbo true
  obtain rfl : d = d' := hunits .fbs true
  obtain rfl : m = n := hstatus .fbo
  obtain rfl : m' = n' := hstatus .fbs
  rfl

@[simp] theorem units_setUnits (n : ℕ) : (row.setUnits n scheme cancelled).units scheme' cancelled' =
    if scheme = scheme' ∧ cancelled = cancelled' then n else row.units scheme' cancelled' := by
  cases scheme <;> cases scheme' <;> cases cancelled <;> cases cancelled' <;> rfl

@[simp] theorem byStatus_setUnits (n : ℕ) :
    (row.setUnits n scheme cancelled).byStatus scheme' = row.byStatus scheme' := by
  cases scheme <;> cases scheme' <;> cases cancelled <;> rfl

@[simp] theorem units_setByStatus (units : ExtTreeMap String ℕ) :
    (row.setByStatus units scheme).units scheme' cancelled' = row.units scheme' cancelled' := by
  cases scheme <;> cases scheme' <;> cases cancelled' <;> rfl

@[simp] theorem byStatus_setByStatus (units : ExtTreeMap String ℕ) :
    (row.setByStatus units scheme).byStatus scheme' =
      if scheme = scheme' then units else row.byStatus scheme' := by
  cases scheme <;> cases scheme' <;> rfl

/-- Count a sale in the row of its product. -/
def record (row : MutablePostingSalesRow) (sale : PostingSale) : MutablePostingSalesRow :=
  let units := row.units sale.scheme sale.cancelled + sale.quantity
  (row.setUnits units sale.scheme sale.cancelled).setByStatus
    (recordStatus (row.byStatus sale.scheme) sale.status sale.quantity) sale.scheme

variable (sale sale' : PostingSale)

theorem units_record : (row.record sale).units scheme cancelled = row.units scheme cancelled +
    if sale.scheme = scheme ∧ sale.cancelled = cancelled then sale.quantity else 0 := by
  rw [record, units_setByStatus, units_setUnits]
  split_ifs with h
  · rw [← h.1, ← h.2]
  · rfl

theorem byStatus_record : (row.record sale).byStatus scheme =
    if sale.scheme = scheme then recordStatus (row.byStatus scheme) sale.status sale.quantity
    else row.byStatus scheme := by
  rw [record, byStatus_setByStatus, byStatus_setUnits]
  split_ifs with h
  · rw [h]
  · rfl

theorem record_comm : (row.record sale).record sale' = (row.record sale').record sale := by
  refine ext_units (fun scheme cancelled => ?_) fun scheme => ?_
  · simp only [units_record]
    exact Nat.add_right_comm _ _ _
  · simp only [byStatus_record]
    split_ifs
    · exact recordStatus_comm _ _ _ _ _
    all_goals rfl

end MutablePostingSalesRow

namespace PostingSalesTotals

variable (totals : PostingSalesTotals) (scheme scheme' : PostingScheme) (cancelled cancelled' : Bool) (n : ℕ)

/-- The counters that are raised while pages are absorbed, and the two sums of the end. -/
theorem ext_units {totals totals' : PostingSalesTotals}
    (hunits : ∀ scheme cancelled, totals.units scheme cancelled = totals'.units scheme cancelled)
    (hpostings : ∀ scheme, totals.postings scheme = totals'.postings scheme)
    (hsums : totals.totalNonCancelledUnits = totals'.totalNonCancelledUnits ∧
      totals.totalCancelledUnits = totals'.totalCancelledUnits) : totals = totals' := by
  obtain ⟨p, q, a, b, e, c, d, f⟩ := totals
  obtain ⟨p', q', a', b', e', c', d', f'⟩ := totals'
  obtain rfl : p = p' := hpostings .fbo
  obtain rfl : q = q' := hpostings .fbs
  obtain rfl : a = a' := hunits .fbo false
  obtain rfl : b = b' := hunits .fbs false
  obtain rfl : c = c' := hunits .fbo true
  obtain rfl : d = d' := hunits .fbs true
  obtain ⟨rfl, rfl⟩ : e = e' ∧ f = f' := hsums
  rfl

/-- Count units. -/
def addUnits (totals : PostingSalesTotals) (scheme : PostingScheme) (cancelled : Bool) (n : ℕ) :
    PostingSalesTotals :=
  totals.setUnits (totals.units scheme cancelled + n) scheme cancelled

/-- Count a posting. -/
def addPosting (totals : PostingSalesTotals) (scheme : PostingScheme) : PostingSalesTotals :=
  totals.setPostings (totals.postings scheme + 1) scheme

@[simp] theorem units_addUnits : (totals.addUnits scheme cancelled n).units scheme' cancelled' =
    totals.units scheme' cancelled' + if scheme = scheme' ∧ cancelled = cancelled' then n else 0 := by
  cases scheme <;> cases scheme' <;> cases cancelled <;> cases cancelled' <;> rfl

@[simp] theorem postings_addUnits :
    (totals.addUnits scheme cancelled n).postings scheme' = totals.postings scheme' := by
  cases scheme <;> cases scheme' <;> cases cancelled <;> rfl

@[simp] theorem units_addPosting :
    (totals.addPosting scheme).units scheme' cancelled' = totals.units scheme' cancelled' := by
  cases scheme <;> cases scheme' <;> cases cancelled' <;> rfl

@[simp] theorem postings_addPosting : (totals.addPosting scheme).postings scheme' =
    totals.postings scheme' + if scheme = scheme' then 1 else 0 := by
  cases scheme <;> cases scheme' <;> rfl

@[simp] theorem sums_addUnits :
    (totals.addUnits scheme cancelled n).totalNonCancelledUnits = totals.totalNonCancelledUnits ∧
      (totals.addUnits scheme cancelled n).totalCancelledUnits = totals.totalCancelledUnits := by
  cases scheme <;> cases cancelled <;> exact ⟨rfl, rfl⟩

@[simp] theorem sums_addPosting :
    (totals.addPosting scheme).totalNonCancelledUnits = totals.totalNonCancelledUnits ∧
      (totals.addPosting scheme).totalCancelledUnits = totals.totalCancelledUnits := by
  cases scheme <;> exact ⟨rfl, rfl⟩

end PostingSalesTotals

/-! ## Entries -/

/-- One entry of the books. -/
inductive PostingEntry
  | posting (scheme : PostingScheme) (number : String)
  | sale (sale : PostingSale)

namespace PostingSalesAccumulator

/-- The effect of an entry on every counter. -/
def book (self : PostingSalesAccumulator) : PostingEntry → PostingSalesAccumulator
  | .posting scheme number =>
    { self with
      seenPostings := insert (scheme, number) self.seenPostings
      totals := self.totals.addPosting scheme }
  | .sale sale =>
    { self with
      rows := gather PostingSale.sku {} MutablePostingSalesRow.record self.rows sale
      totals := self.totals.addUnits sale.scheme sale.cancelled sale.quantity }

/-- **The order of two entries does not matter.** -/
theorem book_comm (self : PostingSalesAccumulator) (e e' : PostingEntry) :
    (self.book e).book e' = (self.book e').book e := by
  cases e with
  | posting scheme number =>
    cases e' with
    | posting scheme' number' =>
      simp only [book, mk.injEq, true_and]
      refine ⟨Finset.insert_comm _ _ _, PostingSalesTotals.ext_units (by simp) (fun s => ?_) (by simp)⟩
      simp only [PostingSalesTotals.postings_addPosting, Nat.add_right_comm]
    | sale sale =>
      simp only [book, mk.injEq, true_and]
      exact PostingSalesTotals.ext_units (by simp) (by simp) (by simp)
  | sale sale =>
    cases e' with
    | posting scheme' number' =>
      simp only [book, mk.injEq, true_and]
      exact PostingSalesTotals.ext_units (by simp) (by simp) (by simp)
    | sale sale' =>
      simp only [book, mk.injEq, true_and]
      refine ⟨gather_comm MutablePostingSalesRow.record_comm _ _ _,
        PostingSalesTotals.ext_units (fun s c => ?_) (by simp) (by simp)⟩
      simp only [PostingSalesTotals.units_addUnits, Nat.add_right_comm]

end PostingSalesAccumulator

/-! ## What is always true of the books -/

/-- The statuses of a row share out its units. -/
structure MutablePostingSalesRow.Balanced (row : MutablePostingSalesRow) : Prop where
  statuses : ∀ scheme, statusTotal (row.byStatus scheme) = row.units scheme false + row.units scheme true
  cancelled : ∀ scheme, (row.byStatus scheme)["cancelled"]?.getD 0 = row.units scheme true
  status_le : ∀ scheme (status : String),
    (row.byStatus scheme)[status]?.getD 0 ≤ row.units scheme (status == "cancelled")

namespace MutablePostingSalesRow

theorem balanced_empty : ({} : MutablePostingSalesRow).Balanced where
  statuses scheme := by cases scheme <;> exact statusTotal_empty
  cancelled scheme := by cases scheme <;> simp [byStatus, units]
  status_le scheme status := by cases scheme <;> simp [byStatus]

theorem Balanced.record {row : MutablePostingSalesRow} (h : row.Balanced) (sale : PostingSale) :
    (row.record sale).Balanced where
  statuses scheme := by
    have hrow := h.statuses scheme
    rw [byStatus_record, units_record, units_record]
    by_cases hscheme : sale.scheme = scheme
    · rw [if_pos hscheme, statusTotal_recordStatus]
      cases sale.cancelled <;> simp [hscheme] <;> omega
    · simp [hscheme, hrow]
  cancelled scheme := by
    have hrow := h.cancelled scheme
    rw [byStatus_record, units_record]
    by_cases hscheme : sale.scheme = scheme
    · rw [if_pos hscheme, getD_recordStatus, hrow]
      simp [hscheme, PostingSale.cancelled]
    · simp [hscheme, hrow]
  status_le scheme status := by
    have hrow := h.status_le scheme status
    rw [byStatus_record, units_record]
    by_cases hscheme : sale.scheme = scheme
    · rw [if_pos hscheme, getD_recordStatus]
      by_cases hstatus : sale.status = status
      · simpa [hscheme, hstatus, PostingSale.cancelled] using hrow
      · rw [if_neg hstatus]
        omega
    · rw [if_neg hscheme]
      omega

end MutablePostingSalesRow

namespace PostingSalesAccumulator

variable {self t : PostingSalesAccumulator}

theorem row_book_sale (self : PostingSalesAccumulator) (sale : PostingSale) (sku : ℕ) :
    (self.book (.sale sale)).row sku =
      if sale.sku = sku then (self.row sku).record sale else self.row sku :=
  getD_gather sale

/-- Every row is balanced, the totals are those of the rows, and every posting seen was counted. -/
structure Balanced (s : PostingSalesAccumulator) : Prop where
  row : ∀ sku, (s.row sku).Balanced
  units : ∀ scheme cancelled, s.totals.units scheme cancelled =
    total (fun row : MutablePostingSalesRow => row.units scheme cancelled) s.rows
  seen : s.seenPostings.card ≤ s.totals.postings .fbo + s.totals.postings .fbs

theorem balanced_empty : ({} : PostingSalesAccumulator).Balanced where
  row sku := by simpa [PostingSalesAccumulator.row] using MutablePostingSalesRow.balanced_empty
  units scheme cancelled := by
    rw [total_empty]
    cases scheme <;> cases cancelled <;> rfl
  seen := Nat.zero_le _

theorem Balanced.book (h : self.Balanced) (e : PostingEntry) : (self.book e).Balanced := by
  cases e with
  | posting scheme number =>
    refine ⟨h.row, fun scheme cancelled => ?_, ?_⟩
    · exact (PostingSalesTotals.units_addPosting _ _ _ _).trans (h.units scheme cancelled)
    · have hcard := Finset.card_insert_le (scheme, number) self.seenPostings
      have hseen := h.seen
      simp only [PostingSalesAccumulator.book, PostingSalesTotals.postings_addPosting]
      cases scheme <;> simp <;> omega
  | sale sale =>
    refine ⟨fun sku => ?_, fun scheme cancelled => ?_, ?_⟩
    · rw [row_book_sale]
      split_ifs
      · exact (h.row sku).record sale
      · exact h.row sku
    · have hempty : ({} : MutablePostingSalesRow).units scheme cancelled = 0 := by
        cases scheme <;> cases cancelled <;> rfl
      simp only [PostingSalesAccumulator.book, PostingSalesTotals.units_addUnits, h.units]
      exact (total_gather (fun row : MutablePostingSalesRow => row.units scheme cancelled) hempty
        (fun row sale => row.units_record scheme cancelled sale) sale).symm
    · exact h.seen.trans_eq (by simp [PostingSalesAccumulator.book])

/-- What the checks keep: few products, no counter too large and every posting counted seen once. -/
structure Bounded (s : PostingSalesAccumulator) : Prop where
  size : s.rows.size ≤ maxAggregatedSkus
  units : ∀ scheme cancelled, s.totals.units scheme cancelled < 2 ^ 64
  postings : ∀ scheme, s.totals.postings scheme < 2 ^ 64
  seen : s.totals.postings .fbo + s.totals.postings .fbs ≤ s.seenPostings.card

theorem bounded_empty : ({} : PostingSalesAccumulator).Bounded where
  size := by simp
  units scheme cancelled := by cases scheme <;> cases cancelled <;> decide
  postings scheme := by cases scheme <;> decide
  seen := Nat.le_refl 0

theorem Bounded.of_book {e : PostingEntry} (h : (self.book e).Bounded) : self.Bounded := by
  have hunits := h.units
  have hpostings := h.postings
  have hseen := h.seen
  cases e with
  | posting scheme number =>
    have hcard := Finset.card_insert_le (scheme, number) self.seenPostings
    simp only [book, PostingSalesTotals.units_addPosting, PostingSalesTotals.postings_addPosting] at *
    refine ⟨h.size, hunits, fun scheme' => ?_, ?_⟩
    · exact (Nat.le_add_right _ _).trans_lt (hpostings scheme')
    · cases scheme <;> simp at hseen <;> omega
  | sale sale =>
    simp only [book, PostingSalesTotals.units_addUnits, PostingSalesTotals.postings_addUnits] at *
    exact ⟨ExtTreeMap.size_le_size_insert.trans h.size,
      fun scheme cancelled => (Nat.le_add_right _ _).trans_lt (hunits scheme cancelled), hpostings, hseen⟩

theorem Bounded.of_foldl {entries : List PostingEntry} (h : (entries.foldl book self).Bounded) :
    self.Bounded := by
  induction entries generalizing self with
  | nil => exact h
  | cons e entries ih => exact (ih h).of_book

/-- A row has at most the total of its class. -/
theorem Balanced.units_row_le (h : self.Balanced) (sku : ℕ) (scheme : PostingScheme) (cancelled : Bool) :
    (self.row sku).units scheme cancelled ≤ self.totals.units scheme cancelled := by
  rw [h.units, PostingSalesAccumulator.row]
  cases hrow : self.rows[sku]? with
  | none =>
    have hempty : ({} : MutablePostingSalesRow).units scheme cancelled = 0 := by
      cases scheme <;> cases cancelled <;> rfl
    exact hempty.trans_le (Nat.zero_le _)
  | some row => exact le_total (fun row : MutablePostingSalesRow => row.units scheme cancelled) hrow

theorem Balanced.foldl (h : self.Balanced) (entries : List PostingEntry) :
    (entries.foldl PostingSalesAccumulator.book self).Balanced := by
  induction entries generalizing self with
  | nil => exact h
  | cons e entries ih => exact ih (h.book e)

end PostingSalesAccumulator

/-! ## What the rows hold -/

/-- The sale of an entry. -/
def PostingEntry.sale? : PostingEntry → Option PostingSale
  | .posting _ _ => none
  | .sale item => some item

theorem rows_foldl_book (entries : List PostingEntry) (s : PostingSalesAccumulator) :
    (entries.foldl PostingSalesAccumulator.book s).rows =
      (entries.filterMap PostingEntry.sale?).foldl
        (gather PostingSale.sku {} MutablePostingSalesRow.record) s.rows := by
  induction entries generalizing s with
  | nil => rfl
  | cons e entries ih =>
    rw [List.foldl_cons, ih]
    cases e with
    | posting scheme number =>
      rw [List.filterMap_cons_none (f := PostingEntry.sale?) rfl]
      rfl
    | sale sale =>
      rw [List.filterMap_cons_some (f := PostingEntry.sale?) rfl]
      rfl

/-- The units of a list of sales. -/
def unitsOf (sales : List PostingSale) : ℕ := (sales.map PostingSale.quantity).sum

namespace MutablePostingSalesRow

variable (sales : List PostingSale) (row : MutablePostingSalesRow) (scheme : PostingScheme)

theorem units_foldl_record (cancelled : Bool) : (sales.foldl record row).units scheme cancelled =
    row.units scheme cancelled +
      unitsOf (sales.filter fun sale => sale.scheme = scheme ∧ sale.cancelled = cancelled) := by
  induction sales generalizing row with
  | nil => rfl
  | cons sale sales ih =>
    rw [List.foldl_cons, ih, units_record]
    by_cases h : sale.scheme = scheme ∧ sale.cancelled = cancelled
    · rw [if_pos h, List.filter_cons_of_pos (by simpa using h), unitsOf, unitsOf, List.map_cons, List.sum_cons,
        Nat.add_assoc]
    · rw [if_neg h, List.filter_cons_of_neg (by simpa using h), Nat.add_zero]

theorem isSome_byStatus_foldl_record (status : String) :
    ((sales.foldl record row).byStatus scheme)[status]?.isSome = true ↔
      (∃ sale ∈ sales, sale.scheme = scheme ∧ sale.status = status) ∨
        (row.byStatus scheme)[status]?.isSome = true := by
  induction sales generalizing row with
  | nil => simp
  | cons sale sales ih =>
    rw [List.foldl_cons, ih, byStatus_record, List.exists_mem_cons_iff]
    by_cases h : sale.scheme = scheme
    · rw [if_pos h, recordStatus, isSome_gather]
      simp only [h, true_and]
      exact or_assoc.symm.trans (or_congr_left or_comm)
    · simp only [h, if_false, false_and, false_or]

end MutablePostingSalesRow

end AdsControl.Ozon
