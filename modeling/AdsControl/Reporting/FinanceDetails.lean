import AdsControl.Lib.Decimal
import AdsControl.Lib.DigitText
import AdsControl.Reporting.WbFinance

/-!
# Exact finance details

Amounts come as decimal text and are kept exactly; the rows come in pages that are walked by the identifier
of the last row.

* `parseDecimal`, `DecimalText`: the reader of amounts and the texts it accepts;
* `walk`: the requests of a walk and what they brought;
* **`finance_details_exact`**: amounts are read exactly, stored coefficients are read back, and the collected
  rows are the pages of one walk up to its end, within the bound on requests.
-/

namespace AdsControl.Reporting

open DigitText Fallible Interaction Machine

/-! ## Decimal text -/

/-- The longest amount in bytes. -/
def maxDecimalBytes : ℕ := 32

/-- The text without a leading minus sign, and whether there was one. -/
def stripMinus (text : List Char) : Bool × List Char :=
  if text.head? = some '-' then (true, text.tail) else (false, text)

/-- The digits as a nonnegative value of 128 bits with a sign. -/
def unsignedUnits (digits : List Char) : Except WbReportSourceError { n : ℕ // n < 2 ^ 127 } :=
  match h : checkedDigits 127 digits with
  | none => .error .invalidResponse
  | some n => .ok ⟨n, (checkedDigits_eq_some.mp h).2⟩

/-- The units with their sign. -/
def signedUnits (negative : Bool) (n : { n : ℕ // n < 2 ^ 127 }) : Coefficient :=
  ⟨if negative then -n else n, by
    obtain ⟨n, hn⟩ := n
    have hlt : (n : ℤ) < 2 ^ 127 := by exact_mod_cast hn
    split_ifs <;> constructor <;> simp only <;> omega⟩

/-- The reader of amounts. -/
def parseDecimal (raw : String) : Except WbReportSourceError WbFinanceDecimal := do
  ensure (raw.utf8ByteSize ≠ 0 ∧ raw.utf8ByteSize ≤ maxDecimalBytes) .invalidResponse
  let (negative, unsigned) := stripMinus raw.toList
  let (whole, fraction) := (splitOnce '.' unsigned).getD (unsigned, [])
  ensure (whole ≠ [] ∧ ¬ (1 < byteSize whole ∧ whole.head? = some '0') ∧
    ¬ ('.' ∈ unsigned ∧ fraction = []) ∧ (whole ++ fraction).all Char.isDigit) .invalidResponse
  let scale ← context (tryFrom 32 (byteSize fraction)) .invalidResponse
  ensure (scale ≤ maxDecimalScale) .invalidResponse
  let units ← unsignedUnits (whole ++ fraction)
  return ⟨signedUnits negative units, scale⟩

/-- The minus sign of a negative number. -/
def sign (negative : Bool) : List Char := if negative then ['-'] else []

/-- No leading zero, and digits after a point: one to eighteen of them. -/
structure Canonical (x : Numeral) : Prop where
  whole : x.whole = ['0'] ∨ x.whole.head? ≠ some '0'
  fraction : x.fraction ≠ some []
  places : x.places.length ≤ maxDecimalScale

/-- **The texts of an amount**: at most 32 bytes, an optional minus sign and a numeral without a leading zero
whose point is followed by one to eighteen digits; the amount is the number denoted, with the digits after
the point as its scale. -/
def DecimalText (raw : String) (amount : WbFinanceDecimal) : Prop :=
  1 ≤ raw.utf8ByteSize ∧ raw.utf8ByteSize ≤ maxDecimalBytes ∧
    ∃ (negative : Bool) (x : Numeral), raw.toList = sign negative ++ x.text ∧ Canonical x ∧
      amount.scale = x.places.length ∧
      (amount.units.val : ℚ) / 10 ^ amount.scale = if negative then -x.value else x.value

theorem stripMinus_text (negative : Bool) (x : Numeral) : stripMinus (sign negative ++ x.text) = (negative, x.text) := by
  cases negative with
  | true => rfl
  | false =>
    have hhead : x.text.head? ≠ some '-' := by
      intro h
      rw [Numeral.text, List.head?_append_of_ne_nil _ x.whole_ne_nil] at h
      exact ne_of_isDigit (List.all_eq_true.mp x.whole_digits _ (List.mem_of_head? h)) (by decide) rfl
    exact if_neg hhead

theorem eq_of_stripMinus (text : List Char) : text = sign (stripMinus text).1 ++ (stripMinus text).2 := by
  unfold stripMinus
  split_ifs with h
  · exact (List.cons_head?_tail h).symm
  · rfl

theorem signedUnits_val (negative : Bool) (n : { n : ℕ // n < 2 ^ 127 }) :
    (signedUnits negative n).val = if negative then -(n.val : ℤ) else n.val := rfl

theorem unsignedUnits_eq {digits : List Char} (h : DigitText.value digits < 2 ^ 127) :
    unsignedUnits digits = .ok ⟨DigitText.value digits, h⟩ := by
  have hread : checkedDigits 127 digits = some (DigitText.value digits) :=
    checkedDigits_eq_some.mpr ⟨rfl, h⟩
  unfold unsignedUnits
  split
  · next hnone => rw [hnone] at hread; cases hread
  · next n hn =>
    have hvalue : n = DigitText.value digits := Option.some.inj (hn.symm.trans hread)
    simp [hvalue]

theorem value_lt_of_length {digits : List Char} (hdigits : digits.all Char.isDigit)
    (hlength : digits.length ≤ maxDecimalBytes) : DigitText.value digits < 2 ^ 127 := by
  have hvalue : DigitText.value digits < 10 ^ digits.length := value_lt_pow hdigits
  have hpow : 10 ^ digits.length ≤ 10 ^ 32 := Nat.pow_le_pow_right (by decide) hlength
  have hfits : 10 ^ 32 < 2 ^ 127 := by decide
  omega

section Texts

variable {raw : String} {negative : Bool} {x : Numeral} {amount : WbFinanceDecimal}

theorem all_digits (x : Numeral) : (x.whole ++ x.places).all Char.isDigit := by
  rw [List.all_append, x.whole_digits]
  exact x.fraction_digits

theorem digits_length_le (hraw : raw.toList = sign negative ++ x.text) :
    (x.whole ++ x.places).length ≤ raw.utf8ByteSize := by
  have hsize : byteSize raw.toList = byteSize (sign negative) + byteSize x.text := by
    rw [hraw, byteSize_append]
  have htext : (x.whole ++ x.places).length ≤ x.text.length := by
    rw [Numeral.text, Numeral.places, List.length_append, List.length_append]
    cases x.fraction <;> simp
  rw [byteSize_toList, x.byteSize_text] at hsize
  omega

/-- **The overflow branch is never taken**: every text within the bounds is read. -/
theorem parseDecimal_text (hsize : 1 ≤ raw.utf8ByteSize ∧ raw.utf8ByteSize ≤ maxDecimalBytes)
    (hraw : raw.toList = sign negative ++ x.text) (hx : Canonical x) :
    ∃ n : { n : ℕ // n < 2 ^ 127 }, n.val = DigitText.value (x.whole ++ x.places) ∧
      parseDecimal raw = .ok ⟨signedUnits negative n, x.places.length⟩ := by
  have hdigits := all_digits x
  have hunits := value_lt_of_length hdigits ((digits_length_le hraw).trans hsize.2)
  refine ⟨⟨_, hunits⟩, rfl, ?_⟩
  have hplaces : byteSize x.places = x.places.length := byteSize_digits x.fraction_digits
  have hscale : tryFrom 32 (byteSize x.places) = some x.places.length := by
    have hsmall : (18 : ℕ) < 2 ^ 32 := by decide
    have hle : x.places.length ≤ 18 := hx.places
    rw [tryFrom_eq_some, hplaces]
    exact ⟨rfl, by omega⟩
  have hzero : ¬ (1 < byteSize x.whole ∧ x.whole.head? = some '0') := by
    rintro ⟨hlong, hhead⟩
    obtain hwhole | hwhole := hx.whole
    · rw [hwhole] at hlong
      exact absurd hlong (by decide)
    · exact hwhole hhead
  have hpoint : ¬ ('.' ∈ x.text ∧ x.places = []) := by
    rintro ⟨hmem, hempty⟩
    have hsome : x.fraction ≠ none := by
      intro hnone
      have hparts : (parts x.text).2 = none := by rw [parts_text, hnone]
      exact parts_snd_eq_none.mp hparts hmem
    obtain ⟨fraction, hfraction⟩ := Option.ne_none_iff_exists'.mp hsome
    rw [Numeral.places, hfraction, Option.getD_some] at hempty
    exact hx.fraction (hfraction.trans (congrArg some hempty))
  have hsplit : (splitOnce '.' x.text).getD (x.text, []) = (x.whole, x.places) := by
    rw [splitOnce_getD, parts_text]
    rfl
  simp only [parseDecimal, ok_of_bind, ensure_eq_ok, hraw, stripMinus_text, hsplit, context_eq_ok, hscale]
  exact ⟨(), ⟨by omega, hsize.2⟩, (), ⟨x.whole_ne_nil, hzero, hpoint, hdigits⟩, _, rfl, (), hx.places, _,
    unsignedUnits_eq hunits, rfl⟩

/-- What is read was written as a numeral. -/
theorem exists_text_of_parseDecimal (h : parseDecimal raw = .ok amount) :
    (1 ≤ raw.utf8ByteSize ∧ raw.utf8ByteSize ≤ maxDecimalBytes) ∧
      ∃ (negative : Bool) (x : Numeral), raw.toList = sign negative ++ x.text ∧ Canonical x := by
  simp only [parseDecimal, ok_of_bind, ensure_eq_ok, context_eq_ok, splitOnce_getD] at h
  obtain ⟨_, hsize, _, hparts, scale, hscale, _, hmax, _⟩ := h
  obtain ⟨hne, hzero, hpoint, hdigits⟩ := hparts
  rw [List.all_append, Bool.and_eq_true] at hdigits
  refine ⟨⟨Nat.one_le_iff_ne_zero.mpr hsize.1, hsize.2⟩, (stripMinus raw.toList).1,
    ⟨_, _, hne, hdigits.1, hdigits.2⟩, ?_, ?_, ?_, ?_⟩
  · conv_lhs => rw [eq_of_stripMinus raw.toList, eq_of_parts (rfl : parts (stripMinus raw.toList).2 = _)]
    rfl
  · by_cases hhead : (parts (stripMinus raw.toList).2).1.head? = some '0'
    · have hshort : ¬ 1 < byteSize (parts (stripMinus raw.toList).2).1 := fun hlong => hzero ⟨hlong, hhead⟩
      rw [byteSize_digits hdigits.1] at hshort
      obtain ⟨tail, htail⟩ := List.head?_eq_some_iff.mp hhead
      rw [htail, List.length_cons] at hshort
      left
      show (parts (stripMinus raw.toList).2).1 = ['0']
      rw [htail, List.length_eq_zero_iff.mp (by omega : tail.length = 0)]
    · exact .inr hhead
  · intro hempty
    replace hempty : (parts (stripMinus raw.toList).2).2 = some [] := hempty
    have hmem : '.' ∈ (stripMinus raw.toList).2 := by
      by_contra hmem
      rw [parts_snd_eq_none.mpr hmem] at hempty
      cases hempty
    exact hpoint ⟨hmem, by rw [hempty, Option.getD_some]⟩
  · rw [tryFrom_eq_some, byteSize_digits hdigits.2] at hscale
    exact hscale.1.symm.trans_le hmax

theorem signedUnits_div {n : { n : ℕ // n < 2 ^ 127 }} (hn : n.val = DigitText.value (x.whole ++ x.places)) :
    ((signedUnits negative n).val : ℚ) / 10 ^ x.places.length = if negative then -x.value else x.value := by
  rw [x.value_eq_div, ← hn, signedUnits_val]
  cases negative with
  | false => simp
  | true => simp [neg_div]

/-- **The reader of amounts** accepts exactly their texts and reads the number they denote. -/
theorem parseDecimal_eq_ok : parseDecimal raw = .ok amount ↔ DecimalText raw amount := by
  constructor
  · intro h
    obtain ⟨hsize, negative, x, hraw, hx⟩ := exists_text_of_parseDecimal h
    obtain ⟨n, hn, hread⟩ := parseDecimal_text hsize hraw hx
    rw [hread, Except.ok.injEq] at h
    rw [← h]
    exact ⟨hsize.1, hsize.2, negative, x, hraw, hx, rfl, signedUnits_div hn⟩
  · rintro ⟨hlow, hhigh, negative, x, hraw, hx, hscale, hvalue⟩
    obtain ⟨n, hn, hread⟩ := parseDecimal_text ⟨hlow, hhigh⟩ hraw hx
    obtain ⟨units, scale⟩ := amount
    replace hscale : scale = x.places.length := hscale
    subst hscale
    have hpow : (10 : ℚ) ^ x.places.length ≠ 0 := by positivity
    have hunits : ((signedUnits negative n).val : ℚ) = units.val :=
      (div_left_inj' hpow).mp ((signedUnits_div hn).trans hvalue.symm)
    rw [hread, Subtype.ext (Int.cast_inj.mp hunits)]

end Texts

/-! ## The walk -/

/-- The identifier of the last row of a page. -/
def lastId (cursor : ℕ) (page : List WbFinanceDetailRow) : ℕ :=
  (page.getLast?.map WbFinanceDetailRow.rrdId).getD cursor

/-- **A walk**: each request starts after the last row of the page before it, and the last one found no
content. -/
def walk (dateFrom dateTo : ℤ) : ℕ → List (List WbFinanceDetailRow) → List (Sigma FinancePage)
  | cursor, [] => [⟨⟨dateFrom, dateTo, cursor⟩, none⟩]
  | cursor, page :: pages => ⟨⟨dateFrom, dateTo, cursor⟩, some page⟩ :: walk dateFrom dateTo (lastId cursor page) pages

theorem lastId_cons (cursor : ℕ) (row : WbFinanceDetailRow) (rows : List WbFinanceDetailRow) :
    lastId cursor (row :: rows) = lastId row.rrdId rows := by
  rw [lastId, lastId, List.getLast?_cons]
  cases rows.getLast? <;> rfl

theorem validateRows_spec {rows : List WbFinanceDetailRow} {cursor next : ℕ}
    (h : validateRows cursor rows = .ok next) :
    next = lastId cursor rows ∧ ∀ rest : List ℕ, (next :: rest).Pairwise (· < ·) →
      (cursor :: (rows.map WbFinanceDetailRow.rrdId ++ rest)).Pairwise (· < ·) := by
  induction rows generalizing cursor with
  | nil =>
    cases h
    exact ⟨rfl, fun _ hrest => hrest⟩
  | cons row rows ih =>
    simp only [validateRows, ok_of_bind, ensure_eq_ok] at h
    obtain ⟨_, -, _, hlt, hrows⟩ := h
    obtain ⟨hnext, hascending⟩ := ih hrows
    refine ⟨hnext.trans (lastId_cons cursor row rows).symm, fun rest hrest => ?_⟩
    refine List.pairwise_cons.mpr ⟨fun id hid => ?_, hascending rest hrest⟩
    obtain rfl | hid := List.mem_cons.mp hid
    · exact hlt
    · exact hlt.trans (List.rel_of_pairwise_cons (hascending rest hrest) hid)

/-- The pages of a walk are not empty and within the bound. -/
def PageBound (page : List WbFinanceDetailRow) : Prop := page ≠ [] ∧ page.length ≤ wbFinancePageSize

/-- **The loop** walks from its cursor to the end marker. -/
theorem runs_financeLoop {dateFrom dateTo : ℤ} {result rows : List WbFinanceDetailRow} {cursor remaining : ℕ}
    {trace : List (Sigma FinancePage)}
    (h : (financeLoop dateFrom dateTo result cursor remaining).Runs trace (.ok rows)) :
    ∃ pages, trace = walk dateFrom dateTo cursor pages ∧ rows = result ++ pages.flatten ∧
      (∀ page ∈ pages, PageBound page) ∧
      (cursor :: pages.flatten.map WbFinanceDetailRow.rrdId).Pairwise (· < ·) := by
  induction remaining generalizing result cursor trace with
  | zero => cases h.2
  | succ remaining ih =>
    obtain ⟨answer, trace, rfl, h⟩ := h
    cases answer with
    | none =>
      obtain ⟨rfl, hrows⟩ := h
      cases hrows
      exact ⟨[], rfl, (List.append_nil _).symm, nofun, List.pairwise_singleton _ _⟩
    | some page =>
      obtain ⟨next, hpage, h⟩ := Prog.runs_ofExcept_bind.mp h
      obtain ⟨_, -, h⟩ := Prog.runs_ofExcept_bind.mp h
      simp only [validatePageCursor, ok_of_bind, ensure_eq_ok] at hpage
      obtain ⟨_, hbound, hvalid⟩ := hpage
      obtain ⟨hnext, hascending⟩ := validateRows_spec hvalid
      obtain ⟨pages, rfl, hrows, hpages, hrest⟩ := ih h
      refine ⟨page :: pages, ?_, ?_, List.forall_mem_cons.mpr ⟨hbound, hpages⟩, ?_⟩
      · rw [walk, hnext]
      · rw [hrows, List.append_assoc, List.flatten_cons]
      · rw [List.flatten_cons, List.map_append]
        exact hascending _ hrest

theorem asksAtMost_financeLoop (dateFrom dateTo : ℤ) (result : List WbFinanceDetailRow) (cursor remaining : ℕ) :
    (financeLoop dateFrom dateTo result cursor remaining).AsksAtMost (fun _ => true) remaining := by
  induction remaining generalizing result cursor with
  | zero => trivial
  | succ remaining ih =>
    refine ⟨fun _ => Nat.succ_pos remaining, fun answer => ?_⟩
    cases answer with
    | none => trivial
    | some page => exact .ofExcept_bind fun next => .ofExcept_bind fun _ => ih _ _

/-! ## Requests on the wire -/

/-- A request on the wire. -/
def JournalCall.isFetch {R : Type} : JournalCall R → Bool
  | .fetch _ => true
  | _ => false

section Wire

variable {R V E : Type} {Page : R → Type} (pages : Pages R V E Page) (digest : Digest)

theorem asksAtMost_fetchNormalized (r : R) :
    (fetchNormalized pages r).AsksAtMost JournalCall.isFetch 1 :=
  ⟨fun _ => Nat.one_pos, fun _ => Prog.asksAtMost_ofExcept _ _ _⟩

theorem asksAtMost_loadCheckpoint (r : R) (identity : Serde.Json) :
    (loadCheckpoint pages digest r identity).AsksAtMost JournalCall.isFetch 0 := by
  refine ⟨nofun, fun stored => .ofExcept_bind fun page => ?_⟩
  cases page with
  | none => trivial
  | some page => exact .ofExcept_bind fun _ => trivial

theorem asksAtMost_currentPage (r : R) :
    (currentPage pages digest r).AsksAtMost JournalCall.isFetch 1 := by
  refine (asksAtMost_loadCheckpoint pages digest r _).zero_bind fun page => ?_
  cases page with
  | some page => trivial
  | none =>
    refine ⟨nofun, fun admitted => .ofExcept_bind fun _ => ?_⟩
    refine (asksAtMost_fetchNormalized pages r).bind (n := 0) fun page => ?_
    exact ⟨nofun, fun saved => .ofExcept_bind fun _ => trivial⟩

/-- A page costs one request at most. -/
theorem asksAtMost_checkpointed (journal : Bool) (r : R) :
    (checkpointed pages digest journal r).AsksAtMost JournalCall.isFetch 1 := by
  unfold checkpointed
  split
  · split
    · exact asksAtMost_currentPage pages digest r
    · refine (asksAtMost_loadCheckpoint pages digest r _).zero_bind fun page => ?_
      cases page with
      | some page => trivial
      | none => exact asksAtMost_currentPage pages digest r
  · exact asksAtMost_fetchNormalized pages r

end Wire

/-- **Finance details are exact.**

* The reader of amounts accepts exactly the texts of an amount, and reads the number denoted.
* A stored coefficient is read back as it was.
* Collected rows are the pages of one walk from cursor `0`, with a journal or without: every page comes from
  its own request, ascending without a repeated row, up to a request that found no content.
* A collection sends at most `maxFinancePages` requests, whatever the answers are. -/
theorem finance_details_exact {V : Type} (adapter : WbFinanceAdapter V) (dates : DateText) (digest : Digest)
    (journal : Bool) (dateFrom dateTo : ℤ) :
    (∀ (raw : String) (amount : WbFinanceDecimal), parseDecimal raw = .ok amount ↔ DecimalText raw amount) ∧
    (∀ units : Coefficient, coefficientCodec.decode (coefficientCodec.encode units) = some units) ∧
    (∀ trace rows, (collectWith (financePages adapter dates) digest journal
        (collectFinanceDetailsCheckpointed dateFrom dateTo)).Runs trace (.ok rows) →
      ∃ (pages : List (List WbFinanceDetailRow))
        (parts : List ((r : FinanceRequest) × FinancePage r ×
          List (Sigma (JournalCall.Answer V WbReportSourceError)))),
        parts.map (fun t => (⟨t.1, t.2.1⟩ : Sigma FinancePage)) = walk dateFrom dateTo 0 pages ∧
        (∀ t ∈ parts, (checkpointed (financePages adapter dates) digest journal t.1).Runs t.2.2 (.ok t.2.1)) ∧
        trace = parts.flatMap (fun t => t.2.2) ∧
        (∀ page ∈ pages, PageBound page) ∧ rows = pages.flatten ∧
        (rows.map WbFinanceDetailRow.rrdId).Pairwise (· < ·)) ∧
    ∀ trace result, (collectWith (financePages adapter dates) digest journal
        (collectFinanceDetailsCheckpointed dateFrom dateTo)).Runs trace result →
      trace.countP (fun e => e.1.isFetch) ≤ maxFinancePages := by
  refine ⟨fun _ _ => parseDecimal_eq_ok, coefficientCodec.decode_encode, fun trace rows hrun => ?_,
    fun trace result hrun => ?_⟩
  · obtain ⟨parts, hwalk, htrace, hparts⟩ := Prog.runs_handle hrun
    obtain ⟨_, -, hloop⟩ := Prog.runs_ofExcept_bind.mp hwalk
    obtain ⟨pages, hpages, hrows, hbound, hascending⟩ := runs_financeLoop hloop
    rw [List.nil_append] at hrows
    subst hrows
    exact ⟨pages, parts, hpages, hparts, htrace, hbound, rfl, (List.pairwise_cons.mp hascending).2⟩
  · have hloop : (collectFinanceDetailsCheckpointed dateFrom dateTo).AsksAtMost (fun _ => true) maxFinancePages :=
      .ofExcept_bind fun _ => asksAtMost_financeLoop dateFrom dateTo [] 0 maxFinancePages
    exact (hloop.handle fun r => asksAtMost_checkpointed _ digest journal r).runs hrun

/-! ## Two pages -/

/-- Replies that are pages of rows; a reply without content is none. -/
def pageAdapter : WbFinanceAdapter (Option (List WbFinanceDetailRow)) where
  rows reply := reply.map fun rows => .ok (rows.map .ok)

/-- A row with one amount. -/
def feeRow (rrdId : ℕ) : WbFinanceDetailRow where
  rrdId
  reportId := 1
  businessDate := 19754
  sku := none
  currency := "RUB"
  documentType := none
  operationType := none
  quantity := none
  amounts := (∅ : Std.ExtTreeMap String WbFinanceDecimal).insert "acquiringFee" ⟨⟨-1250, by decide⟩, 2⟩

/-- An empty journal, and a source with two pages. -/
def twoPageAnswers : (c : JournalCall FinanceRequest) →
    c.Answer (Option (List WbFinanceDetailRow)) WbReportSourceError
  | .load _ => .ok none
  | .admission _ => .ok ()
  | .fetch r =>
    .ok (if r.cursor = 0 then some [feeRow 1, feeRow 3] else if r.cursor = 3 then some [feeRow 7] else none)
  | .save _ _ => .ok ()

/-- A calendar of one date. -/
def february : DateText := .naming 19754 "2024-02-01" (by decide)

/-- The details of a day. -/
def twoPageDay : JournalProg FinanceRequest (Option (List WbFinanceDetailRow)) WbReportSourceError
    (List WbFinanceDetailRow) :=
  collectWith (financePages pageAdapter february) (fun _ => "") true
    (collectFinanceDetailsCheckpointed 19754 19754)

/-- A collection with a journal that stores both pages. -/
theorem finance_details_exact_two_pages : ∃ trace rows, twoPageDay.Runs trace (.ok rows) ∧
    rows.map WbFinanceDetailRow.rrdId = [1, 3, 7] ∧ (rows.map WbFinanceDetailRow.rrdId).Pairwise (· < ·) ∧
    (∃ pages : List (List WbFinanceDetailRow), (∀ page ∈ pages, PageBound page) ∧ rows = pages.flatten) ∧
    trace.countP (fun e => e.1.isFetch) ≤ maxFinancePages ∧
    DecimalText "-12.50" ⟨⟨-1250, by decide⟩, 2⟩ := by
  obtain ⟨htext, -, hwalk, hcount⟩ := finance_details_exact pageAdapter february (fun _ => "") true 19754 19754
  have hrun : twoPageDay.Runs _ (.ok [feeRow 1, feeRow 3, feeRow 7]) := Prog.runs_eval twoPageAnswers twoPageDay
  obtain ⟨pages, -, -, -, -, hbound, hrows, hascending⟩ := hwalk _ _ hrun
  exact ⟨_, _, hrun, rfl, hascending, ⟨pages, hbound, hrows⟩, hcount _ _ hrun, (htext _ _).mp rfl⟩

end AdsControl.Reporting
