import AdsControl.Reporting.Money
import AdsControl.Reporting.OzonFinance

/-!
# The accrual ledger is conserved

A collected ledger is a chain of pages for each day, and its facts are the lines of all pages, each added to
its product and category. How the lines are cut into pages does not matter.

* `decimalValue`, `soleSku`, `explicitType`: what a line says, **`readAccrual_eq_ok`**: what is read of it;
* `DayChain`: the pages of a day, **`runs_collectFinanceFacts`**: the successful runs;
* `Conserved`: facts that sum up to their lines, **`conserved_of_entries`**;
* **`finance_ledger_conserved`**: the result.
-/

namespace AdsControl.Reporting.OzonFinance

open DigitText Fallible Interaction Machine OrderedMap Std Tally

/-! ## Amounts -/

/-- **The number a text denotes**, with an optional minus sign and an optional point. -/
def decimalValue (text : List Char) : ℚ :=
  let (negative, digits) := stripMinus text
  let (whole, fraction) := (splitOnce '.' digits).getD (digits, [])
  let magnitude : ℚ := value whole + value fraction / 10 ^ fraction.length
  if negative then -magnitude else magnitude

theorem checkedI64_eq_some {a b : ℤ} : checkedI64 a = some b ↔ b = a ∧ -2 ^ 63 ≤ a ∧ a < 2 ^ 63 := by
  unfold checkedI64
  split_ifs with h
  · rw [Option.some.injEq]
    exact ⟨fun hb => ⟨hb.symm, h⟩, fun hb => hb.1.symm⟩
  · exact iff_of_false nofun fun hb => h hb.2

theorem parseSigned_digits {digits : List Char} {n : ℤ} (hne : digits ≠ [])
    (hdigits : digits.all Char.isDigit) :
    parseSigned 64 digits = some n ↔ n = value digits ∧ value digits < 2 ^ 63 := by
  have hunsigned : parseSigned 64 digits =
      ((parseUnsigned 64 digits).filter (· < 2 ^ 63)).map Nat.cast := by
    unfold parseSigned
    split
    · rename_i rest
      rw [List.all_cons, Bool.and_eq_true] at hdigits
      exact absurd hdigits.1 (by decide)
    · rfl
  rw [hunsigned]
  simp only [Option.map_eq_some_iff, Option.filter_eq_some_iff, parseUnsigned_eq_some hne hdigits,
    decide_eq_true_eq]
  constructor
  · rintro ⟨m, ⟨⟨rfl, -⟩, hlt⟩, rfl⟩
    exact ⟨rfl, hlt⟩
  · rintro ⟨rfl, hlt⟩
    exact ⟨_, ⟨⟨rfl, by omega⟩, hlt⟩, rfl⟩

theorem fractionMinor_eq_ok {fraction : List Char} {n : ℤ} (hsize : byteSize fraction ≤ 2)
    (hdigits : fraction.all Char.isDigit) (h : fractionMinor fraction = .ok n) :
    (n : ℚ) = value fraction / 10 ^ fraction.length * 100 := by
  have hlength := byteSize_digits hdigits
  unfold fractionMinor at h
  obtain rfl | ⟨a, rfl⟩ | ⟨a, b, rfl⟩ := fraction_cases hsize hdigits
  · cases h
    norm_num [value, Nat.ofDigitChars]
  · rw [hlength] at h
    simp only [List.length_singleton, ok_of_map, context_eq_ok,
      parseSigned_digits (List.cons_ne_nil _ _) hdigits] at h
    obtain ⟨m, ⟨rfl, -⟩, rfl⟩ := h
    push_cast
    rw [List.length_singleton]
    ring
  · rw [hlength] at h
    simp only [List.length_cons, List.length_nil, context_eq_ok,
      parseSigned_digits (List.cons_ne_nil _ _) hdigits] at h
    obtain ⟨rfl, -⟩ := h
    push_cast
    rw [List.length_cons, List.length_singleton]
    ring

/-- **Amounts are exact.** -/
theorem decimalMinor_eq_ok {raw : String} {amount : ℤ} (h : decimalMinor raw = .ok amount) :
    (amount : ℚ) = decimalValue raw.toList * 100 := by
  unfold decimalMinor at h
  unfold decimalValue
  generalize stripMinus raw.toList = p at h ⊢
  obtain ⟨negative, digits⟩ := p
  dsimp only at h ⊢
  generalize (splitOnce '.' digits).getD (digits, []) = q at h ⊢
  obtain ⟨whole, fraction⟩ := q
  simp only [ok_of_bind, ensure_eq_ok, context_eq_ok, Option.bind_eq_some_iff, checkedI64_eq_some] at h
  obtain ⟨_, ⟨hne, hsize, hwhole, hfraction⟩, n, hn, m, hm, total, ⟨_, ⟨rfl, -⟩, rfl, -⟩, hsign⟩ := h
  have hn' : (n : ℚ) = value whole := by
    rw [((parseSigned_digits hne hwhole).mp hn).1]
    push_cast
    rfl
  have hm' := fractionMinor_eq_ok hsize hfraction hm
  have htotal : ((n * 100 + m : ℤ) : ℚ) =
      (value whole + value fraction / 10 ^ fraction.length) * 100 := by
    push_cast
    rw [hn', hm']
    ring
  cases negative with
  | false =>
    rw [if_neg Bool.false_ne_true, ok_of_pure] at hsign
    rw [← hsign, if_neg Bool.false_ne_true, htotal]
  | true =>
    rw [if_pos rfl, context_eq_ok, checkedI64_eq_some] at hsign
    rw [hsign.1, if_pos rfl, Int.cast_neg, htotal]
    ring

/-! ## Lines -/

/-- The text of the amount of a line. -/
def amountText (row : Document) : List Char :=
  (((row.get "total_amount").bind fun money => money.get "amount").bind Document.asString).elim []
    String.toList

/-- The product of a line of a posting. -/
def productSku (product : Document) : Option ℕ :=
  (product.get "sku").bind fun value => (parseU64 value).toOption

/-- The products of the posting of a line. -/
def postingSkus (row : Document) : List (Option ℕ) :=
  ((((row.get "posting").bind fun posting => posting.get "products").bind Document.asArray).getD []).map
    productSku

/-- **The one product of a posting**, if all of its products are this one. -/
def soleSku (row : Document) : Option ℕ :=
  match postingSkus row with
  | [] => none
  | sku :: skus => if ∀ other ∈ skus, other = sku then sku else none

/-- The type a line names, if the dictionary has it. -/
def explicitType (types : ExtTreeMap ℕ AccrualType) (row : Document) : Option AccrualType :=
  (row.get "type_id").bind fun value => (parseU64 value).toOption.bind fun id => types[id]?

/-- The category of an accrual. -/
def categoryOf (types : ExtTreeMap ℕ AccrualType) (row : Document) : FinanceCategory :=
  (explicitType types row).elim .other AccrualType.category

/-- The line names a type whose category is known. -/
def knownType (types : ExtTreeMap ℕ AccrualType) (row : Document) : Bool :=
  (explicitType types row).any AccrualType.known

section Lines

variable {text : LedgerText} {types : ExtTreeMap ℕ AccrualType} {date : ℤ} {row : Document}
  {entry : FinanceKey × FinanceTotals}

theorem productSku_eq_some {product value : Document} {sku : ℕ} (hvalue : product.get "sku" = some value)
    (hsku : parseU64 value = .ok sku) : productSku product = some sku := by
  rw [productSku, hvalue, Option.bind_some, hsku]
  rfl

theorem uniqueSku_some {sku : ℕ} {products : List Document} {result : Option ℕ}
    (h : uniqueSku (some sku) products = .ok result) :
    result = if ∀ other ∈ products.map productSku, other = some sku then some sku else none := by
  induction products with
  | nil =>
    cases h
    rw [List.map_nil, if_pos (List.forall_mem_nil _)]
  | cons product products ih =>
    simp only [uniqueSku, ok_of_bind, context_eq_ok, ensure_eq_ok, Option.mem_def, Option.some.injEq,
      exists_eq_left'] at h
    obtain ⟨value, hvalue, other, hother, _, -, h⟩ := h
    have hread := productSku_eq_some hvalue hother
    split_ifs at h with hdiffer
    · cases ok_of_pure.mp h
      rw [if_neg]
      intro hall
      have hsame := hall _ (List.mem_map_of_mem (List.mem_cons_self ..))
      rw [hread, Option.some.injEq] at hsame
      exact hdiffer hsame.symm
    · obtain rfl := not_not.mp hdiffer
      rw [ih h]
      simp only [List.map_cons, List.forall_mem_cons, hread, true_and]

theorem uniquePostingSku_eq_ok {fields : List (String × Document)} {result : Option ℕ}
    (h : uniquePostingSku (fields.lookup "posting") = .ok result) : result = soleSku (.object fields) := by
  unfold uniquePostingSku at h
  unfold soleSku postingSkus
  rw [Document.get_object]
  generalize ((fields.lookup "posting").bind fun value => value.get "products").bind Document.asArray =
    products at h ⊢
  cases products with
  | none =>
    cases h
    rfl
  | some products =>
    cases products with
    | nil =>
      cases h
      rfl
    | cons product products =>
      simp only [uniqueSku, ok_of_bind, context_eq_ok, ensure_eq_ok, Option.mem_def, reduceCtorEq,
        false_and, exists_false, if_false] at h
      obtain ⟨value, hvalue, sku, hsku, _, -, h⟩ := h
      rw [Option.getD_some, List.map_cons, productSku_eq_some hvalue hsku]
      exact uniqueSku_some h

theorem kindOf_eq_ok {fields : List (String × Document)} {kind : Option AccrualType}
    (h : kindOf types fields = .ok kind) : kind = explicitType types (.object fields) := by
  unfold kindOf at h
  unfold explicitType
  rw [Document.get_object]
  cases hid : fields.lookup "type_id" with
  | none =>
    rw [hid] at h
    simp only [ok_of_bind, ok_of_pure] at h
    obtain ⟨_, _, _, _, rfl⟩ := h
    rfl
  | some value =>
    rw [hid] at h
    obtain ⟨id, hread, rfl⟩ := ok_of_map.mp h
    rw [Option.bind_some, hread]
    rfl

/-- **What is read of a line.** -/
theorem readAccrual_eq_ok (h : readAccrual text types date row = .ok entry) :
    entry.1 = toLex (date, toLex (soleSku row, categoryOf types row)) ∧
      (entry.2.1 : ℚ) = decimalValue (amountText row) * 100 ∧
        entry.2.2 = (1, if knownType types row then 0 else 1) := by
  simp only [readAccrual, ok_of_bind, ok_of_pure, context_eq_ok, ensure_eq_ok, parseMoney] at h
  obtain ⟨fields, hfields, value, hvalue, date', hdate, _, rfl, kind, hkind, money, hmoney, amount,
    ⟨object, hobject, _, hcurrency, raw, hraw, hamount⟩, sku, hsku, rfl⟩ := h
  obtain rfl := Document.asObject_eq_some.mp hfields
  obtain rfl := Document.asObject_eq_some.mp hobject
  obtain rfl := kindOf_eq_ok hkind
  obtain rfl := uniquePostingSku_eq_ok hsku
  refine ⟨rfl, ?_, rfl⟩
  have htext : amountText (.object fields) = raw.toList := by
    rw [amountText, Document.get_object, hmoney, Option.bind_some, Document.get_object, hraw]
    rfl
  rw [htext]
  exact decimalMinor_eq_ok hamount

end Lines

/-! ## Totals -/

/-- Totals that the columns hold. -/
def FitsTotals (totals : FinanceTotals) : Prop :=
  (-2 ^ 63 ≤ totals.1 ∧ totals.1 < 2 ^ 63) ∧ totals.2.1 < 2 ^ 32 ∧ totals.2.2 < 2 ^ 32

theorem addTotals_eq_some {a b c : FinanceTotals} :
    addTotals a b = some c ↔ c = a + b ∧ FitsTotals (a + b) := by
  simp only [addTotals, Option.bind_eq_bind, Option.bind_eq_some_iff, Option.pure_def, Option.some.injEq,
    checkedI64_eq_some, checkedAdd_eq_some]
  constructor
  · rintro ⟨_, ⟨rfl, hamount⟩, _, ⟨rfl, hlines⟩, _, ⟨rfl, hunknown⟩, rfl⟩
    exact ⟨rfl, hamount, hlines, hunknown⟩
  · rintro ⟨rfl, hamount, hlines, hunknown⟩
    exact ⟨_, ⟨rfl, hamount⟩, _, ⟨rfl, hlines⟩, _, ⟨rfl, hunknown⟩, rfl⟩

/-- Totals into those of their key. -/
def collect : FinanceAggregate → FinanceKey × FinanceTotals → FinanceAggregate :=
  gather Prod.fst 0 fun b e => b + e.2

theorem context_addTotals {ε : Type} {overflow : ε} (b : FinanceTotals) (e : FinanceKey × FinanceTotals)
    (b' : FinanceTotals) :
    context (addTotals b e.2) overflow = .ok b' ↔ b' = b + e.2 ∧ FitsTotals (b + e.2) := by
  rw [context_eq_ok, addTotals_eq_some]

section Entries

variable {ε : Type} {overflow : ε} {entries : List (FinanceKey × FinanceTotals)}
  {aggregate aggregate' : FinanceAggregate}

theorem foldlM_addEntry (h : entries.foldlM (addEntry overflow) aggregate = .ok aggregate') :
    aggregate' = entries.foldl collect aggregate := foldl_of_foldlM_gatherM context_addTotals h

theorem foldl_collect_toList (entries : List (FinanceKey × FinanceTotals)) (aggregate : FinanceAggregate) :
    (entries.foldl collect ∅).toList.foldl collect aggregate = entries.foldl collect aggregate :=
  foldl_gather_toList entries aggregate

end Entries

theorem map_factEntry (aggregate : FinanceAggregate) :
    (aggregate.toList.map financeFact).map factEntry = aggregate.toList := by
  rw [List.map_map]
  exact List.map_id _

/-! ## Pages -/

/-- The lines of a page. -/
def accrualsOf (response : Document) : List Document :=
  ((response.get "accruals").bind Document.asArray).getD []

/-- The cursor of a page. -/
def lastIdOf (response : Document) : Option String := (response.get "last_id").bind Document.asString

/-- A list of lines that is not too long. -/
def ValidPage (response : Document) : Prop :=
  (response.get "accruals").bind Document.asArray = some (accrualsOf response) ∧
    (accrualsOf response).length ≤ maxRowsPerPage

section Pages

variable (text : LedgerText) (types : ExtTreeMap ℕ AccrualType) {date : ℤ} {response : Document}

theorem parsePage_eq_ok {page : FinanceAggregate} {n : ℕ} {next : String} :
    parsePage text types date response = .ok (page, n, next) ↔
      ValidPage response ∧ n = (accrualsOf response).length ∧ lastIdOf response = some next ∧
        ∃ entries, (accrualsOf response).mapM (readAccrual text types date) = .ok entries ∧
          entries.foldlM (addEntry OzonFinanceParseError.value) ∅ = .ok page := by
  have hloop : ∀ (rows : List Document) (aggregate aggregate' : FinanceAggregate),
      rows.foldlM (addAccrual text types date) aggregate = .ok aggregate' ↔
        ∃ entries, rows.mapM (readAccrual text types date) = .ok entries ∧
          entries.foldlM (addEntry OzonFinanceParseError.value) aggregate = .ok aggregate' := fun _ _ _ =>
    foldlM_reads fun _ _ _ => ok_of_bind
  simp only [parsePage, ok_of_bind, ok_of_pure, context_eq_ok, ensure_eq_ok, hloop, Prod.mk.injEq]
  constructor
  · rintro ⟨rows, hrows, _, hlength, aggregate, ⟨entries, hentries, hfold⟩, last, hlast, rfl, rfl, rfl⟩
    have hsame : accrualsOf response = rows := by rw [accrualsOf, hrows, Option.getD_some]
    rw [ValidPage, hsame]
    exact ⟨⟨hrows, hlength⟩, rfl, hlast, entries, hentries, hfold⟩
  · rintro ⟨⟨hrows, hlength⟩, rfl, hlast, entries, hentries, hfold⟩
    exact ⟨_, hrows, (), hlength, page, ⟨entries, hentries, hfold⟩, next, hlast, rfl, rfl, rfl⟩

/-- What an answered page adds. -/
def addPage (aggregate : FinanceAggregate) :
    OzonExchange FinanceRequest → Except OzonReportSourceError FinanceAggregate
  | ⟨.byDay date _, .ok response⟩ => do
    let page ← (parsePage text types date response).mapError fun _ => .invalidFinanceResponse
    page.1.toList.foldlM (addEntry .invalidFinanceResponse) aggregate
  | _ => .error .invalidFinanceResponse

/-- **The pages of a day**: each asks for the cursor of the one before, no cursor comes twice, and the last
page has none. -/
inductive DayChain (date : ℤ) : List String → String → List (OzonExchange FinanceRequest) → Prop
  | last {seen : List String} {cursor : String} {response : Document} (hpage : ValidPage response)
      (hlast : lastIdOf response = some "") : DayChain date seen cursor [⟨.byDay date cursor, .ok response⟩]
  | next {seen : List String} {cursor next : String} {response : Document}
      {rest : List (OzonExchange FinanceRequest)} (hpage : ValidPage response)
      (hnext : lastIdOf response = some next) (hne : next ≠ "") (hrows : accrualsOf response ≠ [])
      (hsize : next.utf8ByteSize ≤ maxLedgerCursorBytes) (hnew : next ∉ seen)
      (hrest : DayChain date (next :: seen) next rest) :
      DayChain date seen cursor (⟨.byDay date cursor, .ok response⟩ :: rest)

theorem runs_collectPage {aggregate aggregate' : FinanceAggregate} {cursor next : Option String}
    {trace : List (OzonExchange FinanceRequest)} :
    (collectPage text types date aggregate cursor).Runs trace (.ok (aggregate', next)) ↔ ∃ response,
      trace = [⟨.byDay date (cursor.getD ""), .ok response⟩] ∧
        addPage text types aggregate ⟨.byDay date (cursor.getD ""), .ok response⟩ = .ok aggregate' ∧
          ValidPage response ∧ (lastIdOf response = some "" ∧ next = none ∨ ∃ name,
            lastIdOf response = some name ∧ name ≠ "" ∧ accrualsOf response ≠ [] ∧
              name.utf8ByteSize ≤ maxLedgerCursorBytes ∧ next = some name) := by
  unfold collectPage
  rw [Prog.runs_bind_ok]
  constructor
  · rintro ⟨response, first, rest, rfl, hpost, h⟩
    obtain rfl := runs_post.mp hpost
    obtain ⟨⟨page, rows, name⟩, hpage, h⟩ := Prog.runs_ofExcept_bind.mp h
    obtain ⟨merged, hmerged, h⟩ := Prog.runs_ofExcept_bind.mp h
    dsimp only at h hmerged
    rw [map_factEntry] at hmerged
    have hadd : addPage text types aggregate ⟨.byDay date (cursor.getD ""), .ok response⟩ = .ok merged :=
      ok_of_bind.mpr ⟨_, hpage, hmerged⟩
    obtain ⟨hvalid, rfl, hlast, -⟩ := (parsePage_eq_ok text types).mp (ok_of_mapError.mp hpage)
    refine ⟨response, ?_⟩
    split_ifs at h with hempty
    · obtain ⟨rfl, hresult⟩ := Prog.runs_pure.mp h
      obtain ⟨rfl, rfl⟩ := Prod.mk.inj hresult
      exact ⟨rfl, hadd, hvalid, .inl ⟨hempty ▸ hlast, rfl⟩⟩
    · obtain ⟨_, hbounds, h⟩ := Prog.runs_ofExcept_bind.mp h
      obtain ⟨rfl, hresult⟩ := Prog.runs_pure.mp h
      obtain ⟨rfl, rfl⟩ := Prod.mk.inj hresult
      obtain ⟨hrows, hsize⟩ := ensure_eq_ok.mp hbounds
      exact ⟨rfl, hadd, hvalid, .inr ⟨name, hlast, hempty, fun h => hrows (by rw [h]; rfl), hsize, rfl⟩⟩
  · rintro ⟨response, rfl, hadd, hvalid, hnext⟩
    refine ⟨response, _, [], rfl, runs_post.mpr rfl, ?_⟩
    obtain ⟨⟨page, rows, name⟩, hpage, hmerged⟩ := ok_of_bind.mp hadd
    obtain ⟨-, rfl, hlast, -⟩ := (parsePage_eq_ok text types).mp (ok_of_mapError.mp hpage)
    refine Prog.runs_ofExcept_bind.mpr ⟨_, hpage, Prog.runs_ofExcept_bind.mpr ⟨aggregate', ?_, ?_⟩⟩
    · rw [map_factEntry]
      exact hmerged
    · rw [hlast] at hnext
      dsimp only
      obtain ⟨hname, rfl⟩ | ⟨_, hname, hne, hrows, hsize, rfl⟩ := hnext
      · rw [if_pos (Option.some.inj hname)]
        exact Prog.runs_pure.mpr ⟨rfl, rfl⟩
      · cases hname
        rw [if_neg hne]
        have hbounds : (accrualsOf response).length ≠ 0 ∧ name.utf8ByteSize ≤ maxLedgerCursorBytes :=
          ⟨fun h => hrows (List.length_eq_zero_iff.mp h), hsize⟩
        exact Prog.runs_ofExcept_bind.mpr ⟨(), ensure_eq_ok.mpr hbounds, Prog.runs_pure.mpr ⟨rfl, rfl⟩⟩

/-- **A day that is read is a chain of pages, all of them added.** -/
theorem walk_collectPage {n : ℕ} {seen : List String} {aggregate aggregate' : FinanceAggregate}
    {cursor : Option String} {trace : List (OzonExchange FinanceRequest)} :
    Walk (collectPage text types date) n seen aggregate cursor trace aggregate' ↔
      DayChain date seen (cursor.getD "") trace ∧ trace.length ≤ n ∧
        trace.foldlM (addPage text types) aggregate = .ok aggregate' := by
  constructor
  · intro h
    induction h with
    | last hpage =>
      obtain ⟨response, rfl, hadd, hvalid, ⟨hlast, -⟩ | ⟨_, _, _, _, _, ⟨⟩⟩⟩ :=
        (runs_collectPage text types).mp hpage
      exact ⟨.last hvalid hlast, Nat.le_add_left _ _, by rw [List.foldlM_cons, hadd]; rfl⟩
    | next hpage hnew _ ih =>
      obtain ⟨response, rfl, hadd, hvalid, ⟨-, ⟨⟩⟩ | ⟨_, hnext, hne, hrows, hsize, ⟨⟩⟩⟩ :=
        (runs_collectPage text types).mp hpage
      obtain ⟨hchain, hlength, hfold⟩ := ih
      refine ⟨.next hvalid hnext hne hrows hsize hnew hchain, Nat.succ_le_succ hlength, ?_⟩
      rw [List.singleton_append, List.foldlM_cons, hadd]
      exact hfold
  · rintro ⟨hchain, hlength, hfold⟩
    generalize hstart : cursor.getD "" = start at hchain
    induction hchain generalizing n aggregate cursor with
    | last hvalid hlast =>
      subst hstart
      obtain ⟨m, rfl⟩ := Nat.exists_eq_add_of_le' hlength
      rw [List.foldlM_cons, ok_of_bind] at hfold
      obtain ⟨merged, hadd, hfold⟩ := hfold
      cases ok_of_pure.mp hfold
      exact .last ((runs_collectPage text types).mpr ⟨_, rfl, hadd, hvalid, .inl ⟨hlast, rfl⟩⟩)
    | @next seen _ name response rest hvalid hnext hne hrows hsize hnew _ ih =>
      subst hstart
      obtain ⟨m, rfl⟩ := Nat.exists_eq_add_of_le' (Nat.le_trans (Nat.succ_le_succ (Nat.zero_le _)) hlength)
      rw [List.foldlM_cons, ok_of_bind] at hfold
      obtain ⟨merged, hadd, hfold⟩ := hfold
      exact .next ((runs_collectPage text types).mpr
        ⟨_, rfl, hadd, hvalid, .inr ⟨name, hnext, hne, hrows, hsize, rfl⟩⟩) hnew
          (ih (Nat.le_of_succ_le_succ hlength) hfold rfl)

/-! ## Days -/

/-- The pages of one day of the ledger, no more than are asked for. -/
def DayPages (date : ℤ) (pages : List (OzonExchange FinanceRequest)) : Prop :=
  DayChain date [] "" pages ∧ pages.length ≤ maxPagesPerDay

/-- The days of a period. -/
def ledgerDays (dateFrom dateTo : ℤ) : List ℤ :=
  (List.range ((dateTo - dateFrom).toNat + 1)).map fun n : ℕ => dateFrom + n

theorem runs_collectDay {aggregate aggregate' : FinanceAggregate}
    {trace : List (OzonExchange FinanceRequest)} :
    (collectDay text types date aggregate).Runs trace (.ok aggregate') ↔
      DayPages date trace ∧ trace.foldlM (addPage text types) aggregate = .ok aggregate' := by
  rw [collectDay, runs_walk, walk_collectPage, DayPages, and_assoc]
  rfl

theorem runs_collectDays {n : ℕ} {aggregate aggregate' : FinanceAggregate}
    {trace : List (OzonExchange FinanceRequest)} :
    (collectDays text types n date aggregate).Runs trace (.ok aggregate') ↔ ∃ pages, trace = pages.flatten ∧
      List.Forall₂ DayPages ((List.range (n + 1)).map fun n : ℕ => date + n) pages ∧
        trace.foldlM (addPage text types) aggregate = .ok aggregate' := by
  induction n generalizing date aggregate trace with
  | zero =>
    rw [collectDays, runs_collectDay]
    simp only [Nat.zero_add, List.range_one, List.map_singleton, Nat.cast_zero, add_zero]
    constructor
    · rintro ⟨hpages, hfold⟩
      exact ⟨[trace], by simp, .cons hpages .nil, hfold⟩
    · rintro ⟨_, rfl, hpages, hfold⟩
      obtain ⟨day, _, hday, hrest, rfl⟩ := List.forall₂_cons_left_iff.mp hpages
      obtain rfl := List.forall₂_nil_left_iff.mp hrest
      rw [List.flatten_singleton] at hfold ⊢
      exact ⟨hday, hfold⟩
  | succ n ih =>
    have hdays : (List.range (n + 1 + 1)).map (fun n : ℕ => date + n) =
        date :: (List.range (n + 1)).map fun n : ℕ => date + 1 + n := by
      rw [List.range_succ_eq_map, List.map_cons, List.map_map, Nat.cast_zero, add_zero]
      congr 1
      refine List.map_congr_left fun m _ => ?_
      simp only [Function.comp_apply, Nat.cast_succ]
      ring
    rw [collectDays, Prog.runs_bind_ok, hdays]
    constructor
    · rintro ⟨merged, first, rest, rfl, hfirst, hrest⟩
      obtain ⟨hday, hfold⟩ := (runs_collectDay text types).mp hfirst
      obtain ⟨pages, rfl, hpages, hfold'⟩ := ih.mp hrest
      refine ⟨first :: pages, rfl, .cons hday hpages, ?_⟩
      rw [List.foldlM_append, hfold]
      exact hfold'
    · rintro ⟨_, rfl, hpages, hfold⟩
      obtain ⟨day, pages, hday, hrest, rfl⟩ := List.forall₂_cons_left_iff.mp hpages
      rw [List.flatten_cons, List.foldlM_append, ok_of_bind] at hfold
      obtain ⟨merged, hfirst, hfold⟩ := hfold
      exact ⟨merged, day, pages.flatten, rfl, (runs_collectDay text types).mpr ⟨hday, hfirst⟩,
        ih.mpr ⟨pages, rfl, hrest, hfold⟩⟩

end Pages

/-- **A ledger as it is asked for**: the dictionary once, then each day of the period once along its chain
of pages. -/
structure LedgerTrace (text : LedgerText) (dateFrom dateTo : ℤ) (types : ExtTreeMap ℕ AccrualType)
    (days : List (List (OzonExchange FinanceRequest))) (trace : List (OzonExchange FinanceRequest)) :
    Prop where
  period : dateFrom ≤ dateTo
  types : ∃ response, parseTypes text response = .ok types ∧ trace = ⟨.types, .ok response⟩ :: days.flatten
  days : List.Forall₂ DayPages (ledgerDays dateFrom dateTo) days

section Ledger

variable {text : LedgerText} {dateFrom dateTo : ℤ} {types : ExtTreeMap ℕ AccrualType}
  {trace : List (OzonExchange FinanceRequest)} {facts : List CollectedFinanceFact}

/-- **The successful runs.** -/
theorem runs_collectFinanceFacts :
    (collectFinanceFacts text dateFrom dateTo).Runs trace (.ok facts) ↔ ∃ types days aggregate,
      LedgerTrace text dateFrom dateTo types days trace ∧
        days.flatten.foldlM (addPage text types) ∅ = .ok aggregate ∧
          facts = aggregate.toList.map financeFact := by
  unfold collectFinanceFacts
  rw [Prog.runs_ofExcept_bind]
  constructor
  · rintro ⟨_, hperiod, h⟩
    obtain ⟨response, first, rest, rfl, hpost, hrest⟩ := Prog.runs_bind_ok.mp h
    obtain rfl := runs_post.mp hpost
    obtain ⟨types, htypes, hcollect⟩ := Prog.runs_ofExcept_bind.mp hrest
    obtain ⟨aggregate, rest, final, rfl, hdays, hfacts⟩ := Prog.runs_bind_ok.mp hcollect
    obtain ⟨rfl, rfl⟩ := Prog.runs_pure.mp hfacts
    obtain ⟨days, rfl, hpages, hfold⟩ := (runs_collectDays text types).mp hdays
    rw [List.append_nil]
    exact ⟨types, days, aggregate,
      ⟨ensure_eq_ok.mp hperiod, ⟨response, ok_of_mapError.mp htypes, rfl⟩, hpages⟩, hfold, rfl⟩
  · rintro ⟨types, days, aggregate, ⟨hperiod, ⟨response, htypes, rfl⟩, hpages⟩, hfold, rfl⟩
    refine ⟨(), ensure_eq_ok.mpr hperiod, Prog.runs_bind_ok.mpr ⟨response, [_], days.flatten, rfl,
      runs_post.mpr rfl, Prog.runs_ofExcept_bind.mpr ⟨types, ok_of_mapError.mpr htypes, ?_⟩⟩⟩
    exact Prog.runs_bind_ok.mpr ⟨aggregate, _, [], (List.append_nil _).symm,
      (runs_collectDays text types).mpr ⟨days, rfl, hpages, hfold⟩, Prog.runs_pure.mpr ⟨rfl, rfl⟩⟩

/-! ## All lines -/

/-- The accruals of an exchange with their date. -/
def linesOf : OzonExchange FinanceRequest → List (ℤ × Document)
  | ⟨.byDay date _, .ok response⟩ => (accrualsOf response).map fun row => (date, row)
  | _ => []

/-- **All lines of a ledger** with the days they were read for. -/
def ledgerLines (trace : List (OzonExchange FinanceRequest)) : List (ℤ × Document) := trace.flatMap linesOf

/-- The entry of an accrual. -/
def readLine (text : LedgerText) (types : ExtTreeMap ℕ AccrualType) (line : ℤ × Document) :
    Except OzonFinanceParseError (FinanceKey × FinanceTotals) := readAccrual text types line.1 line.2

theorem mapM_readLine (date : ℤ) (rows : List Document) :
    (rows.map fun row => (date, row)).mapM (readLine text types) =
      rows.mapM (readAccrual text types date) := by
  induction rows with
  | nil => rfl
  | cons row rows ih => rw [List.map_cons, List.mapM_cons, List.mapM_cons, ih, readLine]

theorem foldlM_addPage {pages : List (OzonExchange FinanceRequest)} {aggregate aggregate' : FinanceAggregate}
    (h : pages.foldlM (addPage text types) aggregate = .ok aggregate') :
    ∃ entries, (ledgerLines pages).mapM (readLine text types) = .ok entries ∧
      aggregate' = entries.foldl collect aggregate := by
  induction pages generalizing aggregate with
  | nil => exact ⟨[], rfl, (ok_of_pure.mp h).symm⟩
  | cons exchange pages ih =>
    rw [List.foldlM_cons, ok_of_bind] at h
    obtain ⟨merged, hadd, h⟩ := h
    obtain ⟨entries, hentries, rfl⟩ := ih h
    match exchange, hadd with
    | ⟨.byDay date cursor, .ok response⟩, hadd =>
      obtain ⟨⟨page, n, next⟩, hpage, hmerge⟩ := ok_of_bind.mp hadd
      obtain ⟨-, -, -, first, hfirst, hfold⟩ := (parsePage_eq_ok text types).mp (ok_of_mapError.mp hpage)
      refine ⟨first ++ entries, ?_, ?_⟩
      · rw [ledgerLines, List.flatMap_cons, List.mapM_append, linesOf, mapM_readLine, hfirst]
        exact ok_of_bind.mpr ⟨first, rfl, ok_of_bind.mpr ⟨entries, hentries, rfl⟩⟩
      · rw [foldlM_addEntry hmerge, foldlM_addEntry hfold, foldl_collect_toList, List.foldl_append]

/-! ## Conservation -/

/-- The day, product and category of a line. -/
def lineKey (types : ExtTreeMap ℕ AccrualType) (line : ℤ × Document) : FinanceKey :=
  toLex (line.1, toLex (soleSku line.2, categoryOf types line.2))

/-- The day, product and category of a fact. -/
def factKey (fact : CollectedFinanceFact) : FinanceKey := (factEntry fact).1

/-- **Facts that sum up to their lines**: each key has one fact, and for any choice of keys, such as those of
a day or of a product, the facts have the amounts of the lines, their number, and the number of those whose
type is not known. -/
structure Conserved (types : ExtTreeMap ℕ AccrualType) (lines : List (ℤ × Document))
    (facts : List CollectedFinanceFact) : Prop where
  keys : (facts.map factKey).Nodup
  attributed : ∀ fact ∈ facts, factKey fact ∈ lines.map (lineKey types)
  amounts : ∀ (p : FinanceKey → Prop) [DecidablePred p],
    (((facts.filter fun fact => p (factKey fact)).map CollectedFinanceFact.amountMinor).sum : ℚ) =
      ((lines.filter fun line => p (lineKey types line)).map fun line =>
        decimalValue (amountText line.2) * 100).sum
  lineCounts : ∀ (p : FinanceKey → Prop) [DecidablePred p],
    ((facts.filter fun fact => p (factKey fact)).map CollectedFinanceFact.lineCount).sum =
      (lines.filter fun line => p (lineKey types line)).length
  unknownTypeCounts : ∀ (p : FinanceKey → Prop) [DecidablePred p],
    ((facts.filter fun fact => p (factKey fact)).map CollectedFinanceFact.unknownTypeCount).sum =
      (lines.filter fun line => p (lineKey types line) ∧ ¬ knownType types line.2).length

section Conservation

variable {lines : List (ℤ × Document)} {entries : List (FinanceKey × FinanceTotals)}

theorem map_entries (h : lines.mapM (readLine text types) = .ok entries) :
    entries.map (fun e => (e.1, (e.2.1 : ℚ), e.2.2)) = lines.map fun line => (lineKey types line,
      decimalValue (amountText line.2) * 100, 1, if knownType types line.2 then 0 else 1) := by
  refine map_of_mapM (fun line entry hread => ?_) h
  obtain ⟨hkey, hamount, hcounts⟩ := readAccrual_eq_ok hread
  rw [hkey, hamount, hcounts]
  rfl

theorem sum_entries {M : Type} [AddCommMonoid M] (h : lines.mapM (readLine text types) = .ok entries)
    (p : FinanceKey → Prop) [DecidablePred p] (f : ℚ × ℕ × ℕ → M) :
    ((entries.filter fun e => p e.1).map fun e => f ((e.2.1 : ℚ), e.2.2)).sum =
      ((lines.filter fun line => p (lineKey types line)).map fun line =>
        f (decimalValue (amountText line.2) * 100, 1, if knownType types line.2 then 0 else 1)).sum := by
  have hsame := congrArg (fun l => ((l.filter fun e => p e.1).map fun e => f e.2).sum) (map_entries h)
  simpa only [List.filter_map, List.map_map, Function.comp_def] using hsame

theorem sum_unknown (lines : List (ℤ × Document)) :
    (lines.map fun line => if knownType types line.2 then 0 else 1).sum =
      (lines.filter fun line => ¬ knownType types line.2).length := by
  induction lines with
  | nil => rfl
  | cons line lines ih =>
    rw [List.map_cons, List.sum_cons, ih]
    by_cases h : knownType types line.2 = true
    · rw [if_pos h, zero_add, List.filter_cons_of_neg (by simpa using h)]
    · rw [if_neg h, add_comm, List.filter_cons_of_pos (by simpa using h), List.length_cons]

/-- The facts of some keys have the totals of their entries. -/
theorem sum_facts {M : Type} [AddCommMonoid M] (p : FinanceKey → Prop) [DecidablePred p]
    (f : FinanceTotals →+ M) :
    ((((entries.foldl collect ∅).toList.map financeFact).filter fun fact => p (factKey fact)).map fun fact =>
      f (factEntry fact).2).sum = ((entries.filter fun e => p e.1).map fun e => f e.2).sum := by
  have hgroups : (((entries.foldl collect ∅).toList.filter fun e => p e.1).map Prod.snd).sum =
      ((entries.filter fun e => p e.1).map Prod.snd).sum := sum_filter_foldl_gather p entries
  have hsum := congrArg f hgroups
  rw [map_list_sum, map_list_sum, List.map_map, List.map_map] at hsum
  rw [List.filter_map, List.map_map]
  exact hsum

theorem conserved_of_entries (h : lines.mapM (readLine text types) = .ok entries) :
    Conserved types lines ((entries.foldl collect ∅).toList.map financeFact) where
  keys := by
    rw [List.map_map]
    have hkeys : (entries.foldl collect ∅).keys.Nodup := ExtTreeMap.nodup_keys
    rw [← ExtTreeMap.map_fst_toList_eq_keys] at hkeys
    exact hkeys
  attributed fact hfact := by
    obtain ⟨entry, hentry, rfl⟩ := List.mem_map.mp hfact
    have hkey : entry.1 ∈ entries.map Prod.fst := by
      have hget := ExtTreeMap.mem_toList_iff_getElem?_eq_some.mp hentry
      have hsome : (entries.foldl collect ∅)[entry.1]?.isSome = true := by rw [hget]; rfl
      rw [collect, isSome_foldl_gather] at hsome
      simpa using hsome
    have hkeys : entries.map Prod.fst = lines.map (lineKey types) := by
      have hsame := congrArg (List.map Prod.fst) (map_entries h)
      simpa only [List.map_map, Function.comp_def] using hsame
    rw [← hkeys]
    exact hkey
  amounts p _ := by
    let cast : FinanceTotals →+ ℚ := (Int.castAddHom ℚ).comp (AddMonoidHom.fst ℤ (ℕ × ℕ))
    rw [← sum_entries h p Prod.fst]
    refine (map_list_sum (Int.castAddHom ℚ) _).trans ?_
    rw [List.map_map]
    exact sum_facts p cast
  lineCounts p _ := by
    let count : FinanceTotals →+ ℕ := (AddMonoidHom.fst ℕ ℕ).comp (AddMonoidHom.snd ℤ (ℕ × ℕ))
    have hlines := sum_entries h p fun totals => totals.2.1
    rw [List.map_const', List.sum_replicate, smul_eq_mul, mul_one] at hlines
    exact (sum_facts p count).trans hlines
  unknownTypeCounts p _ := by
    let count : FinanceTotals →+ ℕ := (AddMonoidHom.snd ℕ ℕ).comp (AddMonoidHom.snd ℤ (ℕ × ℕ))
    have hlines := sum_entries h p fun totals => totals.2.2
    rw [sum_unknown, List.filter_filter] at hlines
    refine (sum_facts p count).trans (hlines.trans ?_)
    simp only [Bool.decide_and, Bool.and_comm]

end Conservation

/-! ## Other pages -/

/-- The totals of one key. -/
def totalOf (key : FinanceKey) (entries : List (FinanceKey × FinanceTotals)) : FinanceTotals :=
  ((entries.filter fun e => e.1 = key).map Prod.snd).sum

/-- **Consecutive entries never add up to more than a column holds.** -/
def NoOverflow (entries : List (FinanceKey × FinanceTotals)) : Prop :=
  ∀ segment, segment <:+: entries → ∀ key, FitsTotals (totalOf key segment)

section Overflow

variable {done entries : List (FinanceKey × FinanceTotals)} {ε : Type} {overflow : ε}

theorem totalOf_append (key : FinanceKey) (l l' : List (FinanceKey × FinanceTotals)) :
    totalOf key (l ++ l') = totalOf key l + totalOf key l' := by
  rw [totalOf, List.filter_append, List.map_append, List.sum_append, totalOf, totalOf]

theorem totalOf_singleton (e : FinanceKey × FinanceTotals) : totalOf e.1 [e] = e.2 := by
  simp [totalOf]

theorem getD_foldl_collect (key : FinanceKey) (aggregate : FinanceAggregate) :
    (entries.foldl collect aggregate)[key]?.getD 0 = aggregate[key]?.getD 0 + totalOf key entries :=
  getD_foldl_gather_add entries aggregate key

theorem getD_collected (key : FinanceKey) : (entries.foldl collect ∅)[key]?.getD 0 = totalOf key entries := by
  rw [getD_foldl_collect, ExtTreeMap.getElem?_empty, Option.getD_none, zero_add]

theorem foldlM_addEntry_ok (h : NoOverflow entries) :
    entries.foldlM (addEntry overflow) ∅ = .ok (entries.foldl collect ∅) := by
  refine foldlM_gatherM_ok context_addTotals fun before e rest hsplit => ?_
  have hfits := h (before ++ [e]) ⟨[], rest, by rw [hsplit]; simp⟩ e.1
  rw [totalOf_append, totalOf_singleton, ← getD_collected] at hfits
  exact hfits

theorem foldlM_toList_ok (h : NoOverflow (done ++ entries)) :
    (entries.foldl collect ∅).toList.foldlM (addEntry overflow) (done.foldl collect ∅) =
      .ok ((done ++ entries).foldl collect ∅) := by
  rw [List.foldl_append, ← foldl_collect_toList entries (done.foldl collect ∅)]
  refine foldlM_gatherM_ok context_addTotals fun before e rest hsplit => ?_
  have hmem : e ∈ (entries.foldl collect ∅).toList := by rw [hsplit]; simp
  have hvalue : totalOf e.1 entries = e.2 := by
    rw [← getD_collected, ExtTreeMap.mem_toList_iff_getElem?_eq_some.mp hmem, Option.getD_some]
  -- the page has one total for each key
  have hbefore : totalOf e.1 before = 0 := by
    have hkeys : (entries.foldl collect ∅).keys.Nodup := ExtTreeMap.nodup_keys
    rw [← ExtTreeMap.map_fst_toList_eq_keys, hsplit, List.map_append, List.map_cons] at hkeys
    have hnew : ∀ e' ∈ before, e'.1 ≠ e.1 := fun e' he' heq =>
      (List.disjoint_of_nodup_append hkeys) (List.mem_map_of_mem he') (heq ▸ List.mem_cons_self ..)
    rw [totalOf, List.filter_eq_nil_iff.mpr fun e' he' => by simpa using hnew e' he']
    rfl
  have hfits := h (done ++ entries) (List.infix_refl _) e.1
  rw [totalOf_append, hvalue] at hfits
  show FitsTotals ((before.foldl collect (done.foldl collect ∅))[e.1]?.getD 0 + e.2)
  rw [getD_foldl_collect, hbefore, add_zero, getD_collected]
  exact hfits

end Overflow

/-- A page that was answered as it should be. -/
def Answered (exchange : OzonExchange FinanceRequest) : Prop :=
  ∃ date cursor response next, exchange = ⟨.byDay date cursor, .ok response⟩ ∧ ValidPage response ∧
    lastIdOf response = some next

theorem DayChain.answered {date : ℤ} {seen : List String} {cursor : String}
    {pages : List (OzonExchange FinanceRequest)} (h : DayChain date seen cursor pages) :
    ∀ exchange ∈ pages, Answered exchange := by
  induction h with
  | last hpage hlast =>
    rw [List.forall_mem_singleton]
    exact ⟨_, _, _, _, rfl, hpage, hlast⟩
  | next hpage hnext _ _ _ _ _ ih => exact List.forall_mem_cons.mpr ⟨⟨_, _, _, _, rfl, hpage, hnext⟩, ih⟩

theorem LedgerTrace.answered {days : List (List (OzonExchange FinanceRequest))}
    (h : LedgerTrace text dateFrom dateTo types days trace) :
    ∀ exchange ∈ days.flatten, Answered exchange := by
  intro exchange hexchange
  obtain ⟨day, hday, hexchange⟩ := List.mem_flatten.mp hexchange
  have hpages : ∀ {dates : List ℤ} {days : List (List (OzonExchange FinanceRequest))},
      List.Forall₂ DayPages dates days → ∀ day ∈ days, ∃ date, DayPages date day := by
    intro dates days hall
    induction hall with
    | nil => exact List.forall_mem_nil _
    | cons hday _ ih => exact List.forall_mem_cons.mpr ⟨⟨_, hday⟩, ih⟩
  obtain ⟨date, hchain, -⟩ := hpages h.days day hday
  exact hchain.answered exchange hexchange

/-- **Pages whose lines can be read are added, unless they overflow.** -/
theorem foldlM_addPage_ok {pages : List (OzonExchange FinanceRequest)}
    (hpages : ∀ exchange ∈ pages, Answered exchange) {done entries : List (FinanceKey × FinanceTotals)}
    (hread : (ledgerLines pages).mapM (readLine text types) = .ok entries)
    (h : NoOverflow (done ++ entries)) :
    pages.foldlM (addPage text types) (done.foldl collect ∅) = .ok ((done ++ entries).foldl collect ∅) := by
  induction pages generalizing done entries with
  | nil =>
    obtain rfl : entries = [] := (ok_of_pure.mp hread).symm
    rw [List.append_nil]
    rfl
  | cons exchange pages ih =>
    obtain ⟨⟨date, cursor, response, next, rfl, hvalid, hlast⟩, hrestpages⟩ := List.forall_mem_cons.mp hpages
    rw [ledgerLines, List.flatMap_cons, List.mapM_append, linesOf, mapM_readLine, ok_of_bind] at hread
    obtain ⟨first, hfirst, hread⟩ := hread
    obtain ⟨rest, hrest, hentries⟩ := ok_of_bind.mp hread
    cases ok_of_pure.mp hentries
    have hsub : ∀ l, l <:+: done ++ (first ++ rest) → NoOverflow l := fun l hl segment hsegment =>
      h segment (hsegment.trans hl)
    have hpage : parsePage text types date response =
        .ok (first.foldl collect ∅, (accrualsOf response).length, next) :=
      (parsePage_eq_ok text types).mpr ⟨hvalid, rfl, hlast, first, hfirst,
        foldlM_addEntry_ok (hsub first ⟨done, rest, by simp⟩)⟩
    have hadd : addPage text types (done.foldl collect ∅) ⟨.byDay date cursor, .ok response⟩ =
        .ok ((done ++ first).foldl collect ∅) :=
      ok_of_bind.mpr ⟨_, ok_of_mapError.mpr hpage,
        foldlM_toList_ok (hsub (done ++ first) ⟨[], rest, by simp⟩)⟩
    rw [List.foldlM_cons, hadd, ← List.append_assoc]
    exact ih hrestpages hrest (by rwa [List.append_assoc])

theorem foldl_collect_perm {entries entries' : List (FinanceKey × FinanceTotals)} (h : entries.Perm entries')
    (aggregate : FinanceAggregate) : entries.foldl collect aggregate = entries'.foldl collect aggregate := by
  have : RightCommutative collect := ⟨gather_comm fun b e e' => add_right_comm b e.2 e'.2⟩
  exact h.foldl_eq aggregate

theorem LedgerTrace.lines {days : List (List (OzonExchange FinanceRequest))}
    (h : LedgerTrace text dateFrom dateTo types days trace) :
    ledgerLines days.flatten = ledgerLines trace := by
  obtain ⟨response, -, rfl⟩ := h.types
  rfl

/-- The dictionary and the pages of a run are known from its trace. -/
theorem LedgerTrace.unique {types' : ExtTreeMap ℕ AccrualType}
    {days days' : List (List (OzonExchange FinanceRequest))}
    (h : LedgerTrace text dateFrom dateTo types days trace)
    (h' : LedgerTrace text dateFrom dateTo types' days' trace) :
    types = types' ∧ days.flatten = days'.flatten := by
  obtain ⟨response, htypes, rfl⟩ := h.types
  obtain ⟨response', htypes', htrace⟩ := h'.types
  obtain ⟨hfirst, hrest⟩ := List.cons.inj htrace
  cases hfirst
  rw [htypes] at htypes'
  exact ⟨Except.ok.inj htypes', hrest⟩

/-- **The accrual ledger is conserved**: a successful collection asks for the dictionary once and for each day
of the period once, along its chain of pages. Its facts have one entry for each day, product and category, and
sum up to the lines of all pages; a line belongs to a product when all of its posting is this product. The
same lines cut into other pages give the same facts, unless consecutive lines overflow a column. -/
theorem finance_ledger_conserved (h : (collectFinanceFacts text dateFrom dateTo).Runs trace (.ok facts)) :
    ∃ types days, LedgerTrace text dateFrom dateTo types days trace ∧
      Conserved types (ledgerLines trace) facts ∧
        ∀ days' trace', LedgerTrace text dateFrom dateTo types days' trace' →
          (ledgerLines trace).Perm (ledgerLines trace') →
            (∀ facts', (collectFinanceFacts text dateFrom dateTo).Runs trace' (.ok facts') → facts' = facts) ∧
              ((∀ entries, (ledgerLines trace').mapM (readLine text types) = .ok entries →
                  NoOverflow entries) →
                (collectFinanceFacts text dateFrom dateTo).Runs trace' (.ok facts)) := by
  obtain ⟨types, days, aggregate, htrace, hfold, rfl⟩ := runs_collectFinanceFacts.mp h
  obtain ⟨entries, hentries, rfl⟩ := foldlM_addPage hfold
  rw [htrace.lines] at hentries
  refine ⟨types, days, htrace, conserved_of_entries hentries, fun days' trace' htrace' hperm => ?_⟩
  obtain ⟨entries', hentries', hsame⟩ := exists_perm_of_mapM hperm hentries
  refine ⟨fun facts' h' => ?_, fun hoverflow => ?_⟩
  · obtain ⟨types', days'', aggregate', htrace'', hfold', rfl⟩ := runs_collectFinanceFacts.mp h'
    obtain ⟨rfl, -⟩ := htrace'.unique htrace''
    obtain ⟨read, hread, rfl⟩ := foldlM_addPage hfold'
    rw [htrace''.lines, hentries', Except.ok.injEq] at hread
    rw [← hread, foldl_collect_perm hsame]
  · rw [← htrace'.lines] at hentries'
    refine runs_collectFinanceFacts.mpr ⟨types, days', _, htrace', ?_, rfl⟩
    rw [foldl_collect_perm hsame]
    have hfits : NoOverflow ([] ++ entries') := hoverflow entries' (htrace'.lines ▸ hentries')
    exact foldlM_addPage_ok htrace'.answered hentries' hfits

end Ledger

/-! ## A ledger of two pages -/

/-- Dates of one day; all texts in lower case. -/
def august : LedgerText where
  parseDate value := if value = "2026-08-19" then some 20684 else none
  toLowercase value := value

/-- An accrual with its products. -/
def accrualOf (type amount : String) (skus : List String) : Document :=
  .object [("date", .string "2026-08-19"), ("type_id", .number type),
    ("total_amount", .object [("currency", .string "RUB"), ("amount", .string amount)]),
    ("posting", .object [("products", .array (skus.map fun sku => .object [("sku", .string sku)]))])]

/-- Two sales of a product, one on each page, and a fee of two products. -/
def ledgerAnswer : FinanceRequest → OzonAnswer
  | .types => .ok (.object [("accrual_types", .array [.object [("id", .number "1"), ("name", .string "sale"),
      ("description", .string "")]])])
  | .byDay _ "" => .ok (.object [("accruals", .array [accrualOf "1" "10.00" ["55", "55"],
      accrualOf "9" "-1.25" ["55", "56"]]), ("last_id", .string "next")])
  | .byDay _ _ => .ok (.object [("accruals", .array [accrualOf "1" "2.5" ["55"]]), ("last_id", .string "")])

theorem finance_ledger_conserved_two_pages : ∃ trace facts types,
    (collectFinanceFacts august 20684 20684).Runs trace (.ok facts) ∧
      facts = [⟨20684, none, .other, -125, 1, 1⟩, ⟨20684, some 55, .sale, 1250, 2, 0⟩] ∧
        Conserved types (ledgerLines trace) facts := by
  have hok : (collectFinanceFacts august 20684 20684).eval (fun request => .ok (ledgerAnswer request)) =
      .ok [⟨20684, none, .other, -125, 1, 1⟩, ⟨20684, some 55, .sale, 1250, 2, 0⟩] := by decide +kernel
  have hrun := Prog.runs_eval ledgerAnswer (collectFinanceFacts august 20684 20684)
  rw [hok] at hrun
  obtain ⟨types, days, -, hconserved, -⟩ := finance_ledger_conserved hrun
  exact ⟨_, _, types, hrun, rfl, hconserved⟩

end AdsControl.Reporting.OzonFinance
