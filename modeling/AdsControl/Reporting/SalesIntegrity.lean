import AdsControl.Reporting.WbSales

/-!
# Integrity of the collected sales

What a successful collection of sales guarantees, for every sequence of responses: no sale is lost, counted
twice or made up.

* `SalesExchange`: a request with its reply;
* `SalesCertificate`: why the facts are complete;
* **`collected_sales`**: the guarantee.
-/

namespace AdsControl.Reporting

open Fallible Interaction Interaction.Prog Machine OrderedMap Std

/-! ## Exchanges -/

section Exchanges

variable {V : Type} (adapter : WbSalesAdapter V)

/-- A request with its reply. -/
abbrev SalesExchange (V : Type) : Type := SalesRequest × Except WbReportSourceError V

/-- The rows of a page of the walk or of the closing pass. -/
def pageRows : SalesExchange V → List CollectedSalesFact
  | (.page _ _, .ok reply) => (adapter.parseSalesPage reply).toOption.elim [] Prod.fst
  | (.closingPage _ _, .ok reply) => (adapter.parseSalesPage reply).toOption.elim [] Prod.fst
  | _ => []

/-- The rows of all pages. -/
def reportedRows (exchanges : List (SalesExchange V)) : List CollectedSalesFact :=
  exchanges.flatMap (pageRows adapter)

/-- A page of the walk over a day. -/
def IsWalkPage (date : ℤ) (exchange : SalesExchange V) : Prop := ∃ offset, exchange.1 = .page date offset

/-- A history of some products that confirms units and amount of a row. -/
def ConfirmedBy (date : ℤ) (exchange : SalesExchange V) (row : CollectedSalesFact) : Prop :=
  ∃ ids reply history, exchange = (.history date ids, .ok reply) ∧ row.sku ∈ ids ∧
    adapter.parseSalesHistory reply = .ok history ∧ ∃ row' ∈ history, row'.sales = row.sales

/-- Nothing is known about cancelled and returned units. -/
def EventsUnknown (facts : List CollectedSalesFact) : Prop :=
  ∀ row ∈ facts, row.cancelledUnits = none ∧ row.returnedUnits = none

/-- Why the facts of a day are complete. -/
inductive SalesCertificate (date : ℤ) (exchanges : List (SalesExchange V)) (facts : List CollectedSalesFact) :
    Prop
  /-- A walk up to its first short page, without a repeated product, is the result. -/
  | walked (last : SalesExchange V) (full : List (SalesExchange V)) (hexchanges : exchanges = full ++ [last])
      (hpages : ∀ exchange ∈ exchanges, IsWalkPage date exchange)
      (hfull : ∀ exchange ∈ full, salesPageSize ≤ (pageRows adapter exchange).length)
      (hshort : (pageRows adapter last).length < salesPageSize)
      (hunique : ((reportedRows adapter exchanges).map CollectedSalesFact.key).Nodup)
      (hfacts : facts = reportedRows adapter exchanges)
  /-- The totals of every day are those of the account, read after all pages. -/
  | totals (before : List (SalesExchange V)) (closing : Bool) (reply : V) (control : SalesTotals)
      (hexchanges : exchanges = before ++ [(.control date closing, .ok reply)])
      (hcontrol : adapter.parseSalesControlTotals reply date = .ok control)
      (hmatch : ∀ day, dayTotal facts day = control[day]?.getD (0, 0))
      (hunknown : EventsUnknown facts)
  /-- The amount misses the account by one ruble, every product is confirmed by its history, and the
  account reports the same totals again. -/
  | ruble (before histories : List (SalesExchange V)) (reply stableReply : V) (control : SalesTotals)
      (certificate : RubleCertificate) (expected : ℕ × ℕ)
      (hexchanges : exchanges = before ++ (.control date true, .ok reply) :: histories ++
        [(.stableControl date certificate, .ok stableReply)])
      (hhistories : ∀ exchange ∈ histories, ∃ ids, exchange.1 = .history date ids)
      (hcontrol : adapter.parseSalesControlTotals reply date = .ok control)
      (hstable : adapter.parseSalesControlTotals stableReply date = .ok control)
      (hexpected : control[date]? = some expected)
      (hunits : (dayTotal facts date).1 = expected.1)
      (hamount : Nat.dist (dayTotal facts date).2 expected.2 = 100)
      (hwhole : expected.2 % 100 = 0 ∧ ∀ row ∈ facts, row.operationalGmvMinor % 100 = 0)
      (hconfirmed : ∀ row ∈ facts, row.isUnsold = false →
        ∃ exchange ∈ histories, ConfirmedBy adapter date exchange row)
      (hunknown : EventsUnknown facts)

/-- What a successful collection guarantees. -/
structure CollectedSales (date : ℤ) (exchanges : List (SalesExchange V)) (facts : List CollectedSalesFact) :
    Prop where
  unique : (facts.map CollectedSalesFact.key).Nodup
  dated : ∀ row ∈ facts, row.businessDate = date
  reported : ∀ row ∈ facts, ∃ row' ∈ reportedRows adapter exchanges, row'.sales = row.sales
  certificate : SalesCertificate adapter date exchanges facts

end Exchanges

section Reading

variable {V : Type} {adapter : WbSalesAdapter V} {dates : DateText} {date : ℤ}
  {answer : Except WbReportSourceError V}

theorem parseSalesPage_length {reply : V} {rows : List CollectedSalesFact} {sourceRows : ℕ}
    (h : adapter.parseSalesPage reply = .ok (rows, sourceRows)) : sourceRows = rows.length := by
  simp only [WbSalesAdapter.parseSalesPage, ok_of_bind, ok_of_pure, Prod.mk.injEq] at h
  obtain ⟨facts, -, -, -, -, -, rfl, rfl⟩ := h
  rfl

theorem parseSalesHistory_unique {reply : V} {history : List CollectedSalesFact}
    (h : adapter.parseSalesHistory reply = .ok history) :
    (history.map CollectedSalesFact.key).Nodup := by
  simp only [WbSalesAdapter.parseSalesHistory, WbSalesAdapter.ensureUnique, ok_of_bind, ensure_eq_ok,
    ok_of_pure] at h
  obtain ⟨facts, -, -, -, -, hunique, rfl⟩ := h
  exact hunique

theorem page_read {offset : ℕ} {rows : List CollectedSalesFact} {sourceRows : ℕ}
    (h : SalesRequest.normalize adapter dates (.page date offset) answer = .ok (rows, sourceRows)) :
    pageRows adapter (.page date offset, answer) = rows ∧ sourceRows = rows.length := by
  obtain ⟨reply, rfl, hparse⟩ := ok_of_bind.mp h
  have hparse := ok_of_mapError.mp hparse
  refine ⟨?_, parseSalesPage_length hparse⟩
  simp [pageRows, hparse, Except.toOption]

theorem closingPage_read {offset : ℕ} {rows : List CollectedSalesFact} {sourceRows : ℕ}
    (h : SalesRequest.normalize adapter dates (.closingPage date offset) answer = .ok (rows, sourceRows)) :
    pageRows adapter (.closingPage date offset, answer) = rows := by
  obtain ⟨reply, rfl, hparse⟩ := ok_of_bind.mp h
  have hparse := ok_of_mapError.mp hparse
  simp [pageRows, hparse, Except.toOption]

theorem control_read {closing : Bool} {control : SalesTotals}
    (h : SalesRequest.normalize adapter dates (.control date closing) answer = .ok control) :
    ∃ reply, answer = .ok reply ∧ adapter.parseSalesControlTotals reply date = .ok control := by
  obtain ⟨reply, hreply, hparse⟩ := ok_of_bind.mp h
  exact ⟨reply, hreply, ok_of_mapError.mp hparse⟩

theorem history_read {ids : List ℕ} {history : List CollectedSalesFact}
    (h : SalesRequest.normalize adapter dates (.history date ids) answer = .ok history) :
    ∃ reply, answer = .ok reply ∧ adapter.parseSalesHistory reply = .ok history := by
  obtain ⟨reply, hreply, hparse⟩ := ok_of_bind.mp h
  exact ⟨reply, hreply, ok_of_mapError.mp hparse⟩

theorem stableControl_read {certificate : RubleCertificate} {evidence : Serde.Json}
    (h : SalesRequest.normalize adapter dates (.stableControl date certificate) answer = .ok evidence) :
    ∃ reply, answer = .ok reply ∧ adapter.parseSalesControlTotals reply date = .ok certificate.control := by
  obtain ⟨reply, hreply, h⟩ := ok_of_bind.mp h
  obtain ⟨control, hparse, h⟩ := ok_of_bind.mp h
  obtain ⟨_, hstable, -⟩ := ok_of_bind.mp h
  rw [ok_of_mapError, ensure_eq_ok.mp hstable] at hparse
  exact ⟨reply, hreply, hparse⟩

end Reading

/-! ## The closing pass -/

section Closing

variable {V : Type} {adapter : WbSalesAdapter V} {dates : DateText} {date : ℤ}
  {walked : List CollectedSalesFact} {pages : SalesPages} {exchanges : List (SalesExchange V)}

theorem dated_of_reported (hwalked : ∀ row ∈ walked, row.businessDate = date) {row : CollectedSalesFact}
    (h : row.sales ∈ walked.map CollectedSalesFact.sales) : row.businessDate = date := by
  obtain ⟨row', hrow', hsales⟩ := List.mem_map.mp h
  have hkey : row'.key = row.key := congrArg Prod.fst hsales
  have hdate : row'.businessDate = row.businessDate := congrArg (fun k => (ofLex k).1) hkey
  exact hdate ▸ hwalked row' hrow'

/-- The facts were reported when the rows were. -/
theorem SalesInv.reported_intoFacts (h : SalesInv walked pages) :
    ∀ row ∈ pages.intoFacts, row.sales ∈ walked.map CollectedSalesFact.sales := by
  intro row hrow
  have hmem : row.sales ∈ pages.intoFacts.map CollectedSalesFact.sales := List.mem_map_of_mem hrow
  rw [map_intoFacts pages sales_withoutEvents] at hmem
  obtain ⟨row', hrow', hsales⟩ := List.mem_map.mp hmem
  exact hsales ▸ h.reported row' hrow'

/-- **The closing pass** reports what its pages reported, for the requested day. -/
theorem closingLoop_answered {previousUnits page remaining : ℕ} {fresh : List CollectedSalesFact}
    (hinv : SalesInv walked pages)
    (h : (closingLoop date pages previousUnits page remaining).Answered
      (SalesRequest.normalize adapter dates) exchanges fresh) :
    (∀ row ∈ reportedRows adapter exchanges, row.businessDate = date) ∧
      ∀ row ∈ fresh, row.sales ∈ (walked ++ reportedRows adapter exchanges).map CollectedSalesFact.sales := by
  induction remaining generalizing walked pages previousUnits page exchanges with
  | zero => exact absurd h answered_fail
  | succ remaining ih =>
    simp only [closingLoop, SalesRequest.ask, answered_ofExcept_bind, answered_perform_bind] at h
    obtain ⟨offset, -, answer, ⟨rows, sourceRows⟩, rest, rfl, hread, h⟩ := h
    simp only [answered_ofExcept_bind, ensure_eq_ok, context_eq_ok] at h
    obtain ⟨-, hvalid, previous, -, pages', hadd, h⟩ := h
    have hrows := closingPage_read hread
    have hinv' := hinv.add hadd
    have hreported : reportedRows adapter ((.closingPage date offset, answer) :: rest) =
        rows ++ reportedRows adapter rest := by
      rw [reportedRows, List.flatMap_cons, hrows]
      rfl
    rw [hreported, ← List.append_assoc]
    have hdated : (∀ row ∈ reportedRows adapter rest, row.businessDate = date) →
        ∀ row ∈ rows ++ reportedRows adapter rest, row.businessDate = date := by
      intro hrest row hrow
      rcases List.mem_append.mp hrow with hrow | hrow
      · exact hvalid.2 row hrow
      · exact hrest row hrow
    split at h
    · obtain ⟨rfl, rfl⟩ := h
      refine ⟨hdated (List.forall_mem_nil _), fun row hrow => ?_⟩
      rw [show reportedRows adapter ([] : List (SalesExchange V)) = [] from rfl, List.append_nil]
      exact hinv'.reported_intoFacts row hrow
    · obtain ⟨hrest, hfresh⟩ := ih hinv' h
      exact ⟨hdated hrest, hfresh⟩

end Closing

/-! ## The difference of one ruble -/

section Ruble

variable {V : Type} {adapter : WbSalesAdapter V} {dates : DateText} {date : ℤ}
  {facts : List CollectedSalesFact} {exchanges : List (SalesExchange V)}

/-- What a row of a candidate satisfies. -/
structure WholeRuble (date : ℤ) (row : CollectedSalesFact) : Prop where
  dated : row.businessDate = date
  whole : row.operationalGmvMinor % 100 = 0
  sold : row.orderedUnits = 0 → row.operationalGmvMinor = 0

theorem addCandidates_eq {start total : ℕ × ℕ} (h : facts.foldlM (addCandidate date) start = some total) :
    total = start + dayTotal facts date ∧ ∀ row ∈ facts, WholeRuble date row := by
  induction facts generalizing start with
  | nil =>
    simp only [List.foldlM_nil, Option.pure_def, Option.some.injEq] at h
    exact ⟨h.symm, List.forall_mem_nil _⟩
  | cons row facts ih =>
    rw [List.foldlM_cons, Option.bind_eq_bind, Option.bind_eq_some_iff] at h
    obtain ⟨next, hnext, h⟩ := h
    unfold addCandidate at hnext
    split_ifs at hnext with hrow
    simp only [Option.bind_eq_bind, Option.bind_eq_some_iff, Option.pure_def, Option.some.injEq,
      checkedAdd_eq_some] at hnext
    obtain ⟨units, ⟨rfl, -⟩, gmv, ⟨rfl, -⟩, rfl⟩ := hnext
    push Not at hrow
    obtain ⟨htotal, hrows⟩ := ih h
    refine ⟨?_, fun row' hrow' => ?_⟩
    · rw [htotal, dayTotal_cons, if_pos hrow.1, ← add_assoc]
      rfl
    · rcases List.mem_cons.mp hrow' with rfl | hrow'
      · exact ⟨hrow.1, hrow.2.1, hrow.2.2⟩
      · exact hrows row' hrow'

theorem candidate_eq_some {control : SalesTotals} {total : ℕ × ℕ}
    (h : candidate date facts control = some total) :
    ∃ expected, control[date]? = some expected ∧ (dayTotal facts date).1 = expected.1 ∧
      Nat.dist (dayTotal facts date).2 expected.2 = 100 ∧ expected.2 % 100 = 0 ∧
      ∀ row ∈ facts, WholeRuble date row := by
  unfold candidate at h
  split_ifs at h
  simp only [Option.bind_eq_bind, Option.bind_eq_some_iff] at h
  obtain ⟨expected, hexpected, total', htotal, h⟩ := h
  split_ifs at h with hcandidate
  obtain ⟨heq, hrows⟩ := addCandidates_eq htotal
  have hday : total' = dayTotal facts date := by
    rw [heq]
    exact zero_add _
  rw [hday] at hcandidate
  obtain ⟨-, hunits, hwhole, hamount⟩ := hcandidate
  exact ⟨expected, hexpected, hunits, hamount, hwhole, hrows⟩

theorem expectedSales_of_mem {chunk : List CollectedSalesFact}
    (hunique : (chunk.map CollectedSalesFact.sku).Nodup) {row : CollectedSalesFact} (h : row ∈ chunk) :
    (expectedSales chunk)[row.sku]? = some row.total := by
  induction chunk using List.reverseRecOn with
  | nil => cases h
  | append_singleton chunk last ih =>
    rw [List.map_append, List.map_singleton, List.nodup_append] at hunique
    rw [expectedSales, List.foldl_append, List.foldl_cons, List.foldl_nil, getElem?_put]
    rcases List.mem_append.mp h with h | h
    · have hne : last.sku ≠ row.sku := fun heq =>
        hunique.2.2 row.sku (List.mem_map_of_mem h) last.sku (List.mem_singleton_self _) heq.symm
      rw [if_neg hne]
      exact ih hunique.1 h
    · rw [List.mem_singleton.mp h, if_pos rfl]

theorem nodup_sku {rows : List CollectedSalesFact} (hdated : ∀ row ∈ rows, row.businessDate = date)
    (h : (rows.map CollectedSalesFact.key).Nodup) : (rows.map CollectedSalesFact.sku).Nodup := by
  have hkeys : rows.map CollectedSalesFact.key =
      (rows.map CollectedSalesFact.sku).map fun sku => (toLex (date, sku) : SalesKey) := by
    rw [List.map_map]
    refine List.map_congr_left fun row hrow => ?_
    rw [CollectedSalesFact.key, hdated row hrow]
    rfl
  rw [hkeys] at h
  exact h.of_map

/-- **A history that confirms a batch reports every row of it.** -/
theorem confirms_row {chunk history : List CollectedSalesFact}
    (hunique : (chunk.map CollectedSalesFact.sku).Nodup)
    (hhistory : (history.map CollectedSalesFact.key).Nodup) (h : confirms date chunk history)
    {row : CollectedSalesFact} (hrow : row ∈ chunk) (hdated : row.businessDate = date) :
    ∃ row' ∈ history, row'.sales = row.sales := by
  obtain ⟨hlength, hrows⟩ := h
  have hskus := nodup_sku (fun row hrow => (hrows row hrow).1) hhistory
  have hkeys : ∀ sku ∈ history.map CollectedSalesFact.sku, sku ∈ (expectedSales chunk).keys.toFinset := by
    intro sku hsku
    obtain ⟨row', hrow', rfl⟩ := List.mem_map.mp hsku
    rw [List.mem_toFinset, mem_keys_iff, (hrows row' hrow').2]
    rfl
  have hcard : (history.map CollectedSalesFact.sku).length = (expectedSales chunk).keys.toFinset.card := by
    rw [List.length_map, hlength, List.toFinset_card_of_nodup ExtTreeMap.nodup_keys, ExtTreeMap.length_keys]
  have hexpected := expectedSales_of_mem hunique hrow
  have hmem : row.sku ∈ history.map CollectedSalesFact.sku := by
    refine (length_eq_card_iff hskus hkeys).mp hcard row.sku ?_
    rw [List.mem_toFinset, mem_keys_iff, hexpected]
    rfl
  obtain ⟨row', hrow', hsku⟩ := List.mem_map.mp hmem
  obtain ⟨hdate', htotal⟩ := hrows row' hrow'
  rw [hsku, hexpected, Option.some.injEq] at htotal
  refine ⟨row', hrow', ?_⟩
  rw [CollectedSalesFact.sales, CollectedSalesFact.sales, CollectedSalesFact.key, CollectedSalesFact.key,
    hdate', hdated, hsku, htotal]

theorem confirmHistories_answered {batches : List (List CollectedSalesFact)} {u : Unit}
    (h : (confirmHistories date batches).Answered (SalesRequest.normalize adapter dates) exchanges u) :
    (∀ exchange ∈ exchanges, ∃ ids, exchange.1 = .history date ids) ∧
      ∀ chunk ∈ batches, ∃ exchange ∈ exchanges, ∃ reply history,
        exchange = (.history date (chunk.map CollectedSalesFact.sku), .ok reply) ∧
          adapter.parseSalesHistory reply = .ok history ∧ confirms date chunk history := by
  induction batches generalizing exchanges with
  | nil =>
    obtain ⟨rfl, -⟩ := h
    exact ⟨List.forall_mem_nil _, List.forall_mem_nil _⟩
  | cons first batches ih =>
    obtain ⟨answer, (history : List CollectedSalesFact), rest, rfl, hread, h⟩ := h
    replace h : ((Prog.ofExcept (ensure (confirms date first history) .salesPageOverlap) : SalesProg Unit) >>=
      fun _ => confirmHistories date batches).Answered (SalesRequest.normalize adapter dates) rest u := h
    simp only [answered_ofExcept_bind, ensure_eq_ok] at h
    obtain ⟨-, hconfirms, h⟩ := h
    obtain ⟨reply, rfl, hparse⟩ := history_read hread
    obtain ⟨hrest, hchunks⟩ := ih h
    constructor
    · intro exchange hexchange
      rcases List.mem_cons.mp hexchange with rfl | hexchange
      · exact ⟨_, rfl⟩
      · exact hrest exchange hexchange
    · intro chunk hchunk
      rcases List.mem_cons.mp hchunk with rfl | hchunk
      · exact ⟨_, List.mem_cons_self, reply, history, rfl, hparse, hconfirms⟩
      · obtain ⟨exchange, hexchange, hfound⟩ := hchunks chunk hchunk
        exact ⟨exchange, List.mem_cons_of_mem _ hexchange, hfound⟩

end Ruble

/-! ## The walks -/

section Walks

variable {V : Type} {adapter : WbSalesAdapter V} {dates : DateText} {date : ℤ} {pages : SalesPages}
  {before exchanges : List (SalesExchange V)} {facts : List CollectedSalesFact}

theorem reportedRows_append (first rest : List (SalesExchange V)) :
    reportedRows adapter (first ++ rest) = reportedRows adapter first ++ reportedRows adapter rest :=
  List.flatMap_append

theorem salesInv_empty : SalesInv [] SalesPages.empty :=
  ⟨indexed_empty, List.nodup_nil, List.forall_mem_nil _, fun _ => rfl⟩

theorem salesInv_discarded (walked : List CollectedSalesFact) :
    SalesInv walked { SalesPages.empty with zeroOverlap := true } :=
  ⟨indexed_empty, List.nodup_nil, List.forall_mem_nil _, fun h => by cases h⟩

theorem eventsUnknown_intoFacts (h : pages.zeroOverlap = true) : EventsUnknown pages.intoFacts := by
  intro row hrow
  rw [SalesPages.intoFacts, if_pos h] at hrow
  obtain ⟨row', -, rfl⟩ := List.mem_map.mp hrow
  exact ⟨rfl, rfl⟩

theorem SalesInv.collected {walked : List CollectedSalesFact} (h : SalesInv walked pages)
    (hdated : ∀ row ∈ walked, row.businessDate = date)
    (hwalked : ∀ row ∈ walked, row ∈ reportedRows adapter exchanges)
    (hcertificate : SalesCertificate adapter date exchanges pages.intoFacts) :
    CollectedSales adapter date exchanges pages.intoFacts := by
  have hreported := h.reported_intoFacts
  refine ⟨?_, fun row hrow => dated_of_reported hdated (hreported row hrow), fun row hrow => ?_, hcertificate⟩
  · rw [map_intoFacts pages key_withoutEvents]
    exact h.unique
  · obtain ⟨row', hrow', hsales⟩ := List.mem_map.mp (hreported row hrow)
    exact ⟨row', hwalked row' hrow', hsales⟩

/-- **One ruble**: the certificate of a difference that every product and the account confirm. -/
theorem verifyWholeRubleDifference_answered {control : SalesTotals} {reply : V} {u : Unit}
    (hunique : (facts.map CollectedSalesFact.key).Nodup) (hunknown : EventsUnknown facts)
    (hcontrol : adapter.parseSalesControlTotals reply date = .ok control)
    (h : (verifyWholeRubleDifference date facts control).Answered (SalesRequest.normalize adapter dates)
      exchanges u) :
    SalesCertificate adapter date (before ++ (.control date true, .ok reply) :: exchanges) facts := by
  simp only [verifyWholeRubleDifference, answered_ofExcept_bind, context_eq_ok,
    answered_bind (p := confirmHistories _ _), SalesRequest.ask, answered_perform_bind, answered_pure] at h
  obtain ⟨total, hcandidate, _, histories, _, rfl, hhistories, answer, evidence, rest, rfl, hread, rfl, -⟩ := h
  obtain ⟨expected, hexpected, hunits, hamount, hwhole, hrows⟩ := candidate_eq_some hcandidate
  obtain ⟨stableReply, rfl, hstable⟩ := stableControl_read hread
  obtain ⟨hasked, hchunks⟩ := confirmHistories_answered hhistories
  refine .ruble before histories reply stableReply control _ expected
    (List.append_assoc before (_ :: histories) [_]).symm hasked hcontrol hstable hexpected hunits hamount
    ⟨hwhole, fun row hrow => (hrows row hrow).whole⟩ (fun row hrow hsold => ?_) hunknown
  -- A row with sales is in one of the batches, and the history of the batch reports it.
  have hpositive : 0 < row.orderedUnits := by
    rw [Nat.pos_iff_ne_zero]
    intro hzero
    simp [CollectedSalesFact.isUnsold, hzero, (hrows row hrow).sold hzero] at hsold
  have hmem : row ∈ facts.filter fun row => decide (0 < row.orderedUnits) := by
    rw [List.mem_filter]
    exact ⟨hrow, decide_eq_true hpositive⟩
  obtain ⟨chunk, hchunk, hrowchunk⟩ := mem_chunks (show 0 < 20 by decide) hmem
  obtain ⟨exchange, hexchange, historyReply, history, rfl, hparse, hconfirms⟩ := hchunks chunk hchunk
  have hsublist : chunk.Sublist facts := (sublist_of_mem_chunks hchunk).trans List.filter_sublist
  have hskus : (chunk.map CollectedSalesFact.sku).Nodup :=
    nodup_sku (fun row hrow => (hrows row (hsublist.subset hrow)).dated)
      (hunique.sublist (hsublist.map CollectedSalesFact.key))
  refine ⟨_, hexchange, _, historyReply, history, rfl, List.mem_map_of_mem hrowchunk, hparse, ?_⟩
  exact confirms_row hskus (parseSalesHistory_unique hparse) hconfirms hrowchunk (hrows row hrow).dated

/-- **The closing pass certifies its sales.** -/
theorem closeSales_answered (hinv : SalesInv (reportedRows adapter before) pages)
    (hbefore : ∀ row ∈ reportedRows adapter before, row.businessDate = date)
    (h : (closeSales date pages).Answered (SalesRequest.normalize adapter dates) exchanges facts) :
    CollectedSales adapter date (before ++ exchanges) facts := by
  rw [closeSales, answered_bind] at h
  obtain ⟨fresh, closing, _, rfl, hclosing, h⟩ := h
  simp only [answered_ofExcept_bind, context_eq_ok, SalesRequest.ask, answered_perform_bind] at h
  obtain ⟨pages', hrefresh, answer, control, rest, rfl, hread, h⟩ := h
  obtain ⟨reply, rfl, hcontrol⟩ := control_read hread
  obtain ⟨hdated, hfresh⟩ := closingLoop_answered salesInv_empty hclosing
  rw [List.nil_append] at hfresh
  obtain ⟨hinv', hmarked, -⟩ := hinv.refreshSales hfresh hrefresh
  have hdated' : ∀ row ∈ reportedRows adapter before ++ reportedRows adapter closing,
      row.businessDate = date := by
    intro row hrow
    rcases List.mem_append.mp hrow with hrow | hrow
    · exact hbefore row hrow
    · exact hdated row hrow
  have hrows : ∀ row ∈ reportedRows adapter before ++ reportedRows adapter closing,
      row ∈ reportedRows adapter (before ++ (closing ++ (.control date true, .ok reply) :: rest)) := by
    intro row hrow
    rw [← reportedRows_append] at hrow
    rw [← List.append_assoc, reportedRows_append]
    exact List.mem_append_left _ hrow
  have hunique : (pages'.intoFacts.map CollectedSalesFact.key).Nodup := by
    rw [map_intoFacts pages' key_withoutEvents]
    exact hinv'.unique
  have hunknown := eventsUnknown_intoFacts hmarked
  split at h
  · rename_i hmatch
    obtain ⟨rfl, rfl⟩ := h
    refine hinv'.collected hdated' hrows ?_
    refine .totals (before ++ closing) true reply control (List.append_assoc ..).symm hcontrol
      (fun day => ?_) hunknown
    rw [dayTotal_intoFacts]
    exact dayTotal_of_matches hmatch day
  · obtain ⟨_, verified, _, rfl, hverified, rfl, rfl⟩ := answered_bind.mp h
    refine hinv'.collected hdated' hrows ?_
    rw [List.append_nil, ← List.append_assoc]
    exact verifyWholeRubleDifference_answered hunique hunknown hcontrol hverified

/-- **The end of a complete walk.** -/
theorem finishWalk_answered {full : List (SalesExchange V)} {last : SalesExchange V}
    (hinv : SalesInv (reportedRows adapter (full ++ [last])) pages)
    (hdated : ∀ row ∈ reportedRows adapter (full ++ [last]), row.businessDate = date)
    (hpages : ∀ exchange ∈ full ++ [last], IsWalkPage date exchange)
    (hfull : ∀ exchange ∈ full, salesPageSize ≤ (pageRows adapter exchange).length)
    (hshort : (pageRows adapter last).length < salesPageSize)
    (h : (finishWalk date pages).Answered (SalesRequest.normalize adapter dates) exchanges facts) :
    CollectedSales adapter date (full ++ [last] ++ exchanges) facts := by
  unfold finishWalk at h
  split at h
  · rename_i hmarked
    simp only [SalesRequest.ask, answered_perform_bind] at h
    obtain ⟨answer, control, rest, rfl, hread, h⟩ := h
    obtain ⟨reply, rfl, hcontrol⟩ := control_read hread
    split at h
    · rename_i hmatch
      obtain ⟨rfl, rfl⟩ := h
      refine hinv.collected hdated (fun row hrow => ?_) ?_
      · rw [reportedRows_append (full ++ [last])]
        exact List.mem_append_left _ hrow
      · refine .totals (full ++ [last]) false reply control rfl hcontrol (fun day => ?_)
          (eventsUnknown_intoFacts hmarked)
        rw [dayTotal_intoFacts]
        exact dayTotal_of_matches hmatch day
    · have hcontrolRows : reportedRows adapter (full ++ [last] ++ [(.control date false, .ok reply)]) =
          reportedRows adapter (full ++ [last]) := by
        rw [reportedRows_append (full ++ [last])]
        exact List.append_nil _
      rw [← hcontrolRows] at hinv hdated
      have hclosed := closeSales_answered hinv hdated h
      rwa [List.append_assoc, List.singleton_append] at hclosed
  · rename_i hunmarked
    obtain ⟨rfl, rfl⟩ := h
    rw [Bool.not_eq_true] at hunmarked
    have hfacts : pages.intoFacts = reportedRows adapter (full ++ [last]) := by
      rw [SalesPages.intoFacts, if_neg (by simp [hunmarked])]
      exact hinv.exact hunmarked
    rw [List.append_nil]
    refine hinv.collected hdated (fun row hrow => hrow) ?_
    refine .walked last full rfl hpages hfull hshort ?_ hfacts
    rw [← hfacts, map_intoFacts pages key_withoutEvents]
    exact hinv.unique

/-- **The walk**, from its full pages so far. -/
theorem walkLoop_answered {page remaining : ℕ} (hinv : SalesInv (reportedRows adapter before) pages)
    (hdated : ∀ row ∈ reportedRows adapter before, row.businessDate = date)
    (hpages : ∀ exchange ∈ before, IsWalkPage date exchange)
    (hfull : ∀ exchange ∈ before, salesPageSize ≤ (pageRows adapter exchange).length)
    (h : (walkLoop date pages page remaining).Answered (SalesRequest.normalize adapter dates) exchanges facts) :
    CollectedSales adapter date (before ++ exchanges) facts := by
  induction remaining generalizing before pages page exchanges with
  | zero => exact absurd h answered_fail
  | succ remaining ih =>
    simp only [walkLoop, SalesRequest.ask, answered_ofExcept_bind, answered_perform_bind] at h
    obtain ⟨offset, -, answer, ⟨rows, sourceRows⟩, rest, rfl, hread, h⟩ := h
    simp only [answered_ofExcept_bind, ensure_eq_ok] at h
    obtain ⟨-, hvalid, h⟩ := h
    obtain ⟨hrows, hlength⟩ := page_read hread
    have hreported : reportedRows adapter (before ++ [(.page date offset, answer)]) =
        reportedRows adapter before ++ rows := by
      rw [reportedRows_append, ← hrows]
      exact congrArg _ (List.append_nil _)
    have hdated' : ∀ row ∈ reportedRows adapter (before ++ [(.page date offset, answer)]),
        row.businessDate = date := by
      rw [hreported]
      intro row hrow
      rcases List.mem_append.mp hrow with hrow | hrow
      · exact hdated row hrow
      · exact hvalid.2 row hrow
    have hpages' : ∀ exchange ∈ before ++ [(.page date offset, answer)], IsWalkPage date exchange := by
      intro exchange hexchange
      rcases List.mem_append.mp hexchange with hexchange | hexchange
      · exact hpages exchange hexchange
      · rw [List.mem_singleton.mp hexchange]
        exact ⟨offset, rfl⟩
    rw [← List.singleton_append, ← List.append_assoc]
    split at h
    · exact closeSales_answered (salesInv_discarded _) hdated' h
    · rename_i pages' hadd
      have hinv' := hreported ▸ hinv.add hadd
      split at h
      · rename_i hshort
        refine finishWalk_answered hinv' hdated' hpages' hfull ?_ h
        rwa [hrows, ← hlength]
      · rename_i hnot
        refine ih hinv' hdated' hpages' (fun exchange hexchange => ?_) h
        rcases List.mem_append.mp hexchange with hexchange | hexchange
        · exact hfull exchange hexchange
        · rw [List.mem_singleton.mp hexchange, hrows, ← hlength]
          exact Nat.le_of_not_lt hnot

end Walks

/-- **Collected sales are complete**, whatever the responses were: no sale is lost, doubled or invented. -/
theorem collected_sales {V : Type} (adapter : WbSalesAdapter V) (dates : DateText) (date : ℤ)
    (exchanges : List (SalesExchange V)) (facts : List CollectedSalesFact)
    (h : (collectSalesPages date).Answered (SalesRequest.normalize adapter dates) exchanges facts) :
    CollectedSales adapter date exchanges facts := by
  have hinv : SalesInv (reportedRows adapter []) SalesPages.empty := salesInv_empty
  exact walkLoop_answered hinv (List.forall_mem_nil _) (List.forall_mem_nil _) (List.forall_mem_nil _) h

/-! ## An overlapping walk -/

theorem SalesInv.addRows_fresh {walked rows : List CollectedSalesFact} {pages : SalesPages}
    {pageIds : List SalesKey} (h : SalesInv walked pages)
    (hfresh : ((pages.facts ++ rows).map CollectedSalesFact.key).Nodup)
    (hids : ∀ row ∈ rows, row.key ∉ pageIds) :
    ∃ pages', pages.addRows pageIds rows = some pages' ∧ pages'.facts = pages.facts ++ rows := by
  induction rows generalizing walked pages pageIds with
  | nil => exact ⟨pages, rfl, (List.append_nil _).symm⟩
  | cons row rows ih =>
    have hkeys : (pages.facts.map CollectedSalesFact.key ++
        row.key :: rows.map CollectedSalesFact.key).Nodup := by
      rwa [List.map_append, List.map_cons] at hfresh
    have hnew : row.key ∉ pages.facts.map CollectedSalesFact.key := fun hold =>
      (List.nodup_append.mp hkeys).2.2 _ hold _ List.mem_cons_self rfl
    have hadded : pages.addRows pageIds [row] = some ⟨pages.facts ++ [row],
        pages.identities.insert row.key pages.facts.length, pages.zeroOverlap⟩ := by
      rw [SalesPages.addRows, if_neg (hids row List.mem_cons_self), h.indexed.fresh.mpr hnew]
      rfl
    have hrest : ∀ row' ∈ rows, row'.key ∉ row.key :: pageIds := by
      intro row' hrow' hmem
      rcases List.mem_cons.mp hmem with heq | hmem
      · exact (List.nodup_cons.mp (List.nodup_append.mp hkeys).2.1).1 (heq ▸ List.mem_map_of_mem hrow')
      · exact hids row' (List.mem_cons_of_mem _ hrow') hmem
    obtain ⟨pages', hadd, hfacts⟩ := ih (h.addRows hadded) (by rwa [List.append_assoc]) hrest
    refine ⟨pages', ?_, by rw [hfacts, List.append_assoc, List.singleton_append]⟩
    rw [SalesPages.addRows, if_neg (hids row List.mem_cons_self), h.indexed.fresh.mpr hnew]
    exact hadd

/-- A sale may not be repeated. -/
theorem SalesInv.add_repeated {walked rows : List CollectedSalesFact} {pages : SalesPages}
    {row : CollectedSalesFact} (h : SalesInv walked pages) (hrow : row ∈ pages.facts) (hsold : ¬ row.isZero) :
    pages.add (row :: rows) = none := by
  obtain ⟨i, hi⟩ := List.mem_iff_getElem?.mp hrow
  rw [SalesPages.add, SalesPages.addRows, if_neg List.not_mem_nil, (h.indexed row.key i).mpr ⟨row, hi, rfl⟩]
  exact if_neg fun hzero => hsold hzero.2

/-- Replies that are rows already. -/
def plainRows : WbSalesAdapter (List CollectedSalesFact) := ⟨.ok, .ok, fun rows day => .ok (dayTotal rows day)⟩

/-- A product that was sold. -/
def soldRow : CollectedSalesFact := ⟨20000, 1, 2, 19900, none, none⟩

/-- A product that was not. -/
def unsoldRow : CollectedSalesFact := ⟨20000, 2, 0, 0, none, none⟩

/-- A full page: a sold product, then unsold ones. -/
def fullPage : List CollectedSalesFact :=
  (List.range 250).map fun i => if i = 0 then soldRow else { unsoldRow with sku := i + 1 }

/-- The page after a full one repeats the sold product, so that the sales are read again in a closing walk;
the account confirms its totals. -/
def overlappingWalk (rows : List CollectedSalesFact) : List (SalesExchange (List CollectedSalesFact)) :=
  [(.page 20000 0, .ok rows), (.page 20000 250, .ok [soldRow]),
    (.closingPage 20000 0, .ok [soldRow, unsoldRow]), (.control 20000 true, .ok [soldRow])]

theorem walkLoop_page {V : Type} {adapter : WbSalesAdapter V} {dates : DateText} {date : ℤ} {pages : SalesPages}
    {page remaining offset sourceRows : ℕ} {answer : Except WbReportSourceError V}
    {rows facts : List CollectedSalesFact} {exchanges : List (SalesExchange V)}
    (hoffset : pageOffset page salesPageSize = .ok offset)
    (hread : SalesRequest.normalize adapter dates (.page date offset) answer = .ok (rows, sourceRows))
    (hvalid : validSalesPage date rows sourceRows)
    (h : Prog.Answered (SalesRequest.normalize adapter dates) (match pages.add rows with
      | none => closeSales date { SalesPages.empty with zeroOverlap := true }
      | some pages =>
        if sourceRows < salesPageSize then finishWalk date pages
        else walkLoop date pages (page + 1) remaining) exchanges facts) :
    (walkLoop date pages page (remaining + 1)).Answered (SalesRequest.normalize adapter dates)
      ((.page date offset, answer) :: exchanges) facts := by
  rw [walkLoop, answered_ofExcept_bind]
  refine ⟨offset, hoffset, answer, (rows, sourceRows), exchanges, rfl, hread, ?_⟩
  exact answered_ofExcept_bind.mpr ⟨(), ensure_eq_ok.mpr hvalid, h⟩

theorem overlappingWalk_answered (dates : DateText) {rows : List CollectedSalesFact} {pages : SalesPages}
    (hread : plainRows.parseSalesPage rows = .ok (rows, 250)) (hvalid : validSalesPage 20000 rows 250)
    (hadd : SalesPages.empty.add rows = some pages) (hrepeated : pages.add [soldRow] = none) :
    (collectSalesPages 20000).Answered (SalesRequest.normalize plainRows dates) (overlappingWalk rows)
      [soldRow, unsoldRow] := by
  refine walkLoop_page rfl (ok_of_bind.mpr ⟨rows, rfl, ok_of_mapError.mpr hread⟩) hvalid ?_
  rw [hadd]
  refine walkLoop_page (rfl : pageOffset 1 salesPageSize = .ok 250) rfl (by decide) ?_
  rw [hrepeated]
  exact ⟨_, _, _, rfl, rfl, _, _, _, rfl, rfl, rfl, rfl⟩

theorem length_fullPage : fullPage.length = 250 := (List.length_map _).trans List.length_range

theorem nodup_fullPage : (fullPage.map CollectedSalesFact.key).Nodup := by
  have hkeys : fullPage.map CollectedSalesFact.key =
      (List.range 250).map fun i => (toLex (20000, i + 1) : SalesKey) := by
    rw [fullPage, List.map_map]
    refine List.map_congr_left fun i _ => ?_
    by_cases hi : i = 0 <;> simp [hi, CollectedSalesFact.key, soldRow, unsoldRow]
  rw [hkeys]
  exact List.nodup_range.map fun i i' heq => by simpa using heq

/-- A walk of two pages that is certified after a closing walk. -/
theorem collected_sales_overlap :
    (collectSalesPages 20000).Answered (SalesRequest.normalize plainRows (.naming 20000 "2024-10-04" (by decide)))
      (overlappingWalk fullPage) [soldRow, unsoldRow] ∧
    CollectedSales plainRows 20000 (overlappingWalk fullPage) [soldRow, unsoldRow] := by
  have hread : plainRows.parseSalesPage fullPage = .ok (fullPage, 250) := by
    have hrows : fullPage.length ≤ maxRows := length_fullPage.trans_le (by decide)
    refine ok_of_bind.mpr ⟨fullPage, rfl, ok_of_bind.mpr ⟨(), ensure_eq_ok.mpr hrows,
      ok_of_bind.mpr ⟨(), ensure_eq_ok.mpr nodup_fullPage, ?_⟩⟩⟩
    rw [length_fullPage]
    rfl
  have hvalid : validSalesPage 20000 fullPage 250 := by
    refine ⟨le_rfl, fun row hrow => ?_⟩
    obtain ⟨i, -, rfl⟩ := List.mem_map.mp hrow
    by_cases hi : i = 0 <;> simp [hi, soldRow, unsoldRow]
  have hsold : soldRow ∈ fullPage := List.mem_map.mpr ⟨0, List.mem_range.mpr (by decide), rfl⟩
  obtain ⟨pages, hadd, hfacts⟩ := salesInv_empty.addRows_fresh nodup_fullPage fun _ _ => List.not_mem_nil
  have hrepeated : pages.add [soldRow] = none :=
    (salesInv_empty.addRows hadd).add_repeated (hfacts ▸ hsold) (by decide)
  have hanswered := overlappingWalk_answered (.naming 20000 "2024-10-04" (by decide)) hread hvalid hadd hrepeated
  exact ⟨hanswered, collected_sales plainRows _ 20000 (overlappingWalk fullPage) _ hanswered⟩

end AdsControl.Reporting
