import AdsControl.Reporting.OzonStocks

/-!
# Totals and warehouses

Stock is known as one total or by warehouse. A product of a scheme is reported in one of both forms.

* `catalogRows`, `warehouseRows`, `Unsupported`: what a run was answered;
* `Part`: the facts of one scheme, **`part_totals`**, **`part_warehouses`**: each form of it;
* `DetailedStock`: what holds of the collected facts;
* **`detailed_stock_counted_once`**: stock is neither lost nor counted twice.
-/

namespace AdsControl.Reporting

open Fallible Interaction

/-! ## Identifiers -/

/-- A row of a warehouse. -/
def FromWarehouse (scheme : StockScheme) (fact : CollectedStockFact) : Prop :=
  ∃ id, fact.warehouseId = scheme.warehouseId id

/-- A total or a row of a warehouse. -/
def OfScheme (scheme : StockScheme) (fact : CollectedStockFact) : Prop :=
  fact.warehouseId = scheme.dimension ∨ FromWarehouse scheme fact

theorem dimension_injective {scheme scheme' : StockScheme} (h : scheme.dimension = scheme'.dimension) :
    scheme = scheme' := by
  have hname : scheme.asStr = scheme'.asStr := (String.append_right_inj _).mp h
  revert hname
  cases scheme <;> cases scheme' <;> decide

theorem toList_warehouseId (scheme : StockScheme) (id : ℤ) :
    (scheme.warehouseId id).toList.take 3 = (scheme.asStr ++ ":").toList.take 3 := by
  rw [StockScheme.warehouseId, String.toList_append, List.take_append_of_le_length]
  cases scheme <;> decide

theorem toList_dimension (scheme : StockScheme) : scheme.dimension.toList.take 3 = ['s', 'k', 'u'] := by
  cases scheme <;> decide +kernel

theorem warehouseId_ne_dimension (scheme scheme' : StockScheme) (id : ℤ) :
    scheme.warehouseId id ≠ scheme'.dimension := by
  intro h
  have hname : scheme'.dimension.toList.take 3 = (scheme.asStr ++ ":").toList.take 3 := by
    rw [← h]
    exact toList_warehouseId scheme id
  rw [toList_dimension] at hname
  revert hname
  cases scheme <;> decide +kernel

theorem scheme_of_warehouseId {scheme scheme' : StockScheme} {id id' : ℤ}
    (h : scheme.warehouseId id = scheme'.warehouseId id') : scheme = scheme' := by
  have hname := toList_warehouseId scheme id
  rw [h, toList_warehouseId] at hname
  revert hname
  cases scheme <;> cases scheme' <;> decide

theorem OfScheme.unique {scheme scheme' : StockScheme} {fact : CollectedStockFact}
    (h : OfScheme scheme fact) (h' : OfScheme scheme' fact) : scheme = scheme' := by
  rcases h with h | ⟨id, h⟩ <;> rcases h' with h' | ⟨id', h'⟩
  · exact dimension_injective (h.symm.trans h')
  · exact absurd (h'.symm.trans h) (warehouseId_ne_dimension _ _ _)
  · exact absurd (h.symm.trans h') (warehouseId_ne_dimension _ _ _)
  · exact scheme_of_warehouseId (h.symm.trans h')

/-! ## What a run was answered -/

/-- The facts of a page of the catalog. -/
def catalogPage : OzonExchange OzonStockRequest → List CollectedStockFact
  | ⟨.catalog _, .ok response⟩ => (parseOzonStockPage response).toOption.getD []
  | _ => []

/-- The rows of the catalog. -/
def catalogRows (trace : List (OzonExchange OzonStockRequest)) : List CollectedStockFact :=
  trace.flatMap catalogPage

/-- The facts of a page of a scheme's warehouses. -/
def warehousePage (scheme : StockScheme) : OzonExchange OzonStockRequest → List CollectedStockFact
  | ⟨.warehouse asked _ _, .ok response⟩ =>
    if asked = scheme then (parseWarehouseStockPage response scheme).toOption.getD [] else []
  | _ => []

/-- The rows received from the warehouses of a scheme. -/
def warehouseRows (scheme : StockScheme) (trace : List (OzonExchange OzonStockRequest)) :
    List CollectedStockFact := trace.flatMap (warehousePage scheme)

/-- A request for warehouses of a scheme. -/
def AsksWarehouses (scheme : StockScheme) (request : OzonStockRequest) : Prop :=
  ∃ ids cursor, request = .warehouse scheme ids cursor

/-- The source of a scheme is not offered for some chunk. -/
def Unsupported (scheme : StockScheme) (trace : List (OzonExchange OzonStockRequest)) : Prop :=
  ∃ exchange ∈ trace, AsksWarehouses scheme exchange.1 ∧ ∃ e : OzonReportSourceError,
    exchange.2 = Except.error e ∧ e.isUnsupported

section Requests

variable {scheme scheme' : StockScheme} {trace : List (OzonExchange OzonStockRequest)}

theorem catalogRows_of_warehouses (h : ∀ exchange ∈ trace, AsksWarehouses scheme exchange.1) :
    catalogRows trace = [] := by
  refine List.flatMap_eq_nil_iff.mpr fun exchange hexchange => ?_
  obtain ⟨request, answer⟩ := exchange
  obtain ⟨ids, cursor, rfl⟩ := h _ hexchange
  rfl

theorem warehouseRows_of_other (hne : scheme' ≠ scheme)
    (h : ∀ exchange ∈ trace, AsksWarehouses scheme' exchange.1) : warehouseRows scheme trace = [] := by
  refine List.flatMap_eq_nil_iff.mpr fun exchange hexchange => ?_
  obtain ⟨request, answer⟩ := exchange
  obtain ⟨ids, cursor, rfl⟩ := h _ hexchange
  cases answer with
  | error e => rfl
  | ok response => exact if_neg hne

theorem warehouseRows_of_catalog (h : ∀ exchange ∈ trace, ∃ cursor, exchange.1 = .catalog cursor) :
    warehouseRows scheme trace = [] := by
  refine List.flatMap_eq_nil_iff.mpr fun exchange hexchange => ?_
  obtain ⟨request, answer⟩ := exchange
  obtain ⟨cursor, rfl⟩ := h _ hexchange
  rfl

theorem unsupported_append {first rest : List (OzonExchange OzonStockRequest)} :
    Unsupported scheme (first ++ rest) ↔ Unsupported scheme first ∨ Unsupported scheme rest := by
  simp only [Unsupported, List.mem_append, or_and_right, exists_or]

theorem not_unsupported_of_other (hne : scheme' ≠ scheme)
    (h : ∀ exchange ∈ trace, AsksWarehouses scheme' exchange.1) : ¬ Unsupported scheme trace := by
  rintro ⟨exchange, hexchange, ⟨ids, cursor, hrequest⟩, -⟩
  obtain ⟨ids', cursor', hother⟩ := h _ hexchange
  rw [hrequest] at hother
  exact hne (OzonStockRequest.warehouse.inj hother).1.symm

theorem not_unsupported_of_catalog (h : ∀ exchange ∈ trace, ∃ cursor, exchange.1 = .catalog cursor) :
    ¬ Unsupported scheme trace := by
  rintro ⟨exchange, hexchange, ⟨ids, cursor, hrequest⟩, -⟩
  obtain ⟨cursor', hother⟩ := h _ hexchange
  rw [hrequest] at hother
  cases hother

end Requests

/-! ## Pages -/

section Pages

variable {scheme : StockScheme} {ids : List ℕ} {trace : List (OzonExchange OzonStockRequest)}
  {facts facts' : List CollectedStockFact} {cursor next : Option String}

theorem runs_collectProductPage {R Fact : Type} {request : Option String → R}
    {parse : Document → Except OzonReportParseError (List Fact)} {invalid : OzonReportSourceError}
    {trace : List (OzonExchange R)} {facts facts' : List Fact}
    (h : (collectProductPage request parse invalid facts cursor).Runs trace (.ok (facts', next))) :
    ∃ response rows, trace = [⟨request cursor, .ok response⟩] ∧ parse response = .ok rows ∧
      facts' = facts ++ rows := by
  obtain ⟨_, -, h⟩ := Prog.runs_ofExcept_bind.mp h
  obtain ⟨response, first, rest, rfl, hpost, h⟩ := Prog.runs_bind_ok.mp h
  obtain ⟨rows, hrows, h⟩ := Prog.runs_ofExcept_bind.mp h
  obtain ⟨_, -, h⟩ := Prog.runs_ofExcept_bind.mp h
  obtain ⟨rfl, heq⟩ := Prog.runs_pure.mp h
  rw [runs_post.mp hpost]
  exact ⟨response, rows, rfl, ok_of_mapError.mp hrows, (Prod.mk.inj heq).1⟩

theorem runs_catalog {catalog : List CollectedStockFact}
    (h : (collectProductPages OzonStockRequest.catalog parseOzonStockPage .invalidStocksResponse).Runs trace
      (.ok catalog)) :
    catalog = catalogRows trace ∧ ∀ exchange ∈ trace, ∃ cursor, exchange.1 = .catalog cursor := by
  have hstart : ([] : List CollectedStockFact) = catalogRows [] ∧
      ∀ exchange ∈ ([] : List (OzonExchange OzonStockRequest)), ∃ cursor, exchange.1 = .catalog cursor :=
    ⟨rfl, List.forall_mem_nil _⟩
  refine (runs_walk.mp h).invariant (P := fun trace facts => facts = catalogRows trace ∧
    ∀ exchange ∈ trace, ∃ cursor, exchange.1 = .catalog cursor) ?_ hstart
  rintro before _ cursor trace facts' next ⟨rfl, hbefore⟩ hpage
  obtain ⟨response, rows, rfl, hrows, rfl⟩ := runs_collectProductPage hpage
  refine ⟨?_, List.forall_mem_append.mpr ⟨hbefore, List.forall_mem_singleton.mpr ⟨cursor, rfl⟩⟩⟩
  rw [catalogRows, catalogRows, List.flatMap_append, List.flatMap_singleton, catalogPage, hrows]
  rfl

theorem runs_fetchWarehousePage {rows : List CollectedStockFact}
    (h : (fetchWarehousePage scheme ids cursor).Runs trace (.ok (some (rows, next)))) :
    ∃ response, trace = [⟨.warehouse scheme ids cursor, .ok response⟩] ∧
      parseWarehouseStockPage response scheme = .ok rows ∧ ∀ row ∈ rows, row.sku ∈ ids := by
  obtain ⟨answer, first, rest, rfl, hfirst, hrest⟩ := Prog.runs_bind_ok.mp h
  obtain rfl := Prog.runs_perform.mp hfirst
  cases answer with
  | error e =>
    dsimp only at hrest
    by_cases he : e.isUnsupported = true
    · rw [if_pos he] at hrest
      obtain ⟨-, ⟨⟩⟩ := Prog.runs_pure.mp hrest
    · rw [if_neg he] at hrest
      obtain ⟨-, ⟨⟩⟩ := hrest
  | ok response =>
    obtain ⟨rows', hrows, hrest⟩ := Prog.runs_ofExcept_bind.mp hrest
    obtain ⟨_, hids, hrest⟩ := Prog.runs_ofExcept_bind.mp hrest
    obtain ⟨_, -, hrest⟩ := Prog.runs_ofExcept_bind.mp hrest
    obtain ⟨rfl, heq⟩ := Prog.runs_pure.mp hrest
    obtain ⟨rfl, -⟩ := Prod.mk.inj (Option.some.inj heq)
    exact ⟨response, rfl, ok_of_mapError.mp hrows, ensure_eq_ok.mp hids⟩

theorem runs_collectFilteredWarehousePage
    (h : (collectFilteredWarehousePage scheme ids facts cursor).Runs trace (.ok (facts', next))) :
    ∃ response rows, trace = [⟨.warehouse scheme ids cursor, .ok response⟩] ∧
      parseWarehouseStockPage response scheme = .ok rows ∧ (∀ row ∈ rows, row.sku ∈ ids) ∧
      facts' = facts ++ rows := by
  obtain ⟨_, -, h⟩ := Prog.runs_ofExcept_bind.mp h
  obtain ⟨page, first, rest, rfl, hfetch, h⟩ := Prog.runs_bind_ok.mp h
  obtain ⟨⟨rows, next'⟩, hpage, h⟩ := Prog.runs_ofExcept_bind.mp h
  obtain ⟨_, -, h⟩ := Prog.runs_ofExcept_bind.mp h
  obtain ⟨rfl, heq⟩ := Prog.runs_pure.mp h
  rw [context_eq_ok.mp hpage] at hfetch
  obtain ⟨response, rfl, hrows, hids⟩ := runs_fetchWarehousePage hfetch
  exact ⟨response, rows, List.append_nil _, hrows, hids, (Prod.mk.inj heq).1⟩

/-- What is received for a chunk of products. -/
structure Received (scheme : StockScheme) (ids : List ℕ) (trace : List (OzonExchange OzonStockRequest)) :
    Prop where
  listed : ∀ row ∈ warehouseRows scheme trace, row.sku ∈ ids
  answered : ∀ exchange ∈ trace, ∃ response, exchange.2 = Except.ok response

theorem runs_collectFilteredWarehousePages
    (h : (collectFilteredWarehousePages scheme ids).Runs trace (.ok facts)) :
    facts = warehouseRows scheme trace ∧ Received scheme ids trace := by
  refine (runs_walk.mp h).invariant (P := fun trace facts => facts = warehouseRows scheme trace ∧
    Received scheme ids trace) ?_ ⟨rfl, List.forall_mem_nil _, List.forall_mem_nil _⟩
  rintro before _ cursor trace facts' next ⟨rfl, hbefore⟩ hpage
  obtain ⟨response, rows, rfl, hrows, hids, rfl⟩ := runs_collectFilteredWarehousePage hpage
  have hreceived : warehouseRows scheme (before ++ [⟨.warehouse scheme ids cursor, .ok response⟩]) =
      warehouseRows scheme before ++ rows := by
    rw [warehouseRows, warehouseRows, List.flatMap_append, List.flatMap_singleton, warehousePage, if_pos rfl,
      hrows]
    rfl
  refine ⟨hreceived.symm, ?_, ?_⟩
  · rw [hreceived]
    exact List.forall_mem_append.mpr ⟨hbefore.listed, hids⟩
  · exact List.forall_mem_append.mpr ⟨hbefore.answered, List.forall_mem_singleton.mpr ⟨response, rfl⟩⟩

theorem asks_collectFilteredWarehousePages (scheme : StockScheme) (ids : List ℕ) :
    (collectFilteredWarehousePages scheme ids).Asks (AsksWarehouses scheme) := by
  refine asks_walk (fun facts cursor => .ofExcept_bind fun _ => ?_) _ _ _ _
  refine Prog.Asks.bind ?_ fun page => .ofExcept_bind fun _ => .ofExcept_bind fun _ => trivial
  refine .perform_bind ⟨ids, cursor, rfl⟩ fun answer => ?_
  cases answer with
  | error e =>
    dsimp only
    split_ifs <;> trivial
  | ok response => exact .ofExcept_bind fun _ => .ofExcept_bind fun _ => .ofExcept_bind fun _ => trivial

theorem asks_collectWarehouses (scheme : StockScheme) (chunks : List (List ℕ))
    (warehouse : List CollectedStockFact) :
    (collectWarehouses scheme chunks warehouse).Asks (AsksWarehouses scheme) := by
  induction chunks generalizing warehouse with
  | nil => trivial
  | cons ids chunks ih =>
    refine (asks_collectFilteredWarehousePages scheme ids).attempt.bind fun result => ?_
    cases result with
    | error e =>
      dsimp only
      split_ifs <;> trivial
    | ok rows => exact ih _

theorem runs_collectWarehouses {chunks : List (List ℕ)} {warehouse rows : List CollectedStockFact}
    (h : (collectWarehouses scheme chunks warehouse).Runs trace (.ok (some rows))) :
    rows = warehouse ++ warehouseRows scheme trace ∧ Received scheme chunks.flatten trace := by
  induction chunks generalizing warehouse trace with
  | nil =>
    obtain ⟨rfl, heq⟩ := Prog.runs_pure.mp h
    exact ⟨(Option.some.inj heq).trans (List.append_nil _).symm, List.forall_mem_nil _, List.forall_mem_nil _⟩
  | cons ids chunks ih =>
    obtain ⟨result, first, rest, rfl, hfirst, hrest⟩ := Prog.runs_bind_ok.mp h
    obtain ⟨_, hpages, ⟨⟩⟩ := Prog.runs_attempt.mp hfirst
    cases result with
    | error e =>
      dsimp only at hrest
      by_cases he : e.isUnsupported = true
      · rw [if_pos he] at hrest
        obtain ⟨-, ⟨⟩⟩ := Prog.runs_pure.mp hrest
      · rw [if_neg he] at hrest
        obtain ⟨-, ⟨⟩⟩ := hrest
    | ok page =>
      obtain ⟨rfl, hpage⟩ := runs_collectFilteredWarehousePages hpages
      obtain ⟨hrows, hchunks⟩ := ih hrest
      have hreceived : warehouseRows scheme (first ++ rest) = _ ++ _ := List.flatMap_append
      refine ⟨?_, ?_, List.forall_mem_append.mpr ⟨hpage.answered, hchunks.answered⟩⟩
      · rw [hrows, hreceived, List.append_assoc]
        rfl
      · rw [hreceived, List.flatten_cons]
        refine List.forall_mem_append.mpr ⟨fun row hrow => ?_, fun row hrow => ?_⟩
        · exact List.mem_append_left _ (hpage.listed row hrow)
        · exact List.mem_append_right _ (hchunks.listed row hrow)

end Pages

/-! ## The facts of one scheme -/

/-- **The facts of one scheme**: totals of `selected` products, or rows `received` from their warehouses. -/
structure Part (scheme : StockScheme) (selected received : List CollectedStockFact) (unsupported : Prop)
    (part : List CollectedStockFact) : Prop where
  ofScheme : ∀ fact ∈ part, OfScheme scheme fact
  listed : ∀ fact ∈ part, ∃ row ∈ selected, row.sku = fact.sku
  exactlyOne : ∀ row ∈ selected, Xor (row ∈ part)
    (∃ fact ∈ part, fact.sku = row.sku ∧ FromWarehouse scheme fact)
  complete : ∀ fact ∈ part, FromWarehouse scheme fact → ∀ row ∈ received, row.sku = fact.sku →
    row ∈ part ∧ row.reservedUnits.isSome
  fallback : unsupported → part = selected

section Part

variable {scheme : StockScheme} {selected received : List CollectedStockFact} {unsupported : Prop}

/-- **Totals only.** -/
theorem part_totals (hselected : ∀ row ∈ selected, row.warehouseId = scheme.dimension) :
    Part scheme selected received unsupported (schemeFacts selected none) := by
  have htotal : ∀ fact ∈ selected, ¬ FromWarehouse scheme fact := by
    rintro fact hfact ⟨id, hid⟩
    exact warehouseId_ne_dimension _ _ _ (hid.symm.trans (hselected fact hfact))
  refine ⟨fun fact hfact => .inl (hselected fact hfact), fun fact hfact => ⟨fact, hfact, rfl⟩,
    fun row hrow => .inl ⟨hrow, ?_⟩, fun fact hfact hid => absurd hid (htotal fact hfact), fun _ => rfl⟩
  rintro ⟨fact, hfact, -, hid⟩
  exact htotal fact hfact hid

/-- **Warehouses in the place of totals**, where all of them have a reserve. -/
theorem part_warehouses (hselected : ∀ row ∈ selected, row.warehouseId = scheme.dimension)
    (hreserved : ∀ row ∈ selected, row.reservedUnits.isSome)
    (hreceived : ∀ row ∈ received, FromWarehouse scheme row)
    (hlisted : ∀ row ∈ received, row.sku ∈ selected.map CollectedStockFact.sku) (hsupported : ¬ unsupported) :
    Part scheme selected received unsupported (schemeFacts selected (some received)) := by
  have hmem : ∀ fact, fact ∈ schemeFacts selected (some received) ↔
      (fact ∈ selected ∧ fact.sku ∉ (retainedWarehouses selected received).map CollectedStockFact.sku) ∨
        fact ∈ retainedWarehouses selected received := fun fact => by
    simp only [schemeFacts, List.mem_append, List.mem_filter, decide_eq_true_eq]
  have hretained : ∀ fact, fact ∈ retainedWarehouses selected received ↔
      fact ∈ received ∧ fact.sku ∉ preserveTotals selected received := fun fact => by
    simp only [retainedWarehouses, List.mem_filter, decide_eq_true_eq]
  have htotal : ∀ fact ∈ selected, ¬ FromWarehouse scheme fact := by
    rintro fact hfact ⟨id, hid⟩
    exact warehouseId_ne_dimension _ _ _ (hid.symm.trans (hselected fact hfact))
  -- a row of a warehouse is a retained one
  have hwarehouse : ∀ fact ∈ schemeFacts selected (some received), FromWarehouse scheme fact →
      fact ∈ retainedWarehouses selected received := fun fact hfact hid =>
    ((hmem fact).mp hfact).resolve_left fun h => htotal fact h.1 hid
  refine ⟨fun fact hfact => ?_, fun fact hfact => ?_, fun row hrow => ?_,
    fun fact hfact hid row hrow hsku => ?_, fun h => absurd h hsupported⟩
  · rcases (hmem fact).mp hfact with ⟨hfact, -⟩ | hfact
    · exact .inl (hselected fact hfact)
    · exact .inr (hreceived fact ((hretained fact).mp hfact).1)
  · rcases (hmem fact).mp hfact with ⟨hfact, -⟩ | hfact
    · exact ⟨fact, hfact, rfl⟩
    · exact List.mem_map.mp (hlisted fact ((hretained fact).mp hfact).1)
  · by_cases hsku : row.sku ∈ (retainedWarehouses selected received).map CollectedStockFact.sku
    · obtain ⟨fact, hfact, heq⟩ := List.mem_map.mp hsku
      have hid : FromWarehouse scheme fact := hreceived fact ((hretained fact).mp hfact).1
      refine .inr ⟨⟨fact, (hmem fact).mpr (.inr hfact), heq, hid⟩, fun hrow' => ?_⟩
      rcases (hmem row).mp hrow' with ⟨-, hnot⟩ | hkept
      · exact hnot hsku
      · exact htotal row hrow (hreceived row ((hretained row).mp hkept).1)
    · refine .inl ⟨(hmem row).mpr (.inl ⟨hrow, hsku⟩), ?_⟩
      rintro ⟨fact, hfact, heq, hid⟩
      exact hsku (heq ▸ List.mem_map_of_mem (hwarehouse fact hfact hid))
  · have hkept := (hretained fact).mp (hwarehouse fact hfact hid)
    rw [← hsku] at hkept
    refine ⟨(hmem row).mpr (.inr ((hretained row).mpr ⟨hrow, hkept.2⟩)), ?_⟩
    by_contra hnone
    obtain ⟨total, hselect, heq⟩ := List.mem_map.mp (hlisted row hrow)
    refine hkept.2 (List.mem_map.mpr ⟨total, List.mem_filter.mpr ⟨List.mem_filter.mpr
      ⟨hselect, hreserved total hselect⟩, List.any_eq_true.mpr ⟨row, hrow, ?_⟩⟩, heq⟩)
    have hvalue : row.reservedUnits = none := by simpa using hnone
    simp [heq, hvalue]

end Part

theorem reserved_of_catalogRows {trace : List (OzonExchange OzonStockRequest)} {row : CollectedStockFact}
    (h : row ∈ catalogRows trace) : row.reservedUnits.isSome := by
  obtain ⟨⟨request, answer⟩, -, hrow⟩ := List.mem_flatMap.mp h
  cases request with
  | warehouse scheme ids cursor => cases hrow
  | catalog cursor =>
    cases answer with
    | error e => cases hrow
    | ok response =>
      rw [catalogPage] at hrow
      cases hparse : parseOzonStockPage response with
      | error e =>
        rw [hparse] at hrow
        cases hrow
      | ok rows =>
        rw [hparse] at hrow
        simp only [parseOzonStockPage, ok_of_bind, ok_of_pure] at hparse
        obtain ⟨items, -, _, -, progress, -, rfl⟩ := hparse
        obtain ⟨entry, -, rfl⟩ := List.mem_map.mp hrow
        rfl

theorem fromWarehouse_of_warehouseRows {scheme : StockScheme} {trace : List (OzonExchange OzonStockRequest)}
    {row : CollectedStockFact} (h : row ∈ warehouseRows scheme trace) : FromWarehouse scheme row := by
  obtain ⟨⟨request, answer⟩, -, hrow⟩ := List.mem_flatMap.mp h
  cases request with
  | catalog cursor => cases hrow
  | warehouse asked ids cursor =>
    cases answer with
    | error e => cases hrow
    | ok response =>
      rw [warehousePage] at hrow
      split_ifs at hrow
      · cases hparse : parseWarehouseStockPage response scheme with
        | error e =>
          rw [hparse] at hrow
          cases hrow
        | ok rows =>
          rw [hparse] at hrow
          simp only [parseWarehouseStockPage, ok_of_bind] at hparse
          obtain ⟨_, -, products, -, _, -, hproducts⟩ := hparse
          obtain ⟨product, -, hread⟩ := exists_of_mem_mapM hproducts row hrow
          simp only [readWarehouseProduct, ok_of_bind, ok_of_pure] at hread
          obtain ⟨_, -, _, -, _, -, _, -, _, -, _, -, _, -, id, -, _, -, _, -, _, -, rfl⟩ := hread
          exact ⟨id, rfl⟩
      · cases hrow

theorem runs_collectStockScheme {scheme : StockScheme} {catalog part : List CollectedStockFact}
    {trace : List (OzonExchange OzonStockRequest)} (hreserved : ∀ row ∈ catalog, row.reservedUnits.isSome)
    (h : (collectStockScheme catalog scheme).Runs trace (.ok part)) :
    (∀ exchange ∈ trace, AsksWarehouses scheme exchange.1) ∧
      Part scheme (selectScheme catalog scheme) (warehouseRows scheme trace) (Unsupported scheme trace)
        part := by
  have hselected : ∀ row ∈ selectScheme catalog scheme, row.warehouseId = scheme.dimension := fun row hrow =>
    of_decide_eq_true (List.mem_filter.mp hrow).2
  obtain ⟨warehouse, first, rest, rfl, hfirst, hrest⟩ := Prog.runs_bind_ok.mp h
  obtain ⟨rfl, rfl⟩ := Prog.runs_pure.mp hrest
  rw [List.append_nil]
  refine ⟨(asks_collectWarehouses _ _ _).runs hfirst, ?_⟩
  cases warehouse with
  | none => exact part_totals hselected
  | some rows =>
    obtain ⟨hrows, hreceived⟩ := runs_collectWarehouses hfirst
    rw [List.nil_append] at hrows
    subst hrows
    refine part_warehouses hselected (fun row hrow => hreserved row (List.mem_filter.mp hrow).1)
      (fun row => fromWarehouse_of_warehouseRows) (fun row hrow => ?_) ?_
    · obtain ⟨chunk, hchunk, hsku⟩ := List.mem_flatten.mp (hreceived.listed row hrow)
      exact (sublist_of_mem_chunks hchunk).subset hsku
    · rintro ⟨exchange, hexchange, -, e, he, -⟩
      obtain ⟨response, hok⟩ := hreceived.answered exchange hexchange
      rw [hok] at he
      cases he

/-! ## The collected facts -/

/-- **Stock counted once**: what holds of collected facts and the answers they come from. -/
structure DetailedStock (trace : List (OzonExchange OzonStockRequest)) (facts : List CollectedStockFact) :
    Prop where
  exactlyOne : ∀ scheme ≠ .rfbs, ∀ row ∈ catalogRows trace, row.warehouseId = scheme.dimension →
    Xor (row ∈ facts) (∃ fact ∈ facts, fact.sku = row.sku ∧ FromWarehouse scheme fact)
  complete : ∀ scheme, ∀ fact ∈ facts, FromWarehouse scheme fact → ∀ row ∈ warehouseRows scheme trace,
    row.sku = fact.sku → row ∈ facts ∧ row.reservedUnits.isSome
  rfbs : ∀ row ∈ catalogRows trace, row.warehouseId = StockScheme.rfbs.dimension → row ∈ facts
  listed : ∀ fact ∈ facts, ∃ scheme, OfScheme scheme fact ∧
    ∃ row ∈ catalogRows trace, row.sku = fact.sku ∧ row.warehouseId = scheme.dimension
  unique : (facts.map CollectedStockFact.key).Nodup
  fallback : ∀ scheme, Unsupported scheme trace → ∀ fact, OfScheme scheme fact →
    (fact ∈ facts ↔ fact ∈ catalogRows trace ∧ fact.warehouseId = scheme.dimension)

/-- The parts of the three schemes. -/
def partsOf (fbo fbs rfbs : List CollectedStockFact) : StockScheme → List CollectedStockFact
  | .fbo => fbo
  | .fbs => fbs
  | .rfbs => rfbs

/-- Three parts of disjoint schemes make up the collected facts. -/
theorem detailedStock_of_parts {trace : List (OzonExchange OzonStockRequest)}
    {part : StockScheme → List CollectedStockFact}
    (h : ∀ scheme, Part scheme (selectScheme (catalogRows trace) scheme) (warehouseRows scheme trace)
      (Unsupported scheme trace) (part scheme))
    (hrfbs : part .rfbs = selectScheme (catalogRows trace) .rfbs)
    (hunique : ((part .fbo ++ part .fbs ++ part .rfbs).map CollectedStockFact.key).Nodup) :
    DetailedStock trace (part .fbo ++ part .fbs ++ part .rfbs) := by
  have hmem : ∀ fact, fact ∈ part .fbo ++ part .fbs ++ part .rfbs ↔ ∃ scheme, fact ∈ part scheme := by
    intro fact
    rw [List.mem_append, List.mem_append]
    constructor
    · rintro ((hfact | hfact) | hfact)
      · exact ⟨_, hfact⟩
      · exact ⟨_, hfact⟩
      · exact ⟨_, hfact⟩
    · rintro ⟨_ | _ | _, hfact⟩
      · exact .inl (.inl hfact)
      · exact .inl (.inr hfact)
      · exact .inr hfact
  -- a fact of a scheme is in the part of this scheme
  have hpart : ∀ {scheme fact}, OfScheme scheme fact →
      (fact ∈ part .fbo ++ part .fbs ++ part .rfbs ↔ fact ∈ part scheme) := by
    intro scheme fact hof
    rw [hmem]
    constructor
    · rintro ⟨scheme', hfact⟩
      rwa [hof.unique ((h scheme').ofScheme fact hfact)]
    · exact fun hfact => ⟨scheme, hfact⟩
  have hselect : ∀ {scheme} {row : CollectedStockFact}, row ∈ selectScheme (catalogRows trace) scheme ↔
      row ∈ catalogRows trace ∧ row.warehouseId = scheme.dimension := by
    intro scheme row
    rw [selectScheme, List.mem_filter, decide_eq_true_eq]
  refine ⟨fun scheme _ row hrow hdimension => ?_, fun scheme fact hfact hid row hrow hsku => ?_,
    fun row hrow hdimension => ?_, fun fact hfact => ?_, hunique, fun scheme hunsupported fact hof => ?_⟩
  · rw [hpart (.inl hdimension)]
    have hwarehouse : (∃ fact ∈ part .fbo ++ part .fbs ++ part .rfbs, fact.sku = row.sku ∧
        FromWarehouse scheme fact) ↔ ∃ fact ∈ part scheme, fact.sku = row.sku ∧ FromWarehouse scheme fact :=
      exists_congr fun fact => and_congr_left fun hfact => hpart (.inr hfact.2)
    rw [hwarehouse]
    exact (h scheme).exactlyOne row (hselect.mpr ⟨hrow, hdimension⟩)
  · obtain ⟨hkept, hreserved⟩ := (h scheme).complete fact ((hpart (.inr hid)).mp hfact) hid row hrow hsku
    exact ⟨(hmem row).mpr ⟨scheme, hkept⟩, hreserved⟩
  · rw [hpart (.inl hdimension), hrfbs]
    exact hselect.mpr ⟨hrow, hdimension⟩
  · obtain ⟨scheme, hfact⟩ := (hmem fact).mp hfact
    obtain ⟨row, hrow, hsku⟩ := (h scheme).listed fact hfact
    obtain ⟨hcatalog, hdimension⟩ := hselect.mp hrow
    exact ⟨scheme, (h scheme).ofScheme fact hfact, row, hcatalog, hsku, hdimension⟩
  · rw [hpart hof, (h scheme).fallback hunsupported]
    exact hselect

/-- **Stock is neither lost nor counted twice**: for whatever the source answers. -/
theorem detailed_stock_counted_once : ∀ trace facts, collectDetailedStockPages.Runs trace (.ok facts) →
    DetailedStock trace facts := by
  intro trace facts h
  obtain ⟨catalog, first, rest, rfl, hcatalog, h⟩ := Prog.runs_bind_ok.mp h
  obtain ⟨_, -, h⟩ := Prog.runs_ofExcept_bind.mp h
  obtain ⟨fbo, second, rest, rfl, hfbo, h⟩ := Prog.runs_bind_ok.mp h
  obtain ⟨fbs, third, rest, rfl, hfbs, h⟩ := Prog.runs_bind_ok.mp h
  obtain ⟨_, hcheck, h⟩ := Prog.runs_ofExcept_bind.mp h
  obtain ⟨rfl, rfl⟩ := Prog.runs_pure.mp h
  obtain ⟨rfl, hasked⟩ := runs_catalog hcatalog
  have hreserved : ∀ row ∈ catalogRows first, row.reservedUnits.isSome := fun row => reserved_of_catalogRows
  obtain ⟨hfboAsked, hfbo⟩ := runs_collectStockScheme hreserved hfbo
  obtain ⟨hfbsAsked, hfbs⟩ := runs_collectStockScheme hreserved hfbs
  -- requests of one kind have no rows and no errors of another
  have hcatalogRows : catalogRows (first ++ (second ++ (third ++ []))) = catalogRows first := by
    have hsplit : catalogRows (first ++ (second ++ (third ++ []))) =
        catalogRows first ++ (catalogRows second ++ (catalogRows third ++ [])) := by
      simp only [catalogRows, List.flatMap_append, List.flatMap_nil]
    rw [hsplit, catalogRows_of_warehouses hfboAsked, catalogRows_of_warehouses hfbsAsked]
    simp
  have hrows : ∀ scheme, warehouseRows scheme (first ++ (second ++ (third ++ []))) =
      warehouseRows scheme second ++ warehouseRows scheme third := by
    intro scheme
    have hsplit : warehouseRows scheme (first ++ (second ++ (third ++ []))) = warehouseRows scheme first ++
        (warehouseRows scheme second ++ (warehouseRows scheme third ++ [])) := by
      simp only [warehouseRows, List.flatMap_append, List.flatMap_nil]
    rw [hsplit, warehouseRows_of_catalog hasked, List.append_nil, List.nil_append]
  have hunsupported : ∀ scheme, Unsupported scheme (first ++ (second ++ (third ++ []))) ↔
      Unsupported scheme second ∨ Unsupported scheme third := by
    intro scheme
    rw [unsupported_append, unsupported_append, List.append_nil]
    exact or_iff_right (not_unsupported_of_catalog hasked)
  let part := partsOf fbo fbs (selectScheme (catalogRows first) .rfbs)
  have hparts : ∀ scheme, Part scheme (selectScheme (catalogRows first) scheme)
      (warehouseRows scheme second ++ warehouseRows scheme third)
      (Unsupported scheme second ∨ Unsupported scheme third) (part scheme) := by
    rintro (_ | _ | _)
    · rw [warehouseRows_of_other (by decide) hfbsAsked, List.append_nil,
        or_iff_left (not_unsupported_of_other (by decide) hfbsAsked)]
      exact hfbo
    · rw [warehouseRows_of_other (by decide) hfboAsked, List.nil_append,
        or_iff_right (not_unsupported_of_other (by decide) hfboAsked)]
      exact hfbs
    · exact part_totals fun row hrow => of_decide_eq_true (List.mem_filter.mp hrow).2
  have hunique : ((part .fbo ++ part .fbs ++ part .rfbs).map CollectedStockFact.key).Nodup :=
    (ensure_eq_ok.mp hcheck).2
  rw [← hcatalogRows] at hparts
  simp only [← hrows, ← hunsupported] at hparts
  refine detailedStock_of_parts hparts ?_ hunique
  rw [hcatalogRows]
  rfl

/-- A product of the catalog in one scheme. -/
def catalogStock (scheme : StockScheme) (sku present reserved : String) : Document :=
  .object [("type", .string scheme.asStr), ("sku", .number sku), ("present", .number present),
    ("reserved", .number reserved)]

/-- A product in a warehouse. -/
def warehouseProduct (sku id present : String) (reserved : Document) : Document :=
  .object [("sku", .number sku), ("warehouse_id", .number id), ("present", .number present),
    ("reserved", reserved)]

/-- Two products in the catalog, of which one is in a warehouse; the other scheme is not offered. -/
def twoProducts : OzonStockRequest → OzonAnswer
  | .catalog _ => .ok (.object [("cursor", .string ""), ("items", .array [
      .object [("product_id", .number "1"), ("stocks", .array [catalogStock .fbo "7" "5" "1",
        catalogStock .fbs "7" "3" "0", catalogStock .rfbs "7" "2" "0"])],
      .object [("product_id", .number "2"), ("stocks", .array [catalogStock .fbo "8" "4" "0"])]])])
  | .warehouse .fbo _ _ => .ok (.object [("has_next", .bool false), ("cursor", .string ""),
      ("products", .array [warehouseProduct "7" "21" "5" (.number "1")])])
  | .warehouse _ _ _ => .error (.upstream .notFound)

theorem detailed_stock_counted_once_two_products : ∃ trace facts,
    collectDetailedStockPages.Runs trace (.ok facts) ∧ DetailedStock trace facts ∧ facts.length = 4 := by
  have hok : (collectDetailedStockPages.eval fun request => .ok (twoProducts request)).toOption.any
      fun facts => facts.length = 4 := by decide +kernel
  have hrun := Prog.runs_eval twoProducts collectDetailedStockPages
  cases h : collectDetailedStockPages.eval fun request => .ok (twoProducts request) with
  | error e =>
    rw [h] at hok
    cases hok
  | ok facts =>
    rw [h] at hok hrun
    exact ⟨_, facts, hrun, detailed_stock_counted_once _ _ hrun, of_decide_eq_true hok⟩

end AdsControl.Reporting
