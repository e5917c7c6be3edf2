import AdsControl.Lib.Machine
import AdsControl.Lib.OrderedMap

/-!
# Pages of sales facts

The sales of a day arrive in pages that may overlap. Only exact repetitions of rows without sales are
accepted; they leave a mark, and what was collected with the mark must be certified by independent
totals.

* `SalesPages.add`, `SalesPages.refreshSales`: a page, and a closing pass that replaces the sales;
* `SalesPages.matchesExpected`: the comparison with the totals of each day;
* `SalesInv`: what the collected pages hold;
* **`SalesInv.add`**, **`SalesInv.refreshSales`**: both methods keep the invariant.
-/

namespace AdsControl.Reporting

open Machine OrderedMap Std

/-! ## Facts -/

/-- The sales of a product on a date. -/
structure CollectedSalesFact where
  businessDate : ℤ
  sku : ℕ
  orderedUnits : ℕ
  operationalGmvMinor : ℕ
  cancelledUnits : Option ℕ
  returnedUnits : Option ℕ
  deriving DecidableEq

/-- A day and a product, in this order. -/
abbrev SalesKey : Type := ℤ ×ₗ ℕ

namespace CollectedSalesFact

/-- What a row is identified by. -/
def key (row : CollectedSalesFact) : SalesKey := toLex (row.businessDate, row.sku)

/-- A row without sales, cancellations and returns. -/
def isZero (row : CollectedSalesFact) : Bool :=
  row.orderedUnits == 0 && row.operationalGmvMinor == 0 &&
    row.cancelledUnits.all (· == 0) && row.returnedUnits.all (· == 0)

/-- A row without sales. -/
def isUnsold (row : CollectedSalesFact) : Bool :=
  row.orderedUnits == 0 && row.operationalGmvMinor == 0

/-- Nothing is known about cancellations and returns. -/
def withoutEvents (row : CollectedSalesFact) : CollectedSalesFact :=
  { row with
    cancelledUnits := none
    returnedUnits := none }

end CollectedSalesFact

/-- Ordered units and amount of each day. -/
abbrev SalesTotals : Type := ExtTreeMap ℤ (ℕ × ℕ)

/-- The rows of a walk with their positions. -/
structure SalesPages where
  facts : List CollectedSalesFact
  identities : ExtTreeMap SalesKey ℕ
  zeroOverlap : Bool

namespace SalesPages

/-- No rows yet. -/
def empty : SalesPages := ⟨[], ∅, false⟩

/-- Add the rows of a page; `none` when one of them may not be repeated. -/
def addRows (self : SalesPages) (pageIds : List SalesKey) :
    List CollectedSalesFact → Option SalesPages
  | [] => some self
  | row :: rows =>
    if row.key ∈ pageIds then none
    else match self.identities[row.key]? with
      | some index =>
        if self.facts[index]? = some row ∧ row.isZero then
          addRows { self with zeroOverlap := true } (row.key :: pageIds) rows
        else none
      | none =>
        let identities := self.identities.insert row.key self.facts.length
        addRows { self with facts := self.facts ++ [row], identities := identities }
          (row.key :: pageIds) rows

/-- Add the rows of a page. -/
def add (self : SalesPages) (rows : List CollectedSalesFact) : Option SalesPages :=
  self.addRows [] rows

/-- Add a row to the totals of its day. -/
def addTotal (actual : SalesTotals) (row : CollectedSalesFact) : Option SalesTotals := do
  let total := actual[row.businessDate]?.getD (0, 0)
  let units ← checkedAdd 64 total.1 row.orderedUnits
  let gmv ← checkedAdd 64 total.2 row.operationalGmvMinor
  return actual.insert row.businessDate (units, gmv)

/-- The same totals on every day. -/
def matchesTotals (actual expected : SalesTotals) : Bool :=
  (actual.toList.all fun e => e.2 == expected[e.1]?.getD (0, 0)) &&
    expected.toList.all fun e => e.2 == actual[e.1]?.getD (0, 0)

/-- Whether the facts add up to the totals of each day. -/
def matchesExpected (self : SalesPages) (expected : SalesTotals) : Bool :=
  match self.facts.foldlM addTotal ∅ with
  | none => false
  | some actual => matchesTotals actual expected

/-- The rows in key order; a later row replaces an earlier one. -/
def merge (rows : List CollectedSalesFact) : ExtTreeMap SalesKey CollectedSalesFact :=
  rows.foldl (fun merged row => merged.insert row.key row) ∅

/-- The position of each row. -/
def index (facts : List CollectedSalesFact) : ExtTreeMap SalesKey ℕ :=
  facts.zipIdx.foldl (fun identities entry => identities.insert entry.1.key entry.2) ∅

/-- Replace the sales by a closing pass; rows without sales stay. -/
def refreshSales (self : SalesPages) (fresh : List CollectedSalesFact) : Option SalesPages :=
  if (fresh.map CollectedSalesFact.key).Nodup then
    let facts := (merge (self.facts.filter CollectedSalesFact.isUnsold ++ fresh)).toList.map Prod.snd
    some ⟨facts, index facts, true⟩
  else none

/-- The facts; after an overlap nothing is known about cancellations and returns. -/
def intoFacts (self : SalesPages) : List CollectedSalesFact :=
  if self.zeroOverlap then self.facts.map CollectedSalesFact.withoutEvents else self.facts

end SalesPages

/-! ## Totals of a day -/

/-- Units and amount of a row. -/
def CollectedSalesFact.total (row : CollectedSalesFact) : ℕ × ℕ :=
  (row.orderedUnits, row.operationalGmvMinor)

/-- Units and amount of one day. -/
def dayTotal (facts : List CollectedSalesFact) (day : ℤ) : ℕ × ℕ :=
  ((facts.filter fun row => row.businessDate == day).map CollectedSalesFact.total).sum

theorem dayTotal_cons (row : CollectedSalesFact) (facts : List CollectedSalesFact) (day : ℤ) :
    dayTotal (row :: facts) day =
      (if row.businessDate = day then row.total else 0) + dayTotal facts day := by
  unfold dayTotal
  by_cases h : row.businessDate = day <;> simp [h]

theorem addTotals_getD {facts : List CollectedSalesFact} {actual actual' : SalesTotals}
    (h : facts.foldlM SalesPages.addTotal actual = some actual') (day : ℤ) :
    actual'[day]?.getD (0, 0) = actual[day]?.getD (0, 0) + dayTotal facts day := by
  induction facts generalizing actual with
  | nil =>
    simp only [List.foldlM_nil, Option.pure_def, Option.some.injEq] at h
    rw [h]
    rfl
  | cons row facts ih =>
    simp only [List.foldlM_cons, SalesPages.addTotal, Option.bind_eq_bind, Option.bind_eq_some_iff,
      Option.pure_def, Option.some.injEq, checkedAdd_eq_some] at h
    obtain ⟨_, ⟨units, ⟨rfl, -⟩, gmv, ⟨rfl, -⟩, rfl⟩, h⟩ := h
    rw [ih h, dayTotal_cons, getElem?_put, ← add_assoc]
    congr 1
    by_cases hday : row.businessDate = day
    · subst hday
      rw [if_pos rfl, if_pos rfl]
      rfl
    · rw [if_neg hday, if_neg hday, add_zero]

theorem matchesTotals_getD {actual expected : SalesTotals}
    (h : SalesPages.matchesTotals actual expected = true) (day : ℤ) :
    actual[day]?.getD (0, 0) = expected[day]?.getD (0, 0) := by
  simp only [SalesPages.matchesTotals, Bool.and_eq_true, List.all_eq_true, beq_iff_eq] at h
  cases hactual : actual[day]? with
  | some total =>
    exact h.1 (day, total) (ExtTreeMap.mem_toList_iff_getElem?_eq_some.mpr hactual)
  | none =>
    cases hexpected : expected[day]? with
    | none => rfl
    | some total =>
      have htotal := h.2 (day, total) (ExtTreeMap.mem_toList_iff_getElem?_eq_some.mpr hexpected)
      rw [hactual] at htotal
      exact htotal.symm

/-- **Pages that match add up to the totals of every day.** -/
theorem dayTotal_of_matches {pages : SalesPages} {expected : SalesTotals}
    (h : pages.matchesExpected expected = true) (day : ℤ) :
    dayTotal pages.facts day = expected[day]?.getD (0, 0) := by
  unfold SalesPages.matchesExpected at h
  split at h
  · cases h
  · rename_i actual hactual
    rw [← matchesTotals_getD h day, addTotals_getD hactual day, ExtTreeMap.getElem?_empty]
    exact (zero_add _).symm

/-! ## The invariant -/

/-- Product, units and amount of a row. -/
def CollectedSalesFact.sales (row : CollectedSalesFact) : SalesKey × ℕ × ℕ := (row.key, row.total)

/-- A map that gives the position of each row. -/
def Indexed (identities : ExtTreeMap SalesKey ℕ) (facts : List CollectedSalesFact) : Prop :=
  ∀ k i, identities[k]? = some i ↔ ∃ row : CollectedSalesFact, facts[i]? = some row ∧ row.key = k

/-- Pages collected from the rows `walked`. -/
structure SalesInv (walked : List CollectedSalesFact) (pages : SalesPages) : Prop where
  indexed : Indexed pages.identities pages.facts
  unique : (pages.facts.map CollectedSalesFact.key).Nodup
  reported : ∀ row ∈ pages.facts, row.sales ∈ walked.map CollectedSalesFact.sales
  exact : pages.zeroOverlap = false → pages.facts = walked

theorem indexed_empty : Indexed ∅ [] := by
  intro k i
  simp

theorem Indexed.fresh {identities : ExtTreeMap SalesKey ℕ} {facts : List CollectedSalesFact}
    {k : SalesKey} (h : Indexed identities facts) :
    identities[k]? = none ↔ k ∉ facts.map CollectedSalesFact.key := by
  rw [List.mem_map]
  constructor
  · rintro hnone ⟨row, hrow, hkey⟩
    obtain ⟨i, hi⟩ := List.mem_iff_getElem?.mp hrow
    rw [(h k i).mpr ⟨row, hi, hkey⟩] at hnone
    cases hnone
  · intro hnot
    cases hget : identities[k]? with
    | none => rfl
    | some i =>
      obtain ⟨row, hrow, hkey⟩ := (h k i).mp hget
      exact absurd ⟨row, List.mem_of_getElem? hrow, hkey⟩ hnot

theorem Indexed.push {identities : ExtTreeMap SalesKey ℕ} {facts : List CollectedSalesFact}
    {row : CollectedSalesFact} (h : Indexed identities facts)
    (hfresh : row.key ∉ facts.map CollectedSalesFact.key) :
    Indexed (identities.insert row.key facts.length) (facts ++ [row]) := by
  intro k i
  rw [getElem?_put]
  by_cases hk : row.key = k
  · subst hk
    rw [if_pos rfl, Option.some.injEq]
    constructor
    · rintro rfl
      exact ⟨row, by simp, rfl⟩
    · rintro ⟨row', hrow', hkey⟩
      by_contra hne
      have hold : facts[i]? = some row' := by
        have hlt := (List.getElem?_eq_some_iff.mp hrow').1
        rw [List.length_append, List.length_singleton] at hlt
        rwa [List.getElem?_append_left (by omega)] at hrow'
      exact hfresh (List.mem_map.mpr ⟨row', List.mem_of_getElem? hold, hkey⟩)
  · rw [if_neg hk, h k i]
    refine exists_congr fun row' => and_congr_left fun hkey => ?_
    by_cases hlt : i < facts.length
    · rw [List.getElem?_append_left hlt]
    · rw [List.getElem?_eq_none (by omega), List.getElem?_append_right (by omega)]
      constructor
      · intro hnone
        cases hnone
      · intro hrow'
        obtain rfl : row = row' := by
          have hmem := List.mem_of_getElem? hrow'
          exact (List.mem_singleton.mp hmem).symm
        exact absurd hkey hk

/-- **A page is added to what was walked.** -/
theorem SalesInv.addRows {walked rows : List CollectedSalesFact} {pages pages' : SalesPages}
    {pageIds : List SalesKey} (h : SalesInv walked pages)
    (hadd : pages.addRows pageIds rows = some pages') : SalesInv (walked ++ rows) pages' := by
  induction rows generalizing walked pages pageIds with
  | nil =>
    cases hadd
    rw [List.append_nil]
    exact h
  | cons row rows ih =>
    rw [SalesPages.addRows] at hadd
    rw [← List.singleton_append, ← List.append_assoc]
    have hkept : ∀ row' ∈ pages.facts,
        row'.sales ∈ (walked ++ [row]).map CollectedSalesFact.sales := by
      intro row' hrow'
      rw [List.map_append]
      exact List.mem_append_left _ (h.reported row' hrow')
    split_ifs at hadd
    split at hadd
    · split_ifs at hadd
      have hmarked : SalesInv (walked ++ [row]) { pages with zeroOverlap := true } :=
        ⟨h.indexed, h.unique, hkept, fun hfalse => (nomatch hfalse)⟩
      exact ih hmarked hadd
    · rename_i hnone
      have hfresh := h.indexed.fresh.mp hnone
      refine ih ⟨h.indexed.push hfresh, ?_, fun row' hrow' => ?_, fun hfalse => ?_⟩ hadd
      · rw [List.map_append, List.map_singleton, List.nodup_append]
        refine ⟨h.unique, List.nodup_singleton _, ?_⟩
        rintro k hk _ hmem rfl
        rw [List.mem_singleton.mp hmem] at hk
        exact hfresh hk
      · rcases List.mem_append.mp hrow' with hold | hnew
        · exact hkept row' hold
        · rw [List.mem_singleton.mp hnew]
          exact List.mem_map_of_mem (by simp)
      · rw [show pages.facts = walked from h.exact hfalse]

theorem SalesInv.add {walked rows : List CollectedSalesFact} {pages pages' : SalesPages}
    (h : SalesInv walked pages) (hadd : pages.add rows = some pages') :
    SalesInv (walked ++ rows) pages' := h.addRows hadd

/-! ## The closing pass -/

/-- A merged row is one of the rows and stands under its key. -/
theorem of_merge {rows : List CollectedSalesFact} {k : SalesKey} {row : CollectedSalesFact}
    (h : (SalesPages.merge rows)[k]? = some row) : row ∈ rows ∧ row.key = k := by
  induction rows using List.reverseRecOn with
  | nil =>
    rw [SalesPages.merge, List.foldl_nil, ExtTreeMap.getElem?_empty] at h
    cases h
  | append_singleton rows last ih =>
    rw [SalesPages.merge, List.foldl_append, List.foldl_cons, List.foldl_nil, getElem?_put] at h
    split_ifs at h with hk
    · cases h
      exact ⟨by simp, hk⟩
    · exact ⟨List.mem_append_left _ (ih h).1, (ih h).2⟩

theorem mem_merged {rows : List CollectedSalesFact} {row : CollectedSalesFact}
    (h : row ∈ (SalesPages.merge rows).toList.map Prod.snd) : row ∈ rows := by
  obtain ⟨entry, hentry, rfl⟩ := List.mem_map.mp h
  exact (of_merge (ExtTreeMap.mem_toList_iff_getElem?_eq_some.mp hentry)).1

theorem merged_keys (rows : List CollectedSalesFact) :
    ((SalesPages.merge rows).toList.map Prod.snd).map CollectedSalesFact.key =
      (SalesPages.merge rows).keys := by
  rw [List.map_map, ← ExtTreeMap.map_fst_toList_eq_keys]
  refine List.map_congr_left fun entry hentry => ?_
  exact (of_merge (ExtTreeMap.mem_toList_iff_getElem?_eq_some.mp hentry)).2

theorem indexed_index {facts : List CollectedSalesFact}
    (h : (facts.map CollectedSalesFact.key).Nodup) : Indexed (SalesPages.index facts) facts := by
  induction facts using List.reverseRecOn with
  | nil => exact indexed_empty
  | append_singleton facts row ih =>
    rw [List.map_append, List.map_singleton, List.nodup_append] at h
    have hindex : SalesPages.index (facts ++ [row]) =
        (SalesPages.index facts).insert row.key facts.length := by
      rw [SalesPages.index, List.zipIdx_append, List.foldl_append, zero_add]
      rfl
    rw [hindex]
    refine (ih h.1).push fun hmem => h.2.2 _ hmem _ ?_ rfl
    exact List.mem_singleton_self _

/-- **The closing pass replaces the sales**: what it did not report has none. -/
theorem SalesInv.refreshSales {walked closing fresh : List CollectedSalesFact} {pages pages' : SalesPages}
    (h : SalesInv walked pages)
    (hfresh : ∀ row ∈ fresh, row.sales ∈ closing.map CollectedSalesFact.sales)
    (hrefresh : pages.refreshSales fresh = some pages') :
    SalesInv (walked ++ closing) pages' ∧ pages'.zeroOverlap = true ∧
      ∀ row ∈ pages'.facts, row ∈ fresh ∨ row ∈ pages.facts ∧ row.isUnsold := by
  unfold SalesPages.refreshSales at hrefresh
  split_ifs at hrefresh
  cases hrefresh
  have hmem : ∀ row ∈ (SalesPages.merge (pages.facts.filter CollectedSalesFact.isUnsold ++
      fresh)).toList.map Prod.snd, row ∈ fresh ∨ row ∈ pages.facts ∧ row.isUnsold := by
    intro row hrow
    rcases List.mem_append.mp (mem_merged hrow) with hkept | hnew
    · exact .inr (List.mem_filter.mp hkept)
    · exact .inl hnew
  have hunique := merged_keys (pages.facts.filter CollectedSalesFact.isUnsold ++ fresh) ▸
    (ExtTreeMap.nodup_keys : (SalesPages.merge
      (pages.facts.filter CollectedSalesFact.isUnsold ++ fresh)).keys.Nodup)
  refine ⟨⟨indexed_index hunique, hunique, fun row hrow => ?_, fun hfalse => (nomatch hfalse)⟩, rfl, hmem⟩
  rw [List.map_append]
  rcases hmem row hrow with hnew | ⟨hkept, -⟩
  · exact List.mem_append_right _ (hfresh row hnew)
  · exact List.mem_append_left _ (h.reported row hkept)

/-! ## The facts -/

theorem key_withoutEvents (row : CollectedSalesFact) : row.withoutEvents.key = row.key := rfl

theorem sales_withoutEvents (row : CollectedSalesFact) : row.withoutEvents.sales = row.sales := rfl

theorem map_intoFacts {β : Type} (pages : SalesPages) {f : CollectedSalesFact → β}
    (hf : ∀ row, f row.withoutEvents = f row) : pages.intoFacts.map f = pages.facts.map f := by
  unfold SalesPages.intoFacts
  split_ifs
  · rw [List.map_map]
    exact List.map_congr_left fun row _ => hf row
  · rfl

theorem dayTotal_intoFacts (pages : SalesPages) (day : ℤ) :
    dayTotal pages.intoFacts day = dayTotal pages.facts day := by
  have hfilter : ∀ facts : List CollectedSalesFact, dayTotal facts day =
      (((facts.map CollectedSalesFact.sales).filter fun entry : SalesKey × ℕ × ℕ =>
        (ofLex entry.1).1 == day).map Prod.snd).sum := by
    intro facts
    rw [dayTotal, List.filter_map, List.map_map]
    rfl
  rw [hfilter, hfilter, map_intoFacts pages sales_withoutEvents]

end AdsControl.Reporting
