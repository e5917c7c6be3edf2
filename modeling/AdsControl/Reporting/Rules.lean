import AdsControl.Lib.Distinct
import AdsControl.Lib.OrderedMap
import AdsControl.Lib.SortByKey
import AdsControl.Text

/-!
# Priority problems of the daily report

Three rules look at every product: stock, spend without orders and a high share of advertising costs.
At most five of the problems they raise survive, the gravest first.

* `stockProblem`, `spendWithoutOrders`, `highDrr`: the rules;
* `priorityProblems`: their ranking;
* **`priorityProblems_first_five`**: the ranking takes the first five problems in any order of the products;
* **`severity_monotone`**: less stock and more spend never lower a severity.
-/

namespace AdsControl.Reporting

open Distinct Fallible OrderedMap SortByKey

/-! ## Inputs and problems -/

/-- The most products of a report. -/
def maxRuleInputs : ℕ := 10000

/-- The most problems of a report. -/
def maxActions : ℕ := 5

/-- The largest value of 64 bits. -/
def u64Max : ℕ := 2 ^ 64 - 1

/-- How grave a problem is. -/
inductive Severity
  | yellow
  | red
  deriving DecidableEq

/-- What the problem is. -/
inductive ProblemKind
  | advertisedWithoutStock
  | stockout
  | lowStockCover
  | spendWithoutOrders
  | highDrr
  | wbFbwStockout
  | wbFbwStockoutWithAdSpend
  | wbFbwLowStockCover
  deriving DecidableEq

instance Severity.linearOrder : LinearOrder Severity :=
  LinearOrder.lift' Severity.ctorIdx fun a b h => by cases a <;> cases b <;> trivial

instance ProblemKind.linearOrder : LinearOrder ProblemKind :=
  LinearOrder.lift' ProblemKind.ctorIdx fun a b h => by cases a <;> cases b <;> trivial

/-- The warehouses observed by the stock input. -/
inductive StockScope
  | allObservedWarehouses
  | wbFbw
  /-- Mixed inventory supports no decision about one warehouse type. -/
  | unknown
  deriving DecidableEq

/-- What the rules look at for one product. -/
structure RuleInput where
  accountId : String
  sku : ℕ
  sellableStock : ℕ
  stockScope : StockScope
  soldUnits : ℕ
  salesWindowDays : ℕ
  salesGmvMinor : ℕ
  leadTimeDays : Option ℕ
  adClicks : ℕ
  adSpendMinor : ℕ
  attributedOrders : ℕ
  attributedRevenueMinor : ℕ
  targetCpoMinor : Option ℕ
  targetDrrBps : Option ℕ
  deriving DecidableEq

/-- A problem of a product. -/
structure PriorityProblem where
  accountId : String
  sku : ℕ
  kind : ProblemKind
  severity : Severity
  observed : ℕ
  threshold : ℕ
  impactMinor : ℕ
  deriving DecidableEq

/-- Why a report is refused. -/
inductive RuleError
  | invalidInput
  | duplicateSku
  deriving DecidableEq

/-- A sum that stops at the largest value. -/
def saturatingAdd (a b : ℕ) : ℕ := min (a + b) u64Max

/-- A product that stops at the largest value. -/
def saturatingMul (a b : ℕ) : ℕ := min (a * b) u64Max

/-- Red where its condition holds, else yellow where that of yellow holds. -/
def graded (red yellow : Prop) [Decidable red] [Decidable yellow] : Option Severity :=
  if red then some .red else if yellow then some .yellow else none

namespace RuleInput

/-- The bounds of a product's input. -/
def validate (input : RuleInput) : Except RuleError Unit :=
  ensure (isAccountId input.accountId ∧ input.sku ≠ 0 ∧
    (1 ≤ input.salesWindowDays ∧ input.salesWindowDays ≤ 31) ∧ input.leadTimeDays ≠ some 0 ∧
    input.targetCpoMinor ≠ some 0 ∧ input.targetDrrBps ≠ some 0) .invalidInput

/-- The account and the product of an input. -/
def product (input : RuleInput) : String ×ₗ ℕ := toLex (input.accountId, input.sku)

/-! ## Rules -/

/-- The days of delivery; three where they are unknown. -/
def leadTime (input : RuleInput) : ℕ := input.leadTimeDays.getD 3

/-- The stock, times the days of the window. -/
def coverLeft (input : RuleInput) : ℕ := input.sellableStock * input.salesWindowDays

/-- The severity of the stock that is left. -/
def coverSeverity (input : RuleInput) : Option Severity :=
  graded (input.coverLeft ≤ input.soldUnits * input.leadTime)
    (input.coverLeft ≤ input.soldUnits * (input.leadTime + 3))

/-- Which stockout it is. -/
def stockoutKind (input : RuleInput) : ProblemKind :=
  match input.stockScope, decide (0 < input.adSpendMinor) with
  | .wbFbw, true => .wbFbwStockoutWithAdSpend
  | .wbFbw, false => .wbFbwStockout
  | _, true => .advertisedWithoutStock
  | _, false => .stockout

/-- The rule on stock. -/
def stockProblem (input : RuleInput) : Option PriorityProblem :=
  if input.stockScope = .unknown then none
  else if input.sellableStock = 0 ∧ 3 ≤ input.soldUnits then
    some {
      accountId := input.accountId
      sku := input.sku
      kind := input.stockoutKind
      severity := .red
      observed := 0
      threshold := 1
      impactMinor := max input.salesGmvMinor input.adSpendMinor }
  else if input.sellableStock = 0 ∨ input.soldUnits = 0 then none
  else input.coverSeverity.map fun severity => {
    accountId := input.accountId
    sku := input.sku
    kind := if input.stockScope = .wbFbw then .wbFbwLowStockCover else .lowStockCover
    severity
    observed := min (input.coverLeft * 10 / input.soldUnits) u64Max
    threshold := input.leadTime * 10
    impactMinor := input.salesGmvMinor }

/-- Without a target the store minimum is the only threshold; overflow saturates upward. -/
def redSpend (input : RuleInput) (minimum : ℕ) : ℕ :=
  match input.targetCpoMinor with
  | some target => max (saturatingMul target 2) minimum
  | none => minimum

/-- How grave a spend without orders is. -/
def spendSeverity (input : RuleInput) (minimum : ℕ) : Option Severity :=
  graded (20 ≤ input.adClicks ∧ input.redSpend minimum ≤ input.adSpendMinor)
    (10 ≤ input.adClicks ∧ minimum ≤ input.adSpendMinor)

/-- The rule on spend without orders. -/
def spendWithoutOrders (input : RuleInput) (minimum : ℕ) : Option PriorityProblem :=
  if input.attributedOrders ≠ 0 then none
  else (input.spendSeverity minimum).map fun severity => {
    accountId := input.accountId
    sku := input.sku
    kind := .spendWithoutOrders
    severity
    observed := input.adSpendMinor
    threshold := if severity = .red then input.redSpend minimum else minimum
    impactMinor := input.adSpendMinor }

/-- The share of advertising costs in basis points, rounded half up. -/
def currentDrr (input : RuleInput) : ℕ :=
  min ((input.adSpendMinor * 10000 + input.attributedRevenueMinor / 2) / input.attributedRevenueMinor) u64Max

/-- How grave a share above the target is. -/
def drrSeverity (current target : ℕ) : Option Severity :=
  graded (target * 3 < current * 2 ∧ saturatingAdd target 500 ≤ current)
    (target * 6 < current * 5 ∧ saturatingAdd target 300 ≤ current)

/-- The rule on the share of advertising. -/
def highDrr (input : RuleInput) : Option PriorityProblem := do
  let target ← input.targetDrrBps
  if input.attributedRevenueMinor = 0 then none
  else (drrSeverity input.currentDrr target).map fun severity => {
    accountId := input.accountId
    sku := input.sku
    kind := .highDrr
    severity
    observed := input.currentDrr
    threshold := target
    impactMinor := input.adSpendMinor }

/-- What the three rules raise for one product. -/
def problems (input : RuleInput) (minimum : ℕ) : List PriorityProblem :=
  input.stockProblem.toList ++ (input.spendWithoutOrders minimum).toList ++ input.highDrr.toList

end RuleInput

/-! ## Ranking -/

/-- Gravest first, then by impact, then by account, product and kind. -/
def PriorityProblem.rank (problem : PriorityProblem) : Severityᵒᵈ ×ₗ ℕᵒᵈ ×ₗ String ×ₗ ℕ ×ₗ ProblemKind :=
  toLex (OrderDual.toDual problem.severity, toLex (OrderDual.toDual problem.impactMinor,
    toLex (problem.accountId, toLex (problem.sku, problem.kind))))

/-- **The problems of the report.** -/
def priorityProblems (inputs : List RuleInput) (recommendationsAllowed : Bool) (storeMinAdSpendMinor : ℕ) :
    Except RuleError (List PriorityProblem) := do
  ensure (inputs.length ≤ maxRuleInputs) .invalidInput
  if recommendationsAllowed then do
    let problems ← scan RuleInput.validate RuleInput.product .duplicateSku
      (fun problems input => .ok (problems ++ input.problems storeMinAdSpendMinor)) [] inputs
    return (sortByKey PriorityProblem.rank problems).take maxActions
  else return []

/-! ## Shares -/

/-- Why a share is not stated. -/
inductive KpiError
  | overflow
  deriving DecidableEq

/-- A share in basis points; nothing without a denominator. -/
def percentage (numerator denominator : ℕ) : Except KpiError (Option ℕ) :=
  if denominator = 0 then .ok none
  else
    let rounded := (numerator * 10000 + denominator / 2) / denominator
    if rounded ≤ u64Max then .ok (some rounded) else .error .overflow

/-! ## What is raised -/

/-- All problems the three rules raise, where recommendations are allowed. -/
def raisedProblems (inputs : List RuleInput) (recommendationsAllowed : Bool) (minimum : ℕ) :
    List PriorityProblem :=
  if recommendationsAllowed then
    inputs.flatMap fun input =>
      input.stockProblem.toList ++ (input.spendWithoutOrders minimum).toList ++ input.highDrr.toList
  else []

theorem raisedProblems_eq (inputs : List RuleInput) (allowed : Bool) (minimum : ℕ) :
    raisedProblems inputs allowed minimum =
      if allowed then inputs.flatMap fun input => input.problems minimum else [] := rfl

theorem foldlM_problems (minimum : ℕ) (inputs : List RuleInput) (init : List PriorityProblem) :
    inputs.foldlM (fun problems input =>
      (.ok (problems ++ input.problems minimum) : Except RuleError (List PriorityProblem))) init =
        .ok (init ++ inputs.flatMap fun input => input.problems minimum) := by
  induction inputs generalizing init with
  | nil => simp [pure, Except.pure]
  | cons input inputs ih =>
    rw [List.foldlM_cons, List.flatMap_cons, ← List.append_assoc]
    exact ih _

theorem priorityProblems_eq_ok {inputs : List RuleInput} {allowed : Bool} {minimum : ℕ}
    {problems : List PriorityProblem} :
    priorityProblems inputs allowed minimum = .ok problems ↔
      inputs.length ≤ maxRuleInputs ∧
      (allowed = true → (∀ input ∈ inputs, input.validate = .ok ()) ∧ (inputs.map RuleInput.product).Nodup) ∧
      (sortByKey PriorityProblem.rank (raisedProblems inputs allowed minimum)).take maxActions = problems := by
  simp only [priorityProblems, ok_of_bind, ensure_eq_ok, exists_const, raisedProblems_eq]
  refine and_congr_right fun _ => ?_
  cases allowed with
  | false => simp [sortByKey, pure, Except.pure]
  | true =>
    simp only [if_true, ok_of_bind, ok_of_pure, scan_eq_ok, foldlM_problems, Except.ok.injEq, List.nil_append,
      forall_const]
    constructor
    · rintro ⟨_, ⟨hvalid, hdistinct, rfl⟩, rfl⟩
      exact ⟨⟨hvalid, hdistinct⟩, rfl⟩
    · rintro ⟨⟨hvalid, hdistinct⟩, rfl⟩
      exact ⟨_, ⟨hvalid, hdistinct, rfl⟩, rfl⟩

theorem PriorityProblem.of_rank_eq {p q : PriorityProblem} (h : p.rank = q.rank) :
    toLex (p.accountId, p.sku) = toLex (q.accountId, q.sku) ∧ p.kind = q.kind := by
  simp only [PriorityProblem.rank, toLex_inj, Prod.mk.injEq] at h
  obtain ⟨-, -, haccount, hsku, hkind⟩ := h
  rw [haccount, hsku]
  exact ⟨rfl, hkind⟩

namespace RuleInput

variable {input : RuleInput} {minimum : ℕ} {p : PriorityProblem}

theorem stockProblem_eq_some (h : input.stockProblem = some p) :
    toLex (p.accountId, p.sku) = input.product ∧ p.kind ≠ .spendWithoutOrders ∧ p.kind ≠ .highDrr := by
  unfold stockProblem at h
  split_ifs at h
  · cases h
    refine ⟨rfl, ?_⟩
    show input.stockoutKind ≠ _ ∧ input.stockoutKind ≠ _
    unfold stockoutKind
    split <;> exact ⟨by decide, by decide⟩
  -- low cover, of the warehouse type or of all warehouses
  · obtain ⟨severity, -, rfl⟩ := Option.map_eq_some_iff.mp h
    exact ⟨rfl, by simp, by simp⟩
  · obtain ⟨severity, -, rfl⟩ := Option.map_eq_some_iff.mp h
    exact ⟨rfl, by simp, by simp⟩

theorem spendWithoutOrders_eq_some (h : input.spendWithoutOrders minimum = some p) :
    toLex (p.accountId, p.sku) = input.product ∧ p.kind = .spendWithoutOrders := by
  unfold spendWithoutOrders at h
  split_ifs at h
  obtain ⟨severity, -, rfl⟩ := Option.map_eq_some_iff.mp h
  exact ⟨rfl, rfl⟩

theorem highDrr_eq_some (h : input.highDrr = some p) :
    toLex (p.accountId, p.sku) = input.product ∧ p.kind = .highDrr ∧ p.observed = input.currentDrr := by
  obtain ⟨target, -, h⟩ := Option.bind_eq_some_iff.mp h
  split_ifs at h
  obtain ⟨severity, -, rfl⟩ := Option.map_eq_some_iff.mp h
  exact ⟨rfl, rfl, rfl⟩

theorem mem_problems : p ∈ input.problems minimum ↔
    input.stockProblem = some p ∨ input.spendWithoutOrders minimum = some p ∨ input.highDrr = some p := by
  simp [problems]

theorem product_of_mem_problems (h : p ∈ input.problems minimum) :
    toLex (p.accountId, p.sku) = input.product := by
  rcases mem_problems.mp h with h | h | h
  · exact (stockProblem_eq_some h).1
  · exact (spendWithoutOrders_eq_some h).1
  · exact (highDrr_eq_some h).1

theorem nodup_kind_problems : ((input.problems minimum).map PriorityProblem.kind).Nodup := by
  rw [problems]
  cases hstock : input.stockProblem <;> cases hspend : input.spendWithoutOrders minimum <;>
    cases hdrr : input.highDrr <;> simp
  · rw [(spendWithoutOrders_eq_some hspend).2, (highDrr_eq_some hdrr).2.1]
    decide
  · rw [(highDrr_eq_some hdrr).2.1]
    exact (stockProblem_eq_some hstock).2.2
  · rw [(spendWithoutOrders_eq_some hspend).2]
    exact (stockProblem_eq_some hstock).2.1
  · rw [(spendWithoutOrders_eq_some hspend).2, (highDrr_eq_some hdrr).2.1]
    exact ⟨(stockProblem_eq_some hstock).2, by decide⟩

end RuleInput

/-- Distinct products raise problems of distinct ranks. -/
theorem nodup_rank_raised {inputs : List RuleInput} {allowed : Bool} {minimum : ℕ}
    (h : allowed = true → (inputs.map RuleInput.product).Nodup) :
    ((raisedProblems inputs allowed minimum).map PriorityProblem.rank).Nodup := by
  cases allowed with
  | false => exact List.nodup_nil
  | true =>
    show ((inputs.flatMap fun input => input.problems minimum).map PriorityProblem.rank).Nodup
    rw [List.map_flatMap, List.nodup_flatMap]
    refine ⟨fun input _ => ?_, (List.pairwise_map.mp (h rfl)).imp fun {input other} hne => ?_⟩
    · refine List.Nodup.of_map (fun rank => rank.2.2.2.2) ?_
      rw [List.map_map]
      exact RuleInput.nodup_kind_problems
    · intro rank hrank hrank'
      obtain ⟨p, hp, rfl⟩ := List.mem_map.mp hrank
      obtain ⟨q, hq, heq⟩ := List.mem_map.mp hrank'
      refine hne ?_
      rw [← RuleInput.product_of_mem_problems hp, ← RuleInput.product_of_mem_problems hq]
      exact (PriorityProblem.of_rank_eq heq).1.symm

/-- A share that the report can state is the one the rule compares. -/
theorem RuleInput.currentDrr_eq {input : RuleInput} {value : ℕ}
    (h : percentage input.adSpendMinor input.attributedRevenueMinor = .ok (some value)) :
    input.currentDrr = value := by
  simp only [percentage] at h
  split_ifs at h with hzero hfits
  · cases h
  · cases h
    exact min_eq_left hfits

/-- **The first five problems, in any order of the products.** They ascend by rank, none
left out precedes one of them, and the share that `highDrr` compares is the reported one. -/
theorem priorityProblems_first_five {inputs : List RuleInput} {allowed : Bool} {minimum : ℕ}
    {problems : List PriorityProblem} (h : priorityProblems inputs allowed minimum = .ok problems) :
    (∀ inputs', inputs.Perm inputs' → priorityProblems inputs' allowed minimum = .ok problems) ∧
    ((problems.map PriorityProblem.rank).Pairwise (· < ·) ∧
      problems.length = min 5 (raisedProblems inputs allowed minimum).toFinset.card ∧
      (∀ p ∈ problems, p ∈ raisedProblems inputs allowed minimum) ∧
      ∀ p ∈ raisedProblems inputs allowed minimum, p ∉ problems → ∀ q ∈ problems, q.rank < p.rank) ∧
    ∀ (input : RuleInput) (value : ℕ),
      percentage input.adSpendMinor input.attributedRevenueMinor = .ok (some value) →
      input.currentDrr = value ∧ ∀ p, input.highDrr = some p → p.observed = value := by
  obtain ⟨hlength, haccepted, rfl⟩ := priorityProblems_eq_ok.mp h
  have hranks : ((raisedProblems inputs allowed minimum).map PriorityProblem.rank).Nodup :=
    nodup_rank_raised fun hallowed => (haccepted hallowed).2
  refine ⟨fun inputs' hperm => ?_, ⟨?_, ?_, ?_, ?_⟩, fun input value hvalue => ?_⟩
  · have hraised : (raisedProblems inputs allowed minimum).Perm (raisedProblems inputs' allowed minimum) := by
      rw [raisedProblems_eq, raisedProblems_eq]
      split_ifs
      · exact hperm.flatMap_right _
      · exact List.Perm.nil
    refine priorityProblems_eq_ok.mpr ⟨hperm.length_eq ▸ hlength, fun hallowed => ?_, ?_⟩
    · obtain ⟨hvalid, hdistinct⟩ := haccepted hallowed
      exact ⟨fun input hinput => hvalid input (hperm.mem_iff.mpr hinput),
        (hperm.map _).nodup_iff.mp hdistinct⟩
    · rw [sortByKey_eq_of_perm hraised hranks]
  · rw [List.map_take]
    exact (pairwise_lt_sortByKey hranks).sublist (List.take_sublist _ _)
  · rw [List.length_take, (sortByKey_perm _ _).length_eq, List.toFinset_card_of_nodup hranks.of_map]
    rfl
  · intro p hp
    exact mem_sortByKey.mp (List.mem_of_mem_take hp)
  · intro p hp hout q hq
    exact key_lt_of_not_mem_take hranks hq hp hout
  · have hcurrent := RuleInput.currentDrr_eq hvalue
    exact ⟨hcurrent, fun p hp => (RuleInput.highDrr_eq_some hp).2.2.trans hcurrent⟩

/-- A product of the first store with nothing to report. -/
def quietProduct (sku : ℕ) : RuleInput where
  accountId := "ozon_store"
  sku := sku
  sellableStock := 100
  stockScope := .allObservedWarehouses
  soldUnits := 10
  salesWindowDays := 14
  salesGmvMinor := 100000
  leadTimeDays := some 3
  adClicks := 0
  adSpendMinor := 0
  attributedOrders := 0
  attributedRevenueMinor := 0
  targetCpoMinor := some 1000
  targetDrrBps := some 1000

/-- Seven products without stock, each advertised more than the one before. -/
def soldOutProducts : List RuleInput :=
  (List.range 7).map fun i =>
    { quietProduct (i + 1) with sellableStock := 0, soldUnits := 3, salesGmvMinor := 0, adSpendMinor := (i + 1) * 1000 }

theorem priorityProblems_first_five_sold_out :
    ∃ problems, priorityProblems soldOutProducts true 500 = .ok problems ∧
      problems.map PriorityProblem.sku = [7, 6, 5, 4, 3] ∧
      priorityProblems soldOutProducts.reverse true 500 = .ok problems := by
  obtain ⟨problems, h, hskus⟩ : ∃ problems, priorityProblems soldOutProducts true 500 = .ok problems ∧
    problems.map PriorityProblem.sku = [7, 6, 5, 4, 3] := ⟨_, rfl, by decide +kernel⟩
  exact ⟨problems, h, hskus,
    (priorityProblems_first_five h).1 soldOutProducts.reverse (List.reverse_perm _).symm⟩

/-! ## Severities -/

/-- No problem is below a yellow one, and a yellow one below a red one. -/
def grade : Option Severity → ℕ
  | none => 0
  | some .yellow => 1
  | some .red => 2

/-- The grade of what a rule raises. -/
def problemGrade (problem : Option PriorityProblem) : ℕ := grade (problem.map PriorityProblem.severity)

/-- The grade of a problem that is built from a severity. -/
theorem problemGrade_map {severity : Option Severity} {build : Severity → PriorityProblem}
    (hbuild : ∀ severity, (build severity).severity = severity) :
    problemGrade (severity.map build) = grade severity := by
  cases severity with
  | none => rfl
  | some severity => rw [problemGrade, Option.map_some, Option.map_some, hbuild]

theorem grade_le_two (severity : Option Severity) : grade severity ≤ 2 := by
  rcases severity with _ | _ | _ <;> decide

theorem grade_graded_le {red yellow red' yellow' : Prop} [Decidable red] [Decidable yellow] [Decidable red']
    [Decidable yellow'] (hred : red → red') (hyellow : yellow → yellow') :
    grade (graded red yellow) ≤ grade (graded red' yellow') := by
  by_cases h : red'
  · rw [graded.eq_1 red', if_pos h]
    exact grade_le_two _
  · rw [graded, graded, if_neg h, if_neg fun h' => h (hred h')]
    by_cases hy : yellow
    · rw [if_pos hy, if_pos (hyellow hy)]
    · rw [if_neg hy]
      exact Nat.zero_le _

namespace RuleInput

theorem problemGrade_stockProblem (input : RuleInput) (hscope : input.stockScope ≠ .unknown)
    (hstock : input.sellableStock ≠ 0) (hsold : input.soldUnits ≠ 0) :
    problemGrade input.stockProblem = grade input.coverSeverity := by
  rw [stockProblem, if_neg hscope, if_neg fun h => hstock h.1, if_neg (not_or.mpr ⟨hstock, hsold⟩)]
  exact problemGrade_map fun _ => rfl

/-- **Less stock never lowers the severity**, down to an exhausted stock of a product sold three times. -/
theorem stockProblem_mono (input : RuleInput) {less : ℕ} (hless : less ≤ input.sellableStock)
    (hgate : 0 < less ∨ 3 ≤ input.soldUnits) :
    problemGrade input.stockProblem ≤ problemGrade { input with sellableStock := less }.stockProblem := by
  by_cases hscope : input.stockScope = .unknown
  · rw [stockProblem, if_pos hscope]
    exact Nat.zero_le _
  by_cases hsold : input.soldUnits = 0
  · rw [stockProblem, if_neg hscope, if_neg (by omega), if_pos (.inr hsold)]
    exact Nat.zero_le _
  by_cases hzero : less = 0
  · have hthree : 3 ≤ input.soldUnits := by omega
    rw [stockProblem.eq_1 { input with sellableStock := less }, if_neg hscope, if_pos ⟨hzero, hthree⟩]
    exact grade_le_two _
  · rw [problemGrade_stockProblem input hscope (by omega) hsold,
      problemGrade_stockProblem { input with sellableStock := less } hscope hzero hsold]
    have hcover : less * input.salesWindowDays ≤ input.sellableStock * input.salesWindowDays :=
      Nat.mul_le_mul_right _ hless
    exact grade_graded_le hcover.trans hcover.trans

theorem stockProblem_exhausted (input : RuleInput) (hstock : input.sellableStock = 0)
    (hsold : input.soldUnits < 3) : input.stockProblem = none := by
  have hgate : ¬ (input.sellableStock = 0 ∧ 3 ≤ input.soldUnits) := by omega
  rw [stockProblem, if_neg hgate, if_pos (Or.inl hstock), ite_self]

/-- **More spend never lowers the severity of spend without orders.** -/
theorem spendWithoutOrders_mono (input : RuleInput) (minimum : ℕ) {more : ℕ} (hmore : input.adSpendMinor ≤ more) :
    problemGrade (input.spendWithoutOrders minimum) ≤
      problemGrade ({ input with adSpendMinor := more }.spendWithoutOrders minimum) := by
  unfold spendWithoutOrders
  split_ifs with horders
  · exact Nat.le_refl _
  · rw [problemGrade_map fun _ => rfl, problemGrade_map fun _ => rfl]
    exact grade_graded_le (And.imp_right hmore.trans') (And.imp_right hmore.trans')

theorem currentDrr_mono (input : RuleInput) {more : ℕ} (hmore : input.adSpendMinor ≤ more) :
    input.currentDrr ≤ { input with adSpendMinor := more }.currentDrr := by
  have hscaled : input.adSpendMinor * 10000 + input.attributedRevenueMinor / 2 ≤
      more * 10000 + input.attributedRevenueMinor / 2 := by omega
  exact min_le_min_right _ (Nat.div_le_div_right hscaled)

theorem grade_drrSeverity_le {current current' : ℕ} (target : ℕ) (h : current ≤ current') :
    grade (drrSeverity current target) ≤ grade (drrSeverity current' target) := by
  refine grade_graded_le (fun hred => ?_) (fun hyellow => ?_)
  · exact ⟨by omega, hred.2.trans h⟩
  · exact ⟨by omega, hyellow.2.trans h⟩

theorem problemGrade_highDrr (input : RuleInput) {target : ℕ} (htarget : input.targetDrrBps = some target)
    (hrevenue : input.attributedRevenueMinor ≠ 0) :
    problemGrade input.highDrr = grade (drrSeverity input.currentDrr target) := by
  rw [highDrr, htarget, Option.bind_eq_bind, Option.bind_some, if_neg hrevenue]
  exact problemGrade_map fun _ => rfl

/-- **More spend never lowers the severity of a high share.** -/
theorem highDrr_mono (input : RuleInput) {more : ℕ} (hmore : input.adSpendMinor ≤ more) :
    problemGrade input.highDrr ≤ problemGrade { input with adSpendMinor := more }.highDrr := by
  obtain htarget | ⟨target, htarget⟩ := Option.eq_none_or_eq_some input.targetDrrBps
  · rw [highDrr, htarget]
    exact Nat.zero_le _
  · by_cases hrevenue : input.attributedRevenueMinor = 0
    · rw [highDrr, htarget, Option.bind_eq_bind, Option.bind_some, if_pos hrevenue]
      exact Nat.zero_le _
    · rw [problemGrade_highDrr input htarget hrevenue,
        problemGrade_highDrr { input with adSpendMinor := more } htarget hrevenue]
      exact grade_drrSeverity_le target (input.currentDrr_mono hmore)

end RuleInput

/-- **Severity follows the evidence.** Less stock never lowers the severity of stock while some is left or
three units were sold; exhausted stock of fewer sales is not reported; more spend never lowers the
severity of the other rules. -/
theorem severity_monotone (input : RuleInput) (minimum : ℕ) :
    (∀ less ≤ input.sellableStock, 0 < less ∨ 3 ≤ input.soldUnits →
      problemGrade input.stockProblem ≤ problemGrade { input with sellableStock := less }.stockProblem) ∧
    (input.soldUnits < 3 → { input with sellableStock := 0 }.stockProblem = none) ∧
    (∀ more ≥ input.adSpendMinor,
      problemGrade (input.spendWithoutOrders minimum) ≤
        problemGrade ({ input with adSpendMinor := more }.spendWithoutOrders minimum)) ∧
    ∀ more ≥ input.adSpendMinor,
      problemGrade input.highDrr ≤ problemGrade { input with adSpendMinor := more }.highDrr := by
  refine ⟨?_, ?_, ?_, ?_⟩
  · intro less hless hgate
    exact input.stockProblem_mono hless hgate
  · intro hsold
    exact { input with sellableStock := 0 }.stockProblem_exhausted rfl hsold
  · intro more hmore
    exact input.spendWithoutOrders_mono minimum hmore
  · intro more hmore
    exact input.highDrr_mono hmore

theorem severity_monotone_last_unit :
    problemGrade { quietProduct 1 with sellableStock := 1 }.stockProblem ≤
      problemGrade { quietProduct 1 with sellableStock := 0 }.stockProblem :=
  (severity_monotone { quietProduct 1 with sellableStock := 1 } 500).1 0 (by decide) (.inr (by decide))

/-- One unit left of a product sold twice is grave; none left is not reported. -/
theorem stockProblem_last_unit_sold_twice :
    ¬ ∀ input : RuleInput, input.validate = .ok () → input.stockScope ≠ .unknown → 1 ≤ input.soldUnits →
      ∀ less ≤ input.sellableStock,
        problemGrade input.stockProblem ≤ problemGrade { input with sellableStock := less }.stockProblem := by
  intro h
  have hlast := h { quietProduct 1 with sellableStock := 1, soldUnits := 2, salesWindowDays := 1 } rfl
    (by decide) (by decide) 0 (by decide)
  exact absurd hlast (by decide)

end AdsControl.Reporting
