import AdsControl.Optimizer.Evaluate
import AdsControl.Lib.Apportionment

/-!
# Allocation of the portfolio budget

Existing baselines are kept first and scaled down only when they exceed the portfolio budget; the
headroom that is left is shared in proportion to the requested increments. Both stages round by
largest remainders.

* `proportional`, with **`proportional_eq`**: it never fails and is `largestRemainder`;
* `allocate`, `recommend`;
* **`portfolio_budget_law`**: the amounts, stage by stage, and the exact total.
-/

namespace AdsControl.Optimizer

open Fallible Machine Apportionment

/-! ## Proportional shares -/

/-- Each exact share rounded down, with the running total in the second component. -/
def assignFloors (total budget : ℕ) :
    List ℕ → ℕ → Except OptimizerError (List ℕ × ℕ)
  | [], assigned => .ok ([], assigned)
  | weight :: rest, assigned => do
    let amount ← context (tryFrom 64 (weight * budget / total)) .overflow
    let assigned ← context (checkedAdd 64 assigned amount) .overflow
    let (amounts, assigned) ← assignFloors total budget rest assigned
    return (amount :: amounts, assigned)

/-- One more unit for each of the listed positions. -/
def addUnits : List ℕ → List ℕ → Except OptimizerError (List ℕ)
  | amounts, [] => .ok amounts
  | amounts, index :: rest => do
    let value ← context (checkedAdd 64 (amounts.getD index 0) 1) .overflow
    addUnits (amounts.set index value) rest

/-- Largest-remainder allocation; the position breaks ties. -/
def proportional (weights : List ℕ) (budget : ℕ) : Except OptimizerError (List ℕ) :=
  let total := weights.sum
  if total = 0 then .ok (List.replicate weights.length 0)
  else do
    let (amounts, assigned) ← assignFloors total budget weights 0
    let order := ranked (weights.map fun weight => weight * budget % total)
    let remaining ← context (tryFrom 64 (budget - assigned)) .overflow
    addUnits amounts ((order.take remaining).map Prod.fst)

/-! ## Allocation -/

/-- The part of the current budget a row keeps. -/
def base (row : ProductRecommendation) : ℕ :=
  min row.currentDailyBudgetMinor row.suggestedDailyBudgetMinor

/-- The growth a row asks for. -/
def increment (row : ProductRecommendation) : ℕ :=
  row.suggestedDailyBudgetMinor - base row

/-- The sums of two lists. -/
def addAmounts : List ℕ → List ℕ → Except OptimizerError (List ℕ)
  | base :: bases, extra :: extras => do
    let amount ← context (checkedAdd 64 base extra) .overflow
    let amounts ← addAmounts bases extras
    return amount :: amounts
  | _, _ => .ok []

/-- The increments within the headroom. -/
def additions (increments : List ℕ) (available : ℕ) : Except OptimizerError (List ℕ) :=
  if available < increments.sum then proportional increments available else .ok increments

/-- The share of every product. -/
def assign (policy : OptimizerPolicy) (rows : List ProductRecommendation) :
    Except OptimizerError (List ℕ) :=
  let bases := rows.map base
  if policy.totalDailyBudgetMinor < bases.sum then
    proportional bases policy.totalDailyBudgetMinor
  else do
    let baseTotal ← context (tryFrom 64 bases.sum) .overflow
    let available := policy.totalDailyBudgetMinor - baseTotal
    let extras ← additions (rows.map increment) available
    addAmounts bases extras

/-- Lower the suggestion of a row to the amount assigned to it. -/
def capRow (row : ProductRecommendation) (amount : ℕ) : ProductRecommendation :=
  if amount < row.suggestedDailyBudgetMinor then
    { row with
      reasons := row.reasons ++ [.portfolioBudgetCap]
      suggestedDailyBudgetMinor := amount
      action :=
        if amount < row.currentDailyBudgetMinor then .reviewReduction
        else if amount = row.currentDailyBudgetMinor then .hold
        else .testBudgetIncrease }
  else row

/-- Give every product its share. -/
def allocate (policy : OptimizerPolicy) (rows : List ProductRecommendation) :
    Except OptimizerError (List ProductRecommendation) := do
  let assigned ← assign policy rows
  return List.zipWith capRow rows assigned

/-! ## The report -/

/-- The report of an optimization. -/
structure ShadowReport where
  version : ℕ
  mode : String
  objective : OptimizationObjective
  currency : String
  accountId : String
  asOf : ℤ
  inputSha256 : String
  totalDailyBudgetMinor : ℕ
  allocatedDailyBudgetMinor : ℕ
  unallocatedDailyBudgetMinor : ℕ
  recommendations : List ProductRecommendation

/-- The canonical order of references, products and days. -/
def sortInput (input : ShadowInput) : ShadowInput :=
  { input with
    sourceRefs := input.sourceRefs.insertionSort (· ≤ ·)
    products := (input.products.insertionSort fun a b => a.sku ≤ b.sku).map fun product =>
      { product with daily := product.daily.insertionSort fun a b => a.date ≤ b.date } }

/-- Recommend budgets for a validated input; `sha256` digests the sorted input. -/
def recommend (sha256 : ShadowInput → String) (input : ShadowInput) :
    Except OptimizerError ShadowReport := do
  validate input
  let input := sortInput input
  let rows ← input.products.mapM (evaluate input)
  let recommendations ← allocate input.policy rows
  let allocated ← recommendations.foldlM (fun total row =>
    addMinor total row.suggestedDailyBudgetMinor) 0
  return {
    version := 1
    mode := "shadow"
    objective := input.objective
    currency := "RUB"
    accountId := input.accountId
    asOf := input.asOf
    inputSha256 := sha256 input
    totalDailyBudgetMinor := input.policy.totalDailyBudgetMinor
    allocatedDailyBudgetMinor := allocated
    unallocatedDailyBudgetMinor := input.policy.totalDailyBudgetMinor - allocated
    recommendations := recommendations }

/-! ## Proportional shares never fail -/

theorem assignFloors_eq {total budget : ℕ} {weights : List ℕ} {assigned : ℕ}
    (h : assigned + (weights.map fun w => w * budget / total).sum < 2 ^ 64) :
    assignFloors total budget weights assigned = .ok (weights.map fun w => w * budget / total,
      assigned + (weights.map fun w => w * budget / total).sum) := by
  induction weights generalizing assigned with
  | nil => rfl
  | cons w weights ih =>
    rw [List.map_cons, List.sum_cons] at h ⊢
    have hamount : tryFrom 64 (w * budget / total) = some (w * budget / total) :=
      tryFrom_eq_some.mpr ⟨rfl, by omega⟩
    have hassigned : checkedAdd 64 assigned (w * budget / total) =
        some (assigned + w * budget / total) := checkedAdd_eq_some.mpr ⟨rfl, by omega⟩
    have hfit : assigned + w * budget / total +
        (weights.map fun w => w * budget / total).sum < 2 ^ 64 := by omega
    simp only [assignFloors, ok_of_bind, context_eq_ok, ok_of_pure]
    exact ⟨_, hamount, _, hassigned, _, ih hfit, by rw [add_assoc]⟩

theorem addUnits_eq {amounts indices : List ℕ}
    (h : ∀ (j amount : ℕ), (bump amounts indices)[j]? = some amount → amount < 2 ^ 64)
    (hin : ∀ i ∈ indices, i < amounts.length) :
    addUnits amounts indices = .ok (bump amounts indices) := by
  induction indices generalizing amounts with
  | nil => rfl
  | cons i indices ih =>
    have hi : i < amounts.length := hin i List.mem_cons_self
    have hvalue : amounts.getD i 0 + 1 < 2 ^ 64 := by
      have hget := getElem?_bump amounts (i :: indices) i
      rw [List.getElem?_eq_getElem hi, Option.map_some, List.count_cons_self] at hget
      have := h i _ hget
      rw [List.getD_eq_getElem _ _ hi]
      omega
    have hadd : checkedAdd 64 (amounts.getD i 0) 1 = some (amounts.getD i 0 + 1) :=
      checkedAdd_eq_some.mpr ⟨rfl, hvalue⟩
    simp only [addUnits, ok_of_bind, context_eq_ok]
    refine ⟨_, hadd, ?_⟩
    rw [bump_cons] at h ⊢
    refine ih h fun j hj => ?_
    rw [List.length_set]
    exact hin j (List.mem_cons_of_mem _ hj)

/-- **Sharing a budget no larger than the total weight succeeds with the largest-remainder
amounts.** -/
theorem proportional_eq {weights : List ℕ} {budget : ℕ} (h : weights.sum ≠ 0)
    (hb : budget ≤ weights.sum) (hlt : budget < 2 ^ 64) (hw : ∀ w ∈ weights, w < 2 ^ 64) :
    proportional weights budget = .ok (largestRemainder weights budget) := by
  have hfloors : (floors weights budget).sum ≤ budget := floors_sum_le h
  have hassign : assignFloors weights.sum budget weights 0 =
      .ok (floors weights budget, (floors weights budget).sum) := by
    have hfit : 0 + (floors weights budget).sum < 2 ^ 64 := by omega
    have heq := assignFloors_eq hfit
    rwa [Nat.zero_add] at heq
  have hremaining : tryFrom 64 (budget - (floors weights budget).sum) =
      some (budget - (floors weights budget).sum) := tryFrom_eq_some.mpr ⟨rfl, by omega⟩
  have hunits : addUnits (floors weights budget) (absorbers weights budget) =
      .ok (largestRemainder weights budget) := by
    refine addUnits_eq (fun j amount hj => ?_) fun i hi => ?_
    · -- an amount never exceeds its weight, which is a `u64`
      have hlen : j < weights.length := by
        rw [← length_largestRemainder weights budget]
        exact (List.getElem?_eq_some_iff.mp hj).1
      obtain ⟨amount', hget, happ⟩ := getElem?_largestRemainder h (List.getElem?_eq_getElem hlen)
      rw [largestRemainder, hj, Option.some.injEq] at hget
      rw [hget]
      exact (apportioned_le_weight (Nat.pos_of_ne_zero h) hb happ).trans_lt
        (hw _ (List.getElem_mem hlen))
    · obtain ⟨w, hget, -⟩ := of_mem_absorbers h hi
      rw [floors, List.length_map]
      exact (List.getElem?_eq_some_iff.mp hget).1
  unfold proportional
  rw [if_neg h]
  simp only [ok_of_bind, context_eq_ok]
  exact ⟨_, hassign, _, hremaining, hunits⟩

/-! ## The assignment -/

theorem addAmounts_eq {bases extras : List ℕ} (hlen : bases.length = extras.length)
    (h : ∀ (i b e : ℕ), bases[i]? = some b → extras[i]? = some e → b + e < 2 ^ 64) :
    addAmounts bases extras = .ok (List.zipWith (· + ·) bases extras) := by
  induction bases generalizing extras with
  | nil =>
    rw [List.length_nil, eq_comm, List.length_eq_zero_iff] at hlen
    subst hlen
    rfl
  | cons b bases ih =>
    cases extras with
    | nil => simp at hlen
    | cons e extras =>
      rw [List.length_cons, List.length_cons, Nat.succ_inj] at hlen
      have hadd : checkedAdd 64 b e = some (b + e) := checkedAdd_eq_some.mpr ⟨rfl, h 0 b e rfl rfl⟩
      have hrest := ih hlen fun i b' e' hb he => h (i + 1) b' e' hb he
      simp only [addAmounts, ok_of_bind, context_eq_ok, ok_of_pure]
      exact ⟨_, hadd, _, hrest, rfl⟩

theorem sum_zipWith_add {bases extras : List ℕ} (hlen : bases.length = extras.length) :
    (List.zipWith (· + ·) bases extras).sum = bases.sum + extras.sum := by
  induction bases generalizing extras with
  | nil =>
    rw [List.length_nil, eq_comm, List.length_eq_zero_iff] at hlen
    subst hlen
    rfl
  | cons b bases ih =>
    cases extras with
    | nil => simp at hlen
    | cons e extras =>
      rw [List.length_cons, List.length_cons, Nat.succ_inj] at hlen
      rw [List.zipWith_cons_cons, List.sum_cons, List.sum_cons, List.sum_cons, ih hlen]
      omega

theorem base_add_increment (row : ProductRecommendation) :
    base row + increment row = row.suggestedDailyBudgetMinor := by
  unfold increment base
  omega

/-- What the assignment gives one row, with portfolio budget `t`, total baseline `b` and total
requested growth `d`. -/
def RowShare (t b d : ℕ) (row : ProductRecommendation) (amount : ℕ) : Prop :=
  if t < b then Apportioned b t (base row) amount
  else if t - b < d then
    ∃ extra, Apportioned d (t - b) (increment row) extra ∧ amount = base row + extra
  else amount = row.suggestedDailyBudgetMinor

section Assign

variable {policy : OptimizerPolicy} {rows : List ProductRecommendation}

theorem sum_suggested (rows : List ProductRecommendation) :
    (rows.map fun row => row.suggestedDailyBudgetMinor).sum =
      (rows.map base).sum + (rows.map increment).sum := by
  rw [← List.sum_map_add]
  congr 1
  exact List.map_congr_left fun row _ => (base_add_increment row).symm

/-- The additions never exceed the headroom and are shares of it, or everything asked for. -/
theorem additions_spec {available : ℕ} (hlt : available < 2 ^ 64)
    (hrows : ∀ row ∈ rows, row.suggestedDailyBudgetMinor < 2 ^ 64) :
    ∃ extras, additions (rows.map increment) available = .ok extras ∧
      extras.length = rows.length ∧ extras.sum = min available (rows.map increment).sum ∧
      ∀ (i : ℕ) row, rows[i]? = some row → ∃ extra, extras[i]? = some extra ∧
        extra ≤ increment row ∧ if available < (rows.map increment).sum then
          Apportioned (rows.map increment).sum available (increment row) extra
        else extra = increment row := by
  have hinc : ∀ w ∈ rows.map increment, w < 2 ^ 64 := by
    intro w hw
    obtain ⟨row, hmem, rfl⟩ := List.mem_map.mp hw
    have := hrows row hmem
    unfold increment
    omega
  unfold additions
  by_cases hscale : available < (rows.map increment).sum
  · have hne : (rows.map increment).sum ≠ 0 := by omega
    rw [if_pos hscale]
    refine ⟨_, proportional_eq hne hscale.le hlt hinc, ?_, ?_, fun i row hrow => ?_⟩
    · rw [length_largestRemainder, List.length_map]
    · rw [sum_largestRemainder hne, min_eq_left hscale.le]
    · have hw : (rows.map increment)[i]? = some (increment row) := by
        rw [List.getElem?_map, hrow, Option.map_some]
      obtain ⟨extra, hget, happ⟩ := getElem?_largestRemainder hne hw
      refine ⟨extra, hget, apportioned_le_weight (by omega) hscale.le happ, ?_⟩
      rw [if_pos hscale]
      exact happ
  · rw [if_neg hscale]
    refine ⟨_, rfl, List.length_map _, ?_, fun i row hrow => ?_⟩
    · rw [min_eq_right (by omega)]
    · refine ⟨increment row, ?_, le_rfl, ?_⟩
      · rw [List.getElem?_map, hrow, Option.map_some]
      · rw [if_neg hscale]

/-- **The assignment succeeds**, row by row as `RowShare` says, and exhausts the smaller of the
portfolio budget and the suggestions. -/
theorem assign_spec (ht : policy.totalDailyBudgetMinor < 2 ^ 64)
    (hrows : ∀ row ∈ rows, row.suggestedDailyBudgetMinor < 2 ^ 64) :
    ∃ amounts, assign policy rows = .ok amounts ∧ amounts.length = rows.length ∧
      amounts.sum = min policy.totalDailyBudgetMinor
        (rows.map fun row => row.suggestedDailyBudgetMinor).sum ∧
      ∀ (i : ℕ) row, rows[i]? = some row → ∃ amount, amounts[i]? = some amount ∧
        RowShare policy.totalDailyBudgetMinor (rows.map base).sum (rows.map increment).sum row
          amount := by
  have hsum := sum_suggested rows
  unfold assign
  dsimp only
  by_cases hscale : policy.totalDailyBudgetMinor < (rows.map base).sum
  · have hne : (rows.map base).sum ≠ 0 := by omega
    have hbase : ∀ w ∈ rows.map base, w < 2 ^ 64 := by
      intro w hw
      obtain ⟨row, hmem, rfl⟩ := List.mem_map.mp hw
      have := hrows row hmem
      unfold base
      omega
    rw [if_pos hscale]
    refine ⟨_, proportional_eq hne hscale.le ht hbase, ?_, ?_, fun i row hrow => ?_⟩
    · rw [length_largestRemainder, List.length_map]
    · rw [sum_largestRemainder hne]
      omega
    · have hw : (rows.map base)[i]? = some (base row) := by
        rw [List.getElem?_map, hrow, Option.map_some]
      obtain ⟨amount, hget, happ⟩ := getElem?_largestRemainder hne hw
      refine ⟨amount, hget, ?_⟩
      rw [RowShare, if_pos hscale]
      exact happ
  · have hnarrow : tryFrom 64 (rows.map base).sum = some (rows.map base).sum :=
      tryFrom_eq_some.mpr ⟨rfl, by omega⟩
    have havail : policy.totalDailyBudgetMinor - (rows.map base).sum < 2 ^ 64 := by omega
    obtain ⟨extras, hextras, hlen, hextra, hrow⟩ := additions_spec havail hrows
    have hlen' : (rows.map base).length = extras.length := by rw [List.length_map, hlen]
    have hadd : addAmounts (rows.map base) extras =
        .ok (List.zipWith (· + ·) (rows.map base) extras) := by
      refine addAmounts_eq hlen' fun i b e hb he => ?_
      rw [List.getElem?_map, Option.map_eq_some_iff] at hb
      obtain ⟨row, hget, rfl⟩ := hb
      obtain ⟨extra, he', hle, -⟩ := hrow i row hget
      rw [he, Option.some.injEq] at he'
      have hs := base_add_increment row
      have := hrows row (List.mem_of_getElem? hget)
      omega
    rw [if_neg hscale]
    refine ⟨List.zipWith (· + ·) (rows.map base) extras, ?_, ?_, ?_, fun i row hget => ?_⟩
    · simp only [ok_of_bind, context_eq_ok]
      exact ⟨_, hnarrow, _, hextras, hadd⟩
    · rw [List.length_zipWith, List.length_map, hlen, min_self]
    · rw [sum_zipWith_add hlen', hextra]
      omega
    · obtain ⟨extra, he, -, happ⟩ := hrow i row hget
      refine ⟨base row + extra, ?_, ?_⟩
      · rw [List.getElem?_zipWith_eq_some]
        exact ⟨_, _, by rw [List.getElem?_map, hget, Option.map_some], he, rfl⟩
      · rw [RowShare, if_neg hscale]
        split_ifs at happ ⊢
        · exact ⟨extra, happ, rfl⟩
        · rw [happ]
          exact base_add_increment row

end Assign

/-! ## The budget law -/

theorem RowShare.le_suggested {t b d : ℕ} {row : ProductRecommendation} {amount : ℕ}
    (h : RowShare t b d row amount) : amount ≤ row.suggestedDailyBudgetMinor := by
  have hs := base_add_increment row
  unfold RowShare at h
  split_ifs at h with hscale hroom
  · have := apportioned_le_weight (by omega) hscale.le h
    omega
  · obtain ⟨extra, happ, rfl⟩ := h
    have := apportioned_le_weight (by omega) hroom.le happ
    omega
  · exact h.le

/-! ## What a share keeps to, stage by stage -/

section Stages

variable {t b d : ℕ} {row row' : ProductRecommendation} {amount amount' : ℕ}

theorem RowShare.le_base (h : RowShare t b d row amount) (hscale : t < b) : amount ≤ base row := by
  rw [RowShare, if_pos hscale] at h
  exact apportioned_le_weight (by omega) hscale.le h

theorem RowShare.base_le (h : RowShare t b d row amount) (hroom : b ≤ t) : base row ≤ amount := by
  have hsplit := base_add_increment row
  rw [RowShare, if_neg (by omega)] at h
  split_ifs at h
  · obtain ⟨extra, -, rfl⟩ := h
    omega
  · omega

theorem RowShare.near_scaled (h : RowShare t b d row amount) (hscale : t < b) :
    |(amount : ℚ) - base row * t / b| < 1 := by
  rw [RowShare, if_pos hscale] at h
  exact apportioned_near (by omega) h

theorem RowShare.near_headroom (h : RowShare t b d row amount) (hroom : b ≤ t) (hdesired : t - b < d) :
    |(amount : ℚ) - (base row + increment row * (t - b : ℕ) / d)| < 1 := by
  rw [RowShare, if_neg (by omega), if_pos hdesired] at h
  obtain ⟨extra, happ, rfl⟩ := h
  have hnear := apportioned_near (by omega) happ
  push_cast at hnear ⊢
  rwa [add_sub_add_left_eq_sub]

theorem RowShare.equal_scaled (h : RowShare t b d row amount) (h' : RowShare t b d row' amount')
    (hscale : t < b) (heq : base row = base row') : amount ≤ amount' + 1 := by
  rw [RowShare, if_pos hscale] at h h'
  rw [← heq] at h'
  exact apportioned_near_equal h h'

theorem RowShare.equal_headroom (h : RowShare t b d row amount) (h' : RowShare t b d row' amount')
    (hroom : b ≤ t) (heq : increment row = increment row') :
    amount - base row ≤ amount' - base row' + 1 := by
  have hsplit := base_add_increment row
  have hsplit' := base_add_increment row'
  rw [RowShare, if_neg (by omega)] at h h'
  split_ifs at h h'
  · obtain ⟨extra, happ, rfl⟩ := h
    obtain ⟨extra', happ', rfl⟩ := h'
    rw [← heq] at happ'
    have := apportioned_near_equal happ happ'
    omega
  · omega

end Stages

theorem capRow_suggested {row : ProductRecommendation} {amount : ℕ}
    (h : amount ≤ row.suggestedDailyBudgetMinor) :
    (capRow row amount).suggestedDailyBudgetMinor = amount := by
  unfold capRow
  split
  · rfl
  · omega

theorem foldlM_addMinor {rows : List ProductRecommendation} {total : ℕ}
    (h : total + (rows.map fun row => row.suggestedDailyBudgetMinor).sum < 2 ^ 64) :
    rows.foldlM (fun total row => addMinor total row.suggestedDailyBudgetMinor) total =
      .ok (total + (rows.map fun row => row.suggestedDailyBudgetMinor).sum) := by
  induction rows generalizing total with
  | nil => rfl
  | cons row rows ih =>
    rw [List.map_cons, List.sum_cons] at h ⊢
    have hadd : checkedAdd 64 total row.suggestedDailyBudgetMinor =
        some (total + row.suggestedDailyBudgetMinor) := checkedAdd_eq_some.mpr ⟨rfl, by omega⟩
    have hfit : total + row.suggestedDailyBudgetMinor +
        (rows.map fun row => row.suggestedDailyBudgetMinor).sum < 2 ^ 64 := by omega
    rw [List.foldlM_cons, ok_of_bind]
    refine ⟨_, context_eq_ok.mpr hadd, ?_⟩
    rw [ih hfit, add_assoc]

/-- **The portfolio budget law** for portfolio budget `t`, the rows before allocation and the
report: exact total, stage bounds and rounding. The position of a row is its position in the report;
`base` is the smaller of the current and the suggested budget. -/
structure BudgetLaw (t : ℕ) (rows : List ProductRecommendation) (report : ShadowReport) : Prop where
  length_eq : report.recommendations.length = rows.length
  allocated : report.allocatedDailyBudgetMinor =
    (report.recommendations.map fun row => row.suggestedDailyBudgetMinor).sum
  total : report.allocatedDailyBudgetMinor =
    min t (rows.map fun row => row.suggestedDailyBudgetMinor).sum
  no_underflow : report.allocatedDailyBudgetMinor ≤ t ∧
    report.unallocatedDailyBudgetMinor + report.allocatedDailyBudgetMinor = t
  le_suggested : ∀ (i : ℕ) row final, rows[i]? = some row →
    report.recommendations[i]? = some final →
    final.suggestedDailyBudgetMinor ≤ row.suggestedDailyBudgetMinor
  zero_kept : ∀ (i : ℕ) row final, rows[i]? = some row →
    report.recommendations[i]? = some final →
    row.suggestedDailyBudgetMinor = 0 → final.suggestedDailyBudgetMinor = 0
  le_base : t < (rows.map base).sum → ∀ (i : ℕ) row final, rows[i]? = some row →
    report.recommendations[i]? = some final → final.suggestedDailyBudgetMinor ≤ base row
  base_le : (rows.map base).sum ≤ t → ∀ (i : ℕ) row final, rows[i]? = some row →
    report.recommendations[i]? = some final → base row ≤ final.suggestedDailyBudgetMinor
  near_scaled : t < (rows.map base).sum → ∀ (i : ℕ) row final, rows[i]? = some row →
    report.recommendations[i]? = some final →
    |(final.suggestedDailyBudgetMinor : ℚ) - base row * t / (rows.map base).sum| < 1
  near_headroom : (rows.map base).sum ≤ t → t - (rows.map base).sum < (rows.map increment).sum →
    ∀ (i : ℕ) row final, rows[i]? = some row → report.recommendations[i]? = some final →
    |(final.suggestedDailyBudgetMinor : ℚ) - (base row +
      increment row * (t - (rows.map base).sum : ℕ) / (rows.map increment).sum)| < 1
  equal_scaled : t < (rows.map base).sum → ∀ (i j : ℕ) row row' final final',
    rows[i]? = some row → report.recommendations[i]? = some final →
    rows[j]? = some row' → report.recommendations[j]? = some final' → base row = base row' →
    final.suggestedDailyBudgetMinor ≤ final'.suggestedDailyBudgetMinor + 1
  equal_headroom : (rows.map base).sum ≤ t → ∀ (i j : ℕ) row row' final final',
    rows[i]? = some row → report.recommendations[i]? = some final →
    rows[j]? = some row' → report.recommendations[j]? = some final' →
    increment row = increment row' → final.suggestedDailyBudgetMinor - base row ≤
      final'.suggestedDailyBudgetMinor - base row' + 1

/-- Allocation succeeds and gives every row its share. -/
theorem allocate_spec {policy : OptimizerPolicy} {rows : List ProductRecommendation}
    (ht : policy.totalDailyBudgetMinor < 2 ^ 64)
    (hrows : ∀ row ∈ rows, row.suggestedDailyBudgetMinor < 2 ^ 64) :
    ∃ finals, allocate policy rows = .ok finals ∧ finals.length = rows.length ∧
      (finals.map fun row => row.suggestedDailyBudgetMinor).sum =
        min policy.totalDailyBudgetMinor (rows.map fun row => row.suggestedDailyBudgetMinor).sum ∧
      ∀ (i : ℕ) row final, rows[i]? = some row → finals[i]? = some final →
        RowShare policy.totalDailyBudgetMinor (rows.map base).sum (rows.map increment).sum row
          final.suggestedDailyBudgetMinor := by
  obtain ⟨amounts, hassign, hlen, hsum, hshare⟩ := assign_spec ht hrows
  have hfinal : ∀ (i : ℕ) row, rows[i]? = some row → ∃ amount, amounts[i]? = some amount ∧
      (List.zipWith capRow rows amounts)[i]? = some (capRow row amount) ∧
      (capRow row amount).suggestedDailyBudgetMinor = amount ∧
      RowShare policy.totalDailyBudgetMinor (rows.map base).sum (rows.map increment).sum row
        amount := by
    intro i row hrow
    obtain ⟨amount, hamount, hs⟩ := hshare i row hrow
    exact ⟨amount, hamount, List.getElem?_zipWith_eq_some.mpr ⟨_, _, hrow, hamount, rfl⟩,
      capRow_suggested hs.le_suggested, hs⟩
  have hmap : (List.zipWith capRow rows amounts).map
      (fun row => row.suggestedDailyBudgetMinor) = amounts := by
    refine List.ext_getElem? fun i => ?_
    rw [List.getElem?_map]
    cases hrow : rows[i]? with
    | none =>
      have hout : amounts[i]? = none := by
        rw [List.getElem?_eq_none_iff, hlen, ← List.getElem?_eq_none_iff]
        exact hrow
      rw [List.getElem?_zipWith, hrow, hout]
      rfl
    | some row =>
      obtain ⟨amount, hamount, hcap, heq, -⟩ := hfinal i row hrow
      rw [hcap, Option.map_some, heq, hamount]
  refine ⟨List.zipWith capRow rows amounts, ?_, ?_, ?_, fun i row final hrow hget => ?_⟩
  · simp only [allocate, ok_of_bind, ok_of_pure]
    exact ⟨_, hassign, rfl⟩
  · rw [List.length_zipWith, hlen, min_self]
  · rw [hmap, hsum]
  · obtain ⟨amount, -, hcap, heq, hs⟩ := hfinal i row hrow
    rw [hcap, Option.some.injEq] at hget
    rw [← hget, heq]
    exact hs

theorem sortInput_current {input : ShadowInput} {n : ℕ}
    (h : ∀ product ∈ input.products, product.currentDailyBudgetMinor < n) :
    ∀ product ∈ (sortInput input).products, product.currentDailyBudgetMinor < n := by
  intro product hp
  obtain ⟨original, hmem, rfl⟩ := List.mem_map.mp hp
  exact h original ((List.perm_insertionSort _ _).mem_iff.mp hmem)

/-- **The portfolio budget law of the shadow optimizer.** On every input that validates and whose
products all evaluate, allocation and report succeed and obey the budget law. -/
theorem portfolio_budget_law (sha256 : ShadowInput → String) (input : ShadowInput)
    (rows : List ProductRecommendation) (ht : input.policy.totalDailyBudgetMinor < 2 ^ 64)
    (hc : ∀ product ∈ input.products, product.currentDailyBudgetMinor < 2 ^ 64)
    (hv : validate input = .ok ())
    (hrows : (sortInput input).products.mapM (evaluate (sortInput input)) = .ok rows) :
    ∃ report, recommend sha256 input = .ok report ∧
      BudgetLaw input.policy.totalDailyBudgetMinor rows report := by
  have hsuggested : ∀ row ∈ rows, row.suggestedDailyBudgetMinor < 2 ^ 64 := by
    intro row hrow
    obtain ⟨product, hp, heval⟩ := exists_of_mem_mapM hrows row hrow
    exact (suggests_of_evaluate (sortInput_current hc product hp) heval).lt
  obtain ⟨finals, halloc, hlen, hsum, hshare⟩ := allocate_spec ht hsuggested
  have hfit : 0 + (finals.map fun row => row.suggestedDailyBudgetMinor).sum < 2 ^ 64 := by omega
  have hfold := foldlM_addMinor hfit
  rw [Nat.zero_add] at hfold
  refine ⟨{
    version := 1
    mode := "shadow"
    objective := input.objective
    currency := "RUB"
    accountId := input.accountId
    asOf := input.asOf
    inputSha256 := sha256 (sortInput input)
    totalDailyBudgetMinor := input.policy.totalDailyBudgetMinor
    allocatedDailyBudgetMinor := (finals.map fun row => row.suggestedDailyBudgetMinor).sum
    unallocatedDailyBudgetMinor := input.policy.totalDailyBudgetMinor -
      (finals.map fun row => row.suggestedDailyBudgetMinor).sum
    recommendations := finals }, ?_, ?_⟩
  · simp only [recommend, ok_of_bind, ok_of_pure]
    exact ⟨(), hv, rows, hrows, finals, halloc, _, hfold, rfl⟩
  constructor
  case length_eq => exact hlen
  case allocated => rfl
  case total => exact hsum
  case no_underflow =>
    dsimp only
    omega
  case le_suggested => exact fun i row final hrow hget => (hshare i row final hrow hget).le_suggested
  case zero_kept =>
    intro i row final hrow hget hzero
    have := (hshare i row final hrow hget).le_suggested
    omega
  case le_base => exact fun hscale i row final hrow hget => (hshare i row final hrow hget).le_base hscale
  case base_le => exact fun hroom i row final hrow hget => (hshare i row final hrow hget).base_le hroom
  case near_scaled =>
    exact fun hscale i row final hrow hget => (hshare i row final hrow hget).near_scaled hscale
  case near_headroom =>
    exact fun hroom hdesired i row final hrow hget =>
      (hshare i row final hrow hget).near_headroom hroom hdesired
  case equal_scaled =>
    exact fun hscale i j row row' final final' hrow hget hrow' hget' heq =>
      (hshare i row final hrow hget).equal_scaled (hshare j row' final' hrow' hget') hscale heq
  case equal_headroom =>
    exact fun hroom i j row row' final final' hrow hget hrow' hget' heq =>
      (hshare i row final hrow hget).equal_headroom (hshare j row' final' hrow' hget') hroom heq

/-- Three products without evidence that keep 100 kopecks each, under a budget of 100. -/
def crowdedInput : ShadowInput where
  version := 1
  sourceRefs := ["ofk:advertising:snapshot:1"]
  accountId := "ozon_account"
  asOf := seconds (20000 * 86400)
  observedAt := seconds (20000 * 86400)
  windowStart := 19990
  windowEnd := 19990
  coverageComplete := false
  objective := .expectedEconomics
  policy := ⟨100, 1, 1, 1, 1, 24, 90, 24, 0, 1000, 1000, 1⟩
  products := [⟨3, 100, 500, none, [], none, none⟩, ⟨1, 100, 500, none, [], none, none⟩,
    ⟨2, 100, 500, none, [], none, none⟩]

/-- The three products share the budget of 100 kopecks completely. -/
theorem portfolio_budget_law_crowded : ∃ report, recommend (fun _ => "digest") crowdedInput =
    .ok report ∧ report.allocatedDailyBudgetMinor = 100 := by
  have hrows : ∃ rows, (sortInput crowdedInput).products.mapM (evaluate (sortInput crowdedInput)) =
      .ok rows ∧ (rows.map fun row => row.suggestedDailyBudgetMinor).sum = 300 := ⟨_, rfl, rfl⟩
  obtain ⟨rows, hrows, hsum⟩ := hrows
  obtain ⟨report, hrec, hlaw⟩ := portfolio_budget_law (fun _ => "digest") crowdedInput rows
    (by decide) (by decide) rfl hrows
  refine ⟨report, hrec, ?_⟩
  rw [hlaw.total, hsum]
  rfl

end AdsControl.Optimizer
