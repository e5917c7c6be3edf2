import Mathlib

/-!
# Largest-remainder apportionment

A budget is shared in proportion to a list of weights: every entry gets its exact share rounded
down, and the units that are left go one by one to the entries with the largest remainders, the
earlier entry first.

* `bump`: one more unit for each listed position (`getElem?_bump`, `sum_bump`);
* `pos_of_mem_take`: the largest remainders that absorb the leftover are positive;
* **`sum_largestRemainder`**: the amounts add up to the budget;
* **`getElem?_largestRemainder`**: each amount is its exact share rounded down, or up when the share
  is not whole; hence `apportioned_le_weight`, `apportioned_near`, `apportioned_near_equal`.
-/

namespace Apportionment

/-! ## Handing out units -/

/-- One more unit for each of the listed positions. -/
def bump (amounts indices : List ℕ) : List ℕ :=
  indices.foldl (fun acc i => acc.set i (acc.getD i 0 + 1)) amounts

@[simp] theorem bump_nil (amounts : List ℕ) : bump amounts [] = amounts :=
  rfl

theorem bump_cons (amounts : List ℕ) (i : ℕ) (indices : List ℕ) :
    bump amounts (i :: indices) = bump (amounts.set i (amounts.getD i 0 + 1)) indices :=
  rfl

@[simp] theorem length_bump (amounts indices : List ℕ) :
    (bump amounts indices).length = amounts.length := by
  induction indices generalizing amounts with
  | nil => rfl
  | cons i indices ih => rw [bump_cons, ih, List.length_set]

theorem getElem?_bump (amounts indices : List ℕ) (j : ℕ) :
    (bump amounts indices)[j]? = amounts[j]?.map (· + indices.count j) := by
  induction indices generalizing amounts with
  | nil => simp
  | cons i indices ih =>
    rw [bump_cons, ih, List.getElem?_set, List.count_cons]
    by_cases hij : i = j
    · subst hij
      cases hi : amounts[i]? with
      | none =>
        have hlen : ¬ i < amounts.length := by
          rw [not_lt, ← List.getElem?_eq_none_iff, hi]
        simp [hlen]
      | some value =>
        obtain ⟨hlen, rfl⟩ := List.getElem?_eq_some_iff.mp hi
        simp only [hlen, List.getD_eq_getElem, if_true, Option.map_some, beq_self_eq_true]
        congr 1
        omega
    · simp [hij]

theorem sum_bump {amounts indices : List ℕ} (h : ∀ i ∈ indices, i < amounts.length) :
    (bump amounts indices).sum = amounts.sum + indices.length := by
  induction indices generalizing amounts with
  | nil => simp
  | cons i indices ih =>
    have hi : i < amounts.length := h i List.mem_cons_self
    have hrest : ∀ j ∈ indices, j < (amounts.set i (amounts.getD i 0 + 1)).length := fun j hj => by
      rw [List.length_set]
      exact h j (List.mem_cons_of_mem _ hj)
    have hset : (amounts.set i (amounts.getD i 0 + 1)).sum = amounts.sum + 1 := by
      rw [List.sum_set, if_pos hi]
      conv_rhs => rw [← List.take_append_drop i amounts, List.drop_eq_getElem_cons hi]
      rw [List.getD_eq_getElem _ _ hi, List.sum_append, List.sum_cons]
      omega
    rw [bump_cons, ih hrest, hset, List.length_cons]
    omega

/-! ## The leftover -/

/-- The first `k` entries of a descending list below `n` are positive when the list sums to at least
`k * n`. -/
theorem pos_of_mem_take {l : List ℕ} {n k : ℕ} (hsorted : l.Pairwise (· ≥ ·))
    (hlt : ∀ x ∈ l, x < n) (hsum : k * n ≤ l.sum) : ∀ x ∈ l.take k, 0 < x := by
  induction l generalizing k with
  | nil => simp
  | cons a l ih =>
    cases k with
    | zero => simp
    | succ k =>
      rw [List.pairwise_cons] at hsorted
      have ha : a < n := hlt a List.mem_cons_self
      rw [List.sum_cons, Nat.succ_mul] at hsum
      intro x hx
      rw [List.take_succ_cons, List.mem_cons] at hx
      rcases hx with rfl | hx
      · -- a zero at the front would make every entry zero
        by_contra hzero
        have hnil : ∀ y ∈ l, y = 0 := fun y hy => by
          have := hsorted.1 y hy
          omega
        have := List.sum_eq_zero hnil
        omega
      · exact ih hsorted.2 (fun y hy => hlt y (List.mem_cons_of_mem _ hy)) (by omega) x hx

theorem le_length_of_sum {l : List ℕ} {n k : ℕ} (hn : 0 < n) (hlt : ∀ x ∈ l, x < n)
    (hsum : k * n ≤ l.sum) : k ≤ l.length := by
  induction l generalizing k with
  | nil =>
    rw [List.sum_nil, Nat.le_zero, Nat.mul_eq_zero] at hsum
    rw [List.length_nil]
    omega
  | cons a l ih =>
    cases k with
    | zero => omega
    | succ k =>
      have ha : a < n := hlt a List.mem_cons_self
      rw [List.sum_cons, Nat.succ_mul] at hsum
      have : k ≤ l.length := ih (fun y hy => hlt y (List.mem_cons_of_mem _ hy)) (by omega)
      rw [List.length_cons]
      omega

/-! ## The order of the remainders -/

/-- Larger remainders first, then earlier positions; entries are `(position, remainder)`. -/
def byRemainder (a b : ℕ × ℕ) : Prop :=
  b.2 < a.2 ∨ (a.2 = b.2 ∧ a.1 ≤ b.1)

instance : DecidableRel byRemainder := fun _ _ => inferInstanceAs (Decidable (_ ∨ _))

instance : Std.Total byRemainder := ⟨fun a b => by unfold byRemainder; omega⟩

instance : IsTrans (ℕ × ℕ) byRemainder := ⟨fun a b c => by unfold byRemainder; omega⟩

/-- The remainders with their positions, in the order in which they absorb the leftover. -/
def ranked (remainders : List ℕ) : List (ℕ × ℕ) :=
  (remainders.zipIdx.map Prod.swap).insertionSort byRemainder

theorem ranked_perm (remainders : List ℕ) :
    (ranked remainders).Perm (remainders.zipIdx.map Prod.swap) :=
  List.perm_insertionSort _ _

theorem mem_ranked {remainders : List ℕ} {p : ℕ × ℕ} :
    p ∈ ranked remainders ↔ remainders[p.1]? = some p.2 := by
  obtain ⟨i, r⟩ := p
  rw [(ranked_perm remainders).mem_iff, List.mem_map]
  constructor
  · rintro ⟨⟨r', i'⟩, hmem, heq⟩
    obtain ⟨rfl, rfl⟩ := Prod.mk.inj heq
    exact List.mem_zipIdx_iff_getElem?.mp hmem
  · intro h
    exact ⟨(r, i), List.mem_zipIdx_iff_getElem?.mpr h, rfl⟩

theorem ranked_snd_perm (remainders : List ℕ) :
    ((ranked remainders).map Prod.snd).Perm remainders := by
  have h := (ranked_perm remainders).map Prod.snd
  rw [List.map_map] at h
  have hfst : (Prod.snd ∘ Prod.swap : ℕ × ℕ → ℕ) = Prod.fst := rfl
  rwa [hfst, List.zipIdx_map_fst] at h

theorem ranked_fst_nodup (remainders : List ℕ) : ((ranked remainders).map Prod.fst).Nodup := by
  have h := (ranked_perm remainders).map Prod.fst
  rw [List.map_map] at h
  have hsnd : (Prod.fst ∘ Prod.swap : ℕ × ℕ → ℕ) = Prod.snd := rfl
  rw [hsnd, List.zipIdx_map_snd] at h
  exact h.nodup_iff.mpr List.nodup_range'

theorem ranked_snd_sorted (remainders : List ℕ) :
    ((ranked remainders).map Prod.snd).Pairwise (· ≥ ·) := by
  rw [List.pairwise_map]
  refine (List.pairwise_insertionSort byRemainder _).imp fun {a b} hab => ?_
  unfold byRemainder at hab
  omega

/-! ## The amounts -/

section Amounts

variable (weights : List ℕ) (budget : ℕ)

/-- The exact shares rounded down. -/
def floors : List ℕ :=
  weights.map fun w => w * budget / weights.sum

/-- What rounding down leaves of each share, in units of the total weight. -/
def remainders : List ℕ :=
  weights.map fun w => w * budget % weights.sum

/-- The positions that absorb the leftover. -/
def absorbers : List ℕ :=
  ((ranked (remainders weights budget)).take (budget - (floors weights budget).sum)).map Prod.fst

/-- The largest-remainder amounts. -/
def largestRemainder : List ℕ :=
  bump (floors weights budget) (absorbers weights budget)

@[simp] theorem length_largestRemainder :
    (largestRemainder weights budget).length = weights.length := by
  rw [largestRemainder, length_bump, floors, List.length_map]

/-- The rounded shares and the remainders account for the whole budget. -/
theorem floors_add_remainders :
    (floors weights budget).sum * weights.sum + (remainders weights budget).sum =
      weights.sum * budget := by
  have key : ∀ (l : List ℕ) (n : ℕ), (l.map fun w => w * budget / n).sum * n +
      (l.map fun w => w * budget % n).sum = l.sum * budget := by
    intro l n
    induction l with
    | nil => simp
    | cons w l ih =>
      have hw := Nat.div_add_mod (w * budget) n
      rw [List.map_cons, List.map_cons, List.sum_cons, List.sum_cons, List.sum_cons, add_mul,
        add_mul, ← ih, mul_comm (w * budget / n)]
      omega
  exact key weights weights.sum

variable {weights budget}

theorem floors_sum_le (h : weights.sum ≠ 0) : (floors weights budget).sum ≤ budget := by
  have hsum := floors_add_remainders weights budget
  have hle : (floors weights budget).sum * weights.sum ≤ budget * weights.sum := by
    rw [mul_comm budget]
    omega
  exact Nat.le_of_mul_le_mul_right hle (Nat.pos_of_ne_zero h)

theorem leftover_mul :
    (budget - (floors weights budget).sum) * weights.sum = (remainders weights budget).sum := by
  have hsum := floors_add_remainders weights budget
  rw [Nat.sub_mul, mul_comm budget]
  omega

theorem remainders_lt (h : weights.sum ≠ 0) : ∀ r ∈ remainders weights budget, r < weights.sum := by
  intro r hr
  obtain ⟨w, -, rfl⟩ := List.mem_map.mp hr
  exact Nat.mod_lt _ (Nat.pos_of_ne_zero h)

theorem length_absorbers (h : weights.sum ≠ 0) :
    (absorbers weights budget).length = budget - (floors weights budget).sum := by
  have hle : budget - (floors weights budget).sum ≤ (remainders weights budget).length :=
    le_length_of_sum (Nat.pos_of_ne_zero h) (remainders_lt h) leftover_mul.le
  rw [absorbers, List.length_map, List.length_take, (ranked_perm _).length_eq, List.length_map,
    List.length_zipIdx]
  exact min_eq_left hle

theorem absorbers_nodup : (absorbers weights budget).Nodup := by
  rw [absorbers, List.map_take]
  exact (ranked_fst_nodup _).sublist (List.take_sublist _ _)

theorem of_mem_absorbers (h : weights.sum ≠ 0) {i : ℕ} (hi : i ∈ absorbers weights budget) :
    ∃ w, weights[i]? = some w ∧ 0 < w * budget % weights.sum := by
  obtain ⟨⟨j, r⟩, hmem, rfl⟩ := List.mem_map.mp hi
  have hrank := mem_ranked.mp (List.mem_of_mem_take hmem)
  have hpos : 0 < r := by
    refine pos_of_mem_take (ranked_snd_sorted (remainders weights budget)) (n := weights.sum)
      (k := budget - (floors weights budget).sum) (fun x hx => ?_) ?_ r ?_
    · exact remainders_lt h x ((ranked_snd_perm _).mem_iff.mp hx)
    · rw [(ranked_snd_perm _).sum_eq]
      exact leftover_mul.le
    · rw [← List.map_take]
      exact List.mem_map_of_mem hmem
  rw [remainders, List.getElem?_map, Option.map_eq_some_iff] at hrank
  obtain ⟨w, hw, rfl⟩ := hrank
  exact ⟨w, hw, hpos⟩

/-- **The amounts add up to the budget.** -/
theorem sum_largestRemainder (h : weights.sum ≠ 0) : (largestRemainder weights budget).sum = budget := by
  have hin : ∀ i ∈ absorbers weights budget, i < (floors weights budget).length := by
    intro i hi
    obtain ⟨w, hw, -⟩ := of_mem_absorbers h hi
    rw [floors, List.length_map]
    exact (List.getElem?_eq_some_iff.mp hw).1
  have hle : (floors weights budget).sum ≤ budget := floors_sum_le h
  rw [largestRemainder, sum_bump hin, length_absorbers h]
  omega

/-- An amount is the exact share rounded down, or up when the share is not whole. -/
def Apportioned (total budget w amount : ℕ) : Prop :=
  amount = w * budget / total ∨ (amount = w * budget / total + 1 ∧ 0 < w * budget % total)

/-- **Every amount is its exact share rounded down or up.** -/
theorem getElem?_largestRemainder (h : weights.sum ≠ 0) {i w : ℕ} (hw : weights[i]? = some w) :
    ∃ amount, (largestRemainder weights budget)[i]? = some amount ∧
      Apportioned weights.sum budget w amount := by
  have hget : (largestRemainder weights budget)[i]? =
      some (w * budget / weights.sum + (absorbers weights budget).count i) := by
    rw [largestRemainder, getElem?_bump, floors, List.getElem?_map, hw, Option.map_some,
      Option.map_some]
  refine ⟨_, hget, ?_⟩
  by_cases hi : i ∈ absorbers weights budget
  · obtain ⟨w', hw', hpos⟩ := of_mem_absorbers h hi
    rw [hw, Option.some.injEq] at hw'
    rw [List.count_eq_one_of_mem absorbers_nodup hi]
    exact .inr ⟨rfl, hw' ▸ hpos⟩
  · rw [List.count_eq_zero_of_not_mem hi]
    exact .inl rfl

end Amounts

/-! ## Consequences -/

section Consequences

variable {total budget w amount : ℕ}

theorem apportioned_le_weight (ht : 0 < total) (hb : budget ≤ total)
    (h : Apportioned total budget w amount) : amount ≤ w := by
  have hdiv := Nat.div_add_mod (w * budget) total
  have hle : w * budget ≤ total * w := by
    rw [mul_comm total]
    exact Nat.mul_le_mul_left w hb
  rcases h with rfl | ⟨rfl, hpos⟩
  · exact Nat.le_of_mul_le_mul_left (by omega) ht
  · have hlt : total * (w * budget / total) < total * w := by omega
    exact Nat.lt_of_mul_lt_mul_left hlt

/-- An amount lies less than one unit from the exact share. -/
theorem apportioned_near (ht : 0 < total) (h : Apportioned total budget w amount) :
    |(amount : ℚ) - w * budget / total| < 1 := by
  have hdiv := Nat.div_add_mod (w * budget) total
  have hmod := Nat.mod_lt (w * budget) ht
  have htq : (0 : ℚ) < total := by exact_mod_cast ht
  have hshare : (w : ℚ) * budget / total =
      (w * budget / total : ℕ) + ((w * budget % total : ℕ) : ℚ) / total := by
    rw [div_eq_iff htq.ne', add_mul, div_mul_cancel₀ _ htq.ne', mul_comm _ (total : ℚ)]
    exact_mod_cast hdiv.symm
  have hfrac : ((w * budget % total : ℕ) : ℚ) / total < 1 := by
    rw [div_lt_one htq]
    exact_mod_cast hmod
  have hnonneg : (0 : ℚ) ≤ ((w * budget % total : ℕ) : ℚ) / total := by positivity
  rw [hshare]
  rcases h with rfl | ⟨rfl, hpos⟩
  · rw [abs_lt]
    constructor <;> linarith
  · have hposq : (0 : ℚ) < ((w * budget % total : ℕ) : ℚ) / total := by positivity
    rw [abs_lt]
    push_cast
    constructor <;> linarith

theorem apportioned_near_equal {amount' : ℕ} (h : Apportioned total budget w amount)
    (h' : Apportioned total budget w amount') : amount ≤ amount' + 1 := by
  unfold Apportioned at h h'
  omega

end Consequences

end Apportionment
