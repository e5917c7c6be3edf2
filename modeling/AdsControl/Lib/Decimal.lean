import Mathlib

/-!
# Exact decimals

A decimal is a number of units of a negative power of ten. Sums take the finest scale of their terms,
so a sum is determined by its terms whatever their order.

* `value`, `add`, `sum`: the rational number of a decimal, and exact addition;
* **`value_sum`**, **`sum_perm`**: the sum is the rational sum, in any order;
* `magnitude`: a bound on the units at a common scale, for checked arithmetic.
-/

/-- The units divided by ten to the power of the scale. -/
structure Decimal where
  units : ℤ
  scale : ℕ
  deriving DecidableEq

namespace Decimal

/-- The number denoted. -/
def value (d : Decimal) : ℚ := d.units / 10 ^ d.scale

/-- The units at a finer scale. -/
def rescaled (d : Decimal) (scale : ℕ) : ℤ := d.units * 10 ^ (scale - d.scale)

/-- The decimal zero. -/
def zero : Decimal := ⟨0, 0⟩

/-- The exact sum, at the larger scale. -/
def add (a b : Decimal) : Decimal :=
  ⟨a.rescaled (max a.scale b.scale) + b.rescaled (max a.scale b.scale), max a.scale b.scale⟩

/-- The exact sum of a list. -/
def sum (terms : List Decimal) : Decimal := terms.foldl add zero

theorem value_rescaled (d : Decimal) {scale : ℕ} (h : d.scale ≤ scale) :
    (d.rescaled scale : ℚ) / 10 ^ scale = d.value := by
  obtain ⟨k, rfl⟩ := Nat.exists_eq_add_of_le h
  have hpow : (10 : ℚ) ^ k ≠ 0 := by positivity
  rw [rescaled, value, Nat.add_sub_cancel_left, pow_add]
  push_cast
  rw [mul_div_mul_right _ _ hpow]

theorem value_add (a b : Decimal) : (a.add b).value = a.value + b.value := by
  rw [← a.value_rescaled (le_max_left a.scale b.scale),
    ← b.value_rescaled (le_max_right a.scale b.scale), ← add_div]
  show ((a.rescaled _ + b.rescaled _ : ℤ) : ℚ) / _ = _
  rw [Int.cast_add]
  rfl

theorem eq_of_value {a b : Decimal} (hscale : a.scale = b.scale) (hvalue : a.value = b.value) :
    a = b := by
  obtain ⟨units, scale⟩ := a
  obtain ⟨units', scale'⟩ := b
  replace hscale : scale = scale' := hscale
  subst hscale
  have hpow : (10 : ℚ) ^ scale ≠ 0 := by positivity
  have hunits : (units : ℚ) = units' := (div_left_inj' hpow).mp hvalue
  rw [Int.cast_inj.mp hunits]

theorem sum_append (terms : List Decimal) (term : Decimal) :
    sum (terms ++ [term]) = (sum terms).add term := by
  rw [sum, List.foldl_append]
  rfl

/-- **The sum is the sum of the values.** -/
theorem value_sum (terms : List Decimal) : (sum terms).value = (terms.map value).sum := by
  induction terms using List.reverseRecOn with
  | nil => simp [sum, zero, value]
  | append_singleton terms term ih =>
    rw [sum_append, value_add, ih, List.map_append, List.sum_append, List.map_singleton,
      List.sum_singleton]

theorem scale_sum (terms : List Decimal) : (sum terms).scale = (terms.map scale).foldl max 0 := by
  induction terms using List.reverseRecOn with
  | nil => rfl
  | append_singleton terms term ih =>
    rw [sum_append, List.map_append, List.foldl_append, ← ih]
    rfl

/-- **The order of the terms does not matter.** -/
theorem sum_perm {terms terms' : List Decimal} (h : terms.Perm terms') : sum terms = sum terms' := by
  refine eq_of_value ?_ ?_
  · rw [scale_sum, scale_sum]
    exact (h.map scale).foldl_eq 0
  · rw [value_sum, value_sum]
    exact (h.map value).sum_eq

/-! ## Bounds -/

/-- The absolute units at a common scale. -/
def magnitude (scale : ℕ) (d : Decimal) : ℤ := |d.units| * 10 ^ (scale - d.scale)

theorem magnitude_nonneg (scale : ℕ) (d : Decimal) : 0 ≤ d.magnitude scale := by
  unfold magnitude
  positivity

theorem abs_rescaled_mul {d : Decimal} {scale common : ℕ} (h : d.scale ≤ scale) (h' : scale ≤ common) :
    |d.rescaled scale| * 10 ^ (common - scale) = d.magnitude common := by
  have hexp : common - d.scale = (scale - d.scale) + (common - scale) := by omega
  rw [rescaled, magnitude, abs_mul, abs_of_nonneg (by positivity : (0 : ℤ) ≤ 10 ^ (scale - d.scale)),
    mul_assoc, ← pow_add, hexp]

theorem magnitude_add_le {a b : Decimal} {common : ℕ} (ha : a.scale ≤ common)
    (hb : b.scale ≤ common) :
    (a.add b).magnitude common ≤ a.magnitude common + b.magnitude common := by
  have hmax : max a.scale b.scale ≤ common := max_le ha hb
  rw [← abs_rescaled_mul (le_max_left a.scale b.scale) hmax,
    ← abs_rescaled_mul (le_max_right a.scale b.scale) hmax, ← add_mul]
  exact mul_le_mul_of_nonneg_right (abs_add_le _ _) (by positivity)

theorem abs_rescaled_le_magnitude {d : Decimal} {scale common : ℕ} (h : d.scale ≤ scale)
    (h' : scale ≤ common) : |d.rescaled scale| ≤ d.magnitude common := by
  rw [← abs_rescaled_mul h h']
  exact le_mul_of_one_le_right (abs_nonneg _) (one_le_pow₀ (by norm_num))

theorem scale_sum_le {terms : List Decimal} {common : ℕ} (h : ∀ term ∈ terms, term.scale ≤ common) :
    (sum terms).scale ≤ common := by
  induction terms using List.reverseRecOn with
  | nil => exact Nat.zero_le _
  | append_singleton terms term ih =>
    rw [sum_append]
    exact max_le (ih fun t ht => h t (List.mem_append_left _ ht)) (h term (by simp))

/-- A sum stays below the sum of the magnitudes. -/
theorem magnitude_sum_le {terms : List Decimal} {common : ℕ} (h : ∀ term ∈ terms, term.scale ≤ common) :
    (sum terms).magnitude common ≤ (terms.map (magnitude common)).sum := by
  induction terms using List.reverseRecOn with
  | nil => simp [sum, zero, magnitude]
  | append_singleton terms term ih =>
    have hterms : ∀ t ∈ terms, t.scale ≤ common := fun t ht => h t (List.mem_append_left _ ht)
    rw [sum_append, List.map_append, List.sum_append, List.map_singleton, List.sum_singleton]
    calc ((sum terms).add term).magnitude common
        ≤ (sum terms).magnitude common + term.magnitude common :=
          magnitude_add_le (scale_sum_le hterms) (h term (by simp))
      _ ≤ (terms.map (magnitude common)).sum + term.magnitude common :=
          Int.add_le_add_right (ih hterms) _

end Decimal
