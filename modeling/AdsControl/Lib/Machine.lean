import Mathlib

/-!
# Machine integers as naturals

A `w`-bit unsigned value is a natural number below `2 ^ w`. The operations below are the checked
and saturating ones of a fixed-width type; the plain operations of `ℕ` are used where no width can
be exceeded (truncated subtraction is saturating subtraction).

* `checkedMul`, `checkedAdd`, `tryFrom`: `none` on overflow; `checkedDiv`: `none` by zero;
* `saturatingAdd`, `saturatingMul`: clamp at the largest `w`-bit value.
-/

namespace Machine

/-- Multiplication of `w`-bit values, `none` on overflow. -/
def checkedMul (w a b : ℕ) : Option ℕ := if a * b < 2 ^ w then some (a * b) else none

/-- Addition of `w`-bit values, `none` on overflow. -/
def checkedAdd (w a b : ℕ) : Option ℕ := if a + b < 2 ^ w then some (a + b) else none

/-- Conversion to a `w`-bit value, `none` when it does not fit. -/
def tryFrom (w a : ℕ) : Option ℕ := if a < 2 ^ w then some a else none

/-- Division, `none` by zero. -/
def checkedDiv (a b : ℕ) : Option ℕ := if b = 0 then none else some (a / b)

/-- Addition of `w`-bit values, clamped at the largest one. -/
def saturatingAdd (w a b : ℕ) : ℕ := min (a + b) (2 ^ w - 1)

/-- Multiplication of `w`-bit values, clamped at the largest one. -/
def saturatingMul (w a b : ℕ) : ℕ := min (a * b) (2 ^ w - 1)

theorem checkedMul_eq_some {w a b c : ℕ} : checkedMul w a b = some c ↔ c = a * b ∧ c < 2 ^ w := by
  unfold checkedMul
  split_ifs with h
  · rw [Option.some.injEq]
    exact ⟨fun hc => ⟨hc.symm, hc ▸ h⟩, fun hc => hc.1.symm⟩
  · simp only [false_iff]
    rintro ⟨rfl, hc⟩
    exact h hc

theorem checkedAdd_eq_some {w a b c : ℕ} : checkedAdd w a b = some c ↔ c = a + b ∧ c < 2 ^ w := by
  unfold checkedAdd
  split_ifs with h
  · rw [Option.some.injEq]
    exact ⟨fun hc => ⟨hc.symm, hc ▸ h⟩, fun hc => hc.1.symm⟩
  · simp only [false_iff]
    rintro ⟨rfl, hc⟩
    exact h hc

theorem tryFrom_eq_some {w a c : ℕ} : tryFrom w a = some c ↔ c = a ∧ a < 2 ^ w := by
  unfold tryFrom
  split_ifs with h <;> simp [h, eq_comm]

/-- Raising one factor from `a` to `b` raises a clamped product by at most `(b - a) * s`. -/
theorem saturatingMul_le_add {w a b s : ℕ} (h : a ≤ b) :
    saturatingMul w b s ≤ saturatingMul w a s + (b - a) * s := by
  unfold saturatingMul
  have hs : b * s = a * s + (b - a) * s := by rw [← Nat.add_mul, Nat.add_sub_cancel' h]
  rw [hs]
  omega

end Machine
