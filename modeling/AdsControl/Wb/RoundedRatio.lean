import AdsControl.Wb.Feedback

/-!
# The rounded ratio

The DRR of a row and of a campaign is rounded down to whole basis points and narrowed to 32 bits before it is
compared with a limit.

* `Exceeds`: the exact comparison;
* `drrBasisPoints_eq`, `campaignDrrBasisPoints_eq`: the rounded ratio of a row and of a campaign;
* **`rounds_iff`**: the rounded comparison is right exactly outside of one basis point above the limit and
  below `2 ^ 32`.
-/

namespace AdsControl.Wb

open Machine Fallible

/-- Spend above `limit` basis points of the revenue. -/
def Exceeds (limit spend revenue : ℕ) : Prop := revenue * limit < spend * 10000

instance decidableExceeds (limit spend revenue : ℕ) : Decidable (Exceeds limit spend revenue) :=
  inferInstanceAs (Decidable (revenue * limit < spend * 10000))

variable {limit spend revenue : ℕ}

/-- The ratio in whole basis points, when it fits 32 bits. -/
def roundedRatio (spend revenue : ℕ) : Option ℕ := tryFrom 32 (spend * 10000 / revenue)

theorem checkedMul_basisPoints (hspend : spend < 2 ^ 64) :
    checkedMul 128 spend basisPoints = some (spend * 10000) := by
  refine checkedMul_eq_some.mpr ⟨rfl, ?_⟩
  omega

theorem drrBasisPoints_eq {sku : WbAutomationSkuObservation} (hrevenue : 0 < sku.attributedRevenueMinor)
    (hspend : sku.spendMinor < 2 ^ 64) :
    drrBasisPoints sku =
      (context (roundedRatio sku.spendMinor sku.attributedRevenueMinor) .overflow).map some := by
  rw [drrBasisPoints, if_neg (by omega), ratioBasisPoints, checkedMul_basisPoints hspend, roundedRatio]
  dsimp only
  cases tryFrom 32 (sku.spendMinor * 10000 / sku.attributedRevenueMinor) <;> rfl

theorem campaignDrrBasisPoints_eq {metrics : WbAutomationCampaignMetrics}
    (hrevenue : 0 < metrics.attributedRevenueMinor) (hspend : metrics.spendMinor < 2 ^ 64) :
    campaignDrrBasisPoints metrics =
      (context (roundedRatio metrics.spendMinor metrics.attributedRevenueMinor)
        "WB traffic-frontier DRR is out of range").map some := by
  rw [campaignDrrBasisPoints, if_neg (by omega), checkedMul_basisPoints hspend, roundedRatio]
  dsimp only [context, bind, Except.bind]
  cases tryFrom 32 (metrics.spendMinor * 10000 / metrics.attributedRevenueMinor) <;> rfl

/-- The rounded comparison agrees with the exact one on this ratio, and the ratio fits. -/
def Rounds (limit spend revenue : ℕ) : Prop :=
  ∃ value, roundedRatio spend revenue = some value ∧ (limit < value ↔ Exceeds limit spend revenue)

/-- **Where rounding is harmless**: at most the limit, or at least one basis point above it and in range. -/
theorem rounds_iff (hlimit : limit < 2 ^ 32) (hrevenue : 0 < revenue) :
    Rounds limit spend revenue ↔ (Exceeds limit spend revenue →
      revenue * (limit + 1) ≤ spend * 10000 ∧ spend * 10000 < revenue * 2 ^ 32) := by
  have hfloor : ∀ n, n ≤ spend * 10000 / revenue ↔ revenue * n ≤ spend * 10000 := by
    intro n
    rw [Nat.le_div_iff_mul_le hrevenue, Nat.mul_comm]
  constructor
  · rintro ⟨value, hvalue, hiff⟩ hexceeds
    obtain ⟨rfl, hfits⟩ := tryFrom_eq_some.mp hvalue
    refine ⟨(hfloor _).mp (hiff.mpr hexceeds), ?_⟩
    exact not_le.mp fun hle => absurd ((hfloor _).mpr hle) (not_le.mpr hfits)
  · intro hcondition
    have hfits : spend * 10000 / revenue < 2 ^ 32 := by
      rw [← not_le, hfloor, not_le]
      by_cases hexceeds : Exceeds limit spend revenue
      · exact (hcondition hexceeds).2
      · refine (not_lt.mp hexceeds).trans_lt ?_
        exact Nat.mul_lt_mul_of_pos_left hlimit hrevenue
    refine ⟨_, tryFrom_eq_some.mpr ⟨rfl, hfits⟩, fun hlt => ?_, fun hexceeds => ?_⟩
    · have hstep : revenue * (limit + 1) ≤ spend * 10000 := (hfloor _).mp hlt
      rw [Nat.mul_succ] at hstep
      exact lt_of_lt_of_le (by omega) hstep
    · exact (hfloor _).mpr (hcondition hexceeds).1

end AdsControl.Wb
