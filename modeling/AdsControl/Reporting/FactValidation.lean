import AdsControl.Lib.Distinct

/-!
# Checks of collected facts

* `fitsI32`, `fitsI64`: values a column of the database can hold; `asI32`, `asI64`: their conversions;
* `ensureUnique`: valid facts with distinct keys, **`ensureUnique_eq_ok`**.
-/

namespace AdsControl.Reporting

open Fallible

/-- Why facts are not stored. -/
inductive PostgresCollectorError
  | invalidInput
  | unavailable
  | conflict
  | claimLost
  | canaryMissing
  deriving DecidableEq

/-- The value fits a column of 32 bits. -/
def fitsI32 (value : ℕ) : Bool := value < 2 ^ 31

/-- The value fits a column of 64 bits. -/
def fitsI64 (value : ℕ) : Bool := value < 2 ^ 63

/-- A value for a column of 32 bits. -/
def asI32 (value : ℕ) : Except PostgresCollectorError ℤ := do
  ensure (fitsI32 value) .invalidInput
  return value

/-- A value for a column of 64 bits. -/
def asI64 (value : ℕ) : Except PostgresCollectorError ℤ := do
  ensure (fitsI64 value) .invalidInput
  return value

section Unique

variable {α κ : Type} [DecidableEq κ]

/-- Facts that are all valid, no two with the same key. -/
def ensureUnique (facts : List α) (key : α → κ) (valid : α → Bool) : Except PostgresCollectorError Unit :=
  Distinct.visit (fun fact => ensure (valid fact) .invalidInput) key .invalidInput (fun _ => .ok ()) [] facts

theorem ensureUnique_eq_ok {facts : List α} {key : α → κ} {valid : α → Bool} :
    ensureUnique facts key valid = .ok () ↔ (∀ fact ∈ facts, valid fact) ∧ (facts.map key).Nodup := by
  simp [ensureUnique, Distinct.visit_eq_ok]

end Unique

end AdsControl.Reporting
