import AdsControl.Lib.Fallible

/-!
# Conversions that may not fit

A conversion accepts the values that fit another type and gives them in that type.

* `Converts`: what a conversion accepts and gives;
* `Converts.mapM`, `Converts.option`: lists and optional values are converted entry by entry;
* `exists_mapM_ok`: a traversal of accepted entries succeeds.
-/

namespace Fallible

variable {ε α β : Type}

/-- The conversion `f` accepts what fits and gives it as `g` does. -/
def Converts (f : α → Except ε β) (fits : α → Prop) (g : α → β) : Prop :=
  ∀ a b, f a = .ok b ↔ fits a ∧ b = g a

variable {f : α → Except ε β} {fits : α → Prop} {g : α → β}

/-- A list is converted when all of its entries fit. -/
theorem Converts.mapM (h : Converts f fits g) :
    Converts (List.mapM f) (fun l => ∀ a ∈ l, fits a) (List.map g) := by
  intro l
  induction l with
  | nil =>
    intro r
    rw [List.mapM_nil, ok_of_pure, List.map_nil, and_iff_right (List.forall_mem_nil _), eq_comm]
  | cons a l ih =>
    intro r
    simp only [List.mapM_cons, ok_of_bind, ok_of_pure, h a, ih, List.forall_mem_cons, List.map_cons]
    constructor
    · rintro ⟨_, ⟨ha, rfl⟩, _, ⟨hl, rfl⟩, rfl⟩
      exact ⟨⟨ha, hl⟩, rfl⟩
    · rintro ⟨⟨ha, hl⟩, rfl⟩
      exact ⟨_, ⟨ha, rfl⟩, _, ⟨hl, rfl⟩, rfl⟩

theorem exists_mapM_ok {l : List α} (h : ∀ a ∈ l, ∃ b, f a = .ok b) : ∃ r, l.mapM f = .ok r := by
  induction l with
  | nil => exact ⟨[], rfl⟩
  | cons a l ih =>
    obtain ⟨⟨b, hb⟩, hl⟩ := List.forall_mem_cons.mp h
    obtain ⟨r, hr⟩ := ih hl
    exact ⟨b :: r, by rw [List.mapM_cons, hb, hr]; rfl⟩

theorem Converts.option (h : Converts f fits g) :
    Converts (Option.mapM f) (fun value => ∀ a ∈ value, fits a) (Option.map g) := by
  intro value r
  rw [ok_of_optionMapM]
  cases value with
  | none => simp
  | some a =>
    simp only [Option.some.injEq, reduceCtorEq, false_and, false_or, Option.mem_def, forall_eq',
      Option.map_some]
    constructor
    · rintro ⟨_, b, rfl, hb, rfl⟩
      obtain ⟨ha, rfl⟩ := (h _ _).mp hb
      exact ⟨ha, rfl⟩
    · rintro ⟨ha, rfl⟩
      exact ⟨a, g a, rfl, (h _ _).mpr ⟨ha, rfl⟩, rfl⟩

end Fallible
