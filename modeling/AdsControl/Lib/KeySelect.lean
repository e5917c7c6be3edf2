import Mathlib

/-!
# Selection by key

* `minByKey`: the first element whose key is least;
* `maxByKey`: the last element whose key is greatest.

These are the tie rules of an iterator that folds with `≤` from the left.
-/

namespace KeySelect

variable {α κ : Type} [LinearOrder κ]

/-- The first element with the least key. -/
def minByKey (key : α → κ) : List α → Option α
  | [] => none
  | a :: l =>
    match minByKey key l with
    | none => some a
    | some b => if key b < key a then some b else some a

/-- The last element with the greatest key. -/
def maxByKey (key : α → κ) : List α → Option α
  | [] => none
  | a :: l =>
    match maxByKey key l with
    | none => some a
    | some b => if key b < key a then some a else some b

theorem minByKey_map {β : Type} (key : β → κ) (f : α → β) (l : List α) :
    minByKey key (l.map f) = (minByKey (key ∘ f) l).map f := by
  induction l with
  | nil => rfl
  | cons a l ih =>
    rw [List.map_cons, minByKey, ih, minByKey]
    cases minByKey (key ∘ f) l with
    | none => rfl
    | some b =>
      simp only [Option.map_some, Function.comp_apply]
      split_ifs <;> rfl

theorem minByKey_mem {key : α → κ} {l : List α} {a : α} (h : minByKey key l = some a) : a ∈ l := by
  induction l generalizing a with
  | nil => simp [minByKey] at h
  | cons x l ih =>
    simp only [minByKey] at h
    cases hm : minByKey key l with
    | none => rw [hm] at h; simp only [Option.some.injEq] at h; simp [h]
    | some b =>
      rw [hm] at h
      dsimp only at h
      split_ifs at h with hb
      · rw [Option.some.injEq] at h; subst h; exact List.mem_cons_of_mem _ (ih hm)
      · rw [Option.some.injEq] at h; simp [h]

theorem maxByKey_mem {key : α → κ} {l : List α} {a : α} (h : maxByKey key l = some a) : a ∈ l := by
  induction l generalizing a with
  | nil => simp [maxByKey] at h
  | cons x l ih =>
    simp only [maxByKey] at h
    cases hm : maxByKey key l with
    | none => rw [hm] at h; simp only [Option.some.injEq] at h; simp [h]
    | some b =>
      rw [hm] at h
      dsimp only at h
      split_ifs at h with hb
      · rw [Option.some.injEq] at h; simp [h]
      · rw [Option.some.injEq] at h; subst h; exact List.mem_cons_of_mem _ (ih hm)

theorem minByKey_eq_none {key : α → κ} {l : List α} (h : minByKey key l = none) : l = [] := by
  cases l with
  | nil => rfl
  | cons x l =>
    simp only [minByKey] at h
    split at h
    · cases h
    · split_ifs at h

theorem minByKey_le {key : α → κ} {l : List α} {a : α} (h : minByKey key l = some a) :
    ∀ x ∈ l, key a ≤ key x := by
  induction l generalizing a with
  | nil => simp
  | cons x l ih =>
    simp only [minByKey] at h
    cases hm : minByKey key l with
    | none =>
      rw [hm] at h
      rw [minByKey_eq_none hm]
      simp only [Option.some.injEq] at h
      simp [h]
    | some b =>
      rw [hm] at h
      dsimp only at h
      intro y hy
      split_ifs at h with hb <;> rw [Option.some.injEq] at h <;> subst h
      · rcases List.mem_cons.mp hy with rfl | hy
        · exact le_of_lt hb
        · exact ih hm y hy
      · rcases List.mem_cons.mp hy with rfl | hy
        · exact le_rfl
        · exact le_trans (not_lt.mp hb) (ih hm y hy)

theorem maxByKey_eq_none {key : α → κ} {l : List α} (h : maxByKey key l = none) : l = [] := by
  cases l with
  | nil => rfl
  | cons x l =>
    simp only [maxByKey] at h
    split at h
    · cases h
    · split_ifs at h

theorem le_maxByKey {key : α → κ} {l : List α} {a : α} (h : maxByKey key l = some a) :
    ∀ x ∈ l, key x ≤ key a := by
  induction l generalizing a with
  | nil => simp
  | cons x l ih =>
    simp only [maxByKey] at h
    cases hm : maxByKey key l with
    | none =>
      rw [hm] at h
      rw [maxByKey_eq_none hm]
      simp only [Option.some.injEq] at h
      simp [h]
    | some b =>
      rw [hm] at h
      dsimp only at h
      intro y hy
      split_ifs at h with hb <;> rw [Option.some.injEq] at h <;> subst h
      · rcases List.mem_cons.mp hy with rfl | hy
        · exact le_rfl
        · exact le_trans (ih hm y hy) (le_of_lt hb)
      · rcases List.mem_cons.mp hy with rfl | hy
        · exact not_lt.mp hb
        · exact ih hm y hy

end KeySelect
