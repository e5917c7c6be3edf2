import Mathlib

/-!
# Stable sorting by a key

`sortByKey` puts a list in ascending order of a key and keeps the order of equal keys.

* `pairwise_sortByKey`, `pairwise_lt_sortByKey`: the result ascends, strictly for distinct keys;
* **`sortByKey_eq_of_perm`**: with distinct keys the result does not depend on the order before;
* `key_lt_of_not_mem_take`: nothing left out of the first entries comes before one of them.
-/

namespace SortByKey

variable {α κ : Type} [LinearOrder κ]

/-- Ascending by `key`; entries with equal keys keep their order. -/
def sortByKey (key : α → κ) (l : List α) : List α := l.insertionSort fun a b => key a ≤ key b

variable {key : α → κ} {l l' : List α}

theorem sortByKey_perm (key : α → κ) (l : List α) : (sortByKey key l).Perm l :=
  List.perm_insertionSort _ _

@[simp] theorem mem_sortByKey {a : α} : a ∈ sortByKey key l ↔ a ∈ l :=
  (sortByKey_perm key l).mem_iff

theorem pairwise_sortByKey (key : α → κ) (l : List α) :
    (sortByKey key l).Pairwise fun a b => key a ≤ key b := by
  have htotal : Std.Total fun a b : α => key a ≤ key b := ⟨fun a b => le_total (key a) (key b)⟩
  have htrans : IsTrans α fun a b => key a ≤ key b := ⟨fun a b c => le_trans⟩
  exact List.pairwise_insertionSort _ l

theorem pairwise_lt_sortByKey (hkeys : (l.map key).Nodup) :
    ((sortByKey key l).map key).Pairwise (· < ·) := by
  have hnodup : ((sortByKey key l).map key).Nodup :=
    ((sortByKey_perm key l).map key).nodup_iff.mpr hkeys
  rw [List.pairwise_map]
  have hne := List.pairwise_map.mp hnodup
  exact (pairwise_sortByKey key l).imp₂ (fun a b hle hne => lt_of_le_of_ne hle hne) hne

/-- **With distinct keys the order before the sort does not matter.** -/
theorem sortByKey_eq_of_perm (hperm : l.Perm l') (hkeys : (l.map key).Nodup) :
    sortByKey key l = sortByKey key l' := by
  have hall : (sortByKey key l).Perm (sortByKey key l') :=
    (sortByKey_perm key l).trans (hperm.trans (sortByKey_perm key l').symm)
  refine hall.eq_of_pairwise ?_ (pairwise_sortByKey key l) (pairwise_sortByKey key l')
  intro a b ha hb hab hba
  rw [mem_sortByKey] at ha
  rw [mem_sortByKey, ← hperm.mem_iff] at hb
  exact List.inj_on_of_nodup_map hkeys ha hb (le_antisymm hab hba)

/-- With distinct keys, whatever is left out of the first entries comes after all of them. -/
theorem key_lt_of_not_mem_take {n : ℕ} {a b : α} (hkeys : (l.map key).Nodup)
    (ha : a ∈ (sortByKey key l).take n) (hb : b ∈ l) (hout : b ∉ (sortByKey key l).take n) :
    key a < key b := by
  have hrest : b ∈ (sortByKey key l).drop n := by
    rw [← (sortByKey_perm key l).mem_iff, ← List.take_append_drop n (sortByKey key l)] at hb
    exact (List.mem_append.mp hb).resolve_left hout
  have hsorted := List.pairwise_map.mp (pairwise_lt_sortByKey hkeys)
  rw [← List.take_append_drop n (sortByKey key l), List.pairwise_append] at hsorted
  exact hsorted.2.2 a ha b hrest

end SortByKey
