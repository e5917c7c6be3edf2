import Mathlib

/-!
# Ordered maps with decidable keys

Facts about `Std.ExtTreeMap` stated with equality of keys instead of comparison.

* `getElem?_put`: lookup after an insertion;
* `toList_insert_perm`: a fresh insertion adds one entry;
* `size_eq_card_iff`: a map fills a finite set of keys exactly when its size says so.
-/

namespace OrderedMap

open Std

/-- Pairs in lexicographic order are equal when they compare as equal. -/
instance lawfulEqOrdLex {α β : Type} [Ord α] [Ord β] [LawfulEqOrd α] [LawfulEqOrd β] : LawfulEqOrd (α ×ₗ β) where
  compare_self := by
    intro a
    simp [Prod.Lex.compare_def, compareLex, compareOn]
  eq_of_compare := by
    intro a b h
    simp only [Prod.Lex.compare_def, compareLex, compareOn, Ordering.then_eq_eq,
      LawfulEqOrd.compare_eq_iff_eq] at h
    exact Prod.ext h.1 h.2

/-- Pairs in lexicographic order have the equality of pairs. -/
instance lawfulBEqLex {α β : Type} [DecidableEq α] [DecidableEq β] : LawfulBEq (α ×ₗ β) := inferInstance

variable {κ ν : Type} {cmp : κ → κ → Ordering} [TransCmp cmp] [LawfulEqCmp cmp]
  {m : ExtTreeMap κ ν cmp}

theorem getElem?_put [DecidableEq κ] {k a : κ} {v : ν} :
    (m.insert k v)[a]? = if k = a then some v else m[a]? := by
  rw [ExtTreeMap.getElem?_insert]
  by_cases h : k = a
  · rw [if_pos h, if_pos (LawfulEqCmp.compare_eq_iff_eq.mpr h)]
  · rw [if_neg h, if_neg fun heq => h (LawfulEqCmp.eq_of_compare heq)]

theorem getElem?_remove [DecidableEq κ] {k a : κ} :
    (m.erase k)[a]? = if k = a then none else m[a]? := by
  rw [ExtTreeMap.getElem?_erase]
  by_cases h : k = a
  · rw [if_pos h, if_pos (LawfulEqCmp.compare_eq_iff_eq.mpr h)]
  · rw [if_neg h, if_neg fun heq => h (LawfulEqCmp.eq_of_compare heq)]

theorem mem_keys_iff {k : κ} : k ∈ m.keys ↔ m[k]?.isSome = true := by
  rw [ExtTreeMap.mem_keys, ExtTreeMap.mem_iff_isSome_getElem?]

omit [LawfulEqCmp cmp] in
theorem nodup_toList (m : ExtTreeMap κ ν cmp) : m.toList.Nodup := by
  have h : m.keys.Nodup := ExtTreeMap.nodup_keys
  rw [← ExtTreeMap.map_fst_toList_eq_keys] at h
  exact h.of_map

theorem ofList_toList [DecidableEq κ] (m : ExtTreeMap κ ν cmp) : ExtTreeMap.ofList m.toList cmp = m := by
  refine ExtTreeMap.ext_getElem? fun k => ?_
  cases h : m[k]? with
  | some v =>
    exact ExtTreeMap.getElem?_ofList_of_mem (LawfulEqCmp.compare_eq_iff_eq.mpr rfl)
      ExtTreeMap.distinct_keys_toList (ExtTreeMap.mem_toList_iff_getElem?_eq_some.mpr h)
  | none =>
    refine ExtTreeMap.getElem?_ofList_of_contains_eq_false ?_
    rw [ExtTreeMap.map_fst_toList_eq_keys, List.contains_eq_mem, decide_eq_false_iff_not, mem_keys_iff, h]
    simp

theorem toList_insert_perm [DecidableEq κ] {k : κ} {v : ν} (h : m[k]? = none) :
    (m.insert k v).toList.Perm ((k, v) :: m.toList) := by
  have hnew : (k, v) ∉ m.toList := fun hmem => by
    rw [ExtTreeMap.mem_toList_iff_getElem?_eq_some, h] at hmem
    cases hmem
  refine (List.perm_ext_iff_of_nodup (nodup_toList _)
    (List.nodup_cons.mpr ⟨hnew, nodup_toList m⟩)).mpr fun p => ?_
  obtain ⟨a, b⟩ := p
  rw [ExtTreeMap.mem_toList_iff_getElem?_eq_some, getElem?_put, List.mem_cons,
    ExtTreeMap.mem_toList_iff_getElem?_eq_some, Prod.mk.injEq]
  by_cases hk : k = a
  · subst hk
    simp [h, eq_comm]
  · simp [hk, Ne.symm hk]

/-- A list without repetition inside a finite set is as long as the set exactly when it exhausts
it. -/
theorem length_eq_card_iff {α : Type} [DecidableEq α] {l : List α} (hl : l.Nodup) {s : Finset α}
    (hsub : ∀ a ∈ l, a ∈ s) : l.length = s.card ↔ ∀ a ∈ s, a ∈ l := by
  have hss : l.toFinset ⊆ s := fun a ha => hsub a (List.mem_toFinset.mp ha)
  rw [← List.toFinset_card_of_nodup hl]
  constructor
  · intro hcard a ha
    rw [← Finset.eq_of_subset_of_card_le hss hcard.ge] at ha
    exact List.mem_toFinset.mp ha
  · intro hall
    rw [hss.antisymm fun a ha => List.mem_toFinset.mpr (hall a ha)]

theorem size_eq_card_iff [DecidableEq κ] {s : Finset κ}
    (hsub : ∀ k, m[k]?.isSome = true → k ∈ s) :
    m.size = s.card ↔ ∀ k ∈ s, m[k]?.isSome = true := by
  rw [← ExtTreeMap.length_keys,
    length_eq_card_iff ExtTreeMap.nodup_keys fun k hk => hsub k (mem_keys_iff.mp hk)]
  exact forall₂_congr fun k _ => mem_keys_iff

end OrderedMap
