import AdsControl.Lib.Fallible
import AdsControl.Lib.OrderedMap

/-!
# Groups and their totals

Entries are added to the group of their key. A group holds what its own entries add up to, and a measure
summed over the groups is the measure summed over the entries.

* `gather`: one entry into its group;
* **`getD_foldl_gather`**: what a group holds; `gather_comm`: the order of the entries does not matter;
* `total`, `totalBy`: a measure summed over all groups, with `totalBy_insert` for one group replaced by
  another;
* **`totalBy_foldl_gather`**: a measure that every entry raises by its own weight;
* **`foldl_gather_toList`**, **`sum_filter_foldl_gather`**: groups added to groups, and the sum over some
  of the keys;
* `gatherM`: groups that may refuse an entry, **`foldlM_gatherM_eq_ok`**: when none does;
  `foldlM_batches`, `foldlM_reads`: loops that read their entries.
-/

namespace Tally

open Std OrderedMap

variable {α κ β M : Type} [Ord κ] [TransOrd κ] [LawfulEqOrd κ] [DecidableEq κ]

/-- Add an entry to the group of its key; a group starts as `empty`. -/
def gather (key : α → κ) (empty : β) (add : β → α → β) (groups : ExtTreeMap κ β) (a : α) : ExtTreeMap κ β :=
  groups.insert (key a) (add (groups[key a]?.getD empty) a)

variable {key : α → κ} {empty : β} {add : β → α → β} {groups : ExtTreeMap κ β} {k : κ}

theorem getD_gather (a : α) : (gather key empty add groups a)[k]?.getD empty =
    if key a = k then add (groups[k]?.getD empty) a else groups[k]?.getD empty := by
  rw [gather, getElem?_put]
  split_ifs with h
  · rw [h, Option.getD_some]
  · rfl

theorem isSome_gather (a : α) :
    (gather key empty add groups a)[k]?.isSome = true ↔ key a = k ∨ groups[k]?.isSome = true := by
  rw [gather, getElem?_put]
  split_ifs with h <;> simp [h]

omit [DecidableEq κ] in
theorem ext_getD (empty : β) {m m' : ExtTreeMap κ β} (hkeys : ∀ k : κ, m[k]?.isSome = m'[k]?.isSome)
    (hgroups : ∀ k : κ, m[k]?.getD empty = m'[k]?.getD empty) : m = m' := by
  refine ExtTreeMap.ext_getElem? fun k => ?_
  have hk := hkeys k
  have hg := hgroups k
  cases h : m[k]? <;> cases h' : m'[k]? <;> simp_all

/-- **The order of two entries does not matter** when it does not matter within a group. -/
theorem gather_comm (hadd : ∀ b a a', add (add b a) a' = add (add b a') a) (groups : ExtTreeMap κ β)
    (a a' : α) : gather key empty add (gather key empty add groups a) a' =
      gather key empty add (gather key empty add groups a') a := by
  refine ext_getD empty (fun k => ?_) fun k => ?_
  · rw [Bool.eq_iff_iff]
    simp only [isSome_gather]
    tauto
  · simp only [getD_gather]
    by_cases h : key a = k
    · by_cases h' : key a' = k
      · simp only [h, h', if_true]
        exact hadd _ a a'
      · simp only [h, h', if_true, if_false]
    · simp only [h, if_false]

/-- **A group holds what its entries add up to.** -/
theorem getD_foldl_gather (l : List α) (groups : ExtTreeMap κ β) (k : κ) :
    (l.foldl (gather key empty add) groups)[k]?.getD empty =
      (l.filter fun a => key a = k).foldl add (groups[k]?.getD empty) := by
  induction l generalizing groups with
  | nil => rfl
  | cons a l ih =>
    rw [List.foldl_cons, ih, getD_gather]
    by_cases h : key a = k
    · rw [if_pos h, List.filter_cons_of_pos (by simpa using h), List.foldl_cons]
    · rw [if_neg h, List.filter_cons_of_neg (by simpa using h)]

theorem isSome_foldl_gather (l : List α) (groups : ExtTreeMap κ β) (k : κ) :
    (l.foldl (gather key empty add) groups)[k]?.isSome = true ↔
      k ∈ l.map key ∨ groups[k]?.isSome = true := by
  induction l generalizing groups with
  | nil => simp
  | cons a l ih =>
    rw [List.foldl_cons, ih, isSome_gather, List.map_cons, List.mem_cons]
    tauto

/-- **The groups of a list**: one for every key, over the entries of the key. -/
theorem getElem?_foldl_gather (l : List α) (k : κ) :
    (l.foldl (gather key empty add) ∅)[k]? =
      if k ∈ l.map key then some ((l.filter fun a => key a = k).foldl add empty) else none := by
  have hsome : (l.foldl (gather key empty add) ∅)[k]?.isSome = true ↔ _ := isSome_foldl_gather l ∅ k
  have hgroup : (l.foldl (gather key empty add) ∅)[k]?.getD empty = _ := getD_foldl_gather l ∅ k
  rw [ExtTreeMap.getElem?_empty] at hsome hgroup
  rw [Option.isSome_none, Bool.false_eq_true, or_false] at hsome
  rw [Option.getD_none] at hgroup
  split_ifs with h
  · obtain ⟨b, hb⟩ := Option.isSome_iff_exists.mp (hsome.mpr h)
    rw [hb, Option.getD_some] at hgroup
    rw [hb, hgroup]
  · rw [← hsome, Bool.not_eq_true, Option.isSome_eq_false_iff, Option.isNone_iff_eq_none] at h
    exact h

/-! ## Totals -/

section Total

variable [AddCommMonoid M] (measure : β → M) (keyed : κ → β → M)

/-- A measure summed over all groups. -/
def total (groups : ExtTreeMap κ β) : M := (groups.toList.map fun e => measure e.2).sum

/-- A measure that also knows the key, summed over all groups. -/
def totalBy (groups : ExtTreeMap κ β) : M := (groups.toList.map fun e => keyed e.1 e.2).sum

omit [LawfulEqOrd κ] [DecidableEq κ] in
@[simp] theorem totalBy_empty : totalBy keyed (∅ : ExtTreeMap κ β) = 0 := by
  rw [totalBy, ExtTreeMap.toList_eq_nil_iff.mpr rfl, List.map_nil, List.sum_nil]

theorem totalBy_insert_fresh {b : β} (h : groups[k]? = none) :
    totalBy keyed (groups.insert k b) = keyed k b + totalBy keyed groups := by
  rw [totalBy, ((toList_insert_perm h).map _).sum_eq]
  rfl

theorem totalBy_erase {b : β} (h : groups[k]? = some b) :
    totalBy keyed groups = keyed k b + totalBy keyed (groups.erase k) := by
  have hfresh : (groups.erase k)[k]? = none := by rw [getElem?_remove, if_pos rfl]
  rw [← totalBy_insert_fresh keyed hfresh]
  congr 1
  refine ExtTreeMap.ext_getElem? fun k' => ?_
  rw [getElem?_put, getElem?_remove]
  split_ifs with hk
  · rw [← hk, h]
  · rfl

/-- **A group replaced by another.** -/
theorem totalBy_insert (b : β) :
    totalBy keyed (groups.insert k b) + groups[k]?.elim 0 (keyed k) = totalBy keyed groups + keyed k b := by
  have hfresh : (groups.erase k)[k]? = none := by rw [getElem?_remove, if_pos rfl]
  have hinsert : groups.insert k b = (groups.erase k).insert k b := by
    refine ExtTreeMap.ext_getElem? fun k' => ?_
    simp only [getElem?_put, getElem?_remove]
    split_ifs <;> rfl
  cases h : groups[k]? with
  | none => rw [totalBy_insert_fresh keyed h, Option.elim_none, add_zero, add_comm]
  | some old =>
    rw [hinsert, totalBy_insert_fresh keyed hfresh, totalBy_erase keyed h, Option.elim_some]
    abel

variable {weight : α → M}

theorem totalBy_gather [IsRightCancelAdd M] (hempty : ∀ k, keyed k empty = 0)
    (hadd : ∀ b a, keyed (key a) (add b a) = keyed (key a) b + weight a) (a : α) :
    totalBy keyed (gather key empty add groups a) = totalBy keyed groups + weight a := by
  have hold : groups[key a]?.elim 0 (keyed (key a)) = keyed (key a) (groups[key a]?.getD empty) := by
    cases groups[key a]? with
    | none => exact (hempty _).symm
    | some old => rfl
  have h : totalBy keyed (gather key empty add groups a) + groups[key a]?.elim 0 (keyed (key a)) =
      totalBy keyed groups + keyed (key a) (add (groups[key a]?.getD empty) a) := totalBy_insert keyed _
  rw [hold, hadd, add_comm (keyed _ _) (weight a), ← add_assoc] at h
  exact add_right_cancel h

/-- **Summed over the groups or over the entries**: the total is the same. -/
theorem totalBy_foldl_gather [IsRightCancelAdd M] (hempty : ∀ k, keyed k empty = 0)
    (hadd : ∀ b a, keyed (key a) (add b a) = keyed (key a) b + weight a) (l : List α)
    (groups : ExtTreeMap κ β) :
    totalBy keyed (l.foldl (gather key empty add) groups) = totalBy keyed groups + (l.map weight).sum := by
  induction l generalizing groups with
  | nil => simp
  | cons a l ih =>
    rw [List.foldl_cons, ih, totalBy_gather keyed hempty hadd, List.map_cons, List.sum_cons, add_assoc]

omit [LawfulEqOrd κ] [DecidableEq κ] in
@[simp] theorem total_empty : total measure (∅ : ExtTreeMap κ β) = 0 := totalBy_empty fun _ => measure

theorem total_erase {b : β} (h : groups[k]? = some b) :
    total measure groups = measure b + total measure (groups.erase k) := totalBy_erase (fun _ => measure) h

theorem total_gather [IsRightCancelAdd M] (hempty : measure empty = 0)
    (hadd : ∀ b a, measure (add b a) = measure b + weight a) (a : α) :
    total measure (gather key empty add groups a) = total measure groups + weight a :=
  totalBy_gather (fun _ => measure) (fun _ => hempty) hadd a

/-- Summed over the groups or over the entries. -/
theorem total_foldl_gather [IsRightCancelAdd M] (hempty : measure empty = 0)
    (hadd : ∀ b a, measure (add b a) = measure b + weight a) (l : List α) (groups : ExtTreeMap κ β) :
    total measure (l.foldl (gather key empty add) groups) = total measure groups + (l.map weight).sum :=
  totalBy_foldl_gather (fun _ => measure) (fun _ => hempty) hadd l groups

end Total

theorem le_total (measure : β → ℕ) {b : β} (h : groups[k]? = some b) : measure b ≤ total measure groups := by
  rw [total_erase measure h]
  exact Nat.le_add_right _ _

/-! ## Groups of groups -/

section Regroup

variable [AddCommMonoid β] {weight : α → β}

theorem sum_filter_toList (m : ExtTreeMap κ β) (k : κ) :
    ((m.toList.filter fun e => e.1 = k).map Prod.snd).sum = m[k]?.getD 0 := by
  cases h : m[k]? with
  | none =>
    rw [List.filter_eq_nil_iff.mpr, List.map_nil, List.sum_nil, Option.getD_none]
    intro e he
    have hget := ExtTreeMap.mem_toList_iff_getElem?_eq_some.mp he
    have hne : e.1 ≠ k := by
      rintro rfl
      rw [h] at hget
      cases hget
    simpa using hne
  | some b =>
    have hone : m.toList.filter (fun e => e.1 = k) = [(k, b)] := by
      refine List.perm_singleton.mp ((List.perm_ext_iff_of_nodup ((nodup_toList m).filter _)
        (List.nodup_singleton _)).mpr fun e => ?_)
      rw [List.mem_filter, ExtTreeMap.mem_toList_iff_getElem?_eq_some, decide_eq_true_eq,
        List.mem_singleton]
      constructor
      · rintro ⟨hget, rfl⟩
        rw [h, Option.some.injEq] at hget
        rw [hget]
      · rintro rfl
        exact ⟨h, rfl⟩
    rw [hone, List.map_singleton, List.sum_singleton, Option.getD_some]

omit [Ord κ] [TransOrd κ] [LawfulEqOrd κ] [DecidableEq κ] in
theorem foldl_add (l : List α) (b : β) : l.foldl (fun b a => b + weight a) b = b + (l.map weight).sum := by
  induction l generalizing b with
  | nil => rw [List.foldl_nil, List.map_nil, List.sum_nil, add_zero]
  | cons a l ih => rw [List.foldl_cons, ih, List.map_cons, List.sum_cons, add_assoc]

theorem getD_foldl_gather_add (l : List α) (groups : ExtTreeMap κ β) (k : κ) :
    (l.foldl (gather key 0 fun b a => b + weight a) groups)[k]?.getD 0 =
      groups[k]?.getD 0 + ((l.filter fun a => key a = k).map weight).sum := by
  rw [getD_foldl_gather, foldl_add]

/-- **Grouping in parts**: groups added as entries are their entries added one by one. -/
theorem foldl_gather_toList (l : List α) (groups : ExtTreeMap κ β) :
    (l.foldl (gather key 0 fun b a => b + weight a) ∅).toList.foldl
        (gather Prod.fst 0 fun b e => b + e.2) groups =
      l.foldl (gather key 0 fun b a => b + weight a) groups := by
  refine ext_getD 0 (fun k => ?_) fun k => ?_
  · rw [Bool.eq_iff_iff, isSome_foldl_gather, isSome_foldl_gather, ExtTreeMap.map_fst_toList_eq_keys,
      mem_keys_iff, isSome_foldl_gather]
    simp
  · rw [getD_foldl_gather_add, getD_foldl_gather_add, sum_filter_toList, getD_foldl_gather_add,
      ExtTreeMap.getElem?_empty, Option.getD_none, zero_add]

omit [Ord κ] [TransOrd κ] [LawfulEqOrd κ] [DecidableEq κ] in
theorem sum_filter (p : α → Prop) [DecidablePred p] (l : List α) :
    ((l.filter fun a => p a).map weight).sum = (l.map fun a => if p a then weight a else 0).sum := by
  induction l with
  | nil => rfl
  | cons a l ih =>
    by_cases h : p a
    · rw [List.filter_cons_of_pos (by simpa using h), List.map_cons, List.sum_cons, ih, List.map_cons,
        List.sum_cons, if_pos h]
    · rw [List.filter_cons_of_neg (by simpa using h), ih, List.map_cons, List.sum_cons, if_neg h, zero_add]

/-- **Summed over the groups of some keys or over their entries.** -/
theorem sum_filter_foldl_gather [IsRightCancelAdd β] (p : κ → Prop) [DecidablePred p] (l : List α) :
    (((l.foldl (gather key 0 fun b a => b + weight a) ∅).toList.filter fun e => p e.1).map Prod.snd).sum =
      ((l.filter fun a => p (key a)).map weight).sum := by
  have hadd : ∀ (b : β) (a : α), (if p (key a) then b + weight a else 0) =
      (if p (key a) then b else 0) + if p (key a) then weight a else 0 := by
    intro b a
    split_ifs
    · rfl
    · exact (add_zero 0).symm
  have htotal := totalBy_foldl_gather (fun k (b : β) => if p k then b else 0) (fun _ => ite_self 0) hadd l ∅
  rw [totalBy_empty, zero_add] at htotal
  rw [sum_filter, sum_filter]
  exact htotal

end Regroup

/-! ## Groups that may refuse an entry -/

section Refusal

open Fallible

variable {ε : Type} {addM : β → α → Except ε β} {fits : β → Prop} {l : List α}

/-- Add an entry to the group of its key, unless the group refuses it. -/
def gatherM (key : α → κ) (empty : β) (addM : β → α → Except ε β) (groups : ExtTreeMap κ β) (a : α) :
    Except ε (ExtTreeMap κ β) := do
  let b ← addM (groups[key a]?.getD empty) a
  return groups.insert (key a) b

omit [LawfulEqOrd κ] [DecidableEq κ] in
theorem gatherM_eq_ok (hadd : ∀ b a b', addM b a = .ok b' ↔ b' = add b a ∧ fits (add b a))
    {groups' : ExtTreeMap κ β} {a : α} : gatherM key empty addM groups a = .ok groups' ↔
      groups' = gather key empty add groups a ∧ fits (add (groups[key a]?.getD empty) a) := by
  simp only [gatherM, ok_of_bind, ok_of_pure, hadd]
  constructor
  · rintro ⟨_, ⟨rfl, hfits⟩, rfl⟩
    exact ⟨rfl, hfits⟩
  · rintro ⟨rfl, hfits⟩
    exact ⟨_, ⟨rfl, hfits⟩, rfl⟩

omit [LawfulEqOrd κ] [DecidableEq κ] in
/-- **What no group refuses is gathered.** -/
theorem foldl_of_foldlM_gatherM (hadd : ∀ b a b', addM b a = .ok b' ↔ b' = add b a ∧ fits (add b a))
    {groups' : ExtTreeMap κ β} (h : l.foldlM (gatherM key empty addM) groups = .ok groups') :
    groups' = l.foldl (gather key empty add) groups := by
  induction l generalizing groups with
  | nil =>
    rw [List.foldlM_nil, ok_of_pure] at h
    exact h.symm
  | cons a l ih =>
    rw [List.foldlM_cons, ok_of_bind] at h
    obtain ⟨groups₁, hstep, hrest⟩ := h
    obtain ⟨rfl, -⟩ := (gatherM_eq_ok hadd).mp hstep
    exact ih hrest

omit [LawfulEqOrd κ] [DecidableEq κ] in
/-- Nothing is refused when every entry fits the group it finds. -/
theorem foldlM_gatherM_ok (hadd : ∀ b a b', addM b a = .ok b' ↔ b' = add b a ∧ fits (add b a))
    (h : ∀ done a rest, l = done ++ a :: rest →
      fits (add ((done.foldl (gather key empty add) groups)[key a]?.getD empty) a)) :
    l.foldlM (gatherM key empty addM) groups = .ok (l.foldl (gather key empty add) groups) := by
  induction l generalizing groups with
  | nil => rfl
  | cons a l ih =>
    rw [List.foldlM_cons, ok_of_bind]
    refine ⟨_, (gatherM_eq_ok hadd).mpr ⟨rfl, h [] a l rfl⟩, ih fun done a' rest hl => ?_⟩
    exact h (a :: done) a' rest (by rw [hl, List.cons_append])

/-- **Nothing is refused when the groups fit in the end**, for entries that only raise them. -/
theorem foldlM_gatherM_eq_ok (hadd : ∀ b a b', addM b a = .ok b' ↔ b' = add b a ∧ fits (add b a))
    (hmono : ∀ b a, fits (add b a) → fits b) {groups groups' : ExtTreeMap κ β}
    (hgroups : ∀ k : κ, fits (groups[k]?.getD empty)) :
    l.foldlM (gatherM key empty addM) groups = .ok groups' ↔
      groups' = l.foldl (gather key empty add) groups ∧ ∀ k : κ, fits (groups'[k]?.getD empty) := by
  induction l generalizing groups with
  | nil =>
    rw [List.foldlM_nil, ok_of_pure]
    constructor
    · rintro rfl
      exact ⟨rfl, hgroups⟩
    · rintro ⟨rfl, -⟩
      rfl
  | cons a l ih =>
    have hkeep : ∀ (b : β) (l : List α), fits (l.foldl add b) → fits b := by
      intro b l
      induction l generalizing b with
      | nil => exact id
      | cons a l ih => exact fun h => hmono b a (ih _ h)
    have hstep : ∀ {k : κ}, fits (add (groups[key a]?.getD empty) a) →
        fits ((gather key empty add groups a)[k]?.getD empty) := by
      intro k hfits
      rw [getD_gather]
      split_ifs with hk
      · rwa [← hk]
      · exact hgroups k
    rw [List.foldlM_cons, ok_of_bind, List.foldl_cons]
    constructor
    · rintro ⟨groups₁, hfirst, hrest⟩
      obtain ⟨rfl, hfits⟩ := (gatherM_eq_ok hadd).mp hfirst
      exact (ih fun k => hstep hfits).mp hrest
    · rintro ⟨rfl, hfits⟩
      have hfirst : fits (add (groups[key a]?.getD empty) a) := by
        have hlast := hfits (key a)
        rw [getD_foldl_gather, getD_gather, if_pos rfl] at hlast
        exact hkeep _ _ hlast
      exact ⟨_, (gatherM_eq_ok hadd).mpr ⟨rfl, hfirst⟩, (ih fun k => hstep hfirst).mpr ⟨rfl, hfits⟩⟩

section Loops

variable {γ σ : Type} {step : σ → α → Except ε σ} {f : σ → γ → Except ε σ} {xs : List γ} {s t : σ}

/-- **Entries read batch by batch** are taken as all entries one after the other. -/
theorem foldlM_batches {read : γ → Except ε (List α)}
    (hf : ∀ s x t, f s x = .ok t ↔ ∃ l, read x = .ok l ∧ l.foldlM step s = .ok t) :
    xs.foldlM f s = .ok t ↔ ∃ ls, xs.mapM read = .ok ls ∧ ls.flatten.foldlM step s = .ok t := by
  induction xs generalizing s with
  | nil =>
    simp only [List.foldlM_nil, List.mapM_nil, ok_of_pure]
    constructor
    · rintro rfl
      exact ⟨[], rfl, rfl⟩
    · rintro ⟨_, rfl, h⟩
      exact ok_of_pure.mp h
  | cons x xs ih =>
    simp only [List.foldlM_cons, List.mapM_cons, ok_of_bind, ok_of_pure, ih, hf]
    constructor
    · rintro ⟨s', ⟨l, hl, hs'⟩, ls, hls, ht⟩
      refine ⟨l :: ls, ⟨l, hl, ls, hls, rfl⟩, ?_⟩
      rw [List.flatten_cons, List.foldlM_append]
      exact ok_of_bind.mpr ⟨s', hs', ht⟩
    · rintro ⟨_, ⟨l, hl, ls, hls, rfl⟩, ht⟩
      rw [List.flatten_cons, List.foldlM_append] at ht
      obtain ⟨s', hs', ht⟩ := ok_of_bind.mp ht
      exact ⟨s', ⟨l, hl, hs'⟩, ls, hls, ht⟩

theorem foldlM_reads {read : γ → Except ε α}
    (hf : ∀ s x t, f s x = .ok t ↔ ∃ a, read x = .ok a ∧ step s a = .ok t) :
    xs.foldlM f s = .ok t ↔ ∃ l, xs.mapM read = .ok l ∧ l.foldlM step s = .ok t := by
  induction xs generalizing s with
  | nil => simp [pure, Except.pure]
  | cons x xs ih =>
    simp only [List.foldlM_cons, List.mapM_cons, ok_of_bind, ok_of_pure, ih, hf]
    constructor
    · rintro ⟨s', ⟨a, ha, hs'⟩, l, hl, ht⟩
      exact ⟨a :: l, ⟨a, ha, l, hl, rfl⟩, by rw [List.foldlM_cons, hs']; exact ht⟩
    · rintro ⟨_, ⟨a, ha, l, hl, rfl⟩, ht⟩
      rw [List.foldlM_cons] at ht
      obtain ⟨s', hs', ht⟩ := ok_of_bind.mp ht
      exact ⟨s', ⟨a, ha, hs'⟩, l, hl, ht⟩

end Loops

/-- **Entries in another order** give the same groups. -/
theorem foldlM_gatherM_perm (hadd : ∀ b a b', addM b a = .ok b' ↔ b' = add b a ∧ fits (add b a))
    (hmono : ∀ b a, fits (add b a) → fits b) (hcomm : ∀ b a a', add (add b a) a' = add (add b a') a)
    {groups groups' : ExtTreeMap κ β} (hgroups : ∀ k : κ, fits (groups[k]?.getD empty)) {l' : List α}
    (hperm : l.Perm l') : l.foldlM (gatherM key empty addM) groups = .ok groups' ↔
      l'.foldlM (gatherM key empty addM) groups = .ok groups' := by
  have : RightCommutative (gather key empty add) := ⟨gather_comm hcomm⟩
  rw [foldlM_gatherM_eq_ok hadd hmono hgroups, foldlM_gatherM_eq_ok hadd hmono hgroups,
    hperm.foldl_eq groups]

end Refusal

end Tally
