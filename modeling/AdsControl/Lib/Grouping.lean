import AdsControl.Lib.Fallible
import AdsControl.Lib.OrderedMap

/-!
# Grouping by a key

A loop that adds every row to the group of its key, where adding may fail. A group then holds the
result of the same loop over the rows of its key alone.

* `groupRows`: the loop over all rows;
* **`group_of_groupRows`**: what a group holds; `isSome_groupRows`: which groups there are;
* `exists_groupRows`: the loop succeeds where it does over every group.
-/

namespace Grouping

open Fallible Std OrderedMap

variable {ε α κ β : Type} [Ord κ] [TransOrd κ] [LawfulEqOrd κ] [DecidableEq κ]

/-- Add one row to the group of its key, which starts as `empty` says. -/
def groupStep (key : α → κ) (empty : κ → β) (add : β → α → Except ε β) (groups : ExtTreeMap κ β)
    (row : α) : Except ε (ExtTreeMap κ β) := do
  let group ← add (groups[key row]?.getD (empty (key row))) row
  return groups.insert (key row) group

/-- Collect the rows of every key. -/
def groupRows (key : α → κ) (empty : κ → β) (add : β → α → Except ε β) (rows : List α) :
    Except ε (ExtTreeMap κ β) :=
  rows.foldlM (groupStep key empty add) ∅

variable {key : α → κ} {empty : κ → β} {add : β → α → Except ε β} {rows : List α}
  {groups : ExtTreeMap κ β}

/-- **A group is the loop over the rows of its key.** -/
theorem group_of_groupRows (h : groupRows key empty add rows = .ok groups) (k : κ) :
    (rows.filter fun row => key row = k).foldlM add (empty k) = .ok (groups[k]?.getD (empty k)) := by
  refine foldlM_invariant (P := fun done groups => ∀ k : κ,
    (done.filter fun row => key row = k).foldlM add (empty k) = .ok (groups[k]?.getD (empty k))) ?_ ?_ h k
  · intro k
    rw [ExtTreeMap.getElem?_empty]
    rfl
  · intro done groups row groups' hinv hstep k
    simp only [groupStep, ok_of_bind, ok_of_pure] at hstep
    obtain ⟨group, hgroup, rfl⟩ := hstep
    rw [List.filter_append, getElem?_put]
    by_cases hk : key row = k
    · subst hk
      rw [if_pos rfl, List.filter_cons_of_pos (by simp), List.filter_nil,
        List.foldlM_append, hinv]
      show List.foldlM add (groups[key row]?.getD (empty (key row))) [row] = _
      rw [List.foldlM_cons, hgroup]
      rfl
    · rw [if_neg hk, List.filter_cons_of_neg (by simp [hk]), List.filter_nil, List.append_nil]
      exact hinv k

theorem isSome_groupRows (h : groupRows key empty add rows = .ok groups) (k : κ) :
    groups[k]?.isSome = true ↔ k ∈ rows.map key := by
  revert k
  refine foldlM_invariant (P := fun done (groups : ExtTreeMap κ β) => ∀ k : κ,
    (groups[k]?.isSome = true ↔ k ∈ done.map key)) ?_ ?_ h
  · intro k
    rw [ExtTreeMap.getElem?_empty]
    simp
  · intro done groups row groups' hinv hstep k
    simp only [groupStep, ok_of_bind, ok_of_pure] at hstep
    obtain ⟨group, -, rfl⟩ := hstep
    rw [getElem?_put, List.map_append, List.mem_append, List.map_singleton, List.mem_singleton]
    by_cases hk : key row = k
    · rw [if_pos hk]
      exact iff_of_true rfl (.inr hk.symm)
    · rw [if_neg hk, hinv k]
      exact (or_iff_left (Ne.symm hk)).symm

/-- The loop succeeds where it does over the rows of every key. -/
theorem exists_groupRows
    (h : ∀ k, ∃ group, (rows.filter fun row => key row = k).foldlM add (empty k) = .ok group) :
    ∃ groups, groupRows key empty add rows = .ok groups := by
  induction rows using List.reverseRecOn with
  | nil => exact ⟨∅, rfl⟩
  | append_singleton rows row ih =>
    have hprefix : ∀ k, ∃ group, (rows.filter fun row => key row = k).foldlM add (empty k) = .ok group := by
      intro k
      obtain ⟨group, hgroup⟩ := h k
      rw [List.filter_append, List.foldlM_append, ok_of_bind] at hgroup
      obtain ⟨group', hgroup', -⟩ := hgroup
      exact ⟨group', hgroup'⟩
    obtain ⟨groups, hgroups⟩ := ih hprefix
    obtain ⟨group, hgroup⟩ := h (key row)
    rw [List.filter_append, List.foldlM_append, group_of_groupRows hgroups (key row),
      List.filter_cons_of_pos (by simp), List.filter_nil] at hgroup
    obtain ⟨_, ⟨⟩, hgroup⟩ := ok_of_bind.mp hgroup
    rw [List.foldlM_cons, ok_of_bind] at hgroup
    obtain ⟨group', hadd, -⟩ := hgroup
    refine ⟨groups.insert (key row) group', ?_⟩
    rw [groupRows, List.foldlM_append, ok_of_bind]
    refine ⟨groups, hgroups, ?_⟩
    rw [List.foldlM_cons, groupStep, hadd]
    rfl

end Grouping
