import AdsControl.Lib.SortByKey

/-!
# Intervals by group

Intervals of one group must not overlap. After sorting by group, lower and upper end it is enough to
compare neighbours.

* `Separate`: two intervals of one group do not meet;
* **`neighbours_iff_pairwise`**: neighbours in order are separate exactly when all intervals are;
* `nodup_key_of_separate`, `length_filter_le_one`: what follows for separate intervals.
-/

namespace Intervals

open SortByKey

variable {α ι κ : Type} [LinearOrder ι] [LinearOrder κ] (group : α → ι) (lower upper : α → κ)

/-- By group, then by the ends. -/
def key (a : α) : ι ×ₗ κ ×ₗ κ := toLex (group a, toLex (lower a, upper a))

/-- Consecutive entries. -/
def neighbours (l : List α) : List (α × α) := l.zip l.tail

/-- Intervals of one group do not meet. -/
def Separate (a b : α) : Prop := group a = group b → upper a < lower b ∨ upper b < lower a

instance decidableSeparate : DecidableRel (Separate group lower upper) := fun a b =>
  inferInstanceAs (Decidable (group a = group b → upper a < lower b ∨ upper b < lower a))

variable {group lower upper} {l : List α}

theorem forall_neighbours {r : α → α → Prop} : (∀ p ∈ neighbours l, r p.1 p.2) ↔ l.IsChain r := by
  induction l with
  | nil => simp [neighbours]
  | cons a l ih =>
    cases l with
    | nil => simp [neighbours]
    | cons b l =>
      rw [List.isChain_cons_cons, ← ih]
      simp [neighbours]

omit [LinearOrder ι] in
theorem Separate.symm {a b : α} (h : Separate group lower upper a b) : Separate group lower upper b a :=
  fun hgroup => (h hgroup.symm).symm

/-- One interval is behind another one: in a later group, or after its end. -/
def Behind (group : α → ι) (lower upper : α → κ) (a b : α) : Prop :=
  (group a < group b ∨ group a = group b ∧ upper a < lower b) ∧ lower b ≤ upper b

instance transBehind : IsTrans α (Behind group lower upper) where
  trans a b c hab hbc := by
    refine ⟨?_, hbc.2⟩
    obtain ⟨hab, hb⟩ := hab
    obtain ⟨hbc, -⟩ := hbc
    rcases hab with hab | ⟨hab, hends⟩
    · rcases hbc with hbc | ⟨hbc, -⟩
      · exact .inl (hab.trans hbc)
      · exact .inl (hbc ▸ hab)
    · rcases hbc with hbc | ⟨hbc, hends'⟩
      · exact .inl (hab ▸ hbc)
      · exact .inr ⟨hab.trans hbc, hends.trans_le hb |>.trans hends'⟩

theorem Behind.separate {a b : α} (h : Behind group lower upper a b) : Separate group lower upper a b := by
  intro hgroup
  rcases h.1 with hlt | ⟨-, hends⟩
  · exact absurd hgroup hlt.ne
  · exact .inl hends

theorem upper_lt_lower_of_key_le {a b : α} (hb : lower b ≤ upper b)
    (hle : key group lower upper a ≤ key group lower upper b) (hgroup : group a = group b)
    (hseparate : Separate group lower upper a b) : upper a < lower b := by
  refine (hseparate hgroup).resolve_right fun hlt => ?_
  have hlower : lower a ≤ lower b := by
    have hends : toLex (lower a, upper a) ≤ toLex (lower b, upper b) :=
      ((Prod.Lex.toLex_le_toLex.mp hle).resolve_left hgroup.not_lt).2
    rcases Prod.Lex.toLex_le_toLex.mp hends with hlt' | ⟨heq, -⟩
    · exact hlt'.le
    · exact heq.le
  exact absurd (hlt.trans_le hlower) hb.not_gt

/-- **Separate neighbours are enough.** -/
theorem neighbours_iff_pairwise (hproper : ∀ a ∈ l, lower a ≤ upper a) :
    (∀ p ∈ neighbours (sortByKey (key group lower upper) l), group p.1 = group p.2 → upper p.1 < lower p.2) ↔
      l.Pairwise (Separate group lower upper) := by
  have hsorted := pairwise_sortByKey (key group lower upper) l
  have hperm := sortByKey_perm (key group lower upper) l
  rw [← hperm.pairwise_iff Separate.symm]
  constructor
  · intro hneighbours
    have hchain : (sortByKey (key group lower upper) l).IsChain (Behind group lower upper) := by
      refine forall_neighbours.mp fun p hp => ⟨?_, ?_⟩
      · have hle := forall_neighbours.mpr hsorted.isChain p hp
        rcases Prod.Lex.toLex_le_toLex.mp hle with hlt | ⟨heq, -⟩
        · exact .inl hlt
        · exact .inr ⟨heq, hneighbours p hp heq⟩
      · exact hproper p.2 (mem_sortByKey.mp (List.mem_of_mem_tail (List.of_mem_zip hp).2))
    exact (List.isChain_iff_pairwise.mp hchain).imp Behind.separate
  · intro hseparate
    have hpairs : (sortByKey (key group lower upper) l).Pairwise fun a b =>
        group a = group b → upper a < lower b := by
      refine (hsorted.and hseparate).imp_of_mem ?_
      rintro a b - hb ⟨hle, hsep⟩ hgroup
      exact upper_lt_lower_of_key_le (hproper b (mem_sortByKey.mp hb)) hle hgroup hsep
    exact forall_neighbours.mpr hpairs.isChain

omit [LinearOrder ι] in
/-- Separate intervals have distinct keys. -/
theorem nodup_key_of_separate (hproper : ∀ a ∈ l, lower a ≤ upper a)
    (h : l.Pairwise (Separate group lower upper)) : (l.map (key group lower upper)).Nodup := by
  refine List.pairwise_map.mpr (h.imp_of_mem fun {a b} ha _ hseparate heq => ?_)
  simp only [key, toLex_inj, Prod.mk.injEq] at heq
  obtain ⟨hgroup, hlower, hupper⟩ := heq
  have hends := hproper a ha
  rcases hseparate hgroup with hlt | hlt
  · exact absurd (hlt.trans_eq hlower.symm) hends.not_gt
  · exact absurd (hupper ▸ hlt) hends.not_gt

omit [LinearOrder ι] in
theorem length_filter_le_one [DecidableEq ι] (h : l.Pairwise (Separate group lower upper)) (i : ι) (t : κ) :
    (l.filter fun a => group a = i ∧ lower a ≤ t ∧ t ≤ upper a).length ≤ 1 := by
  induction l with
  | nil => simp
  | cons a l ih =>
    rw [List.pairwise_cons] at h
    by_cases ha : group a = i ∧ lower a ≤ t ∧ t ≤ upper a
    · have hrest : (l.filter fun b => group b = i ∧ lower b ≤ t ∧ t ≤ upper b) = [] := by
        refine List.filter_eq_nil_iff.mpr fun b hb hin => ?_
        obtain ⟨hgroup, hlow, hhigh⟩ := of_decide_eq_true hin
        rcases h.1 b hb (ha.1.trans hgroup.symm) with hlt | hlt
        · exact absurd (hlt.trans_le (hlow.trans ha.2.2)) (lt_irrefl _)
        · exact absurd (hlt.trans_le (ha.2.1.trans hhigh)) (lt_irrefl _)
      rw [List.filter_cons_of_pos (by simpa using ha), hrest]
      rfl
    · rw [List.filter_cons_of_neg (by simpa using ha)]
      exact ih h.2

end Intervals
