import Mathlib

/-!
# Justified histories

A history in which every entry is justified by the entries before it.

* `Orderly J log`: the justification `J` holds at every entry of `log`;
* `Orderly.snoc`: a justified entry may be appended;
* **`Orderly.countP_le`**: entries that are justified only so often occur only so often.
-/

namespace History

variable {E : Type} {J : List E → E → Prop} {log : List E} {e : E}

/-- Every entry is justified by the entries before it. -/
def Orderly (J : List E → E → Prop) (log : List E) : Prop :=
  ∀ before e after, log = before ++ e :: after → J before e

theorem orderly_nil : Orderly J [] := by
  intro before e after h
  simp at h

theorem Orderly.snoc (h : Orderly J log) (he : J log e) : Orderly J (log ++ [e]) := by
  intro before e' after heq
  rcases List.eq_nil_or_concat after with rfl | ⟨rest, last, rfl⟩
  · obtain ⟨rfl, hlast⟩ := List.append_inj' heq rfl
    rw [List.cons.injEq] at hlast
    rw [← hlast.1]
    exact he
  · rw [List.concat_eq_append, ← List.cons_append, ← List.append_assoc] at heq
    exact h before e' rest (List.append_inj' heq rfl).1

theorem Orderly.init (h : Orderly J (log ++ [e])) : Orderly J log :=
  fun before e' after heq => h before e' (after ++ [e]) (by simp [heq])

theorem Orderly.last (h : Orderly J (log ++ [e])) : J log e := h log e [] rfl

/-- Entries that are only justified while fewer than `n` of their kind occurred occur at most `n`
times. -/
theorem Orderly.countP_le {p : E → Bool} {n : ℕ}
    (hJ : ∀ before e, J before e → p e → before.countP p < n) (h : Orderly J log) :
    log.countP p ≤ n := by
  induction log using List.reverseRecOn with
  | nil => simp
  | append_singleton log e ih =>
    rw [List.countP_append, List.countP_singleton]
    split
    · rename_i he
      have := hJ log e h.last he
      omega
    · have := ih h.init
      omega

/-- Entries that are only justified before any other of their kind occur at most once. -/
theorem Orderly.countP_le_one {p : E → Bool}
    (hJ : ∀ before e, J before e → p e → ∀ e' ∈ before, ¬ p e') (h : Orderly J log) :
    log.countP p ≤ 1 := by
  refine h.countP_le fun before e he hp => ?_
  rw [List.countP_eq_zero.mpr (hJ before e he hp)]
  exact Nat.zero_lt_one

section Numbered

variable {p : E → Bool} {f : E → ℕ}

theorem Orderly.number_le (hJ : ∀ before e, J before e → p e → f e = before.countP p + 1)
    (h : Orderly J log) (he : e ∈ log) (hp : p e) : 1 ≤ f e ∧ f e ≤ log.countP p := by
  obtain ⟨before, after, rfl⟩ := List.append_of_mem he
  have hnumber := hJ before e (h before e after rfl) hp
  rw [List.countP_append, List.countP_cons_of_pos hp]
  omega

theorem Orderly.number_inj (hJ : ∀ before e, J before e → p e → f e = before.countP p + 1)
    (h : Orderly J log) {a b : E} (ha : a ∈ log) (hb : b ∈ log) (hpa : p a) (hpb : p b)
    (hnumber : f a = f b) : a = b := by
  induction log using List.reverseRecOn with
  | nil => cases ha
  | append_singleton log e ih =>
    have hlast : p e → f e = log.countP p + 1 := hJ log e h.last
    rw [List.mem_append, List.mem_singleton] at ha hb
    rcases ha with hold | rfl <;> rcases hb with hold' | rfl
    · exact ih h.init hold hold'
    · have := (h.init.number_le hJ hold hpa).2
      have := hlast hpb
      omega
    · have := (h.init.number_le hJ hold' hpb).2
      have := hlast hpa
      omega
    · rfl

end Numbered

theorem eq_of_countP_le_one {p : E → Bool} (h : log.countP p ≤ 1) {a b : E} (ha : a ∈ log)
    (hb : b ∈ log) (hpa : p a) (hpb : p b) : a = b := by
  rw [List.countP_eq_length_filter] at h
  have ha' : a ∈ log.filter p := List.mem_filter.mpr ⟨ha, hpa⟩
  have hb' : b ∈ log.filter p := List.mem_filter.mpr ⟨hb, hpb⟩
  match hfilter : log.filter p with
  | [] =>
    rw [hfilter] at ha'
    cases ha'
  | [c] =>
    rw [hfilter, List.mem_singleton] at ha' hb'
    rw [ha', hb']
  | _ :: _ :: _ =>
    rw [hfilter] at h
    simp at h

/-- `a` occurs, and `b` after it. -/
def Precedes (log : List E) (a b : E) : Prop :=
  ∃ before after, log = before ++ a :: after ∧ b ∈ after

theorem Precedes.append {a b : E} (h : Precedes log a b) (rest : List E) :
    Precedes (log ++ rest) a b := by
  obtain ⟨before, after, rfl, hb⟩ := h
  exact ⟨before, after ++ rest, by simp, List.mem_append_left _ hb⟩

/-- In an orderly history what precedes an entry is among the entries that justify it. -/
theorem Orderly.of_precedes (h : Orderly J log) {a b : E} (hab : Precedes log a b) :
    ∃ before, a ∈ before ∧ J before b := by
  obtain ⟨before, after, rfl, hb⟩ := hab
  obtain ⟨between, rest, rfl⟩ := List.append_of_mem hb
  exact ⟨before ++ a :: between, by simp, h (before ++ a :: between) b rest (by simp)⟩

theorem precedes_snoc {a b : E} (h : a ∈ log) : Precedes (log ++ [b]) a b := by
  obtain ⟨before, after, rfl⟩ := List.append_of_mem h
  exact ⟨before, after ++ [b], by simp, by simp⟩

end History
