import Mathlib

/-!
# Sliding windows

A log of events, newest first; every event has an instant, a weight and a limit of its own. An event
is admitted when the weight of the events since a width ago leaves room for it, and when the newest of
them is a gap away. Admission is checked at the instants of the events only.

* `Logged`: every event satisfies a condition on the events before it;
* **`total_window_le`**: every window `(t - width, t]` then stays within the limit;
* **`gap_of_last`**: a look at the newest recent event is enough to keep a gap to all of them.
-/

namespace SlidingWindow

variable {α T : Type} [AddCommGroup T] [LinearOrder T] {instant : α → T} {weight limit : α → ℕ}
  {width : T} {log : List α}

/-- The events after an instant. -/
def recent (instant : α → T) (since : T) (log : List α) : List α := log.filter (since < instant ·)

/-- The events in the half-open window of a width that ends at `t`. -/
def window (instant : α → T) (width t : T) (log : List α) : List α :=
  log.filter fun a => t - width < instant a ∧ instant a ≤ t

/-- The weight of a list of events. -/
def total (weight : α → ℕ) (log : List α) : ℕ := (log.map weight).sum

/-- Every event of the log satisfies `p` with the older ones. -/
def Logged (p : α → List α → Prop) : List α → Prop
  | [] => True
  | a :: older => p a older ∧ Logged p older

theorem Logged.mono {p q : α → List α → Prop} :
    ∀ {log : List α}, (∀ a ∈ log, ∀ older, p a older → q a older) → Logged p log → Logged q log
  | [], _, _ => trivial
  | a :: _, hpq, ⟨ha, holder⟩ => ⟨hpq a List.mem_cons_self _ ha,
      holder.mono fun b hb => hpq b (List.mem_cons_of_mem a hb)⟩

theorem Logged.pairwise {R : α → α → Prop} :
    ∀ {log : List α}, Logged (fun a older => ∀ b ∈ older, R a b) log → log.Pairwise R
  | [], _ => .nil
  | _ :: _, ⟨ha, holder⟩ => .cons ha holder.pairwise

/-- The events since a width ago leave room for `a`. -/
def Fits (instant : α → T) (weight limit : α → ℕ) (width : T) (a : α) (older : List α) : Prop :=
  total weight (recent instant (instant a - width) older) + weight a ≤ limit a

theorem total_le_of_sublist {l l' : List α} (h : List.Sublist l l') : total weight l ≤ total weight l' :=
  (h.map weight).sum_le_sum fun _ _ => Nat.zero_le _

theorem total_one (log : List α) : total (fun _ => 1) log = log.length := by
  simp [total]

omit [AddCommGroup T] in
theorem recent_recent {since later : T} (h : since ≤ later) (log : List α) :
    recent instant later (recent instant since log) = recent instant later log := by
  unfold recent
  rw [List.filter_filter]
  refine List.filter_congr fun a _ => ?_
  rw [← Bool.decide_and]
  exact decide_eq_decide.mpr ⟨fun ha => ha.1, fun ha => ⟨ha, h.trans_lt ha⟩⟩

theorem total_window_reverse (log : List α) (t : T) :
    total weight (window instant width t log.reverse) = total weight (window instant width t log) :=
  (((List.reverse_perm log).filter _).map weight).sum_eq

theorem total_window_map {β : Type} (f : β → α) (log : List β) (t : T) :
    total weight (window instant width t (log.map f)) =
      total (weight ∘ f) (window (instant ∘ f) width t log) := by
  simp only [total, window, List.filter_map, List.map_map]
  rfl

variable [IsOrderedAddMonoid T]

/-- **What fits at the instants of the events fits in every window.** -/
theorem total_window_le {bound : ℕ} (hlog : Logged (Fits instant weight limit width) log)
    (hbound : ∀ a ∈ log, limit a ≤ bound) (t : T) : total weight (window instant width t log) ≤ bound := by
  induction log with
  | nil => exact Nat.zero_le _
  | cons a older ih =>
    obtain ⟨ha, holder⟩ := hlog
    by_cases hin : t - width < instant a ∧ instant a ≤ t
    · have hsub : List.Sublist (window instant width t older)
          (recent instant (instant a - width) older) := by
        refine List.monotone_filter_right older fun b hb => ?_
        have hafter := (of_decide_eq_true hb).1
        exact decide_eq_true ((sub_le_sub_right hin.2 width).trans_lt hafter)
      have hhead : window instant width t (a :: older) = a :: window instant width t older :=
        List.filter_cons_of_pos (decide_eq_true hin)
      calc total weight (window instant width t (a :: older))
          = weight a + total weight (window instant width t older) := by rw [hhead]; rfl
        _ ≤ weight a + total weight (recent instant (instant a - width) older) :=
          Nat.add_le_add_left (total_le_of_sublist hsub) _
        _ ≤ limit a := by rw [Nat.add_comm]; exact ha
        _ ≤ bound := hbound a List.mem_cons_self
    · have hskip : window instant width t (a :: older) = window instant width t older :=
        List.filter_cons_of_neg (by simpa using hin)
      rw [hskip]
      exact ih holder fun b hb => hbound b (List.mem_cons_of_mem _ hb)

/-- **A gap to the recent events is a gap to all of them** when the look back is as long as the gap. -/
theorem gap_of_recent {now gap lookback : T} (hgap : gap ≤ lookback)
    (h : ∀ b ∈ recent instant (now - lookback) log, instant b + gap ≤ now) :
    ∀ b ∈ log, instant b + gap ≤ now := by
  intro b hb
  by_cases hrecent : now - lookback < instant b
  · exact h b (List.mem_filter.mpr ⟨hb, decide_eq_true hrecent⟩)
  · calc instant b + gap ≤ now - lookback + lookback := add_le_add (not_lt.mp hrecent) hgap
      _ = now := sub_add_cancel now lookback

/-- A gap to the newest recent event is a gap to all of them. -/
theorem gap_of_last {now gap lookback : T} (hgap : gap ≤ lookback)
    (h : ((recent instant (now - lookback) log).map instant).max?.all (· + gap ≤ now)) :
    ∀ b ∈ log, instant b + gap ≤ now := by
  refine gap_of_recent hgap fun b hb => ?_
  cases hlast : ((recent instant (now - lookback) log).map instant).max? with
  | none =>
    rw [List.max?_eq_none_iff, List.map_eq_nil_iff] at hlast
    rw [hlast] at hb
    cases hb
  | some last =>
    rw [hlast] at h
    have hle := (List.max?_le_iff hlast).mp le_rfl (instant b) (List.mem_map_of_mem hb)
    exact (add_le_add_left hle gap).trans (of_decide_eq_true h)

end SlidingWindow
