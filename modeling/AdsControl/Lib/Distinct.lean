import AdsControl.Lib.Fallible

/-!
# Loops over distinct entries

A loop that checks every entry, refuses a key it has seen before and then takes a step of its own.

* `visit`: the loop for keys without an order, its checks before and after the test of the key;
* **`visit_eq_ok`**: it accepts exactly lists of checked entries with distinct keys;
* `scanStep`, `scan`: the loop with the keys seen so far;
* **`scan_of_distinct`**: over checked entries with distinct keys it is the loop of its steps;
* **`distinct_of_scan`**: it accepts no others.
-/

namespace Distinct

open Fallible Std

section Visit

variable {ε α κ : Type} [DecidableEq κ]

/-- The keys in `seen` belong to entries that were visited before. -/
def visit (check : α → Except ε Unit) (key : α → κ) (duplicate : ε) (rest : α → Except ε Unit) :
    List κ → List α → Except ε Unit
  | _, [] => .ok ()
  | seen, a :: l => do
    check a
    ensure (key a ∉ seen) duplicate
    rest a
    visit check key duplicate rest (key a :: seen) l

variable {check rest : α → Except ε Unit} {key : α → κ} {duplicate : ε}

/-- **Exactly checked entries with distinct keys that were not seen before are accepted.** -/
theorem visit_eq_ok {seen : List κ} {l : List α} : visit check key duplicate rest seen l = .ok () ↔
    (∀ a ∈ l, check a = .ok () ∧ rest a = .ok ()) ∧ (l.map key).Nodup ∧ ∀ a ∈ l, key a ∉ seen := by
  induction l generalizing seen with
  | nil => simp [visit]
  | cons a l ih =>
    rw [visit, List.forall_mem_cons, List.forall_mem_cons, List.map_cons, List.nodup_cons]
    simp only [ok_of_bind, ensure_eq_ok, exists_const, ih, List.mem_cons, not_or]
    constructor
    · rintro ⟨⟨⟩, hcheck, hnew, ⟨⟩, hrest, hall, hdistinct, hseen⟩
      refine ⟨⟨⟨hcheck, hrest⟩, hall⟩, ⟨fun hmem => ?_, hdistinct⟩, hnew, fun b hb => (hseen b hb).2⟩
      obtain ⟨b, hb, hkey⟩ := List.mem_map.mp hmem
      exact (hseen b hb).1 hkey
    · rintro ⟨⟨⟨hcheck, hrest⟩, hall⟩, ⟨hother, hdistinct⟩, hnew, hseen⟩
      refine ⟨(), hcheck, hnew, (), hrest, hall, hdistinct, fun b hb => ⟨fun hkey => ?_, hseen b hb⟩⟩
      rw [← hkey] at hother
      exact hother (List.mem_map_of_mem hb)

omit [DecidableEq κ] in
/-- An entry is found by its key. -/
theorem find?_of_distinct {l : List α} (hdistinct : (l.map key).Nodup) {a : α} (ha : a ∈ l)
    {p : α → Bool} (hp : ∀ b, p b = true ↔ key b = key a) : l.find? p = some a := by
  obtain ⟨found, hfound⟩ := Option.isSome_iff_exists.mp (List.find?_isSome.mpr ⟨a, ha, (hp a).mpr rfl⟩)
  have hkey := (hp found).mp (List.find?_some hfound)
  rw [hfound, List.inj_on_of_nodup_map hdistinct (List.mem_of_find?_eq_some hfound) ha hkey]

end Visit

variable {ε α κ σ : Type} [Ord κ] [TransOrd κ] [LawfulEqOrd κ]

/-- The keys seen so far and the state of the steps. -/
structure Scan (κ σ : Type) [Ord κ] where
  seen : ExtTreeSet κ
  state : σ

variable (check : α → Except ε Unit) (key : α → κ) (duplicate : ε) (step : σ → α → Except ε σ)

/-- Check an entry, refuse a repeated key, and go on. -/
def scanStep (progress : Scan κ σ) (a : α) : Except ε (Scan κ σ) := do
  check a
  ensure (key a ∉ progress.seen) duplicate
  let state ← step progress.state a
  return ⟨progress.seen.insert (key a), state⟩

/-- Check all entries and their keys one by one. -/
def scan (init : σ) (l : List α) : Except ε σ := do
  let progress ← l.foldlM (scanStep check key duplicate step) ⟨∅, init⟩
  return progress.state

variable {check key duplicate step} {init s : σ} {l : List α}

theorem state_foldlM_scanStep (hcheck : ∀ a ∈ l, check a = .ok ()) (hdistinct : (l.map key).Nodup)
    (progress : Scan κ σ) (hnew : ∀ a ∈ l, key a ∉ progress.seen) :
    (l.foldlM (scanStep check key duplicate step) progress).map Scan.state =
      l.foldlM step progress.state := by
  induction l generalizing progress with
  | nil => rfl
  | cons a l ih =>
    rw [List.map_cons, List.nodup_cons] at hdistinct
    have hstep : scanStep check key duplicate step progress a =
        (step progress.state a).map fun state => ⟨progress.seen.insert (key a), state⟩ := by
      rw [scanStep, hcheck a List.mem_cons_self, ensure, if_pos (hnew a List.mem_cons_self)]
      rfl
    rw [List.foldlM_cons, List.foldlM_cons, hstep]
    cases step progress.state a with
    | error e => rfl
    | ok state =>
      refine ih (fun b hb => hcheck b (List.mem_cons_of_mem _ hb)) hdistinct.2
        ⟨progress.seen.insert (key a), state⟩ fun b hb => ?_
      rw [ExtTreeSet.mem_insert, LawfulEqOrd.compare_eq_iff_eq, not_or]
      refine ⟨fun heq => hdistinct.1 ?_, hnew b (List.mem_cons_of_mem _ hb)⟩
      rw [heq]
      exact List.mem_map_of_mem hb

/-- **Over checked entries with distinct keys only the steps can fail.** -/
theorem scan_of_distinct (hcheck : ∀ a ∈ l, check a = .ok ()) (hdistinct : (l.map key).Nodup) :
    scan check key duplicate step init l = l.foldlM step init := by
  have hstate : (l.foldlM (scanStep check key duplicate step) ⟨∅, init⟩).map Scan.state =
      l.foldlM step init := state_foldlM_scanStep hcheck hdistinct ⟨∅, init⟩ (by simp)
  rw [← hstate, scan]
  cases l.foldlM (scanStep check key duplicate step) ⟨∅, init⟩ <;> rfl

/-- **Accepted entries are checked and have distinct keys.** -/
theorem distinct_of_scan (h : scan check key duplicate step init l = .ok s) :
    (∀ a ∈ l, check a = .ok ()) ∧ (l.map key).Nodup := by
  obtain ⟨progress, hfold, -⟩ := ok_of_bind.mp h
  have hinv := foldlM_invariant (P := fun done (progress : Scan κ σ) =>
    (∀ k, k ∈ progress.seen ↔ k ∈ done.map key) ∧ (∀ a ∈ done, check a = .ok ()) ∧ (done.map key).Nodup)
    ?_ ?_ hfold
  · exact hinv.2
  · exact ⟨by simp, by simp, by simp⟩
  · rintro done progress a progress' ⟨hseen, hcheck, hdistinct⟩ hstep
    simp only [scanStep, ok_of_bind, ok_of_pure, ensure_eq_ok] at hstep
    obtain ⟨⟨⟩, ha, ⟨⟩, hnew, state, -, rfl⟩ := hstep
    rw [hseen] at hnew
    refine ⟨fun k => ?_, fun b hb => ?_, ?_⟩
    · rw [ExtTreeSet.mem_insert, LawfulEqOrd.compare_eq_iff_eq, hseen, List.map_append, List.mem_append,
        List.map_singleton, List.mem_singleton, or_comm, eq_comm]
    · rcases List.mem_append.mp hb with hb | hb
      · exact hcheck b hb
      · rw [List.mem_singleton.mp hb, ha]
    · rw [List.map_append, List.map_singleton, List.nodup_append]
      refine ⟨hdistinct, List.nodup_singleton _, ?_⟩
      rintro k hk _ hlast rfl
      rw [List.mem_singleton.mp hlast] at hk
      exact hnew hk

/-- What an accepted loop has checked and computed. -/
theorem scan_eq_ok : scan check key duplicate step init l = .ok s ↔
    (∀ a ∈ l, check a = .ok ()) ∧ (l.map key).Nodup ∧ l.foldlM step init = .ok s := by
  constructor
  · intro h
    obtain ⟨hcheck, hdistinct⟩ := distinct_of_scan h
    rw [scan_of_distinct hcheck hdistinct] at h
    exact ⟨hcheck, hdistinct, h⟩
  · rintro ⟨hcheck, hdistinct, h⟩
    rw [scan_of_distinct hcheck hdistinct]
    exact h

omit [LawfulEqOrd κ] in
theorem error_of_scan {e : ε} (h : scan check key duplicate step init l = .error e) :
    (∃ a ∈ l, check a = .error e) ∨ e = duplicate ∨ ∃ s, ∃ a ∈ l, step s a = .error e := by
  obtain h | ⟨_, -, ⟨⟩⟩ := bind_eq_error.mp h
  obtain ⟨progress, a, ha, h⟩ := error_of_foldlM h
  obtain h | ⟨-, -, h⟩ := bind_eq_error.mp h
  · exact .inl ⟨a, ha, h⟩
  obtain h | ⟨-, -, h⟩ := bind_eq_error.mp h
  · exact .inr (.inl (ensure_eq_error.mp h).2.symm)
  obtain h | ⟨_, -, ⟨⟩⟩ := bind_eq_error.mp h
  exact .inr (.inr ⟨progress.state, a, ha, h⟩)

end Distinct
