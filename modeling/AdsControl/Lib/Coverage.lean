import Mathlib

/-!
# Planning against a coverage

A planner is polled at a sequence of times. At each it wants some keys, emits those that are not
covered yet and covers them.

* `collect`: what is emitted when;
* **`nodup_collect`**, **`mem_collect`**: every wanted key is emitted, and only once.
-/

namespace Coverage

variable {τ κ : Type} [DecidableEq κ]

/-- The wanted keys without a cover. -/
def missing (wanted covered : List κ) : List κ := wanted.filter fun key => key ∉ covered

/-- What a sequence of polls emits, each key with its poll. -/
def collect (wanted : τ → List κ) : List τ → List κ → List (τ × κ)
  | [], _ => []
  | poll :: polls, covered =>
    (missing (wanted poll) covered).map (Prod.mk poll) ++
      collect wanted polls (covered ++ missing (wanted poll) covered)

variable {wanted : τ → List κ} {polls : List τ} {covered : List κ}

theorem mem_missing {keys : List κ} {key : κ} :
    key ∈ missing keys covered ↔ key ∈ keys ∧ key ∉ covered := by
  simp [missing]

omit [DecidableEq κ] in
theorem map_snd_mk (poll : τ) (keys : List κ) : (keys.map (Prod.mk poll)).map Prod.snd = keys := by
  rw [List.map_map]
  exact List.map_id _

theorem wanted_of_mem_collect {poll : τ} {key : κ} (h : (poll, key) ∈ collect wanted polls covered) :
    poll ∈ polls ∧ key ∈ wanted poll := by
  induction polls generalizing covered with
  | nil => cases h
  | cons poll' polls ih =>
    rcases List.mem_append.mp h with h | h
    · obtain ⟨key', hkey', heq⟩ := List.mem_map.mp h
      obtain ⟨rfl, rfl⟩ := Prod.mk.inj heq
      exact ⟨List.mem_cons_self, (mem_missing.mp hkey').1⟩
    · obtain ⟨hpoll, hkey⟩ := ih h
      exact ⟨List.mem_cons_of_mem _ hpoll, hkey⟩

/-- **The emitted keys are the wanted ones without a cover at the start.** -/
theorem mem_collect {key : κ} : key ∈ (collect wanted polls covered).map Prod.snd ↔
    key ∉ covered ∧ ∃ poll ∈ polls, key ∈ wanted poll := by
  induction polls generalizing covered with
  | nil => simp [collect]
  | cons poll polls ih =>
    rw [collect, List.map_append, List.mem_append, map_snd_mk, ih, List.mem_append, not_or,
      mem_missing]
    by_cases hcovered : key ∈ covered
    · simp [hcovered]
    · by_cases hwanted : key ∈ wanted poll
      · simp [hcovered, hwanted]
      · simp [hcovered, hwanted]

/-- **No key is emitted twice.** -/
theorem nodup_collect (hwanted : ∀ poll ∈ polls, (wanted poll).Nodup) :
    ((collect wanted polls covered).map Prod.snd).Nodup := by
  induction polls generalizing covered with
  | nil => exact List.nodup_nil
  | cons poll polls ih =>
    rw [List.forall_mem_cons] at hwanted
    rw [collect, List.map_append, map_snd_mk]
    refine List.nodup_append.mpr ⟨hwanted.1.filter _, ih hwanted.2, ?_⟩
    rintro key hkey _ hlater rfl
    exact (mem_collect.mp hlater).1 (List.mem_append_right _ hkey)

end Coverage
