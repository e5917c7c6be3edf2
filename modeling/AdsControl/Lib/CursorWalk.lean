import AdsControl.Lib.Attempt
import AdsControl.Lib.Fallible

/-!
# Walks along cursors

A list is read page by page. A page names the cursor of the next one; a cursor that comes again ends the
walk, and so does a page too many.

* `walk`: the loop, with the cursors seen so far; `asks_walk`: what it may ask for;
* `Walk`: its successful runs, page by page; **`runs_walk`**: there are no others;
* **`Walk.invariant`**: what every page keeps holds at the end.
-/

namespace Interaction

open Fallible

variable {C : Type} {A : C → Type} {ε α β σ κ : Type}

namespace Prog

theorem runs_bind_ok {p : Prog C A ε α} {f : α → Prog C A ε β} {trace : List (Sigma A)} {b : β} :
    (p >>= f).Runs trace (.ok b) ↔
      ∃ a first rest, trace = first ++ rest ∧ p.Runs first (.ok a) ∧ (f a).Runs rest (.ok b) := by
  rw [runs_bind]
  constructor
  · rintro (⟨e, -, ⟨⟩⟩ | h)
    exact h
  · exact .inr

theorem runs_pure {a b : α} {trace : List (Sigma A)} :
    (pure a : Prog C A ε α).Runs trace (.ok b) ↔ trace = [] ∧ b = a := by
  show trace = [] ∧ Except.ok b = Except.ok a ↔ _
  rw [Except.ok.injEq]

theorem runs_perform {c : C} {a : A c} {trace : List (Sigma A)} :
    (perform c : Prog C A ε (A c)).Runs trace (.ok a) ↔ trace = [⟨c, a⟩] := by
  constructor
  · rintro ⟨a', rest, rfl, rfl, ha⟩
    cases ha
    rfl
  · rintro rfl
    exact ⟨a, [], rfl, rfl, rfl⟩

end Prog

variable [DecidableEq κ]

/-- At most `n` pages from a cursor on; each changes the state and may name the next cursor. -/
def walk (page : σ → Option κ → Prog C A ε (σ × Option κ)) (repeated exhausted : ε) :
    ℕ → List κ → σ → Option κ → Prog C A ε σ
  | 0, _, _, _ => .fail exhausted
  | n + 1, seen, s, cursor => do
    let read ← page s cursor
    match read.2 with
    | none => return read.1
    | some next => do
      .ofExcept (ensure (next ∉ seen) repeated)
      walk page repeated exhausted n (next :: seen) read.1 (some next)

theorem asks_walk {P : C → Prop} {page : σ → Option κ → Prog C A ε (σ × Option κ)} {repeated exhausted : ε}
    (hpage : ∀ s cursor, (page s cursor).Asks P) (n : ℕ) (seen : List κ) (s : σ) (cursor : Option κ) :
    (walk page repeated exhausted n seen s cursor).Asks P := by
  induction n generalizing seen s cursor with
  | zero => trivial
  | succ n ih =>
    refine (hpage s cursor).bind fun read => ?_
    cases read.2 with
    | none => trivial
    | some next => exact .ofExcept_bind fun _ => ih _ _ _

/-- A successful walk with its trace. -/
inductive Walk (page : σ → Option κ → Prog C A ε (σ × Option κ)) :
    ℕ → List κ → σ → Option κ → List (Sigma A) → σ → Prop
  | last {n : ℕ} {seen : List κ} {s t : σ} {cursor : Option κ} {trace : List (Sigma A)}
      (hpage : (page s cursor).Runs trace (.ok (t, none))) : Walk page (n + 1) seen s cursor trace t
  | next {n : ℕ} {seen : List κ} {s s' t : σ} {cursor : Option κ} {next : κ} {first rest : List (Sigma A)}
      (hpage : (page s cursor).Runs first (.ok (s', some next))) (hnew : next ∉ seen)
      (hrest : Walk page n (next :: seen) s' (some next) rest t) :
      Walk page (n + 1) seen s cursor (first ++ rest) t

variable {page : σ → Option κ → Prog C A ε (σ × Option κ)} {repeated exhausted : ε}

/-- **A successful run of the loop is a walk.** -/
theorem runs_walk {n : ℕ} {seen : List κ} {s t : σ} {cursor : Option κ} {trace : List (Sigma A)} :
    (walk page repeated exhausted n seen s cursor).Runs trace (.ok t) ↔ Walk page n seen s cursor trace t := by
  induction n generalizing seen s cursor trace with
  | zero =>
    refine iff_of_false ?_ (fun h => nomatch h)
    rintro ⟨-, ⟨⟩⟩
  | succ n ih =>
    rw [walk, Prog.runs_bind_ok]
    constructor
    · rintro ⟨⟨s', next⟩, first, rest, rfl, hpage, hrest⟩
      cases next with
      | none =>
        obtain ⟨rfl, rfl⟩ := Prog.runs_pure.mp hrest
        rw [List.append_nil]
        exact .last hpage
      | some next =>
        obtain ⟨_, hnew, hrest⟩ := Prog.runs_ofExcept_bind.mp hrest
        exact .next hpage (ensure_eq_ok.mp hnew) (ih.mp hrest)
    · intro h
      cases h with
      | last hpage => exact ⟨(t, none), trace, [], (List.append_nil _).symm, hpage, rfl, rfl⟩
      | next hpage hnew hrest =>
        exact ⟨_, _, _, rfl, hpage, Prog.runs_ofExcept_bind.mpr ⟨(), ensure_eq_ok.mpr hnew, ih.mpr hrest⟩⟩

omit [DecidableEq κ] in
/-- **What every page keeps**, of the trace so far and the state, holds at the end of a walk. -/
theorem Walk.invariant {P : List (Sigma A) → σ → Prop}
    (hpage : ∀ before s cursor trace s' next, P before s → (page s cursor).Runs trace (.ok (s', next)) →
      P (before ++ trace) s') {n : ℕ} {seen : List κ} {s t : σ} {cursor : Option κ} {trace : List (Sigma A)}
    (h : Walk page n seen s cursor trace t) {before : List (Sigma A)} (hs : P before s) :
    P (before ++ trace) t := by
  induction h generalizing before with
  | last hlast => exact hpage _ _ _ _ _ _ hs hlast
  | next hfirst _ _ ih =>
    rw [← List.append_assoc]
    exact ih (hpage _ _ _ _ _ _ hs hfirst)

end Interaction
