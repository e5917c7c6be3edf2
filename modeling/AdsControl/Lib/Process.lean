import AdsControl.Lib.Attempt

/-!
# Processes that hold something

Workers that hold a part of the shared state for themselves, such as a lock. A worker ends or dies at any
point, and gives back what it held.

* `Process.Step`, `Process.system`: processes start, act and leave;
* **`Process.safe`**: every reachable pool keeps the invariant;
* `wp_reads`: a program that only reads keeps what the others respect;
* `Part.Holds`: what a program does with the part of the state that its worker holds, with rules for every
  constructor.
-/

namespace Interaction

variable {S W C : Type} {A : C → Type} {ε α : Type}

namespace Process

variable [DecidableEq W]

/-- One step: a process starts, performs its next command, or leaves. -/
inductive Step (M : Shared S W C A) (leave : W → S → S) (start : Prog C A ε α → Prop) :
    Pool S W C A ε α → Pool S W C A ε α → Prop
  | spawn {s workers} (w : W) (p : Prog C A ε α) (hw : workers w = none) (hp : start p) :
      Step M leave start ⟨s, workers⟩ ⟨s, Function.update workers w (some p)⟩
  | act {s t workers} (w : W) {c : C} {k : A c → Prog C A ε α} {a : A c}
      (hw : workers w = some (.call c k)) (ha : M.answers w s c a t) :
      Step M leave start ⟨s, workers⟩ ⟨t, Function.update workers w (some (k a))⟩
  | leave {s workers} (w : W) :
      Step M leave start ⟨s, workers⟩ ⟨leave w s, Function.update workers w none⟩

/-- The transition system of processes that starts without any. -/
def system (M : Shared S W C A) (leave : W → S → S) (start : Prog C A ε α → Prop) (init : S → Prop) :
    Transition.System (Pool S W C A ε α) where
  init pool := init pool.shared ∧ ∀ w, pool.workers w = none
  step := Step M leave start

/-- What a system must satisfy for its processes to be safe. -/
structure Sound (M : Shared S W C A) (leave : W → S → S) (start : Prog C A ε α → Prop) : Prop where
  leaves : ∀ w s, M.inv s → M.Allowed w s (leave w s)
  starts : ∀ p, start p → ∀ w s, M.inv s → Safe M w p s

variable {M : Shared S W C A} {leave : W → S → S} {start : Prog C A ε α → Prop} {init : S → Prop}
  {P P' : Pool S W C A ε α}

/-- One step keeps a safe pool safe. -/
theorem step_ok (hM : Sound M leave start) (hP : Pool.Ok M P) (h : Step M leave start P P') :
    Pool.Ok M P' := by
  cases h with
  | spawn w p _ hp =>
    refine ⟨hP.1, Pool.forall_update (fun w' p' _ => hP.2 w' p') fun p' hp' => ?_⟩
    cases hp'
    exact hM.starts p hp w _ hP.1
  | act w hw ha =>
    obtain ⟨⟨hinv, hevolves, hspares⟩, hk⟩ := hP.2 w _ hw _ (M.rely_refl w _) hP.1 _ _ ha
    refine ⟨hinv, Pool.forall_update (fun w' p' hne hw' => ?_) fun p' hp' => ?_⟩
    · exact wp_of_rely (hP.2 w' p' hw') ⟨hevolves, hspares w' hne⟩
    · cases hp'
      exact hk
  | leave w =>
    obtain ⟨hinv, hevolves, hspares⟩ := hM.leaves w _ hP.1
    refine ⟨hinv, Pool.forall_update (fun w' p' hne hw' => ?_) fun p' hp' => ?_⟩
    · exact wp_of_rely (hP.2 w' p' hw') ⟨hevolves, hspares w' hne⟩
    · cases hp'

/-- **Every reachable pool of processes keeps the invariant.** -/
theorem safe (hM : Sound M leave start) (hinit : ∀ s, init s → M.inv s)
    (h : Transition.Reachable (system M leave start init) P) : Pool.Ok M P := by
  refine Transition.Reachable.invariant (P := Pool.Ok M) ?_ (fun P P' hP hstep => step_ok hM hP hstep) h
  intro P hP
  refine ⟨hinit _ hP.1, fun w p hw => ?_⟩
  rw [hP.2 w] at hw
  cases hw

/-- The state after a run against fixed answers. -/
def final (respond : S → (c : C) → A c × S) : Prog C A ε α → S → S
  | .ret _, s => s
  | .fail _, s => s
  | .call c k, s => final respond (k (respond s c).1) (respond s c).2

/-- The end of a run against answers that the system allows is reachable. -/
theorem reachable_final {s : S} {w : W} {workers : W → Option (Prog C A ε α)} {p : Prog C A ε α}
    {respond : S → (c : C) → A c × S} (h : Transition.Reachable (system M leave start init) ⟨s, workers⟩)
    (hw : workers w = some p) (hrespond : ∀ s c, M.answers w s c (respond s c).1 (respond s c).2) :
    ∃ P, Transition.Reachable (system M leave start init) P ∧ P.shared = final respond p s := by
  induction p generalizing s workers with
  | ret a => exact ⟨_, h, rfl⟩
  | fail e => exact ⟨_, h, rfl⟩
  | call c k ih => exact ih _ (h.step (.act w hw (hrespond s c))) (Function.update_self ..)

end Process

section Reads

variable {M : Shared S W C A} {w : W} {s : S} {p : Prog C A ε α} {R : S → Prop} {reads : C → Prop}

/-- **A program that only reads** keeps what the others respect. -/
theorem wp_reads (hp : p.Asks reads) (hreads : ∀ c, reads c → ∀ s a t, M.answers w s c a t → t = s)
    (hR : ∀ s t, M.rely w s t → R s → R t) (hs : R s) : wp M w p (fun _ t => R t) s := by
  induction p generalizing s with
  | ret a => exact fun t hst _ => hR s t hst hs
  | fail e => exact fun t hst _ => hR s t hst hs
  | call c k ih =>
    intro t hst ht a u ha
    obtain rfl := hreads c hp.1 t a u ha
    exact ⟨.refl w ht, ih a (hp.2 a) (hR s u hst hs)⟩

end Reads

/-! ## Holding a part of the state -/

/-- A part of the state that nobody else changes while it is held. -/
structure Part (M : Shared S W C A) (w : W) (X : Type) where
  view : S → X
  held : X → Prop
  kept : ∀ {s t}, M.rely w s t → held (view s) → view t = view s
  ok : X → Prop
  ok_view : ∀ {s}, M.inv s → ok (view s)

namespace Part

variable {M : Shared S W C A} {w : W} {X : Type} {H : Part M w X} {β ε' : Type}
  {p : Prog C A ε α} {f : α → Prog C A ε β} {x : X} {Q R : α → X → Prop} {Q' : β → X → Prop}

/-- From the held part `x` the program takes only allowed steps, keeps the part and returns in `Q`. -/
def Holds (H : Part M w X) (p : Prog C A ε α) (x : X) (Q : α → X → Prop) : Prop :=
  H.held x → ∀ s, H.view s = x →
    wp M w p (fun r t => H.held (H.view t) ∧ ∀ a, r = .ok a → Q a (H.view t)) s

theorem Holds.safe (h : H.Holds p x Q) (hx : H.held x) {s : S} (hs : H.view s = x) : Safe M w p s :=
  wp_mono (h hx s hs) fun _ _ _ => trivial

theorem holds_intro (h : H.held x → H.ok x → H.Holds p x Q) : H.Holds p x Q := by
  intro hx s hs
  refine wp_intro fun t hst ht => ?_
  have hview : H.view t = x := (H.kept hst (hs ▸ hx)).trans hs
  exact h hx (hview ▸ H.ok_view ht) hx t hview

theorem holds_pure {a : α} (h : Q a x) : H.Holds (pure a : Prog C A ε α) x Q := by
  intro hx s hs t hst _
  have hview : H.view t = x := (H.kept hst (hs ▸ hx)).trans hs
  refine ⟨hview ▸ hx, fun b hb => ?_⟩
  cases hb
  rw [hview]
  exact h

theorem holds_fail {e : ε} : H.Holds (.fail e : Prog C A ε α) x Q := by
  intro hx s hs t hst _
  have hview : H.view t = x := (H.kept hst (hs ▸ hx)).trans hs
  refine ⟨hview ▸ hx, fun b hb => ?_⟩
  cases hb

theorem holds_ofExcept {e : Except ε α} (h : ∀ a, e = .ok a → Q a x) :
    H.Holds (.ofExcept e : Prog C A ε α) x Q := by
  cases e with
  | error e => exact holds_fail
  | ok a => exact holds_pure (h a rfl)

theorem Holds.mono (h : H.Holds p x R) (hQ : ∀ a y, R a y → Q a y) : H.Holds p x Q :=
  fun hx s hs => wp_mono (h hx s hs) fun _ _ ht => ⟨ht.1, fun a ha => hQ a _ (ht.2 a ha)⟩

theorem Holds.bind (h : H.Holds p x R) (hf : ∀ a y, R a y → H.Holds (f a) y Q') :
    H.Holds (p >>= f) x Q' := by
  intro hx s hs
  refine wp_bind (wp_mono (h hx s hs) fun r t ht => ?_)
  cases r with
  | error e => exact ⟨ht.1, fun b hb => (by cases hb)⟩
  | ok a => exact hf a _ (ht.2 a rfl) ht.1 t rfl

theorem holds_ofExcept_bind {e : Except ε α} (h : ∀ a, e = .ok a → H.Holds (f a) x Q') :
    H.Holds (Prog.ofExcept e >>= f) x Q' := by
  cases e with
  | error e => exact holds_fail
  | ok a => exact h a rfl

theorem holds_when {condition : Bool} {p : Prog C A ε Unit} {Q : Unit → X → Prop}
    (hp : condition = true → H.Holds p x Q) (hQ : condition = false → Q () x) :
    H.Holds (.when condition p) x Q := by
  cases condition with
  | false => exact holds_pure (hQ rfl)
  | true => exact hp rfl

theorem Holds.attempt (h : H.Holds p x Q) :
    H.Holds (p.attempt : Prog C A ε' (Except ε α)) x fun r y => ∀ a, r = .ok a → Q a y := by
  intro hx s hs
  refine wp_attempt (wp_mono (h hx s hs) fun r t ht => ⟨ht.1, fun r' hr a ha => ?_⟩)
  cases hr
  exact ht.2 a ha

/-- **One command of the worker that holds a part.** -/
theorem holds_perform {c : C} {Q : A c → X → Prop}
    (h : ∀ s a t, M.inv s → H.held (H.view s) → H.view s = x → M.answers w s c a t →
      M.Allowed w s t ∧ H.held (H.view t) ∧ Q a (H.view t)) :
    H.Holds (.perform c : Prog C A ε (A c)) x Q := by
  intro hx s hs t hst ht a u ha
  have hview : H.view t = x := (H.kept hst (hs ▸ hx)).trans hs
  obtain ⟨hallowed, hheld, hQ⟩ := h t a u ht (hview ▸ hx) hview ha
  exact ⟨hallowed, holds_pure hQ hheld u rfl⟩

section Reads

variable {reads : C → Prop}

theorem holds_reads (hp : p.Asks reads) (hreads : ∀ c, reads c → ∀ s a t, M.answers w s c a t → t = s) :
    H.Holds p x fun _ y => y = x := by
  intro hx s hs
  refine wp_mono (wp_reads (R := fun t => H.view t = x) hp hreads (fun t u htu ht => ?_) hs) fun r t ht => ?_
  · exact (H.kept htu (ht ▸ hx)).trans ht
  · exact ⟨ht ▸ hx, fun _ _ => ht⟩

theorem holds_reads_bind (hp : p.Asks reads) (hreads : ∀ c, reads c → ∀ s a t, M.answers w s c a t → t = s)
    (hf : ∀ a, H.Holds (f a) x Q') : H.Holds (p >>= f) x Q' := by
  refine (holds_reads hp hreads).bind fun a y hy => ?_
  rw [hy]
  exact hf a

end Reads

end Part

end Interaction
