import AdsControl.Lib.Run

/-!
# Interaction programs

A program performs commands and continues with their answers. The same program is run in two ways:
alone, against arbitrary answers (`Runs`), and as one of many workers over a shared state, where
between any two commands the others may act (`wp`, `Pool`).

* `Prog`: programs with commands and failures, a monad;
* `Runs`: the complete runs of a program with the commands and answers they exchange;
* `wp`: weakest preconditions under a rely relation, with rules for every constructor;
* **`Pool.safe`**: workers whose programs are safe keep the invariant in every reachable pool.
-/

namespace Interaction

variable {C : Type} {A : C → Type} {ε ε' α β : Type}

/-- A program over commands `C` with answers `A`: it returns, fails, or performs a command. -/
inductive Prog (C : Type) (A : C → Type) (ε α : Type) : Type
  | ret (a : α)
  | fail (e : ε)
  | call (c : C) (k : A c → Prog C A ε α)

namespace Prog

/-- One program after another. -/
def bind : Prog C A ε α → (α → Prog C A ε β) → Prog C A ε β
  | ret a, f => f a
  | fail e, _ => fail e
  | call c k, f => call c fun a => (k a).bind f

instance : Monad (Prog C A ε) where
  pure := ret
  bind := bind

/-- Perform one command and return its answer. -/
def perform (c : C) : Prog C A ε (A c) := call c ret

/-- A result as a program. -/
def ofExcept : Except ε α → Prog C A ε α
  | .ok a => ret a
  | .error e => fail e

/-- Run a program and return its result instead of failing. -/
def attempt : Prog C A ε α → Prog C A ε' (Except ε α)
  | ret a => ret (.ok a)
  | fail e => ret (.error e)
  | call c k => call c fun a => (k a).attempt

/-! ## Runs alone -/

/-- The complete runs of a program: the commands with their answers, and the result. -/
def Runs : Prog C A ε α → List (Sigma A) → Except ε α → Prop
  | ret a, trace, result => trace = [] ∧ result = .ok a
  | fail e, trace, result => trace = [] ∧ result = .error e
  | call c k, trace, result => ∃ a rest, trace = ⟨c, a⟩ :: rest ∧ (k a).Runs rest result

theorem runs_ofExcept {x : Except ε α} {trace : List (Sigma A)} {result : Except ε α} :
    (ofExcept x : Prog C A ε α).Runs trace result ↔ trace = [] ∧ result = x := by
  cases x <;> exact Iff.rfl

theorem runs_ofExcept_bind {x : Except ε α} {f : α → Prog C A ε β} {trace : List (Sigma A)} {b : β} :
    ((ofExcept x : Prog C A ε α) >>= f).Runs trace (.ok b) ↔
      ∃ a, x = .ok a ∧ (f a).Runs trace (.ok b) := by
  cases x with
  | error e =>
    constructor
    · rintro ⟨-, h⟩
      cases h
    · rintro ⟨a, ha, -⟩
      cases ha
  | ok a =>
    constructor
    · intro h
      exact ⟨a, rfl, h⟩
    · rintro ⟨a', ha, h⟩
      cases ha
      exact h

theorem runs_bind {p : Prog C A ε α} {f : α → Prog C A ε β} {trace : List (Sigma A)}
    {result : Except ε β} : (p >>= f).Runs trace result ↔
      (∃ e, p.Runs trace (.error e) ∧ result = .error e) ∨
        ∃ a first rest, trace = first ++ rest ∧ p.Runs first (.ok a) ∧ (f a).Runs rest result := by
  induction p generalizing trace with
  | ret a =>
    constructor
    · intro h
      exact .inr ⟨a, [], trace, rfl, ⟨rfl, rfl⟩, h⟩
    · rintro (⟨e, ⟨-, he⟩, -⟩ | ⟨a', first, rest, rfl, ⟨rfl, ha⟩, h⟩)
      · cases he
      · cases ha
        exact h
  | fail e =>
    constructor
    · rintro ⟨rfl, rfl⟩
      exact .inl ⟨e, ⟨rfl, rfl⟩, rfl⟩
    · rintro (⟨e', ⟨rfl, he⟩, rfl⟩ | ⟨a, first, rest, -, ⟨-, ha⟩, -⟩)
      · cases he
        exact ⟨rfl, rfl⟩
      · cases ha
  | call c k ih =>
    constructor
    · rintro ⟨a, rest, rfl, h⟩
      rcases (ih a).mp h with ⟨e, hrun, rfl⟩ | ⟨b, first, rest, rfl, hrun, h⟩
      · exact .inl ⟨e, ⟨a, rest, rfl, hrun⟩, rfl⟩
      · exact .inr ⟨b, ⟨c, a⟩ :: first, rest, rfl, ⟨a, first, rfl, hrun⟩, h⟩
    · rintro (⟨e, ⟨a, rest, rfl, hrun⟩, rfl⟩ | ⟨b, first, rest, rfl, ⟨a, tail, rfl, hrun⟩, h⟩)
      · exact ⟨a, rest, rfl, (ih a).mpr (.inl ⟨e, hrun, rfl⟩)⟩
      · exact ⟨a, tail ++ rest, rfl, (ih a).mpr (.inr ⟨b, tail, rest, rfl, hrun, h⟩)⟩

theorem runs_attempt {p : Prog C A ε α} {trace : List (Sigma A)}
    {result : Except ε' (Except ε α)} :
    (p.attempt : Prog C A ε' (Except ε α)).Runs trace result ↔
      ∃ r, p.Runs trace r ∧ result = .ok r := by
  induction p generalizing trace with
  | ret a =>
    constructor
    · rintro ⟨rfl, rfl⟩
      exact ⟨.ok a, ⟨rfl, rfl⟩, rfl⟩
    · rintro ⟨r, ⟨rfl, rfl⟩, rfl⟩
      exact ⟨rfl, rfl⟩
  | fail e =>
    constructor
    · rintro ⟨rfl, rfl⟩
      exact ⟨.error e, ⟨rfl, rfl⟩, rfl⟩
    · rintro ⟨r, ⟨rfl, rfl⟩, rfl⟩
      exact ⟨rfl, rfl⟩
  | call c k ih =>
    constructor
    · rintro ⟨a, rest, rfl, h⟩
      obtain ⟨r, hr, rfl⟩ := (ih a).mp h
      exact ⟨r, ⟨a, rest, rfl, hr⟩, rfl⟩
    · rintro ⟨r, ⟨a, rest, rfl, hr⟩, rfl⟩
      exact ⟨a, rest, rfl, (ih a).mpr ⟨r, hr, rfl⟩⟩

end Prog

/-! ## Weakest preconditions over a shared state -/

/-- How the commands of the workers act on a shared state, and what holds of it: an invariant, a
relation `evolves` that every step respects, and for each worker a relation `spares` that the steps
of the others respect. -/
structure Shared (S W C : Type) (A : C → Type) where
  answers : W → S → (c : C) → A c → S → Prop
  inv : S → Prop
  evolves : S → S → Prop
  spares : W → S → S → Prop
  evolves_refl : ∀ s, evolves s s
  evolves_trans : ∀ {s t u}, evolves s t → evolves t u → evolves s u
  spares_refl : ∀ w s, spares w s s
  spares_trans : ∀ {w s t u}, evolves s t → evolves t u → spares w s t → spares w t u → spares w s u

variable {S W : Type}

/-- What a worker may rely on between two of its commands. -/
def Shared.rely (M : Shared S W C A) (w : W) (s t : S) : Prop := M.evolves s t ∧ M.spares w s t

theorem Shared.rely_refl (M : Shared S W C A) (w : W) (s : S) : M.rely w s s :=
  ⟨M.evolves_refl s, M.spares_refl w s⟩

theorem Shared.rely_trans {M : Shared S W C A} {w : W} {s t u : S} (h : M.rely w s t)
    (h' : M.rely w t u) : M.rely w s u :=
  ⟨M.evolves_trans h.1 h'.1, M.spares_trans h.1 h'.1 h.2 h'.2⟩

/-- A step of worker `w` that the system allows. -/
def Shared.Allowed (M : Shared S W C A) (w : W) (s t : S) : Prop :=
  M.inv t ∧ M.evolves s t ∧ ∀ w', w' ≠ w → M.spares w' s t

theorem Shared.Allowed.refl {M : Shared S W C A} {s : S} (w : W) (hs : M.inv s) : M.Allowed w s s :=
  ⟨hs, M.evolves_refl s, fun w' _ => M.spares_refl w' s⟩

theorem Shared.Allowed.trans {M : Shared S W C A} {w : W} {s t u : S} (h : M.Allowed w s t)
    (h' : M.Allowed w t u) : M.Allowed w s u :=
  ⟨h'.1, M.evolves_trans h.2.1 h'.2.1,
    fun w' hne => M.spares_trans h.2.1 h'.2.1 (h.2.2 w' hne) (h'.2.2 w' hne)⟩

/-- From state `s` the program of worker `w` takes only allowed steps and ends in `Q`, whatever the
others do in between. -/
def wp (M : Shared S W C A) (w : W) : Prog C A ε α → (Except ε α → S → Prop) → S → Prop
  | .ret a, Q, s => ∀ t, M.rely w s t → M.inv t → Q (.ok a) t
  | .fail e, Q, s => ∀ t, M.rely w s t → M.inv t → Q (.error e) t
  | .call c k, Q, s => ∀ t, M.rely w s t → M.inv t → ∀ a u, M.answers w t c a u →
      M.Allowed w t u ∧ wp M w (k a) Q u

/-- The program takes only allowed steps. -/
def Safe (M : Shared S W C A) (w : W) (p : Prog C A ε α) (s : S) : Prop :=
  wp M w p (fun _ _ => True) s

variable {M : Shared S W C A} {w : W} {Q Q' : Except ε α → S → Prop} {s t : S}

theorem wp_of_rely {p : Prog C A ε α} (h : wp M w p Q s) (hst : M.rely w s t) : wp M w p Q t := by
  cases p <;> exact fun u htu => h u (M.rely_trans hst htu)

theorem wp_intro {p : Prog C A ε α} (h : ∀ t, M.rely w s t → M.inv t → wp M w p Q t) :
    wp M w p Q s := by
  cases p <;> exact fun u hsu hu => h u hsu hu u (M.rely_refl w u) hu

theorem wp_mono {p : Prog C A ε α} (h : wp M w p Q s) (hQ : ∀ r t, Q r t → Q' r t) :
    wp M w p Q' s := by
  induction p generalizing s with
  | ret a => exact fun t hst ht => hQ _ _ (h t hst ht)
  | fail e => exact fun t hst ht => hQ _ _ (h t hst ht)
  | call c k ih =>
    intro t hst ht a u ha
    obtain ⟨hallowed, hk⟩ := h t hst ht a u ha
    exact ⟨hallowed, ih a hk⟩

theorem wp_bind {p : Prog C A ε α} {f : α → Prog C A ε β} {R : Except ε β → S → Prop}
    (h : wp M w p (fun r t => match r with
      | .ok a => wp M w (f a) R t
      | .error e => R (.error e) t) s) : wp M w (p >>= f) R s := by
  induction p generalizing s with
  | ret a => exact wp_intro h
  | fail e => exact h
  | call c k ih =>
    intro t hst ht a u ha
    obtain ⟨hallowed, hk⟩ := h t hst ht a u ha
    exact ⟨hallowed, ih a hk⟩

theorem wp_attempt {p : Prog C A ε α} {R : Except ε' (Except ε α) → S → Prop}
    (h : wp M w p (fun r t => R (.ok r) t) s) : wp M w p.attempt R s := by
  induction p generalizing s with
  | ret a => exact h
  | fail e => exact h
  | call c k ih =>
    intro t hst ht a u ha
    obtain ⟨hallowed, hk⟩ := h t hst ht a u ha
    exact ⟨hallowed, ih a hk⟩

/-- A property of states that evolution keeps holds after a safe program. -/
theorem wp_invariant {p : Prog C A ε α} {R : S → Prop} (h : Safe M w p s) (hs : R s)
    (hR : ∀ t u, R t → M.evolves t u → R u) : wp M w p (fun r t => ∀ a, r = .ok a → R t) s := by
  induction p generalizing s with
  | ret a => exact fun t hst _ _ _ => hR s t hs hst.1
  | fail e => exact fun t hst _ _ _ => hR s t hs hst.1
  | call c k ih =>
    intro t hst ht a u ha
    obtain ⟨hallowed, hk⟩ := h t hst ht a u ha
    exact ⟨hallowed, ih a hk (hR t u (hR s t hs hst.1) hallowed.2.1)⟩

/-- A sequence is safe when its first part is and the rest is after every result. -/
theorem safe_bind {p : Prog C A ε α} {f : α → Prog C A ε β} {R : α → S → Prop}
    (h : wp M w p (fun r t => ∀ a, r = .ok a → R a t) s)
    (hf : ∀ a t, M.inv t → R a t → Safe M w (f a) t) : Safe M w (p >>= f) s := by
  refine wp_bind ?_
  induction p generalizing s with
  | ret a => exact fun t hst ht => hf a t ht (h t hst ht a rfl)
  | fail e => exact fun _ _ _ => trivial
  | call c k ih =>
    intro t hst ht a u ha
    obtain ⟨hallowed, hk⟩ := h t hst ht a u ha
    exact ⟨hallowed, ih a hk⟩

theorem safe_seq {p : Prog C A ε α} {f : α → Prog C A ε β} (h : Safe M w p s)
    (hf : ∀ a t, M.inv t → Safe M w (f a) t) : Safe M w (p >>= f) s :=
  safe_bind (R := fun _ _ => True) (wp_mono h fun _ _ _ _ _ => trivial) fun a t ht _ => hf a t ht

theorem safe_attempt {p : Prog C A ε α} (h : Safe M w p s) :
    Safe M w (p.attempt : Prog C A ε' (Except ε α)) s := wp_attempt h

theorem safe_ofExcept (x : Except ε α) : Safe M w (Prog.ofExcept x) s := by
  cases x <;> exact fun _ _ _ => trivial

theorem safe_ofExcept_bind {x : Except ε α} {f : α → Prog C A ε β}
    (h : ∀ a, x = .ok a → Safe M w (f a) s) : Safe M w (Prog.ofExcept x >>= f) s := by
  cases x with
  | error e => exact fun _ _ _ => trivial
  | ok a => exact h a rfl

/-! ## One worker alone -/

/-- A single worker that nobody interrupts. -/
def Shared.alone (answers : S → (c : C) → A c → S → Prop) (inv : S → Prop) (evolves : S → S → Prop)
    (hrefl : ∀ s, evolves s s) (htrans : ∀ s t u, evolves s t → evolves t u → evolves s u) :
    Shared S Unit C A where
  answers _ := answers
  inv := inv
  evolves := evolves
  spares _ s t := s = t
  evolves_refl := hrefl
  evolves_trans := htrans _ _ _
  spares_refl _ _ := rfl
  spares_trans _ _ h h' := h.trans h'

section Alone

variable {answers : S → (c : C) → A c → S → Prop} {inv : S → Prop} {evolves : S → S → Prop}
  {hrefl : ∀ s, evolves s s} {htrans : ∀ s t u, evolves s t → evolves t u → evolves s u}

theorem wp_alone_bind {c : C} {f : A c → Prog C A ε α}
    (h : inv s → ∀ a t, answers s c a t → inv t ∧ evolves s t ∧
      wp (Shared.alone answers inv evolves hrefl htrans) () (f a) Q t) :
    wp (Shared.alone answers inv evolves hrefl htrans) () (Prog.perform c >>= f) Q s := by
  rintro t ⟨-, hst⟩ ht a u ha
  cases hst
  obtain ⟨hu, hevolves, hf⟩ := h ht a u ha
  exact ⟨⟨hu, hevolves, fun w' hne => absurd rfl hne⟩, hf⟩

theorem wp_alone_pure {a : α} (h : Q (.ok a) s) :
    wp (Shared.alone answers inv evolves hrefl htrans) () (pure a : Prog C A ε α) Q s := by
  rintro t ⟨-, hst⟩ -
  cases hst
  exact h

theorem wp_alone_ofExcept {x : Except ε α} (h : Q x s) :
    wp (Shared.alone answers inv evolves hrefl htrans) () (Prog.ofExcept x : Prog C A ε α) Q s := by
  cases x with
  | error e =>
    rintro t ⟨-, hst⟩ -
    cases hst
    exact h
  | ok a => exact wp_alone_pure h

end Alone

/-! ## Transactions -/

/-- A transaction at some instant: acknowledged, committed without an acknowledgement, or without
effect. -/
inductive Transaction {D T : Type} (op : T → Except ε (D × α)) (commit : D → S) (s : S) :
    Except ε α → S → Prop
  | acknowledged (now : T) {d : D} {a : α} (h : op now = .ok (d, a)) :
      Transaction op commit s (.ok a) (commit d)
  | unacknowledged (now : T) {d : D} {a : α} (h : op now = .ok (d, a)) (e : ε) :
      Transaction op commit s (.error e) (commit d)
  | failed (e : ε) : Transaction op commit s (.error e) s

namespace Transaction

variable {D T : Type} {op : T → Except ε (D × α)} {commit : D → S} {answer : Except ε α}

/-- What holds without effect and after every commit holds after the transaction. -/
theorem elim {P : S → Prop} (h : Transaction op commit s answer t) (hs : P s)
    (hop : ∀ now d a, op now = .ok (d, a) → P (commit d)) : P t := by
  cases h with
  | acknowledged now h => exact hop now _ _ h
  | unacknowledged now h => exact hop now _ _ h
  | failed => exact hs

theorem ok {a : α} (h : Transaction op commit s (.ok a) t) :
    ∃ now d, op now = .ok (d, a) ∧ t = commit d := by
  cases h with
  | acknowledged now h => exact ⟨now, _, h, rfl⟩

end Transaction

/-! ## Possible runs -/

/-- Some complete run of the program, with no other worker in between, ends in a state of `R`. -/
def May (M : Shared S W C A) (w : W) : Prog C A ε α → (S → Prop) → S → Prop
  | .ret _, R, s => R s
  | .fail _, R, s => R s
  | .call c k, R, s => ∃ a t, M.answers w s c a t ∧ May M w (k a) R t

/-! ## Pools of workers -/

/-- A shared state with the programs of the running workers. -/
structure Pool (S W C : Type) (A : C → Type) (ε α : Type) where
  shared : S
  workers : W → Option (Prog C A ε α)

namespace Pool

variable [DecidableEq W]

/-- One step of a pool: a worker starts a program, performs its next command, dies or ends, or the
environment acts. -/
inductive Step (M : Shared S W C A) (environment : S → S → Prop) (start : Prog C A ε α → Prop) :
    Pool S W C A ε α → Pool S W C A ε α → Prop
  | spawn {s workers} (w : W) (p : Prog C A ε α) (hp : start p) :
      Step M environment start ⟨s, workers⟩ ⟨s, Function.update workers w (some p)⟩
  | act {s t workers} (w : W) {c : C} {k : A c → Prog C A ε α} {a : A c}
      (hw : workers w = some (.call c k)) (ha : M.answers w s c a t) :
      Step M environment start ⟨s, workers⟩ ⟨t, Function.update workers w (some (k a))⟩
  | crash {s workers} (w : W) :
      Step M environment start ⟨s, workers⟩ ⟨s, Function.update workers w none⟩
  | environment {s t workers} (h : environment s t) :
      Step M environment start ⟨s, workers⟩ ⟨t, workers⟩

/-- The transition system of a pool that starts without workers. -/
def system (M : Shared S W C A) (environment : S → S → Prop) (start : Prog C A ε α → Prop)
    (init : S → Prop) : Transition.System (Pool S W C A ε α) where
  init pool := init pool.shared ∧ ∀ w, pool.workers w = none
  step := Step M environment start

/-- The invariant holds and every worker is safe. -/
def Ok (M : Shared S W C A) (pool : Pool S W C A ε α) : Prop :=
  M.inv pool.shared ∧ ∀ w p, pool.workers w = some p → Safe M w p pool.shared

/-- What a system must satisfy for its pools to be safe. -/
structure Sound (M : Shared S W C A) (environment : S → S → Prop) (start : Prog C A ε α → Prop) :
    Prop where
  acts : ∀ s t, M.inv s → environment s t → M.inv t ∧ M.evolves s t ∧ ∀ w, M.spares w s t
  starts : ∀ p, start p → ∀ w s, M.inv s → Safe M w p s

variable {environment : S → S → Prop} {start : Prog C A ε α → Prop} {init : S → Prop}
  {P P' : Pool S W C A ε α}

omit M in
theorem forall_update {workers : W → Option (Prog C A ε α)} {w : W} {r : Option (Prog C A ε α)}
    {R : W → Prog C A ε α → Prop} (h : ∀ w' p, w' ≠ w → workers w' = some p → R w' p)
    (hr : ∀ p, r = some p → R w p) : ∀ w' p, Function.update workers w r w' = some p → R w' p := by
  intro w' p hp
  rw [Function.update_apply] at hp
  split_ifs at hp with heq
  · exact heq ▸ hr p hp
  · exact h w' p heq hp

/-- One step keeps a safe pool safe and evolves its state. -/
theorem step_ok (hM : Sound M environment start) (hP : Ok M P)
    (h : Step M environment start P P') : Ok M P' ∧ M.evolves P.shared P'.shared := by
  cases h with
  | spawn w p hp =>
    refine ⟨⟨hP.1, forall_update (fun w' p' _ => hP.2 w' p') fun p' hp' => ?_⟩,
      M.evolves_refl _⟩
    cases hp'
    exact hM.starts p hp w _ hP.1
  | act w hw ha =>
    obtain ⟨⟨hinv, hevolves, hspares⟩, hk⟩ := hP.2 w _ hw _ (M.rely_refl w _) hP.1 _ _ ha
    refine ⟨⟨hinv, forall_update (fun w' p' hne hw' => ?_) fun p' hp' => ?_⟩, hevolves⟩
    · exact wp_of_rely (hP.2 w' p' hw') ⟨hevolves, hspares w' hne⟩
    · cases hp'
      exact hk
  | crash w =>
    exact ⟨⟨hP.1, forall_update (fun w' p' _ => hP.2 w' p') fun p' hp' => (nomatch hp')⟩,
      M.evolves_refl _⟩
  | environment h =>
    obtain ⟨hinv, hevolves, hspares⟩ := hM.acts _ _ hP.1 h
    exact ⟨⟨hinv, fun w' p' hw' => wp_of_rely (hP.2 w' p' hw') ⟨hevolves, hspares w'⟩⟩, hevolves⟩

/-- **Every reachable pool keeps the invariant**, and its workers are safe. -/
theorem safe (hM : Sound M environment start) (hinit : ∀ s, init s → M.inv s)
    (h : Transition.Reachable (system M environment start init) P) : Ok M P := by
  refine Transition.Reachable.invariant (P := Ok M) ?_
    (fun P P' hP hstep => (step_ok hM hP hstep).1) h
  intro P hP
  refine ⟨hinit _ hP.1, fun w p hw => ?_⟩
  rw [hP.2 w] at hw
  cases hw

theorem reachable_of_may {workers : W → Option (Prog C A ε α)} {p : Prog C A ε α} {R : S → Prop}
    (h : Transition.Reachable (system M environment start init) ⟨s, workers⟩)
    (hw : workers w = some p) (hmay : May M w p R s) :
    ∃ P, Transition.Reachable (system M environment start init) P ∧ R P.shared := by
  induction p generalizing s workers with
  | ret a => exact ⟨_, h, hmay⟩
  | fail e => exact ⟨_, h, hmay⟩
  | call c k ih =>
    obtain ⟨a, t, ha, hmay⟩ := hmay
    exact ih a (h.step (.act w hw ha)) (Function.update_self ..) hmay

/-- The shared state evolves along every run of a safe pool. -/
theorem evolves_of_run (hM : Sound M environment start) (hP : Ok M P)
    (h : Relation.ReflTransGen (Step M environment start) P P') :
    M.evolves P.shared P'.shared :=
  Transition.Reachable.run_mono (S := system M environment start fun _ => False) (P := Ok M)
    (R := fun P P' => M.evolves P.shared P'.shared)
    (fun _ _ hP hstep => (step_ok hM hP hstep).1) (fun _ => M.evolves_refl _)
    (fun _ _ _ => M.evolves_trans) (fun _ _ hP hstep => (step_ok hM hP hstep).2) hP h

end Pool

end Interaction
