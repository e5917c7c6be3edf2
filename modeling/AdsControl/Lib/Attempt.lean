import AdsControl.Lib.Interaction

/-!
# Attempts

A program that is tried again and again by one worker. An attempt may stop before any command; what it
left in the state stays.

* `Prog.when`: a program under a condition;
* `Prog.handle`: every command of a program as a program over other commands;
* `Prog.eval`, `Prog.visited`: the result of a program against fixed answers, and its commands;
* `Prog.Asks`, `Prog.AsksOnce`, `Prog.AsksAtMost`: what a program may ask for, whatever the answers are;
* `Prog.runs_handle`: a run of a handled program as a run for every command;
* `Prog.Answered`: a successful run, with the reply that each command was answered from;
* `Attempt`: a run that may stop anywhere;
* **`Attempt.of_wp`**: the rules for complete runs hold for attempts;
* `Execution`: an attempt with the commands and answers it exchanged.
-/

namespace Interaction

variable {C C' : Type} {A : C → Type} {A' : C' → Type} {ε α : Type}

namespace Prog

/-- Run a program only under a condition. -/
def when (condition : Bool) (p : Prog C A ε Unit) : Prog C A ε Unit := if condition then p else pure ()

theorem bind_assoc {β γ : Type} (p : Prog C A ε α) (f : α → Prog C A ε β) (g : β → Prog C A ε γ) :
    p >>= f >>= g = p >>= fun a => f a >>= g := by
  induction p with
  | ret a => rfl
  | fail e => rfl
  | call c k ih => exact congrArg (call c) (funext ih)

/-- Perform every command by a program. -/
def handle (h : (c : C) → Prog C' A' ε (A c)) : Prog C A ε α → Prog C' A' ε α
  | ret a => ret a
  | fail e => fail e
  | call c k => h c >>= fun a => (k a).handle h

/-- The result against fixed answers; an error ends the program. -/
def eval (source : (c : C) → Except ε (A c)) : Prog C A ε α → Except ε α
  | ret a => .ok a
  | fail e => .error e
  | call c k => match source c with
    | .ok a => (k a).eval source
    | .error e => .error e

/-- The commands that are performed against fixed answers. -/
def visited (source : (c : C) → Except ε (A c)) : Prog C A ε α → List C
  | ret _ => []
  | fail _ => []
  | call c k => c :: match source c with
    | .ok a => (k a).visited source
    | .error _ => []

/-- The run of a program against fixed answers. -/
theorem runs_eval (answers : (c : C) → A c) (p : Prog C A ε α) :
    p.Runs ((p.visited fun c => .ok (answers c)).map fun c => ⟨c, answers c⟩)
      (p.eval fun c => .ok (answers c)) := by
  induction p with
  | ret a => exact ⟨rfl, rfl⟩
  | fail e => exact ⟨rfl, rfl⟩
  | call c k ih => exact ⟨answers c, _, rfl, ih (answers c)⟩

/-! ## The commands a program may perform -/

/-- Every command satisfies `P`, whatever the answers are. -/
def Asks (P : C → Prop) : Prog C A ε α → Prop
  | ret _ => True
  | fail _ => True
  | call c k => P c ∧ ∀ a, (k a).Asks P

/-- At most one command satisfies `P`. -/
def AsksOnce (P : C → Prop) : Prog C A ε α → Prop
  | ret _ => True
  | fail _ => True
  | call c k => (P c → ∀ a, (k a).Asks fun c => ¬ P c) ∧ ∀ a, (k a).AsksOnce P

variable {β : Type} {P : C → Prop} {p : Prog C A ε α} {f : α → Prog C A ε β}

theorem asks_ofExcept (P : C → Prop) (x : Except ε α) : (ofExcept x : Prog C A ε α).Asks P := by
  cases x <;> trivial

theorem Asks.mono {P' : C → Prop} (hp : p.Asks P) (hP : ∀ c, P c → P' c) : p.Asks P' := by
  induction p with
  | ret a => trivial
  | fail e => trivial
  | call c k ih => exact ⟨hP c hp.1, fun a => ih a (hp.2 a)⟩

theorem Asks.bind (hp : p.Asks P) (hf : ∀ a, (f a).Asks P) : (p >>= f).Asks P := by
  induction p with
  | ret a => exact hf a
  | fail e => trivial
  | call c k ih => exact ⟨hp.1, fun a => ih a (hp.2 a)⟩

theorem Asks.ofExcept_bind {x : Except ε α} (hf : ∀ a, (f a).Asks P) :
    ((ofExcept x : Prog C A ε α) >>= f).Asks P := (asks_ofExcept P x).bind hf

theorem Asks.perform_bind {c : C} {f : A c → Prog C A ε β} (hc : P c) (hf : ∀ a, (f a).Asks P) :
    (perform c >>= f).Asks P := ⟨hc, hf⟩

theorem Asks.when {condition : Bool} {p : Prog C A ε Unit} (hp : condition = true → p.Asks P) :
    (Prog.when condition p).Asks P := by
  cases condition with
  | false => trivial
  | true => exact hp rfl

theorem Asks.attempt {ε' : Type} (hp : p.Asks P) : (p.attempt : Prog C A ε' (Except ε α)).Asks P := by
  induction p with
  | ret a => trivial
  | fail e => trivial
  | call c k ih => exact ⟨hp.1, fun a => ih a (hp.2 a)⟩

theorem Asks.runs (hp : p.Asks P) {trace : List (Sigma A)} {result : Except ε α} (h : p.Runs trace result) :
    ∀ exchange ∈ trace, P exchange.1 := by
  induction p generalizing trace with
  | ret a =>
    obtain ⟨rfl, -⟩ := h
    exact List.forall_mem_nil _
  | fail e =>
    obtain ⟨rfl, -⟩ := h
    exact List.forall_mem_nil _
  | call c k ih =>
    obtain ⟨a, rest, rfl, h⟩ := h
    exact List.forall_mem_cons.mpr ⟨hp.1, ih a (hp.2 a) h⟩

theorem asksOnce_of_asks (hp : p.Asks fun c => ¬ P c) : p.AsksOnce P := by
  induction p with
  | ret a => trivial
  | fail e => trivial
  | call c k ih => exact ⟨fun hc => absurd hc hp.1, fun a => ih a (hp.2 a)⟩

theorem AsksOnce.bind (hp : p.Asks fun c => ¬ P c) (hf : ∀ a, (f a).AsksOnce P) :
    (p >>= f).AsksOnce P := by
  induction p with
  | ret a => exact hf a
  | fail e => trivial
  | call c k ih => exact ⟨fun hc => absurd hc hp.1, fun a => ih a (hp.2 a)⟩

theorem AsksOnce.bind_asks (hp : p.AsksOnce P) (hf : ∀ a, (f a).Asks fun c => ¬ P c) :
    (p >>= f).AsksOnce P := by
  induction p with
  | ret a => exact asksOnce_of_asks (hf a)
  | fail e => trivial
  | call c k ih => exact ⟨fun hc a => (hp.1 hc a).bind hf, fun a => ih a (hp.2 a)⟩

theorem AsksOnce.ofExcept_bind {x : Except ε α} (hf : ∀ a, (f a).AsksOnce P) :
    ((ofExcept x : Prog C A ε α) >>= f).AsksOnce P := .bind (asks_ofExcept _ x) hf

theorem AsksOnce.perform_bind {c : C} {f : A c → Prog C A ε β} (hc : ¬ P c)
    (hf : ∀ a, (f a).AsksOnce P) : (perform c >>= f).AsksOnce P := ⟨fun h => absurd h hc, hf⟩

theorem Asks.visited {source : (c : C) → Except ε (A c)} (hp : p.Asks P) : ∀ c ∈ p.visited source, P c := by
  induction p with
  | ret a => simp [Prog.visited]
  | fail e => simp [Prog.visited]
  | call d k ih =>
    cases hanswer : source d with
    | error e => simpa [Prog.visited, hanswer] using hp.1
    | ok a =>
      simp only [Prog.visited, hanswer, List.mem_cons]
      rintro c (rfl | hc)
      · exact hp.1
      · exact ih a (hp.2 a) c hc

/-- **A command asked for at most once is the same wherever it is met.** -/
theorem AsksOnce.visited {source : (c : C) → Except ε (A c)} (hp : p.AsksOnce P) :
    ∀ c ∈ p.visited source, ∀ c' ∈ p.visited source, P c → P c' → c = c' := by
  induction p with
  | ret a => simp [Prog.visited]
  | fail e => simp [Prog.visited]
  | call d k ih =>
    cases hanswer : source d with
    | error e => simp [Prog.visited, hanswer]
    | ok a =>
      simp only [Prog.visited, hanswer, List.mem_cons]
      rintro c (rfl | hc) c' (rfl | hc') hP hP'
      · rfl
      · exact absurd hP' ((hp.1 hP a).visited c' hc')
      · exact absurd hP ((hp.1 hP' a).visited c hc)
      · exact ih a (hp.2 a) c hc c' hc' hP hP'

/-- At most `n` commands satisfy `P`. -/
def AsksAtMost (P : C → Bool) : ℕ → Prog C A ε α → Prop
  | _, ret _ => True
  | _, fail _ => True
  | n, call c k => (P c = true → 0 < n) ∧ ∀ a, (k a).AsksAtMost P (if P c then n - 1 else n)

section AsksAtMost

variable {P : C → Bool} {m n : ℕ}

theorem AsksAtMost.mono (hp : p.AsksAtMost P m) (hmn : m ≤ n) : p.AsksAtMost P n := by
  induction p generalizing m n with
  | ret a => trivial
  | fail e => trivial
  | call c k ih =>
    refine ⟨fun hc => (hp.1 hc).trans_le hmn, fun a => ih a (hp.2 a) ?_⟩
    split_ifs <;> omega

theorem asksAtMost_ofExcept (P : C → Bool) (n : ℕ) (x : Except ε α) :
    (ofExcept x : Prog C A ε α).AsksAtMost P n := by
  cases x <;> trivial

theorem AsksAtMost.bind (hp : p.AsksAtMost P m) (hf : ∀ a, (f a).AsksAtMost P n) :
    (p >>= f).AsksAtMost P (m + n) := by
  induction p generalizing m with
  | ret a => exact (hf a).mono (Nat.le_add_left n m)
  | fail e => trivial
  | call c k ih =>
    refine ⟨fun hc => (hp.1 hc).trans_le (Nat.le_add_right m n), fun a => (ih a (hp.2 a)).mono ?_⟩
    have hpos := hp.1
    split_ifs with hc
    · have := hpos hc
      omega
    · exact le_rfl

theorem AsksAtMost.zero_bind (hp : p.AsksAtMost P 0) (hf : ∀ a, (f a).AsksAtMost P n) :
    (p >>= f).AsksAtMost P n := (hp.bind hf).mono (Nat.zero_add n).le

theorem AsksAtMost.ofExcept_bind {x : Except ε α} (hf : ∀ a, (f a).AsksAtMost P n) :
    ((ofExcept x : Prog C A ε α) >>= f).AsksAtMost P n := by
  cases x with
  | error e => trivial
  | ok a => exact hf a

theorem AsksAtMost.handle {P' : C' → Bool} {h : (c : C) → Prog C' A' ε (A c)}
    (hp : p.AsksAtMost (fun _ => true) n) (hh : ∀ c, (h c).AsksAtMost P' 1) :
    (p.handle h).AsksAtMost P' n := by
  induction p generalizing n with
  | ret a => trivial
  | fail e => trivial
  | call c k ih =>
    have hpos : 0 < n := hp.1 rfl
    have hbind := (hh c).bind fun a => ih a (hp.2 a)
    exact hbind.mono (by simp; omega)

/-- **The bound holds in every run.** -/
theorem AsksAtMost.runs (hp : p.AsksAtMost P n) {trace : List (Sigma A)} {result : Except ε α}
    (hrun : p.Runs trace result) : trace.countP (fun e => P e.1) ≤ n := by
  induction p generalizing n trace with
  | ret a =>
    obtain ⟨rfl, -⟩ := hrun
    exact Nat.zero_le n
  | fail e =>
    obtain ⟨rfl, -⟩ := hrun
    exact Nat.zero_le n
  | call c k ih =>
    obtain ⟨a, rest, rfl, hrest⟩ := hrun
    have hcount := ih a (hp.2 a) hrest
    have hpos := hp.1
    rw [List.countP_cons]
    split_ifs at hcount ⊢ with hc
    · have := hpos hc
      omega
    · exact hcount

end AsksAtMost

/-- **A run of a handled program**: a run of the program with a run of the handler for every command. -/
theorem runs_handle {h : (c : C) → Prog C' A' ε (A c)} {trace : List (Sigma A')} {a : α}
    (hrun : (p.handle h).Runs trace (.ok a)) :
    ∃ parts : List ((c : C) × A c × List (Sigma A')), p.Runs (parts.map fun t => ⟨t.1, t.2.1⟩) (.ok a) ∧
      trace = parts.flatMap (fun t => t.2.2) ∧ ∀ t ∈ parts, (h t.1).Runs t.2.2 (.ok t.2.1) := by
  induction p generalizing trace with
  | ret b =>
    obtain ⟨rfl, hb⟩ := hrun
    exact ⟨[], ⟨rfl, hb⟩, rfl, fun t ht => (nomatch ht)⟩
  | fail e => cases hrun.2
  | call c k ih =>
    obtain ⟨e, -, he⟩ | ⟨answer, first, rest, rfl, hfirst, hrest⟩ := runs_bind.mp hrun
    · cases he
    · obtain ⟨parts, hparts, rfl, hall⟩ := ih answer hrest
      refine ⟨⟨c, answer, first⟩ :: parts, ⟨answer, _, rfl, hparts⟩, rfl, fun t ht => ?_⟩
      obtain rfl | ht := List.mem_cons.mp ht
      · exact hfirst
      · exact hall t ht

/-! ## Replies -/

/-- The program returned `a`; each command was answered by what was read from its reply. -/
def Answered {X : Type} (read : (c : C) → X → Except ε (A c)) : Prog C A ε α → List (C × X) → α → Prop
  | ret b, exchanges, a => exchanges = [] ∧ a = b
  | fail _, _, _ => False
  | call c k, exchanges, a => ∃ reply answer rest, exchanges = (c, reply) :: rest ∧
      read c reply = .ok answer ∧ (k answer).Answered read rest a

section Answered

variable {X : Type} {read : (c : C) → X → Except ε (A c)} {exchanges : List (C × X)} {b : β}

@[simp] theorem answered_pure {a : α} {a' : α} :
    (pure a : Prog C A ε α).Answered read exchanges a' ↔ exchanges = [] ∧ a' = a := Iff.rfl

@[simp] theorem answered_fail {e : ε} {a : α} : ¬ (fail e : Prog C A ε α).Answered read exchanges a := id

@[simp] theorem answered_ofExcept_bind {x : Except ε α} :
    ((ofExcept x : Prog C A ε α) >>= f).Answered read exchanges b ↔
      ∃ a, x = .ok a ∧ (f a).Answered read exchanges b := by
  cases x with
  | error e =>
    constructor
    · exact False.elim
    · rintro ⟨a, ha, -⟩
      cases ha
  | ok a =>
    constructor
    · intro h
      exact ⟨a, rfl, h⟩
    · rintro ⟨a', ha, h⟩
      cases ha
      exact h

@[simp] theorem answered_perform_bind {c : C} {f : A c → Prog C A ε β} :
    (perform c >>= f).Answered read exchanges b ↔ ∃ reply answer rest, exchanges = (c, reply) :: rest ∧
      read c reply = .ok answer ∧ (f answer).Answered read rest b := Iff.rfl

theorem answered_bind : (p >>= f).Answered read exchanges b ↔ ∃ a first rest, exchanges = first ++ rest ∧
    p.Answered read first a ∧ (f a).Answered read rest b := by
  induction p generalizing exchanges with
  | ret a =>
    constructor
    · intro h
      exact ⟨a, [], exchanges, rfl, ⟨rfl, rfl⟩, h⟩
    · rintro ⟨a', first, rest, rfl, ⟨rfl, rfl⟩, h⟩
      exact h
  | fail e =>
    constructor
    · exact False.elim
    · rintro ⟨a, first, rest, -, h, -⟩
      exact h
  | call c k ih =>
    constructor
    · rintro ⟨reply, answer, rest, rfl, hread, h⟩
      obtain ⟨a, first, rest, rfl, hfirst, hrest⟩ := (ih answer).mp h
      exact ⟨a, (c, reply) :: first, rest, rfl, ⟨reply, answer, first, rfl, hread, hfirst⟩, hrest⟩
    · rintro ⟨a, _, rest, rfl, ⟨reply, answer, first, rfl, hread, hfirst⟩, hrest⟩
      exact ⟨reply, answer, first ++ rest, rfl, hread, (ih answer).mpr ⟨a, first, rest, rfl, hfirst, hrest⟩⟩

end Answered

end Prog

section Attempts

variable {S : Type}

/-- A run of a program by one worker: it stopped, or it ended with a result. -/
inductive Attempt (answers : S → (c : C) → A c → S → Prop) :
    Prog C A ε α → S → Option (Except ε α) → S → Prop
  | stop {p : Prog C A ε α} {s : S} : Attempt answers p s none s
  | ret {a : α} {s : S} : Attempt answers (.ret a) s (some (.ok a)) s
  | fail {e : ε} {s : S} : Attempt answers (.fail e) s (some (.error e)) s
  | call {c : C} {k : A c → Prog C A ε α} {a : A c} {s t u : S} {outcome : Option (Except ε α)}
      (h : answers s c a t) (hk : Attempt answers (k a) t outcome u) :
      Attempt answers (.call c k) s outcome u

variable {answers : S → (c : C) → A c → S → Prop} {inv : S → Prop} {evolves : S → S → Prop} {hrefl : ∀ s, evolves s s}
  {htrans : ∀ s t u, evolves s t → evolves t u → evolves s u}

/-- **An attempt keeps what its program keeps**, wherever it stops. -/
theorem Attempt.of_wp {p : Prog C A ε α} {Q : Except ε α → S → Prop} {s t : S}
    {outcome : Option (Except ε α)} (h : Attempt answers p s outcome t) (hs : inv s)
    (hp : wp (Shared.alone answers inv evolves hrefl htrans) () p Q s) :
    inv t ∧ ∀ result, outcome = some result → Q result t := by
  induction h with
  | stop => exact ⟨hs, fun result hresult => (nomatch hresult)⟩
  | ret =>
    refine ⟨hs, fun result hresult => ?_⟩
    cases hresult
    exact hp _ ⟨hrefl _, rfl⟩ hs
  | fail =>
    refine ⟨hs, fun result hresult => ?_⟩
    cases hresult
    exact hp _ ⟨hrefl _, rfl⟩ hs
  | call h _ ih =>
    obtain ⟨hallowed, hk⟩ := hp _ ⟨hrefl _, rfl⟩ hs _ _ h
    exact ih hallowed.1 hk

/-- A program of which every command has an answer has a complete run. -/
theorem exists_attempt (answers : S → (c : C) → A c → S → Prop) {P : S → Prop}
    (hP : ∀ s c, P s → ∃ a t, answers s c a t ∧ P t) (p : Prog C A ε α) {s : S} (hs : P s) :
    ∃ result t, Attempt answers p s (some result) t ∧ P t := by
  induction p generalizing s with
  | ret a => exact ⟨_, s, .ret, hs⟩
  | fail e => exact ⟨_, s, .fail, hs⟩
  | call c k ih =>
    obtain ⟨a, t, ha, ht⟩ := hP s c hs
    obtain ⟨result, u, hk, hu⟩ := ih a ht
    exact ⟨result, u, .call ha hk, hu⟩

/-! ## Executions -/

/-- A run over a state that may stop before any command, with the commands and their answers. -/
inductive Execution (answers : S → (c : C) → A c → S → Prop) :
    Prog C A ε α → S → List (Sigma A) → Option (Except ε α) → S → Prop
  | stop {p : Prog C A ε α} {s : S} : Execution answers p s [] none s
  | ret {a : α} {s : S} : Execution answers (.ret a) s [] (some (.ok a)) s
  | fail {e : ε} {s : S} : Execution answers (.fail e) s [] (some (.error e)) s
  | call {c : C} {k : A c → Prog C A ε α} {a : A c} {s t u : S} {trace : List (Sigma A)}
      {outcome : Option (Except ε α)} (h : answers s c a t) (hk : Execution answers (k a) t trace outcome u) :
      Execution answers (.call c k) s (⟨c, a⟩ :: trace) outcome u

namespace Execution

variable {β : Type} {s u : S} {trace : List (Sigma A)} {p : Prog C A ε α} {f : α → Prog C A ε β}
  {outcome : Option (Except ε β)}

/-- A command was not reached, or answered and the rest ran. -/
theorem perform_bind {c : C} {f : A c → Prog C A ε β}
    (h : Execution answers (Prog.perform c >>= f) s trace outcome u) :
    (trace = [] ∧ outcome = none ∧ u = s) ∨ ∃ a t rest, answers s c a t ∧ trace = ⟨c, a⟩ :: rest ∧
      Execution answers (f a) t rest outcome u := by
  cases h with
  | stop => exact .inl ⟨rfl, rfl, rfl⟩
  | call h hk => exact .inr ⟨_, _, _, h, rfl, hk⟩

theorem perform_bind_ok {c : C} {f : A c → Prog C A ε β} {r : Except ε β}
    (h : Execution answers (Prog.perform c >>= f) s trace (some r) u) :
    ∃ a t rest, answers s c a t ∧ trace = ⟨c, a⟩ :: rest ∧ Execution answers (f a) t rest (some r) u := by
  obtain ⟨-, hnone, -⟩ | h := h.perform_bind
  · cases hnone
  · exact h

theorem bind_ok {b : β} (h : Execution answers (p >>= f) s trace (some (.ok b)) u) :
    ∃ a t first rest, trace = first ++ rest ∧ Execution answers p s first (some (.ok a)) t ∧
      Execution answers (f a) t rest (some (.ok b)) u := by
  induction p generalizing s trace with
  | ret a => exact ⟨a, s, [], trace, rfl, .ret, h⟩
  | fail e => cases h
  | call c k ih =>
    cases h with
    | call hanswer hk =>
      obtain ⟨a, t, first, rest, rfl, hfirst, hrest⟩ := ih _ hk
      exact ⟨a, t, _ :: first, rest, rfl, .call hanswer hfirst, hrest⟩

theorem exists_call {c : C} {k : A c → Prog C A ε α} {a : A c} {s t : S} {outcome : Option (Except ε α)}
    {R : S → Prop} (h : answers s c a t) (hk : ∃ trace u, Execution answers (k a) t trace outcome u ∧ R u) :
    ∃ trace u, Execution answers (.call c k) s trace outcome u ∧ R u := by
  obtain ⟨trace, u, hrun, hu⟩ := hk
  exact ⟨_, u, .call h hrun, hu⟩

theorem pure_ok {a : α} {r : Except ε α} (h : Execution answers (pure a : Prog C A ε α) s trace (some r) u) :
    trace = [] ∧ u = s ∧ r = .ok a := by
  cases h
  exact ⟨rfl, rfl, rfl⟩

theorem ofExcept_bind_ok {x : Except ε α} {b : β}
    (h : Execution answers ((Prog.ofExcept x : Prog C A ε α) >>= f) s trace (some (.ok b)) u) :
    ∃ a, x = .ok a ∧ Execution answers (f a) s trace (some (.ok b)) u := by
  cases x with
  | error e => cases h
  | ok a => exact ⟨a, rfl, h⟩

end Execution

end Attempts

end Interaction
