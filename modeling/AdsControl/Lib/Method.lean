import AdsControl.Lib.Fallible

/-!
# Methods that change their receiver

A method returns or fails, and in both cases leaves a receiver behind: what was written before a
failure stays written.

* `Method`: a monad with `query` (read and check), `lift` (check only) and `modify` (write);
* `call_bind`, `call_query`, `call_modify`: a successful call read backwards, in the simp set;
* **`Atomic.bind`**: a method that checks first and writes last leaves its receiver unchanged when it
  fails;
* `transaction`: a method that commits its writes or rolls them back;
* `after`, `Succeeds`: sequences of calls, with **`after_invariant`** for what every call keeps.
-/

namespace Receiver

open Fallible

variable {σ ε α β : Type}

/-- A method on receivers `σ` with errors `ε`. -/
def Method (σ ε α : Type) : Type := σ → Except ε α × σ

instance : Monad (Method σ ε) where
  pure a := fun s => (.ok a, s)
  bind m f := fun s => match m s with
    | (.ok a, t) => f a t
    | (.error e, t) => (.error e, t)

/-- Read the receiver; the read may fail. -/
def query (f : σ → Except ε α) : Method σ ε α := fun s => (f s, s)

/-- A computation that does not look at the receiver. -/
def lift (x : Except ε α) : Method σ ε α := fun s => (x, s)

/-- Write the receiver. -/
def modify (f : σ → σ) : Method σ ε Unit := fun s => (.ok (), f s)

@[simp] theorem call_pure {a b : α} {s t : σ} :
    (pure a : Method σ ε α) s = (.ok b, t) ↔ a = b ∧ s = t := by
  simp [pure]

@[simp] theorem call_query {f : σ → Except ε α} {a : α} {s t : σ} :
    query f s = (.ok a, t) ↔ f s = .ok a ∧ s = t := by
  simp [query]

@[simp] theorem call_lift {x : Except ε α} {a : α} {s t : σ} :
    lift x s = (.ok a, t) ↔ x = .ok a ∧ s = t := by
  simp [lift]

@[simp] theorem call_modify {f : σ → σ} {u : Unit} {s t : σ} :
    (modify f : Method σ ε Unit) s = (.ok u, t) ↔ f s = t := by
  simp [modify]

@[simp] theorem call_bind {m : Method σ ε α} {f : α → Method σ ε β} {b : β} {s u : σ} :
    (m >>= f) s = (.ok b, u) ↔ ∃ a t, m s = (.ok a, t) ∧ f a t = (.ok b, u) := by
  show (match m s with
    | (.ok a, t) => f a t
    | (.error e, t) => (.error e, t)) = (Except.ok b, u) ↔ _
  rcases m s with ⟨e | a, t⟩
  · simp
  · simp

@[simp] theorem lift_ok_bind {a : α} {f : α → Method σ ε β} : (lift (.ok a) >>= f) = f a := rfl

/-! A failed call read backwards. -/

theorem error_of_query {f : σ → Except ε α} {e : ε} {s t : σ} :
    query f s = (.error e, t) ↔ f s = .error e ∧ s = t := by
  simp [query]

theorem error_of_modify {f : σ → σ} {e : ε} {s t : σ} :
    (modify f : Method σ ε Unit) s = (.error e, t) ↔ False := by
  simp [modify]

theorem error_of_bind {m : Method σ ε α} {f : α → Method σ ε β} {e : ε} {s u : σ} :
    (m >>= f) s = (.error e, u) ↔
      m s = (.error e, u) ∨ ∃ a t, m s = (.ok a, t) ∧ f a t = (.error e, u) := by
  show (match m s with
    | (.ok a, t) => f a t
    | (.error e, t) => (.error e, t)) = (Except.error e, u) ↔ _
  rcases m s with ⟨e' | a, t⟩
  · simp
  · simp

/-- A failed call leaves the receiver unchanged. -/
def Atomic (m : Method σ ε α) : Prop := ∀ s e t, m s = (.error e, t) → t = s

/-- The method never writes. -/
def ReadOnly (m : Method σ ε α) : Prop := ∀ s, (m s).2 = s

/-- The method never fails. -/
def Total (m : Method σ ε α) : Prop := ∀ s e t, m s ≠ (.error e, t)

theorem readOnly_query (f : σ → Except ε α) : ReadOnly (query f) := fun _ => rfl

theorem total_modify (f : σ → σ) : Total (modify f : Method σ ε Unit) := by
  intro s e t h
  cases h

theorem total_pure (a : α) : Total (pure a : Method σ ε α) := by
  intro s e t h
  cases h

theorem Total.modify_bind {f : σ → σ} {m : Unit → Method σ ε α} (h : Total (m ())) :
    Total (modify f >>= m) := by
  intro s e t hm
  exact h (f s) e t hm

theorem ReadOnly.atomic {m : Method σ ε α} (h : ReadOnly m) : Atomic m := by
  intro s e t hm
  have := h s
  rw [hm] at this
  exact this

theorem Total.atomic {m : Method σ ε α} (h : Total m) : Atomic m :=
  fun s e t hm => absurd hm (h s e t)

/-- **Checks first, writes last.** -/
theorem Atomic.bind {m : Method σ ε α} {f : α → Method σ ε β} (hm : ReadOnly m)
    (hf : ∀ a, Atomic (f a)) : Atomic (m >>= f) := by
  intro s e u h
  rcases error_of_bind.mp h with h | ⟨a, t, ha, h⟩
  · exact hm.atomic s e u h
  · have hread := hm s
    rw [ha] at hread
    rw [← hread]
    exact hf a t e u h

/-! ## Transactions -/

/-- What a transaction commits, with the answer or the error it returns afterwards. -/
structure Commit (σ ε α : Type) where
  store : σ
  answer : Except ε α

/-- A transaction that fails before its commit leaves the receiver unchanged. -/
def transaction (body : σ → Except ε (Commit σ ε α)) : Method σ ε α := fun s =>
  match body s with
  | .ok commit => (commit.answer, commit.store)
  | .error e => (.error e, s)

theorem transaction_cases {body : σ → Except ε (Commit σ ε α)} {s t : σ} {r : Except ε α}
    (h : transaction body s = (r, t)) : body s = .ok ⟨t, r⟩ ∨ ((∃ e, r = .error e) ∧ t = s) := by
  unfold transaction at h
  split at h
  · rename_i commit hbody
    cases h
    exact .inl hbody
  · cases h
    exact .inr ⟨⟨_, rfl⟩, rfl⟩

/-! ## Sequences of calls -/

section Calls

variable {C : Type} {apply : C → Method σ ε α} {s : σ} {calls : List C}

/-- The receiver after a sequence of calls, whatever they answer. -/
def after (apply : C → Method σ ε α) (s : σ) (calls : List C) : σ :=
  calls.foldl (fun s c => (apply c s).2) s

/-- One of the calls of a sequence is `c`, and it returns `a`. -/
def Succeeds (apply : C → Method σ ε α) (s : σ) (calls : List C) (c : C) (a : α) : Prop :=
  ∃ before rest, calls = before ++ c :: rest ∧ (apply c (after apply s before)).1 = .ok a

theorem after_append (calls rest : List C) :
    after apply s (calls ++ rest) = after apply (after apply s calls) rest :=
  List.foldl_append

theorem after_snoc (calls : List C) (c : C) :
    after apply s (calls ++ [c]) = (apply c (after apply s calls)).2 :=
  after_append calls [c]

theorem Succeeds.append {c : C} {a : α} (h : Succeeds apply s calls c a) (rest : List C) :
    Succeeds apply s (calls ++ rest) c a := by
  obtain ⟨before, rest', rfl, hc⟩ := h
  exact ⟨before, rest' ++ rest, by simp, hc⟩

theorem succeeds_snoc {c : C} {a : α} (h : (apply c (after apply s calls)).1 = .ok a) :
    Succeeds apply s (calls ++ [c]) c a :=
  ⟨calls, [], rfl, h⟩

/-- An atomic call succeeds, or leaves the receiver. -/
theorem Atomic.cases {m : Method σ ε α} (h : Atomic m) (s : σ) :
    (∃ a, m s = (.ok a, (m s).2)) ∨ (m s).2 = s := by
  rcases hm : m s with ⟨e | a, t⟩
  · exact .inr (h s e t hm)
  · exact .inl ⟨a, rfl⟩

/-- **What every successful call keeps holds after any sequence**, unless one of the calls is
excluded. -/
theorem after_invariant {P : σ → Prop} (excluded : C → α → Prop) (hatomic : ∀ c, Atomic (apply c))
    (hstep : ∀ s c a t, P s → apply c s = (.ok a, t) → ¬ excluded c a → P t) (hs : P s)
    (calls : List C) (hcalls : ∀ c a, Succeeds apply s calls c a → ¬ excluded c a) :
    P (after apply s calls) := by
  induction calls using List.reverseRecOn with
  | nil => exact hs
  | append_singleton calls c ih =>
    have hprefix := ih fun c a hc => hcalls c a (hc.append _)
    rw [after_snoc]
    rcases (hatomic c).cases (after apply s calls) with ⟨a, hc⟩ | hsame
    · exact hstep _ c a _ hprefix hc (hcalls c a (succeeds_snoc (congrArg Prod.fst hc)))
    · rw [hsame]
      exact hprefix

end Calls

end Receiver
