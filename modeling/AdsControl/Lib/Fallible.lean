import Mathlib

/-!
# Fallible computations

Guards and lookups that fail with a given error, and the lemmas that read a successful `Except`
computation backwards. All of them are in the simp set, so `simp` turns the success of a `do` block
into the successes of its parts.
-/

namespace Fallible

variable {ε α β : Type}

/-- Fail with `e` unless `p` holds. -/
def ensure (p : Prop) [Decidable p] (e : ε) : Except ε Unit := if p then .ok () else .error e

/-- Fail with `e` on an absent value. -/
def context (value : Option α) (e : ε) : Except ε α :=
  match value with
  | some a => .ok a
  | none => .error e

@[simp] theorem ensure_eq_ok {p : Prop} [Decidable p] {e : ε} {u : Unit} :
    ensure p e = .ok u ↔ p := by
  unfold ensure
  split_ifs with h <;> simp [h]

@[simp] theorem context_eq_ok {value : Option α} {e : ε} {a : α} :
    context value e = .ok a ↔ value = some a := by
  cases value <;> simp [context]

theorem context_eq_error {value : Option α} {e e' : ε} :
    context value e = .error e' ↔ value = none ∧ e = e' := by
  cases value <;> simp [context]

theorem ensure_eq_error {p : Prop} [Decidable p] {e e' : ε} :
    ensure p e = .error e' ↔ ¬ p ∧ e = e' := by
  unfold ensure
  split_ifs with h <;> simp [h]

@[simp] theorem ok_of_bind {x : Except ε α} {f : α → Except ε β} {b : β} :
    (x >>= f) = Except.ok b ↔ ∃ a, x = .ok a ∧ f a = .ok b := by
  cases x with
  | error e => simp [bind, Except.bind]
  | ok a => simp [bind, Except.bind]

theorem bind_eq_error {x : Except ε α} {f : α → Except ε β} {e : ε} :
    (x >>= f) = Except.error e ↔ x = .error e ∨ ∃ a, x = .ok a ∧ f a = .error e := by
  cases x with
  | error e' => simp [bind, Except.bind]
  | ok a => simp [bind, Except.bind]

@[simp] theorem ok_of_pure {a b : α} : (pure a : Except ε α) = .ok b ↔ a = b := by
  simp [pure, Except.pure]

@[simp] theorem ok_of_map {x : Except ε α} {f : α → β} {b : β} :
    x.map f = .ok b ↔ ∃ a, x = .ok a ∧ f a = b := by
  cases x <;> simp [Except.map]

theorem exists_ok_map_fst {x : Except ε (α × β)} {p : α → Prop} :
    (∃ a, x.map Prod.fst = .ok a ∧ p a) ↔ ∃ a b, x = .ok (a, b) ∧ p a := by
  simp only [ok_of_map, Prod.exists]
  constructor
  · rintro ⟨_, ⟨a, b, hx, rfl⟩, ha⟩
    exact ⟨a, b, hx, ha⟩
  · rintro ⟨a, b, hx, ha⟩
    exact ⟨a, ⟨a, b, hx, rfl⟩, ha⟩

@[simp] theorem ok_of_mapError {ε' : Type} {x : Except ε α} {f : ε → ε'} {a : α} :
    x.mapError f = .ok a ↔ x = .ok a := by
  cases x <;> simp [Except.mapError]

theorem ok_of_optionMapM {f : α → Except ε β} {value : Option α} {r : Option β} :
    value.mapM f = .ok r ↔
      (value = none ∧ r = none) ∨ ∃ a b, value = some a ∧ f a = .ok b ∧ r = some b := by
  cases value with
  | none =>
    rw [Option.mapM_none, ok_of_pure, eq_comm]
    simp
  | some a =>
    rw [Option.mapM_some]
    show (f a).map some = .ok r ↔ _
    rw [ok_of_map]
    simp [eq_comm]

theorem exists_of_mem_mapM {f : α → Except ε β} {l : List α} {r : List β} (h : l.mapM f = .ok r) :
    ∀ b ∈ r, ∃ a ∈ l, f a = .ok b := by
  induction l generalizing r with
  | nil =>
    rw [List.mapM_nil, ok_of_pure] at h
    subst h
    simp
  | cons a l ih =>
    simp only [List.mapM_cons, ok_of_bind, ok_of_pure] at h
    obtain ⟨b, hb, r', hr', rfl⟩ := h
    intro c hc
    rcases List.mem_cons.mp hc with rfl | hc
    · exact ⟨a, List.mem_cons_self, hb⟩
    · obtain ⟨a', ha', hc'⟩ := ih hr' c hc
      exact ⟨a', List.mem_cons_of_mem _ ha', hc'⟩

theorem exists_getElem?_of_mapM {f : α → Except ε β} {l : List α} {r : List β} (h : l.mapM f = .ok r)
    {i : ℕ} {a : α} (ha : l[i]? = some a) : ∃ b, r[i]? = some b ∧ f a = .ok b := by
  induction l generalizing r i with
  | nil => cases ha
  | cons a' l ih =>
    simp only [List.mapM_cons, ok_of_bind, ok_of_pure] at h
    obtain ⟨b, hb, r', hr', rfl⟩ := h
    cases i with
    | zero =>
      rw [List.getElem?_cons_zero, Option.some.injEq] at ha
      exact ⟨b, rfl, ha ▸ hb⟩
    | succ i => exact ih hr' ha

theorem exists_ok_of_mapM {f : α → Except ε β} {l : List α} {r : List β} (h : l.mapM f = .ok r) :
    ∀ a ∈ l, ∃ b ∈ r, f a = .ok b := by
  intro a ha
  obtain ⟨i, hi⟩ := List.mem_iff_getElem?.mp ha
  obtain ⟨b, hb, hok⟩ := exists_getElem?_of_mapM h hi
  exact ⟨b, List.mem_of_getElem? hb, hok⟩

/-- A traversal whose steps keep a quantity keeps the list of these quantities. -/
theorem map_of_mapM {γ : Type} {f : α → Except ε β} {g : α → γ} {g' : β → γ}
    (hkeep : ∀ a b, f a = .ok b → g' b = g a) {l : List α} {r : List β} (h : l.mapM f = .ok r) :
    r.map g' = l.map g := by
  induction l generalizing r with
  | nil =>
    rw [List.mapM_nil, ok_of_pure] at h
    rw [← h, List.map_nil, List.map_nil]
  | cons a l ih =>
    simp only [List.mapM_cons, ok_of_bind, ok_of_pure] at h
    obtain ⟨b, hb, r', hr', rfl⟩ := h
    rw [List.map_cons, List.map_cons, hkeep a b hb, ih hr']

theorem length_of_mapM {f : α → Except ε β} {l : List α} {r : List β} (h : l.mapM f = .ok r) :
    r.length = l.length := by
  have hunits : r.map (fun _ => ()) = l.map fun _ => () := map_of_mapM (fun _ _ _ => rfl) h
  simpa using congrArg List.length hunits

theorem forall₂_of_mapM {f : α → Except ε β} {l : List α} {r : List β} (h : l.mapM f = .ok r) :
    List.Forall₂ (fun a b => f a = .ok b) l r := by
  induction l generalizing r with
  | nil =>
    rw [List.mapM_nil, ok_of_pure] at h
    subst h
    exact .nil
  | cons a l ih =>
    simp only [List.mapM_cons, ok_of_bind, ok_of_pure] at h
    obtain ⟨b, hb, rest, hrest, rfl⟩ := h
    exact .cons hb (ih hrest)

/-- Entries in another order have the same results in that order. -/
theorem exists_perm_of_mapM {f : α → Except ε β} {l l' : List α} (hperm : l.Perm l') {r : List β}
    (h : l.mapM f = .ok r) : ∃ r', l'.mapM f = .ok r' ∧ r.Perm r' := by
  induction hperm generalizing r with
  | nil => exact ⟨r, h, .refl r⟩
  | cons a _ ih =>
    simp only [List.mapM_cons, ok_of_bind, ok_of_pure] at h ⊢
    obtain ⟨b, hb, rest, hrest, rfl⟩ := h
    obtain ⟨rest', hrest', hp⟩ := ih hrest
    exact ⟨_, ⟨b, hb, rest', hrest', rfl⟩, hp.cons b⟩
  | swap a a' l =>
    simp only [List.mapM_cons, ok_of_bind, ok_of_pure] at h ⊢
    obtain ⟨b', hb', _, ⟨b, hb, rest, hrest, rfl⟩, rfl⟩ := h
    exact ⟨_, ⟨b, hb, _, ⟨b', hb', rest, hrest, rfl⟩, rfl⟩, .swap b b' rest⟩
  | trans _ _ ih ih' =>
    obtain ⟨r', h', hp⟩ := ih h
    obtain ⟨r'', h'', hp'⟩ := ih' h'
    exact ⟨r'', h'', hp.trans hp'⟩

theorem exists_forall₂_of_mapM {α' β' : Type} {f : α → Except ε β} {f' : α' → Except ε β'}
    {R : α → α' → Prop} {S : β → β' → Prop}
    (hstep : ∀ a a' b, R a a' → f a = .ok b → ∃ b', f' a' = .ok b' ∧ S b b') {l : List α} {l' : List α'}
    (hrel : List.Forall₂ R l l') {r : List β} (h : l.mapM f = .ok r) :
    ∃ r', l'.mapM f' = .ok r' ∧ List.Forall₂ S r r' := by
  induction hrel generalizing r with
  | nil =>
    rw [List.mapM_nil, ok_of_pure] at h
    subst h
    exact ⟨[], rfl, .nil⟩
  | cons hab _ ih =>
    simp only [List.mapM_cons, ok_of_bind, ok_of_pure] at h ⊢
    obtain ⟨b, hb, rest, hrest, rfl⟩ := h
    obtain ⟨b', hb', hS⟩ := hstep _ _ b hab hb
    obtain ⟨rest', hrest', hall⟩ := ih hrest
    exact ⟨_, ⟨b', hb', rest', hrest', rfl⟩, .cons hS hall⟩

theorem error_of_mapM {f : α → Except ε β} {l : List α} {e : ε} (h : l.mapM f = .error e) :
    ∃ a ∈ l, f a = .error e := by
  induction l with
  | nil => cases h
  | cons a l ih =>
    rw [List.mapM_cons, bind_eq_error] at h
    obtain herror | ⟨b, -, h⟩ := h
    · exact ⟨a, List.mem_cons_self, herror⟩
    · obtain h | ⟨r, -, ⟨⟩⟩ := bind_eq_error.mp h
      obtain ⟨a', ha', herror⟩ := ih h
      exact ⟨a', List.mem_cons_of_mem _ ha', herror⟩

section Fold

variable {σ : Type} {f : σ → α → Except ε σ}

theorem error_of_foldlM {init : σ} {l : List α} {e : ε} (h : l.foldlM f init = .error e) :
    ∃ s, ∃ a ∈ l, f s a = .error e := by
  induction l generalizing init with
  | nil => cases h
  | cons a l ih =>
    rw [List.foldlM_cons, bind_eq_error] at h
    obtain herror | ⟨s, -, h⟩ := h
    · exact ⟨init, a, List.mem_cons_self, herror⟩
    · obtain ⟨s', a', ha', herror⟩ := ih h
      exact ⟨s', a', List.mem_cons_of_mem _ ha', herror⟩

/-- The invariant rule for a fallible loop: `P done s` relates the entries processed so far to the
state. -/
theorem foldlM_invariant {P : List α → σ → Prop} {init s : σ} {l : List α} (hinit : P [] init)
    (hstep : ∀ done s a s', P done s → f s a = .ok s' → P (done ++ [a]) s')
    (h : l.foldlM f init = .ok s) : P l s := by
  have key : ∀ (rest done : List α) (t : σ), P done t → rest.foldlM f t = .ok s →
      P (done ++ rest) s := by
    intro rest
    induction rest with
    | nil =>
      intro done t ht h
      rw [List.foldlM_nil, ok_of_pure] at h
      rw [List.append_nil, ← h]
      exact ht
    | cons a rest ih =>
      intro done t ht h
      rw [List.foldlM_cons, ok_of_bind] at h
      obtain ⟨t', hstep', hrest⟩ := h
      have := ih (done ++ [a]) t' (hstep done t a t' ht hstep') hrest
      rwa [List.append_assoc, List.singleton_append] at this
  exact key l [] init hinit h

/-- A fallible loop whose steps commute when they succeed does not depend on the order. -/
theorem foldlM_perm {l l' : List α} (hperm : l.Perm l')
    (hcomm : ∀ s a b t, (f s a >>= fun s => f s b) = .ok t → (f s b >>= fun s => f s a) = .ok t)
    {init s : σ} (h : l.foldlM f init = .ok s) : l'.foldlM f init = .ok s := by
  induction hperm generalizing init with
  | nil => exact h
  | cons a _ ih =>
    rw [List.foldlM_cons, ok_of_bind] at h ⊢
    obtain ⟨t, hstep, hrest⟩ := h
    exact ⟨t, hstep, ih hrest⟩
  | swap a b l =>
    simp only [List.foldlM_cons, ok_of_bind] at h ⊢
    obtain ⟨t, hb, u, ha, hrest⟩ := h
    have hswap := hcomm init b a u (ok_of_bind.mpr ⟨t, hb, ha⟩)
    obtain ⟨t', ha', hb'⟩ := ok_of_bind.mp hswap
    exact ⟨t', ha', u, hb', hrest⟩
  | trans _ _ ih ih' => exact ih' (ih h)

end Fold

end Fallible
