import AdsControl.Lib.Document
import AdsControl.Lib.Fallible

/-!
# Arrays in another order

Two documents that differ only in the order of the entries of their arrays, at any depth.

* `Document.Rearranged`: such documents, with the views of `Document` in step: `Rearranged.asObject`,
  `Rearranged.asArray`, `RearrangedFields.lookup`;
* `PermUpTo`: lists of related entries in any order;
* `Agree`: two fallible computations that both fail, or succeed with related results; `Agree.bind`,
  **`Agree.mapM`**: for a traversal of related entries in any order.
-/

/-! ## Two fallible computations -/

namespace Fallible

variable {ε ε' α β α' β' : Type} {R : α → α' → Prop} {S : β → β' → Prop}

/-- Both fail, or both succeed with related results. -/
def Agree (R : α → α' → Prop) : Except ε α → Except ε' α' → Prop
  | .ok a, .ok a' => R a a'
  | .error _, .error _ => True
  | _, _ => False

theorem Agree.of_eq {x x' : Except ε α} (h : x = x') : Agree (· = ·) x x' := by
  subst h
  cases x <;> trivial

theorem Agree.mono {T : α → α' → Prop} {x : Except ε α} {x' : Except ε' α'} (h : Agree R x x')
    (hRT : ∀ a a', R a a' → T a a') : Agree T x x' := by
  cases x <;> cases x' <;> first | exact hRT _ _ h | exact h

theorem Agree.bind {x : Except ε α} {x' : Except ε' α'} {f : α → Except ε β} {f' : α' → Except ε' β'}
    (h : Agree R x x') (hf : ∀ a a', R a a' → Agree S (f a) (f' a')) :
    Agree S (x >>= f) (x' >>= f') := by
  cases x <;> cases x' <;> first | exact hf _ _ h | exact h.elim | trivial

theorem Agree.map {g : α → β} {x x' : Except ε α} (h : Agree (· = ·) x x') :
    Agree (· = ·) (x.map g) (x'.map g) := by
  cases x <;> cases x' <;> first | exact congrArg g h | exact h

theorem Agree.ensure {p q : Prop} [Decidable p] [Decidable q] {e : ε} {e' : ε'} (h : p ↔ q) :
    Agree (fun _ _ => True) (ensure p e) (ensure q e') := by
  by_cases hq : q
  · rw [Fallible.ensure, Fallible.ensure, if_pos (h.mpr hq), if_pos hq]
    trivial
  · rw [Fallible.ensure, Fallible.ensure, if_neg (mt h.mp hq), if_neg hq]
    trivial

theorem Agree.context {value : Option α} {value' : Option α'} {e : ε} {e' : ε'}
    (h : Option.Rel R value value') : Agree R (context value e) (context value' e') := by
  cases h with
  | none => trivial
  | some h => exact h

theorem rel_or {a b : Option α} {a' b' : Option α'} (h : Option.Rel R a a') (h' : Option.Rel R b b') :
    Option.Rel R (a.or b) (a'.or b') := by
  cases h with
  | none => exact h'
  | some h => exact .some h

theorem isSome_of_rel {a : Option α} {a' : Option α'} (h : Option.Rel R a a') : a.isSome = a'.isSome := by
  cases h <;> rfl

theorem Agree.mapError {ε₁ ε₂ : Type} {x : Except ε α} {x' : Except ε' α'} {g : ε → ε₁} {g' : ε' → ε₂}
    (h : Agree R x x') : Agree R (x.mapError g) (x'.mapError g') := by
  cases x <;> cases x' <;> exact h

theorem Agree.exists_congr {x : Except ε α} {x' : Except ε' α'} (h : Agree R x x') {P : α → Prop}
    {P' : α' → Prop} (hP : ∀ a a', R a a' → (P a ↔ P' a')) :
    (∃ a, x = .ok a ∧ P a) ↔ ∃ a', x' = .ok a' ∧ P' a' := by
  cases x <;> cases x' <;> simp only [Except.ok.injEq, reduceCtorEq, false_and, exists_false, exists_eq_left']
  · exact h.elim
  · exact h.elim
  · exact hP _ _ h

theorem Agree.of_ok_iff {x : Except ε α} {x' : Except ε' α} (h : ∀ a, x = .ok a ↔ x' = .ok a) :
    Agree (· = ·) x x' := by
  cases x <;> cases x' <;> simp_all [Agree]

theorem Agree.mapM_forall₂ {f : α → Except ε β} {f' : α' → Except ε' β'} {l : List α} {l' : List α'}
    (hl : List.Forall₂ R l l') (hf : ∀ a a', R a a' → Agree S (f a) (f' a')) :
    Agree (List.Forall₂ S) (l.mapM f) (l'.mapM f') := by
  induction hl with
  | nil => exact .nil
  | cons h _ ih =>
    rw [List.mapM_cons, List.mapM_cons]
    exact (hf _ _ h).bind fun b b' hb => ih.bind fun r r' hr => .cons hb hr

/-- Entries in another order. -/
theorem Agree.mapM_perm {f : α → Except ε β} {l l' : List α} (h : l.Perm l') :
    Agree List.Perm (l.mapM f) (l'.mapM f) := by
  cases hr : l.mapM f with
  | ok r =>
    obtain ⟨r', hr', hperm⟩ := exists_perm_of_mapM h hr
    rw [hr']
    exact hperm
  | error e =>
    cases hr' : l'.mapM f with
    | ok r' =>
      obtain ⟨r, hok, -⟩ := exists_perm_of_mapM h.symm hr'
      rw [hr] at hok
      cases hok
    | error e' => trivial

/-! ## Related entries in any order -/

/-- Entries related one by one, in another order. -/
def PermUpTo (R : α → α' → Prop) (l : List α) (l'' : List α') : Prop :=
  ∃ l', List.Forall₂ R l l' ∧ l'.Perm l''

theorem PermUpTo.refl {R : α → α → Prop} (hR : ∀ a, R a a) (l : List α) : PermUpTo R l l :=
  ⟨l, List.forall₂_same.mpr fun a _ => hR a, .refl l⟩

theorem permUpTo_eq {l l' : List α} : PermUpTo (· = ·) l l' ↔ l.Perm l' := by
  simp only [PermUpTo, List.forall₂_eq_eq_eq, exists_eq_left']

theorem PermUpTo.length_eq {l : List α} {l' : List α'} (h : PermUpTo R l l') : l.length = l'.length := by
  obtain ⟨middle, hrel, hperm⟩ := h
  rw [hrel.length_eq, hperm.length_eq]

theorem PermUpTo.flatten {ls : List (List α)} {ls' : List (List α')} (h : PermUpTo (PermUpTo R) ls ls') :
    PermUpTo R ls.flatten ls'.flatten := by
  obtain ⟨middle, hrel, hperm⟩ := h
  have hfirst : PermUpTo R ls.flatten middle.flatten := by
    clear hperm
    induction hrel with
    | nil => exact ⟨[], .nil, .refl _⟩
    | cons h _ ih =>
      obtain ⟨l, hl, hlperm⟩ := h
      obtain ⟨rest, hrest, hrestperm⟩ := ih
      exact ⟨l ++ rest, List.rel_append hl hrest, hlperm.append hrestperm⟩
  obtain ⟨l, hl, hlperm⟩ := hfirst
  exact ⟨l, hl, hlperm.trans hperm.flatten⟩

theorem PermUpTo.flatten_perm {ls ls' : List (List α)} (h : PermUpTo List.Perm ls ls') :
    ls.flatten.Perm ls'.flatten := by
  obtain ⟨middle, hrel, hperm⟩ := h
  have hflat : PermUpTo (· = ·) ls.flatten ls'.flatten :=
    PermUpTo.flatten ⟨middle, hrel.imp fun _ _ => permUpTo_eq.mpr, hperm⟩
  exact permUpTo_eq.mp hflat

/-- **A traversal of related entries in any order.** -/
theorem Agree.mapM {f : α → Except ε β} {f' : α' → Except ε' β'} {l : List α} {l' : List α'}
    (h : PermUpTo R l l') (hf : ∀ a a', R a a' → Agree S (f a) (f' a')) :
    Agree (PermUpTo S) (l.mapM f) (l'.mapM f') := by
  obtain ⟨middle, hrel, hperm⟩ := h
  have hall := Agree.mapM_forall₂ hrel hf
  have hrest := Agree.mapM_perm (f := f') hperm
  cases hfirst : l.mapM f <;> cases hmiddle : middle.mapM f' <;> cases hlast : l'.mapM f' <;>
    rw [hfirst, hmiddle] at hall <;> rw [hmiddle, hlast] at hrest <;>
      first | exact ⟨_, hall, hrest⟩ | exact hall.elim | exact hrest.elim | trivial

end Fallible

/-! ## Rearranged documents -/

namespace Document

open Fallible

/-- Equal but for the order of the entries of arrays. -/
inductive Rearranged : Document → Document → Prop
  | refl (value : Document) : Rearranged value value
  | array {items items' items'' : List Document} (hitems : List.Forall₂ Rearranged items items')
      (hperm : items'.Perm items'') : Rearranged (array items) (array items'')
  | object {fields fields' : List (String × Document)}
      (hnames : fields.map Prod.fst = fields'.map Prod.fst)
      (hvalues : List.Forall₂ Rearranged (fields.map Prod.snd) (fields'.map Prod.snd)) :
      Rearranged (object fields) (object fields')

/-- The same names with rearranged values. -/
def RearrangedFields (fields fields' : List (String × Document)) : Prop :=
  fields.map Prod.fst = fields'.map Prod.fst ∧
    List.Forall₂ Rearranged (fields.map Prod.snd) (fields'.map Prod.snd)

variable {value value' : Document} {fields fields' : List (String × Document)} {items items' : List Document}

theorem RearrangedFields.refl (fields : List (String × Document)) : RearrangedFields fields fields :=
  ⟨rfl, List.forall₂_same.mpr fun value _ => .refl value⟩

theorem Rearranged.asObject (h : Rearranged value value') :
    Option.Rel RearrangedFields value.asObject value'.asObject := by
  cases h with
  | refl => cases value <;> first | exact .some (.refl _) | exact .none
  | array => exact .none
  | object hnames hvalues => exact .some ⟨hnames, hvalues⟩

theorem Rearranged.asArray (h : Rearranged value value') :
    Option.Rel (PermUpTo Rearranged) value.asArray value'.asArray := by
  cases h with
  | refl => cases value <;> first | exact .some (.refl .refl _) | exact .none
  | array hitems hperm => exact .some ⟨_, hitems, hperm⟩
  | object => exact .none

/-- A function that treats all arrays alike and all objects alike. -/
theorem Rearranged.congr {γ : Type} {f : Document → γ} (h : Rearranged value value')
    (harray : ∀ items items', f (.array items) = f (.array items'))
    (hobject : ∀ fields fields', f (.object fields) = f (.object fields')) : f value = f value' := by
  cases h with
  | refl => rfl
  | array => exact harray _ _
  | object => exact hobject _ _

theorem RearrangedFields.lookup (h : RearrangedFields fields fields') (name : String) :
    Option.Rel Rearranged (fields.lookup name) (fields'.lookup name) := by
  obtain ⟨hnames, hvalues⟩ := h
  induction fields generalizing fields' with
  | nil =>
    rw [List.map_nil, eq_comm, List.map_eq_nil_iff] at hnames
    subst hnames
    exact .none
  | cons a fields ih =>
    obtain ⟨key, v⟩ := a
    cases fields' with
    | nil => cases hnames
    | cons b fields' =>
      obtain ⟨key', v'⟩ := b
      simp only [List.map_cons, List.cons.injEq, List.forall₂_cons] at hnames hvalues
      rw [List.lookup_cons, List.lookup_cons, hnames.1]
      cases name == key' with
      | true => exact .some hvalues.1
      | false => exact ih hnames.2 hvalues.2

end Document
