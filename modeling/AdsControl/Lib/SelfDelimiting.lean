import AdsControl.Lib.FieldCode

/-!
# Self-delimiting codes

A byte string is built by writing one value after the other. It determines the values when each of them is
written so that its end can be seen.

* `Delimits`: whoever reads a value off the front of a string learns something about it, and where it ends;
* **`Delimits.append`**, `Delimits.comp`, `Delimits.option`, `Delimits.list`: how such codes are built;
* `delimits_bigEndian`, `delimits_twosComplement`, `delimits_text`: codes of numbers and texts.
-/

namespace FieldCode

variable {α β γ δ : Type}

/-- Among values with `p`, the front of a string determines `seen` of its value and the rest of the string. -/
def Delimits (p : α → Prop) (code : α → List β) (seen : α → γ) : Prop :=
  ∀ a a' rest rest', p a → p a' → code a ++ rest = code a' ++ rest' → seen a = seen a' ∧ rest = rest'

namespace Delimits

variable {p : α → Prop} {code code' : α → List β} {seen : α → γ} {seen' : α → δ}

theorem of_length {w : ℕ} (hlength : ∀ a, (code a).length = w)
    (hcode : ∀ a a', p a → p a' → code a = code a' → seen a = seen a') : Delimits p code seen := by
  intro a a' rest rest' ha ha' h
  obtain ⟨hfront, hrest⟩ := List.append_inj h ((hlength a).trans (hlength a').symm)
  exact ⟨hcode a a' ha ha' hfront, hrest⟩

theorem const (tag : List β) : Delimits p (fun _ => tag) fun _ => () :=
  of_length (fun _ => rfl) fun _ _ _ _ _ => rfl

/-- **One code after the other.** -/
theorem append (h : Delimits p code seen) (h' : Delimits p code' seen') :
    Delimits p (fun a => code a ++ code' a) fun a => (seen a, seen' a) := by
  intro a a' rest rest' ha ha' heq
  rw [List.append_assoc, List.append_assoc] at heq
  obtain ⟨hseen, hrest⟩ := h a a' _ _ ha ha' heq
  obtain ⟨hseen', hrest'⟩ := h' a a' _ _ ha ha' hrest
  exact ⟨Prod.ext hseen hseen', hrest'⟩

theorem comp {ι : Type} (h : Delimits p code seen) (f : ι → α) :
    Delimits (fun i => p (f i)) (fun i => code (f i)) fun i => seen (f i) :=
  fun i i' rest rest' hi hi' heq => h (f i) (f i') rest rest' hi hi' heq

theorem mono {q : α → Prop} (h : Delimits p code seen) (hq : ∀ a, q a → p a) : Delimits q code seen :=
  fun a a' rest rest' ha ha' heq => h a a' rest rest' (hq a ha) (hq a' ha') heq

theorem map (h : Delimits p code seen) (f : γ → δ) : Delimits p code fun a => f (seen a) :=
  fun a a' rest rest' ha ha' heq => (h a a' rest rest' ha ha' heq).imp_left (congrArg f)

/-- What determines the value seen may be seen instead of it. -/
theorem of_injective {f : γ → δ} (hf : Function.Injective f) (h : Delimits p code fun a => f (seen a)) :
    Delimits p code seen :=
  fun a a' rest rest' ha ha' heq => (h a a' rest rest' ha ha' heq).imp_left fun hseen => hf hseen

theorem option {present absent : β} (h : Delimits p code seen) (hmark : present ≠ absent) :
    Delimits (fun value : Option α => ∀ a ∈ value, p a)
      (fun value => (value.map fun a => present :: code a).getD [absent]) fun value => value.map seen := by
  intro value value' rest rest' hvalue hvalue' heq
  cases value with
  | none =>
    cases value' with
    | none => exact ⟨rfl, (List.cons.inj heq).2⟩
    | some a' => exact absurd (List.cons.inj heq).1.symm hmark
  | some a =>
    cases value' with
    | none => exact absurd (List.cons.inj heq).1 hmark
    | some a' =>
      obtain ⟨hseen, hrest⟩ := h a a' rest rest' (hvalue a rfl) (hvalue' a' rfl) (List.cons.inj heq).2
      exact ⟨congrArg some hseen, hrest⟩

theorem flatMap (h : Delimits p code seen) {l l' : List α} {rest rest' : List β} (hl : ∀ a ∈ l, p a)
    (hl' : ∀ a ∈ l', p a) (hlength : l.length = l'.length)
    (heq : l.flatMap code ++ rest = l'.flatMap code ++ rest') : l.map seen = l'.map seen ∧ rest = rest' := by
  induction l generalizing l' with
  | nil =>
    obtain rfl := List.length_eq_zero_iff.mp hlength.symm
    exact ⟨rfl, heq⟩
  | cons a l ih =>
    cases l' with
    | nil => cases hlength
    | cons a' l' =>
      rw [List.flatMap_cons, List.flatMap_cons, List.append_assoc, List.append_assoc] at heq
      obtain ⟨hseen, hmore⟩ := h a a' _ _ (hl a List.mem_cons_self) (hl' a' List.mem_cons_self) heq
      obtain ⟨hmap, hrest⟩ := ih (fun b hb => hl b (List.mem_cons_of_mem _ hb))
        (fun b hb => hl' b (List.mem_cons_of_mem _ hb)) (Nat.succ.inj hlength) hmore
      exact ⟨by rw [List.map_cons, List.map_cons, hseen, hmap], hrest⟩

theorem ofLength (h : Delimits p code seen) (n : ℕ) :
    Delimits (fun l : List α => l.length = n ∧ ∀ a ∈ l, p a) (fun l => l.flatMap code) fun l => l.map seen :=
  fun _ _ _ _ hl hl' heq => h.flatMap hl.2 hl'.2 (hl.1.trans hl'.1.symm) heq

/-- **A list after its length.** -/
theorem list {q : ℕ → Prop} {count : ℕ → List β} (hcount : Delimits q count id) (h : Delimits p code seen) :
    Delimits (fun l : List α => q l.length ∧ ∀ a ∈ l, p a)
      (fun l => count l.length ++ l.flatMap code) fun l => l.map seen := by
  intro l l' rest rest' hl hl' heq
  rw [List.append_assoc, List.append_assoc] at heq
  obtain ⟨hlength, hrest⟩ := hcount _ _ _ _ hl.1 hl'.1 heq
  exact h.flatMap hl.2 hl'.2 hlength hrest

/-- A whole string determines what is seen of its value. -/
theorem seen_eq (h : Delimits p code seen) {a a' : α} (ha : p a) (ha' : p a') (heq : code a = code a') :
    seen a = seen a' :=
  (h a a' [] [] ha ha' (by rw [heq])).1

end Delimits

/-! ## Numbers and texts -/

theorem delimits_bigEndian (w : ℕ) : Delimits (· < 256 ^ w) (bigEndian w) id :=
  .of_length (length_bigEndian w) fun _ _ hn hm h => bigEndian_inj hn hm h

/-- A signed number as the bytes of its residue. -/
def twosComplement (w : ℕ) (z : ℤ) : Bytes := bigEndian w (z % (256 ^ w : ℕ)).toNat

/-- The integers of `w` bytes. -/
def IsSigned (w : ℕ) (z : ℤ) : Prop := -(256 ^ w : ℕ) ≤ 2 * z ∧ 2 * z < (256 ^ w : ℕ)

theorem delimits_twosComplement (w : ℕ) : Delimits (IsSigned w) (twosComplement w) id := by
  refine .of_length (fun z => length_bigEndian w _) fun z z' hz hz' h => ?_
  have hpos : (0 : ℤ) < (256 ^ w : ℕ) := by positivity
  have hfits : ∀ z : ℤ, (z % (256 ^ w : ℕ)).toNat < 256 ^ w := fun z => by
    have hlt := Int.emod_lt_of_pos z hpos
    omega
  have hmod : z % (256 ^ w : ℕ) = z' % (256 ^ w : ℕ) := by
    have hnat := bigEndian_inj (hfits z) (hfits z') h
    have hz0 := Int.emod_nonneg z hpos.ne'
    have hz0' := Int.emod_nonneg z' hpos.ne'
    omega
  -- two numbers with one residue differ by a multiple of the modulus, and these differ by less
  have hdvd : ((256 ^ w : ℕ) : ℤ) ∣ z - z' := Int.ModEq.dvd hmod.symm
  obtain ⟨hz1, hz2⟩ := hz
  obtain ⟨hz1', hz2'⟩ := hz'
  have habs : |z - z'| < (256 ^ w : ℕ) := abs_lt.mpr ⟨by omega, by omega⟩
  exact sub_eq_zero.mp (Int.eq_zero_of_abs_lt_dvd hdvd habs)

/-- A text after the number of its bytes. -/
def textCode (s : String) : Bytes := bigEndian 8 s.utf8ByteSize ++ s.toUTF8.data.toList

theorem delimits_text : Delimits (fun s : String => s.utf8ByteSize < 256 ^ 8) textCode id := by
  intro s s' rest rest' hs hs' heq
  have hsize : ∀ s : String, s.toUTF8.data.toList.length = s.utf8ByteSize := fun s => rfl
  unfold textCode at heq
  rw [List.append_assoc, List.append_assoc] at heq
  obtain ⟨hlength, hrest⟩ := delimits_bigEndian 8 _ _ _ _ hs hs' heq
  obtain ⟨hbytes, hend⟩ := List.append_inj hrest ((hsize s).trans (hlength.trans (hsize s').symm))
  exact ⟨String.toByteArray_inj.mp (ByteArray.ext (Array.toList_inj.mp hbytes)), hend⟩

end FieldCode
