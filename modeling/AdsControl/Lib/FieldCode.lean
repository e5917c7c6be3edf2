import Mathlib

/-!
# Length-prefixed fields

A list of fields is written as one byte string, every field after its length, and the digest of the fields is
the hash of this string in hexadecimal digits.

* `positional`: a number in a fixed number of digits; `bigEndian`, `hexByte`: its bytes and its text;
* `Field`, `encode`: fields and their byte string;
* **`encode_injective`**: the byte string determines the fields;
* **`digest_injective`**: under an injective hash, so does the digest.
-/

namespace FieldCode

/-- A text of bytes. -/
abbrev Bytes : Type := List UInt8

/-! ## Numbers in a fixed number of digits -/

section Positional

variable {α : Type}

/-- The last `w` digits of `n` in base `b`, the highest first; `f` shows a digit. -/
def positional (f : ℕ → α) (b : ℕ) : ℕ → ℕ → List α
  | 0, _ => []
  | w + 1, n => positional f b w (n / b) ++ [f (n % b)]

@[simp] theorem length_positional (f : ℕ → α) (b w n : ℕ) : (positional f b w n).length = w := by
  induction w generalizing n with
  | zero => rfl
  | succ w ih => rw [positional, List.length_append, ih, List.length_singleton]

/-- The digits determine a number that fits. -/
theorem positional_inj {f : ℕ → α} {b w n m : ℕ} (hf : Set.InjOn f (Set.Iio b)) (hb : 0 < b)
    (hn : n < b ^ w) (hm : m < b ^ w) (h : positional f b w n = positional f b w m) : n = m := by
  induction w generalizing n m with
  | zero =>
    rw [pow_zero, Nat.lt_one_iff] at hn hm
    rw [hn, hm]
  | succ w ih =>
    obtain ⟨hhigh, hlow⟩ := List.append_inj' h rfl
    rw [pow_succ] at hn hm
    have hdiv : n / b = m / b := ih (Nat.div_lt_of_lt_mul (mul_comm b _ ▸ hn))
      (Nat.div_lt_of_lt_mul (mul_comm b _ ▸ hm)) hhigh
    have hmod : n % b = m % b := hf (Nat.mod_lt n hb) (Nat.mod_lt m hb) (List.singleton_inj.mp hlow)
    rw [← Nat.div_add_mod n b, hdiv, hmod, Nat.div_add_mod]

end Positional

/-- A number in a fixed number of bytes. -/
def bigEndian (w n : ℕ) : Bytes := positional UInt8.ofNat 256 w n

@[simp] theorem length_bigEndian (w n : ℕ) : (bigEndian w n).length = w := length_positional _ _ _ _

theorem bigEndian_inj {w n m : ℕ} (hn : n < 256 ^ w) (hm : m < 256 ^ w) (h : bigEndian w n = bigEndian w m) :
    n = m := by
  refine positional_inj (fun i hi j hj hij => ?_) (by decide) hn hm h
  have hvalue := congrArg UInt8.toNat hij
  rwa [UInt8.toNat_ofNat', UInt8.toNat_ofNat', Nat.mod_eq_of_lt hi, Nat.mod_eq_of_lt hj] at hvalue

/-! ## Hexadecimal text -/

/-- A byte as two hexadecimal digits. -/
def hexByte (byte : UInt8) : List Char := positional Nat.digitChar 16 2 byte.toNat

theorem hexByte_injective : Function.Injective hexByte := by
  intro a b h
  have hdigits : ∀ i < 16, ∀ j < 16, Nat.digitChar i = Nat.digitChar j → i = j := by decide
  have hbound : ∀ byte : UInt8, byte.toNat < 16 ^ 2 := fun byte => byte.toNat_lt
  exact UInt8.toNat_inj.mp (positional_inj (fun i hi j hj => hdigits i hi j hj) (by decide) (hbound a) (hbound b) h)

/-- Bytes as hexadecimal digits. -/
def hex (bytes : Bytes) : String := String.ofList (bytes.flatMap hexByte)

theorem hex_injective : Function.Injective hex := by
  intro a b h
  have hchars : a.flatMap hexByte = b.flatMap hexByte := String.ofList_injective h
  clear h
  induction a generalizing b with
  | nil =>
    cases b with
    | nil => rfl
    | cons y b =>
      have hlength := congrArg List.length hchars
      simp [hexByte] at hlength
      omega
  | cons x a ih =>
    cases b with
    | nil => exact absurd (congrArg List.length hchars) (by simp [hexByte])
    | cons y b =>
      rw [List.flatMap_cons, List.flatMap_cons] at hchars
      obtain ⟨hfirst, hrest⟩ := List.append_inj hchars (by simp [hexByte])
      rw [hexByte_injective hfirst, ih hrest]

theorem mem_positional {f : ℕ → Char} {b w n : ℕ} (hb : 0 < b) {c : Char} (h : c ∈ positional f b w n) :
    ∃ i < b, f i = c := by
  induction w generalizing n with
  | zero => cases h
  | succ w ih =>
    rw [positional, List.mem_append, List.mem_singleton] at h
    obtain h | rfl := h
    · exact ih h
    · exact ⟨n % b, Nat.mod_lt n hb, rfl⟩

theorem length_hex (bytes : Bytes) : (hex bytes).length = 2 * bytes.length := by
  rw [hex, String.length_ofList]
  induction bytes with
  | nil => rfl
  | cons byte bytes ih =>
    rw [List.flatMap_cons, List.length_append, ih, hexByte, length_positional, List.length_cons]
    omega

theorem mem_hex {bytes : Bytes} {c : Char} (h : c ∈ (hex bytes).toList) : ∃ i < 16, Nat.digitChar i = c := by
  rw [hex, String.toList_ofList, List.mem_flatMap] at h
  obtain ⟨byte, -, hc⟩ := h
  exact mem_positional (by decide) hc

/-! ## Fields -/

/-- A byte string whose length fits in eight bytes. -/
abbrev Field : Type := { bytes : Bytes // bytes.length < 2 ^ 64 }

/-- A text of this kind. -/
abbrev Text : Type := { text : String // text.utf8ByteSize < 2 ^ 64 }

/-- A text as a field. -/
def Field.ofText (text : Text) : Field := ⟨text.1.toUTF8.data.toList, text.2⟩

theorem Field.ofText_injective : Function.Injective Field.ofText := by
  intro a b h
  have hbytes : a.1.toUTF8.data.toList = b.1.toUTF8.data.toList := congrArg Subtype.val h
  exact Subtype.ext (String.toByteArray_inj.mp (ByteArray.ext (Array.toList_inj.mp hbytes)))

/-- A number of `w` bytes. -/
def Field.ofNumber (w n : ℕ) (hw : w < 2 ^ 64) : Field := ⟨bigEndian w n, by rwa [length_bigEndian]⟩

theorem Field.ofNumber_inj {w n m : ℕ} {hw : w < 2 ^ 64} (hn : n < 256 ^ w) (hm : m < 256 ^ w)
    (h : Field.ofNumber w n hw = Field.ofNumber w m hw) : n = m :=
  bigEndian_inj hn hm (congrArg Subtype.val h)

/-- A number of 64 bits as a field. -/
def Field.ofU64 (n : UInt64) : Field := .ofNumber 8 n.toNat (by decide)

/-- A number of 32 bits as a field. -/
def Field.ofU32 (n : UInt32) : Field := .ofNumber 4 n.toNat (by decide)

/-- A number of 8 bits as a field. -/
def Field.ofU8 (n : UInt8) : Field := .ofNumber 1 n.toNat (by decide)

theorem Field.ofU64_injective : Function.Injective Field.ofU64 := fun a b h =>
  UInt64.toNat_inj.mp (Field.ofNumber_inj a.toNat_lt b.toNat_lt h)

theorem Field.ofU32_injective : Function.Injective Field.ofU32 := fun a b h =>
  UInt32.toNat_inj.mp (Field.ofNumber_inj a.toNat_lt b.toNat_lt h)

theorem Field.ofU8_injective : Function.Injective Field.ofU8 := fun a b h =>
  UInt8.toNat_inj.mp (Field.ofNumber_inj a.toNat_lt b.toNat_lt h)

/-! ## Encodings -/

/-- Every field after its length. -/
def encode : List Field → Bytes
  | [] => []
  | field :: fields => bigEndian 8 field.1.length ++ (field.1 ++ encode fields)

/-- **The byte string determines the fields.** -/
theorem encode_injective : Function.Injective encode := by
  intro a b h
  induction a generalizing b with
  | nil =>
    cases b with
    | nil => rfl
    | cons y b =>
      have hlength := congrArg List.length h
      simp [encode] at hlength
      omega
  | cons x a ih =>
    cases b with
    | nil => exact absurd (congrArg List.length h) (by simp [encode])
    | cons y b =>
      rw [encode, encode] at h
      obtain ⟨hlength, hfields⟩ := List.append_inj h (by simp)
      obtain ⟨hfirst, hrest⟩ := List.append_inj hfields (bigEndian_inj x.2 y.2 hlength)
      rw [Subtype.ext hfirst, ih hrest]

theorem terminated_inj {α : Type} {zero : α} {a a' b b' : List α} (ha : zero ∉ a) (ha' : zero ∉ a')
    (h : a ++ zero :: b = a' ++ zero :: b') : a = a' := by
  induction a generalizing a' with
  | nil =>
    cases a' with
    | nil => rfl
    | cons y a' => exact absurd ((List.cons.inj h).1 ▸ List.mem_cons_self) ha'
  | cons x a ih =>
    cases a' with
    | nil => exact absurd ((List.cons.inj h).1 ▸ List.mem_cons_self) ha
    | cons y a' =>
      obtain ⟨hfirst, hrest⟩ := List.cons.inj h
      rw [hfirst, ih (List.not_mem_of_not_mem_cons ha) (List.not_mem_of_not_mem_cons ha') hrest]

/-- The digest of fields under a hash. -/
def digest (hash : Bytes → Bytes) (fields : List Field) : String := hex (hash (encode fields))

/-- **Under an injective hash the digest determines the fields.** -/
theorem digest_injective {hash : Bytes → Bytes} (hhash : Function.Injective hash) :
    Function.Injective (digest hash) := fun _ _ h => encode_injective (hhash (hex_injective h))

end FieldCode
