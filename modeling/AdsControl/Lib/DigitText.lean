import AdsControl.Lib.Machine

/-!
# Decimal numerals

The digits of a number as a list of characters, and numerals with an optional point.

* `value`, `byteSize`, `bytePrefix`, `splitOnce`: the number a list of digits denotes, the length in UTF-8
  bytes, the first bytes and the parts around the first separator;
* `checkedDigits`, `parseUnsigned`, `parseSigned`: digits read into a `w`-bit value, `none` on overflow;
* `Numeral`: digits with an optional point and more digits; `Numeral.value` is the number denoted;
* **`checkedDigits_eq_some`**, **`exists_numeral_iff`**: reading is exact, and splitting a text at its first
  point finds its numeral.
-/

namespace DigitText

open Machine

/-- The number a list of digits denotes. -/
def value (digits : List Char) : ℕ := Nat.ofDigitChars 10 digits 0

/-- The length in UTF-8 bytes. -/
def byteSize (text : List Char) : ℕ := (text.map Char.utf8Size).sum

/-- The first `n` bytes of a text, `none` if it is shorter or a character would be cut. -/
def bytePrefix : List Char → ℕ → Option (List Char)
  | _, 0 => some []
  | [], _ + 1 => none
  | c :: text, n + 1 =>
    if c.utf8Size ≤ n + 1 then (bytePrefix text (n + 1 - c.utf8Size)).map (c :: ·) else none

/-- The text before and after the first separator. -/
def splitOnce (sep : Char) : List Char → Option (List Char × List Char)
  | [] => none
  | c :: text => if c = sep then some ([], text) else (splitOnce sep text).map fun p => (c :: p.1, p.2)

/-- The value of one digit. -/
def digit (c : Char) : ℕ := c.toNat - '0'.toNat

/-- Digits read from the left into a `w`-bit value. -/
def checkedDigits (w : ℕ) (digits : List Char) : Option ℕ :=
  digits.foldlM (fun n c => (checkedMul w n 10).bind fun n => checkedAdd w n (digit c)) 0

/-- An unsigned `w`-bit value: digits after an optional plus sign. -/
def parseUnsigned (w : ℕ) (text : List Char) : Option ℕ :=
  let digits := if text.head? = some '+' then text.tail else text
  if digits ≠ [] ∧ digits.all Char.isDigit then checkedDigits w digits else none

/-- A signed `w`-bit value: digits after an optional sign. -/
def parseSigned (w : ℕ) (text : List Char) : Option ℤ :=
  match text with
  | '-' :: digits =>
    if digits ≠ [] ∧ digits.all Char.isDigit then
      ((checkedDigits w digits).filter (· ≤ 2 ^ (w - 1))).map fun n => -(n : ℤ)
    else none
  | text => ((parseUnsigned w text).filter (· < 2 ^ (w - 1))).map Nat.cast

/-! ## Values -/

theorem value_append (a b : List Char) : value (a ++ b) = value a * 10 ^ b.length + value b := by
  rw [value, Nat.ofDigitChars_append, Nat.ofDigitChars_eq_ofDigitChars_zero, Nat.mul_comm]
  rfl

theorem value_singleton (c : Char) : value [c] = digit c := by
  simp [value, Nat.ofDigitChars_cons, digit]

theorem value_snoc (digits : List Char) (c : Char) :
    value (digits ++ [c]) = value digits * 10 + digit c := by
  rw [value_append, value_singleton, List.length_singleton, pow_one]

theorem digit_lt {c : Char} (h : c.isDigit) : digit c < 10 := by
  simp only [Char.isDigit, Bool.and_eq_true, decide_eq_true_eq] at h
  have hle : c.toNat ≤ '9'.toNat := h.2
  have hnine : '9'.toNat - '0'.toNat = 9 := rfl
  unfold digit
  omega

theorem value_lt_pow {digits : List Char} (h : digits.all Char.isDigit) :
    value digits < 10 ^ digits.length := by
  induction digits using List.reverseRecOn with
  | nil => decide
  | append_singleton digits c ih =>
    rw [List.all_append, Bool.and_eq_true] at h
    have hc : digit c < 10 := digit_lt (by simpa using h.2)
    have hdigits := ih h.1
    rw [value_snoc, List.length_append, List.length_singleton, pow_succ]
    omega

/-- **Checked reading is exact**: it fails only when the value does not fit. -/
theorem checkedDigits_eq_some {w : ℕ} {digits : List Char} {n : ℕ} :
    checkedDigits w digits = some n ↔ n = value digits ∧ n < 2 ^ w := by
  induction digits using List.reverseRecOn generalizing n with
  | nil =>
    show some 0 = some n ↔ n = 0 ∧ n < 2 ^ w
    rw [Option.some.injEq]
    exact ⟨fun h => ⟨h.symm, h ▸ Nat.two_pow_pos w⟩, fun h => h.1.symm⟩
  | append_singleton digits c ih =>
    have hsnoc : checkedDigits w (digits ++ [c]) = (checkedDigits w digits).bind fun n =>
        (checkedMul w n 10).bind fun n => checkedAdd w n (digit c) := by
      simp [checkedDigits, List.foldlM_append]
    simp only [hsnoc, Option.bind_eq_some_iff, checkedMul_eq_some, checkedAdd_eq_some, ih, value_snoc]
    constructor
    · rintro ⟨m, ⟨rfl, -⟩, t, ⟨rfl, -⟩, rfl, hn⟩
      exact ⟨rfl, hn⟩
    · rintro ⟨rfl, hn⟩
      exact ⟨value digits, ⟨rfl, by omega⟩, value digits * 10, ⟨rfl, by omega⟩, rfl, hn⟩

theorem ne_of_isDigit {c d : Char} (hc : c.isDigit) (hd : d.isDigit = false) : c ≠ d := by
  rintro rfl
  rw [hc] at hd
  exact Bool.noConfusion hd

theorem parseUnsigned_eq_some {w : ℕ} {digits : List Char} {n : ℕ} (hne : digits ≠ [])
    (hdigits : digits.all Char.isDigit) :
    parseUnsigned w digits = some n ↔ n = value digits ∧ n < 2 ^ w := by
  have hplus : digits.head? ≠ some '+' := by
    intro h
    have hmem : '+' ∈ digits := List.mem_of_head? h
    exact ne_of_isDigit (List.all_eq_true.mp hdigits _ hmem) (by decide) rfl
  rw [parseUnsigned, if_neg hplus, if_pos ⟨hne, hdigits⟩, checkedDigits_eq_some]

/-! ## Sizes -/

theorem utf8Size_of_isDigit {c : Char} (h : c.isDigit) : c.utf8Size = 1 := by
  simp only [Char.isDigit, Bool.and_eq_true, decide_eq_true_eq] at h
  have hle : c.val ≤ 57 := h.2
  have hascii : (57 : UInt32) ≤ 127 := by decide
  exact Char.utf8Size_eq_one_iff.mpr (UInt32.le_trans hle hascii)

theorem byteSize_append (a b : List Char) : byteSize (a ++ b) = byteSize a + byteSize b := by
  rw [byteSize, List.map_append, List.sum_append, byteSize, byteSize]

theorem byteSize_cons (c : Char) (text : List Char) : byteSize (c :: text) = c.utf8Size + byteSize text := by
  rw [byteSize, List.map_cons, List.sum_cons, byteSize]

theorem byteSize_toList (s : String) : byteSize s.toList = s.utf8ByteSize := by
  induction s using String.push_induction with
  | empty => rfl
  | push s c ih =>
    rw [String.toList_push, byteSize_append, ih, String.utf8ByteSize_push]
    rfl

theorem byteSize_digits {digits : List Char} (h : digits.all Char.isDigit) :
    byteSize digits = digits.length := by
  induction digits with
  | nil => rfl
  | cons c digits ih =>
    rw [List.all_cons, Bool.and_eq_true] at h
    rw [byteSize_cons, utf8Size_of_isDigit h.1, ih h.2, List.length_cons, Nat.add_comm]

/-! ## The parts around a separator -/

theorem splitOnce_eq_none {sep : Char} {text : List Char} : splitOnce sep text = none ↔ sep ∉ text := by
  induction text with
  | nil => simp [splitOnce]
  | cons c text ih =>
    rw [splitOnce]
    split_ifs with h
    · simp [h]
    · rw [Option.map_eq_none_iff, ih, List.mem_cons, not_or]
      exact ⟨fun hn => ⟨Ne.symm h, hn⟩, And.right⟩

theorem splitOnce_append {sep : Char} {a : List Char} (b : List Char) (ha : sep ∉ a) :
    splitOnce sep (a ++ sep :: b) = some (a, b) := by
  induction a with
  | nil => simp [splitOnce]
  | cons c a ih =>
    rw [List.mem_cons, not_or] at ha
    rw [List.cons_append, splitOnce, if_neg (Ne.symm ha.1), ih ha.2]
    rfl

theorem eq_of_splitOnce {sep : Char} {text a b : List Char} (h : splitOnce sep text = some (a, b)) :
    text = a ++ sep :: b := by
  induction text generalizing a with
  | nil => exact nomatch h
  | cons c text ih =>
    rw [splitOnce] at h
    split_ifs at h with hc
    · obtain ⟨rfl, rfl⟩ := Prod.mk.inj (Option.some.inj h)
      rw [hc, List.nil_append]
    · obtain ⟨p, hp, hab⟩ := Option.map_eq_some_iff.mp h
      obtain ⟨rfl, rfl⟩ := Prod.mk.inj hab
      rw [ih hp, List.cons_append]

/-! ## Numerals -/

/-- **A numeral**: one or more digits, and after a point any number of them. -/
structure Numeral where
  whole : List Char
  fraction : Option (List Char)
  whole_ne_nil : whole ≠ []
  whole_digits : whole.all Char.isDigit
  fraction_digits : (fraction.getD []).all Char.isDigit

namespace Numeral

/-- The digits after the point. -/
def places (x : Numeral) : List Char := x.fraction.getD []

/-- The numeral as it is written. -/
def text (x : Numeral) : List Char := x.whole ++ x.fraction.elim [] fun fraction => '.' :: fraction

/-- The number denoted. -/
def value (x : Numeral) : ℚ := DigitText.value x.whole + DigitText.value x.places / 10 ^ x.places.length

theorem value_eq_div (x : Numeral) :
    x.value = (DigitText.value (x.whole ++ x.places) : ℚ) / 10 ^ x.places.length := by
  have hpow : (10 : ℚ) ^ x.places.length ≠ 0 := by positivity
  rw [value, value_append]
  push_cast
  rw [add_div, mul_div_cancel_right₀ _ hpow]

theorem point_notMem (x : Numeral) : '.' ∉ x.whole := fun h =>
  ne_of_isDigit (List.all_eq_true.mp x.whole_digits _ h) (by decide) rfl

theorem byteSize_text (x : Numeral) : byteSize x.text = x.text.length := by
  cases hf : x.fraction with
  | none =>
    rw [text, hf, Option.elim_none, List.append_nil]
    exact byteSize_digits x.whole_digits
  | some fraction =>
    have hfraction : fraction.all Char.isDigit := by simpa [hf] using x.fraction_digits
    rw [text, hf, Option.elim_some, byteSize_append, byteSize_cons, byteSize_digits x.whole_digits,
      byteSize_digits hfraction, List.length_append, List.length_cons, Nat.add_comm fraction.length]
    rfl

end Numeral

/-- The text before the first point, and the text after it when there is one. -/
def parts (text : List Char) : List Char × Option (List Char) :=
  match splitOnce '.' text with
  | none => (text, none)
  | some (whole, fraction) => (whole, some fraction)

theorem splitOnce_getD (text : List Char) :
    (splitOnce '.' text).getD (text, []) = ((parts text).1, (parts text).2.getD []) := by
  unfold parts
  cases splitOnce '.' text with
  | none => rfl
  | some p => rfl

theorem parts_snd_eq_none {text : List Char} : (parts text).2 = none ↔ '.' ∉ text := by
  rw [← splitOnce_eq_none]
  unfold parts
  cases splitOnce '.' text with
  | none => exact iff_of_true rfl rfl
  | some p => exact iff_of_false nofun nofun

theorem parts_text (x : Numeral) : parts x.text = (x.whole, x.fraction) := by
  cases hf : x.fraction with
  | none =>
    have hnone : splitOnce '.' x.whole = none := splitOnce_eq_none.mpr x.point_notMem
    simp [parts, Numeral.text, hf, hnone]
  | some fraction => simp [parts, Numeral.text, hf, splitOnce_append fraction x.point_notMem]

/-- The parts put together again. -/
theorem eq_of_parts {text whole : List Char} {fraction : Option (List Char)}
    (h : parts text = (whole, fraction)) : text = whole ++ fraction.elim [] fun fraction => '.' :: fraction := by
  unfold parts at h
  split at h
  · obtain ⟨rfl, rfl⟩ := Prod.mk.inj h
    exact (List.append_nil _).symm
  · next hs =>
    obtain ⟨rfl, rfl⟩ := Prod.mk.inj h
    exact eq_of_splitOnce hs

/-- **The numeral of a text** is found by splitting at the first point. -/
theorem exists_numeral_iff {text : List Char} {P : List Char → Option (List Char) → Prop} :
    (∃ x : Numeral, x.text = text ∧ P x.whole x.fraction) ↔
      (parts text).1 ≠ [] ∧ (parts text).1.all Char.isDigit ∧ ((parts text).2.getD []).all Char.isDigit ∧
        P (parts text).1 (parts text).2 := by
  constructor
  · rintro ⟨x, rfl, hP⟩
    rw [parts_text]
    exact ⟨x.whole_ne_nil, x.whole_digits, x.fraction_digits, hP⟩
  · rintro ⟨hne, hwhole, hfraction, hP⟩
    exact ⟨⟨_, _, hne, hwhole, hfraction⟩, (eq_of_parts rfl).symm, hP⟩

end DigitText
