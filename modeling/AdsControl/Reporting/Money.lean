import AdsControl.Lib.DigitText
import AdsControl.Reporting.WbSales

/-!
# Amounts of money in replies

Both marketplaces send amounts as decimal text; the report adds them in hundredths. Each adapter reads the
text in its own way.

* `parseMinor`, `parsePerformanceMinor`: the readers of the Ozon adapter;
* `minor`: the reader of the Wildberries adapter;
* `MinorText`: the texts an amount has;
* **`money_parsers_agree`**: both adapters accept exactly these texts and read the amount they denote; a
  single comma may stand for the point in advertising reports.
-/

namespace AdsControl.Reporting

open DigitText Fallible Machine

/-! ## The readers -/

/-- A JSON value as the readers tell them apart; a number is known by its text. -/
inductive Value
  | number (text : String)
  | string (text : String)
  | other
  deriving DecidableEq

/-- The text of a number or a string. -/
def Value.text? : Value → Option String
  | .number text => some text
  | .string text => some text
  | .other => none

/-- Why a response is not read. -/
inductive OzonReportParseError
  | shape
  | value
  | tooManyRows
  | currency
  deriving DecidableEq

/-- An amount in kopecks, with a point. -/
def parseMinor (value : Value) : Except OzonReportParseError ℕ := do
  let text ← context value.text? .value
  let source := text.toList
  let (whole, fraction) := (splitOnce '.' source).getD (source, [])
  ensure (whole ≠ [] ∧ whole.all Char.isDigit ∧ byteSize fraction ≤ 2 ∧ fraction.all Char.isDigit) .value
  let whole ← context (parseUnsigned 64 whole) .value
  let fraction := (fraction[0]?.elim 0 fun c => digit c * 10) + fraction[1]?.elim 0 digit
  context ((checkedMul 64 whole 100).bind fun minor => checkedAdd 64 minor fraction) .value

/-- Commas as points. -/
def replaceCommas (text : String) : String :=
  String.ofList (text.toList.map fun c => if c = ',' then '.' else c)

/-- An amount in kopecks, with a point or a comma. -/
def parsePerformanceMinor : Value → Except OzonReportParseError ℕ
  | .string text =>
    if 1 < text.toList.count ',' ∨ ',' ∈ text.toList ∧ '.' ∈ text.toList then .error .value
    else parseMinor (.string (replaceCommas text))
  | value => parseMinor value

/-- The hundredths of the digits after the point. -/
def fractional (fraction : List Char) : Except WbReportParseError ℕ :=
  if fraction = [] then .ok 0
  else if byteSize fraction = 1 then (context (parseUnsigned 64 fraction) .value).map (· * 10)
  else context (parseUnsigned 64 fraction) .value

/-- An amount in kopecks, within the bounds of its text. -/
def minor (value : Value) : Except WbReportParseError ℕ := do
  let text ← context value.text? .value
  let raw := text.toList
  let (whole, fraction) := (splitOnce '.' raw).getD (raw, [])
  ensure (whole ≠ [] ∧ whole.head? ≠ some '-' ∧ whole.all Char.isDigit ∧ byteSize fraction ≤ 2 ∧
    fraction.all Char.isDigit) .value
  let whole ← context (parseUnsigned 64 whole) .value
  let fraction ← fractional fraction
  context ((checkedMul 64 whole 100).bind fun minor => checkedAdd 64 minor fraction) .value

/-! ## What they accept -/

/-- **The texts of an amount**: a numeral with at most two digits after its point, whose hundredths are the
amount and fit 64 bits. -/
def MinorText (text : List Char) (amount : ℕ) : Prop :=
  ∃ x : Numeral, x.text = text ∧ x.places.length ≤ 2 ∧ (amount : ℚ) = x.value * 100 ∧ amount < 2 ^ 64

/-- The hundredths of at most two digits. -/
def hundredths (fraction : List Char) : ℕ := DigitText.value fraction * 10 ^ (2 - fraction.length)

theorem value_mul_hundred {x : Numeral} (h : x.places.length ≤ 2) :
    x.value * 100 = (DigitText.value x.whole * 100 + hundredths x.places : ℕ) := by
  have hpow : (10 : ℚ) ^ x.places.length ≠ 0 := by positivity
  have hundred : (100 : ℚ) = 10 ^ x.places.length * 10 ^ (2 - x.places.length) := by
    rw [← pow_add, Nat.add_sub_cancel' h]
    norm_num
  have hfraction : (DigitText.value x.places : ℚ) / 10 ^ x.places.length * 100 =
      DigitText.value x.places * 10 ^ (2 - x.places.length) := by
    rw [hundred, ← mul_assoc, div_mul_cancel₀ _ hpow]
  rw [Numeral.value, add_mul, hfraction, hundredths]
  push_cast
  ring

/-- The texts of an amount by their parts. -/
theorem minorText_iff {text whole fraction : List Char} {amount : ℕ}
    (h : (splitOnce '.' text).getD (text, []) = (whole, fraction)) :
    MinorText text amount ↔ (whole ≠ [] ∧ whole.all Char.isDigit ∧ byteSize fraction ≤ 2 ∧
      fraction.all Char.isDigit) ∧ amount = DigitText.value whole * 100 + hundredths fraction ∧
        amount < 2 ^ 64 := by
  rw [splitOnce_getD] at h
  obtain ⟨rfl, rfl⟩ := Prod.mk.inj h
  have hparts := @exists_numeral_iff text fun whole fraction => (fraction.getD []).length ≤ 2 ∧
    amount = DigitText.value whole * 100 + hundredths (fraction.getD []) ∧ amount < 2 ^ 64
  have hnumeral : MinorText text amount ↔ ∃ x : Numeral, x.text = text ∧ x.places.length ≤ 2 ∧
      amount = DigitText.value x.whole * 100 + hundredths x.places ∧ amount < 2 ^ 64 := by
    refine exists_congr fun x => and_congr_right fun _ => and_congr_right fun hplaces => ?_
    rw [value_mul_hundred hplaces, Nat.cast_inj]
  rw [hnumeral]
  refine hparts.trans ⟨?_, ?_⟩
  · rintro ⟨hne, hwhole, hfraction, hplaces, hamount⟩
    exact ⟨⟨hne, hwhole, (byteSize_digits hfraction).trans_le hplaces, hfraction⟩, hamount⟩
  · rintro ⟨⟨hne, hwhole, hsize, hfraction⟩, hamount⟩
    exact ⟨hne, hwhole, hfraction, (byteSize_digits hfraction).symm.trans_le hsize, hamount⟩

theorem checked_minor {whole fraction amount : ℕ} :
    ((checkedMul 64 whole 100).bind fun minor => checkedAdd 64 minor fraction) = some amount ↔
      amount = whole * 100 + fraction ∧ amount < 2 ^ 64 := by
  simp only [Option.bind_eq_some_iff, checkedMul_eq_some, checkedAdd_eq_some]
  constructor
  · rintro ⟨t, ⟨rfl, -⟩, hamount⟩
    exact hamount
  · rintro ⟨rfl, hlt⟩
    exact ⟨whole * 100, ⟨rfl, by omega⟩, rfl, hlt⟩

theorem fraction_cases {fraction : List Char} (hsize : byteSize fraction ≤ 2)
    (hdigits : fraction.all Char.isDigit) :
    fraction = [] ∨ (∃ a, fraction = [a]) ∨ ∃ a b, fraction = [a, b] := by
  rw [byteSize_digits hdigits] at hsize
  match fraction with
  | [] => exact .inl rfl
  | [a] => exact .inr (.inl ⟨a, rfl⟩)
  | [a, b] => exact .inr (.inr ⟨a, b, rfl⟩)
  | _ :: _ :: _ :: _ => exact absurd hsize (by simp)

theorem hundredths_pair (a b : Char) : hundredths [a, b] = digit a * 10 + digit b := by
  have hvalue : DigitText.value [a, b] = DigitText.value [a] * 10 + digit b := value_snoc [a] b
  rw [hundredths, hvalue, value_singleton]
  simp

theorem hundredths_singleton (a : Char) : hundredths [a] = digit a * 10 := by
  rw [hundredths, value_singleton]
  rfl

theorem digits_hundredths {fraction : List Char} (hsize : byteSize fraction ≤ 2)
    (hdigits : fraction.all Char.isDigit) :
    (fraction[0]?.elim 0 fun c => digit c * 10) + fraction[1]?.elim 0 digit = hundredths fraction := by
  obtain rfl | ⟨a, rfl⟩ | ⟨a, b, rfl⟩ := fraction_cases hsize hdigits
  · rfl
  · exact (hundredths_singleton a).symm
  · exact (hundredths_pair a b).symm

/-- The Wildberries adapter reads them as a number. -/
theorem fractional_eq {fraction : List Char} (hsize : byteSize fraction ≤ 2)
    (hdigits : fraction.all Char.isDigit) : fractional fraction = .ok (hundredths fraction) := by
  have hread : ∀ digits : List Char, digits ≠ [] → digits.all Char.isDigit → digits.length ≤ 2 →
      parseUnsigned 64 digits = some (DigitText.value digits) := by
    intro digits hne hall hlength
    have hlt : DigitText.value digits < 10 ^ digits.length := value_lt_pow hall
    have hpow : 10 ^ digits.length ≤ 10 ^ 2 := Nat.pow_le_pow_right (by decide) hlength
    exact (parseUnsigned_eq_some hne hall).mpr ⟨rfl, by omega⟩
  have hlength := byteSize_digits hdigits
  obtain rfl | ⟨a, rfl⟩ | ⟨a, b, rfl⟩ := fraction_cases hsize hdigits
  · rfl
  · have hone : byteSize [a] = 1 := hlength
    rw [fractional, if_neg (List.cons_ne_nil _ _), if_pos hone, hread _ (by simp) hdigits (by simp),
      hundredths_singleton, value_singleton]
    rfl
  · rw [fractional, if_neg (List.cons_ne_nil _ _), if_neg (by rw [hlength]; simp),
      hread _ (by simp) hdigits (by simp)]
    simp [hundredths, context]

section Readers

variable {value : Value} {text : String} {amount : ℕ}

/-- **The Ozon reader** accepts the texts of an amount. -/
theorem parseMinor_eq_ok (h : value.text? = some text) :
    parseMinor value = .ok amount ↔ MinorText text.toList amount := by
  rw [minorText_iff (Prod.eta ((splitOnce '.' text.toList).getD (text.toList, []))).symm]
  simp only [parseMinor, h, ok_of_bind, ensure_eq_ok, context_eq_ok, checked_minor, Option.some.injEq,
    exists_eq_left']
  generalize (splitOnce '.' text.toList).getD (text.toList, []) = p
  constructor
  · rintro ⟨_, hparts, n, hn, rfl, hlt⟩
    obtain ⟨hne, hwhole, hsize, hfraction⟩ := hparts
    rw [digits_hundredths hsize hfraction] at hlt ⊢
    rw [parseUnsigned_eq_some hne hwhole] at hn
    rw [hn.1] at hlt ⊢
    exact ⟨⟨hne, hwhole, hsize, hfraction⟩, rfl, hlt⟩
  · rintro ⟨⟨hne, hwhole, hsize, hfraction⟩, rfl, hlt⟩
    have hn : parseUnsigned 64 p.1 = some (DigitText.value p.1) :=
      (parseUnsigned_eq_some hne hwhole).mpr ⟨rfl, by omega⟩
    refine ⟨(), ⟨hne, hwhole, hsize, hfraction⟩, _, hn, ?_, hlt⟩
    rw [digits_hundredths hsize hfraction]

/-- **The Wildberries reader** accepts the same texts. -/
theorem minor_eq_ok (h : value.text? = some text) :
    minor value = .ok amount ↔ MinorText text.toList amount := by
  rw [minorText_iff (Prod.eta ((splitOnce '.' text.toList).getD (text.toList, []))).symm]
  simp only [minor, h, ok_of_bind, ensure_eq_ok, context_eq_ok, checked_minor, Option.some.injEq,
    exists_eq_left']
  generalize (splitOnce '.' text.toList).getD (text.toList, []) = p
  constructor
  · rintro ⟨_, ⟨hne, -, hwhole, hsize, hfraction⟩, n, hn, f, hf, rfl, hlt⟩
    rw [fractional_eq hsize hfraction, Except.ok.injEq] at hf
    rw [parseUnsigned_eq_some hne hwhole] at hn
    rw [hn.1, ← hf] at hlt ⊢
    exact ⟨⟨hne, hwhole, hsize, hfraction⟩, rfl, hlt⟩
  · rintro ⟨⟨hne, hwhole, hsize, hfraction⟩, rfl, hlt⟩
    -- a digit is not a minus sign
    have hsign : p.1.head? ≠ some '-' := fun hhead =>
      ne_of_isDigit (List.all_eq_true.mp hwhole _ (List.mem_of_head? hhead)) (by decide) rfl
    have hn : parseUnsigned 64 p.1 = some (DigitText.value p.1) :=
      (parseUnsigned_eq_some hne hwhole).mpr ⟨rfl, by omega⟩
    exact ⟨(), ⟨hne, hsign, hwhole, hsize, hfraction⟩, _, hn, _, fractional_eq hsize hfraction, rfl, hlt⟩

end Readers

/-! ## Separators -/

/-- The separators of a text. -/
def separators (text : String) : ℕ := text.toList.countP fun c => c == '.' || c == ','

theorem separators_eq (text : String) : separators text = text.toList.count '.' + text.toList.count ',' := by
  unfold separators
  induction text.toList with
  | nil => rfl
  | cons c l ih =>
    by_cases hdot : c = '.'
    · have hcomma : ('.' == ',') = false := by decide
      simp [hdot, ih, hcomma]
      omega
    · by_cases hcomma : c = ','
      · have hdot : (',' == '.') = false := by decide
        simp [hcomma, ih, hdot]
        omega
      · simp [hdot, hcomma, ih]

theorem MinorText.count_point {text : List Char} {amount : ℕ} (h : MinorText text amount) :
    text.count '.' ≤ 1 := by
  have hdigits : ∀ digits : List Char, digits.all Char.isDigit → digits.count '.' = 0 := fun _ hall =>
    List.count_eq_zero.mpr fun hmem => ne_of_isDigit (List.all_eq_true.mp hall _ hmem) (by decide) rfl
  obtain ⟨x, rfl, -⟩ := h
  have hfraction := x.fraction_digits
  rw [Numeral.text, List.count_append, hdigits _ x.whole_digits]
  cases hf : x.fraction with
  | none => simp
  | some fraction =>
    rw [hf] at hfraction
    simp [hdigits fraction hfraction]

theorem count_replaceCommas (text : String) : (replaceCommas text).toList.count '.' = separators text := by
  rw [replaceCommas, String.toList_ofList, separators, List.count, List.countP_map]
  congr 1
  funext c
  by_cases hcomma : c = ','
  · simp [hcomma]
  · simp [hcomma]

/-- **Advertising reports**: one separator at most, and the text with a point for the comma. -/
theorem parsePerformanceMinor_eq_ok {text : String} {amount : ℕ} :
    parsePerformanceMinor (.string text) = .ok amount ↔
      separators text ≤ 1 ∧ parseMinor (.string (replaceCommas text)) = .ok amount := by
  have hmem : ∀ c : Char, c ∈ text.toList ↔ 1 ≤ text.toList.count c := fun c => List.count_pos_iff.symm
  rw [parsePerformanceMinor]
  split_ifs with h
  · have hmany : ¬ separators text ≤ 1 := by
      rw [separators_eq]
      rw [hmem, hmem] at h
      omega
    simp [hmany]
  · refine ⟨fun hread => ⟨?_, hread⟩, And.right⟩
    have hone := ((parseMinor_eq_ok rfl).mp hread).count_point
    rwa [count_replaceCommas] at hone

/-- **The readers of money agree**: for every text each adapter accepts exactly the texts of an amount and
reads that amount, whether it comes as a number or as a string; in advertising reports the single separator
may be a comma. -/
theorem money_parsers_agree (text : String) (amount : ℕ) :
    (parseMinor (.string text) = .ok amount ↔ MinorText text.toList amount) ∧
      (minor (.string text) = .ok amount ↔ MinorText text.toList amount) ∧
      (parseMinor (.number text) = .ok amount ↔ minor (.number text) = .ok amount) ∧
      (parsePerformanceMinor (.string text) = .ok amount ↔
        separators text ≤ 1 ∧ parseMinor (.string (replaceCommas text)) = .ok amount) :=
  ⟨parseMinor_eq_ok rfl, minor_eq_ok rfl, (parseMinor_eq_ok rfl).trans (minor_eq_ok rfl).symm,
    parsePerformanceMinor_eq_ok⟩

example : parsePerformanceMinor (.string "12,5") = .ok 1250 := by decide +kernel

example : minor (.string "12.345") = .error .value := by decide +kernel

end AdsControl.Reporting
