import AdsControl.Lib.DigitText

/-!
# Instants as text

The text of an instant of the proleptic Gregorian calendar in UTC, with nanoseconds: the date, `T`, the time of
the day and `Z`. A year of four digits has no sign, any other has one.

* `civil`, `daysFromCivil`: dates as numbers of days since 1970-01-01;
* `padded`: decimal numbers with leading zeros;
* **`rfc3339_injective`**: the text determines the instant;
* `byteSize_rfc3339`: within ten thousand centuries it is short.
-/

namespace Rfc3339

open DigitText

/-! ## Dates -/

/-- A date by year, month and day. -/
structure CivilDate where
  year : ℤ
  month : ℕ
  day : ℕ
  deriving DecidableEq

/-- The year and the day of the year, both from March on, of a day in a cycle of 400 years. -/
def yearAndDay (dayOfCycle : ℤ) : ℤ × ℤ :=
  let century := min (dayOfCycle / 36524) 3
  let dayOfCentury := dayOfCycle - 36524 * century
  let leap := dayOfCentury / 1461
  let dayOfLeap := dayOfCentury % 1461
  let year := min (dayOfLeap / 365) 3
  (100 * century + 4 * leap + year, dayOfLeap - 365 * year)

/-- The month and the day of a day of the year. -/
def monthAndDay (dayOfYear : ℤ) : ℕ × ℕ :=
  let monthOfYear := (5 * dayOfYear + 2) / 153
  (((if monthOfYear < 10 then monthOfYear + 3 else monthOfYear - 9) : ℤ).toNat,
    (dayOfYear - (153 * monthOfYear + 2) / 5 + 1).toNat)

/-- January and February belong to the year before. -/
def lateMonth (month : ℕ) : ℤ := if month ≤ 2 then 1 else 0

/-- The date of a day. -/
def civil (days : ℤ) : CivilDate :=
  let shifted := days + 719468
  let position := yearAndDay (shifted % 146097)
  let monthDay := monthAndDay position.2
  ⟨position.1 + shifted / 146097 * 400 + lateMonth monthDay.1, monthDay.1, monthDay.2⟩

/-- The day of the year of a month and a day. -/
def dayOfYear (month day : ℕ) : ℤ :=
  let monthOfYear : ℤ := if 2 < month then month - 3 else month + 9
  (153 * monthOfYear + 2) / 5 + day - 1

/-- The day of a date. -/
def daysFromCivil (date : CivilDate) : ℤ :=
  let year := date.year - lateMonth date.month
  let yearOfCycle := year % 400
  year / 400 * 146097 + (yearOfCycle * 365 + yearOfCycle / 4 - yearOfCycle / 100 +
    dayOfYear date.month date.day) - 719468

theorem yearAndDay_bounds {dayOfCycle : ℤ} (h : 0 ≤ dayOfCycle) (h' : dayOfCycle < 146097) :
    0 ≤ (yearAndDay dayOfCycle).1 ∧ (yearAndDay dayOfCycle).1 < 400 ∧
      0 ≤ (yearAndDay dayOfCycle).2 ∧ (yearAndDay dayOfCycle).2 ≤ 365 := by
  simp only [yearAndDay]
  omega

/-- A year of the cycle starts after the leap days of the years before it. -/
theorem yearAndDay_spec {dayOfCycle : ℤ} (h : 0 ≤ dayOfCycle) (h' : dayOfCycle < 146097) :
    (yearAndDay dayOfCycle).1 * 365 + (yearAndDay dayOfCycle).1 / 4 - (yearAndDay dayOfCycle).1 / 100 +
      (yearAndDay dayOfCycle).2 = dayOfCycle := by
  simp only [yearAndDay]
  generalize hcentury : min (dayOfCycle / 36524) 3 = century
  generalize hleap : (dayOfCycle - 36524 * century) / 1461 = leap
  generalize hyear : min ((dayOfCycle - 36524 * century) % 1461 / 365) 3 = year
  have hbounds : 0 ≤ leap ∧ leap ≤ 24 ∧ 0 ≤ year ∧ year ≤ 3 := by omega
  have hfour : (100 * century + 4 * leap + year) / 4 = 25 * century + leap := by omega
  have hhundred : (100 * century + 4 * leap + year) / 100 = century := by omega
  rw [hfour, hhundred]
  omega

theorem monthAndDay_bounds {day : ℤ} (h : 0 ≤ day) (h' : day ≤ 365) :
    1 ≤ (monthAndDay day).1 ∧ (monthAndDay day).1 ≤ 12 ∧ 1 ≤ (monthAndDay day).2 ∧ (monthAndDay day).2 ≤ 31 := by
  simp only [monthAndDay]
  omega

theorem dayOfYear_monthAndDay {day : ℤ} (h : 0 ≤ day) (h' : day ≤ 365) :
    dayOfYear (monthAndDay day).1 (monthAndDay day).2 = day := by
  simp only [dayOfYear, monthAndDay]
  omega

theorem position_bounds (days : ℤ) :
    0 ≤ (yearAndDay ((days + 719468) % 146097)).1 ∧ (yearAndDay ((days + 719468) % 146097)).1 < 400 ∧
      0 ≤ (yearAndDay ((days + 719468) % 146097)).2 ∧ (yearAndDay ((days + 719468) % 146097)).2 ≤ 365 :=
  yearAndDay_bounds (Int.emod_nonneg _ (by decide)) (Int.emod_lt_of_pos _ (by decide))

theorem civil_bounds (days : ℤ) : 1 ≤ (civil days).month ∧ (civil days).month ≤ 12 ∧
    1 ≤ (civil days).day ∧ (civil days).day ≤ 31 :=
  monthAndDay_bounds (position_bounds days).2.2.1 (position_bounds days).2.2.2

/-- **A date determines its day.** -/
theorem daysFromCivil_civil (days : ℤ) : daysFromCivil (civil days) = days := by
  have hcycle := Int.emod_add_mul_ediv (days + 719468) 146097
  have hspec := yearAndDay_spec (Int.emod_nonneg (days + 719468) (by decide))
    (Int.emod_lt_of_pos (days + 719468) (by decide))
  obtain ⟨hyear, hyear', hfirst, hlast⟩ := position_bounds days
  have hday := dayOfYear_monthAndDay hfirst hlast
  have hquotient : ∀ cycle year : ℤ, 0 ≤ year → year < 400 →
      (year + cycle * 400) / 400 = cycle ∧ (year + cycle * 400) % 400 = year := by omega
  obtain ⟨hquotient, hremainder⟩ := hquotient ((days + 719468) / 146097) _ hyear hyear'
  simp only [daysFromCivil, civil, hday, add_sub_cancel_right, hquotient, hremainder]
  omega

/-! ## Numbers -/

/-- A number in at least `w` decimal digits. -/
def padded (w n : ℕ) : List Char := (Nat.toDigits 10 n).leftpad w '0'

@[simp] theorem value_padded (w n : ℕ) : value (padded w n) = n := by
  have hzeros : ∀ k, value (List.replicate k '0') = 0 := by
    intro k
    induction k with
    | zero => rfl
    | succ k ih => rw [List.replicate_succ', value_snoc, ih]; rfl
  rw [padded, List.leftpad, value_append, hzeros, zero_mul, zero_add]
  exact Nat.ofDigitChars_ten_toDigits

theorem length_padded {w n : ℕ} (hw : 0 < w) (hn : n < 10 ^ w) : (padded w n).length = w := by
  rw [padded, List.length_leftpad]
  exact max_eq_left ((Nat.length_toDigits_le_iff (by decide) hw).mpr hn)

theorem padded_inj {w n m : ℕ} (h : padded w n = padded w m) : n = m := by
  have hvalue := congrArg value h
  rwa [value_padded, value_padded] at hvalue

/-- A year with four digits, any other with its sign. -/
def yearText (year : ℤ) : List Char :=
  if 0 ≤ year ∧ year ≤ 9999 then padded 4 year.natAbs
  else (if year < 0 then '-' else '+') :: padded 4 year.natAbs

theorem isDigit_of_mem_padded {w n : ℕ} {c : Char} (h : c ∈ padded w n) : c.isDigit := by
  rcases List.mem_append.mp h with h | h
  · rw [List.eq_of_mem_replicate h]
    decide
  · exact Nat.isDigit_of_mem_toDigits (by decide) (by decide) h

theorem yearText_injective : Function.Injective yearText := by
  have hsigned : ∀ {sign : Char} {n m : ℕ}, sign.isDigit = false → sign :: padded 4 n ≠ padded 4 m := by
    intro sign n m hsign h
    have hdigit := isDigit_of_mem_padded (h ▸ List.mem_cons_self)
    rw [hsign] at hdigit
    cases hdigit
  have hdigit : ∀ year : ℤ, (if year < 0 then '-' else '+').isDigit = false := by
    intro year
    split_ifs <;> decide
  intro a b h
  by_cases ha : 0 ≤ a ∧ a ≤ 9999 <;> by_cases hb : 0 ≤ b ∧ b ≤ 9999
  · rw [yearText, yearText, if_pos ha, if_pos hb] at h
    have habs := padded_inj h
    omega
  · rw [yearText, yearText, if_pos ha, if_neg hb] at h
    exact absurd h.symm (hsigned (hdigit b))
  · rw [yearText, yearText, if_neg ha, if_pos hb] at h
    exact absurd h (hsigned (hdigit a))
  · rw [yearText, yearText, if_neg ha, if_neg hb] at h
    obtain ⟨hsign, hnumber⟩ := List.cons.inj h
    have habs := padded_inj hnumber
    split_ifs at hsign with hneg hneg' hneg'
    · omega
    · exact absurd hsign (by decide)
    · exact absurd hsign (by decide)
    · omega

/-! ## Instants -/

/-- A separator and a number of a fixed width. -/
def piece (separator : Char) (w n : ℕ) (rest : List Char) : List Char := separator :: padded w n ++ rest

theorem piece_inj {separator : Char} {w n m : ℕ} {a b : List Char} (hw : 0 < w) (hn : n < 10 ^ w) (hm : m < 10 ^ w)
    (h : piece separator w n a = piece separator w m b) : n = m ∧ a = b := by
  obtain ⟨hnumber, hrest⟩ := List.append_inj (List.cons.inj h).2
    ((length_padded hw hn).trans (length_padded hw hm).symm)
  exact ⟨padded_inj hnumber, hrest⟩

theorem length_piece {separator : Char} {w n : ℕ} {rest : List Char} (hw : 0 < w) (hn : n < 10 ^ w) :
    (piece separator w n rest).length = w + 1 + rest.length := by
  rw [piece, List.cons_append, List.length_cons, List.length_append, length_padded hw hn]
  omega

/-- Nanoseconds in a day. -/
def dayNanos : ℤ := 86400 * 1000000000

/-- The time of the day in seconds, and the nanoseconds after it. -/
def timeOfDay (instant : ℤ) : ℕ × ℕ :=
  ((instant % dayNanos / 1000000000).toNat, (instant % 1000000000).toNat)

/-- The text after the year. -/
def dayText (date : CivilDate) (time : ℕ × ℕ) : List Char :=
  piece '-' 2 date.month <| piece '-' 2 date.day <| piece 'T' 2 (time.1 / 3600) <|
    piece ':' 2 (time.1 / 60 % 60) <| piece ':' 2 (time.1 % 60) <| piece '.' 9 time.2 ['Z']

/-- The text of a number of nanoseconds since the epoch. -/
def rfc3339 (instant : ℤ) : String :=
  let date := civil (instant / dayNanos)
  String.ofList (yearText date.year ++ dayText date (timeOfDay instant))

theorem timeOfDay_bounds (instant : ℤ) : (timeOfDay instant).1 < 86400 ∧ (timeOfDay instant).2 < 1000000000 := by
  simp only [timeOfDay, dayNanos]
  omega

theorem dayText_inj {date date' : CivilDate} {time time' : ℕ × ℕ} (hdate : date.month < 100 ∧ date.day < 100)
    (hdate' : date'.month < 100 ∧ date'.day < 100) (htime : time.1 < 86400 ∧ time.2 < 1000000000)
    (htime' : time'.1 < 86400 ∧ time'.2 < 1000000000) (h : dayText date time = dayText date' time') :
    date.month = date'.month ∧ date.day = date'.day ∧ time = time' := by
  obtain ⟨hmonth, h⟩ := piece_inj (by decide) hdate.1 hdate'.1 h
  obtain ⟨hday, h⟩ := piece_inj (by decide) hdate.2 hdate'.2 h
  obtain ⟨hhour, h⟩ := piece_inj (by decide) (by omega) (by omega) h
  obtain ⟨hminute, h⟩ := piece_inj (by decide) (by omega) (by omega) h
  obtain ⟨hsecond, h⟩ := piece_inj (by decide) (by omega) (by omega) h
  obtain ⟨hnano, -⟩ := piece_inj (by decide) htime.2 htime'.2 h
  exact ⟨hmonth, hday, Prod.ext (by omega) hnano⟩

theorem length_dayText {date : CivilDate} {time : ℕ × ℕ} (hdate : date.month < 100 ∧ date.day < 100)
    (htime : time.1 < 86400 ∧ time.2 < 1000000000) : (dayText date time).length = 26 := by
  rw [dayText, length_piece (by decide) hdate.1, length_piece (by decide) hdate.2,
    length_piece (by decide) (by omega), length_piece (by decide) (by omega), length_piece (by decide) (by omega),
    length_piece (by decide) htime.2]
  rfl

/-- **The text determines the instant.** -/
theorem rfc3339_injective : Function.Injective rfc3339 := by
  intro a b h
  have hbounds : ∀ days : ℤ, (civil days).month < 100 ∧ (civil days).day < 100 := fun days => by
    have hcivil := civil_bounds days
    omega
  have hchars := String.ofList_injective h
  obtain ⟨hyear, hday⟩ := List.append_inj' hchars
    ((length_dayText (hbounds _) (timeOfDay_bounds a)).trans (length_dayText (hbounds _) (timeOfDay_bounds b)).symm)
  obtain ⟨hmonth, hday, htime⟩ := dayText_inj (hbounds _) (hbounds _) (timeOfDay_bounds a) (timeOfDay_bounds b) hday
  have hdate : civil (a / dayNanos) = civil (b / dayNanos) := by
    rw [CivilDate.mk.injEq]
    exact ⟨yearText_injective hyear, hmonth, hday⟩
  have hdays := congrArg daysFromCivil hdate
  rw [daysFromCivil_civil, daysFromCivil_civil] at hdays
  simp only [timeOfDay, Prod.mk.injEq, dayNanos] at htime hdays
  omega

example : rfc3339 1709210096000000007 = "2024-02-29T12:34:56.000000007Z" := by decide +kernel

theorem length_yearText {year : ℤ} (h : year.natAbs < 10 ^ 9) : (yearText year).length ≤ 10 := by
  have hpadded : (padded 4 year.natAbs).length ≤ 9 := by
    rw [padded, List.length_leftpad]
    exact max_le (by decide) ((Nat.length_toDigits_le_iff (by decide) (by decide)).mpr h)
  unfold yearText
  split_ifs
  · omega
  · rw [List.length_cons]
    omega
  · rw [List.length_cons]
    omega

theorem byteSize_le (text : List Char) : byteSize text ≤ 4 * text.length := by
  induction text with
  | nil => rfl
  | cons c text ih =>
    have hsize := c.utf8Size_le_four
    rw [byteSize_cons, List.length_cons]
    omega

theorem byteSize_rfc3339 {instant : ℤ} (h : instant.natAbs < 10 ^ 22) : (rfc3339 instant).utf8ByteSize ≤ 144 := by
  have hbounds := civil_bounds (instant / dayNanos)
  have hposition := position_bounds (instant / dayNanos)
  have hyear : (civil (instant / dayNanos)).year.natAbs < 10 ^ 9 := by
    simp only [civil, lateMonth, dayNanos] at hposition ⊢
    split_ifs <;> omega
  have htext := length_yearText hyear
  have hday := @length_dayText (civil (instant / dayNanos)) _ (by omega) (timeOfDay_bounds instant)
  rw [← byteSize_toList, rfc3339, String.toList_ofList]
  refine (byteSize_le _).trans ?_
  rw [List.length_append]
  omega

end Rfc3339
