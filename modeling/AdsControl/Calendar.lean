import Mathlib

/-!
# Business clocks

An instant is a number of nanoseconds since the Unix epoch and a date a number of days, both in
`ℤ`. Zones are fixed offsets in seconds: Moscow for promotion budgets, Yekaterinburg for reports.
-/

namespace AdsControl

/-- A duration of `n` whole seconds. -/
def seconds (n : ℤ) : ℤ := n * 1000000000

/-- Hours as a duration. -/
def hours (n : ℤ) : ℤ := seconds (n * 3600)

/-- The first and the last instant of the supported calendar. -/
def minUtc : ℤ := seconds (-8334601228800)

/-- The last instant of the calendar. -/
def maxUtc : ℤ := seconds 8210266876799 + 999999999

/-- The instants a clock may show. -/
abbrev Instant : Type := { t : ℤ // minUtc ≤ t ∧ t ≤ maxUtc }

/-- An instant, absent outside of the calendar. -/
def inCalendar (instant : ℤ) : Option ℤ :=
  if minUtc ≤ instant ∧ instant ≤ maxUtc then some instant else none

/-- A later instant within the calendar. -/
def checkedAddSigned (instant duration : ℤ) : Option ℤ := inCalendar (instant + duration)

/-- Europe/Moscow. -/
def moscow : ℤ := 3 * 60 * 60

/-- Asia/Yekaterinburg. -/
def yekaterinburg : ℤ := 5 * 60 * 60

/-- The calendar date of an instant on the clock of a zone. -/
def dateIn (zone instant : ℤ) : ℤ := (instant / seconds 1 + zone) / 86400

/-- Seconds elapsed since local midnight on the clock of a zone. -/
def secondsSinceMidnight (zone instant : ℤ) : ℕ :=
  ((instant / seconds 1 + zone) % 86400).toNat

/-- The dates of the supported calendar. -/
abbrev NaiveDate : Type := { d : ℤ // dateIn 0 minUtc ≤ d ∧ d ≤ dateIn 0 maxUtc }

/-- The Moscow advertising business date of an instant. -/
def wbAutomationBusinessDate (now : ℤ) : ℤ := dateIn moscow now

theorem dateIn_mono (zone : ℤ) {s t : ℤ} (h : s ≤ t) : dateIn zone s ≤ dateIn zone t := by
  simp only [dateIn, seconds, Int.one_mul]
  omega

theorem inCalendar_eq_some {instant t : ℤ} :
    inCalendar instant = some t ↔ t = instant ∧ minUtc ≤ instant ∧ instant ≤ maxUtc := by
  unfold inCalendar
  split_ifs with h
  · rw [Option.some.injEq]
    exact ⟨fun ht => ⟨ht.symm, h⟩, fun ht => ht.1.symm⟩
  · exact ⟨fun ht => (nomatch ht), fun ht => absurd ht.2 h⟩

end AdsControl
