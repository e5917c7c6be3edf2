import AdsControl.Lib.History
import AdsControl.Lib.Method
import AdsControl.Lib.Run

/-!
# The shared departure quota

All processes that use one marketplace credential share a row with the next allowed departure. Two
database functions read and write it under the row lock, at an instant of the database clock that is
sampled after the lock; the database counts microseconds, the processes nanoseconds.

* `tryAcquire`, `extendCooldown`: the database functions;
* `databaseAdmit`, `databaseDefer`: what a process makes of them;
* **`shared_departure_quota`**: departures keep their distance in every interleaving.
-/

namespace AdsControl.Marketplace

open Fallible Receiver History

/-! ## The database functions -/

/-- A key is a SHA-256 in lower-case hexadecimal. -/
structure QuotaKey where
  value : String
  valid : value.length = 64 ∧ value.toList.all fun c => c.isDigit || ('a' ≤ c && c ≤ 'f')
  deriving DecidableEq

/-- An instant of the database in microseconds, or one of its two infinities. -/
abbrev Timestamp : Type := WithBot (WithTop ℤ)

/-- The departures, by key. -/
abbrev Departures : Type := QuotaKey → Option Timestamp

/-- The next departure of a key. -/
def Departures.deadline (table : Departures) (key : QuotaKey) : Timestamp := (table key).getD ⊥

/-- Set the next departure of a key. -/
def Departures.put (table : Departures) (key : QuotaKey) (deadline : Timestamp) : Departures :=
  Function.update table key (some deadline)

/-- Why a departure is refused. -/
inductive QuotaError
  | unavailable
  | limited (retryAfterMillis : ℕ)
  deriving DecidableEq

/-- Whole milliseconds, rounded up, from microseconds. -/
def ceilMillis (micros : ℤ) : ℤ := (micros + 999) / 1000

/-- The wait a deadline imposes, if any: a bounded one before the infinite deadline. -/
def refusal (now : ℤ) : Timestamp → Option ℤ
  | ⊥ => none
  | ((⊤ : WithTop ℤ) : Timestamp) => some 86400000
  | ((deadline : ℤ) : WithTop ℤ) =>
    if now < deadline then some (ceilMillis (deadline - now)) else none

/-- Admit a departure and answer `0`, or answer the milliseconds to wait. The process reports an
invalid input as `unavailable`, like every failure of the database. -/
def tryAcquire (now : ℤ) (key : QuotaKey) (intervalMillis : ℤ) : Method Departures QuotaError ℤ := do
  query fun _ => ensure (1 ≤ intervalMillis ∧ intervalMillis ≤ 86400000) .unavailable
  let deadline ← query fun table => .ok (table.deadline key)
  modify fun table => table.put key deadline
  match refusal now deadline with
  | some wait => return wait
  | none =>
    modify fun table => table.put key ((now + intervalMillis * 1000 : ℤ) : WithTop ℤ)
    return 0

/-- The end of a cooldown; beyond 366 days the key is quarantined. -/
def cooldownEnd (now delayMillis : ℤ) : Timestamp :=
  if 31622400000 < delayMillis then ((⊤ : WithTop ℤ) : Timestamp)
  else ((now + delayMillis * 1000 : ℤ) : WithTop ℤ)

/-- Put a departure off, never earlier. -/
def extendCooldown (now : ℤ) (key : QuotaKey) (delayMillis : ℤ) : Method Departures QuotaError Unit := do
  query fun _ => ensure (1 ≤ delayMillis) .unavailable
  modify fun table => table.put key (max (table.deadline key) (cooldownEnd now delayMillis))

/-! ## The processes -/

/-- Durations are nanoseconds. -/
def maxSharedCooldown : ℕ := 24 * 3600 * 10 ^ 9

/-- Whole milliseconds, rounded up, from nanoseconds. -/
def divCeilMillis (nanos : ℕ) : ℕ :=
  if 0 < nanos % 1000000 then nanos / 1000000 + 1 else nanos / 1000000

/-- An interval of at most a day, rounded up. -/
def boundedMillis (duration : ℕ) : Except QuotaError ℕ := do
  let millis := divCeilMillis duration
  ensure (1 ≤ millis ∧ millis ≤ 86400000) .unavailable
  return millis

/-- A cooldown of at most its bound, rounded up. -/
def cooldownMillis (duration : ℕ) : ℕ := max (divCeilMillis (min duration maxSharedCooldown)) 1

/-- What a process makes of the answer of `tryAcquire`. -/
def admission (answer : ℤ) : Except QuotaError Unit :=
  if answer = 0 then .ok ()
  else if 0 < answer then .error (.limited answer.toNat)
  else .error .unavailable

/-- An admission that reaches the database. -/
def databaseAdmit (now : ℤ) (key : QuotaKey) (interval : ℕ) : Method Departures QuotaError Unit := do
  let millis ← query fun _ => boundedMillis interval
  let answer ← tryAcquire now key millis
  query fun _ => admission answer

/-- A deferral that reaches the database. -/
def databaseDefer (now : ℤ) (key : QuotaKey) (delay : ℕ) : Method Departures QuotaError Unit :=
  extendCooldown now key (cooldownMillis delay)

/-! ## Interleavings -/

/-- What happened to the quota: an admitted departure, and a deferral that reached the database. -/
inductive QuotaEvent
  | departed (key : QuotaKey) (instant : ℤ) (interval : ℕ)
  | deferred (key : QuotaKey) (instant : ℤ) (delay : ℕ)

/-- The table, the clock and what happened. -/
structure QuotaWorld where
  table : Departures
  clock : ℤ
  log : List QuotaEvent

/-- One call of some process. The database clock never runs backwards. An admission that is refused,
or whose answer is lost, sends nothing. -/
inductive QuotaStep (s : QuotaWorld) : QuotaWorld → Prop
  | admitted {now : ℤ} {key : QuotaKey} {interval : ℕ} {table : Departures} (hnow : s.clock ≤ now)
      (h : databaseAdmit now key interval s.table = (.ok (), table)) :
      QuotaStep s ⟨table, now, s.log ++ [.departed key now interval]⟩
  | silent {now : ℤ} {key : QuotaKey} {interval : ℕ} {result : Except QuotaError Unit}
      {table : Departures} (hnow : s.clock ≤ now)
      (h : databaseAdmit now key interval s.table = (result, table)) :
      QuotaStep s ⟨table, now, s.log⟩
  | deferred {now : ℤ} {key : QuotaKey} {delay : ℕ} {table : Departures} (hnow : s.clock ≤ now)
      (h : databaseDefer now key delay s.table = (.ok (), table)) :
      QuotaStep s ⟨table, now, s.log ++ [.deferred key now delay]⟩

/-- The calls of any number of processes, from a table without quarantined keys. -/
def quotaSystem : Transition.System QuotaWorld where
  init s := (∀ key, s.table.deadline key ≠ ((⊤ : WithTop ℤ) : Timestamp)) ∧ s.log = []
  step := QuotaStep

section Calls

variable {table table' : Departures} {now : ℤ} {key : QuotaKey}

theorem le_divCeilMillis (nanos : ℕ) : nanos ≤ divCeilMillis nanos * 1000000 := by
  unfold divCeilMillis
  split_ifs <;> omega

theorem le_ceilMillis (micros : ℤ) : micros ≤ ceilMillis micros * 1000 := by
  unfold ceilMillis
  omega

theorem boundedMillis_ok {interval millis : ℕ} (h : boundedMillis interval = .ok millis) :
    interval ≤ millis * 1000000 ∧ 1 ≤ millis ∧ millis ≤ 86400000 := by
  simp only [boundedMillis, ok_of_bind, ensure_eq_ok, ok_of_pure] at h
  obtain ⟨-, hbounds, rfl⟩ := h
  exact ⟨le_divCeilMillis interval, hbounds⟩

theorem boundedMillis_error {interval : ℕ} {error : QuotaError}
    (h : boundedMillis interval = .error error) : error = .unavailable := by
  simp only [boundedMillis, bind_eq_error, ensure_eq_error] at h
  obtain ⟨-, rfl⟩ | ⟨-, -, h⟩ := h
  · rfl
  · cases h

theorem cooldownMillis_bounds (delay : ℕ) : min delay maxSharedCooldown ≤ cooldownMillis delay * 1000000 ∧
    1 ≤ cooldownMillis delay ∧ cooldownMillis delay ≤ 86400000 := by
  have hle := le_divCeilMillis (min delay maxSharedCooldown)
  have hcap : divCeilMillis (min delay maxSharedCooldown) ≤ 86400000 := by
    have hmin : min delay maxSharedCooldown ≤ 86400000000000 := min_le_right _ _
    generalize min delay maxSharedCooldown = nanos at hmin
    unfold divCeilMillis
    split_ifs <;> omega
  unfold cooldownMillis
  refine ⟨?_, le_max_right _ _, max_le hcap (by decide)⟩
  exact hle.trans (Nat.mul_le_mul_right _ (le_max_left _ _))

theorem coe_le {a b : ℤ} : (((a : ℤ) : WithTop ℤ) : Timestamp) ≤ ((b : ℤ) : WithTop ℤ) ↔ a ≤ b := by
  rw [WithBot.coe_le_coe, WithTop.coe_le_coe]

theorem coe_ne_top {a : ℤ} : (((a : ℤ) : WithTop ℤ) : Timestamp) ≠ ((⊤ : WithTop ℤ) : Timestamp) := by
  rw [Ne, WithBot.coe_inj]
  exact WithTop.coe_ne_top

theorem refusal_eq_none {deadline : Timestamp} :
    refusal now deadline = none ↔ deadline ≤ ((now : ℤ) : WithTop ℤ) := by
  match deadline with
  | ⊥ => simp [refusal]
  | ((⊤ : WithTop ℤ) : Timestamp) =>
    simp only [refusal, reduceCtorEq, false_iff, WithBot.coe_le_coe, top_le_iff]
    exact WithTop.coe_ne_top
  | ((deadline : ℤ) : WithTop ℤ) =>
    rw [coe_le]
    simp only [refusal]
    split_ifs with h
    · exact iff_of_false (by simp) (by omega)
    · exact iff_of_true rfl (by omega)

theorem refusal_pos {deadline : Timestamp} {wait : ℤ} (h : refusal now deadline = some wait) :
    0 < wait := by
  match deadline with
  | ⊥ => cases h
  | ((⊤ : WithTop ℤ) : Timestamp) =>
    rw [← Option.some.inj h]
    norm_num
  | ((deadline : ℤ) : WithTop ℤ) =>
    simp only [refusal] at h
    split_ifs at h with hlt
    have hle := le_ceilMillis (deadline - now)
    rw [← Option.some.inj h]
    omega

theorem refusal_eq_some {deadline : Timestamp} {wait : ℤ} (h : refusal now deadline = some wait)
    (hfinite : deadline ≠ ((⊤ : WithTop ℤ) : Timestamp)) :
    deadline ≤ ((now + wait * 1000 : ℤ) : WithTop ℤ) := by
  match deadline with
  | ⊥ => cases h
  | ((⊤ : WithTop ℤ) : Timestamp) => exact absurd rfl hfinite
  | ((deadline : ℤ) : WithTop ℤ) =>
    simp only [refusal] at h
    split_ifs at h with hlt
    cases h
    have hle := le_ceilMillis (deadline - now)
    rw [coe_le]
    omega

@[simp] theorem deadline_put (table : Departures) (key : QuotaKey) (deadline : Timestamp) :
    (table.put key deadline).deadline key = deadline := by
  simp [Departures.put, Departures.deadline]

theorem put_put (table : Departures) (key : QuotaKey) (deadline deadline' : Timestamp) :
    (table.put key deadline).put key deadline' = table.put key deadline' :=
  Function.update_idem _ _ _

theorem deadline_put_of_ne (table : Departures) {key key' : QuotaKey} (deadline : Timestamp)
    (h : key' ≠ key) : (table.put key deadline).deadline key' = table.deadline key' := by
  simp [Departures.put, Departures.deadline, h]

/-- What `tryAcquire` does: it answers a wait and keeps the deadline, or it moves a deadline that has
passed. -/
theorem tryAcquire_ok {millis answer : ℤ} (h : tryAcquire now key millis table = (.ok answer, table')) :
    (refusal now (table.deadline key) = some answer ∧ table' = table.put key (table.deadline key)) ∨
    (refusal now (table.deadline key) = none ∧ answer = 0 ∧
      table' = table.put key ((now + millis * 1000 : ℤ) : WithTop ℤ)) := by
  simp only [tryAcquire, call_bind, call_query, call_modify, ensure_eq_ok, Except.ok.injEq] at h
  obtain ⟨-, _, ⟨-, rfl⟩, _, _, ⟨rfl, rfl⟩, -, _, rfl, h⟩ := h
  cases hrefusal : refusal now (table.deadline key) with
  | some wait =>
    rw [hrefusal] at h
    obtain ⟨rfl, rfl⟩ := call_pure.mp h
    exact .inl ⟨rfl, rfl⟩
  | none =>
    rw [hrefusal] at h
    simp only [call_bind, call_modify, call_pure] at h
    obtain ⟨-, _, rfl, rfl, rfl⟩ := h
    exact .inr ⟨rfl, rfl, put_put _ _ _ _⟩

theorem tryAcquire_error {millis : ℤ} {error : QuotaError}
    (h : tryAcquire now key millis table = (.error error, table')) :
    error = .unavailable ∧ table' = table := by
  simp only [tryAcquire, error_of_bind, error_of_query, error_of_modify, call_query, call_modify,
    ensure_eq_error, false_or] at h
  obtain ⟨⟨-, rfl⟩, rfl⟩ | ⟨-, _, -, ⟨h, -⟩ | ⟨deadline, _, -, -, _, -, h⟩⟩ := h
  · exact ⟨rfl, rfl⟩
  · cases h
  · cases hrefusal : refusal now deadline with
    | some wait =>
      rw [hrefusal] at h
      cases h
    | none =>
      rw [hrefusal] at h
      cases h

theorem admission_of_wait {deadline : Timestamp} {wait : ℤ} (h : refusal now deadline = some wait) :
    admission wait = .error (.limited wait.toNat) := by
  have hpos := refusal_pos h
  rw [admission, if_neg hpos.ne', if_pos hpos]

/-- An admitted departure leaves after the deadline and moves it. -/
theorem databaseAdmit_ok {interval : ℕ} {u : Unit} (h : databaseAdmit now key interval table = (.ok u, table')) :
    table.deadline key ≤ ((now : ℤ) : WithTop ℤ) ∧ ∃ millis : ℕ, interval ≤ millis * 1000000 ∧
      table' = table.put key ((now + millis * 1000 : ℤ) : WithTop ℤ) := by
  simp only [databaseAdmit, call_bind, call_query] at h
  obtain ⟨millis, _, ⟨hmillis, rfl⟩, answer, _, hacquire, hanswer, rfl⟩ := h
  rcases tryAcquire_ok hacquire with ⟨hwait, -⟩ | ⟨hdue, -, rfl⟩
  · rw [admission_of_wait hwait] at hanswer
    cases hanswer
  · exact ⟨refusal_eq_none.mp hdue, millis, (boundedMillis_ok hmillis).1, rfl⟩

theorem databaseAdmit_error {interval : ℕ} {error : QuotaError}
    (h : databaseAdmit now key interval table = (.error error, table')) :
    (error = .unavailable ∧ table' = table) ∨ (∃ wait, refusal now (table.deadline key) = some wait ∧
      error = .limited wait.toNat) ∧ table' = table.put key (table.deadline key) := by
  simp only [databaseAdmit, error_of_bind, error_of_query, call_query] at h
  obtain ⟨hmillis, rfl⟩ | ⟨millis, _, ⟨hmillis, rfl⟩, hfailed | ⟨answer, _, hacquire, hanswer, rfl⟩⟩ := h
  · exact .inl ⟨boundedMillis_error hmillis, rfl⟩
  · exact .inl (tryAcquire_error hfailed)
  · rcases tryAcquire_ok hacquire with ⟨hwait, rfl⟩ | ⟨-, rfl, -⟩
    · rw [admission_of_wait hwait] at hanswer
      exact .inr ⟨⟨answer, hwait, (Except.error.inj hanswer).symm⟩, rfl⟩
    · rw [admission, if_pos rfl] at hanswer
      cases hanswer

theorem deadline_le_of_limited {interval retryAfter : ℕ}
    (h : databaseAdmit now key interval table = (.error (.limited retryAfter), table'))
    (hfinite : table.deadline key ≠ ((⊤ : WithTop ℤ) : Timestamp)) :
    table.deadline key ≤ ((now + retryAfter * 1000 : ℤ) : WithTop ℤ) := by
  obtain ⟨h, -⟩ | ⟨⟨wait, hwait, h⟩, -⟩ := databaseAdmit_error h
  · cases h
  · rw [QuotaError.limited.inj h, Int.toNat_of_nonneg (refusal_pos hwait).le]
    exact refusal_eq_some hwait hfinite

theorem databaseAdmit_of_due {interval millis : ℕ} (hmillis : boundedMillis interval = .ok millis)
    (hdue : table.deadline key ≤ ((now : ℤ) : WithTop ℤ)) :
    (databaseAdmit now key interval table).1 = .ok () := by
  have hbounds := (boundedMillis_ok hmillis).2
  have hacquire : tryAcquire now key millis table =
      (.ok 0, table.put key ((now + millis * 1000 : ℤ) : WithTop ℤ)) := by
    simp only [tryAcquire, call_bind, call_query, call_modify, ensure_eq_ok]
    refine ⟨(), _, ⟨by omega, rfl⟩, table.deadline key, _, ⟨rfl, rfl⟩, (), _, rfl, ?_⟩
    rw [refusal_eq_none.mpr hdue]
    simp only [call_bind, call_modify, call_pure]
    exact ⟨(), _, rfl, trivial, put_put _ _ _ _⟩
  have hgrant : databaseAdmit now key interval table =
      (.ok (), table.put key ((now + millis * 1000 : ℤ) : WithTop ℤ)) := by
    simp only [databaseAdmit, call_bind, call_query]
    exact ⟨millis, _, ⟨hmillis, rfl⟩, 0, _, hacquire, if_pos rfl, rfl⟩
  rw [hgrant]

/-- A deferral moves the deadline to the end of its cooldown at least. -/
theorem databaseDefer_eq (table : Departures) (now : ℤ) (key : QuotaKey) (delay : ℕ) :
    databaseDefer now key delay table = (.ok (), table.put key (max (table.deadline key)
      ((now + cooldownMillis delay * 1000 : ℤ) : WithTop ℤ))) := by
  obtain ⟨-, hpos, hcap⟩ := cooldownMillis_bounds delay
  have hshort : ¬ (31622400000 : ℤ) < cooldownMillis delay := by omega
  simp only [databaseDefer, extendCooldown, call_bind, call_query, call_modify, ensure_eq_ok, cooldownEnd,
    if_neg hshort]
  exact ⟨(), _, ⟨by omega, rfl⟩, rfl⟩

end Calls


/-! ## Every interleaving -/

namespace QuotaEvent

/-- The key of an event. -/
def key : QuotaEvent → QuotaKey
  | departed key _ _ => key
  | deferred key _ _ => key

/-- The microsecond of the database clock. -/
def instant : QuotaEvent → ℤ
  | departed _ instant _ => instant
  | deferred _ instant _ => instant

/-- The nanoseconds for which the event holds departures back. -/
def duration : QuotaEvent → ℕ
  | departed _ _ interval => interval
  | deferred _ _ delay => min delay maxSharedCooldown

/-- A departure leaves after every earlier event on its key has run out. -/
def Spaced (before : List QuotaEvent) : QuotaEvent → Prop
  | departed key instant _ => ∀ e ∈ before, e.key = key → e.instant * 1000 + e.duration ≤ instant * 1000
  | deferred _ _ _ => True

/-- A deadline the event has run out at. -/
def Covered (e : QuotaEvent) (deadline : Timestamp) : Prop :=
  ∃ millis : ℕ, e.duration ≤ millis * 1000000 ∧
    ((e.instant + millis * 1000 : ℤ) : WithTop ℤ) ≤ deadline

theorem Covered.mono {e : QuotaEvent} {deadline deadline' : Timestamp} (h : e.Covered deadline)
    (hle : deadline ≤ deadline') : e.Covered deadline' := by
  obtain ⟨millis, hduration, hend⟩ := h
  exact ⟨millis, hduration, hend.trans hle⟩

theorem Covered.le {e : QuotaEvent} {now : ℤ} (h : e.Covered ((now : ℤ) : WithTop ℤ)) :
    e.instant * 1000 + e.duration ≤ now * 1000 := by
  obtain ⟨millis, hduration, hend⟩ := h
  rw [coe_le] at hend
  omega

end QuotaEvent

/-- The deadlines cover the history, and departures keep their distance. -/
structure QuotaWorld.Paced (s : QuotaWorld) : Prop where
  finite : ∀ key, s.table.deadline key ≠ ((⊤ : WithTop ℤ) : Timestamp)
  covered : ∀ e ∈ s.log, e.Covered (s.table.deadline e.key)
  spaced : Orderly QuotaEvent.Spaced s.log

section Steps

variable {s : QuotaWorld}

theorem QuotaWorld.Paced.put (h : s.Paced) (now : ℤ) {key : QuotaKey} {deadline : Timestamp}
    (hfinite : deadline ≠ ((⊤ : WithTop ℤ) : Timestamp)) (hle : s.table.deadline key ≤ deadline) :
    QuotaWorld.Paced ⟨s.table.put key deadline, now, s.log⟩ := by
  refine ⟨fun key' => ?_, fun e he => ?_, h.spaced⟩
  · by_cases hkey : key' = key
    · rw [hkey, deadline_put]
      exact hfinite
    · rw [deadline_put_of_ne _ _ hkey]
      exact h.finite key'
  · by_cases hkey : e.key = key
    · rw [hkey, deadline_put]
      refine (h.covered e he).mono ?_
      rw [hkey]
      exact hle
    · rw [deadline_put_of_ne _ _ hkey]
      exact h.covered e he

theorem QuotaWorld.Paced.record (h : s.Paced) {e : QuotaEvent}
    (hcovered : e.Covered (s.table.deadline e.key)) (hspaced : e.Spaced s.log) :
    QuotaWorld.Paced ⟨s.table, s.clock, s.log ++ [e]⟩ := by
  refine ⟨h.finite, fun e' he' => ?_, h.spaced.snoc hspaced⟩
  rcases List.mem_append.mp he' with he' | he'
  · exact h.covered e' he'
  · rw [List.mem_singleton.mp he']
    exact hcovered

theorem QuotaStep.paced {s t : QuotaWorld} (hs : s.Paced) (h : QuotaStep s t) : t.Paced := by
  cases h with
  | @admitted now key interval table hnow h =>
    obtain ⟨hdue, millis, hinterval, rfl⟩ := databaseAdmit_ok h
    have hmoved := hs.put now coe_ne_top (hdue.trans (coe_le.mpr (by omega : now ≤ now + millis * 1000)))
    refine hmoved.record ⟨millis, hinterval, ?_⟩ fun e he hkey => ?_
    · exact (deadline_put s.table key _).ge
    · refine ((hs.covered e he).mono ?_).le
      rw [hkey]
      exact hdue
  | @silent now key interval result table hnow h =>
    cases result with
    | ok _ =>
      obtain ⟨hdue, millis, -, rfl⟩ := databaseAdmit_ok h
      exact hs.put now coe_ne_top (hdue.trans (coe_le.mpr (by omega)))
    | error error =>
      obtain ⟨-, rfl⟩ | ⟨-, rfl⟩ := databaseAdmit_error h
      · exact ⟨hs.finite, hs.covered, hs.spaced⟩
      · exact hs.put now (hs.finite key) le_rfl
  | @deferred now key delay table hnow h =>
    rw [databaseDefer_eq] at h
    obtain ⟨-, rfl⟩ := Prod.mk.inj h
    have hfinite : max (s.table.deadline key) ((now + cooldownMillis delay * 1000 : ℤ) : WithTop ℤ) ≠
        ((⊤ : WithTop ℤ) : Timestamp) := by
      rcases max_choice (s.table.deadline key) ((now + cooldownMillis delay * 1000 : ℤ) : WithTop ℤ)
        with hmax | hmax
      · rw [hmax]
        exact hs.finite key
      · rw [hmax]
        exact coe_ne_top
    refine (hs.put now hfinite (le_max_left _ _)).record ?_ trivial
    refine ⟨cooldownMillis delay, (cooldownMillis_bounds delay).1, ?_⟩
    exact (le_max_right _ _).trans (deadline_put s.table key _).ge

/-- **Every interleaving keeps the deadlines ahead of its history.** -/
theorem paced_of_reachable (h : Transition.Reachable quotaSystem s) : s.Paced := by
  refine h.invariant (P := QuotaWorld.Paced) (fun s hinit => ?_) fun s t hs hstep => QuotaStep.paced hs hstep
  obtain ⟨hfinite, hlog⟩ := hinit
  refine ⟨hfinite, ?_, ?_⟩
  · rw [hlog]
    simp
  · rw [hlog]
    exact orderly_nil

end Steps

/-- **Departures under one key keep their distance in every interleaving.** A departure leaves after
the interval of every earlier departure and after every earlier deferral of at most a day. A refusal
keeps every deadline, and its wait suffices; a deferral never moves a deadline back; no key is
quarantined. -/
theorem shared_departure_quota {s : QuotaWorld} (hs : Transition.Reachable quotaSystem s) :
    (∀ before key (b : ℤ) (j : ℕ) after, s.log = before ++ .departed key b j :: after →
      (∀ (a : ℤ) (i : ℕ), .departed key a i ∈ before → a * 1000 + i ≤ b * 1000) ∧
      ∀ (a : ℤ) (delay : ℕ), .deferred key a delay ∈ before →
        a * 1000 + (min delay maxSharedCooldown : ℕ) ≤ b * 1000) ∧
    (∀ now key interval error table, databaseAdmit now key interval s.table = (.error error, table) →
      (∀ key', table.deadline key' = s.table.deadline key') ∧
      ∀ retryAfter : ℕ, error = .limited retryAfter → ∀ later : ℤ, now + retryAfter * 1000 ≤ later →
        ∀ interval' millis, boundedMillis interval' = .ok millis →
          (databaseAdmit later key interval' table).1 = .ok ()) ∧
    (∀ now key delay table, databaseDefer now key delay s.table = (.ok (), table) →
      ∀ key', s.table.deadline key' ≤ table.deadline key') ∧
    ∀ key, s.table.deadline key ≠ ((⊤ : WithTop ℤ) : Timestamp) := by
  have hpaced := paced_of_reachable hs
  refine ⟨?_, ?_, ?_, hpaced.finite⟩
  · intro before key b j after hlog
    have hspaced := hpaced.spaced before _ after hlog
    exact ⟨fun a i hmem => hspaced _ hmem rfl, fun a delay hmem => hspaced _ hmem rfl⟩
  · intro now key interval error table h
    have hkept : ∀ key', table.deadline key' = s.table.deadline key' := by
      intro key'
      obtain ⟨-, rfl⟩ | ⟨-, rfl⟩ := databaseAdmit_error h
      · rfl
      · by_cases hkey : key' = key
        · rw [hkey, deadline_put]
        · rw [deadline_put_of_ne _ _ hkey]
    refine ⟨hkept, ?_⟩
    rintro retryAfter rfl later hlater interval' millis hmillis
    refine databaseAdmit_of_due hmillis ?_
    rw [hkept key]
    exact (deadline_le_of_limited h (hpaced.finite key)).trans (coe_le.mpr hlater)
  · intro now key delay table h key'
    rw [databaseDefer_eq] at h
    obtain ⟨-, rfl⟩ := Prod.mk.inj h
    by_cases hkey : key' = key
    · rw [hkey, deadline_put]
      exact le_max_left _ _
    · rw [deadline_put_of_ne _ _ hkey]

/-- A deferral of three milliseconds, sent a millisecond after a departure, holds back the next one. -/
theorem shared_departure_quota_deferred : ∃ key s, Transition.Reachable quotaSystem s ∧
    s.log = [.departed key 0 1500000, .deferred key 1000 3000000, .departed key 4000 1] ∧
    (0 : ℤ) * 1000 + (1500000 : ℕ) ≤ 4000 * 1000 ∧
    (1000 : ℤ) * 1000 + (min 3000000 maxSharedCooldown : ℕ) ≤ 4000 * 1000 := by
  let key : QuotaKey := ⟨String.ofList (List.replicate 64 '0'), by decide⟩
  let opening : QuotaWorld := ⟨fun _ => none, 0, []⟩
  let departed : Departures := (opening.table.put key ⊥).put key ((2000 : ℤ) : WithTop ℤ)
  have hstart : Transition.Reachable quotaSystem opening := .init ⟨fun _ => WithBot.bot_ne_coe, rfl⟩
  have hgrant : databaseAdmit 0 key 1500000 opening.table = (.ok (), departed) := rfl
  have hfirst := hstart.step (.admitted le_rfl hgrant)
  have hcooldown : cooldownMillis 3000000 = 3 := by decide
  have hdeferred := hfirst.step (.deferred (by decide) (databaseDefer_eq departed 1000 key 3000000))
  rw [hcooldown] at hdeferred
  have hdue : (departed.put key (max (departed.deadline key)
      (((1000 + (3 : ℕ) * 1000 : ℤ) : WithTop ℤ)))).deadline key ≤ ((4000 : ℤ) : WithTop ℤ) := by
    rw [deadline_put, deadline_put]
    exact max_le (coe_le.mpr (by decide)) (coe_le.mpr (by decide))
  have hmillis : boundedMillis 1 = .ok 1 := rfl
  have hsecond := databaseAdmit_of_due hmillis hdue
  have hlast := hdeferred.step (.admitted (by decide) (Prod.ext hsecond rfl))
  have hquota := (shared_departure_quota hlast).1 [.departed key 0 1500000, .deferred key 1000 3000000]
    key 4000 1 [] rfl
  exact ⟨key, _, hlast, rfl, hquota.1 0 1500000 (by simp), hquota.2 1000 3000000 (by simp)⟩

end AdsControl.Marketplace
