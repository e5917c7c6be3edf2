import AdsControl.Calendar
import AdsControl.Text
import AdsControl.Lib.Method

/-!
# The finance quota journal

The journal paces the requests for financial reports. A reservation opens the next one after twelve
hours, or after a minute once the personal key of the request is confirmed; a vendor pause is kept
apart and survives every confirmation. A legacy journal has a deadline of unknown origin.

* `Quota`, `QuotaCall`: the journal and the calls on it;
* `Sound`: the journal is empty or valid;
* `OnlyMigrated`, `ConfirmedAway`: a legacy deadline is shortened by its receipt only, or by confirming the
  instant of a pause;
* **`finance_quota_law`**: what holds along every sequence of calls.
-/

namespace AdsControl.Finance

open Fallible Receiver

/-- The least time after an unconfirmed and after a confirmed request. -/
def conservative : ℤ := hours 12

/-- The gap between two requests of a personal key. -/
def personal : ℤ := seconds 60

/-- The journal of a quota. -/
structure Quota where
  nextAllowedAt : Option ℤ
  version : ℕ
  lastAttemptAt : Option ℤ
  retryAfterUntil : Option ℤ
  personalKeyFingerprint : Option String
  legacyReceiptSha256 : Option String
  deriving DecidableEq

/-- A new journal. -/
def Quota.default : Quota := ⟨none, 0, none, none, none, none⟩

/-- The evidence of a request that succeeded. -/
structure LegacySuccessReceipt where
  version : ℕ
  actorId : String
  keyFingerprint : String
  sellerScope : String
  endpoint : String
  httpStatus : ℕ
  requestStartedAt : Instant
  expectedNextAllowedAt : Instant
  operatorVerifiedAt : Instant
  evidenceRef : String
  deriving DecidableEq

/-- A digest of 64 lowercase hexadecimal digits. -/
def validDigest (value : String) : Bool :=
  decide (value.utf8ByteSize = 64) && value.toList.all fun c => c.isDigit || ('a' ≤ c && c ≤ 'f')

namespace Quota

/-- The least time between two requests. -/
def interval (self : Quota) : ℤ :=
  if self.personalKeyFingerprint.isSome then personal else conservative

/-- The message for an instant outside the calendar. -/
def outsideRange : String := "quota time is outside supported range"

/-- The message for a pause that is too long. -/
def unsupportedPause : String := "upstream pause exceeds the supported bound"

/-- The fields that a version has, and their order in time. -/
def validate (self : Quota) : Except String Unit := do
  let next ← context self.nextAllowedAt "financial quota journal is incomplete"
  match self.version with
  | 0 =>
    ensure (self.lastAttemptAt = none ∧ self.retryAfterUntil = none ∧
      self.personalKeyFingerprint = none ∧ self.legacyReceiptSha256 = none)
      "legacy quota journal contains incompatible fields"
  | 2 =>
    let last ← context self.lastAttemptAt "quota attempt is missing"
    let minimum ← context (checkedAddSigned last self.interval) outsideRange
    ensure (minimum ≤ next ∧ self.retryAfterUntil.all (· ≤ next) ∧
      self.personalKeyFingerprint.all validDigest ∧ self.legacyReceiptSha256.all validDigest)
      "financial quota journal is invalid"
  | _ => .error "unsupported financial quota journal version"

/-- The interval a request reserves. -/
def reservedInterval (self : Quota) (key : Option String) : ℤ :=
  if key.isSome ∧ key = self.personalKeyFingerprint then personal else conservative

/-- Reserve the next request; the answer says whether it may be sent. -/
def reserve (now : Instant) (key : Option String) : Method Quota String Bool := do
  let early ← query fun self => .ok (self.nextAllowedAt.any (now.1 < ·))
  if early then return false
  else
    let next ← query fun self =>
      context (checkedAddSigned now (self.reservedInterval key)) outsideRange
    modify fun self => { self with version := 2 }
    modify fun self => { self with lastAttemptAt := some now.1 }
    modify fun self => { self with nextAllowedAt := some next }
    return true

/-- Replace the long gap by the short one after a personal success. -/
def confirm (key : String) (attemptedAt : Instant) : Method Quota String Unit := do
  query fun self => ensure (validDigest key ∧ self.version = 2 ∧ self.lastAttemptAt = some attemptedAt.1)
    "personal confirmation has no matching reserved request"
  let next ← query fun _ => context (checkedAddSigned attemptedAt personal) outsideRange
  modify fun self => { self with personalKeyFingerprint := some key }
  modify fun self => { self with
    nextAllowedAt := some (self.retryAfterUntil.elim next fun pausedUntil => max pausedUntil next) }

/-- A pause in seconds as a duration of at most `i64` milliseconds. -/
def pauseDuration (pause : ℕ) : Option ℤ :=
  if pause ≤ (2 ^ 63 - 1) / 1000 then some (seconds pause) else none

/-- The attempt a pause counts from: a legacy journal has none. -/
def pausedAttempt (self : Quota) (now : Instant) : Option ℤ :=
  if self.version = 0 then some now.1 else self.lastAttemptAt

/-- A legacy journal takes the pause as its attempt. -/
def adoptAttempt (self : Quota) (last : Option ℤ) : Quota :=
  if self.version = 0 then { self with version := 2, lastAttemptAt := last } else self

/-- Honour a pause that upstream asked for. -/
def postpone (now : Instant) (pause : ℕ) : Method Quota String Unit := do
  let delay ← query fun _ => context (pauseDuration pause) unsupportedPause
  let pausedUntil ← query fun _ => context (checkedAddSigned now delay) unsupportedPause
  let last ← query fun self => .ok (self.pausedAttempt now)
  let minimum ← query fun self =>
    context (last.bind fun last => checkedAddSigned last self.interval) outsideRange
  modify fun self => self.adoptAttempt last
  modify fun self => { self with
    retryAfterUntil := some (self.retryAfterUntil.elim pausedUntil fun old => max old pausedUntil) }
  modify fun self => { self with
    nextAllowedAt := some (max (self.nextAllowedAt.elim pausedUntil fun old => max old pausedUntil) minimum) }

/-- The endpoint of the older journal. -/
def legacyEndpoint : String :=
  "POST https://finance-api.wildberries.ru/api/finance/v1/sales-reports/detailed"

/-- The receipt is a success of exactly this legacy reservation and key. -/
def receiptMatches (self : Quota) (receipt : LegacySuccessReceipt) (actor key seller : String)
    (now : Instant) (receiptHash : String) : Bool :=
  decide (receipt.version = 1 ∧ receipt.actorId = actor ∧ receipt.keyFingerprint = key ∧
    receipt.sellerScope = seller) && validDigest key && validDigest seller &&
    validDigest receiptHash && decide (receipt.endpoint = legacyEndpoint ∧
    (receipt.httpStatus = 200 ∨ receipt.httpStatus = 204) ∧
    self.nextAllowedAt = some receipt.expectedNextAllowedAt.1 ∧
    checkedAddSigned receipt.requestStartedAt conservative = some receipt.expectedNextAllowedAt.1 ∧
    receipt.requestStartedAt.1 ≤ receipt.operatorVerifiedAt.1 ∧
    receipt.operatorVerifiedAt.1 ≤ now.1 ∧
    receipt.evidenceRef ≠ "" ∧ receipt.evidenceRef.utf8ByteSize ≤ 256) &&
    !receipt.evidenceRef.toList.any isControl

/-- Take an older journal over with its receipt. -/
def migrate (receipt : LegacySuccessReceipt) (actor key seller : String) (now : Instant)
    (receiptHash : String) : Method Quota String Unit := do
  query fun self => ensure (self.version = 0 ∧ self.lastAttemptAt = none ∧
    self.retryAfterUntil = none) "only an untouched legacy reservation may be migrated"
  query fun self => ensure (self.receiptMatches receipt actor key seller now receiptHash)
    "legacy success receipt does not match this reservation and key"
  modify fun self => { self with version := 2 }
  modify fun self => { self with lastAttemptAt := some receipt.requestStartedAt.1 }
  modify fun self => { self with legacyReceiptSha256 := some receiptHash }
  confirm key receipt.requestStartedAt

end Quota

/-! ## Calls -/

/-- The calls on a journal. -/
inductive QuotaCall
  | reserve (now : Instant) (key : Option String)
  | confirm (key : String) (attemptedAt : Instant)
  | postpone (now : Instant) (pause : ℕ)
  | migrate (receipt : LegacySuccessReceipt) (actor key seller : String) (now : Instant)
      (receiptHash : String)

/-- A call; the answer says whether a request may be sent. -/
def QuotaCall.apply : QuotaCall → Method Quota String Bool
  | reserve now key => Quota.reserve now key
  | confirm key attemptedAt => do
    Quota.confirm key attemptedAt
    return false
  | postpone now pause => do
    Quota.postpone now pause
    return false
  | migrate receipt actor key seller now receiptHash => do
    Quota.migrate receipt actor key seller now receiptHash
    return false

section Calls

variable {s t : Quota} {answer : Bool}

@[simp] theorem Quota.adoptAttempt_next (s : Quota) (last : Option ℤ) :
    (s.adoptAttempt last).nextAllowedAt = s.nextAllowedAt := by
  unfold adoptAttempt
  split <;> rfl

@[simp] theorem Quota.adoptAttempt_retry (s : Quota) (last : Option ℤ) :
    (s.adoptAttempt last).retryAfterUntil = s.retryAfterUntil := by
  unfold adoptAttempt
  split <;> rfl

/-- What a successful call does. -/
inductive QuotaMove (s : Quota) : QuotaCall → Bool → Quota → Prop
  | early {now : Instant} {key : Option String} : QuotaMove s (.reserve now key) false s
  | granted {now : Instant} {key : Option String} {next : ℤ}
      (hdue : ∀ deadline ∈ s.nextAllowedAt, deadline ≤ now.1)
      (hnext : checkedAddSigned now (s.reservedInterval key) = some next) :
      QuotaMove s (.reserve now key) true
        { s with version := 2, lastAttemptAt := some now.1, nextAllowedAt := some next }
  | confirmed {key : String} {attemptedAt : Instant} {next : ℤ} (hkey : validDigest key)
      (hversion : s.version = 2) (hlast : s.lastAttemptAt = some attemptedAt.1)
      (hnext : checkedAddSigned attemptedAt personal = some next) :
      QuotaMove s (.confirm key attemptedAt) false
        { s with
          personalKeyFingerprint := some key
          nextAllowedAt := some (s.retryAfterUntil.elim next fun pausedUntil => max pausedUntil next) }
  | postponed {now : Instant} {pause : ℕ} {pausedUntil last minimum : ℤ}
      (hpause : pausedUntil = now + seconds pause) (hlast : s.pausedAttempt now = some last)
      (hminimum : checkedAddSigned last s.interval = some minimum) :
      QuotaMove s (.postpone now pause) false
        { s.adoptAttempt (some last) with
          retryAfterUntil := some (s.retryAfterUntil.elim pausedUntil fun old => max old pausedUntil)
          nextAllowedAt := some (max (s.nextAllowedAt.elim pausedUntil fun old =>
            max old pausedUntil) minimum) }
  | migrated {receipt : LegacySuccessReceipt} {actor key seller receiptHash : String} {now : Instant} {next : ℤ}
      (hversion : s.version = 0) (hretry : s.retryAfterUntil = none)
      (hmatch : s.receiptMatches receipt actor key seller now receiptHash)
      (hnext : checkedAddSigned receipt.requestStartedAt personal = some next) :
      QuotaMove s (.migrate receipt actor key seller now receiptHash) false
        { s with
          version := 2
          lastAttemptAt := some receipt.requestStartedAt.1
          legacyReceiptSha256 := some receiptHash
          personalKeyFingerprint := some key
          nextAllowedAt := some next }

theorem reserve_ok {now : Instant} {key : Option String}
    (h : Quota.reserve now key s = (.ok answer, t)) : QuotaMove s (.reserve now key) answer t := by
  simp only [Quota.reserve, call_bind, call_query] at h
  obtain ⟨early, _, ⟨hearly, rfl⟩, h⟩ := h
  cases hearly
  split at h
  · rw [call_pure] at h
    obtain ⟨rfl, rfl⟩ := h
    exact .early
  · rename_i hdue
    simp only [call_bind, call_query, call_modify, call_pure, context_eq_ok] at h
    obtain ⟨next, _, ⟨hnext, rfl⟩, -, _, rfl, -, _, rfl, -, _, rfl, rfl, rfl⟩ := h
    refine .granted (fun deadline hmem => ?_) hnext
    rw [Option.mem_def.mp hmem] at hdue
    simpa using hdue

theorem confirm_ok {key : String} {attemptedAt : Instant} {u : Unit}
    (h : Quota.confirm key attemptedAt s = (.ok u, t)) :
    QuotaMove s (.confirm key attemptedAt) false t := by
  simp only [Quota.confirm, call_bind, call_query, call_modify, context_eq_ok, ensure_eq_ok] at h
  obtain ⟨-, _, ⟨⟨hkey, hversion, hlast⟩, rfl⟩, next, _, ⟨hnext, rfl⟩, -, _, rfl, rfl⟩ := h
  exact .confirmed hkey hversion hlast hnext

theorem postpone_ok {now : Instant} {pause : ℕ} {u : Unit} (h : Quota.postpone now pause s = (.ok u, t)) :
    QuotaMove s (.postpone now pause) false t := by
  simp only [Quota.postpone, call_bind, call_query, call_modify, context_eq_ok] at h
  obtain ⟨delay, _, ⟨hdelay, rfl⟩, pausedUntil, _, ⟨huntil, rfl⟩, last, _, ⟨hlast, rfl⟩, minimum, _,
    ⟨hminimum, rfl⟩, -, _, rfl, -, _, rfl, rfl⟩ := h
  obtain ⟨attempt, hattempt, hleast⟩ := Option.bind_eq_some_iff.mp hminimum
  have hpause : pausedUntil = now + seconds pause := by
    rw [checkedAddSigned, inCalendar_eq_some] at huntil
    unfold Quota.pauseDuration at hdelay
    split_ifs at hdelay
    rw [huntil.1, ← Option.some.inj hdelay]
  cases hlast
  rw [hattempt]
  have hmove := QuotaMove.postponed hpause hattempt hleast
  simpa using hmove

theorem receiptMatches_started {receipt : LegacySuccessReceipt} {actor key seller receiptHash : String}
    {now : Instant} (h : s.receiptMatches receipt actor key seller now receiptHash) :
    validDigest key ∧ validDigest receiptHash ∧ ∃ deadline, s.nextAllowedAt = some deadline ∧
      checkedAddSigned receipt.requestStartedAt conservative = some deadline := by
  simp only [Quota.receiptMatches, Bool.and_eq_true, decide_eq_true_eq] at h
  obtain ⟨⟨⟨⟨⟨-, hkey⟩, -⟩, hhash⟩, -, -, hnext, hstarted, -⟩, -⟩ := h
  exact ⟨hkey, hhash, _, hnext, hstarted⟩

theorem personal_of_conservative {instant deadline : ℤ}
    (h : checkedAddSigned instant conservative = some deadline) (hmin : minUtc ≤ instant) :
    checkedAddSigned instant personal = some (instant + personal) ∧
      deadline = instant + conservative := by
  rw [checkedAddSigned, inCalendar_eq_some] at h
  refine ⟨?_, h.1⟩
  rw [checkedAddSigned, inCalendar_eq_some]
  simp only [conservative, personal, hours, seconds] at h ⊢
  refine ⟨trivial, ?_, ?_⟩ <;> omega

theorem migrate_ok {receipt : LegacySuccessReceipt} {actor key seller receiptHash : String} {now : Instant}
    {u : Unit} (h : Quota.migrate receipt actor key seller now receiptHash s = (.ok u, t)) :
    QuotaMove s (.migrate receipt actor key seller now receiptHash) false t := by
  simp only [Quota.migrate, Quota.confirm, call_bind, call_query, call_modify, context_eq_ok,
    ensure_eq_ok] at h
  obtain ⟨-, _, ⟨⟨hversion, -, hretry⟩, rfl⟩, -, _, ⟨hmatch, rfl⟩, -, _, rfl, -, _, rfl, -, _, rfl, -, _,
    ⟨-, rfl⟩, next, _, ⟨hnext, rfl⟩, -, _, rfl, rfl⟩ := h
  have hmove := QuotaMove.migrated hversion hretry hmatch hnext
  simpa [hretry] using hmove

/-- **A successful call makes one move.** -/
theorem move_of_ok {call : QuotaCall} (h : call.apply s = (.ok answer, t)) :
    QuotaMove s call answer t := by
  cases call with
  | reserve now key => exact reserve_ok h
  | confirm key attemptedAt =>
    simp only [QuotaCall.apply, call_bind, call_pure] at h
    obtain ⟨_, _, h, rfl, rfl⟩ := h
    exact confirm_ok h
  | postpone now pause =>
    simp only [QuotaCall.apply, call_bind, call_pure] at h
    obtain ⟨_, _, h, rfl, rfl⟩ := h
    exact postpone_ok h
  | migrate receipt actor key seller now receiptHash =>
    simp only [QuotaCall.apply, call_bind, call_pure] at h
    obtain ⟨_, _, h, rfl, rfl⟩ := h
    exact migrate_ok h

theorem confirm_atomic (key : String) (attemptedAt : Instant) : Atomic (Quota.confirm key attemptedAt) :=
  .bind (readOnly_query _) fun _ => .bind (readOnly_query _) fun _ =>
    (total_modify _).modify_bind.atomic

/-- A migration whose checks succeed does not fail later, although it confirms after its first
writes. -/
theorem migrate_atomic (receipt : LegacySuccessReceipt) (actor key seller : String) (now : Instant)
    (receiptHash : String) : Atomic (Quota.migrate receipt actor key seller now receiptHash) := by
  intro s e t h
  simp only [Quota.migrate, Quota.confirm, error_of_bind, error_of_query, error_of_modify, call_query,
    call_modify, ensure_eq_ok, false_or] at h
  rcases h with ⟨-, rfl⟩ | ⟨-, _, ⟨-, rfl⟩, ⟨-, rfl⟩ | ⟨-, _, ⟨hmatch, rfl⟩, -, _, rfl, -, _, rfl, -, _,
    rfl, hconfirm⟩⟩
  · rfl
  · rfl
  · obtain ⟨hkey, -, deadline, -, hstarted⟩ := receiptMatches_started hmatch
    have hnext := (personal_of_conservative hstarted receipt.requestStartedAt.2.1).1
    rcases hconfirm with ⟨hguard, -⟩ | ⟨-, _, ⟨-, rfl⟩, ⟨hrange, -⟩ | ⟨_, _, -, hwrite⟩⟩
    · exact absurd ⟨hkey, rfl, rfl⟩ (ensure_eq_error.mp hguard).1
    · rw [hnext] at hrange
      cases hrange
    · simp at hwrite

/-- **A failed call leaves the journal unchanged.** -/
theorem quota_atomic (call : QuotaCall) : Atomic call.apply := by
  have hreturn : ∀ {m : Method Quota String Unit}, Atomic m → Atomic (do m; return false) := by
    intro m hm s e t h
    rcases error_of_bind.mp h with h | ⟨_, _, -, h⟩
    · exact hm s e t h
    · cases h
  cases call with
  | reserve now key =>
    refine .bind (readOnly_query _) fun early => ?_
    split
    · exact (readOnly_query fun _ => .ok false).atomic
    · exact .bind (readOnly_query _) fun _ =>
        Total.atomic (.modify_bind (.modify_bind (.modify_bind (total_pure true))))
  | confirm key attemptedAt => exact hreturn (confirm_atomic key attemptedAt)
  | postpone now pause =>
    exact hreturn (.bind (readOnly_query _) fun _ => .bind (readOnly_query _) fun _ =>
      .bind (readOnly_query _) fun _ => .bind (readOnly_query _) fun _ =>
        (total_modify _).modify_bind.modify_bind.atomic)
  | migrate receipt actor key seller now receiptHash =>
    exact hreturn (migrate_atomic receipt actor key seller now receiptHash)

/-! ## Valid journals -/

/-- A journal of the current version: the next request, and the last one. -/
structure Current (s : Quota) (next last : ℤ) : Prop where
  version : s.version = 2
  deadline : s.nextAllowedAt = some next
  attempt : s.lastAttemptAt = some last
  calendar : inCalendar (last + s.interval) = some (last + s.interval)
  paced : last + s.interval ≤ next
  paused : ∀ pausedUntil ∈ s.retryAfterUntil, pausedUntil ≤ next
  key : ∀ key ∈ s.personalKeyFingerprint, validDigest key
  receipt : ∀ receiptHash ∈ s.legacyReceiptSha256, validDigest receiptHash

/-- A legacy journal: only its deadline is known. -/
structure Legacy (s : Quota) (next : ℤ) : Prop where
  version : s.version = 0
  deadline : s.nextAllowedAt = some next
  attempt : s.lastAttemptAt = none
  paused : s.retryAfterUntil = none
  key : s.personalKeyFingerprint = none
  receipt : s.legacyReceiptSha256 = none

theorem validate_of_current {next last : ℤ} (h : Current s next last) : s.validate = .ok () := by
  have hall : ∀ {α : Type} {p : α → Bool} {o : Option α}, (∀ a ∈ o, p a) → o.all p := by
    intro α p o ho
    cases o with
    | none => rfl
    | some a => exact ho a rfl
  simp only [Quota.validate, h.deadline, h.version, h.attempt, ok_of_bind, context_eq_ok, ensure_eq_ok]
  exact ⟨_, rfl, _, rfl, _, h.calendar, h.paced,
    hall fun pausedUntil hmem => decide_eq_true (h.paused pausedUntil hmem), hall h.key,
    hall h.receipt⟩

theorem validate_cases (h : s.validate = .ok ()) :
    (∃ next, Legacy s next) ∨ ∃ next last, Current s next last := by
  have hall : ∀ {α : Type} {p : α → Bool} {o : Option α}, o.all p → ∀ a ∈ o, p a := by
    intro α p o ho a ha
    rw [Option.mem_def.mp ha] at ho
    exact ho
  simp only [Quota.validate, ok_of_bind, context_eq_ok] at h
  obtain ⟨next, hnext, h⟩ := h
  split at h
  · rename_i hversion
    rw [ensure_eq_ok] at h
    exact .inl ⟨next, hversion, hnext, h.1, h.2.1, h.2.2.1, h.2.2.2⟩
  · rename_i hversion
    simp only [ok_of_bind, context_eq_ok, ensure_eq_ok] at h
    obtain ⟨last, hlast, minimum, hminimum, hpaced, hpaused, hkey, hreceipt⟩ := h
    obtain ⟨rfl, hrange⟩ := inCalendar_eq_some.mp hminimum
    exact .inr ⟨next, last, hversion, hnext, hlast, hminimum, hpaced,
      fun pausedUntil hmem => of_decide_eq_true (hall hpaused pausedUntil hmem), hall hkey,
      hall hreceipt⟩
  · cases h

/-- A journal before its first call, or a valid one. -/
def Sound (s : Quota) : Prop :=
  s = Quota.default ∨ (∃ next, Legacy s next) ∨ ∃ next last, Current s next last

theorem interval_le_reserved (s : Quota) (key : Option String) :
    personal ≤ s.interval ∧ s.interval ≤ s.reservedInterval key := by
  unfold Quota.interval Quota.reservedInterval
  have hle : personal ≤ conservative := by decide
  constructor
  · split_ifs
    · exact le_rfl
    · exact hle
  · split_ifs with hpersonal hkey hkey
    · exact le_rfl
    · exact hle
    · exact absurd (hkey.2 ▸ hkey.1) hpersonal
    · exact le_rfl

/-- The pauses of a sound journal end before its deadline. -/
theorem Sound.paused (hs : Sound s) : ∀ pausedUntil ∈ s.retryAfterUntil,
    ∃ next, s.nextAllowedAt = some next ∧ pausedUntil ≤ next := by
  intro pausedUntil hmem
  rcases hs with rfl | ⟨next, hs⟩ | ⟨next, last, hs⟩
  · cases hmem
  · rw [hs.paused] at hmem
    cases hmem
  · exact ⟨next, hs.deadline, hs.paused pausedUntil hmem⟩

theorem Sound.digests (hs : Sound s) : (∀ key ∈ s.personalKeyFingerprint, validDigest key) ∧
    ∀ receiptHash ∈ s.legacyReceiptSha256, validDigest receiptHash := by
  rcases hs with rfl | ⟨next, hs⟩ | ⟨next, last, hs⟩
  · exact ⟨fun _ hmem => (nomatch hmem), fun _ hmem => (nomatch hmem)⟩
  · rw [hs.key, hs.receipt]
    exact ⟨fun _ hmem => (nomatch hmem), fun _ hmem => (nomatch hmem)⟩
  · exact ⟨hs.key, hs.receipt⟩

theorem granted_current {now : Instant} {key : Option String} {next : ℤ} (hs : Sound s)
    (hdue : ∀ deadline ∈ s.nextAllowedAt, deadline ≤ now.1)
    (hnext : checkedAddSigned now (s.reservedInterval key) = some next) :
    next = now.1 + s.reservedInterval key ∧
      Current { s with version := 2, lastAttemptAt := some now.1, nextAllowedAt := some next }
        next now := by
  obtain ⟨rfl, hrange⟩ := inCalendar_eq_some.mp hnext
  obtain ⟨hpersonal, hle⟩ := interval_le_reserved s key
  have hpos : (0 : ℤ) ≤ personal := by decide
  have hnow := now.2.1
  refine ⟨rfl, rfl, rfl, rfl, inCalendar_eq_some.mpr ⟨rfl, ?_, ?_⟩, ?_, fun pausedUntil hmem => ?_,
    hs.digests.1, hs.digests.2⟩
  · show minUtc ≤ now.1 + s.interval
    omega
  · show now.1 + s.interval ≤ maxUtc
    omega
  · show now.1 + s.interval ≤ now.1 + s.reservedInterval key
    omega
  · obtain ⟨deadline, hdeadline, hpaused⟩ := hs.paused pausedUntil hmem
    have := hdue deadline hdeadline
    omega

theorem confirmed_current {key : String} {attemptedAt : Instant} {next : ℤ} (hs : Sound s)
    (hkey : validDigest key) (hversion : s.version = 2) (hlast : s.lastAttemptAt = some attemptedAt.1)
    (hnext : checkedAddSigned attemptedAt personal = some next) :
    Current { s with
      personalKeyFingerprint := some key
      nextAllowedAt := some (s.retryAfterUntil.elim next fun pausedUntil => max pausedUntil next) }
      (s.retryAfterUntil.elim next fun pausedUntil => max pausedUntil next) attemptedAt := by
  obtain ⟨rfl, hrange⟩ := inCalendar_eq_some.mp hnext
  refine ⟨hversion, rfl, hlast, hnext, ?_, fun pausedUntil hmem => ?_, fun key' hmem => ?_,
    hs.digests.2⟩
  · show attemptedAt.1 + personal ≤ _
    cases s.retryAfterUntil with
    | none => exact le_rfl
    | some pausedUntil => exact le_max_right _ _
  · have hsome : s.retryAfterUntil = some pausedUntil := hmem
    rw [hsome]
    exact le_max_left _ _
  · cases hmem
    exact hkey

theorem postponed_current {now : Instant} {pausedUntil last minimum : ℤ} (hs : Sound s)
    (hlast : s.pausedAttempt now = some last)
    (hminimum : checkedAddSigned last s.interval = some minimum) :
    Current { s.adoptAttempt (some last) with
      retryAfterUntil := some (s.retryAfterUntil.elim pausedUntil fun old => max old pausedUntil)
      nextAllowedAt := some (max (s.nextAllowedAt.elim pausedUntil fun old =>
        max old pausedUntil) minimum) }
      (max (s.nextAllowedAt.elim pausedUntil fun old => max old pausedUntil) minimum) last := by
  obtain ⟨rfl, hrange⟩ := inCalendar_eq_some.mp hminimum
  have hadopt : (s.adoptAttempt (some last)).version = 2 ∧
      (s.adoptAttempt (some last)).lastAttemptAt = some last ∧
      (s.adoptAttempt (some last)).personalKeyFingerprint = s.personalKeyFingerprint ∧
      (s.adoptAttempt (some last)).legacyReceiptSha256 = s.legacyReceiptSha256 := by
    unfold Quota.adoptAttempt
    by_cases hversion : s.version = 0
    · rw [if_pos hversion]
      exact ⟨rfl, rfl, rfl, rfl⟩
    · rw [Quota.pausedAttempt, if_neg hversion] at hlast
      rw [if_neg hversion]
      rcases hs with rfl | ⟨next, hs⟩ | ⟨next, last', hs⟩
      · exact absurd rfl hversion
      · exact absurd hs.version hversion
      · exact ⟨hs.version, hlast, rfl, rfl⟩
  obtain ⟨hversion, hattempt, hkey, hreceipt⟩ := hadopt
  have hinterval : Quota.interval { s.adoptAttempt (some last) with
      retryAfterUntil := some (s.retryAfterUntil.elim pausedUntil fun old => max old pausedUntil)
      nextAllowedAt := some (max (s.nextAllowedAt.elim pausedUntil fun old =>
        max old pausedUntil) (last + s.interval)) } = s.interval := by
    simp only [Quota.interval, hkey]
  refine ⟨hversion, rfl, hattempt, ?_, ?_, fun ended hmem => ?_, ?_, ?_⟩
  · rw [hinterval]
    exact hminimum
  · rw [hinterval]
    exact le_max_right _ _
  · cases hmem
    refine le_trans ?_ (le_max_left _ _)
    cases hretry : s.retryAfterUntil with
    | none =>
      cases s.nextAllowedAt with
      | none => exact le_rfl
      | some old => exact le_max_right _ _
    | some old =>
      obtain ⟨next, hnext, hle⟩ := hs.paused old hretry
      rw [hnext]
      exact max_le_max hle le_rfl
  · show ∀ key ∈ (s.adoptAttempt (some last)).personalKeyFingerprint, validDigest key
    rw [hkey]
    exact hs.digests.1
  · show ∀ receiptHash ∈ (s.adoptAttempt (some last)).legacyReceiptSha256, validDigest receiptHash
    rw [hreceipt]
    exact hs.digests.2

/-- **Every call keeps the journal sound.** -/
theorem QuotaMove.sound {call : QuotaCall} (h : QuotaMove s call answer t) (hs : Sound s) :
    Sound t := by
  cases h with
  | early => exact hs
  | granted hdue hnext => exact .inr (.inr ⟨_, _, (granted_current hs hdue hnext).2⟩)
  | confirmed hkey hversion hlast hnext =>
    exact .inr (.inr ⟨_, _, confirmed_current hs hkey hversion hlast hnext⟩)
  | postponed hpause hlast hminimum =>
    exact .inr (.inr ⟨_, _, postponed_current hs hlast hminimum⟩)
  | migrated hversion hretry hmatch hnext =>
    obtain ⟨hkey, hhash, -⟩ := receiptMatches_started hmatch
    obtain ⟨rfl, hrange⟩ := inCalendar_eq_some.mp hnext
    refine .inr (.inr ⟨_, _, rfl, rfl, rfl, hnext, le_rfl, fun pausedUntil hmem => ?_,
      fun key' hmem => ?_, fun receiptHash' hmem => ?_⟩)
    · rw [hretry] at hmem
      cases hmem
    · cases hmem
      exact hkey
    · cases hmem
      exact hhash

theorem after_sound (calls : List QuotaCall) (hs : Sound s) : Sound (after QuotaCall.apply s calls) :=
  after_invariant (fun _ _ => False) quota_atomic
    (fun _ _ _ _ hs hcall _ => (move_of_ok hcall).sound hs) hs calls fun _ _ _ h => h

/-! ## Pacing -/

/-- The journal after a request at `start`: no other one before `least`. -/
def Reserved (start least : ℤ) (s : Quota) : Prop :=
  Sound s ∧ s.version = 2 ∧ s.lastAttemptAt = some start ∧
    ∃ next, s.nextAllowedAt = some next ∧ least ≤ next

/-- Until the next request or a confirmation the deadline of a request stays. -/
theorem QuotaMove.reserved {call : QuotaCall} {start least : ℤ} (h : QuotaMove s call answer t)
    (hs : Reserved start least s) (hgrant : answer = false)
    (hconfirm : ∀ key attemptedAt, call = .confirm key attemptedAt → attemptedAt.1 = start →
      least ≤ start + personal) : Reserved start least t := by
  obtain ⟨hsound, hversion, hlast, next, hnext, hle⟩ := hs
  have hsound' := h.sound hsound
  cases h with
  | early => exact ⟨hsound, hversion, hlast, next, hnext, hle⟩
  | granted => cases hgrant
  | confirmed hkey hversion' hlast' hnext' =>
    rename_i key attemptedAt next'
    obtain ⟨rfl, hrange⟩ := inCalendar_eq_some.mp hnext'
    rw [hlast] at hlast'
    obtain rfl : start = attemptedAt.1 := Option.some.inj hlast'
    have hleast := hconfirm key attemptedAt rfl rfl
    refine ⟨hsound', hversion, hlast, _, rfl, hleast.trans ?_⟩
    cases s.retryAfterUntil with
    | none => exact le_rfl
    | some pausedUntil => exact le_max_right _ _
  | postponed hpause hlast' hminimum =>
    rename_i now pause pausedUntil last minimum
    have hadopt : s.adoptAttempt (some last) = s := by
      unfold Quota.adoptAttempt
      rw [if_neg]
      simp [hversion]
    refine ⟨hsound', ?_, ?_, _, rfl, ?_⟩
    · show (s.adoptAttempt (some last)).version = 2
      rw [hadopt, hversion]
    · show (s.adoptAttempt (some last)).lastAttemptAt = some start
      rw [hadopt, hlast]
    · rw [hnext]
      exact hle.trans ((le_max_left _ _).trans (le_max_left _ _))
  | migrated hversion' =>
    rw [hversion] at hversion'
    cases hversion'

theorem of_granted {now : Instant} {key : Option String}
    (h : (QuotaCall.reserve now key).apply s = (.ok true, t)) :
    (∀ deadline ∈ s.nextAllowedAt, deadline ≤ now.1) ∧ ∃ next,
      checkedAddSigned now (s.reservedInterval key) = some next ∧
        t = { s with version := 2, lastAttemptAt := some now.1, nextAllowedAt := some next } := by
  cases move_of_ok h with
  | granted hdue hnext => exact ⟨hdue, _, hnext, rfl⟩

/-- **Two requests in a row.** -/
theorem reserve_apart {now now' : Instant} {key key' : Option String} {later : List QuotaCall}
    {u : Quota} (least : ℤ) (hs : Sound s)
    (h : (QuotaCall.reserve now key).apply s = (.ok true, t))
    (hlater : ∀ call, ¬ Succeeds QuotaCall.apply t later call true)
    (h' : (QuotaCall.reserve now' key').apply (after QuotaCall.apply t later) = (.ok true, u))
    (hleast : least ≤ now.1 + s.reservedInterval key)
    (hconfirm : ∀ key, Succeeds QuotaCall.apply t later (.confirm key now) false →
      least ≤ now.1 + personal) : least ≤ now'.1 := by
  obtain ⟨hdue, next, hnext, rfl⟩ := of_granted h
  obtain ⟨hsum, hcurrent⟩ := granted_current hs hdue hnext
  have hreserved : Reserved now.1 least _ := ⟨.inr (.inr ⟨_, _, hcurrent⟩), rfl, rfl, next, rfl,
    hsum ▸ hleast⟩
  -- No call in between grants a request or confirms this one too early.
  have hkept := after_invariant (P := Reserved now.1 least)
    (fun call answer => answer = true ∨ ∃ key, call = .confirm key now ∧ ¬ least ≤ now.1 + personal)
    quota_atomic (fun v call answer w hv hcall hnot => ?_) hreserved later ?_
  · obtain ⟨-, -, -, deadline, hdeadline, hle⟩ := hkept
    exact hle.trans ((of_granted h').1 deadline hdeadline)
  · refine (move_of_ok hcall).reserved hv ?_ fun key' attemptedAt hcall' hstart => ?_
    · rw [← Bool.not_eq_true]
      exact fun htrue => hnot (.inl htrue)
    · by_contra hlt
      exact hnot (.inr ⟨key', by rw [hcall', Subtype.ext hstart], hlt⟩)
  · rintro call answer hsucceeds (rfl | ⟨key', rfl, hlt⟩)
    · exact hlater call hsucceeds
    · cases answer with
      | true => exact hlater _ hsucceeds
      | false => exact hlt (hconfirm key' hsucceeds)

/-- A pause that has not ended yet. -/
def Paused (pausedUntil : ℤ) (s : Quota) : Prop :=
  Sound s ∧ ∃ ended, s.retryAfterUntil = some ended ∧ pausedUntil ≤ ended

theorem QuotaMove.paused {call : QuotaCall} {pausedUntil : ℤ} (h : QuotaMove s call answer t)
    (hs : Paused pausedUntil s) : Paused pausedUntil t := by
  obtain ⟨hsound, ended, hretry, hle⟩ := hs
  refine ⟨h.sound hsound, ?_⟩
  cases h with
  | early => exact ⟨ended, hretry, hle⟩
  | granted => exact ⟨ended, hretry, hle⟩
  | confirmed => exact ⟨ended, hretry, hle⟩
  | postponed =>
    rw [hretry]
    exact ⟨_, rfl, hle.trans (le_max_left _ _)⟩
  | migrated hversion hretry' =>
    rw [hretry] at hretry'
    cases hretry'

/-- **No request during a vendor pause.** -/
theorem reserve_after_pause {now now' : Instant} {pause : ℕ} {key : Option String}
    {later : List QuotaCall} {u : Quota} (hs : Sound s)
    (h : (QuotaCall.postpone now pause).apply s = (.ok answer, t))
    (h' : (QuotaCall.reserve now' key).apply (after QuotaCall.apply t later) = (.ok true, u)) :
    now.1 + seconds pause ≤ now'.1 := by
  have hmove := move_of_ok h
  have hpaused : Paused (now.1 + seconds pause) t := by
    refine ⟨hmove.sound hs, ?_⟩
    cases hmove with
    | postponed hpause =>
      rw [← hpause]
      cases s.retryAfterUntil with
      | none => exact ⟨_, rfl, le_rfl⟩
      | some old => exact ⟨_, rfl, le_max_right _ _⟩
  obtain ⟨hsound, ended, hretry, hle⟩ := after_invariant (P := Paused (now.1 + seconds pause))
    (fun _ _ => False) quota_atomic (fun _ _ _ _ hv hcall _ => (move_of_ok hcall).paused hv) hpaused
    later fun _ _ _ hfalse => hfalse
  obtain ⟨next, hnext, hended⟩ := hsound.paused ended hretry
  have := (of_granted h').1 next hnext
  omega

/-! ## Legacy deadlines -/

/-- A pause took over the legacy journal, and `now` counts as its attempt. -/
def TookOver (s : Quota) (calls : List QuotaCall) (now : Instant) : Prop :=
  ∃ before pause rest, calls = before ++ .postpone now pause :: rest ∧
    (after QuotaCall.apply s before).version = 0 ∧
    ((QuotaCall.postpone now pause).apply (after QuotaCall.apply s before)).1 = .ok false

/-- A receipt of the request that set the legacy deadline migrated the journal. -/
def Migrated (s : Quota) (deadline : ℤ) (calls : List QuotaCall) : Prop :=
  ∃ receipt actor key seller now receiptHash,
    Succeeds QuotaCall.apply s calls (.migrate receipt actor key seller now receiptHash) false ∧
      receipt.requestStartedAt.1 + hours 12 = deadline

/-- The instant of the pause that took the journal over is confirmed as if it were a request, while the
deadline is more than a minute later and no recorded pause reaches it. -/
def ConfirmedAway (s : Quota) (deadline : ℤ) (calls : List QuotaCall) : Prop :=
  ∃ before key now rest, calls = before ++ .confirm key now :: rest ∧ TookOver s before now ∧
    ((QuotaCall.confirm key now).apply (after QuotaCall.apply s before)).1 = .ok false ∧
    now.1 + seconds 60 < deadline ∧
    ∀ pausedUntil ∈ (after QuotaCall.apply s before).retryAfterUntil, pausedUntil < deadline

/-- Only a migration shortens the legacy deadline. -/
def OnlyMigrated (s : Quota) (deadline : ℤ) (calls : List QuotaCall) : Prop :=
  ∀ done, done <+: calls →
    (∃ next, (after QuotaCall.apply s done).nextAllowedAt = some next ∧ deadline ≤ next) ∨
      Migrated s deadline done

/-- What a sequence of calls leaves of a legacy deadline. -/
structure Kept (s : Quota) (deadline : ℤ) (calls : List QuotaCall) (t : Quota) : Prop where
  sound : Sound t
  kept : ∃ next, t.nextAllowedAt = some next ∧ deadline ≤ next
  origin : t.version = 0 ∧ t.nextAllowedAt = some deadline ∨
    ∃ last : Instant, t.lastAttemptAt = some last.1 ∧ (deadline ≤ last.1 ∨ TookOver s calls last)

theorem TookOver.append {now : Instant} {calls : List QuotaCall} (h : TookOver s calls now)
    (rest : List QuotaCall) : TookOver s (calls ++ rest) now := by
  obtain ⟨before, pause, rest', rfl, h⟩ := h
  exact ⟨before, pause, rest' ++ rest, by simp, h⟩

theorem Migrated.append {deadline : ℤ} {calls : List QuotaCall} (h : Migrated s deadline calls)
    (rest : List QuotaCall) : Migrated s deadline (calls ++ rest) := by
  obtain ⟨receipt, actor, key, seller, now, receiptHash, h, heq⟩ := h
  exact ⟨receipt, actor, key, seller, now, receiptHash, h.append rest, heq⟩

theorem ConfirmedAway.append {deadline : ℤ} {calls : List QuotaCall} (h : ConfirmedAway s deadline calls)
    (rest : List QuotaCall) : ConfirmedAway s deadline (calls ++ rest) := by
  obtain ⟨before, key, now, rest', rfl, h⟩ := h
  exact ⟨before, key, now, rest' ++ rest, by simp, h⟩

theorem Kept.append {deadline : ℤ} {calls : List QuotaCall} (h : Kept s deadline calls t)
    (rest : List QuotaCall) : Kept s deadline (calls ++ rest) t := by
  refine ⟨h.sound, h.kept, h.origin.imp_right ?_⟩
  rintro ⟨last, hlast, hstart⟩
  exact ⟨last, hlast, hstart.imp_right (·.append rest)⟩

section Steps

variable {deadline : ℤ} {calls : List QuotaCall} {u : Quota}

theorem Kept.reserve {now : Instant} {key : Option String}
    (h : Kept s deadline calls (after QuotaCall.apply s calls))
    (hcall : (QuotaCall.reserve now key).apply (after QuotaCall.apply s calls) = (.ok answer, u)) :
    Kept s deadline (calls ++ [.reserve now key]) u := by
  have hmove := move_of_ok hcall
  have hsound := hmove.sound h.sound
  obtain ⟨next, hnext, hle⟩ := h.kept
  cases hmove with
  | early => exact h.append _
  | granted hdue hnext' =>
    obtain ⟨rfl, -⟩ := inCalendar_eq_some.mp hnext'
    have hnow := hdue next hnext
    have hpos : (0 : ℤ) ≤ personal := by decide
    have hinterval := interval_le_reserved (after QuotaCall.apply s calls) key
    exact ⟨hsound, ⟨_, rfl, by omega⟩, .inr ⟨now, rfl, .inl (by omega)⟩⟩

theorem Kept.confirm {key : String} {attemptedAt : Instant}
    (h : Kept s deadline calls (after QuotaCall.apply s calls))
    (hcall : (QuotaCall.confirm key attemptedAt).apply (after QuotaCall.apply s calls) =
      (.ok answer, u)) :
    Kept s deadline (calls ++ [.confirm key attemptedAt]) u ∨
      ConfirmedAway s deadline (calls ++ [.confirm key attemptedAt]) := by
  have hmove := move_of_ok hcall
  have hsound := hmove.sound h.sound
  cases hmove with
  | confirmed hkey hversion hlast hnext =>
    obtain ⟨rfl, -⟩ := inCalendar_eq_some.mp hnext
    rcases h.origin with ⟨hversion', -⟩ | ⟨last, hlast', hstart⟩
    · rw [hversion] at hversion'
      cases hversion'
    rw [hlast] at hlast'
    obtain rfl : attemptedAt = last := Subtype.ext (Option.some.inj hlast')
    -- The new deadline is the later one of a minute after the attempt and the pauses.
    by_cases hreach : deadline ≤ (after QuotaCall.apply s calls).retryAfterUntil.elim
        (attemptedAt.1 + personal) fun pausedUntil => max pausedUntil (attemptedAt.1 + personal)
    · exact .inl ⟨hsound, ⟨_, rfl, hreach⟩,
        .inr ⟨attemptedAt, hlast, hstart.imp_right (·.append _)⟩⟩
    · have hpersonal : attemptedAt.1 + personal < deadline ∧
          ∀ pausedUntil ∈ (after QuotaCall.apply s calls).retryAfterUntil, pausedUntil < deadline := by
        cases hretry : (after QuotaCall.apply s calls).retryAfterUntil with
        | none =>
          rw [hretry] at hreach
          exact ⟨not_le.mp hreach, fun _ hmem => by cases hmem⟩
        | some ended =>
          rw [hretry] at hreach
          obtain ⟨hended, hattempt⟩ := max_lt_iff.mp (not_le.mp hreach)
          refine ⟨hattempt, fun pausedUntil hmem => ?_⟩
          cases hmem
          exact hended
      have hpos : (0 : ℤ) ≤ personal := by decide
      have htook := hstart.resolve_left (by omega)
      exact .inr ⟨calls, key, attemptedAt, [], rfl, htook, congrArg Prod.fst hcall, hpersonal⟩

theorem Kept.postpone {now : Instant} {pause : ℕ}
    (h : Kept s deadline calls (after QuotaCall.apply s calls))
    (hcall : (QuotaCall.postpone now pause).apply (after QuotaCall.apply s calls) =
      (.ok answer, u)) :
    Kept s deadline (calls ++ [.postpone now pause]) u := by
  have hmove := move_of_ok hcall
  have hsound := hmove.sound h.sound
  obtain ⟨next, hnext, hle⟩ := h.kept
  cases hmove with
  | postponed hpause hlast hminimum =>
    rename_i pausedUntil last minimum
    have hkept : deadline ≤ max ((after QuotaCall.apply s calls).nextAllowedAt.elim pausedUntil fun old =>
        max old pausedUntil) minimum := by
      rw [hnext]
      exact hle.trans ((le_max_left _ _).trans (le_max_left _ _))
    have hattempt := (@postponed_current _ now pausedUntil _ _ h.sound hlast hminimum).attempt
    refine ⟨hsound, ⟨_, rfl, hkept⟩, .inr ?_⟩
    by_cases hversion : (after QuotaCall.apply s calls).version = 0
    · -- On the legacy journal the pause counts as the attempt.
      rw [Quota.pausedAttempt, if_pos hversion] at hlast
      obtain rfl : now.1 = last := Option.some.inj hlast
      exact ⟨now, hattempt, .inr ⟨calls, pause, [], rfl, hversion, congrArg Prod.fst hcall⟩⟩
    · obtain ⟨last', hlast', hstart⟩ := h.origin.resolve_left fun horigin => hversion horigin.1
      rw [Quota.pausedAttempt, if_neg hversion, hlast'] at hlast
      obtain rfl : last'.1 = last := Option.some.inj hlast
      exact ⟨last', hattempt, hstart.imp_right (·.append _)⟩

theorem Kept.migrate {receipt : LegacySuccessReceipt} {actor key seller receiptHash : String}
    {now : Instant} (h : Kept s deadline calls (after QuotaCall.apply s calls))
    (hcall : (QuotaCall.migrate receipt actor key seller now receiptHash).apply
      (after QuotaCall.apply s calls) = (.ok answer, u)) :
    Migrated s deadline (calls ++ [.migrate receipt actor key seller now receiptHash]) := by
  cases move_of_ok hcall with
  | migrated hversion hretry hmatch hnext =>
    obtain ⟨-, -, deadline', hdeadline', hstarted⟩ := receiptMatches_started hmatch
    obtain ⟨heq, -⟩ := inCalendar_eq_some.mp hstarted
    rcases h.origin with ⟨-, hsame⟩ | ⟨last, hlast, -⟩
    · obtain rfl : deadline' = deadline := Option.some.inj (hdeadline'.symm.trans hsame)
      exact ⟨receipt, actor, key, seller, now, receiptHash,
        succeeds_snoc (congrArg Prod.fst hcall), heq.symm⟩
    · -- A journal of version 0 has no attempt yet.
      rcases h.sound with hdefault | ⟨_, hlegacy⟩ | ⟨_, _, hcurrent⟩
      · rw [hdefault] at hlast
        cases hlast
      · rw [hlegacy.attempt] at hlast
        cases hlast
      · rw [hcurrent.version] at hversion
        cases hversion

theorem Kept.step {call : QuotaCall} (h : Kept s deadline calls (after QuotaCall.apply s calls))
    (hcall : call.apply (after QuotaCall.apply s calls) = (.ok answer, u)) :
    Kept s deadline (calls ++ [call]) u ∨ Migrated s deadline (calls ++ [call]) ∨
      ConfirmedAway s deadline (calls ++ [call]) := by
  cases call with
  | reserve now key => exact .inl (h.reserve hcall)
  | confirm key attemptedAt => exact (h.confirm hcall).imp_right .inr
  | postpone now pause => exact .inl (h.postpone hcall)
  | migrate receipt actor key seller now receiptHash => exact .inr (.inl (h.migrate hcall))

end Steps

/-- **A legacy deadline stays** until it is migrated, or the pause that took it over is confirmed. -/
theorem legacy_kept {deadline : ℤ} (hs : Legacy s deadline) (calls : List QuotaCall) :
    Kept s deadline calls (after QuotaCall.apply s calls) ∨ Migrated s deadline calls ∨
      ConfirmedAway s deadline calls := by
  induction calls using List.reverseRecOn with
  | nil =>
    exact .inl ⟨.inr (.inl ⟨deadline, hs⟩), ⟨deadline, hs.deadline, le_rfl⟩,
      .inl ⟨hs.version, hs.deadline⟩⟩
  | append_singleton calls call ih =>
    rcases ih with hkept | hmigrated | haway
    · rw [after_snoc]
      rcases (quota_atomic call).cases (after QuotaCall.apply s calls) with ⟨answer, hcall⟩ | hsame
      · exact hkept.step hcall
      · rw [hsame]
        exact .inl (hkept.append _)
    · exact .inr (.inl (hmigrated.append _))
    · exact .inr (.inr (haway.append _))

theorem QuotaMove.version {call : QuotaCall} (h : QuotaMove s call answer t) (hs : Sound s)
    (hversion : s.version ≠ 0) : t.version ≠ 0 := by
  cases h with
  | early => exact hversion
  | granted => exact (by decide : 2 ≠ 0)
  | confirmed => exact hversion
  | postponed hpause hlast hminimum =>
    rw [(postponed_current hs hlast hminimum).version]
    decide
  | migrated => exact (by decide : 2 ≠ 0)

theorem QuotaMove.of_postpone {now : Instant} {pause : ℕ} (h : QuotaMove s (.postpone now pause) answer t)
    (hs : Sound s) : t.version ≠ 0 := by
  cases h with
  | postponed hpause hlast hminimum =>
    rw [(postponed_current hs hlast hminimum).version]
    decide

theorem QuotaMove.of_migrate {receipt : LegacySuccessReceipt} {actor key seller receiptHash : String}
    {now : Instant} (h : QuotaMove s (.migrate receipt actor key seller now receiptHash) answer t) :
    s.version = 0 ∧ t.version ≠ 0 := by
  cases h with
  | migrated hversion => exact ⟨hversion, (by decide : 2 ≠ 0)⟩

theorem QuotaMove.of_confirm {key : String} {attemptedAt : Instant}
    (h : QuotaMove s (.confirm key attemptedAt) answer t) :
    t.nextAllowedAt = some (s.retryAfterUntil.elim (attemptedAt.1 + personal) fun pausedUntil =>
      max pausedUntil (attemptedAt.1 + personal)) := by
  cases h with
  | confirmed hkey hversion hlast hnext =>
    obtain ⟨rfl, -⟩ := inCalendar_eq_some.mp hnext
    rfl

theorem version_of_append {before rest : List QuotaCall} (hs : Sound s)
    (h : (after QuotaCall.apply s (before ++ rest)).version = 0) :
    (after QuotaCall.apply s before).version = 0 := by
  by_contra hversion
  rw [after_append] at h
  refine (after_invariant (P := fun s => Sound s ∧ s.version ≠ 0) (fun _ _ => False) quota_atomic
    (fun _ _ _ _ hv hcall _ => ?_) ⟨after_sound before hs, hversion⟩ rest fun _ _ _ h => h).2 h
  exact ⟨(move_of_ok hcall).sound hv.1, (move_of_ok hcall).version hv.1 hv.2⟩

/-- Only one call of a sequence takes the journal off version 0. -/
theorem same_call {before rest before' rest' : List QuotaCall} {call call' : QuotaCall} (hs : Sound s)
    (hcalls : before ++ call :: rest = before' ++ call' :: rest')
    (h : (after QuotaCall.apply s before).version = 0)
    (hleft : (after QuotaCall.apply s (before ++ [call])).version ≠ 0)
    (h' : (after QuotaCall.apply s before').version = 0)
    (hleft' : (after QuotaCall.apply s (before' ++ [call'])).version ≠ 0) : call = call' := by
  rcases List.append_eq_append_iff.mp hcalls with ⟨middle, rfl, hmiddle⟩ | ⟨middle, rfl, hmiddle⟩
  · rcases List.cons_eq_append_iff.mp hmiddle with ⟨-, hhead⟩ | ⟨middle, rfl, -⟩
    · exact (List.cons.inj hhead).1.symm
    · rw [List.append_cons] at h'
      exact absurd (version_of_append hs h') hleft
  · rcases List.cons_eq_append_iff.mp hmiddle with ⟨-, hhead⟩ | ⟨middle, rfl, -⟩
    · exact (List.cons.inj hhead).1
    · rw [List.append_cons] at h
      exact absurd (version_of_append hs h) hleft'

theorem TookOver.not_migrated {deadline : ℤ} {calls : List QuotaCall} {now : Instant} (hs : Sound s)
    (h : TookOver s calls now) : ¬ Migrated s deadline calls := by
  rintro ⟨receipt, actor, key, seller, now', receiptHash, ⟨before', rest', hcalls', hmigrate⟩, -⟩
  obtain ⟨before, pause, rest, hcalls, hversion, hpostpone⟩ := h
  obtain ⟨hversion', hmoved⟩ := (move_of_ok (Prod.ext hmigrate rfl)).of_migrate
  have hleft : (after QuotaCall.apply s (before ++ [.postpone now pause])).version ≠ 0 := by
    rw [after_snoc]
    exact (move_of_ok (Prod.ext hpostpone rfl)).of_postpone (after_sound before hs)
  have hleft' : (after QuotaCall.apply s
      (before' ++ [.migrate receipt actor key seller now' receiptHash])).version ≠ 0 := by
    rw [after_snoc]
    exact hmoved
  cases same_call hs (hcalls.symm.trans hcalls') hversion hleft hversion' hleft'

/-- **Only a migration shortens a legacy deadline, unless the pause that took it over is confirmed.** -/
theorem onlyMigrated_iff {deadline : ℤ} {calls : List QuotaCall} (hs : Legacy s deadline) :
    OnlyMigrated s deadline calls ↔ ¬ ConfirmedAway s deadline calls := by
  have hsound : Sound s := .inr (.inl ⟨deadline, hs⟩)
  constructor
  · rintro honly ⟨before, key, now, rest, rfl, htook, hconfirm, hpersonal, hpaused⟩
    have hdone : before ++ [QuotaCall.confirm key now] <+: before ++ .confirm key now :: rest :=
      ⟨rest, by simp⟩
    rcases honly _ hdone with ⟨next, hnext, hle⟩ | hmigrated
    · rw [after_snoc, (move_of_ok (Prod.ext hconfirm rfl)).of_confirm, Option.some.injEq] at hnext
      have hearly : now.1 + personal < deadline := hpersonal
      cases hretry : (after QuotaCall.apply s before).retryAfterUntil with
      | none =>
        rw [hretry] at hnext
        exact absurd (hle.trans hnext.ge) (not_le.mpr hearly)
      | some ended =>
        rw [hretry] at hnext
        exact absurd (hle.trans hnext.ge) (not_le.mpr (max_lt (hpaused ended hretry) hearly))
    · exact (htook.append _).not_migrated hsound hmigrated
  · rintro haway done ⟨rest, rfl⟩
    rcases legacy_kept hs done with hkept | hmigrated | haway'
    · exact .inl hkept.kept
    · exact .inr hmigrated
    · exact absurd (haway'.append rest) haway

/-- **The law of the finance quota**, after any sequence of calls: a journal with a reservation is
valid, and a failed call changes nothing; requests are a minute apart, and twelve hours unless the
first one was confirmed or made under the confirmed key; none falls into a vendor pause; and only a
migration of its own receipt shortens a legacy deadline, exactly unless the instant of the pause that took
the journal over is confirmed. -/
theorem finance_quota_law (s₀ : Quota) (h₀ : s₀ = Quota.default ∨ s₀.validate = .ok ())
    (calls : List QuotaCall) (s : Quota) (hs : s = after QuotaCall.apply s₀ calls) :
    (s.nextAllowedAt.isSome → s.validate = .ok ()) ∧
    (∀ (call : QuotaCall) error t, call.apply s = (.error error, t) → t = s) ∧
    (∀ now key t later now' key' u, (QuotaCall.reserve now key).apply s = (.ok true, t) →
      (∀ call, ¬ Succeeds QuotaCall.apply t later call true) →
      (QuotaCall.reserve now' key').apply (after QuotaCall.apply t later) = (.ok true, u) →
        now.1 + seconds 60 ≤ now'.1 ∧
        ((∀ key, ¬ Succeeds QuotaCall.apply t later (.confirm key now) false) →
          ¬ (key.isSome ∧ key = s.personalKeyFingerprint) → now.1 + hours 12 ≤ now'.1)) ∧
    (∀ now pause t later now' key u, (QuotaCall.postpone now pause).apply s = (.ok false, t) →
      (QuotaCall.reserve now' key).apply (after QuotaCall.apply t later) = (.ok true, u) →
        now.1 + seconds pause ≤ now'.1) ∧
    ∀ deadline later, s.version = 0 → s.nextAllowedAt = some deadline →
      (OnlyMigrated s deadline later ↔ ¬ ConfirmedAway s deadline later) := by
  have hsound : Sound s := by
    rw [hs]
    refine after_sound calls ?_
    rcases h₀ with rfl | hvalid
    · exact .inl rfl
    · exact .inr (validate_cases hvalid)
  refine ⟨fun hsome => ?_, fun call error t hcall => quota_atomic call s error t hcall,
    fun now key t later now' key' u h hlater h' => ⟨?_, fun hconfirm hkey => ?_⟩,
    fun now pause t later now' key u h h' => reserve_after_pause hsound h h',
    fun deadline later hversion hdeadline => ?_⟩
  · rcases hsound with rfl | ⟨next, hlegacy⟩ | ⟨next, last, hcurrent⟩
    · cases hsome
    · simp [Quota.validate, hlegacy.deadline, hlegacy.version, hlegacy.attempt, hlegacy.paused,
        hlegacy.key, hlegacy.receipt]
    · exact validate_of_current hcurrent
  · have hinterval := interval_le_reserved s key
    exact reserve_apart (now.1 + personal) hsound h hlater h' (by omega) fun _ _ => le_rfl
  · refine reserve_apart (now.1 + conservative) hsound h hlater h' ?_ fun key' hsucceeds =>
      absurd hsucceeds (hconfirm key')
    rw [Quota.reservedInterval, if_neg hkey]
  · rcases hsound with rfl | ⟨next, hlegacy⟩ | ⟨next, last, hcurrent⟩
    · cases hdeadline
    · obtain rfl : next = deadline := Option.some.inj (hlegacy.deadline.symm.trans hdeadline)
      exact onlyMigrated_iff hlegacy
    · rw [hcurrent.version] at hversion
      cases hversion

theorem QuotaMove.reserve_of_true {call : QuotaCall} (h : QuotaMove s call true t) :
    ∃ now key, call = .reserve now key := by
  cases h with
  | granted => exact ⟨_, _, rfl⟩

/-- The first instant of a run. -/
def epoch : Instant := ⟨0, by decide⟩

/-- The digest of a key. -/
def personalKey : String := "".pushn 'a' 64

/-- The key of the first request is confirmed, and the vendor asks for a pause of 100 seconds. -/
def pausedCalls : List QuotaCall := [.confirm personalKey epoch, .postpone ⟨seconds 10, by decide⟩ 100]

/-- A legacy journal with a deadline two days ahead. -/
def legacyQuota : Quota := { Quota.default with nextAllowedAt := some (hours 48) }

/-- A pause and a request at the deadline of the legacy journal, and the request is confirmed. -/
def legacyCalls : List QuotaCall :=
  [.postpone epoch 10, .reserve ⟨hours 48, by decide⟩ none, .confirm personalKey ⟨hours 48, by decide⟩]

/-- The second request under the confirmed key waits for the end of the pause, and a legacy deadline stays
when a request after it is confirmed. -/
theorem finance_quota_law_paused :
    (after QuotaCall.apply Quota.default (.reserve epoch (some personalKey) :: pausedCalls ++
      [.reserve ⟨seconds 110, by decide⟩ (some personalKey)])).validate = .ok () ∧
    seconds 0 + seconds 60 ≤ seconds 110 ∧ seconds 10 + seconds 100 ≤ seconds 110 ∧
    OnlyMigrated legacyQuota (hours 48) legacyCalls := by
  have hfirst : ((QuotaCall.reserve epoch (some personalKey)).apply Quota.default).1 = .ok true := by decide
  have hsecond : ((QuotaCall.reserve ⟨seconds 110, by decide⟩ (some personalKey)).apply (after QuotaCall.apply
      ((QuotaCall.reserve epoch (some personalKey)).apply Quota.default).2 pausedCalls)).1 = .ok true := by decide
  have hpause : ((QuotaCall.postpone ⟨seconds 10, by decide⟩ 100).apply (after QuotaCall.apply Quota.default
      [.reserve epoch (some personalKey), .confirm personalKey epoch])).1 = .ok false := by decide
  have hquiet : ∀ call, ¬ Succeeds QuotaCall.apply
      ((QuotaCall.reserve epoch (some personalKey)).apply Quota.default).2 pausedCalls call true := by
    rintro call ⟨before, rest, hcalls, hok⟩
    obtain ⟨now, key, rfl⟩ := (move_of_ok (Prod.ext hok rfl)).reserve_of_true
    have hmem : QuotaCall.reserve now key ∈ pausedCalls := by simp [hcalls]
    simp [pausedCalls] at hmem
  refine ⟨?_, ?_, ?_, ?_⟩
  · exact (finance_quota_law Quota.default (.inl rfl) _ _ rfl).1 (by decide)
  · exact ((finance_quota_law Quota.default (.inl rfl) [] _ rfl).2.2.1 epoch (some personalKey) _ pausedCalls
      ⟨seconds 110, by decide⟩ (some personalKey) _ (Prod.ext hfirst rfl) hquiet (Prod.ext hsecond rfl)).1
  · exact (finance_quota_law Quota.default (.inl rfl) [.reserve epoch (some personalKey),
      .confirm personalKey epoch] _ rfl).2.2.2.1 ⟨seconds 10, by decide⟩ 100 _ [] ⟨seconds 110, by decide⟩
      (some personalKey) _ (Prod.ext hpause rfl) (Prod.ext hsecond rfl)
  · refine ((finance_quota_law legacyQuota (.inr (by decide)) [] _ rfl).2.2.2.2 (hours 48) legacyCalls rfl
      rfl).mpr ?_
    rintro ⟨before, key, now, rest, hcalls, -, -, hearly, -⟩
    -- the confirmed request was made at the deadline
    have hmem : QuotaCall.confirm key now ∈ legacyCalls := by simp [hcalls]
    obtain ⟨-, rfl⟩ : key = personalKey ∧ now = ⟨hours 48, by decide⟩ := by simpa [legacyCalls] using hmem
    exact absurd hearly (by decide)

/-- No migration, but the deadline is gone: the pause of a legacy journal counts as its attempt, and
an attempt can be confirmed. -/
theorem legacy_deadline_confirmed_away : legacyQuota.validate = .ok () ∧ legacyQuota.version = 0 ∧
    legacyQuota.nextAllowedAt = some (hours 48) ∧
    (after QuotaCall.apply legacyQuota [.postpone epoch 10, .confirm personalKey epoch]).nextAllowedAt =
      some (seconds 60) ∧
    ¬ OnlyMigrated legacyQuota (hours 48) [.postpone epoch 10, .confirm personalKey epoch] := by
  have haway : (after QuotaCall.apply legacyQuota
      [.postpone epoch 10, .confirm personalKey epoch]).nextAllowedAt = some (seconds 60) := by decide
  refine ⟨by decide, rfl, rfl, haway, fun honly => ?_⟩
  rcases honly _ List.prefix_rfl with ⟨next, hnext, hle⟩ |
    ⟨receipt, actor, key, seller, now, receiptHash, ⟨before, rest, hcalls, -⟩, -⟩
  · rw [haway] at hnext
    cases hnext
    exact absurd hle (by decide)
  · have hmem : QuotaCall.migrate receipt actor key seller now receiptHash ∈
        [QuotaCall.postpone epoch 10, .confirm personalKey epoch] := by simp [hcalls]
    simp at hmem

end Calls

end AdsControl.Finance
