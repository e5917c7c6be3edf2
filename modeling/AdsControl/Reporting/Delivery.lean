import AdsControl.Calendar
import AdsControl.Text
import AdsControl.Lib.Machine
import AdsControl.Lib.Method

/-!
# Report deliveries

The schedule of the daily reports and the record of one delivery. A record changes by six methods;
a morning report that is recovered in the evening takes over the evening deadline.

* `dueDeliveries`: the deliveries of an instant;
* `DeliveryRecord`, `Call`: a delivery and the calls on it;
* `RecordInv`: what every reachable record satisfies;
* **`delivery_life_cycle`**: the whole life of a delivery.
-/

namespace AdsControl.Reporting

open Fallible Receiver

/-! ## Schedule -/

/-- The two reports of a day. -/
inductive ReportKind
  | morning
  | evening
  deriving DecidableEq

/-- One report to one recipient. -/
structure ReportKey where
  localDate : ℤ
  kind : ReportKind
  recipientId : String
  reportVersion : ℕ
  deriving DecidableEq

/-- A report that may be delivered now. -/
structure PendingDelivery where
  coveredKeys : List ReportKey
  scheduledFor : ℤ
  delayed : Bool
  deriving DecidableEq

/-- Why a report cannot be scheduled. -/
inductive ReportScheduleError
  | invalidReportVersion
  | invalidRecipientId
  | outOfRange
  deriving DecidableEq

/-- The hour of the morning report. -/
def morningHour : ℤ := 8

/-- The last hour of the morning report. -/
def morningDeadlineHour : ℤ := 14

/-- The hour of the evening report. -/
def eveningHour : ℤ := 17

/-- The last hour of the evening report. -/
def eveningDeadlineHour : ℤ := 23

/-- A version, and a recipient whose id has the allowed characters. -/
def validateReportIdentity (recipientId : String) (reportVersion : ℕ) :
    Except ReportScheduleError Unit := do
  ensure (reportVersion ≠ 0) .invalidReportVersion
  ensure (asciiWord ['_', '-'] recipientId) .invalidRecipientId

/-- The instant of an hour on a local date. -/
def localHour (date hour : ℤ) : ℤ := seconds (date * 86400 + hour * 3600 - yekaterinburg)

/-- An hour of a local date within the calendar. -/
def reportTime (date hour : ℤ) : Except ReportScheduleError ℤ :=
  context (inCalendar (localHour date hour)) .outOfRange

/-- The local date of an instant. -/
def businessDate (now : ℤ) : ℤ := dateIn yekaterinburg now

/-- The deliveries after 17:00: a missed morning report is queued beside the evening report. -/
def eveningDeliveries (now evening : ℤ) (morningKey eveningKey : ReportKey)
    (sent : List ReportKey) : List PendingDelivery :=
  (if morningKey ∈ sent then [] else [⟨[morningKey], evening, true⟩]) ++
    if eveningKey ∈ sent then [] else [⟨[eveningKey], evening, decide (evening < now)⟩]

/-- The reports due now that were not sent; the evening delivery covers a missed morning. -/
def dueDeliveries (now : ℤ) (recipientId : String) (reportVersion : ℕ) (sent : List ReportKey) :
    Except ReportScheduleError (List PendingDelivery) := do
  validateReportIdentity recipientId reportVersion
  let date := businessDate now
  let morning ← reportTime date morningHour
  let morningDeadline ← reportTime date morningDeadlineHour
  let evening ← reportTime date eveningHour
  let eveningDeadline ← reportTime date eveningDeadlineHour
  let morningKey : ReportKey := ⟨date, .morning, recipientId, reportVersion⟩
  let eveningKey : ReportKey := ⟨date, .evening, recipientId, reportVersion⟩
  if evening ≤ now ∧ now ≤ eveningDeadline then
    return eveningDeliveries now evening morningKey eveningKey sent
  else if morning ≤ now ∧ now ≤ morningDeadline ∧ morningKey ∉ sent then
    return [⟨[morningKey], morning, decide (morning < now)⟩]
  else return []

/-- The last instant of a report. -/
def deliveryDeadline (key : ReportKey) : Except ReportScheduleError ℤ := do
  validateReportIdentity key.recipientId key.reportVersion
  reportTime key.localDate (match key.kind with
    | .morning => morningDeadlineHour
    | .evening => eveningDeadlineHour)

/-! ## Records -/

/-- Where a delivery stands. -/
inductive DeliveryStatus
  | planned
  | generating
  | ready
  | sending
  | sent
  | expired
  | permanentFailure
  deriving DecidableEq

/-- Nothing follows. -/
def DeliveryStatus.isTerminal : DeliveryStatus → Bool
  | sent | expired | permanentFailure => true
  | _ => false

/-- The kinds of errors. -/
inductive DeliveryErrorClass
  | authentication
  | invalidRecipient
  | invalidArtifact
  | invalidRouting
  | providerRejected
  | rateLimited
  | providerUnavailable
  | transport
  deriving DecidableEq

/-- Errors that may pass. -/
def DeliveryErrorClass.isTransient : DeliveryErrorClass → Bool
  | rateLimited | providerUnavailable | transport => true
  | _ => false

/-- A stored report with its digests. -/
structure ArtifactIdentity where
  objectKey : String
  sha256 : String
  htmlSha256 : String
  deriving DecidableEq

/-- A delivery with its attempts. -/
structure DeliveryRecord where
  coveredKeys : List ReportKey
  scheduledFor : ℤ
  status : DeliveryStatus
  delayed : Bool
  attempts : ℕ
  artifact : Option ArtifactIdentity
  nextAttemptAt : Option ℤ
  providerMessageId : Option String
  lastError : Option DeliveryErrorClass
  deriving DecidableEq

/-- Why a delivery refuses a call. -/
inductive OutboxError
  | invalidTransition
  | deadlineExceeded
  | invalidArtifact
  | invalidProviderMessageId
  | invalidRetryTime
  | invalidSchedule
  deriving DecidableEq

/-- The most attempts of a delivery. -/
def maxDeliveryAttempts : ℕ := 5

/-- The latest deadline of the covered keys. -/
def deadline (keys : List ReportKey) : Except OutboxError ℤ := do
  let maximum ← keys.foldlM (fun maximum key => do
    let candidate ← (deliveryDeadline key).mapError fun _ => .invalidSchedule
    return some (maximum.elim candidate (max · candidate))) none
  context maximum .invalidSchedule

/-- A single morning report may also be scheduled with the evening report. -/
def recoveredMorningSchedule (keys : List ReportKey) : Except OutboxError (Option ℤ) :=
  match keys with
  | [key] =>
    if key.kind = .morning then do
      let evening ← (deliveryDeadline { key with kind := .evening }).mapError fun _ =>
        .invalidSchedule
      return some (evening - hours 6)
    else return none
  | _ => return none

/-- A delivery as it is planned. -/
def PendingDelivery.newRecord (delivery : PendingDelivery) : DeliveryRecord where
  coveredKeys := delivery.coveredKeys
  scheduledFor := delivery.scheduledFor
  status := .planned
  delayed := delivery.delayed
  attempts := 0
  artifact := none
  nextAttemptAt := none
  providerMessageId := none
  lastError := none

/-- A new delivery of one report, or of both. -/
def DeliveryRecord.planned (delivery : PendingDelivery) : Except OutboxError DeliveryRecord := do
  ensure (delivery.coveredKeys ≠ [] ∧ delivery.coveredKeys.length ≤ 2) .invalidSchedule
  let first ← context delivery.coveredKeys.head? .invalidSchedule
  ensure (∀ key ∈ delivery.coveredKeys, key.recipientId = first.recipientId ∧
    key.reportVersion = first.reportVersion ∧ key.localDate = first.localDate) .invalidSchedule
  ensure delivery.coveredKeys.Nodup .invalidSchedule
  let latest ← deadline delivery.coveredKeys
  let recovered ← recoveredMorningSchedule delivery.coveredKeys
  ensure (delivery.scheduledFor = latest - hours 6 ∨ some delivery.scheduledFor = recovered)
    .invalidSchedule
  return delivery.newRecord

/-! ## Artifacts -/

/-- Whether a text is a calendar date of the form year, month, day. -/
abbrev DateParser : Type := String → Bool

/-- The size of a text in UTF-8. -/
def utf8Len (text : List Char) : ℕ := (text.map Char.utf8Size).sum

/-- A lowercase hexadecimal digit. -/
def lowerHex (c : Char) : Bool := c.isDigit || ('a' ≤ c && c ≤ 'f')

/-- A digest in lower-case hexadecimal. -/
def isSha256 (value : String) : Bool :=
  decide (value.utf8ByteSize = 64) && value.toList.all lowerHex

/-- A decimal number of 32 bits; a leading plus is accepted. -/
def parseU32 (text : List Char) : Option ℕ :=
  let digits := if text.head? = some '+' then text.tail else text
  if digits ≠ [] ∧ digits.all Char.isDigit then
    Machine.tryFrom 32 (digits.foldl (fun n c => 10 * n + (c.toNat - '0'.toNat)) 0)
  else none

/-- The version segment of an object key: `v` and a positive number. -/
def validVersion : List Char → Bool
  | 'v' :: digits => (parseU32 digits).any (0 < ·)
  | _ => false

/-- The path of a report: its date, recipient, version and file. -/
def validArtifactKey (parse : DateParser) (value : String) : Bool :=
  decide (value.utf8ByteSize ≤ 512) && match value.toList.splitOn '/' with
    | [root, year, month, day, recipient, version, file] =>
      decide (root = "daily-reports".toList) && decide (utf8Len year = 4) &&
        decide (utf8Len month = 2) && decide (utf8Len day = 2) &&
        parse (String.ofList (year ++ '-' :: month ++ '-' :: day)) &&
        asciiWord ['_', '-'] (String.ofList recipient) && validVersion version &&
        decide (file = "morning.xlsx".toList ∨ file = "evening.xlsx".toList)
    | _ => false

/-- A path of a report, and two digests. -/
def validateArtifact (parse : DateParser) (artifact : ArtifactIdentity) : Except OutboxError Unit :=
  ensure (validArtifactKey parse artifact.objectKey ∧ isSha256 artifact.sha256 ∧
    isSha256 artifact.htmlSha256) .invalidArtifact

/-- The characters of a message id. -/
def validateProviderMessageId (value : String) : Except OutboxError Unit :=
  ensure (value ≠ "" ∧ value.utf8ByteSize ≤ 512 ∧
    value.toList.all fun c => c.isAlphanum || ['_', '-', '.', ':', '@'].contains c)
    .invalidProviderMessageId

/-! ## Methods -/

namespace DeliveryRecord

/-- Six hours after the schedule. -/
def deadlineAt (self : DeliveryRecord) : Except OutboxError ℤ :=
  context (checkedAddSigned self.scheduledFor (hours 6)) .invalidSchedule

/-- A method of a record. -/
abbrev RecordMethod : Type := Method DeliveryRecord OutboxError Unit

/-- The deadline has not passed. -/
def requireBeforeDeadline (now : ℤ) : RecordMethod :=
  query fun self => do
    let deadline ← self.deadlineAt
    ensure (now ≤ deadline) .deadlineExceeded

/-- Start to generate the artifact. -/
def startGeneration (now : ℤ) : RecordMethod := do
  requireBeforeDeadline now
  query fun self => ensure (self.status = .planned) .invalidTransition
  modify fun self => { self with status := .generating }

/-- The artifact is there. -/
def markReady (parse : DateParser) (now : ℤ) (artifact : ArtifactIdentity) : RecordMethod := do
  requireBeforeDeadline now
  query fun self => ensure (self.status = .generating) .invalidTransition
  query fun _ => validateArtifact parse artifact
  modify fun self => { self with artifact := some artifact }
  modify fun self => { self with status := .ready }

/-- Claim a delivery that is ready and due; an attempt begins. -/
def claimSend (now : ℤ) : RecordMethod := do
  requireBeforeDeadline now
  query fun self => ensure (self.status = .ready ∧ self.nextAttemptAt.all (· ≤ now))
    .invalidTransition
  modify fun self => { self with attempts := (self.attempts + 1) % 2 ^ 8 }
  modify fun self => { self with nextAttemptAt := none }
  modify fun self => { self with status := .sending }

/-- The provider accepted the mail. -/
def recordSent (providerMessageId : String) : RecordMethod := do
  query fun self => ensure (self.status = .sending) .invalidTransition
  query fun _ => validateProviderMessageId providerMessageId
  modify fun self => { self with providerMessageId := some providerMessageId }
  modify fun self => { self with lastError := none }
  modify fun self => { self with status := .sent }

/-- Retry a transient failure before the deadline. -/
def retryLater (now : ℤ) (errorClass : DeliveryErrorClass) (retryAt : Option ℤ) : RecordMethod := do
  let retryAt ← query fun self => do
    let retryAt ← context retryAt .invalidRetryTime
    let deadline ← self.deadlineAt
    ensure (now < retryAt ∧ retryAt ≤ deadline) .invalidRetryTime
    return retryAt
  modify fun self => { self with lastError := some errorClass }
  modify fun self => { self with nextAttemptAt := some retryAt }
  modify fun self => { self with status := .ready }

/-- Give up. -/
def failPermanently (errorClass : DeliveryErrorClass) : RecordMethod := do
  modify fun self => { self with lastError := some errorClass }
  modify fun self => { self with status := .permanentFailure }

/-- An attempt failed: retry later, or give up. -/
def recordFailure (now : ℤ) (errorClass : DeliveryErrorClass) (retryAt : Option ℤ) :
    RecordMethod := do
  query fun self => ensure (self.status = .sending) .invalidTransition
  let final ← query fun self =>
    .ok (decide (¬ errorClass.isTransient ∨ maxDeliveryAttempts ≤ self.attempts))
  if final then failPermanently errorClass else retryLater now errorClass retryAt

/-- The deadline passed first. -/
def expire (now : ℤ) : RecordMethod := do
  query fun self => ensure (¬ self.status.isTerminal) .invalidTransition
  query fun self => do
    let deadline ← self.deadlineAt
    ensure (deadline < now) .deadlineExceeded
  modify fun self => { self with status := .expired }
  modify fun self => { self with nextAttemptAt := none }

end DeliveryRecord

/-! ## Calls -/

/-- The calls on a record, with their times and arguments. -/
inductive Call
  | startGeneration (now : ℤ)
  | markReady (now : ℤ) (artifact : ArtifactIdentity)
  | claimSend (now : ℤ)
  | recordSent (providerMessageId : String)
  | recordFailure (now : ℤ) (errorClass : DeliveryErrorClass) (retryAt : Option ℤ)
  | expire (now : ℤ)

section Calls

variable {parse : DateParser} {s t : DeliveryRecord} {u : Unit}

open DeliveryRecord

/-- What each call does. -/
def Call.apply (parse : DateParser) : Call → RecordMethod
  | startGeneration now => DeliveryRecord.startGeneration now
  | markReady now artifact => DeliveryRecord.markReady parse now artifact
  | claimSend now => DeliveryRecord.claimSend now
  | recordSent providerMessageId => DeliveryRecord.recordSent providerMessageId
  | recordFailure now errorClass retryAt => DeliveryRecord.recordFailure now errorClass retryAt
  | expire now => DeliveryRecord.expire now

/-- The record after a sequence of calls, whatever they answer. -/
def runCalls (parse : DateParser) (record : DeliveryRecord) (calls : List Call) : DeliveryRecord :=
  after (Call.apply parse) record calls

/-- What a successful call does. -/
inductive Moves (s : DeliveryRecord) : DeliveryRecord → Prop
  | generate (h : s.status = .planned) : Moves s { s with status := .generating }
  | ready (artifact : ArtifactIdentity) (h : s.status = .generating) :
      Moves s { s with artifact := some artifact, status := .ready }
  | claim (h : s.status = .ready) : Moves s
      { s with attempts := (s.attempts + 1) % 2 ^ 8, nextAttemptAt := none, status := .sending }
  | sent (providerMessageId : String) (h : s.status = .sending) : Moves s
      { s with providerMessageId := some providerMessageId, lastError := none, status := .sent }
  | fail (errorClass : DeliveryErrorClass) (h : s.status = .sending) :
      Moves s { s with lastError := some errorClass, status := .permanentFailure }
  | retry (errorClass : DeliveryErrorClass) (retryAt : ℤ) (h : s.status = .sending)
      (hattempts : s.attempts < maxDeliveryAttempts) : Moves s
      { s with lastError := some errorClass, nextAttemptAt := some retryAt, status := .ready }
  | expire (h : ¬ s.status.isTerminal) :
      Moves s { s with status := .expired, nextAttemptAt := none }

theorem claimSend_ok {now : ℤ} (h : DeliveryRecord.claimSend now s = (.ok u, t)) :
    (∃ deadline, s.deadlineAt = .ok deadline ∧ now ≤ deadline) ∧ s.status = .ready ∧
      (∀ retry ∈ s.nextAttemptAt, retry ≤ now) ∧ t =
        { s with attempts := (s.attempts + 1) % 2 ^ 8, nextAttemptAt := none, status := .sending } := by
  simp only [DeliveryRecord.claimSend, requireBeforeDeadline, call_bind, call_query, call_modify,
    ok_of_bind, ensure_eq_ok] at h
  obtain ⟨-, _, ⟨⟨deadline, hdeadline, hnow⟩, rfl⟩, -, _, ⟨⟨hstatus, hretry⟩, rfl⟩, -, _, rfl, -, _,
    rfl, rfl⟩ := h
  refine ⟨⟨deadline, hdeadline, hnow⟩, hstatus, fun retry hmem => ?_, rfl⟩
  rw [Option.mem_def.mp hmem] at hretry
  simpa using hretry

theorem recordFailure_ok {now : ℤ} {errorClass : DeliveryErrorClass} {retryAt : Option ℤ}
    (h : DeliveryRecord.recordFailure now errorClass retryAt s = (.ok u, t)) : Moves s t := by
  simp only [DeliveryRecord.recordFailure, call_bind, call_query, ensure_eq_ok] at h
  obtain ⟨-, _, ⟨hstatus, rfl⟩, final, _, ⟨hfinal, rfl⟩, h⟩ := h
  cases hfinal
  split at h
  · simp only [failPermanently, call_bind, call_modify] at h
    obtain ⟨-, _, rfl, rfl⟩ := h
    exact .fail errorClass hstatus
  · rename_i hretry
    simp only [retryLater, call_bind, call_query, call_modify] at h
    obtain ⟨retryAt', _, ⟨-, rfl⟩, -, _, rfl, -, _, rfl, rfl⟩ := h
    refine .retry errorClass retryAt' hstatus ?_
    simp only [decide_eq_true_eq, not_or, not_le] at hretry
    exact hretry.2

/-- **A successful call makes one move.** -/
theorem moves_of_ok {call : Call} (h : call.apply parse s = (.ok u, t)) : Moves s t := by
  cases call with
  | startGeneration now =>
    simp only [Call.apply, DeliveryRecord.startGeneration, requireBeforeDeadline, call_bind,
      call_query, call_modify, ensure_eq_ok] at h
    obtain ⟨-, _, ⟨-, rfl⟩, -, _, ⟨hstatus, rfl⟩, rfl⟩ := h
    exact .generate hstatus
  | markReady now artifact =>
    simp only [Call.apply, DeliveryRecord.markReady, requireBeforeDeadline, call_bind, call_query,
      call_modify, ensure_eq_ok] at h
    obtain ⟨-, _, ⟨-, rfl⟩, -, _, ⟨hstatus, rfl⟩, -, _, ⟨-, rfl⟩, -, _, rfl, rfl⟩ := h
    exact .ready artifact hstatus
  | claimSend now =>
    obtain ⟨-, hstatus, -, rfl⟩ := claimSend_ok h
    exact .claim hstatus
  | recordSent providerMessageId =>
    simp only [Call.apply, DeliveryRecord.recordSent, call_bind, call_query, call_modify,
      ensure_eq_ok] at h
    obtain ⟨-, _, ⟨hstatus, rfl⟩, -, _, ⟨-, rfl⟩, -, _, rfl, -, _, rfl, rfl⟩ := h
    exact .sent providerMessageId hstatus
  | recordFailure now errorClass retryAt => exact recordFailure_ok h
  | expire now =>
    simp only [Call.apply, DeliveryRecord.expire, call_bind, call_query, call_modify,
      ensure_eq_ok] at h
    obtain ⟨-, _, ⟨hstatus, rfl⟩, -, _, ⟨-, rfl⟩, -, _, rfl, rfl⟩ := h
    exact .expire hstatus

/-- **Every method checks before it writes.** -/
theorem apply_atomic (call : Call) : Atomic (call.apply parse) := by
  have hwrite : ∀ f, Total (modify f : RecordMethod) := total_modify
  cases call with
  | startGeneration now =>
    exact .bind (readOnly_query _) fun _ => .bind (readOnly_query _) fun _ => (hwrite _).atomic
  | markReady now artifact =>
    exact .bind (readOnly_query _) fun _ => .bind (readOnly_query _) fun _ =>
      .bind (readOnly_query _) fun _ => (hwrite _).modify_bind.atomic
  | claimSend now =>
    exact .bind (readOnly_query _) fun _ => .bind (readOnly_query _) fun _ =>
      (hwrite _).modify_bind.modify_bind.atomic
  | recordSent providerMessageId =>
    exact .bind (readOnly_query _) fun _ => .bind (readOnly_query _) fun _ =>
      (hwrite _).modify_bind.modify_bind.atomic
  | recordFailure now errorClass retryAt =>
    refine .bind (readOnly_query _) fun _ => .bind (readOnly_query _) fun final => ?_
    split
    · exact (hwrite _).modify_bind.atomic
    · exact .bind (readOnly_query _) fun _ => (hwrite _).modify_bind.modify_bind.atomic
  | expire now =>
    exact .bind (readOnly_query _) fun _ => .bind (readOnly_query _) fun _ =>
      (hwrite _).modify_bind.atomic

theorem apply_cases (parse : DateParser) (s : DeliveryRecord) (call : Call) :
    (∃ u, (call.apply parse s).1 = .ok u ∧ Moves s (call.apply parse s).2) ∨
      (call.apply parse s).2 = s := by
  rcases h : call.apply parse s with ⟨e | u, t⟩
  · exact .inr (apply_atomic call s e t h)
  · exact .inl ⟨u, rfl, moves_of_ok h⟩

/-! ## The invariant -/

/-- Whether a record has been ready. -/
def DeliveryStatus.wasReady : DeliveryStatus → Bool
  | ready | sending | sent | permanentFailure => true
  | _ => false

/-- What holds of every record of a delivery. -/
structure RecordInv (delivery : PendingDelivery) (s : DeliveryRecord) : Prop where
  keys : s.coveredKeys = delivery.coveredKeys
  schedule : s.scheduledFor = delivery.scheduledFor
  attempts : s.attempts ≤ maxDeliveryAttempts
  unclaimed : s.status = .planned ∨ s.status = .generating → s.attempts = 0
  claimable : s.status = .ready → s.attempts < maxDeliveryAttempts
  artifact : s.status.wasReady → s.artifact.isSome
  message : s.providerMessageId.isSome ↔ s.status = .sent

variable {delivery : PendingDelivery}

theorem Moves.inv (h : Moves s t) (hs : RecordInv delivery s) : RecordInv delivery t := by
  have hmessage : s.status ≠ .sent → ¬ s.providerMessageId.isSome := fun hne hsome =>
    hne (hs.message.mp hsome)
  cases h with
  | generate h =>
    have hzero := hs.unclaimed (.inl h)
    refine ⟨hs.keys, hs.schedule, hs.attempts, fun _ => hzero, fun hready => (nomatch hready),
      fun hready => (nomatch hready), ?_⟩
    simpa using hmessage (by simp [h])
  | ready artifact h =>
    have hzero := hs.unclaimed (.inr h)
    refine ⟨hs.keys, hs.schedule, hs.attempts, fun hpre => by simp at hpre, fun _ => ?_, fun _ => rfl,
      ?_⟩
    · show s.attempts < maxDeliveryAttempts
      rw [hzero]
      decide
    · simpa using hmessage (by simp [h])
  | claim h =>
    have hlt := hs.claimable h
    have hsmall : (s.attempts + 1) % 2 ^ 8 = s.attempts + 1 := by
      simp only [maxDeliveryAttempts] at hlt
      omega
    refine ⟨hs.keys, hs.schedule, ?_, fun hpre => by simp at hpre, fun hready => (nomatch hready),
      fun _ => hs.artifact (by rw [h]; rfl), ?_⟩
    · show (s.attempts + 1) % 2 ^ 8 ≤ maxDeliveryAttempts
      omega
    · simpa using hmessage (by simp [h])
  | sent providerMessageId h =>
    exact ⟨hs.keys, hs.schedule, hs.attempts, fun hpre => by simp at hpre,
      fun hready => (nomatch hready), fun _ => hs.artifact (by rw [h]; rfl), by simp⟩
  | fail errorClass h =>
    refine ⟨hs.keys, hs.schedule, hs.attempts, fun hpre => by simp at hpre,
      fun hready => (nomatch hready), fun _ => hs.artifact (by rw [h]; rfl), ?_⟩
    simpa using hmessage (by simp [h])
  | retry errorClass retryAt h hattempts =>
    refine ⟨hs.keys, hs.schedule, hs.attempts, fun hpre => by simp at hpre, fun _ => hattempts,
      fun _ => hs.artifact (by rw [h]; rfl), ?_⟩
    simpa using hmessage (by simp [h])
  | expire h =>
    refine ⟨hs.keys, hs.schedule, hs.attempts, fun hpre => by simp at hpre,
      fun hready => (nomatch hready), fun hready => (nomatch hready), ?_⟩
    refine (iff_of_false (hmessage fun hsent => ?_) (by simp))
    rw [hsent] at h
    exact h rfl

theorem runCalls_inv (parse : DateParser) (calls : List Call) (hs : RecordInv delivery s) :
    RecordInv delivery (runCalls parse s calls) :=
  after_invariant (fun _ _ => False) apply_atomic
    (fun _ _ _ _ hs hcall _ => (moves_of_ok hcall).inv hs) hs calls fun _ _ _ h => h

/-- A terminal record refuses every call. -/
theorem apply_terminal (call : Call) (h : s.status.isTerminal) : (call.apply parse s).2 = s := by
  rcases apply_cases parse s call with ⟨-, -, hmoves⟩ | hsame
  · generalize (call.apply parse s).2 = t at hmoves
    cases hmoves <;> simp_all [DeliveryStatus.isTerminal]
  · exact hsame

theorem runCalls_terminal (calls : List Call) (h : s.status.isTerminal) :
    runCalls parse s calls = s := by
  induction calls with
  | nil => rfl
  | cons call calls ih =>
    show runCalls parse (call.apply parse s).2 calls = s
    rw [apply_terminal call h]
    exact ih

/-- Only the generation writes the artifact. -/
theorem apply_artifact (parse : DateParser) (call : Call) (h : s.status.wasReady ∨ s.status = .expired) :
    (call.apply parse s).2.artifact = s.artifact ∧
      ((call.apply parse s).2.status.wasReady ∨ (call.apply parse s).2.status = .expired) := by
  rcases apply_cases parse s call with ⟨-, -, hmoves⟩ | hsame
  · generalize (call.apply parse s).2 = t at hmoves
    cases hmoves <;> simp_all [DeliveryStatus.wasReady]
  · rw [hsame]
    exact ⟨rfl, h⟩

theorem runCalls_artifact (calls : List Call) (h : s.status.wasReady ∨ s.status = .expired) :
    (runCalls parse s calls).artifact = s.artifact := by
  induction calls generalizing s with
  | nil => rfl
  | cons call calls ih =>
    obtain ⟨hartifact, hready⟩ := apply_artifact parse call h
    exact (ih hready).trans hartifact

/-! ## Due deliveries -/

/-- The hour by which a delivery is sent: a punctual morning report at 14:00, an evening report and a
recovered morning report at 23:00. -/
def deadlineHour (key : ReportKey) (scheduledFor : ℤ) : ℤ :=
  if key.kind = .morning ∧ scheduledFor = localHour key.localDate morningHour then morningDeadlineHour
  else eveningDeadlineHour

theorem reportTime_ok {date hour instant : ℤ} (h : reportTime date hour = .ok instant) :
    instant = localHour date hour ∧ inCalendar (localHour date hour) = some (localHour date hour) := by
  rw [reportTime, context_eq_ok, inCalendar_eq_some] at h
  exact ⟨h.1, inCalendar_eq_some.mpr ⟨rfl, h.2⟩⟩

theorem localHour_sub (date hour : ℤ) : localHour date (hour + 6) - hours 6 = localHour date hour := by
  simp only [localHour, hours, seconds]
  omega

/-- What a due delivery looks like. -/
structure Due (delivery : PendingDelivery) (key : ReportKey) : Prop where
  keys : delivery.coveredKeys = [key]
  identity : validateReportIdentity key.recipientId key.reportVersion = .ok ()
  calendar : ∀ hour ∈ [morningDeadlineHour, eveningDeadlineHour],
    inCalendar (localHour key.localDate hour) = some (localHour key.localDate hour)
  schedule : delivery.scheduledFor = localHour key.localDate eveningHour ∨
    key.kind = .morning ∧ delivery.scheduledFor = localHour key.localDate morningHour

theorem due_of_mem {now : ℤ} {recipientId : String} {reportVersion : ℕ} {sent : List ReportKey}
    {deliveries : List PendingDelivery}
    (h : dueDeliveries now recipientId reportVersion sent = .ok deliveries)
    (hmem : delivery ∈ deliveries) : ∃ key, Due delivery key := by
  simp only [dueDeliveries, ok_of_bind] at h
  obtain ⟨_, hidentity, morning, hmorning, morningDeadline, hmorningDeadline, evening, hevening,
    eveningDeadline, heveningDeadline, h⟩ := h
  have hcalendar : ∀ hour ∈ [morningDeadlineHour, eveningDeadlineHour],
      inCalendar (localHour (businessDate now) hour) = some (localHour (businessDate now) hour) := by
    intro hour hhour
    rcases List.mem_cons.mp hhour with rfl | hhour
    · exact (reportTime_ok hmorningDeadline).2
    · rw [List.mem_singleton.mp hhour]
      exact (reportTime_ok heveningDeadline).2
  have hmorning' := (reportTime_ok hmorning).1
  have hevening' := (reportTime_ok hevening).1
  split at h
  · rw [ok_of_pure] at h
    subst h
    rw [eveningDeliveries, List.mem_append] at hmem
    rcases hmem with hmem | hmem
    · split at hmem
      · cases hmem
      · rw [List.mem_singleton.mp hmem]
        exact ⟨⟨businessDate now, .morning, recipientId, reportVersion⟩, rfl, hidentity, hcalendar,
          .inl hevening'⟩
    · split at hmem
      · cases hmem
      · rw [List.mem_singleton.mp hmem]
        exact ⟨⟨businessDate now, .evening, recipientId, reportVersion⟩, rfl, hidentity, hcalendar,
          .inl hevening'⟩
  · split at h
    · rw [ok_of_pure] at h
      subst h
      rw [List.mem_singleton.mp hmem]
      exact ⟨⟨businessDate now, .morning, recipientId, reportVersion⟩, rfl, hidentity, hcalendar,
        .inr ⟨rfl, hmorning'⟩⟩
    · rw [ok_of_pure] at h
      subst h
      cases hmem

theorem deliveryDeadline_ok {key : ReportKey} (kind : ReportKind)
    (hidentity : validateReportIdentity key.recipientId key.reportVersion = .ok ())
    (hcalendar : ∀ hour ∈ [morningDeadlineHour, eveningDeadlineHour],
      inCalendar (localHour key.localDate hour) = some (localHour key.localDate hour)) :
    deliveryDeadline { key with kind := kind } = .ok (localHour key.localDate
      (if kind = .morning then morningDeadlineHour else eveningDeadlineHour)) := by
  simp only [deliveryDeadline, ok_of_bind]
  refine ⟨(), hidentity, ?_⟩
  cases kind with
  | morning => rw [reportTime, hcalendar morningDeadlineHour (by simp)]; rfl
  | evening => rw [reportTime, hcalendar eveningDeadlineHour (by simp)]; rfl

/-- **A due delivery is accepted.** -/
theorem Due.planned_ok {key : ReportKey} (h : Due delivery key) :
    ∃ record, DeliveryRecord.planned delivery = .ok record ∧ RecordInv delivery record := by
  have hdeadline : deadline [key] = .ok (localHour key.localDate
      (if key.kind = .morning then morningDeadlineHour else eveningDeadlineHour)) := by
    have := deliveryDeadline_ok key.kind h.identity h.calendar
    simp only [deadline, List.foldlM_cons, List.foldlM_nil, ok_of_bind, ok_of_mapError, ok_of_pure,
      context_eq_ok]
    exact ⟨_, ⟨_, ⟨_, this, rfl⟩, rfl⟩, rfl⟩
  have hrecovered : recoveredMorningSchedule [key] =
      .ok (if key.kind = .morning then some (localHour key.localDate eveningHour) else none) := by
    by_cases hkind : key.kind = .morning
    · have := deliveryDeadline_ok .evening h.identity h.calendar
      rw [if_neg (by simp)] at this
      simp only [recoveredMorningSchedule, if_pos hkind, ok_of_bind, ok_of_mapError, ok_of_pure]
      refine ⟨_, this, ?_⟩
      rw [← localHour_sub key.localDate eveningHour]
      rfl
    · simp [recoveredMorningSchedule, hkind]
  have hschedule : delivery.scheduledFor = localHour key.localDate
        (if key.kind = .morning then morningDeadlineHour else eveningDeadlineHour) - hours 6 ∨
      some delivery.scheduledFor =
        if key.kind = .morning then some (localHour key.localDate eveningHour) else none := by
    rcases h.schedule with hevening | ⟨hkind, hmorning⟩
    · by_cases hkind : key.kind = .morning
      · exact .inr (by rw [if_pos hkind, hevening])
      · refine .inl ?_
        rw [if_neg hkind, hevening, ← localHour_sub key.localDate eveningHour]
        rfl
    · refine .inl ?_
      rw [if_pos hkind, hmorning, ← localHour_sub key.localDate morningHour]
      rfl
  refine ⟨delivery.newRecord, ?_, ?_⟩
  · simp only [DeliveryRecord.planned, h.keys, ok_of_bind, ensure_eq_ok, context_eq_ok, ok_of_pure]
    exact ⟨(), by simp, key, rfl, (), by simp, (), by simp, _, hdeadline, _, hrecovered, (), hschedule,
      trivial⟩
  · exact ⟨rfl, rfl, Nat.zero_le 5, fun _ => rfl, fun _ => Nat.zero_lt_succ 4,
      by simp [PendingDelivery.newRecord, DeliveryStatus.wasReady], by simp [PendingDelivery.newRecord]⟩

theorem Due.deadlineAt {key : ReportKey} (h : Due delivery key) (hs : RecordInv delivery s) :
    s.deadlineAt = .ok (localHour key.localDate (deadlineHour key delivery.scheduledFor)) := by
  have hsum : s.scheduledFor + hours 6 =
      localHour key.localDate (deadlineHour key delivery.scheduledFor) := by
    rw [hs.schedule, deadlineHour]
    rcases h.schedule with hevening | ⟨hkind, hmorning⟩
    · have hne : ¬ (key.kind = .morning ∧
          delivery.scheduledFor = localHour key.localDate morningHour) := by
        rintro ⟨-, hmorning⟩
        rw [hevening] at hmorning
        simp only [localHour, seconds, morningHour, eveningHour] at hmorning
        omega
      rw [if_neg hne, hevening, ← localHour_sub key.localDate eveningHour]
      exact sub_add_cancel _ _
    · rw [if_pos ⟨hkind, hmorning⟩, hmorning, ← localHour_sub key.localDate morningHour]
      exact sub_add_cancel _ _
  have hrange : inCalendar (localHour key.localDate (deadlineHour key delivery.scheduledFor)) =
      some (localHour key.localDate (deadlineHour key delivery.scheduledFor)) := by
    refine h.calendar _ ?_
    unfold deadlineHour
    split_ifs <;> simp
  rw [DeliveryRecord.deadlineAt, checkedAddSigned, hsum, hrange]
  rfl

/-- **The life of a delivery.** Every due delivery is planned, and after any sequence of calls: there
were at most five attempts; a terminal record stays; the artifact is there from the first time the
record is ready and stays; a claim succeeds by the deadline and not before the retry time; the message
id is set exactly when the record is sent; and a call that fails changes nothing. -/
theorem delivery_life_cycle {now : ℤ} {recipientId : String} {reportVersion : ℕ}
    {sent : List ReportKey} {deliveries : List PendingDelivery} (parse : DateParser)
    (h : dueDeliveries now recipientId reportVersion sent = .ok deliveries)
    (hmem : delivery ∈ deliveries) :
    ∃ key record, delivery.coveredKeys = [key] ∧ DeliveryRecord.planned delivery = .ok record ∧
      ∀ calls s, s = runCalls parse record calls →
        s.attempts ≤ 5 ∧
        (s.status = .sent ∨ s.status = .expired ∨ s.status = .permanentFailure →
          ∀ later, runCalls parse s later = s) ∧
        (s.status = .ready ∨ s.status = .sending ∨ s.status = .sent ∨ s.status = .permanentFailure →
          ∃ artifact, ∀ later, (runCalls parse s later).artifact = some artifact) ∧
        (∀ instant t, (Call.claimSend instant).apply parse s = (.ok (), t) →
          instant ≤ localHour key.localDate (deadlineHour key delivery.scheduledFor) ∧
          ∀ retryAt ∈ s.nextAttemptAt, retryAt ≤ instant) ∧
        (s.providerMessageId.isSome ↔ s.status = .sent) ∧
        ∀ (call : Call) error t, call.apply parse s = (.error error, t) → t = s := by
  obtain ⟨key, hdue⟩ := due_of_mem h hmem
  obtain ⟨record, hplanned, hrecord⟩ := hdue.planned_ok
  refine ⟨key, record, hdue.keys, hplanned, ?_⟩
  rintro calls s rfl
  have hs := runCalls_inv parse calls hrecord
  generalize runCalls parse record calls = s at hs
  refine ⟨hs.attempts, fun hterminal later => ?_, fun hready => ?_, fun instant t hclaim => ?_,
    hs.message, fun call error t hcall => apply_atomic call s error t hcall⟩
  · refine runCalls_terminal later ?_
    rcases hterminal with hstatus | hstatus | hstatus <;> rw [hstatus] <;> rfl
  · have hwas : s.status.wasReady := by
      rcases hready with hstatus | hstatus | hstatus | hstatus <;> rw [hstatus] <;> rfl
    obtain ⟨artifact, hartifact⟩ := Option.isSome_iff_exists.mp (hs.artifact hwas)
    exact ⟨artifact, fun later => (runCalls_artifact later (.inl hwas)).trans hartifact⟩
  · obtain ⟨⟨deadline, hdeadline, hle⟩, -, hretry, -⟩ := claimSend_ok hclaim
    rw [hdue.deadlineAt hs] at hdeadline
    cases hdeadline
    exact ⟨hle, hretry⟩

/-- A punctual morning report. -/
def morningDelivery : PendingDelivery where
  coveredKeys := [⟨20000, .morning, "pilot_owner", 1⟩]
  scheduledFor := localHour 20000 morningHour
  delayed := false

theorem delivery_life_cycle_punctual : ∃ record,
    DeliveryRecord.planned morningDelivery = .ok record ∧
      ∀ calls, (runCalls (fun _ => true) record calls).attempts ≤ 5 := by
  have hdue : dueDeliveries (localHour 20000 morningHour) "pilot_owner" 1 [] =
      .ok [morningDelivery] := by decide
  obtain ⟨key, record, -, hplanned, hrun⟩ :=
    delivery_life_cycle (fun _ => true) hdue List.mem_cons_self
  exact ⟨record, hplanned, fun calls => (hrun calls _ rfl).1⟩

end Calls

end AdsControl.Reporting
