import AdsControl.Reporting.Delivery

/-!
# The delivery outbox

The outbox keeps one batch for each planned delivery, the report keys it covers, the finished attempts
and the decisions of the operator. Its functions are transactions: they commit a new database or leave
the old one.

* `createPlanned`, `startGeneration`, `markReady`: a batch up to its first attempt;
* `claimReady`, `finishAttempt` and the four outcomes: one attempt, recorded at the time that the database
  writes into the row;
* `reconcileSending`: the operator closes an attempt whose outcome is unknown.
-/

namespace AdsControl.Reporting.Outbox

open Fallible

/-! ## Tables -/

/-- Why a transaction of the outbox fails. -/
inductive PostgresOutboxError
  | unavailable
  | conflict
  | invalidDelivery
  deriving DecidableEq

/-- A delivery as it is stored. -/
structure BatchRow where
  recipientId : String
  reportVersion : ℕ
  scheduledFor : ℤ
  delayed : Bool
  status : DeliveryStatus
  attempts : ℕ
  artifact : Option ArtifactIdentity
  nextAttemptAt : Option ℤ
  providerMessageId : Option String
  lastErrorClass : Option String
  sentAt : Option ℤ
  deriving DecidableEq

/-- A report key and the batch it belongs to. -/
structure CoverageRow where
  batchId : ℕ
  key : ReportKey
  deadlineAt : ℤ
  deriving DecidableEq

/-- How an attempt ended. -/
inductive AttemptOutcome
  | sent
  | transient
  | permanent
  deriving DecidableEq

/-- An attempt as it is stored. -/
structure AttemptRow where
  startedAt : ℤ
  finishedAt : ℤ
  outcome : AttemptOutcome
  errorClass : Option String
  providerMessageId : Option String

/-- What an operator decided about an unknown outcome. -/
inductive ReconciliationDecision
  | confirmedSent (providerMessageId : String)
  | suppressedUnknown
  deriving DecidableEq

/-- Whether the decision was applied now or before. -/
inductive ReconciliationOutcome
  | applied
  | existing
  deriving DecidableEq

/-- The tables of the outbox. -/
structure OutboxDatabase where
  batches : ℕ → Option BatchRow
  coverage : List CoverageRow
  deliveryAttempts : ℕ → ℕ → Option AttemptRow
  reconciliations : ℕ → ℕ → Option ReconciliationDecision

namespace OutboxDatabase

/-- Write a row of the deliveries. -/
def putBatch (db : OutboxDatabase) (id : ℕ) (row : BatchRow) : OutboxDatabase :=
  { db with batches := Function.update db.batches id (some row) }

/-- Write a row of the attempts. -/
def putAttempt (db : OutboxDatabase) (id attemptNo : ℕ) (row : AttemptRow) : OutboxDatabase :=
  let attempts := Function.update (db.deliveryAttempts id) attemptNo (some row)
  { db with deliveryAttempts := Function.update db.deliveryAttempts id attempts }

/-- Write a row of the decisions. -/
def putReconciliation (db : OutboxDatabase) (id attemptNo : ℕ) (decision : ReconciliationDecision) :
    OutboxDatabase :=
  let decisions := Function.update (db.reconciliations id) attemptNo (some decision)
  { db with reconciliations := Function.update db.reconciliations id decisions }

/-- The coverage of a batch. -/
def coverageOf (db : OutboxDatabase) (id : ℕ) : List CoverageRow :=
  db.coverage.filter fun row => row.batchId == id

end OutboxDatabase

/-! ## Planning -/

/-- Whether a delivery was inserted, found or in conflict. -/
inductive CreateOutcome
  | inserted (batchId : ℕ)
  | existing (batchId : ℕ)
  deriving DecidableEq

/-- A batch as it is inserted. -/
def plannedRow (recipientId : String) (reportVersion : ℕ) (record : DeliveryRecord) : BatchRow where
  recipientId := recipientId
  reportVersion := reportVersion
  scheduledFor := record.scheduledFor
  delayed := record.delayed
  status := .planned
  attempts := 0
  artifact := none
  nextAttemptAt := none
  providerMessageId := none
  lastErrorClass := none
  sentAt := none

/-- Insert the coverage of a batch; a key is covered once. -/
def insertCoverage (batchId : ℕ) (deadlineAt : ℤ) (db : OutboxDatabase) (key : ReportKey) :
    Except PostgresOutboxError OutboxDatabase := do
  ensure (key ∉ db.coverage.map CoverageRow.key) .unavailable
  return { db with coverage := db.coverage ++ [⟨batchId, key, deadlineAt⟩] }

/-- Insert the batch with its coverage under the next free number. -/
def insertPlanned (db : OutboxDatabase) (nextId : ℕ) (first : ReportKey) (record : DeliveryRecord) :
    Except PostgresOutboxError (OutboxDatabase × CreateOutcome) := do
  let deadlineAt ← record.deadlineAt.mapError fun _ => .invalidDelivery
  ensure (db.batches nextId = none) .unavailable
  let db := db.putBatch nextId (plannedRow first.recipientId first.reportVersion record)
  let db ← record.coveredKeys.foldlM (insertCoverage nextId deadlineAt) db
  return (db, .inserted nextId)

/-- Reserve a delivery: an identical one exists, another one overlaps, or it is inserted. -/
def createPlanned (db : OutboxDatabase) (nextId : ℕ) (delivery : PendingDelivery) :
    Except PostgresOutboxError (OutboxDatabase × CreateOutcome) := do
  let record ← (DeliveryRecord.planned delivery).mapError fun _ => .invalidDelivery
  let first ← context record.coveredKeys.head? .invalidDelivery
  ensure (first.reportVersion < 2 ^ 31) .invalidDelivery
  let existing := db.coverage.filter fun row => row.key.recipientId == first.recipientId &&
    row.key.reportVersion == first.reportVersion && row.key.localDate == first.localDate
  let existingKinds := (existing.map fun row => row.key.kind).toFinset
  let requestedKinds := (record.coveredKeys.map ReportKey.kind).toFinset
  match existing with
  | [] => insertPlanned db nextId first record
  | row :: _ =>
    if (∀ other ∈ existing, other.batchId = row.batchId) ∧ existingKinds = requestedKinds then
      return (db, .existing row.batchId)
    else do
      ensure (Disjoint existingKinds requestedKinds) .conflict
      insertPlanned db nextId first record

/-! ## Generation -/

/-- Start to generate the artifact of a planned delivery. -/
def startGeneration (db : OutboxDatabase) (batchId : ℕ) :
    Except PostgresOutboxError (OutboxDatabase × Unit) := do
  let row ← context (db.batches batchId) .conflict
  ensure (row.status = .planned) .conflict
  return (db.putBatch batchId { row with status := .generating }, ())

/-- Publish the artifact; repeating it is accepted. -/
def markReady (parse : DateParser) (db : OutboxDatabase) (batchId : ℕ) (artifact : ArtifactIdentity) :
    Except PostgresOutboxError (OutboxDatabase × Unit) := do
  (validateArtifact parse artifact).mapError fun _ => .invalidDelivery
  let row ← context (db.batches batchId) .conflict
  if row.status = .generating then
    return (db.putBatch batchId { row with
      status := .ready
      artifact := some artifact
      nextAttemptAt := none }, ())
  else do
    ensure (row.status = .ready ∧ row.artifact = some artifact) .conflict
    return (db, ())

/-! ## Attempts -/

/-- A delivery that a worker may send. -/
structure ClaimedDelivery where
  batchId : ℕ
  recipientId : String
  reportVersion : ℕ
  attemptNo : ℕ
  artifact : ArtifactIdentity
  coveredKeys : List ReportKey
  deadlineAt : ℤ
  deriving DecidableEq

/-- The one predicate for a claimable batch. -/
def isReadyBatch (db : OutboxDatabase) (now : ℤ) (batchId : ℕ) (row : BatchRow) : Bool :=
  decide (row.status = .ready) && decide (row.attempts < maxDeliveryAttempts) &&
    row.nextAttemptAt.all (· ≤ now) && (db.coverageOf batchId).any fun row => now ≤ row.deadlineAt

/-- Whether some batch is claimable. -/
def hasReadyDelivery (db : OutboxDatabase) (now : ℤ) : Prop :=
  ∃ batchId row, db.batches batchId = some row ∧ isReadyBatch db now batchId row

/-- Claim the batch the query selected; rows that others hold locked are skipped. -/
def claimReady (db : OutboxDatabase) (now : ℤ) (selected : Option ℕ) :
    Except PostgresOutboxError (OutboxDatabase × Option ClaimedDelivery) :=
  match selected with
  | none => .ok (db, none)
  | some batchId => do
    let row ← context (db.batches batchId) .unavailable
    ensure (isReadyBatch db now batchId row) .unavailable
    let artifact ← context row.artifact .unavailable
    let coverage := db.coverageOf batchId
    let deadlineAt ← context (coverage.map CoverageRow.deadlineAt).max? .conflict
    let claimed : BatchRow := { row with
      status := .sending
      attempts := row.attempts + 1
      nextAttemptAt := none }
    return (db.putBatch batchId claimed, some {
      batchId := batchId
      recipientId := row.recipientId
      reportVersion := row.reportVersion
      attemptNo := row.attempts + 1
      artifact := artifact
      coveredKeys := coverage.map CoverageRow.key
      deadlineAt := deadlineAt })

/-- Where an attempt leaves its delivery. -/
def AttemptOutcome.status : AttemptOutcome → DeliveryStatus
  | sent => .sent
  | transient => .ready
  | permanent => .permanentFailure

/-- The trigger on a batch that is to be sent again: the retry lies after the update, and both lie inside the
delivery window. -/
def enforceDeliveryBatchState (db : OutboxDatabase) (updatedAt : ℤ) (batchId : ℕ) (row : BatchRow) :
    Except PostgresOutboxError Unit :=
  if row.status = .ready then do
    let latestDeadline ← context ((db.coverageOf batchId).map CoverageRow.deadlineAt).max? .unavailable
    let nextAttemptAt ← context row.nextAttemptAt .unavailable
    ensure (updatedAt < nextAttemptAt ∧ nextAttemptAt ≤ latestDeadline ∧ updatedAt ≤ latestDeadline)
      .unavailable
  else return ()

/-- Record the outcome of the active attempt; the update writes `updatedAt`, the clock of the database. -/
def finishAttempt (db : OutboxDatabase) (updatedAt : ℤ) (claim : ClaimedDelivery) (startedAt finishedAt : ℤ)
    (outcome : AttemptOutcome) (errorClass providerMessageId : Option String) (retryAt : Option ℤ) :
    Except PostgresOutboxError (OutboxDatabase × Unit) := do
  ensure (db.deliveryAttempts claim.batchId claim.attemptNo).isNone .unavailable
  let db := db.putAttempt claim.batchId claim.attemptNo
    ⟨startedAt, finishedAt, outcome, errorClass, providerMessageId⟩
  let row ← context (db.batches claim.batchId) .conflict
  ensure (row.status = .sending ∧ row.attempts = claim.attemptNo) .conflict
  let finished : BatchRow := { row with
    status := outcome.status
    nextAttemptAt := retryAt
    providerMessageId := providerMessageId
    lastErrorClass := errorClass
    sentAt := if outcome = .sent then some finishedAt else none }
  enforceDeliveryBatchState db updatedAt claim.batchId finished
  return (db.putBatch claim.batchId finished, ())

/-- The text of an error that may pass. -/
def transientErrorText : DeliveryErrorClass → Except PostgresOutboxError String
  | .rateLimited => .ok "rate_limited"
  | .providerUnavailable => .ok "provider_unavailable"
  | .transport => .ok "transport"
  | _ => .error .invalidDelivery

/-- The text of an error that stays. -/
def permanentErrorText : DeliveryErrorClass → Except PostgresOutboxError String
  | .authentication => .ok "authentication"
  | .invalidRecipient => .ok "invalid_recipient"
  | .invalidArtifact => .ok "invalid_artifact"
  | .invalidRouting => .ok "invalid_routing"
  | .providerRejected => .ok "provider_rejected"
  | _ => .error .invalidDelivery

/-- An attempt does not end before it started. -/
def validateAttemptTimes (startedAt finishedAt : ℤ) : Except PostgresOutboxError Unit :=
  ensure (startedAt ≤ finishedAt) .invalidDelivery

/-- Record that the provider accepted the mail. -/
def recordSent (db : OutboxDatabase) (updatedAt : ℤ) (claim : ClaimedDelivery) (startedAt finishedAt : ℤ)
    (providerMessageId : String) : Except PostgresOutboxError (OutboxDatabase × Unit) := do
  validateAttemptTimes startedAt finishedAt
  (validateProviderMessageId providerMessageId).mapError fun _ => .invalidDelivery
  finishAttempt db updatedAt claim startedAt finishedAt .sent none (some providerMessageId) none

/-- A failure that may be retried; the last attempt becomes permanent. -/
def recordTransientFailure (db : OutboxDatabase) (updatedAt : ℤ) (claim : ClaimedDelivery) (startedAt finishedAt : ℤ)
    (errorClass : DeliveryErrorClass) (retryAt : ℤ) :
    Except PostgresOutboxError (OutboxDatabase × Unit) := do
  let text ← transientErrorText errorClass
  validateAttemptTimes startedAt finishedAt
  if maxDeliveryAttempts ≤ claim.attemptNo then
    finishAttempt db updatedAt claim startedAt finishedAt .permanent (some text) none none
  else do
    ensure (finishedAt < retryAt ∧ retryAt ≤ claim.deadlineAt) .invalidDelivery
    finishAttempt db updatedAt claim startedAt finishedAt .transient (some text) none (some retryAt)

/-- Record an error that stays. -/
def recordPermanentFailure (db : OutboxDatabase) (updatedAt : ℤ) (claim : ClaimedDelivery) (startedAt finishedAt : ℤ)
    (errorClass : DeliveryErrorClass) : Except PostgresOutboxError (OutboxDatabase × Unit) := do
  validateAttemptTimes startedAt finishedAt
  let text ← permanentErrorText errorClass
  finishAttempt db updatedAt claim startedAt finishedAt .permanent (some text) none none

/-- A transient failure for which no retry fits before the deadline. -/
def recordExhaustedFailure (db : OutboxDatabase) (updatedAt : ℤ) (claim : ClaimedDelivery) (startedAt finishedAt : ℤ)
    (errorClass : DeliveryErrorClass) : Except PostgresOutboxError (OutboxDatabase × Unit) := do
  validateAttemptTimes startedAt finishedAt
  let text ← transientErrorText errorClass
  finishAttempt db updatedAt claim startedAt finishedAt .permanent (some text) none none

/-! ## Reconciliation -/

namespace ReconciliationDecision

/-- Where a decision leaves the delivery. -/
def status : ReconciliationDecision → DeliveryStatus
  | confirmedSent _ => .sent
  | suppressedUnknown => .permanentFailure

/-- The id of the message that was found sent. -/
def messageId : ReconciliationDecision → Option String
  | confirmedSent providerMessageId => some providerMessageId
  | suppressedUnknown => none

/-- The error of a delivery that is given up. -/
def errorClass : ReconciliationDecision → Option String
  | confirmedSent _ => none
  | suppressedUnknown => some "operator_reconciled_unknown"

/-- When the delivery counts as sent. -/
def sentAt (reconciledAt : ℤ) : ReconciliationDecision → Option ℤ
  | confirmedSent _ => some reconciledAt
  | suppressedUnknown => none

/-- A message id that a provider can give. -/
def validate : ReconciliationDecision → Except PostgresOutboxError Unit
  | confirmedSent providerMessageId =>
    (validateProviderMessageId providerMessageId).mapError fun _ => .invalidDelivery
  | suppressedUnknown => .ok ()

end ReconciliationDecision

/-- Close the active attempt; repeating the exact decision is accepted. -/
def reconcileSending (db : OutboxDatabase) (batchId attemptNo : ℕ) (recipientId : String)
    (reportVersion : ℕ) (reconciledAt : ℤ) (decision : ReconciliationDecision) :
    Except PostgresOutboxError (OutboxDatabase × ReconciliationOutcome) := do
  (validateReportIdentity recipientId reportVersion).mapError fun _ => .invalidDelivery
  ensure (0 < batchId ∧ 1 ≤ attemptNo ∧ attemptNo ≤ maxDeliveryAttempts) .invalidDelivery
  ensure (reportVersion < 2 ^ 31) .invalidDelivery
  decision.validate
  let row ← context (db.batches batchId) .conflict
  ensure (row.recipientId = recipientId ∧ row.reportVersion = reportVersion) .conflict
  match db.reconciliations batchId attemptNo with
  | some existing =>
    ensure (existing = decision ∧ row.status = decision.status ∧
      row.providerMessageId = decision.messageId ∧ row.lastErrorClass = decision.errorClass) .conflict
    return (db, .existing)
  | none =>
    ensure (row.status = .sending ∧ row.attempts = attemptNo) .conflict
    let db := db.putReconciliation batchId attemptNo decision
    return (db.putBatch batchId { row with
      status := decision.status
      nextAttemptAt := none
      providerMessageId := decision.messageId
      lastErrorClass := decision.errorClass
      sentAt := decision.sentAt reconciledAt }, .applied)

end AdsControl.Reporting.Outbox
