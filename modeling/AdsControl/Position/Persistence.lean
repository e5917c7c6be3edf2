import AdsControl.Position.Runner

/-!
# What is kept of a batch

A result is checked against its plan and turned into the payload of one commit: counters, the error that
describes the batch best, the reason of its circuit and a measurement for every observation.

* `PersistenceBatch.fromResult`: the payload;
* `validateResultShape`: a result belongs to its plan.
-/

namespace AdsControl.Position

open Fallible

/-- The longest version in bytes. -/
def maxCollectorVersionBytes : ℕ := 64

/-- The kinds of failures. -/
inductive ErrorClass
  | sourceDisabled
  | captcha
  | httpForbidden
  | rateLimited
  | timeout
  | unavailable
  | markupChanged
  | invalidObservation
  | deadlineExceeded
  deriving DecidableEq

namespace ErrorClass

/-- A kind as its column has it. -/
def asStr : ErrorClass → String
  | sourceDisabled => "source_disabled"
  | captcha => "captcha"
  | httpForbidden => "http_forbidden"
  | rateLimited => "rate_limited"
  | timeout => "timeout"
  | unavailable => "unavailable"
  | markupChanged => "markup_changed"
  | invalidObservation => "invalid_observation"
  | deadlineExceeded => "deadline_exceeded"

/-- The status of a kind that has one. -/
def httpStatus : ErrorClass → Option ℕ
  | httpForbidden => some 403
  | rateLimited => some 429
  | _ => none

/-- The kind of a failed scan. -/
def fromSource : SourceError → ErrorClass
  | .disabled => sourceDisabled
  | .captcha => captcha
  | .httpForbidden => httpForbidden
  | .rateLimited => rateLimited
  | .timeout => timeout
  | .unavailable => unavailable
  | .markupChanged => markupChanged
  | .invalidObservation _ => invalidObservation

end ErrorClass

/-- Why the circuit opens. -/
inductive CircuitReason
  | captcha
  | httpForbidden
  | rateLimited
  | markupChanged
  | invalidObservation
  deriving DecidableEq

/-- A reason as its column has it. -/
def CircuitReason.asStr : CircuitReason → String
  | captcha => "captcha"
  | httpForbidden => "http_forbidden"
  | rateLimited => "rate_limited"
  | markupChanged => "markup_changed"
  | invalidObservation => "invalid_observation"

/-- Whether a result opens the circuit. -/
def QueryResult.circuitReason : QueryResult → Option CircuitReason
  | failed _ _ .captcha => some .captcha
  | failed _ _ .httpForbidden => some .httpForbidden
  | failed _ _ .rateLimited => some .rateLimited
  | failed _ _ .markupChanged => some .markupChanged
  | failed _ _ (.invalidObservation _) => some .invalidObservation
  | _ => none

/-- Whether a product was found. -/
inductive PersistedOutcome
  | found
  | notFound
  deriving DecidableEq

/-- A measurement as it is stored. -/
structure MeasurementRecord where
  monitorId : ℤ
  observedAt : ℤ
  outcome : PersistedOutcome
  overallPosition : Option ℕ
  placement : Option PlacementKind
  organicPosition : Option ℕ
  sponsoredPosition : Option ℕ
  deriving DecidableEq

/-- The measurement of an observation. -/
def Observation.measurement (observation : Observation) : MeasurementRecord :=
  match observation.outcome with
  | .found overallPosition organicPosition sponsoredPosition placement => {
      monitorId := observation.monitorId
      observedAt := observation.observedAt
      outcome := .found
      overallPosition := some overallPosition
      placement := some placement
      organicPosition
      sponsoredPosition }
  | .notFound => {
      monitorId := observation.monitorId
      observedAt := observation.observedAt
      outcome := .notFound
      overallPosition := none
      placement := none
      organicPosition := none
      sponsoredPosition := none }

/-- Why a batch is not stored. -/
inductive PersistenceError
  | invalidCollectorVersion
  | invalidRunTime
  | resultPlanMismatch
  deriving DecidableEq

/-- A batch as it is stored. -/
structure PersistenceBatch where
  scheduledFor : ℤ
  startedAt : ℤ
  finishedAt : ℤ
  collectorVersion : String
  status : BatchStatus
  monitorsPlanned : ℕ
  monitorsAttempted : ℕ
  monitorsSucceeded : ℕ
  queriesPlanned : ℕ
  queriesAttempted : ℕ
  queriesSucceeded : ℕ
  errorClass : Option ErrorClass
  httpStatus : Option ℕ
  circuitReason : Option CircuitReason
  measurements : List MeasurementRecord
  deriving DecidableEq

/-- A version of printable characters. -/
def validateCollectorVersion (value : String) : Except PersistenceError String := do
  ensure (value ≠ "" ∧ value.utf8ByteSize ≤ maxCollectorVersionBytes ∧
    value.toList.all fun c => 0x21 ≤ c.toNat && c.toNat ≤ 0x7E) .invalidCollectorVersion
  return value

/-- The run began and ended in the slot's time. -/
def validateTimes (plan : BatchPlan) (startedAt finishedAt : ℤ) : Except PersistenceError Unit := do
  let earliestStart ← context (checkedAddSigned plan.slot executionOffset) .invalidRunTime
  let latestStart ← context (checkedAddSigned earliestStart maxStartDelay) .invalidRunTime
  let slotEnd ← context (checkedAddSigned plan.slot collectionInterval) .invalidRunTime
  ensure (earliestStart ≤ startedAt ∧ startedAt ≤ latestStart ∧ startedAt ≤ finishedAt ∧
    finishedAt < slotEnd) .invalidRunTime

/-- The query succeeded. -/
def QueryResult.isSucceeded : QueryResult → Bool
  | succeeded _ _ => true
  | _ => false

/-- The request of a result and the monitors it is about. -/
def QueryResult.subject : QueryResult → QueryRequest × List ℤ
  | succeeded request observations => (request, observations.map Observation.monitorId)
  | failed request monitorIds _ => (request, monitorIds)
  | deadlineExceeded request monitorIds => (request, monitorIds)

/-- The counts of the result are those of the plan. -/
def validateResultShape (plan : BatchPlan) (result : BatchResult) : Except PersistenceError Unit := do
  ensure (result.plannedQueries = plan.queries.length ∧ result.attemptedQueries = result.results.length ∧
    result.succeededQueries = (result.results.filter QueryResult.isSucceeded).length) .resultPlanMismatch
  ensure ((result.results.zip plan.queries).all fun pair =>
    pair.1.subject = (pair.2.request, pair.2.monitorIds)) .resultPlanMismatch

/-- What the loop over the results has added up. -/
structure Persisting where
  monitorsAttempted : ℕ := 0
  monitorsSucceeded : ℕ := 0
  measurements : List MeasurementRecord := []
  firstError : Option ErrorClass := none

/-- The first error describes a batch unless a circuit or the deadline ends it. -/
def Persisting.add (persisting : Persisting) (result : QueryResult) : Persisting :=
  match result with
  | .succeeded _ observations => { persisting with
      monitorsAttempted := persisting.monitorsAttempted + observations.length
      monitorsSucceeded := persisting.monitorsSucceeded + observations.length
      measurements := persisting.measurements ++ observations.map Observation.measurement }
  | .failed _ monitorIds error => { persisting with
      monitorsAttempted := persisting.monitorsAttempted + monitorIds.length
      firstError := if result.circuitReason.isSome then some (.fromSource error)
        else persisting.firstError.or (some (.fromSource error)) }
  | .deadlineExceeded _ monitorIds => { persisting with
      monitorsAttempted := persisting.monitorsAttempted + monitorIds.length
      firstError := some .deadlineExceeded }

/-- **The payload of a commit.** -/
def PersistenceBatch.fromResult (plan : BatchPlan) (result : BatchResult) (startedAt finishedAt : ℤ)
    (collectorVersion : String) : Except PersistenceError PersistenceBatch := do
  validateTimes plan startedAt finishedAt
  let collectorVersion ← validateCollectorVersion collectorVersion
  validateResultShape plan result
  let persisting := result.results.foldl Persisting.add {}
  return {
    scheduledFor := plan.slot
    startedAt
    finishedAt
    collectorVersion
    status := result.status
    monitorsPlanned := plan.targetCount
    monitorsAttempted := persisting.monitorsAttempted
    monitorsSucceeded := persisting.monitorsSucceeded
    queriesPlanned := result.plannedQueries
    queriesAttempted := result.attemptedQueries
    queriesSucceeded := result.succeededQueries
    errorClass := persisting.firstError
    httpStatus := persisting.firstError.bind ErrorClass.httpStatus
    circuitReason := result.results.findSome? QueryResult.circuitReason
    measurements := persisting.measurements }

end AdsControl.Position
