import AdsControl.Lib.Attempt
import AdsControl.Position.Plan

/-!
# Collection of a batch

The queries of a plan are scanned one after the other, with an interval between them and without retries. A
protective or unreadable response ends the batch, as three failures in a row and the deadline of the batch do.
The source and the clock may answer anything.

* `collectBatch`: the loop over the queries;
* `batchBudget`: when a batch may start, and how long it may take.
-/

namespace AdsControl.Position

open Fallible Interaction

/-- The longest scan of a page. -/
def pageTimeout : ℤ := seconds 90

/-- The longest batch. -/
def batchTimeout : ℤ := seconds (20 * 60)

/-- The shortest gap between two queries. -/
def minQueryInterval : ℤ := seconds 10

/-- How late a batch may start. -/
def maxStartDelay : ℤ := seconds (2 * 60)

/-- How many failures in a row stop a batch. -/
def maxConsecutiveFailures : ℕ := 3

/-- When a batch starts within its slot. -/
def executionOffset : ℤ := seconds (5 * 60)

/-- The length of a slot. -/
def collectionInterval : ℤ := seconds (30 * 60)

/-- Why a scan fails. -/
inductive SourceError
  | disabled
  | captcha
  | httpForbidden
  | rateLimited
  | timeout
  | unavailable
  | markupChanged
  | invalidObservation (error : ValidationError)
  deriving DecidableEq

/-- Why a batch does not run. -/
inductive CollectError
  | overlappingRun
  | circuitOpen
  | outsideStartWindow
  deriving DecidableEq

/-- The source defends itself. -/
def SourceError.isProtective : SourceError → Bool
  | captcha | httpForbidden | rateLimited => true
  | _ => false

/-- How a batch ended. -/
inductive BatchStatus
  | succeeded
  | partially
  | failed
  | blocked
  deriving DecidableEq

/-- Why it ended. -/
inductive BatchStopReason
  | completed
  | safetyCircuit
  | consecutiveFailures
  | deadline
  deriving DecidableEq

/-- What became of a query. -/
inductive QueryResult
  | succeeded (request : QueryRequest) (observations : List Observation)
  | failed (request : QueryRequest) (monitorIds : List ℤ) (error : SourceError)
  | deadlineExceeded (request : QueryRequest) (monitorIds : List ℤ)
  deriving DecidableEq

/-- A failed scan, or no time left for one. -/
inductive QueryScanError
  | source (error : SourceError)
  | batchDeadline
  deriving DecidableEq

/-- What became of a batch. -/
structure BatchResult where
  status : BatchStatus
  plannedQueries : ℕ
  attemptedQueries : ℕ
  succeededQueries : ℕ
  stoppedEarly : Bool
  stopReason : BatchStopReason
  circuitBreak : Bool
  results : List QueryResult
  deriving DecidableEq

/-- What the collector asks the clock and the source; a clock shows nanoseconds. -/
inductive CollectorCall
  | now
  | sleepUntil (instant deadline : ℤ)
  | scan (request : QueryRequest) (deadline : ℤ)

/-- A clock shows an instant, sleeping ends before its deadline or not, and a scan gives nothing in time or an
answer. -/
abbrev CollectorCall.Answer : CollectorCall → Type
  | now => ℤ
  | sleepUntil _ _ => Bool
  | scan _ _ => Option (Except SourceError QueryScan)

/-- A collector over its effects. -/
abbrev CollectorProg (α : Type) : Type := Prog CollectorCall CollectorCall.Answer CollectError α

/-! ## One query -/

/-- The answer to a scan that had to be there at `effective`. -/
def readScan (query : QueryPlan) (effective deadline : ℤ) :
    Option (Except SourceError QueryScan) → Except QueryScanError (List Observation)
  | some (.ok scan) => (scan.intoObservations query).mapError fun error => .source (.invalidObservation error)
  | some (.error error) => .error (.source error)
  | none => .error (if effective = deadline then .batchDeadline else .source .timeout)

/-- Scan for one query and read the targets' positions. -/
def scanQuery (query : QueryPlan) (deadline : ℤ) :
    CollectorProg (Except QueryScanError (List Observation)) := do
  let now ← Prog.perform .now
  let effective := min (now + pageTimeout) deadline
  let answer ← Prog.perform (.scan query.request effective)
  return readScan query effective deadline answer

/-- The monitors of a query. -/
def QueryPlan.monitorIds (query : QueryPlan) : List ℤ := query.targets.map MonitorTarget.monitorId

/-- Errors that end the batch: a protective response, or one that cannot be read. -/
def SourceError.breaksCircuit (error : SourceError) : Bool :=
  error.isProtective || match error with
    | markupChanged | invalidObservation _ => true
    | _ => false

/-! ## The loop -/

/-- What the batch did so far. -/
structure Progress where
  attemptedQueries : ℕ := 0
  succeededQueries : ℕ := 0
  results : List QueryResult := []
  blocked : Bool := false
  circuitBreak : Bool := false
  consecutiveFailures : ℕ := 0
  stopReason : BatchStopReason := .completed
  nextQueryAt : ℤ

/-- The progress after a query, and whether the batch goes on. -/
def Progress.after (progress : Progress) (query : QueryPlan) :
    Except QueryScanError (List Observation) → Progress × Bool
  | .ok observations =>
    ({ progress with
        succeededQueries := progress.succeededQueries + 1
        consecutiveFailures := 0
        results := progress.results ++ [.succeeded query.request observations] }, true)
  | .error .batchDeadline =>
    ({ progress with
        results := progress.results ++ [.deadlineExceeded query.request query.monitorIds]
        stopReason := .deadline }, false)
  | .error (.source error) =>
    let progress := { progress with
      circuitBreak := error.breaksCircuit
      blocked := error.breaksCircuit
      consecutiveFailures := progress.consecutiveFailures + 1
      results := progress.results ++ [.failed query.request query.monitorIds error] }
    if error.breaksCircuit then ({ progress with stopReason := .safetyCircuit }, false)
    else if maxConsecutiveFailures ≤ progress.consecutiveFailures then
      ({ progress with stopReason := .consecutiveFailures }, false)
    else (progress, true)

/-- A query begins: it is counted, and the next one has to wait. -/
def Progress.start (progress : Progress) (now : ℤ) : Progress :=
  { progress with
    attemptedQueries := progress.attemptedQueries + 1
    nextQueryAt := now + minQueryInterval }

/-- Query after query, up to a reason to stop. -/
def collectQueries (deadline : ℤ) : List QueryPlan → Progress → CollectorProg Progress
  | [], progress => return progress
  | query :: queries, progress => do
    if ← Prog.perform (.sleepUntil progress.nextQueryAt deadline) then
      let now ← Prog.perform .now
      let outcome ← scanQuery query deadline
      let (progress, goesOn) := (progress.start now).after query outcome
      if goesOn then collectQueries deadline queries progress else return progress
    else return { progress with stopReason := .deadline }

/-- How a batch ended, by its counts. -/
def batchStatus (blocked : Bool) (succeededQueries plannedQueries : ℕ) : BatchStatus :=
  if blocked then .blocked
  else if succeededQueries = plannedQueries then .succeeded
  else if succeededQueries = 0 then .failed
  else .partially

/-- What became of the batch. -/
def Progress.result (progress : Progress) (plannedQueries : ℕ) : BatchResult where
  status := batchStatus progress.blocked progress.succeededQueries plannedQueries
  plannedQueries
  attemptedQueries := progress.attemptedQueries
  succeededQueries := progress.succeededQueries
  stoppedEarly := progress.attemptedQueries < plannedQueries
  stopReason := progress.stopReason
  circuitBreak := progress.circuitBreak
  results := progress.results

/-- **One batch.** -/
def collectBatch (plan : BatchPlan) (deadline : ℤ) : CollectorProg BatchResult := do
  let now ← Prog.perform .now
  let progress ← collectQueries deadline plan.queries { nextQueryAt := now }
  return progress.result plan.queries.length

/-- The deadline of a batch that starts in time. -/
def batchBudget (plan : BatchPlan) (startedAt : ℤ) : Except CollectError ℤ := do
  let plannedStart ← context (checkedAddSigned plan.slot executionOffset) .outsideStartWindow
  let latestStart ← context (checkedAddSigned plannedStart maxStartDelay) .outsideStartWindow
  ensure (plannedStart ≤ startedAt ∧ startedAt ≤ latestStart) .outsideStartWindow
  let _ ← context (checkedAddSigned plan.slot collectionInterval) .outsideStartWindow
  return batchTimeout

end AdsControl.Position
