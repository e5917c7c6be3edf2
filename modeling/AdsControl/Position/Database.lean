import AdsControl.Position.PayloadDigest

/-!
# The position database

The tables a collector writes to, with the checks and triggers of their schema. A commit is one transaction: it
inserts a run, its measurements and the reason of its circuit, and ends the run; whatever fails in between
leaves the tables as they were. Requests are claimed from a daily budget of their region.

* `Tables`: the tables; `insertRun`, `insertMeasurement`, `openOzonCollectorCircuit`, `finishRun`: statements;
* `persistInner`: the transaction of a payload;
* `claimOzonRequestBudget`: one request;
* `Operation`, `Database.step`: what happens to the database.
-/

namespace AdsControl.Position

open Fallible FieldCode

/-! ## Rows -/

/-- Where a run stands. -/
inductive RunStatus
  | running
  | ended (status : BatchStatus)
  deriving DecidableEq

/-- A collection run; times are in microseconds. -/
structure CollectionRun where
  id : ℕ
  scheduledFor : ℤ
  startedAt : ℤ
  finishedAt : Option ℤ
  status : RunStatus
  monitorsPlanned : ℕ
  monitorsAttempted : ℕ
  monitorsSucceeded : ℕ
  queriesPlanned : ℕ
  queriesAttempted : ℕ
  queriesSucceeded : ℕ
  errorClass : Option ErrorClass
  httpStatus : Option ℕ
  collectorVersion : String
  payloadDigest : String
  deriving DecidableEq

/-- A measurement of a run; its time is in microseconds. -/
structure MeasurementRow where
  runId : ℕ
  measurement : MeasurementRecord
  deriving DecidableEq

/-- The circuit that stops all requests. -/
structure Circuit where
  circuitOpen : Bool := false
  openedAt : Option ℤ := none
  openedByRunId : Option ℕ := none
  reason : Option CircuitReason := none
  resetAt : Option ℤ := none
  resetBy : Option String := none
  deriving DecidableEq

/-- The requests a region may have a day. -/
structure RegionBudget where
  dailyLimit : ℕ
  active : Bool
  deriving DecidableEq

/-- The tables of the schema; a region without a request on a day has no usage. -/
structure Tables where
  monitors : List ℤ := []
  runs : List CollectionRun := []
  measurements : List MeasurementRow := []
  circuit : Circuit := {}
  budgets : String → Option RegionBudget := fun _ => none
  usage : ℤ × String → ℕ := fun _ => 0

/-! ## Checks -/

/-- The length of a slot in microseconds. -/
def slotMicros : ℤ := 30 * 60 * 1000000

/-- A lowercase hexadecimal digit. -/
def IsLowerHex (c : Char) : Bool := ('0' ≤ c && c ≤ '9') || ('a' ≤ c && c ≤ 'f')

/-- The checks on a row of runs. -/
def CollectionRun.Valid (run : CollectionRun) : Prop :=
  run.scheduledFor % slotMicros = 0 ∧
  (run.monitorsSucceeded ≤ run.monitorsAttempted ∧ run.monitorsAttempted ≤ run.monitorsPlanned) ∧
  (run.queriesSucceeded ≤ run.queriesAttempted ∧ run.queriesAttempted ≤ run.queriesPlanned) ∧
  ((run.status = .running ∧ run.finishedAt = none) ∨ (run.status ≠ .running ∧ run.finishedAt.isSome = true)) ∧
  (∀ t ∈ run.finishedAt, run.startedAt ≤ t) ∧
  (∀ error ∈ run.errorClass, 1 ≤ error.asStr.length ∧ error.asStr.length ≤ 64 ∧
    ¬ error.asStr.toList.any isWhitespace) ∧
  (∀ status ∈ run.httpStatus, 100 ≤ status ∧ status ≤ 599) ∧
  (1 ≤ run.collectorVersion.length ∧ run.collectorVersion.length ≤ 64) ∧
  run.payloadDigest.length = 64 ∧ run.payloadDigest.toList.all IsLowerHex

instance (run : CollectionRun) : Decidable run.Valid := inferInstanceAs (Decidable (_ ∧ _))

/-- A run starts clean. -/
def CollectionRun.Starts (run : CollectionRun) : Prop :=
  run.status = .running ∧ run.finishedAt = none ∧ run.monitorsAttempted = 0 ∧ run.monitorsSucceeded = 0 ∧
  run.queriesAttempted = 0 ∧ run.queriesSucceeded = 0 ∧ run.errorClass = none ∧ run.httpStatus = none

instance (run : CollectionRun) : Decidable run.Starts := inferInstanceAs (Decidable (_ ∧ _))

/-- A running run is updated, its provenance stays and its counters do not decrease. -/
def CollectionRun.MayBecome (old new : CollectionRun) : Prop :=
  (new.id = old.id ∧ new.scheduledFor = old.scheduledFor ∧ new.startedAt = old.startedAt ∧
    new.monitorsPlanned = old.monitorsPlanned ∧ new.queriesPlanned = old.queriesPlanned ∧
    new.collectorVersion = old.collectorVersion ∧ new.payloadDigest = old.payloadDigest) ∧
  old.status = .running ∧
  (old.monitorsAttempted ≤ new.monitorsAttempted ∧ old.monitorsSucceeded ≤ new.monitorsSucceeded ∧
    old.queriesAttempted ≤ new.queriesAttempted ∧ old.queriesSucceeded ≤ new.queriesSucceeded)

instance (old new : CollectionRun) : Decidable (old.MayBecome new) := inferInstanceAs (Decidable (_ ∧ _))

/-- The checks on a measurement. -/
def MeasurementRow.Valid (row : MeasurementRow) : Prop :=
  (∀ n ∈ row.measurement.overallPosition, IsPosition n) ∧ (∀ n ∈ row.measurement.organicPosition, IsPosition n) ∧
  (∀ n ∈ row.measurement.sponsoredPosition, IsPosition n) ∧
  ((row.measurement.outcome = .found ∧ row.measurement.overallPosition.isSome = true ∧
      row.measurement.placement.isSome = true) ∨
    (row.measurement.outcome ≠ .found ∧ row.measurement.overallPosition = none ∧
      row.measurement.organicPosition = none ∧ row.measurement.sponsoredPosition = none ∧
      row.measurement.placement = none))

instance (row : MeasurementRow) : Decidable row.Valid := inferInstanceAs (Decidable (_ ∧ _))

/-- Text without surrounding spaces and control characters. -/
def IsLabel (text : String) : Prop :=
  text.toList.head? ≠ some ' ' ∧ text.toList.getLast? ≠ some ' ' ∧ ¬ text.toList.any isControl

instance (text : String) : Decidable (IsLabel text) := inferInstanceAs (Decidable (_ ∧ _))

/-- The checks on the circuit. -/
def Circuit.Valid (circuit : Circuit) : Prop :=
  (∀ name ∈ circuit.resetBy, 1 ≤ name.length ∧ name.length ≤ 128 ∧ IsLabel name) ∧
  ((circuit.circuitOpen = true ∧ circuit.openedAt.isSome = true ∧ circuit.openedByRunId.isSome = true ∧
      circuit.reason.isSome = true ∧ circuit.resetAt = none ∧ circuit.resetBy = none) ∨
    (circuit.circuitOpen = false ∧ circuit.openedAt = none ∧ circuit.openedByRunId = none ∧
      circuit.reason = none ∧ circuit.resetAt = none ∧ circuit.resetBy = none) ∨
    (circuit.circuitOpen = false ∧ circuit.openedByRunId.isSome = true ∧ circuit.reason.isSome = true ∧
      circuit.resetBy.isSome = true ∧
      ∃ openedAt ∈ circuit.openedAt, ∃ resetAt ∈ circuit.resetAt, openedAt ≤ resetAt))

instance (circuit : Circuit) : Decidable circuit.Valid :=
  inferInstanceAs (Decidable (_ ∧ _))

/-- The constraint on the code of a region. -/
def IsRegionCode (code : String) : Prop := 1 ≤ code.utf8ByteSize ∧ code.utf8ByteSize ≤ 64 ∧ IsLabel code

instance (code : String) : Decidable (IsRegionCode code) := inferInstanceAs (Decidable (_ ∧ _))

/-- The constraint on a limit. -/
def RegionBudget.Valid (budget : RegionBudget) : Prop := 1 ≤ budget.dailyLimit ∧ budget.dailyLimit ≤ 5000

instance (budget : RegionBudget) : Decidable budget.Valid := inferInstanceAs (Decidable (_ ∧ _))

/-! ## Statements of a commit -/

/-- What a commit ends in. -/
inductive PersistOutcome
  | inserted
  | alreadyExists
  deriving DecidableEq

/-- Why a transaction fails. -/
inductive RepositoryError
  | slotConflict
  | unavailable
  deriving DecidableEq

/-- A value for a column of 32 bits. -/
def toI32 (value : ℕ) : Except RepositoryError ℕ := do
  ensure (value < 2 ^ 31) .unavailable
  return value

/-- A run is inserted unless its slot has one. -/
def insertRun (run : CollectionRun) (tables : Tables) : Except RepositoryError (Option Tables) := do
  ensure run.Starts .unavailable
  ensure run.Valid .unavailable
  if tables.runs.any fun other => other.scheduledFor = run.scheduledFor then return none
  else return some { tables with runs := tables.runs ++ [run] }

/-- A measurement of a known monitor is appended to a running run, in its slot and once. -/
def insertMeasurement (runId : ℕ) (tables : Tables) (measurement : MeasurementRecord) :
    Except RepositoryError Tables := do
  let run ← context (tables.runs.find? fun run => run.id = runId) .unavailable
  ensure (run.status = .running) .unavailable
  ensure (run.scheduledFor ≤ measurement.observedAt ∧ measurement.observedAt < run.scheduledFor + slotMicros)
    .unavailable
  ensure (MeasurementRow.Valid ⟨runId, measurement⟩) .unavailable
  ensure (measurement.monitorId ∈ tables.monitors) .unavailable
  ensure (¬ tables.measurements.any fun row =>
    row.runId = runId ∧ row.measurement.monitorId = measurement.monitorId) .unavailable
  return { tables with measurements := tables.measurements ++ [⟨runId, measurement⟩] }

/-- A running run opens a closed circuit; an open one stays as it is. -/
def openOzonCollectorCircuit (runId : ℕ) (reason : CircuitReason) (now : ℤ) (tables : Tables) :
    Except RepositoryError Tables := do
  ensure (tables.runs.any fun run => run.id = runId ∧ run.status = .running) .unavailable
  let opened : Circuit := {
    circuitOpen := true, openedAt := some now, openedByRunId := some runId, reason := some reason }
  if tables.circuit.circuitOpen then return tables
  else do
    ensure opened.Valid .unavailable
    return { tables with circuit := opened }

/-- The run of an id is replaced by what it may become. -/
def updateRun (runId : ℕ) (update : CollectionRun → CollectionRun) (tables : Tables) :
    Except RepositoryError Tables := do
  ensure ((tables.runs.filter fun run => run.id = runId).all fun run =>
    run.MayBecome (update run) ∧ (update run).Valid) .unavailable
  return { tables with runs := tables.runs.map fun run => if run.id = runId then update run else run }

/-! ## Commits -/

/-- The run that a payload begins. -/
def startedRun (runId : ℕ) (digest : String) (batch : PersistenceBatch) : CollectionRun where
  id := runId
  scheduledFor := timestampMicros batch.scheduledFor
  startedAt := timestampMicros batch.startedAt
  finishedAt := none
  status := .running
  monitorsPlanned := batch.monitorsPlanned
  monitorsAttempted := 0
  monitorsSucceeded := 0
  queriesPlanned := batch.queriesPlanned
  queriesAttempted := 0
  queriesSucceeded := 0
  errorClass := none
  httpStatus := none
  collectorVersion := batch.collectorVersion
  payloadDigest := digest

/-- What a payload makes of a run. -/
def endRun (batch : PersistenceBatch) (run : CollectionRun) : CollectionRun :=
  { run with
    finishedAt := some (timestampMicros batch.finishedAt)
    status := .ended batch.status
    monitorsAttempted := batch.monitorsAttempted
    monitorsSucceeded := batch.monitorsSucceeded
    queriesAttempted := batch.queriesAttempted
    queriesSucceeded := batch.queriesSucceeded
    errorClass := batch.errorClass
    httpStatus := batch.httpStatus }

/-- The slot is taken: by the same payload or by another one. -/
def finishExisting (scheduledFor : ℤ) (digest : String) (tables : Tables) :
    Except RepositoryError (PersistOutcome × Tables) := do
  ensure ((tables.runs.find? fun run => run.scheduledFor = scheduledFor).any fun run =>
    run.payloadDigest = digest) .slotConflict
  return (.alreadyExists, tables)

/-- The rest of a commit whose run was inserted. -/
def finishInserted (now : ℤ) (runId : ℕ) (batch : PersistenceBatch) (tables : Tables) :
    Except RepositoryError (PersistOutcome × Tables) := do
  let tables ← (batch.measurements.map MeasurementRecord.kept).foldlM (insertMeasurement runId) tables
  let tables ← match batch.circuitReason with
    | some reason => openOzonCollectorCircuit runId reason now tables
    | none => .ok tables
  let _ ← toI32 batch.monitorsAttempted
  let _ ← toI32 batch.monitorsSucceeded
  let _ ← toI32 batch.queriesAttempted
  let _ ← toI32 batch.queriesSucceeded
  let tables ← updateRun runId (endRun batch) tables
  return (.inserted, tables)

/-- **The transaction of a payload.** -/
def persistInner (sha256 : Bytes → Bytes) (now : ℤ) (runId : ℕ) (batch : PersistenceBatch) (tables : Tables) :
    Except RepositoryError (PersistOutcome × Tables) := do
  let digest := payloadDigest sha256 batch
  let _ ← toI32 batch.monitorsPlanned
  let _ ← toI32 batch.queriesPlanned
  let inserted ← insertRun (startedRun runId digest batch) tables
  match inserted with
  | none => finishExisting (timestampMicros batch.scheduledFor) digest tables
  | some tables => finishInserted now runId batch tables

/-! ## Requests -/

/-- A day in microseconds. -/
def microsPerDay : ℤ := 24 * 60 * 60 * 1000000

/-- **One request of a region on the day of a slot**, unless its budget is used up or the circuit is open. -/
def claimOzonRequestBudget (requestedRegionCode : Option String) (requestedSlot : Option ℤ) (tables : Tables) :
    Bool × Tables :=
  match requestedRegionCode, requestedSlot with
  | some region, some slot =>
    if ¬ (IsRegionCode region ∧ slot % slotMicros = 0) then (false, tables)
    else if tables.circuit.circuitOpen then (false, tables)
    else
      match (tables.budgets region).filter RegionBudget.active with
      | none => (false, tables)
      | some budget =>
        let key := (slot / microsPerDay, region)
        if tables.usage key = 0 ∨ tables.usage key < budget.dailyLimit then
          (true, { tables with usage := Function.update tables.usage key (tables.usage key + 1) })
        else (false, tables)
  | _, _ => (false, tables)

/-! ## Runs of the database -/

/-- The tables, and the next id of a run; an id is used once, whether its transaction commits or not. -/
structure Database where
  tables : Tables := {}
  nextRunId : ℕ := 1

/-- What collectors and operators do. -/
inductive Operation
  | persist (now : ℤ) (batch : PersistenceBatch)
  | claim (regionCode : Option String) (slot : Option ℤ)
  | resetCircuit (resetAt : ℤ) (resetBy : String)
  | setBudget (regionCode : String) (budget : RegionBudget)
  | addMonitor (id : ℤ)

/-- What an operation answers. -/
inductive Answer
  | persisted (result : Except RepositoryError PersistOutcome)
  | claimed (granted : Bool)
  | done (accepted : Bool)
  deriving DecidableEq

/-- An operator closes the circuit and leaves a name. -/
def resetCircuit (resetAt : ℤ) (resetBy : String) (tables : Tables) : Bool × Tables :=
  let circuit := { tables.circuit with circuitOpen := false, resetAt := some resetAt, resetBy := some resetBy }
  if circuit.Valid then (true, { tables with circuit }) else (false, tables)

/-- Give a region a budget that satisfies the constraints. -/
def setBudget (regionCode : String) (budget : RegionBudget) (tables : Tables) : Bool × Tables :=
  if IsRegionCode regionCode ∧ budget.Valid then
    (true, { tables with budgets := Function.update tables.budgets regionCode (some budget) })
  else (false, tables)

/-- **One operation.** -/
def Database.step (sha256 : Bytes → Bytes) (db : Database) : Operation → Answer × Database
  | .persist now batch =>
    match persistInner sha256 now db.nextRunId batch db.tables with
    | .ok (outcome, tables) => (.persisted (.ok outcome), ⟨tables, db.nextRunId + 1⟩)
    | .error error => (.persisted (.error error), { db with nextRunId := db.nextRunId + 1 })
  | .claim regionCode slot =>
    let (granted, tables) := claimOzonRequestBudget regionCode slot db.tables
    (.claimed granted, { db with tables })
  | .resetCircuit resetAt resetBy =>
    let (accepted, tables) := resetCircuit resetAt resetBy db.tables
    (.done accepted, { db with tables })
  | .setBudget regionCode budget =>
    let (accepted, tables) := setBudget regionCode budget db.tables
    (.done accepted, { db with tables })
  | .addMonitor id => (.done true, { db with tables := { db.tables with monitors := id :: db.tables.monitors } })

/-- The answers to some operations, and the database after them. -/
def Database.run (sha256 : Bytes → Bytes) : Database → List Operation → List Answer × Database
  | db, [] => ([], db)
  | db, operation :: operations =>
    let (answer, db) := db.step sha256 operation
    let (answers, db) := db.run sha256 operations
    (answer :: answers, db)

end AdsControl.Position
