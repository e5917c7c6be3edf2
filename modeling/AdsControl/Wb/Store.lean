import AdsControl.Wb.Intent

/-!
# The durable store of one campaign

One execution-state row, the action attempts by idempotency key and the observation cycles by cycle
id. Every operation is one transaction: it returns the next database or leaves it unchanged with an
error. The row triggers of the schema are part of the operations.

* `reserveAction`, `markWriteStarted`, `markAwaitingReadback`, `markApplied`, `resolveWithoutWrite`,
  `markIncidentWithoutAction`, `persistShadowCycle`, `loadPendingAction`;
* `stateTransitionAllowed`, `actionTransitionAllowed`: the triggers.
-/

namespace AdsControl.Wb

open Fallible

/-! ## Rows -/

/-- Why a transaction is refused. -/
inductive WbAutomationPostgresError
  | unavailable
  | invalidInput
  | stateChanged
  deriving DecidableEq

/-- The kinds of actions. -/
inductive WbAutomationDurableActionKind
  | changeBids
  | pauseCampaignForDailyCap
  | resumeCampaignAfterDailyCap
  deriving DecidableEq

/-- Where an action stands. -/
inductive WbAutomationDurableActionStatus
  | reserved
  | writeStarted
  | awaitingReadback
  | applied
  | reconciliationRequired
  | cancelled
  deriving DecidableEq

/-- An action that still occupies the campaign. -/
def WbAutomationDurableActionStatus.unresolved : WbAutomationDurableActionStatus → Bool
  | reserved | writeStarted | awaitingReadback | reconciliationRequired => true
  | applied | cancelled => false

/-- The execution-state row. -/
structure WbAutomationDatabaseState where
  policyDigest : String
  businessDate : ℤ
  actionsToday : ℕ
  lastActionAt : Option ℤ
  pausedForDailyCapOn : Option ℤ
  pendingIdempotencyKey : Option String
  incidentClass : Option String
  revision : ℕ
  importedLegacyDigest : Option String
  deriving DecidableEq

/-- One action attempt; `request` is the decoded request document. -/
structure WbAutomationDurableAction where
  idempotencyKey : String
  cycleId : String
  policyDigest : String
  requestDigest : String
  actionKind : WbAutomationDurableActionKind
  request : PendingActionKind
  status : WbAutomationDurableActionStatus
  reservedAt : ℤ
  writeStartedAt : Option ℤ
  resolvedAt : Option ℤ
  readbackCycleId : Option String
  lastErrorClass : Option String
  deriving DecidableEq

/-- One persisted observation; `snapshot` is the decoded snapshot document. -/
structure WbAutomationCycle where
  cycleId : String
  policyDigest : String
  observedAt : ℤ
  businessDate : ℤ
  stateRevision : ℕ
  snapshot : WbAutomationSnapshot
  deriving DecidableEq

/-- The action that a cycle wants to reserve. -/
structure WbAutomationActionReservation where
  idempotencyKey : String
  cycleId : String
  policyDigest : String
  requestDigest : String
  actionKind : WbAutomationDurableActionKind
  request : PendingActionKind
  businessDate : ℤ
  expectedStateRevision : ℕ
  maxActionsPerDay : ℕ

/-- The tables of one campaign. -/
structure Database where
  state : WbAutomationDatabaseState
  actions : String → Option WbAutomationDurableAction
  cycles : String → Option WbAutomationCycle
  /-- One-time quota override authorizations already consumed. -/
  authorizations : List String

/-! ## Triggers -/

/-- The status of the action a key points to. -/
def Database.statusOf (db : Database) (key : Option String) :
    Option WbAutomationDurableActionStatus :=
  (key.bind db.actions).map (·.status)

/-- The row trigger on the execution state, for the writer role. The pending action is looked up in
`db`, the database after the action row was written. -/
def stateTransitionAllowed (db : Database) (old new : WbAutomationDatabaseState) : Bool :=
  let resumed := old.pendingIdempotencyKey.isSome && new.pendingIdempotencyKey.isNone &&
    ((old.pendingIdempotencyKey.bind db.actions).any fun action =>
      action.status == .applied && action.actionKind == .resumeCampaignAfterDailyCap)
  let identity := old.importedLegacyDigest == new.importedLegacyDigest &&
    decide (old.businessDate ≤ new.businessDate) && new.revision == old.revision + 1 &&
    (old.lastActionAt.all fun last => new.lastActionAt.any fun next => last ≤ next) &&
    (old.incidentClass.isNone || new.incidentClass == old.incidentClass)
  let migration := new.policyDigest == old.policyDigest ||
    (new.businessDate == old.businessDate && new.actionsToday == old.actionsToday &&
      new.lastActionAt == old.lastActionAt &&
      new.pausedForDailyCapOn == old.pausedForDailyCapOn &&
      new.pendingIdempotencyKey == old.pendingIdempotencyKey &&
      new.incidentClass == old.incidentClass)
  let carried := if old.businessDate < new.businessDate then 0 else old.actionsToday
  let pending := match old.pendingIdempotencyKey, new.pendingIdempotencyKey with
    | none, some key => db.statusOf (some key) == some .reserved && old.incidentClass.isNone &&
        new.incidentClass.isNone && new.lastActionAt == (db.actions key).map (·.reservedAt)
    | some key, some key' => key == key'
    | some key, none => db.statusOf (some key) == some .applied ||
        db.statusOf (some key) == some .cancelled
    | none, none => true
  let expected := match old.pendingIdempotencyKey, new.pendingIdempotencyKey with
    | none, some _ => carried + 1
    | _, _ => carried
  (old.pausedForDailyCapOn.isNone || new.pausedForDailyCapOn.isSome || resumed) && identity &&
    migration && pending && new.actionsToday == expected &&
    (new.pausedForDailyCapOn.all fun day => day ≤ new.businessDate) &&
    decide (new.actionsToday ≤ 500)

/-- The row trigger on an action update, for the writer role. -/
def actionTransitionAllowed (old new : WbAutomationDurableAction) : Bool :=
  match old.status, new.status with
  | .reserved, .writeStarted => true
  | .reserved, .cancelled => new.lastErrorClass.isSome
  | .writeStarted, .cancelled =>
    new.lastErrorClass == some "write_not_sent" && new.readbackCycleId.isNone
  | .writeStarted, .awaitingReadback => true
  | .writeStarted, .reconciliationRequired => new.lastErrorClass.isSome
  | .awaitingReadback, .reconciliationRequired => new.lastErrorClass.isSome
  | .writeStarted, .applied => new.readbackCycleId.isSome
  | .awaitingReadback, .applied => new.readbackCycleId.isSome
  | .reconciliationRequired, .applied => new.readbackCycleId.isSome
  | _, _ => false

/-- The timestamps the action trigger stamps on an update. -/
def stampAction (now : ℤ) (old new : WbAutomationDurableAction) : WbAutomationDurableAction :=
  match new.status with
  | .writeStarted => { new with
      writeStartedAt := some now, resolvedAt := none, readbackCycleId := none,
      lastErrorClass := none }
  | .cancelled => { new with writeStartedAt := old.writeStartedAt, resolvedAt := some now }
  | .awaitingReadback => { new with
      writeStartedAt := old.writeStartedAt, resolvedAt := none, readbackCycleId := none,
      lastErrorClass := none }
  | .reconciliationRequired => { new with
      writeStartedAt := old.writeStartedAt, resolvedAt := none }
  | .applied => { new with
      writeStartedAt := old.writeStartedAt, resolvedAt := some now, lastErrorClass := none }
  | .reserved => new

/-- Update one action row through its trigger. -/
def Database.updateAction (db : Database) (now : ℤ) (old new : WbAutomationDurableAction) :
    Except WbAutomationPostgresError Database := do
  ensure (actionTransitionAllowed old new) .unavailable
  return { db with
    actions := Function.update db.actions old.idempotencyKey (some (stampAction now old new)) }

/-- Update the execution-state row through its trigger. -/
def Database.updateState (db : Database) (new : WbAutomationDatabaseState) :
    Except WbAutomationPostgresError Database := do
  ensure (stateTransitionAllowed db db.state new) .unavailable
  return { db with state := new }

/-! ## Observation cycles -/

/-- Persist one observation under the exact state revision. A repeated cycle id is accepted only for
the same row. -/
def persistShadowCycle (db : Database) (cycle : WbAutomationCycle) :
    Except WbAutomationPostgresError (Database × Bool) := do
  ensure (db.state.revision = cycle.stateRevision ∧ db.state.policyDigest = cycle.policyDigest)
    .stateChanged
  match db.cycles cycle.cycleId with
  | some existing => do
    ensure (existing = cycle) .stateChanged
    return (db, false)
  | none =>
    return ({ db with cycles := Function.update db.cycles cycle.cycleId (some cycle) }, true)

/-- Whether a persisted cycle carries these values. -/
def Database.cycleMatches (db : Database) (cycleId : String) (p : WbAutomationCycle → Bool) :
    Bool :=
  (db.cycles cycleId).any p

/-! ## Reading the pending action -/

/-- The action is the pending one of this revision. -/
def verifyPendingState (db : Database) (idempotencyKey : String) (expectedRevision : ℕ) :
    Except WbAutomationPostgresError Unit :=
  ensure (db.state.revision = expectedRevision ∧
    db.state.pendingIdempotencyKey = some idempotencyKey) .stateChanged

/-- The row of an action. -/
def loadActionInTransaction (db : Database) (idempotencyKey : String) :
    Except WbAutomationPostgresError WbAutomationDurableAction :=
  context (db.actions idempotencyKey) .stateChanged

/-- The row of the pending action. -/
def loadPendingAction (db : Database) (idempotencyKey : String) (expectedStateRevision : ℕ) :
    Except WbAutomationPostgresError WbAutomationDurableAction := do
  verifyPendingState db idempotencyKey expectedStateRevision
  loadActionInTransaction db idempotencyKey

/-! ## Reservation -/

/-- What a reservation left. -/
structure WbAutomationReservationReceipt where
  inserted : Bool
  stateRevision : ℕ
  action : WbAutomationDurableAction

/-- The row is the one that the reservation would insert. -/
def actionMatchesReservation (action : WbAutomationDurableAction)
    (reservation : WbAutomationActionReservation) : Bool :=
  action.idempotencyKey == reservation.idempotencyKey && action.cycleId == reservation.cycleId &&
    action.policyDigest == reservation.policyDigest &&
    action.requestDigest == reservation.requestDigest &&
    action.actionKind == reservation.actionKind && action.request == reservation.request

/-- The freshly inserted action row. -/
def reservedAction (now : ℤ) (reservation : WbAutomationActionReservation) :
    WbAutomationDurableAction where
  idempotencyKey := reservation.idempotencyKey
  cycleId := reservation.cycleId
  policyDigest := reservation.policyDigest
  requestDigest := reservation.requestDigest
  actionKind := reservation.actionKind
  request := reservation.request
  status := .reserved
  reservedAt := now
  writeStartedAt := none
  resolvedAt := none
  readbackCycleId := none
  lastErrorClass := none

/-- The quota rule: an ordinary action needs room, an override an exhausted quota. -/
def quotaAllows (actionsBefore maxActions : ℕ) : Option String → Bool
  | none => decide (actionsBefore < maxActions)
  | some _ => decide (maxActions ≤ actionsBefore ∧ actionsBefore < 500)

/-- Reserve one exact marketplace mutation, advance the campaign state and consume the override
authorization, if any. Replaying the pending key returns the stored action. -/
def reserveActionWithQuotaOverride (db : Database) (now : ℤ)
    (reservation : WbAutomationActionReservation) (quotaOverrideAuthorization : Option String) :
    Except WbAutomationPostgresError (Database × WbAutomationReservationReceipt) :=
  if db.state.pendingIdempotencyKey = some reservation.idempotencyKey then do
    let existing ← loadActionInTransaction db reservation.idempotencyKey
    ensure (actionMatchesReservation existing reservation) .stateChanged
    return (db, ⟨false, db.state.revision, existing⟩)
  else do
    ensure (db.state.revision = reservation.expectedStateRevision ∧
      db.state.policyDigest = reservation.policyDigest ∧
      db.state.pendingIdempotencyKey = none ∧ db.state.incidentClass = none) .stateChanged
    ensure (db.state.businessDate ≤ reservation.businessDate) .stateChanged
    let actionsBefore := if db.state.businessDate < reservation.businessDate then 0
      else db.state.actionsToday
    ensure (quotaAllows actionsBefore reservation.maxActionsPerDay quotaOverrideAuthorization)
      .stateChanged
    ensure (db.cycleMatches reservation.cycleId fun cycle =>
      cycle.policyDigest == reservation.policyDigest &&
        cycle.businessDate == reservation.businessDate &&
        cycle.stateRevision == reservation.expectedStateRevision) .stateChanged
    -- the idempotency key is the primary key of the action table
    ensure (db.actions reservation.idempotencyKey = none) .stateChanged
    let action := reservedAction now reservation
    let inserted := { db with
      actions := Function.update db.actions reservation.idempotencyKey (some action) }
    let updated ← inserted.updateState { db.state with
      businessDate := reservation.businessDate
      actionsToday := actionsBefore + 1
      lastActionAt := some now
      pendingIdempotencyKey := some reservation.idempotencyKey
      revision := reservation.expectedStateRevision + 1 }
    let consumed ← consumeAuthorization updated quotaOverrideAuthorization
    return (consumed, ⟨true, reservation.expectedStateRevision + 1, action⟩)
where
  /-- The audit event of an override is unique for its authorization. -/
  consumeAuthorization (db : Database) :
      Option String → Except WbAutomationPostgresError Database
    | none => .ok db
    | some authorization =>
      if authorization ∈ db.authorizations then .error .stateChanged
      else .ok { db with authorizations := authorization :: db.authorizations }

/-! ## Transitions of the pending action -/

/-- Move the pending action from one status to the next; the execution state stays. The result says
whether the row changed. -/
def transitionWithoutStateChange (db : Database) (now : ℤ) (idempotencyKey : String)
    (expectedStateRevision : ℕ) (source target : WbAutomationDurableActionStatus) :
    Except WbAutomationPostgresError (Database × Bool) := do
  verifyPendingState db idempotencyKey expectedStateRevision
  let action ← loadActionInTransaction db idempotencyKey
  if action.status = target then return (db, false)
  else
    ensure (action.status = source) .stateChanged
    let updated ← db.updateAction now action { action with status := target }
    return (updated, true)

/-- Record the start of the write before it is sent. -/
def markWriteStarted (db : Database) (now : ℤ) (idempotencyKey : String)
    (expectedStateRevision : ℕ) : Except WbAutomationPostgresError (Database × Bool) :=
  transitionWithoutStateChange db now idempotencyKey expectedStateRevision .reserved .writeStarted

/-- Record that the write was sent. -/
def markAwaitingReadback (db : Database) (now : ℤ) (idempotencyKey : String)
    (expectedStateRevision : ℕ) : Except WbAutomationPostgresError (Database × Bool) :=
  transitionWithoutStateChange db now idempotencyKey expectedStateRevision .writeStarted
    .awaitingReadback

/-! ## Resolutions -/

/-- How an action ends without an applied write. -/
inductive ResolutionKind
  | cancelled
  | notSent
  | reconciliationRequired
  deriving DecidableEq

namespace ResolutionKind

/-- Where it leaves the action. -/
def status : ResolutionKind → WbAutomationDurableActionStatus
  | cancelled | notSent => .cancelled
  | reconciliationRequired => .reconciliationRequired

/-- The statuses a resolution may start from. -/
def validSource : ResolutionKind → WbAutomationDurableActionStatus → Bool
  | cancelled, status => status == .reserved
  | notSent, status => status == .reserved || status == .writeStarted
  | reconciliationRequired, status => status == .writeStarted || status == .awaitingReadback

/-- The state a replayed resolution must find. -/
def replayMatches (resolution : ResolutionKind) (state : WbAutomationDatabaseState)
    (idempotencyKey errorClass : String) : Bool :=
  match resolution with
  | cancelled | notSent => state.pendingIdempotencyKey.isNone
  | reconciliationRequired => state.pendingIdempotencyKey == some idempotencyKey &&
      state.incidentClass == some errorClass

/-- The execution state after the resolution. -/
def resolvedState (resolution : ResolutionKind) (state : WbAutomationDatabaseState)
    (errorClass : String) : WbAutomationDatabaseState :=
  match resolution with
  | cancelled | notSent =>
    { state with pendingIdempotencyKey := none, revision := state.revision + 1 }
  | reconciliationRequired =>
    { state with incidentClass := some errorClass, revision := state.revision + 1 }

end ResolutionKind

/-- What a transition left. -/
structure WbAutomationStateTransitionReceipt where
  changed : Bool
  stateRevision : ℕ

/-- End an action without an applied write. -/
def resolveWithoutWrite (db : Database) (now : ℤ) (idempotencyKey : String)
    (expectedStateRevision : ℕ) (errorClass : String) (resolution : ResolutionKind) :
    Except WbAutomationPostgresError (Database × WbAutomationStateTransitionReceipt) := do
  let action ← loadActionInTransaction db idempotencyKey
  if action.status = resolution.status then
    ensure (action.lastErrorClass = some errorClass ∧
      db.state.revision = expectedStateRevision + 1 ∧
      resolution.replayMatches db.state idempotencyKey errorClass) .stateChanged
    return (db, ⟨false, expectedStateRevision + 1⟩)
  else
    verifyPendingState db idempotencyKey expectedStateRevision
    ensure (resolution.validSource action.status) .stateChanged
    let acted ← db.updateAction now action
      { action with status := resolution.status, lastErrorClass := some errorClass }
    let updated ← acted.updateState (resolution.resolvedState db.state errorClass)
    return (updated, ⟨true, expectedStateRevision + 1⟩)

/-- Cancel an action whose write never started. -/
def cancelReserved (db : Database) (now : ℤ) (idempotencyKey : String)
    (expectedStateRevision : ℕ) (errorClass : String) :
    Except WbAutomationPostgresError (Database × WbAutomationStateTransitionReceipt) :=
  resolveWithoutWrite db now idempotencyKey expectedStateRevision errorClass .cancelled

/-- Cancels only a live call that proved no HTTP request was dispatched. -/
def cancelNotSent (db : Database) (now : ℤ) (idempotencyKey : String)
    (expectedStateRevision : ℕ) :
    Except WbAutomationPostgresError (Database × WbAutomationStateTransitionReceipt) :=
  resolveWithoutWrite db now idempotencyKey expectedStateRevision "write_not_sent" .notSent

/-- Leave an action to an operator. -/
def markReconciliationRequired (db : Database) (now : ℤ) (idempotencyKey : String)
    (expectedStateRevision : ℕ) (errorClass : String) :
    Except WbAutomationPostgresError (Database × WbAutomationStateTransitionReceipt) :=
  resolveWithoutWrite db now idempotencyKey expectedStateRevision errorClass
    .reconciliationRequired

/-! ## Application -/

/-- Whether the date of the pause fits the kind of action. -/
def pauseShapeMatches (state : WbAutomationDatabaseState) (pausedOn : Option ℤ) :
    WbAutomationDurableActionKind → Bool
  | .changeBids | .resumeCampaignAfterDailyCap => pausedOn.isNone
  | .pauseCampaignForDailyCap => pausedOn.any fun day => day ≤ state.businessDate

/-- Whether a repeated call names the date that is stored. -/
def appliedReplayPauseStateMatches (kind : WbAutomationDurableActionKind)
    (requested persisted : Option ℤ) : Bool :=
  match kind with
  | .changeBids => true
  | .pauseCampaignForDailyCap => persisted == requested
  | .resumeCampaignAfterDailyCap => persisted.isNone

/-- The execution state after an applied action. -/
def appliedState (state : WbAutomationDatabaseState) (pausedOn : Option ℤ) :
    WbAutomationDurableActionKind → WbAutomationDatabaseState
  | .changeBids => { state with pendingIdempotencyKey := none, revision := state.revision + 1 }
  | .pauseCampaignForDailyCap => { state with
      pendingIdempotencyKey := none, pausedForDailyCapOn := pausedOn,
      revision := state.revision + 1 }
  | .resumeCampaignAfterDailyCap => { state with
      pendingIdempotencyKey := none, pausedForDailyCapOn := none, revision := state.revision + 1 }

/-- Record that a readback shows the action. -/
def markApplied (db : Database) (now : ℤ) (idempotencyKey : String) (expectedStateRevision : ℕ)
    (readbackCycleId : String) (pausedForDailyCapOn : Option ℤ) :
    Except WbAutomationPostgresError (Database × WbAutomationStateTransitionReceipt) := do
  let action ← loadActionInTransaction db idempotencyKey
  ensure (pauseShapeMatches db.state pausedForDailyCapOn action.actionKind) .invalidInput
  if action.status = .applied then
    ensure (action.readbackCycleId = some readbackCycleId ∧
      db.state.revision = expectedStateRevision + 1 ∧ db.state.pendingIdempotencyKey = none ∧
      appliedReplayPauseStateMatches action.actionKind pausedForDailyCapOn
        db.state.pausedForDailyCapOn) .stateChanged
    return (db, ⟨false, expectedStateRevision + 1⟩)
  else
    verifyPendingState db idempotencyKey expectedStateRevision
    ensure (action.status = .writeStarted ∨ action.status = .awaitingReadback ∨
      action.status = .reconciliationRequired) .stateChanged
    ensure (db.cycleMatches readbackCycleId fun cycle =>
      cycle.policyDigest == action.policyDigest && cycle.cycleId != action.cycleId &&
        cycle.stateRevision == expectedStateRevision) .stateChanged
    let acted ← db.updateAction now action { action with
      status := .applied, readbackCycleId := some readbackCycleId, lastErrorClass := none }
    let updated ← acted.updateState (appliedState db.state pausedForDailyCapOn action.actionKind)
    return (updated, ⟨true, expectedStateRevision + 1⟩)

/-! ## Incident without an action -/

/-- Lock the campaign although nothing is pending. -/
def markIncidentWithoutAction (db : Database) (cycleId : String) (expectedStateRevision : ℕ)
    (businessDate : ℤ) (incidentClass : String) :
    Except WbAutomationPostgresError (Database × WbAutomationStateTransitionReceipt) := do
  ensure (db.state.revision = expectedStateRevision ∧ db.state.pendingIdempotencyKey = none ∧
    db.state.incidentClass = none ∧ db.state.businessDate ≤ businessDate) .stateChanged
  ensure (db.cycleMatches cycleId fun cycle => cycle.businessDate == businessDate &&
    cycle.stateRevision == expectedStateRevision) .stateChanged
  let updated ← db.updateState { db.state with
    businessDate := businessDate
    actionsToday := if db.state.businessDate < businessDate then 0 else db.state.actionsToday
    incidentClass := some incidentClass
    revision := expectedStateRevision + 1 }
  return (updated, ⟨true, expectedStateRevision + 1⟩)

end AdsControl.Wb
