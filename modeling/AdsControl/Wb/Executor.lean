import AdsControl.Wb.Store
import AdsControl.Lib.Run

/-!
# The PostgreSQL executor

One cycle loads the execution state, observes and decides, persists the observation and then takes
exactly one branch: reconcile the pending action, stay locked, lock on a breached daily cap, or
reserve and send one mutation. Only store transactions and the HTTP send are visible from outside,
so they are the steps of the executor; a crash or a failed transaction ends the cycle between any
two of them. The campaign lease makes the cycles of one campaign sequential.

* `decideCycle`, `planCycle`, `reconcilePostgresPending`: the branches of a cycle;
* `Step`, `executor`: the transition system over databases, phases and the trace of a campaign.
-/

namespace AdsControl.Wb

open Fallible

/-! ## Decision and plan -/

/-- The digests of a cycle, as functions of the documents they are taken over. -/
structure CycleDigests where
  cycleId : WbAutomationSnapshot → String
  requestDigest : PendingActionKind → String
  idempotencyKey : String → String → Option String → String

/-- The configuration of one executor. -/
structure Executor where
  policy : WbAutomationPolicy
  policySha256 : String
  legacyDigest : String
  digests : CycleDigests

/-- The actions already counted against the business day of this cycle. -/
def stateActionsToday (state : WbAutomationDatabaseState) (businessDate : ℤ) : ℕ :=
  if state.businessDate = businessDate then state.actionsToday else 0

/-- The read of the marketplace completed with the durable counters. -/
def observeWith (state : WbAutomationDatabaseState) (raw : WbAutomationObservation) :
    WbAutomationObservation :=
  let businessDate := wbAutomationBusinessDate raw.observedAt
  { raw with
    pausedByAutomation := state.pausedForDailyCapOn.any fun day => day < businessDate
    actionsToday := stateActionsToday state businessDate
    lastActionAt := state.lastActionAt }

/-- Observe, evaluate and apply the intent. -/
def decideCycle (ex : Executor) (state : WbAutomationDatabaseState) (raw : WbAutomationObservation)
    (intent : PostgresExecutionIntent) (lastAppliedSnapshot : Option WbAutomationSnapshot) :
    Except String WbAutomationSnapshot := do
  ensure ex.policy.writeEnabled "PostgreSQL executor refuses a shadow-only policy"
  ensure (state.policyDigest = ex.policySha256 ∧ state.importedLegacyDigest = some ex.legacyDigest)
    "WB automation PostgreSQL state does not match policy or legacy seed"
  ensure (intent = .automatic ∨
      state.pendingIdempotencyKey = none ∧ state.incidentClass = none)
    "WB explicit action requires clean durable state"
  ensure (intent ≠ .explicitResumeAfterDailyCap ∨ state.pausedForDailyCapOn.any fun day =>
      day < wbAutomationBusinessDate raw.observedAt)
    "WB explicit resume requires a durable prior-day automation pause"
  let observation := observeWith state raw
  let decision ← (evaluateWbAutomation ex.policy observation).mapError
    WbAutomationDecisionError.message
  applyPostgresExecutionIntent ex.policy ⟨observation, decision⟩ intent
    (if ex.policy.autonomousPacing.usesTrafficFrontier then lastAppliedSnapshot else none)

/-- Spend at or above the cap locks the campaign, unless the pause can still be reserved. -/
def dailyCapBreachRequiresLock (policy : WbAutomationPolicy) (observation : WbAutomationObservation)
    (decision : WbAutomationDecision) (pauseCanBeReserved : Bool) : Bool :=
  decide (policy.dailySpendCapMinor ≤ observation.dailySpendMinor) &&
    !(pauseCanBeReserved && decision.action == .pauseCampaignForDailyCap)

/-- What a cycle does once its observation is persisted. -/
inductive CyclePlan
  | reconcile (idempotencyKey : String)
  | finish
  | lock
  | reserve (pending : PendingAction)
  deriving DecidableEq

/-- What a cycle does after its observation is stored. -/
def planCycle (policy : WbAutomationPolicy) (state : WbAutomationDatabaseState)
    (snapshot : WbAutomationSnapshot) (intent : PostgresExecutionIntent) : CyclePlan :=
  match state.pendingIdempotencyKey with
  | some idempotencyKey => .reconcile idempotencyKey
  | none =>
    if state.incidentClass.isSome then .finish
    else if intent ≠ .explicitBidCapRepair ∧
        dailyCapBreachRequiresLock policy snapshot.observation snapshot.decision
          (decide (stateActionsToday state
            (wbAutomationBusinessDate snapshot.observation.observedAt) <
              policy.maxActionsPerDay)) then .lock
    else
      match pendingFromDecision snapshot.decision.action snapshot.observation policy.minBidKopecks
          snapshot.observation.observedAt with
      | none => .finish
      | some pending => .reserve pending

/-- The cycle row of a decided snapshot. -/
def cycleRow (ex : Executor) (state : WbAutomationDatabaseState) (snapshot : WbAutomationSnapshot) :
    WbAutomationCycle where
  cycleId := ex.digests.cycleId snapshot
  policyDigest := ex.policySha256
  observedAt := snapshot.observation.observedAt
  businessDate := wbAutomationBusinessDate snapshot.observation.observedAt
  stateRevision := state.revision
  snapshot := snapshot

/-- The stored kind of an action. -/
def durableActionKind : PendingActionKind → WbAutomationDurableActionKind
  | .changeBids _ => .changeBids
  | .pauseCampaignForDailyCap => .pauseCampaignForDailyCap
  | .resumeCampaignAfterDailyCap => .resumeCampaignAfterDailyCap

/-- The reservation of a pending action. -/
def reservationFor (ex : Executor) (state : WbAutomationDatabaseState)
    (snapshot : WbAutomationSnapshot) (pending : PendingAction)
    (quotaOverrideAuthorization : Option String) : WbAutomationActionReservation :=
  let cycleId := ex.digests.cycleId snapshot
  let requestDigest := ex.digests.requestDigest pending.kind
  { idempotencyKey :=
      ex.digests.idempotencyKey cycleId requestDigest quotaOverrideAuthorization
    cycleId := cycleId
    policyDigest := ex.policySha256
    requestDigest := requestDigest
    actionKind := durableActionKind pending.kind
    request := pending.kind
    businessDate := wbAutomationBusinessDate snapshot.observation.observedAt
    expectedStateRevision := state.revision
    maxActionsPerDay := ex.policy.maxActionsPerDay }

/-! ## Reconciliation of the pending action -/

/-- How long a sent write may stay invisible. -/
def readbackGrace : ℤ := seconds (5 * 60)

/-- The observation shows the new bid. -/
def bidChangeIsVisible (observation : WbAutomationObservation) (change : WbAutomationBidChange) :
    Bool :=
  (observation.skus.find? fun sku => sku.nmId == change.nmId).any fun sku =>
    sku.currentBidKopecks == change.toBidKopecks

/-- The observation shows the action. -/
def pendingIsVisible (observation : WbAutomationObservation) : PendingActionKind → Bool
  | .changeBids changes => changes.all (bidChangeIsVisible observation)
  | .pauseCampaignForDailyCap => observation.campaignStatus == 11
  | .resumeCampaignAfterDailyCap => observation.campaignStatus == 9

/-- The business date of a pause. -/
def durablePauseDate (pending : PendingAction) : Option ℤ :=
  match pending.kind with
  | .pauseCampaignForDailyCap => some (wbAutomationBusinessDate pending.reservedAt)
  | _ => none

/-- The action of a row. -/
def pendingFromDurableAction (action : WbAutomationDurableAction) : Except String PendingAction := do
  ensure (durableActionKind action.request = action.actionKind)
    "WB automation PostgreSQL action payload does not match its kind"
  return ⟨action.reservedAt, action.request⟩

/-- The message of a store error. -/
def WbAutomationPostgresError.message : WbAutomationPostgresError → String
  | unavailable => "WB automation PostgreSQL store is unavailable"
  | invalidInput => "WB automation PostgreSQL input is invalid"
  | stateChanged => "WB automation PostgreSQL state changed"

/-- Settle the pending action against a fresh observation, in at most one transaction. -/
def reconcilePostgresPending (db : Database) (now : ℤ) (observation : WbAutomationObservation)
    (action : WbAutomationDurableAction) (stateRevision : ℕ) (readbackCycleId : String) :
    Except String Database := do
  let pending ← pendingFromDurableAction action
  let commit {α : Type} (transaction : Except WbAutomationPostgresError (Database × α)) :
      Except String Database :=
    (transaction.map Prod.fst).mapError WbAutomationPostgresError.message
  if action.status = .reserved then
    commit (cancelReserved db now action.idempotencyKey stateRevision "write_not_started")
  else
    ensure (action.status ≠ .applied ∧ action.status ≠ .cancelled)
      "WB automation PostgreSQL pending action is already resolved"
    if pendingIsVisible observation pending.kind then
      commit (markApplied db now action.idempotencyKey stateRevision readbackCycleId
        (durablePauseDate pending))
    else if action.status = .reconciliationRequired then return db
    else
      let writeStartedAt ← context action.writeStartedAt
        "WB automation PostgreSQL write timestamp is unavailable"
      if observation.observedAt < writeStartedAt + readbackGrace then
        if action.status = .writeStarted then
          commit (markAwaitingReadback db now action.idempotencyKey stateRevision)
        else return db
      else commit (markReconciliationRequired db now action.idempotencyKey stateRevision
        "write_not_reconciled")

/-! ## Steps -/

/-- What came of a write. -/
inductive PostgresWriteResult
  | sent
  | notSent
  | ambiguous
  deriving DecidableEq

/-- Where the executor stands inside a cycle, with the values it holds. -/
inductive Phase
  | idle
  | decided (state : WbAutomationDatabaseState) (snapshot : WbAutomationSnapshot)
      (intent : PostgresExecutionIntent) (authorization : Option String)
  | persisted (state : WbAutomationDatabaseState) (snapshot : WbAutomationSnapshot)
      (intent : PostgresExecutionIntent) (authorization : Option String)
  | reserved (idempotencyKey : String) (revision : ℕ)
  | permitted (idempotencyKey : String) (revision : ℕ)
  | answered (idempotencyKey : String) (revision : ℕ) (result : PostgresWriteResult)

/-- What left the process or was committed, in order. -/
inductive Event
  | writeStarted (idempotencyKey : String)
  | sent (idempotencyKey : String)
  | classifiedNotSent (idempotencyKey : String)
  deriving DecidableEq

/-- The database, the executor and what was sent. -/
structure World where
  db : Database
  phase : Phase
  trace : List Event

/-- The transaction that settles the answer of the write client. -/
def settleWrite (db : Database) (now : ℤ) (idempotencyKey : String) (revision : ℕ) :
    PostgresWriteResult → Except WbAutomationPostgresError Database
  | .sent => (markAwaitingReadback db now idempotencyKey revision).map Prod.fst
  | .notSent => (cancelNotSent db now idempotencyKey revision).map Prod.fst
  | .ambiguous => (markReconciliationRequired db now idempotencyKey revision
      "write_result_ambiguous").map Prod.fst

/-- One step of the executor: a transaction, the HTTP send, a refusal of the write client before
the send, or a crash. -/
inductive Step (ex : Executor) : World → World → Prop
  | decide {db trace} (raw : WbAutomationObservation) (intent : PostgresExecutionIntent)
      (lastApplied : Option WbAutomationSnapshot) (authorization : Option String)
      {snapshot : WbAutomationSnapshot}
      (hauth : authorization.isSome = true ↔ intent = .explicitQuotaOverride)
      (h : decideCycle ex db.state raw intent lastApplied = .ok snapshot) :
      Step ex ⟨db, .idle, trace⟩ ⟨db, .decided db.state snapshot intent authorization, trace⟩
  | persist {db db' trace state snapshot intent authorization inserted}
      (h : persistShadowCycle db (cycleRow ex state snapshot) = .ok (db', inserted)) :
      Step ex ⟨db, .decided state snapshot intent authorization, trace⟩
        ⟨db', .persisted state snapshot intent authorization, trace⟩
  | reconcile {db db' trace state snapshot intent authorization key action} (now : ℤ)
      (hplan : planCycle ex.policy state snapshot intent = .reconcile key)
      (hload : loadPendingAction db key state.revision = .ok action)
      (h : reconcilePostgresPending db now snapshot.observation action state.revision
        (ex.digests.cycleId snapshot) = .ok db') :
      Step ex ⟨db, .persisted state snapshot intent authorization, trace⟩ ⟨db', .idle, trace⟩
  | finish {db trace state snapshot intent authorization}
      (hplan : planCycle ex.policy state snapshot intent = .finish) :
      Step ex ⟨db, .persisted state snapshot intent authorization, trace⟩ ⟨db, .idle, trace⟩
  | lock {db db' trace state snapshot intent authorization receipt}
      (hplan : planCycle ex.policy state snapshot intent = .lock)
      (h : markIncidentWithoutAction db (ex.digests.cycleId snapshot) state.revision
        (wbAutomationBusinessDate snapshot.observation.observedAt) "daily_spend_cap_breached" =
          .ok (db', receipt)) :
      Step ex ⟨db, .persisted state snapshot intent authorization, trace⟩ ⟨db', .idle, trace⟩
  | reserve {db db' trace state snapshot intent authorization pending receipt} (now : ℤ)
      (hplan : planCycle ex.policy state snapshot intent = .reserve pending)
      (h : reserveActionWithQuotaOverride db now
        (reservationFor ex state snapshot pending authorization) authorization =
          .ok (db', receipt)) :
      Step ex ⟨db, .persisted state snapshot intent authorization, trace⟩
        ⟨db', .reserved (reservationFor ex state snapshot pending authorization).idempotencyKey
          receipt.stateRevision, trace⟩
  /-- The request is invalid, or quota or authorization refuse it before the permit. -/
  | refuse {db trace key revision} :
      Step ex ⟨db, .reserved key revision, trace⟩
        ⟨db, .answered key revision .notSent, trace ++ [.classifiedNotSent key]⟩
  | permit {db db' trace key revision changed} (now : ℤ)
      (h : markWriteStarted db now key revision = .ok (db', changed)) :
      Step ex ⟨db, .reserved key revision, trace⟩
        ⟨db', .permitted key revision, if changed then trace ++ [.writeStarted key] else trace⟩
  /-- Quota or authorization refuse the request after the permit, still before the send. -/
  | refusePermitted {db trace key revision} :
      Step ex ⟨db, .permitted key revision, trace⟩
        ⟨db, .answered key revision .notSent, trace ++ [.classifiedNotSent key]⟩
  | send {db trace key revision} (result : PostgresWriteResult) (h : result ≠ .notSent) :
      Step ex ⟨db, .permitted key revision, trace⟩
        ⟨db, .answered key revision result, trace ++ [.sent key]⟩
  | settle {db db' trace key revision result} (now : ℤ)
      (h : settleWrite db now key revision result = .ok db') :
      Step ex ⟨db, .answered key revision result, trace⟩ ⟨db', .idle, trace⟩
  /-- The process dies or a transaction fails; the lease is released. -/
  | crash {db phase trace} : Step ex ⟨db, phase, trace⟩ ⟨db, .idle, trace⟩

/-- A clean campaign: an initialised state row, no action and no cycle yet. -/
def CleanStart (w : World) : Prop :=
  w.phase = .idle ∧ w.trace = [] ∧ w.db.state.pendingIdempotencyKey = none ∧
    w.db.state.incidentClass = none ∧ w.db.actions = fun _ => none

/-- The executor cycles of one campaign. -/
def executor (ex : Executor) : Transition.System World where
  init := CleanStart
  step := Step ex

end AdsControl.Wb
