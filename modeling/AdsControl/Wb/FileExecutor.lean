import AdsControl.Wb.Client
import AdsControl.Wb.Executor

/-!
# The file-backed executor

The execution state of a campaign is one private file. A cycle holds the lease of the directory, reads
the state, observes and decides, and then settles the pending action, stays locked, or reserves one
action, saves it and sends it.

* `ExecutionState`, `loadExecutionState`, `reconcilePending`: the state and its transitions;
* `runOnce`: one cycle, as a program over the files, the marketplace and the write client.
-/

namespace AdsControl.Wb

open Fallible Machine Interaction

/-! ## The state file -/

/-- The version of the file. -/
def stateSchemaVersion : ℕ := 1

/-- The content of the state file. -/
structure ExecutionState where
  schemaVersion : ℕ
  policySha256 : String
  accountId : String
  campaignId : ℕ
  businessDate : ℤ
  actionsToday : ℕ
  lastActionAt : Option ℤ
  pausedForDailyCapOn : Option ℤ
  pending : Option PendingAction
  incidentClass : Option String
  deriving DecidableEq

/-- What a cycle did. -/
inductive WbAutomationExecutionOutcome
  | observed
  | reservationCancelled
  | writeSentReconciliationRequired
  | awaitingReadback
  | reconciled
  | incidentLocked
  deriving DecidableEq

/-- The policy of an executor with its digest. -/
structure FilePolicy where
  policy : WbAutomationPolicy
  policySha256 : String

/-- The message for a state of another policy. -/
def stateMismatch : String := "WB automation execution state не соответствует policy"

/-- The stored state, or a first one. Only a shadow policy may take over the state of another. -/
def loadExecutionState (stored : Option ExecutionState) (policySha256 accountId : String)
    (campaignId : ℕ) (businessDate : ℤ) (allowShadowPolicyMigration : Bool) :
    Except String ExecutionState :=
  match stored with
  | none => .ok {
      schemaVersion := stateSchemaVersion
      policySha256 := policySha256
      accountId := accountId
      campaignId := campaignId
      businessDate := businessDate
      actionsToday := 0
      lastActionAt := none
      pausedForDailyCapOn := none
      pending := none
      incidentClass := none }
  | some state => do
    ensure (state.schemaVersion = stateSchemaVersion ∧ state.accountId = accountId ∧
      state.campaignId = campaignId) stateMismatch
    if state.policySha256 ≠ policySha256 then
      ensure allowShadowPolicyMigration stateMismatch
      return { state with policySha256 := policySha256 }
    else return state

/-- A new business date starts its own count. -/
def ExecutionState.rollover (state : ExecutionState) (businessDate : ℤ) : ExecutionState :=
  if state.businessDate ≠ businessDate then
    { state with businessDate := businessDate, actionsToday := 0 }
  else state

/-- What the observer is told of the state. -/
structure WbAutomationStateView where
  pausedByAutomation : Bool
  actionsToday : ℕ
  lastActionAt : Option ℤ

/-- What a decision sees of the state. -/
def ExecutionState.view (state : ExecutionState) (businessDate : ℤ) : WbAutomationStateView where
  pausedByAutomation := state.pausedForDailyCapOn.any fun pausedOn => pausedOn < businessDate
  actionsToday := state.actionsToday
  lastActionAt := state.lastActionAt

/-- The read of the marketplace at an instant, completed with the view of the state. -/
def buildObservation (raw : WbAutomationObservation) (observedAt : ℤ) (view : WbAutomationStateView) :
    WbAutomationObservation :=
  { raw with
    observedAt := observedAt
    pausedByAutomation := view.pausedByAutomation
    actionsToday := view.actionsToday
    lastActionAt := view.lastActionAt }

/-- A pause belongs to the business date of its reservation. -/
def confirmedPauseDate (pending : PendingAction) (current : Option ℤ) : Option ℤ :=
  match pending.kind with
  | .pauseCampaignForDailyCap => some (wbAutomationBusinessDate pending.reservedAt)
  | .resumeCampaignAfterDailyCap => none
  | .changeBids _ => current

/-- Settle the pending action against an observation. -/
def reconcilePending (observation : WbAutomationObservation) (state : ExecutionState)
    (pending : PendingAction) : WbAutomationExecutionOutcome × ExecutionState :=
  if pendingIsVisible observation pending.kind then
    (.reconciled, { state with
      pausedForDailyCapOn := confirmedPauseDate pending state.pausedForDailyCapOn
      pending := none })
  else if observation.observedAt < pending.reservedAt + readbackGrace then (.awaitingReadback, state)
  else (.incidentLocked, { state with incidentClass := some "write_not_reconciled" })

/-- The final permit: the file still holds this pending action and no incident. -/
def verifyPendingPermit (stored : Option ExecutionState) (expected : PendingAction) :
    Except String Unit := do
  let state ← context stored "WB automation execution state исчез"
  ensure (state.incidentClass = none ∧ state.pending = some expected)
    "WB automation final permit отозван"

/-! ## Commands -/

/-- The commands of a cycle. A save names the outcome it stands for; calls to the marketplace name the
pending action they are made for. -/
inductive FileCall
  | observedAt
  | tryAcquireLease
  | readStateFile
  | observe (observedAt : ℤ)
  | persistSnapshot (snapshot : WbAutomationSnapshot)
  | saveExecutionState (state : ExecutionState) (outcome : WbAutomationExecutionOutcome)
  | prepareWrite (pending : PendingAction)
  | admitWrite (pending : PendingAction)
  | send (pending : PendingAction)

/-- What a command answers. -/
def FileCall.Answer : FileCall → Type
  | observedAt => ℤ
  | tryAcquireLease => Except String Bool
  | readStateFile => Except String (Option ExecutionState)
  | observe _ => Except String WbAutomationObservation
  | persistSnapshot _ => Except String Unit
  | saveExecutionState _ _ => Except String Unit
  | prepareWrite _ => Except WbWriteError Unit
  | admitWrite _ => Except WbWriteError Unit
  | send _ => Except WbWriteError Unit

/-- A cycle over its effects. -/
abbrev FileProg (α : Type) : Type := Prog FileCall FileCall.Answer String α

/-- Perform one effect. -/
def FileCall.ask (c : FileCall) : FileProg c.Answer := .perform c

open FileCall

/-- Replace the state file. -/
def saveState (state : ExecutionState) (outcome : WbAutomationExecutionOutcome) : FileProg Unit := do
  .ofExcept (← ask (saveExecutionState state outcome))

/-! ## The cycle -/

/-- Only a failure proven to precede the departure cancels; every other one needs the readback. -/
def sendResult : Except (WbGuardedWriteError String) Unit → Except String PostgresWriteResult
  | .ok () => .ok .sent
  | .error (.write error) => match error.outcomeKind with
    | .definiteFailure => .ok .notSent
    | .ambiguous => .error "WB automation write требует readback reconciliation"
  | .error (.permit _) => .error "WB automation write требует readback reconciliation"

/-- Read the file again immediately before the request. -/
def pendingPermit (pending : PendingAction) : FileProg (Except String Unit) := do
  let stored ← ask readStateFile
  return stored.bind fun stored => verifyPendingPermit stored pending

/-- Send the pending action under its permit. -/
def sendPending (pending : PendingAction) : FileProg PostgresWriteResult := do
  let result ← writeWithPermit (ask (prepareWrite pending)) (pendingPermit pending)
    (ask (admitWrite pending)) (ask (send pending))
  .ofExcept (sendResult result)

/-- Reserve an action, save it, send it; an action that was not sent is cancelled. -/
def reserveAndSend (state : ExecutionState) (pending : PendingAction) :
    FileProg WbAutomationExecutionOutcome := do
  let actionsToday ← .ofExcept
    (context (checkedAdd 32 state.actionsToday 1) "WB automation action counter overflow")
  let state : ExecutionState := { state with
    actionsToday := actionsToday
    lastActionAt := some pending.reservedAt
    pending := some pending }
  saveState state .writeSentReconciliationRequired
  if (← sendPending pending) = .notSent then
    saveState { state with pending := none } .reservationCancelled
    return .reservationCancelled
  else return .writeSentReconciliationRequired

/-- The branches of a cycle with a snapshot, from a state without incident and pending action. -/
def actOnDecision (policy : WbAutomationPolicy) (state : ExecutionState)
    (snapshot : WbAutomationSnapshot) : FileProg WbAutomationExecutionOutcome :=
  if dailyCapBreachRequiresLock policy snapshot.observation snapshot.decision true then do
    saveState { state with incidentClass := some "daily_spend_cap_breached" } .incidentLocked
    return .incidentLocked
  else
    match pendingFromDecision snapshot.decision.action snapshot.observation policy.minBidKopecks
        snapshot.observation.observedAt with
    | none => do
      saveState state .observed
      return .observed
    | some pending => reserveAndSend state pending

/-- The branches of a cycle with a snapshot. -/
def actOnSnapshot (policy : WbAutomationPolicy) (state : ExecutionState)
    (snapshot : WbAutomationSnapshot) : FileProg WbAutomationExecutionOutcome :=
  if state.incidentClass.isSome then do
    saveState state .incidentLocked
    return .incidentLocked
  else
    match state.pending with
    | some pending => do
      let settled := reconcilePending snapshot.observation state pending
      saveState settled.2 settled.1
      return settled.1
    | none => actOnDecision policy state snapshot

/-- **One cycle at an instant.** -/
def runOnce (ex : FilePolicy) (observedAt : ℤ) : FileProg WbAutomationExecutionOutcome := do
  let leased ← .ofExcept (← ask tryAcquireLease)
  Prog.ofExcept (ensure leased "WB automation execution state уже обслуживает другой процесс")
  let businessDate := wbAutomationBusinessDate observedAt
  let stored ← .ofExcept (← ask readStateFile)
  let state ← .ofExcept (loadExecutionState stored ex.policySha256 ex.policy.accountId
    ex.policy.campaignId businessDate (!ex.policy.writeEnabled))
  let state := state.rollover businessDate
  let raw ← .ofExcept (← ask (observe observedAt))
  let observation := buildObservation raw observedAt (state.view businessDate)
  let decision ← .ofExcept ((evaluateWbAutomation ex.policy observation).mapError fun _ =>
    "WB automation observation отклонён движком")
  let snapshot : WbAutomationSnapshot := ⟨observation, decision⟩
  .ofExcept (← ask (persistSnapshot snapshot))
  actOnSnapshot ex.policy state snapshot

/-- A cycle at the instant its caller chooses. -/
def scheduledCycle (ex : FilePolicy) : FileProg WbAutomationExecutionOutcome := do
  let observedAt ← ask FileCall.observedAt
  runOnce ex observedAt

end AdsControl.Wb
