import AdsControl.Ozon.Guard
import AdsControl.Ozon.Client

/-!
# The guard cycle

One cycle drains expired stops and then evaluates every active guard. It is a program over the
repository, the reader, the writer and the clock.

* `reconcileLeasedStop`: read back, stop at most once, read back again;
* `runDurableOzonGuardCycle`: the cycle of one worker.
-/

namespace AdsControl.Ozon

open Fallible Interaction

/-! ## Ports -/

/-- What is known of a write that failed. -/
inductive OzonGuardWriteFailure
  | permit
  | markerUncertain
  | ambiguous
  deriving DecidableEq

/-- What could not be read. -/
inductive OzonGuardReadFailure
  | telemetry
  | campaignState
  deriving DecidableEq

/-- Where a test may stop the workflow. -/
inductive OzonGuardFailpoint
  | afterStopClaim
  | beforeDeactivate
  | afterDeactivate
  deriving DecidableEq

/-- The metrics of a campaign. -/
structure OzonGuardMetrics where
  spendMinor : ℕ
  attributedRevenueMinor : ℕ
  deriving DecidableEq

/-- `none` for a stop whose telemetry was unavailable. -/
abbrev OzonGuardEvidence : Type := Option OzonGuardMetrics

/-- Why a cycle stops. -/
inductive OzonGuardWorkflowError
  | repository (error : OzonPlanStoreError)
  | read (error : OzonGuardReadFailure)
  | failpoint (point : OzonGuardFailpoint)
  deriving DecidableEq

/-- The commands of the cycle. Calls to the marketplace carry the lease they are made under; only its
campaign is sent. -/
inductive GuardCall
  | activeGuards (accountId : String)
  | claimStopRecovery (accountId workerId : String)
  | claimStop (guard : OzonCampaignGuard) (reason : String) (evidence : OzonGuardEvidence)
      (workerId : String)
  | recordObservation (guard : OzonCampaignGuard) (metrics : OzonGuardMetrics)
  | finishStop (lease : OzonGuardStopLease) (evidence : OzonGuardEvidence)
  | markIncident (lease : OzonGuardStopLease) (errorClass : String) (evidence : OzonGuardEvidence)
  | recordReadback (lease : OzonGuardStopLease) (observation : OzonGuardStopReadback)
  | now
  | metrics (guard : OzonCampaignGuard) (observedAt : ℤ)
  | campaignIsRunning (lease : OzonGuardStopLease)
  | prepareWrite (lease : OzonGuardStopLease)
  | startGuardStopWrite (lease : OzonGuardStopLease)
  | admitWrite (lease : OzonGuardStopLease)
  | deactivate (lease : OzonGuardStopLease)

/-- What a command answers. -/
def GuardCall.Answer : GuardCall → Type
  | activeGuards _ => Except OzonPlanStoreError (List OzonCampaignGuard)
  | claimStopRecovery _ _ => Except OzonPlanStoreError (Option OzonGuardStopLease)
  | claimStop _ _ _ _ => Except OzonPlanStoreError OzonGuardStopLease
  | recordObservation _ _ => Except OzonPlanStoreError Unit
  | finishStop _ _ => Except OzonPlanStoreError Unit
  | markIncident _ _ _ => Except OzonPlanStoreError Unit
  | recordReadback _ _ => Except OzonPlanStoreError Unit
  | now => ℤ
  | metrics _ _ => Except OzonGuardReadFailure OzonGuardMetrics
  | campaignIsRunning _ => Except OzonGuardReadFailure Bool
  | prepareWrite _ => Except OzonWriteError Unit
  | startGuardStopWrite _ => Except OzonPlanStoreError Unit
  | admitWrite _ => Except OzonWriteError Unit
  | deactivate _ => Except OzonWriteError Unit

/-- A worker over its effects. -/
abbrev GuardProg (α : Type) : Type := Prog GuardCall GuardCall.Answer OzonGuardWorkflowError α

/-- Perform one effect. -/
def ask (c : GuardCall) : GuardProg c.Answer := .perform c

/-- The result of a repository call; its failure ends the program. -/
def store {α : Type} (answer : Except OzonPlanStoreError α) : GuardProg α :=
  .ofExcept (answer.mapError .repository)

/-- Who runs the worker. -/
structure OzonGuardRunContext where
  accountId : String
  workerId : String
  failpoints : OzonGuardFailpoint → Bool

/-- Stop here if the test says so. -/
def hitFailpoint (context : OzonGuardRunContext) (point : OzonGuardFailpoint) : GuardProg Unit :=
  if context.failpoints point then .fail (.failpoint point) else pure ()

/-! ## The stop of one lease -/

/-- The client returns a permit error only from the marker; once the marker is durable no answer of
the provider proves that nothing changed. -/
def classifyGuardStopWriteFailure (error : OzonGuardedWriteError OzonPlanStoreError)
    (writeStarted : Bool) : OzonGuardWriteFailure :=
  match error with
  | .permit _ => .markerUncertain
  | .write _ => if writeStarted then .ambiguous else .permit

/-- Persist the marker; the write has started exactly when its commit was acknowledged. -/
def stopPermit (lease : OzonGuardStopLease) :
    GuardProg (Except OzonPlanStoreError Unit × Bool) := do
  let started ← ask (.startGuardStopWrite lease)
  return (started, started.isOk)

/-- Deactivate the campaign under the final permit. -/
def deactivateWithFinalPermit (lease : OzonGuardStopLease) :
    GuardProg (Except OzonGuardWriteFailure Unit) := do
  let (result, writeStarted) ← writeGuarded (ask (.prepareWrite lease)) (stopPermit lease)
    (ask (.admitWrite lease)) (ask (.deactivate lease))
  return result.mapError fun error => classifyGuardStopWriteFailure error writeStarted

/-- What a stop that reads back as running becomes: an incident, or a stop left to recovery. -/
def incidentErrorClass : Except OzonGuardWriteFailure Unit → Except OzonGuardWorkflowError String
  | .ok () => .ok "stop_readback_mismatch"
  | .error .permit => .error (.repository .leaseLost)
  | .error .markerUncertain => .error (.repository .unavailable)
  | .error .ambiguous => .ok "stop_write_ambiguous"

/-- The readback reported the campaign as not running. -/
def confirmStop (lease : OzonGuardStopLease) (evidence : OzonGuardEvidence) : GuardProg Unit := do
  store (← ask (.recordReadback lease .stopped))
  store (← ask (.finishStop lease evidence))

/-- The readback is unavailable: the stop stays recoverable. -/
def retainStop (lease : OzonGuardStopLease) (error : OzonGuardReadFailure) : GuardProg Unit := do
  store (← ask (.recordReadback lease .unavailable))
  .fail (.read error)

/-- Read back after the write and settle the stop. -/
def settleStop (context : OzonGuardRunContext) (lease : OzonGuardStopLease)
    (evidence : OzonGuardEvidence) (write : Except OzonGuardWriteFailure Unit) : GuardProg Unit := do
  hitFailpoint context .afterDeactivate
  match ← ask (.campaignIsRunning lease) with
  | .ok false => confirmStop lease evidence
  | .ok true =>
    store (← ask (.recordReadback lease .running))
    let errorClass ← .ofExcept (incidentErrorClass write)
    store (← ask (.markIncident lease errorClass evidence))
  | .error error => retainStop lease error

/-- Deactivate a campaign that is running without a marker. -/
def stopRunning (context : OzonGuardRunContext) (lease : OzonGuardStopLease)
    (evidence : OzonGuardEvidence) : GuardProg Unit := do
  hitFailpoint context .beforeDeactivate
  let write ← deactivateWithFinalPermit lease
  settleStop context lease evidence write

/-- The campaign is running. A stop whose write has started is reported, never repeated. -/
def stopUnlessStarted (context : OzonGuardRunContext) (lease : OzonGuardStopLease)
    (evidence : OzonGuardEvidence) : GuardProg Unit :=
  if lease.writeStartedAt.isSome then do
    store (← ask (.markIncident lease "stop_write_unconfirmed" evidence))
  else stopRunning context lease evidence

/-- Read back a leased stop and carry it out where the campaign still runs. -/
def reconcileLeasedStop (context : OzonGuardRunContext) (lease : OzonGuardStopLease)
    (evidence : OzonGuardEvidence) : GuardProg Unit := do
  match ← ask (.campaignIsRunning lease) with
  | .ok false => confirmStop lease evidence
  | .ok true =>
    store (← ask (.recordReadback lease .running))
    stopUnlessStarted context lease evidence
  | .error error => retainStop lease error

/-! ## The cycle -/

/-- The most recoveries of a cycle. -/
def maxOzonGuardRecoveriesPerCycle : ℕ := 50

/-- The evidence persisted with a stop; half of a pair is a broken row. -/
def leaseEvidence (lease : OzonGuardStopLease) : Except OzonGuardWorkflowError OzonGuardEvidence :=
  match lease.spendMinor, lease.revenueMinor with
  | some spendMinor, some revenueMinor => .ok (some ⟨spendMinor, revenueMinor⟩)
  | none, none => .ok none
  | _, _ => .error (.repository .unavailable)

/-- Only read failures stay with their guard. -/
def isolateRead : Except OzonGuardWorkflowError Unit → Except OzonGuardWorkflowError Unit
  | .error (.read _) => .ok ()
  | result => result

/-- Reconcile a leased stop; both loops of the cycle go on after a read failure. -/
def reconcileIsolated (context : OzonGuardRunContext) (lease : OzonGuardStopLease)
    (evidence : OzonGuardEvidence) : GuardProg Unit := do
  let result ← (reconcileLeasedStop context lease evidence).attempt
  .ofExcept (isolateRead result)

/-- Drain up to `count` expired stops. -/
def recoverStops (context : OzonGuardRunContext) : ℕ → GuardProg Unit
  | 0 => pure ()
  | count + 1 => do
    match ← store (← ask (.claimStopRecovery context.accountId context.workerId)) with
    | none => pure ()
    | some lease =>
      let evidence ← .ofExcept (leaseEvidence lease)
      reconcileIsolated context lease evidence
      recoverStops context count

/-- The evidence of an evaluation and the reason to stop, if any; a guard without telemetry or with
invalid limits stops. -/
def guardDecision (guard : OzonCampaignGuard) :
    Except OzonGuardReadFailure OzonGuardMetrics → OzonGuardEvidence × Option String
  | .ok metrics => (some metrics,
      match evaluateOzonCampaignGuard metrics.spendMinor metrics.attributedRevenueMinor
          guard.spendCapMicrorubles guard.targetDrrPercent with
      | .ok reason => reason.map OzonGuardStopReason.asStr
      | .error _ => some "guard_evaluation_failed")
  | .error _ => (none, some "telemetry_unavailable")

/-- Record the observation of a guard, or claim and reconcile its stop. -/
def enforceDecision (context : OzonGuardRunContext) (guard : OzonCampaignGuard)
    (evidence : OzonGuardEvidence) : Option String → GuardProg Unit
  | none => do
    let metrics ← .ofExcept (Fallible.context evidence (.read .telemetry))
    store (← ask (.recordObservation guard metrics))
  | some reason => do
    let lease ← store (← ask (.claimStop guard reason evidence context.workerId))
    hitFailpoint context .afterStopClaim
    reconcileIsolated context lease evidence

/-- Evaluate one active guard. -/
def scanGuard (context : OzonGuardRunContext) (observedAt : ℤ) (guard : OzonCampaignGuard) :
    GuardProg Unit := do
  let decision := guardDecision guard (← ask (.metrics guard observedAt))
  enforceDecision context guard decision.1 decision.2

/-- Evaluate the guards one by one. -/
def scanGuards (context : OzonGuardRunContext) (observedAt : ℤ) :
    List OzonCampaignGuard → GuardProg Unit
  | [] => pure ()
  | guard :: guards => do
    scanGuard context observedAt guard
    scanGuards context observedAt guards

/-- **One durable guard cycle.** -/
def runDurableOzonGuardCycle (context : OzonGuardRunContext) : GuardProg Unit := do
  recoverStops context maxOzonGuardRecoveriesPerCycle
  let observedAt ← ask .now
  let guards ← store (← ask (.activeGuards context.accountId))
  scanGuards context observedAt guards

end AdsControl.Ozon
