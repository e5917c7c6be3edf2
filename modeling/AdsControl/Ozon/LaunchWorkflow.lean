import AdsControl.Ozon.Launch
import AdsControl.Ozon.Client

/-!
# The launch worker

The worker drains the outbox of launches. It is a program over the repository, the reader, the
registry and the writer; an uncertain action is only ever read back.

* `executeIo`: preflight, final permit and the request of one action;
* `execute`, `reconcile`: what a lease of either mode does;
* `drainOzonLaunchWorkflowBatch`: the cycle of one worker.
-/

namespace AdsControl.Ozon

open Fallible Interaction

/-! ## Ports -/

/-- Where a test may stop the workflow. -/
inductive OzonLaunchFailpoint
  | afterClaim
  | afterWriteStarted
  | afterWrite
  | afterReadback
  deriving DecidableEq

/-- What became of one workflow. -/
inductive OzonLaunchDrainOutcome
  | idle
  | executed (planId : String) (status : OzonLaunchStatus)
  | reconciled (planId : String) (status : OzonLaunchStatus)
  deriving DecidableEq

/-- What a cycle did. -/
structure OzonLaunchBatchOutcome where
  processed : ℕ
  persistedFailures : ℕ
  saturated : Bool
  deriving DecidableEq

/-- Why a write did not start. -/
abbrev NotStarted : Type := OzonGuardedWriteError String

/-- Why a cycle stops. -/
inductive OzonLaunchWorkflowError
  | repository (error : OzonPlanStoreError)
  | writeNotStarted (error : NotStarted)
  | write (message : String)
  | readback (message : String)
  | failpoint (point : OzonLaunchFailpoint)

/-- What a write returned. -/
inductive OzonLaunchWriteReceipt
  | created (campaignId : ℕ)
  | mutated (campaignId : ℕ)
  deriving DecidableEq

/-- What is known of a write that failed. -/
inductive OzonLaunchWriteFailure
  | notStarted (error : NotStarted)
  | definite (errorClass : String)
  | ambiguous (errorClass : String)

/-- Why the permit was refused before the write. -/
inductive OzonFinalPermitError
  | transient (message : String)
  | conflict (errorClass : String)
  deriving DecidableEq

/-- What a readback shows. -/
inductive OzonLaunchObservation
  | stage (campaignId : ℕ) (readback : Readback)
  | applied (campaignId : ℕ) (readback : Readback)
  deriving DecidableEq

/-- The action that is checked before its write. -/
inductive OzonPreflightAction
  | createCampaign
  | addProducts (campaignId : ℕ)
  | activateCampaign (campaignId : ℕ)
  deriving DecidableEq

/-- The commands of the worker. Calls to the marketplace carry the lease they are made under. -/
inductive LaunchCall
  | claimRecovery (accountId workerId : String)
  | claimExecution (accountId workerId : String)
  | complete (lease : OzonLaunchLease) (campaignId : Option ℕ) (readback : Option Readback)
  | confirmApplied (lease : OzonLaunchLease) (campaignId : ℕ) (readback : Readback)
  | markAmbiguous (lease : OzonLaunchLease) (errorClass : String) (campaignId : Option ℕ)
      (readback : Option Readback)
  | fail (lease : OzonLaunchLease) (errorClass : String) (campaignId : Option ℕ)
  | release (lease : OzonLaunchLease) (errorClass : String)
  | preconditions (lease : OzonLaunchLease)
  | prepareWrite (lease : OzonLaunchLease)
  | authorize (lease : OzonLaunchLease)
  | startLaunchWrite (lease : OzonLaunchLease) (preflightDigest : Option String)
  | admitWrite (lease : OzonLaunchLease)
  | createCampaign (lease : OzonLaunchLease)
  | addProducts (lease : OzonLaunchLease) (campaignId : ℕ)
  | activateCampaign (lease : OzonLaunchLease) (campaignId : ℕ)
  | readback (lease : OzonLaunchLease)

/-- What a command answers. The marker also says whether its commit was attempted. -/
def LaunchCall.Answer : LaunchCall → Type
  | claimRecovery _ _ => Except OzonPlanStoreError (Option OzonLaunchLease)
  | claimExecution _ _ => Except OzonPlanStoreError (Option OzonLaunchLease)
  | complete _ _ _ => Except OzonPlanStoreError PlanRow
  | confirmApplied _ _ _ => Except OzonPlanStoreError PlanRow
  | markAmbiguous _ _ _ _ => Except OzonPlanStoreError PlanRow
  | fail _ _ _ => Except OzonPlanStoreError PlanRow
  | release _ _ => Except OzonPlanStoreError Unit
  | preconditions _ => Except OzonFinalPermitError Unit
  | prepareWrite _ => Except OzonWriteError Unit
  | authorize _ => Except String Unit
  | startLaunchWrite _ _ => Except String Unit × Bool
  | admitWrite _ => Except OzonWriteError Unit
  | createCampaign _ => Except OzonWriteError ℕ
  | addProducts _ _ => Except OzonWriteError Unit
  | activateCampaign _ _ => Except OzonWriteError Unit
  | readback _ => Except String OzonLaunchObservation

/-- A workflow over its effects. -/
abbrev LaunchProg (α : Type) : Type := Prog LaunchCall LaunchCall.Answer OzonLaunchWorkflowError α

/-- Perform one effect. -/
def invoke (c : LaunchCall) : LaunchProg c.Answer := .perform c

/-- The result of a repository call; its failure ends the program. -/
def persisted {α : Type} (answer : Except OzonPlanStoreError α) : LaunchProg α :=
  .ofExcept (answer.mapError .repository)

/-- Who runs the workflow. -/
structure OzonLaunchRunContext where
  accountId : String
  workerId : String
  identity : IdentityDigest
  failpoints : OzonLaunchFailpoint → Bool

/-- Stop here if the test says so. -/
def hitLaunchFailpoint (context : OzonLaunchRunContext) (point : OzonLaunchFailpoint) :
    LaunchProg Unit :=
  if context.failpoints point then .fail (.failpoint point) else pure ()

/-! ## The write of one action -/

/-- The error of a write that never started. -/
def notStartedErrorClass : OzonLaunchAction → String
  | .createCampaign => "ozon_create_not_started"
  | .addProducts => "ozon_products_not_started"
  | .activateCampaign => "ozon_activate_not_started"

/-- The error of a readback that failed. -/
def readbackErrorClass : OzonLaunchAction → String
  | .createCampaign => "ozon_create_readback_unavailable"
  | .addProducts => "ozon_products_readback_unavailable"
  | .activateCampaign => "ozon_activate_readback_unavailable"

/-- The error of a write with an open outcome. -/
def ambiguousWriteErrorClass : OzonLaunchAction → String
  | .createCampaign => "ozon_create_ambiguous"
  | .addProducts => "ozon_products_ambiguous"
  | .activateCampaign => "ozon_activate_ambiguous"

/-- The request of a lease; every action after the create needs the campaign of the plan. -/
def preflightAction (lease : OzonLaunchLease) : Option OzonPreflightAction :=
  match lease.action with
  | .createCampaign => some .createCampaign
  | .addProducts => lease.plan.campaignId.map .addProducts
  | .activateCampaign => lease.plan.campaignId.map .activateCampaign

/-- The preconditions on the marketplace, read before the write. -/
def preflight (lease : OzonLaunchLease) :
    LaunchProg (Except OzonFinalPermitError OzonPreflightAction) :=
  match preflightAction lease with
  | none => return .error (.conflict (preconditionConflict lease.action))
  | some action => do return (← invoke (.preconditions lease)).map fun _ => action

/-- Authorize the plan against the registry and the policy, and persist the marker. -/
def finalPermit (context : OzonLaunchRunContext) (lease : OzonLaunchLease) :
    LaunchProg (Except String Unit × Bool) := do
  match ← invoke (.authorize lease) with
  | .error message => return (.error message, false)
  | .ok () =>
    let digest := if lease.action = .createCampaign
      then some (createIdentityPreflightDigestFor context.identity lease.plan.toPlanTerms) else none
    match ← invoke (.startLaunchWrite lease digest) with
    | (.error message, attempted) => return (.error message, attempted)
    | (.ok (), attempted) =>
      if context.failpoints .afterWriteStarted then
        return (.error "durable Ozon launch failpoint reached: AfterWriteStarted", attempted)
      else return (.ok (), attempted)

/-- The one request of an action. -/
def sendLaunch (lease : OzonLaunchLease) :
    OzonPreflightAction → LaunchProg (Except OzonWriteError OzonLaunchWriteReceipt)
  | .createCampaign => do
    return (← invoke (.createCampaign lease)).map .created
  | .addProducts campaignId => do
    return (← invoke (.addProducts lease campaignId)).map fun _ => .mutated campaignId
  | .activateCampaign campaignId => do
    return (← invoke (.activateCampaign lease campaignId)).map fun _ => .mutated campaignId

/-- Once the commit of the marker was attempted no answer proves that nothing changed. -/
def classifyLaunchWrite (context : OzonLaunchRunContext) (action : OzonLaunchAction) :
    Except NotStarted OzonLaunchWriteReceipt × Bool →
      Except OzonLaunchWriteFailure OzonLaunchWriteReceipt
  | (.ok receipt, _) => if context.failpoints .afterWrite
      then .error (.ambiguous (ambiguousWriteErrorClass action)) else .ok receipt
  | (.error error, writeStarted) => if writeStarted
      then .error (.ambiguous (ambiguousWriteErrorClass action)) else .error (.notStarted error)

/-- Check, ask for the permit and write. -/
def executeIo (context : OzonLaunchRunContext) (lease : OzonLaunchLease) :
    LaunchProg (Except OzonLaunchWriteFailure OzonLaunchWriteReceipt) := do
  match ← preflight lease with
  | .error (.conflict errorClass) => return .error (.definite errorClass)
  | .error (.transient message) => return .error (.notStarted (.permit message))
  | .ok action =>
    let result ← writeGuarded (invoke (.prepareWrite lease)) (finalPermit context lease)
      (invoke (.admitWrite lease)) (sendLaunch lease action)
    return classifyLaunchWrite context lease.action result

/-! ## Leases -/

/-- The outcome of the write is uncertain. -/
def leaveAmbiguous {α : Type} (lease : OzonLaunchLease) (errorClass : String)
    (campaignId : Option ℕ) (readback : Option Readback) (error : OzonLaunchWorkflowError) :
    LaunchProg α := do
  let _ ← persisted (← invoke (.markAmbiguous lease errorClass campaignId readback))
  .fail error

/-- Settle a create by its readback. -/
def settleCreate (context : OzonLaunchRunContext) (lease : OzonLaunchLease) (campaignId : ℕ) :
    LaunchProg PlanRow := do
  match ← invoke (.readback lease) with
  | .error message =>
    leaveAmbiguous lease (readbackErrorClass lease.action) (some campaignId) none (.readback message)
  | .ok observation =>
    hitLaunchFailpoint context .afterReadback
    match observation with
    | .stage observed readback =>
      if observed = campaignId then
        persisted (← invoke (.complete lease (some campaignId) (some readback)))
      else
        leaveAmbiguous lease "ozon_create_readback_mismatch" (some campaignId) (some readback)
          (.readback "create response and exact readback campaign ids differ")
    | .applied observed readback =>
      if observed = campaignId then
        persisted (← invoke (.confirmApplied lease campaignId readback))
      else
        leaveAmbiguous lease "ozon_create_readback_mismatch" (some campaignId) (some readback)
          (.readback "create response and exact readback campaign ids differ")

/-- Settle a later action by its readback. -/
def settleMutation (context : OzonLaunchRunContext) (lease : OzonLaunchLease) (campaignId : ℕ) :
    LaunchProg PlanRow := do
  match ← invoke (.readback lease) with
  | .error message =>
    leaveAmbiguous lease (readbackErrorClass lease.action) (some campaignId) none (.readback message)
  | .ok observation =>
    hitLaunchFailpoint context .afterReadback
    match observation with
    | .stage observed readback =>
      if lease.action = .addProducts then
        persisted (← invoke (.complete lease (some observed) (some readback)))
      else
        leaveAmbiguous lease "ozon_activate_readback_mismatch" (some campaignId) none
          (.readback "activation did not produce exact running state")
    | .applied observed readback =>
      if lease.action = .addProducts then
        persisted (← invoke (.confirmApplied lease observed readback))
      else persisted (← invoke (.complete lease (some observed) (some readback)))

/-- Settle a write by its receipt. -/
def settleWrite (context : OzonLaunchRunContext) (lease : OzonLaunchLease) :
    OzonLaunchWriteReceipt → LaunchProg PlanRow
  | .created campaignId =>
    if lease.action = .createCampaign then settleCreate context lease campaignId
    else .fail (.repository .invalidState)
  | .mutated campaignId =>
    if lease.action = .createCampaign then .fail (.repository .invalidState)
    else settleMutation context lease campaignId

/-- Execute a leased action and record what happened. -/
def execute (context : OzonLaunchRunContext) (lease : OzonLaunchLease) :
    LaunchProg OzonLaunchDrainOutcome := do
  match ← executeIo context lease with
  | .error (.notStarted error) =>
    persisted (← invoke (.release lease (notStartedErrorClass lease.action)))
    .fail (.writeNotStarted error)
  | .error (.definite errorClass) =>
    let plan ← persisted (← invoke (.fail lease errorClass lease.plan.campaignId))
    .fail (.write (errorClass ++ " (" ++ plan.status.asDb ++ ")"))
  | .error (.ambiguous errorClass) =>
    leaveAmbiguous lease errorClass lease.plan.campaignId none (.write errorClass)
  | .ok receipt =>
    let plan ← settleWrite context lease receipt
    return .executed plan.planId plan.status

/-- Read back a leased action and record what is found. -/
def reconcile (context : OzonLaunchRunContext) (lease : OzonLaunchLease) :
    LaunchProg OzonLaunchDrainOutcome := do
  match ← invoke (.readback lease) with
  | .error message =>
    leaveAmbiguous lease (readbackErrorClass lease.action) lease.plan.campaignId none
      (.readback message)
  | .ok observation =>
    hitLaunchFailpoint context .afterReadback
    match observation with
    | .stage campaignId readback =>
      let plan ← persisted (← invoke (.complete lease (some campaignId) (some readback)))
      return .reconciled plan.planId plan.status
    | .applied campaignId readback =>
      let plan ← persisted (← invoke (.confirmApplied lease campaignId readback))
      return .reconciled plan.planId plan.status

/-! ## The cycle -/

/-- Run a lease that must have the given mode. -/
def withMode (context : OzonLaunchRunContext) (mode : OzonLaunchClaimMode) (lease : OzonLaunchLease)
    (run : LaunchProg OzonLaunchDrainOutcome) : LaunchProg OzonLaunchDrainOutcome :=
  if lease.mode = mode then do
    hitLaunchFailpoint context .afterClaim
    run
  else .fail (.repository .invalidState)

/-- Process at most one lease; recovery comes first. -/
def drainOzonLaunchWorkflowOnce (context : OzonLaunchRunContext) :
    LaunchProg OzonLaunchDrainOutcome := do
  match ← persisted (← invoke (.claimRecovery context.accountId context.workerId)) with
  | some lease => withMode context .reconcile lease (reconcile context lease)
  | none =>
    match ← persisted (← invoke (.claimExecution context.accountId context.workerId)) with
    | some lease => withMode context .execute lease (execute context lease)
    | none => return .idle

/-- The most actions of a cycle. -/
def maxOzonLaunchActionsPerCycle : ℕ := 16

/-- Drain up to `count` leases; failures that were persisted stay with their row. -/
def drainLeases (context : OzonLaunchRunContext) (outcome : OzonLaunchBatchOutcome) :
    ℕ → LaunchProg OzonLaunchBatchOutcome
  | 0 => return { outcome with saturated := true }
  | count + 1 => do
    match ← (drainOzonLaunchWorkflowOnce context).attempt with
    | .ok .idle => return outcome
    | .ok _ => drainLeases context { outcome with processed := outcome.processed + 1 } count
    | .error (.repository error) => .fail (.repository error)
    | .error (.failpoint point) => .fail (.failpoint point)
    | .error _ => drainLeases context { outcome with
        processed := outcome.processed + 1
        persistedFailures := outcome.persistedFailures + 1 } count

/-- **One cycle of a launch worker.** -/
def drainOzonLaunchWorkflowBatch (context : OzonLaunchRunContext) :
    LaunchProg OzonLaunchBatchOutcome :=
  drainLeases context ⟨0, 0, false⟩ maxOzonLaunchActionsPerCycle

end AdsControl.Ozon
