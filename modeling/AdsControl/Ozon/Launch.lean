import AdsControl.Ozon.Store

/-!
# Campaign launches

The transactions that move a launch: the request of the operator, the claims of execution and of
recovery, the write marker, and the ways a lease ends. The durable pointer of a launch is the status
of its plan together with the action of its workflow row.

* `claimNextLaunchAction`, `claimLaunchRecovery`: the two ways to a lease;
* `startLaunchWrite`: the transition from a stable status to one in progress;
* `completeLaunchActionInner`, `markLaunchAmbiguous`, `failLaunchAction`, `releaseLaunchLease`: the
  ways a lease ends.
-/

namespace AdsControl.Ozon

open Fallible

/-- Whether a lease may execute a new mutation or may only inspect the marketplace. -/
inductive OzonLaunchClaimMode
  | execute
  | reconcile
  deriving DecidableEq

/-- The capability of one launch action; a reclaim raises the generation. -/
structure OzonLaunchLease where
  plan : PlanRow
  action : OzonLaunchAction
  mode : OzonLaunchClaimMode
  generation : ℕ
  ownerId : String
  leaseToken : String
  deriving DecidableEq

/-- A workflow has to carry on. -/
def OzonLaunchStatus.isDurableWorkflowPending : OzonLaunchStatus → Bool
  | approved | creating | created | addingProducts | productsAdded | activating | ambiguous => true
  | _ => false

/-- The outcome of a write is open. -/
def OzonLaunchStatus.requiresReconciliation : OzonLaunchStatus → Bool
  | creating | addingProducts | activating | ambiguous => true
  | _ => false

/-- How long a lease lasts. -/
def workflowLeaseTtl : ℤ := seconds (5 * 60)

/-- How long a workflow waits before it is recovered. -/
def workflowRecoveryBackoff : ℤ := seconds (2 * 60)

/-- The title that identifies a plan's campaign. -/
def providerTitleForPlanId (planId : String) : String := "mcp-ozon-" ++ planId

/-- The digest of a plan digest, an account and a title. -/
abbrev IdentityDigest : Type := String → String → String → String

/-- The digest that identifies the creation of a campaign. -/
def createIdentityPreflightDigestFor (identity : IdentityDigest) (plan : PlanTerms) : String :=
  identity plan.planDigest plan.accountId plan.manifest.title

/-- Write a row of the plans. -/
def Database.putPlan (db : Database) (row : PlanRow) : Database :=
  { db with plans := Function.update db.plans row.planId (some row) }

/-- Write a row of the workflows. -/
def Database.putWorkflow (db : Database) (planId : String) (row : WorkflowRow) : Database :=
  { db with workflows := Function.update db.workflows planId (some row) }

/-- A plan as it is inserted. -/
def PlanTerms.newRow (terms : PlanTerms) : PlanRow where
  toPlanTerms := terms
  status := .prepared
  campaignId := none
  lastErrorClass := none
  readback := none

/-- The workflow row that is inserted with a plan. -/
def newWorkflow (availableAt : ℤ) : WorkflowRow where
  action := .createCampaign
  generation := 0
  lease := none
  writeStartedAt := none
  requestedAt := none
  requestedByActorId := none
  createIdentityPreflightAt := none
  createIdentityPreflightDigest := none
  availableAt := availableAt
  lastErrorClass := none
  lastReadback := none

/-! ## Approvals -/

/-- The plan has an approval of its digest that satisfies `p`. -/
def approved (db : Database) (plan : PlanTerms) (p : ApprovalRow → Bool) : Bool :=
  (db.approvals plan.planId).any fun approval =>
    decide (approval.planDigest = plan.planDigest) && p approval

/-- An approval of this plan that has not expired. -/
def activeApproval (db : Database) (now : ℤ) (plan : PlanTerms) : Bool :=
  approved db plan fun approval => decide (now < approval.expiresAt)

/-- The approval of this plan has not expired. -/
def requireActiveApproval (db : Database) (now : ℤ) (plan : PlanTerms) :
    Except OzonPlanStoreError Unit :=
  ensure (activeApproval db now plan) .approvalExpired

/-- This plan was approved, if only in the past. -/
def requireMatchingApproval (db : Database) (plan : PlanTerms) : Except OzonPlanStoreError Unit :=
  ensure (approved db plan fun _ => true) .invalidState

/-- Only the first action needs an approval that is still active. -/
def requireApproval (db : Database) (now : ℤ) (plan : PlanTerms) (action : OzonLaunchAction) :
    Except OzonPlanStoreError Unit :=
  if action = .createCampaign then requireActiveApproval db now plan
  else requireMatchingApproval db plan

/-! ## Request -/

/-- Record the explicit apply command of the operator. -/
def enqueueLaunch (db : Database) (now : ℤ) (planId actorId expectedDigest : String) :
    Except OzonPlanStoreError Database := do
  validateDigest planId
  validateIdentity actorId
  validateDigest expectedDigest
  let plan ← context (db.plans planId) .notFound
  ensure (plan.actorId = actorId ∧ plan.planDigest = expectedDigest) .invalidState
  let workflow ← context (db.workflows planId) .unavailable
  if workflow.requestedAt.isSome then
    ensure (workflow.requestedByActorId = some actorId) .invalidState
    return db
  else
    ensure (plan.status = .approved) .invalidState
    ensure (plan.manifest.title = providerTitleForPlanId planId) .invalidPlan
    requirePolicy db plan.policy
    requireGates db now plan.accountId plan.sku
    requireActiveApproval db now plan.toPlanTerms
    ensure (workflow.requestedByActorId = none) .invalidState
    return db.putWorkflow planId { workflow with
      requestedAt := some now, requestedByActorId := some actorId, availableAt := now }

/-! ## Claims -/

/-- No worker holds the row. -/
def WorkflowRow.free (workflow : WorkflowRow) (now : ℤ) : Bool :=
  workflow.lease.all fun lease => decide (lease.expiresAt ≤ now)

/-- Expire one requested plan whose initial authorization is gone; locked rows are skipped, so any
such plan may be `swept`, or none. -/
def sweepStaleLaunchRequest (db : Database) (now : ℤ) (swept : Option String)
    (accountId : String) : Except OzonPlanStoreError Database :=
  match swept.bind db.plans with
  | none => return db
  | some plan => do
    let workflow ← context (db.workflows plan.planId) .unavailable
    ensure (plan.accountId = accountId ∧ plan.status = .approved ∧ workflow.requestedAt.isSome ∧
      workflow.free now ∧ (plan.expiresAt ≤ now ∨ ¬ activeApproval db now plan.toPlanTerms ∨
        db.policy ≠ some plan.policy)) .unavailable
    return db.putPlan { plan with status := .expired, lastErrorClass := none }

/-- Execute an action that has not begun, reconcile one that may have. -/
def workflowClaimMode (status : OzonLaunchStatus) (action : OzonLaunchAction) :
    Except OzonPlanStoreError OzonLaunchClaimMode :=
  if status = action.stableStatus then .ok .execute
  else if status = action.inProgressStatus ∨ status = .ambiguous then .ok .reconcile
  else .error .unavailable

/-- Reserve the SKU for the first action. -/
def reserveSku (db : Database) (plan : PlanTerms) : Except OzonPlanStoreError Database := do
  let reservation := (db.reservations plan.planId).getD (plan.accountId, plan.sku)
  ensure (reservation = (plan.accountId, plan.sku)) .invalidState
  return { db with reservations := Function.update db.reservations plan.planId (some reservation) }

/-- What an executing claim needs, and the reservation it makes. -/
def authorizeClaim (db : Database) (now : ℤ) (plan : PlanTerms) (action : OzonLaunchAction) :
    OzonLaunchClaimMode → Except OzonPlanStoreError Database
  | .reconcile => return db
  | .execute => do
    requirePolicy db plan.policy
    requireGates db now plan.accountId plan.sku
    requireApproval db now plan action
    if action = .createCampaign then reserveSku db plan else return db

/-- Lease a workflow under a new token. -/
def claimWorkflowLocked (digest : TokenDigest) (db : Database) (now : ℤ) (plan : PlanRow)
    (workerId : String) : Except OzonPlanStoreError (Database × OzonLaunchLease) := do
  ensure (plan.status.isDurableWorkflowPending) .invalidState
  let workflow ← context (db.workflows plan.planId) .unavailable
  ensure (workflow.requestedAt.isSome ∧ workflow.free now ∧ workflow.availableAt ≤ now) .invalidState
  let mode ← workflowClaimMode plan.status workflow.action
  let db ← authorizeClaim db now plan.toPlanTerms workflow.action mode
  let generation ← context (Machine.checkedAdd 63 workflow.generation 1) .invalidState
  let token := digest "mcp-ozon/launch-lease/v1" plan.planId workerId generation now
  return (db.putWorkflow plan.planId { workflow with
      generation := generation, writeStartedAt := none
      lease := some ⟨workerId, token, now, now + workflowLeaseTtl⟩ },
    { plan := plan
      action := workflow.action
      mode := mode
      generation := generation
      ownerId := workerId
      leaseToken := token })

/-- The rows the query for executable actions may return. -/
def executable (db : Database) (now : ℤ) (accountId : String) (plan : PlanRow) : Bool :=
  decide (plan.accountId = accountId) && plan.status ∈ [.approved, .created, .productsAdded] &&
    ((db.workflows plan.planId).any fun workflow => workflow.requestedAt.isSome &&
      decide (workflow.availableAt ≤ now) && workflow.free now) &&
    (approved db plan.toPlanTerms fun approval =>
      decide (plan.status ≠ .approved ∨ now < approval.expiresAt)) &&
    decide (plan.status ≠ .approved ∨ now < plan.expiresAt) &&
    decide (db.policy = some plan.policy) &&
    ["global", "account/" ++ plan.accountId,
      "sku/" ++ plan.accountId ++ "/" ++ toString plan.sku].all fun key =>
        (db.gates key).any (gateActive now)

/-- The rows the query for recoverable actions may return. -/
def recoverable (db : Database) (now : ℤ) (accountId : String) (plan : PlanRow) : Bool :=
  decide (plan.accountId = accountId) && plan.status.requiresReconciliation &&
    (db.workflows plan.planId).any fun workflow => workflow.requestedAt.isSome &&
      decide (workflow.availableAt ≤ now) && workflow.free now

/-- Claim the next requested action; locked rows are skipped, so any executable plan may be
`selected`, or none. -/
def claimNextLaunchAction (digest : TokenDigest) (db : Database) (now : ℤ)
    (swept selected : Option String) (accountId workerId : String) :
    Except OzonPlanStoreError (Database × Option OzonLaunchLease) := do
  validateIdentity accountId
  validateIdentity workerId
  let db ← sweepStaleLaunchRequest db now swept accountId
  match selected.bind db.plans with
  | none => return (db, none)
  | some plan =>
    ensure (executable db now accountId plan) .unavailable
    let (db, lease) ← claimWorkflowLocked digest db now plan workerId
    ensure (lease.mode = .execute) .unavailable
    return (db, some lease)

/-- Claim one abandoned action for inspection. -/
def claimLaunchRecovery (digest : TokenDigest) (db : Database) (now : ℤ) (selected : Option String)
    (accountId workerId : String) :
    Except OzonPlanStoreError (Database × Option OzonLaunchLease) := do
  validateIdentity accountId
  validateIdentity workerId
  match selected.bind db.plans with
  | none => return (db, none)
  | some plan =>
    ensure (recoverable db now accountId plan) .unavailable
    let (db, lease) ← claimWorkflowLocked digest db now plan workerId
    ensure (lease.mode = .reconcile) .unavailable
    return (db, some lease)

/-! ## Leases -/

/-- The digests and the owner of a lease. -/
def validateLaunchLease (lease : OzonLaunchLease) : Except OzonPlanStoreError Unit := do
  validateDigest lease.plan.planId
  validateIdentity lease.ownerId
  validateDigest lease.leaseToken
  ensure (lease.generation ≠ 0) .invalidPlan

/-- The row is held under this generation, owner and token. -/
def WorkflowRow.heldBy (workflow : WorkflowRow) (now : ℤ) (lease : OzonLaunchLease) : Bool :=
  decide (workflow.generation = lease.generation) && workflow.lease.any fun columns =>
    columns.ownerId == lease.ownerId && columns.token == lease.leaseToken &&
      decide (now < columns.expiresAt)

/-- The workflow row, held under this lease and at its action. -/
def requireLease (db : Database) (now : ℤ) (lease : OzonLaunchLease) :
    Except OzonPlanStoreError WorkflowRow := do
  let workflow ← context (db.workflows lease.plan.planId) .invalidState
  ensure (workflow.action = lease.action ∧ workflow.heldBy now lease) .invalidState
  return workflow

/-- The identity evidence a write must carry: only a create has one. -/
def checkPreflight (identity : IdentityDigest) (plan : PlanTerms) (action : OzonLaunchAction)
    (preflightDigest : Option String) : Except OzonPlanStoreError Unit :=
  match action with
  | .createCampaign => ensure (preflightDigest = some (createIdentityPreflightDigestFor identity plan) ∧
      plan.manifest.title = providerTitleForPlanId plan.planId) .invalidPlan
  | .addProducts | .activateCampaign => ensure (preflightDigest = none) .invalidPlan

/-- Persist the boundary of a mutation: the marker and the status in progress. -/
def startLaunchWrite (identity : IdentityDigest) (db : Database) (now : ℤ) (lease : OzonLaunchLease)
    (preflightDigest : Option String) : Except OzonPlanStoreError (Database × Unit) := do
  validateLaunchLease lease
  ensure (lease.mode = .execute) .invalidState
  let plan ← context (db.plans lease.plan.planId) .notFound
  let workflow ← requireLease db now lease
  ensure (plan.actorId = lease.plan.actorId ∧ plan.planDigest = lease.plan.planDigest ∧
    plan.status = lease.action.stableStatus) .invalidState
  checkPreflight identity plan.toPlanTerms lease.action preflightDigest
  requirePolicy db plan.policy
  requireGates db now plan.accountId plan.sku
  requireApproval db now plan.toPlanTerms lease.action
  ensure (workflow.writeStartedAt = none) .invalidState
  return ((db.putWorkflow lease.plan.planId { workflow with
      writeStartedAt := some now
      createIdentityPreflightAt := if workflow.action = .createCampaign then some now
        else workflow.createIdentityPreflightAt
      createIdentityPreflightDigest := preflightDigest.or workflow.createIdentityPreflightDigest
    }).putPlan { plan with status := lease.action.inProgressStatus }, ())

/-! ## Completion -/

/-- States in which a campaign spends nothing. -/
def isSupportedNonRunningState (state : String) : Bool :=
  state ∈ ["CAMPAIGN_STATE_STOPPED", "CAMPAIGN_STATE_INACTIVE", "CAMPAIGN_STATE_PLANNED"]

/-- The readback proves the running campaign of the plan. -/
def exactRunningReadback (readback : Readback) (campaignId : ℕ) (plan : PlanTerms) : Bool :=
  decide (readback.campaignId = some campaignId ∧ readback.sku = some plan.sku ∧
    readback.bidMicrorubles = some plan.manifest.spec.initialCpcBidMicrorubles ∧
    readback.title = some plan.manifest.title ∧ readback.state = some "CAMPAIGN_STATE_RUNNING")

/-- The readback proves the outcome of an action. -/
def completionReadbackIsExact (readback : Readback) (action : OzonLaunchAction) (plan : PlanTerms)
    (campaignId : ℕ) : Bool :=
  match action with
  | .activateCampaign => exactRunningReadback readback campaignId plan
  | .createCampaign =>
    decide (readback.campaignId = some campaignId ∧ readback.action = some action.asDb ∧
      readback.verified = some true ∧ readback.title = some plan.manifest.title) &&
      readback.state.any isSupportedNonRunningState
  | .addProducts =>
    decide (readback.campaignId = some campaignId ∧ readback.action = some action.asDb ∧
      readback.verified = some true ∧ readback.title = some plan.manifest.title ∧
      readback.sku = some plan.sku ∧
      readback.bidMicrorubles = some plan.manifest.spec.initialCpcBidMicrorubles)

/-- The campaign and the status a completion leads to. -/
def validateCompletion (lease : OzonLaunchLease) (campaignId : Option ℕ)
    (readback : Option Readback) (forceApplied : Bool) :
    Except OzonPlanStoreError (Option ℕ × OzonLaunchStatus) := do
  validateLaunchLease lease
  ensure (¬ (lease.mode = .reconcile ∧ readback = none)) .invalidPlan
  let effective := campaignId.or lease.plan.campaignId
  ensure (¬ (lease.action = .createCampaign ∧ effective = none)) .invalidPlan
  ensure (∀ expected ∈ lease.plan.campaignId, ∀ actual ∈ campaignId, expected = actual) .invalidPlan
  if forceApplied then return (effective, .applied)
  else
    let campaign ← context effective .invalidPlan
    let proof ← context readback .invalidPlan
    ensure (completionReadbackIsExact proof lease.action lease.plan.toPlanTerms campaign) .invalidPlan
    return (effective, lease.action.completedStatus)

/-- A create must have recorded the identity it was made under. -/
def requireCreateIdentityPreflight (identity : IdentityDigest) (plan : PlanTerms)
    (workflow : WorkflowRow) : Except OzonPlanStoreError Unit :=
  ensure (workflow.action = .createCampaign ∧ workflow.createIdentityPreflightAt ≠ none ∧
    workflow.createIdentityPreflightDigest = some (createIdentityPreflightDigestFor identity plan))
    .invalidPlan

/-- A create is completed under the identity it was started with. -/
def requireIdentity (identity : IdentityDigest) (plan : PlanTerms) (workflow : WorkflowRow)
    (action : OzonLaunchAction) : Except OzonPlanStoreError Unit :=
  if action = .createCampaign then requireCreateIdentityPreflight identity plan workflow
  else return ()

/-- The guard a plan launches with. -/
def launchGuard (plan : PlanTerms) (campaignId : ℕ) : GuardTerms where
  planId := plan.planId
  accountId := plan.accountId
  sku := plan.sku
  campaignId := campaignId
  dateFrom := plan.manifest.spec.fromDate
  spendCapMicrorubles := plan.manifest.spec.perSkuSpendCapMicrorubles
  targetDrrPercent := plan.manifest.spec.targetDrrPercent

/-- Insert the guard of a launched plan, or accept the same guard. -/
def insertGuard (db : Database) (plan : PlanTerms) (campaignId : Option ℕ) :
    Except OzonPlanStoreError Database := do
  let campaign ← context campaignId .invalidPlan
  let stored := (db.guards plan.planId).getD (launchGuard plan campaign).newRow
  ensure (stored.toGuardTerms = launchGuard plan campaign ∧ stored.status = .active) .invalidState
  return { db with guards := Function.update db.guards plan.planId (some stored) }

/-- An applied plan gets its guard. -/
def insertGuardIfApplied (db : Database) (plan : PlanTerms) (campaignId : Option ℕ)
    (target : OzonLaunchStatus) : Except OzonPlanStoreError Database :=
  if target = .applied then insertGuard db plan campaignId else return db

/-- The action a completed workflow continues with. -/
def nextAction (lease : OzonLaunchLease) (target : OzonLaunchStatus) :
    Except OzonPlanStoreError OzonLaunchAction :=
  if target = .applied then .ok .activateCampaign else context lease.action.next .invalidState

/-- The statuses a completion may leave. -/
def completable (lease : OzonLaunchLease) (status : OzonLaunchStatus) : Bool :=
  match lease.mode with
  | .execute => decide (status = lease.action.inProgressStatus)
  | .reconcile => status.requiresReconciliation

/-- Complete the leased action, or the whole launch. -/
def completeLaunchActionInner (identity : IdentityDigest) (db : Database) (now : ℤ)
    (lease : OzonLaunchLease) (campaignId : Option ℕ) (readback : Option Readback)
    (forceApplied : Bool) : Except OzonPlanStoreError Database := do
  let (effective, target) ← validateCompletion lease campaignId readback forceApplied
  let plan ← context (db.plans lease.plan.planId) .notFound
  let workflow ← requireLease db now lease
  requireIdentity identity plan.toPlanTerms workflow lease.action
  ensure (completable lease plan.status) .invalidState
  requireI64 effective
  let db ← insertGuardIfApplied (db.putPlan { plan with
    status := target, campaignId := effective.or plan.campaignId, lastErrorClass := none
    readback := if target = .applied then readback else none }) plan.toPlanTerms effective target
  let action ← nextAction lease target
  return db.putWorkflow lease.plan.planId { workflow with
    action := action, lease := none, writeStartedAt := none, availableAt := now
    lastErrorClass := none, lastReadback := readback.or workflow.lastReadback }

/-- Complete the leased action. -/
def completeLaunchAction (identity : IdentityDigest) (db : Database) (now : ℤ)
    (lease : OzonLaunchLease) (campaignId : Option ℕ) (readback : Option Readback) :
    Except OzonPlanStoreError Database :=
  completeLaunchActionInner identity db now lease campaignId readback false

/-- A recovery may prove the final state of an earlier action. -/
def confirmLaunchApplied (identity : IdentityDigest) (db : Database) (now : ℤ)
    (lease : OzonLaunchLease) (campaignId : ℕ) (readback : Readback) :
    Except OzonPlanStoreError Database := do
  ensure (exactRunningReadback readback campaignId lease.plan.toPlanTerms) .invalidPlan
  completeLaunchActionInner identity db now lease (some campaignId) (some readback) true

/-! ## Ambiguous, failed and released leases -/

/-- Give up the lease at its action until the backoff has passed. -/
def closeWorkflowAsAmbiguous (db : Database) (now : ℤ) (lease : OzonLaunchLease)
    (workflow : WorkflowRow) (errorClass : String) (readback : Option Readback) : Database :=
  db.putWorkflow lease.plan.planId { workflow with
    lease := none, writeStartedAt := none, availableAt := now + workflowRecoveryBackoff
    lastErrorClass := some errorClass, lastReadback := readback.or workflow.lastReadback }

/-- The plan an ambiguous lease leaves; an ambiguous plan stays as it is. -/
def ambiguousPlan (lease : OzonLaunchLease) (plan : PlanRow) (errorClass : String)
    (campaignId : Option ℕ) (readback : Option Readback) : Except OzonPlanStoreError PlanRow :=
  if plan.status = .ambiguous then return plan
  else do
    ensure (plan.status = lease.action.inProgressStatus) .invalidState
    return { plan with
      status := .ambiguous, campaignId := campaignId.or plan.campaignId
      lastErrorClass := some errorClass, readback := readback.or plan.readback }

/-- Leave the outcome of the leased action open. -/
def markLaunchAmbiguous (db : Database) (now : ℤ) (lease : OzonLaunchLease) (errorClass : String)
    (campaignId : Option ℕ) (readback : Option Readback) : Except OzonPlanStoreError Database := do
  validateLaunchLease lease
  validateErrorClass errorClass
  let plan ← context (db.plans lease.plan.planId) .notFound
  let workflow ← requireLease db now lease
  requireI64 campaignId
  let plan ← ambiguousPlan lease plan errorClass campaignId readback
  return closeWorkflowAsAmbiguous (db.putPlan plan) now lease workflow errorClass readback

/-- The error of an action whose precondition fails. -/
def preconditionConflict : OzonLaunchAction → String
  | .createCampaign => "ozon_create_precondition_conflict"
  | .addProducts => "ozon_products_precondition_conflict"
  | .activateCampaign => "ozon_activate_precondition_conflict"

/-- A conflict before the write is terminal; after the marker this path is closed. -/
def failLaunchAction (db : Database) (now : ℤ) (lease : OzonLaunchLease) (errorClass : String)
    (campaignId : Option ℕ) : Except OzonPlanStoreError Database := do
  validateLaunchLease lease
  ensure (lease.mode = .execute) .invalidState
  validateErrorClass errorClass
  let plan ← context (db.plans lease.plan.planId) .notFound
  let workflow ← requireLease db now lease
  ensure (plan.status = lease.action.stableStatus ∧ errorClass = preconditionConflict lease.action ∧
    campaignId = plan.campaignId) .invalidState
  requireI64 campaignId
  return closeWorkflowAsAmbiguous (db.putPlan { plan with
    status := .failed, campaignId := campaignId.or plan.campaignId
    lastErrorClass := some errorClass }) now lease workflow errorClass none

/-- Give up a lease. -/
def releaseLaunchLease (db : Database) (now : ℤ) (lease : OzonLaunchLease) (errorClass : String) :
    Except OzonPlanStoreError (Database × Unit) := do
  validateLaunchLease lease
  validateErrorClass errorClass
  let workflow ← context (db.workflows lease.plan.planId) .invalidState
  ensure (workflow.heldBy now lease) .invalidState
  return (db.putWorkflow lease.plan.planId { workflow with
    lease := none, writeStartedAt := none, lastErrorClass := some errorClass
    availableAt := now + seconds 120 }, ())

end AdsControl.Ozon
