import AdsControl.Ozon.Store

/-!
# Campaign guards

The evaluation of a guard and the transactions that move its row: observation, the first claim of a
stop, the reclaim of an expired one, the write marker, readback evidence and the terminal states.

* `evaluateOzonCampaignGuard`: when a campaign must stop;
* `claimGuardStopLeased`, `claimGuardStopRecovery`: the two ways to a lease;
* `startGuardStopWrite`, `recordGuardStopReadback`, `finishGuardLease`: what a lease can do.
-/

namespace AdsControl.Ozon

open Fallible

/-! ## Evaluation -/

/-- Why a campaign is stopped. -/
inductive OzonGuardStopReason
  | spendCapReached
  | drrCapExceeded
  deriving DecidableEq

/-- A reason as its column has it. -/
def OzonGuardStopReason.asStr : OzonGuardStopReason → String
  | spendCapReached => "spend_cap_reached"
  | drrCapExceeded => "drr_cap_exceeded"

/-- Why limits are not evaluated. -/
inductive OzonGuardEvaluationError
  | invalidLimit
  deriving DecidableEq

/-- The spend cap comes first; the DRR counts from the first attributed revenue on. -/
def evaluateOzonCampaignGuard (spendMinor attributedRevenueMinor spendCapMicrorubles
    targetDrrPercent : ℕ) : Except OzonGuardEvaluationError (Option OzonGuardStopReason) := do
  ensure (spendCapMicrorubles ≠ 0 ∧ spendCapMicrorubles % 10000 = 0 ∧ 10 ≤ targetDrrPercent ∧
    targetDrrPercent ≤ 100) .invalidLimit
  if spendCapMicrorubles / 10000 ≤ spendMinor then return some .spendCapReached
  else if 0 < attributedRevenueMinor ∧ attributedRevenueMinor * targetDrrPercent < spendMinor * 100
    then return some .drrCapExceeded
  else return none

/-! ## Guards and leases -/

/-- A guard as workers see it. -/
structure OzonCampaignGuard extends GuardTerms where
  status : OzonCampaignGuardStatus
  stopReason : Option String
  incidentErrorClass : Option String
  deriving DecidableEq

/-- The capability of one stop; a reclaim raises the generation. -/
structure OzonGuardStopLease where
  guard : OzonCampaignGuard
  stopReason : String
  spendMinor : Option ℕ
  revenueMinor : Option ℕ
  generation : ℕ
  ownerId : String
  leaseToken : String
  leaseExpiresAt : ℤ
  writeStartedAt : Option ℤ
  deriving DecidableEq

/-- What is read back of a stopped campaign. -/
inductive OzonGuardStopReadback
  | stopped
  | running
  | unavailable
  deriving DecidableEq

/-- How a stop ends. -/
inductive GuardStopOutcome
  | stopped
  | incident (errorClass : String)
  deriving DecidableEq

/-- How long a lease lasts. -/
def guardStopLeaseTtl : ℤ := seconds (5 * 60)

/-- A guard read from a row of the active set. -/
def guardFromRow (row : GuardRow) : OzonCampaignGuard where
  toGuardTerms := row.toGuardTerms
  status := .active
  stopReason := none
  incidentErrorClass := none

/-- Spend and revenue are known together. -/
def validateGuardMetricsPair (spendMinor revenueMinor : Option ℕ) :
    Except OzonPlanStoreError Unit :=
  ensure (spendMinor.isSome = revenueMinor.isSome) .invalidPlan

/-- The ids and limits of a guard. -/
def validateActiveGuard (guard : OzonCampaignGuard) : Except OzonPlanStoreError Unit := do
  validateDigest guard.planId
  validateIdentity guard.accountId
  ensure (guard.status = .active ∧ guard.stopReason = none ∧ guard.incidentErrorClass = none)
    .invalidPlan

/-- The ids of a lease. -/
def validateGuardStopLease (lease : OzonGuardStopLease) : Except OzonPlanStoreError Unit := do
  validateDigest lease.guard.planId
  validateIdentity lease.guard.accountId
  validateIdentity lease.ownerId
  validateDigest lease.leaseToken
  ensure (lease.guard.campaignId ≠ 0 ∧ lease.generation ≠ 0 ∧ lease.guard.status = .stopping ∧
    lease.guard.stopReason = some lease.stopReason ∧ lease.guard.incidentErrorClass = none)
    .invalidPlan

/-- Replace the row of a guard. -/
def Database.putGuard (db : Database) (row : GuardRow) : Database :=
  { db with guards := Function.update db.guards row.planId (some row) }

/-! ## Transactions -/

/-- The active guards of an account; `listed` are the plans the query visits, in its order. -/
def activeGuardsForAccount (db : Database) (listed : List String) (accountId : String) :
    Except OzonPlanStoreError (List OzonCampaignGuard) := do
  validateIdentity accountId
  return (listed.filterMap db.guards).filterMap fun row =>
    if row.accountId = accountId ∧ row.status = .active then some (guardFromRow row) else none

/-- Record an observation of an active guard. -/
def recordGuardObservation (db : Database) (now : ℤ) (expected : OzonCampaignGuard)
    (spendMinor revenueMinor : ℕ) : Except OzonPlanStoreError (Database × Unit) := do
  validateActiveGuard expected
  requireI64 (some spendMinor)
  requireI64 (some revenueMinor)
  let row ← context (db.guards expected.planId) .invalidState
  ensure (row.toGuardTerms = expected.toGuardTerms ∧ row.status = .active) .invalidState
  return (db.putGuard { row with
    lastSpendMinor := some spendMinor, lastRevenueMinor := some revenueMinor
    lastCheckedAt := some now }, ())

/-- Change an active guard to a fenced, recoverable stop of generation one. -/
def claimGuardStopLeased (digest : TokenDigest) (db : Database) (now : ℤ)
    (expected : OzonCampaignGuard) (reason : String) (spendMinor revenueMinor : Option ℕ)
    (workerId : String) : Except OzonPlanStoreError (Database × OzonGuardStopLease) := do
  validateActiveGuard expected
  validateErrorClass reason
  validateIdentity workerId
  validateGuardMetricsPair spendMinor revenueMinor
  let row ← context (db.guards expected.planId) .invalidState
  ensure (row.accountId = expected.accountId ∧ row.campaignId = expected.campaignId ∧
    row.status = .active) .invalidState
  let guard := guardFromRow row
  ensure (guard = expected) .invalidState
  requireI64 spendMinor
  requireI64 revenueMinor
  let expiresAt := now + guardStopLeaseTtl
  let token := digest "mcp-ozon/guard-stop-lease/v1" expected.planId workerId 1 now
  return (db.putGuard { row with
      status := .stopping, stopReason := some reason, lastSpendMinor := spendMinor
      lastRevenueMinor := revenueMinor, lastCheckedAt := some now, stopGeneration := 1
      stopLease := some ⟨workerId, token, now, expiresAt⟩ },
    { guard := { guard with status := .stopping, stopReason := some reason }
      stopReason := reason
      spendMinor := spendMinor
      revenueMinor := revenueMinor
      generation := 1
      ownerId := workerId
      leaseToken := token
      leaseExpiresAt := expiresAt
      writeStartedAt := none })

/-- Reclaim one expired stop under the next generation. Locked rows are skipped, so any expired row
may be `selected`, and none when all are locked. -/
def claimGuardStopRecovery (digest : TokenDigest) (db : Database) (now : ℤ)
    (selected : Option String) (accountId workerId : String) :
    Except OzonPlanStoreError (Database × Option OzonGuardStopLease) := do
  validateIdentity accountId
  validateIdentity workerId
  match selected.bind db.guards with
  | none => return (db, none)
  | some row =>
    let lease ← context row.stopLease .unavailable
    ensure (row.accountId = accountId ∧ row.status = .stopping ∧ lease.expiresAt ≤ now) .unavailable
    let reason ← context row.stopReason .unavailable
    (validateGuardMetricsPair row.lastSpendMinor row.lastRevenueMinor).mapError
      fun _ => .unavailable
    let generation ← context (Machine.checkedAdd 63 row.stopGeneration 1) .invalidState
    let expiresAt := now + guardStopLeaseTtl
    let token := digest "mcp-ozon/guard-stop-recovery/v1" row.planId workerId generation now
    return (db.putGuard { row with
        stopGeneration := generation, stopLease := some ⟨workerId, token, now, expiresAt⟩ },
      some {
        guard := { guardFromRow row with status := .stopping, stopReason := some reason }
        stopReason := reason
        spendMinor := row.lastSpendMinor
        revenueMinor := row.lastRevenueMinor
        generation := generation
        ownerId := workerId
        leaseToken := token
        leaseExpiresAt := expiresAt
        writeStartedAt := row.stopWriteStartedAt })

/-- The row is still stopping under this lease. -/
def GuardRow.fencedBy (row : GuardRow) (now : ℤ) (lease : OzonGuardStopLease) : Bool :=
  decide (row.toGuardTerms = lease.guard.toGuardTerms ∧ row.status = .stopping ∧
    row.stopReason = some lease.stopReason ∧ row.stopGeneration = lease.generation) &&
    row.stopLease.any fun columns => columns.ownerId == lease.ownerId &&
      columns.token == lease.leaseToken && decide (now < columns.expiresAt)

/-- The metrics of the lease are those that were stored. -/
def GuardRow.sameEvidence (row : GuardRow) (lease : OzonGuardStopLease) : Bool :=
  decide (row.lastSpendMinor = lease.spendMinor ∧ row.lastRevenueMinor = lease.revenueMinor)

/-- The applied plan of a guard. -/
def PlanRow.appliedFor (plan : PlanRow) (guard : OzonCampaignGuard) : Bool :=
  decide (plan.accountId = guard.accountId ∧ plan.sku = guard.sku ∧
    plan.campaignId = some guard.campaignId ∧ plan.status = .applied)

/-- Persist the irreversible mutation boundary; every later owner is readback-only. -/
def startGuardStopWrite (db : Database) (now : ℤ) (lease : OzonGuardStopLease) :
    Except OzonPlanStoreError (Database × Unit) := do
  validateGuardStopLease lease
  ensure (lease.writeStartedAt = none) .invalidState
  let plan ← context (db.plans lease.guard.planId) .invalidState
  ensure (plan.appliedFor lease.guard) .invalidState
  requirePolicy db plan.policy
  requireGates db now lease.guard.accountId lease.guard.sku
  let row ← context (db.guards lease.guard.planId) .leaseLost
  ensure (row.fencedBy now lease ∧ row.stopWriteStartedAt = none) .leaseLost
  return (db.putGuard { row with stopWriteStartedAt := some now }, ())

/-- Append a readback result under the lease; the row does not change. -/
def recordGuardStopReadback (db : Database) (now : ℤ) (lease : OzonGuardStopLease)
    (_observation : OzonGuardStopReadback) : Except OzonPlanStoreError (Database × Unit) := do
  validateGuardStopLease lease
  let row ← context (db.guards lease.guard.planId) .leaseLost
  ensure (row.fencedBy now lease ∧ row.sameEvidence lease) .leaseLost
  return (db, ())

/-- The terminal row of an outcome. -/
def GuardRow.finished (row : GuardRow) (now : ℤ) : GuardStopOutcome → GuardRow
  | .stopped => { row with status := .stopped, incidentErrorClass := none, stoppedAt := some now }
  | .incident errorClass =>
    { row with status := .incident, incidentErrorClass := some errorClass, stoppedAt := none }

/-- The row already holds this outcome under this lease. -/
def GuardRow.replays (row : GuardRow) (lease : OzonGuardStopLease) (outcome : GuardStopOutcome) :
    Bool :=
  decide (row.toGuardTerms = lease.guard.toGuardTerms ∧ row.stopGeneration = lease.generation ∧
    row.stopReason = some lease.stopReason) && row.sameEvidence lease &&
    (row.stopLease.any fun columns => columns.ownerId == lease.ownerId &&
      columns.token == lease.leaseToken) &&
    match outcome with
    | .stopped => decide (row.status = .stopped ∧ row.incidentErrorClass = none) &&
        row.stoppedAt.isSome
    | .incident errorClass => decide (row.status = .incident ∧
        row.incidentErrorClass = some errorClass ∧ row.stoppedAt = none)

/-- The error class of an incident. -/
def GuardStopOutcome.validate : GuardStopOutcome → Except OzonPlanStoreError Unit
  | stopped => .ok ()
  | incident errorClass => validateErrorClass errorClass

/-- Close a stop under its lease, or accept that it was closed so before. -/
def finishGuardLease (db : Database) (now : ℤ) (lease : OzonGuardStopLease)
    (outcome : GuardStopOutcome) (spendMinor revenueMinor : Option ℕ) :
    Except OzonPlanStoreError (Database × Unit) := do
  validateGuardStopLease lease
  outcome.validate
  validateGuardMetricsPair spendMinor revenueMinor
  ensure (spendMinor = lease.spendMinor ∧ revenueMinor = lease.revenueMinor) .invalidState
  let row ← context (db.guards lease.guard.planId) .invalidState
  if row.fencedBy now lease ∧ row.sameEvidence lease then
    return (db.putGuard (row.finished now outcome), ())
  else
    ensure (row.replays lease outcome) .invalidState
    return (db, ())

end AdsControl.Ozon
