import AdsControl.Calendar
import AdsControl.Text
import AdsControl.Lib.Fallible
import AdsControl.Lib.Machine

/-!
# The Ozon control store

The tables behind the durable launch and stop workflows, and the checks their transactions share. A
transaction is a function of the tables and of one instant of the database clock; a trigger or
constraint that refuses a row makes the transaction fail, and any transaction may fail.

* `PlanRow`, `WorkflowRow`, `GuardRow`, `Database`: the tables;
* `requirePolicy`, `requireGates`: the permits of a mutation.
-/

namespace AdsControl.Ozon

open Fallible

/-- Why a transaction is refused. -/
inductive OzonPlanStoreError
  | unavailable
  | notFound
  | invalidState
  | expired
  | approvalExpired
  | planChanged
  | policyChanged
  | runtimeDisabled
  | skuLocked
  | invalidPlan
  | leaseLost
  deriving DecidableEq

/-! ## Launch states -/

/-- Where a launch stands. -/
inductive OzonLaunchStatus
  | prepared
  | approved
  | creating
  | created
  | addingProducts
  | productsAdded
  | activating
  | applied
  | ambiguous
  | failed
  | expired
  deriving DecidableEq

/-- A status as its column has it. -/
def OzonLaunchStatus.asDb : OzonLaunchStatus → String
  | prepared => "prepared"
  | approved => "approved"
  | creating => "creating"
  | created => "created"
  | addingProducts => "adding_products"
  | productsAdded => "products_added"
  | activating => "activating"
  | applied => "applied"
  | ambiguous => "ambiguous"
  | failed => "failed"
  | expired => "expired"

/-- One externally visible mutation of the launch workflow. -/
inductive OzonLaunchAction
  | createCampaign
  | addProducts
  | activateCampaign
  deriving DecidableEq

namespace OzonLaunchAction

/-- An action as its column has it. -/
def asDb : OzonLaunchAction → String
  | createCampaign => "create_campaign"
  | addProducts => "add_products"
  | activateCampaign => "activate_campaign"

/-- The status before an action. -/
def stableStatus : OzonLaunchAction → OzonLaunchStatus
  | createCampaign => .approved
  | addProducts => .created
  | activateCampaign => .productsAdded

/-- The status while it runs. -/
def inProgressStatus : OzonLaunchAction → OzonLaunchStatus
  | createCampaign => .creating
  | addProducts => .addingProducts
  | activateCampaign => .activating

/-- The status after it. -/
def completedStatus : OzonLaunchAction → OzonLaunchStatus
  | createCampaign => .created
  | addProducts => .productsAdded
  | activateCampaign => .applied

/-- The action that follows. -/
def next : OzonLaunchAction → Option OzonLaunchAction
  | createCampaign => some addProducts
  | addProducts => some activateCampaign
  | activateCampaign => none

end OzonLaunchAction

/-! ## Rows -/

/-- The columns of a lease; a row has all of them or none. -/
structure LeaseColumns where
  ownerId : String
  token : String
  claimedAt : ℤ
  expiresAt : ℤ
  deriving DecidableEq

/-- A revision of the policy. -/
structure PolicyRevision where
  schemaVersion : ℕ
  policyRevision : ℕ
  policyDigest : String
  deriving DecidableEq

/-- A switch under a lease. -/
structure RuntimeGate where
  enabled : Bool
  leaseExpiresAt : ℤ
  disabledUntil : Option ℤ
  deriving DecidableEq

/-- What is launched. -/
structure OzonCampaignLaunchSpec where
  fromDate : String
  perSkuSpendCapMicrorubles : ℕ
  initialCpcBidMicrorubles : ℕ
  targetDrrPercent : ℕ
  deriving DecidableEq

/-- The launch with the title of its campaign. -/
structure OzonCampaignLaunchManifest where
  spec : OzonCampaignLaunchSpec
  title : String
  deriving DecidableEq

/-- The fields of a readback document that the store inspects. -/
structure Readback where
  campaignId : Option ℕ
  sku : Option ℕ
  bidMicrorubles : Option ℕ
  title : Option String
  state : Option String
  action : Option String
  verified : Option Bool
  deriving DecidableEq

/-- The immutable part of a plan. -/
structure PlanTerms where
  planId : String
  planDigest : String
  actorId : String
  accountId : String
  sku : ℕ
  policy : PolicyRevision
  manifest : OzonCampaignLaunchManifest
  expiresAt : ℤ
  deriving DecidableEq

/-- A plan as it is stored. -/
structure PlanRow extends PlanTerms where
  status : OzonLaunchStatus
  campaignId : Option ℕ
  lastErrorClass : Option String
  readback : Option Readback
  deriving DecidableEq

/-- An approval as it is stored. -/
structure ApprovalRow where
  planDigest : String
  approverId : String
  reference : String
  expiresAt : ℤ
  deriving DecidableEq

/-- The continuation pointer of a launch and its fenced lease. -/
structure WorkflowRow where
  action : OzonLaunchAction
  generation : ℕ
  lease : Option LeaseColumns
  writeStartedAt : Option ℤ
  requestedAt : Option ℤ
  requestedByActorId : Option String
  createIdentityPreflightAt : Option ℤ
  createIdentityPreflightDigest : Option String
  availableAt : ℤ
  lastErrorClass : Option String
  lastReadback : Option Readback
  deriving DecidableEq

/-- Where a guard stands. -/
inductive OzonCampaignGuardStatus
  | active
  | stopping
  | stopped
  | incident
  deriving DecidableEq

/-- The immutable part of a guard. -/
structure GuardTerms where
  planId : String
  accountId : String
  sku : ℕ
  campaignId : ℕ
  dateFrom : String
  spendCapMicrorubles : ℕ
  targetDrrPercent : ℕ
  deriving DecidableEq

/-- A guard as it is stored. -/
structure GuardRow extends GuardTerms where
  status : OzonCampaignGuardStatus
  stopReason : Option String
  lastSpendMinor : Option ℕ
  lastRevenueMinor : Option ℕ
  lastCheckedAt : Option ℤ
  stoppedAt : Option ℤ
  stopGeneration : ℕ
  stopLease : Option LeaseColumns
  stopWriteStartedAt : Option ℤ
  incidentErrorClass : Option String
  deriving DecidableEq

/-- A guard as it is inserted. -/
def GuardTerms.newRow (terms : GuardTerms) : GuardRow where
  toGuardTerms := terms
  status := .active
  stopReason := none
  lastSpendMinor := none
  lastRevenueMinor := none
  lastCheckedAt := none
  stoppedAt := none
  stopGeneration := 0
  stopLease := none
  stopWriteStartedAt := none
  incidentErrorClass := none

/-- The tables, keyed by plan; gates by their key. `policy` is the latest registered revision. -/
structure Database where
  policy : Option PolicyRevision
  gates : String → Option RuntimeGate
  plans : String → Option PlanRow
  approvals : String → Option ApprovalRow
  reservations : String → Option (String × ℕ)
  workflows : String → Option WorkflowRow
  guards : String → Option GuardRow

/-! ## Validation -/

/-- SHA-256 in lower-case hexadecimal. -/
def validateDigest (value : String) : Except OzonPlanStoreError Unit :=
  ensure (value.utf8ByteSize = 64 ∧ value.toList.all fun c => c.isDigit || ('a' ≤ c && c ≤ 'f'))
    .invalidPlan

/-- The characters of an identity. -/
def validateIdentity (value : String) : Except OzonPlanStoreError Unit :=
  ensure (asciiWord ['_', '-', '.'] value) .invalidPlan

/-- The characters of an error class. -/
def validateErrorClass (value : String) : Except OzonPlanStoreError Unit :=
  ensure (value ≠ "" ∧ value.utf8ByteSize ≤ 64 ∧
    value.toList.all fun c => c.isLower || c.isDigit || c == '_') .invalidPlan

/-- A number that fits a `bigint` column. -/
def requireI64 (value : Option ℕ) : Except OzonPlanStoreError Unit :=
  ensure (value.all fun n => n < 2 ^ 63) .invalidPlan

/-- The token of a lease: a digest of its kind, plan, worker, generation and time. -/
abbrev TokenDigest : Type := String → String → String → ℕ → ℤ → String

/-! ## Permits -/

/-- The plan must use the latest policy. -/
def requirePolicy (db : Database) (policy : PolicyRevision) : Except OzonPlanStoreError Unit :=
  ensure (db.policy = some policy) .policyChanged

/-- Switched on, under an unexpired lease, and past any pause. -/
def gateActive (now : ℤ) (gate : RuntimeGate) : Bool :=
  gate.enabled && decide (now < gate.leaseExpiresAt) && gate.disabledUntil.all (· ≤ now)

/-- The global, account and SKU gates must all be open. -/
def requireGates (db : Database) (now : ℤ) (account : String) (sku : ℕ) :
    Except OzonPlanStoreError Unit :=
  ensure (asciiWord ['_', '-', '.'] account ∧ 0 < sku ∧ ["global", "account/" ++ account,
      "sku/" ++ account ++ "/" ++ toString sku].all fun key => (db.gates key).any (gateActive now))
    .runtimeDisabled

end AdsControl.Ozon
