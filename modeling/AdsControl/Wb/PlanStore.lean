import AdsControl.Calendar
import AdsControl.Text
import AdsControl.Lib.Machine
import AdsControl.Lib.Method
import AdsControl.Lib.SlidingWindow
import AdsControl.Wb.LaunchManifest

/-!
# The store of bid plans

A plan of bid changes is prepared against a short reservation, approved by a second person, claimed
for one write, and finished or reconciled. Every call is a transaction under the lock of its
campaign; the triggers of the database check the inserts and the updates of a transaction again, with
later readings of its clock.

* `Store`: policy revisions, prepare reservations, plans with their approvals, action reservations;
* `reservePrepareAttempt`, `create`, `approve`, `claimForApply`, `markStaleApplyingAmbiguous`,
  `finish`, `confirmReconciled`: the calls;
* `reserveActionQuota`, `validateWbReservationInsert`: the rolling quota, as the repository and as
  the trigger check it.

Identifiers made of digests are arguments of the calls. The rows of the runtime gates belong to the
operator and are arguments, too.
-/

namespace AdsControl.Wb.Plan

open Fallible Receiver SlidingWindow
open AdsControl.Wb.Launch (WbBidPlacement WbPreparedBidChange)

/-! ## Data -/

/-- Where a plan stands. -/
inductive WbPlanStatus
  | prepared
  | approved
  | applying
  | applied
  | reconciliationRequired
  | ambiguous
  | rejected
  | failed
  | expired
  deriving DecidableEq

/-- Why a transaction on plans is refused. -/
inductive PlanStoreError
  | unavailable
  | notFound
  | invalidState
  | expired
  | approvalRequired
  | approvalExpired
  | planChanged
  | policyChanged
  | campaignLocked
  | runtimeDisabled
  | quotaExceeded
  | prepareLimitExceeded
  | busy
  | applyInProgress
  | invalidPlan
  deriving DecidableEq

/-- Rolling limits copied from the policy into the plan. -/
structure WbActionQuota where
  maxActionsPerHour : ℕ
  maxActionsPerDay : ℕ
  cooldownSeconds : ℕ
  maxCumulativeAbsDeltaKopecksPerDay : ℕ
  deriving DecidableEq

/-- A campaign of an account. -/
structure Campaign where
  accountId : String
  advertId : ℕ
  deriving DecidableEq

/-- What a reservation and the plan made from it agree on. -/
structure WbPlanBinding where
  actorId : String
  accountId : String
  advertId : ℕ
  schemaVersion : ℕ
  policyRevision : ℕ
  policyDigest : String
  actionQuota : WbActionQuota
  deriving DecidableEq

/-- The campaign a binding is for. -/
def WbPlanBinding.campaign (self : WbPlanBinding) : Campaign := ⟨self.accountId, self.advertId⟩

/-- The authorization to read a campaign and to prepare one plan. -/
structure WbPrepareReservation extends WbPlanBinding where
  reservationId : String
  reservedAt : ℤ
  expiresAt : ℤ

/-- A bid that an actor asks for. -/
structure WbBidChange where
  nmId : ℕ
  placement : WbBidPlacement
  bidKopecks : ℕ

/-- A bid as it was read. -/
structure WbSnapshotBid where
  nmId : ℕ
  placement : WbBidPlacement
  bidKopecks : ℕ

/-- The bids of a campaign at one instant. -/
structure WbCampaignBidSnapshot where
  sellerSid : String
  advertId : ℕ
  status : ℤ
  bidType : String
  paymentType : String
  bids : List WbSnapshotBid

/-- Who approved a plan, and why. -/
structure WbPlanApproval where
  approvalId : String
  approverId : String
  reason : String
  approvedAt : ℤ
  expiresAt : ℤ

/-- A plan with the approval that points to it. -/
structure WbControlPlan extends WbPlanBinding where
  planId : String
  planDigest : String
  prepareReservationId : String
  status : WbPlanStatus
  approval : Option WbPlanApproval
  requested : List WbBidChange
  changes : List WbPreparedBidChange
  before : WbCampaignBidSnapshot
  createdAt : ℤ
  expiresAt : ℤ
  applyStartedAt : Option ℤ
  lastErrorClass : Option String
  writeResponse : Option String
  readback : Option WbCampaignBidSnapshot

/-- A revision of the policy. -/
structure WbPolicyRevision where
  policyRevision : ℕ
  schemaVersion : ℕ
  policyDigest : String

/-- A consumed attempt to write. -/
structure WbActionReservation where
  planId : String
  accountId : String
  advertId : ℕ
  cumulativeAbsDeltaKopecks : ℕ
  quota : WbActionQuota
  reservedAt : ℤ

/-- The campaign an action is reserved for. -/
def WbActionReservation.campaign (self : WbActionReservation) : Campaign :=
  ⟨self.accountId, self.advertId⟩

/-- The tables, newest rows first. -/
structure Store where
  policyRevisions : List WbPolicyRevision
  prepareReservations : List WbPrepareReservation
  plans : List WbControlPlan
  actionReservations : List WbActionReservation

/-- No plans, reservations or actions yet. -/
def Store.empty : Store := ⟨[], [], [], []⟩

/-- The clock readings of one transaction: the repository's, the gates', and those of the triggers
on its insert and on its update. -/
structure Clock where
  databaseNow : ℤ
  gatesNow : ℤ
  securityNow : ℤ
  transitionNow : ℤ
  gates_le : databaseNow ≤ gatesNow
  security_le : gatesNow ≤ securityNow
  transition_le : securityNow ≤ transitionNow

/-- A switch under a lease. -/
structure WbRuntimeGate where
  enabled : Bool
  leaseExpiresAt : ℤ
  disabledUntil : Option ℤ

/-- The switches by their names. -/
abbrev WbRuntimeGates : Type := String → Option WbRuntimeGate

/-! ## Validation -/

/-- Minutes as a duration. -/
def minutes (n : ℤ) : ℤ := seconds (n * 60)

/-- How long a plan may be approved and applied. -/
def planTtl : ℤ := minutes 5

/-- How long an approval holds. -/
def approvalTtl : ℤ := minutes 2

/-- How long an attempt to prepare is reserved. -/
def prepareReservationTtl : ℤ := minutes 2

/-- After this an apply counts as crashed. -/
def staleApplyAfter : ℤ := minutes 3

/-- The bounds of a quota. -/
def WbActionQuota.validate (self : WbActionQuota) : Except PlanStoreError Unit :=
  ensure (self.maxActionsPerHour ≠ 0 ∧ self.maxActionsPerHour ≤ 60 ∧
    self.maxActionsPerHour ≤ self.maxActionsPerDay ∧ self.maxActionsPerDay ≤ 500 ∧
    30 ≤ self.cooldownSeconds ∧ self.cooldownSeconds ≤ 86400 ∧
    self.maxCumulativeAbsDeltaKopecksPerDay ≠ 0 ∧ self.maxActionsPerHour < 2 ^ 31 ∧
    self.maxActionsPerDay < 2 ^ 31 ∧ self.cooldownSeconds < 2 ^ 31 ∧
    self.maxCumulativeAbsDeltaKopecksPerDay < 2 ^ 63) .invalidPlan

/-- A digest of 64 lowercase hexadecimal digits. -/
def isLowerHexDigest (value : String) : Bool :=
  decide (value.utf8ByteSize = 64) && value.toList.all fun c => c.isDigit || ('a' ≤ c && c ≤ 'f')

/-- An id that no plan can have is not found. -/
def validatePlanId (planId : String) : Except PlanStoreError Unit :=
  ensure (isLowerHexDigest planId) .notFound

/-- A digest in its canonical form. -/
def validateDigest (digest : String) : Except PlanStoreError Unit :=
  ensure (isLowerHexDigest digest) .invalidPlan

/-- The characters of an actor or account. -/
def validateActorOrAccount (value : String) : Except PlanStoreError Unit :=
  ensure (asciiWord ['_', '.', '-'] value) .invalidPlan

/-- The characters of a reason. -/
def validateApprovalReason (reason : String) : Except PlanStoreError Unit :=
  ensure (asciiWord ['_', '.', ':', '/', '-'] reason) .invalidPlan

/-- The checks of the arguments a reservation and a plan share; the numbers fit their columns. -/
def WbPlanBinding.validate (self : WbPlanBinding) : Except PlanStoreError Unit := do
  validateActorOrAccount self.actorId
  validateActorOrAccount self.accountId
  validateDigest self.policyDigest
  self.actionQuota.validate
  ensure (self.advertId ≠ 0 ∧ self.schemaVersion ≠ 0 ∧ self.policyRevision ≠ 0) .invalidPlan
  ensure (self.advertId < 2 ^ 63 ∧ self.schemaVersion < 2 ^ 31 ∧ self.policyRevision < 2 ^ 63)
    .invalidPlan

/-- The change of a bid. -/
def absDelta (change : WbPreparedBidChange) : ℕ := Nat.dist change.beforeBidKopecks change.bidKopecks

/-- The sum of the changes without their signs; some bid has to change. -/
def cumulativeAbsDelta (changes : List WbPreparedBidChange) : Except PlanStoreError ℕ := do
  let total ← context (changes.foldlM (fun total change => Machine.checkedAdd 64 total (absDelta change)) 0)
    .invalidPlan
  ensure (0 < total) .invalidPlan
  return total

/-- Every changed bid has its old value, or its new one. -/
def snapshotMatchesExpected (snapshot : WbCampaignBidSnapshot) (changes : List WbPreparedBidChange)
    (expectedAfter : Bool) : Bool :=
  changes.all fun change =>
    (snapshot.bids.find? fun bid => bid.nmId == change.nmId && bid.placement == change.placement).any
      fun bid => bid.bidKopecks == if expectedAfter then change.bidKopecks else change.beforeBidKopecks

/-- Nothing but the changed bids differs from the snapshot of the plan. -/
def snapshotMatchesPlanState (snapshot before : WbCampaignBidSnapshot)
    (changes : List WbPreparedBidChange) (expectedAfter : Bool) : Bool :=
  snapshot.sellerSid == before.sellerSid && snapshot.advertId == before.advertId &&
    snapshot.status == before.status && snapshot.bidType == before.bidType &&
    snapshot.paymentType == before.paymentType && snapshot.bids.length == before.bids.length &&
    before.bids.length == changes.length && snapshotMatchesExpected snapshot changes expectedAfter

/-- A UUID in lowercase, other than the nil one. -/
def isCanonicalUuid (value : String) : Bool :=
  decide (value.utf8ByteSize = 36 ∧ value ≠ "00000000-0000-0000-0000-000000000000") &&
    value.toList.zipIdx.all fun (c, index) =>
      if [8, 13, 18, 23].contains index then c == '-' else c.isDigit || ('a' ≤ c && c ≤ 'f')

/-- The trigger's own proof that a readback shows the plan applied. -/
def expectedAfterProven (plan : WbControlPlan) (readback : WbCampaignBidSnapshot) : Bool :=
  readback.advertId == plan.advertId && isCanonicalUuid plan.before.sellerSid &&
    readback.sellerSid == plan.before.sellerSid && readback.status == plan.before.status &&
    readback.bidType == plan.before.bidType && readback.paymentType == plan.before.paymentType &&
    readback.bids.length == plan.before.bids.length &&
    plan.before.bids.length == plan.changes.length &&
    decide (readback.bids.map fun bid => (bid.nmId, bid.placement)).Nodup &&
    decide (plan.before.bids.map fun bid => (bid.nmId, bid.placement)).Nodup &&
    decide (plan.changes.map fun change => (change.nmId, change.placement)).Nodup &&
    plan.changes.all fun change =>
      (plan.before.bids.any fun bid => bid.nmId == change.nmId && bid.placement == change.placement &&
        bid.bidKopecks == change.beforeBidKopecks) &&
      readback.bids.any fun bid => bid.nmId == change.nmId && bid.placement == change.placement &&
        bid.bidKopecks == change.bidKopecks

/-! ## Queries -/

/-- Switched on, under an unexpired lease, and past any pause. -/
def WbRuntimeGate.isActive (self : WbRuntimeGate) (now : ℤ) : Bool :=
  self.enabled && decide (now < self.leaseExpiresAt) && self.disabledUntil.all (· ≤ now)

/-- The global, the account's and the campaign's gate are open. -/
def gatesActive (gates : WbRuntimeGates) (campaign : Campaign) (now : ℤ) : Bool :=
  ["global", "account/" ++ campaign.accountId,
    "campaign/" ++ campaign.accountId ++ "/" ++ toString campaign.advertId].all
      fun key => (gates key).any (·.isActive now)

/-- Every switch of the campaign is active. -/
def requireRuntimeGates (gates : WbRuntimeGates) (campaign : Campaign) (now : ℤ) :
    Except PlanStoreError Unit :=
  ensure (gatesActive gates campaign now) .runtimeDisabled

/-- The plan waits for its approval or for its claim. -/
def WbControlPlan.isOutstanding (self : WbControlPlan) (campaign : Campaign) (now : ℤ) : Bool :=
  decide (self.campaign = campaign ∧ (self.status = .prepared ∨ self.status = .approved) ∧
    now < self.expiresAt)

/-- A plan whose outcome nobody has settled. -/
def WbControlPlan.isIncident (self : WbControlPlan) (campaign : Campaign) : Bool :=
  decide (self.campaign = campaign ∧ (self.status = .reconciliationRequired ∨ self.status = .ambiguous))

namespace Store

variable (self : Store)

/-- The highest registered revision. -/
def activePolicy : Option WbPolicyRevision := self.policyRevisions.argmax (·.policyRevision)

/-- The request is bound to the active policy. -/
def requireActivePolicy (schemaVersion policyRevision : ℕ) (policyDigest : String) :
    Except PlanStoreError Unit := do
  ensure (schemaVersion < 2 ^ 31 ∧ policyRevision < 2 ^ 63) .invalidPlan
  ensure (self.activePolicy.any fun active => decide (active.schemaVersion = schemaVersion ∧
    active.policyRevision = policyRevision ∧ active.policyDigest = policyDigest)) .policyChanged

/-- Another plan of the campaign has an unsettled outcome. -/
def campaignHasIncident (campaign : Campaign) (exceptPlanId : Option String) : Bool :=
  self.plans.any fun plan => plan.isIncident campaign && plan.planId != exceptPlanId.getD ""

/-- A plan was made from the reservation. -/
def isConsumed (reservationId : String) : Bool :=
  self.plans.any (·.prepareReservationId == reservationId)

/-- An attempt that has neither expired nor become a plan. -/
def isPending (campaign : Campaign) (now : ℤ) (reservation : WbPrepareReservation) : Bool :=
  decide (reservation.campaign = campaign ∧ now < reservation.expiresAt) &&
    !self.isConsumed reservation.reservationId

/-- The plans and attempts of a campaign that may still be applied. -/
def countOutstandingPrepares (campaign : Campaign) (now : ℤ) : ℕ :=
  self.plans.countP (·.isOutstanding campaign now) +
    self.prepareReservations.countP (self.isPending campaign now)

/-- The limits on attempts to prepare: of the actor, of the campaign, and outstanding ones. -/
def checkPrepareLimits (binding : WbPlanBinding) (now : ℤ) : Except PlanStoreError Unit :=
  ensure (self.prepareReservations.countP (fun reservation =>
      reservation.actorId = binding.actorId ∧ now - hours 1 < reservation.reservedAt) < 60 ∧
    self.prepareReservations.countP (fun reservation =>
      reservation.campaign = binding.campaign ∧ now - hours 1 < reservation.reservedAt) <
        binding.actionQuota.maxActionsPerHour ∧
    self.countOutstandingPrepares binding.campaign now < 3) .prepareLimitExceeded

/-- The action reservations of a campaign. -/
def actions (campaign : Campaign) : List WbActionReservation :=
  self.actionReservations.filter (·.campaign = campaign)

/-- Change exactly one selected plan. -/
def updatePlan (selects : WbControlPlan → Bool) (change : WbControlPlan → WbControlPlan)
    (e : PlanStoreError) : Except PlanStoreError Store := do
  ensure (self.plans.countP selects = 1) e
  return { self with plans := self.plans.map fun plan => if selects plan then change plan else plan }

/-- A plan that may be applied no longer. -/
def expirePlan (planId : String) : Except PlanStoreError Store :=
  self.updatePlan (fun plan => plan.planId = planId ∧ (plan.status = .prepared ∨ plan.status = .approved))
    (fun plan => { plan with status := .expired }) .invalidState

end Store

/-! ## The rolling quota -/

/-- What the last hour and the last day hold. -/
structure QuotaUsage where
  actionsHour : ℕ
  actionsDay : ℕ
  deltaDay : ℕ
  last : Option ℤ

/-- What the actions of the last hour and day used. -/
def Store.quotaUsage (self : Store) (campaign : Campaign) (now : ℤ) : QuotaUsage :=
  let day := recent WbActionReservation.reservedAt (now - hours 24) (self.actions campaign)
  { actionsHour := (recent WbActionReservation.reservedAt (now - hours 1) day).length
    actionsDay := day.length
    deltaDay := total WbActionReservation.cumulativeAbsDeltaKopecks day
    last := (day.map WbActionReservation.reservedAt).max? }

/-- The trigger on an insert of an action reservation makes its row from the plan. -/
def validateWbReservationInsert (s : Store) (plan : WbControlPlan) (gates : WbRuntimeGates)
    (securityNow : ℤ) : Except PlanStoreError WbActionReservation := do
  ensure (plan.status = .approved ∧ s.activePolicy.any (·.policyRevision == plan.policyRevision))
    .unavailable
  ensure (securityNow < plan.expiresAt ∧ plan.approval.any (securityNow < ·.expiresAt)) .unavailable
  ensure (¬ s.campaignHasIncident plan.campaign (some plan.planId)) .unavailable
  ensure (gatesActive gates plan.campaign securityNow) .unavailable
  let usage := s.quotaUsage plan.campaign securityNow
  let delta := (plan.changes.map absDelta).sum
  -- the columns and the variables are 64-bit integers, and their sums do not wrap
  ensure ((∀ change ∈ plan.changes, change.bidKopecks < 2 ^ 63 ∧ change.beforeBidKopecks < 2 ^ 63) ∧
    usage.deltaDay < 2 ^ 63 ∧ delta < 2 ^ 63 ∧ usage.deltaDay + delta < 2 ^ 63) .unavailable
  ensure (0 < delta ∧ usage.actionsHour < plan.actionQuota.maxActionsPerHour ∧
    usage.actionsDay < plan.actionQuota.maxActionsPerDay ∧
    usage.deltaDay + delta ≤ plan.actionQuota.maxCumulativeAbsDeltaKopecksPerDay ∧
    usage.last.all (· + seconds plan.actionQuota.cooldownSeconds ≤ securityNow)) .unavailable
  return ⟨plan.planId, plan.accountId, plan.advertId, delta, plan.actionQuota, securityNow⟩

/-- Reserve the action of a plan within its quota. -/
def reserveActionQuota (s : Store) (plan : WbControlPlan) (gates : WbRuntimeGates) (clock : Clock) :
    Except PlanStoreError Store := do
  let usage := s.quotaUsage plan.campaign clock.databaseNow
  ensure (usage.deltaDay < 2 ^ 63) .unavailable
  let requestedDelta ← cumulativeAbsDelta plan.changes
  ensure (requestedDelta < 2 ^ 63) .invalidPlan
  ensure (usage.actionsHour < plan.actionQuota.maxActionsPerHour ∧
    usage.actionsDay < plan.actionQuota.maxActionsPerDay ∧
    Machine.saturatingAdd 63 usage.deltaDay requestedDelta ≤
      plan.actionQuota.maxCumulativeAbsDeltaKopecksPerDay ∧
    usage.last.all (· + seconds plan.actionQuota.cooldownSeconds ≤ clock.databaseNow)) .quotaExceeded
  let reservation ← validateWbReservationInsert s plan gates clock.securityNow
  ensure (∀ other ∈ s.actionReservations, other.planId ≠ plan.planId) .invalidState
  return { s with actionReservations := reservation :: s.actionReservations }

/-! ## Calls -/

/-- The transactions of the repository. -/
abbrev Transaction (α : Type) : Type := Store → Except PlanStoreError (Commit Store PlanStoreError α)

/-- The highest revision may only be registered again as it is. -/
def registerPolicy (revision : WbPolicyRevision) : Transaction Unit := fun s => do
  validateDigest revision.policyDigest
  ensure (revision.schemaVersion < 2 ^ 31 ∧ revision.policyRevision < 2 ^ 63) .invalidPlan
  ensure (revision.schemaVersion ≠ 0 ∧ revision.policyRevision ≠ 0) .invalidPlan
  ensure (s.activePolicy.all (·.policyRevision ≤ revision.policyRevision)) .policyChanged
  if s.activePolicy.any (·.policyRevision == revision.policyRevision) then
    return ⟨s, ensure (s.activePolicy.any fun active => decide
      (active.schemaVersion = revision.schemaVersion ∧ active.policyDigest = revision.policyDigest))
      .policyChanged⟩
  else
    ensure (∀ other ∈ s.policyRevisions, other.policyDigest ≠ revision.policyDigest) .policyChanged
    return ⟨{ s with policyRevisions := revision :: s.policyRevisions }, .ok ()⟩

/-- The trigger on an insert of a prepare reservation, with the errors its messages stand for. -/
def validateWbPrepareReservationInsert (s : Store) (binding : WbPlanBinding) (securityNow : ℤ) :
    Except PlanStoreError Unit := do
  s.requireActivePolicy binding.schemaVersion binding.policyRevision binding.policyDigest
  ensure (¬ s.campaignHasIncident binding.campaign none) .campaignLocked
  s.checkPrepareLimits binding securityNow

/-- Reserve one attempt to prepare a plan. -/
def reservePrepareAttempt (binding : WbPlanBinding) (reservationId : String) (clock : Clock) :
    Transaction WbPrepareReservation := fun s => do
  binding.validate
  s.requireActivePolicy binding.schemaVersion binding.policyRevision binding.policyDigest
  ensure (¬ s.campaignHasIncident binding.campaign none) .campaignLocked
  s.checkPrepareLimits binding clock.databaseNow
  validateWbPrepareReservationInsert s binding clock.securityNow
  ensure (∀ other ∈ s.prepareReservations, other.reservationId ≠ reservationId) .invalidState
  let reservation : WbPrepareReservation :=
    { toWbPlanBinding := binding
      reservationId
      reservedAt := clock.securityNow
      expiresAt := clock.securityNow + prepareReservationTtl }
  return ⟨{ s with prepareReservations := reservation :: s.prepareReservations }, .ok reservation⟩

/-- The trigger on an insert of a plan. -/
def validateWbPlanInsert (s : Store) (plan : WbControlPlan) (securityNow : ℤ) :
    Except PlanStoreError Unit := do
  ensure (s.activePolicy.any fun active => decide (active.schemaVersion = plan.schemaVersion ∧
    active.policyRevision = plan.policyRevision ∧ active.policyDigest = plan.policyDigest)) .unavailable
  let reservation ← context (s.prepareReservations.find? (·.reservationId = plan.prepareReservationId))
    .unavailable
  ensure (reservation.toWbPlanBinding = plan.toWbPlanBinding) .unavailable
  ensure (securityNow < reservation.expiresAt ∧ ¬ s.isConsumed plan.prepareReservationId) .unavailable
  ensure (¬ s.campaignHasIncident plan.campaign none) .unavailable
  ensure (s.countOutstandingPrepares plan.campaign securityNow ≤ 3) .unavailable
  ensure (plan.createdAt ≤ securityNow ∧ securityNow < plan.expiresAt ∧ plan.status = .prepared)
    .unavailable

/-- The plan a call would insert. -/
def newPlan (binding : WbPlanBinding) (prepareReservationId : String) (requested : List WbBidChange)
    (changes : List WbPreparedBidChange) (before : WbCampaignBidSnapshot) (planId planDigest : String)
    (databaseNow : ℤ) : WbControlPlan :=
  { toWbPlanBinding := binding
    planId
    planDigest
    prepareReservationId
    status := .prepared
    approval := none
    requested
    changes
    before
    createdAt := databaseNow
    expiresAt := databaseNow + planTtl
    applyStartedAt := none
    lastErrorClass := none
    writeResponse := none
    readback := none }

/-- Turn a reserved attempt into a prepared plan. -/
def create (binding : WbPlanBinding) (prepareReservationId : String) (requested : List WbBidChange)
    (changes : List WbPreparedBidChange) (before : WbCampaignBidSnapshot) (planId planDigest : String)
    (clock : Clock) : Transaction WbControlPlan := fun s => do
  binding.validate
  validateDigest prepareReservationId
  ensure (changes ≠ [] ∧ changes.length = requested.length) .invalidPlan
  let delta ← cumulativeAbsDelta changes
  ensure (delta ≤ binding.actionQuota.maxCumulativeAbsDeltaKopecksPerDay) .quotaExceeded
  s.requireActivePolicy binding.schemaVersion binding.policyRevision binding.policyDigest
  let reservation ← context (s.prepareReservations.find? (·.reservationId = prepareReservationId))
    .invalidPlan
  ensure (reservation.toWbPlanBinding = binding) .invalidPlan
  ensure (clock.databaseNow < reservation.expiresAt) .prepareLimitExceeded
  ensure (¬ s.isConsumed prepareReservationId) .invalidState
  ensure (¬ s.campaignHasIncident binding.campaign none) .campaignLocked
  ensure (s.countOutstandingPrepares binding.campaign clock.databaseNow ≤ 3) .prepareLimitExceeded
  let plan := newPlan binding prepareReservationId requested changes before planId planDigest
    clock.databaseNow
  validateWbPlanInsert s plan clock.securityNow
  ensure (∀ other ∈ s.plans, other.planId ≠ planId ∧ other.planDigest ≠ planDigest ∧
    other.prepareReservationId ≠ prepareReservationId) .unavailable
  return ⟨{ s with plans := plan :: s.plans }, .ok plan⟩

/-- The approval of a prepared plan, as its trigger completes it. -/
def newApproval (plan : WbControlPlan) (approverId reason approvalId : String) (securityNow : ℤ) :
    WbPlanApproval :=
  ⟨approvalId, approverId, reason, securityNow, min plan.expiresAt (securityNow + approvalTtl)⟩

/-- Store the approval of a prepared plan and mark the plan. -/
def storeApproval (s : Store) (plan : WbControlPlan) (approval : WbPlanApproval) (clock : Clock) :
    Except PlanStoreError Store := do
  ensure (plan.actorId ≠ approval.approverId ∧
    s.activePolicy.any (·.policyRevision == plan.policyRevision) ∧
    clock.securityNow < plan.expiresAt) .unavailable
  ensure (plan.approval.isNone) .unavailable
  ensure (clock.transitionNow < approval.expiresAt) .unavailable
  s.updatePlan (fun other => other.planId = plan.planId ∧ other.status = .prepared)
    (fun other => { other with status := .approved, approval := some approval }) .invalidState

/-- An expired plan is marked before the call fails. -/
def expireWith (s : Store) (planId : String) (e : PlanStoreError) :
    Except PlanStoreError (Commit Store PlanStoreError WbControlPlan) := do
  let s ← s.expirePlan planId
  return ⟨s, .error e⟩

/-- A plan that is already approved: the same approval may be repeated while it lasts. -/
def approveAgain (s : Store) (plan : WbControlPlan) (approval : WbPlanApproval)
    (approverId reason : String) (now : ℤ) :
    Except PlanStoreError (Commit Store PlanStoreError WbControlPlan) :=
  if approval.expiresAt ≤ now then expireWith s plan.planId .approvalExpired
  else do
    ensure (approval.approverId = approverId ∧ approval.reason = reason) .invalidState
    return ⟨s, .ok plan⟩

/-- Approve a prepared plan by its digest. -/
def approve (planId approverId expectedPlanDigest reason approvalId : String) (clock : Clock) :
    Transaction WbControlPlan := fun s => do
  validatePlanId planId
  validateActorOrAccount approverId
  validateDigest expectedPlanDigest
  validateApprovalReason reason
  let plan ← context (s.plans.find? (·.planId = planId)) .notFound
  ensure (plan.planDigest = expectedPlanDigest) .planChanged
  ensure (plan.actorId ≠ approverId) .invalidState
  s.requireActivePolicy plan.schemaVersion plan.policyRevision plan.policyDigest
  if plan.expiresAt ≤ clock.databaseNow then expireWith s planId .expired
  else if plan.status = .approved then do
    let approval ← context plan.approval .unavailable
    approveAgain s plan approval approverId reason clock.databaseNow
  else do
    ensure (plan.status = .prepared) .invalidState
    ensure (¬ s.campaignHasIncident plan.campaign (some planId)) .campaignLocked
    let approval := newApproval plan approverId reason approvalId clock.securityNow
    let s ← storeApproval s plan approval clock
    return ⟨s, .ok { plan with status := .approved, approval := some approval }⟩

/-- What an actor applies, and under which authority. -/
structure WbApplyContext where
  planId : String
  actorId : String
  expectedPlanDigest : String
  expectedSchemaVersion : ℕ
  expectedPolicyRevision : ℕ
  expectedPolicyDigest : String

/-- The transition of an approved plan to a write, under its trigger. -/
def startApply (s : Store) (plan : WbControlPlan) (gates : WbRuntimeGates) (transitionNow : ℤ) :
    Except PlanStoreError Store := do
  ensure (plan.approval.any (transitionNow < ·.expiresAt) ∧
    (s.actionReservations.any fun reservation => reservation.planId == plan.planId) ∧
    s.activePolicy.any (·.policyRevision == plan.policyRevision) ∧
    gatesActive gates plan.campaign transitionNow ∧
    ¬ s.campaignHasIncident plan.campaign (some plan.planId)) .unavailable
  ensure (∀ other ∈ s.plans, other.campaign = plan.campaign → other.status = .applying →
    other.planId = plan.planId) .busy
  s.updatePlan (fun other => other.planId = plan.planId ∧ other.status = .approved)
    (fun other => { other with status := .applying, applyStartedAt := some transitionNow }) .unavailable

/-- Claim an approved plan, and with it the right to send once. -/
def claimForApply (request : WbApplyContext) (gates : WbRuntimeGates) (clock : Clock) :
    Transaction WbControlPlan := fun s => do
  validatePlanId request.planId
  validateActorOrAccount request.actorId
  validateDigest request.expectedPlanDigest
  validateDigest request.expectedPolicyDigest
  let plan ← context (s.plans.find? fun plan => plan.planId = request.planId ∧
    plan.actorId = request.actorId) .notFound
  ensure (plan.planDigest = request.expectedPlanDigest) .planChanged
  ensure (plan.schemaVersion = request.expectedSchemaVersion ∧
    plan.policyRevision = request.expectedPolicyRevision ∧
    plan.policyDigest = request.expectedPolicyDigest) .policyChanged
  ensure (plan.status ≠ .prepared) .approvalRequired
  ensure (plan.status = .approved) .invalidState
  let approval ← context plan.approval .approvalRequired
  s.requireActivePolicy plan.schemaVersion plan.policyRevision plan.policyDigest
  if plan.expiresAt ≤ clock.databaseNow then expireWith s request.planId .expired
  else if approval.expiresAt ≤ clock.databaseNow then expireWith s request.planId .approvalExpired
  else do
    ensure (¬ s.campaignHasIncident plan.campaign (some request.planId)) .campaignLocked
    requireRuntimeGates gates plan.campaign clock.gatesNow
    let s ← reserveActionQuota s plan gates clock
    let s ← startApply s plan gates clock.transitionNow
    return ⟨s, .ok { plan with status := .applying, applyStartedAt := some clock.transitionNow }⟩

/-- An abandoned write becomes an incident. -/
def markStaleApplyingAmbiguous (planId actorId : String) (clock : Clock) : Transaction Unit := fun s => do
  validatePlanId planId
  let plan ← context (s.plans.find? fun plan => plan.planId = planId ∧ plan.actorId = actorId) .notFound
  if plan.status = .ambiguous ∨ plan.status = .reconciliationRequired ∨ plan.status = .applied then
    return ⟨s, .ok ()⟩
  else do
    ensure (plan.status = .applying) .invalidState
    let applyStartedAt ← context plan.applyStartedAt .unavailable
    ensure (applyStartedAt + staleApplyAfter ≤ clock.databaseNow) .applyInProgress
    ensure (¬ s.campaignHasIncident plan.campaign (some planId)) .campaignLocked
    let s ← s.updatePlan
      (fun other => other.planId = planId ∧ other.actorId = actorId ∧ other.status = .applying)
      (fun other => { other with status := .ambiguous, lastErrorClass := some "stale_apply_unknown" })
      .invalidState
    return ⟨s, .ok ()⟩

/-- How an apply ended. -/
structure WbPlanFinish where
  status : WbPlanStatus
  errorClass : Option String
  writeResponse : Option String
  readback : Option WbCampaignBidSnapshot

/-- Record how an apply ended. -/
def finish (planId actorId : String) (finish : WbPlanFinish) : Transaction Unit := fun s => do
  ensure (finish.status = .applied ∨ finish.status = .reconciliationRequired ∨
    finish.status = .ambiguous ∨ finish.status = .rejected ∨ finish.status = .failed) .invalidState
  let plan ← context (s.plans.find? fun plan => plan.planId = planId ∧ plan.actorId = actorId)
    .invalidState
  ensure (plan.status = .applying) .invalidState
  ensure (finish.status = .applied → finish.writeResponse.isSome ∧
    finish.readback.any (snapshotMatchesPlanState · plan.before plan.changes true)) .invalidPlan
  ensure (finish.status = .applied → finish.readback.any (expectedAfterProven plan)) .unavailable
  ensure (finish.status = .reconciliationRequired ∨ finish.status = .ambiguous →
    ¬ s.campaignHasIncident plan.campaign (some planId)) .campaignLocked
  let s ← s.updatePlan
    (fun other => other.planId = planId ∧ other.actorId = actorId ∧ other.status = .applying)
    (fun other => { other with
      status := finish.status
      lastErrorClass := finish.errorClass
      writeResponse := finish.writeResponse
      readback := finish.readback }) .invalidState
  return ⟨s, .ok ()⟩

/-- Settle an incident by a readback. -/
def confirmReconciled (planId actorId : String) (readback : WbCampaignBidSnapshot) : Transaction Unit :=
  fun s => do
    let plan ← context (s.plans.find? fun plan => plan.planId = planId ∧ plan.actorId = actorId) .notFound
    if plan.status = .applied then return ⟨s, .ok ()⟩
    else do
      ensure (plan.status = .reconciliationRequired ∨ plan.status = .ambiguous) .invalidState
      ensure (snapshotMatchesPlanState readback plan.before plan.changes true) .invalidPlan
      ensure (expectedAfterProven plan readback) .unavailable
      let s ← s.updatePlan (fun other => other.planId = planId ∧ other.actorId = actorId ∧
          (other.status = .reconciliationRequired ∨ other.status = .ambiguous))
        (fun other => { other with status := .applied, lastErrorClass := none, readback := some readback })
        .invalidState
      return ⟨s, .ok ()⟩

end AdsControl.Wb.Plan
