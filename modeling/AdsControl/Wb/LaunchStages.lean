import AdsControl.Wb.LaunchJournal

/-!
# The stages of a launch

The operator creates a campaign, sets its first bids, transfers its budget once and starts it. Each stage
checks the marketplace, records its attempt as the last step of the permit, and only then sends.

* `Operator.create`, `Operator.bids`, `Operator.fund`, `Operator.start`: the stages;
* `Operator.prepareContinuation`: the policy of a continuation;
* `runWbCampaignLaunch`, `reconcileReadOnly`: the entry points.
-/

namespace AdsControl.Wb.Launch

open Fallible Interaction Serde Std

/-- The manifest of an operator, and the robot policy it derives for a campaign. -/
structure Operator where
  manifest : Manifest
  targetPolicy : ℕ → Json

/-! ## Checks -/

/-- The records that a recreation has to match. -/
def Journal.inspectRecreate (f : LaunchFormat) (manifest : Json) : LaunchProg Unit := do
  let old ← readJson ⟨"ofk_region_wb-Nexus", .original, .manifest⟩
  let original ← Journal.open f old false
  recreateValidate f original.directory manifest
  let revised : Record := ⟨original.directory, .recreate, .manifest⟩
  let recorded ← entryExists revised
  .when recorded do
    let recorded ← readJson revised
    .ofExcept (ensure (recorded = manifest) "replacement manifest differs from immutable authorization")
  let attempted ← entryExists ⟨original.directory, .recreate, .attempted .create⟩
  .ofExcept (ensure (attempted = false) "replacement create already attempted; reconcile only")
  let confirmed ← entryExists ⟨original.directory, .recreate, .receipt .create⟩
  .ofExcept (ensure (confirmed = false) "replacement create already confirmed; reconcile only")

/-- The message of a failed write. -/
def writeError : WbGuardedWriteError String → String
  | .permit error => error
  | .write _ => "reconcile only, automatic retry forbidden"

/-- One guarded request of a stage; the permit ends with the attempt. -/
def guardedWrite (departure : Departure) (permit : LaunchProg Unit) : LaunchProg ℕ := do
  let result ← writeWithPermit (LaunchCall.prepareWrite departure).ask permit.attempt
    (LaunchCall.admitWrite departure).ask (LaunchCall.send departure).ask
  .ofExcept (result.mapError writeError)

namespace Operator

/-- The request of a stage under a journal. -/
def departure (self : Operator) (f : LaunchFormat) (journal : Journal) (stage : Stage) : Departure :=
  ⟨journal.directory, journal.launch, stage, f.value self.manifest⟩

/-- The campaign that a continuation is about. -/
def continuationPreflightId (self : Operator) (f : LaunchFormat) (supplied : Option ℕ) :
    LaunchProg (Option ℕ) :=
  match self.manifest.continueCreated with
  | none => return supplied
  | some approval => do
    continuationValidate f "ofk_region_wb-Nexus" (f.value self.manifest)
    .ofExcept (ensure (supplied.all (· == approval.campaignId)) "continuation campaign mismatch")
    return some approval.campaignId

/-- The checks before a stage. -/
def preflight (self : Operator) (f : LaunchFormat) (ownId : Option ℕ) : LaunchProg Json := do
  observe .freshAuthorization
  let ownId ← self.continuationPreflightId f ownId
  .when (self.manifest.recreate.isSome && ownId.isNone) (Journal.inspectRecreate f (f.value self.manifest))
  let evidence ← observe (.marketChecks ownId)
  .when (decide (self.manifest.scope = .fundAndStart)) do
    let balance : ℕ ← observe .balance
    .ofExcept (ensure (self.manifest.budgetRubles ≤ balance) "WB type=1 balance is insufficient")
  observe .freshAuthorization
  return evidence

/-- The campaign is ready or paused, with the planned bids where they are required. -/
def inactive (self : Operator) (id : ℕ) (exactBids : Bool) : LaunchProg CampaignObservation := do
  let state : CampaignObservation ← observe (.details id)
  .ofExcept (ensure (state.status = 4 ∨ state.status = 11) "campaign must be ready or paused, not active")
  .when exactBids
    (.ofExcept (ensure (state.bids = self.manifest.bidsKopecks) "campaign bids drifted; no write permitted"))
  return state

/-- The campaign has the expected budget. -/
def ensureBudget (id : ℕ) (expected : ℕ) (message : String) : LaunchProg Unit := do
  let budget : ℕ ← observe (.budget id)
  .ofExcept (ensure (budget = expected) message)

/-- What the marketplace shows of the launch. -/
def reconcile (journal : Journal) : LaunchProg Json := do
  match ← journal.maybeCampaignId with
  | none => return .obj [("outcome", .str "no_confirmed_campaign_id"),
      ("create_attempted", .bool (← journal.attempted .create))]
  | some id => do
    let state : CampaignObservation ← observe (.details id)
    let budget : ℕ ← observe (.budget id)
    return .obj [("campaign_id", .num id), ("status", .num state.status), ("budget_rubles", .num budget),
      ("fund_attempted", .bool (← journal.attempted .fund)),
      ("fund_confirmed", .bool (← journal.hasReceipt .fund))]

/-! ## The stages -/

/-- A campaign that may be started. -/
def validateStartStatus (status : ℤ) : Except String Unit :=
  ensure (status = 4 ∨ status = 11) "guarded startup requires ready status 4 or paused status 11"

/-- A change of one bid. -/
def bidChange (before : ExtTreeMap ℕ ℕ) (bid : ℕ × ℕ) : Except String Json := do
  let beforeBid ← context before[bid.1]? "campaign bid missing"
  return .obj [("nm_id", .num bid.1), ("placement", .str "search"), ("before_bid_kopecks", .num beforeBid),
    ("bid_kopecks", .num bid.2)]

/-- The approved bids as a record. -/
def bidsValue (bids : ExtTreeMap ℕ ℕ) : Json := .obj (bids.toList.map fun bid => (bid.1.repr, .num bid.2))

/-- Create the campaign, once. -/
def create (self : Operator) (f : LaunchFormat) (journal : Journal) : LaunchProg Json := do
  .ofExcept (self.manifest.authorizeStage .create)
  journal.assertNotAttempted .create
  let preflight ← self.preflight f none
  let id ← guardedWrite (self.departure f journal .create) do
    let evidence ← if self.manifest.version = 2 then self.preflight f none else pure preflight
    observe .freshAuthorization
    journal.attempt f .create evidence
  journal.record f (.receipt .create) (.obj [("campaign_id", .num id), ("wb_http", .num 200)])
  let _state ← self.inactive id false
  ensureBudget id 0 "new campaign has unexpected budget"
  journal.record f .policyReceipt (self.targetPolicy id)
  reconcile journal

/-- Set the bids, once. -/
def bids (self : Operator) (f : LaunchFormat) (journal : Journal) : LaunchProg Json := do
  let id ← journal.campaignId
  journal.assertNotAttempted .bids
  .when self.manifest.continueCreated.isSome do
    let policy ← journal.requireReceipt .policyReceipt
    .ofExcept (ensure (policy = self.targetPolicy id) "prepare continuation before initial bids")
    let _evidence ← self.preflight f (some id)
  let before ← self.inactive id false
  ensureBudget id 0 "set initial bids before funding"
  observe (.minimums id)
  let changes ← .ofExcept (self.manifest.bidsKopecks.toList.mapM (bidChange before.bids))
  let _total ← guardedWrite (self.departure f journal .bids) do
    observe .freshAuthorization
    let current ← self.inactive id false
    .ofExcept (ensure (current.bids = before.bids) "bids changed while waiting; no write attempted")
    ensureBudget id 0 "campaign funded while waiting; no initial bid write permitted"
    observe .freshAuthorization
    journal.attempt f .bids (.obj [("campaign_id", .num id), ("changes", .arr changes)])
  let _state ← self.inactive id true
  journal.record f (.receipt .bids)
    (.obj [("campaign_id", .num id), ("bids_kopecks", bidsValue self.manifest.bidsKopecks)])
  reconcile journal

/-- Deposit the budget, once. -/
def fund (self : Operator) (f : LaunchFormat) (journal : Journal) : LaunchProg Json := do
  .ofExcept (self.manifest.authorizeStage .fund)
  let id ← journal.campaignId
  journal.assertNotAttempted .fund
  let _bids ← journal.requireReceipt (.receipt .bids)
  let initial ← self.inactive id true
  .ofExcept (validateStartStatus initial.status)
  observe (.installedProtection id)
  let preflight ← self.preflight f (some id)
  let total ← guardedWrite (self.departure f journal .fund) do
    observe .freshAuthorization
    observe (.minimums id)
    let current ← self.inactive id true
    .ofExcept (ensure (current.status = initial.status) "campaign status drifted before funding")
    ensureBudget id 0 "new campaign budget no longer zero"
    let balance : ℕ ← observe .balance
    .ofExcept (ensure (self.manifest.budgetRubles ≤ balance) "WB type=1 balance is insufficient")
    observe .freshAuthorization
    observe (.installedProtection id)
    journal.attempt f .fund (.obj [("campaign_id", .num id), ("sum", .num self.manifest.budgetRubles),
      ("type", .num 1), ("budget_before", .num 0), ("balance_before", .num balance), ("preflight", preflight)])
  journal.record f (.responseReceipt .fund) (.obj [("wb_http", .num 200), ("total", .num total)])
  .ofExcept (ensure (total = self.manifest.budgetRubles)
    "WB deposit response total differs; reconcile, never repeat POST")
  ensureBudget id self.manifest.budgetRubles "budget readback differs; do not start or repeat deposit"
  let _state ← self.inactive id true
  let now ← LaunchCall.now.ask
  journal.record f (.receipt .fund) (.obj [("campaign_id", .num id),
    ("transferred_rubles", .num self.manifest.budgetRubles), ("type", .num 1),
    ("budget_after", .num self.manifest.budgetRubles), ("checked_at", f.timeText now)])
  reconcile journal

/-- The receipts of a launch that was never started before. -/
def validateReceipts (self : Operator) (journal : Journal) (id : ℕ) : LaunchProg Unit := do
  let created ← journal.requireReceipt (.receipt .create)
  let funded ← journal.requireReceipt (.receipt .fund)
  let response ← journal.requireReceipt (.responseReceipt .fund)
  let bids ← journal.requireReceipt (.receipt .bids)
  .ofExcept (ensure (memberNat created "campaign_id" = some id ∧ memberNat created "wb_http" = some 200 ∧
    memberNat funded "campaign_id" = some id ∧ memberNat funded "type" = some 1 ∧
    memberNat funded "transferred_rubles" = some self.manifest.budgetRubles ∧
    memberNat funded "budget_after" = some self.manifest.budgetRubles ∧
    memberNat response "wb_http" = some 200 ∧ memberNat response "total" = some self.manifest.budgetRubles ∧
    memberNat bids "campaign_id" = some id ∧
    member bids "bids_kopecks" = some (bidsValue self.manifest.bidsKopecks))
    "first launch requires confirmed create, exact bids and one-time funding receipts")

/-- The start with its dependencies. -/
def executeStart (self : Operator) (f : LaunchFormat) (journal : Journal) (id : ℕ) : LaunchProg Json := do
  .ofExcept (self.manifest.authorizeStage .start)
  journal.assertNotAttempted .start
  let _funded ← journal.requireReceipt (.receipt .fund)
  let confirmed ← journal.campaignId
  .ofExcept (ensure (confirmed = id) "startup scope drifted")
  observe (.campaignLease id)
  let _total ← guardedWrite (self.departure f journal .start) do
    observe .freshAuthorization
    let (snapshot, status) ← observe (.startSnapshot id)
    let current ← self.inactive id true
    .ofExcept (ensure (current.status = status) "startup campaign status changed during checks")
    .when (decide (status = 4)) do
      self.validateReceipts journal id
      observe (.firstLaunchCycles id)
    observe (.startEvidence id)
    observe .freshAuthorization
    journal.attempt f .start (.obj [("campaign_id", .num id), ("snapshot", snapshot)])
  let state : CampaignObservation ← observe (.details id)
  .ofExcept (ensure (state.status = 9 ∧ state.bids = self.manifest.bidsKopecks)
    "start readback differs; reconcile only")
  let budget : ℕ ← observe (.budget id)
  .ofExcept (ensure (1 ≤ budget ∧ budget ≤ self.manifest.budgetRubles)
    "start budget readback differs; reconcile only")
  let now ← LaunchCall.now.ask
  journal.record f (.receipt .start) (.obj [("campaign_id", .num id), ("wb_http", .num 200),
    ("status", .num 9), ("checked_at", f.timeText now), ("bids_kopecks", bidsValue state.bids),
    ("budget_rubles", .num budget), ("post_start_robot_cycle_confirmed", .bool false)])
  reconcile journal

/-- Start the campaign, once. -/
def start (self : Operator) (f : LaunchFormat) (journal : Journal) : LaunchProg Json := do
  .ofExcept (self.manifest.authorizeStage .start)
  let id ← journal.campaignId
  journal.assertNotAttempted .start
  let _funded ← journal.requireReceipt (.receipt .fund)
  let state ← self.inactive id true
  .ofExcept (validateStartStatus state.status)
  .when (decide (state.status = 4)) (self.validateReceipts journal id)
  observe (.installedProtection id)
  self.executeStart f journal id

/-- The reviewed policy of a continuation, without any write to the marketplace. -/
def prepareContinuation (self : Operator) (f : LaunchFormat) (journal : Journal) : LaunchProg Json := do
  .ofExcept (ensure self.manifest.continueCreated.isSome "prepare requires continuation approval")
  journal.assertNotAttempted .bids
  journal.assertNotAttempted .fund
  journal.assertNotAttempted .start
  let id ← journal.campaignId
  let preflight ← self.preflight f (some id)
  let state ← self.inactive id false
  .ofExcept (ensure (state.status = 4) "continuation requires unstarted Nexus")
  ensureBudget id 0 "Nexus already funded; reconcile only"
  observe (.minimums id)
  observe .freshAuthorization
  let policy := self.targetPolicy id
  let prepared ← journal.present .policyReceipt
  .when prepared do
    let recorded ← journal.requireReceipt .policyReceipt
    .ofExcept (ensure (recorded = policy) "prepared policy changed")
  .when (!prepared) (journal.record f .policyReceipt policy)
  return .obj [("outcome", .str "continuation_prepared"), ("campaign_id", .num id), ("preflight", preflight)]

end Operator

/-! ## Entry points -/

/-- The stages that write. -/
inductive WriteStage
  | prepare
  | stage (stage : Stage)

/-- The command of a stage. -/
def WriteStage.mode : WriteStage → Mode
  | prepare => .prepare
  | stage .create => .create
  | stage .bids => .bids
  | stage .fund => .fund
  | stage .start => .start

/-- Run a stage. -/
def Operator.perform (self : Operator) (f : LaunchFormat) (journal : Journal) : WriteStage → LaunchProg Json
  | .prepare => self.prepareContinuation f journal
  | .stage .create => self.create f journal
  | .stage .bids => self.bids f journal
  | .stage .fund => self.fund f journal
  | .stage .start => self.start f journal

/-- **One stage of a launch**, under the journal of its manifest. -/
def runWbCampaignLaunch (f : LaunchFormat) (operator : Operator) (stage : WriteStage) : LaunchProg Json := do
  .ofExcept (operator.manifest.authorizeStage stage.mode)
  let journal ← Journal.open f (f.value operator.manifest) true
  operator.perform f journal stage

/-- The outcome of a launch, without writing. -/
def reconcileReadOnly (f : LaunchFormat) (manifest : Json) : LaunchProg Json := do
  let journal ← Journal.open f manifest false
  Operator.reconcile journal

end AdsControl.Wb.Launch
