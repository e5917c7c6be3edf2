import AdsControl.Lib.Attempt
import AdsControl.Lib.Fallible
import AdsControl.Lib.Serde
import AdsControl.Wb.Client

/-!
# The launch journal

The launch of a campaign is journaled in one directory of records. A record is created once and never
replaced; a record that was begun and not finished still counts. The manifest selects one of three
namespaces in the directory: the original launch, the reviewed replacement of its failed create, and the
continuation that funds and starts the confirmed replacement.

* `Manifest`, `Journal`: the authorization, and the journal it opens;
* `recreateValidate`, `continuationValidate`: what must stand before a later namespace is used;
* `Journal.open`, `Journal.record`, `Journal.attempt`: the journal, as programs over files and locks.
-/

namespace AdsControl.Wb.Launch

open Fallible Interaction Serde Std

/-! ## Manifests -/

/-- The attempt that a recreation replaces. -/
structure RecreateApproval where
  previousManifestSha256 : String
  previousAttemptSha256 : String

/-- The approval of a continuation. -/
structure Approval where
  campaignId : ℕ
  previousManifestSha256 : String
  previousAttemptSha256 : String
  previousReceiptSha256 : String
  previousPolicySha256 : String

/-- How far a launch goes. -/
inductive LaunchScope
  | createOnly
  | fundAndStart
  deriving DecidableEq

/-- What a launch is approved for. -/
structure Manifest where
  version : ℕ
  scope : LaunchScope
  accountId : String
  campaignName : String
  bidsKopecks : ExtTreeMap ℕ ℕ
  budgetRubles : ℕ
  fundingType : ℕ
  authorizationReference : String
  authorizedAt : ℤ
  expiresAt : ℤ
  recreate : Option RecreateApproval
  continueCreated : Option Approval

/-- The account of the launch. -/
def account : String := "ofk_region_wb"

/-- The name of the campaign. -/
def name : String := "Nexus"

/-- The products of the campaign. -/
def nms : List ℕ := [190904855, 207418966, 218972074, 455101276, 529996417]

/-- The campaign that was confirmed by hand. -/
def campaignId : ℕ := 40141836

/-- How manifests and records are written and read, and the digest of what is written. -/
structure LaunchFormat where
  manifest : Json → Option Manifest
  value : Manifest → Json
  digest : Json → String
  time : Json → Option ℤ
  timeText : ℤ → Json

/-- What an operator may ask for. -/
inductive Mode
  | preflight
  | prepare
  | create
  | bids
  | fund
  | start
  | reconcile
  deriving DecidableEq

namespace Manifest

/-- Funding is fixed, and a launch is a recreation or a continuation, not both. -/
def financialScopeMatches (self : Manifest) : Bool :=
  decide (self.fundingType = 1) &&
    (self.recreate.isNone || decide (self.scope = .createOnly)) &&
    (self.continueCreated.isNone || self.recreate.isNone && decide (self.scope = .fundAndStart)) &&
    match self.scope with
    | .createOnly => decide (self.budgetRubles = 0)
    | .fundAndStart =>
      if self.version = 1 then decide (self.budgetRubles = 1000)
      else decide (0 < self.budgetRubles ∧ self.budgetRubles ≤ 1000000)

/-- The stages that a manifest allows. -/
def authorizeStage (self : Manifest) (mode : Mode) : Except String Unit :=
  if self.continueCreated.isSome then
    ensure (self.financialScopeMatches ∧ mode ≠ .create)
      "confirmed Nexus continuation cannot create another campaign"
  else
    ensure (mode ∈ [.preflight, .create, .bids, .reconcile] ∨
      self.scope = .fundAndStart ∧ mode ∈ [.fund, .start])
      "create-only authorization forbids funding and campaign start"

end Manifest

namespace Approval

/-- An approval is for this campaign, these products and these amounts only. -/
def validateScope (self : Approval) (manifest : Manifest) : Except String Unit :=
  ensure (self.campaignId = Launch.campaignId ∧ manifest.accountId = account ∧ manifest.campaignName = name ∧
    manifest.scope = .fundAndStart ∧ manifest.recreate.isNone ∧ manifest.budgetRubles = 1000 ∧
    manifest.fundingType = 1 ∧ manifest.bidsKopecks.keys = nms ∧
    manifest.bidsKopecks.values.all (· == 922))
    "continuation requires confirmed Nexus, five bids of 922 and 1000 RUB type=1"

end Approval

/-! ## Records -/

/-- The writes of a launch. -/
inductive Stage
  | create
  | bids
  | fund
  | start
  deriving DecidableEq

/-- The namespaces of a directory: the records of the replacement and of the continuation have a prefix. -/
inductive Namespace
  | original
  | recreate
  | continuation
  deriving DecidableEq

/-- The files of a journal. -/
inductive RecordName
  | manifest
  | policyReceipt
  | attempted (stage : Stage)
  | receipt (stage : Stage)
  | responseReceipt (stage : Stage)
  deriving DecidableEq

/-- The name starts with the stage. -/
def RecordName.startsWith (stage : Stage) : RecordName → Bool
  | manifest => false
  | policyReceipt => false
  | attempted s => s == stage
  | receipt s => s == stage
  | responseReceipt s => s == stage

/-- A record in the directory of a launch. -/
structure Record where
  directory : String
  space : Namespace
  name : RecordName
  deriving DecidableEq

/-! ## Commands -/

/-- What is read of a campaign. -/
structure CampaignObservation where
  status : ℤ
  bids : ExtTreeMap ℕ ℕ

/-- What is read outside the journal: the authorization files, the marketplace, the installed robot and
its database. -/
inductive LaunchRead
  | freshAuthorization
  | marketChecks (ownId : Option ℕ)
  | details (id : ℕ)
  | budget (id : ℕ)
  | balance
  | minimums (id : ℕ)
  | installedProtection (id : ℕ)
  | campaignLease (id : ℕ)
  | startSnapshot (id : ℕ)
  | firstLaunchCycles (id : ℕ)
  | startEvidence (id : ℕ)

/-- What each reading finds. -/
def LaunchRead.Result : LaunchRead → Type
  | freshAuthorization => Unit
  | marketChecks _ => Json
  | details _ => CampaignObservation
  | budget _ => ℕ
  | balance => ℕ
  | minimums _ => Unit
  | installedProtection _ => Unit
  | campaignLease _ => Unit
  | startSnapshot _ => Json × ℤ
  | firstLaunchCycles _ => Unit
  | startEvidence _ => Unit

/-- A request to the marketplace: the journal and the manifest it is made under. -/
structure Departure where
  directory : String
  space : Namespace
  stage : Stage
  manifest : Json
  deriving DecidableEq

/-- The effects of a launch. -/
inductive LaunchCall
  | checkRoot
  | lockAccount (account : String)
  | openDirectory (directory : String) (writable : Bool)
  | lockJournal (directory : String)
  | entryExists (record : Record)
  | readJson (record : Record)
  | createNew (record : Record)
  | writeAll (record : Record) (value : Json)
  | now
  | observe (read : LaunchRead)
  | prepareWrite (departure : Departure)
  | admitWrite (departure : Departure)
  | send (departure : Departure)

/-- What each effect answers. -/
def LaunchCall.Answer : LaunchCall → Type
  | checkRoot => Except String Unit
  | lockAccount _ => Except String Unit
  | openDirectory _ _ => Except String Unit
  | lockJournal _ => Except String Unit
  | entryExists _ => Except String Bool
  | readJson _ => Except String Json
  | createNew _ => Except String Unit
  | writeAll _ _ => Except String Unit
  | now => ℤ
  | observe read => Except String read.Result
  | prepareWrite _ => Except WbWriteError Unit
  | admitWrite _ => Except WbWriteError Unit
  | send _ => Except WbWriteError ℕ

/-- A launch over its effects. -/
abbrev LaunchProg (α : Type) : Type := Prog LaunchCall LaunchCall.Answer String α

/-- Perform one effect. -/
def LaunchCall.ask (c : LaunchCall) : LaunchProg c.Answer := .perform c

/-- Read from the marketplace. -/
def observe (read : LaunchRead) : LaunchProg read.Result := do
  .ofExcept (← (LaunchCall.observe read).ask)

/-- Whether the directory has an entry. -/
def entryExists (record : Record) : LaunchProg Bool := do
  .ofExcept (← (LaunchCall.entryExists record).ask)

/-- Read a record as JSON. -/
def readJson (record : Record) : LaunchProg Json := do
  .ofExcept (← (LaunchCall.readJson record).ask)

/-! ## Later namespaces -/

/-- None of the records exists. -/
def forbid (directory : String) (space : Namespace) (message : String) : List RecordName → LaunchProg Unit
  | [] => return ()
  | name :: names => do
    let found ← entryExists ⟨directory, space, name⟩
    .ofExcept (ensure (found = false) message)
    forbid directory space message names

/-- A member of a record. -/
def member (value : Json) (field : String) : Option Json := Json.reader.get value field

/-- A member that is a natural number. -/
def memberNat (value : Json) (field : String) : Option ℕ := (member value field).bind Json.reader.asU64

/-- An attempt recorded with its evidence. -/
def hasEvidence (attempt : Json) : Bool := (member attempt "evidence").any Json.reader.isObject

/-- The message for a record that is not JSON. -/
def invalidJson : String := "invalid operator JSON"

/-- The products of the original launch. -/
def originalNms : List ℕ := [146312604, 207418966, 455101276, 461126890, 529996417]

/-- What must not exist besides the unconfirmed create. -/
def progressRecords : List RecordName :=
  [.receipt .create, .attempted .bids, .receipt .bids, .policyReceipt, .attempted .fund, .receipt .fund,
    .attempted .start, .receipt .start]

/-- Exactly one reauthorized create, on top of the original one that was never confirmed. -/
def recreateValidate (f : LaunchFormat) (directory : String) (new : Json) : LaunchProg Unit := do
  let manifest ← .ofExcept (context (f.manifest new) invalidJson)
  let approval ← .ofExcept (context manifest.recreate "replacement approval missing")
  .ofExcept (ensure (manifest.scope = .createOnly ∧ manifest.budgetRubles = 0 ∧ manifest.fundingType = 1 ∧
    manifest.accountId = account ∧ manifest.campaignName = name ∧ manifest.bidsKopecks.keys = nms)
    "replacement scope invalid")
  let oldValue ← readJson ⟨directory, .original, .manifest⟩
  let attempt ← readJson ⟨directory, .original, .attempted .create⟩
  .ofExcept (ensure (f.digest oldValue = approval.previousManifestSha256 ∧
    f.digest attempt = approval.previousAttemptSha256) "previous immutable evidence hash mismatch")
  let old ← .ofExcept (context (f.manifest oldValue) invalidJson)
  let attemptedAt ← .ofExcept (context ((member attempt "attempted_at").bind f.time) invalidJson)
  .ofExcept (ensure (hasEvidence attempt) "previous attempt evidence missing")
  .ofExcept (ensure (old.recreate.isNone ∧ old.scope = .createOnly ∧ old.budgetRubles = 0 ∧
    old.fundingType = 1 ∧ old.accountId = manifest.accountId ∧ old.campaignName = manifest.campaignName ∧
    old.bidsKopecks.keys = originalNms ∧ old.authorizationReference ≠ manifest.authorizationReference ∧
    old.expiresAt < manifest.authorizedAt ∧ attemptedAt < manifest.authorizedAt)
    "replacement requires a new authorization for the original create-only attempt")
  forbid directory .original "prior operation progressed beyond unconfirmed create; reconcile only"
    progressRecords

/-- What must not exist before a continuation. -/
def tradingRecords : List RecordName :=
  [.attempted .bids, .receipt .bids, .attempted .fund, .responseReceipt .fund, .receipt .fund,
    .attempted .start, .receipt .start]

/-- Evidence of the confirmed create. -/
def readEvidence (f : LaunchFormat) (directory : String) (recordName : RecordName) (expected : String) :
    LaunchProg Json := do
  let record ← readJson ⟨directory, .recreate, recordName⟩
  .ofExcept (ensure (f.digest record = expected) "confirmed create evidence changed")
  return record

/-- A new approval for the confirmed replacement, before any trading. -/
def continuationValidate (f : LaunchFormat) (directory : String) (value : Json) : LaunchProg Unit := do
  let manifest ← .ofExcept (context (f.manifest value) invalidJson)
  let approval ← .ofExcept (context manifest.continueCreated "continuation approval missing")
  .ofExcept (approval.validateScope manifest)
  let manifestRecord ← readEvidence f directory .manifest approval.previousManifestSha256
  let attempt ← readEvidence f directory (.attempted .create) approval.previousAttemptSha256
  let receipt ← readEvidence f directory (.receipt .create) approval.previousReceiptSha256
  let policy ← readEvidence f directory .policyReceipt approval.previousPolicySha256
  recreateValidate f directory manifestRecord
  let previous ← .ofExcept (context (f.manifest manifestRecord) invalidJson)
  let attemptedAt ← .ofExcept (context ((member attempt "attempted_at").bind f.time) invalidJson)
  .ofExcept (ensure (previous.continueCreated.isNone ∧ previous.scope = .createOnly ∧
    previous.accountId = manifest.accountId ∧ previous.campaignName = manifest.campaignName ∧
    previous.bidsKopecks = manifest.bidsKopecks ∧
    previous.authorizationReference ≠ manifest.authorizationReference ∧
    previous.authorizedAt < manifest.authorizedAt ∧ attemptedAt < manifest.authorizedAt ∧
    hasEvidence attempt ∧ memberNat receipt "campaign_id" = some campaignId ∧
    memberNat receipt "wb_http" = some 200 ∧ memberNat policy "campaign_id" = some campaignId)
    "continuation requires new approval for a confirmed create")
  forbid directory .original "earlier trading attempt exists; reconcile only" tradingRecords
  forbid directory .recreate "earlier trading attempt exists; reconcile only" tradingRecords
  let existing : Record := ⟨directory, .continuation, .manifest⟩
  if ← entryExists existing then
    let recorded ← readJson existing
    .ofExcept (ensure (recorded = value) "continuation approval is immutable")

/-! ## The journal -/

/-- An open directory of records. -/
structure Journal where
  directory : String
  writable : Bool
  recovery : Bool
  continuation : Bool

namespace Journal

/-- The namespace of the launch. -/
def launch (self : Journal) : Namespace :=
  if self.continuation then .continuation else if self.recovery then .recreate else .original

/-- The namespace of a record; a continuation reads the create of the replacement. -/
def space (self : Journal) (recordName : RecordName) : Namespace :=
  if self.continuation && !recordName.startsWith .create then .continuation
  else if self.recovery || self.continuation then .recreate
  else .original

/-- Where a record lies. -/
def path (self : Journal) (recordName : RecordName) : Record :=
  ⟨self.directory, self.space recordName, recordName⟩

/-- Create a record. -/
def record (self : Journal) (f : LaunchFormat) (recordName : RecordName) (value : Json) : LaunchProg Unit := do
  .ofExcept (ensure (self.writable = true) "read-only reconcile cannot write journal")
  .when self.continuation do
    .ofExcept (ensure (recordName.startsWith .create = false) "continuation cannot create")
    let manifest ← if recordName = .manifest then pure value else readJson (self.path .manifest)
    continuationValidate f self.directory manifest
  .ofExcept (ensure (self.recovery = false ∨
    recordName.startsWith .fund = false ∧ recordName.startsWith .start = false)
    "replacement create cannot fund or start")
  .ofExcept (← (LaunchCall.createNew (self.path recordName)).ask)
  .ofExcept (← (LaunchCall.writeAll (self.path recordName) value).ask)

/-- Whether a record exists; an unreadable directory counts as if it did. -/
def present (self : Journal) (recordName : RecordName) : LaunchProg Bool := do
  let found ← (LaunchCall.entryExists (self.path recordName)).ask
  return match found with
    | .ok found => found
    | .error _ => true

/-- Whether the attempt of a stage is recorded. -/
def attempted (self : Journal) (stage : Stage) : LaunchProg Bool := self.present (.attempted stage)

/-- Whether the receipt of a stage is recorded. -/
def hasReceipt (self : Journal) (stage : Stage) : LaunchProg Bool := self.present (.receipt stage)

/-- The message for a stage that was attempted before. -/
def alreadyAttempted : String := "already attempted; reconcile only, do not repeat"

/-- Nothing of a stage is recorded. -/
def assertNotAttempted (self : Journal) (stage : Stage) : LaunchProg Unit := do
  if ← self.attempted stage then .fail alreadyAttempted
  else if ← self.hasReceipt stage then .fail alreadyAttempted
  else if ← self.present (.responseReceipt stage) then .fail alreadyAttempted

/-- Record the attempt of a stage. -/
def attempt (self : Journal) (f : LaunchFormat) (stage : Stage) (evidence : Json) : LaunchProg Unit := do
  self.assertNotAttempted stage
  .when self.recovery do
    let manifest ← readJson (self.path .manifest)
    recreateValidate f self.directory manifest
  let now ← LaunchCall.now.ask
  self.record f (.attempted stage) (.obj [("attempted_at", f.timeText now), ("evidence", evidence)])

/-- A record that has to be there. -/
def requireReceipt (self : Journal) (recordName : RecordName) : LaunchProg Json :=
  readJson (self.path recordName)

/-- The campaign that the receipt of the creation names. -/
def campaignId (self : Journal) : LaunchProg ℕ := do
  let receipt ← self.requireReceipt (.receipt .create)
  .ofExcept (context ((memberNat receipt "campaign_id").filter (0 < ·)) "confirmed create response is missing")

/-- The campaign, once it was created. -/
def maybeCampaignId (self : Journal) : LaunchProg (Option ℕ) := do
  if ← self.hasReceipt .create then return some (← self.campaignId) else return none

end Journal

/-! ## Opening a journal -/

/-- The directory of an account and a campaign name, whatever else the manifest says. -/
def directoryName (f : LaunchFormat) (manifest : Json) : Except String String :=
  let version := (memberNat manifest "version").getD 1
  if version = 1 then .ok "ofk_region_wb-Nexus"
  else do
    ensure (version = 2) "unsupported launch journal version"
    let accountId ← context ((member manifest "account_id").bind Json.reader.asStr) "missing journal account"
    let campaignName ← context ((member manifest "campaign_name").bind Json.reader.asStr)
      "missing journal campaign name"
    if accountId = account ∧ campaignName = name then return "ofk_region_wb-Nexus"
    else return "campaign-" ++ f.digest (.arr [.str accountId, .str campaignName])

/-- A field that is there and not null. -/
def isPresent (manifest : Json) (field : String) : Bool :=
  match member manifest field with
  | none => false
  | some .null => false
  | some _ => true

namespace Journal

/-- Later namespaces close the earlier ones; the manifest is recorded once and compared ever after. -/
def validateOpenAuthorization (self : Journal) (f : LaunchFormat) (manifest : Json) (writable : Bool) :
    LaunchProg Unit := do
  .when self.continuation (continuationValidate f self.directory manifest)
  .when (writable && !self.continuation)
    (forbid self.directory .continuation "continuation authorization recorded; earlier writes forbidden"
      [.manifest])
  .when self.recovery (recreateValidate f self.directory manifest)
  .when (writable && !self.continuation && !self.recovery)
    (forbid self.directory .recreate "replacement authorization already recorded; legacy writes forbidden"
      [.manifest])
  .when writable do
    let found ← entryExists (self.path .manifest)
    .when (!found) (self.record f .manifest manifest)
  let recorded ← readJson (self.path .manifest)
  .ofExcept (ensure (recorded = manifest)
    "manifest differs from immutable launch authorization; no writes allowed")

/-- Take the lock of the manifest's account. -/
def lockAccount (manifest : Json) : LaunchProg Unit := do
  let accountId ← .ofExcept (context ((member manifest "account_id").bind Json.reader.asStr)
    "missing launch account")
  .ofExcept (← (LaunchCall.lockAccount accountId).ask)

/-- **Open a journal.** -/
def «open» (f : LaunchFormat) (manifest : Json) (writable : Bool) : LaunchProg Journal := do
  .ofExcept (← LaunchCall.checkRoot.ask)
  .when (writable && decide (memberNat manifest "version" = some 2)) (lockAccount manifest)
  let directory ← .ofExcept (directoryName f manifest)
  .ofExcept (← (LaunchCall.openDirectory directory writable).ask)
  .when writable do
    .ofExcept (← (LaunchCall.lockJournal directory).ask)
  let journal : Journal := ⟨directory, writable, isPresent manifest "recreate",
    isPresent manifest "continue_created"⟩
  journal.validateOpenAuthorization f manifest writable
  return journal

end Journal

end AdsControl.Wb.Launch
