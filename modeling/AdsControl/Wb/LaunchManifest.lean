import AdsControl.Lib.OrderedMap
import AdsControl.Wb.LaunchJournal
import AdsControl.Wb.Policy

/-!
# Approved launches and the write client

A launch is approved by the validation of its manifest against the source policy. The write client
checks the arguments of every request again, with bounds of its own.

* `LaunchManifest.validate`: the approval; the digest of the source policy is a parameter;
* `validateCreateCampaignRequest`, `validateWriteRequest`, `checkDeposit`: the checks of the client;
* **`executable_iff`**: an approved launch passes them exactly within the bounds of the client.
-/

namespace AdsControl.Wb.Launch

open Fallible Std

/-! ## Requests -/

/-- The most changes of a request. -/
def maxChanges : ℕ := 50

/-- Where a bid applies. -/
inductive WbBidPlacement
  | combined
  | search
  | recommendations
  deriving DecidableEq

/-- How bids are set. -/
inductive WbCampaignBidType
  | manual
  | unified
  deriving DecidableEq

/-- What is paid for. -/
inductive WbCampaignPaymentType
  | cpm
  | cpc
  deriving DecidableEq

/-- The request that creates a campaign. -/
structure WbCreateCampaignRequest where
  name : String
  nmIds : List ℕ
  bidType : WbCampaignBidType
  paymentType : WbCampaignPaymentType
  placementTypes : List WbBidPlacement

/-- A bid with the one it replaces. -/
structure WbPreparedBidChange where
  nmId : ℕ
  placement : WbBidPlacement
  beforeBidKopecks : ℕ
  bidKopecks : ℕ

/-- An id that a column of 64 bits holds. -/
def validateAdvertId (advertId : ℕ) : Except WbWriteError Unit :=
  ensure (advertId ≠ 0 ∧ advertId < 2 ^ 63) (.invalidRequest "advert_id")

/-- The bounds of a request that changes bids. -/
def validateWriteRequest (advertId : ℕ) (changes : List WbPreparedBidChange) : Except WbWriteError Unit := do
  validateAdvertId advertId
  ensure (changes ≠ [] ∧ changes.length ≤ maxChanges) (.invalidRequest "changes")
  let unique := (changes.map fun change => (change.nmId, change.placement)).toFinset
  ensure (unique.card = changes.length ∧ ∀ change ∈ changes, change.nmId ≠ 0 ∧ change.nmId < 2 ^ 63 ∧
    change.beforeBidKopecks < 2 ^ 63 ∧ change.bidKopecks ≠ 0 ∧ change.bidKopecks < 2 ^ 63)
    (.invalidRequest "changes")

/-- The placements that the type of bid and payment allows. -/
def placementsValid (request : WbCreateCampaignRequest) : Bool :=
  let unique := request.placementTypes.toFinset
  match request.bidType with
  | .manual => decide (request.placementTypes ≠ [] ∧ request.placementTypes.length ≤ 2 ∧
    unique.card = request.placementTypes.length ∧ WbBidPlacement.combined ∉ unique)
  | .unified => request.placementTypes.isEmpty

/-- The bounds of a request that creates a campaign. -/
def validateCreateCampaignRequest (request : WbCreateCampaignRequest) : Except WbWriteError Unit := do
  ensure (request.name ≠ "" ∧ trim request.name = request.name.toList ∧ request.name.utf8ByteSize ≤ 100 ∧
    request.name.toList.any isControl = false) (.invalidRequest "name")
  ensure (request.nmIds ≠ [] ∧ request.nmIds.length ≤ maxChanges) (.invalidRequest "nm_ids")
  ensure (request.nmIds.toFinset.card = request.nmIds.length ∧ ∀ nmId ∈ request.nmIds, nmId ≠ 0 ∧ nmId < 2 ^ 63)
    (.invalidRequest "nm_ids")
  ensure (placementsValid request) (.invalidRequest "placement_types")

/-- The arguments of a transfer. -/
def checkDeposit (advertId amountRubles : ℕ) : Except WbWriteError Unit := do
  ensure (1 ≤ amountRubles ∧ amountRubles ≤ 1000000) (.invalidRequest "funding must be 1..=1000000 RUB")
  validateAdvertId advertId

/-! ## Approval -/

/-- The campaign that is copied. -/
def source : ℕ := 39807762

/-- The manifest with the fields that only its approval reads. -/
structure LaunchManifest extends Manifest where
  manualControl : Bool
  sourcePolicySha256 : String
  actorId : String
  readerProxy : String
  writerProxy : String

namespace LaunchManifest

/-- The products of the manifest. -/
def nmIds (self : LaunchManifest) : List ℕ := self.bidsKopecks.keys

/-- The version, the account and the name. -/
def validateIdentity (self : LaunchManifest) : Except String Unit := do
  ensure (self.version = 1 ∨ self.version = 2) "unsupported WB launch manifest version"
  if self.version = 1 then
    ensure (self.accountId = account ∧ self.campaignName = name ∧ self.bidsKopecks.keys = nms ∧
      self.manualControl = false) "Nexus account/name/SKU scope mismatch"
  else do
    ensure (self.recreate.isNone ∧ self.continueCreated.isNone)
      "legacy recovery authorization cannot be used by a reusable launch"
    ensure (asciiWord ['_', '-'] self.accountId) "invalid account identity"
    ensure (trim self.campaignName ≠ [] ∧ trim self.campaignName = self.campaignName.toList ∧
      self.campaignName.utf8ByteSize ≤ 128 ∧ self.campaignName.toList.any isControl = false)
      "campaign name must contain 1..=128 UTF-8 bytes without surrounding whitespace or controls"
    ensure ((1 ≤ self.bidsKopecks.size ∧ self.bidsKopecks.size ≤ 50) ∧
      ∀ entry ∈ self.bidsKopecks.toList, 0 < entry.1 ∧ entry.1 < 2 ^ 63 ∧ 0 < entry.2 ∧ entry.2 < 2 ^ 63)
      "launch requires 1..=50 distinct positive product IDs and bids in kopecks"
  ensure self.financialScopeMatches "funding scope does not match the authorized amount"

/-- The policy of the launched campaign. -/
def targetPolicy (self : LaunchManifest) (source : WbAutomationPolicy) (id : ℕ) : WbAutomationPolicy :=
  { source with
    campaignId := id
    accountId := self.accountId
    campaignName := self.campaignName
    nmIds := self.nmIds
    authorizedByActorId := self.actorId
    authorizationReference := self.authorizationReference }

/-- A policy check with the text of its error. -/
def checkPolicy (policy : WbAutomationPolicy) (text : String) : Except String Unit :=
  (validatePolicy policy).mapError fun _ => text

/-- A continuation keeps its reviewed scope and corridor. -/
def validateContinuation (self : LaunchManifest) (policy : WbAutomationPolicy) : Except String Unit :=
  match self.continueCreated with
  | none => pure ()
  | some approval => do
    approval.validateScope self.toManifest
    ensure (policy.hardDrrBasisPoints = 1500 ∧ policy.minBidKopecks = 500 ∧ policy.maxBidKopecks = 1050 ∧
      policy.cooldownSeconds = 1800) "continuation must preserve reviewed hard DRR, corridor and cooldown"

/-- The manifest against its policy. -/
def validate (digest : WbAutomationPolicy → String) (self : LaunchManifest) (policy : WbAutomationPolicy)
    (now : ℤ) (allowExpired : Bool) : Except String Unit := do
  self.validateIdentity
  self.validateContinuation policy
  ensure (trim self.authorizationReference ≠ [] ∧
    (allowExpired ∨ self.authorizedAt ≤ now ∧ now < self.expiresAt) ∧
    seconds 1 ≤ self.expiresAt - self.authorizedAt ∧ self.expiresAt - self.authorizedAt ≤ hours 24)
    "launch authorization is absent or expired (maximum 24 hours)"
  checkPolicy policy "WB automation policy имеет недопустимые границы"
  ensure (policy.accountId = self.accountId ∧
    (self.version = 2 ∨ policy.campaignId = source ∧ policy.campaignName = "Одуванчик" ∧
      policy.dailySpendCapMinor = 50000 ∧ policy.dailyPauseThresholdMinor = 45000 ∧
      policy.targetDrrBasisPoints = 1500) ∧
    policy.paymentType = "cpc" ∧ policy.placement = "search" ∧ policy.allowBudgetTopUp = false ∧
    policy.writeEnabled ∧ policy.bidWritesEnabled ∧
    (allowExpired ∨ policy.authorizedAt ≤ now ∧ now < policy.authorizationExpiresAt))
    "source robot protection policy is incompatible or inactive"
  ensure (∀ entry ∈ self.bidsKopecks.toList, policy.minBidKopecks ≤ entry.2 ∧ entry.2 ≤ policy.maxBidKopecks)
    "initial bids exceed the source policy corridor"
  ensure (digest policy = self.sourcePolicySha256) "source policy changed since review"
  -- The campaign does not exist yet: every derived field is checked with an identifier that is valid.
  checkPolicy (self.targetPolicy policy policy.campaignId) "derived target robot policy is invalid"
  ensure (self.readerProxy ≠ "" ∧ self.writerProxy ≠ "") "dedicated egress proxies are mandatory"

/-- The create request of the operator. -/
def createRequest (self : LaunchManifest) : WbCreateCampaignRequest where
  name := self.campaignName
  nmIds := self.nmIds
  bidType := .manual
  paymentType := .cpc
  placementTypes := [.search]

/-- The initial bids as changes of the observed ones; a missing product would be a panic. -/
def initialChanges (self : LaunchManifest) (before : CampaignObservation) : Option (List WbPreparedBidChange) :=
  self.bidsKopecks.toList.mapM fun entry => do
    let beforeBidKopecks ← before.bids[entry.1]?
    return { nmId := entry.1, placement := .search, beforeBidKopecks, bidKopecks := entry.2 }

end LaunchManifest

/-! ## What is approved -/

section Approved

variable {digest : WbAutomationPolicy → String} {manifest : LaunchManifest} {policy : WbAutomationPolicy}
  {now : ℤ} {allowExpired : Bool}

/-- What the approval says about the values that are sent. -/
structure Approved (manifest : LaunchManifest) (policy : WbAutomationPolicy) : Prop where
  name_ne : manifest.campaignName ≠ ""
  name_trim : trim manifest.campaignName = manifest.campaignName.toList
  name_control : manifest.campaignName.toList.any isControl = false
  count : 1 ≤ manifest.bidsKopecks.size ∧ manifest.bidsKopecks.size ≤ maxChanges
  products : ∀ nmId ∈ manifest.nmIds, nmId ≠ 0 ∧ nmId < 2 ^ 63
  bids : ∀ entry ∈ manifest.bidsKopecks.toList, entry.2 ≠ 0
  funding : manifest.scope = .fundAndStart → 1 ≤ manifest.budgetRubles ∧ manifest.budgetRubles ≤ 1000000
  target : validatePolicy (manifest.targetPolicy policy policy.campaignId) = .ok ()

theorem minBid_pos_of_validatePolicy (h : validatePolicy policy = .ok ()) : 0 < policy.minBidKopecks := by
  unfold validatePolicy at h
  dsimp only at h
  split_ifs at h with hv
  simp only [Bool.not_eq_true', Bool.not_eq_false, Bool.and_eq_true] at hv
  have hlimits := hv.2
  simp only [validPolicyActionLimits, Bool.and_eq_true, decide_eq_true_eq] at hlimits
  obtain ⟨⟨⟨⟨⟨⟨⟨⟨⟨⟨⟨⟨⟨⟨⟨⟨hmin, -⟩, -⟩, -⟩, -⟩, -⟩, -⟩, -⟩, -⟩, -⟩, -⟩, -⟩, -⟩, -⟩, -⟩, -⟩, -⟩ := hlimits
  exact hmin

theorem checkPolicy_eq_ok {text : String} {u : Unit} : LaunchManifest.checkPolicy policy text = .ok u ↔
    validatePolicy policy = .ok () := ok_of_mapError

theorem ne_empty_of_trim {text : String} (h : trim text ≠ []) : text ≠ "" := by
  rintro rfl
  exact h rfl

theorem mem_nmIds {nmId : ℕ} : nmId ∈ manifest.nmIds ↔ ∃ bid, (nmId, bid) ∈ manifest.bidsKopecks.toList := by
  rw [LaunchManifest.nmIds, ← ExtTreeMap.map_fst_toList_eq_keys]
  simp only [List.mem_map, Prod.exists, exists_and_right, exists_eq_right]

theorem financial_of_matches (h : manifest.financialScopeMatches = true)
    (hscope : manifest.scope = .fundAndStart) : 1 ≤ manifest.budgetRubles ∧ manifest.budgetRubles ≤ 1000000 := by
  simp only [Manifest.financialScopeMatches, hscope, Bool.and_eq_true] at h
  have hbudget := h.2
  split_ifs at hbudget
  · rw [decide_eq_true_eq] at hbudget
    omega
  · rw [decide_eq_true_eq] at hbudget
    omega

theorem identity_of_validateIdentity (h : manifest.validateIdentity = .ok ()) :
    manifest.financialScopeMatches = true ∧
      ((manifest.version = 1 ∧ manifest.campaignName = name ∧ manifest.bidsKopecks.keys = nms) ∨
        (trim manifest.campaignName ≠ [] ∧ trim manifest.campaignName = manifest.campaignName.toList ∧
          manifest.campaignName.toList.any isControl = false ∧
          (1 ≤ manifest.bidsKopecks.size ∧ manifest.bidsKopecks.size ≤ 50) ∧
          ∀ entry ∈ manifest.bidsKopecks.toList,
            0 < entry.1 ∧ entry.1 < 2 ^ 63 ∧ 0 < entry.2 ∧ entry.2 < 2 ^ 63)) := by
  rw [LaunchManifest.validateIdentity] at h
  split_ifs at h with hversion
  · simp only [ok_of_bind, ensure_eq_ok, exists_const] at h
    obtain ⟨-, ⟨-, hname, hkeys, -⟩, hfinancial⟩ := h
    exact ⟨hfinancial, .inl ⟨hversion, hname, hkeys⟩⟩
  · simp only [ok_of_bind, ensure_eq_ok, exists_const] at h
    obtain ⟨-, -, -, ⟨hne, htrim, -, hcontrol⟩, ⟨hcount, hentries⟩, hfinancial⟩ := h
    exact ⟨hfinancial, .inr ⟨hne, htrim, hcontrol, hcount, hentries⟩⟩

/-- **What an approved manifest satisfies.** -/
theorem approved_of_validate (h : manifest.validate digest policy now allowExpired = .ok ()) :
    Approved manifest policy := by
  simp only [LaunchManifest.validate, ok_of_bind, ensure_eq_ok, exists_const, checkPolicy_eq_ok] at h
  obtain ⟨_, hidentity, _, -, -, hpolicy, -, hcorridor, -, htarget, -⟩ := h
  obtain ⟨hfinancial, hscope⟩ := identity_of_validateIdentity hidentity
  have hpos := minBid_pos_of_validatePolicy hpolicy
  have hbids : ∀ entry ∈ manifest.bidsKopecks.toList, entry.2 ≠ 0 := by
    intro entry hentry
    have := (hcorridor entry hentry).1
    omega
  obtain ⟨-, hname, hkeys⟩ | ⟨hne, htrim, hcontrol, hcount, hentries⟩ := hscope
  · refine ⟨?_, ?_, ?_, ?_, ?_, hbids, financial_of_matches hfinancial, htarget⟩
    · rw [hname]
      decide
    · rw [hname]
      decide
    · rw [hname]
      decide
    · rw [← ExtTreeMap.length_keys, hkeys]
      decide
    · rw [LaunchManifest.nmIds, hkeys]
      decide
  · refine ⟨ne_empty_of_trim hne, htrim, hcontrol, hcount, ?_, hbids, financial_of_matches hfinancial, htarget⟩
    intro nmId hnmId
    obtain ⟨bid, hentry⟩ := mem_nmIds.mp hnmId
    obtain ⟨hpositive, hsigned, -⟩ := hentries _ hentry
    exact ⟨hpositive.ne', hsigned⟩

/-! ## Requests of an approved launch -/

theorem validatePolicy_campaignId {id : ℕ} (h : validatePolicy policy = .ok ()) (hid : 0 < id) :
    validatePolicy { policy with campaignId := id } = .ok () := by
  unfold validatePolicy at h ⊢
  dsimp only at h ⊢
  split_ifs at h with hv
  rw [if_neg]
  simp only [Bool.not_eq_true', Bool.not_eq_false, Bool.and_eq_true] at hv ⊢
  obtain ⟨⟨⟨⟨hidentity, hauthorization⟩, htargets⟩, hpacing⟩, hlimits⟩ := hv
  refine ⟨⟨⟨⟨?_, hauthorization⟩, htargets⟩, hpacing⟩, hlimits⟩
  simp only [validPolicyIdentity, Bool.and_eq_true] at hidentity ⊢
  exact ⟨hidentity.1, by simpa using hid.ne'⟩

theorem Approved.target_valid (h : Approved manifest policy) {id : ℕ} (hid : 0 < id) :
    validatePolicy (manifest.targetPolicy policy id) = .ok () := by
  have hderived : manifest.targetPolicy policy id =
      { manifest.targetPolicy policy policy.campaignId with campaignId := id } := rfl
  rw [hderived]
  exact validatePolicy_campaignId h.target hid

theorem nodup_nmIds (manifest : LaunchManifest) : manifest.nmIds.Nodup := ExtTreeMap.nodup_keys

theorem length_nmIds (manifest : LaunchManifest) : manifest.nmIds.length = manifest.bidsKopecks.size :=
  ExtTreeMap.length_keys

/-- The create request passes within the length of a name. -/
theorem Approved.createRequest_iff (h : Approved manifest policy) :
    validateCreateCampaignRequest manifest.createRequest = .ok () ↔
      manifest.campaignName.utf8ByteSize ≤ 100 := by
  have hlength := length_nmIds manifest
  have hcount := h.count
  simp only [validateCreateCampaignRequest, ok_of_bind, ensure_eq_ok, exists_const]
  constructor
  · rintro ⟨⟨-, -, hname, -⟩, -⟩
    exact hname
  · intro hname
    refine ⟨⟨h.name_ne, h.name_trim, hname, h.name_control⟩, ⟨?_, ?_⟩, ⟨?_, h.products⟩, ?_⟩
    · rw [← List.length_pos_iff]
      show 0 < manifest.nmIds.length
      omega
    · show manifest.nmIds.length ≤ maxChanges
      omega
    · exact List.toFinset_card_of_nodup (nodup_nmIds manifest)
    · rfl

theorem initialChanges_eq {before : CampaignObservation} (hbefore : before.bids.keys = manifest.nmIds) :
    manifest.initialChanges before = some (manifest.bidsKopecks.toList.map fun entry =>
      { nmId := entry.1, placement := .search, beforeBidKopecks := before.bids[entry.1]?.getD 0,
        bidKopecks := entry.2 }) := by
  have hsome : ∀ entry ∈ manifest.bidsKopecks.toList, before.bids[entry.1]?.isSome = true := by
    intro entry hentry
    rw [← OrderedMap.mem_keys_iff, hbefore]
    exact mem_nmIds.mpr ⟨entry.2, hentry⟩
  rw [LaunchManifest.initialChanges]
  generalize manifest.bidsKopecks.toList = entries at hsome
  induction entries with
  | nil => rfl
  | cons entry entries ih =>
    obtain ⟨bid, hbid⟩ := Option.isSome_iff_exists.mp (hsome entry List.mem_cons_self)
    have hrest := ih fun other hother => hsome other (List.mem_cons_of_mem _ hother)
    rw [List.mapM_cons, hrest, hbid]
    simp [hbid]

theorem Approved.initialChanges_iff (h : Approved manifest policy) {before : CampaignObservation}
    (hbefore : before.bids.keys = manifest.nmIds) {id : ℕ} (hid : 0 < id) :
    (∃ changes, manifest.initialChanges before = some changes ∧ validateWriteRequest id changes = .ok ()) ↔
      id < 2 ^ 63 ∧ (∀ entry ∈ manifest.bidsKopecks.toList, entry.2 < 2 ^ 63) ∧
        ∀ entry ∈ before.bids.toList, entry.2 < 2 ^ 63 := by
  have hkeys : (manifest.bidsKopecks.toList.map Prod.fst).Nodup := by
    rw [ExtTreeMap.map_fst_toList_eq_keys]
    exact ExtTreeMap.nodup_keys
  have hlength : manifest.bidsKopecks.toList.length = manifest.bidsKopecks.size := ExtTreeMap.length_toList
  have hcount := h.count
  rw [initialChanges_eq hbefore]
  simp only [Option.some.injEq, exists_eq_left', validateWriteRequest, validateAdvertId, ok_of_bind, ensure_eq_ok,
    exists_const, List.forall_mem_map, List.length_map]
  constructor
  · rintro ⟨⟨-, hsigned⟩, -, -, hchanges⟩
    refine ⟨hsigned, fun entry hentry => (hchanges entry hentry).2.2.2.2, fun entry hentry => ?_⟩
    have hfound := ExtTreeMap.mem_toList_iff_getElem?_eq_some.mp hentry
    have hmem : entry.1 ∈ manifest.nmIds := by
      rw [← hbefore, OrderedMap.mem_keys_iff, hfound]
      rfl
    obtain ⟨bid, hbid⟩ := mem_nmIds.mp hmem
    have hobserved := (hchanges (entry.1, bid) hbid).2.2.1
    rw [hfound, Option.getD_some] at hobserved
    exact hobserved
  · rintro ⟨hsigned, hbids, hobserved⟩
    refine ⟨⟨hid.ne', hsigned⟩, ⟨?_, ?_⟩, ?_, fun entry hentry => ?_⟩
    · rw [← List.length_pos_iff, List.length_map]
      omega
    · omega
    · rw [List.map_map, List.toFinset_card_of_nodup, List.length_map]
      refine List.Nodup.of_map Prod.fst ?_
      rw [List.map_map]
      exact hkeys
    · obtain ⟨hne, hproduct⟩ := h.products entry.1 (mem_nmIds.mpr ⟨entry.2, hentry⟩)
      refine ⟨hne, hproduct, ?_, h.bids entry hentry, hbids entry hentry⟩
      cases hfound : before.bids[entry.1]? with
      | none => exact Nat.two_pow_pos 63
      | some bid => exact hobserved (entry.1, bid) (ExtTreeMap.mem_toList_iff_getElem?_eq_some.mpr hfound)

/-- The transfer passes for every campaign in the signed range. -/
theorem Approved.deposit_iff (h : Approved manifest policy) (hscope : manifest.scope = .fundAndStart) {id : ℕ}
    (hid : 0 < id) : checkDeposit id manifest.budgetRubles = .ok () ↔ id < 2 ^ 63 := by
  simp only [checkDeposit, validateAdvertId, ok_of_bind, ensure_eq_ok, exists_const]
  exact ⟨fun hchecks => hchecks.2.2, fun hsigned => ⟨h.funding hscope, hid.ne', hsigned⟩⟩

end Approved

/-- The requests of a launch pass the checks of the write client. -/
def Executable (manifest : LaunchManifest) (policy : WbAutomationPolicy) (id : ℕ) (before : CampaignObservation) :
    Prop :=
  validateCreateCampaignRequest manifest.createRequest = .ok () ∧
    (∃ changes, manifest.initialChanges before = some changes ∧ validateWriteRequest id changes = .ok ()) ∧
    validatePolicy (manifest.targetPolicy policy id) = .ok () ∧
    (manifest.scope = .fundAndStart → checkDeposit id manifest.budgetRubles = .ok ())

/-- **An approved launch is executable exactly within the bounds of the write client**: a name of at most
100 bytes, and the identifier, the approved and the observed bids in the signed range. -/
theorem executable_iff {digest : WbAutomationPolicy → String} {manifest : LaunchManifest}
    {policy : WbAutomationPolicy} {now : ℤ} {allowExpired : Bool}
    (happroved : manifest.validate digest policy now allowExpired = .ok ()) {id : ℕ} (hid : 0 < id)
    {before : CampaignObservation} (hbefore : before.bids.keys = manifest.nmIds) :
    Executable manifest policy id before ↔
      manifest.campaignName.utf8ByteSize ≤ 100 ∧ id < 2 ^ 63 ∧
        (∀ entry ∈ manifest.bidsKopecks.toList, entry.2 < 2 ^ 63) ∧
        ∀ entry ∈ before.bids.toList, entry.2 < 2 ^ 63 := by
  have h := approved_of_validate happroved
  rw [Executable, h.createRequest_iff, h.initialChanges_iff hbefore hid]
  constructor
  · rintro ⟨hname, hchanges, -, -⟩
    exact ⟨hname, hchanges⟩
  · rintro ⟨hname, hchanges⟩
    exact ⟨hname, hchanges, h.target_valid hid, fun hscope => (h.deposit_iff hscope hid).mpr hchanges.1⟩

/-! ## A reusable launch -/

/-- The digest of the policy in use. -/
def robotPolicySha256 : String := "782dba48ebbad3a93da36dfe2312a8d806a80232372b4142acadfb3a344ab199"

/-- The launch of one product under the policy in use. -/
def reusableLaunch (campaignName : String) : LaunchManifest where
  version := 2
  scope := .fundAndStart
  accountId := "wb_account"
  campaignName := campaignName
  bidsKopecks := ExtTreeMap.ofList [(449627598, 700)]
  budgetRubles := 1000
  fundingType := 1
  authorizationReference := "chat/launch"
  authorizedAt := seconds 0
  expiresAt := hours 1
  recreate := none
  continueCreated := none
  manualControl := true
  sourcePolicySha256 := robotPolicySha256
  actorId := "operator"
  readerProxy := "https://reader-egress:8443"
  writerProxy := "https://writer-egress:8443"

/-- The campaign after its creation, with the bid of the marketplace. -/
def createdCampaign : CampaignObservation where
  status := 4
  bids := ExtTreeMap.ofList [(449627598, 500)]

theorem executable_iff_short_name :
    (reusableLaunch "Nexus 2").validate (fun _ => robotPolicySha256) robotPolicy (seconds 10) false = .ok () ∧
      Executable (reusableLaunch "Nexus 2") robotPolicy 42 createdCampaign := by
  have happroved : (reusableLaunch "Nexus 2").validate (fun _ => robotPolicySha256) robotPolicy (seconds 10) false =
      .ok () := by
    decide +kernel
  refine ⟨happroved, (executable_iff happroved (by decide) rfl).mpr ⟨?_, ?_, ?_, ?_⟩⟩
  · decide
  · decide
  · decide +kernel
  · decide +kernel

/-- A name of 101 bytes is approved and refused by the write client. -/
theorem long_name_refused :
    ¬ ∀ (manifest : LaunchManifest) (policy : WbAutomationPolicy) (now : ℤ) (allowExpired : Bool),
      manifest.validate (fun _ => robotPolicySha256) policy now allowExpired = .ok () →
      ∀ id, 0 < id → id < 2 ^ 63 → ∀ before : CampaignObservation, before.bids.keys = manifest.nmIds →
      (∀ entry ∈ before.bids.toList, entry.2 < 2 ^ 63) → Executable manifest policy id before := by
  intro h
  have happroved : (reusableLaunch (String.ofList (List.replicate 101 'a'))).validate
      (fun _ => robotPolicySha256) robotPolicy (seconds 10) false = .ok () := by
    decide +kernel
  have hexecutable := h _ _ _ _ happroved 42 (by decide) (by decide) createdCampaign rfl (by decide +kernel)
  have hlength : (String.ofList (List.replicate 101 'a')).utf8ByteSize ≤ 100 :=
    ((approved_of_validate happroved).createRequest_iff).mp hexecutable.1
  exact absurd hlength (by decide +kernel)

end AdsControl.Wb.Launch
