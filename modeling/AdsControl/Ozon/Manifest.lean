import AdsControl.Lib.FieldCode
import AdsControl.Lib.Fallible
import AdsControl.Lib.Machine
import AdsControl.Ozon.Launch
import AdsControl.Text

/-!
# Manifests of campaign launches

A manifest holds the reviewed intent of a launch, its digest, and the requests to the provider that were derived
from it. A stored manifest is used only when the digest and the requests are exactly those of the intent.

* `OzonCampaignLaunchSpec`, `OzonCampaignLaunchManifest`: the intent and the manifest;
* `makeManifestDigest`: the digest; the hash is a parameter;
* `hasExactPersistedIntegrity`: the check of a stored manifest;
* **`requests_of_integrity`**: it fixes the requests up to the title of the campaign.
-/

namespace AdsControl.Ozon.Plan

open Fallible FieldCode

/-! ## Data -/

/-- Where a campaign is shown. -/
inductive OzonPlacement
  | searchAndCategory
  | topPromotion
  deriving DecidableEq

/-- How its bids are set. -/
inductive OzonCampaignStrategy
  | targetBids
  | targetCir
  | topPromotion
  deriving DecidableEq

/-- The request that creates a campaign. -/
structure OzonCampaignCreateRequest where
  title : Text
  fromDate : Text
  toDate : Text
  weeklyBudget : UInt64
  placement : OzonPlacement
  productAutopilotStrategy : OzonCampaignStrategy
  deriving DecidableEq

/-- A product with its bid. -/
structure OzonCampaignProduct where
  sku : UInt64
  bid : Option UInt64
  targetCir : Option UInt8
  topPosition : Option UInt8
  deriving DecidableEq

/-- The request that adds products. -/
structure OzonCampaignProductsRequest where
  bids : List OzonCampaignProduct
  deriving DecidableEq

/-- What an actor wants to launch. -/
structure OzonCampaignLaunchSpec where
  accountId : Text
  title : Text
  fromDate : Text
  toDate : Text
  skus : List UInt64
  weeklyBudgetMicrorubles : UInt64
  perSkuSpendCapMicrorubles : UInt64
  initialCpcBidMicrorubles : UInt64
  maxCpcBidMicrorubles : UInt64
  targetDrrPercent : UInt8
  targetPosition : UInt8
  deriving DecidableEq

/-- The identity of the policy that a plan was made under. -/
structure PolicyIdentity where
  schemaVersion : UInt32
  revision : UInt64
  digest : Text
  deriving DecidableEq

/-- The launch with its digests and requests. -/
structure OzonCampaignLaunchManifest where
  manifestDigest : String
  actorId : Text
  policy : PolicyIdentity
  spec : OzonCampaignLaunchSpec
  createRequest : OzonCampaignCreateRequest
  productsRequest : OzonCampaignProductsRequest
  activationRequired : Bool

/-! ## Digest -/

/-- A text of the source as a field. -/
def literal (text : String) (h : text.utf8ByteSize < 2 ^ 64) : Field := .ofText ⟨text, h⟩

/-- The first field of every manifest digest. -/
def manifestDomain : Field := literal "mcp-ozon/ozon-campaign-launch/v1" (by decide)

/-- The fields of a manifest after its domain; every product is a field of its own. -/
def manifestFields (actorId : Text) (policy : PolicyIdentity) (spec : OzonCampaignLaunchSpec) : List Field :=
  [.ofText actorId, .ofU32 policy.schemaVersion, .ofU64 policy.revision, .ofText policy.digest,
    .ofText spec.accountId, .ofText spec.title, .ofText spec.fromDate, .ofText spec.toDate,
    .ofU64 spec.weeklyBudgetMicrorubles, .ofU64 spec.perSkuSpendCapMicrorubles,
    .ofU64 spec.initialCpcBidMicrorubles, .ofU64 spec.maxCpcBidMicrorubles,
    .ofU8 spec.targetDrrPercent, .ofU8 spec.targetPosition] ++ spec.skus.map .ofU64

/-- The digest of a manifest. -/
def makeManifestDigest (sha256 : Bytes → Bytes) (actorId : Text) (policy : PolicyIdentity)
    (spec : OzonCampaignLaunchSpec) : String :=
  digest sha256 (manifestDomain :: manifestFields actorId policy spec)

theorem manifestFields_inj {a a' : Text} {p p' : PolicyIdentity} {s s' : OzonCampaignLaunchSpec}
    (h : manifestFields a p s = manifestFields a' p' s') : a = a' ∧ p = p' ∧ s = s' := by
  obtain ⟨hfixed, hskus⟩ := List.append_inj h rfl
  have hskus := List.map_injective_iff.mpr Field.ofU64_injective hskus
  simp only [List.cons.injEq, Field.ofText_injective.eq_iff, Field.ofU32_injective.eq_iff,
    Field.ofU64_injective.eq_iff, Field.ofU8_injective.eq_iff, and_true] at hfixed
  cases p
  cases p'
  cases s
  cases s'
  simp_all

/-- **Under an injective hash the digest of a manifest determines its intent.** -/
theorem makeManifestDigest_inj {sha256 : Bytes → Bytes} (hsha : Function.Injective sha256) {a a' : Text}
    {p p' : PolicyIdentity} {s s' : OzonCampaignLaunchSpec}
    (h : makeManifestDigest sha256 a p s = makeManifestDigest sha256 a' p' s') : a = a' ∧ p = p' ∧ s = s' :=
  manifestFields_inj (List.cons.inj (digest_injective hsha h)).2

/-! ## Integrity -/

/-- Why a launch is refused. -/
inductive OzonLaunchPlanError
  | invalidSpec
  | policyMismatch
  deriving DecidableEq

/-- The longest title in bytes. -/
def maxTitleBytes : ℕ := 128

/-- The most products of a launch. -/
def maxSkus : ℕ := 50

/-- How `%Y-%m-%d` dates are read, as numbers of days. -/
abbrev ParseDate : Type := String → Option ℤ

/-- The characters of an identity. -/
def validateIdentity (value : String) : Except OzonLaunchPlanError Unit :=
  ensure (asciiWord ['_', '-', '.'] value) .invalidSpec

/-- A digest in its canonical form. -/
def validateDigest (value : String) : Except OzonLaunchPlanError Unit :=
  ensure (value.utf8ByteSize = 64 ∧ value.toList.all fun c => c.isDigit || ('a' ≤ c && c ≤ 'f')) .invalidSpec

/-- A control character of ASCII. -/
def isAsciiControl (c : Char) : Bool := c.toNat < 32 || c.toNat == 127

/-- The bounds of a launch. -/
def validateSpec (parse : ParseDate) (spec : OzonCampaignLaunchSpec) : Except OzonLaunchPlanError Unit := do
  validateIdentity spec.accountId
  ensure (spec.title.1 ≠ "" ∧ spec.title.1.utf8ByteSize ≤ maxTitleBytes ∧
    trim spec.title.1 = spec.title.1.toList ∧ spec.title.1.toList.any isAsciiControl = false ∧
    spec.skus ≠ [] ∧ spec.skus.length ≤ maxSkus ∧ spec.weeklyBudgetMicrorubles ≠ 0 ∧
    spec.perSkuSpendCapMicrorubles ≠ 0 ∧ spec.initialCpcBidMicrorubles ≠ 0 ∧
    spec.initialCpcBidMicrorubles ≤ spec.maxCpcBidMicrorubles ∧
    Machine.checkedMul 64 spec.perSkuSpendCapMicrorubles.toNat spec.skus.length =
      some spec.weeklyBudgetMicrorubles.toNat ∧
    10 ≤ spec.targetDrrPercent ∧ spec.targetDrrPercent ≤ 100 ∧ 1 ≤ spec.targetPosition ∧
    spec.targetPosition ≤ 30) .invalidSpec
  ensure (0 ∉ spec.skus ∧ spec.skus.Nodup) .invalidSpec
  let fromDate ← context (parse spec.fromDate) .invalidSpec
  let toDate ← context (parse spec.toDate) .invalidSpec
  ensure (fromDate ≤ toDate ∧ toDate - fromDate ≤ 31) .invalidSpec

/-- The request for the bid of one product. -/
def targetBid (spec : OzonCampaignLaunchSpec) (sku : UInt64) : OzonCampaignProduct where
  sku := sku
  bid := some spec.initialCpcBidMicrorubles
  targetCir := none
  topPosition := none

/-- The request that creates the campaign under a title. -/
def createRequestFor (spec : OzonCampaignLaunchSpec) (title : Text) : OzonCampaignCreateRequest where
  title := title
  fromDate := spec.fromDate
  toDate := spec.toDate
  weeklyBudget := spec.weeklyBudgetMicrorubles
  placement := .searchAndCategory
  productAutopilotStrategy := .targetBids

/-- What the policy allows a launch to ask for. -/
structure AllowedLaunch where
  accountId : Text
  skus : List UInt64
  weeklyBudgetMicrorubles : UInt64
  perSkuSpendCapMicrorubles : UInt64
  initialCpcBidMicrorubles : UInt64
  maxCpcBidMicrorubles : UInt64
  targetDrrPercent : UInt8
  targetPosition : UInt8
  deriving DecidableEq

/-- What a policy has to allow for it. -/
def OzonCampaignLaunchSpec.allowed (self : OzonCampaignLaunchSpec) : AllowedLaunch where
  accountId := self.accountId
  skus := self.skus
  weeklyBudgetMicrorubles := self.weeklyBudgetMicrorubles
  perSkuSpendCapMicrorubles := self.perSkuSpendCapMicrorubles
  initialCpcBidMicrorubles := self.initialCpcBidMicrorubles
  maxCpcBidMicrorubles := self.maxCpcBidMicrorubles
  targetDrrPercent := self.targetDrrPercent
  targetPosition := self.targetPosition

section Integrity

variable (sha256 : Bytes → Bytes) (parse : ParseDate)

/-- Every digest and request is that of the launch under this title. -/
def OzonCampaignLaunchManifest.hasExactIntegrityForTitle (self : OzonCampaignLaunchManifest)
    (expectedTitle : String) : Bool :=
  decide (validateSpec parse self.spec = .ok () ∧
    self.manifestDigest = makeManifestDigest sha256 self.actorId self.policy self.spec ∧
    self.createRequest.title.1 = expectedTitle ∧ self.createRequest.fromDate = self.spec.fromDate ∧
    self.createRequest.toDate = self.spec.toDate ∧
    self.createRequest.weeklyBudget = self.spec.weeklyBudgetMicrorubles ∧
    self.createRequest.placement = .searchAndCategory ∧
    self.createRequest.productAutopilotStrategy = .targetBids ∧
    self.productsRequest.bids = (self.spec.skus.take 1).map (targetBid self.spec) ∧
    self.activationRequired)

/-- Every digest and request is that of the launch. -/
def OzonCampaignLaunchManifest.hasExactIntegrity (self : OzonCampaignLaunchManifest) : Bool :=
  self.hasExactIntegrityForTitle sha256 parse self.spec.title

/-- Stored plans carry the title made of their identifier, older ones that of their spec. -/
def OzonCampaignLaunchManifest.hasExactPersistedIntegrity (self : OzonCampaignLaunchManifest)
    (planId : String) : Bool :=
  self.hasExactIntegrityForTitle sha256 parse (providerTitleForPlanId planId) ||
    self.hasExactIntegrity sha256 parse

/-- The manifest of a spec that the policy allows. -/
def prepareCampaignLaunchManifest (actorId : Text) (policy : PolicyIdentity) (allowed : AllowedLaunch)
    (spec : OzonCampaignLaunchSpec) : Except OzonLaunchPlanError OzonCampaignLaunchManifest := do
  validateIdentity actorId
  validateDigest policy.digest
  ensure (policy.schemaVersion ≠ 0 ∧ policy.revision ≠ 0) .invalidSpec
  validateSpec parse spec
  ensure (spec.allowed = allowed) .policyMismatch
  return {
    manifestDigest := makeManifestDigest sha256 actorId policy spec
    actorId
    policy
    spec
    createRequest := createRequestFor spec spec.title
    productsRequest := ⟨spec.skus.map (targetBid spec)⟩
    activationRequired := true }

variable {sha256 parse} {manifest manifest' : OzonCampaignLaunchManifest} {planId : String}

/-- **A manifest that was prepared for one product has exact integrity.** -/
theorem hasExactIntegrity_of_prepared {actorId : Text} {policy : PolicyIdentity} {allowed : AllowedLaunch}
    {spec : OzonCampaignLaunchSpec} (hone : spec.skus.length = 1)
    (h : prepareCampaignLaunchManifest sha256 parse actorId policy allowed spec = .ok manifest) :
    manifest.hasExactIntegrity sha256 parse = true := by
  simp only [prepareCampaignLaunchManifest, ok_of_bind, ensure_eq_ok, ok_of_pure] at h
  obtain ⟨⟨⟩, -, ⟨⟩, -, -, -, ⟨⟩, hvalid, -, -, rfl⟩ := h
  have htake : spec.skus.take 1 = spec.skus := List.take_of_length_le hone.le
  simp [OzonCampaignLaunchManifest.hasExactIntegrity, OzonCampaignLaunchManifest.hasExactIntegrityForTitle,
    hvalid, htake, createRequestFor]

/-- The requests follow the spec, under one of two titles. -/
structure Projected (manifest : OzonCampaignLaunchManifest) (planId : String) : Prop where
  title : manifest.createRequest.title.1 = providerTitleForPlanId planId ∨
    manifest.createRequest.title = manifest.spec.title
  create : manifest.createRequest = createRequestFor manifest.spec manifest.createRequest.title
  products : manifest.productsRequest = ⟨(manifest.spec.skus.take 1).map (targetBid manifest.spec)⟩

theorem integrity_spec {title : String} (h : manifest.hasExactIntegrityForTitle sha256 parse title = true) :
    manifest.manifestDigest = makeManifestDigest sha256 manifest.actorId manifest.policy manifest.spec ∧
      manifest.createRequest.title.1 = title ∧
      manifest.createRequest = createRequestFor manifest.spec manifest.createRequest.title ∧
      manifest.productsRequest = ⟨(manifest.spec.skus.take 1).map (targetBid manifest.spec)⟩ := by
  simp only [OzonCampaignLaunchManifest.hasExactIntegrityForTitle, decide_eq_true_eq] at h
  obtain ⟨-, hdigest, htitle, hfrom, hto, hbudget, hplacement, hstrategy, hproducts, -⟩ := h
  refine ⟨hdigest, htitle, ?_, ?_⟩
  · rw [createRequestFor, ← hfrom, ← hto, ← hbudget, ← hplacement, ← hstrategy]
  · rw [← hproducts]

theorem persisted_spec (h : manifest.hasExactPersistedIntegrity sha256 parse planId = true) :
    manifest.manifestDigest = makeManifestDigest sha256 manifest.actorId manifest.policy manifest.spec ∧
      Projected manifest planId := by
  rcases Bool.or_eq_true_iff.mp h with h | h
  · obtain ⟨hdigest, htitle, hcreate, hproducts⟩ := integrity_spec h
    exact ⟨hdigest, .inl htitle, hcreate, hproducts⟩
  · obtain ⟨hdigest, htitle, hcreate, hproducts⟩ := integrity_spec h
    exact ⟨hdigest, .inr (Subtype.ext htitle), hcreate, hproducts⟩

/-- **The digest of a stored manifest fixes its requests up to the title.** -/
theorem requests_of_integrity (hsha : Function.Injective sha256)
    (h : manifest.hasExactPersistedIntegrity sha256 parse planId = true)
    (h' : manifest'.hasExactPersistedIntegrity sha256 parse planId = true)
    (hdigest : manifest.manifestDigest = manifest'.manifestDigest) :
    manifest.productsRequest = manifest'.productsRequest ∧
      manifest.createRequest = { manifest'.createRequest with title := manifest.createRequest.title } ∧
      ∀ title ∈ [manifest.createRequest.title, manifest'.createRequest.title],
        title.1 = providerTitleForPlanId planId ∨ title = manifest.spec.title := by
  obtain ⟨hmade, hprojected⟩ := persisted_spec h
  obtain ⟨hmade', hprojected'⟩ := persisted_spec h'
  obtain ⟨-, -, hspec⟩ := makeManifestDigest_inj hsha (hmade.symm.trans (hdigest.trans hmade'))
  refine ⟨?_, ?_, ?_⟩
  · rw [hprojected.products, hprojected'.products, hspec]
  · rw [hprojected.create, hprojected'.create, hspec]
    rfl
  · simp only [List.mem_cons, List.not_mem_nil, or_false, forall_eq_or_imp, forall_eq]
    exact ⟨hprojected.title, hspec ▸ hprojected'.title⟩

end Integrity

end AdsControl.Ozon.Plan
