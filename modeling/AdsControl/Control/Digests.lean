import AdsControl.Calendar
import AdsControl.Lib.Rfc3339
import AdsControl.Ozon.Manifest

/-!
# Digests of approved intents

What an operator approves is the digest of a plan: of the fields of a bid plan, or of the manifest of a launch.
Every kind of digest starts with a domain of its own.

* `DigestedPlan`, `makePlanDigest`: the fields of a bid plan and their digest;
* `DigestDomain`, `preimage`: the domains, and what is hashed under each;
* **`preimage_domain`**: no byte string is hashed under two domains;
* **`digests_bind_intent`**: under an injective hash the digests bind all that is approved.
-/

namespace AdsControl.Control

open FieldCode Rfc3339
open AdsControl.Ozon.Plan

/-! ## Bid plans -/

/-- The rolling limits of a plan. -/
structure DigestedQuota where
  maxActionsPerHour : UInt32
  maxActionsPerDay : UInt32
  cooldownSeconds : UInt64
  maxCumulativeAbsDeltaKopecksPerDay : UInt64
  deriving DecidableEq

/-- The fields of a bid plan that its digest covers. -/
structure DigestedPlan where
  prepareReservationId : Text
  actorId : Text
  accountId : Text
  advertId : UInt64
  policy : PolicyIdentity
  actionQuota : DigestedQuota
  requestedJson : Text
  changesJson : Text
  beforeJson : Text
  createdAt : Instant
  expiresAt : Instant
  deriving DecidableEq

theorem natAbs_instant (instant : Instant) : instant.1.natAbs < 10 ^ 22 := by
  obtain ⟨t, hmin, hmax⟩ := instant
  simp only [minUtc, maxUtc, seconds] at hmin hmax ⊢
  omega

/-- The text of an instant. -/
def timestamp (instant : Instant) : Text :=
  ⟨rfc3339 instant.1, (byteSize_rfc3339 (natAbs_instant instant)).trans_lt (by decide)⟩

theorem timestamp_injective : Function.Injective timestamp := fun _ _ h =>
  Subtype.ext (rfc3339_injective (congrArg Subtype.val h))

/-- The first field of every plan digest. -/
def planDomain : Field := literal "mcp-ozon/wb-control-plan/v1" (by decide)

/-- The fields of a plan in their order. -/
def planFields (plan : DigestedPlan) : List Field :=
  [.ofText plan.prepareReservationId, .ofText plan.actorId, .ofText plan.accountId, .ofU64 plan.advertId,
    .ofU32 plan.policy.schemaVersion, .ofU64 plan.policy.revision, .ofText plan.policy.digest,
    .ofU32 plan.actionQuota.maxActionsPerHour, .ofU32 plan.actionQuota.maxActionsPerDay,
    .ofU64 plan.actionQuota.cooldownSeconds, .ofU64 plan.actionQuota.maxCumulativeAbsDeltaKopecksPerDay,
    .ofText plan.requestedJson, .ofText plan.changesJson, .ofText plan.beforeJson,
    .ofText (timestamp plan.createdAt), .ofText (timestamp plan.expiresAt)]

/-- The digest of a plan. -/
def makePlanDigest (sha256 : Bytes → Bytes) (plan : DigestedPlan) : String :=
  digest sha256 (planDomain :: planFields plan)

theorem planFields_injective : Function.Injective planFields := by
  rintro ⟨_, _, _, _, ⟨⟩, ⟨⟩, _, _, _, _, _⟩ ⟨_, _, _, _, ⟨⟩, ⟨⟩, _, _, _, _, _⟩ h
  simp only [planFields, List.cons.injEq, Field.ofText_injective.eq_iff, Field.ofU32_injective.eq_iff,
    Field.ofU64_injective.eq_iff, timestamp_injective.eq_iff, and_true] at h
  simp_all

/-- **Under an injective hash the digest of a plan determines its fields.** -/
theorem makePlanDigest_injective {sha256 : Bytes → Bytes} (hsha : Function.Injective sha256) :
    Function.Injective (makePlanDigest sha256) := fun _ _ h =>
  planFields_injective (List.cons.inj (digest_injective hsha h)).2

/-! ## Domains -/

/-- What a digest is about. -/
inductive DigestDomain
  | wbControlPlan
  | wbControlPlanId
  | wbControlPrepareReservation
  | wbControlApproval
  | ozonCampaignLaunch
  | ozonPlan
  | ozonPlanId
  | ozonApproval
  | guardStopLease
  | guardStopRecovery
  | launchLease
  | createIdentityPreflight
  | automationCycle
  | automationRequest
  | automationAction
  | automationLegacyState
  | automationAudit
  | wbWarehouse
  | positionPersistence
  deriving DecidableEq

namespace DigestDomain

/-- All domains of digests. -/
def all : List DigestDomain :=
  [wbControlPlan, wbControlPlanId, wbControlPrepareReservation, wbControlApproval, ozonCampaignLaunch, ozonPlan,
    ozonPlanId, ozonApproval, guardStopLease, guardStopRecovery, launchLease, createIdentityPreflight,
    automationCycle, automationRequest, automationAction, automationLegacyState, automationAudit, wbWarehouse,
    positionPersistence]

theorem mem_all (domain : DigestDomain) : domain ∈ all := by
  cases domain <;> decide

instance instFintypeDigestDomain : Fintype DigestDomain := ⟨all.toFinset, fun domain => List.mem_toFinset.mpr (mem_all domain)⟩

/-- A domain as its digests have it. -/
def text : DigestDomain → String
  | wbControlPlan => "mcp-ozon/wb-control-plan/v1"
  | wbControlPlanId => "mcp-ozon/wb-control-plan-id/v1"
  | wbControlPrepareReservation => "mcp-ozon/wb-control-prepare-reservation/v1"
  | wbControlApproval => "mcp-ozon/wb-control-approval/v1"
  | ozonCampaignLaunch => "mcp-ozon/ozon-campaign-launch/v1"
  | ozonPlan => "mcp-ozon/ozon-plan/v1"
  | ozonPlanId => "mcp-ozon/ozon-plan-id/v1"
  | ozonApproval => "mcp-ozon/ozon-approval/v1"
  | guardStopLease => "mcp-ozon/guard-stop-lease/v1"
  | guardStopRecovery => "mcp-ozon/guard-stop-recovery/v1"
  | launchLease => "mcp-ozon/launch-lease/v1"
  | createIdentityPreflight => "mcp-ozon/create-identity-preflight/v1"
  | automationCycle => "wb-automation-cycle-v1"
  | automationRequest => "wb-automation-request-v1"
  | automationAction => "wb-automation-action-v1"
  | automationLegacyState => "wb-automation-legacy-state-v1"
  | automationAudit => "wb-automation-audit-v1"
  | wbWarehouse => "mcp-ozon-wb-warehouse-v1"
  | positionPersistence => "mcp-ozon-position-persistence-v1"

/-- The domains that end with a zero byte; the others stand after their length. -/
def terminated : DigestDomain → Bool
  | automationCycle | automationRequest | automationAction | automationLegacyState | automationAudit
  | wbWarehouse | positionPersistence => true
  | _ => false

/-- A domain as bytes. -/
def bytes (domain : DigestDomain) : Bytes := domain.text.toUTF8.data.toList

/-- What is hashed under a domain. -/
def preimage (domain : DigestDomain) (body : Bytes) : Bytes :=
  if domain.terminated then domain.bytes ++ 0 :: body
  else bigEndian 8 domain.bytes.length ++ (domain.bytes ++ body)

theorem bytes_injective : Function.Injective bytes := by
  have hbytes : ∀ d d' : DigestDomain, d.bytes = d'.bytes → d = d' := by decide +kernel
  exact fun d d' => hbytes d d'

theorem zero_notMem_bytes : ∀ domain : DigestDomain, 0 ∉ domain.bytes := by decide +kernel

theorem length_bytes_lt : ∀ domain : DigestDomain, domain.bytes.length < 256 := by decide +kernel

/-- A length starts with a zero byte, a domain does not. -/
theorem head?_preimage (domain : DigestDomain) (body : Bytes) :
    (domain.preimage body).head? = some 0 ↔ domain.terminated = false := by
  have hlength : ∀ n < 256, (bigEndian 8 n).head? = some 0 := by decide +kernel
  have hfirst : ∀ domain : DigestDomain, domain.bytes.head? ≠ some 0 ∧ domain.bytes ≠ [] := by decide +kernel
  rw [preimage]
  split_ifs with h
  · rw [List.head?_append_of_ne_nil _ (hfirst domain).2]
    simp [h, (hfirst domain).1]
  · have hne : bigEndian 8 domain.bytes.length ≠ [] := fun hnil => by
      have hzero := congrArg List.length hnil
      rw [length_bigEndian] at hzero
      cases hzero
    rw [List.head?_append_of_ne_nil _ hne]
    simp [h, hlength _ (length_bytes_lt domain)]

/-- **No byte string is hashed under two domains.** -/
theorem preimage_domain {d d' : DigestDomain} {body body' : Bytes} (h : d.preimage body = d'.preimage body') :
    d = d' := by
  have hkind : d.terminated = d'.terminated := by
    have hd := head?_preimage d body
    rw [h, head?_preimage] at hd
    cases hterminated : d.terminated <;> cases hterminated' : d'.terminated <;> simp_all
  rw [preimage, preimage, hkind] at h
  split_ifs at h
  · exact bytes_injective (terminated_inj (zero_notMem_bytes d) (zero_notMem_bytes d') h)
  · obtain ⟨hlength, h⟩ := List.append_inj h (by rw [length_bigEndian, length_bigEndian])
    have hbound : ∀ domain : DigestDomain, domain.bytes.length < 256 ^ 8 := fun domain =>
      (length_bytes_lt domain).trans (by decide)
    exact bytes_injective (List.append_inj h (bigEndian_inj (hbound d) (hbound d') hlength)).1

/-- The digests of the plans and of the manifests are made under their domains. -/
theorem preimage_encode (domain : DigestDomain) {field : Field} (hdomain : domain.terminated = false)
    (hfield : field.1 = domain.bytes) (fields : List Field) :
    encode (field :: fields) = domain.preimage (encode fields) := by
  rw [preimage, hdomain, encode, hfield]
  rfl

end DigestDomain

/-- **Digests bind what is approved.** When SHA-256 is injective,

* bid plans with one digest agree in every digested field;
* manifests with one digest agree in the actor, the policy and the whole spec;
* both digests hash their fields under their own domain, and no byte string is hashed under two domains;
* stored manifests of one plan with exact integrity and one digest agree in their requests, up to the two titles
  that are admitted. -/
theorem digests_bind_intent {sha256 : Bytes → Bytes} (hsha : Function.Injective sha256) :
    (∀ plan plan' : DigestedPlan, makePlanDigest sha256 plan = makePlanDigest sha256 plan' → plan = plan') ∧
    (∀ (a a' : Text) (p p' : PolicyIdentity) (s s' : OzonCampaignLaunchSpec),
      makeManifestDigest sha256 a p s = makeManifestDigest sha256 a' p' s' → a = a' ∧ p = p' ∧ s = s') ∧
    ((∀ plan, makePlanDigest sha256 plan =
        hex (sha256 (DigestDomain.wbControlPlan.preimage (encode (planFields plan))))) ∧
      (∀ a p s, makeManifestDigest sha256 a p s =
        hex (sha256 (DigestDomain.ozonCampaignLaunch.preimage (encode (manifestFields a p s))))) ∧
      ∀ (d d' : DigestDomain) (body body' : Bytes), d.preimage body = d'.preimage body' → d = d') ∧
    ∀ (parse : ParseDate) (planId : String) (m m' : OzonCampaignLaunchManifest),
      m.hasExactPersistedIntegrity sha256 parse planId = true →
      m'.hasExactPersistedIntegrity sha256 parse planId = true → m.manifestDigest = m'.manifestDigest →
      m.productsRequest = m'.productsRequest ∧
        m.createRequest = { m'.createRequest with title := m.createRequest.title } ∧
        ∀ title ∈ [m.createRequest.title, m'.createRequest.title],
          title.1 = Ozon.providerTitleForPlanId planId ∨ title = m.spec.title := by
  refine ⟨fun _ _ h => makePlanDigest_injective hsha h, fun _ _ _ _ _ _ h => makeManifestDigest_inj hsha h,
    ⟨fun plan => ?_, fun a p s => ?_, fun _ _ _ _ h => DigestDomain.preimage_domain h⟩,
    fun _ _ _ _ h h' hdigest => requests_of_integrity hsha h h' hdigest⟩
  · rw [makePlanDigest, digest, DigestDomain.wbControlPlan.preimage_encode rfl rfl]
  · rw [makeManifestDigest, digest, DigestDomain.ozonCampaignLaunch.preimage_encode rfl rfl]

theorem zero_isInstant : minUtc ≤ 0 ∧ (0 : ℤ) ≤ maxUtc := by decide

/-- A plan and the same plan with a higher bid. -/
def raisedPlan (requested changes : String) (h : requested.utf8ByteSize < 2 ^ 64 ∧ changes.utf8ByteSize < 2 ^ 64) :
    DigestedPlan where
  prepareReservationId := ⟨"reservation", by decide⟩
  actorId := ⟨"planner", by decide⟩
  accountId := ⟨"wb_main", by decide⟩
  advertId := 42
  policy := ⟨1, 7, ⟨"policy", by decide⟩⟩
  actionQuota := ⟨4, 12, 900, 5000⟩
  requestedJson := ⟨requested, h.1⟩
  changesJson := ⟨changes, h.2⟩
  beforeJson := ⟨"before", by decide⟩
  createdAt := ⟨0, zero_isInstant⟩
  expiresAt := ⟨seconds 300, by decide⟩

/-- Under the identity, which is injective, a bid cannot be raised behind a digest. -/
theorem digests_bind_intent_identity :
    makePlanDigest id (raisedPlan "1050" "1000:1050" (by decide)) ≠
      makePlanDigest id (raisedPlan "1100" "1000:1100" (by decide)) := fun h =>
  absurd ((digests_bind_intent Function.injective_id).1 _ _ h) (by decide)

end AdsControl.Control
