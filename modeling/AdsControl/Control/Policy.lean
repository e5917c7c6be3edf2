import AdsControl.Lib.Distinct
import AdsControl.Lib.Machine
import AdsControl.Text
import AdsControl.Wb.PlanStore

/-!
# The policy of the operator

The operator's policy names, for every actor, the campaigns it may change and the limits of a change. A
policy is checked as a whole, together with the access registry, before anything uses it.

* `ControlPolicy`, `AccessRegistry`: the policy, and the actors and accounts it refers to;
* `validatePolicy`: the checks, target by target;
* **`validTarget_of_validatePolicy`**: what they say about a target for WB bids.
-/

namespace AdsControl.Control

open Fallible Distinct
open AdsControl.Wb.Launch (WbBidPlacement)
open AdsControl.Wb.Plan (isCanonicalUuid)

/-! ## The access registry -/

/-- What an actor is. -/
inductive Role
  | manager
  | analyst
  | finance
  | admin
  deriving DecidableEq

/-- A person with access to accounts. -/
structure Actor where
  id : String
  role : Role
  accountIds : List String

/-- The two marketplaces. -/
inductive Marketplace
  | ozon
  | wildberries
  deriving DecidableEq

/-- The Ozon binding of an account, as far as it has one for advertising. -/
structure OzonAccount where
  hasPerformance : Bool

/-- The binding of a Wildberries account. -/
structure WildberriesAccount where
  sellerSid : Option String

/-- An account with its manager and its bindings. -/
structure MarketplaceAccount where
  id : String
  marketplace : Marketplace
  managerId : String
  ozon : Option OzonAccount
  wildberries : Option WildberriesAccount

/-- All actors and accounts. -/
structure AccessRegistry where
  actors : List Actor
  accounts : List MarketplaceAccount

/-- Administrators, the manager and those who are listed. -/
def Actor.canAccessAccount (self : Actor) (account : MarketplaceAccount) : Bool :=
  self.role == .admin || account.managerId == self.id || self.accountIds.contains account.id

/-- A known actor. -/
def AccessRegistry.actor (self : AccessRegistry) (id : String) : Except String Actor :=
  context (self.actors.find? (·.id == id)) ("неизвестный MCP_ACTOR_ID=" ++ id.quote)

/-- A known account. -/
def AccessRegistry.account (self : AccessRegistry) (accountId message : String) :
    Except String MarketplaceAccount :=
  context (self.accounts.find? (·.id == accountId)) (message ++ accountId)

/-! ## The policy -/

/-- The bounds of a bid. -/
structure BidLimits where
  minMinor : ℕ
  maxMinor : ℕ
  maxDeltaPercent : ℕ

/-- The bounds of what may be done in an hour and a day. -/
structure WbActionLimits where
  maxActionsPerHour : ℕ
  maxActionsPerDay : ℕ
  cooldownSeconds : ℕ
  maxCumulativeAbsDeltaKopecksPerDay : ℕ

/-- The products and bids of a campaign that may be changed. -/
structure ControlTargetPolicy where
  accountId : String
  campaignId : ℕ
  skus : List ℕ
  bidLimits : BidLimits

/-- The campaign that may be launched. -/
structure OzonCampaignLaunchTargetPolicy where
  accountId : String
  skus : List ℕ
  weeklyBudgetMicrorubles : ℕ
  perSkuSpendCapMicrorubles : ℕ
  initialCpcBidMicrorubles : ℕ
  maxCpcBidMicrorubles : ℕ
  targetDrrPercent : ℕ
  targetPosition : ℕ
  approverActorIds : List String

/-- The products, placements and bids of a campaign that may be changed. -/
structure WbPromotionBidTargetPolicy where
  accountId : String
  sellerSid : String
  advertId : ℕ
  nmIds : List ℕ
  placements : List WbBidPlacement
  bidLimitsKopecks : BidLimits
  approverActorIds : List String
  actionLimits : WbActionLimits

/-- What one actor may change. -/
structure ActorControlPolicy where
  actorId : String
  targets : List ControlTargetPolicy
  ozonCampaignLaunchTargets : List OzonCampaignLaunchTargetPolicy
  wbPromotionBidTargets : List WbPromotionBidTargetPolicy

/-- A policy with the digest of the bytes it was read from. -/
structure ControlPolicy where
  version : ℕ
  revision : ℕ
  actors : List ActorControlPolicy
  digest : String

/-- What an actor may change, if anything. -/
def ControlPolicy.actorPolicy (self : ControlPolicy) (actorId : String) : Option ActorControlPolicy :=
  self.actors.find? (·.actorId == actorId)

/-! ## Checks -/

/-- The most actors of a policy. -/
def maxActors : ℕ := 256

/-- The most targets of an actor. -/
def maxTargetsPerActor : ℕ := 1000

/-- The most products of a target. -/
def maxSkusPerTarget : ℕ := 1000

/-- The most products of a Wildberries target. -/
def maxWbNmIdsPerTarget : ℕ := 50

/-- The most products of a launch. -/
def maxOzonLaunchSkusPerTarget : ℕ := 50

/-- The most approvers of a target. -/
def maxApproversPerTarget : ℕ := 16

/-- The largest id of 64 bits. -/
def maxWbSignedId : ℕ := 2 ^ 63 - 1

/-- The most actions an hour. -/
def maxActionsPerHour : ℕ := 60

/-- The most actions a day. -/
def maxActionsPerDay : ℕ := 500

/-- The largest sum of changes a day. -/
def maxCumulativeAbsDeltaKopecksPerDay : ℕ := 2 ^ 63 - 1

/-- The largest weekly budget. -/
def maxOzonWeeklyBudgetMicrorubles : ℕ := 1000000 * 1000000

/-- The characters of an identifier. -/
def validateIdentifier (field value : String) : Except String Unit :=
  ensure (asciiWord ['_', '-', '.'] value) (field ++ " имеет недопустимый формат")

/-- Approvers are known, distinct, other than the actor of the plan, and may access the account. -/
def validateApprovers (marketplace : String) (approverActorIds : List String) (planActorId : String)
    (account : MarketplaceAccount) (registry : AccessRegistry) : Except String Unit := do
  ensure (approverActorIds ≠ [] ∧ approverActorIds.length ≤ maxApproversPerTarget)
    s!"{marketplace} approver_actor_ids должны содержать от 1 до {maxApproversPerTarget} actor"
  visit
    (fun approverId => do
      validateIdentifier "approver_actor_id" approverId
      ensure (approverId ≠ planActorId) s!"{marketplace} plan actor не может approve собственный план")
    id s!"{marketplace} approver_actor_ids должны быть уникальными"
    (fun approverId => do
      let approver ← (registry.actor approverId).mapError fun _ =>
        s!"неизвестный {marketplace} approver actor {approverId}"
      ensure (approver.canAccessAccount account)
        s!"{marketplace} approver actor не имеет базового доступа к account")
    [] approverActorIds

/-- An Ozon account with access to advertising. -/
def hasPerformance (account : MarketplaceAccount) : Bool :=
  account.marketplace == .ozon && account.ozon.any OzonAccount.hasPerformance

/-- The approvers of an Ozon target. -/
def validateOzonApprovers (target : OzonCampaignLaunchTargetPolicy) (planActorId : String)
    (account : MarketplaceAccount) (registry : AccessRegistry) : Except String Unit :=
  validateApprovers "Ozon" target.approverActorIds planActorId account registry

/-- The bounds of a launch. -/
def validateOzonCampaignLaunchTarget (target : OzonCampaignLaunchTargetPolicy) (planActorId : String)
    (account : MarketplaceAccount) (registry : AccessRegistry) : Except String Unit := do
  ensure (target.skus ≠ [] ∧ target.skus.length ≤ maxOzonLaunchSkusPerTarget)
    s!"Ozon campaign launch target должен содержать от 1 до {maxOzonLaunchSkusPerTarget} SKU"
  ensure (0 ∉ target.skus ∧ target.skus.Nodup)
    "Ozon campaign launch SKU должны быть положительными и уникальными"
  ensure (target.weeklyBudgetMicrorubles ≠ 0 ∧
    target.weeklyBudgetMicrorubles ≤ maxOzonWeeklyBudgetMicrorubles ∧
    target.perSkuSpendCapMicrorubles ≠ 0 ∧
    Machine.checkedMul 64 target.perSkuSpendCapMicrorubles target.skus.length =
      some target.weeklyBudgetMicrorubles)
    "Ozon campaign budget должен быть положительным и точно делиться по SKU"
  ensure (10 ≤ target.targetDrrPercent ∧ target.targetDrrPercent ≤ 100)
    "Ozon target_drr_percent должен быть от 10 до 100"
  ensure (target.initialCpcBidMicrorubles ≠ 0 ∧
    target.initialCpcBidMicrorubles ≤ target.maxCpcBidMicrorubles ∧
    target.maxCpcBidMicrorubles ≤ 1000000000)
    "Ozon CPC bid range должен быть положительным и не выше 1 000 RUB"
  ensure (1 ≤ target.targetPosition ∧ target.targetPosition ≤ 30) "Ozon target_position должен быть от 1 до 30"
  validateOzonApprovers target planActorId account registry

/-- The launches of an actor; no account has two. -/
def validateOzonCampaignLaunchTargets (actorPolicy : ActorControlPolicy) (actor : Actor)
    (registry : AccessRegistry) : Except String Unit :=
  visit
    (fun target => do
      validateIdentifier "account_id" target.accountId
      let account ← registry.account target.accountId
        "Ozon campaign launch target ссылается на неизвестный account_id "
      ensure (hasPerformance account) "Ozon campaign launch target требует Ozon Performance binding"
      ensure (actor.canAccessAccount account)
        "actor не имеет базового доступа к Ozon campaign launch account"
      validateOzonCampaignLaunchTarget target actorPolicy.actorId account registry)
    (fun target => (target.accountId, target.skus))
    "control policy содержит повтор Ozon campaign launch target"
    (fun _ => .ok ()) [] actorPolicy.ozonCampaignLaunchTargets

/-- The bounds of a target. -/
def validateTarget (target : ControlTargetPolicy) : Except String Unit := do
  ensure (target.skus ≠ [] ∧ target.skus.length ≤ maxSkusPerTarget)
    s!"target должен содержать от 1 до {maxSkusPerTarget} SKU"
  ensure (0 ∉ target.skus ∧ target.skus.Nodup) "SKU должны быть положительными и уникальными"
  ensure (target.bidLimits.minMinor ≠ 0 ∧ target.bidLimits.minMinor ≤ target.bidLimits.maxMinor)
    "bid_limits должны задавать положительный диапазон min_minor..=max_minor"
  ensure (1 ≤ target.bidLimits.maxDeltaPercent ∧ target.bidLimits.maxDeltaPercent ≤ 100)
    "max_delta_percent должен быть от 1 до 100"

/-- The targets of an actor; no campaign has two. -/
def validateOzonActorTargets (actorPolicy : ActorControlPolicy) (actor : Actor)
    (registry : AccessRegistry) : Except String Unit :=
  visit
    (fun target => do
      validateIdentifier "account_id" target.accountId
      ensure (target.campaignId ≠ 0) "campaign_id должен быть положительным")
    (fun target => (target.accountId, target.campaignId))
    "control policy содержит повтор account_id/campaign_id"
    (fun target => do
      let account ← registry.account target.accountId
        "control policy ссылается на неизвестный account_id "
      ensure (hasPerformance account)
        "control policy target должен ссылаться на Ozon account с Performance binding"
      ensure (actor.canAccessAccount account)
        "actor не имеет базового доступа к account из control policy"
      validateTarget target)
    [] actorPolicy.targets

/-- The target's account is the Wildberries account of its seller. -/
def validateWbAccountBinding (target : WbPromotionBidTargetPolicy) (account : MarketplaceAccount) :
    Except String Unit := do
  ensure (account.marketplace = .wildberries ∧ account.wildberries.isSome)
    "WB promotion target должен ссылаться на Wildberries account с binding"
  let registrySellerSid ← context (account.wildberries.bind WildberriesAccount.sellerSid)
    "WB promotion target требует reviewed seller_sid в access registry"
  ensure (isCanonicalUuid target.sellerSid ∧ target.sellerSid = registrySellerSid)
    "WB promotion target seller_sid не совпадает с access registry"

/-- The products of a Wildberries target. -/
def validateWbNmIds (target : WbPromotionBidTargetPolicy) : Except String Unit := do
  ensure (target.nmIds ≠ [] ∧ target.nmIds.length ≤ maxWbNmIdsPerTarget)
    s!"WB promotion target должен содержать от 1 до {maxWbNmIdsPerTarget} nm_id"
  ensure ((∀ nmId ∈ target.nmIds, nmId ≠ 0 ∧ nmId ≤ maxWbSignedId) ∧ target.nmIds.Nodup)
    "WB nm_ids должны быть положительными уникальными int64"

/-- The placements of a Wildberries target. -/
def validateWbPlacements (target : WbPromotionBidTargetPolicy) : Except String Unit := do
  ensure (target.placements ≠ [] ∧ target.placements.length ≤ 3)
    "WB placements должны содержать от 1 до 3 значений"
  ensure (target.placements.toFinset.card = target.placements.length) "WB placements должны быть уникальными"

/-- The bounds of its bids. -/
def validateWbBidLimits (target : WbPromotionBidTargetPolicy) : Except String Unit := do
  ensure (target.bidLimitsKopecks.minMinor ≠ 0 ∧
    target.bidLimitsKopecks.minMinor ≤ target.bidLimitsKopecks.maxMinor ∧
    target.bidLimitsKopecks.maxMinor ≤ maxWbSignedId)
    "WB bid_limits_kopecks должны задавать положительный диапазон int64"
  ensure (1 ≤ target.bidLimitsKopecks.maxDeltaPercent ∧ target.bidLimitsKopecks.maxDeltaPercent ≤ 100)
    "WB max_delta_percent должен быть от 1 до 100"

/-- The approvers of a Wildberries target. -/
def validateWbApprovers (target : WbPromotionBidTargetPolicy) (planActorId : String)
    (account : MarketplaceAccount) (registry : AccessRegistry) : Except String Unit :=
  validateApprovers "WB" target.approverActorIds planActorId account registry

/-- The bounds of its actions. -/
def validateWbActionLimits (limits : WbActionLimits) : Except String Unit := do
  ensure (1 ≤ limits.maxActionsPerHour ∧ limits.maxActionsPerHour ≤ maxActionsPerHour)
    s!"WB max_actions_per_hour должен быть от 1 до {maxActionsPerHour}"
  ensure (limits.maxActionsPerHour ≤ limits.maxActionsPerDay ∧ limits.maxActionsPerDay ≤ maxActionsPerDay)
    s!"WB max_actions_per_day должен быть не меньше hourly и не больше {maxActionsPerDay}"
  ensure (30 ≤ limits.cooldownSeconds ∧ limits.cooldownSeconds ≤ 86400)
    "WB cooldown_seconds должен быть от 30 до 86400"
  ensure (limits.maxCumulativeAbsDeltaKopecksPerDay ≠ 0 ∧
    limits.maxCumulativeAbsDeltaKopecksPerDay ≤ maxCumulativeAbsDeltaKopecksPerDay)
    "WB cumulative bid delta limit должен быть положительным int64"

/-- A Wildberries target. -/
def validateWbTarget (target : WbPromotionBidTargetPolicy) (planActorId : String)
    (account : MarketplaceAccount) (registry : AccessRegistry) : Except String Unit := do
  validateWbNmIds target
  validateWbPlacements target
  validateWbBidLimits target
  validateWbApprovers target planActorId account registry
  validateWbActionLimits target.actionLimits

/-- The Wildberries targets of an actor; no campaign has two. -/
def validateWbActorTargets (actorPolicy : ActorControlPolicy) (actor : Actor) (registry : AccessRegistry) :
    Except String Unit :=
  visit
    (fun target => do
      validateIdentifier "account_id" target.accountId
      ensure (target.advertId ≠ 0 ∧ target.advertId ≤ maxWbSignedId)
        "advert_id WB должен быть положительным int64")
    (fun target => (target.accountId, target.advertId))
    "control policy содержит повтор WB account_id/advert_id"
    (fun target => do
      let account ← registry.account target.accountId
        "control policy ссылается на неизвестный WB account_id "
      validateWbAccountBinding target account
      ensure (actor.canAccessAccount account)
        "actor не имеет базового доступа к WB account из control policy"
      validateWbTarget target actorPolicy.actorId account registry)
    [] actorPolicy.wbPromotionBidTargets

/-- The policy of an actor. -/
def validateActorPolicy (actorPolicy : ActorControlPolicy) (registry : AccessRegistry) :
    Except String Unit := do
  let actor ← registry.actor actorPolicy.actorId
  ensure (actorPolicy.targets.length ≤ maxTargetsPerActor)
    "control policy содержит слишком много targets для actor"
  ensure (actorPolicy.wbPromotionBidTargets.length ≤ maxTargetsPerActor)
    "control policy содержит слишком много WB promotion targets для actor"
  ensure (actorPolicy.ozonCampaignLaunchTargets.length ≤ maxTargetsPerActor)
    "control policy содержит слишком много Ozon campaign launch targets для actor"
  validateOzonActorTargets actorPolicy actor registry
  validateOzonCampaignLaunchTargets actorPolicy actor registry
  validateWbActorTargets actorPolicy actor registry

/-- The whole policy. -/
def validatePolicy (policy : ControlPolicy) (registry : AccessRegistry) : Except String Unit := do
  ensure (policy.version = 1) "control policy version должна быть равна 1"
  ensure (policy.revision ≠ 0) "control policy revision должна быть положительной"
  ensure (policy.actors.length ≤ maxActors) "control policy содержит слишком много actor bindings"
  visit (fun actorPolicy => validateIdentifier "actor_id" actorPolicy.actorId) ActorControlPolicy.actorId
    "control policy содержит повтор actor_id" (fun actorPolicy => validateActorPolicy actorPolicy registry) []
    policy.actors

/-! ## Accepted policies -/

/-- What the checks say about a target for WB bids. -/
structure WbPromotionBidTargetPolicy.Valid (target : WbPromotionBidTargetPolicy) : Prop where
  advertId : target.advertId ≠ 0 ∧ target.advertId < 2 ^ 63
  nmIds : ∀ nmId ∈ target.nmIds, nmId ≠ 0 ∧ nmId < 2 ^ 63
  minMinor : target.bidLimitsKopecks.minMinor ≠ 0
  maxMinor : target.bidLimitsKopecks.maxMinor < 2 ^ 63

variable {policy : ControlPolicy} {registry : AccessRegistry} {actorPolicy : ActorControlPolicy}
  {target : WbPromotionBidTargetPolicy}

theorem validTarget_of_validateWbActorTargets {actor : Actor}
    (h : validateWbActorTargets actorPolicy actor registry = .ok ())
    (htarget : target ∈ actorPolicy.wbPromotionBidTargets) : target.Valid := by
  obtain ⟨hcheck, hrest⟩ := (visit_eq_ok.mp h).1 target htarget
  simp only [ok_of_bind, ensure_eq_ok] at hcheck hrest
  obtain ⟨-, -, hadvert⟩ := hcheck
  obtain ⟨account, -, -, -, -, -, hvalid⟩ := hrest
  simp only [validateWbTarget, validateWbNmIds, validateWbBidLimits, ok_of_bind, ensure_eq_ok] at hvalid
  obtain ⟨-, ⟨-, -, hnmIds, -⟩, -, -, -, ⟨-, ⟨hmin, -, hmax⟩, -⟩, -⟩ := hvalid
  have hbound : maxWbSignedId < 2 ^ 63 := by decide
  exact ⟨⟨hadvert.1, hadvert.2.trans_lt hbound⟩,
    fun nmId hmem => ⟨(hnmIds nmId hmem).1, (hnmIds nmId hmem).2.trans_lt hbound⟩, hmin, hmax.trans_lt hbound⟩

theorem actors_of_validatePolicy (h : validatePolicy policy registry = .ok ()) :
    visit (fun actorPolicy => validateIdentifier "actor_id" actorPolicy.actorId) ActorControlPolicy.actorId
      "control policy содержит повтор actor_id" (fun actorPolicy => validateActorPolicy actorPolicy registry) []
      policy.actors = .ok () := by
  simp only [validatePolicy, ok_of_bind, ensure_eq_ok] at h
  obtain ⟨-, -, -, -, -, -, hactors⟩ := h
  exact hactors

theorem wbTargets_of_validatePolicy (h : validatePolicy policy registry = .ok ())
    (hactor : actorPolicy ∈ policy.actors) :
    ∃ actor, validateWbActorTargets actorPolicy actor registry = .ok () := by
  obtain ⟨-, hvalid⟩ := (visit_eq_ok.mp (actors_of_validatePolicy h)).1 actorPolicy hactor
  simp only [validateActorPolicy, ok_of_bind] at hvalid
  obtain ⟨actor, -, -, -, -, -, -, -, -, -, -, -, hwb⟩ := hvalid
  exact ⟨actor, hwb⟩

/-- **The targets of an accepted policy are valid.** -/
theorem validTarget_of_validatePolicy (h : validatePolicy policy registry = .ok ())
    (hactor : actorPolicy ∈ policy.actors) (htarget : target ∈ actorPolicy.wbPromotionBidTargets) :
    target.Valid := by
  obtain ⟨actor, hwb⟩ := wbTargets_of_validatePolicy h hactor
  exact validTarget_of_validateWbActorTargets hwb htarget

/-- The actors of an accepted policy are distinct, and so are the campaigns of each. -/
theorem distinct_of_validatePolicy (h : validatePolicy policy registry = .ok ()) :
    (policy.actors.map ActorControlPolicy.actorId).Nodup ∧ ∀ actorPolicy ∈ policy.actors,
      (actorPolicy.wbPromotionBidTargets.map fun target => (target.accountId, target.advertId)).Nodup := by
  refine ⟨(visit_eq_ok.mp (actors_of_validatePolicy h)).2.1, fun actorPolicy hactor => ?_⟩
  obtain ⟨actor, hwb⟩ := wbTargets_of_validatePolicy h hactor
  exact (visit_eq_ok.mp hwb).2.1

end AdsControl.Control
