import AdsControl.Control.Policy
import AdsControl.Lib.Serde
import AdsControl.Lib.SortByKey

/-!
# Plans of bid changes

A plan is prepared from the details of its campaign: a snapshot of the bids that the request names, and the
changes of these bids, checked against the policy. The same snapshot tells later whether the plan is applied.

* `campaignSnapshot`: the bids of a response;
* `prepareChanges`: the changes of a request;
* `allowedPlanTarget`: the check of a stored plan;
* **`prepared_plan_sound`**: a prepared plan keeps the limits of the policy, passes the checks made later, and
  no snapshot shows it both applied and not applied.
-/

namespace AdsControl.Wb.Plan

open Distinct Fallible Serde SortByKey
open AdsControl.Control
open AdsControl.Wb.Launch (WbBidPlacement WbPreparedBidChange maxChanges validateAdvertId
  validateWriteRequest)

/-! ## Snapshots -/

section Snapshot

variable {V : Type} (reader : Reader V)

/-- The value under two nested names. -/
def pointer (value : V) (outer inner : String) : Option V :=
  (reader.get value outer).bind fun value => reader.get value inner

/-- The only campaign of a response. -/
def requireExactAdvert (response : V) (advertId : ℕ) : Except String V := do
  let adverts ← context ((reader.get response "adverts").bind reader.asArray)
    "WB campaign details не содержит adverts"
  match adverts.filter fun advert => (reader.get advert "id").bind reader.asU64 == some advertId with
  | [] => .error "WB campaign details не содержит запрошенную кампанию"
  | [advert] => .ok advert
  | _ => .error "WB campaign details содержит повтор запрошенной кампании"

/-- The only setting of a product. -/
def requireExactNmSetting (nmSettings : List V) (nmId : ℕ) : Except String V :=
  match nmSettings.filter fun item => (reader.get item "nm_id").bind reader.asU64 == some nmId with
  | [] => .error s!"nm_id {nmId} отсутствует в WB campaign"
  | [nm] => .ok nm
  | _ => .error s!"nm_id {nmId} повторяется в WB campaign"

/-- The bid of a place. -/
def bidAt (nm : V) (place : String) : Except String ℕ :=
  context ((pointer reader nm "bids_kopecks" place).bind reader.asU64)
    s!"WB campaign не содержит {place} bid"

/-- The bid of a placement that the campaign has. -/
def placementBid (nm : V) (bidType : String) : WbBidPlacement → Except String ℕ
  | .combined => do
    ensure (bidType = "unified") "placement combined разрешён только для unified bid_type"
    let search ← bidAt reader nm "search"
    let recommendations ← bidAt reader nm "recommendations"
    ensure (search = recommendations) "unified WB campaign вернула разные ставки размещений"
    return search
  | .search => do
    ensure (bidType = "manual") "placement search разрешён только для manual bid_type"
    bidAt reader nm "search"
  | .recommendations => do
    ensure (bidType = "manual") "placement recommendations разрешён только для manual bid_type"
    bidAt reader nm "recommendations"

/-- The product and the placement of a change. -/
def WbBidChange.pair (self : WbBidChange) : ℕ × WbBidPlacement := (self.nmId, self.placement)

/-- The product and placement of a bid. -/
def WbSnapshotBid.pair (self : WbSnapshotBid) : ℕ × WbBidPlacement := (self.nmId, self.placement)

/-- The product and placement of a change. -/
def preparedPair (change : WbPreparedBidChange) : ℕ × WbBidPlacement := (change.nmId, change.placement)

/-- Placements in their order. -/
def placementRank : WbBidPlacement → ℕ
  | .combined => 0
  | .search => 1
  | .recommendations => 2

/-- Bids and changes ascend by product, then by placement. -/
def pairKey (pair : ℕ × WbBidPlacement) : ℕ ×ₗ ℕ := toLex (pair.1, placementRank pair.2)

/-- The live bid that a change is about. -/
def snapshotBid (nmSettings : List V) (bidType : String) (change : WbBidChange) :
    Except String WbSnapshotBid := do
  let nm ← requireExactNmSetting reader nmSettings change.nmId
  let before ← placementBid reader nm bidType change.placement
  return { nmId := change.nmId, placement := change.placement, bidKopecks := before }

/-- The bids that the requested changes are about. -/
def campaignSnapshot (response : V) (sellerSid : String) (advertId : ℕ) (requested : List WbBidChange) :
    Except String WbCampaignBidSnapshot := do
  ensure (isCanonicalUuid sellerSid) "WB campaign snapshot имеет неверный seller_sid"
  ensure (requested ≠ [] ∧ requested.length ≤ maxChanges) "WB campaign snapshot request имеет неверный размер"
  let advert ← requireExactAdvert reader response advertId
  let status ← context (((reader.get advert "status").bind reader.asI64).filter fun status =>
    -2 ^ 31 ≤ status ∧ status < 2 ^ 31) "WB campaign details содержит неверный status"
  ensure (status = 4 ∨ status = 9 ∨ status = 11) "WB campaign status не допускает изменение ставок"
  let bidType ← context ((reader.get advert "bid_type").bind reader.asStr)
    "WB campaign details не содержит bid_type"
  let paymentType ← context (((pointer reader advert "settings" "payment_type").bind reader.asStr).filter
    fun value => value = "cpm" ∨ value = "cpc")
    "WB campaign details не содержит поддерживаемый payment_type"
  let nmSettings ← context ((reader.get advert "nm_settings").bind reader.asArray)
    "WB campaign details не содержит nm_settings"
  let unique := (requested.map WbBidChange.pair).toFinset
  ensure (unique.card = requested.length) "WB bid changes содержат повтор nm_id/placement"
  let bids ← requested.mapM (snapshotBid reader nmSettings bidType)
  return {
    sellerSid
    advertId
    status
    bidType
    paymentType
    bids := sortByKey (fun bid => pairKey bid.pair) bids }

/-- The bid of a campaign in a response. -/
def liveBid (response : V) (advertId nmId : ℕ) (placement : WbBidPlacement) : Except String ℕ := do
  let advert ← requireExactAdvert reader response advertId
  let bidType ← context ((reader.get advert "bid_type").bind reader.asStr)
    "WB campaign details не содержит bid_type"
  let nmSettings ← context ((reader.get advert "nm_settings").bind reader.asArray)
    "WB campaign details не содержит nm_settings"
  let nm ← requireExactNmSetting reader nmSettings nmId
  placementBid reader nm bidType placement

end Snapshot

/-! ## Changes -/

/-- The bounds of a change. -/
def validateBidDelta (limits : BidLimits) (before after : ℕ) : Except String Unit := do
  ensure (before < 2 ^ 63 ∧ after < 2 ^ 63) "WB bid должен помещаться в int64"
  ensure (limits.minMinor ≤ after ∧ after ≤ limits.maxMinor)
    "WB bid выходит за серверные min/max policy limits"
  ensure (before ≠ 0) "нулевую текущую WB ставку нельзя менять без ручной проверки"
  ensure (before ≠ after) "WB bid change не должен быть no-op"
  ensure (Nat.dist before after * 100 ≤ before * limits.maxDeltaPercent)
    "изменение WB bid превышает max_delta_percent"

/-- A requested change with the bid it replaces. -/
def prepareChange (target : WbPromotionBidTargetPolicy) (snapshot : WbCampaignBidSnapshot)
    (change : WbBidChange) : Except String WbPreparedBidChange := do
  let bid ← context (snapshot.bids.find? fun bid => bid.nmId == change.nmId && bid.placement == change.placement)
    "WB snapshot не содержит текущую ставку"
  validateBidDelta target.bidLimitsKopecks bid.bidKopecks change.bidKopecks
  return {
    nmId := change.nmId
    placement := change.placement
    beforeBidKopecks := bid.bidKopecks
    bidKopecks := change.bidKopecks }

/-- The requested changes with the bids they replace. -/
def prepareChanges (target : WbPromotionBidTargetPolicy) (requested : List WbBidChange)
    (snapshot : WbCampaignBidSnapshot) : Except String (List WbPreparedBidChange) := do
  ensure (target.sellerSid = snapshot.sellerSid ∧ target.advertId = snapshot.advertId ∧ requested ≠ [] ∧
    requested.length ≤ maxChanges) "WB bid changes находятся вне policy scope"
  let unique := (requested.map WbBidChange.pair).toFinset
  ensure (unique.card = requested.length ∧ ∀ change ∈ requested,
    change.nmId ∈ target.nmIds ∧ change.placement ∈ target.placements) "WB bid changes находятся вне policy scope"
  let prepared ← requested.mapM (prepareChange target snapshot)
  return sortByKey (fun change => pairKey (preparedPair change)) prepared

/-! ## Stored plans -/

deriving instance DecidableEq for WbPreparedBidChange, WbSnapshotBid, WbCampaignBidSnapshot

/-- The target that a plan is for. -/
def planTarget (policy : ControlPolicy) (plan : WbControlPlan) : Option WbPromotionBidTargetPolicy :=
  (policy.actorPolicy plan.actorId).bind fun actor => actor.wbPromotionBidTargets.find? fun target =>
    target.accountId == plan.accountId && target.advertId == plan.advertId

/-- The quota of a target. -/
def expectedQuota (target : WbPromotionBidTargetPolicy) : WbActionQuota where
  maxActionsPerHour := target.actionLimits.maxActionsPerHour
  maxActionsPerDay := target.actionLimits.maxActionsPerDay
  cooldownSeconds := target.actionLimits.cooldownSeconds
  maxCumulativeAbsDeltaKopecksPerDay := target.actionLimits.maxCumulativeAbsDeltaKopecksPerDay

/-- The target of a plan that the policy would prepare again. -/
def allowedPlanTarget (policy : ControlPolicy) (plan : WbControlPlan) : Option WbPromotionBidTargetPolicy :=
  if plan.schemaVersion ≠ policy.version ∨ plan.policyRevision ≠ policy.revision ∨
      plan.policyDigest ≠ policy.digest then none
  else (planTarget policy plan).bind fun target =>
    if (prepareChanges target plan.requested plan.before).toOption = some plan.changes ∧
        plan.actionQuota = expectedQuota target then some target else none

/-! ## Lookups -/

theorem nodup_of_card {α : Type} [DecidableEq α] {l : List α} {n : ℕ} (hlength : l.length = n)
    (h : l.toFinset.card = n) : l.Nodup :=
  Multiset.toFinset_card_eq_card_iff_nodup.mp (h.trans hlength.symm)

theorem find?_bid {bids : List WbSnapshotBid} (hdistinct : (bids.map WbSnapshotBid.pair).Nodup)
    {bid : WbSnapshotBid} (hbid : bid ∈ bids) {nmId : ℕ} {placement : WbBidPlacement}
    (hpair : bid.pair = (nmId, placement)) :
    bids.find? (fun bid => bid.nmId == nmId && bid.placement == placement) = some bid :=
  find?_of_distinct hdistinct hbid fun b => by
    rw [hpair]
    simp [WbSnapshotBid.pair]

/-! ## Prepared plans -/

section Prepared

variable {V : Type} {reader : Reader V} {response : V} {sellerSid : String} {advertId : ℕ}
  {requested : List WbBidChange} {before : WbCampaignBidSnapshot} {changes : List WbPreparedBidChange}
  {target : WbPromotionBidTargetPolicy}

/-- The bids of a snapshot are the live bids of the requested pairs. -/
theorem campaignSnapshot_spec (h : campaignSnapshot reader response sellerSid advertId requested = .ok before) :
    before.advertId = advertId ∧ (before.bids.map WbSnapshotBid.pair).Perm (requested.map WbBidChange.pair) ∧
      (before.bids.map WbSnapshotBid.pair).Nodup ∧
      ∀ bid ∈ before.bids, liveBid reader response advertId bid.nmId bid.placement = .ok bid.bidKopecks := by
  simp only [campaignSnapshot, ok_of_bind, ensure_eq_ok, context_eq_ok, ok_of_pure] at h
  obtain ⟨-, -, -, -, advert, hadvert, -, -, -, -, bidType, hbidType, -, -, nmSettings, hnmSettings, -, hunique,
    bids, hbids, rfl⟩ := h
  have hpairs : bids.map WbSnapshotBid.pair = requested.map WbBidChange.pair := by
    refine map_of_mapM (fun change bid hbid => ?_) hbids
    simp only [snapshotBid, ok_of_bind, ok_of_pure] at hbid
    obtain ⟨-, -, -, -, rfl⟩ := hbid
    rfl
  have hperm := (sortByKey_perm (fun bid : WbSnapshotBid => pairKey bid.pair) bids).map WbSnapshotBid.pair
  rw [hpairs] at hperm
  have hdistinct := nodup_of_card (List.length_map _) hunique
  refine ⟨rfl, hperm, hperm.nodup_iff.mpr hdistinct, fun bid hbid => ?_⟩
  obtain ⟨change, -, hchange⟩ := exists_of_mem_mapM hbids bid (mem_sortByKey.mp hbid)
  simp only [snapshotBid, ok_of_bind, ok_of_pure] at hchange
  obtain ⟨nm, hnm, bidKopecks, hlive, rfl⟩ := hchange
  simp only [liveBid, ok_of_bind, context_eq_ok]
  exact ⟨advert, hadvert, bidType, hbidType, nmSettings, hnmSettings, nm, hnm, hlive⟩

/-- What a change has been checked for. -/
structure Checked (target : WbPromotionBidTargetPolicy) (before : WbCampaignBidSnapshot)
    (change : WbPreparedBidChange) : Prop where
  found : ∃ bid ∈ before.bids, bid.pair = preparedPair change ∧ bid.bidKopecks = change.beforeBidKopecks
  nmId : change.nmId ∈ target.nmIds
  delta : validateBidDelta target.bidLimitsKopecks change.beforeBidKopecks change.bidKopecks = .ok ()

theorem prepareChanges_spec (h : prepareChanges target requested before = .ok changes) :
    target.advertId = before.advertId ∧ requested ≠ [] ∧ requested.length ≤ maxChanges ∧
      (changes.map preparedPair).Perm (requested.map WbBidChange.pair) ∧
      (requested.map WbBidChange.pair).Nodup ∧ ∀ change ∈ changes, Checked target before change := by
  simp only [prepareChanges, ok_of_bind, ensure_eq_ok, ok_of_pure] at h
  obtain ⟨-, ⟨-, hadvert, hne, hlength⟩, -, ⟨hunique, hscope⟩, prepared, hprepared, rfl⟩ := h
  have hpairs : prepared.map preparedPair = requested.map WbBidChange.pair := by
    refine map_of_mapM (fun request change hchange => ?_) hprepared
    simp only [prepareChange, ok_of_bind, ok_of_pure] at hchange
    obtain ⟨-, -, -, -, rfl⟩ := hchange
    rfl
  have hperm := (sortByKey_perm (fun change => pairKey (preparedPair change)) prepared).map preparedPair
  rw [hpairs] at hperm
  refine ⟨hadvert, hne, hlength, hperm, nodup_of_card (List.length_map _) hunique, fun change hchange => ?_⟩
  obtain ⟨request, hrequest, hchange⟩ := exists_of_mem_mapM hprepared change (mem_sortByKey.mp hchange)
  simp only [prepareChange, ok_of_bind, context_eq_ok, ok_of_pure] at hchange
  obtain ⟨bid, hbid, ⟨⟩, hdelta, rfl⟩ := hchange
  refine ⟨⟨bid, List.mem_of_find?_eq_some hbid, ?_, rfl⟩, (hscope request hrequest).1, hdelta⟩
  have hmatch := List.find?_some hbid
  simpa [WbSnapshotBid.pair, preparedPair] using hmatch

theorem length_of_pairs (h : (changes.map preparedPair).Perm (requested.map WbBidChange.pair)) :
    changes.length = requested.length := by
  have hlength := h.length_eq
  rwa [List.length_map, List.length_map] at hlength

theorem Checked.limits {change : WbPreparedBidChange} (h : Checked target before change) :
    target.bidLimitsKopecks.minMinor ≤ change.bidKopecks ∧
      change.bidKopecks ≤ target.bidLimitsKopecks.maxMinor ∧
      |(change.bidKopecks : ℚ) - change.beforeBidKopecks| ≤
        change.beforeBidKopecks * (target.bidLimitsKopecks.maxDeltaPercent / 100) := by
  have hdelta := h.delta
  simp only [validateBidDelta, ok_of_bind, ensure_eq_ok] at hdelta
  obtain ⟨-, -, -, ⟨hmin, hmax⟩, -, -, -, -, hdelta⟩ := hdelta
  refine ⟨hmin, hmax, ?_⟩
  have hup : change.bidKopecks * 100 ≤ change.beforeBidKopecks * 100 +
      change.beforeBidKopecks * target.bidLimitsKopecks.maxDeltaPercent := by
    unfold Nat.dist at hdelta
    omega
  have hdown : change.beforeBidKopecks * 100 ≤ change.bidKopecks * 100 +
      change.beforeBidKopecks * target.bidLimitsKopecks.maxDeltaPercent := by
    unfold Nat.dist at hdelta
    omega
  rw [abs_le]
  have hup' : (change.bidKopecks : ℚ) * 100 ≤ change.beforeBidKopecks * 100 +
      change.beforeBidKopecks * target.bidLimitsKopecks.maxDeltaPercent := by exact_mod_cast hup
  have hdown' : (change.beforeBidKopecks : ℚ) * 100 ≤ change.bidKopecks * 100 +
      change.beforeBidKopecks * target.bidLimitsKopecks.maxDeltaPercent := by exact_mod_cast hdown
  constructor <;> linarith

theorem Checked.bounds {change : WbPreparedBidChange} (h : Checked target before change) :
    change.beforeBidKopecks < 2 ^ 63 ∧ change.bidKopecks < 2 ^ 63 ∧
      change.beforeBidKopecks ≠ change.bidKopecks := by
  have hdelta := h.delta
  simp only [validateBidDelta, ok_of_bind, ensure_eq_ok] at hdelta
  obtain ⟨-, ⟨hbefore, hafter⟩, -, -, -, -, -, hne, -⟩ := hdelta
  exact ⟨hbefore, hafter, hne⟩

/-- Prepared changes pass the check of the write client. -/
theorem validateWriteRequest_of_prepared (htarget : target.Valid)
    (h : prepareChanges target requested before = .ok changes) :
    validateWriteRequest before.advertId changes = .ok () := by
  obtain ⟨hadvert, hne, hlength, hperm, hdistinct, hchecked⟩ := prepareChanges_spec h
  have hchanges : changes.length = requested.length := length_of_pairs hperm
  simp only [validateWriteRequest, validateAdvertId, ok_of_bind, ensure_eq_ok]
  refine ⟨(), hadvert ▸ htarget.advertId, (), ⟨?_, hchanges ▸ hlength⟩, ?_, fun change hchange => ?_⟩
  · rw [ne_eq, ← List.length_eq_zero_iff, hchanges, List.length_eq_zero_iff]
    exact hne
  · rw [← List.length_map preparedPair]
    exact List.toFinset_card_of_nodup (hperm.nodup_iff.mpr hdistinct)
  · have hcheck := hchecked change hchange
    obtain ⟨hbefore, hafter, -⟩ := hcheck.bounds
    obtain ⟨hid, hbound⟩ := htarget.nmIds _ hcheck.nmId
    refine ⟨hid, hbound, hbefore, fun hzero => htarget.minMinor ?_, hafter⟩
    have hmin := hcheck.limits.1
    omega

theorem matches_before (hbefore : campaignSnapshot reader response sellerSid advertId requested = .ok before)
    (h : prepareChanges target requested before = .ok changes) :
    snapshotMatchesPlanState before before changes false = true := by
  obtain ⟨-, hpairs, hdistinct, -⟩ := campaignSnapshot_spec hbefore
  obtain ⟨-, -, -, hperm, -, hchecked⟩ := prepareChanges_spec h
  have hlength : before.bids.length = changes.length := by
    have hlength := (hpairs.trans hperm.symm).length_eq
    rwa [List.length_map, List.length_map] at hlength
  have hexpected : snapshotMatchesExpected before changes false = true := by
    refine List.all_eq_true.mpr fun change hchange => ?_
    obtain ⟨bid, hbid, hpair, hvalue⟩ := (hchecked change hchange).found
    rw [find?_bid hdistinct hbid hpair, Option.any_some, hvalue]
    exact beq_self_eq_true _
  simp [snapshotMatchesPlanState, hlength, hexpected]

/-- **No snapshot shows a plan both applied and not applied.** -/
theorem not_matches_both (h : prepareChanges target requested before = .ok changes)
    (snapshot : WbCampaignBidSnapshot) : ¬ (snapshotMatchesPlanState snapshot before changes true = true ∧
      snapshotMatchesPlanState snapshot before changes false = true) := by
  rintro ⟨hafter, hbefore⟩
  obtain ⟨-, hne, -, hperm, -, hchecked⟩ := prepareChanges_spec h
  obtain ⟨change, hchange⟩ : ∃ change, change ∈ changes := by
    refine List.exists_mem_of_ne_nil _ fun hnil => hne ?_
    rw [← List.length_eq_zero_iff, ← length_of_pairs hperm, hnil, List.length_nil]
  simp only [snapshotMatchesPlanState, snapshotMatchesExpected, Bool.and_eq_true, List.all_eq_true] at hafter hbefore
  have hafter := hafter.2 change hchange
  have hbefore := hbefore.2 change hchange
  rw [Option.any_eq_true] at hafter hbefore
  obtain ⟨bid, hbid, hvalue⟩ := hafter
  obtain ⟨bid', hbid', hvalue'⟩ := hbefore
  rw [hbid, Option.some.injEq] at hbid'
  rw [← hbid', beq_iff_eq] at hvalue'
  rw [beq_iff_eq] at hvalue
  exact (hchecked change hchange).bounds.2.2 (hvalue'.symm.trans hvalue)

/-! ## Plans in the store -/

/-- The binding that the policy gives to a plan for one of its targets. -/
def planBinding (policy : ControlPolicy) (actorPolicy : ActorControlPolicy)
    (target : WbPromotionBidTargetPolicy) : WbPlanBinding where
  actorId := actorPolicy.actorId
  accountId := target.accountId
  advertId := target.advertId
  schemaVersion := policy.version
  policyRevision := policy.revision
  policyDigest := policy.digest
  actionQuota := expectedQuota target

variable {policy : ControlPolicy} {registry : AccessRegistry} {actorPolicy : ActorControlPolicy}

theorem planTarget_eq (hpolicy : Control.validatePolicy policy registry = .ok ()) (hactor : actorPolicy ∈ policy.actors)
    (htarget : target ∈ actorPolicy.wbPromotionBidTargets) {plan : WbControlPlan}
    (hplan : plan.toWbPlanBinding = planBinding policy actorPolicy target) :
    planTarget policy plan = some target := by
  obtain ⟨hactors, htargets⟩ := distinct_of_validatePolicy hpolicy
  have hfound : policy.actorPolicy plan.actorId = some actorPolicy :=
    find?_of_distinct hactors hactor fun b => by simp [hplan, planBinding]
  rw [planTarget, hfound, Option.bind_some]
  exact find?_of_distinct (htargets actorPolicy hactor) htarget fun b => by simp [hplan, planBinding]

/-- **A stored plan is allowed as long as its policy stands.** -/
theorem allowedPlanTarget_eq (hpolicy : Control.validatePolicy policy registry = .ok ())
    (hactor : actorPolicy ∈ policy.actors) (htarget : target ∈ actorPolicy.wbPromotionBidTargets)
    {plan : WbControlPlan} (hplan : plan.toWbPlanBinding = planBinding policy actorPolicy target)
    (h : prepareChanges target plan.requested plan.before = .ok plan.changes) :
    allowedPlanTarget policy plan = some target := by
  have hquota : plan.actionQuota = expectedQuota target := congrArg WbPlanBinding.actionQuota hplan
  have hsame : ¬ (plan.schemaVersion ≠ policy.version ∨ plan.policyRevision ≠ policy.revision ∨
      plan.policyDigest ≠ policy.digest) := by simp [hplan, planBinding]
  rw [allowedPlanTarget, if_neg hsame, planTarget_eq hpolicy hactor htarget hplan, Option.bind_some,
    if_pos ⟨congrArg Except.toOption h, hquota⟩]

/-- **A prepared plan is sound.** For every target of an accepted policy, every response and every request: when
the snapshot and the changes are prepared,

* every change starts from the live bid and keeps the limits of the target, its step as an exact fraction;
* the write client accepts the changes;
* the stored plan prepares its own changes again and is allowed by the policy;
* the snapshot shows the plan not applied, and no snapshot shows it both applied and not applied. -/
theorem prepared_plan_sound (hpolicy : Control.validatePolicy policy registry = .ok ())
    (hactor : actorPolicy ∈ policy.actors) (htarget : target ∈ actorPolicy.wbPromotionBidTargets)
    (hbefore : campaignSnapshot reader response sellerSid advertId requested = .ok before)
    (hchanges : prepareChanges target requested before = .ok changes) :
    (∀ change ∈ changes,
      liveBid reader response advertId change.nmId change.placement = .ok change.beforeBidKopecks ∧
      target.bidLimitsKopecks.minMinor ≤ change.bidKopecks ∧
      change.bidKopecks ≤ target.bidLimitsKopecks.maxMinor ∧
      |(change.bidKopecks : ℚ) - change.beforeBidKopecks| ≤
        change.beforeBidKopecks * (target.bidLimitsKopecks.maxDeltaPercent / 100)) ∧
    validateWriteRequest advertId changes = .ok () ∧
    (∀ prepareReservationId planId planDigest databaseNow,
      let plan := newPlan (planBinding policy actorPolicy target) prepareReservationId requested changes before
        planId planDigest databaseNow
      prepareChanges target plan.requested plan.before = .ok plan.changes ∧
        allowedPlanTarget policy plan = some target) ∧
    snapshotMatchesPlanState before before changes false = true ∧
    ∀ snapshot, ¬ (snapshotMatchesPlanState snapshot before changes true = true ∧
      snapshotMatchesPlanState snapshot before changes false = true) := by
  obtain ⟨hadvert, -, -, hlive⟩ := campaignSnapshot_spec hbefore
  obtain ⟨-, -, -, -, -, hchecked⟩ := prepareChanges_spec hchanges
  have hvalid := validTarget_of_validatePolicy hpolicy hactor htarget
  refine ⟨fun change hchange => ⟨?_, (hchecked change hchange).limits⟩,
    hadvert ▸ validateWriteRequest_of_prepared hvalid hchanges,
    fun _ _ _ _ => ⟨hchanges, allowedPlanTarget_eq hpolicy hactor htarget rfl hchanges⟩,
    matches_before hbefore hchanges, not_matches_both hchanges⟩
  obtain ⟨bid, hbid, hpair, hvalue⟩ := (hchecked change hchange).found
  obtain ⟨hnmId, hplacement⟩ := Prod.mk.inj hpair
  rw [← hnmId, ← hplacement, ← hvalue]
  exact hlive bid hbid

end Prepared

/-! ## An example -/

/-- A target of one product. -/
def sampleTarget : WbPromotionBidTargetPolicy where
  accountId := "wb_main"
  sellerSid := "11111111-1111-4111-8111-111111111111"
  advertId := 42
  nmIds := [1001]
  placements := [.search, .recommendations]
  bidLimitsKopecks := ⟨500, 2000, 10⟩
  approverActorIds := ["approver"]
  actionLimits := ⟨4, 12, 900, 5000⟩

/-- The policy of one actor for one campaign. -/
def samplePolicy : ControlPolicy where
  version := 1
  revision := 7
  actors := [⟨"planner", [], [], [sampleTarget]⟩]
  digest := "digest"

/-- Who may plan and who may approve. -/
def sampleRegistry : AccessRegistry where
  actors := [⟨"planner", .manager, ["wb_main"]⟩, ⟨"approver", .admin, []⟩]
  accounts := [⟨"wb_main", .wildberries, "owner", none, some ⟨some "11111111-1111-4111-8111-111111111111"⟩⟩]

/-- A manual campaign with one product. -/
def sampleResponse : Json :=
  .obj [("adverts", .arr [.obj [
    ("id", .num 42),
    ("status", .num 9),
    ("bid_type", .str "manual"),
    ("settings", .obj [("payment_type", .str "cpm")]),
    ("nm_settings", .arr [.obj [
      ("nm_id", .num 1001),
      ("bids_kopecks", .obj [("search", .num 1000), ("recommendations", .num 900)])]])]])]

/-- Two bids that are asked for. -/
def sampleRequest : List WbBidChange := [⟨1001, .recommendations, 950⟩, ⟨1001, .search, 1050⟩]

/-- The bids before. -/
def sampleBefore : WbCampaignBidSnapshot where
  sellerSid := "11111111-1111-4111-8111-111111111111"
  advertId := 42
  status := 9
  bidType := "manual"
  paymentType := "cpm"
  bids := [⟨1001, .search, 1000⟩, ⟨1001, .recommendations, 900⟩]

/-- The two changes in order. -/
def sampleChanges : List WbPreparedBidChange :=
  [⟨1001, .search, 1000, 1050⟩, ⟨1001, .recommendations, 900, 950⟩]

theorem samplePolicy_valid : Control.validatePolicy samplePolicy sampleRegistry = .ok () := by
  decide +kernel

/-- Both bids of the campaign are raised by less than a tenth. -/
theorem prepared_plan_sound_manual :
    (∀ change ∈ sampleChanges,
      liveBid Json.reader sampleResponse 42 change.nmId change.placement = .ok change.beforeBidKopecks) ∧
    validateWriteRequest 42 sampleChanges = .ok () ∧
    snapshotMatchesPlanState sampleBefore sampleBefore sampleChanges false = true := by
  have hbefore : campaignSnapshot Json.reader sampleResponse "11111111-1111-4111-8111-111111111111" 42
      sampleRequest = .ok sampleBefore := by decide +kernel
  have hchanges : prepareChanges sampleTarget sampleRequest sampleBefore = .ok sampleChanges := by decide +kernel
  obtain ⟨hlimits, hwrite, -, hmatches, -⟩ := prepared_plan_sound samplePolicy_valid List.mem_cons_self
    List.mem_cons_self hbefore hchanges
  exact ⟨fun change hchange => (hlimits change hchange).1, hwrite, hmatches⟩

end AdsControl.Wb.Plan
