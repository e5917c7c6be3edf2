import AdsControl.Lib.Serde
import AdsControl.Ozon.Pacing
import AdsControl.Text

/-!
# Bid transitions of the static guard

The static guard reads the live bid of a campaign, decides a new one by pacing or by moving it back
into the reviewed corridor, and stores the transition before it writes. The stored form is checked
once more, against the corridor and the grid of whole rubles.

* `parseOzonCampaignProduct`, `validateOzonCampaignProductGuard`: the snapshot of a campaign;
* `Decides`: the transitions the guard decides on a snapshot;
* `validStaticBidTransition`, `validPendingBidChange`: the check of a stored transition;
* **`decided_transition_storable_iff`**: it passes exactly for live bids of whole rubles.
-/

namespace AdsControl.Ozon

open Fallible Serde

/-! ## Snapshots -/

/-- Why a snapshot of a campaign's product is refused. -/
inductive OzonProductGuardError
  | invalidLimit
  | invalidSnapshot
  | skuMismatch
  | bidOutOfRange
  deriving DecidableEq

/-- An unsigned 64-bit number, or its decimal text without redundant characters. -/
def canonicalU64 : Json → Option ℕ
  | .num n => if 0 ≤ n then Machine.tryFrom 64 n.toNat else none
  | .str s => (s.toNat?.bind (Machine.tryFrom 64)).filter fun n => toString n == s
  | _ => none

/-- A member of an object. -/
def member (value : Json) (name : String) : Option Json := value.fields.bind (·.lookup name)

/-- The one pair of product and bid that a guarded campaign exposes. -/
def parseOzonCampaignProduct (snapshot : Json) : Except OzonProductGuardError (ℕ × ℕ) :=
  match member snapshot "products" with
  | some (.arr [product]) => do
    let sku ← context ((member product "sku").bind canonicalU64) .invalidSnapshot
    let bid ← context ((member product "bid").bind canonicalU64) .invalidSnapshot
    return (sku, bid)
  | _ => .error .invalidSnapshot

/-- The bid of the campaign's only product, within its bounds. -/
def validateOzonCampaignProductGuard (snapshot : Json)
    (expectedSku minBidMicrorubles maxBidMicrorubles : ℕ) : Except OzonProductGuardError ℕ := do
  ensure (expectedSku ≠ 0 ∧ minBidMicrorubles ≠ 0 ∧ minBidMicrorubles ≤ maxBidMicrorubles ∧
    minBidMicrorubles % 1000000 = 0 ∧ maxBidMicrorubles % 1000000 = 0) .invalidLimit
  let (sku, bid) ← parseOzonCampaignProduct snapshot
  ensure (sku = expectedSku) .skuMismatch
  ensure (minBidMicrorubles ≤ bid ∧ bid ≤ maxBidMicrorubles) .bidOutOfRange
  return bid

/-- Why the bids of an account are refused. -/
inductive StaticBidError
  | product (error : OzonProductGuardError)
  | skuDiffers (expected actual : ℕ)
  deriving DecidableEq

/-- The live bid, inside or outside of the corridor. -/
def exactStaticProductBid (snapshot : Json) (expectedSku : ℕ) : Except StaticBidError ℕ := do
  let (sku, bid) ← (parseOzonCampaignProduct snapshot).mapError .product
  ensure (sku = expectedSku) (.skuDiffers expectedSku sku)
  return bid

/-! ## Static guards and stored transitions -/

/-- A guard with the bounds of its bid. -/
structure OzonStaticCampaignGuard where
  guard : OzonCampaignGuard
  minCpcBidMicrorubles : ℕ
  maxCpcBidMicrorubles : ℕ

/-- The position-based bid controls of the reviewed file, as far as pacing uses them. -/
structure OzonStaticDynamicBidControl where
  targetPosition : ℕ
  bidStepMicrorubles : ℕ
  cooldownSeconds : ℕ
  maxPositionAgeSeconds : ℕ

/-- A change of a bid that is under way. -/
structure OzonStaticPendingBidChange where
  accountId : Option String
  sku : Option ℕ
  minCpcBidMicrorubles : Option ℕ
  maxCpcBidMicrorubles : Option ℕ
  dateFrom : Option String
  spendCapMicrorubles : Option ℕ
  targetDrrPercent : Option ℕ
  fromMicrorubles : ℕ
  toMicrorubles : ℕ
  startedAt : ℤ

/-- The days of a month of the proleptic Gregorian calendar. -/
def daysInMonth (year month : ℕ) : ℕ :=
  if month = 2 then if year % 4 = 0 ∧ (year % 100 ≠ 0 ∨ year % 400 = 0) then 29 else 28
  else if month = 4 ∨ month = 6 ∨ month = 9 ∨ month = 11 then 30 else 31

/-- A calendar date written as `YYYY-MM-DD`. -/
def isCanonicalStaticGuardDate (date : String) : Bool :=
  match date.toList with
  | [y₁, y₂, y₃, y₄, '-', m₁, m₂, '-', d₁, d₂] =>
    let number (digits : List Char) : ℕ := digits.foldl (fun n c => n * 10 + (c.toNat - '0'.toNat)) 0
    let year := number [y₁, y₂, y₃, y₄]
    let month := number [m₁, m₂]
    let day := number [d₁, d₂]
    [y₁, y₂, y₃, y₄, m₁, m₂, d₁, d₂].all Char.isDigit &&
      decide (1 ≤ month ∧ month ≤ 12 ∧ 1 ≤ day ∧ day ≤ daysInMonth year month)
  | _ => false

/-- The ids and limits of a binding. -/
def validCompleteBinding (accountId : String) (sku minBid maxBid : ℕ) (dateFrom : String)
    (spendCap targetDrr : ℕ) : Bool :=
  !accountId.isEmpty && trim accountId == accountId.toList && decide (accountId.utf8ByteSize ≤ 128) &&
    !accountId.toList.any isControl &&
    decide (sku ≠ 0 ∧ minBid ≠ 0 ∧ minBid ≤ maxBid ∧ minBid % 1000000 = 0 ∧ maxBid % 1000000 = 0) &&
    isCanonicalStaticGuardDate dateFrom &&
    decide (spendCap ≠ 0 ∧ spendCap % 10000 = 0 ∧ 10 ≤ targetDrr ∧ targetDrr ≤ 100)

/-- The nearest bid of the corridor. -/
def clampBid (minBid maxBid bid : ℕ) : ℕ := if bid < minBid then minBid else if maxBid < bid then maxBid else bid

/-- Normal adjustments stay inside the corridor; a bid outside of it is repaired only to the nearest
boundary. -/
def validStaticBidTransition (pending : OzonStaticPendingBidChange) : Bool :=
  match pending.minCpcBidMicrorubles, pending.maxCpcBidMicrorubles with
  | some minBid, some maxBid =>
    let before := pending.fromMicrorubles
    let after := pending.toMicrorubles
    decide (minBid ≠ 0 ∧ minBid ≤ maxBid ∧ before ≠ 0 ∧ before ≠ after ∧ before % 1000000 = 0 ∧
      after % 1000000 = 0 ∧ (minBid ≤ after ∧ after ≤ maxBid) ∧
      ((minBid ≤ before ∧ before ≤ maxBid) ∨ after = clampBid minBid maxBid before))
  | _, _ => false

/-- Transitions stored before bindings were kept. -/
def OzonStaticPendingBidChange.isLegacy (pending : OzonStaticPendingBidChange) : Bool :=
  pending.accountId.isNone && pending.sku.isNone && pending.minCpcBidMicrorubles.isNone &&
    pending.maxCpcBidMicrorubles.isNone && pending.dateFrom.isNone &&
    pending.spendCapMicrorubles.isNone && pending.targetDrrPercent.isNone

/-- The test of one stored transition when the state is saved or loaded. -/
def validPendingBidChange (pending : OzonStaticPendingBidChange) : Bool :=
  let bindingIsValid :=
    match pending.accountId, pending.sku, pending.minCpcBidMicrorubles, pending.maxCpcBidMicrorubles,
      pending.dateFrom, pending.spendCapMicrorubles, pending.targetDrrPercent with
    | some accountId, some sku, some minBid, some maxBid, some dateFrom, some spendCap, some targetDrr =>
      validCompleteBinding accountId sku minBid maxBid dateFrom spendCap targetDrr &&
        validStaticBidTransition pending
    | _, _, _, _, _, _, _ => false
  (pending.isLegacy || bindingIsValid) &&
    decide (pending.fromMicrorubles ≠ 0 ∧ pending.toMicrorubles ≠ 0 ∧
      pending.fromMicrorubles ≠ pending.toMicrorubles ∧ pending.fromMicrorubles % 1000000 = 0 ∧
      pending.toMicrorubles % 1000000 = 0)

/-! ## Decisions -/

namespace OzonStaticCampaignGuard

/-- The binding of a guard. -/
def validBinding (static : OzonStaticCampaignGuard) : Bool :=
  validCompleteBinding static.guard.accountId static.guard.sku static.minCpcBidMicrorubles
    static.maxCpcBidMicrorubles static.guard.dateFrom static.guard.spendCapMicrorubles
    static.guard.targetDrrPercent

/-- The pacing policy of a guard under the reviewed controls. -/
def pacingPolicy (static : OzonStaticCampaignGuard) (dynamic : OzonStaticDynamicBidControl) :
    OzonBidPacingPolicy where
  minBidMicrorubles := static.minCpcBidMicrorubles
  maxBidMicrorubles := static.maxCpcBidMicrorubles
  bidStepMicrorubles := dynamic.bidStepMicrorubles
  spendCapMicrorubles := static.guard.spendCapMicrorubles
  targetDrrPercent := static.guard.targetDrrPercent
  targetPosition := dynamic.targetPosition
  cooldownSeconds := dynamic.cooldownSeconds
  maxPositionAgeSeconds := dynamic.maxPositionAgeSeconds

/-- The transition that is stored before the write. -/
def pendingBidChange (static : OzonStaticCampaignGuard) (fromMicrorubles toMicrorubles : ℕ)
    (startedAt : ℤ) : OzonStaticPendingBidChange where
  accountId := some static.guard.accountId
  sku := some static.guard.sku
  minCpcBidMicrorubles := some static.minCpcBidMicrorubles
  maxCpcBidMicrorubles := some static.maxCpcBidMicrorubles
  dateFrom := some static.guard.dateFrom
  spendCapMicrorubles := some static.guard.spendCapMicrorubles
  targetDrrPercent := some static.guard.targetDrrPercent
  fromMicrorubles := fromMicrorubles
  toMicrorubles := toMicrorubles
  startedAt := startedAt

/-- The bid transitions decided on a snapshot: one step up by pacing, or the way back to the corridor. -/
inductive Decides (static : OzonStaticCampaignGuard) (snapshot : Json) : ℕ → ℕ → Prop
  | paced (dynamic : OzonStaticDynamicBidControl) (observation : OzonBidPacingObservation)
      {bid changed : ℕ}
      (hbid : validateOzonCampaignProductGuard snapshot static.guard.sku static.minCpcBidMicrorubles
        static.maxCpcBidMicrorubles = .ok observation.currentBidMicrorubles)
      (hchange : evaluateOzonBidIncreaseAfterGuard (static.pacingPolicy dynamic) observation =
        .ok (.changeBid bid changed)) : Decides static snapshot bid changed
  | reconciled {bid : ℕ} (hbid : exactStaticProductBid snapshot static.guard.sku = .ok bid)
      (hoff : clampBid static.minCpcBidMicrorubles static.maxCpcBidMicrorubles bid ≠ bid) :
      Decides static snapshot bid (clampBid static.minCpcBidMicrorubles static.maxCpcBidMicrorubles bid)

variable {static : OzonStaticCampaignGuard} {snapshot : Json} {bid changed : ℕ}

theorem corridor_of_validBinding (h : static.validBinding = true) :
    static.minCpcBidMicrorubles ≠ 0 ∧ static.minCpcBidMicrorubles ≤ static.maxCpcBidMicrorubles ∧
      static.minCpcBidMicrorubles % 1000000 = 0 ∧ static.maxCpcBidMicrorubles % 1000000 = 0 := by
  simp only [validBinding, validCompleteBinding, Bool.and_eq_true, decide_eq_true_eq] at h
  omega

/-- What every decided transition satisfies, on the ruble grid or off it. -/
structure Lawful (static : OzonStaticCampaignGuard) (bid changed : ℕ) : Prop where
  moves : bid ≠ changed
  min_le : static.minCpcBidMicrorubles ≤ changed
  le_max : changed ≤ static.maxCpcBidMicrorubles
  reviewed : (static.minCpcBidMicrorubles ≤ bid ∧ bid ≤ static.maxCpcBidMicrorubles) ∨
    changed = clampBid static.minCpcBidMicrorubles static.maxCpcBidMicrorubles bid
  whole : bid % 1000000 = 0 → changed % 1000000 = 0

/-- A step up from a whole number of rubles ends at one, by the step or by the ceiling. -/
theorem lawful_of_paced {dynamic : OzonStaticDynamicBidControl}
    {observation : OzonBidPacingObservation}
    (h : evaluateOzonBidIncreaseAfterGuard (static.pacingPolicy dynamic) observation =
      .ok (.changeBid bid changed)) : Lawful static bid changed := by
  simp only [evaluateOzonBidIncreaseAfterGuard, ok_of_bind] at h
  obtain ⟨_, hinputs, hadjustment⟩ := h
  obtain ⟨hpolicy, hmin, hmax⟩ := validateInputs_eq_ok.mp hinputs
  obtain ⟨rfl, hceiling, rfl, _⟩ := positionBidAdjustment_changeBid hadjustment
  rw [validatePacingPolicy, ensure_eq_ok] at hpolicy
  simp only [pacingPolicy, microrublesPerRuble] at hpolicy hmin hmax hceiling
  refine ⟨?_, ?_, ?_, .inl ⟨hmin, hmax⟩, fun hwhole => ?_⟩ <;> simp only [pacingPolicy] <;> omega

theorem lawful_of_reconciled (hvalid : static.validBinding = true)
    (hoff : clampBid static.minCpcBidMicrorubles static.maxCpcBidMicrorubles bid ≠ bid) :
    Lawful static bid (clampBid static.minCpcBidMicrorubles static.maxCpcBidMicrorubles bid) := by
  obtain ⟨_, hle, hmin, hmax⟩ := corridor_of_validBinding hvalid
  refine ⟨hoff.symm, ?_, ?_, .inr rfl, fun _ => ?_⟩ <;> unfold clampBid <;> split_ifs <;> omega

/-- **Decided transitions are storable exactly on the ruble grid.** -/
theorem decided_transition_storable_iff (hvalid : static.validBinding = true)
    (hdecides : Decides static snapshot bid changed) (hbid : bid ≠ 0) (startedAt : ℤ) :
    (validStaticBidTransition (static.pendingBidChange bid changed startedAt) = true ↔
      bid % 1000000 = 0) ∧
    (validPendingBidChange (static.pendingBidChange bid changed startedAt) = true ↔
      bid % 1000000 = 0) := by
  have hlawful : Lawful static bid changed := by
    cases hdecides with
    | paced _ _ _ hchange => exact lawful_of_paced hchange
    | reconciled _ hoff => exact lawful_of_reconciled hvalid hoff
  obtain ⟨hmin, hle, _, _⟩ := corridor_of_validBinding hvalid
  have htransition : validStaticBidTransition (static.pendingBidChange bid changed startedAt) = true ↔
      bid % 1000000 = 0 := by
    constructor
    · intro h
      obtain ⟨_, _, _, _, hwhole, _⟩ := of_decide_eq_true h
      exact hwhole
    · intro hwhole
      exact decide_eq_true ⟨hmin, hle, hbid, hlawful.moves, hwhole, hlawful.whole hwhole,
        ⟨hlawful.min_le, hlawful.le_max⟩, hlawful.reviewed⟩
  refine ⟨htransition, ?_⟩
  have hbinding : validCompleteBinding static.guard.accountId static.guard.sku
      static.minCpcBidMicrorubles static.maxCpcBidMicrorubles static.guard.dateFrom
      static.guard.spendCapMicrorubles static.guard.targetDrrPercent = true := hvalid
  have hchanged : changed ≠ 0 := by
    have := hlawful.min_le
    omega
  constructor
  · intro h
    obtain ⟨_, _, _, hwhole, _⟩ := of_decide_eq_true (Bool.and_eq_true_iff.mp h).2
    exact hwhole
  · intro hwhole
    refine Bool.and_eq_true_iff.mpr ⟨Bool.or_eq_true_iff.mpr (.inr ?_), ?_⟩
    · exact Bool.and_eq_true_iff.mpr ⟨hbinding, htransition.mpr hwhole⟩
    · exact decide_eq_true ⟨hbid, hchanged, hlawful.moves, hwhole, hlawful.whole hwhole⟩

/-- A guarded campaign with a corridor of 7 to 12 rubles. -/
def sample : OzonStaticCampaignGuard where
  guard := {
    planId := "static-21", accountId := "account", sku := 1001, campaignId := 21
    dateFrom := "2026-09-01", spendCapMicrorubles := 2000000000, targetDrrPercent := 15
    status := .active, stopReason := none, incidentErrorClass := none }
  minCpcBidMicrorubles := 7000000
  maxCpcBidMicrorubles := 12000000

/-- The snapshot of a campaign with one product. -/
def productSnapshot (bid : ℤ) : Json :=
  .obj [("products", .arr [.obj [("sku", .num 1001), ("bid", .num bid)]])]

/-- A bid of 6 rubles is moved to 7 and the transition is stored. -/
theorem decided_transition_storable_below_corridor :
    Decides sample (productSnapshot 6000000) 6000000 7000000 ∧
      validPendingBidChange (sample.pendingBidChange 6000000 7000000 0) = true := by
  have hdecides : Decides sample (productSnapshot 6000000) 6000000 7000000 :=
    .reconciled (by decide) (by decide)
  refine ⟨hdecides, ?_⟩
  exact (decided_transition_storable_iff (by decide) hdecides (by decide) 0).2.mpr (by decide)

/-- A bid of 7.5 rubles passes the guard, and the step to 8.5 rubles cannot be stored. -/
theorem decided_transition_lost_off_grid :
    sample.validBinding = true ∧ Decides sample (productSnapshot 7500000) 7500000 8500000 ∧
      validStaticBidTransition (sample.pendingBidChange 7500000 8500000 0) = false := by
  refine ⟨by decide, ?_, by decide⟩
  exact .paced ⟨10, 1000000, 1800, 3600⟩ ⟨0, 7500000, 0, 0, some ⟨0, 31⟩, none⟩ (by decide) (by decide)

end OzonStaticCampaignGuard

end AdsControl.Ozon
