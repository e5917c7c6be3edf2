import AdsControl.Ozon.Guard

/-!
# Bid pacing

One evaluation moves the bid of a campaign by at most one step: down while the advertising costs are
above their share of the revenue, up while the observed position is worse than the target. The static
guard makes the upward part on its own, after the campaign guard of `Ozon.Guard`.

* `evaluateOzonBidPacing`, `evaluateOzonBidIncreaseAfterGuard`: the two entry points;
* **`split_guard_agrees`**: the guard and the upward part together are the pacing engine;
* `changeBid_cases`: everything an emitted change says about its observation;
* **`pacing_run`**: corridor, step size, direction and cooldown along every run.
-/

namespace AdsControl.Ozon

open Fallible

/-! ## Policies and observations -/

/-- The bounds of a paced bid. -/
structure OzonBidPacingPolicy where
  minBidMicrorubles : ℕ
  maxBidMicrorubles : ℕ
  bidStepMicrorubles : ℕ
  spendCapMicrorubles : ℕ
  targetDrrPercent : ℕ
  targetPosition : ℕ
  cooldownSeconds : ℕ
  maxPositionAgeSeconds : ℕ

/-- A position and when it was seen. -/
structure OzonPositionSignal where
  observedAt : ℤ
  position : ℕ

/-- What a decision looks at. -/
structure OzonBidPacingObservation where
  observedAt : ℤ
  currentBidMicrorubles : ℕ
  spendMinor : ℕ
  attributedRevenueMinor : ℕ
  position : Option OzonPositionSignal
  lastBidChangeAt : Option ℤ

/-- Why the bid stays. -/
inductive OzonBidPacingHoldReason
  | cooldown
  | positionUnavailable
  | positionStale
  | targetPositionReached
  | bidCeilingReached
  deriving DecidableEq

/-- Why the campaign is paused. -/
inductive OzonBidPacingPauseReason
  | spendCapReached
  | drrExceededAtBidFloor
  deriving DecidableEq

/-- What is decided. -/
inductive OzonBidPacingAction
  | hold (reason : OzonBidPacingHoldReason)
  | changeBid (fromMicrorubles toMicrorubles : ℕ)
  | pause (reason : OzonBidPacingPauseReason)
  deriving DecidableEq

/-- A bid adjustment after the caller has enforced its financial guard. -/
inductive OzonBidPacingAdjustment
  | hold (reason : OzonBidPacingHoldReason)
  | changeBid (fromMicrorubles toMicrorubles : ℕ)
  deriving DecidableEq

/-- An adjustment as a decision. -/
def OzonBidPacingAdjustment.toAction : OzonBidPacingAdjustment → OzonBidPacingAction
  | hold reason => .hold reason
  | changeBid fromMicrorubles toMicrorubles => .changeBid fromMicrorubles toMicrorubles

/-- Why nothing is decided. -/
inductive OzonBidPacingError
  | invalidPolicy
  | invalidObservation
  deriving DecidableEq

/-- One ruble in microrubles. -/
def microrublesPerRuble : ℕ := 1000000

/-- The longest duration in whole seconds: its milliseconds fit a signed 64-bit value. -/
def maxDurationSeconds : ℕ := (2 ^ 63 - 1) / 1000

/-- A duration of `n` seconds, absent when it is out of range. -/
def trySeconds (n : ℕ) : Option ℤ := if n ≤ maxDurationSeconds then some (seconds n) else none

/-! ## Evaluation -/

/-- The bounds of a policy, in whole rubles. -/
def validatePacingPolicy (policy : OzonBidPacingPolicy) : Except OzonBidPacingError Unit :=
  ensure (policy.minBidMicrorubles ≠ 0 ∧ policy.minBidMicrorubles ≤ policy.maxBidMicrorubles ∧
    policy.bidStepMicrorubles ≠ 0 ∧ policy.minBidMicrorubles % microrublesPerRuble = 0 ∧
    policy.maxBidMicrorubles % microrublesPerRuble = 0 ∧
    policy.bidStepMicrorubles % microrublesPerRuble = 0 ∧
    policy.spendCapMicrorubles ≠ 0 ∧ policy.spendCapMicrorubles % 10000 = 0 ∧
    (10 ≤ policy.targetDrrPercent ∧ policy.targetDrrPercent ≤ 100) ∧
    policy.targetPosition ≠ 0 ∧ policy.cooldownSeconds ≠ 0 ∧
    policy.cooldownSeconds ≤ policy.maxPositionAgeSeconds) .invalidPolicy

/-- The policy and the observation. -/
def validateInputs (policy : OzonBidPacingPolicy) (observation : OzonBidPacingObservation) :
    Except OzonBidPacingError Unit := do
  validatePacingPolicy policy
  ensure (policy.minBidMicrorubles ≤ observation.currentBidMicrorubles ∧
    observation.currentBidMicrorubles ≤ policy.maxBidMicrorubles) .invalidObservation

/-- The last change is too recent. -/
def cooldownActive (policy : OzonBidPacingPolicy) (observation : OzonBidPacingObservation) :
    Except OzonBidPacingError Bool :=
  match observation.lastBidChangeAt with
  | none => return false
  | some lastChange => do
    let age := observation.observedAt - lastChange
    ensure (0 ≤ age) .invalidObservation
    let cooldown ← context (trySeconds policy.cooldownSeconds) .invalidPolicy
    return decide (age < cooldown)

/-- The upward adjustment: a fresh position worse than the target raises the bid by one step. -/
def positionBidAdjustment (policy : OzonBidPacingPolicy) (observation : OzonBidPacingObservation) :
    Except OzonBidPacingError OzonBidPacingAdjustment :=
  match observation.position with
  | none => return .hold .positionUnavailable
  | some position => do
    let age := observation.observedAt - position.observedAt
    let maxAge ← context (trySeconds policy.maxPositionAgeSeconds) .invalidPolicy
    if age < 0 ∨ maxAge < age then return .hold .positionStale
    else if position.position ≤ policy.targetPosition then return .hold .targetPositionReached
    else if observation.currentBidMicrorubles = policy.maxBidMicrorubles then
      return .hold .bidCeilingReached
    else if ← cooldownActive policy observation then return .hold .cooldown
    else
      let raised ← context (Machine.checkedAdd 64 observation.currentBidMicrorubles
        policy.bidStepMicrorubles) .invalidObservation
      return .changeBid observation.currentBidMicrorubles (min raised policy.maxBidMicrorubles)

/-- The test of the spend-cap branch. -/
def spendCapReached (policy : OzonBidPacingPolicy) (observation : OzonBidPacingObservation) : Bool :=
  decide (policy.spendCapMicrorubles / 10000 ≤ observation.spendMinor)

/-- The test of the DRR branch. -/
def drrExceeded (policy : OzonBidPacingPolicy) (observation : OzonBidPacingObservation) : Bool :=
  decide (0 < observation.attributedRevenueMinor ∧
    observation.attributedRevenueMinor * policy.targetDrrPercent < observation.spendMinor * 100)

/-- The combined engine: pauses first, then the reduction, then the upward adjustment. -/
def evaluateOzonBidPacing (policy : OzonBidPacingPolicy) (observation : OzonBidPacingObservation) :
    Except OzonBidPacingError OzonBidPacingAction := do
  validateInputs policy observation
  if spendCapReached policy observation then return .pause .spendCapReached
  else if drrExceeded policy observation then
    if observation.currentBidMicrorubles = policy.minBidMicrorubles then
      return .pause .drrExceededAtBidFloor
    else if ← cooldownActive policy observation then return .hold .cooldown
    else
      let lowered := max (observation.currentBidMicrorubles - policy.bidStepMicrorubles)
        policy.minBidMicrorubles
      return .changeBid observation.currentBidMicrorubles lowered
  else (positionBidAdjustment policy observation).map OzonBidPacingAdjustment.toAction

/-- The upward part alone, for callers that made the mandatory spend and DRR check before. -/
def evaluateOzonBidIncreaseAfterGuard (policy : OzonBidPacingPolicy)
    (observation : OzonBidPacingObservation) :
    Except OzonBidPacingError OzonBidPacingAdjustment := do
  validateInputs policy observation
  positionBidAdjustment policy observation

/-! ## What a change says about its observation -/

variable {policy : OzonBidPacingPolicy} {observation : OzonBidPacingObservation}

theorem validateInputs_eq_ok {u : Unit} : validateInputs policy observation = .ok u ↔
    validatePacingPolicy policy = .ok () ∧
      policy.minBidMicrorubles ≤ observation.currentBidMicrorubles ∧
      observation.currentBidMicrorubles ≤ policy.maxBidMicrorubles := by
  simp only [validateInputs, ok_of_bind, ensure_eq_ok]
  constructor
  · rintro ⟨_, hpolicy, hbid⟩
    exact ⟨hpolicy, hbid⟩
  · rintro ⟨hpolicy, hbid⟩
    exact ⟨(), hpolicy, hbid⟩

theorem trySeconds_eq_some {n : ℕ} {d : ℤ} :
    trySeconds n = some d ↔ n ≤ maxDurationSeconds ∧ d = seconds n := by
  unfold trySeconds
  split_ifs with h <;> simp [h, eq_comm]

theorem cooldownActive_eq_false (h : cooldownActive policy observation = .ok false) :
    ∀ t ∈ observation.lastBidChangeAt, t + seconds policy.cooldownSeconds ≤ observation.observedAt := by
  intro t ht
  have hlast : observation.lastBidChangeAt = some t := ht
  simp only [cooldownActive, hlast, ok_of_bind, ensure_eq_ok, context_eq_ok, trySeconds_eq_some,
    ok_of_pure, decide_eq_false_iff_not] at h
  obtain ⟨_, _, cooldown, ⟨_, rfl⟩, hold⟩ := h
  omega

/-- A fresh signal of a position strictly worse than the target. -/
def WorsePosition (policy : OzonBidPacingPolicy) (observation : OzonBidPacingObservation) : Prop :=
  ∃ signal ∈ observation.position, signal.observedAt ≤ observation.observedAt ∧
    observation.observedAt ≤ signal.observedAt + seconds policy.maxPositionAgeSeconds ∧
    policy.targetPosition < signal.position

/-- **The upward change.** It answers a fresh bad position outside of the cooldown. -/
theorem positionBidAdjustment_changeBid {bid raised : ℕ}
    (h : positionBidAdjustment policy observation = .ok (.changeBid bid raised)) :
    bid = observation.currentBidMicrorubles ∧ bid ≠ policy.maxBidMicrorubles ∧
      raised = min (bid + policy.bidStepMicrorubles) policy.maxBidMicrorubles ∧
      WorsePosition policy observation ∧ cooldownActive policy observation = .ok false := by
  unfold positionBidAdjustment at h
  cases hposition : observation.position with
  | none => simp [hposition] at h
  | some signal =>
    simp only [hposition, ok_of_bind, context_eq_ok, trySeconds_eq_some] at h
    obtain ⟨maxAge, ⟨_, rfl⟩, h⟩ := h
    split_ifs at h with hstale htarget hceiling
    · simp at h
    · simp at h
    · simp at h
    · simp only [ok_of_bind] at h
      obtain ⟨active, hactive, h⟩ := h
      cases active with
      | true => simp at h
      | false =>
        simp only [Bool.false_eq_true, if_false, ok_of_bind, context_eq_ok,
          Machine.checkedAdd_eq_some, ok_of_pure, OzonBidPacingAdjustment.changeBid.injEq] at h
        obtain ⟨_, ⟨rfl, _⟩, rfl, rfl⟩ := h
        refine ⟨rfl, hceiling, rfl, ⟨signal, hposition, ?_⟩, hactive⟩
        omega

/-- **The two causes of a change.** A cost share above its target lowers the bid, a bad position
raises it; both wait for the cooldown. -/
theorem changeBid_cases {bid changed : ℕ}
    (h : evaluateOzonBidPacing policy observation = .ok (.changeBid bid changed)) :
    bid = observation.currentBidMicrorubles ∧ spendCapReached policy observation = false ∧
      cooldownActive policy observation = .ok false ∧
      (drrExceeded policy observation = true ∧ bid ≠ policy.minBidMicrorubles ∧
          changed = max (bid - policy.bidStepMicrorubles) policy.minBidMicrorubles ∨
        drrExceeded policy observation = false ∧ bid ≠ policy.maxBidMicrorubles ∧
          changed = min (bid + policy.bidStepMicrorubles) policy.maxBidMicrorubles ∧
          WorsePosition policy observation) := by
  simp only [evaluateOzonBidPacing, ok_of_bind] at h
  obtain ⟨_, _, h⟩ := h
  split_ifs at h with hcap hdrr hfloor
  · simp at h
  · simp at h
  · simp only [ok_of_bind] at h
    obtain ⟨active, hactive, h⟩ := h
    cases active with
    | true => simp at h
    | false =>
      simp only [Bool.false_eq_true, if_false, ok_of_pure, OzonBidPacingAction.changeBid.injEq] at h
      obtain ⟨rfl, rfl⟩ := h
      exact ⟨rfl, by simpa using hcap, hactive, .inl ⟨hdrr, hfloor, rfl⟩⟩
  · simp only [ok_of_map] at h
    obtain ⟨adjustment, hadjustment, haction⟩ := h
    cases adjustment with
    | hold reason => simp [OzonBidPacingAdjustment.toAction] at haction
    | changeBid bid' changed' =>
      simp only [OzonBidPacingAdjustment.toAction, OzonBidPacingAction.changeBid.injEq] at haction
      obtain ⟨rfl, rfl⟩ := haction
      obtain ⟨hbid, hceiling, hraised, hworse, hcooldown⟩ := positionBidAdjustment_changeBid hadjustment
      exact ⟨hbid, by simpa using hcap, hcooldown, .inr ⟨by simpa using hdrr, hceiling, hraised, hworse⟩⟩

theorem validatePacingPolicy_eq_ok (h : validatePacingPolicy policy = .ok ()) :
    policy.minBidMicrorubles ≤ policy.maxBidMicrorubles ∧ 0 < policy.bidStepMicrorubles ∧
      policy.cooldownSeconds ≤ policy.maxPositionAgeSeconds := by
  rw [validatePacingPolicy, ensure_eq_ok] at h
  omega

/-- **One change.** It stays in the corridor and moves by at least one microruble and at most one step,
down exactly when the cost share is exceeded. -/
theorem changeBid_moves {bid changed : ℕ}
    (h : evaluateOzonBidPacing policy observation = .ok (.changeBid bid changed)) :
    policy.minBidMicrorubles ≤ changed ∧ changed ≤ policy.maxBidMicrorubles ∧
      (if drrExceeded policy observation then changed < bid ∧ bid ≤ changed + policy.bidStepMicrorubles
        else bid < changed ∧ changed ≤ bid + policy.bidStepMicrorubles) := by
  have hinputs : validateInputs policy observation = .ok () := by
    simp only [evaluateOzonBidPacing, ok_of_bind] at h
    exact h.choose_spec.1
  obtain ⟨hpolicy, hmin, hmax⟩ := validateInputs_eq_ok.mp hinputs
  obtain ⟨hle, hstep, _⟩ := validatePacingPolicy_eq_ok hpolicy
  obtain ⟨rfl, _, _, hcause⟩ := changeBid_cases h
  obtain ⟨hdrr, hfloor, rfl⟩ | ⟨hdrr, hceiling, rfl, _⟩ := hcause
  · rw [if_pos hdrr]
    omega
  · rw [hdrr, if_neg Bool.false_ne_true]
    omega

/-! ## Errors -/

/-- An observation inside the corridor and not before the last change. -/
structure Ordinary (policy : OzonBidPacingPolicy) (observation : OzonBidPacingObservation) : Prop where
  policy_ok : validatePacingPolicy policy = .ok ()
  min_le : policy.minBidMicrorubles ≤ observation.currentBidMicrorubles
  le_max : observation.currentBidMicrorubles ≤ policy.maxBidMicrorubles
  changed_before : ∀ t ∈ observation.lastBidChangeAt, t ≤ observation.observedAt

theorem cooldownActive_eq_error (ho : Ordinary policy observation) {e : OzonBidPacingError}
    (h : cooldownActive policy observation = .error e) :
    e = .invalidPolicy ∧ maxDurationSeconds < policy.cooldownSeconds := by
  unfold cooldownActive at h
  cases hlast : observation.lastBidChangeAt with
  | none =>
    rw [hlast] at h
    cases h
  | some t =>
    have hbefore := ho.changed_before t hlast
    simp only [hlast, bind_eq_error, ensure_eq_error, context_eq_error] at h
    obtain ⟨hage, _⟩ | ⟨_, _, ⟨hnone, rfl⟩ | ⟨_, _, h⟩⟩ := h
    · omega
    · refine ⟨rfl, ?_⟩
      unfold trySeconds at hnone
      split_ifs at hnone with hrange
      omega
    · cases h

theorem positionBidAdjustment_eq_error (ho : Ordinary policy observation) {e : OzonBidPacingError}
    (h : positionBidAdjustment policy observation = .error e) :
    e = .invalidPolicy ∧ maxDurationSeconds < policy.maxPositionAgeSeconds ∨
      e = .invalidObservation ∧
        2 ^ 64 ≤ observation.currentBidMicrorubles + policy.bidStepMicrorubles := by
  have hcooldown := (validatePacingPolicy_eq_ok ho.policy_ok).2.2
  unfold positionBidAdjustment at h
  cases hposition : observation.position with
  | none =>
    rw [hposition] at h
    cases h
  | some signal =>
    simp only [hposition, bind_eq_error, context_eq_error] at h
    obtain ⟨hnone, rfl⟩ | ⟨maxAge, _, h⟩ := h
    · left
      refine ⟨rfl, ?_⟩
      unfold trySeconds at hnone
      split_ifs at hnone with hrange
      omega
    · split_ifs at h with hstale htarget hceiling
      · cases h
      · cases h
      · cases h
      · simp only [bind_eq_error] at h
        obtain hactive | ⟨active, _, h⟩ := h
        · obtain ⟨he, hlong⟩ := cooldownActive_eq_error ho hactive
          exact .inl ⟨he, by omega⟩
        · cases active with
          | true => cases h
          | false =>
            simp only [Bool.false_eq_true, if_false, bind_eq_error, context_eq_error] at h
            obtain ⟨hsum, rfl⟩ | ⟨_, _, h⟩ := h
            · right
              refine ⟨rfl, ?_⟩
              unfold Machine.checkedAdd at hsum
              split_ifs at hsum with hfits
              omega
            · cases h

theorem evaluateOzonBidPacing_eq_error (ho : Ordinary policy observation) {e : OzonBidPacingError}
    (h : evaluateOzonBidPacing policy observation = .error e) :
    e = .invalidPolicy ∧ maxDurationSeconds < policy.maxPositionAgeSeconds ∨
      e = .invalidObservation ∧
        2 ^ 64 ≤ observation.currentBidMicrorubles + policy.bidStepMicrorubles := by
  have hinputs := validateInputs_eq_ok (u := ()).mpr ⟨ho.policy_ok, ho.min_le, ho.le_max⟩
  have hcooldown := (validatePacingPolicy_eq_ok ho.policy_ok).2.2
  simp only [evaluateOzonBidPacing, hinputs, bind_eq_error] at h
  obtain h | ⟨_, _, h⟩ := h
  · cases h
  split_ifs at h with hcap hdrr hfloor
  · cases h
  · cases h
  · simp only [bind_eq_error] at h
    obtain hactive | ⟨active, _, h⟩ := h
    · obtain ⟨he, hlong⟩ := cooldownActive_eq_error ho hactive
      exact .inl ⟨he, by omega⟩
    · cases active <;> cases h
  · cases hadjustment : positionBidAdjustment policy observation with
    | ok adjustment =>
      rw [hadjustment] at h
      cases h
    | error e' =>
      rw [hadjustment] at h
      cases h
      exact positionBidAdjustment_eq_error ho hadjustment

/-! ## The split guard -/

theorem evaluateOzonCampaignGuard_eq (hpolicy : validatePacingPolicy policy = .ok ()) :
    evaluateOzonCampaignGuard observation.spendMinor observation.attributedRevenueMinor
        policy.spendCapMicrorubles policy.targetDrrPercent =
      .ok (if spendCapReached policy observation then some .spendCapReached
        else if drrExceeded policy observation then some .drrCapExceeded else none) := by
  rw [validatePacingPolicy, ensure_eq_ok] at hpolicy
  have hlimits : policy.spendCapMicrorubles ≠ 0 ∧ policy.spendCapMicrorubles % 10000 = 0 ∧
      10 ≤ policy.targetDrrPercent ∧ policy.targetDrrPercent ≤ 100 := by omega
  simp only [evaluateOzonCampaignGuard, ensure, if_pos hlimits, spendCapReached, drrExceeded,
    decide_eq_true_eq]
  split_ifs <;> rfl

/-- **The split guard agrees with the combined engine.** The guard passes exactly when neither pausing
branch is taken, what remains is then the upward part, and where the guard stops no bid is raised. -/
theorem split_guard_agrees (hpolicy : validatePacingPolicy policy = .ok ())
    (observation : OzonBidPacingObservation) :
    let guard := evaluateOzonCampaignGuard observation.spendMinor observation.attributedRevenueMinor
      policy.spendCapMicrorubles policy.targetDrrPercent
    (guard = .ok none ↔
      spendCapReached policy observation = false ∧ drrExceeded policy observation = false) ∧
    (guard = .ok none → evaluateOzonBidPacing policy observation =
      (evaluateOzonBidIncreaseAfterGuard policy observation).map OzonBidPacingAdjustment.toAction) ∧
    ∀ reason, guard = .ok (some reason) → ∀ bid changed,
      evaluateOzonBidPacing policy observation = .ok (.changeBid bid changed) → changed < bid := by
  intro guard
  have hguard : guard = _ := @evaluateOzonCampaignGuard_eq policy observation hpolicy
  have hnone : guard = .ok none ↔
      spendCapReached policy observation = false ∧ drrExceeded policy observation = false := by
    rw [hguard]
    cases spendCapReached policy observation <;> cases drrExceeded policy observation <;> simp
  refine ⟨hnone, fun hpass => ?_, fun reason hstop bid changed hchange => ?_⟩
  · obtain ⟨hcap, hdrr⟩ := hnone.mp hpass
    simp only [evaluateOzonBidPacing, evaluateOzonBidIncreaseAfterGuard, hcap, hdrr,
      Bool.false_eq_true, if_false]
    cases validateInputs policy observation <;> rfl
  · have hcap := (changeBid_cases hchange).2.1
    have hdrr : drrExceeded policy observation = true := by
      rw [hguard, hcap] at hstop
      by_contra hdrr
      simp [hdrr] at hstop
    have hmoves := (changeBid_moves hchange).2.2
    rw [if_pos hdrr] at hmoves
    exact hmoves.1

/-- A corridor of 7 to 12 rubles in steps of one ruble. -/
def rublePolicy : OzonBidPacingPolicy where
  minBidMicrorubles := 7000000
  maxBidMicrorubles := 12000000
  bidStepMicrorubles := 1000000
  spendCapMicrorubles := 2000000000
  targetDrrPercent := 15
  targetPosition := 30
  cooldownSeconds := 1800
  maxPositionAgeSeconds := 2700

/-- The cost share of 15.001 percent stops the guard, and the engine lowers the bid. -/
theorem split_guard_agrees_above_target :
    (∃ reason, evaluateOzonCampaignGuard 15001 100000 rublePolicy.spendCapMicrorubles
      rublePolicy.targetDrrPercent = .ok (some reason)) ∧
    ∃ bid changed, evaluateOzonBidPacing rublePolicy ⟨0, 9000000, 15001, 100000, none, none⟩ =
      .ok (.changeBid bid changed) ∧ changed < bid := by
  have hvalid : validatePacingPolicy rublePolicy = .ok () := by decide
  have hagrees := split_guard_agrees hvalid ⟨0, 9000000, 15001, 100000, none, none⟩
  refine ⟨⟨.drrCapExceeded, by decide⟩, 9000000, 8000000, by decide, ?_⟩
  exact hagrees.2.2 .drrCapExceeded (by decide) 9000000 8000000 (by decide)

/-! ## Runs -/

/-- What an evaluation reads anew. -/
structure PacingReading where
  observedAt : ℤ
  spendMinor : ℕ
  attributedRevenueMinor : ℕ
  position : Option OzonPositionSignal

/-- What a run keeps between two evaluations. -/
structure PacingState where
  currentBidMicrorubles : ℕ
  lastBidChangeAt : Option ℤ

/-- What a decision looks at after a reading. -/
def PacingState.observe (state : PacingState) (reading : PacingReading) : OzonBidPacingObservation where
  observedAt := reading.observedAt
  currentBidMicrorubles := state.currentBidMicrorubles
  spendMinor := reading.spendMinor
  attributedRevenueMinor := reading.attributedRevenueMinor
  position := reading.position
  lastBidChangeAt := state.lastBidChangeAt

/-- One evaluation; an emitted change is applied and recorded. -/
def PacingState.next (policy : OzonBidPacingPolicy) (state : PacingState) (reading : PacingReading) :
    PacingState :=
  match evaluateOzonBidPacing policy (state.observe reading) with
  | .ok (.changeBid _ changed) => ⟨changed, some reading.observedAt⟩
  | _ => state

/-- The observations that a run evaluates, in their order. -/
def observations (policy : OzonBidPacingPolicy) :
    PacingState → List PacingReading → List OzonBidPacingObservation
  | _, [] => []
  | state, reading :: rest =>
    state.observe reading :: observations policy (state.next policy reading) rest

/-- The instant of an evaluation that emits a change. -/
def changedAt (policy : OzonBidPacingPolicy) (observation : OzonBidPacingObservation) : Option ℤ :=
  match evaluateOzonBidPacing policy observation with
  | .ok (.changeBid _ _) => some observation.observedAt
  | _ => none

/-- When the bid changed in a run. -/
def changeTimes (policy : OzonBidPacingPolicy) (run : List OzonBidPacingObservation) : List ℤ :=
  run.filterMap (changedAt policy)

/-- **One evaluation of a run.** Either nothing changes, or the change is applied and recorded. -/
theorem next_cases (policy : OzonBidPacingPolicy) (state : PacingState) (reading : PacingReading) :
    changedAt policy (state.observe reading) = none ∧ state.next policy reading = state ∨
      ∃ bid changed,
        evaluateOzonBidPacing policy (state.observe reading) = .ok (.changeBid bid changed) ∧
        changedAt policy (state.observe reading) = some reading.observedAt ∧
        state.next policy reading = ⟨changed, some reading.observedAt⟩ := by
  unfold changedAt PacingState.next
  cases h : evaluateOzonBidPacing policy (state.observe reading) with
  | error e => exact .inl ⟨rfl, rfl⟩
  | ok action =>
    cases action with
    | hold reason => exact .inl ⟨rfl, rfl⟩
    | pause reason => exact .inl ⟨rfl, rfl⟩
    | changeBid bid changed => exact .inr ⟨bid, changed, rfl, rfl, rfl⟩

/-- Every later change of a run waits for the cooldown of the recorded one. -/
theorem le_changeTimes (readings : List PacingReading) (state : PacingState) :
    ∀ last ∈ state.lastBidChangeAt, ∀ t ∈ changeTimes policy (observations policy state readings),
      last + seconds policy.cooldownSeconds ≤ t := by
  induction readings generalizing state with
  | nil => simp [observations, changeTimes]
  | cons reading rest ih =>
    intro last hlast t ht
    obtain ⟨hnone, hnext⟩ | ⟨bid, changed, hchange, hsome, hnext⟩ := next_cases policy state reading
    · rw [changeTimes, observations, List.filterMap_cons_none hnone, hnext] at ht
      exact ih state last hlast t ht
    · have hfirst : last + seconds policy.cooldownSeconds ≤ reading.observedAt :=
        cooldownActive_eq_false (changeBid_cases hchange).2.2.1 last hlast
      rw [changeTimes, observations, List.filterMap_cons_some hsome, hnext, List.mem_cons] at ht
      rcases ht with rfl | ht
      · exact hfirst
      · have hlater := ih ⟨changed, some reading.observedAt⟩ reading.observedAt rfl t ht
        simp only [seconds] at hfirst hlater ⊢
        omega

/-- **Cooldown.** The changes of a run are at least one cooldown apart. -/
theorem changeTimes_apart (readings : List PacingReading) (state : PacingState) :
    (changeTimes policy (observations policy state readings)).Pairwise
      fun earlier later => earlier + seconds policy.cooldownSeconds ≤ later := by
  induction readings generalizing state with
  | nil => exact List.Pairwise.nil
  | cons reading rest ih =>
    obtain ⟨hnone, hnext⟩ | ⟨bid, changed, hchange, hsome, hnext⟩ := next_cases policy state reading
    · rw [changeTimes, observations, List.filterMap_cons_none hnone, hnext]
      exact ih state
    · rw [changeTimes, observations, List.filterMap_cons_some hsome, hnext, List.pairwise_cons]
      exact ⟨le_changeTimes rest _ _ rfl, ih _⟩

/-- Along a run of nondecreasing times every observation is ordinary. -/
theorem ordinary_of_mem (hpolicy : validatePacingPolicy policy = .ok ()) (readings : List PacingReading)
    (state : PacingState) (hmin : policy.minBidMicrorubles ≤ state.currentBidMicrorubles)
    (hmax : state.currentBidMicrorubles ≤ policy.maxBidMicrorubles)
    (hlast : ∀ t ∈ state.lastBidChangeAt, ∀ reading ∈ readings, t ≤ reading.observedAt)
    (htimes : readings.Pairwise fun a b => a.observedAt ≤ b.observedAt) :
    ∀ observation ∈ observations policy state readings, Ordinary policy observation := by
  induction readings generalizing state with
  | nil => simp [observations]
  | cons reading rest ih =>
    obtain ⟨hfirst, hrest⟩ := List.pairwise_cons.mp htimes
    intro observation hmem
    rw [observations, List.mem_cons] at hmem
    rcases hmem with rfl | hmem
    · exact ⟨hpolicy, hmin, hmax, fun t ht => hlast t ht reading List.mem_cons_self⟩
    obtain ⟨_, hnext⟩ | ⟨bid, changed, hchange, _, hnext⟩ := next_cases policy state reading
    · rw [hnext] at hmem
      refine ih state hmin hmax (fun t ht r hr => ?_) hrest observation hmem
      exact hlast t ht r (List.mem_cons_of_mem _ hr)
    · obtain ⟨hmin', hmax', _⟩ := changeBid_moves hchange
      rw [hnext] at hmem
      refine ih ⟨changed, some reading.observedAt⟩ hmin' hmax' (fun t ht r hr => ?_) hrest observation hmem
      cases ht
      exact hfirst r hr

/-- **Pacing over whole runs.** From a bid in the corridor, over readings in the order of their times, the
bid stays in the corridor; a change moves it by at most one step, down exactly when the cost share is
exceeded below the spend cap and up only on a fresh position worse than the target; two changes are one
cooldown apart; and an evaluation fails only on a duration or a sum that does not fit its type. -/
theorem pacing_run (hpolicy : validatePacingPolicy policy = .ok ()) (start : PacingState)
    (hmin : policy.minBidMicrorubles ≤ start.currentBidMicrorubles)
    (hmax : start.currentBidMicrorubles ≤ policy.maxBidMicrorubles) (readings : List PacingReading)
    (hlast : ∀ t ∈ start.lastBidChangeAt, ∀ reading ∈ readings, t ≤ reading.observedAt)
    (htimes : readings.Pairwise fun a b => a.observedAt ≤ b.observedAt) :
    (∀ observation ∈ observations policy start readings,
      (policy.minBidMicrorubles ≤ observation.currentBidMicrorubles ∧
        observation.currentBidMicrorubles ≤ policy.maxBidMicrorubles) ∧
      (∀ e, evaluateOzonBidPacing policy observation = .error e →
        e = .invalidPolicy ∧ maxDurationSeconds < policy.maxPositionAgeSeconds ∨
        e = .invalidObservation ∧
          2 ^ 64 ≤ observation.currentBidMicrorubles + policy.bidStepMicrorubles) ∧
      ∀ bid changed, evaluateOzonBidPacing policy observation = .ok (.changeBid bid changed) →
        bid = observation.currentBidMicrorubles ∧
        (policy.minBidMicrorubles ≤ changed ∧ changed ≤ policy.maxBidMicrorubles) ∧
        (changed ≠ bid ∧ changed ≤ bid + policy.bidStepMicrorubles ∧
          bid ≤ changed + policy.bidStepMicrorubles) ∧
        (changed < bid ↔ drrExceeded policy observation = true ∧
          spendCapReached policy observation = false) ∧
        (bid < changed → WorsePosition policy observation)) ∧
    (changeTimes policy (observations policy start readings)).Pairwise
      fun earlier later => earlier + seconds policy.cooldownSeconds ≤ later := by
  refine ⟨fun observation hmem => ?_, changeTimes_apart readings start⟩
  have ho := ordinary_of_mem hpolicy readings start hmin hmax hlast htimes observation hmem
  refine ⟨⟨ho.min_le, ho.le_max⟩, fun e he => evaluateOzonBidPacing_eq_error ho he,
    fun bid changed hchange => ?_⟩
  obtain ⟨hbid, hcap, _, hcause⟩ := changeBid_cases hchange
  obtain ⟨hmin', hmax', hmoves⟩ := changeBid_moves hchange
  refine ⟨hbid, ⟨hmin', hmax'⟩, ?_⟩
  obtain ⟨hdrr, _⟩ | ⟨hdrr, _, _, hworse⟩ := hcause
  · rw [if_pos hdrr] at hmoves
    refine ⟨by omega, ⟨fun _ => ⟨hdrr, hcap⟩, fun _ => hmoves.1⟩, fun hup => ?_⟩
    omega
  · rw [hdrr, if_neg Bool.false_ne_true] at hmoves
    refine ⟨by omega, ⟨fun hdown => ?_, fun hdown => ?_⟩, fun _ => hworse⟩
    · omega
    · rw [hdrr] at hdown
      cases hdown.1

/-- A position of 31 seen at the instant of the reading, `n` seconds after the start of a run. -/
def badPosition (n : ℤ) : PacingReading := ⟨seconds n, 10000, 100000, some ⟨seconds n, 31⟩⟩

/-- Two readings half an hour apart raise the bid twice. -/
theorem pacing_run_raises_twice :
    changeTimes rublePolicy (observations rublePolicy ⟨7000000, none⟩ [badPosition 0, badPosition 1800]) =
      [seconds 0, seconds 1800] ∧
    (changeTimes rublePolicy (observations rublePolicy ⟨7000000, none⟩
      [badPosition 0, badPosition 1800])).Pairwise
      fun earlier later => earlier + seconds rublePolicy.cooldownSeconds ≤ later := by
  have hvalid : validatePacingPolicy rublePolicy = .ok () := by decide
  refine ⟨by decide, ?_⟩
  exact (pacing_run hvalid ⟨7000000, none⟩ (by decide) (by decide)
    [badPosition 0, badPosition 1800] (by decide) (by decide)).2

/-- Accepted policies fail on a position age beyond every duration and on a step beyond every bid. -/
theorem pacing_fails_on_oversized_limits :
    let agePolicy := { rublePolicy with maxPositionAgeSeconds := 2 ^ 64 - 1 }
    let stepPolicy := { rublePolicy with bidStepMicrorubles := 18446744073709000000 }
    (validatePacingPolicy agePolicy = .ok () ∧
      ∃ observation ∈ observations agePolicy ⟨7000000, none⟩ [badPosition 0],
        evaluateOzonBidPacing agePolicy observation = .error .invalidPolicy) ∧
    validatePacingPolicy stepPolicy = .ok () ∧
      ∃ observation ∈ observations stepPolicy ⟨7000000, none⟩ [badPosition 0],
        evaluateOzonBidPacing stepPolicy observation = .error .invalidObservation := by
  intro agePolicy stepPolicy
  refine ⟨⟨by decide, _, List.mem_cons_self, by decide⟩, by decide, _, List.mem_cons_self, by decide⟩

end AdsControl.Ozon
