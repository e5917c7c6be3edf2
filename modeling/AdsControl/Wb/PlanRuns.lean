import AdsControl.Wb.PlanStore

/-!
# Runs of the plan store

Calls on the plan store are serialized; a claim that succeeds writes one action reservation.

* `Call`, `storeAfter`, `claims`: sequences of calls, and the successful claims among them;
* `Move`: what a call does to the store, with the claim it makes;
* **`move_of_apply`**: every call makes one move.
-/

namespace AdsControl.Wb.Plan

open Fallible Receiver SlidingWindow
open AdsControl.Wb.Launch (WbPreparedBidChange)

/-! ## Runs -/

/-- The calls on the store. -/
inductive Call
  | registerPolicy (revision : WbPolicyRevision)
  | reservePrepareAttempt (binding : WbPlanBinding) (reservationId : String) (clock : Clock)
  | create (binding : WbPlanBinding) (prepareReservationId : String) (requested : List WbBidChange)
      (changes : List WbPreparedBidChange) (before : WbCampaignBidSnapshot) (planId planDigest : String)
      (clock : Clock)
  | approve (planId approverId expectedPlanDigest reason approvalId : String) (clock : Clock)
  | claimForApply (request : WbApplyContext) (gates : WbRuntimeGates) (clock : Clock)
  | markStaleApplyingAmbiguous (planId actorId : String) (clock : Clock)
  | finish (planId actorId : String) (outcome : WbPlanFinish)
  | confirmReconciled (planId actorId : String) (readback : WbCampaignBidSnapshot)

/-- A call without its answer. -/
def done {α : Type} (body : Transaction α) : Method Store PlanStoreError Unit := fun s =>
  ((transaction body s).1.map fun _ => (), (transaction body s).2)

/-- What each call does. -/
def Call.apply : Call → Method Store PlanStoreError Unit
  | registerPolicy revision => done (Plan.registerPolicy revision)
  | reservePrepareAttempt binding reservationId clock =>
    done (Plan.reservePrepareAttempt binding reservationId clock)
  | create binding prepareReservationId requested changes before planId planDigest clock =>
    done (Plan.create binding prepareReservationId requested changes before planId planDigest clock)
  | approve planId approverId expectedPlanDigest reason approvalId clock =>
    done (Plan.approve planId approverId expectedPlanDigest reason approvalId clock)
  | claimForApply request gates clock => done (Plan.claimForApply request gates clock)
  | markStaleApplyingAmbiguous planId actorId clock =>
    done (Plan.markStaleApplyingAmbiguous planId actorId clock)
  | finish planId actorId outcome => done (Plan.finish planId actorId outcome)
  | confirmReconciled planId actorId readback => done (Plan.confirmReconciled planId actorId readback)

/-- The readings a call makes under the lock of the policy. -/
def Call.clock : Call → Option Clock
  | reservePrepareAttempt _ _ clock => some clock
  | create _ _ _ _ _ _ _ clock => some clock
  | approve _ _ _ _ _ clock => some clock
  | claimForApply _ _ clock => some clock
  | _ => none

/-- The database clock never runs backwards from one of these calls to the next. -/
def Serialized (calls : List Call) : Prop :=
  calls.Pairwise fun call next => ∀ x ∈ call.clock, ∀ y ∈ next.clock, x.transitionNow ≤ y.databaseNow

/-- A successful claim. -/
structure Claim where
  campaign : Campaign
  quota : WbActionQuota
  delta : ℕ
  claimedAt : ℤ

/-- The claim of a plan. -/
def WbControlPlan.claim (self : WbControlPlan) (claimedAt : ℤ) : Claim :=
  ⟨self.campaign, self.actionQuota, (self.changes.map absDelta).sum, claimedAt⟩

/-- The claim a call makes. -/
def Call.claim (s : Store) : Call → Option Claim
  | claimForApply request gates clock =>
    match (transaction (Plan.claimForApply request gates clock) s).1 with
    | .ok plan => some (plan.claim clock.securityNow)
    | .error _ => none
  | _ => none

/-- The store after a sequence of calls. -/
def storeAfter (calls : List Call) : Store := after Call.apply Store.empty calls

/-- The claims of a sequence of calls, in order. -/
def claims (s : Store) : List Call → List Claim
  | [] => []
  | call :: rest => (call.claim s).toList ++ claims (call.apply s).2 rest

theorem done_cases {α : Type} (body : Transaction α) (s : Store) :
    (done body s).2 = s ∨ ∃ r, body s = .ok ⟨(done body s).2, r⟩ := by
  rcases transaction_cases (show transaction body s = (_, (done body s).2) from rfl) with h | ⟨-, h⟩
  · exact .inr ⟨_, h⟩
  · exact .inl h

/-! ## Moves -/

/-- A later version of a plan: it keeps what it is bound to and does not wait again. -/
structure Advance (plan later : WbControlPlan) : Prop where
  binding : later.toWbPlanBinding = plan.toWbPlanBinding
  reservation : later.prepareReservationId = plan.prepareReservationId
  expiry : later.expiresAt = plan.expiresAt
  waiting : later.status = .prepared ∨ later.status = .approved →
    plan.status = .prepared ∨ plan.status = .approved

theorem Advance.refl (plan : WbControlPlan) : Advance plan plan := ⟨rfl, rfl, rfl, id⟩

/-- The reservation leaves the usage of its campaign within the quota. -/
def Admissible (reservation : WbActionReservation) (older : List WbActionReservation) : Prop :=
  Fits WbActionReservation.reservedAt (fun _ => 1) (·.quota.maxActionsPerHour) (hours 1) reservation older ∧
  Fits WbActionReservation.reservedAt (fun _ => 1) (·.quota.maxActionsPerDay) (hours 24) reservation older ∧
  Fits WbActionReservation.reservedAt WbActionReservation.cumulativeAbsDeltaKopecks
    (·.quota.maxCumulativeAbsDeltaKopecksPerDay) (hours 24) reservation older ∧
  ((recent WbActionReservation.reservedAt (reservation.reservedAt - hours 24) older).map
    WbActionReservation.reservedAt).max?.all
      (· + seconds reservation.quota.cooldownSeconds ≤ reservation.reservedAt)

/-- A reserved action as a claim on its quota. -/
def WbActionReservation.claim (self : WbActionReservation) : Claim :=
  ⟨self.campaign, self.quota, self.cumulativeAbsDeltaKopecks, self.reservedAt⟩

/-- What a call does to the store. -/
inductive Move (s : Store) : Option Clock → Option Claim → Store → Prop
  | unchanged {clock : Option Clock} : Move s clock none s
  | registered {clock : Option Clock} {revision : WbPolicyRevision} :
      Move s clock none { s with policyRevisions := revision :: s.policyRevisions }
  | reserved {clock : Clock} {reservation : WbPrepareReservation}
      (hroom : s.countOutstandingPrepares reservation.campaign clock.securityNow < 3) :
      Move s (some clock) none
        { s with prepareReservations := reservation :: s.prepareReservations }
  | created {clock : Clock} {plan : WbControlPlan} {reservation : WbPrepareReservation}
      (hmem : reservation ∈ s.prepareReservations)
      (hid : reservation.reservationId = plan.prepareReservationId)
      (hcampaign : reservation.campaign = plan.campaign)
      (hlive : clock.securityNow < reservation.expiresAt)
      (hfresh : ¬ s.isConsumed plan.prepareReservationId)
      (hquota : plan.actionQuota.validate = .ok ()) :
      Move s (some clock) none { s with plans := plan :: s.plans }
  | advanced {clock : Option Clock} {change : WbControlPlan → WbControlPlan}
      (h : ∀ plan, Advance plan (change plan)) :
      Move s clock none { s with plans := s.plans.map change }
  | claimed {clock : Clock} {change : WbControlPlan → WbControlPlan} {plan : WbControlPlan}
      {reservation : WbActionReservation} (h : ∀ plan, Advance plan (change plan)) (hmem : plan ∈ s.plans)
      (hquota : reservation.quota = plan.actionQuota)
      (hadmissible : Admissible reservation (s.actions reservation.campaign)) :
      Move s (some clock) (some reservation.claim)
        { s with
          plans := s.plans.map change
          actionReservations := reservation :: s.actionReservations }

section Moves

variable {s t : Store}

theorem updatePlan_ok {selects : WbControlPlan → Bool} {change : WbControlPlan → WbControlPlan}
    {e : PlanStoreError} (h : s.updatePlan selects change e = .ok t)
    (hchange : ∀ plan, selects plan → Advance plan (change plan)) :
    ∃ change, (∀ plan, Advance plan (change plan)) ∧ t = { s with plans := s.plans.map change } := by
  simp only [Store.updatePlan, ok_of_bind, ok_of_pure] at h
  obtain ⟨-, -, rfl⟩ := h
  refine ⟨_, fun plan => ?_, rfl⟩
  split
  · exact hchange plan ‹_›
  · exact .refl plan

theorem advance_of_ended {plan later : WbControlPlan}
    (hbinding : later.toWbPlanBinding = plan.toWbPlanBinding)
    (hreservation : later.prepareReservationId = plan.prepareReservationId)
    (hexpiry : later.expiresAt = plan.expiresAt)
    (hended : ¬ (later.status = .prepared ∨ later.status = .approved)) : Advance plan later :=
  ⟨hbinding, hreservation, hexpiry, fun hwaiting => absurd hwaiting hended⟩

theorem updatePlan_move {selects : WbControlPlan → Bool} {change : WbControlPlan → WbControlPlan}
    {e : PlanStoreError} {clock : Option Clock} (h : s.updatePlan selects change e = .ok t)
    (hchange : ∀ plan, selects plan → Advance plan (change plan)) : Move s clock none t := by
  obtain ⟨change, hchange, rfl⟩ := updatePlan_ok h hchange
  exact .advanced hchange

theorem expirePlan_move {planId : String} {clock : Option Clock} (h : s.expirePlan planId = .ok t) :
    Move s clock none t :=
  updatePlan_move h fun _ _ => advance_of_ended rfl rfl rfl (by simp)

theorem expireWith_ok {planId : String} {e : PlanStoreError} {r : Except PlanStoreError WbControlPlan}
    (h : expireWith s planId e = .ok ⟨t, r⟩) : s.expirePlan planId = .ok t ∧ r = .error e := by
  simp only [expireWith, ok_of_bind, ok_of_pure] at h
  obtain ⟨_, hexpire, h⟩ := h
  cases h
  exact ⟨hexpire, rfl⟩

theorem registerPolicy_move {revision : WbPolicyRevision} {r : Except PlanStoreError Unit}
    (h : registerPolicy revision s = .ok ⟨t, r⟩) : Move s none none t := by
  simp only [registerPolicy, ok_of_bind] at h
  obtain ⟨-, -, -, -, -, -, -, -, h⟩ := h
  split at h
  · cases h
    exact .unchanged
  · simp only [ok_of_bind, ok_of_pure] at h
    obtain ⟨-, -, h⟩ := h
    cases h
    exact .registered

theorem reservePrepareAttempt_move {binding : WbPlanBinding} {reservationId : String} {clock : Clock}
    {r : Except PlanStoreError WbPrepareReservation}
    (h : reservePrepareAttempt binding reservationId clock s = .ok ⟨t, r⟩) :
    Move s (some clock) none t := by
  simp only [reservePrepareAttempt, validateWbPrepareReservationInsert, Store.checkPrepareLimits,
    ok_of_bind, ensure_eq_ok, ok_of_pure] at h
  obtain ⟨-, -, -, -, -, -, -, -, -, ⟨-, -, -, -, hlimits⟩, -, -, h⟩ := h
  cases h
  exact .reserved hlimits.2.2

theorem create_move {binding : WbPlanBinding} {prepareReservationId planId planDigest : String}
    {requested : List WbBidChange} {changes : List WbPreparedBidChange} {before : WbCampaignBidSnapshot}
    {clock : Clock} {r : Except PlanStoreError WbControlPlan}
    (h : create binding prepareReservationId requested changes before planId planDigest clock s =
      .ok ⟨t, r⟩) : Move s (some clock) none t := by
  simp only [create, WbPlanBinding.validate, validateWbPlanInsert, ok_of_bind, ensure_eq_ok,
    context_eq_ok, ok_of_pure] at h
  obtain ⟨-, ⟨-, -, -, -, -, -, _, hquota, -⟩, -, -, -, -, -, -, -, -, -, -, reservation, hfind, -, hbinding, -, -, -,
    -, -, -, -, -, -, ⟨-, -, other, hother, -, -, -, ⟨hlive, hfresh⟩, -⟩, -, -, h⟩ := h
  cases h
  obtain rfl : reservation = other := Option.some.inj (hfind.symm.trans hother)
  refine .created (List.mem_of_find?_eq_some hfind) ?_ ?_ hlive hfresh hquota
  · show reservation.reservationId = prepareReservationId
    simpa using List.find?_some hfind
  · rw [WbPlanBinding.campaign, hbinding]
    rfl

theorem approve_move {planId approverId expectedPlanDigest reason approvalId : String} {clock : Clock}
    {r : Except PlanStoreError WbControlPlan}
    (h : approve planId approverId expectedPlanDigest reason approvalId clock s = .ok ⟨t, r⟩) :
    Move s (some clock) none t := by
  simp only [approve, ok_of_bind] at h
  obtain ⟨-, -, -, -, -, -, -, -, plan, -, -, -, -, -, -, -, h⟩ := h
  split at h
  · exact expirePlan_move (expireWith_ok h).1
  split at h
  · rw [ok_of_bind] at h
    obtain ⟨approval, -, h⟩ := h
    unfold approveAgain at h
    split at h
    · exact expirePlan_move (expireWith_ok h).1
    · simp only [ok_of_bind, ok_of_pure] at h
      obtain ⟨-, -, h⟩ := h
      cases h
      exact .unchanged
  · simp only [storeApproval, ok_of_bind, ok_of_pure] at h
    obtain ⟨-, -, -, -, _, ⟨-, -, -, -, -, -, hupdate⟩, h⟩ := h
    cases h
    refine updatePlan_move hupdate fun other hselected => ⟨rfl, rfl, rfl, fun _ => ?_⟩
    exact .inl (of_decide_eq_true hselected).2

theorem admissible_of_usage {reservation : WbActionReservation}
    (hhour : (s.quotaUsage reservation.campaign reservation.reservedAt).actionsHour <
      reservation.quota.maxActionsPerHour)
    (hday : (s.quotaUsage reservation.campaign reservation.reservedAt).actionsDay <
      reservation.quota.maxActionsPerDay)
    (hdelta : (s.quotaUsage reservation.campaign reservation.reservedAt).deltaDay +
      reservation.cumulativeAbsDeltaKopecks ≤ reservation.quota.maxCumulativeAbsDeltaKopecksPerDay)
    (hlast : (s.quotaUsage reservation.campaign reservation.reservedAt).last.all
      (· + seconds reservation.quota.cooldownSeconds ≤ reservation.reservedAt)) :
    Admissible reservation (s.actions reservation.campaign) := by
  have hle : reservation.reservedAt - hours 24 ≤ reservation.reservedAt - hours 1 :=
    sub_le_sub_left (by decide) _
  refine ⟨?_, ?_, hdelta, hlast⟩
  · show total _ _ + 1 ≤ _
    rw [total_one, ← recent_recent hle]
    exact hhour
  · show total _ _ + 1 ≤ _
    rw [total_one]
    exact hday

/-- **A reservation is admissible among the earlier ones of its campaign.** -/
theorem reserveActionQuota_ok {plan : WbControlPlan} {gates : WbRuntimeGates} {clock : Clock}
    (h : reserveActionQuota s plan gates clock = .ok t) :
    ∃ reservation : WbActionReservation, reservation.claim = plan.claim clock.securityNow ∧
      Admissible reservation (s.actions reservation.campaign) ∧
      t = { s with actionReservations := reservation :: s.actionReservations } := by
  simp only [reserveActionQuota, validateWbReservationInsert, ok_of_bind, ensure_eq_ok, ok_of_pure] at h
  obtain ⟨-, -, -, -, -, -, -, -, reservation, ⟨-, -, -, -, -, -, -, -, -, -, -, ⟨-, hhour, hday, hdelta, hlast⟩,
    hrow⟩, -, -, rfl⟩ := h
  refine ⟨reservation, ?_, ?_, rfl⟩
  · rw [← hrow]
    rfl
  · subst hrow
    exact admissible_of_usage hhour hday hdelta hlast

theorem startApply_ok {plan : WbControlPlan} {gates : WbRuntimeGates} {transitionNow : ℤ}
    (h : startApply s plan gates transitionNow = .ok t) :
    ∃ change, (∀ plan, Advance plan (change plan)) ∧ t = { s with plans := s.plans.map change } := by
  simp only [startApply, ok_of_bind] at h
  obtain ⟨-, -, -, -, hupdate⟩ := h
  exact updatePlan_ok hupdate fun _ _ => advance_of_ended rfl rfl rfl (by simp)

/-- What a claim commits: the reservation of a plan, or the expiry of one. -/
theorem claimForApply_cases {request : WbApplyContext} {gates : WbRuntimeGates} {clock : Clock}
    {r : Except PlanStoreError WbControlPlan} (h : claimForApply request gates clock s = .ok ⟨t, r⟩) :
    (∃ plan ∈ s.plans, plan.planId = request.planId ∧ s.expirePlan request.planId = .ok t ∧
      ((r = .error .expired ∧ plan.expiresAt ≤ clock.databaseNow) ∨
        r = .error .approvalExpired ∧ plan.approval.any (·.expiresAt ≤ clock.databaseNow))) ∨
    ∃ plan ∈ s.plans, ∃ claimed, r = .ok claimed ∧ claimed.claim = plan.claim ∧
      ∃ reserved, reserveActionQuota s plan gates clock = .ok reserved ∧
        startApply reserved plan gates clock.transitionNow = .ok t := by
  simp only [claimForApply, ok_of_bind, context_eq_ok] at h
  obtain ⟨-, -, -, -, -, -, -, -, plan, hfind, -, -, -, -, -, -, -, -, approval, happroval, -, -, h⟩ := h
  have hmem := List.mem_of_find?_eq_some hfind
  have hid : plan.planId = request.planId := by
    have hselected := List.find?_some hfind
    exact (of_decide_eq_true hselected).1
  split at h
  · obtain ⟨hexpire, rfl⟩ := expireWith_ok h
    exact .inl ⟨plan, hmem, hid, hexpire, .inl ⟨rfl, ‹_›⟩⟩
  split at h
  · obtain ⟨hexpire, rfl⟩ := expireWith_ok h
    refine .inl ⟨plan, hmem, hid, hexpire, .inr ⟨rfl, ?_⟩⟩
    rw [happroval]
    exact decide_eq_true ‹_›
  · simp only [ok_of_bind, ok_of_pure] at h
    obtain ⟨-, -, -, -, reserved, hreserved, _, hstart, h⟩ := h
    cases h
    exact .inr ⟨plan, hmem, _, rfl, rfl, reserved, hreserved, hstart⟩

theorem markStaleApplyingAmbiguous_move {planId actorId : String} {clock : Clock}
    {r : Except PlanStoreError Unit}
    (h : markStaleApplyingAmbiguous planId actorId clock s = .ok ⟨t, r⟩) : Move s none none t := by
  simp only [markStaleApplyingAmbiguous, ok_of_bind] at h
  obtain ⟨-, -, plan, -, h⟩ := h
  split at h
  · cases h
    exact .unchanged
  · simp only [ok_of_bind, ok_of_pure] at h
    obtain ⟨-, -, -, -, -, -, -, -, _, hupdate, h⟩ := h
    cases h
    exact updatePlan_move hupdate fun _ _ => advance_of_ended rfl rfl rfl (by simp)

theorem finish_move {planId actorId : String} {outcome : WbPlanFinish} {r : Except PlanStoreError Unit}
    (h : finish planId actorId outcome s = .ok ⟨t, r⟩) : Move s none none t := by
  simp only [finish, ok_of_bind, ensure_eq_ok, ok_of_pure] at h
  obtain ⟨-, hstatus, -, -, -, -, -, -, -, -, -, -, _, hupdate, h⟩ := h
  cases h
  have hended : ¬ (outcome.status = .prepared ∨ outcome.status = .approved) := by
    rcases hstatus with h | h | h | h | h <;> simp [h]
  exact updatePlan_move hupdate fun _ _ => advance_of_ended rfl rfl rfl hended

theorem confirmReconciled_move {planId actorId : String} {readback : WbCampaignBidSnapshot}
    {r : Except PlanStoreError Unit} (h : confirmReconciled planId actorId readback s = .ok ⟨t, r⟩) :
    Move s none none t := by
  simp only [confirmReconciled, ok_of_bind] at h
  obtain ⟨plan, -, h⟩ := h
  split at h
  · cases h
    exact .unchanged
  · simp only [ok_of_bind, ok_of_pure] at h
    obtain ⟨-, -, -, -, -, -, _, hupdate, h⟩ := h
    cases h
    exact updatePlan_move hupdate fun _ _ => advance_of_ended rfl rfl rfl (by simp)

theorem move_of_done {α : Type} {body : Transaction α} {clock : Option Clock}
    (h : ∀ t r, body s = .ok ⟨t, r⟩ → Move s clock none t) : Move s clock none (done body s).2 := by
  rcases done_cases body s with hsame | ⟨r, hbody⟩
  · rw [hsame]
    exact .unchanged
  · exact h _ _ hbody

theorem claimForApply_move (request : WbApplyContext) (gates : WbRuntimeGates) (clock : Clock) :
    Move s (some clock) (Call.claim s (.claimForApply request gates clock))
      (Call.apply (.claimForApply request gates clock) s).2 := by
  show Move s (some clock) (match (transaction (claimForApply request gates clock) s).1 with
    | .ok plan => some (plan.claim clock.securityNow)
    | .error _ => none) (transaction (claimForApply request gates clock) s).2
  obtain ⟨r, t, hrun⟩ : ∃ r t, transaction (claimForApply request gates clock) s = (r, t) := ⟨_, _, rfl⟩
  rw [hrun]
  rcases transaction_cases hrun with hbody | ⟨⟨e, rfl⟩, rfl⟩
  · rcases claimForApply_cases hbody with ⟨plan, -, -, hexpire, hr⟩ |
      ⟨plan, hmem, claimed, rfl, hclaim, reserved, hreserve, hstart⟩
    · rcases hr with ⟨rfl, -⟩ | ⟨rfl, -⟩ <;> exact expirePlan_move hexpire
    · obtain ⟨reservation, hreservation, hadmissible, rfl⟩ := reserveActionQuota_ok hreserve
      obtain ⟨change, hchange, rfl⟩ := startApply_ok hstart
      show Move s (some clock) (some (claimed.claim clock.securityNow)) _
      rw [hclaim, ← hreservation]
      exact .claimed hchange hmem (congrArg Claim.quota hreservation) hadmissible
  · exact .unchanged

/-- **Every call makes one move.** -/
theorem move_of_apply (call : Call) : Move s call.clock (call.claim s) (call.apply s).2 := by
  cases call with
  | registerPolicy => exact move_of_done fun _ _ => registerPolicy_move
  | reservePrepareAttempt => exact move_of_done fun _ _ => reservePrepareAttempt_move
  | create => exact move_of_done fun _ _ => create_move
  | approve => exact move_of_done fun _ _ => approve_move
  | claimForApply request gates clock => exact claimForApply_move request gates clock
  | markStaleApplyingAmbiguous => exact move_of_done fun _ _ => markStaleApplyingAmbiguous_move
  | finish => exact move_of_done fun _ _ => finish_move
  | confirmReconciled => exact move_of_done fun _ _ => confirmReconciled_move

end Moves

end AdsControl.Wb.Plan
