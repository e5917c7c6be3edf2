import AdsControl.Wb.PlanRuns

/-!
# The rolling quota of a campaign

The quota is checked when a plan is claimed, against the reservations of the last hour and the last
day. A reservation to prepare becomes one plan; both count as outstanding while they last.

* `Sound`: every action reservation was admissible when it was made;
* `Move.outstanding`: a plan takes the place of its reservation;
* **`action_quota_law`**: every sliding window of claims stays within the quota, claims keep their
  cooldown, at most three attempts to prepare are outstanding, and a refused claim at most expires
  its plan.
-/

namespace AdsControl.Wb.Plan

open Fallible Receiver SlidingWindow

/-! ## Outstanding attempts -/

section Outstanding

variable {s t : Store} {campaign : Campaign}

theorem countP_succ_le {α : Type} {p q : α → Bool} {l : List α} {a : α} (ha : a ∈ l)
    (hpq : ∀ b, p b → q b) (hp : ¬ p a) (hq : q a) : l.countP p + 1 ≤ l.countP q := by
  obtain ⟨front, back, rfl⟩ := List.append_of_mem ha
  have hfront : front.countP p ≤ front.countP q := List.countP_mono_left fun b _ => hpq b
  have hback : back.countP p ≤ back.countP q := List.countP_mono_left fun b _ => hpq b
  rw [List.countP_append, List.countP_append, List.countP_cons_of_neg hp, List.countP_cons_of_pos hq]
  omega

theorem countOutstandingPrepares_antitone {now later : ℤ} (h : now ≤ later) :
    s.countOutstandingPrepares campaign later ≤ s.countOutstandingPrepares campaign now := by
  refine Nat.add_le_add (List.countP_mono_left fun plan _ hplan => ?_)
    (List.countP_mono_left fun reservation _ hreservation => ?_)
  · simp only [WbControlPlan.isOutstanding, decide_eq_true_eq] at hplan ⊢
    exact ⟨hplan.1, hplan.2.1, h.trans_lt hplan.2.2⟩
  · simp only [Store.isPending, Bool.and_eq_true, decide_eq_true_eq] at hreservation ⊢
    exact ⟨⟨hreservation.1.1, h.trans_lt hreservation.1.2⟩, hreservation.2⟩

theorem countOutstandingPrepares_map {change : WbControlPlan → WbControlPlan}
    (hchange : ∀ plan, Advance plan (change plan)) {now : ℤ} :
    Store.countOutstandingPrepares { s with plans := s.plans.map change } campaign now ≤
      s.countOutstandingPrepares campaign now := by
  have hconsumed : ∀ id, Store.isConsumed { s with plans := s.plans.map change } id = s.isConsumed id := by
    intro id
    simp only [Store.isConsumed, List.any_map]
    exact congrArg _ (funext fun plan => by simp only [Function.comp_apply, (hchange plan).reservation])
  refine Nat.add_le_add ?_ (List.countP_mono_left fun reservation _ hreservation => ?_)
  · rw [List.countP_map]
    refine List.countP_mono_left fun plan _ hplan => ?_
    have hadvance := hchange plan
    simp only [Function.comp_apply, WbControlPlan.isOutstanding, decide_eq_true_eq] at hplan ⊢
    refine ⟨?_, hadvance.waiting hplan.2.1, hadvance.expiry ▸ hplan.2.2⟩
    rw [← hplan.1, hadvance.binding]
  · simpa only [Store.isPending, hconsumed] using hreservation

theorem countOutstandingPrepares_reserve {reservation : WbPrepareReservation} {now : ℤ} :
    Store.countOutstandingPrepares
        { s with prepareReservations := reservation :: s.prepareReservations } campaign now ≤
      s.countOutstandingPrepares campaign now + if reservation.campaign = campaign then 1 else 0 := by
  show s.plans.countP _ + List.countP (s.isPending campaign now) (reservation :: s.prepareReservations) ≤ _
  rw [List.countP_cons]
  unfold Store.countOutstandingPrepares
  by_cases hcampaign : reservation.campaign = campaign
  · rw [if_pos hcampaign]
    split <;> omega
  · have hother : s.isPending campaign now reservation = false := by simp [Store.isPending, hcampaign]
    rw [if_neg hcampaign, hother]
    exact le_rfl

/-- **A plan takes the place of its reservation.** -/
theorem countOutstandingPrepares_create {plan : WbControlPlan} {reservation : WbPrepareReservation}
    {now : ℤ} (hmem : reservation ∈ s.prepareReservations)
    (hid : reservation.reservationId = plan.prepareReservationId)
    (hcampaign : reservation.campaign = plan.campaign) (hlive : now < reservation.expiresAt)
    (hfresh : ¬ s.isConsumed plan.prepareReservationId) :
    Store.countOutstandingPrepares { s with plans := plan :: s.plans } campaign now ≤
      s.countOutstandingPrepares campaign now := by
  have hmono : ∀ other, Store.isPending { s with plans := plan :: s.plans } campaign now other →
      s.isPending campaign now other := by
    intro other hother
    simp only [Store.isPending, Store.isConsumed, List.any_cons, Bool.not_or, Bool.and_eq_true] at hother ⊢
    exact ⟨hother.1, hother.2.2⟩
  show List.countP (·.isOutstanding campaign now) (plan :: s.plans) +
    s.prepareReservations.countP (Store.isPending { s with plans := plan :: s.plans } campaign now) ≤ _
  unfold Store.countOutstandingPrepares
  by_cases hplan : plan.isOutstanding campaign now
  · have hsame : plan.campaign = campaign := (of_decide_eq_true hplan).1
    have hspent : ¬ Store.isPending { s with plans := plan :: s.plans } campaign now reservation := by
      simp [Store.isPending, Store.isConsumed, hid]
    have hpending : s.isPending campaign now reservation := by
      simp only [Store.isPending, hid, Bool.and_eq_true, decide_eq_true_eq, Bool.not_eq_true']
      exact ⟨⟨hcampaign.trans hsame, hlive⟩, by simpa using hfresh⟩
    have htraded := countP_succ_le hmem hmono hspent hpending
    rw [List.countP_cons, if_pos hplan]
    omega
  · rw [List.countP_cons, if_neg hplan]
    exact Nat.add_le_add_left (List.countP_mono_left fun other _ => hmono other) _

/-- At most three attempts stay outstanding after a move. -/
theorem Move.outstanding {clock : Option Clock} {claim : Option Claim} {now : ℤ}
    (h : Move s clock claim t) (hnow : ∀ x ∈ clock, x.securityNow ≤ now)
    (hreading : ∀ x ∈ clock, s.countOutstandingPrepares campaign x.securityNow ≤ 3)
    (hs : s.countOutstandingPrepares campaign now ≤ 3) :
    t.countOutstandingPrepares campaign now ≤ 3 := by
  cases h with
  | unchanged => exact hs
  | registered => exact hs
  | @reserved clock reservation hroom =>
    have hlater : s.countOutstandingPrepares campaign now ≤
        s.countOutstandingPrepares campaign clock.securityNow :=
      countOutstandingPrepares_antitone (hnow clock rfl)
    refine countOutstandingPrepares_reserve.trans ?_
    by_cases hcampaign : reservation.campaign = campaign
    · rw [if_pos hcampaign]
      rw [hcampaign] at hroom
      omega
    · rw [if_neg hcampaign]
      exact hs
  | @created clock plan reservation hmem hid hcampaign hlive hfresh _ =>
    calc Store.countOutstandingPrepares { s with plans := plan :: s.plans } campaign now
        ≤ Store.countOutstandingPrepares { s with plans := plan :: s.plans } campaign clock.securityNow :=
          countOutstandingPrepares_antitone (hnow clock rfl)
      _ ≤ s.countOutstandingPrepares campaign clock.securityNow :=
          countOutstandingPrepares_create hmem hid hcampaign hlive hfresh
      _ ≤ 3 := hreading clock rfl
  | advanced hchange => exact (countOutstandingPrepares_map hchange).trans hs
  | claimed hchange _ _ _ => exact (countOutstandingPrepares_map hchange).trans hs

end Outstanding

/-! ## The log of claims -/

section Log

variable {s t : Store}

/-- Quotas are valid, and every reservation was admissible when it was made. -/
structure Sound (s : Store) : Prop where
  plans : ∀ plan ∈ s.plans, plan.actionQuota.validate = .ok ()
  quotas : ∀ reservation ∈ s.actionReservations, reservation.quota.validate = .ok ()
  logged : ∀ campaign, Logged Admissible (s.actions campaign)

theorem Sound.map_plans (hs : Sound s) {change : WbControlPlan → WbControlPlan}
    (hchange : ∀ plan, Advance plan (change plan)) :
    ∀ plan ∈ s.plans.map change, plan.actionQuota.validate = .ok () := by
  intro plan hplan
  obtain ⟨old, hold, rfl⟩ := List.mem_map.mp hplan
  rw [(hchange old).binding]
  exact hs.plans old hold

/-- **Every move keeps the store sound.** -/
theorem Move.sound {clock : Option Clock} {claim : Option Claim} (h : Move s clock claim t)
    (hs : Sound s) : Sound t := by
  cases h with
  | unchanged => exact hs
  | registered => exact ⟨hs.plans, hs.quotas, hs.logged⟩
  | reserved => exact ⟨hs.plans, hs.quotas, hs.logged⟩
  | created _ _ _ _ _ hquota => exact ⟨List.forall_mem_cons.mpr ⟨hquota, hs.plans⟩, hs.quotas, hs.logged⟩
  | advanced hchange => exact ⟨hs.map_plans hchange, hs.quotas, hs.logged⟩
  | @claimed _ _ plan reservation hchange hmem hquota hadmissible =>
    refine ⟨hs.map_plans hchange, List.forall_mem_cons.mpr ⟨?_, hs.quotas⟩, fun campaign => ?_⟩
    · rw [hquota]
      exact hs.plans plan hmem
    · show Logged Admissible (List.filter _ (reservation :: s.actionReservations))
      rw [List.filter_cons]
      split
      · rename_i hcampaign
        rw [← of_decide_eq_true hcampaign]
        exact ⟨hadmissible, hs.logged _⟩
      · exact hs.logged campaign

theorem storeAfter_sound (calls : List Call) : Sound (storeAfter calls) := by
  induction calls using List.reverseRecOn with
  | nil => exact ⟨fun _ h => (nomatch h), fun _ h => (nomatch h), fun _ => trivial⟩
  | append_singleton calls call ih =>
    rw [storeAfter, after_snoc]
    exact (move_of_apply call).sound ih

theorem Move.log {clock : Option Clock} {claim : Option Claim} (h : Move s clock claim t) :
    t.actionReservations.map WbActionReservation.claim =
      claim.toList ++ s.actionReservations.map WbActionReservation.claim := by
  cases h <;> rfl

/-- **The reservations are the claims**, newest first. -/
theorem reservations_eq_claims (calls : List Call) (s : Store) :
    (after Call.apply s calls).actionReservations.map WbActionReservation.claim =
      (claims s calls).reverse ++ s.actionReservations.map WbActionReservation.claim := by
  induction calls generalizing s with
  | nil => rfl
  | cons call rest ih =>
    have hrest := ih (call.apply s).2
    rw [(move_of_apply call).log, ← List.append_assoc] at hrest
    have hsingle : (call.claim s).toList.reverse = (call.claim s).toList := by
      cases call.claim s <;> rfl
    show (after Call.apply (call.apply s).2 rest).actionReservations.map _ = _
    rw [hrest, claims, List.reverse_append, hsingle]

/-- The claims of a campaign, in order. -/
def campaignClaims (campaign : Campaign) (calls : List Call) : List Claim :=
  (claims Store.empty calls).filter (·.campaign = campaign)

theorem campaignClaims_eq (campaign : Campaign) (calls : List Call) :
    campaignClaims campaign calls =
      (((storeAfter calls).actions campaign).map WbActionReservation.claim).reverse := by
  have hlog := reservations_eq_claims calls Store.empty
  rw [show Store.empty.actionReservations = [] from rfl, List.map_nil, List.append_nil] at hlog
  have hclaims : claims Store.empty calls =
      ((storeAfter calls).actionReservations.map WbActionReservation.claim).reverse := by
    rw [storeAfter, hlog, List.reverse_reverse]
  rw [campaignClaims, hclaims, List.filter_reverse, List.filter_map]
  rfl

/-- The claims of a campaign, in order, keep a quota. -/
structure Keeps (quota : WbActionQuota) (log : List Claim) : Prop where
  hour : ∀ t, (window Claim.claimedAt (hours 1) t log).length ≤ quota.maxActionsPerHour
  day : ∀ t, (window Claim.claimedAt (hours 24) t log).length ≤ quota.maxActionsPerDay
  delta : ∀ t, total Claim.delta (window Claim.claimedAt (hours 24) t log) ≤
    quota.maxCumulativeAbsDeltaKopecksPerDay
  cooldown : log.Pairwise fun earlier later =>
    earlier.claimedAt + seconds quota.cooldownSeconds ≤ later.claimedAt

theorem total_claims_le {weight limit : WbActionReservation → ℕ} {claimWeight : Claim → ℕ} {width : ℤ}
    {bound : ℕ} {log : List WbActionReservation}
    (hlog : Logged (Fits WbActionReservation.reservedAt weight limit width) log)
    (hweight : claimWeight ∘ WbActionReservation.claim = weight) (hbound : ∀ r ∈ log, limit r = bound)
    (t : ℤ) :
    total claimWeight
      (window Claim.claimedAt width t (log.map WbActionReservation.claim).reverse) ≤ bound := by
  rw [total_window_reverse, total_window_map, hweight]
  exact total_window_le hlog (fun r hr => (hbound r hr).le) t

/-- **Claims under one quota keep it.** -/
theorem Sound.keeps (hs : Sound s) {campaign : Campaign} {quota : WbActionQuota}
    (hquota : ∀ reservation ∈ s.actions campaign, reservation.quota = quota) :
    Keeps quota ((s.actions campaign).map WbActionReservation.claim).reverse := by
  have hlog := hs.logged campaign
  have hbound : ∀ {β : Type} (f : WbActionQuota → β), ∀ reservation ∈ s.actions campaign,
      f reservation.quota = f quota := fun f reservation hr => congrArg f (hquota reservation hr)
  refine ⟨fun t => ?_, fun t => ?_, fun t => ?_, ?_⟩
  · rw [← total_one]
    exact total_claims_le (hlog.mono fun _ _ _ h => h.1) rfl (hbound WbActionQuota.maxActionsPerHour) t
  · rw [← total_one]
    exact total_claims_le (hlog.mono fun _ _ _ h => h.2.1) rfl (hbound WbActionQuota.maxActionsPerDay) t
  · exact total_claims_le (hlog.mono fun _ _ _ h => h.2.2.1) rfl
      (hbound WbActionQuota.maxCumulativeAbsDeltaKopecksPerDay) t
  · rw [List.pairwise_reverse, List.pairwise_map]
    refine (hlog.mono fun reservation hr older h => ?_).pairwise
    have hvalid := hs.quotas reservation (List.mem_filter.mp hr).1
    rw [hquota reservation hr, WbActionQuota.validate, ensure_eq_ok] at hvalid
    have hcooldown : seconds quota.cooldownSeconds ≤ hours 24 := by
      have := hvalid.2.2.2.2.2.1
      simp only [seconds, hours]
      omega
    have hlast := h.2.2.2
    rw [hquota reservation hr] at hlast
    exact gap_of_last hcooldown hlast

end Log

/-! ## The law -/

/-- After serialized calls at most three attempts are outstanding, now and later. -/
theorem outstanding_le_three {calls : List Call} (hclock : Serialized calls) (campaign : Campaign) {now : ℤ}
    (hnow : ∀ call ∈ calls, ∀ x ∈ call.clock, x.transitionNow ≤ now) :
    (storeAfter calls).countOutstandingPrepares campaign now ≤ 3 := by
  induction calls using List.reverseRecOn generalizing now with
  | nil => exact Nat.zero_le 3
  | append_singleton calls call ih =>
    have hsplit := List.pairwise_append.mp hclock
    have hlast := List.forall_mem_append.mp hnow
    have hlater : ∀ x ∈ call.clock, x.securityNow ≤ now := fun x hx =>
      x.transition_le.trans (hlast.2 call List.mem_cons_self x hx)
    have hreading : ∀ x ∈ call.clock,
        (storeAfter calls).countOutstandingPrepares campaign x.securityNow ≤ 3 := by
      intro x hx
      refine ih hsplit.1 fun earlier hearlier y hy => ?_
      have hbefore := hsplit.2.2 earlier hearlier call List.mem_cons_self y hy x hx
      exact hbefore.trans (x.gates_le.trans x.security_le)
    rw [storeAfter, after_snoc]
    exact (move_of_apply call).outstanding hlater hreading (ih hsplit.1 hlast.1)

/-- A claim that fails leaves the store, or marks its plan as expired. -/
theorem refused_claim {s t : Store} {request : WbApplyContext} {gates : WbRuntimeGates} {clock : Clock}
    {e : PlanStoreError} (h : transaction (claimForApply request gates clock) s = (.error e, t)) :
    t = s ∨ ∃ plan ∈ s.plans, plan.planId = request.planId ∧ s.expirePlan request.planId = .ok t ∧
      ((e = .expired ∧ plan.expiresAt ≤ clock.databaseNow) ∨
        e = .approvalExpired ∧ plan.approval.any (·.expiresAt ≤ clock.databaseNow)) := by
  rcases transaction_cases h with hbody | ⟨-, hsame⟩
  · rcases claimForApply_cases hbody with ⟨plan, hmem, hid, hexpire, hr⟩ | ⟨_, _, _, hr, _⟩
    · refine .inr ⟨plan, hmem, hid, hexpire, ?_⟩
      simpa only [Except.error.injEq] using hr
    · cases hr
  · exact .inl hsame

/-- **The action quota.** The claims of a campaign under one quota keep it in every window, at most
three attempts to prepare are outstanding, and a refused claim changes nothing but the status of a
plan that has expired. -/
theorem action_quota_law {calls : List Call} (hclock : Serialized calls) (campaign : Campaign) :
    (∀ quota, (∀ claim ∈ campaignClaims campaign calls, claim.quota = quota) →
      Keeps quota (campaignClaims campaign calls)) ∧
    (∀ now, (∀ call ∈ calls, ∀ x ∈ call.clock, x.transitionNow ≤ now) →
      (storeAfter calls).countOutstandingPrepares campaign now ≤ 3) ∧
    ∀ request gates clock e t,
      transaction (claimForApply request gates clock) (storeAfter calls) = (.error e, t) →
        t = storeAfter calls ∨ ∃ plan ∈ (storeAfter calls).plans, plan.planId = request.planId ∧
          (storeAfter calls).expirePlan request.planId = .ok t ∧
          ((e = .expired ∧ plan.expiresAt ≤ clock.databaseNow) ∨
            e = .approvalExpired ∧ plan.approval.any (·.expiresAt ≤ clock.databaseNow)) := by
  refine ⟨fun quota hquota => ?_, fun now hnow => outstanding_le_three hclock campaign hnow,
    fun request gates clock e t h => refused_claim h⟩
  rw [campaignClaims_eq] at hquota ⊢
  refine (storeAfter_sound calls).keeps fun reservation hr => ?_
  exact hquota reservation.claim (List.mem_reverse.mpr (List.mem_map_of_mem hr))

/-- All readings of a transaction show the same instant. -/
def Clock.still (now : ℤ) : Clock := ⟨now, now, now, now, le_rfl, le_rfl, le_rfl⟩

/-- A digest of one repeated digit. -/
def digestOf (digit : Char) : String := String.ofList (List.replicate 64 digit)

/-- The first revision. -/
def policyOne : WbPolicyRevision := ⟨1, 1, digestOf 'a'⟩

/-- A campaign. -/
def campaignSeven : Campaign := ⟨"main", 7⟩

/-- Two actions an hour, one a minute. -/
def twoAnHour : WbActionQuota := ⟨2, 4, 60, 100⟩

/-- A plan for it, at most two actions an hour. -/
def bindingSeven : WbPlanBinding := ⟨"planner", "main", 7, 1, 1, digestOf 'a', twoAnHour⟩

/-- A plan that raises one bid by ten, prepared and approved at `now`. -/
def prepareAt (digit : Char) (now : ℤ) : List Call :=
  [.reservePrepareAttempt bindingSeven (digestOf digit) (.still now),
    .create bindingSeven (digestOf digit) [⟨5, .combined, 110⟩] [⟨5, .combined, 100, 110⟩]
      ⟨"11111111-1111-1111-1111-111111111111", 7, 9, "unified", "cpm", [⟨5, .combined, 100⟩]⟩
      (digestOf digit) (digestOf digit) (.still now),
    .approve (digestOf digit) "approver" (digestOf digit) "ticket" (digestOf digit) (.still now)]

/-- Every gate is open for an hour. -/
def openGates : WbRuntimeGates := fun _ => some ⟨true, hours 1, none⟩

/-- The request to apply a plan. -/
def requestFor (digit : Char) : WbApplyContext :=
  ⟨digestOf digit, "planner", digestOf digit, 1, 1, digestOf 'a'⟩

/-- Two plans, each claimed a minute after its approval; the first write is rejected. -/
def twoClaims : List Call :=
  .registerPolicy policyOne :: prepareAt 'b' 0 ++
    [.claimForApply (requestFor 'b') openGates (.still (minutes 1)),
      .finish (digestOf 'b') "planner" ⟨.rejected, none, none, none⟩] ++
    prepareAt 'c' (minutes 1) ++ [.claimForApply (requestFor 'c') openGates (.still (minutes 2))]

theorem action_quota_law_two_claims : Serialized twoClaims ∧
    (campaignClaims campaignSeven twoClaims).map Claim.claimedAt = [minutes 1, minutes 2] ∧
    Keeps twoAnHour (campaignClaims campaignSeven twoClaims) ∧
    (storeAfter twoClaims).countOutstandingPrepares campaignSeven (minutes 2) ≤ 3 := by
  have hclock : Serialized twoClaims := by
    simp [Serialized, twoClaims, prepareAt, Call.clock, Clock.still, minutes, seconds]
  have hlog : (campaignClaims campaignSeven twoClaims).map (fun claim => (claim.quota, claim.claimedAt)) =
      [(twoAnHour, minutes 1), (twoAnHour, minutes 2)] := by decide +kernel
  obtain ⟨hkeeps, houtstanding, -⟩ := action_quota_law hclock campaignSeven
  refine ⟨hclock, ?_, hkeeps twoAnHour fun claim hclaim => ?_, houtstanding _ ?_⟩
  · have htimes := congrArg (List.map Prod.snd) hlog
    rw [List.map_map] at htimes
    exact htimes
  · have hmem := List.mem_map_of_mem (f := fun claim => (claim.quota, claim.claimedAt)) hclaim
    rw [hlog] at hmem
    simp only [List.mem_cons, List.not_mem_nil, or_false, Prod.mk.injEq] at hmem
    exact hmem.elim And.left And.left
  · simp [twoClaims, prepareAt, Call.clock, Clock.still, minutes, seconds]

/-- A claim refused for the end of its approval marks the plan. -/
theorem refused_claim_marks_plan : ¬ ∀ calls, Serialized calls → ∀ request gates clock e t,
    transaction (claimForApply request gates clock) (storeAfter calls) = (.error e, t) →
      t = storeAfter calls := by
  intro h
  have hclock : Serialized (.registerPolicy policyOne :: prepareAt 'b' 0) := by
    simp [Serialized, prepareAt, Call.clock, Clock.still]
  have hsame := h _ hclock (requestFor 'b') openGates (.still (minutes 2)) .approvalExpired _
    (Prod.ext (by rfl) rfl)
  have hstatus := congrArg (fun s => s.plans.map (·.status)) hsame
  exact absurd hstatus (by decide +kernel)

end AdsControl.Wb.Plan
