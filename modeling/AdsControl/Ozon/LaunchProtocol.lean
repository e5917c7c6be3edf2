import AdsControl.Ozon.LaunchHistory

/-!
# The launch protocol

Workers start, crash and are suspended between any two commands; leases expire and are reclaimed.

* `drainLeases_safe`: a worker only takes allowed steps;
* `LaunchEnvironment.sound`: so do the operators;
* **`launch_protocol`**: each action is sent at most once, after its start, and an applied plan is
  proven and guarded.
-/

namespace AdsControl.Ozon

open Fallible Interaction History

variable {W : Type}

/-! ## Each command -/

section Commands

variable {digest : TokenDigest} {identity : IdentityDigest} {s t : LaunchWorld W} {w : W}
  {lease : OzonLaunchLease} {plan : PlanRow} {planId : String} {db : Database}

theorem Steps.inv (h : Steps s.db db planId) (hs : LaunchInv s) (author : Option W) :
    LaunchInv (s.commit author planId db) := by
  obtain ⟨plan, plan', workflow, workflow', h⟩ := h
  exact h.inv hs author

theorem Steps.evolves (h : Steps s.db db planId) (hs : LaunchInv s) (author : Option W) :
    LaunchEvolves s (s.commit author planId db) ∧
      ∀ w, LaunchSpares w s (s.commit author planId db) := by
  obtain ⟨plan, plan', workflow, workflow', h⟩ := h
  exact h.evolves hs author

theorem Steps.allowed (h : Steps s.db db planId) (hs : LaunchInv s) :
    (launchShared W digest identity).Allowed w s (s.commit (some w) planId db) := by
  obtain ⟨hevolves, hspares⟩ := h.evolves hs (some w)
  exact ⟨h.inv hs _, hevolves, fun w' _ => hspares w'⟩

theorem statusEvents_self (author : Option W) (plan : Option PlanRow) :
    statusEvents author planId plan plan = [] := by
  cases plan <;> simp [statusEvents]

theorem launch_commit_self (author : Option W) : s.commit author planId s.db = s := by
  rw [LaunchWorld.commit, statusEvents_self, List.append_nil]

/-- The plan of a lease is stored with its terms. -/
def Holds (s : LaunchWorld W) (lease : OzonLaunchLease) : Prop :=
  ∃ plan, s.db.plans lease.plan.planId = some plan ∧ plan.toPlanTerms = lease.plan.toPlanTerms

theorem Holds.mono (h : Holds s lease) (hst : LaunchEvolves s t) : Holds t lease := by
  obtain ⟨plan, hplan, hterms⟩ := h
  obtain ⟨plan', hplan', hterms'⟩ := hst.plans _ plan hplan
  exact ⟨plan', hplan', hterms'.trans hterms⟩

theorem reloaded_allowed {op : ℤ → Except OzonPlanStoreError Database}
    {answer : Except OzonPlanStoreError PlanRow} (hs : LaunchInv s)
    (h : Reloaded op (s.commit (some w) planId) s answer t)
    (hop : ∀ now db, op now = .ok db → Steps s.db db planId) :
    (launchShared W digest identity).Allowed w s t := by
  obtain ⟨loaded, h⟩ := h
  refine Transaction.elim h (.refl w hs) fun now db a heq => ?_
  rw [ok_of_map] at heq
  obtain ⟨_, hdb, heq⟩ := heq
  cases heq
  exact (hop now _ hdb).allowed hs

theorem complete_allowed {campaignId : Option ℕ} {readback : Option Readback}
    {answer : Except OzonPlanStoreError PlanRow} (hs : LaunchInv s) (hlease : Holds s lease)
    (h : (launchShared W digest identity).answers w s (.complete lease campaignId readback) answer
      t) : (launchShared W digest identity).Allowed w s t := by
  obtain ⟨plan, hplan, hterms⟩ := hlease
  exact reloaded_allowed hs h fun now db =>
    completeLaunchActionInner_ok hs hplan hterms fun hforce => (nomatch hforce)

theorem confirmApplied_allowed {campaignId : ℕ} {readback : Readback}
    {answer : Except OzonPlanStoreError PlanRow} (hs : LaunchInv s) (hlease : Holds s lease)
    (h : (launchShared W digest identity).answers w s (.confirmApplied lease campaignId readback)
      answer t) : (launchShared W digest identity).Allowed w s t := by
  obtain ⟨plan, hplan, hterms⟩ := hlease
  refine reloaded_allowed hs h fun now db hop => ?_
  simp only [confirmLaunchApplied, ok_of_bind, ensure_eq_ok] at hop
  obtain ⟨-, hexact, hop⟩ := hop
  exact completeLaunchActionInner_ok hs hplan hterms
    (fun _ => ⟨campaignId, readback, rfl, rfl, hexact⟩) hop

theorem markAmbiguous_allowed {errorClass : String} {campaignId : Option ℕ}
    {readback : Option Readback} {answer : Except OzonPlanStoreError PlanRow} (hs : LaunchInv s)
    (h : (launchShared W digest identity).answers w s
      (.markAmbiguous lease errorClass campaignId readback) answer t) :
    (launchShared W digest identity).Allowed w s t :=
  reloaded_allowed hs h fun _ _ => markLaunchAmbiguous_ok hs

theorem fail_allowed {errorClass : String} {campaignId : Option ℕ}
    {answer : Except OzonPlanStoreError PlanRow} (hs : LaunchInv s)
    (h : (launchShared W digest identity).answers w s (.fail lease errorClass campaignId) answer
      t) : (launchShared W digest identity).Allowed w s t :=
  reloaded_allowed hs h fun _ _ => failLaunchAction_ok hs

theorem release_allowed {errorClass : String} {answer : Except OzonPlanStoreError Unit}
    (hs : LaunchInv s) (hlease : Holds s lease)
    (h : (launchShared W digest identity).answers w s (.release lease errorClass) answer t) :
    (launchShared W digest identity).Allowed w s t := by
  obtain ⟨plan, hplan, -⟩ := hlease
  exact Transaction.elim h (.refl w hs) fun now db a hop =>
    (releaseLaunchLease_ok hs hplan hop).allowed hs

/-- A claim after a world with the same plans: the lease holds, and the log does not grow. -/
theorem claim_allowed {now : ℤ} {workerId : String} (hs : LaunchInv s)
    (hplan : s.db.plans planId = some plan)
    (h : claimWorkflowLocked digest s.db now plan workerId = .ok (db, lease)) :
    (launchShared W digest identity).Allowed w s ⟨db, s.log⟩ ∧ Holds (W := W) ⟨db, s.log⟩ lease := by
  obtain ⟨rfl, hplans, hsteps⟩ := claimWorkflowLocked_ok hs hplan h
  have hcommit : s.commit (some w) planId db = ⟨db, s.log⟩ := by
    rw [LaunchWorld.commit, hplans, statusEvents_self, List.append_nil]
  refine ⟨hcommit ▸ hsteps.allowed hs, lease.plan, ?_, rfl⟩
  rw [hplans, hs.keyed planId lease.plan hplan]
  exact hplan

theorem claimRecovery_allowed {accountId workerId : String}
    {answer : Except OzonPlanStoreError (Option OzonLaunchLease)} (hs : LaunchInv s)
    (h : (launchShared W digest identity).answers w s (.claimRecovery accountId workerId) answer
      t) : (launchShared W digest identity).Allowed w s t ∧
        ∀ lease, answer = .ok (some lease) → Holds t lease := by
  obtain ⟨selected, h⟩ := h
  have hcommit : ∀ now db claimed,
      claimLaunchRecovery digest s.db now selected accountId workerId = .ok (db, claimed) →
      (launchShared W digest identity).Allowed w s (s.commit (some w) (selected.getD "") db) ∧
        ∀ lease, claimed = some lease → Holds (s.commit (some w) (selected.getD "") db) lease := by
    intro now db claimed hop
    simp only [claimLaunchRecovery, ok_of_bind] at hop
    obtain ⟨-, -, -, -, hop⟩ := hop
    split at hop
    · cases hop
      rw [launch_commit_self]
      exact ⟨.refl w hs, fun lease hlease => (nomatch hlease)⟩
    · rename_i plan hselected
      obtain ⟨planId, -, hplan⟩ := Option.bind_eq_some_iff.mp hselected
      simp only [ok_of_bind, ensure_eq_ok, ok_of_pure, Prod.mk.injEq] at hop
      obtain ⟨-, -, ⟨db', lease⟩, hclaim, -, -, rfl, rfl⟩ := hop
      have hplans := (claimWorkflowLocked_ok hs hplan hclaim).2.1
      rw [LaunchWorld.commit, hplans, statusEvents_self, List.append_nil]
      obtain ⟨hallowed, hholds⟩ := claim_allowed (w := w) hs hplan hclaim
      refine ⟨hallowed, fun lease' hlease => ?_⟩
      cases hlease
      exact hholds
  refine ⟨Transaction.elim h (.refl w hs) fun now db claimed hop => (hcommit now db claimed hop).1,
    fun lease hlease => ?_⟩
  subst hlease
  obtain ⟨now, db, hop, rfl⟩ := Transaction.ok h
  exact (hcommit now db _ hop).2 lease rfl

theorem claimExecution_allowed {accountId workerId : String}
    {answer : Except OzonPlanStoreError (Option OzonLaunchLease)} (hs : LaunchInv s)
    (h : (launchShared W digest identity).answers w s (.claimExecution accountId workerId) answer
      t) : (launchShared W digest identity).Allowed w s t ∧
        ∀ lease, answer = .ok (some lease) → Holds t lease := by
  obtain ⟨swept, selected, h⟩ := h
  have hcommit : ∀ now db claimed,
      claimNextLaunchAction digest s.db now swept selected accountId workerId = .ok (db, claimed) →
      (launchShared W digest identity).Allowed w s (s.commit (some w) (swept.getD "") db) ∧
        ∀ lease, claimed = some lease → Holds (s.commit (some w) (swept.getD "") db) lease := by
    intro now db claimed hop
    simp only [claimNextLaunchAction, ok_of_bind] at hop
    obtain ⟨-, -, -, -, mid, hsweep, hop⟩ := hop
    have hmid : (launchShared W digest identity).Allowed w s
        (s.commit (some w) (swept.getD "") mid) := by
      rcases sweepStaleLaunchRequest_ok hs hsweep with rfl | ⟨planId, rfl, hsteps⟩
      · rw [launch_commit_self]
        exact .refl w hs
      · exact hsteps.allowed hs
    split at hop
    · cases hop
      exact ⟨hmid, fun lease hlease => (nomatch hlease)⟩
    · rename_i plan hselected
      obtain ⟨planId, -, hplan⟩ := Option.bind_eq_some_iff.mp hselected
      simp only [ok_of_bind, ensure_eq_ok, ok_of_pure, Prod.mk.injEq] at hop
      obtain ⟨-, -, ⟨db', lease⟩, hclaim, -, -, rfl, rfl⟩ := hop
      have hinv : LaunchInv (s.commit (some w) (swept.getD "") mid) := hmid.1
      have hplans := (claimWorkflowLocked_ok hinv hplan hclaim).2.1
      obtain ⟨hallowed, hholds⟩ := claim_allowed (w := w) hinv hplan hclaim
      -- The claim keeps the plans, so the log shows the sweep only.
      have hworld : s.commit (some w) (swept.getD "") db' =
          ⟨db', (s.commit (some w) (swept.getD "") mid).log⟩ := by
        rw [LaunchWorld.commit, hplans]
        rfl
      rw [hworld]
      refine ⟨hmid.trans hallowed, fun lease' hlease => ?_⟩
      cases hlease
      exact hholds
  refine ⟨Transaction.elim h (.refl w hs) fun now db claimed hop => (hcommit now db claimed hop).1,
    fun lease hlease => ?_⟩
  subst hlease
  obtain ⟨now, db, hop, rfl⟩ := Transaction.ok h
  exact (hcommit now db _ hop).2 lease rfl

/-- The start of the action is committed by `w`, and nothing was sent for it. -/
def Licensed (w : W) (s : LaunchWorld W) (lease : OzonLaunchLease) : Prop :=
  .moved (some w) lease.plan.planId lease.action.stableStatus lease.action.inProgressStatus ∈ s.log ∧
    ∀ w', .posted w' lease.plan.planId lease.action ∉ s.log

theorem LaunchInv.started_of_posted (hs : LaunchInv s) {action : OzonLaunchAction}
    (h : .posted w planId action ∈ s.log) : ActionStarted s.log planId action := by
  obtain ⟨before, after, hlog⟩ := List.append_of_mem h
  have hmem := (hs.orderly before _ after hlog).1
  refine ⟨some w, ?_⟩
  rw [hlog]
  exact List.mem_append_left _ hmem

/-- The marker is allowed; acknowledged, it licenses one request. -/
theorem startWrite_licensed {preflightDigest : Option String} {answer : Except String Unit × Bool}
    (hs : LaunchInv s)
    (h : (launchShared W digest identity).answers w s (.startLaunchWrite lease preflightDigest)
      answer t) : (launchShared W digest identity).Allowed w s t ∧
        (answer.1 = .ok () → Licensed w t lease) := by
  rcases h with ⟨message, rfl, rfl⟩ | ⟨now, db, hop, -, rfl | ⟨rfl, message, herror⟩⟩
  · exact ⟨.refl w hs, fun hok => (nomatch hok)⟩
  · obtain ⟨plan, plan', workflow, workflow', hstatus, hstatus', hstep⟩ := startLaunchWrite_ok hs hop
    refine ⟨Steps.allowed ⟨plan, plan', workflow, workflow', hstep⟩ hs, fun _ => ?_⟩
    have hne : plan'.status ≠ plan.status := by
      rw [hstatus, hstatus']
      cases lease.action <;> simp [OzonLaunchAction.stableStatus, OzonLaunchAction.inProgressStatus]
    obtain ⟨hlog, -, -, -, hfirst⟩ :=
      (hstep.events hs (some w)).resolve_left fun hsame => hne hsame.2
    rw [hstatus, hstatus'] at hlog hfirst
    rw [Licensed, hlog]
    refine ⟨List.mem_append_right _ List.mem_cons_self, fun w' hposted => ?_⟩
    rcases List.mem_append.mp hposted with hposted | hposted
    · exact hfirst lease.action (.inr ⟨rfl, rfl⟩) (hs.started_of_posted hposted)
    · cases List.mem_singleton.mp hposted
  · refine ⟨.refl w hs, fun hok => ?_⟩
    rw [herror] at hok
    cases hok

theorem LaunchInv.start_unique (hs : LaunchInv s) {author author' : Option W}
    {action : OzonLaunchAction}
    (h : .moved author planId action.stableStatus action.inProgressStatus ∈ s.log)
    (h' : .moved author' planId action.stableStatus action.inProgressStatus ∈ s.log) :
    author' = author := by
  have hcount : s.log.countP (LaunchEvent.starts planId action) ≤ 1 := by
    refine hs.orderly.countP_le_one fun before event hevent hp event' hmem hp' => ?_
    obtain ⟨author, rfl⟩ := LaunchEvent.starts_iff.mp hp
    obtain ⟨author', rfl⟩ := LaunchEvent.starts_iff.mp hp'
    exact hevent.2.2 action (.inr ⟨rfl, rfl⟩) ⟨author', hmem⟩
  have heq := eq_of_countP_le_one hcount h' h (LaunchEvent.starts_iff.mpr ⟨_, rfl⟩)
    (LaunchEvent.starts_iff.mpr ⟨_, rfl⟩)
  exact (LaunchEvent.moved.inj heq).1

/-- Each action of a plan is sent at most once. -/
theorem LaunchInv.countP_posted (hs : LaunchInv s) (planId : String) (action : OzonLaunchAction) :
    s.log.countP (LaunchEvent.isPosted planId action) ≤ 1 := by
  refine hs.orderly.countP_le_one fun before event hevent hp event' hmem hp' => ?_
  obtain ⟨w, rfl⟩ := LaunchEvent.isPosted_iff.mp hp
  obtain ⟨w', rfl⟩ := LaunchEvent.isPosted_iff.mp hp'
  exact hevent.2 w' hmem

theorem post_allowed (hs : LaunchInv s) (h : Licensed w s lease) :
    (launchShared W digest identity).Allowed w s
      (s.record (.posted w lease.plan.planId lease.action)) := by
  have hmoved : ∀ author planId source target, .moved author planId source target ∈
      s.log ++ [.posted w lease.plan.planId lease.action] →
      .moved author planId source target ∈ s.log := by
    intro author planId source target hmem
    simpa using hmem
  refine ⟨⟨hs.keyed, fun planId plan hplan => ?_, fun author planId source target hmem => ?_,
    fun planId plan hplan => ?_, hs.applied, hs.orderly.snoc h⟩,
    ⟨List.prefix_append _ _, fun _ plan hplan => ⟨plan, hplan, rfl⟩⟩,
    fun w' hne planId action hstart w'' hposted => ?_⟩
  · rw [show (s.record _).log = s.log ++ _ from rfl, statusOf_posted]
    exact hs.current planId plan hplan
  · exact hs.known author planId source target (hmoved _ _ _ _ hmem)
  · obtain ⟨workflow, hworkflow, hpointed, hbound, hsource⟩ := hs.workflow planId plan hplan
    refine ⟨workflow, hworkflow, hpointed, fun action hstarted => hbound action ?_, ?_⟩
    · obtain ⟨author, hmem⟩ := hstarted
      exact ⟨author, hmoved _ _ _ _ hmem⟩
    · rwa [show (s.record _).log = s.log ++ _ from rfl, sourceOf_posted]
  · rcases List.mem_append.mp hposted with hposted | hposted
    · exact hposted
    · cases List.mem_singleton.mp hposted
      exact absurd (Option.some.inj (hs.start_unique h.1 hstart)) hne

theorem Licensed.mono (h : Licensed w s lease) (hst : (launchShared W digest identity).rely w s t) :
    Licensed w t lease :=
  ⟨hst.1.log.subset h.1, fun w' hposted => h.2 w' (hst.2 _ _ h.1 w' hposted)⟩

end Commands

/-! ## The worker is safe -/

section Programs

variable {digest : TokenDigest} {identity : IdentityDigest} {s : LaunchWorld W} {w : W}
  {lease : OzonLaunchLease} {context : OzonLaunchRunContext}

theorem persisted_safe {α : Type} (answer : Except OzonPlanStoreError α) :
    Safe (launchShared W digest identity) w (persisted answer) s := by
  cases answer <;> exact fun _ _ _ => trivial

theorem leaveAmbiguous_safe {α : Type} {errorClass : String} {campaignId : Option ℕ}
    {readback : Option Readback} {error : OzonLaunchWorkflowError} :
    Safe (launchShared W digest identity) w
      (leaveAmbiguous lease errorClass campaignId readback error : LaunchProg α) s := by
  intro t hst ht answer u hanswer
  refine ⟨markAmbiguous_allowed ht hanswer, ?_⟩
  cases answer <;> exact fun _ _ _ => trivial

theorem complete_safe {campaignId : Option ℕ} {readback : Option Readback} (h : Holds s lease) :
    Safe (launchShared W digest identity) w (do
      persisted (← invoke (.complete lease campaignId readback))) s := by
  intro t hst ht answer u hanswer
  exact ⟨complete_allowed ht (h.mono hst.1) hanswer, persisted_safe _⟩

theorem confirmApplied_safe {campaignId : ℕ} {readback : Readback} (h : Holds s lease) :
    Safe (launchShared W digest identity) w (do
      persisted (← invoke (.confirmApplied lease campaignId readback))) s := by
  intro t hst ht answer u hanswer
  exact ⟨confirmApplied_allowed ht (h.mono hst.1) hanswer, persisted_safe _⟩

theorem failpoint_safe {α : Type} {point : OzonLaunchFailpoint} {p : LaunchProg α}
    (h : Safe (launchShared W digest identity) w p s) :
    Safe (launchShared W digest identity) w (hitLaunchFailpoint context point >>= fun _ => p) s := by
  unfold hitLaunchFailpoint
  split
  · exact fun _ _ _ => trivial
  · exact h

theorem settleCreate_safe {campaignId : ℕ} (h : Holds s lease) :
    Safe (launchShared W digest identity) w (settleCreate context lease campaignId) s := by
  intro t hst ht answer u hanswer
  obtain rfl : u = t := hanswer
  have hholds := h.mono hst.1
  refine ⟨.refl w ht, ?_⟩
  cases answer with
  | error message => exact leaveAmbiguous_safe
  | ok observation =>
    refine failpoint_safe ?_
    cases observation with
    | stage observed readback =>
      show Safe _ w (if observed = campaignId then _ else _) u
      split
      · exact complete_safe hholds
      · exact leaveAmbiguous_safe
    | applied observed readback =>
      show Safe _ w (if observed = campaignId then _ else _) u
      split
      · exact confirmApplied_safe hholds
      · exact leaveAmbiguous_safe

theorem settleMutation_safe {campaignId : ℕ} (h : Holds s lease) :
    Safe (launchShared W digest identity) w (settleMutation context lease campaignId) s := by
  intro t hst ht answer u hanswer
  obtain rfl : u = t := hanswer
  have hholds := h.mono hst.1
  refine ⟨.refl w ht, ?_⟩
  cases answer with
  | error message => exact leaveAmbiguous_safe
  | ok observation =>
    refine failpoint_safe ?_
    cases observation with
    | stage observed readback =>
      show Safe _ w (if lease.action = .addProducts then _ else _) u
      split
      · exact complete_safe hholds
      · exact leaveAmbiguous_safe
    | applied observed readback =>
      show Safe _ w (if lease.action = .addProducts then _ else _) u
      split
      · exact confirmApplied_safe hholds
      · exact complete_safe hholds

theorem settleWrite_safe {receipt : OzonLaunchWriteReceipt} (h : Holds s lease) :
    Safe (launchShared W digest identity) w (settleWrite context lease receipt) s := by
  cases receipt with
  | created campaignId =>
    show Safe _ w (if lease.action = .createCampaign then _ else _) s
    split
    · exact settleCreate_safe h
    · exact fun _ _ _ => trivial
  | mutated campaignId =>
    show Safe _ w (if lease.action = .createCampaign then _ else _) s
    split
    · exact fun _ _ _ => trivial
    · exact settleMutation_safe h

/-- The action of a preflight is the action of its lease. -/
def OzonPreflightAction.action : OzonPreflightAction → OzonLaunchAction
  | createCampaign => .createCampaign
  | addProducts _ => .addProducts
  | activateCampaign _ => .activateCampaign

theorem sendLaunch_safe {action : OzonPreflightAction} (haction : action.action = lease.action)
    (h : Licensed w s lease) :
    Safe (launchShared W digest identity) w (sendLaunch lease action) s := by
  cases action
  all_goals
    intro t hst ht answer u hanswer
    have hallowed : (launchShared W digest identity).Allowed w t
      (t.record (.posted w lease.plan.planId lease.action)) := post_allowed ht (h.mono hst)
    rw [← haction] at hallowed
    obtain rfl : u = t.record _ := hanswer
    exact ⟨hallowed, fun _ _ _ => trivial⟩

theorem preflightAction_action {action : OzonPreflightAction}
    (h : preflightAction lease = some action) : action.action = lease.action := by
  unfold preflightAction at h
  split at h
  · rename_i haction
    cases h
    exact haction.symm
  · rename_i haction
    obtain ⟨campaignId, -, rfl⟩ := Option.map_eq_some_iff.mp h
    exact haction.symm
  · rename_i haction
    obtain ⟨campaignId, -, rfl⟩ := Option.map_eq_some_iff.mp h
    exact haction.symm

theorem preflight_wp : wp (launchShared W digest identity) w (preflight lease)
    (fun result _ => ∀ checked, result = .ok checked → ∀ action, checked = .ok action →
      action.action = lease.action) s := by
  unfold preflight
  split
  · intro t _ _ checked hchecked action hok
    cases hchecked
    cases hok
  · rename_i action haction
    intro t hst ht answer u hanswer
    obtain rfl : u = t := hanswer
    refine ⟨.refl w ht, fun _ _ _ checked hchecked action' hok => ?_⟩
    cases hchecked
    cases answer with
    | error error => cases hok
    | ok _ =>
      cases hok
      exact preflightAction_action haction

theorem finalPermit_wp : wp (launchShared W digest identity) w (finalPermit context lease)
    (fun result t => ∀ permit, result = .ok permit → permit.1 = .ok () → Licensed w t lease) s := by
  intro t hst ht authorized u hauthorize
  obtain rfl : u = t := hauthorize
  refine ⟨.refl w ht, ?_⟩
  cases authorized with
  | error message =>
    intro _ _ _ permit hpermit hok
    cases hpermit
    cases hok
  | ok _ =>
    intro v huv hv started x hstart
    obtain ⟨hallowed, hlicensed⟩ := startWrite_licensed hv hstart
    refine ⟨hallowed, ?_⟩
    obtain ⟨outcome, attempted⟩ := started
    cases outcome with
    | error message =>
      intro _ _ _ permit hpermit hok
      cases hpermit
      cases hok
    | ok _ =>
      show wp _ w (if context.failpoints .afterWriteStarted then _ else _) _ x
      split
      · intro _ _ _ permit hpermit hok
        cases hpermit
        cases hok
      · exact fun y hxy _ _ _ _ => (hlicensed rfl).mono hxy

theorem executeIo_safe : Safe (launchShared W digest identity) w (executeIo context lease) s := by
  refine safe_bind preflight_wp fun checked t _ hchecked => ?_
  cases checked with
  | error error => cases error <;> exact fun _ _ _ => trivial
  | ok action =>
    refine safe_seq ?_ fun _ _ _ => fun _ _ _ => trivial
    intro u htu hu prepared v hprepare
    obtain rfl : v = u := hprepare
    refine ⟨.refl w hu, ?_⟩
    cases prepared with
    | error error => exact fun _ _ _ => trivial
    | ok _ =>
      show Safe _ w (finalPermit context lease >>= _) v
      refine safe_bind finalPermit_wp fun permit x _ hlicensed => ?_
      obtain ⟨outcome, started⟩ := permit
      cases outcome with
      | error message => exact fun _ _ _ => trivial
      | ok _ =>
        intro y hxy hy admitted z hgrant
        obtain rfl : z = y := hgrant
        refine ⟨.refl w hy, ?_⟩
        cases admitted with
        | error error => exact fun _ _ _ => trivial
        | ok _ =>
          show Safe _ w (sendLaunch lease action >>= _) z
          refine safe_seq (sendLaunch_safe (hchecked action rfl) ((hlicensed rfl).mono hxy))
            fun receipt _ _ => ?_
          cases receipt <;> exact fun _ _ _ => trivial

theorem execute_safe (h : Holds s lease) :
    Safe (launchShared W digest identity) w (execute context lease) s := by
  have hkeep : wp (launchShared W digest identity) w (executeIo context lease)
      (fun result t => ∀ write, result = .ok write → Holds t lease) s :=
    wp_invariant executeIo_safe h fun t u hholds hevolves => hholds.mono hevolves
  refine safe_bind hkeep fun write t _ hholds => ?_
  cases write with
  | error failure =>
    cases failure with
    | notStarted error =>
      intro u htu hu answer v hanswer
      refine ⟨release_allowed hu (hholds.mono htu.1) hanswer, ?_⟩
      cases answer <;> exact fun _ _ _ => trivial
    | definite errorClass =>
      intro u htu hu answer v hanswer
      refine ⟨fail_allowed hu hanswer, ?_⟩
      cases answer <;> exact fun _ _ _ => trivial
    | ambiguous errorClass => exact leaveAmbiguous_safe
  | ok receipt => exact safe_seq (settleWrite_safe hholds) fun _ _ _ => fun _ _ _ => trivial

theorem reconcile_lease_safe (h : Holds s lease) :
    Safe (launchShared W digest identity) w (reconcile context lease) s := by
  intro t hst ht answer u hanswer
  obtain rfl : u = t := hanswer
  have hholds := h.mono hst.1
  refine ⟨.refl w ht, ?_⟩
  cases answer with
  | error message => exact leaveAmbiguous_safe
  | ok observation =>
    refine failpoint_safe ?_
    cases observation with
    | stage campaignId readback =>
      intro v huv hv answer x hanswer
      refine ⟨complete_allowed hv (hholds.mono huv.1) hanswer, ?_⟩
      cases answer <;> exact fun _ _ _ => trivial
    | applied campaignId readback =>
      intro v huv hv answer x hanswer
      refine ⟨confirmApplied_allowed hv (hholds.mono huv.1) hanswer, ?_⟩
      cases answer <;> exact fun _ _ _ => trivial

theorem withMode_safe {mode : OzonLaunchClaimMode} {run : LaunchProg OzonLaunchDrainOutcome}
    (h : Safe (launchShared W digest identity) w run s) :
    Safe (launchShared W digest identity) w (withMode context mode lease run) s := by
  unfold withMode
  split
  · exact failpoint_safe h
  · exact fun _ _ _ => trivial

theorem drainOnce_safe :
    Safe (launchShared W digest identity) w (drainOzonLaunchWorkflowOnce context) s := by
  intro t hst ht recovery u hrecovery
  obtain ⟨hallowed, hholds⟩ := claimRecovery_allowed ht hrecovery
  refine ⟨hallowed, ?_⟩
  rcases recovery with error | _ | lease
  · exact fun _ _ _ => trivial
  · intro v huv hv execution x hexecution
    obtain ⟨hallowed', hholds'⟩ := claimExecution_allowed hv hexecution
    refine ⟨hallowed', ?_⟩
    rcases execution with error | _ | lease
    · exact fun _ _ _ => trivial
    · exact fun _ _ _ => trivial
    · exact withMode_safe (execute_safe (hholds' lease rfl))
  · exact withMode_safe (reconcile_lease_safe (hholds lease rfl))

theorem drainLeases_safe (outcome : OzonLaunchBatchOutcome) (count : ℕ) :
    Safe (launchShared W digest identity) w (drainLeases context outcome count) s := by
  induction count generalizing outcome s with
  | zero => exact fun _ _ _ => trivial
  | succ count ih =>
    refine safe_seq (safe_attempt drainOnce_safe) fun result t _ => ?_
    rcases result with error | outcome'
    · cases error with
      | repository error => exact fun _ _ _ => trivial
      | failpoint point => exact fun _ _ _ => trivial
      | writeNotStarted error => exact ih _
      | write message => exact ih _
      | readback message => exact ih _
    · cases outcome' with
      | idle => exact fun _ _ _ => trivial
      | executed planId status => exact ih _
      | reconciled planId status => exact ih _

end Programs

/-! ## Every run -/

section Runs

variable {digest : TokenDigest} {identity : IdentityDigest} {s t : LaunchWorld W}

theorem SameLaunches.inv {db : Database} (h : SameLaunches s.db db) (hs : LaunchInv s) :
    LaunchInv (W := W) ⟨db, s.log⟩ := by
  obtain ⟨hplans, hworkflows, hguards⟩ := h
  refine ⟨fun planId plan hplan => hs.keyed planId plan (hplans ▸ hplan),
    fun planId plan hplan => hs.current planId plan (hplans ▸ hplan),
    fun author planId source target hmem => hplans ▸ hs.known author planId source target hmem,
    fun planId plan hplan => hworkflows ▸ hs.workflow planId plan (hplans ▸ hplan),
    fun planId plan hplan hstatus => ?_, hs.orderly⟩
  obtain ⟨campaignId, readback, guard, hcampaign, hreadback, hexact, hguard, hrest⟩ :=
    hs.applied planId plan (hplans ▸ hplan) hstatus
  exact ⟨campaignId, readback, guard, hcampaign, hreadback, hexact, hguards ▸ hguard, hrest⟩

theorem SameLaunches.evolves {db : Database} (h : SameLaunches s.db db) :
    LaunchEvolves s ⟨db, s.log⟩ :=
  ⟨List.prefix_rfl, fun _ plan hplan => ⟨plan, h.1 ▸ hplan, rfl⟩⟩

/-- An operator moves a plan that has not started. -/
theorem steps_of_operator {db : Database} {planId : String} {plan : PlanRow}
    {status : OzonLaunchStatus} (hs : LaunchInv s) (hplan : s.db.plans planId = some plan)
    (hpointed : pointed plan.status = some .createCampaign)
    (hpointed' : pointed status = some .createCampaign)
    (hbound : ∀ pointer, startedBound plan.status pointer ≤ startedBound status pointer)
    (hmove : ∀ action, LaunchMove action plan.status status) (happlied : status ≠ .applied)
    (h : SameLaunches (s.db.putPlan { plan with status := status }) db) :
    Steps s.db db planId := by
  obtain ⟨hplans, hworkflows, hguards⟩ := h
  obtain ⟨workflow, hworkflow, hpointer, -⟩ := hs.workflow planId plan hplan
  refine ⟨plan, { plan with status := status }, workflow, workflow, .of_move hplan hworkflow rfl
    (hplans.trans (putPlan_plans s.db (hs.keyed planId plan hplan))) hguards ?_ rfl (hmove _) ?_
    (hbound _) happlied⟩
  · rw [hworkflows, ← hworkflow, Function.update_eq_self]
    rfl
  · intro action hmem
    rw [show pointed status = some .createCampaign from hpointed'] at hmem
    cases hmem
    exact hpointer .createCampaign hpointed

theorem LaunchInv.insert (hs : LaunchInv s) {terms : PlanTerms} {availableAt : ℤ}
    (hnew : s.db.plans terms.planId = none) :
    LaunchInv (W := W) ⟨(s.db.putPlan terms.newRow).putWorkflow terms.planId
      (newWorkflow availableAt), s.log⟩ := by
  have hplans : ∀ planId, ((s.db.putPlan terms.newRow).putWorkflow terms.planId
      (newWorkflow availableAt)).plans planId =
        if planId = terms.planId then some terms.newRow else s.db.plans planId := fun planId =>
    Function.update_apply _ _ _ _
  have hworkflows : ∀ planId, ((s.db.putPlan terms.newRow).putWorkflow terms.planId
      (newWorkflow availableAt)).workflows planId =
        if planId = terms.planId then some (newWorkflow availableAt) else s.db.workflows planId :=
    fun planId => Function.update_apply _ _ _ _
  have hnone : ∀ author source target, .moved author terms.planId source target ∉ s.log :=
    fun author source target hmem => hs.known author _ source target hmem hnew
  refine ⟨fun planId plan hplan => ?_, fun planId plan hplan => ?_,
    fun author planId source target hmem => ?_, fun planId plan hplan => ?_,
    fun planId plan hplan hstatus => ?_, hs.orderly⟩
  · rw [hplans] at hplan
    split_ifs at hplan with heq
    · cases hplan
      exact heq.symm
    · exact hs.keyed planId plan hplan
  · rw [hplans] at hplan
    split_ifs at hplan with heq
    · cases hplan
      rw [heq, statusOf_eq_prepared hnone]
      rfl
    · exact hs.current planId plan hplan
  · rw [hplans]
    split_ifs
    · simp
    · exact hs.known author planId source target hmem
  · rw [hplans] at hplan
    rw [hworkflows]
    by_cases heq : planId = terms.planId
    · subst heq
      rw [if_pos rfl] at hplan ⊢
      cases hplan
      refine ⟨_, rfl, fun action hmem => Option.some.inj hmem, fun action hstarted => ?_, ?_⟩
      · obtain ⟨author, hmem⟩ := hstarted
        exact absurd hmem (hnone _ _ _)
      · rintro ⟨⟩
    · rw [if_neg heq] at hplan ⊢
      exact hs.workflow planId plan hplan
  · rw [hplans] at hplan
    split_ifs at hplan with heq
    · cases hplan
      cases hstatus
    · exact hs.applied planId plan hplan hstatus

/-- **The operators keep the invariant.** -/
theorem LaunchEnvironment.sound (h : LaunchEnvironment s t) (hs : LaunchInv s) :
    LaunchInv t ∧ LaunchEvolves s t ∧ ∀ w, LaunchSpares w s t := by
  cases h with
  | other h => exact ⟨h.inv hs, h.evolves, fun _ _ _ _ _ hposted => hposted⟩
  | create terms availableAt hnew h =>
    refine ⟨h.inv (s := ⟨_, s.log⟩) (hs.insert hnew), ⟨List.prefix_rfl, fun planId plan hplan => ?_⟩,
      fun _ _ _ _ _ hposted => hposted⟩
    have hne : planId ≠ terms.planId := by
      rintro rfl
      rw [hnew] at hplan
      cases hplan
    refine ⟨plan, ?_, rfl⟩
    rw [h.1]
    exact (Function.update_of_ne hne _ _).trans hplan
  | approve hplan hstatus h =>
    have hsteps := steps_of_operator hs hplan (by rw [hstatus]; rfl) rfl
      (fun _ => by rw [hstatus]; exact le_rfl) (fun _ => by rw [hstatus]; exact .approve) (by simp) h
    exact ⟨hsteps.inv hs none, hsteps.evolves hs none⟩
  | @expire db planId plan hplan hstatus h =>
    have hsteps : Steps s.db db planId := by
      rcases hstatus with hstatus | hstatus
      · exact steps_of_operator hs hplan (by rw [hstatus]; rfl) rfl
          (fun _ => by rw [hstatus]; exact le_rfl) (fun _ => by rw [hstatus]; exact .discard) (by simp) h
      · exact steps_of_operator hs hplan (by rw [hstatus]; rfl) rfl
          (fun _ => by rw [hstatus]; exact le_rfl) (fun _ => by rw [hstatus]; exact .expire) (by simp) h
    exact ⟨hsteps.inv hs none, hsteps.evolves hs none⟩
  | enqueue h =>
    have hsteps := enqueueLaunch_ok hs h
    exact ⟨hsteps.inv hs none, hsteps.evolves hs none⟩

variable [DecidableEq W]

/-- The system of launch workers over one store. -/
def launchSystem (W : Type) [DecidableEq W] (digest : TokenDigest) (identity : IdentityDigest) :
    Transition.System
      (Pool (LaunchWorld W) W LaunchCall LaunchCall.Answer OzonLaunchWorkflowError
        OzonLaunchBatchOutcome) :=
  Pool.system (launchShared W digest identity) LaunchEnvironment
    (fun program => ∃ context, program = drainOzonLaunchWorkflowBatch context) LaunchWorld.Fresh

omit [DecidableEq W] in
theorem launch_sound : Pool.Sound (launchShared W digest identity) LaunchEnvironment
    (fun program => ∃ context, program = drainOzonLaunchWorkflowBatch context) where
  acts _ _ hs h := h.sound hs
  starts program hprogram w s _ := by
    obtain ⟨context, rfl⟩ := hprogram
    exact drainLeases_safe _ _

theorem launch_inv
    {P : Pool (LaunchWorld W) W LaunchCall LaunchCall.Answer OzonLaunchWorkflowError
      OzonLaunchBatchOutcome}
    (h : Transition.Reachable (launchSystem W digest identity) P) : LaunchInv P.shared := by
  refine (Pool.safe launch_sound (fun s hs => ?_) h).1
  have hplans : ∀ planId plan, s.db.plans planId ≠ some plan := by simp [hs.1]
  refine ⟨fun planId plan hplan => absurd hplan (hplans _ _),
    fun planId plan hplan => absurd hplan (hplans _ _),
    fun author planId source target hmem => ?_,
    fun planId plan hplan => absurd hplan (hplans _ _),
    fun planId plan hplan => absurd hplan (hplans _ _), hs.2 ▸ orderly_nil⟩
  rw [hs.2] at hmem
  cases hmem

/-- **Each action of a launch is sent at most once.** In every reachable pool: an action of a plan
has at most one request, sent by the worker that committed its start; the status of a plan moves only
along `LaunchMove`, from where its history left it, an ambiguous one by the action that became ambiguous,
and never back to the stable status of a started action; and an applied plan has a stored readback of its
running campaign and an active guard. -/
theorem launch_protocol
    (P : Pool (LaunchWorld W) W LaunchCall LaunchCall.Answer OzonLaunchWorkflowError
      OzonLaunchBatchOutcome)
    (h : Transition.Reachable (launchSystem W digest identity) P) :
    (∀ planId action, P.shared.log.countP (LaunchEvent.isPosted planId action) ≤ 1) ∧
    (∀ before w planId action after,
      P.shared.log = before ++ .posted w planId action :: after →
        .moved (some w) planId action.stableStatus action.inProgressStatus ∈ before) ∧
    (∀ before author planId source target after,
      P.shared.log = before ++ .moved author planId source target :: after →
        source = statusOf before planId ∧
        (∃ action, LaunchMove action source target ∧
          (source = .ambiguous → sourceOf before planId = action.inProgressStatus)) ∧
        ∀ action, target = action.stableStatus → ¬ ActionStarted before planId action) ∧
    (∀ planId plan, P.shared.db.plans planId = some plan →
      plan.status = statusOf P.shared.log planId) ∧
    ∀ planId plan, P.shared.db.plans planId = some plan → plan.status = .applied →
      ∃ campaignId readback guard, plan.campaignId = some campaignId ∧
        plan.readback = some readback ∧ readback.campaignId = some campaignId ∧
        readback.sku = some plan.sku ∧ readback.title = some plan.manifest.title ∧
        readback.bidMicrorubles = some plan.manifest.spec.initialCpcBidMicrorubles ∧
        readback.state = some "CAMPAIGN_STATE_RUNNING" ∧
        P.shared.db.guards planId = some guard ∧ guard.status = .active ∧
        guard.toGuardTerms = launchGuard plan.toPlanTerms campaignId := by
  have hinv := launch_inv h
  refine ⟨hinv.countP_posted, fun before w planId action after hlog => ?_,
    fun before author planId source target after hlog => ?_, hinv.current,
    fun planId plan hplan hstatus => ?_⟩
  · exact (hinv.orderly before _ after hlog).1
  · obtain ⟨hsource, hmove, hfirst⟩ := hinv.orderly before _ after hlog
    exact ⟨hsource, hmove, fun action htarget => hfirst action (.inl htarget)⟩
  · obtain ⟨campaignId, readback, guard, hcampaign, hreadback, hexact, hguard, hrest⟩ :=
      hinv.applied planId plan hplan hstatus
    obtain ⟨hid, hsku, hbid, htitle, hstate⟩ := of_decide_eq_true hexact
    rw [hinv.keyed planId plan hplan] at hguard
    exact ⟨campaignId, readback, guard, hcampaign, hreadback, hid, hsku, htitle, hbid, hstate, hguard,
      hrest⟩

/-! ## A run -/

/-- The plan of the run. -/
def draftId : String := "".pushn 'a' 64

/-- A plan for one product. -/
def draftTerms : PlanTerms where
  planId := draftId
  planDigest := draftId
  actorId := "actor"
  accountId := "ozon"
  sku := 11
  policy := ⟨1, 1, "policy"⟩
  manifest := ⟨⟨"2026-09-01", 2000000000, 5000000, 15⟩, providerTitleForPlanId draftId⟩
  expiresAt := 1

/-- A prepared plan with an approval, the latest policy and open gates. -/
def draftDatabase : Database where
  policy := some draftTerms.policy
  gates _ := some ⟨true, 1, none⟩
  plans := Function.update (fun _ => none) draftId (some draftTerms.newRow)
  approvals := Function.update (fun _ => none) draftId (some ⟨draftId, "approver", "reference", 1⟩)
  reservations _ := none
  workflows := Function.update (fun _ => none) draftId (some (newWorkflow 0))
  guards _ := none

/-- The plan once it is approved. -/
def draftApproved : PlanRow := { draftTerms.newRow with status := .approved }

/-- The plan is approved and requested. -/
def requestedDatabase : Database :=
  (draftDatabase.putPlan draftApproved).putWorkflow draftId { newWorkflow 0 with
    requestedAt := some 0, requestedByActorId := some "actor" }

/-- The worker that carries it out. -/
def draftContext : OzonLaunchRunContext where
  accountId := "ozon"
  workerId := "worker-1"
  identity := fun _ _ _ => draftId
  failpoints _ := false

/-- The lease of the first claim at time `0`. -/
def draftLease : OzonLaunchLease where
  plan := draftApproved
  action := .createCampaign
  mode := .execute
  generation := 1
  ownerId := "worker-1"
  leaseToken := draftId

/-- The lease of the recovery. -/
def recoveryLease : OzonLaunchLease where
  plan := { draftApproved with
    status := .ambiguous, lastErrorClass := some "ozon_create_ambiguous" }
  action := .createCampaign
  mode := .reconcile
  generation := 2
  ownerId := "worker-1"
  leaseToken := draftId

/-- The created campaign as it is read back. -/
def createReadback : Readback where
  campaignId := some 21
  sku := none
  bidMicrorubles := none
  title := some (providerTitleForPlanId draftId)
  state := some "CAMPAIGN_STATE_INACTIVE"
  action := some "create_campaign"
  verified := some true

theorem requested_reachable :
    Transition.Reachable (launchSystem ℕ (fun _ _ _ _ _ => draftId) fun _ _ _ => draftId)
      ⟨⟨requestedDatabase, [.moved none draftId .prepared .approved]⟩,
        Function.update (fun _ => none) 0 (some (drainOzonLaunchWorkflowBatch draftContext))⟩ := by
  have hempty : Transition.Reachable (launchSystem ℕ (fun _ _ _ _ _ => draftId) fun _ _ _ => draftId)
      ⟨⟨⟨none, fun _ => none, fun _ => none, fun _ => none, fun _ => none, fun _ => none,
        fun _ => none⟩, []⟩, fun _ => none⟩ := .init ⟨⟨fun _ => rfl, rfl⟩, fun _ => rfl⟩
  have hcreate := hempty.step (.environment
    (@LaunchEnvironment.create _ _ draftDatabase draftTerms 0 rfl ⟨rfl, rfl, rfl⟩))
  have happrove := hcreate.step (.environment (@LaunchEnvironment.approve _ _
    (draftDatabase.putPlan draftApproved) draftId draftTerms.newRow rfl rfl ⟨rfl, rfl, rfl⟩))
  have henqueue := happrove.step (.environment (@LaunchEnvironment.enqueue _ _ requestedDatabase 0
    draftId "actor" draftId rfl))
  exact henqueue.step (.spawn 0 _ ⟨draftContext, rfl⟩)

/-- The create is sent, its answer is lost, and a recovery proves the campaign. -/
theorem recovery_reachable :
    ∃ P, Transition.Reachable (launchSystem ℕ (fun _ _ _ _ _ => draftId) fun _ _ _ => draftId) P ∧
      .posted 0 draftId .createCampaign ∈ P.shared.log ∧
      .moved (some 0) draftId .ambiguous .created ∈ P.shared.log := by
  refine Pool.reachable_of_may (R := fun s => .posted 0 draftId .createCampaign ∈ s.log ∧
    .moved (some 0) draftId .ambiguous .created ∈ s.log) requested_reachable
    (Function.update_self ..) ?_
  refine ⟨.ok none, _, ⟨none, .acknowledged 0 rfl⟩, ?_⟩
  refine ⟨.ok (some draftLease), _, ⟨none, some draftId, .acknowledged 0 rfl⟩, ?_⟩
  refine ⟨.ok (), _, rfl, ?_⟩
  refine ⟨.ok (), _, rfl, ?_⟩
  refine ⟨.ok (), _, rfl, ?_⟩
  refine ⟨(.ok (), true), _, .inr ⟨0, _, rfl, rfl, .inl rfl⟩, ?_⟩
  refine ⟨.ok (), _, rfl, ?_⟩
  refine ⟨.error .ambiguousTransport, _, rfl, ?_⟩
  refine ⟨.ok draftApproved, _, ⟨_, .acknowledged 0 rfl⟩, ?_⟩
  refine ⟨.ok (some recoveryLease), _, ⟨some draftId, .acknowledged workflowRecoveryBackoff rfl⟩, ?_⟩
  refine ⟨.ok (.stage 21 createReadback), _, rfl, ?_⟩
  refine ⟨.ok draftApproved, _, ⟨_, .acknowledged workflowRecoveryBackoff rfl⟩, ?_⟩
  refine ⟨.ok none, _, ⟨none, .acknowledged 0 rfl⟩, ?_⟩
  refine ⟨.ok none, _, ⟨none, none, .acknowledged 0 rfl⟩, ?_⟩
  exact ⟨.tail _ (.tail _ (.head _)), .tail _ (.tail _ (.tail _ (.tail _ (.head _))))⟩

/-- In that run the request follows the start of its worker, and the recovery continues the create. -/
theorem launch_protocol_recovered :
    ∃ P, Transition.Reachable (launchSystem ℕ (fun _ _ _ _ _ => draftId) fun _ _ _ => draftId) P ∧
      P.shared.log.countP (LaunchEvent.isPosted draftId .createCampaign) = 1 ∧
      .moved (some 0) draftId .approved .creating ∈ P.shared.log ∧
      ∃ before after, P.shared.log = before ++ .moved (some 0) draftId .ambiguous .created :: after ∧
        statusOf before draftId = .ambiguous ∧ sourceOf before draftId = .creating := by
  obtain ⟨P, hreach, hposted, hrecovered⟩ := recovery_reachable
  obtain ⟨hcount, hstarted, hmoved, -⟩ := launch_protocol P hreach
  obtain ⟨before, after, hlog⟩ := List.append_of_mem hposted
  obtain ⟨before', after', hlog'⟩ := List.append_of_mem hrecovered
  have hpos : 0 < P.shared.log.countP (LaunchEvent.isPosted draftId .createCampaign) :=
    List.countP_pos_iff.mpr ⟨_, hposted, LaunchEvent.isPosted_iff.mpr ⟨_, rfl⟩⟩
  refine ⟨P, hreach, Nat.le_antisymm (hcount draftId .createCampaign) hpos, ?_, before', after', hlog', ?_⟩
  · rw [hlog]
    exact List.mem_append_left _ (hstarted before 0 draftId .createCampaign after hlog)
  · obtain ⟨hstatus, ⟨action, hmove, hsource⟩, -⟩ := hmoved before' _ draftId _ _ after' hlog'
    refine ⟨hstatus.symm, ?_⟩
    rw [hsource rfl]
    cases hmove.of_ambiguous with
    | inl h => cases action <;> cases h; rfl
    | inr h => cases h

/-- A recovery leaves the chain of the statuses: an ambiguous launch returns to it. -/
theorem launch_leaves_ambiguous :
    ∃ P, Transition.Reachable (launchSystem ℕ (fun _ _ _ _ _ => draftId) fun _ _ _ => draftId) P ∧
      ∃ source target, .moved (some 0) draftId source target ∈ P.shared.log ∧
        (source, target) ∉ [(.approved, .creating), (.creating, .created),
          (.created, .addingProducts), (.addingProducts, .productsAdded),
          (.productsAdded, .activating), (.activating, .applied)] ∧
        ¬ (target = .ambiguous ∧ ∃ action : OzonLaunchAction, source = action.inProgressStatus) ∧
        ¬ ((target = .failed ∨ target = .expired) ∧
          ∃ action : OzonLaunchAction, source = action.stableStatus) := by
  obtain ⟨P, hreach, -, hrecovered⟩ := recovery_reachable
  exact ⟨P, hreach, .ambiguous, .created, hrecovered, by simp, by simp, by simp⟩

end Runs

end AdsControl.Ozon
