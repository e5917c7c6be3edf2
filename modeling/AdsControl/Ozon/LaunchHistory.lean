import AdsControl.Lib.History
import AdsControl.Ozon.LaunchWorkflow

/-!
# The history of the launches

Any number of workers drain launches over one store and one marketplace, while operators prepare,
approve, request and expire plans. The log records every change of status and every request that left
the process. A transaction may fail, or commit and lose its acknowledgement.

* `launchAnswers`: what the store and the marketplace may answer;
* `LaunchMove`: the changes of status under an action;
* `LaunchInv`: the invariant of store and log;
* **`LaunchStep.inv`**: a transaction that takes one step of a plan keeps the invariant, and every
  transaction takes one.
-/

namespace AdsControl.Ozon

open Fallible Interaction History

variable {W : Type}

/-! ## The world -/

/-- What an observer of the store and the marketplace sees of a launch. A change of status names the
worker that committed it, if any. -/
inductive LaunchEvent (W : Type)
  | moved (author : Option W) (planId : String) (source target : OzonLaunchStatus)
  | posted (worker : W) (planId : String) (action : OzonLaunchAction)

/-- The request of an action was posted. -/
def LaunchEvent.isPosted (planId : String) (action : OzonLaunchAction) : LaunchEvent W → Bool
  | posted _ planId' action' => decide (planId' = planId ∧ action' = action)
  | _ => false

/-- An action was started from its stable status. -/
def LaunchEvent.starts (planId : String) (action : OzonLaunchAction) : LaunchEvent W → Bool
  | moved _ planId' source target => decide (planId' = planId ∧ source = action.stableStatus ∧
      target = action.inProgressStatus)
  | _ => false

/-- The database and what happened. -/
structure LaunchWorld (W : Type) where
  db : Database
  log : List (LaunchEvent W)

/-- What a change of a plan shows: its status, when that changed. -/
def statusEvents (author : Option W) (planId : String) :
    Option PlanRow → Option PlanRow → List (LaunchEvent W)
  | some before, some after =>
    if before.status = after.status then [] else [.moved author planId before.status after.status]
  | _, _ => []

/-- A transaction on a plan is committed. -/
def LaunchWorld.commit (s : LaunchWorld W) (author : Option W) (planId : String) (db : Database) :
    LaunchWorld W where
  db := db
  log := s.log ++ statusEvents author planId (s.db.plans planId) (db.plans planId)

/-- Add an event. -/
def LaunchWorld.record (s : LaunchWorld W) (event : LaunchEvent W) : LaunchWorld W :=
  { s with log := s.log ++ [event] }

/-- The answers of a transaction that returns the plan: it is loaded again after the commit, so any
row may be returned. -/
def Reloaded (op : ℤ → Except OzonPlanStoreError Database) (commit : Database → LaunchWorld W)
    (s : LaunchWorld W) (answer : Except OzonPlanStoreError PlanRow) (t : LaunchWorld W) : Prop :=
  ∃ loaded : PlanRow, Transaction (fun now => (op now).map fun db => (db, loaded)) commit s answer t

/-- What the commands of worker `w` may answer, and the world they leave. A marker whose commit was
not attempted has no effect; otherwise it is committed, or its answer is an error. -/
def launchAnswers (digest : TokenDigest) (identity : IdentityDigest) (w : W) (s : LaunchWorld W) :
    (c : LaunchCall) → c.Answer → LaunchWorld W → Prop
  | .claimRecovery accountId workerId, answer, t => ∃ selected,
      Transaction (fun now => claimLaunchRecovery digest s.db now selected accountId workerId)
        (s.commit (some w) (selected.getD "")) s answer t
  | .claimExecution accountId workerId, answer, t => ∃ swept selected,
      Transaction (fun now =>
        claimNextLaunchAction digest s.db now swept selected accountId workerId)
        (s.commit (some w) (swept.getD "")) s answer t
  | .complete lease campaignId readback, answer, t =>
      Reloaded (fun now => completeLaunchAction identity s.db now lease campaignId readback)
        (s.commit (some w) lease.plan.planId) s answer t
  | .confirmApplied lease campaignId readback, answer, t =>
      Reloaded (fun now => confirmLaunchApplied identity s.db now lease campaignId readback)
        (s.commit (some w) lease.plan.planId) s answer t
  | .markAmbiguous lease errorClass campaignId readback, answer, t =>
      Reloaded (fun now => markLaunchAmbiguous s.db now lease errorClass campaignId readback)
        (s.commit (some w) lease.plan.planId) s answer t
  | .fail lease errorClass campaignId, answer, t =>
      Reloaded (fun now => failLaunchAction s.db now lease errorClass campaignId)
        (s.commit (some w) lease.plan.planId) s answer t
  | .release lease errorClass, answer, t =>
      Transaction (fun now => releaseLaunchLease s.db now lease errorClass)
        (s.commit (some w) lease.plan.planId) s answer t
  | .preconditions _, _, t => t = s
  | .prepareWrite _, _, t => t = s
  | .authorize _, _, t => t = s
  | .startLaunchWrite lease preflightDigest, answer, t =>
      (∃ message, answer = (.error message, false) ∧ t = s) ∨
        ∃ now db, startLaunchWrite identity s.db now lease preflightDigest = .ok (db, ()) ∧
          answer.2 = true ∧ (t = s.commit (some w) lease.plan.planId db ∨
            t = s ∧ ∃ message, answer.1 = .error message)
  | .admitWrite _, _, t => t = s
  | .createCampaign lease, _, t => t = s.record (.posted w lease.plan.planId .createCampaign)
  | .addProducts lease _, _, t => t = s.record (.posted w lease.plan.planId .addProducts)
  | .activateCampaign lease _, _, t => t = s.record (.posted w lease.plan.planId .activateCampaign)
  | .readback _, _, t => t = s

/-- The tables of the launches are the same. -/
def SameLaunches (db db' : Database) : Prop :=
  db'.plans = db.plans ∧ db'.workflows = db.workflows ∧ db'.guards = db.guards

/-- The operators: they prepare, approve, expire and request plans, and use the other tables
freely. -/
inductive LaunchEnvironment (s : LaunchWorld W) : LaunchWorld W → Prop
  | other {db : Database} (h : SameLaunches s.db db) : LaunchEnvironment s ⟨db, s.log⟩
  | create {db : Database} (terms : PlanTerms) (availableAt : ℤ)
      (hnew : s.db.plans terms.planId = none)
      (h : SameLaunches ((s.db.putPlan terms.newRow).putWorkflow terms.planId
        (newWorkflow availableAt)) db) : LaunchEnvironment s ⟨db, s.log⟩
  | approve {db : Database} {planId : String} {plan : PlanRow}
      (hplan : s.db.plans planId = some plan) (hstatus : plan.status = .prepared)
      (h : SameLaunches (s.db.putPlan { plan with status := .approved }) db) :
      LaunchEnvironment s (s.commit none planId db)
  | expire {db : Database} {planId : String} {plan : PlanRow}
      (hplan : s.db.plans planId = some plan)
      (hstatus : plan.status = .prepared ∨ plan.status = .approved)
      (h : SameLaunches (s.db.putPlan { plan with status := .expired }) db) :
      LaunchEnvironment s (s.commit none planId db)
  | enqueue {db : Database} {now : ℤ} {planId actorId expectedDigest : String}
      (h : enqueueLaunch s.db now planId actorId expectedDigest = .ok db) :
      LaunchEnvironment s (s.commit none planId db)

/-- No plan yet. -/
def LaunchWorld.Fresh (s : LaunchWorld W) : Prop :=
  (∀ planId, s.db.plans planId = none) ∧ s.log = []

/-! ## Statuses -/

/-- **The changes of status while a workflow points at an action.** What became ambiguous leads on to the
completed status of its own action, or to a campaign that is proven to run. -/
inductive LaunchMove (action : OzonLaunchAction) : OzonLaunchStatus → OzonLaunchStatus → Prop
  | approve : LaunchMove action .prepared .approved
  | discard : LaunchMove action .prepared .expired
  | expire : LaunchMove action .approved .expired
  | start : LaunchMove action action.stableStatus action.inProgressStatus
  | fail : LaunchMove action action.stableStatus .failed
  | complete : LaunchMove action action.inProgressStatus action.completedStatus
  | confirm : LaunchMove action action.inProgressStatus .applied
  | uncertain : LaunchMove action action.inProgressStatus .ambiguous
  | recover : LaunchMove action .ambiguous action.completedStatus
  | prove : LaunchMove action .ambiguous .applied

theorem LaunchMove.source_of_ambiguous {action : OzonLaunchAction} {source target : OzonLaunchStatus}
    (h : LaunchMove action source target) (htarget : target = .ambiguous) :
    source = action.inProgressStatus := by
  cases h with
  | uncertain => rfl
  | start | complete | recover => cases action <;> cases htarget
  | _ => cases htarget

theorem LaunchMove.of_ambiguous {action : OzonLaunchAction} {target : OzonLaunchStatus}
    (h : LaunchMove action .ambiguous target) :
    target = action.completedStatus ∨ target = .applied := by
  generalize hsource : OzonLaunchStatus.ambiguous = source at h
  cases h with
  | recover => exact .inl rfl
  | prove => exact .inr rfl
  | start | fail | complete | confirm | uncertain => cases action <;> cases hsource
  | approve | discard | expire => cases hsource

/-- The status a log leads to. -/
def statusOf (log : List (LaunchEvent W)) (planId : String) : OzonLaunchStatus :=
  log.foldl (fun status event => match event with
    | .moved _ planId' _ target => if planId' = planId then target else status
    | .posted _ _ _ => status) .prepared

/-- The status that the last change of a plan came from. -/
def sourceOf (log : List (LaunchEvent W)) (planId : String) : OzonLaunchStatus :=
  log.foldl (fun status event => match event with
    | .moved _ planId' source _ => if planId' = planId then source else status
    | .posted _ _ _ => status) .prepared

/-- The action was started. -/
def ActionStarted (log : List (LaunchEvent W)) (planId : String) (action : OzonLaunchAction) : Prop :=
  ∃ author, .moved author planId action.stableStatus action.inProgressStatus ∈ log

/-- The place of an action in the launch. -/
def OzonLaunchAction.rank : OzonLaunchAction → ℕ
  | createCampaign => 0
  | addProducts => 1
  | activateCampaign => 2

/-- The number of actions that may have been started, by the status of a plan and the action of its
workflow row. -/
def startedBound : OzonLaunchStatus → OzonLaunchAction → ℕ
  | .prepared, _ | .approved, _ | .expired, _ => 0
  | .creating, _ | .created, _ => 1
  | .addingProducts, _ | .productsAdded, _ => 2
  | .activating, _ | .applied, _ => 3
  | .ambiguous, action => action.rank + 1
  | .failed, action => action.rank

/-- The action a status implies. -/
def pointed : OzonLaunchStatus → Option OzonLaunchAction
  | .prepared | .approved | .creating | .expired => some .createCampaign
  | .created | .addingProducts => some .addProducts
  | .productsAdded | .activating | .applied => some .activateCampaign
  | .ambiguous | .failed => none

@[simp] theorem startedBound_stable (action pointer : OzonLaunchAction) :
    startedBound action.stableStatus pointer = action.rank := by cases action <;> rfl

@[simp] theorem startedBound_inProgress (action pointer : OzonLaunchAction) :
    startedBound action.inProgressStatus pointer = action.rank + 1 := by cases action <;> rfl

@[simp] theorem pointed_stable (action : OzonLaunchAction) :
    pointed action.stableStatus = some action := by cases action <;> rfl

@[simp] theorem pointed_inProgress (action : OzonLaunchAction) :
    pointed action.inProgressStatus = some action := by cases action <;> rfl

theorem OzonLaunchAction.rank_lt (action : OzonLaunchAction) : action.rank < 3 := by
  cases action <;> decide

/-! ## The invariant -/

/-- An applied plan: a stored readback proves its running campaign, and an active guard watches it. -/
def Applied (db : Database) (plan : PlanRow) : Prop :=
  ∃ campaignId readback guard, plan.campaignId = some campaignId ∧ plan.readback = some readback ∧
    exactRunningReadback readback campaignId plan.toPlanTerms ∧
    db.guards plan.planId = some guard ∧ guard.status = .active ∧
    guard.toGuardTerms = launchGuard plan.toPlanTerms campaignId

/-- When an event may happen after a log. A status moves from where the log left it, an ambiguous one
by the action it became ambiguous in, never back to the status before a started action, and an action
starts once. A request is the first of its action, and its worker committed the start. -/
def LaunchJustified (log : List (LaunchEvent W)) : LaunchEvent W → Prop
  | .moved _ planId source target => source = statusOf log planId ∧
      (∃ action, LaunchMove action source target ∧
        (source = .ambiguous → sourceOf log planId = action.inProgressStatus)) ∧
      ∀ action, target = action.stableStatus ∨
        source = action.stableStatus ∧ target = action.inProgressStatus →
          ¬ ActionStarted log planId action
  | .posted w planId action =>
      .moved (some w) planId action.stableStatus action.inProgressStatus ∈ log ∧
        ∀ w', .posted w' planId action ∉ log

/-- The rows of a world agree with its log. -/
structure LaunchInv (s : LaunchWorld W) : Prop where
  keyed : ∀ planId plan, s.db.plans planId = some plan → plan.planId = planId
  current : ∀ planId plan, s.db.plans planId = some plan → plan.status = statusOf s.log planId
  known : ∀ author planId source target, .moved author planId source target ∈ s.log →
    s.db.plans planId ≠ none
  workflow : ∀ planId plan, s.db.plans planId = some plan → ∃ workflow,
    s.db.workflows planId = some workflow ∧
    (∀ action ∈ pointed plan.status, workflow.action = action) ∧
    (∀ action, ActionStarted s.log planId action →
      action.rank < startedBound plan.status workflow.action) ∧
    (plan.status = .ambiguous → sourceOf s.log planId = workflow.action.inProgressStatus)
  applied : ∀ planId plan, s.db.plans planId = some plan → plan.status = .applied →
    Applied s.db plan
  orderly : Orderly LaunchJustified s.log

/-- The log grows and the terms of the plans stay. -/
structure LaunchEvolves (s t : LaunchWorld W) : Prop where
  log : s.log <+: t.log
  plans : ∀ planId plan, s.db.plans planId = some plan →
    ∃ plan', t.db.plans planId = some plan' ∧ plan'.toPlanTerms = plan.toPlanTerms

/-- Nothing is sent for the actions that `w` started. -/
def LaunchSpares (w : W) (s t : LaunchWorld W) : Prop :=
  ∀ planId action,
    .moved (some w) planId action.stableStatus action.inProgressStatus ∈ s.log →
    ∀ w', .posted w' planId action ∈ t.log → .posted w' planId action ∈ s.log

/-- The store and the marketplace as shared by the launch workers. -/
def launchShared (W : Type) (digest : TokenDigest) (identity : IdentityDigest) :
    Shared (LaunchWorld W) W LaunchCall LaunchCall.Answer where
  answers := launchAnswers digest identity
  inv := LaunchInv
  evolves := LaunchEvolves
  spares := LaunchSpares
  evolves_refl s := ⟨List.prefix_rfl, fun _ plan h => ⟨plan, h, rfl⟩⟩
  evolves_trans h h' := by
    refine ⟨h.log.trans h'.log, fun planId plan hplan => ?_⟩
    obtain ⟨plan', hplan', hterms⟩ := h.plans planId plan hplan
    obtain ⟨plan'', hplan'', hterms'⟩ := h'.plans planId plan' hplan'
    exact ⟨plan'', hplan'', hterms'.trans hterms⟩
  spares_refl _ _ _ _ _ _ h := h
  spares_trans h _ hs hs' planId action hstart w' hposted :=
    hs planId action hstart w' (hs' planId action (h.log.subset hstart) w' hposted)

section Log

variable {log : List (LaunchEvent W)} {planId : String}

theorem LaunchEvent.isPosted_iff {action : OzonLaunchAction} {event : LaunchEvent W} :
    event.isPosted planId action ↔ ∃ w, event = .posted w planId action := by
  cases event <;> simp [isPosted]

theorem LaunchEvent.starts_iff {action : OzonLaunchAction} {event : LaunchEvent W} :
    event.starts planId action ↔
      ∃ author, event = .moved author planId action.stableStatus action.inProgressStatus := by
  cases event <;> simp [starts]

theorem statusOf_moved (author : Option W) (planId' : String) (source target : OzonLaunchStatus) :
    statusOf (log ++ [.moved author planId' source target]) planId =
      if planId' = planId then target else statusOf log planId := by
  simp [statusOf]

theorem statusOf_posted (w : W) (planId' : String) (action : OzonLaunchAction) :
    statusOf (log ++ [.posted w planId' action]) planId = statusOf log planId := by
  simp [statusOf]

theorem sourceOf_moved (author : Option W) (planId' : String) (source target : OzonLaunchStatus) :
    sourceOf (log ++ [.moved author planId' source target]) planId =
      if planId' = planId then source else sourceOf log planId := by
  simp [sourceOf]

theorem sourceOf_posted (w : W) (planId' : String) (action : OzonLaunchAction) :
    sourceOf (log ++ [.posted w planId' action]) planId = sourceOf log planId := by
  simp [sourceOf]

theorem statusOf_eq_prepared (h : ∀ author source target, .moved author planId source target ∉ log) :
    statusOf log planId = .prepared := by
  induction log using List.reverseRecOn with
  | nil => rfl
  | append_singleton log event ih =>
    have hlog : ∀ author source target, .moved author planId source target ∉ log :=
      fun author source target hmem => h author source target (List.mem_append_left _ hmem)
    cases event with
    | moved author planId' source target =>
      have hne : planId' ≠ planId := by
        rintro rfl
        exact h author source target (List.mem_append_right _ List.mem_cons_self)
      rw [statusOf_moved, if_neg hne, ih hlog]
    | posted w planId' action => rw [statusOf_posted, ih hlog]

end Log

section Steps

variable {s : LaunchWorld W} {db : Database} {planId : String} {plan plan' : PlanRow}
  {workflow workflow' : WorkflowRow}

/-- What a transaction on one plan does to the tables. -/
structure LaunchStep (db db' : Database) (planId : String) (plan plan' : PlanRow)
    (workflow workflow' : WorkflowRow) : Prop where
  old : db.plans planId = some plan
  pointer : db.workflows planId = some workflow
  plans : db'.plans = Function.update db.plans planId (some plan')
  workflows : db'.workflows = Function.update db.workflows planId (some workflow')
  guards : ∀ other, other ≠ planId → db'.guards other = db.guards other
  terms : plan'.toPlanTerms = plan.toPlanTerms
  move : plan'.status = plan.status ∨ LaunchMove workflow.action plan.status plan'.status
  held : plan'.status = .ambiguous → workflow'.action = workflow.action
  points : ∀ action ∈ pointed plan'.status, workflow'.action = action
  bound : startedBound plan.status workflow.action ≤ startedBound plan'.status workflow'.action
  applied : plan'.status = .applied → Applied db' plan'

/-- The pointer of a stored plan, the actions that may have been started, and the one in doubt. -/
theorem LaunchInv.pointer (hs : LaunchInv s) (hplan : s.db.plans planId = some plan)
    (hworkflow : s.db.workflows planId = some workflow) :
    (∀ action ∈ pointed plan.status, workflow.action = action) ∧
      (∀ action, ActionStarted s.log planId action →
        action.rank < startedBound plan.status workflow.action) ∧
      (plan.status = .ambiguous → sourceOf s.log planId = workflow.action.inProgressStatus) := by
  obtain ⟨stored, hstored, hpointed, hbound⟩ := hs.workflow planId plan hplan
  rw [hworkflow] at hstored
  cases hstored
  exact ⟨hpointed, hbound⟩

theorem LaunchStep.events (h : LaunchStep s.db db planId plan plan' workflow workflow')
    (hs : LaunchInv s) (author : Option W) :
    (s.commit author planId db).log = s.log ∧ plan'.status = plan.status ∨
      (s.commit author planId db).log =
        s.log ++ [.moved author planId plan.status plan'.status] ∧
      LaunchMove workflow.action plan.status plan'.status ∧
      LaunchJustified s.log (.moved author planId plan.status plan'.status) := by
  have hafter : db.plans planId = some plan' := by rw [h.plans, Function.update_self]
  by_cases hsame : plan.status = plan'.status
  · refine .inl ⟨?_, hsame.symm⟩
    rw [LaunchWorld.commit, h.old, hafter, statusEvents, if_pos hsame, List.append_nil]
  · have hmove := h.move.resolve_left (Ne.symm hsame)
    refine .inr ⟨?_, hmove, hs.current planId plan h.old,
      ⟨workflow.action, hmove, (hs.pointer h.old h.pointer).2.2⟩, ?_⟩
    · rw [LaunchWorld.commit, h.old, hafter, statusEvents, if_neg hsame]
    · intro action hcase hstarted
      have hlt := (hs.pointer h.old h.pointer).2.1 action hstarted
      have hbound := h.bound
      rcases hcase with hstable | ⟨hstable, -⟩
      · rw [hstable, startedBound_stable] at hbound
        omega
      · rw [hstable, startedBound_stable] at hlt
        omega

theorem started_of_move {author : Option W} {source target : OzonLaunchStatus}
    {action : OzonLaunchAction} {other : String}
    (h : ActionStarted (s.log ++ [.moved author planId source target]) other action)
    (hnew : ¬ ActionStarted s.log other action) :
    other = planId ∧ ∀ pointer, action.rank < startedBound target pointer := by
  obtain ⟨author', hmem⟩ := h
  rcases List.mem_append.mp hmem with hmem | hmem
  · exact absurd ⟨author', hmem⟩ hnew
  · obtain ⟨-, rfl, -, rfl⟩ := LaunchEvent.moved.inj (List.mem_singleton.mp hmem)
    refine ⟨rfl, fun pointer => ?_⟩
    rw [startedBound_inProgress]
    omega

theorem LaunchStep.keyed (h : LaunchStep s.db db planId plan plan' workflow workflow')
    (hs : LaunchInv s) : plan'.planId = planId := by
  rw [← hs.keyed planId plan h.old]
  exact congrArg PlanTerms.planId h.terms

theorem LaunchStep.applied_other (h : LaunchStep s.db db planId plan plan' workflow workflow')
    (hs : LaunchInv s) {other : String} {stored : PlanRow} (hne : other ≠ planId)
    (hstored : s.db.plans other = some stored) (hstatus : stored.status = .applied) :
    Applied db stored := by
  obtain ⟨campaignId, readback, guard, hcampaign, hreadback, hexact, hguard, hrest⟩ :=
    hs.applied other stored hstored hstatus
  refine ⟨campaignId, readback, guard, hcampaign, hreadback, hexact, ?_, hrest⟩
  rw [h.guards _ (by rwa [hs.keyed other stored hstored])]
  exact hguard

/-- An ambiguous plan came from the action its workflow points at. -/
theorem LaunchStep.source (h : LaunchStep s.db db planId plan plan' workflow workflow')
    (hs : LaunchInv s) (author : Option W) (hstatus : plan'.status = .ambiguous) :
    sourceOf (s.commit author planId db).log planId = workflow'.action.inProgressStatus := by
  rw [h.held hstatus]
  rcases h.events hs author with ⟨hlog, hsame⟩ | ⟨hlog, hmove, -⟩
  · rw [hlog, (hs.pointer h.old h.pointer).2.2 (hsame ▸ hstatus)]
  · rw [hlog, sourceOf_moved, if_pos rfl]
    exact hmove.source_of_ambiguous hstatus

theorem LaunchStep.plan_of_ne (h : LaunchStep s.db db planId plan plan' workflow workflow')
    {other : String} (hne : other ≠ planId) : db.plans other = s.db.plans other := by
  rw [h.plans, Function.update_of_ne hne]

theorem LaunchStep.plan_self (h : LaunchStep s.db db planId plan plan' workflow workflow') :
    db.plans planId = some plan' := by
  rw [h.plans, Function.update_self]

/-- The log gives the status of every plan. -/
theorem LaunchStep.current (h : LaunchStep s.db db planId plan plan' workflow workflow')
    (hs : LaunchInv s) (author : Option W) {other : String} {stored : PlanRow}
    (hstored : db.plans other = some stored) :
    stored.status = statusOf (s.commit author planId db).log other := by
  rcases eq_or_ne other planId with rfl | hne
  · rw [h.plan_self] at hstored
    cases hstored
    rcases h.events hs author with ⟨hlog, hsame⟩ | ⟨hlog, -⟩
    · rw [hlog, hsame, hs.current other plan h.old]
    · rw [hlog, statusOf_moved, if_pos rfl]
  · rw [h.plan_of_ne hne] at hstored
    rcases h.events hs author with ⟨hlog, -⟩ | ⟨hlog, -⟩
    · rw [hlog]
      exact hs.current other stored hstored
    · rw [hlog, statusOf_moved, if_neg (Ne.symm hne)]
      exact hs.current other stored hstored

/-- Every plan that moved is stored. -/
theorem LaunchStep.known (h : LaunchStep s.db db planId plan plan' workflow workflow')
    (hs : LaunchInv s) {author author' : Option W} {other : String} {source target : OzonLaunchStatus}
    (hmem : .moved author' other source target ∈ (s.commit author planId db).log) :
    db.plans other ≠ none := by
  rcases eq_or_ne other planId with rfl | hne
  · rw [h.plan_self]
    simp
  · rw [h.plan_of_ne hne]
    rcases h.events hs author with ⟨hlog, -⟩ | ⟨hlog, -⟩
    · rw [hlog] at hmem
      exact hs.known author' other source target hmem
    · rw [hlog] at hmem
      rcases List.mem_append.mp hmem with hmem | hmem
      · exact hs.known author' other source target hmem
      · exact absurd (LaunchEvent.moved.inj (List.mem_singleton.mp hmem)).2.1 hne

/-- The started actions of the plan stay below the bound of its new workflow. -/
theorem LaunchStep.started_self (h : LaunchStep s.db db planId plan plan' workflow workflow')
    (hs : LaunchInv s) {author : Option W} {action : OzonLaunchAction}
    (hstarted : ActionStarted (s.commit author planId db).log planId action) :
    action.rank < startedBound plan'.status workflow'.action := by
  by_cases hold : ActionStarted s.log planId action
  · exact ((hs.pointer h.old h.pointer).2.1 action hold).trans_le h.bound
  · rcases h.events hs author with ⟨hlog, -⟩ | ⟨hlog, -⟩
    · rw [hlog] at hstarted
      exact absurd hstarted hold
    · rw [hlog] at hstarted
      exact (started_of_move hstarted hold).2 _

/-- No action of another plan is started. -/
theorem LaunchStep.started_of_ne (h : LaunchStep s.db db planId plan plan' workflow workflow')
    (hs : LaunchInv s) {author : Option W} {other : String} {action : OzonLaunchAction}
    (hne : other ≠ planId) (hstarted : ActionStarted (s.commit author planId db).log other action) :
    ActionStarted s.log other action := by
  by_contra hnot
  rcases h.events hs author with ⟨hlog, -⟩ | ⟨hlog, -⟩
  · rw [hlog] at hstarted
    exact hnot hstarted
  · rw [hlog] at hstarted
    exact hne (started_of_move hstarted hnot).1

theorem LaunchStep.source_of_ne (h : LaunchStep s.db db planId plan plan' workflow workflow')
    (hs : LaunchInv s) (author : Option W) {other : String} (hne : other ≠ planId) :
    sourceOf (s.commit author planId db).log other = sourceOf s.log other := by
  rcases h.events hs author with ⟨hlog, -⟩ | ⟨hlog, -⟩
  · rw [hlog]
  · rw [hlog, sourceOf_moved, if_neg (Ne.symm hne)]

theorem LaunchStep.orderly (h : LaunchStep s.db db planId plan plan' workflow workflow')
    (hs : LaunchInv s) (author : Option W) :
    Orderly LaunchJustified (s.commit author planId db).log := by
  rcases h.events hs author with ⟨hlog, -⟩ | ⟨hlog, -, hjust⟩
  · rw [hlog]
    exact hs.orderly
  · rw [hlog]
    exact hs.orderly.snoc hjust

/-- **A step keeps the invariant.** -/
theorem LaunchStep.inv (h : LaunchStep s.db db planId plan plan' workflow workflow')
    (hs : LaunchInv s) (author : Option W) : LaunchInv (s.commit author planId db) where
  keyed other stored hstored := by
    rcases eq_or_ne other planId with rfl | hne
    · cases h.plan_self.symm.trans hstored
      exact h.keyed hs
    · exact hs.keyed other stored ((h.plan_of_ne hne).symm.trans hstored)
  current other stored hstored := h.current hs author hstored
  known author' other source target hmem := h.known hs hmem
  workflow other stored hstored := by
    rcases eq_or_ne other planId with rfl | hne
    · cases h.plan_self.symm.trans hstored
      have hworkflow : db.workflows other = some workflow' := by
        rw [h.workflows, Function.update_self]
      exact ⟨workflow', hworkflow, h.points, fun action => h.started_self hs, h.source hs author⟩
    · obtain ⟨pointer, hpointer, hpointed, hbound, hsource⟩ :=
        hs.workflow other stored ((h.plan_of_ne hne).symm.trans hstored)
      have hworkflow : db.workflows other = some pointer := by
        rw [h.workflows, Function.update_of_ne hne, hpointer]
      refine ⟨pointer, hworkflow, hpointed, fun action hstarted => ?_, fun hstatus => ?_⟩
      · exact hbound action (h.started_of_ne hs hne hstarted)
      · rw [h.source_of_ne hs author hne, hsource hstatus]
  applied other stored hstored hstatus := by
    rcases eq_or_ne other planId with rfl | hne
    · cases h.plan_self.symm.trans hstored
      exact h.applied hstatus
    · exact h.applied_other hs hne ((h.plan_of_ne hne).symm.trans hstored) hstatus
  orderly := h.orderly hs author

theorem LaunchStep.evolves (h : LaunchStep s.db db planId plan plan' workflow workflow')
    (hs : LaunchInv s) (author : Option W) : LaunchEvolves s (s.commit author planId db) ∧
      ∀ w, LaunchSpares w s (s.commit author planId db) := by
  refine ⟨⟨List.prefix_append _ _, fun other stored hstored => ?_⟩,
    fun w other action _ w' hposted => ?_⟩
  · rcases eq_or_ne other planId with rfl | hne
    · cases h.old.symm.trans hstored
      exact ⟨plan', h.plan_self, h.terms⟩
    · exact ⟨stored, (h.plan_of_ne hne).trans hstored, rfl⟩
  · rcases h.events hs author with ⟨hlog, -⟩ | ⟨hlog, -⟩
    · rwa [hlog] at hposted
    · rw [hlog] at hposted
      simpa using hposted

theorem LaunchStep.of_pointer (hs : LaunchInv s) (hplan : s.db.plans planId = some plan)
    (hworkflow : s.db.workflows planId = some workflow) (haction : workflow'.action = workflow.action)
    (hplans : db.plans = s.db.plans) (hguards : db.guards = s.db.guards)
    (hworkflows : db.workflows = Function.update s.db.workflows planId (some workflow')) :
    LaunchStep s.db db planId plan plan workflow workflow' where
  old := hplan
  pointer := hworkflow
  plans := by rw [hplans, ← hplan, Function.update_eq_self]
  workflows := hworkflows
  guards other _ := by rw [hguards]
  terms := rfl
  move := .inl rfl
  held _ := haction
  points action hmem := haction.trans ((hs.pointer hplan hworkflow).1 action hmem)
  bound := by rw [haction]
  applied hstatus := by
    obtain ⟨campaignId, readback, guard, hcampaign, hreadback, hexact, hguard, hrest⟩ :=
      hs.applied planId plan hplan hstatus
    exact ⟨campaignId, readback, guard, hcampaign, hreadback, hexact, hguards ▸ hguard, hrest⟩

theorem LaunchStep.of_move (hplan : s.db.plans planId = some plan)
    (hworkflow : s.db.workflows planId = some workflow) (haction : workflow'.action = workflow.action)
    (hplans : db.plans = Function.update s.db.plans planId (some plan'))
    (hguards : db.guards = s.db.guards)
    (hworkflows : db.workflows = Function.update s.db.workflows planId (some workflow'))
    (hterms : plan'.toPlanTerms = plan.toPlanTerms)
    (hmove : LaunchMove workflow.action plan.status plan'.status)
    (hpoints : ∀ action ∈ pointed plan'.status, workflow.action = action)
    (hbound : startedBound plan.status workflow.action ≤ startedBound plan'.status workflow.action)
    (happlied : plan'.status ≠ .applied) :
    LaunchStep s.db db planId plan plan' workflow workflow' where
  old := hplan
  pointer := hworkflow
  plans := hplans
  workflows := hworkflows
  guards other _ := by rw [hguards]
  terms := hterms
  move := .inr hmove
  held _ := haction
  points action hmem := haction.trans (hpoints action hmem)
  bound := by rwa [haction]
  applied hstatus := absurd hstatus happlied

end Steps

/-! ## What a transaction does -/

section Transactions

variable {s : LaunchWorld W} {db : Database} {now : ℤ} {digest : TokenDigest}
  {identity : IdentityDigest} {lease : OzonLaunchLease} {plan : PlanRow} {planId : String}

/-- Some step on the plan. -/
def Steps (db db' : Database) (planId : String) : Prop :=
  ∃ plan plan' workflow workflow', LaunchStep db db' planId plan plan' workflow workflow'

theorem putPlan_plans (db : Database) {row : PlanRow} (h : row.planId = planId) :
    (db.putPlan row).plans = Function.update db.plans planId (some row) := by
  rw [Database.putPlan, h]

theorem putWorkflow_workflows {db db' : Database} (h : db'.workflows = db.workflows)
    (row : WorkflowRow) : (db'.putWorkflow planId row).workflows =
      Function.update db.workflows planId (some row) := by
  rw [Database.putWorkflow, h]

theorem requireLease_ok {workflow : WorkflowRow} (h : requireLease s.db now lease = .ok workflow) :
    s.db.workflows lease.plan.planId = some workflow ∧ workflow.action = lease.action := by
  simp only [requireLease, ok_of_bind, context_eq_ok, ensure_eq_ok, ok_of_pure] at h
  obtain ⟨_, hworkflow, -, ⟨haction, -⟩, rfl⟩ := h
  exact ⟨hworkflow, haction⟩

theorem authorizeClaim_ok {action : OzonLaunchAction} {mode : OzonLaunchClaimMode}
    {terms : PlanTerms} {db db' : Database} (h : authorizeClaim db now terms action mode = .ok db') :
    SameLaunches db db' := by
  cases mode with
  | reconcile =>
    cases h
    exact ⟨rfl, rfl, rfl⟩
  | execute =>
    simp only [authorizeClaim, ok_of_bind] at h
    obtain ⟨-, -, -, -, -, -, h⟩ := h
    split at h
    · simp only [reserveSku, ok_of_bind, ok_of_pure] at h
      obtain ⟨-, -, rfl⟩ := h
      exact ⟨rfl, rfl, rfl⟩
    · cases h
      exact ⟨rfl, rfl, rfl⟩

theorem claimWorkflowLocked_ok {workerId : String} (hs : LaunchInv s)
    (hplan : s.db.plans planId = some plan)
    (h : claimWorkflowLocked digest s.db now plan workerId = .ok (db, lease)) :
    lease.plan = plan ∧ db.plans = s.db.plans ∧ Steps s.db db planId := by
  obtain rfl := hs.keyed planId plan hplan
  simp only [claimWorkflowLocked, ok_of_bind, ensure_eq_ok, context_eq_ok, ok_of_pure,
    Prod.mk.injEq] at h
  obtain ⟨-, -, workflow, hworkflow, -, -, mode, -, mid, hmid, generation, -, rfl, rfl⟩ := h
  obtain ⟨hplans, hworkflows, hguards⟩ := authorizeClaim_ok hmid
  refine ⟨rfl, hplans, plan, plan, workflow, _, .of_pointer hs hplan hworkflow ?_ hplans hguards
    (putWorkflow_workflows hworkflows _)⟩
  rfl

theorem sweepStaleLaunchRequest_ok {swept : Option String} {accountId : String} (hs : LaunchInv s)
    (h : sweepStaleLaunchRequest s.db now swept accountId = .ok db) :
    db = s.db ∨ ∃ planId, swept = some planId ∧ Steps s.db db planId := by
  unfold sweepStaleLaunchRequest at h
  split at h
  · cases h
    exact .inl rfl
  · rename_i plan hswept
    obtain ⟨planId, rfl, hplan⟩ := Option.bind_eq_some_iff.mp hswept
    obtain rfl := hs.keyed planId plan hplan
    simp only [ok_of_bind, ensure_eq_ok, context_eq_ok, ok_of_pure] at h
    obtain ⟨workflow, hworkflow, -, ⟨-, hstatus, -⟩, rfl⟩ := h
    have hpointer := (hs.pointer hplan hworkflow).1 .createCampaign (by rw [hstatus]; rfl)
    refine .inr ⟨plan.planId, rfl, plan, _, workflow, workflow, .of_move hplan hworkflow rfl
      (putPlan_plans s.db rfl) rfl ?_ rfl ?_ ?_ ?_ ?_⟩
    · rw [← hworkflow, Function.update_eq_self]
      rfl
    · rw [hstatus]
      exact .expire
    · intro action hmem
      cases hmem
      exact hpointer
    · rw [hstatus]
      exact le_rfl
    · simp

theorem startLaunchWrite_ok {preflightDigest : Option String} {u : Unit} (hs : LaunchInv s)
    (h : startLaunchWrite identity s.db now lease preflightDigest = .ok (db, u)) :
    ∃ plan plan' workflow workflow', plan.status = lease.action.stableStatus ∧
      plan'.status = lease.action.inProgressStatus ∧
      LaunchStep s.db db lease.plan.planId plan plan' workflow workflow' := by
  simp only [startLaunchWrite, ok_of_bind, ensure_eq_ok, context_eq_ok, ok_of_pure,
    Prod.mk.injEq] at h
  obtain ⟨-, -, -, -, plan, hplan, workflow, hlease, -, ⟨-, -, hstatus⟩, -, -, -, -, -, -, -, -, -, -,
    rfl, -⟩ := h
  obtain ⟨hworkflow, haction⟩ := requireLease_ok hlease
  have hkey := hs.keyed _ plan hplan
  refine ⟨plan, { plan with status := lease.action.inProgressStatus }, workflow, _, hstatus, rfl,
    .of_move hplan hworkflow ?_ (putPlan_plans _ hkey) rfl (putWorkflow_workflows rfl _) rfl
      ?_ ?_ ?_ ?_⟩
  · rfl
  · rw [hstatus, haction]
    exact .start
  · intro action hmem
    rw [pointed_inProgress] at hmem
    cases hmem
    exact haction
  · rw [hstatus, startedBound_stable, startedBound_inProgress]
    omega
  · cases lease.action <;> simp [OzonLaunchAction.inProgressStatus]

theorem failLaunchAction_ok {errorClass : String} {campaignId : Option ℕ} (hs : LaunchInv s)
    (h : failLaunchAction s.db now lease errorClass campaignId = .ok db) :
    Steps s.db db lease.plan.planId := by
  simp only [failLaunchAction, ok_of_bind, ensure_eq_ok, context_eq_ok, ok_of_pure] at h
  obtain ⟨-, -, -, -, -, -, plan, hplan, workflow, hlease, -, ⟨hstatus, -, -⟩, -, -, rfl⟩ := h
  obtain ⟨hworkflow, haction⟩ := requireLease_ok hlease
  have hkey := hs.keyed _ plan hplan
  refine ⟨plan, _, workflow, _, .of_move hplan hworkflow ?_ (putPlan_plans _ hkey) rfl
    (putWorkflow_workflows rfl _) rfl ?_ ?_ ?_ ?_⟩
  · rfl
  · rw [hstatus, haction]
    exact .fail
  · intro action hmem
    cases hmem
  · rw [hstatus, startedBound_stable, haction]
    rfl
  · simp

theorem releaseLaunchLease_ok {errorClass : String} {u : Unit} (hs : LaunchInv s)
    (hplan : s.db.plans lease.plan.planId = some plan)
    (h : releaseLaunchLease s.db now lease errorClass = .ok (db, u)) :
    Steps s.db db lease.plan.planId := by
  simp only [releaseLaunchLease, ok_of_bind, ensure_eq_ok, context_eq_ok, ok_of_pure,
    Prod.mk.injEq] at h
  obtain ⟨-, -, -, -, workflow, hworkflow, -, -, rfl, -⟩ := h
  refine ⟨plan, plan, workflow, _, .of_pointer hs hplan hworkflow ?_ rfl rfl
    (putWorkflow_workflows rfl _)⟩
  rfl

theorem enqueueLaunch_ok {actorId expectedDigest : String} (hs : LaunchInv s)
    (h : enqueueLaunch s.db now planId actorId expectedDigest = .ok db) : Steps s.db db planId := by
  simp only [enqueueLaunch, ok_of_bind, ensure_eq_ok, context_eq_ok] at h
  obtain ⟨-, -, -, -, -, -, plan, hplan, -, -, workflow, hworkflow, h⟩ := h
  split at h
  · simp only [ok_of_bind, ensure_eq_ok, ok_of_pure] at h
    obtain ⟨-, -, rfl⟩ := h
    refine ⟨plan, plan, workflow, workflow, .of_pointer hs hplan hworkflow rfl rfl rfl ?_⟩
    rw [← hworkflow, Function.update_eq_self]
  · simp only [ok_of_bind, ensure_eq_ok, ok_of_pure] at h
    obtain ⟨-, -, -, -, -, -, -, -, -, -, -, -, rfl⟩ := h
    refine ⟨plan, plan, workflow, _, .of_pointer hs hplan hworkflow ?_ rfl rfl
      (putWorkflow_workflows rfl _)⟩
    rfl

theorem markLaunchAmbiguous_ok {errorClass : String} {campaignId : Option ℕ}
    {readback : Option Readback} (hs : LaunchInv s)
    (h : markLaunchAmbiguous s.db now lease errorClass campaignId readback = .ok db) :
    Steps s.db db lease.plan.planId := by
  simp only [markLaunchAmbiguous, ok_of_bind, context_eq_ok, ok_of_pure] at h
  obtain ⟨-, -, -, -, plan, hplan, workflow, hlease, -, -, plan', hplan', rfl⟩ := h
  obtain ⟨hworkflow, haction⟩ := requireLease_ok hlease
  have hkey := hs.keyed _ plan hplan
  unfold ambiguousPlan at hplan'
  split at hplan'
  · cases hplan'
    refine ⟨plan, plan, workflow, _, .of_pointer hs hplan hworkflow ?_ ?_ rfl
      (putWorkflow_workflows rfl _)⟩
    · rfl
    · rw [show (closeWorkflowAsAmbiguous _ _ _ _ _ _).plans = (s.db.putPlan plan).plans from rfl,
        putPlan_plans s.db hkey, ← hplan, Function.update_eq_self]
  · simp only [ok_of_bind, ensure_eq_ok, ok_of_pure] at hplan'
    obtain ⟨-, hstatus, rfl⟩ := hplan'
    refine ⟨plan, _, workflow, _, .of_move hplan hworkflow ?_ (putPlan_plans _ hkey) rfl
      (putWorkflow_workflows rfl _) rfl ?_ ?_ ?_ ?_⟩
    · rfl
    · rw [hstatus, haction]
      exact .uncertain
    · intro action hmem
      cases hmem
    · rw [hstatus, startedBound_inProgress, haction]
      rfl
    · simp

/-- The running campaign is proven by the readback of a completion. -/
def Proven (lease : OzonLaunchLease) (campaignId : Option ℕ) (readback : Option Readback) : Prop :=
  ∃ campaign proof, campaignId = some campaign ∧ readback = some proof ∧
    exactRunningReadback proof campaign lease.plan.toPlanTerms

theorem validateCompletion_ok {campaignId effective : Option ℕ} {readback : Option Readback}
    {forceApplied : Bool} {target : OzonLaunchStatus}
    (hforce : forceApplied → Proven lease campaignId readback)
    (h : validateCompletion lease campaignId readback forceApplied = .ok (effective, target)) :
    (target = .applied ∨ target = lease.action.completedStatus) ∧
      (target = .applied → Proven lease effective readback) := by
  simp only [validateCompletion, ok_of_bind, ensure_eq_ok] at h
  obtain ⟨-, -, -, -, -, -, -, -, h⟩ := h
  split at h
  · rename_i hforced
    simp only [ok_of_pure, Prod.mk.injEq] at h
    obtain ⟨rfl, rfl⟩ := h
    obtain ⟨campaign, proof, rfl, hproof⟩ := hforce hforced
    exact ⟨.inl rfl, fun _ => ⟨campaign, proof, rfl, hproof⟩⟩
  · simp only [ok_of_bind, ensure_eq_ok, context_eq_ok, ok_of_pure, Prod.mk.injEq] at h
    obtain ⟨campaign, hcampaign, proof, hproof, -, hexact, rfl, rfl⟩ := h
    refine ⟨.inr rfl, fun happlied => ⟨campaign, proof, hcampaign, hproof, ?_⟩⟩
    cases haction : lease.action <;> rw [haction] at happlied hexact
    · cases happlied
    · cases happlied
    · exact hexact

theorem insertGuardIfApplied_ok {db db' : Database} {terms : PlanTerms} {campaignId : Option ℕ}
    {target : OzonLaunchStatus}
    (h : insertGuardIfApplied db terms campaignId target = .ok db') :
    db'.plans = db.plans ∧ db'.workflows = db.workflows ∧
      (∀ other, other ≠ terms.planId → db'.guards other = db.guards other) ∧
      (target = .applied → ∀ campaign, campaignId = some campaign → ∃ guard,
        db'.guards terms.planId = some guard ∧ guard.status = .active ∧
        guard.toGuardTerms = launchGuard terms campaign) := by
  unfold insertGuardIfApplied at h
  split at h
  · simp only [insertGuard, ok_of_bind, ensure_eq_ok, context_eq_ok, ok_of_pure] at h
    obtain ⟨campaign, rfl, -, ⟨hterms, hactive⟩, rfl⟩ := h
    refine ⟨rfl, rfl, fun other hne => Function.update_of_ne hne .., fun _ campaign' heq => ?_⟩
    cases heq
    exact ⟨_, Function.update_self .., hactive, hterms⟩
  · rename_i hnot
    cases h
    exact ⟨rfl, rfl, fun _ _ => rfl, fun happlied => absurd happlied hnot⟩

/-- A lease completes an action that is in progress under it, or that is ambiguous. -/
theorem completable_status {workflow : WorkflowRow} (hs : LaunchInv s)
    (hplan : s.db.plans planId = some plan) (hworkflow : s.db.workflows planId = some workflow)
    (haction : workflow.action = lease.action) (h : completable lease plan.status) :
    plan.status = lease.action.inProgressStatus ∨ plan.status = .ambiguous := by
  have hpointer := (hs.pointer hplan hworkflow).1
  rw [haction] at hpointer
  unfold completable at h
  split at h
  · exact .inl (of_decide_eq_true h)
  · cases hstatus : plan.status <;> rw [hstatus] at h hpointer
    case creating => exact .inl (by rw [hpointer _ rfl]; rfl)
    case addingProducts => exact .inl (by rw [hpointer _ rfl]; rfl)
    case activating => exact .inl (by rw [hpointer _ rfl]; rfl)
    case ambiguous => exact .inr rfl
    all_goals cases h

/-- A completion leads along the launch, and its workflow continues with the next action. -/
theorem completion_move {status target : OzonLaunchStatus} {action : OzonLaunchAction}
    (hstatus : status = lease.action.inProgressStatus ∨ status = .ambiguous)
    (htarget : target = .applied ∨ target = lease.action.completedStatus)
    (haction : nextAction lease target = .ok action) :
    LaunchMove lease.action status target ∧ target ≠ .ambiguous ∧ (∀ a ∈ pointed target, action = a) ∧
      startedBound status lease.action ≤ startedBound target action := by
  have hbound : startedBound status lease.action = lease.action.rank + 1 := by
    rcases hstatus with rfl | rfl
    · exact startedBound_inProgress _ _
    · rfl
  have hmove : LaunchMove lease.action status target := by
    rcases hstatus with rfl | rfl <;> rcases htarget with rfl | rfl
    · exact .confirm
    · exact .complete
    · exact .prove
    · exact .recover
  have hcertain : target ≠ .ambiguous := by
    rcases htarget with rfl | rfl
    · simp
    · cases lease.action <;> simp [OzonLaunchAction.completedStatus]
  refine ⟨hmove, hcertain, ?_⟩
  have hrank := lease.action.rank_lt
  unfold nextAction at haction
  split at haction
  · rename_i happlied
    subst happlied
    cases haction
    refine ⟨fun a hmem => Option.some.inj hmem, ?_⟩
    rw [hbound]
    exact hrank
  · rename_i hnot
    obtain rfl := htarget.resolve_left hnot
    rw [context_eq_ok] at haction
    rw [hbound]
    cases hcurrent : lease.action <;> rw [hcurrent] at haction <;> cases haction
    · exact ⟨fun a hmem => Option.some.inj hmem, le_rfl⟩
    · exact ⟨fun a hmem => Option.some.inj hmem, le_rfl⟩

theorem completeLaunchActionInner_ok {campaignId : Option ℕ} {readback : Option Readback}
    {forceApplied : Bool} (hs : LaunchInv s) (hplan : s.db.plans lease.plan.planId = some plan)
    (hterms : plan.toPlanTerms = lease.plan.toPlanTerms)
    (hforce : forceApplied → Proven lease campaignId readback)
    (h : completeLaunchActionInner identity s.db now lease campaignId readback forceApplied =
      .ok db) : Steps s.db db lease.plan.planId := by
  simp only [completeLaunchActionInner, ok_of_bind, ensure_eq_ok, context_eq_ok, ok_of_pure] at h
  obtain ⟨⟨effective, target⟩, hvalid, stored, hstored, workflow, hlease, -, -, -, hcompletable, -, -,
    mid, hmid, action, haction, rfl⟩ := h
  rw [hplan] at hstored
  cases hstored
  obtain ⟨hworkflow, hcurrent⟩ := requireLease_ok hlease
  obtain ⟨htarget, hproven⟩ := validateCompletion_ok hforce hvalid
  obtain ⟨hmove, hcertain, hpoints, hbound⟩ := completion_move
    (completable_status hs hplan hworkflow hcurrent hcompletable) htarget haction
  obtain ⟨hplans, hworkflows, hguards, hguard⟩ := insertGuardIfApplied_ok hmid
  have hkey := hs.keyed _ plan hplan
  refine ⟨plan, _, workflow, _, hplan, hworkflow, hplans.trans (putPlan_plans s.db hkey),
    putWorkflow_workflows hworkflows _, fun other hne => hguards other (hkey ▸ hne), rfl,
    .inr (hcurrent ▸ hmove), fun hstatus => absurd hstatus hcertain, hpoints, ?_, fun happlied => ?_⟩
  · rw [hcurrent]
    exact hbound
  · obtain ⟨campaign, proof, rfl, hproof, hexact⟩ := hproven happlied
    obtain ⟨guard, hstoredGuard, hactive, hguardTerms⟩ := hguard happlied campaign rfl
    refine ⟨campaign, proof, guard, rfl, ?_, ?_, hstoredGuard, hactive, hguardTerms⟩
    · rw [← hproof]
      exact if_pos happlied
    · exact hterms ▸ hexact

end Transactions

end AdsControl.Ozon
