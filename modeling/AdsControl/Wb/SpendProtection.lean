import AdsControl.Wb.Protocol

/-!
# Spend protection of the automatic cycle

An active campaign at its pause threshold should leave the cycle paused or locked. The decision puts
the pause ahead of quota and cooldown, but the reservation of the pause is subject to the daily
quota again, and the lock that should stand in for it needs the spend to reach the cap.

* `automaticCycle`: one automatic cycle up to its reservation or lock (`automaticCycle_run`);
* `Overspent`: the situation in which protection is due; `ProtectedBy`: what it should leave;
* **`overspent_protected_iff`**: exactly when the cycle protects the campaign.
-/

namespace AdsControl.Wb

open Fallible Transition WbAutomationAction

/-! ## The automatic cycle -/

/-- Run one transaction after the observation is persisted. -/
def commitPlan (ex : Executor) (db : Database) (now : ℤ) (state : WbAutomationDatabaseState)
    (snapshot : WbAutomationSnapshot) : CyclePlan → Except String Database
  | .reconcile key => do
    let action ← (loadPendingAction db key state.revision).mapError
      WbAutomationPostgresError.message
    reconcilePostgresPending db now snapshot.observation action state.revision
      (ex.digests.cycleId snapshot)
  | .finish => .ok db
  | .lock => ((markIncidentWithoutAction db (ex.digests.cycleId snapshot) state.revision
      (wbAutomationBusinessDate snapshot.observation.observedAt)
      "daily_spend_cap_breached").map Prod.fst).mapError WbAutomationPostgresError.message
  | .reserve pending => ((reserveActionWithQuotaOverride db now
      (reservationFor ex state snapshot pending none) none).map Prod.fst).mapError
        WbAutomationPostgresError.message

/-- One automatic cycle up to its reservation or lock; `now` is the clock of the database. The cycle is
judged at the reservation: a write that is refused afterwards cancels the action. -/
def automaticCycle (ex : Executor) (db : Database) (now : ℤ) (raw : WbAutomationObservation)
    (lastApplied : Option WbAutomationSnapshot) : Except String Database := do
  let snapshot ← decideCycle ex db.state raw .automatic lastApplied
  let persisted ← (persistShadowCycle db (cycleRow ex db.state snapshot)).mapError
    WbAutomationPostgresError.message
  commitPlan ex persisted.1 now db.state snapshot (planCycle ex.policy db.state snapshot .automatic)

variable {ex : Executor} {db db' : Database} {now : ℤ} {raw : WbAutomationObservation}
  {lastApplied : Option WbAutomationSnapshot}

/-- The cycle is a run of the executor. -/
theorem automaticCycle_run (h : automaticCycle ex db now raw lastApplied = .ok db')
    (trace : List Event) :
    ∃ phase, Relation.ReflTransGen (Step ex) ⟨db, .idle, trace⟩ ⟨db', phase, trace⟩ := by
  simp only [automaticCycle, ok_of_bind, ok_of_mapError] at h
  obtain ⟨snapshot, hdec, ⟨persisted, inserted⟩, hper, h⟩ := h
  have decided : Relation.ReflTransGen (Step ex) ⟨db, .idle, trace⟩ _ :=
    .single (Step.decide raw .automatic lastApplied none (by simp) hdec)
  have stored := decided.tail (Step.persist hper)
  cases hplan : planCycle ex.policy db.state snapshot .automatic with
  | reconcile key =>
    simp only [hplan, commitPlan, ok_of_bind, ok_of_mapError] at h
    obtain ⟨action, hload, h⟩ := h
    exact ⟨_, stored.tail (Step.reconcile now hplan hload h)⟩
  | finish =>
    simp only [hplan, commitPlan, Except.ok.injEq] at h
    exact ⟨_, h ▸ stored.tail (Step.finish hplan)⟩
  | lock =>
    simp only [hplan, commitPlan, ok_of_map, ok_of_mapError] at h
    obtain ⟨⟨locked, receipt⟩, h, rfl⟩ := h
    exact ⟨_, stored.tail (Step.lock hplan h)⟩
  | reserve pending =>
    simp only [hplan, commitPlan, ok_of_map, ok_of_mapError] at h
    obtain ⟨⟨reserved, receipt⟩, h, rfl⟩ := h
    exact ⟨_, stored.tail (Step.reserve now hplan h)⟩

/-! ## Where protection is due -/

/-- An active campaign at its pause threshold inside the write window, on a clean state row that
meets its column checks, with identifiers that are new to the tables. -/
structure Overspent (ex : Executor) (db : Database) (raw : WbAutomationObservation) : Prop where
  policy : validatePolicy ex.policy = .ok ()
  writes : ex.policy.writeEnabled = true
  digest : db.state.policyDigest = ex.policySha256
  legacy : db.state.importedLegacyDigest = some ex.legacyDigest
  pending : db.state.pendingIdempotencyKey = none
  incident : db.state.incidentClass = none
  actions_le : db.state.actionsToday ≤ 500
  paused_le : ∀ day, db.state.pausedForDailyCapOn = some day → day ≤ db.state.businessDate
  observation : ∃ observations,
    validateObservation ex.policy { raw with lastActionAt := none } = .ok observations
  observed : ex.policy.observeUntil ≤ raw.observedAt
  active : raw.observedAt < ex.policy.authorizationExpiresAt
  status : raw.campaignStatus = 9
  budget : 0 < raw.budgetRemainingMinor
  complete : raw.dailySpendComplete = true
  spend : ex.policy.dailyPauseThresholdMinor ≤ raw.dailySpendMinor
  fresh_cycle : ∀ snapshot, snapshot.observation.observedAt = raw.observedAt →
    db.cycles (ex.digests.cycleId snapshot) = none
  fresh_key : ∀ snapshot request, snapshot.observation.observedAt = raw.observedAt →
    db.actions (ex.digests.idempotencyKey (ex.digests.cycleId snapshot) request none) = none

/-- The campaign is locked, or its pause is reserved. -/
def ProtectedBy (db : Database) : Prop :=
  db.state.incidentClass.isSome = true ∨ ∃ k a, db.state.pendingIdempotencyKey = some k ∧
    db.actions k = some a ∧ a.status = .reserved ∧ a.actionKind = .pauseCampaignForDailyCap

/-- No recorded action lies after `t`. -/
def NoActionAfter (state : WbAutomationDatabaseState) (t : ℤ) : Prop :=
  ∀ last, state.lastActionAt = some last → last ≤ t

/-! ## The decision -/

/-- The snapshot of a cycle that decides to pause. -/
def pauseSnapshot (ex : Executor) (state : WbAutomationDatabaseState)
    (raw : WbAutomationObservation) : WbAutomationSnapshot :=
  ⟨observeWith state raw,
    ⟨ex.policy.accountId, ex.policy.campaignId, raw.observedAt, pauseCampaignForDailyCap, []⟩⟩

@[simp] theorem pauseSnapshot_observedAt (state : WbAutomationDatabaseState) :
    (pauseSnapshot ex state raw).observation.observedAt = raw.observedAt :=
  rfl

theorem validateObservation_observeWith {policy : WbAutomationPolicy}
    {state : WbAutomationDatabaseState} (hlast : NoActionAfter state raw.observedAt) :
    validateObservation policy (observeWith state raw) =
      validateObservation policy { raw with lastActionAt := none } := by
  have hany : (state.lastActionAt.any fun last => decide (raw.observedAt < last)) = false := by
    cases hst : state.lastActionAt with
    | none => rfl
    | some last => simpa using hlast last hst
  unfold validateObservation observeWith
  simp only [hany, Option.any_none]

theorem noActionAfter_of_validate {policy : WbAutomationPolicy} {state : WbAutomationDatabaseState}
    {observations : SkuMap}
    (h : validateObservation policy (observeWith state raw) = .ok observations) :
    NoActionAfter state raw.observedAt :=
  (observedBy_of_validateObservation h).lastAction_le

theorem campaignGate_overspent (h : Overspent ex db raw) :
    campaignGate ex.policy (observeWith db.state raw) = some pauseCampaignForDailyCap := by
  have hb := bounds_of_validatePolicy h.policy
  have h1 := h.observed
  have h2 := h.active
  have h3 := hb.authorized_lt_observe
  unfold campaignGate observeWith
  dsimp only
  rw [if_neg (by omega), if_neg (by omega), if_neg (by simp [h.writes]), if_neg (by omega),
    if_neg h.budget.ne', if_neg (by simp [h.complete]), if_pos ⟨h.status, h.spend⟩]

theorem replacement_pause {policy : WbAutomationPolicy} {snapshot : WbAutomationSnapshot}
    (h : snapshot.decision.action = pauseCampaignForDailyCap) :
    replacementDecision policy snapshot lastApplied .automatic = .ok none := by
  unfold replacementDecision trafficFrontierPacingDecision autonomousExposurePacingDecision
  simp [h]

/-- **The cycle decides to pause**, unless the last action lies after the observation. -/
theorem decideCycle_overspent (h : Overspent ex db raw) (snapshot : WbAutomationSnapshot) :
    decideCycle ex db.state raw .automatic lastApplied = .ok snapshot ↔
      NoActionAfter db.state raw.observedAt ∧ snapshot = pauseSnapshot ex db.state raw := by
  obtain ⟨observations, hobs⟩ := h.observation
  have hgate := campaignGate_overspent h
  simp only [decideCycle, evaluateWbAutomation, applyPostgresExecutionIntent, gatedAction, hgate,
    ok_of_bind, ensure_eq_ok, ok_of_mapError, ok_of_pure, h.writes, h.digest, h.legacy, h.policy,
    exists_const]
  constructor
  · rintro ⟨-, -, -, -, decision, ⟨-, observed, hval, result, hres, hdec⟩, replacement, hrep, hsnap⟩
    rw [Except.ok.injEq] at hres
    subst hres hdec
    rw [replacement_pause rfl, Except.ok.injEq] at hrep
    subst hrep
    exact ⟨noActionAfter_of_validate hval, (ok_of_pure.mp hsnap).symm⟩
  · rintro ⟨hlast, rfl⟩
    have hval := (validateObservation_observeWith hlast).trans hobs
    exact ⟨trivial, ⟨trivial, trivial⟩, .inl trivial, .inl (by simp), _, ⟨trivial, _, hval, _, rfl, rfl⟩, _,
      replacement_pause rfl, rfl⟩

/-! ## The transaction -/

/-- The database with the cycle of the pause snapshot. -/
def withPauseCycle (ex : Executor) (db : Database) (raw : WbAutomationObservation) : Database :=
  let row := cycleRow ex db.state (pauseSnapshot ex db.state raw)
  { db with cycles := Function.update db.cycles row.cycleId (some row) }

theorem persist_overspent (h : Overspent ex db raw) :
    persistShadowCycle db (cycleRow ex db.state (pauseSnapshot ex db.state raw)) =
      .ok (withPauseCycle ex db raw, true) := by
  have hfresh : db.cycles (cycleRow ex db.state (pauseSnapshot ex db.state raw)).cycleId = none :=
    h.fresh_cycle _ rfl
  simp only [persistShadowCycle, ok_of_bind, ensure_eq_ok, hfresh]
  exact ⟨(), ⟨rfl, h.digest⟩, rfl⟩

/-- The pause is reserved while the quota has room or the cap is not reached, else the campaign is
locked. -/
theorem planCycle_overspent (h : Overspent ex db raw) :
    planCycle ex.policy db.state (pauseSnapshot ex db.state raw) .automatic =
      if stateActionsToday db.state (wbAutomationBusinessDate raw.observedAt) <
          ex.policy.maxActionsPerDay ∨ raw.dailySpendMinor < ex.policy.dailySpendCapMinor then
        .reserve ⟨raw.observedAt, .pauseCampaignForDailyCap⟩ else .lock := by
  have hbreach : ∀ room : Bool, dailyCapBreachRequiresLock ex.policy
      (pauseSnapshot ex db.state raw).observation (pauseSnapshot ex db.state raw).decision room =
        (decide (ex.policy.dailySpendCapMinor ≤ raw.dailySpendMinor) && !room) := fun room => by
    cases room <;> rfl
  unfold planCycle
  rw [h.pending]
  dsimp only
  rw [if_neg (by simp [h.incident]), hbreach]
  split_ifs with hlock hplan hplan
  · simp only [Bool.and_eq_true, decide_eq_true_eq, Bool.not_eq_true', decide_eq_false_iff_not]
      at hlock
    exact absurd hplan (not_or.mpr ⟨hlock.2.2, by omega⟩)
  · rfl
  · rfl
  · refine absurd ⟨by simp, ?_⟩ hlock
    rw [not_or] at hplan
    simp only [Bool.and_eq_true, decide_eq_true_eq, Bool.not_eq_true', decide_eq_false_iff_not]
    exact ⟨not_lt.mp hplan.2, hplan.1⟩

theorem withPauseCycle_lookup :
    (withPauseCycle ex db raw).cycles (ex.digests.cycleId (pauseSnapshot ex db.state raw)) =
      some (cycleRow ex db.state (pauseSnapshot ex db.state raw)) :=
  Function.update_self _ _ _

/-- The actions counted before a write on `date`. -/
def carriedActions (state : WbAutomationDatabaseState) (date : ℤ) : ℕ :=
  if state.businessDate < date then 0 else state.actionsToday

/-- The state row after a lock on `date`. -/
def lockedRow (state : WbAutomationDatabaseState) (date : ℤ) : WbAutomationDatabaseState :=
  { state with
    businessDate := date
    actionsToday := carriedActions state date
    incidentClass := some "daily_spend_cap_breached"
    revision := state.revision + 1 }

/-- The state row after a reservation on `date`. -/
def reservedRow (state : WbAutomationDatabaseState) (date now : ℤ) (key : String) :
    WbAutomationDatabaseState :=
  { state with
    businessDate := date
    actionsToday := carriedActions state date + 1
    lastActionAt := some now
    pendingIdempotencyKey := some key
    revision := state.revision + 1 }

theorem carriedActions_le {state : WbAutomationDatabaseState} {date : ℤ}
    (h : state.actionsToday ≤ 500) : carriedActions state date ≤ 500 := by
  unfold carriedActions
  split_ifs <;> omega

theorem carriedActions_eq {state : WbAutomationDatabaseState} {date : ℤ}
    (h : state.businessDate ≤ date) : carriedActions state date = stateActionsToday state date := by
  unfold carriedActions stateActionsToday
  split_ifs <;> omega

theorem paused_le_date (h : Overspent ex db raw) {date : ℤ} (hdate : db.state.businessDate ≤ date) :
    (db.state.pausedForDailyCapOn.all fun day => decide (day ≤ date)) = true := by
  cases hp : db.state.pausedForDailyCapOn with
  | none => rfl
  | some day => simpa using (h.paused_le day hp).trans hdate

theorem lockedRow_allowed (h : Overspent ex db raw) {date : ℤ}
    (hdate : db.state.businessDate ≤ date) (mid : Database) :
    stateTransitionAllowed mid db.state (lockedRow db.state date) = true := by
  have hpaused := paused_le_date h hdate
  have hle : (if db.state.businessDate < date then 0 else db.state.actionsToday) ≤ 500 :=
    carriedActions_le h.actions_le
  have hlast : (db.state.lastActionAt.all fun last => db.state.lastActionAt.any fun next =>
      decide (last ≤ next)) = true := by
    cases db.state.lastActionAt <;> simp
  unfold stateTransitionAllowed
  simp only [lockedRow, h.pending, h.incident, hpaused, hlast, hdate, carriedActions]
  cases db.state.pausedForDailyCapOn <;> simpa using hle

/-- The trigger accepts the reservation of a fresh action exactly when the clock is not behind the
recorded action. -/
theorem reservedRow_allowed_iff (h : Overspent ex db raw) {date : ℤ} {key : String}
    {a : WbAutomationDurableAction} {mid : Database} (hdate : db.state.businessDate ≤ date)
    (hroom : carriedActions db.state date < 500) (ha : mid.actions key = some a)
    (hs : a.status = .reserved) (hr : a.reservedAt = now) :
    stateTransitionAllowed mid db.state (reservedRow db.state date now key) = true ↔
      NoActionAfter db.state now := by
  have hpaused := paused_le_date h hdate
  have hlast : (db.state.lastActionAt.all fun last => decide (last ≤ now)) = true ↔
      NoActionAfter db.state now := by
    unfold NoActionAfter
    cases db.state.lastActionAt <;> simp
  rw [← hlast]
  unfold stateTransitionAllowed
  simp only [reservedRow, h.pending, h.incident, hpaused, hdate, ha, hs, hr, Database.statusOf,
    carriedActions, Option.bind_some, Option.map_some, Option.any_some]
  have hle : (if db.state.businessDate < date then 0 else db.state.actionsToday) + 1 ≤ 500 := hroom
  cases db.state.pausedForDailyCapOn <;> simp [hle]

/-- **The lock succeeds exactly when the state row is not from a later day.** -/
theorem lock_overspent (h : Overspent ex db raw) :
    (∃ locked receipt, markIncidentWithoutAction (withPauseCycle ex db raw)
        (ex.digests.cycleId (pauseSnapshot ex db.state raw)) db.state.revision
        (wbAutomationBusinessDate raw.observedAt) "daily_spend_cap_breached" =
          .ok (locked, receipt) ∧ ProtectedBy locked) ↔
      db.state.businessDate ≤ wbAutomationBusinessDate raw.observedAt := by
  constructor
  · rintro ⟨locked, receipt, hlock, -⟩
    simp only [markIncidentWithoutAction, ok_of_bind, ensure_eq_ok] at hlock
    obtain ⟨-, ⟨-, -, -, hdate⟩, -⟩ := hlock
    exact hdate
  · intro hdate
    have hallowed := lockedRow_allowed h hdate (withPauseCycle ex db raw)
    refine ⟨{ withPauseCycle ex db raw with
      state := lockedRow db.state (wbAutomationBusinessDate raw.observedAt) },
      ⟨true, db.state.revision + 1⟩, ?_, .inl rfl⟩
    simp only [markIncidentWithoutAction, ok_of_bind, ensure_eq_ok, updateState_ok, ok_of_pure,
      Database.cycleMatches, withPauseCycle_lookup]
    exact ⟨(), ⟨rfl, h.pending, h.incident, hdate⟩, (), by simp [cycleRow], _, ⟨hallowed, rfl⟩, rfl⟩

/-- **The reservation succeeds exactly when the state row is not from a later day, the quota has
room and the clock is not behind the recorded action.** -/
theorem reserve_overspent (h : Overspent ex db raw) :
    (∃ reserved receipt, reserveActionWithQuotaOverride (withPauseCycle ex db raw) now
        (reservationFor ex db.state (pauseSnapshot ex db.state raw)
          ⟨raw.observedAt, .pauseCampaignForDailyCap⟩ none) none = .ok (reserved, receipt) ∧
        ProtectedBy reserved) ↔
      db.state.businessDate ≤ wbAutomationBusinessDate raw.observedAt ∧
        stateActionsToday db.state (wbAutomationBusinessDate raw.observedAt) <
          ex.policy.maxActionsPerDay ∧ NoActionAfter db.state now := by
  set reservation := reservationFor ex db.state (pauseSnapshot ex db.state raw)
    ⟨raw.observedAt, .pauseCampaignForDailyCap⟩ none with hres
  set inserted : Database := { withPauseCycle ex db raw with
    actions := Function.update db.actions reservation.idempotencyKey
      (some (reservedAction now reservation)) } with hins
  have hmax := (bounds_of_validatePolicy h.policy).maxActions_le
  have hrow : inserted.actions reservation.idempotencyKey =
      some (reservedAction now reservation) := Function.update_self _ _ _
  have hnew : ¬ (withPauseCycle ex db raw).state.pendingIdempotencyKey =
      some reservation.idempotencyKey := by
    rw [show (withPauseCycle ex db raw).state = db.state from rfl, h.pending]
    exact fun heq => nomatch heq
  unfold reserveActionWithQuotaOverride
  rw [if_neg hnew]
  simp only [ok_of_bind, ensure_eq_ok, updateState_ok, ok_of_pure]
  constructor
  · rintro ⟨reserved, receipt, ⟨-, -, -, hdate, -, hquota, -, -, -, -, updated, ⟨hallowed, -⟩, -⟩, -⟩
    have hdate : db.state.businessDate ≤ wbAutomationBusinessDate raw.observedAt := hdate
    have hroom : carriedActions db.state (wbAutomationBusinessDate raw.observedAt) <
        ex.policy.maxActionsPerDay := of_decide_eq_true hquota
    refine ⟨hdate, carriedActions_eq hdate ▸ hroom, ?_⟩
    exact (reservedRow_allowed_iff h hdate (by omega) hrow rfl rfl).mp hallowed
  · rintro ⟨hdate, hroom, hlast⟩
    rw [← carriedActions_eq hdate] at hroom
    have hallowed := (reservedRow_allowed_iff h hdate (by omega) hrow rfl rfl).mpr hlast
    refine ⟨{ inserted with
      state := reservedRow db.state (wbAutomationBusinessDate raw.observedAt) now
        reservation.idempotencyKey },
      ⟨true, db.state.revision + 1, reservedAction now reservation⟩,
      ⟨(), ⟨rfl, h.digest, h.pending, h.incident⟩, (), hdate, (), decide_eq_true hroom, (), ?_, (),
        h.fresh_key _ _ rfl, _, ⟨hallowed, rfl⟩, _, rfl, rfl⟩, .inr ⟨_, _, rfl, hrow, rfl, rfl⟩⟩
    simp only [Database.cycleMatches, hres, reservationFor, withPauseCycle_lookup]
    simp [cycleRow]

/-! ## The result -/

/-- **When the cycle protects an overspent campaign.** The recorded action does not lie after the
observation, the state row is not from a later day, and either the quota has room and the clock of
the database is not behind the recorded action, or the spend has reached the cap itself. The pause is
judged as reserved, before the write that may be refused. -/
theorem overspent_protected_iff (h : Overspent ex db raw) :
    (∃ db', automaticCycle ex db now raw lastApplied = .ok db' ∧ ProtectedBy db') ↔
      NoActionAfter db.state raw.observedAt ∧
        db.state.businessDate ≤ wbAutomationBusinessDate raw.observedAt ∧
        (stateActionsToday db.state (wbAutomationBusinessDate raw.observedAt) <
            ex.policy.maxActionsPerDay ∧ NoActionAfter db.state now ∨
          ex.policy.maxActionsPerDay ≤
            stateActionsToday db.state (wbAutomationBusinessDate raw.observedAt) ∧
            ex.policy.dailySpendCapMinor ≤ raw.dailySpendMinor) := by
  have hcycle : ∀ db', automaticCycle ex db now raw lastApplied = .ok db' ↔
      NoActionAfter db.state raw.observedAt ∧
        commitPlan ex (withPauseCycle ex db raw) now db.state (pauseSnapshot ex db.state raw)
          (planCycle ex.policy db.state (pauseSnapshot ex db.state raw) .automatic) = .ok db' := by
    intro db'
    simp only [automaticCycle, ok_of_bind, ok_of_mapError, decideCycle_overspent h]
    constructor
    · rintro ⟨_, ⟨hlast, rfl⟩, persisted, hper, hcommit⟩
      rw [persist_overspent h, Except.ok.injEq] at hper
      subst hper
      exact ⟨hlast, hcommit⟩
    · rintro ⟨hlast, hcommit⟩
      exact ⟨_, ⟨hlast, rfl⟩, _, persist_overspent h, hcommit⟩
  simp only [hcycle, and_assoc, exists_and_left]
  refine and_congr_right fun _ => ?_
  rw [planCycle_overspent h]
  split_ifs with hplan
  · simp only [commitPlan, ok_of_mapError, exists_ok_map_fst]
    rw [reserve_overspent h]
    constructor
    · rintro ⟨hdate, hroom, hlast⟩
      exact ⟨hdate, .inl ⟨hroom, hlast⟩⟩
    · rintro ⟨hdate, ⟨hroom, hlast⟩ | ⟨hfull, hcap⟩⟩
      · exact ⟨hdate, hroom, hlast⟩
      · omega
  · simp only [commitPlan, ok_of_mapError, exists_ok_map_fst]
    rw [not_or, not_lt, not_lt] at hplan
    rw [pauseSnapshot_observedAt, lock_overspent h]
    exact ⟨fun hdate => ⟨hdate, .inr hplan⟩, And.left⟩

theorem overspent_robot {actionsToday : ℕ} (h : actionsToday ≤ 500) :
    Overspent robotExecutor (cleanWorld actionsToday).db overspentObservation where
  policy := rfl
  writes := rfl
  digest := rfl
  legacy := rfl
  pending := rfl
  incident := rfl
  actions_le := h
  paused_le _ hday := nomatch hday
  observation := ⟨_, rfl⟩
  observed := by decide
  active := by decide
  status := rfl
  budget := by decide
  complete := rfl
  spend := by decide
  fresh_cycle _ _ := rfl
  fresh_key _ _ _ := rfl

/-- The first action of the day pauses the campaign. -/
theorem overspent_protected_first : ∃ db', automaticCycle robotExecutor (cleanWorld 0).db
    (seconds 43201) overspentObservation none = .ok db' ∧ ProtectedBy db' :=
  (overspent_protected_iff (overspent_robot (by decide))).mpr
    ⟨fun _ hlast => (nomatch hlast), by decide, .inl ⟨by decide, fun _ hlast => nomatch hlast⟩⟩

/-- With the quota of 12 actions used up and a spend of 46000 between the threshold of 45000 and the
cap of 50000 the cycle fails and leaves the campaign running. -/
theorem overspent_unprotected_on_exhausted_quota :
    ¬ ∀ (ex : Executor) (db : Database) (now : ℤ) (raw : WbAutomationObservation)
      (lastApplied : Option WbAutomationSnapshot), Overspent ex db raw →
      ∃ db', automaticCycle ex db now raw lastApplied = .ok db' ∧ ProtectedBy db' := by
  intro h
  obtain ⟨db', hcycle, -⟩ := h robotExecutor (cleanWorld 12).db (seconds 43201) overspentObservation
    none (overspent_robot (by decide))
  have herror : automaticCycle robotExecutor (cleanWorld 12).db (seconds 43201)
      overspentObservation none = .error "WB automation PostgreSQL state changed" := rfl
  rw [herror] at hcycle
  cases hcycle

end AdsControl.Wb
