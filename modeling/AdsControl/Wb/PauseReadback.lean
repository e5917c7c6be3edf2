import AdsControl.Wb.Protocol

/-!
# Reading back a protective pause

A reservation dates the state row by the observation of its cycle and the action row by the clock of the
database. The readback of a pause dates it by the action row and may not pass the date of the state row, so
a pause that is reserved after midnight from an observation before midnight can never be read back.

* `Origin`: where an unresolved action comes from and what the state row has kept since;
* `Carries`: what the transactions leave alone;
* `markApplied_pause_iff`: when a pause is accepted;
* **`pause_readback_iff`**: in every reachable cycle the readback succeeds exactly for a pause reserved on the
  business day of its observation.
-/

namespace AdsControl.Wb

open Fallible Transition

/-! ## The origin of an action -/

/-- An unresolved action, the cycle it was reserved from and the state row it waits on. -/
structure Origin (ex : Executor) (db : Database) (a : WbAutomationDurableAction) : Prop where
  kind : durableActionKind a.request = a.actionKind
  policy : a.policyDigest = ex.policySha256
  counted : db.state.actionsToday ≤ 500
  cycle : ∃ cycle, db.cycles a.cycleId = some cycle ∧
    db.state.businessDate = wbAutomationBusinessDate cycle.observedAt ∧
    cycle.stateRevision < db.state.revision

/-- Every unresolved action has its origin. -/
def Originated (ex : Executor) (db : Database) : Prop :=
  ∀ k a, db.actions k = some a → a.status.unresolved = true → Origin ex db a

/-- A persisted cycle is in the table. -/
def CycleStored (ex : Executor) (db : Database) : Phase → Prop
  | .persisted state snapshot _ _ =>
    db.cycles (ex.digests.cycleId snapshot) = some (cycleRow ex state snapshot)
  | _ => True

/-- The fields of an action that no update touches. -/
def SameOrigin (a a' : WbAutomationDurableAction) : Prop :=
  a'.request = a.request ∧ a'.actionKind = a.actionKind ∧ a'.policyDigest = a.policyDigest ∧
    a'.cycleId = a.cycleId

/-- The later tables keep the cycles and add no unresolved action, and while an action is pending the state
row keeps its date and counter. -/
structure Carries (db db' : Database) : Prop where
  cycles : ∀ id cycle, db.cycles id = some cycle → db'.cycles id = some cycle
  actions : ∀ k a', db'.actions k = some a' → a'.status.unresolved = true →
    ∃ a, db.actions k = some a ∧ a.status.unresolved = true ∧ SameOrigin a a'
  row : db'.state.pendingIdempotencyKey ≠ none → db'.state.businessDate = db.state.businessDate ∧
    db'.state.actionsToday = db.state.actionsToday ∧ db.state.revision ≤ db'.state.revision

section Carried

variable {ex : Executor} {db db' : Database} {trace : List Event} {now : ℤ} {k : String} {revision : ℕ}

/-- **Origins outlive every transaction that carries the tables.** -/
theorem Originated.carried (h : Originated ex db) (hc : Carries db db') (ht : Consistent db' trace) :
    Originated ex db' := by
  intro k a' ha' hu'
  obtain ⟨a, ha, hu, hrequest, hkind, hpolicy, hcycle⟩ := hc.actions k a' ha' hu'
  have hpending := (ht.pending k).mpr ⟨a', ha', hu'⟩
  obtain ⟨hdate, hcount, hrevision⟩ := hc.row (by rw [hpending]; simp)
  obtain ⟨hmatch, hdigest, hcounted, cycle, hrow, hbusiness, hlt⟩ := h k a ha hu
  refine ⟨by rw [hrequest, hkind, hmatch], by rw [hpolicy, hdigest], by rw [hcount]; exact hcounted, cycle,
    ?_, hdate.trans hbusiness, hlt.trans_le hrevision⟩
  rw [hcycle]
  exact hc.cycles _ _ hrow

theorem Carries.refl (db : Database) : Carries db db :=
  ⟨fun _ _ h => h, fun _ a ha hu => ⟨a, ha, hu, rfl, rfl, rfl, rfl⟩, fun _ => ⟨rfl, rfl, le_rfl⟩⟩

theorem Carries.of_resolved (ht : Consistent db' trace) (hp : db'.state.pendingIdempotencyKey = none)
    (hcycles : db'.cycles = db.cycles) : Carries db db' := by
  refine ⟨fun _ _ h => by rw [hcycles, h], fun k a' ha' hu' => ?_, fun hne => absurd hp hne⟩
  have hpending := (ht.pending k).mpr ⟨a', ha', hu'⟩
  rw [hp] at hpending
  cases hpending

theorem sameOrigin_stampAction (a new : WbAutomationDurableAction) (h : SameOrigin a new) :
    SameOrigin a (stampAction now a new) := by
  unfold stampAction
  split <;> exact h

theorem Carries.of_update (ht : Consistent db trace) (hpending : db.state.pendingIdempotencyKey = some k)
    {a new : WbAutomationDurableAction} (ha : db.actions k = some a)
    (hactions : db'.actions = Function.update db.actions a.idempotencyKey (some (stampAction now a new)))
    (hnew : SameOrigin a new) (hcycles : db'.cycles = db.cycles)
    (hrow : db'.state.businessDate = db.state.businessDate ∧
      db'.state.actionsToday = db.state.actionsToday ∧ db.state.revision ≤ db'.state.revision) :
    Carries db db' := by
  have hu : a.status.unresolved = true := by
    obtain ⟨b, hb, hub⟩ := (ht.pending k).mp hpending
    rw [ha, Option.some.injEq] at hb
    exact hb ▸ hub
  refine ⟨fun _ _ h => by rw [hcycles, h], fun j b hb hub => ?_, fun _ => hrow⟩
  rw [hactions, ht.key_eq k a ha] at hb
  by_cases hj : j = k
  · subst hj
    rw [Function.update_self, Option.some.injEq] at hb
    exact ⟨a, ha, hu, hb ▸ sameOrigin_stampAction a new hnew⟩
  · rw [Function.update_of_ne hj] at hb
    exact ⟨b, hb, hub, rfl, rfl, rfl, rfl⟩

theorem persist_carries {cycle : WbAutomationCycle} {inserted : Bool}
    (h : persistShadowCycle db cycle = .ok (db', inserted)) :
    Carries db db' ∧ db'.cycles cycle.cycleId = some cycle := by
  simp only [persistShadowCycle, ok_of_bind, ensure_eq_ok] at h
  obtain ⟨_, _, h⟩ := h
  split at h
  · rename_i existing hexisting
    simp only [ok_of_bind, ensure_eq_ok, ok_of_pure, Prod.mk.injEq] at h
    obtain ⟨_, hsame, rfl, _⟩ := h
    exact ⟨Carries.refl db, hsame ▸ hexisting⟩
  · rename_i hfresh
    simp only [ok_of_pure, Prod.mk.injEq] at h
    obtain ⟨rfl, _⟩ := h
    refine ⟨⟨fun id row hrow => ?_, (Carries.refl db).actions, fun _ => ⟨rfl, rfl, le_rfl⟩⟩,
      Function.update_self _ _ _⟩
    have hne : id ≠ cycle.cycleId := by
      rintro rfl
      rw [hfresh] at hrow
      cases hrow
    rw [← hrow]
    exact Function.update_of_ne hne _ _

theorem transition_carries (ht : Consistent db trace) {source target : WbAutomationDurableActionStatus}
    {changed : Bool}
    (h : transitionWithoutStateChange db now k revision source target = .ok (db', changed)) :
    Carries db db' := by
  obtain ⟨_, hpending, a, ha, ⟨_, rfl, _⟩ | ⟨_, _, rfl⟩⟩ := transition_ok h
  · exact Carries.refl _
  · exact Carries.of_update ht hpending ha rfl ⟨rfl, rfl, rfl, rfl⟩ rfl ⟨rfl, rfl, le_rfl⟩

theorem resolve_carries (ht : Consistent db trace) {errorClass : String} {resolution : ResolutionKind}
    {receipt : WbAutomationStateTransitionReceipt}
    (h : resolveWithoutWrite db now k revision errorClass resolution = .ok (db', receipt)) :
    Carries db db' := by
  simp only [resolveWithoutWrite, verifyPendingState, loadActionInTransaction, ok_of_bind,
    context_eq_ok] at h
  obtain ⟨a, ha, h⟩ := h
  split at h
  · simp only [ok_of_bind, ensure_eq_ok, ok_of_pure, Prod.mk.injEq] at h
    obtain ⟨_, _, rfl, _⟩ := h
    exact Carries.refl _
  · simp only [ok_of_bind, ensure_eq_ok, updateAction_ok, updateState_ok, ok_of_pure, Prod.mk.injEq] at h
    obtain ⟨_, ⟨_, hpending⟩, _, _, _, ⟨_, rfl⟩, _, ⟨_, rfl⟩, rfl, _⟩ := h
    refine Carries.of_update ht hpending ha rfl ⟨rfl, rfl, rfl, rfl⟩ rfl ?_
    cases resolution <;> exact ⟨rfl, rfl, Nat.le_succ _⟩

theorem markApplied_carries (ht : Consistent db trace) {readback : String} {pausedOn : Option ℤ}
    {receipt : WbAutomationStateTransitionReceipt}
    (h : markApplied db now k revision readback pausedOn = .ok (db', receipt)) : Carries db db' := by
  simp only [markApplied, verifyPendingState, loadActionInTransaction, ok_of_bind, ensure_eq_ok,
    context_eq_ok] at h
  obtain ⟨a, ha, _, _, h⟩ := h
  split at h
  · simp only [ok_of_bind, ensure_eq_ok, ok_of_pure, Prod.mk.injEq] at h
    obtain ⟨_, _, rfl, _⟩ := h
    exact Carries.refl _
  · simp only [ok_of_bind, ensure_eq_ok, updateAction_ok, updateState_ok, ok_of_pure, Prod.mk.injEq] at h
    obtain ⟨_, ⟨_, hpending⟩, _, _, _, _, _, ⟨_, rfl⟩, _, ⟨_, rfl⟩, rfl, _⟩ := h
    refine Carries.of_update ht hpending ha rfl ⟨rfl, rfl, rfl, rfl⟩ rfl ?_
    cases a.actionKind <;> exact ⟨rfl, rfl, Nat.le_succ _⟩

theorem reconcile_carries (ht : Consistent db trace) {observation : WbAutomationObservation}
    {action : WbAutomationDurableAction} {readback : String}
    (h : reconcilePostgresPending db now observation action revision readback = .ok db') :
    Carries db db' := by
  have hcommit : ∀ {α : Type} {transaction : Except WbAutomationPostgresError (Database × α)},
      (∀ db'' receipt, transaction = .ok (db'', receipt) → Carries db db'') →
      (transaction.map Prod.fst).mapError WbAutomationPostgresError.message = .ok db' →
      Carries db db' := by
    intro α transaction hcarries hok
    simp only [ok_of_mapError, ok_of_map] at hok
    obtain ⟨⟨db'', receipt⟩, hok, rfl⟩ := hok
    exact hcarries _ _ hok
  simp only [reconcilePostgresPending, ok_of_bind] at h
  obtain ⟨pending, _, h⟩ := h
  split at h
  · exact hcommit (fun _ _ h => resolve_carries ht h) h
  simp only [ok_of_bind, ensure_eq_ok, exists_const] at h
  obtain ⟨_, h⟩ := h
  split at h
  · exact hcommit (fun _ _ h => markApplied_carries ht h) h
  split at h
  · rw [ok_of_pure] at h
    exact h ▸ Carries.refl _
  simp only [ok_of_bind, context_eq_ok] at h
  obtain ⟨startedAt, _, h⟩ := h
  split at h
  · split at h
    · exact hcommit (fun _ _ h => transition_carries ht h) h
    · rw [ok_of_pure] at h
      exact h ▸ Carries.refl _
  · exact hcommit (fun _ _ h => resolve_carries ht h) h

theorem settle_carries (ht : Consistent db trace) {result : PostgresWriteResult}
    (h : settleWrite db now k revision result = .ok db') : Carries db db' := by
  cases result with
  | sent =>
    simp only [settleWrite, ok_of_map] at h
    obtain ⟨⟨_, _⟩, h, rfl⟩ := h
    exact transition_carries ht h
  | notSent =>
    simp only [settleWrite, ok_of_map] at h
    obtain ⟨⟨_, _⟩, h, rfl⟩ := h
    exact resolve_carries ht h
  | ambiguous =>
    simp only [settleWrite, ok_of_map] at h
    obtain ⟨⟨_, _⟩, h, rfl⟩ := h
    exact resolve_carries ht h

end Carried

/-! ## Reachable worlds -/

section Worlds

variable {ex : Executor}

theorem reserve_originated {db db' : Database} {trace : List Event} {now : ℤ}
    {state : WbAutomationDatabaseState} {snapshot : WbAutomationSnapshot} {pending : PendingAction}
    {authorization : Option String} {receipt : WbAutomationReservationReceipt}
    (hnone : db.state.pendingIdempotencyKey = none)
    (hstored : db.cycles (ex.digests.cycleId snapshot) = some (cycleRow ex state snapshot))
    (h : reserveActionWithQuotaOverride db now (reservationFor ex state snapshot pending authorization)
      authorization = .ok (db', receipt)) (ht : Consistent db' trace) : Originated ex db' := by
  unfold reserveActionWithQuotaOverride at h
  rw [hnone, if_neg (by simp)] at h
  simp only [ok_of_bind, ensure_eq_ok, updateState_ok, ok_of_pure, Prod.mk.injEq] at h
  obtain ⟨_, _, _, _, _, _, _, _, _, _, updated, ⟨hallowed, rfl⟩, consumed, hconsumed, rfl, _⟩ := h
  obtain ⟨hstate, hactions, hcycles⟩ := consumeAuthorization_ok hconsumed
  dsimp only at hactions hcycles
  intro k a ha hu
  -- the only unresolved action is the reserved one
  have hk := (ht.pending k).mpr ⟨a, ha, hu⟩
  rw [hstate, Option.some.injEq] at hk
  subst hk
  rw [hactions, Function.update_self, Option.some.injEq] at ha
  subst ha
  refine ⟨rfl, rfl, ?_, cycleRow ex state snapshot, by rw [hcycles]; exact hstored, by rw [hstate]; rfl, ?_⟩
  · rw [hstate]
    unfold stateTransitionAllowed at hallowed
    simp only [Bool.and_eq_true, decide_eq_true_eq] at hallowed
    exact hallowed.2
  · rw [hstate]
    exact Nat.lt_succ_self _

/-- **Every step keeps the origins and stores the cycle it goes on from.** -/
theorem originated_step {w w' : World} (hw : Inv w) (ho : Originated ex w.db)
    (hs : CycleStored ex w.db w.phase) (h : Step ex w w') :
    Originated ex w'.db ∧ CycleStored ex w'.db w'.phase := by
  have ht := (inv_step hw h).tables
  have hcarried : Carries w.db w'.db → Originated ex w'.db := fun hc => ho.carried hc ht
  cases h with
  | decide raw intent lastApplied authorization hauth h => exact ⟨ho, trivial⟩
  | persist h =>
    obtain ⟨hc, hstored⟩ := persist_carries h
    exact ⟨hcarried hc, hstored⟩
  | reconcile now hplan hload h => exact ⟨hcarried (reconcile_carries hw.tables h), trivial⟩
  | finish hplan => exact ⟨ho, trivial⟩
  | lock hplan h =>
    simp only [markIncidentWithoutAction, ok_of_bind, ensure_eq_ok, updateState_ok, ok_of_pure,
      Prod.mk.injEq] at h
    obtain ⟨_, ⟨_, hnone, _⟩, _, _, _, ⟨_, rfl⟩, rfl, _⟩ := h
    exact ⟨hcarried (Carries.of_resolved ht hnone rfl), trivial⟩
  | reserve now hplan h =>
    have hnone := planCycle_pending_none hplan
    rw [← (show _ = _ from hw.phase)] at hnone
    exact ⟨reserve_originated hnone hs h ht, trivial⟩
  | refuse => exact ⟨ho, trivial⟩
  | permit now h => exact ⟨hcarried (transition_carries hw.tables h), trivial⟩
  | refusePermitted => exact ⟨ho, trivial⟩
  | send result h => exact ⟨ho, trivial⟩
  | settle now h => exact ⟨hcarried (settle_carries hw.tables h), trivial⟩
  | crash => exact ⟨ho, trivial⟩

theorem originated_of_reachable {w : World} (h : Reachable (executor ex) w) :
    Inv w ∧ Originated ex w.db ∧ CycleStored ex w.db w.phase := by
  refine Reachable.invariant (P := fun w => Inv w ∧ Originated ex w.db ∧ CycleStored ex w.db w.phase)
    (fun w hinit => ?_) (fun w w' hw hstep => ?_) h
  · have hclean : CleanStart w := hinit
    refine ⟨inv_init hclean, fun k a ha => ?_, ?_⟩
    · rw [hclean.2.2.2.2] at ha
      cases ha
    · rw [hclean.1]
      trivial
  · exact ⟨inv_step hw.1 hstep, originated_step hw.1 hw.2.1 hw.2.2 hstep⟩

end Worlds

/-! ## Acceptance of a pause -/

section Acceptance

variable {db : Database} {now : ℤ} {k readback : String} {action : WbAutomationDurableAction} {day : ℤ}

/-- The written statuses in which a readback is still awaited. -/
def AwaitsReadback (status : WbAutomationDurableActionStatus) : Prop :=
  status = .writeStarted ∨ status = .awaitingReadback ∨ status = .reconciliationRequired

/-- The pause is applied, dated and no longer pending. -/
structure PauseApplied (db : Database) (k : String) (day : ℤ) : Prop where
  pending : db.state.pendingIdempotencyKey = none
  paused : db.state.pausedForDailyCapOn = some day
  applied : db.statusOf (some k) = some .applied

/-- The trigger lets the pause through when its day is not after the date of the row. -/
theorem appliedPause_allowed {mid : Database} {state : WbAutomationDatabaseState}
    (hpending : state.pendingIdempotencyKey = some k) (hcounted : state.actionsToday ≤ 500)
    (happlied : mid.statusOf (some k) = some .applied) (hday : day ≤ state.businessDate) :
    stateTransitionAllowed mid state (appliedState state (some day) .pauseCampaignForDailyCap) = true := by
  have hlast : (state.lastActionAt.all fun last => state.lastActionAt.any fun next =>
      decide (last ≤ next)) = true := by
    cases state.lastActionAt <;> simp
  unfold stateTransitionAllowed
  simp [appliedState, hpending, happlied, hlast, hday, hcounted]

/-- **A pause is accepted exactly when its day is not after the date of the state row.** -/
theorem markApplied_pause_iff (ha : db.actions k = some action) (hkey : action.idempotencyKey = k)
    (hkind : action.actionKind = .pauseCampaignForDailyCap) (hstatus : AwaitsReadback action.status)
    (hpending : db.state.pendingIdempotencyKey = some k) (hcounted : db.state.actionsToday ≤ 500)
    (hreadback : (db.cycleMatches readback fun cycle => cycle.policyDigest == action.policyDigest &&
      cycle.cycleId != action.cycleId && cycle.stateRevision == db.state.revision) = true) :
    (∃ db' receipt, markApplied db now k db.state.revision readback (some day) = .ok (db', receipt) ∧
      PauseApplied db' k day) ↔ day ≤ db.state.businessDate := by
  have hshape : pauseShapeMatches db.state (some day) action.actionKind = true ↔
      day ≤ db.state.businessDate := by
    rw [hkind]
    exact decide_eq_true_iff
  have hnew : ¬ action.status = .applied := by
    rintro happlied
    rw [happlied] at hstatus
    obtain h | h | h := hstatus <;> cases h
  simp only [markApplied, verifyPendingState, loadActionInTransaction, ok_of_bind, ensure_eq_ok,
    context_eq_ok, ha, Option.some.injEq, exists_eq_left']
  rw [hshape]
  constructor
  · rintro ⟨_, _, ⟨_, hday, _⟩, _⟩
    exact hday
  · intro hday
    have hmoved : actionTransitionAllowed action { action with
        status := .applied, readbackCycleId := some readback, lastErrorClass := none } = true := by
      unfold actionTransitionAllowed
      obtain h | h | h := hstatus <;> simp [h]
    set acted : Database := { db with
      actions := Function.update db.actions action.idempotencyKey (some (stampAction now action { action with
        status := .applied, readbackCycleId := some readback, lastErrorClass := none })) } with hacted
    have hrow : acted.statusOf (some k) = some .applied := by
      simp only [hacted, Database.statusOf, hkey, Option.bind_some, Function.update_self]
      rfl
    have hallowed : stateTransitionAllowed acted db.state (appliedState db.state (some day) action.actionKind) =
        true := by
      rw [hkind]
      exact appliedPause_allowed hpending hcounted hrow hday
    refine ⟨{ acted with state := appliedState db.state (some day) action.actionKind },
      ⟨true, db.state.revision + 1⟩, ⟨(), hday, ?_⟩, ⟨by rw [hkind]; rfl, by rw [hkind]; rfl, hrow⟩⟩
    rw [if_neg hnew]
    simp only [ok_of_bind, ensure_eq_ok, updateAction_ok, updateState_ok, ok_of_pure]
    exact ⟨(), ⟨trivial, hpending⟩, (), hstatus, (), hreadback, acted, ⟨hmoved, rfl⟩, _, ⟨hallowed, rfl⟩, rfl⟩

end Acceptance

/-! ## The readback -/

section Readback

theorem reconcile_visible {db : Database} {now : ℤ} {observation : WbAutomationObservation}
    {action : WbAutomationDurableAction} {revision : ℕ} {readback : String}
    (hkind : durableActionKind action.request = action.actionKind)
    (hrequest : action.request = .pauseCampaignForDailyCap) (hstatus : AwaitsReadback action.status)
    (hpaused : observation.campaignStatus = 11) :
    reconcilePostgresPending db now observation action revision readback =
      ((markApplied db now action.idempotencyKey revision readback
        (some (wbAutomationBusinessDate action.reservedAt))).map Prod.fst).mapError
          WbAutomationPostgresError.message := by
  have hpending : pendingFromDurableAction action =
      .ok ⟨action.reservedAt, .pauseCampaignForDailyCap⟩ := by
    simp only [pendingFromDurableAction, ok_of_bind, ensure_eq_ok]
    exact ⟨(), hkind, by rw [hrequest]; rfl⟩
  have hvisible : pendingIsVisible observation .pauseCampaignForDailyCap = true := by
    simp [pendingIsVisible, hpaused]
  have hreserved : ¬ action.status = .reserved := by
    intro h
    rw [h] at hstatus
    obtain h | h | h := hstatus <;> cases h
  have hopen : action.status ≠ .applied ∧ action.status ≠ .cancelled := by
    obtain h | h | h := hstatus <;> rw [h] <;> simp
  unfold reconcilePostgresPending
  rw [hpending]
  dsimp only [bind, Except.bind]
  rw [if_neg hreserved, ensure, if_pos hopen]
  dsimp only
  rw [if_pos hvisible]
  rfl

variable {ex : Executor} {db : Database} {trace : List Event} {state : WbAutomationDatabaseState}
  {snapshot : WbAutomationSnapshot} {intent : PostgresExecutionIntent} {authorization : Option String}

/-- **A protective pause is read back exactly when it was reserved on the business day of the observation it
was reserved from.** In every reachable cycle that finds the campaign paused while the pause awaits its
readback, the cycle comes to the reconciliation of this action. -/
theorem pause_readback_iff
    (hreach : Reachable (executor ex) ⟨db, .persisted state snapshot intent authorization, trace⟩)
    {k : String} {action : WbAutomationDurableAction} (ha : db.actions k = some action)
    (hrequest : action.request = .pauseCampaignForDailyCap)
    (hstatus : action.status = .writeStarted ∨ action.status = .awaitingReadback ∨
      action.status = .reconciliationRequired)
    (hpaused : snapshot.observation.campaignStatus = 11) :
    planCycle ex.policy state snapshot intent = .reconcile k ∧
    loadPendingAction db k state.revision = .ok action ∧
    ∃ cycle, db.cycles action.cycleId = some cycle ∧ ∀ now,
      (∃ db', reconcilePostgresPending db now snapshot.observation action state.revision
          (ex.digests.cycleId snapshot) = .ok db' ∧
        PauseApplied db' k (wbAutomationBusinessDate action.reservedAt)) ↔
      wbAutomationBusinessDate action.reservedAt ≤ wbAutomationBusinessDate cycle.observedAt := by
  obtain ⟨hinv, horiginated, hstored⟩ := originated_of_reachable hreach
  have hstate : db.state = state := hinv.phase
  have hunresolved : action.status.unresolved = true := by
    obtain h | h | h := hstatus <;> rw [h] <;> rfl
  have hpending := (hinv.tables.pending k).mpr ⟨action, ha, hunresolved⟩
  obtain ⟨hkind, hpolicy, hcounted, cycle, hcycle, hdate, hrevision⟩ := horiginated k action ha hunresolved
  have hactionKind : action.actionKind = .pauseCampaignForDailyCap := by
    rw [← hkind, hrequest]
    rfl
  -- the cycle of the reservation has an older revision, so the readback is another one
  have hother : ex.digests.cycleId snapshot ≠ action.cycleId := by
    intro heq
    have hsame : some cycle = some (cycleRow ex state snapshot) := by
      rw [← hcycle, ← heq]
      exact hstored
    rw [Option.some.inj hsame, hstate] at hrevision
    exact lt_irrefl _ hrevision
  have hreadback : (db.cycleMatches (ex.digests.cycleId snapshot) fun cycle =>
      cycle.policyDigest == action.policyDigest && cycle.cycleId != action.cycleId &&
        cycle.stateRevision == db.state.revision) = true := by
    rw [Database.cycleMatches, show db.cycles _ = _ from hstored, Option.any_some, hpolicy, hstate]
    simp [cycleRow, hother]
  refine ⟨?_, ?_, cycle, hcycle, fun now => ?_⟩
  · rw [planCycle, ← hstate, hpending]
  · rw [← hstate]
    simp only [loadPendingAction, verifyPendingState, loadActionInTransaction, ok_of_bind, ensure_eq_ok,
      context_eq_ok, ha]
    exact ⟨(), ⟨trivial, hpending⟩, trivial⟩
  · have hkey := hinv.tables.key_eq k action ha
    have haccepted := @markApplied_pause_iff db now k (ex.digests.cycleId snapshot) action
      (wbAutomationBusinessDate action.reservedAt) ha hkey hactionKind hstatus hpending hcounted hreadback
    rw [← hdate, ← haccepted, reconcile_visible hkind hrequest hstatus hpaused, hkey, hstate]
    simp only [ok_of_mapError, exists_ok_map_fst]

end Readback

/-! ## Noon and midnight -/

/-- An executor whose readback cycles have an identifier of their own. -/
def readbackExecutor : Executor where
  policy := robotPolicy
  policySha256 := "policy"
  legacyDigest := "legacy"
  digests := ⟨fun snapshot => if snapshot.observation.campaignStatus = 11 then "readback" else "cycle",
    fun _ => "request", fun cycle request _ => cycle ++ ":" ++ request⟩

/-- A pause reserved one second after noon is read back. -/
theorem pause_readback_noon : ∃ db snapshot trace action, Reachable (executor readbackExecutor)
      ⟨db, .persisted db.state snapshot .automatic none, trace⟩ ∧
    db.actions "cycle:request" = some action ∧ ∃ db', reconcilePostgresPending db (seconds 43300)
      snapshot.observation action db.state.revision "readback" = .ok db' ∧
      db'.state.pendingIdempotencyKey = none := by
  have start : Reachable (executor readbackExecutor) (cleanWorld 0) :=
    .init ⟨rfl, rfl, rfl, rfl, rfl⟩
  have decided := start.step (Step.decide overspentObservation .automatic none none (by decide) rfl)
  have persisted := decided.step (Step.persist rfl)
  have reserved := persisted.step (Step.reserve (seconds 43201) rfl rfl)
  have permitted := reserved.step (Step.permit (seconds 43202) rfl)
  have sent := permitted.step (Step.send .sent (by decide))
  have settled := sent.step (Step.settle (seconds 43203) rfl)
  have observed := settled.step (Step.decide { overspentObservation with
    observedAt := seconds 43300, campaignStatus := 11 } .automatic none none (by decide) rfl)
  have readback := observed.step (Step.persist rfl)
  obtain ⟨_, _, cycle, hcycle, hiff⟩ :=
    pause_readback_iff (k := "cycle:request") readback rfl rfl (.inr (.inl rfl)) rfl
  cases hcycle
  obtain ⟨db', hok, happlied⟩ := (hiff (seconds 43300)).mpr (by decide)
  exact ⟨_, _, _, _, readback, rfl, db', hok, happlied.pending⟩

/-- A pause observed one second before midnight and reserved one second after it: the campaign is paused, and
its readback is refused. -/
theorem pause_readback_fails_at_midnight : ∃ db snapshot trace action, Reachable (executor readbackExecutor)
      ⟨db, .persisted db.state snapshot .automatic none, trace⟩ ∧
    db.actions "cycle:request" = some action ∧ action.status = .awaitingReadback ∧
    snapshot.observation.campaignStatus = 11 ∧ ∀ now, reconcilePostgresPending db now snapshot.observation
      action db.state.revision "readback" = .error "WB automation PostgreSQL input is invalid" := by
  have start : Reachable (executor readbackExecutor) (cleanWorld 0) :=
    .init ⟨rfl, rfl, rfl, rfl, rfl⟩
  have decided := start.step (Step.decide { overspentObservation with observedAt := seconds 75599 } .automatic
    none none (by decide) rfl)
  have persisted := decided.step (Step.persist rfl)
  have reserved := persisted.step (Step.reserve (seconds 75601) rfl rfl)
  have permitted := reserved.step (Step.permit (seconds 75602) rfl)
  have sent := permitted.step (Step.send .sent (by decide))
  have settled := sent.step (Step.settle (seconds 75603) rfl)
  have observed := settled.step (Step.decide { overspentObservation with
    observedAt := seconds 75700, campaignStatus := 11 } .automatic none none (by decide) rfl)
  have readback := observed.step (Step.persist rfl)
  exact ⟨_, _, _, _, readback, rfl, rfl, rfl, fun _ => rfl⟩

end AdsControl.Wb
