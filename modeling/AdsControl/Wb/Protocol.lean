import AdsControl.Wb.Executor

/-!
# The durable action protocol

What the executor guarantees across every sequence of cycles, crashes and HTTP outcomes.

* `Effect`: everything a transaction can do to the state row and the action table, with one
  inversion lemma for each operation of the store (`…_effect`);
* `Inv`: the invariant that ties the pending key, the action rows, the phase of the executor and
  the trace together; **`inv_step`**, `inv_of_reachable`;
* **`durable_action_protocol`**: at most one send for each key and only after its start was
  committed, honest cancellations, one unresolved action, and a state row that only advances.
-/

namespace AdsControl.Wb

open Fallible Transition

/-! ## Effects of a step -/

/-- The pending action `k` changes from `a` to `a'`. -/
structure Moved (db db' : Database) (k : String) (a a' : WbAutomationDurableAction) : Prop where
  pending : db.state.pendingIdempotencyKey = some k
  old : db.actions k = some a
  key : a'.idempotencyKey = a.idempotencyKey
  actions : db'.actions = Function.update db.actions a.idempotencyKey (some a')

/-- The state row advances by one revision and keeps an incident. -/
structure Advances (db db' : Database) : Prop where
  revision : db'.state.revision = db.state.revision + 1
  sticky : ∀ c, db.state.incidentClass = some c → db'.state.incidentClass = some c

/-- Everything one step can do to the tables after `trace`, with the events it appends. -/
inductive Effect (db db' : Database) (trace : List Event) : List Event → Prop
  | keep (hs : db'.state = db.state) (ha : db'.actions = db.actions) : Effect db db' trace []
  | refuse {k : String} (hdb : db' = db) : Effect db db' trace [.classifiedNotSent k]
  | send {k : String} (hdb : db' = db) (hstart : Event.writeStarted k ∈ trace)
      (hsent : Event.sent k ∉ trace) : Effect db db' trace [.sent k]
  | reserve {k : String} {a : WbAutomationDurableAction}
      (hp : db.state.pendingIdempotencyKey = none) (hi : db.state.incidentClass = none)
      (hnew : db.actions k = none) (hk : a.idempotencyKey = k) (hs' : a.status = .reserved)
      (hws : a.writeStartedAt = none)
      (ha : db'.actions = Function.update db.actions k (some a))
      (hp' : db'.state.pendingIdempotencyKey = some k) (hadv : Advances db db') :
      Effect db db' trace []
  | start {k : String} {a a' : WbAutomationDurableAction} (hm : Moved db db' k a a')
      (hs' : a'.status = .writeStarted) (hws : a'.writeStartedAt.isSome = true)
      (hstate : db'.state = db.state) : Effect db db' trace [.writeStarted k]
  | await {k : String} {a a' : WbAutomationDurableAction} (hm : Moved db db' k a a')
      (hs' : a'.status = .awaitingReadback) (hws : a'.writeStartedAt = a.writeStartedAt)
      (hstate : db'.state = db.state) : Effect db db' trace []
  | apply {k : String} {a a' : WbAutomationDurableAction} (hm : Moved db db' k a a')
      (hs' : a'.status = .applied) (hws : a'.writeStartedAt = a.writeStartedAt)
      (hp' : db'.state.pendingIdempotencyKey = none) (hadv : Advances db db') :
      Effect db db' trace []
  | cancel {k : String} {a a' : WbAutomationDurableAction} (hm : Moved db db' k a a')
      (hs : a.status = .reserved ∨ Event.classifiedNotSent k ∈ trace)
      (hs' : a'.status = .cancelled) (hws : a'.writeStartedAt = a.writeStartedAt)
      (hp' : db'.state.pendingIdempotencyKey = none) (hadv : Advances db db') :
      Effect db db' trace []
  | reconcile {k : String} {a a' : WbAutomationDurableAction} (hm : Moved db db' k a a')
      (hs' : a'.status = .reconciliationRequired) (hws : a'.writeStartedAt = a.writeStartedAt)
      (hp' : db'.state.pendingIdempotencyKey = some k) (hadv : Advances db db') :
      Effect db db' trace []
  | lock (hp : db.state.pendingIdempotencyKey = none)
      (hp' : db'.state.pendingIdempotencyKey = none) (ha : db'.actions = db.actions)
      (hadv : Advances db db') : Effect db db' trace []

/-! ## Inversion of the operations -/

section Operations

variable {db db' : Database} {trace : List Event} {now : ℤ} {k : String} {revision : ℕ}

theorem updateAction_ok {old new : WbAutomationDurableAction} :
    db.updateAction now old new = .ok db' ↔ actionTransitionAllowed old new = true ∧
      { db with
        actions := Function.update db.actions old.idempotencyKey
          (some (stampAction now old new)) } = db' := by
  simp only [Database.updateAction, ok_of_bind, ensure_eq_ok, ok_of_pure, exists_const]

theorem updateState_ok {new : WbAutomationDatabaseState} :
    db.updateState new = .ok db' ↔ stateTransitionAllowed db db.state new = true ∧
      { db with state := new } = db' := by
  simp only [Database.updateState, ok_of_bind, ensure_eq_ok, ok_of_pure, exists_const]

/-- The trigger lets a state row only advance. -/
theorem advances_of_allowed {mid : Database} {new : WbAutomationDatabaseState}
    (h : stateTransitionAllowed mid db.state new = true) (hdb : db'.state = new) :
    Advances db db' := by
  unfold stateTransitionAllowed at h
  simp only [Bool.and_eq_true, beq_iff_eq, Bool.or_eq_true] at h
  obtain ⟨⟨⟨⟨⟨⟨-, ⟨⟨-, hrev⟩, -⟩, hinc⟩, -⟩, -⟩, -⟩, -⟩, -⟩ := h
  refine ⟨by rw [hdb, hrev], fun c hc => ?_⟩
  rw [hdb]
  rcases hinc with hnone | heq
  · rw [hc] at hnone
    cases hnone
  · rw [heq, hc]

theorem persist_effect {cycle : WbAutomationCycle} {inserted : Bool}
    (h : persistShadowCycle db cycle = .ok (db', inserted)) :
    db'.state = db.state ∧ db'.actions = db.actions := by
  simp only [persistShadowCycle, ok_of_bind, ensure_eq_ok] at h
  obtain ⟨-, -, h⟩ := h
  split at h
  · simp only [ok_of_bind, ensure_eq_ok, ok_of_pure, Prod.mk.injEq] at h
    obtain ⟨-, -, rfl, -⟩ := h
    exact ⟨rfl, rfl⟩
  · simp only [ok_of_pure, Prod.mk.injEq] at h
    obtain ⟨rfl, -⟩ := h
    exact ⟨rfl, rfl⟩

theorem transition_ok {source target : WbAutomationDurableActionStatus} {changed : Bool}
    (h : transitionWithoutStateChange db now k revision source target = .ok (db', changed)) :
    db.state.revision = revision ∧ db.state.pendingIdempotencyKey = some k ∧
      ∃ a, db.actions k = some a ∧
        ((a.status = target ∧ db' = db ∧ changed = false) ∨
          (a.status = source ∧ changed = true ∧
            db' = { db with
              actions := Function.update db.actions a.idempotencyKey
                (some (stampAction now a { a with status := target })) })) := by
  simp only [transitionWithoutStateChange, verifyPendingState, loadActionInTransaction, ok_of_bind,
    ensure_eq_ok, context_eq_ok] at h
  obtain ⟨-, ⟨hrev, hpend⟩, a, ha, h⟩ := h
  refine ⟨hrev, hpend, a, ha, ?_⟩
  split at h
  · rename_i hst
    simp only [ok_of_pure, Prod.mk.injEq] at h
    exact .inl ⟨hst, h.1.symm, h.2.symm⟩
  · simp only [ok_of_bind, ensure_eq_ok, updateAction_ok, ok_of_pure, Prod.mk.injEq] at h
    obtain ⟨-, hst, updated, ⟨-, hupd⟩, hdb, hch⟩ := h
    exact .inr ⟨hst, hch.symm, by rw [← hdb, ← hupd]⟩

theorem markWriteStarted_effect {changed : Bool}
    (h : markWriteStarted db now k revision = .ok (db', changed)) :
    ∃ a, db.actions k = some a ∧ ((a.status = .writeStarted ∧ changed = false) ∨
      (changed = true ∧ Effect db db' trace [.writeStarted k])) := by
  obtain ⟨-, hpend, a, ha, ⟨hst, -, hch⟩ | ⟨-, hch, hdb⟩⟩ := transition_ok h
  · exact ⟨a, ha, .inl ⟨hst, hch⟩⟩
  · have hm : Moved db db' k a (stampAction now a { a with status := .writeStarted }) :=
      ⟨hpend, ha, rfl, by rw [hdb]⟩
    exact ⟨a, ha, .inr ⟨hch, .start hm rfl rfl (by rw [hdb])⟩⟩

theorem markAwaitingReadback_effect {changed : Bool}
    (h : markAwaitingReadback db now k revision = .ok (db', changed)) :
    Effect db db' trace [] := by
  obtain ⟨-, hpend, a, ha, ⟨-, rfl, -⟩ | ⟨-, -, hdb⟩⟩ := transition_ok h
  · exact .keep rfl rfl
  · have hm : Moved db db' k a (stampAction now a { a with status := .awaitingReadback }) :=
      ⟨hpend, ha, rfl, by rw [hdb]⟩
    exact .await hm rfl rfl (by rw [hdb])

theorem resolve_effect {errorClass : String} {resolution : ResolutionKind}
    {receipt : WbAutomationStateTransitionReceipt}
    (h : resolveWithoutWrite db now k revision errorClass resolution = .ok (db', receipt)) :
    (db' = db) ∨ ∃ a a', Moved db db' k a a' ∧ resolution.validSource a.status = true ∧
      a'.status = resolution.status ∧ a'.writeStartedAt = a.writeStartedAt ∧
      db'.state = resolution.resolvedState db.state errorClass ∧ Advances db db' := by
  simp only [resolveWithoutWrite, verifyPendingState, loadActionInTransaction, ok_of_bind,
    context_eq_ok] at h
  obtain ⟨a, ha, h⟩ := h
  split at h
  · simp only [ok_of_bind, ensure_eq_ok, ok_of_pure, Prod.mk.injEq] at h
    obtain ⟨-, -, rfl, -⟩ := h
    exact .inl rfl
  · simp only [ok_of_bind, ensure_eq_ok, updateAction_ok, updateState_ok, ok_of_pure,
      Prod.mk.injEq] at h
    obtain ⟨-, ⟨hrev, hpend⟩, -, hsrc, acted, ⟨-, rfl⟩, updated, ⟨hallowed, rfl⟩, rfl, -⟩ := h
    refine .inr ⟨a, _, ⟨hpend, ha, ?_, rfl⟩, hsrc, ?_, ?_, rfl, advances_of_allowed hallowed rfl⟩
    all_goals cases resolution <;> rfl

theorem cancelReserved_effect {errorClass : String} {receipt : WbAutomationStateTransitionReceipt}
    (h : cancelReserved db now k revision errorClass = .ok (db', receipt)) :
    Effect db db' trace [] := by
  obtain rfl | ⟨a, a', hm, hsrc, hs', hws, hstate, hadv⟩ := resolve_effect h
  · exact .keep rfl rfl
  · have hreserved : a.status = .reserved := by simpa [ResolutionKind.validSource] using hsrc
    exact .cancel hm (.inl hreserved) hs' hws (by rw [hstate]; rfl) hadv

theorem cancelNotSent_effect {receipt : WbAutomationStateTransitionReceipt}
    (h : cancelNotSent db now k revision = .ok (db', receipt))
    (hnot : Event.classifiedNotSent k ∈ trace) : Effect db db' trace [] := by
  obtain rfl | ⟨a, a', hm, -, hs', hws, hstate, hadv⟩ := resolve_effect h
  · exact .keep rfl rfl
  · exact .cancel hm (.inr hnot) hs' hws (by rw [hstate]; rfl) hadv

theorem markReconciliationRequired_effect {errorClass : String}
    {receipt : WbAutomationStateTransitionReceipt}
    (h : markReconciliationRequired db now k revision errorClass = .ok (db', receipt)) :
    Effect db db' trace [] := by
  obtain rfl | ⟨a, a', hm, -, hs', hws, hstate, hadv⟩ := resolve_effect h
  · exact .keep rfl rfl
  · exact .reconcile hm hs' hws (by rw [hstate]; exact hm.pending) hadv

theorem markApplied_effect {readback : String} {pausedOn : Option ℤ}
    {receipt : WbAutomationStateTransitionReceipt}
    (h : markApplied db now k revision readback pausedOn = .ok (db', receipt)) :
    Effect db db' trace [] := by
  simp only [markApplied, verifyPendingState, loadActionInTransaction, ok_of_bind, ensure_eq_ok,
    context_eq_ok] at h
  obtain ⟨a, ha, -, -, h⟩ := h
  split at h
  · simp only [ok_of_bind, ensure_eq_ok, ok_of_pure, Prod.mk.injEq] at h
    obtain ⟨-, -, rfl, -⟩ := h
    exact .keep rfl rfl
  · simp only [ok_of_bind, ensure_eq_ok, updateAction_ok, updateState_ok, ok_of_pure,
      Prod.mk.injEq] at h
    obtain ⟨-, ⟨hrev, hpend⟩, -, -, -, -, acted, ⟨-, rfl⟩, updated, ⟨hallowed, hupd⟩, rfl, -⟩ := h
    have hm : Moved db updated k a (stampAction now a { a with
        status := .applied, readbackCycleId := some readback, lastErrorClass := none }) :=
      ⟨hpend, ha, rfl, by rw [← hupd]⟩
    have hstate : updated.state = appliedState db.state pausedOn a.actionKind := by rw [← hupd]
    refine .apply hm rfl rfl ?_ (advances_of_allowed hallowed hstate)
    rw [hstate]
    cases a.actionKind <;> rfl

theorem markIncident_effect {cycleId incidentClass : String} {businessDate : ℤ}
    {receipt : WbAutomationStateTransitionReceipt}
    (h : markIncidentWithoutAction db cycleId revision businessDate incidentClass =
      .ok (db', receipt)) : Effect db db' trace [] := by
  simp only [markIncidentWithoutAction, ok_of_bind, ensure_eq_ok, updateState_ok, ok_of_pure,
    Prod.mk.injEq] at h
  obtain ⟨-, ⟨-, hpend, -, -⟩, -, -, updated, ⟨hallowed, rfl⟩, rfl, -⟩ := h
  exact .lock hpend hpend rfl (advances_of_allowed hallowed rfl)

theorem consumeAuthorization_ok {authorization : Option String}
    (h : reserveActionWithQuotaOverride.consumeAuthorization db authorization = .ok db') :
    db'.state = db.state ∧ db'.actions = db.actions ∧ db'.cycles = db.cycles := by
  unfold reserveActionWithQuotaOverride.consumeAuthorization at h
  split at h
  · cases h
    exact ⟨rfl, rfl, rfl⟩
  · split at h <;> cases h
    exact ⟨rfl, rfl, rfl⟩

/-- A reservation replays the pending key or inserts one fresh action. -/
theorem reserve_effect {reservation : WbAutomationActionReservation}
    {authorization : Option String} {receipt : WbAutomationReservationReceipt}
    (h : reserveActionWithQuotaOverride db now reservation authorization = .ok (db', receipt)) :
    db.state.pendingIdempotencyKey = some reservation.idempotencyKey ∨
      (db'.actions reservation.idempotencyKey = some (reservedAction now reservation) ∧
        Effect db db' trace []) := by
  unfold reserveActionWithQuotaOverride at h
  split at h
  · rename_i hpend
    simp only [ok_of_bind, ensure_eq_ok, ok_of_pure, Prod.mk.injEq] at h
    obtain ⟨-, -, -, -, rfl, -⟩ := h
    exact .inl hpend
  · simp only [ok_of_bind, ensure_eq_ok, updateState_ok, ok_of_pure, Prod.mk.injEq] at h
    obtain ⟨-, ⟨hrev, -, hpend, hinc⟩, -, -, -, -, -, -, -, hfresh, updated, ⟨hallowed, rfl⟩,
      consumed, hcons, rfl, rfl⟩ := h
    obtain ⟨hstate, hactions, _⟩ := consumeAuthorization_ok hcons
    have hrow : consumed.actions reservation.idempotencyKey = some (reservedAction now reservation) := by
      rw [hactions]
      exact Function.update_self _ _ _
    refine .inr ⟨hrow, ?_⟩
    exact .reserve hpend hinc hfresh rfl rfl rfl hactions (by rw [hstate])
      (advances_of_allowed hallowed hstate)

end Operations

/-! ## Invariant of the tables -/

/-- The tables agree with each other and with the trace. -/
structure Consistent (db : Database) (trace : List Event) : Prop where
  key_eq : ∀ k a, db.actions k = some a → a.idempotencyKey = k
  pending : ∀ k, db.state.pendingIdempotencyKey = some k ↔
    ∃ a, db.actions k = some a ∧ a.status.unresolved = true
  started : ∀ k, Event.writeStarted k ∈ trace ↔
    ∃ a, db.actions k = some a ∧ a.writeStartedAt.isSome = true
  fresh : ∀ k a, db.actions k = some a → a.status = .reserved → a.writeStartedAt = none
  cancelled : ∀ k a, db.actions k = some a → a.status = .cancelled →
    a.writeStartedAt = none ∨ Event.classifiedNotSent k ∈ trace

/-- Each key is sent at most once, after its start. -/
structure SentOnce (trace : List Event) : Prop where
  once : ∀ k, trace.count (.sent k) ≤ 1
  after : ∀ pre post k, trace = pre ++ .sent k :: post → Event.writeStarted k ∈ pre

section Tables

variable {db db' : Database} {trace events : List Event} {k : String}

theorem Consistent.same (h : Consistent db trace) (ha : db'.actions = db.actions)
    (hp : db'.state.pendingIdempotencyKey = db.state.pendingIdempotencyKey)
    (hev : ∀ k, Event.writeStarted k ∉ events) : Consistent db' (trace ++ events) where
  key_eq := by
    rw [ha]
    exact h.key_eq
  pending k := by
    rw [ha, hp]
    exact h.pending k
  started k := by
    rw [ha, List.mem_append, ← h.started k]
    exact or_iff_left (hev k)
  fresh := by
    rw [ha]
    exact h.fresh
  cancelled k a hk hs := by
    rw [ha] at hk
    exact (h.cancelled k a hk hs).imp_right fun hmem => List.mem_append_left _ hmem

theorem Consistent.put (h : Consistent db trace) {a : WbAutomationDurableAction}
    (ha : db'.actions = Function.update db.actions k (some a)) (hkey : a.idempotencyKey = k)
    (hothers : ∀ j, db.state.pendingIdempotencyKey = some j → j = k)
    (hp : db'.state.pendingIdempotencyKey = if a.status.unresolved then some k else none)
    (hev : ∀ j, Event.writeStarted j ∈ events → j = k)
    (hstarted : Event.writeStarted k ∈ trace ++ events ↔ a.writeStartedAt.isSome = true)
    (hfresh : a.status = .reserved → a.writeStartedAt = none)
    (hcancelled : a.status = .cancelled →
      a.writeStartedAt = none ∨ Event.classifiedNotSent k ∈ trace) :
    Consistent db' (trace ++ events) := by
  have hself : db'.actions k = some a := by rw [ha, Function.update_self]
  have hother : ∀ j, j ≠ k → db'.actions j = db.actions j := fun j hj => by
    rw [ha, Function.update_of_ne hj]
  refine ⟨fun j b hb => ?_, fun j => ?_, fun j => ?_, fun j b hb hs => ?_, fun j b hb hs => ?_⟩
  all_goals by_cases hj : j = k
  · subst hj
    rw [hself, Option.some.injEq] at hb
    rw [← hb, hkey]
  · exact h.key_eq j b (by rw [← hother j hj, hb])
  · subst hj
    rw [hp, hself]
    split_ifs with hu <;> simp [hu]
  · have hnone : db.state.pendingIdempotencyKey ≠ some j := fun hpj => hj (hothers j hpj)
    have hne : db'.state.pendingIdempotencyKey ≠ some j := by
      rw [hp]
      split_ifs
      · exact fun heq => hj (Option.some.inj heq).symm
      · exact fun heq => nomatch heq
    rw [hother j hj, ← h.pending j]
    exact iff_of_false hne hnone
  · subst hj
    rw [hstarted, hself]
    simp
  · rw [hother j hj, ← h.started j, List.mem_append]
    exact or_iff_left fun hmem => hj (hev j hmem)
  · subst hj
    rw [hself, Option.some.injEq] at hb
    subst hb
    exact hfresh hs
  · exact h.fresh j b (by rw [← hother j hj, hb]) hs
  · subst hj
    rw [hself, Option.some.injEq] at hb
    subst hb
    exact (hcancelled hs).imp_right fun hmem => List.mem_append_left _ hmem
  · exact (h.cancelled j b (by rw [← hother j hj, hb]) hs).imp_right fun hmem =>
      List.mem_append_left _ hmem

theorem Consistent.moved (h : Consistent db trace) {a a' : WbAutomationDurableAction}
    (hm : Moved db db' k a a') (hws : a'.writeStartedAt = a.writeStartedAt)
    (hp : db'.state.pendingIdempotencyKey = if a'.status.unresolved then some k else none)
    (hs' : a'.status ≠ .reserved)
    (hcancelled : a'.status = .cancelled →
      a.status = .reserved ∨ Event.classifiedNotSent k ∈ trace) : Consistent db' (trace ++ []) := by
  have hk := h.key_eq k a hm.old
  refine h.put (hk ▸ hm.actions) (hm.key.trans hk) (fun j hj => ?_) hp (by simp) ?_
    (fun hr => absurd hr hs') fun hc => ?_
  · rw [hm.pending] at hj
    exact (Option.some.inj hj).symm
  · rw [List.append_nil, h.started k, hm.old, hws]
    simp
  · rw [hws]
    exact (hcancelled hc).imp_left (h.fresh k a hm.old)

/-- **Every effect keeps the tables consistent.** -/
theorem Consistent.effect (h : Consistent db trace) (heff : Effect db db' trace events) :
    Consistent db' (trace ++ events) := by
  cases heff with
  | keep hs ha => exact h.same ha (by rw [hs]) (by simp)
  | refuse hdb => exact h.same (by rw [hdb]) (by rw [hdb]) (by simp)
  | send hdb hstart hsent => exact h.same (by rw [hdb]) (by rw [hdb]) (by simp)
  | @reserve k a hp hi hnew hk hs' hws ha hp' hadv =>
    refine h.put ha hk (fun j hj => ?_) ?_ (by simp) ?_ (fun _ => hws) fun hc => ?_
    · rw [hp] at hj
      cases hj
    · rw [hp', hs']
      rfl
    · rw [List.append_nil, h.started k, hnew, hws]
      simp
    · rw [hs'] at hc
      cases hc
  | @start k a a' hm hs' hws hstate =>
    have hk := h.key_eq k a hm.old
    refine h.put (hk ▸ hm.actions) (hm.key.trans hk) (fun j hj => ?_) ?_ (by simp) ?_ ?_ ?_
    · rw [hm.pending] at hj
      exact (Option.some.inj hj).symm
    · rw [hstate, hm.pending, hs']
      rfl
    · exact iff_of_true (by simp) hws
    · rw [hs']
      exact fun hr => nomatch hr
    · rw [hs']
      exact fun hc => nomatch hc
  | await hm hs' hws hstate =>
    refine h.moved hm hws (by rw [hstate, hm.pending, hs']; rfl) ?_ ?_ <;> simp [hs']
  | apply hm hs' hws hp' hadv =>
    refine h.moved hm hws (by rw [hp', hs']; rfl) ?_ ?_ <;> simp [hs']
  | cancel hm hs hs' hws hp' hadv =>
    exact h.moved hm hws (by rw [hp', hs']; rfl) (by simp [hs']) fun _ => hs
  | reconcile hm hs' hws hp' hadv =>
    refine h.moved hm hws (by rw [hp', hs']; rfl) ?_ ?_ <;> simp [hs']
  | lock hp hp' ha hadv => exact h.same ha (by rw [hp, hp']) (by simp)

/-- A send appended after its start keeps the sends single and ordered. -/
theorem SentOnce.append (h : SentOnce trace) {event : Event}
    (hnew : ∀ k, event = .sent k → Event.writeStarted k ∈ trace ∧ Event.sent k ∉ trace) :
    SentOnce (trace ++ [event]) where
  once k := by
    rw [List.count_append]
    by_cases hk : event = .sent k
    · rw [List.count_eq_zero_of_not_mem (hnew k hk).2, hk]
      simp
    · rw [List.count_eq_zero_of_not_mem (l := [event]) (by simp [Ne.symm hk])]
      exact h.once k
  after pre post k heq := by
    rcases List.eq_nil_or_concat post with rfl | ⟨post', last, rfl⟩
    · obtain ⟨rfl, hlast⟩ := List.append_inj' heq rfl
      exact (hnew k (List.singleton_injective hlast)).1
    · rw [List.concat_eq_append, ← List.cons_append, ← List.append_assoc] at heq
      obtain ⟨hpre, -⟩ := List.append_inj' heq rfl
      exact h.after pre post' k hpre

theorem SentOnce.effect (h : SentOnce trace) (heff : Effect db db' trace events) :
    SentOnce (trace ++ events) := by
  cases heff with
  | refuse hdb => exact h.append (by simp)
  | send hdb hstart hsent => exact h.append fun k hk => by cases hk; exact ⟨hstart, hsent⟩
  | start hm hs' hws hstate => exact h.append (by simp)
  | _ => rwa [List.append_nil]

theorem Moved.not_new (h : Consistent db trace) {a a' : WbAutomationDurableAction}
    (hm : Moved db db' k a a') {j : String} (hj : db.actions j = none) : db'.actions j = none := by
  have hk := h.key_eq k a hm.old
  have hne : j ≠ a.idempotencyKey := by
    rintro rfl
    rw [hk, hm.old] at hj
    cases hj
  rw [hm.actions, Function.update_of_ne hne, hj]

theorem Effect.new_action (heff : Effect db db' trace events) (h : Consistent db trace) {j : String}
    (hj : db.actions j = none) (hj' : db'.actions j ≠ none) :
    db.state.pendingIdempotencyKey = none ∧ db.state.incidentClass = none := by
  cases heff with
  | keep hs ha => exact absurd (ha ▸ hj) hj'
  | refuse hdb => exact absurd (hdb ▸ hj) hj'
  | send hdb hstart hsent => exact absurd (hdb ▸ hj) hj'
  | reserve hp hi hnew hk hs' hws ha hp' hadv => exact ⟨hp, hi⟩
  | start hm hs' hws hstate => exact absurd (hm.not_new h hj) hj'
  | await hm hs' hws hstate => exact absurd (hm.not_new h hj) hj'
  | apply hm hs' hws hp' hadv => exact absurd (hm.not_new h hj) hj'
  | cancel hm hs hs' hws hp' hadv => exact absurd (hm.not_new h hj) hj'
  | reconcile hm hs' hws hp' hadv => exact absurd (hm.not_new h hj) hj'
  | lock hp hp' ha hadv => exact absurd (ha ▸ hj) hj'

theorem Effect.row (heff : Effect db db' trace events) :
    db'.state = db.state ∨ Advances db db' := by
  cases heff with
  | keep hs ha => exact .inl hs
  | refuse hdb => exact .inl (by rw [hdb])
  | send hdb hstart hsent => exact .inl (by rw [hdb])
  | start hm hs' hws hstate => exact .inl hstate
  | await hm hs' hws hstate => exact .inl hstate
  | reserve hp hi hnew hk hs' hws ha hp' hadv => exact .inr hadv
  | apply hm hs' hws hp' hadv => exact .inr hadv
  | cancel hm hs hs' hws hp' hadv => exact .inr hadv
  | reconcile hm hs' hws hp' hadv => exact .inr hadv
  | lock hp hp' ha hadv => exact .inr hadv

end Tables

/-! ## Invariant of the executor -/

/-- What the executor may rely on inside a cycle. The state row is the one it decided on, since the
lease keeps other writers out. -/
def PhaseOk (db : Database) (trace : List Event) : Phase → Prop
  | .idle => True
  | .decided state _ _ _ | .persisted state _ _ _ => db.state = state
  | .reserved k _ => ∃ a, db.actions k = some a ∧ a.status = .reserved
  | .permitted k _ => Event.writeStarted k ∈ trace ∧ Event.sent k ∉ trace
  | .answered k _ result => result = .notSent → Event.classifiedNotSent k ∈ trace

/-- The invariant of the executor. -/
structure Inv (w : World) : Prop where
  tables : Consistent w.db w.trace
  sends : SentOnce w.trace
  phase : PhaseOk w.db w.trace w.phase

variable {ex : Executor}

theorem planCycle_pending_none {policy : WbAutomationPolicy} {state : WbAutomationDatabaseState}
    {snapshot : WbAutomationSnapshot} {intent : PostgresExecutionIntent} {pending : PendingAction}
    (h : planCycle policy state snapshot intent = .reserve pending) :
    state.pendingIdempotencyKey = none := by
  unfold planCycle at h
  split at h
  · cases h
  · assumption

theorem committed {db db' : Database} {trace : List Event} {α : Type}
    {transaction : Except WbAutomationPostgresError (Database × α)}
    (heff : ∀ {db'' receipt}, transaction = .ok (db'', receipt) → Effect db db'' trace [])
    (h : (transaction.map Prod.fst).mapError WbAutomationPostgresError.message = .ok db') :
    Effect db db' trace [] := by
  simp only [ok_of_mapError, ok_of_map] at h
  obtain ⟨⟨db'', receipt⟩, h, rfl⟩ := h
  exact heff h

theorem reconcile_effect {db db' : Database} {trace : List Event} {now : ℤ}
    {observation : WbAutomationObservation} {action : WbAutomationDurableAction} {revision : ℕ}
    {readback : String}
    (h : reconcilePostgresPending db now observation action revision readback = .ok db') :
    Effect db db' trace [] := by
  simp only [reconcilePostgresPending, ok_of_bind] at h
  obtain ⟨pending, -, h⟩ := h
  split at h
  · exact committed (fun h => cancelReserved_effect h) h
  simp only [ok_of_bind, ensure_eq_ok, exists_const] at h
  obtain ⟨-, h⟩ := h
  split at h
  · exact committed (fun h => markApplied_effect h) h
  split at h
  · rw [ok_of_pure] at h
    exact .keep (by rw [h]) (by rw [h])
  simp only [ok_of_bind, context_eq_ok] at h
  obtain ⟨startedAt, -, h⟩ := h
  split at h
  · split at h
    · exact committed (fun h => markAwaitingReadback_effect h) h
    · rw [ok_of_pure] at h
      exact .keep (by rw [h]) (by rw [h])
  · exact committed (fun h => markReconciliationRequired_effect h) h

theorem SentOnce.not_sent {trace : List Event} {k : String} (h : SentOnce trace)
    (hstart : Event.writeStarted k ∉ trace) : Event.sent k ∉ trace := by
  intro hsent
  obtain ⟨pre, post, rfl⟩ := List.append_of_mem hsent
  exact hstart (List.mem_append_left _ (h.after pre post k rfl))

/-- **Every step has an effect of the list and keeps the phase honest.** -/
theorem step_effect {w w' : World} (hw : Inv w) (h : Step ex w w') :
    ∃ events, w'.trace = w.trace ++ events ∧ Effect w.db w'.db w.trace events ∧
      PhaseOk w'.db w'.trace w'.phase := by
  obtain ⟨htables, hsends, hphase⟩ := hw
  cases h with
  | decide raw intent lastApplied authorization hauth h =>
    exact ⟨[], (List.append_nil _).symm, .keep rfl rfl, rfl⟩
  | persist h =>
    obtain ⟨hs, ha⟩ := persist_effect h
    exact ⟨[], (List.append_nil _).symm, .keep hs ha, hs.trans hphase⟩
  | reconcile now hplan hload h =>
    exact ⟨[], (List.append_nil _).symm, reconcile_effect h, trivial⟩
  | finish hplan => exact ⟨[], (List.append_nil _).symm, .keep rfl rfl, trivial⟩
  | lock hplan h => exact ⟨[], (List.append_nil _).symm, markIncident_effect h, trivial⟩
  | reserve now hplan h =>
    rcases reserve_effect h with hreplay | ⟨hrow, heff⟩
    · -- a replay needs a pending key, but the cycle decided on a row without one
      have hnone := planCycle_pending_none hplan
      rw [← (show _ = _ from hphase), hreplay] at hnone
      cases hnone
    · exact ⟨[], (List.append_nil _).symm, heff, _, hrow, rfl⟩
  | refuse => exact ⟨_, rfl, .refuse rfl, fun _ => by simp⟩
  | permit now h =>
    obtain ⟨a, ha, hreserved⟩ := hphase
    obtain ⟨b, hb, ⟨hst, -⟩ | ⟨rfl, heff⟩⟩ := markWriteStarted_effect h
    · rw [ha, Option.some.injEq] at hb
      rw [← hb, hreserved] at hst
      cases hst
    · have hnot := hsends.not_sent fun hstart => by
        obtain ⟨c, hc, hws⟩ := (htables.started _).mp hstart
        rw [ha, Option.some.injEq] at hc
        rw [← hc, htables.fresh _ a ha hreserved] at hws
        cases hws
      exact ⟨_, rfl, heff, by simp, by simpa using hnot⟩
  | refusePermitted => exact ⟨_, rfl, .refuse rfl, fun _ => by simp⟩
  | send result h => exact ⟨_, rfl, .send rfl hphase.1 hphase.2, fun heq => absurd heq h⟩
  | @settle db db' trace key revision result now h =>
    refine ⟨[], (List.append_nil _).symm, ?_, trivial⟩
    cases result with
    | sent =>
      simp only [settleWrite, ok_of_map] at h
      obtain ⟨⟨db'', changed⟩, h, rfl⟩ := h
      exact markAwaitingReadback_effect h
    | notSent =>
      simp only [settleWrite, ok_of_map] at h
      obtain ⟨⟨db'', receipt⟩, h, rfl⟩ := h
      exact cancelNotSent_effect h (hphase rfl)
    | ambiguous =>
      simp only [settleWrite, ok_of_map] at h
      obtain ⟨⟨db'', receipt⟩, h, rfl⟩ := h
      exact markReconciliationRequired_effect h
  | crash => exact ⟨[], (List.append_nil _).symm, .keep rfl rfl, trivial⟩

/-- **The invariant is inductive.** -/
theorem inv_step {w w' : World} (hw : Inv w) (h : Step ex w w') : Inv w' := by
  obtain ⟨events, htrace, heff, hphase⟩ := step_effect hw h
  refine ⟨?_, ?_, hphase⟩
  · rw [htrace]
    exact hw.tables.effect heff
  · rw [htrace]
    exact hw.sends.effect heff

theorem inv_init {w : World} (h : CleanStart w) : Inv w := by
  obtain ⟨hphase, htrace, hpend, -, hactions⟩ := h
  refine ⟨⟨?_, ?_, ?_, ?_, ?_⟩, ⟨?_, ?_⟩, ?_⟩
  all_goals simp [hphase, htrace, hpend, hactions, PhaseOk]

theorem inv_of_reachable {w : World} (h : Reachable (executor ex) w) : Inv w :=
  Reachable.invariant (fun _ => inv_init) (fun _ _ => inv_step) h

/-- The incident of a campaign survives every step. -/
theorem step_incident {w w' : World} (hw : Inv w) (h : Step ex w w') {c : String}
    (hc : w.db.state.incidentClass = some c) : w'.db.state.incidentClass = some c := by
  obtain ⟨events, -, heff, -⟩ := step_effect hw h
  rcases heff.row with hs | hadv
  · rw [hs, hc]
  · exact hadv.sticky c hc

/-! ## The protocol -/

/-- **The durable action protocol.** In every world the executor can reach: each key is sent at most
once, and only after its start was committed; a cancelled action was never started or was classified
as not sent; the pending key is set exactly when an unresolved action exists, and there is at most
one. Every further step reserves a new action only without a pending key and an incident, and
changes the state row only together with its revision; an incident survives every further run. -/
theorem durable_action_protocol (w : World) (h : Reachable (executor ex) w) :
    (∀ k, w.trace.count (.sent k) ≤ 1) ∧
    (∀ pre post k, w.trace = pre ++ .sent k :: post → Event.writeStarted k ∈ pre) ∧
    (∀ k a, w.db.actions k = some a → a.status = .cancelled →
      Event.writeStarted k ∉ w.trace ∨ Event.classifiedNotSent k ∈ w.trace) ∧
    (w.db.state.pendingIdempotencyKey.isSome = true ↔
      ∃ k a, w.db.actions k = some a ∧ a.status.unresolved = true) ∧
    (∀ k k' a a', w.db.actions k = some a → a.status.unresolved = true →
      w.db.actions k' = some a' → a'.status.unresolved = true → k = k') ∧
    (∀ w', Step ex w w' →
      (∀ k, w.db.actions k = none → w'.db.actions k ≠ none →
        w.db.state.pendingIdempotencyKey = none ∧ w.db.state.incidentClass = none) ∧
      (w'.db.state ≠ w.db.state → w'.db.state.revision = w.db.state.revision + 1)) ∧
    (∀ w' c, Relation.ReflTransGen (Step ex) w w' → w.db.state.incidentClass = some c →
      w'.db.state.incidentClass = some c) := by
  have hw := inv_of_reachable h
  refine ⟨hw.sends.once, hw.sends.after, fun k a ha hc => ?_, ?_, fun k k' a a' ha hu ha' hu' => ?_,
    fun w' hstep => ⟨fun k hk hk' => ?_, fun hne => ?_⟩, fun w' c hrun hc => ?_⟩
  · refine (hw.tables.cancelled k a ha hc).imp_left fun hnone hstart => ?_
    obtain ⟨b, hb, hws⟩ := (hw.tables.started k).mp hstart
    rw [ha, Option.some.injEq] at hb
    rw [← hb, hnone] at hws
    cases hws
  · rw [Option.isSome_iff_exists]
    exact exists_congr hw.tables.pending
  · have hk := (hw.tables.pending k).mpr ⟨a, ha, hu⟩
    have hk' := (hw.tables.pending k').mpr ⟨a', ha', hu'⟩
    rw [hk, Option.some.injEq] at hk'
    exact hk'
  · obtain ⟨events, -, heff, -⟩ := step_effect hw hstep
    exact heff.new_action hw.tables hk hk'
  · obtain ⟨events, -, heff, -⟩ := step_effect hw hstep
    rcases heff.row with hs | hadv
    · exact absurd hs hne
    · exact hadv.revision
  · exact Reachable.run_mono (S := executor ex) (P := Inv)
      (R := fun w w' => w.db.state.incidentClass = some c → w'.db.state.incidentClass = some c)
      (fun _ _ => inv_step) (fun _ => id) (fun _ _ _ hst htu => htu ∘ hst)
      (fun _ _ hs hst => step_incident hs hst) hw hrun hc

/-- The executor of `robotPolicy`. -/
def robotExecutor : Executor where
  policy := robotPolicy
  policySha256 := "policy"
  legacyDigest := "legacy"
  digests := ⟨fun _ => "cycle", fun _ => "request", fun cycle request _ => cycle ++ ":" ++ request⟩

/-- A campaign that has spent its pause threshold. -/
def overspentObservation : WbAutomationObservation where
  observedAt := seconds 43200
  campaignStatus := 9
  pausedByAutomation := false
  budgetRemainingMinor := 100000
  dailySpendMinor := 46000
  dailySpendComplete := true
  actionsToday := 0
  lastActionAt := none
  attributionComplete := false
  campaignLevelMetrics := none
  currentCampaignMetrics := some ⟨300, 20, 46000, 0, 0⟩
  skus := [⟨449627598, 102, 700, 10, 0, 0, 0, 0, 0⟩, ⟨449627015, 102, 200, 10, 0, 0, 0, 0, 0⟩]

/-- The clean start of a campaign whose state row counts `actionsToday` actions. -/
def cleanWorld (actionsToday : ℕ) : World where
  db :=
    { state := ⟨"policy", 0, actionsToday, none, none, none, none, 0, some "legacy"⟩
      actions := fun _ => none
      cycles := fun _ => none
      authorizations := [] }
  phase := .idle
  trace := []

/-- A pause is decided, reserved, started and sent, and the process dies before the answer. -/
theorem pause_sent_reachable : ∃ w, Reachable (executor robotExecutor) w ∧ w.phase = .idle ∧
    w.trace = [.writeStarted "cycle:request", .sent "cycle:request"] := by
  have start : Reachable (executor robotExecutor) (cleanWorld 0) :=
    .init ⟨rfl, rfl, rfl, rfl, rfl⟩
  have decided := start.step (Step.decide overspentObservation .automatic none none (by decide) rfl)
  have persisted := decided.step (Step.persist rfl)
  have reserved := persisted.step (Step.reserve (seconds 43201) rfl rfl)
  have permitted := reserved.step (Step.permit (seconds 43202) rfl)
  have sent := permitted.step (Step.send .sent (by decide))
  exact ⟨_, sent.step Step.crash, rfl, rfl⟩

/-- After that run the key is sent once. -/
theorem durable_action_protocol_sent : ∃ w, Reachable (executor robotExecutor) w ∧
    Event.sent "cycle:request" ∈ w.trace ∧ w.trace.count (.sent "cycle:request") ≤ 1 := by
  obtain ⟨w, hw, -, htrace⟩ := pause_sent_reachable
  exact ⟨w, hw, by rw [htrace]; decide, (durable_action_protocol w hw).1 _⟩

end AdsControl.Wb
