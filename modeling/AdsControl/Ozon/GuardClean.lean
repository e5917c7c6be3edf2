import AdsControl.Ozon.GuardWorkflow

/-!
# Clean runs of the guard cycle

What a run of the cycle must avoid to go on. Read failures and ambiguous writes stay with their guard. A
failed repository call does not, nor does a refused permit or an uncertain marker when the campaign then
reads back as running: the cycle ends there.

* `Clean`: no failed repository call, and no refused write read back as running;
* **`reconcile_isolated`**: the reconciliation of a stop stays with its guard exactly when it is clean;
* **`recoverStops_ok`**: the drain ends exactly when it is clean.
-/

namespace AdsControl.Ozon

open Interaction

/-- A command with its answer. -/
abbrev Entry : Type := Sigma GuardCall.Answer

/-! ## Clean runs -/

/-- The repository failed a call of the cycle itself. -/
def StoreFailed : Entry → Prop
  | ⟨.activeGuards _, answer⟩ => ∃ error, answer = .error error
  | ⟨.claimStopRecovery _ _, answer⟩ => ∃ error, answer = .error error
  | ⟨.claimStop _ _ _ _, answer⟩ => ∃ error, answer = .error error
  | ⟨.recordObservation _ _, answer⟩ => ∃ error, answer = .error error
  | ⟨.finishStop _ _, answer⟩ => ∃ error, answer = .error error
  | ⟨.markIncident _ _ _, answer⟩ => ∃ error, answer = .error error
  | ⟨.recordReadback _ _, answer⟩ => ∃ error, answer = .error error
  | _ => False

/-- The write ended before its marker was acknowledged: no token or quota, a refused permit, or an
uncertain marker. -/
def Refused : Entry → Prop
  | ⟨.prepareWrite _, answer⟩ => ∃ error, answer = .error error
  | ⟨.startGuardStopWrite _, answer⟩ => ∃ error, answer = .error error
  | _ => False

/-- The run goes on with a readback of a running campaign. -/
def ReadsRunning (trace : List Entry) : Prop :=
  ∃ lease after, trace = ⟨.campaignIsRunning lease, .ok true⟩ :: after

/-- A refused write is followed by a readback that still reports the campaign as running. -/
def RefusedWhileRunning (trace : List Entry) : Prop :=
  ∃ before refusal after, Refused refusal ∧ ReadsRunning after ∧ trace = before ++ refusal :: after

/-- A recovered stop with half of its evidence. -/
def BrokenPair : Entry → Prop
  | ⟨.claimStopRecovery _ _, answer⟩ =>
    ∃ lease, answer = .ok (some lease) ∧ lease.spendMinor.isSome ≠ lease.revenueMinor.isSome
  | _ => False

/-- What a run must avoid to evaluate every guard. -/
structure Clean (trace : List Entry) : Prop where
  store : ∀ entry ∈ trace, ¬ StoreFailed entry
  paired : ∀ entry ∈ trace, ¬ BrokenPair entry
  permitted : ¬ RefusedWhileRunning trace

variable {context : OzonGuardRunContext} {lease : OzonGuardStopLease} {entry : Entry}
  {evidence : OzonGuardEvidence} {trace first rest : List Entry}
  {result : Except OzonGuardWorkflowError Unit}

theorem refusedWhileRunning_cons : RefusedWhileRunning (entry :: rest) ↔
    Refused entry ∧ ReadsRunning rest ∨ RefusedWhileRunning rest := by
  constructor
  · rintro ⟨before, refusal, after, hrefused, hreads, heq⟩
    cases before with
    | nil =>
      cases heq
      exact .inl ⟨hrefused, hreads⟩
    | cons head before =>
      cases heq
      exact .inr ⟨before, refusal, after, hrefused, hreads, rfl⟩
  · rintro (⟨hrefused, hreads⟩ | ⟨before, refusal, after, hrefused, hreads, rfl⟩)
    · exact ⟨[], entry, rest, hrefused, hreads, rfl⟩
    · exact ⟨entry :: before, refusal, after, hrefused, hreads, rfl⟩

theorem clean_nil : Clean [] where
  store := by simp
  paired := by simp
  permitted := by simp [RefusedWhileRunning]

theorem clean_cons : Clean (entry :: rest) ↔
    ¬ StoreFailed entry ∧ ¬ BrokenPair entry ∧ ¬ (Refused entry ∧ ReadsRunning rest) ∧ Clean rest := by
  constructor
  · rintro ⟨hstore, hpaired, hpermitted⟩
    rw [List.forall_mem_cons] at hstore hpaired
    rw [refusedWhileRunning_cons, not_or] at hpermitted
    exact ⟨hstore.1, hpaired.1, hpermitted.1, hstore.2, hpaired.2, hpermitted.2⟩
  · rintro ⟨hstore, hpaired, hpermitted, hclean⟩
    exact ⟨List.forall_mem_cons.mpr ⟨hstore, hclean.store⟩, List.forall_mem_cons.mpr ⟨hpaired, hclean.paired⟩,
      fun hrefused => (refusedWhileRunning_cons.mp hrefused).elim hpermitted hclean.permitted⟩

theorem StoreFailed.not_clean (h : StoreFailed entry) : ¬ Clean (entry :: rest) :=
  fun hclean => (clean_cons.mp hclean).1 h

/-- After a refusal the run must not read the campaign back as running. -/
theorem Refused.clean_iff (h : Refused entry) (hstore : ¬ StoreFailed entry) (hpaired : ¬ BrokenPair entry) :
    Clean (entry :: rest) ↔ ¬ ReadsRunning rest ∧ Clean rest := by
  rw [clean_cons]
  tauto

theorem clean_of_quiet (h : ∀ entry ∈ trace, ¬ StoreFailed entry ∧ ¬ BrokenPair entry ∧ ¬ Refused entry) :
    Clean trace where
  store entry hmem := (h entry hmem).1
  paired entry hmem := (h entry hmem).2.1
  permitted := by
    rintro ⟨before, refusal, after, hrefused, -, rfl⟩
    exact (h refusal (by simp)).2.2 hrefused

theorem clean_pass (hstore : ¬ StoreFailed entry) (hpaired : ¬ BrokenPair entry) (hrefused : ¬ Refused entry) :
    Clean (entry :: rest) ↔ Clean rest := by
  rw [clean_cons]
  tauto

@[simp] theorem not_readsRunning_nil : ¬ ReadsRunning [] := by
  rintro ⟨lease, after, heq⟩
  cases heq

theorem ReadsRunning.head (h : ReadsRunning (entry :: rest)) :
    ∃ lease, entry = ⟨.campaignIsRunning lease, .ok true⟩ := by
  obtain ⟨lease, after, heq⟩ := h
  exact ⟨lease, (List.cons.inj heq).1⟩

theorem clean_append (hrest : ¬ ReadsRunning rest) : Clean (first ++ rest) ↔ Clean first ∧ Clean rest := by
  induction first with
  | nil => simp [clean_nil]
  | cons entry first ih =>
    have hreads : ReadsRunning (first ++ rest) ↔ ReadsRunning first := by
      cases first with
      | nil => simp [hrest]
      | cons head first => simp [ReadsRunning]
    rw [List.cons_append, clean_cons, clean_cons, hreads, ih]
    tauto

theorem claimGuardStopRecovery_paired {digest : TokenDigest} {db db' : Database} {now : ℤ}
    {selected : Option String} {accountId workerId : String}
    (h : claimGuardStopRecovery digest db now selected accountId workerId = .ok (db', some lease)) :
    lease.spendMinor.isSome = lease.revenueMinor.isSome := by
  simp only [claimGuardStopRecovery, Fallible.ok_of_bind] at h
  obtain ⟨-, -, -, -, h⟩ := h
  split at h
  · cases h
  · simp only [Fallible.ok_of_bind, Fallible.ensure_eq_ok, Fallible.context_eq_ok,
      Fallible.ok_of_mapError, validateGuardMetricsPair, Fallible.ok_of_pure, Prod.mk.injEq] at h
    obtain ⟨_, -, -, -, _, -, -, hpair, _, -, -, hlease⟩ := h
    rw [Option.some.injEq] at hlease
    rw [← hlease]
    exact hpair

theorem activeGuardsForAccount_nodup {db : Database} {listed : List String} {accountId : String}
    {guards : List OzonCampaignGuard} (hlisted : listed.Nodup)
    (hkeys : ∀ planId row, db.guards planId = some row → row.planId = planId)
    (h : activeGuardsForAccount db listed accountId = .ok guards) : guards.Nodup := by
  simp only [activeGuardsForAccount, Fallible.ok_of_bind, Fallible.ok_of_pure] at h
  obtain ⟨-, -, rfl⟩ := h
  rw [List.filterMap_filterMap]
  refine hlisted.filterMap fun planId planId' guard hguard hguard' => ?_
  have hplan : ∀ planId, guard ∈ (db.guards planId).bind (fun row =>
      if row.accountId = accountId ∧ row.status = .active then some (guardFromRow row) else none) →
      guard.planId = planId := by
    intro planId hmem
    obtain ⟨row, hrow, hmem⟩ := Option.bind_eq_some_iff.mp (Option.mem_def.mp hmem)
    split_ifs at hmem
    cases hmem
    exact hkeys planId row hrow
  exact (hplan planId hguard).symm.trans (hplan planId' hguard')

/-! ## The stop of one lease -/

/-- The results that stay with their guard. -/
def Isolated (result : Except OzonGuardWorkflowError Unit) : Prop :=
  isolateRead result = .ok ()

theorem isolated_ok (u : Unit) : Isolated (.ok u) := rfl

theorem isolated_read (error : OzonGuardReadFailure) : Isolated (.error (.read error)) := rfl

theorem not_isolated_repository (error : OzonPlanStoreError) : ¬ Isolated (.error (.repository error)) := by
  intro h
  cases h

theorem confirmStop_isolated (h : (confirmStop lease evidence).Runs trace result) :
    Isolated result ↔ Clean trace := by
  obtain ⟨recorded, rest, rfl, h⟩ := h
  cases recorded with
  | error error =>
    obtain ⟨rfl, rfl⟩ := h
    exact iff_of_false (not_isolated_repository error) (StoreFailed.not_clean ⟨error, rfl⟩)
  | ok _ =>
    rw [clean_pass (by rintro ⟨_, ⟨⟩⟩) id id]
    obtain ⟨finished, rest, rfl, h⟩ := h
    cases finished with
    | error error =>
      obtain ⟨rfl, rfl⟩ := h
      exact iff_of_false (not_isolated_repository error) (StoreFailed.not_clean ⟨error, rfl⟩)
    | ok _ =>
      obtain ⟨rfl, rfl⟩ := h
      rw [clean_pass (by rintro ⟨_, ⟨⟩⟩) id id]
      exact iff_of_true (isolated_ok _) clean_nil

theorem retainStop_isolated {error : OzonGuardReadFailure}
    (h : (retainStop lease error).Runs trace result) : Isolated result ↔ Clean trace := by
  obtain ⟨recorded, rest, rfl, h⟩ := h
  cases recorded with
  | error error =>
    obtain ⟨rfl, rfl⟩ := h
    exact iff_of_false (not_isolated_repository error) (StoreFailed.not_clean ⟨error, rfl⟩)
  | ok _ =>
    obtain ⟨rfl, rfl⟩ := h
    rw [clean_pass (by rintro ⟨_, ⟨⟩⟩) id id]
    exact iff_of_true (isolated_read error) clean_nil

/-- A write leaves the rest of the run as it is, or ends with a refusal that a readback must not follow. -/
theorem deactivate_result {write : Except OzonGuardWorkflowError (Except OzonGuardWriteFailure Unit)}
    (h : (deactivateWithFinalPermit lease).Runs trace write) : ∃ outcome, write = .ok outcome ∧
      ((∃ errorClass, incidentErrorClass outcome = .ok errorClass) ∧
          (∀ rest, Clean (trace ++ rest) ↔ Clean rest) ∨
        (∃ error, incidentErrorClass outcome = .error (.repository error)) ∧
          ∀ rest, Clean (trace ++ rest) ↔ ¬ ReadsRunning rest ∧ Clean rest) := by
  obtain ⟨prepared, rest, rfl, h⟩ := h
  cases prepared with
  | error error =>
    obtain ⟨rfl, rfl⟩ := h
    exact ⟨_, rfl, .inr ⟨⟨_, rfl⟩, fun rest => Refused.clean_iff ⟨error, rfl⟩ id id⟩⟩
  | ok _ =>
    obtain ⟨started, rest, rfl, h⟩ := h
    have hprepared : ∀ rest, Clean (⟨.prepareWrite lease, .ok ()⟩ :: rest) ↔ Clean rest := fun rest =>
      clean_pass id id (by rintro ⟨_, ⟨⟩⟩)
    cases started with
    | error error =>
      obtain ⟨rfl, rfl⟩ := h
      exact ⟨_, rfl, .inr ⟨⟨_, rfl⟩, fun rest => (hprepared _).trans (Refused.clean_iff ⟨error, rfl⟩ id id)⟩⟩
    | ok _ =>
      have hstarted : ∀ rest, Clean (⟨.startGuardStopWrite lease, .ok ()⟩ :: rest) ↔ Clean rest := fun rest =>
        clean_pass id id (by rintro ⟨_, ⟨⟩⟩)
      obtain ⟨admitted, rest, rfl, h⟩ := h
      have hadmitted : ∀ rest, Clean (⟨.admitWrite lease, admitted⟩ :: rest) ↔ Clean rest := fun rest =>
        clean_pass id id id
      cases admitted with
      | error error =>
        obtain ⟨rfl, rfl⟩ := h
        exact ⟨_, rfl, .inl ⟨⟨_, rfl⟩, fun rest =>
          (hprepared _).trans ((hstarted _).trans (hadmitted rest))⟩⟩
      | ok _ =>
        obtain ⟨sent, rest, rfl, h⟩ := h
        have hsent : ∀ rest, Clean (⟨.deactivate lease, sent⟩ :: rest) ↔ Clean rest := fun rest =>
          clean_pass id id id
        have hall : ∀ rest, Clean (⟨.prepareWrite lease, .ok ()⟩ :: ⟨.startGuardStopWrite lease, .ok ()⟩ ::
            ⟨.admitWrite lease, .ok ()⟩ :: ⟨.deactivate lease, sent⟩ :: rest) ↔ Clean rest := fun rest =>
          (hprepared _).trans ((hstarted _).trans ((hadmitted _).trans (hsent rest)))
        cases sent with
        | error error =>
          obtain ⟨rfl, rfl⟩ := h
          exact ⟨_, rfl, .inl ⟨⟨_, rfl⟩, hall⟩⟩
        | ok _ =>
          obtain ⟨rfl, rfl⟩ := h
          exact ⟨_, rfl, .inl ⟨⟨_, rfl⟩, hall⟩⟩

theorem hitFailpoint_off (hoff : ∀ point, context.failpoints point = false)
    (point : OzonGuardFailpoint) : hitFailpoint context point = pure () :=
  if_neg (by rw [hoff]; exact Bool.false_ne_true)

theorem incidentErrorClass_cases (write : Except OzonGuardWriteFailure Unit) :
    (∃ errorClass, incidentErrorClass write = .ok errorClass) ∨
      ∃ error, incidentErrorClass write = .error (.repository error) := by
  rcases write with (_ | _ | _) | _
  · exact .inr ⟨_, rfl⟩
  · exact .inr ⟨_, rfl⟩
  · exact .inl ⟨_, rfl⟩
  · exact .inl ⟨_, rfl⟩

/-- Settling a stop is isolated exactly when it is clean and does not read a refused write back as running. -/
theorem settleStop_isolated (hoff : ∀ point, context.failpoints point = false)
    {write : Except OzonGuardWriteFailure Unit}
    (h : (settleStop context lease evidence write).Runs trace result) : Isolated result ↔
      ((∃ errorClass, incidentErrorClass write = .ok errorClass) ∨ ¬ ReadsRunning trace) ∧ Clean trace := by
  rw [settleStop, hitFailpoint_off hoff] at h
  obtain ⟨running, rest, rfl, h⟩ := h
  rw [clean_pass id id id]
  rcases running with error | _ | _
  · have hreads : ¬ ReadsRunning (⟨.campaignIsRunning lease, .error error⟩ :: rest) := fun hreads => by
      obtain ⟨_, ⟨⟩⟩ := hreads.head
    rw [retainStop_isolated h, and_iff_right (.inr hreads)]
  · have hreads : ¬ ReadsRunning (⟨.campaignIsRunning lease, .ok false⟩ :: rest) := fun hreads => by
      obtain ⟨_, ⟨⟩⟩ := hreads.head
    rw [confirmStop_isolated h, and_iff_right (.inr hreads)]
  · have hreads : ReadsRunning (⟨.campaignIsRunning lease, .ok true⟩ :: rest) := ⟨lease, rest, rfl⟩
    obtain ⟨recorded, rest, rfl, h⟩ := h
    cases recorded with
    | error error =>
      obtain ⟨rfl, rfl⟩ := h
      exact iff_of_false (not_isolated_repository error) fun hall =>
        absurd hall.2 (StoreFailed.not_clean ⟨error, rfl⟩)
    | ok _ =>
      rw [clean_pass (by rintro ⟨_, ⟨⟩⟩) id id]
      rcases incidentErrorClass_cases write with ⟨errorClass, hclass⟩ | ⟨error, hclass⟩
      · rw [and_iff_right (.inl ⟨errorClass, hclass⟩)]
        rw [hclass] at h
        obtain ⟨marked, rest, rfl, h⟩ := h
        cases marked with
        | error error =>
          obtain ⟨rfl, rfl⟩ := h
          exact iff_of_false (not_isolated_repository error) (StoreFailed.not_clean ⟨error, rfl⟩)
        | ok _ =>
          obtain ⟨rfl, rfl⟩ := h
          rw [clean_pass (by rintro ⟨_, ⟨⟩⟩) id id]
          exact iff_of_true (isolated_ok _) clean_nil
      · rw [hclass] at h
        obtain ⟨rfl, rfl⟩ := h
        refine iff_of_false (not_isolated_repository error) ?_
        rintro ⟨⟨errorClass, hclass'⟩ | hnot, -⟩
        · rw [hclass] at hclass'
          cases hclass'
        · exact hnot hreads

theorem stopRunning_isolated (hoff : ∀ point, context.failpoints point = false)
    (h : (stopRunning context lease evidence).Runs trace result) : Isolated result ↔ Clean trace := by
  rw [stopRunning, hitFailpoint_off hoff] at h
  have h : (deactivateWithFinalPermit lease >>= settleStop context lease evidence).Runs trace
    result := h
  rcases Prog.runs_bind.mp h with ⟨_, hwrite, -⟩ | ⟨write, written, rest, rfl, hwrite, h⟩
  · obtain ⟨_, hok, -⟩ := deactivate_result hwrite
    cases hok
  · obtain ⟨outcome, hok, hcases⟩ := deactivate_result hwrite
    cases hok
    rw [settleStop_isolated hoff h]
    rcases hcases with ⟨hclass, hclean⟩ | ⟨⟨error, herror⟩, hclean⟩
    · rw [hclean, and_iff_right (.inl hclass)]
    · rw [hclean, herror]
      simp

theorem stopUnlessStarted_isolated (hoff : ∀ point, context.failpoints point = false)
    (h : (stopUnlessStarted context lease evidence).Runs trace result) : Isolated result ↔ Clean trace := by
  unfold stopUnlessStarted at h
  split at h
  · obtain ⟨marked, rest, rfl, h⟩ := h
    cases marked with
    | error error =>
      obtain ⟨rfl, rfl⟩ := h
      exact iff_of_false (not_isolated_repository error) (StoreFailed.not_clean ⟨error, rfl⟩)
    | ok _ =>
      obtain ⟨rfl, rfl⟩ := h
      rw [clean_pass (by rintro ⟨_, ⟨⟩⟩) id id]
      exact iff_of_true (isolated_ok _) clean_nil
  · exact stopRunning_isolated hoff h

/-- **A reconciliation stays with its guard exactly when its run is clean.** -/
theorem reconcile_isolated (hoff : ∀ point, context.failpoints point = false)
    (h : (reconcileLeasedStop context lease evidence).Runs trace result) : Isolated result ↔ Clean trace := by
  obtain ⟨running, rest, rfl, h⟩ := h
  rw [clean_pass id id id]
  rcases running with error | _ | _
  · exact retainStop_isolated h
  · exact confirmStop_isolated h
  · obtain ⟨recorded, rest, rfl, h⟩ := h
    cases recorded with
    | error error =>
      obtain ⟨rfl, rfl⟩ := h
      exact iff_of_false (not_isolated_repository error) (StoreFailed.not_clean ⟨error, rfl⟩)
    | ok _ =>
      rw [clean_pass (by rintro ⟨_, ⟨⟩⟩) id id]
      exact stopUnlessStarted_isolated hoff h

theorem reconcileIsolated_ok (hoff : ∀ point, context.failpoints point = false)
    (h : (reconcileIsolated context lease evidence).Runs trace result) : result = .ok () ↔ Clean trace := by
  rcases Prog.runs_bind.mp h with ⟨_, hrun, -⟩ | ⟨outcome, first, rest, rfl, hrun, h⟩
  · obtain ⟨_, -, hok⟩ := Prog.runs_attempt.mp hrun
    cases hok
  · obtain ⟨_, hrun, hok⟩ := Prog.runs_attempt.mp hrun
    cases hok
    obtain ⟨rfl, rfl⟩ := Prog.runs_ofExcept.mp h
    rw [List.append_nil]
    exact reconcile_isolated hoff hrun

/-! ## The drain -/

theorem leaseEvidence_cases (lease : OzonGuardStopLease) :
    (∃ evidence, leaseEvidence lease = .ok evidence) ∧ lease.spendMinor.isSome = lease.revenueMinor.isSome ∨
      leaseEvidence lease = .error (.repository .unavailable) ∧
        lease.spendMinor.isSome ≠ lease.revenueMinor.isSome := by
  unfold leaseEvidence
  cases lease.spendMinor <;> cases lease.revenueMinor
  · exact .inl ⟨⟨_, rfl⟩, rfl⟩
  · exact .inr ⟨rfl, by simp⟩
  · exact .inr ⟨rfl, by simp⟩
  · exact .inl ⟨⟨_, rfl⟩, rfl⟩

theorem recoverStops_head {count : ℕ} (h : (recoverStops context count).Runs trace result) :
    ¬ ReadsRunning trace := by
  cases count with
  | zero =>
    obtain ⟨rfl, -⟩ := h
    exact not_readsRunning_nil
  | succ count =>
    obtain ⟨claimed, rest, rfl, -⟩ := h
    intro hreads
    obtain ⟨_, ⟨⟩⟩ := hreads.head

/-- **The drain ends exactly when it is clean.** -/
theorem recoverStops_ok (hoff : ∀ point, context.failpoints point = false) {count : ℕ}
    (h : (recoverStops context count).Runs trace result) : result = .ok () ↔ Clean trace := by
  induction count generalizing trace with
  | zero =>
    obtain ⟨rfl, rfl⟩ := h
    exact iff_of_true rfl clean_nil
  | succ count ih =>
    obtain ⟨claimed, rest, rfl, h⟩ := h
    rcases claimed with error | _ | lease
    · obtain ⟨rfl, rfl⟩ := h
      exact iff_of_false (by rintro ⟨⟩) (StoreFailed.not_clean ⟨error, rfl⟩)
    · obtain ⟨rfl, rfl⟩ := h
      rw [clean_pass (by rintro ⟨_, ⟨⟩⟩) (by rintro ⟨_, ⟨⟩, -⟩) id]
      exact iff_of_true rfl clean_nil
    · have h : (Prog.ofExcept (leaseEvidence lease) >>= fun evidence =>
        reconcileIsolated context lease evidence >>= fun _ => recoverStops context count).Runs rest
          result := h
      rcases leaseEvidence_cases lease with ⟨⟨evidence, hevidence⟩, hpair⟩ | ⟨hevidence, hpair⟩
      · rw [clean_pass (by rintro ⟨_, ⟨⟩⟩) (by rintro ⟨_, ⟨⟩, hne⟩; exact hne hpair) id]
        rw [hevidence] at h
        have h : (reconcileIsolated context lease evidence >>= fun _ => recoverStops context count).Runs rest
          result := h
        rcases Prog.runs_bind.mp h with ⟨error, hrun, rfl⟩ | ⟨_, first, rest, rfl, hrun, h⟩
        · exact iff_of_false (by rintro ⟨⟩) fun hclean => by
            cases (reconcileIsolated_ok hoff hrun).mpr hclean
        · rw [clean_append (recoverStops_head h), ih h,
            and_iff_right ((reconcileIsolated_ok hoff hrun).mp rfl)]
      · rw [hevidence] at h
        obtain ⟨rfl, rfl⟩ := h
        exact iff_of_false (by rintro ⟨⟩) fun hclean => (clean_cons.mp hclean).2.1 ⟨lease, rfl, hpair⟩

end AdsControl.Ozon
