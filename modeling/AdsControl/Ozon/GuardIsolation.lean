import AdsControl.Ozon.GuardClean
import AdsControl.Lib.Attempt

/-!
# Isolation of guards

Whether the trouble of one guard keeps the cycle from evaluating the others. It does when it ends the cycle
before the last guard is decided: a refused permit or an uncertain marker of one guard hides the guards
after it.

* `Evaluated`: the metrics of a guard were read, and its observation was recorded or its stop claimed;
* `CleanUntilClaim`: nothing went wrong before the stop of a guard was claimed;
* **`guard_isolation`**: a clean drain comes to the active guards, and a scan evaluates all of them exactly
  when it is clean until the claim of the last one;
* **`guard_not_isolated`**: a run in which a refused permit hides the next guard.
-/

namespace AdsControl.Ozon

open Interaction

variable {context : OzonGuardRunContext} {lease : OzonGuardStopLease} {entry : Entry}
  {evidence : OzonGuardEvidence} {trace first rest : List Entry}
  {result : Except OzonGuardWorkflowError Unit}

/-! ## The scan -/

/-- The metrics of the guard were read. -/
def MetricsRead (trace : List Entry) (guard : OzonCampaignGuard) : Prop :=
  ∃ observedAt answer, ⟨.metrics guard observedAt, answer⟩ ∈ trace

/-- The observation of the guard was recorded, or its stop claimed. -/
def Decided (trace : List Entry) (guard : OzonCampaignGuard) : Prop :=
  (∃ metrics, ⟨.recordObservation guard metrics, .ok ()⟩ ∈ trace) ∨
    ∃ reason evidence workerId lease, ⟨.claimStop guard reason evidence workerId, .ok lease⟩ ∈ trace

/-- The metrics of the guard were read, and its observation was recorded or its stop claimed. -/
def Evaluated (trace : List Entry) (guard : OzonCampaignGuard) : Prop :=
  MetricsRead trace guard ∧ Decided trace guard

/-- Whatever goes wrong goes wrong in the stop of the guard, after it was claimed. -/
def CleanUntilClaim (guard : OzonCampaignGuard) (trace : List Entry) : Prop :=
  Clean trace ∨ ∃ before reason evidence workerId lease after, Clean before ∧
    trace = before ++ ⟨.claimStop guard reason evidence workerId, .ok lease⟩ :: after

/-- The commands of a stop. -/
def StopCommand : GuardCall → Prop
  | .finishStop _ _ => True
  | .markIncident _ _ _ => True
  | .recordReadback _ _ => True
  | .campaignIsRunning _ => True
  | .prepareWrite _ => True
  | .startGuardStopWrite _ => True
  | .admitWrite _ => True
  | .deactivate _ => True
  | _ => False

/-- The commands of the scan that are about a guard are about this one. -/
def ConcernsGuard (guard : OzonCampaignGuard) : GuardCall → Prop
  | .metrics guard' _ => guard' = guard
  | .recordObservation guard' _ => guard' = guard
  | .claimStop guard' _ _ _ => guard' = guard
  | command => StopCommand command

/-- The commands of the drain. -/
def DrainCommand : GuardCall → Prop
  | .claimStopRecovery _ _ => True
  | command => StopCommand command

theorem StopCommand.concerns {command : GuardCall} (guard : OzonCampaignGuard) (h : StopCommand command) :
    ConcernsGuard guard command := by
  cases command <;> first | exact h | exact h.elim

theorem StopCommand.drain {command : GuardCall} (h : StopCommand command) : DrainCommand command := by
  cases command <;> first | exact h | exact h.elim

theorem asks_hitFailpoint {P : GuardCall → Prop} (point : OzonGuardFailpoint) :
    (hitFailpoint context point).Asks P := by
  unfold hitFailpoint
  split_ifs <;> trivial

theorem asks_store {α : Type} {P : GuardCall → Prop} (answer : Except OzonPlanStoreError α) :
    (store answer).Asks P := Prog.asks_ofExcept P _

theorem asks_confirmStop : (confirmStop lease evidence).Asks StopCommand :=
  .perform_bind trivial fun _ => (asks_store _).bind fun _ => .perform_bind trivial fun _ => asks_store _

theorem asks_retainStop {error : OzonGuardReadFailure} : (retainStop lease error).Asks StopCommand :=
  .perform_bind trivial fun _ => (asks_store _).bind fun _ => trivial

theorem asks_deactivate : (deactivateWithFinalPermit lease).Asks StopCommand := by
  refine Prog.Asks.bind ?_ fun _ => trivial
  refine .perform_bind trivial fun prepared => ?_
  cases prepared with
  | error => trivial
  | ok =>
    refine .perform_bind trivial fun started => ?_
    cases started with
    | error => trivial
    | ok =>
      refine .perform_bind trivial fun admitted => ?_
      cases admitted with
      | error => trivial
      | ok =>
        refine .perform_bind trivial fun sent => ?_
        cases sent <;> trivial

theorem asks_settleStop {write : Except OzonGuardWriteFailure Unit} :
    (settleStop context lease evidence write).Asks StopCommand := by
  refine (asks_hitFailpoint _).bind fun _ => .perform_bind trivial fun running => ?_
  rcases running with error | _ | _
  · exact asks_retainStop
  · exact asks_confirmStop
  · exact .perform_bind trivial fun _ => (asks_store _).bind fun _ => .ofExcept_bind fun _ =>
      .perform_bind trivial fun _ => asks_store _

theorem asks_reconcileLeasedStop : (reconcileLeasedStop context lease evidence).Asks StopCommand := by
  refine .perform_bind trivial fun running => ?_
  rcases running with error | _ | _
  · exact asks_retainStop
  · exact asks_confirmStop
  · refine .perform_bind trivial fun _ => (asks_store _).bind fun _ => ?_
    unfold stopUnlessStarted
    split_ifs
    · exact .perform_bind trivial fun _ => asks_store _
    · exact (asks_hitFailpoint _).bind fun _ => asks_deactivate.bind fun _ => asks_settleStop

theorem asks_reconcileIsolated : (reconcileIsolated context lease evidence).Asks StopCommand :=
  asks_reconcileLeasedStop.attempt.bind fun _ => Prog.asks_ofExcept _ _

theorem asks_recoverStops (count : ℕ) : (recoverStops context count).Asks DrainCommand := by
  induction count with
  | zero => trivial
  | succ count ih =>
    refine .perform_bind trivial fun claimed => (asks_store claimed).bind fun found => ?_
    cases found with
    | none => trivial
    | some lease =>
      exact .ofExcept_bind fun _ => (asks_reconcileIsolated.mono fun _ h => h.drain).bind fun _ => ih

theorem asks_enforceDecision (guard : OzonCampaignGuard) (reason : Option String) :
    (enforceDecision context guard evidence reason).Asks (ConcernsGuard guard) := by
  cases reason with
  | none => exact .ofExcept_bind fun _ => .perform_bind rfl fun _ => asks_store _
  | some reason =>
    exact .perform_bind rfl fun _ => (asks_store _).bind fun _ => (asks_hitFailpoint _).bind fun _ =>
      asks_reconcileIsolated.mono fun _ h => h.concerns guard

theorem asks_scanGuard (observedAt : ℤ) (guard : OzonCampaignGuard) :
    (scanGuard context observedAt guard).Asks (ConcernsGuard guard) :=
  .perform_bind rfl fun _ => asks_enforceDecision guard _

theorem guardDecision_none {guard : OzonCampaignGuard}
    {answer : Except OzonGuardReadFailure OzonGuardMetrics}
    (h : (guardDecision guard answer).2 = none) :
    ∃ metrics, (guardDecision guard answer).1 = some metrics := by
  cases answer with
  | error error => cases h
  | ok metrics => exact ⟨metrics, rfl⟩

theorem decided_append {guard : OzonCampaignGuard} :
    Decided (first ++ rest) guard ↔ Decided first guard ∨ Decided rest guard := by
  simp only [Decided, List.mem_append, exists_or]
  exact or_or_or_comm

theorem metricsRead_append {guard : OzonCampaignGuard} :
    MetricsRead (first ++ rest) guard ↔ MetricsRead first guard ∨ MetricsRead rest guard := by
  simp only [MetricsRead, List.mem_append, exists_or]

theorem cleanUntilClaim_append {guard : OzonCampaignGuard} (hfirst : Clean first)
    (hundecided : ¬ Decided first guard) (hrest : ¬ ReadsRunning rest) :
    CleanUntilClaim guard (first ++ rest) ↔ CleanUntilClaim guard rest := by
  constructor
  · rintro (hclean | ⟨before, reason, evidence, workerId, lease, after, hbefore, heq⟩)
    · exact .inl ((clean_append hrest).mp hclean).2
    · rcases List.append_eq_append_iff.mp heq with ⟨before, rfl, rfl⟩ | ⟨middle, rfl, hmiddle⟩
      · have hreads : ¬ ReadsRunning before := by
          rintro ⟨lease, after, rfl⟩
          exact hrest ⟨lease, _, rfl⟩
        exact .inr ⟨before, reason, evidence, workerId, lease, after, ((clean_append hreads).mp hbefore).2, rfl⟩
      · rcases List.cons_eq_append_iff.mp hmiddle with ⟨rfl, rfl⟩ | ⟨middle, rfl, -⟩
        · exact .inr ⟨[], reason, evidence, workerId, lease, after, clean_nil, rfl⟩
        · exact absurd (.inr ⟨reason, evidence, workerId, lease, by simp⟩) hundecided
  · rintro (hclean | ⟨before, reason, evidence, workerId, lease, after, hbefore, rfl⟩)
    · exact .inl ((clean_append hrest).mpr ⟨hfirst, hclean⟩)
    · have hreads : ¬ ReadsRunning before := by
        rintro ⟨lease, after, rfl⟩
        exact hrest ⟨lease, _, rfl⟩
      exact .inr ⟨first ++ before, reason, evidence, workerId, lease, after,
        (clean_append hreads).mpr ⟨hfirst, hbefore⟩, by simp⟩

theorem CleanUntilClaim.clean_or {guard : OzonCampaignGuard} (h : CleanUntilClaim guard trace) :
    Clean trace ∨ Decided trace guard := by
  rcases h with h | ⟨before, reason, evidence, workerId, lease, after, -, rfl⟩
  · exact .inl h
  · exact .inr (.inr ⟨reason, evidence, workerId, lease, by simp⟩)

/-- The decision on a guard is carried out exactly when that is clean, and comes to its record or its claim
exactly when it is clean until then. -/
theorem enforceDecision_ok (hoff : ∀ point, context.failpoints point = false)
    {guard : OzonCampaignGuard} {reason : Option String}
    (hmetrics : reason = none → ∃ metrics, evidence = some metrics)
    (h : (enforceDecision context guard evidence reason).Runs trace result) :
    (result = .ok () ↔ Clean trace) ∧ (Decided trace guard ↔ CleanUntilClaim guard trace) := by
  cases reason with
  | none =>
    obtain ⟨metrics, rfl⟩ := hmetrics rfl
    obtain ⟨recorded, rest, rfl, h⟩ := h
    cases recorded with
    | error error =>
      obtain ⟨rfl, rfl⟩ := h
      have hfailed : ¬ Clean [⟨.recordObservation guard metrics, .error error⟩] :=
        StoreFailed.not_clean ⟨error, rfl⟩
      have hundecided : ¬ Decided [⟨.recordObservation guard metrics, .error error⟩] guard := by
        rintro (⟨_, hmem⟩ | ⟨_, _, _, _, hmem⟩)
        · cases List.mem_singleton.mp hmem
        · cases List.mem_singleton.mp hmem
      exact ⟨iff_of_false (by rintro ⟨⟩) hfailed,
        iff_of_false hundecided fun huntil => huntil.clean_or.elim hfailed hundecided⟩
    | ok _ =>
      obtain ⟨rfl, rfl⟩ := h
      have hclean : Clean [⟨.recordObservation guard metrics, .ok ()⟩] :=
        (clean_pass (by rintro ⟨_, ⟨⟩⟩) id id).mpr clean_nil
      exact ⟨iff_of_true rfl hclean, iff_of_true (.inl ⟨metrics, List.mem_cons_self⟩) (.inl hclean)⟩
  | some reason =>
    obtain ⟨claimed, rest, rfl, h⟩ := h
    cases claimed with
    | error error =>
      obtain ⟨rfl, rfl⟩ := h
      have hfailed : ¬ Clean [⟨.claimStop guard reason evidence context.workerId, .error error⟩] :=
        StoreFailed.not_clean ⟨error, rfl⟩
      have hundecided :
          ¬ Decided [⟨.claimStop guard reason evidence context.workerId, .error error⟩] guard := by
        rintro (⟨_, hmem⟩ | ⟨_, _, _, _, hmem⟩)
        · cases List.mem_singleton.mp hmem
        · cases List.mem_singleton.mp hmem
      exact ⟨iff_of_false (by rintro ⟨⟩) hfailed,
        iff_of_false hundecided fun huntil => huntil.clean_or.elim hfailed hundecided⟩
    | ok lease =>
      have h : (hitFailpoint context .afterStopClaim >>= fun _ =>
        reconcileIsolated context lease evidence).Runs rest result := h
      rw [hitFailpoint_off hoff] at h
      rw [clean_pass (by rintro ⟨_, ⟨⟩⟩) id id]
      exact ⟨reconcileIsolated_ok hoff h, iff_of_true
        (.inr ⟨reason, evidence, context.workerId, lease, List.mem_cons_self⟩)
        (.inr ⟨[], reason, evidence, context.workerId, lease, rest, clean_nil, rfl⟩)⟩

theorem enforceDecision_head {guard : OzonCampaignGuard} {reason : Option String}
    (h : (enforceDecision context guard evidence reason).Runs trace result) : ¬ ReadsRunning trace := by
  cases reason with
  | none =>
    cases evidence with
    | none =>
      obtain ⟨rfl, -⟩ := h
      exact not_readsRunning_nil
    | some metrics =>
      obtain ⟨recorded, rest, rfl, -⟩ := h
      intro hreads
      obtain ⟨_, ⟨⟩⟩ := hreads.head
  | some reason =>
    obtain ⟨claimed, rest, rfl, -⟩ := h
    intro hreads
    obtain ⟨_, ⟨⟩⟩ := hreads.head

/-- **A guard is evaluated exactly when its part of the run is clean until its stop is claimed.** -/
theorem scanGuard_ok (hoff : ∀ point, context.failpoints point = false) {observedAt : ℤ}
    {guard : OzonCampaignGuard} (h : (scanGuard context observedAt guard).Runs trace result) :
    (result = .ok () ↔ Clean trace) ∧ (Evaluated trace guard ↔ CleanUntilClaim guard trace) := by
  obtain ⟨answer, rest, rfl, h⟩ := h
  obtain ⟨hok, hdecided⟩ := enforceDecision_ok hoff guardDecision_none h
  have hclean : Clean [⟨.metrics guard observedAt, answer⟩] := (clean_pass id id id).mpr clean_nil
  have hundecided : ¬ Decided [⟨.metrics guard observedAt, answer⟩] guard := by
    rintro (⟨_, hmem⟩ | ⟨_, _, _, _, hmem⟩)
    · cases List.mem_singleton.mp hmem
    · cases List.mem_singleton.mp hmem
  have hread : MetricsRead ([⟨.metrics guard observedAt, answer⟩] ++ rest) guard :=
    ⟨observedAt, answer, List.mem_cons_self⟩
  refine ⟨by rw [clean_pass id id id, hok], ?_⟩
  rw [← List.singleton_append, cleanUntilClaim_append hclean hundecided (enforceDecision_head h), Evaluated,
    decided_append, or_iff_right hundecided, and_iff_right hread, hdecided]

theorem ConcernsGuard.not_other {guard other : OzonCampaignGuard} (hne : other ≠ guard)
    (h : ∀ entry ∈ trace, ConcernsGuard guard entry.1) : ¬ MetricsRead trace other ∧ ¬ Decided trace other := by
  refine ⟨?_, ?_⟩
  · rintro ⟨_, _, hmem⟩
    exact hne (h _ hmem)
  · rintro (⟨_, hmem⟩ | ⟨_, _, _, _, hmem⟩)
    · exact hne (h _ hmem)
    · exact hne (h _ hmem)

theorem scanGuards_head {observedAt : ℤ} {guards : List OzonCampaignGuard}
    (h : (scanGuards context observedAt guards).Runs trace result) : ¬ ReadsRunning trace := by
  cases guards with
  | nil =>
    obtain ⟨rfl, -⟩ := h
    exact not_readsRunning_nil
  | cons guard guards =>
    obtain ⟨answer, rest, rfl, -⟩ := h
    intro hreads
    obtain ⟨_, ⟨⟩⟩ := hreads.head

/-- **All guards are evaluated exactly when the scan is clean until the stop of the last one is claimed.** -/
theorem scanGuards_evaluated (hoff : ∀ point, context.failpoints point = false) {observedAt : ℤ}
    {guards : List OzonCampaignGuard} (hnodup : guards.Nodup)
    (h : (scanGuards context observedAt guards).Runs trace result) :
    (∀ guard ∈ guards, Evaluated trace guard) ↔ ∀ last ∈ guards.getLast?, CleanUntilClaim last trace := by
  induction guards generalizing trace with
  | nil => simp
  | cons guard guards ih =>
    obtain ⟨hfresh, hnodup⟩ := List.nodup_cons.mp hnodup
    have h : (scanGuard context observedAt guard >>= fun _ => scanGuards context observedAt guards).Runs trace
      result := h
    have hother : ∀ {part result}, (scanGuard context observedAt guard).Runs part result → ∀ other ∈ guards,
        ¬ MetricsRead part other ∧ ¬ Decided part other := fun hrun other hmem =>
      ConcernsGuard.not_other (ne_of_mem_of_not_mem hmem hfresh)
        ((asks_scanGuard observedAt guard).runs hrun)
    rcases Prog.runs_bind.mp h with ⟨error, hrun, rfl⟩ | ⟨_, first, rest, rfl, hrun, h⟩
    · -- the scan ends with this guard
      obtain ⟨hok, hevaluated⟩ := scanGuard_ok hoff hrun
      have hfailed : ¬ Clean trace := fun hclean => by cases hok.mpr hclean
      cases guards with
      | nil => simpa using hevaluated
      | cons next guards =>
        obtain ⟨last, hlast⟩ : ∃ last, last ∈ (next :: guards).getLast? :=
          ⟨_, List.getLast?_eq_some_getLast (List.cons_ne_nil next guards)⟩
        refine iff_of_false (fun hall => ?_) fun hall => ?_
        · exact (hother hrun next List.mem_cons_self).1 (hall next (by simp)).1
        · rw [List.getLast?_cons_cons] at hall
          exact (hall last hlast).clean_or.elim hfailed (hother hrun last (List.mem_of_getLast? hlast)).2
    · obtain ⟨hok, hevaluated⟩ := scanGuard_ok hoff hrun
      have hclean := hok.mp rfl
      cases guards with
      | nil =>
        obtain ⟨rfl, -⟩ := h
        simpa using hevaluated
      | cons next guards =>
        have hrest : ∀ other ∈ next :: guards, (Evaluated (first ++ rest) other ↔ Evaluated rest other) ∧
            (CleanUntilClaim other (first ++ rest) ↔ CleanUntilClaim other rest) := by
          intro other hmem
          obtain ⟨hunread, hundecided⟩ := hother hrun other hmem
          refine ⟨?_, cleanUntilClaim_append hclean hundecided (scanGuards_head h)⟩
          rw [Evaluated, Evaluated, metricsRead_append, decided_append, or_iff_right hunread,
            or_iff_right hundecided]
        have hguard : Evaluated (first ++ rest) guard := by
          obtain ⟨hread, hdecided⟩ := hevaluated.mpr (.inl hclean)
          exact ⟨metricsRead_append.mpr (.inl hread), decided_append.mpr (.inl hdecided)⟩
        rw [List.forall_mem_cons, and_iff_right hguard, forall₂_congr fun other hmem => (hrest other hmem).1,
          ih hnodup h, List.getLast?_cons_cons]
        exact forall₂_congr fun last hlast => (hrest last (List.mem_of_getLast? hlast)).2.symm

/-! ## The cycle -/

/-- The clock reading between the drain and the scan. -/
def isNow : Entry → Bool
  | ⟨.now, _⟩ => true
  | _ => false

/-- The part of a run before the clock is read. -/
def drain (trace : List Entry) : List Entry := trace.takeWhile fun entry => !isNow entry

theorem isNow_of_drain (h : DrainCommand entry.1) : isNow entry = false := by
  obtain ⟨command, answer⟩ := entry
  cases command <;> first | rfl | exact h.elim

theorem isNow_of_concerns {guard : OzonCampaignGuard} (h : ConcernsGuard guard entry.1) :
    isNow entry = false := by
  obtain ⟨command, answer⟩ := entry
  cases command <;> first | rfl | exact h.elim

theorem scanGuards_isNow {observedAt : ℤ} {guards : List OzonCampaignGuard}
    (h : (scanGuards context observedAt guards).Runs trace result) : ∀ entry ∈ trace, isNow entry = false := by
  induction guards generalizing trace with
  | nil =>
    obtain ⟨rfl, -⟩ := h
    simp
  | cons guard guards ih =>
    have hguard : ∀ {part result}, (scanGuard context observedAt guard).Runs part result →
        ∀ entry ∈ part, isNow entry = false := fun hrun entry hmem =>
      isNow_of_concerns ((asks_scanGuard observedAt guard).runs hrun entry hmem)
    rcases Prog.runs_bind.mp h with ⟨_, hrun, -⟩ | ⟨_, first, rest, rfl, hrun, h⟩
    · exact hguard hrun
    · exact List.forall_mem_append.mpr ⟨hguard hrun, ih h⟩

/-- The cycle ends in its drain, or it lists the active guards and scans them. -/
theorem cycle_cases (hoff : ∀ point, context.failpoints point = false)
    (h : (runDurableOzonGuardCycle context).Runs trace result) :
    ((∀ entry ∈ trace, DrainCommand entry.1) ∧ ¬ Clean trace) ∨
      ∃ before observedAt listed scanned, (∀ entry ∈ before, DrainCommand entry.1) ∧ Clean before ∧
        trace = before ++ ⟨.now, observedAt⟩ :: ⟨.activeGuards context.accountId, listed⟩ :: scanned ∧
        (∀ entry ∈ scanned, isNow entry = false) ∧
        ∀ guards, listed = .ok guards → (scanGuards context observedAt guards).Runs scanned result := by
  have hdrain : (recoverStops context maxOzonGuardRecoveriesPerCycle).Asks DrainCommand := asks_recoverStops _
  rcases Prog.runs_bind.mp h with ⟨_, hrun, -⟩ | ⟨_, before, rest, rfl, hrun, hlist⟩
  · exact .inl ⟨hdrain.runs hrun, fun hclean => by cases (recoverStops_ok hoff hrun).mpr hclean⟩
  · obtain ⟨observedAt, _, rfl, listed, scanned, rfl, hscan⟩ := hlist
    refine .inr ⟨before, observedAt, listed, scanned, hdrain.runs hrun, (recoverStops_ok hoff hrun).mp rfl, rfl,
      ?_⟩
    cases listed with
    | error error =>
      obtain ⟨rfl, -⟩ := hscan
      exact ⟨List.forall_mem_nil _, by rintro _ ⟨⟩⟩
    | ok guards =>
      refine ⟨scanGuards_isNow hscan, ?_⟩
      rintro _ ⟨⟩
      exact hscan

theorem drain_unique {before before' scanned scanned' : List Entry} {now now' : Entry}
    (heq : before ++ now :: scanned = before' ++ now' :: scanned') (hnow : isNow now' = true)
    (hbefore : ∀ entry ∈ before, isNow entry = false) (hscanned : ∀ entry ∈ scanned, isNow entry = false) :
    now = now' ∧ scanned = scanned' := by
  rcases List.append_eq_append_iff.mp heq with ⟨middle, rfl, hmiddle⟩ | ⟨middle, rfl, hmiddle⟩
  · rcases List.cons_eq_append_iff.mp hmiddle with ⟨rfl, hhead⟩ | ⟨middle, rfl, rfl⟩
    · cases hhead
      exact ⟨rfl, rfl⟩
    · exact absurd hnow (by simp [hscanned now'])
  · rcases List.cons_eq_append_iff.mp hmiddle with ⟨rfl, hhead⟩ | ⟨middle, rfl, rfl⟩
    · cases hhead
      exact ⟨rfl, rfl⟩
    · exact absurd hnow (by simp [hbefore now'])

/-- **Isolation of guards.** The cycle comes to the active guards exactly when its drain is clean; and it
evaluates every guard that is active when it lists them, however the reconciliations end, exactly when the
scan is clean until the stop of the last guard is claimed. -/
theorem guard_isolation (hoff : ∀ point, context.failpoints point = false)
    (h : (runDurableOzonGuardCycle context).Runs trace result) :
    ((∃ answer, ⟨.activeGuards context.accountId, answer⟩ ∈ trace) ↔ Clean (drain trace)) ∧
    ∀ before observedAt guards scanned, trace = before ++ ⟨.now, observedAt⟩ ::
        ⟨.activeGuards context.accountId, .ok guards⟩ :: scanned → guards.Nodup →
      ((∀ guard ∈ guards, Evaluated scanned guard) ↔
        ∀ last ∈ guards.getLast?, CleanUntilClaim last scanned) := by
  rcases cycle_cases hoff h with ⟨hdrain, hfailed⟩ |
    ⟨before, observedAt, listed, scanned, hdrain, hclean, rfl, hscanned, hscan⟩
  · have hall : drain trace = trace :=
      List.takeWhile_eq_self_iff.mpr fun entry hmem => by rw [isNow_of_drain (hdrain entry hmem)]; rfl
    refine ⟨?_, ?_⟩
    · rw [hall]
      refine iff_of_false ?_ hfailed
      rintro ⟨answer, hmem⟩
      exact hdrain _ hmem
    · rintro before observedAt guards scanned rfl
      exact absurd (hdrain ⟨.now, observedAt⟩ (by simp)) id
  · have hbefore : ∀ entry ∈ before, isNow entry = false := fun entry hmem => isNow_of_drain (hdrain entry hmem)
    have hall : drain (before ++ ⟨.now, observedAt⟩ :: ⟨.activeGuards context.accountId, listed⟩ :: scanned) =
        before := by
      rw [drain, List.takeWhile_append_of_pos fun entry hmem => by rw [hbefore entry hmem]; rfl]
      exact List.append_nil before
    refine ⟨?_, ?_⟩
    · rw [hall]
      exact iff_of_true ⟨listed, by simp⟩ hclean
    · intro before' observedAt' guards scanned' heq hnodup
      obtain ⟨hnow, hrest⟩ := drain_unique heq rfl hbefore
        (List.forall_mem_cons.mpr ⟨rfl, hscanned⟩)
      cases hnow
      cases hrest
      exact scanGuards_evaluated hoff hnodup (hscan guards rfl)

/-! ## Runs -/

/-- A worker of an account, without failpoints. -/
def plainContext : OzonGuardRunContext := ⟨"ozon_account", "worker-1", fun _ => false⟩

/-- An active guard of a campaign. -/
def activeGuard (planId : String) (campaignId : ℕ) : OzonCampaignGuard where
  planId := planId
  accountId := "ozon_account"
  sku := 11
  campaignId := campaignId
  dateFrom := "2026-09-01"
  spendCapMicrorubles := 2000000000
  targetDrrPercent := 15
  status := .active
  stopReason := none
  incidentErrorClass := none

/-- The lease of the stop of a guard without telemetry. -/
def blindLease (guard : OzonCampaignGuard) : OzonGuardStopLease where
  guard := { guard with status := .stopping, stopReason := some "telemetry_unavailable" }
  stopReason := "telemetry_unavailable"
  spendMinor := none
  revenueMinor := none
  generation := 1
  ownerId := "worker-1"
  leaseToken := "token"
  leaseExpiresAt := seconds 300
  writeStartedAt := none

/-- The state of a campaign cannot be read. -/
def unreadTrace (guard : OzonCampaignGuard) : List Entry :=
  [⟨.campaignIsRunning (blindLease guard), .error .campaignState⟩,
    ⟨.recordReadback (blindLease guard) .unavailable, .ok ()⟩]

/-- A write of unknown outcome, and the campaign is still running. -/
def ambiguousTrace (guard : OzonCampaignGuard) : List Entry :=
  [⟨.campaignIsRunning (blindLease guard), .ok true⟩, ⟨.recordReadback (blindLease guard) .running, .ok ()⟩,
    ⟨.prepareWrite (blindLease guard), .ok ()⟩, ⟨.startGuardStopWrite (blindLease guard), .ok ()⟩,
    ⟨.admitWrite (blindLease guard), .ok ()⟩, ⟨.deactivate (blindLease guard), .error .ambiguousTransport⟩,
    ⟨.campaignIsRunning (blindLease guard), .ok true⟩, ⟨.recordReadback (blindLease guard) .running, .ok ()⟩,
    ⟨.markIncident (blindLease guard) "stop_write_ambiguous" none, .ok ()⟩]

/-- A stop without a token, and the campaign is still running. -/
def refusedStop (guard : OzonCampaignGuard) : List Entry :=
  [⟨.campaignIsRunning (blindLease guard), .ok true⟩, ⟨.recordReadback (blindLease guard) .running, .ok ()⟩,
    ⟨.prepareWrite (blindLease guard), .error .tokenTransport⟩,
    ⟨.campaignIsRunning (blindLease guard), .ok true⟩, ⟨.recordReadback (blindLease guard) .running, .ok ()⟩]

/-- A guard without telemetry; `stop` is the stop it is claimed for. -/
def blindTrace (guard : OzonCampaignGuard) (stop : List Entry) : List Entry :=
  ⟨.metrics guard (seconds 0), .error .telemetry⟩ ::
    ⟨.claimStop guard "telemetry_unavailable" none "worker-1", .ok (blindLease guard)⟩ :: stop

/-- The first guard loses its telemetry, its stop finds no token, and the campaign is still
running. -/
def refusedTrace : List Entry :=
  ⟨.claimStopRecovery "ozon_account" "worker-1", .ok none⟩ :: ⟨.now, seconds 0⟩ ::
    ⟨.activeGuards "ozon_account", .ok [activeGuard "plan-1" 21, activeGuard "plan-2" 22]⟩ ::
    blindTrace (activeGuard "plan-1" 21) (refusedStop (activeGuard "plan-1" 21))

/-- **A refused permit hides the next guard.** Listing the active guards succeeds, and the second of
them is not evaluated. -/
theorem guard_not_isolated :
    (runDurableOzonGuardCycle plainContext).Runs refusedTrace (.error (.repository .leaseLost)) ∧
      ∃ guards, ⟨.activeGuards "ozon_account", .ok guards⟩ ∈ refusedTrace ∧
        activeGuard "plan-2" 22 ∈ guards ∧ ¬ Evaluated refusedTrace (activeGuard "plan-2" 22) := by
  refine ⟨⟨_, _, rfl, _, _, rfl, _, _, rfl, _, _, rfl, _, _, rfl, _, _, rfl, _, _, rfl, _, _, rfl,
    _, _, rfl, _, _, rfl, rfl, rfl⟩, [activeGuard "plan-1" 21, activeGuard "plan-2" 22],
    .tail _ (.tail _ (.head _)), .tail _ (.head _), ?_⟩
  rintro ⟨⟨observedAt, answer, hmem⟩, -⟩
  have hne : activeGuard "plan-2" 22 ≠ activeGuard "plan-1" 21 := by decide
  have hcall := List.mem_map_of_mem (f := Sigma.fst) hmem
  simp [refusedTrace, blindTrace, refusedStop, hne] at hcall

/-- The read of one stop fails, the write of another one is ambiguous. -/
def isolatedScan : List Entry :=
  blindTrace (activeGuard "plan-1" 21) (unreadTrace (activeGuard "plan-1" 21)) ++
    blindTrace (activeGuard "plan-2" 22) (ambiguousTrace (activeGuard "plan-2" 22))

/-- The read of a recovered stop fails, those of two active guards stay with them, and the stop of the last
guard is refused. -/
def isolatedTrace : List Entry :=
  (⟨.claimStopRecovery "ozon_account" "worker-1", .ok (some (blindLease (activeGuard "plan-0" 20)))⟩ ::
      unreadTrace (activeGuard "plan-0" 20) ++
    [⟨.claimStopRecovery "ozon_account" "worker-1", .ok none⟩]) ++
  ⟨.now, seconds 0⟩ :: ⟨.activeGuards "ozon_account", .ok [activeGuard "plan-1" 21, activeGuard "plan-2" 22,
    activeGuard "plan-3" 23]⟩ ::
  (isolatedScan ++ blindTrace (activeGuard "plan-3" 23) (refusedStop (activeGuard "plan-3" 23)))

theorem isolatedTrace_runs :
    (runDurableOzonGuardCycle plainContext).Runs isolatedTrace (.error (.repository .leaseLost)) := by
  refine ⟨_, _, rfl, _, _, rfl, _, _, rfl, _, _, rfl, _, _, rfl, _, _, rfl, ?_⟩
  refine ⟨_, _, rfl, _, _, rfl, _, _, rfl, _, _, rfl, ?_⟩
  refine ⟨_, _, rfl, _, _, rfl, _, _, rfl, _, _, rfl, _, _, rfl, _, _, rfl, _, _, rfl, _, _, rfl, _, _, rfl,
    _, _, rfl, _, _, rfl, ?_⟩
  exact ⟨_, _, rfl, _, _, rfl, _, _, rfl, _, _, rfl, _, _, rfl, _, _, rfl, _, _, rfl, rfl, rfl⟩

theorem isolatedScan_clean : Clean isolatedScan := by
  refine clean_of_quiet ?_
  simp [isolatedScan, blindTrace, unreadTrace, ambiguousTrace, StoreFailed, BrokenPair, Refused]

/-- All three guards are evaluated: the failed read and the ambiguous write stay with their guards, and the
refused stop is that of the last one. -/
theorem guard_isolation_mixed :
    (∃ answer, ⟨.activeGuards "ozon_account", answer⟩ ∈ isolatedTrace) ∧
    ∀ guard ∈ [activeGuard "plan-1" 21, activeGuard "plan-2" 22, activeGuard "plan-3" 23],
      Evaluated (isolatedScan ++ blindTrace (activeGuard "plan-3" 23) (refusedStop (activeGuard "plan-3" 23)))
        guard := by
  obtain ⟨hlisted, hscan⟩ := guard_isolation (fun _ => rfl) isolatedTrace_runs
  refine ⟨hlisted.mpr ?_, (hscan _ (seconds 0) _ _ rfl (by decide)).mpr ?_⟩
  · show Clean [
      ⟨.claimStopRecovery "ozon_account" "worker-1", .ok (some (blindLease (activeGuard "plan-0" 20)))⟩,
      ⟨.campaignIsRunning (blindLease (activeGuard "plan-0" 20)), .error .campaignState⟩,
      ⟨.recordReadback (blindLease (activeGuard "plan-0" 20)) .unavailable, .ok ()⟩,
      ⟨.claimStopRecovery "ozon_account" "worker-1", .ok none⟩]
    refine (clean_pass (by rintro ⟨_, ⟨⟩⟩) (by rintro ⟨_, ⟨⟩, hne⟩; exact hne rfl) id).mpr ?_
    refine (clean_pass id id id).mpr ((clean_pass (by rintro ⟨_, ⟨⟩⟩) id id).mpr ?_)
    exact (clean_pass (by rintro ⟨_, ⟨⟩⟩) (by rintro ⟨_, ⟨⟩, -⟩) id).mpr clean_nil
  · rintro _ ⟨⟩
    refine .inr ⟨isolatedScan ++ [⟨.metrics (activeGuard "plan-3" 23) (seconds 0), .error .telemetry⟩],
      "telemetry_unavailable", none, "worker-1", blindLease (activeGuard "plan-3" 23),
      refusedStop (activeGuard "plan-3" 23), ?_, by simp [blindTrace]⟩
    have hreads : ¬ ReadsRunning [⟨.metrics (activeGuard "plan-3" 23) (seconds 0), .error .telemetry⟩] :=
      fun hreads => by obtain ⟨_, ⟨⟩⟩ := hreads.head
    exact (clean_append hreads).mpr ⟨isolatedScan_clean, (clean_pass id id id).mpr clean_nil⟩

end AdsControl.Ozon
