import AdsControl.Position.Persistence
import AdsControl.Position.Queries

/-!
# Runs of a collection

* `scansOf`, `resultOf`: the scans of a run, and what each of them comes to;
* `MustStop`: results after which no query is scanned;
* **`runs_collectQueries`**: the loop from any progress;
* **`Collected`**: what every run of a batch has done.
-/

namespace AdsControl.Position

open Fallible Interaction

/-- An answered scan: the request, its deadline and the answer. -/
abbrev ScanRecord : Type := QueryRequest × ℤ × Option (Except SourceError QueryScan)

/-- The scan of an effect. -/
def scanOf : Sigma CollectorCall.Answer → Option ScanRecord
  | ⟨.scan request deadline, answer⟩ => some (request, deadline, answer)
  | _ => none

/-- **The scans of a run.** -/
def scansOf (trace : List (Sigma CollectorCall.Answer)) : List ScanRecord := trace.filterMap scanOf

/-- What the scan of a query comes to. -/
def resultOf (deadline : ℤ) (query : QueryPlan) (scan : ScanRecord) : QueryResult :=
  match readScan query scan.2.1 deadline scan.2.2 with
  | .ok observations => .succeeded query.request observations
  | .error .batchDeadline => .deadlineExceeded query.request query.monitorIds
  | .error (.source error) => .failed query.request query.monitorIds error

/-- The scan failed. -/
def QueryResult.isFailed : QueryResult → Bool
  | failed _ _ _ => true
  | _ => false

/-- No time was left for the query. -/
def QueryResult.isOverdue : QueryResult → Bool
  | deadlineExceeded _ _ => true
  | _ => false

/-- The failures in a row that some results end with. -/
def trailingFailures (results : List QueryResult) : ℕ :=
  (results.reverse.takeWhile QueryResult.isFailed).length

/-- **No query is scanned after these results.** -/
def MustStop (results : List QueryResult) : Prop :=
  (∃ result ∈ results, result.circuitReason.isSome = true) ∨
    maxConsecutiveFailures ≤ trailingFailures results ∨ ∃ result ∈ results, result.isOverdue = true

/-! ## One query -/

section Query

variable {deadline : ℤ} {query : QueryPlan} {queries : List QueryPlan} {results : List QueryResult}
  {result : QueryResult} {scan : ScanRecord} {trace : List (Sigma CollectorCall.Answer)}

theorem trailingFailures_append : trailingFailures (results ++ [result]) =
    if result.isFailed then trailingFailures results + 1 else 0 := by
  rw [trailingFailures, List.reverse_append, List.reverse_singleton, List.singleton_append,
    List.takeWhile_cons]
  split_ifs <;> rfl

theorem mustStop_append (h : ¬ MustStop results) : MustStop (results ++ [result]) ↔
    result.circuitReason.isSome = true ∨
      (result.isFailed = true ∧ maxConsecutiveFailures ≤ trailingFailures results + 1) ∨
      result.isOverdue = true := by
  simp only [MustStop, not_or, not_exists, not_and] at h
  obtain ⟨hcircuit, -, hoverdue⟩ := h
  rw [MustStop, trailingFailures_append]
  have hpos : ¬ maxConsecutiveFailures ≤ 0 := by decide
  have hcases : (∃ result' ∈ results ++ [result], result'.circuitReason.isSome = true) ↔
      result.circuitReason.isSome = true := by
    simp only [List.mem_append, List.mem_singleton, or_and_right, exists_or, exists_eq_left]
    exact or_iff_right fun ⟨r, hr, hsome⟩ => hcircuit r hr hsome
  have hlate : (∃ result' ∈ results ++ [result], result'.isOverdue = true) ↔ result.isOverdue = true := by
    simp only [List.mem_append, List.mem_singleton, or_and_right, exists_or, exists_eq_left]
    exact or_iff_right fun ⟨r, hr, hlate⟩ => hoverdue r hr hlate
  rw [hcases, hlate]
  split_ifs with h <;> simp [h, hpos]

/-- An error breaks the circuit exactly when it is a reason to open it. -/
theorem breaksCircuit_eq (request : QueryRequest) (monitorIds : List ℤ) (error : SourceError) :
    error.breaksCircuit = (QueryResult.failed request monitorIds error).circuitReason.isSome := by
  cases error <;> rfl

theorem subject_resultOf : (resultOf deadline query scan).subject = (query.request, query.monitorIds) := by
  unfold resultOf
  cases hread : readScan query scan.2.1 deadline scan.2.2 with
  | error error => cases error <;> rfl
  | ok observations =>
    -- the observations are those of the targets
    obtain ⟨request, effective, answer⟩ := scan
    cases answer with
    | none => simp [readScan] at hread
    | some answer =>
      cases answer with
      | error error => simp [readScan] at hread
      | ok found =>
        obtain ⟨hobservations, -⟩ := intoObservations_eq_ok (ok_of_mapError.mp hread)
        simp [QueryResult.subject, hobservations, QueryPlan.monitorIds, observationOf, Function.comp_def]

theorem runs_scanQuery {outcome : Except CollectError (Except QueryScanError (List Observation))} :
    (scanQuery query deadline).Runs trace outcome ↔ ∃ now answer,
      trace = [⟨.now, now⟩, ⟨.scan query.request (min (now + pageTimeout) deadline), answer⟩] ∧
        outcome = .ok (readScan query (min (now + pageTimeout) deadline) deadline answer) := by
  constructor
  · rintro ⟨now, _, rfl, answer, _, rfl, rfl, rfl⟩
    exact ⟨now, answer, rfl, rfl⟩
  · rintro ⟨now, answer, rfl, rfl⟩
    exact ⟨now, _, rfl, answer, _, rfl, rfl, rfl⟩

end Query

/-! ## The loop -/

/-- The counters are those of the results, and no query was scanned after results that must stop. -/
structure Progress.Counted (progress : Progress) : Prop where
  attempted : progress.attemptedQueries = progress.results.length
  succeeded : progress.succeededQueries = (progress.results.filter QueryResult.isSucceeded).length
  circuit : progress.circuitBreak = true ↔ ∃ result ∈ progress.results, result.circuitReason.isSome = true
  blocked : progress.blocked = progress.circuitBreak
  stops : ∀ n < progress.results.length, ¬ MustStop (progress.results.take n)

/-- Progress from which another query may be scanned. -/
structure Progress.GoesOn (progress : Progress) : Prop where
  counted : progress.Counted
  failures : progress.consecutiveFailures = trailingFailures progress.results
  goes : ¬ MustStop progress.results
  completed : progress.stopReason = .completed

section Loop

variable {deadline now : ℤ} {query : QueryPlan} {queries : List QueryPlan} {progress next final : Progress}
  {scan : ScanRecord} {result : QueryResult} {trace : List (Sigma CollectorCall.Answer)}

theorem Progress.GoesOn.append (h : progress.GoesOn) (hresults : next.results = progress.results ++ [result])
    (hattempted : next.attemptedQueries = progress.attemptedQueries + 1)
    (hsucceeded : next.succeededQueries = progress.succeededQueries + if result.isSucceeded then 1 else 0)
    (hcircuit : next.circuitBreak = result.circuitReason.isSome)
    (hblocked : next.blocked = next.circuitBreak) :
    next.Counted := by
  refine ⟨?_, ?_, ?_, hblocked, ?_⟩
  · rw [hattempted, hresults, h.counted.attempted, List.length_append, List.length_singleton]
  · rw [hsucceeded, hresults, h.counted.succeeded, List.filter_append, List.length_append]
    cases hr : result.isSucceeded <;> simp [hr]
  · have hquiet : ¬ ∃ result ∈ progress.results, result.circuitReason.isSome = true :=
      fun hopen => h.goes (.inl hopen)
    rw [hcircuit, hresults]
    simp only [List.mem_append, List.mem_singleton, or_and_right, exists_or, exists_eq_left]
    exact (or_iff_right hquiet).symm
  · intro n hn
    rw [hresults, List.length_append, List.length_singleton, Nat.lt_succ_iff] at hn
    rw [hresults, List.take_append_of_le_length hn]
    obtain hlt | rfl := hn.lt_or_eq
    · exact h.counted.stops n hlt
    · rw [List.take_length]
      exact h.goes

theorem after_source (progress : Progress) (query : QueryPlan) (error : SourceError) :
    ∃ stopReason goesOn, progress.after query (.error (.source error)) =
      ({ progress with
          circuitBreak := error.breaksCircuit
          blocked := error.breaksCircuit
          consecutiveFailures := progress.consecutiveFailures + 1
          results := progress.results ++ [.failed query.request query.monitorIds error]
          stopReason }, goesOn) ∧
      (goesOn = true → error.breaksCircuit = false ∧
        progress.consecutiveFailures + 1 < maxConsecutiveFailures ∧ stopReason = progress.stopReason) ∧
      (goesOn = false → stopReason ≠ .completed ∧
        (error.breaksCircuit = true ∨ maxConsecutiveFailures ≤ progress.consecutiveFailures + 1)) := by
  simp only [Progress.after]
  by_cases hbreak : error.breaksCircuit = true
  · rw [if_pos hbreak]
    exact ⟨_, _, rfl, nofun, fun _ => ⟨nofun, .inl hbreak⟩⟩
  rw [if_neg hbreak]
  by_cases hfailures : maxConsecutiveFailures ≤ progress.consecutiveFailures + 1
  · rw [if_pos hfailures]
    exact ⟨_, _, rfl, nofun, fun _ => ⟨nofun, .inr hfailures⟩⟩
  · rw [if_neg hfailures]
    exact ⟨_, _, rfl, fun _ => ⟨Bool.eq_false_iff.mpr hbreak, not_le.mp hfailures, rfl⟩, nofun⟩

/-- **One query** adds its result, and the batch goes on unless it must stop. -/
theorem Progress.GoesOn.after (h : progress.GoesOn) {goesOn : Bool}
    (hnext : (progress.start now).after query (readScan query scan.2.1 deadline scan.2.2) = (next, goesOn)) :
    next.Counted ∧ next.results = progress.results ++ [resultOf deadline query scan] ∧
      (goesOn = true → next.GoesOn) ∧
      (goesOn = false → MustStop next.results ∧ next.stopReason ≠ .completed) := by
  have hclosed : progress.circuitBreak = false := by
    rw [Bool.eq_false_iff, ne_eq, h.counted.circuit]
    exact fun hopen => h.goes (.inl hopen)
  have hmust : ∀ result, MustStop (progress.results ++ [result]) ↔ _ := fun result => mustStop_append h.goes
  unfold resultOf
  cases hread : readScan query scan.2.1 deadline scan.2.2 with
  | ok observations =>
    rw [hread] at hnext
    obtain ⟨hsame, rfl⟩ := Prod.mk.inj hnext
    have hresults : next.results = progress.results ++ [.succeeded query.request observations] := hsame ▸ rfl
    have hcounted : next.Counted := h.append hresults (hsame ▸ rfl) (hsame ▸ rfl) (hsame ▸ hclosed)
      (hsame ▸ h.counted.blocked)
    refine ⟨hcounted, hresults, fun _ => ⟨hcounted, ?_, ?_, hsame ▸ h.completed⟩, nofun⟩
    · rw [hresults, trailingFailures_append, ← hsame]
      rfl
    · rw [hresults, hmust]
      simp [QueryResult.circuitReason, QueryResult.isFailed, QueryResult.isOverdue]
  | error error =>
    cases error with
    | batchDeadline =>
      rw [hread] at hnext
      obtain ⟨hsame, rfl⟩ := Prod.mk.inj hnext
      have hresults : next.results =
          progress.results ++ [.deadlineExceeded query.request query.monitorIds] := hsame ▸ rfl
      have hcounted : next.Counted := h.append hresults (hsame ▸ rfl) (hsame ▸ rfl) (hsame ▸ hclosed)
        (hsame ▸ h.counted.blocked)
      refine ⟨hcounted, hresults, nofun, fun _ => ⟨?_, hsame ▸ nofun⟩⟩
      rw [hresults, hmust]
      exact .inr (.inr rfl)
    | source error =>
      obtain ⟨stopReason, goesOn', hafter, hgoes, hends⟩ := after_source (progress.start now) query error
      rw [hread, hafter] at hnext
      obtain ⟨hsame, rfl⟩ := Prod.mk.inj hnext
      have hbreaks := breaksCircuit_eq query.request query.monitorIds error
      have hresults : next.results =
          progress.results ++ [.failed query.request query.monitorIds error] := hsame ▸ rfl
      have hcounted : next.Counted := h.append hresults (hsame ▸ rfl) (hsame ▸ rfl) (hsame ▸ hbreaks)
        (hsame ▸ rfl)
      refine ⟨hcounted, hresults, fun hgo => ?_, fun hend => ?_⟩
      · obtain ⟨hquiet, hfew, hreason⟩ := hgoes hgo
        refine ⟨hcounted, ?_, ?_, ?_⟩
        · rw [hresults, trailingFailures_append, ← h.failures, ← hsame]
          rfl
        · rw [hresults, hmust, ← h.failures, ← hbreaks, hquiet]
          rintro (hcircuit | ⟨-, hmany⟩ | hoverdue)
          · cases hcircuit
          · exact absurd hmany (not_le.mpr hfew)
          · cases hoverdue
        · rw [← hsame]
          exact hreason.trans h.completed
      · obtain ⟨hreason, hcause⟩ := hends hend
        refine ⟨?_, hsame ▸ hreason⟩
        rw [hresults, hmust, ← h.failures, ← hbreaks]
        exact hcause.imp id fun hmany => .inl ⟨rfl, hmany⟩

/-- **The loop** scans the first queries in order, each once, and keeps a result for each. -/
theorem runs_collectQueries {outcome : Except CollectError Progress} (h : progress.GoesOn)
    (hrun : (collectQueries deadline queries progress).Runs trace outcome) :
    ∃ final, outcome = .ok final ∧ final.Counted ∧ ∃ done, done <+: queries ∧
      (scansOf trace).map Prod.fst = done.map QueryPlan.request ∧
      final.results = progress.results ++ List.zipWith (resultOf deadline) done (scansOf trace) ∧
      (final.stopReason = .completed → done = queries) := by
  induction queries generalizing progress trace with
  | nil =>
    obtain ⟨rfl, rfl⟩ := hrun
    exact ⟨progress, rfl, h.counted, [], List.prefix_rfl, rfl, (List.append_nil _).symm, fun _ => rfl⟩
  | cons query queries ih =>
    obtain ⟨awake, trace, rfl, hrun⟩ := hrun
    cases awake with
    | false =>
      obtain ⟨rfl, rfl⟩ := hrun
      refine ⟨_, rfl, ?_, [], List.nil_prefix, rfl, (List.append_nil _).symm, nofun⟩
      exact ⟨h.counted.attempted, h.counted.succeeded, h.counted.circuit, h.counted.blocked, h.counted.stops⟩
    | true =>
      obtain ⟨now, trace, rfl, hrun⟩ := hrun
      replace hrun : (scanQuery query deadline >>= _).Runs trace outcome := hrun
      obtain ⟨e, hscan, -⟩ | ⟨read, first, rest, rfl, hscan, hrun⟩ := Prog.runs_bind.mp hrun
      · obtain ⟨_, _, -, ⟨⟩⟩ := runs_scanQuery.mp hscan
      obtain ⟨later, answer, rfl, hread⟩ := runs_scanQuery.mp hscan
      cases hread
      set scan : ScanRecord := (query.request, min (later + pageTimeout) deadline, answer) with hscan
      have hscans : scansOf (⟨.sleepUntil progress.nextQueryAt deadline, true⟩ :: ⟨.now, now⟩ ::
          ([⟨.now, later⟩, ⟨.scan query.request (min (later + pageTimeout) deadline), answer⟩] ++ rest)) =
          scan :: scansOf rest := rfl
      rw [hscans]
      cases hafter : (progress.start now).after query (readScan query scan.2.1 deadline scan.2.2) with
      | mk next goesOn =>
        obtain ⟨hcounted, hresults, hgoes, hends⟩ := h.after hafter
        dsimp only at hrun
        rw [hafter] at hrun
        cases goesOn with
        | true =>
          obtain ⟨final, rfl, hfinal, done, hdone, hrequests, hall, hcompleted⟩ := ih (hgoes rfl) hrun
          refine ⟨final, rfl, hfinal, query :: done, List.cons_prefix_cons.mpr ⟨rfl, hdone⟩, ?_, ?_, ?_⟩
          · rw [List.map_cons, List.map_cons, hrequests]
          · rw [hall, hresults, List.zipWith_cons_cons, List.append_assoc, List.singleton_append]
          · exact fun hreason => congrArg _ (hcompleted hreason)
        | false =>
          obtain ⟨rfl, rfl⟩ := hrun
          refine ⟨next, rfl, hcounted, [query], List.cons_prefix_cons.mpr ⟨rfl, List.nil_prefix⟩, rfl,
            hresults, ?_⟩
          exact fun hreason => absurd hreason (hends rfl).2

end Loop

/-! ## Batches -/

/-- The measurements of a result. -/
def QueryResult.measurements : QueryResult → List MeasurementRecord
  | succeeded _ observations => observations.map Observation.measurement
  | _ => []

/-- The measurements of some results. -/
def measurementsOf (results : List QueryResult) : List MeasurementRecord :=
  results.flatMap QueryResult.measurements

/-- **What every run of a batch has done.** -/
structure Collected (plan : BatchPlan) (deadline : ℤ) (trace : List (Sigma CollectorCall.Answer))
    (result : BatchResult) : Prop where
  scanned : ∃ done, done <+: plan.queries ∧ (scansOf trace).map Prod.fst = done.map QueryPlan.request ∧
    result.results = List.zipWith (resultOf deadline) done (scansOf trace) ∧
    (result.stopReason = .completed → done = plan.queries)
  stops : ∀ n < result.results.length, ¬ MustStop (result.results.take n)
  shape : validateResultShape plan result = .ok ()
  blocked : result.status = .blocked ↔ ∃ one ∈ result.results, one.circuitReason.isSome = true
  circuit : result.circuitBreak = true ↔ ∃ one ∈ result.results, one.circuitReason.isSome = true

/-- A measurement tells where the scan of its query has the product of its monitor. -/
def Measured (plan : BatchPlan) (trace : List (Sigma CollectorCall.Answer)) (record : MeasurementRecord) :
    Prop :=
  ∃ query ∈ plan.queries, ∃ target ∈ query.targets, ∃ deadline scan,
    (query.request, deadline, some (.ok scan)) ∈ scansOf trace ∧
    record.monitorId = target.monitorId ∧ record.observedAt = scan.observedAt ∧
    (∀ n, record.outcome = .found ∧ record.overallPosition = some n ↔
      IsLeast {n | ∃ hit ∈ hitsOf target.productId.val.val scan.hits, hit.overallPosition = n} n) ∧
    (record.outcome = .notFound ↔ hitsOf target.productId.val.val scan.hits = [])

section Batch

variable {deadline : ℤ} {plan : BatchPlan} {trace : List (Sigma CollectorCall.Answer)} {result : BatchResult}
  {done queries : List QueryPlan} {scans : List ScanRecord}

theorem batchStatus_blocked (blocked : Bool) (succeededQueries plannedQueries : ℕ) :
    batchStatus blocked succeededQueries plannedQueries = .blocked ↔ blocked = true := by
  unfold batchStatus
  split_ifs with h <;> simp [h]

theorem zip_zipWith_resultOf (hfirst : done <+: queries) :
    ((List.zipWith (resultOf deadline) done scans).zip queries).all fun pair =>
      pair.1.subject = (pair.2.request, pair.2.monitorIds) := by
  induction done generalizing queries scans with
  | nil => simp
  | cons query done ih =>
    cases scans with
    | nil => simp
    | cons scan scans =>
      obtain ⟨rest, rfl⟩ := hfirst
      rw [List.zipWith_cons_cons, List.cons_append, List.zip_cons_cons, List.all_cons, Bool.and_eq_true]
      exact ⟨decide_eq_true subject_resultOf, ih (List.prefix_append _ _)⟩

/-- **A batch** always returns, with a result for each query it scanned. -/
theorem collected {outcome : Except CollectError BatchResult}
    (hrun : (collectBatch plan deadline).Runs trace outcome) :
    ∃ result, outcome = .ok result ∧ Collected plan deadline trace result := by
  obtain ⟨now, trace, rfl, hrun⟩ := hrun
  replace hrun : (collectQueries deadline plan.queries { nextQueryAt := now } >>= fun progress =>
      pure (progress.result plan.queries.length)).Runs trace outcome := hrun
  have hstart : Progress.GoesOn { nextQueryAt := now } := by
    refine ⟨⟨rfl, rfl, by simp, rfl, fun n hn => absurd hn (Nat.not_lt_zero n)⟩, rfl, ?_, rfl⟩
    simp [MustStop, trailingFailures, maxConsecutiveFailures]
  have hscans : scansOf (⟨.now, now⟩ :: trace) = scansOf trace := rfl
  obtain ⟨e, hfail, -⟩ | ⟨progress, first, rest, rfl, hqueries, hreturn⟩ := Prog.runs_bind.mp hrun
  · obtain ⟨_, ⟨⟩, -⟩ := runs_collectQueries hstart hfail
  obtain ⟨rfl, rfl⟩ := hreturn
  obtain ⟨_, ⟨⟩, hcounted, done, hdone, hrequests, hresults, hcompleted⟩ :=
    runs_collectQueries hstart hqueries
  rw [List.nil_append] at hresults
  rw [List.append_nil]
  refine ⟨_, rfl, ⟨done, hdone, hrequests, hresults, hcompleted⟩, hcounted.stops, ?_, ?_, hcounted.circuit⟩
  · simp only [validateResultShape, ok_of_bind, ensure_eq_ok]
    refine ⟨(), ⟨rfl, hcounted.attempted, hcounted.succeeded⟩, ?_⟩
    show ((progress.results.zip plan.queries).all _) = true
    rw [hresults]
    exact zip_zipWith_resultOf hdone
  · rw [Progress.result, batchStatus_blocked, hcounted.blocked]
    exact hcounted.circuit

theorem measurements_foldl (results : List QueryResult) (persisting : Persisting) :
    (results.foldl Persisting.add persisting).measurements =
      persisting.measurements ++ measurementsOf results := by
  induction results generalizing persisting with
  | nil => exact (List.append_nil _).symm
  | cons result results ih =>
    rw [List.foldl_cons, ih, measurementsOf, measurementsOf, List.flatMap_cons, ← List.append_assoc]
    congr 1
    cases result with
    | succeeded request observations => rfl
    | failed request monitorIds error => exact (List.append_nil _).symm
    | deadlineExceeded request monitorIds => exact (List.append_nil _).symm

theorem sublist_measurements (query : QueryPlan) (scan : ScanRecord) :
    ((resultOf deadline query scan).measurements.map MeasurementRecord.monitorId).Sublist query.monitorIds := by
  have hids : ∀ observation : Observation, observation.measurement.monitorId = observation.monitorId := by
    intro observation
    unfold Observation.measurement
    cases observation.outcome <;> rfl
  have hsubject : (resultOf deadline query scan).subject = (query.request, query.monitorIds) :=
    subject_resultOf
  cases hresult : resultOf deadline query scan with
  | succeeded request observations =>
    rw [hresult] at hsubject
    obtain ⟨-, hmonitors⟩ := Prod.mk.inj hsubject
    rw [QueryResult.measurements, List.map_map, ← hmonitors]
    simp [Function.comp_def, hids]
  | failed request monitorIds error => exact List.nil_sublist _
  | deadlineExceeded request monitorIds => exact List.nil_sublist _

theorem sublist_measurementsOf (hfirst : done <+: queries) :
    ((measurementsOf (List.zipWith (resultOf deadline) done scans)).map MeasurementRecord.monitorId).Sublist
      (queries.flatMap QueryPlan.monitorIds) := by
  induction done generalizing queries scans with
  | nil => exact List.nil_sublist _
  | cons query done ih =>
    cases scans with
    | nil => exact List.nil_sublist _
    | cons scan scans =>
      obtain ⟨rest, rfl⟩ := hfirst
      rw [List.zipWith_cons_cons, measurementsOf, List.flatMap_cons, List.map_append, List.cons_append,
        List.flatMap_cons]
      exact (sublist_measurements query scan).append (ih (List.prefix_append _ _))

/-- The monitors of the queries are those of the targets. -/
theorem monitorIds_perm {lowercase : String → String} {slot : ℤ} {targets : List MonitorTarget}
    (h : Plannable targets) : ((queriesOf lowercase slot targets).flatMap QueryPlan.monitorIds).Perm
      (targets.map MonitorTarget.monitorId) := by
  have hids : (queriesOf lowercase slot targets).flatMap QueryPlan.monitorIds =
      ((queriesOf lowercase slot targets).flatMap QueryPlan.targets).map MonitorTarget.monitorId := by
    rw [List.map_flatMap]
    rfl
  rw [hids]
  exact (flatMap_queriesOf h).map _

theorem Collected.nodup_monitorIds (h : Collected plan deadline trace result) {ids : List ℤ}
    (hids : (plan.queries.flatMap QueryPlan.monitorIds).Perm ids) (hnodup : ids.Nodup) :
    ((measurementsOf result.results).map MeasurementRecord.monitorId).Nodup := by
  obtain ⟨done, hdone, -, hresults, -⟩ := h.scanned
  rw [hresults]
  exact (sublist_measurementsOf hdone).nodup (hids.nodup_iff.mpr hnodup)

theorem measured_observationOf (scan : QueryScan) (target : MonitorTarget) :
    (∀ n, (observationOf scan target).measurement.outcome = .found ∧
        (observationOf scan target).measurement.overallPosition = some n ↔
      IsLeast {n | ∃ hit ∈ hitsOf target.productId.val.val scan.hits, hit.overallPosition = n} n) ∧
    ((observationOf scan target).measurement.outcome = .notFound ↔
      hitsOf target.productId.val.val scan.hits = []) := by
  obtain ⟨hfound, hnone⟩ := outcome_observationOf scan target
  simp only [← hfound, ← hnone]
  cases houtcome : (observationOf scan target).outcome with
  | notFound => simp [Observation.measurement, houtcome]
  | found overall organic sponsored placement => simp [Observation.measurement, houtcome, eq_comm]

theorem mem_measurements_resultOf {query : QueryPlan} {scan : ScanRecord} {record : MeasurementRecord}
    (h : record ∈ (resultOf deadline query scan).measurements) :
    ∃ found, scan.2.2 = some (.ok found) ∧ (∃ observations, found.intoObservations query = .ok observations) ∧
      ∃ target ∈ query.targets, record = (observationOf found target).measurement := by
  obtain ⟨request, effective, answer⟩ := scan
  cases answer with
  | none =>
    by_cases hsame : effective = deadline <;> simp [resultOf, readScan, hsame, QueryResult.measurements] at h
  | some answer =>
    cases answer with
    | error error => simp [resultOf, readScan, QueryResult.measurements] at h
    | ok found =>
      cases hread : found.intoObservations query with
      | error error => simp [resultOf, readScan, hread, Except.mapError, QueryResult.measurements] at h
      | ok observations =>
        refine ⟨found, rfl, ⟨_, hread⟩, ?_⟩
        obtain ⟨rfl, -⟩ := intoObservations_eq_ok hread
        simpa [resultOf, readScan, hread, Except.mapError, QueryResult.measurements, eq_comm] using h

/-- **Every measurement of a run** tells what the scan of its query found. -/
theorem Collected.measured (h : Collected plan deadline trace result) {record : MeasurementRecord}
    (hrecord : record ∈ measurementsOf result.results) : Measured plan trace record := by
  obtain ⟨done, hdone, hrequests, hresults, -⟩ := h.scanned
  rw [hresults, measurementsOf, List.mem_flatMap] at hrecord
  obtain ⟨one, hone, hrecord⟩ := hrecord
  obtain ⟨i, hi, rfl⟩ := List.mem_iff_getElem.mp hone
  obtain ⟨hdoneLength, hscanLength⟩ := lt_min_iff.mp (List.length_zipWith ▸ hi)
  rw [List.getElem_zipWith] at hrecord
  obtain ⟨found, hanswer, -, target, htarget, rfl⟩ := mem_measurements_resultOf hrecord
  have hrequest : (scansOf trace)[i].1 = done[i].request := by
    have hget := congrArg (fun requests : List QueryRequest => requests[i]?) hrequests
    simpa [hdoneLength, hscanLength] using hget
  have hscan : (done[i].request, (scansOf trace)[i].2.1, some (.ok found)) ∈ scansOf trace := by
    rw [← hrequest, ← hanswer]
    exact List.getElem_mem hscanLength
  refine ⟨done[i], hdone.subset (List.getElem_mem hdoneLength), target, htarget, _, found, hscan, ?_⟩
  have hsame : (observationOf found target).measurement.monitorId = target.monitorId ∧
      (observationOf found target).measurement.observedAt = found.observedAt := by
    unfold Observation.measurement
    cases (observationOf found target).outcome <;> exact ⟨rfl, rfl⟩
  exact ⟨hsame.1, hsame.2, measured_observationOf found target⟩

end Batch

/-- **Planning and collection.** Every target is in one query that asks for what it has; any order of the
targets gives the same plan; and every run, whatever the clock and the source do, scans the first queries of
the plan in order, stops where it must and measures every monitor at most once, at its least position. -/
theorem position_batch_sound (lowercase : String → String) {slot : ℤ} {targets : List MonitorTarget}
    {plan : BatchPlan} (h : BatchPlan.new lowercase slot targets = .ok plan) :
    (∀ target ∈ targets, ∃! query, query ∈ plan.queries ∧ target ∈ query.targets) ∧
    (plan.queries.flatMap QueryPlan.targets).Perm targets ∧
    (∀ query ∈ plan.queries, Asks lowercase targets query) ∧
    (∀ targets', targets.Perm targets' → BatchPlan.new lowercase slot targets' = .ok plan) ∧
    ∀ deadline trace outcome, (collectBatch plan deadline).Runs trace outcome →
      ∃ result, outcome = .ok result ∧ Collected plan deadline trace result ∧
        ((measurementsOf result.results).map MeasurementRecord.monitorId).Nodup ∧
        ∀ record ∈ measurementsOf result.results, Measured plan trace record := by
  obtain ⟨-, -, hplannable, -, -, rfl⟩ := new_eq_ok.mp h
  refine ⟨fun target htarget => existsUnique_query htarget, flatMap_queriesOf hplannable,
    fun query hquery => ?_, fun targets' hperm => new_perm h hperm, fun deadline trace outcome hrun => ?_⟩
  · obtain ⟨key, -, rfl⟩ := mem_queriesOf.mp hquery
    exact asks_queryPlan hplannable
  · obtain ⟨result, rfl, hcollected⟩ := collected hrun
    exact ⟨result, rfl, hcollected, hcollected.nodup_monitorIds (monitorIds_perm hplannable) hplannable.distinct,
      fun record hrecord => hcollected.measured hrecord⟩

/-! ## Two monitors of one query -/

/-- The lowercase of ASCII letters. -/
def asciiLowercase (s : String) : String := String.ofList (s.toList.map Char.toLower)

/-- A product and a phrase in Moscow. -/
def penTarget (monitorId : ℤ) (productId searchPhrase : String) : Except ValidationError MonitorTarget :=
  MonitorTarget.new monitorId "store" productId searchPhrase "moscow" "Moscow" 100

/-- Two products for one phrase, spelled differently. -/
def penTargets : List MonitorTarget :=
  [penTarget 2 "3411079879" " Red   pen", penTarget 1 "3388722638" "red PEN"].filterMap Except.toOption

/-- The half hour from 7:30 of a day on. -/
def penSlot : ℤ := hours (24 * 20681) + seconds (450 * 60)

/-- The result for the phrase. -/
def penScan : QueryScan where
  observedAt := penSlot + seconds 360
  regionCode := "moscow"
  regionConfirmed := true
  completeTopN := true
  hits := [SearchHit.new "3411079879" 21 .unknown, SearchHit.new "3411079879" 8 .sponsored].filterMap
    Except.toOption

/-- A source that finds one of the products, on a clock that stands. -/
def penAnswers : (call : CollectorCall) → call.Answer
  | .now => (0 : ℤ)
  | .sleepUntil _ _ => true
  | .scan _ _ => some (.ok penScan)

theorem position_batch_sound_pen : ∃ plan trace result,
    BatchPlan.new asciiLowercase penSlot penTargets = .ok plan ∧
    (collectBatch plan (seconds 1200)).Runs trace (.ok result) ∧ Collected plan (seconds 1200) trace result ∧
    (measurementsOf result.results).map (fun record => (record.monitorId, record.overallPosition)) =
      [(1, none), (2, some 8)] := by
  have hvalue : ((BatchPlan.new asciiLowercase penSlot penTargets).toOption.bind fun plan =>
      ((collectBatch plan (seconds 1200)).eval fun call => .ok (penAnswers call)).toOption).map (fun result =>
        (measurementsOf result.results).map fun record => (record.monitorId, record.overallPosition)) =
      some [(1, none), (2, some 8)] := by
    decide +kernel
  cases h : BatchPlan.new asciiLowercase penSlot penTargets with
  | error e => simp [h, Except.toOption] at hvalue
  | ok plan =>
    have hrun := Prog.runs_eval penAnswers (collectBatch plan (seconds 1200))
    obtain ⟨result, hresult, hcollected, -⟩ := (position_batch_sound asciiLowercase h).2.2.2.2 _ _ _ hrun
    rw [hresult] at hrun
    refine ⟨plan, _, result, rfl, hrun, hcollected, ?_⟩
    simpa [h, hresult, Except.toOption] using hvalue

end AdsControl.Position
