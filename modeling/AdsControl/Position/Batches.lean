import AdsControl.Position.Collection

/-!
# Batches that can be handed over

A payload is made from a run of a planned batch and in no other way.

* `PersistenceBatch.Collectable`: the payloads that exist;
* **`PersistenceBatch.Collectable.wellFormed`**: their counters, times and measurements are in order, whatever
  the source and the clock did.
-/

namespace AdsControl.Position

open Fallible Interaction

/-- The payload of some run of some plan; the numbers of monitors have eight bytes. -/
def PersistenceBatch.Collectable (batch : PersistenceBatch) : Prop :=
  ∃ lowercase slot targets plan deadline trace result startedAt finishedAt collectorVersion,
    (∀ target ∈ targets, target.monitorId < 2 ^ 63) ∧
    BatchPlan.new lowercase slot targets = .ok plan ∧
    (collectBatch plan deadline).Runs trace (.ok result) ∧
    PersistenceBatch.fromResult plan result startedAt finishedAt collectorVersion = .ok batch

/-- A position of the public results. -/
def IsPosition (n : ℕ) : Prop := 1 ≤ n ∧ n ≤ maxPublicResults

instance (n : ℕ) : Decidable (IsPosition n) := inferInstanceAs (Decidable (_ ∧ _))

/-- A measurement of a slot. -/
structure MeasurementRecord.WellFormed (slot : ℤ) (record : MeasurementRecord) : Prop where
  monitorId : 0 < record.monitorId ∧ record.monitorId < 2 ^ 63
  observedAt : slot ≤ record.observedAt ∧ record.observedAt < slot + collectionInterval
  overall : ∀ n ∈ record.overallPosition, IsPosition n
  organic : ∀ n ∈ record.organicPosition, IsPosition n
  sponsored : ∀ n ∈ record.sponsoredPosition, IsPosition n
  shape : (record.outcome = .found ∧ record.overallPosition.isSome = true ∧ record.placement.isSome = true) ∨
    (record.outcome = .notFound ∧ record.overallPosition = none ∧ record.placement = none ∧
      record.organicPosition = none ∧ record.sponsoredPosition = none)

/-- A payload in order. -/
structure PersistenceBatch.WellFormed (batch : PersistenceBatch) : Prop where
  slot : isAlignedSlot batch.scheduledFor = true
  calendar : minUtc ≤ batch.scheduledFor + executionOffset ∧ batch.scheduledFor + collectionInterval ≤ maxUtc
  started : batch.scheduledFor + executionOffset ≤ batch.startedAt
  ended : batch.startedAt ≤ batch.finishedAt ∧ batch.finishedAt < batch.scheduledFor + collectionInterval
  version : validateCollectorVersion batch.collectorVersion = .ok batch.collectorVersion
  monitors : batch.monitorsSucceeded ≤ batch.monitorsAttempted ∧
    batch.monitorsAttempted ≤ batch.monitorsPlanned ∧ batch.monitorsPlanned ≤ maxTargetsPerBatch
  queries : batch.queriesSucceeded ≤ batch.queriesAttempted ∧ batch.queriesAttempted ≤ batch.queriesPlanned ∧
    batch.queriesPlanned ≤ maxQueriesPerBatch
  httpStatus : batch.httpStatus = batch.errorClass.bind ErrorClass.httpStatus
  blocked : batch.circuitReason.isSome = true ↔ batch.status = .blocked
  measured : batch.measurements.length = batch.monitorsSucceeded
  distinct : (batch.measurements.map MeasurementRecord.monitorId).Nodup
  measurements : ∀ record ∈ batch.measurements, record.WellFormed batch.scheduledFor

/-! ## Measurements -/

section Measurements

variable {scan : QueryScan} {query : QueryPlan} {target : MonitorTarget} {observations : List Observation}

theorem mem_hitsOf {product : String} {hits : List SearchHit} {hit : SearchHit} (h : hit ∈ hitsOf product hits) :
    hit ∈ hits :=
  (List.mem_filter.mp h).1

theorem Best.mem {hits : List SearchHit} {positions : HitPositions} (h : Best hits positions) :
    (∃ hit ∈ hits, hit.overallPosition = positions.overallPosition) ∧
    (∀ n ∈ positions.organicPosition, ∃ hit ∈ hits, hit.overallPosition = n) ∧
    ∀ n ∈ positions.sponsoredPosition, ∃ hit ∈ hits, hit.overallPosition = n := by
  have hplaced : ∀ (placement : PlacementKind) (n : ℕ),
      n ∈ ((hits.filter fun hit => hit.placement = placement).map SearchHit.overallPosition).min? →
        ∃ hit ∈ hits, hit.overallPosition = n := by
    intro placement n hn
    obtain ⟨hit, hhit, hposition⟩ := List.mem_map.mp (List.min?_mem hn)
    exact ⟨hit, (List.mem_filter.mp hhit).1, hposition⟩
  exact ⟨h.overall.1, h.organic ▸ hplaced .organic, h.sponsored ▸ hplaced .sponsored⟩

theorem wellFormed_observationOf (hread : scan.intoObservations query = .ok observations)
    (hdepth : query.request.maxPosition ≤ maxPublicResults) (hid : target.monitorId < 2 ^ 63) :
    (observationOf scan target).measurement.WellFormed query.request.slot := by
  obtain ⟨-, -, -, -, hslot, hpositions⟩ := intoObservations_eq_ok hread
  have hmonitor : 0 < target.monitorId ∧ target.monitorId < 2 ^ 63 := ⟨target.monitorId_pos, hid⟩
  by_cases hnil : hitsOf target.productId.val.val scan.hits = []
  · rw [observationOf, if_pos hnil]
    refine ⟨hmonitor, hslot, ?_, ?_, ?_, .inr ⟨rfl, rfl, rfl, rfl, rfl⟩⟩ <;> rintro _ ⟨⟩
  · have hposition : ∀ n, (∃ hit ∈ hitsOf target.productId.val.val scan.hits, hit.overallPosition = n) →
        IsPosition n := by
      rintro _ ⟨hit, hhit, rfl⟩
      exact ⟨hit.overallPosition_pos, (hpositions hit (mem_hitsOf hhit)).trans hdepth⟩
    obtain ⟨hoverall, horganic, hsponsored⟩ := (best_positionsOf hnil).mem
    rw [observationOf, if_neg hnil]
    refine ⟨hmonitor, hslot, ?_, fun n hn => hposition n (horganic n hn),
      fun n hn => hposition n (hsponsored n hn), .inl ⟨rfl, rfl, rfl⟩⟩
    rintro _ ⟨⟩
    exact hposition _ hoverall

end Measurements

/-! ## Counters -/

section Counters

variable {plan : BatchPlan} {deadline : ℤ} {trace : List (Sigma CollectorCall.Answer)} {result : BatchResult}

theorem monitorsAttempted_foldl (results : List QueryResult) (persisting : Persisting) :
    (results.foldl Persisting.add persisting).monitorsAttempted =
      persisting.monitorsAttempted + (results.flatMap fun result => result.subject.2).length := by
  induction results generalizing persisting with
  | nil => rfl
  | cons result results ih =>
    rw [List.foldl_cons, ih, List.flatMap_cons, List.length_append, ← add_assoc]
    cases result <;> simp [Persisting.add, QueryResult.subject]

theorem monitorsSucceeded_foldl (results : List QueryResult) (persisting : Persisting) :
    (results.foldl Persisting.add persisting).monitorsSucceeded =
      persisting.monitorsSucceeded + (measurementsOf results).length := by
  induction results generalizing persisting with
  | nil => rfl
  | cons result results ih =>
    rw [List.foldl_cons, ih, measurementsOf, measurementsOf, List.flatMap_cons, List.length_append, ← add_assoc]
    cases result <;> simp [Persisting.add, QueryResult.measurements]

theorem length_measurementsOf_le (results : List QueryResult) :
    (measurementsOf results).length ≤ (results.flatMap fun result => result.subject.2).length := by
  induction results with
  | nil => exact le_rfl
  | cons result results ih =>
    rw [measurementsOf, List.flatMap_cons, List.flatMap_cons, List.length_append, List.length_append]
    refine Nat.add_le_add ?_ ih
    cases result <;> simp [QueryResult.measurements, QueryResult.subject]

theorem subjects_zipWith {done queries : List QueryPlan} {scans : List ScanRecord} (hfirst : done <+: queries) :
    ((List.zipWith (resultOf deadline) done scans).flatMap fun result => result.subject.2).Sublist
      (queries.flatMap QueryPlan.monitorIds) := by
  induction done generalizing queries scans with
  | nil => exact List.nil_sublist _
  | cons query done ih =>
    cases scans with
    | nil => exact List.nil_sublist _
    | cons scan scans =>
      obtain ⟨rest, rfl⟩ := hfirst
      rw [List.zipWith_cons_cons, List.flatMap_cons, List.cons_append, List.flatMap_cons, subject_resultOf]
      exact (List.Sublist.refl _).append (ih (List.prefix_append _ _))

/-- No more queries succeed than are attempted, and no more are attempted than are planned. -/
theorem Collected.queries_le (h : Collected plan deadline trace result) :
    result.succeededQueries ≤ result.attemptedQueries ∧ result.attemptedQueries ≤ result.plannedQueries ∧
      result.plannedQueries = plan.queries.length := by
  have hshape := h.shape
  simp only [validateResultShape, ok_of_bind, ensure_eq_ok, exists_const] at hshape
  obtain ⟨⟨hplanned, hattempted, hsucceeded⟩, -⟩ := hshape
  obtain ⟨done, hdone, -, hresults, -⟩ := h.scanned
  have hlength : result.results.length ≤ done.length := by
    rw [hresults, List.length_zipWith]
    exact Nat.min_le_left _ _
  refine ⟨?_, ?_, hplanned⟩
  · rw [hsucceeded, hattempted]
    exact List.length_filter_le _ _
  · rw [hattempted, hplanned]
    exact hlength.trans hdone.length_le

end Counters

/-! ## Payloads -/

section Payloads

variable {plan : BatchPlan} {result : BatchResult} {startedAt finishedAt : ℤ} {version : String}
  {batch : PersistenceBatch} {lowercase : String → String} {slot : ℤ} {targets : List MonitorTarget}

theorem fromResult_eq_ok (h : PersistenceBatch.fromResult plan result startedAt finishedAt version = .ok batch) :
    validateTimes plan startedAt finishedAt = .ok () ∧
    validateCollectorVersion version = .ok batch.collectorVersion ∧
    batch.scheduledFor = plan.slot ∧ batch.startedAt = startedAt ∧ batch.finishedAt = finishedAt ∧
    batch.status = result.status ∧ batch.monitorsPlanned = plan.targetCount ∧
    batch.monitorsAttempted = (result.results.flatMap fun result => result.subject.2).length ∧
    batch.monitorsSucceeded = (measurementsOf result.results).length ∧
    batch.queriesPlanned = result.plannedQueries ∧ batch.queriesAttempted = result.attemptedQueries ∧
    batch.queriesSucceeded = result.succeededQueries ∧
    batch.httpStatus = batch.errorClass.bind ErrorClass.httpStatus ∧
    batch.circuitReason = result.results.findSome? QueryResult.circuitReason ∧
    batch.measurements = measurementsOf result.results := by
  simp only [PersistenceBatch.fromResult, ok_of_bind, ok_of_pure] at h
  obtain ⟨⟨⟩, htimes, version, hversion, -, -, rfl⟩ := h
  refine ⟨htimes, hversion, rfl, rfl, rfl, rfl, rfl, ?_, ?_, rfl, rfl, rfl, rfl, rfl, ?_⟩
  · exact (monitorsAttempted_foldl _ _).trans (Nat.zero_add _)
  · exact (monitorsSucceeded_foldl _ _).trans (Nat.zero_add _)
  · exact (measurements_foldl _ _).trans (List.nil_append _)

theorem validateTimes_eq_ok (h : validateTimes plan startedAt finishedAt = .ok ()) :
    (minUtc ≤ plan.slot + executionOffset ∧ plan.slot + collectionInterval ≤ maxUtc) ∧
    plan.slot + executionOffset ≤ startedAt ∧ startedAt ≤ finishedAt ∧
    finishedAt < plan.slot + collectionInterval := by
  simp only [validateTimes, ok_of_bind, ensure_eq_ok, context_eq_ok, checkedAddSigned, inCalendar_eq_some] at h
  obtain ⟨_, ⟨rfl, hmin, -⟩, _, -, _, ⟨rfl, -, hmax⟩, hstart, -, hend, hslot⟩ := h
  exact ⟨⟨hmin, hmax⟩, hstart, hend, hslot⟩

theorem validateCollectorVersion_eq_ok {value : String} (h : validateCollectorVersion value = .ok version) :
    value = version := by
  simp only [validateCollectorVersion, ok_of_bind, ok_of_pure] at h
  obtain ⟨-, -, hsame⟩ := h
  exact hsame

theorem request_of_mem_queries {query : QueryPlan} {target : MonitorTarget} (hplannable : Plannable targets)
    (hquery : query ∈ queriesOf lowercase slot targets) (htarget : target ∈ query.targets) :
    query.request.slot = slot ∧ query.request.maxPosition ≤ maxPublicResults ∧ target ∈ targets := by
  obtain ⟨key, -, rfl⟩ := mem_queriesOf.mp hquery
  have hasks : Asks lowercase targets (queryPlan slot key (groupOf lowercase key targets)) :=
    asks_queryPlan hplannable
  refine ⟨rfl, ?_, hasks.mem target htarget⟩
  rw [hasks.maxPosition target htarget]
  exact target.maxPosition_mem.2

/-- **Whatever the source and the clock did, the payload is in order.** -/
theorem PersistenceBatch.Collectable.wellFormed (h : batch.Collectable) : batch.WellFormed := by
  obtain ⟨lowercase, slot, targets, plan, deadline, trace, result, startedAt, finishedAt, version, hids, hplan,
    hrun, hbatch⟩ := h
  obtain ⟨haligned, ⟨-, hcount⟩, hplannable, hqueries, -, rfl⟩ := new_eq_ok.mp hplan
  obtain ⟨result, ⟨⟩, hcollected⟩ := collected hrun
  obtain ⟨htimes, hversion, hslot, hstarted, hfinished, hstatus, hplanned, hattempted, hsucceeded, hqplanned,
    hqattempted, hqsucceeded, hhttp, hreason, hmeasurements⟩ := fromResult_eq_ok hbatch
  obtain ⟨hcalendar, hstart, hend, hlast⟩ := validateTimes_eq_ok htimes
  obtain rfl := validateCollectorVersion_eq_ok hversion
  obtain ⟨hq, hq', hq''⟩ := hcollected.queries_le
  have hperm : ((queriesOf lowercase slot targets).flatMap QueryPlan.monitorIds).Perm
      (targets.map MonitorTarget.monitorId) := monitorIds_perm hplannable
  have hfits : (result.results.flatMap fun result => result.subject.2).length ≤ targets.length := by
    obtain ⟨done, hdone, -, hresults, -⟩ := hcollected.scanned
    rw [hresults]
    exact (subjects_zipWith hdone).length_le.trans (hperm.length_eq.trans (List.length_map _)).le
  have hblocked : batch.circuitReason.isSome = true ↔ batch.status = .blocked := by
    rw [hreason, hstatus, hcollected.blocked, List.findSome?_isSome_iff]
  refine ⟨hslot ▸ haligned, hslot ▸ hcalendar, ?_, ⟨?_, ?_⟩, hversion, ⟨?_, ?_, ?_⟩, ⟨?_, ?_, ?_⟩, hhttp,
    hblocked, ?_, ?_, fun record hrecord => ?_⟩
  · rw [hslot, hstarted]
    exact hstart
  · rw [hstarted, hfinished]
    exact hend
  · rw [hfinished, hslot]
    exact hlast
  · rw [hsucceeded, hattempted]
    exact length_measurementsOf_le _
  · rw [hattempted, hplanned]
    exact hfits
  · rw [hplanned]
    exact hcount
  · rw [hqsucceeded, hqattempted]
    exact hq
  · rw [hqattempted, hqplanned]
    exact hq'
  · rw [hqplanned, hq'', queriesOf, List.length_map, Std.ExtTreeMap.length_toList, Std.ExtTreeMap.size_map]
    exact hqueries
  · rw [hmeasurements, hsucceeded]
  · rw [hmeasurements]
    exact hcollected.nodup_monitorIds hperm hplannable.distinct
  · rw [hmeasurements, measurementsOf, List.mem_flatMap] at hrecord
    obtain ⟨one, hone, hrecord⟩ := hrecord
    obtain ⟨done, hdone, -, hresults, -⟩ := hcollected.scanned
    rw [hresults] at hone
    obtain ⟨query, scan, hmem, rfl⟩ : ∃ query scan, query ∈ done ∧ resultOf deadline query scan = one := by
      obtain ⟨i, hi, rfl⟩ := List.mem_iff_getElem.mp hone
      rw [List.getElem_zipWith]
      exact ⟨_, _, List.getElem_mem _, rfl⟩
    obtain ⟨found, -, ⟨observations, hread⟩, target, htarget, rfl⟩ := mem_measurements_resultOf hrecord
    obtain ⟨hsame, hdepth, hmem⟩ := request_of_mem_queries hplannable (hdone.subset hmem) htarget
    rw [hslot, ← hsame]
    exact wellFormed_observationOf hread hdepth (hids target hmem)

end Payloads

end AdsControl.Position
