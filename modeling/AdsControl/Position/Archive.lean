import AdsControl.Position.Database

/-!
# The archive of slots

What the database is for: the first payload of a slot is kept for good, the same payload may be sent again,
and another one is refused.

* `Archive`: the payloads that were kept, in order;
* `Refines`: the tables hold the payloads of an archive, each as an ended run with its measurements;
* **`position_store_refines`**: the database behaves as the archive does.
-/

namespace AdsControl.Position

open Fallible FieldCode

/-! ## The archive -/

/-- Known monitors, and the payloads that were kept. -/
structure Archive where
  monitors : List ℤ := []
  batches : List PersistenceBatch := []

/-- **The first payload of a slot is kept**, when its monitors are known. -/
def Archive.persist (archive : Archive) (batch : PersistenceBatch) :
    Except RepositoryError PersistOutcome × Archive :=
  match archive.batches.find? fun old => old.scheduledFor = batch.scheduledFor with
  | some old => (if old.kept = batch.kept then .ok .alreadyExists else .error .slotConflict, archive)
  | none =>
    if ∀ measurement ∈ batch.measurements, measurement.monitorId ∈ archive.monitors then
      (.ok .inserted, { archive with batches := archive.batches ++ [batch] })
    else (.error .unavailable, archive)

/-- What an operation does to the archive. -/
def Archive.step (archive : Archive) : Operation → Option (Except RepositoryError PersistOutcome) × Archive
  | .persist _ batch => ((archive.persist batch).1, (archive.persist batch).2)
  | .addMonitor id => (none, { archive with monitors := id :: archive.monitors })
  | _ => (none, archive)

/-- The answers to the payloads among some operations, and the archive after them. -/
def Archive.run : Archive → List Operation → List (Except RepositoryError PersistOutcome) × Archive
  | archive, [] => ([], archive)
  | archive, operation :: operations =>
    ((archive.step operation).1.toList ++ ((archive.step operation).2.run operations).1,
      ((archive.step operation).2.run operations).2)

/-- The answer to a commit. -/
def Answer.persistResult : Answer → Option (Except RepositoryError PersistOutcome)
  | .persisted result => some result
  | _ => none

/-- The payloads among some operations. -/
def payloadsOf (operations : List Operation) : List PersistenceBatch :=
  operations.filterMap fun operation => match operation with
    | .persist _ batch => some batch
    | _ => none

/-! ## Rows -/

/-- The run of a payload that was kept. -/
def keptRun (sha256 : Bytes → Bytes) (entry : ℕ × PersistenceBatch) : CollectionRun :=
  endRun entry.2 (startedRun entry.1 (payloadDigest sha256 entry.2) entry.2)

/-- The rows of a kept batch. -/
def keptRows (entry : ℕ × PersistenceBatch) : List MeasurementRow :=
  (entry.2.measurements.map MeasurementRecord.kept).map (MeasurementRow.mk entry.1)

/-- **The tables hold an archive.** Every payload has an ended run of its own with its measurements. -/
structure Refines (sha256 : Bytes → Bytes) (db : Database) (archive : Archive) : Prop where
  monitors : db.tables.monitors = archive.monitors
  rows : ∃ entries : List (ℕ × PersistenceBatch), entries.map Prod.snd = archive.batches ∧
    (entries.map Prod.fst).Pairwise (· < ·) ∧ (∀ entry ∈ entries, entry.1 < db.nextRunId) ∧
    db.tables.runs = entries.map (keptRun sha256) ∧ db.tables.measurements = entries.flatMap keptRows
  collectable : ∀ batch ∈ archive.batches, batch.Collectable
  slots : (archive.batches.map PersistenceBatch.scheduledFor).Nodup

/-- What was kept stays. -/
def Database.Grows (db db' : Database) : Prop :=
  db.tables.runs <+: db'.tables.runs ∧ db.tables.measurements <+: db'.tables.measurements

section Rows

variable {sha256 : Bytes → Bytes} {batch batch' : PersistenceBatch} {runId : ℕ} {now : ℤ} {tables : Tables}

theorem length_le_utf8ByteSize (s : String) : s.length ≤ s.utf8ByteSize := by
  induction s using String.push_induction with
  | empty => exact le_rfl
  | push s c ih =>
    have hpos := c.utf8Size_pos
    rw [String.length_push, String.utf8ByteSize_push]
    omega

theorem timestampMicros_mono {s t : ℤ} (h : s ≤ t) : timestampMicros s ≤ timestampMicros t := by
  unfold timestampMicros
  omega

theorem length_payloadDigest (hlength : ∀ bytes, (sha256 bytes).length = 32) :
    (payloadDigest sha256 batch).length = 64 ∧ (payloadDigest sha256 batch).toList.all IsLowerHex := by
  have hdigits : ∀ i < 16, IsLowerHex (Nat.digitChar i) = true := by decide
  refine ⟨?_, List.all_eq_true.mpr fun c hc => ?_⟩
  · rw [payloadDigest, length_hex, hlength]
  · obtain ⟨i, hi, rfl⟩ := mem_hex hc
    exact hdigits i hi

theorem PersistenceBatch.WellFormed.aligned (h : batch.WellFormed) :
    timestampMicros batch.scheduledFor % slotMicros = 0 := by
  have hslot := of_decide_eq_true h.slot
  simp only [seconds] at hslot
  unfold timestampMicros slotMicros
  omega

theorem PersistenceBatch.WellFormed.version_length (h : batch.WellFormed) :
    1 ≤ batch.collectorVersion.length ∧ batch.collectorVersion.length ≤ 64 := by
  have hversion := h.version
  simp only [validateCollectorVersion, ok_of_bind, ensure_eq_ok] at hversion
  obtain ⟨-, ⟨hne, hsize, -⟩, -⟩ := hversion
  refine ⟨Nat.one_le_iff_ne_zero.mpr fun hzero => hne (String.length_eq_zero_iff.mp hzero), ?_⟩
  exact (length_le_utf8ByteSize _).trans hsize

theorem valid_startedRun (hlength : ∀ bytes, (sha256 bytes).length = 32) (h : batch.WellFormed) :
    (startedRun runId (payloadDigest sha256 batch) batch).Starts ∧
      (startedRun runId (payloadDigest sha256 batch) batch).Valid := by
  refine ⟨⟨rfl, rfl, rfl, rfl, rfl, rfl, rfl, rfl⟩, h.aligned, ⟨le_rfl, Nat.zero_le _⟩,
    ⟨le_rfl, Nat.zero_le _⟩, .inl ⟨rfl, rfl⟩, ?_, ?_, ?_, h.version_length, length_payloadDigest hlength⟩ <;>
    rintro _ ⟨⟩

theorem valid_endRun (hlength : ∀ bytes, (sha256 bytes).length = 32) (h : batch.WellFormed) :
    (startedRun runId (payloadDigest sha256 batch) batch).MayBecome (keptRun sha256 (runId, batch)) ∧
      (keptRun sha256 (runId, batch)).Valid := by
  have herrors : ∀ error : ErrorClass, 1 ≤ error.asStr.length ∧ error.asStr.length ≤ 64 ∧
      ¬ error.asStr.toList.any isWhitespace := by
    intro error
    cases error <;> decide
  have hstatus : ∀ status ∈ batch.httpStatus, 100 ≤ status ∧ status ≤ 599 := by
    rw [h.httpStatus]
    intro status hstatus
    obtain ⟨error, -, hstatus⟩ := Option.bind_eq_some_iff.mp hstatus
    cases error <;> cases hstatus <;> decide
  refine ⟨⟨⟨rfl, rfl, rfl, rfl, rfl, rfl, rfl⟩, rfl, ⟨Nat.zero_le _, Nat.zero_le _, Nat.zero_le _,
    Nat.zero_le _⟩⟩, h.aligned, ⟨h.monitors.1, h.monitors.2.1⟩, ⟨h.queries.1, h.queries.2.1⟩,
    .inr ⟨by simp [keptRun, endRun], rfl⟩, ?_, fun error _ => herrors error, hstatus, h.version_length,
    length_payloadDigest hlength⟩
  rintro _ ⟨⟩
  exact timestampMicros_mono h.ended.1

theorem MeasurementRecord.WellFormed.kept {slot : ℤ} {measurement : MeasurementRecord}
    (h : measurement.WellFormed slot) (hslot : slot % seconds 1 = 0) :
    MeasurementRow.Valid ⟨runId, measurement.kept⟩ ∧
      timestampMicros slot ≤ measurement.kept.observedAt ∧
      measurement.kept.observedAt < timestampMicros slot + slotMicros := by
  refine ⟨⟨h.overall, h.organic, h.sponsored, ?_⟩, timestampMicros_mono h.observedAt.1, ?_⟩
  · obtain ⟨hfound, hoverall, hplacement⟩ | ⟨hnot, hoverall, hplacement, horganic, hsponsored⟩ := h.shape
    · exact .inl ⟨hfound, hoverall, hplacement⟩
    · exact .inr ⟨by simp [MeasurementRecord.kept, hnot], hoverall, horganic, hsponsored, hplacement⟩
  · have hend := h.observedAt.2
    show timestampMicros measurement.observedAt < _
    simp only [timestampMicros, slotMicros, collectionInterval, seconds] at hend hslot ⊢
    omega

theorem PersistenceBatch.WellFormed.scheduledFor_eq_iff (h : batch.WellFormed) (h' : batch'.WellFormed) :
    timestampMicros batch.scheduledFor = timestampMicros batch'.scheduledFor ↔
      batch.scheduledFor = batch'.scheduledFor :=
  ⟨h.slot_eq h', congrArg timestampMicros⟩

/-! ## Statements -/

theorem foldlM_insertMeasurement (tables : Tables) {run : CollectionRun} {records : List MeasurementRecord}
    (hrun : tables.runs.find? (fun run => run.id = runId) = some run) (hrunning : run.status = .running)
    (hvalid : ∀ record ∈ records, MeasurementRow.Valid ⟨runId, record⟩ ∧
      run.scheduledFor ≤ record.observedAt ∧ record.observedAt < run.scheduledFor + slotMicros)
    (hnodup : (records.map MeasurementRecord.monitorId).Nodup)
    (hnew : ∀ row ∈ tables.measurements, row.runId = runId →
      row.measurement.monitorId ∉ records.map MeasurementRecord.monitorId) :
    records.foldlM (insertMeasurement runId) tables =
      if ∀ record ∈ records, record.monitorId ∈ tables.monitors then
        .ok { tables with measurements := tables.measurements ++ records.map (MeasurementRow.mk runId) }
      else .error .unavailable := by
  induction records generalizing tables with
  | nil => simp [pure, Except.pure]
  | cons record records ih =>
    obtain ⟨hrecord, hstart, hend⟩ := hvalid record List.mem_cons_self
    obtain ⟨hfresh, hrest⟩ := List.nodup_cons.mp hnodup
    have hunique : ¬ tables.measurements.any fun row =>
        row.runId = runId ∧ row.measurement.monitorId = record.monitorId := by
      simp only [List.any_eq_true, decide_eq_true_eq, not_exists, not_and]
      intro row hrow hid hmonitor
      exact hnew row hrow hid (by simp [hmonitor])
    rw [List.foldlM_cons]
    by_cases hknown : record.monitorId ∈ tables.monitors
    · have hinsert : insertMeasurement runId tables record = .ok { tables with
          measurements := tables.measurements ++ [⟨runId, record⟩] } := by
        simp only [insertMeasurement, ok_of_bind, ok_of_pure, ensure_eq_ok, context_eq_ok, exists_const]
        exact ⟨run, hrun, hrunning, ⟨hstart, hend⟩, hrecord, hknown, hunique, trivial⟩
      rw [hinsert]
      show records.foldlM (insertMeasurement runId) _ = _
      rw [ih { tables with measurements := tables.measurements ++ [⟨runId, record⟩] } hrun
        (fun r hr => hvalid r (List.mem_cons_of_mem _ hr)) hrest]
      · simp [hknown]
      · intro row hrow hid
        obtain hold | hlast := List.mem_append.mp hrow
        · exact fun hmem => hnew row hold hid (List.mem_cons_of_mem _ hmem)
        · rw [List.mem_singleton.mp hlast]
          exact hfresh
    · have hfail : insertMeasurement runId tables record = .error .unavailable := by
        simp [insertMeasurement, hrun, context, ensure, hrunning, hstart, hend, hrecord, hknown, bind,
          Except.bind]
      rw [hfail, if_neg fun hall => hknown (hall record List.mem_cons_self)]
      rfl

theorem openOzonCollectorCircuit_eq {reason : CircuitReason}
    (hrun : tables.runs.any fun run => run.id = runId ∧ run.status = .running) :
    openOzonCollectorCircuit runId reason now tables = .ok { tables with
      circuit := if tables.circuit.circuitOpen then tables.circuit else {
        circuitOpen := true, openedAt := some now, openedByRunId := some runId, reason := some reason } } := by
  have hvalid : Circuit.Valid {
      circuitOpen := true, openedAt := some now, openedByRunId := some runId, reason := some reason } := by
    refine ⟨?_, .inl ⟨rfl, rfl, rfl, rfl, rfl, rfl⟩⟩
    rintro _ ⟨⟩
  unfold openOzonCollectorCircuit
  rw [ensure, if_pos hrun]
  by_cases hopen : tables.circuit.circuitOpen = true
  · simp [hopen, bind, Except.bind, pure, Except.pure]
  · simp [hopen, bind, Except.bind, pure, Except.pure, ensure, hvalid]

theorem updateRun_append (tables : Tables) {runs : List CollectionRun} {run : CollectionRun}
    {update : CollectionRun → CollectionRun}
    (hold : ∀ old ∈ runs, old.id ≠ run.id) (hupdate : run.MayBecome (update run) ∧ (update run).Valid) :
    updateRun run.id update { tables with runs := runs ++ [run] } =
      .ok { tables with runs := runs ++ [update run] } := by
  have hfilter : ((runs ++ [run]).filter fun other => other.id = run.id) = [run] := by
    rw [List.filter_append, List.filter_eq_nil_iff.mpr fun old h => by simpa using hold old h]
    simp
  have hmap : (runs.map fun other => if other.id = run.id then update other else other) = runs := by
    conv_rhs => rw [← List.map_id runs]
    exact List.map_congr_left fun old h => if_neg (hold old h)
  simp only [updateRun, hfilter, ensure, List.all_cons, List.all_nil, hupdate, List.map_append, hmap]
  simp [bind, Except.bind, pure, Except.pure]

theorem toI32_eq_ok {n : ℕ} (h : n ≤ maxTargetsPerBatch) : toI32 n = .ok n := by
  have hfits : n < 2 ^ 31 := h.trans_lt (by decide)
  rw [toI32, ensure, if_pos hfits]
  rfl

theorem PersistenceBatch.WellFormed.counters_le (h : batch.WellFormed) :
    ∀ n ∈ batch.counters, n ≤ maxTargetsPerBatch := by
  have hmonitors := h.monitors
  have hqueries := h.queries
  simp only [maxTargetsPerBatch, maxQueriesPerBatch] at hmonitors hqueries ⊢
  intro n hn
  simp only [PersistenceBatch.counters, List.mem_cons, List.not_mem_nil, or_false] at hn
  omega

/-- **The rest of a commit** succeeds exactly when the monitors are known. -/
theorem finishInserted_eq (hlength : ∀ bytes, (sha256 bytes).length = 32) (h : batch.WellFormed)
    (hold : ∀ run ∈ tables.runs, run.id ≠ runId) (hrows : ∀ row ∈ tables.measurements, row.runId ≠ runId) :
    finishInserted now runId batch { tables with
      runs := tables.runs ++ [startedRun runId (payloadDigest sha256 batch) batch] } =
      if ∀ measurement ∈ batch.measurements, measurement.monitorId ∈ tables.monitors then
        .ok (.inserted, { tables with
          runs := tables.runs ++ [keptRun sha256 (runId, batch)]
          measurements := tables.measurements ++ keptRows (runId, batch)
          circuit := match batch.circuitReason with
            | some reason => if tables.circuit.circuitOpen then tables.circuit else {
                circuitOpen := true, openedAt := some now, openedByRunId := some runId, reason := some reason }
            | none => tables.circuit })
      else .error .unavailable := by
  set started := startedRun runId (payloadDigest sha256 batch) batch with hstarted
  have hfind : (tables.runs ++ [started]).find? (fun run => run.id = runId) = some started := by
    rw [List.find?_append, List.find?_eq_none.mpr fun run hrun => by simpa using hold run hrun]
    simp [hstarted, startedRun]
  have hslot : batch.scheduledFor % seconds 1 = 0 := (of_decide_eq_true h.slot).2.2
  have hvalid : ∀ record ∈ batch.measurements.map MeasurementRecord.kept,
      MeasurementRow.Valid ⟨runId, record⟩ ∧ started.scheduledFor ≤ record.observedAt ∧
        record.observedAt < started.scheduledFor + slotMicros := by
    intro record hrecord
    obtain ⟨measurement, hmem, rfl⟩ := List.mem_map.mp hrecord
    exact (h.measurements measurement hmem).kept hslot
  have hdistinct :
      ((batch.measurements.map MeasurementRecord.kept).map MeasurementRecord.monitorId).Nodup := by
    rw [List.map_map]
    exact h.distinct
  have hinsert := foldlM_insertMeasurement { tables with runs := tables.runs ++ [started] } hfind rfl hvalid
    hdistinct fun row hrow hid => absurd hid (hrows row hrow)
  have hknown : (∀ record ∈ batch.measurements.map MeasurementRecord.kept,
      record.monitorId ∈ tables.monitors) ↔
      ∀ measurement ∈ batch.measurements, measurement.monitorId ∈ tables.monitors := by
    simp only [List.forall_mem_map]
    rfl
  have hcounters := h.counters_le
  simp only [PersistenceBatch.counters, List.forall_mem_cons] at hcounters
  obtain ⟨-, hattempted, hsucceeded, -, hqattempted, hqsucceeded, -⟩ := hcounters
  have hupdate : started.MayBecome (keptRun sha256 (runId, batch)) ∧ (keptRun sha256 (runId, batch)).Valid :=
    valid_endRun hlength h
  unfold finishInserted
  rw [hinsert]
  by_cases hall : ∀ measurement ∈ batch.measurements, measurement.monitorId ∈ tables.monitors
  · rw [if_pos (hknown.mpr hall), if_pos hall]
    have hany : (tables.runs ++ [started]).any fun run => run.id = runId ∧ run.status = .running := by
      simp [hstarted, startedRun]
    have hends : ∀ (rows : List MeasurementRow) (circuit : Circuit), updateRun runId (endRun batch)
        ⟨tables.monitors, tables.runs ++ [started], rows, circuit, tables.budgets, tables.usage⟩ =
        .ok ⟨tables.monitors, tables.runs ++ [keptRun sha256 (runId, batch)], rows, circuit, tables.budgets,
          tables.usage⟩ := fun rows circuit =>
      updateRun_append { tables with measurements := rows, circuit } hold hupdate
    simp only [bind, Except.bind, toI32_eq_ok hattempted, toI32_eq_ok hsucceeded, toI32_eq_ok hqattempted,
      toI32_eq_ok hqsucceeded]
    cases hreason : batch.circuitReason with
    | none =>
      dsimp only
      rw [hends]
      rfl
    | some reason =>
      dsimp only
      rw [openOzonCollectorCircuit_eq hany]
      dsimp only
      rw [hends]
      rfl
  · rw [if_neg (hknown.not.mpr hall), if_neg hall]
    rfl

theorem insertRun_eq (hlength : ∀ bytes, (sha256 bytes).length = 32) (h : batch.WellFormed) :
    insertRun (startedRun runId (payloadDigest sha256 batch) batch) tables =
      .ok (if tables.runs.any fun run => run.scheduledFor = timestampMicros batch.scheduledFor then none
        else some { tables with
          runs := tables.runs ++ [startedRun runId (payloadDigest sha256 batch) batch] }) := by
  obtain ⟨hstarts, hvalid⟩ : (startedRun runId (payloadDigest sha256 batch) batch).Starts ∧
      (startedRun runId (payloadDigest sha256 batch) batch).Valid := valid_startedRun hlength h
  rw [insertRun, ensure, if_pos hstarts, ensure, if_pos hvalid]
  show (if (tables.runs.any fun run => run.scheduledFor = timestampMicros batch.scheduledFor) = true then
    pure none else pure (some _)) = _
  split_ifs <;> rfl

/-- **The transaction of a payload**: its slot is taken, or the rest of the commit decides. -/
theorem persistInner_eq (hlength : ∀ bytes, (sha256 bytes).length = 32) (h : batch.WellFormed) :
    persistInner sha256 now runId batch tables =
      if tables.runs.any fun run => run.scheduledFor = timestampMicros batch.scheduledFor then
        finishExisting (timestampMicros batch.scheduledFor) (payloadDigest sha256 batch) tables
      else finishInserted now runId batch { tables with
        runs := tables.runs ++ [startedRun runId (payloadDigest sha256 batch) batch] } := by
  have hcounters := h.counters_le
  simp only [PersistenceBatch.counters, List.forall_mem_cons] at hcounters
  obtain ⟨hplanned, -, -, hqplanned, -⟩ := hcounters
  simp only [persistInner, toI32_eq_ok hplanned, toI32_eq_ok hqplanned, insertRun_eq hlength h, bind,
    Except.bind]
  split_ifs <;> rfl

end Rows

/-! ## Refinement -/

section Refinement

variable {sha256 : Bytes → Bytes} {batch : PersistenceBatch} {now : ℤ} {db : Database} {archive : Archive}

theorem find?_keptRun {entries : List (ℕ × PersistenceBatch)} (h : batch.WellFormed)
    (hentries : ∀ entry ∈ entries, entry.2.WellFormed) :
    (entries.map (keptRun sha256)).find? (fun run => run.scheduledFor = timestampMicros batch.scheduledFor) =
      (entries.find? fun entry => entry.2.scheduledFor = batch.scheduledFor).map (keptRun sha256) := by
  rw [List.find?_map]
  congr 1
  refine List.find?_congr fun entry hentry => ?_
  exact decide_eq_decide.mpr ((hentries entry hentry).scheduledFor_eq_iff h)

theorem Refines.skip (hrefines : Refines sha256 db archive) :
    Refines sha256 { db with nextRunId := db.nextRunId + 1 } archive := by
  obtain ⟨entries, hbatches, hids, hfresh, hruns, hrows⟩ := hrefines.rows
  exact ⟨hrefines.monitors, ⟨entries, hbatches, hids, fun entry hentry =>
    (hfresh entry hentry).trans (Nat.lt_succ_self _), hruns, hrows⟩, hrefines.collectable, hrefines.slots⟩

/-- The rows of a payload of a free slot are appended. -/
theorem Refines.insert (hrefines : Refines sha256 db archive) (h : batch.Collectable)
    (hfree : ∀ old ∈ archive.batches, old.scheduledFor ≠ batch.scheduledFor) (circuit : Circuit) :
    Refines sha256
      { tables := { db.tables with
          runs := db.tables.runs ++ [keptRun sha256 (db.nextRunId, batch)]
          measurements := db.tables.measurements ++ keptRows (db.nextRunId, batch)
          circuit }
        nextRunId := db.nextRunId + 1 }
      { archive with batches := archive.batches ++ [batch] } := by
  obtain ⟨entries, hbatches, hids, hfresh, hruns, hrows⟩ := hrefines.rows
  refine ⟨hrefines.monitors, ⟨entries ++ [(db.nextRunId, batch)], ?_, ?_, ?_, ?_, ?_⟩, ?_, ?_⟩
  · rw [List.map_append, hbatches]
    rfl
  · rw [List.map_append, List.pairwise_append]
    refine ⟨hids, List.pairwise_singleton _ _, fun id hid other hother => ?_⟩
    obtain ⟨entry, hentry, rfl⟩ := List.mem_map.mp hid
    rw [List.mem_singleton.mp hother]
    exact hfresh entry hentry
  · intro entry hentry
    obtain hentry | hentry := List.mem_append.mp hentry
    · exact (hfresh entry hentry).trans (Nat.lt_succ_self _)
    · rw [List.mem_singleton.mp hentry]
      exact Nat.lt_succ_self _
  · rw [List.map_append, ← hruns]
    rfl
  · rw [List.flatMap_append, ← hrows, List.flatMap_singleton]
  · intro old hold
    obtain hold | hold := List.mem_append.mp hold
    · exact hrefines.collectable old hold
    · exact List.mem_singleton.mp hold ▸ h
  · rw [List.map_append, List.nodup_append]
    refine ⟨hrefines.slots, List.nodup_singleton _, fun slot hslot other hother => ?_⟩
    rw [List.map_singleton, List.mem_singleton] at hother
    obtain ⟨old, hold, rfl⟩ := List.mem_map.mp hslot
    rw [hother]
    exact hfree old hold

theorem Refines.find?_runs (hrefines : Refines sha256 db archive) (h : batch.WellFormed) :
    ∃ entry : Option (ℕ × PersistenceBatch),
      db.tables.runs.find? (fun run => run.scheduledFor = timestampMicros batch.scheduledFor) =
        entry.map (keptRun sha256) ∧
      archive.batches.find? (fun old => old.scheduledFor = batch.scheduledFor) = entry.map Prod.snd := by
  obtain ⟨entries, hbatches, -, -, hruns, -⟩ := hrefines.rows
  refine ⟨entries.find? fun entry => entry.2.scheduledFor = batch.scheduledFor, ?_, ?_⟩
  · rw [hruns]
    exact find?_keptRun h fun entry hentry =>
      (hrefines.collectable _ (hbatches ▸ List.mem_map_of_mem hentry)).wellFormed
  · rw [← hbatches, List.find?_map]
    rfl

/-- A taken slot answers by the payload that was kept for it. -/
theorem finishExisting_eq (h : batch.Collectable) {entry : ℕ × PersistenceBatch}
    (hentry : entry.2.Collectable)
    (hcollision : sha256 (payloadBytes entry.2) = sha256 (payloadBytes batch) →
      payloadBytes entry.2 = payloadBytes batch) {tables : Tables}
    (hfind : tables.runs.find? (fun run => run.scheduledFor = timestampMicros batch.scheduledFor) =
      some (keptRun sha256 entry)) :
    finishExisting (timestampMicros batch.scheduledFor) (payloadDigest sha256 batch) tables =
      if entry.2.kept = batch.kept then .ok (.alreadyExists, tables) else .error .slotConflict := by
  have hsame : payloadDigest sha256 entry.2 = payloadDigest sha256 batch ↔ entry.2.kept = batch.kept :=
    (payload_digest_identifies sha256 hentry h hcollision).1
  have hdigest : (some (keptRun sha256 entry)).any
      (fun run => run.payloadDigest = payloadDigest sha256 batch) = true ↔ entry.2.kept = batch.kept := by
    rw [← hsame]
    exact decide_eq_true_iff
  rw [finishExisting, hfind, ensure]
  by_cases hkept : entry.2.kept = batch.kept
  · rw [if_pos (hdigest.mpr hkept), if_pos hkept]
    rfl
  · rw [if_neg (hdigest.not.mpr hkept), if_neg hkept]
    rfl

theorem Refines.fresh (hrefines : Refines sha256 db archive) :
    (∀ run ∈ db.tables.runs, run.id ≠ db.nextRunId) ∧
      ∀ row ∈ db.tables.measurements, row.runId ≠ db.nextRunId := by
  obtain ⟨entries, -, -, hfresh, hruns, hrows⟩ := hrefines.rows
  rw [hruns, hrows, List.forall_mem_map]
  refine ⟨fun entry hentry => (hfresh entry hentry).ne, fun row hrow => ?_⟩
  obtain ⟨entry, hentry, hrow⟩ := List.mem_flatMap.mp hrow
  obtain ⟨record, -, rfl⟩ := List.mem_map.mp hrow
  exact (hfresh entry hentry).ne

/-- **One commit.** -/
theorem Refines.persist (hlength : ∀ bytes, (sha256 bytes).length = 32) (hrefines : Refines sha256 db archive)
    (h : batch.Collectable) (hcollision : ∀ old ∈ archive.batches,
      sha256 (payloadBytes old) = sha256 (payloadBytes batch) → payloadBytes old = payloadBytes batch) :
    (db.step sha256 (.persist now batch)).1 = .persisted (archive.persist batch).1 ∧
      Refines sha256 (db.step sha256 (.persist now batch)).2 (archive.persist batch).2 ∧
      db.Grows (db.step sha256 (.persist now batch)).2 := by
  obtain ⟨entry, hfind, hold⟩ := hrefines.find?_runs h.wellFormed
  have hany : (db.tables.runs.any fun run =>
      run.scheduledFor = timestampMicros batch.scheduledFor) = entry.isSome := by
    rw [Bool.eq_iff_iff, List.any_eq_true, ← List.find?_isSome, hfind, Option.isSome_map]
  rw [Database.step, persistInner_eq hlength h.wellFormed, Archive.persist, hold, hany]
  cases entry with
  | some entry =>
    -- the slot is taken, and the digests tell whether by this payload
    have hmem : entry.2 ∈ archive.batches := List.mem_of_find?_eq_some hold
    rw [if_pos Option.isSome_some, finishExisting_eq h (hrefines.collectable _ hmem) (hcollision _ hmem) hfind]
    by_cases hkept : entry.2.kept = batch.kept
    · rw [if_pos hkept]
      exact ⟨by simp [hkept], hrefines.skip, List.prefix_rfl, List.prefix_rfl⟩
    · rw [if_neg hkept]
      exact ⟨by simp [hkept], hrefines.skip, List.prefix_rfl, List.prefix_rfl⟩
  | none =>
    have hfree : ∀ old ∈ archive.batches, old.scheduledFor ≠ batch.scheduledFor := fun old hmem hsame =>
      List.find?_eq_none.mp hold old hmem (decide_eq_true hsame)
    obtain ⟨hruns, hrows⟩ := hrefines.fresh
    rw [Option.isSome_none, if_neg Bool.false_ne_true, finishInserted_eq hlength h.wellFormed hruns hrows]
    by_cases hknown : ∀ measurement ∈ batch.measurements, measurement.monitorId ∈ db.tables.monitors
    · rw [if_pos hknown]
      rw [hrefines.monitors] at hknown
      simp only [Option.map_none, if_pos hknown]
      exact ⟨trivial, hrefines.insert h hfree _, List.prefix_append _ _, List.prefix_append _ _⟩
    · rw [if_neg hknown]
      rw [hrefines.monitors] at hknown
      simp only [Option.map_none, if_neg hknown]
      exact ⟨trivial, hrefines.skip, List.prefix_rfl, List.prefix_rfl⟩

theorem Refines.frame (hrefines : Refines sha256 db archive) (circuit : Circuit)
    (budgets : String → Option RegionBudget) (usage : ℤ × String → ℕ) :
    Refines sha256 { db with tables := { db.tables with circuit, budgets, usage } } archive ∧
      db.Grows { db with tables := { db.tables with circuit, budgets, usage } } :=
  ⟨⟨hrefines.monitors, hrefines.rows, hrefines.collectable, hrefines.slots⟩, List.prefix_rfl, List.prefix_rfl⟩

/-- A claim counts a request and changes nothing else. -/
theorem claim_tables (region : Option String) (slot : Option ℤ) (tables : Tables) :
    ∃ usage, (claimOzonRequestBudget region slot tables).2 = { tables with usage } := by
  unfold claimOzonRequestBudget
  dsimp only
  repeat' split
  all_goals exact ⟨_, rfl⟩

theorem resetCircuit_tables (resetAt : ℤ) (resetBy : String) (tables : Tables) :
    ∃ circuit, (resetCircuit resetAt resetBy tables).2 = { tables with circuit } := by
  unfold resetCircuit
  dsimp only
  split_ifs
  all_goals exact ⟨_, rfl⟩

theorem setBudget_tables (region : String) (budget : RegionBudget) (tables : Tables) :
    ∃ budgets, (setBudget region budget tables).2 = { tables with budgets } := by
  unfold setBudget
  split_ifs
  all_goals exact ⟨_, rfl⟩

/-- **One operation.** -/
theorem Refines.step (hlength : ∀ bytes, (sha256 bytes).length = 32) (hrefines : Refines sha256 db archive)
    {operation : Operation} (hcollectable : ∀ batch ∈ payloadsOf [operation], batch.Collectable)
    (hcollision : ∀ batch ∈ payloadsOf [operation], ∀ old ∈ archive.batches,
      sha256 (payloadBytes old) = sha256 (payloadBytes batch) → payloadBytes old = payloadBytes batch) :
    (db.step sha256 operation).1.persistResult = (archive.step operation).1 ∧
      Refines sha256 (db.step sha256 operation).2 (archive.step operation).2 ∧
      db.Grows (db.step sha256 operation).2 := by
  cases operation with
  | persist now batch =>
    obtain ⟨hanswer, hnext⟩ : (db.step sha256 (.persist now batch)).1 = .persisted (archive.persist batch).1 ∧
        Refines sha256 (db.step sha256 (.persist now batch)).2 (archive.persist batch).2 ∧
        db.Grows (db.step sha256 (.persist now batch)).2 :=
      hrefines.persist hlength (hcollectable batch (by simp [payloadsOf]))
        (hcollision batch (by simp [payloadsOf]))
    rw [hanswer]
    exact ⟨rfl, hnext⟩
  | claim region slot =>
    obtain ⟨usage, htables⟩ := claim_tables region slot db.tables
    have hstep : (db.step sha256 (.claim region slot)).2 = { db with tables := { db.tables with usage } } :=
      congrArg (fun tables => { db with tables }) htables
    rw [hstep]
    exact ⟨rfl, hrefines.frame _ _ _⟩
  | resetCircuit resetAt resetBy =>
    obtain ⟨circuit, htables⟩ := resetCircuit_tables resetAt resetBy db.tables
    have hstep : (db.step sha256 (.resetCircuit resetAt resetBy)).2 =
        { db with tables := { db.tables with circuit } } :=
      congrArg (fun tables => { db with tables }) htables
    rw [hstep]
    exact ⟨rfl, hrefines.frame _ _ _⟩
  | setBudget region budget =>
    obtain ⟨budgets, htables⟩ := setBudget_tables region budget db.tables
    have hstep : (db.step sha256 (.setBudget region budget)).2 =
        { db with tables := { db.tables with budgets } } :=
      congrArg (fun tables => { db with tables }) htables
    rw [hstep]
    exact ⟨rfl, hrefines.frame _ _ _⟩
  | addMonitor id =>
    obtain ⟨entries, hbatches, hids, hfresh, hruns, hrows⟩ := hrefines.rows
    exact ⟨rfl, ⟨congrArg (id :: ·) hrefines.monitors, ⟨entries, hbatches, hids, hfresh, hruns, hrows⟩,
      hrefines.collectable, hrefines.slots⟩, List.prefix_rfl, List.prefix_rfl⟩

theorem batches_step (archive : Archive) (operation : Operation) :
    (archive.step operation).2.batches = archive.batches ∨
      ∃ batch ∈ payloadsOf [operation], (archive.step operation).2.batches = archive.batches ++ [batch] := by
  cases operation with
  | persist now batch =>
    have hstep : (archive.step (.persist now batch)).2 = (archive.persist batch).2 := rfl
    rw [hstep, Archive.persist]
    split
    · exact .inl rfl
    · split_ifs
      · exact .inr ⟨batch, by simp [payloadsOf], rfl⟩
      · exact .inl rfl
  | claim region slot => exact .inl rfl
  | resetCircuit resetAt resetBy => exact .inl rfl
  | setBudget region budget => exact .inl rfl
  | addMonitor id => exact .inl rfl

theorem payloadsOf_cons (operation : Operation) (operations : List Operation) :
    payloadsOf (operation :: operations) = payloadsOf [operation] ++ payloadsOf operations := by
  rw [payloadsOf, ← List.singleton_append, List.filterMap_append]
  rfl

theorem Database.Grows.trans {db db' db'' : Database} (h : db.Grows db') (h' : db'.Grows db'') :
    db.Grows db'' :=
  ⟨h.1.trans h'.1, h.2.trans h'.2⟩

/-- **A run** of operations gives the answers of the archive, and what was kept stays. -/
theorem Refines.run (hlength : ∀ bytes, (sha256 bytes).length = 32) (hrefines : Refines sha256 db archive)
    {operations : List Operation} (hcollectable : ∀ batch ∈ payloadsOf operations, batch.Collectable)
    (hcollision : ∀ batch ∈ payloadsOf operations, ∀ old ∈ archive.batches ++ payloadsOf operations,
      sha256 (payloadBytes old) = sha256 (payloadBytes batch) → payloadBytes old = payloadBytes batch) :
    (db.run sha256 operations).1.filterMap Answer.persistResult = (archive.run operations).1 ∧
      Refines sha256 (db.run sha256 operations).2 (archive.run operations).2 ∧
      db.Grows (db.run sha256 operations).2 := by
  induction operations generalizing db archive with
  | nil => exact ⟨rfl, hrefines, List.prefix_rfl, List.prefix_rfl⟩
  | cons operation operations ih =>
    rw [payloadsOf_cons] at hcollectable hcollision
    obtain ⟨hanswer, hnext, hgrows⟩ := hrefines.step hlength
      (fun batch hbatch => hcollectable batch (List.mem_append_left _ hbatch))
      fun batch hbatch old hold => hcollision batch (List.mem_append_left _ hbatch) old
        (List.mem_append_left _ hold)
    have hbatches : ∀ old ∈ (archive.step operation).2.batches,
        old ∈ archive.batches ++ payloadsOf [operation] := by
      obtain hsame | ⟨batch, hbatch, hgrown⟩ := batches_step archive operation
      · rw [hsame]
        exact fun old hold => List.mem_append_left _ hold
      · rw [hgrown]
        intro old hold
        obtain hold | hold := List.mem_append.mp hold
        · exact List.mem_append_left _ hold
        · exact List.mem_append_right _ (List.mem_singleton.mp hold ▸ hbatch)
    obtain ⟨hanswers, hfinal, hrest⟩ := ih hnext
      (fun batch hbatch => hcollectable batch (List.mem_append_right _ hbatch))
      fun batch hbatch old hold => by
        refine hcollision batch (List.mem_append_right _ hbatch) old ?_
        rw [← List.append_assoc, List.mem_append]
        exact (List.mem_append.mp hold).imp_left (hbatches old)
    refine ⟨?_, hfinal, hgrows.trans hrest⟩
    show ((db.step sha256 operation).1 :: ((db.step sha256 operation).2.run sha256 operations).1).filterMap
      Answer.persistResult = (archive.step operation).1.toList ++ _
    rw [List.filterMap_cons, hanswer, hanswers]
    cases (archive.step operation).1 <;> rfl

theorem Database.run_append (db : Database) (before after : List Operation) :
    (db.run sha256 (before ++ after)).2 = ((db.run sha256 before).2.run sha256 after).2 := by
  induction before generalizing db with
  | nil => rfl
  | cons operation before ih => exact ih _

theorem Archive.run_append (archive : Archive) (before after : List Operation) :
    (archive.run (before ++ after)).2 = ((archive.run before).2.run after).2 := by
  induction before generalizing archive with
  | nil => rfl
  | cons operation before ih => exact ih _

/-- Every payload of an archive was sent. -/
theorem mem_batches_run {operations : List Operation} {old : PersistenceBatch}
    (hold : old ∈ (archive.run operations).2.batches) : old ∈ archive.batches ++ payloadsOf operations := by
  induction operations generalizing archive with
  | nil => exact List.mem_append_left _ hold
  | cons operation operations ih =>
    rw [payloadsOf_cons, ← List.append_assoc]
    obtain hstep | hrest := List.mem_append.mp (ih hold)
    · refine List.mem_append_left _ ?_
      obtain hsame | ⟨batch, hbatch, hgrown⟩ := batches_step archive operation
      · exact List.mem_append_left _ (hsame ▸ hstep)
      · rw [hgrown, List.mem_append, List.mem_singleton] at hstep
        obtain hstep | rfl := hstep
        · exact List.mem_append_left _ hstep
        · exact List.mem_append_right _ hbatch
    · exact List.mem_append_right _ hrest

/-- **The database is the archive.** For every run of commits, claims and operators' actions from empty
tables, unless the hash collides on the payloads sent, the commits answer as those of the archive do, the
tables hold exactly the payloads of the archive (one ended run for each slot), and rows once written stay. -/
theorem position_store_refines {sha256 : Bytes → Bytes} (hlength : ∀ bytes, (sha256 bytes).length = 32)
    {operations : List Operation} (hcollectable : ∀ batch ∈ payloadsOf operations, batch.Collectable)
    (hcollision : Set.InjOn sha256 {bytes | ∃ batch ∈ payloadsOf operations, payloadBytes batch = bytes}) :
    ((Database.run sha256 {} operations).1.filterMap Answer.persistResult = (Archive.run {} operations).1 ∧
      Refines sha256 (Database.run sha256 {} operations).2 (Archive.run {} operations).2) ∧
    ∀ before after, operations = before ++ after →
      (Database.run sha256 {} before).2.Grows (Database.run sha256 {} operations).2 := by
  have hempty : Refines sha256 {} {} :=
    ⟨rfl, ⟨[], rfl, List.Pairwise.nil, by simp, rfl, rfl⟩, by simp, List.nodup_nil⟩
  have hsame : ∀ batch ∈ payloadsOf operations, ∀ old ∈ payloadsOf operations,
      sha256 (payloadBytes old) = sha256 (payloadBytes batch) → payloadBytes old = payloadBytes batch :=
    fun batch hbatch old hold => hcollision ⟨old, hold, rfl⟩ ⟨batch, hbatch, rfl⟩
  obtain ⟨hanswers, hfinal, -⟩ := hempty.run hlength hcollectable hsame
  refine ⟨⟨hanswers, hfinal⟩, ?_⟩
  rintro before after rfl
  have hsplit : payloadsOf (before ++ after) = payloadsOf before ++ payloadsOf after := List.filterMap_append
  rw [hsplit] at hcollectable hsame
  obtain ⟨-, hmiddle, -⟩ := hempty.run hlength
    (fun batch hbatch => hcollectable batch (List.mem_append_left _ hbatch))
    fun batch hbatch old hold => hsame batch (List.mem_append_left _ hbatch) old (List.mem_append_left _ hold)
  obtain ⟨-, -, hgrows⟩ := hmiddle.run hlength
    (fun batch hbatch => hcollectable batch (List.mem_append_right _ hbatch))
    fun batch hbatch old hold => by
      refine hsame batch (List.mem_append_right _ hbatch) old ?_
      obtain hold | hold := List.mem_append.mp hold
      · exact List.mem_append_left _ (mem_batches_run hold)
      · exact List.mem_append_right _ hold
  rw [Database.run_append]
  exact hgrows

end Refinement

/-! ## A slot that is sent three times -/

/-- The monitors are known, a payload is sent twice and another one of its slot once. -/
def penOperations : List Operation :=
  [.addMonitor 1, .addMonitor 2] ++
    ([penSlot + seconds 420, penSlot + seconds 420, penSlot + seconds 421].filterMap penBatch).map (.persist 0)

theorem position_store_refines_pen :
    (Database.run byteSums {} penOperations).1.filterMap Answer.persistResult =
      [.ok .inserted, .ok .alreadyExists, .error .slotConflict] ∧
    Refines byteSums (Database.run byteSums {} penOperations).2 (Archive.run {} penOperations).2 := by
  have hlength : ∀ bytes, (byteSums bytes).length = 32 := fun bytes => by
    rw [byteSums, List.length_map, List.length_range]
  have hpayloads : ∀ batch ∈ payloadsOf penOperations,
      penBatch (penSlot + seconds 420) = some batch ∨ penBatch (penSlot + seconds 421) = some batch := by
    intro batch hbatch
    simp only [payloadsOf, penOperations, List.filterMap_append, List.mem_append, List.mem_filterMap,
      List.mem_map] at hbatch
    obtain ⟨operation, hmem, hbatch⟩ | ⟨_, ⟨sent, ⟨finishedAt, hmem, hsent⟩, rfl⟩, hbatch⟩ := hbatch
    · simp only [List.mem_cons, List.not_mem_nil, or_false] at hmem
      obtain rfl | rfl := hmem <;> cases hbatch
    · cases hbatch
      simp only [List.mem_cons, List.not_mem_nil, or_false] at hmem
      obtain rfl | rfl | rfl := hmem
      · exact .inl hsent
      · exact .inl hsent
      · exact .inr hsent
  have hsums : (penBatch (penSlot + seconds 420)).map (fun batch => byteSums (payloadBytes batch)) ≠
      (penBatch (penSlot + seconds 421)).map fun batch => byteSums (payloadBytes batch) := by
    decide +kernel
  have hcollision : Set.InjOn byteSums
      {bytes | ∃ batch ∈ payloadsOf penOperations, payloadBytes batch = bytes} := by
    rintro _ ⟨batch, hbatch, rfl⟩ _ ⟨batch', hbatch', rfl⟩ hsame
    have hdiffer : ∀ batch batch', penBatch (penSlot + seconds 420) = some batch →
        penBatch (penSlot + seconds 421) = some batch' →
        byteSums (payloadBytes batch) ≠ byteSums (payloadBytes batch') := by
      intro batch batch' h h' hsame
      rw [h, h'] at hsums
      exact hsums (congrArg some hsame)
    obtain h | h := hpayloads batch hbatch <;> obtain h' | h' := hpayloads batch' hbatch'
    · rw [Option.some.inj (h.symm.trans h')]
    · exact absurd hsame (hdiffer _ _ h h')
    · exact absurd hsame.symm (hdiffer _ _ h' h)
    · rw [Option.some.inj (h.symm.trans h')]
  have hcollectable : ∀ batch ∈ payloadsOf penOperations, batch.Collectable := fun batch hbatch =>
    (hpayloads batch hbatch).elim collectable_penBatch collectable_penBatch
  obtain ⟨⟨hanswers, hrefines⟩, -⟩ := position_store_refines hlength hcollectable hcollision
  have harchive : (Archive.run {} penOperations).1 =
      [.ok .inserted, .ok .alreadyExists, .error .slotConflict] := by
    decide +kernel
  exact ⟨hanswers.trans harchive, hrefines⟩

end AdsControl.Position
