import AdsControl.Lib.Run
import AdsControl.Reporting.OutboxProtocol

/-!
# Planning again

Due deliveries are reserved in the outbox one after another, while the batches there are go through their
life. A call looks at every key that is reserved for its recipient, version and date, so its answer depends on
the sibling report: a morning report repeated after the evening report was planned is a competing occurrence.

* `PlanStep`, `planning`: a call with a due delivery, or any other transaction, and the runs of them;
* `PlanInv`: reserved keys are distinct and belong to a batch;
* **`planning_answers`**: what a call answers after any run, and that reserved keys stay with their batch.
-/

namespace AdsControl.Reporting.Outbox

open Fallible Transition

/-! ## Runs -/

/-- A key is covered by a batch. -/
def Reserved (db : OutboxDatabase) (key : ReportKey) : Prop := ∃ row ∈ db.coverage, row.key = key

/-- A call with a due delivery, or another transaction, which keeps the coverage and the batches there are. -/
inductive PlanStep (db : OutboxDatabase) : OutboxDatabase → Prop
  | plan {now : ℤ} {recipientId : String} {reportVersion : ℕ} {sent : List ReportKey}
      {deliveries : List PendingDelivery} {delivery : PendingDelivery} {nextId : ℕ} {db' : OutboxDatabase}
      {outcome : CreateOutcome} (hdue : dueDeliveries now recipientId reportVersion sent = .ok deliveries)
      (hmem : delivery ∈ deliveries) (hcall : createPlanned db nextId delivery = .ok (db', outcome)) :
      PlanStep db db'
  | other {db' : OutboxDatabase} (hcoverage : db'.coverage = db.coverage)
      (hbatches : ∀ batchId, db.batches batchId ≠ none → db'.batches batchId ≠ none) : PlanStep db db'

/-- The outbox starts empty. -/
def planning : System OutboxDatabase where
  init db := (∀ batchId, db.batches batchId = none) ∧ db.coverage = []
  step := PlanStep

/-! ## The answers of a call -/

/-- The same report at the other hour. -/
def ReportKey.sibling (key : ReportKey) : ReportKey :=
  { key with kind := if key.kind = .morning then .evening else .morning }

/-- The rows a call looks at. -/
def related (db : OutboxDatabase) (key : ReportKey) : List CoverageRow :=
  db.coverage.filter fun row => row.key.recipientId == key.recipientId &&
    row.key.reportVersion == key.reportVersion && row.key.localDate == key.localDate

/-- The call with a due delivery, by the rows it looks at. -/
def answerPlanned (db : OutboxDatabase) (nextId : ℕ) (key : ReportKey) (record : DeliveryRecord) :
    List CoverageRow → Except PostgresOutboxError (OutboxDatabase × CreateOutcome)
  | [] => insertPlanned db nextId key record
  | row :: rows =>
    let kinds := ((row :: rows).map fun row => row.key.kind).toFinset
    if (∀ other ∈ row :: rows, other.batchId = row.batchId) ∧ kinds = {key.kind} then
      .ok (db, .existing row.batchId)
    else do
      ensure (Disjoint kinds {key.kind}) .conflict
      insertPlanned db nextId key record

section Answers

variable {db : OutboxDatabase} {delivery : PendingDelivery} {key : ReportKey} {nextId : ℕ}
  {record : DeliveryRecord}

theorem createPlanned_due (hplanned : DeliveryRecord.planned delivery = .ok record)
    (hkeys : record.coveredKeys = [key]) (hversion : key.reportVersion < 2 ^ 31) :
    createPlanned db nextId delivery = answerPlanned db nextId key record (related db key) := by
  have hrelated : db.coverage.filter (fun row => row.key.recipientId == key.recipientId &&
    row.key.reportVersion == key.reportVersion && row.key.localDate == key.localDate) = related db key := rfl
  simp only [createPlanned, hplanned, Except.mapError, bind, Except.bind, hkeys, List.head?_cons, context, ensure,
    if_pos hversion, hrelated]
  cases related db key with
  | nil => rfl
  | cons row rows => rfl

theorem mem_related {row : CoverageRow} :
    row ∈ related db key ↔ row ∈ db.coverage ∧ (row.key = key ∨ row.key = ReportKey.sibling key) := by
  obtain ⟨batchId, ⟨date, kind, recipient, version⟩, deadlineAt⟩ := row
  obtain ⟨date', kind', recipient', version'⟩ := key
  cases kind <;> cases kind' <;> simp [related, ReportKey.sibling] <;> tauto

theorem reserved_iff : Reserved db key ↔ key ∈ db.coverage.map CoverageRow.key := by
  rw [List.mem_map]
  rfl

theorem ReportKey.sibling_kind (key : ReportKey) : (ReportKey.sibling key).kind ≠ key.kind := by
  cases h : key.kind <;> simp [ReportKey.sibling, h]

theorem mem_kinds (key : ReportKey) :
    key.kind ∈ ((related db key).map fun row => row.key.kind).toFinset ↔ Reserved db key := by
  simp only [List.mem_toFinset, List.mem_map, mem_related]
  constructor
  · rintro ⟨row, ⟨hrow, hkey | hkey⟩, hkind⟩
    · exact ⟨row, hrow, hkey⟩
    · rw [hkey] at hkind
      exact absurd hkind (ReportKey.sibling_kind key)
  · rintro ⟨row, hrow, hkey⟩
    exact ⟨row, ⟨hrow, .inl hkey⟩, congrArg ReportKey.kind hkey⟩

/-- **Only this key is reserved**: the call finds its batch. -/
theorem answer_existing (hkeys : (db.coverage.map CoverageRow.key).Nodup) {row : CoverageRow}
    (hrow : row ∈ db.coverage) (hkey : row.key = key) (hsibling : ¬ Reserved db (ReportKey.sibling key)) :
    answerPlanned db nextId key record (related db key) = .ok (db, .existing row.batchId) := by
  have hall : ∀ other ∈ related db key, other = row := by
    intro other hother
    obtain ⟨hmem, heq | heq⟩ := mem_related.mp hother
    · exact List.inj_on_of_nodup_map hkeys hmem hrow (heq.trans hkey.symm)
    · exact absurd ⟨other, hmem, heq⟩ hsibling
  have hmem : row ∈ related db key := mem_related.mpr ⟨hrow, .inl hkey⟩
  cases hrelated : related db key with
  | nil => rw [hrelated] at hmem; cases hmem
  | cons first rest =>
    rw [hrelated] at hall
    obtain ⟨rfl, hrest⟩ := List.forall_mem_cons.mp hall
    have hbatch : ∀ other ∈ first :: rest, other.batchId = first.batchId := fun other hother => by
      rw [hall other hother]
    have hkinds : ((first :: rest).map fun row => row.key.kind).toFinset = {key.kind} := by
      ext kind
      simp only [List.mem_toFinset, List.mem_map, Finset.mem_singleton]
      constructor
      · rintro ⟨other, hother, rfl⟩
        rw [hall other hother, hkey]
      · rintro rfl
        exact ⟨first, List.mem_cons_self, congrArg ReportKey.kind hkey⟩
    exact if_pos ⟨hbatch, hkinds⟩

/-- **Its sibling is reserved too**: the call is refused. -/
theorem answer_conflict (hkey : Reserved db key) (hsibling : Reserved db (ReportKey.sibling key)) :
    answerPlanned db nextId key record (related db key) = .error .conflict := by
  have hkind := (mem_kinds key).mpr hkey
  have hother : (ReportKey.sibling key).kind ∈ ((related db key).map fun row => row.key.kind).toFinset := by
    obtain ⟨row, hrow, heq⟩ := hsibling
    rw [List.mem_toFinset]
    exact List.mem_map.mpr ⟨row, mem_related.mpr ⟨hrow, .inr heq⟩, congrArg ReportKey.kind heq⟩
  cases hrelated : related db key with
  | nil => rw [hrelated] at hkind; simp at hkind
  | cons row rows =>
    rw [hrelated] at hkind hother
    have hne : ((row :: rows).map fun row => row.key.kind).toFinset ≠ {key.kind} := by
      intro heq
      rw [heq, Finset.mem_singleton] at hother
      exact ReportKey.sibling_kind key hother
    have hmeet : ¬ Disjoint ((row :: rows).map fun row => row.key.kind).toFinset {key.kind} := by
      rwa [Finset.disjoint_singleton_right, not_not]
    rw [answerPlanned, if_neg fun h => hne h.2, ensure, if_neg hmeet]
    rfl

/-- **The key is new**: a batch is inserted. -/
theorem answer_new (hkey : ¬ Reserved db key) :
    answerPlanned db nextId key record (related db key) = insertPlanned db nextId key record := by
  have hkind := (mem_kinds key).not.mpr hkey
  cases hrelated : related db key with
  | nil => rfl
  | cons row rows =>
    rw [hrelated] at hkind
    have hne : ((row :: rows).map fun row => row.key.kind).toFinset ≠ {key.kind} := by
      intro heq
      rw [heq] at hkind
      exact hkind (Finset.mem_singleton_self _)
    have hapart : Disjoint ((row :: rows).map fun row => row.key.kind).toFinset {key.kind} :=
      Finset.disjoint_singleton_right.mpr hkind
    rw [answerPlanned, if_neg fun h => hne h.2, ensure, if_pos hapart]
    rfl

/-- The outbox after the insertion. -/
def withPlanned (db : OutboxDatabase) (nextId : ℕ) (key : ReportKey) (record : DeliveryRecord) (deadlineAt : ℤ) :
    OutboxDatabase :=
  { db.putBatch nextId (plannedRow key.recipientId key.reportVersion record) with
    coverage := db.coverage ++ [⟨nextId, key, deadlineAt⟩] }

theorem insertPlanned_eq {deadlineAt : ℤ} (hkeys : record.coveredKeys = [key])
    (hdeadline : record.deadlineAt = .ok deadlineAt) (hfree : db.batches nextId = none)
    (hkey : ¬ Reserved db key) :
    insertPlanned db nextId key record = .ok (withPlanned db nextId key record deadlineAt, .inserted nextId) := by
  rw [reserved_iff] at hkey
  simp only [insertPlanned, hdeadline, hkeys, List.foldlM_cons, List.foldlM_nil, ok_of_bind, ok_of_mapError,
    ensure_eq_ok, insertCoverage, ok_of_pure]
  exact ⟨_, rfl, (), hfree, _, ⟨_, ⟨(), hkey, rfl⟩, rfl⟩, rfl⟩

end Answers

/-! ## What a run keeps -/

/-- Reserved keys are distinct and belong to a batch. -/
structure PlanInv (db : OutboxDatabase) : Prop where
  keys : (db.coverage.map CoverageRow.key).Nodup
  owned : ∀ row ∈ db.coverage, db.batches row.batchId ≠ none

/-- A call with a due delivery changes nothing or inserts one batch. -/
theorem createPlanned_cases {db db' : OutboxDatabase} {delivery : PendingDelivery} {key : ReportKey} {nextId : ℕ}
    {outcome : CreateOutcome} (hs : PlanInv db) (hdue : Due delivery key)
    (h : createPlanned db nextId delivery = .ok (db', outcome)) :
    db' = db ∨ ¬ Reserved db key ∧ db.batches nextId = none ∧
      ∃ record deadlineAt, db' = withPlanned db nextId key record deadlineAt := by
  obtain ⟨record, hplanned, hrecord⟩ := hdue.planned_ok
  have hkeys : record.coveredKeys = [key] := hrecord.keys.trans hdue.keys
  have hversion : key.reportVersion < 2 ^ 31 := by
    simp only [createPlanned, hplanned, ok_of_bind, ok_of_mapError, Except.ok.injEq, exists_eq_left',
      context_eq_ok, hkeys, List.head?_cons, Option.some.injEq, ensure_eq_ok] at h
    obtain ⟨_, hversion, -⟩ := h
    exact hversion
  rw [createPlanned_due hplanned hkeys hversion] at h
  by_cases hreserved : Reserved db key
  · left
    by_cases hsibling : Reserved db (ReportKey.sibling key)
    · rw [answer_conflict hreserved hsibling] at h
      cases h
    · obtain ⟨row, hrow, hkey⟩ := hreserved
      rw [answer_existing hs.keys hrow hkey hsibling] at h
      cases h
      rfl
  · right
    rw [answer_new hreserved] at h
    have hdeadline := hdue.deadlineAt hrecord
    have hfree : db.batches nextId = none := by
      simp only [insertPlanned, ok_of_bind, ensure_eq_ok] at h
      obtain ⟨_, -, _, hfree, -⟩ := h
      exact hfree
    rw [insertPlanned_eq hkeys hdeadline hfree hreserved] at h
    cases h
    exact ⟨hreserved, hfree, record, _, rfl⟩

theorem PlanInv.insert {db : OutboxDatabase} {nextId : ℕ} {key : ReportKey} (hs : PlanInv db)
    (hkey : ¬ Reserved db key) (record : DeliveryRecord) (deadlineAt : ℤ) :
    PlanInv (withPlanned db nextId key record deadlineAt) := by
  refine ⟨?_, fun row hrow => ?_⟩
  · rw [withPlanned, List.map_append, List.nodup_append]
    refine ⟨hs.keys, List.nodup_singleton _, ?_⟩
    rintro key' hmem _ hnew rfl
    obtain rfl : key' = key := List.mem_singleton.mp hnew
    exact hkey (reserved_iff.mpr hmem)
  · have hbatches : (withPlanned db nextId key record deadlineAt).batches row.batchId =
        Function.update db.batches nextId (some (plannedRow key.recipientId key.reportVersion record))
          row.batchId := rfl
    rw [hbatches, Function.update_apply]
    split_ifs with heq
    · exact nofun
    · obtain hold | hnew := List.mem_append.mp hrow
      · exact hs.owned row hold
      · rw [List.mem_singleton.mp hnew] at heq
        exact absurd rfl heq

/-- **A step keeps the invariant, and reserved keys stay with their batch.** -/
theorem PlanStep.sound {db db' : OutboxDatabase} (h : PlanStep db db') (hs : PlanInv db) :
    PlanInv db' ∧ db.coverage <+: db'.coverage := by
  cases h with
  | plan hdue hmem hcall =>
    obtain ⟨key, hkey⟩ := due_of_mem hdue hmem
    obtain rfl | ⟨hreserved, -, record, deadlineAt, rfl⟩ := createPlanned_cases hs hkey hcall
    · exact ⟨hs, List.prefix_rfl⟩
    · exact ⟨hs.insert hreserved record deadlineAt, List.prefix_append _ _⟩
  | other hcoverage hbatches =>
    rw [hcoverage]
    refine ⟨⟨hcoverage ▸ hs.keys, fun row hrow => ?_⟩, List.prefix_rfl⟩
    rw [hcoverage] at hrow
    exact hbatches _ (hs.owned row hrow)

theorem planInv_of_reachable {db : OutboxDatabase} (h : Reachable planning db) : PlanInv db := by
  refine h.invariant (fun db hinit => ?_) fun db db' hs hstep => (hstep.sound hs).1
  refine ⟨?_, fun row hrow => ?_⟩
  · rw [hinit.2]
    exact List.nodup_nil
  · rw [hinit.2] at hrow
    cases hrow

/-- The coverage only grows. -/
theorem coverage_mono {db db' : OutboxDatabase} (hs : PlanInv db)
    (h : Relation.ReflTransGen planning.step db db') : db.coverage <+: db'.coverage :=
  Reachable.run_mono (P := PlanInv) (R := fun db db' => db.coverage <+: db'.coverage)
    (fun _ _ hs hstep => (PlanStep.sound hstep hs).1) (fun _ => List.prefix_rfl)
    (fun _ _ _ => List.IsPrefix.trans) (fun _ _ hs hstep => (PlanStep.sound hstep hs).2) hs h

theorem coverageOf_withPlanned {db : OutboxDatabase} {nextId : ℕ} {key : ReportKey} (hs : PlanInv db)
    (hfree : db.batches nextId = none) (record : DeliveryRecord) (deadlineAt : ℤ) :
    (withPlanned db nextId key record deadlineAt).coverageOf nextId = [⟨nextId, key, deadlineAt⟩] := by
  have hold : db.coverage.filter (fun row => row.batchId == nextId) = [] := by
    rw [List.filter_eq_nil_iff]
    intro row hrow hbatch
    exact hs.owned row hrow ((beq_iff_eq.mp hbatch) ▸ hfree)
  have hcoverage : (withPlanned db nextId key record deadlineAt).coverage =
      db.coverage ++ [⟨nextId, key, deadlineAt⟩] := rfl
  rw [OutboxDatabase.coverageOf, hcoverage, List.filter_append, hold, List.nil_append]
  simp

/-- **What a call with a due delivery answers**, after any run and for any free number. Its report version
has to fit 31 bits.

* A key that is reserved while its sibling is not: the call returns its batch and changes nothing.
* A key that is reserved beside its sibling: the call is a conflict.
* A new key: one batch is inserted, with this key alone and the deadline of its record.
* A reserved key stays with its batch and its deadline in every continuation. -/
theorem planning_answers {db : OutboxDatabase} {now : ℤ} {recipientId : String} {reportVersion : ℕ}
    {sent : List ReportKey} {deliveries : List PendingDelivery} {delivery : PendingDelivery}
    (hrun : Reachable planning db) (hdue : dueDeliveries now recipientId reportVersion sent = .ok deliveries)
    (hmem : delivery ∈ deliveries) :
    ∃ key record deadlineAt, delivery.coveredKeys = [key] ∧ DeliveryRecord.planned delivery = .ok record ∧
      record.deadlineAt = .ok deadlineAt ∧
      (∀ nextId, 2 ^ 31 ≤ key.reportVersion → createPlanned db nextId delivery = .error .invalidDelivery) ∧
      (key.reportVersion < 2 ^ 31 → ∀ nextId,
        (∀ row ∈ db.coverage, row.key = key → ¬ Reserved db (ReportKey.sibling key) →
          createPlanned db nextId delivery = .ok (db, .existing row.batchId)) ∧
        (Reserved db key → Reserved db (ReportKey.sibling key) →
          createPlanned db nextId delivery = .error .conflict) ∧
        (¬ Reserved db key → db.batches nextId = none →
          createPlanned db nextId delivery = .ok (withPlanned db nextId key record deadlineAt, .inserted nextId) ∧
          (withPlanned db nextId key record deadlineAt).coverageOf nextId = [⟨nextId, key, deadlineAt⟩])) ∧
      ∀ row ∈ db.coverage, ∀ db', Relation.ReflTransGen planning.step db db' →
        row ∈ db'.coverage ∧ ∀ row' ∈ db'.coverage, row'.key = row.key → row' = row := by
  obtain ⟨key, hkey⟩ := due_of_mem hdue hmem
  obtain ⟨record, hplanned, hrecord⟩ := hkey.planned_ok
  have hs := planInv_of_reachable hrun
  have hkeys : record.coveredKeys = [key] := hrecord.keys.trans hkey.keys
  have hdeadline := hkey.deadlineAt hrecord
  refine ⟨key, record, _, hkey.keys, hplanned, hdeadline, fun nextId hlarge => ?_, fun hversion nextId => ?_,
    fun row hrow db' hlater => ?_⟩
  · have hnarrow : ¬ key.reportVersion < 2 ^ 31 := not_lt.mpr hlarge
    simp only [createPlanned, hplanned, Except.mapError, bind, Except.bind, hkeys, List.head?_cons, context, ensure,
      if_neg hnarrow]
  · rw [createPlanned_due hplanned hkeys hversion]
    refine ⟨fun row hrow heq hsibling => answer_existing hs.keys hrow heq hsibling, answer_conflict,
      fun hnew hfree => ⟨?_, coverageOf_withPlanned hs hfree record _⟩⟩
    rw [answer_new hnew, insertPlanned_eq hkeys hdeadline hfree hnew]
  · have hlaterInv : PlanInv db' := by
      induction hlater with
      | refl => exact hs
      | tail _ hstep ih => exact (PlanStep.sound hstep ih).1
    have hkept : row ∈ db'.coverage := (coverage_mono hs hlater).subset hrow
    exact ⟨hkept, fun row' hrow' heq => List.inj_on_of_nodup_map hlaterInv.keys hrow' hkept heq⟩

/-! ## An evening -/

/-- The recovered morning report and the evening report of one day. -/
def recoveredMorning : PendingDelivery where
  coveredKeys := [⟨20000, .morning, "pilot_owner", 1⟩]
  scheduledFor := localHour 20000 eveningHour
  delayed := true

/-- The evening delivery of a day without a missed morning. -/
def punctualEvening : PendingDelivery where
  coveredKeys := [⟨20000, .evening, "pilot_owner", 1⟩]
  scheduledFor := localHour 20000 eveningHour
  delayed := false

theorem due_evening : dueDeliveries (localHour 20000 eveningHour) "pilot_owner" 1 [] =
    .ok [recoveredMorning, punctualEvening] := by
  decide

/-- The outbox after the morning report was planned. -/
def morningPlanned : OutboxDatabase where
  batches := Function.update (fun _ => none) 1 (some (plannedRow "pilot_owner" 1 recoveredMorning.newRecord))
  coverage := [⟨1, ⟨20000, .morning, "pilot_owner", 1⟩, localHour 20000 eveningDeadlineHour⟩]
  deliveryAttempts := fun _ _ => none
  reconciliations := fun _ _ => none

/-- The outbox after both reports were planned. -/
def bothPlanned : OutboxDatabase where
  batches := Function.update morningPlanned.batches 2
    (some (plannedRow "pilot_owner" 1 punctualEvening.newRecord))
  coverage := morningPlanned.coverage ++
    [⟨2, ⟨20000, .evening, "pilot_owner", 1⟩, localHour 20000 eveningDeadlineHour⟩]
  deliveryAttempts := fun _ _ => none
  reconciliations := fun _ _ => none

theorem plan_morning : createPlanned emptyOutbox 1 recoveredMorning = .ok (morningPlanned, .inserted 1) := rfl

theorem plan_evening : createPlanned morningPlanned 2 punctualEvening = .ok (bothPlanned, .inserted 2) := rfl

theorem reachable_morningPlanned : Reachable planning morningPlanned :=
  .step (.init ⟨fun _ => rfl, rfl⟩) (.plan due_evening List.mem_cons_self plan_morning)

/-- Repeated before the evening report is planned, the call finds its batch. -/
theorem planning_answers_repeated :
    createPlanned morningPlanned 2 recoveredMorning = .ok (morningPlanned, .existing 1) := by
  obtain ⟨key, _, _, hkeys, -, -, -, hanswers, -⟩ :=
    planning_answers reachable_morningPlanned due_evening List.mem_cons_self
  cases hkeys
  refine (hanswers (by decide) 2).1 _ List.mem_cons_self rfl ?_
  rintro ⟨row, hrow, hkey⟩
  rw [List.mem_singleton.mp hrow] at hkey
  cases hkey

/-- Repeated after the evening report was planned, the call is a conflict: not every repeated call returns its
batch. -/
theorem repeated_morning_conflicts :
    (dueDeliveries (localHour 20000 eveningHour) "pilot_owner" 1 [] = .ok [recoveredMorning, punctualEvening] ∧
      createPlanned emptyOutbox 1 recoveredMorning = .ok (morningPlanned, .inserted 1) ∧
      createPlanned morningPlanned 2 punctualEvening = .ok (bothPlanned, .inserted 2) ∧
      createPlanned bothPlanned 3 recoveredMorning = .error .conflict) ∧
    ¬ ∀ db, Reachable planning db → ∀ delivery ∈ [recoveredMorning, punctualEvening], ∀ key,
      delivery.coveredKeys = [key] → Reserved db key →
        ∃ batchId, createPlanned db 3 delivery = .ok (db, .existing batchId) := by
  have hconflict : createPlanned bothPlanned 3 recoveredMorning = .error .conflict := rfl
  refine ⟨⟨due_evening, plan_morning, plan_evening, hconflict⟩, fun h => ?_⟩
  have hboth : Reachable planning bothPlanned := reachable_morningPlanned.step
    (.plan due_evening (List.mem_cons_of_mem _ List.mem_cons_self) plan_evening)
  obtain ⟨batchId, hexisting⟩ := h bothPlanned hboth recoveredMorning List.mem_cons_self _ rfl
    ⟨_, List.mem_cons_self, rfl⟩
  rw [hconflict] at hexisting
  cases hexisting

end AdsControl.Reporting.Outbox
