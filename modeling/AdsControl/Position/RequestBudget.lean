import AdsControl.Position.Database

/-!
# The daily budget of requests

A request of a region is granted exactly when its arguments are sound, the circuit is closed and the budget of
the region has room on the day of its slot, as the answers given before show.

* `RequestLedger`: the circuit, the budgets and the granted requests, read from the answers;
* `Reflects`: the tables agree with a ledger; kept by every operation;
* **`request_budget_exact`**: claims are granted exactly when the ledger allows them, and never above the
  highest limit of their region.
-/

namespace AdsControl.Position

open Fallible FieldCode

/-! ## The ledger -/

/-- What the answers tell of the circuit, the budgets and the requests that were granted. -/
structure RequestLedger where
  circuitOpen : Bool := false
  budgets : String → Option RegionBudget := fun _ => none
  granted : List (ℤ × String) := []

/-- One answer is noted. -/
def RequestLedger.note (ledger : RequestLedger) : Operation → Answer → RequestLedger
  | .persist _ batch, .persisted (.ok .inserted) =>
    { ledger with circuitOpen := ledger.circuitOpen || batch.circuitReason.isSome }
  | .claim (some region) (some slot), .claimed true =>
    { ledger with granted := ledger.granted ++ [(slot / microsPerDay, region)] }
  | .resetCircuit _ _, .done true => { ledger with circuitOpen := false }
  | .setBudget region budget, .done true =>
    { ledger with budgets := Function.update ledger.budgets region (some budget) }
  | _, _ => ledger

/-- Note the answers of a run. -/
def RequestLedger.notes (ledger : RequestLedger) : List Operation → List Answer → RequestLedger
  | operation :: operations, answer :: answers => (ledger.note operation answer).notes operations answers
  | _, _ => ledger

/-- Whether a request may be granted. -/
def RequestLedger.Allows (ledger : RequestLedger) (region : String) (slot : ℤ) : Prop :=
  (IsRegionCode region ∧ slot % slotMicros = 0) ∧ ledger.circuitOpen = false ∧
  ∃ budget ∈ ledger.budgets region, budget.active = true ∧
    ledger.granted.count (slot / microsPerDay, region) < budget.dailyLimit

instance (ledger : RequestLedger) (region : String) (slot : ℤ) : Decidable (ledger.Allows region slot) :=
  inferInstanceAs (Decidable (_ ∧ _))

/-- **The tables agree with a ledger.** -/
structure Reflects (tables : Tables) (ledger : RequestLedger) : Prop where
  circuit : tables.circuit.circuitOpen = ledger.circuitOpen
  budgets : tables.budgets = ledger.budgets
  usage : ∀ key, tables.usage key = ledger.granted.count key
  valid : ∀ region, ∀ budget ∈ ledger.budgets region, budget.Valid

/-- A region stays below a limit. -/
def RequestLedger.Below (ledger : RequestLedger) (region : String) (limit : ℕ) : Prop :=
  (∀ budget ∈ ledger.budgets region, budget.dailyLimit ≤ limit) ∧
  ∀ day, ledger.granted.count (day, region) ≤ limit

/-! ## Commits -/

section Commits

variable {sha256 : Bytes → Bytes} {now : ℤ} {runId : ℕ} {batch : PersistenceBatch} {tables tables' : Tables}
  {outcome : PersistOutcome}

theorem insertMeasurement_ok {measurement : MeasurementRecord}
    (h : insertMeasurement runId tables measurement = .ok tables') :
    ∃ measurements, tables' = { tables with measurements } := by
  simp only [insertMeasurement, ok_of_bind, ok_of_pure, ensure_eq_ok, context_eq_ok, exists_const] at h
  obtain ⟨_, -, -, -, -, -, -, rfl⟩ := h
  exact ⟨_, rfl⟩

theorem foldlM_insertMeasurement_ok {records : List MeasurementRecord}
    (h : records.foldlM (insertMeasurement runId) tables = .ok tables') :
    ∃ measurements, tables' = { tables with measurements } := by
  induction records generalizing tables with
  | nil =>
    cases h
    exact ⟨_, rfl⟩
  | cons record records ih =>
    rw [List.foldlM_cons, ok_of_bind] at h
    obtain ⟨middle, hrecord, hrest⟩ := h
    obtain ⟨_, rfl⟩ := insertMeasurement_ok hrecord
    obtain ⟨measurements, rfl⟩ := ih hrest
    exact ⟨measurements, rfl⟩

theorem openOzonCollectorCircuit_ok {reason : CircuitReason}
    (h : openOzonCollectorCircuit runId reason now tables = .ok tables') :
    ∃ circuit, tables' = { tables with circuit } ∧ circuit.circuitOpen = true := by
  rw [openOzonCollectorCircuit, ok_of_bind] at h
  obtain ⟨-, -, h⟩ := h
  dsimp only at h
  split_ifs at h with hopen
  · cases h
    exact ⟨_, rfl, hopen⟩
  · simp only [ok_of_bind, ok_of_pure] at h
    obtain ⟨-, -, rfl⟩ := h
    exact ⟨_, rfl, rfl⟩

theorem finishInserted_ok (h : finishInserted now runId batch tables = .ok (outcome, tables')) :
    outcome = .inserted ∧ ∃ runs measurements circuit,
      tables' = { tables with runs, measurements, circuit } ∧
        circuit.circuitOpen = (tables.circuit.circuitOpen || batch.circuitReason.isSome) := by
  rw [finishInserted, ok_of_bind] at h
  obtain ⟨appended, hrows, h⟩ := h
  obtain ⟨measurements, rfl⟩ := foldlM_insertMeasurement_ok hrows
  cases hreason : batch.circuitReason with
  | none =>
    simp only [hreason, updateRun, ok_of_bind, ok_of_pure, Except.ok.injEq, Prod.mk.injEq] at h
    obtain ⟨_, rfl, -, -, -, -, -, -, -, -, _, ⟨-, -, rfl⟩, rfl, rfl⟩ := h
    exact ⟨rfl, _, _, _, rfl, (Bool.or_false _).symm⟩
  | some reason =>
    simp only [hreason, updateRun, ok_of_bind, ok_of_pure, Prod.mk.injEq] at h
    obtain ⟨_, hcircuit, -, -, -, -, -, -, -, -, _, ⟨-, -, rfl⟩, rfl, rfl⟩ := h
    obtain ⟨circuit, rfl, hopen⟩ := openOzonCollectorCircuit_ok hcircuit
    exact ⟨rfl, _, _, circuit, rfl, hopen.trans (Bool.or_true _).symm⟩

theorem persistInner_ok (h : persistInner sha256 now runId batch tables = .ok (outcome, tables')) :
    (outcome = .alreadyExists ∧ tables' = tables) ∨ outcome = .inserted ∧ ∃ runs measurements circuit,
      tables' = { tables with runs, measurements, circuit } ∧
        circuit.circuitOpen = (tables.circuit.circuitOpen || batch.circuitReason.isSome) := by
  simp only [persistInner, ok_of_bind] at h
  obtain ⟨-, -, -, -, inserted, hinsert, h⟩ := h
  simp only [insertRun, ok_of_bind] at hinsert
  obtain ⟨-, -, -, -, hinsert⟩ := hinsert
  split_ifs at hinsert
  · cases hinsert
    simp only [finishExisting, ok_of_bind, ok_of_pure, Prod.mk.injEq] at h
    obtain ⟨-, -, rfl, rfl⟩ := h
    exact .inl ⟨rfl, rfl⟩
  · cases hinsert
    obtain ⟨houtcome, runs, measurements, circuit, rfl, hopen⟩ := finishInserted_ok h
    exact .inr ⟨houtcome, runs, measurements, circuit, rfl, hopen⟩

end Commits

/-! ## Claims -/

section Steps

variable {sha256 : Bytes → Bytes} {db : Database} {tables : Tables} {ledger : RequestLedger}

/-- **A request that the ledger allows is counted; any other changes nothing.** -/
theorem Reflects.claim (h : Reflects tables ledger) (region : String) (slot : ℤ) :
    claimOzonRequestBudget (some region) (some slot) tables =
      if ledger.Allows region slot then
        (true, { tables with
          usage := Function.update tables.usage (slot / microsPerDay, region)
            (tables.usage (slot / microsPerDay, region) + 1) })
      else (false, tables) := by
  have hallows : ledger.Allows region slot ↔ (IsRegionCode region ∧ slot % slotMicros = 0) ∧
      tables.circuit.circuitOpen = false ∧
      ∃ budget, (tables.budgets region).filter RegionBudget.active = some budget ∧
        tables.usage (slot / microsPerDay, region) < budget.dailyLimit := by
    rw [RequestLedger.Allows, ← h.circuit, ← h.budgets, ← h.usage]
    simp only [Option.filter_eq_some_iff, Option.mem_def, and_assoc]
  unfold claimOzonRequestBudget
  dsimp only
  by_cases hargs : IsRegionCode region ∧ slot % slotMicros = 0
  · rw [if_neg (not_not.mpr hargs)]
    by_cases hopen : tables.circuit.circuitOpen = true
    · rw [if_pos hopen, if_neg fun hall => by simp [(hallows.mp hall).2.1] at hopen]
    · rw [if_neg hopen]
      cases hbudget : (tables.budgets region).filter RegionBudget.active with
      | none => rw [if_neg fun hall => by simpa [hbudget] using (hallows.mp hall).2.2]
      | some budget =>
        have hlimit := h.valid region budget (h.budgets ▸ (Option.filter_eq_some_iff.mp hbudget).1)
        have hroom : (tables.usage (slot / microsPerDay, region) = 0 ∨
            tables.usage (slot / microsPerDay, region) < budget.dailyLimit) ↔ ledger.Allows region slot := by
          rw [hallows, hbudget]
          simp only [hargs, hopen, true_and, Option.some.injEq, exists_eq_left', and_self]
          have := hlimit.1
          omega
        dsimp only
        split_ifs with hleft hright hright
        · rfl
        · exact absurd (hroom.mp hleft) hright
        · exact absurd (hroom.mpr hright) hleft
        · rfl
  · rw [if_pos hargs, if_neg fun hall => hargs (hallows.mp hall).1]

/-- **One operation** is noted by its answer. -/
theorem Reflects.step (h : Reflects db.tables ledger) (operation : Operation) :
    Reflects (db.step sha256 operation).2.tables (ledger.note operation (db.step sha256 operation).1) := by
  cases operation with
  | persist now batch =>
    cases hresult : persistInner sha256 now db.nextRunId batch db.tables with
    | error error =>
      simp only [Database.step, hresult]
      exact h
    | ok result =>
      obtain ⟨outcome, tables⟩ := result
      simp only [Database.step, hresult]
      obtain ⟨rfl, rfl⟩ | ⟨rfl, runs, measurements, circuit, rfl, hopen⟩ := persistInner_ok hresult
      · exact h
      · exact ⟨hopen.trans (congrArg (· || _) h.circuit), h.budgets, h.usage, h.valid⟩
  | claim region slot =>
    cases region with
    | none => exact h
    | some region =>
      cases slot with
      | none => exact h
      | some slot =>
        simp only [Database.step, h.claim]
        split_ifs with hallows
        · refine ⟨h.circuit, h.budgets, fun key => ?_, h.valid⟩
          by_cases hkey : key = (slot / microsPerDay, region)
          · simp [RequestLedger.note, hkey, h.usage]
          · simp [RequestLedger.note, hkey, h.usage, Ne.symm hkey]
        · exact h
  | resetCircuit resetAt resetBy =>
    simp only [Database.step, resetCircuit]
    split_ifs
    · exact ⟨rfl, h.budgets, h.usage, h.valid⟩
    · exact h
  | setBudget region budget =>
    simp only [Database.step, setBudget]
    split_ifs with haccepted
    · refine ⟨h.circuit, congrArg (Function.update · region (some budget)) h.budgets, h.usage, ?_⟩
      intro other old hold
      by_cases hother : other = region
      · subst hother
        simp only [RequestLedger.note, Function.update_self, Option.mem_def, Option.some.injEq] at hold
        exact hold ▸ haccepted.2
      · simp only [RequestLedger.note, Function.update_of_ne hother] at hold
        exact h.valid other old hold
    · exact h
  | addMonitor id => exact ⟨h.circuit, h.budgets, h.usage, h.valid⟩

/-- The budgets that a region gets among some operations; a refused one sets none. -/
def budgetsSet (region : String) (operations : List Operation) : List RegionBudget :=
  operations.filterMap fun operation => match operation with
    | .setBudget other budget =>
      if other = region ∧ IsRegionCode other ∧ budget.Valid then some budget else none
    | _ => none

theorem Reflects.below (h : Reflects db.tables ledger) {region : String} {limit : ℕ}
    (hbelow : ledger.Below region limit) {operation : Operation}
    (hlimit : ∀ budget ∈ budgetsSet region [operation], budget.dailyLimit ≤ limit) :
    (ledger.note operation (db.step sha256 operation).1).Below region limit := by
  obtain ⟨hbudgets, hcount⟩ := hbelow
  cases operation with
  | persist now batch =>
    cases hresult : persistInner sha256 now db.nextRunId batch db.tables with
    | error error =>
      simp only [Database.step, hresult]
      exact ⟨hbudgets, hcount⟩
    | ok result =>
      obtain ⟨outcome, tables⟩ := result
      simp only [Database.step, hresult]
      cases outcome with
      | inserted => exact ⟨hbudgets, hcount⟩
      | alreadyExists => exact ⟨hbudgets, hcount⟩
  | claim other slot =>
    cases other with
    | none => exact ⟨hbudgets, hcount⟩
    | some other =>
      cases slot with
      | none => exact ⟨hbudgets, hcount⟩
      | some slot =>
        simp only [Database.step, h.claim]
        split_ifs with hallows
        · refine ⟨hbudgets, fun day => ?_⟩
          obtain ⟨-, -, budget, hbudget, -, hroom⟩ := hallows
          simp only [RequestLedger.note, List.count_append, List.count_singleton]
          split_ifs with hsame
          · obtain ⟨rfl, rfl⟩ := Prod.mk.inj (eq_of_beq hsame)
            exact hroom.trans_le (hbudgets budget hbudget)
          · exact hcount day
        · exact ⟨hbudgets, hcount⟩
  | resetCircuit resetAt resetBy =>
    simp only [Database.step, resetCircuit]
    split_ifs <;> exact ⟨hbudgets, hcount⟩
  | setBudget other budget =>
    simp only [Database.step, setBudget]
    split_ifs with haccepted
    · refine ⟨fun old hold => ?_, hcount⟩
      by_cases hother : region = other
      · subst hother
        simp only [RequestLedger.note, Function.update_self, Option.mem_def, Option.some.injEq] at hold
        exact hold ▸ hlimit budget (by simp [budgetsSet, haccepted])
      · simp only [RequestLedger.note, Function.update_of_ne hother] at hold
        exact hbudgets old hold
    · exact ⟨hbudgets, hcount⟩
  | addMonitor id => exact ⟨hbudgets, hcount⟩

/-- **A run** of operations is noted by its answers. -/
theorem Reflects.run (h : Reflects db.tables ledger) (operations : List Operation) :
    Reflects (db.run sha256 operations).2.tables (ledger.notes operations (db.run sha256 operations).1) := by
  induction operations generalizing db ledger with
  | nil => exact h
  | cons operation operations ih => exact ih (h.step operation)

theorem Reflects.run_below (h : Reflects db.tables ledger) {region : String} {limit : ℕ}
    (hbelow : ledger.Below region limit) {operations : List Operation}
    (hlimit : ∀ budget ∈ budgetsSet region operations, budget.dailyLimit ≤ limit) :
    (ledger.notes operations (db.run sha256 operations).1).Below region limit := by
  induction operations generalizing db ledger with
  | nil => exact hbelow
  | cons operation operations ih =>
    have hsplit : budgetsSet region (operation :: operations) =
        budgetsSet region [operation] ++ budgetsSet region operations := by
      rw [budgetsSet, ← List.singleton_append, List.filterMap_append]
      rfl
    rw [hsplit] at hlimit
    exact ih (h.step operation)
      (h.below hbelow fun budget hbudget => hlimit budget (List.mem_append_left _ hbudget))
      fun budget hbudget => hlimit budget (List.mem_append_right _ hbudget)

end Steps

/-- **Requests are granted exactly within their budget.** After any run of commits, claims and operators'
actions from empty tables, a claim is granted exactly when its region and slot are sound, the circuit is closed
and the region's active budget has room on the day of the slot for one more of the requests that were granted;
and no day of a region gets more requests than the highest limit of the budgets accepted for it. -/
theorem request_budget_exact (sha256 : Bytes → Bytes) (operations : List Operation) (region : String) :
    (∀ slot,
      (Database.step sha256 (Database.run sha256 {} operations).2 (.claim (some region) (some slot))).1 =
      .claimed (decide
        ((RequestLedger.notes {} operations (Database.run sha256 {} operations).1).Allows region slot))) ∧
    ∀ limit, (∀ budget ∈ budgetsSet region operations, budget.dailyLimit ≤ limit) → ∀ day,
      (RequestLedger.notes {} operations (Database.run sha256 {} operations).1).granted.count (day, region) ≤
        limit := by
  have hempty : Reflects ({} : Database).tables {} := ⟨rfl, rfl, by simp, by simp⟩
  refine ⟨fun slot => ?_, fun limit hlimit => ?_⟩
  · simp only [Database.step, (hempty.run operations).claim]
    split_ifs with hallows <;> simp [hallows]
  · exact (hempty.run_below ⟨by simp, by simp⟩ hlimit).2

/-! ## A day with one request -/

/-- A budget of one request, and a claim. -/
def dayOperations : List Operation := [.setBudget "msk" ⟨1, true⟩, .claim (some "msk") (some 0)]

theorem request_budget_exact_day :
    (Database.step id (Database.run id {} dayOperations).2 (.claim (some "msk") (some slotMicros))).1 =
      .claimed false ∧
    (RequestLedger.notes {} dayOperations (Database.run id {} dayOperations).1).granted.count (0, "msk") ≤
      1 := by
  refine ⟨?_, (request_budget_exact id dayOperations "msk").2 1 (by decide) 0⟩
  rw [(request_budget_exact id dayOperations "msk").1]
  decide

end AdsControl.Position
