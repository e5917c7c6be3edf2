import AdsControl.Lib.History
import AdsControl.Ozon.GuardWorkflow

/-!
# The stop protocol

Any number of workers run guard cycles over one store and one marketplace. Workers start, crash and
are suspended between any two commands; leases expire and are reclaimed; a transaction may fail, or
commit and lose its acknowledgement. The log records the committed markers and terminal states, the
requests that left the process and the answers of the marketplace.

* `guardAnswers`: what the store and the marketplace may answer;
* `GuardInv`: the invariant of store and log;
* `guard_sound`: every cycle is safe among the others;
* **`guard_stop_protocol`**: a stop is sent at most once and its evidence is true.
-/

namespace AdsControl.Ozon

open Fallible Interaction History

variable {W : Type}

/-! ## The world -/

/-- What an observer of the store and the marketplace sees of a stop. -/
inductive GuardEvent (W : Type)
  | marked (worker : W) (planId : String) (generation : ℕ)
  | posted (worker : W) (planId : String) (generation : ℕ)
  | readback (planId : String) (generation : ℕ) (running : Bool)
  | stopped (planId : String) (generation : ℕ)
  | incident (planId : String) (generation : ℕ)

/-- The start of a guard's write was recorded. -/
def GuardEvent.isMarked (planId : String) : GuardEvent W → Bool
  | marked _ planId' _ => planId' == planId
  | _ => false

/-- A guard's write was posted. -/
def GuardEvent.isPosted (planId : String) : GuardEvent W → Bool
  | posted _ planId' _ => planId' == planId
  | _ => false

/-- The database and what happened. -/
structure GuardWorld (W : Type) where
  db : Database
  log : List (GuardEvent W)

/-- What a change of a row shows: a new marker or a new terminal state, with the generation of the
row. -/
def rowEvents (w : W) (before after : GuardRow) : List (GuardEvent W) :=
  (if before.stopWriteStartedAt = none ∧ after.stopWriteStartedAt ≠ none then
      [.marked w after.planId after.stopGeneration] else []) ++
    (if before.status ≠ .stopped ∧ after.status = .stopped then
      [.stopped after.planId after.stopGeneration] else []) ++
    if before.status ≠ .incident ∧ after.status = .incident then
      [.incident after.planId after.stopGeneration] else []

/-- Worker `w` commits a transaction on the guard of a plan. -/
def GuardWorld.commit (s : GuardWorld W) (w : W) (planId : String) (db : Database) :
    GuardWorld W where
  db := db
  log := s.log ++ match s.db.guards planId, db.guards planId with
    | some before, some after => rowEvents w before after
    | _, _ => []

/-- Add an event. -/
def GuardWorld.record (s : GuardWorld W) (event : GuardEvent W) : GuardWorld W :=
  { s with log := s.log ++ [event] }

/-- The spend of the evidence, where it is known. -/
def evidenceSpend (evidence : OzonGuardEvidence) : Option ℕ :=
  evidence.map OzonGuardMetrics.spendMinor

/-- The revenue of the evidence, where it is known. -/
def evidenceRevenue (evidence : OzonGuardEvidence) : Option ℕ :=
  evidence.map OzonGuardMetrics.attributedRevenueMinor

/-- What the commands of worker `w` may answer, and the world they leave. -/
def guardAnswers (digest : TokenDigest) (w : W) (s : GuardWorld W) :
    (c : GuardCall) → c.Answer → GuardWorld W → Prop
  | .activeGuards accountId, answer, t => t = s ∧
      ((∃ listed, answer = activeGuardsForAccount s.db listed accountId) ∨ ∃ e, answer = .error e)
  | .claimStopRecovery accountId workerId, answer, t => ∃ selected,
      Transaction (fun now => claimGuardStopRecovery digest s.db now selected accountId workerId)
        (s.commit w (selected.getD "")) s answer t
  | .claimStop guard reason evidence workerId, answer, t =>
      Transaction (fun now => claimGuardStopLeased digest s.db now guard reason
        (evidenceSpend evidence) (evidenceRevenue evidence) workerId)
        (s.commit w guard.planId) s answer t
  | .recordObservation guard metrics, answer, t =>
      Transaction (fun now => recordGuardObservation s.db now guard metrics.spendMinor
        metrics.attributedRevenueMinor) (s.commit w guard.planId) s answer t
  | .finishStop lease evidence, answer, t =>
      Transaction (fun now => finishGuardLease s.db now lease .stopped (evidenceSpend evidence)
        (evidenceRevenue evidence)) (s.commit w lease.guard.planId) s answer t
  | .markIncident lease errorClass evidence, answer, t =>
      Transaction (fun now => finishGuardLease s.db now lease (.incident errorClass)
        (evidenceSpend evidence) (evidenceRevenue evidence)) (s.commit w lease.guard.planId) s answer t
  | .recordReadback lease observation, answer, t =>
      Transaction (fun now => recordGuardStopReadback s.db now lease observation)
        (s.commit w lease.guard.planId) s answer t
  | .now, _, t => t = s
  | .metrics _ _, _, t => t = s
  | .campaignIsRunning lease, .ok running, t =>
      t = s.record (.readback lease.guard.planId lease.generation running)
  | .campaignIsRunning _, .error _, t => t = s
  | .prepareWrite _, _, t => t = s
  | .startGuardStopWrite lease, answer, t =>
      Transaction (fun now => startGuardStopWrite s.db now lease) (s.commit w lease.guard.planId) s
        answer t
  | .admitWrite _, _, t => t = s
  | .deactivate lease, _, t => t = s.record (.posted w lease.guard.planId lease.generation)

/-- The rest of the system: it inserts new guards and uses the other tables freely. -/
structure GuardEnvironment (s t : GuardWorld W) : Prop where
  log : t.log = s.log
  rows : ∀ planId, t.db.guards planId = s.db.guards planId ∨
    s.db.guards planId = none ∧ ∃ terms : GuardTerms, terms.planId = planId ∧
      t.db.guards planId = some terms.newRow

/-- No guard yet. -/
def GuardWorld.Fresh (s : GuardWorld W) : Prop :=
  (∀ planId, s.db.guards planId = none) ∧ s.log = []

/-! ## What a transaction does to a row -/

section Transactions

variable {db db' : Database} {now : ℤ} {lease : OzonGuardStopLease} {row row' : GuardRow}

/-- What every change of a row keeps: its terms, a committed marker, the evidence of a claimed stop,
and everything after its end. -/
structure GuardMove (row row' : GuardRow) : Prop where
  terms : row'.toGuardTerms = row.toGuardTerms
  marker : row.stopWriteStartedAt.isSome → row'.stopWriteStartedAt.isSome
  claimed : row.status ≠ .active → row'.status ≠ .active
  evidence : row.status ≠ .active → row'.stopReason = row.stopReason ∧
    row'.lastSpendMinor = row.lastSpendMinor ∧ row'.lastRevenueMinor = row.lastRevenueMinor
  ended : row.status = .stopped ∨ row.status = .incident → row' = row

theorem GuardMove.refl (row : GuardRow) : GuardMove row row :=
  ⟨rfl, id, id, fun _ => ⟨rfl, rfl, rfl⟩, fun _ => rfl⟩

theorem GuardMove.trans {row'' : GuardRow} (h : GuardMove row row') (h' : GuardMove row' row'') :
    GuardMove row row'' where
  terms := h'.terms.trans h.terms
  marker hm := h'.marker (h.marker hm)
  claimed hc := h'.claimed (h.claimed hc)
  evidence hc := by
    obtain ⟨h1, h2, h3⟩ := h.evidence hc
    obtain ⟨h1', h2', h3'⟩ := h'.evidence (h.claimed hc)
    exact ⟨h1'.trans h1, h2'.trans h2, h3'.trans h3⟩
  ended he := by
    obtain rfl := h.ended he
    exact h'.ended he

theorem GuardMove.of_active (h : row.status = .active) (hterms : row'.toGuardTerms = row.toGuardTerms)
    (hmarker : row'.stopWriteStartedAt = row.stopWriteStartedAt) : GuardMove row row' where
  terms := hterms
  marker hm := hmarker ▸ hm
  claimed hc := absurd h hc
  evidence hc := absurd h hc
  ended he := by simp [h] at he

theorem GuardMove.of_stopping (h : row.status = .stopping)
    (hterms : row'.toGuardTerms = row.toGuardTerms)
    (hmarker : row.stopWriteStartedAt.isSome → row'.stopWriteStartedAt.isSome)
    (hclaimed : row'.status ≠ .active) (hevidence : row'.stopReason = row.stopReason ∧
      row'.lastSpendMinor = row.lastSpendMinor ∧ row'.lastRevenueMinor = row.lastRevenueMinor) :
    GuardMove row row' where
  terms := hterms
  marker := hmarker
  claimed _ := hclaimed
  evidence _ := hevidence
  ended he := by simp [h] at he

theorem GuardRow.of_fencedBy (h : row.fencedBy now lease) :
    row.toGuardTerms = lease.guard.toGuardTerms ∧ row.status = .stopping ∧
      row.stopGeneration = lease.generation := by
  simp only [GuardRow.fencedBy, Bool.and_eq_true, decide_eq_true_eq] at h
  exact ⟨h.1.1, h.1.2.1, h.1.2.2.2⟩

theorem recordGuardObservation_ok {expected : OzonCampaignGuard} {spendMinor revenueMinor : ℕ}
    {u : Unit} (h : recordGuardObservation db now expected spendMinor revenueMinor = .ok (db', u)) :
    ∃ row, db.guards expected.planId = some row ∧ row.status = .active ∧ db' = db.putGuard { row with
      lastSpendMinor := some spendMinor, lastRevenueMinor := some revenueMinor
      lastCheckedAt := some now } := by
  simp only [recordGuardObservation, ok_of_bind, ensure_eq_ok, context_eq_ok, ok_of_pure,
    Prod.mk.injEq] at h
  obtain ⟨-, -, -, -, -, -, row, hrow, -, hactive, hdb, -⟩ := h
  exact ⟨row, hrow, hactive.2, hdb.symm⟩

theorem claimGuardStopLeased_ok {digest : TokenDigest} {expected : OzonCampaignGuard}
    {reason workerId : String} {spendMinor revenueMinor : Option ℕ}
    (h : claimGuardStopLeased digest db now expected reason spendMinor revenueMinor workerId =
      .ok (db', lease)) :
    lease.guard.planId = expected.planId ∧ lease.writeStartedAt = none ∧ ∃ row columns,
      db.guards expected.planId = some row ∧ row.status = .active ∧ db' = db.putGuard { row with
        status := .stopping, stopReason := some reason, lastSpendMinor := spendMinor
        lastRevenueMinor := revenueMinor, lastCheckedAt := some now, stopGeneration := 1
        stopLease := some columns } := by
  simp only [claimGuardStopLeased, ok_of_bind, ensure_eq_ok, context_eq_ok, ok_of_pure,
    Prod.mk.injEq] at h
  obtain ⟨-, -, -, -, -, -, -, -, row, hrow, -, hactive, -, hguard, -, -, -, -, hdb, hlease⟩ := h
  subst hlease
  refine ⟨?_, rfl, row, _, hrow, hactive.2.2, hdb.symm⟩
  rw [← hguard]

theorem claimGuardStopRecovery_ok {digest : TokenDigest} {selected : Option String}
    {accountId workerId : String} {claimed : Option OzonGuardStopLease}
    (h : claimGuardStopRecovery digest db now selected accountId workerId = .ok (db', claimed)) :
    db' = db ∧ claimed = none ∨ ∃ planId row columns lease, selected = some planId ∧
      db.guards planId = some row ∧ row.status = .stopping ∧ claimed = some lease ∧
      lease.guard.planId = row.planId ∧ lease.writeStartedAt = row.stopWriteStartedAt ∧
      db' = db.putGuard { row with
        stopGeneration := row.stopGeneration + 1, stopLease := some columns } := by
  simp only [claimGuardStopRecovery, ok_of_bind] at h
  obtain ⟨-, -, -, -, h⟩ := h
  split at h
  · cases h
    exact .inl ⟨rfl, rfl⟩
  · rename_i row hselected
    simp only [ok_of_bind, ensure_eq_ok, context_eq_ok, ok_of_mapError, ok_of_pure,
      Prod.mk.injEq] at h
    obtain ⟨_, -, -, hstopping, _, -, -, -, generation, hgeneration, hdb, rfl⟩ := h
    obtain ⟨planId, rfl, hrow⟩ := Option.bind_eq_some_iff.mp hselected
    obtain ⟨rfl, -⟩ := Machine.checkedAdd_eq_some.mp hgeneration
    exact .inr ⟨planId, row, _, _, rfl, hrow, hstopping.2.1, rfl, rfl, rfl, hdb.symm⟩

/-- The marker is set once, under the generation of the lease. -/
theorem startGuardStopWrite_ok {u : Unit}
    (h : startGuardStopWrite db now lease = .ok (db', u)) : ∃ row,
      db.guards lease.guard.planId = some row ∧ row.fencedBy now lease ∧
      row.stopWriteStartedAt = none ∧
      db' = db.putGuard { row with stopWriteStartedAt := some now } := by
  simp only [startGuardStopWrite, ok_of_bind, ensure_eq_ok, context_eq_ok, ok_of_pure,
    Prod.mk.injEq] at h
  obtain ⟨-, -, -, -, _, -, -, -, -, -, -, -, row, hrow, -, hfenced, hdb, -⟩ := h
  exact ⟨row, hrow, hfenced.1, hfenced.2, hdb.symm⟩

theorem recordGuardStopReadback_ok {observation : OzonGuardStopReadback} {u : Unit}
    (h : recordGuardStopReadback db now lease observation = .ok (db', u)) : db' = db := by
  simp only [recordGuardStopReadback, ok_of_bind, ensure_eq_ok, context_eq_ok, ok_of_pure,
    Prod.mk.injEq] at h
  obtain ⟨-, -, _, -, -, -, hdb, -⟩ := h
  exact hdb.symm

/-- A terminal state is reached under the generation of the lease, or was reached before. -/
theorem finishGuardLease_ok {outcome : GuardStopOutcome} {spendMinor revenueMinor : Option ℕ}
    {u : Unit} (h : finishGuardLease db now lease outcome spendMinor revenueMinor = .ok (db', u)) :
    db' = db ∨ ∃ row, db.guards lease.guard.planId = some row ∧ row.fencedBy now lease ∧
      db' = db.putGuard (row.finished now outcome) := by
  simp only [finishGuardLease, ok_of_bind, ensure_eq_ok, context_eq_ok] at h
  obtain ⟨-, -, -, -, -, -, -, -, row, hrow, h⟩ := h
  split at h
  · rename_i hfenced
    rw [ok_of_pure, Prod.mk.injEq] at h
    exact .inr ⟨row, hrow, hfenced.1, h.1.symm⟩
  · simp only [ok_of_bind, ensure_eq_ok, ok_of_pure, Prod.mk.injEq] at h
    exact .inl h.choose_spec.2.1.symm

end Transactions

/-! ## The invariant -/

/-- When an event may happen after a log. A marker is the first of its guard. A request is the first
of its guard, and its worker committed the marker under the same generation. A stop has a readback of
its generation that reported the campaign as not running; an incident has one that reported it as
running, later than the marker. -/
def Justified (log : List (GuardEvent W)) : GuardEvent W → Prop
  | .marked _ planId _ => ∀ w generation, .marked w planId generation ∉ log
  | .posted w planId generation => .marked w planId generation ∈ log ∧
      ∀ w' generation', .posted w' planId generation' ∉ log
  | .readback _ _ _ => True
  | .stopped planId generation => .readback planId generation false ∈ log
  | .incident planId generation => ∃ w generation',
      Precedes log (.marked w planId generation') (.readback planId generation true)

/-- The rows of a world agree with its log. -/
structure GuardInv (s : GuardWorld W) : Prop where
  keyed : ∀ planId row, s.db.guards planId = some row → row.planId = planId
  marker : ∀ planId, (∃ w generation, .marked w planId generation ∈ s.log) ↔
    ∃ row, s.db.guards planId = some row ∧ row.stopWriteStartedAt.isSome
  stopped : ∀ planId row, s.db.guards planId = some row → row.status = .stopped →
    .stopped planId row.stopGeneration ∈ s.log
  incident : ∀ planId row, s.db.guards planId = some row → row.status = .incident →
    .incident planId row.stopGeneration ∈ s.log
  orderly : Orderly Justified s.log

/-- The log grows and the rows move. -/
structure GuardEvolves (s t : GuardWorld W) : Prop where
  log : s.log <+: t.log
  rows : ∀ planId row, s.db.guards planId = some row →
    ∃ row', t.db.guards planId = some row' ∧ GuardMove row row'

/-- Nothing is sent for the guards that `w` marked. -/
def GuardSpares (w : W) (s t : GuardWorld W) : Prop :=
  ∀ planId generation, .marked w planId generation ∈ s.log → ∀ w' generation',
    .posted w' planId generation' ∈ t.log → .posted w' planId generation' ∈ s.log

/-- The store and the marketplace as shared by the guard workers. -/
def guardShared (W : Type) (digest : TokenDigest) :
    Shared (GuardWorld W) W GuardCall GuardCall.Answer where
  answers := guardAnswers digest
  inv := GuardInv
  evolves := GuardEvolves
  spares := GuardSpares
  evolves_refl s := ⟨List.prefix_rfl, fun _ row h => ⟨row, h, .refl row⟩⟩
  evolves_trans h h' := by
    refine ⟨h.log.trans h'.log, fun planId row hrow => ?_⟩
    obtain ⟨row', hrow', hmove⟩ := h.rows planId row hrow
    obtain ⟨row'', hrow'', hmove'⟩ := h'.rows planId row' hrow'
    exact ⟨row'', hrow'', hmove.trans hmove'⟩
  spares_refl _ _ _ _ _ _ _ h := h
  spares_trans h _ hs hs' planId generation hmarked w' generation' hposted :=
    hs planId generation hmarked w' generation'
      (hs' planId generation (h.log.subset hmarked) w' generation' hposted)

section Steps

variable {s : GuardWorld W} {w : W} {planId : String} {generation : ℕ} {row row' : GuardRow}
  {digest : TokenDigest}

theorem marked_mem_rowEvents {w' : W} : .marked w' planId generation ∈ rowEvents w row row' ↔
    (row.stopWriteStartedAt = none ∧ row'.stopWriteStartedAt ≠ none) ∧ w' = w ∧
      planId = row'.planId ∧ generation = row'.stopGeneration := by
  unfold rowEvents
  split_ifs <;> simp_all

theorem stopped_mem_rowEvents : .stopped planId generation ∈ rowEvents w row row' ↔
    (row.status ≠ .stopped ∧ row'.status = .stopped) ∧ planId = row'.planId ∧
      generation = row'.stopGeneration := by
  unfold rowEvents
  split_ifs <;> simp_all

theorem incident_mem_rowEvents : .incident planId generation ∈ rowEvents w row row' ↔
    (row.status ≠ .incident ∧ row'.status = .incident) ∧ planId = row'.planId ∧
      generation = row'.stopGeneration := by
  unfold rowEvents
  split_ifs <;> simp_all

theorem posted_not_mem_rowEvents {w' : W} :
    .posted w' planId generation ∉ rowEvents w row row' := by
  unfold rowEvents
  split_ifs <;> simp

theorem GuardEvent.isMarked_iff {event : GuardEvent W} :
    event.isMarked planId ↔ ∃ w generation, event = .marked w planId generation := by
  cases event <;> simp [isMarked]

theorem GuardEvent.isPosted_iff {event : GuardEvent W} :
    event.isPosted planId ↔ ∃ w generation, event = .posted w planId generation := by
  cases event <;> simp [isPosted]

/-- The request of a guard is sent at most once. -/
theorem GuardInv.countP_posted (hs : GuardInv s) (planId : String) :
    s.log.countP (GuardEvent.isPosted planId) ≤ 1 := by
  refine hs.orderly.countP_le_one fun before event hevent hp event' hmem hp' => ?_
  obtain ⟨w, generation, rfl⟩ := GuardEvent.isPosted_iff.mp hp
  obtain ⟨w', generation', rfl⟩ := GuardEvent.isPosted_iff.mp hp'
  exact hevent.2 w' generation' hmem

theorem GuardInv.marked_unique (hs : GuardInv s) {w' : W} {generation' : ℕ}
    (h : .marked w planId generation ∈ s.log) (h' : .marked w' planId generation' ∈ s.log) :
    w' = w := by
  have hcount : s.log.countP (GuardEvent.isMarked planId) ≤ 1 := by
    refine hs.orderly.countP_le_one fun before event hevent hp event' hmem hp' => ?_
    obtain ⟨w, generation, rfl⟩ := GuardEvent.isMarked_iff.mp hp
    obtain ⟨w', generation', rfl⟩ := GuardEvent.isMarked_iff.mp hp'
    exact hevent w' generation' hmem
  have heq := eq_of_countP_le_one hcount h' h (GuardEvent.isMarked_iff.mpr ⟨_, _, rfl⟩)
    (GuardEvent.isMarked_iff.mpr ⟨_, _, rfl⟩)
  cases heq
  rfl

theorem allowed_record (hs : GuardInv s) {event : GuardEvent W} (hevent : Justified s.log event)
    (hmarked : ∀ w planId generation, event ≠ .marked w planId generation)
    (hposted : ∀ w' planId generation, event = .posted w' planId generation → w' = w) :
    (guardShared W digest).Allowed w s (s.record event) := by
  refine ⟨⟨hs.keyed, fun planId => ?_,
    fun planId row hrow hstatus => List.mem_append_left _ (hs.stopped planId row hrow hstatus),
    fun planId row hrow hstatus => List.mem_append_left _ (hs.incident planId row hrow hstatus),
    hs.orderly.snoc hevent⟩,
    ⟨List.prefix_append _ _, fun _ row hrow => ⟨row, hrow, .refl row⟩⟩, ?_⟩
  · refine Iff.trans ?_ (hs.marker planId)
    constructor
    · rintro ⟨w', generation, hmem⟩
      rcases List.mem_append.mp hmem with hmem | hmem
      · exact ⟨w', generation, hmem⟩
      · exact absurd (List.mem_singleton.mp hmem).symm (hmarked w' planId generation)
    · rintro ⟨w', generation, hmem⟩
      exact ⟨w', generation, List.mem_append_left _ hmem⟩
  · intro w' hne planId generation hmark w'' generation' hmem
    rcases List.mem_append.mp hmem with hmem | hmem
    · exact hmem
    · obtain rfl := List.mem_singleton.mp hmem
      obtain rfl := hposted w'' planId generation' rfl
      exact absurd (hs.marked_unique hevent.1 hmark) hne

theorem GuardInv.planId_move (hs : GuardInv s) (hrow : s.db.guards planId = some row)
    (hmove : GuardMove row row') : row'.planId = planId := by
  rw [← hs.keyed planId row hrow]
  exact congrArg GuardTerms.planId hmove.terms

theorem putGuard_guards (db : Database) (hplan : row'.planId = planId) (planId' : String) :
    (db.putGuard row').guards planId' = if planId' = planId then some row' else db.guards planId' := by
  rw [Database.putGuard, hplan]
  exact Function.update_apply _ _ _ _

theorem commit_log (hrow : s.db.guards planId = some row) (hplan : row'.planId = planId) :
    (s.commit w planId (s.db.putGuard row')).log = s.log ++ rowEvents w row row' := by
  rw [GuardWorld.commit, putGuard_guards s.db hplan, if_pos rfl, hrow]

/-- The marker of the committed row is in the log exactly when the row has one. -/
theorem GuardInv.marker_commit (hs : GuardInv s) (hrow : s.db.guards planId = some row)
    (hmove : GuardMove row row') :
    (∃ w' generation, .marked w' planId generation ∈ s.log ++ rowEvents w row row') ↔
      row'.stopWriteStartedAt.isSome := by
  have hplan := hs.planId_move hrow hmove
  by_cases hnew : row.stopWriteStartedAt.isSome
  · obtain ⟨w', generation, hmem⟩ := (hs.marker planId).mpr ⟨row, hrow, hnew⟩
    exact ⟨fun _ => hmove.marker hnew, fun _ => ⟨w', generation, List.mem_append_left _ hmem⟩⟩
  · have hold : ∀ w' generation, .marked w' planId generation ∉ s.log := by
      intro w' generation hmem
      obtain ⟨before, hbefore, hsome⟩ := (hs.marker planId).mp ⟨w', generation, hmem⟩
      rw [hrow] at hbefore
      cases hbefore
      exact hnew hsome
    rw [Option.not_isSome_iff_eq_none] at hnew
    constructor
    · rintro ⟨w', generation, hmem⟩
      have hevent := (List.mem_append.mp hmem).resolve_left (hold w' generation)
      exact Option.isSome_iff_ne_none.mpr (marked_mem_rowEvents.mp hevent).1.2
    · intro hsome
      refine ⟨w, row'.stopGeneration, List.mem_append_right _ (marked_mem_rowEvents.mpr ?_)⟩
      exact ⟨⟨hnew, Option.isSome_iff_ne_none.mp hsome⟩, rfl, hplan.symm, rfl⟩

theorem allowed_commit (hs : GuardInv s) (hrow : s.db.guards planId = some row)
    (hmove : GuardMove row row') (horderly : Orderly Justified (s.log ++ rowEvents w row row')) :
    (guardShared W digest).Allowed w s (s.commit w planId (s.db.putGuard row')) := by
  have hplan := hs.planId_move hrow hmove
  have hguards : ∀ planId', (s.commit w planId (s.db.putGuard row')).db.guards planId' = _ :=
    putGuard_guards s.db hplan
  have hlog := commit_log (w := w) hrow hplan
  refine ⟨⟨fun planId' after hafter => ?_, fun planId' => ?_, fun planId' after hafter hstatus => ?_,
    fun planId' after hafter hstatus => ?_, hlog ▸ horderly⟩,
    ⟨hlog ▸ List.prefix_append _ _, fun planId' before hbefore => ?_⟩,
    fun w' _ planId' generation _ w'' generation' hmem => ?_⟩
  · rw [hguards] at hafter
    split_ifs at hafter with heq
    · cases hafter
      rw [heq, hplan]
    · exact hs.keyed planId' after hafter
  · rw [hlog, hguards]
    by_cases heq : planId' = planId
    · subst heq
      rw [if_pos rfl, hs.marker_commit hrow hmove]
      simp
    · rw [if_neg heq, ← hs.marker planId']
      simp only [List.mem_append, marked_mem_rowEvents, hplan, heq, false_and, and_false, or_false]
  · rw [hguards] at hafter
    rw [hlog, List.mem_append]
    split_ifs at hafter with heq
    · cases hafter
      by_cases hold : row.status = .stopped
      · rw [heq, hmove.ended (.inl hold)]
        exact .inl (hs.stopped planId row hrow hold)
      · exact .inr (stopped_mem_rowEvents.mpr ⟨⟨hold, hstatus⟩, heq.trans hplan.symm, rfl⟩)
    · exact .inl (hs.stopped planId' after hafter hstatus)
  · rw [hguards] at hafter
    rw [hlog, List.mem_append]
    split_ifs at hafter with heq
    · cases hafter
      by_cases hold : row.status = .incident
      · rw [heq, hmove.ended (.inr hold)]
        exact .inl (hs.incident planId row hrow hold)
      · exact .inr (incident_mem_rowEvents.mpr ⟨⟨hold, hstatus⟩, heq.trans hplan.symm, rfl⟩)
    · exact .inl (hs.incident planId' after hafter hstatus)
  · rw [hguards]
    by_cases heq : planId' = planId
    · subst heq
      rw [hrow] at hbefore
      cases hbefore
      exact ⟨row', if_pos rfl, hmove⟩
    · exact ⟨before, by rw [if_neg heq, hbefore], .refl before⟩
  · rw [hlog] at hmem
    exact (List.mem_append.mp hmem).resolve_right posted_not_mem_rowEvents

theorem rowEvents_eq_nil (hmarker : row'.stopWriteStartedAt = row.stopWriteStartedAt)
    (hstatus : row'.status = row.status ∨ row'.status = .stopping) : rowEvents w row row' = [] := by
  unfold rowEvents
  rcases hstatus with hstatus | hstatus <;> simp [hmarker, hstatus]

theorem commit_self : s.commit w planId s.db = s := by
  unfold GuardWorld.commit
  cases hrow : s.db.guards planId with
  | none => simp
  | some row => simp [rowEvents_eq_nil]

theorem allowed_quiet (hs : GuardInv s) (hrow : s.db.guards planId = some row)
    (hmove : GuardMove row row') (hmarker : row'.stopWriteStartedAt = row.stopWriteStartedAt)
    (hstatus : row'.status = row.status ∨ row'.status = .stopping) :
    (guardShared W digest).Allowed w s (s.commit w planId (s.db.putGuard row')) := by
  refine allowed_commit hs hrow hmove ?_
  rw [rowEvents_eq_nil hmarker hstatus, List.append_nil]
  exact hs.orderly

/-! ## Each command -/

variable {t : GuardWorld W} {lease : OzonGuardStopLease} {evidence : OzonGuardEvidence}

theorem recordObservation_allowed {guard : OzonCampaignGuard} {metrics : OzonGuardMetrics}
    {answer : Except OzonPlanStoreError Unit} (hs : GuardInv s)
    (h : (guardShared W digest).answers w s (.recordObservation guard metrics) answer t) :
    (guardShared W digest).Allowed w s t := by
  refine Transaction.elim h (.refl w hs) fun now db a hop => ?_
  obtain ⟨row, hrow, hactive, rfl⟩ := recordGuardObservation_ok hop
  exact allowed_quiet hs hrow (.of_active hactive rfl rfl) rfl (.inl rfl)

theorem claimStop_allowed {guard : OzonCampaignGuard} {reason workerId : String}
    {answer : Except OzonPlanStoreError OzonGuardStopLease} (hs : GuardInv s)
    (h : (guardShared W digest).answers w s (.claimStop guard reason evidence workerId) answer t) :
    (guardShared W digest).Allowed w s t := by
  refine Transaction.elim h (.refl w hs) fun now db a hop => ?_
  obtain ⟨-, -, row, columns, hrow, hactive, rfl⟩ := claimGuardStopLeased_ok hop
  exact allowed_quiet hs hrow (.of_active hactive rfl rfl) rfl (.inr rfl)

theorem claimStopRecovery_allowed {accountId workerId : String}
    {answer : Except OzonPlanStoreError (Option OzonGuardStopLease)} (hs : GuardInv s)
    (h : (guardShared W digest).answers w s (.claimStopRecovery accountId workerId) answer t) :
    (guardShared W digest).Allowed w s t := by
  obtain ⟨selected, h⟩ := h
  refine Transaction.elim h (.refl w hs) fun now db a hop => ?_
  rcases claimGuardStopRecovery_ok hop with
    ⟨rfl, -⟩ | ⟨planId, row, columns, lease, rfl, hrow, hstopping, -, -, -, rfl⟩
  · rw [commit_self]
    exact .refl w hs
  · refine allowed_quiet hs hrow (.of_stopping hstopping rfl id ?_ ⟨rfl, rfl, rfl⟩) rfl (.inl rfl)
    simp [hstopping]

theorem recordReadback_allowed {observation : OzonGuardStopReadback}
    {answer : Except OzonPlanStoreError Unit} (hs : GuardInv s)
    (h : (guardShared W digest).answers w s (.recordReadback lease observation) answer t) :
    (guardShared W digest).Allowed w s t := by
  refine Transaction.elim h (.refl w hs) fun now db a hop => ?_
  rw [recordGuardStopReadback_ok hop, commit_self]
  exact .refl w hs

/-- What the log must hold before a lease may end in an outcome. -/
def Supports (log : List (GuardEvent W)) (lease : OzonGuardStopLease) : GuardStopOutcome → Prop
  | .stopped => .readback lease.guard.planId lease.generation false ∈ log
  | .incident _ => ∃ w generation, Precedes log (.marked w lease.guard.planId generation)
      (.readback lease.guard.planId lease.generation true)

theorem finish_allowed {outcome : GuardStopOutcome} {spendMinor revenueMinor : Option ℕ}
    {answer : Except OzonPlanStoreError Unit} (hs : GuardInv s)
    (hsupport : Supports s.log lease outcome)
    (h : Transaction (fun now => finishGuardLease s.db now lease outcome spendMinor revenueMinor)
      (s.commit w lease.guard.planId) s answer t) : (guardShared W digest).Allowed w s t := by
  refine Transaction.elim h (.refl w hs) fun now db a hop => ?_
  rcases finishGuardLease_ok hop with rfl | ⟨row, hrow, hfenced, rfl⟩
  · rw [commit_self]
    exact .refl w hs
  obtain ⟨hterms, hstopping, hgeneration⟩ := row.of_fencedBy hfenced
  have hplan : row.planId = lease.guard.planId := congrArg GuardTerms.planId hterms
  cases outcome with
  | stopped =>
    refine allowed_commit hs hrow (.of_stopping hstopping rfl id (by simp [GuardRow.finished])
      ⟨rfl, rfl, rfl⟩) ?_
    have hevents : rowEvents w row (row.finished now .stopped) =
        [.stopped lease.guard.planId lease.generation] := by
      simp [rowEvents, GuardRow.finished, hstopping, hplan, hgeneration]
    rw [hevents]
    exact hs.orderly.snoc hsupport
  | incident errorClass =>
    refine allowed_commit hs hrow (.of_stopping hstopping rfl id (by simp [GuardRow.finished])
      ⟨rfl, rfl, rfl⟩) ?_
    have hevents : rowEvents w row (row.finished now (.incident errorClass)) =
        [.incident lease.guard.planId lease.generation] := by
      simp [rowEvents, GuardRow.finished, hstopping, hplan, hgeneration]
    rw [hevents]
    exact hs.orderly.snoc hsupport

theorem GuardInv.not_marked (hs : GuardInv s) (hrow : s.db.guards planId = some row)
    (hnone : row.stopWriteStartedAt = none) : .marked w planId generation ∉ s.log := by
  intro hmem
  obtain ⟨row', hrow', hsome⟩ := (hs.marker planId).mp ⟨w, generation, hmem⟩
  rw [hrow] at hrow'
  cases hrow'
  rw [hnone] at hsome
  cases hsome

theorem GuardInv.marked_of_posted (hs : GuardInv s) (h : .posted w planId generation ∈ s.log) :
    .marked w planId generation ∈ s.log := by
  obtain ⟨before, after, hlog⟩ := List.append_of_mem h
  have hmem := (hs.orderly before _ after hlog).1
  rw [hlog]
  exact List.mem_append_left _ hmem

theorem startWrite_allowed {answer : Except OzonPlanStoreError Unit} (hs : GuardInv s)
    (h : (guardShared W digest).answers w s (.startGuardStopWrite lease) answer t) :
    (guardShared W digest).Allowed w s t ∧ (answer = .ok () →
      .marked w lease.guard.planId lease.generation ∈ t.log ∧
        ∀ w' generation, .posted w' lease.guard.planId generation ∉ t.log) := by
  have hcommit : ∀ now db a, startGuardStopWrite s.db now lease = .ok (db, a) →
      (guardShared W digest).Allowed w s (s.commit w lease.guard.planId db) ∧
      .marked w lease.guard.planId lease.generation ∈ (s.commit w lease.guard.planId db).log ∧
        ∀ w' generation, .posted w' lease.guard.planId generation ∉
          (s.commit w lease.guard.planId db).log := by
    intro now db a hop
    obtain ⟨row, hrow, hfenced, hnone, rfl⟩ := startGuardStopWrite_ok hop
    obtain ⟨hterms, hstopping, hgeneration⟩ := row.of_fencedBy hfenced
    have hplan : row.planId = lease.guard.planId := congrArg GuardTerms.planId hterms
    have hevents : rowEvents w row { row with stopWriteStartedAt := some now } =
        [.marked w lease.guard.planId lease.generation] := by
      simp [rowEvents, hnone, hstopping, hplan, hgeneration]
    have hplan' : ({ row with
        stopWriteStartedAt := some now } : GuardRow).planId = lease.guard.planId := hplan
    have hlog := commit_log (w := w) hrow hplan'
    rw [hlog, hevents]
    refine ⟨allowed_commit hs hrow (.of_stopping hstopping rfl (fun _ => rfl) (by simp [hstopping])
      ⟨rfl, rfl, rfl⟩) ?_, List.mem_append_right _ List.mem_cons_self, fun w' generation hmem => ?_⟩
    · rw [hevents]
      exact hs.orderly.snoc fun w' generation => hs.not_marked hrow hnone
    · rcases List.mem_append.mp hmem with hmem | hmem
      · exact hs.not_marked hrow hnone (hs.marked_of_posted hmem)
      · cases List.mem_singleton.mp hmem
  refine ⟨Transaction.elim h (.refl w hs) fun now db a hop => (hcommit now db a hop).1, ?_⟩
  rintro rfl
  obtain ⟨now, db, hop, rfl⟩ := Transaction.ok h
  exact (hcommit now db _ hop).2

end Steps

/-! ## The cycle is safe -/

section Programs

variable {digest : TokenDigest} {w : W} {s : GuardWorld W} {context : OzonGuardRunContext}
  {lease : OzonGuardStopLease} {evidence : OzonGuardEvidence}

theorem rely_mem {t : GuardWorld W} {event : GuardEvent W} (h : (guardShared W digest).rely w s t)
    (hmem : event ∈ s.log) : event ∈ t.log := h.1.log.subset hmem

theorem confirmStop_safe (h : Supports s.log lease .stopped) :
    Safe (guardShared W digest) w (confirmStop lease evidence) s := by
  intro t hst ht recorded u hrecord
  have hu := recordReadback_allowed ht hrecord
  refine ⟨hu, ?_⟩
  cases recorded with
  | error error => exact fun _ _ _ => trivial
  | ok _ =>
    intro v huv hv finished x hfinish
    have hsupport : Supports v.log lease .stopped :=
      rely_mem huv (hu.2.1.log.subset (rely_mem hst h))
    refine ⟨finish_allowed hv hsupport hfinish, ?_⟩
    cases finished <;> exact fun _ _ _ => trivial

theorem retainStop_safe {error : OzonGuardReadFailure} :
    Safe (guardShared W digest) w (retainStop lease error) s := by
  intro t hst ht recorded u hrecord
  refine ⟨recordReadback_allowed ht hrecord, ?_⟩
  cases recorded <;> exact fun _ _ _ => trivial

theorem campaignIsRunning_allowed {answer : Except OzonGuardReadFailure Bool} {t : GuardWorld W}
    (hs : GuardInv s) (h : (guardShared W digest).answers w s (.campaignIsRunning lease) answer t) :
    (guardShared W digest).Allowed w s t ∧ ∀ running, answer = .ok running →
      t.log = s.log ++ [.readback lease.guard.planId lease.generation running] := by
  cases answer with
  | error error =>
    obtain rfl : t = s := h
    exact ⟨.refl w hs, fun running hok => (nomatch hok)⟩
  | ok running =>
    obtain rfl : t = s.record _ := h
    refine ⟨allowed_record hs trivial (by simp) (by simp), fun running' hok => ?_⟩
    cases hok
    rfl

theorem markIncident_safe {errorClass : String}
    (h : Supports s.log lease (.incident errorClass)) : Safe (guardShared W digest) w (do
      store (← ask (.markIncident lease errorClass evidence))) s := by
  intro t hst ht marked u hmark
  obtain ⟨w', generation, hprecedes⟩ := h
  obtain ⟨rest, hlog⟩ := hst.1.log
  have hsupport : Supports t.log lease (.incident errorClass) :=
    ⟨w', generation, hlog ▸ hprecedes.append rest⟩
  refine ⟨finish_allowed ht hsupport hmark, ?_⟩
  cases marked <;> exact fun _ _ _ => trivial

/-- The marker of a guard is in the log. -/
def Started (log : List (GuardEvent W)) (lease : OzonGuardStopLease) : Prop :=
  ∃ w generation, .marked w lease.guard.planId generation ∈ log

theorem supports_incident {t : GuardWorld W} (h : Started s.log lease)
    (hlog : t.log = s.log ++ [.readback lease.guard.planId lease.generation true])
    (errorClass : String) : Supports t.log lease (.incident errorClass) := by
  obtain ⟨w', generation, hmem⟩ := h
  exact ⟨w', generation, hlog ▸ precedes_snoc hmem⟩

theorem Supports.mono {t : GuardWorld W} {outcome : GuardStopOutcome}
    (h : Supports s.log lease outcome) (hlog : s.log <+: t.log) : Supports t.log lease outcome := by
  cases outcome with
  | stopped => exact hlog.subset h
  | incident errorClass =>
    obtain ⟨w', generation, hprecedes⟩ := h
    obtain ⟨rest, heq⟩ := hlog
    exact ⟨w', generation, heq ▸ hprecedes.append rest⟩

theorem settleStop_safe {write : Except OzonGuardWriteFailure Unit}
    (h : ∀ errorClass, incidentErrorClass write = .ok errorClass → Started s.log lease) :
    Safe (guardShared W digest) w (settleStop context lease evidence write) s := by
  unfold settleStop hitFailpoint
  split
  · exact fun _ _ _ => trivial
  intro t hst ht running u hread
  obtain ⟨hu, hlog⟩ := campaignIsRunning_allowed ht hread
  refine ⟨hu, ?_⟩
  rcases running with error | _ | _
  · exact retainStop_safe
  · refine confirmStop_safe ?_
    rw [hlog false rfl]
    exact List.mem_append_right _ List.mem_cons_self
  · intro v huv hv recorded x hrecord
    have hx := recordReadback_allowed hv hrecord
    refine ⟨hx, ?_⟩
    cases recorded with
    | error error => exact fun _ _ _ => trivial
    | ok _ =>
      cases hclass : incidentErrorClass write with
      | error error => exact fun _ _ _ => trivial
      | ok errorClass =>
        obtain ⟨w', generation, hmem⟩ := h errorClass hclass
        have hsupport := supports_incident ⟨w', generation, rely_mem hst hmem⟩ (hlog true rfl)
          errorClass
        exact markIncident_safe ((hsupport.mono huv.1.log).mono hx.2.1.log)

theorem deactivate_wp : wp (guardShared W digest) w (deactivateWithFinalPermit lease)
    (fun result t => ∀ write, result = .ok write → ∀ errorClass,
      incidentErrorClass write = .ok errorClass → Started t.log lease) s := by
  intro t hst ht prepared u hprepare
  obtain rfl : u = t := hprepare
  refine ⟨.refl w ht, ?_⟩
  cases prepared with
  | error error =>
    intro v _ _ write hwrite errorClass hclass
    cases hwrite
    cases hclass
  | ok _ =>
    intro v huv hv started x hstart
    obtain ⟨hx, hmarked⟩ := startWrite_allowed hv hstart
    refine ⟨hx, ?_⟩
    cases started with
    | error error =>
      intro v _ _ write hwrite errorClass hclass
      cases hwrite
      cases hclass
    | ok _ =>
      obtain ⟨hmem, hfirst⟩ := hmarked rfl
      -- No other worker sends a request for a guard this worker marked.
      have hstarted : ∀ z, (guardShared W digest).rely w x z → Started z.log lease :=
        fun z hxz => ⟨w, lease.generation, rely_mem hxz hmem⟩
      intro y hxy hy admitted z hgrant
      obtain rfl : z = y := hgrant
      refine ⟨.refl w hy, ?_⟩
      cases admitted with
      | error error => exact fun v hv _ _ _ _ _ => hstarted v (Shared.rely_trans hxy hv)
      | ok _ =>
        intro v hyv hv sent y' hsent
        obtain rfl : y' = v.record _ := hsent
        have hxv := Shared.rely_trans hxy hyv
        have hallowed : (guardShared W digest).Allowed w v
            (v.record (.posted w lease.guard.planId lease.generation)) := by
          refine allowed_record hv ⟨rely_mem hxv hmem, fun w' generation hposted => ?_⟩ (by simp) ?_
          · exact hfirst w' generation (hxv.2 _ _ hmem w' generation hposted)
          · intro w' planId generation heq
            cases heq
            rfl
        have hsent : ∀ z, (guardShared W digest).rely w (v.record _) z → Started z.log lease :=
          fun z hz => ⟨w, lease.generation,
            rely_mem hz (hallowed.2.1.log.subset (rely_mem hxv hmem))⟩
        refine ⟨hallowed, ?_⟩
        cases sent <;> exact fun z hz _ _ _ _ _ => hsent z hz

theorem stopRunning_safe : Safe (guardShared W digest) w (stopRunning context lease evidence) s := by
  unfold stopRunning hitFailpoint
  split
  · exact fun _ _ _ => trivial
  · show Safe (guardShared W digest) w (deactivateWithFinalPermit lease >>=
      settleStop context lease evidence) s
    exact safe_bind deactivate_wp fun write t _ hwrite => settleStop_safe hwrite

/-- A lease that carries a marker has it in the log. -/
def Truthful (log : List (GuardEvent W)) (lease : OzonGuardStopLease) : Prop :=
  lease.writeStartedAt.isSome → Started log lease

theorem reconcile_safe (h : Truthful s.log lease) :
    Safe (guardShared W digest) w (reconcileLeasedStop context lease evidence) s := by
  intro t hst ht running u hread
  obtain ⟨hu, hlog⟩ := campaignIsRunning_allowed ht hread
  refine ⟨hu, ?_⟩
  rcases running with error | _ | _
  · exact retainStop_safe
  · refine confirmStop_safe ?_
    rw [hlog false rfl]
    exact List.mem_append_right _ List.mem_cons_self
  · intro v huv hv recorded x hrecord
    have hx := recordReadback_allowed hv hrecord
    refine ⟨hx, ?_⟩
    cases recorded with
    | error error => exact fun _ _ _ => trivial
    | ok _ =>
      show Safe (guardShared W digest) w (stopUnlessStarted context lease evidence) x
      unfold stopUnlessStarted
      split
      · rename_i hstarted
        obtain ⟨w', generation, hmem⟩ := h hstarted
        have hsupport := supports_incident ⟨w', generation, rely_mem hst hmem⟩ (hlog true rfl)
          "stop_write_unconfirmed"
        exact markIncident_safe ((hsupport.mono huv.1.log).mono hx.2.1.log)
      · exact stopRunning_safe

theorem reconcileIsolated_safe (h : Truthful s.log lease) :
    Safe (guardShared W digest) w (reconcileIsolated context lease evidence) s :=
  safe_seq (safe_attempt (reconcile_safe h)) fun _ _ _ => safe_ofExcept _

theorem claimStopRecovery_truthful {t : GuardWorld W} {accountId workerId : String}
    (hs : GuardInv s) (h : (guardShared W digest).answers w s
      (.claimStopRecovery accountId workerId) (.ok (some lease)) t) : Truthful s.log lease := by
  obtain ⟨selected, h⟩ := h
  obtain ⟨now, db, hop, -⟩ := Transaction.ok h
  rcases claimGuardStopRecovery_ok hop with
    ⟨-, hnone⟩ | ⟨planId, row, columns, lease', rfl, hrow, -, hlease, hplan, hstarted, -⟩
  · cases hnone
  · cases hlease
    intro hsome
    rw [hstarted] at hsome
    unfold Started
    rw [hplan, hs.keyed planId row hrow]
    exact (hs.marker planId).mpr ⟨row, hrow, hsome⟩

theorem recoverStops_safe (count : ℕ) :
    Safe (guardShared W digest) w (recoverStops context count) s := by
  induction count generalizing s with
  | zero => exact fun _ _ _ => trivial
  | succ count ih =>
    intro t hst ht claimed u hclaim
    have hu := claimStopRecovery_allowed ht hclaim
    refine ⟨hu, ?_⟩
    rcases claimed with error | _ | lease
    · exact fun _ _ _ => trivial
    · exact fun _ _ _ => trivial
    · have htruthful := claimStopRecovery_truthful ht hclaim
      show Safe (guardShared W digest) w (.ofExcept (leaseEvidence lease) >>= fun evidence => do
        reconcileIsolated context lease evidence
        recoverStops context count) u
      cases leaseEvidence lease with
      | error error => exact fun _ _ _ => trivial
      | ok evidence =>
        show Safe (guardShared W digest) w (reconcileIsolated context lease evidence >>= fun _ =>
          recoverStops context count) u
        refine safe_seq (reconcileIsolated_safe fun hsome => ?_) fun _ _ _ => ih
        obtain ⟨w', generation, hmem⟩ := htruthful hsome
        exact ⟨w', generation, hu.2.1.log.subset hmem⟩

theorem enforceDecision_safe {guard : OzonCampaignGuard} {reason : Option String} :
    Safe (guardShared W digest) w (enforceDecision context guard evidence reason) s := by
  cases reason with
  | none =>
    cases evidence with
    | none => exact fun _ _ _ => trivial
    | some metrics =>
      intro t hst ht recorded u hrecord
      refine ⟨recordObservation_allowed ht hrecord, ?_⟩
      cases recorded <;> exact fun _ _ _ => trivial
  | some reason =>
    intro t hst ht claimed u hclaim
    refine ⟨claimStop_allowed ht hclaim, ?_⟩
    cases claimed with
    | error error => exact fun _ _ _ => trivial
    | ok lease =>
      show Safe (guardShared W digest) w (hitFailpoint context .afterStopClaim >>= fun _ =>
        reconcileIsolated context lease evidence) u
      unfold hitFailpoint
      split
      · exact fun _ _ _ => trivial
      · refine reconcileIsolated_safe fun hsome => ?_
        obtain ⟨now, db, hop, -⟩ := Transaction.ok hclaim
        rw [(claimGuardStopLeased_ok hop).2.1] at hsome
        cases hsome

theorem scanGuards_safe {observedAt : ℤ} (guards : List OzonCampaignGuard) :
    Safe (guardShared W digest) w (scanGuards context observedAt guards) s := by
  induction guards generalizing s with
  | nil => exact fun _ _ _ => trivial
  | cons guard guards ih =>
    refine safe_seq ?_ fun _ _ _ => ih
    intro t hst ht metrics u hread
    obtain rfl : u = t := hread
    exact ⟨.refl w ht, enforceDecision_safe⟩

/-- **A guard cycle is safe** among any other workers. -/
theorem runDurableOzonGuardCycle_safe :
    Safe (guardShared W digest) w (runDurableOzonGuardCycle context) s := by
  refine safe_seq (recoverStops_safe _) fun _ t _ => ?_
  intro u htu hu observedAt v hnow
  obtain rfl : v = u := hnow
  refine ⟨.refl w hu, ?_⟩
  intro x hvx hx guards y hlist
  obtain rfl : y = x := hlist.1
  refine ⟨.refl w hx, ?_⟩
  cases guards with
  | error error => exact fun _ _ _ => trivial
  | ok guards => exact scanGuards_safe guards

end Programs

/-! ## Every run -/

section Runs

variable [DecidableEq W] {digest : TokenDigest} {s t : GuardWorld W}

/-- The pools of guard workers that start in an empty store. -/
def guardSystem (W : Type) [DecidableEq W] (digest : TokenDigest) : Transition.System
    (Pool (GuardWorld W) W GuardCall GuardCall.Answer OzonGuardWorkflowError Unit) :=
  Pool.system (guardShared W digest) GuardEnvironment
    (fun program => ∃ context, program = runDurableOzonGuardCycle context) GuardWorld.Fresh

omit [DecidableEq W] in
theorem GuardEnvironment.inv (h : GuardEnvironment s t) (hs : GuardInv s) : GuardInv t where
  keyed planId row hrow := by
    rcases h.rows planId with hsame | ⟨-, terms, hplan, hnew⟩
    · exact hs.keyed planId row (hsame ▸ hrow)
    · rw [hnew] at hrow
      cases hrow
      exact hplan
  marker planId := by
    rw [h.log, hs.marker planId]
    rcases h.rows planId with hsame | ⟨hnone, terms, -, hnew⟩
    · rw [hsame]
    · simp [hnone, hnew, GuardTerms.newRow]
  stopped planId row hrow hstatus := by
    rw [h.log]
    rcases h.rows planId with hsame | ⟨-, terms, -, hnew⟩
    · exact hs.stopped planId row (hsame ▸ hrow) hstatus
    · rw [hnew] at hrow
      cases hrow
      cases hstatus
  incident planId row hrow hstatus := by
    rw [h.log]
    rcases h.rows planId with hsame | ⟨-, terms, -, hnew⟩
    · exact hs.incident planId row (hsame ▸ hrow) hstatus
    · rw [hnew] at hrow
      cases hrow
      cases hstatus
  orderly := h.log ▸ hs.orderly

omit [DecidableEq W] in
theorem GuardEnvironment.evolves (h : GuardEnvironment s t) : GuardEvolves s t where
  log := h.log ▸ List.prefix_rfl
  rows planId row hrow := by
    rcases h.rows planId with hsame | ⟨hnone, -⟩
    · exact ⟨row, hsame ▸ hrow, .refl row⟩
    · rw [hnone] at hrow
      cases hrow

omit [DecidableEq W] in
theorem guard_sound : Pool.Sound (guardShared W digest) GuardEnvironment
    (fun program => ∃ context, program = runDurableOzonGuardCycle context) where
  acts s t hs h := ⟨h.inv hs, h.evolves, fun _ _ _ _ _ _ hposted => h.log ▸ hposted⟩
  starts program hprogram w s _ := by
    obtain ⟨context, rfl⟩ := hprogram
    exact runDurableOzonGuardCycle_safe

theorem guard_ok {P : Pool (GuardWorld W) W GuardCall GuardCall.Answer OzonGuardWorkflowError Unit}
    (h : Transition.Reachable (guardSystem W digest) P) : Pool.Ok (guardShared W digest) P := by
  refine Pool.safe guard_sound (fun s hs => ?_) h
  have hlog : ∀ event, event ∉ s.log := by simp [hs.2]
  refine ⟨fun planId row hrow => ?_, fun planId => ?_, fun planId row hrow => ?_,
    fun planId row hrow => ?_, hs.2 ▸ orderly_nil⟩
  · rw [hs.1 planId] at hrow
    cases hrow
  · simp [hs.1 planId, hlog]
  · rw [hs.1 planId] at hrow
    cases hrow
  · rw [hs.1 planId] at hrow
    cases hrow

/-- The lease under which a command reaches the store. -/
def GuardCall.lease? : GuardCall → Option OzonGuardStopLease
  | .finishStop lease _ => some lease
  | .markIncident lease _ _ => some lease
  | .recordReadback lease _ => some lease
  | .campaignIsRunning lease => some lease
  | .prepareWrite lease => some lease
  | .startGuardStopWrite lease => some lease
  | .admitWrite lease => some lease
  | .deactivate lease => some lease
  | _ => none

omit [DecidableEq W] in
/-- A superseded lease changes nothing in the store. -/
theorem superseded_unchanged {w : W} {c : GuardCall} {answer : c.Answer} {lease : OzonGuardStopLease}
    {row : GuardRow} (hlease : c.lease? = some lease)
    (hrow : s.db.guards lease.guard.planId = some row)
    (hsuperseded : lease.generation ≠ row.stopGeneration)
    (h : guardAnswers digest w s c answer t) : t.db = s.db := by
  have hfence : ∀ now, row.fencedBy now lease = false := fun now => by
    rw [Bool.eq_false_iff]
    exact fun hfenced => hsuperseded (row.of_fencedBy hfenced).2.2.symm
  have hfinish : ∀ outcome spendMinor revenueMinor now db u, finishGuardLease s.db now lease outcome
      spendMinor revenueMinor = .ok (db, u) → db = s.db := by
    intro outcome spendMinor revenueMinor now db u hop
    rcases finishGuardLease_ok hop with rfl | ⟨row', hrow', hfenced, -⟩
    · rfl
    · rw [hrow] at hrow'
      cases hrow'
      rw [hfence] at hfenced
      cases hfenced
  cases c <;> cases hlease
  case finishStop => exact Transaction.elim (P := fun t => t.db = s.db) h rfl (hfinish _ _ _)
  case markIncident => exact Transaction.elim (P := fun t => t.db = s.db) h rfl (hfinish _ _ _)
  case recordReadback =>
    exact Transaction.elim (P := fun t => t.db = s.db) h rfl fun _ _ _ => recordGuardStopReadback_ok
  case startGuardStopWrite =>
    refine Transaction.elim (P := fun t => t.db = s.db) h rfl fun now db a hop => ?_
    obtain ⟨row', hrow', hfenced, -⟩ := startGuardStopWrite_ok hop
    rw [hrow] at hrow'
    cases hrow'
    rw [hfence] at hfenced
    cases hfenced
  case campaignIsRunning =>
    cases answer with
    | error error => exact congrArg GuardWorld.db h
    | ok running =>
      obtain rfl : t = s.record _ := h
      rfl
  case deactivate =>
    obtain rfl : t = s.record _ := h
    rfl
  all_goals exact congrArg GuardWorld.db h

/-- **A stop is sent at most once and its evidence is true.** In every reachable pool: a guard has at
most one request, sent by the worker that committed its marker, under the same generation; a stopped
guard was read back as not running, and an incident as running after its marker, under the generation
of the row; the evidence of a claimed stop never changes; a superseded lease changes no row. -/
theorem guard_stop_protocol
    (P : Pool (GuardWorld W) W GuardCall GuardCall.Answer OzonGuardWorkflowError Unit)
    (h : Transition.Reachable (guardSystem W digest) P) :
    (∀ planId, P.shared.log.countP (GuardEvent.isPosted planId) ≤ 1) ∧
    (∀ before w planId generation after,
      P.shared.log = before ++ .posted w planId generation :: after →
        .marked w planId generation ∈ before) ∧
    (∀ planId row, P.shared.db.guards planId = some row → row.status = .stopped →
      ∃ before after, P.shared.log = before ++ .stopped planId row.stopGeneration :: after) ∧
    (∀ before planId generation after,
      P.shared.log = before ++ .stopped planId generation :: after →
        .readback planId generation false ∈ before) ∧
    (∀ planId row, P.shared.db.guards planId = some row → row.status = .incident →
      ∃ before after, P.shared.log = before ++ .incident planId row.stopGeneration :: after) ∧
    (∀ before planId generation after,
      P.shared.log = before ++ .incident planId generation :: after → ∃ w generation',
        Precedes before (.marked w planId generation') (.readback planId generation true)) ∧
    (∀ P', Relation.ReflTransGen (guardSystem W digest).step P P' → ∀ planId row,
      P.shared.db.guards planId = some row → row.status ≠ .active → ∃ row',
        P'.shared.db.guards planId = some row' ∧ row'.status ≠ .active ∧
        row'.stopReason = row.stopReason ∧ row'.lastSpendMinor = row.lastSpendMinor ∧
        row'.lastRevenueMinor = row.lastRevenueMinor) ∧
    ∀ w c answer t lease row, guardAnswers digest w P.shared c answer t → c.lease? = some lease →
      P.shared.db.guards lease.guard.planId = some row → lease.generation ≠ row.stopGeneration →
        t.db = P.shared.db := by
  have hok := guard_ok h
  have hinv : GuardInv P.shared := hok.1
  refine ⟨hinv.countP_posted, fun before w planId generation after hlog => ?_,
    fun planId row hrow hstatus => ?_, fun before planId generation after hlog => ?_,
    fun planId row hrow hstatus => ?_, fun before planId generation after hlog => ?_,
    fun P' hrun planId row hrow hclaimed => ?_,
    fun w c answer t lease row hanswer hlease hrow hsuperseded => ?_⟩
  · exact (hinv.orderly before _ after hlog).1
  · exact List.append_of_mem (hinv.stopped planId row hrow hstatus)
  · exact hinv.orderly before _ after hlog
  · exact List.append_of_mem (hinv.incident planId row hrow hstatus)
  · exact hinv.orderly before _ after hlog
  · have hevolves : GuardEvolves P.shared P'.shared := Pool.evolves_of_run guard_sound hok hrun
    obtain ⟨row', hrow', hmove⟩ := hevolves.rows planId row hrow
    exact ⟨row', hrow', hmove.claimed hclaimed, hmove.evidence hclaimed⟩
  · exact superseded_unchanged hlease hrow hsuperseded hanswer

/-! ## A run -/

/-- The plan of the run. -/
def runPlanId : String := "".pushn 'a' 64

/-- The policy of a run. -/
def runPolicy : PolicyRevision := ⟨1, 1, "policy"⟩

/-- The guard of a run. -/
def runTerms : GuardTerms where
  planId := runPlanId
  accountId := "ozon"
  sku := 11
  campaignId := 21
  dateFrom := "2026-09-01"
  spendCapMicrorubles := 2000000000
  targetDrrPercent := 15

/-- The plan of its campaign. -/
def runPlan : PlanRow where
  planId := runPlanId
  planDigest := runPlanId
  actorId := "actor"
  accountId := "ozon"
  sku := 11
  policy := runPolicy
  manifest := ⟨⟨"2026-09-01", 2000000000, 5000000, 15⟩, "title"⟩
  expiresAt := 0
  status := .applied
  campaignId := some 21
  lastErrorClass := none
  readback := none

/-- A database without rows. -/
def emptyDatabase : Database :=
  ⟨none, fun _ => none, fun _ => none, fun _ => none, fun _ => none, fun _ => none, fun _ => none⟩

/-- One applied plan with a new guard, and open gates. -/
def guardedDatabase : Database where
  policy := some runPolicy
  gates _ := some ⟨true, 1, none⟩
  plans := Function.update (fun _ => none) runPlanId (some runPlan)
  approvals _ := none
  reservations _ := none
  workflows _ := none
  guards := Function.update (fun _ => none) runPlanId (some runTerms.newRow)

/-- One token for every lease. -/
def runDigest : TokenDigest := fun _ _ _ _ _ => runPlanId

/-- The worker of a run. -/
def runContext : OzonGuardRunContext := ⟨"ozon", "worker-1", fun _ => false⟩

/-- The lease of the first claim at time `0`. -/
def runLease : OzonGuardStopLease where
  guard := { guardFromRow runTerms.newRow with
    status := .stopping, stopReason := some "telemetry_unavailable" }
  stopReason := "telemetry_unavailable"
  spendMinor := none
  revenueMinor := none
  generation := 1
  ownerId := "worker-1"
  leaseToken := runPlanId
  leaseExpiresAt := guardStopLeaseTtl
  writeStartedAt := none

theorem guarded_reachable : Transition.Reachable (guardSystem ℕ runDigest)
    ⟨⟨guardedDatabase, []⟩, Function.update (fun _ => none) 0
      (some (runDurableOzonGuardCycle runContext))⟩ := by
  have hempty : Transition.Reachable (guardSystem ℕ runDigest)
      ⟨⟨emptyDatabase, []⟩, fun _ => none⟩ := .init ⟨⟨fun _ => rfl, rfl⟩, fun _ => rfl⟩
  have hguarded : GuardEnvironment (W := ℕ) ⟨emptyDatabase, []⟩ ⟨guardedDatabase, []⟩ := by
    refine ⟨rfl, fun planId => ?_⟩
    by_cases hplan : planId = runPlanId
    · subst hplan
      exact .inr ⟨rfl, runTerms, rfl, rfl⟩
    · refine .inl ?_
      show Function.update (fun _ => none) runPlanId (some runTerms.newRow) planId = none
      rw [Function.update_of_ne hplan]
  exact (hempty.step (Pool.Step.environment hguarded)).step (Pool.Step.spawn 0 _ ⟨runContext, rfl⟩)

theorem stop_reachable : ∃ P, Transition.Reachable (guardSystem ℕ runDigest) P ∧
    .posted 0 runPlanId 1 ∈ P.shared.log ∧ .stopped runPlanId 1 ∈ P.shared.log := by
  refine Pool.reachable_of_may (R := fun s => .posted 0 runPlanId 1 ∈ s.log ∧
    .stopped runPlanId 1 ∈ s.log) guarded_reachable (Function.update_self ..) ?_
  refine ⟨.ok none, _, ⟨none, .acknowledged 0 rfl⟩, ?_⟩
  refine ⟨(0 : ℤ), _, rfl, ?_⟩
  refine ⟨.ok [guardFromRow runTerms.newRow], _, ⟨rfl, .inl ⟨[runPlanId], rfl⟩⟩, ?_⟩
  refine ⟨.error .telemetry, _, rfl, ?_⟩
  refine ⟨.ok runLease, _, .acknowledged 0 rfl, ?_⟩
  refine ⟨.ok true, _, rfl, ?_⟩
  refine ⟨.ok (), _, .acknowledged 0 rfl, ?_⟩
  refine ⟨.ok (), _, rfl, ?_⟩
  refine ⟨.ok (), _, .acknowledged 0 rfl, ?_⟩
  refine ⟨.ok (), _, rfl, ?_⟩
  refine ⟨.ok (), _, rfl, ?_⟩
  refine ⟨.ok false, _, rfl, ?_⟩
  refine ⟨.ok (), _, .acknowledged 0 rfl, ?_⟩
  refine ⟨.ok (), _, .acknowledged 0 rfl, ?_⟩
  exact ⟨.tail _ (.tail _ (.head _)), .tail _ (.tail _ (.tail _ (.tail _ (.head _))))⟩

/-- In that run the request follows the marker of its worker, and the stop its readback. -/
theorem guard_stop_protocol_stopped : ∃ P, Transition.Reachable (guardSystem ℕ runDigest) P ∧
    P.shared.log.countP (GuardEvent.isPosted runPlanId) = 1 ∧
    .marked 0 runPlanId 1 ∈ P.shared.log ∧ .readback runPlanId 1 false ∈ P.shared.log := by
  obtain ⟨P, hreach, hposted, hstopped⟩ := stop_reachable
  obtain ⟨hcount, hmarked, -, hread, -⟩ := guard_stop_protocol P hreach
  obtain ⟨before, after, hlog⟩ := List.append_of_mem hposted
  obtain ⟨before', after', hlog'⟩ := List.append_of_mem hstopped
  have hpos : 0 < P.shared.log.countP (GuardEvent.isPosted runPlanId) :=
    List.countP_pos_iff.mpr ⟨_, hposted, GuardEvent.isPosted_iff.mpr ⟨_, _, rfl⟩⟩
  refine ⟨P, hreach, Nat.le_antisymm (hcount runPlanId) hpos, ?_, ?_⟩
  · rw [hlog]
    exact List.mem_append_left _ (hmarked before 0 runPlanId 1 after hlog)
  · rw [hlog']
    exact List.mem_append_left _ (hread before' runPlanId 1 after' hlog')

end Runs

end AdsControl.Ozon
